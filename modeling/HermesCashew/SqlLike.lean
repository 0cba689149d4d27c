import Mathlib.Data.List.Infix

/-!
# Patterns of `LIKE`

A pattern is a text in which one character stands for any sequence and another for any
single character; the others match what has the same folding. There is no escape
character. No text and no pattern here has a NUL, at which SQLite may stop to read.
-/

namespace HermesCashew.SqlLike

set_option autoImplicit false

structure Alphabet (Point : Type) where
  sequence : Point
  single : Point
  fold : Point → Point

variable {Point : Type} [DecidableEq Point] (alphabet : Alphabet Point)

/-- `text LIKE pattern`. -/
def like : List Point → List Point → Bool
  | [], text => text.isEmpty
  | token :: pattern, text =>
      if token = alphabet.sequence then text.tails.any (like pattern)
      else
        text.head?.any (fun point =>
            token = alphabet.single || alphabet.fold token = alphabet.fold point) &&
          like pattern text.tail

/-- `%part%`. -/
def surround (part : List Point) : List Point :=
  alphabet.sequence :: (part ++ [alphabet.sequence])

variable {alphabet}

theorem like_sequence {pattern text rest : List Point} (suffix : rest <:+ text)
    (matched : like alphabet pattern rest = true) :
    like alphabet (alphabet.sequence :: pattern) text = true := by
  rw [like, if_pos rfl]
  exact List.any_eq_true.mpr ⟨rest, (List.mem_tails rest text).mpr suffix, matched⟩

/-- A text matches itself, whatever its characters mean in a pattern. -/
theorem like_self {part pattern text : List Point} (matched : like alphabet pattern text = true) :
    like alphabet (part ++ pattern) (part ++ text) = true := by
  induction part with
  | nil => exact matched
  | cons point part induction =>
      by_cases sequence : point = alphabet.sequence
      · rw [sequence]
        exact like_sequence (List.suffix_cons _ _) induction
      · rw [List.cons_append, List.cons_append, like, if_neg sequence]
        simp only [List.head?_cons, List.tail_cons, Option.any_some, decide_true, Bool.or_true,
          Bool.true_and, induction]

/-- `LIKE '%part%'` is at least the search for a part. -/
theorem like_surround {part text : List Point} (inside : part <:+: text) :
    like alphabet (surround alphabet part) text = true := by
  obtain ⟨before, after, rfl⟩ := inside
  have rest : like alphabet [alphabet.sequence] after = true :=
    like_sequence (List.nil_suffix) rfl
  rw [surround, List.append_assoc]
  exact like_sequence (List.suffix_append before (part ++ after)) (like_self rest)

end HermesCashew.SqlLike
