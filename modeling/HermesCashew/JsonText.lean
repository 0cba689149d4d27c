import Mathlib.Algebra.GroupWithZero.Nat
import Mathlib.Data.List.Basic
import Mathlib.Data.List.TakeWhile

/-!
# Strings and numbers in JSON texts

How `json.dumps` writes a string and `json.loads` reads it, and what a number looks like.
A string is a list of code points, lone surrogates included.
-/

namespace HermesCashew.JsonText

set_option autoImplicit false

instance codePoints_ne_zero : NeZero 0x110000 :=
  ⟨nofun⟩

abbrev CodePoint := Fin 0x110000

/-- A Python `str`. -/
abbrev Str := List CodePoint

instance str_lawful_beq : LawfulBEq Str :=
  List.instLawfulBEq

def codePoint (char : Char) : CodePoint :=
  Fin.ofNat 0x110000 char.toNat

def str (text : String) : Str :=
  text.toList.map codePoint

inductive NumeralState where
  | start
  | minus
  | zero
  | whole
  | point
  | fraction
  | exponentMark
  | exponentSign
  | exponent
  deriving DecidableEq, Repr

def NumeralState.advance (state : NumeralState) (char : Char) : Option NumeralState :=
  match state with
  | .start =>
      if char = '-' then some .minus
      else if char = '0' then some .zero
      else if char.isDigit then some .whole
      else none
  | .minus =>
      if char = '0' then some .zero else if char.isDigit then some .whole else none
  | .zero =>
      if char = '.' then some .point
      else if char = 'e' ∨ char = 'E' then some .exponentMark
      else none
  | .whole =>
      if char.isDigit then some .whole
      else if char = '.' then some .point
      else if char = 'e' ∨ char = 'E' then some .exponentMark
      else none
  | .point => if char.isDigit then some .fraction else none
  | .fraction =>
      if char.isDigit then some .fraction
      else if char = 'e' ∨ char = 'E' then some .exponentMark
      else none
  | .exponentMark =>
      if char = '+' ∨ char = '-' then some .exponentSign
      else if char.isDigit then some .exponent
      else none
  | .exponentSign => if char.isDigit then some .exponent else none
  | .exponent => if char.isDigit then some .exponent else none

def NumeralState.complete : NumeralState → Bool
  | .zero | .whole | .fraction | .exponent => true
  | _ => false

def readNumeral : NumeralState → List Char → Bool
  | state, [] => state.complete
  | state, char :: rest =>
      match state.advance char with
      | some next => readNumeral next rest
      | none => false

structure Numeral where
  text : List Char
  wellFormed : readNumeral .start text = true

def isHigh (unit : CodePoint) : Bool :=
  0xd800 ≤ unit.val && unit.val < 0xdc00

def isLow (unit : CodePoint) : Bool :=
  0xdc00 ≤ unit.val && unit.val < 0xe000

def units (point : CodePoint) : List CodePoint :=
  if point.val < 0x10000 then
    [point]
  else
    [Fin.ofNat _ (0xd800 + (point.val - 0x10000) / 0x400),
      Fin.ofNat _ (0xdc00 + (point.val - 0x10000) % 0x400)]

def joinPairs : List CodePoint → Str
  | [] => []
  | [unit] => [unit]
  | high :: low :: rest =>
      if isHigh high && isLow low then
        Fin.ofNat _ (0x10000 + (high.val - 0xd800) * 0x400 + (low.val - 0xdc00)) ::
          joinPairs rest
      else
        high :: joinPairs (low :: rest)

def joined (value : Str) : Str :=
  joinPairs (value.flatMap units)

/-! ## Writing -/

def hexDigit (value : Nat) : Char :=
  if value < 10 then Char.ofNat (48 + value) else Char.ofNat (87 + value)

def simpleEscape (code : Nat) : Option Char :=
  match code with
  | 34 => some '"'
  | 92 => some '\\'
  | 10 => some 'n'
  | 13 => some 'r'
  | 9 => some 't'
  | 12 => some 'f'
  | 8 => some 'b'
  | _ => none

def escapeUnit (unit : CodePoint) : List Char :=
  match simpleEscape unit.val with
  | some char => ['\\', char]
  | none =>
      if 32 ≤ unit.val ∧ unit.val ≤ 126 then
        [Char.ofNat unit.val]
      else
        ['\\', 'u', hexDigit (unit.val / 4096 % 16), hexDigit (unit.val / 256 % 16),
          hexDigit (unit.val / 16 % 16), hexDigit (unit.val % 16)]

def escape (value : Str) : List Char :=
  (value.flatMap units).flatMap escapeUnit

def quote (value : Str) : List Char :=
  '"' :: (escape value ++ ['"'])

/-! ## Reading -/

def isSpace (char : Char) : Bool :=
  char = ' ' || char = '\n' || char = '\r' || char = '\t'

def skip (text : List Char) : List Char :=
  text.dropWhile isSpace

def isNumeralChar (char : Char) : Bool :=
  char.isDigit || char = '-' || char = '+' || char = '.' || char = 'e' || char = 'E'

def hexValue (char : Char) : Option Nat :=
  let code := char.toNat
  if 48 ≤ code ∧ code ≤ 57 then some (code - 48)
  else if 97 ≤ code ∧ code ≤ 102 then some (code - 87)
  else if 65 ≤ code ∧ code ≤ 70 then some (code - 55)
  else none

def readHex : List Char → Option (CodePoint × List Char)
  | first :: second :: third :: fourth :: rest => do
      let first ← hexValue first
      let second ← hexValue second
      let third ← hexValue third
      let fourth ← hexValue fourth
      some (Fin.ofNat _ (4096 * first + 256 * second + 16 * third + fourth), rest)
  | _ => none

def simpleUnescape (char : Char) : Option CodePoint :=
  match char with
  | '"' => some 34
  | '\\' => some 92
  | '/' => some 47
  | 'n' => some 10
  | 'r' => some 13
  | 't' => some 9
  | 'f' => some 12
  | 'b' => some 8
  | _ => none

def readEscape : List Char → Option (CodePoint × List Char)
  | [] => none
  | char :: rest =>
      if char = 'u' then readHex rest
      else (simpleUnescape char).map fun unit => (unit, rest)

def readUnit : List Char → Option (CodePoint × List Char)
  | [] => none
  | char :: rest =>
      if char = '\\' then readEscape rest
      else if char.toNat < 32 then none
      else some (codePoint char, rest)

def readUnits : Nat → List Char → Option (List CodePoint × List Char)
  | 0, _ => none
  | _ + 1, [] => none
  | fuel + 1, char :: rest =>
      if char = '"' then
        some ([], rest)
      else do
        let (unit, rest) ← readUnit (char :: rest)
        let (units, rest) ← readUnits fuel rest
        some (unit :: units, rest)

/-! ## Strings -/

theorem char_to_nat_of_nat {code : Nat} (small : code < 0xd800) :
    (Char.ofNat code).toNat = code := by
  have valid : code.isValidChar := Or.inl small
  rw [Char.ofNat, dif_pos valid]
  rfl

theorem code_point_of_nat {unit : CodePoint} (small : unit.val < 0xd800) :
    codePoint (Char.ofNat unit.val) = unit := by
  apply Fin.ext
  simp only [codePoint, char_to_nat_of_nat small, Fin.val_ofNat]
  exact Nat.mod_eq_of_lt unit.isLt

theorem hex_value_hex_digit : ∀ value < 16, hexValue (hexDigit value) = some value := by
  decide

theorem read_hex_digits {unit : CodePoint} (small : unit.val < 0x10000) (rest : List Char) :
    readHex (hexDigit (unit.val / 4096 % 16) :: hexDigit (unit.val / 256 % 16) ::
      hexDigit (unit.val / 16 % 16) :: hexDigit (unit.val % 16) :: rest) = some (unit, rest) := by
  simp only [readHex, hex_value_hex_digit _ (Nat.mod_lt _ (by decide)), bind, Option.bind_some,
    Option.some.injEq, Prod.mk.injEq, and_true]
  apply Fin.ext
  simp only [Fin.val_ofNat]
  omega

theorem simple_unescape_simple_escape {unit : CodePoint} {char : Char}
    (special : simpleEscape unit.val = some char) :
    char ≠ 'u' ∧ simpleUnescape char = some unit := by
  unfold simpleEscape at special
  split at special
  all_goals
    first
    | contradiction
    | rename_i code
      obtain rfl := Option.some.inj special
      have unit_eq : unit = Fin.ofNat _ unit.val := by simp
      rw [code] at unit_eq
      subst unit_eq
      decide

theorem escape_unit_head (unit : CodePoint) :
    ∃ char rest, escapeUnit unit = char :: rest ∧ char ≠ '"' := by
  unfold escapeUnit
  split
  · exact ⟨_, _, rfl, by decide⟩
  · rename_i ordinary
    split
    · rename_i printable
      refine ⟨_, _, rfl, ?_⟩
      intro same
      have code := congrArg Char.toNat same
      rw [char_to_nat_of_nat (by omega)] at code
      rw [code] at ordinary
      contradiction
    · exact ⟨_, _, rfl, by decide⟩

theorem read_unit_escape_unit {unit : CodePoint} (small : unit.val < 0x10000) (rest : List Char) :
    readUnit (escapeUnit unit ++ rest) = some (unit, rest) := by
  unfold escapeUnit
  split
  · rename_i char special
    obtain ⟨not_hex, unescaped⟩ := simple_unescape_simple_escape special
    simp [readUnit, readEscape, not_hex, unescaped]
  · rename_i ordinary
    split
    · rename_i printable
      have not_escape : Char.ofNat unit.val ≠ '\\' := by
        intro same
        have code := congrArg Char.toNat same
        rw [char_to_nat_of_nat (by omega)] at code
        rw [code] at ordinary
        contradiction
      have not_control : ¬ (Char.ofNat unit.val).toNat < 32 := by
        rw [char_to_nat_of_nat (by omega)]
        omega
      simp only [List.cons_append, List.nil_append, readUnit, not_escape, not_control, if_false,
        code_point_of_nat (show unit.val < 0xd800 by omega)]
    · simp only [List.cons_append, List.nil_append, readUnit, readEscape, if_true,
        read_hex_digits small]

theorem read_units_escaped (values : List CodePoint) (rest : List Char) :
    ∀ fuel, (values.flatMap escapeUnit).length < fuel →
      (∀ unit ∈ values, unit.val < 0x10000) →
      readUnits fuel (values.flatMap escapeUnit ++ '"' :: rest) = some (values, rest) := by
  induction values with
  | nil =>
      intro fuel enough small
      obtain ⟨fuel, rfl⟩ := Nat.exists_eq_succ_of_ne_zero (Nat.ne_of_gt enough)
      simp [readUnits]
  | cons unit values inductive_hypothesis =>
      intro fuel enough small
      obtain ⟨fuel, rfl⟩ := Nat.exists_eq_succ_of_ne_zero (Nat.ne_of_gt (Nat.zero_lt_of_lt enough))
      obtain ⟨char, tail, escaped, not_quote⟩ := escape_unit_head unit
      have read := read_unit_escape_unit (small unit (by simp))
        (values.flatMap escapeUnit ++ '"' :: rest)
      have remaining := inductive_hypothesis fuel
        (by simp only [List.flatMap_cons, escaped, List.length_append, List.length_cons] at enough
            omega)
        (fun other member => small other (by simp [member]))
      rw [escaped] at read
      simp only [List.flatMap_cons, List.append_assoc, escaped, List.cons_append, readUnits,
        not_quote, if_false]
      simp only [List.cons_append] at read
      simp only [read, remaining, bind, Option.bind_some]

theorem units_small (value : Str) : ∀ unit ∈ value.flatMap units, unit.val < 0x10000 := by
  intro unit member
  obtain ⟨point, -, member⟩ := List.mem_flatMap.mp member
  have bound := point.isLt
  unfold units at member
  split at member
  · obtain rfl := List.mem_singleton.mp member
    assumption
  · simp only [List.mem_cons, List.not_mem_nil, or_false] at member
    rcases member with rfl | rfl <;> simp only [Fin.val_ofNat] <;> omega

/-! ## Numbers -/

theorem advance_numeral_char {state next : NumeralState} {char : Char}
    (advanced : state.advance char = some next) : isNumeralChar char = true := by
  by_cases zero : char = '0'
  · subst zero
    decide
  · unfold NumeralState.advance at advanced
    unfold isNumeralChar
    split at advanced <;> grind

theorem read_numeral_chars {text : List Char} {state : NumeralState}
    (wellFormed : readNumeral state text = true) : ∀ char ∈ text, isNumeralChar char = true := by
  induction text generalizing state with
  | nil => simp
  | cons head rest inductive_hypothesis =>
      unfold readNumeral at wellFormed
      split at wellFormed
      · rename_i next advanced
        intro char member
        rcases List.mem_cons.mp member with rfl | member
        · exact advance_numeral_char advanced
        · exact inductive_hypothesis wellFormed char member
      · contradiction

theorem read_numeral_digits {text : List Char} (digits : ∀ char ∈ text, char.isDigit = true) :
    readNumeral .whole text = true := by
  induction text with
  | nil => rfl
  | cons head rest inductive_hypothesis =>
      simp only [readNumeral, NumeralState.advance, digits head (by simp), if_true]
      exact inductive_hypothesis fun char member => digits char (by simp [member])

theorem to_digits_head (value : Nat) (positive : 0 < value) :
    ∃ char rest, Nat.toDigits 10 value = char :: rest ∧ char ≠ '0' := by
  induction value using Nat.strongRecOn with
  | ind value inductive_hypothesis =>
      by_cases small : value < 10
      · rw [Nat.toDigits_of_lt_base small]
        refine ⟨_, _, rfl, ?_⟩
        revert positive
        exact (by decide : ∀ value < 10, 0 < value → Nat.digitChar value ≠ '0') value small
      · obtain ⟨char, rest, digits, not_zero⟩ :=
          inductive_hypothesis (value / 10) (by omega) (by omega)
        rw [Nat.toDigits_of_base_le (by decide) (by omega), digits]
        exact ⟨char, rest ++ _, rfl, not_zero⟩

theorem read_numeral_to_digits (value : Nat) :
    readNumeral .start (Nat.toDigits 10 value) = true := by
  rcases Nat.eq_zero_or_pos value with rfl | positive
  · decide
  · obtain ⟨char, rest, digits, not_zero⟩ := to_digits_head value positive
    have all : ∀ char ∈ Nat.toDigits 10 value, char.isDigit = true :=
      fun _ member => Nat.isDigit_of_mem_toDigits (by decide) (by decide) member
    rw [digits] at all ⊢
    have head := all char (by simp)
    have not_minus : char ≠ '-' := by
      rintro rfl
      simp at head
    simp only [readNumeral, NumeralState.advance, not_minus, not_zero, head, if_true, if_false]
    exact read_numeral_digits fun other member => all other (by simp [member])

theorem numeral_head (numeral : Numeral) :
    ∃ char rest, numeral.text = char :: rest ∧ (char = '-' ∨ char.isDigit = true) := by
  obtain ⟨text, wellFormed⟩ := numeral
  cases text with
  | nil => contradiction
  | cons char rest =>
      refine ⟨char, rest, rfl, ?_⟩
      simp only [readNumeral, NumeralState.advance] at wellFormed
      by_cases minus : char = '-'
      · exact Or.inl minus
      · by_cases zero : char = '0'
        · subst zero
          decide
        · by_cases digit : char.isDigit = true
          · exact Or.inr digit
          · simp [minus, zero, digit] at wellFormed

/-- What may follow a value: nothing that would lengthen a number. -/
def Stops (rest : List Char) : Prop :=
  ∀ char ∈ rest.head?, isNumeralChar char = false

theorem take_while_stops {text rest : List Char}
    (all : ∀ char ∈ text, isNumeralChar char = true) (stops : Stops rest) :
    (text ++ rest).takeWhile isNumeralChar = text := by
  rw [List.takeWhile_append_of_pos all]
  cases rest with
  | nil => simp
  | cons char rest => simp [stops char (by simp)]

theorem drop_while_stops {text rest : List Char}
    (all : ∀ char ∈ text, isNumeralChar char = true) (stops : Stops rest) :
    (text ++ rest).dropWhile isNumeralChar = rest := by
  rw [List.dropWhile_append_of_pos all]
  cases rest with
  | nil => simp
  | cons char rest => simp [stops char (by simp)]

theorem digit_not_mark {char : Char} (lead : char = '-' ∨ char.isDigit = true) :
    isSpace char = false ∧ char ≠ '"' ∧ char ≠ '[' ∧ char ≠ ']' ∧ char ≠ '{' := by
  refine ⟨?_, ?_, ?_, ?_, ?_⟩
  · rcases lead with rfl | digit
    · decide
    · by_contra space
      simp only [isSpace, Bool.not_eq_false, Bool.or_eq_true, decide_eq_true_eq] at space
      rcases space with ((rfl | rfl) | rfl) | rfl <;> simp at digit
  all_goals
    rintro rfl
    simp at lead

theorem skip_cons {char : Char} (solid : isSpace char = false) (rest : List Char) :
    skip (char :: rest) = char :: rest := by
  simp [skip, solid]

end HermesCashew.JsonText
