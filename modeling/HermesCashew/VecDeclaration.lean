import HermesCashew.PythonInt

/-!
# The declaration of the vec table

The repair of the stored embeddings and `verify_readonly_profile` look for the dimension in
the text of the declaration, each with a pattern of its own.
-/

namespace HermesCashew.VecDeclaration

open HermesCashew.PythonInt

set_option autoImplicit false

/-- `\d`. -/
def isDecimal (decimal : Decimals) (char : Char) : Bool :=
  (toAscii decimal char).isDigit

/-- The characters that a letter of a pattern matches under `re.IGNORECASE`. -/
def variants (letter : Char) : List Char :=
  if letter = 'i' then ['i', 'I', 'ı', 'İ'] else [letter, letter.toUpper]

def keyword : List Char → List Char → Option (List Char)
  | [], text => some text
  | _ :: _, [] => none
  | letter :: word, char :: text =>
      if char ∈ variants letter then keyword word text else none

/-- `(\d+)`, with what is behind it. -/
def number (decimal : Decimals) (text : List Char) : Option (List Char × List Char) :=
  let digits := text.takeWhile (isDecimal decimal)
  if digits = [] then none else some (digits, text.dropWhile (isDecimal decimal))

/-- `float\[(\d+)\]` at the start of the text. -/
def floatHere (decimal : Decimals) (text : List Char) : Option (List Char) := do
  let afterWord ← keyword ['f', 'l', 'o', 'a', 't', '['] text
  let (digits, afterNumber) ← number decimal afterWord
  let _ ← keyword [']'] afterNumber
  some digits

/-- `(?:float|int8)\s*\[\s*(\d+)\s*\]` at the start of the text. -/
def vectorHere (decimal : Decimals) (text : List Char) : Option (List Char) := do
  let afterWord ← (keyword ['f', 'l', 'o', 'a', 't'] text).orElse
    fun _ => keyword ['i', 'n', 't', '8'] text
  let inside ← keyword ['['] (afterWord.dropWhile isSpace)
  let (digits, afterNumber) ← number decimal (inside.dropWhile isSpace)
  let _ ← keyword [']'] (afterNumber.dropWhile isSpace)
  some digits

/-- `re.search`. -/
def search (here : List Char → Option (List Char)) : List Char → Option (List Char)
  | [] => here []
  | char :: text => (here (char :: text)).orElse fun _ => search here text

def place (here : List Char → Option (List Char)) : List Char → Option (List Char)
  | [] => if here [] = none then none else some []
  | char :: text => if here (char :: text) = none then place here text else some (char :: text)

/-! ## Where a pattern matches -/

theorem search_eq_place (here : List Char → Option (List Char)) (text : List Char) :
    search here text = (place here text).bind here := by
  induction text with
  | nil =>
      cases found : here [] with
      | none => simp [search, place, found]
      | some digits => simp [search, place, found]
  | cons char text ih =>
      cases found : here (char :: text) with
      | none => simpa [search, place, found] using ih
      | some digits => simp [search, place, found]

/-- A narrower pattern that matches where the wider one matches first finds the same digits. -/
theorem search_of_narrower {narrow wide : List Char → Option (List Char)}
    (within : ∀ text digits, narrow text = some digits → wide text = some digits)
    {column digits : List Char} (reads : narrow column = some digits) :
    ∀ text, place wide text = some column → search narrow text = some digits
  | [], first => by
      simp only [place] at first
      split_ifs at first
      obtain rfl := Option.some.inj first
      exact reads
  | char :: text, first => by
      simp only [place] at first
      split_ifs at first with missed
      · have unread : narrow (char :: text) = none := by
          cases found : narrow (char :: text) with
          | none => rfl
          | some other =>
              rw [within _ _ found] at missed
              cases missed
        simpa [search, unread] using search_of_narrower within reads text first
      · obtain rfl := Option.some.inj first
        simp [search, reads]

theorem keyword_append (first second text : List Char) :
    keyword (first ++ second) text = (keyword first text).bind (keyword second) := by
  induction first generalizing text with
  | nil => rfl
  | cons letter word ih =>
      cases text with
      | nil => rfl
      | cons char text =>
          simp only [List.cons_append, keyword]
          split_ifs
          · exact ih text
          · rfl

theorem keyword_bracket {bracket : Char} (only : variants bracket = [bracket, bracket])
    {text after : List Char} (read : keyword [bracket] text = some after) :
    text = bracket :: after := by
  cases text with
  | nil => cases read
  | cons char text =>
      simp only [keyword, only] at read
      split_ifs at read with same
      obtain rfl := Option.some.inj read
      have : char = bracket := by simpa using same
      rw [this]

theorem is_space_of_decimal {decimal : Decimals} {char : Char}
    (digit : isDecimal decimal char = true) : isSpace char = false := by
  unfold isDecimal toAscii at digit
  split_ifs at digit with ascii space
  · have bounds := digit_bounds digit
    simp only [isSpace, Bool.or_eq_false_iff, Bool.and_eq_false_iff, decide_eq_false_iff_not,
      beq_eq_false_iff_ne]
    omega
  · simp at digit
  · simpa using space

/-! ## The narrower pattern -/

theorem drop_while_of_head {char : Char} {text : List Char} (kept : isSpace char = false) :
    (char :: text).dropWhile isSpace = char :: text := by
  rw [List.dropWhile_cons, kept]
  rfl

theorem number_head {decimal : Decimals} {text digits after : List Char}
    (read : number decimal text = some (digits, after)) :
    ∃ char rest, text = char :: rest ∧ isDecimal decimal char = true := by
  cases text with
  | nil => simp [number] at read
  | cons char rest =>
      cases digit : isDecimal decimal char with
      | true => exact ⟨char, rest, rfl, digit⟩
      | false => simp [number, digit] at read

/-- `float[n]` is one of the ways in which the wider pattern reads a column. -/
theorem vector_of_float {decimal : Decimals} {text digits : List Char}
    (found : floatHere decimal text = some digits) : vectorHere decimal text = some digits := by
  have parts : keyword ['f', 'l', 'o', 'a', 't', '['] text =
      (keyword ['f', 'l', 'o', 'a', 't'] text).bind (keyword ['[']) :=
    keyword_append ['f', 'l', 'o', 'a', 't'] ['['] text
  simp only [floatHere, parts, Option.bind_eq_bind, Option.bind_eq_some_iff, Prod.exists,
    Option.some.injEq] at found
  obtain ⟨inside, ⟨afterWord, word, bracket⟩, read_digits, afterNumber, read, after, closing,
    same⟩ := found
  have opened : afterWord.dropWhile isSpace = afterWord := by
    rw [keyword_bracket rfl bracket]
    exact drop_while_of_head rfl
  have starts : inside.dropWhile isSpace = inside := by
    obtain ⟨char, rest, rfl, digit⟩ := number_head read
    exact drop_while_of_head (is_space_of_decimal digit)
  have ends : afterNumber.dropWhile isSpace = afterNumber := by
    rw [keyword_bracket rfl closing]
    exact drop_while_of_head rfl
  simp [vectorHere, word, opened, bracket, starts, read, ends, closing, same]

end HermesCashew.VecDeclaration
