import Mathlib.Algebra.Ring.Nat
import Mathlib.Data.List.Basic

/-!
# Integers as text

Python's `str` of an integer and `int` of a text: spaces around it, a sign, and decimal
digits with single underscores between them. The digits may be of any script. Neither
function takes more than 4300 of them.
-/

namespace HermesCashew.PythonInt

set_option autoImplicit false

/-! ## Spaces and digits -/

/-- The characters that `str.strip` removes. -/
def isSpace (char : Char) : Bool :=
  let code := char.toNat
  (9 ≤ code && code ≤ 13) || (28 ≤ code && code ≤ 32) || code == 0x85 || code == 0xa0 ||
    code == 0x1680 || (0x2000 ≤ code && code ≤ 0x200a) || code == 0x2028 || code == 0x2029 ||
    code == 0x202f || code == 0x205f || code == 0x3000

def strip (text : List Char) : List Char :=
  ((text.dropWhile isSpace).reverse.dropWhile isSpace).reverse

/-- The decimal digits of Unicode beyond ASCII. -/
abbrev Decimals := Char → Option (Fin 10)

/-- A character as `int` and `float` see it. -/
def toAscii (decimal : Decimals) (char : Char) : Char :=
  if char.toNat < 127 then char
  else if isSpace char then ' '
  else
    match decimal char with
    | some digit => Nat.digitChar digit.val
    | none => '?'

/-- The spaces that a number may have around it, once they are ASCII. -/
def isAsciiSpace (char : Char) : Bool :=
  (9 ≤ char.toNat && char.toNat ≤ 13) || char.toNat == 32

def trim (text : List Char) : List Char :=
  ((text.dropWhile isAsciiSpace).reverse.dropWhile isAsciiSpace).reverse

def numeral (decimal : Decimals) (text : List Char) : List Char :=
  trim (text.map (toAscii decimal))

/-! ## Integers -/

/-- `sys.get_int_max_str_digits()`. -/
def maxStrDigits : Nat := 4300

/-- Digits, with `afterDigit` when the last character was one. -/
def readDigits : List Char → Bool → Nat → Option Nat
  | [], afterDigit, value => if afterDigit then some value else none
  | char :: rest, afterDigit, value =>
      if char = '_' then
        if afterDigit then readDigits rest false value else none
      else if char.isDigit then readDigits rest true (10 * value + (char.toNat - '0'.toNat))
      else none

def readSigned : List Char → Option Int
  | '-' :: digits => (readDigits digits false 0).map fun value : Nat => -(value : Int)
  | '+' :: digits => (readDigits digits false 0).map fun value : Nat => (value : Int)
  | digits => (readDigits digits false 0).map fun value : Nat => (value : Int)

/-- `int(text)`, with `none` for a `ValueError`. -/
def pyInt (decimal : Decimals) (text : String) : Option Int :=
  let number := numeral decimal text.toList
  if maxStrDigits < (number.filter Char.isDigit).length then none else readSigned number

def arabicDigits : Decimals := fun char =>
  if within : 0x660 ≤ char.toNat ∧ char.toNat < 0x66a then some ⟨char.toNat - 0x660, by omega⟩
  else none

example : pyInt arabicDigits "\u2003-\u0661_2" = some (-12) := by decide

/-- A separator is no space to `int`, unlike to `strip`. -/
example : pyInt arabicDigits "\u001c5" = none := by decide

/-- `str(value)` does not raise a `ValueError`. -/
def Printable (value : Int) : Prop :=
  (Nat.toDigits 10 value.natAbs).length ≤ maxStrDigits

instance (value : Int) : Decidable (Printable value) :=
  inferInstanceAs (Decidable (_ ≤ _))

/-- `str(value)` of a printable value. -/
def pyStr (value : Int) : String := value.repr

/-! ## A printed integer -/

def printed (char : Char) : Bool := char == '-' || char.isDigit

theorem digit_bounds {char : Char} (digit : char.isDigit = true) :
    48 ≤ char.toNat ∧ char.toNat ≤ 57 := by
  simpa [Char.isDigit, UInt32.le_iff_toNat_le] using digit

theorem printed_bounds {char : Char} (shown : printed char = true) :
    33 ≤ char.toNat ∧ char.toNat < 127 := by
  unfold printed at shown
  rw [Bool.or_eq_true, beq_iff_eq] at shown
  rcases shown with rfl | digit
  · decide
  · have ⟨lower, upper⟩ := digit_bounds digit
    omega

theorem is_ascii_space_of_printed {char : Char} (shown : printed char = true) :
    isAsciiSpace char = false := by
  have ⟨lower, _⟩ := printed_bounds shown
  simp only [isAsciiSpace, Bool.or_eq_false_iff, Bool.and_eq_false_iff, decide_eq_false_iff_not,
    beq_eq_false_iff_ne]
  omega

theorem drop_while_printed {text : List Char} (shown : ∀ char ∈ text, printed char = true) :
    text.dropWhile isAsciiSpace = text := by
  cases text with
  | nil => rfl
  | cons char rest => simp [is_ascii_space_of_printed (shown char (by simp))]

theorem trim_printed {text : List Char} (shown : ∀ char ∈ text, printed char = true) :
    trim text = text := by
  have backwards : ∀ char ∈ text.reverse, printed char = true := by simpa using shown
  rw [trim, drop_while_printed shown, drop_while_printed backwards, List.reverse_reverse]

/-- A printed integer is ASCII and has no spaces. -/
theorem numeral_printed (decimal : Decimals) {text : List Char}
    (shown : ∀ char ∈ text, printed char = true) : numeral decimal text = text := by
  have same : text.map (toAscii decimal) = text := by
    have kept : ∀ char ∈ text, toAscii decimal char = id char := fun char member =>
      if_pos (printed_bounds (shown char member)).2
    rw [List.map_congr_left kept, List.map_id]
  rw [numeral, same, trim_printed shown]

theorem read_digits_of_digits {text : List Char} (digits : ∀ char ∈ text, char.isDigit = true)
    (afterDigit : Bool) (value : Nat) (some_digit : text ≠ [] ∨ afterDigit = true) :
    readDigits text afterDigit value = some (Nat.ofDigitChars 10 text value) := by
  induction text generalizing afterDigit value with
  | nil =>
      have after : afterDigit = true := some_digit.resolve_left (by simp)
      simp [readDigits, after]
  | cons char rest ih =>
      have digit := digits char (by simp)
      have plain : char ≠ '_' := by
        rintro rfl
        exact absurd digit (by decide)
      rw [readDigits, if_neg plain, if_pos digit, Nat.ofDigitChars_cons]
      exact ih (fun other member => digits other (by simp [member])) true _ (.inr rfl)

theorem digit_of_to_digits {value : Nat} {char : Char} (member : char ∈ Nat.toDigits 10 value) :
    char.isDigit = true :=
  Nat.isDigit_of_mem_toDigits (by decide) (by decide) member

theorem sign_not_in_digits {char : Char} (sign : char.isDigit = false) (value : Nat) :
    char ∉ Nat.toDigits 10 value := by
  intro member
  rw [digit_of_to_digits member] at sign
  cases sign

theorem read_digits_to_digits (value : Nat) :
    readDigits (Nat.toDigits 10 value) false 0 = some value := by
  rw [read_digits_of_digits (fun _ => digit_of_to_digits) false 0
    (.inl Nat.toDigits_ne_nil), Nat.ofDigitChars_ten_toDigits]

def sign (value : Int) : List Char := if value < 0 then ['-'] else []

theorem py_str_to_list (value : Int) :
    (pyStr value).toList = sign value ++ Nat.toDigits 10 value.natAbs := by
  cases value with
  | ofNat value =>
      have whole : ¬ Int.ofNat value < 0 := Int.not_lt.mpr (Int.natCast_nonneg value)
      rw [sign, if_neg whole]
      exact Nat.toList_repr
  | negSucc value =>
      rw [sign, if_pos (Int.negSucc_lt_zero value)]
      simp [pyStr, Int.repr, Nat.toList_repr]

theorem py_str_printed (value : Int) : ∀ char ∈ (pyStr value).toList, printed char = true := by
  intro char member
  rw [py_str_to_list] at member
  rcases List.mem_append.mp member with before | digit
  · unfold sign at before
    split at before
    · obtain rfl := List.mem_singleton.mp before
      rfl
    · cases before
  · simp [printed, digit_of_to_digits digit]

theorem filter_digits (value : Int) :
    (pyStr value).toList.filter Char.isDigit = Nat.toDigits 10 value.natAbs := by
  have signs : (sign value).filter Char.isDigit = [] := by
    unfold sign
    split <;> rfl
  have digits : (Nat.toDigits 10 value.natAbs).filter Char.isDigit =
      Nat.toDigits 10 value.natAbs :=
    List.filter_eq_self.mpr fun char => digit_of_to_digits
  rw [py_str_to_list, List.filter_append, signs, digits, List.nil_append]

theorem read_signed_digits (value : Nat) :
    readSigned (Nat.toDigits 10 value) = some (value : Int) := by
  unfold readSigned
  split
  · rename_i digits same
    exact absurd (same ▸ List.mem_cons_self) (sign_not_in_digits rfl value)
  · rename_i digits same
    exact absurd (same ▸ List.mem_cons_self) (sign_not_in_digits rfl value)
  · simp [read_digits_to_digits]

theorem read_signed_py_str (value : Int) : readSigned (pyStr value).toList = some value := by
  rw [py_str_to_list, sign]
  by_cases negative : value < 0
  · rw [if_pos negative, List.singleton_append, readSigned, read_digits_to_digits]
    have same : -(value.natAbs : Int) = value := by omega
    exact congrArg some same
  · have same : (value.natAbs : Int) = value := by omega
    rw [if_neg negative, List.nil_append, read_signed_digits, same]

/-- A printable integer is read back from its own text. -/
theorem py_int_py_str (decimal : Decimals) {value : Int} (printable : Printable value) :
    pyInt decimal (pyStr value) = some value := by
  unfold pyInt
  dsimp only
  rw [numeral_printed decimal (py_str_printed value), filter_digits,
    if_neg (Nat.not_lt.mpr printable), read_signed_py_str]

theorem printable_iff {value : Int} : Printable value ↔ value.natAbs < 10 ^ maxStrDigits :=
  Nat.length_toDigits_le_iff (by decide) (by decide)

theorem printable_of_le {smaller larger : Int} (within : smaller.natAbs ≤ larger.natAbs)
    (printable : Printable larger) : Printable smaller :=
  printable_iff.mpr (Nat.lt_of_le_of_lt within (printable_iff.mp printable))

theorem read_digits_lt {text : List Char} {afterDigit : Bool} {value result : Nat}
    (read : readDigits text afterDigit value = some result) :
    result < (value + 1) * 10 ^ (text.filter Char.isDigit).length := by
  induction text generalizing afterDigit value with
  | nil =>
      obtain ⟨_, same⟩ := Option.ite_none_right_eq_some.mp read
      obtain rfl := Option.some.inj same
      simp
  | cons char rest induction =>
      rw [readDigits] at read
      split at read
      · rename_i underscore
        subst underscore
        obtain ⟨_, later⟩ := Option.ite_none_right_eq_some.mp read
        exact induction later
      · obtain ⟨digit, later⟩ := Option.ite_none_right_eq_some.mp read
        have ⟨_, upper⟩ := digit_bounds digit
        have step : 10 * value + (char.toNat - '0'.toNat) + 1 ≤ (value + 1) * 10 := by
          have zero : '0'.toNat = 48 := rfl
          omega
        rw [List.filter_cons_of_pos digit, List.length_cons, Nat.pow_succ', ← Nat.mul_assoc]
        exact Nat.lt_of_lt_of_le (induction later) (Nat.mul_le_mul_right _ step)

theorem read_signed_lt {text : List Char} {value : Int} (read : readSigned text = some value) :
    value.natAbs < 10 ^ (text.filter Char.isDigit).length := by
  unfold readSigned at read
  split at read
  all_goals
    obtain ⟨magnitude, digits, rfl⟩ := Option.map_eq_some_iff.mp read
    have small := read_digits_lt digits
    simpa using small

/-- What `int` reads has a text again. -/
theorem read_printable {decimal : Decimals} {text : String} {value : Int}
    (read : pyInt decimal text = some value) : Printable value := by
  obtain ⟨few, signed⟩ := Option.ite_none_left_eq_some.mp read
  have enough : 10 ^ ((numeral decimal text.toList).filter Char.isDigit).length ≤
      10 ^ maxStrDigits := Nat.pow_le_pow_right (by decide) (Nat.not_lt.mp few)
  exact printable_iff.mpr (Nat.lt_of_lt_of_le (read_signed_lt signed) enough)

theorem py_str_injective : Function.Injective pyStr := by
  intro first second same
  have read := congrArg (fun text : String => readSigned text.toList) same
  simpa only [read_signed_py_str, Option.some.injEq] using read

end HermesCashew.PythonInt
