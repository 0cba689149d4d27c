import HermesCashew.JsonText
import Mathlib.Algebra.Group.Nat.Defs
import Mathlib.Data.Nat.Basic

/-!
# Python numbers in JSON texts

`int` and `float` as `json.loads` reads them and as `json.dumps` writes them. A finite
float is a multiple of `2 ^ -1074` with at most 53 significant bits; a text is rounded to
the nearest one, ties to even. Of the texts that are read back as a given float, `repr` is
the shortest one.
-/

namespace HermesCashew.JsonNumber

open HermesCashew.JsonText

set_option autoImplicit false

/-! ## Floats -/

def places : Nat := 1074

def scale : Nat := 2 ^ places

def spacing (magnitude : Nat) : Nat :=
  2 ^ (magnitude.log2 - 52)

def Representable (magnitude : Nat) : Prop :=
  magnitude % spacing magnitude = 0 ∧ magnitude < 2 ^ 2098

instance (magnitude : Nat) : Decidable (Representable magnitude) :=
  inferInstanceAs (Decidable (_ ∧ _))

structure Finite where
  negative : Bool
  magnitude : Nat
  representable : Representable magnitude
  deriving DecidableEq

inductive PyFloat where
  | finite (value : Finite)
  | infinite (negative : Bool)
  | nan
  deriving DecidableEq

def roundEven (numerator denominator : Nat) : Nat :=
  let quotient := numerator / denominator
  let twice := 2 * (numerator % denominator)
  if twice < denominator ∨ twice = denominator ∧ quotient % 2 = 0 then quotient
  else quotient + 1

def nearest (numerator denominator : Nat) : Nat :=
  let step := spacing (numerator * scale / denominator)
  roundEven (numerator * scale) (denominator * step) * step

def ofRatio (negative : Bool) (numerator denominator : Nat) : PyFloat :=
  if representable : Representable (nearest numerator denominator) then
    .finite ⟨negative, nearest numerator denominator, representable⟩
  else .infinite negative

def ofDecimal (negative : Bool) (digits : Nat) (exponent : Int) : PyFloat :=
  if 0 ≤ exponent then ofRatio negative (digits * 10 ^ exponent.toNat) 1
  else ofRatio negative digits (10 ^ (-exponent).toNat)

/-- `float(value)` of an integer. -/
def ofInt (value : Int) : PyFloat :=
  ofRatio (decide (value < 0)) value.natAbs 1

/-! ## Reading -/

def isNegative (text : List Char) : Bool :=
  text.head? = some '-'

def unsigned (text : List Char) : List Char :=
  if isNegative text then text.tail else text

def readExponent : List Char → Int
  | '-' :: digits => -(Nat.ofDigitChars 10 digits 0 : Int)
  | '+' :: digits => Nat.ofDigitChars 10 digits 0
  | digits => Nat.ofDigitChars 10 digits 0

def readFloat (text : List Char) : PyFloat :=
  let whole := (unsigned text).takeWhile Char.isDigit
  match (unsigned text).dropWhile Char.isDigit with
  | [] => ofDecimal (isNegative text) (Nat.ofDigitChars 10 whole 0) 0
  | mark :: rest =>
      if mark = '.' then
        let fraction := rest.takeWhile Char.isDigit
        let exponent := readExponent ((rest.dropWhile Char.isDigit).drop 1)
        ofDecimal (isNegative text) (Nat.ofDigitChars 10 (whole ++ fraction) 0)
          (exponent - fraction.length)
      else ofDecimal (isNegative text) (Nat.ofDigitChars 10 whole 0) (readExponent rest)

def dropUnderscores : Bool → List Char → Option (List Char)
  | _, [] => some []
  | afterDigit, '_' :: rest =>
      if afterDigit ∧ rest.head?.any Char.isDigit then dropUnderscores false rest else none
  | _, char :: rest => (dropUnderscores char.isDigit rest).map (char :: ·)

def isDecimal (text : List Char) : Bool :=
  let whole := text.takeWhile Char.isDigit
  let afterWhole := text.dropWhile Char.isDigit
  let afterPoint := if afterWhole.head? = some '.' then afterWhole.tail else afterWhole
  let fraction := if afterWhole.head? = some '.' then afterPoint.takeWhile Char.isDigit else []
  let exponent := afterPoint.drop fraction.length
  (whole ≠ [] || fraction ≠ []) &&
    match exponent with
    | [] => true
    | 'e' :: '-' :: digits => digits ≠ [] && digits.all Char.isDigit
    | 'e' :: '+' :: digits => digits ≠ [] && digits.all Char.isDigit
    | 'e' :: digits => digits ≠ [] && digits.all Char.isDigit
    | _ => false

/-- `float(text)` of a text in lower case without space around it. -/
def parseFloat (text : List Char) : Option PyFloat :=
  let negative := isNegative text
  let body := if negative ∨ text.head? = some '+' then text.tail else text
  if body ∈ [['i', 'n', 'f'], ['i', 'n', 'f', 'i', 'n', 'i', 't', 'y']] then
    some (.infinite negative)
  else if body = ['n', 'a', 'n'] then some .nan
  else
    (dropUnderscores false body).bind fun plain =>
      if isDecimal plain then some (readFloat (if negative then '-' :: plain else plain)) else none

def readInt (text : List Char) : Int :=
  if isNegative text then -(Nat.ofDigitChars 10 (unsigned text) 0 : Int)
  else Nat.ofDigitChars 10 (unsigned text) 0

/-- A number with a fraction or an exponent is a `float`. -/
def isFloat (text : List Char) : Bool :=
  text.any fun char => char = '.' || char = 'e' || char = 'E'

/-! ## Writing -/

def sign (negative : Bool) : List Char :=
  if negative then ['-'] else []

def intText (value : Int) : List Char :=
  sign (decide (value < 0)) ++ Nat.toDigits 10 value.natAbs

/-- `digits * 10 ^ exponent`, laid out as `repr` does. -/
def layOut (negative : Bool) (digits : Nat) (exponent : Int) : List Char :=
  let all := Nat.toDigits 10 digits
  let kept := (all.reverse.dropWhile fun char => char = '0').reverse
  let point : Int := all.length + exponent
  sign negative ++
    if point ≤ -4 ∨ 16 < point then
      kept.take 1 ++ (if kept.length ≤ 1 then [] else '.' :: kept.drop 1) ++
        'e' :: (if point ≤ 0 then '-' else '+') ::
          (if (point - 1).natAbs < 10 then ['0'] else []) ++ Nat.toDigits 10 (point - 1).natAbs
    else if point ≤ 0 then
      '0' :: '.' :: (List.replicate (-point).toNat '0' ++ kept)
    else if kept.length ≤ point.toNat then
      kept ++ List.replicate (point.toNat - kept.length) '0' ++ ['.', '0']
    else
      kept.take point.toNat ++ '.' :: kept.drop point.toNat

def decimalExponent (magnitude : Nat) : Int :=
  (Nat.toDigits 10 (magnitude * 10 ^ 400 / scale)).length - 401

/-- The two decimals of `count` digits around a number, the nearer one first. -/
def around (value : Finite) (count : Nat) : List (List Char) :=
  let exponent := decimalExponent value.magnitude - (count - 1 : Nat)
  let numerator := value.magnitude * 10 ^ (-exponent).toNat
  let denominator := scale * 10 ^ exponent.toNat
  let lower := numerator / denominator
  let texts := [layOut value.negative lower exponent, layOut value.negative (lower + 1) exponent]
  if 2 * (numerator % denominator) ≤ denominator then texts else texts.reverse

def exactText (value : Finite) : List Char :=
  sign value.negative ++
    (Nat.toDigits 10 (value.magnitude * 5 ^ places) ++ 'e' :: '-' :: Nat.toDigits 10 places)

def candidates (value : Finite) : List (List Char) :=
  if value.magnitude = 0 then [sign value.negative ++ ['0', '.', '0']]
  else (List.range' 1 17).flatMap (around value)

def Writes (text : List Char) (value : Finite) : Prop :=
  readNumeral .start text = true ∧ isFloat text = true ∧ readFloat text = .finite value

instance (text : List Char) (value : Finite) : Decidable (Writes text value) :=
  inferInstanceAs (Decidable (_ ∧ _ ∧ _))

/-- `repr(value)`. -/
def floatText (value : Finite) : List Char :=
  ((candidates value).find? fun text => decide (Writes text value)).getD (exactText value)

/-! ## Rounding -/

theorem scale_pos : 0 < scale :=
  Nat.two_pow_pos places

theorem spacing_pos (magnitude : Nat) : 0 < spacing magnitude :=
  Nat.two_pow_pos _

theorem round_even_exact {quotient denominator : Nat} (positive : 0 < denominator) :
    roundEven (quotient * denominator) denominator = quotient := by
  simp only [roundEven, Nat.mul_div_cancel _ positive, Nat.mul_mod_left, Nat.mul_zero, positive,
    true_or, if_true]

/-- A ratio that is a magnitude is rounded to itself. -/
theorem nearest_exact {numerator denominator magnitude : Nat} (positive : 0 < denominator)
    (multiple : magnitude % spacing magnitude = 0)
    (exact_ : numerator * scale = magnitude * denominator) :
    nearest numerator denominator = magnitude := by
  have step : numerator * scale / denominator = magnitude := by
    rw [exact_, Nat.mul_div_cancel _ positive]
  obtain ⟨quotient, whole⟩ := Nat.dvd_of_mod_eq_zero multiple
  have product : numerator * scale = quotient * (denominator * spacing magnitude) := by
    rw [exact_]
    calc magnitude * denominator = spacing magnitude * quotient * denominator := by rw [← whole]
      _ = quotient * (denominator * spacing magnitude) := by
          rw [Nat.mul_comm (spacing magnitude), Nat.mul_assoc, Nat.mul_comm (spacing magnitude)]
  unfold nearest
  simp only [step]
  rw [product, round_even_exact (Nat.mul_pos positive (spacing_pos magnitude)), Nat.mul_comm,
    ← whole]

theorem of_ratio_exact (value : Finite) {numerator denominator : Nat} (positive : 0 < denominator)
    (exact_ : numerator * scale = value.magnitude * denominator) :
    ofRatio value.negative numerator denominator = .finite value := by
  have rounded := nearest_exact positive value.representable.1 exact_
  unfold ofRatio
  simp only [rounded, value.representable, dite_true]

theorem shifted_lt {value bits : Nat} (shift : Nat) (small : value < 2 ^ bits) :
    value * 2 ^ shift < 2 ^ (bits + shift) := by
  rw [Nat.pow_add]
  exact Nat.mul_lt_mul_of_pos_right small (Nat.two_pow_pos shift)

/-- An integer of at most 53 bits is a float. -/
theorem whole_representable {value : Nat} (small : value < 2 ^ 53) :
    Representable (value * scale) := by
  have bound : value * scale < 2 ^ (53 + places) := shifted_lt places small
  have bits : (value * scale).log2 - 52 ≤ places := by
    rcases Nat.eq_zero_or_pos (value * scale) with zero | positive
    · rw [zero]
      exact Nat.zero_le _
    · have below := (Nat.log2_lt positive.ne').mpr bound
      omega
  constructor
  · apply Nat.mod_eq_zero_of_dvd
    exact Nat.dvd_trans (Nat.pow_dvd_pow 2 bits) (Nat.dvd_mul_left scale value)
  · exact bound.trans_le (Nat.pow_le_pow_right Nat.two_pos (by decide))

theorem of_int_small {value : Int} (small : value.natAbs < 2 ^ 53) :
    ofInt value =
      .finite ⟨decide (value < 0), value.natAbs * scale, whole_representable small⟩ := by
  apply of_ratio_exact ⟨_, _, whole_representable small⟩ Nat.one_pos
  rw [Nat.mul_one]

/-- Fewer than 54 bits are left of a magnitude. -/
theorem quotient_bound (magnitude : Nat) : magnitude / spacing magnitude < 2 ^ 53 := by
  apply Nat.div_lt_of_lt_mul
  have below : magnitude < 2 ^ (magnitude.log2 + 1) := Nat.lt_log2_self
  have room : 2 ^ (magnitude.log2 + 1) ≤ spacing magnitude * 2 ^ 53 := by
    unfold spacing
    rw [← Nat.pow_add]
    exact Nat.pow_le_pow_right Nat.two_pos (by omega)
  exact below.trans_le room

theorem round_even_bounds (numerator denominator : Nat) :
    numerator / denominator ≤ roundEven numerator denominator ∧
      roundEven numerator denominator ≤ numerator / denominator + 1 := by
  unfold roundEven
  dsimp only
  split <;> omega

/-- A multiple of a power of two by at most 53 bits keeps its own spacing. -/
theorem shifted_multiple {count : Nat} (small : count ≤ 2 ^ 53) (shift : Nat) :
    (count * 2 ^ shift) % spacing (count * 2 ^ shift) = 0 := by
  apply Nat.mod_eq_zero_of_dvd
  unfold spacing
  rcases Nat.eq_zero_or_pos count with rfl | positive
  · rw [Nat.zero_mul]
    exact Nat.dvd_zero _
  have solid : count * 2 ^ shift ≠ 0 := (Nat.mul_pos positive (Nat.two_pow_pos shift)).ne'
  rcases Nat.lt_or_eq_of_le small with below | rfl
  · have bound : count * 2 ^ shift < 2 ^ (53 + shift) := by
      rw [Nat.pow_add]
      exact Nat.mul_lt_mul_of_pos_right below (Nat.two_pow_pos shift)
    have bits := (Nat.log2_lt solid).mpr bound
    exact Nat.dvd_trans (Nat.pow_dvd_pow 2 (by omega)) (Nat.dvd_mul_left (2 ^ shift) count)
  · rw [← Nat.pow_add, Nat.log2_two_pow]
    exact Nat.pow_dvd_pow 2 (by omega)

theorem nearest_multiple (numerator denominator : Nat) :
    nearest numerator denominator % spacing (nearest numerator denominator) = 0 := by
  apply shifted_multiple
  refine (round_even_bounds _ _).2.trans ?_
  rw [← Nat.div_div_eq_div_mul]
  exact quotient_bound _

theorem round_below {magnitude shift : Nat} (below : magnitude < 2 ^ (shift + 53)) :
    roundEven magnitude (spacing magnitude) * spacing magnitude ≤ 2 ^ (shift + 53) := by
  have count : roundEven magnitude (spacing magnitude) ≤ 2 ^ 53 :=
    (round_even_bounds _ _).2.trans (quotient_bound magnitude)
  have step : magnitude.log2 - 52 ≤ shift := by
    rcases Nat.eq_zero_or_pos magnitude with rfl | positive
    · exact Nat.zero_le _
    · have bits := (Nat.log2_lt positive.ne').mpr below
      omega
  calc roundEven magnitude (spacing magnitude) * spacing magnitude
      ≤ 2 ^ 53 * 2 ^ shift := Nat.mul_le_mul count (Nat.pow_le_pow_right Nat.two_pos step)
    _ = 2 ^ (shift + 53) := by rw [Nat.pow_add, Nat.mul_comm]

theorem round_above {magnitude bits : Nat} (many : 52 ≤ bits) (above : 2 ^ bits ≤ magnitude) :
    2 ^ bits ≤ roundEven magnitude (spacing magnitude) * spacing magnitude := by
  have solid : magnitude ≠ 0 := (Nat.lt_of_lt_of_le (Nat.two_pow_pos bits) above).ne'
  have more : bits ≤ magnitude.log2 := (Nat.le_log2 solid).mpr above
  have split : 2 ^ 52 * spacing magnitude = 2 ^ magnitude.log2 := by
    unfold spacing
    rw [← Nat.pow_add, Nat.add_sub_cancel' (many.trans more)]
  have count : 2 ^ 52 ≤ magnitude / spacing magnitude := by
    apply (Nat.le_div_iff_mul_le (spacing_pos magnitude)).mpr
    rw [split]
    exact Nat.log2_self_le solid
  calc 2 ^ bits ≤ 2 ^ magnitude.log2 := Nat.pow_le_pow_right Nat.two_pos more
    _ = 2 ^ 52 * spacing magnitude := split.symm
    _ ≤ roundEven magnitude (spacing magnitude) * spacing magnitude :=
        Nat.mul_le_mul_right _ (count.trans (round_even_bounds _ _).1)

/-- Half of a step below 54 bits is rounded up. -/
theorem round_up_iff {magnitude half : Nat} (positive : 0 < half)
    (upper : magnitude < 2 ^ 53 * (2 * half)) :
    2 ^ 53 ≤ roundEven magnitude (2 * half) ↔ (2 ^ 54 - 1) * half ≤ magnitude := by
  have parts := Nat.div_add_mod magnitude (2 * half)
  have rest := Nat.mod_lt magnitude (Nat.mul_pos Nat.two_pos positive)
  have count : magnitude / (2 * half) < 2 ^ 53 :=
    Nat.div_lt_of_lt_mul (by rwa [Nat.mul_comm])
  rcases Nat.lt_or_eq_of_le (Nat.le_sub_one_of_lt count) with early | last
  · have room := Nat.mul_le_mul_left (2 * half) (Nat.le_sub_one_of_lt early)
    have rounded := (round_even_bounds magnitude (2 * half)).2
    omega
  · rw [roundEven, last]
    rw [last] at parts
    split <;> omega

/-- Magnitudes within half of a step below a power of two are rounded up to it. -/
theorem round_reaches_iff {magnitude shift : Nat} :
    2 ^ (shift + 54) ≤ roundEven magnitude (spacing magnitude) * spacing magnitude ↔
      (2 ^ 54 - 1) * 2 ^ shift ≤ magnitude := by
  have positive := Nat.two_pow_pos shift
  have first : 2 ^ (shift + 53) = 2 ^ 53 * 2 ^ shift := by rw [Nat.pow_add, Nat.mul_comm]
  have whole : 2 ^ (shift + 54) = 2 ^ 53 * (2 * 2 ^ shift) := by
    rw [Nat.pow_add, Nat.mul_comm]
    omega
  rcases Nat.lt_or_ge magnitude (2 ^ (shift + 53)) with below | lower
  · have small := round_below below
    omega
  rcases Nat.lt_or_ge magnitude (2 ^ (shift + 54)) with upper | above
  · have solid : magnitude ≠ 0 := (Nat.lt_of_lt_of_le (Nat.two_pow_pos _) lower).ne'
    have bits : magnitude.log2 = shift + 53 := (Nat.log2_eq_iff solid).mpr ⟨lower, upper⟩
    have step : spacing magnitude = 2 * 2 ^ shift := by
      rw [spacing, bits, ← Nat.pow_succ']
      rfl
    rw [whole] at upper
    rw [step, whole, ← round_up_iff positive upper]
    exact Nat.mul_le_mul_right_iff (Nat.mul_pos Nat.two_pos positive)
  · have large := round_above (by omega) above
    omega

def wholeLimit : Nat := (2 ^ 54 - 1) * 2 ^ 970

theorem whole_infinite_iff {value : Nat} : 2 ^ 2098 ≤ nearest value 1 ↔ wholeLimit ≤ value := by
  have unfolded : nearest value 1 =
      roundEven (value * scale) (spacing (value * scale)) * spacing (value * scale) := by
    rw [nearest, Nat.div_one, Nat.one_mul]
  have scaled : (2 ^ 54 - 1) * 2 ^ (970 + places) = wholeLimit * scale := by
    rw [Nat.pow_add, ← Nat.mul_assoc, wholeLimit, scale]
  have last : 2098 = 970 + places + 54 := rfl
  rw [unfolded, last, round_reaches_iff, scaled]
  exact Nat.mul_le_mul_right_iff scale_pos

theorem of_int_infinite {value : Int} (large : wholeLimit ≤ value.natAbs) :
    ofInt value = .infinite (decide (value < 0)) := by
  have past := whole_infinite_iff.mpr large
  exact dif_neg fun representable => absurd representable.2 (Nat.not_lt.mpr past)

theorem of_int_finite {value : Int} (small : value.natAbs < wholeLimit) :
    ∃ result, ofInt value = .finite result := by
  have below : nearest value.natAbs 1 < 2 ^ 2098 := by
    apply Nat.lt_of_not_le
    intro past
    exact absurd (whole_infinite_iff.mp past) (Nat.not_le.mpr small)
  exact ⟨_, dif_pos ⟨nearest_multiple _ _, below⟩⟩

/-! ## Texts read back -/

theorem digits_are_digits {value : Nat} {char : Char} (member : char ∈ Nat.toDigits 10 value) :
    char.isDigit = true :=
  Nat.isDigit_of_mem_toDigits (by decide) (by decide) member

theorem digits_head (value : Nat) : ∃ char rest, Nat.toDigits 10 value = char :: rest :=
  List.exists_cons_of_ne_nil Nat.toDigits_ne_nil

theorem not_negative_digits (value : Nat) (rest : List Char) :
    isNegative (Nat.toDigits 10 value ++ rest) = false := by
  obtain ⟨char, tail, digits⟩ := digits_head value
  have digit : char.isDigit = true := digits_are_digits (by rw [digits]; exact List.mem_cons_self)
  unfold isNegative
  rw [digits]
  apply decide_eq_false
  intro minus
  obtain rfl := Option.some.inj minus
  contradiction

theorem is_negative_signed (negative : Bool) (value : Nat) (rest : List Char) :
    isNegative (sign negative ++ (Nat.toDigits 10 value ++ rest)) = negative := by
  cases negative with
  | false => exact not_negative_digits value rest
  | true => rfl

theorem unsigned_signed (negative : Bool) (value : Nat) (rest : List Char) :
    unsigned (sign negative ++ (Nat.toDigits 10 value ++ rest)) =
      Nat.toDigits 10 value ++ rest := by
  unfold unsigned
  rw [is_negative_signed]
  cases negative with
  | false => rfl
  | true => rfl

theorem take_digits (value : Nat) {char : Char} (other : char.isDigit = false)
    (rest : List Char) :
    (Nat.toDigits 10 value ++ char :: rest).takeWhile Char.isDigit = Nat.toDigits 10 value := by
  rw [List.takeWhile_append_of_pos fun _ => digits_are_digits]
  simp [other]

theorem drop_digits (value : Nat) {char : Char} (other : char.isDigit = false)
    (rest : List Char) :
    (Nat.toDigits 10 value ++ char :: rest).dropWhile Char.isDigit = char :: rest := by
  rw [List.dropWhile_append_of_pos fun _ => digits_are_digits]
  simp [other]

theorem read_digits (text rest : List Char) (digits : ∀ char ∈ text, char.isDigit = true) :
    readNumeral .whole (text ++ 'e' :: rest) = readNumeral .exponentMark rest := by
  induction text with
  | nil => rfl
  | cons char text inductive_hypothesis =>
      simp only [List.cons_append, readNumeral, NumeralState.advance,
        digits char List.mem_cons_self, if_true]
      exact inductive_hypothesis fun other member => digits other (List.mem_cons_of_mem _ member)

theorem read_exponent_digits (text : List Char) (digits : ∀ char ∈ text, char.isDigit = true) :
    readNumeral .exponent text = true := by
  induction text with
  | nil => rfl
  | cons char text inductive_hypothesis =>
      simp only [readNumeral, NumeralState.advance, digits char List.mem_cons_self, if_true]
      exact inductive_hypothesis fun other member => digits other (List.mem_cons_of_mem _ member)

/-- A sign in front does not matter to what follows a number's digits. -/
theorem read_signed (negative : Bool) (value : Nat) (rest : List Char) :
    readNumeral .start (sign negative ++ (Nat.toDigits 10 value ++ rest)) =
      readNumeral .start (Nat.toDigits 10 value ++ rest) := by
  cases negative with
  | false => rfl
  | true =>
      obtain ⟨char, tail, digits⟩ := digits_head value
      have digit : char.isDigit = true :=
        digits_are_digits (by rw [digits]; exact List.mem_cons_self)
      have not_minus : char ≠ '-' := by
        rintro rfl
        contradiction
      rw [digits]
      simp only [sign, if_true, List.cons_append, List.nil_append, readNumeral,
        NumeralState.advance, not_minus, digit, if_false]

theorem read_whole_exponent (value : Nat) (rest : List Char) :
    readNumeral .start (Nat.toDigits 10 value ++ 'e' :: rest) =
      readNumeral .exponentMark rest := by
  rcases Nat.eq_zero_or_pos value with rfl | positive
  · rfl
  · obtain ⟨char, tail, digits, not_zero⟩ := to_digits_head value positive
    have all : ∀ other ∈ char :: tail, other.isDigit = true := by
      rw [← digits]
      exact fun _ => digits_are_digits
    have not_minus : char ≠ '-' := by
      rintro rfl
      exact absurd (all '-' List.mem_cons_self) (by decide)
    rw [digits]
    simp only [List.cons_append, readNumeral, NumeralState.advance, not_minus, not_zero,
      all char List.mem_cons_self, if_true, if_false]
    exact read_digits tail rest fun other member => all other (List.mem_cons_of_mem _ member)

theorem exact_text_well_formed (value : Finite) :
    readNumeral .start (exactText value) = true := by
  obtain ⟨char, tail, digits⟩ := digits_head places
  have all : ∀ other ∈ char :: tail, other.isDigit = true := by
    rw [← digits]
    exact fun _ => digits_are_digits
  unfold exactText
  rw [read_signed, read_whole_exponent, digits]
  simp only [readNumeral, NumeralState.advance, all char List.mem_cons_self, if_true, or_true]
  exact read_exponent_digits tail fun other member => all other (List.mem_cons_of_mem _ member)

theorem exact_text_reads_back (value : Finite) : readFloat (exactText value) = .finite value := by
  have exponent : readExponent ('-' :: Nat.toDigits 10 places) = -(places : Int) := by
    rw [readExponent, Nat.ofDigitChars_ten_toDigits]
  have below : ¬ (0 : Int) ≤ -(places : Int) := by
    have some_places : 0 < places := Nat.succ_pos _
    omega
  unfold readFloat exactText
  simp only [is_negative_signed, unsigned_signed,
    take_digits _ (show ('e').isDigit = false by decide),
    drop_digits _ (show ('e').isDigit = false by decide), exponent, Nat.ofDigitChars_ten_toDigits,
    show ¬ 'e' = '.' by decide, if_false]
  unfold ofDecimal
  rw [if_neg below, Int.neg_neg, Int.toNat_natCast]
  apply of_ratio_exact value (Nat.pow_pos (by decide))
  unfold scale
  rw [Nat.mul_assoc, ← Nat.mul_pow]

theorem writes_exact_text (value : Finite) : Writes (exactText value) value := by
  refine ⟨exact_text_well_formed value, ?_, exact_text_reads_back value⟩
  simp [isFloat, exactText]

/-- The text of a float is read back as this float. -/
theorem writes_float_text (value : Finite) : Writes (floatText value) value := by
  unfold floatText
  cases found : (candidates value).find? fun text => decide (Writes text value) with
  | none => exact writes_exact_text value
  | some text =>
      simpa using List.find?_some found

theorem int_text_well_formed (value : Int) : readNumeral .start (intText value) = true := by
  have read := read_signed (decide (value < 0)) value.natAbs []
  rw [List.append_nil] at read
  rw [intText, read]
  exact read_numeral_to_digits value.natAbs

theorem int_text_not_float (value : Int) : isFloat (intText value) = false := by
  apply List.any_eq_false.mpr
  intro char member
  have digit_or_minus : char = '-' ∨ char.isDigit = true := by
    rcases List.mem_append.mp member with signed | digit
    · unfold sign at signed
      split at signed
      · exact Or.inl (List.mem_singleton.mp signed)
      · contradiction
    · exact Or.inr (digits_are_digits digit)
  rcases digit_or_minus with rfl | digit
  · decide
  · intro mark
    simp only [Bool.or_eq_true, decide_eq_true_eq] at mark
    rcases mark with (rfl | rfl) | rfl <;> contradiction

theorem int_text_reads_back (value : Int) : readInt (intText value) = value := by
  have negative := is_negative_signed (decide (value < 0)) value.natAbs []
  have digits := unsigned_signed (decide (value < 0)) value.natAbs []
  rw [List.append_nil] at negative digits
  unfold readInt intText
  rw [negative, digits, Nat.ofDigitChars_ten_toDigits]
  by_cases below : value < 0
  · simp only [below, decide_true, if_true]
    omega
  · simp only [below, decide_false, Bool.false_eq_true, if_false]
    omega

end HermesCashew.JsonNumber
