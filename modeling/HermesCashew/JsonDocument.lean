import HermesCashew.JsonNumber
import HermesCashew.PythonInt
import HermesCashew.SortedDict
import Mathlib.Data.List.Lex
import Mathlib.Order.Fin.Basic

/-!
# Python values and the documents they are kept in

`json.dumps`, on one line or indented, and `json.loads`. A document is what a text spells
out; a value is what Python makes of it. The items of a `dict` are written in the order of
their list. Nothing here looks at the order in which the items of a text come, so a `dict`
that is read is in key order.
-/

namespace HermesCashew.JsonDocument

open HermesCashew.JsonText
open HermesCashew.JsonNumber
open HermesCashew.PythonInt (maxStrDigits)

set_option autoImplicit false

/-! ## Documents -/

/-- The words of `json`, the three that strict JSON does not have included. -/
inductive Word where
  | null
  | truth
  | falsity
  | nan
  | infinity
  | negativeInfinity
  deriving DecidableEq, Repr

def Word.text : Word → List Char
  | .null => ['n', 'u', 'l', 'l']
  | .truth => ['t', 'r', 'u', 'e']
  | .falsity => ['f', 'a', 'l', 's', 'e']
  | .nan => ['N', 'a', 'N']
  | .infinity => ['I', 'n', 'f', 'i', 'n', 'i', 't', 'y']
  | .negativeInfinity => ['-', 'I', 'n', 'f', 'i', 'n', 'i', 't', 'y']

def Word.all : List Word :=
  [.null, .truth, .falsity, .nan, .infinity, .negativeInfinity]

inductive Document where
  | word (word : Word)
  | number (numeral : Numeral)
  | string (units : List CodePoint)
  | array (items : List Document)
  | object (members : List (List CodePoint × Document))

structure Layout where
  gap : Nat → List Char
  afterComma : Nat → List Char
  afterKey : List Char
  gap_blank : ∀ level, ∀ char ∈ gap level, isSpace char = true
  after_comma_blank : ∀ level, ∀ char ∈ afterComma level, isSpace char = true
  after_key_blank : ∀ char ∈ afterKey, isSpace char = true

theorem blank_line (level : Nat) :
    ∀ char ∈ '\n' :: List.replicate (2 * level) ' ', isSpace char = true := by
  intro char member
  rcases List.mem_cons.mp member with rfl | blank
  · decide
  · rw [List.eq_of_mem_replicate blank]
    decide

/-- `indent=2`. -/
def indented : Layout where
  gap level := '\n' :: List.replicate (2 * level) ' '
  afterComma level := '\n' :: List.replicate (2 * level) ' '
  afterKey := [' ']
  gap_blank := blank_line
  after_comma_blank := blank_line
  after_key_blank char member := by
    rw [List.mem_singleton.mp member]
    decide

/-- `separators=(",", ":")`. -/
def compact : Layout where
  gap _ := []
  afterComma _ := []
  afterKey := []
  gap_blank level char member := by cases member
  after_comma_blank level char member := by cases member
  after_key_blank char member := by cases member

def spaced : Layout where
  gap _ := []
  afterComma _ := [' ']
  afterKey := [' ']
  gap_blank level char member := by cases member
  after_comma_blank level char member := by
    rw [List.mem_singleton.mp member]
    decide
  after_key_blank char member := by
    rw [List.mem_singleton.mp member]
    decide

def quoteUnits (units : List CodePoint) : List Char :=
  '"' :: (units.flatMap escapeUnit ++ ['"'])

section

variable (layout : Layout)

mutual

def print (level : Nat) : Document → List Char
  | .word word => word.text
  | .number numeral => numeral.text
  | .string units => quoteUnits units
  | .array [] => ['[', ']']
  | .array (item :: rest) =>
      '[' :: (layout.gap (level + 1) ++ (print (level + 1) item ++ printItems level rest))
  | .object [] => ['{', '}']
  | .object ((key, value) :: rest) =>
      '{' :: (layout.gap (level + 1) ++ (quoteUnits key ++ ':' :: (layout.afterKey ++
        (print (level + 1) value ++ printMembers level rest))))

def printItems (level : Nat) : List Document → List Char
  | [] => layout.gap level ++ [']']
  | item :: rest =>
      ',' :: (layout.afterComma (level + 1) ++ (print (level + 1) item ++ printItems level rest))

def printMembers (level : Nat) : List (List CodePoint × Document) → List Char
  | [] => layout.gap level ++ ['}']
  | (key, value) :: rest =>
      ',' :: (layout.afterComma (level + 1) ++ (quoteUnits key ++ ':' :: (layout.afterKey ++
        (print (level + 1) value ++ printMembers level rest))))

end

end

/-- How `json.loads` fails: a `JSONDecodeError`, which is a `ValueError`, the `ValueError`
of an integer that is too long, or a `RecursionError`. -/
inductive Failure where
  | decode
  | digits
  | recursion
  deriving DecidableEq, Repr

def orDecodeError {Value : Type} : Option Value → Except Failure Value
  | some found => .ok found
  | none => .error .decode

def readWord (text : List Char) : Except Failure (Document × List Char) :=
  orDecodeError ((Word.all.find? fun word => word.text.isPrefixOf text).map fun word =>
    (.word word, text.drop word.text.length))

def readScalar (text : List Char) : Except Failure (Document × List Char) :=
  if wellFormed : readNumeral .start (text.takeWhile isNumeralChar) = true then
    if !isFloat (text.takeWhile isNumeralChar) &&
        decide (maxStrDigits < (unsigned (text.takeWhile isNumeralChar)).length) then
      .error .digits
    else .ok (.number ⟨text.takeWhile isNumeralChar, wellFormed⟩, text.dropWhile isNumeralChar)
  else readWord text

def readName (text : List Char) : Except Failure (List CodePoint × List Char) :=
  match skip text with
  | [] => .error .decode
  | char :: rest =>
      if char = '"' then do
        let (key, rest) ← orDecodeError (readUnits rest.length rest)
        match skip rest with
        | ':' :: rest => .ok (key, rest)
        | _ => .error .decode
      else .error .decode

mutual

/-- `scan_once`, which enters at most `depth` more arrays and objects. -/
def read : Nat → Nat → List Char → Except Failure (Document × List Char)
  | _, 0, _ => .error .decode
  | depth, fuel + 1, text =>
      match skip text with
      | [] => .error .decode
      | char :: rest =>
          if char = '"' then do
            let (units, rest) ← orDecodeError (readUnits rest.length rest)
            .ok (.string units, rest)
          else if char = '[' then
            if depth = 0 then .error .recursion
            else
              match skip rest with
              | ']' :: rest => .ok (.array [], rest)
              | _ => do
                  let (item, rest) ← read (depth - 1) fuel rest
                  let (items, rest) ← readItems (depth - 1) fuel rest
                  .ok (.array (item :: items), rest)
          else if char = '{' then
            if depth = 0 then .error .recursion
            else
              match skip rest with
              | '}' :: rest => .ok (.object [], rest)
              | _ => do
                  let (key, rest) ← readName rest
                  let (value, rest) ← read (depth - 1) fuel rest
                  let (members, rest) ← readMembers (depth - 1) fuel rest
                  .ok (.object ((key, value) :: members), rest)
          else readScalar (char :: rest)

def readItems : Nat → Nat → List Char → Except Failure (List Document × List Char)
  | _, 0, _ => .error .decode
  | depth, fuel + 1, text =>
      match skip text with
      | ']' :: rest => .ok ([], rest)
      | ',' :: rest => do
          let (item, rest) ← read depth fuel rest
          let (items, rest) ← readItems depth fuel rest
          .ok (item :: items, rest)
      | _ => .error .decode

def readMembers : Nat → Nat → List Char →
    Except Failure (List (List CodePoint × Document) × List Char)
  | _, 0, _ => .error .decode
  | depth, fuel + 1, text =>
      match skip text with
      | '}' :: rest => .ok ([], rest)
      | ',' :: rest => do
          let (key, rest) ← readName rest
          let (value, rest) ← read depth fuel rest
          let (members, rest) ← readMembers depth fuel rest
          .ok ((key, value) :: members, rest)
      | _ => .error .decode

end

def readWhole (depth : Nat) (text : List Char) : Except Failure Document := do
  let (document, rest) ← read depth (text.length + 1) text
  if skip rest = [] then .ok document else .error .decode

/-! ## Values -/

inductive Value where
  | none
  | bool (value : Bool)
  | int (value : Int)
  | float (value : PyFloat)
  | str (value : Str)
  | list (items : List Value)
  | dict (items : List (Str × Value))

/-- `bool(value)`. -/
def truthy : Value → Bool
  | .none => false
  | .bool value => value
  | .int value => value ≠ 0
  | .float (.finite value) => value.magnitude ≠ 0
  | .float _ => true
  | .str value => value ≠ []
  | .list items => !items.isEmpty
  | .dict items => !items.isEmpty

/-- `len(value)`, with `none` for a `TypeError`. -/
def Value.len : Value → Option Nat
  | .str value => some value.length
  | .list items => some items.length
  | .dict items => some items.length
  | _ => Option.none

mutual

def settle : Document → Value
  | .word .null => .none
  | .word .truth => .bool true
  | .word .falsity => .bool false
  | .word .nan => .float .nan
  | .word .infinity => .float (.infinite false)
  | .word .negativeInfinity => .float (.infinite true)
  | .number numeral =>
      if isFloat numeral.text then .float (readFloat numeral.text)
      else .int (readInt numeral.text)
  | .string units => .str (joinPairs units)
  | .array items => .list (settleItems items)
  | .object members => .dict (SortedDict.ofEntries (settleMembers members))

def settleItems : List Document → List Value
  | [] => []
  | item :: rest => settle item :: settleItems rest

def settleMembers : List (List CodePoint × Document) → List (Str × Value)
  | [] => []
  | (key, value) :: rest => (joinPairs key, settle value) :: settleMembers rest

end

mutual

def document : Value → Document
  | .none => .word .null
  | .bool true => .word .truth
  | .bool false => .word .falsity
  | .int value => .number ⟨intText value, int_text_well_formed value⟩
  | .float (.finite value) => .number ⟨floatText value, (writes_float_text value).1⟩
  | .float (.infinite false) => .word .infinity
  | .float (.infinite true) => .word .negativeInfinity
  | .float .nan => .word .nan
  | .str value => .string (value.flatMap units)
  | .list items => .array (documentItems items)
  | .dict items => .object (documentMembers items)

def documentItems : List Value → List Document
  | [] => []
  | item :: rest => document item :: documentItems rest

def documentMembers : List (Str × Value) → List (List CodePoint × Document)
  | [] => []
  | (key, value) :: rest => (key.flatMap units, document value) :: documentMembers rest

end

/-- `json.dumps` in a layout. With `sort_keys=True` the items of a value are in key order. -/
def dumps (layout : Layout) (value : Value) : List Char :=
  print layout 0 (document value)

/-- `json.loads(text)`, where `depth` is how many arrays and objects inside each other the
stack has room for. -/
def loads (depth : Nat) (text : List Char) : Except Failure Value :=
  (readWhole depth text).map settle

mutual

/-- The text of the value is no deeper than `depth`, and no integer in it is too long. -/
def Value.Fits (depth : Nat) : Value → Prop
  | .int value => (Nat.toDigits 10 value.natAbs).length ≤ maxStrDigits
  | .list items => 0 < depth ∧ FitsItems (depth - 1) items
  | .dict items => 0 < depth ∧ FitsMembers (depth - 1) items
  | _ => True

def FitsItems (depth : Nat) : List Value → Prop
  | [] => True
  | item :: rest => item.Fits depth ∧ FitsItems depth rest

def FitsMembers (depth : Nat) : List (Str × Value) → Prop
  | [] => True
  | (_, value) :: rest => value.Fits depth ∧ FitsMembers depth rest

end

mutual

def decideFits : (depth : Nat) → (value : Value) → Decidable (value.Fits depth)
  | _, .none | _, .bool _ | _, .float _ | _, .str _ => isTrue trivial
  | _, .int value => inferInstanceAs (Decidable ((Nat.toDigits 10 value.natAbs).length ≤ _))
  | depth, .list items => @instDecidableAnd _ _ _ (decideFitsItems (depth - 1) items)
  | depth, .dict items => @instDecidableAnd _ _ _ (decideFitsMembers (depth - 1) items)

def decideFitsItems : (depth : Nat) → (items : List Value) → Decidable (FitsItems depth items)
  | _, [] => isTrue trivial
  | depth, item :: rest =>
      @instDecidableAnd _ _ (decideFits depth item) (decideFitsItems depth rest)

def decideFitsMembers : (depth : Nat) → (items : List (Str × Value)) →
    Decidable (FitsMembers depth items)
  | _, [] => isTrue trivial
  | depth, (_, value) :: rest =>
      @instDecidableAnd _ _ (decideFits depth value) (decideFitsMembers depth rest)

end

instance (depth : Nat) (value : Value) : Decidable (value.Fits depth) :=
  decideFits depth value

mutual

/-- What fits once fits wherever there is more room. -/
theorem fits_deeper {depth room : Nat} (deeper : depth ≤ room) : ∀ value : Value,
    value.Fits depth → value.Fits room
  | .none, _ | .bool _, _ | .float _, _ | .str _, _ => trivial
  | .int _, fits => fits
  | .list items, fits =>
      ⟨Nat.lt_of_lt_of_le fits.1 deeper,
        fits_items_deeper (Nat.sub_le_sub_right deeper 1) items fits.2⟩
  | .dict items, fits =>
      ⟨Nat.lt_of_lt_of_le fits.1 deeper,
        fits_members_deeper (Nat.sub_le_sub_right deeper 1) items fits.2⟩

theorem fits_items_deeper {depth room : Nat} (deeper : depth ≤ room) : ∀ items : List Value,
    FitsItems depth items → FitsItems room items
  | [], _ => trivial
  | item :: rest, fits =>
      ⟨fits_deeper deeper item fits.1, fits_items_deeper deeper rest fits.2⟩

theorem fits_members_deeper {depth room : Nat} (deeper : depth ≤ room) :
    ∀ items : List (Str × Value), FitsMembers depth items → FitsMembers room items
  | [], _ => trivial
  | (_, value) :: rest, fits =>
      ⟨fits_deeper deeper value fits.1, fits_members_deeper deeper rest fits.2⟩

end

/-! ## Documents read back -/

section

variable (layout : Layout)

theorem skip_blank_append {blank : List Char} (all : ∀ char ∈ blank, isSpace char = true)
    (text : List Char) : skip (blank ++ text) = skip text :=
  List.dropWhile_append_of_pos all

theorem skip_gap (level : Nat) (text : List Char) : skip (layout.gap level ++ text) = skip text :=
  skip_blank_append (layout.gap_blank level) text

theorem read_blank {blank : List Char} (all : ∀ char ∈ blank, isSpace char = true)
    (depth fuel : Nat) (text : List Char) : read depth fuel (blank ++ text) = read depth fuel text := by
  cases fuel with
  | zero => simp only [read]
  | succ fuel => simp only [read, skip_blank_append all]

theorem read_gap (level depth fuel : Nat) (text : List Char) :
    read depth fuel (layout.gap level ++ text) = read depth fuel text :=
  read_blank (layout.gap_blank level) depth fuel text

theorem read_name_blank {blank : List Char} (all : ∀ char ∈ blank, isSpace char = true)
    (text : List Char) : readName (blank ++ text) = readName text := by
  simp only [readName, skip_blank_append all]

theorem numeral_char_of_blank {char : Char} (blank : isSpace char = true) :
    isNumeralChar char = false := by
  simp only [isSpace, Bool.or_eq_true, decide_eq_true_eq] at blank
  rcases blank with ((rfl | rfl) | rfl) | rfl <;> decide

theorem stops_blank {blank : List Char} (all : ∀ char ∈ blank, isSpace char = true)
    {char : Char} (stop : isNumeralChar char = false) (rest : List Char) :
    Stops (blank ++ char :: rest) := by
  intro first first_eq
  cases blank with
  | nil =>
      obtain rfl := Option.some.inj first_eq
      exact stop
  | cons head tail =>
      obtain rfl := Option.some.inj first_eq
      exact numeral_char_of_blank (all _ List.mem_cons_self)

theorem stops_items (level : Nat) (items : List Value) (after : List Char) :
    Stops (printItems layout level (documentItems items) ++ after) := by
  cases items with
  | nil =>
      simp only [documentItems, printItems, List.append_assoc]
      exact stops_blank (layout.gap_blank level) (by decide) _
  | cons item rest => exact stops_blank (by simp : ∀ char ∈ [], isSpace char = true) (by decide) _

theorem stops_members (level : Nat) (items : List (Str × Value)) (after : List Char) :
    Stops (printMembers layout level (documentMembers items) ++ after) := by
  cases items with
  | nil =>
      simp only [documentMembers, printMembers, List.append_assoc]
      exact stops_blank (layout.gap_blank level) (by decide) _
  | cons item rest => exact stops_blank (by simp : ∀ char ∈ [], isSpace char = true) (by decide) _

theorem read_string (value : Str) (rest : List Char) :
    let text := (value.flatMap units).flatMap escapeUnit ++ '"' :: rest
    readUnits text.length text = some (value.flatMap units, rest) := by
  apply read_units_escaped _ rest _ _ (units_small value)
  simp

theorem read_name_quote (key : Str) (rest : List Char) :
    readName (quoteUnits (key.flatMap units) ++ ':' :: rest) =
      .ok (key.flatMap units, rest) := by
  simp only [quoteUnits, List.cons_append, List.append_assoc, List.nil_append, readName,
    skip_cons (show isSpace '"' = false by decide), if_true, read_string, orDecodeError, bind,
    Except.bind, skip_cons (show isSpace ':' = false by decide)]

theorem read_scalar_word (word : Word) (rest : List Char) :
    readScalar (word.text ++ rest) = .ok (.word word, rest) := by
  cases word <;> rfl

def Short (text : List Char) : Prop :=
  isFloat text = true ∨ (unsigned text).length ≤ maxStrDigits

theorem read_scalar_numeral (numeral : Numeral) (short : Short numeral.text) {rest : List Char}
    (stops : Stops rest) :
    readScalar (numeral.text ++ rest) = .ok (.number numeral, rest) := by
  have all := read_numeral_chars numeral.wellFormed
  have kept : ¬ (!isFloat numeral.text &&
      decide (maxStrDigits < (unsigned numeral.text).length)) = true := by
    rw [Bool.and_eq_true, Bool.not_eq_true', decide_eq_true_eq]
    rintro ⟨whole, long⟩
    rcases short with pointed | few
    · exact Bool.noConfusion (whole.symm.trans pointed)
    · omega
  unfold readScalar
  simp only [take_while_stops all stops, drop_while_stops all stops, numeral.wellFormed, dif_pos,
    if_neg kept]

/-- What a scalar's text begins with. -/
theorem read_scalar_head {char : Char} {text rest : List Char} (solid : isSpace char = false)
    (not_quote : char ≠ '"') (not_bracket : char ≠ '[') (not_brace : char ≠ '{')
    (depth fuel : Nat) (begins : text = char :: rest) :
    read depth (fuel + 1) text = readScalar text := by
  subst begins
  simp only [read, skip_cons solid, not_quote, not_bracket, not_brace, if_false]

theorem read_word (word : Word) (depth fuel : Nat) (rest : List Char) :
    read depth (fuel + 1) (word.text ++ rest) = .ok (.word word, rest) := by
  rw [← read_scalar_word word rest]
  obtain ⟨char, tail, text, solid, not_quote, not_bracket, not_brace⟩ :
      ∃ char tail, word.text = char :: tail ∧ isSpace char = false ∧ char ≠ '"' ∧
        char ≠ '[' ∧ char ≠ '{' := by
    cases word <;> exact ⟨_, _, rfl, by decide⟩
  exact read_scalar_head solid not_quote not_bracket not_brace depth fuel (by rw [text]; rfl)

theorem read_numeral (numeral : Numeral) (short : Short numeral.text) (depth fuel : Nat)
    {rest : List Char} (stops : Stops rest) :
    read depth (fuel + 1) (numeral.text ++ rest) = .ok (.number numeral, rest) := by
  obtain ⟨char, tail, text, lead⟩ := numeral_head numeral
  obtain ⟨solid, not_quote, not_bracket, -, not_brace⟩ := digit_not_mark lead
  rw [← read_scalar_numeral numeral short stops]
  exact read_scalar_head solid not_quote not_bracket not_brace depth fuel (by rw [text]; rfl)

theorem unsigned_int_text (value : Int) :
    unsigned (intText value) = Nat.toDigits 10 value.natAbs := by
  have text := unsigned_signed (decide (value < 0)) value.natAbs []
  rwa [List.append_nil] at text

theorem print_head (level : Nat) (value : Document) :
    ∃ char rest, print layout level value = char :: rest ∧ isSpace char = false ∧ char ≠ ']' := by
  cases value with
  | word word => cases word <;> exact ⟨_, _, rfl, by decide⟩
  | number numeral =>
      obtain ⟨char, rest, text, lead⟩ := numeral_head numeral
      have marks := digit_not_mark lead
      exact ⟨char, rest, by simpa only [print] using text, marks.1, marks.2.2.2.1⟩
  | string value => exact ⟨_, _, rfl, by decide⟩
  | array items =>
      cases items with
      | nil => exact ⟨_, _, rfl, by decide⟩
      | cons item rest => exact ⟨_, _, rfl, by decide⟩
  | object members =>
      cases members with
      | nil => exact ⟨_, _, rfl, by decide⟩
      | cons member rest => exact ⟨_, _, rfl, by decide⟩

mutual

theorem read_print : ∀ (value : Value) (level depth fuel : Nat) (rest : List Char),
    value.Fits depth → (print layout level (document value)).length < fuel → Stops rest →
      read depth fuel (print layout level (document value) ++ rest) = .ok (document value, rest)
  | value, level, depth, 0, rest, fits, enough, stops => absurd enough (Nat.not_lt_zero _)
  | .none, level, depth, fuel + 1, rest, fits, enough, stops => by
      simp only [document, print, read_word]
  | .bool true, level, depth, fuel + 1, rest, fits, enough, stops => by
      simp only [document, print, read_word]
  | .bool false, level, depth, fuel + 1, rest, fits, enough, stops => by
      simp only [document, print, read_word]
  | .int value, level, depth, fuel + 1, rest, fits, enough, stops => by
      simp only [document, print]
      have few : (unsigned (intText value)).length ≤ maxStrDigits := by
        rw [unsigned_int_text]
        exact fits
      exact read_numeral ⟨intText value, int_text_well_formed value⟩ (.inr few) depth fuel stops
  | .float (.finite value), level, depth, fuel + 1, rest, fits, enough, stops => by
      simp only [document, print]
      exact read_numeral ⟨_, _⟩ (.inl (writes_float_text value).2.1) depth fuel stops
  | .float (.infinite false), level, depth, fuel + 1, rest, fits, enough, stops => by
      simp only [document, print, read_word]
  | .float (.infinite true), level, depth, fuel + 1, rest, fits, enough, stops => by
      simp only [document, print, read_word]
  | .float .nan, level, depth, fuel + 1, rest, fits, enough, stops => by
      simp only [document, print, read_word]
  | .str value, level, depth, fuel + 1, rest, fits, enough, stops => by
      simp only [document, print, quoteUnits, read, List.cons_append, List.append_assoc,
        List.nil_append, skip_cons (show isSpace '"' = false by decide), if_true, read_string,
        orDecodeError, bind, Except.bind]
  | .list [], level, depth, fuel + 1, rest, fits, enough, stops => by
      have inside : ¬ depth = 0 := Nat.pos_iff_ne_zero.mp fits.1
      simp [document, documentItems, print, read, skip, isSpace, inside]
  | .list (item :: items), level, depth, fuel + 1, rest, fits, enough, stops => by
      have inside : ¬ depth = 0 := Nat.pos_iff_ne_zero.mp fits.1
      simp only [document, documentItems, print, List.length_cons, List.length_append] at enough
      have head := read_print item (level + 1) (depth - 1) fuel
        (printItems layout level (documentItems items) ++ rest) fits.2.1 (by omega)
        (stops_items layout level items rest)
      have tail := read_print_items items level (depth - 1) fuel rest fits.2.2 (by omega)
      obtain ⟨char, after, text, solid, not_bracket⟩ :=
        print_head layout (level + 1) (document item)
      simp only [document, documentItems, print, read, List.cons_append, List.append_assoc,
        skip_cons (show isSpace '[' = false by decide), if_true, if_false, inside,
        show ¬ '[' = '"' by decide, read_gap, skip_gap, head, tail, bind, Except.bind]
      split
      · rename_i closed
        rw [text, List.cons_append, skip_cons solid] at closed
        exact absurd (List.cons.inj closed).1 not_bracket
      · rfl
  | .dict [], level, depth, fuel + 1, rest, fits, enough, stops => by
      have inside : ¬ depth = 0 := Nat.pos_iff_ne_zero.mp fits.1
      simp [document, documentMembers, print, read, skip, isSpace, inside]
  | .dict ((key, value) :: items), level, depth, fuel + 1, rest, fits, enough, stops => by
      have inside : ¬ depth = 0 := Nat.pos_iff_ne_zero.mp fits.1
      simp only [document, documentMembers, print, List.length_cons, List.length_append] at enough
      have head := read_print value (level + 1) (depth - 1) fuel
        (printMembers layout level (documentMembers items) ++ rest) fits.2.1 (by omega)
        (stops_members layout level items rest)
      have tail := read_print_members items level (depth - 1) fuel rest fits.2.2 (by omega)
      simp only [document, documentMembers, print, read, List.cons_append, List.append_assoc,
        skip_cons (show isSpace '{' = false by decide), if_true, if_false, inside,
        show ¬ '{' = '"' by decide, show ¬ '{' = '[' by decide,
        read_name_blank (layout.gap_blank _), skip_gap,
        read_name_quote, read_blank layout.after_key_blank, head, tail, bind, Except.bind]
      split
      · rename_i closed
        simp only [quoteUnits, List.cons_append,
          skip_cons (show isSpace '"' = false by decide)] at closed
        exact absurd (List.cons.inj closed).1 (by decide)
      · rfl

theorem read_print_items : ∀ (items : List Value) (level depth fuel : Nat) (rest : List Char),
    FitsItems depth items → (printItems layout level (documentItems items)).length < fuel →
      readItems depth fuel (printItems layout level (documentItems items) ++ rest) =
        .ok (documentItems items, rest)
  | items, level, depth, 0, rest, fits, enough => absurd enough (Nat.not_lt_zero _)
  | [], level, depth, fuel + 1, rest, fits, enough => by
      simp only [documentItems, printItems, readItems, List.append_assoc, skip_gap,
        List.cons_append, List.nil_append, skip_cons (show isSpace ']' = false by decide)]
  | item :: items, level, depth, fuel + 1, rest, fits, enough => by
      simp only [documentItems, printItems, List.length_cons, List.length_append] at enough
      have head := read_print item (level + 1) depth fuel
        (printItems layout level (documentItems items) ++ rest) fits.1 (by omega)
        (stops_items layout level items rest)
      have tail := read_print_items items level depth fuel rest fits.2 (by omega)
      simp only [documentItems, printItems, readItems, List.cons_append, List.append_assoc,
        skip_cons (show isSpace ',' = false by decide), read_blank (layout.after_comma_blank _),
        head, tail, bind, Except.bind]

theorem read_print_members : ∀ (items : List (Str × Value)) (level depth fuel : Nat)
    (rest : List Char), FitsMembers depth items →
    (printMembers layout level (documentMembers items)).length < fuel →
      readMembers depth fuel (printMembers layout level (documentMembers items) ++ rest) =
        .ok (documentMembers items, rest)
  | items, level, depth, 0, rest, fits, enough => absurd enough (Nat.not_lt_zero _)
  | [], level, depth, fuel + 1, rest, fits, enough => by
      simp only [documentMembers, printMembers, readMembers, List.append_assoc, skip_gap,
        List.cons_append, List.nil_append, skip_cons (show isSpace '}' = false by decide)]
  | (key, value) :: items, level, depth, fuel + 1, rest, fits, enough => by
      simp only [documentMembers, printMembers, List.length_cons, List.length_append] at enough
      have head := read_print value (level + 1) depth fuel
        (printMembers layout level (documentMembers items) ++ rest) fits.1 (by omega)
        (stops_members layout level items rest)
      have tail := read_print_members items level depth fuel rest fits.2 (by omega)
      simp only [documentMembers, printMembers, readMembers, List.cons_append, List.append_assoc,
        skip_cons (show isSpace ',' = false by decide),
        read_name_blank (layout.after_comma_blank _), read_name_quote,
        read_blank layout.after_key_blank, head, tail, bind, Except.bind]

end

end

/-- A text is read back, with blank space after it. -/
theorem loads_dumps (layout : Layout) (depth : Nat) {value : Value} (fits : value.Fits depth)
    {blank : List Char} (all : ∀ char ∈ blank, isSpace char = true) :
    loads depth (dumps layout value ++ blank) = .ok (settle (document value)) := by
  have ends : skip blank = [] := List.dropWhile_eq_nil_iff.mpr all
  have stops : Stops blank := by
    intro char first
    exact numeral_char_of_blank (all char (List.mem_of_mem_head? first))
  have whole := read_print layout value 0 depth ((dumps layout value ++ blank).length + 1) blank
    fits (by simp only [List.length_append, dumps]; omega) stops
  change read _ _ (dumps layout value ++ blank) = _ at whole
  simp only [loads, readWhole, whole, bind, Except.bind, ends, if_true, Except.map]

/-! ## Surrogate pairs -/

def Joined (value : Str) : Prop :=
  joined value = value

instance (value : Str) : Decidable (Joined value) :=
  inferInstanceAs (Decidable (joined value = value))

def startsLow : List CodePoint → Bool
  | [] => false
  | unit :: _ => isLow unit

theorem join_apart {unit : CodePoint} {rest : List CodePoint}
    (apart : (isHigh unit && startsLow rest) = false) :
    joinPairs (unit :: rest) = unit :: joinPairs rest := by
  cases rest with
  | nil => rfl
  | cons low rest =>
      simp only [startsLow] at apart
      simp only [joinPairs, apart, Bool.false_eq_true, if_false]

theorem units_below {point : CodePoint} (below : point.val < 0x10000) : units point = [point] := by
  rw [units, if_pos below]

/-- A code point past the first plane is read back from its pair. -/
theorem join_units_past {point : CodePoint} (past : ¬ point.val < 0x10000)
    (rest : List CodePoint) : joinPairs (units point ++ rest) = point :: joinPairs rest := by
  have bound := point.isLt
  have high_mod : (0xd800 + (point.val - 0x10000) / 0x400) % 0x110000 =
      0xd800 + (point.val - 0x10000) / 0x400 := Nat.mod_eq_of_lt (by omega)
  have low_mod : (0xdc00 + (point.val - 0x10000) % 0x400) % 0x110000 =
      0xdc00 + (point.val - 0x10000) % 0x400 := Nat.mod_eq_of_lt (by omega)
  have pair : (isHigh (Fin.ofNat 0x110000 (0xd800 + (point.val - 0x10000) / 0x400)) &&
      isLow (Fin.ofNat 0x110000 (0xdc00 + (point.val - 0x10000) % 0x400))) = true := by
    simp only [isHigh, isLow, Fin.val_ofNat, high_mod, low_mod, Bool.and_eq_true,
      decide_eq_true_eq]
    omega
  simp only [units, past, if_false, List.cons_append, List.nil_append, joinPairs, pair, if_true,
    List.cons.injEq, and_true]
  apply Fin.ext
  simp only [Fin.val_ofNat, high_mod, low_mod]
  omega

theorem starts_low_units {point : CodePoint} {rest : List CodePoint}
    (low : startsLow (units point ++ rest) = true) : isLow point = true := by
  by_cases below : point.val < 0x10000
  · rw [units_below below] at low
    exact low
  · have bound := point.isLt
    simp only [units, below, if_false, List.cons_append, startsLow, isLow, Fin.val_ofNat,
      Bool.and_eq_true, decide_eq_true_eq] at low
    omega

/-- The first code point of a joined string is a low surrogate only if it was one before. -/
theorem starts_low_joined {point : CodePoint} {rest : List CodePoint}
    (low : startsLow ((joinPairs (point :: rest)).flatMap units) = true) :
    isLow point = true := by
  cases rest with
  | nil =>
      simp only [joinPairs, List.flatMap_cons] at low
      exact starts_low_units low
  | cons second rest =>
      by_cases pair : (isHigh point && isLow second) = true
      · simp only [joinPairs, pair, if_true, List.flatMap_cons] at low
        have joined_low := starts_low_units low
        simp only [isHigh, isLow, Bool.and_eq_true, decide_eq_true_eq, Fin.val_ofNat]
          at joined_low pair
        omega
      · rw [Bool.not_eq_true] at pair
        rw [join_apart pair, List.flatMap_cons] at low
        exact starts_low_units low

theorem join_units_cons {point : CodePoint} {rest : List CodePoint}
    (apart : (isHigh point && startsLow rest) = false) :
    joinPairs (units point ++ rest) = point :: joinPairs rest := by
  by_cases below : point.val < 0x10000
  · rw [units_below below]
    exact join_apart apart
  · exact join_units_past below rest

theorem joined_join_pairs (points : List CodePoint) : Joined (joinPairs points) := by
  unfold Joined joined
  induction points using joinPairs.induct with
  | case1 => rfl
  | case2 unit =>
      have whole := @join_units_cons unit [] (by simp [startsLow])
      simpa [joinPairs] using whole
  | case3 high low rest pair inductive_hypothesis =>
      simp only [joinPairs, pair, if_true, List.flatMap_cons]
      rw [join_units_past, inductive_hypothesis]
      simp only [isHigh, isLow, Bool.and_eq_true, decide_eq_true_eq] at pair
      rw [Fin.val_ofNat, Nat.mod_eq_of_lt (by omega)]
      omega
  | case4 unit low rest apart inductive_hypothesis =>
      rw [Bool.not_eq_true] at apart
      rw [join_apart apart, List.flatMap_cons, join_units_cons, inductive_hypothesis]
      by_contra pair
      rw [Bool.not_eq_false, Bool.and_eq_true] at pair
      rw [pair.1, starts_low_joined pair.2] at apart
      contradiction

/-- A pair that is joined goes past the first plane. -/
theorem joined_below {value : Str} (below : ∀ point ∈ joined value, point.val < 0x10000) :
    joined value = value := by
  induction value with
  | nil => rfl
  | cons point rest induction =>
      unfold joined at below ⊢
      rw [List.flatMap_cons] at below ⊢
      by_cases apart : (isHigh point && startsLow (rest.flatMap units)) = false
      · rw [join_units_cons apart] at below ⊢
        exact congrArg (point :: ·) (induction fun later member =>
          below later (List.mem_cons_of_mem _ member))
      · rw [Bool.not_eq_false, Bool.and_eq_true] at apart
        obtain ⟨high, low⟩ := apart
        exfalso
        have small : point.val < 0x10000 := by
          simp only [isHigh, Bool.and_eq_true, decide_eq_true_eq] at high
          omega
        rw [units_below small] at below
        cases tail : rest.flatMap units with
        | nil =>
            rw [tail] at low
            cases low
        | cons second others =>
            rw [tail] at low below
            have pair : (isHigh point && isLow second) = true :=
              Bool.and_eq_true_iff.mpr ⟨high, low⟩
            simp only [List.cons_append, List.nil_append, joinPairs, pair, if_true,
              List.forall_mem_cons, Fin.val_ofNat] at below
            simp only [isHigh, isLow, Bool.and_eq_true, decide_eq_true_eq] at pair
            omega

/-! ## Settled values -/

mutual

/-- Every `dict` is in key order. -/
def Value.Ordered : Value → Prop
  | .list items => OrderedItems items
  | .dict items => SortedDict.Sorted items ∧ OrderedMembers items
  | _ => True

def OrderedItems : List Value → Prop
  | [] => True
  | item :: rest => item.Ordered ∧ OrderedItems rest

def OrderedMembers : List (Str × Value) → Prop
  | [] => True
  | (_, value) :: rest => value.Ordered ∧ OrderedMembers rest

end

mutual

def Value.Joined : Value → Prop
  | .str value => JsonDocument.Joined value
  | .list items => JoinedItems items
  | .dict items => JoinedMembers items
  | _ => True

def JoinedItems : List Value → Prop
  | [] => True
  | item :: rest => item.Joined ∧ JoinedItems rest

def JoinedMembers : List (Str × Value) → Prop
  | [] => True
  | (key, value) :: rest => JsonDocument.Joined key ∧ value.Joined ∧ JoinedMembers rest

end

theorem ordered_members_iff (items : List (Str × Value)) :
    OrderedMembers items ↔ ∀ entry ∈ items, entry.2.Ordered := by
  induction items with
  | nil => simp [OrderedMembers]
  | cons entry rest inductive_hypothesis =>
      simp [OrderedMembers, inductive_hypothesis]

theorem joined_members_iff (items : List (Str × Value)) :
    JoinedMembers items ↔ ∀ entry ∈ items, Joined entry.1 ∧ entry.2.Joined := by
  induction items with
  | nil => simp [JoinedMembers]
  | cons entry rest inductive_hypothesis =>
      simp [JoinedMembers, inductive_hypothesis, and_assoc]

mutual

theorem settle_ordered : ∀ value : Document, (settle value).Ordered
  | .word word => by cases word <;> exact trivial
  | .number numeral => by
      unfold settle
      split <;> exact trivial
  | .string units => trivial
  | .array items => settle_items_ordered items
  | .object members => by
      apply And.intro (SortedDict.sorted_of_entries _)
      rw [ordered_members_iff]
      intro entry member
      exact settle_members_ordered members entry (SortedDict.mem_of_entries member)

theorem settle_items_ordered : ∀ items : List Document, OrderedItems (settleItems items)
  | [] => trivial
  | item :: rest => ⟨settle_ordered item, settle_items_ordered rest⟩

theorem settle_members_ordered : ∀ members : List (List CodePoint × Document),
    ∀ entry ∈ settleMembers members, entry.2.Ordered
  | [], entry, member => by cases member
  | (key, value) :: rest, entry, member => by
      rcases List.mem_cons.mp member with rfl | later
      · exact settle_ordered value
      · exact settle_members_ordered rest entry later

end

mutual

theorem settle_joined : ∀ value : Document, (settle value).Joined
  | .word word => by cases word <;> exact trivial
  | .number numeral => by
      unfold settle
      split <;> exact trivial
  | .string units => joined_join_pairs units
  | .array items => settle_items_joined items
  | .object members => by
      change JoinedMembers _
      rw [joined_members_iff]
      intro entry member
      exact settle_members_joined members entry (SortedDict.mem_of_entries member)

theorem settle_items_joined : ∀ items : List Document, JoinedItems (settleItems items)
  | [] => trivial
  | item :: rest => ⟨settle_joined item, settle_items_joined rest⟩

theorem settle_members_joined : ∀ members : List (List CodePoint × Document),
    ∀ entry ∈ settleMembers members, Joined entry.1 ∧ entry.2.Joined
  | [], entry, member => by cases member
  | (key, value) :: rest, entry, member => by
      rcases List.mem_cons.mp member with rfl | later
      · exact ⟨joined_join_pairs key, settle_joined value⟩
      · exact settle_members_joined rest entry later

end

def Value.reread (value : Value) : Value :=
  settle (document value)

theorem settle_document_members (items : List (Str × Value)) :
    settleMembers (documentMembers items) =
      items.map fun entry => (joined entry.1, entry.2.reread) := by
  induction items with
  | nil => rfl
  | cons entry rest inductive_hypothesis =>
      rw [documentMembers, settleMembers, inductive_hypothesis]
      rfl

/-- A `dict` is read back with its items, whatever their order. -/
theorem reread_get {members : List (Str × Value)} (names : (members.map Prod.fst).Nodup)
    (unpaired : ∀ name ∈ members.map Prod.fst, Joined name) :
    ∃ items, (Value.dict members).reread = .dict items ∧
      ∀ key, SortedDict.get key items = (SortedDict.get key members).map Value.reread := by
  refine ⟨_, rfl, fun key => ?_⟩
  have distinct : SortedDict.Distinct members := List.pairwise_map.mp names
  have same : (members.map fun member => (joined member.1, member.2.reread)) =
      members.map fun member => (member.1, member.2.reread) :=
    List.map_congr_left fun member inside => by
      rw [unpaired member.1 (List.mem_map_of_mem inside)]
  have apart : SortedDict.Distinct (members.map fun member => (member.1, member.2.reread)) :=
    List.Pairwise.map _ (fun _ _ different => different) distinct
  rw [settle_document_members, same, SortedDict.get_of_entries apart, SortedDict.get_map]

mutual

theorem reread_settled : ∀ value : Value, value.Ordered → value.Joined → value.reread = value
  | .none, ordered, unpaired => rfl
  | .bool true, ordered, unpaired => rfl
  | .bool false, ordered, unpaired => rfl
  | .int value, ordered, unpaired => by
      simp only [Value.reread, document, settle, int_text_not_float, int_text_reads_back,
        Bool.false_eq_true, if_false]
  | .float (.finite value), ordered, unpaired => by
      obtain ⟨-, pointed, reads_back⟩ := writes_float_text value
      simp only [Value.reread, document, settle, pointed, reads_back, if_true]
  | .float (.infinite false), ordered, unpaired => rfl
  | .float (.infinite true), ordered, unpaired => rfl
  | .float .nan, ordered, unpaired => rfl
  | .str value, ordered, unpaired => congrArg Value.str unpaired
  | .list items, ordered, unpaired => by
      simp only [Value.reread, document, settle]
      rw [reread_items_settled items ordered unpaired]
  | .dict items, ordered, unpaired => by
      simp only [Value.reread, document, settle]
      rw [reread_members_settled items ordered.2 unpaired,
        SortedDict.of_entries_sorted ordered.1]

theorem reread_items_settled : ∀ items : List Value, OrderedItems items → JoinedItems items →
    settleItems (documentItems items) = items
  | [], ordered, unpaired => rfl
  | item :: rest, ordered, unpaired => by
      have head := reread_settled item ordered.1 unpaired.1
      rw [Value.reread] at head
      rw [documentItems, settleItems, head, reread_items_settled rest ordered.2 unpaired.2]

theorem reread_members_settled : ∀ items : List (Str × Value), OrderedMembers items →
    JoinedMembers items → settleMembers (documentMembers items) = items
  | [], ordered, unpaired => rfl
  | (key, value) :: rest, ordered, unpaired => by
      have head := reread_settled value ordered.1 unpaired.2.1
      have name : joinPairs (key.flatMap units) = key := unpaired.1
      rw [Value.reread] at head
      rw [documentMembers, settleMembers, head, name,
        reread_members_settled rest ordered.2 unpaired.2.2]

end

/-- What was read once is read again as it is. -/
theorem reread_loaded {depth : Nat} {text : List Char} {value : Value}
    (loaded : loads depth text = .ok value) :
    value.Ordered ∧ value.Joined ∧ value.reread = value := by
  unfold loads at loaded
  cases scanned : readWhole depth text with
  | error failure =>
      rw [scanned] at loaded
      cases loaded
  | ok whole =>
      rw [scanned] at loaded
      obtain rfl := Except.ok.inj loaded
      have ordered := settle_ordered whole
      have unpaired := settle_joined whole
      exact ⟨ordered, unpaired, reread_settled _ ordered unpaired⟩

/-- A `dict` whose keys spell out no pair is read back item by item. -/
theorem reread_dict {items : List (Str × Value)} (sorted : SortedDict.Sorted items)
    (unpaired : ∀ entry ∈ items, Joined entry.1) :
    (Value.dict items).reread =
      .dict (items.map fun entry => (entry.1, entry.2.reread)) := by
  have keys : (items.map fun entry => (joined entry.1, entry.2.reread)) =
      items.map fun entry => (entry.1, entry.2.reread) := by
    apply List.map_congr_left
    intro entry member
    rw [unpaired entry member]
  simp only [Value.reread, document, settle]
  rw [settle_document_members, keys, SortedDict.of_entries_sorted (sorted.map Value.reread)]
  rfl

/-! ## What was read fits -/

mutual

/-- Where the document came from, there was room for it, and its integers were short. -/
def Document.Bounded (depth : Nat) : Document → Prop
  | .number numeral => Short numeral.text
  | .array items => 0 < depth ∧ BoundedItems (depth - 1) items
  | .object members => 0 < depth ∧ BoundedMembers (depth - 1) members
  | _ => True

def BoundedItems (depth : Nat) : List Document → Prop
  | [] => True
  | item :: rest => item.Bounded depth ∧ BoundedItems depth rest

def BoundedMembers (depth : Nat) : List (List CodePoint × Document) → Prop
  | [] => True
  | (_, value) :: rest => value.Bounded depth ∧ BoundedMembers depth rest

end

theorem bind_ok {First Second : Type} {first : Except Failure First}
    {next : First → Except Failure Second} {result : Second}
    (ran : first >>= next = .ok result) :
    ∃ value, first = .ok value ∧ next value = .ok result := by
  cases first with
  | error failure => cases ran
  | ok value => exact ⟨value, rfl, ran⟩

theorem read_scalar_bounded {text rest : List Char} {document : Document} (depth : Nat)
    (read : readScalar text = .ok (document, rest)) : document.Bounded depth := by
  unfold readScalar at read
  split at read
  · split at read
    · cases read
    · rename_i short
      cases read
      rw [Bool.and_eq_true, Bool.not_eq_true', decide_eq_true_eq] at short
      change Short (text.takeWhile isNumeralChar)
      by_cases pointed : isFloat (text.takeWhile isNumeralChar) = true
      · exact .inl pointed
      · refine .inr (Nat.le_of_not_lt fun long => short ⟨?_, long⟩)
        exact Bool.eq_false_iff.mpr pointed
  · unfold readWord at read
    cases found : Word.all.find? fun word => word.text.isPrefixOf text with
    | none =>
        rw [found] at read
        cases read
    | some word =>
        rw [found] at read
        cases read
        exact trivial

theorem read_bounded (fuel : Nat) :
    (∀ depth text document rest, read depth fuel text = .ok (document, rest) →
      document.Bounded depth) ∧
    (∀ depth text items rest, readItems depth fuel text = .ok (items, rest) →
      BoundedItems depth items) ∧
    ∀ depth text members rest, readMembers depth fuel text = .ok (members, rest) →
      BoundedMembers depth members := by
  induction fuel with
  | zero =>
      refine ⟨?_, ?_, ?_⟩ <;> intro depth text result rest ran <;> cases ran
  | succ fuel induction =>
      obtain ⟨values, items, members⟩ := induction
      refine ⟨?_, ?_, ?_⟩
      · intro depth text document rest ran
        rw [read] at ran
        split at ran
        · cases ran
        · rename_i char after _
          split at ran
          · obtain ⟨⟨units, left⟩, -, made⟩ := bind_ok ran
            cases made
            exact trivial
          · split at ran
            · split at ran
              · cases ran
              · rename_i room
                split at ran
                · cases ran
                  exact ⟨Nat.pos_of_ne_zero room, trivial⟩
                · obtain ⟨⟨item, left⟩, first, ran⟩ := bind_ok ran
                  obtain ⟨⟨others, last⟩, later, made⟩ := bind_ok ran
                  cases made
                  exact ⟨Nat.pos_of_ne_zero room, values _ _ _ _ first, items _ _ _ _ later⟩
            · split at ran
              · split at ran
                · cases ran
                · rename_i room
                  split at ran
                  · cases ran
                    exact ⟨Nat.pos_of_ne_zero room, trivial⟩
                  · obtain ⟨⟨key, named⟩, -, ran⟩ := bind_ok ran
                    obtain ⟨⟨value, left⟩, first, ran⟩ := bind_ok ran
                    obtain ⟨⟨others, last⟩, later, made⟩ := bind_ok ran
                    cases made
                    exact ⟨Nat.pos_of_ne_zero room, values _ _ _ _ first,
                      members _ _ _ _ later⟩
              · exact read_scalar_bounded depth ran
      · intro depth text found rest ran
        rw [readItems] at ran
        split at ran
        · cases ran
          exact trivial
        · obtain ⟨⟨item, left⟩, first, ran⟩ := bind_ok ran
          obtain ⟨⟨others, last⟩, later, made⟩ := bind_ok ran
          cases made
          exact ⟨values _ _ _ _ first, items _ _ _ _ later⟩
        · cases ran
      · intro depth text found rest ran
        rw [readMembers] at ran
        split at ran
        · cases ran
          exact trivial
        · obtain ⟨⟨key, named⟩, -, ran⟩ := bind_ok ran
          obtain ⟨⟨value, left⟩, first, ran⟩ := bind_ok ran
          obtain ⟨⟨others, last⟩, later, made⟩ := bind_ok ran
          cases made
          exact ⟨values _ _ _ _ first, members _ _ _ _ later⟩
        · cases ran

/-- Digits make no larger number than nines. -/
theorem of_digit_chars_lt {text : List Char} (init : Nat)
    (digits : ∀ char ∈ text, char.toNat - '0'.toNat ≤ 9) :
    Nat.ofDigitChars 10 text init < (init + 1) * 10 ^ text.length := by
  induction text generalizing init with
  | nil =>
      rw [Nat.ofDigitChars_nil, List.length_nil]
      omega
  | cons char rest induction =>
      obtain ⟨small, later⟩ := List.forall_mem_cons.mp digits
      have below := induction (10 * init + (char.toNat - '0'.toNat)) later
      rw [Nat.ofDigitChars_cons, List.length_cons, Nat.pow_succ, ← Nat.mul_assoc,
        Nat.mul_right_comm]
      refine below.trans_le (Nat.mul_le_mul_right _ ?_)
      omega

theorem numeral_digit {char : Char} (numeral : isNumeralChar char = true)
    (plain : char ≠ '.' ∧ char ≠ 'e' ∧ char ≠ 'E') : char.toNat - '0'.toNat ≤ 9 := by
  unfold isNumeralChar at numeral
  simp only [Bool.or_eq_true, decide_eq_true_eq, plain.1, plain.2.1, plain.2.2, or_false] at numeral
  rcases numeral with (digit | rfl) | rfl
  · have bounds := Char.isDigit_iff_toNat.mp digit
    have zero : '0'.toNat = 48 := rfl
    have nine : '9'.toNat = 57 := rfl
    omega
  · decide
  · decide

theorem fits_members_iff (depth : Nat) (items : List (Str × Value)) :
    FitsMembers depth items ↔ ∀ entry ∈ items, entry.2.Fits depth := by
  induction items with
  | nil => simp [FitsMembers]
  | cons entry rest induction => simp [FitsMembers, induction]

theorem settle_number_fits (numeral : Numeral) (depth : Nat) (short : Short numeral.text) :
    (settle (.number numeral)).Fits depth := by
  unfold settle
  split
  · exact trivial
  · rename_i whole
    have few := short.resolve_left whole
    have chars := read_numeral_chars numeral.wellFormed
    change (Nat.toDigits 10 (readInt numeral.text).natAbs).length ≤ maxStrDigits
    have value : (readInt numeral.text).natAbs =
        Nat.ofDigitChars 10 (unsigned numeral.text) 0 := by
      unfold readInt
      split
      · rw [Int.natAbs_neg]
        rfl
      · rename_i positive
        rw [unsigned, if_neg positive]
        rfl
    have digits : ∀ char ∈ unsigned numeral.text, char.toNat - '0'.toNat ≤ 9 := by
      intro char member
      have inside : char ∈ numeral.text := by
        unfold unsigned at member
        split at member
        · exact List.mem_of_mem_tail member
        · exact member
      apply numeral_digit (chars char inside)
      unfold isFloat at whole
      have apart := fun found => whole (List.any_eq_true.mpr ⟨char, inside, found⟩)
      simpa [not_or, and_assoc] using apart
    have below := of_digit_chars_lt 0 digits
    rw [value]
    apply (Nat.length_toDigits_le_iff (by decide) (by decide)).mpr
    refine below.trans_le ?_
    rw [Nat.zero_add, Nat.one_mul]
    exact Nat.pow_le_pow_right (by decide) few

mutual

theorem settle_fits : ∀ (document : Document) (depth : Nat), document.Bounded depth →
    (settle document).Fits depth
  | .word .null, depth, bounded => trivial
  | .word .truth, depth, bounded => trivial
  | .word .falsity, depth, bounded => trivial
  | .word .nan, depth, bounded => trivial
  | .word .infinity, depth, bounded => trivial
  | .word .negativeInfinity, depth, bounded => trivial
  | .number numeral, depth, bounded => settle_number_fits numeral depth bounded
  | .string units, depth, bounded => trivial
  | .array items, depth, bounded => ⟨bounded.1, settle_items_fit items _ bounded.2⟩
  | .object members, depth, bounded => by
      refine ⟨bounded.1, (fits_members_iff _ _).mpr ?_⟩
      intro entry member
      exact settle_members_fit members _ bounded.2 entry (SortedDict.mem_of_entries member)

theorem settle_items_fit : ∀ (items : List Document) (depth : Nat), BoundedItems depth items →
    FitsItems depth (settleItems items)
  | [], _, _ => trivial
  | item :: rest, depth, bounded =>
      ⟨settle_fits item depth bounded.1, settle_items_fit rest depth bounded.2⟩

theorem settle_members_fit : ∀ (members : List (List CodePoint × Document)) (depth : Nat),
    BoundedMembers depth members → ∀ entry ∈ settleMembers members, entry.2.Fits depth
  | [], depth, bounded, entry, member => by cases member
  | (key, value) :: rest, depth, bounded, entry, member => by
      rcases List.mem_cons.mp member with rfl | later
      · exact settle_fits value depth bounded.1
      · exact settle_members_fit rest depth bounded.2 entry later

end

/-- What was read once can be read again. -/
theorem loads_fits {depth : Nat} {text : List Char} {value : Value}
    (loaded : loads depth text = .ok value) : value.Fits depth := by
  unfold loads at loaded
  cases whole : readWhole depth text with
  | error failure =>
      rw [whole] at loaded
      cases loaded
  | ok found =>
      rw [whole] at loaded
      cases loaded
      obtain ⟨⟨read, rest⟩, scanned, made⟩ := bind_ok whole
      dsimp only at made
      split at made
      · cases made
        exact settle_fits _ depth ((read_bounded _).1 _ _ _ _ scanned)
      · cases made

end HermesCashew.JsonDocument
