import HermesCashew.Framing
import HermesCashew.JsonDocument
import Mathlib.Algebra.BigOperators.Group.List.Basic
import Mathlib.Algebra.GroupWithZero.Nat

/-!
# JSON documents as bytes

`json.dumps(value, separators=(",", ":")).encode()` and `json.loads` of what is received.
With `ensure_ascii` every character that is written is one byte.
-/

namespace HermesCashew.JsonMessage

open HermesCashew.Framing (Byte)
open HermesCashew.JsonText (CodePoint Str str units escapeUnit quote)
open HermesCashew.JsonNumber
open HermesCashew.JsonDocument

set_option autoImplicit false

/-- `text.encode("utf-8")` of a text without surrogates. -/
def encode (text : List Char) : List Byte :=
  text.flatMap String.utf8EncodeChar

/-- `json.dumps(value, separators=(",", ":")).encode()`. -/
def message (value : Value) : List Byte :=
  encode (dumps compact value)

/-- The interpreter that reads: how many arrays and objects inside each other its stack has
room for, and what `json.loads` makes of bytes that are not all ASCII, or have zeros. -/
structure Interpreter where
  nesting : Nat
  roomy : 2 ≤ nesting
  wide : List Byte → Except Failure Value

def isPlain (byte : Byte) : Bool :=
  0 < byte.toNat && byte.toNat < 128

/-- `json.loads` of bytes. -/
def loadsBytes (interpreter : Interpreter) (bytes : List Byte) : Except Failure Value :=
  if bytes.all isPlain then
    loads interpreter.nesting (bytes.map fun byte => Char.ofNat byte.toNat)
  else interpreter.wide bytes

/-- `value.get(key)` of a `dict`, with `none` for an absent key. -/
def item (key : Str) (items : List (Str × Value)) : Value :=
  (SortedDict.get key items).getD .none

/-- `value == number`, where `True == 1` and `1.0 == 1`. -/
def equalsInt : Value → Nat → Bool
  | .bool value, number => value.toNat = number
  | .int value, number => value = number
  | .float value, number => value = ofInt number
  | _, _ => false

/-- `value == text`. -/
def equalsText : Value → Str → Bool
  | .str value, text => value = text
  | _, _ => false

/-! ## Every character is ASCII -/

def Ascii (text : List Char) : Prop :=
  ∀ char ∈ text, 0 < char.toNat ∧ char.toNat < 128

theorem Ascii.append {first second : List Char} (one : Ascii first) (two : Ascii second) :
    Ascii (first ++ second) := by
  intro char member
  rcases List.mem_append.mp member with inside | inside
  · exact one char inside
  · exact two char inside

theorem Ascii.cons {char : Char} {rest : List Char} (head : 0 < char.toNat ∧ char.toNat < 128)
    (tail : Ascii rest) : Ascii (char :: rest) :=
  List.forall_mem_cons.mpr ⟨head, tail⟩

theorem ascii_hex_digit {value : Nat} (small : value < 16) :
    0 < (JsonText.hexDigit value).toNat ∧ (JsonText.hexDigit value).toNat < 128 := by
  revert small
  revert value
  decide

theorem ascii_escape_unit (unit : CodePoint) : Ascii (escapeUnit unit) := by
  have sixteen (value : Nat) : value % 16 < 16 := Nat.mod_lt _ (by decide)
  unfold escapeUnit
  split
  · rename_i char special
    apply Ascii.cons (by decide)
    apply Ascii.cons ?_ (List.forall_mem_nil _)
    unfold JsonText.simpleEscape at special
    split at special
    all_goals first | contradiction | (obtain rfl := Option.some.inj special; decide)
  · split
    · rename_i printable
      apply Ascii.cons ?_ (List.forall_mem_nil _)
      rw [JsonText.char_to_nat_of_nat (by omega)]
      omega
    · exact .cons (by decide) (.cons (by decide) (.cons (ascii_hex_digit (sixteen _))
        (.cons (ascii_hex_digit (sixteen _)) (.cons (ascii_hex_digit (sixteen _))
          (.cons (ascii_hex_digit (sixteen _)) (List.forall_mem_nil _))))))

theorem ascii_quote_units (values : List CodePoint) : Ascii (quoteUnits values) := by
  apply Ascii.cons (by decide)
  apply Ascii.append
  · intro char member
    obtain ⟨unit, -, inside⟩ := List.mem_flatMap.mp member
    exact ascii_escape_unit unit char inside
  · exact .cons (by decide) (List.forall_mem_nil _)

theorem ascii_numeral (numeral : JsonText.Numeral) : Ascii numeral.text := by
  intro char member
  have shape := JsonText.read_numeral_chars numeral.wellFormed char member
  simp only [JsonText.isNumeralChar, Bool.or_eq_true, decide_eq_true_eq] at shape
  rcases shape with ((((digit | rfl) | rfl) | rfl) | rfl) | rfl
  · have bounds : 48 ≤ char.toNat ∧ char.toNat ≤ 57 := by
      simpa [Char.isDigit, UInt32.le_iff_toNat_le] using digit
    omega
  all_goals decide

mutual

theorem ascii_print : ∀ (level : Nat) (document : Document), Ascii (print compact level document)
  | level, .word word => by cases word <;> simp [Ascii, print, Word.text]
  | level, .number numeral => ascii_numeral numeral
  | level, .string values => ascii_quote_units values
  | level, .array [] => .cons (by decide) (.cons (by decide) (List.forall_mem_nil _))
  | level, .array (item :: rest) =>
      .cons (by decide) ((ascii_print (level + 1) item).append (ascii_print_items level rest))
  | level, .object [] => .cons (by decide) (.cons (by decide) (List.forall_mem_nil _))
  | level, .object ((key, value) :: rest) =>
      .cons (by decide) ((ascii_quote_units key).append (.cons (by decide)
        ((ascii_print (level + 1) value).append (ascii_print_members level rest))))

theorem ascii_print_items : ∀ (level : Nat) (items : List Document),
    Ascii (printItems compact level items)
  | level, [] => .cons (by decide) (List.forall_mem_nil _)
  | level, item :: rest =>
      .cons (by decide) ((ascii_print (level + 1) item).append (ascii_print_items level rest))

theorem ascii_print_members : ∀ (level : Nat) (members : List (List CodePoint × Document)),
    Ascii (printMembers compact level members)
  | level, [] => .cons (by decide) (List.forall_mem_nil _)
  | level, (key, value) :: rest =>
      .cons (by decide) ((ascii_quote_units key).append (.cons (by decide)
        ((ascii_print (level + 1) value).append (ascii_print_members level rest))))

end

theorem encode_char {char : Char} (small : char.toNat < 128) :
    String.utf8EncodeChar char = [UInt8.ofNat char.toNat] := by
  unfold String.utf8EncodeChar
  have low : char.val.toNat ≤ 127 := Nat.le_of_lt_succ small
  simp only [low, if_true]
  rfl

theorem encode_ascii {text : List Char} (ascii : Ascii text) :
    encode text = text.map fun char => UInt8.ofNat char.toNat := by
  induction text with
  | nil => rfl
  | cons char rest induction =>
      have head := encode_char (ascii char List.mem_cons_self).2
      rw [encode, List.flatMap_cons, head, List.map_cons, List.singleton_append]
      exact congrArg _ (induction fun other member => ascii other (List.mem_cons_of_mem _ member))

theorem byte_char {char : Char} (small : char.toNat < 128) :
    Char.ofNat (UInt8.ofNat char.toNat).toNat = char := by
  rw [UInt8.toNat_ofNat', Nat.mod_eq_of_lt (by omega), Char.ofNat_toNat]

/-- A text of ASCII characters is decoded as it was encoded. -/
theorem decode_ascii {text : List Char} (ascii : Ascii text) :
    (encode text).all isPlain = true ∧
      ((encode text).map fun byte => Char.ofNat byte.toNat) = text := by
  rw [encode_ascii ascii]
  constructor
  · apply List.all_eq_true.mpr
    intro byte member
    obtain ⟨char, inside, rfl⟩ := List.mem_map.mp member
    obtain ⟨positive, small⟩ := ascii char inside
    rw [isPlain, UInt8.toNat_ofNat', Nat.mod_eq_of_lt (by omega), decide_eq_true positive,
      decide_eq_true small]
    rfl
  · rw [List.map_map]
    have same : ∀ char ∈ text, ((fun byte : Byte => Char.ofNat byte.toNat) ∘
        fun char => UInt8.ofNat char.toNat) char = id char :=
      fun char member => byte_char (ascii char member).2
    rw [List.map_congr_left same, List.map_id]

theorem ascii_dumps (value : Value) : Ascii (dumps compact value) :=
  ascii_print 0 (document value)

theorem message_length (value : Value) :
    (message value).length = (dumps compact value).length := by
  rw [message, encode_ascii (ascii_dumps value), List.length_map]

/-- A message is read back by whoever has room for it. -/
theorem loads_message (interpreter : Interpreter) {value : Value}
    (fits : value.Fits interpreter.nesting) :
    loadsBytes interpreter (message value) = .ok value.reread := by
  obtain ⟨plain, decoded⟩ := decode_ascii (ascii_dumps value)
  have read := loads_dumps compact interpreter.nesting fits (List.forall_mem_nil _)
  rw [List.append_nil] at read
  rw [loadsBytes, message, plain, if_pos rfl, decoded]
  exact read

/-! ## How long a message is -/

mutual

/-- On one line without blanks nothing depends on the level. -/
theorem print_level : ∀ (level : Nat) (document : Document),
    print compact level document = print compact 0 document
  | level, .word word => rfl
  | level, .number numeral => rfl
  | level, .string values => rfl
  | level, .array [] => rfl
  | level, .array (item :: rest) => by
      simp only [print, print_level (level + 1) item, print_level 1 item,
        print_items_level level rest]
      rfl
  | level, .object [] => rfl
  | level, .object ((key, value) :: rest) => by
      simp only [print, print_level (level + 1) value, print_level 1 value,
        print_members_level level rest]
      rfl

theorem print_items_level : ∀ (level : Nat) (items : List Document),
    printItems compact level items = printItems compact 0 items
  | level, [] => rfl
  | level, item :: rest => by
      simp only [printItems, print_level (level + 1) item, print_level 1 item,
        print_items_level level rest]
      rfl

theorem print_members_level : ∀ (level : Nat) (members : List (List CodePoint × Document)),
    printMembers compact level members = printMembers compact 0 members
  | level, [] => rfl
  | level, (key, value) :: rest => by
      simp only [printMembers, print_level (level + 1) value, print_level 1 value,
        print_members_level level rest]
      rfl

end

def size (value : Value) : Nat := (dumps compact value).length

def memberSize (member : Str × Value) : Nat := (quote member.1).length + 1 + size member.2

theorem compact_gap (level : Nat) : compact.gap level = [] := rfl

theorem compact_after_comma (level : Nat) : compact.afterComma level = [] := rfl

theorem compact_after_key : compact.afterKey = [] := rfl

theorem printed_length (level : Nat) (value : Value) :
    (print compact level (document value)).length = size value := by
  rw [print_level]
  rfl

theorem quoted_length (key : Str) : (quoteUnits (key.flatMap units)).length = (quote key).length :=
  rfl

theorem print_items_length (items : List Value) :
    (printItems compact 0 (documentItems items)).length =
      1 + (items.map fun item => size item + 1).sum := by
  induction items with
  | nil => rfl
  | cons item rest induction =>
      simp only [documentItems, printItems, compact_after_comma, List.length_cons, List.length_append,
        List.length_nil, printed_length, induction, List.map_cons, List.sum_cons]
      omega

theorem print_members_length (members : List (Str × Value)) :
    (printMembers compact 0 (documentMembers members)).length =
      1 + (members.map fun member => memberSize member + 1).sum := by
  induction members with
  | nil => rfl
  | cons member rest induction =>
      simp only [documentMembers, printMembers, compact_after_comma, compact_after_key,
        List.length_cons, List.length_append, List.length_nil, printed_length, quoted_length,
        induction, List.map_cons, List.sum_cons, memberSize]
      omega

theorem size_list {items : List Value} (some_item : items ≠ []) :
    size (.list items) = 1 + (items.map fun item => size item + 1).sum := by
  cases items with
  | nil => contradiction
  | cons item rest =>
      rw [← printed_length 0]
      simp only [document, documentItems, print, compact_gap, List.length_cons,
        List.length_append, List.length_nil, print_items_length, printed_length, List.map_cons,
        List.sum_cons]
      omega

theorem size_dict {members : List (Str × Value)} (some_member : members ≠ []) :
    size (.dict members) = 1 + (members.map fun member => memberSize member + 1).sum := by
  cases members with
  | nil => contradiction
  | cons member rest =>
      rw [← printed_length 0]
      simp only [document, documentMembers, print, compact_gap, compact_after_key,
        List.length_cons, List.length_append, List.length_nil, print_members_length,
        printed_length, quoted_length, List.map_cons, List.sum_cons, memberSize]
      omega

@[simp] theorem size_str (text : Str) : size (.str text) = (quote text).length := rfl

/-! ## Reading the items of a message -/

/-- An object is read back with its items, whatever their order. -/
theorem reread_items {members : List (Str × Value)} (names : (members.map Prod.fst).Nodup)
    (unpaired : ∀ name ∈ members.map Prod.fst, Joined name) :
    ∃ items, (Value.dict members).reread = .dict items ∧
      ∀ key, item key items = ((SortedDict.get key members).map Value.reread).getD .none := by
  obtain ⟨items, read, found⟩ := reread_get names unpaired
  exact ⟨items, read, fun key => by rw [item, found]⟩

theorem reread_int (value : Int) : (Value.int value).reread = .int value :=
  reread_settled (.int value) trivial trivial

theorem reread_str (text : Str) : (Value.str text).reread = .str (JsonText.joined text) :=
  rfl

end HermesCashew.JsonMessage
