import HermesCashew.EmbeddingFrames
import HermesCashew.JsonMessage
import Mathlib

/-!
# A request to the embedding worker

The checks that `encode` makes on its texts, the request it writes, and what the worker
makes of the request.
-/

namespace HermesCashew.EmbeddingRequest

open HermesCashew.EmbeddingChannel (maxFrame)
open HermesCashew.EmbeddingFrames
open HermesCashew.Framing
open HermesCashew.JsonDocument
open HermesCashew.JsonMessage
open HermesCashew.JsonText (CodePoint Str str units escapeUnit quote)
open HermesCashew.PythonInt (maxStrDigits)

set_option autoImplicit false

/-- A Python object that is passed as a text. -/
inductive Text where
  | str (value : Str)
  | other

def isSurrogate (point : CodePoint) : Bool :=
  0xd800 ≤ point.val && point.val < 0xe000

def utf8Size (point : CodePoint) : Nat :=
  if point.val < 0x80 then 1
  else if point.val < 0x800 then 2
  else if point.val < 0x10000 then 3
  else 4

/-- `len(text.encode("utf-8"))`, with `none` for a `UnicodeEncodeError`. -/
def encodedLength (text : Str) : Option Nat :=
  if text.any isSurrogate then none else some (text.map utf8Size).sum

/-- `_ENCODE_ENVELOPE_BYTES`. -/
def encodeEnvelopeBytes : Nat := 1024

def maxTexts : Nat := 100

def maxTextBytes : Nat := 1048576

/-- What `encode` does before it takes the lock: it returns an empty array, raises
`EmbeddingUnavailable` or a `UnicodeEncodeError`, or has a request to make. -/
inductive Admission where
  | nothing
  | protocol
  | unicodeEncodeError
  | request (texts : List Str)
  deriving DecidableEq, Repr

def estimate : Nat → Nat → List Text → List Str → Admission
  | _, _, [], admitted => .request admitted
  | _, _, .other :: _, _ => .protocol
  | index, estimated, .str text :: rest, admitted =>
      match encodedLength text with
      | none => .unicodeEncodeError
      | some textBytes =>
          if maxTextBytes < textBytes then .protocol
          else
            let next := estimated + (quote text).length + if index = 0 then 0 else 1
            if maxFrame < next then .protocol
            else estimate (index + 1) next rest (admitted ++ [text])

def admitTexts (texts : List Text) : Admission :=
  match texts with
  | [] => .nothing
  | _ =>
      if maxTexts < texts.length then .protocol else estimate 0 encodeEnvelopeBytes texts []

/-- `uuid.uuid4().hex`. -/
structure Hex where
  text : Str
  length_eq : text.length = 32
  digits : ∀ point ∈ text, 48 ≤ point.val ∧ point.val ≤ 57 ∨ 97 ≤ point.val ∧ point.val ≤ 102

def requestMembers (generation requestId : Hex) (texts : List Str) : List (Str × Value) :=
  [(str "op", .str (str "encode")), (str "version", .int 1),
    (str "generation", .str generation.text), (str "request_id", .str requestId.text),
    (str "texts", .list (texts.map Value.str))]

def request (generation requestId : Hex) (texts : List Str) : Value :=
  .dict (requestMembers generation requestId texts)

def requestPayload (generation requestId : Hex) (texts : List Str) : List Byte :=
  message (request generation requestId texts)

/-! ## The worker -/

inductive Operation where
  | shutdown
  | encode (requestId : Str) (texts : List Str)
  deriving DecidableEq, Repr

inductive WorkerError where
  | notJson (failure : JsonDocument.Failure)
  | notObject
  | generationMismatch
  | unsupportedOperation
  | invalidTextBatch
  | invalidText
  | unicodeEncodeError
  deriving DecidableEq, Repr

def readTexts : List Value → Except WorkerError (List Str)
  | [] => .ok []
  | .str text :: rest =>
      match encodedLength text with
      | none => .error .unicodeEncodeError
      | some textBytes =>
          if maxTextBytes < textBytes then .error .invalidText
          else (readTexts rest).map (text :: ·)
  | _ :: _ => .error .invalidText

def readRequest (generation : Str) : Value → Except WorkerError Operation
  | .dict items =>
      if equalsText (item (str "generation") items) generation = false then
        .error .generationMismatch
      else if equalsText (item (str "op") items) (str "shutdown") then .ok .shutdown
      else if equalsText (item (str "op") items) (str "encode") = false ∨
          equalsInt (item (str "version") items) 1 = false then .error .unsupportedOperation
      else
        match item (str "request_id") items, item (str "texts") items with
        | .str requestId, .list texts =>
            if maxTexts < texts.length then .error .invalidTextBatch
            else (readTexts texts).map (.encode requestId)
        | .str _, _ => .error .invalidTextBatch
        | _, _ => .error .unsupportedOperation
  | _ => .error .notObject

/-- The worker's side of one request, from the received payload on. -/
def workerReads (interpreter : Interpreter) (generation : Str) (payload : List Byte) :
    Except WorkerError Operation :=
  match loadsBytes interpreter payload with
  | .error failure => .error (.notJson failure)
  | .ok value => readRequest generation value

/-! ## Texts without surrogates -/

theorem joined_of_no_surrogate {text : Str} (plain : text.any isSurrogate = false) :
    Joined text := by
  unfold JsonDocument.Joined JsonText.joined
  induction text with
  | nil => rfl
  | cons point rest induction =>
      rw [List.any_cons, Bool.or_eq_false_iff] at plain
      have apart : (JsonText.isHigh point && startsLow (rest.flatMap units)) = false := by
        have not_high : JsonText.isHigh point = false := by
          have outside := plain.1
          simp only [isSurrogate, JsonText.isHigh, Bool.and_eq_false_iff, decide_eq_false_iff_not]
            at outside ⊢
          omega
        rw [not_high, Bool.false_and]
      rw [List.flatMap_cons, join_units_cons apart, induction plain.2]

theorem plain_of_encoded {text : Str} {size : Nat} (encoded : encodedLength text = some size) :
    text.any isSurrogate = false := by
  unfold encodedLength at encoded
  split at encoded
  · cases encoded
  · rename_i plain
    exact Bool.eq_false_iff.mpr plain

/-! ## What is admitted -/

def Acceptable (text : Str) : Prop :=
  ∃ textBytes, encodedLength text = some textBytes ∧ textBytes ≤ maxTextBytes

/-- One turn of the loop that goes on. -/
theorem estimate_str {index estimated : Nat} {text : Str} {rest : List Text}
    {admitted result : List Str}
    (passed : estimate index estimated (.str text :: rest) admitted = .request result) :
    let next := estimated + (quote text).length + if index = 0 then 0 else 1
    Acceptable text ∧ next ≤ maxFrame ∧
      estimate (index + 1) next rest (admitted ++ [text]) = .request result := by
  rw [estimate] at passed
  split at passed
  · cases passed
  · rename_i textBytes encoded
    split at passed
    · cases passed
    · rename_i bounded
      simp only at passed
      generalize estimated + (quote text).length + (if index = 0 then 0 else 1) = next at passed ⊢
      split at passed
      · cases passed
      · rename_i fits
        exact ⟨⟨textBytes, encoded, Nat.not_lt.mp bounded⟩, Nat.not_lt.mp fits, passed⟩

/-- The first text has no comma before it. -/
theorem estimate_request {index estimated : Nat} {texts : List Text}
    {admitted result : List Str}
    (passed : estimate index estimated texts admitted = .request result)
    (small : estimated ≤ maxFrame) :
    ∃ more, result = admitted ++ more ∧ texts = more.map Text.str ∧
      (∀ text ∈ more, Acceptable text) ∧
      estimated + (more.map fun text => (quote text).length + 1).sum ≤
        maxFrame + if index = 0 then 1 else 0 := by
  induction texts generalizing index estimated admitted with
  | nil =>
      obtain rfl := Admission.request.inj passed
      refine ⟨[], (List.append_nil _).symm, rfl, List.forall_mem_nil _, ?_⟩
      rw [List.map_nil, List.sum_nil]
      omega
  | cons head rest induction =>
      cases head with
      | other => cases passed
      | str text =>
          obtain ⟨acceptable, fits, goes_on⟩ := estimate_str passed
          obtain ⟨more, result_eq, rest_eq, others, total⟩ := induction goes_on fits
          refine ⟨text :: more, ?_, ?_, List.forall_mem_cons.mpr ⟨acceptable, others⟩, ?_⟩
          · rw [result_eq, List.append_assoc, List.singleton_append]
          · rw [List.map_cons, rest_eq]
          · rw [List.map_cons, List.sum_cons]
            rw [if_neg (Nat.succ_ne_zero index)] at total
            by_cases first : index = 0
            · rw [if_pos first] at total ⊢
              omega
            · rw [if_neg first] at total ⊢
              omega

/-- The texts of a request, and what the estimate says of them. -/
theorem admit_request {texts : List Text} {admitted : List Str}
    (passed : admitTexts texts = .request admitted) :
    texts = admitted.map Text.str ∧ admitted ≠ [] ∧ admitted.length ≤ maxTexts ∧
      (∀ text ∈ admitted, Acceptable text) ∧
      encodeEnvelopeBytes + (admitted.map fun text => (quote text).length + 1).sum ≤
        maxFrame + 1 := by
  unfold admitTexts at passed
  split at passed
  · cases passed
  · rename_i some_text
    split at passed
    · cases passed
    · rename_i few
      obtain ⟨more, result_eq, rest_eq, acceptable, total⟩ := estimate_request passed (by decide)
      rw [List.nil_append] at result_eq
      subst result_eq
      refine ⟨rest_eq, ?_, ?_, acceptable, total⟩
      · intro none
        exact some_text (by rw [rest_eq, none, List.map_nil])
      · have length := Nat.not_lt.mp few
        rwa [rest_eq, List.length_map] at length

/-! ## The request fits its frame -/

/-- A hexadecimal digit is written as it is. -/
theorem quote_hex (hex : Hex) : (quote hex.text).length = 34 := by
  have one (point : CodePoint) (member : point ∈ hex.text) :
      ((units point).flatMap escapeUnit).length = 1 := by
    have shape := hex.digits point member
    have below : point.val < 0x10000 := by omega
    have ordinary : JsonText.simpleEscape point.val = none := by
      unfold JsonText.simpleEscape
      split <;> first | rfl | omega
    rw [units_below below, List.flatMap_cons, List.flatMap_nil, List.append_nil, escapeUnit,
      ordinary]
    have printable : 32 ≤ point.val ∧ point.val ≤ 126 := by omega
    simp only [printable, and_self, if_true, List.length_singleton]
  have total : ((hex.text.flatMap units).flatMap escapeUnit).length = hex.text.length := by
    rw [List.flatMap_assoc, List.length_flatMap, List.map_congr_left one, List.map_const',
      List.sum_replicate]
    simp
  simp only [quote, JsonText.escape, List.length_cons, List.length_append, List.length_nil, total,
    hex.length_eq]

theorem request_size (generation requestId : Hex) {texts : List Str} (some_text : texts ≠ []) :
    size (request generation requestId texts) =
      133 + (texts.map fun text => (quote text).length + 1).sum := by
  have items : texts.map Value.str ≠ [] := by simpa using some_text
  have sum : ((texts.map Value.str).map fun item => size item + 1).sum =
      (texts.map fun text => (quote text).length + 1).sum := by
    rw [List.map_map]
    rfl
  rw [request, requestMembers, size_dict (List.cons_ne_nil _ _)]
  simp only [List.map_cons, List.map_nil, List.sum_cons, List.sum_nil, memberSize, size_str,
    size_list items, sum, quote_hex]
  have names : (quote (str "op")).length = 4 ∧ (quote (str "encode")).length = 8 ∧
      (quote (str "version")).length = 9 ∧ size (.int 1) = 1 ∧
      (quote (str "generation")).length = 12 ∧ (quote (str "request_id")).length = 12 ∧
      (quote (str "texts")).length = 7 := by decide
  obtain ⟨op, encode, version, one, generation_name, request_name, texts_name⟩ := names
  rw [op, encode, version, one, generation_name, request_name, texts_name]
  omega

/-! ## The worker reads what was admitted -/

theorem fits_texts (texts : List Str) (depth : Nat) : FitsItems depth (texts.map Value.str) := by
  induction texts with
  | nil => trivial
  | cons text rest induction => exact ⟨trivial, induction⟩

theorem request_fits (generation requestId : Hex) (texts : List Str) {depth : Nat}
    (roomy : 2 ≤ depth) : (request generation requestId texts).Fits depth := by
  refine ⟨by omega, trivial, ?_, trivial, trivial, ⟨by omega, fits_texts texts _⟩, trivial⟩
  have one : (Nat.toDigits 10 1).length ≤ maxStrDigits := by decide
  exact one

theorem reread_texts {texts : List Str} (acceptable : ∀ text ∈ texts, Acceptable text) :
    (Value.list (texts.map Value.str)).reread = .list (texts.map Value.str) := by
  have settled : ∀ rest : List Str, (∀ text ∈ rest, Acceptable text) →
      OrderedItems (rest.map Value.str) ∧ JoinedItems (rest.map Value.str) := by
    intro rest all
    induction rest with
    | nil => exact ⟨trivial, trivial⟩
    | cons text rest induction =>
        obtain ⟨head, tail⟩ := List.forall_mem_cons.mp all
        obtain ⟨size, encoded, -⟩ := head
        obtain ⟨ordered, unpaired⟩ := induction tail
        exact ⟨⟨trivial, ordered⟩, joined_of_no_surrogate (plain_of_encoded encoded), unpaired⟩
  obtain ⟨ordered, unpaired⟩ := settled texts acceptable
  exact reread_settled (.list (texts.map Value.str)) ordered unpaired

theorem read_texts_ok {texts : List Str} (acceptable : ∀ text ∈ texts, Acceptable text) :
    readTexts (texts.map Value.str) = .ok texts := by
  induction texts with
  | nil => rfl
  | cons text rest induction =>
      obtain ⟨⟨size, encoded, small⟩, tail⟩ := List.forall_mem_cons.mp acceptable
      rw [List.map_cons, readTexts, encoded]
      simp only [if_neg (Nat.not_lt.mpr small), induction tail]
      rfl

theorem hex_joined (hex : Hex) : Joined hex.text := by
  apply joined_of_no_surrogate
  apply List.any_eq_false.mpr
  intro point member
  have shape := hex.digits point member
  simp only [isSurrogate, Bool.and_eq_true, decide_eq_true_eq, not_and, not_lt]
  omega

theorem read_request (generation requestId : Hex) {texts : List Str}
    (few : texts.length ≤ maxTexts) (acceptable : ∀ text ∈ texts, Acceptable text) :
    readRequest generation.text (request generation requestId texts).reread =
      .ok (.encode requestId.text texts) := by
  have names : ((requestMembers generation requestId texts).map Prod.fst) =
      ["op", "version", "generation", "request_id", "texts"].map str := rfl
  obtain ⟨items, same, get⟩ := @reread_items (requestMembers generation requestId texts)
    (by rw [names]; decide) (by rw [names]; decide)
  have op : item (str "op") items = .str (str "encode") := get (str "op")
  have version : item (str "version") items = .int 1 := by
    rw [get]
    exact reread_int 1
  have generation_ : item (str "generation") items = .str generation.text := by
    rw [get]
    exact congrArg Value.str (hex_joined generation)
  have request_id : item (str "request_id") items = .str requestId.text := by
    rw [get]
    exact congrArg Value.str (hex_joined requestId)
  have texts_ : item (str "texts") items = .list (texts.map Value.str) := by
    rw [get]
    exact reread_texts acceptable
  have own : equalsText (.str generation.text) generation.text = true := decide_eq_true rfl
  have no_shutdown : equalsText (.str (str "encode")) (str "shutdown") = false := by decide
  have encodes : equalsText (.str (str "encode")) (str "encode") = true := by decide
  have first : equalsInt (.int 1) 1 = true := by decide
  rw [request, same, readRequest, op, version, generation_, request_id, texts_, own,
    no_shutdown, encodes, first]
  simp only [List.length_map, if_neg (Nat.not_lt.mpr few), read_texts_ok acceptable,
    Bool.true_eq_false, Bool.false_eq_true, if_false, or_self, Except.map]

/-- An admitted request fits one frame. -/
theorem request_small (generation requestId : Hex) {texts : List Text} {admitted : List Str}
    (passed : admitTexts texts = .request admitted) :
    (requestPayload generation requestId admitted).length ≤ maxFrame := by
  obtain ⟨-, some_text, -, -, total⟩ := admit_request passed
  have length : (requestPayload generation requestId admitted).length =
      size (request generation requestId admitted) := message_length _
  rw [length, request_size generation requestId some_text]
  have envelope : encodeEnvelopeBytes = 1024 := rfl
  omega

/-- The worker decodes it to the same identifier and texts. -/
theorem worker_reads_request (generation requestId : Hex) (interpreter : Interpreter)
    {texts : List Text} {admitted : List Str} (passed : admitTexts texts = .request admitted) :
    workerReads interpreter generation.text (requestPayload generation requestId admitted) =
      .ok (.encode requestId.text admitted) := by
  obtain ⟨-, -, few, acceptable, -⟩ := admit_request passed
  rw [workerReads, requestPayload,
    loads_message interpreter (request_fits generation requestId admitted interpreter.roomy)]
  exact read_request generation requestId few acceptable

/-- What `encode` admits is sent in one frame, and the worker reads the same texts. -/
theorem admitted_request_is_read (generation requestId : Hex) (interpreter : Interpreter)
    (texts : List Text) (admitted : List Str) (passed : admitTexts texts = .request admitted) :
    texts = admitted.map Text.str ∧
      (requestPayload generation requestId admitted).length ≤ maxFrame ∧
      (∀ cuts, ∃ after, Worker.receive
        ⟨cuts, frame (requestPayload generation requestId admitted)⟩ =
          (.ok (requestPayload generation requestId admitted), after)) ∧
      workerReads interpreter generation.text (requestPayload generation requestId admitted) =
        .ok (.encode requestId.text admitted) := by
  have small := request_small generation requestId passed
  refine ⟨(admit_request passed).1, small, fun cuts => ?_,
    worker_reads_request generation requestId interpreter passed⟩
  obtain ⟨after, received, -⟩ := Worker.reader.receive_frame small
    (List.prefix_refl (Worker.reader.unread ⟨cuts, frame _⟩)) trivial
  exact ⟨after, received⟩

def zeros : Hex where
  text := List.replicate 32 48
  length_eq := List.length_replicate
  digits point member := by
    rw [List.eq_of_mem_replicate member]
    decide

def shallow : Interpreter where
  nesting := 2
  roomy := Nat.le_refl 2
  wide _ := .error .decode

/-- A smiling face, which takes twelve bytes, and an empty text. -/
theorem two_texts_are_read :
    admitTexts [.str [0x1f600], .str []] = .request [[0x1f600], []] ∧
      (requestPayload zeros zeros [[0x1f600], []]).length ≤ maxFrame ∧
      workerReads shallow zeros.text (requestPayload zeros zeros [[0x1f600], []]) =
        .ok (.encode zeros.text [[0x1f600], []]) := by
  have passed : admitTexts [.str [0x1f600], .str []] = .request [[0x1f600], []] := by decide
  obtain ⟨-, small, -, read⟩ := admitted_request_is_read zeros zeros shallow _ _ passed
  exact ⟨passed, small, read⟩

end HermesCashew.EmbeddingRequest
