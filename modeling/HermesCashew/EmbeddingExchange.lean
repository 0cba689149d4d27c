import HermesCashew.EmbeddingRequest

/-!
# One exchange with the embedding worker

The greeting of the worker, its two frames for a request, and the checks that the
supervisor makes on both. The worker here conforms: its model returns finite vectors of
the shape that it announces.
-/

namespace HermesCashew.EmbeddingExchange

open HermesCashew.EmbeddingChannel (maxFrame maxDimension finite)
open HermesCashew.EmbeddingFrames
open HermesCashew.EmbeddingRequest
open HermesCashew.Framing
open HermesCashew.JsonDocument
open HermesCashew.JsonMessage
open HermesCashew.JsonText (CodePoint Str str units escapeUnit quote)
open HermesCashew.PythonInt (maxStrDigits)
open HermesCashew.Raising

set_option autoImplicit false

/-- What the supervisor starts a worker with; a dimension of zero is not known yet. -/
structure Launch where
  generation : Hex
  model : Str
  device : Str
  dimension : Nat

/-- A model: the bytes of the vectors for a list of texts, and the device it runs on. -/
structure Model where
  dimension : Nat
  effectiveDevice : Str
  encode : List Str → List Byte
  shape : ∀ texts, (encode texts).length = texts.length * dimension * 4
  isFinite : ∀ texts, finite (encode texts) = true

/-! ## The worker -/

def helloMembers (launch : Launch) (model : Model) : List (Str × Value) :=
  [(str "op", .str (str "hello")), (str "version", .int 1),
    (str "generation", .str launch.generation.text), (str "model", .str launch.model),
    (str "requested_device", .str launch.device), (str "dimension", .int model.dimension),
    (str "device", .str model.effectiveDevice)]

def helloPayload (launch : Launch) (model : Model) : List Byte :=
  message (.dict (helloMembers launch model))

def headerMembers (generation : Hex) (requestId : Str) (count : Nat) (model : Model) :
    List (Str × Value) :=
  [(str "op", .str (str "vectors")), (str "version", .int 1),
    (str "generation", .str generation.text), (str "request_id", .str requestId),
    (str "count", .int count), (str "dimension", .int model.dimension),
    (str "device", .str model.effectiveDevice),
    (str "bytes", .int (count * model.dimension * 4 : Nat))]

def headerPayload (generation : Hex) (requestId : Str) (count : Nat) (model : Model) :
    List Byte :=
  message (.dict (headerMembers generation requestId count model))

inductive Ending where
  | shutdown
  | request (error : WorkerError)
  | frame (failure : EmbeddingFrames.Failure)
  deriving DecidableEq, Repr

structure Cuts where
  header : List Nat
  vectors : List Nat

def serve (interpreter : Interpreter) (generation : Hex) (model : Model) (cuts : Cuts)
    (payload : List Byte) : Block (List Byte) Ending Unit :=
  fun written =>
    match workerReads interpreter generation.text payload with
    | .error error => (.error (.request error), written)
    | .ok .shutdown => (.error .shutdown, written)
    | .ok (.encode requestId texts) =>
        let replies := [(cuts.header, headerPayload generation requestId texts.length model),
          (cuts.vectors, model.encode texts)]
        match sends Worker.send replies written with
        | (.ok _, after) => (.ok (), after)
        | (.error failure, after) => (.error (.frame failure), after)

/-! ## The supervisor -/

/-- The checks of `_start_once`: the reported dimension and device. -/
def greeting (launch : Launch) : Value → Option (Nat × Str)
  | .dict items =>
      match item (str "dimension") items, item (str "device") items with
      | .int reportedDimension, .str reportedDevice =>
          if equalsText (item (str "op") items) (str "hello") ∧
              equalsInt (item (str "version") items) 1 ∧
              equalsText (item (str "generation") items) launch.generation.text ∧
              equalsText (item (str "model") items) launch.model ∧
              equalsText (item (str "requested_device") items) launch.device ∧
              (0 < reportedDimension ∧ reportedDimension ≤ maxDimension) ∧
              (launch.dimension = 0 ∨ reportedDimension = launch.dimension) ∧
              reportedDevice ≠ [] ∧ reportedDevice.length ≤ 64 ∧
              (launch.device = str "auto" ∨ reportedDevice = launch.device ∨
                reportedDevice = str "cpu") then
            some (reportedDimension.toNat, reportedDevice)
          else none
      | _, _ => none
  | _ => none

def starts (launch : Launch) (model : Model) : Bool :=
  decide (0 < model.dimension ∧ model.dimension ≤ maxDimension) &&
    (launch.dimension = 0 || model.dimension = launch.dimension)

/-- The handshake: the dimension and the device that the supervisor keeps, when the worker
can send its greeting and the greeting is accepted. -/
def handshake (interpreter : Interpreter) (launch : Launch) (model : Model) :
    Option (Nat × Str) :=
  if starts launch model = false ∨ maxFrame < (helloPayload launch model).length then none
  else
    match loadsBytes interpreter (helloPayload launch model) with
    | .error _ => none
    | .ok hello => greeting launch hello

structure Expected where
  generation : Hex
  requestId : Hex
  count : Nat
  dimension : Nat
  effectiveDevice : Option Str

def Expected.bytes (expected : Expected) : Nat := expected.count * expected.dimension * 4

/-- `value == device`, for a device that may be `None`. -/
def equalsDevice : Value → Option Str → Bool
  | value, some device => equalsText value device
  | .none, none => true
  | _, none => false

/-- The checks of `_encode_owned`. -/
def answers (expected : Expected) (raw : List Byte) : Value → Bool
  | .dict items =>
      equalsText (item (str "op") items) (str "vectors") &&
        equalsInt (item (str "version") items) 1 &&
        equalsText (item (str "generation") items) expected.generation.text &&
        equalsText (item (str "request_id") items) expected.requestId.text &&
        equalsInt (item (str "count") items) expected.count &&
        equalsInt (item (str "dimension") items) expected.dimension &&
        equalsDevice (item (str "device") items) expected.effectiveDevice &&
        equalsInt (item (str "bytes") items) expected.bytes &&
        decide (raw.length = expected.bytes) && finite raw
  | _ => false

inductive Refusal where
  | frame (failure : EmbeddingFrames.Failure)
  | notJson (failure : JsonDocument.Failure)
  | protocol
  deriving DecidableEq, Repr

/-- The reads of `_encode_owned`: the vectors of the reply. -/
def readReply (interpreter : Interpreter) (expected : Expected) :
    Block Supervisor.Inbound Refusal (List Byte) :=
  fun stream =>
    match Supervisor.receive stream with
    | (.error failure, after) => (.error (.frame failure), after)
    | (.ok text, after) =>
        match loadsBytes interpreter text with
        | .error failure => (.error (.notJson failure), after)
        | .ok header =>
            match Supervisor.receive after with
            | (.error failure, last) => (.error (.frame failure), last)
            | (.ok raw, last) =>
                if answers expected raw header then (.ok raw, last)
                else (.error .protocol, last)

/-- The worker sends its reply to the request, and the supervisor takes the vectors out of
it, however the writes and the reads are cut. -/
def Completes (interpreter : Interpreter) (model : Model) (expected : Expected)
    (texts : List Str) : Prop :=
  ∀ cuts, ∃ wire,
    serve interpreter expected.generation model cuts
      (requestPayload expected.generation expected.requestId texts) [] = (.ok (), wire) ∧
    ∀ stream : Supervisor.Inbound, stream.unread = wire → stream.Prompt →
      ∃ after, readReply interpreter expected stream = (.ok (model.encode texts), after)

/-! ## The greeting -/

theorem digits_le {value places : Nat} (some_place : 0 < places) (small : value < 10 ^ places) :
    (Nat.toDigits 10 value).length ≤ places :=
  (Nat.length_toDigits_le_iff (by decide) some_place).mpr small

theorem fits_natural {value places : Nat} (some_place : 0 < places) (small : value < 10 ^ places)
    (few : places ≤ maxStrDigits) (depth : Nat) : (Value.int value).Fits depth :=
  (digits_le some_place small).trans few

/-- A reader of the greeting sees the model's dimension and its device. -/
theorem greeting_sees {launch : Launch} {model : Model} {dimension : Nat} {device : Str}
    (greeted : greeting launch (Value.dict (helloMembers launch model)).reread =
      some (dimension, device)) :
    dimension = model.dimension ∧ device = JsonText.joined model.effectiveDevice ∧
      device.length ≤ 64 := by
  have names : ((helloMembers launch model).map Prod.fst) =
      ["op", "version", "generation", "model", "requested_device", "dimension", "device"].map
        str := rfl
  obtain ⟨items, same, get⟩ := @reread_items (helloMembers launch model)
    (by rw [names]; decide) (by rw [names]; decide)
  have dimension_ : item (str "dimension") items = .int model.dimension := by
    rw [get]
    exact reread_int model.dimension
  have device_ : item (str "device") items = .str (JsonText.joined model.effectiveDevice) := by
    rw [get]
    exact reread_str model.effectiveDevice
  rw [same, greeting, dimension_, device_] at greeted
  obtain ⟨checks, found⟩ := Option.ite_none_right_eq_some.mp greeted
  obtain ⟨dimension_eq, rfl⟩ := Prod.mk.inj (Option.some.inj found)
  exact ⟨dimension_eq.symm, rfl, checks.2.2.2.2.2.2.2.2.1⟩

theorem handshake_sees {interpreter : Interpreter} {launch : Launch} {model : Model}
    {dimension : Nat} {device : Str}
    (greeted : handshake interpreter launch model = some (dimension, device)) :
    dimension = model.dimension ∧ dimension ≤ maxDimension ∧
      device = JsonText.joined model.effectiveDevice ∧ device.length ≤ 64 := by
  unfold handshake at greeted
  split at greeted
  · cases greeted
  · rename_i started
    have range : 0 < model.dimension ∧ model.dimension ≤ maxDimension := by
      have both := Bool.of_not_eq_false (not_or.mp started).1
      exact of_decide_eq_true (Bool.and_eq_true_iff.mp both).1
    have bounded : maxDimension = 65536 := rfl
    have inside := interpreter.roomy
    have fits : (Value.dict (helloMembers launch model)).Fits interpreter.nesting :=
      ⟨by omega, trivial, fits_natural Nat.one_pos (by decide) (by decide) _, trivial, trivial,
        trivial, @fits_natural model.dimension 5 (by decide) (by omega) (by decide) _, trivial,
        trivial⟩
    rw [helloPayload, loads_message interpreter fits] at greeted
    obtain ⟨dimension_eq, device_eq, short⟩ := greeting_sees greeted
    exact ⟨dimension_eq, dimension_eq ▸ range.2, device_eq, short⟩

/-! ## The header -/

/-- Surrogate pairs are joined, so a text has at most twice as many units. -/
theorem units_le_joined (values : List CodePoint) :
    values.length ≤ 2 * (JsonText.joinPairs values).length := by
  induction values using JsonText.joinPairs.induct with
  | case1 => exact Nat.le_refl 0
  | case2 unit => exact Nat.le_succ 1
  | case3 high low rest pair induction =>
      simp only [JsonText.joinPairs, pair, if_true, List.length_cons]
      omega
  | case4 high low rest apart induction =>
      rw [JsonText.joinPairs, if_neg apart]
      simp only [List.length_cons] at induction ⊢
      omega

theorem escape_unit_length (unit : CodePoint) : (escapeUnit unit).length ≤ 6 := by
  unfold escapeUnit
  split
  · exact Nat.le_add_left 2 4
  · split
    · exact Nat.le_add_left 1 5
    · exact Nat.le_refl 6

theorem quote_le (text : Str) :
    (quote text).length ≤ 12 * (JsonText.joined text).length + 2 := by
  have escaped (values : List CodePoint) :
      (values.flatMap escapeUnit).length ≤ 6 * values.length := by
    induction values with
    | nil => exact Nat.le_refl 0
    | cons unit rest induction =>
        have head := escape_unit_length unit
        simp only [List.flatMap_cons, List.length_append, List.length_cons]
        omega
  have all := escaped (text.flatMap units)
  have pairs := units_le_joined (text.flatMap units)
  simp only [quote, JsonText.escape, JsonText.joined, List.length_cons, List.length_append,
    List.length_nil]
  omega

theorem size_natural {value places : Nat} (some_place : 0 < places) (small : value < 10 ^ places) :
    size (.int value) ≤ places := by
  have text : size (.int value) = (Nat.toDigits 10 value).length := rfl
  exact text ▸ digits_le some_place small

/-- The header of an admitted request is far below the limit. -/
theorem header_small (generation requestId : Hex) {count : Nat} {model : Model}
    (few : count ≤ maxTexts) (bounded : model.dimension ≤ maxDimension)
    (short : (JsonText.joined model.effectiveDevice).length ≤ 64) :
    (headerPayload generation requestId.text count model).length ≤ maxFrame := by
  have texts : maxTexts = 100 := rfl
  have dimension : maxDimension = 65536 := rfl
  have frame_size : maxFrame = 16777216 := rfl
  have product : count * model.dimension ≤ 100 * 65536 :=
    Nat.mul_le_mul (texts ▸ few) (dimension ▸ bounded)
  have count_size := @size_natural count 3 (by decide) (by omega)
  have dimension_size := @size_natural model.dimension 5 (by decide) (by omega)
  have bytes_size := @size_natural (count * model.dimension * 4) 8 (by decide) (by omega)
  have device_size := quote_le model.effectiveDevice
  have names : (quote (str "op")).length = 4 ∧ (quote (str "vectors")).length = 9 ∧
      (quote (str "version")).length = 9 ∧ size (.int 1) = 1 ∧
      (quote (str "generation")).length = 12 ∧ (quote (str "request_id")).length = 12 ∧
      (quote (str "count")).length = 7 ∧ (quote (str "dimension")).length = 11 ∧
      (quote (str "device")).length = 8 ∧ (quote (str "bytes")).length = 7 := by decide
  have length : (headerPayload generation requestId.text count model).length =
      size (.dict (headerMembers generation requestId.text count model)) := message_length _
  rw [length, headerMembers, size_dict (List.cons_ne_nil _ _)]
  simp only [List.map_cons, List.map_nil, List.sum_cons, List.sum_nil, memberSize, size_str,
    quote_hex, names]
  clear names length
  omega

/-- The header is what the request expects. -/
theorem header_answers {expected : Expected} {model : Model} {raw : List Byte}
    (dimension : expected.dimension = model.dimension)
    (device : expected.effectiveDevice = some (JsonText.joined model.effectiveDevice))
    (shape : raw.length = expected.count * model.dimension * 4) (fine : finite raw = true) :
    answers expected raw
      (Value.dict (headerMembers expected.generation expected.requestId.text expected.count
        model)).reread = true := by
  have names : ((headerMembers expected.generation expected.requestId.text expected.count
      model).map Prod.fst) = ["op", "version", "generation", "request_id", "count", "dimension",
        "device", "bytes"].map str := rfl
  obtain ⟨items, same, get⟩ := @reread_items (headerMembers expected.generation
    expected.requestId.text expected.count model) (by rw [names]; decide) (by rw [names]; decide)
  have op : item (str "op") items = .str (str "vectors") := get (str "op")
  have version : item (str "version") items = .int (1 : Nat) := (get _).trans (reread_int 1)
  have generation : item (str "generation") items = .str expected.generation.text :=
    (get _).trans (congrArg Value.str (hex_joined expected.generation))
  have request_id : item (str "request_id") items = .str expected.requestId.text :=
    (get _).trans (congrArg Value.str (hex_joined expected.requestId))
  have count : item (str "count") items = .int expected.count := (get _).trans (reread_int _)
  have dimension_ : item (str "dimension") items = .int model.dimension :=
    (get _).trans (reread_int _)
  have device_ : item (str "device") items = .str (JsonText.joined model.effectiveDevice) :=
    (get _).trans (reread_str _)
  have bytes : item (str "bytes") items = .int (expected.count * model.dimension * 4 : Nat) :=
    (get _).trans (reread_int _)
  have text_equal (text : Str) : equalsText (.str text) text = true := decide_eq_true rfl
  have int_equal (value : Nat) : equalsInt (.int value) value = true := decide_eq_true rfl
  have expected_bytes : expected.bytes = expected.count * model.dimension * 4 := by
    rw [Expected.bytes, dimension]
  rw [same, answers, op, version, generation, request_id, count, dimension_, device_, bytes,
    expected_bytes, device, dimension]
  simp only [equalsDevice, text_equal, int_equal, decide_eq_true shape, fine, Bool.and_self]

/-! ## The reply -/

/-- The worker sends both frames when the vectors fit theirs. -/
theorem serve_sends {interpreter : Interpreter} {generation : Hex} {model : Model} {cuts : Cuts}
    {payload : List Byte} {requestId : Str} {texts : List Str}
    (read : workerReads interpreter generation.text payload = .ok (.encode requestId texts))
    (header : (headerPayload generation requestId texts.length model).length ≤ maxFrame)
    (vectors : (model.encode texts).length ≤ maxFrame) :
    serve interpreter generation model cuts payload [] = (.ok (),
      frames [headerPayload generation requestId texts.length model, model.encode texts]) := by
  have small : ∀ call ∈ [(cuts.header, headerPayload generation requestId texts.length model),
      (cuts.vectors, model.encode texts)], call.2.length ≤ maxFrame :=
    List.forall_mem_cons.mpr ⟨header, List.forall_mem_cons.mpr ⟨vectors, List.forall_mem_nil _⟩⟩
  rcases sends_frames Worker.sender small [] with sent | ⟨late, -⟩
  · change sends Worker.send _ _ = _ at sent
    simp only [serve, read, sent]
    rfl
  · exact absurd (fun _ _ => trivial) late

/-- Vectors that are too large end the worker. -/
theorem serve_stops {interpreter : Interpreter} {generation : Hex} {model : Model} {cuts : Cuts}
    {payload : List Byte} {requestId : Str} {texts : List Str}
    (read : workerReads interpreter generation.text payload = .ok (.encode requestId texts))
    (header : (headerPayload generation requestId texts.length model).length ≤ maxFrame)
    (vectors : maxFrame < (model.encode texts).length) :
    (serve interpreter generation model cuts payload []).1 =
      .error (.frame .frameTooLarge) := by
  have first (written : List Byte) :
      Worker.send cuts.header (headerPayload generation requestId texts.length model) written =
        (.ok (), Worker.sendAll cuts.header
          (frame (headerPayload generation requestId texts.length model)) written) :=
    if_neg (Nat.not_lt.mpr header)
  have second (written : List Byte) : Worker.send cuts.vectors (model.encode texts) written =
      (.error .frameTooLarge, written) := if_pos vectors
  simp only [serve, read, sends, Block.bind_apply, first, second]

/-- Both frames are received and accepted. -/
theorem read_reply_ok {interpreter : Interpreter} {model : Model} {expected : Expected}
    {texts : List Str} (count : texts.length = expected.count)
    (dimension : expected.dimension = model.dimension)
    (bounded : model.dimension ≤ maxDimension) (few : expected.count ≤ maxTexts)
    (device : expected.effectiveDevice = some (JsonText.joined model.effectiveDevice))
    (header : (headerPayload expected.generation expected.requestId.text expected.count
      model).length ≤ maxFrame)
    (vectors : (model.encode texts).length ≤ maxFrame) {stream : Supervisor.Inbound}
    (whole : stream.unread = frames [headerPayload expected.generation expected.requestId.text
      expected.count model, model.encode texts])
    (prompt : stream.Prompt) :
    ∃ after, readReply interpreter expected stream = (.ok (model.encode texts), after) := by
  have ahead : frame (headerPayload expected.generation expected.requestId.text expected.count
      model) <+: stream.unread := by
    rw [whole]
    exact List.prefix_append _ _
  obtain ⟨after, received, framed, still⟩ :=
    Supervisor.reader.receive_frame header ahead prompt
  have rest : after.unread = frames [model.encode texts] :=
    List.append_cancel_left (framed.symm.trans whole)
  have next : frame (model.encode texts) <+: after.unread := by
    rw [rest]
    exact List.prefix_append _ _
  obtain ⟨last, taken, -⟩ := Supervisor.reader.receive_frame vectors next still
  change Supervisor.receive stream = _ at received
  change Supervisor.receive after = _ at taken
  have inside := interpreter.roomy
  have dimension_bound : maxDimension = 65536 := rfl
  have texts_bound : maxTexts = 100 := rfl
  have product : expected.count * model.dimension ≤ 100 * 65536 :=
    Nat.mul_le_mul (texts_bound ▸ few) (dimension_bound ▸ bounded)
  have fits : (Value.dict (headerMembers expected.generation expected.requestId.text
      expected.count model)).Fits interpreter.nesting :=
    ⟨by omega, trivial, fits_natural Nat.one_pos (by decide) (by decide) _, trivial, trivial,
      @fits_natural _ 3 (by decide) (by omega) (by decide) _,
      @fits_natural _ 5 (by decide) (by omega) (by decide) _, trivial,
      @fits_natural _ 8 (by decide) (by omega) (by decide) _, trivial⟩
  have accepted := header_answers dimension device (count ▸ model.shape texts)
    (model.isFinite texts)
  refine ⟨last, ?_⟩
  simp only [readReply, received, headerPayload, loads_message interpreter fits, taken, accepted,
    if_true]

/-- An admitted request is answered exactly when its vectors fit one frame. -/
theorem admitted_request_completes_iff (interpreter : Interpreter) (launch : Launch)
    (requestId : Hex) (model : Model) (texts : List Text) (admitted : List Str)
    (dimension : Nat) (device : Str) (passed : admitTexts texts = .request admitted)
    (greeted : handshake interpreter launch model = some (dimension, device)) :
    Completes interpreter model
        { generation := launch.generation
          requestId := requestId
          count := admitted.length
          dimension := dimension
          effectiveDevice := some device } admitted ↔
      admitted.length * dimension * 4 ≤ maxFrame := by
  have read := worker_reads_request launch.generation requestId interpreter passed
  obtain ⟨-, -, few, -, -⟩ := admit_request passed
  obtain ⟨rfl, bounded, rfl, short⟩ := handshake_sees greeted
  have header := header_small launch.generation requestId few bounded short
  have shape := model.shape admitted
  constructor
  · intro completes
    by_contra large
    obtain ⟨wire, served, -⟩ := completes ⟨[], []⟩
    have stopped : (serve interpreter launch.generation model ⟨[], []⟩
        (requestPayload launch.generation requestId admitted) []).1 =
          .error (.frame .frameTooLarge) :=
      serve_stops read header (shape ▸ Nat.not_le.mp large)
    rw [served] at stopped
    cases stopped
  · intro small cuts
    have vectors : (model.encode admitted).length ≤ maxFrame := shape ▸ small
    refine ⟨_, serve_sends read header vectors, fun stream whole prompt => ?_⟩
    exact @read_reply_ok interpreter model
      { generation := launch.generation
        requestId := requestId
        count := admitted.length
        dimension := model.dimension
        effectiveDevice := some (JsonText.joined model.effectiveDevice) }
      admitted rfl rfl bounded few rfl header vectors stream whole prompt

def zeroModel (dimension : Nat) : Model where
  dimension := dimension
  effectiveDevice := str "cpu"
  encode texts := List.replicate (texts.length * dimension * 4) 0
  shape texts := List.length_replicate
  isFinite texts := by
    have zeros_finite (count : Nat) : finite (List.replicate count 0) = true := by
      induction count using Nat.strongRecOn with
      | ind count induction =>
          match count with
          | 0 | 1 | 2 | 3 => rfl
          | count + 4 =>
              have rest := induction count (by omega)
              simp only [List.replicate_succ, finite, rest]
              rfl
    exact zeros_finite _

/-- `EmbeddingSupervisor(model="m", device="cpu", dimension=0, ...)`. -/
def launchAny : Launch where
  generation := zeros
  model := str "m"
  device := str "cpu"
  dimension := 0

theorem one_text_is_answered :
    admitTexts [.str []] = .request [[]] ∧
      handshake shallow launchAny (zeroModel 4) = some (4, str "cpu") ∧
      Completes shallow (zeroModel 4)
        { generation := zeros
          requestId := zeros
          count := 1
          dimension := 4
          effectiveDevice := some (str "cpu") } [[]] := by
  have passed : admitTexts [.str []] = .request [[]] := by decide
  have greeted : handshake shallow launchAny (zeroModel 4) = some (4, str "cpu") := by
    decide +kernel
  exact ⟨passed, greeted, (admitted_request_completes_iff shallow launchAny zeros (zeroModel 4) _ _
    _ _ passed greeted).mpr (by decide)⟩

/-- A hundred texts and a model of the largest dimension: the vectors take 26214400 bytes. -/
theorem hundred_texts_are_not_answered :
    admitTexts (List.replicate 100 (.str [])) = .request (List.replicate 100 []) ∧
      handshake shallow launchAny (zeroModel 65536) = some (65536, str "cpu") ∧
      ¬ Completes shallow (zeroModel 65536)
        { generation := zeros
          requestId := zeros
          count := 100
          dimension := 65536
          effectiveDevice := some (str "cpu") } (List.replicate 100 []) := by
  have passed : admitTexts (List.replicate 100 (.str [])) = .request (List.replicate 100 []) := by
    decide +kernel
  have greeted : handshake shallow launchAny (zeroModel 65536) = some (65536, str "cpu") := by
    decide +kernel
  refine ⟨passed, greeted, fun completes => ?_⟩
  have small := (admitted_request_completes_iff shallow launchAny zeros (zeroModel 65536) _ _
    _ _ passed greeted).mp completes
  revert small
  decide

end HermesCashew.EmbeddingExchange
