import HermesCashew.JsonDocument
import HermesCashew.Raising

/-!
# Tool calls

`handle_tool_call` with the arguments of a tool as the items of a `dict`. The layers below
it are parameters that answer or raise. Every exception that comes up is also written to a
log, so that the exceptions that a `try` block absorbs can be seen. What the calls book in
the outcome ledger is the subject of `LateOperations`; it does not decide what they return.
-/

namespace HermesCashew.ToolCall

open HermesCashew.JsonDocument
open HermesCashew.JsonText (Str str)
open HermesCashew.Raising

set_option autoImplicit false

inductive Layer where
  | config
  | admission
  | retrieval
  | enrichment
  | keywordSearch
  | accessMetrics
  | contextFormat
  | release
  | sessionImport
  | runtimeIdentity
  | endSession
  deriving DecidableEq, Repr

/-- `encoder`: a `RecursionError` of `json.dumps`, or the `ValueError` of an integer that has
no text. -/
inductive Failure where
  | keyError
  | typeError
  | encoder
  | layer (layer : Layer)
  deriving DecidableEq, Repr

abbrev Code (Value : Type) := Block (List Failure) Failure Value

def raising {Value : Type} (failure : Failure) : Code Value :=
  fun log => (.error failure, log ++ [failure])

/-- The answer of a layer; without one the layer has raised. -/
def ask {Value : Type} (layer : Layer) : Option Value → Code Value
  | some answer => pure answer
  | none => raising (.layer layer)

abbrev Items := List (Str × Value)

/-- `args[key]`. -/
def item (args : Items) (key : String) : Code Value :=
  match SortedDict.get (str key) args with
  | some value => pure value
  | none => raising .keyError

/-- `args.get(key)`. -/
def get (args : Items) (key : String) : Value :=
  (SortedDict.get (str key) args).getD .none

def len (value : Value) : Code Nat :=
  match value.len with
  | some size => pure size
  | none => raising .typeError

/-! ## Envelopes -/

/-- The interpreter: for how many arrays and objects inside each other `json.dumps` has room
where `handle_tool_call` calls it. There is room for one. -/
structure Interpreter where
  nesting : Nat
  roomy : 0 < nesting

/-- `json.dumps(items)`. -/
def dumps (interpreter : Interpreter) (items : Items) : Code (List Char) :=
  if (Value.dict items).Fits interpreter.nesting then
    pure (JsonDocument.dumps spaced (.dict items))
  else raising .encoder

def toolName : Str := str "cashew_query"

def extractToolName : Str := str "cashew_extract"

def successEnvelope (query : Value) (context : Str) (nodeCount : Nat) : Items :=
  [(str "ok", .bool true), (str "tool", .str toolName), (str "query", query),
    (str "context", .str context), (str "node_count", .int nodeCount)]

def buildSuccessEnvelope (interpreter : Interpreter) (query : Value) (context : Str)
    (nodeCount : Nat) : Code (List Char) :=
  dumps interpreter (successEnvelope query context nodeCount)

def errorEnvelope (query : Value) (errorMessage : String) : Items :=
  [(str "ok", .bool false), (str "tool", .str toolName), (str "error", .str (str errorMessage)),
    (str "query", query)]

def buildErrorEnvelope (interpreter : Interpreter) (query : Value) (errorMessage : String) :
    Code (List Char) :=
  dumps interpreter (errorEnvelope query errorMessage)

def extractSuccessEnvelope (newNodes newEdges : Nat) : Items :=
  [(str "ok", .bool true), (str "tool", .str extractToolName), (str "new_nodes", .int newNodes),
    (str "new_edges", .int newEdges)]

def buildExtractSuccessEnvelope (interpreter : Interpreter) (newNodes newEdges : Nat) :
    Code (List Char) :=
  dumps interpreter (extractSuccessEnvelope newNodes newEdges)

def extractErrorEnvelope (errorMessage : String) : Items :=
  [(str "ok", .bool false), (str "tool", .str extractToolName),
    (str "error", .str (str errorMessage))]

def buildExtractErrorEnvelope (interpreter : Interpreter) (errorMessage : String) :
    Code (List Char) :=
  dumps interpreter (extractErrorEnvelope errorMessage)

/-! ## The call -/

/-- What a call reads of the provider. -/
structure Provider where
  config : Bool
  dbPath : Bool
  initializing : Bool
  shutdownStarted : Bool
  writeEnabled : Bool
  embeddingIdentityReady : Bool
  deriving DecidableEq, Repr

structure Request where
  query : Value
  maxNodes : Value
  domain : Value
  tag : Value
  excludeTags : Value

/-- The `tags` of the vector retrieval: `[tag] if tag else None`. -/
def Request.tags (request : Request) : Option (List Value) :=
  if truthy request.tag then some [request.tag] else none

structure Layers (NodeId Node : Type) where
  recallK : Option Value
  admission : Option Unit
  retrieve : Request → Option (List Value) → Option (List NodeId)
  enrichResults : List NodeId → Option (List Node)
  keywordSearch : Request → Option (List Node)
  nodeId : Node → NodeId
  updateAccessMetrics : List NodeId → Option Unit
  formatContext : List Node → Option Str
  release : Option Unit
  importEndSession : Option Unit
  validateRuntimeIdentity : Option Unit
  /-- The nodes and the edges that one turn has added. -/
  endSession : Value → Value → Option (Nat × Nat)

variable {NodeId Node : Type}

def operationAdmission {Value : Type} (layers : Layers NodeId Node) (body : Code Value) :
    Code Value := do
  ask .admission layers.admission
  body.finish (ask .release layers.release)

def requestOf (args : Items) (query recallK : Value) : Request where
  query := query
  maxNodes := (SortedDict.get (str "max_nodes") args).getD recallK
  domain := get args "domain"
  tag := get args "tag"
  excludeTags := get args "exclude_tags"

/-- The vector retrieval, with `None` for an exception. -/
def vectorResults (layers : Layers NodeId Node) (request : Request) : Code (List NodeId) :=
  (ask .retrieval (layers.retrieve request request.tags)).except fun _ => pure []

def foundNodes (layers : Layers NodeId Node) (request : Request) (results : List NodeId) :
    Code (List Node) :=
  if results.isEmpty then ask .keywordSearch (layers.keywordSearch request)
  else ask .enrichment (layers.enrichResults results)

def noteAccess (layers : Layers NodeId Node) (nodes : List Node) : Code Unit :=
  if nodes.isEmpty then pure ()
  else ask .accessMetrics (layers.updateAccessMetrics (nodes.map layers.nodeId))

def recalledNodes (layers : Layers NodeId Node) (request : Request) : Code (List Node) := do
  let results ← vectorResults layers request
  let nodes ← foundNodes layers request results
  noteAccess layers nodes
  pure nodes

def queryNodes (layers : Layers NodeId Node) (identityReady : Bool) (request : Request) :
    Code (List Node) :=
  if identityReady then operationAdmission layers (recalledNodes layers request)
  else ask .keywordSearch (layers.keywordSearch request)

def contextOf (layers : Layers NodeId Node) (nodes : List Node) : Code Str :=
  if nodes.isEmpty then pure [] else ask .contextFormat (layers.formatContext nodes)

/-- The `try` block of `cashew_query`. -/
def queryBody (interpreter : Interpreter) (layers : Layers NodeId Node) (identityReady : Bool)
    (args : Items) : Code (List Char) := do
  let query ← item args "query"
  let _ ← len query
  let recallK ← ask .config layers.recallK
  let nodes ← queryNodes layers identityReady (requestOf args query recallK)
  let context ← contextOf layers nodes
  buildSuccessEnvelope interpreter query context nodes.length

/-- `len(args.get(key, ""))`, which both handlers compute for the error report. -/
def reportedLength (args : Items) (key : String) : Code Nat :=
  len ((SortedDict.get (str key) args).getD (.str []))

def queryHandler (interpreter : Interpreter) (args : Items) : Code (List Char) := do
  let _ ← reportedLength args "query"
  buildErrorEnvelope interpreter (get args "query") "cashew recall failed"

/-- The `try` block of `cashew_extract`. -/
def extractBody (interpreter : Interpreter) (layers : Layers NodeId Node) (args : Items) :
    Code (List Char) := do
  let user ← item args "user_content"
  let assistant ← item args "assistant_content"
  ask .sessionImport layers.importEndSession
  let (newNodes, newEdges) ← operationAdmission layers do
    ask .runtimeIdentity layers.validateRuntimeIdentity
    ask .endSession (layers.endSession user assistant)
  buildExtractSuccessEnvelope interpreter newNodes newEdges

def extractHandler (interpreter : Interpreter) (args : Items) : Code (List Char) := do
  let _ ← reportedLength args "user_content"
  buildExtractErrorEnvelope interpreter "cashew extract failed"

def Provider.queryStopped (provider : Provider) : Bool :=
  !provider.config || provider.initializing || provider.shutdownStarted

def Provider.extractStopped (provider : Provider) : Bool :=
  !provider.writeEnabled || !provider.embeddingIdentityReady || !provider.dbPath ||
    !provider.config || provider.initializing || provider.shutdownStarted

def handleToolCall (interpreter : Interpreter) (provider : Provider)
    (layers : Layers NodeId Node) (name : Str) (args : Items) : Code (List Char) :=
  if name = toolName then
    if provider.queryStopped then
      buildErrorEnvelope interpreter (get args "query") "cashew recall failed"
    else
      (queryBody interpreter layers provider.embeddingIdentityReady args).except
        fun _ => queryHandler interpreter args
  else if name = extractToolName then
    if provider.extractStopped then
      buildExtractErrorEnvelope interpreter "cashew extract failed"
    else
      (extractBody interpreter layers args).except fun _ => extractHandler interpreter args
  else
    buildErrorEnvelope interpreter .none "unknown tool"

def answeringTool (name : Str) : Str :=
  if name = extractToolName then extractToolName else toolName

/-! ## Answers -/

def Envelope (ok : Bool) (tool : Str) (text : List Char) : Prop :=
  ∃ depth members, (∀ room, depth ≤ room → loads room text = .ok (.dict members)) ∧
    SortedDict.get (str "ok") members = some (.bool ok) ∧
    SortedDict.get (str "tool") members = some (.str tool)

structure IsEnvelope (ok : Bool) (tool : Str) (items : Items) : Prop where
  names : (items.map Prod.fst).Nodup
  unpaired : ∀ name ∈ items.map Prod.fst, Joined name
  word : Joined tool
  ok : SortedDict.get (str "ok") items = some (.bool ok)
  tool : SortedDict.get (str "tool") items = some (.str tool)

theorem success_envelope (query : Value) (context : Str) (nodeCount : Nat) :
    IsEnvelope true toolName (successEnvelope query context nodeCount) where
  names := by
    show [str "ok", str "tool", str "query", str "context", str "node_count"].Nodup
    decide
  unpaired := by
    show ∀ name ∈ [str "ok", str "tool", str "query", str "context", str "node_count"], Joined name
    decide
  word := by decide
  ok := rfl
  tool := rfl

theorem error_envelope (query : Value) (errorMessage : String) :
    IsEnvelope false toolName (errorEnvelope query errorMessage) where
  names := by
    show [str "ok", str "tool", str "error", str "query"].Nodup
    decide
  unpaired := by
    show ∀ name ∈ [str "ok", str "tool", str "error", str "query"], Joined name
    decide
  word := by decide
  ok := rfl
  tool := rfl

theorem extract_success_envelope (newNodes newEdges : Nat) :
    IsEnvelope true extractToolName (extractSuccessEnvelope newNodes newEdges) where
  names := by
    show [str "ok", str "tool", str "new_nodes", str "new_edges"].Nodup
    decide
  unpaired := by
    show ∀ name ∈ [str "ok", str "tool", str "new_nodes", str "new_edges"], Joined name
    decide
  word := by decide
  ok := rfl
  tool := rfl

theorem extract_error_envelope (errorMessage : String) :
    IsEnvelope false extractToolName (extractErrorEnvelope errorMessage) where
  names := by
    show [str "ok", str "tool", str "error"].Nodup
    decide
  unpaired := by
    show ∀ name ∈ [str "ok", str "tool", str "error"], Joined name
    decide
  word := by decide
  ok := rfl
  tool := rfl

/-- An envelope that is written is read back as one. -/
theorem IsEnvelope.read {ok : Bool} {tool : Str} {items : Items}
    (envelope : IsEnvelope ok tool items) {depth : Nat} (fits : (Value.dict items).Fits depth) :
    Envelope ok tool (JsonDocument.dumps spaced (.dict items)) := by
  obtain ⟨members, reread, found⟩ := reread_get envelope.names envelope.unpaired
  refine ⟨depth, members, fun room deeper => ?_, ?_, ?_⟩
  · have read := loads_dumps spaced room (fits_deeper deeper _ fits) (List.forall_mem_nil _)
    rw [List.append_nil] at read
    rw [read, ← reread]
    rfl
  · have plain : (Value.bool ok).reread = .bool ok := by cases ok <;> rfl
    rw [found, envelope.ok, Option.map_some, plain]
  · have plain : (Value.str tool).reread = .str tool := congrArg Value.str envelope.word
    rw [found, envelope.tool, Option.map_some, plain]

theorem envelope_unique {first second : Bool} {tool other : Str} {text : List Char}
    (one : Envelope first tool text) (two : Envelope second other text) : first = second := by
  obtain ⟨depth, members, read, ok, -⟩ := one
  obtain ⟨depth', members', read', ok', -⟩ := two
  have same := (read (max depth depth') (Nat.le_max_left _ _)).symm.trans
    (read' (max depth depth') (Nat.le_max_right _ _))
  cases same
  rw [ok] at ok'
  cases ok'
  rfl

/-- The call has returned an envelope of its tool, and `ok` is false if one of the
exceptions that count has come up on the way. -/
def Answers (counts : Failure → Prop) (name : Str)
    (outcome : Except Failure (List Char) × List Failure) : Prop :=
  ∃ text ok, outcome.1 = .ok text ∧ Envelope ok (answeringTool name) text ∧
    ((∃ failure ∈ outcome.2, counts failure) → ok = false)

/-- The argument is absent or has a length. -/
def Measurable (args : Items) (key : String) : Prop :=
  ∀ value, SortedDict.get (str key) args = some value → value.len ≠ none

def Writable (interpreter : Interpreter) (args : Items) : Prop :=
  (get args "query").Fits (interpreter.nesting - 1)

def Extracts (interpreter : Interpreter) (layers : Layers NodeId Node) (args : Items) : Prop :=
  ∃ user assistant added, SortedDict.get (str "user_content") args = some user ∧
    SortedDict.get (str "assistant_content") args = some assistant ∧
    layers.importEndSession = some () ∧ layers.admission = some () ∧
    layers.validateRuntimeIdentity = some () ∧
    layers.endSession user assistant = some added ∧ layers.release = some () ∧
    (Value.dict (extractSuccessEnvelope added.1 added.2)).Fits interpreter.nesting

/-- The handler of the call is not reached, or it can measure its argument; and the argument
that is repeated can be written. -/
def Inspectable (interpreter : Interpreter) (provider : Provider) (layers : Layers NodeId Node)
    (name : Str) (args : Items) : Prop :=
  if name = toolName then
    Writable interpreter args ∧ (provider.queryStopped = true ∨ Measurable args "query")
  else if name = extractToolName then
    provider.extractStopped = true ∨ Measurable args "user_content" ∨
      Extracts interpreter layers args
  else True

/-- The vector retrieval raises and the rest of the query answers without it. -/
def FallsBack (provider : Provider) (layers : Layers NodeId Node) (name : Str)
    (args : Items) : Prop :=
  name = toolName ∧ provider.queryStopped = false ∧ provider.embeddingIdentityReady = true ∧
    ∃ query recallK nodes, SortedDict.get (str "query") args = some query ∧ query.len ≠ none ∧
      layers.recallK = some recallK ∧ layers.admission = some () ∧
      layers.retrieve (requestOf args query recallK) (requestOf args query recallK).tags = none ∧
      layers.keywordSearch (requestOf args query recallK) = some nodes ∧
      PythonInt.Printable nodes.length ∧
      (nodes ≠ [] → layers.updateAccessMetrics (nodes.map layers.nodeId) = some () ∧
        layers.formatContext nodes ≠ none) ∧
      layers.release = some ()

/-! ## The log of a body -/

/-- Nothing but the vector retrieval has raised. -/
def Clean (log : List Failure) : Prop :=
  ∀ failure ∈ log, failure = .layer .retrieval

def Soiled (log : List Failure) : Prop :=
  ∃ failure ∈ log, failure ≠ .layer .retrieval

/-- A block that ends with a clean log, or raises and leaves its mark. -/
def Settles {Value : Type} (block : Code Value) : Prop :=
  Block.Ends Clean block (fun _ => Clean) (fun _ => Soiled)

theorem settles_pure {Value : Type} (value : Value) : Settles (pure value) :=
  Block.Ends.value fun _ clean => clean

theorem settles_bind {Value Result : Type} {block : Code Value} {next : Value → Code Result}
    (first : Settles block) (second : ∀ value, Settles (next value)) :
    Settles (block >>= next) :=
  Block.Ends.bind first second

theorem settles_raising {Value : Type} {failure : Failure}
    (counted : failure ≠ .layer .retrieval) : Settles (raising failure : Code Value) := by
  intro log clean
  exact ⟨failure, by simp, counted⟩

theorem settles_ask {Value : Type} {layer : Layer} (counted : layer ≠ .retrieval)
    (answer : Option Value) : Settles (ask layer answer) := by
  cases answer with
  | none =>
      apply settles_raising
      simpa using counted
  | some answer => exact settles_pure answer

theorem settles_item (args : Items) (key : String) : Settles (item args key) := by
  unfold item
  split
  · exact settles_pure _
  · exact settles_raising (by simp)

theorem settles_len (value : Value) : Settles (len value) := by
  unfold len
  split
  · exact settles_pure _
  · exact settles_raising (by simp)

theorem settles_dumps (interpreter : Interpreter) (items : Items) :
    Settles (dumps interpreter items) := by
  unfold dumps
  split
  · exact settles_pure _
  · exact settles_raising (by simp)

theorem ask_keeps_soiled {Value : Type} (layer : Layer) (answer : Option Value) :
    Block.Ends Soiled (ask layer answer) (fun _ => Soiled) (fun _ => Soiled) := by
  intro log soiled
  obtain ⟨failure, member, counted⟩ := soiled
  cases answer with
  | none => exact ⟨failure, by simp [member], counted⟩
  | some answer => exact ⟨failure, member, counted⟩

theorem settles_admission {Value : Type} (layers : Layers NodeId Node) {body : Code Value}
    (settles : Settles body) : Settles (operationAdmission layers body) := by
  unfold operationAdmission
  apply settles_bind (settles_ask (by decide) _)
  intro _
  apply Block.Ends.finish settles
  · intro _
    exact settles_ask (by decide) _
  · intro _
    exact ask_keeps_soiled _ _

theorem settles_vector (layers : Layers NodeId Node) (request : Request) :
    Settles (vectorResults layers request) := by
  intro log clean
  unfold vectorResults Block.except
  cases layers.retrieve request request.tags with
  | some results => exact clean
  | none =>
      intro failure member
      rcases List.mem_append.mp member with member | member
      · exact clean failure member
      · exact List.mem_singleton.mp member

theorem settles_recalled (layers : Layers NodeId Node) (request : Request) :
    Settles (recalledNodes layers request) := by
  unfold recalledNodes
  apply settles_bind (settles_vector layers request)
  intro results
  apply settles_bind
  · unfold foundNodes
    split <;> exact settles_ask (by decide) _
  · intro nodes
    apply settles_bind
    · unfold noteAccess
      split
      · exact settles_pure _
      · exact settles_ask (by decide) _
    · intro _
      exact settles_pure _

theorem settles_query (interpreter : Interpreter) (layers : Layers NodeId Node)
    (identityReady : Bool) (args : Items) :
    Settles (queryBody interpreter layers identityReady args) := by
  unfold queryBody
  apply settles_bind (settles_item _ _)
  intro query
  apply settles_bind (settles_len _)
  intro _
  apply settles_bind (settles_ask (by decide) _)
  intro recallK
  apply settles_bind
  · unfold queryNodes
    split
    · exact settles_admission layers (settles_recalled layers _)
    · exact settles_ask (by decide) _
  · intro nodes
    apply settles_bind
    · unfold contextOf
      split
      · exact settles_pure _
      · exact settles_ask (by decide) _
    · intro context
      exact settles_dumps interpreter _

/-! ## Runs that succeed -/

theorem ask_ok {Value : Type} {layer : Layer} {answer : Option Value} {value : Value}
    {log after : List Failure} (ran : ask layer answer log = (.ok value, after)) :
    answer = some value ∧ after = log := by
  cases answer with
  | none => cases ran
  | some answer =>
      cases ran
      exact ⟨rfl, rfl⟩

theorem item_ok {args : Items} {key : String} {value : Value}
    {log after : List Failure} (ran : item args key log = (.ok value, after)) :
    SortedDict.get (str key) args = some value ∧ after = log := by
  unfold item at ran
  cases present : SortedDict.get (str key) args with
  | none =>
      rw [present] at ran
      cases ran
  | some found =>
      rw [present] at ran
      cases ran
      exact ⟨rfl, rfl⟩

theorem len_ok {value : Value} {size : Nat} {log after : List Failure}
    (ran : len value log = (.ok size, after)) : value.len ≠ none ∧ after = log := by
  unfold len at ran
  cases measured : value.len with
  | none =>
      rw [measured] at ran
      cases ran
  | some found =>
      rw [measured] at ran
      cases ran
      exact ⟨Option.some_ne_none _, rfl⟩

theorem dumps_ok {interpreter : Interpreter} {items : Items} {text : List Char}
    {log after : List Failure} (ran : dumps interpreter items log = (.ok text, after)) :
    (Value.dict items).Fits interpreter.nesting ∧
      text = JsonDocument.dumps spaced (.dict items) ∧ after = log := by
  unfold dumps at ran
  split at ran
  · rename_i fits
    cases ran
    exact ⟨fits, rfl, rfl⟩
  · cases ran

theorem dumps_fits {interpreter : Interpreter} {items : Items}
    (fits : (Value.dict items).Fits interpreter.nesting) (log : List Failure) :
    dumps interpreter items log = (.ok (JsonDocument.dumps spaced (.dict items)), log) := by
  rw [dumps, if_pos fits]
  rfl

theorem dumps_raises {interpreter : Interpreter} {items : Items}
    (deep : ¬(Value.dict items).Fits interpreter.nesting) (log : List Failure) :
    dumps interpreter items log = (.error .encoder, log ++ [.encoder]) := by
  rw [dumps, if_neg deep]
  rfl

/-- An envelope is as deep as the query in it, and one more. -/
theorem error_fits_iff {interpreter : Interpreter} {args : Items} {errorMessage : String} :
    (Value.dict (errorEnvelope (get args "query") errorMessage)).Fits interpreter.nesting ↔
      Writable interpreter args := by
  simp [errorEnvelope, Writable, Value.Fits, FitsMembers, interpreter.roomy]

theorem success_fits_iff {interpreter : Interpreter} {query : Value} {context : Str}
    {nodeCount : Nat} :
    (Value.dict (successEnvelope query context nodeCount)).Fits interpreter.nesting ↔
      query.Fits (interpreter.nesting - 1) ∧ PythonInt.Printable nodeCount := by
  simp [successEnvelope, Value.Fits, FitsMembers, PythonInt.Printable, interpreter.roomy]

theorem writable_of_present {interpreter : Interpreter} {args : Items} {query : Value}
    (present : SortedDict.get (str "query") args = some query) :
    Writable interpreter args ↔ query.Fits (interpreter.nesting - 1) := by
  rw [Writable, get, present, Option.getD_some]

theorem admission_ok {Value : Type} {layers : Layers NodeId Node} {body : Code Value}
    {value : Value} {log after : List Failure}
    (ran : operationAdmission layers body log = (.ok value, after)) :
    layers.admission = some () ∧ body log = (.ok value, after) ∧ layers.release = some () := by
  obtain ⟨_, middle, entered, finished⟩ := Block.bind_inv ran
  obtain ⟨admitted, rfl⟩ := ask_ok entered
  obtain ⟨middle', worked, left⟩ := Block.finish_inv finished
  obtain ⟨released, rfl⟩ := ask_ok left
  exact ⟨admitted, worked, released⟩

/-- The vector retrieval leaves its mark when it raises. -/
theorem vector_ok {layers : Layers NodeId Node} {request : Request} {results : List NodeId}
    {log after : List Failure} (ran : vectorResults layers request log = (.ok results, after)) :
    after = log ∨ (layers.retrieve request request.tags = none ∧ results = []) := by
  unfold vectorResults Block.except at ran
  cases answer : layers.retrieve request request.tags with
  | some found =>
      rw [answer] at ran
      cases ran
      exact Or.inl rfl
  | none =>
      rw [answer] at ran
      cases ran
      exact Or.inr ⟨rfl, rfl⟩

theorem note_access_ok {layers : Layers NodeId Node} {nodes : List Node} {log after : List Failure}
    (ran : noteAccess layers nodes log = (.ok (), after)) :
    after = log ∧
      (nodes ≠ [] → layers.updateAccessMetrics (nodes.map layers.nodeId) = some ()) := by
  unfold noteAccess at ran
  split at ran
  · rename_i empty
    cases ran
    refine ⟨rfl, fun some_node => absurd ?_ some_node⟩
    simpa using empty
  · obtain ⟨noted, rfl⟩ := ask_ok ran
    exact ⟨rfl, fun _ => noted⟩

theorem context_ok {layers : Layers NodeId Node} {nodes : List Node} {context : Str}
    {log after : List Failure} (ran : contextOf layers nodes log = (.ok context, after)) :
    after = log ∧ (nodes ≠ [] → layers.formatContext nodes ≠ none) := by
  unfold contextOf at ran
  split at ran
  · rename_i empty
    cases ran
    refine ⟨rfl, fun some_node => absurd ?_ some_node⟩
    simpa using empty
  · obtain ⟨formatted, rfl⟩ := ask_ok ran
    exact ⟨rfl, fun _ => by simp [formatted]⟩

theorem recalled_ok {layers : Layers NodeId Node} {request : Request} {nodes : List Node}
    {log after : List Failure} (ran : recalledNodes layers request log = (.ok nodes, after)) :
    after = log ∨
      (layers.retrieve request request.tags = none ∧
        layers.keywordSearch request = some nodes ∧
        (nodes ≠ [] → layers.updateAccessMetrics (nodes.map layers.nodeId) = some ())) := by
  obtain ⟨results, middle, vector, ran⟩ := Block.bind_inv ran
  obtain ⟨found, middle', searched, ran⟩ := Block.bind_inv ran
  obtain ⟨_, middle'', noted, ran⟩ := Block.bind_inv ran
  cases ran
  obtain ⟨rfl, metrics⟩ := note_access_ok noted
  unfold foundNodes at searched
  split at searched
  · obtain ⟨answered, rfl⟩ := ask_ok searched
    rcases vector_ok vector with rfl | ⟨raised, -⟩
    · exact Or.inl rfl
    · exact Or.inr ⟨raised, answered, metrics⟩
  · rename_i some_result
    obtain ⟨answered, rfl⟩ := ask_ok searched
    rcases vector_ok vector with rfl | ⟨-, rfl⟩
    · exact Or.inl rfl
    · exact absurd rfl some_result

/-- A query that succeeds has a query that can be measured and written. -/
theorem query_inv {interpreter : Interpreter} {layers : Layers NodeId Node}
    {identityReady : Bool} {args : Items} {text : List Char} {log after : List Failure}
    (ran : queryBody interpreter layers identityReady args log = (.ok text, after)) :
    ∃ query recallK nodes context, SortedDict.get (str "query") args = some query ∧
      query.len ≠ none ∧ layers.recallK = some recallK ∧
      queryNodes layers identityReady (requestOf args query recallK) log = (.ok nodes, after) ∧
      (nodes ≠ [] → layers.formatContext nodes ≠ none) ∧
      (Value.dict (successEnvelope query context nodes.length)).Fits interpreter.nesting ∧
      text = JsonDocument.dumps spaced (.dict (successEnvelope query context nodes.length)) := by
  obtain ⟨query, log₁, read, ran₁⟩ := Block.bind_inv ran
  obtain ⟨present, rfl⟩ := item_ok read
  obtain ⟨size, log₂, measure, ran₂⟩ := Block.bind_inv ran₁
  obtain ⟨measured, rfl⟩ := len_ok measure
  obtain ⟨recallK, log₃, configured, ran₃⟩ := Block.bind_inv ran₂
  obtain ⟨config, rfl⟩ := ask_ok configured
  obtain ⟨nodes, log₄, recalled, ran₄⟩ := Block.bind_inv ran₃
  obtain ⟨context, log₅, formatted, ran₅⟩ := Block.bind_inv ran₄
  obtain ⟨rfl, format⟩ := context_ok formatted
  obtain ⟨fits, written, rfl⟩ := dumps_ok ran₅
  exact ⟨query, recallK, nodes, context, present, measured, config, recalled, format, fits,
    written⟩

/-- A query that succeeds with a mark in its log has fallen back. -/
theorem query_ok {interpreter : Interpreter} {provider : Provider} {layers : Layers NodeId Node}
    {args : Items} {text : List Char} {log : List Failure}
    (running : provider.queryStopped = false)
    (ran : queryBody interpreter layers provider.embeddingIdentityReady args [] =
      (.ok text, log))
    (marked : log ≠ []) : FallsBack provider layers toolName args := by
  obtain ⟨query, recallK, nodes, context, present, measured, config, recalled, format, fits, -⟩ :=
    query_inv ran
  have shown := (success_fits_iff.mp fits).2
  unfold queryNodes at recalled
  split at recalled
  · rename_i ready
    obtain ⟨admitted, recalled, released⟩ := admission_ok recalled
    rcases recalled_ok recalled with rfl | ⟨raised, searched, noted⟩
    · exact absurd rfl marked
    · exact ⟨rfl, running, ready, query, recallK, nodes, present, measured, config, admitted,
        raised, searched, shown, fun some_node => ⟨noted some_node, format some_node⟩, released⟩
  · obtain ⟨-, rfl⟩ := ask_ok recalled
    exact absurd rfl marked

theorem falls_back_runs {interpreter : Interpreter} {provider : Provider}
    {layers : Layers NodeId Node} {name : Str} {args : Items}
    (fallsBack : FallsBack provider layers name args) (writable : Writable interpreter args) :
    ∃ text, queryBody interpreter layers provider.embeddingIdentityReady args [] =
      (.ok text, [.layer .retrieval]) := by
  obtain ⟨-, -, ready, query, recallK, nodes, present, measured, config, admitted, raised,
    searched, shown, answered, released⟩ := fallsBack
  obtain ⟨size, measured⟩ := Option.ne_none_iff_exists'.mp measured
  have vector : vectorResults layers (requestOf args query recallK) [] =
      (.ok [], [.layer .retrieval]) := by
    simp only [vectorResults, raised]
    rfl
  have written (context : Str) :
      buildSuccessEnvelope interpreter query context nodes.length [.layer .retrieval] =
        (.ok (JsonDocument.dumps spaced (.dict (successEnvelope query context nodes.length))),
          [.layer .retrieval]) :=
    dumps_fits (success_fits_iff.mpr ⟨(writable_of_present present).mp writable, shown⟩) _
  by_cases empty : nodes = []
  · subst empty
    exact ⟨_, by
      simp [queryBody, item, present, len, measured, config, queryNodes, ready,
        operationAdmission, admitted, released, Block.finish, recalledNodes, foundNodes,
        noteAccess, contextOf, ask, Block.bind_apply, vector, searched]
      exact written []⟩
  · obtain ⟨noted, formatted⟩ := answered empty
    obtain ⟨context, formatted⟩ := Option.ne_none_iff_exists'.mp formatted
    exact ⟨_, by
      simp [queryBody, item, present, len, measured, config, queryNodes, ready,
        operationAdmission, admitted, released, Block.finish, recalledNodes, foundNodes,
        noteAccess, contextOf, ask, Block.bind_apply, vector, searched, empty, noted, formatted]
      exact written context⟩

theorem extract_ok {interpreter : Interpreter} {layers : Layers NodeId Node} {args : Items}
    {text : List Char} {log after : List Failure}
    (ran : extractBody interpreter layers args log = (.ok text, after)) :
    Extracts interpreter layers args := by
  obtain ⟨user, log₁, read, ran₁⟩ := Block.bind_inv ran
  obtain ⟨user_present, rfl⟩ := item_ok read
  obtain ⟨assistant, log₂, read, ran₂⟩ := Block.bind_inv ran₁
  obtain ⟨assistant_present, rfl⟩ := item_ok read
  obtain ⟨_, log₃, loaded, ran₃⟩ := Block.bind_inv ran₂
  obtain ⟨imported, rfl⟩ := ask_ok loaded
  obtain ⟨added, log₄, worked, written⟩ := Block.bind_inv ran₃
  obtain ⟨admitted, body, released⟩ := admission_ok worked
  obtain ⟨_, log₅, checked, finished⟩ := Block.bind_inv body
  obtain ⟨validated, rfl⟩ := ask_ok checked
  obtain ⟨ended, rfl⟩ := ask_ok finished
  exact ⟨user, assistant, added, user_present, assistant_present, imported, admitted, validated,
    ended, released, (dumps_ok written).1⟩

theorem extracts_runs {interpreter : Interpreter} {layers : Layers NodeId Node} {args : Items}
    (extracts : Extracts interpreter layers args) :
    ∃ text, extractBody interpreter layers args [] = (.ok text, []) ∧
      Envelope true extractToolName text := by
  obtain ⟨user, assistant, added, user_present, assistant_present, imported, admitted, validated,
    ended, released, fits⟩ := extracts
  have written : buildExtractSuccessEnvelope interpreter added.1 added.2 [] =
      (.ok (JsonDocument.dumps spaced (.dict (extractSuccessEnvelope added.1 added.2))), []) :=
    dumps_fits fits []
  refine ⟨_, ?_, (extract_success_envelope added.1 added.2).read fits⟩
  simp [extractBody, item, user_present, assistant_present, ask, imported, operationAdmission,
    admitted, validated, ended, released, Block.finish, Block.bind_apply]
  exact written

/-! ## The contract -/

theorem reported_of_measurable {args : Items} {key : String}
    (measurable : Measurable args key) (log : List Failure) :
    ∃ size, reportedLength args key log = (.ok size, log) := by
  unfold reportedLength len
  cases present : SortedDict.get (str key) args with
  | none => exact ⟨0, rfl⟩
  | some value =>
      obtain ⟨size, measured⟩ := Option.ne_none_iff_exists'.mp (measurable value present)
      rw [Option.getD_some, measured]
      exact ⟨size, rfl⟩

theorem reported_of_not_measurable {args : Items} {key : String}
    (unmeasurable : ¬ Measurable args key) (log : List Failure) :
    reportedLength args key log = (.error .typeError, log ++ [.typeError]) := by
  unfold Measurable at unmeasurable
  push Not at unmeasurable
  obtain ⟨value, present, sizeless⟩ := unmeasurable
  unfold reportedLength len
  rw [present, Option.getD_some, sizeless]
  rfl

/-- A body with a handler that measures an argument answers when the argument can be
measured and the report be written, or the body does not raise, and no exception that counts
was absorbed. -/
theorem guarded_answers (counts : Failure → Prop) (interpreter : Interpreter) (name : Str)
    (body : Code (List Char)) (args : Items) (key : String) {report : Items}
    (failed : IsEnvelope false (answeringTool name) report)
    (succeeded : ∀ text log, body [] = (.ok text, log) →
      Envelope true (answeringTool name) text) :
    Answers counts name
        ((body.except fun _ => do
          let _ ← reportedLength args key
          dumps interpreter report) []) ↔
      ((Measurable args key ∧ (Value.dict report).Fits interpreter.nesting) ∨
          ∃ text log, body [] = (.ok text, log)) ∧
        ¬ ∃ text log, body [] = (.ok text, log) ∧ ∃ failure ∈ log, counts failure := by
  unfold Block.except
  cases outcome : body [] with
  | mk result log =>
      cases result with
      | ok text =>
          have envelope := succeeded text log outcome
          constructor
          · rintro ⟨text', ok, returned, answered, absorbed⟩
            cases returned
            obtain rfl := envelope_unique answered envelope
            refine ⟨Or.inr ⟨_, log, rfl⟩, ?_⟩
            rintro ⟨text, log', same, counted⟩
            cases same
            exact absurd (absorbed counted) (by decide)
          · rintro ⟨-, unabsorbed⟩
            refine ⟨text, true, rfl, envelope, ?_⟩
            intro counted
            exact absurd ⟨text, log, rfl, counted⟩ unabsorbed
      | error failure =>
          have lost : ¬∃ text log', ((Except.error failure : Except Failure (List Char)), log) =
              (.ok text, log') := by
            rintro ⟨text, log', same⟩
            cases same
          by_cases measurable : Measurable args key
          · obtain ⟨size, reported⟩ := reported_of_measurable measurable log
            by_cases fits : (Value.dict report).Fits interpreter.nesting
            · refine iff_of_true ⟨_, false, ?_, failed.read fits, fun _ => rfl⟩
                ⟨.inl ⟨measurable, fits⟩, fun ⟨text, log', same, _⟩ => lost ⟨text, log', same⟩⟩
              simp only [Block.bind_apply, reported, dumps_fits fits]
            · refine iff_of_false ?_ fun ⟨either, _⟩ =>
                either.elim (fun both => fits both.2) lost
              rintro ⟨text, ok, returned, -⟩
              simp only [Block.bind_apply, reported, dumps_raises fits] at returned
              cases returned
          · have reported := reported_of_not_measurable measurable log
            refine iff_of_false ?_ fun ⟨either, _⟩ =>
              either.elim (fun both => measurable both.1) lost
            rintro ⟨text, ok, returned, -⟩
            simp only [Block.bind_apply, reported] at returned
            cases returned

theorem query_text {interpreter : Interpreter} {layers : Layers NodeId Node}
    {identityReady : Bool} {args : Items} {text : List Char} {log after : List Failure}
    (ran : queryBody interpreter layers identityReady args log = (.ok text, after)) :
    Writable interpreter args ∧ Measurable args "query" ∧ Envelope true toolName text := by
  obtain ⟨query, recallK, nodes, context, present, measured, -, -, -, fits, rfl⟩ := query_inv ran
  refine ⟨(writable_of_present present).mpr (success_fits_iff.mp fits).1, ?_,
    (success_envelope query context nodes.length).read fits⟩
  intro value other
  rw [present] at other
  cases other
  exact measured

theorem extract_text {interpreter : Interpreter} {layers : Layers NodeId Node} {args : Items}
    {text : List Char} {log : List Failure}
    (ran : extractBody interpreter layers args [] = (.ok text, log)) :
    log = [] ∧ Envelope true extractToolName text := by
  obtain ⟨written, runs, envelope⟩ := extracts_runs (extract_ok ran)
  rw [ran] at runs
  cases runs
  exact ⟨rfl, envelope⟩

/-- What is returned without a `try` block. -/
theorem returned_answers {counts : Failure → Prop} {interpreter : Interpreter} {name : Str}
    {report : Items} (failed : IsEnvelope false (answeringTool name) report) :
    Answers counts name (dumps interpreter report []) ↔
      (Value.dict report).Fits interpreter.nesting := by
  constructor
  · rintro ⟨text, ok, returned, -⟩
    by_contra deep
    rw [dumps_raises deep] at returned
    cases returned
  · intro fits
    rw [dumps_fits fits]
    exact ⟨_, false, rfl, failed.read fits, fun _ => rfl⟩

theorem query_answers {counts : Failure → Prop} {interpreter : Interpreter}
    {provider : Provider} {layers : Layers NodeId Node} {args : Items}
    (running : provider.queryStopped = false) :
    Answers counts toolName (handleToolCall interpreter provider layers toolName args []) ↔
      (Writable interpreter args ∧ Measurable args "query") ∧
        ¬ ∃ text log, queryBody interpreter layers provider.embeddingIdentityReady args [] =
          (.ok text, log) ∧ ∃ failure ∈ log, counts failure := by
  have guarded := guarded_answers counts interpreter toolName
    (queryBody interpreter layers provider.embeddingIdentityReady args) args "query"
    (error_envelope (get args "query") "cashew recall failed")
    (fun text log ran => (query_text ran).2.2)
  rw [error_fits_iff] at guarded
  simp only [handleToolCall, running, if_true, Bool.false_eq_true, if_false]
  refine guarded.trans (and_congr_left fun _ => ?_)
  constructor
  · rintro (⟨measurable, writable⟩ | ⟨text, log, ran⟩)
    · exact ⟨writable, measurable⟩
    · exact ⟨(query_text ran).1, (query_text ran).2.1⟩
  · rintro ⟨writable, measurable⟩
    exact .inl ⟨measurable, writable⟩

theorem extract_error_fits (interpreter : Interpreter) (errorMessage : String) :
    (Value.dict (extractErrorEnvelope errorMessage)).Fits interpreter.nesting := by
  simp [extractErrorEnvelope, Value.Fits, FitsMembers, interpreter.roomy]

theorem extract_answers {counts : Failure → Prop} {interpreter : Interpreter}
    {provider : Provider} {layers : Layers NodeId Node} {args : Items}
    (running : provider.extractStopped = false) :
    Answers counts extractToolName
        (handleToolCall interpreter provider layers extractToolName args []) ↔
      Measurable args "user_content" ∨ Extracts interpreter layers args := by
  have guarded := guarded_answers counts interpreter extractToolName
    (extractBody interpreter layers args) args "user_content"
    (extract_error_envelope "cashew extract failed")
    (fun text log ran => (extract_text ran).2)
  rw [and_iff_left (extract_error_fits interpreter _)] at guarded
  simp only [handleToolCall, running, if_true, Bool.false_eq_true, if_false,
    show ¬ extractToolName = toolName by decide]
  refine guarded.trans ?_
  constructor
  · rintro ⟨measurable | ⟨text, log, ran⟩, -⟩
    · exact Or.inl measurable
    · exact Or.inr (extract_ok ran)
  · intro inspectable
    constructor
    · apply inspectable.imp_right
      intro extracts
      obtain ⟨text, runs, -⟩ := extracts_runs extracts
      exact ⟨text, _, runs⟩
    · rintro ⟨text, log, ran, failure, member, -⟩
      obtain ⟨rfl, -⟩ := extract_text ran
      cases member

theorem unknown_fits (interpreter : Interpreter) (errorMessage : String) :
    (Value.dict (errorEnvelope .none errorMessage)).Fits interpreter.nesting := by
  simp [errorEnvelope, Value.Fits, FitsMembers, interpreter.roomy]

/-- A call of `cashew_query` whose provider takes it. -/
theorem running_query_answers {interpreter : Interpreter} {provider : Provider}
    {layers : Layers NodeId Node} {args : Items} (running : provider.queryStopped = false) :
    (Answers (fun failure => failure ≠ .layer .retrieval) toolName
        (handleToolCall interpreter provider layers toolName args []) ↔
      Writable interpreter args ∧ Measurable args "query") ∧
    (Answers (fun _ => True) toolName
        (handleToolCall interpreter provider layers toolName args []) ↔
      (Writable interpreter args ∧ Measurable args "query") ∧
        ¬ FallsBack provider layers toolName args) := by
  rw [query_answers running, query_answers running]
  constructor
  · apply and_iff_left
    rintro ⟨text, log, ran, failure, member, counted⟩
    have settled := settles_query interpreter layers provider.embeddingIdentityReady args []
      (by simp [Clean])
    rw [ran] at settled
    exact counted (settled failure member)
  · apply and_congr_right
    intro inspectable
    apply not_congr
    constructor
    · rintro ⟨text, log, ran, failure, member, -⟩
      exact query_ok running ran (List.ne_nil_of_mem member)
    · intro fallsBack
      obtain ⟨text, runs⟩ := falls_back_runs fallsBack inspectable.1
      exact ⟨_, _, runs, .layer .retrieval, by simp, trivial⟩

def readyProvider : Provider where
  config := true
  dbPath := true
  initializing := false
  shutdownStarted := false
  writeEnabled := true
  embeddingIdentityReady := true

/-- Layers over an empty graph that never raise. -/
def emptyGraph : Layers Unit Unit where
  recallK := some (.int 5)
  admission := some ()
  retrieve := fun _ _ => some []
  enrichResults := fun _ => some []
  keywordSearch := fun _ => some []
  nodeId := id
  updateAccessMetrics := fun _ => some ()
  formatContext := fun _ => some []
  release := some ()
  importEndSession := some ()
  validateRuntimeIdentity := some ()
  endSession := fun _ _ => some (0, 0)

def thousand : Interpreter where
  nesting := 1000
  roomy := by decide

/-- There is room for the envelope, and none for a list in it. -/
example : (handleToolCall ⟨1, by decide⟩ readyProvider emptyGraph toolName
    [(str "query", .list [])] []).1 = .error .encoder := rfl

end HermesCashew.ToolCall
