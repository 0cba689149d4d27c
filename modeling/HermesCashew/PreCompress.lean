import HermesCashew.Config
import Mathlib.Algebra.Group.Int.Defs

/-!
# Insights before a compression

`on_pre_compress`: the walk over the messages of the host, the answer of the model, and
the insights that it keeps, which are written one by one and summed up. The model, the
admission and the database may fail wherever they are asked.
-/

namespace HermesCashew.PreCompress

open HermesCashew.Config (Python isSurrogate loadsText)
open HermesCashew.JsonDocument (Value truthy)
open HermesCashew.JsonText (CodePoint Str str codePoint)
open HermesCashew.Raising

set_option autoImplicit false

/-! ## Python values -/

abbrev Items := List (Str × Value)

/-- `items.get(key, default)`. -/
def getOr (items : Items) (key : String) (default_ : Value) : Value :=
  (SortedDict.get (str key) items).getD default_

def isSpace (point : CodePoint) : Bool :=
  PythonInt.isSpace (Char.ofNat point.val)

/-- `text.strip()`. -/
def strip (text : Str) : Str :=
  ((text.dropWhile isSpace).reverse.dropWhile isSpace).reverse

def encodable (text : Str) : Bool :=
  !text.any isSurrogate

inductive Fault where
  | attribute
  | type
  | json (failure : JsonDocument.Failure)
  | unicode
  | database
  | model
  | operationAdmission
  | other
  deriving DecidableEq

/-! ## The exchanges -/

def speaker (message : Items) : Option Str :=
  match getOr message "role" (.str []) with
  | .str role => if role = str "user" ∨ role = str "assistant" then some role else none
  | _ => none

/-- A part of type `"text"`. -/
def textPart : Value → Option Value
  | .dict part =>
      match getOr part "type" .none with
      | .str kind => if kind = str "text" then some (getOr part "text" (.str [])) else none
      | _ => none
  | _ => none

/-- `" ".join(parts)`. -/
def joinParts : List Value → Except Fault (List Str)
  | [] => .ok []
  | .str text :: rest => (joinParts rest).map (text :: ·)
  | _ :: _ => .error .type

def messageContent (message : Items) : Except Fault Value :=
  match getOr message "content" (.str []) with
  | .list parts =>
      (joinParts ((parts.filterMap textPart).filter truthy)).map fun texts =>
        .str ((str " ").intercalate texts)
  | content => .ok content

def exchange (role : Str) : Value → Option Str
  | .str content => if strip content = [] then none else some (role ++ str ": " ++ strip content)
  | _ => none

def extractExchanges : List Value → Except Fault (List Str)
  | [] => .ok []
  | .dict message :: rest =>
      match speaker message with
      | none => extractExchanges rest
      | some role => do
          let content ← messageContent message
          let later ← extractExchanges rest
          .ok ((exchange role content).toList ++ later)
  | _ :: _ => .error .attribute

/-! ## The graph -/

structure State where
  /-- The rows of `thought_nodes`: their ids and contents. -/
  nodes : List (String × Str)
  creations : Nat := 0
  /-- The contents for which `_create_node` has returned. -/
  persisted : List Str := []
  /-- Whether `embed_nodes` was called. -/
  embedded : Bool := false
  /-- The contents that the summary is made of. -/
  summaries : List Str := []

def State.ids (state : State) : List String :=
  state.nodes.map Prod.fst

abbrev Code (Result : Type) := Block State Fault Result

/-- What the model answers: it may raise, and return anything. -/
inductive Answer where
  | raises
  | text (response : Str)
  | falsy
  | object

/-- What the provider meets. The fault of a layer is what it raises. -/
structure Host where
  python : Python
  /-- The prompt from the domains of the user and of the assistant, and the messages. -/
  model : Str → Str → Str → Answer
  /-- The first digits of the digest of a content. -/
  nodeId : Str → String
  admission : Option Fault
  runtimeIdentity : Option Fault
  release : Option Fault
  /-- `_embedding_identity_ready` inside the admission. -/
  stillReady : Bool
  /-- Whether the database fails in the call for a node. -/
  createFails : Nat → Bool
  tagsFail : Nat → Bool
  embedFails : Bool
  listText : List Value → Str

def ask {Result : Type} (result : Except Fault Result) : Code Result :=
  fun state => (result, state)

/-- A layer that may raise. -/
def layer (fault : Option Fault) : Code Unit :=
  ask (match fault with
    | none => .ok ()
    | some fault => .error fault)

/-- What `sqlite3` binds to a parameter. -/
def binds : Value → Bool
  | .int value => -2 ^ 63 ≤ value ∧ value < 2 ^ 63
  | .str text => encodable text
  | .list _ => false
  | .dict _ => false
  | _ => true

/-- A float that is not a number is bound as `NULL`. -/
def isNull : Value → Bool
  | .none => true
  | .float .nan => true
  | _ => false

structure Insight where
  content : Str
  nodeType : Value
  domain : Value
  tags : Value

def Insight.binds (insight : Insight) : Bool :=
  PreCompress.binds insight.nodeType && !isNull insight.nodeType &&
    PreCompress.binds insight.domain

/-- `_create_node`, with the number of the call. A failure of its own may leave the write
transaction open; that later calls then find the database locked is among the choices of
`createFails`. -/
def createNode (host : Host) (insight : Insight) : Code Nat :=
  fun state =>
    let index := state.creations
    let called := { state with creations := index + 1 }
    let nodeId := host.nodeId insight.content
    let returned := { called with persisted := state.persisted ++ [insight.content] }
    if encodable insight.content = false then (.error .unicode, called)
    else if host.createFails index then (.error .database, called)
    else if nodeId ∈ state.ids then (.ok index, returned)
    else if insight.binds then
      (.ok index, { returned with nodes := state.nodes ++ [(nodeId, insight.content)] })
    else (.error .database, called)

/-- `t.strip()` of every tag. -/
def tagTexts : List Value → Except Fault (List Str)
  | [] => .ok []
  | .str tag :: rest => (tagTexts rest).map (strip tag :: ·)
  | _ :: _ => .error .attribute

/-- `_set_node_tags` for the node of a call. -/
def setNodeTags (host : Host) (index : Nat) (tags : List Value) : Code Unit := do
  let texts ← ask (tagTexts tags)
  if texts.all encodable && !host.tagsFail index then pure () else ask (.error .database)

def tagNode (host : Host) (index : Nat) : Value → Code Unit
  | .list tags => if tags = [] then pure () else setNodeTags host index tags
  | _ => pure ()

/-- The `try` block of an item, with whether the item counts. -/
def createInsight (host : Host) (insight : Insight) : Code Bool :=
  Block.except
    (do
      let index ← createNode host insight
      tagNode host index insight.tags
      pure true)
    fun _ => pure false

/-- What the loop makes of an item: nothing, or an insight, unless `content.strip` fails. -/
def insightOf (item : Items) : Except Fault (Option Insight) :=
  match getOr item "content" (.str []) with
  | .str content =>
      .ok (if strip content = [] then none
        else some
          { content := strip content
            nodeType := getOr item "type" (.str (str "insight"))
            domain := getOr item "domain" (.str (str "user"))
            tags := getOr item "tags" (.list []) })
  | content => if truthy content then .error .attribute else .ok none

def createInsights (host : Host) (count : Nat) : List Items → Code Nat
  | [] => pure count
  | item :: rest => do
      match ← ask (insightOf item) with
      | none => createInsights host count rest
      | some insight => do
          let counts ← createInsight host insight
          createInsights host (count + counts.toNat) rest

def embedNodes (host : Host) : Code Unit :=
  fun state =>
    (if host.embedFails then .error .database else .ok (), { state with embedded := true })

/-- `_create_insight_nodes_unlocked`. -/
def createInsightNodesUnlocked (host : Host) (items : List Items) : Code Nat :=
  if host.stillReady = false then pure 0
  else do
    let count ← createInsights host 0 items
    if 0 < count then (embedNodes host).except fun _ => pure ()
    pure count

/-- The block that `_create_insight_nodes` admits. -/
def admittedInsights (host : Host) (items : List Items) : Code Nat := do
  layer host.runtimeIdentity
  createInsightNodesUnlocked host items

/-- `except OperationAdmissionError`. -/
def rejected (fault : Fault) : Code Nat :=
  if fault = .operationAdmission then pure 0 else Block.raise fault

def createInsightNodes (host : Host) (items : List Items) : Code Nat :=
  Block.except
    (do
      layer host.admission
      (admittedInsights host items).finish (layer host.release))
    rejected

/-! ## The answer of the model -/

/-- The text between the first `[` and the last `]` of a fenced answer. -/
def unfence (cleaned : Str) : Option Str :=
  if (str "```").isPrefixOf cleaned then do
    let start ← cleaned.findIdx? (· = codePoint '[')
    let fromEnd ← cleaned.reverse.findIdx? (· = codePoint ']')
    some ((cleaned.take (cleaned.length - fromEnd)).drop start)
  else some cleaned

def keptItems : List Value → Except Fault (List Items)
  | [] => .ok []
  | .dict item :: rest =>
      (keptItems rest).map fun later =>
        if truthy (getOr item "keep" (.bool true)) then item :: later else later
  | _ :: _ => .error .attribute

/-- The contents of the summary; `content[:200]` of a list is a list. -/
def summaryContents (host : Host) : List Items → Except Fault (List Str)
  | [] => .ok []
  | item :: rest =>
      match getOr item "content" (.str []) with
      | .str content =>
          (summaryContents host rest).map fun later =>
            if content = [] then later else content :: later
      | .list content =>
          (summaryContents host rest).map fun later =>
            if content = [] then later else host.listText content :: later
      | content => if truthy content then .error .type else summaryContents host rest

def summaryText (contents : List Str) : Str :=
  if contents = [] then []
  else str "Cashew insight extraction:\n" ++
    (str "\n").intercalate (contents.map fun content => str "- " ++ content.take 200)

def summarise (contents : List Str) : Code Str :=
  fun state => (.ok (summaryText contents), { state with summaries := contents })

def persistItems (host : Host) (items : List Value) : Code Str := do
  let kept ← ask (keptItems items)
  if kept = [] then pure []
  else
    let created ← createInsightNodes host kept
    if created = 0 then pure []
    else
      let contents ← ask (summaryContents host (kept.take 3))
      summarise contents

def readAnswer (host : Host) (answer : Answer) : Code Str :=
  match answer with
  | .raises => ask (.error .model)
  | .falsy => pure []
  | .object => ask (.error .attribute)
  | .text response =>
      if strip response = [] then pure []
      else
        match unfence (strip response) with
        | none => pure []
        | some cleaned =>
            match loadsText host.python cleaned with
            | .error failure => ask (.error (.json failure))
            | .ok (.list items) => persistItems host items
            | .ok _ => pure []

/-! ## `on_pre_compress` -/

structure Provider where
  writeEnabled : Bool
  embeddingIdentityReady : Bool
  modelFn : Bool
  dbPath : Bool
  initializing : Bool
  shutdownStarted : Bool
  /-- The domains of the user and of the assistant, when it is configured. -/
  config : Option (Str × Str)

def Provider.listens (provider : Provider) : Bool :=
  provider.writeEnabled && provider.embeddingIdentityReady && provider.modelFn &&
    provider.dbPath && !provider.initializing && !provider.shutdownStarted

def Provider.domains (provider : Provider) : Str × Str :=
  provider.config.getD (str "user", str "ai")

/-- `"\n\n".join(exchanges[-20:])`. -/
def messagesText (exchanges : List Str) : Str :=
  (str "\n\n").intercalate (exchanges.drop (exchanges.length - 20))

def onPreCompress (host : Host) (provider : Provider) (messages : List Value) : Code Str :=
  if provider.listens = false then pure []
  else do
    -- Outside the `try` block.
    let exchanges ← ask (extractExchanges messages)
    if exchanges.length < 6 then pure []
    else
      let (userDomain, aiDomain) := provider.domains
      Block.except (readAnswer host (host.model userDomain aiDomain (messagesText exchanges)))
        fun _ => pure []

/-! ## What the exchanges are -/

def partText : Value → Option Str
  | .dict part =>
      match getOr part "type" .none, getOr part "text" (.str []) with
      | .str kind, .str text => if kind = str "text" ∧ text ≠ [] then some text else none
      | _, _ => none
  | _ => none

def messageText (message : Items) : Option Str :=
  match getOr message "content" (.str []) with
  | .str content => some content
  | .list parts => some ((str " ").intercalate (parts.filterMap partText))
  | _ => none

/-- The exchange of a well-formed message of the user or of the assistant. -/
def wellFormedExchange : Value → Option Str
  | .dict message =>
      match speaker message, messageText message with
      | some role, some text => exchange role (.str text)
      | _, _ => none
  | _ => none

def Textual (part : Value) : Prop :=
  ∀ text, textPart part = some text → truthy text = true → ∃ string, text = .str string

/-- The walk passes the message. -/
def Walkable : Value → Prop
  | .dict message =>
      (speaker message).isSome = true →
        ∀ parts, getOr message "content" (.str []) = .list parts → ∀ part ∈ parts, Textual part
  | _ => False

section

variable {message : Items} {messages parts : List Value}

theorem join_parts_ok_iff {values : List Value} {texts : List Str} :
    joinParts values = .ok texts ↔ values = texts.map Value.str := by
  induction values generalizing texts with
  | nil =>
      constructor
      · intro joined
        cases joined
        rfl
      · intro same
        rw [List.map_eq_nil_iff.mp same.symm]
        rfl
  | cons value rest induction =>
      cases value with
      | str text =>
          rw [joinParts]
          constructor
          · intro joined
            cases later : joinParts rest with
            | error fault =>
                rw [later] at joined
                cases joined
            | ok found =>
                rw [later] at joined
                cases joined
                rw [induction.mp later, List.map_cons]
          · intro same
            cases texts with
            | nil => cases same
            | cons first others =>
                rw [List.map_cons] at same
                obtain ⟨head, tail⟩ := List.cons.inj same
                rw [induction.mpr tail, Value.str.inj head]
                rfl
      | _ =>
          constructor
          · intro joined
            cases joined
          · intro same
            cases texts with
            | nil => cases same
            | cons first others => cases (List.cons.inj same).1

/-- A textual part has the text that it spells out, or none. -/
theorem text_part_of_textual {part : Value} (textual : Textual part) :
    (textPart part).filter truthy = (partText part).map Value.str := by
  unfold Textual at textual
  unfold textPart at textual ⊢
  unfold partText
  cases part with
  | dict items =>
      dsimp only at textual ⊢
      cases named : getOr items "type" .none with
      | str kind =>
          simp only [named] at textual ⊢
          by_cases same : kind = str "text"
          · rw [if_pos same] at textual ⊢
            cases given : getOr items "text" (.str []) with
            | str text =>
                by_cases empty : text = []
                · simp [empty, truthy]
                · simp [same, empty, truthy]
            | _ =>
                rw [given] at textual
                rw [Option.filter_eq_none_iff.mpr, Option.map_none]
                intro value same kept
                obtain ⟨string, rfl⟩ := textual value same kept
                cases same
          · rw [if_neg same]
            cases getOr items "text" (.str []) <;> simp [same]
      | _ => rfl
  | _ => rfl

theorem parts_of_textual (textual : ∀ part ∈ parts, Textual part) :
    (parts.filterMap textPart).filter truthy = (parts.filterMap partText).map Value.str := by
  rw [List.filter_filterMap, List.map_filterMap]
  exact List.filterMap_congr fun part member => text_part_of_textual (textual part member)

/-- The parts join exactly when they are textual. -/
theorem parts_textual_iff :
    (∃ texts, joinParts ((parts.filterMap textPart).filter truthy) = .ok texts) ↔
      ∀ part ∈ parts, Textual part := by
  constructor
  · rintro ⟨texts, joined⟩ part member text found kept
    have same := join_parts_ok_iff.mp joined
    have inside : text ∈ texts.map Value.str := by
      rw [← same]
      exact List.mem_filter.mpr ⟨List.mem_filterMap.mpr ⟨part, member, found⟩, kept⟩
    obtain ⟨string, -, rfl⟩ := List.mem_map.mp inside
    exact ⟨string, rfl⟩
  · intro textual
    exact ⟨_, join_parts_ok_iff.mpr (parts_of_textual textual)⟩

/-- The content of a message, when its parts are textual, is its text. -/
theorem message_content_ok (role : Str)
    (textual : ∀ parts, getOr message "content" (.str []) = .list parts →
      ∀ part ∈ parts, Textual part) :
    ∃ content, messageContent message = .ok content ∧
      exchange role content = (messageText message).bind fun text =>
        exchange role (.str text) := by
  unfold messageContent messageText
  cases given : getOr message "content" (.str []) with
  | list parts =>
      have joined := join_parts_ok_iff.mpr (parts_of_textual (textual parts given))
      refine ⟨.str ((str " ").intercalate (parts.filterMap partText)), ?_, rfl⟩
      dsimp only
      rw [joined]
      rfl
  | _ => exact ⟨_, rfl, rfl⟩

theorem content_parts_textual {content : Value} (walked : messageContent message = .ok content)
    (given : getOr message "content" (.str []) = .list parts) :
    ∀ part ∈ parts, Textual part := by
  apply parts_textual_iff.mp
  unfold messageContent at walked
  rw [given] at walked
  dsimp only at walked
  cases joined : joinParts ((parts.filterMap textPart).filter truthy) with
  | ok texts => exact ⟨texts, rfl⟩
  | error fault =>
      rw [joined] at walked
      cases walked

theorem extract_exchanges_of_walkable (walkable : ∀ message ∈ messages, Walkable message) :
    extractExchanges messages = .ok (messages.filterMap wellFormedExchange) := by
  induction messages with
  | nil => rfl
  | cons first rest induction =>
      have later := induction fun message member => walkable message (List.mem_cons_of_mem _ member)
      have own := walkable first List.mem_cons_self
      cases first with
      | dict message =>
          rw [extractExchanges]
          cases spoken : speaker message with
          | none =>
              have skipped : wellFormedExchange (.dict message) = none := by
                rw [wellFormedExchange, spoken]
              rw [List.filterMap_cons_none skipped]
              exact later
          | some role =>
              have textual := own (by rw [spoken]; rfl)
              obtain ⟨content, walked, found⟩ := message_content_ok role textual
              have told : wellFormedExchange (.dict message) = exchange role content := by
                rw [wellFormedExchange, spoken, found]
                cases messageText message <;> rfl
              dsimp only
              rw [walked, later, List.filterMap_cons, told]
              change Except.ok ((exchange role content).toList ++ _) = _
              cases exchange role content <;> rfl
      | _ => cases own

theorem walkable_of_extract_exchanges {exchanges : List Str}
    (walked : extractExchanges messages = .ok exchanges) :
    ∀ message ∈ messages, Walkable message := by
  induction messages generalizing exchanges with
  | nil =>
      intro message member
      cases member
  | cons first rest induction =>
      cases first with
      | dict message =>
          rw [extractExchanges] at walked
          cases spoken : speaker message with
          | none =>
              rw [spoken] at walked
              refine List.forall_mem_cons.mpr ⟨?_, induction walked⟩
              intro some_
              rw [spoken] at some_
              cases some_
          | some role =>
              rw [spoken] at walked
              dsimp only at walked
              cases content : messageContent message with
              | error fault =>
                  rw [content] at walked
                  cases walked
              | ok value =>
                  cases later : extractExchanges rest with
                  | error fault =>
                      rw [content, later] at walked
                      cases walked
                  | ok others =>
                      refine List.forall_mem_cons.mpr ⟨?_, induction later⟩
                      intro _ parts given
                      exact content_parts_textual content given
      | _ => cases walked

/-! ## Whether it returns -/

theorem except_returns {Result : Type} (block : Code Result) (fallback : Result) (state : State) :
    ∃ result after, (block.except fun _ => pure fallback) state = (.ok result, after) := by
  unfold Block.except
  rcases block state with ⟨outcome, after⟩
  cases outcome with
  | ok result => exact ⟨result, after, rfl⟩
  | error fault => exact ⟨fallback, after, rfl⟩

/-- It returns a text, in every state of the graph. -/
def Returns (host : Host) (provider : Provider) (messages : List Value) : Prop :=
  ∀ state, ∃ text after, onPreCompress host provider messages state = (.ok text, after)

theorem returns_iff {host : Host} {provider : Provider} :
    Returns host provider messages ↔
      (provider.listens = true → ∃ exchanges, extractExchanges messages = .ok exchanges) := by
  unfold Returns onPreCompress
  cases listening : provider.listens with
  | false => exact ⟨fun _ => nofun, fun _ state => ⟨_, _, rfl⟩⟩
  | true =>
      rw [if_neg Bool.noConfusion]
      constructor
      · intro returns _
        obtain ⟨text, after, ran⟩ := returns { nodes := [] }
        obtain ⟨exchanges, middle, walked, -⟩ := Block.bind_inv ran
        exact ⟨exchanges, (Prod.mk.inj walked).1⟩
      · intro walks state
        obtain ⟨exchanges, walked⟩ := walks rfl
        rw [Block.bind_ok (show ask (extractExchanges messages) state = (.ok exchanges, state) by
          rw [walked]; rfl)]
        split
        · exact ⟨_, _, rfl⟩
        · exact except_returns _ _ _

/-- It returns, over the exchanges of the well-formed messages, exactly when it does not get
as far as the messages or every message can be walked. -/
theorem on_pre_compress_returns_iff (host : Host) (provider : Provider)
    (messages : List Value) :
    (Returns host provider messages ∧
      (provider.listens = true →
        extractExchanges messages = .ok (messages.filterMap wellFormedExchange))) ↔
    (provider.listens = true → ∀ message ∈ messages, Walkable message) := by
  rw [returns_iff]
  constructor
  · rintro ⟨walks, -⟩ listening
    obtain ⟨exchanges, walked⟩ := walks listening
    exact walkable_of_extract_exchanges walked
  · intro walkable
    have walked listening := extract_exchanges_of_walkable (walkable listening)
    exact ⟨fun listening => ⟨_, walked listening⟩, walked⟩

/-! ## A message that is not walked -/

def readyProvider : Provider where
  writeEnabled := true
  embeddingIdentityReady := true
  modelFn := true
  dbPath := true
  initializing := false
  shutdownStarted := false
  config := none

def numberedMessage : Value :=
  .dict [(str "role", .str (str "user")),
    (str "content", .list [.dict [(str "type", .str (str "text")), (str "text", .int 5)]])]

def workingHost (response : Str) : Host where
  python := { nesting := 100, decimal := fun _ => none, loadsSurrogates := fun _ => .error .decode }
  model := fun _ _ _ => .text response
  nodeId := fun content => if content = str "first" then "a7937b64b8ca" else "16367aacb67a"
  admission := none
  runtimeIdentity := none
  release := none
  stillReady := true
  createFails := fun _ => false
  tagsFail := fun _ => false
  embedFails := false
  listText := fun _ => []

/-- The walk raises on a message that is no object, and on a text that is a number. -/
theorem malformed_messages_raise :
    ¬ Returns (workingHost (str "[]")) readyProvider [.str (str "hello")] ∧
      ¬ Returns (workingHost (str "[]")) readyProvider [numberedMessage] := by
  constructor
  · intro returns
    obtain ⟨_, _, ran⟩ := returns { nodes := [] }
    cases ran
  · intro returns
    obtain ⟨_, _, ran⟩ := returns { nodes := [] }
    cases ran

end

end HermesCashew.PreCompress
