import HermesCashew.PythonInt
import HermesCashew.SqlLike
import HermesCashew.ToolCall
import HermesCashew.WarmCache
import Mathlib.Algebra.GroupWithZero.Nat

/-!
# Recall from the thought graph

How `prefetch`, its worker and `cashew_query` get their nodes: the ids of the upstream
retrieval are read again from `thought_nodes`, and the keyword search is one statement
whose placeholders are bound by position. The order of rows that a statement does not
order is a parameter.
-/

namespace HermesCashew.Recall

open HermesCashew.JsonDocument (Value)
open HermesCashew.JsonText (Str CodePoint str codePoint)
open HermesCashew.SqlLike
open HermesCashew.PrefetchWorker (PrefetchCall Profile Text World)
open HermesCashew.Lifecycle (Generation)

set_option autoImplicit false

/-! ## Rows -/

/-- A row of `thought_nodes`. -/
structure Node where
  id : String
  content : Str
  nodeType : Option Str
  domain : Option Str
  permanent : Option Int
  tags : Option Str
  decayed : Option Int
  referentTime : Option Str
  timestamp : Option Str
  deriving DecidableEq

/-- The table, with its primary key. -/
structure Graph where
  rows : List Node
  distinct : (rows.map Node.id).Nodup

/-- In which order the rows of a result come. -/
structure RowOrder where
  arrange : List Node → List Node
  perm : ∀ rows, (arrange rows).Perm rows

/-- `_enrich_results`. -/
def enrichResults (order : RowOrder) (graph : Graph) (nodeIds : List String) : List Node :=
  if nodeIds = [] then [] else order.arrange (graph.rows.filter fun node => node.id ∈ nodeIds)

/-! ## The context -/

/-- `if value` of an optional text. -/
def given (value : Option Str) : Option Str :=
  value.filter (· ≠ [])

def labels (node : Node) : List Str :=
  ((given node.domain).map fun domain => str "domain: " ++ domain).toList ++
    ((given node.nodeType).map fun nodeType => str "type: " ++ nodeType).toList ++
    if node.permanent = some 1 then [str "permanent"] else []

def contextLine (node : Node) : Str :=
  if labels node = [] then node.content
  else str "[" ++ (str " | ").intercalate (labels node) ++ str "] " ++ node.content

/-- `_format_context`. -/
def formatContext (nodes : List Node) : Str :=
  if nodes = [] then []
  else (str "\n").intercalate (str "=== RELEVANT CONTEXT ===" :: nodes.map contextLine)

/-! ## The keyword search -/

structure Asked where
  query : Str
  maxNodes : Int
  domain : Option Str
  tag : Option Str
  excludeTags : List Str

/-- SQLite compares ASCII letters without their case. -/
def foldCase (point : CodePoint) : CodePoint :=
  if 0x41 ≤ point.val ∧ point.val ≤ 0x5a then Fin.ofNat 0x110000 (point.val + 0x20) else point

def wildcards : Alphabet CodePoint where
  sequence := codePoint '%'
  single := codePoint '_'
  fold := foldCase

/-- A condition of the `WHERE` clause. -/
inductive Clause where
  /-- `(decayed IS NULL OR decayed = 0)` -/
  | notDecayed
  /-- `content LIKE ?` for every word. -/
  | contentLike (words : Nat)
  | domainIs
  | tagsLike
  /-- `(tags IS NULL OR tags NOT LIKE ?)` -/
  | tagsNotLike

def Clause.placeholders : Clause → Nat
  | notDecayed => 0
  | contentLike words => words
  | _ => 1

/-- Whether a row meets a condition; a comparison with `NULL` is not true. -/
def Clause.holds (node : Node) : Clause → List Str → Bool
  | notDecayed, _ => node.decayed = none || node.decayed = some 0
  | contentLike _, patterns => patterns.all fun pattern => like wildcards pattern node.content
  | domainIs, [domain] => node.domain = some domain
  | tagsLike, [pattern] => node.tags.any fun tags => like wildcards pattern tags
  | tagsNotLike, [pattern] => node.tags.all fun tags => !like wildcards pattern tags
  | _, _ => false

def placeholders (clauses : List Clause) : Nat :=
  (clauses.map Clause.placeholders).sum

/-- The conditions, each with the next values for its placeholders. -/
def holdsAll (node : Node) : List Clause → List Str → Bool
  | [], _ => true
  | clause :: rest, values =>
      clause.holds node (values.take clause.placeholders) &&
        holdsAll node rest (values.drop clause.placeholders)

/-- A `WHERE` clause with one value for every placeholder. -/
structure Statement where
  clauses : List Clause
  params : List Str
  bound : params.length = placeholders clauses

def Statement.add (statement : Statement) (clause : Clause) (params : List Str)
    (bound : params.length = clause.placeholders) : Statement where
  clauses := statement.clauses ++ [clause]
  params := statement.params ++ params
  bound := by simp [placeholders, statement.bound, bound]

/-- `[w for w in query.split() if w]`. -/
def words (query : Str) : List Str :=
  (query.splitOnP fun point => PythonInt.isSpace (Char.ofNat point.val)).filter (· ≠ [])

def Statement.exclude (statement : Statement) (tag : Str) : Statement :=
  if tag = [] then statement else statement.add .tagsNotLike [surround wildcards tag] rfl

def keywordStatement (asked : Asked) : Statement :=
  let start : Statement := ⟨[.notDecayed], [], rfl⟩
  let worded :=
    if words asked.query = [] then start
    else
      start.add (.contentLike (words asked.query).length)
        ((words asked.query).map (surround wildcards)) (by simp [Clause.placeholders])
  let placed :=
    match given asked.domain with
    | some domain => worded.add .domainIs [domain] rfl
    | none => worded
  let tagged :=
    match given asked.tag with
    | some tag => placed.add .tagsLike [surround wildcards tag] rfl
    | none => placed
  asked.excludeTags.foldl Statement.exclude tagged

def orderParams (asked : Asked) : List Str :=
  if words asked.query = [] then [] else [surround wildcards asked.query]

/-- `DESC`, where `NULL` comes last. -/
def descending (first second : Option Str) : Ordering :=
  match first, second with
  | none, none => .eq
  | none, some _ => .gt
  | some _, none => .lt
  | some first, some second => compare second first

/-- Whether a row may come before another one in the `ORDER BY`. -/
def precedes (pattern : Option Str) (first second : Node) : Bool :=
  let phrase (node : Node) : Bool := pattern.any fun pattern => like wildcards pattern node.content
  let rank := (compare (phrase second).toNat (phrase first).toNat).then
    ((descending first.referentTime second.referentTime).then
      (descending first.timestamp second.timestamp))
  rank ≠ .gt

/-- `LIMIT ?`; a negative limit is none. -/
def limit (count : Int) (rows : List Node) : List Node :=
  if count < 0 then rows else rows.take count.toNat

/-- `_keyword_search`. -/
def keywordSearch (order : RowOrder) (graph : Graph) (asked : Asked) : List Node :=
  let statement := keywordStatement asked
  let values := statement.params ++ orderParams asked
  let matched := graph.rows.filter fun node => holdsAll node statement.clauses values
  let pattern := (values.drop (placeholders statement.clauses)).head?
  limit asked.maxNodes ((order.arrange matched).mergeSort (precedes pattern))

/-! ## The routes -/

/-- What a recall meets: the admission and the validation of its identity, the upstream
retrieval, which answers with ids or raises, and whether the database opens. -/
structure Layers where
  admits : Bool
  releases : Bool
  retrieve : Asked → Option (List String)
  validatesBefore : Bool
  validatesAfter : Bool
  opens : Bool

section

variable (layers : Layers) (order : RowOrder) (graph : Graph)

def Layers.enriched (nodeIds : List String) : Option (List Node) :=
  if layers.opens then some (enrichResults order graph nodeIds) else none

def Layers.searched (asked : Asked) : Option (List Node) :=
  if layers.opens then some (keywordSearch order graph asked) else none

/-- The block that `prefetch` admits. -/
def admittedNodes (asked : Asked) : Option (List Node) :=
  match layers.retrieve asked with
  | some (nodeId :: nodeIds) => do
      guard (layers.validatesBefore = true)
      let nodes ← layers.enriched order graph (nodeId :: nodeIds)
      guard (layers.validatesAfter = true)
      pure nodes
  | _ => do
      let nodes ← layers.searched order graph asked
      guard (nodes ≠ [] ∧ layers.validatesAfter = true)
      pure nodes

/-- The nodes of `prefetch` behind its warm path, or `none` when it returns `""`. -/
def coldNodes (identityReady : Bool) (asked : Asked) : Option (List Node) :=
  if identityReady = false then layers.searched order graph asked
  else do
    guard (layers.admits = true)
    let nodes ← admittedNodes layers order graph asked
    guard (layers.releases = true)
    pure nodes

/-- `_prefetch_nodes_for_cue`, where nothing catches what the retrieval raises. -/
def cueNodes (identityReady : Bool) (asked : Asked) : Option (List Node) :=
  if identityReady = false then layers.searched order graph asked
  else do
    guard (layers.admits = true)
    match ← layers.retrieve asked with
    | nodeId :: nodeIds => do
        guard (layers.validatesBefore = true)
        let nodes ← layers.enriched order graph (nodeId :: nodeIds)
        guard (layers.validatesAfter = true ∧ layers.releases = true)
        pure nodes
    | [] => do
        guard (layers.releases = true)
        layers.searched order graph asked

end

/-- What `prefetch` asks for when its cache is cold. -/
def askedOf (recallK : Nat) (call : PrefetchCall) : Asked where
  query := str call.query
  maxNodes := recallK
  domain := call.domain.map str
  tag := call.tag.map str
  excludeTags := (call.excludeTags.getD []).map str

/-- The nodes that `prefetch` formats, warm or cold. -/
def prefetchNodes (profiles : Generation → Profile) (text : Text) (layers : Layers)
    (order : RowOrder) (graph : Graph) (world : World Node) (call : PrefetchCall) :
    Option (List Node) :=
  match (PrefetchWorker.prefetch profiles text world call).2 with
  | some nodes => some nodes
  | none => do
      let config ← world.provider.config
      guard (PrefetchWorker.admits world.provider = true)
      coldNodes layers order graph world.provider.embeddingIdentityReady
        (askedOf (profiles config).recallK call)

/-! ## The tool -/

def countOf : Value → Option Int
  | .int value => some value
  | .bool flag => some (if flag then 1 else 0)
  | _ => none

def textOf : Value → Option Str
  | .str value => some value
  | _ => none

def optionalTextOf : Value → Option (Option Str)
  | .none => some none
  | value => (textOf value).map some

def textsOf : Value → Option (List Str)
  | .none => some []
  | .list items => items.mapM textOf
  | _ => none

/-- The arguments of `cashew_query` that have the types of its schema. -/
def askedOfRequest (request : ToolCall.Request) : Option Asked := do
  let query ← textOf request.query
  let maxNodes ← countOf request.maxNodes
  let domain ← optionalTextOf request.domain
  let tag ← optionalTextOf request.tag
  let excludeTags ← textsOf request.excludeTags
  pure ⟨query, maxNodes, domain, tag, excludeTags⟩

/-- The layers of a tool call over the graph; the others, and what becomes of arguments of
other types, are as `layers` has them. -/
def queryLayers (layers : ToolCall.Layers String Node) (opens : Bool) (order : RowOrder)
    (graph : Graph) : ToolCall.Layers String Node :=
  { layers with
    enrichResults := fun nodeIds => if opens then some (enrichResults order graph nodeIds) else none
    keywordSearch := fun request =>
      match askedOfRequest request with
      | some asked => if opens then some (keywordSearch order graph asked) else none
      | none => layers.keywordSearch request
    nodeId := Node.id
    formatContext := fun nodes => some (formatContext nodes) }

/-! ## What the routes return -/

section

variable {layers : Layers} {order : RowOrder} {graph : Graph} {nodeIds : List String} {node : Node}

theorem enrich_perm (some_id : nodeIds ≠ []) :
    (enrichResults order graph nodeIds).Perm (graph.rows.filter fun node => node.id ∈ nodeIds) := by
  rw [enrichResults, if_neg some_id]
  exact order.perm _

theorem mem_enriched (member : node ∈ enrichResults order graph nodeIds) :
    node ∈ graph.rows ∧ node.id ∈ nodeIds := by
  by_cases empty : nodeIds = []
  · rw [enrichResults, if_pos empty] at member
    cases member
  · have found := List.mem_filter.mp ((enrich_perm empty).mem_iff.mp member)
    exact ⟨found.1, of_decide_eq_true found.2⟩

theorem enriched_distinct : ((enrichResults order graph nodeIds).map Node.id).Nodup := by
  by_cases empty : nodeIds = []
  · rw [enrichResults, if_pos empty]
    exact List.nodup_nil
  · apply ((enrich_perm empty).map Node.id).nodup_iff.mpr
    exact graph.distinct.sublist (List.filter_sublist.map Node.id)

theorem searched_ok {asked : Asked} {nodes : List Node}
    (searched : layers.searched order graph asked = some nodes) :
    nodes = keywordSearch order graph asked :=
  (Option.some.inj (Option.ite_none_right_eq_some.mp searched).2).symm

theorem enriched_ok {nodes : List Node}
    (enriched : layers.enriched order graph nodeIds = some nodes) :
    nodes = enrichResults order graph nodeIds :=
  (Option.some.inj (Option.ite_none_right_eq_some.mp enriched).2).symm

theorem admitted_nodes_cases {asked : Asked} {nodes : List Node}
    (recalled : admittedNodes layers order graph asked = some nodes) :
    (∃ nodeId rest, layers.retrieve asked = some (nodeId :: rest) ∧
        nodes = enrichResults order graph (nodeId :: rest)) ∨
      (∀ nodeId rest, layers.retrieve asked ≠ some (nodeId :: rest)) ∧
        nodes = keywordSearch order graph asked := by
  unfold admittedNodes at recalled
  split at recalled
  · rename_i nodeId rest retrieved
    simp only [Option.bind_eq_bind, Option.bind_eq_some_iff] at recalled
    obtain ⟨_, -, rows, enriched, _, -, same⟩ := recalled
    obtain rfl := Option.some.inj same
    exact .inl ⟨nodeId, rest, retrieved, enriched_ok enriched⟩
  · rename_i empty
    simp only [Option.bind_eq_bind, Option.bind_eq_some_iff] at recalled
    obtain ⟨rows, searched, _, -, same⟩ := recalled
    obtain rfl := Option.some.inj same
    exact .inr ⟨empty, searched_ok searched⟩

/-- The nodes are those of the retrieval, or those of the keyword search. -/
theorem cold_nodes_cases {identityReady : Bool} {asked : Asked} {nodes : List Node}
    (recalled : coldNodes layers order graph identityReady asked = some nodes) :
    (∃ nodeId rest, layers.retrieve asked = some (nodeId :: rest) ∧
        nodes = enrichResults order graph (nodeId :: rest)) ∨
      (identityReady = true → ∀ nodeId rest, layers.retrieve asked ≠ some (nodeId :: rest)) ∧
        nodes = keywordSearch order graph asked := by
  unfold coldNodes at recalled
  split at recalled
  · rename_i unresolved
    refine .inr ⟨?_, searched_ok recalled⟩
    intro ready
    rw [ready] at unresolved
    cases unresolved
  · simp only [Option.bind_eq_bind, Option.bind_eq_some_iff] at recalled
    obtain ⟨_, -, found, inner, _, -, same⟩ := recalled
    obtain rfl := Option.some.inj same
    rcases admitted_nodes_cases inner with retrieved | ⟨empty, searched⟩
    · exact .inl retrieved
    · exact .inr ⟨fun _ => empty, searched⟩

/-- The nodes of a query that the tool answers. -/
theorem query_nodes_cases {tools : ToolCall.Layers String Node} {identityReady : Bool}
    {request : ToolCall.Request} {log after : List ToolCall.Failure} {nodes : List Node}
    (ran : ToolCall.queryNodes tools identityReady request log = (.ok nodes, after)) :
    (∃ nodeId rest, tools.retrieve request request.tags = some (nodeId :: rest) ∧
        tools.enrichResults (nodeId :: rest) = some nodes) ∨
      (identityReady = true → ∀ nodeId rest,
          tools.retrieve request request.tags ≠ some (nodeId :: rest)) ∧
        tools.keywordSearch request = some nodes := by
  unfold ToolCall.queryNodes at ran
  split at ran
  · obtain ⟨-, ran, -⟩ := ToolCall.admission_ok ran
    obtain ⟨results, middle, vector, ran⟩ := Raising.Block.bind_inv ran
    obtain ⟨found, middle', searched, ran⟩ := Raising.Block.bind_inv ran
    obtain ⟨_, _, _, ran⟩ := Raising.Block.bind_inv ran
    cases ran
    unfold ToolCall.vectorResults Raising.Block.except at vector
    unfold ToolCall.foundNodes at searched
    cases answer : tools.retrieve request request.tags with
    | none =>
        rw [answer] at vector
        cases vector
        exact .inr ⟨fun _ _ _ => nofun, (ToolCall.ask_ok searched).1⟩
    | some nodeIds =>
        rw [answer] at vector
        cases vector
        cases results with
        | nil => exact .inr ⟨fun _ _ _ => nofun, (ToolCall.ask_ok searched).1⟩
        | cons nodeId rest => exact .inl ⟨nodeId, rest, rfl, (ToolCall.ask_ok searched).1⟩
  · rename_i unresolved
    exact .inr ⟨fun ready => absurd ready unresolved, (ToolCall.ask_ok ran).1⟩

end

end HermesCashew.Recall
