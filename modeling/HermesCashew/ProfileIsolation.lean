import HermesCashew.LifecycleLocation

/-!
# Operations in flight across generations

`prefetch`, the two tools and the turns of the sync worker run beside the
lifecycle of their provider. A step of an operation is one statement that reads a
field of the provider or one locked block; `prefetch` keeps the `_db_path` of its
guard, the others read the field again where they use it. What a graph answers and
which other checks fail is up to the environment. `database` gives the canonical
`_db_path` of every generation.
-/

namespace HermesCashew.ProfileIsolation

open HermesCashew.Lifecycle
open HermesCashew.Transition

set_option autoImplicit false

abbrev Path := String

/-- A row of `thought_nodes`, with the graph it was read from. -/
structure Node where
  graph : Path
  id : String
  deriving DecidableEq, Repr

structure Token where
  graphPath : Option Path
  supervisor : Option Generation
  deriving DecidableEq, Repr

/-- `prefetch` carries its snapshot of `_db_path`. `think` is the second half of a
turn. -/
inductive Operation where
  | query
  | extract
  | prefetch (dbPath : Path)
  | turn
  | think
  deriving DecidableEq, Repr

/-- What is returned: an error envelope, a context (empty for `""`), or the success
envelope of `cashew_extract`. -/
inductive Result where
  | error
  | context (nodes : List Node)
  | stored
  deriving DecidableEq, Repr

inductive Point where
  /-- `ledger = self._outcomes` under the lock. -/
  | snapshotting
  /-- `self._config.recall_k`. -/
  | configuring (identityReady : Bool)
  /-- The first test of `_operation_admission`, and the arguments of `admit_operation`. -/
  | entering
  | requesting
  | validating (token : Token)
  | retrieving (token : Token)
  /-- The second validation of `prefetch`. -/
  | checking (token : Token) (ids : List String)
  | enriching (token : Token) (ids : List String)
  /-- `_keyword_search`, without a token when the identity is not ready. -/
  | searching (token : Option Token)
  /-- `_update_access_metrics`: its tests, its target, its nested admission. -/
  | measuring (token : Token) (nodes : List Node)
  | targeting (token : Token) (nodes : List Node)
  | updating (token : Token) (nodes : List Node) (target : Path)
  /-- The last validation of `prefetch`. -/
  | confirming (token : Token) (nodes : List Node)
  /-- The validation before a write. -/
  | reaffirming (token : Token)
  /-- A write to `str(self._db_path)`, with the number of such writes behind it. -/
  | storing (remaining : Nat)
  | thinking
  | recording (result : Result)
  | returning (result : Result)
  | returned (result : Result) (outlived : Bool)
  | finished
  deriving DecidableEq, Repr

/-- `generation` is the one in which the call passed its guard or the turn was
admitted. -/
structure Call where
  operation : Operation
  generation : Generation
  point : Point
  deriving DecidableEq, Repr

/-- A `_PrefetchRequestIdentity`: `stamp` is everything but the path. -/
structure Identity where
  dbPath : Path
  stamp : Nat
  deriving DecidableEq, Repr

/-- A `_PrefetchResult`, or the request with what it has gathered. -/
structure Warmup where
  identity : Identity
  nodes : List Node
  deriving DecidableEq, Repr

structure Write where
  operation : Operation
  generation : Generation
  graph : Path
  deriving DecidableEq, Repr

structure World where
  provider : State := fresh
  writeEnabled : Bool := false
  /-- The calls that passed their guard and the turns taken from a queue. -/
  calls : List Call := []
  /-- The turns in the queue of a generation. -/
  queued : Generation → Nat := fun _ => 0
  pendingRequest : Option Identity := none
  activeRequest : Option Warmup := none
  prefetchPending : Option Warmup := none
  writes : List Write := []

def emptyWorld : World := {}

/-! ## Helpers of the provider -/

section Provider

variable (database : Generation → Path)

def dbPath (provider : State) : Option Path := provider.dbPath.map database

/-- `str(self._db_path)`. -/
def strDbPath (provider : State) : Path := (dbPath database provider).getD "None"

/-- The optional argument `db_path` of an operation. -/
def Operation.argument : Operation → Option Path
  | .prefetch path => some path
  | _ => none

/-- `db_path if db_path is not None else self._db_path`. -/
def targetDb (provider : State) (operation : Operation) : Option Path :=
  operation.argument.or (dbPath database provider)

/-- `_validate_runtime_identity`, up to the model, the dimensions and the epoch. -/
def validates (provider : State) (token : Token) : Bool :=
  provider.config.isSome && provider.dbPath.isSome &&
    decide (token.graphPath = dbPath database provider) &&
    (provider.embeddingSupervisor.isNone ||
      decide (token.supervisor = provider.embeddingSupervisor))

/-- `_operation_admission` inside an admitted operation, likewise. -/
def readmits (provider : State) (token : Token) : Bool :=
  provider.config.isSome && provider.dbPath.isSome &&
    decide (token.graphPath = dbPath database provider) &&
    decide (token.supervisor = provider.embeddingSupervisor)

/-- The rows that a graph answers with. -/
def rows (target : Option Path) (answer : List String) : List Node :=
  match target with
  | none => []
  | some path => answer.map (Node.mk path)

end Provider

/-! ## One operation -/

def Operation.fails : Operation → Point
  | .query | .extract => .recording .error
  | .prefetch _ => .returning (.context [])
  | .turn | .think => .finished

def Operation.answers (nodes : List Node) : Operation → Point
  | .prefetch _ => .returning (.context nodes)
  | _ => .recording (.context nodes)

/-- Behind `_update_access_metrics`. -/
def Operation.measured (token : Token) (nodes : List Node) : Operation → Point
  | .prefetch _ => .confirming token nodes
  | _ => .recording (.context nodes)

/-- Behind the validation in `_operation_admission`. -/
def Operation.admitted (token : Token) : Operation → Point
  | .query | .prefetch _ => .retrieving token
  | _ => .reaffirming token

def Operation.further : Operation → Nat
  | .think => 2
  | _ => 0

/-- The next statement of an operation, and the graph that it writes to. `raises`
is a failure of this statement, `answer` what a graph returns. -/
def Call.next (database : Generation → Path) (world : World) (call : Call) (raises : Bool)
    (answer : List String) : Option (Call × Option Path) :=
  let provider := world.provider
  let operation := call.operation
  let failed : Call := { call with point := operation.fails }
  match call.point with
  | .snapshotting =>
      if operation = .query then
        some ({ call with point := .configuring provider.embeddingIdentityReady }, none)
      else some ({ call with point := .entering }, none)
  | .configuring identityReady =>
      if raises || provider.config.isNone then some (failed, none)
      else if identityReady then some ({ call with point := .entering }, none)
      else some ({ call with point := .searching none }, none)
  | .entering =>
      if raises || provider.dbPath.isNone || provider.config.isNone then some (failed, none)
      else some ({ call with point := .requesting }, none)
  | .requesting =>
      if raises || provider.config.isNone then some (failed, none)
      else
        some ({ call with
          point := .validating
            { graphPath := dbPath database provider
              supervisor := provider.embeddingSupervisor } }, none)
  | .validating token =>
      if raises || !validates database provider token then some (failed, none)
      else some ({ call with point := operation.admitted token }, none)
  | .retrieving token =>
      if raises || answer.isEmpty then
        some ({ call with point := .searching (some token) }, none)
      else if operation = .query then
        some ({ call with point := .enriching token answer }, none)
      else some ({ call with point := .checking token answer }, none)
  | .checking token ids =>
      if raises || !validates database provider token then some (failed, none)
      else some ({ call with point := .enriching token ids }, none)
  | .enriching token ids =>
      let nodes := rows (targetDb database provider operation) (answer.filter ids.contains)
      if raises then some (failed, none)
      else if operation = .query ∧ nodes = [] then
        some ({ call with point := operation.answers [] }, none)
      else some ({ call with point := .measuring token nodes }, none)
  | .searching token =>
      let nodes := rows (targetDb database provider operation) answer
      if raises then some (failed, none)
      else
        match token with
        | none => some ({ call with point := operation.answers nodes }, none)
        | some token =>
            if nodes = [] then some ({ call with point := operation.answers [] }, none)
            else some ({ call with point := .measuring token nodes }, none)
  | .measuring token nodes =>
      if world.writeEnabled && provider.embeddingIdentityReady then
        some ({ call with point := .targeting token nodes }, none)
      else some ({ call with point := operation.measured token nodes }, none)
  | .targeting token nodes =>
      match targetDb database provider operation with
      | none => some ({ call with point := operation.measured token nodes }, none)
      | some target => some ({ call with point := .updating token nodes target }, none)
  | .updating token nodes target =>
      if raises || !readmits database provider token then
        some ({ call with point := operation.measured token nodes }, none)
      else some ({ call with point := operation.measured token nodes }, some target)
  | .confirming token nodes =>
      if raises || !validates database provider token then some (failed, none)
      else some ({ call with point := .returning (.context nodes) }, none)
  | .reaffirming token =>
      if raises || !validates database provider token then some (failed, none)
      else some ({ call with point := .storing operation.further }, none)
  | .storing remaining =>
      let target := strDbPath database provider
      if raises then some (failed, some target)
      else
        match remaining, operation with
        | further + 1, _ => some ({ call with point := .storing further }, some target)
        | 0, .extract => some ({ call with point := .recording .stored }, some target)
        | 0, .turn => some ({ call with point := .thinking }, some target)
        | 0, _ => some ({ call with point := .finished }, some target)
  | .thinking =>
      if raises || !provider.embeddingIdentityReady || provider.config.isNone ||
          provider.dbPath.isNone then
        some ({ call with point := .finished }, none)
      else some ({ call with operation := .think, point := .entering }, none)
  | .recording result => some ({ call with point := .returning result }, none)
  | .returning result =>
      some ({ call with
        point := .returned result (decide (provider.dbPath ≠ some call.generation)) }, none)
  | .returned _ _ | .finished => none

section Statements

variable {database : Generation → Path} {world : World} {call : Call}

inductive Advances (database : Generation → Path) (world : World) (call : Call) :
    Call → Option Path → Prop where
  | fails : Advances database world call { call with point := call.operation.fails } none
  | begins (start : call.point = .snapshotting) (query : call.operation = .query)
      (identityReady : Bool) :
      Advances database world call { call with point := .configuring identityReady } none
  | beginsExtract (start : call.point = .snapshotting) (other : call.operation ≠ .query) :
      Advances database world call { call with point := .entering } none
  | configures (start : call.point = .configuring true) :
      Advances database world call { call with point := .entering } none
  | degrades (start : call.point = .configuring false) :
      Advances database world call { call with point := .searching none } none
  | enters (start : call.point = .entering) :
      Advances database world call { call with point := .requesting } none
  | requests (start : call.point = .requesting) :
      Advances database world call { call with
        point := .validating
          { graphPath := dbPath database world.provider
            supervisor := world.provider.embeddingSupervisor } } none
  | validated (token : Token) (start : call.point = .validating token)
      (valid : validates database world.provider token = true) :
      Advances database world call { call with point := call.operation.admitted token } none
  | misses (token : Token) (start : call.point = .retrieving token) :
      Advances database world call { call with point := .searching (some token) } none
  | retrieves (token : Token) (ids : List String) (start : call.point = .retrieving token)
      (query : call.operation = .query) :
      Advances database world call { call with point := .enriching token ids } none
  | prefetches (token : Token) (ids : List String) (start : call.point = .retrieving token)
      (other : call.operation ≠ .query) :
      Advances database world call { call with point := .checking token ids } none
  | checked (token : Token) (ids : List String) (start : call.point = .checking token ids) :
      Advances database world call { call with point := .enriching token ids } none
  | answers (nodes : List Node) (start : call.point = .searching none)
      (answer : List String)
      (read : nodes = rows (targetDb database world.provider call.operation) answer) :
      Advances database world call { call with point := call.operation.answers nodes } none
  | answersNothing (token : Token) (ids : List String)
      (start : call.point = .enriching token ids ∨ call.point = .searching (some token)) :
      Advances database world call { call with point := call.operation.answers [] } none
  | finds (token : Token) (ids answer : List String) (nodes : List Node)
      (start : call.point = .enriching token ids ∨ call.point = .searching (some token))
      (read : nodes = rows (targetDb database world.provider call.operation) answer)
      (found : call.operation = .query → nodes ≠ []) :
      Advances database world call { call with point := .measuring token nodes } none
  | measures (token : Token) (nodes : List Node) (start : call.point = .measuring token nodes) :
      Advances database world call { call with point := .targeting token nodes } none
  | targets (token : Token) (nodes : List Node) (target : Path)
      (start : call.point = .targeting token nodes)
      (read : targetDb database world.provider call.operation = some target) :
      Advances database world call { call with point := .updating token nodes target } none
  | skips (token : Token) (nodes : List Node) (target : Path)
      (start : call.point = .measuring token nodes ∨ call.point = .targeting token nodes ∨
        call.point = .updating token nodes target) :
      Advances database world call
        { call with point := call.operation.measured token nodes } none
  | updates (token : Token) (nodes : List Node) (target : Path)
      (start : call.point = .updating token nodes target) :
      Advances database world call
        { call with point := call.operation.measured token nodes } (some target)
  | confirmed (token : Token) (nodes : List Node) (start : call.point = .confirming token nodes)
      (valid : validates database world.provider token = true) :
      Advances database world call { call with point := .returning (.context nodes) } none
  | reaffirmed (token : Token) (start : call.point = .reaffirming token)
      (valid : validates database world.provider token = true) :
      Advances database world call
        { call with point := .storing call.operation.further } none
  | stores (remaining : Nat) (point : Point) (start : call.point = .storing remaining)
      (next : point = call.operation.fails ∨ (∃ further, point = .storing further) ∨
        call.operation = .extract ∧ point = .recording .stored ∨
        call.operation = .turn ∧ point = .thinking ∨
        call.operation ≠ .extract ∧ point = .finished) :
      Advances database world call { call with point := point }
        (some (strDbPath database world.provider))
  | rests (start : call.point = .thinking) :
      Advances database world call { call with point := .finished } none
  | thinks (start : call.point = .thinking) :
      Advances database world call { call with operation := .think, point := .entering } none
  | records (result : Result) (start : call.point = .recording result) :
      Advances database world call { call with point := .returning result } none
  | returns (result : Result) (start : call.point = .returning result) :
      Advances database world call { call with
        point := .returned result
          (decide (world.provider.dbPath ≠ some call.generation)) } none

theorem next_advances {raises : Bool} {answer : List String} {following : Call}
    {written : Option Path}
    (taken : call.next database world raises answer = some (following, written)) :
    Advances database world call following written := by
  unfold Call.next at taken
  dsimp only at taken
  split at taken
  · rename_i start
    split at taken <;> obtain ⟨rfl, rfl⟩ := Prod.mk.inj (Option.some.inj taken)
    · rename_i query
      exact .begins start query _
    · rename_i other
      exact .beginsExtract start other
  · rename_i identityReady start
    split at taken
    · obtain ⟨rfl, rfl⟩ := Prod.mk.inj (Option.some.inj taken)
      exact .fails
    · cases identityReady <;> obtain ⟨rfl, rfl⟩ := Prod.mk.inj (Option.some.inj taken)
      · exact .degrades start
      · exact .configures start
  · rename_i start
    split at taken <;> obtain ⟨rfl, rfl⟩ := Prod.mk.inj (Option.some.inj taken)
    · exact .fails
    · exact .enters start
  · rename_i start
    split at taken <;> obtain ⟨rfl, rfl⟩ := Prod.mk.inj (Option.some.inj taken)
    · exact .fails
    · exact .requests start
  · rename_i token start
    split at taken <;> obtain ⟨rfl, rfl⟩ := Prod.mk.inj (Option.some.inj taken)
    · exact .fails
    · rename_i valid
      simp only [Bool.or_eq_true, Bool.not_eq_true', not_or, Bool.not_eq_false] at valid
      exact .validated token start valid.2
  · rename_i token start
    split at taken
    · obtain ⟨rfl, rfl⟩ := Prod.mk.inj (Option.some.inj taken)
      exact .misses token start
    · split at taken <;> obtain ⟨rfl, rfl⟩ := Prod.mk.inj (Option.some.inj taken)
      · rename_i query
        exact .retrieves token answer start query
      · rename_i other
        exact .prefetches token answer start other
  · rename_i token ids start
    split at taken <;> obtain ⟨rfl, rfl⟩ := Prod.mk.inj (Option.some.inj taken)
    · exact .fails
    · exact .checked token ids start
  · rename_i token ids start
    split at taken
    · obtain ⟨rfl, rfl⟩ := Prod.mk.inj (Option.some.inj taken)
      exact .fails
    · split at taken <;> obtain ⟨rfl, rfl⟩ := Prod.mk.inj (Option.some.inj taken)
      · exact .answersNothing token ids (.inl start)
      · rename_i found
        exact .finds token ids _ _ (.inl start) rfl (fun query empty => found ⟨query, empty⟩)
  · rename_i token start
    split at taken
    · obtain ⟨rfl, rfl⟩ := Prod.mk.inj (Option.some.inj taken)
      exact .fails
    · split at taken
      · obtain ⟨rfl, rfl⟩ := Prod.mk.inj (Option.some.inj taken)
        exact .answers _ start answer rfl
      · rename_i token
        split at taken <;> obtain ⟨rfl, rfl⟩ := Prod.mk.inj (Option.some.inj taken)
        · exact .answersNothing token [] (.inr start)
        · rename_i found
          exact .finds token [] answer _ (.inr start) rfl (fun _ => found)
  · rename_i token nodes start
    split at taken <;> obtain ⟨rfl, rfl⟩ := Prod.mk.inj (Option.some.inj taken)
    · exact .measures token nodes start
    · exact .skips token nodes "" (.inl start)
  · rename_i token nodes start
    split at taken <;> obtain ⟨rfl, rfl⟩ := Prod.mk.inj (Option.some.inj taken)
    · exact .skips token nodes "" (.inr (.inl start))
    · rename_i target read
      exact .targets token nodes target start read
  · rename_i token nodes target start
    split at taken <;> obtain ⟨rfl, rfl⟩ := Prod.mk.inj (Option.some.inj taken)
    · exact .skips token nodes target (.inr (.inr start))
    · exact .updates token nodes target start
  · rename_i token nodes start
    split at taken <;> obtain ⟨rfl, rfl⟩ := Prod.mk.inj (Option.some.inj taken)
    · exact .fails
    · rename_i valid
      simp only [Bool.or_eq_true, Bool.not_eq_true', not_or, Bool.not_eq_false] at valid
      exact .confirmed token nodes start valid.2
  · rename_i token start
    split at taken <;> obtain ⟨rfl, rfl⟩ := Prod.mk.inj (Option.some.inj taken)
    · exact .fails
    · rename_i valid
      simp only [Bool.or_eq_true, Bool.not_eq_true', not_or, Bool.not_eq_false] at valid
      exact .reaffirmed token start valid.2
  · rename_i remaining start
    split at taken
    · obtain ⟨rfl, rfl⟩ := Prod.mk.inj (Option.some.inj taken)
      exact .stores remaining _ start (.inl rfl)
    · split at taken <;> obtain ⟨rfl, rfl⟩ := Prod.mk.inj (Option.some.inj taken)
      · exact .stores _ _ start (.inr (.inl ⟨_, rfl⟩))
      · rename_i extract
        exact .stores _ _ start (.inr (.inr (.inl ⟨extract, rfl⟩)))
      · rename_i turn
        exact .stores _ _ start (.inr (.inr (.inr (.inl ⟨turn, rfl⟩))))
      · rename_i other _
        exact .stores _ _ start (.inr (.inr (.inr (.inr ⟨other, rfl⟩))))
  · rename_i start
    split at taken <;> obtain ⟨rfl, rfl⟩ := Prod.mk.inj (Option.some.inj taken)
    · exact .rests start
    · exact .thinks start
  · rename_i result start
    obtain ⟨rfl, rfl⟩ := Prod.mk.inj (Option.some.inj taken)
    exact .records result start
  · rename_i result start
    obtain ⟨rfl, rfl⟩ := Prod.mk.inj (Option.some.inj taken)
    exact .returns result start
  · cases taken
  · cases taken

end Statements

def Operation.working : Operation → Bool
  | .turn | .think => true
  | _ => false

def advance (database : Generation → Path) (world : World) (index : Nat) (raises : Bool)
    (answer : List String) : Option World :=
  match world.calls[index]? with
  | none => none
  | some call =>
      if call.operation.working && !world.provider.alive (.sync call.generation) then none
      else
        (call.next database world raises answer).map fun (following, written) =>
          { world with
            calls := world.calls.set index following
            writes := written.toList.map (Write.mk call.operation call.generation) ++
              world.writes }

/-! ## Entry guards -/

def World.start (world : World) (operation : Operation) (point : Point) : World :=
  { world with
    calls := world.calls ++
      [{ operation := operation, generation := world.provider.healthGeneration, point := point }] }

def admits (provider : State) : Bool :=
  provider.config.isSome && provider.initializer.isNone && !provider.shutdownStarted

/-- `handle_tool_call("cashew_query", ...)`. -/
def cashewQuery (world : World) : World :=
  if admits world.provider then world.start .query .snapshotting else world

/-- `handle_tool_call("cashew_extract", ...)`. -/
def cashewExtract (world : World) : World :=
  if world.writeEnabled && world.provider.embeddingIdentityReady &&
      world.provider.dbPath.isSome && admits world.provider then
    world.start .extract .snapshotting
  else world

/-- The locked block of `prefetch`, which consumes the staged result, up to the cue
match `hits` and the cut at `limit`. -/
def prefetch (database : Generation → Path) (world : World) (stamp limit : Nat) (hits : Bool) :
    World :=
  match dbPath database world.provider with
  | none => world
  | some path =>
      if admits world.provider then
        let identity : Identity := { dbPath := path, stamp := stamp }
        let consumed := { world with prefetchPending := none }
        let cold : Point :=
          if world.provider.embeddingIdentityReady then .entering else .searching none
        match world.prefetchPending with
        | none => consumed.start (.prefetch path) cold
        | some result =>
            if hits && decide (result.identity = identity) then
              consumed.start (.prefetch path) (.returning (.context (result.nodes.take limit)))
            else consumed.start (.prefetch path) cold
      else world

/-! ## Turns -/

/-- `sync_turn`, when the queue has room. -/
def syncTurn (world : World) : World :=
  match world.provider.syncQueue with
  | none => world
  | some queue =>
      if world.writeEnabled && world.provider.embeddingIdentityReady && admits world.provider then
        { world with queued := Function.update world.queued queue (world.queued queue + 1) }
      else world

def Call.busy (generation : Generation) (call : Call) : Bool :=
  call.operation.working && decide (call.generation = generation) &&
    decide (call.point ≠ .finished)

/-- The worker takes a turn and enters `_drain_once`, which drops it unless the
identity is ready. -/
def drainOnce (world : World) (generation : Generation) : Option World :=
  if world.provider.alive (.sync generation) && decide (0 < world.queued generation) &&
      !world.calls.any (Call.busy generation) then
    let taken := { world with
      queued := Function.update world.queued generation (world.queued generation - 1) }
    if world.provider.embeddingIdentityReady then
      some { taken with
        calls := taken.calls ++
          [{ operation := .turn, generation := generation, point := .entering }] }
    else some taken
  else none

/-! ## Warm-up requests -/

/-- `queue_prefetch`. -/
def queuePrefetch (database : Generation → Path) (world : World) (stamp : Nat) : World :=
  match dbPath database world.provider with
  | none => world
  | some path =>
      if admits world.provider then
        { world with
          provider := Lifecycle.queuePrefetch world.provider
          prefetchPending := none
          pendingRequest := some { dbPath := path, stamp := stamp } }
      else world

def takeRequest (world : World) : Option World :=
  match world.pendingRequest, world.activeRequest with
  | some identity, none =>
      some { world with
        pendingRequest := none
        activeRequest := some { identity := identity, nodes := [] } }
  | _, _ => none

/-- `_prefetch_nodes_for_cue` reads from the path of the request. -/
def gather (world : World) (answer : List String) : Option World :=
  world.activeRequest.map fun request =>
    { world with
      activeRequest := some { request with
        nodes := request.nodes ++ rows (some request.identity.dbPath) answer } }

/-- `_stage_prefetch_result`, or the end of a request that is not current. -/
def stage (database : Generation → Path) (world : World) (stamp : Nat) : Option World :=
  world.activeRequest.map fun request =>
    let current : Identity := { dbPath := strDbPath database world.provider, stamp := stamp }
    { world with
      activeRequest := none
      prefetchPending :=
        if request.identity = current then some request else world.prefetchPending }

/-! ## The provider and everything beside it -/

/-- A lifecycle step. `_clear_runtime_state` also drops the warm-up slots. -/
def lifecycle (world : World) (action : Lifecycle.Action) : Option World :=
  (Lifecycle.step world.provider action).map fun provider =>
    if clears world.provider action then
      { world with provider := provider, pendingRequest := none, prefetchPending := none }
    else { world with provider := provider }

inductive Action where
  | lifecycle (action : Lifecycle.Action)
  /-- `initialize` sets `_write_enabled`. -/
  | assignWriteEnabled (value : Bool)
  | cashewQuery
  | cashewExtract
  | prefetch (stamp limit : Nat) (hits : Bool)
  | syncTurn
  | drainOnce (generation : Generation)
  | queuePrefetch (stamp : Nat)
  | takeRequest
  | gather (answer : List String)
  | stage (stamp : Nat)
  | advance (index : Nat) (raises : Bool) (answer : List String)
  deriving DecidableEq, Repr

def step (database : Generation → Path) (world : World) : Action → Option World
  | .lifecycle action => ProfileIsolation.lifecycle world action
  | .assignWriteEnabled value =>
      if world.provider.initializer = none then none
      else some { world with writeEnabled := value }
  | .cashewQuery => some (ProfileIsolation.cashewQuery world)
  | .cashewExtract => some (ProfileIsolation.cashewExtract world)
  | .prefetch stamp limit hits => some (ProfileIsolation.prefetch database world stamp limit hits)
  | .syncTurn => some (ProfileIsolation.syncTurn world)
  | .drainOnce generation => ProfileIsolation.drainOnce world generation
  | .queuePrefetch stamp => some (ProfileIsolation.queuePrefetch database world stamp)
  | .takeRequest => ProfileIsolation.takeRequest world
  | .gather answer => ProfileIsolation.gather world answer
  | .stage stamp => ProfileIsolation.stage database world stamp
  | .advance index raises answer => ProfileIsolation.advance database world index raises answer

/-! ## One step, case by case -/

section Inversion

variable {database : Generation → Path} {world following : World}

inductive Starts (database : Generation → Path) (world : World) : Call → Prop where
  | query (admitted : admits world.provider = true) :
      Starts database world ⟨.query, world.provider.healthGeneration, .snapshotting⟩
  | extract (admitted : admits world.provider = true) :
      Starts database world ⟨.extract, world.provider.healthGeneration, .snapshotting⟩
  | cold (path : Path) (point : Point) (admitted : admits world.provider = true)
      (current : dbPath database world.provider = some path)
      (first : point = .entering ∨ point = .searching none) :
      Starts database world ⟨.prefetch path, world.provider.healthGeneration, point⟩
  | warm (path : Path) (request : Warmup) (limit : Nat)
      (admitted : admits world.provider = true)
      (current : dbPath database world.provider = some path)
      (staged : world.prefetchPending = some request) (same : request.identity.dbPath = path) :
      Starts database world ⟨.prefetch path, world.provider.healthGeneration,
        .returning (.context (request.nodes.take limit))⟩
  | turn (generation : Generation) : Starts database world ⟨.turn, generation, .entering⟩

def Warm (world : World) : Prop :=
  ∀ request, world.activeRequest = some request ∨ world.prefetchPending = some request →
    ∀ node ∈ request.nodes, node.graph = request.identity.dbPath

inductive Moves (database : Generation → Path) (world : World) (action : Action)
    (following : World) : Prop where
  | lifecycle (lifecycle : Lifecycle.Action)
      (moves : Lifecycle.Moves world.provider lifecycle following.provider)
      (named : clears world.provider lifecycle = true ∨
        resolves world.provider lifecycle = true → action = .lifecycle lifecycle)
      (calls : following.calls = world.calls) (writes : following.writes = world.writes)
      (warm : Warm world → Warm following)
  | beside (provider : following.provider = world.provider)
      (calls : following.calls = world.calls) (writes : following.writes = world.writes)
      (warm : Warm world → Warm following)
  | starts (call : Call) (starts : Starts database world call)
      (provider : following.provider = world.provider)
      (calls : following.calls = world.calls ++ [call])
      (writes : following.writes = world.writes) (warm : Warm world → Warm following)
  | advances (index : Nat) (call changed : Call) (written : Option Path)
      (member : world.calls[index]? = some call)
      (working : call.operation.working = true →
        world.provider.alive (.sync call.generation) = true)
      (advances : Advances database world call changed written)
      (provider : following.provider = world.provider)
      (calls : following.calls = world.calls.set index changed)
      (writes : following.writes =
        written.toList.map (Write.mk call.operation call.generation) ++ world.writes)
      (warm : Warm world → Warm following)

theorem prefetch_moves {stamp limit : Nat} {hits : Bool} {action : Action} :
    Moves database world action (prefetch database world stamp limit hits) := by
  have consumed : Warm world → Warm { world with prefetchPending := none } := by
    rintro warm request (active | pending)
    · exact warm request (.inl active)
    · cases pending
  unfold prefetch
  split
  · exact .beside rfl rfl rfl id
  · rename_i path current
    split
    · rename_i admitted
      have first : (if world.provider.embeddingIdentityReady then Point.entering
          else .searching none) = .entering ∨
          (if world.provider.embeddingIdentityReady then Point.entering
            else .searching none) = .searching none := by
        split
        · exact .inl rfl
        · exact .inr rfl
      dsimp only
      split
      · exact .starts _ (.cold path _ admitted current first) rfl rfl rfl consumed
      · rename_i request staged
        split
        · rename_i hit
          simp only [Bool.and_eq_true, decide_eq_true_eq] at hit
          have same : request.identity.dbPath = path := by rw [hit.2]
          exact .starts _ (.warm path request limit admitted current staged same) rfl rfl rfl
            consumed
        · exact .starts _ (.cold path _ admitted current first) rfl rfl rfl consumed
    · exact .beside rfl rfl rfl id

theorem lifecycle_moves {action : Lifecycle.Action}
    (taken : lifecycle world action = some following) :
    Moves database world (.lifecycle action) following := by
  obtain ⟨provider, moved, rfl⟩ := Option.map_eq_some_iff.mp taken
  have moves := Lifecycle.step_moves moved
  split
  · refine .lifecycle action moves (fun _ => rfl) rfl rfl ?_
    rintro warm request (active | pending)
    · exact warm request (.inl active)
    · cases pending
  · exact .lifecycle action moves (fun _ => rfl) rfl rfl id

theorem advance_moves {index : Nat} {raises : Bool} {answer : List String} {action : Action}
    (taken : advance database world index raises answer = some following) :
    Moves database world action following := by
  unfold advance at taken
  split at taken
  · cases taken
  · rename_i call member
    obtain ⟨working, taken⟩ := Option.ite_none_left_eq_some.mp taken
    obtain ⟨⟨changed, written⟩, next, rfl⟩ := Option.map_eq_some_iff.mp taken
    refine .advances index call changed written member ?_ (next_advances next) rfl rfl rfl id
    intro turn
    simpa [turn] using working

theorem step_moves {action : Action} (taken : step database world action = some following) :
    Moves database world action following := by
  cases action with
  | lifecycle action => exact lifecycle_moves taken
  | assignWriteEnabled value =>
      obtain ⟨_, taken⟩ := Option.ite_none_left_eq_some.mp taken
      obtain rfl := Option.some.inj taken
      exact .beside rfl rfl rfl id
  | cashewQuery =>
      obtain rfl := Option.some.inj taken
      unfold cashewQuery
      split
      · rename_i admitted
        exact .starts _ (.query admitted) rfl rfl rfl id
      · exact .beside rfl rfl rfl id
  | cashewExtract =>
      obtain rfl := Option.some.inj taken
      unfold cashewExtract
      split
      · rename_i admitted
        simp only [Bool.and_eq_true] at admitted
        exact .starts _ (.extract admitted.2) rfl rfl rfl id
      · exact .beside rfl rfl rfl id
  | prefetch stamp limit hits =>
      obtain rfl := Option.some.inj taken
      exact prefetch_moves
  | syncTurn =>
      obtain rfl := Option.some.inj taken
      unfold syncTurn
      split
      · exact .beside rfl rfl rfl id
      · split <;> exact .beside rfl rfl rfl id
  | drainOnce generation =>
      obtain ⟨_, taken⟩ := Option.ite_none_right_eq_some.mp taken
      split at taken <;> obtain rfl := Option.some.inj taken
      · exact .starts _ (.turn generation) rfl rfl rfl id
      · exact .beside rfl rfl rfl id
  | queuePrefetch stamp =>
      obtain rfl := Option.some.inj taken
      unfold queuePrefetch
      split
      · exact .beside rfl rfl rfl id
      · split
        · have moves : Lifecycle.Moves world.provider .queuePrefetch
              (Lifecycle.queuePrefetch world.provider) := Lifecycle.step_moves rfl
          refine .lifecycle .queuePrefetch moves (by simp [clears, resolves]) rfl rfl ?_
          rintro warm request (active | pending)
          · exact warm request (.inl active)
          · cases pending
        · exact .beside rfl rfl rfl id
  | takeRequest =>
      simp only [step, takeRequest] at taken
      split at taken
      · obtain rfl := Option.some.inj taken
        refine .beside rfl rfl rfl ?_
        rintro warm request (active | pending)
        · obtain rfl := Option.some.inj active
          exact fun node member => absurd member List.not_mem_nil
        · exact warm request (.inr pending)
      · cases taken
  | gather answer =>
      obtain ⟨request, active, rfl⟩ := Option.map_eq_some_iff.mp taken
      refine .beside rfl rfl rfl ?_
      rintro warm other (held | pending)
      · obtain rfl := Option.some.inj held
        intro node member
        rcases List.mem_append.mp member with old | new
        · exact warm request (.inl active) node old
        · obtain ⟨id, _, rfl⟩ := List.mem_map.mp new
          rfl
      · exact warm other (.inr pending)
  | stage stamp =>
      obtain ⟨request, active, rfl⟩ := Option.map_eq_some_iff.mp taken
      refine .beside rfl rfl rfl ?_
      rintro warm other (held | pending)
      · cases held
      · dsimp only at pending
        split at pending
        · obtain rfl := Option.some.inj pending
          exact warm request (.inl active)
        · exact warm other (.inr pending)
  | advance index raises answer => exact advance_moves taken

end Inversion

/-! ## What isolation means -/

def Result.nodes : Result → List Node
  | .context nodes => nodes
  | _ => []

def Result.vacant : Result → Bool
  | .error => true
  | .context nodes => nodes.isEmpty
  | .stored => false

/-- What a call returned, and what the calls and turns wrote, belongs to their own
database; a call that outlived its generation returned nothing. -/
structure Isolated (database : Generation → Path) (world : World) : Prop where
  nodes : ∀ call ∈ world.calls, ∀ result outlived, call.point = .returned result outlived →
    ∀ node ∈ result.nodes, node.graph = database call.generation
  outlived : ∀ call ∈ world.calls, ∀ result, call.point = .returned result true →
    result.vacant = true
  writes : ∀ write ∈ world.writes, write.graph = database write.generation

end HermesCashew.ProfileIsolation
