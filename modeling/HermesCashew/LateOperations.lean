import HermesCashew.LifecycleLocation
import HermesCashew.OutcomeLedger

/-!
# Operations that outlive their generation

`handle_tool_call`, `prefetch` and the turns of the sync worker book their outcome in
the ledger of a generation and may degrade its health. Each of them captures the
ledger and the generation, and compares both again when it publishes. `initialize`
replaces the ledger in the locked block that raises the generation, so a ledger is
named by its generation.

The entry guard of a tool is a row of unlocked reads, one step each, and the capture
is a locked block behind it; `prefetch` does both in one block. A step of an
operation is one such read or block, and what the slow work in between comes to is up
to the environment.
-/

namespace HermesCashew.LateOperations

open HermesCashew.Lifecycle
open HermesCashew.Transition

set_option autoImplicit false

inductive Guard where
  | writeEnabled
  | embeddingIdentityReady
  | dbPath
  | config
  | initializing
  | shutdownStarted
  deriving DecidableEq, Repr

inductive Operation where
  | tool (tool : Tool)
  | prefetch
  | turn
  deriving DecidableEq, Repr

/-- Where an operation stands. `captured` is its snapshot of the generation. -/
inductive Point where
  | guarding (remaining : List Guard)
  | capturing
  /-- The body of a tool, up to the block that books a success. -/
  | working (captured : Generation) (identityReady : Bool)
  | recorded (captured : Generation)
  /-- The handler of a tool, before its locked block. -/
  | failing (captured : Generation) (errorClass : String)
  /-- `prefetch`, before and behind its first publication. -/
  | recalling (captured : Generation)
  | measuring (captured : Generation)
  | draining (captured : Generation)
  | returned
  deriving DecidableEq, Repr

/-- `generation` is the one in which the guard was passed or the turn admitted. -/
structure Call where
  operation : Operation
  generation : Generation
  point : Point
  deriving DecidableEq, Repr

structure World where
  provider : State := fresh
  writeEnabled : Bool := false
  ledgers : Generation → OutcomeLedger := fun _ => {}
  /-- The turns that were put into the queue of a generation and not yet started. -/
  queued : Generation → Nat := fun _ => 0
  calls : List Call := []

def emptyWorld : World := {}

def World.book (world : World) (generation : Generation)
    (change : OutcomeLedger → OutcomeLedger) : World :=
  { world with
    ledgers := Function.update world.ledgers generation (change (world.ledgers generation)) }

/-- A published finding: the guard is the one of `_mark_health_if_current`. -/
def World.degrade (world : World) (captured : Generation) (reason : HealthReason)
    (fallback : Option Fallback) (error : Option String) : World :=
  { world with provider := Lifecycle.report world.provider captured reason fallback error }

/-- `_outcome_current_locked`. -/
def outcomeCurrent (provider : State) (captured : Generation) : Bool :=
  decide (captured = provider.healthGeneration) && !provider.shutdownStarted &&
    !provider.health.state.closing

/-! ## Entry -/

def Guard.passes (world : World) : Guard → Bool
  | .writeEnabled => world.writeEnabled
  | .embeddingIdentityReady => world.provider.embeddingIdentityReady
  | .dbPath => world.provider.dbPath.isSome
  | .config => world.provider.config.isSome
  | .initializing => world.provider.initializer.isNone
  | .shutdownStarted => !world.provider.shutdownStarted

/-- The entry guards of `handle_tool_call`. -/
def guards : Tool → List Guard
  | .cashewQuery => [.config, .initializing, .shutdownStarted]
  | .cashewExtract =>
      [.writeEnabled, .embeddingIdentityReady, .dbPath, .config, .initializing, .shutdownStarted]

def World.start (world : World) (operation : Operation) (generation : Generation)
    (point : Point) : World :=
  { world with
    calls := world.calls ++
      [{ operation := operation, generation := generation, point := point }] }

def handleToolCall (world : World) (tool : Tool) : World :=
  world.start (.tool tool) world.provider.healthGeneration (.guarding (guards tool))

/-- The locked block of `prefetch`. Without a ready identity or with a warm hit it
publishes nothing. -/
def prefetch (world : World) : World :=
  let provider := world.provider
  if provider.config.isSome && provider.dbPath.isSome && provider.initializer.isNone &&
      !provider.shutdownStarted then
    world.start .prefetch provider.healthGeneration (.recalling provider.healthGeneration)
  else world

inductive Put where
  | fits
  | dropsOldest
  | dropsNew (evicted : Bool)
  deriving DecidableEq, Repr

/-- `sync_turn`, one locked block. -/
def syncTurn (world : World) (autoExtraction : Bool) (put : Put) : World :=
  let provider := world.provider
  let current := provider.healthGeneration
  match provider.syncQueue with
  | none => world
  | some queue =>
      if !world.writeEnabled || !provider.embeddingIdentityReady || provider.config.isNone ||
          provider.initializer.isSome || provider.shutdownStarted || !autoExtraction then
        if provider.initializer.isSome || provider.shutdownStarted then
          world.book current .reject
        else world
      else
        match put with
        | .fits =>
            { world.book current .admitWork with
              queued := Function.update world.queued queue (world.queued queue + 1) }
        | .dropsOldest => world.book current fun ledger => ledger.dropPending.admitWork
        | .dropsNew false => world.book current .reject
        | .dropsNew true =>
            { world.book current fun ledger => ledger.dropPending.reject with
              queued := Function.update world.queued queue (world.queued queue - 1) }

def Call.busy (generation : Generation) (call : Call) : Bool :=
  decide (call.operation = .turn) && decide (call.generation = generation) &&
    decide (call.point ≠ .returned)

def startTurn (world : World) (generation : Generation) : Option World :=
  let current := world.provider.healthGeneration
  if world.provider.alive (.sync generation) = true ∧ 0 < world.queued generation ∧
      world.calls.any (Call.busy generation) = false then
    some (World.start
      { world.book current .start with
        queued := Function.update world.queued generation (world.queued generation - 1) }
      .turn generation (.draining current))
  else none

/-! ## Publication -/

inductive Outcome where
  | returns
  /-- A tool has its result. -/
  | succeeds (empty vectorFailed : Bool)
  /-- An exception, with its class. -/
  | raises (errorClass : String)
  /-- `prefetch` has keyword nodes after a failed retrieval. -/
  | fallsBack
  | vectorFails
  | keywordFails
  /-- `_drain_once` returns, rejects before admission, or fails upstream. -/
  | drains (completed : Bool)
  | rejects
  | fails (partly unclear : Bool) (errorClass : String)
  deriving DecidableEq, Repr

def recordSuccess (world : World) (tool : Tool) (captured : Generation) (identityReady empty
    vectorFailed : Bool) : World :=
  if outcomeCurrent world.provider captured then
    let booked := world.book captured fun ledger => ledger.recordTool tool true empty
    if tool = .cashewQuery && vectorFailed && identityReady then
      booked.degrade captured .vectorUnavailable (some .keyword) none
    else booked
  else world

/-- The block of a tool's handler. Only `cashew_query` names a fallback. -/
def recordFailure (world : World) (tool : Tool) (captured : Generation) (errorClass : String) :
    World :=
  if outcomeCurrent world.provider captured then
    (world.book captured fun ledger => ledger.recordTool tool false false).degrade captured
      .backendError (if tool = .cashewQuery then some .keyword else none) (some errorClass)
  else world

/-- `_finish_worker_turn`. -/
def finishWorkerTurn (world : World) (captured : Generation) (completed : Bool) : World :=
  if captured = world.provider.healthGeneration then
    world.book captured (if completed then .complete else .dropInFlight)
  else world

/-- The handler of `_PreAdmissionRejectedError`. -/
def rejectWorkerTurn (world : World) (captured : Generation) : World :=
  if captured = world.provider.healthGeneration then world.book captured .rejectInFlight else world

/-- `_fail_worker_turn`. -/
def failWorkerTurn (world : World) (captured : Generation) (partly unclear : Bool)
    (errorClass : String) : World :=
  if captured = world.provider.healthGeneration then
    (world.book captured fun ledger => ledger.fail partly unclear).degrade captured
      .backendError none (some errorClass)
  else world

def Call.next (world : World) (call : Call) (outcome : Outcome) : Option (World × Call) :=
  let moved (following : World) (point : Point) : Option (World × Call) :=
    some (following, { call with point := point })
  match call.point, call.operation, outcome with
  | .guarding (guard :: remaining), _, _ =>
      if guard.passes world then
        if remaining = [] then
          some (world, { call with
            generation := world.provider.healthGeneration, point := .capturing })
        else moved world (.guarding remaining)
      else moved world .returned
  | .capturing, .tool _, _ =>
      moved world
        (.working world.provider.healthGeneration world.provider.embeddingIdentityReady)
  | .working captured identityReady, .tool tool, .succeeds empty vectorFailed =>
      moved (recordSuccess world tool captured identityReady empty vectorFailed)
        (.recorded captured)
  | .working captured _, .tool _, .raises errorClass => moved world (.failing captured errorClass)
  | .recorded _, .tool _, .returns => moved world .returned
  | .recorded captured, .tool _, .raises errorClass => moved world (.failing captured errorClass)
  | .failing captured errorClass, .tool tool, _ =>
      moved (recordFailure world tool captured errorClass) .returned
  | .recalling _, .prefetch, .returns => moved world .returned
  | .recalling captured, .prefetch, .fallsBack =>
      moved (world.degrade captured .vectorUnavailable (some .keyword) none) (.measuring captured)
  | .recalling captured, .prefetch, .vectorFails =>
      moved (world.degrade captured .vectorUnavailable (some .keyword) none) .returned
  | .recalling captured, .prefetch, .keywordFails =>
      moved (world.degrade captured .backendError none none) .returned
  | .measuring _, .prefetch, .returns => moved world .returned
  | .measuring captured, .prefetch, .vectorFails =>
      moved (world.degrade captured .vectorUnavailable (some .keyword) none) .returned
  | .draining captured, .turn, .drains completed =>
      moved (finishWorkerTurn world captured completed) .returned
  | .draining captured, .turn, .rejects => moved (rejectWorkerTurn world captured) .returned
  | .draining captured, .turn, .fails partly unclear errorClass =>
      moved (failWorkerTurn world captured partly unclear errorClass) .returned
  | _, _, _ => none

def advance (world : World) (index : Nat) (outcome : Outcome) : Option World :=
  match world.calls[index]? with
  | none => none
  | some call =>
      if call.operation = .turn ∧ world.provider.alive (.sync call.generation) = false then none
      else
        (call.next world outcome).map fun (following, moved) =>
          { following with calls := world.calls.set index moved }

inductive Action where
  | lifecycle (action : Lifecycle.Action)
  | assignWriteEnabled (value : Bool)
  | handleToolCall (tool : Tool)
  | prefetch
  | syncTurn (autoExtraction : Bool) (put : Put)
  | startTurn (generation : Generation)
  | advance (index : Nat) (outcome : Outcome)
  deriving DecidableEq, Repr

/-- The lifecycle, without the reports of operations. -/
def lifecycle (world : World) : Lifecycle.Action → Option World
  | .report _ _ _ _ => none
  | action =>
      (Lifecycle.step world.provider action).map fun following =>
        { world with provider := following }

def step (world : World) : Action → Option World
  | .lifecycle action => lifecycle world action
  | .assignWriteEnabled value =>
      if world.provider.initializer = none then none else some { world with writeEnabled := value }
  | .handleToolCall tool => some (LateOperations.handleToolCall world tool)
  | .prefetch => some (LateOperations.prefetch world)
  | .syncTurn autoExtraction put => some (LateOperations.syncTurn world autoExtraction put)
  | .startTurn generation => LateOperations.startTurn world generation
  | .advance index outcome => LateOperations.advance world index outcome

/-! ## What a step publishes -/

def Point.captured : Point → Option Generation
  | .working captured _ | .recorded captured | .failing captured _ | .recalling captured
  | .measuring captured | .draining captured => some captured
  | _ => none

/-- A block writes to the ledger of the snapshot, and to the health as `report` does. -/
structure Publishes (world following : World) (captured : Generation) : Prop where
  ledgers : ∀ generation, generation ≠ captured →
    following.ledgers generation = world.ledgers generation
  provider : following.provider = world.provider ∨ ∃ reason fallback error,
    following.provider = Lifecycle.report world.provider captured reason fallback error
  calls : following.calls = world.calls

section Blocks

variable (world : World) (captured : Generation)

theorem publishes_nothing : Publishes world world captured :=
  ⟨fun _ _ => rfl, .inl rfl, rfl⟩

theorem book_publishes (change : OutcomeLedger → OutcomeLedger) :
    Publishes world (world.book captured change) captured :=
  ⟨fun _ different => Function.update_of_ne different _ _, .inl rfl, rfl⟩

theorem degrade_publishes (reason : HealthReason) (fallback : Option Fallback)
    (error : Option String) :
    Publishes world (world.degrade captured reason fallback error) captured :=
  ⟨fun _ _ => rfl, .inr ⟨reason, fallback, error, rfl⟩, rfl⟩

theorem book_degrade_publishes (change : OutcomeLedger → OutcomeLedger) (reason : HealthReason)
    (fallback : Option Fallback) (error : Option String) :
    Publishes world ((world.book captured change).degrade captured reason fallback error)
      captured :=
  ⟨(book_publishes world captured change).ledgers, .inr ⟨reason, fallback, error, rfl⟩, rfl⟩

theorem record_success_publishes (tool : Tool) (identityReady empty vectorFailed : Bool) :
    Publishes world (recordSuccess world tool captured identityReady empty vectorFailed)
      captured := by
  unfold recordSuccess
  split
  · dsimp only
    split
    · exact book_degrade_publishes world captured _ _ _ _
    · exact book_publishes world captured _
  · exact publishes_nothing world captured

theorem record_failure_publishes (tool : Tool) (errorClass : String) :
    Publishes world (recordFailure world tool captured errorClass) captured := by
  unfold recordFailure
  split
  · exact book_degrade_publishes world captured _ _ _ _
  · exact publishes_nothing world captured

theorem finish_worker_turn_publishes (completed : Bool) :
    Publishes world (finishWorkerTurn world captured completed) captured := by
  unfold finishWorkerTurn
  split
  · exact book_publishes world captured _
  · exact publishes_nothing world captured

theorem reject_worker_turn_publishes :
    Publishes world (rejectWorkerTurn world captured) captured := by
  unfold rejectWorkerTurn
  split
  · exact book_publishes world captured _
  · exact publishes_nothing world captured

theorem fail_worker_turn_publishes (partly unclear : Bool) (errorClass : String) :
    Publishes world (failWorkerTurn world captured partly unclear errorClass) captured := by
  unfold failWorkerTurn
  split
  · exact book_degrade_publishes world captured _ _ _ _
  · exact publishes_nothing world captured

end Blocks

inductive Advances (world : World) (call : Call) : World → Call → Prop where
  | reads (guard : Guard) (remaining : List Guard) (point : Point)
      (start : call.point = .guarding (guard :: remaining))
      (next : point = .returned ∨ point = .guarding remaining) :
      Advances world call world { call with point := point }
  | passes (guard : Guard) (start : call.point = .guarding [guard]) :
      Advances world call world { call with
        generation := world.provider.healthGeneration, point := .capturing }
  | captures (start : call.point = .capturing) (identityReady : Bool) :
      Advances world call world { call with
        point := .working world.provider.healthGeneration identityReady }
  | publishes (following : World) (captured : Generation) (point : Point)
      (start : call.point.captured = some captured)
      (publishes : Publishes world following captured)
      (next : point = .returned ∨ point.captured = some captured) :
      Advances world call following { call with point := point }

theorem next_advances {world following : World} {call moved : Call} {outcome : Outcome}
    (taken : call.next world outcome = some (following, moved)) :
    Advances world call following moved := by
  unfold Call.next at taken
  dsimp only at taken
  split at taken
  · rename_i guard remaining start
    split at taken
    · split at taken <;> obtain ⟨rfl, rfl⟩ := Prod.mk.inj (Option.some.inj taken)
      · rename_i last
        exact .passes guard (last ▸ start)
      · exact .reads guard remaining _ start (.inr rfl)
    · obtain ⟨rfl, rfl⟩ := Prod.mk.inj (Option.some.inj taken)
      exact .reads guard remaining _ start (.inl rfl)
  · rename_i start _
    obtain ⟨rfl, rfl⟩ := Prod.mk.inj (Option.some.inj taken)
    exact .captures start _
  · rename_i captured identityReady tool empty vectorFailed start _
    obtain ⟨rfl, rfl⟩ := Prod.mk.inj (Option.some.inj taken)
    exact .publishes _ captured _ (by rw [start]; rfl)
      (record_success_publishes world captured tool identityReady empty vectorFailed) (.inr rfl)
  · rename_i captured _ _ errorClass start _
    obtain ⟨rfl, rfl⟩ := Prod.mk.inj (Option.some.inj taken)
    exact .publishes _ captured _ (by rw [start]; rfl) (publishes_nothing world captured) (.inr rfl)
  · rename_i captured _ start _
    obtain ⟨rfl, rfl⟩ := Prod.mk.inj (Option.some.inj taken)
    exact .publishes _ captured _ (by rw [start]; rfl) (publishes_nothing world captured) (.inl rfl)
  · rename_i captured _ errorClass start _
    obtain ⟨rfl, rfl⟩ := Prod.mk.inj (Option.some.inj taken)
    exact .publishes _ captured _ (by rw [start]; rfl) (publishes_nothing world captured) (.inr rfl)
  · rename_i captured errorClass tool start _
    obtain ⟨rfl, rfl⟩ := Prod.mk.inj (Option.some.inj taken)
    exact .publishes _ captured _ (by rw [start]; rfl)
      (record_failure_publishes world captured tool errorClass) (.inl rfl)
  · rename_i captured start _
    obtain ⟨rfl, rfl⟩ := Prod.mk.inj (Option.some.inj taken)
    exact .publishes _ captured _ (by rw [start]; rfl) (publishes_nothing world captured) (.inl rfl)
  · rename_i captured start _
    obtain ⟨rfl, rfl⟩ := Prod.mk.inj (Option.some.inj taken)
    exact .publishes _ captured _ (by rw [start]; rfl)
      (degrade_publishes world captured _ _ _) (.inr rfl)
  · rename_i captured start _
    obtain ⟨rfl, rfl⟩ := Prod.mk.inj (Option.some.inj taken)
    exact .publishes _ captured _ (by rw [start]; rfl)
      (degrade_publishes world captured _ _ _) (.inl rfl)
  · rename_i captured start _
    obtain ⟨rfl, rfl⟩ := Prod.mk.inj (Option.some.inj taken)
    exact .publishes _ captured _ (by rw [start]; rfl)
      (degrade_publishes world captured _ _ _) (.inl rfl)
  · rename_i captured start _
    obtain ⟨rfl, rfl⟩ := Prod.mk.inj (Option.some.inj taken)
    exact .publishes _ captured _ (by rw [start]; rfl) (publishes_nothing world captured) (.inl rfl)
  · rename_i captured start _
    obtain ⟨rfl, rfl⟩ := Prod.mk.inj (Option.some.inj taken)
    exact .publishes _ captured _ (by rw [start]; rfl)
      (degrade_publishes world captured _ _ _) (.inl rfl)
  · rename_i captured completed start _
    obtain ⟨rfl, rfl⟩ := Prod.mk.inj (Option.some.inj taken)
    exact .publishes _ captured _ (by rw [start]; rfl)
      (finish_worker_turn_publishes world captured completed) (.inl rfl)
  · rename_i captured start _
    obtain ⟨rfl, rfl⟩ := Prod.mk.inj (Option.some.inj taken)
    exact .publishes _ captured _ (by rw [start]; rfl)
      (reject_worker_turn_publishes world captured) (.inl rfl)
  · rename_i captured partly unclear errorClass start _
    obtain ⟨rfl, rfl⟩ := Prod.mk.inj (Option.some.inj taken)
    exact .publishes _ captured _ (by rw [start]; rfl)
      (fail_worker_turn_publishes world captured partly unclear errorClass) (.inl rfl)
  · cases taken

/-! ## The generation of a snapshot -/

/-- `initialize` begins a new generation while a tool stands between its entry guard
and its capture. -/
def overtakes (world : World) : Action → Bool
  | .lifecycle .initializeProvider =>
      decide ((initializeProvider world.provider).healthGeneration ≠
        world.provider.healthGeneration) &&
        world.calls.any fun call => decide (call.point = .capturing)
  | _ => false

structure Call.Settled (provider : State) (call : Call) : Prop where
  capturing : call.point = .capturing → call.generation = provider.healthGeneration
  captured : ∀ captured, call.point.captured = some captured → captured = call.generation

structure Settled (world : World) : Prop where
  formed : WellFormed world.provider
  calls : ∀ call ∈ world.calls, call.Settled world.provider

theorem empty_settled : Settled emptyWorld :=
  ⟨fresh_well_formed, fun _ member => absurd member List.not_mem_nil⟩

theorem Call.Settled.kept {provider following : State} {call : Call}
    (settled : call.Settled provider)
    (generation : call.point = .capturing →
      following.healthGeneration = provider.healthGeneration) : call.Settled following :=
  ⟨fun start => (settled.capturing start).trans (generation start).symm, settled.captured⟩

theorem report_generation (provider : State) (captured : Generation) (reason : HealthReason)
    (fallback : Option Fallback) (error : Option String) :
    (Lifecycle.report provider captured reason fallback error).healthGeneration =
      provider.healthGeneration := by
  unfold Lifecycle.report
  split <;> rfl

theorem Publishes.generation {world following : World} {captured : Generation}
    (publishes : Publishes world following captured) :
    following.provider.healthGeneration = world.provider.healthGeneration := by
  rcases publishes.provider with same | ⟨reason, fallback, error, same⟩
  · rw [same]
  · rw [same, report_generation]

theorem Publishes.formed {world following : World} {captured : Generation}
    (publishes : Publishes world following captured) (formed : WellFormed world.provider) :
    WellFormed following.provider := by
  rcases publishes.provider with same | ⟨reason, fallback, error, same⟩
  · rw [same]
    exact formed
  · have moves : Lifecycle.Moves world.provider (.report captured reason fallback error)
        (Lifecycle.report world.provider captured reason fallback error) :=
      Lifecycle.step_moves rfl
    rw [same]
    exact moves_well_formed formed moves

theorem advances_settled {world following : World} {call moved : Call}
    (settled : call.Settled world.provider) (advances : Advances world call following moved) :
    moved.Settled following.provider := by
  cases advances with
  | reads guard remaining point start next =>
      rcases next with rfl | rfl <;> exact ⟨nofun, nofun⟩
  | passes guard start => exact ⟨fun _ => rfl, nofun⟩
  | captures start identityReady =>
      refine ⟨nofun, fun captured same => ?_⟩
      obtain rfl := Option.some.inj same
      exact (settled.capturing start).symm
  | publishes following captured point start publishes next =>
      have own := settled.captured captured start
      rcases next with rfl | next
      · exact ⟨nofun, nofun⟩
      · refine ⟨fun capturing => ?_, fun other same => ?_⟩
        · obtain rfl : point = .capturing := capturing
          cases next
        · exact (Option.some.inj (same.symm.trans next)).trans own

theorem advances_provider {world following : World} {call moved : Call}
    (formed : WellFormed world.provider) (advances : Advances world call following moved) :
    WellFormed following.provider ∧
      following.provider.healthGeneration = world.provider.healthGeneration := by
  cases advances with
  | reads | passes | captures => exact ⟨formed, rfl⟩
  | publishes following captured point start publishes next =>
      exact ⟨publishes.formed formed, publishes.generation⟩

theorem advance_cases {world following : World} {index : Nat} {outcome : Outcome}
    (taken : advance world index outcome = some following) :
    ∃ call moved, ∃ left : World, world.calls[index]? = some call ∧
      Advances world call left moved ∧
      following = { left with calls := world.calls.set index moved } := by
  unfold advance at taken
  split at taken
  · cases taken
  · rename_i call found
    obtain ⟨_, taken⟩ := Option.ite_none_left_eq_some.mp taken
    obtain ⟨⟨left, moved⟩, next, rfl⟩ := Option.map_eq_some_iff.mp taken
    exact ⟨call, moved, left, found, next_advances next, rfl⟩

theorem lifecycle_cases {world following : World} {action : Lifecycle.Action}
    (taken : lifecycle world action = some following) :
    ∃ provider, Lifecycle.Moves world.provider action provider ∧
      following = { world with provider := provider } := by
  unfold lifecycle at taken
  split at taken
  · cases taken
  · obtain ⟨provider, runs, rfl⟩ := Option.map_eq_some_iff.mp taken
    exact ⟨provider, Lifecycle.step_moves runs, rfl⟩

theorem Settled.started {world following : World} {call : Call} (settled : Settled world)
    (provider : following.provider = world.provider)
    (calls : following.calls = world.calls ++ [call]) (own : call.Settled world.provider) :
    Settled following := by
  refine ⟨by rw [provider]; exact settled.formed, ?_⟩
  intro other member
  rw [calls, List.mem_append, List.mem_singleton] at member
  rw [provider]
  rcases member with before | rfl
  · exact settled.calls other before
  · exact own

theorem Settled.same {world following : World} (settled : Settled world)
    (provider : following.provider = world.provider) (calls : following.calls = world.calls) :
    Settled following := by
  refine ⟨by rw [provider]; exact settled.formed, ?_⟩
  rw [calls, provider]
  exact settled.calls

theorem lifecycle_settled {world following : World} {action : Lifecycle.Action}
    (settled : Settled world) (kept : overtakes world (.lifecycle action) = false)
    (taken : lifecycle world action = some following) : Settled following := by
  obtain ⟨provider, moves, rfl⟩ := lifecycle_cases taken
  refine ⟨moves_well_formed settled.formed moves, fun call member => ?_⟩
  refine (settled.calls call member).kept fun capturing => ?_
  cases moves with
  | admitted quiet queue clear =>
      simp only [overtakes, initializeProvider, quiet, queue, clear] at kept
      have waits : world.calls.any (fun call => decide (call.point = .capturing)) = true :=
        List.any_eq_true.mpr ⟨call, member, by simp [capturing]⟩
      simp [waits] at kept
  | _ => rfl

/-- The worker of a generation runs only while that generation is the current one. -/
theorem alive_current {provider : State} (formed : WellFormed provider) {generation : Generation}
    (alive : provider.alive (.sync generation) = true) :
    generation = provider.healthGeneration := by
  have current := (formed.threads.current formed.ownership alive).1
  have latest := formed.ownership.shared.queue.resolve_left (by rw [current]; exact nofun)
  exact Option.some.inj (current.symm.trans latest)

theorem step_settled {world following : World} {action : Action} (settled : Settled world)
    (kept : overtakes world action = false) (taken : step world action = some following) :
    Settled following := by
  cases action with
  | lifecycle action => exact lifecycle_settled settled kept taken
  | assignWriteEnabled value =>
      obtain ⟨_, taken⟩ := Option.ite_none_left_eq_some.mp taken
      obtain rfl := Option.some.inj taken
      exact settled.same rfl rfl
  | handleToolCall tool =>
      obtain rfl := Option.some.inj taken
      exact settled.started rfl rfl ⟨nofun, nofun⟩
  | prefetch =>
      obtain rfl := Option.some.inj taken
      unfold prefetch
      dsimp only
      split
      · exact settled.started rfl rfl ⟨nofun, fun _ same => (Option.some.inj same).symm⟩
      · exact settled
  | syncTurn autoExtraction put =>
      obtain rfl := Option.some.inj taken
      unfold syncTurn
      dsimp only
      split
      · exact settled
      · split
        · split
          · exact settled.same rfl rfl
          · exact settled
        · split <;> exact settled.same rfl rfl
  | startTurn generation =>
      obtain ⟨ready, taken⟩ := Option.ite_none_right_eq_some.mp taken
      obtain rfl := Option.some.inj taken
      have current := alive_current settled.formed ready.1
      exact settled.started rfl rfl
        ⟨nofun, fun _ same => (Option.some.inj same).symm.trans current.symm⟩
  | advance index outcome =>
      obtain ⟨call, moved, left, found, advances, rfl⟩ := advance_cases taken
      have member := List.mem_of_getElem? found
      have ⟨formed, generation⟩ := advances_provider settled.formed advances
      refine ⟨formed, fun other held => ?_⟩
      rcases List.mem_or_eq_of_mem_set held with before | rfl
      · exact (settled.calls other before).kept fun _ => generation
      · have own := advances_settled (settled.calls call member) advances
        exact own

theorem reachable_settled {world : World}
    (reached : Reaches step (fun world action => overtakes world action = false) emptyWorld
      world) : Settled world :=
  reached.invariant Settled empty_settled
    fun _ _ _ settled kept taken => step_settled settled kept taken

/-! ## Late publications -/

/-- The generation in which the acting operation passed its guard or its turn was
admitted. -/
def operates (world : World) : Action → Option Generation
  | .advance index _ =>
      world.calls[index]?.bind fun call =>
        match call.point with
        | .guarding _ => none
        | _ => some call.generation
  | .startTurn generation => some generation
  | .syncTurn _ _ => some world.provider.healthGeneration
  | _ => none

/-- The action is a step of an operation, not of the lifecycle. -/
def operation : Action → Bool
  | .lifecycle _ | .assignWriteEnabled _ => false
  | _ => true

/-- The statements of `initialize`. -/
def initializes : Lifecycle.Action → Bool
  | .initializeProvider | .advance | .announce _ _ _ => true
  | _ => false

theorem report_health {provider : State} {captured : Generation} (reason : HealthReason)
    (fallback : Option Fallback) (error : Option String)
    (late : captured ≠ provider.healthGeneration ∨ provider.health.state.closing = true) :
    (Lifecycle.report provider captured reason fallback error).health = provider.health := by
  unfold Lifecycle.report
  rw [if_neg]
  rintro ⟨current, _, working⟩
  rcases late with other | closing
  · exact other current
  · rw [working] at closing
    cases closing

theorem Publishes.health {world following : World} {captured : Generation}
    (publishes : Publishes world following captured)
    (late : captured ≠ world.provider.healthGeneration ∨
      world.provider.health.state.closing = true) :
    following.provider.health = world.provider.health := by
  rcases publishes.provider with same | ⟨reason, fallback, error, same⟩
  · rw [same]
  · rw [same]
    exact report_health reason fallback error late

theorem sync_turn_publishes (world : World) (autoExtraction : Bool) (put : Put) :
    (syncTurn world autoExtraction put).provider = world.provider ∧
      ∀ newer, world.provider.healthGeneration < newer →
        (syncTurn world autoExtraction put).ledgers newer = world.ledgers newer := by
  have booked (change : OutcomeLedger → OutcomeLedger) (newer : Generation)
      (later : world.provider.healthGeneration < newer) :
      (world.book world.provider.healthGeneration change).ledgers newer = world.ledgers newer :=
    (book_publishes world _ change).ledgers newer (Nat.ne_of_gt later)
  unfold syncTurn
  dsimp only
  split
  · exact ⟨rfl, fun _ _ => rfl⟩
  · split
    · split
      · exact ⟨rfl, booked _⟩
      · exact ⟨rfl, fun _ _ => rfl⟩
    · split
      · exact ⟨rfl, booked .admitWork⟩
      · exact ⟨rfl, booked fun ledger => ledger.dropPending.admitWork⟩
      · exact ⟨rfl, booked .reject⟩
      · exact ⟨rfl, booked fun ledger => ledger.dropPending.reject⟩

/-- A step of an operation writes to the ledger and the health of its own generation
only. -/
theorem operation_keeps_newer {world following : World} {action : Action}
    {generation : Generation} (settled : Settled world)
    (operates : operates world action = some generation)
    (taken : step world action = some following) :
    (∀ newer, generation < newer → following.ledgers newer = world.ledgers newer) ∧
      (generation < world.provider.healthGeneration →
        following.provider.health = world.provider.health) := by
  cases action with
  | lifecycle | assignWriteEnabled | handleToolCall | prefetch => cases operates
  | syncTurn autoExtraction put =>
      obtain rfl := Option.some.inj operates
      obtain rfl := Option.some.inj taken
      exact ⟨(sync_turn_publishes world autoExtraction put).2,
        fun older => absurd older (Nat.lt_irrefl _)⟩
  | startTurn started =>
      obtain rfl := Option.some.inj operates
      obtain ⟨ready, taken⟩ := Option.ite_none_right_eq_some.mp taken
      obtain rfl := Option.some.inj taken
      have current := alive_current settled.formed ready.1
      refine ⟨fun newer later => ?_, fun _ => rfl⟩
      rw [current] at later
      exact (book_publishes world _ .start).ledgers newer (Nat.ne_of_gt later)
  | advance index outcome =>
      obtain ⟨call, moved, left, found, advances, rfl⟩ := advance_cases taken
      have own := settled.calls call (List.mem_of_getElem? found)
      cases advances with
      | reads | passes | captures => exact ⟨fun _ _ => rfl, fun _ => rfl⟩
      | publishes _ captured point start publishes next =>
          have passed : call.generation = generation := by
            simp only [LateOperations.operates, found, Option.bind_some] at operates
            split at operates
            · cases operates
            · exact Option.some.inj operates
          have same : captured = generation := (own.captured captured start).trans passed
          subst same
          exact ⟨fun newer later => publishes.ledgers newer (Nat.ne_of_gt later),
            fun older => publishes.health (.inl (Nat.ne_of_lt older))⟩

/-- No operation changes the health of a provider that stops or has stopped. -/
theorem operation_keeps_closing {world following : World} {action : Action}
    (operates : operation action = true) (taken : step world action = some following)
    (closing : world.provider.health.state.closing = true) :
    following.provider.health = world.provider.health := by
  cases action with
  | lifecycle | assignWriteEnabled => cases operates
  | handleToolCall tool =>
      obtain rfl := Option.some.inj taken
      rfl
  | prefetch =>
      obtain rfl := Option.some.inj taken
      unfold prefetch
      dsimp only
      split <;> rfl
  | syncTurn autoExtraction put =>
      obtain rfl := Option.some.inj taken
      rw [(sync_turn_publishes world autoExtraction put).1]
  | startTurn generation =>
      obtain ⟨_, taken⟩ := Option.ite_none_right_eq_some.mp taken
      obtain rfl := Option.some.inj taken
      rfl
  | advance index outcome =>
      obtain ⟨call, moved, left, found, advances, rfl⟩ := advance_cases taken
      cases advances with
      | reads | passes | captures => rfl
      | publishes _ captured point start publishes next =>
          exact publishes.health (.inr closing)

theorem Finishes.closing {provider : State} {supervisor : Option Generation} {markStopped : Bool}
    {writes : CloseWrites} (finishes : Finishes provider supervisor markStopped writes)
    (closing : provider.health.state.closing = true) :
    writes.health.state.closing = true := by
  cases finishes with
  | stale | kept => exact closing
  | released same queue =>
      dsimp only
      split
      · rfl
      · exact closing

/-- Only `initialize` takes the health out of `stopping` and `stopped`. -/
theorem lifecycle_keeps_closing {provider following : State} {action : Lifecycle.Action}
    (moves : Lifecycle.Moves provider action following)
    (closing : provider.health.state.closing = true) :
    following.health.state.closing = true ∨ initializes action = true := by
  cases moves with
  | runCallback supervisor markStopped rest writes running finishes =>
      exact .inl (Finishes.closing finishes closing)
  | cleanerClose cleaner queue call writes next ready closes =>
      refine .inl ?_
      cases closes with
      | finish markStopped writes finishes => exact Finishes.closing finishes closing
      | finishNow supervisor markStopped writes finishes =>
          exact Finishes.closing finishes closing
      | callNow | register | close => exact closing
  | report reason fallback error clear working =>
      rw [working] at closing
      cases closing
  | signal | retain | clear => exact .inl rfl
  | _ => first
    | exact .inr rfl
    | exact .inl closing

/-- In every run in which no generation begins between the entry guard of a tool and
its capture, an operation of one generation changes neither a ledger nor the health of
a newer one. No operation changes the health once the provider stops, and only
`initialize` takes it out of the two closing states. -/
theorem late_operations_keep_newer {world : World}
    (reached : Reaches step (fun world action => overtakes world action = false) emptyWorld
      world) (action : Action) (following : World) (taken : step world action = some following) :
    (∀ generation, operates world action = some generation →
      (∀ newer, generation < newer → following.ledgers newer = world.ledgers newer) ∧
        (generation < world.provider.healthGeneration →
          following.provider.health = world.provider.health)) ∧
    (world.provider.health.state.closing = true → operation action = true →
      following.provider.health = world.provider.health) ∧
    (world.provider.health.state.closing = true →
      following.provider.health.state.closing = true ∨
        ∃ statement, action = .lifecycle statement ∧ initializes statement = true) := by
  refine ⟨fun generation acts => operation_keeps_newer (reachable_settled reached) acts taken,
    fun closing acts => operation_keeps_closing acts taken closing, fun closing => ?_⟩
  cases action with
  | lifecycle action =>
      obtain ⟨provider, moves, rfl⟩ := lifecycle_cases taken
      exact (lifecycle_keeps_closing moves closing).imp_right fun statement =>
        ⟨action, rfl, statement⟩
  | assignWriteEnabled value =>
      obtain ⟨_, taken⟩ := Option.ite_none_left_eq_some.mp taken
      obtain rfl := Option.some.inj taken
      exact .inl closing
  | handleToolCall | prefetch | syncTurn | startTurn | advance =>
      refine .inl ?_
      rw [operation_keeps_closing rfl taken closing]
      exact closing

/-- A whole `initialize`. -/
def initialized : List Action :=
  List.map Action.lifecycle
    (toAcquired ++ .advance :: toIdentity ++ .identify true :: toReturn)

/-- A whole `shutdown` of the first generation. -/
def shutDown : List Action :=
  List.map Action.lifecycle
    (shutdownCleared 1 ++ List.replicate 5 (.clean 0) ++ closeCallback 1)

def guarded : List Action :=
  .handleToolCall .cashewQuery :: List.replicate 3 (.advance 0 .returns)

def lateFailureSchedule : List Action :=
  initialized ++ guarded ++ [.advance 0 .returns] ++ shutDown ++ initialized ++
    [.advance 0 (.raises "RuntimeError")]

theorem late_failure_keeps_newer :
    ∃ world following : World, world.provider.healthGeneration = 2 ∧
      operates world (.advance 0 .returns) = some 1 ∧
      step world (.advance 0 .returns) = some following ∧
      following.ledgers 2 = world.ledgers 2 ∧
      following.provider.health = world.provider.health := by
  have reached := reaches_of_execute_where step
    (fun world action => overtakes world action = false)
    (fun world action => !overtakes world action) (by simp) emptyWorld lateFailureSchedule rfl
  have kept := (late_operations_keep_newer reached (.advance 0 .returns) _ rfl).1 1 rfl
  exact ⟨_, _, rfl, rfl, rfl, kept.1 2 (by decide), kept.2 (by decide)⟩

def overtakenSchedule : List Action :=
  initialized ++ guarded ++ shutDown ++ initialized ++
    [.advance 0 .returns, .advance 0 (.raises "RuntimeError")]

theorem overtaken_query_books_in_newer :
    ∃ world following : World, Reaches step anyStep emptyWorld world ∧
      world.provider.healthGeneration = 2 ∧
      operates world (.advance 0 .returns) = some 1 ∧
      step world (.advance 0 .returns) = some following ∧
      following.ledgers 2 ≠ world.ledgers 2 ∧
      following.provider.health ≠ world.provider.health := by
  have reached := reaches_of_execute step emptyWorld overtakenSchedule rfl
  exact ⟨_, _, reached, rfl, rfl, rfl, by decide, by decide⟩

end HermesCashew.LateOperations
