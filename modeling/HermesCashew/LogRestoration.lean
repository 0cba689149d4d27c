import HermesCashew.LogBoundary
import HermesCashew.LogLeases
import HermesCashew.LifecycleGenerations
import Mathlib.Algebra.GroupWithZero.Nat
import Mathlib.Algebra.Order.BigOperators.Group.List
import Mathlib.Algebra.Order.Group.Nat

/-!
# The host's logging configuration is given back

Any number of provider objects of one process share the reference count of the log boundary.
Each provider is a lifecycle of its own; a step of it that acquires or releases the boundary
changes the logging state of the process.
-/

namespace HermesCashew.LogRestoration

open HermesCashew.Transition HermesCashew.Lifecycle HermesCashew.LogFilter

set_option autoImplicit false

structure World where
  providers : List State := []
  logging : Logging := {}

inductive WorldAction where
  | create
  | provider (index : Nat) (action : Action)
  deriving DecidableEq, Repr

def scrubEffect (state : State) (action : Action) (logging : Logging) : Logging :=
  if acquires state action then acquireProviderScrubFilters logging
  else if releases state action then releaseProviderScrubFilters logging
  else logging

/-- Between the acquisition and the flag stands only the assignment, which does not raise. -/
def assigning (state : State) : Action → Bool
  | .raise _ _ => state.initializer == some .acquired
  | _ => false

def worldStep (world : World) : WorldAction → Option World
  | .create => some { world with providers := world.providers ++ [fresh] }
  | .provider index action => do
      let state ← world.providers[index]?
      if assigning state action then none
      else
        let following ← Lifecycle.step state action
        some
          { providers := world.providers.set index following
            logging := scrubEffect state action world.logging }

/-- The step keeps the teardowns of its provider apart. -/
def KeepsApart (world : World) : WorldAction → Prop
  | .create => True
  | .provider index action =>
      ∀ state, world.providers[index]? = some state → Apart state action

/-! ## The count -/

theorem sum_set {Item : Type} (weight : Item → Nat) {items : List Item} {index : Nat} {old : Item}
    (found : items[index]? = some old) (new : Item) :
    ((items.set index new).map weight).sum + weight old =
      (items.map weight).sum + weight new := by
  induction items generalizing index with
  | nil => cases found
  | cons item rest ih =>
      cases index with
      | zero =>
          obtain rfl : item = old := by simpa using found
          simp only [List.set_cons_zero, List.map_cons, List.sum_cons]
          omega
      | succ index =>
          have later := ih (show rest[index]? = some old by simpa using found)
          simp only [List.set_cons_succ, List.map_cons, List.sum_cons]
          omega

theorem le_sum {Item : Type} (weight : Item → Nat) {items : List Item} {item : Item}
    (member : item ∈ items) : weight item ≤ (items.map weight).sum :=
  List.single_le_sum (fun _ _ => Nat.zero_le _) _ (List.mem_map_of_mem member)

structure Counted (host : Logging) (world : World) : Prop where
  bounded : Bounded host world.logging
  references : world.logging.scrubRefs = (world.providers.map State.scrubReferences).sum
  ownership : ∀ state ∈ world.providers, Ownership state
  leased : ∀ state ∈ world.providers, Leased state

section

variable {host : Logging} {world following : World}

theorem Counted.create (counted : Counted host world) :
    Counted host { world with providers := world.providers ++ [fresh] } := by
  constructor
  · exact counted.bounded
  · simp only [List.map_append, List.map_cons, List.map_nil, List.sum_append, List.sum_cons,
      List.sum_nil]
    exact counted.references
  · intro state member
    rcases List.mem_append.mp member with old | new
    · exact counted.ownership state old
    · rw [List.mem_singleton.mp new]
      exact fresh_ownership
  · intro state member
    rcases List.mem_append.mp member with old | new
    · exact counted.leased state old
    · rw [List.mem_singleton.mp new]
      exact fresh_leased

theorem Counted.provider (clean : Clean host) (counted : Counted host world) {index : Nat}
    {state after : State} {action : Action} (found : world.providers[index]? = some state)
    (apart : Apart state action) (assigned : assigning state action = false)
    (taken : Lifecycle.step state action = some after) :
    Counted host
      { providers := world.providers.set index after
        logging := scrubEffect state action world.logging } := by
  have member := List.mem_of_getElem? found
  have ownership := counted.ownership state member
  have leased := counted.leased state member
  have members (property : State → Prop) (old : ∀ other ∈ world.providers, property other)
      (new : property after) : ∀ other ∈ world.providers.set index after, property other := by
    intro other held
    rcases List.mem_or_eq_of_mem_set held with kept | rfl
    · exact old other kept
    · exact new
  have weight := le_sum State.scrubReferences member
  have sum := sum_set State.scrubReferences found after
  have references := step_references taken
  have total := counted.references
  have effect : Bounded host (scrubEffect state action world.logging) ∧
      (scrubEffect state action world.logging).scrubRefs =
        ((world.providers.set index after).map State.scrubReferences).sum := by
    unfold scrubEffect
    by_cases acquiring : acquires state action = true
    · rw [if_pos acquiring] at references ⊢
      obtain ⟨bounded, count⟩ := counted.bounded.acquired clean
      exact ⟨bounded, by omega⟩
    · rw [if_neg acquiring] at references ⊢
      by_cases releasing : releases state action = true
      · rw [if_pos releasing] at references ⊢
        have one := leased.releases_one releasing
        obtain ⟨bounded, count⟩ := counted.bounded.released clean
        exact ⟨bounded, by omega⟩
      · rw [if_neg releasing] at references ⊢
        exact ⟨counted.bounded, by omega⟩
  refine ⟨effect.1, effect.2, ?_, ?_⟩
  · exact members _ counted.ownership (moves_ownership ownership (step_moves taken))
  · apply members _ counted.leased
    apply step_leased ownership leased apart _ taken
    rintro acquired reason errorClass rfl
    simp [assigning, acquired] at assigned

theorem step_counted (clean : Clean host) {action : WorldAction} (counted : Counted host world)
    (apart : KeepsApart world action) (taken : worldStep world action = some following) :
    Counted host following := by
  cases action with
  | create =>
      cases taken
      exact counted.create
  | provider index action =>
      obtain ⟨state, found, rest⟩ := Option.bind_eq_some_iff.mp taken
      cases assigned : assigning state action with
      | true => simp [assigned] at rest
      | false =>
          simp only [assigned] at rest
          obtain ⟨after, stepped, same⟩ := Option.bind_eq_some_iff.mp rest
          cases same
          exact counted.provider clean found (apart state found) assigned stepped

theorem start_counted (clean : Clean host) : Counted host { logging := host } := by
  constructor
  · exact clean.bounded
  · exact clean.unreferenced
  · intro state member
    cases member
  · intro state member
    cases member

theorem reachable_counted (clean : Clean host)
    (reached : Reaches worldStep KeepsApart { logging := host } world) : Counted host world := by
  apply Reaches.invariant (Counted host) (start_counted clean) _ reached
  intro state action after counted apart taken
  exact step_counted clean counted apart taken

end

/-! ## What the host gets back -/

structure AtRest (state : State) : Prop where
  initializer : state.initializer = none
  cleaners : ∀ cleaner, state.cleaners cleaner = .idle

/-- The handlers, handler filters and propagate flags are the host's own when everything is at
rest and nothing is live, and the boundary is installed as long as something is. -/
structure GivenBack (host : Logging) (world : World) : Prop where
  restored : (∀ state ∈ world.providers, AtRest state ∧ ¬state.Live) →
    SameConfiguration host world.logging
  installed : (∃ state ∈ world.providers, state.Live) →
    Guards boundaryLoggers host world.logging

theorem AtRest.unreferenced {state : State} (leased : Leased state) (rest : AtRest state)
    (dead : ¬state.Live) : state.scrubReferences = 0 := by
  have unacquired : state.initializer ≠ some .acquired := by
    rw [rest.initializer]
    nofun
  apply leased.free _ unacquired
  by_contra held
  rcases leased.duty held with living | ⟨cleaner, past⟩ | leaving
  · exact dead living
  · rw [rest.cleaners cleaner] at past
    cases past
  · rw [rest.initializer] at leaving
    cases leaving

theorem live_referenced {state : State} (leased : Leased state) (living : state.Live) :
    state.scrubReferences = 1 := by
  obtain ⟨held, quiet⟩ := leased.live living
  apply leased.held held
  intro thread point
  cases thread with
  | none =>
      have phase := living.2
      cases place : state.initializer with
      | none => simp [State.busy, State.scrubPoint, place] at point
      | some at_ =>
          rw [place] at phase
          cases at_ <;> simp_all [State.busy, State.scrubPoint, livePhase]
  | some cleaner =>
      have outside := quiet cleaner
      cases place : state.cleaners cleaner <;>
        simp_all [State.busy, State.scrubPoint, CleanerPoint.past]

/-- As long as the teardowns of each provider keep apart, the host gets its configuration
back. -/
theorem configuration_given_back (host : Logging) (clean : Clean host) (world : World)
    (reached : Reaches worldStep KeepsApart { logging := host } world) :
    GivenBack host world := by
  have counted := reachable_counted clean reached
  constructor
  · intro quiet
    have none_ : (world.providers.map State.scrubReferences).sum = 0 := by
      apply List.sum_eq_zero
      intro weight member
      obtain ⟨state, held, rfl⟩ := List.mem_map.mp member
      exact AtRest.unreferenced (counted.leased state held) (quiet state held).1
        (quiet state held).2
    exact (counted.bounded.off (counted.references.trans none_)).1
  · rintro ⟨state, member, living⟩
    have one := live_referenced (counted.leased state member) living
    have weight := le_sum State.scrubReferences member
    have total := counted.references
    exact (counted.bounded.on (by omega)).1

/-! ## A generation in the window of the teardown -/

/-- `initialize` after its flag is set, up to its return. -/
def fromFlag : List Action :=
  statements 2 ++ [.bind .unavailable, .identify true] ++ toReturn

/-- A generation is shut down; the next one acquires the boundary before the teardown of the
first tests the flag, and is shut down in turn. -/
def windowActions : List Action :=
  toAcquired ++ .advance :: fromFlag ++ shutdownCleared 1 ++ .clean 0 ::
    toAcquired ++ .advance :: List.replicate 3 (.clean 0) ++ fromFlag ++ shutdownCleared 2 ++
    List.replicate 2 (.clean 0)

def windowSchedule : List WorldAction :=
  .create :: windowActions.map (.provider 0)

set_option maxRecDepth 8000 in
/-- The boundary stays on the host's loggers for good. -/
theorem boundary_left_behind :
    ¬∀ world, Reaches worldStep anyStep { logging := {} } world → GivenBack {} world := by
  intro given
  have reached := reaches_of_execute worldStep { logging := {} } windowSchedule rfl
  have same := (given _ reached).restored (by
    intro state member
    cases member with
    | head =>
        refine ⟨⟨rfl, ?_⟩, fun living => living.1 rfl⟩
        exact fun cleaner => match cleaner with | 0 => rfl | _ + 1 => rfl
    | tail _ rest => cases rest)
  have handlers := congrArg (fun loggers => (loggers ([] : Name)).handlers.length) same.loggers
  exact absurd handlers (by decide)

/-! ## One generation with nothing in its way -/

def plainStep (state : State) : Action → Bool
  | .advance => state.initializer != some .acquiring && state.scrubPoint none != some .test
  | .clean cleaner => state.scrubPoint (some cleaner) != some .test
  | _ => true

theorem plain_step_apart {state : State} {action : Action} (plain : plainStep state action = true) :
    Apart state action := by
  constructor
  · rintro rfl acquiring
    simp [plainStep, acquiring] at plain
  · intro thread moves point
    cases thread with
    | none =>
        obtain rfl : action = .advance := moves
        simp [plainStep, point] at plain
    | some cleaner =>
        obtain rfl : action = .clean cleaner := moves
        simp [plainStep, point] at plain

def plainWorldStep (world : World) : WorldAction → Bool
  | .create => true
  | .provider index action => world.providers[index]?.all fun state => plainStep state action

theorem plain_world_step_apart (world : World) (action : WorldAction)
    (plain : plainWorldStep world action = true) : KeepsApart world action := by
  cases action with
  | create => exact trivial
  | provider index action =>
      intro state found
      simp only [plainWorldStep, found, Option.all_some] at plain
      exact plain_step_apart plain

def toAcquisition : List WorldAction :=
  .create :: (.initializeProvider :: statements 2).map (.provider 0)

set_option maxRecDepth 8000 in
theorem live_generation_is_guarded :
    ∃ world : World, (∃ state ∈ world.providers, state.Live) ∧ GivenBack {} world := by
  have before := reaches_of_execute_where worldStep KeepsApart plainWorldStep plain_world_step_apart
    { logging := {} } toAcquisition rfl
  have acquired := Reaches.next before (show KeepsApart _ (.provider 0 .advance) by
    intro state found
    cases found
    exact ⟨fun _ _ _ => rfl, fun _ _ _ held => absurd rfl held⟩) rfl
  have reached := acquired.trans (reaches_of_execute_where worldStep KeepsApart plainWorldStep
    plain_world_step_apart _ ((.advance :: fromFlag).map (.provider 0)) rfl)
  refine ⟨_, ?_, configuration_given_back {} default_clean _ reached⟩
  exact ⟨_, List.mem_singleton.mpr rfl, nofun, rfl⟩

end HermesCashew.LogRestoration
