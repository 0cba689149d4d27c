import HermesCashew.AdmissionContract

/-!
# Nested admission

A call inside an admitted body gets the token of its context or is refused. The token keeps
the request in a normal form: an exclusive request for the cache alone has become a token
whose cache lease is exclusive.
-/

namespace HermesCashew.Admission

open HermesCashew.Transition

set_option autoImplicit false

variable {resolve : Path → Path} {world following : World} {action : Action}

/-! ## Tokens and requests -/

/-- The token was made by `admit_operation`. -/
def Token.Issued (token : Token) : Prop :=
  ∃ graph cache request stack, token = tokenOf graph cache request stack

/-- `exclusive` without a graph. -/
def Request.Folded (request : Request) : Prop :=
  request.graphPath = none ∧ request.exclusive = true

theorem differs_self {α : Type} [DecidableEq α] (argument : Option α) :
    differs argument argument = false := by
  simp [differs]

theorem differs_iff {α : Type} [DecidableEq α] {argument parent : Option α} :
    differs argument parent = false ↔ ∀ value, argument = some value → parent = some value := by
  cases argument with
  | none => simp [differs]
  | some value => simp [differs]

/-- A request against its own token. -/
theorem own_token_error_iff (request : Request) (stack : Nat) :
    nestedError (tokenOf (request.graphPath.map resolve) (request.cachePath.map resolve) request
        stack) (request.graphPath.map resolve) (request.cachePath.map resolve) request = none ↔
      ¬ request.Folded := by
  unfold nestedError Request.Folded tokenOf
  cases request.graphPath <;> cases request.exclusive <;> cases request.cacheExclusive <;>
    simp [differs_self]

/-- What the request states agrees with the parent, and its leases are strong enough. -/
structure Fits (parent : Token) (graph cache : Option Path) (request : Request) : Prop where
  graphPath : parent.graphPath = graph
  cachePath : parent.cachePath = cache
  model : ∀ value, request.model = some value → parent.model = some value
  embeddingDim : ∀ value, request.embeddingDim = some value → parent.embeddingDim = some value
  vecDim : ∀ value, request.vecDim = some value → parent.vecDim = some value
  epoch : ∀ value, request.epoch = some value → parent.epoch = some value
  supervisor : ∀ value, request.supervisor = some value → parent.supervisor = some value
  embeddingGeneration : ∀ value, request.embeddingGeneration = some value →
    parent.embeddingGeneration = some value
  leases : ∀ path exclusive, (path, exclusive) ∈ resources graph cache request →
    ∃ held, (path, held) ∈ parent.resources ∧ (exclusive = true → held = true)

theorem checked_iff {refused : Prop} [Decidable refused] {text : String}
    {rest : Option String} :
    (if refused then some text else rest) = none ↔ ¬ refused ∧ rest = none := by
  split <;> simp_all

theorem fits_of_granted {parent : Token} {graph cache : Option Path} {request : Request}
    (issued : parent.Issued) (granted : nestedError parent graph cache request = none) :
    Fits parent graph cache request := by
  simp only [nestedError, checked_iff, not_or, not_not, Bool.not_eq_true, differs_iff] at granted
  obtain ⟨⟨graphPath, cachePath⟩, model, embeddingDim, vecDim, epoch, supervisor, generation,
    cacheUpgrade, graphUpgrade, -⟩ := granted
  refine ⟨graphPath, cachePath, model, embeddingDim, vecDim, epoch, supervisor, generation, ?_⟩
  have strong (asked held : Bool) (kept : (asked && !held) = false) (exclusive : asked = true) :
      held = true := by
    cases held with
    | true => rfl
    | false => simp [exclusive] at kept
  have cacheStrong := strong _ _ cacheUpgrade
  have graphStrong := strong _ _ graphUpgrade
  intro path exclusive member
  rw [Token.resources, graphPath, cachePath]
  cases graph with
  | some graph =>
      rcases List.mem_cons.mp member with same | inside
      · cases same
        exact ⟨parent.exclusive, List.mem_cons_self, graphStrong⟩
      · obtain ⟨other, there, same⟩ := List.mem_map.mp inside
        cases same
        exact ⟨parent.cacheExclusive,
          List.mem_cons_of_mem _ (List.mem_map_of_mem there), cacheStrong⟩
  | none =>
      obtain ⟨other, there, same⟩ := List.mem_map.mp member
      cases same
      refine ⟨parent.cacheExclusive, List.mem_map_of_mem there, fun asked => ?_⟩
      rcases Bool.or_eq_true_iff.mp asked with onCache | folded
      · exact cacheStrong onCache
      · obtain ⟨graph, cache, origin, stack, rfl⟩ := issued
        have absent : graph = none := graphPath
        have upgraded := graphStrong folded
        simp [tokenOf, absent] at upgraded

/-! ## Where tokens come from -/

/-- The tokens that a context may find, innermost first. -/
def Caller.tokens (record : Caller) : List Token :=
  record.frames.filterMap (fun
    | .admitted token _ | .installed token _ => some token
    | .nested | .transferring _ => none) ++ record.inherited.toList

theorem current_of_mem {inherited : Option Token} {frames : List Frame} {token : Token}
    (current : currentOf inherited frames = some token) :
    token ∈ frames.filterMap (fun
      | .admitted token _ | .installed token _ => some token
      | .nested | .transferring _ => none) ++ inherited.toList := by
  induction frames with
  | nil => simpa [currentOf] using current
  | cons frame rest induction =>
      cases frame with
      | admitted other saved | installed other saved =>
          have same : other = token := Option.some.inj current
          simp [same]
      | nested => exact induction current
      | transferring stack => exact induction current

/-- Only tokens of `admit_operation` are installed. -/
def InstallsIssued (_ : World) (action : Action) : Prop :=
  ∀ caller token, action = .install caller token → token.Issued

def AllIssued (world : World) : Prop :=
  ∀ caller, ∀ token ∈ (world.callers caller).tokens, token.Issued

theorem issued_of_update (caller : Nat) (record : Caller) (issued : AllIssued world)
    (callers : following.callers = Function.update world.callers caller record)
    (new : ∀ token ∈ record.tokens, token ∈ (world.callers caller).tokens ∨ token.Issued) :
    AllIssued following := by
  intro other token member
  rw [callers] at member
  by_cases same : other = caller
  · subst same
    rw [Function.update_self] at member
    exact (new token member).elim (issued other token) id
  · rw [Function.update_of_ne same] at member
    exact issued other token member

theorem moves_issued (contexts : ∀ caller, Context (world.callers caller))
    (issued : AllIssued world) (installs : InstallsIssued world action)
    (moves : Moves resolve world action following) : AllIssued following := by
  cases moves with
  | ignored => exact issued
  | nests caller request ready
  | attempts _ caller request ready
  | abandons caller raises request stack remaining retry ready
  | locks caller raises request stack path exclusive rest ready free
  | proceeds caller stack retry ready empty
  | tests caller expired request ready =>
      exact issued_of_update caller _ issued rfl fun token member => .inl member
  | publishes caller raises request stack token ready made =>
      refine issued_of_update caller _ issued rfl fun other member => ?_
      rcases List.mem_cons.mp member with rfl | inside
      · exact .inr ⟨_, _, _, _, made⟩
      · exact .inl inside
  | releases stack lease closing top => exact issued
  | leavesTransferred caller raising token saved rest ready frames transferred
  | leavesInstalled caller raising token saved rest ready frames =>
      refine issued_of_update caller _ issued rfl fun other member => .inl ?_
      rw [Caller.tokens, frames]
      exact List.mem_cons_of_mem _ member
  | leavesOwned caller raising token saved rest ready frames kept =>
      rw [AllIssued, ← close_owner_callers world token.leaseOwner] at issued
      refine issued_of_update caller _ issued rfl fun other member => .inl ?_
      rw [close_owner_callers, Caller.tokens, frames]
      exact List.mem_cons_of_mem _ member
  | leavesNested caller raising rest ready frames
  | leavesTransfer caller raising _ rest ready frames =>
      refine issued_of_update caller _ issued rfl fun other member => .inl ?_
      rw [Caller.tokens, frames]
      exact member
  | closesTransfer caller stack rest ready frames opened =>
      rw [AllIssued, ← close_owner_callers world stack] at issued
      refine issued_of_update caller _ issued rfl fun other member => .inl ?_
      rw [close_owner_callers, Caller.tokens, frames]
      exact member
  | transfers caller stack managed frame ready member inside opened kept =>
      refine issued_of_update caller _ issued rfl fun other found => .inl ?_
      cases managed <;> exact found
  | installs caller token ready =>
      refine issued_of_update caller _ issued rfl fun other member => ?_
      rcases List.mem_cons.mp member with rfl | inside
      · exact .inr (installs caller other rfl)
      · exact .inl inside
  | copies caller source ready outermost =>
      refine issued_of_update caller _ issued rfl fun other member => .inr ?_
      simp only [Caller.tokens, outermost, List.filterMap_nil, List.nil_append,
        Option.mem_toList] at member
      rw [(contexts source).current] at member
      exact issued source other (current_of_mem member)
  | closes stack transferred opened =>
      rw [AllIssued, close_owner_callers]
      exact issued

/-! ## Which requests are in the loop -/

def Point.request : Point → Option Request
  | .running => none
  | .locking request _ _ | .checking request | .sleeping request => some request
  | .releasing _ retry => retry

def Checked (resolve : Path → Path) (world : World) : Prop :=
  ∀ caller request, (world.callers caller).point.request = some request →
    pathError (request.graphPath.map resolve) (request.cachePath.map resolve) = none

theorem checked_of_update (caller : Nat) (record : Caller) (checked : Checked resolve world)
    (callers : following.callers = Function.update world.callers caller record)
    (new : ∀ request, record.point.request = some request →
      (world.callers caller).point.request = some request ∨
        pathError (request.graphPath.map resolve) (request.cachePath.map resolve) = none) :
    Checked resolve following := by
  intro other request found
  rw [callers] at found
  by_cases same : other = caller
  · subst same
    rw [Function.update_self] at found
    exact (new request found).elim (checked other request) id
  · rw [Function.update_of_ne same] at found
    exact checked other request found

theorem admit_checked {caller : Nat} {request : Request} (checked : Checked resolve world)
    (taken : admitOperation resolve world caller request = some following) :
    Checked resolve following := by
  simp only [admitOperation] at taken
  obtain ⟨ready, taken⟩ := Option.ite_none_left_eq_some.mp taken
  split at taken
  · obtain rfl := Option.some.inj taken
    exact checked
  · rename_i passed
    split at taken
    · split at taken
      · obtain rfl := Option.some.inj taken
        exact checked
      · obtain rfl := Option.some.inj taken
        exact checked_of_update caller _ checked rfl fun other found => .inl found
    · obtain rfl := Option.some.inj taken
      refine checked_of_update caller _ checked rfl fun other found => .inr ?_
      obtain rfl := Option.some.inj found
      simpa using passed

/-- Leaving a block puts no request into the loop. -/
theorem exit_quiet {caller : Nat} {raising : Bool}
    (taken : exit world caller raising = some following) :
    ∃ record, following.callers = Function.update world.callers caller record ∧
      record.point.request = none := by
  simp only [exit] at taken
  obtain ⟨ready, taken⟩ := Option.ite_none_left_eq_some.mp taken
  have running : (world.callers caller).point.request = none := by
    rw [not_not.mp ready, Point.request]
  have owner (stack : Nat) (record : Caller) :
      ((closeOwner world stack).setCaller caller record).callers =
        Function.update world.callers caller record := by
    rw [← close_owner_callers world stack]
    rfl
  split at taken
  · cases taken
  · split at taken
    · obtain rfl := Option.some.inj taken
      exact ⟨_, rfl, running⟩
    · obtain rfl := Option.some.inj taken
      exact ⟨_, owner _ _, rfl⟩
  · obtain rfl := Option.some.inj taken
    exact ⟨_, rfl, running⟩
  · obtain rfl := Option.some.inj taken
    exact ⟨_, rfl, running⟩
  · split at taken
    · obtain rfl := Option.some.inj taken
      exact ⟨_, owner _ _, rfl⟩
    · obtain rfl := Option.some.inj taken
      exact ⟨_, rfl, running⟩

theorem step_checked (checked : Checked resolve world)
    (taken : step resolve world action = some following) : Checked resolve following := by
  cases action with
  | admitOperation caller request => exact admit_checked checked taken
  | lock caller raises =>
      simp only [step, lock] at taken
      split at taken
      · rename_i request stack remaining ready
        have stays (retry : Option Request) (kept : retry = none ∨ retry = some request) :
            Checked resolve (abandon world caller stack retry) := by
          refine checked_of_update caller _ checked rfl fun other found => .inl ?_
          rw [ready]
          rcases kept with rfl | rfl
          · cases found
          · exact found
        split at taken
        · obtain rfl := Option.some.inj taken
          exact stays none (.inl rfl)
        · split at taken
          · split at taken
            · obtain rfl := Option.some.inj taken
              exact stays (some request) (.inr rfl)
            · obtain rfl := Option.some.inj taken
              refine checked_of_update caller _ checked rfl fun other found => .inl ?_
              rw [ready]
              exact found
          · obtain rfl := Option.some.inj taken
            refine checked_of_update caller _ checked rfl fun other found => ?_
            cases found
      · cases taken
  | release stack =>
      obtain ⟨closing, taken⟩ := Option.ite_none_right_eq_some.mp taken
      split at taken
      · cases taken
      · obtain rfl := Option.some.inj taken
        exact checked
  | proceed caller =>
      simp only [step, proceed] at taken
      split at taken
      · rename_i stack retry ready
        obtain ⟨empty, taken⟩ := Option.ite_none_right_eq_some.mp taken
        obtain rfl := Option.some.inj taken
        refine checked_of_update caller _ checked rfl fun other found => .inl ?_
        rw [ready]
        cases retry with
        | none => cases found
        | some request => exact found
      · cases taken
  | testDeadline caller expired =>
      simp only [step, testDeadline] at taken
      split at taken
      · rename_i request ready
        obtain rfl := Option.some.inj taken
        refine checked_of_update caller _ checked rfl fun other found => .inl ?_
        rw [ready]
        cases expired with
        | true => cases found
        | false => exact found
      · cases taken
  | wake caller =>
      simp only [step, wake] at taken
      split at taken
      · rename_i request ready
        obtain rfl := Option.some.inj taken
        refine checked_of_update caller _ checked rfl fun other found => .inl ?_
        rw [ready]
        exact found
      · cases taken
  | exit caller raising =>
      obtain ⟨record, callers, quiet⟩ := exit_quiet taken
      refine checked_of_update caller record checked callers fun other found => ?_
      rw [quiet] at found
      cases found
  | transfer caller stack managed =>
      simp only [step, transfer] at taken
      obtain ⟨inside, taken⟩ := Option.ite_none_left_eq_some.mp taken
      split at taken
      · obtain rfl := Option.some.inj taken
        exact checked
      · obtain rfl := Option.some.inj taken
        exact checked_of_update caller _ checked rfl fun other found => .inl found
  | install caller token =>
      obtain ⟨ready, taken⟩ := Option.ite_none_left_eq_some.mp taken
      obtain rfl := Option.some.inj taken
      exact checked_of_update caller _ checked rfl fun other found => .inl found
  | copyContext caller source =>
      obtain ⟨ready, taken⟩ := Option.ite_none_right_eq_some.mp taken
      obtain rfl := Option.some.inj taken
      exact checked_of_update caller _ checked rfl fun other found => .inl found
  | close stack =>
      obtain ⟨transferred, taken⟩ := Option.ite_none_right_eq_some.mp taken
      obtain rfl := Option.some.inj taken
      rw [Checked, close_owner_callers]
      exact checked

/-! ## Nested calls -/

theorem reachable_issued (reached : Reaches (step resolve) InstallsIssued emptyWorld world) :
    AllIssued world := by
  refine reached.invariant_with (WellFormed resolve) AllIssued
    (fun state before => reachable_well_formed before.weaken) ?_ ?_
  · intro caller token member
    cases member
  · intro state action next formed issued installs taken
    exact moves_issued formed.contexts issued installs (step_moves taken)

theorem reachable_checked (reached : Reaches (step resolve) anyStep emptyWorld world) :
    Checked resolve world := by
  refine reached.invariant (Checked resolve) ?_ ?_
  · intro caller request found
    cases found
  · intro state action next checked _ taken
    exact step_checked checked taken

/-- The call yields the token of its context and takes no lock. -/
structure Reenters (world following : World) (caller : Nat) : Prop where
  inside : (following.callers caller).frames = .nested :: (world.callers caller).frames
  running : (following.callers caller).point = .running
  current : (following.callers caller).current = (world.callers caller).current
  leases : following.leases = world.leases
  acquired : following.acquired = world.acquired
  created : following.created = world.created

/-- A call under a token is granted or leaves everything as it is. -/
theorem reenters_iff {caller : Nat} {request : Request} {parent : Token}
    (current : (world.callers caller).current = some parent)
    (passed : pathError (request.graphPath.map resolve) (request.cachePath.map resolve) = none)
    (taken : step resolve world (.admitOperation caller request) = some following) :
    Reenters world following caller ↔
      nestedError parent (request.graphPath.map resolve) (request.cachePath.map resolve)
        request = none := by
  simp only [step, admitOperation, passed, current, Option.isSome_none, Bool.false_eq_true,
    if_false] at taken
  obtain ⟨ready, taken⟩ := Option.ite_none_left_eq_some.mp taken
  cases refused : nestedError parent (request.graphPath.map resolve)
      (request.cachePath.map resolve) request with
  | some text =>
      simp only [refused, Option.isSome_some, if_true] at taken
      obtain rfl := Option.some.inj taken
      refine iff_of_false (fun reenters => ?_) (by simp)
      exact List.cons_ne_self _ _ reenters.inside.symm
  | none =>
      simp only [refused, Option.isSome_none, Bool.false_eq_true, if_false] at taken
      obtain rfl := Option.some.inj taken
      refine iff_of_true ?_ rfl
      constructor
      all_goals simp [World.setCaller, current, not_not.mp ready]

theorem granted_passes {caller : Nat} {request : Request}
    (taken : step resolve world (.admitOperation caller request) = some following)
    (reenters : Reenters world following caller) :
    pathError (request.graphPath.map resolve) (request.cachePath.map resolve) = none := by
  cases refused : pathError (request.graphPath.map resolve) (request.cachePath.map resolve) with
  | none => rfl
  | some text =>
      simp only [step, admitOperation, refused, Option.isSome_some, if_true] at taken
      obtain ⟨ready, taken⟩ := Option.ite_none_left_eq_some.mp taken
      obtain rfl := Option.some.inj taken
      exact absurd reenters.inside.symm (List.cons_ne_self _ _)

/-- The parent's leases are in the lock table, as strong as they are asked for. -/
def HoldsLeases (resolve : Path → Path) (world : World) (parent : Token) (request : Request) :
    Prop :=
  ∀ holder saved, .admitted parent saved ∈ (world.callers holder).frames →
    (world.exitStacks parent.leaseOwner).closed = false →
    ∀ path exclusive, (path, exclusive) ∈ resources (request.graphPath.map resolve)
      (request.cachePath.map resolve) request →
    ∃ lease ∈ world.leases, lease.path = path ∧ (exclusive = true → lease.exclusive = true)

theorem holds_leases_of_fits (formed : WellFormed resolve world) {parent : Token}
    {request : Request}
    (fits : Fits parent (request.graphPath.map resolve) (request.cachePath.map resolve) request) :
    HoldsLeases resolve world parent request := by
  intro holder saved member opened path exclusive asked
  obtain ⟨held, there, strong⟩ := fits.leases path exclusive asked
  rw [← formed.acquires.admitted holder parent saved member opened, World.entered,
    List.mem_reverse] at there
  obtain ⟨lease, inside, same⟩ := List.mem_map.mp there
  obtain ⟨path_eq, exclusive_eq⟩ := Prod.mk.inj same
  refine ⟨lease, (List.mem_filter.mp inside).1, path_eq, fun wanted => ?_⟩
  exact exclusive_eq.trans (strong wanted)

/-- The call gets its token. -/
theorem published_token {caller stack : Nat} {request : Request} {published : World}
    (ready : (world.callers caller).point = .locking request stack [])
    (taken : step resolve world (.lock caller false) = some published) :
    (published.callers caller).current = some (tokenOf (request.graphPath.map resolve)
      (request.cachePath.map resolve) request stack) := by
  simp only [step, lock, ready, Bool.false_eq_true, if_false] at taken
  obtain rfl := Option.some.inj taken
  simp [World.setCaller]

/-- A request is granted again under its own token exactly when it does not ask for the
cache alone with `exclusive`. Whatever is granted fits its parent. -/
theorem nested_admission_iff
    (reached : Reaches (step resolve) InstallsIssued emptyWorld world) :
    (∀ caller request stack published later other following,
      (world.callers caller).point = .locking request stack [] →
      step resolve world (.lock caller false) = some published →
      Reaches (step resolve) anyStep published later →
      (later.callers other).current = (published.callers caller).current →
      step resolve later (.admitOperation other request) = some following →
      (Reenters later following other ↔
        ¬ (request.graphPath = none ∧ request.exclusive = true))) ∧
    (∀ caller parent request following, (world.callers caller).current = some parent →
      step resolve world (.admitOperation caller request) = some following →
      Reenters world following caller →
      Fits parent (request.graphPath.map resolve) (request.cachePath.map resolve) request ∧
        HoldsLeases resolve world parent request) := by
  have formed : WellFormed resolve world := reachable_well_formed reached.weaken
  constructor
  · intro caller request stack published later other following ready locked run same taken
    have passed :
        pathError (request.graphPath.map resolve) (request.cachePath.map resolve) = none :=
      reachable_checked reached.weaken caller request (by rw [ready, Point.request])
    have current := same.trans (published_token ready locked)
    rw [reenters_iff current passed taken]
    exact own_token_error_iff request stack
  · intro caller parent request following current taken reenters
    have granted := (reenters_iff current (granted_passes taken reenters) taken).mp reenters
    have issued : parent.Issued := by
      refine reachable_issued reached caller parent (current_of_mem ?_)
      exact (formed.contexts caller).current.symm.trans current
    have fits := fits_of_granted issued granted
    exact ⟨fits, holds_leases_of_fits formed fits⟩

def cacheOnly : Request :=
  { cachePath := some "cache", exclusive := true }

def wholeStore : Request :=
  { graphPath := some "brain.db", cachePath := some "cache", exclusive := true }

def aboutToEnter (request : Request) (locks : Nat) : List Action :=
  .admitOperation 0 request :: List.replicate locks (.lock 0 false)

def noInstall (_ : World) : Action → Bool
  | .install _ _ => false
  | _ => true

/-- The caller gets its token and asks again. -/
theorem asks_again {request : Request} {locks : Nat}
    (ran : (executeWhere noInstall (step id) emptyWorld (aboutToEnter request locks)).map
      (fun world => (world.callers 0).point) = some (.locking request 0 [])) :
    ∃ world published following, Reaches (step id) InstallsIssued emptyWorld world ∧
      (world.callers 0).point = .locking request 0 [] ∧
      step id world (.lock 0 false) = some published ∧
      step id published (.admitOperation 0 request) = some following := by
  obtain ⟨world, executed, ready⟩ := Option.map_eq_some_iff.mp ran
  have reached : Reaches (step id) InstallsIssued emptyWorld world := by
    refine reaches_of_execute_where (step id) InstallsIssued noInstall ?_ emptyWorld _ executed
    rintro state action permitted caller token rfl
    cases permitted
  have published : ∃ published, step id world (.lock 0 false) = some published ∧
      (published.callers 0).point = .running := by
    simp [step, lock, ready, World.setCaller]
  obtain ⟨published, locked, running⟩ := published
  have again : ∃ following, step id published (.admitOperation 0 request) = some following := by
    simp only [step, admitOperation, running, ne_eq, not_true_eq_false, if_false]
    split
    · exact ⟨_, rfl⟩
    · split
      · split
        · exact ⟨_, rfl⟩
        · exact ⟨_, rfl⟩
      · exact ⟨_, rfl⟩
  obtain ⟨following, taken⟩ := again
  exact ⟨world, published, following, reached, ready, locked, taken⟩

theorem whole_store_reenters :
    ∃ published following, step id published (.admitOperation 0 wholeStore) = some following ∧
      (published.callers 0).current = some (tokenOf (some "brain.db") (some "cache") wholeStore 0) ∧
      Reenters published following 0 ∧
      Fits (tokenOf (some "brain.db") (some "cache") wholeStore 0) (some "brain.db") (some "cache")
        wholeStore := by
  have ran : (executeWhere noInstall (step id) emptyWorld (aboutToEnter wholeStore 2)).map
      (fun world => (world.callers 0).point) = some (.locking wholeStore 0 []) := by
    decide
  obtain ⟨world, published, following, reached, ready, locked, taken⟩ := asks_again ran
  have current := published_token ready locked
  have again : Reenters published following 0 :=
    ((nested_admission_iff reached).1 0 wholeStore 0 published published 0 following ready locked
      .start rfl taken).mpr (by decide)
  have later : Reaches (step id) InstallsIssued emptyWorld published := by
    refine .next reached ?_ locked
    rintro caller token same
    cases same
  have fits := (nested_admission_iff later).2 0 _ wholeStore following current taken again
  exact ⟨published, following, taken, current, again, fits.1⟩

/-- The cache is locked for the caller alone, and the same request is refused. -/
theorem cache_only_is_refused :
    ∃ world published following, Reaches (step id) InstallsIssued emptyWorld world ∧
      (world.callers 0).point = .locking cacheOnly 0 [] ∧
      step id world (.lock 0 false) = some published ∧
      step id published (.admitOperation 0 cacheOnly) = some following ∧
      ¬ Reenters published following 0 ∧
      nestedError (tokenOf none (some "cache") cacheOnly 0) none (some "cache") cacheOnly =
        some "nested graph lease upgrade is forbidden" := by
  have ran : (executeWhere noInstall (step id) emptyWorld (aboutToEnter cacheOnly 1)).map
      (fun world => (world.callers 0).point) = some (.locking cacheOnly 0 []) := by
    decide
  obtain ⟨world, published, following, reached, ready, locked, taken⟩ := asks_again ran
  have current := published_token ready locked
  have refused : nestedError (tokenOf none (some "cache") cacheOnly 0) none (some "cache")
      cacheOnly = some "nested graph lease upgrade is forbidden" := by
    decide
  refine ⟨world, published, following, reached, ready, locked, taken, fun reenters => ?_, refused⟩
  have granted : nestedError (tokenOf none (some "cache") cacheOnly 0) none (some "cache")
      cacheOnly = none := (reenters_iff current rfl taken).mp reenters
  rw [granted] at refused
  cases refused

end HermesCashew.Admission
