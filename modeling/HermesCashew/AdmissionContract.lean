import HermesCashew.AdmissionLeases

/-!
# The admission contract

An attempt enters the resources of its request in order, so an admitted body holds
exactly what its token names until its owner is closed. Together with the lock
table and the ownership of exit stacks this is what `admit_operation` promises to its
callers, in every interleaving and however a call ends.
-/

namespace HermesCashew.Admission

open HermesCashew.Transition

set_option autoImplicit false

variable {resolve : Path → Path} {world following : World} {action : Action}

/-! ## When an owner is closed -/

/-- The admitting body is left with its owner, the new owner closes it, or the body
that transfers it raises. -/
inductive Closes (world : World) : Action → Nat → Prop where
  | body (caller : Nat) (raising : Bool) (token : Token) (saved : Option Token)
      (rest : List Frame) (frames : (world.callers caller).frames = .admitted token saved :: rest)
      (kept : (world.exitStacks token.leaseOwner).transferred = false) :
      Closes world (.exit caller raising) token.leaseOwner
  | owner (stack : Nat) (transferred : (world.exitStacks stack).transferred = true) :
      Closes world (.close stack) stack
  | raises (caller stack : Nat) (rest : List Frame)
      (frames : (world.callers caller).frames = .transferring stack :: rest) :
      Closes world (.exit caller true) stack

theorem close_owner_closed (world : World) (stack other : Nat) :
    ((closeOwner world stack).exitStacks other).closed = true ↔
      (world.exitStacks other).closed = true ∨ other = stack := by
  unfold closeOwner
  dsimp only
  split
  · rename_i closed
    refine ⟨.inl, fun either => either.elim id ?_⟩
    rintro rfl
    exact closed
  · by_cases same : other = stack
    · subst same
      simp
    · simp [World.set_stack_of_ne _ same, same]

/-- A stack is changed and its owner stays as it was. -/
theorem closed_of_update {stack : Nat} {record : Stack}
    (exitStacks : following.exitStacks = Function.update world.exitStacks stack record)
    (same : record.closed = (world.exitStacks stack).closed) (other : Nat) :
    ((world.exitStacks other).closed = true → (following.exitStacks other).closed = true) ∧
      ((following.exitStacks other).closed = true →
        (world.exitStacks other).closed = true ∨ Closes world action other) := by
  have stays : (following.exitStacks other).closed = (world.exitStacks other).closed := by
    rw [exitStacks]
    by_cases here : other = stack
    · subst here
      rw [Function.update_self, same]
    · rw [Function.update_of_ne here]
  rw [stays]
  exact ⟨id, .inl⟩

theorem moves_closed (ownership : Ownership world) (moves : Moves resolve world action following)
    (stack : Nat) :
    ((world.exitStacks stack).closed = true → (following.exitStacks stack).closed = true) ∧
      ((following.exitStacks stack).closed = true →
        (world.exitStacks stack).closed = true ∨ Closes world action stack) := by
  cases moves with
  | attempts _ caller request ready =>
      have fresh : (world.exitStacks world.created).closed = false := by
        rw [ownership.fresh _ (Nat.le_refl _)]
      exact closed_of_update rfl fresh.symm stack
  | abandons caller raises request attempt remaining retry ready
  | publishes caller raises request attempt token ready issued
  | transfers caller attempt managed frame ready member inside opened kept =>
      refine closed_of_update rfl ?_ stack
      rfl
  | leavesOwned caller raising token saved rest ready frames kept =>
      have changed := close_owner_closed world token.leaseOwner stack
      refine ⟨fun closed => changed.mpr (.inl closed), fun closed => (changed.mp closed).imp_right ?_⟩
      rintro rfl
      exact .body caller raising token saved rest frames kept
  | closesTransfer caller given rest ready frames opened =>
      have changed := close_owner_closed world given stack
      refine ⟨fun closed => changed.mpr (.inl closed), fun closed => (changed.mp closed).imp_right ?_⟩
      rintro rfl
      exact .raises caller stack rest frames
  | closes given transferred opened =>
      have changed := close_owner_closed world given stack
      refine ⟨fun closed => changed.mpr (.inl closed), fun closed => (changed.mp closed).imp_right ?_⟩
      rintro rfl
      exact .owner stack transferred
  | _ => exact ⟨id, .inl⟩

theorem closes_step {stack : Nat} (closes : Closes world action stack)
    (taken : step resolve world action = some following) :
    (following.exitStacks stack).closed = true := by
  cases closes with
  | body caller raising token saved rest frames kept =>
      obtain ⟨_, taken⟩ := Option.ite_none_left_eq_some.mp taken
      simp only [frames, kept] at taken
      obtain rfl := Option.some.inj taken
      exact (close_owner_closed world token.leaseOwner _).mpr (.inr rfl)
  | owner _ transferred =>
      obtain ⟨_, taken⟩ := Option.ite_none_right_eq_some.mp taken
      obtain rfl := Option.some.inj taken
      exact (close_owner_closed world stack stack).mpr (.inr rfl)
  | raises caller _ rest frames =>
      obtain ⟨_, taken⟩ := Option.ite_none_left_eq_some.mp taken
      simp only [frames] at taken
      split at taken
      · obtain rfl := Option.some.inj taken
        exact (close_owner_closed world stack stack).mpr (.inr rfl)
      · rename_i closed
        obtain rfl := Option.some.inj taken
        have stays : (world.exitStacks stack).closed = true := by simpa using closed
        exact stays

theorem closed_iff (ownership : Ownership world)
    (taken : step resolve world action = some following) (stack : Nat) :
    (following.exitStacks stack).closed = true ↔
      (world.exitStacks stack).closed = true ∨ Closes world action stack := by
  have ⟨stays, flips⟩ := moves_closed ownership (step_moves taken) stack
  exact ⟨flips, fun either => either.elim stays fun closes => closes_step closes taken⟩

/-! ## What an attempt has entered -/

/-- The resources that a stack holds, in the order of their acquisition. -/
def World.entered (world : World) (stack : Nat) : List (Path × Bool) :=
  ((world.leases.filter fun lease => lease.stack = stack).map
    fun lease => (lease.path, lease.exclusive)).reverse

/-- The resources that a token names. -/
def Token.resources (token : Token) : List (Path × Bool) :=
  token.graphPath.toList.map (fun path => (path, token.exclusive)) ++
    token.cachePath.toList.map fun path => (path, token.cacheExclusive)

theorem token_of_resources (graph cache : Option Path) (request : Request) (stack : Nat) :
    (tokenOf graph cache request stack).resources = resources graph cache request := by
  cases graph <;> cases cache <;> simp [Token.resources, tokenOf, resources]

theorem entered_of_leases (leases : following.leases = world.leases) (stack : Nat) :
    following.entered stack = world.entered stack := by
  rw [World.entered, World.entered, leases]

theorem entered_cons {lease : Lease} (leases : following.leases = lease :: world.leases) :
    following.entered lease.stack =
      world.entered lease.stack ++ [(lease.path, lease.exclusive)] := by
  simp [World.entered, leases]

theorem entered_cons_of_ne {lease : Lease} (leases : following.leases = lease :: world.leases)
    {stack : Nat} (different : stack ≠ lease.stack) :
    following.entered stack = world.entered stack := by
  simp [World.entered, leases, different.symm]

theorem entered_erase_of_ne {lease : Lease} (leases : following.leases = world.leases.erase lease)
    {stack : Nat} (different : stack ≠ lease.stack) :
    following.entered stack = world.entered stack := by
  rw [World.entered, World.entered, leases, ← List.erase_filter, List.erase_of_not_mem]
  intro member
  exact different.symm (by simpa using (List.mem_filter.mp member).2)

theorem entered_fresh (ownership : Ownership world) : world.entered world.created = [] := by
  rw [World.entered, List.filter_eq_nil_iff.mpr]
  · rfl
  · intro lease member
    have below := (ownership.leases lease member).created
    simpa using Nat.ne_of_lt below

structure Acquires (resolve : Path → Path) (world : World) : Prop where
  locking : ∀ caller request stack remaining,
    (world.callers caller).point = .locking request stack remaining →
    world.entered stack ++ remaining =
      resources (request.graphPath.map resolve) (request.cachePath.map resolve) request
  admitted : ∀ caller token saved, .admitted token saved ∈ (world.callers caller).frames →
    (world.exitStacks token.leaseOwner).closed = false →
    world.entered token.leaseOwner = token.resources

theorem empty_acquires : Acquires resolve emptyWorld := by
  constructor <;> simp [emptyWorld]

/-- The rule for a caller that leaves the lock table alone. -/
theorem Acquires.acts (acquires : Acquires resolve world) (caller : Nat) (record : Caller)
    (callers : following.callers = Function.update world.callers caller record)
    (leases : following.leases = world.leases)
    (closed : ∀ stack, (following.exitStacks stack).closed = false →
      (world.exitStacks stack).closed = false)
    (locking : ∀ request stack remaining, record.point = .locking request stack remaining →
      world.entered stack ++ remaining =
        resources (request.graphPath.map resolve) (request.cachePath.map resolve) request)
    (admitted : ∀ token saved, .admitted token saved ∈ record.frames →
      .admitted token saved ∈ (world.callers caller).frames ∨
        world.entered token.leaseOwner = token.resources) : Acquires resolve following := by
  refine ⟨?_, ?_⟩
  · intro other request stack remaining ready
    rw [entered_of_leases leases]
    by_cases same : other = caller
    · rw [same, callers, Function.update_self] at ready
      exact locking request stack remaining ready
    · rw [callers, Function.update_of_ne same] at ready
      exact acquires.locking other request stack remaining ready
  · intro other token saved member opened
    rw [entered_of_leases leases]
    by_cases same : other = caller
    · rw [same, callers, Function.update_self] at member
      rcases admitted token saved member with old | new
      · exact acquires.admitted caller token saved old (closed _ opened)
      · exact new
    · rw [callers, Function.update_of_ne same] at member
      exact acquires.admitted other token saved member (closed _ opened)

/-- The caller leaves the lock table alone and does not begin to lock. -/
theorem Acquires.rests (acquires : Acquires resolve world) (caller : Nat) (record : Caller)
    (callers : following.callers = Function.update world.callers caller record)
    (leases : following.leases = world.leases)
    (closed : ∀ stack, (following.exitStacks stack).closed = false →
      (world.exitStacks stack).closed = false)
    (settled : ∀ request stack remaining, record.point ≠ .locking request stack remaining)
    (frames : ∀ token saved, .admitted token saved ∈ record.frames →
      .admitted token saved ∈ (world.callers caller).frames) : Acquires resolve following :=
  acquires.acts caller record callers leases closed
    (fun request stack remaining ready => absurd ready (settled request stack remaining))
    (fun token saved member => .inl (frames token saved member))

theorem lock_acquires (ownership : Ownership world) (acquires : Acquires resolve world)
    (caller : Nat) (request : Request) (rest : List (Path × Bool)) (lease : Lease)
    (ready : (world.callers caller).point =
      .locking request lease.stack ((lease.path, lease.exclusive) :: rest))
    (callers : following.callers = Function.update world.callers caller
      { world.callers caller with point := .locking request lease.stack rest })
    (exitStacks : following.exitStacks = world.exitStacks)
    (leases : following.leases = lease :: world.leases) : Acquires resolve following := by
  have ⟨_, owner, bare, _⟩ := (ownership.callers caller).locking _ _ _ ready
  refine ⟨?_, ?_⟩
  · intro other again stack remaining locking
    by_cases same : other = caller
    · rw [same, callers, Function.update_self] at locking
      obtain ⟨rfl, rfl, rfl⟩ := Point.locking.inj locking
      rw [entered_cons leases, List.append_assoc]
      exact acquires.locking caller _ _ _ ready
    · rw [callers, Function.update_of_ne same] at locking
      have ⟨_, foreign, _⟩ := (ownership.callers other).locking _ _ _ locking
      have different : stack ≠ lease.stack := by
        rintro rfl
        exact same (foreign.symm.trans owner)
      rw [entered_cons_of_ne leases different]
      exact acquires.locking other again stack remaining locking
  · intro other token saved member opened
    have before : .admitted token saved ∈ (world.callers other).frames := by
      by_cases same : other = caller
      · rw [same, callers, Function.update_self] at member
        rw [same]
        exact member
      · rw [callers, Function.update_of_ne same] at member
        exact member
    have ⟨_, _, owned, _⟩ := (ownership.callers other).owns token.leaseOwner ⟨_, before, rfl⟩
    have different : token.leaseOwner ≠ lease.stack := by
      intro same
      rw [same, bare] at owned
      cases owned
    rw [entered_cons_of_ne leases different]
    rw [exitStacks] at opened
    exact acquires.admitted other token saved before opened

theorem release_acquires (ownership : Ownership world) (acquires : Acquires resolve world)
    (lease : Lease) (closing : (world.exitStacks lease.stack).closing = true)
    (callers : following.callers = world.callers) (exitStacks : following.exitStacks = world.exitStacks)
    (leases : following.leases = world.leases.erase lease) : Acquires resolve following := by
  refine ⟨?_, ?_⟩
  · intro caller request stack remaining ready
    rw [callers] at ready
    have ⟨_, _, _, opened⟩ := (ownership.callers caller).locking _ _ _ ready
    have different : stack ≠ lease.stack := by
      rintro rfl
      rw [opened] at closing
      cases closing
    rw [entered_erase_of_ne leases different]
    exact acquires.locking caller request stack remaining ready
  · intro caller token saved member opened
    rw [callers] at member
    rw [exitStacks] at opened
    have ⟨_, _, owned, _⟩ := (ownership.callers caller).owns token.leaseOwner ⟨_, member, rfl⟩
    have different : token.leaseOwner ≠ lease.stack := by
      intro same
      have closed := (ownership.flags token.leaseOwner).closing owned
      rw [opened, same, closing] at closed
      cases closed
    rw [entered_erase_of_ne leases different]
    exact acquires.admitted caller token saved member opened

theorem moves_acquires (ownership : Ownership world) (acquires : Acquires resolve world)
    (moves : Moves resolve world action following) : Acquires resolve following := by
  have closed (stack : Nat) (opened : (following.exitStacks stack).closed = false) :
      (world.exitStacks stack).closed = false := by
    by_contra before
    rw [(moves_closed ownership moves stack).1 (by simpa using before)] at opened
    cases opened
  cases moves with
  | ignored => exact acquires
  | nests caller request ready =>
      refine acquires.rests caller _ rfl rfl closed ?_ (fun _ _ member => by simpa using member)
      simp [ready]
  | attempts _ caller request ready =>
      refine acquires.acts caller _ rfl rfl closed ?_ (fun _ _ => .inl)
      intro again stack remaining locking
      obtain ⟨rfl, rfl, rfl⟩ := Point.locking.inj locking
      rw [entered_fresh ownership, List.nil_append]
  | abandons caller raises request stack remaining retry ready =>
      exact acquires.rests caller _ rfl rfl closed (fun _ _ _ => nofun) (fun _ _ => id)
  | locks caller raises request stack path exclusive rest ready free =>
      exact lock_acquires ownership acquires caller request rest _ ready rfl rfl rfl
  | publishes caller raises request stack token ready issued =>
      refine acquires.acts caller _ rfl rfl closed (fun _ _ _ => nofun) ?_
      intro other saved member
      rcases List.mem_cons.mp member with same | member
      · obtain ⟨rfl, _⟩ := Frame.admitted.inj same
        have whole := acquires.locking caller _ _ _ ready
        rw [List.append_nil] at whole
        subst issued
        exact .inr (whole.trans (token_of_resources _ _ _ _).symm)
      · exact .inl member
  | releases stack lease closing top =>
      have ⟨_, same⟩ := top_mem top
      exact release_acquires ownership acquires lease (same ▸ closing) rfl rfl rfl
  | proceeds caller stack retry ready empty =>
      refine acquires.rests caller _ rfl rfl closed ?_ (fun _ _ => id)
      cases retry <;> exact fun _ _ _ => nofun
  | tests caller expired request ready =>
      refine acquires.rests caller _ rfl rfl closed ?_ (fun _ _ => id)
      cases expired <;> exact fun _ _ _ => nofun
  | leavesTransferred caller raising token saved rest ready frames _
  | leavesInstalled caller raising token saved rest ready frames =>
      refine acquires.rests caller _ rfl rfl closed (by simp [ready]) ?_
      rw [frames]
      exact fun _ _ => List.mem_cons_of_mem _
  | leavesNested caller raising rest ready frames
  | leavesTransfer caller raising _ rest ready frames =>
      refine acquires.rests caller _ rfl rfl closed (by simp [ready]) ?_
      rw [frames]
      exact fun _ _ => List.mem_cons_of_mem _
  | leavesOwned caller raising token saved rest ready frames kept =>
      have ⟨leases, _, _, _, callers⟩ := close_owner_leases world token.leaseOwner
      refine acquires.rests caller _ (by rw [World.setCaller, callers]) leases closed ?_ ?_
      · exact fun _ _ _ => nofun
      · rw [frames]
        exact fun _ _ => List.mem_cons_of_mem _
  | closesTransfer caller stack rest ready frames opened =>
      have ⟨leases, _, _, _, callers⟩ := close_owner_leases world stack
      refine acquires.rests caller _ (by rw [World.setCaller, callers]) leases closed ?_ ?_
      · exact fun _ _ _ => nofun
      · rw [frames]
        exact fun _ _ => List.mem_cons_of_mem _
  | transfers caller stack managed frame ready member inside opened kept =>
      refine acquires.rests caller _ rfl rfl closed (by simp [ready]) ?_
      cases managed with
      | false => exact fun _ _ => id
      | true => exact fun _ _ member => by simpa using member
  | installs caller token ready =>
      refine acquires.rests caller _ rfl rfl closed (by simp [ready]) ?_
      exact fun _ _ member => by simpa using member
  | copies caller source ready outermost =>
      exact acquires.rests caller _ rfl rfl closed (by simp [ready]) (fun _ _ => id)
  | closes stack transferred opened =>
      have ⟨leases, _, _, _, callers⟩ := close_owner_leases world stack
      refine ⟨?_, ?_⟩
      · intro caller request attempt remaining ready
        rw [callers] at ready
        rw [entered_of_leases leases]
        exact acquires.locking caller request attempt remaining ready
      · intro caller token saved member opened
        rw [callers] at member
        rw [entered_of_leases leases]
        exact acquires.admitted caller token saved member (closed _ opened)

/-! ## The contract -/

structure WellFormed (resolve : Path → Path) (world : World) : Prop where
  table : Table resolve world
  contexts : ∀ caller, Context (world.callers caller)
  ownership : Ownership world
  acquires : Acquires resolve world

theorem reachable_well_formed (reached : Reaches (step resolve) anyStep emptyWorld world) :
    WellFormed resolve world := by
  refine reached.invariant (WellFormed resolve) ?_ ?_
  · exact ⟨empty_table, empty_context, empty_ownership, empty_acquires⟩
  · intro world action following formed _ taken
    have moves := step_moves taken
    exact ⟨moves_table formed.table moves, moves_context formed.contexts moves,
      moves_ownership formed.ownership moves, moves_acquires formed.ownership formed.acquires moves⟩

/-- The caller waits for its next attempt, or it is outside every admission: its call
was late, failed, returned or was never made. -/
def Caller.Idle (record : Caller) : Prop :=
  match record.point with
  | .checking _ | .sleeping _ => True
  | .running => record.current = none
  | _ => False

theorem current_of_none {inherited : Option Token} {frames : List Frame}
    (outside : currentOf inherited frames = none) : ∀ frame ∈ frames, frame.stack = none := by
  induction frames with
  | nil => simp
  | cons first rest ih =>
      cases first with
      | admitted token saved | installed token saved => cases outside
      | nested | transferring =>
          intro frame member
          rcases List.mem_cons.mp member with rfl | member
          · rfl
          · exact ih outside frame member

theorem Caller.Idle.free {record : Caller} (idle : record.Idle) (context : Context record) :
    record.point.free = true ∧ record.current = none := by
  unfold Caller.Idle at idle
  split at idle
  · rename_i point
    exact ⟨by rw [point]; rfl, context.outside (by rw [point]; rfl)⟩
  · rename_i point
    exact ⟨by rw [point]; rfl, context.outside (by rw [point]; rfl)⟩
  · rename_i point
    exact ⟨by rw [point]; rfl, idle⟩
  · cases idle

/-- An idle caller holds nothing. -/
theorem idle_leases (formed : WellFormed resolve world) {caller : Nat}
    (idle : (world.callers caller).Idle) {lease : Lease} (member : lease ∈ world.leases)
    (own : (world.exitStacks lease.stack).caller = caller) :
    (world.exitStacks lease.stack).transferred = true := by
  have context := formed.contexts caller
  have ⟨free, outside⟩ := idle.free context
  rw [context.current] at outside
  rcases (formed.ownership.leases lease member).held with given | present
  · exact given
  · rw [own] at present
    have ⟨frame, inside, same⟩ := present.owns free
    rw [current_of_none outside frame inside] at same
    cases same

theorem exclusive_alone (table : Table resolve world) {first second : Lease}
    (held : first ∈ world.leases) (member : second ∈ world.leases)
    (path : first.path = second.path) (exclusive : first.exclusive = true) : first = second := by
  by_contra different
  have symmetric : Std.Symm Apart := ⟨fun _ _ apart same => (apart same.symm).symm⟩
  have file : first.lockFile = second.lockFile := by
    rw [table.file first held, table.file second member, path]
  have shared := (table.apart.forall held member different file).1
  rw [exclusive] at shared
  cases shared

theorem released_closing (taken : step resolve world action = some following) {lease : Lease}
    (held : lease ∈ world.leases) (gone : lease ∉ following.leases) :
    action = .release lease.stack ∧ (world.exitStacks lease.stack).closing = true := by
  cases moves_leases (step_moves taken) with
  | same leases => exact absurd (leases ▸ held) gone
  | locks _ _ _ _ leases =>
      rw [leases] at gone
      exact absurd (List.mem_cons_of_mem _ held) gone
  | releases released _ chosen closing leases =>
      rw [leases] at gone
      have same : lease = released := by
        by_contra different
        exact gone ((List.mem_erase_of_ne different).mpr held)
      subst same
      exact ⟨chosen, closing⟩

theorem release_enabled (resolve : Path → Path) {lease : Lease} (held : lease ∈ world.leases)
    (closing : (world.exitStacks lease.stack).closing = true) :
    ∃ following, step resolve world (.release lease.stack) = some following := by
  cases top : world.top lease.stack with
  | none => exact absurd rfl (top_none top held)
  | some first =>
      refine Option.isSome_iff_exists.mp ?_
      simp [step, release, closing, top]

theorem exit_frames {caller : Nat} {raising : Bool}
    (taken : step resolve world (.exit caller raising) = some following) :
    ∃ frame, (world.callers caller).frames = frame :: (following.callers caller).frames := by
  obtain ⟨_, taken⟩ := Option.ite_none_left_eq_some.mp taken
  split at taken
  · cases taken
  · rename_i token saved rest frames
    dsimp only at taken
    split at taken <;> obtain rfl := Option.some.inj taken <;>
      exact ⟨_, by simpa [World.setCaller] using frames⟩
  · rename_i rest frames
    obtain rfl := Option.some.inj taken
    exact ⟨_, by simpa [World.setCaller] using frames⟩
  · rename_i token saved rest frames
    obtain rfl := Option.some.inj taken
    exact ⟨_, by simpa [World.setCaller] using frames⟩
  · rename_i stack rest frames
    split at taken <;> obtain rfl := Option.some.inj taken <;>
      exact ⟨_, by simpa [World.setCaller] using frames⟩

theorem inherited_of_update {caller : Nat} {record : Caller}
    (callers : following.callers = Function.update world.callers caller record)
    (same : record.inherited = (world.callers caller).inherited) (other : Nat) :
    (following.callers other).inherited = (world.callers other).inherited := by
  rw [callers]
  by_cases here : other = caller
  · rw [here, Function.update_self, same]
  · rw [Function.update_of_ne here]

theorem moves_inherited {caller : Nat} (moves : Moves resolve world action following)
    (stays : ∀ source, action ≠ .copyContext caller source) :
    (following.callers caller).inherited = (world.callers caller).inherited := by
  cases moves with
  | ignored | releases => rfl
  | leavesOwned other raising token saved rest ready frames kept =>
      rw [← close_owner_callers world token.leaseOwner]
      refine inherited_of_update rfl ?_ caller
      rw [close_owner_callers]
  | closesTransfer other stack rest ready frames opened =>
      rw [← close_owner_callers world stack]
      refine inherited_of_update rfl ?_ caller
      rw [close_owner_callers]
  | closes stack transferred opened => rw [close_owner_callers]
  | copies other source ready outermost =>
      have different : caller ≠ other := by
        rintro rfl
        exact stays source rfl
      simp [World.setCaller, different]
  | _ =>
      refine inherited_of_update rfl ?_ caller
      rfl

/-- A caller that is back in the same blocks has the same admission again. -/
theorem current_restored {caller : Nat} {later : World}
    (reached : Reaches (step resolve) anyStep emptyWorld world)
    (runs : Reaches (step resolve) (fun _ action => ∀ source, action ≠ .copyContext caller source)
      world later)
    (back : (later.callers caller).frames = (world.callers caller).frames) :
    (later.callers caller).current = (world.callers caller).current := by
  have inherited : (later.callers caller).inherited = (world.callers caller).inherited := by
    refine runs.invariant
      (fun state => (state.callers caller).inherited = (world.callers caller).inherited) rfl ?_
    intro state action following same stays taken
    exact (moves_inherited (step_moves taken) stays).trans same
  have before := (reachable_well_formed reached).contexts caller
  have after := (reachable_well_formed (reached.trans runs.weaken)).contexts caller
  rw [after.current, before.current, back, inherited]

theorem admission_leases (reached : Reaches (step resolve) anyStep emptyWorld world) :
    (∀ caller, (world.callers caller).Idle → ∀ lease ∈ world.leases,
      (world.exitStacks lease.stack).caller = caller →
      (world.exitStacks lease.stack).transferred = true) ∧
    (∀ first ∈ world.leases, ∀ second ∈ world.leases, first.path = second.path →
      first.exclusive = true → first = second) ∧
    (world.leases.map (·.number) ++ world.released).Perm (List.range world.acquired) ∧
    (∀ caller token saved, .admitted token saved ∈ (world.callers caller).frames →
      (world.exitStacks token.leaseOwner).closed = false →
      world.entered token.leaseOwner = token.resources) ∧
    (∀ action following, step resolve world action = some following →
      (∀ lease ∈ world.leases, lease ∉ following.leases →
        action = .release lease.stack ∧ (world.exitStacks lease.stack).closing = true) ∧
      (∀ stack, (following.exitStacks stack).closed = true ↔
        (world.exitStacks stack).closed = true ∨ Closes world action stack)) ∧
    (∀ stack, (world.exitStacks stack).owned = true →
      (world.exitStacks stack).closing = (world.exitStacks stack).closed) ∧
    (∀ lease ∈ world.leases, (world.exitStacks lease.stack).closing = true →
      ∃ following, step resolve world (.release lease.stack) = some following) ∧
    (∀ caller raising following, step resolve world (.exit caller raising) = some following →
      ∃ frame, (world.callers caller).frames = frame :: (following.callers caller).frames) ∧
    (∀ caller later,
      Reaches (step resolve) (fun _ action => ∀ source, action ≠ .copyContext caller source)
        world later →
      (later.callers caller).frames = (world.callers caller).frames →
      (later.callers caller).current = (world.callers caller).current) := by
  have formed := reachable_well_formed reached
  refine ⟨?_, ?_, formed.table.once, formed.acquires.admitted, ?_, ?_, ?_, ?_, ?_⟩
  · intro caller idle lease member own
    exact idle_leases formed idle member own
  · intro first held second member path exclusive
    exact exclusive_alone formed.table held member path exclusive
  · intro action following taken
    exact ⟨fun lease held gone => released_closing taken held gone,
      closed_iff formed.ownership taken⟩
  · intro stack owned
    exact (formed.ownership.flags stack).closing owned
  · intro lease held closing
    exact release_enabled resolve held closing
  · intro caller raising following taken
    exact exit_frames taken
  · intro caller later runs back
    exact current_restored reached runs back

def blockedRequest : Request :=
  { graphPath := some "other.db", cachePath := some "cache", cacheExclusive := true }

def contendedSchedule : List Action :=
  [.admitOperation 0 { graphPath := some "brain.db", cachePath := some "cache", exclusive := true },
    .lock 0 false, .lock 0 false, .lock 0 false,
    .admitOperation 1 blockedRequest,
    .lock 1 false, .lock 1 false, .release 1, .proceed 1, .testDeadline 1 false]

theorem sleeping_caller_holds_nothing :
    ∃ world, execute (step id) emptyWorld contendedSchedule = some world ∧
      world.leases.map (·.number) = [1, 0] ∧ world.released = [2] ∧
      (world.callers 1).point = .sleeping blockedRequest ∧
      ∀ lease ∈ world.leases, (world.exitStacks lease.stack).caller = 1 →
        (world.exitStacks lease.stack).transferred = true := by
  have ran : (execute (step id) emptyWorld contendedSchedule).map
      (fun world => (world.leases.map (·.number), world.released, (world.callers 1).point)) =
      some ([1, 0], [2], .sleeping blockedRequest) := by
    decide
  obtain ⟨world, ran, fields⟩ := Option.map_eq_some_iff.mp ran
  simp only [Prod.mk.injEq] at fields
  obtain ⟨numbers, released, asleep⟩ := fields
  have contract := admission_leases (reaches_of_execute (step id) emptyWorld contendedSchedule ran)
  refine ⟨world, ran, numbers, released, asleep, contract.1 1 ?_⟩
  simp [Caller.Idle, asleep]

end HermesCashew.Admission
