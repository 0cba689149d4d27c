import HermesCashew.AuxiliaryGate

/-!
# All auxiliary calls together

The permits of all calls add up to the counter of the gate, and the marked calls of an
instance to its `_active`. Both follow from what one step of one thread changes.
-/

namespace HermesCashew.AuxiliaryGate

open HermesCashew.Transition

set_option autoImplicit false

/-! ## Counting -/

theorem count_set_add {Item : Type} (holds : Item → Bool) {items : List Item} {index : Nat}
    {old : Item} (found : items[index]? = some old) (new : Item) :
    (items.set index new).countP holds + (holds old).toNat =
      items.countP holds + (holds new).toNat := by
  induction items generalizing index with
  | nil => cases found
  | cons item rest ih =>
      cases index with
      | zero =>
          obtain rfl : item = old := by simpa using found
          simp only [List.set_cons_zero, List.countP_cons]
          cases holds item <;> cases holds new <;> simp
      | succ index =>
          have later := ih (show rest[index]? = some old by simpa using found)
          simp only [List.set_cons_succ, List.countP_cons]
          omega

theorem one_le_count {Item : Type} {holds : Item → Bool} {items : List Item} {index : Nat}
    {item : Item} (found : items[index]? = some item) (held : holds item = true) :
    1 ≤ items.countP holds :=
  List.countP_pos_iff.mpr ⟨item, List.mem_of_getElem? found, held⟩

/-! ## The invariant -/

def markedFor (model : Nat) (call : Call) : Bool :=
  decide (call.model = model) && call.marked

structure Consistent (world : World) : Prop where
  sane : ∀ (index : Nat) (record : Call), world.calls[index]? = some record → record.Sane
  counted : world.outstanding = (world.calls.countP Call.permit : Nat)
  bounded : world.outstanding ≤ maxOutstandingAuxiliaryCalls
  marks : ∀ object, world.calls.countP (markedFor object) = (world.models object).active.toNat
  holder : ∀ (object index : Nat), (world.models object).lock = some index →
    ∃ record : Call, world.calls[index]? = some record ∧ record.model = object ∧
      record.caller.holds = true
  locked : ∀ (index : Nat) (record : Call), world.calls[index]? = some record →
    record.caller.holds = true → (world.models record.model).lock = some index
  opened : ∀ (index : Nat) (record : Call), world.calls[index]? = some record →
    record.caller.holds = true →
    (world.models record.model).active = false ∧ (world.models record.model).closed = false

def viewOf (world : World) (call : Call) : View where
  call := call
  model := world.models call.model
  outstanding := world.outstanding

def afterView (world : World) (index : Nat) (call : Call) (after : View) : World where
  outstanding := after.outstanding
  models := Function.update world.models call.model after.model
  calls := world.calls.set index after.call

section

variable {world following : World} {index : Nat} {call : Call} {after : View}

theorem Consistent.view (consistent : Consistent world)
    (found : world.calls[index]? = some call) : (viewOf world call).Sane index where
  call := consistent.sane index call found
  locks := consistent.locked index call found
  opened := consistent.opened index call found
  bounded := consistent.bounded
  active := by
    intro marked
    have counted := consistent.marks call.model
    have present : 1 ≤ world.calls.countP (markedFor call.model) := by
      apply one_le_count found
      change (decide (call.model = call.model) && call.marked) = true
      simp only [decide_true, Bool.true_and]
      exact marked
    change (world.models call.model).active = true
    cases active : (world.models call.model).active with
    | true => rfl
    | false =>
        rw [active] at counted
        simp only [Bool.toNat_false] at counted
        omega

theorem within_moves {advance : View → Option View}
    (advances : ∀ {before after : View}, before.Sane index → advance before = some after →
      Local index before after)
    (consistent : Consistent world) (taken : within world index advance = some following) :
    ∃ call after, world.calls[index]? = some call ∧ Local index (viewOf world call) after ∧
      following = afterView world index call after := by
  unfold within at taken
  obtain ⟨call, found, rest⟩ := Option.bind_eq_some_iff.mp taken
  obtain ⟨after, advanced, same⟩ := Option.bind_eq_some_iff.mp rest
  cases same
  exact ⟨call, after, found, advances (consistent.view found) advanced, rfl⟩

/-! ## One step keeps the counts -/

theorem after_view_calls (found : world.calls[index]? = some call) {other : Nat} {record : Call}
    (present : (afterView world index call after).calls[other]? = some record) :
    other = index ∧ record = after.call ∨
      other ≠ index ∧ world.calls[other]? = some record := by
  have place : index < world.calls.length := (List.getElem?_eq_some_iff.mp found).1
  unfold afterView at present
  by_cases same : other = index
  · subst same
    simp only [List.getElem?_set_self place, Option.some.injEq] at present
    exact .inl ⟨rfl, present.symm⟩
  · simp only [List.getElem?_set_ne (Ne.symm same)] at present
    exact .inr ⟨same, present⟩

theorem after_view_self (found : world.calls[index]? = some call) :
    (afterView world index call after).calls[index]? = some after.call := by
  apply List.getElem?_set_self
  exact (List.getElem?_eq_some_iff.mp found).1

theorem after_view_other {other : Nat} (different : other ≠ index) :
    (afterView world index call after).calls[other]? = world.calls[other]? := by
  apply List.getElem?_set_ne
  exact different.symm

theorem after_view_model :
    (afterView world index call after).models call.model = after.model :=
  Function.update_self ..

theorem after_view_model_other {object : Nat} (different : object ≠ call.model) :
    (afterView world index call after).models object = world.models object :=
  Function.update_of_ne different ..

theorem Consistent.counts (consistent : Consistent world)
    (found : world.calls[index]? = some call) (step : Local index (viewOf world call) after) :
    after.outstanding =
      ((afterView world index call after).calls.countP Call.permit : Nat) := by
  have counted := count_set_add Call.permit found after.call
  have before := consistent.counted
  have change := step.outstanding
  change after.outstanding - world.outstanding = _ - (call.permit.toNat : Int) at change
  change after.outstanding = ((world.calls.set index after.call).countP Call.permit : Nat)
  omega

theorem Consistent.marking (consistent : Consistent world)
    (found : world.calls[index]? = some call) (step : Local index (viewOf world call) after)
    (object : Nat) :
    (afterView world index call after).calls.countP (markedFor object) =
      ((afterView world index call after).models object).active.toNat := by
  have counted := count_set_add (markedFor object) found after.call
  have before := consistent.marks object
  have sameModel : after.call.model = call.model := step.model
  by_cases own : object = call.model
  · subst own
    have change := step.active
    rw [after_view_model]
    change (after.model.active.toNat : Int) - (world.models call.model).active.toNat =
      _ - (call.marked.toNat : Int) at change
    simp only [markedFor, sameModel, decide_true, Bool.true_and] at counted
    change (world.calls.set index after.call).countP (markedFor call.model) = _
    omega
  · rw [after_view_model_other own]
    have unmarked (record : Call) (same : record.model = call.model) :
        markedFor object record = false := by
      simp [markedFor, same, Ne.symm own]
    rw [unmarked call rfl, unmarked after.call sameModel] at counted
    change (world.calls.set index after.call).countP (markedFor object) = _
    omega

theorem Consistent.holding (consistent : Consistent world)
    (found : world.calls[index]? = some call) (step : Local index (viewOf world call) after)
    {object other : Nat}
    (held : ((afterView world index call after).models object).lock = some other) :
    ∃ record : Call, (afterView world index call after).calls[other]? = some record ∧
      record.model = object ∧ record.caller.holds = true := by
  have elsewhere (kept : (world.models object).lock = some other)
      (silent : other = index → after.call.caller.holds = call.caller.holds) :
      ∃ record : Call, (afterView world index call after).calls[other]? = some record ∧
        record.model = object ∧ record.caller.holds = true := by
    obtain ⟨record, present, same, holds⟩ := consistent.holder object other kept
    by_cases own : other = index
    · subst own
      obtain rfl : call = record := Option.some.inj (found.symm.trans present)
      exact ⟨after.call, after_view_self found, step.model.trans same,
        (silent rfl).trans holds⟩
    · exact ⟨record, (after_view_other own).trans present, same, holds⟩
  by_cases own : object = call.model
  · subst own
    rw [after_view_model] at held
    rcases step.lock with ⟨same, holds⟩ | ⟨_, taken, holds⟩ | ⟨_, free, _⟩
    · exact elsewhere (same.symm.trans held) fun _ => holds
    · obtain rfl : index = other := Option.some.inj (taken.symm.trans held)
      exact ⟨after.call, after_view_self found, step.model, holds⟩
    · rw [free] at held
      cases held
  · rw [after_view_model_other own] at held
    apply elsewhere held
    rintro rfl
    obtain ⟨record, present, same, _⟩ := consistent.holder object other held
    obtain rfl : call = record := Option.some.inj (found.symm.trans present)
    exact absurd same.symm own

/-- Who holds the lock after a step held it before or is the one that moved. -/
theorem Consistent.locking (consistent : Consistent world)
    (found : world.calls[index]? = some call) (step : Local index (viewOf world call) after)
    {other : Nat} {record : Call}
    (present : (afterView world index call after).calls[other]? = some record)
    (holds : record.caller.holds = true) :
    ((afterView world index call after).models record.model).lock = some other ∧
      ((afterView world index call after).models record.model).active = false ∧
      ((afterView world index call after).models record.model).closed = false := by
  rcases after_view_calls found present with ⟨rfl, rfl⟩ | ⟨different, kept⟩
  · have sameModel : after.call.model = call.model := step.model
    rw [sameModel, after_view_model]
    refine ⟨?_, step.opened holds⟩
    rcases step.lock with ⟨same, holding⟩ | ⟨_, taken, _⟩ | ⟨_, _, silent⟩
    · rw [same]
      exact consistent.locked other call found (holding.symm.trans holds)
    · exact taken
    · rw [silent] at holds
      cases holds
  · have locked := consistent.locked other record kept holds
    have opened := consistent.opened other record kept holds
    by_cases own : record.model = call.model
    · rw [own] at locked opened
      rw [own, after_view_model]
      rcases step.lock with ⟨same, holding⟩ | ⟨free, _⟩ | ⟨mine, _⟩
      · refine ⟨same.trans locked, ?_, step.closed.trans opened.2⟩
        apply Bool.eq_false_iff.mpr
        intro active
        have kept := step.undisturbed (fun mine => different
          (Option.some.inj (locked.symm.trans mine))) active
        exact absurd (kept.symm.trans opened.1) (by decide)
      · change (world.models call.model).lock = none at free
        rw [locked] at free
        cases free
      · change (world.models call.model).lock = some index at mine
        exact absurd (Option.some.inj (locked.symm.trans mine)) different
    · rw [after_view_model_other own]
      exact ⟨locked, opened⟩

theorem Consistent.moves (consistent : Consistent world)
    (found : world.calls[index]? = some call) (step : Local index (viewOf world call) after) :
    Consistent (afterView world index call after) where
  sane := by
    intro other record present
    rcases after_view_calls found present with ⟨_, rfl⟩ | ⟨_, kept⟩
    · exact step.sane
    · exact consistent.sane other record kept
  counted := consistent.counts found step
  bounded := step.bounded
  marks := consistent.marking found step
  holder := fun _ _ held => consistent.holding found step held
  locked := fun _ _ present holds => (consistent.locking found step present holds).1
  opened := fun _ _ present holds => (consistent.locking found step present holds).2

/-! ## New calls and closed instances -/

theorem fresh_call (model : Nat) :
    ({ model := model } : Call).Sane ∧ ({ model := model } : Call).permit = false ∧
      ({ model := model } : Call).marked = false ∧
      ({ model := model } : Call).caller.holds = false := by
  refine ⟨⟨fun _ _ => rfl, rfl, Nat.zero_le _, fun _ => rfl, fun _ => rfl⟩, rfl, rfl, rfl⟩

theorem get_append_one {Item : Type} {items : List Item} {item found : Item} {index : Nat}
    (present : (items ++ [item])[index]? = some found) :
    items[index]? = some found ∨ found = item := by
  by_cases place : index < items.length
  · rw [List.getElem?_append_left place] at present
    exact .inl present
  · rw [List.getElem?_append_right (Nat.le_of_not_lt place)] at present
    have member := List.mem_of_getElem? present
    exact .inr (List.mem_singleton.mp member)

theorem Consistent.called (consistent : Consistent world) (model : Nat) :
    Consistent { world with calls := world.calls ++ [{ model := model }] } := by
  obtain ⟨sane, permit, marked, silent⟩ := fresh_call model
  constructor
  · intro other record present
    rcases get_append_one present with kept | rfl
    · exact consistent.sane other record kept
    · exact sane
  · have counted := consistent.counted
    simp only [List.countP_append, List.countP_singleton, permit]
    simpa using counted
  · exact consistent.bounded
  · intro object
    have marks := consistent.marks object
    simp only [List.countP_append, List.countP_singleton, markedFor, marked, Bool.and_false]
    simpa [markedFor] using marks
  · intro object other held
    obtain ⟨record, present, same, holds⟩ := consistent.holder object other held
    have place := (List.getElem?_eq_some_iff.mp present).1
    exact ⟨record, (List.getElem?_append_left place).trans present, same, holds⟩
  · intro other record present holds
    rcases get_append_one present with kept | rfl
    · exact consistent.locked other record kept holds
    · rw [silent] at holds
      cases holds
  · intro other record present holds
    rcases get_append_one present with kept | rfl
    · exact consistent.opened other record kept holds
    · rw [silent] at holds
      cases holds

theorem Consistent.closes (consistent : Consistent world) {model : Nat}
    (free : (world.models model).lock = none) :
    Consistent { world with
      models := Function.update world.models model
        { world.models model with closed := true } } := by
  have active (object : Nat) : (Function.update world.models model
      { world.models model with closed := true } object).active =
        (world.models object).active := by
    by_cases own : object = model
    · subst own
      rw [Function.update_self]
    · rw [Function.update_of_ne own]
  have lock (object : Nat) : (Function.update world.models model
      { world.models model with closed := true } object).lock =
        (world.models object).lock := by
    by_cases own : object = model
    · subst own
      rw [Function.update_self]
    · rw [Function.update_of_ne own]
  constructor
  · exact consistent.sane
  · exact consistent.counted
  · exact consistent.bounded
  · intro object
    simp only [active]
    exact consistent.marks object
  · intro object other held
    rw [lock] at held
    exact consistent.holder object other held
  · intro other record present holds
    simp only [lock]
    exact consistent.locked other record present holds
  · intro other record present holds
    have opened := consistent.opened other record present holds
    have locked := consistent.locked other record present holds
    have different : record.model ≠ model := by
      intro own
      rw [own, free] at locked
      cases locked
    simpa only [Function.update_of_ne different] using opened

end

/-! ## Every run -/

theorem initial_consistent : Consistent ({} : World) := by
  constructor
  · intro other record present
    cases present
  · rfl
  · decide
  · exact fun _ => rfl
  · intro object other held
    cases held
  · intro other record present
    cases present
  · intro other record present
    cases present

theorem step_consistent {world following : World} {action : Action}
    (consistent : Consistent world) (taken : step world action = some following) :
    Consistent following := by
  have thread {index : Nat} {advance : View → Option View}
      (advances : ∀ {before after : View}, before.Sane index → advance before = some after →
        Local index before after)
      (moved : within world index advance = some following) : Consistent following := by
    obtain ⟨call, after, found, local', rfl⟩ := within_moves advances consistent moved
    exact consistent.moves found local'
  cases action with
  | call model =>
      cases taken
      exact consistent.called model
  | close model =>
      simp only [step] at taken
      by_cases free : (world.models model).lock = none
      · rw [if_pos free] at taken
        cases taken
        exact consistent.closes free
      · rw [if_neg free] at taken
        cases taken
  | caller index => exact thread caller_step_local taken
  | startFails index => exact thread start_fails_local taken
  | timeout index => exact thread timeout_local taken
  | worker index => exact thread worker_step_local taken

theorem reachable_consistent {world : World}
    (reached : Reaches step anyStep ({} : World) world) : Consistent world := by
  apply Reaches.invariant Consistent initial_consistent _ reached
  intro state action following consistent _ taken
  exact step_consistent consistent taken

/-! ## What the gate promises -/

/-- Started, and not yet through the release in `_finish`. -/
def Worker.unfinished : Worker → Bool
  | .absent => false
  | .running => true
  | .finishing phase => phase.permit

def runs (model : Nat) (call : Call) : Bool :=
  decide (call.model = model) && decide (call.worker = .running)

def Call.Over (call : Call) : Prop :=
  call.caller = .left ∧ (call.worker = .absent ∨ call.worker = .finishing .ended)

def claimsOf (world : World) (index : Nat) : Nat :=
  ((world.calls[index]?).map Call.claims).getD 0

structure Gated (world : World) : Prop where
  bounded : 0 ≤ world.outstanding ∧ world.outstanding ≤ maxOutstandingAuxiliaryCalls
  covers : ((world.calls.countP fun call => call.worker.unfinished : Nat) : Int) ≤
    world.outstanding
  once : ∀ call ∈ world.calls, call.releases ≤ call.claims ∧ call.claims ≤ 1
  exited : ∀ call ∈ world.calls, 0 < call.releases → call.worker ≠ .running
  released : ∀ call ∈ world.calls, call.Over → call.releases = call.claims
  quiescent : (∀ call ∈ world.calls, call.Over) → world.outstanding = 0
  single : ∀ model, world.calls.countP (runs model) ≤ 1
  admitted : ∀ model later, (world.models model).closed = true →
    Reaches step anyStep world later → ∀ (index : Nat) (call : Call),
      later.calls[index]? = some call → call.model = model →
        call.claims ≤ claimsOf world index

section

variable {world following later : World}

theorem Call.Over.permit {call : Call} (ended : call.Over) : call.permit = false := by
  obtain ⟨left, absent | finished⟩ := ended
  · simp [Call.permit, left, absent, Caller.permit, Worker.permit]
  · simp [Call.permit, left, finished, Caller.permit, Worker.permit, Finish.permit]

theorem Call.unfinished_permit {call : Call} (unfinished : call.worker.unfinished = true) :
    call.permit = true := by
  cases working : call.worker with
  | absent =>
      rw [working] at unfinished
      cases unfinished
  | running => simp [Call.permit, working, Worker.permit]
  | finishing phase =>
      rw [working] at unfinished
      change phase.permit = true at unfinished
      simp [Call.permit, working, Worker.permit, unfinished]

theorem runs_marked_for {model : Nat} {call : Call} (running : runs model call = true) :
    markedFor model call = true := by
  simp only [runs, Bool.and_eq_true, decide_eq_true_eq] at running
  simp [markedFor, running.1, Call.marked, running.2, Worker.marked]

theorem Consistent.of_mem (consistent : Consistent world) {call : Call}
    (member : call ∈ world.calls) : call.Sane := by
  obtain ⟨index, found⟩ := List.getElem?_of_mem member
  exact consistent.sane index call found

/-! ## Closed instances -/

structure Shut (model : Nat) (world following : World) : Prop where
  closed : (following.models model).closed = true
  claims : ∀ (index : Nat) (call : Call), following.calls[index]? = some call →
    call.model = model → call.claims ≤ claimsOf world index

theorem claims_of_found {index : Nat} {call : Call} (found : world.calls[index]? = some call) :
    claimsOf world index = call.claims := by
  simp [claimsOf, found]

theorem Shut.moved {model index : Nat} {call : Call} {after : View}
    (shut : Shut model world later) (found : later.calls[index]? = some call)
    (step : Local index (viewOf later call) after) :
    Shut model world (afterView later index call after) := by
  constructor
  · by_cases own : model = call.model
    · subst own
      rw [after_view_model]
      exact step.closed.trans shut.closed
    · rw [after_view_model_other own]
      exact shut.closed
  · intro other record present same
    rcases after_view_calls found present with ⟨rfl, rfl⟩ | ⟨_, kept⟩
    · have own : call.model = model := step.model.symm.trans same
      have sealed : (viewOf later call).model.closed = true := by
        change (later.models call.model).closed = true
        rw [own]
        exact shut.closed
      apply Nat.le_trans _ (shut.claims other call found own)
      apply Nat.le_of_not_lt
      intro more
      exact absurd (sealed.symm.trans (step.admitted more)) (by decide)
    · exact shut.claims other record kept same

theorem Shut.called {model : Nat} (shut : Shut model world later) (object : Nat) :
    Shut model world { later with calls := later.calls ++ [{ model := object }] } := by
  constructor
  · exact shut.closed
  · intro index call present same
    rcases get_append_one present with kept | rfl
    · exact shut.claims index call kept same
    · exact Nat.zero_le _

theorem Shut.closes {model object : Nat} (shut : Shut model world later) :
    Shut model world { later with
      models := Function.update later.models object
        { later.models object with closed := true } } := by
  constructor
  · by_cases own : model = object
    · subst own
      simp only [Function.update_self]
    · simp only [Function.update_of_ne own]
      exact shut.closed
  · exact shut.claims

theorem Shut.step {model : Nat} {action : Action} (consistent : Consistent later)
    (shut : Shut model world later) (taken : step later action = some following) :
    Shut model world following := by
  have thread {index : Nat} {advance : View → Option View}
      (advances : ∀ {before after : View}, before.Sane index → advance before = some after →
        Local index before after)
      (moved : within later index advance = some following) : Shut model world following := by
    obtain ⟨call, after, found, local', rfl⟩ := within_moves advances consistent moved
    exact shut.moved found local'
  cases action with
  | call object =>
      cases taken
      exact shut.called object
  | close object =>
      simp only [AuxiliaryGate.step] at taken
      by_cases free : (later.models object).lock = none
      · rw [if_pos free] at taken
        cases taken
        exact shut.closes
      · rw [if_neg free] at taken
        cases taken
  | caller index => exact thread caller_step_local taken
  | startFails index => exact thread start_fails_local taken
  | timeout index => exact thread timeout_local taken
  | worker index => exact thread worker_step_local taken

theorem closed_shut {model : Nat} (consistent : Consistent world)
    (closed : (world.models model).closed = true) (reached : Reaches step anyStep world later) :
    Consistent later ∧ Shut model world later := by
  apply Reaches.invariant (fun state => Consistent state ∧ Shut model world state) _ _ reached
  · refine ⟨consistent, closed, ?_⟩
    intro index call found _
    exact Nat.le_of_eq (claims_of_found found).symm
  · intro state action following holds _ taken
    exact ⟨step_consistent holds.1 taken, holds.2.step holds.1 taken⟩

/-! ## The gate -/

theorem quiescent_permits (ended : ∀ call ∈ world.calls, call.Over) :
    world.calls.countP Call.permit = 0 := by
  apply List.countP_eq_zero.mpr
  intro call member held
  rw [(ended call member).permit] at held
  cases held

theorem auxiliary_calls_gated (reached : Reaches step anyStep ({} : World) world) :
    Gated world := by
  have consistent := reachable_consistent reached
  constructor
  · refine ⟨?_, consistent.bounded⟩
    rw [consistent.counted]
    exact Int.natCast_nonneg _
  · rw [consistent.counted]
    apply Int.ofNat_le.mpr
    apply List.countP_mono_left
    intro call _ unfinished
    exact Call.unfinished_permit unfinished
  · intro call member
    have sane := consistent.of_mem member
    have claimed := sane.claimed
    exact ⟨by omega, sane.once⟩
  · intro call member released running
    have sane := consistent.of_mem member
    have claimed := sane.claimed
    have once := sane.once
    have permit : call.permit = true :=
      Call.unfinished_permit (by rw [running]; rfl)
    rw [permit, Bool.toNat_true] at claimed
    omega
  · intro call member ended
    have claimed := (consistent.of_mem member).claimed
    rw [ended.permit] at claimed
    exact claimed.symm
  · intro ended
    rw [consistent.counted, quiescent_permits ended]
    rfl
  · intro model
    apply Nat.le_trans (List.countP_mono_left fun call _ => runs_marked_for)
    rw [consistent.marks model]
    exact Bool.toNat_le _
  · intro model later closed continued
    exact (closed_shut consistent closed continued).2.claims

end

/-- The caller of the first call gives up, its instance is closed, and a second
instance calls while the first backend still runs. -/
def lateSchedule : List Action :=
  [.call 0, .call 1, .caller 0, .caller 0, .caller 0, .caller 0, .timeout 0, .close 0,
    .caller 1, .caller 1, .caller 1, .startFails 1, .caller 1, .caller 1, .worker 0]

theorem late_calls_gated :
    ∃ world, execute step ({} : World) lateSchedule = some world ∧ world.outstanding = 1 ∧
      Gated world :=
  ⟨_, rfl, rfl, auxiliary_calls_gated (reaches_of_execute step {} lateSchedule rfl)⟩

end HermesCashew.AuxiliaryGate
