import HermesCashew.Admission
import Mathlib.Data.List.Perm.Basic
import Mathlib.Data.List.Pairwise

/-!
# What becomes of a lease

Every lease is in the lock table or was released, once. A lease that is held
belongs to an attempt of its caller, to a body its caller is in, or to an owner
that was transferred, so a caller in the retry loop or behind a failed call holds
nothing. The context variable is a function of the `with` blocks a caller is in.
-/

namespace HermesCashew.Admission

open HermesCashew.Transition

set_option autoImplicit false

variable {resolve : Path → Path}

/-! ## The lock table -/

/-- Two leases may be held together. -/
def Apart (first second : Lease) : Prop :=
  first.lockFile = second.lockFile → first.exclusive = false ∧ second.exclusive = false

structure Table (resolve : Path → Path) (world : World) : Prop where
  once : (world.leases.map (·.number) ++ world.released).Perm (List.range world.acquired)
  apart : world.leases.Pairwise Apart
  file : ∀ lease ∈ world.leases, lease.lockFile = lockPathForDb resolve lease.path

theorem empty_table : Table resolve emptyWorld where
  once := .refl _
  apart := .nil
  file := by simp [emptyWorld]

theorem apart_of_free {world : World} {lease : Lease}
    (free : world.contended lease.lockFile lease.exclusive = false) :
    ∀ other ∈ world.leases, Apart lease other := by
  intro other member same
  have clear : ¬(lease.exclusive = true ∨ other.exclusive = true) := by
    intro exclusive
    have contended : world.contended lease.lockFile lease.exclusive = true := by
      rw [World.contended, List.any_eq_true]
      exact ⟨other, member, by simpa [same] using exclusive⟩
    rw [free] at contended
    cases contended
  simpa using clear

theorem Table.locks {world following : World} (table : Table resolve world) {lease : Lease}
    (free : world.contended lease.lockFile lease.exclusive = false)
    (number : lease.number = world.acquired)
    (file : lease.lockFile = lockPathForDb resolve lease.path)
    (leases : following.leases = lease :: world.leases)
    (acquired : following.acquired = world.acquired + 1)
    (released : following.released = world.released) : Table resolve following := by
  refine ⟨?_, ?_, ?_⟩
  · rw [leases, acquired, released, List.range_succ, List.map_cons, List.cons_append, number]
    exact (table.once.cons _).trans (List.perm_append_singleton _ _).symm
  · rw [leases]
    exact .cons (apart_of_free free) table.apart
  · intro other member
    rw [leases] at member
    rcases List.mem_cons.mp member with rfl | member
    · exact file
    · exact table.file other member

theorem Table.releases {world following : World} (table : Table resolve world) {lease : Lease}
    (held : lease ∈ world.leases) (leases : following.leases = world.leases.erase lease)
    (released : following.released = lease.number :: world.released)
    (acquired : following.acquired = world.acquired) : Table resolve following := by
  refine ⟨?_, ?_, ?_⟩
  · rw [leases, released, acquired]
    have split := (List.perm_cons_erase held).map (·.number)
    have moved : ((world.leases.erase lease).map (·.number) ++ lease.number :: world.released).Perm
        (world.leases.map (·.number) ++ world.released) :=
      List.perm_middle.trans ((split.append_right world.released).symm)
    exact moved.trans table.once
  · rw [leases]
    exact table.apart.sublist List.erase_sublist
  · intro other member
    rw [leases] at member
    exact table.file other (List.mem_of_mem_erase member)

theorem top_mem {world : World} {stack : Nat} {lease : Lease}
    (top : world.top stack = some lease) : lease ∈ world.leases ∧ lease.stack = stack :=
  ⟨List.mem_of_find?_eq_some top, by simpa using List.find?_some top⟩

theorem close_owner_leases (world : World) (stack : Nat) :
    (closeOwner world stack).leases = world.leases ∧
      (closeOwner world stack).acquired = world.acquired ∧
      (closeOwner world stack).released = world.released ∧
      (closeOwner world stack).created = world.created ∧
      (closeOwner world stack).callers = world.callers := by
  unfold closeOwner
  dsimp only
  split <;> exact ⟨rfl, rfl, rfl, rfl, rfl⟩

inductive TableMoves (resolve : Path → Path) (world : World) (action : Action)
    (following : World) : Prop where
  | same (leases : following.leases = world.leases)
      (acquired : following.acquired = world.acquired)
      (released : following.released = world.released)
  | locks (lease : Lease)
      (free : world.contended lease.lockFile lease.exclusive = false)
      (number : lease.number = world.acquired)
      (file : lease.lockFile = lockPathForDb resolve lease.path)
      (leases : following.leases = lease :: world.leases)
      (acquired : following.acquired = world.acquired + 1)
      (released : following.released = world.released)
  | releases (lease : Lease) (held : lease ∈ world.leases)
      (chosen : action = .release lease.stack)
      (closing : (world.exitStacks lease.stack).closing = true)
      (leases : following.leases = world.leases.erase lease)
      (released : following.released = lease.number :: world.released)
      (acquired : following.acquired = world.acquired)

theorem moves_leases {world following : World} {action : Action}
    (moves : Moves resolve world action following) : TableMoves resolve world action following := by
  cases moves with
  | locks caller raises request stack path exclusive rest ready free =>
      exact .locks _ free rfl rfl rfl rfl rfl
  | releases stack lease closing top =>
      have ⟨member, same⟩ := top_mem top
      subst same
      exact .releases lease member rfl closing rfl rfl rfl
  | leavesOwned caller raising token saved rest ready frames kept =>
      have ⟨leases, acquired, released, _⟩ := close_owner_leases world token.leaseOwner
      exact .same leases acquired released
  | closesTransfer caller stack rest ready frames opened | closes stack transferred opened =>
      have ⟨leases, acquired, released, _⟩ := close_owner_leases world stack
      exact .same leases acquired released
  | _ => exact .same rfl rfl rfl

theorem moves_table {world following : World} {action : Action} (table : Table resolve world)
    (moves : Moves resolve world action following) : Table resolve following := by
  cases moves_leases moves with
  | same leases acquired released =>
      refine ⟨?_, ?_, ?_⟩
      · rw [leases, acquired, released]
        exact table.once
      · rw [leases]
        exact table.apart
      · rw [leases]
        exact table.file
  | locks lease free number file leases acquired released =>
      exact table.locks free number file leases acquired released
  | releases lease held chosen closing leases released acquired =>
      exact table.releases held leases released acquired

/-! ## The context variable -/

def currentOf (inherited : Option Token) : List Frame → Option Token
  | [] => inherited
  | .admitted token _ :: _ | .installed token _ :: _ => some token
  | .nested :: rest | .transferring _ :: rest => currentOf inherited rest

def Restores (inherited : Option Token) : List Frame → Prop
  | [] => True
  | .admitted _ saved :: rest | .installed _ saved :: rest =>
      saved = currentOf inherited rest ∧ Restores inherited rest
  | .nested :: rest | .transferring _ :: rest => Restores inherited rest

def Point.looping : Point → Bool
  | .locking _ _ _ | .releasing _ (some _) | .checking _ | .sleeping _ => true
  | _ => false

structure Context (record : Caller) : Prop where
  current : record.current = currentOf record.inherited record.frames
  restores : Restores record.inherited record.frames
  outside : record.point.looping = true → record.current = none

theorem empty_context (caller : Nat) : Context (emptyWorld.callers caller) where
  current := rfl
  restores := trivial
  outside := by simp [emptyWorld]

theorem context_of_update {world following : World} (caller : Nat) (record : Caller)
    (contexts : ∀ other, Context (world.callers other))
    (callers : following.callers = Function.update world.callers caller record)
    (context : Context record) (other : Nat) : Context (following.callers other) := by
  rw [callers]
  by_cases same : other = caller
  · subst same
    simpa using context
  · simpa [same] using contexts other

theorem close_owner_callers (world : World) (stack : Nat) :
    (closeOwner world stack).callers = world.callers :=
  (close_owner_leases world stack).2.2.2.2

theorem moves_context {world following : World} {action : Action}
    (contexts : ∀ caller, Context (world.callers caller))
    (moves : Moves resolve world action following) (other : Nat) :
    Context (following.callers other) := by
  cases moves with
  | ignored => exact contexts other
  | nests caller request ready =>
      have ⟨current, restores, _⟩ := contexts caller
      refine context_of_update caller _ contexts rfl ?_ other
      exact ⟨current, restores, by simp [ready, Point.looping]⟩
  | attempts _ caller request ready =>
      have ⟨current, restores, outside⟩ := contexts caller
      refine context_of_update caller _ contexts rfl ?_ other
      refine ⟨current, restores, fun _ => ?_⟩
      rcases ready with ⟨_, none⟩ | asleep
      · exact none
      · exact outside (by rw [asleep]; rfl)
  | abandons caller raises request stack remaining retry ready
  | locks caller raises request stack path exclusive rest ready free =>
      have ⟨current, restores, outside⟩ := contexts caller
      refine context_of_update caller _ contexts rfl ?_ other
      exact ⟨current, restores, fun _ => outside (by rw [ready]; rfl)⟩
  | publishes caller raises request stack token ready issued =>
      have ⟨current, restores, _⟩ := contexts caller
      refine context_of_update caller _ contexts rfl ?_ other
      exact ⟨rfl, ⟨current, restores⟩, by simp [Point.looping]⟩
  | releases => exact contexts other
  | proceeds caller stack retry ready empty =>
      have ⟨current, restores, outside⟩ := contexts caller
      refine context_of_update caller _ contexts rfl ?_ other
      refine ⟨current, restores, fun loops => outside ?_⟩
      rw [ready]
      cases retry with
      | none => cases loops
      | some request => rfl
  | tests caller expired request ready =>
      have ⟨current, restores, outside⟩ := contexts caller
      refine context_of_update caller _ contexts rfl ?_ other
      exact ⟨current, restores, fun _ => outside (by rw [ready]; rfl)⟩
  | leavesTransferred caller raising token saved rest ready frames transferred
  | leavesInstalled caller raising token saved rest ready frames =>
      have ⟨_, restores, _⟩ := contexts caller
      rw [frames] at restores
      refine context_of_update caller _ contexts rfl ?_ other
      exact ⟨restores.1, restores.2, by simp [ready, Point.looping]⟩
  | leavesOwned caller raising token saved rest ready frames kept =>
      have ⟨_, restores, _⟩ := contexts caller
      rw [frames] at restores
      rw [← close_owner_callers world token.leaseOwner] at contexts
      refine context_of_update caller _ contexts rfl ?_ other
      exact ⟨restores.1, restores.2, by simp [Point.looping]⟩
  | leavesNested caller raising rest ready frames
  | leavesTransfer caller raising _ rest ready frames =>
      have ⟨current, restores, _⟩ := contexts caller
      rw [frames] at current restores
      refine context_of_update caller _ contexts rfl ?_ other
      exact ⟨current, restores, by simp [ready, Point.looping]⟩
  | closesTransfer caller stack rest ready frames opened =>
      have ⟨current, restores, _⟩ := contexts caller
      rw [frames] at current restores
      rw [← close_owner_callers world stack] at contexts
      refine context_of_update caller _ contexts rfl ?_ other
      exact ⟨current, restores, by simp [Point.looping]⟩
  | transfers caller stack managed frame ready member inside opened kept =>
      have ⟨current, restores, _⟩ := contexts caller
      refine context_of_update caller _ contexts rfl ?_ other
      cases managed <;> exact ⟨current, restores, by simp [ready, Point.looping]⟩
  | installs caller token ready =>
      have ⟨current, restores, _⟩ := contexts caller
      refine context_of_update caller _ contexts rfl ?_ other
      exact ⟨rfl, ⟨current, restores⟩, by simp [ready, Point.looping]⟩
  | copies caller source ready outermost =>
      refine context_of_update caller _ contexts rfl ?_ other
      refine ⟨?_, ?_, by simp [ready, Point.looping]⟩
      · simp [outermost, currentOf]
      · simp [outermost, Restores]
  | closes stack transferred opened =>
      rw [close_owner_callers]
      exact contexts other

/-! ## Who owns a stack -/

structure Stack.Consistent (record : Stack) : Prop where
  transferred : record.transferred = true → record.owned = true
  closed : record.closed = true → record.owned = true
  closing : record.owned = true → record.closing = record.closed

def Owns (record : Caller) (stack : Nat) : Prop :=
  ∃ frame ∈ record.frames, frame.stack = some stack

def Present (record : Caller) (stack : Nat) : Prop :=
  (∃ request remaining, record.point = .locking request stack remaining) ∨
    (∃ retry, record.point = .releasing stack retry) ∨ Owns record stack

structure Local (world : World) (caller : Nat) : Prop where
  locking : ∀ request stack remaining,
    (world.callers caller).point = .locking request stack remaining →
    stack < world.created ∧ (world.exitStacks stack).caller = caller ∧
      (world.exitStacks stack).owned = false ∧ (world.exitStacks stack).closing = false
  releasing : ∀ stack retry, (world.callers caller).point = .releasing stack retry →
    stack < world.created ∧ (world.exitStacks stack).closing = true
  owns : ∀ stack, Owns (world.callers caller) stack →
    stack < world.created ∧ (world.exitStacks stack).caller = caller ∧
      (world.exitStacks stack).owned = true ∧
      ((world.exitStacks stack).transferred = false → (world.exitStacks stack).closed = false)
  transferring : ∀ stack, .transferring stack ∈ (world.callers caller).frames →
    stack < world.created ∧ (world.exitStacks stack).transferred = true
  distinct : ((world.callers caller).frames.filterMap Frame.stack).Nodup

structure Resident (world : World) (lease : Lease) : Prop where
  created : lease.stack < world.created
  held : (world.exitStacks lease.stack).transferred = true ∨
    Present (world.callers (world.exitStacks lease.stack).caller) lease.stack

structure Ownership (world : World) : Prop where
  fresh : ∀ stack, world.created ≤ stack → world.exitStacks stack = {}
  flags : ∀ stack, (world.exitStacks stack).Consistent
  callers : ∀ caller, Local world caller
  leases : ∀ lease ∈ world.leases, Resident world lease

theorem empty_ownership : Ownership emptyWorld := by
  refine ⟨by simp [emptyWorld], fun stack => ?_, fun caller => ?_, by simp [emptyWorld]⟩
  · constructor <;> simp [emptyWorld]
  · constructor <;> simp [emptyWorld, Owns]

/-- What the others may rely on when a stack changes. -/
structure Keeps (before after : Stack) : Prop where
  caller : after.caller = before.caller
  owned : before.owned = true → after.owned = true
  transferred : before.transferred = true → after.transferred = true
  closing : before.closing = true → after.closing = true

theorem Local.unchanged {world following : World} {caller : Nat} (place : Local world caller)
    (record : following.callers caller = world.callers caller)
    (created : world.created ≤ following.created)
    (keeps : ∀ stack, stack < world.created →
      Keeps (world.exitStacks stack) (following.exitStacks stack))
    (own : ∀ stack, stack < world.created → (world.exitStacks stack).caller = caller →
      (world.exitStacks stack).transferred = false →
      following.exitStacks stack = world.exitStacks stack)
    (flags : ∀ stack, (world.exitStacks stack).Consistent) : Local following caller := by
  refine ⟨?_, ?_, ?_, ?_, by rw [record]; exact place.distinct⟩
  · intro request stack remaining ready
    rw [record] at ready
    have ⟨below, mine, bare, opened⟩ := place.locking request stack remaining ready
    have kept : (world.exitStacks stack).transferred = false := by
      by_contra given
      rw [(flags stack).transferred (by simpa using given)] at bare
      cases bare
    rw [own stack below mine kept]
    exact ⟨Nat.lt_of_lt_of_le below created, mine, bare, opened⟩
  · intro stack retry ready
    rw [record] at ready
    have ⟨below, closing⟩ := place.releasing stack retry ready
    exact ⟨Nat.lt_of_lt_of_le below created, (keeps stack below).closing closing⟩
  · intro stack owns
    rw [record] at owns
    have ⟨below, mine, owned, opened⟩ := place.owns stack owns
    refine ⟨Nat.lt_of_lt_of_le below created, (keeps stack below).caller.trans mine,
      (keeps stack below).owned owned, fun kept => ?_⟩
    have before : (world.exitStacks stack).transferred = false := by
      by_contra given
      rw [(keeps stack below).transferred (by simpa using given)] at kept
      cases kept
    rw [own stack below mine before]
    exact opened before
  · intro stack member
    rw [record] at member
    have ⟨below, given⟩ := place.transferring stack member
    exact ⟨Nat.lt_of_lt_of_le below created, (keeps stack below).transferred given⟩

/-- The rule for one acting caller: it shows its own place, that it leaves the
exit stacks of others alone, and that it does not drop a lease. -/
theorem Ownership.acts {world following : World} (ownership : Ownership world) (caller : Nat)
    (record : Caller) (callers : following.callers = Function.update world.callers caller record)
    (created : world.created ≤ following.created)
    (fresh : ∀ stack, following.created ≤ stack → following.exitStacks stack = {})
    (flags : ∀ stack, (following.exitStacks stack).Consistent)
    (keeps : ∀ stack, stack < world.created →
      Keeps (world.exitStacks stack) (following.exitStacks stack))
    (own : ∀ stack, stack < world.created → (world.exitStacks stack).caller ≠ caller →
      (world.exitStacks stack).transferred = false →
      following.exitStacks stack = world.exitStacks stack)
    (place : Local following caller)
    (leases : ∀ lease ∈ following.leases, lease ∈ world.leases ∨ Resident following lease)
    (present : ∀ lease ∈ following.leases, Present (world.callers caller) lease.stack →
      (following.exitStacks lease.stack).transferred = true ∨ Present record lease.stack) :
    Ownership following := by
  refine ⟨fresh, flags, ?_, ?_⟩
  · intro other
    by_cases same : other = caller
    · exact same ▸ place
    · refine (ownership.callers other).unchanged ?_ created keeps ?_ ownership.flags
      · rw [callers, Function.update_of_ne same]
      · intro stack old owner kept
        exact own stack old (fun mine => same (owner.symm.trans mine)) kept
  · intro lease member
    rcases leases lease member with old | resident
    · have ⟨before, held⟩ := ownership.leases lease old
      refine ⟨Nat.lt_of_lt_of_le before created, ?_⟩
      rw [(keeps lease.stack before).caller]
      rcases held with given | here
      · exact .inl ((keeps lease.stack before).transferred given)
      · by_cases same : (world.exitStacks lease.stack).caller = caller
        · rw [same] at here ⊢
          rw [callers, Function.update_self]
          exact present lease member here
        · rw [callers, Function.update_of_ne same]
          exact .inr here
    · exact resident

/-- The caller changes one stack, its own or a transferred one. -/
theorem Ownership.sets {world following : World} (ownership : Ownership world) (caller : Nat)
    (record : Caller) (stack : Nat) (changed : Stack)
    (callers : following.callers = Function.update world.callers caller record)
    (exitStacks : following.exitStacks = Function.update world.exitStacks stack changed)
    (created : following.created = world.created) (below : stack < world.created)
    (flags : changed.Consistent) (keeps : Keeps (world.exitStacks stack) changed)
    (mine : (world.exitStacks stack).caller = caller ∨ (world.exitStacks stack).transferred = true)
    (place : Local following caller) (leases : following.leases = world.leases)
    (present : ∀ lease ∈ world.leases, Present (world.callers caller) lease.stack →
      (following.exitStacks lease.stack).transferred = true ∨ Present record lease.stack) :
    Ownership following := by
  refine ownership.acts caller record callers (Nat.le_of_eq created.symm) ?_ ?_ ?_ ?_ place
    (fun lease member => .inl (leases ▸ member)) (by rw [leases]; exact present)
  · intro other late
    have different : other ≠ stack := by
      rintro rfl
      exact absurd below (Nat.not_lt_of_le (created ▸ late))
    rw [exitStacks, Function.update_of_ne different]
    exact ownership.fresh other (created ▸ late)
  · intro other
    by_cases same : other = stack
    · subst same
      simpa [exitStacks] using flags
    · rw [exitStacks, Function.update_of_ne same]
      exact ownership.flags other
  · intro other old
    by_cases same : other = stack
    · subst same
      simpa [exitStacks] using keeps
    · rw [exitStacks, Function.update_of_ne same]
      exact ⟨rfl, id, id, id⟩
  · intro other old foreign kept
    have different : other ≠ stack := by
      rintro rfl
      rcases mine with own | given
      · exact foreign own
      · rw [kept] at given
        cases given
    rw [exitStacks, Function.update_of_ne different]

/-- The rule for a caller that changes one stack and stops locking, by what it does
to the other exit stacks and to that one. -/
theorem Ownership.changes {world following : World} (ownership : Ownership world) (caller : Nat)
    (record : Caller) (stack : Nat) (changed : Stack)
    (callers : following.callers = Function.update world.callers caller record)
    (exitStacks : following.exitStacks = Function.update world.exitStacks stack changed)
    (created : following.created = world.created) (leases : following.leases = world.leases)
    (below : stack < world.created)
    (flags : changed.Consistent) (keeps : Keeps (world.exitStacks stack) changed)
    (mine : (world.exitStacks stack).caller = caller ∨ (world.exitStacks stack).transferred = true)
    (locking : ∀ request other remaining, record.point ≠ .locking request other remaining)
    (releasing : ∀ other retry, record.point = .releasing other retry →
      other = stack ∧ changed.closing = true)
    (owns : ∀ other, other ≠ stack → Owns record other → Owns (world.callers caller) other)
    (body : Owns record stack → (world.exitStacks stack).caller = caller ∧ changed.owned = true ∧
      (changed.transferred = false → changed.closed = false))
    (transferring : ∀ other, other ≠ stack → .transferring other ∈ record.frames →
      .transferring other ∈ (world.callers caller).frames)
    (handed : .transferring stack ∈ record.frames → changed.transferred = true)
    (distinct : (record.frames.filterMap Frame.stack).Nodup)
    (present : ∀ other, other ≠ stack → Present (world.callers caller) other →
      Present record other)
    (here : changed.transferred = true ∨ Present record stack) : Ownership following := by
  have place := ownership.callers caller
  have current : following.callers caller = record := by rw [callers, Function.update_self]
  have others {other : Nat} (different : other ≠ stack) :
      following.exitStacks other = world.exitStacks other := by
    rw [exitStacks, Function.update_of_ne different]
  have new : following.exitStacks stack = changed := by rw [exitStacks, Function.update_self]
  refine ownership.sets caller record stack changed callers exitStacks created below flags keeps mine
    ?_ leases ?_
  · refine ⟨?_, ?_, ?_, ?_, ?_⟩ <;> rw [current]
    · exact fun request other remaining ready => absurd ready (locking request other remaining)
    · intro other retry ready
      obtain ⟨rfl, closing⟩ := releasing other retry ready
      rw [new, created]
      exact ⟨below, closing⟩
    · intro other held
      rw [created]
      by_cases same : other = stack
      · subst same
        rw [new, keeps.caller]
        exact ⟨below, body held⟩
      · rw [others same]
        exact place.owns other (owns other same held)
    · intro other member
      rw [created]
      by_cases same : other = stack
      · subst same
        rw [new]
        exact ⟨below, handed member⟩
      · rw [others same]
        exact place.transferring other (transferring other same member)
    · exact distinct
  · intro lease member held
    by_cases same : lease.stack = stack
    · rw [same, new]
      exact here
    · exact .inr (present lease.stack same held)

/-- The caller changes no stack. -/
theorem Ownership.steps {world following : World} (ownership : Ownership world) (caller : Nat)
    (record : Caller) (callers : following.callers = Function.update world.callers caller record)
    (exitStacks : following.exitStacks = world.exitStacks) (created : following.created = world.created)
    (place : Local following caller)
    (leases : ∀ lease ∈ following.leases, lease ∈ world.leases ∨ Resident following lease)
    (present : ∀ lease ∈ following.leases, Present (world.callers caller) lease.stack →
      (following.exitStacks lease.stack).transferred = true ∨ Present record lease.stack) :
    Ownership following := by
  refine ownership.acts caller record callers (Nat.le_of_eq created.symm) ?_ ?_ ?_ ?_ place
    leases present
  · rw [exitStacks, created]
    exact ownership.fresh
  · rw [exitStacks]
    exact ownership.flags
  · rw [exitStacks]
    exact fun _ _ => ⟨rfl, id, id, id⟩
  · exact fun stack _ _ _ => by rw [exitStacks]

/-- The caller is neither locking nor releasing. -/
def Point.free : Point → Bool
  | .running | .checking _ | .sleeping _ => true
  | _ => false

theorem Point.free_locking {point : Point} (free : point.free = true) (request : Request)
    (stack : Nat) (remaining : List (Path × Bool)) :
    point ≠ .locking request stack remaining := by
  rintro rfl
  cases free

theorem Point.free_releasing {point : Point} (free : point.free = true) (stack : Nat)
    (retry : Option Request) : point ≠ .releasing stack retry := by
  rintro rfl
  cases free

/-- A free caller holds only what its bodies hold. -/
theorem Present.owns {record : Caller} {stack : Nat} (present : Present record stack)
    (free : record.point.free = true) : Owns record stack := by
  rcases present with ⟨request, remaining, ready⟩ | ⟨retry, ready⟩ | owns
  · exact absurd ready (Point.free_locking free _ _ _)
  · exact absurd ready (Point.free_releasing free _ _)
  · exact owns

/-- The caller comes to rest, or leaves a block whose stack was transferred. -/
theorem Ownership.rests {world following : World} (ownership : Ownership world) (caller : Nat)
    (record : Caller) (callers : following.callers = Function.update world.callers caller record)
    (exitStacks : following.exitStacks = world.exitStacks) (created : following.created = world.created)
    (leases : following.leases = world.leases) (free : record.point.free = true)
    (owns : ∀ stack, Owns record stack → Owns (world.callers caller) stack)
    (transferring : ∀ stack, .transferring stack ∈ record.frames →
      .transferring stack ∈ (world.callers caller).frames)
    (distinct : (record.frames.filterMap Frame.stack).Nodup)
    (drops : ∀ lease ∈ world.leases, Present (world.callers caller) lease.stack →
      (world.exitStacks lease.stack).transferred = true ∨ Owns record lease.stack) :
    Ownership following := by
  have place := ownership.callers caller
  have mine : following.callers caller = record := by simp [callers]
  refine ownership.steps caller record callers exitStacks created ?_
    (fun lease member => .inl (leases ▸ member)) ?_
  · refine ⟨?_, ?_, ?_, ?_, by rw [mine]; exact distinct⟩
    · rw [mine]
      exact fun _ _ _ ready => absurd ready (Point.free_locking free _ _ _)
    · rw [mine]
      exact fun _ _ ready => absurd ready (Point.free_releasing free _ _)
    · rw [mine, exitStacks, created]
      exact fun stack held => place.owns stack (owns stack held)
    · rw [mine, exitStacks, created]
      exact fun stack member => place.transferring stack (transferring stack member)
  · rw [leases, exitStacks]
    exact fun lease member present => (drops lease member present).imp_right (.inr ∘ .inr)

/-- A block that owns no stack is entered or left. -/
theorem Ownership.rests_frame {world following : World} (ownership : Ownership world)
    (caller : Nat) (record : Caller)
    (callers : following.callers = Function.update world.callers caller record)
    (exitStacks : following.exitStacks = world.exitStacks) (created : following.created = world.created)
    (leases : following.leases = world.leases)
    (ready : (world.callers caller).point = .running) (running : record.point = .running)
    (frames : record.frames.filterMap Frame.stack =
      (world.callers caller).frames.filterMap Frame.stack)
    (transferring : ∀ stack, .transferring stack ∈ record.frames →
      .transferring stack ∈ (world.callers caller).frames) : Ownership following := by
  have same (stack : Nat) : Owns record stack ↔ Owns (world.callers caller) stack := by
    unfold Owns
    rw [← List.mem_filterMap, ← List.mem_filterMap, frames]
  refine ownership.rests caller record callers exitStacks created leases (by rw [running]; rfl)
    (fun stack => (same stack).mp) transferring (frames ▸ (ownership.callers caller).distinct) ?_
  intro lease member present
  exact .inr ((same _).mpr (present.owns (by rw [ready]; rfl)))

theorem top_none {world : World} {stack : Nat} (empty : world.top stack = none) {lease : Lease}
    (member : lease ∈ world.leases) : lease.stack ≠ stack := by
  have none := List.find?_eq_none.mp empty lease member
  simpa using none

theorem close_owner_opened {world : World} {stack : Nat}
    (opened : (world.exitStacks stack).closed = false) :
    closeOwner world stack = world.setStack stack
      { world.exitStacks stack with closed := true, closing := true } := by
  simp [closeOwner, opened]

theorem attempt_ownership {world following : World} (ownership : Ownership world)
    (caller : Nat) (record : Caller) (request : Request) (remaining : List (Path × Bool))
    (free : (world.callers caller).point.free = true)
    (point : record.point = .locking request world.created remaining)
    (frames : record.frames = (world.callers caller).frames)
    (callers : following.callers = Function.update world.callers caller record)
    (exitStacks : following.exitStacks = Function.update world.exitStacks world.created { caller := caller })
    (created : following.created = world.created + 1)
    (leases : following.leases = world.leases) : Ownership following := by
  have place := ownership.callers caller
  have mine : following.callers caller = record := by rw [callers, Function.update_self]
  have newest : following.exitStacks world.created = { caller := caller } := by
    rw [exitStacks, Function.update_self]
  have others {stack : Nat} (different : stack ≠ world.created) :
      following.exitStacks stack = world.exitStacks stack := by
    rw [exitStacks, Function.update_of_ne different]
  have older {stack : Nat} (below : stack < world.created) :
      following.exitStacks stack = world.exitStacks stack := others (Nat.ne_of_lt below)
  refine ownership.acts caller record callers (created ▸ Nat.le_succ _) ?_ ?_ ?_ ?_ ?_
    (fun lease member => .inl (leases ▸ member)) ?_
  · intro stack late
    rw [created] at late
    rw [others (Nat.ne_of_gt late)]
    exact ownership.fresh stack (Nat.le_of_succ_le late)
  · intro stack
    by_cases same : stack = world.created
    · rw [same, newest]
      constructor <;> simp
    · rw [others same]
      exact ownership.flags stack
  · intro stack below
    rw [older below]
    exact ⟨rfl, id, id, id⟩
  · exact fun stack below _ _ => older below
  · refine ⟨?_, ?_, ?_, ?_, ?_⟩ <;> rw [mine]
    · intro other stack rest ready
      rw [point] at ready
      obtain ⟨_, rfl, _⟩ := Point.locking.inj ready
      rw [newest, created]
      exact ⟨Nat.lt_succ_self _, rfl, rfl, rfl⟩
    · intro stack retry ready
      rw [point] at ready
      cases ready
    · rintro stack ⟨frame, member, same⟩
      rw [frames] at member
      have ⟨below, rest⟩ := place.owns stack ⟨frame, member, same⟩
      rw [older below, created]
      exact ⟨Nat.lt_succ_of_lt below, rest⟩
    · rw [frames]
      intro stack member
      have ⟨below, given⟩ := place.transferring stack member
      rw [older below, created]
      exact ⟨Nat.lt_succ_of_lt below, given⟩
    · rw [frames]
      exact place.distinct
  · intro lease _ present
    have ⟨frame, member, same⟩ := present.owns free
    exact .inr (.inr (.inr ⟨frame, frames ▸ member, same⟩))

/-- The stack of an attempt has no owner. -/
theorem Ownership.locking_bare {world : World} (ownership : Ownership world) {caller : Nat}
    {request : Request} {stack : Nat} {remaining : List (Path × Bool)}
    (ready : (world.callers caller).point = .locking request stack remaining) :
    ¬Owns (world.callers caller) stack ∧ (world.exitStacks stack).transferred = false ∧
      (world.exitStacks stack).closed = false := by
  have place := ownership.callers caller
  have flags := ownership.flags stack
  have ⟨_, _, bare, _⟩ := place.locking request stack remaining ready
  refine ⟨fun owns => ?_, ?_, ?_⟩
  · rw [(place.owns stack owns).2.2.1] at bare
    cases bare
  · by_contra given
    rw [flags.transferred (by simpa using given)] at bare
    cases bare
  · by_contra closed
    rw [flags.closed (by simpa using closed)] at bare
    cases bare

/-- Whatever else the caller holds during an attempt belongs to its bodies. -/
theorem locking_present {world : World} {caller : Nat}
    {request : Request} {stack : Nat} {remaining : List (Path × Bool)}
    (ready : (world.callers caller).point = .locking request stack remaining) {other : Nat}
    (different : other ≠ stack) (present : Present (world.callers caller) other) :
    Owns (world.callers caller) other := by
  rcases present with ⟨_, _, locking⟩ | ⟨_, releasing⟩ | owns
  · rw [ready] at locking
    exact absurd (Point.locking.inj locking).2.1.symm different
  · rw [ready] at releasing
    cases releasing
  · exact owns

theorem abandon_ownership {world : World} (ownership : Ownership world) {caller : Nat}
    {request : Request} {stack : Nat} {remaining : List (Path × Bool)} {retry : Option Request}
    (ready : (world.callers caller).point = .locking request stack remaining) :
    Ownership (abandon world caller stack retry) := by
  have place := ownership.callers caller
  have ⟨below, owner, bare, opened⟩ := place.locking request stack remaining ready
  have ⟨outside, kept, _⟩ := ownership.locking_bare ready
  have flags := ownership.flags stack
  refine ownership.changes caller _ stack _ rfl rfl rfl rfl below ⟨flags.1, flags.2, ?_⟩
    ⟨rfl, id, id, fun _ => rfl⟩ (.inl owner) (fun _ _ _ => nofun) ?_ (fun _ _ => id)
    (fun owns => absurd owns outside) (fun _ _ => id) ?_ place.distinct ?_
    (.inr (.inr (.inl ⟨retry, rfl⟩)))
  · simp [bare]
  · intro other again releasing
    exact ⟨(Point.releasing.inj releasing).1.symm, rfl⟩
  · exact fun member => (place.transferring stack member).2
  · intro other different present
    exact .inr (.inr (locking_present ready different present))

theorem lock_ownership {world following : World} (ownership : Ownership world) (caller : Nat)
    (request : Request) (stack : Nat) (entry : Path × Bool) (rest : List (Path × Bool))
    (lease : Lease) (entered : lease.stack = stack)
    (ready : (world.callers caller).point = .locking request stack (entry :: rest))
    (callers : following.callers = Function.update world.callers caller
      { world.callers caller with point := .locking request stack rest })
    (exitStacks : following.exitStacks = world.exitStacks) (created : following.created = world.created)
    (leases : following.leases = lease :: world.leases) : Ownership following := by
  have place := ownership.callers caller
  have ⟨below, owner, bare, opened⟩ := place.locking request stack _ ready
  have mine : following.callers caller =
      { world.callers caller with point := .locking request stack rest } := by
    rw [callers, Function.update_self]
  refine ownership.steps caller _ callers exitStacks created ?_ ?_ ?_
  · refine ⟨?_, ?_, ?_, ?_, ?_⟩ <;> rw [mine]
    · intro again other remaining locking
      obtain ⟨_, rfl, _⟩ := Point.locking.inj locking
      rw [exitStacks, created]
      exact ⟨below, owner, bare, opened⟩
    · intro other retry releasing
      cases releasing
    · rw [exitStacks, created]
      exact place.owns
    · rw [exitStacks, created]
      exact place.transferring
    · exact place.distinct
  · intro other member
    rw [leases] at member
    rcases List.mem_cons.mp member with rfl | member
    · refine .inr ⟨?_, .inr (.inl ⟨request, rest, ?_⟩)⟩
      · rw [entered, created]
        exact below
      · rw [entered, exitStacks, owner, mine]
    · exact .inl member
  · intro other member present
    by_cases same : other.stack = stack
    · exact .inr (.inl ⟨request, rest, by rw [same]⟩)
    · exact .inr (.inr (.inr (locking_present ready same present)))

theorem publish_ownership {world following : World} (ownership : Ownership world)
    (caller : Nat) (request : Request) (token : Token) (saved : Option Token) (record : Caller)
    (ready : (world.callers caller).point = .locking request token.leaseOwner [])
    (running : record.point = .running)
    (frames : record.frames = .admitted token saved :: (world.callers caller).frames)
    (callers : following.callers = Function.update world.callers caller record)
    (exitStacks : following.exitStacks = Function.update world.exitStacks token.leaseOwner
      { world.exitStacks token.leaseOwner with owned := true })
    (created : following.created = world.created) (leases : following.leases = world.leases) :
    Ownership following := by
  have place := ownership.callers caller
  have ⟨below, owner, _, opened⟩ := place.locking _ _ _ ready
  have ⟨outside, kept, unclosed⟩ := ownership.locking_bare ready
  refine ownership.changes caller record token.leaseOwner _ callers exitStacks created leases below
    ⟨fun _ => rfl, fun _ => rfl, fun _ => opened.trans unclosed.symm⟩
    ⟨rfl, fun _ => rfl, id, id⟩ (.inl owner) ?_ ?_ ?_ (fun _ => ⟨owner, rfl, fun _ => unclosed⟩)
    ?_ ?_ ?_ ?_ ?_
  · rw [running]
    exact fun _ _ _ => nofun
  · rw [running]
    exact fun _ _ => nofun
  · rintro other different ⟨frame, member, same⟩
    rw [frames] at member
    rcases List.mem_cons.mp member with rfl | member
    · exact absurd (Option.some.inj same).symm different
    · exact ⟨frame, member, same⟩
  · rw [frames]
    intro other _ member
    simpa using member
  · rw [frames]
    intro member
    exact (place.transferring _ (by simpa using member)).2
  · have fresh : token.leaseOwner ∉ (world.callers caller).frames.filterMap Frame.stack := by
      rw [List.mem_filterMap]
      exact outside
    rw [frames]
    exact List.nodup_cons.mpr ⟨fresh, place.distinct⟩
  · intro other different present
    have ⟨frame, member, same⟩ := locking_present ready different present
    exact .inr (.inr ⟨frame, by rw [frames]; exact List.mem_cons_of_mem _ member, same⟩)
  · exact .inr (.inr (.inr ⟨_, by rw [frames]; exact List.mem_cons_self, rfl⟩))

/-- The caller leaves its innermost block, which closes the owner of the stack. -/
theorem close_ownership {world following : World} (ownership : Ownership world)
    (caller stack : Nat) (frame : Frame) (rest : List Frame) (record : Caller)
    (ready : (world.callers caller).point = .running)
    (frames : (world.callers caller).frames = frame :: rest)
    (left : frame.stack = none ∨ frame.stack = some stack)
    (below : stack < world.created) (owned : (world.exitStacks stack).owned = true)
    (mine : (world.exitStacks stack).caller = caller ∨ (world.exitStacks stack).transferred = true)
    (outside : (world.exitStacks stack).transferred = false → frame.stack = some stack)
    (point : record.point = .releasing stack none) (remaining : record.frames = rest)
    (callers : following.callers = Function.update world.callers caller record)
    (exitStacks : following.exitStacks = Function.update world.exitStacks stack
      { world.exitStacks stack with closed := true, closing := true })
    (created : following.created = world.created) (leases : following.leases = world.leases) :
    Ownership following := by
  have place := ownership.callers caller
  have flags := ownership.flags stack
  have distinct := place.distinct
  rw [frames] at distinct
  refine ownership.changes caller record stack _ callers exitStacks created leases below
    ⟨flags.transferred, fun _ => owned, fun _ => rfl⟩ ⟨rfl, id, id, fun _ => rfl⟩ mine ?_ ?_ ?_ ?_
    ?_ ?_ ?_ ?_ (.inr (.inr (.inl ⟨none, point⟩)))
  · rw [point]
    exact fun _ _ _ => nofun
  · rw [point]
    intro other retry releasing
    exact ⟨(Point.releasing.inj releasing).1.symm, rfl⟩
  · rintro other _ ⟨held, member, same⟩
    rw [remaining] at member
    exact ⟨held, by rw [frames]; exact List.mem_cons_of_mem _ member, same⟩
  · rw [Owns, remaining]
    rintro ⟨held, member, same⟩
    have inside : Owns (world.callers caller) stack :=
      ⟨held, by rw [frames]; exact List.mem_cons_of_mem _ member, same⟩
    refine ⟨(place.owns stack inside).2.1, owned, fun kept => ?_⟩
    rw [List.filterMap_cons_some (outside kept), List.nodup_cons, List.mem_filterMap] at distinct
    exact absurd ⟨held, member, same⟩ distinct.1
  · rw [remaining, frames]
    exact fun _ _ => List.mem_cons_of_mem _
  · rw [remaining]
    intro member
    exact (place.transferring stack (by rw [frames]; exact List.mem_cons_of_mem _ member)).2
  · rw [remaining]
    exact distinct.sublist (List.Sublist.filterMap _ (List.sublist_cons_self _ _))
  · intro other different present
    have ⟨held, member, same⟩ := present.owns (by rw [ready]; rfl)
    rw [frames] at member
    rcases List.mem_cons.mp member with rfl | member
    · rcases left with none | own
      · rw [none] at same
        cases same
      · exact absurd (Option.some.inj (same.symm.trans own)) different
    · exact .inr (.inr ⟨held, remaining ▸ member, same⟩)

theorem transfer_ownership {world following : World} (ownership : Ownership world)
    (caller stack : Nat) (managed : Bool) (record : Caller)
    (ready : (world.callers caller).point = .running) (running : record.point = .running)
    (owns : Owns (world.callers caller) stack)
    (frames : record.frames = if managed then .transferring stack :: (world.callers caller).frames
      else (world.callers caller).frames)
    (callers : following.callers = Function.update world.callers caller record)
    (exitStacks : following.exitStacks = Function.update world.exitStacks stack
      { world.exitStacks stack with transferred := true })
    (created : following.created = world.created) (leases : following.leases = world.leases) :
    Ownership following := by
  have place := ownership.callers caller
  have flags := ownership.flags stack
  have ⟨below, owner, owned, _⟩ := place.owns stack owns
  have same : record.frames.filterMap Frame.stack =
      (world.callers caller).frames.filterMap Frame.stack := by
    rw [frames]
    cases managed <;> rfl
  have held (other : Nat) : Owns record other ↔ Owns (world.callers caller) other := by
    rw [Owns, Owns, ← List.mem_filterMap, ← List.mem_filterMap, same]
  refine ownership.changes caller record stack _ callers exitStacks created leases below
    ⟨fun _ => owned, fun _ => owned, flags.closing⟩ ⟨rfl, id, fun _ => rfl, id⟩ (.inl owner) ?_ ?_
    (fun other _ => (held other).mp) (fun _ => ⟨owner, owned, nofun⟩) ?_ (fun _ => rfl)
    (same ▸ place.distinct) ?_ (.inl rfl)
  · rw [running]
    exact fun _ _ _ => nofun
  · rw [running]
    exact fun _ _ => nofun
  · intro other different member
    rw [frames] at member
    cases managed with
    | false => exact member
    | true => exact (List.mem_cons.mp member).resolve_left (by simpa using different)
  · intro other _ present
    exact .inr (.inr ((held other).mpr (present.owns (by rw [ready]; rfl))))

/-- A transferred owner is closed by somebody else. -/
theorem hand_back_ownership {world : World} (ownership : Ownership world) (stack : Nat)
    (transferred : (world.exitStacks stack).transferred = true) :
    Ownership (world.setStack stack
      { world.exitStacks stack with closed := true, closing := true }) := by
  have owned := (ownership.flags stack).transferred transferred
  have below : stack < world.created := by
    by_contra late
    rw [ownership.fresh stack (Nat.le_of_not_lt late)] at transferred
    cases transferred
  refine ownership.sets (world.exitStacks stack).caller (world.callers (world.exitStacks stack).caller)
    stack _ (Function.update_eq_self _ _).symm rfl rfl below
    ⟨fun _ => owned, fun _ => owned, fun _ => rfl⟩ ⟨rfl, id, id, fun _ => rfl⟩ (.inl rfl) ?_ rfl
    (fun _ _ => .inr)
  refine (ownership.callers _).unchanged rfl (Nat.le_refl _) ?_ ?_ ownership.flags
  · intro other _
    by_cases same : other = stack
    · subst same
      rw [World.set_stack_self]
      exact ⟨rfl, id, id, fun _ => rfl⟩
    · rw [World.set_stack_of_ne _ same]
      exact ⟨rfl, id, id, id⟩
  · intro other _ _ kept
    refine Function.update_of_ne ?_ _ _
    rintro rfl
    rw [transferred] at kept
    cases kept

theorem moves_ownership {world following : World} {action : Action}
    (ownership : Ownership world) (moves : Moves resolve world action following) :
    Ownership following := by
  cases moves with
  | ignored => exact ownership
  | nests caller request ready =>
      exact ownership.rests_frame caller _ rfl rfl rfl rfl ready ready rfl
        (fun _ member => by simpa using member)
  | attempts _ caller request ready =>
      refine attempt_ownership ownership caller _ request _ ?_ rfl ?_ rfl rfl rfl rfl
      · rcases ready with ⟨running, _⟩ | asleep
        · rw [running]
          rfl
        · rw [asleep]
          rfl
      · rfl
  | abandons caller raises request stack remaining retry ready =>
      exact abandon_ownership ownership ready
  | locks caller raises request stack path exclusive rest ready free =>
      exact lock_ownership ownership caller request stack _ rest _ rfl ready rfl rfl rfl rfl
  | publishes caller raises request stack token ready issued =>
      have owner : token.leaseOwner = stack := issued ▸ rfl
      subst owner
      exact publish_ownership ownership caller request token _ _ ready rfl rfl rfl rfl rfl rfl
  | releases stack lease closing top =>
      refine ⟨ownership.fresh, ownership.flags, fun caller => ?_, fun other member => ?_⟩
      · exact (ownership.callers caller).unchanged rfl (Nat.le_refl _)
          (fun _ _ => ⟨rfl, id, id, id⟩) (fun _ _ _ _ => rfl) ownership.flags
      · have ⟨created, held⟩ := ownership.leases other (List.mem_of_mem_erase member)
        exact ⟨created, held⟩
  | proceeds caller stack retry ready empty =>
      refine ownership.rests caller _ rfl rfl rfl rfl (by cases retry <;> rfl) (fun _ => id)
        (fun _ => id) (ownership.callers caller).distinct ?_
      intro lease member present
      rcases present with ⟨_, _, locking⟩ | ⟨_, releasing⟩ | owns
      · rw [ready] at locking
        cases locking
      · rw [ready] at releasing
        exact absurd (Point.releasing.inj releasing).1.symm (top_none empty member)
      · exact .inr owns
  | tests caller expired request ready =>
      refine ownership.rests caller _ rfl rfl rfl rfl (by cases expired <;> rfl) (fun _ => id)
        (fun _ => id) (ownership.callers caller).distinct ?_
      exact fun lease _ present => .inr (present.owns (by rw [ready]; rfl))
  | leavesTransferred caller raising token saved rest ready frames transferred =>
      have distinct := (ownership.callers caller).distinct
      rw [frames] at distinct
      refine ownership.rests caller _ rfl rfl rfl rfl (by rw [ready]; rfl) ?_ ?_
        (List.nodup_cons.mp distinct).2 ?_
      · rintro stack ⟨frame, member, same⟩
        exact ⟨frame, by rw [frames]; exact List.mem_cons_of_mem _ member, same⟩
      · rw [frames]
        exact fun _ => List.mem_cons_of_mem _
      · intro lease _ present
        have ⟨frame, member, same⟩ := present.owns (by rw [ready]; rfl)
        rw [frames] at member
        rcases List.mem_cons.mp member with rfl | member
        · rw [← Option.some.inj same]
          exact .inl transferred
        · exact .inr ⟨frame, member, same⟩
  | leavesInstalled caller raising token saved rest ready frames =>
      refine ownership.rests_frame caller _ rfl rfl rfl rfl ready ready (by rw [frames]; rfl) ?_
      rw [frames]
      exact fun _ => List.mem_cons_of_mem _
  | leavesNested caller raising rest ready frames
  | leavesTransfer caller raising _ rest ready frames =>
      refine ownership.rests_frame caller _ rfl rfl rfl rfl ready ready (by rw [frames]; rfl) ?_
      rw [frames]
      exact fun _ => List.mem_cons_of_mem _
  | leavesOwned caller raising token saved rest ready frames kept =>
      have place := ownership.callers caller
      have ⟨below, owner, owned, opened⟩ := place.owns token.leaseOwner
        ⟨_, by rw [frames]; exact List.mem_cons_self, rfl⟩
      rw [close_owner_opened (opened kept)]
      exact close_ownership ownership caller token.leaseOwner _ rest _ ready frames (.inr rfl) below
        owned (.inl owner) (fun _ => rfl) rfl rfl rfl rfl rfl rfl
  | closesTransfer caller stack rest ready frames opened =>
      have ⟨below, given⟩ := (ownership.callers caller).transferring stack
        (by rw [frames]; exact List.mem_cons_self)
      have owned := (ownership.flags stack).transferred given
      rw [close_owner_opened opened]
      exact close_ownership ownership caller stack _ rest _ ready frames (.inl rfl) below owned
        (.inr given) (fun kept => by rw [kept] at given; cases given) rfl rfl rfl rfl rfl rfl
  | transfers caller stack managed frame ready member inside opened kept =>
      refine transfer_ownership ownership caller stack managed _ ready ?_ ⟨frame, member, inside⟩
        ?_ rfl rfl rfl rfl
      · exact ready
      · rfl
  | installs caller token ready =>
      exact ownership.rests_frame caller _ rfl rfl rfl rfl ready ready rfl
        (fun _ member => by simpa using member)
  | copies caller source ready outermost =>
      exact ownership.rests_frame caller _ rfl rfl rfl rfl ready ready rfl (fun _ => id)
  | closes stack transferred opened =>
      rw [close_owner_opened opened]
      exact hand_back_ownership ownership stack transferred

end HermesCashew.Admission
