import HermesCashew.Transition
import Mathlib.Logic.Function.Basic

/-!
# Admission leases

`admit_operation` locks the graph and then the cache without waiting for either,
or gives both back and sleeps. An admitted body installs its token in a context
variable and owns its leases through an `AdmissionLeaseOwner`, which the body may
transfer to somebody who closes it later. A caller is one execution context. The
lock table records every lease under the `ExitStack` that entered it; `flock` is a
correct shared or exclusive lock for each lock file.
-/

namespace HermesCashew.Admission

open HermesCashew.Transition

set_option autoImplicit false

abbrev Path := String

/-- The arguments of `admit_operation`, without the deadline. A supervisor is
compared by identity. -/
structure Request where
  graphPath : Option Path := none
  cachePath : Option Path := none
  model : Option String := none
  embeddingDim : Option Int := none
  vecDim : Option Int := none
  epoch : Option Int := none
  supervisor : Option Nat := none
  embeddingGeneration : Option (String ⊕ Int) := none
  exclusive : Bool := false
  cacheExclusive : Bool := false
  deriving DecidableEq, Repr

/-- An `OperationAdmission`, with canonical paths. `leaseOwner` names the stack
that its owner closes. -/
structure Token where
  graphPath : Option Path
  cachePath : Option Path
  model : Option String
  embeddingDim : Option Int
  vecDim : Option Int
  epoch : Option Int
  supervisor : Option Nat
  embeddingGeneration : Option (String ⊕ Int)
  exclusive : Bool
  cacheExclusive : Bool
  leaseOwner : Nat
  deriving DecidableEq, Repr

/-- `lock_path_for_db`. -/
def lockPathForDb (resolve : Path → Path) (path : Path) : Path :=
  resolve path ++ ".sleep.lock"

def pathError (graph cache : Option Path) : Option String :=
  if graph = none ∧ cache = none then some "an operation requires graph or cache identity"
  else if graph ≠ none ∧ cache = graph then
    some "graph and cache must have distinct lock files"
  else none

def differs {α : Type} [DecidableEq α] (argument parent : Option α) : Bool :=
  argument.isSome && decide (parent ≠ argument)

def nestedError (parent : Token) (graph cache : Option Path) (request : Request) :
    Option String :=
  if parent.graphPath ≠ graph ∨ parent.cachePath ≠ cache then
    some "nested admission identity mismatch"
  else if differs request.model parent.model then some "nested admission model mismatch"
  else if differs request.embeddingDim parent.embeddingDim then
    some "nested admission dimension mismatch"
  else if differs request.vecDim parent.vecDim then
    some "nested admission vector dimension mismatch"
  else if differs request.epoch parent.epoch then some "nested admission epoch mismatch"
  else if differs request.supervisor parent.supervisor then
    some "nested admission supervisor mismatch"
  else if differs request.embeddingGeneration parent.embeddingGeneration then
    some "nested admission generation mismatch"
  else if request.cacheExclusive && !parent.cacheExclusive then
    some "nested cache lease upgrade is forbidden"
  else if request.exclusive && !parent.exclusive then
    some "nested graph lease upgrade is forbidden"
  else none

/-- The paths to lock, in order, with their modes. -/
def resources (graph cache : Option Path) (request : Request) : List (Path × Bool) :=
  match graph with
  | some path =>
      (path, request.exclusive) :: cache.toList.map fun path => (path, request.cacheExclusive)
  | none => cache.toList.map fun path => (path, request.cacheExclusive || request.exclusive)

def tokenOf (graph cache : Option Path) (request : Request) (stack : Nat) : Token where
  graphPath := graph
  cachePath := cache
  model := request.model
  embeddingDim := request.embeddingDim
  vecDim := request.vecDim
  epoch := request.epoch
  supervisor := request.supervisor
  embeddingGeneration := request.embeddingGeneration
  exclusive := graph.isSome && request.exclusive
  cacheExclusive :=
    if graph.isSome then request.cacheExclusive
    else request.cacheExclusive || request.exclusive
  leaseOwner := stack

/-! ## State -/

structure Lease where
  number : Nat
  stack : Nat
  path : Path
  lockFile : Path
  exclusive : Bool
  deriving DecidableEq, Repr

/-- An `ExitStack` and the `AdmissionLeaseOwner` built over it. `closing` is set
when the stack itself is closed. -/
structure Stack where
  caller : Nat := 0
  owned : Bool := false
  transferred : Bool := false
  closed : Bool := false
  closing : Bool := false
  deriving DecidableEq, Repr

/-- The `with` blocks that a caller is in: an admission, a nested call that yielded
its parent, an installed token and a `transfer_admission`. -/
inductive Frame where
  | admitted (token : Token) (saved : Option Token)
  | nested
  | installed (token : Token) (saved : Option Token)
  | transferring (stack : Nat)
  deriving DecidableEq, Repr

/-- Where a caller stands: in a body or outside, between two locks, in the
`ExitStack.close` before a retry or an exit, or in the retry loop. -/
inductive Point where
  | running
  | locking (request : Request) (stack : Nat) (remaining : List (Path × Bool))
  | releasing (stack : Nat) (retry : Option Request)
  | checking (request : Request)
  | sleeping (request : Request)
  deriving DecidableEq, Repr

/-- One execution context. `inherited` is what its context variable started with. -/
structure Caller where
  point : Point := .running
  current : Option Token := none
  inherited : Option Token := none
  frames : List Frame := []
  deriving DecidableEq, Repr

/-- `leases` is the lock table, newest first. The history holds the number of
exit stacks made, of leases acquired, and the leases released. -/
structure World where
  callers : Nat → Caller := fun _ => {}
  exitStacks : Nat → Stack := fun _ => {}
  leases : List Lease := []
  created : Nat := 0
  acquired : Nat := 0
  released : List Nat := []

def emptyWorld : World := {}

def World.setCaller (world : World) (caller : Nat) (record : Caller) : World :=
  { world with callers := Function.update world.callers caller record }

def World.setStack (world : World) (stack : Nat) (record : Stack) : World :=
  { world with exitStacks := Function.update world.exitStacks stack record }

@[simp]
theorem World.set_stack_self (world : World) (stack : Nat) (record : Stack) :
    (world.setStack stack record).exitStacks stack = record :=
  Function.update_self ..

theorem World.set_stack_of_ne (world : World) {stack other : Nat} (different : other ≠ stack)
    (record : Stack) : (world.setStack stack record).exitStacks other = world.exitStacks other :=
  Function.update_of_ne different _ _

/-- `flock` with `LOCK_NB` fails. -/
def World.contended (world : World) (lockFile : Path) (exclusive : Bool) : Bool :=
  world.leases.any fun lease =>
    decide (lease.lockFile = lockFile) && (exclusive || lease.exclusive)

def World.top (world : World) (stack : Nat) : Option Lease :=
  world.leases.find? fun lease => lease.stack = stack

/-! ## `admit_operation` -/

/-- One turn of the loop begins with a new `ExitStack`. -/
def attempt (resolve : Path → Path) (world : World) (caller : Nat) (request : Request) : World :=
  let stack := world.created
  { (world.setStack stack { caller := caller }).setCaller caller
      { world.callers caller with
        point := .locking request stack
          (resources (request.graphPath.map resolve) (request.cachePath.map resolve) request) } with
    created := stack + 1 }

/-- The call up to its loop. An error leaves the context as it is. -/
def admitOperation (resolve : Path → Path) (world : World) (caller : Nat) (request : Request) :
    Option World :=
  let record := world.callers caller
  let graph := request.graphPath.map resolve
  let cache := request.cachePath.map resolve
  if record.point ≠ .running then none
  else if (pathError graph cache).isSome then some world
  else
    match record.current with
    | some parent =>
        if (nestedError parent graph cache request).isSome then some world
        else some (world.setCaller caller { record with frames := .nested :: record.frames })
    | none => some (attempt resolve world caller request)

def abandon (world : World) (caller stack : Nat) (retry : Option Request) : World :=
  (world.setStack stack { world.exitStacks stack with closing := true }).setCaller caller
    { world.callers caller with point := .releasing stack retry }

/-- The next lock of an attempt, or the token when there is none left. -/
def lock (resolve : Path → Path) (world : World) (caller : Nat) (raises : Bool) : Option World :=
  let record := world.callers caller
  match record.point with
  | .locking request stack remaining =>
      if raises then some (abandon world caller stack none)
      else
        match remaining with
        | (path, exclusive) :: rest =>
            let lockFile := lockPathForDb resolve path
            if world.contended lockFile exclusive then
              some (abandon world caller stack (some request))
            else
              some { world.setCaller caller { record with point := .locking request stack rest } with
                leases :=
                  { number := world.acquired
                    stack := stack
                    path := path
                    lockFile := lockFile
                    exclusive := exclusive } :: world.leases
                acquired := world.acquired + 1 }
        | [] =>
            let token := tokenOf (request.graphPath.map resolve) (request.cachePath.map resolve)
              request stack
            some ((world.setStack stack { world.exitStacks stack with owned := true }).setCaller caller
              { record with
                point := .running
                current := some token
                frames := .admitted token record.current :: record.frames })
  | _ => none

/-- `ExitStack.close` leaves one lock. -/
def release (world : World) (stack : Nat) : Option World :=
  if (world.exitStacks stack).closing then
    match world.top stack with
    | none => none
    | some lease =>
        some { world with
          leases := world.leases.erase lease
          released := lease.number :: world.released }
  else none

/-- `ExitStack.close` returns. -/
def proceed (world : World) (caller : Nat) : Option World :=
  match (world.callers caller).point with
  | .releasing stack retry =>
      if world.top stack = none then
        some (world.setCaller caller
          { world.callers caller with point := retry.elim .running .checking })
      else none
  | _ => none

/-- The deadline test. A call that is late raises. -/
def testDeadline (world : World) (caller : Nat) (expired : Bool) : Option World :=
  match (world.callers caller).point with
  | .checking request =>
      some (world.setCaller caller
        { world.callers caller with point := if expired then .running else .sleeping request })
  | _ => none

def wake (resolve : Path → Path) (world : World) (caller : Nat) : Option World :=
  match (world.callers caller).point with
  | .sleeping request => some (attempt resolve world caller request)
  | _ => none

/-! ## Owners and bodies -/

/-- `AdmissionLeaseOwner.close`. -/
def closeOwner (world : World) (stack : Nat) : World :=
  let record := world.exitStacks stack
  if record.closed then world
  else world.setStack stack { record with closed := true, closing := true }

/-- The owner that a frame closes at its exit. -/
def Frame.stack : Frame → Option Nat
  | .admitted token _ => some token.leaseOwner
  | _ => none

/-- The innermost `with` block is left, normally or by an exception. -/
def exit (world : World) (caller : Nat) (raising : Bool) : Option World :=
  let record := world.callers caller
  if record.point ≠ .running then none
  else
    match record.frames with
    | [] => none
    | .admitted token saved :: rest =>
        let stack := token.leaseOwner
        if (world.exitStacks stack).transferred then
          some (world.setCaller caller { record with current := saved, frames := rest })
        else
          some ((closeOwner world stack).setCaller caller
            { record with
              point := .releasing stack none
              current := saved
              frames := rest })
    | .nested :: rest => some (world.setCaller caller { record with frames := rest })
    | .installed _ saved :: rest =>
        some (world.setCaller caller { record with current := saved, frames := rest })
    | .transferring stack :: rest =>
        if raising && !(world.exitStacks stack).closed then
          some ((closeOwner world stack).setCaller caller
            { record with point := .releasing stack none, frames := rest })
        else some (world.setCaller caller { record with frames := rest })

/-- `AdmissionLeaseOwner.transfer` in the admitting body, directly or by
`transfer_admission`. A second transfer raises. -/
def transfer (world : World) (caller stack : Nat) (managed : Bool) : Option World :=
  let record := world.callers caller
  if record.point ≠ .running ∨ record.frames.all (fun frame => frame.stack ≠ some stack) then none
  else if (world.exitStacks stack).closed ∨ (world.exitStacks stack).transferred then some world
  else
    some ((world.setStack stack { world.exitStacks stack with transferred := true }).setCaller caller
      { record with
        frames := if managed then .transferring stack :: record.frames else record.frames })

/-- `install_admission`. -/
def install (world : World) (caller : Nat) (token : Token) : Option World :=
  let record := world.callers caller
  if record.point ≠ .running then none
  else
    some (world.setCaller caller
      { record with
        current := some token
        frames := .installed token record.current :: record.frames })

/-- A new context starts as a copy of another one. -/
def copyContext (world : World) (caller source : Nat) : Option World :=
  let record := world.callers caller
  if record.point = .running ∧ record.frames = [] then
    some (world.setCaller caller
      { record with
        current := (world.callers source).current
        inherited := (world.callers source).current })
  else none

inductive Action where
  | admitOperation (caller : Nat) (request : Request)
  | lock (caller : Nat) (raises : Bool)
  | release (stack : Nat)
  | proceed (caller : Nat)
  | testDeadline (caller : Nat) (expired : Bool)
  | wake (caller : Nat)
  | exit (caller : Nat) (raising : Bool)
  | transfer (caller stack : Nat) (managed : Bool)
  | install (caller : Nat) (token : Token)
  | copyContext (caller source : Nat)
  /-- Whoever received a transferred owner closes it. -/
  | close (stack : Nat)
  deriving DecidableEq, Repr

def step (resolve : Path → Path) (world : World) : Action → Option World
  | .admitOperation caller request => Admission.admitOperation resolve world caller request
  | .lock caller raises => Admission.lock resolve world caller raises
  | .release stack => Admission.release world stack
  | .proceed caller => Admission.proceed world caller
  | .testDeadline caller expired => Admission.testDeadline world caller expired
  | .wake caller => Admission.wake resolve world caller
  | .exit caller raising => Admission.exit world caller raising
  | .transfer caller stack managed => Admission.transfer world caller stack managed
  | .install caller token => Admission.install world caller token
  | .copyContext caller source => Admission.copyContext world caller source
  | .close stack =>
      if (world.exitStacks stack).transferred then some (closeOwner world stack) else none

/-! ## One step, case by case -/

section Inversion

variable {resolve : Path → Path} {world following : World}

inductive Moves (resolve : Path → Path) (world : World) : Action → World → Prop where
  | ignored (action : Action) : Moves resolve world action world
  | nests (caller : Nat) (request : Request)
      (ready : (world.callers caller).point = .running) :
      Moves resolve world (.admitOperation caller request) (world.setCaller caller
        { world.callers caller with frames := .nested :: (world.callers caller).frames })
  | attempts (action : Action) (caller : Nat) (request : Request)
      (ready : (world.callers caller).point = .running ∧ (world.callers caller).current = none ∨
        (world.callers caller).point = .sleeping request) :
      Moves resolve world action (attempt resolve world caller request)
  | abandons (caller : Nat) (raises : Bool) (request : Request) (stack : Nat)
      (remaining : List (Path × Bool)) (retry : Option Request)
      (ready : (world.callers caller).point = .locking request stack remaining) :
      Moves resolve world (.lock caller raises) (abandon world caller stack retry)
  | locks (caller : Nat) (raises : Bool) (request : Request) (stack : Nat) (path : Path)
      (exclusive : Bool) (rest : List (Path × Bool))
      (ready : (world.callers caller).point = .locking request stack ((path, exclusive) :: rest))
      (free : world.contended (lockPathForDb resolve path) exclusive = false) :
      Moves resolve world (.lock caller raises)
        { world.setCaller caller
            { world.callers caller with point := .locking request stack rest } with
          leases :=
            { number := world.acquired
              stack := stack
              path := path
              lockFile := lockPathForDb resolve path
              exclusive := exclusive } :: world.leases
          acquired := world.acquired + 1 }
  | publishes (caller : Nat) (raises : Bool) (request : Request) (stack : Nat) (token : Token)
      (ready : (world.callers caller).point = .locking request stack [])
      (issued : token = tokenOf (request.graphPath.map resolve) (request.cachePath.map resolve)
        request stack) :
      Moves resolve world (.lock caller raises)
        ((world.setStack stack { world.exitStacks stack with owned := true }).setCaller caller
          { world.callers caller with
            point := .running
            current := some token
            frames := .admitted token (world.callers caller).current ::
              (world.callers caller).frames })
  | releases (stack : Nat) (lease : Lease) (closing : (world.exitStacks stack).closing = true)
      (top : world.top stack = some lease) :
      Moves resolve world (.release stack) { world with
        leases := world.leases.erase lease
        released := lease.number :: world.released }
  | proceeds (caller stack : Nat) (retry : Option Request)
      (ready : (world.callers caller).point = .releasing stack retry)
      (empty : world.top stack = none) :
      Moves resolve world (.proceed caller) (world.setCaller caller
        { world.callers caller with point := retry.elim .running .checking })
  | tests (caller : Nat) (expired : Bool) (request : Request)
      (ready : (world.callers caller).point = .checking request) :
      Moves resolve world (.testDeadline caller expired) (world.setCaller caller
        { world.callers caller with point := if expired then .running else .sleeping request })
  | leavesTransferred (caller : Nat) (raising : Bool) (token : Token) (saved : Option Token)
      (rest : List Frame) (ready : (world.callers caller).point = .running)
      (frames : (world.callers caller).frames = .admitted token saved :: rest)
      (transferred : (world.exitStacks token.leaseOwner).transferred = true) :
      Moves resolve world (.exit caller raising) (world.setCaller caller
        { world.callers caller with current := saved, frames := rest })
  | leavesOwned (caller : Nat) (raising : Bool) (token : Token) (saved : Option Token)
      (rest : List Frame) (ready : (world.callers caller).point = .running)
      (frames : (world.callers caller).frames = .admitted token saved :: rest)
      (kept : (world.exitStacks token.leaseOwner).transferred = false) :
      Moves resolve world (.exit caller raising)
        ((closeOwner world token.leaseOwner).setCaller caller
          { world.callers caller with
            point := .releasing token.leaseOwner none
            current := saved
            frames := rest })
  | leavesNested (caller : Nat) (raising : Bool) (rest : List Frame)
      (ready : (world.callers caller).point = .running)
      (frames : (world.callers caller).frames = .nested :: rest) :
      Moves resolve world (.exit caller raising) (world.setCaller caller
        { world.callers caller with frames := rest })
  | leavesInstalled (caller : Nat) (raising : Bool) (token : Token) (saved : Option Token)
      (rest : List Frame) (ready : (world.callers caller).point = .running)
      (frames : (world.callers caller).frames = .installed token saved :: rest) :
      Moves resolve world (.exit caller raising) (world.setCaller caller
        { world.callers caller with current := saved, frames := rest })
  | leavesTransfer (caller : Nat) (raising : Bool) (stack : Nat) (rest : List Frame)
      (ready : (world.callers caller).point = .running)
      (frames : (world.callers caller).frames = .transferring stack :: rest) :
      Moves resolve world (.exit caller raising) (world.setCaller caller
        { world.callers caller with frames := rest })
  | closesTransfer (caller stack : Nat) (rest : List Frame)
      (ready : (world.callers caller).point = .running)
      (frames : (world.callers caller).frames = .transferring stack :: rest)
      (opened : (world.exitStacks stack).closed = false) :
      Moves resolve world (.exit caller true) ((closeOwner world stack).setCaller caller
        { world.callers caller with point := .releasing stack none, frames := rest })
  | transfers (caller stack : Nat) (managed : Bool) (frame : Frame)
      (ready : (world.callers caller).point = .running)
      (member : frame ∈ (world.callers caller).frames) (inside : frame.stack = some stack)
      (opened : (world.exitStacks stack).closed = false)
      (kept : (world.exitStacks stack).transferred = false) :
      Moves resolve world (.transfer caller stack managed)
        ((world.setStack stack { world.exitStacks stack with transferred := true }).setCaller caller
          { world.callers caller with
            frames := if managed then .transferring stack :: (world.callers caller).frames
              else (world.callers caller).frames })
  | installs (caller : Nat) (token : Token) (ready : (world.callers caller).point = .running) :
      Moves resolve world (.install caller token) (world.setCaller caller
        { world.callers caller with
          current := some token
          frames := .installed token (world.callers caller).current ::
            (world.callers caller).frames })
  | copies (caller source : Nat) (ready : (world.callers caller).point = .running)
      (outermost : (world.callers caller).frames = []) :
      Moves resolve world (.copyContext caller source) (world.setCaller caller
        { world.callers caller with
          current := (world.callers source).current
          inherited := (world.callers source).current })
  | closes (stack : Nat) (transferred : (world.exitStacks stack).transferred = true)
      (opened : (world.exitStacks stack).closed = false) :
      Moves resolve world (.close stack) (closeOwner world stack)

theorem admit_operation_moves {caller : Nat} {request : Request}
    (taken : admitOperation resolve world caller request = some following) :
    Moves resolve world (.admitOperation caller request) following := by
  simp only [admitOperation] at taken
  obtain ⟨ready, taken⟩ := Option.ite_none_left_eq_some.mp taken
  rw [not_not] at ready
  split at taken
  · obtain rfl := Option.some.inj taken
    exact .ignored _
  · split at taken
    · split at taken
      · obtain rfl := Option.some.inj taken
        exact .ignored _
      · obtain rfl := Option.some.inj taken
        exact .nests caller request ready
    · rename_i outside
      obtain rfl := Option.some.inj taken
      exact .attempts _ caller request (.inl ⟨ready, outside⟩)

theorem lock_moves {caller : Nat} {raises : Bool}
    (taken : lock resolve world caller raises = some following) :
    Moves resolve world (.lock caller raises) following := by
  simp only [lock] at taken
  split at taken
  · rename_i request stack remaining ready
    split at taken
    · obtain rfl := Option.some.inj taken
      exact .abandons caller raises request stack remaining none ready
    · split at taken
      · rename_i path exclusive rest
        split at taken
        · obtain rfl := Option.some.inj taken
          exact .abandons caller raises request stack _ (some request) ready
        · rename_i free
          obtain rfl := Option.some.inj taken
          exact .locks caller raises request stack path exclusive rest ready (by simpa using free)
      · obtain rfl := Option.some.inj taken
        exact .publishes caller raises request stack _ ready rfl
  · cases taken

theorem exit_moves {caller : Nat} {raising : Bool}
    (taken : exit world caller raising = some following) :
    Moves resolve world (.exit caller raising) following := by
  simp only [exit] at taken
  obtain ⟨ready, taken⟩ := Option.ite_none_left_eq_some.mp taken
  rw [not_not] at ready
  split at taken
  · cases taken
  · rename_i token saved rest frames
    split at taken
    · rename_i transferred
      obtain rfl := Option.some.inj taken
      exact .leavesTransferred caller raising token saved rest ready frames transferred
    · rename_i kept
      obtain rfl := Option.some.inj taken
      exact .leavesOwned caller raising token saved rest ready frames (by simpa using kept)
  · rename_i rest frames
    obtain rfl := Option.some.inj taken
    exact .leavesNested caller raising rest ready frames
  · rename_i token saved rest frames
    obtain rfl := Option.some.inj taken
    exact .leavesInstalled caller raising token saved rest ready frames
  · rename_i stack rest frames
    split at taken
    · rename_i closes
      obtain rfl := Option.some.inj taken
      simp only [Bool.and_eq_true, Bool.not_eq_true'] at closes
      obtain ⟨rfl, opened⟩ := closes
      exact .closesTransfer caller stack rest ready frames opened
    · obtain rfl := Option.some.inj taken
      exact .leavesTransfer caller raising stack rest ready frames

theorem transfer_moves {caller stack : Nat} {managed : Bool}
    (taken : transfer world caller stack managed = some following) :
    Moves resolve world (.transfer caller stack managed) following := by
  simp only [transfer] at taken
  obtain ⟨inside, taken⟩ := Option.ite_none_left_eq_some.mp taken
  rw [not_or, not_not] at inside
  obtain ⟨ready, inside⟩ := inside
  split at taken
  · obtain rfl := Option.some.inj taken
    exact .ignored _
  · rename_i available
    obtain rfl := Option.some.inj taken
    simp only [List.all_eq_true, decide_eq_true_eq, not_forall, not_not] at inside
    obtain ⟨frame, member, same⟩ := inside
    simp only [not_or, Bool.not_eq_true] at available
    exact .transfers caller stack managed frame ready member same available.1 available.2

theorem step_moves {action : Action} (taken : step resolve world action = some following) :
    Moves resolve world action following := by
  cases action with
  | admitOperation caller request => exact admit_operation_moves taken
  | lock caller raises => exact lock_moves taken
  | release stack =>
      obtain ⟨closing, taken⟩ := Option.ite_none_right_eq_some.mp taken
      split at taken
      · cases taken
      · rename_i lease top
        obtain rfl := Option.some.inj taken
        exact .releases stack lease closing top
  | proceed caller =>
      simp only [step, proceed] at taken
      split at taken
      · rename_i stack retry ready
        obtain ⟨empty, taken⟩ := Option.ite_none_right_eq_some.mp taken
        obtain rfl := Option.some.inj taken
        exact .proceeds caller stack retry ready empty
      · cases taken
  | testDeadline caller expired =>
      simp only [step, testDeadline] at taken
      split at taken
      · rename_i request ready
        obtain rfl := Option.some.inj taken
        exact .tests caller expired request ready
      · cases taken
  | wake caller =>
      simp only [step, wake] at taken
      split at taken
      · rename_i request ready
        obtain rfl := Option.some.inj taken
        exact .attempts _ caller request (.inr ready)
      · cases taken
  | exit caller raising => exact exit_moves taken
  | transfer caller stack managed => exact transfer_moves taken
  | install caller token =>
      obtain ⟨ready, taken⟩ := Option.ite_none_left_eq_some.mp taken
      obtain rfl := Option.some.inj taken
      exact .installs caller token (not_not.mp ready)
  | copyContext caller source =>
      obtain ⟨⟨ready, outermost⟩, taken⟩ := Option.ite_none_right_eq_some.mp taken
      obtain rfl := Option.some.inj taken
      exact .copies caller source ready outermost
  | close stack =>
      obtain ⟨transferred, taken⟩ := Option.ite_none_right_eq_some.mp taken
      obtain rfl := Option.some.inj taken
      by_cases opened : (world.exitStacks stack).closed = true
      · have same : closeOwner world stack = world := by simp [closeOwner, opened]
        rw [same]
        exact .ignored _
      · exact .closes stack transferred (by simpa using opened)

end Inversion

end HermesCashew.Admission
