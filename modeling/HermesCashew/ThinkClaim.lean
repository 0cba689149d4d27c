import HermesCashew.PythonInt
import HermesCashew.Transition
import Mathlib.Algebra.BigOperators.Group.List.Basic
import Mathlib.Algebra.Ring.Int.Defs
import Mathlib.Logic.Function.Basic

/-!
# Think claims

`_run_think_cycle_if_due` counts a turn, and every `think_interval` turns it claims
one opaque `think_cycle` call. The claim and its finalisation are two transactions
around the call, all under the exclusive lease of the graph. Any number of
processes share the store. A process may die at every point, and a transaction may
fail without effect or report an error after its commit.
-/

namespace HermesCashew.ThinkClaim

open HermesCashew.PythonInt
open HermesCashew.Transition

set_option autoImplicit false

/-- The three rows of `hermes_provider_meta`. -/
structure Store where
  thinkCounter : Option String := none
  thinkClaimEpoch : Option String := none
  thinkClaimState : Option String := none
  deriving DecidableEq, Repr

/-- What the guard of `_run_think_cycle_if_due` reads: whether there is a model
function, a ready identity and a database path, and `think_cycles` and
`think_interval` of the config. -/
structure Settings where
  modelFn : Bool
  embeddingIdentityReady : Bool
  dbPath : Bool
  config : Option (Bool × Int)
  deriving DecidableEq, Repr

def thinkInterval (settings : Settings) : Option Int :=
  match settings.config with
  | none => none
  | some (thinkCycles, interval) =>
      if settings.modelFn = false ∨ settings.embeddingIdentityReady = false ∨
          thinkCycles = false ∨ interval ≤ 0 ∨ settings.dbPath = false then none
      else some interval

/-- The states in which no claim is made. -/
def blockedStates : List String := ["in_flight", "failed", "partial", "uncertain"]

inductive Claimed where
  | blocked
  | reset (store : Store)
  /-- `str(counter)` raises. -/
  | invalid
  | counted (store : Store)
  | claimed (counter : Int) (store : Store)
  deriving DecidableEq, Repr

def claimThinkCycle (decimal : Decimals) (store : Store) (interval : Int) (epoch : String) :
    Claimed :=
  if store.thinkClaimState.getD "none" ∈ blockedStates then .blocked
  else
    match pyInt decimal (store.thinkCounter.getD "0") with
    | none => .reset { store with thinkCounter := some "0" }
    | some value =>
        let counter := value + 1
        if ¬Printable counter then .invalid
        else if counter < interval then
          .counted { store with thinkCounter := some (pyStr counter) }
        else
          .claimed counter
            { thinkCounter := some (pyStr counter)
              thinkClaimEpoch := some epoch
              thinkClaimState := some "in_flight" }

inductive Terminal where
  | completed
  | failed
  | uncertain
  deriving DecidableEq, Repr

def Terminal.text : Terminal → String
  | .completed => "completed"
  | .failed => "failed"
  | .uncertain => "uncertain"

/-- The locals of a call that has committed its claim. `number` is the place of the
claim among all committed ones. -/
structure Claim where
  interval : Int
  counter : Int
  epoch : String
  number : Nat
  deriving DecidableEq, Repr

def Claim.Current (claim : Claim) (store : Store) : Prop :=
  store.thinkClaimEpoch = some claim.epoch ∧ store.thinkClaimState = some "in_flight"

instance (claim : Claim) (store : Store) : Decidable (claim.Current store) :=
  inferInstanceAs (Decidable (_ ∧ _))

def finalizeThinkCycle (store : Store) (claim : Claim) (terminal : Terminal) : Store :=
  if claim.Current store then
    { store with
      thinkCounter :=
        if terminal = .completed then
          store.thinkCounter.map fun _ => pyStr (max 0 (claim.counter - claim.interval))
        else store.thinkCounter
      thinkClaimState := store.thinkClaimState.map fun _ => terminal.text }
  else store

/-- `_recover_think_claim`, up to its commit. -/
def recoverThinkClaim (store : Store) : Store :=
  if store.thinkClaimState = some "in_flight" then
    { store with thinkClaimState := some "uncertain" }
  else store

/-- How a transaction ends: `ambiguous` is an error after the commit. -/
inductive Commit where
  | committed
  | failed
  | ambiguous
  deriving DecidableEq, Repr

def Commit.persists (commit : Commit) : Bool := commit != .failed

/-- Where a process stands. From `admitted` to `leaving` it holds the lease. -/
inductive Point where
  | idle
  | admitted (interval : Int)
  | claimed (claim : Claim)
  | thinking (claim : Claim)
  | thought (claim : Claim) (terminal : Terminal)
  | recovering
  | leaving
  deriving DecidableEq, Repr

/-- The claim that a process holds. -/
def Point.claim : Point → Option Claim
  | .claimed claim | .thinking claim | .thought claim _ => some claim
  | _ => none

/-- The store, the exclusive lease and the processes. The history counts the turns
and the claims that were committed, the intervals of the completed claims and the
claims that a `think_cycle` call was made for. -/
structure World where
  store : Store := {}
  lease : Option Nat := none
  points : Nat → Point := fun _ => .idle
  counted : Nat := 0
  claims : Nat := 0
  completed : List Int := []
  calls : List Nat := []

/-- A store without think metadata. -/
def emptyWorld : World := {}

def World.move (world : World) (process : Nat) (point : Point) : World :=
  { world with
    lease := if point = .idle then none else some process
    points := Function.update world.points process point }

def claim (decimal : Decimals) (world : World) (process : Nat) (epoch : String)
    (commit : Commit) : Option World :=
  match world.points process with
  | .admitted interval =>
      match claimThinkCycle decimal world.store interval epoch with
      | .blocked | .invalid => some (world.move process .leaving)
      | .reset store =>
          some { world.move process .leaving with
            store := if commit.persists then store else world.store }
      | .counted store =>
          if commit.persists then
            some { world.move process .leaving with
              store := store, counted := world.counted + 1 }
          else some (world.move process .leaving)
      | .claimed counter store =>
          let number := world.claims + 1
          if commit.persists then
            some { world.move process
                (if commit = .committed then
                  .claimed
                    { interval := interval, counter := counter, epoch := epoch, number := number }
                else .leaving) with
              store := store, counted := world.counted + 1, claims := number }
          else some (world.move process .leaving)
  | _ => none

def finalize (world : World) (process : Nat) (commit : Commit) : Option World :=
  match world.points process with
  | .thought claim terminal =>
      if commit.persists then
        some { world.move process .leaving with
          store := finalizeThinkCycle world.store claim terminal
          completed :=
            if terminal = .completed ∧ claim.Current world.store then
              claim.interval :: world.completed
            else world.completed }
      else some (world.move process .leaving)
  | _ => none

inductive Action where
  /-- A provider that passes the guard gets the exclusive lease. -/
  | start (process : Nat) (settings : Settings)
  | claim (process : Nat) (epoch : String) (commit : Commit)
  | think (process : Nat)
  | endThink (process : Nat) (terminal : Terminal)
  | finalize (process : Nat) (commit : Commit)
  /-- A restarted process gets the exclusive lease for `_recover_think_claim`. -/
  | restart (process : Nat)
  | recover (process : Nat) (commit : Commit)
  /-- The call leaves its lease, normally or by an exception, or the process dies. -/
  | leave (process : Nat)
  deriving DecidableEq, Repr

def step (decimal : Decimals) (world : World) : Action → Option World
  | .start process settings =>
      match thinkInterval settings with
      | none => some world
      | some interval =>
          if world.lease = none then some (world.move process (.admitted interval)) else none
  | .claim process epoch commit => ThinkClaim.claim decimal world process epoch commit
  | .think process =>
      match world.points process with
      | .claimed claim =>
          some { world.move process (.thinking claim) with
            calls := claim.number :: world.calls }
      | _ => none
  | .endThink process terminal =>
      match world.points process with
      | .thinking claim => some (world.move process (.thought claim terminal))
      | _ => none
  | .finalize process commit => ThinkClaim.finalize world process commit
  | .restart process =>
      if world.lease = none then some (world.move process .recovering) else none
  | .recover process commit =>
      if world.points process = .recovering then
        some { world.move process .leaving with
          store := if commit.persists then recoverThinkClaim world.store else world.store }
      else none
  | .leave process =>
      if world.points process = .idle then none else some (world.move process .idle)

/-! ## One step, case by case -/

inductive Moves (decimal : Decimals) (world : World) : World → Prop where
  | ignored : Moves decimal world world
  | start (process : Nat) (interval : Int) (positive : 0 < interval)
      (free : world.lease = none) : Moves decimal world (world.move process (.admitted interval))
  | restart (process : Nat) (free : world.lease = none) :
      Moves decimal world (world.move process .recovering)
  | quit (process : Nat) (point : Point) (held : world.points process ≠ .idle)
      (gone : point = .leaving ∨ point = .idle) : Moves decimal world (world.move process point)
  | reset (process : Nat) (held : world.points process ≠ .idle)
      (invalid : pyInt decimal (world.store.thinkCounter.getD "0") = none) :
      Moves decimal world { world.move process .leaving with
        store := { world.store with thinkCounter := some "0" } }
  | counts (process : Nat) (value : Int) (held : world.points process ≠ .idle)
      (unblocked : world.store.thinkClaimState.getD "none" ∉ blockedStates)
      (read : pyInt decimal (world.store.thinkCounter.getD "0") = some value)
      (printable : Printable (value + 1)) :
      Moves decimal world { world.move process .leaving with
        store := { world.store with thinkCounter := some (pyStr (value + 1)) }
        counted := world.counted + 1 }
  | claims (process : Nat) (interval : Int) (epoch : String) (value : Int) (point : Point)
      (ready : world.points process = .admitted interval)
      (unblocked : world.store.thinkClaimState.getD "none" ∉ blockedStates)
      (read : pyInt decimal (world.store.thinkCounter.getD "0") = some value)
      (printable : Printable (value + 1))
      (due : interval ≤ value + 1)
      (next : point = .leaving ∨ point = .claimed
        { interval := interval
          counter := value + 1
          epoch := epoch
          number := world.claims + 1 }) :
      Moves decimal world { world.move process point with
        store :=
          { thinkCounter := some (pyStr (value + 1))
            thinkClaimEpoch := some epoch
            thinkClaimState := some "in_flight" }
        counted := world.counted + 1
        claims := world.claims + 1 }
  | thinks (process : Nat) (claim : Claim) (ready : world.points process = .claimed claim) :
      Moves decimal world { world.move process (.thinking claim) with
        calls := claim.number :: world.calls }
  | ends (process : Nat) (claim : Claim) (terminal : Terminal)
      (ready : world.points process = .thinking claim) :
      Moves decimal world (world.move process (.thought claim terminal))
  | finalizes (process : Nat) (claim : Claim) (terminal : Terminal)
      (ready : world.points process = .thought claim terminal) :
      Moves decimal world { world.move process .leaving with
        store := finalizeThinkCycle world.store claim terminal
        completed :=
          if terminal = .completed ∧ claim.Current world.store then
            claim.interval :: world.completed
          else world.completed }
  | recovers (process : Nat) (held : world.points process ≠ .idle) :
      Moves decimal world { world.move process .leaving with
        store := recoverThinkClaim world.store }

variable {decimal : Decimals}

theorem think_interval_positive {settings : Settings} {interval : Int}
    (due : thinkInterval settings = some interval) : 0 < interval := by
  unfold thinkInterval at due
  split at due
  · cases due
  · rw [Option.ite_none_left_eq_some] at due
    obtain ⟨passed, same⟩ := due
    obtain rfl := Option.some.inj same
    simp only [not_or] at passed
    exact Int.not_le.mp passed.2.2.2.1

theorem claim_moves {world following : World} {process : Nat} {epoch : String} {commit : Commit}
    (taken : claim decimal world process epoch commit = some following) :
    Moves decimal world following := by
  unfold claim at taken
  split at taken
  · rename_i interval ready
    have held : world.points process ≠ .idle := by simp [ready]
    have stays : Moves decimal world (world.move process .leaving) :=
      .quit process _ held (.inl rfl)
    unfold claimThinkCycle at taken
    by_cases blocked : world.store.thinkClaimState.getD "none" ∈ blockedStates
    · rw [if_pos blocked] at taken
      obtain rfl := Option.some.inj taken
      exact stays
    · rw [if_neg blocked] at taken
      cases read : pyInt decimal (world.store.thinkCounter.getD "0") with
      | none =>
          rw [read] at taken
          obtain rfl := Option.some.inj taken
          by_cases persists : commit.persists = true
          · simpa [persists] using Moves.reset process held read
          · simpa [persists, World.move] using stays
      | some value =>
          rw [read] at taken
          by_cases printable : Printable (value + 1)
          swap
          · simp only [if_pos printable] at taken
            obtain rfl := Option.some.inj taken
            exact stays
          simp only [if_neg (not_not.mpr printable)] at taken
          by_cases early : value + 1 < interval
          · simp only [if_pos early] at taken
            split at taken
            · obtain rfl := Option.some.inj taken
              exact .counts process value held blocked read printable
            · obtain rfl := Option.some.inj taken
              exact stays
          · simp only [if_neg early] at taken
            split at taken
            · obtain rfl := Option.some.inj taken
              refine .claims process interval epoch value _ ready blocked read printable
                (Int.not_lt.mp early) ?_
              split
              · exact .inr rfl
              · exact .inl rfl
            · obtain rfl := Option.some.inj taken
              exact stays
  · cases taken

theorem step_moves {world following : World} {action : Action}
    (taken : step decimal world action = some following) : Moves decimal world following := by
  cases action with
  | start process settings =>
      simp only [step] at taken
      split at taken
      · obtain rfl := Option.some.inj taken
        exact .ignored
      · rename_i interval due
        obtain ⟨free, same⟩ := Option.ite_none_right_eq_some.mp taken
        obtain rfl := Option.some.inj same
        exact .start process interval (think_interval_positive due) free
  | claim process epoch commit => exact claim_moves taken
  | think process =>
      simp only [step] at taken
      split at taken
      · rename_i claim ready
        obtain rfl := Option.some.inj taken
        exact .thinks process claim ready
      · cases taken
  | endThink process terminal =>
      simp only [step] at taken
      split at taken
      · rename_i claim ready
        obtain rfl := Option.some.inj taken
        exact .ends process claim terminal ready
      · cases taken
  | finalize process commit =>
      simp only [step, finalize] at taken
      split at taken
      · rename_i claim terminal ready
        split at taken
        · obtain rfl := Option.some.inj taken
          exact .finalizes process claim terminal ready
        · obtain rfl := Option.some.inj taken
          exact .quit process _ (by simp [ready]) (.inl rfl)
      · cases taken
  | restart process =>
      obtain ⟨free, same⟩ := Option.ite_none_right_eq_some.mp taken
      obtain rfl := Option.some.inj same
      exact .restart process free
  | recover process commit =>
      obtain ⟨ready, same⟩ := Option.ite_none_right_eq_some.mp taken
      obtain rfl := Option.some.inj same
      have held : world.points process ≠ .idle := by simp [ready]
      by_cases persists : commit.persists = true
      · simpa [persists] using Moves.recovers process held
      · simpa [persists, World.move] using Moves.quit process .leaving held (.inl rfl)
  | leave process =>
      obtain ⟨held, same⟩ := Option.ite_none_left_eq_some.mp taken
      obtain rfl := Option.some.inj same
      exact .quit process _ held (.inr rfl)

/-! ## The protocol invariant -/

/-- What a process that holds a claim may rely on. -/
structure Holds (world : World) (claim : Claim) : Prop where
  current : claim.Current world.store
  counter : world.store.thinkCounter = some (pyStr claim.counter)
  positive : 0 < claim.interval
  due : claim.interval ≤ claim.counter
  latest : claim.number = world.claims
  made : 1 ≤ claim.number

structure Balanced (world : World) (counter : Int) : Prop where
  text : world.store.thinkCounter.getD "0" = pyStr counter
  nonnegative : 0 ≤ counter
  printable : Printable counter
  conserved : (world.counted : Int) = world.completed.sum + counter

structure Invariant (world : World) : Prop where
  lease : ∀ process, world.points process ≠ .idle → world.lease = some process
  positive : ∀ process interval, world.points process = .admitted interval → 0 < interval
  holds : ∀ process claim, (world.points process).claim = some claim → Holds world claim
  unused : ∀ process claim, world.points process = .claimed claim →
    claim.number ∉ world.calls
  calls : ∀ number ∈ world.calls, 1 ≤ number ∧ number ≤ world.claims
  nodup : world.calls.Nodup
  balanced : ∃ counter, Balanced world counter

theorem empty_invariant : Invariant emptyWorld where
  lease := by simp [emptyWorld]
  positive := by simp [emptyWorld]
  holds := by simp [emptyWorld, Point.claim]
  unused := by simp [emptyWorld]
  calls := by simp [emptyWorld]
  nodup := List.nodup_nil
  balanced := ⟨0, rfl, Int.le_refl 0, by decide, rfl⟩

/-- The lease is exclusive. -/
theorem Invariant.alone {world : World} (invariant : Invariant world) {first second : Nat}
    (held : world.points first ≠ .idle) (other : world.points second ≠ .idle) :
    first = second :=
  Option.some.inj ((invariant.lease first held).symm.trans (invariant.lease second other))

/-- A process may act when the lease is free or its own. -/
theorem Invariant.others_idle {world : World} (invariant : Invariant world) {process other : Nat}
    (holds : world.lease = none ∨ world.points process ≠ .idle) (different : other ≠ process) :
    world.points other = .idle := by
  by_contra busy
  rcases holds with free | held
  · rw [invariant.lease other busy] at free
    cases free
  · exact different (invariant.alone busy held)

/-- The rule for one acting process: only what concerns it has to be shown. -/
theorem Invariant.acts {world following : World} (invariant : Invariant world) (process : Nat)
    (point : Point) (holds : world.lease = none ∨ world.points process ≠ .idle)
    (lease : following.lease = if point = .idle then none else some process)
    (points : following.points = Function.update world.points process point)
    (positive : ∀ interval, point = .admitted interval → 0 < interval)
    (held : ∀ claim, point.claim = some claim → Holds following claim)
    (unused : ∀ claim, point = .claimed claim → claim.number ∉ following.calls)
    (calls : ∀ number ∈ following.calls, 1 ≤ number ∧ number ≤ following.claims)
    (nodup : following.calls.Nodup) (balanced : ∃ counter, Balanced following counter) :
    Invariant following := by
  have only (other : Nat) (busy : following.points other ≠ .idle) :
      other = process ∧ following.points other = point := by
    by_cases same : other = process
    · subst same
      exact ⟨rfl, by simp [points]⟩
    · rw [points, Function.update_of_ne same] at busy
      exact absurd (invariant.others_idle holds same) busy
  refine ⟨?_, ?_, ?_, ?_, calls, nodup, balanced⟩
  · intro other busy
    have ⟨same, at_point⟩ := only other busy
    rw [at_point] at busy
    rw [lease, if_neg busy, same]
  · intro other interval ready
    have ⟨_, at_point⟩ := only other (by simp [ready])
    exact positive interval (at_point.symm.trans ready)
  · intro other claim carried
    have busy : following.points other ≠ .idle := by
      intro idle
      rw [idle] at carried
      cases carried
    exact held claim ((only other busy).2 ▸ carried)
  · intro other claim ready
    have ⟨_, at_point⟩ := only other (by simp [ready])
    exact unused claim (at_point.symm.trans ready)

theorem Balanced.read {world : World} {counter value : Int} (balanced : Balanced world counter)
    (read : pyInt decimal (world.store.thinkCounter.getD "0") = some value) : value = counter := by
  rw [balanced.text, py_int_py_str decimal balanced.printable] at read
  exact (Option.some.inj read).symm

/-- A completed claim consumes its interval. -/
theorem Holds.finalizes {world : World} {claim : Claim} (holds : Holds world claim)
    (balanced : ∃ counter, Balanced world counter) (terminal : Terminal) :
    ∃ counter, ((finalizeThinkCycle world.store claim terminal).thinkCounter.getD "0" =
        pyStr counter) ∧ 0 ≤ counter ∧ Printable counter ∧
      (world.counted : Int) = (if terminal = .completed ∧ claim.Current world.store then
        claim.interval :: world.completed else world.completed).sum + counter := by
  obtain ⟨counter, text, nonnegative, printable, conserved⟩ := balanced
  have same : counter = claim.counter := by
    rw [holds.counter, Option.getD_some] at text
    exact py_str_injective text.symm
  subst same
  by_cases completed : terminal = .completed
  · have left : 0 ≤ claim.counter - claim.interval := Int.sub_nonneg_of_le holds.due
    have smaller : claim.counter - claim.interval ≤ claim.counter :=
      Int.sub_le_self _ (Int.le_of_lt holds.positive)
    refine ⟨claim.counter - claim.interval, ?_, left,
      printable_of_le (by omega) printable, ?_⟩
    · simp [finalizeThinkCycle, holds.current, completed, holds.counter, Int.max_eq_right left]
    · simp only [completed, holds.current, and_self, if_true, List.sum_cons]
      omega
  · refine ⟨claim.counter, ?_, nonnegative, printable, ?_⟩
    · simp [finalizeThinkCycle, holds.current, completed, holds.counter]
    · simpa [completed] using conserved

theorem recover_counter (store : Store) :
    (recoverThinkClaim store).thinkCounter = store.thinkCounter := by
  unfold recoverThinkClaim
  split <;> rfl

theorem moves_invariant {world following : World} (invariant : Invariant world)
    (moves : Moves decimal world following) : Invariant following := by
  have ⟨_, positive, holds, unused, calls, nodup, balanced⟩ := invariant
  obtain ⟨counter, text, nonnegative, printable, conserved⟩ := balanced
  cases moves with
  | ignored => exact invariant
  | start process interval longer free =>
      refine invariant.acts process (.admitted interval) (.inl free) rfl rfl ?_
        (by simp [Point.claim]) (by simp) calls nodup
        ⟨counter, text, nonnegative, printable, conserved⟩
      intro other same
      cases same
      exact longer
  | restart process free =>
      exact invariant.acts process .recovering (.inl free) rfl rfl (by simp)
        (by simp [Point.claim]) (by simp) calls nodup
        ⟨counter, text, nonnegative, printable, conserved⟩
  | quit process point held gone =>
      refine invariant.acts process point (.inr held) rfl rfl ?_ ?_ ?_ calls nodup
        ⟨counter, text, nonnegative, printable, conserved⟩
      all_goals rcases gone with rfl | rfl <;> simp [Point.claim]
  | reset process held invalid =>
      rw [text, py_int_py_str decimal printable] at invalid
      cases invalid
  | counts process value held unblocked read more =>
      have same := Balanced.read ⟨text, nonnegative, printable, conserved⟩ read
      refine invariant.acts process .leaving (.inr held) rfl rfl (by simp) (by simp [Point.claim])
        (by simp) calls nodup ⟨value + 1, rfl, by omega, more, ?_⟩
      dsimp only [World.move]
      omega
  | claims process interval epoch value point ready unblocked read more due next =>
      have same := Balanced.read ⟨text, nonnegative, printable, conserved⟩ read
      have longer := positive process interval ready
      refine invariant.acts process point (.inr (by simp [ready])) rfl rfl ?_ ?_ ?_ ?_ nodup
        ⟨value + 1, rfl, by omega, more, ?_⟩
      · rcases next with rfl | rfl <;> simp
      · intro claim carried
        rcases next with rfl | rfl
        · cases carried
        · obtain rfl := Option.some.inj carried
          exact ⟨⟨rfl, rfl⟩, rfl, longer, due, rfl, Nat.le_add_left 1 _⟩
      · intro claim made member
        rcases next with rfl | rfl
        · cases made
        · cases made
          exact absurd (calls _ member).2 (Nat.not_succ_le_self _)
      · exact fun number member =>
          ⟨(calls number member).1, Nat.le_succ_of_le (calls number member).2⟩
      · dsimp only [World.move]
        omega
  | thinks process claim ready =>
      have mine := holds process claim (by rw [ready]; rfl)
      have fresh := unused process claim ready
      refine invariant.acts process (.thinking claim) (.inr (by simp [ready])) rfl rfl (by simp)
        ?_ (by simp) ?_ ?_ ⟨counter, text, nonnegative, printable, conserved⟩
      · intro carried same
        obtain rfl := Option.some.inj same
        exact ⟨mine.current, mine.counter, mine.positive, mine.due, mine.latest, mine.made⟩
      · intro number member
        rcases List.mem_cons.mp member with rfl | member
        · exact ⟨mine.made, Nat.le_of_eq mine.latest⟩
        · exact calls number member
      · exact List.nodup_cons.mpr ⟨fresh, nodup⟩
  | ends process claim terminal ready =>
      have mine := holds process claim (by rw [ready]; rfl)
      refine invariant.acts process (.thought claim terminal) (.inr (by simp [ready])) rfl rfl
        (by simp) ?_ (by simp) calls nodup ⟨counter, text, nonnegative, printable, conserved⟩
      intro carried same
      obtain rfl := Option.some.inj same
      exact ⟨mine.current, mine.counter, mine.positive, mine.due, mine.latest, mine.made⟩
  | finalizes process claim terminal ready =>
      have mine := holds process claim (by rw [ready]; rfl)
      obtain ⟨rest, written, enough, shown, sum⟩ :=
        mine.finalizes ⟨counter, text, nonnegative, printable, conserved⟩ terminal
      exact invariant.acts process .leaving (.inr (by simp [ready])) rfl rfl (by simp)
        (by simp [Point.claim]) (by simp) calls nodup
        ⟨rest, written, enough, shown, sum⟩
  | recovers process held =>
      refine invariant.acts process .leaving (.inr held) rfl rfl (by simp) (by simp [Point.claim])
        (by simp) calls nodup ⟨counter, ?_, nonnegative, printable, conserved⟩
      dsimp only
      rw [recover_counter, text]

theorem reachable_invariant {world : World}
    (reached : Reaches (step decimal) anyStep emptyWorld world) : Invariant world :=
  reached.invariant Invariant empty_invariant
    fun _ _ _ invariant _ taken => moves_invariant invariant (step_moves taken)

/-! ## Blocked stores -/

structure Spent (world : World) : Prop where
  blocked : ∃ text ∈ blockedStates, world.store.thinkClaimState = some text
  unheld : ∀ process, (world.points process).claim = none

theorem Spent.moved {world following : World} (spent : Spent world) {process : Nat}
    {point : Point} (bare : point.claim = none)
    (points : following.points = Function.update world.points process point)
    (blocked : ∃ text ∈ blockedStates, following.store.thinkClaimState = some text) :
    Spent following := by
  refine ⟨blocked, fun other => ?_⟩
  by_cases same : other = process
  · subst same
    simpa [points] using bare
  · simpa [points, same] using spent.unheld other

theorem moves_spent {world following : World} (spent : Spent world)
    (moves : Moves decimal world following) : Spent following ∧ following.calls = world.calls := by
  have blocks : world.store.thinkClaimState.getD "none" ∈ blockedStates := by
    obtain ⟨text, member, same⟩ := spent.blocked
    simpa [same] using member
  cases moves with
  | ignored => exact ⟨spent, rfl⟩
  | start process interval positive free => exact ⟨spent.moved rfl rfl spent.blocked, rfl⟩
  | restart process free => exact ⟨spent.moved rfl rfl spent.blocked, rfl⟩
  | quit process point held gone =>
      refine ⟨spent.moved ?_ rfl spent.blocked, rfl⟩
      rcases gone with rfl | rfl <;> rfl
  | reset process held invalid => exact ⟨spent.moved rfl rfl spent.blocked, rfl⟩
  | counts process value held unblocked read more => exact absurd blocks unblocked
  | claims process interval epoch value point ready unblocked read more due next =>
      exact absurd blocks unblocked
  | thinks process claim ready | ends process claim terminal ready
  | finalizes process claim terminal ready =>
      have unheld := spent.unheld process
      rw [ready] at unheld
      cases unheld
  | recovers process held =>
      refine ⟨spent.moved rfl rfl ?_, rfl⟩
      dsimp only
      unfold recoverThinkClaim
      split
      · exact ⟨"uncertain", by decide, rfl⟩
      · exact spent.blocked

theorem reaches_spent {world later : World} (spent : Spent world)
    (reached : Reaches (step decimal) anyStep world later) :
    Spent later ∧ later.calls = world.calls := by
  refine reached.invariant (fun later => Spent later ∧ later.calls = world.calls)
    ⟨spent, rfl⟩ ?_
  intro state action following before _ taken
  have ⟨still, same⟩ := moves_spent before.1 (step_moves taken)
  exact ⟨still, same.trans before.2⟩

/-- A claim is held only while the persisted state is `in_flight`. -/
theorem Invariant.unheld {world : World} (invariant : Invariant world) {text : String}
    (state : world.store.thinkClaimState = some text) (different : text ≠ "in_flight")
    (process : Nat) : (world.points process).claim = none := by
  by_contra held
  obtain ⟨claim, same⟩ := Option.ne_none_iff_exists'.mp held
  have current := (invariant.holds process claim same).current.2
  rw [state] at current
  exact different (Option.some.inj current)

/-! ## Every run -/

/-- What a `think_cycle` call starts from: the latest committed claim, persisted as
`in_flight`, made by this process and not used before. -/
structure OwnClaim (world : World) (process : Nat) (claim : Claim) : Prop where
  ready : world.points process = .claimed claim
  current : claim.Current world.store
  latest : claim.number = world.claims
  unused : claim.number ∉ world.calls

theorem recover_store {world following : World} {process : Nat} {commit : Commit}
    (taken : step decimal world (.recover process commit) = some following) :
    (following.store = world.store ∨ world.store.thinkClaimState = some "in_flight" ∧
      following.store = { world.store with thinkClaimState := some "uncertain" }) ∧
    following.counted = world.counted ∧ following.claims = world.claims ∧
    following.completed = world.completed ∧ following.calls = world.calls := by
  obtain ⟨_, same⟩ := Option.ite_none_right_eq_some.mp taken
  obtain rfl := Option.some.inj same
  refine ⟨?_, rfl, rfl, rfl, rfl⟩
  dsimp only
  unfold recoverThinkClaim
  split
  · split
    · rename_i flying
      exact .inr ⟨flying, rfl⟩
    · exact .inl rfl
  · exact .inl rfl

/-- The think-claim protocol, in every state that any processes reach. -/
theorem think_claim_protocol (decimal : Decimals) {world : World}
    (reached : Reaches (step decimal) anyStep emptyWorld world) :
    (world.calls.Nodup ∧ ∀ number ∈ world.calls, 1 ≤ number ∧ number ≤ world.claims) ∧
    (∀ process following, step decimal world (.think process) = some following →
      ∃ claim, OwnClaim world process claim ∧
        following.calls = claim.number :: world.calls) ∧
    (∀ first second firstClaim secondClaim, world.points first = .thinking firstClaim →
      world.points second = .thinking secondClaim → first = second) ∧
    (∀ text ∈ blockedStates, world.store.thinkClaimState = some text →
      (text = "in_flight" → ∀ process, (world.points process).claim = none) →
      ∀ later, Reaches (step decimal) anyStep world later → later.calls = world.calls) ∧
    (∀ process commit following, step decimal world (.recover process commit) = some following →
      (following.store = world.store ∨ world.store.thinkClaimState = some "in_flight" ∧
        following.store = { world.store with thinkClaimState := some "uncertain" }) ∧
      following.counted = world.counted ∧ following.claims = world.claims ∧
      following.completed = world.completed ∧ following.calls = world.calls) ∧
    ∃ counter, pyInt decimal (world.store.thinkCounter.getD "0") = some counter ∧ 0 ≤ counter ∧
      (world.counted : Int) = world.completed.sum + counter := by
  have invariant := reachable_invariant reached
  refine ⟨⟨invariant.nodup, invariant.calls⟩, ?_, ?_, ?_, ?_, ?_⟩
  · intro process following taken
    simp only [step] at taken
    split at taken
    · rename_i claim ready
      obtain rfl := Option.some.inj taken
      have mine := invariant.holds process claim (by rw [ready]; rfl)
      exact ⟨claim, ⟨ready, mine.current, mine.latest, invariant.unused process claim ready⟩, rfl⟩
    · cases taken
  · intro first second firstClaim secondClaim firstReady secondReady
    exact invariant.alone (by simp [firstReady]) (by simp [secondReady])
  · intro text member state abandoned later reached
    refine (reaches_spent ⟨⟨text, member, state⟩, fun process => ?_⟩ reached).2
    by_cases flying : text = "in_flight"
    · exact abandoned flying process
    · exact invariant.unheld state flying process
  · exact fun process commit following taken => recover_store taken
  · obtain ⟨counter, balanced⟩ := invariant.balanced
    have read := py_int_py_str decimal balanced.printable
    exact ⟨counter, by rw [balanced.text, read], balanced.nonnegative, balanced.conserved⟩

def sampleSettings : Settings where
  modelFn := true
  embeddingIdentityReady := true
  dbPath := true
  config := some (true, 2)

def countedTurn (process : Nat) (epoch : String) : List Action :=
  [.start process sampleSettings, .claim process epoch .committed, .leave process]

def completedTurn (process : Nat) (epoch : String) : List Action :=
  [.start process sampleSettings, .claim process epoch .committed, .think process,
    .endThink process .completed, .finalize process .committed, .leave process]

def recoveredSchedule : List Action :=
  countedTurn 0 "1:10" ++ completedTurn 1 "1:20" ++ countedTurn 1 "1:30" ++
    [.start 0 sampleSettings, .claim 0 "1:40" .committed, .think 0, .leave 0,
      .restart 2, .recover 2 .committed, .leave 2]

theorem recovered_claim_blocks :
    ∃ world, world.calls = [2, 1] ∧ world.completed = [2] ∧ world.counted = 4 ∧
      world.store.thinkClaimState = some "uncertain" ∧
      (∀ later, Reaches (step arabicDigits) anyStep world later → later.calls = [2, 1]) ∧
      ∃ counter, pyInt arabicDigits (world.store.thinkCounter.getD "0") = some counter ∧
        0 ≤ counter ∧ (world.counted : Int) = world.completed.sum + counter := by
  have ran : (execute (step arabicDigits) emptyWorld recoveredSchedule).map
      (fun world => (world.calls, world.completed, world.counted, world.store.thinkClaimState)) =
      some ([2, 1], [2], 4, some "uncertain") := by
    decide
  obtain ⟨world, executed, same⟩ := Option.map_eq_some_iff.mp ran
  simp only [Prod.mk.injEq] at same
  obtain ⟨calls, completed, counted, state⟩ := same
  have ⟨_, _, _, blocked, _, balanced⟩ :=
    think_claim_protocol arabicDigits
      (reaches_of_execute (step arabicDigits) emptyWorld recoveredSchedule executed)
  refine ⟨world, calls, completed, counted, state, ?_, balanced⟩
  rw [← calls]
  exact blocked "uncertain" (by decide) state fun flying => absurd flying (by decide)

end HermesCashew.ThinkClaim
