import Mathlib.Data.List.Basic

/-!
# Labelled transition systems

A system is a partial step function on a state type: `step state action` is the
state after `action`, or `none` when the action is not enabled. Interleavings of
any number of threads are schedules, that is lists of actions, and a run may be
restricted to steps that are `allowed` in the state they are taken from.
-/

namespace HermesCashew.Transition

set_option autoImplicit false

variable {State Action : Type*}

/-- Run one schedule of permitted steps. A disabled or forbidden action makes
the whole schedule `none`. -/
def executeWhere (permits : State → Action → Bool)
    (step : State → Action → Option State) : State → List Action → Option State
  | state, [] => some state
  | state, action :: rest =>
      if permits state action then
        (step state action).bind fun following =>
          executeWhere permits step following rest
      else none

/-- Run one schedule of arbitrary steps. -/
def execute (step : State → Action → Option State) :
    State → List Action → Option State :=
  executeWhere (fun _ _ => true) step

/-- The states reached from `start` when every step is enabled and `allowed`
in the state it is taken from. -/
inductive Reaches (step : State → Action → Option State)
    (allowed : State → Action → Prop) (start : State) : State → Prop where
  | start : Reaches step allowed start start
  | next {state following : State} {action : Action}
      (prior : Reaches step allowed start state)
      (permitted : allowed state action)
      (taken : step state action = some following) :
      Reaches step allowed start following

/-- The restriction that permits every step. -/
def anyStep (_ : State) (_ : Action) : Prop := True

variable {step : State → Action → Option State}
variable {allowed : State → Action → Prop} {start state : State}

/-- A property that holds at the start and is kept by every allowed step holds
in every state reached. -/
theorem Reaches.invariant (property : State → Prop)
    (initial : property start)
    (kept : ∀ state action following, property state → allowed state action →
      step state action = some following → property following)
    (reached : Reaches step allowed start state) : property state := by
  induction reached with
  | start => exact initial
  | next prior permitted taken ih => exact kept _ _ _ ih permitted taken

/-- The two-level rule: an invariant `base` established separately may be used
in every step of the proof of `property`. -/
theorem Reaches.invariant_with (base property : State → Prop)
    (always : ∀ state, Reaches step allowed start state → base state)
    (initial : property start)
    (kept : ∀ state action following, base state → property state →
      allowed state action → step state action = some following →
      property following)
    (reached : Reaches step allowed start state) : property state := by
  induction reached with
  | start => exact initial
  | next prior permitted taken ih =>
      exact kept _ _ _ (always _ prior) ih permitted taken

theorem Reaches.trans {middle : State}
    (first : Reaches step allowed start middle)
    (second : Reaches step allowed middle state) :
    Reaches step allowed start state := by
  induction second with
  | start => exact first
  | next prior permitted taken ih => exact .next ih permitted taken

/-- Dropping the restriction keeps every reached state reachable. -/
theorem Reaches.weaken (reached : Reaches step allowed start state) :
    Reaches step anyStep start state := by
  induction reached with
  | start => exact .start
  | next prior permitted taken ih => exact .next ih trivial taken

/-- A schedule that runs to its end reaches its last state. -/
theorem reaches_of_execute_where (step : State → Action → Option State)
    (allowed : State → Action → Prop) (permits : State → Action → Bool)
    (sound : ∀ state action, permits state action = true → allowed state action)
    (first : State) (schedule : List Action) {last : State}
    (ran : executeWhere permits step first schedule = some last) :
    Reaches step allowed first last := by
  induction schedule generalizing first with
  | nil =>
      have same : first = last := by simpa [executeWhere] using ran
      exact same ▸ .start
  | cons action rest ih =>
      rw [executeWhere] at ran
      obtain ⟨permitted, runs⟩ := Option.ite_none_right_eq_some.mp ran
      obtain ⟨following, taken, remaining⟩ := Option.bind_eq_some_iff.mp runs
      exact (Reaches.next .start (sound first action permitted) taken).trans
        (ih following remaining)

theorem reaches_of_execute (step : State → Action → Option State) (first : State)
    (schedule : List Action) {last : State}
    (ran : execute step first schedule = some last) :
    Reaches step anyStep first last :=
  reaches_of_execute_where step anyStep _ (fun _ _ _ => trivial) first schedule ran

end HermesCashew.Transition
