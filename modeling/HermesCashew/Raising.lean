import Mathlib.Logic.Basic

/-!
# Blocks that raise

Code over a state that ends with a value or with an exception. What it did to the
state before it raised stays done. `Ends` is the rule of pre- and postconditions: one
postcondition for the value and one for the exception.
-/

namespace HermesCashew.Raising

set_option autoImplicit false

def Block (State Error Value : Type) : Type :=
  State → Except Error Value × State

namespace Block

variable {State Error Value Result : Type}

def value (result : Value) : Block State Error Value :=
  fun state => (.ok result, state)

def andThen (block : Block State Error Value) (next : Value → Block State Error Result) :
    Block State Error Result :=
  fun state =>
    match block state with
    | (.ok result, after) => next result after
    | (.error error, after) => (.error error, after)

def raise (error : Error) : Block State Error Value :=
  fun state => (.error error, state)

/-- `try: block; except: handler`. -/
def except (block : Block State Error Value) (handler : Error → Block State Error Value) :
    Block State Error Value :=
  fun state =>
    match block state with
    | (.ok result, after) => (.ok result, after)
    | (.error error, after) => handler error after

/-- `try: block; finally: cleanup`. An exception of the cleanup replaces the outcome. -/
def finish (block : Block State Error Value) (cleanup : Block State Error Unit) :
    Block State Error Value :=
  fun state =>
    match cleanup (block state).2 with
    | (.ok _, after) => ((block state).1, after)
    | (.error error, after) => (.error error, after)

instance : Monad (Block State Error) where
  pure := value
  bind := andThen

@[simp] theorem pure_apply (result : Value) (state : State) :
    (pure result : Block State Error Value) state = (.ok result, state) :=
  rfl

theorem bind_apply (block : Block State Error Value) (next : Value → Block State Error Result)
    (state : State) : (block >>= next) state =
      match block state with
      | (.ok result, after) => next result after
      | (.error error, after) => (.error error, after) :=
  rfl

theorem bind_ok {block : Block State Error Value} {next : Value → Block State Error Result}
    {state after : State} {result : Value} (ran : block state = (.ok result, after)) :
    (block >>= next) state = next result after := by
  rw [bind_apply, ran]

theorem bind_error {block : Block State Error Value} {next : Value → Block State Error Result}
    {state after : State} {error : Error} (ran : block state = (.error error, after)) :
    (block >>= next) state = (.error error, after) := by
  rw [bind_apply, ran]

theorem bind_assoc {Last : Type} (block : Block State Error Value)
    (first : Value → Block State Error Result) (second : Result → Block State Error Last) :
    (block >>= first) >>= second = block >>= fun value => first value >>= second := by
  funext state
  simp only [bind_apply]
  rcases block state with ⟨outcome, after⟩
  cases outcome <;> rfl

theorem bind_inv {block : Block State Error Value} {next : Value → Block State Error Result}
    {state after : State} {result : Result} (ran : (block >>= next) state = (.ok result, after)) :
    ∃ value middle, block state = (.ok value, middle) ∧
      next value middle = (.ok result, after) := by
  rw [bind_apply] at ran
  split at ran
  · rename_i value middle first
    exact ⟨value, middle, first, ran⟩
  · cases ran

theorem finish_inv {block : Block State Error Value} {cleanup : Block State Error Unit}
    {state after : State} {result : Value}
    (ran : block.finish cleanup state = (.ok result, after)) :
    ∃ middle, block state = (.ok result, middle) ∧ cleanup middle = (.ok (), after) := by
  unfold Block.finish at ran
  split at ran
  · rename_i value final cleaned
    obtain ⟨first, rfl⟩ := Prod.mk.inj ran
    exact ⟨(block state).2, Prod.ext first rfl, cleaned⟩
  · cases ran

/-- Started in `before`, the block ends with a value and `done`, or raises and `failed`. -/
def Ends (before : State → Prop) (block : Block State Error Value)
    (done : Value → State → Prop) (failed : Error → State → Prop) : Prop :=
  ∀ state, before state →
    match block state with
    | (.ok result, after) => done result after
    | (.error error, after) => failed error after

theorem Ends.bind {before : State → Prop} {block : Block State Error Value}
    {next : Value → Block State Error Result} {middle : Value → State → Prop}
    {done : Result → State → Prop} {failed : Error → State → Prop}
    (first : Ends before block middle failed)
    (second : ∀ result, Ends (middle result) (next result) done failed) :
    Ends before (block >>= next) done failed := by
  intro state held
  have ran := first state held
  rw [bind_apply]
  cases outcome : block state with
  | mk result after =>
      rw [outcome] at ran
      cases result with
      | ok result => exact second result after ran
      | error error => exact ran

theorem Ends.weaken {before : State → Prop} {block : Block State Error Value}
    {done later : Value → State → Prop} {failed : Error → State → Prop}
    (first : Ends before block done failed) (implied : ∀ result state, done result state →
      later result state) : Ends before block later failed := by
  intro state held
  have ran := first state held
  cases outcome : block state with
  | mk result after =>
      rw [outcome] at ran
      cases result with
      | ok result => exact implied result after ran
      | error error => exact ran

theorem Ends.excuse {before : State → Prop} {block : Block State Error Value}
    {done : Value → State → Prop} {failed later : Error → State → Prop}
    (first : Ends before block done failed) (implied : ∀ error state, failed error state →
      later error state) : Ends before block done later := by
  intro state held
  have ran := first state held
  cases outcome : block state with
  | mk result after =>
      rw [outcome] at ran
      cases result with
      | ok result => exact ran
      | error error => exact implied error after ran

/-- What does not depend on the state is kept. -/
theorem Ends.frame {before : State → Prop} {block : Block State Error Value}
    {done : Value → State → Prop} {failed : Error → State → Prop} (fact : Prop)
    (first : Ends before block done failed) : Ends (fun state => before state ∧ fact) block
      (fun result state => done result state ∧ fact)
      (fun error state => failed error state ∧ fact) := by
  rintro state ⟨held, true_⟩
  have ran := first state held
  cases outcome : block state with
  | mk result after =>
      rw [outcome] at ran
      cases result with
      | ok result => exact ⟨ran, true_⟩
      | error error => exact ⟨ran, true_⟩

theorem Ends.strengthen {before earlier : State → Prop} {block : Block State Error Value}
    {done : Value → State → Prop} {failed : Error → State → Prop}
    (first : Ends before block done failed) (implied : ∀ state, earlier state → before state) :
    Ends earlier block done failed :=
  fun state held => first state (implied state held)

theorem Ends.raise {before : State → Prop} {error : Error} {done : Value → State → Prop}
    {failed : Error → State → Prop} (holds : ∀ state, before state → failed error state) :
    Ends before (Block.raise error) done failed :=
  holds

theorem Ends.value {before : State → Prop} {result : Value} {done : Value → State → Prop}
    {failed : Error → State → Prop} (holds : ∀ state, before state → done result state) :
    Ends before (pure result) done failed :=
  holds

theorem Ends.except {before : State → Prop} {block : Block State Error Value}
    {handler : Error → Block State Error Value} {done : Value → State → Prop}
    {middle failed : Error → State → Prop} (first : Ends before block done middle)
    (second : ∀ error, Ends (middle error) (handler error) done failed) :
    Ends before (block.except handler) done failed := by
  intro state held
  have ran := first state held
  unfold Block.except
  cases outcome : block state with
  | mk result after =>
      rw [outcome] at ran
      cases result with
      | ok result => exact ran
      | error error => exact second error after ran

theorem Ends.finish {before : State → Prop} {block : Block State Error Value}
    {cleanup : Block State Error Unit} {done : Value → State → Prop}
    {failed : Error → State → Prop} (first : Ends before block done failed)
    (afterDone : ∀ result, Ends (done result) cleanup (fun _ => done result) failed)
    (afterFailed : ∀ error, Ends (failed error) cleanup (fun _ => failed error) failed) :
    Ends before (block.finish cleanup) done failed := by
  intro state held
  have ran := first state held
  unfold Block.finish
  cases outcome : block state with
  | mk result after =>
      rw [outcome] at ran
      cases result with
      | ok result =>
          have cleaned := afterDone result after ran
          cases cleanup_outcome : cleanup after with
          | mk cleanup_result final =>
              rw [cleanup_outcome] at cleaned
              cases cleanup_result <;> exact cleaned
      | error error =>
          have cleaned := afterFailed error after ran
          cases cleanup_outcome : cleanup after with
          | mk cleanup_result final =>
              rw [cleanup_outcome] at cleaned
              cases cleanup_result <;> exact cleaned

/-! ## What a block keeps however it ends -/

def Keeps (held : State → Prop) (block : Block State Error Value) : Prop :=
  ∀ state, held state → held (block state).2

theorem Keeps.pure {held : State → Prop} (result : Value) :
    Keeps held (Pure.pure result : Block State Error Value) :=
  fun _ given => given

theorem Keeps.raise {held : State → Prop} (error : Error) :
    Keeps held (Block.raise error : Block State Error Value) :=
  fun _ given => given

theorem Keeps.bind {held : State → Prop} {block : Block State Error Value}
    {next : Value → Block State Error Result} (first : Keeps held block)
    (second : ∀ result, Keeps held (next result)) : Keeps held (block >>= next) := by
  intro state given
  have kept := first state given
  rw [bind_apply]
  cases outcome : block state with
  | mk result after =>
      rw [outcome] at kept
      cases result with
      | ok result => exact second result after kept
      | error error => exact kept

theorem Keeps.ends {held : State → Prop} {block : Block State Error Value}
    (keeps : Keeps held block) : Ends held block (fun _ => held) (fun _ => held) := by
  intro state given
  have kept := keeps state given
  cases outcome : block state with
  | mk result after =>
      rw [outcome] at kept
      cases result with
      | ok result => exact kept
      | error error => exact kept

theorem Ends.state {before : State → Prop} {block : Block State Error Value}
    {held : State → Prop} (ends : Ends before block (fun _ => held) (fun _ => held))
    {state : State} (given : before state) : held (block state).2 := by
  have ran := ends state given
  cases outcome : block state with
  | mk result after =>
      rw [outcome] at ran
      cases result with
      | ok result => exact ran
      | error error => exact ran

end Block

end HermesCashew.Raising
