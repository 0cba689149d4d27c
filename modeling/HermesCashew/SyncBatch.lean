import HermesCashew.SyncQueue

/-!
# Batches drain like single turns

With `experimental_batch_sync` the worker takes up to eight items before it starts the
first of them. Nobody else uses the queue here, and the worker ends where the plain loop
ends, wherever the batches are cut.
-/

namespace HermesCashew.SyncQueue

open HermesCashew.Transition

set_option autoImplicit false

/-- What `_drain_once` does with a turn, after the calls before it. -/
abbrev Outcomes := List Turn → Turn → DrainOutcome

def State.workerAction (outcomes : Outcomes) (state : State) : Action :=
  match state.worker, state.queue with
  | .polling, [] | .collecting _ (_ + 1), [] => .empty
  | .polling, _ :: _ | .collecting _ (_ + 1), _ :: _ => .get
  | .processing turn _, _ => .worker (outcomes state.handed turn)
  | _, _ => .worker .completed

def Runs (outcomes : Outcomes) (first last : State) : Prop :=
  Reaches step (fun state action => action = state.workerAction outcomes) first last

/-- The worker has returned, or polls an empty queue and nobody has called `shutdown`. -/
def State.AtRest (state : State) : Prop :=
  state.worker = .returned ∨
    state.worker = .polling ∧ state.queue = [] ∧ state.shutdownStarted = false

/-- The worker comes to rest in `last`, and nowhere else. -/
def Ends (outcomes : Outcomes) (first last : State) : Prop :=
  Runs outcomes first last ∧ last.AtRest ∧
    ∀ other, Runs outcomes first other → other.AtRest → other = last

def Turn.wellTyped (turn : Turn) : Bool :=
  (turn.user matches .str _) && (turn.assistant matches .str _)

/-- Turns, and the sentinel behind them if there is one. -/
def contents (turns : List Turn) (sentinel : Bool) : List Item :=
  turns.map .turn ++ if sentinel then [.shutdown] else []

/-- The flag `experimental_batch_sync`. -/
def State.withBatch (state : State) (enabled : Bool) : State :=
  { state with config := { state.config with experimentalBatchSync := enabled } }

/-! ## One turn after the other -/

def State.drainTurn (outcomes : Outcomes) (state : State) (turn : Turn) : State :=
  let handed := { state.record .start with handed := state.handed ++ [turn] }
  { handed.record (outcomes state.handed turn).ledgerCall with taskDone := state.taskDone + 1 }

def State.drainTurns (outcomes : Outcomes) (state : State) (turns : List Turn) : State :=
  turns.foldl (State.drainTurn outcomes) state

def State.place (state : State) (queue : List Item) (taken : Nat) (worker : Worker) : State :=
  { state with queue := queue, taken := taken, worker := worker }

def State.finish (state : State) (sentinel : Bool) (taken : Nat) : State :=
  { state.place [] taken
      (if sentinel || state.shutdownStarted then .returned else .polling) with
    taskDone := state.taskDone + sentinel.toNat }

theorem drain_turn_producer (outcomes : Outcomes) (state : State) (turn : Turn) :
    (state.drainTurn outcomes turn).producer = state.producer := rfl

theorem drain_turns_producer (outcomes : Outcomes) (state : State) (turns : List Turn) :
    (state.drainTurns outcomes turns).producer = state.producer := by
  induction turns generalizing state with
  | nil => rfl
  | cons turn rest induction => exact induction (state.drainTurn outcomes turn)

theorem drain_turns_config (outcomes : Outcomes) (state : State) (turns : List Turn) :
    (state.drainTurns outcomes turns).config = state.config := by
  induction turns generalizing state with
  | nil => rfl
  | cons turn rest induction => exact induction (state.drainTurn outcomes turn)

theorem drain_turns_handed (outcomes : Outcomes) (state : State) (turns : List Turn) :
    (state.drainTurns outcomes turns).handed = state.handed ++ turns := by
  induction turns generalizing state with
  | nil => exact (List.append_nil _).symm
  | cons turn rest induction =>
      have first : (state.drainTurn outcomes turn).handed = state.handed ++ [turn] := rfl
      have after := induction (state.drainTurn outcomes turn)
      rw [first, List.append_assoc] at after
      exact after

theorem drain_turns_append (outcomes : Outcomes) (state : State) (front back : List Turn) :
    state.drainTurns outcomes (front ++ back) =
      (state.drainTurns outcomes front).drainTurns outcomes back :=
  List.foldl_append

/-! ## Parts of a run -/

section

variable {outcomes : Outcomes} {state : State}

theorem Runs.refl : Runs outcomes state state := Reaches.start

theorem Runs.trans {middle last : State} (front : Runs outcomes state middle)
    (back : Runs outcomes middle last) : Runs outcomes state last :=
  Reaches.trans front back

theorem Runs.of_step {following : State}
    (taken : step state (state.workerAction outcomes) = some following) :
    Runs outcomes state following :=
  .next .start rfl taken

/-- The turn is started, handed over and settled. -/
theorem drains_turn (free : state.producer = .free) {turn : Turn} (typed : turn.wellTyped = true)
    (queue : List Item) (taken : Nat) (items : List Item) :
    Runs outcomes (state.place queue taken (.draining (.turn turn :: items)))
      ((state.drainTurn outcomes turn).place queue taken (.draining items)) := by
  obtain ⟨text, user⟩ : ∃ text, turn.user = .str text := by
    unfold Turn.wellTyped at typed
    cases kind : turn.user with
    | str text => exact ⟨text, rfl⟩
    | sized length => simp [kind] at typed
    | unsized => simp [kind] at typed
  have sized : turn.user.len = some text.length := by rw [user, Content.len]
  let started := (state.record .start).place queue taken (.processing turn items)
  let handed := { started with
    handed := state.handed ++ [turn]
    worker := .settling turn items (outcomes state.handed turn) }
  have starts : step (state.place queue taken (.draining (.turn turn :: items)))
      (.worker .completed) = some started := if_pos free
  have hands : step started (.worker (outcomes state.handed turn)) = some handed := by
    simp only [step, workerStep, started, State.place, sized, Option.isSome_some, if_true]
    rfl
  have settles : step handed (.worker .completed) =
      some ((state.drainTurn outcomes turn).place queue taken (.draining items)) := by
    have still : started.producer = .free := free
    simp only [step, workerStep, handed]
    rw [if_pos still, sized]
    cases ended : outcomes state.handed turn with
    | completed | dropped | rejected | raised _ =>
        rw [State.drainTurn, ended]
        rfl
  exact (Runs.of_step starts).trans ((Runs.of_step hands).trans (Runs.of_step settles))

theorem drains_turns (free : state.producer = .free) {turns : List Turn}
    (typed : ∀ turn ∈ turns, turn.wellTyped = true) (queue : List Item) (taken : Nat)
    (items : List Item) :
    Runs outcomes (state.place queue taken (.draining (turns.map .turn ++ items)))
      ((state.drainTurns outcomes turns).place queue taken (.draining items)) := by
  induction turns generalizing state with
  | nil => exact .refl
  | cons turn rest induction =>
      obtain ⟨first, others⟩ := List.forall_mem_cons.mp typed
      exact (drains_turn free first queue taken (rest.map .turn ++ items)).trans
        (induction ((drain_turn_producer outcomes state turn).trans free) others)

/-- `for turn in items` is over. -/
theorem polls_again (queue : List Item) (taken : Nat) :
    Runs outcomes (state.place queue taken (.draining [])) (state.place queue taken .polling) :=
  .of_step rfl

/-- The loop ends with an empty queue, or takes the sentinel. -/
theorem finishes (sentinel : Bool) (taken : Nat) :
    Runs outcomes (state.place (contents [] sentinel) taken .polling)
      (state.finish sentinel (taken + (contents [] sentinel).length)) := by
  cases sentinel with
  | true => exact .of_step rfl
  | false =>
      cases shut : state.shutdownStarted with
      | false =>
          have same : state.finish false taken = state.place [] taken .polling := by
            simp [State.finish, State.place, shut]
          exact same ▸ .refl
      | true =>
          have same : state.finish false taken = state.place [] taken .returned := by
            simp [State.finish, State.place, shut]
          have tested : step (state.place [] taken .testing) (.worker .completed) =
              some (state.place [] taken .returned) := by
            simp [step, workerStep, State.place, shut]
          have polled : Runs outcomes (state.place [] taken .polling)
              (state.place [] taken .testing) := .of_step rfl
          exact same ▸ polled.trans (.of_step tested)

/-! ## One at a time -/

theorem single_finishes (single : state.config.experimentalBatchSync = false)
    (free : state.producer = .free) {turns : List Turn}
    (typed : ∀ turn ∈ turns, turn.wellTyped = true) (sentinel : Bool) (taken : Nat) :
    Runs outcomes (state.place (contents turns sentinel) taken .polling)
      ((state.drainTurns outcomes turns).finish sentinel
        (taken + (contents turns sentinel).length)) := by
  induction turns generalizing state taken with
  | nil => exact finishes sentinel taken
  | cons turn rest induction =>
      obtain ⟨first, others⟩ := List.forall_mem_cons.mp typed
      have gets : step (state.place (contents (turn :: rest) sentinel) taken .polling) .get =
          some (state.place (contents rest sentinel) (taken + 1) (.draining [.turn turn])) := by
        simp [step, workerGet, contents, State.place, single]
      have drained : Runs outcomes
          (state.place (contents rest sentinel) (taken + 1) (.draining [.turn turn]))
          ((state.drainTurn outcomes turn).place (contents rest sentinel) (taken + 1) .polling) :=
        (drains_turn free first _ _ []).trans (polls_again _ _)
      have later := @induction (state.drainTurn outcomes turn) single free others (taken + 1)
      have length : taken + 1 + (contents rest sentinel).length =
          taken + (contents (turn :: rest) sentinel).length := by
        simp only [contents, List.map_cons, List.cons_append, List.length_cons]
        omega
      rw [length] at later
      exact (Runs.of_step gets).trans (drained.trans later)

/-! ## In batches -/

/-- The batch is full before the end of the queue. -/
theorem collects_full (turns others : List Turn) (sentinel : Bool) (items : List Item)
    (taken : Nat) :
    Runs outcomes
      (state.place (contents (turns ++ others) sentinel) taken (.collecting items turns.length))
      (state.place (contents others sentinel) (taken + turns.length)
        (.draining (items ++ turns.map .turn))) := by
  induction turns generalizing items taken with
  | nil =>
      rw [List.map_nil, List.append_nil]
      exact .of_step rfl
  | cons turn rest induction =>
      have gets : step (state.place (contents (turn :: rest ++ others) sentinel) taken
          (.collecting items (rest.length + 1))) .get =
          some (state.place (contents (rest ++ others) sentinel) (taken + 1)
            (.collecting (items ++ [.turn turn]) rest.length)) := rfl
      have later := induction (items ++ [.turn turn]) (taken + 1)
      have length : taken + 1 + rest.length = taken + (turn :: rest).length := by
        rw [List.length_cons]
        omega
      rw [List.append_assoc, length] at later
      exact (Runs.of_step gets).trans later

/-- The queue, and its sentinel if it has one, end the batch. -/
theorem collects_all (turns : List Turn) (sentinel : Bool) (items : List Item)
    (taken room : Nat) :
    Runs outcomes
      (state.place (contents turns sentinel) taken (.collecting items (turns.length + room + 1)))
      (state.place [] (taken + (contents turns sentinel).length)
        (.draining (items ++ contents turns sentinel))) := by
  induction turns generalizing items taken with
  | nil =>
      cases sentinel with
      | false =>
          have same : items ++ contents [] false = items := List.append_nil items
          rw [same, List.length_nil, Nat.zero_add]
          exact .of_step rfl
      | true =>
          rw [List.length_nil, Nat.zero_add]
          exact .of_step rfl
  | cons turn rest induction =>
      have size : (turn :: rest).length + room + 1 = rest.length + room + 1 + 1 := by
        rw [List.length_cons]
        omega
      have gets : step (state.place (contents (turn :: rest) sentinel) taken
          (.collecting items (rest.length + room + 1 + 1))) .get =
          some (state.place (contents rest sentinel) (taken + 1)
            (.collecting (items ++ [.turn turn]) (rest.length + room + 1))) := rfl
      have later := induction (items ++ [.turn turn]) (taken + 1)
      have length : taken + 1 + (contents rest sentinel).length =
          taken + (contents (turn :: rest) sentinel).length := by
        simp only [contents, List.map_cons, List.cons_append, List.length_cons]
        omega
      rw [List.append_assoc, length] at later
      rw [size]
      exact (Runs.of_step gets).trans later

/-- The sentinel that a batch has taken ends the loop like the one in the queue. -/
theorem batch_ends (sentinel : Bool) (taken : Nat) :
    Runs outcomes
      (state.place [] taken (.draining (if sentinel then [.shutdown] else [])))
      (state.finish sentinel taken) := by
  cases sentinel with
  | true => exact .of_step rfl
  | false => exact (polls_again [] taken).trans (finishes false taken)

/-- Induction on the number of turns that are left; a round ends with the queue or leaves
some of them to the next one. -/
theorem batch_finishes (batch : state.config.experimentalBatchSync = true)
    (free : state.producer = .free) {turns : List Turn}
    (typed : ∀ turn ∈ turns, turn.wellTyped = true) (sentinel : Bool) (taken : Nat) :
    Runs outcomes (state.place (contents turns sentinel) taken .polling)
      ((state.drainTurns outcomes turns).finish sentinel
        (taken + (contents turns sentinel).length)) := by
  induction size : turns.length using Nat.strongRecOn generalizing state turns taken with
  | ind count induction =>
      cases turns with
      | nil => exact finishes sentinel taken
      | cons turn rest =>
          have gets : step (state.place (contents (turn :: rest) sentinel) taken .polling) .get =
              some (state.place (contents rest sentinel) (taken + 1)
                (.collecting [.turn turn] (batchSize - 1))) := by
            simp [step, workerGet, contents, State.place, batch]
          have began := @Runs.of_step outcomes _ _ gets
          by_cases full : batchSize - 1 ≤ rest.length
          · obtain ⟨front, back, rfl, count_eq⟩ : ∃ front back, rest = front ++ back ∧
                front.length = batchSize - 1 :=
              ⟨_, _, (List.take_append_drop (batchSize - 1) rest).symm,
                List.length_take_of_le full⟩
            obtain ⟨now, later⟩ := List.forall_mem_append.mp
              (show ∀ each ∈ (turn :: front) ++ back, each.wellTyped = true from typed)
            have collected := @collects_full outcomes state front back sentinel [.turn turn]
              (taken + 1)
            rw [count_eq] at collected
            have drained := @drains_turns outcomes state free _ now (contents back sentinel)
              (taken + 1 + (batchSize - 1)) []
            rw [List.append_nil] at drained
            have remaining := @induction back.length
              (by simp only [← size, List.length_cons, List.length_append]; omega)
              (state.drainTurns outcomes (turn :: front))
              ((congrArg Config.experimentalBatchSync (drain_turns_config _ _ _)).trans batch)
              ((drain_turns_producer _ _ _).trans free) back later
              (taken + 1 + (batchSize - 1)) rfl
            have total : taken + 1 + (batchSize - 1) + (contents back sentinel).length =
                taken + (contents (turn :: (front ++ back)) sentinel).length := by
              simp only [contents, List.map_cons, List.map_append, List.length_append,
                List.length_cons, List.length_map, count_eq]
              omega
            rw [total, ← drain_turns_append] at remaining
            exact began.trans (collected.trans (drained.trans ((polls_again _ _).trans remaining)))
          · obtain ⟨room, room_eq⟩ : ∃ room, batchSize - 1 = rest.length + room + 1 :=
              ⟨batchSize - 2 - rest.length, by omega⟩
            have collected := @collects_all outcomes state rest sentinel [.turn turn] (taken + 1)
              room
            rw [← room_eq] at collected
            have total : taken + 1 + (contents rest sentinel).length =
                taken + (contents (turn :: rest) sentinel).length := by
              simp only [contents, List.map_cons, List.cons_append, List.length_cons]
              omega
            have drained := @drains_turns outcomes state free _ typed []
              (taken + (contents (turn :: rest) sentinel).length)
              (if sentinel then [.shutdown] else [])
            rw [total] at collected
            have ended := @batch_ends outcomes (state.drainTurns outcomes (turn :: rest)) sentinel
              (taken + (contents (turn :: rest) sentinel).length)
            exact began.trans (collected.trans (drained.trans ended))

/-! ## Where a run ends -/

theorem Runs.head {first last : State} (run : Runs outcomes first last) :
    last = first ∨ ∃ second, step first (first.workerAction outcomes) = some second ∧
      Runs outcomes second last := by
  induction run with
  | start => exact .inl rfl
  | next prior permitted taken induction =>
      right
      subst permitted
      rcases induction with rfl | ⟨second, goes, rest⟩
      · exact ⟨_, taken, .refl⟩
      · exact ⟨second, goes, rest.trans (.of_step taken)⟩

/-- The worker has no choice, so one of two runs goes on to the end of the other. -/
theorem Runs.comparable {first left right : State} (one : Runs outcomes first left)
    (two : Runs outcomes first right) :
    Runs outcomes left right ∨ Runs outcomes right left := by
  induction one with
  | start => exact .inl two
  | next prior permitted taken induction =>
      subst permitted
      rcases induction with ahead | behind
      · rcases ahead.head with rfl | ⟨second, goes, rest⟩
        · exact .inr (.of_step taken)
        · rw [taken] at goes
          obtain rfl := Option.some.inj goes
          exact .inl rest
      · exact .inr (behind.trans (.of_step taken))

theorem returned_stays {last : State} (returned : state.worker = .returned)
    (run : Runs outcomes state last) : last = state := by
  rcases run.head with same | ⟨second, goes, -⟩
  · exact same
  · simp [State.workerAction, step, workerStep, returned] at goes

/-- An idle worker does nothing but poll. -/
theorem idle_stays {last : State} (polls : state.worker = .polling) (empty : state.queue = [])
    (running : state.shutdownStarted = false) (run : Runs outcomes state last) :
    last = state ∨ last = { state with worker := .testing } := by
  have times_out : step state (state.workerAction outcomes) =
      some { state with worker := .testing } := by
    have action : state.workerAction outcomes = .empty := by
      simp only [State.workerAction, polls, empty]
    rw [action, step, workerEmpty]
    split
    · rfl
    · rename_i collecting _
      cases polls.symm.trans collecting
    · rename_i other _
      exact absurd empty (other polls)
  have polls_on : step { state with worker := .testing } (.worker .completed) = some state := by
    have again : (if state.shutdownStarted then Worker.returned else .polling) = state.worker := by
      simp [running, polls]
    have tested : step { state with worker := .testing } (.worker .completed) = some { state with
      worker := if state.shutdownStarted then .returned else .polling } := rfl
    rw [tested, again]
  induction run with
  | start => exact .inl rfl
  | next prior permitted taken induction =>
      subst permitted
      rcases induction with rfl | rfl
      · exact .inr (Option.some.inj (taken.symm.trans times_out))
      · exact .inl (Option.some.inj (taken.symm.trans polls_on))

theorem rest_stays {last : State} (rest : state.AtRest) (also : last.AtRest)
    (run : Runs outcomes state last) : last = state := by
  rcases rest with returned | ⟨polls, empty, running⟩
  · exact returned_stays returned run
  · rcases idle_stays polls empty running run with same | rfl
    · exact same
    · rcases also with returned | ⟨polls, -, -⟩
      · cases returned
      · cases polls

theorem ends_of_runs {last : State} (run : Runs outcomes state last) (rest : last.AtRest) :
    Ends outcomes state last := by
  refine ⟨run, rest, fun other reached also => ?_⟩
  rcases run.comparable reached with onward | back
  · exact rest_stays rest also onward
  · exact (rest_stays also rest back).symm

theorem finish_rests (state : State) (sentinel : Bool) (taken : Nat) :
    (state.finish sentinel taken).AtRest := by
  cases stopped : sentinel || state.shutdownStarted with
  | true =>
      left
      simp [State.finish, State.place, stopped]
  | false =>
      obtain ⟨plain, running⟩ := Bool.or_eq_false_iff.mp stopped
      right
      simp [State.finish, State.place, plain, running]

theorem drain_turns_with_batch (turns : List Turn) (enabled : Bool) :
    (state.withBatch enabled).drainTurns outcomes turns =
      (state.drainTurns outcomes turns).withBatch enabled := by
  induction turns generalizing state with
  | nil => rfl
  | cons turn rest induction => exact @induction (state.drainTurn outcomes turn)

/-- Both settings hand the same turns to `_drain_once`, with the same calls of the ledger
and the same number of `task_done`, and end in the same state. -/
theorem batch_drains_as_single (outcomes : Outcomes) (turns : List Turn) (sentinel : Bool)
    (state : State) (polls : state.worker = .polling) (free : state.producer = .free)
    (queue : state.queue = contents turns sentinel)
    (typed : ∀ turn ∈ turns, turn.wellTyped = true) :
    ∃ last : State, last.handed = state.handed ++ turns ∧
      Ends outcomes (state.withBatch false) (last.withBatch false) ∧
      Ends outcomes (state.withBatch true) (last.withBatch true) := by
  let taken := state.taken + (contents turns sentinel).length
  have placed (enabled : Bool) : state.withBatch enabled =
      (state.withBatch enabled).place (contents turns sentinel) state.taken .polling := by
    rw [← queue, ← polls]
    rfl
  refine ⟨(state.drainTurns outcomes turns).finish sentinel taken,
    drain_turns_handed outcomes state turns, ?_, ?_⟩
  · have run := @single_finishes outcomes (state.withBatch false) rfl free turns typed sentinel
      state.taken
    rw [← placed, drain_turns_with_batch] at run
    exact ends_of_runs run (finish_rests _ sentinel taken)
  · have run := @batch_finishes outcomes (state.withBatch true) rfl free turns typed sentinel
      state.taken
    rw [← placed, drain_turns_with_batch] at run
    exact ends_of_runs run (finish_rests _ sentinel taken)

def nineTurns : List Turn :=
  (List.range 9).map fun ticket =>
    { ticket := ticket
      user := .str "hello"
      assistant := .str "hi"
      session := "s" }

def nineQueued : State where
  config :=
    { writeEnabled := true
      identityReady := true
      autoExtraction := true
      experimentalBatchSync := true
      sessionId := "s" }
  queue := contents nineTurns true
  shutdownStarted := true
  ledger := { pending := 9 }

def someFail (before : List Turn) (_ : Turn) : DrainOutcome :=
  match before.length with
  | 2 => .raised none
  | 4 => .rejected
  | _ => .completed

theorem nine_turns_drain_alike :
    nineTurns.length = 9 ∧ ∃ last : State, last.handed = nineTurns ∧
      Ends someFail (nineQueued.withBatch false) (last.withBatch false) ∧
      Ends someFail (nineQueued.withBatch true) (last.withBatch true) :=
  ⟨rfl, batch_drains_as_single someFail nineTurns true nineQueued rfl rfl rfl (by decide)⟩

end

end HermesCashew.SyncQueue
