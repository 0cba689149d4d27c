import HermesCashew.SyncQueue

/-!
# Ledger truth and queue order

Four invariants over every interleaving of producers, worker and shutdown: the
books (`Books`), the closing of the gate before the sentinel (`Gate`), the queue
order (`Fifo`) and the drop-oldest branch (`DropsOldest`). While a `sync_turn`
call holds the state lock the counters may be one step behind the queue; the
producer's position says by how much.
-/

namespace HermesCashew.SyncQueue

open HermesCashew.Transition

set_option autoImplicit false

/-- The turn that was put but not yet counted by `admit`. -/
def Producer.unadmitted : Producer → List Turn
  | .admitting turn => [turn]
  | _ => []

def Producer.unput : Producer → List Turn
  | .putting turn | .evicting turn | .dropping turn | .retrying turn => [turn]
  | _ => []

/-- Evictions that `drop_pending` has not counted yet. -/
def Producer.undropped : Producer → Nat
  | .dropping _ => 1
  | _ => 0

/-! ## The gate closes before the sentinel -/

def SentinelLast : List Item → Prop
  | [] => True
  | .turn _ :: rest => SentinelLast rest
  | .shutdown :: rest => rest = []

theorem sentinel_last_of_not_mem (items : List Item)
    (absent : Item.shutdown ∉ items) : SentinelLast items := by
  induction items with
  | nil => trivial
  | cons item rest ih =>
      cases item with
      | turn turn => exact ih (by simpa using absent)
      | shutdown => simp at absent

theorem sentinel_last_tail (item : Item) (rest : List Item)
    (last : SentinelLast (item :: rest)) : SentinelLast rest := by
  cases item with
  | turn turn => exact last
  | shutdown =>
      obtain rfl : rest = [] := last
      trivial

theorem sentinel_last_concat (items : List Item)
    (absent : Item.shutdown ∉ items) : SentinelLast (items ++ [.shutdown]) := by
  induction items with
  | nil => rfl
  | cons item rest ih =>
      cases item with
      | turn turn => exact ih (by simpa using absent)
      | shutdown => simp at absent

/-- No producer is inside the lock once `shutdown` has set the flag, so no turn
can be put behind the sentinel. -/
structure Gate (state : State) : Prop where
  producing : state.producer ≠ .free → state.closer = .absent
  flag : state.shutdownStarted = true ↔ state.closer ≠ .absent
  unposted : state.closer = .absent ∨ state.closer = .posting ∨
    state.closer = .waiting → Item.shutdown ∉ state.outstanding
  sentinelLast : SentinelLast state.outstanding

theorem start_gate (config : Config) : Gate (start config) where
  producing := by simp [start]
  flag := by simp [start]
  unposted := by simp [start, State.outstanding, Worker.items]
  sentinelLast := trivial

/-- A step that leaves the flag, the closer and the outstanding items alone. -/
theorem Gate.unchanged {state following : State} (gate : Gate state)
    (producing : following.producer ≠ .free → state.producer ≠ .free ∨
      state.closer = .absent)
    (flag : following.shutdownStarted = state.shutdownStarted)
    (closer : following.closer = state.closer)
    (outstanding : following.outstanding = state.outstanding) : Gate following where
  producing := by
    intro busy
    rw [closer]
    exact (producing busy).elim gate.producing id
  flag := by rw [flag, closer]; exact gate.flag
  unposted := by rw [closer, outstanding]; exact gate.unposted
  sentinelLast := by rw [outstanding]; exact gate.sentinelLast

/-- A step that removes the oldest outstanding item. -/
theorem Gate.removed {state following : State} (gate : Gate state) (item : Item)
    (producer : following.producer = state.producer)
    (flag : following.shutdownStarted = state.shutdownStarted)
    (closer : following.closer = state.closer)
    (outstanding : state.outstanding = item :: following.outstanding) :
    Gate following where
  producing := by rw [producer, closer]; exact gate.producing
  flag := by rw [flag, closer]; exact gate.flag
  unposted := by
    rw [closer]
    intro early member
    exact gate.unposted early (by rw [outstanding]; exact List.mem_cons_of_mem _ member)
  sentinelLast := sentinel_last_tail item _ (outstanding ▸ gate.sentinelLast)

theorem moves_gate {state following : State} {action : Action} (gate : Gate state)
    (moves : Moves state action following) : Gate following := by
  cases moves with
  | finishInitialization | refusedSilently user assistant session | refused user assistant session free =>
      exact gate.unchanged .inl rfl rfl rfl
  | enter user assistant session turn free accepts ticket =>
      have clear : state.closer = .absent := by
        by_contra called
        have started := gate.flag.mpr called
        simp [State.refuses, started] at accepts
      exact gate.unchanged (fun _ => .inr clear) rfl rfl rfl
  | put turn ready =>
      have active : state.producer ≠ .free := by
        rcases ready with ready | ready <;> simp [ready]
      have absent := gate.producing active
      have noSentinel := gate.unposted (.inl absent)
      have appended : (state.put turn).outstanding = state.outstanding ++ [.turn turn] := by
        simp [State.outstanding, State.put]
      refine ⟨fun _ => absent, gate.flag, ?_, sentinel_last_of_not_mem _ ?_⟩
      · rw [appended]
        simpa using fun _ => noSentinel
      · rw [appended]
        simpa using noSentinel
  | full turn ready | drained turn ready | drop turn ready =>
      exact gate.unchanged (fun _ => .inl (by simp [ready])) rfl rfl rfl
  | evict turn item rest ready queue =>
      have absent := gate.producing (by simp [ready])
      have noSentinel := gate.unposted (.inl absent)
      have fewer : Item.shutdown ∉ state.worker.items ++ rest := by
        simp only [State.outstanding, queue, List.mem_append, List.mem_cons,
          not_or] at noSentinel ⊢
        exact ⟨noSentinel.1, noSentinel.2.2⟩
      exact ⟨fun _ => absent, gate.flag, fun _ => fewer,
        sentinel_last_of_not_mem _ fewer⟩
  | overflow turn ready full | admitTurn turn ready =>
      exact gate.unchanged (by simp) rfl rfl rfl
  | shutdown free absent =>
      exact ⟨fun busy => absurd free busy, by simp,
        fun _ => gate.unposted (.inl absent), gate.sentinelLast⟩
  | post ready =>
      have called : state.closer ≠ .absent := by
        rcases ready with ready | ready <;> simp [ready]
      have noSentinel := gate.unposted (.inr ready)
      have appended : state.worker.items ++ (state.queue ++ [.shutdown]) =
          state.outstanding ++ [.shutdown] := by
        simp [State.outstanding]
      refine ⟨fun busy => absurd (gate.producing busy) called, ?_, by simp, ?_⟩
      · simpa using gate.flag.mpr called
      · change SentinelLast (state.worker.items ++ (state.queue ++ [.shutdown]))
        rw [appended]
        exact sentinel_last_concat _ noSentinel
  | wait ready =>
      refine ⟨fun busy => ?_, ?_, fun _ => gate.unposted (by simp [ready]),
        gate.sentinelLast⟩
      · simpa [ready] using gate.producing busy
      · simpa using gate.flag.mpr (by simp [ready])
  | giveUp ready =>
      refine ⟨fun busy => ?_, ?_, by simp, gate.sentinelLast⟩
      · simpa [ready] using gate.producing busy
      · simpa using gate.flag.mpr (by simp [ready])
  | clear ready free ended =>
      refine ⟨fun busy => absurd free busy, ?_, by simp, gate.sentinelLast⟩
      simpa using gate.flag.mpr (by simp [ready])
  | takeSentinel rest ready queue =>
      exact gate.removed .shutdown rfl rfl rfl
        (by simp [State.outstanding, ready, queue, Worker.items])
  | takeTurn turn rest worker ready queue next =>
      refine gate.unchanged .inl rfl rfl ?_
      rcases next with rfl | rfl <;>
        simp [State.outstanding, ready, queue, Worker.items]
  | collectSentinel items rest left ready queue =>
      exact gate.unchanged .inl rfl rfl
        (by simp [State.outstanding, ready, queue, Worker.items])
  | collectTurn items rest left turn ready queue =>
      exact gate.unchanged .inl rfl rfl
        (by simp [State.outstanding, ready, queue, Worker.items])
  | empty ready queue | endBatch action items left ready | loop outcome ready | hand turn rest outcome ready sized
  | lengthFails outcome turn rest ready unsized | settle unused turn rest outcome free ready sized =>
      exact gate.unchanged .inl rfl rfl
        (by simp [State.outstanding, ready, Worker.items, State.record])
  | testFlag outcome ready =>
      refine gate.unchanged .inl rfl rfl ?_
      simp only [State.outstanding, ready]
      split_ifs <;> rfl
  | exitSentinel outcome rest ready =>
      have nothing : rest ++ state.queue = [] := by
        simpa [State.outstanding, ready, Worker.items, SentinelLast] using
          gate.sentinelLast
      refine gate.removed .shutdown rfl rfl rfl ?_
      simp [State.outstanding, ready, Worker.items, List.append_eq_nil_iff.mp nothing]
  | startTurn outcome turn rest free ready =>
      exact gate.removed (.turn turn) rfl rfl rfl
        (by simp [State.outstanding, ready, Worker.items, State.record])
  | settleUnsized unused turn rest outcome worker free ready unsized next =>
      refine gate.unchanged .inl rfl rfl ?_
      cases outcome <;> simp_all [State.outstanding, Worker.items, State.record]

/-! ## The books -/

structure Books (state : State) : Prop where
  replayed : state.ledger = replay state.journal
  guarded : NoGuardSaves state.journal
  pending : state.ledger.pending + state.producer.unadmitted.length =
    (turnsOf state.outstanding).length + state.producer.undropped
  inFlight : state.ledger.inFlight = state.worker.busy

theorem Books.reconciled {state : State} (books : Books state) :
    state.ledger.reconciled = true := by
  rw [books.replayed]
  exact reconciled_replay state.journal books.guarded

theorem Books.in_flight_accepted {state : State} (books : Books state) :
    state.ledger.inFlight ≤ state.ledger.accepted := by
  have balanced := books.reconciled
  simp only [OutcomeLedger.reconciled, beq_iff_eq] at balanced
  omega

/-- Recording a call keeps the journal faithful; the caller owes the guard. -/
theorem Books.record {state : State} (books : Books state) (call : LedgerCall)
    (guard : call.GuardHolds state.ledger) :
    call.apply state.ledger = replay (state.journal ++ [call]) ∧
      NoGuardSaves (state.journal ++ [call]) := by
  refine ⟨?_, no_guard_saves_concat _ _ books.guarded (books.replayed ▸ guard)⟩
  rw [replay_concat, ← books.replayed]

theorem start_books (config : Config) : Books (start config) where
  replayed := rfl
  guarded := no_guard_saves_nil
  pending := rfl
  inFlight := rfl

/-- A step that neither calls the ledger nor moves a turn. -/
theorem Books.unchanged {state following : State} (books : Books state)
    (ledger : following.ledger = state.ledger)
    (journal : following.journal = state.journal)
    (unadmitted : following.producer.unadmitted = state.producer.unadmitted)
    (undropped : following.producer.undropped = state.producer.undropped)
    (outstanding : turnsOf following.outstanding = turnsOf state.outstanding)
    (busy : following.worker.busy = state.worker.busy) : Books following where
  replayed := by rw [ledger, journal]; exact books.replayed
  guarded := by rw [journal]; exact books.guarded
  pending := by rw [ledger, unadmitted, undropped, outstanding]; exact books.pending
  inFlight := by rw [ledger, busy]; exact books.inFlight

/-- An outcome of `_drain_once` takes exactly one turn out of flight. -/
theorem outcome_call_counts (outcome : DrainOutcome) (ledger : OutcomeLedger) :
    (outcome.ledgerCall.apply ledger).inFlight = ledger.inFlight - 1 ∧
      (outcome.ledgerCall.apply ledger).pending = ledger.pending := by
  cases outcome with
  | raised upstream =>
      simp only [DrainOutcome.ledgerCall, LedgerCall.apply, OutcomeLedger.fail]
      split_ifs <;> simp
  | _ => exact ⟨rfl, rfl⟩

theorem outcome_call_guard (outcome : DrainOutcome) (ledger : OutcomeLedger)
    (running : 0 < ledger.inFlight) (counted : ledger.inFlight ≤ ledger.accepted) :
    outcome.ledgerCall.GuardHolds ledger := by
  cases outcome with
  | rejected => exact ⟨running, Nat.lt_of_lt_of_le running counted⟩
  | _ => exact running

/-- The outcome of the running turn is booked, and the worker moves on. -/
theorem Books.settled {state : State} (books : Books state) (turn : Turn)
    (rest : List Item) (outcome : DrainOutcome) (worker : Worker)
    (ready : state.worker = .settling turn rest outcome)
    (items : worker.items = rest) (idle : worker.busy = 0) :
    Books { state.record outcome.ledgerCall with
      taskDone := state.taskDone + 1, worker := worker } := by
  have inFlight := books.inFlight
  rw [ready] at inFlight
  have one : state.ledger.inFlight = 1 := inFlight
  obtain ⟨replayed, guarded⟩ := books.record outcome.ledgerCall
    (outcome_call_guard outcome _ (by omega) books.in_flight_accepted)
  obtain ⟨flying, queued⟩ := outcome_call_counts outcome state.ledger
  refine ⟨replayed, guarded, ?_, ?_⟩
  · have pending := books.pending
    simp only [State.outstanding, ready, Worker.items] at pending
    simpa only [State.record, State.outstanding, items, queued] using pending
  · simp only [State.record, flying, idle]
    omega

theorem moves_books {state following : State} {action : Action} (gate : Gate state)
    (books : Books state) (moves : Moves state action following) : Books following := by
  have pending := books.pending
  cases moves with
  | finishInitialization | refusedSilently user assistant session | shutdown free absent | wait ready
  | giveUp ready | clear ready free ended => exact { books with }
  | refused user assistant session free =>
      obtain ⟨replayed, guarded⟩ := books.record .reject trivial
      exact ⟨replayed, guarded, pending, books.inFlight⟩
  | enter user assistant session turn free accepts ticket =>
      exact books.unchanged rfl rfl (by rw [free]; rfl) (by rw [free]; rfl) rfl rfl
  | put turn ready =>
      refine { books with pending := ?_ }
      rcases ready with ready | ready <;>
        · rw [ready] at pending
          simp only [State.put, State.outstanding, Producer.unadmitted,
            Producer.undropped, turns_of_append, turns_of_turn, turns_of_nil,
            List.length_append, List.length_cons, List.length_nil] at pending ⊢
          omega
  | full turn ready | drained turn ready =>
      exact books.unchanged rfl rfl (by rw [ready]; rfl) (by rw [ready]; rfl) rfl rfl
  | evict turn item rest ready queue =>
      have absent := gate.unposted (.inl (gate.producing (by simp [ready])))
      refine { books with pending := ?_ }
      cases item with
      | shutdown => simp [State.outstanding, queue] at absent
      | turn oldest =>
          rw [ready] at pending
          simp only [State.outstanding, queue, Producer.unadmitted, Producer.undropped,
            turns_of_append, turns_of_turn, List.length_append, List.length_cons,
            List.length_nil] at pending ⊢
          omega
  | drop turn ready =>
      rw [ready] at pending
      simp only [Producer.unadmitted, Producer.undropped, List.length_nil] at pending
      obtain ⟨replayed, guarded⟩ := books.record .dropPending
        (show 0 < state.ledger.pending by omega)
      refine ⟨replayed, guarded, ?_, books.inFlight⟩
      simp only [State.record, State.outstanding, LedgerCall.apply,
        OutcomeLedger.dropPending, Producer.unadmitted, Producer.undropped,
        List.length_nil] at pending ⊢
      omega
  | overflow turn ready full =>
      obtain ⟨replayed, guarded⟩ := books.record .reject trivial
      rw [ready] at pending
      exact ⟨replayed, guarded, pending, books.inFlight⟩
  | admitTurn turn ready =>
      obtain ⟨replayed, guarded⟩ := books.record .admitWork trivial
      refine ⟨replayed, guarded, ?_, books.inFlight⟩
      rw [ready] at pending
      simp only [State.record, State.outstanding, LedgerCall.apply,
        OutcomeLedger.admitWork, Producer.unadmitted, Producer.undropped,
        List.length_nil, List.length_cons] at pending ⊢
      omega
  | post ready =>
      exact books.unchanged rfl rfl rfl rfl (by simp [State.outstanding]) rfl
  | takeSentinel rest ready queue =>
      exact books.unchanged rfl rfl rfl rfl
        (by simp [State.outstanding, ready, queue, Worker.items]) (by rw [ready]; rfl)
  | takeTurn turn rest worker ready queue next =>
      refine books.unchanged rfl rfl rfl rfl ?_ ?_ <;>
        rcases next with rfl | rfl <;>
        simp [State.outstanding, ready, queue, Worker.items, Worker.busy]
  | collectSentinel items rest left ready queue =>
      exact books.unchanged rfl rfl rfl rfl
        (by simp [State.outstanding, ready, queue, Worker.items]) (by rw [ready]; rfl)
  | collectTurn items rest left turn ready queue =>
      exact books.unchanged rfl rfl rfl rfl
        (by simp [State.outstanding, ready, queue, Worker.items]) (by rw [ready]; rfl)
  | empty ready queue | endBatch action items left ready | loop outcome ready
  | hand turn rest outcome ready sized | lengthFails outcome turn rest ready unsized =>
      exact books.unchanged rfl rfl rfl rfl
        (by simp [State.outstanding, ready, Worker.items]) (by rw [ready]; rfl)
  | testFlag outcome ready =>
      refine books.unchanged rfl rfl rfl rfl ?_ ?_ <;>
        · simp only [State.outstanding, ready]
          split_ifs <;> rfl
  | exitSentinel outcome rest ready =>
      have nothing : rest ++ state.queue = [] := by
        simpa [State.outstanding, ready, Worker.items, SentinelLast] using
          gate.sentinelLast
      refine books.unchanged rfl rfl rfl rfl ?_ (by rw [ready]; rfl)
      simp [State.outstanding, ready, Worker.items, List.append_eq_nil_iff.mp nothing]
  | startTurn outcome turn rest free ready =>
      have inFlight := books.inFlight
      rw [ready] at inFlight
      simp only [State.outstanding, ready, free, Worker.items, Producer.unadmitted,
        Producer.undropped, List.cons_append, turns_of_turn, List.length_cons,
        List.length_nil] at pending
      obtain ⟨replayed, guarded⟩ := books.record .start
        (show 0 < state.ledger.pending by omega)
      refine ⟨replayed, guarded, ?_, ?_⟩
      · simp only [State.record, State.outstanding, LedgerCall.apply,
          OutcomeLedger.start, free, Worker.items, Producer.unadmitted,
          Producer.undropped, List.length_nil]
        omega
      · simp only [State.record, LedgerCall.apply, OutcomeLedger.start, Worker.busy]
          at inFlight ⊢
        omega
  | settle unused turn rest outcome free ready sized =>
      exact books.settled turn rest outcome _ ready rfl rfl
  | settleUnsized unused turn rest outcome worker free ready unsized next =>
      refine books.settled turn rest outcome worker ready ?_ ?_ <;>
        cases outcome <;> simp_all [Worker.items, Worker.busy]

/-! ## First in, first out -/

def Measured (state : State) : Prop :=
  ∀ turn rest outcome, state.worker = .settling turn rest outcome →
    turn.user.len = none → outcome = .raised none

theorem moves_measured {state following : State} {action : Action}
    (measured : Measured state) (moves : Moves state action following) :
    Measured following := by
  intro turn rest outcome settling unsized
  cases moves with
  | takeTurn first behind worker ready queue next =>
      rcases next with rfl | rfl <;> simp at settling
  | testFlag unused ready =>
      simp only at settling
      split_ifs at settling
  | hand first behind result ready sized =>
      obtain ⟨rfl, rfl, rfl⟩ : first = turn ∧ behind = rest ∧ result = outcome := by
        simpa using settling
      simp [unsized] at sized
  | lengthFails unused first behind ready absent =>
      obtain ⟨rfl, rfl, same⟩ : first = turn ∧ behind = rest ∧ .raised none = outcome := by
        simpa using settling
      exact same.symm
  | settleUnsized unused first behind result worker free ready absent next =>
      cases result <;> simp_all
  | takeSentinel | collectSentinel | collectTurn | empty | endBatch | loop
  | exitSentinel | startTurn | settle => simp at settling
  | _ => exact measured turn rest outcome settling unsized

/-- The turns already handed to `_drain_once` followed by those on their way to
it, in the order in which they will be handed. -/
def State.line (state : State) : List Turn :=
  state.handed ++ state.worker.inHand ++ turnsOf state.outstanding

inductive LineChange (state following : State) : Prop where
  | same (line : following.line = state.line)
      (entered : following.entered = state.entered)
      (evictions : following.evictions = state.evictions)
  | put (turn : Turn) (line : following.line = state.line ++ [turn])
      (entered : following.entered = state.entered ++ [turn])
      (evictions : following.evictions = state.evictions)
  | evict (oldest : Turn) (rest : List Item) (front back : List Turn)
      (line : state.line = front ++ oldest :: back)
      (queued : back = turnsOf rest)
      (left : following.line = front ++ back)
      (entered : following.entered = state.entered)
      (evictions : following.evictions = state.evictions ++ [(.turn oldest, rest)])
  | abandon (turn : Turn) (front back : List Turn) (rest : List Item)
      (line : state.line = front ++ turn :: back) (left : following.line = front ++ back)
      (killed : following.worker = .killed rest)
      (entered : following.entered = state.entered)
      (evictions : following.evictions = state.evictions)

theorem moves_line_change {state following : State} {action : Action}
    (gate : Gate state) (measured : Measured state)
    (moves : Moves state action following) : LineChange state following := by
  cases moves with
  | put turn ready =>
      exact .put turn (by simp [State.line, State.put, State.outstanding]) rfl rfl
  | evict turn item rest ready queue =>
      have absent := gate.unposted (.inl (gate.producing (by simp [ready])))
      cases item with
      | shutdown => simp [State.outstanding, queue] at absent
      | turn oldest =>
          refine .evict oldest rest
            (state.handed ++ state.worker.inHand ++ turnsOf state.worker.items)
            (turnsOf rest) ?_ rfl ?_ rfl rfl <;>
            simp [State.line, State.outstanding, queue]
  | post ready => exact .same (by simp [State.line, State.outstanding]) rfl rfl
  | takeSentinel rest ready queue =>
      refine .same ?_ rfl rfl
      simp [State.line, State.outstanding, ready, queue, Worker.items, Worker.inHand]
  | takeTurn turn rest worker ready queue next =>
      refine .same ?_ rfl rfl
      rcases next with rfl | rfl <;>
        simp [State.line, State.outstanding, ready, queue, Worker.items, Worker.inHand]
  | collectSentinel items rest left ready queue
  | collectTurn items rest left turn ready queue =>
      refine .same ?_ rfl rfl
      simp [State.line, State.outstanding, ready, queue, Worker.items, Worker.inHand]
  | empty ready queue | endBatch action items left ready | loop outcome ready
  | startTurn outcome turn rest free ready
  | lengthFails outcome turn rest ready unsized | hand turn rest outcome ready sized
  | settle unused turn rest outcome free ready sized =>
      refine .same ?_ rfl rfl
      simp [State.line, State.outstanding, State.record, Worker.items, Worker.inHand, *]
  | testFlag outcome ready =>
      refine .same ?_ rfl rfl
      simp only [State.line, State.outstanding, ready]
      split_ifs <;> rfl
  | exitSentinel outcome rest ready =>
      have nothing : rest ++ state.queue = [] := by
        simpa [State.outstanding, ready, Worker.items, SentinelLast] using
          gate.sentinelLast
      refine .same ?_ rfl rfl
      simp [State.line, State.outstanding, ready, Worker.items, Worker.inHand,
        List.append_eq_nil_iff.mp nothing]
  | settleUnsized unused turn rest outcome worker free ready unsized next =>
      obtain rfl := measured turn rest outcome ready unsized
      obtain rfl : worker = .killed rest := next
      refine .abandon turn state.handed (turnsOf rest ++ turnsOf state.queue) rest
        ?_ ?_ rfl rfl rfl <;>
        simp [State.line, State.outstanding, State.record, ready, Worker.items,
          Worker.inHand, unsized]
  | _ => exact .same rfl rfl rfl

/-- The line keeps the order in which the turns were put. -/
theorem LineChange.order {state following : State}
    (change : LineChange state following)
    (order : state.line.Sublist state.entered) :
    following.line.Sublist following.entered := by
  cases change with
  | same line entered evictions =>
      rw [line, entered]
      exact order
  | put turn line entered evictions =>
      rw [line, entered]
      exact order.append (.refl _)
  | evict oldest rest front back line queued left entered evictions =>
      rw [left, entered]
      refine List.Sublist.trans ?_ (line ▸ order)
      exact (List.Sublist.refl front).append (List.sublist_cons_self _ _)
  | abandon turn front back rest line left killed entered evictions =>
      rw [left, entered]
      refine List.Sublist.trans ?_ (line ▸ order)
      exact (List.Sublist.refl front).append (List.sublist_cons_self _ _)

/-- Tickets rise in the order of the puts, and the turn that the running
`sync_turn` call has not put yet is the youngest. -/
structure Tickets (state : State) : Prop where
  admission : state.entered = state.admitted ++ state.producer.unadmitted
  ascending : (state.entered ++ state.producer.unput).Pairwise
    fun earlier later => earlier.ticket < later.ticket
  fresh : ∀ turn ∈ state.entered ++ state.producer.unput,
    turn.ticket < state.nextTicket

theorem start_tickets (config : Config) : Tickets (start config) where
  admission := rfl
  ascending := List.Pairwise.nil
  fresh := by simp [start, Producer.unput]

/-- A step inside `sync_turn` that neither puts nor admits. -/
theorem Tickets.waited {state following : State} (tickets : Tickets state)
    (entered : following.entered = state.entered)
    (admitted : following.admitted = state.admitted)
    (unadmitted : following.producer.unadmitted = state.producer.unadmitted)
    (unput : following.producer.unput.Sublist state.producer.unput)
    (ticket : following.nextTicket = state.nextTicket) : Tickets following where
  admission := by rw [entered, admitted, unadmitted]; exact tickets.admission
  ascending := by
    rw [entered]
    exact tickets.ascending.sublist ((List.Sublist.refl _).append unput)
  fresh := by
    rw [entered, ticket]
    intro turn member
    exact tickets.fresh turn (((List.Sublist.refl _).append unput).subset member)

theorem moves_tickets {state following : State} {action : Action}
    (tickets : Tickets state) (moves : Moves state action following) :
    Tickets following := by
  cases moves with
  | enter user assistant session turn free accepts ticket =>
      obtain ⟨admission, ascending, fresh⟩ := tickets
      rw [free] at admission ascending fresh
      simp only [Producer.unput, List.append_nil] at ascending fresh
      refine ⟨admission, ?_, ?_⟩
      · refine List.pairwise_append.mpr ⟨ascending, List.pairwise_singleton _ _, ?_⟩
        intro earlier member later only
        obtain rfl : later = turn := by simpa [Producer.unput] using only
        rw [ticket]
        exact fresh earlier member
      · intro other member
        rcases List.mem_append.mp member with old | only
        · exact Nat.lt_succ_of_lt (fresh other old)
        · obtain rfl : other = turn := by simpa [Producer.unput] using only
          rw [ticket]
          exact Nat.lt_succ_self _
  | put turn ready =>
      have unput : state.producer.unput = [turn] := by
        rcases ready with ready | ready <;> rw [ready] <;> rfl
      have unadmitted : state.producer.unadmitted = [] := by
        rcases ready with ready | ready <;> rw [ready] <;> rfl
      obtain ⟨admission, ascending, fresh⟩ := tickets
      rw [unadmitted, List.append_nil] at admission
      rw [unput] at ascending fresh
      refine ⟨?_, ?_, ?_⟩
      · simp [State.put, Producer.unadmitted, admission]
      · simpa [State.put, Producer.unput] using ascending
      · simpa [State.put, Producer.unput] using fresh
  | full turn ready | drained turn ready | drop turn ready | evict turn item rest ready queue =>
      exact tickets.waited rfl rfl (by rw [ready]; rfl) (by rw [ready]; exact .refl _) rfl
  | overflow turn ready full =>
      exact tickets.waited rfl rfl (by rw [ready]; rfl) (List.nil_sublist _) rfl
  | admitTurn turn ready =>
      obtain ⟨admission, ascending, fresh⟩ := tickets
      rw [ready] at admission ascending fresh
      exact ⟨by simpa [State.record, Producer.unadmitted] using admission,
        ascending, fresh⟩
  | _ => exact tickets.waited rfl rfl rfl (.refl _) rfl

/-! ## The drop-oldest branch -/

def DropsOldest (state : State) : Prop :=
  ∀ eviction ∈ state.evictions, ∃ turn, eviction.1 = .turn turn ∧
    ∀ later ∈ turnsOf eviction.2, turn.ticket < later.ticket

theorem LineChange.drops_oldest {state following : State}
    (change : LineChange state following) (tickets : Tickets state)
    (order : state.line.Sublist state.entered) (oldest : DropsOldest state) :
    DropsOldest following := by
  intro eviction member
  cases change with
  | same line entered evictions => exact oldest eviction (evictions ▸ member)
  | put turn line entered evictions => exact oldest eviction (evictions ▸ member)
  | abandon turn front back rest line left killed entered evictions =>
      exact oldest eviction (evictions ▸ member)
  | evict first rest front back line queued left entered evictions =>
      rw [evictions] at member
      rcases List.mem_append.mp member with old | only
      · exact oldest eviction old
      · obtain rfl : eviction = (.turn first, rest) := by simpa using only
        refine ⟨first, rfl, ?_⟩
        have queue : (first :: back).Sublist state.entered := by
          rw [line] at order
          exact (List.sublist_append_right _ _).trans order
        have ascending := (tickets.ascending.sublist
          (List.sublist_append_left _ _)).sublist queue
        rw [← queued]
        exact (List.pairwise_cons.mp ascending).1

/-! ## Every reachable state -/

structure Consistent (state : State) : Prop where
  gate : Gate state
  books : Books state
  measured : Measured state
  order : state.line.Sublist state.entered
  tickets : Tickets state
  oldest : DropsOldest state

theorem start_consistent (config : Config) : Consistent (start config) where
  gate := start_gate config
  books := start_books config
  measured := by intro turn rest outcome settling; simp [start] at settling
  order := List.Sublist.refl []
  tickets := start_tickets config
  oldest := by intro eviction member; simp [start] at member

theorem step_consistent {state following : State} {action : Action}
    (consistent : Consistent state) (taken : step state action = some following) :
    Consistent following := by
  have moves := step_moves taken
  have change := moves_line_change consistent.gate consistent.measured moves
  exact {
    gate := moves_gate consistent.gate moves
    books := moves_books consistent.gate consistent.books moves
    measured := moves_measured consistent.measured moves
    order := change.order consistent.order
    tickets := moves_tickets consistent.tickets moves
    oldest := change.drops_oldest consistent.tickets consistent.order
      consistent.oldest }

theorem reachable_consistent {config : Config} {state : State}
    (reached : Reaches step anyStep (start config) state) : Consistent state := by
  refine reached.invariant Consistent (start_consistent config) ?_
  intro state action following consistent _ taken
  exact step_consistent consistent taken

/-- What an observer who holds the state lock finds. -/
structure LedgerTruth (state : State) : Prop where
  balance : state.ledger.accepted =
    state.ledger.completed + state.ledger.failed + state.ledger.partialWork +
      state.ledger.uncertain + state.ledger.dropped + state.ledger.pending +
      state.ledger.inFlight
  reconciled : state.ledger.workSnapshot.reconciled = true
  noGuardSaves : state.ledger = replay state.journal ∧ NoGuardSaves state.journal
  pending : state.ledger.pending =
    (turnsOf state.queue).length + state.unstarted.length
  inFlight : state.ledger.inFlight ≤ 1
  handedInOrder : state.handed.Sublist state.admitted ∧ state.handed.Nodup
  oldest : DropsOldest state

/-- Ledger truth and FIFO over every interleaving of one generation, observed
whenever no `sync_turn` call is inside the state lock. -/
theorem ledger_truth_and_fifo (config : Config) (state : State)
    (reached : Reaches step anyStep (start config) state)
    (unlocked : state.producer = .free) : LedgerTruth state := by
  obtain ⟨gate, books, measured, order, tickets, oldest⟩ := reachable_consistent reached
  have reconciled := books.reconciled
  obtain ⟨admission, ascending, fresh⟩ := tickets
  simp only [unlocked, Producer.unadmitted, Producer.unput, List.append_nil]
    at admission ascending
  have handed : state.handed.Sublist state.admitted := by
    rw [← admission]
    refine List.Sublist.trans ?_ order
    simp only [State.line, List.append_assoc]
    exact List.sublist_append_left _ _
  refine ⟨?_, reconciled, ⟨books.replayed, books.guarded⟩, ?_, ?_, ⟨handed, ?_⟩, oldest⟩
  · simpa [OutcomeLedger.reconciled] using reconciled
  · have pending := books.pending
    simp only [unlocked, Producer.unadmitted, Producer.undropped, State.outstanding,
      turns_of_append, List.length_append, List.length_nil, Nat.add_zero] at pending
    rw [pending, State.unstarted, Nat.add_comm]
  · rw [books.inFlight]
    cases state.worker <;> simp [Worker.busy]
  · rw [admission] at ascending
    refine (ascending.sublist handed).imp ?_
    intro earlier later before same
    rw [same] at before
    exact Nat.lt_irrefl _ before

def batchConfig : Config where
  writeEnabled := true
  identityReady := true
  autoExtraction := true
  experimentalBatchSync := true
  sessionId := "session"

def batchSchedule : List Action :=
  [.finishInitialization,
    .syncTurn (.str "first") (.str "") "", .producer, .get, .producer,
    .syncTurn (.str "second") (.str "") "", .producer, .producer, .get, .empty,
    .worker .completed]

theorem ledger_truth_mid_batch :
    ∃ state, state.ledger.pending = 1 ∧ state.ledger.inFlight = 1 ∧
      LedgerTruth state := by
  have reached := reaches_of_execute step (start batchConfig) batchSchedule rfl
  exact ⟨_, rfl, rfl, ledger_truth_and_fifo batchConfig _ reached rfl⟩

end HermesCashew.SyncQueue
