import HermesCashew.EmbeddingChannel
import HermesCashew.Raising

/-!
# Sending and receiving frames

`_send` and `_receive` of the supervisor, whose socket does not block and whose calls have
a deadline, and of the worker, whose socket blocks. What one side has written and the
other has not read yet is a list of bytes; how a call cuts it is up to the environment.
-/

namespace HermesCashew.EmbeddingFrames

open HermesCashew.EmbeddingChannel (maxFrame)
open HermesCashew.Framing
open HermesCashew.Raising

set_option autoImplicit false

/-- How a call fails: the reasons of an `EmbeddingUnavailable`, an `EOFError`, and the
`ValueError` of the worker. -/
inductive Failure where
  | timeout
  | exited
  | protocol
  | eof
  | frameTooLarge
  deriving DecidableEq, Repr

def moved (offered limit : Nat) : Nat :=
  min (max 1 offered) limit

/-- `_receive` of either side: `refusal` is raised for a length that is too large. -/
def receiveWith {Stream : Type} (readExact : Nat → Block Stream Failure (List Byte))
    (refusal : Failure) : Block Stream Failure (List Byte) := do
  let length ← readExact 4
  if maxFrame < unpack length then Block.raise refusal else readExact (unpack length)

namespace Supervisor

/-- One turn of a loop: the deadline has passed or `select` times out, the call raises
`BlockingIOError`, or it moves bytes. The deadline passes after finitely many turns. -/
inductive Turn where
  | late
  | blocked
  | moves (offered : Nat)
  deriving DecidableEq, Repr

/-- The end of the stream, with the turns that are left. Once `unread` is empty the worker
has closed its end. -/
structure Inbound where
  turns : List Turn
  unread : List Byte

/-- The loop of `_read_exact`, `size` bytes before its end. -/
def readLoop : List Turn → Nat → List Byte → List Byte → Except Failure (List Byte) × Inbound
  | turns, 0, chunks, unread => (.ok chunks, ⟨turns, unread⟩)
  | [], _ + 1, _, unread => (.error .timeout, ⟨[], unread⟩)
  | .late :: turns, _ + 1, _, unread => (.error .timeout, ⟨turns, unread⟩)
  | .blocked :: turns, size + 1, chunks, unread => readLoop turns (size + 1) chunks unread
  | .moves _ :: turns, _ + 1, _, [] => (.error .exited, ⟨turns, []⟩)
  | .moves offered :: turns, size + 1, chunks, byte :: rest =>
      let taken := moved offered (min (size + 1) (rest.length + 1))
      readLoop turns (size + 1 - taken) (chunks ++ (byte :: rest).take taken)
        ((byte :: rest).drop taken)

def readExact (size : Nat) : Block Inbound Failure (List Byte) :=
  fun stream => readLoop stream.turns size [] stream.unread

def receive : Block Inbound Failure (List Byte) := receiveWith readExact .protocol

/-- The loop of `_send`: what is written, after the bytes in `written`. -/
def sendLoop : List Turn → List Byte → List Byte → Except Failure Unit × List Byte
  | _, [], written => (.ok (), written)
  | [], _ :: _, written => (.error .timeout, written)
  | .late :: _, _ :: _, written => (.error .timeout, written)
  | .blocked :: turns, byte :: rest, written => sendLoop turns (byte :: rest) written
  | .moves offered :: turns, byte :: rest, written =>
      let sent := min offered (rest.length + 1)
      if sent = 0 then (.error .exited, written)
      else sendLoop turns ((byte :: rest).drop sent) (written ++ (byte :: rest).take sent)

def send (turns : List Turn) (payload : List Byte) : Block (List Byte) Failure Unit :=
  fun written =>
    if maxFrame < payload.length then (.error .protocol, written)
    else sendLoop turns (frame payload) written

end Supervisor

namespace Worker

/-- The end of the stream, and the sizes of the chunks that the next calls of `recv`
return; the calls after these return what they are asked for, as far as it is there. -/
structure Inbound where
  cuts : List Nat
  unread : List Byte

def readLoop : List Nat → Nat → List Byte → List Byte → Except Failure (List Byte) × Inbound
  | cuts, 0, chunks, unread => (.ok chunks, ⟨cuts, unread⟩)
  | cuts, _ + 1, _, [] => (.error .eof, ⟨cuts, []⟩)
  | [], size + 1, chunks, byte :: rest =>
      if size ≤ rest.length then
        (.ok (chunks ++ (byte :: rest).take (size + 1)), ⟨[], (byte :: rest).drop (size + 1)⟩)
      else (.error .eof, ⟨[], []⟩)
  | offered :: cuts, size + 1, chunks, byte :: rest =>
      let taken := moved offered (min (size + 1) (rest.length + 1))
      readLoop cuts (size + 1 - taken) (chunks ++ (byte :: rest).take taken)
        ((byte :: rest).drop taken)

def readExact (size : Nat) : Block Inbound Failure (List Byte) :=
  fun stream => readLoop stream.cuts size [] stream.unread

def receive : Block Inbound Failure (List Byte) := receiveWith readExact .frameTooLarge

/-- `sock.sendall`: every byte is written, in parts of these sizes and a last one. -/
def sendAll : List Nat → List Byte → List Byte → List Byte
  | [], pending, written => written ++ pending
  | offered :: cuts, pending, written =>
      let sent := moved offered pending.length
      sendAll cuts (pending.drop sent) (written ++ pending.take sent)

def send (cuts : List Nat) (payload : List Byte) : Block (List Byte) Failure Unit :=
  fun written =>
    if maxFrame < payload.length then (.error .frameTooLarge, written)
    else (.ok (), sendAll cuts (frame payload) written)

end Worker

/-! ## Many frames -/

section

variable {Stream : Type}

structure Received (Stream : Type) where
  payloads : List (List Byte)
  failure : Option Failure
  stream : Stream

/-- At most `count` calls of `receive`, up to the first that fails. -/
def receives (receive : Block Stream Failure (List Byte)) : Nat → Stream → Received Stream
  | 0, stream => ⟨[], none, stream⟩
  | count + 1, stream =>
      match receive stream with
      | (.error failure, after) => ⟨[], some failure, after⟩
      | (.ok payload, after) =>
          let others := receives receive count after
          { others with payloads := payload :: others.payloads }

/-- One call of `send` for each payload, up to the first that fails. -/
def sends {Cuts : Type} (send : Cuts → List Byte → Block (List Byte) Failure Unit) :
    List (Cuts × List Byte) → Block (List Byte) Failure Unit
  | [] => pure ()
  | (cuts, payload) :: rest => do
      send cuts payload
      sends send rest

end

/-! ## One loop of reads -/

def Punctual {Stream : Type} (Prompt : Stream → Prop) :
    Except Failure (List Byte) × Stream → Prop
  | (.ok _, after) => Prompt after
  | (.error failure, _) => failure ≠ .timeout

theorem moved_pos (offered : Nat) {limit : Nat} (positive : 0 < limit) :
    0 < moved offered limit := by
  unfold moved
  omega

theorem moved_le (offered limit : Nat) : moved offered limit ≤ limit :=
  Nat.min_le_right _ _

/-- What a loop of reads does: it returns the next `size` bytes, or fails inside them,
because they are not all there or because it is late. -/
def Reads (ended : Failure) (size : Nat) (chunks unread : List Byte) :
    Except Failure (List Byte) → List Byte → Prop
  | .ok bytes, left =>
      size ≤ unread.length ∧ bytes = chunks ++ unread.take size ∧ left = unread.drop size
  | .error failure, left =>
      (∃ taken, taken ≤ size ∧ left = unread.drop taken) ∧
        (failure = .timeout ∨ failure = ended ∧ unread.length < size)

theorem Reads.done (ended : Failure) (chunks unread : List Byte) :
    Reads ended 0 chunks unread (.ok chunks) unread :=
  ⟨Nat.zero_le _, (List.append_nil chunks).symm, rfl⟩

theorem Reads.ended {ended : Failure} {size : Nat} {chunks : List Byte} :
    Reads ended (size + 1) chunks [] (.error ended) [] :=
  ⟨⟨0, Nat.zero_le _, rfl⟩, .inr ⟨rfl, Nat.succ_pos size⟩⟩

theorem Reads.late {ended : Failure} {size : Nat} {chunks unread : List Byte} :
    Reads ended size chunks unread (.error .timeout) unread :=
  ⟨⟨0, Nat.zero_le _, rfl⟩, .inl rfl⟩

/-- A chunk is read and the rest of the bytes after it. -/
theorem Reads.chunk {ended : Failure} {size taken : Nat} {chunks unread left : List Byte}
    {outcome : Except Failure (List Byte)} (within_ : taken ≤ size)
    (there : taken ≤ unread.length)
    (rest : Reads ended (size - taken) (chunks ++ unread.take taken) (unread.drop taken)
      outcome left) : Reads ended size chunks unread outcome left := by
  cases outcome with
  | ok bytes =>
      obtain ⟨enough, read, behind⟩ := rest
      rw [List.length_drop] at enough
      refine ⟨by omega, ?_, ?_⟩
      · rw [read, List.append_assoc, ← List.take_add, Nat.add_sub_cancel' within_]
      · rw [behind, List.drop_drop, Nat.add_sub_cancel' within_]
  | error failure =>
      obtain ⟨⟨more, inside, behind⟩, cause⟩ := rest
      rw [List.length_drop] at cause
      refine ⟨⟨taken + more, by omega, ?_⟩, ?_⟩
      · rw [behind, List.drop_drop]
      · rcases cause with late | ⟨same, short⟩
        · exact .inl late
        · exact .inr ⟨same, by omega⟩

namespace Supervisor

theorem read_loop_reads (turns : List Turn) (size : Nat) (chunks unread : List Byte) :
    Reads .exited size chunks unread (readLoop turns size chunks unread).1
      (readLoop turns size chunks unread).2.unread := by
  induction turns generalizing size chunks unread with
  | nil =>
      cases size with
      | zero => exact .done _ _ _
      | succ size => exact .late
  | cons turn turns induction =>
      cases size with
      | zero => exact .done _ _ _
      | succ size =>
          cases turn with
          | late => exact .late
          | blocked => exact induction (size + 1) chunks unread
          | moves offered =>
              cases unread with
              | nil => exact .ended
              | cons byte rest =>
                  have bound := moved_le offered (min (size + 1) (rest.length + 1))
                  rw [Nat.le_min] at bound
                  exact .chunk bound.1 bound.2 (induction _ _ _)

def Turn.isMove : Turn → Bool
  | .moves _ => true
  | _ => false

def Inbound.Prompt (stream : Inbound) : Prop :=
  .late ∉ stream.turns ∧ stream.unread.length < stream.turns.countP Turn.isMove

theorem read_loop_prompt (turns : List Turn) (size : Nat) (chunks unread : List Byte)
    (prompt : Inbound.Prompt ⟨turns, unread⟩) :
    Punctual Inbound.Prompt (readLoop turns size chunks unread) := by
  induction turns generalizing size chunks unread with
  | nil => exact absurd prompt.2 (Nat.not_lt_zero _)
  | cons turn turns induction =>
      cases size with
      | zero => exact prompt
      | succ size =>
          obtain ⟨patient, enough⟩ := prompt
          have patient_rest : .late ∉ turns := fun late => patient (List.mem_cons_of_mem _ late)
          cases turn with
          | late => exact absurd List.mem_cons_self patient
          | blocked => exact induction (size + 1) chunks unread ⟨patient_rest, enough⟩
          | moves offered =>
              cases unread with
              | nil =>
                  intro same
                  cases same
              | cons byte rest =>
                  apply induction
                  have some_taken := moved_pos offered
                    (by omega : 0 < min (size + 1) (rest.length + 1))
                  rw [List.countP_cons_of_pos rfl] at enough
                  refine ⟨patient_rest, ?_⟩
                  simp only [List.length_drop, List.length_cons] at enough ⊢
                  omega

end Supervisor

namespace Worker

theorem read_loop_reads (cuts : List Nat) (size : Nat) (chunks unread : List Byte) :
    Reads .eof size chunks unread (readLoop cuts size chunks unread).1
      (readLoop cuts size chunks unread).2.unread := by
  induction cuts generalizing size chunks unread with
  | nil =>
      cases size with
      | zero => exact .done _ _ _
      | succ size =>
          cases unread with
          | nil => exact .ended
          | cons byte rest =>
              rw [readLoop]
              split
              · rename_i enough
                exact ⟨Nat.succ_le_succ enough, rfl, rfl⟩
              · rename_i short
                refine ⟨⟨rest.length + 1, by omega, ?_⟩, .inr ⟨rfl, ?_⟩⟩
                · exact List.drop_length.symm
                · exact Nat.succ_lt_succ (Nat.not_le.mp short)
  | cons offered cuts induction =>
      cases size with
      | zero => exact .done _ _ _
      | succ size =>
          cases unread with
          | nil => exact .ended
          | cons byte rest =>
              have bound := moved_le offered (min (size + 1) (rest.length + 1))
              rw [Nat.le_min] at bound
              exact .chunk bound.1 bound.2 (induction _ _ _)

/-- The calls of a blocking socket are never late. -/
theorem read_loop_patient (cuts : List Nat) (size : Nat) (chunks unread : List Byte)
    {failure : Failure} (failed : (readLoop cuts size chunks unread).1 = .error failure) :
    failure = .eof := by
  induction cuts generalizing size chunks unread with
  | nil =>
      cases size with
      | zero => cases failed
      | succ size =>
          cases unread with
          | nil => exact (Except.error.inj failed).symm
          | cons byte rest =>
              rw [readLoop] at failed
              split at failed
              · cases failed
              · exact (Except.error.inj failed).symm
  | cons offered cuts induction =>
      cases size with
      | zero => cases failed
      | succ size =>
          cases unread with
          | nil => exact (Except.error.inj failed).symm
          | cons byte rest => exact induction _ _ _ failed

end Worker

/-! ## Either receiver -/

structure Reader (Stream : Type) where
  readExact : Nat → Block Stream Failure (List Byte)
  unread : Stream → List Byte
  /-- No read is late before the end of the stream. -/
  Prompt : Stream → Prop
  /-- The failure at the end of the stream. -/
  ended : Failure
  /-- The failure at a length that is too large. -/
  refusal : Failure
  reads : ∀ size stream, Reads ended size [] (unread stream) (readExact size stream).1
    (unread (readExact size stream).2)
  prompt : ∀ size stream, Prompt stream → Punctual Prompt (readExact size stream)

def Supervisor.reader : Reader Supervisor.Inbound where
  readExact := Supervisor.readExact
  unread := Supervisor.Inbound.unread
  Prompt := Supervisor.Inbound.Prompt
  ended := .exited
  refusal := .protocol
  reads size stream := Supervisor.read_loop_reads stream.turns size [] stream.unread
  prompt size stream := Supervisor.read_loop_prompt stream.turns size [] stream.unread

def Worker.reader : Reader Worker.Inbound where
  readExact := Worker.readExact
  unread := Worker.Inbound.unread
  Prompt _ := True
  ended := .eof
  refusal := .frameTooLarge
  reads size stream := Worker.read_loop_reads stream.cuts size [] stream.unread
  prompt size stream _ := by
    cases ran : Worker.readExact size stream with
    | mk outcome after =>
        cases outcome with
        | ok bytes => trivial
        | error failure =>
            have eof := Worker.read_loop_patient stream.cuts size [] stream.unread
              (congrArg Prod.fst ran)
            rw [eof]
            exact Failure.noConfusion

namespace Reader

variable {Stream : Type} (reader : Reader Stream)

def receive : Block Stream Failure (List Byte) :=
  receiveWith reader.readExact reader.refusal

theorem reads_ok {size : Nat} {stream after : Stream} {bytes : List Byte}
    (ran : reader.readExact size stream = (.ok bytes, after)) :
    size ≤ (reader.unread stream).length ∧ bytes = (reader.unread stream).take size ∧
      reader.unread after = (reader.unread stream).drop size := by
  have read := reader.reads size stream
  rw [ran] at read
  exact read

theorem reads_error {size : Nat} {stream after : Stream} {failure : Failure}
    (ran : reader.readExact size stream = (.error failure, after)) :
    (∃ taken, taken ≤ size ∧ reader.unread after = (reader.unread stream).drop taken) ∧
      (failure = .timeout ∨
        failure = reader.ended ∧ (reader.unread stream).length < size) := by
  have read := reader.reads size stream
  rw [ran] at read
  exact read

theorem prompt_ok {size : Nat} {stream after : Stream} {bytes : List Byte}
    (prompt : reader.Prompt stream) (ran : reader.readExact size stream = (.ok bytes, after)) :
    reader.Prompt after := by
  have kept := reader.prompt size stream prompt
  rw [ran] at kept
  exact kept

theorem prompt_error {size : Nat} {stream after : Stream} {failure : Failure}
    (prompt : reader.Prompt stream)
    (ran : reader.readExact size stream = (.error failure, after)) : failure ≠ .timeout := by
  have kept := reader.prompt size stream prompt
  rw [ran] at kept
  exact kept

/-- A payload comes with its whole frame. -/
theorem receive_ok {stream after : Stream} {payload : List Byte}
    (ran : reader.receive stream = (.ok payload, after)) :
    payload.length ≤ maxFrame ∧
      reader.unread stream = frame payload ++ reader.unread after := by
  obtain ⟨length, middle, first, second⟩ := Block.bind_inv ran
  obtain ⟨four, header, behind⟩ := reader.reads_ok first
  split at second
  · cases second
  · rename_i small
    obtain ⟨enough, body, rest⟩ := reader.reads_ok second
    have size : payload.length = unpack length := by
      rw [body, List.length_take, Nat.min_eq_left enough]
    refine ⟨size ▸ Nat.not_lt.mp small, ?_⟩
    have four_bytes : length.length = 4 := by
      rw [header, List.length_take, Nat.min_eq_left four]
    rw [frame, size, pack_unpack length four_bytes, body, rest, behind, List.append_assoc,
      List.take_append_drop, header, List.take_append_drop]

theorem receive_prompt {stream after : Stream} {payload : List Byte}
    (prompt : reader.Prompt stream) (ran : reader.receive stream = (.ok payload, after)) :
    reader.Prompt after := by
  obtain ⟨length, middle, first, second⟩ := Block.bind_inv ran
  split at second
  · cases second
  · exact reader.prompt_ok (reader.prompt_ok prompt first) second

/-- A frame of the right size at the start of a stream is announced and is there. -/
theorem frame_ahead {payload unread : List Byte} (small : payload.length ≤ maxFrame)
    (ahead : frame payload <+: unread) :
    unpack (unread.take 4) = payload.length ∧ 4 + payload.length ≤ unread.length := by
  obtain ⟨rest, rfl⟩ := ahead
  have header : (frame payload ++ rest).take 4 = pack payload.length := by
    rw [frame, List.append_assoc]
    exact List.take_left' rfl
  constructor
  · rw [header]
    exact unpack_pack _ (Nat.lt_of_le_of_lt small (by decide))
  · simp only [frame, List.length_append, pack_length]
    omega

/-- A call fails because it is late, because no frame is there, or because the frame that
is announced is too large. -/
theorem receive_error {stream after : Stream} {failure : Failure}
    (ran : reader.receive stream = (.error failure, after)) :
    failure = .timeout ∧ ¬ reader.Prompt stream ∨
      failure = reader.ended ∧ (∀ payload, payload.length ≤ maxFrame →
        ¬ frame payload <+: reader.unread stream) ∨
      failure = reader.refusal ∧ 4 ≤ (reader.unread stream).length ∧
        maxFrame < unpack ((reader.unread stream).take 4) := by
  have parts := ran
  rw [receive, receiveWith, Block.bind_apply] at parts
  split at parts
  · rename_i length middle first
    obtain ⟨four, header, behind⟩ := reader.reads_ok first
    split at parts
    · rename_i large
      obtain ⟨same, -⟩ := Prod.mk.inj parts
      rw [header] at large
      exact .inr (.inr ⟨(Except.error.inj same).symm, four, large⟩)
    · obtain ⟨-, late | ⟨same, short⟩⟩ := reader.reads_error parts
      · refine .inl ⟨late, fun prompt => ?_⟩
        exact reader.prompt_error (reader.prompt_ok prompt first) parts late
      · refine .inr (.inl ⟨same, fun payload small ahead => ?_⟩)
        obtain ⟨announced, there⟩ := frame_ahead small ahead
        rw [behind, List.length_drop, header, announced] at short
        omega
  · rename_i error middle first
    obtain ⟨same, -⟩ := Prod.mk.inj parts
    obtain rfl := Except.error.inj same
    obtain ⟨-, late | ⟨same, short⟩⟩ := reader.reads_error first
    · exact .inl ⟨late, fun prompt => reader.prompt_error prompt first late⟩
    · refine .inr (.inl ⟨same, fun payload small ahead => ?_⟩)
      have there := (frame_ahead small ahead).2
      omega

/-- A length that is too large is refused, and no byte after it is read. -/
theorem receive_large {stream : Stream} (four : 4 ≤ (reader.unread stream).length)
    (large : maxFrame < unpack ((reader.unread stream).take 4)) :
    ∃ failure after taken, reader.receive stream = (.error failure, after) ∧ taken ≤ 4 ∧
      reader.unread after = (reader.unread stream).drop taken ∧
      (failure = reader.refusal ∨ failure = .timeout ∧ ¬ reader.Prompt stream) := by
  cases first : reader.readExact 4 stream with
  | mk outcome middle =>
      cases outcome with
      | ok length =>
          obtain ⟨-, header, behind⟩ := reader.reads_ok first
          refine ⟨reader.refusal, middle, 4, ?_, Nat.le_refl 4, behind, .inl rfl⟩
          rw [receive, receiveWith, Block.bind_ok first, header, if_pos large]
          rfl
      | error failure =>
          obtain ⟨⟨taken, few, behind⟩, late | ⟨-, short⟩⟩ := reader.reads_error first
          · refine ⟨failure, middle, taken, Block.bind_error first, few, behind, .inr ⟨late, ?_⟩⟩
            exact fun prompt => reader.prompt_error prompt first late
          · omega

/-! ### Frames one after the other -/

variable {payloads : List (List Byte)}

theorem small_word {payload : List Byte} (small : payload.length ≤ maxFrame) :
    payload.length < 4294967296 :=
  Nat.lt_of_le_of_lt small (by decide)

/-- What calls that follow each other return comes with its frames. -/
structure Sound (count : Nat) (stream : Stream) (result : Received Stream) : Prop where
  small : ∀ payload ∈ result.payloads, payload.length ≤ maxFrame
  framed : frames result.payloads <+: reader.unread stream
  all : result.failure = none → result.payloads.length = count

theorem receives_sound (count : Nat) (stream : Stream) :
    reader.Sound count stream (receives reader.receive count stream) := by
  induction count generalizing stream with
  | zero => exact ⟨List.forall_mem_nil _, List.nil_prefix, fun _ => rfl⟩
  | succ count induction =>
      rw [receives]
      cases ran : reader.receive stream with
      | mk outcome after =>
          cases outcome with
          | error failure =>
              refine ⟨List.forall_mem_nil _, List.nil_prefix, fun fine => ?_⟩
              cases fine
          | ok payload =>
              obtain ⟨small, framed⟩ := reader.receive_ok ran
              have others := induction after
              refine ⟨List.forall_mem_cons.mpr ⟨small, others.small⟩, ?_,
                fun fine => congrArg Nat.succ (others.all fine)⟩
              rw [framed, frames_cons, List.prefix_append_right_inj]
              exact others.framed

/-- No wrong payload is returned. -/
theorem receives_intact (small : ∀ payload ∈ payloads, payload.length ≤ maxFrame)
    (count : Nat) {stream : Stream} (ahead : reader.unread stream <+: frames payloads) :
    (receives reader.receive count stream).payloads <+: payloads := by
  have sound := reader.receives_sound count stream
  exact frames_prefix (fun payload member => small_word (sound.small payload member))
    (fun payload member => small_word (small payload member)) (sound.framed.trans ahead)

/-- A length that is announced in good order is not refused. -/
theorem announced_small (small : ∀ payload ∈ payloads, payload.length ≤ maxFrame)
    {unread : List Byte} (four : 4 ≤ unread.length) (ahead : unread <+: frames payloads) :
    unpack (unread.take 4) ≤ maxFrame := by
  cases payloads with
  | nil =>
      rw [List.prefix_nil.mp ahead] at four
      cases four
  | cons payload rest =>
      have payload_small := small payload List.mem_cons_self
      have same : unread.take 4 = (frames (payload :: rest)).take 4 := by
        obtain ⟨tail, whole⟩ := ahead
        rw [← whole, List.take_append_of_le_length four]
      have announced := (frame_ahead payload_small (List.prefix_append _ (frames rest))).1
      rw [same, frames_cons, announced]
      exact payload_small

/-- A stream of frames that is cut off ends in the failure at the end of a stream, or the
call is late. -/
theorem receives_failure (small : ∀ payload ∈ payloads, payload.length ≤ maxFrame)
    {count : Nat} {stream : Stream} {failure : Failure}
    (ahead : reader.unread stream <+: frames payloads)
    (failed : (receives reader.receive count stream).failure = some failure) :
    failure = reader.ended ∨ failure = .timeout ∧ ¬ reader.Prompt stream := by
  induction count generalizing payloads stream with
  | zero => cases failed
  | succ count induction =>
      rw [receives] at failed
      cases ran : reader.receive stream with
      | mk outcome after =>
          rw [ran] at failed
          cases outcome with
          | error raised =>
              obtain rfl := Option.some.inj failed
              rcases reader.receive_error ran with late | ⟨ended, -⟩ | ⟨-, four, large⟩
              · exact .inr late
              · exact .inl ended
              · exact absurd (announced_small small four ahead) (Nat.not_le.mpr large)
          | ok payload =>
              obtain ⟨payload_small, framed⟩ := reader.receive_ok ran
              rw [framed] at ahead
              cases payloads with
              | nil =>
                  have nothing := (List.append_eq_nil_iff.mp (List.prefix_nil.mp ahead)).1
                  exact absurd nothing (frame_ne_nil payload)
              | cons other rest =>
                  obtain rfl := frame_unique (small_word payload_small)
                    (small_word (small other List.mem_cons_self))
                    ((List.prefix_append _ _).trans ahead) (List.prefix_append _ _)
                  rw [frames_cons, List.prefix_append_right_inj] at ahead
                  have later := induction
                    (fun _ member => small _ (List.mem_cons_of_mem _ member)) ahead failed
                  exact later.imp_right fun late =>
                    ⟨late.1, fun prompt => late.2 (reader.receive_prompt prompt ran)⟩

/-- A frame that is there is received. -/
theorem receive_frame {payload : List Byte} (small : payload.length ≤ maxFrame) {stream : Stream}
    (ahead : frame payload <+: reader.unread stream) (prompt : reader.Prompt stream) :
    ∃ after, reader.receive stream = (.ok payload, after) ∧
      reader.unread stream = frame payload ++ reader.unread after ∧ reader.Prompt after := by
  cases ran : reader.receive stream with
  | mk outcome after =>
      cases outcome with
      | error failure =>
          rcases reader.receive_error ran with ⟨-, late⟩ | ⟨-, absent⟩ | ⟨-, -, large⟩
          · exact absurd prompt late
          · exact absurd ahead (absent payload small)
          · rw [(frame_ahead small ahead).1] at large
            exact absurd small (Nat.not_le.mpr large)
      | ok other =>
          obtain ⟨other_small, framed⟩ := reader.receive_ok ran
          obtain rfl := frame_unique (small_word other_small) (small_word small)
            (framed ▸ List.prefix_append _ _) ahead
          exact ⟨after, rfl, framed, reader.receive_prompt prompt ran⟩

/-- A whole stream of frames is read to its end. -/
theorem receives_whole (small : ∀ payload ∈ payloads, payload.length ≤ maxFrame)
    {stream : Stream} (whole : reader.unread stream = frames payloads)
    (prompt : reader.Prompt stream) :
    ∃ after, receives reader.receive payloads.length stream = ⟨payloads, none, after⟩ ∧
      reader.unread after = [] := by
  induction payloads generalizing stream with
  | nil => exact ⟨stream, rfl, whole⟩
  | cons payload rest induction =>
      obtain ⟨after, ran, framed, still_prompt⟩ := reader.receive_frame
        (small payload List.mem_cons_self) (whole ▸ List.prefix_append _ _) prompt
      rw [whole, frames_cons] at framed
      obtain ⟨last, returned, done⟩ := induction
        (fun _ member => small _ (List.mem_cons_of_mem _ member))
        (List.append_cancel_left framed).symm still_prompt
      refine ⟨last, ?_, done⟩
      rw [List.length_cons, receives, ran]
      simp only [returned]

/-- A stream that is cut off does not give all payloads. -/
theorem receives_short (small : ∀ payload ∈ payloads, payload.length ≤ maxFrame)
    {stream : Stream} (ahead : reader.unread stream <+: frames payloads)
    (cut : reader.unread stream ≠ frames payloads) :
    ∃ failure, (receives reader.receive payloads.length stream).failure = some failure := by
  have sound := reader.receives_sound payloads.length stream
  cases outcome : (receives reader.receive payloads.length stream).failure with
  | some failure => exact ⟨failure, rfl⟩
  | none =>
      have same := (reader.receives_intact small payloads.length ahead).eq_of_length
        (sound.all outcome)
      have framed := sound.framed
      rw [same] at framed
      exact absurd (ahead.eq_of_length_le framed.length_le) cut

end Reader

/-! ## Either sender -/

structure Sender (Cuts : Type) where
  send : Cuts → List Byte → Block (List Byte) Failure Unit
  /-- The call is not late, and every write moves some bytes. -/
  Prompt : Cuts → List Byte → Prop
  sent : ∀ {cuts payload}, payload.length ≤ maxFrame → ∀ written,
    send cuts payload written = (.ok (), written ++ frame payload) ∨
      ¬ Prompt cuts payload ∧ ∃ failure part, part <+: frame payload ∧
        part ≠ frame payload ∧ send cuts payload written = (.error failure, written ++ part)

namespace Supervisor

def PromptSend (turns : List Turn) (payload : List Byte) : Prop :=
  .late ∉ turns ∧ .moves 0 ∉ turns ∧ (frame payload).length ≤ turns.countP Turn.isMove

theorem send_loop_sends (turns : List Turn) (pending written : List Byte) :
    sendLoop turns pending written = (.ok (), written ++ pending) ∨
      ¬ (.late ∉ turns ∧ .moves 0 ∉ turns ∧ pending.length ≤ turns.countP Turn.isMove) ∧
        ∃ failure part, part <+: pending ∧ part ≠ pending ∧
          sendLoop turns pending written = (.error failure, written ++ part) := by
  induction turns generalizing pending written with
  | nil =>
      cases pending with
      | nil => exact .inl (by rw [sendLoop, List.append_nil])
      | cons byte rest =>
          refine .inr ⟨fun prompt => Nat.not_succ_le_zero _ prompt.2.2, .timeout, [],
            List.nil_prefix, (List.cons_ne_nil _ _).symm, ?_⟩
          rw [sendLoop, List.append_nil]
  | cons turn turns induction =>
      cases pending with
      | nil => exact .inl (by rw [sendLoop, List.append_nil])
      | cons byte rest =>
          cases turn with
          | late =>
              refine .inr ⟨fun prompt => prompt.1 List.mem_cons_self, .timeout, [],
                List.nil_prefix, (List.cons_ne_nil _ _).symm, ?_⟩
              rw [sendLoop, List.append_nil]
          | blocked =>
              rcases induction (byte :: rest) written with done | ⟨hasty, failed⟩
              · exact .inl done
              · refine .inr ⟨fun prompt => hasty ?_, failed⟩
                exact ⟨fun late => prompt.1 (List.mem_cons_of_mem _ late),
                  fun stuck => prompt.2.1 (List.mem_cons_of_mem _ stuck), prompt.2.2⟩
          | moves offered =>
              rw [sendLoop]
              by_cases stuck : min offered (rest.length + 1) = 0
              · have zero : offered = 0 := by omega
                refine .inr ⟨fun prompt => prompt.2.1 (zero ▸ List.mem_cons_self), .exited, [],
                  List.nil_prefix, (List.cons_ne_nil _ _).symm, ?_⟩
                rw [if_pos stuck, List.append_nil]
              · simp only [if_neg stuck]
                generalize count : min offered (rest.length + 1) = sent at stuck
                have split : (byte :: rest).take sent ++ (byte :: rest).drop sent = byte :: rest :=
                  List.take_append_drop sent (byte :: rest)
                rcases induction ((byte :: rest).drop sent) (written ++ (byte :: rest).take sent)
                  with done | ⟨hasty, failure, part, inside, cut, failed⟩
                · refine .inl ?_
                  rw [done, List.append_assoc, split]
                · refine .inr ⟨fun prompt => hasty ?_, failure, (byte :: rest).take sent ++ part,
                    ?_, ?_, ?_⟩
                  · have enough := prompt.2.2
                    rw [List.countP_cons_of_pos rfl, List.length_cons] at enough
                    refine ⟨fun late => prompt.1 (List.mem_cons_of_mem _ late),
                      fun still => prompt.2.1 (List.mem_cons_of_mem _ still), ?_⟩
                    rw [List.length_drop, List.length_cons]
                    omega
                  · have ahead :=
                      (List.prefix_append_right_inj ((byte :: rest).take sent)).mpr inside
                    rwa [split] at ahead
                  · exact fun same => cut (List.append_cancel_left (same.trans split.symm))
                  · rw [failed, List.append_assoc]

def sender : Sender (List Turn) where
  send := send
  Prompt := PromptSend
  sent {turns payload} small written := by
    rw [send, if_neg (Nat.not_lt.mpr small)]
    exact send_loop_sends turns (frame payload) written

end Supervisor

namespace Worker

theorem send_all_sends (cuts : List Nat) (pending written : List Byte) :
    sendAll cuts pending written = written ++ pending := by
  induction cuts generalizing pending written with
  | nil => rfl
  | cons offered cuts induction =>
      rw [sendAll, induction, List.append_assoc, List.take_append_drop]

def sender : Sender (List Nat) where
  send := send
  Prompt _ _ := True
  sent {cuts payload} small written := by
    rw [send, if_neg (Nat.not_lt.mpr small), send_all_sends]
    exact .inl rfl

end Worker

/-! ## From one side to the other -/

/-- The calls of `send` write the frames of their payloads, or a part of them. -/
theorem sends_frames {Cuts : Type} (sender : Sender Cuts) {calls : List (Cuts × List Byte)}
    (small : ∀ call ∈ calls, call.2.length ≤ maxFrame) (written : List Byte) :
    sends sender.send calls written = (.ok (), written ++ frames (calls.map Prod.snd)) ∨
      ¬ (∀ call ∈ calls, sender.Prompt call.1 call.2) ∧
        ∃ failure part, part <+: frames (calls.map Prod.snd) ∧
          part ≠ frames (calls.map Prod.snd) ∧
          sends sender.send calls written = (.error failure, written ++ part) := by
  induction calls generalizing written with
  | nil => exact .inl (by rw [List.map_nil, frames_nil, List.append_nil]; rfl)
  | cons call rest induction =>
      obtain ⟨cuts, payload⟩ := call
      rw [sends, List.map_cons, frames_cons]
      have payload_small : payload.length ≤ maxFrame := small _ List.mem_cons_self
      rcases @Sender.sent _ sender cuts payload payload_small written
        with done | ⟨hasty, failure, part, inside, cut, failed⟩
      · rw [Block.bind_ok done]
        rcases induction (fun _ member => small _ (List.mem_cons_of_mem _ member))
          (written ++ frame payload) with all | ⟨hasty, failure, part, inside, cut, failed⟩
        · refine .inl ?_
          rw [all, List.append_assoc]
        · refine .inr ⟨fun prompt => hasty fun _ member => prompt _ (List.mem_cons_of_mem _ member),
            failure, frame payload ++ part, ?_, ?_, ?_⟩
          · rwa [List.prefix_append_right_inj]
          · exact fun same => cut (List.append_cancel_left same)
          · rw [failed, List.append_assoc]
      · refine .inr ⟨fun prompt => hasty (prompt _ List.mem_cons_self), failure, part,
          inside.trans (List.prefix_append _ _), ?_, Block.bind_error failed⟩
        intro same
        rw [same] at inside
        have longer : (frame payload).length + (frames (rest.map Prod.snd)).length ≤
            (frame payload).length := List.length_append ▸ inside.length_le
        have nothing : frames (rest.map Prod.snd) = [] :=
          List.length_eq_zero_iff.mp (by omega)
        rw [nothing, List.append_nil] at same
        exact cut same

/-- The payloads go from one side to the other, however writes and reads are cut: `calls`
are the payloads, each with the cuts of its `send`. -/
structure RoundTrip {Cuts Stream : Type} (sender : Sender Cuts) (reader : Reader Stream)
    (payloads : List (List Byte)) : Prop where
  /-- Calls that are not late write everything. -/
  sent : ∀ calls, calls.map Prod.snd = payloads →
    (∀ call ∈ calls, sender.Prompt call.1 call.2) → (sends sender.send calls []).1 = .ok ()
  /-- What has been written as a whole is received as a whole. -/
  received : ∀ calls, calls.map Prod.snd = payloads → (sends sender.send calls []).1 = .ok () →
    ∀ stream, reader.unread stream = (sends sender.send calls []).2 → reader.Prompt stream →
      ∃ after, receives reader.receive payloads.length stream = ⟨payloads, none, after⟩ ∧
        reader.unread after = []
  /-- A stream that ends before the last byte gives the first payloads and then fails. -/
  cut : ∀ calls, calls.map Prod.snd = payloads →
    ∀ stream, reader.unread stream <+: (sends sender.send calls []).2 →
      reader.unread stream ≠ frames payloads →
      (receives reader.receive payloads.length stream).payloads <+: payloads ∧
        ∃ failure, (receives reader.receive payloads.length stream).failure = some failure ∧
          (failure = reader.ended ∨ failure = .timeout ∧ ¬ reader.Prompt stream)
  /-- A length that is too large is refused, and no byte after it is read. -/
  refused : ∀ stream, 4 ≤ (reader.unread stream).length →
    maxFrame < unpack ((reader.unread stream).take 4) →
    ∃ failure after taken, reader.receive stream = (.error failure, after) ∧ taken ≤ 4 ∧
      reader.unread after = (reader.unread stream).drop taken ∧
      (failure = reader.refusal ∨ failure = .timeout ∧ ¬ reader.Prompt stream)

theorem round_trip {Cuts Stream : Type} (sender : Sender Cuts) (reader : Reader Stream)
    {payloads : List (List Byte)} (small : ∀ payload ∈ payloads, payload.length ≤ maxFrame) :
    RoundTrip sender reader payloads := by
  have written (calls : List (Cuts × List Byte)) (same : calls.map Prod.snd = payloads) :
      sends sender.send calls [] = (.ok (), frames payloads) ∨
        ¬ (∀ call ∈ calls, sender.Prompt call.1 call.2) ∧
          ∃ failure part, part <+: frames payloads ∧ part ≠ frames payloads ∧
            sends sender.send calls [] = (.error failure, part) := by
    have each : ∀ call ∈ calls, call.2.length ≤ maxFrame :=
      fun call member => small _ (same ▸ List.mem_map_of_mem member)
    have spec := sends_frames sender each []
    rwa [same] at spec
  refine ⟨?_, ?_, ?_, fun stream => reader.receive_large⟩
  · intro calls same prompt
    rcases written calls same with done | ⟨hasty, -⟩
    · exact congrArg Prod.fst done
    · exact absurd prompt hasty
  · intro calls same done stream unread prompt
    rcases written calls same with whole | ⟨-, failure, part, -, -, failed⟩
    · rw [whole] at unread
      exact reader.receives_whole small unread prompt
    · rw [failed] at done
      cases done
  · intro calls same stream ahead short
    have inside : reader.unread stream <+: frames payloads := by
      rcases written calls same with whole | ⟨-, failure, part, inside, -, failed⟩
      · rwa [whole] at ahead
      · rw [failed] at ahead
        exact ahead.trans inside
    obtain ⟨failure, failed⟩ := reader.receives_short small inside short
    exact ⟨reader.receives_intact small payloads.length inside, failure, failed,
      reader.receives_failure small inside failed⟩

theorem framing_round_trip (payloads : List (List Byte))
    (small : ∀ payload ∈ payloads, payload.length ≤ maxFrame) :
    RoundTrip Supervisor.sender Worker.reader payloads ∧
      RoundTrip Worker.sender Supervisor.reader payloads :=
  ⟨round_trip Supervisor.sender Worker.reader small,
    round_trip Worker.sender Supervisor.reader small⟩

example : (receives Worker.receive 2 ⟨[1, 2], frames [[], [7, 8, 9]]⟩).payloads =
    [[], [7, 8, 9]] := by
  decide

/-- An empty payload and one of three bytes. -/
theorem two_payloads_travel :
    (∀ payload ∈ [[], [7, 8, 9]], payload.length ≤ maxFrame) ∧
      RoundTrip Supervisor.sender Worker.reader [[], [7, 8, 9]] ∧
      RoundTrip Worker.sender Supervisor.reader [[], [7, 8, 9]] :=
  ⟨by decide, framing_round_trip [[], [7, 8, 9]] (by decide)⟩

end HermesCashew.EmbeddingFrames
