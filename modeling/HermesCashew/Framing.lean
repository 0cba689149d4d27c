import Mathlib.Data.List.Basic
import Mathlib.Tactic.Common

/-!
# Length-prefixed frames

A frame is the length of its payload in four bytes, most significant first, and the
payload. A stream of bytes splits into frames in at most one way, so two readers that
have read whole frames from one stream differ by whole frames.
-/

namespace HermesCashew.Framing

set_option autoImplicit false

abbrev Byte := UInt8

/-- `struct.Struct("!I").pack`. -/
def pack (size : Nat) : List Byte :=
  [UInt8.ofNat (size / 16777216), UInt8.ofNat (size / 65536), UInt8.ofNat (size / 256),
    UInt8.ofNat size]

/-- `struct.Struct("!I").unpack`. -/
def unpack : List Byte → Nat
  | [first, second, third, fourth] =>
      first.toNat * 16777216 + second.toNat * 65536 + third.toNat * 256 + fourth.toNat
  | _ => 0

def frame (payload : List Byte) : List Byte := pack payload.length ++ payload

@[simp] theorem pack_length (size : Nat) : (pack size).length = 4 := rfl

theorem unpack_pack (size : Nat) (small : size < 4294967296) : unpack (pack size) = size := by
  simp only [pack, unpack, UInt8.toNat_ofNat']
  omega

theorem pack_unpack (bytes : List Byte) (four : bytes.length = 4) :
    pack (unpack bytes) = bytes := by
  match bytes, four with
  | [first, second, third, fourth], _ =>
      have one := first.toNat_lt
      have two := second.toNat_lt
      have three := third.toNat_lt
      have last := fourth.toNat_lt
      simp only [pack, unpack, List.cons.injEq, and_true, ← UInt8.toNat_inj,
        UInt8.toNat_ofNat']
      omega

/-- Two frames at the start of one stream are equal. -/
theorem frame_unique {first second stream : List Byte} (small_first : first.length < 4294967296)
    (small_second : second.length < 4294967296) (one : frame first <+: stream)
    (two : frame second <+: stream) : first = second := by
  have packed : pack first.length = pack second.length := by
    have left : pack first.length = stream.take 4 :=
      List.prefix_iff_eq_take.mp ((List.prefix_append _ _).trans one)
    have right : pack second.length = stream.take 4 :=
      List.prefix_iff_eq_take.mp ((List.prefix_append _ _).trans two)
    rw [left, right]
  have lengths : first.length = second.length := by
    rw [← unpack_pack first.length small_first, packed, unpack_pack second.length small_second]
  have sizes : (frame first).length = (frame second).length := by simp [frame, lengths]
  have frames : frame first = frame second := by
    rw [List.prefix_iff_eq_take.mp one, List.prefix_iff_eq_take.mp two, sizes]
  rw [frame, frame, lengths] at frames
  exact List.append_cancel_left frames

def frames (payloads : List (List Byte)) : List Byte := payloads.flatMap frame

@[simp] theorem frames_nil : frames [] = [] := rfl

@[simp] theorem frames_cons (payload : List Byte) (rest : List (List Byte)) :
    frames (payload :: rest) = frame payload ++ frames rest := rfl

theorem frame_ne_nil (payload : List Byte) : frame payload ≠ [] := List.cons_ne_nil _ _

/-- The payloads can be told from their frames. -/
theorem frames_prefix {first second : List (List Byte)}
    (small_first : ∀ payload ∈ first, payload.length < 4294967296)
    (small_second : ∀ payload ∈ second, payload.length < 4294967296)
    (ahead : frames first <+: frames second) : first <+: second := by
  induction first generalizing second with
  | nil => exact List.nil_prefix
  | cons payload first induction =>
      cases second with
      | nil =>
          have none := List.prefix_nil.mp ahead
          exact absurd (List.append_eq_nil_iff.mp none).1 (frame_ne_nil payload)
      | cons other second =>
          obtain rfl := frame_unique (small_first _ List.mem_cons_self)
            (small_second _ List.mem_cons_self) ((List.prefix_append _ _).trans ahead)
            (List.prefix_append _ _)
          rw [frames_cons, frames_cons, List.prefix_append_right_inj] at ahead
          rw [List.prefix_cons_inj]
          exact induction (fun _ member => small_first _ (List.mem_cons_of_mem _ member))
            (fun _ member => small_second _ (List.mem_cons_of_mem _ member)) ahead

/-- The bytes are `count` whole frames. -/
inductive Frames : Nat → List Byte → Prop where
  | none : Frames 0 []
  | next {count : Nat} {payload rest : List Byte} (small : payload.length < 4294967296)
      (others : Frames count rest) : Frames (count + 1) (frame payload ++ rest)

theorem Frames.append {count more : Nat} {bytes rest : List Byte} (frames : Frames count bytes)
    (others : Frames more rest) : Frames (count + more) (bytes ++ rest) := by
  induction frames with
  | none => simpa using others
  | @next count payload behind small _ ih =>
      rw [List.append_assoc, Nat.add_right_comm]
      exact .next small ih

theorem Frames.single {payload : List Byte} (small : payload.length < 4294967296) :
    Frames 1 (frame payload) := by
  simpa using Frames.next small .none

/-- Of two readers of whole frames the one behind has read a part of what the other has. -/
theorem Frames.behind {count more : Nat} {behind ahead stream : List Byte}
    (frames : Frames count behind) (others : Frames more ahead) (fewer : count ≤ more)
    (one : behind <+: stream) (two : ahead <+: stream) : behind <+: ahead := by
  induction frames generalizing more ahead stream with
  | none => exact List.nil_prefix
  | @next count payload rest small _ ih =>
      cases others with
      | none => omega
      | @next more other behind_other small_other others =>
          obtain rfl := frame_unique small small_other
            ((List.prefix_append _ _).trans one) ((List.prefix_append _ _).trans two)
          obtain ⟨tail, rfl⟩ := (List.prefix_append _ _).trans one
          rw [List.prefix_append_right_inj] at one two ⊢
          exact ih others (by omega) one two

end HermesCashew.Framing
