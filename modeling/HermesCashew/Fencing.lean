import Mathlib.Data.List.Basic

/-!
# Fencing epochs

A register is overwritten again and again, and its history is the list of the
values written, newest first. The epoch counts the writes that changed the value.
An owner that remembers the epoch of its own write can tell from the current epoch
alone whether anything else was written since, also when the old value came back.
-/

namespace HermesCashew.Fencing

set_option autoImplicit false

variable {α : Type*}

theorem head_of_all {later earlier : List α} {own : α} (all : ∀ value ∈ later, value = own) :
    (later ++ own :: earlier).head? = some own := by
  cases later with
  | nil => rfl
  | cons first later => simp [all first (by simp)]

variable [DecidableEq α]

def epoch : List α → Nat
  | [] => 0
  | value :: earlier => if earlier.head? = some value then epoch earlier else epoch earlier + 1

theorem epoch_repeat {value : α} {earlier : List α} (same : earlier.head? = some value) :
    epoch (value :: earlier) = epoch earlier := by
  rw [epoch, if_pos same]

theorem epoch_change {value : α} {earlier : List α} (different : earlier.head? ≠ some value) :
    epoch (value :: earlier) = epoch earlier + 1 := by
  rw [epoch, if_neg different]

theorem epoch_le_cons (value : α) (earlier : List α) :
    epoch earlier ≤ epoch (value :: earlier) := by
  by_cases same : earlier.head? = some value
  · exact Nat.le_of_eq (epoch_repeat same).symm
  · rw [epoch_change same]
    exact Nat.le_succ _

theorem epoch_le_append (later earlier : List α) :
    epoch earlier ≤ epoch (later ++ earlier) := by
  induction later with
  | nil => exact Nat.le_refl _
  | cons value later ih => exact Nat.le_trans ih (epoch_le_cons value (later ++ earlier))

/-- The epoch stands still exactly while nothing but the own value is written. -/
theorem epoch_append_eq_iff (later earlier : List α) (own : α) :
    epoch (later ++ own :: earlier) = epoch (own :: earlier) ↔
      ∀ value ∈ later, value = own := by
  induction later with
  | nil => simp
  | cons value later ih =>
      have grown := epoch_le_append later (own :: earlier)
      constructor
      · intro still
        rw [List.cons_append] at still
        have between := epoch_le_cons value (later ++ own :: earlier)
        have rest := ih.mp (Nat.le_antisymm (still ▸ between) grown)
        have same : value = own := by
          by_contra different
          rw [epoch_change (by simpa [head_of_all rest] using Ne.symm different)] at still
          exact absurd grown (still ▸ Nat.not_succ_le_self _)
        simpa [same] using rest
      · intro all
        have older : ∀ other ∈ later, other = own := fun other member => all other (by simp [member])
        have newest : (later ++ own :: earlier).head? = some value := by
          rw [all value (by simp), head_of_all older]
        rw [List.cons_append, epoch_repeat newest, ih.mpr older]

/-- A write of another value fences the own epoch for good. -/
theorem epoch_lt_of_superseded {later earlier : List α} {own other : α}
    (written : other ∈ later) (different : other ≠ own) :
    epoch (own :: earlier) < epoch (later ++ own :: earlier) := by
  refine Nat.lt_of_le_of_ne (epoch_le_append later _) fun same => ?_
  exact different ((epoch_append_eq_iff later earlier own).mp same.symm other written)

/-- An owner whose epoch is the current one wrote the current value. -/
theorem head_of_epoch_eq {later earlier : List α} {own : α}
    (current : epoch (later ++ own :: earlier) = epoch (own :: earlier)) :
    (later ++ own :: earlier).head? = some own :=
  head_of_all ((epoch_append_eq_iff later earlier own).mp current)

end HermesCashew.Fencing
