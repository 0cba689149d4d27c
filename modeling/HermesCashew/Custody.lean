import Mathlib.Data.List.Nodup
import Mathlib.Logic.Function.Basic

/-!
# Items in custody

Items are issued under successive numbers into places and then moved from place to
place. `Accounted` says that every item issued so far is in exactly one place, once.
-/

namespace HermesCashew.Custody

set_option autoImplicit false

variable {Place : Type*} {stock : Place → List Nat} {bound : Nat}

structure Accounted (stock : Place → List Nat) (bound : Nat) : Prop where
  nodup : ∀ place, (stock place).Nodup
  single : ∀ first second item, item ∈ stock first → item ∈ stock second → first = second
  issued : ∀ place item, item ∈ stock place → item < bound
  placed : ∀ item, item < bound → ∃ place, item ∈ stock place

theorem Accounted.empty : Accounted (fun _ : Place => []) 0 where
  nodup := fun _ => List.nodup_nil
  single := by simp
  issued := by simp
  placed := by simp

/-- When all other places are empty, every item is in this one. -/
theorem Accounted.count_one (accounted : Accounted stock bound) {place : Place}
    (others : ∀ other, other ≠ place → stock other = []) {item : Nat} (below : item < bound) :
    (stock place).count item = 1 := by
  obtain ⟨home, found⟩ := accounted.placed item below
  have here : home = place := by
    by_contra away
    rw [others home away] at found
    cases found
  subst here
  exact List.count_eq_one_of_mem (accounted.nodup home) found

section

variable [DecidableEq Place]

theorem mem_update {place other : Place} {items : List Nat} {item : Nat} :
    item ∈ Function.update stock place items other ↔
      other = place ∧ item ∈ items ∨ other ≠ place ∧ item ∈ stock other := by
  by_cases same : other = place
  · subst same
    simp
  · simp [same]

/-- A new item is put into any place. -/
theorem Accounted.issue (accounted : Accounted stock bound) (place : Place) :
    Accounted (Function.update stock place (stock place ++ [bound])) (bound + 1) := by
  have new (other : Place) : bound ∉ stock other := fun found =>
    Nat.lt_irrefl bound (accounted.issued other bound found)
  have origin {other : Place} {item : Nat}
      (found : item ∈ Function.update stock place (stock place ++ [bound]) other) :
      item ∈ stock other ∨ item = bound ∧ other = place := by
    rcases mem_update.mp found with ⟨rfl, found⟩ | ⟨-, found⟩
    · rcases List.mem_append.mp found with found | found
      · exact .inl found
      · exact .inr ⟨List.mem_singleton.mp found, rfl⟩
    · exact .inl found
  constructor
  · intro other
    by_cases same : other = place
    · subst same
      rw [Function.update_self]
      apply List.Nodup.append (accounted.nodup other) (List.nodup_singleton bound)
      simpa using new other
    · rw [Function.update_of_ne same]
      exact accounted.nodup other
  · intro first second item one two
    rcases origin one with old_one | ⟨rfl, rfl⟩
    · rcases origin two with old_two | ⟨rfl, rfl⟩
      · exact accounted.single first second item old_one old_two
      · exact absurd old_one (new first)
    · rcases origin two with old_two | ⟨-, rfl⟩
      · exact absurd old_two (new second)
      · rfl
  · intro other item found
    rcases origin found with found | ⟨rfl, -⟩
    · exact Nat.lt_succ_of_lt (accounted.issued other item found)
    · exact Nat.lt_succ_self item
  · intro item below
    rcases Nat.lt_succ_iff_lt_or_eq.mp below with earlier | rfl
    · obtain ⟨other, found⟩ := accounted.placed item earlier
      refine ⟨other, mem_update.mpr ?_⟩
      by_cases same : other = place
      · subst same
        exact .inl ⟨rfl, List.mem_append_left _ found⟩
      · exact .inr ⟨same, found⟩
    · exact ⟨place, mem_update.mpr (.inl ⟨rfl, by simp⟩)⟩

/-- The first items of one place are moved to the end of another. -/
theorem Accounted.transfer (accounted : Accounted stock bound) (source target : Place)
    (different : source ≠ target) {taken rest : List Nat}
    (split : stock source = taken ++ rest) :
    Accounted
      (Function.update (Function.update stock source rest) target (stock target ++ taken))
      bound := by
  have whole {item : Nat} : item ∈ stock source ↔ item ∈ taken ∨ item ∈ rest := by
    rw [split, List.mem_append]
  have apart : taken.Disjoint rest := by
    have nodup := accounted.nodup source
    rw [split] at nodup
    exact List.disjoint_of_nodup_append nodup
  have after {other : Place} {item : Nat} :
      item ∈ Function.update (Function.update stock source rest) target (stock target ++ taken)
        other ↔
      other = target ∧ (item ∈ stock target ∨ item ∈ taken) ∨
        other = source ∧ item ∈ rest ∨
        (other ≠ target ∧ other ≠ source) ∧ item ∈ stock other := by
    rw [mem_update, mem_update, List.mem_append]
    constructor
    · rintro (found | ⟨away, ⟨rfl, found⟩ | ⟨left, found⟩⟩)
      · exact .inl found
      · exact .inr (.inl ⟨rfl, found⟩)
      · exact .inr (.inr ⟨⟨away, left⟩, found⟩)
    · rintro (found | ⟨rfl, found⟩ | ⟨⟨away, left⟩, found⟩)
      · exact .inl found
      · exact .inr ⟨different, .inl ⟨rfl, found⟩⟩
      · exact .inr ⟨away, .inr ⟨left, found⟩⟩
  -- Where an item was before the move.
  have origin {other : Place} {item : Nat}
      (found : item ∈ Function.update (Function.update stock source rest) target
        (stock target ++ taken) other) :
      item ∈ stock other ∧ (other = source → item ∈ rest) ∨
        other = target ∧ item ∈ stock source ∧ item ∈ taken := by
    rcases after.mp found with ⟨rfl, there | moved⟩ | ⟨rfl, stays⟩ | ⟨⟨-, left⟩, there⟩
    · exact .inl ⟨there, fun same => absurd same.symm different⟩
    · exact .inr ⟨rfl, whole.mpr (.inl moved), moved⟩
    · exact .inl ⟨whole.mpr (.inr stays), fun _ => stays⟩
    · exact .inl ⟨there, fun same => absurd same left⟩
  constructor
  · intro other
    have nodup := accounted.nodup source
    rw [split] at nodup
    by_cases same : other = target
    · subst same
      rw [Function.update_self]
      apply List.Nodup.append (accounted.nodup other) nodup.of_append_left
      intro item there moved
      exact different (accounted.single source other item (whole.mpr (.inl moved)) there)
    · rw [Function.update_of_ne same]
      by_cases left : other = source
      · subst left
        rw [Function.update_self]
        exact nodup.of_append_right
      · rw [Function.update_of_ne left]
        exact accounted.nodup other
  · intro first second item one two
    rcases origin one with ⟨old_one, stays⟩ | ⟨rfl, old_one, moved⟩
    · rcases origin two with ⟨old_two, -⟩ | ⟨rfl, old_two, moved⟩
      · exact accounted.single first second item old_one old_two
      · have left := accounted.single first source item old_one old_two
        exact absurd (stays left) (apart moved)
    · rcases origin two with ⟨old_two, stays⟩ | ⟨rfl, -, -⟩
      · have left := accounted.single second source item old_two old_one
        exact absurd (stays left) (apart moved)
      · rfl
  · intro other item found
    rcases origin found with ⟨found, -⟩ | ⟨-, found, -⟩
    · exact accounted.issued other item found
    · exact accounted.issued source item found
  · intro item below
    obtain ⟨other, found⟩ := accounted.placed item below
    by_cases left : other = source
    · subst left
      rcases whole.mp found with moved | stays
      · exact ⟨target, after.mpr (.inl ⟨rfl, .inr moved⟩)⟩
      · exact ⟨other, after.mpr (.inr (.inl ⟨rfl, stays⟩))⟩
    · by_cases same : other = target
      · subst same
        exact ⟨other, after.mpr (.inl ⟨rfl, .inl found⟩)⟩
      · exact ⟨other, after.mpr (.inr (.inr ⟨⟨same, left⟩, found⟩))⟩

end

end HermesCashew.Custody
