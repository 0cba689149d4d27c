import Mathlib.Logic.Relation

/-!
# Contracting a directed graph

Some vertices of a directed graph are put in the place of others. An edge goes where its
ends go, unless they go to one vertex; a loop stays with a vertex that stays.
-/

namespace HermesCashew.Contraction

open Relation

set_option autoImplicit false

variable {Vertex : Type}

def contract (representative : Vertex → Vertex) (edge : Vertex → Vertex → Prop)
    (first second : Vertex) : Prop :=
  (first ≠ second ∧ ∃ parent child, edge parent child ∧
    representative parent = first ∧ representative child = second) ∨
  (first = second ∧ representative first = first ∧ edge first first)

variable {representative : Vertex → Vertex} {edge : Vertex → Vertex → Prop}

/-- A contraction makes no loops. -/
theorem contract_loop {vertex : Vertex} :
    contract representative edge vertex vertex ↔
      representative vertex = vertex ∧ edge vertex vertex := by
  constructor
  · rintro (⟨apart, -⟩ | ⟨-, stays, loop⟩)
    · exact absurd rfl apart
    · exact ⟨stays, loop⟩
  · rintro ⟨stays, loop⟩
    exact .inr ⟨rfl, stays, loop⟩

theorem contract_of_ne {first second : Vertex} (apart : first ≠ second) :
    contract representative edge first second ↔ ∃ parent child, edge parent child ∧
      representative parent = first ∧ representative child = second := by
  constructor
  · rintro (⟨-, moved⟩ | ⟨same, -⟩)
    · exact moved
    · exact absurd same apart
  · intro moved
    exact .inl ⟨apart, moved⟩

theorem contract_id : contract id edge = edge := by
  funext first second
  apply propext
  by_cases same : first = second
  · subst same
    rw [contract_loop]
    exact ⟨And.right, fun loop => ⟨rfl, loop⟩⟩
  · rw [contract_of_ne same]
    constructor
    · rintro ⟨parent, child, present, rfl, rfl⟩
      exact present
    · intro present
      exact ⟨first, second, present, rfl, rfl⟩

/-- One contraction after another is a single contraction, unless the later one brings a
vertex back. -/
theorem contract_contract {outer inner : Vertex → Vertex}
    (settled : ∀ vertex, outer (inner vertex) = vertex → inner vertex = vertex) :
    contract outer (contract inner edge) = contract (outer ∘ inner) edge := by
  funext first second
  apply propext
  by_cases same : first = second
  · subst same
    rw [contract_loop, contract_loop, contract_loop]
    constructor
    · rintro ⟨outer_stays, inner_stays, loop⟩
      exact ⟨by rw [Function.comp_apply, inner_stays, outer_stays], loop⟩
    · rintro ⟨stays, loop⟩
      have inner_stays := settled first stays
      rw [Function.comp_apply, inner_stays] at stays
      exact ⟨stays, inner_stays, loop⟩
  · rw [contract_of_ne same, contract_of_ne same]
    constructor
    · rintro ⟨middle, last, moved, rfl, rfl⟩
      have apart : middle ≠ last := fun joined => same (congrArg outer joined)
      obtain ⟨parent, child, present, rfl, rfl⟩ := (contract_of_ne apart).mp moved
      exact ⟨parent, child, present, rfl, rfl⟩
    · rintro ⟨parent, child, present, rfl, rfl⟩
      have apart : inner parent ≠ inner child := fun joined => same (congrArg outer joined)
      exact ⟨inner parent, inner child,
        (contract_of_ne apart).mpr ⟨parent, child, present, rfl, rfl⟩, rfl, rfl⟩

/-- What is derived from a vertex stays derived from its representative. -/
theorem contract_path {ancestor descendant : Vertex}
    (path : ReflTransGen edge ancestor descendant) :
    ReflTransGen (contract representative edge) (representative ancestor)
      (representative descendant) := by
  induction path with
  | refl => exact .refl
  | tail _ last before =>
      rename_i middle final _
      by_cases same : representative middle = representative final
      · rw [← same]
        exact before
      · exact before.tail ((contract_of_ne same).mpr ⟨middle, final, last, rfl, rfl⟩)

end HermesCashew.Contraction
