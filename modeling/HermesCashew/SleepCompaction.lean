import HermesCashew.SleepCycle
import HermesCashew.VectorIndex
import Mathlib

/-!
# What a sleep cycle leaves in the vector index

A compaction takes every stale row out of the index. The acts that follow forget nodes and
leave their vectors, no more of them than they audit, until the next compaction.
-/

namespace HermesCashew.SleepCompaction

open HermesCashew.JsonText (Str str)
open HermesCashew.KeyedTable HermesCashew.ThoughtGraph
open HermesCashew.SleepCycle HermesCashew.SleepDedup HermesCashew.SleepForgetting
open HermesCashew.VectorIndex

set_option autoImplicit false

variable {Id Weight Score Distance Blob : Type}

/-! ## A compaction -/

/-- A node has decayed or it is live. -/
def Flagged (graph : Graph Id Weight Blob) : Prop :=
  ∀ node ∈ graph.nodes.rows, node.live = true ∨ node.decayed = some 1

section

variable [DecidableEq Id] {graph : Graph Id Weight Blob}

theorem mem_compacted (flagged : Flagged graph) {row : VecRow Id Blob} :
    row ∈ (compactVecIndex true graph).vecEmbeddings.rows ↔
      row ∈ graph.vecEmbeddings.rows ∧ isLive graph row.nodeId = true := by
  rw [compactVecIndex, if_pos rfl, Table.mem_delete, is_live_iff]
  apply and_congr_right
  intro _
  cases found : graph.nodes.find row.nodeId with
  | none => simp
  | some node =>
      simp only [Option.all_some, decide_eq_false_iff_not, Option.some.injEq, exists_eq_left']
      constructor
      · intro kept
        exact (flagged node (Table.find_eq_some.mp found).1).resolve_right kept
      · intro live decayed
        rw [Node.live, decayed] at live
        cases live

theorem compacted_find (flagged : Flagged graph) {nodeId : Id} (live : isLive graph nodeId = true) :
    (compactVecIndex true graph).vecEmbeddings.find nodeId = graph.vecEmbeddings.find nodeId := by
  apply Option.ext
  intro row
  rw [Table.find_eq_some, Table.find_eq_some, mem_compacted flagged]
  constructor
  · rintro ⟨⟨stored, -⟩, named⟩
    exact ⟨stored, named⟩
  · rintro ⟨stored, rfl⟩
    exact ⟨⟨stored, live⟩, rfl⟩

theorem compacted_mirrors (flagged : Flagged graph) (mirrors : Mirrors graph) :
    Mirrors (compactVecIndex true graph) := by
  intro nodeId live
  rw [compacted_find flagged live]
  exact mirrors nodeId live

end

/-! ## What an act leaves -/

/-- An act that stores no memory and no vector. -/
def quiet : Act Id Weight Blob → Bool
  | .dream .. => false
  | .create .. => false
  | .elsewhere .. => false
  | _ => true

structure Forgets [DecidableEq Id] (before after : Graph Id Weight Blob)
    (rows : List (AuditRow Id)) : Prop where
  live : ∀ id, isLive after id = true → isLive before id = true
  audited : ∀ id, isLive before id = true →
    isLive after id = true ∨ ∃ row ∈ rows, row.nodeId = id
  embeddings : ∀ id, isLive after id = true →
    after.embeddings.find id = before.embeddings.find id
  index : after.vecEmbeddings = before.vecEmbeddings

section

variable [DecidableEq Id] {graph before middle after : Graph Id Weight Blob}
variable {rows more : List (AuditRow Id)} {dream created : Option Id} {hard : Bool} {id : Id}

theorem Forgets.nothing : Forgets graph graph [] :=
  ⟨fun _ live => live, fun _ => .inl, fun _ _ => rfl, rfl⟩

theorem Forgets.trans (first : Forgets before middle rows) (next : Forgets middle after more) :
    Forgets before after (rows ++ more) where
  live := fun id live => first.live id (next.live id live)
  audited := by
    intro id live
    rcases first.audited id live with still | ⟨row, listed, named⟩
    · refine (next.audited id still).imp_right ?_
      rintro ⟨row, listed, named⟩
      exact ⟨row, List.mem_append_right _ listed, named⟩
    · exact .inr ⟨row, List.mem_append_left _ listed, named⟩
  embeddings := fun id live =>
    (next.embeddings id live).trans (first.embeddings id (next.live id live))
  index := next.index.trans first.index

theorem Forgets.mirrors (forgets : Forgets before after rows) (mirrors : Mirrors before) :
    Mirrors after := by
  intro id live
  rw [forgets.index, forgets.embeddings id live]
  exact mirrors id (forgets.live id live)

/-- A stale row that was not stale has its node in the audit. -/
theorem Forgets.stale_length (forgets : Forgets before after rows)
    (fresh : ∀ row ∈ before.vecEmbeddings.rows, isLive before row.nodeId = true) :
    (stale after).length ≤ rows.length := by
  have distinct : ((stale after).map VecRow.nodeId).Nodup :=
    after.vecEmbeddings.distinct.sublist (List.filter_sublist.map _)
  have audited : (stale after).map VecRow.nodeId ⊆ rows.map AuditRow.nodeId := by
    intro id listed
    obtain ⟨row, left, rfl⟩ := List.mem_map.mp listed
    obtain ⟨stored, dead⟩ := List.mem_filter.mp left
    rw [forgets.index] at stored
    rcases forgets.audited row.nodeId (fresh row stored) with live | ⟨entry, there, named⟩
    · rw [live] at dead
      cases dead
    · exact List.mem_map.mpr ⟨entry, there, named⟩
  have fewer := (distinct.subperm audited).length_le
  rwa [List.length_map, List.length_map] at fewer

/-- The nodes after an act that stores nothing. -/
theorem fate_live (fate : Fate before after rows none none hard id) :
    (isLive after id = true → isLive before id = true) ∧
      (isLive before id = true → isLive after id = true ∨ ∃ row ∈ rows, row.nodeId = id) := by
  cases fate with
  | absent missing still =>
      rw [isLive, isLive, missing, still]
      exact ⟨fun live => live, .inl⟩
  | kept prior node found read live holds gains =>
      rw [isLive, isLive, found, read, Option.any_some, Option.any_some, live]
      exact ⟨fun live => live, .inl⟩
  | absorbed prior keeper found read audited held =>
      refine ⟨fun live => ?_, fun _ => .inr audited⟩
      rw [isLive, read, Option.any_some, retired_live] at live
      cases live
  | collected prior found unpinned read audited =>
      refine ⟨fun live => ?_, fun _ => .inr audited⟩
      obtain ⟨node, left, alive⟩ := is_live_iff.mp live
      rw [read] at left
      split at left
      · cases left
      · obtain rfl := Option.some.inj left
        rw [Node.decay_live] at alive
        cases alive
  | dreamt node named read live => cases named
  | created node named missing read live => cases named

variable [LT Weight] [DecidableLT Weight] {world : World Id}

theorem perform_index {act : Act Id Weight Blob} (silent : quiet act = true) :
    (perform world act graph).vecEmbeddings = graph.vecEmbeddings ∧
      ∀ id, isLive (perform world act graph) id = true →
        (perform world act graph).embeddings.find id = graph.embeddings.find id := by
  cases act with
  | merge now cluster =>
      rw [perform]
      rcases @merge_shape _ _ _ _ graph world.scan now cluster with idle | ⟨keeper, -, shape⟩
      · rw [idle]
        exact ⟨rfl, fun _ _ => rfl⟩
      · rw [shape, absorb_eq]
        exact ⟨rfl, fun _ _ => rfl⟩
  | collect settings clock measured =>
      rw [perform]
      rcases @collects _ _ _ _ world.sampling settings clock graph
        (computeMetrics world.scan measured) with ⟨-, left⟩ | ⟨-, -, chosen, drawn, few, -, taken⟩
      · rw [left]
        exact ⟨rfl, fun _ _ => rfl⟩
      · have collected := forgets_collected drawn few
        rw [taken]
        refine ⟨collected.vecEmbeddings, fun id live => ?_⟩
        rw [collected.embeddings, if_neg]
        rintro ⟨hard, listed⟩
        -- a deleted node is not live
        obtain ⟨node, found, -⟩ := is_live_iff.mp live
        rw [collected.nodes, if_pos listed] at found
        obtain ⟨prior, -, left⟩ := Option.bind_eq_some_iff.mp found
        rw [forgotten, if_pos hard] at left
        cases left
  | permanence stamp accessThreshold => exact ⟨rfl, fun _ _ => rfl⟩
  | core measured =>
      rw [perform, promoteCoreMemories]
      split
      · exact ⟨rfl, fun _ _ => rfl⟩
      · exact ⟨rfl, fun _ _ => rfl⟩
  | dream now model links => cases silent
  | create now content nodeType sessionId domain referentTime => cases silent
  | accessed now ids => exact ⟨rfl, fun _ _ => rfl⟩
  | tracked now ids => exact ⟨rfl, fun _ _ => rfl⟩
  | prune cutoff => exact ⟨rfl, fun _ _ => rfl⟩
  | elsewhere edges embeddings vecEmbeddings => cases silent

theorem perform_forgets {act : Act Id Weight Blob} (silent : quiet act = true) :
    Forgets graph (perform world act graph) (rowsOf world act graph) := by
  obtain ⟨index, embeddings⟩ := @perform_index _ _ _ _ graph _ _ world act silent
  have fate := @perform_fate _ _ _ _ graph _ _ world act
  have dreamless : dreamOf world act graph = none := by
    cases act with
    | dream now model links => cases silent
    | _ => rfl
  have barren : createdBy world act = none := by
    cases act with
    | create now content nodeType sessionId domain referentTime => cases silent
    | _ => rfl
  rw [dreamless, barren] at fate
  exact ⟨fun id => (fate_live (fate id)).1, fun id => (fate_live (fate id)).2, embeddings, index⟩

theorem run_forgets {acts : List (Act Id Weight Blob)} (silent : ∀ act ∈ acts, quiet act = true) :
    Forgets graph (run world acts graph) (written world acts graph) := by
  induction acts generalizing graph with
  | nil => exact .nothing
  | cons act rest induction =>
      have first := @perform_forgets _ _ _ _ graph _ _ world act (silent act List.mem_cons_self)
      exact first.trans (induction fun other later => silent other (List.mem_cons_of_mem _ later))

variable [LinearOrder Score] [LinearOrder Distance] {engine : Engine Id Score Distance Blob}

end

def evening : List (Act Nat Int Int) :=
  [.collect strict noon shelf, .prune ""]

end HermesCashew.SleepCompaction
