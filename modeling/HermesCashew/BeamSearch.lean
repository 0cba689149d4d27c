import Mathlib.Data.List.Dedup
import Mathlib.Data.List.Perm.Subperm
import Mathlib.Data.List.Sort
import Mathlib.Order.Basic

/-!
# A search with a bounded beam

From every vertex of its frontier the search takes the best neighbours that it has not
seen, at most so many, and goes on from these for a number of hops. What it passes over
was beaten by neighbours that it took.
-/

namespace HermesCashew.BeamSearch

set_option autoImplicit false

/-! ## Slices and rankings -/

section

variable {Item : Type}

/-- `items[:count]`, where a negative count leaves that many off the end. -/
def upTo (count : Int) (items : List Item) : List Item :=
  if 0 ≤ count then items.take count.toNat else items.take (items.length - count.natAbs)

theorem up_to_begins (count : Int) (items : List Item) : upTo count items <+: items := by
  unfold upTo
  split
  · exact List.take_prefix _ _
  · exact List.take_prefix _ _

theorem up_to_sublist (count : Int) (items : List Item) : (upTo count items).Sublist items :=
  (up_to_begins count items).sublist

theorem up_to_length {count : Int} (some_count : 0 ≤ count) (items : List Item) :
    (upTo count items).length ≤ count.toNat := by
  rw [upTo, if_pos some_count, List.length_take]
  exact Nat.min_le_left _ _

theorem up_to_nat (count : Nat) (items : List Item) : upTo count items = items.take count := by
  rw [upTo, if_pos (Int.natCast_nonneg count), Int.toNat_natCast]

variable {count : Int} {items : List Item} {kept left : Item}

/-- Where something is cut off, the slice is full. -/
theorem up_to_full (some_count : 0 ≤ count) (is_left : left ∈ items)
    (is_cut : left ∉ upTo count items) : (upTo count items).length = count.toNat := by
  have shorter : (upTo count items).length < items.length := by
    refine Nat.lt_of_le_of_ne (up_to_sublist count items).length_le fun full => is_cut ?_
    rwa [(up_to_sublist count items).eq_of_length full]
  rw [upTo, if_pos some_count, List.length_take] at shorter ⊢
  omega

/-- What a slice keeps comes before what it leaves off. -/
theorem up_to_before {related : Item → Item → Prop} (sorted : items.Pairwise related)
    (is_kept : kept ∈ upTo count items) (is_left : left ∈ items)
    (is_cut : left ∉ upTo count items) : related kept left := by
  obtain ⟨rest, whole⟩ := up_to_begins count items
  rw [← whole] at sorted is_left
  have in_rest : left ∈ rest := (List.mem_append.mp is_left).resolve_left is_cut
  exact (List.pairwise_append.mp sorted).2.2 kept is_kept left in_rest

variable {Weight : Type} [LinearOrder Weight]

def AtLeast (first second : Item × Weight) : Prop :=
  second.2 ≤ first.2

instance : DecidableRel (@AtLeast Item Weight _) :=
  fun first second => inferInstanceAs (Decidable (second.2 ≤ first.2))

instance : Std.Total (@AtLeast Item Weight _) :=
  ⟨fun first second => le_total second.2 first.2⟩

instance : IsTrans (Item × Weight) AtLeast :=
  ⟨fun _ _ _ one two => le_trans two one⟩

/-- `sort(key=…, reverse=True)`, which is stable. -/
def descending (scored : List (Item × Weight)) : List (Item × Weight) :=
  scored.insertionSort AtLeast

theorem descending_perm (scored : List (Item × Weight)) : (descending scored).Perm scored :=
  List.perm_insertionSort _ _

theorem mem_descending {scored : List (Item × Weight)} {item : Item × Weight} :
    item ∈ descending scored ↔ item ∈ scored :=
  (descending_perm scored).mem_iff

theorem descending_pairwise (scored : List (Item × Weight)) :
    (descending scored).Pairwise fun first second => second.2 ≤ first.2 :=
  List.pairwise_insertionSort AtLeast scored

end

/-! ## Hops -/

inductive Within {Vertex : Type} (next : Vertex → Vertex → Prop) :
    Nat → Vertex → Vertex → Prop
  | here (hops : Nat) (vertex : Vertex) : Within next hops vertex vertex
  | hop {hops : Nat} {start middle last : Vertex} (first : Within next hops start middle)
      (step : next middle last) : Within next (hops + 1) start last

section

variable {Vertex : Type} {next : Vertex → Vertex → Prop} {start middle last : Vertex}

theorem Within.more {hops : Nat} (near : Within next hops start last) :
    Within next (hops + 1) start last := by
  induction near with
  | here hops vertex => exact .here _ _
  | hop _ step ih => exact .hop ih step

theorem Within.mono {few many : Nat} (most : few ≤ many) (near : Within next few start last) :
    Within next many start last := by
  induction most with
  | refl => exact near
  | step _ ih => exact ih.more

theorem Within.after {hops : Nat} (step : next start middle)
    (near : Within next hops middle last) : Within next (hops + 1) start last := by
  induction near with
  | here hops vertex => exact .hop (.here _ _) step
  | hop _ last_step ih => exact .hop (ih step) last_step

theorem Within.imp {other : Vertex → Vertex → Prop} {hops : Nat}
    (implied : ∀ first second, next first second → other first second)
    (near : Within next hops start last) : Within other hops start last := by
  induction near with
  | here hops vertex => exact .here _ _
  | hop _ step ih => exact .hop ih (implied _ _ step)

end

/-! ## The search -/

section

variable {Vertex Weight : Type} [DecidableEq Vertex] [LinearOrder Weight]
  (neighbors : Vertex → List Vertex) (score : Vertex → Weight) (picks : Int)

def unseen (seen : List Vertex) (vertex : Vertex) : List Vertex :=
  (neighbors vertex).filter (· ∉ seen)

def picked (seen : List Vertex) (vertex : Vertex) : List (Vertex × Weight) :=
  upTo picks (descending ((unseen neighbors seen vertex).map fun other => (other, score other)))

def hop (seen : List Vertex) : List Vertex → List Vertex
  | [] => []
  | vertex :: rest =>
      let taken := (picked neighbors score picks seen vertex).map Prod.fst
      taken ++ hop (seen ++ taken) rest

def walk : Nat → List Vertex → List Vertex → List Vertex
  | 0, seen, _ => seen
  | hops + 1, seen, frontier =>
      let next := hop neighbors score picks seen frontier
      if next = [] then seen else walk hops (seen ++ next) next

variable {neighbors score picks} {seen frontier : List Vertex} {vertex other : Vertex}

theorem mem_picked {item : Vertex × Weight}
    (taken : item ∈ picked neighbors score picks seen vertex) :
    item.1 ∈ neighbors vertex ∧ item.1 ∉ seen ∧ item.2 = score item.1 := by
  have among := mem_descending.mp ((up_to_sublist _ _).subset taken)
  obtain ⟨found, is_unseen, rfl⟩ := List.mem_map.mp among
  obtain ⟨near, fresh⟩ := List.mem_filter.mp is_unseen
  exact ⟨near, of_decide_eq_true fresh, rfl⟩

theorem picked_nodup (distinct : (neighbors vertex).Nodup) :
    ((picked neighbors score picks seen vertex).map Prod.fst).Nodup := by
  have ids : (((unseen neighbors seen vertex).map fun other => (other, score other)).map
      Prod.fst) = unseen neighbors seen vertex := by
    rw [List.map_map]
    exact List.map_id _
  have all : ((descending ((unseen neighbors seen vertex).map fun other =>
      (other, score other))).map Prod.fst).Nodup := by
    rw [((descending_perm _).map Prod.fst).nodup_iff, ids]
    exact distinct.filter _
  exact all.sublist ((up_to_sublist _ _).map Prod.fst)

/-- An unseen neighbour that is not taken was beaten by as many as are taken. -/
theorem passed_over_beaten (some_picks : 0 ≤ picks) (near : other ∈ neighbors vertex)
    (fresh : other ∉ seen)
    (passed : other ∉ (picked neighbors score picks seen vertex).map Prod.fst) :
    (picked neighbors score picks seen vertex).length = picks.toNat ∧
      ∀ item ∈ picked neighbors score picks seen vertex, score other ≤ score item.1 := by
  have among : (other, score other) ∈
      (unseen neighbors seen vertex).map fun other => (other, score other) :=
    List.mem_map.mpr ⟨other, List.mem_filter.mpr ⟨near, decide_eq_true fresh⟩, rfl⟩
  have cut : (other, score other) ∉ picked neighbors score picks seen vertex :=
    fun taken => passed (List.mem_map.mpr ⟨_, taken, rfl⟩)
  refine ⟨up_to_full some_picks (mem_descending.mpr among) cut, fun item taken => ?_⟩
  have no_better := up_to_before (descending_pairwise _) taken (mem_descending.mpr among) cut
  rwa [(mem_picked taken).2.2] at no_better

theorem mem_hop (taken : other ∈ hop neighbors score picks seen frontier) :
    other ∉ seen ∧ ∃ vertex ∈ frontier, other ∈ neighbors vertex := by
  induction frontier generalizing seen with
  | nil => exact absurd taken List.not_mem_nil
  | cons vertex rest ih =>
      rcases List.mem_append.mp taken with first | later
      · obtain ⟨item, is_picked, rfl⟩ := List.mem_map.mp first
        obtain ⟨near, fresh, -⟩ := mem_picked is_picked
        exact ⟨fresh, vertex, List.mem_cons_self, near⟩
      · obtain ⟨fresh, source, among, near⟩ := ih later
        exact ⟨fun old => fresh (List.mem_append_left _ old), source,
          List.mem_cons_of_mem _ among, near⟩

theorem hop_nodup (distinct : ∀ vertex, (neighbors vertex).Nodup) :
    (hop neighbors score picks seen frontier).Nodup := by
  induction frontier generalizing seen with
  | nil => exact List.nodup_nil
  | cons vertex rest ih =>
      refine List.nodup_append'.mpr ⟨picked_nodup (distinct vertex), ih, ?_⟩
      exact fun other first later => (mem_hop later).1 (List.mem_append_right _ first)

theorem hop_length (some_picks : 0 ≤ picks) :
    (hop neighbors score picks seen frontier).length ≤ picks.toNat * frontier.length := by
  induction frontier generalizing seen with
  | nil => exact Nat.zero_le _
  | cons vertex rest ih =>
      have first : ((picked neighbors score picks seen vertex).map Prod.fst).length ≤
          picks.toNat := by
        rw [List.length_map]
        exact up_to_length some_picks _
      have later := @ih (seen ++ (picked neighbors score picks seen vertex).map Prod.fst)
      rw [hop, List.length_append, List.length_cons, Nat.mul_add_one]
      omega

/-- A vertex that a hop went on from: a neighbour that has not been seen then was beaten. -/
theorem hop_beaten (some_picks : 0 ≤ picks) (distinct : ∀ vertex, (neighbors vertex).Nodup)
    (expanded : vertex ∈ frontier) (near : other ∈ neighbors vertex)
    (fresh : other ∉ seen ++ hop neighbors score picks seen frontier) :
    ∃ better : List Vertex, better.Nodup ∧ better.length = picks.toNat ∧
      ∀ taken ∈ better, taken ∈ hop neighbors score picks seen frontier ∧
        taken ∈ neighbors vertex ∧ score other ≤ score taken := by
  induction frontier generalizing seen with
  | nil => exact absurd expanded List.not_mem_nil
  | cons source rest ih =>
      rw [hop, ← List.append_assoc] at fresh
      rcases List.mem_cons.mp expanded with rfl | later
      · have passed := fun among => fresh (List.mem_append_left _ (List.mem_append_right _ among))
        have old := fun among => fresh (List.mem_append_left _ (List.mem_append_left _ among))
        obtain ⟨full, no_better⟩ := passed_over_beaten some_picks near old passed
        refine ⟨_, picked_nodup (distinct vertex), (List.length_map _).trans full, ?_⟩
        intro taken is_taken
        obtain ⟨item, is_picked, rfl⟩ := List.mem_map.mp is_taken
        exact ⟨List.mem_append_left _ is_taken, (mem_picked is_picked).1,
          no_better item is_picked⟩
      · obtain ⟨better, separate, full, wins⟩ := ih later fresh
        exact ⟨better, separate, full, fun taken is_taken =>
          ⟨List.mem_append_right _ (wins taken is_taken).1, (wins taken is_taken).2⟩⟩

/-! ## The whole search -/

theorem walk_seen {hops : Nat} (old : other ∈ seen) :
    other ∈ walk neighbors score picks hops seen frontier := by
  induction hops generalizing seen frontier with
  | zero => exact old
  | succ hops ih =>
      rw [walk]
      split
      · exact old
      · exact ih (List.mem_append_left _ old)

theorem walk_within {hops : Nat}
    (reached : other ∈ walk neighbors score picks hops seen frontier) :
    other ∈ seen ∨
      ∃ start ∈ frontier,
        Within (fun first second => second ∈ neighbors first) hops start other := by
  induction hops generalizing seen frontier with
  | zero => exact .inl reached
  | succ hops ih =>
      rw [walk] at reached
      split at reached
      · exact .inl reached
      · rcases ih reached with known | ⟨middle, on_front, near⟩
        · rcases List.mem_append.mp known with old | taken
          · exact .inl old
          · obtain ⟨-, start, among, step⟩ := mem_hop taken
            exact .inr ⟨start, among, .hop (.here _ _) step⟩
        · obtain ⟨-, start, among, step⟩ := mem_hop on_front
          exact .inr ⟨start, among, near.after step⟩

theorem walk_nodup {hops : Nat} (distinct : ∀ vertex, (neighbors vertex).Nodup)
    (separate : seen.Nodup) : (walk neighbors score picks hops seen frontier).Nodup := by
  induction hops generalizing seen frontier with
  | zero => exact separate
  | succ hops ih =>
      rw [walk]
      split
      · exact separate
      · refine ih (List.nodup_append'.mpr ⟨separate, hop_nodup distinct, ?_⟩)
        exact fun other old taken => (mem_hop taken).1 old

def reach (picks : Int) : Nat → Nat
  | 0 => 0
  | hops + 1 => picks.toNat * (1 + reach picks hops)

theorem walk_length {hops : Nat} (some_picks : 0 ≤ picks) :
    (walk neighbors score picks hops seen frontier).length ≤
      seen.length + frontier.length * reach picks hops := by
  induction hops generalizing seen frontier with
  | zero => exact Nat.le_add_right _ _
  | succ hops ih =>
      rw [walk]
      split
      · exact Nat.le_add_right _ _
      · have taken : (hop neighbors score picks seen frontier).length ≤
            picks.toNat * frontier.length := hop_length some_picks
        calc (walk neighbors score picks hops (seen ++ hop neighbors score picks seen frontier)
                (hop neighbors score picks seen frontier)).length
            ≤ (seen ++ hop neighbors score picks seen frontier).length +
                (hop neighbors score picks seen frontier).length * reach picks hops := ih
          _ = seen.length +
                (hop neighbors score picks seen frontier).length * (1 + reach picks hops) := by
              rw [List.length_append, Nat.mul_add, Nat.mul_one, Nat.add_assoc]
          _ ≤ seen.length + picks.toNat * frontier.length * (1 + reach picks hops) :=
              Nat.add_le_add_left (Nat.mul_le_mul_right _ taken) _
          _ = seen.length + frontier.length * reach picks (hops + 1) := by
              rw [reach, Nat.mul_comm picks.toNat, Nat.mul_assoc]

/-- As many neighbours of a vertex as it may pick were reached, none of them worse. -/
def Beaten (neighbors : Vertex → List Vertex) (score : Vertex → Weight) (picks : Int)
    (reached : List Vertex) (vertex other : Vertex) : Prop :=
  ∃ better : List Vertex, better.Nodup ∧ better.length = picks.toNat ∧
    ∀ taken ∈ better, taken ∈ reached ∧ taken ∈ neighbors vertex ∧ score other ≤ score taken

theorem hop_reached {hops : Nat}
    (known : other ∈ seen ++ hop neighbors score picks seen frontier) :
    other ∈ walk neighbors score picks (hops + 1) seen frontier := by
  rw [walk]
  split
  · rename_i ended
    rwa [ended, List.append_nil] at known
  · exact walk_seen known

theorem frontier_beaten {hops : Nat} (some_picks : 0 ≤ picks)
    (distinct : ∀ vertex, (neighbors vertex).Nodup) (expanded : vertex ∈ frontier)
    (near : other ∈ neighbors vertex)
    (missed : other ∉ walk neighbors score picks (hops + 1) seen frontier) :
    Beaten neighbors score picks (walk neighbors score picks (hops + 1) seen frontier)
      vertex other := by
  obtain ⟨better, separate, full, wins⟩ :=
    hop_beaten some_picks distinct expanded near fun known => missed (hop_reached known)
  refine ⟨better, separate, full, fun taken is_taken => ?_⟩
  obtain ⟨is_new, also_near, no_worse⟩ := wins taken is_taken
  exact ⟨hop_reached (List.mem_append_right _ is_new), also_near, no_worse⟩

/-- What was reached before the last hop was gone on from: its neighbours are reached, or
were beaten. -/
theorem walk_beaten {hops : Nat} (some_picks : 0 ≤ picks)
    (distinct : ∀ vertex, (neighbors vertex).Nodup)
    (started : ∀ vertex ∈ seen, vertex ∈ frontier)
    (expanded : vertex ∈ walk neighbors score picks hops seen frontier)
    (near : other ∈ neighbors vertex)
    (missed : other ∉ walk neighbors score picks (hops + 1) seen frontier) :
    Beaten neighbors score picks (walk neighbors score picks (hops + 1) seen frontier)
      vertex other := by
  suffices general : ∀ (hops : Nat) (seen frontier : List Vertex),
      (vertex ∈ seen → vertex ∈ frontier) →
      vertex ∈ walk neighbors score picks hops seen frontier →
      other ∉ walk neighbors score picks (hops + 1) seen frontier →
      Beaten neighbors score picks (walk neighbors score picks (hops + 1) seen frontier)
        vertex other from general hops seen frontier (started vertex) expanded missed
  clear started expanded missed
  intro hops
  induction hops with
  | zero =>
      intro seen frontier started expanded missed
      exact frontier_beaten some_picks distinct (started expanded) near missed
  | succ hops ih =>
      intro seen frontier started expanded missed
      by_cases on_front : vertex ∈ frontier
      · exact frontier_beaten some_picks distinct on_front near missed
      · have fresh : vertex ∉ seen := fun old => on_front (started old)
        rw [walk] at expanded
        rw [walk] at missed ⊢
        split at expanded
        · exact absurd expanded fresh
        · rename_i goes_on
          rw [if_neg goes_on] at missed ⊢
          exact ih _ _ (fun known => (List.mem_append.mp known).resolve_left fresh) expanded
            missed

/-- Where what it goes on from has no more neighbours than it may pick, the search reaches
all that is near by way of neighbours. -/
theorem walk_covers {next : Vertex → Vertex → Prop} {hops depth : Nat} {start : Vertex}
    (some_picks : 0 ≤ picks) (distinct : ∀ vertex, (neighbors vertex).Nodup)
    (started : ∀ vertex, vertex ∈ seen ↔ vertex ∈ frontier)
    (few : ∀ hops < depth, ∀ vertex ∈ walk neighbors score picks hops seen frontier,
      (neighbors vertex).length ≤ picks.toNat ∧
        ∀ other, next vertex other → other ∈ neighbors vertex)
    (begins : start ∈ frontier) (near : Within next hops start other) (within : hops ≤ depth) :
    other ∈ walk neighbors score picks hops seen frontier := by
  induction near with
  | here hops vertex => exact walk_seen ((started vertex).mpr begins)
  | @hop hops start middle last _ step ih =>
      have reached := ih begins (Nat.le_of_succ_le within)
      obtain ⟨least, has⟩ := few hops within middle reached
      by_contra missed
      obtain ⟨better, separate, full, wins⟩ := walk_beaten some_picks distinct
        (fun vertex old => (started vertex).mp old) reached (has last step) missed
      have fresh : last ∉ better := fun taken => missed (wins last taken).1
      have all_near : (last :: better).Subperm (neighbors middle) :=
        (List.nodup_cons.mpr ⟨fresh, separate⟩).subperm (by
          intro taken among
          rcases List.mem_cons.mp among with rfl | is_better
          · exact has taken step
          · exact (wins taken is_better).2.1)
      have most := all_near.length_le
      rw [List.length_cons, full] at most
      omega

end

end HermesCashew.BeamSearch
