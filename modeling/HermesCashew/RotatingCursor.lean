import Mathlib.Algebra.Ring.Nat
import Mathlib.Data.Finset.Card
import Mathlib.Data.List.Sort
import Mathlib.Data.Prod.Lex
import Mathlib.Order.BooleanAlgebra.Basic

/-!
# Rotating cursors

Pages of a linear order that are taken one after another from behind a cursor, which goes
on to the last key of each page and starts over at the end. What is eligible may change from
page to page. A key that stays eligible and waits sees the others in one turn: no key comes
twice before the one that waits.
-/

namespace HermesCashew.RotatingCursor

set_option autoImplicit false

variable {Key : Type} [LinearOrder Key]

/-- The place of a key in the round that ends before the one that waits: the keys from
`waiting` on come first, those under it after the cursor has started over. -/
def turn (waiting key : Key) : Bool ×ₗ Key :=
  toLex (decide (key < waiting), key)

theorem turn_early {waiting one other : Key} (ordered : one < other) (below : other < waiting) :
    turn waiting one < turn waiting other := by
  rw [turn, turn, Prod.Lex.toLex_lt_toLex]
  right
  simp [ordered, below, ordered.trans below]

theorem turn_late {waiting one other : Key} (ordered : one < other) (above : waiting ≤ one) :
    turn waiting one < turn waiting other := by
  rw [turn, turn, Prod.Lex.toLex_lt_toLex]
  right
  simp [ordered, not_lt.mpr above, not_lt.mpr (above.trans ordered.le)]

theorem turn_over {waiting one other : Key} (above : waiting ≤ one) (below : other < waiting) :
    turn waiting one < turn waiting other := by
  rw [turn, turn, Prod.Lex.toLex_lt_toLex]
  left
  simp [below, not_lt.mpr above]

def InTurn (waiting : Key) (keys : List Key) : Prop :=
  keys.Pairwise fun one other => turn waiting one < turn waiting other

theorem InTurn.nodup {waiting : Key} {keys : List Key} (ordered : InTurn waiting keys) :
    keys.Nodup :=
  ordered.imp fun later same => (same ▸ later).ne rfl

/-- What there is to select from, in order, and how much of it. -/
structure Offer (Key : Type) where
  limit : Nat
  eligible : List Key

structure Rotates (page : Option Key → Offer Key → List Key) : Prop where
  among : ∀ cursor offer, page cursor offer ⊆ offer.eligible
  onward : ∀ cursor offer, offer.eligible.Pairwise (· < ·) →
    ∀ waiting ∈ offer.eligible, waiting ∉ page cursor offer →
      InTurn waiting (cursor.toList ++ page cursor offer)

def pages (page : Option Key → Offer Key → List Key) :
    Option Key → List (Offer Key) → List (List Key)
  | _, [] => []
  | cursor, offer :: rest =>
      page cursor offer :: pages page ((page cursor offer).getLast?.or cursor) rest

section

variable {page : Option Key → Offer Key → List Key} {offers : List (Offer Key)} {waiting : Key}
variable {cursor : Option Key}

theorem mem_pages (rotates : Rotates page) {key : Key}
    (selected : key ∈ (pages page cursor offers).flatten) :
    ∃ offer ∈ offers, key ∈ offer.eligible := by
  induction offers generalizing cursor with
  | nil => cases selected
  | cons offer rest induction =>
      rw [pages, List.flatten_cons] at selected
      rcases List.mem_append.mp selected with now | later
      · exact ⟨offer, List.mem_cons_self, rotates.among cursor offer now⟩
      · obtain ⟨other, listed, member⟩ := induction later
        exact ⟨other, List.mem_cons_of_mem _ listed, member⟩

/-- Everything in a turn comes no later than its last key. -/
theorem turn_le_last {keys : List Key} (ordered : InTurn waiting keys) {last : Key}
    (ends : keys.getLast? = some last) {key : Key} (member : key ∈ keys) :
    turn waiting key ≤ turn waiting last := by
  obtain ⟨front, rfl⟩ := List.getLast?_eq_some_iff.mp ends
  rcases List.mem_append.mp member with early | same
  · exact ((List.pairwise_append.mp ordered).2.2 key early last (List.mem_singleton_self last)).le
  · rw [List.mem_singleton.mp same]

/-- While a key waits that stays eligible, all that is selected comes in one turn. -/
theorem pages_in_turn (rotates : Rotates page)
    (sorted : ∀ offer ∈ offers, offer.eligible.Pairwise (· < ·))
    (stays : ∀ offer ∈ offers, waiting ∈ offer.eligible)
    (missed : waiting ∉ (pages page cursor offers).flatten) :
    InTurn waiting (cursor.toList ++ (pages page cursor offers).flatten) := by
  induction offers generalizing cursor with
  | nil =>
      rw [pages, List.flatten_nil, List.append_nil]
      cases cursor with
      | none => exact List.Pairwise.nil
      | some key => exact List.pairwise_singleton _ key
  | cons offer rest induction =>
      rw [pages, List.flatten_cons, List.mem_append, not_or] at missed
      have now := rotates.onward cursor offer (sorted offer List.mem_cons_self) waiting
        (stays offer List.mem_cons_self) missed.1
      have later := induction (fun other listed => sorted other (List.mem_cons_of_mem _ listed))
        (fun other listed => stays other (List.mem_cons_of_mem _ listed)) missed.2
      rw [pages, List.flatten_cons, ← List.append_assoc]
      apply List.pairwise_append.mpr
      refine ⟨now, (List.pairwise_append.mp later).2.1, ?_⟩
      intro key before other after
      have ends : (cursor.toList ++ page cursor offer).getLast? =
          (page cursor offer).getLast?.or cursor := by
        rw [List.getLast?_append]
        cases cursor <;> rfl
      cases last : (cursor.toList ++ page cursor offer).getLast? with
      | none =>
          rw [List.getLast?_eq_none_iff.mp last] at before
          cases before
      | some key_last =>
          rw [← ends, last] at later after
          have beyond := (List.pairwise_cons.mp later).1 other after
          exact (turn_le_last now last before).trans_lt beyond

/-- No key is selected twice while another waits that stays eligible. -/
theorem selected_once (rotates : Rotates page)
    (sorted : ∀ offer ∈ offers, offer.eligible.Pairwise (· < ·))
    (stays : ∀ offer ∈ offers, waiting ∈ offer.eligible)
    (missed : waiting ∉ (pages page cursor offers).flatten) :
    (pages page cursor offers).flatten.Nodup :=
  (List.pairwise_append.mp (pages_in_turn rotates sorted stays missed)).2.1.nodup

/-- The number of keys that are selected while another waits. -/
theorem selected_few (rotates : Rotates page)
    (sorted : ∀ offer ∈ offers, offer.eligible.Pairwise (· < ·))
    (stays : ∀ offer ∈ offers, waiting ∈ offer.eligible)
    (missed : waiting ∉ (pages page cursor offers).flatten) {everything : Finset Key}
    (within : ∀ offer ∈ offers, ∀ key ∈ offer.eligible, key ∈ everything)
    (present : waiting ∈ everything) :
    (pages page cursor offers).flatten.length < everything.card := by
  have once := selected_once rotates sorted stays missed
  have contained : (pages page cursor offers).flatten.toFinset ⊆ everything.erase waiting := by
    intro key selected
    rw [List.mem_toFinset] at selected
    obtain ⟨other, there, member⟩ := mem_pages rotates selected
    exact Finset.mem_erase.mpr ⟨fun same => missed (same ▸ selected), within other there key member⟩
  have bound := Finset.card_le_card contained
  rw [List.toFinset_card_of_nodup once, Finset.card_erase_of_mem present] at bound
  have positive := Finset.card_pos.mpr ⟨waiting, present⟩
  omega

omit [LinearOrder Key] in
theorem pages_long {size : Offer Key → Nat}
    (full : ∀ cursor, ∀ offer ∈ offers, waiting ∉ page cursor offer →
      size offer ≤ (page cursor offer).length)
    (missed : waiting ∉ (pages page cursor offers).flatten) :
    (offers.map size).sum ≤ (pages page cursor offers).flatten.length := by
  induction offers generalizing cursor with
  | nil => simp
  | cons offer rest induction =>
      rw [pages, List.flatten_cons, List.mem_append, not_or] at missed
      have now := full cursor offer List.mem_cons_self missed.1
      have later := induction (fun cursor other listed =>
        full cursor other (List.mem_cons_of_mem _ listed)) missed.2
      rw [pages, List.flatten_cons, List.length_append, List.map_cons, List.sum_cons]
      exact Nat.add_le_add now later

/-- A key that stays eligible is selected before the pages could hold every key that was
eligible. -/
theorem selected_within (rotates : Rotates page)
    (sorted : ∀ offer ∈ offers, offer.eligible.Pairwise (· < ·))
    (stays : ∀ offer ∈ offers, waiting ∈ offer.eligible) {size : Offer Key → Nat}
    (full : ∀ cursor, ∀ offer ∈ offers, waiting ∉ page cursor offer →
      size offer ≤ (page cursor offer).length) {everything : Finset Key}
    (within : ∀ offer ∈ offers, ∀ key ∈ offer.eligible, key ∈ everything)
    (present : waiting ∈ everything) (enough : everything.card ≤ (offers.map size).sum) :
    waiting ∈ (pages page cursor offers).flatten := by
  by_contra missed
  have few := selected_few rotates sorted stays missed within present
  have long := pages_long full missed
  omega

end

/-! ## Pages -/

def beyond (cursor : Key) (eligible : List Key) : List Key :=
  eligible.filter fun key => decide (cursor < key)

def wrapping : Option Key → Offer Key → List Key
  | none, offer => offer.eligible.take offer.limit
  | some cursor, offer =>
      let ahead := (beyond cursor offer.eligible).take offer.limit
      ahead ++ (offer.eligible.filter fun key => decide (key ≤ cursor)).take
        (offer.limit - ahead.length)

def stopping : Option Key → Offer Key → List Key
  | none, offer => offer.eligible.take offer.limit
  | some cursor, offer =>
      let ahead := (beyond cursor offer.eligible).take offer.limit
      if ahead = [] then offer.eligible.take offer.limit else ahead

section

variable {limit : Nat} {cursor waiting key : Key} {keys : List Key}

theorem taken_below (sorted : keys.Pairwise (· < ·)) (listed : waiting ∈ keys)
    (missed : waiting ∉ keys.take limit) (taken : key ∈ keys.take limit) : key < waiting := by
  rw [← List.take_append_drop limit keys] at sorted listed
  exact (List.pairwise_append.mp sorted).2.2 key taken waiting
    ((List.mem_append.mp listed).resolve_left missed)

omit [LinearOrder Key] in
theorem taken_full (listed : waiting ∈ keys) (missed : waiting ∉ keys.take limit) :
    (keys.take limit).length = limit := by
  rw [List.length_take]
  apply Nat.min_eq_left
  by_contra short
  rw [List.take_of_length_le (Nat.le_of_not_le short)] at missed
  exact missed listed

/-- A part of the keys under one that waits. -/
theorem in_turn_below (sorted : keys.Pairwise (· < ·)) (below : ∀ key ∈ keys, key < waiting) :
    InTurn waiting keys :=
  sorted.imp_of_mem fun _ member ordered => turn_early ordered (below _ member)

theorem in_turn_above (sorted : keys.Pairwise (· < ·)) (above : ∀ key ∈ keys, waiting ≤ key) :
    InTurn waiting keys :=
  sorted.imp_of_mem fun member _ ordered => turn_late ordered (above _ member)

theorem mem_beyond {eligible : List Key} :
    key ∈ beyond cursor eligible ↔ key ∈ eligible ∧ cursor < key := by
  simp [beyond]

theorem beyond_in_turn {eligible : List Key} (sorted : eligible.Pairwise (· < ·))
    (stays : waiting ∈ eligible) (missed : waiting ∉ (beyond cursor eligible).take limit) :
    InTurn waiting (cursor :: (beyond cursor eligible).take limit) := by
  have ahead : (beyond cursor eligible).Pairwise (· < ·) := sorted.sublist List.filter_sublist
  have higher : ∀ key ∈ (beyond cursor eligible).take limit, cursor < key := by
    intro key taken
    exact (mem_beyond.mp (List.mem_of_mem_take taken)).2
  have front : (cursor :: (beyond cursor eligible).take limit).Pairwise (· < ·) :=
    List.pairwise_cons.mpr ⟨higher, ahead.sublist (List.take_sublist _ _)⟩
  rcases lt_or_ge cursor waiting with below | above
  · apply in_turn_below front
    intro key member
    rcases List.mem_cons.mp member with rfl | taken
    · exact below
    · exact taken_below ahead (mem_beyond.mpr ⟨stays, below⟩) missed taken
  · apply in_turn_above front
    intro key member
    rcases List.mem_cons.mp member with rfl | taken
    · exact above
    · exact above.trans (higher key taken).le

/-- What has started over comes after the keys from the one that waits on. -/
theorem in_turn_over {front behind : List Key} (first : InTurn waiting front)
    (high : ∀ key ∈ front, waiting ≤ key) (sorted : behind.Pairwise (· < ·))
    (low : ∀ key ∈ behind, key < waiting) : InTurn waiting (front ++ behind) := by
  apply List.pairwise_append.mpr
  refine ⟨first, in_turn_below sorted low, ?_⟩
  intro key early other late
  exact turn_over (high key early) (low other late)

theorem taken_in_turn {eligible : List Key} (sorted : eligible.Pairwise (· < ·))
    (stays : waiting ∈ eligible) (missed : waiting ∉ eligible.take limit) :
    InTurn waiting (eligible.take limit) :=
  in_turn_below (sorted.sublist (List.take_sublist limit eligible))
    fun _ taken => taken_below sorted stays missed taken

theorem wrapping_rotates : Rotates (@wrapping Key _) := by
  constructor
  · intro cursor offer key selected
    cases cursor with
    | none => exact List.mem_of_mem_take selected
    | some cursor =>
        rcases List.mem_append.mp selected with ahead | behind
        · exact (mem_beyond.mp (List.mem_of_mem_take ahead)).1
        · exact List.mem_of_mem_filter (List.mem_of_mem_take behind)
  · intro cursor offer sorted waiting stays missed
    cases cursor with
    | none => exact taken_in_turn sorted stays missed
    | some cursor =>
        rw [wrapping, List.mem_append, not_or] at missed
        have front := beyond_in_turn sorted stays missed.1
        rw [wrapping, Option.toList_some, List.singleton_append, ← List.cons_append]
        rcases lt_or_ge cursor waiting with below | above
        · have whole := taken_full (mem_beyond.mpr ⟨stays, below⟩) missed.1
          rw [whole, Nat.sub_self, List.take_zero, List.append_nil]
          exact front
        · have low : (offer.eligible.filter fun key => decide (key ≤ cursor)).Pairwise (· < ·) :=
            sorted.sublist List.filter_sublist
          have listed : waiting ∈ offer.eligible.filter fun key => decide (key ≤ cursor) :=
            List.mem_filter.mpr ⟨stays, decide_eq_true above⟩
          apply in_turn_over front _ (low.sublist (List.take_sublist _ _))
          · intro key taken
            exact taken_below low listed missed.2 taken
          · intro key member
            rcases List.mem_cons.mp member with rfl | taken
            · exact above
            · exact above.trans (mem_beyond.mp (List.mem_of_mem_take taken)).2.le

theorem wrapping_full {cursor : Option Key} {offer : Offer Key}
    (stays : waiting ∈ offer.eligible) (missed : waiting ∉ wrapping cursor offer) :
    offer.limit ≤ (wrapping cursor offer).length := by
  cases cursor with
  | none => exact (taken_full stays missed).ge
  | some cursor =>
      rw [wrapping, List.mem_append, not_or] at missed
      rw [wrapping, List.length_append]
      rcases lt_or_ge cursor waiting with below | above
      · have whole := taken_full (mem_beyond.mpr ⟨stays, below⟩) missed.1
        omega
      · have listed : waiting ∈ offer.eligible.filter fun key => decide (key ≤ cursor) :=
          List.mem_filter.mpr ⟨stays, decide_eq_true above⟩
        have whole := taken_full listed missed.2
        omega

theorem stopping_rotates : Rotates (@stopping Key _) := by
  constructor
  · intro cursor offer key selected
    cases cursor with
    | none => exact List.mem_of_mem_take selected
    | some cursor =>
        rw [stopping] at selected
        split at selected
        · exact List.mem_of_mem_take selected
        · exact (mem_beyond.mp (List.mem_of_mem_take selected)).1
  · intro cursor offer sorted waiting stays missed
    cases cursor with
    | none => exact taken_in_turn sorted stays missed
    | some cursor =>
        rw [stopping] at missed ⊢
        split
        · rename_i nothing
          rw [if_pos nothing] at missed
          rw [Option.toList_some]
          rcases List.take_eq_nil_iff.mp nothing with none_wanted | empty
          · rw [none_wanted, List.take_zero, List.append_nil]
            exact List.pairwise_singleton _ cursor
          · have above : waiting ≤ cursor := by
              by_contra ahead
              have listed := mem_beyond.mpr ⟨stays, not_le.mp ahead⟩
              rw [empty] at listed
              cases listed
            apply in_turn_over (List.pairwise_singleton _ cursor) _
              (sorted.sublist (List.take_sublist _ _))
            · intro key taken
              exact taken_below sorted stays missed taken
            · intro key member
              rw [List.mem_singleton.mp member]
              exact above
        · rename_i something
          rw [if_neg something] at missed
          exact beyond_in_turn sorted stays missed

/-- A page that leaves a key waiting is not empty. -/
theorem stopping_some {cursor : Option Key} {offer : Offer Key} (positive : 0 < offer.limit)
    (stays : waiting ∈ offer.eligible) : 1 ≤ (stopping cursor offer).length := by
  have some_keys : offer.eligible.take offer.limit ≠ [] := by
    rw [ne_eq, List.take_eq_nil_iff, not_or]
    exact ⟨positive.ne', List.ne_nil_of_mem stays⟩
  cases cursor with
  | none => exact List.length_pos_iff.mpr some_keys
  | some cursor =>
      rw [stopping]
      split
      · exact List.length_pos_iff.mpr some_keys
      · rename_i something
        exact List.length_pos_iff.mpr something

end

end HermesCashew.RotatingCursor
