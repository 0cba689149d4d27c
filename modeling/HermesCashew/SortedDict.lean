import Mathlib.Data.List.Basic
import Mathlib.Order.Defs.LinearOrder
import Mathlib.Order.Basic
import Mathlib.Order.Lattice

/-!
# Dictionaries as lists in key order

A dictionary whose order of insertion is not looked at: its items in the order of their
keys, each key once. Two of them with the same values are equal.
-/

namespace HermesCashew.SortedDict

set_option autoImplicit false

variable {Key Item : Type} [LinearOrder Key]

def get (key : Key) : List (Key × Item) → Option Item
  | [] => none
  | (name, value) :: rest => if key = name then some value else get key rest

/-- `items[key] = item`. -/
def set (key : Key) (item : Item) : List (Key × Item) → List (Key × Item)
  | [] => [(key, item)]
  | (name, value) :: rest =>
      if key < name then (key, item) :: (name, value) :: rest
      else if key = name then (key, item) :: rest
      else (name, value) :: set key item rest

/-- `{**items, **more}`. -/
def update (items more : List (Key × Item)) : List (Key × Item) :=
  more.foldl (fun items entry => set entry.1 entry.2 items) items

def ofEntries (entries : List (Key × Item)) : List (Key × Item) :=
  update [] entries

def Sorted (items : List (Key × Item)) : Prop :=
  items.Pairwise fun first second => first.1 < second.1

def Distinct (items : List (Key × Item)) : Prop :=
  items.Pairwise fun first second => first.1 ≠ second.1

theorem Sorted.distinct {items : List (Key × Item)} (sorted : Sorted items) : Distinct items :=
  List.Pairwise.imp (fun below => below.ne) sorted

/-! ## Reading -/

theorem mem_of_get {key : Key} {item : Item} {items : List (Key × Item)}
    (found : get key items = some item) : (key, item) ∈ items := by
  induction items with
  | nil => contradiction
  | cons entry rest inductive_hypothesis =>
      obtain ⟨name, value⟩ := entry
      by_cases same : key = name
      · subst same
        rw [get, if_pos rfl] at found
        obtain rfl := Option.some.inj found
        exact List.mem_cons_self
      · rw [get, if_neg same] at found
        exact List.mem_cons_of_mem _ (inductive_hypothesis found)

theorem get_eq_none {key : Key} {items : List (Key × Item)}
    (absent : ∀ entry ∈ items, entry.1 ≠ key) : get key items = none := by
  induction items with
  | nil => rfl
  | cons entry rest inductive_hypothesis =>
      have other : key ≠ entry.1 := (absent entry List.mem_cons_self).symm
      rw [get, if_neg other]
      exact inductive_hypothesis fun later member => absent later (List.mem_cons_of_mem _ member)

theorem get_of_mem {key : Key} {item : Item} {items : List (Key × Item)}
    (distinct : Distinct items) (member : (key, item) ∈ items) : get key items = some item := by
  induction items with
  | nil => contradiction
  | cons entry rest inductive_hypothesis =>
      obtain ⟨apart, rest_distinct⟩ := List.pairwise_cons.mp distinct
      rcases List.mem_cons.mp member with rfl | later
      · rw [get, if_pos rfl]
      · have other := apart _ later
        rw [get, if_neg other.symm]
        exact inductive_hypothesis rest_distinct later

theorem get_eq_some_iff {key : Key} {item : Item} {items : List (Key × Item)}
    (sorted : Sorted items) : get key items = some item ↔ (key, item) ∈ items :=
  ⟨mem_of_get, get_of_mem sorted.distinct⟩

theorem Sorted.nodup {items : List (Key × Item)} (sorted : Sorted items) : items.Nodup := by
  apply List.Pairwise.imp _ sorted
  intro first second below same
  exact below.ne (congrArg Prod.fst same)

/-- Two dictionaries of the same values are equal. -/
theorem ext {first second : List (Key × Item)} (first_sorted : Sorted first)
    (second_sorted : Sorted second) (same : ∀ key, get key first = get key second) :
    first = second := by
  have entries : ∀ entry, entry ∈ first ↔ entry ∈ second := by
    rintro ⟨key, item⟩
    rw [← get_eq_some_iff first_sorted, ← get_eq_some_iff second_sorted, same]
  have asymmetric : ∀ one other : Key × Item, one ∈ first → other ∈ second →
      one.1 < other.1 → other.1 < one.1 → one = other :=
    fun _ _ _ _ below above => absurd above below.not_gt
  have permuted := (List.perm_ext_iff_of_nodup first_sorted.nodup second_sorted.nodup).mpr entries
  exact permuted.eq_of_pairwise asymmetric first_sorted second_sorted

/-! ## Writing -/

theorem get_set (key other : Key) (item : Item) (items : List (Key × Item)) :
    get other (set key item items) = if other = key then some item else get other items := by
  induction items with
  | nil => rfl
  | cons entry rest inductive_hypothesis =>
      obtain ⟨name, value⟩ := entry
      by_cases below : key < name
      · rw [set, if_pos below, get]
      · by_cases same : key = name
        · subst same
          rw [set, if_neg below, if_pos rfl, get, get]
          by_cases asked : other = key
          · rw [if_pos asked, if_pos asked]
          · rw [if_neg asked, if_neg asked, if_neg asked]
        · rw [set, if_neg below, if_neg same, get, get, inductive_hypothesis]
          by_cases asked : other = name
          · have not_key : other ≠ key := fun is_key => same (is_key.symm.trans asked)
            rw [if_pos asked, if_neg not_key, if_pos asked]
          · rw [if_neg asked, if_neg asked]

theorem mem_set {key : Key} {item : Item} {entry : Key × Item} {items : List (Key × Item)}
    (member : entry ∈ set key item items) : entry = (key, item) ∨ entry ∈ items := by
  induction items with
  | nil => exact Or.inl (List.mem_singleton.mp member)
  | cons first rest inductive_hypothesis =>
      unfold set at member
      split at member
      · exact List.mem_cons.mp member
      · split at member
        · rcases List.mem_cons.mp member with same | later
          · exact Or.inl same
          · exact Or.inr (List.mem_cons_of_mem _ later)
        · rcases List.mem_cons.mp member with same | later
          · exact Or.inr (same ▸ List.mem_cons_self)
          · rcases inductive_hypothesis later with same | older
            · exact Or.inl same
            · exact Or.inr (List.mem_cons_of_mem _ older)

theorem mem_update {entry : Key × Item} {items more : List (Key × Item)}
    (member : entry ∈ update items more) : entry ∈ more ∨ entry ∈ items := by
  induction more generalizing items with
  | nil => exact Or.inr member
  | cons first rest inductive_hypothesis =>
      rcases inductive_hypothesis member with later | set_
      · exact Or.inl (List.mem_cons_of_mem _ later)
      · rcases mem_set set_ with same | older
        · exact Or.inl (same ▸ List.mem_cons_self)
        · exact Or.inr older

theorem mem_of_entries {entry : Key × Item} {entries : List (Key × Item)}
    (member : entry ∈ ofEntries entries) : entry ∈ entries :=
  (mem_update member).resolve_right List.not_mem_nil

theorem sorted_set (key : Key) (item : Item) {items : List (Key × Item)} (sorted : Sorted items) :
    Sorted (set key item items) := by
  induction items with
  | nil => exact List.pairwise_singleton _ _
  | cons entry rest inductive_hypothesis =>
      obtain ⟨name, value⟩ := entry
      obtain ⟨above, rest_sorted⟩ := List.pairwise_cons.mp sorted
      by_cases below : key < name
      · rw [set, if_pos below]
        apply List.pairwise_cons.mpr ⟨_, sorted⟩
        intro later member
        rcases List.mem_cons.mp member with rfl | member
        · exact below
        · exact below.trans (above later member)
      · by_cases same : key = name
        · subst same
          rw [set, if_neg below, if_pos rfl]
          exact List.pairwise_cons.mpr ⟨above, rest_sorted⟩
        · rw [set, if_neg below, if_neg same]
          apply List.pairwise_cons.mpr ⟨_, inductive_hypothesis rest_sorted⟩
          intro later member
          rcases mem_set member with rfl | member
          · exact lt_of_le_of_ne (not_lt.mp below) (Ne.symm same)
          · exact above later member

theorem sorted_update {items : List (Key × Item)} (more : List (Key × Item))
    (sorted : Sorted items) : Sorted (update items more) := by
  induction more generalizing items with
  | nil => exact sorted
  | cons entry rest inductive_hypothesis =>
      exact inductive_hypothesis (sorted_set entry.1 entry.2 sorted)

theorem sorted_of_entries (entries : List (Key × Item)) : Sorted (ofEntries entries) :=
  sorted_update entries List.Pairwise.nil

/-- The values of `more` come first. -/
theorem get_update {more : List (Key × Item)} (distinct : Distinct more) (key : Key)
    (items : List (Key × Item)) :
    get key (update items more) = (get key more).or (get key items) := by
  induction more generalizing items with
  | nil => rfl
  | cons entry rest inductive_hypothesis =>
      obtain ⟨name, value⟩ := entry
      obtain ⟨apart, rest_distinct⟩ := List.pairwise_cons.mp distinct
      have step : update items ((name, value) :: rest) = update (set name value items) rest := rfl
      rw [step, inductive_hypothesis rest_distinct, get_set, get]
      by_cases same : key = name
      · have absent : get key rest = none := by
          apply get_eq_none
          intro later member is_key
          exact apart later member (same.symm.trans is_key.symm)
        rw [if_pos same, if_pos same, absent]
        rfl
      · rw [if_neg same, if_neg same]

theorem get_of_entries {entries : List (Key × Item)} (distinct : Distinct entries) (key : Key) :
    get key (ofEntries entries) = get key entries := by
  rw [ofEntries, get_update distinct]
  exact Option.or_none

/-- A dictionary's own entries give it again. -/
theorem of_entries_sorted {items : List (Key × Item)} (sorted : Sorted items) :
    ofEntries items = items := by
  apply ext (sorted_of_entries items) sorted
  exact get_of_entries sorted.distinct

/-! ## Part of a dictionary -/

theorem Sorted.filter {items : List (Key × Item)} (keep : Key × Item → Bool)
    (sorted : Sorted items) : Sorted (items.filter keep) :=
  List.Pairwise.sublist List.filter_sublist sorted

theorem get_filter {items : List (Key × Item)} (sorted : Sorted items) (keep : Key → Bool)
    (key : Key) :
    get key (items.filter fun entry => keep entry.1) = if keep key then get key items else none := by
  apply Option.ext
  intro item
  rw [get_eq_some_iff (sorted.filter _), List.mem_filter]
  by_cases kept : keep key = true
  · simp only [kept, and_true, if_true]
    exact (get_eq_some_iff sorted).symm
  · simp [kept]

theorem Sorted.map {Other : Type} {items : List (Key × Item)} (change : Item → Other)
    (sorted : Sorted items) : Sorted (items.map fun entry => (entry.1, change entry.2)) :=
  List.Pairwise.map _ (fun _ _ below => below) sorted

theorem get_map {Other : Type} (change : Item → Other) (key : Key) (items : List (Key × Item)) :
    get key (items.map fun entry => (entry.1, change entry.2)) = (get key items).map change := by
  induction items with
  | nil => rfl
  | cons entry rest inductive_hypothesis =>
      rw [List.map_cons, get, get]
      by_cases same : key = entry.1
      · rw [if_pos same, if_pos same]
        rfl
      · rw [if_neg same, if_neg same]
        exact inductive_hypothesis

end HermesCashew.SortedDict
