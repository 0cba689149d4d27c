import Mathlib.Data.List.Nodup

/-!
# Tables with a primary key

The rows of a table in their order, no two with one key, and the statements that write to
it. What a statement does is told by the row that each key has afterwards.
-/

namespace HermesCashew.KeyedTable

set_option autoImplicit false

variable {Key Row : Type} {key : Row → Key}

@[ext] structure Table (Key Row : Type) (key : Row → Key) where
  rows : List Row
  distinct : (rows.map key).Nodup

namespace Table

def empty : Table Key Row key := ⟨[], List.nodup_nil⟩

theorem unique (table : Table Key Row key) {first second : Row} (one : first ∈ table.rows)
    (other : second ∈ table.rows) (same : key first = key second) : first = second :=
  List.inj_on_of_nodup_map table.distinct one other same

/-- `DELETE`. -/
def delete (table : Table Key Row key) (doomed : Row → Bool) : Table Key Row key :=
  ⟨table.rows.filter fun row => !doomed row,
    table.distinct.sublist ((List.filter_sublist).map key)⟩

/-- `UPDATE`, of columns outside the key. -/
def update (table : Table Key Row key) (chosen : Row → Bool) (change : Row → Row)
    (keeps : ∀ row, key (change row) = key row) : Table Key Row key where
  rows := table.rows.map fun row => if chosen row then change row else row
  distinct := by
    have keys : key ∘ (fun row => if chosen row then change row else row) = key := by
      funext row
      dsimp only [Function.comp_apply]
      split
      · exact keeps row
      · rfl
    rw [List.map_map, keys]
    exact table.distinct

theorem mem_delete {table : Table Key Row key} {doomed : Row → Bool} {row : Row} :
    row ∈ (table.delete doomed).rows ↔ row ∈ table.rows ∧ doomed row = false := by
  rw [delete, List.mem_filter, Bool.not_eq_true']

theorem mem_update {table : Table Key Row key} {chosen : Row → Bool} {change : Row → Row}
    {keeps : ∀ row, key (change row) = key row} {row : Row} :
    row ∈ (table.update chosen change keeps).rows ↔
      ∃ before ∈ table.rows, (if chosen before then change before else before) = row := by
  rw [update, List.mem_map]

variable [DecidableEq Key]

/-- The row of a key. -/
def find (table : Table Key Row key) (name : Key) : Option Row :=
  table.rows.find? fun row => decide (key row = name)

/-- `INSERT OR IGNORE`. -/
def insertOrIgnore (table : Table Key Row key) (row : Row) : Table Key Row key :=
  if taken : key row ∈ table.rows.map key then table
  else ⟨table.rows ++ [row], by
    rw [List.map_append, List.nodup_append_comm, List.map_singleton, List.singleton_append]
    exact List.nodup_cons.mpr ⟨taken, table.distinct⟩⟩

/-- `INSERT OR REPLACE`. -/
def insertOrReplace (table : Table Key Row key) (row : Row) : Table Key Row key :=
  (table.delete fun old => decide (key old = key row)).insertOrIgnore row

theorem find_eq_some {table : Table Key Row key} {name : Key} {row : Row} :
    table.find name = some row ↔ row ∈ table.rows ∧ key row = name := by
  constructor
  · intro found
    exact ⟨List.mem_of_find?_eq_some found, of_decide_eq_true (List.find?_some found :)⟩
  · rintro ⟨member, rfl⟩
    rw [find]
    cases found : table.rows.find? fun other => decide (key other = key row) with
    | none =>
        have absent := List.find?_eq_none.mp found row member
        simp at absent
    | some other =>
        have same : key other = key row := of_decide_eq_true (List.find?_some found :)
        rw [table.unique (List.mem_of_find?_eq_some found) member same]

theorem find_of_mem {table : Table Key Row key} {row : Row} (member : row ∈ table.rows) :
    table.find (key row) = some row :=
  find_eq_some.mpr ⟨member, rfl⟩

theorem find_eq_none {table : Table Key Row key} {name : Key} :
    table.find name = none ↔ name ∉ table.rows.map key := by
  rw [find, List.find?_eq_none]
  simp

@[simp] theorem find_delete (table : Table Key Row key) (doomed : Row → Bool) (name : Key) :
    (table.delete doomed).find name = (table.find name).filter fun row => !doomed row := by
  apply Option.ext
  intro row
  rw [Option.filter_eq_some_iff, find_eq_some, find_eq_some, mem_delete, Bool.not_eq_true']
  tauto

@[simp] theorem find_update (table : Table Key Row key) (chosen : Row → Bool)
    (change : Row → Row) (keeps : ∀ row, key (change row) = key row) (name : Key) :
    (table.update chosen change keeps).find name =
      (table.find name).map fun row => if chosen row then change row else row := by
  apply Option.ext
  intro row
  rw [Option.map_eq_some_iff, find_eq_some, mem_update]
  have named : ∀ before, key (if chosen before then change before else before) = key before := by
    intro before
    split
    · exact keeps before
    · rfl
  constructor
  · rintro ⟨⟨before, member, rfl⟩, rfl⟩
    exact ⟨before, find_eq_some.mpr ⟨member, (named before).symm⟩, rfl⟩
  · rintro ⟨before, found, rfl⟩
    obtain ⟨member, rfl⟩ := find_eq_some.mp found
    exact ⟨⟨before, member, rfl⟩, named before⟩

@[simp] theorem find_insert_or_ignore (table : Table Key Row key) (row : Row) (name : Key) :
    (table.insertOrIgnore row).find name =
      if key row = name then some ((table.find name).getD row) else table.find name := by
  by_cases taken : key row ∈ table.rows.map key
  · rw [insertOrIgnore, dif_pos taken]
    split
    · rename_i same
      subst same
      cases found : table.find (key row) with
      | none => exact absurd taken (find_eq_none.mp found)
      | some old => rfl
    · rfl
  · rw [insertOrIgnore, dif_neg taken, find, find, List.find?_append]
    split
    · rename_i same
      subst same
      have absent : table.find (key row) = none := find_eq_none.mpr taken
      rw [find] at absent
      rw [absent]
      simp
    · rename_i other
      simp [other]

@[simp] theorem find_insert_or_replace (table : Table Key Row key) (row : Row) (name : Key) :
    (table.insertOrReplace row).find name =
      if key row = name then some row else table.find name := by
  rw [insertOrReplace, find_insert_or_ignore, find_delete]
  split
  · rename_i same
    have gone : (table.find name).filter (fun old => !decide (key old = key row)) = none := by
      rw [Option.filter_eq_none_iff]
      intro old found
      have named := (find_eq_some.mp found).2
      simp [named, same]
    rw [gone, Option.getD_none]
  · rename_i other
    cases found : table.find name with
    | none => rfl
    | some old =>
        have named := (find_eq_some.mp found).2
        rw [Option.filter_some, named]
        simp [Ne.symm other]

/-- A key is in the table when it has a row. -/
def has (table : Table Key Row key) (name : Key) : Prop := (table.find name).isSome = true

theorem has_iff {table : Table Key Row key} {name : Key} :
    table.has name ↔ name ∈ table.rows.map key := by
  rw [has, Option.isSome_iff_ne_none, ne_eq, find_eq_none, not_not]

@[simp] theorem has_update (table : Table Key Row key) (chosen : Row → Bool)
    (change : Row → Row) (keeps : ∀ row, key (change row) = key row) (name : Key) :
    (table.update chosen change keeps).has name ↔ table.has name := by
  rw [has, has, find_update, Option.isSome_map]

@[simp] theorem has_insert_or_ignore (table : Table Key Row key) (row : Row) (name : Key) :
    (table.insertOrIgnore row).has name ↔ key row = name ∨ table.has name := by
  rw [has, has, find_insert_or_ignore]
  split
  · rename_i same
    simp [same]
  · rename_i other
    simp [other]

@[simp] theorem has_insert_or_replace (table : Table Key Row key) (row : Row) (name : Key) :
    (table.insertOrReplace row).has name ↔ key row = name ∨ table.has name := by
  rw [has, has, find_insert_or_replace]
  split
  · rename_i same
    simp [same]
  · rename_i other
    simp [other]

end Table

end HermesCashew.KeyedTable
