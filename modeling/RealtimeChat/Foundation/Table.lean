import Mathlib.Data.List.Nodup
import Mathlib.Data.List.Basic

/-! Tables with a unique key.

The rows stand in insertion order and no two of them share a key, as a primary
key or a unique index enforces. `UPDATE ... WHERE`, `DELETE ... WHERE` and
`INSERT` are total functions on such tables; an insert that would repeat a key
is refused. Every later fact about a table is stated through `find`.
-/

set_option autoImplicit false

namespace RealtimeChat.Foundation

variable {Row Key : Type}

structure Table (key : Row → Key) where
  rows : List Row
  unique : (rows.map key).Nodup

namespace Table

variable {key : Row → Key}

instance [DecidableEq Row] : DecidableEq (Table key) := fun first second =>
  decidable_of_iff (first.rows = second.rows) (by cases first; cases second; simp)

instance : Membership Row (Table key) where
  mem table row := row ∈ table.rows

variable {table next : Table key} {row : Row} {matching : Row → Bool} {wanted : Key}

theorem mem_iff : row ∈ table ↔ row ∈ table.rows := Iff.rfl

theorem eq_of_key {first second : Row} (left : first ∈ table) (right : second ∈ table) (same : key first = key second) :
    first = second :=
  List.inj_on_of_nodup_map table.unique left right same

def empty (key : Row → Key) : Table key := ⟨[], List.nodup_nil⟩

/-- The rows a `WHERE` clause selects. -/
def select (table : Table key) (matching : Row → Bool) : List Row := table.rows.filter matching

def affected (table : Table key) (matching : Row → Bool) : Nat := table.rows.countP matching

def updateWhere (table : Table key) (matching : Row → Bool) (change : Row → Row)
    (keeps : ∀ row, key (change row) = key row) : Table key where
  rows := table.rows.map fun row => if matching row then change row else row
  unique := by
    have same : (key ∘ fun row => if matching row then change row else row) = key := by
      funext row
      simp only [Function.comp_apply]
      split
      · exact keeps row
      · rfl
    rw [List.map_map, same]
    exact table.unique

def deleteWhere (table : Table key) (matching : Row → Bool) : Table key where
  rows := table.rows.filter fun row => !matching row
  unique := table.unique.sublist (List.filter_sublist.map key)

theorem mem_updateWhere {change : Row → Row} {keeps : ∀ row, key (change row) = key row} :
    row ∈ table.updateWhere matching change keeps ↔
      ∃ old ∈ table, row = if matching old then change old else old := by
  simp only [mem_iff, updateWhere, List.mem_map]
  exact ⟨fun ⟨old, member, same⟩ => ⟨old, member, same.symm⟩,
    fun ⟨old, member, same⟩ => ⟨old, member, same.symm⟩⟩

theorem mem_deleteWhere : row ∈ table.deleteWhere matching ↔ row ∈ table ∧ matching row = false := by
  simp [mem_iff, deleteWhere]

theorem affected_deleteWhere (table : Table key) (matching counted : Row → Bool) :
    (table.deleteWhere matching).affected counted + table.affected (fun row => counted row && matching row) =
      table.affected counted := by
  rw [affected, affected, affected, List.countP_eq_countP_filter_add table.rows counted matching, List.countP_filter,
    deleteWhere, Nat.add_comm]

/-- Rows that stop being counted when they are changed. -/
theorem affected_updateWhere (table : Table key) (matching : Row → Bool) (change : Row → Row)
    (keeps : ∀ row, key (change row) = key row) (counted : Row → Bool) (stops : ∀ row, counted (change row) = false) :
    (table.updateWhere matching change keeps).affected counted +
      table.affected (fun row => counted row && matching row) = table.affected counted := by
  simp only [affected, updateWhere]
  induction table.rows with
  | nil => rfl
  | cons row rest ih =>
    cases hit : matching row <;> simp [hit, stops, List.countP_cons] at ih ⊢ <;> omega

variable [DecidableEq Key]

theorem affected_key_le_one (table : Table key) (wanted : Key)
    {matching : Row → Bool} (keyed : ∀ row, matching row → key row = wanted) : table.affected matching ≤ 1 := by
  have once := List.nodup_iff_count_le_one.mp table.unique wanted
  rw [List.count, List.countP_map] at once
  exact Nat.le_trans (List.countP_mono_left fun row _ hit => beq_iff_eq.mpr (keyed row hit)) once

def find (table : Table key) (wanted : Key) : Option Row :=
  table.rows.find? fun row => key row = wanted

/-- `none` is the unique violation the database reports. -/
def insert (table : Table key) (row : Row) : Option (Table key) :=
  if fresh : key row ∈ table.rows.map key then none
  else some ⟨table.rows ++ [row], by
    rw [List.map_append, List.map_singleton]
    exact List.nodup_append.mpr ⟨table.unique, List.nodup_singleton _, fun first member second last => by
      rw [List.mem_singleton] at last
      intro same
      exact fresh (last ▸ same ▸ member)⟩⟩

theorem find_eq_some : table.find wanted = some row ↔ row ∈ table ∧ key row = wanted := by
  constructor
  · intro found
    exact ⟨List.mem_of_find?_eq_some found, by simpa using List.find?_some found⟩
  · rintro ⟨member, same⟩
    cases found : table.find wanted with
    | none =>
      have absent := List.find?_eq_none.mp found row member
      simp [same] at absent
    | some other =>
      have otherMember : other ∈ table := List.mem_of_find?_eq_some found
      have otherKey : key other = wanted := by simpa using List.find?_some found
      rw [eq_of_key otherMember member (otherKey.trans same.symm)]

theorem find_eq_none : table.find wanted = none ↔ ∀ row ∈ table, key row ≠ wanted := by
  simp [find, mem_iff]

theorem mem_of_find (found : table.find wanted = some row) : row ∈ table :=
  (find_eq_some.mp found).1

theorem find_updateWhere (table : Table key) (matching : Row → Bool) (change : Row → Row)
    (keeps : ∀ row, key (change row) = key row) (wanted : Key) :
    (table.updateWhere matching change keeps).find wanted =
      (table.find wanted).map fun row => if matching row then change row else row := by
  cases found : table.find wanted with
  | none =>
    rw [Option.map_none, find_eq_none]
    intro row member
    obtain ⟨old, oldMember, rfl⟩ := mem_updateWhere.mp member
    have absent := find_eq_none.mp found old oldMember
    split
    · rwa [keeps]
    · exact absent
  | some row =>
    obtain ⟨member, same⟩ := find_eq_some.mp found
    rw [Option.map_some, find_eq_some]
    refine ⟨mem_updateWhere.mpr ⟨row, member, rfl⟩, ?_⟩
    split
    · rwa [keeps]
    · exact same

theorem insert_eq_some (inserted : table.insert row = some next) :
    (∀ old ∈ table, key old ≠ key row) ∧ next.rows = table.rows ++ [row] := by
  unfold insert at inserted
  split at inserted
  · cases inserted
  · next fresh =>
    cases inserted
    refine ⟨fun old member same => fresh ?_, rfl⟩
    rw [← same]
    exact List.mem_map_of_mem member

theorem insert_eq_none : table.insert row = none ↔ ∃ old ∈ table, key old = key row := by
  simp [insert, mem_iff]

theorem mem_insert {other : Row} (inserted : table.insert row = some next) :
    other ∈ next ↔ other ∈ table ∨ other = row := by
  rw [mem_iff, (insert_eq_some inserted).2, List.mem_append, List.mem_singleton]
  exact Iff.rfl

end Table

end RealtimeChat.Foundation
