import RealtimeChat.Foundation.Positions
import RealtimeChat.Foundation.Serial

/-! Sequence-keyed tables with a unique index.

The index may be partial: a row without an index value is not in it. An insert
that would repeat an index value is refused, so the rows in the index can be
told apart by it.
-/

set_option autoImplicit false

namespace RealtimeChat.Foundation

variable {Row Key : Type}

structure Indexed (key : Row → Int) (index : Row → Option Key) where
  serial : Serial key
  unique : (serial.table.rows.filterMap index).Nodup

namespace Indexed

variable {key : Row → Int} {index : Row → Option Key}

instance : Membership Row (Indexed key index) where
  mem table row := row ∈ table.serial

variable {table : Indexed key index} {row : Row} {matching : Row → Bool} {change : Row → Row} {value : Key}
  {build : Int → Row}

theorem mem_iff : row ∈ table ↔ row ∈ table.serial := Iff.rfl

def empty (key : Row → Int) (index : Row → Option Key) : Indexed key index := ⟨.empty key, List.nodup_nil⟩

theorem not_mem_empty : row ∉ empty key index := nofun

def rows (table : Indexed key index) : List Row := table.serial.table.rows

theorem mem_rows : row ∈ table.rows ↔ row ∈ table := Iff.rfl

def next (table : Indexed key index) : Int := table.serial.next

def find (table : Indexed key index) (id : Int) : Option Row := table.serial.find id

def updateWhere (table : Indexed key index) (matching : Row → Bool) (change : Row → Row)
    (keeps : ∀ row, key (change row) = key row) (keepsIndex : ∀ row, index (change row) = index row) :
    Indexed key index where
  serial := table.serial.updateWhere matching change keeps
  unique := by
    have same : (index ∘ fun row => if matching row then change row else row) = index := by
      funext row
      simp only [Function.comp_apply]
      split
      · exact keepsIndex row
      · rfl
    have rows : (table.serial.updateWhere matching change keeps).table.rows.filterMap index =
        table.serial.table.rows.filterMap index := by
      simp only [Serial.updateWhere, Table.updateWhere, List.filterMap_map, same]
    rw [rows]
    exact table.unique

def deleteWhere (table : Indexed key index) (matching : Row → Bool) : Indexed key index where
  serial := table.serial.deleteWhere matching
  unique := table.unique.sublist (List.filter_sublist.filterMap index)

variable {keeps : ∀ row, key (change row) = key row} {keepsIndex : ∀ row, index (change row) = index row}
  {keyed : ∀ id, key (build id) = id} {indexed : ∀ id, index (build id) = some value}

theorem mem_updateWhere :
    row ∈ table.updateWhere matching change keeps keepsIndex ↔
      ∃ old ∈ table, row = if matching old then change old else old := Serial.mem_updateWhere

theorem mem_deleteWhere :
    row ∈ table.deleteWhere matching ↔ row ∈ table ∧ matching row = false := Serial.mem_deleteWhere

theorem exists_mem_deleteWhere {property : Row → Prop} {kept : Prop}
    (decides : ∀ row, property row → (matching row = false ↔ kept)) :
    (∃ row ∈ table.deleteWhere matching, property row) ↔ (∃ row ∈ table, property row) ∧ kept := by
  simp only [mem_deleteWhere]
  constructor
  · rintro ⟨row, ⟨member, outside⟩, holds⟩
    exact ⟨⟨row, member, holds⟩, (decides row holds).mp outside⟩
  · rintro ⟨⟨row, member, holds⟩, remains⟩
    exact ⟨row, ⟨member, (decides row holds).mpr remains⟩, holds⟩

theorem find_eq_some {id : Int} : table.find id = some row ↔ row ∈ table ∧ key row = id := Serial.find_eq_some

theorem lt_next (member : row ∈ table) : key row < table.next :=
  Serial.lt_next member

theorem eq_of_index {first second : Row} (one : first ∈ table) (two : second ∈ table)
    (indexed : index first = some value) (same : index second = some value) : first = second :=
  eq_of_nodup_filterMap index table.unique one two indexed same

variable [DecidableEq Key]

def lookup (table : Indexed key index) (value : Key) : Option Row :=
  table.rows.find? fun row => index row = some value

theorem lookup_eq_some (found : table.lookup value = some row) : row ∈ table ∧ index row = some value :=
  ⟨List.mem_of_find?_eq_some found, by simpa using List.find?_some found⟩

theorem lookup_eq_none : table.lookup value = none ↔ ∀ row ∈ table, index row ≠ some value := by
  simp only [lookup, List.find?_eq_none, mem_rows, decide_eq_true_eq, ne_eq]

theorem lookup_of_mem (member : row ∈ table) (indexed : index row = some value) : table.lookup value = some row := by
  cases found : table.lookup value with
  | none => exact absurd indexed (lookup_eq_none.mp found row member)
  | some other => rw [eq_of_index (lookup_eq_some found).1 member (lookup_eq_some found).2 indexed]

def append (table : Indexed key index) (build : Int → Row) (keyed : ∀ id, key (build id) = id)
    (free : ∀ value, index (build table.next) = some value → table.lookup value = none) : Indexed key index where
  serial := table.serial.append build keyed
  unique := by
    simp only [Serial.append, List.filterMap_append, List.filterMap_cons, List.filterMap_nil]
    cases found : index (build table.serial.next) with
    | none => simpa using table.unique
    | some value =>
      refine List.nodup_append.mpr ⟨table.unique, List.nodup_singleton _, fun other member last single => ?_⟩
      rintro rfl
      obtain ⟨row, listed, same⟩ := List.mem_filterMap.mp member
      rw [List.mem_singleton.mp single] at same
      exact lookup_eq_none.mp (free value found) row listed same

theorem mem_append {free : ∀ value, index (build table.next) = some value → table.lookup value = none} :
    row ∈ table.append build keyed free ↔ row ∈ table ∨ row = build table.next :=
  @Serial.mem_append _ _ table.serial row build keyed

/-- `INSERT`; `none` is the violation of the unique index. -/
def insert (table : Indexed key index) (value : Key) (build : Int → Row) (keyed : ∀ id, key (build id) = id)
    (indexed : ∀ id, index (build id) = some value) : Option (Indexed key index) :=
  match found : table.lookup value with
  | some _ => none
  | none => some (table.append build keyed fun other shown => by
      rw [← Option.some.inj ((indexed _).symm.trans shown)]
      exact found)

/-- `INSERT ... ON CONFLICT DO UPDATE ... RETURNING`. -/
def upsert (table : Indexed key index) (value : Key) (build : Int → Row) (keyed : ∀ id, key (build id) = id)
    (indexed : ∀ id, index (build id) = some value) (change : Row → Row)
    (keeps : ∀ row, key (change row) = key row) (keepsIndex : ∀ row, index (change row) = index row) :
    Indexed key index × Row :=
  match found : table.lookup value with
  | some row => (table.updateWhere (fun row => index row = some value) change keeps keepsIndex, change row)
  | none => (table.append build keyed fun other shown => by
      rw [← Option.some.inj ((indexed _).symm.trans shown)]
      exact found, build table.next)

theorem insert_eq_none : table.insert value build keyed indexed = none ↔ ∃ row ∈ table, index row = some value := by
  unfold insert
  split
  · next row found => exact iff_of_true rfl ⟨row, (lookup_eq_some found).1, (lookup_eq_some found).2⟩
  · next absent =>
    refine iff_of_false (by simp) ?_
    rintro ⟨row, member, same⟩
    exact lookup_eq_none.mp absent row member same

theorem insert_eq_some {next : Indexed key index} (inserted : table.insert value build keyed indexed = some next) :
    next.serial = table.serial.append build keyed := by
  unfold insert at inserted
  split at inserted <;> cases inserted
  rfl

theorem mem_insert {next : Indexed key index} (inserted : table.insert value build keyed indexed = some next) :
    row ∈ next ↔ row ∈ table ∨ row = build table.next := by
  rw [mem_iff, insert_eq_some inserted]
  exact Serial.mem_append

theorem upsert_of_some (found : table.lookup value = some row) :
    table.upsert value build keyed indexed change keeps keepsIndex =
      (table.updateWhere (fun row => index row = some value) change keeps keepsIndex, change row) := by
  unfold upsert
  split
  · next other same => rw [Option.some.inj (same.symm.trans found)]
  · next absent => rw [absent] at found; cases found

theorem upsert_of_none (absent : table.lookup value = none) :
    (table.upsert value build keyed indexed change keeps keepsIndex).1.serial = table.serial.append build keyed ∧
      (table.upsert value build keyed indexed change keeps keepsIndex).2 = build table.next := by
  unfold upsert
  split
  · next row found => rw [found] at absent; cases absent
  · exact ⟨rfl, rfl⟩

end Indexed

end RealtimeChat.Foundation
