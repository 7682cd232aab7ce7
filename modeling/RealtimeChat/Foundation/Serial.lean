import RealtimeChat.Foundation.Table
import Mathlib.Data.Int.Order.Basic

/-! Tables whose key is drawn from a sequence.

The sequence only grows, so a new row never takes the key of another row, not
even of one that has been deleted.
-/

set_option autoImplicit false

namespace RealtimeChat.Foundation

variable {Row : Type}

structure Serial (key : Row → Int) where
  table : Table key
  last : Nat
  bounded : ∀ row ∈ table, key row ≤ last

namespace Serial

variable {key : Row → Int}

instance [DecidableEq Row] : DecidableEq (Serial key) := fun first second =>
  decidable_of_iff (first.table = second.table ∧ first.last = second.last)
    (by cases first; cases second; simp)

instance : Membership Row (Serial key) where
  mem serial row := row ∈ serial.table

variable {serial : Serial key} {row : Row} {matching : Row → Bool}

theorem mem_iff : row ∈ serial ↔ row ∈ serial.table := Iff.rfl

def empty (key : Row → Int) : Serial key := ⟨Table.empty key, 0, fun _ member => nomatch member⟩

theorem not_mem_empty : row ∉ empty key := List.not_mem_nil

def next (serial : Serial key) : Int := serial.last + 1

theorem lt_next (member : row ∈ serial) : key row < serial.next :=
  Int.lt_add_one_of_le (serial.bounded row member)

theorem next_le_next {first second : Serial key} (grown : first.last ≤ second.last) :
    first.next ≤ second.next := by
  simp only [next]
  omega

/-- An insert of the row that `build` makes from the next key. -/
def append (serial : Serial key) (build : Int → Row) (keyed : ∀ id, key (build id) = id) : Serial key where
  table := ⟨serial.table.rows ++ [build serial.next], by
    rw [List.map_append, List.map_singleton, keyed]
    refine List.nodup_append.mpr ⟨serial.table.unique, List.nodup_singleton _, ?_⟩
    intro id member last isNext same
    obtain ⟨row, rowMember, rfl⟩ := List.mem_map.mp member
    rw [List.mem_singleton.mp isNext] at same
    exact ne_of_lt (lt_next rowMember) same⟩
  last := serial.last + 1
  bounded := by
    intro row member
    rcases List.mem_append.mp member with old | new
    · exact le_of_lt (lt_next old)
    · rw [List.mem_singleton.mp new, keyed]
      exact le_refl _

def updateWhere (serial : Serial key) (matching : Row → Bool) (change : Row → Row)
    (keeps : ∀ row, key (change row) = key row) : Serial key where
  table := serial.table.updateWhere matching change keeps
  last := serial.last
  bounded := by
    intro row member
    obtain ⟨old, oldMember, rfl⟩ := Table.mem_updateWhere.mp member
    split
    · rw [keeps]
      exact serial.bounded old oldMember
    · exact serial.bounded old oldMember

def deleteWhere (serial : Serial key) (matching : Row → Bool) : Serial key where
  table := serial.table.deleteWhere matching
  last := serial.last
  bounded := fun row member => serial.bounded row (Table.mem_deleteWhere.mp member).1

def find (serial : Serial key) (id : Int) : Option Row := serial.table.find id

theorem mem_append {build : Int → Row} {keyed : ∀ id, key (build id) = id} :
    row ∈ serial.append build keyed ↔ row ∈ serial ∨ row = build serial.next := by
  simp [mem_iff, Table.mem_iff, append]

theorem find_eq_some {id : Int} : serial.find id = some row ↔ row ∈ serial ∧ key row = id := Table.find_eq_some

theorem find_updateWhere (serial : Serial key) (matching : Row → Bool) (change : Row → Row)
    (keeps : ∀ row, key (change row) = key row) (id : Int) :
    (serial.updateWhere matching change keeps).find id =
      (serial.find id).map fun row => if matching row then change row else row :=
  Table.find_updateWhere serial.table matching change keeps id

theorem find_append (serial : Serial key) (build : Int → Row) (keyed : ∀ id, key (build id) = id) (id : Int) :
    (serial.append build keyed).find id = if id = serial.next then some (build serial.next) else serial.find id := by
  split
  · next same => exact find_eq_some.mpr ⟨mem_append.mpr (Or.inr rfl), (keyed _).trans same.symm⟩
  · next different =>
    simp only [find, Table.find, append, List.find?_append, List.find?_singleton, keyed]
    simp [Ne.symm different]

theorem find_updateKey (serial : Serial key) (id : Int) (change : Row → Row)
    (keeps : ∀ row, key (change row) = key row) (other : Int) :
    (serial.updateWhere (fun row => key row = id) change keeps).find other =
      if other = id then (serial.find id).map change else serial.find other := by
  rw [find_updateWhere]
  split
  · next same =>
    subst same
    refine Option.map_congr fun row found => ?_
    simp [(find_eq_some.mp found).2]
  · next different =>
    cases found : serial.find other with
    | none => rfl
    | some row => simp [(find_eq_some.mp found).2, different]

theorem mem_updateWhere {change : Row → Row} {keeps : ∀ row, key (change row) = key row} :
    row ∈ serial.updateWhere matching change keeps ↔
      ∃ old ∈ serial, row = if matching old then change old else old :=
  @Table.mem_updateWhere _ _ _ serial.table row matching change keeps

theorem map_key_updateWhere (serial : Serial key) (matching : Row → Bool) (change : Row → Row)
    (keeps : ∀ row, key (change row) = key row) :
    (serial.updateWhere matching change keeps).table.rows.map key = serial.table.rows.map key := by
  simp only [updateWhere, Table.updateWhere, List.map_map]
  refine List.map_congr_left fun row _ => ?_
  rw [Function.comp_apply]
  split
  · exact keeps row
  · rfl

theorem mem_deleteWhere :
    row ∈ serial.deleteWhere matching ↔ row ∈ serial ∧ matching row = false := Table.mem_deleteWhere

end Serial

end RealtimeChat.Foundation
