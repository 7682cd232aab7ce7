import Mathlib.Algebra.GroupWithZero.Nat
import Mathlib.Algebra.Order.BigOperators.Group.List
import Mathlib.Algebra.Order.Group.Nat
import Mathlib.Data.List.Nodup

/-! Lists of assignments to names.

A name may be assigned to more than once, and the last assignment counts. Rows
that are all found in a list take no more room than the list does.
-/

set_option autoImplicit false

namespace RealtimeChat.Foundation

variable {Row Name : Type}

section Last

variable [DecidableEq Name] {name : Row → Name} {rows others : List Row} {row : Row} {wanted : Name}

def lastOf (name : Row → Name) (rows : List Row) (wanted : Name) : Option Row :=
  rows.reverse.find? fun row => name row = wanted

theorem mem_of_lastOf (found : lastOf name rows wanted = some row) : row ∈ rows ∧ name row = wanted :=
  ⟨List.mem_reverse.mp (List.mem_of_find?_eq_some found), by simpa using List.find?_some found⟩

theorem lastOf_of_mem (distinct : (rows.map name).Nodup) (member : row ∈ rows) :
    lastOf name rows (name row) = some row := by
  cases found : lastOf name rows (name row) with
  | none => simpa using List.find?_eq_none.mp found row (List.mem_reverse.mpr member)
  | some other =>
    obtain ⟨there, same⟩ := mem_of_lastOf found
    rw [List.inj_on_of_nodup_map distinct there member same]

theorem lastOf_append_of_some (rows : List Row) (found : lastOf name others wanted = some row) :
    lastOf name (rows ++ others) wanted = some row := by
  rw [lastOf, List.reverse_append, List.find?_append]
  exact congrArg (Option.or · _) found

theorem lastOf_map {Other : Type} (change : Other → Row) (others : List Other) :
    lastOf name (others.map change) wanted = (lastOf (name ∘ change) others wanted).map change := by
  rw [lastOf, ← List.map_reverse, List.find?_map]
  rfl

end Last

theorem sum_map_le_of_subset (weight : Row → Nat) {rows others : List Row} (distinct : rows.Nodup)
    (included : rows ⊆ others) : (rows.map weight).sum ≤ (others.map weight).sum := by
  obtain ⟨part, perm, sublist⟩ := List.subperm_of_subset distinct included
  calc (rows.map weight).sum = (part.map weight).sum := (perm.map weight).sum_eq.symm
    _ ≤ (others.map weight).sum := (sublist.map weight).sum_le_sum fun _ _ => Nat.zero_le _

end RealtimeChat.Foundation
