import Mathlib.Data.List.AList
import Mathlib.Data.List.Nodup

/-! Maps from a key to a set of values.

A group is a list without repetition, in the order of insertion. A group may be
empty: `touch` leaves one behind, as an indexed access to a hash map does, while
`remove` drops the group it empties. What a client can see of a map is `values`.
-/

set_option autoImplicit false

namespace RealtimeChat.Foundation

structure Multimap (K V : Type) [DecidableEq K] where
  groups : AList (fun _ : K => List V)
  distinct : ∀ key values, groups.lookup key = some values → values.Nodup

namespace Multimap

variable {K V : Type} [DecidableEq K]

def empty : Multimap K V := ⟨∅, fun _ _ found => by simp at found⟩

def values (map : Multimap K V) (key : K) : List V := (map.groups.lookup key).getD []

theorem nodup_values (map : Multimap K V) (key : K) : (map.values key).Nodup := by
  unfold values
  cases found : map.groups.lookup key with
  | none => exact List.nodup_nil
  | some group => exact map.distinct key group found

def put (map : Multimap K V) (key : K) (group : List V) (nodup : group.Nodup) : Multimap K V where
  groups := map.groups.insert key group
  distinct := by
    intro other values found
    by_cases same : other = key
    · subst same
      rw [AList.lookup_insert] at found
      exact Option.some.inj found ▸ nodup
    · rw [AList.lookup_insert_ne same] at found
      exact map.distinct other values found

def drop (map : Multimap K V) (key : K) : Multimap K V where
  groups := map.groups.erase key
  distinct := by
    intro other values found
    by_cases same : other = key
    · subst same
      rw [AList.lookup_erase] at found
      cases found
    · rw [AList.lookup_erase_ne same] at found
      exact map.distinct other values found

def touch (map : Multimap K V) (key : K) : Multimap K V :=
  map.put key (map.values key) (map.nodup_values key)

variable [DecidableEq V]

def add (map : Multimap K V) (key : K) (value : V) : Multimap K V :=
  map.put key ((map.values key).insert value) ((map.nodup_values key).insert)

def remove (map : Multimap K V) (key : K) (value : V) : Multimap K V :=
  if key ∈ map.groups then
    if ((map.values key).erase value).isEmpty then map.drop key
    else map.put key ((map.values key).erase value) ((map.nodup_values key).erase value)
  else map

omit [DecidableEq V] in
@[simp] theorem values_empty (key : K) : (empty : Multimap K V).values key = [] := by
  simp [values, empty]

omit [DecidableEq V] in
theorem values_put (map : Multimap K V) (key other : K) (group : List V) (nodup : group.Nodup) :
    (map.put key group nodup).values other = if other = key then group else map.values other := by
  by_cases same : other = key
  · subst same
    simp [values, put]
  · simp [values, put, AList.lookup_insert_ne same, same]

omit [DecidableEq V] in
theorem values_drop (map : Multimap K V) (key other : K) :
    (map.drop key).values other = if other = key then [] else map.values other := by
  by_cases same : other = key
  · subst same
    simp [values, drop]
  · simp [values, drop, AList.lookup_erase_ne same, same]

omit [DecidableEq V] in
@[simp] theorem values_touch (map : Multimap K V) (key other : K) :
    (map.touch key).values other = map.values other := by
  rw [touch, values_put]
  split
  · next same => rw [same]
  · rfl

variable {map : Multimap K V} {key other : K} {value entry : V}

theorem mem_values_add :
    entry ∈ (map.add key value).values other ↔
      (other = key ∧ entry = value) ∨ entry ∈ map.values other := by
  rw [add, values_put]
  split
  · next same =>
    subst same
    simp [List.mem_insert_iff]
  · next different => simp [different]

theorem values_remove (map : Multimap K V) (key other : K) (value : V) :
    (map.remove key value).values other =
      if other = key then (map.values key).erase value else map.values other := by
  unfold remove
  split
  · split
    · next emptied =>
      rw [values_drop]
      split
      · exact (List.isEmpty_iff.mp emptied).symm
      · rfl
    · exact values_put ..
  · next absent =>
    split
    · next same =>
      subst same
      have none : map.groups.lookup other = none := AList.lookup_eq_none.mpr absent
      simp [values, none]
    · rfl

theorem mem_values_remove :
    entry ∈ (map.remove key value).values other ↔
      entry ∈ map.values other ∧ ¬ (other = key ∧ entry = value) := by
  rw [values_remove]
  split
  · next same =>
    subst same
    rw [(map.nodup_values other).mem_erase_iff]
    simp [and_comm]
  · next different => simp [different]

def Occupied (map : Multimap K V) : Prop := ∀ key group, map.groups.lookup key = some group → group ≠ []

omit [DecidableEq V] in
theorem occupied_empty : (empty : Multimap K V).Occupied := by
  intro key group found
  simp [empty] at found

omit [DecidableEq V] in
theorem Occupied.put (occupied : map.Occupied) (key : K) {group : List V} (nodup : group.Nodup)
    (nonempty : group ≠ []) : (map.put key group nodup).Occupied := by
  intro other values found
  by_cases same : other = key
  · subst same
    rw [Multimap.put, AList.lookup_insert] at found
    exact Option.some.inj found ▸ nonempty
  · rw [Multimap.put, AList.lookup_insert_ne same] at found
    exact occupied other values found

omit [DecidableEq V] in
theorem Occupied.drop (occupied : map.Occupied) (key : K) : (map.drop key).Occupied := by
  intro other values found
  by_cases same : other = key
  · subst same
    rw [Multimap.drop, AList.lookup_erase] at found
    cases found
  · rw [Multimap.drop, AList.lookup_erase_ne same] at found
    exact occupied other values found

theorem Occupied.add (occupied : map.Occupied) (key : K) (value : V) : (map.add key value).Occupied :=
  occupied.put key _ (List.ne_nil_of_mem (List.mem_insert_self (l := map.values key)))

theorem Occupied.remove (occupied : map.Occupied) (key : K) (value : V) : (map.remove key value).Occupied := by
  unfold Multimap.remove
  split
  · split
    · exact occupied.drop key
    · next kept => exact occupied.put key _ (mt List.isEmpty_iff.mpr kept)
  · exact occupied

omit [DecidableEq V] in
theorem Occupied.mem_groups (occupied : map.Occupied) : key ∈ map.groups ↔ map.values key ≠ [] := by
  unfold values
  cases found : map.groups.lookup key with
  | none => simpa using AList.lookup_eq_none.mp found
  | some group =>
    have there : key ∈ map.groups := AList.lookup_isSome.mp (by simp [found])
    simpa [there] using occupied key group found

end Multimap

end RealtimeChat.Foundation
