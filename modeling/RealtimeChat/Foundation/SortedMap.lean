import Mathlib.Data.List.Pairwise
import Mathlib.Order.Lattice

/-! Maps that keep their entries in the order of the keys. -/

set_option autoImplicit false

namespace RealtimeChat.Foundation

structure SortedMap (K V : Type) [LinearOrder K] where
  entries : List (K × V)
  sorted : (entries.map Prod.fst).Pairwise (· < ·)

namespace SortedMap

variable {K V : Type} [LinearOrder K]

def empty : SortedMap K V := ⟨[], List.Pairwise.nil⟩

def keys (map : SortedMap K V) : List K := map.entries.map Prod.fst

theorem nodup_keys (map : SortedMap K V) : map.keys.Nodup := map.sorted.imp fun less => less.ne

def alterEntries (key : K) (change : Option V → V) : List (K × V) → List (K × V)
  | [] => [(key, change none)]
  | (other, value) :: rest =>
    if key < other then (key, change none) :: (other, value) :: rest
    else if key = other then (key, change (some value)) :: rest
    else (other, value) :: alterEntries key change rest

variable {key name : K} {change : Option V → V} {entries : List (K × V)}

theorem mem_alterEntries :
    name ∈ (alterEntries key change entries).map Prod.fst ↔ name = key ∨ name ∈ entries.map Prod.fst := by
  induction entries with
  | nil => simp [alterEntries]
  | cons entry rest ih =>
    obtain ⟨other, value⟩ := entry
    simp only [alterEntries]
    split
    · simp
    · split
      · next same => simp [same]
      · simp only [List.map_cons, List.mem_cons, ih]
        exact or_left_comm

theorem sorted_alterEntries (sorted : (entries.map Prod.fst).Pairwise (· < ·)) :
    ((alterEntries key change entries).map Prod.fst).Pairwise (· < ·) := by
  induction entries with
  | nil => simp [alterEntries]
  | cons entry rest ih =>
    obtain ⟨other, value⟩ := entry
    obtain ⟨first, sorted⟩ := List.pairwise_cons.mp sorted
    simp only [alterEntries]
    split
    · next less =>
      refine List.pairwise_cons.mpr ⟨fun name member => ?_, List.pairwise_cons.mpr ⟨first, sorted⟩⟩
      rcases List.mem_cons.mp member with rfl | member
      · exact less
      · exact less.trans (first name member)
    · next notLess =>
      split
      · next same => exact List.pairwise_cons.mpr ⟨same ▸ first, sorted⟩
      · next different =>
        refine List.pairwise_cons.mpr ⟨fun name member => ?_, ih sorted⟩
        rcases mem_alterEntries.mp member with rfl | member
        · exact lt_of_le_of_ne (not_lt.mp notLess) (Ne.symm different)
        · exact first name member

def alter (map : SortedMap K V) (key : K) (change : Option V → V) : SortedMap K V :=
  ⟨alterEntries key change map.entries, sorted_alterEntries map.sorted⟩

@[simp] theorem mem_keys_alter {map : SortedMap K V} :
    name ∈ (map.alter key change).keys ↔ name = key ∨ name ∈ map.keys := mem_alterEntries

def find (map : SortedMap K V) (key : K) : Option V := map.entries.lookup key

theorem find_empty (key : K) : (empty : SortedMap K V).find key = none := rfl

theorem lookup_cons (name other : K) (value : V) (rest : List (K × V)) :
    ((other, value) :: rest).lookup name = if name = other then some value else rest.lookup name := by
  rw [List.lookup_cons]
  split
  · next same => rw [if_pos (beq_iff_eq.mp same)]
  · next different => rw [if_neg (beq_eq_false_iff_ne.mp different)]

theorem lookup_eq_none (absent : ∀ name ∈ entries.map Prod.fst, key ≠ name) : entries.lookup key = none := by
  induction entries with
  | nil => rfl
  | cons entry rest ih =>
    obtain ⟨different, others⟩ := List.forall_mem_cons.mp absent
    exact (lookup_cons key entry.1 entry.2 rest).trans ((if_neg different).trans (ih others))

theorem lookup_alterEntries (sorted : (entries.map Prod.fst).Pairwise (· < ·)) (name : K) :
    (alterEntries key change entries).lookup name =
      if name = key then some (change (entries.lookup key)) else entries.lookup name := by
  induction entries with
  | nil => exact lookup_cons name key _ []
  | cons entry rest ih =>
    obtain ⟨other, value⟩ := entry
    obtain ⟨first, later⟩ := List.pairwise_cons.mp sorted
    simp only [alterEntries]
    split
    · next less =>
      have absent : ((other, value) :: rest).lookup key = none := lookup_eq_none
        (List.forall_mem_cons.mpr ⟨less.ne, fun name member => (less.trans (first name member)).ne⟩)
      rw [absent, lookup_cons]
    · split
      · next same =>
        subst same
        simp only [lookup_cons, if_true]
        split <;> rfl
      · next different =>
        simp only [lookup_cons, if_neg different, ih later]
        by_cases same : name = other
        · simp [same, Ne.symm different]
        · simp [same]

theorem find_alter (map : SortedMap K V) (key : K) (change : Option V → V) (name : K) :
    (map.alter key change).find name = if name = key then some (change (map.find key)) else map.find name :=
  lookup_alterEntries map.sorted name

theorem mem_entries_iff {map : SortedMap K V} {value : V} :
    (name, value) ∈ map.entries ↔ map.find name = some value := by
  obtain ⟨entries, sorted⟩ := map
  unfold find
  induction entries with
  | nil => simp
  | cons entry rest ih =>
    obtain ⟨other, held⟩ := entry
    obtain ⟨first, later⟩ := List.pairwise_cons.mp sorted
    rw [List.mem_cons, lookup_cons]
    by_cases same : name = other
    · subst same
      have absent : (name, value) ∉ rest := fun member =>
        lt_irrefl name (first name (List.mem_map_of_mem (f := Prod.fst) member))
      simp [absent, eq_comm]
    · simp [same, ih later]

end SortedMap

end RealtimeChat.Foundation
