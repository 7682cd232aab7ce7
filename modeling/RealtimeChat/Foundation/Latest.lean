import Mathlib.Data.List.Basic

/-! The last value written for a key.

A sequence of writes to keyed registers is read back one key at a time. Two
writes to different keys may change places without changing what is read.
-/

set_option autoImplicit false

namespace RealtimeChat.Foundation

variable {K V : Type} [DecidableEq K]

def latest (key : K) (initial : V) : List (K × V) → V
  | [] => initial
  | (written, value) :: rest => latest key (if written = key then value else initial) rest

@[simp] theorem latest_nil (key : K) (initial : V) : latest key initial [] = initial := rfl

theorem latest_append (key : K) (initial : V) (first second : List (K × V)) :
    latest key initial (first ++ second) = latest key (latest key initial first) second := by
  induction first generalizing initial with
  | nil => rfl
  | cons write first ih => exact ih _

@[simp] theorem latest_concat (key : K) (initial : V) (writes : List (K × V)) (written : K) (value : V) :
    latest key initial (writes ++ [(written, value)]) =
      if written = key then value else latest key initial writes := by
  rw [latest_append]
  rfl

theorem latest_of_absent {key : K} (initial : V) {writes : List (K × V)}
    (absent : ∀ write ∈ writes, write.1 ≠ key) : latest key initial writes = initial := by
  induction writes with
  | nil => rfl
  | cons write writes ih =>
    obtain ⟨different, rest⟩ := List.forall_mem_cons.mp absent
    rw [latest, if_neg different]
    exact ih rest

theorem latest_of_present {key : K} {writes : List (K × V)} {write : K × V} (there : write ∈ writes)
    (same : write.1 = key) (first second : V) : latest key first writes = latest key second writes := by
  induction writes generalizing first second with
  | nil => cases there
  | cons head rest ih =>
    simp only [latest]
    rcases List.mem_cons.mp there with rfl | there
    · rw [if_pos same, if_pos same]
    · exact ih there _ _

theorem latest_eraseIdx {key : K} {writes : List (K × V)} {write : K × V} {position : Nat}
    (found : writes[position]? = some write) (other : write.1 ≠ key) (initial : V) :
    latest key initial (writes.eraseIdx position) = latest key initial writes := by
  induction writes generalizing position initial with
  | nil => rfl
  | cons head rest ih =>
    cases position with
    | zero =>
      cases found
      rw [List.eraseIdx_cons_zero, latest, if_neg other]
    | succ position => exact ih found _

theorem latest_overtake (key : K) (initial : V) {before : List (K × V)} (after : List (K × V)) {write : K × V}
    (others : ∀ earlier ∈ before, earlier.1 ≠ write.1) :
    latest key initial (write :: before ++ after) = latest key initial (before ++ write :: after) := by
  rw [latest_append, latest_append]
  simp only [latest]
  by_cases same : write.1 = key
  · subst same
    rw [if_pos rfl, if_pos rfl, latest_of_absent write.2 others]
  · rw [if_neg same, if_neg same]

end RealtimeChat.Foundation
