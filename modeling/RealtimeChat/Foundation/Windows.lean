import Mathlib.Data.List.Count

/-! Fixed windows over timed sequences.

A window opens with the first entry that no earlier window covers and covers
everything that comes less than its length later. An interval of one length
meets at most two of them: a window that reaches into it ends there, and the
one after the next opens too late.
-/

set_option autoImplicit false

namespace RealtimeChat.Foundation

variable {α : Type} {time : α → Int} {length : Int}

inductive Splits (time : α → Int) (length : Int) : List α → List (List α) → Prop where
  | nil : Splits time length [] []
  | window (start : α) {inside rest : List α} {windows : List (List α)}
      (within : ∀ entry ∈ inside, time start ≤ time entry ∧ time entry < time start + length)
      (beyond : ∀ entry ∈ rest, time start + length ≤ time entry)
      (more : Splits time length rest windows) :
      Splits time length (start :: inside ++ rest) ((start :: inside) :: windows)

def During (time : α → Int) (length start : Int) (entry : α) : Prop :=
  start ≤ time entry ∧ time entry ≤ start + length

instance (start : Int) : DecidablePred (During time length start) := fun _ => inferInstanceAs (Decidable (_ ∧ _))

section Bound

variable {marked : α → Bool} {most : Nat} {entries : List α} {windows : List (List α)} {start : Int}

def markedDuring (time : α → Int) (length start : Int) (marked : α → Bool) (entries : List α) : Nat :=
  entries.countP fun entry => marked entry && decide (During time length start entry)

theorem markedDuring_append (first second : List α) :
    markedDuring time length start marked (first ++ second) =
      markedDuring time length start marked first + markedDuring time length start marked second :=
  List.countP_append

theorem markedDuring_le (few : entries.countP marked ≤ most) : markedDuring time length start marked entries ≤ most := by
  refine Nat.le_trans (List.countP_mono_left fun entry _ both => ?_) few
  exact (Bool.and_eq_true_iff.mp both).1

theorem markedDuring_eq_zero (apart : ∀ entry ∈ entries, ¬ During time length start entry) :
    markedDuring time length start marked entries = 0 := by
  refine List.countP_eq_zero.mpr fun entry member both => ?_
  exact apart entry member (of_decide_eq_true (Bool.and_eq_true_iff.mp both).2)

theorem Splits.markedDuring_le_of_late (splits : Splits time length entries windows)
    (few : ∀ window ∈ windows, window.countP marked ≤ most) (late : ∀ entry ∈ entries, start < time entry) :
    markedDuring time length start marked entries ≤ most := by
  cases splits with
  | nil => exact Nat.zero_le most
  | @window first inside rest windows within beyond more =>
    have none : markedDuring time length start marked rest = 0 := markedDuring_eq_zero fun entry member during => by
      have opens := late first List.mem_cons_self
      have after := beyond entry member
      have before := during.2
      omega
    rw [markedDuring_append, none]
    exact markedDuring_le (few _ List.mem_cons_self)

/-- With few marked entries in each window, an interval of one length has at most twice as many. -/
theorem Splits.markedDuring_le_twice (splits : Splits time length entries windows) (start : Int) (positive : 0 < length)
    (few : ∀ window ∈ windows, window.countP marked ≤ most) :
    markedDuring time length start marked entries ≤ 2 * most := by
  induction splits with
  | nil => exact Nat.zero_le _
  | @window first inside rest windows within beyond more ih =>
    have here : markedDuring time length start marked (first :: inside) ≤ most :=
      markedDuring_le (few _ List.mem_cons_self)
    have fewer : ∀ window ∈ windows, window.countP marked ≤ most :=
      fun window member => few window (List.mem_cons_of_mem _ member)
    rw [markedDuring_append]
    by_cases reaches : ∃ entry ∈ first :: inside, start ≤ time entry
    · -- the window reaches into the interval, so that the next one opens after its start
      obtain ⟨entry, member, reached⟩ := reaches
      have covered : time entry < time first + length := by
        rcases List.mem_cons.mp member with rfl | member
        · omega
        · exact (within entry member).2
      have next : markedDuring time length start marked rest ≤ most :=
        more.markedDuring_le_of_late fewer fun other member => by
          have after := beyond other member
          omega
      omega
    · have none : markedDuring time length start marked (first :: inside) = 0 :=
        markedDuring_eq_zero fun entry member during => reaches ⟨entry, member, during.1⟩
      rw [none, Nat.zero_add]
      exact ih fewer

end Bound

end RealtimeChat.Foundation
