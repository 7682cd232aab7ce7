import Mathlib.Data.List.Sort

/-! Values in bins with increasing upper bounds.

The bin of a value is the first one whose bound the value does not exceed, and a
value raises the number of values up to a bound exactly for the bounds from its
own bin on.
-/

set_option autoImplicit false

namespace RealtimeChat.Foundation.Bins

variable {Number : Type} [LinearOrder Number]

theorem pairwise_eraseReps {values : List Number} (ordered : values.Pairwise (· ≤ ·)) :
    values.eraseReps.Pairwise (· < ·) := by
  -- What has been kept is read backwards, with the value that is compared with the next one in front.
  have loop (last : Number) (rest kept : List Number) (ordered : (last :: rest).Pairwise (· ≤ ·))
      (falling : (last :: kept).Pairwise (· > ·)) :
      (List.eraseRepsBy.loop (· == ·) last rest kept).Pairwise (· < ·) := by
    induction rest generalizing last kept with
    | nil => exact List.pairwise_reverse.mpr falling
    | cons next rest ih =>
      obtain ⟨least, later⟩ := List.pairwise_cons.mp ordered
      rw [List.eraseRepsBy.loop]
      split
      · next same =>
        rw [beq_iff_eq.mp same] at falling ⊢
        exact ih next kept later falling
      · next different =>
        have more : last < next := lt_of_le_of_ne (least next List.mem_cons_self) (by simpa using different)
        refine ih next (last :: kept) later (List.pairwise_cons.mpr ⟨fun old member => ?_, falling⟩)
        rcases List.mem_cons.mp member with rfl | older
        · exact more
        · exact lt_trans ((List.pairwise_cons.mp falling).1 old older) more
  cases values with
  | nil => exact List.Pairwise.nil
  | cons first rest => exact loop first rest [] ordered (List.pairwise_singleton _ _)

theorem map_countP_append {bounds : List Number} (increasing : bounds.Pairwise (· < ·)) (values : List Number)
    (value : Number) :
    bounds.map (fun bound => (values ++ [value]).countP (· ≤ bound)) =
      (bounds.map fun bound => values.countP (· ≤ bound)).take (bounds.findIdx fun bound => decide (value ≤ bound)) ++
        ((bounds.map fun bound => values.countP (· ≤ bound)).drop
          (bounds.findIdx fun bound => decide (value ≤ bound))).map (· + 1) := by
  have counted (bound : Number) : (values ++ [value]).countP (· ≤ bound) =
      values.countP (· ≤ bound) + if value ≤ bound then 1 else 0 := by
    rw [List.countP_append, List.countP_singleton]
    simp
  induction bounds with
  | nil => rfl
  | cons first rest ih =>
    obtain ⟨least, later⟩ := List.pairwise_cons.mp increasing
    rw [List.findIdx_cons]
    by_cases inside : value ≤ first
    · have all : ∀ bound ∈ first :: rest, (values ++ [value]).countP (· ≤ bound) = values.countP (· ≤ bound) + 1 := by
        intro bound member
        rw [counted, if_pos]
        rcases List.mem_cons.mp member with rfl | other
        · exact inside
        · exact inside.trans (least bound other).le
      simp only [inside, decide_true, cond_true, List.take_zero, List.drop_zero, List.nil_append, List.map_map]
      exact List.map_congr_left all
    · simp only [inside, decide_false, cond_false, List.map_cons, List.take_succ_cons, List.drop_succ_cons,
        List.cons_append, ← ih later, counted first, if_false, Nat.add_zero]

end RealtimeChat.Foundation.Bins
