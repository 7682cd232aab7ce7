import RealtimeChat.Foundation.Serial

/-! How the rows of a sequence-keyed table change over time.

A row is followed by its key. Since no key is used twice, a row that has the key
of an earlier one has come from it by updates, and what every update respects
holds between the two.
-/

set_option autoImplicit false

namespace RealtimeChat.Foundation

variable {Row : Type} {key : Row → Int} {order : Row → Row → Prop}

/-- A row there is has come from an earlier one along the order, or has a key not used before. -/
structure Serial.Evolves (order : Row → Row → Prop) (before after : Serial key) : Prop where
  grown : before.next ≤ after.next
  rows : ∀ row ∈ after, (∃ old ∈ before, key old = key row ∧ order old row) ∨ before.next ≤ key row

namespace Serial.Evolves

variable {before between after : Serial key}

theorem refl (reflexive : ∀ row, order row row) (serial : Serial key) : serial.Evolves order serial :=
  ⟨le_refl _, fun row member => Or.inl ⟨row, member, rfl, reflexive row⟩⟩

theorem trans (transitive : ∀ {first second third}, order first second → order second third → order first third)
    (first : before.Evolves order between) (second : between.Evolves order after) : before.Evolves order after := by
  refine ⟨le_trans first.grown second.grown, fun row member => ?_⟩
  rcases second.rows row member with ⟨middle, middleMember, sameKey, later⟩ | fresh
  · rw [← sameKey]
    exact (first.rows middle middleMember).imp_left fun ⟨old, oldMember, same, earlier⟩ =>
      ⟨old, oldMember, same, transitive earlier later⟩
  · exact Or.inr (le_trans first.grown fresh)

section

variable (reflexive : ∀ row, order row row) (serial : Serial key)

include reflexive

theorem append (build : Int → Row)
    (keyed : ∀ id, key (build id) = id) : serial.Evolves order (serial.append build keyed) := by
  refine ⟨next_le_next (Nat.le_succ _), fun row member => ?_⟩
  rcases mem_append.mp member with old | rfl
  · exact Or.inl ⟨row, old, rfl, reflexive row⟩
  · exact Or.inr (le_of_eq (keyed _).symm)

theorem updateWhere (matching : Row → Bool)
    {change : Row → Row} (keeps : ∀ row, key (change row) = key row) (respects : ∀ row, order row (change row)) :
    serial.Evolves order (serial.updateWhere matching change keeps) := by
  refine ⟨le_refl _, fun row member => ?_⟩
  obtain ⟨old, oldMember, rfl⟩ := mem_updateWhere.mp member
  refine Or.inl ⟨old, oldMember, ?_⟩
  split
  · exact ⟨(keeps old).symm, respects old⟩
  · exact ⟨rfl, reflexive old⟩

theorem deleteWhere (matching : Row → Bool) : serial.Evolves order (serial.deleteWhere matching) :=
  ⟨le_refl _, fun row member => Or.inl ⟨row, (mem_deleteWhere.mp member).1, rfl, reflexive row⟩⟩

end

theorem follows (evolves : before.Evolves order after) {old row : Row} (oldMember : old ∈ before)
    (member : row ∈ after) (same : key row = key old) : order old row := by
  rcases evolves.rows row member with ⟨origin, originMember, sameKey, ordered⟩ | fresh
  · rwa [← Table.eq_of_key originMember oldMember (sameKey.trans same)]
  · exact absurd (same ▸ lt_next oldMember) (not_lt.mpr fresh)

theorem absent (evolves : before.Evolves order after) {id : Int} (used : id < before.next)
    (free : ∀ row ∈ before, key row ≠ id) : ∀ row ∈ after, key row ≠ id := by
  rintro row member rfl
  rcases evolves.rows row member with ⟨old, oldMember, same, _⟩ | fresh
  · exact free old oldMember same
  · exact absurd used (not_lt.mpr fresh)

end Serial.Evolves

end RealtimeChat.Foundation
