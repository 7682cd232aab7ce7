import Mathlib.Data.List.Nodup

/-! Lists addressed by position.

A machine keeps its callers in a list and moves one of them by replacing the
entry at its position. These are the facts about such a replacement that the
invariants of a machine need.
-/

set_option autoImplicit false

namespace RealtimeChat.Foundation

variable {A : Type}

variable {P : A → Prop} {entries : List A} {new old entry : A} {position : Nat}

theorem forall_mem_concat (old : ∀ entry ∈ entries, P entry) (holds : P new) : ∀ entry ∈ entries ++ [new], P entry :=
  List.forall_mem_append.mpr ⟨old, List.forall_mem_singleton.mpr holds⟩

theorem forall_mem_set (old : ∀ entry ∈ entries, P entry) (holds : P new) :
    ∀ entry ∈ entries.set position new, P entry :=
  fun entry member => (List.mem_or_eq_of_mem_set member).elim (old entry) fun same => same ▸ holds

theorem exists_set (found : entries[position]? = some old) :
    ∃ before after, entries = before ++ old :: after ∧ ∀ new, entries.set position new = before ++ new :: after := by
  obtain ⟨within, same⟩ := List.getElem?_eq_some_iff.mp found
  refine ⟨entries.take position, entries.drop (position + 1), ?_, fun new => ?_⟩
  · rw [← same, List.getElem_cons_drop, List.take_append_drop]
  · rw [List.set_eq_take_append_cons_drop, if_pos within]

theorem countP_set_add (p : A → Bool) (new : A) (found : entries[position]? = some old) :
    (entries.set position new).countP p + (if p old then 1 else 0) =
      entries.countP p + (if p new then 1 else 0) := by
  obtain ⟨before, after, split, replaced⟩ := exists_set found
  rw [replaced, split]
  simp only [List.countP_append, List.countP_cons]
  omega

theorem mem_set_of_ne (found : entries[position]? = some old) (member : entry ∈ entries) (different : entry ≠ old) :
    entry ∈ entries.set position new := by
  obtain ⟨other, at_other⟩ := List.mem_iff_getElem?.mp member
  refine List.mem_iff_getElem?.mpr ⟨other, ?_⟩
  rw [List.getElem?_set_ne, at_other]
  rintro rfl
  exact different (Option.some.inj (at_other.symm.trans found))

theorem mem_set_self (new : A) (found : entries[position]? = some old) : new ∈ entries.set position new :=
  List.mem_set (List.getElem?_eq_some_iff.mp found).1 new

theorem filterMap_set_same {B : Type} (observe : A → Option B) (found : entries[position]? = some old)
    (same : observe new = observe old) : (entries.set position new).filterMap observe = entries.filterMap observe := by
  obtain ⟨before, after, split, replaced⟩ := exists_set found
  rw [replaced, split]
  simp only [List.filterMap_append, List.filterMap_cons, same]

/-- Replacing an entry that shows nothing by one that shows `seen` adds `seen` to the observations. -/
theorem filterMap_set_perm {B : Type} (observe : A → Option B) (new : A) {seen : B}
    (found : entries[position]? = some old) (nothing : observe old = none) (something : observe new = some seen) :
    ((entries.set position new).filterMap observe).Perm (seen :: entries.filterMap observe) := by
  obtain ⟨before, after, split, replaced⟩ := exists_set found
  rw [replaced, split]
  simp only [List.filterMap_append, List.filterMap_cons, nothing, something]
  exact List.perm_middle

theorem filterMap_perm_set {B : Type} (observe : A → Option B) (new : A) {seen : B}
    (found : entries[position]? = some old) (something : observe old = some seen) (nothing : observe new = none) :
    (entries.filterMap observe).Perm (seen :: (entries.set position new).filterMap observe) := by
  obtain ⟨within, same⟩ := List.getElem?_eq_some_iff.mp found
  have back : (entries.set position new).set position old = entries := by
    rw [List.set_set, ← same, List.set_getElem_self]
  have shown := filterMap_set_perm observe old (List.getElem?_set_self within) nothing something
  rwa [back] at shown

theorem filterMap_set_sublist {B : Type} (observe : A → Option B) (nothing : observe new = none) :
    ((entries.set position new).filterMap observe).Sublist (entries.filterMap observe) := by
  induction entries generalizing position with
  | nil => simp
  | cons first rest ih =>
    cases position with
    | zero =>
      simp only [List.set_cons_zero, List.filterMap_cons, nothing]
      cases observe first with
      | none => exact List.Sublist.refl _
      | some shown => exact List.sublist_cons_self _ _
    | succ position =>
      simp only [List.set_cons_succ, List.filterMap_cons]
      cases observe first with
      | none => exact ih
      | some shown => exact ih.cons_cons shown

theorem eq_of_nodup_filterMap {B : Type} (observe : A → Option B) {first second : A} {seen : B}
    (distinct : (entries.filterMap observe).Nodup) (left : first ∈ entries) (right : second ∈ entries)
    (shows : observe first = some seen) (alsoShows : observe second = some seen) : first = second := by
  induction entries with
  | nil => cases left
  | cons entry rest ih =>
    have later {other : A} (member : other ∈ rest) (shown : observe other = some seen) :
        seen ∈ rest.filterMap observe := List.mem_filterMap.mpr ⟨other, member, shown⟩
    rw [List.filterMap_cons] at distinct
    rcases List.mem_cons.mp left with rfl | inRest <;> rcases List.mem_cons.mp right with rfl | alsoInRest
    · rfl
    · rw [shows, List.nodup_cons] at distinct
      exact absurd (later alsoInRest alsoShows) distinct.1
    · rw [alsoShows, List.nodup_cons] at distinct
      exact absurd (later inRest shows) distinct.1
    · refine ih ?_ inRest alsoInRest
      cases observed : observe entry with
      | none => simpa [observed] using distinct
      | some shown =>
        rw [observed] at distinct
        exact distinct.of_cons

theorem before_or_beyond {passed rest done : List A} (distinct : entries.Nodup)
    (split : entries = passed ++ entry :: rest) (initial : done <+: entries) :
    (∃ between, passed = done ++ between) ∧ entry ∉ done ∨ ∃ later, done = passed ++ entry :: later := by
  obtain ⟨left, whole⟩ := initial
  have fresh : entry ∉ passed := by
    rw [split] at distinct
    exact fun member => (List.nodup_append.mp distinct).2.2 entry member entry List.mem_cons_self rfl
  rcases List.append_eq_append_iff.mp (whole.trans split) with ⟨between, before, _⟩ | ⟨further, beyond, head⟩
  · refine Or.inl ⟨⟨between, before⟩, fun member => fresh ?_⟩
    rw [before]
    exact List.mem_append_left _ member
  · cases further with
    | nil =>
      rw [List.append_nil] at beyond
      exact Or.inl ⟨⟨[], by rw [beyond, List.append_nil]⟩, beyond ▸ fresh⟩
    | cons first later =>
      obtain ⟨rfl, _⟩ := List.cons.inj head
      exact Or.inr ⟨later, beyond⟩

end RealtimeChat.Foundation
