import Mathlib.Data.List.TakeWhile

/-! Scanning a text from its start.

A scan takes the longest run of characters of a class. It is the only way to
split the text into a run and a rest that does not go on with the class.
-/

set_option autoImplicit false

namespace RealtimeChat.Foundation

variable {A : Type}

/-- The text is at its end or goes on with an element that is not of the class. -/
def Stops (within : A → Bool) (rest : List A) : Prop := ∀ next ∈ rest.head?, within next = false

theorem stops_nil (within : A → Bool) : Stops within [] := by simp [Stops]

variable {within : A → Bool} {rest : List A}

theorem stops_cons {next : A} : Stops within (next :: rest) ↔ within next = false := by simp [Stops]

theorem takeWhile_eq_nil (stops : Stops within rest) : rest.takeWhile within = [] := by
  cases rest with
  | nil => rfl
  | cons next rest => simp [stops_cons.mp stops]

theorem dropWhile_eq_self (stops : Stops within rest) : rest.dropWhile within = rest := by
  cases rest with
  | nil => rfl
  | cons next rest => simp [stops_cons.mp stops]

theorem scan_append {run : List A} (inside : ∀ element ∈ run, within element = true) (stops : Stops within rest) :
    (run ++ rest).takeWhile within = run ∧ (run ++ rest).dropWhile within = rest := by
  constructor
  · rw [List.takeWhile_append_of_pos inside, takeWhile_eq_nil stops, List.append_nil]
  · rw [List.dropWhile_append_of_pos inside, dropWhile_eq_self stops]

section Fields

variable [DecidableEq A] (separator : A)

def fields : Nat → List A → List (List A)
  | 0, _ => []
  | count + 1, text =>
    match text.dropWhile (· ≠ separator) with
    | [] => [text]
    | _ :: rest => text.takeWhile (· ≠ separator) :: fields count rest

variable {separator}

variable {text left right : List A} (count : Nat)

theorem notMem_iff_ne : separator ∉ text ↔ ∀ element ∈ text, decide (element ≠ separator) = true := by
  simp only [ne_eq, decide_not, Bool.not_eq_true', decide_eq_false_iff_not]
  exact ⟨fun absent element member same => absent (same ▸ member), fun others member => others separator member rfl⟩

theorem fields_of_notMem (absent : separator ∉ text) : fields separator (count + 1) text = [text] := by
  have none : text.dropWhile (· ≠ separator) = [] := List.dropWhile_eq_nil_iff.mpr (notMem_iff_ne.mp absent)
  rw [fields, none]

theorem scan_separator (absent : separator ∉ left) :
    (left ++ separator :: right).takeWhile (· ≠ separator) = left ∧
      (left ++ separator :: right).dropWhile (· ≠ separator) = separator :: right :=
  scan_append (notMem_iff_ne.mp absent) (stops_cons.mpr (by simp))

theorem fields_append (absent : separator ∉ left) :
    fields separator (count + 1) (left ++ separator :: right) = left :: fields separator count right := by
  obtain ⟨taken, dropped⟩ := @scan_separator _ _ separator left right absent
  rw [fields, dropped, taken]

theorem fields_succ {count : Nat} {first : List A} {others : List (List A)} :
    fields separator (count + 1) text = first :: others ↔ separator ∉ first ∧
      ((text = first ∧ others = []) ∨
        ∃ right, text = first ++ separator :: right ∧ fields separator count right = others) := by
  by_cases member : separator ∈ text
  · obtain ⟨left, right, rfl, absent⟩ := List.eq_append_cons_of_mem member
    rw [fields_append _ absent, List.cons.injEq]
    constructor
    · rintro ⟨rfl, rfl⟩
      exact ⟨absent, .inr ⟨right, rfl, rfl⟩⟩
    · rintro ⟨alone, ⟨rfl, -⟩ | ⟨after, same, rfl⟩⟩
      · exact absurd member alone
      · obtain ⟨taken, dropped⟩ := @scan_separator _ _ separator left right absent
        rw [same] at taken dropped
        obtain ⟨taken', dropped'⟩ := @scan_separator _ _ separator first after alone
        exact ⟨taken.symm.trans taken', congrArg _ (List.cons.inj (dropped.symm.trans dropped')).2⟩
  · rw [fields_of_notMem _ member, List.cons.injEq]
    constructor
    · rintro ⟨rfl, rfl⟩
      exact ⟨member, .inl ⟨rfl, rfl⟩⟩
    · rintro ⟨-, ⟨rfl, rfl⟩ | ⟨right, rfl, -⟩⟩
      · exact ⟨rfl, rfl⟩
      · exact absurd (List.mem_append_right _ List.mem_cons_self) member

theorem fields_eq_take (text : List A) : fields separator count text = (text.splitOn separator).take count := by
  induction count generalizing text with
  | zero => rfl
  | succ count ih =>
    by_cases member : separator ∈ text
    · obtain ⟨left, right, rfl, absent⟩ := List.eq_append_cons_of_mem member
      have whole : (left ++ separator :: right).splitOn separator = left :: right.splitOn separator :=
        List.splitOn_append_cons_self_of_not_mem absent right
      rw [fields_append _ absent, ih, whole, List.take_succ_cons]
    · rw [fields_of_notMem _ member, List.splitOn_eq_singleton member, List.take_succ_cons, List.take_nil]

end Fields

end RealtimeChat.Foundation
