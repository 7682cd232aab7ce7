import Mathlib.Data.List.Nodup
import Mathlib.Data.List.Pairwise
import Mathlib.Data.List.Sort
import Mathlib.Order.Basic

/-! Walking a listing page by page.

A client asks for a page, moves its cursor by what it got and asks again, until
a page is empty. What is listed may change between two requests: a page is
determined by the turn and the cursor. A walk down a key that the pages are
sorted by is complete whatever else changes; a walk that cuts by one key what is
listed by another is complete only if the two agree at the ends of the pages.
-/

set_option autoImplicit false

namespace RealtimeChat.Foundation

section Walk

variable {Cursor Row : Type} (page : Nat → Cursor → List Row) (advance : Cursor → List Row → Cursor)

/-- The pages up to the first empty one; `none` when the fuel does not suffice. -/
def walk : (fuel turn : Nat) → Cursor → Option (List (List Row))
  | 0, _, _ => none
  | fuel + 1, turn, cursor =>
    match page turn cursor with
    | [] => some []
    | row :: rest => (walk fuel (turn + 1) (advance cursor (row :: rest))).map ((row :: rest) :: ·)

variable {page advance}

variable {cursor : Cursor}

theorem walk_nil {turn : Nat} (empty : page turn cursor = []) (fuel : Nat) :
    walk page advance (fuel + 1) turn cursor = some [] := by
  rw [walk, empty]

theorem walk_cons {turn : Nat} (nonempty : page turn cursor ≠ []) (fuel : Nat) :
    walk page advance (fuel + 1) turn cursor =
      (walk page advance fuel (turn + 1) (advance cursor (page turn cursor))).map (page turn cursor :: ·) := by
  rw [walk]
  split
  · next empty => exact absurd empty nonempty
  · next listed => rw [listed]

theorem walk_induction (motive : Nat → Cursor → List (List Row) → Prop)
    (ends : ∀ turn cursor, page turn cursor = [] → motive turn cursor [])
    (goes : ∀ turn cursor pages, page turn cursor ≠ [] →
      motive (turn + 1) (advance cursor (page turn cursor)) pages → motive turn cursor (page turn cursor :: pages))
    {fuel turn : Nat} {pages : List (List Row)}
    (walked : walk page advance fuel turn cursor = some pages) : motive turn cursor pages := by
  induction fuel generalizing turn cursor pages with
  | zero => cases walked
  | succ fuel ih =>
    by_cases empty : page turn cursor = []
    · rw [walk_nil empty] at walked
      cases walked
      exact ends turn cursor empty
    · rw [walk_cons empty] at walked
      obtain ⟨rest, later, rfl⟩ := Option.map_eq_some_iff.mp walked
      exact goes turn cursor rest empty (ih later)

theorem walk_once {fuel turn : Nat} {pages : List (List Row)} (nonempty : page turn cursor ≠ [])
    (last : page (turn + 1) (advance cursor (page turn cursor)) = []) :
    walk page advance fuel turn cursor = some pages ↔ 2 ≤ fuel ∧ pages = [page turn cursor] := by
  match fuel with
  | 0 => simp [walk]
  | 1 =>
    rw [walk_cons nonempty]
    simp [walk]
  | fuel + 2 => simp [walk_cons nonempty, walk_nil last, eq_comm]

/-- A walk ends if every page that is not empty makes what is ahead smaller. -/
theorem walk_ends (ahead : Nat → Cursor → Nat) (shrinks : ∀ turn cursor, page turn cursor ≠ [] →
      ahead (turn + 1) (advance cursor (page turn cursor)) < ahead turn cursor)
    {fuel turn : Nat} (enough : ahead turn cursor < fuel) :
    (walk page advance fuel turn cursor).isSome := by
  induction fuel generalizing turn cursor with
  | zero => exact absurd enough (Nat.not_lt_zero _)
  | succ fuel ih =>
    by_cases empty : page turn cursor = []
    · rw [walk_nil empty]
      rfl
    · rw [walk_cons empty, Option.isSome_map]
      exact ih (Nat.lt_of_lt_of_le (shrinks turn cursor empty) (Nat.le_of_lt_succ enough))

end Walk

def Below (cursor : Option Int) (value : Int) : Prop := ∀ bound ∈ cursor, value < bound

instance (cursor : Option Int) (value : Int) : Decidable (Below cursor value) :=
  inferInstanceAs (Decidable (∀ bound ∈ cursor, value < bound))

theorem Below.trans {cursor : Option Int} {first second : Int} (below : Below cursor second)
    (less : first < second) : Below cursor first :=
  fun bound here => Int.lt_trans less (below bound here)

def Above (cursor : Option Int) (value : Int) : Prop := ∀ bound ∈ cursor, bound < value

instance (cursor : Option Int) (value : Int) : Decidable (Above cursor value) :=
  inferInstanceAs (Decidable (∀ bound ∈ cursor, bound < value))

section Sorting

variable {Row : Type} {rows : List Row}

theorem pairwise_sorted {key : Row → Int} (distinct : (rows.map key).Nodup) :
    (rows.insertionSort fun first second => key second ≤ key first).Pairwise fun first second =>
      key second < key first := by
  have total : Std.Total fun first second : Row => key second ≤ key first := ⟨fun _ _ => Int.le_total _ _⟩
  have transitive : IsTrans Row fun first second => key second ≤ key first :=
    ⟨fun _ _ _ first second => Int.le_trans second first⟩
  have apart := ((List.perm_insertionSort (fun first second => key second ≤ key first) rows).map key).nodup_iff.mpr
    distinct
  refine ((List.pairwise_insertionSort (fun first second => key second ≤ key first) rows).and
    (List.pairwise_map.mp apart)).imp fun ⟨lower, other⟩ => ?_
  exact Int.lt_iff_le_and_ne.mpr ⟨lower, other.symm⟩

def DownBy (major minor : Row → Int) (first second : Row) : Prop :=
  major second < major first ∨ major second = major first ∧ minor second ≤ minor first

instance (major minor : Row → Int) : DecidableRel (DownBy major minor) := fun _ _ =>
  inferInstanceAs (Decidable (_ ∨ _))

instance (major minor : Row → Int) : Std.Total (DownBy major minor) where
  total first second := by
    simp only [DownBy]
    omega

instance (major minor : Row → Int) : IsTrans Row (DownBy major minor) where
  trans first second third := by
    simp only [DownBy]
    omega

theorem DownBy.minor_eq {major minor : Row → Int} {first second : Row} (before : DownBy major minor first second)
    (after : DownBy major minor second first) : minor first = minor second := by
  simp only [DownBy] at before after
  omega

/-- Selecting rows and sorting them is selecting from the sorted rows, if the order tells them apart. -/
theorem filter_insertionSort (order : Row → Row → Prop) [DecidableRel order] [Std.Total order] [IsTrans Row order]
    (apart : ∀ first second, first ∈ rows → second ∈ rows → order first second → order second first → first = second)
    (matching : Row → Bool) :
    (rows.filter matching).insertionSort order = (rows.insertionSort order).filter matching := by
  have same := ((List.perm_insertionSort order (rows.filter matching)).trans
    ((List.perm_insertionSort order rows).filter matching).symm)
  refine List.Perm.eq_of_pairwise (fun first second here there => ?_) (List.pairwise_insertionSort order _)
    ((List.pairwise_insertionSort order rows).filter matching) same
  rw [List.mem_insertionSort] at here
  rw [List.mem_filter, List.mem_insertionSort] at there
  exact apart first second (List.mem_filter.mp here).1 there.1

theorem mem_take_or_after {order : Row → Row → Prop} (sorted : rows.Pairwise order) {row : Row} (member : row ∈ rows)
    (limit : Nat) : row ∈ rows.take limit ∨ ∀ other ∈ rows.take limit, order other row := by
  rw [← List.take_append_drop limit rows] at member sorted
  rcases List.mem_append.mp member with here | after
  · exact Or.inl here
  · exact Or.inr fun other listed => (List.pairwise_append.mp sorted).2.2 other listed row after

end Sorting

section Descending

variable {Row : Type} {key : Row → Int} {page : Nat → Option Int → List Row}

structure Descends (key : Row → Int) (page : Nat → Option Int → List Row) : Prop where
  below : ∀ turn cursor, ∀ row ∈ page turn cursor, Below cursor (key row)
  sorted : ∀ turn cursor, (page turn cursor).Pairwise fun first second => key second < key first

def least (key : Row → Int) (rows : List Row) : Option Int := (rows.map key).min?

theorem below_least {rows : List Row} {value : Int} : Below (least key rows) value ↔ ∀ row ∈ rows, value < key row := by
  cases smallest : least key rows with
  | none =>
    obtain rfl : rows = [] := by simpa [least] using smallest
    simp [Below]
  | some bound =>
    obtain ⟨member, smaller⟩ := List.min?_eq_some_iff.mp smallest
    obtain ⟨row, listed, rfl⟩ := List.mem_map.mp member
    simp only [Below, Option.mem_def, Option.some.injEq, forall_eq']
    refine ⟨fun less other there => ?_, fun less => less row listed⟩
    exact Int.lt_of_lt_of_le less (smaller _ (List.mem_map_of_mem there))

def greatest (key : Row → Int) (rows : List Row) : Option Int := (rows.map key).max?

theorem above_greatest {rows : List Row} {value : Int} :
    Above (greatest key rows) value ↔ ∀ row ∈ rows, key row < value := by
  cases largest : greatest key rows with
  | none =>
    obtain rfl : rows = [] := by simpa [greatest] using largest
    simp [Above]
  | some bound =>
    obtain ⟨member, larger⟩ := List.max?_eq_some_iff.mp largest
    obtain ⟨row, listed, rfl⟩ := List.mem_map.mp member
    simp only [Above, Option.mem_def, Option.some.injEq, forall_eq']
    refine ⟨fun less other there => ?_, fun less => less row listed⟩
    exact Int.lt_of_le_of_lt (larger _ (List.mem_map_of_mem there)) less

variable {fuel turn : Nat} {cursor : Option Int} {pages : List (List Row)}

theorem walk_descending (descends : Descends key page)
    (walked : walk page (fun _ rows => least key rows) fuel turn cursor = some pages) :
    pages.flatten.Pairwise (fun first second => key second < key first) ∧
      ∀ row ∈ pages.flatten, Below cursor (key row) := by
  refine walk_induction (fun _ cursor pages => pages.flatten.Pairwise (fun first second => key second < key first) ∧
    ∀ row ∈ pages.flatten, Below cursor (key row)) (fun _ _ _ => by simp) (fun turn cursor pages nonempty later => ?_)
    walked
  have apart : ∀ row ∈ page turn cursor, ∀ other ∈ pages.flatten, key other < key row := fun row here other there =>
    below_least.mp (later.2 other there) row here
  rw [List.flatten_cons]
  refine ⟨List.pairwise_append.mpr ⟨descends.sorted turn cursor, later.1, apart⟩, fun row member => ?_⟩
  rcases List.mem_append.mp member with here | there
  · exact descends.below turn cursor row here
  · obtain ⟨first, listed⟩ := List.exists_mem_of_ne_nil _ nonempty
    exact (descends.below turn cursor first listed).trans (apart first listed row there)

def Offers (key : Row → Int) (rows : List Row) (value : Int) : Prop :=
  rows ≠ [] ∧ (value ∈ rows.map key ∨ ∀ row ∈ rows, value < key row)

theorem offers_take {rows : List Row} (sorted : rows.Pairwise fun first second => key second < key first)
    {limit : Nat} (positive : 0 < limit) {row : Row} (member : row ∈ rows) :
    Offers key (rows.take limit) (key row) := by
  refine ⟨fun empty => ?_, ?_⟩
  · have none := (List.take_eq_nil_iff.mp empty).resolve_left (Nat.ne_of_gt positive)
    rw [none] at member
    cases member
  · exact (mem_take_or_after sorted member limit).imp_left List.mem_map_of_mem

theorem walk_covers {value : Int} (walked : walk page (fun _ rows => least key rows) fuel turn cursor = some pages)
    (offered : ∀ later ≤ pages.length, ∀ cursor, Below cursor value → Offers key (page (turn + later) cursor) value)
    (below : Below cursor value) : value ∈ pages.flatten.map key := by
  refine walk_induction (fun turn cursor pages => (∀ later ≤ pages.length, ∀ cursor, Below cursor value →
      Offers key (page (turn + later) cursor) value) → Below cursor value → value ∈ pages.flatten.map key)
    (fun turn cursor empty offered below => ?_) (fun turn cursor pages nonempty ih offered below => ?_)
    walked offered below
  · exact absurd empty (offered 0 (Nat.zero_le _) cursor below).1
  · rw [List.flatten_cons, List.map_append, List.mem_append]
    rcases (offered 0 (Nat.zero_le _) cursor below).2 with here | above
    · exact Or.inl here
    · refine Or.inr (ih (fun later within next => ?_) (below_least.mpr above))
      rw [Nat.add_right_comm, Nat.add_assoc]
      exact offered (later + 1) (Nat.succ_le_succ within) next

theorem walk_descending_ends (descends : Descends key page)
    (positive : ∀ turn cursor, ∀ row ∈ page turn cursor, 0 < key row) (turn : Nat) (cursor : Option Int) :
    ∃ fuel, (walk page (fun _ rows => least key rows) fuel turn cursor).isSome := by
  -- Without a cursor, the first page says where the walk begins.
  let ahead (turn : Nat) (cursor : Option Int) : Nat :=
    cursor.elim (((least key (page turn none)).getD 0).toNat + 1) Int.toNat
  refine ⟨_, walk_ends ahead (fun turn cursor nonempty => ?_) (Nat.lt_succ_self _)⟩
  obtain ⟨bound, smallest⟩ : ∃ bound, least key (page turn cursor) = some bound := by
    cases smallest : least key (page turn cursor) with
    | none => exact absurd (by simpa [least] using smallest) nonempty
    | some bound => exact ⟨bound, rfl⟩
  obtain ⟨row, listed, rfl⟩ := List.mem_map.mp (List.min?_eq_some_iff.mp smallest).1
  have above := positive turn cursor row listed
  cases cursor with
  | none => simp [ahead, smallest]
  | some limit =>
    have below := descends.below turn (some limit) row listed limit rfl
    simp only [ahead, smallest, Option.elim_some]
    omega

end Descending

section Cutting

variable {Row : Type} {key : Row → Int} {limit : Nat} {rows : List Row} {cursor : Option Int}

def beyond (key : Row → Int) (rows : List Row) (cursor : Option Int) : List Row :=
  rows.filter fun row => Below cursor (key row)

def lastKey (key : Row → Int) (rows : List Row) : Option Int := rows.getLast?.map key

/-- Cut into pages, the last row of a page has the smallest key so far and the rows after the page
have smaller ones. -/
inductive Aligned (key : Row → Int) (limit : Nat) : List Row → Prop where
  | nil : Aligned key limit []
  | page {rows : List Row} {last : Row} (ends : (rows.take limit).getLast? = some last)
      (above : ∀ row ∈ rows.take limit, key last ≤ key row) (below : ∀ row ∈ rows.drop limit, key row < key last)
      (aligned : Aligned key limit (rows.drop limit)) : Aligned key limit rows

theorem beyond_some {row : Row} (member : row ∈ beyond key rows cursor) :
    beyond key rows (some (key row)) = (beyond key rows cursor).filter fun other => key other < key row := by
  have there : Below cursor (key row) := by simpa using (List.mem_filter.mp member).2
  simp only [beyond, List.filter_filter]
  refine List.filter_congr fun other _ => ?_
  simp only [Below, Option.mem_def, Option.some.injEq, forall_eq', ← Bool.decide_and, decide_eq_decide]
  exact ⟨fun less => ⟨less, there.trans less⟩, And.left⟩

theorem cut_last (nonempty : (beyond key rows cursor).take limit ≠ []) :
    ∃ last ∈ (beyond key rows cursor).take limit, ((beyond key rows cursor).take limit).getLast? = some last ∧
      beyond key rows (lastKey key ((beyond key rows cursor).take limit)) =
        (beyond key rows cursor).filter fun row => key row < key last := by
  have ends := List.getLast?_eq_some_getLast nonempty
  have listed := List.getLast_mem nonempty
  refine ⟨_, listed, ends, ?_⟩
  rw [lastKey, ends, Option.map_some]
  exact beyond_some (List.mem_of_mem_take listed)

/-- A page is not asked for twice, so that a walk through a listing ends. -/
theorem cut_ends (key : Row → Int) (limit : Nat) (rows : List Row) (turn : Nat) (cursor : Option Int) :
    ∃ fuel, (walk (fun _ cursor => (beyond key rows cursor).take limit) (fun _ page => lastKey key page) fuel turn
      cursor).isSome := by
  refine ⟨_, walk_ends (fun _ cursor => (beyond key rows cursor).length) (fun turn cursor nonempty => ?_)
    (Nat.lt_succ_self _)⟩
  obtain ⟨last, listed, _, left⟩ := cut_last nonempty
  rw [left]
  exact List.length_filter_lt_length_iff_exists.mpr ⟨last, List.mem_of_mem_take listed, by simp⟩

theorem aligned_iff {last : Row} (ends : (rows.take limit).getLast? = some last) :
    Aligned key limit rows ↔ (∀ row ∈ rows.take limit, key last ≤ key row) ∧
      (∀ row ∈ rows.drop limit, key row < key last) ∧ Aligned key limit (rows.drop limit) := by
  constructor
  · intro aligned
    cases aligned with
    | nil => simp at ends
    | page same above below aligned =>
      cases ends.symm.trans same
      exact ⟨above, below, aligned⟩
  · exact fun ⟨above, below, aligned⟩ => .page ends above below aligned

theorem aligned_of_pairwise (positive : 0 < limit) (sorted : rows.Pairwise fun first second => key second < key first) :
    Aligned key limit rows := by
  induction size : rows.length using Nat.strong_induction_on generalizing rows with
  | _ size ih =>
    cases rows with
    | nil => exact .nil
    | cons row rest =>
      have nonempty : (row :: rest).take limit ≠ [] := by simp [Nat.ne_of_gt positive]
      have split := List.pairwise_append.mp ((List.take_append_drop limit (row :: rest)).symm ▸ sorted)
      obtain ⟨first, later, apart⟩ := split
      refine .page (List.getLast?_eq_some_getLast nonempty) (fun other member => ?_) (fun other member => ?_) ?_
      · have descending : ((row :: rest).take limit).Pairwise fun first second => key second ≤ key first :=
          first.imp Int.le_of_lt
        exact descending.rel_getLast_of_rel_getLast_getLast member (Int.le_refl _)
      · exact apart _ (List.getLast_mem nonempty) other member
      · exact ih _ (by simp [← size]; omega) later rfl

/-- Once the keys agree with the order at the end of the page, its rows are behind the cursor and
the other rows beyond it. -/
theorem filter_eq_drop {bound : Int} (above : ∀ row ∈ rows.take limit, bound ≤ key row)
    (below : ∀ row ∈ rows.drop limit, key row < bound) :
    (rows.filter fun row => key row < bound) = rows.drop limit := by
  conv_lhs => rw [← List.take_append_drop limit rows]
  rw [List.filter_append, List.filter_eq_nil_iff.mpr fun row member => by simpa using above row member,
    List.filter_eq_self.mpr fun row member => by simpa using below row member, List.nil_append]

/-- The first page of what is left repeats the rows of the last page that are still beyond the
cursor. -/
theorem mem_take_filter {bound : Int} {row : Row} (listed : row ∈ rows.take limit) (behind : key row < bound) :
    row ∈ (rows.filter fun row => key row < bound).take limit := by
  have leading := (List.take_prefix limit rows).filter fun row => key row < bound
  have short : ((rows.take limit).filter fun row => key row < bound).length ≤ limit :=
    Nat.le_trans (List.length_filter_le _ _) (List.length_take_le limit rows)
  exact (List.prefix_take_iff.mpr ⟨leading, short⟩).subset (List.mem_filter.mpr ⟨listed, by simpa using behind⟩)

/-- A walk through a listing receives each of its rows exactly once exactly if the keys agree with
the order at the ends of the pages. -/
theorem cut_exact_iff (positive : 0 < limit) (distinct : rows.Nodup) {fuel turn : Nat} {pages : List (List Row)}
    (walked : walk (fun _ cursor => (beyond key rows cursor).take limit) (fun _ page => lastKey key page) fuel turn
      cursor = some pages) :
    pages.flatten.Perm (beyond key rows cursor) ↔ Aligned key limit (beyond key rows cursor) := by
  -- Along with it: a walk receives its first page, and nothing that is not beyond its cursor.
  refine (walk_induction (fun _ cursor pages => (∀ row ∈ (beyond key rows cursor).take limit, row ∈ pages.flatten) ∧
    (∀ row ∈ pages.flatten, row ∈ beyond key rows cursor) ∧
    (pages.flatten.Perm (beyond key rows cursor) ↔ Aligned key limit (beyond key rows cursor)))
    (fun turn cursor empty => ?_) (fun turn cursor pages nonempty later => ?_) walked).2.2
  · have none : beyond key rows cursor = [] := (List.take_eq_nil_iff.mp empty).resolve_left (Nat.ne_of_gt positive)
    simp [none, Aligned.nil]
  · obtain ⟨last, listed, ends, left⟩ := cut_last nonempty
    obtain ⟨first, within, exact⟩ := later
    rw [left] at first within exact
    simp only [List.flatten_cons]
    refine ⟨fun row member => List.mem_append_left _ member, fun row member => ?_, ?_⟩
    · rcases List.mem_append.mp member with here | there
      · exact List.mem_of_mem_take here
      · exact (List.mem_filter.mp (within row there)).1
    generalize remaining : beyond key rows cursor = listing at *
    have once : listing.Nodup := remaining ▸ distinct.filter _
    have split : (listing.take limit ++ pages.flatten).Perm listing ↔ pages.flatten.Perm (listing.drop limit) := by
      have same : (listing.take limit ++ pages.flatten).Perm (listing.take limit ++ listing.drop limit) ↔ _ :=
        List.perm_append_left_iff _
      rwa [List.take_append_drop] at same
    rw [aligned_iff ends, split]
    constructor
    · intro same
      have below : ∀ row ∈ listing.drop limit, key row < key last := fun row member => by
        simpa using (List.mem_filter.mp (within row (same.mem_iff.mpr member))).2
      have above : ∀ row ∈ listing.take limit, key last ≤ key row := fun row member => by
        by_contra behind
        have again := same.mem_iff.mp (first row (mem_take_filter member (Int.not_le.mp behind)))
        exact (List.disjoint_of_nodup_append (by rwa [List.take_append_drop])) member again
      rw [filter_eq_drop above below] at exact
      exact ⟨above, below, exact.mp same⟩
    · rintro ⟨above, below, aligned⟩
      rw [filter_eq_drop above below] at exact
      exact exact.mpr aligned

end Cutting

section Offsets

variable {Row : Type} {rows spare : List Row} {limit : Nat}

def cutAt (limit offset : Nat) (rows : List Row) : List Row := (rows.drop offset).take limit

/-- A page of one listing or, where that one has nothing, of another one at the same offset. -/
def spareCut (rows spare : List Row) (limit offset : Nat) : List Row :=
  if (cutAt limit offset rows).isEmpty then cutAt limit offset spare else cutAt limit offset rows

/-- The offset of the first page of that length that is beyond a listing of that size. -/
def roundUp (size limit : Nat) : Nat := (size + limit - 1) / limit * limit

section

variable (positive : 0 < limit)

include positive

theorem cutAt_eq_nil {offset : Nat} : cutAt limit offset rows = [] ↔ rows.length ≤ offset := by
  unfold cutAt
  rw [List.take_eq_nil_iff, List.drop_eq_nil_iff]
  exact ⟨fun none => none.resolve_left (Nat.ne_of_gt positive), Or.inr⟩

theorem le_roundUp (size : Nat) : size ≤ roundUp size limit := by
  have parts := Nat.div_add_mod (size + limit - 1) limit
  have small := Nat.mod_lt (size + limit - 1) positive
  unfold roundUp
  rw [Nat.mul_comm]
  omega

theorem roundUp_le {size pages : Nat} (within : size ≤ pages * limit) : roundUp size limit ≤ pages * limit := by
  refine Nat.mul_le_mul_right limit (Nat.le_of_lt_succ ((Nat.div_lt_iff_lt_mul positive).mpr ?_))
  rw [Nat.succ_mul]
  omega

theorem next_le_roundUp {size pages : Nat} (before : pages * limit < size) :
    pages * limit + limit ≤ roundUp size limit := by
  have reached := Nat.lt_of_lt_of_le before (le_roundUp positive size)
  rw [← Nat.succ_mul]
  exact Nat.mul_le_mul_right limit (Nat.lt_of_mul_lt_mul_right reached)

/-- A walk by offsets receives the listing, and what the other one has beyond its last page. -/
theorem spareCut_received (pages : Nat) {fuel turn : Nat} {received : List (List Row)}
    (walked : walk (fun _ offset => spareCut rows spare limit offset) (fun offset _ => offset + limit) fuel turn
      (pages * limit) = some received) :
    received.flatten = rows.drop (pages * limit) ++ spare.drop (max (pages * limit) (roundUp rows.length limit)) := by
  -- The offsets are multiples of the limit: one before the end of the listing is at least a page before it rounded up.
  refine walk_induction (fun _ offset received => ∀ pages, offset = pages * limit → received.flatten =
      rows.drop offset ++ spare.drop (max offset (roundUp rows.length limit)))
    (fun turn offset empty pages same => ?_) (fun turn offset received nonempty ih pages same => ?_) walked pages rfl
  · rw [spareCut] at empty
    split at empty
    · next none =>
      have beyond := (cutAt_eq_nil positive).mp (List.isEmpty_iff.mp none)
      have ended := (cutAt_eq_nil positive).mp empty
      rw [List.drop_eq_nil_of_le beyond, List.drop_eq_nil_of_le (ended.trans (Nat.le_max_left _ _))]
      rfl
    · next some => exact absurd (List.isEmpty_iff.mpr empty) some
  · have rest := ih (pages + 1) (by rw [same, Nat.succ_mul])
    rw [List.flatten_cons, rest, spareCut]
    split
    · next none =>
      have beyond := (cutAt_eq_nil positive).mp (List.isEmpty_iff.mp none)
      have rounded : roundUp rows.length limit ≤ offset := same ▸ roundUp_le positive (same ▸ beyond)
      rw [List.drop_eq_nil_of_le beyond, List.drop_eq_nil_of_le (beyond.trans (Nat.le_add_right _ _)),
        Nat.max_eq_left rounded, Nat.max_eq_left (rounded.trans (Nat.le_add_right _ _)), List.nil_append, List.nil_append,
        cutAt, ← List.drop_drop, List.take_append_drop]
    · next some =>
      have before : offset < rows.length := by
        by_contra beyond
        exact some (List.isEmpty_iff.mpr ((cutAt_eq_nil positive).mpr (Nat.le_of_not_lt beyond)))
      have rounded : offset + limit ≤ roundUp rows.length limit := by
        rw [same] at before ⊢
        exact next_le_roundUp positive before
      rw [Nat.max_eq_right rounded, Nat.max_eq_right ((Nat.le_add_right _ _).trans rounded), ← List.append_assoc, cutAt,
        ← List.drop_drop, List.take_append_drop]

theorem spareCut_received_all {fuel turn : Nat} {received : List (List Row)}
    (walked : walk (fun _ offset => spareCut rows spare limit offset) (fun offset _ => offset + limit) fuel turn 0 =
      some received) : received.flatten = rows ++ spare.drop (roundUp rows.length limit) := by
  rw [← Nat.zero_mul limit] at walked
  have whole := spareCut_received positive 0 walked
  rwa [Nat.zero_mul, List.drop_zero, Nat.zero_max] at whole

theorem spareCut_ends (rows spare : List Row) (turn offset : Nat) :
    ∃ fuel, (walk (fun _ offset => spareCut rows spare limit offset) (fun offset _ => offset + limit) fuel turn
      offset).isSome := by
  refine ⟨_, walk_ends (fun _ offset => max rows.length spare.length - offset) (fun turn offset nonempty => ?_)
    (Nat.lt_succ_self _)⟩
  have before : offset < max rows.length spare.length := by
    by_contra beyond
    obtain ⟨first, second⟩ := Nat.max_le.mp (Nat.le_of_not_lt beyond)
    refine nonempty ?_
    unfold spareCut
    rw [(cutAt_eq_nil positive).mpr first, (cutAt_eq_nil positive).mpr second]
    rfl
  omega

end

end Offsets

end RealtimeChat.Foundation
