import RealtimeChat.Foundation.Significant
import RealtimeChat.Metrics.Registry

/-! What a scrape tells of counts.

A counter is a double that goes to the output stream in its default format, with
six significant digits. So do the bounds of histograms, while the counts of a
histogram are integers and are printed in full.
-/

set_option autoImplicit false

namespace RealtimeChat.Metrics

open Foundation Exposition

inductive Call (Number : Type) where
  | increment (name : String) (amount : Number)
  | setGauge (name : String) (value : Number)
  | registerHistogram (name : String) (buckets : List Number)
  | observe (name : String) (value : Number)
  | registerGaugeCallback (name : String)

section Calls

variable {Number : Type} [BEq Number] (doubles : Doubles Number)

def perform (registry : MetricsRegistry Number) : Call Number → MetricsRegistry Number
  | .increment name amount => registry.increment doubles name amount
  | .setGauge name value => registry.setGauge name value
  | .registerHistogram name buckets => registry.registerHistogram doubles name buckets
  | .observe name value => registry.observe doubles name value
  | .registerGaugeCallback name => registry.registerGaugeCallback name

def after (calls : List (Call Number)) : MetricsRegistry Number := calls.foldl (perform doubles) .initial

theorem after_append (calls : List (Call Number)) (call : Call Number) :
    after doubles (calls ++ [call]) = perform doubles (after doubles calls) call := by
  rw [after, List.foldl_append]
  rfl

end Calls

section Counters

variable {Number : Type}

def Call.increments (name : String) : Call Number → Bool
  | .increment other _ => other = name
  | .setGauge _ _ | .registerHistogram _ _ | .observe _ _ | .registerGaugeCallback _ => false

def increments (name : String) (calls : List (Call Number)) : Nat := calls.countP (Call.increments name)

def ByOne (doubles : Doubles Number) (name : String) (calls : List (Call Number)) : Prop :=
  ∀ amount, Call.increment name amount ∈ calls → amount = doubles.ofNat 1

/-- Doubles hold the natural numbers below `2 ^ 53`, and the stream prints six significant digits of them. -/
structure SixDigits (doubles : Doubles Number) : Prop where
  exact : ∀ number, number + 1 < 2 ^ 53 →
    doubles.add (doubles.ofNat number) (doubles.ofNat 1) = doubles.ofNat (number + 1)
  printed : ∀ number, number < 2 ^ 53 → doubles.text (doubles.ofNat number) = Significant.text 6 number

variable [BEq Number] {doubles : Doubles Number}

variable {name : String} {calls : List (Call Number)} {registry : MetricsRegistry Number} {reading : String → Number}
  {text : List Char} {number : Nat}

theorem counter_after (standard : SixDigits doubles) (byOne : ByOne doubles name calls)
    (bounded : increments name calls < 2 ^ 53) :
    (after doubles calls).counters.find name =
      if increments name calls = 0 then none else some (doubles.ofNat (increments name calls)) := by
  induction calls using List.reverseRecOn with
  | nil => rfl
  | append_singleton calls call ih =>
    have before : ByOne doubles name calls := fun amount member => byOne amount (List.mem_append_left _ member)
    have count : increments name (calls ++ [call]) = increments name calls + if call.increments name then 1 else 0 := by
      rw [increments, increments, List.countP_append, List.countP_singleton]
    rw [count] at bounded ⊢
    rw [after_append]
    have held := ih before (by omega)
    cases call with
    | increment other amount =>
      simp only [perform, MetricsRegistry.increment, SortedMap.find_alter]
      by_cases same : other = name
      · subst same
        have one : amount = doubles.ofNat 1 := byOne amount (by simp)
        have sum : ((after doubles calls).counters.find other).getD doubles.zero =
            doubles.ofNat (increments other calls) := by
          rw [held]
          split
          · next none => rw [none]; rfl
          · rfl
        simp only [Call.increments, decide_true, if_true] at bounded ⊢
        rw [sum, one, standard.exact _ bounded, if_neg (Nat.succ_ne_zero _)]
      · simpa only [Call.increments, same, Ne.symm same, decide_false, Bool.false_eq_true, if_false, Nat.add_zero] using held
    | setGauge _ _ | registerHistogram _ _ | observe _ _ | registerGaugeCallback _ => exact held

omit [BEq Number] in
theorem counter_mem_families : single .counter name text ∈ registry.families doubles reading ↔
      ∃ value, registry.counters.find name = some value ∧ text = doubles.text value := by
  constructor
  · intro member
    simp only [MetricsRegistry.families, List.mem_append, List.mem_map, List.mem_flatMap] at member
    rcases member with ((⟨entry, listed, same⟩ | ⟨_, _, same⟩) | ⟨_, _, same⟩) | ⟨entry, _, inside⟩
    · have named : entry.1 = name := String.toList_inj.mp (congrArg Family.name same)
      have shown : entry.1.toList = name.toList ∧ doubles.text entry.2 = text := by
        simpa [single] using congrArg Family.samples same
      exact ⟨entry.2, SortedMap.mem_entries_iff.mp (named ▸ listed), shown.2.symm⟩
    · cases congrArg Family.kind same
    · cases congrArg Family.kind same
    · simp only [Histogram.families, List.mem_cons, List.not_mem_nil, or_false] at inside
      rcases inside with same | same <;> cases congrArg Family.kind same
  · rintro ⟨value, found, rfl⟩
    simp only [MetricsRegistry.families, List.mem_append, List.mem_map]
    exact Or.inl (Or.inl (Or.inl ⟨(name, value), SortedMap.mem_entries_iff.mpr found, rfl⟩))

/-- A count is rendered with a text that stands for it, as the value of a counter and as a bound. -/
structure ExactlyRendered (doubles : Doubles Number) (number : Nat) : Prop where
  counter : ∀ (calls : List (Call Number)) (reading : String → Number) (name : String), ByOne doubles name calls →
    increments name calls = number → 0 < number →
      ∃ text, single .counter name text ∈ (after doubles calls).families doubles reading ∧
        Significant.value text = number
  bound : ∀ (registry : MetricsRegistry Number) (reading : String → Number) (name : String)
    (histogram : Histogram Number) (position : Nat), registry.histograms.find name = some histogram →
    histogram.bounds[position]? = some (doubles.ofNat number) →
      ∃ family ∈ registry.families doubles reading, family.name = name.toList ∧ family.kind = .histogram ∧
        ∃ label count, family.samples[position]? = some (bucket name label count) ∧ Significant.value label = number

theorem length_cumulative (before : Nat) (counts : List Nat) : (cumulative before counts).length = counts.length := by
  induction counts generalizing before with
  | nil => rfl
  | cons count rest ih => rw [cumulative, List.length_cons, List.length_cons, ih]

omit [BEq Number] in
theorem bucket_mem_families {histogram : Histogram Number} {position : Nat} {bound : Number}
    (found : registry.histograms.find name = some histogram) (placed : histogram.bounds[position]? = some bound)
    (reading : String → Number) :
    ∃ family ∈ registry.families doubles reading, family.name = name.toList ∧ family.kind = .histogram ∧
      ∃ count, family.samples[position]? = some (bucket name (doubles.text bound) count) := by
  obtain ⟨below, _⟩ := List.getElem?_eq_some_iff.mp placed
  have counted : position < (cumulative 0 histogram.bucketCounts).length := by
    rw [length_cumulative, histogram.sized]
    exact below
  have paired : (histogram.bounds.zip (cumulative 0 histogram.bucketCounts))[position]? =
      some (bound, (cumulative 0 histogram.bucketCounts)[position]) :=
    List.getElem?_zip_eq_some.mpr ⟨placed, List.getElem?_eq_getElem counted⟩
  refine ⟨(histogram.families doubles name).head (List.cons_ne_nil _ _), ?_, rfl, rfl,
    (cumulative 0 histogram.bucketCounts)[position], ?_⟩
  · simp only [MetricsRegistry.families, List.mem_append, List.mem_flatMap]
    exact Or.inr ⟨(name, histogram), SortedMap.mem_entries_iff.mpr found, List.mem_cons_self⟩
  · simp only [Histogram.families, List.head_cons]
    rw [List.getElem?_append_left (by rw [List.length_map, List.length_zip]; exact lt_min below counted),
      List.getElem?_map, paired]
    rfl

theorem counter_rendered_iff (standard : SixDigits doubles) (byOne : ByOne doubles name calls)
    (bounded : increments name calls < 2 ^ 53) :
    single .counter name text ∈ (after doubles calls).families doubles reading ↔
      0 < increments name calls ∧ text = Significant.text 6 (increments name calls) := by
  rw [counter_mem_families, counter_after standard byOne bounded, ← standard.printed _ bounded]
  split
  · next none => simp [none]
  · next some => simp [Nat.pos_of_ne_zero some]

theorem exactlyRendered_of_fits (standard : SixDigits doubles) (bounded : number < 2 ^ 53)
    (fits : Significant.Fits 6 number) : ExactlyRendered doubles number where
  counter := by
    rintro calls reading name byOne rfl positive
    exact ⟨_, (counter_rendered_iff standard byOne bounded).mpr ⟨positive, rfl⟩, (Significant.value_text_iff 5 _).mpr fits⟩
  bound := by
    intro registry reading name histogram position found placed
    obtain ⟨family, member, named, kind, count, sample⟩ := bucket_mem_families found placed reading
    refine ⟨family, member, named, kind, _, count, sample, ?_⟩
    rw [standard.printed number bounded]
    exact (Significant.value_text_iff 5 number).mpr fits

theorem fits_of_exactlyRendered (standard : SixDigits doubles) (bounded : number < 2 ^ 53)
    (exact : ExactlyRendered doubles number) : Significant.Fits 6 number := by
  rcases Nat.eq_zero_or_pos number with rfl | positive
  · exact ⟨0, 0, by decide, rfl⟩
  · have count : increments "n" (List.replicate number (Call.increment "n" (doubles.ofNat 1))) = number := by
      simp [increments, List.countP_replicate, Call.increments]
    have byOne : ByOne doubles "n" (List.replicate number (Call.increment "n" (doubles.ofNat 1))) := by
      intro amount member
      cases List.eq_of_mem_replicate member
      rfl
    obtain ⟨text, rendered, value⟩ := exact.counter _ (fun _ => doubles.zero) "n" byOne count positive
    obtain ⟨_, shown⟩ := (counter_rendered_iff standard byOne (by rw [count]; exact bounded)).mp rendered
    rw [shown, count] at value
    exact (Significant.value_text_iff 5 number).mp value

/-- Below `2 ^ 53` a count is rendered exactly if it has at most six significant digits, and two such counts of a
counter are told apart by their texts. -/
theorem scrape_exact_iff (standard : SixDigits doubles) :
    (∀ number, number < 2 ^ 53 → (ExactlyRendered doubles number ↔ Significant.Fits 6 number)) ∧
    ∀ (calls others : List (Call Number)) (reading elsewhere : String → Number) (name : String) (text : List Char),
      ByOne doubles name calls → ByOne doubles name others →
      increments name calls < 2 ^ 53 → increments name others < 2 ^ 53 →
      Significant.Fits 6 (increments name calls) → Significant.Fits 6 (increments name others) →
      single .counter name text ∈ (after doubles calls).families doubles reading →
      single .counter name text ∈ (after doubles others).families doubles elsewhere →
        increments name calls = increments name others := by
  refine ⟨fun number bounded => ⟨fits_of_exactlyRendered standard bounded, exactlyRendered_of_fits standard bounded⟩, ?_⟩
  intro calls others reading elsewhere name text byOne alsoByOne bounded alsoBounded fits alsoFits here there
  obtain ⟨_, shown⟩ := (counter_rendered_iff standard byOne bounded).mp here
  obtain ⟨_, alsoShown⟩ := (counter_rendered_iff standard alsoByOne alsoBounded).mp there
  have value := (Significant.value_text_iff 5 _).mpr fits
  rw [← shown, alsoShown, (Significant.value_text_iff 5 _).mpr alsoFits] at value
  exact_mod_cast value.symm

end Counters

def sixDigitCounts : Doubles Nat where
  literal value := value.num.toNat
  add := Nat.add
  divide := Nat.div
  less first second := first.blt second
  text := Significant.text 6
  isNumber_text := Significant.isNumber_text 5

theorem sixDigitCounts_standard : SixDigits sixDigitCounts := by
  have same (number : Nat) : sixDigitCounts.ofNat number = number := by
    simp [Doubles.ofNat, sixDigitCounts, Rat.mkRat_one]
  exact ⟨fun number _ => by rw [same, same, same]; rfl, fun number _ => by rw [same]; rfl⟩

theorem scrape_exact_iff_six : SixDigits sixDigitCounts ∧ ExactlyRendered sixDigitCounts 123456 :=
  ⟨sixDigitCounts_standard,
    ((scrape_exact_iff sixDigitCounts_standard).1 123456 (by decide)).mpr ⟨123456, 0, by decide, rfl⟩⟩

/-- A counter stands still at a million: the next count is rendered with the same text. -/
theorem million_rendered_twice :
    SixDigits sixDigitCounts ∧ Significant.text 6 1000000 = "1e+06".toList ∧
      Significant.text 6 1000001 = "1e+06".toList ∧ ¬ ExactlyRendered sixDigitCounts 1000001 := by
  refine ⟨sixDigitCounts_standard, by decide +kernel, by decide +kernel, fun exact => ?_⟩
  obtain ⟨mantissa, places, small, same⟩ := fits_of_exactlyRendered sixDigitCounts_standard (by decide) exact
  cases places with
  | zero =>
    rw [pow_zero, Nat.mul_one] at same
    omega
  | succ places =>
    rw [pow_succ, ← Nat.mul_assoc] at same
    omega

end RealtimeChat.Metrics
