import RealtimeChat.Foundation.Bins
import RealtimeChat.Metrics.Scrape

/-! Histograms over whole runs.

An observation is stored in one bucket, and the counts up to each bound are only
added up when the text is rendered. In every run the sums are the numbers of the
observations since the last registration that do not exceed the bound. Values
and bounds are taken from a linear order.
-/

set_option autoImplicit false

namespace RealtimeChat.Metrics

open Foundation Exposition

/-- Doubles without the value that is no number: they are ordered, and so are the default bounds. -/
structure Ordered {Number : Type} [LinearOrder Number] (doubles : Doubles Number) : Prop where
  less_eq : ∀ first second, doubles.less first second = decide (first < second)
  defaults : (defaultBuckets doubles).Pairwise (· < ·)

theorem Ordered.not_less {Number : Type} [LinearOrder Number] {doubles : Doubles Number} (ordered : Ordered doubles)
    (value : Number) : (fun bound => !doubles.less bound value) = fun bound => decide (value ≤ bound) := by
  funext bound
  rw [ordered.less_eq, ← decide_not]
  exact decide_eq_decide.mpr not_lt

section Totals

theorem cumulative_succ (before : Nat) (counts : List Nat) :
    cumulative (before + 1) counts = (cumulative before counts).map (· + 1) := by
  induction counts generalizing before with
  | nil => rfl
  | cons count rest ih =>
    rw [cumulative, cumulative, List.map_cons, ← ih, Nat.add_right_comm]

theorem cumulative_modify (before index : Nat) (counts : List Nat) : cumulative before (counts.modify index (· + 1)) =
      (cumulative before counts).take index ++ ((cumulative before counts).drop index).map (· + 1) := by
  induction counts generalizing before index with
  | nil => simp [cumulative]
  | cons count rest ih =>
    cases index with
    | zero =>
      rw [List.modify_zero_cons, cumulative, cumulative, ← Nat.add_assoc, cumulative_succ]
      rfl
    | succ index =>
      rw [List.modify_succ_cons, cumulative, cumulative, ih]
      rfl

theorem cumulative_replicate (before length : Nat) :
    cumulative before (List.replicate length 0) = List.replicate length before := by
  induction length with
  | zero => rfl
  | succ length ih => rw [List.replicate_succ, cumulative, Nat.add_zero, ih, List.replicate_succ]

end Totals

section Runs

variable {Number : Type}

/-- The observations of a histogram since it was last registered, one call further. -/
def note (name : String) (observed : List Number) : Call Number → List Number
  | .registerHistogram other _ => if other = name then [] else observed
  | .observe other value => if other = name then observed ++ [value] else observed
  | .increment _ _ | .setGauge _ _ | .registerGaugeCallback _ => observed

def observations (name : String) (calls : List (Call Number)) : List Number := calls.foldl (note name) []

theorem observations_append (name : String) (calls : List (Call Number)) (call : Call Number) :
    observations name (calls ++ [call]) = note name (observations name calls) call := by
  rw [observations, List.foldl_append]
  rfl

variable [LinearOrder Number]

structure Tracks (observed : List Number) (histogram : Histogram Number) : Prop where
  increasing : histogram.bounds.Pairwise (· < ·)
  counted : histogram.count = observed.length
  cumulated : cumulative 0 histogram.bucketCounts = histogram.bounds.map fun bound => observed.countP (· ≤ bound)
  filled : histogram.bounds = [] → observed = []

variable {doubles : Doubles Number} {observed : List Number}

theorem Tracks.over {bounds : List Number} (increasing : bounds.Pairwise (· < ·)) :
    Tracks [] (Histogram.over doubles bounds) where
  increasing := increasing
  counted := rfl
  cumulated := by
    rw [Histogram.over, cumulative_replicate]
    simp
  filled _ := rfl

theorem Tracks.observe (ordered : Ordered doubles) {histogram : Histogram Number} (tracks : Tracks observed histogram)
    (bounded : histogram.bounds ≠ []) (value : Number) : Tracks (observed ++ [value]) (histogram.observe doubles value) where
  increasing := tracks.increasing
  counted := by rw [Histogram.observe, tracks.counted, List.length_append]; rfl
  cumulated := by
    -- From the bucket of the value on, the sums and the numbers of observations both go up by one.
    simp only [Histogram.observe, ordered.not_less, cumulative_modify, tracks.cumulated]
    exact (Bins.map_countP_append tracks.increasing observed value).symm
  filled none := absurd none bounded

def Follows (observed : List Number) : Option (Histogram Number) → Prop
  | none => observed = []
  | some histogram => Tracks observed histogram

variable (ordered : Ordered doubles)

include ordered

/-- A histogram without bounds has seen nothing, so nothing is lost when it gets the default ones. -/
theorem Follows.ready {found : Option (Histogram Number)} (follows : Follows observed found) :
    Tracks observed (Histogram.ready doubles found) ∧ (Histogram.ready doubles found).bounds ≠ [] := by
  have defaults : Tracks [] (Histogram.over doubles (defaultBuckets doubles)) := .over ordered.defaults
  have bounded : defaultBuckets doubles ≠ [] := List.cons_ne_nil _ _
  cases found with
  | none =>
    cases follows
    exact ⟨defaults, bounded⟩
  | some histogram =>
    unfold Histogram.ready
    dsimp only
    split
    · next empty =>
      -- Registered with no bounds: an observation would have brought the default ones.
      have nothing := follows.filled (List.isEmpty_iff.mp empty)
      subst nothing
      exact ⟨⟨defaults.increasing, follows.counted, defaults.cumulated, fun _ => rfl⟩, bounded⟩
    · next filled => exact ⟨follows, by simpa using filled⟩

theorem Ordered.increasing (buckets : List Number) :
    (buckets.mergeSort fun first second => !doubles.less second first).eraseReps.Pairwise (· < ·) := by
  have compared (first second : Number) : (!doubles.less second first) = decide (first ≤ second) :=
    congrFun (ordered.not_less first) second
  simp only [compared]
  refine Bins.pairwise_eraseReps ((List.pairwise_mergeSort ?_ ?_ buckets).imp of_decide_eq_true)
  · intro first second third before after
    exact decide_eq_true ((of_decide_eq_true before).trans (of_decide_eq_true after))
  · intro first second
    simpa using le_total first second

theorem follows_perform {registry : MetricsRegistry Number} {name : String}
    (follows : Follows observed (registry.histograms.find name)) (call : Call Number) :
    Follows (note name observed call) ((perform doubles registry call).histograms.find name) := by
  cases call with
  | registerHistogram other buckets =>
    simp only [perform, note, MetricsRegistry.registerHistogram, SortedMap.find_alter]
    by_cases same : other = name
    · subst same
      rw [if_pos rfl, if_pos rfl]
      exact Tracks.over (ordered.increasing buckets)
    · rwa [if_neg same, if_neg (Ne.symm same)]
  | observe other value =>
    simp only [perform, note, MetricsRegistry.observe, SortedMap.find_alter]
    by_cases same : other = name
    · subst same
      rw [if_pos rfl, if_pos rfl]
      obtain ⟨tracks, bounded⟩ := follows.ready ordered
      exact tracks.observe ordered bounded value
    · rwa [if_neg same, if_neg (Ne.symm same)]
  | increment _ _ | setGauge _ _ | registerGaugeCallback _ => exact follows

theorem follows_after (name : String) (calls : List (Call Number)) :
    Follows (observations name calls) ((after doubles calls).histograms.find name) := by
  induction calls using List.reverseRecOn with
  | nil => rfl
  | append_singleton calls call ih =>
    rw [after_append, observations_append]
    exact follows_perform ordered ih call

end Runs

section Rendering

variable {Number : Type}

def Histogram.family (doubles : Doubles Number) (name : String) (histogram : Histogram Number) : Family :=
  (histogram.families doubles name).head (List.cons_ne_nil _ _)

theorem histogram_mem_families {doubles : Doubles Number} {registry : MetricsRegistry Number} {reading : String → Number}
    {family : Family} : family ∈ registry.families doubles reading ∧ family.kind = .histogram ↔
      ∃ name histogram, registry.histograms.find name = some histogram ∧ family = histogram.family doubles name := by
  constructor
  · rintro ⟨member, kind⟩
    simp only [MetricsRegistry.families, List.mem_append, List.mem_map, List.mem_flatMap] at member
    rcases member with ((⟨_, _, rfl⟩ | ⟨_, _, rfl⟩) | ⟨_, _, rfl⟩) | ⟨entry, listed, inside⟩
    · cases kind
    · cases kind
    · cases kind
    · simp only [Histogram.families, List.mem_cons, List.not_mem_nil, or_false] at inside
      rcases inside with rfl | rfl
      · exact ⟨entry.1, entry.2, SortedMap.mem_entries_iff.mp listed, rfl⟩
      · cases kind
  · rintro ⟨name, histogram, found, rfl⟩
    refine ⟨?_, rfl⟩
    simp only [MetricsRegistry.families, List.mem_append, List.mem_flatMap]
    exact Or.inr ⟨(name, histogram), SortedMap.mem_entries_iff.mpr found, List.mem_cons_self⟩

def Call.Concerns (name : String) : Call Number → Prop
  | .registerHistogram other _ | .observe other _ => other = name
  | .increment _ _ | .setGauge _ _ | .registerGaugeCallback _ => False

theorem find_isSome_after [BEq Number] (doubles : Doubles Number) (name : String) (calls : List (Call Number)) :
    ((after doubles calls).histograms.find name).isSome ↔ ∃ call ∈ calls, call.Concerns name := by
  induction calls using List.reverseRecOn with
  | nil => simp [after, MetricsRegistry.initial, SortedMap.find_empty]
  | append_singleton calls call ih =>
    simp only [List.mem_append, List.mem_singleton, or_and_right, exists_or, exists_eq_left, ← ih, after_append]
    cases call with
    | registerHistogram other _ | observe other _ =>
      simp only [perform, MetricsRegistry.registerHistogram, MetricsRegistry.observe, SortedMap.find_alter, Call.Concerns]
      by_cases same : other = name
      · simp [same]
      · simp [same, Ne.symm same]
    | increment _ _ | setGauge _ _ | registerGaugeCallback _ =>
      simp [perform, MetricsRegistry.increment, MetricsRegistry.setGauge, MetricsRegistry.registerGaugeCallback, Call.Concerns]

variable [LinearOrder Number]

structure Reports (doubles : Doubles Number) (name : String) (observed bounds : List Number) (family : Family) : Prop where
  named : family.name = name.toList
  increasing : bounds.Pairwise (· < ·)
  rising : (bounds.map fun bound => observed.countP (· ≤ bound)).Pairwise (· ≤ ·)
  samples : ∃ sum, family.samples =
    (bounds.map fun bound => bucket name (doubles.text bound) (observed.countP (· ≤ bound))) ++
      [bucket name "+Inf".toList observed.length, ⟨(name ++ "_sum").toList, none, sum⟩,
        ⟨(name ++ "_count").toList, none, observed.length.repr.toList⟩]

variable {doubles : Doubles Number}

theorem Tracks.reports {observed : List Number} {histogram : Histogram Number} (tracks : Tracks observed histogram)
    (name : String) : Reports doubles name observed histogram.bounds (histogram.family doubles name) where
  named := rfl
  increasing := tracks.increasing
  rising := by
    refine List.pairwise_map.mpr (tracks.increasing.imp fun less => ?_)
    exact List.countP_mono_left fun value _ below => decide_eq_true ((of_decide_eq_true below).trans less.le)
  samples := by
    refine ⟨doubles.text histogram.sum, ?_⟩
    have paired (counts : Number → Nat) : (histogram.bounds.zip (histogram.bounds.map counts)).map
        (fun entry => bucket name (doubles.text entry.1) entry.2) =
          histogram.bounds.map fun bound => bucket name (doubles.text bound) (counts bound) := by
      rw [List.map_zip_eq_zipWith, List.zipWith_map_right, List.zipWith_self]
      rfl
    simp only [Histogram.family, Histogram.families, List.head_cons, tracks.cumulated, tracks.counted, paired]

/-- In every run the buckets of a histogram are the numbers of the observations up to their bounds, and every name
that has been registered or observed is rendered. -/
theorem histograms_cumulative (ordered : Ordered doubles) (calls : List (Call Number)) (reading : String → Number) :
    (∀ family ∈ (after doubles calls).families doubles reading, family.kind = .histogram →
      ∃ name histogram, (after doubles calls).histograms.find name = some histogram ∧
        Reports doubles name (observations name calls) histogram.bounds family) ∧
    ∀ name, (∃ call ∈ calls, call.Concerns name) →
      ∃ family ∈ (after doubles calls).families doubles reading, family.kind = .histogram ∧
        ∃ histogram, (after doubles calls).histograms.find name = some histogram ∧
          Reports doubles name (observations name calls) histogram.bounds family := by
  have tracks {name : String} {histogram : Histogram Number}
      (found : (after doubles calls).histograms.find name = some histogram) : Tracks (observations name calls) histogram := by
    have follows := follows_after ordered name calls
    rwa [found] at follows
  constructor
  · intro family member kind
    obtain ⟨name, histogram, found, rfl⟩ := histogram_mem_families.mp ⟨member, kind⟩
    exact ⟨name, histogram, found, (tracks found).reports name⟩
  · intro name concerned
    obtain ⟨histogram, found⟩ := Option.isSome_iff_exists.mp ((find_isSome_after doubles name calls).mpr concerned)
    obtain ⟨member, kind⟩ := histogram_mem_families.mpr ⟨name, histogram, found, rfl⟩
    exact ⟨_, member, kind, histogram, found, (tracks found).reports name⟩

end Rendering

def thousandths : Doubles Nat where
  literal value := (value * 1000).num.toNat
  add := Nat.add
  divide first second := first * 1000 / second
  less first second := decide (first < second)
  text value := value.repr.toList
  isNumber_text := isNumber_repr

theorem thousandths_ordered : Ordered thousandths := ⟨fun _ _ => rfl, by decide +kernel⟩

theorem histograms_cumulative_latency : Ordered thousandths ∧
    ∃ family ∈ (after thousandths [.observe "latency" 7, .registerHistogram "latency" [20, 10, 20],
        .observe "latency" 15, .observe "latency" 20, .observe "latency" 30]).families thousandths fun _ => 0,
      family.kind = .histogram ∧ ∃ bounds, Reports thousandths "latency" [15, 20, 30] bounds family := by
  refine ⟨thousandths_ordered, ?_⟩
  obtain ⟨family, member, kind, histogram, _, reports⟩ := (histograms_cumulative thousandths_ordered
    [.observe "latency" 7, .registerHistogram "latency" [20, 10, 20], .observe "latency" 15, .observe "latency" 20,
      .observe "latency" 30] fun _ => 0).2 "latency" ⟨_, List.mem_cons_self, rfl⟩
  exact ⟨family, member, kind, histogram.bounds, reports⟩

end RealtimeChat.Metrics
