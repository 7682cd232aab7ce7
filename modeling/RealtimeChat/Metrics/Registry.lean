import RealtimeChat.Foundation.Exposition
import RealtimeChat.Foundation.SortedMap
import Mathlib.Data.Rat.Defs
import Mathlib.Data.String.Basic

/-! The metrics registry and its text.

Counters, gauges and histograms are created by their first use. Gauges that are
read when the text is rendered are given by a reading for each of them. Numbers
are doubles of the platform, of which it matters how they are printed.
-/

set_option autoImplicit false

namespace RealtimeChat.Metrics

open Foundation Exposition

/-- Doubles as the registry uses them. They are printed as numbers. -/
structure Doubles (Number : Type) where
  literal : Rat → Number
  add : Number → Number → Number
  divide : Number → Number → Number
  less : Number → Number → Bool
  text : Number → List Char
  isNumber_text : ∀ value, isNumber (text value) = true

structure Histogram (Number : Type) where
  sum : Number
  count : Nat
  bounds : List Number
  bucketCounts : List Nat
  sized : bucketCounts.length = bounds.length

structure MetricsRegistry (Number : Type) where
  counters : SortedMap String Number
  gauges : SortedMap String Number
  gaugeCallbacks : SortedMap String Unit
  histograms : SortedMap String (Histogram Number)

variable {Number : Type} (doubles : Doubles Number)

def Doubles.zero : Number := doubles.literal (mkRat 0 1)

def Doubles.ofNat (value : Nat) : Number := doubles.literal (mkRat value 1)

def defaultBuckets : List Number :=
  [mkRat 5 1000, mkRat 1 100, mkRat 25 1000, mkRat 5 100, mkRat 1 10, mkRat 25 100, mkRat 5 10, mkRat 1 1, mkRat 25 10,
    mkRat 5 1, mkRat 10 1].map doubles.literal

def Histogram.over (bounds : List Number) : Histogram Number :=
  ⟨doubles.zero, 0, bounds, List.replicate bounds.length 0, List.length_replicate⟩

namespace MetricsRegistry

def initial : MetricsRegistry Number := ⟨.empty, .empty, .empty, .empty⟩

def increment (registry : MetricsRegistry Number) (name : String) (amount : Number) : MetricsRegistry Number :=
  { registry with counters := registry.counters.alter name fun value => doubles.add (value.getD doubles.zero) amount }

def setGauge (registry : MetricsRegistry Number) (name : String) (value : Number) : MetricsRegistry Number :=
  { registry with gauges := registry.gauges.alter name fun _ => value }

/-- The bounds are sorted, and equal ones are merged. -/
def registerHistogram [BEq Number] (registry : MetricsRegistry Number) (name : String) (buckets : List Number) :
    MetricsRegistry Number :=
  let bounds := (buckets.mergeSort fun first second => !doubles.less second first).eraseReps
  { registry with histograms := registry.histograms.alter name fun _ => .over doubles bounds }

def registerGaugeCallback (registry : MetricsRegistry Number) (name : String) : MetricsRegistry Number :=
  { registry with gaugeCallbacks := registry.gaugeCallbacks.alter name fun _ => () }

end MetricsRegistry

/-- The value goes to the first bucket that it does not exceed, which `std::lower_bound` finds. -/
def Histogram.observe (histogram : Histogram Number) (value : Number) : Histogram Number :=
  let index := histogram.bounds.findIdx fun bound => !doubles.less bound value
  { histogram with
    sum := doubles.add histogram.sum value
    count := histogram.count + 1
    bucketCounts := histogram.bucketCounts.modify index (· + 1)
    sized := List.length_modify _ _ _ |>.trans histogram.sized }

/-- A histogram without bounds is given the default ones. -/
def Histogram.ready (found : Option (Histogram Number)) : Histogram Number :=
  match found with
  | none => .over doubles (defaultBuckets doubles)
  | some histogram =>
    if histogram.bounds.isEmpty then
      { Histogram.over doubles (defaultBuckets doubles) with sum := histogram.sum, count := histogram.count }
    else histogram

namespace MetricsRegistry

def observe (registry : MetricsRegistry Number) (name : String) (value : Number) : MetricsRegistry Number :=
  { registry with
    histograms := registry.histograms.alter name fun found => (Histogram.ready doubles found).observe doubles value }

end MetricsRegistry

section Rendering

def single (kind : Kind) (name : String) (value : List Char) : Family := ⟨name.toList, kind, [⟨name.toList, none, value⟩]⟩

def cumulative : Nat → List Nat → List Nat
  | _, [] => []
  | before, count :: rest => (before + count) :: cumulative (before + count) rest

def bucket (name : String) (bound : List Char) (count : Nat) : Sample :=
  ⟨(name ++ "_bucket").toList, some ("le".toList, bound), count.repr.toList⟩

def Histogram.families (name : String) (histogram : Histogram Number) : List Family :=
  let buckets := (histogram.bounds.zip (cumulative 0 histogram.bucketCounts)).map fun (bound, count) =>
    bucket name (doubles.text bound) count
  let average :=
    if histogram.count = 0 then doubles.zero else doubles.divide histogram.sum (doubles.ofNat histogram.count)
  [⟨name.toList, .histogram, buckets ++
    [bucket name "+Inf".toList histogram.count,
      ⟨(name ++ "_sum").toList, none, doubles.text histogram.sum⟩,
      ⟨(name ++ "_count").toList, none, histogram.count.repr.toList⟩]⟩,
    single .gauge (name ++ "_avg") (doubles.text average)]

/-- What is rendered. The callbacks are asked at that moment. -/
def MetricsRegistry.families (registry : MetricsRegistry Number) (reading : String → Number) : List Family :=
  registry.counters.entries.map (fun (name, value) => single .counter name (doubles.text value)) ++
  registry.gauges.entries.map (fun (name, value) => single .gauge name (doubles.text value)) ++
  registry.gaugeCallbacks.entries.map (fun (name, _) => single .gauge name (doubles.text (reading name))) ++
  registry.histograms.entries.flatMap fun (name, histogram) => histogram.families doubles name

def MetricsRegistry.renderPrometheus (registry : MetricsRegistry Number) (reading : String → Number) : List Char :=
  document (registry.families doubles reading)

end Rendering

section Names

def averaged (name : String) : List String := [name, name ++ "_avg"]

def MetricsRegistry.names (registry : MetricsRegistry Number) : List String :=
  registry.counters.keys ++ registry.gauges.keys ++ registry.gaugeCallbacks.keys ++
    registry.histograms.keys.flatMap averaged

theorem whole_of_isNumber {text : List Char} (number : isNumber text = true) : '\n' ∉ text := fun breaks =>
  absurd (isNumeric_of_isNumber number _ breaks) (by decide)

variable {name ending : String} {value : List Char} {registry : MetricsRegistry Number}

theorem single_plain (plain : Plain name.toList) (number : isNumber value = true) (kind : Kind) :
    (single kind name value).Plain where
  name := plain
  samples := by
    simp only [single, List.mem_singleton, forall_eq]
    exact ⟨plain, nofun, whole_of_isNumber number⟩

theorem single_valid (number : isNumber value = true) (kind : Kind) :
    (single kind name value).Valid ↔ isName name.toList = true := by
  refine ⟨Family.Valid.name, fun valid => ⟨valid, ?_⟩⟩
  simp only [single, List.mem_singleton, forall_eq]
  exact ⟨valid, number⟩

theorem bucket_plain {bound : List Char} (plain : Plain (name ++ "_bucket").toList) (number : isNumber bound = true)
    (count : Nat) : (bucket name bound count).Plain where
  name := plain
  label key text labelled := by
    cases labelled
    refine ⟨⟨'l', ['e'], by decide, by decide, by decide⟩, fun c member => ?_⟩
    have numeric := isNumeric_of_isNumber number c member
    refine ⟨?_, ?_, ?_⟩ <;>
    · rintro rfl
      exact absurd numeric (by decide)
  value := whole_of_isNumber (isNumber_repr count)

theorem suffixed_plain (plain : Plain name.toList) (all : ending.toList.all isNameChar = true) :
    Plain (name ++ ending).toList := by
  rw [String.toList_append]
  exact plain.append (plain_of_all all)

theorem suffixed_isName (valid : isName name.toList = true) (all : ending.toList.all isNameChar = true) :
    isName (name ++ ending).toList = true := by
  rw [String.toList_append]
  exact isName_append valid all

variable {doubles}

theorem Histogram.families_plain (plain : Plain name.toList) (histogram : Histogram Number) :
    ∀ family ∈ histogram.families doubles name, family.Plain := by
  have buckets := suffixed_plain plain (show "_bucket".toList.all isNameChar = true by decide)
  have sum := suffixed_plain plain (show "_sum".toList.all isNameChar = true by decide)
  have count := suffixed_plain plain (show "_count".toList.all isNameChar = true by decide)
  have average := suffixed_plain plain (show "_avg".toList.all isNameChar = true by decide)
  simp only [Histogram.families, List.forall_mem_cons, List.not_mem_nil, false_implies, implies_true, and_true]
  refine ⟨⟨plain, ?_⟩, single_plain average (doubles.isNumber_text _) .gauge⟩
  simp only [List.forall_mem_append, List.forall_mem_map, List.forall_mem_cons, List.not_mem_nil, false_implies,
    implies_true, and_true]
  refine ⟨fun entry _ => bucket_plain buckets (doubles.isNumber_text _) _, bucket_plain buckets (by decide) _, ?_, ?_⟩
  · exact ⟨sum, nofun, whole_of_isNumber (doubles.isNumber_text _)⟩
  · exact ⟨count, nofun, whole_of_isNumber (isNumber_repr _)⟩

theorem Histogram.families_valid (histogram : Histogram Number) :
    (∀ family ∈ histogram.families doubles name, family.Valid) ↔ isName name.toList = true := by
  constructor
  · intro valid
    exact (valid _ List.mem_cons_self).name
  · intro valid
    have buckets := suffixed_isName valid (show "_bucket".toList.all isNameChar = true by decide)
    have sum := suffixed_isName valid (show "_sum".toList.all isNameChar = true by decide)
    have count := suffixed_isName valid (show "_count".toList.all isNameChar = true by decide)
    have average := suffixed_isName valid (show "_avg".toList.all isNameChar = true by decide)
    simp only [Histogram.families, List.forall_mem_cons, List.not_mem_nil, false_implies, implies_true, and_true]
    refine ⟨⟨valid, ?_⟩, (single_valid (doubles.isNumber_text _) .gauge).mpr average⟩
    simp only [List.forall_mem_append, List.forall_mem_map, List.forall_mem_cons, List.not_mem_nil, false_implies,
      implies_true, and_true]
    refine ⟨fun entry _ => ⟨buckets, isNumber_repr _⟩, ⟨buckets, isNumber_repr _⟩, ?_, ?_⟩
    · exact ⟨sum, doubles.isNumber_text _⟩
    · exact ⟨count, isNumber_repr _⟩

theorem MetricsRegistry.families_plain (plain : ∀ name ∈ registry.names, Plain name.toList)
    (reading : String → Number) : ∀ family ∈ registry.families doubles reading, family.Plain := by
  simp only [names, averaged, SortedMap.keys, List.forall_mem_append, List.forall_mem_map, List.forall_mem_flatMap,
    List.forall_mem_cons] at plain
  obtain ⟨⟨⟨counters, gauges⟩, callbacks⟩, histograms⟩ := plain
  simp only [families, List.forall_mem_append, List.forall_mem_map, List.forall_mem_flatMap]
  refine ⟨⟨⟨fun entry listed => ?_, fun entry listed => ?_⟩, fun entry listed => ?_⟩, fun entry listed => ?_⟩
  · exact single_plain (counters entry listed) (doubles.isNumber_text _) .counter
  · exact single_plain (gauges entry listed) (doubles.isNumber_text _) .gauge
  · exact single_plain (callbacks entry listed) (doubles.isNumber_text _) .gauge
  · exact Histogram.families_plain (histograms entry listed).1 entry.2

theorem MetricsRegistry.families_valid (reading : String → Number) :
    (∀ family ∈ registry.families doubles reading, family.Valid) ↔
      ∀ name ∈ registry.names, isName name.toList = true := by
  have average (name : String) :
      (isName name.toList = true ∧ isName (name ++ "_avg").toList = true) ↔ isName name.toList = true :=
    and_iff_left_of_imp fun valid => suffixed_isName valid (by decide)
  simp only [families, names, averaged, SortedMap.keys, List.forall_mem_append, List.forall_mem_map, List.forall_mem_flatMap,
    List.forall_mem_cons, List.not_mem_nil, false_implies, implies_true, and_true, average,
    single_valid (doubles.isNumber_text _), Histogram.families_valid]

theorem MetricsRegistry.map_name_families (reading : String → Number) :
    (registry.families doubles reading).map Family.name = registry.names.map String.toList := by
  simp only [families, names, averaged, SortedMap.keys, List.map_append, List.map_map, List.map_flatMap, Function.comp_def, single,
    Histogram.families, List.map_cons, List.map_nil, List.flatMap_map]

theorem MetricsRegistry.wellFormed_render (plain : ∀ name ∈ registry.names, Plain name.toList)
    (reading : String → Number) :
    wellFormed (registry.renderPrometheus doubles reading) = true ↔
      (∀ name ∈ registry.names, isName name.toList = true) ∧ registry.names.Nodup := by
  rw [renderPrometheus, wellFormed_document (families_plain plain reading), families_valid, map_name_families,
    List.nodup_map_iff fun _ _ same => String.toList_injective same]

end Names

end RealtimeChat.Metrics
