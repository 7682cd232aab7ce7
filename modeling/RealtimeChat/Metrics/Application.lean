import RealtimeChat.Metrics.Registry
import RealtimeChat.Events.DomainEvent

/-! The metrics of the wired application.

Gauges that are read at the scrape and the bounds of the upload histogram are
registered at the start. Requests, uploads, downloads, notifications and the
latency probe use fixed names; the subscriber of the event bus makes the name of a
counter from the name of the event.
-/

set_option autoImplicit false

namespace RealtimeChat.Metrics

open Foundation Exposition Events

inductive Activity (Number : Type) where
  | deliver (event : DomainEvent)
  | upload (bytes : Nat)
  | download
  | notification
  | request (status : Nat) (seconds : Number)
  | probe (database cache : Number)

def eventMetric (type : EventType) : String := "rtc_domain_event_" ++ type.toString ++ "_total"

def uploadBuckets : List Nat := [1024, 16384, 131072, 1048576, 5242880, 10485760, 26214400]

def callbackNames : List String :=
  ["rtc_ws_connections", "rtc_active_users", "rtc_cache_hit_ratio", "rtc_uptime_seconds", "rtc_process_memory_bytes",
    "rtc_background_jobs_pending", "rtc_event_bus_published_total", "rtc_event_bus_dropped_total",
    "rtc_event_bus_handler_failures_total", "rtc_authz_cache_hits_total", "rtc_authz_cache_misses_total",
    "rtc_spans_started_total", "rtc_spans_exported_total", "rtc_spans_dropped_total", "rtc_cluster_published_total",
    "rtc_cluster_received_total"]

variable {Number : Type} (doubles : Doubles Number)

/-- The registry after `register_metrics`. -/
def registered [BEq Number] : MetricsRegistry Number :=
  callbackNames.foldl MetricsRegistry.registerGaugeCallback
    (MetricsRegistry.initial.registerHistogram doubles "rtc_upload_bytes" (uploadBuckets.map doubles.ofNat))

def record (registry : MetricsRegistry Number) (activity : Activity Number) : MetricsRegistry Number :=
  let one := doubles.ofNat 1
  match activity with
  | .deliver event =>
    (registry.increment doubles "rtc_domain_events_total" one).increment doubles (eventMetric event.type) one
  | .upload bytes =>
    (registry.increment doubles "rtc_uploads_total" one).observe doubles "rtc_upload_bytes" (doubles.ofNat bytes)
  | .download => registry.increment doubles "rtc_downloads_total" one
  | .notification => registry.increment doubles "rtc_notifications_total" one
  | .request status seconds =>
    let registry := (registry.increment doubles "rtc_http_requests_total" one).observe doubles "rtc_http_request_seconds" seconds
    if 500 ≤ status then registry.increment doubles "rtc_http_5xx_total" one
    else if 400 ≤ status then registry.increment doubles "rtc_http_4xx_total" one
    else registry
  | .probe database cache =>
    (registry.setGauge "rtc_db_query_seconds" database).setGauge "rtc_cache_op_seconds" cache

/-- The text of `/metrics` after some activities. -/
def metricsText [BEq Number] (activities : List (Activity Number)) (reading : String → Number) : List Char :=
  (activities.foldl (record doubles) (registered doubles)).renderPrometheus doubles reading

def delivered (activities : List (Activity Number)) : List EventType :=
  activities.filterMap fun activity =>
    match activity with
    | .deliver event => some event.type
    | _ => none

section Names

def counterNames : List String :=
  ["rtc_domain_events_total", "rtc_uploads_total", "rtc_downloads_total", "rtc_notifications_total",
    "rtc_http_requests_total", "rtc_http_5xx_total", "rtc_http_4xx_total"]

def gaugeNames : List String := ["rtc_db_query_seconds", "rtc_cache_op_seconds"]

def histogramNames : List String := ["rtc_upload_bytes", "rtc_http_request_seconds"]

structure Named (types : List EventType) (registry : MetricsRegistry Number) : Prop where
  counters : ∀ name ∈ registry.counters.keys, name ∈ counterNames ∨ ∃ type ∈ types, name = eventMetric type
  events : ∀ type ∈ types, eventMetric type ∈ registry.counters.keys
  gauges : registry.gauges.keys ⊆ gaugeNames
  callbacks : registry.gaugeCallbacks.keys ⊆ callbackNames
  histograms : registry.histograms.keys ⊆ histogramNames

theorem initial_named : Named [] (MetricsRegistry.initial : MetricsRegistry Number) :=
  ⟨nofun, nofun, List.nil_subset _, List.nil_subset _, List.nil_subset _⟩

variable {name : String}

section Steps

variable {doubles} {types : List EventType} {registry : MetricsRegistry Number} (named : Named types registry)

include named

theorem Named.increment (known : name ∈ counterNames) (amount : Number) :
    Named types (registry.increment doubles name amount) where
  counters other member := by
    rcases SortedMap.mem_keys_alter.mp member with rfl | member
    · exact .inl known
    · exact named.counters other member
  events type listed := SortedMap.mem_keys_alter.mpr (.inr (named.events type listed))
  gauges := named.gauges
  callbacks := named.callbacks
  histograms := named.histograms

theorem Named.incrementEvent (type : EventType) (amount : Number) :
    Named (types ++ [type]) (registry.increment doubles (eventMetric type) amount) where
  counters other member := by
    rcases SortedMap.mem_keys_alter.mp member with rfl | member
    · exact .inr ⟨type, List.mem_concat_self, rfl⟩
    · refine (named.counters other member).imp_right fun ⟨earlier, listed, same⟩ => ?_
      exact ⟨earlier, List.mem_append_left _ listed, same⟩
  events other listed := by
    rw [List.mem_append, List.mem_singleton] at listed
    rcases listed with listed | rfl
    · exact SortedMap.mem_keys_alter.mpr (.inr (named.events other listed))
    · exact SortedMap.mem_keys_alter.mpr (.inl rfl)
  gauges := named.gauges
  callbacks := named.callbacks
  histograms := named.histograms

theorem Named.setGauge (known : name ∈ gaugeNames) (value : Number) : Named types (registry.setGauge name value) :=
  { named with
    gauges := fun _ member => (SortedMap.mem_keys_alter.mp member).elim (· ▸ known) (named.gauges ·) }

theorem Named.registerGaugeCallback (known : name ∈ callbackNames) :
    Named types (registry.registerGaugeCallback name) :=
  { named with
    callbacks := fun _ member => (SortedMap.mem_keys_alter.mp member).elim (· ▸ known) (named.callbacks ·) }

theorem Named.observe (known : name ∈ histogramNames) (value : Number) :
    Named types (registry.observe doubles name value) :=
  { named with
    histograms := fun _ member => (SortedMap.mem_keys_alter.mp member).elim (· ▸ known) (named.histograms ·) }

theorem Named.registerHistogram [BEq Number] (known : name ∈ histogramNames) (buckets : List Number) :
    Named types (registry.registerHistogram doubles name buckets) :=
  { named with
    histograms := fun _ member => (SortedMap.mem_keys_alter.mp member).elim (· ▸ known) (named.histograms ·) }

theorem Named.registerAll {names : List String} (known : names ⊆ callbackNames) :
    Named types (names.foldl MetricsRegistry.registerGaugeCallback registry) := by
  induction names generalizing registry with
  | nil => exact named
  | cons name rest ih =>
    have known := List.cons_subset.mp known
    exact ih (named.registerGaugeCallback known.1) known.2

theorem Named.record (activity : Activity Number) :
    Named (types ++ delivered [activity]) (record doubles registry activity) := by
  cases activity <;> simp only [delivered, List.filterMap_cons, List.filterMap_nil, List.append_nil, Metrics.record]
  case deliver event => exact (named.increment (by decide) _).incrementEvent event.type _
  case upload bytes => exact (named.increment (by decide) _).observe (by decide) _
  case download => exact named.increment (by decide) _
  case notification => exact named.increment (by decide) _
  case request status seconds =>
    split
    · exact ((named.increment (by decide) _).observe (by decide) _).increment (by decide) _
    · split
      · exact ((named.increment (by decide) _).observe (by decide) _).increment (by decide) _
      · exact (named.increment (by decide) _).observe (by decide) _
  case probe database cache => exact (named.setGauge (by decide) _).setGauge (by decide) _

theorem Named.recordAll (activities : List (Activity Number)) :
    Named (types ++ delivered activities) (activities.foldl (Metrics.record doubles) registry) := by
  induction activities generalizing types registry with
  | nil => exact (List.append_nil types).symm ▸ named
  | cons activity rest ih =>
    have split : delivered (activity :: rest) = delivered [activity] ++ delivered rest := by
      rw [← List.singleton_append, delivered, List.filterMap_append]
      rfl
    rw [List.foldl_cons, split, ← List.append_assoc]
    exact ih (named.record activity)

end Steps

theorem registered_named [BEq Number] : Named [] (registered doubles) :=
  (initial_named.registerHistogram (by decide) _).registerAll (List.Subset.refl _)

/-- The families of the application, apart from the counters that are named after events. -/
def fixedNames : List String := counterNames ++ gaugeNames ++ callbackNames ++ histogramNames.flatMap averaged

variable {registry : MetricsRegistry Number}

theorem Named.mem_names {types : List EventType} (named : Named types registry)
    (member : name ∈ registry.names) : name ∈ fixedNames ∨ ∃ type ∈ types, name = eventMetric type := by
  simp only [MetricsRegistry.names, List.mem_append] at member
  simp only [fixedNames, List.mem_append]
  rcases member with ((counter | gauge) | callback) | histogram
  · exact (named.counters name counter).imp_left fun known => .inl (.inl (.inl known))
  · exact .inl (.inl (.inl (.inr (named.gauges gauge))))
  · exact .inl (.inl (.inr (named.callbacks callback)))
  · obtain ⟨histogram, listed, declares⟩ := List.mem_flatMap.mp histogram
    exact .inl (.inr (List.mem_flatMap.mpr ⟨histogram, named.histograms listed, declares⟩))

theorem toList_eventMetric (type : EventType) :
    (eventMetric type).toList = "rtc_domain_event_".toList ++ type.toString.toList ++ "_total".toList :=
  String.toList_append.trans (congrArg (· ++ _) String.toList_append)

theorem toString_letters (type : EventType) : type.toString.toList.all (fun c => isNameChar c || c = '.') = true := by
  cases type <;> exact all_literal (by decide)

theorem toString_dotted {type : EventType} (known : type ≠ .count) : type.toString.toList.contains '.' = true := by
  cases type
  case count => exact absurd rfl known
  all_goals exact contains_literal (by decide)

theorem eventMetric_plain (type : EventType) : Plain (eventMetric type).toList := by
  have letters : Plain type.toString.toList := by
    intro c member
    have valid := List.all_eq_true.mp (toString_letters type) c member
    refine ⟨?_, ?_, ?_, ?_⟩ <;>
    · rintro rfl
      exact absurd valid (by decide)
  rw [toList_eventMetric]
  exact (Plain.append (plain_of_all (all_literal (by decide))) letters).append (plain_of_all (all_literal (by decide)))

theorem eventMetric_isName {type : EventType} : isName (eventMetric type).toList = true ↔ type = .count := by
  rw [toList_eventMetric]
  constructor
  · intro valid
    by_contra known
    have dotted := List.contains_iff_mem.mp (toString_dotted known)
    have letters := List.all_eq_true.mp (all_of_isName valid) '.' (List.mem_append_left _ (List.mem_append_right _ dotted))
    exact absurd letters (by decide)
  · rintro rfl
    exact isName_append (isName_append (isName_literal (by decide)) (all_literal (by decide))) (all_literal (by decide))

theorem fixedNames_isName : ∀ name ∈ fixedNames, isName name.toList = true := by
  have scalars : ∀ name ∈ counterNames ++ gaugeNames ++ callbackNames, isName name.toList = true := by
    simp only [counterNames, gaugeNames, callbackNames, List.cons_append, List.nil_append, List.forall_mem_cons]
    repeat' apply And.intro
    on_goal 26 => nofun
    all_goals exact isName_literal (by decide)
  have histograms : ∀ name ∈ histogramNames, isName name.toList = true := by
    simp only [histogramNames, List.forall_mem_cons]
    exact ⟨isName_literal (by decide), isName_literal (by decide), nofun⟩
  intro name member
  rcases List.mem_append.mp member with scalar | member
  · exact scalars name scalar
  · obtain ⟨histogram, listed, declares⟩ := List.mem_flatMap.mp member
    simp only [averaged, List.mem_cons, List.not_mem_nil, or_false] at declares
    rcases declares with rfl | rfl
    · exact histograms _ listed
    · exact suffixed_isName (histograms _ listed) (all_literal (by decide))

theorem Named.nodup_names {types : List EventType} (named : Named types registry)
    (quiet : ∀ type ∈ types, type = .count) : registry.names.Nodup := by
  have counters : registry.counters.keys ⊆ eventMetric .count :: counterNames := by
    intro name member
    rcases named.counters name member with known | ⟨type, listed, rfl⟩
    · exact List.mem_cons_of_mem _ known
    · exact quiet type listed ▸ List.mem_cons_self
  have histograms : registry.histograms.keys.flatMap averaged ⊆ histogramNames.flatMap averaged := by
    intro name member
    obtain ⟨histogram, listed, declares⟩ := List.mem_flatMap.mp member
    exact List.mem_flatMap.mpr ⟨histogram, named.histograms listed, declares⟩
  have apart : ∀ first ∈ histogramNames, (averaged first).Nodup ∧
      ∀ second ∈ histogramNames, first ≠ second → ∀ name ∈ averaged first, name ∉ averaged second := by decide +kernel
  have averages : (registry.histograms.keys.flatMap averaged).Nodup := by
    refine List.nodup_flatMap.mpr ⟨fun name member => (apart name (named.histograms member)).1, ?_⟩
    refine registry.histograms.nodup_keys.imp_of_mem fun {first second} listed listedToo different => ?_
    exact fun name member => (apart first (named.histograms listed)).2 second (named.histograms listedToo) different name member
  have distinct : (eventMetric .count :: counterNames ++ gaugeNames ++ callbackNames ++
      histogramNames.flatMap averaged).Nodup := by decide +kernel
  obtain ⟨distinct, -, last⟩ := List.nodup_append'.mp distinct
  obtain ⟨distinct, -, third⟩ := List.nodup_append'.mp distinct
  obtain ⟨-, -, second⟩ := List.nodup_append'.mp distinct
  have firstTwo := List.append_subset.mpr
    ⟨List.subset_append_of_subset_left _ counters, List.subset_append_of_subset_right _ named.gauges⟩
  have firstThree := List.append_subset.mpr
    ⟨List.subset_append_of_subset_left _ firstTwo, List.subset_append_of_subset_right _ named.callbacks⟩
  refine List.Nodup.append (List.Nodup.append (List.Nodup.append registry.counters.nodup_keys registry.gauges.nodup_keys ?_)
    registry.gaugeCallbacks.nodup_keys ?_) averages ?_
  · exact List.disjoint_of_subset_left counters (List.disjoint_of_subset_right named.gauges second)
  · exact List.disjoint_of_subset_left firstTwo (List.disjoint_of_subset_right named.callbacks third)
  · exact List.disjoint_of_subset_left firstThree (List.disjoint_of_subset_right histograms last)

theorem Named.wellFormed_iff {types : List EventType} (named : Named types registry) (reading : String → Number) :
    wellFormed (registry.renderPrometheus doubles reading) = true ↔ ∀ type ∈ types, type = .count := by
  rw [MetricsRegistry.wellFormed_render fun name member => ?plain]
  case plain =>
    rcases named.mem_names member with fixed | ⟨type, -, rfl⟩
    · exact plain_of_all (all_of_isName (fixedNames_isName name fixed))
    · exact eventMetric_plain type
  constructor
  · rintro ⟨valid, -⟩ type listed
    refine eventMetric_isName.mp (valid _ ?_)
    simp only [MetricsRegistry.names, List.mem_append]
    exact .inl (.inl (.inl (named.events type listed)))
  · intro quiet
    refine ⟨fun name member => ?_, named.nodup_names quiet⟩
    rcases named.mem_names member with fixed | ⟨type, listed, rfl⟩
    · exact fixedNames_isName name fixed
    · exact eventMetric_isName.mpr (quiet type listed)

end Names

/-- The text of `/metrics` is well formed exactly if no event has been delivered but of the type without a name. -/
theorem metrics_well_formed_iff [BEq Number] (activities : List (Activity Number)) (reading : String → Number) :
    wellFormed (metricsText doubles activities reading) = true ↔ ∀ type ∈ delivered activities, type = .count :=
  ((registered_named doubles).recordAll activities).wellFormed_iff doubles reading

def wholes : Doubles Nat where
  literal value := value.num.toNat
  add := Nat.add
  divide := Nat.div
  less first second := first.blt second
  text value := value.repr.toList
  isNumber_text := isNumber_repr

/-- A user registers, which is counted as `rtc_domain_event_user.registered_total`. -/
def registration : List (Activity Nat) := [.deliver ⟨.userRegistered, "evt_1", 1700000000000000000, some 1, "", "", .null⟩]

theorem dotted_name_rendered : wellFormed (metricsText wholes registration fun _ => 0) = false := by
  have named : Named [.userRegistered] (registration.foldl (record wholes) (registered wholes)) :=
    (registered_named wholes).recordAll registration
  refine Bool.eq_false_iff.mpr fun valid => ?_
  have quiet := (named.wellFormed_iff wholes _).mp valid .userRegistered List.mem_cons_self
  exact nomatch quiet

end RealtimeChat.Metrics
