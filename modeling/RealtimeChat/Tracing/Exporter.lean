import RealtimeChat.Foundation.Run
import RealtimeChat.Tracing.Spans

/-! Buffering spans and sending them to a collector.

Spans are buffered up to a maximum and drained by the exporter thread, which
wakes when a batch is full or its delay is over, and by `stop`. The tracer counts
a batch as exported when the exporter does not throw. The exporter never does: it
logs that a collector is unreachable or rejects a batch, and returns.
-/

set_option autoImplicit false

namespace RealtimeChat.Tracing

open Foundation

inductive TraceWireFormat where
  | otlpHttpJson
  | zipkinJson
  deriving DecidableEq, Repr

structure ParsedEndpoint where
  host : String
  port : String
  target : String
  valid : Bool
  deriving DecidableEq, Repr

def TraceWireFormat.defaultPort : TraceWireFormat → String
  | .otlpHttpJson => "4318"
  | .zipkinJson => "9411"

def TraceWireFormat.defaultTarget : TraceWireFormat → String
  | .otlpHttpJson => "/v1/traces"
  | .zipkinJson => "/api/v2/spans"

def httpScheme : List Char := "http://".toList

/-- The text up to the last occurrence of a character, and what follows it. -/
def splitAtLast (mark : Char) (text : List Char) : Option (List Char × List Char) :=
  let after := (text.reverse.takeWhile (· ≠ mark)).reverse
  if mark ∈ text then some (text.take (text.length - after.length - 1), after) else none

def parseEndpoint (endpoint : String) (format : TraceWireFormat) : ParsedEndpoint :=
  let rest := endpoint.toList
  let rest := if httpScheme.isPrefixOf rest then rest.drop httpScheme.length else rest
  let invalid : ParsedEndpoint := ⟨"", format.defaultPort, format.defaultTarget, false⟩
  if rest.isEmpty then invalid
  else
    -- The path goes first, so that a colon in it is not taken for a port.
    let path := rest.dropWhile (· ≠ '/')
    let target := if path.isEmpty then format.defaultTarget else String.ofList path
    let rest := rest.takeWhile (· ≠ '/')
    let (host, port) :=
      match splitAtLast ':' rest with
      | some (host, port) => (host, if port.isEmpty then format.defaultPort else String.ofList port)
      | none => (rest, format.defaultPort)
    if host.isEmpty then { invalid with port := port, target := target }
    else ⟨String.ofList host, port, target, true⟩

inductive Reply where
  | answered (status : Nat)
  | unreachable
  | unencodable
  deriving DecidableEq, Repr

def Reply.accepts : Reply → Bool
  | .answered status => 200 ≤ status && status < 300
  | .unreachable | .unencodable => false

structure SpanExporter where
  endpoint : ParsedEndpoint
  consecutiveFailures : Nat
  deriving DecidableEq, Repr

def SpanExporter.create (endpoint : String) (format : TraceWireFormat) : SpanExporter := ⟨parseEndpoint endpoint format, 0⟩

def SpanExporter.delivers (exporter : SpanExporter) (reply : Reply) : Bool := exporter.endpoint.valid && reply.accepts

/-- An error would be an exception. -/
def SpanExporter.exportSpans {Span : Type} (exporter : SpanExporter) (spans : List Span) (reply : Reply) :
    Except String SpanExporter :=
  if spans.isEmpty || !exporter.endpoint.valid then .ok exporter
  else if reply.accepts then .ok { exporter with consecutiveFailures := 0 }
  else .ok { exporter with consecutiveFailures := exporter.consecutiveFailures + 1 }

abbrev Batch (Span : Type) := { spans : List Span // spans ≠ [] }

inductive Worker (Span : Type) where
  | absent
  | testing
  | waiting
  | exporting (batch : Batch Span)
  | exited

inductive Owner (Span : Type) where
  | away
  | joining
  | draining
  | exporting (batch : Batch Span)

def Worker.load {Span : Type} : Worker Span → Nat
  | .exporting batch => batch.val.length
  | .absent | .testing | .waiting | .exited => 0

def Owner.load {Span : Type} : Owner Span → Nat
  | .exporting batch => batch.val.length
  | .away | .joining | .draining => 0

/-- `submitted` counts the calls of `submit`, and `accepted` the spans that the collector has taken. -/
structure Tracer (Span : Type) where
  exporter : SpanExporter
  buffer : List Span
  exported : Nat
  dropped : Nat
  running : Bool
  worker : Worker Span
  owner : Owner Span
  submitted : Nat
  accepted : Nat

namespace Tracer

inductive Label (Span : Type) where
  | submit (span : Span) (throws : Bool)
  | start
  | workerTest
  | workerDrain
  | workerExport (reply : Reply)
  | stop
  | join
  | ownerDrain
  | ownerExport (reply : Reply)

variable {Span : Type}

def initial (exporter : SpanExporter) : Tracer Span := ⟨exporter, [], 0, 0, false, .absent, .away, 0, 0⟩

def submit (options : TracerOptions) (tracer : Tracer Span) (span : Span) (throws : Bool) : Tracer Span :=
  if options.maxQueueSize ≤ tracer.buffer.length || throws then
    { tracer with submitted := tracer.submitted + 1, dropped := tracer.dropped + 1 }
  else { tracer with submitted := tracer.submitted + 1, buffer := tracer.buffer ++ [span] }

/-- The end of a drain: the batch is handed to the exporter and counted. -/
def settle (tracer : Tracer Span) (batch : List Span) (reply : Reply) : Tracer Span :=
  let accepted := if tracer.exporter.delivers reply then tracer.accepted + batch.length else tracer.accepted
  match tracer.exporter.exportSpans batch reply with
  | .ok exporter =>
    { tracer with exporter := exporter, exported := tracer.exported + batch.length, accepted := accepted }
  | .error _ => { tracer with dropped := tracer.dropped + batch.length, accepted := accepted }

def step (options : TracerOptions) : Step (Tracer Span) (Label Span) := fun tracer label =>
  match label with
  | .submit span throws => some (tracer.submit options.normalised span throws)
  | .start =>
    match tracer.owner with
    | .away =>
      if !options.enabled || tracer.running then some tracer
      else some { tracer with running := true, worker := .testing }
    | _ => none
  | .workerTest =>
    match tracer.worker with
    | .testing => some { tracer with worker := if tracer.running then .waiting else .exited }
    | _ => none
  | .workerDrain =>
    -- The wait ends with a full batch, after the delay or at the stop: at any time.
    match tracer.worker with
    | .waiting =>
      if filled : tracer.buffer ≠ [] then some { tracer with buffer := [], worker := .exporting ⟨tracer.buffer, filled⟩ }
      else some { tracer with worker := .testing }
    | _ => none
  | .workerExport reply =>
    match tracer.worker with
    | .exporting batch => some (settle { tracer with worker := .testing } batch.val reply)
    | _ => none
  | .stop =>
    match tracer.owner with
    | .away => some { tracer with running := false, owner := if tracer.running then .joining else .draining }
    | _ => none
  | .join =>
    match tracer.owner, tracer.worker with
    | .joining, .exited => some { tracer with worker := .absent, owner := .draining }
    | _, _ => none
  | .ownerDrain =>
    match tracer.owner with
    | .draining =>
      if filled : tracer.buffer ≠ [] then some { tracer with buffer := [], owner := .exporting ⟨tracer.buffer, filled⟩ }
      else some { tracer with owner := .away }
    | _ => none
  | .ownerExport reply =>
    match tracer.owner with
    | .exporting batch => some (settle { tracer with owner := .away } batch.val reply)
    | _ => none

def inHand (tracer : Tracer Span) : Nat := tracer.worker.load + tracer.owner.load

/-- What the counters say is true: between drains no span is missing, the buffer keeps to its maximum,
and what counts as exported is what the collector has taken. -/
structure Truthful (options : TracerOptions) (tracer : Tracer Span) : Prop where
  balanced : tracer.inHand = 0 → tracer.submitted = tracer.exported + tracer.dropped + tracer.buffer.length
  bounded : tracer.buffer.length ≤ options.normalised.maxQueueSize
  accepted : tracer.exported ≤ tracer.accepted

/-- A batch that is handed to the exporter reaches a collector that takes it. -/
def delivered (tracer : Tracer Span) : Label Span → Bool
  | .workerExport reply | .ownerExport reply => tracer.exporter.delivers reply
  | .submit _ _ | .start | .workerTest | .workerDrain | .stop | .join | .ownerDrain => true

structure Consistent (options : TracerOptions) (tracer : Tracer Span) : Prop where
  balanced : tracer.submitted = tracer.exported + tracer.dropped + tracer.buffer.length + tracer.inHand
  bounded : tracer.buffer.length ≤ options.normalised.maxQueueSize
  accepted : tracer.accepted ≤ tracer.exported
  placed : tracer.running = false → tracer.owner = .joining ∨ tracer.worker = .absent

variable (exporter : SpanExporter) (batch : List Span) (reply : Reply)

theorem initial_consistent (options : TracerOptions) (exporter : SpanExporter) :
    (initial exporter : Tracer Span).Consistent options :=
  ⟨rfl, Nat.zero_le _, Nat.le_refl _, fun _ => .inr rfl⟩

theorem exportSpans_returns : ∃ next, exporter.exportSpans batch reply = .ok next := by
  unfold SpanExporter.exportSpans
  split
  · exact ⟨_, rfl⟩
  · split <;> exact ⟨_, rfl⟩

theorem settle_eq (tracer : Tracer Span) (batch : List Span) (reply : Reply) :
    ∃ exporter, tracer.settle batch reply = { tracer with
      exporter := exporter
      exported := tracer.exported + batch.length
      accepted := if tracer.exporter.delivers reply then tracer.accepted + batch.length else tracer.accepted } := by
  obtain ⟨exporter, returns⟩ := exportSpans_returns tracer.exporter batch reply
  exact ⟨exporter, by simp only [settle, returns]⟩

theorem Consistent.truthful {options : TracerOptions} {tracer : Tracer Span} (consistent : tracer.Consistent options) :
    tracer.Truthful options ↔ tracer.exported = tracer.accepted := by
  obtain ⟨balanced, bounded, accepted, -⟩ := consistent
  refine ⟨fun truthful => Nat.le_antisymm truthful.accepted accepted, fun same => ⟨fun none => ?_, bounded, same.le⟩⟩
  omega

section Steps

variable {options : TracerOptions} {tracer : Tracer Span} (consistent : tracer.Consistent options)

include consistent

variable (worker : Worker Span) (owner : Owner Span)

theorem Consistent.proceed (running : Bool) (worker : Worker Span) (owner : Owner Span)
    (hands : worker.load + owner.load = tracer.inHand) (placed : running = false → owner = .joining ∨ worker = .absent) :
    Consistent options { tracer with running := running, worker := worker, owner := owner } :=
  ⟨consistent.balanced.trans (congrArg (_ + ·) hands.symm), consistent.bounded, consistent.accepted, placed⟩

theorem Consistent.take (hands : worker.load + owner.load = tracer.inHand + tracer.buffer.length)
    (placed : tracer.running = false → owner = .joining ∨ worker = .absent) :
    Consistent options { tracer with buffer := [], worker := worker, owner := owner } := by
  refine ⟨?_, Nat.zero_le _, consistent.accepted, placed⟩
  have balanced := consistent.balanced
  simp only [inHand, List.length_nil] at *
  omega

theorem Consistent.settle (batch : Batch Span) (reply : Reply)
    (hands : worker.load + owner.load + batch.val.length = tracer.inHand)
    (placed : tracer.running = false → owner = .joining ∨ worker = .absent) :
    let next := Tracer.settle { tracer with worker := worker, owner := owner } batch.val reply
    next.Consistent options ∧
      (tracer.exported = tracer.accepted → (next.exported = next.accepted ↔ tracer.exporter.delivers reply = true)) := by
  obtain ⟨balanced, bounded, accepted, -⟩ := consistent
  have filled : 0 < batch.val.length := List.length_pos_iff.mpr batch.property
  obtain ⟨exporter, settled⟩ := settle_eq { tracer with worker := worker, owner := owner } batch.val reply
  simp only [inHand] at balanced hands
  simp only [settled]
  cases tracer.exporter.delivers reply with
  | true =>
    simp only [↓reduceIte, iff_true]
    refine ⟨⟨?_, bounded, Nat.add_le_add_right accepted _, placed⟩, fun same => by omega⟩
    simp only [inHand]
    omega
  | false =>
    simp only [Bool.false_eq_true, ↓reduceIte, iff_false]
    refine ⟨⟨?_, bounded, Nat.le_add_right_of_le accepted, placed⟩, fun same => by omega⟩
    simp only [inHand]
    omega

theorem Consistent.submit (span : Span) (throws : Bool) : (tracer.submit options.normalised span throws).Consistent options := by
  obtain ⟨balanced, bounded, accepted, placed⟩ := consistent
  simp only [inHand] at balanced
  simp only [Tracer.submit]
  split
  · refine ⟨?_, bounded, accepted, placed⟩
    simp only [inHand]
    omega
  · next room =>
    simp only [Bool.or_eq_true, decide_eq_true_eq, not_or, Nat.not_le] at room
    refine ⟨?_, ?_, accepted, placed⟩ <;> simp only [inHand, List.length_append, List.length_singleton] <;> omega

end Steps

theorem step_consistent {options : TracerOptions} {tracer next : Tracer Span} {label : Label Span}
    (consistent : tracer.Consistent options) (moves : step options tracer label = some next) :
    next.Consistent options ∧
      (tracer.exported = tracer.accepted → (next.exported = next.accepted ↔ tracer.delivered label = true)) := by
  cases label with
  | workerExport reply =>
    simp only [step] at moves
    split at moves <;> cases moves
    next batch found =>
      refine consistent.settle .testing tracer.owner batch reply ?_ fun off => ?_
      · simp only [inHand, found, Worker.load]
        omega
      · exact .inl ((consistent.placed off).resolve_right fun absent => nomatch found.symm.trans absent)
  | ownerExport reply =>
    simp only [step] at moves
    split at moves <;> cases moves
    next batch found =>
      refine consistent.settle tracer.worker .away batch reply ?_ fun off => ?_
      · simp only [inHand, found, Owner.load]
        omega
      · exact .inr ((consistent.placed off).resolve_left fun joining => nomatch found.symm.trans joining)
  | submit span throws =>
    cases moves
    refine ⟨consistent.submit span throws, fun same => ?_⟩
    simp only [submit, delivered, iff_true]
    split <;> exact same
  | start =>
    simp only [step] at moves
    split at moves
    · next away =>
      split at moves <;> cases moves
      · exact ⟨consistent, fun same => iff_of_true same rfl⟩
      · next off =>
        simp only [Bool.or_eq_true, not_or, Bool.not_eq_true] at off
        have absent := (consistent.placed off.2).resolve_left fun joining => nomatch away.symm.trans joining
        refine ⟨consistent.proceed true .testing tracer.owner ?_ nofun, fun same => iff_of_true same rfl⟩
        simp only [inHand, absent, Worker.load]
    · cases moves
  | workerTest =>
    simp only [step] at moves
    split at moves <;> cases moves
    next found =>
      refine ⟨consistent.proceed tracer.running _ tracer.owner ?_ fun off => ?_, fun same => iff_of_true same rfl⟩
      · simp only [inHand, found]
        cases tracer.running <;> rfl
      · exact .inl ((consistent.placed off).resolve_right fun absent => nomatch found.symm.trans absent)
  | workerDrain =>
    simp only [step] at moves
    split at moves
    · next found =>
      have joining := fun off => (consistent.placed off).resolve_right fun absent => nomatch found.symm.trans absent
      split at moves <;> cases moves
      · refine ⟨consistent.take _ tracer.owner ?_ fun off => .inl (joining off), fun same => iff_of_true same rfl⟩
        simp only [inHand, found, Worker.load]
        omega
      · refine ⟨consistent.proceed tracer.running .testing tracer.owner ?_ fun off => .inl (joining off),
          fun same => iff_of_true same rfl⟩
        simp only [inHand, found, Worker.load]
    · cases moves
  | stop =>
    simp only [step] at moves
    split at moves <;> cases moves
    next away =>
      refine ⟨consistent.proceed false tracer.worker _ ?_ fun _ => ?_, fun same => iff_of_true same rfl⟩
      · simp only [inHand, away]
        split <;> rfl
      · split
        · exact .inl rfl
        · next off =>
          exact .inr ((consistent.placed (Bool.not_eq_true _ ▸ off)).resolve_left fun joining => nomatch away.symm.trans joining)
  | join =>
    simp only [step] at moves
    split at moves <;> cases moves
    next joining left =>
      refine ⟨consistent.proceed tracer.running .absent .draining ?_ fun _ => .inr rfl, fun same => iff_of_true same rfl⟩
      simp only [inHand, joining, left, Worker.load, Owner.load]
  | ownerDrain =>
    simp only [step] at moves
    split at moves
    · next found =>
      have absent := fun off => (consistent.placed off).resolve_left fun joining => nomatch found.symm.trans joining
      split at moves <;> cases moves
      · refine ⟨consistent.take tracer.worker _ ?_ fun off => .inr (absent off), fun same => iff_of_true same rfl⟩
        simp only [inHand, found, Owner.load]
        omega
      · refine ⟨consistent.proceed tracer.running tracer.worker .away ?_ fun off => .inr (absent off),
          fun same => iff_of_true same rfl⟩
        simp only [inHand, found, Owner.load]
    · cases moves

/-- The counters are right throughout a run exactly if every batch is taken by the collector. -/
theorem exports_truthful_iff {options : TracerOptions} {exporter : SpanExporter} {labels : List (Label Span)}
    {final : Tracer Span} (runs : (step options).run (initial exporter) labels = some final) :
    (step options).Always (Truthful options) (initial exporter) labels ↔
      (step options).Guarded (fun tracer label => tracer.delivered label = true) (initial exporter) labels := by
  refine Step.always_iff_guarded (Consistent options) (fun consistent _ moves => (step_consistent consistent moves).1)
    (fun consistent truthful moves => ?_) (initial_consistent options exporter) ?_ runs
  · obtain ⟨after, same⟩ := step_consistent consistent moves
    rw [after.truthful]
    exact same (consistent.truthful.mp truthful)
  · exact (initial_consistent options exporter).truthful.mpr rfl

def defaults : TracerOptions := ⟨true, Rat.ofInt 1, 128, 2048⟩

def collector : SpanExporter := .create "http://collector/v1/traces" .otlpHttpJson

/-- Two spans are drained by the exporter thread, another one by `stop`. -/
def drainedRun (reply : Reply) : List (Label Nat) :=
  [.submit 1 false, .start, .workerTest, .submit 2 false, .workerDrain, .submit 3 false, .workerExport reply, .stop,
    .workerTest, .join, .ownerDrain, .ownerExport reply]

theorem exports_truthful_iff_accepted :
    ∃ final, (step defaults).run (initial collector) (drainedRun (.answered 200)) = some final ∧ final.exported = 3 ∧
      (step defaults).Always (Truthful defaults) (initial collector) (drainedRun (.answered 200)) := by
  have reached : ((step defaults).run (initial collector) (drainedRun (.answered 200))).any
      (fun final => final.exported = 3) := by decide +kernel
  obtain ⟨final, runs, exported⟩ := (Option.any_eq_true _ _).mp reached
  exact ⟨final, runs, of_decide_eq_true exported, (exports_truthful_iff runs).mpr (by decide +kernel)⟩

/-- The collector refuses both batches, and all spans count as exported. -/
theorem rejected_spans_exported :
    ∃ final, (step defaults).run (initial collector) (drainedRun (.answered 503)) = some final ∧ final.exported = 3 ∧
      final.accepted = 0 ∧ ¬ final.Truthful defaults := by
  have reached : ((step defaults).run (initial collector) (drainedRun (.answered 503))).any
      (fun final => final.exported = 3 ∧ final.accepted = 0) := by decide +kernel
  obtain ⟨final, runs, counts⟩ := (Option.any_eq_true _ _).mp reached
  obtain ⟨exported, accepted⟩ := of_decide_eq_true counts
  refine ⟨final, runs, exported, accepted, fun truthful => ?_⟩
  have only := truthful.accepted
  omega

end Tracer

end RealtimeChat.Tracing
