import Mathlib.Data.Rat.Defs

/-! Trace contexts, the sampling of spans and the spans of one request.

A span is sampled as its parent was, or by its trace id when it has none. A span
that is not sampled is inert: it is not recorded, and it does not become the
current context of its thread, so that what is opened inside it looks for a
parent further out.
-/

set_option autoImplicit false

namespace RealtimeChat.Tracing

structure SpanContext where
  traceId : String
  spanId : String
  sampled : Bool
  traceState : String
  deriving DecidableEq, Repr

/-- A span as its scope sees it; `tracer` says whether there is a tracer to report to. -/
structure Span where
  tracer : Bool
  ended : Bool
  context : SpanContext
  deriving DecidableEq, Repr

def Span.isRecording (span : Span) : Bool := span.tracer && !span.ended

def invalidTraceId : String := "00000000000000000000000000000000"

def invalidSpanId : String := "0000000000000000"

def SpanContext.isValid (context : SpanContext) : Bool :=
  context.traceId.length = 32 && context.traceId ≠ invalidTraceId &&
    (context.spanId.length = 16 && context.spanId ≠ invalidSpanId)

theorem SpanContext.isValid_iff {context : SpanContext} :
    context.isValid = true ↔ (context.traceId.length = 32 ∧ context.traceId ≠ invalidTraceId) ∧
      context.spanId.length = 16 ∧ context.spanId ≠ invalidSpanId := by
  simp [isValid]

section Header

def hexDigit (digit : Char) : Option Nat :=
  if '0' ≤ digit ∧ digit ≤ '9' then some (digit.toNat - '0'.toNat)
  else if 'a' ≤ digit ∧ digit ≤ 'f' then some (digit.toNat - 'a'.toNat + 10)
  else none

def isLowerHex (text : List Char) : Bool := text.all fun digit => (hexDigit digit).isSome

def parseHexByte : List Char → Option Nat
  | [high, low] => do return (← hexDigit high) * 16 + (← hexDigit low)
  | _ => none

/-- A `traceparent` header of at least four fields, of which the fields of later versions are ignored. -/
def parseTraceparent (header : String) : Option SpanContext :=
  if header = "" then none
  else
    match header.toList.splitOn '-' with
    | version :: traceId :: spanId :: flags :: _ =>
      match parseHexByte version with
      | none => none
      | some 255 => none
      | some _ =>
        let context : SpanContext := ⟨String.ofList traceId, String.ofList spanId, false, ""⟩
        if !isLowerHex traceId || !isLowerHex spanId || !context.isValid then none
        else (parseHexByte flags).map fun flags => { context with sampled := flags % 2 = 1 }
    | _ => none

end Header

section Ids

/-- The texts that the random source gives for one kind of id. Random bytes are
not all zero twice in a row. -/
structure Tokens (zeros : String) where
  draw : Nat → String
  width : ∀ position, (draw position).length = zeros.length
  retried : ∀ position, draw position = zeros → draw (position + 1) ≠ zeros

structure Draws where
  spans : Nat
  traces : Nat
  deriving DecidableEq, Repr

structure Source where
  spans : Tokens invalidSpanId
  traces : Tokens invalidTraceId

/-- A new id and the next position; all zeros are drawn once more. -/
def Tokens.fresh {zeros : String} (tokens : Tokens zeros) (position : Nat) : String × Nat :=
  if tokens.draw position = zeros then (tokens.draw (position + 1), position + 2)
  else (tokens.draw position, position + 1)

def newTraceId (source : Source) (draws : Draws) : String × Draws :=
  let (id, position) := source.traces.fresh draws.traces
  (id, { draws with traces := position })

def newSpanId (source : Source) (draws : Draws) : String × Draws :=
  let (id, position) := source.spans.fresh draws.spans
  (id, { draws with spans := position })

end Ids

structure TracerOptions where
  enabled : Bool
  sampleRatio : Rat
  maxBatchSize : Nat
  maxQueueSize : Nat

def clampRatio (ratio : Rat) : Rat :=
  if ratio.num < 0 then Rat.ofInt 0 else if ratio.den < ratio.num then Rat.ofInt 1 else ratio

def TracerOptions.normalised (options : TracerOptions) : TracerOptions :=
  let maxBatchSize := Nat.max options.maxBatchSize 1
  { options with
    sampleRatio := clampRatio options.sampleRatio
    maxBatchSize := maxBatchSize
    maxQueueSize := Nat.max options.maxQueueSize maxBatchSize }

section Sampling

def hexValue (digit : Char) : Option Nat :=
  if 'A' ≤ digit ∧ digit ≤ 'F' then some (digit.toNat - 'A'.toNat + 10) else hexDigit digit

def twoTo64 : Nat := 18446744073709551616

/-- `std::from_chars` to 64 bits in base 16, of the whole text. -/
def fromChars (text : List Char) : Option Nat :=
  if text.isEmpty then none
  else (text.foldlM (fun value digit => (hexValue digit).map (value * 16 + ·)) 0).filter (· < twoTo64)

/-- The nearest number with a mantissa of 53 bits, the even one of two. -/
def toDouble (value : Nat) : Nat :=
  let unit := Nat.pow 2 (value.log2 - 52)
  let lower := value / unit * unit
  let rest := value % unit
  if 2 * rest < unit ∨ 2 * rest = unit ∧ value / unit % 2 = 0 then lower else lower + unit

def traceIdRatioSampled (traceId : String) (ratio : Rat) : Bool :=
  if ratio.den ≤ ratio.num then true
  else if ratio.num ≤ 0 then false
  else if traceId.length < 32 then false
  else
    match fromChars (traceId.toList.drop 16) with
    | none => false
    | some low => toDouble low * ratio.den < ratio.num * twoTo64

def shouldSample (options : TracerOptions) (traceId : String) : Bool :=
  traceIdRatioSampled traceId options.sampleRatio

end Sampling

inductive SpanKind where
  | internal
  | server
  | client
  | producer
  | consumer
  deriving DecidableEq, Repr

structure SpanData where
  name : String
  kind : SpanKind
  traceId : String
  spanId : String
  /-- Empty for a root span. -/
  parentSpanId : String
  traceState : String
  sampled : Bool
  deriving DecidableEq, Repr

def SpanData.context (data : SpanData) : SpanContext := ⟨data.traceId, data.spanId, data.sampled, data.traceState⟩

section Request

variable (options : TracerOptions) (source : Source)

/-- `none` is an inert span. -/
def startSpan (name : String) (kind : SpanKind) (parent : Option SpanContext) (draws : Draws) : Option SpanData × Draws :=
  if !options.enabled then (none, draws)
  else
    let (spanId, draws) := newSpanId source draws
    let (data, draws) : SpanData × Draws :=
      match parent.filter (·.isValid) with
      | some parent => (⟨name, kind, parent.traceId, spanId, parent.spanId, parent.traceState, parent.sampled⟩, draws)
      | none =>
        let (traceId, draws) := newTraceId source draws
        (⟨name, kind, traceId, spanId, "", "", shouldSample options traceId⟩, draws)
    (if data.sampled then some data else none, draws)

inductive Opening where
  | trace (name : String) (kind : SpanKind)
  | db (operation : String)
  | cache (operation : String)
  | ws (event : String)
  | brokerPublish (subject : String)
  | brokerConsume (subject : String)
  deriving DecidableEq, Repr

def Opening.name : Opening → String
  | .trace name _ => name
  | .db operation => "db " ++ operation
  | .cache operation => "cache " ++ operation
  | .ws event => "ws " ++ event
  | .brokerPublish subject => "publish " ++ subject
  | .brokerConsume subject => "process " ++ subject

def Opening.kind : Opening → SpanKind
  | .trace _ kind => kind
  | .db _ | .cache _ => .client
  | .ws _ => .server
  | .brokerPublish _ => .producer
  | .brokerConsume _ => .consumer

/-- The scopes that a piece of code opens: one with what is opened inside it, and what follows it. -/
inductive Scopes where
  | done
  | scope (opening : Opening) (inside next : Scopes)
  deriving DecidableEq, Repr

def Scopes.size : Scopes → Nat
  | .done => 0
  | .scope _ inside next => inside.size + next.size + 1

/-- A scoped span is the current context of its thread while it lives, unless it is inert. -/
def activate (span : Option SpanData) (current : Option SpanContext) : Option SpanContext :=
  match span with
  | some data => some data.context
  | none => current

def Scopes.spans (current : Option SpanContext) : Scopes → Draws → List (Option SpanData) × Draws
  | .done, draws => ([], draws)
  | .scope opening inside next, draws =>
    let (span, draws) := startSpan options source opening.name opening.kind current draws
    let (within, draws) := inside.spans (activate span current) draws
    let (after, draws) := next.spans current draws
    (span :: within ++ after, draws)

structure Request where
  methodAndUrl : String
  traceparent : String
  tracestate : String

def Request.inbound (request : Request) : Option SpanContext :=
  (parseTraceparent request.traceparent).map fun context => { context with traceState := request.tracestate }

structure Handled where
  server : Option SpanData
  nested : List (Option SpanData)

def handle (request : Request) (scopes : Scopes) (draws : Draws) : Handled :=
  let (server, draws) :=
    if options.enabled then startSpan options source request.methodAndUrl .server request.inbound draws else (none, draws)
  ⟨server, (scopes.spans options source (activate server none) draws).1⟩

end Request

/-- The span is in the trace of the server span, and its parent has been recorded or is the caller's. -/
def Attached (request : Request) (server : SpanData) (nested : List (Option SpanData)) (span : SpanData) : Prop :=
  span.traceId = server.traceId ∧
    ((∃ parent, (parent = server ∨ some parent ∈ nested) ∧ span.parentSpanId = parent.spanId) ∨
      ∃ parent, request.inbound = some parent ∧ span.parentSpanId = parent.spanId)

def Whole (request : Request) (handled : Handled) : Prop :=
  (∃ server, handled.server = some server ∧
    ∀ span ∈ handled.nested, ∃ data, span = some data ∧ Attached request server handled.nested data) ∨
  handled.server = none ∧ ∀ span ∈ handled.nested, span = none

section Ids

variable {zeros : String} (tokens : Tokens zeros)

def Tokens.ids {zeros : String} (tokens : Tokens zeros) : Nat → Nat → List String
  | _, 0 => []
  | position, count + 1 => (tokens.fresh position).1 :: tokens.ids (tokens.fresh position).2 count

def Tokens.after {zeros : String} (tokens : Tokens zeros) : Nat → Nat → Nat
  | position, 0 => position
  | position, count + 1 => tokens.after (tokens.fresh position).2 count

variable (position first second : Nat)

theorem Tokens.ids_add :
    tokens.ids position (first + second) = tokens.ids position first ++ tokens.ids (tokens.after position first) second := by
  induction first generalizing position with
  | zero => simp [ids, after]
  | succ first ih => rw [Nat.succ_add, ids, ids, after, ih, List.cons_append]

theorem Tokens.after_add :
    tokens.after position (first + second) = tokens.after (tokens.after position first) second := by
  induction first generalizing position with
  | zero => simp [after]
  | succ first ih => rw [Nat.succ_add, after, after, ih]

theorem Tokens.fresh_length : (tokens.fresh position).1.length = zeros.length := by
  unfold fresh
  split <;> exact tokens.width _

theorem Tokens.fresh_ne : (tokens.fresh position).1 ≠ zeros := by
  unfold fresh
  split
  · next drawn => exact tokens.retried position drawn
  · next drawn => exact drawn

end Ids

theorem isValid_parseTraceparent {header : String} {context : SpanContext} (parsed : parseTraceparent header = some context) :
    context.isValid = true := by
  simp only [parseTraceparent] at parsed
  split at parsed
  · cases parsed
  split at parsed
  · split at parsed
    · cases parsed
    · cases parsed
    · split at parsed
      · cases parsed
      · next checks =>
        obtain ⟨flags, _, rfl⟩ := Option.map_eq_some_iff.mp parsed
        simp only [Bool.or_eq_true, Bool.not_eq_true', not_or, Bool.not_eq_false] at checks
        exact checks.2
  · cases parsed

theorem Request.isValid_inbound {request : Request} {context : SpanContext} (sent : request.inbound = some context) :
    context.isValid = true := by
  obtain ⟨parsed, found, rfl⟩ := Option.map_eq_some_iff.mp sent
  have valid := isValid_parseTraceparent found
  exact valid

section Capture

variable {options : TracerOptions} {source : Source}

theorem startSpan_disabled (disabled : options.enabled = false) (name : String) (kind : SpanKind)
    (parent : Option SpanContext) (draws : Draws) : startSpan options source name kind parent draws = (none, draws) := by
  simp [startSpan, disabled]

theorem startSpan_child (enabled : options.enabled = true) (name : String) (kind : SpanKind) {parent : SpanContext}
    (valid : parent.isValid = true) (draws : Draws) :
    startSpan options source name kind (some parent) draws =
      (if parent.sampled then
        some ⟨name, kind, parent.traceId, (newSpanId source draws).1, parent.spanId, parent.traceState, parent.sampled⟩
      else none, (newSpanId source draws).2) := by
  simp [startSpan, enabled, Option.filter, valid]

theorem startSpan_root (enabled : options.enabled = true) (name : String) (kind : SpanKind) (draws : Draws) :
    startSpan options source name kind none draws =
      let traceId := (source.traces.fresh draws.traces).1
      (if shouldSample options traceId then
        some ⟨name, kind, traceId, (source.spans.fresh draws.spans).1, "", "", shouldSample options traceId⟩
      else none, ⟨(source.spans.fresh draws.spans).2, (source.traces.fresh draws.traces).2⟩) := by
  simp only [startSpan, enabled, newTraceId, newSpanId, Option.filter_none, Bool.not_true, Bool.false_eq_true, ↓reduceIte]
  rfl

/-- A context that its thread goes by: spans opened under it are recorded. -/
structure Recording (context : SpanContext) : Prop where
  valid : context.isValid = true
  sampled : context.sampled = true

theorem Recording.child {context : SpanContext} (recording : Recording context) (enabled : options.enabled = true)
    (name : String) (kind : SpanKind) (draws : Draws) :
    ∃ data : SpanData, (startSpan options source name kind (some context) draws).1 = some data ∧
      Recording data.context ∧ data.traceId = context.traceId ∧ data.parentSpanId = context.spanId := by
  rw [startSpan_child enabled name kind recording.valid, if_pos recording.sampled]
  refine ⟨_, rfl, ⟨SpanContext.isValid_iff.mpr ⟨?_, ?_⟩, recording.sampled⟩, rfl, rfl⟩
  · exact (SpanContext.isValid_iff.mp recording.valid).1
  · exact ⟨source.spans.fresh_length _, source.spans.fresh_ne _⟩

theorem Scopes.spans_recorded {context : SpanContext} (recording : Recording context) (enabled : options.enabled = true)
    (scopes : Scopes) (draws : Draws) :
    let spans := (scopes.spans options source (some context) draws).1
    ∀ span ∈ spans, ∃ data : SpanData, span = some data ∧ data.traceId = context.traceId ∧
      (data.parentSpanId = context.spanId ∨ ∃ parent : SpanData, some parent ∈ spans ∧ data.parentSpanId = parent.spanId) := by
  induction scopes generalizing context draws with
  | done => simp [spans]
  | scope opening inside next ihInside ihNext =>
    obtain ⟨data, started, below, trace, parent⟩ :=
      @Recording.child options source context recording enabled opening.name opening.kind draws
    simp only [spans, started, activate, List.cons_append, List.mem_cons, List.mem_append]
    rintro span (rfl | member | member)
    · exact ⟨data, rfl, trace, .inl parent⟩
    · obtain ⟨child, rfl, childTrace, childParent⟩ := ihInside below _ span member
      refine ⟨child, rfl, childTrace.trans trace, .inr ?_⟩
      rcases childParent with direct | ⟨other, listed, same⟩
      · exact ⟨data, .inl rfl, direct⟩
      · exact ⟨other, .inr (.inl listed), same⟩
    · obtain ⟨child, rfl, childTrace, childParent⟩ := ihNext recording _ span member
      refine ⟨child, rfl, childTrace, childParent.imp_right fun ⟨other, listed, same⟩ => ?_⟩
      exact ⟨other, .inr (.inr listed), same⟩

theorem Scopes.spans_none_iff (enabled : options.enabled = true) (scopes : Scopes) (draws : Draws) :
    ((∀ span ∈ (scopes.spans options source none draws).1, span = none) ↔
      ∀ id ∈ source.traces.ids draws.traces scopes.size, shouldSample options id = false) ∧
    ((∀ id ∈ source.traces.ids draws.traces scopes.size, shouldSample options id = false) →
      (scopes.spans options source none draws).2.traces = source.traces.after draws.traces scopes.size) := by
  induction scopes generalizing draws with
  | done => simp [spans, size, Tokens.ids, Tokens.after]
  | scope opening inside next ihInside ihNext =>
    have split : source.traces.ids draws.traces (scope opening inside next).size =
        (source.traces.fresh draws.traces).1 ::
          (source.traces.ids (source.traces.fresh draws.traces).2 inside.size ++
            source.traces.ids (source.traces.after (source.traces.fresh draws.traces).2 inside.size) next.size) := by
      rw [size, Tokens.ids, Tokens.ids_add]
    rw [split]
    cases first : shouldSample options (source.traces.fresh draws.traces).1 with
    | true =>
      -- The scope is a root span of its own and is recorded.
      simp [spans, startSpan_root enabled, first]
    | false =>
      simp only [spans, startSpan_root enabled, first, Bool.false_eq_true, ↓reduceIte, activate, List.cons_append,
        List.forall_mem_cons, List.forall_mem_append, true_and]
      obtain ⟨insideIff, insideAfter⟩ := ihInside ⟨(source.spans.fresh draws.spans).2, (source.traces.fresh draws.traces).2⟩
      refine ⟨?_, ?_⟩
      · rw [insideIff]
        refine and_congr_right fun quiet => ?_
        rw [(ihNext _).1, insideAfter quiet]
      · rintro ⟨quiet, quietAfter⟩
        have position := insideAfter quiet
        rw [(ihNext _).2 (by rw [position]; exact quietAfter), position, ← Tokens.after_add]
        rfl

theorem Scopes.spans_disabled (disabled : options.enabled = false) (scopes : Scopes) (current : Option SpanContext)
    (draws : Draws) : ∀ span ∈ (scopes.spans options source current draws).1, span = none := by
  induction scopes generalizing current draws with
  | done => simp [spans]
  | scope opening inside next ihInside ihNext =>
    simp only [spans, startSpan_disabled disabled, List.cons_append, List.mem_cons, List.mem_append]
    rintro span (rfl | member | member)
    · rfl
    · exact ihInside _ _ span member
    · exact ihNext _ _ span member

end Capture

section Theorem

variable (options : TracerOptions) (source : Source) (request : Request) (draws : Draws)

/-- The decision for the server span: the caller's, or by a new trace id. -/
def Request.sampled : Bool :=
  match request.inbound with
  | some parent => parent.sampled
  | none => shouldSample options (source.traces.fresh draws.traces).1

def Request.nestedFrom : Nat :=
  match request.inbound with
  | some _ => draws.traces
  | none => (source.traces.fresh draws.traces).2

variable {options source request draws}

theorem startSpan_server (enabled : options.enabled = true) (name : String) (kind : SpanKind) :
    (request.sampled options source draws = true → ∃ server : SpanData,
      (startSpan options source name kind request.inbound draws).1 = some server ∧ Recording server.context) ∧
    (request.sampled options source draws = false →
      (startSpan options source name kind request.inbound draws).1 = none) ∧
    (startSpan options source name kind request.inbound draws).2.traces = request.nestedFrom source draws := by
  cases inbound : request.inbound with
  | some parent =>
    have valid := Request.isValid_inbound inbound
    simp only [Request.sampled, Request.nestedFrom, inbound]
    refine ⟨fun sampled => ?_, fun unsampled => ?_, ?_⟩
    · obtain ⟨server, started, recording, -⟩ :=
        @Recording.child options source parent ⟨valid, sampled⟩ enabled name kind draws
      exact ⟨server, started, recording⟩
    · rw [startSpan_child enabled name kind valid]
      simp [unsampled]
    · rw [startSpan_child enabled name kind valid]
      rfl
  | none =>
    simp only [Request.sampled, Request.nestedFrom, inbound, startSpan_root enabled]
    refine ⟨fun sampled => ?_, fun unsampled => ?_, trivial⟩
    · refine ⟨_, if_pos sampled, SpanContext.isValid_iff.mpr ⟨?_, ?_⟩, sampled⟩
      · exact ⟨source.traces.fresh_length _, source.traces.fresh_ne _⟩
      · exact ⟨source.spans.fresh_length _, source.spans.fresh_ne _⟩
    · simp [unsampled]

/-- A request is captured as a whole or not at all exactly if tracing is off, its
server span is sampled, or none of its scopes happens to draw a trace id that is. -/
theorem captured_whole_iff (scopes : Scopes) :
    Whole request (handle options source request scopes draws) ↔
      options.enabled = false ∨ request.sampled options source draws = true ∨
        ∀ id ∈ source.traces.ids (request.nestedFrom source draws) scopes.size, shouldSample options id = false := by
  cases enabled : options.enabled with
  | false =>
    simp only [true_or, iff_true]
    refine .inr ⟨?_, ?_⟩
    · simp [handle, enabled]
    · simp only [handle, enabled]
      exact Scopes.spans_disabled enabled scopes _ _
  | true =>
    obtain ⟨recorded, inert, position⟩ :=
      @startSpan_server options source request draws enabled request.methodAndUrl .server
    simp only [Whole, handle, enabled, ↓reduceIte, Bool.true_eq_false, false_or]
    cases sampled : request.sampled options source draws with
    | true =>
      obtain ⟨server, started, recording⟩ := recorded sampled
      simp only [started, activate, true_or, iff_true]
      refine .inl ⟨server, rfl, fun span member => ?_⟩
      obtain ⟨data, rfl, trace, parent⟩ := Scopes.spans_recorded recording enabled scopes _ span member
      refine ⟨data, rfl, trace, .inl ?_⟩
      rcases parent with direct | ⟨parent, listed, same⟩
      · exact ⟨server, .inl rfl, direct⟩
      · exact ⟨parent, .inr listed, same⟩
    | false =>
      have started := inert sampled
      simp only [started, activate, Bool.false_eq_true, false_or, true_and]
      rw [← position, ← (Scopes.spans_none_iff enabled scopes _).1]
      simp

end Theorem

def steadySource : Source where
  spans := ⟨fun _ => "00000000000000ab", fun _ => by decide +kernel, fun _ _ => by decide +kernel⟩
  traces := ⟨fun _ => "000000000000000000000000000000cd", fun _ => by decide +kernel, fun _ _ => by decide +kernel⟩

def unsampledCaller : Request := ⟨"GET /users", "00-0af7651916cd43dd8448eb211c80319c-b7ad6b7169203331-00", ""⟩

/-- The request makes one query. Every trace that starts here is sampled. -/
def unsampledRequest : Handled :=
  handle ⟨true, Rat.ofInt 1, 128, 2048⟩ steadySource unsampledCaller (.scope (.db "select_user") .done .done) ⟨0, 0⟩

theorem query_recorded_alone :
    unsampledRequest.server = none ∧
    unsampledRequest.nested =
      [some ⟨"db select_user", .client, "000000000000000000000000000000cd", "00000000000000ab", "", "", true⟩] ∧
    ¬ Whole unsampledCaller unsampledRequest := by
  have server : unsampledRequest.server = none := by decide +kernel
  have nested : unsampledRequest.nested =
      [some ⟨"db select_user", .client, "000000000000000000000000000000cd", "00000000000000ab", "", "", true⟩] := by
    decide +kernel
  refine ⟨server, nested, ?_⟩
  rintro (⟨_, recorded, _⟩ | ⟨_, none⟩)
  · exact Option.some_ne_none _ (recorded.symm.trans server)
  · rw [nested] at none
    exact Option.some_ne_none _ (none _ List.mem_cons_self)

end RealtimeChat.Tracing
