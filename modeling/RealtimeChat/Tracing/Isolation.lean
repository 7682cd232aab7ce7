import RealtimeChat.Tracing.Encoding

/-! What one request's bytes do to the spans of others.

The middleware records the URL, the headers and the address of a request as they
come. The exporter prints a whole batch and drops it when that fails, so a span
reaches the collector only together with the rest of its batch.
-/

set_option autoImplicit false

namespace RealtimeChat.Tracing.Wire

open Foundation Document

section Exporting

variable (format : TraceWireFormat) (resource : Resource)

def entry (span : SpanData) : Document :=
  match format with
  | .otlpHttpJson => otlpSpan span
  | .zipkinJson => zipkinSpan resource span

def body (spans : List SpanData) : Document :=
  match format with
  | .otlpHttpJson => otlpBody resource spans
  | .zipkinJson => zipkinBody resource spans

def encode (spans : List SpanData) : Option String :=
  match format with
  | .otlpHttpJson => toOtlpJson resource spans
  | .zipkinJson => toZipkinJson resource spans

def listed (document : Document) : List Document :=
  match format with
  | .otlpHttpJson => (do
      let first ← (← document.member "resourceSpans").elements.head?
      let scope ← (← first.member "scopeSpans").elements.head?
      return (← scope.member "spans").elements).getD []
  | .zipkinJson => document.elements

def posted (exporter : SpanExporter) (spans : List SpanData) : Option String :=
  if spans.isEmpty || !exporter.endpoint.valid then none else encode format resource spans

/-- A batch that cannot be printed is an exception, which the exporter catches. -/
def attempt (spans : List SpanData) (collector : String → Reply) : Reply :=
  match encode format resource spans with
  | some written => collector written
  | none => .unencodable

/-- `export_spans`, with the body that it posts. -/
def exportSpans (exporter : SpanExporter) (spans : List SpanData) (collector : String → Reply) :
    Except String SpanExporter × Option String :=
  (exporter.exportSpans spans (attempt format resource spans collector), posted format resource exporter spans)

def Sent (exporter : SpanExporter) (spans : List SpanData) (span : SpanData) : Prop :=
  ∃ document text, posted format resource exporter spans = some text ∧ document.dump = some text ∧
    entry format resource span ∈ listed format document

def Printable (spans : List SpanData) : Prop :=
  match format with
  | .otlpHttpJson => resource.Valid ∧ ∀ span ∈ spans, span.Valid
  | .zipkinJson => resource.serviceName.IsValidUTF8 ∧ ∀ span ∈ spans, span.ZipkinValid resource

variable {format resource} {exporter : SpanExporter} {spans : List SpanData}

theorem encode_eq : encode format resource spans = (body format resource spans).dump := by
  cases format <;> rfl

theorem listed_body : listed format (body format resource spans) = spans.map (entry format resource) := by
  cases format with
  | otlpHttpJson =>
    simp only [listed, body, otlpBody, member_object, lastOf, field]
    rfl
  | zipkinJson => rfl

theorem encodable_otlpBody : (otlpBody resource spans).Encodable ↔ resource.Valid ∧ ∀ span ∈ spans, span.Valid := by
  unfold otlpBody
  refine ((named_of_eq ["resourceSpans"] rfl).encodable_iff (by decide)).trans ?_
  rw [List.forall_mem_singleton, field_encodable, encodable_list, List.forall_mem_singleton]
  refine ((named_of_eq ["resource", "scopeSpans"] rfl).encodable_iff (by decide)).trans ?_
  rw [List.forall_mem_cons, List.forall_mem_singleton, field_encodable, field_encodable, encodable_list,
    List.forall_mem_singleton]
  refine and_congr ?_ ?_
  · refine ((named_of_eq ["attributes"] rfl).encodable_iff (by decide)).trans ?_
    rw [List.forall_mem_singleton, field_encodable, encodable_list, encodable_otlpResourceAttributes]
  · refine ((named_of_eq ["scope", "spans"] rfl).encodable_iff (by decide)).trans ?_
    have scope : (object [field "name" (words "rtc"), field "version" (words version)]).Encodable :=
      ((named_of_eq ["name", "version"] rfl).encodable_iff (by decide)).mpr (by
        simp only [List.forall_mem_cons, field_encodable, encodable_words, List.not_mem_nil, false_implies, implies_true,
          and_true])
    rw [List.forall_mem_cons, List.forall_mem_singleton, field_encodable, field_encodable, and_iff_right scope,
      encodable_list, List.forall_mem_map]
    simp only [encodable_otlpSpan]

theorem encodable_body (some : spans ≠ []) : (body format resource spans).Encodable ↔ Printable format resource spans := by
  cases format with
  | otlpHttpJson => exact encodable_otlpBody
  | zipkinJson =>
    rw [body, zipkinBody, encodable_list, List.forall_mem_map]
    simp only [encodable_zipkinSpan]
    -- Zipkin has the service name in every span, so it takes one span to tell of it.
    obtain ⟨first, member⟩ := List.exists_mem_of_ne_nil spans some
    exact ⟨fun all => ⟨(all first member).1, fun span there => (all span there).2⟩,
      fun valid span there => ⟨valid.1, valid.2 span there⟩⟩

theorem isSome_posted (some : spans ≠ []) : (posted format resource exporter spans).isSome ↔
    exporter.endpoint.valid = true ∧ Printable format resource spans := by
  rw [← encodable_body some, ← isSome_dump, ← encode_eq, posted]
  cases exporter.endpoint.valid <;> simp [some]

theorem isSome_posted_of_delivers (some : spans ≠ []) {collector : String → Reply}
    (delivers : exporter.delivers (attempt format resource spans collector) = true) :
    (posted format resource exporter spans).isSome := by
  obtain ⟨valid, accepts⟩ := Bool.and_eq_true_iff.mp delivers
  rw [attempt] at accepts
  split at accepts
  · next encoded => simp [posted, some, valid, encoded]
  · cases accepts

theorem sent_of_printable (valid : exporter.endpoint.valid = true) (printable : Printable format resource spans)
    {span : SpanData} (member : span ∈ spans) : Sent format resource exporter spans span := by
  obtain ⟨text, sent⟩ := Option.isSome_iff_exists.mp
    ((isSome_posted (List.ne_nil_of_mem member)).mpr ⟨valid, printable⟩)
  refine ⟨body format resource spans, text, sent, ?_, ?_⟩
  · rw [← encode_eq, ← sent]
    simp [posted, valid, List.ne_nil_of_mem member]
  · rw [listed_body]
    exact List.mem_map_of_mem member

/-- Every valid span of a batch is sent exactly if there is none, or the exporter has an endpoint and everything that
goes into the body is valid, in the other spans too. -/
theorem valid_spans_sent_iff (format : TraceWireFormat) (resource : Resource) (exporter : SpanExporter)
    (spans : List SpanData) :
    (∀ span ∈ spans, span.Valid → Sent format resource exporter spans span) ↔
      (∀ span ∈ spans, ¬ span.Valid) ∨ exporter.endpoint.valid = true ∧ Printable format resource spans := by
  constructor
  · intro all
    by_cases none : ∀ span ∈ spans, ¬ span.Valid
    · exact .inl none
    · push Not at none
      obtain ⟨span, member, valid⟩ := none
      -- One valid span that is sent shows that the whole batch could be printed.
      obtain ⟨_, text, sent, _⟩ := all span member valid
      exact .inr ((isSome_posted (List.ne_nil_of_mem member)).mp (Option.isSome_of_eq_some sent))
  · rintro (none | ⟨valid, printable⟩) span member whole
    · exact absurd whole (none span member)
    · exact sent_of_printable valid printable member

end Exporting

section Middleware

/-- What the middleware reads of a request; a header that is missing is empty. -/
structure HttpRequest where
  method : String
  url : ByteArray
  remoteIpAddress : ByteArray
  requestId : ByteArray
  traceparent : ByteArray
  tracestate : ByteArray
  userAgent : ByteArray

def characters (bytes : ByteArray) : String := String.ofList (bytes.data.toList.map fun byte => Char.ofNat byte.toNat)

def HttpRequest.parent (request : HttpRequest) : Option SpanContext := parseTraceparent (characters request.traceparent)

def HttpRequest.attributes (request : HttpRequest) (token : String) : List (ByteArray × ByteArray) :=
  [("http.request.method".toByteArray, request.method.toByteArray),
    ("url.path".toByteArray, request.url),
    ("url.scheme".toByteArray, "http".toByteArray),
    ("network.protocol.name".toByteArray, "http".toByteArray),
    ("rtc.request_id".toByteArray, if request.requestId.isEmpty then token.toByteArray else request.requestId)] ++
    unlessEmpty "client.address" request.remoteIpAddress ++ unlessEmpty "user_agent.original" request.userAgent

variable (options : TracerOptions) (source : Source)

/-- The server span of a request, unless it is inert. The trace state comes with the parent. -/
def beforeHandle (request : HttpRequest) (token : String) (startTime : Int) (draws : Draws) : Option SpanData :=
  (startSpan options source "" .server request.parent draws).1.map fun data =>
    { name := (request.method ++ " ").toByteArray ++ request.url
      kind := data.kind
      traceId := data.traceId.toByteArray
      spanId := data.spanId.toByteArray
      parentSpanId := data.parentSpanId.toByteArray
      traceState := if request.parent.isSome then request.tracestate else ByteArray.empty
      startTime := startTime
      duration := 0
      status := .unset
      statusMessage := ByteArray.empty
      attributes := request.attributes token }

/-- Only failures of the server mark its span as failed. -/
def afterHandle (code duration : Int) (span : SpanData) : SpanData :=
  { span with
    duration := duration
    attributes := span.attributes ++ [("http.response.status_code".toByteArray, (toString code).toByteArray)]
    status := if 500 ≤ code then .error else .ok
    statusMessage := if 500 ≤ code then ("HTTP " ++ toString code).toByteArray else ByteArray.empty }

structure HttpRequest.Valid (request : HttpRequest) : Prop where
  url : request.url.IsValidUTF8
  remoteIpAddress : request.remoteIpAddress.IsValidUTF8
  requestId : request.requestId.IsValidUTF8
  userAgent : request.userAgent.IsValidUTF8
  tracestate : request.parent.isSome → request.tracestate.IsValidUTF8

theorem HttpRequest.valid_attributes {request : HttpRequest} {token : String} :
    (∀ entry ∈ request.attributes token, entry.1.IsValidUTF8 ∧ entry.2.IsValidUTF8) ↔
      request.url.IsValidUTF8 ∧ request.requestId.IsValidUTF8 ∧ request.remoteIpAddress.IsValidUTF8 ∧
        request.userAgent.IsValidUTF8 := by
  have id : (if request.requestId.isEmpty then token.toByteArray else request.requestId).IsValidUTF8 ↔
      request.requestId.IsValidUTF8 := by
    split
    · next empty => exact iff_of_true token.isValidUTF8 (isValidUTF8_of_isEmpty empty)
    · rfl
  simp only [attributes, List.forall_mem_append, valid_unlessEmpty, List.forall_mem_cons, String.isValidUTF8, id,
    List.not_mem_nil, false_implies, implies_true, and_true, true_and, and_assoc]

variable {options source}

theorem valid_serverSpan {request : HttpRequest} {token : String} {startTime : Int} {draws : Draws} {span : SpanData}
    (started : beforeHandle options source request token startTime draws = some span) (code duration : Int) :
    (afterHandle code duration span).Valid ↔ request.Valid := by
  obtain ⟨data, _, rfl⟩ := Option.map_eq_some_iff.mp started
  have state : (if request.parent.isSome then request.tracestate else ByteArray.empty).IsValidUTF8 ↔
      (request.parent.isSome → request.tracestate.IsValidUTF8) := by
    split
    · next parent => simp [parent]
    · next parent => exact iff_of_true ByteArray.isValidUTF8_empty fun there => absurd there parent
  have message : (if 500 ≤ code then ("HTTP " ++ toString code).toByteArray else ByteArray.empty).IsValidUTF8 := by
    split
    · exact String.isValidUTF8 _
    · exact ByteArray.isValidUTF8_empty
  constructor
  · intro valid
    obtain ⟨entries, _⟩ := List.forall_mem_append.mp valid.attributes
    obtain ⟨url, id, address, agent⟩ := HttpRequest.valid_attributes.mp entries
    exact ⟨url, address, id, agent, state.mp valid.traceState⟩
  · intro valid
    refine ⟨ByteArray.IsValidUTF8.append (String.isValidUTF8 _) valid.url, String.isValidUTF8 _, String.isValidUTF8 _,
      String.isValidUTF8 _, state.mpr valid.tracestate, message, List.forall_mem_append.mpr ⟨?_, ?_⟩⟩
    · exact HttpRequest.valid_attributes.mpr ⟨valid.url, valid.requestId, valid.remoteIpAddress, valid.userAgent⟩
    · rw [List.forall_mem_singleton]
      exact ⟨"http.response.status_code".isValidUTF8, (toString code).isValidUTF8⟩

end Middleware

section Discarded

def healthyRequest : HttpRequest where
  method := "GET"
  url := "/users".toByteArray
  remoteIpAddress := "10.0.0.7".toByteArray
  requestId := ByteArray.empty
  traceparent := ByteArray.empty
  tracestate := ByteArray.empty
  userAgent := "curl/8.0".toByteArray

def hostileRequest : HttpRequest := { healthyRequest with userAgent := ⟨#[255]⟩ }

def handled (request : HttpRequest) : Option SpanData :=
  (beforeHandle ⟨true, Rat.ofInt 1, 128, 2048⟩ steadySource request "00c0ffee00c0ffee" 0 ⟨0, 0⟩).map (afterHandle 200 1000)

def chatResource : Resource := ⟨"realtime-chat".toByteArray, ByteArray.empty, ByteArray.empty, ByteArray.empty⟩

def collectorExporter (format : TraceWireFormat) : SpanExporter := .create "http://collector" format

/-- Neither span is posted, in either format. -/
theorem agent_discards_spans : ∃ hostile healthy : SpanData, handled hostileRequest = some hostile ∧
    handled healthyRequest = some healthy ∧ healthy.Valid ∧ ∀ format : TraceWireFormat,
      (collectorExporter format).endpoint.valid = true ∧
      posted format chatResource (collectorExporter format) [hostile, healthy] = none ∧
      ¬ Sent format chatResource (collectorExporter format) [hostile, healthy] healthy := by
  obtain ⟨hostile, first⟩ : ∃ span, handled hostileRequest = some span :=
    Option.isSome_iff_exists.mp (by decide +kernel)
  obtain ⟨healthy, second⟩ : ∃ span, handled healthyRequest = some span :=
    Option.isSome_iff_exists.mp (by decide +kernel)
  have valid : healthy.Valid := by
    obtain ⟨span, started, rfl⟩ := Option.map_eq_some_iff.mp second
    exact (valid_serverSpan started 200 1000).mpr ⟨"/users".isValidUTF8, "10.0.0.7".isValidUTF8,
      ByteArray.isValidUTF8_empty, "curl/8.0".isValidUTF8, fun _ => ByteArray.isValidUTF8_empty⟩
  have nothing (format : TraceWireFormat) : (collectorExporter format).endpoint.valid = true ∧
      posted format chatResource (collectorExporter format)
        ([handled hostileRequest, handled healthyRequest].filterMap id) = none := by
    cases format <;> decide +kernel
  rw [first, second] at nothing
  refine ⟨hostile, healthy, first, second, valid, fun format => ⟨(nothing format).1, (nothing format).2, ?_⟩⟩
  rintro ⟨_, _, sent, _⟩
  cases sent.symm.trans (nothing format).2

end Discarded

end RealtimeChat.Tracing.Wire
