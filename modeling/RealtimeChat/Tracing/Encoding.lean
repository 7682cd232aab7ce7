import RealtimeChat.Foundation.Documents
import RealtimeChat.Tracing.Exporter

/-! Batches of spans as the collector gets them.

A batch is encoded as one document and posted as one body. Names and attributes
of spans are bytes, among them bytes of the client that the middleware records
as they come. One span that cannot be printed leaves the exporter without a body.
-/

set_option autoImplicit false

namespace RealtimeChat.Tracing.Wire

open Foundation Document

inductive SpanStatus where
  | unset
  | ok
  | error
  deriving DecidableEq, Repr

structure Resource where
  serviceName : ByteArray
  serviceVersion : ByteArray
  deploymentEnvironment : ByteArray
  serviceInstanceId : ByteArray

/-- A completed span. Times are in nanoseconds. -/
structure SpanData where
  name : ByteArray
  kind : SpanKind
  traceId : ByteArray
  spanId : ByteArray
  parentSpanId : ByteArray
  traceState : ByteArray
  startTime : Int
  duration : Int
  status : SpanStatus
  statusMessage : ByteArray
  attributes : List (ByteArray × ByteArray)

section Encoding

def otlpKind : SpanKind → Int
  | .internal => 1
  | .server => 2
  | .client => 3
  | .producer => 4
  | .consumer => 5

def otlpStatus : SpanStatus → Int
  | .unset => 0
  | .ok => 1
  | .error => 2

/-- Zipkin has no kind for an internal span. -/
def zipkinKind : SpanKind → Option String
  | .server => some "SERVER"
  | .client => some "CLIENT"
  | .producer => some "PRODUCER"
  | .consumer => some "CONSUMER"
  | .internal => none

def unsigned (value : Int) : Int := value % 18446744073709551616

def unixNanos (time : Int) : Int := unsigned time

def unixMicros (time : Int) : Int := unsigned (time.tdiv 1000)

def words (text : String) : Document := .text text.toByteArray

def otlpAttribute (key value : ByteArray) : Document :=
  object [field "key" (.text key), field "value" (object [field "stringValue" (.text value)])]

def unlessEmpty (key : String) (value : ByteArray) : List (ByteArray × ByteArray) :=
  if value.isEmpty then [] else [(key.toByteArray, value)]

def otlpResourceAttributes (resource : Resource) : List Document :=
  (("service.name".toByteArray, resource.serviceName) ::
    (unlessEmpty "service.version" resource.serviceVersion ++
      unlessEmpty "deployment.environment" resource.deploymentEnvironment ++
      unlessEmpty "service.instance.id" resource.serviceInstanceId)).map fun (key, value) => otlpAttribute key value

def otlpSpan (span : SpanData) : Document :=
  let start := unixNanos span.startTime
  object ([field "traceId" (.text span.traceId),
    field "spanId" (.text span.spanId),
    field "name" (.text span.name),
    field "kind" (.number (otlpKind span.kind)),
    -- Numbers of 64 bits are texts.
    field "startTimeUnixNano" (words (toString start)),
    field "endTimeUnixNano" (words (toString (unsigned (start + unsigned span.duration)))),
    field "attributes" (.list (span.attributes.map fun (key, value) => otlpAttribute key value)),
    field "status" (object (field "code" (.number (otlpStatus span.status)) :: filled "message" span.statusMessage))] ++
    filled "parentSpanId" span.parentSpanId ++ filled "traceState" span.traceState)

def version : String := "0.1.0"

def otlpBody (resource : Resource) (spans : List SpanData) : Document :=
  object [field "resourceSpans" (.list [object [
    field "resource" (object [field "attributes" (.list (otlpResourceAttributes resource))]),
    field "scopeSpans" (.list [object [
      field "scope" (object [field "name" (words "rtc"), field "version" (words version)]),
      field "spans" (.list (spans.map otlpSpan))]])]])]

def toOtlpJson (resource : Resource) (spans : List SpanData) : Option String := (otlpBody resource spans).dump

def SpanData.tags (resource : Resource) (span : SpanData) : List (ByteArray × ByteArray) :=
  span.attributes ++
    (if span.status = .error then
      [("error".toByteArray, if span.statusMessage.isEmpty then "true".toByteArray else span.statusMessage)]
    else []) ++
    unlessEmpty "deployment.environment" resource.deploymentEnvironment

def zipkinSpan (resource : Resource) (span : SpanData) : Document :=
  object ([field "traceId" (.text span.traceId),
    field "id" (.text span.spanId),
    field "name" (.text span.name),
    field "timestamp" (.number (unixMicros span.startTime)),
    field "duration" (.number (unsigned span.duration / 1000)),
    field "localEndpoint" (object [field "serviceName" (.text resource.serviceName)]),
    field "tags" (object ((span.tags resource).map fun (key, value) => (key, .text value)))] ++
    filled "parentId" span.parentSpanId ++ ((zipkinKind span.kind).map fun kind => field "kind" (words kind)).toList)

def zipkinBody (resource : Resource) (spans : List SpanData) : Document := .list (spans.map (zipkinSpan resource))

def toZipkinJson (resource : Resource) (spans : List SpanData) : Option String := (zipkinBody resource spans).dump

end Encoding

section Validity

structure SpanData.Valid (span : SpanData) : Prop where
  name : span.name.IsValidUTF8
  traceId : span.traceId.IsValidUTF8
  spanId : span.spanId.IsValidUTF8
  parentSpanId : span.parentSpanId.IsValidUTF8
  traceState : span.traceState.IsValidUTF8
  statusMessage : span.statusMessage.IsValidUTF8
  attributes : ∀ entry ∈ span.attributes, entry.1.IsValidUTF8 ∧ entry.2.IsValidUTF8

/-- What Zipkin gets of a span is valid: not its trace state, and of its tags the values that are assigned last. -/
structure SpanData.ZipkinValid (resource : Resource) (span : SpanData) : Prop where
  name : span.name.IsValidUTF8
  traceId : span.traceId.IsValidUTF8
  spanId : span.spanId.IsValidUTF8
  parentSpanId : span.parentSpanId.IsValidUTF8
  tags : ∀ tag, lastOf Prod.fst (span.tags resource) tag.1 = some tag → tag.1.IsValidUTF8 ∧ tag.2.IsValidUTF8

structure Resource.Valid (resource : Resource) : Prop where
  serviceName : resource.serviceName.IsValidUTF8
  serviceVersion : resource.serviceVersion.IsValidUTF8
  deploymentEnvironment : resource.deploymentEnvironment.IsValidUTF8
  serviceInstanceId : resource.serviceInstanceId.IsValidUTF8

theorem encodable_words (text : String) : (words text).Encodable := encodable_text.mpr text.isValidUTF8

variable {value : ByteArray} {resource : Resource} {span : SpanData}

theorem encodable_otlpAttribute {key : ByteArray} :
    (otlpAttribute key value).Encodable ↔ key.IsValidUTF8 ∧ value.IsValidUTF8 := by
  have outer : Named ["key", "value"] [field "key" (.text key), field "value" (object [field "stringValue" (.text value)])] :=
    named_of_eq _ rfl
  have inner : Named ["stringValue"] [field "stringValue" (.text value)] := named_of_eq _ rfl
  rw [otlpAttribute, outer.encodable_iff (by decide), List.forall_mem_cons, List.forall_mem_singleton, field_encodable,
    field_encodable, encodable_text, inner.encodable_iff (by decide), List.forall_mem_singleton, field_encodable,
    encodable_text]

theorem valid_unlessEmpty {key : String} :
    (∀ entry ∈ unlessEmpty key value, entry.1.IsValidUTF8 ∧ entry.2.IsValidUTF8) ↔ value.IsValidUTF8 := by
  unfold unlessEmpty
  split
  · next empty => exact iff_of_true nofun (isValidUTF8_of_isEmpty empty)
  · rw [List.forall_mem_singleton]
    exact and_iff_right key.isValidUTF8

theorem encodable_otlpResourceAttributes :
    (∀ entry ∈ otlpResourceAttributes resource, entry.Encodable) ↔ resource.Valid := by
  simp only [otlpResourceAttributes, List.forall_mem_map, encodable_otlpAttribute, List.forall_mem_cons,
    List.forall_mem_append, valid_unlessEmpty]
  constructor
  · rintro ⟨⟨_, name⟩, ⟨version, environment⟩, node⟩
    exact ⟨name, version, environment, node⟩
  · intro valid
    exact ⟨⟨"service.name".isValidUTF8, valid.serviceName⟩,
      ⟨valid.serviceVersion, valid.deploymentEnvironment⟩, valid.serviceInstanceId⟩

theorem encodable_otlpStatus :
    (object (field "code" (.number (otlpStatus span.status)) :: filled "message" span.statusMessage)).Encodable ↔
      span.statusMessage.IsValidUTF8 := by
  have code : Named ["code"] [field "code" (.number (otlpStatus span.status))] := named_of_eq _ rfl
  refine ((code.append (named_filled "message" span.statusMessage)).encodable_iff (by decide)).trans ?_
  rw [List.forall_mem_append, List.forall_mem_singleton, field_encodable, filled_encodable]
  exact and_iff_right (encodable_number _)

theorem encodable_otlpSpan : (otlpSpan span).Encodable ↔ span.Valid := by
  unfold otlpSpan
  refine ((((named_of_eq ["traceId", "spanId", "name", "kind", "startTimeUnixNano", "endTimeUnixNano", "attributes",
    "status"] rfl).append (named_filled _ _)).append (named_filled _ _)).encodable_iff (by decide)).trans ?_
  simp only [List.forall_mem_append, List.forall_mem_cons, List.not_mem_nil, false_implies, implies_true, and_true,
    true_and, field_encodable, filled_encodable, encodable_text, encodable_number, encodable_words, encodable_otlpStatus,
    encodable_list, List.forall_mem_map, encodable_otlpAttribute]
  constructor
  · rintro ⟨⟨⟨trace, id, name, entries, message⟩, parent⟩, state⟩
    exact ⟨name, trace, id, parent, state, message, entries⟩
  · intro valid
    exact ⟨⟨⟨valid.traceId, valid.spanId, valid.name, valid.attributes, valid.statusMessage⟩, valid.parentSpanId⟩,
      valid.traceState⟩

theorem encodable_tags {tags : List (ByteArray × ByteArray)} :
    (object (tags.map fun (key, value) => (key, .text value))).Encodable ↔
      ∀ tag, lastOf Prod.fst tags tag.1 = some tag → tag.1.IsValidUTF8 ∧ tag.2.IsValidUTF8 := by
  rw [encodable_object]
  constructor
  · intro all tag found
    have row := all (tag.1, .text tag.2)
    rw [lastOf_map] at row
    exact (row (congrArg _ found)).imp_right encodable_text.mp
  · intro all row found
    rw [lastOf_map] at found
    obtain ⟨tag, there, rfl⟩ := Option.map_eq_some_iff.mp found
    exact (all tag there).imp_right encodable_text.mpr

theorem encodable_zipkinSpan :
    (zipkinSpan resource span).Encodable ↔ resource.serviceName.IsValidUTF8 ∧ span.ZipkinValid resource := by
  -- The field is there or not by the kind of the span; when it is, its value is one of four words.
  have kind : Named ["kind"] ((zipkinKind span.kind).map fun kind => field "kind" (words kind)).toList := by
    cases span.kind with
    | internal => exact List.nil_sublist _
    | server | client | producer | consumer => exact named_of_eq _ rfl
  have printed : ∀ row ∈ ((zipkinKind span.kind).map fun kind => field "kind" (words kind)).toList,
      row.1.IsValidUTF8 ∧ row.2.Encodable := by
    intro row member
    obtain ⟨text, _, rfl⟩ := Option.map_eq_some_iff.mp (Option.mem_toList.mp member)
    exact field_encodable.mpr (encodable_words text)
  have service : Named ["serviceName"] [field "serviceName" (.text resource.serviceName)] := named_of_eq _ rfl
  unfold zipkinSpan
  refine ((((named_of_eq ["traceId", "id", "name", "timestamp", "duration", "localEndpoint", "tags"] rfl).append
    (named_filled _ _)).append kind).encodable_iff (by decide)).trans ?_
  rw [List.forall_mem_append, and_iff_left printed]
  simp only [List.forall_mem_append, List.forall_mem_cons, List.not_mem_nil, false_implies, implies_true, and_true,
    true_and, field_encodable, filled_encodable, encodable_text, encodable_number, encodable_tags,
    service.encodable_iff (List.nodup_singleton _)]
  constructor
  · rintro ⟨⟨trace, id, name, service, tags⟩, parent⟩
    exact ⟨service, name, trace, id, parent, tags⟩
  · rintro ⟨service, valid⟩
    exact ⟨⟨valid.traceId, valid.spanId, valid.name, service, valid.tags⟩, valid.parentSpanId⟩

end Validity

end RealtimeChat.Tracing.Wire
