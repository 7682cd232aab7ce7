import RealtimeChat.Foundation.Scanning
import RealtimeChat.Realtime.Fanout
import RealtimeChat.Tracing.Spans

/-! The `traceparent` header, and the field of a cluster message that carries it.

A header is four fields between hyphens: the version, the two ids and the flags.
The splitter stops after four fields, so that those of a later version of the
format are not looked at. A text is written as characters, one for each byte.
-/

set_option autoImplicit false

namespace RealtimeChat.Tracing

open Foundation

/-- `split_fields`. -/
def splitFields (header : String) : List (List Char) := fields '-' 4 header.toList

def formatTraceparent (context : SpanContext) : String :=
  "00-" ++ context.traceId ++ "-" ++ context.spanId ++ if context.sampled then "-01" else "-00"

def isHexDigit (c : Char) : Bool := ('0' ≤ c && c ≤ '9') || ('a' ≤ c && c ≤ 'f')

structure HexField (width : Nat) (text : List Char) : Prop where
  width : text.length = width
  digits : ∀ c ∈ text, isHexDigit c = true

/-- The header has these fields, and what follows them belongs to another version. -/
structure Traceparent (header : String) (version traceId spanId flags : List Char) : Prop where
  parts : ∃ later, (later = [] ∨ ∃ rest, later = '-' :: rest) ∧
    header.toList = version ++ '-' :: (traceId ++ '-' :: (spanId ++ '-' :: (flags ++ later)))
  versionHex : HexField 2 version
  notReserved : version ≠ ['f', 'f']
  traceIdHex : HexField 32 traceId
  traceIdValid : traceId ≠ List.replicate 32 '0'
  spanIdHex : HexField 16 spanId
  spanIdValid : spanId ≠ List.replicate 16 '0'
  flagsHex : HexField 2 flags

def sampledFlag (flags : List Char) : Bool := (parseHexByte flags).any fun byte => byte.testBit 0

variable {text : List Char} {context : SpanContext}

section Digits

theorem isSome_hexDigit (c : Char) : (hexDigit c).isSome = isHexDigit c := by
  unfold hexDigit isHexDigit
  split
  · next decimal => simp [decimal]
  · next decimal =>
    have notDecimal : (decide ('0' ≤ c) && decide (c ≤ '9')) = false := by
      rw [← Bool.not_eq_true, Bool.and_eq_true, decide_eq_true_eq, decide_eq_true_eq]
      exact decimal
    rw [notDecimal, Bool.false_or]
    split
    · next letter => simp [letter]
    · next letter => simpa using letter

theorem hexDigit_lt {c : Char} {digit : Nat} (found : hexDigit c = some digit) :
    digit < 16 ∧ (digit = 15 → c = 'f') := by
  unfold hexDigit at found
  split at found
  · next decimal =>
    have upper : c.toNat ≤ 57 := decimal.2
    cases found
    constructor
    · simp
      omega
    · intro last
      simp at last
      omega
  · split at found
    · next letter =>
      have upper : c.toNat ≤ 102 := letter.2
      have lower : 97 ≤ c.toNat := letter.1
      cases found
      constructor
      · simp
        omega
      · intro last
        apply Char.toNat_inj.mp
        simp at last ⊢
        omega
    · cases found

theorem isLowerHex_iff : isLowerHex text = true ↔ ∀ c ∈ text, isHexDigit c = true := by
  simp only [isLowerHex, List.all_eq_true, isSome_hexDigit]

theorem parseHexByte_pair (high low : Char) :
    parseHexByte [high, low] = (hexDigit high).bind fun first => (hexDigit low).map fun second => first * 16 + second := by
  simp only [parseHexByte, bind, pure, Option.map_eq_bind]
  rfl

theorem HexField.pair (hex : HexField 2 text) : ∃ high low, text = [high, low] :=
  List.length_eq_two.mp hex.width

theorem isSome_parseHexByte : (parseHexByte text).isSome = true ↔ HexField 2 text := by
  constructor
  · intro found
    match text with
    | [] | [_] | _ :: _ :: _ :: _ => cases found
    | [high, low] =>
      refine ⟨rfl, fun c member => ?_⟩
      rw [parseHexByte_pair, Option.isSome_iff_exists] at found
      obtain ⟨byte, found⟩ := found
      obtain ⟨first, highFound, rest⟩ := Option.bind_eq_some_iff.mp found
      obtain ⟨second, lowFound, -⟩ := Option.map_eq_some_iff.mp rest
      rw [← isSome_hexDigit]
      rcases List.mem_pair.mp member with rfl | rfl
      · simp [highFound]
      · simp [lowFound]
  · intro hex
    obtain ⟨high, low, rfl⟩ := hex.pair
    have digit (c : Char) (member : c ∈ [high, low]) : ∃ value, hexDigit c = some value := by
      rw [← Option.isSome_iff_exists, isSome_hexDigit]
      exact hex.digits c member
    obtain ⟨first, highFound⟩ := digit high (by simp)
    obtain ⟨second, lowFound⟩ := digit low (by simp)
    simp [parseHexByte_pair, highFound, lowFound]

/-- The byte `ff` has one writing. -/
theorem parseHexByte_reserved : parseHexByte text = some 255 ↔ text = ['f', 'f'] := by
  constructor
  · intro found
    obtain ⟨high, low, rfl⟩ := (isSome_parseHexByte.mp (by rw [found]; rfl)).pair
    rw [parseHexByte_pair] at found
    obtain ⟨first, highFound, rest⟩ := Option.bind_eq_some_iff.mp found
    obtain ⟨second, lowFound, value⟩ := Option.map_eq_some_iff.mp rest
    obtain ⟨firstBound, firstLast⟩ := hexDigit_lt highFound
    obtain ⟨secondBound, secondLast⟩ := hexDigit_lt lowFound
    rw [firstLast (by omega), secondLast (by omega)]
  · rintro rfl
    decide

end Digits

section Header

variable {width : Nat} {header : String} {version traceId spanId flags : List Char}

theorem HexField.hyphen_notMem (hex : HexField width text) : '-' ∉ text := by
  intro member
  exact absurd (hex.digits _ member) (by decide)

theorem splitFields_eq :
    splitFields header = [version, traceId, spanId, flags] ↔
      ('-' ∉ version ∧ '-' ∉ traceId ∧ '-' ∉ spanId ∧ '-' ∉ flags) ∧
        ∃ later, (later = [] ∨ ∃ rest, later = '-' :: rest) ∧
          header.toList = version ++ '-' :: (traceId ++ '-' :: (spanId ++ '-' :: (flags ++ later))) := by
  rw [splitFields, fields_succ]
  constructor
  · rintro ⟨first, ⟨-, none⟩ | ⟨afterVersion, text, threeLeft⟩⟩
    · cases none
    obtain ⟨second, ⟨-, none⟩ | ⟨afterTrace, rfl, twoLeft⟩⟩ := fields_succ.mp threeLeft
    · cases none
    obtain ⟨third, ⟨-, none⟩ | ⟨afterSpan, rfl, oneLeft⟩⟩ := fields_succ.mp twoLeft
    · cases none
    obtain ⟨fourth, ⟨rfl, -⟩ | ⟨rest, rfl, -⟩⟩ := fields_succ.mp oneLeft
    · exact ⟨⟨first, second, third, fourth⟩, [], .inl rfl, by simpa using text⟩
    · exact ⟨⟨first, second, third, fourth⟩, '-' :: rest, .inr ⟨rest, rfl⟩, text⟩
  · rintro ⟨⟨first, second, third, fourth⟩, later, ends, text⟩
    refine ⟨first, .inr ⟨_, text, ?_⟩⟩
    rw [fields_append _ second, fields_append _ third]
    rcases ends with rfl | ⟨rest, rfl⟩
    · rw [List.append_nil, fields_of_notMem _ fourth]
    · rw [fields_append _ fourth]
      rfl

theorem splitOn_eq :
    (∃ later, header.toList.splitOn '-' = version :: traceId :: spanId :: flags :: later) ↔
      splitFields header = [version, traceId, spanId, flags] := by
  rw [splitFields, fields_eq_take]
  constructor
  · rintro ⟨later, whole⟩
    rw [whole]
    rfl
  · intro four
    have whole := List.take_append_drop 4 (header.toList.splitOn '-')
    rw [four] at whole
    exact ⟨_, whole.symm⟩

theorem parseTraceparent_eq_some :
    parseTraceparent header = some context ↔ ∃ version traceId spanId flags,
      splitFields header = [version, traceId, spanId, flags] ∧
      ((parseHexByte version).isSome = true ∧ parseHexByte version ≠ some 255) ∧
      (isLowerHex traceId = true ∧ isLowerHex spanId = true ∧
        SpanContext.isValid ⟨String.ofList traceId, String.ofList spanId, false, ""⟩ = true) ∧
      (parseHexByte flags).isSome = true ∧
      context = ⟨String.ofList traceId, String.ofList spanId, sampledFlag flags, ""⟩ := by
  constructor
  · intro parsed
    simp only [parseTraceparent] at parsed
    split at parsed
    · cases parsed
    split at parsed
    · next version traceId spanId flags later whole =>
      refine ⟨version, traceId, spanId, flags, splitOn_eq.mp ⟨later, whole⟩, ?_⟩
      split at parsed
      · cases parsed
      · cases parsed
      · next byte notReserved found =>
        split at parsed
        · cases parsed
        · next checks =>
          obtain ⟨flagsByte, flagsFound, rfl⟩ := Option.map_eq_some_iff.mp parsed
          simp only [Bool.or_eq_true, Bool.not_eq_true', not_or, Bool.not_eq_false] at checks
          refine ⟨⟨by simp [found], ?_⟩, ⟨checks.1.1, checks.1.2, checks.2⟩, by simp [flagsFound], ?_⟩
          · rw [found, ne_eq, Option.some.injEq]
            exact notReserved
          · simp [sampledFlag, flagsFound, Nat.testBit_zero]
    · cases parsed
  · rintro ⟨version, traceId, spanId, flags, four, ⟨versionHex, notReserved⟩, ⟨traceHex, spanHex, valid⟩, flagsHex, rfl⟩
    obtain ⟨later, whole⟩ := splitOn_eq.mpr four
    have given : header ≠ "" := by
      rintro rfl
      simp at whole
    obtain ⟨byte, found⟩ := Option.isSome_iff_exists.mp versionHex
    obtain ⟨flagsByte, flagsFound⟩ := Option.isSome_iff_exists.mp flagsHex
    simp only [parseTraceparent, if_neg given, whole, found]
    split
    · next absent => cases absent
    · next same => exact absurd (found.trans same) notReserved
    · simp [traceHex, spanHex, valid, flagsFound, sampledFlag, Nat.testBit_zero]

theorem isValid_ofList :
    SpanContext.isValid ⟨String.ofList traceId, String.ofList spanId, false, ""⟩ = true ↔
      (traceId.length = 32 ∧ traceId ≠ List.replicate 32 '0') ∧ spanId.length = 16 ∧ spanId ≠ List.replicate 16 '0' := by
  have trace : invalidTraceId = String.ofList (List.replicate 32 '0') := by decide +kernel
  have span : invalidSpanId = String.ofList (List.replicate 16 '0') := by decide +kernel
  rw [SpanContext.isValid_iff, trace, span]
  simp only [String.length_ofList, ne_eq, String.ofList_inj]

theorem HexField.iff : HexField width text ↔ text.length = width ∧ isLowerHex text = true := by
  rw [isLowerHex_iff]
  exact ⟨fun hex => ⟨hex.width, hex.digits⟩, fun ⟨width, digits⟩ => ⟨width, digits⟩⟩

/-- The parser accepts the headers of the format and reads their fields. -/
theorem parseTraceparent_iff :
    parseTraceparent header = some context ↔ ∃ version traceId spanId flags,
      Traceparent header version traceId spanId flags ∧
        context = ⟨String.ofList traceId, String.ofList spanId, sampledFlag flags, ""⟩ := by
  rw [parseTraceparent_eq_some]
  refine exists_congr fun version => exists_congr fun traceId => exists_congr fun spanId => exists_congr fun flags => ?_
  rw [splitFields_eq, isSome_parseHexByte, isSome_parseHexByte, isValid_ofList, ne_eq, parseHexByte_reserved]
  constructor
  · rintro ⟨⟨-, parts⟩, ⟨versionHex, notReserved⟩, ⟨traceHex, spanHex, trace, span⟩, flagsHex, same⟩
    exact ⟨⟨parts, versionHex, notReserved, HexField.iff.mpr ⟨trace.1, traceHex⟩, trace.2,
      HexField.iff.mpr ⟨span.1, spanHex⟩, span.2, flagsHex⟩, same⟩
  · rintro ⟨header, same⟩
    obtain ⟨traceWidth, traceHex⟩ := HexField.iff.mp header.traceIdHex
    obtain ⟨spanWidth, spanHex⟩ := HexField.iff.mp header.spanIdHex
    refine ⟨⟨⟨?_, ?_, ?_, ?_⟩, header.parts⟩, ⟨header.versionHex, header.notReserved⟩,
      ⟨traceHex, spanHex, ⟨traceWidth, header.traceIdValid⟩, spanWidth, header.spanIdValid⟩, header.flagsHex, same⟩
    · exact header.versionHex.hyphen_notMem
    · exact header.traceIdHex.hyphen_notMem
    · exact header.spanIdHex.hyphen_notMem
    · exact header.flagsHex.hyphen_notMem

end Header

section RoundTrip

structure SpanContext.Sendable (context : SpanContext) : Prop where
  traceIdHex : HexField 32 context.traceId.toList
  traceIdValid : context.traceId.toList ≠ List.replicate 32 '0'
  spanIdHex : HexField 16 context.spanId.toList
  spanIdValid : context.spanId.toList ≠ List.replicate 16 '0'

def flagsOf (sampled : Bool) : List Char := if sampled then ['0', '1'] else ['0', '0']

theorem toList_formatTraceparent (context : SpanContext) :
    (formatTraceparent context).toList = ['0', '0'] ++ '-' :: (context.traceId.toList ++ '-' ::
      (context.spanId.toList ++ '-' :: (flagsOf context.sampled ++ []))) := by
  unfold formatTraceparent flagsOf
  cases context.sampled <;> simp [String.toList_append]

theorem parseTraceparent_format (sendable : context.Sendable) :
    parseTraceparent (formatTraceparent context) = some { context with traceState := "" } := by
  have hex (text : List Char) (width : text.length = 2) (digits : text.all isHexDigit = true) : HexField 2 text :=
    ⟨width, List.all_eq_true.mp digits⟩
  have flags : HexField 2 (flagsOf context.sampled) := by
    cases context.sampled
    · exact hex _ rfl (by decide)
    · exact hex _ rfl (by decide)
  have sampled : sampledFlag (flagsOf context.sampled) = context.sampled := by
    cases context.sampled <;> decide
  refine parseTraceparent_iff.mpr ⟨['0', '0'], context.traceId.toList, context.spanId.toList,
    flagsOf context.sampled, ⟨⟨[], .inl rfl, toList_formatTraceparent context⟩, hex _ rfl (by decide), by decide,
      sendable.traceIdHex, sendable.traceIdValid, sendable.spanIdHex, sendable.spanIdValid, flags⟩, ?_⟩
  rw [String.ofList_toList, String.ofList_toList, sampled]

end RoundTrip

namespace ClusterTrace

def traceParentKey : String := "_traceparent"

def typeName : Json → String
  | .null => "null"
  | .bool _ => "boolean"
  | .number _ | .decimal _ => "number"
  | .string _ => "string"
  | .array _ => "array"
  | .object _ => "object"

/-- The library makes an object of a null value, and throws for any other value that is not one. -/
def assign (envelope : Json) (key : String) (value : Json) : Except String Json :=
  match envelope with
  | .null => .ok (.object [(key, value)])
  | .object _ => .ok (envelope.set key value)
  | other =>
    .error ("[json.exception.type_error.305] cannot use operator[] with a string argument with " ++ typeName other)

/-- Nothing is added outside of a trace. -/
def stamp (current : Option SpanContext) (envelope : Json) : Except String Json :=
  match current with
  | none => .ok envelope
  | some context =>
    if !context.isValid then .ok envelope
    else assign envelope traceParentKey (.string (formatTraceparent context))

def extract (envelope : Json) : Option SpanContext :=
  match envelope.find traceParentKey with
  | some (.string header) => parseTraceparent header
  | _ => none

variable {envelope : Json} (current : Option SpanContext)

theorem find_assign {assigned value : Json} {key : String} (done : assign envelope key value = .ok assigned) :
    assigned.find key = some value := by
  cases envelope with
  | null =>
    cases done
    simp [Json.find, Json.lookup]
  | object members =>
    cases done
    exact (Json.find_set rfl key key value).trans (if_pos rfl)
  | bool | number | decimal | string | array => cases done

theorem stamp_sendable (sendable : context.Sendable) (envelope : Json) :
    stamp (some context) envelope = assign envelope traceParentKey (.string (formatTraceparent context)) := by
  have valid : context.isValid = true := by
    have read := isValid_parseTraceparent (parseTraceparent_format sendable)
    exact read
  simp [stamp, valid]

theorem extract_stamp (sendable : context.Sendable) {stamped : Json}
    (done : stamp (some context) envelope = .ok stamped) :
    extract stamped = some { context with traceState := "" } := by
  rw [stamp_sendable sendable] at done
  rw [extract, find_assign done]
  exact parseTraceparent_format sendable

theorem exists_stamp (isObject : envelope.isObject = true) : ∃ stamped, stamp current envelope = .ok stamped := by
  cases envelope with
  | object members =>
    cases current with
    | none => exact ⟨_, rfl⟩
    | some context =>
      simp only [stamp, assign]
      split <;> exact ⟨_, rfl⟩
  | null | bool | number | decimal | string | array => cases isObject

theorem stamp_set_node (nodeId : String) (current : Option SpanContext) {body : Json} (isObject : body.isObject = true) :
    stamp current (body.set "_node" (.string nodeId)) =
      .ok (Realtime.stamp nodeId ((current.filter (·.isValid)).map formatTraceparent) body) := by
  cases body with
  | object members =>
    cases current with
    | none => rfl
    | some context =>
      cases valid : context.isValid <;> simp [stamp, assign, Realtime.stamp, valid, Json.set, traceParentKey, Option.filter]
  | null | bool | number | decimal | string | array => cases isObject

end ClusterTrace

/-- The headers that are accepted are those of the format, with what is read from them; and a context with the ids
of the format comes back from its header and from a message it was stamped onto. -/
theorem traceparent_exact :
    (∀ header context, parseTraceparent header = some context ↔ ∃ version traceId spanId flags,
      Traceparent header version traceId spanId flags ∧
        context = ⟨String.ofList traceId, String.ofList spanId, sampledFlag flags, ""⟩) ∧
    ∀ context : SpanContext, context.Sendable →
      parseTraceparent (formatTraceparent context) = some { context with traceState := "" } ∧
      (∀ envelope : Json, envelope.isObject = true → ∃ stamped, ClusterTrace.stamp (some context) envelope = .ok stamped) ∧
      ∀ envelope stamped, ClusterTrace.stamp (some context) envelope = .ok stamped →
        ClusterTrace.extract stamped = some { context with traceState := "" } := by
  refine ⟨fun header context => parseTraceparent_iff, fun context sendable => ⟨?_, ?_, ?_⟩⟩
  · exact parseTraceparent_format sendable
  · intro envelope isObject
    exact ClusterTrace.exists_stamp (some context) isObject
  · intro envelope stamped done
    exact ClusterTrace.extract_stamp sendable done

end RealtimeChat.Tracing
