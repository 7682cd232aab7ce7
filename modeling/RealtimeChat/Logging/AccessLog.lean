import RealtimeChat.Foundation.JsonGrammar
import RealtimeChat.Basic

/-! The access log in its JSON form.

The pattern of the formatter puts the request id and the message between quotes
without escaping them. Both hold bytes of the client: the id is the header
`X-Request-Id` when there is one, and the message names the URL. Headers and
URLs are bytes here, and a text is JSON when the bytes are its UTF-8 form.
-/

set_option autoImplicit false

namespace RealtimeChat.Logging

open Foundation JsonGrammar

def BareText (text : String) : Prop := ∀ c ∈ text.toList, isBare c

instance (text : String) : Decidable (BareText text) := List.decidableBAll _ _

/-- What the formatter fills in by itself: the clock, the thread, and the ids of the span, if any, which are
hexadecimal digits. -/
structure Stamp where
  time : String
  thread : Nat
  traceId : String
  spanId : String
  timed : BareText time
  traced : BareText traceId
  spanned : BareText spanId

structure Method where
  name : String
  word : ∀ c ∈ name.toList, c.isAlpha ∨ c = '-'

/-- The two lines of a request; the second has the status and the microseconds that the request took. -/
inductive Event where
  | arrived
  | answered (code micros : Int)

def Event.level : Event → String
  | arrived => "info"
  | answered code _ => if 500 ≤ code then "error" else "info"

def Event.message (method : Method) (url : ByteArray) : Event → ByteArray
  | arrived => ("--> " ++ method.name ++ " ").toByteArray ++ url
  | answered code micros => ("<-- " ++ method.name ++ " ").toByteArray ++ url ++
      (" " ++ toString code ++ " (" ++ toString micros ++ " us)").toByteArray

/-- `LoggingMiddleware::before_handle`: the header, or a token when there is none. -/
def requestId (header : ByteArray) (token : String) : ByteArray :=
  if header.isEmpty then token.toByteArray else header

def Stamp.opening (stamp : Stamp) (level : String) : String :=
  "\x7b\"time\":\"" ++ stamp.time ++ "\",\"level\":\"" ++ level ++ "\",\"thread\":" ++ toString stamp.thread ++
    ",\"logger\":\"realtime-chat\",\"trace_id\":\"" ++ stamp.traceId ++ "\",\"span_id\":\"" ++ stamp.spanId ++
    "\",\"request_id\":\""

def Stamp.line (stamp : Stamp) (level : String) (id message : ByteArray) : ByteArray :=
  (stamp.opening level).toByteArray ++ id ++ "\",\"message\":\"".toByteArray ++ message ++ "\"\x7d".toByteArray ++
    "\n".toByteArray

/-- A line is one object in JSON with the id and the message as they are. -/
def LoggedAs (line id message : ByteArray) : Prop :=
  ∃ content named said : String, line = (content ++ "\n").toByteArray ∧ '\n' ∉ content.toList ∧
    named.toByteArray = id ∧ said.toByteArray = message ∧
    HasFields content.toList [⟨"request_id".toList, named.toList⟩, ⟨"message".toList, said.toList⟩]

/-- Both lines of a request are well formed, whatever the formatter and the generator of tokens fill in. -/
def WellLogged (method : Method) (header url : ByteArray) : Prop :=
  ∀ (stamp : Stamp) (token : String) (event : Event), BareText token →
    LoggedAs (stamp.line event.level (requestId header token) (event.message method url)) (requestId header token)
      (event.message method url)

def Plain (bytes : ByteArray) : Prop := ∃ text : String, text.toByteArray = bytes ∧ BareText text

variable {first : String} (said : String) (stamp : Stamp) (named : String) (method : Method)

theorem bareText_append {second : String} : BareText (first ++ second) ↔ BareText first ∧ BareText second := by
  simp only [BareText, String.toList_append, List.forall_mem_append]

theorem exists_rest {said : String} {rest : ByteArray} (same : said.toByteArray = first.toByteArray ++ rest) :
    ∃ text : String, text.toByteArray = rest ∧ said = first ++ text := by
  have cancel (chars : List Char) (valid : (chars.utf8Encode ++ rest).IsValidUTF8) : rest.IsValidUTF8 := by
    induction chars with
    | nil => simpa using valid
    | cons c chars ih =>
      rw [List.utf8Encode_cons, ByteArray.append_assoc] at valid
      exact ih (ByteArray.isValidUTF8_utf8Encode_singleton_append_iff.mp valid)
  have valid : (first.toList.utf8Encode ++ rest).IsValidUTF8 := by
    rw [String.utf8Encode_toList, ← same]
    exact said.isValidUTF8
  refine ⟨⟨rest, cancel _ valid⟩, rfl, String.toByteArray_inj.mp ?_⟩
  rw [String.toByteArray_append]
  exact same

def Stamp.pieces (stamp : Stamp) (level : String) (bare : BareText level) : List Piece :=
  [.string "time".toList stamp.time.toList (show BareText "time" by decide +kernel) stamp.timed,
    .string "level".toList level.toList (show BareText "level" by decide +kernel) bare,
    .number "thread".toList stamp.thread (show BareText "thread" by decide +kernel),
    .string "logger".toList "realtime-chat".toList (show BareText "logger" by decide +kernel)
      (show BareText "realtime-chat" by decide +kernel),
    .string "trace_id".toList stamp.traceId.toList (show BareText "trace_id" by decide +kernel) stamp.traced,
    .string "span_id".toList stamp.spanId.toList (show BareText "span_id" by decide +kernel) stamp.spanned]

def fields (named said : String) : List Field :=
  [⟨"request_id".toList, named.toList⟩, ⟨"message".toList, said.toList⟩]

def Stamp.content (stamp : Stamp) (level named said : String) : String :=
  stamp.opening level ++ named ++ "\",\"message\":\"" ++ said ++ "\"\x7d"

theorem Stamp.line_eq (level named said : String) :
    stamp.line level named.toByteArray said.toByteArray = (stamp.content level named said ++ "\n").toByteArray := by
  simp only [line, content, String.toByteArray_append]

theorem Stamp.toList_content (level named said : String) (bare : BareText level) :
    (stamp.content level named said).toList =
      '{' :: writePieces (stamp.pieces level bare) (writeFields (fields named said)) := by
  have time : "\x7b\"time\":\"".toList = '{' :: '"' :: ("time".toList ++ ['"', ':', '"']) := by decide +kernel
  have level : "\",\"level\":\"".toList = '"' :: ',' :: '"' :: ("level".toList ++ ['"', ':', '"']) := by decide +kernel
  have thread : "\",\"thread\":".toList = '"' :: ',' :: '"' :: ("thread".toList ++ ['"', ':']) := by decide +kernel
  have logger : ",\"logger\":\"realtime-chat\",\"trace_id\":\"".toList =
      ',' :: '"' :: ("logger".toList ++ '"' :: ':' :: '"' :: ("realtime-chat".toList ++
        '"' :: ',' :: '"' :: ("trace_id".toList ++ ['"', ':', '"']))) := by decide +kernel
  have span : "\",\"span_id\":\"".toList = '"' :: ',' :: '"' :: ("span_id".toList ++ ['"', ':', '"']) := by
    decide +kernel
  have request : "\",\"request_id\":\"".toList =
      '"' :: ',' :: '"' :: ("request_id".toList ++ ['"', ':', '"']) := by decide +kernel
  have message : "\",\"message\":\"".toList = '"' :: ',' :: '"' :: ("message".toList ++ ['"', ':', '"']) := by
    decide +kernel
  have close : "\"\x7d".toList = ['"', '}'] := by decide +kernel
  delta content opening
  simp only [String.toList_append, time, level, thread, logger, span, request, message, close, pieces, writePieces,
    List.foldr_cons, List.foldr_nil, Piece.string, Piece.number, fields, writeFields, List.append_assoc,
    List.cons_append, List.nil_append]

def ownNames : List (List Char) :=
  ["time".toList, "level".toList, "thread".toList, "logger".toList, "trace_id".toList, "span_id".toList]

def fieldNames : List (List Char) := ["request_id".toList, "message".toList]

theorem hasFields_content (level named said : String) (bare : BareText level) :
    HasFields (stamp.content level named said).toList (fields named said) ↔ BareText named ∧ BareText said := by
  have filled : fields named said ≠ [] := List.cons_ne_nil _ _
  have distinct : ((fields named said).map Field.name).Nodup := by
    change fieldNames.Nodup
    decide +kernel
  have apart : ∀ name ∈ ownNames, name ∉ fieldNames := by decide +kernel
  have words : ∀ name ∈ fieldNames, ∀ c ∈ name, isBare c := List.forall_mem_cons.mpr
    ⟨show BareText "request_id" by decide +kernel, List.forall_mem_singleton.mpr (show BareText "message" by decide +kernel)⟩
  have listed {field : Field} (member : field ∈ fields named said) : field.name ∈ fieldNames :=
    List.mem_map_of_mem (f := Field.name) member
  rw [stamp.toList_content level named said bare, hasFields_iff filled distinct]
  · simp only [fields, List.forall_mem_cons, List.not_mem_nil, false_imp_iff, implies_true, and_true]
    rfl
  · intro field member piece known same
    exact apart piece.name (List.mem_map_of_mem (f := Piece.name) known) (same ▸ listed member)
  · exact fun field member => words field.name (listed member)

theorem newline_not_mem_content {level named said : String} (bareLevel : BareText level) (bareNamed : BareText named)
    (bareSaid : BareText said) : '\n' ∉ (stamp.content level named said).toList := by
  have clear {text : String} (bare : BareText text) : '\n' ∉ text.toList := fun inside => by cases bare _ inside
  have digits : '\n' ∉ (toString stamp.thread).toList := fun inside => by
    cases (whole_toString stamp.thread).1.2 _ inside
  delta Stamp.content Stamp.opening
  simp only [String.toList_append, List.mem_append, clear stamp.timed, clear bareLevel, digits, clear stamp.traced,
    clear stamp.spanned, clear bareNamed, clear bareSaid, or_false, not_or]
  decide +kernel

theorem loggedAs_iff {level : String} (bare : BareText level) (id message : ByteArray) :
    LoggedAs (stamp.line level id message) id message ↔ Plain id ∧ Plain message := by
  constructor
  · rintro ⟨content, named, said, same, _, rfl, rfl, has⟩
    rw [stamp.line_eq, String.toByteArray_inj] at same
    have equal : stamp.content level named said = content := by
      rw [← String.toList_inj, String.toList_append, String.toList_append] at same
      exact String.toList_inj.mp (List.append_cancel_right same)
    rw [← equal] at has
    obtain ⟨bareNamed, bareSaid⟩ := (hasFields_content stamp level named said bare).mp has
    exact ⟨⟨named, rfl, bareNamed⟩, said, rfl, bareSaid⟩
  · rintro ⟨⟨named, rfl, bareNamed⟩, said, rfl, bareSaid⟩
    exact ⟨stamp.content level named said, named, said, stamp.line_eq level named said,
      newline_not_mem_content stamp bare bareNamed bareSaid, rfl, rfl,
      (hasFields_content stamp level named said bare).mpr ⟨bareNamed, bareSaid⟩⟩

theorem Event.bare_level (event : Event) : BareText event.level := by
  cases event with
  | arrived => decide +kernel
  | answered code _ =>
    rw [Event.level]
    split <;> decide +kernel

theorem isBare_of_isAlphanum {c : Char} (word : c.isAlphanum) : isBare c := by
  have other {d : Char} (sign : d.isAlphanum = false) : c ≠ d :=
    ne_of_apply_ne Char.isAlphanum (by rw [word, sign]; decide)
  have least : 32 ≤ c.toNat := by
    delta Char.isAlphanum Char.isAlpha Char.isUpper Char.isLower Char.isDigit at word
    simp only [Bool.or_eq_true, Bool.and_eq_true, decide_eq_true_eq, ge_iff_le, UInt32.le_iff_toNat_le] at word
    rcases word with (upper | lower) | digit
    · exact Nat.le_trans (by decide) upper.1
    · exact Nat.le_trans (by decide) lower.1
    · exact Nat.le_trans (by decide) digit.1
  simp [isBare, least, other (d := '"') rfl, other (d := '\\') rfl]

theorem Method.bare : BareText method.name := by
  intro c member
  rcases method.word c member with letter | rfl
  · exact isBare_of_isAlphanum (by rw [Char.isAlphanum, letter, Bool.true_or])
  · rfl

theorem bareText_toString (value : Int) : BareText (toString value) := by
  have numeral (magnitude : Nat) : BareText magnitude.repr := fun c member =>
    isBare_of_isAlphanum (by rw [Char.isAlphanum, (whole_toString magnitude).1.2 c member, Bool.or_true])
  rw [Int.toString_eq_repr, Int.repr_eq_if]
  split
  · exact numeral value.toNat
  · exact bareText_append.mpr ⟨by decide +kernel, numeral (-value).toNat⟩

theorem Event.plain_message {url : ByteArray} (plain : Plain url) (event : Event) :
    Plain (event.message method url) := by
  obtain ⟨text, rfl, bare⟩ := plain
  cases event with
  | arrived =>
    refine ⟨"--> " ++ method.name ++ " " ++ text, by simp only [message, String.toByteArray_append], ?_⟩
    simp only [bareText_append, method.bare, bare, and_true]
    decide +kernel
  | answered code micros =>
    refine ⟨"<-- " ++ method.name ++ " " ++ text ++ (" " ++ toString code ++ " (" ++ toString micros ++ " us)"),
      by simp only [message, String.toByteArray_append], ?_⟩
    simp only [bareText_append, method.bare, bare, bareText_toString, and_true]
    decide +kernel

def sampleStamp : Stamp where
  time := "2026-07-24T12:00:00.123+00:00"
  thread := 7
  traceId := ""
  spanId := ""
  timed := by decide +kernel
  traced := by decide +kernel
  spanned := by decide +kernel

/-- The lines of a request are well formed, with its id and its messages in their fields, exactly when the header
and the URL are plain. -/
theorem well_logged_iff (method : Method) (header url : ByteArray) :
    WellLogged method header url ↔ Plain header ∧ Plain url := by
  constructor
  · intro logged
    have token : BareText "0" := by decide +kernel
    obtain ⟨plainId, said, same, bare⟩ := (loggedAs_iff _ (Event.bare_level .arrived) _ _).mp
      (logged sampleStamp "0" .arrived token)
    constructor
    · rw [requestId] at plainId
      split at plainId
      · next empty =>
        have none : header = "".toByteArray := by
          rw [ByteArray.isEmpty, beq_iff_eq] at empty
          exact ByteArray.size_eq_zero_iff.mp empty
        exact ⟨"", none.symm, by decide +kernel⟩
      · exact plainId
    · obtain ⟨text, rfl, rfl⟩ := exists_rest same
      exact ⟨text, rfl, (bareText_append.mp bare).2⟩
  · rintro ⟨plainHeader, plainUrl⟩ stamp token event bareToken
    refine (loggedAs_iff stamp event.bare_level _ _).mpr ⟨?_, event.plain_message method plainUrl⟩
    rw [requestId]
    split
    · exact ⟨token, rfl, bareToken⟩
    · exact plainHeader

def Method.get : Method where
  name := "GET"
  word := by
    have letters : "GET".toList.all Char.isAlpha = true := by decide +kernel
    exact fun c member => .inl (List.all_eq_true.mp letters c member)

/-- A quote in the header ends the request id and lets the client write fields of its own. -/
theorem header_forges_field : ¬ WellLogged .get "x\",\"message\":\"y".toByteArray "/".toByteArray := by
  intro logged
  have token : BareText "0" := by decide +kernel
  obtain ⟨⟨text, same, bare⟩, _⟩ := (loggedAs_iff _ (Event.bare_level .arrived) _ _).mp
    (logged sampleStamp "0" .arrived token)
  have header : requestId "x\",\"message\":\"y".toByteArray "0" = "x\",\"message\":\"y".toByteArray := by decide +kernel
  rw [header, String.toByteArray_inj] at same
  rw [same] at bare
  revert bare
  decide +kernel

end RealtimeChat.Logging
