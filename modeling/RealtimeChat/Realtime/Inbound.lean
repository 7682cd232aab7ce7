import RealtimeChat.Foundation.JsonIntegers
import RealtimeChat.Foundation.Program
import RealtimeChat.Realtime.Fanout

/-! What an instance makes of the bodies that its peers publish.

The subscribers of the two channels test the outer shape of a body and convert
the ids in it. The conversion of a list throws at an element that is no number,
drops the fraction of one that is no integer, and lets a large one wrap around.
-/

set_option autoImplicit false

namespace RealtimeChat.Realtime

open Foundation

variable {Conn : Type} [DecidableEq Conn]

section Handlers

def typeName : Json → String
  | .null => "null"
  | .bool _ => "boolean"
  | .number _ | .decimal _ => "number"
  | .string _ => "string"
  | .array _ => "array"
  | .object _ => "object"

/-- `get<std::int64_t>`; the error is the text of the exception. -/
def getInt64 (value : Json) : Except String Int :=
  match value.toInt? with
  | some id => .ok id
  | none => .error ("[json.exception.type_error.302] type must be number, but is " ++ typeName value)

def bodyData (body : Json) : Json := (body.find "data").getD (.object [])

def inbound (manager : ConnectionManager Conn) (clock : UserId → String) (timestamp : String) :
    Message → Except String (List (Conn × Json))
  | ⟨.userBroadcast, body⟩ =>
    match (body.find "event").bind Json.text?, (body.find "user_ids").bind Json.array? with
    | some event, some items => do
      let users ← items.mapM getInt64
      return deliverLocal manager users event (bodyData body) clock
    | _, _ => .ok []
  | ⟨.roomBroadcast, body⟩ =>
    match (body.find "event").bind Json.text?, (body.find "conversation_id").bind Json.integer? with
    | some event, some conversationId =>
      .ok (deliverLocalToRoom manager conversationId event (bodyData body) none timestamp)
    | _, _ => .ok []

theorem mapM_getInt64 (items : List Json) : (items.mapM getInt64).toOption = items.mapM Json.toInt? := by
  induction items with
  | nil => rfl
  | cons item rest ih =>
    rw [List.mapM_cons, List.mapM_cons, ← ih, getInt64]
    cases item.toInt? with
    | none => rfl
    | some id => cases rest.mapM getInt64 <;> rfl

theorem handle_eq_inbound (manager : ConnectionManager Conn) (clock : UserId → String) (timestamp : String)
    (message : Message) :
    handle manager clock timestamp message = ⟨(inbound manager clock timestamp message).toOption.getD [], []⟩ := by
  obtain ⟨channel, body⟩ := message
  cases channel with
  | userBroadcast =>
    have ids : (body.find "user_ids").bind Json.toInts? =
        ((body.find "user_ids").bind Json.array?).bind fun items => (items.mapM getInt64).toOption := by
      simp only [mapM_getInt64]
      cases body.find "user_ids" with
      | none => rfl
      | some item => cases item <;> rfl
    simp only [handle, inbound, ids, bodyData]
    cases (body.find "event").bind Json.text? with
    | none => rfl
    | some event =>
      cases (body.find "user_ids").bind Json.array? with
      | none => rfl
      | some items =>
        simp only [Option.bind_some]
        cases items.mapM getInt64 <;> rfl
  | roomBroadcast =>
    simp only [handle, inbound, bodyData]
    cases (body.find "event").bind Json.text? with
    | none => rfl
    | some event => cases (body.find "conversation_id").bind Json.integer? <;> rfl

end Handlers

section Specification

def namedId : Json → Option Int
  | .number value => if Json.fitsSigned value then some value else none
  | _ => none

def namedIds : Message → Option (List Int)
  | ⟨.userBroadcast, body⟩ => ((body.find "user_ids").bind Json.array?).bind fun items => items.mapM namedId
  | ⟨.roomBroadcast, body⟩ => ((body.find "conversation_id").bind namedId).map fun id => [id]

def deliverTo (manager : ConnectionManager Conn) (clock : UserId → String) (timestamp : String) (channel : Channel)
    (ids : List Int) (event : String) (data : Json) : List (Conn × Json) :=
  match channel with
  | .userBroadcast => deliverLocal manager ids event data clock
  | .roomBroadcast => ids.flatMap fun id => deliverLocalToRoom manager id event data none timestamp

/-- What a message asks for: nothing, unless it names an event and its targets. -/
def askedFor (manager : ConnectionManager Conn) (clock : UserId → String) (timestamp : String) (message : Message) :
    List (Conn × Json) :=
  match (message.body.find "event").bind Json.text?, namedIds message with
  | some event, some ids => deliverTo manager clock timestamp message.channel ids event (bodyData message.body.stored)
  | _, _ => []

/-- The subscriber does not throw and sends what the message asks for, whoever is connected. The
message is the document that the peer has published. -/
def Strict (Conn : Type) [DecidableEq Conn] (message : Message) : Prop :=
  ∀ manager : ConnectionManager Conn, manager.Reachable → ∀ (clock : UserId → String) (timestamp : String),
    inbound manager clock timestamp { message with body := message.body.stored } = .ok (askedFor manager clock timestamp message)

/-- The targets of a message with an event and an outer shape that passes are integers of 64 bits. -/
def WellTyped : Message → Prop
  | ⟨.userBroadcast, body⟩ => ((body.find "event").bind Json.text?).isSome = true →
      ∀ items, (body.find "user_ids").bind Json.array? = some items → ∀ item ∈ items, (namedId item).isSome = true
  | ⟨.roomBroadcast, body⟩ => ((body.find "event").bind Json.text?).isSome = true →
      ∀ id, body.find "conversation_id" = some (.number id) → ¬ (2 ^ 63 ≤ id ∧ id < 2 ^ 64)

theorem getInt64_of_named {item : Json} {id : Int} (named : namedId item = some id) : getInt64 item.stored = .ok id := by
  cases item with
  | number value =>
    simp only [namedId, Option.ite_none_right_eq_some] at named
    obtain ⟨fits, same⟩ := named
    cases same
    simp [getInt64, Json.stored, Json.storeInteger, fits, Json.toInt?, Json.toSigned_of_fitsSigned fits]
  | null | bool | decimal | string | array | object => cases named

theorem mapM_getInt64_of_named {items : List Json} {ids : List Int} (named : items.mapM namedId = some ids) :
    (items.map Json.stored).mapM getInt64 = .ok ids := by
  induction items generalizing ids with
  | nil =>
    cases named
    rfl
  | cons item rest ih =>
    rw [List.mapM_cons] at named
    obtain ⟨id, first, named⟩ := Option.bind_eq_some_iff.mp named
    obtain ⟨others, later, made⟩ := Option.bind_eq_some_iff.mp named
    cases made
    rw [List.map_cons, List.mapM_cons, getInt64_of_named first, ih later]
    rfl

theorem mapM_named_isSome {items : List Json} :
    (items.mapM namedId).isSome = true ↔ ∀ item ∈ items, (namedId item).isSome = true := by
  induction items with
  | nil => simp
  | cons item rest ih =>
    rw [List.mapM_cons, List.forall_mem_cons, ← ih]
    cases namedId item with
    | none => simp
    | some id => cases rest.mapM namedId <;> simp

theorem integer?_stored_of_plain {item : Json} (plain : ∀ id, item = .number id → ¬ (2 ^ 63 ≤ id ∧ id < 2 ^ 64)) :
    item.stored.integer? = namedId item := by
  cases item with
  | number value =>
    have within := plain value rfl
    rw [Json.stored, namedId]
    by_cases fits : Json.fitsSigned value = true
    · simp [Json.storeInteger, fits, Json.integer?, Json.toSigned_of_fitsSigned fits]
    · have other : Json.fitsUnsigned value = false := by
        rw [Json.fitsSigned_iff] at fits
        rw [← Bool.not_eq_true, Json.fitsUnsigned_iff]
        omega
      simp [Json.storeInteger, fits, other, Json.integer?]
  | null | bool | decimal | string | array | object => rfl

end Specification

section Presence

theorem sendToSessions_ne_nil {sessions : List (Session Conn)} (online : sessions ≠ []) (event : String) (data : Json)
    (timestamp : String) : sendToSessions sessions event data {} none timestamp ≠ [] := by
  rw [sendToSessions, sendEach_eq (FrameCache.of_create ..)]
  simpa using online

def alone (conn : Conn) (userId : UserId) : ConnectionManager Conn :=
  ConnectionManager.empty.registerSession conn userId "" .v1

theorem alone_reachable (conn : Conn) (userId : UserId) : (alone conn userId).Reachable :=
  .opened userId "" .v1 .empty rfl

theorem deliverLocal_alone_ne_nil (conn : Conn) (userId : UserId) (others : List UserId) (event : String) (data : Json)
    (clock : UserId → String) : deliverLocal (alone conn userId) (userId :: others) event data clock ≠ [] := by
  rw [deliverLocal, List.flatMap_cons]
  refine List.append_ne_nil_of_left_ne_nil (sendToSessions_ne_nil ?_ event data _) _
  rw [Ne, (alone_reachable conn userId).consistent.sessionsForUser_eq_nil]
  intro absent
  exact absent conn ⟨conn, userId, "", .v1, 0⟩ (by simp [alone, ConnectionManager.get_registerSession]) rfl

def aloneIn (conn : Conn) (conversationId : ConversationId) : ConnectionManager Conn :=
  { alone conn 1 with rooms := (alone conn 1).rooms.joinMany [conversationId] conn }

theorem aloneIn_reachable (conn : Conn) (conversationId : ConversationId) : (aloneIn conn conversationId).Reachable :=
  .joined _ (alone_reachable conn 1) (by simp [alone, ConnectionManager.get_registerSession])

theorem deliverLocalToRoom_aloneIn_ne_nil (conn : Conn) (conversationId : ConversationId) (event : String) (data : Json)
    (timestamp : String) :
    deliverLocalToRoom (aloneIn conn conversationId) conversationId event data none timestamp ≠ [] := by
  refine sendToSessions_ne_nil ?_ event data timestamp
  have joined : conn ∈ (aloneIn conn conversationId).rooms.connectionsInRoom conversationId :=
    RoomManager.mem_joinMany.mpr (.inl ⟨rfl, List.mem_singleton_self _⟩)
  rw [SessionManager.sessionsFor, Ne, List.filterMap_eq_nil_iff]
  intro absent
  exact absurd (absent conn joined) (by simp [aloneIn, alone, ConnectionManager.get_registerSession])

end Presence

section Shapes

variable {body : Json}

theorem event_stored : (body.stored.find "event").bind Json.text? = (body.find "event").bind Json.text? := by
  rw [Json.find_stored]
  cases body.find "event" with
  | none => rfl
  | some item => exact Json.text?_stored item

theorem items_stored : (body.stored.find "user_ids").bind Json.array? =
    ((body.find "user_ids").bind Json.array?).map (List.map Json.stored) := by
  rw [Json.find_stored]
  cases body.find "user_ids" with
  | none => rfl
  | some item => exact Json.array?_stored item

theorem strict_of_wellTyped {message : Message} (typed : WellTyped message) : Strict Conn message := by
  obtain ⟨channel, body⟩ := message
  intro manager _ clock timestamp
  cases channel with
  | userBroadcast =>
    simp only [inbound, askedFor, event_stored, items_stored, namedIds]
    cases named : (body.find "event").bind Json.text? with
    | none => rfl
    | some event =>
      cases listed : (body.find "user_ids").bind Json.array? with
      | none => rfl
      | some items =>
        have integers := typed (Option.isSome_iff_exists.mpr ⟨event, named⟩) items listed
        obtain ⟨ids, found⟩ := Option.isSome_iff_exists.mp (mapM_named_isSome.mpr integers)
        simp only [Option.map_some, Option.bind_some, mapM_getInt64_of_named found, found, deliverTo]
        rfl
  | roomBroadcast =>
    simp only [inbound, askedFor, event_stored, Json.find_stored body "conversation_id", namedIds]
    cases named : (body.find "event").bind Json.text? with
    | none => rfl
    | some event =>
      cases given : body.find "conversation_id" with
      | none => rfl
      | some item =>
        have plain := typed (Option.isSome_iff_exists.mpr ⟨event, named⟩)
        have read : item.stored.integer? = namedId item :=
          integer?_stored_of_plain fun id same => plain id (given.trans (congrArg some same))
        simp only [Option.map_some, Option.bind_some, read, deliverTo]
        cases namedId item <;> simp

theorem wellTyped_of_strict (conn : Conn) {message : Message} (strict : Strict Conn message) : WellTyped message := by
  obtain ⟨channel, body⟩ := message
  cases channel with
  | userBroadcast =>
    intro hasEvent items listed
    obtain ⟨event, named⟩ := Option.isSome_iff_exists.mp hasEvent
    rw [← mapM_named_isSome]
    by_contra unnamed
    have nothing : items.mapM namedId = none := Option.not_isSome_iff_eq_none.mp unnamed
    -- Either the conversion throws, or there is a user to whom something is sent.
    have outcome (manager : ConnectionManager Conn) (reachable : manager.Reachable) :
        (((items.map Json.stored).mapM getInt64).map fun users =>
          deliverLocal manager users event (bodyData body.stored) fun _ => "") = .ok [] := by
      have sent := strict manager reachable (fun _ => "") ""
      simp only [inbound, askedFor, event_stored, items_stored, namedIds, named, listed, Option.map_some, Option.bind_some,
        nothing] at sent
      exact sent
    obtain ⟨users, converted, _⟩ := map_eq_ok.mp (outcome .empty .empty)
    cases users with
    | nil =>
      cases items with
      | nil => cases nothing
      | cons item rest =>
        rw [List.map_cons, List.mapM_cons] at converted
        obtain ⟨_, _, converted⟩ := bind_eq_ok.mp converted
        obtain ⟨_, _, made⟩ := bind_eq_ok.mp converted
        cases made
    | cons user others =>
      obtain ⟨users, again, sent⟩ := map_eq_ok.mp (outcome _ (alone_reachable conn user))
      rw [converted] at again
      cases again
      exact deliverLocal_alone_ne_nil conn user others event _ _ sent
  | roomBroadcast =>
    intro hasEvent id given beyond
    obtain ⟨event, named⟩ := Option.isSome_iff_exists.mp hasEvent
    have large : Json.fitsSigned id = false := by
      rw [← Bool.not_eq_true, Json.fitsSigned_iff]
      omega
    have unsigned : Json.fitsUnsigned id = true := by
      rw [Json.fitsUnsigned_iff]
      omega
    have sent := strict _ (aloneIn_reachable conn (Json.toSigned id)) (fun _ => "") ""
    simp [inbound, askedFor, event_stored, Json.find_stored body "conversation_id", namedIds, named, given, namedId, large,
      Json.stored, Json.storeInteger, unsigned, Json.integer?] at sent
    exact deliverLocalToRoom_aloneIn_ne_nil conn _ event _ _ sent

end Shapes

/-- A subscriber neither throws nor sends anything else than a message asks for exactly if the targets of
the message are integers of 64 bits wherever its outer shape passes. -/
theorem inbound_strict_iff (conn : Conn) (message : Message) : Strict Conn message ↔ WellTyped message :=
  ⟨wellTyped_of_strict conn, strict_of_wellTyped⟩

/-- A list of users with a text in it makes the subscriber throw. -/
theorem inbound_throws_on_text : inbound (alone 0 7 : ConnectionManager Nat) (fun _ => "") ""
    ⟨.userBroadcast, Json.stored (.object [("event", .string "x"), ("user_ids", .array [.number 7, .string "8"])])⟩ =
      .error "[json.exception.type_error.302] type must be number, but is string" := by
  rfl

end RealtimeChat.Realtime
