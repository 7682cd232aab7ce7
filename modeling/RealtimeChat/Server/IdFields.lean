import RealtimeChat.Foundation.JsonIntegers
import RealtimeChat.Server.Endpoints

/-! The ids in the bodies of requests and frames.

Each decoder asks whether a value is an integer and takes it as a signed one. An
unsigned integer beyond the signed ones passes the test and is taken for another
id.
-/

set_option autoImplicit false

namespace RealtimeChat.Server

open Foundation Chat

inductive IdField where
  | messageConversation
  | messageAttachments
  | participants
  | member
  | typingConversation
  | deliveredMessage
  | readConversation
  | readUpTo
  deriving DecidableEq, Repr

namespace IdField

def key : IdField → String
  | .messageConversation | .typingConversation | .readConversation => "conversation_id"
  | .messageAttachments => "attachment_ids"
  | .participants => "participant_ids"
  | .member => "user_id"
  | .deliveredMessage => "message_id"
  | .readUpTo => "up_to_message_id"

def given (field : IdField) (body : Json) : List Json :=
  match field with
  | .messageAttachments | .participants =>
    match body.find field.key with
    | some (.array items) => items
    | _ => []
  | _ => (body.find field.key).toList

def ids (body : Json) : IdField → Result (List Int)
  | .messageConversation => (SendMessageRequest.fromJson body).map fun request => [request.conversationId]
  | .messageAttachments => (SendMessageRequest.fromJson body).map SendMessageRequest.attachmentIds
  | .participants => (CreateConversationRequest.fromJson body).map CreateConversationRequest.participantIds
  | .member => (addMemberFromJson body).map fun userId => [userId]
  | .typingConversation => (EventDispatcher.requireInt body "conversation_id").map fun id => [id]
  | .deliveredMessage => (EventDispatcher.requireInt body "message_id").map fun id => [id]
  | .readConversation => do
    let conversationId ← EventDispatcher.requireInt body "conversation_id"
    let _ ← EventDispatcher.requireInt body "up_to_message_id"
    return [conversationId]
  | .readUpTo => do
    let _ ← EventDispatcher.requireInt body "conversation_id"
    let upToMessageId ← EventDispatcher.requireInt body "up_to_message_id"
    return [upToMessageId]

/-- An integer that is written at the place is used as it is, if the body is not rejected. -/
def Exact (field : IdField) (value : Int) : Prop :=
  ∀ (body : Json) (position : Nat), (field.given body)[position]? = some (.number value) →
    ∀ used, field.ids body.stored = .ok used → used[position]? = some value

end IdField

section Decoders

variable {body : Json}

theorem found_of_ok {found : Option Int} {error : AppException} {value : Int}
    (read : (match found with | some value => .ok value | none => .error error : Result Int) = .ok value) :
    found = some value := by
  cases found with
  | none => cases read
  | some value =>
    cases read
    rfl

theorem integers_of_requireIntegers {items : List Json} {field : String} {values : List Int}
    (read : requireIntegers items field = .ok values) : items.map Json.integer? = values.map some := by
  induction items generalizing values with
  | nil =>
    cases read
    rfl
  | cons item rest ih =>
    simp only [requireIntegers, List.mapM_cons] at read
    obtain ⟨first, here, read⟩ := bind_eq_ok.mp read
    obtain ⟨others, rest, made⟩ := bind_eq_ok.mp read
    cases made
    rw [List.map_cons, found_of_ok here, ih rest, List.map_cons]

theorem integers_of_readAttachmentIds {values : List Int} (read : readAttachmentIds body = .ok values) :
    (IdField.messageAttachments.given body).map Json.integer? = values.map some := by
  simp only [IdField.given, IdField.key]
  unfold readAttachmentIds at read
  split at read
  · next absent =>
    cases read
    rw [absent]
    rfl
  · next null =>
    cases read
    rw [null]
    rfl
  · next items found =>
    rw [found]
    exact integers_of_requireIntegers read
  · cases read

theorem IdField.integers_of_ids {field : IdField} {used : List Int} (read : field.ids body = .ok used) :
    (field.given body).map Json.integer? = used.map some := by
  have single {key : String} {value : Int} (found : (body.find key).bind Json.integer? = some value) :
      (body.find key).toList.map Json.integer? = [value].map some := by
    obtain ⟨item, here, integer⟩ := Option.bind_eq_some_iff.mp found
    simp [here, integer]
  cases field with
  | messageConversation =>
    obtain ⟨request, parsed, rfl⟩ := map_eq_ok.mp read
    obtain ⟨_, _, parsed⟩ := bind_eq_ok.mp parsed
    obtain ⟨conversationId, found, parsed⟩ := bind_eq_ok.mp parsed
    iterate 3 obtain ⟨_, _, parsed⟩ := bind_eq_ok.mp parsed
    cases parsed
    exact single (found_of_ok found)
  | messageAttachments =>
    obtain ⟨request, parsed, rfl⟩ := map_eq_ok.mp read
    iterate 4 obtain ⟨_, _, parsed⟩ := bind_eq_ok.mp parsed
    obtain ⟨attachmentIds, found, parsed⟩ := bind_eq_ok.mp parsed
    cases parsed
    exact integers_of_readAttachmentIds found
  | participants =>
    obtain ⟨request, parsed, rfl⟩ := map_eq_ok.mp read
    obtain ⟨_, _, parsed⟩ := bind_eq_ok.mp parsed
    obtain ⟨type, _, parsed⟩ := bind_eq_ok.mp parsed
    split at parsed
    · cases parsed
    · obtain ⟨_, _, parsed⟩ := bind_eq_ok.mp parsed
      split at parsed
      · next items found =>
        obtain ⟨participantIds, integers, parsed⟩ := bind_eq_ok.mp parsed
        cases parsed
        simp only [given, key, found]
        exact integers_of_requireIntegers integers
      · cases parsed
  | member =>
    obtain ⟨userId, parsed, rfl⟩ := map_eq_ok.mp read
    obtain ⟨_, _, parsed⟩ := bind_eq_ok.mp parsed
    exact single (found_of_ok parsed)
  | typingConversation | deliveredMessage =>
    obtain ⟨id, found, rfl⟩ := map_eq_ok.mp read
    exact single (found_of_ok found)
  | readConversation =>
    obtain ⟨conversationId, found, rest⟩ := bind_eq_ok.mp read
    obtain ⟨_, _, made⟩ := bind_eq_ok.mp rest
    cases made
    exact single (found_of_ok found)
  | readUpTo =>
    obtain ⟨_, _, rest⟩ := bind_eq_ok.mp read
    obtain ⟨upToMessageId, found, made⟩ := bind_eq_ok.mp rest
    cases made
    exact single (found_of_ok found)

end Decoders

namespace IdField

variable (field : IdField) (item : Json)

theorem given_stored (body : Json) : field.given body.stored = (field.given body).map Json.stored := by
  have single (key : String) : (body.stored.find key).toList = (body.find key).toList.map Json.stored := by
    rw [Json.find_stored]
    cases body.find key <;> rfl
  have many (key : String) : (match body.stored.find key with | some (.array items) => items | _ => []) =
      (match body.find key with | some (.array items) => items | _ => []).map Json.stored := by
    rw [Json.find_stored]
    cases body.find key with
    | none => rfl
    | some item =>
      cases item with
      | array items => exact Json.storedItems_eq_map items
      | number value =>
        exact Json.read_storeInteger (fun item => match some item with | some (.array items) => items | _ => []) value
          (fun _ => rfl) fun _ => rfl
      | null | bool | decimal | string | object => rfl
  cases field with
  | messageAttachments | participants => exact many _
  | messageConversation | member | typingConversation | deliveredMessage | readConversation | readUpTo => exact single _

def sample (item : Json) : IdField → Json
  | .messageConversation => .object [("conversation_id", item), ("content", .string "hi")]
  | .messageAttachments =>
    .object [("conversation_id", .number 1), ("content", .string "hi"), ("attachment_ids", .array [item])]
  | .participants => .object [("type", .string "group"), ("participant_ids", .array [item])]
  | .member => .object [("user_id", item)]
  | .typingConversation => .object [("conversation_id", item)]
  | .deliveredMessage => .object [("message_id", item)]
  | .readConversation => .object [("conversation_id", item), ("up_to_message_id", .number 1)]
  | .readUpTo => .object [("conversation_id", .number 1), ("up_to_message_id", item)]

theorem ids_sample (value : Int) : field.ids (field.sample (.number value)) = .ok [value] := by
  cases field <;> rfl

theorem stored_sample : (field.sample item).stored = field.sample item.stored := by
  cases field <;> rfl

theorem given_sample : field.given (field.sample item) = [item] := by
  cases field <;> rfl

end IdField

/-- A decoder rejects an integer or uses it as it is written exactly if it is not one of the unsigned
integers beyond the signed ones. -/
theorem id_exact_iff (field : IdField) (value : Int) : field.Exact value ↔ ¬ (2 ^ 63 ≤ value ∧ value < 2 ^ 64) := by
  have wraps : (Json.fitsSigned value = false ∧ Json.fitsUnsigned value = true) ↔ 2 ^ 63 ≤ value ∧ value < 2 ^ 64 := by
    rw [← Bool.not_eq_true, Json.fitsSigned_iff, Json.fitsUnsigned_iff]
    omega
  rw [← wraps]
  constructor
  · intro exact beyond
    have kept : (Json.number value).stored = .number (Json.toSigned value) := by
      rw [Json.stored, Json.storeInteger, beyond.1, beyond.2]
      rfl
    have accepted : field.ids (field.sample (.number value)).stored = .ok [Json.toSigned value] := by
      rw [IdField.stored_sample, kept, IdField.ids_sample]
    have same := exact _ 0 (by rw [IdField.given_sample]; rfl) _ accepted
    exact Json.toSigned_ne beyond.1 beyond.2 (Option.some.inj same)
  · intro within body position written used read
    have integers := IdField.integers_of_ids read
    have there : ((field.given body.stored).map Json.integer?)[position]? = some (Json.storeInteger value).integer? := by
      rw [IdField.given_stored, List.map_map, List.getElem?_map, written]
      rfl
    rw [integers, List.getElem?_map] at there
    obtain ⟨id, found, integer⟩ := Option.map_eq_some_iff.mp there
    rw [found, (Json.integer?_storeInteger integer.symm).mpr within]

/-- The largest unsigned id is taken for the id -1. -/
theorem id_wraps_around : IdField.ids
    (Json.stored (.object [("conversation_id", .number 18446744073709551615), ("content", .string "hi")]))
    .messageConversation = .ok [-1] := rfl

end RealtimeChat.Server
