import RealtimeChat.Foundation.Json
import RealtimeChat.Chat.Messages

/-! The bodies of requests.

A body that is not valid JSON is `none`. Each field is checked in the order of
the source, and the first failure is reported.
-/

set_option autoImplicit false

namespace RealtimeChat.Chat

open Foundation Accounts

def parseJsonBody : Option Json → Result Json
  | some body => .ok body
  | none => .error ⟨.validation, "Request body is not valid JSON", ""⟩

def requireObject (body : Json) : Result Unit :=
  if body.isObject then .ok () else .error ⟨.validation, "Request body must be a JSON object", ""⟩

def requireString (body : Json) (field : String) : Result String :=
  match body.find field with
  | none | some .null => .error (invalid ("Missing required field: " ++ field) field)
  | some (.string value) => .ok value
  | some _ => .error (invalid ("Field must be a string: " ++ field) field)

def requireInt (body : Json) (field : String) : Result Int :=
  match (body.find field).bind Json.integer? with
  | some value => .ok value
  | none => .error (invalid ("Field must be an integer: " ++ field) field)

def requireIntegers (items : List Json) (field : String) : Result (List Int) :=
  items.mapM fun entry =>
    match entry.integer? with
    | some value => .ok value
    | none => .error (invalid (field ++ " must contain integers") field)

def ConversationType.fromString : String → Option ConversationType
  | "direct" => some .direct
  | "group" => some .group
  | _ => none

def MessageType.fromString : String → Option MessageType
  | "text" => some .text
  | "system" => some .system
  | _ => none

def readName (body : Json) : Result (Option String) :=
  match body.find "name" with
  | none | some .null => .ok none
  | some (.string name) => .ok (some name)
  | some _ => .error (invalid "name must be a string" "name")

def CreateConversationRequest.fromJson (body : Json) : Result CreateConversationRequest := do
  requireObject body
  let type ← requireString body "type"
  match ConversationType.fromString type with
  | none => throw (invalid "type must be 'direct' or 'group'" "type")
  | some type =>
    let name ← readName body
    match body.find "participant_ids" with
    | some (.array items) =>
      let participantIds ← requireIntegers items "participant_ids"
      return ⟨type, name, participantIds⟩
    | _ => throw (invalid "participant_ids must be an array of user ids" "participant_ids")

def renameGroupFromJson (body : Json) : Result String := do
  requireObject body
  requireString body "name"

def addMemberFromJson (body : Json) : Result UserId := do
  requireObject body
  match (body.find "user_id").bind Json.integer? with
  | some userId => return userId
  | none => throw (invalid "user_id must be an integer" "user_id")

def readMessageType (body : Json) : Result MessageType :=
  match body.find "type" with
  | none | some .null => .ok .text
  | some (.string type) =>
    match MessageType.fromString type with
    | some type => .ok type
    | none => .error (invalid "type must be 'text' or 'system'" "type")
  | some _ => .error (invalid "type must be a string" "type")

def readAttachmentIds (body : Json) : Result (List Int) :=
  match body.find "attachment_ids" with
  | none | some .null => .ok []
  | some (.array items) => requireIntegers items "attachment_ids"
  | some _ => .error (invalid "attachment_ids must be an array of ids" "attachment_ids")

def SendMessageRequest.fromJson (body : Json) : Result SendMessageRequest := do
  requireObject body
  let conversationId ← requireInt body "conversation_id"
  let content ← requireString body "content"
  let type ← readMessageType body
  let attachmentIds ← readAttachmentIds body
  return ⟨conversationId, content, type, attachmentIds⟩

def updateMessageFromJson (body : Json) : Result String := do
  requireObject body
  requireString body "content"

def reactionFromJson (body : Json) : Result String := do
  requireObject body
  match (body.find "emoji").bind Json.text? with
  | some emoji => return emoji
  | none => throw (invalid "emoji must be a string" "emoji")

end RealtimeChat.Chat
