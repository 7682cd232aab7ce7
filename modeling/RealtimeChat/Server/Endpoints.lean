import RealtimeChat.Realtime.Protocol
import RealtimeChat.Chat.Requests
import RealtimeChat.Chat.Frame

/-! The entry points that can reach the stored conversations.

A REST endpoint is a guard and a handler over the id of the token's user. The
handlers of the endpoints that only serve other data (profiles, notifications,
files, searches, listings, metrics) are one: they leave the conversations alone.
A WebSocket frame goes to the dispatcher, which has no guard: what it does
depends on the feature flags only.
-/

set_option autoImplicit false

namespace RealtimeChat.Server

open Foundation Accounts Security Realtime Chat

inductive Guard where
  | tokenOnly
  | active
  | permission (permission : Permission)
  deriving DecidableEq, Repr

inductive Endpoint where
  | createConversation (body : Option Json)
  | getConversation (conversationId : ConversationId)
  | deleteConversation (conversationId : ConversationId)
  | renameGroup (conversationId : ConversationId) (body : Option Json)
  | addMember (conversationId : ConversationId) (body : Option Json)
  | removeMember (conversationId : ConversationId) (userId : UserId)
  | leave (conversationId : ConversationId)
  | sendMessage (body : Option Json)
  | editMessage (messageId : MessageId) (body : Option Json)
  | deleteMessage (messageId : MessageId)
  | react (messageId : MessageId) (body : Option Json)
  | unreact (messageId : MessageId)
  | listReactions (messageId : MessageId)
  | adminDeleteConversation (conversationId : ConversationId)
  | logout
  | logoutAll
  | me
  | elsewhere (guard : Guard)

namespace Endpoint

def guard : Endpoint → Guard
  | .adminDeleteConversation _ => .permission .manageGroups
  | .logout | .logoutAll | .me => .tokenOnly
  | .elsewhere guard => guard
  | _ => .active

open ConversationRepository in
/-- The deletion by an administrator, for which membership does not matter. -/
def adminDelete (actorId : UserId) (conversationId : ConversationId) : Service Unit := do
  let _ ← ConversationService.requireConversation conversationId
  let participants ← select (listParticipantIds · conversationId)
  transaction fun store _ => .ok (ConversationRepository.remove store conversationId, ())
  broadcast participants "conversation.deleted" (.conversationId conversationId)
  publish (.adminAction actorId "conversation.delete" "conversation" (toString conversationId) participants.length)

def toBody (conversation : Conversation) : Service Unit := do
  let _ ← select (ConversationRepository.listParticipants · conversation.id)

def messageBody (message : Chat.Message) : Service Unit := do
  let _ ← MessageService.toResponse message

def getUser (userId : UserId) : Service Unit := ConversationService.requireUserExists userId

def handle (userId : UserId) : Endpoint → Service Unit
  | .createConversation body => do
    let request ← Program.require (parseJsonBody body >>= CreateConversationRequest.fromJson)
    toBody (← ConversationService.create userId request)
  | .getConversation conversationId => do toBody (← ConversationService.get userId conversationId)
  | .deleteConversation conversationId => ConversationService.remove userId conversationId
  | .renameGroup conversationId body => do
    let name ← Program.require (parseJsonBody body >>= renameGroupFromJson)
    toBody (← ConversationService.renameGroup userId conversationId name)
  | .addMember conversationId body => do
    let member ← Program.require (parseJsonBody body >>= addMemberFromJson)
    let _ ← ConversationService.addMember userId conversationId member
  | .removeMember conversationId member => ConversationService.removeMember userId conversationId member
  | .leave conversationId => ConversationService.leave userId conversationId
  | .sendMessage body => do
    let request ← Program.require (parseJsonBody body >>= SendMessageRequest.fromJson)
    messageBody (← MessageService.send userId request)
  | .editMessage messageId body => do
    let content ← Program.require (parseJsonBody body >>= updateMessageFromJson)
    messageBody (← MessageService.edit userId messageId content)
  | .deleteMessage messageId => do messageBody (← MessageService.remove userId messageId)
  | .react messageId body => do
    let emoji ← Program.require (parseJsonBody body >>= reactionFromJson)
    let _ ← ReactionService.react userId messageId emoji
  | .unreact messageId => ReactionService.unreact userId messageId
  | .listReactions messageId => do
    let _ ← ReactionService.list userId messageId
  | .adminDeleteConversation conversationId => adminDelete userId conversationId
  | .me => getUser userId
  | .logout | .logoutAll | .elsewhere _ => return ()

theorem handle_leaves_users (userId : UserId) (endpoint : Endpoint) :
    Leaves Store.users (endpoint.handle userId) := by
  have body (conversation : Conversation) : Leaves Store.users (toBody conversation) := by grind [toBody]
  have response (message : Chat.Message) : Leaves Store.users (messageBody message) := by grind [messageBody]
  -- The rules tagged in `Chat.Frame` follow each handler through its reads, transactions and broadcasts.
  cases endpoint <;> grind [handle, adminDelete, getUser]

theorem handle_leaves_of_tokenOnly {T : Type} {view : Store → T} {endpoint : Endpoint}
    (unchecked : endpoint.guard = .tokenOnly) (userId : UserId) : Leaves view (endpoint.handle userId) := by
  cases endpoint <;> grind [guard, handle, getUser]

end Endpoint

structure Features where
  typing : Bool
  readReceipts : Bool
  deriving DecidableEq, Repr

/-- What is left to the connection layer when a frame has been handled. -/
inductive Answer where
  | nothing
  | pong (envelope : Envelope)
  | typing (conversationId : ConversationId) (starting : Bool)
  | error (code message : String) (envelope : Envelope)
  deriving DecidableEq, Repr

namespace EventDispatcher

def requireInt (data : Json) (field : String) : Result Int :=
  match (data.find field).bind Json.integer? with
  | some value => .ok value
  | none => .error ⟨.validation, "Missing integer field: " ++ field, ""⟩

def handleSendMessage (userId : UserId) (data : Json) : Service Answer := do
  let request ← Program.require (SendMessageRequest.fromJson data)
  let _ ← MessageService.send userId request
  return .nothing

def handleTyping (userId : UserId) (data : Json) (starting : Bool) : Service Answer := do
  let conversationId ← Program.require (requireInt data "conversation_id")
  let _ ← ConversationService.get userId conversationId
  return .typing conversationId starting

def handleMarkDelivered (userId : UserId) (data : Json) : Service Answer := do
  let messageId ← Program.require (requireInt data "message_id")
  ReadReceiptService.markDelivered userId messageId
  return .nothing

def handleMarkRead (userId : UserId) (data : Json) : Service Answer := do
  let conversationId ← Program.require (requireInt data "conversation_id")
  let upToMessageId ← Program.require (requireInt data "up_to_message_id")
  ReadReceiptService.markRead userId conversationId upToMessageId
  return .nothing

/-- A frame whose feature is switched off is dropped. -/
def whenEnabled (enabled : Bool) (handler : Service Answer) : Service Answer :=
  if enabled then handler else return .nothing

def dispatch (features : Features) (userId : UserId) (frame : InboundFrame) : Service Answer :=
  let envelope : Envelope := ⟨frame.requestId, frame.correlationId⟩
  if frame.event = "ping" then return .pong envelope
  -- Sending has no feature switch: it is always let through.
  else if frame.event = "message.send" then handleSendMessage userId frame.payload
  else if frame.event = "typing.start" then whenEnabled features.typing (handleTyping userId frame.payload true)
  else if frame.event = "typing.stop" then whenEnabled features.typing (handleTyping userId frame.payload false)
  else if frame.event = "mark_delivered" then
    whenEnabled features.readReceipts (handleMarkDelivered userId frame.payload)
  else if frame.event = "mark_read" then whenEnabled features.readReceipts (handleMarkRead userId frame.payload)
  else return .error "validation_error" "Unknown event type" envelope

/-- `data` is the parsed text, or `none` for a text that is not JSON. -/
def onMessage (features : Features) (userId : UserId) (data : Option Json) : Service Answer :=
  match data.bind decode with
  | none => return .error "validation_error" "Malformed event envelope" {}
  | some frame => (dispatch features userId frame).handle fun error =>
      return .error error.type.code error.message ⟨frame.requestId, frame.correlationId⟩

def stores (features : Features) (data : Option Json) : Bool :=
  (data.bind decode).any fun frame => frame.event = "message.send" ||
    (features.readReceipts && (frame.event = "mark_delivered" || frame.event = "mark_read"))

theorem onMessage_leaves_users (features : Features) (userId : UserId) (data : Option Json) :
    Leaves Store.users (onMessage features userId data) := by
  unfold onMessage
  split
  · exact leaves_pure _
  · refine leaves_handle ?_ fun _ => leaves_pure _
    grind [dispatch, whenEnabled, handleSendMessage, handleTyping, handleMarkDelivered, handleMarkRead]

theorem onMessage_leaves_of_not_stores {T : Type} {view : Store → T} {features : Features} {data : Option Json}
    (harmless : stores features data = false) (userId : UserId) :
    Leaves view (onMessage features userId data) := by
  unfold onMessage
  split
  · exact leaves_pure _
  · next frame decoded =>
    rw [stores, decoded] at harmless
    refine leaves_handle ?_ fun _ => leaves_pure _
    grind [dispatch, whenEnabled, handleTyping]

end EventDispatcher

end RealtimeChat.Server
