import RealtimeChat.Chat.Conversations

/-! Messages and the attachments linked to them: the repositories and the service.

A message is stored before it is broadcast, in a transaction that also advances
the conversation; its attachments are linked in a second one. Deletion is soft:
the row stays, with a deletion time.
-/

set_option autoImplicit false

namespace RealtimeChat.Chat

open Foundation Accounts

structure NewMessage where
  conversationId : ConversationId
  senderId : UserId
  content : String
  type : MessageType
  deriving DecidableEq, Repr

namespace MessageRepository

def messageRow (now : TimePoint) (input : NewMessage) (id : MessageId) : Message :=
  ⟨id, input.conversationId, input.senderId, input.type, input.content, now, now, none, none⟩

theorem messageRow_id (now : TimePoint) (input : NewMessage) (id : MessageId) :
    (messageRow now input id).id = id := rfl

def create (store : Store) (now : TimePoint) (input : NewMessage) : Result (Store × Message) := do
  checkConversation store "messages" input.conversationId
  checkUser store "messages" "sender_id" input.senderId
  let messages := store.messages.append (messageRow now input) (messageRow_id now input)
  let conversations := store.conversations.updateWhere (fun row => row.id = input.conversationId)
    (fun row => { row with lastMessageAt := some now, updatedAt := now }) (fun _ => rfl) fun _ => rfl
  return ({ store with messages := messages, conversations := conversations },
    messageRow now input store.messages.next)

def findById (store : Store) (messageId : MessageId) : Option Message := store.messages.find messageId

/-- An update of the row unless it is missing or deleted; the trigger stamps `updated_at`. -/
def updateUndeleted (store : Store) (now : TimePoint) (messageId : MessageId) (change : Message → Message)
    (keeps : ∀ message, (change message).id = message.id) : Result (Store × Message) :=
  match (store.messages.find messageId).filter fun message => message.deletedAt.isNone with
  | none => .error ⟨.notFound, "Message not found or already deleted", ""⟩
  | some message => .ok ({ store with
      messages := store.messages.updateWhere (fun row => row.id = messageId)
        (fun row => { change row with updatedAt := now }) keeps }, { change message with updatedAt := now })

def updateContent (store : Store) (now : TimePoint) (messageId : MessageId) (content : String) :
    Result (Store × Message) :=
  updateUndeleted store now messageId (fun row => { row with content := content, editedAt := some now }) fun _ => rfl

def softDelete (store : Store) (now : TimePoint) (messageId : MessageId) : Result (Store × Message) :=
  updateUndeleted store now messageId (fun row => { row with deletedAt := some now }) fun _ => rfl

end MessageRepository

namespace AttachmentRepository

def linkable (ownerId : UserId) (id : Int) (row : Attachment) : Bool :=
  row.id = id && row.ownerId = ownerId && row.messageId.isNone

/-- One statement of the transaction, which adds to the number of rows linked so far. -/
def link (messageId : MessageId) (ownerId : UserId) : Store × Nat → Int → Result (Store × Nat)
  | (store, linked), id => do
    let affected := store.attachments.table.affected (linkable ownerId id)
    if affected > 0 then
      checkMessage store "attachments" messageId
    return ({ store with
      attachments := store.attachments.updateWhere (linkable ownerId id)
        (fun row => { row with messageId := some messageId }) fun _ => rfl }, linked + affected)

def linkToMessage (store : Store) (attachmentIds : List Int) (messageId : MessageId) (ownerId : UserId) :
    Result (Store × Nat) :=
  attachmentIds.foldlM (link messageId ownerId) (store, 0)

def attachmentIdsFor (store : Store) (messageId : MessageId) : List Int :=
  ((store.attachments.table.select fun row => row.messageId = some messageId).map Attachment.id).insertionSort (· ≤ ·)

end AttachmentRepository

structure SendMessageRequest where
  conversationId : ConversationId
  content : String
  type : MessageType := .text
  attachmentIds : List Int := []
  deriving DecidableEq, Repr

def validateMessageContent (content : String) : Result String :=
  if (trim content).isEmpty then .error (invalid "Message content must not be empty" "content")
  else if 4000 < (trim content).utf8ByteSize then
    .error (invalid "Message content is too long (max 4000 characters)" "content")
  else .ok (trim content)

namespace MessageService

open ConversationRepository (listParticipantIds)
open ConversationService (requireParticipant)
open MessageRepository AttachmentRepository

def requireMessage (messageId : MessageId) : Service Message := do
  match ← select (findById · messageId) with
  | some message => return message
  | none => fail ⟨.notFound, "Message not found", "message_id=" ++ toString messageId⟩

def toResponse (message : Message) : Service MessageResponse := do
  let attachmentIds ← select (attachmentIdsFor · message.id)
  return .of message attachmentIds

/-- A message without attachments makes no second transaction. -/
def linkAttachments (actorId : UserId) (attachmentIds : List Int) (messageId : MessageId) : Service Unit :=
  if attachmentIds.isEmpty then return ()
  else do
    let _ ← transaction fun store _ => linkToMessage store attachmentIds messageId actorId

def send (actorId : UserId) (request : SendMessageRequest) : Service Message := do
  let content ← Program.require (validateMessageContent request.content)
  requireParticipant request.conversationId actorId
  let stored ← transaction fun store now =>
    MessageRepository.create store now ⟨request.conversationId, actorId, content, request.type⟩
  linkAttachments actorId request.attachmentIds stored.id
  let participants ← select (listParticipantIds · request.conversationId)
  let response ← toResponse stored
  broadcast participants "message.created" (.message response)
  publish (.messageSent stored.id stored.conversationId actorId participants content.utf8ByteSize)
  return stored

def requireAuthor (message : Message) (actorId : UserId) : Service Unit :=
  if message.senderId = actorId then return ()
  else fail ⟨.authorization, "Only the author may edit a message", ""⟩

def edit (actorId : UserId) (messageId : MessageId) (content : String) : Service Message := do
  let existing ← requireMessage messageId
  requireAuthor existing actorId
  let content ← Program.require (validateMessageContent content)
  let updated ← transaction fun store now => updateContent store now messageId content
  let participants ← select (listParticipantIds · updated.conversationId)
  let response ← toResponse updated
  broadcast participants "message.updated" (.message response)
  publish (.messageEdited updated.id updated.conversationId actorId)
  return updated

/-- Whether the message is removed as a moderator: the author is none, and the owner of the
group is one. Others may not remove it. -/
def authorizeRemoval (message : Message) (actorId : UserId) : Service Bool :=
  if message.senderId = actorId then return false
  else do
    let conversation ← select (ConversationRepository.findById · message.conversationId)
    if conversation.any fun conversation => conversation.isGroup && conversation.ownerId = some actorId then
      return true
    else fail ⟨.authorization, "Not allowed to delete this message", ""⟩

def remove (actorId : UserId) (messageId : MessageId) : Service Message := do
  let existing ← requireMessage messageId
  let asModerator ← authorizeRemoval existing actorId
  let deleted ← transaction fun store now => softDelete store now messageId
  let participants ← select (listParticipantIds · deleted.conversationId)
  let response ← toResponse deleted
  broadcast participants "message.deleted" (.message response)
  publish (.messageDeleted deleted.id deleted.conversationId actorId asModerator)
  return deleted

end MessageService

end RealtimeChat.Chat
