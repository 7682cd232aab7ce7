import RealtimeChat.Foundation.Indexed
import RealtimeChat.Foundation.Program
import RealtimeChat.Accounts.Users

/-! The stored conversations and what a service does to them.

The tables are those of the migrations, with their unique indexes and foreign
keys. A service call is a program over the database, the frames handed to the
broadcaster and the domain events put on the bus: each repository call is one
transaction, and each hand-over is a step of its own. Frames carry the response
records that the source prints as JSON; times stay clock readings.
-/

set_option autoImplicit false

namespace RealtimeChat.Chat

open Foundation Accounts

inductive ConversationType where
  | direct
  | group
  deriving DecidableEq, Repr

structure Conversation where
  id : ConversationId
  type : ConversationType
  name : Option String
  ownerId : Option UserId
  directKey : Option String
  createdAt : TimePoint
  updatedAt : TimePoint
  lastMessageAt : Option TimePoint
  deriving DecidableEq, Repr

def Conversation.isGroup (conversation : Conversation) : Bool := conversation.type = .group

def Conversation.touch (now : TimePoint) (conversation : Conversation) : Conversation :=
  { conversation with updatedAt := now }

theorem Conversation.touch_id (now : TimePoint) (conversation : Conversation) :
    (conversation.touch now).id = conversation.id := rfl

theorem Conversation.touch_directKey (now : TimePoint) (conversation : Conversation) :
    (conversation.touch now).directKey = conversation.directKey := rfl

inductive ParticipantRole where
  | owner
  | member
  deriving DecidableEq, Repr

structure Participant where
  id : Int
  conversationId : ConversationId
  userId : UserId
  role : ParticipantRole
  joinedAt : TimePoint
  lastReadMessageId : Option MessageId
  deriving DecidableEq, Repr

/-- The columns of `ux_participants_conversation_user`. -/
def Participant.seat (participant : Participant) : Option (ConversationId × UserId) :=
  some (participant.conversationId, participant.userId)

def Participant.setRole (role : ParticipantRole) (participant : Participant) : Participant :=
  { participant with role := role }

variable (role : ParticipantRole) (participant : Participant)

theorem Participant.setRole_id : (participant.setRole role).id = participant.id := rfl

theorem Participant.setRole_seat : (participant.setRole role).seat = participant.seat := rfl

inductive MessageType where
  | text
  | system
  deriving DecidableEq, Repr

structure Message where
  id : MessageId
  conversationId : ConversationId
  senderId : UserId
  type : MessageType
  content : String
  createdAt : TimePoint
  updatedAt : TimePoint
  editedAt : Option TimePoint
  deletedAt : Option TimePoint
  deriving DecidableEq, Repr

inductive ReceiptState where
  | sent
  | delivered
  | read
  deriving DecidableEq, Repr

def ReceiptState.rank : ReceiptState → Nat
  | .sent => 0
  | .delivered => 1
  | .read => 2

structure ReadReceipt where
  id : Int
  messageId : MessageId
  userId : UserId
  state : ReceiptState
  updatedAt : TimePoint
  deriving DecidableEq, Repr

def ReadReceipt.seat (receipt : ReadReceipt) : Option (MessageId × UserId) :=
  some (receipt.messageId, receipt.userId)

structure Reaction where
  id : Int
  messageId : MessageId
  userId : UserId
  emoji : String
  createdAt : TimePoint
  updatedAt : TimePoint
  deriving DecidableEq, Repr

def Reaction.seat (reaction : Reaction) : Option (MessageId × UserId) :=
  some (reaction.messageId, reaction.userId)

/-- The columns of `attachments` that sending a message reads and writes. -/
structure Attachment where
  id : Int
  ownerId : UserId
  messageId : Option MessageId
  deriving DecidableEq, Repr

structure Store where
  users : UserTable
  conversations : Indexed Conversation.id Conversation.directKey
  participants : Indexed Participant.id Participant.seat
  messages : Serial Message.id
  receipts : Indexed ReadReceipt.id ReadReceipt.seat
  reactions : Indexed Reaction.id Reaction.seat
  attachments : Serial Attachment.id

def Store.empty : Store where
  users := .empty _
  conversations := .empty _ _
  participants := .empty _ _
  messages := .empty _
  receipts := .empty _ _
  reactions := .empty _ _
  attachments := .empty _

structure ParticipantResponse where
  userId : UserId
  role : ParticipantRole
  joinedAt : TimePoint
  deriving DecidableEq, Repr

structure ConversationResponse where
  id : ConversationId
  type : ConversationType
  name : Option String
  ownerId : Option UserId
  createdAt : TimePoint
  updatedAt : TimePoint
  lastMessageAt : Option TimePoint
  participants : List ParticipantResponse
  deriving DecidableEq, Repr

def ConversationResponse.of (conversation : Conversation) (participants : List Participant) :
    ConversationResponse where
  id := conversation.id
  type := conversation.type
  name := conversation.name
  ownerId := conversation.ownerId
  createdAt := conversation.createdAt
  updatedAt := conversation.updatedAt
  lastMessageAt := conversation.lastMessageAt
  participants := participants.map fun participant =>
    ⟨participant.userId, participant.role, participant.joinedAt⟩

structure MessageResponse where
  id : MessageId
  conversationId : ConversationId
  senderId : UserId
  type : MessageType
  content : String
  deleted : Bool
  edited : Bool
  createdAt : TimePoint
  updatedAt : TimePoint
  editedAt : Option TimePoint
  attachmentIds : List Int
  deriving DecidableEq, Repr

def MessageResponse.of (message : Message) (attachmentIds : List Int) : MessageResponse where
  id := message.id
  conversationId := message.conversationId
  senderId := message.senderId
  type := message.type
  content := if message.deletedAt.isSome then "" else message.content
  deleted := message.deletedAt.isSome
  edited := message.editedAt.isSome
  createdAt := message.createdAt
  updatedAt := message.updatedAt
  editedAt := message.editedAt
  attachmentIds := attachmentIds

inductive Payload where
  | conversation (response : ConversationResponse)
  | conversationId (conversationId : ConversationId)
  | member (conversationId : ConversationId) (userId : UserId)
  | message (response : MessageResponse)
  | receipt (messageId : MessageId) (userId : UserId) (state : ReceiptState) (updatedAt : TimePoint)
  | lastRead (conversationId : ConversationId) (userId : UserId) (upToMessageId : MessageId)
  | reaction (messageId : MessageId) (userId : UserId) (emoji : String)
  | noReaction (messageId : MessageId) (userId : UserId)
  deriving DecidableEq, Repr

/-- A call of `IEventBroadcaster::publish`. -/
structure Frame where
  recipients : List UserId
  event : String
  payload : Payload
  deriving DecidableEq, Repr

inductive DomainEvent where
  | conversationCreated (conversationId : ConversationId) (actorId : UserId) (isGroup : Bool)
      (participantIds : List UserId)
  | conversationDeleted (conversationId : ConversationId) (actorId : UserId)
  | memberAdded (conversationId : ConversationId) (memberId actorId : UserId)
  | memberRemoved (conversationId : ConversationId) (memberId actorId : UserId)
  | messageSent (messageId : MessageId) (conversationId : ConversationId) (senderId : UserId)
      (recipientIds : List UserId) (contentLength : Nat)
  | messageEdited (messageId : MessageId) (conversationId : ConversationId) (actorId : UserId)
  | messageDeleted (messageId : MessageId) (conversationId : ConversationId) (actorId : UserId)
      (byModerator : Bool)
  | adminAction (actorId : UserId) (action targetType targetId : String) (participantCount : Nat)
  deriving DecidableEq, Repr

structure Backend where
  store : Store
  now : TimePoint
  frames : List Frame
  events : List DomainEvent

abbrev Service := Program Backend AppException

def transaction {A : Type} (act : Store → TimePoint → Result (Store × A)) : Service A :=
  Program.attempt fun backend =>
    (act backend.store backend.now).map fun (store, value) => ({ backend with store := store }, value)

def select {A : Type} (read : Store → A) : Service A := Program.query fun backend => read backend.store

def broadcast (recipients : List UserId) (event : String) (payload : Payload) : Service Unit :=
  Program.modify fun backend => { backend with frames := backend.frames ++ [⟨recipients, event, payload⟩] }

def publish (event : DomainEvent) : Service Unit :=
  Program.modify fun backend => { backend with events := backend.events ++ [event] }

def fail {A : Type} (error : AppException) : Service A := Program.require (.error error)

section Returns

variable {A : Type} {backend final : Backend}

@[simp] theorem returns_transaction {act : Store → TimePoint → Result (Store × A)} {value : A} :
    (transaction act).Returns backend final value ↔
      ∃ store, act backend.store backend.now = .ok (store, value) ∧ { backend with store := store } = final := by
  rw [transaction, Program.returns_attempt, map_eq_ok]
  simp

@[simp] theorem returns_select {read : Store → A} {value : A} :
    (select read).Returns backend final value ↔ backend = final ∧ read backend.store = value :=
  Program.returns_query

@[simp] theorem returns_broadcast {recipients : List UserId} {event : String} {payload : Payload} {done : Unit} :
    (broadcast recipients event payload).Returns backend final done ↔
      { backend with frames := backend.frames ++ [⟨recipients, event, payload⟩] } = final :=
  Program.returns_modify

@[simp] theorem returns_publish {event : DomainEvent} {done : Unit} :
    (publish event).Returns backend final done ↔ { backend with events := backend.events ++ [event] } = final :=
  Program.returns_modify

@[simp] theorem returns_fail {error : AppException} {value : A} :
    ¬ (fail error : Service A).Returns backend final value := by
  simp [fail]

end Returns

/-- Any error of the database that the repository does not translate. -/
def foreignKeyViolation (table column : String) (value : Int) (referenced : String) : AppException :=
  databaseFailure ("ERROR:  insert or update on table \"" ++ table ++ "\" violates foreign key constraint \"" ++
    table ++ "_" ++ column ++ "_fkey\"\nDETAIL:  Key (" ++ column ++ ")=(" ++ toString value ++
    ") is not present in table \"" ++ referenced ++ "\".\n")

def checkUser (store : Store) (table column : String) (userId : UserId) : Result Unit :=
  if (store.users.find userId).isSome then .ok ()
  else .error (foreignKeyViolation table column userId "users")

def checkConversation (store : Store) (table : String) (conversationId : ConversationId) : Result Unit :=
  if (store.conversations.find conversationId).isSome then .ok ()
  else .error (foreignKeyViolation table "conversation_id" conversationId "conversations")

def checkMessage (store : Store) (table : String) (messageId : MessageId) : Result Unit :=
  if (store.messages.find messageId).isSome then .ok ()
  else .error (foreignKeyViolation table "message_id" messageId "messages")

end RealtimeChat.Chat
