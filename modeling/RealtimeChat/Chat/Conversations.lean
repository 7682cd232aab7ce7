import Mathlib.Data.List.Sort
import RealtimeChat.Chat.Store

/-! Conversations: the repository and the service.

The repository functions are single transactions over the store. The service
checks what it has read in earlier transactions, so between a check and the
write that relies on it other calls may run.
-/

set_option autoImplicit false

namespace RealtimeChat.Chat

open Foundation Accounts

namespace ConversationRepository

def directKey (first second : UserId) : String :=
  toString (min first second) ++ ":" ++ toString (max first second)

def findById (store : Store) (conversationId : ConversationId) : Option Conversation :=
  store.conversations.find conversationId

def isParticipant (store : Store) (conversationId : ConversationId) (userId : UserId) : Bool :=
  store.participants.rows.any fun row => row.conversationId = conversationId && row.userId = userId

def findParticipant (store : Store) (conversationId : ConversationId) (userId : UserId) : Option Participant :=
  store.participants.lookup (conversationId, userId)

def listParticipantIds (store : Store) (conversationId : ConversationId) : List UserId :=
  (store.participants.rows.filter fun row => row.conversationId = conversationId).map Participant.userId

/-- `ORDER BY joined_at ASC, id ASC`. -/
def joinedBefore (first second : Participant) : Bool :=
  first.joinedAt < second.joinedAt || (first.joinedAt = second.joinedAt && first.id ≤ second.id)

def listParticipants (store : Store) (conversationId : ConversationId) : List Participant :=
  (store.participants.rows.filter fun row => row.conversationId = conversationId).insertionSort
    fun first second => joinedBefore first second

def listConversationIds (store : Store) (userId : UserId) : List ConversationId :=
  (store.participants.rows.filter fun row => row.userId = userId).map Participant.conversationId

def seatRow (now : TimePoint) (conversationId : ConversationId) (userId : UserId) (role : ParticipantRole)
    (id : Int) : Participant :=
  ⟨id, conversationId, userId, role, now, none⟩

variable (now : TimePoint) (conversationId : ConversationId) (userId : UserId) (role : ParticipantRole) (id : Int)
  (key : String)

theorem seatRow_id : (seatRow now conversationId userId role id).id = id := rfl

theorem seatRow_seat : (seatRow now conversationId userId role id).seat = some (conversationId, userId) := rfl

/-- The unique index is checked with the insert and the foreign keys after it. -/
def insertParticipant (store : Store) (now : TimePoint) (conversationId : ConversationId) (userId : UserId)
    (role : ParticipantRole) : Option (Result Store) :=
  (store.participants.insert (conversationId, userId) (seatRow now conversationId userId role)
    (seatRow_id now conversationId userId role) (seatRow_seat now conversationId userId role)).map
    fun participants => do
    checkConversation store "conversation_participants" conversationId
    checkUser store "conversation_participants" "user_id" userId
    return { store with participants := participants }

def addParticipant (store : Store) (now : TimePoint) (conversationId : ConversationId) (userId : UserId)
    (role : ParticipantRole) : Result (Store × Unit) :=
  match insertParticipant store now conversationId userId role with
  | some inserted => inserted.map fun store => (store, ())
  | none => .error ⟨.conflict, "User is already a member of the conversation", ""⟩

/-- `ON CONFLICT (conversation_id, user_id) DO NOTHING`. -/
def seat (now : TimePoint) (conversationId : ConversationId) (role : ParticipantRole) (store : Store)
    (userId : UserId) : Result Store :=
  (insertParticipant store now conversationId userId role).getD (.ok store)

def directRow (now : TimePoint) (key : String) (id : Int) : Conversation :=
  ⟨id, .direct, none, none, some key, now, now, none⟩

theorem directRow_id (id : Int) : (directRow now key id).id = id := rfl

theorem directRow_directKey (id : Int) : (directRow now key id).directKey = some key := rfl

/-- The insert updates the row that has the key already, which stamps `updated_at`. -/
def upsertDirect (store : Store) (now : TimePoint) (key : String) : Store × Conversation :=
  let (conversations, conversation) := store.conversations.upsert key (directRow now key)
    (directRow_id now key) (directRow_directKey now key) (Conversation.touch now) (Conversation.touch_id now)
    (Conversation.touch_directKey now)
  ({ store with conversations := conversations }, conversation)

def createOrGetDirect (store : Store) (now : TimePoint) (first second : UserId) :
    Result (Store × Conversation) := do
  let (store, conversation) := upsertDirect store now (directKey first second)
  let store ← seat now conversation.id .member store first
  let store ← seat now conversation.id .member store second
  return (store, conversation)

def groupRow (now : TimePoint) (ownerId : UserId) (name : String) (id : Int) : Conversation :=
  ⟨id, .group, some name, some ownerId, none, now, now, none⟩

theorem groupRow_id (ownerId : UserId) (name : String) (id : Int) : (groupRow now ownerId name id).id = id := rfl

def createGroup (store : Store) (now : TimePoint) (ownerId : UserId) (name : String) (memberIds : List UserId) :
    Result (Store × Conversation) := do
  checkUser store "conversations" "owner_id" ownerId
  let conversation := groupRow now ownerId name store.conversations.next
  let conversations := store.conversations.append (groupRow now ownerId name) (groupRow_id now ownerId name)
    fun _ shown => (nomatch shown)
  let (store, _) ← addParticipant { store with conversations := conversations } now conversation.id ownerId .owner
  let store ← (memberIds.filter (· ≠ ownerId)).foldlM (seat now conversation.id .member) store
  return (store, conversation)

def removeParticipant (store : Store) (conversationId : ConversationId) (userId : UserId) : Store :=
  { store with
    participants :=
      store.participants.deleteWhere fun row => row.conversationId = conversationId && row.userId = userId }

def rename (store : Store) (now : TimePoint) (conversationId : ConversationId) (name : String) : Store :=
  { store with
    conversations := store.conversations.updateWhere (fun row => row.id = conversationId)
      (fun row => { row with name := some name, updatedAt := now }) (fun _ => rfl) fun _ => rfl }

/-- The conversation's owner, the demotion of the others and the promotion of the new one. -/
def handOver (store : Store) (now : TimePoint) (conversationId : ConversationId) (newOwnerId : UserId) : Store :=
  let conversations := store.conversations.updateWhere (fun row => row.id = conversationId)
    (fun row => { row with ownerId := some newOwnerId, updatedAt := now }) (fun _ => rfl) fun _ => rfl
  let demoted := store.participants.updateWhere
    (fun row => row.conversationId = conversationId && row.role = .owner && row.userId ≠ newOwnerId)
    (Participant.setRole .member) (Participant.setRole_id .member) (Participant.setRole_seat .member)
  let promoted := demoted.updateWhere
    (fun row => row.conversationId = conversationId && row.userId = newOwnerId)
    (Participant.setRole .owner) (Participant.setRole_id .owner) (Participant.setRole_seat .owner)
  { store with conversations := conversations, participants := promoted }

def transferOwnership (store : Store) (now : TimePoint) (conversationId : ConversationId) (newOwnerId : UserId) :
    Result (Store × Unit) := do
  -- An update that matches no row checks no foreign key, and the transaction goes on.
  if (store.conversations.find conversationId).isSome then
    checkUser store "conversations" "owner_id" newOwnerId
  return (handOver store now conversationId newOwnerId, ())

/-- The deletion cascades to the participants and messages, and from the messages to their
receipts, reactions and attachments. -/
def remove (store : Store) (conversationId : ConversationId) : Store :=
  let inConversation (messageId : MessageId) : Bool :=
    (store.messages.find messageId).any fun message => message.conversationId = conversationId
  if (store.conversations.find conversationId).isSome then
    { store with
      conversations := store.conversations.deleteWhere fun row => row.id = conversationId
      participants := store.participants.deleteWhere fun row => row.conversationId = conversationId
      messages := store.messages.deleteWhere fun row => row.conversationId = conversationId
      receipts := store.receipts.deleteWhere fun row => inConversation row.messageId
      reactions := store.reactions.deleteWhere fun row => inConversation row.messageId
      attachments := store.attachments.deleteWhere fun row => row.messageId.any inConversation }
  else store

/-- `GREATEST(COALESCE(last_read_message_id, 0), $3)`. -/
def updateLastRead (store : Store) (conversationId : ConversationId) (userId : UserId) (messageId : MessageId) :
    Store :=
  { store with
    participants := store.participants.updateWhere
      (fun row => row.conversationId = conversationId && row.userId = userId)
      (fun row => { row with lastReadMessageId := some (max (row.lastReadMessageId.getD 0) messageId) })
      (fun _ => rfl) fun _ => rfl }

end ConversationRepository

structure CreateConversationRequest where
  type : ConversationType
  name : Option String
  participantIds : List UserId
  deriving DecidableEq, Repr

def validateGroupName (name : String) : Result String :=
  if (trim name).utf8ByteSize < 1 ∨ 128 < (trim name).utf8ByteSize then
    .error (invalid "Group name must be between 1 and 128 characters" "name")
  else .ok (trim name)

namespace ConversationService

open ConversationRepository

def conversationNotFound (conversationId : ConversationId) : AppException :=
  ⟨.notFound, "Conversation not found", "conversation_id=" ++ toString conversationId⟩

def requireConversation (conversationId : ConversationId) : Service Conversation := do
  match ← select (findById · conversationId) with
  | some conversation => return conversation
  | none => fail (conversationNotFound conversationId)

def requireParticipant (conversationId : ConversationId) (userId : UserId) : Service Unit := do
  if !(← select (isParticipant · conversationId userId)) then
    fail ⟨.notFound, "Conversation not found", ""⟩

def checkOwner (conversation : Conversation) (userId : UserId) : Result Unit :=
  if !conversation.isGroup then .error ⟨.validation, "Operation is only valid for group conversations", ""⟩
  else if conversation.ownerId ≠ some userId then
    .error ⟨.authorization, "Only the group owner may perform this action", ""⟩
  else .ok ()

def requireOwner (conversation : Conversation) (userId : UserId) : Service Unit :=
  Program.require (checkOwner conversation userId)

def requireUserExists (userId : UserId) : Service Unit := do
  if (← select (·.users.find userId)).isNone then
    fail (userNotFound userId)

def requireUsersExist : List UserId → Service Unit
  | [] => return ()
  | userId :: rest => do
    requireUserExists userId
    requireUsersExist rest

/-- The distinct listed ids without the actor, in ascending order. -/
def members (actorId : UserId) (participantIds : List UserId) : List UserId :=
  (participantIds.dedup.filter (· ≠ actorId)).insertionSort (· ≤ ·)

/-- The checks and the transaction of `create`, by the type of the conversation. -/
def createStored (actorId : UserId) (request : CreateConversationRequest) : Service Conversation :=
  match request.type with
  | .direct =>
    match request.participantIds with
    | [other] => do
      if other = actorId then
        fail (invalid "Cannot start a direct conversation with yourself" "participant_ids")
      requireUserExists other
      transaction fun store now => createOrGetDirect store now actorId other
    | _ => fail (invalid "A direct conversation requires exactly one other user" "participant_ids")
  | .group =>
    match request.name with
    | none => fail (invalid "A group requires a name" "name")
    | some name => do
      let name ← Program.require (validateGroupName name)
      requireUsersExist (members actorId request.participantIds)
      transaction fun store now => createGroup store now actorId name (members actorId request.participantIds)

def create (actorId : UserId) (request : CreateConversationRequest) : Service Conversation := do
  let conversation ← createStored actorId request
  let participants ← select (listParticipants · conversation.id)
  let ids ← select (listParticipantIds · conversation.id)
  broadcast ids "conversation.created" (.conversation (.of conversation participants))
  publish (.conversationCreated conversation.id actorId conversation.isGroup ids)
  return conversation

def get (actorId : UserId) (conversationId : ConversationId) : Service Conversation := do
  let conversation ← requireConversation conversationId
  requireParticipant conversationId actorId
  return conversation

/-- A group is removed by its owner and a direct conversation by a participant. -/
def requireRemover (conversation : Conversation) (conversationId : ConversationId) (actorId : UserId) :
    Service Unit :=
  if conversation.isGroup then requireOwner conversation actorId
  else requireParticipant conversationId actorId

def remove (actorId : UserId) (conversationId : ConversationId) : Service Unit := do
  let conversation ← requireConversation conversationId
  requireRemover conversation conversationId actorId
  let ids ← select (listParticipantIds · conversationId)
  transaction fun store _ => .ok (ConversationRepository.remove store conversationId, ())
  broadcast ids "conversation.deleted" (.conversationId conversationId)
  publish (.conversationDeleted conversationId actorId)

def renameGroup (actorId : UserId) (conversationId : ConversationId) (name : String) : Service Conversation := do
  let conversation ← requireConversation conversationId
  requireOwner conversation actorId
  let name ← Program.require (validateGroupName name)
  transaction fun store now => .ok (rename store now conversationId name, ())
  let updated ← requireConversation conversationId
  let ids ← select (listParticipantIds · conversationId)
  let participants ← select (listParticipants · conversationId)
  broadcast ids "conversation.created" (.conversation (.of updated participants))
  return updated

def addMember (actorId : UserId) (conversationId : ConversationId) (userId : UserId) : Service Participant := do
  let conversation ← requireConversation conversationId
  requireOwner conversation actorId
  requireUserExists userId
  transaction fun store now => addParticipant store now conversationId userId .member
  match ← select (findParticipant · conversationId userId) with
  | none => fail ⟨.internal, "Failed to load newly added participant", ""⟩
  | some participant =>
    let ids ← select (listParticipantIds · conversationId)
    broadcast ids "conversation.member_added" (.member conversationId userId)
    publish (.memberAdded conversationId userId actorId)
    return participant

def removeMember (actorId : UserId) (conversationId : ConversationId) (targetUserId : UserId) : Service Unit := do
  let conversation ← requireConversation conversationId
  requireOwner conversation actorId
  if conversation.ownerId = some targetUserId then
    fail ⟨.validation, "The owner cannot be removed; transfer ownership or delete", ""⟩
  -- Read before the removal, so that the removed member is told as well.
  let ids ← select (listParticipantIds · conversationId)
  transaction fun store _ => .ok (removeParticipant store conversationId targetUserId, ())
  broadcast ids "conversation.member_removed" (.member conversationId targetUserId)
  publish (.memberRemoved conversationId targetUserId actorId)

/-- A leaving owner hands over to the member who joined first, or takes the group along. -/
def depart (actorId : UserId) (conversation : Conversation) (conversationId : ConversationId) : Service Unit := do
  if conversation.isGroup && conversation.ownerId = some actorId then
    let members ← select (listParticipants · conversationId)
    match members.find? fun participant => participant.userId ≠ actorId with
    -- Two transactions: between them the former owner is still a member.
    | some successor =>
      transaction fun store now => transferOwnership store now conversationId successor.userId
      transaction fun store _ => .ok (removeParticipant store conversationId actorId, ())
    | none => transaction fun store _ => .ok (ConversationRepository.remove store conversationId, ())
  else transaction fun store _ => .ok (removeParticipant store conversationId actorId, ())

/-- Unlike a removal, a departure is not put on the bus. -/
def leave (actorId : UserId) (conversationId : ConversationId) : Service Unit := do
  let conversation ← requireConversation conversationId
  requireParticipant conversationId actorId
  let ids ← select (listParticipantIds · conversationId)
  depart actorId conversation conversationId
  broadcast ids "conversation.member_removed" (.member conversationId actorId)

end ConversationService

end RealtimeChat.Chat
