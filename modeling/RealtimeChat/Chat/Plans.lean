import RealtimeChat.Chat.Actions

/-! The plans of the services, one for each of their calls.

Each is written as the service is, with the action named where the service makes
the call, and each is shown to be the service.
-/

set_option autoImplicit false

namespace RealtimeChat.Chat

open Foundation Accounts

variable (conversationId : ConversationId) (actorId : UserId) (messageId : MessageId)

namespace ConversationPlan

open Plan (perform require refuse)
open ConversationService (conversationNotFound checkOwner members)

def requireConversation (conversationId : ConversationId) : Plan Conversation := do
  match ← perform (.findConversation conversationId) with
  | some conversation => return conversation
  | none => refuse (conversationNotFound conversationId)

def requireParticipant (conversationId : ConversationId) (userId : UserId) : Plan Unit := do
  if !(← perform (.isParticipant conversationId userId)) then
    refuse ⟨.notFound, "Conversation not found", ""⟩

def requireOwner (conversation : Conversation) (userId : UserId) : Plan Unit :=
  require (checkOwner conversation userId)

def requireUserExists (userId : UserId) : Plan Unit := do
  if (← perform (.findUser userId)).isNone then
    refuse (userNotFound userId)

def requireUsersExist : List UserId → Plan Unit
  | [] => return ()
  | userId :: rest => do
    requireUserExists userId
    requireUsersExist rest

def createStored (actorId : UserId) (request : CreateConversationRequest) : Plan Conversation :=
  match request.type with
  | .direct =>
    match request.participantIds with
    | [other] => do
      if other = actorId then
        refuse (invalid "Cannot start a direct conversation with yourself" "participant_ids")
      requireUserExists other
      perform (.createOrGetDirect actorId other)
    | _ => refuse (invalid "A direct conversation requires exactly one other user" "participant_ids")
  | .group =>
    match request.name with
    | none => refuse (invalid "A group requires a name" "name")
    | some name => do
      let name ← require (validateGroupName name)
      requireUsersExist (members actorId request.participantIds)
      perform (.createGroup actorId name (members actorId request.participantIds))

def create (actorId : UserId) (request : CreateConversationRequest) : Plan Conversation := do
  let conversation ← createStored actorId request
  let participants ← perform (.listParticipants conversation.id)
  let ids ← perform (.listParticipantIds conversation.id)
  perform (.broadcast ids "conversation.created" (.conversation (.of conversation participants)))
  perform (.publish (.conversationCreated conversation.id actorId conversation.isGroup ids))
  return conversation

def requireRemover (conversation : Conversation) (conversationId : ConversationId) (actorId : UserId) :
    Plan Unit :=
  if conversation.isGroup then requireOwner conversation actorId
  else requireParticipant conversationId actorId

def remove (actorId : UserId) (conversationId : ConversationId) : Plan Unit := do
  let conversation ← requireConversation conversationId
  requireRemover conversation conversationId actorId
  let ids ← perform (.listParticipantIds conversationId)
  perform (.removeConversation conversationId)
  perform (.broadcast ids "conversation.deleted" (.conversationId conversationId))
  perform (.publish (.conversationDeleted conversationId actorId))

def addMember (actorId : UserId) (conversationId : ConversationId) (userId : UserId) : Plan Participant := do
  let conversation ← requireConversation conversationId
  requireOwner conversation actorId
  requireUserExists userId
  perform (.addParticipant conversationId userId .member)
  match ← perform (.findParticipant conversationId userId) with
  | none => refuse ⟨.internal, "Failed to load newly added participant", ""⟩
  | some participant =>
    let ids ← perform (.listParticipantIds conversationId)
    perform (.broadcast ids "conversation.member_added" (.member conversationId userId))
    perform (.publish (.memberAdded conversationId userId actorId))
    return participant

def removeMember (actorId : UserId) (conversationId : ConversationId) (targetUserId : UserId) : Plan Unit := do
  let conversation ← requireConversation conversationId
  requireOwner conversation actorId
  if conversation.ownerId = some targetUserId then
    refuse ⟨.validation, "The owner cannot be removed; transfer ownership or delete", ""⟩
  let ids ← perform (.listParticipantIds conversationId)
  perform (.removeParticipant conversationId targetUserId)
  perform (.broadcast ids "conversation.member_removed" (.member conversationId targetUserId))
  perform (.publish (.memberRemoved conversationId targetUserId actorId))

def depart (actorId : UserId) (conversation : Conversation) (conversationId : ConversationId) : Plan Unit := do
  if conversation.isGroup && conversation.ownerId = some actorId then
    let members ← perform (.listParticipants conversationId)
    match members.find? fun participant => participant.userId ≠ actorId with
    | some successor =>
      perform (.transferOwnership conversationId successor.userId)
      perform (.removeParticipant conversationId actorId)
    | none => perform (.removeConversation conversationId)
  else perform (.removeParticipant conversationId actorId)

def leave (actorId : UserId) (conversationId : ConversationId) : Plan Unit := do
  let conversation ← requireConversation conversationId
  requireParticipant conversationId actorId
  let ids ← perform (.listParticipantIds conversationId)
  depart actorId conversation conversationId
  perform (.broadcast ids "conversation.member_removed" (.member conversationId actorId))

section Programs

open Plan (program program_perform program_bind_eq program_step)

theorem program_requireConversation :
    program (requireConversation conversationId) = ConversationService.requireConversation conversationId := by
  refine program_step fun found => ?_
  cases found <;> rfl

variable (userId : UserId) (request : CreateConversationRequest) (conversation : Conversation)

theorem program_requireParticipant : program (requireParticipant conversationId userId) =
      ConversationService.requireParticipant conversationId userId := by
  refine program_step fun found => ?_
  cases found <;> rfl

theorem program_requireUserExists :
    program (requireUserExists userId) = ConversationService.requireUserExists userId := by
  refine program_step fun found => ?_
  cases found <;> rfl

theorem program_requireUsersExist (userIds : List UserId) :
    program (requireUsersExist userIds) = ConversationService.requireUsersExist userIds := by
  induction userIds with
  | nil => rfl
  | cons userId rest ih => exact program_bind_eq (program_requireUserExists userId) fun _ => ih

theorem program_createStored :
    program (createStored actorId request) = ConversationService.createStored actorId request := by
  obtain ⟨type, name, participantIds⟩ := request
  cases type with
  | direct =>
    match participantIds with
    | [] => rfl
    | [other] =>
      dsimp only [createStored, ConversationService.createStored]
      split
      · rfl
      · exact program_bind_eq (program_requireUserExists other) fun _ => program_perform _
    | _ :: _ :: _ => rfl
  | group =>
    cases name with
    | none => rfl
    | some name =>
      refine program_bind_eq (Plan.program_require _) fun name => ?_
      exact program_bind_eq (program_requireUsersExist _) fun _ => program_perform _

/-- The plan and the service make the same calls in the same order. -/
theorem program_create : program (create actorId request) = ConversationService.create actorId request := by
  refine program_bind_eq (program_createStored actorId request) fun conversation => ?_
  refine program_step fun participants => ?_
  refine program_step fun ids => ?_
  refine program_step fun _ => ?_
  exact program_step fun _ => rfl

section

variable (conversationId : ConversationId)

theorem program_requireRemover (actorId : UserId) : program (requireRemover conversation conversationId actorId) =
      ConversationService.requireRemover conversation conversationId actorId := by
  unfold requireRemover ConversationService.requireRemover
  split
  · rfl
  · exact program_requireParticipant conversationId actorId

theorem program_remove :
    program (remove actorId conversationId) = ConversationService.remove actorId conversationId := by
  refine program_bind_eq (program_requireConversation conversationId) fun conversation => ?_
  refine program_bind_eq (program_requireRemover conversation conversationId actorId) fun _ => ?_
  refine program_step fun ids => ?_
  refine program_step fun _ => ?_
  exact program_step fun _ => program_perform _

theorem program_addMember (userId : UserId) : program (addMember actorId conversationId userId) =
      ConversationService.addMember actorId conversationId userId := by
  refine program_bind_eq (program_requireConversation conversationId) fun conversation => ?_
  refine program_bind_eq (Plan.program_require _) fun _ => ?_
  refine program_bind_eq (program_requireUserExists userId) fun _ => ?_
  refine program_step fun _ => ?_
  refine program_step fun found => ?_
  cases found with
  | none => rfl
  | some participant =>
    refine program_step fun ids => ?_
    refine program_step fun _ => ?_
    exact program_step fun _ => rfl

theorem program_removeMember (targetUserId : UserId) : program (removeMember actorId conversationId targetUserId) =
      ConversationService.removeMember actorId conversationId targetUserId := by
  refine program_bind_eq (program_requireConversation conversationId) fun conversation => ?_
  refine program_bind_eq (Plan.program_require _) fun _ => ?_
  dsimp only
  split
  · rfl
  · refine program_step fun ids => ?_
    refine program_step fun _ => ?_
    exact program_step fun _ => program_perform _

theorem program_depart : program (depart actorId conversation conversationId) =
      ConversationService.depart actorId conversation conversationId := by
  unfold depart ConversationService.depart
  split
  · refine program_step fun members => ?_
    generalize (members.find? fun participant => participant.userId ≠ actorId) = successor
    cases successor with
    | some successor => exact program_step fun _ => program_perform _
    | none => exact program_perform _
  · exact program_perform _

theorem program_leave : program (leave actorId conversationId) = ConversationService.leave actorId conversationId := by
  refine program_bind_eq (program_requireConversation conversationId) fun conversation => ?_
  refine program_bind_eq (program_requireParticipant conversationId actorId) fun _ => ?_
  refine program_step fun ids => ?_
  refine program_bind_eq (program_depart actorId conversation conversationId) fun _ => ?_
  exact program_perform _

end

end Programs

end ConversationPlan

namespace MessagePlan

open Plan (perform require refuse)
open ConversationPlan (requireParticipant)

def requireMessage (messageId : MessageId) : Plan Message := do
  match ← perform (.findMessage messageId) with
  | some message => return message
  | none => refuse ⟨.notFound, "Message not found", "message_id=" ++ toString messageId⟩

def toResponse (message : Message) : Plan MessageResponse := do
  let attachmentIds ← perform (.attachmentIdsFor message.id)
  return .of message attachmentIds

def linkAttachments (actorId : UserId) (attachmentIds : List Int) (messageId : MessageId) : Plan Unit :=
  if attachmentIds.isEmpty then return ()
  else do
    let _ ← perform (.linkToMessage attachmentIds messageId actorId)

def send (actorId : UserId) (request : SendMessageRequest) : Plan Message := do
  let content ← require (validateMessageContent request.content)
  requireParticipant request.conversationId actorId
  let stored ← perform (.createMessage ⟨request.conversationId, actorId, content, request.type⟩)
  linkAttachments actorId request.attachmentIds stored.id
  let participants ← perform (.listParticipantIds request.conversationId)
  let response ← toResponse stored
  perform (.broadcast participants "message.created" (.message response))
  perform (.publish (.messageSent stored.id stored.conversationId actorId participants content.utf8ByteSize))
  return stored

def requireAuthor (message : Message) (actorId : UserId) : Plan Unit :=
  if message.senderId = actorId then return ()
  else refuse ⟨.authorization, "Only the author may edit a message", ""⟩

def edit (actorId : UserId) (messageId : MessageId) (content : String) : Plan Message := do
  let existing ← requireMessage messageId
  requireAuthor existing actorId
  let content ← require (validateMessageContent content)
  let updated ← perform (.updateContent messageId content)
  let participants ← perform (.listParticipantIds updated.conversationId)
  let response ← toResponse updated
  perform (.broadcast participants "message.updated" (.message response))
  perform (.publish (.messageEdited updated.id updated.conversationId actorId))
  return updated

def authorizeRemoval (message : Message) (actorId : UserId) : Plan Bool :=
  if message.senderId = actorId then return false
  else do
    let conversation ← perform (.findConversation message.conversationId)
    if conversation.any fun conversation => conversation.isGroup && conversation.ownerId = some actorId then
      return true
    else refuse ⟨.authorization, "Not allowed to delete this message", ""⟩

def remove (actorId : UserId) (messageId : MessageId) : Plan Message := do
  let existing ← requireMessage messageId
  let asModerator ← authorizeRemoval existing actorId
  let deleted ← perform (.softDelete messageId)
  let participants ← perform (.listParticipantIds deleted.conversationId)
  let response ← toResponse deleted
  perform (.broadcast participants "message.deleted" (.message response))
  perform (.publish (.messageDeleted deleted.id deleted.conversationId actorId asModerator))
  return deleted

section Programs

open Plan (program program_perform program_bind_eq program_step)

theorem program_requireMessage : program (requireMessage messageId) = MessageService.requireMessage messageId := by
  refine program_step fun found => ?_
  cases found <;> rfl

theorem program_toResponse (message : Message) : program (toResponse message) = MessageService.toResponse message :=
  program_step fun _ => rfl

theorem program_linkAttachments (attachmentIds : List Int) (messageId : MessageId) :
    program (linkAttachments actorId attachmentIds messageId) =
      MessageService.linkAttachments actorId attachmentIds messageId := by
  unfold linkAttachments MessageService.linkAttachments
  split
  · rfl
  · exact program_step fun _ => rfl

theorem program_send (request : SendMessageRequest) :
    program (send actorId request) = MessageService.send actorId request := by
  refine program_bind_eq (Plan.program_require _) fun content => ?_
  refine program_bind_eq (ConversationPlan.program_requireParticipant _ _) fun _ => ?_
  refine program_step fun stored => ?_
  refine program_bind_eq (program_linkAttachments _ _ _) fun _ => ?_
  refine program_step fun participants => ?_
  refine program_bind_eq (program_toResponse stored) fun response => ?_
  refine program_step fun _ => ?_
  exact program_step fun _ => rfl

theorem program_requireAuthor (message : Message) (actorId : UserId) :
    program (requireAuthor message actorId) = MessageService.requireAuthor message actorId := by
  unfold requireAuthor MessageService.requireAuthor
  split <;> rfl

theorem program_edit (content : String) :
    program (edit actorId messageId content) = MessageService.edit actorId messageId content := by
  refine program_bind_eq (program_requireMessage messageId) fun existing => ?_
  refine program_bind_eq (program_requireAuthor existing actorId) fun _ => ?_
  refine program_bind_eq (Plan.program_require _) fun content => ?_
  refine program_step fun updated => ?_
  refine program_step fun participants => ?_
  refine program_bind_eq (program_toResponse updated) fun response => ?_
  refine program_step fun _ => ?_
  exact program_step fun _ => rfl

theorem program_authorizeRemoval (message : Message) (actorId : UserId) :
    program (authorizeRemoval message actorId) = MessageService.authorizeRemoval message actorId := by
  unfold authorizeRemoval MessageService.authorizeRemoval
  split
  · rfl
  · refine program_step fun conversation => ?_
    split <;> rfl

theorem program_remove : program (remove actorId messageId) = MessageService.remove actorId messageId := by
  refine program_bind_eq (program_requireMessage messageId) fun existing => ?_
  refine program_bind_eq (program_authorizeRemoval existing actorId) fun asModerator => ?_
  refine program_step fun deleted => ?_
  refine program_step fun participants => ?_
  refine program_bind_eq (program_toResponse deleted) fun response => ?_
  refine program_step fun _ => ?_
  exact program_step fun _ => rfl

end Programs

end MessagePlan

namespace ReceiptPlan

open Plan (perform refuse)
open ConversationPlan (requireParticipant)

def markDelivered (actorId : UserId) (messageId : MessageId) : Plan Unit := do
  match ← perform (.findMessage messageId) with
  | none => refuse ⟨.notFound, "Message not found", ""⟩
  | some message =>
    requireParticipant message.conversationId actorId
    let receipt ← perform (.upsertState messageId actorId .delivered)
    let participants ← perform (.listParticipantIds message.conversationId)
    perform (.broadcast participants "receipt.update"
      (.receipt receipt.messageId receipt.userId receipt.state receipt.updatedAt))

def markRead (actorId : UserId) (conversationId : ConversationId) (upToMessageId : MessageId) : Plan Unit := do
  requireParticipant conversationId actorId
  perform (.markConversationRead conversationId actorId upToMessageId)
  perform (.updateLastRead conversationId actorId upToMessageId)
  let participants ← perform (.listParticipantIds conversationId)
  perform (.broadcast participants "read.update" (.lastRead conversationId actorId upToMessageId))

section Programs

open Plan (program program_perform program_bind_eq program_step)

theorem program_markDelivered :
    program (markDelivered actorId messageId) = ReadReceiptService.markDelivered actorId messageId := by
  refine program_step fun found => ?_
  cases found with
  | none => rfl
  | some message =>
    refine program_bind_eq (ConversationPlan.program_requireParticipant _ _) fun _ => ?_
    refine program_step fun receipt => ?_
    exact program_step fun participants => program_perform _

theorem program_markRead (conversationId : ConversationId) (upToMessageId : MessageId) :
    program (markRead actorId conversationId upToMessageId) =
      ReadReceiptService.markRead actorId conversationId upToMessageId := by
  refine program_bind_eq (ConversationPlan.program_requireParticipant _ _) fun _ => ?_
  refine program_step fun _ => ?_
  refine program_step fun _ => ?_
  exact program_step fun participants => program_perform _

end Programs

end ReceiptPlan

end RealtimeChat.Chat
