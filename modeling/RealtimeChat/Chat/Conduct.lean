import RealtimeChat.Chat.Calls

/-! What the plans see to themselves, whatever the database answers. -/

set_option autoImplicit false

namespace RealtimeChat.Chat

open Foundation Accounts Script

-- What the checks of the texts come to is never needed here.
attribute [local irreducible] validateMessageContent validateGroupName

/-- What the plan of a request sees to itself: a direct conversation is between two users and is
the answer once it is stored, and only the user who is asked for is added, as a member. -/
def Request.Proper (request : Request) :
    (action : Action) → (Except AppException action.Returned → Plan Answer) → Prop
  | .createOrGetDirect first second, next => first ≠ second ∧
      (∀ conversation, (next (.ok conversation)).Ends (· = .conversation conversation)) ∧
      ∀ error, (next (.error error)).Ends fun _ => False
  | .addParticipant conversationId userId role, _ => role = .member ∧
      ∃ actorId, request = .conversation (.addMember actorId conversationId userId)
  | _, _ => True

abbrev Request.IsProper (request : Request) : Prop := (chat.body request).Everywhere request.Proper

def Request.MayWrite : Request → Action → Prop
  | .conversation (.create actorId _), .createOrGetDirect first second => first = actorId ∧ second ≠ actorId
  | .conversation (.create actorId _), .createGroup ownerId _ _ => ownerId = actorId
  | .conversation (.addMember _ conversationId userId), .addParticipant target memberId role =>
    target = conversationId ∧ memberId = userId ∧ role = .member
  | .conversation (.removeMember _ conversationId userId), .removeParticipant target memberId =>
    target = conversationId ∧ memberId = userId
  | .conversation (.leave actorId conversationId), .removeParticipant target memberId =>
    target = conversationId ∧ memberId = actorId
  | .conversation (.leave _ conversationId), .transferOwnership target _ => target = conversationId
  | .conversation (.leave _ conversationId), .removeConversation target => target = conversationId
  | .conversation (.remove _ conversationId), .removeConversation target => target = conversationId
  | .send actorId request, .createMessage input =>
    input.conversationId = request.conversationId ∧ input.senderId = actorId
  | .send actorId _, .linkToMessage _ _ ownerId => ownerId = actorId
  | .edit _ messageId _, .updateContent target _ => target = messageId
  | .removeMessage _ messageId, .softDelete target => target = messageId
  | .markDelivered actorId messageId, .upsertState target userId state =>
    target = messageId ∧ userId = actorId ∧ state = .delivered
  | .markRead actorId conversationId upToMessageId, .markConversationRead target userId bound =>
    target = conversationId ∧ userId = actorId ∧ bound = upToMessageId
  | .markRead actorId conversationId upToMessageId, .updateLastRead target userId bound =>
    target = conversationId ∧ userId = actorId ∧ bound = upToMessageId
  | _, _ => False

def Request.Takes (request : Request) (action : Action) : Prop := action.writes = false ∨ request.MayWrite action

abbrev Request.OnlyTakes (request : Request) : Prop :=
  (chat.body request).Everywhere fun action _ => request.Takes action

namespace ConversationPlan

theorem everywhere_requireConversation {conversationId : ConversationId}
    {property : (action : Action) → (Except AppException action.Returned → Plan Conversation) → Prop}
    (holds : ∀ next, property (.findConversation conversationId) next) :
    (requireConversation conversationId).Everywhere property := by
  refine everywhere_perform (holds _) fun found => ?_
  cases found <;> trivial

variable {userId : UserId} {property : (action : Action) → (Except AppException action.Returned → Plan Unit) → Prop}

theorem everywhere_requireParticipant {conversationId : ConversationId}
    (holds : ∀ next, property (.isParticipant conversationId userId) next) :
    (requireParticipant conversationId userId).Everywhere property := by
  refine everywhere_perform (holds _) fun found => ?_
  cases found <;> trivial

theorem everywhere_requireUserExists (holds : ∀ next, property (.findUser userId) next) :
    (requireUserExists userId).Everywhere property := by
  refine everywhere_perform (holds _) fun found => ?_
  cases found <;> trivial

theorem everywhere_requireUsersExist {userIds : List UserId} (holds : ∀ userId next, property (.findUser userId) next) :
    (requireUsersExist userIds).Everywhere property := by
  induction userIds generalizing property with
  | nil => trivial
  | cons userId rest ih =>
    exact everywhere_bind (everywhere_requireUserExists fun _ => holds userId _) fun _ => ih holds

end ConversationPlan

namespace MessagePlan

theorem everywhere_requireMessage {messageId : MessageId}
    {property : (action : Action) → (Except AppException action.Returned → Plan Message) → Prop}
    (holds : ∀ next, property (.findMessage messageId) next) : (requireMessage messageId).Everywhere property := by
  refine everywhere_perform (holds _) fun found => ?_
  cases found <;> trivial

theorem everywhere_toResponse {message : Message}
    {property : (action : Action) → (Except AppException action.Returned → Plan MessageResponse) → Prop}
    (holds : ∀ next, property (.attachmentIdsFor message.id) next) : (toResponse message).Everywhere property :=
  everywhere_perform (holds _) fun _ => trivial

end MessagePlan

open ConversationPlan
open MessagePlan (everywhere_requireMessage everywhere_toResponse)

/-- Creating a conversation: the stored one is the answer, and the rest only reads and announces. -/
theorem everywhere_create {actorId : UserId} {request : CreateConversationRequest}
    {property : (action : Action) → (Except AppException action.Returned → Plan Answer) → Prop}
    (reads : ∀ action next, action.writes = false → property action next)
    (direct : ∀ other next, other ≠ actorId →
      (∀ conversation, (next (.ok conversation)).Ends (· = .conversation conversation)) →
      (∀ error, (next (.error error)).Ends fun _ => False) → property (.createOrGetDirect actorId other) next)
    (group : ∀ name members next, property (.createGroup actorId name members) next) :
    (chat.body (.conversation (.create actorId request))).Everywhere property := by
  refine everywhere_bind (everywhere_bind ?_ fun conversation => ?_) fun _ => trivial
  · obtain ⟨type, name, participantIds⟩ := request
    cases type with
    | direct =>
      match participantIds with
      | [] => trivial
      | [other] =>
        dsimp only [createStored]
        split
        · trivial
        · next different =>
          refine everywhere_bind (everywhere_requireUserExists fun _ => reads _ _ rfl) fun _ => ?_
          refine everywhere_act (direct _ _ different (fun conversation => ?_) fun _ => trivial) fun _ => trivial
          -- What is left only reads the participants and announces the conversation.
          refine ends_bind (ends_bind (ends_act (fun _ => ?_) fun _ => trivial))
          refine ends_bind (ends_act (fun _ => ?_) fun _ => trivial)
          refine ends_bind (ends_act (fun _ => ?_) fun _ => trivial)
          exact ends_bind (ends_act (fun _ => rfl) fun _ => trivial)
      | _ :: _ :: _ => trivial
    | group =>
      cases name with
      | none => trivial
      | some name =>
        refine everywhere_bind (everywhere_require _) fun _ => ?_
        refine everywhere_bind (everywhere_requireUsersExist fun _ _ => reads _ _ rfl) fun _ => ?_
        exact everywhere_act (group _ _ _) fun _ => trivial
  · refine everywhere_perform (reads _ _ rfl) fun _ => ?_
    refine everywhere_perform (reads _ _ rfl) fun _ => ?_
    refine everywhere_perform (reads _ _ rfl) fun _ => ?_
    exact everywhere_perform (reads _ _ rfl) fun _ => trivial

variable (conversationId : ConversationId) (actorId : UserId) (messageId : MessageId) (request : Request)

section

variable (conversationId : ConversationId)

theorem takes_remove : (Request.conversation (.remove actorId conversationId)).OnlyTakes := by
  refine everywhere_bind (everywhere_bind (everywhere_requireConversation fun _ => .inl rfl) fun conversation => ?_)
    fun _ => trivial
  refine everywhere_bind ?_ fun _ => ?_
  · unfold requireRemover
    split
    · trivial
    · exact everywhere_requireParticipant fun _ => .inl rfl
  refine everywhere_perform (.inl rfl) fun _ => ?_
  refine everywhere_perform (.inr rfl) fun _ => ?_
  refine everywhere_perform (.inl rfl) fun _ => ?_
  exact everywhere_act (.inl rfl) fun _ => trivial

theorem takes_addMember (userId : UserId) :
    (Request.conversation (.addMember actorId conversationId userId)).OnlyTakes := by
  refine everywhere_bind (everywhere_bind (everywhere_requireConversation fun _ => .inl rfl) fun conversation => ?_)
    fun _ => trivial
  refine everywhere_bind (everywhere_require _) fun _ => ?_
  refine everywhere_bind (everywhere_requireUserExists fun _ => .inl rfl) fun _ => ?_
  refine everywhere_perform (.inr ⟨rfl, rfl, rfl⟩) fun _ => ?_
  refine everywhere_perform (.inl rfl) fun found => ?_
  cases found with
  | none => trivial
  | some participant =>
    refine everywhere_perform (.inl rfl) fun _ => ?_
    refine everywhere_perform (.inl rfl) fun _ => ?_
    exact everywhere_perform (.inl rfl) fun _ => trivial

theorem takes_removeMember (targetUserId : UserId) :
    (Request.conversation (.removeMember actorId conversationId targetUserId)).OnlyTakes := by
  refine everywhere_bind (everywhere_bind (everywhere_requireConversation fun _ => .inl rfl) fun conversation => ?_)
    fun _ => trivial
  refine everywhere_bind (everywhere_require _) fun _ => ?_
  dsimp only
  split
  · trivial
  · refine everywhere_perform (.inl rfl) fun _ => ?_
    refine everywhere_perform (.inr ⟨rfl, rfl⟩) fun _ => ?_
    refine everywhere_perform (.inl rfl) fun _ => ?_
    exact everywhere_act (.inl rfl) fun _ => trivial

theorem takes_leave : (Request.conversation (.leave actorId conversationId)).OnlyTakes := by
  refine everywhere_bind (everywhere_bind (everywhere_requireConversation fun _ => .inl rfl) fun conversation => ?_)
    fun _ => trivial
  refine everywhere_bind (everywhere_requireParticipant fun _ => .inl rfl) fun _ => ?_
  refine everywhere_perform (.inl rfl) fun _ => ?_
  refine everywhere_bind ?_ fun _ => everywhere_act (.inl rfl) fun _ => trivial
  unfold depart
  split
  · refine everywhere_perform (.inl rfl) fun members => ?_
    split
    · refine everywhere_perform (.inr rfl) fun _ => ?_
      exact everywhere_act (.inr ⟨rfl, rfl⟩) fun _ => trivial
    · exact everywhere_act (.inr rfl) fun _ => trivial
  · exact everywhere_act (.inr ⟨rfl, rfl⟩) fun _ => trivial

end

theorem takes_send (request : SendMessageRequest) : (Request.send actorId request).OnlyTakes := by
  refine everywhere_bind (everywhere_bind (everywhere_require _) fun content => ?_) fun _ => trivial
  refine everywhere_bind (everywhere_requireParticipant fun _ => .inl rfl) fun _ => ?_
  refine everywhere_perform (.inr ⟨rfl, rfl⟩) fun stored => ?_
  refine everywhere_bind ?_ fun _ => ?_
  · unfold MessagePlan.linkAttachments
    split
    · trivial
    · exact everywhere_perform (.inr rfl) fun _ => trivial
  refine everywhere_perform (.inl rfl) fun _ => ?_
  refine everywhere_bind (everywhere_toResponse fun _ => .inl rfl) fun _ => ?_
  refine everywhere_perform (.inl rfl) fun _ => ?_
  exact everywhere_perform (.inl rfl) fun _ => trivial

theorem takes_edit (content : String) : (Request.edit actorId messageId content).OnlyTakes := by
  refine everywhere_bind (everywhere_bind (everywhere_requireMessage fun _ => .inl rfl) fun existing => ?_)
    fun _ => trivial
  refine everywhere_bind ?_ fun _ => ?_
  · unfold MessagePlan.requireAuthor
    split <;> trivial
  refine everywhere_bind (everywhere_require _) fun _ => ?_
  refine everywhere_perform (.inr rfl) fun _ => ?_
  refine everywhere_perform (.inl rfl) fun _ => ?_
  refine everywhere_bind (everywhere_toResponse fun _ => .inl rfl) fun _ => ?_
  refine everywhere_perform (.inl rfl) fun _ => ?_
  exact everywhere_perform (.inl rfl) fun _ => trivial

theorem takes_removeMessage : (Request.removeMessage actorId messageId).OnlyTakes := by
  refine everywhere_bind (everywhere_bind (everywhere_requireMessage fun _ => .inl rfl) fun existing => ?_)
    fun _ => trivial
  refine everywhere_bind ?_ fun _ => ?_
  · unfold MessagePlan.authorizeRemoval
    split
    · trivial
    · refine everywhere_perform (.inl rfl) fun _ => ?_
      split <;> trivial
  refine everywhere_perform (.inr rfl) fun _ => ?_
  refine everywhere_perform (.inl rfl) fun _ => ?_
  refine everywhere_bind (everywhere_toResponse fun _ => .inl rfl) fun _ => ?_
  refine everywhere_perform (.inl rfl) fun _ => ?_
  exact everywhere_perform (.inl rfl) fun _ => trivial

theorem takes_markDelivered : (Request.markDelivered actorId messageId).OnlyTakes := by
  refine everywhere_bind (everywhere_perform (.inl rfl) fun found => ?_) fun _ => trivial
  cases found with
  | none => trivial
  | some message =>
    refine everywhere_bind (everywhere_requireParticipant fun _ => .inl rfl) fun _ => ?_
    refine everywhere_perform (.inr ⟨rfl, rfl, rfl⟩) fun _ => ?_
    refine everywhere_perform (.inl rfl) fun _ => ?_
    exact everywhere_act (.inl rfl) fun _ => trivial

theorem takes_markRead (conversationId : ConversationId) (upToMessageId : MessageId) :
    (Request.markRead actorId conversationId upToMessageId).OnlyTakes := by
  refine everywhere_bind (everywhere_bind (everywhere_requireParticipant fun _ => .inl rfl) fun _ => ?_)
    fun _ => trivial
  refine everywhere_perform (.inr ⟨rfl, rfl, rfl⟩) fun _ => ?_
  refine everywhere_perform (.inr ⟨rfl, rfl, rfl⟩) fun _ => ?_
  refine everywhere_perform (.inl rfl) fun _ => ?_
  exact everywhere_act (.inl rfl) fun _ => trivial

theorem takes_create (request : CreateConversationRequest) :
    (Request.conversation (.create actorId request)).OnlyTakes := by
  refine everywhere_create (fun _ _ reads => .inl reads) (fun other _ different _ _ => ?_) fun _ _ _ => .inr rfl
  exact .inr ⟨rfl, different⟩

theorem Request.takes : request.OnlyTakes := by
  cases request with
  | conversation operation =>
    cases operation with
    | create actorId request => exact takes_create actorId request
    | addMember actorId conversationId userId => exact takes_addMember actorId conversationId userId
    | removeMember actorId conversationId targetUserId =>
      exact takes_removeMember actorId conversationId targetUserId
    | leave actorId conversationId => exact takes_leave actorId conversationId
    | remove actorId conversationId => exact takes_remove actorId conversationId
  | send actorId request => exact takes_send actorId request
  | edit actorId messageId content => exact takes_edit actorId messageId content
  | removeMessage actorId messageId => exact takes_removeMessage actorId messageId
  | markDelivered actorId messageId => exact takes_markDelivered actorId messageId
  | markRead actorId conversationId upToMessageId => exact takes_markRead actorId conversationId upToMessageId

theorem Request.proper_of_takes {request : Request} {action : Action}
    {next : Except AppException action.Returned → Plan Answer} (takes : request.Takes action)
    (created : ∀ actorId body, request ≠ .conversation (.create actorId body)) : request.Proper action next := by
  cases action with
  | createOrGetDirect first second =>
    rcases takes with reads | writes
    · cases reads
    · cases request with
      | conversation operation =>
        cases operation with
        | create actorId body => exact absurd rfl (created actorId body)
        | _ => exact False.elim writes
      | _ => exact False.elim writes
  | addParticipant conversationId userId role =>
    rcases takes with reads | writes
    · cases reads
    · cases request with
      | conversation operation =>
        cases operation with
        | addMember actorId target memberId =>
          obtain ⟨rfl, rfl, rfl⟩ : conversationId = target ∧ userId = memberId ∧ role = .member := writes
          exact ⟨rfl, actorId, rfl⟩
        | _ => exact False.elim writes
      | _ => exact False.elim writes
  | _ => trivial

theorem Request.proper : request.IsProper := by
  by_cases created : ∃ actorId body, request = .conversation (.create actorId body)
  · obtain ⟨actorId, body, rfl⟩ := created
    refine everywhere_create (fun action _ reads => ?_) (fun other _ different answers fails => ?_) fun _ _ _ => trivial
    · cases action with
      | createOrGetDirect | addParticipant => cases reads
      | _ => trivial
    · exact ⟨different.symm, answers, fails⟩
  · refine request.takes.mono fun action next takes => Request.proper_of_takes takes fun actorId body same => ?_
    exact created ⟨actorId, body, same⟩

end RealtimeChat.Chat
