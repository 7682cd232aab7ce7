import RealtimeChat.Chat.Plans

/-! What the services leave alone.

The checks of the services only read the store, and no service writes the
accounts: its plan has no transaction that does. `Leaves` says so of a program whatever runs between its actions and
whichever of them fail.
-/

set_option autoImplicit false

namespace RealtimeChat.Chat

open Foundation Accounts

section Rules

variable {A B T : Type} {view : Store → T}

structure Leaves (view : Store → T) (program : Service A) : Prop where
  keeps : program.Keeps fun backend => view backend.store

@[grind ←] theorem leaves_bind {program : Service A} {next : A → Service B} (first : Leaves view program)
    (rest : ∀ value, Leaves view (next value)) : Leaves view (program >>= next) :=
  ⟨Program.keeps_bind first.keeps fun value => (rest value).keeps⟩

@[grind ←] theorem leaves_pure (value : A) : Leaves view (pure value) := ⟨Program.keeps_pure value⟩

@[grind ←] theorem leaves_require (result : Result A) : Leaves view (Program.require result) :=
  ⟨Program.keeps_require result⟩

@[grind ←] theorem leaves_fail (error : AppException) : Leaves view (fail error : Service A) := leaves_require _

@[grind ←] theorem leaves_select (read : Store → A) : Leaves view (select read) := ⟨Program.keeps_query _⟩

@[grind ←] theorem leaves_broadcast (recipients : List UserId) (event : String) (payload : Payload) :
    Leaves view (broadcast recipients event payload) := ⟨Program.keeps_modify fun _ => rfl⟩

@[grind ←] theorem leaves_publish (event : DomainEvent) : Leaves view (publish event) :=
  ⟨Program.keeps_modify fun _ => rfl⟩

theorem leaves_handle {program : Service A} {catcher : AppException → Service A} (body : Leaves view program)
    (caught : ∀ error, Leaves view (catcher error)) : Leaves view (program.handle catcher) :=
  ⟨Program.keeps_handle body.keeps fun error => (caught error).keeps⟩

@[grind ←] theorem leaves_transaction {act : Store → TimePoint → Result (Store × A)}
    (leaves : ∀ store now next value, act store now = .ok (next, value) → view next = view store) :
    Leaves view (transaction act) := by
  refine ⟨Program.keeps_attempt fun backend next value acted => ?_⟩
  obtain ⟨⟨store, _⟩, stored, same⟩ := map_eq_ok.mp acted
  cases same
  exact leaves backend.store backend.now store value stored

theorem Leaves.advance {program rest : Service A} {backend next : Backend} {failure : Option AppException}
    (leaves : Leaves view program) (steps : program.advance backend failure = some (next, rest)) :
    view next.store = view backend.store ∧ Leaves view rest := by
  obtain ⟨same, keeps⟩ := leaves.keeps.advance steps
  exact ⟨same, ⟨keeps⟩⟩

end Rules

variable (conversationId : ConversationId) (conversation : Conversation) (actorId : UserId) (messageId : MessageId)

section Checks

variable {T : Type} {view : Store → T}

@[grind ←] theorem requireConversation_leaves :
    Leaves view (ConversationService.requireConversation conversationId) := by
  grind [ConversationService.requireConversation]

@[grind ←] theorem requireParticipant_leaves (userId : UserId) :
    Leaves view (ConversationService.requireParticipant conversationId userId) := by
  grind [ConversationService.requireParticipant]

@[grind ←] theorem requireOwner_leaves (userId : UserId) :
    Leaves view (ConversationService.requireOwner conversation userId) := leaves_require _

@[grind ←] theorem requireUserExists_leaves (userId : UserId) :
    Leaves view (ConversationService.requireUserExists userId) := by
  grind [ConversationService.requireUserExists]

@[grind ←] theorem get_leaves (conversationId : ConversationId) :
    Leaves view (ConversationService.get actorId conversationId) := by
  grind [ConversationService.get]

@[grind ←] theorem toResponse_leaves (message : Message) : Leaves view (MessageService.toResponse message) := by
  grind [MessageService.toResponse]

@[grind ←] theorem authorize_leaves : Leaves view (ReactionService.authorize actorId messageId) := by
  grind [ReactionService.authorize]

@[grind ←] theorem list_leaves : Leaves view (ReactionService.list actorId messageId) := by
  grind [ReactionService.list]

end Checks

/-! No transaction writes the accounts, and so no service does. -/

section Accounts

variable {store next : Store} {now : TimePoint}

@[grind =] theorem remove_users : (ConversationRepository.remove store conversationId).users = store.users := by
  unfold ConversationRepository.remove
  split <;> rfl

@[grind →] theorem upsertReaction_users {messageId : MessageId} {userId : UserId} {emoji : String} {reaction : Reaction}
    (done : ReactionRepository.upsert store now messageId userId emoji = .ok (next, reaction)) :
    next.users = store.users := by
  simp only [ReactionRepository.upsert] at done
  split at done
  · obtain ⟨_, _, rest⟩ := bind_eq_ok.mp done
    obtain ⟨_, _, same⟩ := bind_eq_ok.mp rest
    cases same
    rfl
  · cases done
    rfl

theorem Action.Transacts.users {action : Action} (transacts : action.Transacts now store next) :
    next.users = store.users := by
  cases transacts with
  | reads | removeParticipant | updateLastRead => rfl
  | removeConversation => exact remove_users _
  | createOrGetDirect created => rw [createOrGetDirect_rooms created]
  | createGroup created => rw [createGroup_rooms created]
  | addParticipant added => rw [insertParticipant_rooms (addParticipant_inserted added)]
  | transferOwnership transferred => rw [transferOwnership_rooms transferred]
  | createMessage created => rw [(createMessage_stored created).2]
  | linkToMessage done => rw [linkToMessage_only done]
  | updateContent updated | softDelete updated => rw [updateUndeleted_only updated]
  | upsertState upserted => rw [upsertReceipt_only upserted]
  | markConversationRead marked => rw [markConversationRead_only marked]

theorem leaves_program {A : Type} (plan : Plan A) : Leaves Store.users plan.program :=
  ⟨Script.keeps_toProgram Action.exec (fun _ _ _ _ executed => (Action.exec_transacts executed).users) plan⟩

end Accounts

section Services

@[grind ←] theorem create_leaves_users (request : CreateConversationRequest) :
    Leaves Store.users (ConversationService.create actorId request) :=
  ConversationPlan.program_create actorId request ▸ leaves_program _

section

variable (conversationId : ConversationId)

@[grind ←] theorem remove_leaves_users : Leaves Store.users (ConversationService.remove actorId conversationId) :=
  ConversationPlan.program_remove actorId conversationId ▸ leaves_program _

@[grind ←] theorem renameGroup_leaves_users (name : String) :
    Leaves Store.users (ConversationService.renameGroup actorId conversationId name) := by
  unfold ConversationService.renameGroup
  refine leaves_bind (requireConversation_leaves conversationId) fun conversation => ?_
  grind [ConversationRepository.rename]

@[grind ←] theorem addMember_leaves_users (userId : UserId) :
    Leaves Store.users (ConversationService.addMember actorId conversationId userId) :=
  ConversationPlan.program_addMember actorId conversationId userId ▸ leaves_program _

@[grind ←] theorem removeMember_leaves_users (targetUserId : UserId) :
    Leaves Store.users (ConversationService.removeMember actorId conversationId targetUserId) :=
  ConversationPlan.program_removeMember actorId conversationId targetUserId ▸ leaves_program _

@[grind ←] theorem leave_leaves_users : Leaves Store.users (ConversationService.leave actorId conversationId) :=
  ConversationPlan.program_leave actorId conversationId ▸ leaves_program _

end

@[grind ←] theorem send_leaves_users (request : SendMessageRequest) :
    Leaves Store.users (MessageService.send actorId request) :=
  MessagePlan.program_send actorId request ▸ leaves_program _

@[grind ←] theorem edit_leaves_users (content : String) :
    Leaves Store.users (MessageService.edit actorId messageId content) :=
  MessagePlan.program_edit actorId messageId content ▸ leaves_program _

@[grind ←] theorem removeMessage_leaves_users : Leaves Store.users (MessageService.remove actorId messageId) :=
  MessagePlan.program_remove actorId messageId ▸ leaves_program _

@[grind ←] theorem markDelivered_leaves_users :
    Leaves Store.users (ReadReceiptService.markDelivered actorId messageId) :=
  ReceiptPlan.program_markDelivered actorId messageId ▸ leaves_program _

@[grind ←] theorem markRead_leaves_users (conversationId : ConversationId) (upToMessageId : MessageId) :
    Leaves Store.users (ReadReceiptService.markRead actorId conversationId upToMessageId) :=
  ReceiptPlan.program_markRead actorId conversationId upToMessageId ▸ leaves_program _

@[grind ←] theorem react_leaves_users (emoji : String) :
    Leaves Store.users (ReactionService.react actorId messageId emoji) := by
  grind [ReactionService.react]

@[grind ←] theorem unreact_leaves_users : Leaves Store.users (ReactionService.unreact actorId messageId) := by
  grind [ReactionService.unreact, ReactionRepository.remove]

end Services

end RealtimeChat.Chat
