import RealtimeChat.Foundation.Script
import RealtimeChat.Chat.Writes

/-! The services as scripts.

An action is one call that a service makes: a transaction of a repository, a
frame handed to the broadcaster or an event put on the bus. A script names the
action it takes next, so that what a call is about to write can be talked about
while other calls run. Each script is shown to be the service's own program.
-/

set_option autoImplicit false

namespace RealtimeChat.Chat

open Foundation Accounts

inductive Action where
  | findConversation (conversationId : ConversationId)
  | findUser (userId : UserId)
  | isParticipant (conversationId : ConversationId) (userId : UserId)
  | listParticipantIds (conversationId : ConversationId)
  | listParticipants (conversationId : ConversationId)
  | findParticipant (conversationId : ConversationId) (userId : UserId)
  | findMessage (messageId : MessageId)
  | attachmentIdsFor (messageId : MessageId)
  | createOrGetDirect (first second : UserId)
  | createGroup (ownerId : UserId) (name : String) (memberIds : List UserId)
  | addParticipant (conversationId : ConversationId) (userId : UserId) (role : ParticipantRole)
  | removeParticipant (conversationId : ConversationId) (userId : UserId)
  | transferOwnership (conversationId : ConversationId) (newOwnerId : UserId)
  | removeConversation (conversationId : ConversationId)
  | createMessage (input : NewMessage)
  | linkToMessage (attachmentIds : List Int) (messageId : MessageId) (ownerId : UserId)
  | updateContent (messageId : MessageId) (content : String)
  | softDelete (messageId : MessageId)
  | upsertState (messageId : MessageId) (userId : UserId) (state : ReceiptState)
  | markConversationRead (conversationId : ConversationId) (userId : UserId) (upToMessageId : MessageId)
  | updateLastRead (conversationId : ConversationId) (userId : UserId) (messageId : MessageId)
  | broadcast (recipients : List UserId) (event : String) (payload : Payload)
  | publish (event : DomainEvent)
  deriving DecidableEq, Repr

namespace Action

abbrev Returned : Action → Type
  | .findConversation _ => Option Conversation
  | .findUser _ => Option User
  | .isParticipant _ _ => Bool
  | .listParticipantIds _ => List UserId
  | .listParticipants _ => List Participant
  | .findParticipant _ _ => Option Participant
  | .findMessage _ => Option Message
  | .attachmentIdsFor _ => List Int
  | .createOrGetDirect _ _ | .createGroup _ _ _ => Conversation
  | .addParticipant _ _ _ | .removeParticipant _ _ | .transferOwnership _ _ | .removeConversation _ => Unit
  | .createMessage _ | .updateContent _ _ | .softDelete _ => Message
  | .linkToMessage _ _ _ => Nat
  | .upsertState _ _ _ => ReadReceipt
  | .markConversationRead _ _ _ | .updateLastRead _ _ _ | .broadcast _ _ _ | .publish _ => Unit

def read {A : Type} (query : Store → A) (backend : Backend) : Result (Backend × A) :=
  .ok (backend, query backend.store)

def write {A : Type} (act : Store → TimePoint → Result (Store × A)) (backend : Backend) : Result (Backend × A) :=
  (act backend.store backend.now).map fun (store, value) => ({ backend with store := store }, value)

open ConversationRepository in
def exec : (action : Action) → Backend → Result (Backend × action.Returned)
  | .findConversation conversationId => read (findById · conversationId)
  | .findUser userId => read (·.users.find userId)
  | .isParticipant conversationId userId => read (ConversationRepository.isParticipant · conversationId userId)
  | .listParticipantIds conversationId => read (ConversationRepository.listParticipantIds · conversationId)
  | .listParticipants conversationId => read (ConversationRepository.listParticipants · conversationId)
  | .findParticipant conversationId userId => read (ConversationRepository.findParticipant · conversationId userId)
  | .findMessage messageId => read (MessageRepository.findById · messageId)
  | .attachmentIdsFor messageId => read (AttachmentRepository.attachmentIdsFor · messageId)
  | .createOrGetDirect first second => write fun store now =>
      ConversationRepository.createOrGetDirect store now first second
  | .createGroup ownerId name memberIds => write fun store now =>
      ConversationRepository.createGroup store now ownerId name memberIds
  | .addParticipant conversationId userId role => write fun store now =>
      ConversationRepository.addParticipant store now conversationId userId role
  | .removeParticipant conversationId userId => write fun store _ =>
      .ok (ConversationRepository.removeParticipant store conversationId userId, ())
  | .transferOwnership conversationId newOwnerId => write fun store now =>
      ConversationRepository.transferOwnership store now conversationId newOwnerId
  | .removeConversation conversationId => write fun store _ => .ok (remove store conversationId, ())
  | .createMessage input => write fun store now => MessageRepository.create store now input
  | .linkToMessage attachmentIds messageId ownerId => write fun store _ =>
      AttachmentRepository.linkToMessage store attachmentIds messageId ownerId
  | .updateContent messageId content => write fun store now =>
      MessageRepository.updateContent store now messageId content
  | .softDelete messageId => write fun store now => MessageRepository.softDelete store now messageId
  | .upsertState messageId userId state => write fun store now =>
      ReadReceiptRepository.upsertState store now messageId userId state
  | .markConversationRead conversationId userId upToMessageId => write fun store now =>
      ReadReceiptRepository.markConversationRead store now conversationId userId upToMessageId
  | .updateLastRead conversationId userId messageId => write fun store _ =>
      .ok (ConversationRepository.updateLastRead store conversationId userId messageId, ())
  | .broadcast recipients event payload => fun backend =>
      .ok ({ backend with frames := backend.frames ++ [⟨recipients, event, payload⟩] }, ())
  | .publish event => fun backend => .ok ({ backend with events := backend.events ++ [event] }, ())

section Outcomes

variable {A : Type} {backend next : Backend} {value : A}

theorem write_eq_ok {act : Store → TimePoint → Result (Store × A)} :
    write act backend = .ok (next, value) ↔
      ∃ store, act backend.store backend.now = .ok (store, value) ∧ { backend with store := store } = next := by
  rw [write, map_eq_ok]
  simp

end Outcomes

def organizes : Action → Bool
  | .createOrGetDirect _ _ | .createGroup _ _ _ | .addParticipant _ _ _ | .removeParticipant _ _
  | .transferOwnership _ _ | .removeConversation _ | .createMessage _ | .updateLastRead _ _ _ => true
  | _ => false

def writes (action : Action) : Bool :=
  action.organizes || match action with
  | .linkToMessage _ _ _ | .updateContent _ _ | .softDelete _ | .upsertState _ _ _ | .markConversationRead _ _ _ => true
  | _ => false

inductive Transacts (now : TimePoint) (store : Store) : Action → Store → Prop where
  | reads {action : Action} (other : action.writes = false) : Transacts now store action store
  | createOrGetDirect {first second : UserId} {next : Store} {conversation : Conversation}
      (created : ConversationRepository.createOrGetDirect store now first second = .ok (next, conversation)) :
      Transacts now store (.createOrGetDirect first second) next
  | createGroup {ownerId : UserId} {name : String} {memberIds : List UserId} {next : Store}
      {conversation : Conversation}
      (created : ConversationRepository.createGroup store now ownerId name memberIds = .ok (next, conversation)) :
      Transacts now store (.createGroup ownerId name memberIds) next
  | addParticipant {conversationId : ConversationId} {userId : UserId} {role : ParticipantRole} {next : Store}
      {done : Unit}
      (added : ConversationRepository.addParticipant store now conversationId userId role = .ok (next, done)) :
      Transacts now store (.addParticipant conversationId userId role) next
  | removeParticipant (conversationId : ConversationId) (userId : UserId) :
      Transacts now store (.removeParticipant conversationId userId)
        (ConversationRepository.removeParticipant store conversationId userId)
  | transferOwnership {conversationId : ConversationId} {newOwnerId : UserId} {next : Store} {done : Unit}
      (transferred : ConversationRepository.transferOwnership store now conversationId newOwnerId = .ok (next, done)) :
      Transacts now store (.transferOwnership conversationId newOwnerId) next
  | removeConversation (conversationId : ConversationId) :
      Transacts now store (.removeConversation conversationId) (ConversationRepository.remove store conversationId)
  | createMessage {input : NewMessage} {next : Store} {message : Message}
      (created : MessageRepository.create store now input = .ok (next, message)) :
      Transacts now store (.createMessage input) next
  | linkToMessage {attachmentIds : List Int} {messageId : MessageId} {ownerId : UserId} {next : Store} {linked : Nat}
      (done : AttachmentRepository.linkToMessage store attachmentIds messageId ownerId = .ok (next, linked)) :
      Transacts now store (.linkToMessage attachmentIds messageId ownerId) next
  | updateContent {messageId : MessageId} {content : String} {next : Store} {message : Message}
      (updated : MessageRepository.updateContent store now messageId content = .ok (next, message)) :
      Transacts now store (.updateContent messageId content) next
  | softDelete {messageId : MessageId} {next : Store} {message : Message}
      (updated : MessageRepository.softDelete store now messageId = .ok (next, message)) :
      Transacts now store (.softDelete messageId) next
  | upsertState {messageId : MessageId} {userId : UserId} {state : ReceiptState} {next : Store} {receipt : ReadReceipt}
      (upserted : ReadReceiptRepository.upsertState store now messageId userId state = .ok (next, receipt)) :
      Transacts now store (.upsertState messageId userId state) next
  | markConversationRead {conversationId : ConversationId} {userId : UserId} {upToMessageId : MessageId} {next : Store}
      {done : Unit} (marked : ReadReceiptRepository.markConversationRead store now conversationId userId
        upToMessageId = .ok (next, done)) :
      Transacts now store (.markConversationRead conversationId userId upToMessageId) next
  | updateLastRead (conversationId : ConversationId) (userId : UserId) (messageId : MessageId) :
      Transacts now store (.updateLastRead conversationId userId messageId)
        (ConversationRepository.updateLastRead store conversationId userId messageId)

theorem exec_transacts {action : Action} {backend after : Backend} {value : action.Returned}
    (executed : action.exec backend = .ok (after, value)) :
    Transacts backend.now backend.store action after.store := by
  cases action with
  | findConversation | findUser | isParticipant | listParticipantIds | listParticipants | findParticipant
  | findMessage | attachmentIdsFor | broadcast | publish =>
    cases executed
    exact .reads rfl
  | removeParticipant conversationId userId =>
    cases executed
    exact .removeParticipant conversationId userId
  | removeConversation conversationId =>
    cases executed
    exact .removeConversation conversationId
  | updateLastRead conversationId userId messageId =>
    cases executed
    exact .updateLastRead conversationId userId messageId
  | createOrGetDirect | createGroup | addParticipant | transferOwnership | createMessage | linkToMessage
  | updateContent | softDelete | upsertState | markConversationRead =>
    rw [exec, write_eq_ok] at executed
    obtain ⟨store, done, rfl⟩ := executed
    constructor
    exact done

theorem Transacts.rooms {now : TimePoint} {store next : Store} {action : Action}
    (transacts : Transacts now store action next)
    (other : action.organizes = false) :
    next.conversations = store.conversations ∧ next.participants = store.participants := by
  cases transacts with
  | createOrGetDirect | createGroup | addParticipant | removeParticipant | transferOwnership | removeConversation
  | createMessage | updateLastRead => cases other
  | reads => exact ⟨rfl, rfl⟩
  | linkToMessage done =>
    rw [linkToMessage_only done]
    exact ⟨rfl, rfl⟩
  | updateContent updated | softDelete updated =>
    rw [updateUndeleted_only updated]
    exact ⟨rfl, rfl⟩
  | upsertState upserted =>
    rw [upsertReceipt_only upserted]
    exact ⟨rfl, rfl⟩
  | markConversationRead marked =>
    rw [markConversationRead_only marked]
    exact ⟨rfl, rfl⟩

end Action

abbrev Plan := Script Action Action.Returned AppException

namespace Plan

variable {A B : Type}

def program (plan : Plan A) : Service A := plan.toProgram Action.exec

def perform (action : Action) : Plan action.Returned := Script.perform action

def require (result : Result A) : Plan A := Script.require result

def refuse (error : AppException) : Plan A := require (.error error)

@[simp] theorem program_bind (plan : Plan A) (next : A → Plan B) :
    program (plan >>= next) = program plan >>= fun value => program (next value) :=
  Script.toProgram_bind Action.exec plan next

theorem program_bind_eq {plan : Plan A} {service : Service A} {next : A → Plan B} {rest : A → Service B}
    (first : program plan = service) (continues : ∀ value, program (next value) = rest value) :
    program (plan >>= next) = service >>= rest := by
  rw [program_bind, first, funext continues]

@[simp] theorem program_pure (value : A) : program (pure value : Plan A) = pure value := rfl

@[simp] theorem program_require (result : Result A) : program (require result) = Program.require result := rfl

@[simp] theorem program_refuse (error : AppException) : program (refuse error : Plan A) = fail error := rfl

theorem program_perform (action : Action) : program (perform action) = Program.attempt action.exec :=
  Script.toProgram_perform Action.exec action

theorem program_step {action : Action} {next : action.Returned → Plan B} {rest : action.Returned → Service B}
    (continues : ∀ value, program (next value) = rest value) :
    program (perform action >>= next) = Program.attempt action.exec >>= rest :=
  program_bind_eq (program_perform action) continues

end Plan

end RealtimeChat.Chat
