import RealtimeChat.Foundation.Pool
import RealtimeChat.Chat.Membership
import RealtimeChat.Chat.Plans

/-! The chat services under concurrent calls.

Any number of calls run at the same time over one database, and the clock moves
between their actions. A run of `chat` is an interleaving of their transactions,
any of which may also fail for a reason outside the database.
-/

set_option autoImplicit false

namespace RealtimeChat.Chat

open Foundation Accounts

inductive Request where
  | conversation (operation : Operation)
  | send (actorId : UserId) (request : SendMessageRequest)
  | edit (actorId : UserId) (messageId : MessageId) (content : String)
  | removeMessage (actorId : UserId) (messageId : MessageId)
  | markDelivered (actorId : UserId) (messageId : MessageId)
  | markRead (actorId : UserId) (conversationId : ConversationId) (upToMessageId : MessageId)
  deriving DecidableEq, Repr

inductive Answer where
  | conversation (conversation : Conversation)
  | participant (participant : Participant)
  | message (message : Message)
  | done
  deriving DecidableEq, Repr

def Operation.plan : Operation → Plan Answer
  | .create actorId request => do return .conversation (← ConversationPlan.create actorId request)
  | .addMember actorId conversationId userId => do
    return .participant (← ConversationPlan.addMember actorId conversationId userId)
  | .removeMember actorId conversationId targetUserId => do
    ConversationPlan.removeMember actorId conversationId targetUserId
    return .done
  | .leave actorId conversationId => do
    ConversationPlan.leave actorId conversationId
    return .done
  | .remove actorId conversationId => do
    ConversationPlan.remove actorId conversationId
    return .done

namespace Request

def plan : Request → Plan Answer
  | .conversation operation => operation.plan
  | .send actorId request => do return .message (← MessagePlan.send actorId request)
  | .edit actorId messageId content => do return .message (← MessagePlan.edit actorId messageId content)
  | .removeMessage actorId messageId => do return .message (← MessagePlan.remove actorId messageId)
  | .markDelivered actorId messageId => do
    ReceiptPlan.markDelivered actorId messageId
    return .done
  | .markRead actorId conversationId upToMessageId => do
    ReceiptPlan.markRead actorId conversationId upToMessageId
    return .done

def service : Request → Service Answer
  | .conversation (.create actorId request) => do
    return .conversation (← ConversationService.create actorId request)
  | .conversation (.addMember actorId conversationId userId) => do
    return .participant (← ConversationService.addMember actorId conversationId userId)
  | .conversation (.removeMember actorId conversationId targetUserId) => do
    ConversationService.removeMember actorId conversationId targetUserId
    return .done
  | .conversation (.leave actorId conversationId) => do
    ConversationService.leave actorId conversationId
    return .done
  | .conversation (.remove actorId conversationId) => do
    ConversationService.remove actorId conversationId
    return .done
  | .send actorId request => do return .message (← MessageService.send actorId request)
  | .edit actorId messageId content => do return .message (← MessageService.edit actorId messageId content)
  | .removeMessage actorId messageId => do return .message (← MessageService.remove actorId messageId)
  | .markDelivered actorId messageId => do
    ReadReceiptService.markDelivered actorId messageId
    return .done
  | .markRead actorId conversationId upToMessageId => do
    ReadReceiptService.markRead actorId conversationId upToMessageId
    return .done

/-- The plan of a request is the service call. -/
theorem program_plan (request : Request) : Plan.program request.plan = request.service := by
  cases request with
  | conversation operation =>
    cases operation with
    | create actorId request =>
      exact Plan.program_bind_eq (ConversationPlan.program_create actorId request) fun _ => rfl
    | addMember actorId conversationId userId =>
      exact Plan.program_bind_eq (ConversationPlan.program_addMember actorId conversationId userId) fun _ => rfl
    | removeMember actorId conversationId targetUserId =>
      exact Plan.program_bind_eq
        (ConversationPlan.program_removeMember actorId conversationId targetUserId) fun _ => rfl
    | leave actorId conversationId =>
      exact Plan.program_bind_eq (ConversationPlan.program_leave actorId conversationId) fun _ => rfl
    | remove actorId conversationId =>
      exact Plan.program_bind_eq (ConversationPlan.program_remove actorId conversationId) fun _ => rfl
  | send actorId request => exact Plan.program_bind_eq (MessagePlan.program_send actorId request) fun _ => rfl
  | edit actorId messageId content =>
    exact Plan.program_bind_eq (MessagePlan.program_edit actorId messageId content) fun _ => rfl
  | removeMessage actorId messageId =>
    exact Plan.program_bind_eq (MessagePlan.program_remove actorId messageId) fun _ => rfl
  | markDelivered actorId messageId =>
    exact Plan.program_bind_eq (ReceiptPlan.program_markDelivered actorId messageId) fun _ => rfl
  | markRead actorId conversationId upToMessageId =>
    exact Plan.program_bind_eq (ReceiptPlan.program_markRead actorId conversationId upToMessageId) fun _ => rfl

end Request

def chat : System Backend TimePoint Request Action Action.Returned AppException Answer where
  exec := Action.exec
  body := Request.plan
  move now backend := { backend with now := now }

abbrev Calls := Pool Backend Request Action Action.Returned AppException Answer

abbrev Calls.Label := Pool.Label TimePoint Request AppException

namespace Calls

def initial (users : UserTable) : Calls := ⟨⟨{ Store.empty with users := users }, 0, [], []⟩, []⟩

/-- The call at the position takes its next actions, none of which fails from outside. -/
def acts (position count : Nat) : List Calls.Label := List.replicate count (.perform position none)

end Calls

/-- A request that no other one interrupts does what its service call does in a row. -/
theorem request_alone (pool : Calls) (request : Request) :
    ∃ count taken,
      chat.step.run pool (.start request :: List.replicate count (.perform pool.calls.length none)) =
        some ⟨(request.service.run pool.state).1,
          pool.calls ++ [⟨request, .done (request.service.run pool.state).2, taken⟩]⟩ := by
  rw [← request.program_plan]
  exact System.run_uninterrupted chat pool request

theorem initial_seated (users : UserTable) : Seated (Calls.initial users).state.store := by
  rintro conversationId userId ⟨row, member, _⟩
  exact absurd member Indexed.not_mem_empty

def annAndBob : UserTable :=
  ann.append (fun id => ⟨id, "bob", "bob@example.com", "hash", .user, none, none, none, 0, 0⟩) fun _ => rfl

def greeted : Calls where
  state := (Program.run (do
    let conversation ← ConversationService.create 1 ⟨.direct, none, [2]⟩
    MessageService.send 1 ⟨conversation.id, "hello", .text, []⟩) (Calls.initial annAndBob).state).1
  calls := []

end RealtimeChat.Chat
