import RealtimeChat.Chat.Messages

/-! Read receipts and reactions: the repositories and the services.

Each user has at most one receipt and one reaction to a message. A receipt only
advances; a reaction is replaced in place.
-/

set_option autoImplicit false

namespace RealtimeChat.Chat

open Foundation Accounts

variable (now : TimePoint) (messageId : MessageId) (userId : UserId) (id : Int)

namespace ReadReceiptRepository

def receiptRow (now : TimePoint) (messageId : MessageId) (userId : UserId) (state : ReceiptState) (id : Int) :
    ReadReceipt :=
  ⟨id, messageId, userId, state, now⟩

theorem receiptRow_id (state : ReceiptState) (id : Int) : (receiptRow now messageId userId state id).id = id := rfl

theorem receiptRow_seat (state : ReceiptState) (id : Int) :
    (receiptRow now messageId userId state id).seat = some (messageId, userId) := rfl

/-- The foreign keys are checked when the row is new. -/
def upsert (store : Store) (now : TimePoint) (messageId : MessageId) (userId : UserId) (state : ReceiptState)
    (change : ReadReceipt → ReadReceipt) (keeps : ∀ row, (change row).id = row.id)
    (keepsSeat : ∀ row, (change row).seat = row.seat) : Result (Store × ReadReceipt) := do
  if (store.receipts.lookup (messageId, userId)).isNone then
    checkMessage store "read_receipts" messageId
    checkUser store "read_receipts" "user_id" userId
  let (receipts, receipt) := store.receipts.upsert (messageId, userId) (receiptRow now messageId userId state)
    (receiptRow_id now messageId userId state) (receiptRow_seat now messageId userId state) change keeps keepsSeat
  return ({ store with receipts := receipts }, receipt)

/-- A late "delivered" does not overwrite a "read". -/
def upsertState (store : Store) (now : TimePoint) (messageId : MessageId) (userId : UserId) (state : ReceiptState) :
    Result (Store × ReadReceipt) :=
  upsert store now messageId userId state (fun row => { row with
    state := if row.state.rank < state.rank then state else row.state
    updatedAt := now }) (fun _ => rfl) fun _ => rfl

/-- The row of one message of the backlog; a receipt that says "read" already is left alone. -/
def markRead (now : TimePoint) (userId : UserId) (store : Store) (messageId : MessageId) : Result Store :=
  (upsert store now messageId userId .read
    (fun row => if row.state = .read then row else { row with state := .read, updatedAt := now })
    (fun row => by split <;> rfl) fun row => by split <;> rfl).map Prod.fst

def markConversationRead (store : Store) (now : TimePoint) (conversationId : ConversationId) (userId : UserId)
    (upToMessageId : MessageId) : Result (Store × Unit) := do
  let backlog := store.messages.table.select fun message =>
    message.conversationId = conversationId && message.id ≤ upToMessageId && message.senderId ≠ userId
  let store ← (backlog.map Message.id).foldlM (markRead now userId) store
  return (store, ())

end ReadReceiptRepository

namespace ReadReceiptService

open ConversationRepository ReadReceiptRepository

def requireParticipant (conversationId : ConversationId) (actorId : UserId) : Service Unit :=
  ConversationService.requireParticipant conversationId actorId

def markDelivered (actorId : UserId) (messageId : MessageId) : Service Unit := do
  match ← select (MessageRepository.findById · messageId) with
  | none => fail ⟨.notFound, "Message not found", ""⟩
  | some message =>
    requireParticipant message.conversationId actorId
    let receipt ← transaction fun store now => upsertState store now messageId actorId .delivered
    let participants ← select (listParticipantIds · message.conversationId)
    broadcast participants "receipt.update"
      (.receipt receipt.messageId receipt.userId receipt.state receipt.updatedAt)

/-- The receipts and the participant's marker are two transactions. -/
def markRead (actorId : UserId) (conversationId : ConversationId) (upToMessageId : MessageId) : Service Unit := do
  requireParticipant conversationId actorId
  transaction fun store now => markConversationRead store now conversationId actorId upToMessageId
  transaction fun store _ => .ok (updateLastRead store conversationId actorId upToMessageId, ())
  let participants ← select (listParticipantIds · conversationId)
  broadcast participants "read.update" (.lastRead conversationId actorId upToMessageId)

end ReadReceiptService

def allowedReactions : List String := ["👍", "❤️", "😂", "😮", "😢", "👏", "🔥"]

namespace ReactionRepository

def reactionRow (now : TimePoint) (messageId : MessageId) (userId : UserId) (emoji : String) (id : Int) : Reaction :=
  ⟨id, messageId, userId, emoji, now, now⟩

theorem reactionRow_id (emoji : String) (id : Int) : (reactionRow now messageId userId emoji id).id = id := rfl

theorem reactionRow_seat (emoji : String) (id : Int) :
    (reactionRow now messageId userId emoji id).seat = some (messageId, userId) := rfl

def upsert (store : Store) (now : TimePoint) (messageId : MessageId) (userId : UserId) (emoji : String) :
    Result (Store × Reaction) := do
  if (store.reactions.lookup (messageId, userId)).isNone then
    checkMessage store "message_reactions" messageId
    checkUser store "message_reactions" "user_id" userId
  let (reactions, reaction) := store.reactions.upsert (messageId, userId) (reactionRow now messageId userId emoji)
    (reactionRow_id now messageId userId emoji) (reactionRow_seat now messageId userId emoji)
    (fun row => { row with emoji := emoji, updatedAt := now }) (fun _ => rfl) fun _ => rfl
  return ({ store with reactions := reactions }, reaction)

def remove (store : Store) (messageId : MessageId) (userId : UserId) : Store × Bool :=
  let matching (row : Reaction) : Bool := row.messageId = messageId && row.userId = userId
  ({ store with reactions := store.reactions.deleteWhere matching }, store.reactions.rows.any matching)

def listForMessage (store : Store) (messageId : MessageId) : List Reaction :=
  (store.reactions.rows.filter fun row => row.messageId = messageId).insertionSort fun first second =>
    first.id ≤ second.id

end ReactionRepository

namespace ReactionService

open ConversationRepository ReactionRepository

/-- Members only: others are told that the message does not exist. -/
def authorize (actorId : UserId) (messageId : MessageId) : Service Message := do
  match ← select (MessageRepository.findById · messageId) with
  | none => fail ⟨.notFound, "Message not found", ""⟩
  | some message =>
    if ← select (isParticipant · message.conversationId actorId) then return message
    else fail ⟨.notFound, "Message not found", ""⟩

def checkEmoji (emoji : String) : Result Unit :=
  if allowedReactions.contains emoji then .ok ()
  else .error (invalid "Unsupported reaction emoji" "emoji")

def react (actorId : UserId) (messageId : MessageId) (emoji : String) : Service Reaction := do
  Program.require (checkEmoji emoji)
  let message ← authorize actorId messageId
  let reaction ← transaction fun store now => upsert store now messageId actorId emoji
  let participants ← select (listParticipantIds · message.conversationId)
  broadcast participants "reaction.added" (.reaction reaction.messageId reaction.userId reaction.emoji)
  return reaction

def unreact (actorId : UserId) (messageId : MessageId) : Service Unit := do
  let message ← authorize actorId messageId
  if ← transaction fun store _ => .ok (ReactionRepository.remove store messageId actorId) then
    let participants ← select (listParticipantIds · message.conversationId)
    broadcast participants "reaction.removed" (.noReaction messageId actorId)

def list (actorId : UserId) (messageId : MessageId) : Service (List Reaction) := do
  let _ ← authorize actorId messageId
  select (listForMessage · messageId)

end ReactionService

end RealtimeChat.Chat
