import RealtimeChat.Basic
import RealtimeChat.Foundation.Json
import RealtimeChat.Foundation.Program
import RealtimeChat.Foundation.Serial

/-! The notifications of the users.

What happens in the chat is written down for each user concerned, told to the
user's sessions and handed to the executor for a push, which an executor that
does not run drops without a word. Each of these may fail, and whatever fails
ends the dispatch it belongs to. The texts of the pushes are left out.
-/

set_option autoImplicit false

namespace RealtimeChat.Notifications

open Foundation

inductive NotificationType where
  | newMessage
  | mention
  | addedToGroup
  | removedFromGroup
  | reactionAdded
  | profileUpdated
  deriving DecidableEq, Repr

structure Notification where
  id : Int
  userId : UserId
  type : NotificationType
  payload : Json
  readAt : Option TimePoint
  createdAt : TimePoint

def Notification.unreadOf (userId : UserId) (row : Notification) : Bool := row.userId = userId && row.readAt.isNone

/-- The table, what was told and pushed, and whose notifications were created, marked by the answers of the
calls, and removed unread. -/
structure Feed where
  rows : Serial Notification.id
  published : List Notification
  pushed : List Notification
  created : List UserId
  marked : List UserId
  discarded : List UserId

/-- `running` says whether the executor runs when it is handed the push. -/
inductive Call where
  | newMessage (senderId : UserId) (conversationId : ConversationId) (messageId : MessageId)
      (recipients : List (UserId × Bool))
  | addedToGroup (conversationId : ConversationId) (addedUserId actorId : UserId) (running : Bool)
  | removedFromGroup (conversationId : ConversationId) (removedUserId actorId : UserId) (running : Bool)
  | reactionAdded (authorId : UserId) (messageId : MessageId) (reactorId : UserId) (emoji : String) (running : Bool)
  | markRead (id : Int) (userId : UserId)
  | markAllRead (userId : UserId)
  | remove (id : Int) (userId : UserId)

abbrev Action := Program Feed AppException

namespace Feed

def empty : Feed := ⟨.empty _, [], [], [], [], []⟩

def unreadCount (feed : Feed) (userId : UserId) : Nat := feed.rows.table.affected (Notification.unreadOf userId)

def insert (feed : Feed) (now : TimePoint) (userId : UserId) (type : NotificationType) (payload : Json) :
    Feed × Notification :=
  let build (id : Int) : Notification := ⟨id, userId, type, payload, none, now⟩
  ({ feed with rows := feed.rows.append build fun _ => rfl, created := feed.created ++ [userId] },
    build feed.rows.next)

def publish (notification : Notification) (feed : Feed) : Feed :=
  { feed with published := feed.published ++ [notification] }

def submit (notification : Notification) (running : Bool) (feed : Feed) : Feed :=
  { feed with pushed := feed.pushed ++ if running then [notification] else [] }

def create (now : TimePoint) (userId : UserId) (type : NotificationType) (payload : Json) (running : Bool) :
    Action Notification := do
  let notification ← Program.attempt fun feed => .ok (feed.insert now userId type payload)
  Program.modify (publish notification)
  Program.modify (submit notification running)
  return notification

/-- The loop of `new_message`, all of which is guarded as one: the first failure ends it. -/
def notifyEach (now : TimePoint) (senderId : UserId) (payload : Json) : List (UserId × Bool) → Action Unit
  | [] => pure ()
  | (recipient, running) :: rest =>
    if recipient = senderId then notifyEach now senderId payload rest
    else do
      let _ ← create now recipient .newMessage payload running
      notifyEach now senderId payload rest

def markWhere (feed : Feed) (now : TimePoint) (hit : Notification → Bool) : Feed :=
  { feed with rows := feed.rows.updateWhere hit (fun row => { row with readAt := some now }) fun _ => rfl }

def markRead (feed : Feed) (now : TimePoint) (id : Int) (userId : UserId) : Feed × Bool :=
  let hit (row : Notification) : Bool := row.id = id && row.unreadOf userId
  (feed.markWhere now hit, 0 < feed.rows.table.affected hit)

def markAllRead (feed : Feed) (now : TimePoint) (userId : UserId) : Feed × Nat :=
  (feed.markWhere now (Notification.unreadOf userId), feed.unreadCount userId)

def remove (feed : Feed) (id : Int) (userId : UserId) : Feed × Bool :=
  let hit (row : Notification) : Bool := row.id = id && row.userId = userId
  ({ feed with rows := feed.rows.deleteWhere hit }, 0 < feed.rows.table.affected hit)

/-- What a call does; the dispatcher drops the notification of `create`. -/
def program (now : TimePoint) : Call → Action Unit
  | .newMessage senderId conversationId messageId recipients =>
    notifyEach now senderId (.object [("conversation_id", .number conversationId), ("message_id", .number messageId),
      ("sender_id", .number senderId)]) recipients
  | .addedToGroup conversationId addedUserId actorId running => do
    let _ ← create now addedUserId .addedToGroup
      (.object [("actor_id", .number actorId), ("conversation_id", .number conversationId)]) running
  | .removedFromGroup conversationId removedUserId actorId running => do
    let _ ← create now removedUserId .removedFromGroup
      (.object [("actor_id", .number actorId), ("conversation_id", .number conversationId)]) running
  | .reactionAdded authorId messageId reactorId emoji running =>
    if authorId = reactorId then pure ()
    else do
      let _ ← create now authorId .reactionAdded (.object [("emoji", .string emoji), ("message_id", .number messageId),
        ("reactor_id", .number reactorId)]) running
  | .markRead id userId => Program.modify fun feed =>
    let (next, answer) := feed.markRead now id userId
    { next with marked := feed.marked ++ List.replicate answer.toNat userId }
  | .markAllRead userId => Program.modify fun feed =>
    let (next, answer) := feed.markAllRead now userId
    { next with marked := feed.marked ++ List.replicate answer userId }
  | .remove id userId => Program.modify fun feed =>
    let (next, _) := feed.remove id userId
    let unread := feed.rows.table.affected fun row => row.id = id && row.unreadOf userId
    { next with discarded := feed.discarded ++ List.replicate unread userId }

/-- Each call comes with the actions of it that fail. -/
def run (calls : List (TimePoint × (Nat → Option AppException) × Call)) : Feed :=
  calls.foldl (fun feed call => ((program call.1 call.2.2).runUnder call.2.1 0 feed).1) empty

variable {feed : Feed} {now : TimePoint} {senderId : UserId} {payload : Json}

/-- What was created for a user and is not accounted for. -/
def balance (feed : Feed) (userId : UserId) : Int :=
  feed.created.count userId - feed.unreadCount userId - feed.marked.count userId - feed.discarded.count userId

theorem balance_insert (feed : Feed) (now : TimePoint) (userId : UserId) (type : NotificationType) (payload : Json) :
    (feed.insert now userId type payload).1.balance = feed.balance := by
  funext other
  have more (build : Int → Notification) (keyed : ∀ id, (build id).id = id) :
      (feed.rows.append build keyed).table.affected (Notification.unreadOf other) =
        feed.unreadCount other + if (build feed.rows.next).unreadOf other then 1 else 0 := by
    simp [Serial.append, Table.affected, unreadCount, List.countP_singleton]
  simp only [balance, Feed.insert, unreadCount, more, List.count_append, List.count_singleton, Notification.unreadOf,
    Option.isNone_none, Bool.and_true, decide_eq_true_eq, beq_iff_eq]
  omega

open Program in
theorem keeps_create (now : TimePoint) (userId : UserId) (type : NotificationType) (payload : Json) (running : Bool) :
    (create now userId type payload running).Keeps balance := by
  refine keeps_bind (keeps_attempt fun feed next notification inserted => ?_) fun notification =>
    keeps_bind (keeps_modify fun _ => rfl) fun _ => keeps_bind (keeps_modify fun _ => rfl) fun _ => keeps_pure _
  cases inserted
  exact balance_insert feed now userId type payload

theorem keeps_notifyEach (recipients : List (UserId × Bool)) :
    (notifyEach now senderId payload recipients).Keeps balance := by
  induction recipients with
  | nil => exact Program.keeps_pure ()
  | cons first rest ih =>
    rw [notifyEach]
    split
    · exact ih
    · exact Program.keeps_bind (keeps_create ..) fun _ => ih

/-- What one user's unread rows lose is lost to nobody else. -/
theorem affected_unread (table : Table Notification.id) (matching : Notification → Bool) (userId other : UserId) :
    table.affected (fun row => row.unreadOf other && (matching row && row.unreadOf userId)) =
      (List.replicate (table.affected fun row => matching row && row.unreadOf userId) userId).count other := by
  rw [List.count_replicate]
  split
  · next same =>
    rw [beq_iff_eq.mp same]
    exact List.countP_congr fun row _ => by simp
  · next different =>
    refine List.countP_eq_zero.mpr fun row _ both => different ?_
    simp only [Notification.unreadOf, Bool.and_eq_true, decide_eq_true_eq] at both
    exact beq_iff_eq.mpr (both.2.2.1.symm.trans both.1.1)

theorem balance_markWhere (feed : Feed) (now : TimePoint) (matching : Notification → Bool) (userId : UserId)
    {answer : Nat} (answered : answer = feed.rows.table.affected fun row => matching row && row.unreadOf userId) :
    balance { feed.markWhere now (fun row => matching row && row.unreadOf userId) with
      marked := feed.marked ++ List.replicate answer userId } = feed.balance := by
  funext other
  have fewer := feed.rows.table.affected_updateWhere (fun row => matching row && row.unreadOf userId)
    (fun row => { row with readAt := some now }) (fun _ => rfl) (Notification.unreadOf other)
    fun row => by simp [Notification.unreadOf]
  rw [affected_unread, ← answered] at fewer
  simp only [balance, unreadCount, Feed.markWhere, Serial.updateWhere, List.count_append]
  omega

theorem keeps_remove (now : TimePoint) (id : Int) (userId : UserId) :
    (program now (.remove id userId)).Keeps balance := by
  refine Program.keeps_modify fun feed => funext fun other => ?_
  have fewer := feed.rows.table.affected_deleteWhere (fun row => row.id = id && row.userId = userId)
    (Notification.unreadOf other)
  have unread : (fun row : Notification => row.unreadOf other && (row.id = id && row.userId = userId)) =
      fun row => row.unreadOf other && (row.id = id && row.unreadOf userId) := by
    funext row
    cases read : row.readAt <;> simp [Notification.unreadOf, read]
  rw [unread, affected_unread _ fun row => row.id = id] at fewer
  simp only [balance, unreadCount, Feed.remove, Serial.deleteWhere, List.count_append]
  omega

theorem keeps_program (now : TimePoint) (call : Call) : (program now call).Keeps balance := by
  cases call with
  | newMessage => exact keeps_notifyEach _
  | addedToGroup | removedFromGroup => exact Program.keeps_bind (keeps_create ..) fun _ => Program.keeps_pure _
  | reactionAdded =>
    rw [program]
    split
    · exact Program.keeps_pure _
    · exact Program.keeps_bind (keeps_create ..) fun _ => Program.keeps_pure _
  | markRead id userId =>
    refine Program.keeps_modify fun feed => balance_markWhere feed now (fun row => row.id = id) userId ?_
    -- The Boolean answer counts in full, since an id has one row.
    have one := feed.rows.table.affected_key_le_one id
      fun row (hit : (row.id = id && row.unreadOf userId : Bool)) => of_decide_eq_true (Bool.and_eq_true_iff.mp hit).1
    rcases Nat.le_one_iff_eq_zero_or_eq_one.mp one with amount | amount <;> simp [amount]
  | markAllRead userId =>
    exact Program.keeps_modify fun feed => balance_markWhere feed now (fun _ => true) userId rfl
  | remove id userId => exact keeps_remove now id userId

/-- What was created for a user is unread, or was counted once in the answers of the calls that mark, or was
removed unread: whatever fails, and whoever calls in what order. -/
theorem unread_accounted (calls : List (TimePoint × (Nat → Option AppException) × Call)) (userId : UserId) :
    (run calls).created.count userId = (run calls).unreadCount userId + (run calls).marked.count userId +
      (run calls).discarded.count userId := by
  have kept : (run calls).balance = empty.balance := List.foldlRecOn calls _ (motive := (balance · = empty.balance)) rfl
    fun feed same call _ => ((keeps_program call.1 call.2.2).runUnder call.2.1 0 feed).trans same
  have none : (run calls).balance userId = 0 := congrFun kept userId
  unfold balance at none
  omega

/-- How many of so many actions are taken before one fails. -/
def taken (failures : Nat → Option AppException) : Nat → Nat → Nat
  | _, 0 => 0
  | count, amount + 1 => if (failures count).isSome then 0 else taken failures (count + 1) amount + 1

/-- The recipients of a message are notified in turn, with a row, a publication and a push each, up to the first
action that fails. The sender is passed over, and a push handed to an executor that does not run is missing alone. -/
theorem notifyEach_upto (failures : Nat → Option AppException) (count : Nat) (feed : Feed)
    (recipients : List (UserId × Bool)) :
    let others := recipients.filter fun recipient => recipient.1 ≠ senderId
    let acted := taken failures count (3 * others.length)
    let next := ((notifyEach now senderId payload recipients).runUnder failures count feed).1
    next.rows.table.rows.map (·.userId) =
        feed.rows.table.rows.map (·.userId) ++ (others.take ((acted + 2) / 3)).map (·.1) ∧
      next.published.map (·.userId) =
        feed.published.map (·.userId) ++ (others.take ((acted + 1) / 3)).map (·.1) ∧
      next.pushed.map (·.userId) =
        feed.pushed.map (·.userId) ++ ((others.take (acted / 3)).filter (·.2)).map (·.1) := by
  induction recipients generalizing count feed with
  | nil => simp [notifyEach, taken, pure, Program.runUnder]
  | cons first rest ih =>
    obtain ⟨recipient, running⟩ := first
    by_cases sender : recipient = senderId
    · simpa [notifyEach, sender] using ih count feed
    · have three (amount : Nat) : 3 * (amount + 1) = 3 * amount + 1 + 1 + 1 := by omega
      rw [notifyEach, if_neg sender, Program.runUnder_bind, create]
      simp only [Program.runUnder_bind, Program.runUnder_attempt, Program.modify]
      -- The three actions of `create`, each of which ends the loop when it fails.
      cases inserts : failures count with
      | some error => simp [sender, three, taken, inserts]
      | none =>
        cases publishes : failures (count + 1) with
        | some error => simp [sender, three, taken, inserts, publishes, insert, Serial.append]
        | none =>
          cases submits : failures (count + 2) with
          | some error => simp [sender, three, taken, inserts, publishes, submits, insert, publish, Serial.append]
          | none =>
            have later := ih (count + 1 + 1 + 1) (((feed.insert now recipient .newMessage payload).1.publish
              (feed.insert now recipient .newMessage payload).2).submit
              (feed.insert now recipient .newMessage payload).2 running)
            have more (amount extra : Nat) : (amount + 1 + 1 + 1 + extra) / 3 = (amount + extra) / 3 + 1 := by omega
            have all (amount : Nat) : (amount + 1 + 1 + 1) / 3 = amount / 3 + 1 := more amount 0
            cases running <;> simpa [sender, three, taken, inserts, publishes, submits, more, all, insert, publish,
              submit, Serial.append, pure, Program.runUnder] using later

end Feed

end RealtimeChat.Notifications
