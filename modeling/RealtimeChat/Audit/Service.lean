import RealtimeChat.Chat.Store
import RealtimeChat.Events.DomainEvent

/-! The audit log: the `audit_logs` table, its repository and the audit service.

An event that is worth a row is mapped to one and inserted unless its id is
there already. The columns are checked before the id, and the actor, who must be
a user, after it. The metadata of a row may not contain U+0000.
-/

set_option autoImplicit false

namespace RealtimeChat.Audit

open Foundation Accounts Events

structure NewAuditLog where
  eventId : String
  eventType : String
  actorId : Option UserId
  actorUsername : Option String
  targetType : Option String
  targetId : Option String
  ip : Option String
  userAgent : Option String
  correlationId : Option String
  traceId : Option String
  metadata : Json
  occurredAt : Int
  deriving Repr

structure AuditLog where
  id : Int
  eventId : String
  eventType : String
  actorId : Option UserId
  actorUsername : Option String
  targetType : Option String
  targetId : Option String
  ip : Option String
  userAgent : Option String
  correlationId : Option String
  traceId : Option String
  metadata : Json
  occurredAt : TimePoint
  createdAt : TimePoint
  deriving Repr

def AuditLog.dedupKey (log : AuditLog) : Option String := some log.eventId

abbrev AuditTable := Indexed AuditLog.id AuditLog.dedupKey

namespace AuditLogRepository

def columns (input : NewAuditLog) : List (Nat × Option String) :=
  [(32, some input.eventId), (64, some input.eventType), (64, input.actorUsername), (32, input.targetType),
    (64, input.targetId), (64, input.ip), (255, input.userAgent), (64, input.correlationId), (32, input.traceId)]

/-- An event without a time of its own is dated by its insertion. -/
def logRow (input : NewAuditLog) (now : TimePoint) (id : Int) : AuditLog where
  id := id
  eventId := input.eventId
  eventType := input.eventType
  actorId := input.actorId
  actorUsername := input.actorUsername
  targetType := input.targetType
  targetId := input.targetId
  ip := input.ip
  userAgent := input.userAgent
  correlationId := input.correlationId
  traceId := input.traceId
  metadata := input.metadata
  occurredAt := if input.occurredAt = 0 then now else toUnixSeconds input.occurredAt
  createdAt := now

theorem logRow_id (input : NewAuditLog) (now : TimePoint) (id : Int) : (logRow input now id).id = id := rfl

theorem logRow_dedupKey (input : NewAuditLog) (now : TimePoint) (id : Int) :
    (logRow input now id).dedupKey = some input.eventId := rfl

/-- The foreign key of `actor_id`. -/
def checkActor (users : UserTable) : Option UserId → Result Unit
  | none => .ok ()
  | some actorId =>
    if (users.find actorId).isSome then .ok ()
    else .error (Chat.foreignKeyViolation "audit_logs" "actor_id" actorId "users")

/-- What a `JSONB` column has against U+0000. -/
def unsupportedEscape : AppException :=
  databaseFailure "ERROR:  unsupported Unicode escape sequence\nDETAIL:  \\u0000 cannot be converted to text.\n"

/-- `ON CONFLICT (event_id) DO NOTHING`; the result says whether a row was written. -/
def append (users : UserTable) (logs : AuditTable) (input : NewAuditLog) (now : TimePoint) :
    Result (AuditTable × Bool) :=
  match Database.tooLong (columns input) with
  | some width => .error (Database.valueTooLong width)
  | none =>
    if input.metadata.strings.any fun text => '\x00' ∈ text.toList then .error unsupportedEscape
    else
      match logs.insert input.eventId (logRow input now) (logRow_id input now) (logRow_dedupKey input now) with
      | none => .ok (logs, false)
      | some next => do
        checkActor users input.actorId
        return (next, true)

end AuditLogRepository

def payloadId (payload : Json) (key : String) : Option String :=
  match payload.find key with
  | some (.string value) => some value
  | some (.number value) => some (toString value)
  | _ => none

def payloadString (payload : Json) (key : String) : Option String := (payload.find key).bind Json.text?

def isAuditable : EventType → Bool
  | .userRegistered | .userLoggedIn | .userLoggedOut | .passwordChanged | .profileUpdated | .userRoleChanged
  | .conversationCreated | .conversationDeleted | .memberAdded | .memberRemoved
  | .messageDeleted
  | .adminAction => true
  | .userOnline | .userOffline | .messageSent | .messageEdited | .reactionAdded | .reactionRemoved
  | .attachmentUploaded | .notificationCreated | .count => false

namespace AuditService

structure Target where
  type : Option String
  id : Option String
  deriving DecidableEq, Repr

def targetOf (event : DomainEvent) : Target :=
  match event.type with
  | .userRegistered | .userLoggedIn | .userLoggedOut | .passwordChanged | .profileUpdated | .userRoleChanged =>
    ⟨some "user", payloadId event.payload "user_id"⟩
  | .conversationCreated | .conversationDeleted | .memberAdded | .memberRemoved =>
    ⟨some "conversation", payloadId event.payload "conversation_id"⟩
  | .messageDeleted => ⟨some "message", payloadId event.payload "message_id"⟩
  -- An administrator's action names its own target.
  | .adminAction => ⟨payloadString event.payload "target_type", payloadString event.payload "target_id"⟩
  | _ => ⟨none, none⟩

def usernameOf (users : UserTable) (userId : Option UserId) : Option String :=
  (userId.bind users.find).map User.username

def nonEmpty (text : String) : Option String := if text.isEmpty then none else some text

/-- The row that `record` asks for. -/
def rowOf (users : UserTable) (event : DomainEvent) : NewAuditLog where
  eventId := event.eventId
  eventType := event.name
  actorId := event.actorId
  actorUsername := usernameOf users event.actorId
  targetType := (targetOf event).type
  targetId := (targetOf event).id
  ip := payloadString event.payload "ip"
  userAgent := payloadString event.payload "user_agent"
  correlationId := nonEmpty event.correlationId
  traceId := nonEmpty event.traceId
  metadata := event.payload
  occurredAt := event.occurredAt

/-- False for an event that is not audited and for one that has been recorded before. -/
def record (users : UserTable) (logs : AuditTable) (event : DomainEvent) (now : TimePoint) :
    Result (AuditTable × Bool) :=
  if isAuditable event.type then AuditLogRepository.append users logs (rowOf users event) now
  else .ok (logs, false)

end AuditService

end RealtimeChat.Audit
