import RealtimeChat.Basic
import RealtimeChat.Foundation.Json

/-! Domain events: the envelope that the bus carries to its subscribers.

The time of an event is a reading of the system clock in its own unit, the
nanosecond; the tables keep whole seconds.
-/

set_option autoImplicit false

namespace RealtimeChat.Events

open Foundation

inductive EventType where
  | userRegistered
  | userLoggedIn
  | userLoggedOut
  | passwordChanged
  | profileUpdated
  | userRoleChanged
  | userOnline
  | userOffline
  | conversationCreated
  | conversationDeleted
  | memberAdded
  | memberRemoved
  | messageSent
  | messageEdited
  | messageDeleted
  | reactionAdded
  | reactionRemoved
  | attachmentUploaded
  | notificationCreated
  | adminAction
  | count
  deriving DecidableEq, Repr

def EventType.toString : EventType → String
  | .userRegistered => "user.registered"
  | .userLoggedIn => "user.logged_in"
  | .userLoggedOut => "user.logged_out"
  | .passwordChanged => "user.password_changed"
  | .profileUpdated => "user.profile_updated"
  | .userRoleChanged => "user.role_changed"
  | .userOnline => "presence.user_online"
  | .userOffline => "presence.user_offline"
  | .conversationCreated => "conversation.created"
  | .conversationDeleted => "conversation.deleted"
  | .memberAdded => "conversation.member_added"
  | .memberRemoved => "conversation.member_removed"
  | .messageSent => "message.sent"
  | .messageEdited => "message.edited"
  | .messageDeleted => "message.deleted"
  | .reactionAdded => "reaction.added"
  | .reactionRemoved => "reaction.removed"
  | .attachmentUploaded => "attachment.uploaded"
  | .notificationCreated => "notification.created"
  | .adminAction => "admin.action"
  | .count => "unknown"

structure DomainEvent where
  type : EventType
  eventId : String
  /-- Nanoseconds since the epoch; zero is the time of an event that has none. -/
  occurredAt : Int
  actorId : Option UserId
  correlationId : String
  traceId : String
  payload : Json
  deriving Repr

def DomainEvent.name (event : DomainEvent) : String := event.type.toString

/-- `std::chrono::duration_cast`, which truncates towards zero. -/
def toUnixSeconds (reading : Int) : TimePoint := reading.tdiv 1000000000

end RealtimeChat.Events
