/-! Identifiers, clock readings and the exception taxonomy.

Ids are the signed 64-bit integers of the source and time points count whole
seconds; no modelled computation overflows either of them. An exception keeps
its semantic type, its message and its details.
-/

set_option autoImplicit false

namespace RealtimeChat

abbrev UserId := Int

abbrev ConversationId := Int

abbrev MessageId := Int

abbrev TimePoint := Int

/-- A `std::string`, where its bytes need not be text. -/
abbrev Bytes := List UInt8

inductive ErrorType where
  | validation
  | authentication
  | authorization
  | notFound
  | conflict
  | payloadTooLarge
  | unsupportedMedia
  | rateLimited
  | database
  | configuration
  | internal
  deriving DecidableEq, Repr

def ErrorType.code : ErrorType → String
  | .validation => "validation_error"
  | .authentication => "authentication_error"
  | .authorization => "authorization_error"
  | .notFound => "not_found"
  | .conflict => "conflict"
  | .payloadTooLarge => "payload_too_large"
  | .unsupportedMedia => "unsupported_media_type"
  | .rateLimited => "rate_limited"
  | .database => "database_error"
  | .configuration => "configuration_error"
  | .internal => "internal_error"

structure AppException where
  type : ErrorType
  message : String
  details : String := ""
  deriving DecidableEq, Repr

abbrev Result := Except AppException

/-- `with_transaction` wraps every exception of the driver in this one. -/
def databaseFailure (what : String) : AppException := ⟨.database, "Database operation failed", what⟩

end RealtimeChat
