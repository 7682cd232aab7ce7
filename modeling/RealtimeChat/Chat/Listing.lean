import Mathlib.Data.Rat.Defs
import RealtimeChat.Security.Token
import RealtimeChat.Chat.Requests

/-! Reading and changing messages over HTTP.

A handler reads the parameters or the body of its request, calls the service and
builds the response from what it gets back. The text functions of PostgreSQL are
parameters: what is proved holds for whatever they compute from a text.
-/

set_option autoImplicit false

namespace RealtimeChat.Chat

open Foundation Accounts

/-- The text functions that the queries call, from the text of a message and what is searched for. -/
structure TextFunctions where
  /-- `to_tsvector('simple', content) @@ plainto_tsquery('simple', keyword)` -/
  matchesKeyword : String → String → Bool
  /-- `search_vector @@ websearch_to_tsquery('english', term)` -/
  matchesTerm : String → String → Bool
  /-- `ts_rank_cd` -/
  rank : String → String → Rat
  /-- `ts_headline` -/
  headline : String → String → String
  /-- `similarity`, of `pg_trgm` -/
  similarity : String → String → Rat

def plainText : TextFunctions where
  matchesKeyword content keyword := content = keyword
  matchesTerm content term := content = term
  rank _ _ := 1
  headline content _ := content
  similarity content term := if content = term then 1 else 0

abbrev UrlParams := List (String × String)

namespace UrlParams

def get (params : UrlParams) (name : String) : Option String := params.lookup name

/-- A parameter that `std::from_chars` has to read to its end. -/
def getInt (params : UrlParams) (name : String) (malformed : AppException) : Result (Option Int) :=
  match params.get name with
  | none => .ok none
  | some text =>
    match Security.parseSubject text with
    | some value => .ok (some value)
    | none => .error malformed

/-- `query_int` of the messages and `parse_int_param` of the pages are the same function. -/
def queryInt (params : UrlParams) (name : String) : Result (Option Int) :=
  params.getInt name ⟨.validation, "Invalid integer query parameter", "param=" ++ name⟩

end UrlParams

structure Pagination where
  limit : Nat := 50
  offset : Nat := 0
  beforeId : Option MessageId := none
  afterId : Option MessageId := none
  deriving DecidableEq, Repr

namespace Pagination

def maxLimit : Int := 100

def readLimit (params : UrlParams) : Result Nat := do
  match ← params.queryInt "limit" with
  | none => return 50
  | some limit =>
    if limit < 1 then throw ⟨.validation, "limit must be >= 1", "param=limit"⟩
    return (min limit maxLimit).toNat

def readOffset (params : UrlParams) : Result Nat := do
  match ← params.queryInt "offset" with
  | none => return 0
  | some offset =>
    if offset < 0 then throw ⟨.validation, "offset must be >= 0", "param=offset"⟩
    return offset.toNat

def fromRequest (params : UrlParams) : Result Pagination := do
  let limit ← readLimit params
  let offset ← readOffset params
  let beforeId ← params.queryInt "before"
  let afterId ← params.queryInt "after"
  return ⟨limit, offset, beforeId, afterId⟩

/-- `LIMIT` and `OFFSET`. -/
def slice {A : Type} (page : Pagination) (rows : List A) : List A := (rows.drop page.offset).take page.limit

end Pagination

structure MessageQuery where
  conversationId : ConversationId
  senderId : Option UserId := none
  keyword : Option String := none
  deriving DecidableEq, Repr

def MessageQuery.fromRequest (params : UrlParams) : Result MessageQuery := do
  match ← params.queryInt "conversation_id" with
  | none => throw ⟨.validation, "conversation_id query parameter is required", "param=conversation_id"⟩
  | some conversationId =>
    let senderId ← params.queryInt "sender_id"
    return ⟨conversationId, senderId, params.get "q"⟩

namespace MessageRepository

/-- The keyword skips deleted rows; the other filters do not. -/
def listed (text : TextFunctions) (filter : MessageQuery) (page : Pagination) (row : Message) : Bool :=
  row.conversationId = filter.conversationId &&
    filter.senderId.all (fun senderId => row.senderId = senderId) &&
    filter.keyword.all (fun keyword => text.matchesKeyword row.content keyword && row.deletedAt.isNone) &&
    page.beforeId.all (fun beforeId => row.id < beforeId) &&
    page.afterId.all fun afterId => afterId < row.id

/-- `ORDER BY id DESC`. -/
def list (text : TextFunctions) (store : Store) (filter : MessageQuery) (page : Pagination) : List Message :=
  page.slice ((store.messages.table.select (listed text filter page)).insertionSort fun first second =>
    second.id ≤ first.id)

end MessageRepository

namespace MessageService

def list (text : TextFunctions) (actorId : UserId) (query : MessageQuery) (page : Pagination) :
    Service (List Message) := do
  ConversationService.requireParticipant query.conversationId actorId
  select (MessageRepository.list text · query page)

end MessageService

namespace MessageController

open MessageService (toResponse)

def toResponses : List Message → Service (List MessageResponse)
  | [] => return []
  | message :: rest => do
    let first ← toResponse message
    let others ← toResponses rest
    return first :: others

def list (text : TextFunctions) (actorId : UserId) (params : UrlParams) : Service (List MessageResponse) := do
  let query ← Program.require (MessageQuery.fromRequest params)
  let page ← Program.require (Pagination.fromRequest params)
  let messages ← MessageService.list text actorId query page
  toResponses messages

def edit (actorId : UserId) (messageId : MessageId) (body : Option Json) : Service MessageResponse := do
  let body ← Program.require (parseJsonBody body)
  let content ← Program.require (updateMessageFromJson body)
  let message ← MessageService.edit actorId messageId content
  toResponse message

def remove (actorId : UserId) (messageId : MessageId) : Service MessageResponse := do
  let message ← MessageService.remove actorId messageId
  toResponse message

end MessageController

end RealtimeChat.Chat
