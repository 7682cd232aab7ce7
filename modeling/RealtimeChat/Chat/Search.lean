import RealtimeChat.Chat.Listing

/-! Full-text search over the messages that a user can see.

The exact search ranks what the text functions match. If its page is empty and
trigrams are there, similar texts are returned instead; the total counts exact
matches only.
-/

set_option autoImplicit false

namespace RealtimeChat.Chat

open Foundation Accounts

structure MessageSearchQuery where
  term : String
  conversationId : Option ConversationId := none
  senderId : Option UserId := none
  fromEpoch : Option TimePoint := none
  toEpoch : Option TimePoint := none
  fuzzy : Bool := true
  highlight : Bool := true
  deriving DecidableEq, Repr

structure MessageSearchHit where
  message : Message
  rank : Rat
  headline : String
  fuzzyMatch : Bool
  deriving DecidableEq, Repr

namespace MessageSearchRepository

/-- The double nearest to 0.3. -/
def fuzzySimilarityThreshold : Rat := 5404319552844595 / 18014398509481984

/-- The join with the participants and the filters. There is at most one participant for a
conversation and a user, so the join yields a message once or not at all. -/
def visible (store : Store) (actorId : UserId) (query : MessageSearchQuery) (row : Message) : Bool :=
  ConversationRepository.isParticipant store row.conversationId actorId && row.deletedAt.isNone &&
    query.conversationId.all (fun conversationId => row.conversationId = conversationId) &&
    query.senderId.all (fun senderId => row.senderId = senderId) &&
    query.fromEpoch.all (fun fromEpoch => fromEpoch ≤ row.createdAt) &&
    query.toEpoch.all fun toEpoch => row.createdAt ≤ toEpoch

def exactHit (text : TextFunctions) (query : MessageSearchQuery) (row : Message) : MessageSearchHit where
  message := row
  rank := text.rank row.content query.term
  headline := if query.highlight then text.headline row.content query.term else ""
  fuzzyMatch := false

def fuzzyHit (text : TextFunctions) (query : MessageSearchQuery) (row : Message) : MessageSearchHit where
  message := row
  rank := text.similarity row.content query.term
  headline := if query.highlight then row.content else ""
  fuzzyMatch := true

/-- `ORDER BY rank DESC, m.id DESC`. -/
def rankedBefore (first second : MessageSearchHit) : Bool :=
  second.rank < first.rank || (first.rank = second.rank && second.message.id ≤ first.message.id)

def page (page : Pagination) (rows : List Message) (hit : Message → MessageSearchHit) : List MessageSearchHit :=
  page.slice ((rows.map hit).insertionSort fun first second => rankedBefore first second)

def exactMatches (text : TextFunctions) (store : Store) (actorId : UserId) (query : MessageSearchQuery) :
    List Message :=
  store.messages.table.select fun row => visible store actorId query row && text.matchesTerm row.content query.term

def fuzzyMatches (text : TextFunctions) (store : Store) (actorId : UserId) (query : MessageSearchQuery) :
    List Message :=
  store.messages.table.select fun row => visible store actorId query row &&
    fuzzySimilarityThreshold ≤ text.similarity row.content query.term

/-- `fuzzyAvailable` is what the probe for `pg_trgm` has found. -/
def search (text : TextFunctions) (fuzzyAvailable : Bool) (store : Store) (actorId : UserId)
    (query : MessageSearchQuery) (pagination : Pagination) : List MessageSearchHit :=
  let exact := page pagination (exactMatches text store actorId query) (exactHit text query)
  if exact.isEmpty && (query.fuzzy && fuzzyAvailable) then
    page pagination (fuzzyMatches text store actorId query) (fuzzyHit text query)
  else exact

def count (text : TextFunctions) (store : Store) (actorId : UserId) (query : MessageSearchQuery) : Nat :=
  (exactMatches text store actorId query).length

end MessageSearchRepository

structure SearchResult where
  messageId : MessageId
  conversationId : ConversationId
  senderId : UserId
  content : String
  createdAt : TimePoint
  rank : Rat
  highlight : String
  fuzzyMatch : Bool
  deriving DecidableEq, Repr

def SearchResult.of (hit : MessageSearchHit) : SearchResult :=
  ⟨hit.message.id, hit.message.conversationId, hit.message.senderId, hit.message.content, hit.message.createdAt,
    hit.rank, hit.headline, hit.fuzzyMatch⟩

structure SearchResponse where
  query : String
  total : Nat
  returned : Nat
  fuzzyAvailable : Bool
  limit : Nat
  offset : Nat
  results : List SearchResult
  deriving DecidableEq, Repr

namespace SearchService

def minTermLength : Nat := 2

def maxTermLength : Nat := 256

def isBlank (c : Char) : Bool := c = ' ' || c = '\t' || c = '\r' || c = '\n'

def trim (value : String) : String :=
  String.ofList ((value.toList.dropWhile isBlank).reverse.dropWhile isBlank).reverse

def validateTerm (raw : String) : Result String :=
  if (trim raw).utf8ByteSize < minTermLength then
    .error (invalid ("Search term must be at least " ++ toString minTermLength ++ " characters") "q")
  else if maxTermLength < (trim raw).utf8ByteSize then
    .error (invalid ("Search term must be at most " ++ toString maxTermLength ++ " characters") "q")
  else .ok (trim raw)

def requireFeature (enabled : Bool) (name : String) : Result Unit :=
  if enabled then .ok () else .error ⟨.notFound, "Feature is disabled: " ++ name, "feature=" ++ name⟩

def searchMessages (text : TextFunctions) (enabled fuzzyAvailable : Bool) (actorId : UserId)
    (query : MessageSearchQuery) (page : Pagination) : Service SearchResponse := do
  Program.require (requireFeature enabled "search")
  let term ← Program.require (validateTerm query.term)
  let query := { query with term := term }
  let hits ← select (MessageSearchRepository.search text fuzzyAvailable · actorId query page)
  let total ← select (MessageSearchRepository.count text · actorId query)
  let results := hits.map SearchResult.of
  return ⟨term, total, results.length, fuzzyAvailable, page.limit, page.offset, results⟩

end SearchService

namespace SearchController

def optionalIntParam (params : UrlParams) (name : String) : Result (Option Int) :=
  params.getInt name (invalid ("Invalid integer for parameter: " ++ name) name)

def boolParam (params : UrlParams) (name : String) (fallback : Bool) : Bool :=
  match params.get name with
  | none => fallback
  | some text => text = "1" || text = "true" || text = "yes" || text = "on"

def requiredStringParam (params : UrlParams) (name : String) : Result String :=
  match params.get name with
  | none => .error (invalid ("Missing required parameter: " ++ name) name)
  | some text => .ok text

def readQuery (params : UrlParams) : Result MessageSearchQuery := do
  let term ← requiredStringParam params "q"
  let conversationId ← optionalIntParam params "conversation_id"
  let senderId ← optionalIntParam params "sender_id"
  let fromEpoch ← optionalIntParam params "from"
  let toEpoch ← optionalIntParam params "to"
  return ⟨term, conversationId, senderId, fromEpoch, toEpoch, boolParam params "fuzzy" true,
    boolParam params "highlight" true⟩

def search (text : TextFunctions) (enabled fuzzyAvailable : Bool) (actorId : UserId) (params : UrlParams) :
    Service SearchResponse := do
  let query ← Program.require (readQuery params)
  let page ← Program.require (Pagination.fromRequest params)
  SearchService.searchMessages text enabled fuzzyAvailable actorId query page

end SearchController

end RealtimeChat.Chat
