import RealtimeChat.Foundation.Relational
import RealtimeChat.Chat.Calls
import RealtimeChat.Chat.Search

/-! The content of deleted messages.

It stays in the store and nobody gets to read it: listings redact it, a keyword
and a search skip it, and an edit or a removal looks at who wrote the message but
not at what it says. Two stores that differ in nothing else cannot be told apart
by any sequence of such requests.
-/

set_option autoImplicit false

namespace RealtimeChat.Chat

open Foundation Accounts

def Message.redacted (message : Message) : Message :=
  if message.deletedAt.isSome then { message with content := "" } else message

namespace Message

variable (message : Message)

@[simp] theorem redacted_id : message.redacted.id = message.id := by
  unfold redacted
  split <;> rfl

@[simp] theorem redacted_conversationId : message.redacted.conversationId = message.conversationId := by
  unfold redacted
  split <;> rfl

@[simp] theorem redacted_senderId : message.redacted.senderId = message.senderId := by
  unfold redacted
  split <;> rfl

@[simp] theorem redacted_deletedAt : message.redacted.deletedAt = message.deletedAt := by
  unfold redacted
  split <;> rfl

variable {message}

theorem redacted_of_undeleted (undeleted : message.deletedAt = none) : message.redacted = message := by
  simp [redacted, undeleted]

theorem eq_of_redacted {other : Message} (same : message.redacted = other.redacted)
    (undeleted : message.deletedAt = none) : message = other := by
  have otherUndeleted : other.deletedAt = none := by
    rw [← redacted_deletedAt, ← same, redacted_deletedAt, undeleted]
  rwa [redacted_of_undeleted undeleted, redacted_of_undeleted otherUndeleted] at same

theorem response_redacted (attachmentIds : List Int) :
    MessageResponse.of message.redacted attachmentIds = MessageResponse.of message attachmentIds := by
  unfold redacted
  split
  · next deleted => simp [MessageResponse.of, deleted]
  · rfl

end Message

structure Store.SameButDeleted (first second : Store) : Prop where
  users : first.users = second.users
  conversations : first.conversations = second.conversations
  participants : first.participants = second.participants
  messages : first.messages.table.rows.map Message.redacted = second.messages.table.rows.map Message.redacted
  sequence : first.messages.last = second.messages.last
  receipts : first.receipts = second.receipts
  reactions : first.reactions = second.reactions
  attachments : first.attachments = second.attachments

section Reads

variable {first second : Store}

theorem find_redacted (same : first.SameButDeleted second) (messageId : MessageId) :
    (first.messages.find messageId).map Message.redacted = (second.messages.find messageId).map Message.redacted := by
  have found (store : Store) : (store.messages.find messageId).map Message.redacted =
      (store.messages.table.rows.map Message.redacted).find? fun row => row.id = messageId := by
    have byId : ((fun row : Message => decide (row.id = messageId)) ∘ Message.redacted) =
        fun row => decide (row.id = messageId) :=
      funext fun row => congrArg (fun id => decide (id = messageId)) row.redacted_id
    rw [List.find?_map, byId]
    rfl
  rw [found, found, same.messages]

theorem filter_redacted {selects : Message → Bool} (undeleted : ∀ row, selects row = true → row.deletedAt = none)
    (rows : List Message) : (rows.map Message.redacted).filter selects = rows.filter selects := by
  have same (row : Message) : selects row.redacted = selects row := by
    cases deleted : row.deletedAt with
    | none => rw [row.redacted_of_undeleted deleted]
    | some time =>
      have skipped (other : Message) (same : other.deletedAt = some time) : selects other = false := by
        by_contra selected
        rw [undeleted other (by simpa using selected)] at same
        cases same
      rw [skipped row deleted, skipped row.redacted (by simpa using deleted)]
  rw [List.filter_map]
  simp only [Function.comp_def, same]
  refine (List.map_congr_left fun row member => ?_).trans (List.map_id _)
  exact row.redacted_of_undeleted (undeleted row (List.mem_filter.mp member).2)

theorem select_redacted {selects : Message → Bool} (same : first.SameButDeleted second)
    (undeleted : ∀ row, selects row = true → row.deletedAt = none) :
    first.messages.table.select selects = second.messages.table.select selects := by
  unfold Table.select
  rw [← filter_redacted undeleted, same.messages, filter_redacted undeleted]

theorem listed_redacted (text : TextFunctions) (filter : MessageQuery) (page : Pagination) (row : Message) :
    MessageRepository.listed text filter page row.redacted = MessageRepository.listed text filter page row := by
  cases deleted : row.deletedAt with
  | none => rw [row.redacted_of_undeleted deleted]
  | some time => simp [MessageRepository.listed, deleted]

section

variable (same : first.SameButDeleted second) (text : TextFunctions)

include same

theorem list_redacted (filter : MessageQuery) (page : Pagination) :
    (MessageRepository.list text first filter page).map Message.redacted =
      (MessageRepository.list text second filter page).map Message.redacted := by
  have listed (store : Store) : (MessageRepository.list text store filter page).map Message.redacted =
      page.slice (((store.messages.table.rows.map Message.redacted).filter
        (MessageRepository.listed text filter page)).insertionSort fun first second => second.id ≤ first.id) := by
    rw [MessageRepository.list, Pagination.slice, Pagination.slice, List.map_take, List.map_drop, List.filter_map,
      List.map_insertionSort (fun first second : Message => second.id ≤ first.id)
        (fun first second : Message => second.id ≤ first.id) Message.redacted _ (by simp)]
    simp only [Function.comp_def, listed_redacted]
    rfl
  rw [listed, listed, same.messages]

open MessageSearchRepository

theorem matches_redacted (actorId : UserId) (query : MessageSearchQuery) :
    exactMatches text first actorId query = exactMatches text second actorId query ∧
      fuzzyMatches text first actorId query = fuzzyMatches text second actorId query := by
  simp only [exactMatches, fuzzyMatches, visible, ConversationRepository.isParticipant, same.participants]
  constructor
  all_goals
    refine select_redacted same fun row selected => ?_
    simp only [Bool.and_eq_true, Option.isNone_iff_eq_none] at selected
    exact selected.1.1.1.1.1.2

theorem search_redacted (fuzzyAvailable : Bool) (actorId : UserId) (query : MessageSearchQuery) (page : Pagination) :
    search text fuzzyAvailable first actorId query page = search text fuzzyAvailable second actorId query page := by
  simp only [search, matches_redacted same]

end

end Reads

theorem map_redacted_map {change : Message → Message} {first second : List Message}
    (same : first.map Message.redacted = second.map Message.redacted)
    (respects : ∀ row ∈ first, ∀ other, row.redacted = other.redacted →
      (change row).redacted = (change other).redacted) :
    (first.map change).map Message.redacted = (second.map change).map Message.redacted := by
  induction first generalizing second with
  | nil =>
    obtain rfl := List.map_eq_nil_iff.mp same.symm
    rfl
  | cons row rest ih =>
    obtain ⟨other, others, rfl, sameRow, sameRest⟩ := List.map_eq_cons_iff.mp same.symm
    rw [List.forall_mem_cons] at respects
    simp only [List.map_cons, respects.1 other sameRow.symm, ih sameRest.symm respects.2]

theorem updateUndeleted_redacted {first second : Store} (same : first.SameButDeleted second) (now : TimePoint)
    (messageId : MessageId) (change : Message → Message) (keeps : ∀ message, (change message).id = message.id) :
    Outcomes (fun after after' => after.1.SameButDeleted after'.1 ∧ after.2 = after'.2)
      (MessageRepository.updateUndeleted first now messageId change keeps)
      (MessageRepository.updateUndeleted second now messageId change keeps) := by
  have found := find_redacted same messageId
  unfold MessageRepository.updateUndeleted
  cases left : first.messages.find messageId with
  | none =>
    rw [left, Option.map_none] at found
    rw [Option.map_eq_none_iff.mp found.symm]
    exact rfl
  | some message =>
    rw [left, Option.map_some] at found
    obtain ⟨other, right, sameMessage⟩ := Option.map_eq_some_iff.mp found.symm
    rw [right]
    cases deleted : message.deletedAt with
    | some time =>
      have otherDeleted : other.deletedAt = some time := by
        rw [← other.redacted_deletedAt, sameMessage, message.redacted_deletedAt, deleted]
      simp [Option.filter, deleted, otherDeleted, Outcomes]
    | none =>
      obtain rfl := message.eq_of_redacted sameMessage.symm deleted
      simp only [Option.filter, deleted, Option.isNone_none, if_true]
      refine ⟨⟨same.users, same.conversations, same.participants, ?_, same.sequence, same.receipts, same.reactions,
        same.attachments⟩, rfl⟩
      refine map_redacted_map same.messages fun row member other sameRow => ?_
      by_cases changed : row.id = messageId
      · -- The row is the message that was found.
        obtain ⟨messageMember, sameId⟩ := Serial.find_eq_some.mp left
        obtain rfl := Table.eq_of_key member messageMember (changed.trans sameId.symm)
        rw [row.eq_of_redacted sameRow deleted]
      · have otherChanged : other.id ≠ messageId := by
          rwa [← other.redacted_id, ← sameRow, row.redacted_id]
        simp [changed, otherChanged, sameRow]

structure Backend.SameButDeleted (first second : Backend) : Prop where
  store : first.store.SameButDeleted second.store
  now : first.now = second.now
  frames : first.frames = second.frames
  events : first.events = second.events

abbrev Conceals {A : Type} (values : A → A → Prop) (first second : Service A) : Prop :=
  Program.Alike Backend.SameButDeleted values first second

section Services

open Program

theorem conceals_select {A : Type} {values : A → A → Prop} {read : Store → A}
    (related : ∀ {first second : Store}, first.SameButDeleted second → values (read first) (read second)) :
    Conceals values (select read) (select read) :=
  alike_query fun same => related same.store

theorem conceals_transaction {A : Type} {values : A → A → Prop} {act : Store → TimePoint → Result (Store × A)}
    (related : ∀ {first second : Store} (now : TimePoint), first.SameButDeleted second →
      Outcomes (fun after after' => after.1.SameButDeleted after'.1 ∧ values after.2 after'.2)
        (act first now) (act second now)) :
    Conceals values (transaction act) (transaction act) := by
  refine alike_attempt fun {first second} same => ?_
  obtain ⟨store, now, frames, events⟩ := first
  obtain ⟨other, _, _, _⟩ := second
  obtain ⟨stores, rfl, rfl, rfl⟩ := same
  have outcome := related now stores
  dsimp only
  cases left : act store now <;> cases right : act other now <;> rw [left, right] at outcome
  · exact outcome
  · exact outcome.elim
  · exact outcome.elim
  · exact ⟨⟨outcome.1, rfl, rfl, rfl⟩, outcome.2⟩

variable (event : String) (actorId : UserId) (messageId : MessageId)

theorem conceals_broadcast (recipients : List UserId) (event : String) (payload : Payload) :
    Conceals Eq (broadcast recipients event payload) (broadcast recipients event payload) :=
  alike_modify fun same => ⟨same.store, same.now, congrArg (· ++ _) same.frames, same.events⟩

theorem conceals_publish (event : DomainEvent) : Conceals Eq (publish event) (publish event) :=
  alike_modify fun same => ⟨same.store, same.now, same.frames, congrArg (· ++ _) same.events⟩

theorem conceals_require {A : Type} (result : Result A) : Conceals Eq (Program.require result) (Program.require result) :=
  alike_require (outcomes_eq.mpr rfl)

theorem conceals_fail {A : Type} {values : A → A → Prop} (error : AppException) :
    Conceals values (fail error) (fail error) :=
  alike_require (rfl : error = error)

theorem conceals_same {A : Type} {read : Store → A}
    (same : ∀ {first second : Store}, first.SameButDeleted second → read first = read second) :
    Conceals Eq (select read) (select read) :=
  conceals_select same

theorem listParticipantIds_same {first second : Store} (same : first.SameButDeleted second)
    (conversationId : ConversationId) : ConversationRepository.listParticipantIds first conversationId =
      ConversationRepository.listParticipantIds second conversationId := by
  unfold ConversationRepository.listParticipantIds
  rw [same.participants]

theorem requireParticipant_conceals (conversationId : ConversationId) (actorId : UserId) :
    Conceals Eq (ConversationService.requireParticipant conversationId actorId)
      (ConversationService.requireParticipant conversationId actorId) := by
  refine alike_bind_eq (conceals_same fun same => ?_) fun found => ?_
  · unfold ConversationRepository.isParticipant
    rw [same.participants]
  · cases found
    · exact conceals_fail _
    · exact alike_pure rfl

variable {message other : Message}

theorem toResponse_conceals (same : message.redacted = other.redacted) :
    Conceals Eq (MessageService.toResponse message) (MessageService.toResponse other) := by
  have sameId : message.id = other.id := by rw [← message.redacted_id, same, other.redacted_id]
  unfold MessageService.toResponse
  rw [sameId]
  refine alike_bind_eq (conceals_same fun same => ?_) fun attachmentIds => alike_pure ?_
  · unfold AttachmentRepository.attachmentIdsFor
    rw [same.attachments]
  · rw [← message.response_redacted, same, other.response_redacted]

theorem toResponses_conceals {messages others : List Message}
    (same : messages.map Message.redacted = others.map Message.redacted) :
    Conceals Eq (MessageController.toResponses messages) (MessageController.toResponses others) := by
  induction messages generalizing others with
  | nil =>
    obtain rfl := List.map_eq_nil_iff.mp same.symm
    exact alike_pure rfl
  | cons message rest ih =>
    obtain ⟨other, tail, rfl, sameMessage, sameRest⟩ := List.map_eq_cons_iff.mp same.symm
    refine alike_bind_eq (toResponse_conceals sameMessage.symm) fun first => ?_
    exact alike_bind_eq (ih sameRest.symm) fun responses => alike_pure rfl

theorem requireMessage_conceals :
    Conceals (fun message other => message.redacted = other.redacted) (MessageService.requireMessage messageId)
      (MessageService.requireMessage messageId) := by
  have finds : Conceals (fun found found' => found.map Message.redacted = found'.map Message.redacted)
      (select (MessageRepository.findById · messageId)) (select (MessageRepository.findById · messageId)) :=
    conceals_select fun same => find_redacted same messageId
  refine alike_bind finds fun found found' same => ?_
  cases found with
  | none =>
    obtain rfl := Option.map_eq_none_iff.mp same.symm
    exact conceals_fail _
  | some message =>
    obtain ⟨other, rfl, sameMessage⟩ := Option.map_eq_some_iff.mp same.symm
    exact alike_pure sameMessage.symm

theorem list_conceals (text : TextFunctions) (actorId : UserId) (query : MessageQuery) (page : Pagination) :
    Conceals (fun messages others => messages.map Message.redacted = others.map Message.redacted)
      (MessageService.list text actorId query page) (MessageService.list text actorId query page) :=
  alike_bind_eq (requireParticipant_conceals _ _) fun _ =>
    conceals_select fun same => list_redacted same text query page

theorem announce_conceals {fact : DomainEvent} (message : Message) : Conceals Eq
      (do
        let participants ← select (ConversationRepository.listParticipantIds · message.conversationId)
        let response ← MessageService.toResponse message
        broadcast participants event (.message response)
        publish fact
        return message)
      (do
        let participants ← select (ConversationRepository.listParticipantIds · message.conversationId)
        let response ← MessageService.toResponse message
        broadcast participants event (.message response)
        publish fact
        return message) := by
  refine alike_bind_eq (conceals_same fun same => listParticipantIds_same same _) fun participants => ?_
  refine alike_bind_eq (toResponse_conceals rfl) fun response => ?_
  refine alike_bind_eq (conceals_broadcast participants event _) fun _ => ?_
  exact alike_bind_eq (conceals_publish fact) fun _ => alike_pure rfl

theorem edit_conceals (content : String) :
    Conceals Eq (MessageService.edit actorId messageId content) (MessageService.edit actorId messageId content) := by
  refine alike_bind (requireMessage_conceals messageId) fun existing existing' same => ?_
  have author : existing.senderId = existing'.senderId := by
    rw [← existing.redacted_senderId, same, existing'.redacted_senderId]
  have authorized : Conceals Eq (MessageService.requireAuthor existing actorId)
      (MessageService.requireAuthor existing' actorId) := by
    unfold MessageService.requireAuthor
    rw [author]
    split
    · exact alike_pure rfl
    · exact conceals_fail _
  refine alike_bind_eq authorized fun _ => ?_
  refine alike_bind_eq (conceals_require _) fun content => ?_
  refine alike_bind_eq (conceals_transaction fun now same => ?_) fun updated => announce_conceals _ updated
  exact updateUndeleted_redacted same now messageId _ _

theorem authorizeRemoval_conceals (same : message.redacted = other.redacted) (actorId : UserId) :
    Conceals Eq (MessageService.authorizeRemoval message actorId) (MessageService.authorizeRemoval other actorId) := by
  have author : message.senderId = other.senderId := by
    rw [← message.redacted_senderId, same, other.redacted_senderId]
  have room : message.conversationId = other.conversationId := by
    rw [← message.redacted_conversationId, same, other.redacted_conversationId]
  unfold MessageService.authorizeRemoval
  rw [author, room]
  split
  · exact alike_pure rfl
  · refine alike_bind_eq (conceals_same fun same => ?_) fun conversation => ?_
    · unfold ConversationRepository.findById
      rw [same.conversations]
    · split
      · exact alike_pure rfl
      · exact conceals_fail _

theorem remove_conceals :
    Conceals Eq (MessageService.remove actorId messageId) (MessageService.remove actorId messageId) := by
  refine alike_bind (requireMessage_conceals messageId) fun existing existing' same => ?_
  refine alike_bind_eq (authorizeRemoval_conceals same actorId) fun asModerator => ?_
  refine alike_bind_eq (conceals_transaction fun now same => ?_) fun deleted => announce_conceals _ deleted
  exact updateUndeleted_redacted same now messageId _ _

end Services

inductive MessageRequest where
  | list (actorId : UserId) (params : UrlParams)
  | search (actorId : UserId) (params : UrlParams)
  | edit (actorId : UserId) (messageId : MessageId) (body : Option Json)
  | remove (actorId : UserId) (messageId : MessageId)

inductive MessageReply where
  | messages (responses : List MessageResponse)
  | results (response : SearchResponse)
  | message (response : MessageResponse)
  deriving DecidableEq, Repr

/-- A request and what it meets: the time, what is switched on, and which actions fail from outside. -/
structure Occasion where
  request : MessageRequest
  now : TimePoint
  searchEnabled : Bool := true
  fuzzyAvailable : Bool := true
  failures : Nat → Option AppException := fun _ => none

namespace Occasion

variable (text : TextFunctions)

def handler (occasion : Occasion) : Service MessageReply :=
  match occasion.request with
  | .list actorId params => do return .messages (← MessageController.list text actorId params)
  | .search actorId params => do
    return .results (← SearchController.search text occasion.searchEnabled occasion.fuzzyAvailable actorId params)
  | .edit actorId messageId body => do return .message (← MessageController.edit actorId messageId body)
  | .remove actorId messageId => do return .message (← MessageController.remove actorId messageId)

def serve (occasion : Occasion) (backend : Backend) : Backend × Result MessageReply :=
  let (final, _, reply) := (occasion.handler text).runUnder occasion.failures 0 { backend with now := occasion.now }
  (final, reply)

def serveAll : List Occasion → Backend → Backend × List (Result MessageReply)
  | [], backend => (backend, [])
  | occasion :: rest, backend =>
    let (between, reply) := occasion.serve text backend
    let (final, replies) := serveAll rest between
    (final, reply :: replies)

end Occasion

section Requests

open Program

variable (text : TextFunctions)

theorem handler_conceals (occasion : Occasion) : Conceals Eq (occasion.handler text) (occasion.handler text) := by
  unfold Occasion.handler
  split
  · next actorId params _ =>
    refine alike_bind_eq ?_ fun responses => alike_pure rfl
    refine alike_bind_eq (conceals_require _) fun query => ?_
    refine alike_bind_eq (conceals_require _) fun page => ?_
    exact alike_bind (list_conceals text actorId query page) fun messages others same => toResponses_conceals same
  · next actorId params _ =>
    refine alike_bind_eq ?_ fun response => alike_pure rfl
    refine alike_bind_eq (conceals_require _) fun query => ?_
    refine alike_bind_eq (conceals_require _) fun page => ?_
    refine alike_bind_eq (conceals_require _) fun _ => ?_
    refine alike_bind_eq (conceals_require _) fun term => ?_
    refine alike_bind_eq (conceals_same fun same => search_redacted same text _ _ _ _) fun hits => ?_
    refine alike_bind_eq (conceals_same fun same => ?_) fun total => alike_pure rfl
    exact congrArg List.length (matches_redacted same text _ _).1
  · next actorId messageId body _ =>
    refine alike_bind_eq ?_ fun response => alike_pure rfl
    refine alike_bind_eq (conceals_require _) fun body => ?_
    refine alike_bind_eq (conceals_require _) fun content => ?_
    exact alike_bind_eq (edit_conceals actorId messageId content) fun message => toResponse_conceals rfl
  · next actorId messageId _ =>
    refine alike_bind_eq ?_ fun response => alike_pure rfl
    exact alike_bind_eq (remove_conceals actorId messageId) fun message => toResponse_conceals rfl

theorem serve_conceals (occasion : Occasion) {first second : Backend} (same : first.SameButDeleted second) :
    (occasion.serve text first).1.SameButDeleted (occasion.serve text second).1 ∧
      (occasion.serve text first).2 = (occasion.serve text second).2 := by
  have timed : Backend.SameButDeleted { first with now := occasion.now } { second with now := occasion.now } :=
    ⟨same.store, rfl, same.frames, same.events⟩
  obtain ⟨states, replies⟩ := (handler_conceals text occasion).runUnder occasion.failures 0 timed
  exact ⟨states, outcomes_eq.mp replies⟩

theorem serveAll_conceals (occasions : List Occasion) {first second : Backend} (same : first.SameButDeleted second) :
    (Occasion.serveAll text occasions first).1.SameButDeleted (Occasion.serveAll text occasions second).1 ∧
      (Occasion.serveAll text occasions first).2 = (Occasion.serveAll text occasions second).2 := by
  induction occasions generalizing first second with
  | nil => exact ⟨same, rfl⟩
  | cons occasion rest ih =>
    obtain ⟨states, reply⟩ := serve_conceals text occasion same
    obtain ⟨finals, replies⟩ := ih states
    exact ⟨finals, congrArg₂ List.cons reply replies⟩

/-- From two stores that differ at most in the content of deleted messages, every sequence of
requests is answered in the same way and broadcasts the same frames. -/
theorem deleted_content_unseen (first second : Store) (same : first.SameButDeleted second) (now : TimePoint)
    (occasions : List Occasion) :
    (Occasion.serveAll text occasions ⟨first, now, [], []⟩).2 = (Occasion.serveAll text occasions ⟨second, now, [], []⟩).2 ∧
      (Occasion.serveAll text occasions ⟨first, now, [], []⟩).1.frames =
        (Occasion.serveAll text occasions ⟨second, now, [], []⟩).1.frames := by
  obtain ⟨states, replies⟩ := serveAll_conceals text occasions
    (⟨same, rfl, rfl, rfl⟩ : Backend.SameButDeleted ⟨first, now, [], []⟩ ⟨second, now, [], []⟩)
  exact ⟨replies, states.frames⟩

end Requests

def withdrawn : Store := ((MessageService.remove 1 1).run greeted.state).1.store

def reworded : Store :=
  { withdrawn with
    messages := withdrawn.messages.updateWhere (fun _ => true) (fun row => { row with content := "goodbye" }) fun _ => rfl }

def attempts : List Occasion :=
  [⟨.list 2 [("conversation_id", "1")], 1, true, true, fun _ => none⟩,
    ⟨.list 2 [("conversation_id", "1"), ("q", "hello"), ("limit", "5")], 2, true, true, fun _ => none⟩,
    ⟨.search 2 [("q", "goodbye")], 3, true, true, fun _ => none⟩,
    ⟨.edit 1 1 (some (.object [("content", .string "again")])), 4, true, true, fun _ => none⟩,
    ⟨.remove 1 1, 5, true, true, fun _ => none⟩]

theorem deleted_content_unseen_reworded : withdrawn.messages ≠ reworded.messages ∧
    (Occasion.serveAll plainText attempts ⟨withdrawn, 0, [], []⟩).2 =
      (Occasion.serveAll plainText attempts ⟨reworded, 0, [], []⟩).2 ∧
    (Occasion.serveAll plainText attempts ⟨withdrawn, 0, [], []⟩).1.frames =
      (Occasion.serveAll plainText attempts ⟨reworded, 0, [], []⟩).1.frames := by
  have same : withdrawn.SameButDeleted reworded := ⟨rfl, rfl, rfl, by decide +kernel, rfl, rfl, rfl, rfl⟩
  exact ⟨by decide +kernel, deleted_content_unseen plainText withdrawn reworded same 0 attempts⟩

end RealtimeChat.Chat
