import RealtimeChat.Chat.Calls
import RealtimeChat.Chat.Frame

/-! What a failed `send` leaves behind.

`send` is a check, the transaction that stores the message, the transaction that
links its attachments, and the announcement. Each of them may fail, and nothing
takes back what was committed before: the message is stored before it is
announced, on purpose.
-/

set_option autoImplicit false

namespace RealtimeChat.Chat

open Foundation Accounts

namespace MessageService

variable (failures : Nat → Option AppException) (actorId : UserId) (request : SendMessageRequest) (backend : Backend)

/-- `send` with the actions failing that the pattern says: what it leaves and what it reports. -/
def sendUnder : Backend × Result Message :=
  let (final, _, result) := (send actorId request).runUnder failures 0 backend
  (final, result)

/-- What the first transaction stores, unless the request is refused before it, it is refused
itself, or one of the two actions fails. -/
def inserted : Option (Store × Message) :=
  match validateMessageContent request.content with
  | .error _ => none
  | .ok content =>
    if failures 0 = none ∧ ConversationRepository.isParticipant backend.store request.conversationId actorId = true ∧
        failures 1 = none then
      (MessageRepository.create backend.store backend.now
        ⟨request.conversationId, actorId, content, request.type⟩).toOption
    else none

def announce (stored : Message) (conversationId : ConversationId) (length : Nat) : Service Message := do
  let participants ← select (ConversationRepository.listParticipantIds · conversationId)
  let response ← toResponse stored
  broadcast participants "message.created" (.message response)
  publish (.messageSent stored.id stored.conversationId actorId participants length)
  return stored

variable (stored : Message) (conversationId : ConversationId) (length count : Nat)

theorem announce_leaves : Leaves id (announce actorId stored conversationId length) := by
  refine leaves_bind (leaves_select _) fun participants => ?_
  refine leaves_bind (toResponse_leaves stored) fun response => ?_
  refine leaves_bind (leaves_broadcast _ _ _) fun _ => ?_
  exact leaves_bind (leaves_publish _) fun _ => leaves_pure stored

theorem send_eq : send actorId request = (do
    let content ← Program.require (validateMessageContent request.content)
    ConversationService.requireParticipant request.conversationId actorId
    let stored ← transaction fun store now =>
      MessageRepository.create store now ⟨request.conversationId, actorId, content, request.type⟩
    linkAttachments actorId request.attachmentIds stored.id
    announce actorId stored request.conversationId content.utf8ByteSize) := rfl

theorem announce_store :
    ((announce actorId stored conversationId length).runUnder failures count backend).1.store = backend.store :=
  (announce_leaves actorId stored conversationId length).keeps.runUnder failures count backend

theorem linkAttachments_store (attachmentIds : List Int) (messageId : MessageId) (count : Nat) :
    ((linkAttachments actorId attachmentIds messageId).runUnder failures count backend).1.store = backend.store ∨
      ∃ linked, AttachmentRepository.linkToMessage backend.store attachmentIds messageId actorId =
        .ok (((linkAttachments actorId attachmentIds messageId).runUnder failures count backend).1.store, linked) := by
  unfold linkAttachments
  split
  · exact Or.inl rfl
  · rw [Program.runUnder_bind, transaction, Program.runUnder_attempt]
    cases failures count with
    | some error => exact Or.inl rfl
    | none =>
      cases found : AttachmentRepository.linkToMessage backend.store attachmentIds messageId actorId with
      | error error => exact Or.inl rfl
      | ok outcome => exact Or.inr ⟨outcome.2, rfl⟩

variable {failures actorId request backend}

theorem requireParticipant_under {conversationId : ConversationId} :
    (ConversationService.requireParticipant conversationId actorId).runUnder failures 0 backend =
      (backend, 1, match failures 0 with
        | some error => .error error
        | none => if ConversationRepository.isParticipant backend.store conversationId actorId then .ok ()
          else .error ⟨.notFound, "Conversation not found", ""⟩) := by
  unfold ConversationService.requireParticipant
  rw [Program.runUnder_bind, select, Program.query, Program.runUnder_attempt]
  cases failures 0 with
  | some error => rfl
  | none => cases ConversationRepository.isParticipant backend.store conversationId actorId <;> rfl

theorem sendUnder_store (failures : Nat → Option AppException) (actorId : UserId) (request : SendMessageRequest)
    (backend : Backend) :
    match inserted failures actorId request backend with
    | none => (sendUnder failures actorId request backend).1.store = backend.store
    | some (created, message) => (sendUnder failures actorId request backend).1.store = created ∨
        ∃ linked, AttachmentRepository.linkToMessage created request.attachmentIds message.id actorId =
          .ok ((sendUnder failures actorId request backend).1.store, linked) := by
  unfold sendUnder inserted
  rw [send_eq, Program.runUnder_bind, Program.runUnder_require]
  cases validateMessageContent request.content with
  | error error => rfl
  | ok content =>
    dsimp only
    rw [Program.runUnder_bind, requireParticipant_under]
    cases checked : failures 0 with
    | some error => simp
    | none =>
      cases participates : ConversationRepository.isParticipant backend.store request.conversationId actorId with
      | false => simp
      | true =>
        simp only [if_true, true_and]
        rw [Program.runUnder_bind, transaction, Program.runUnder_attempt]
        cases stored : failures 1 with
        | some error => simp
        | none =>
          simp only [if_true]
          cases created : MessageRepository.create backend.store backend.now
              ⟨request.conversationId, actorId, content, request.type⟩ with
          | error error => rfl
          | ok outcome =>
            obtain ⟨store, message⟩ := outcome
            -- From here on only the attachments are written.
            simp only [Except.map, Except.toOption]
            rw [Program.runUnder_bind]
            have links := linkAttachments_store failures actorId { backend with store := store }
              request.attachmentIds message.id 2
            generalize (linkAttachments actorId request.attachmentIds message.id).runUnder failures 2
              { backend with store := store } = outcome at links ⊢
            obtain ⟨between, count, error | done⟩ := outcome
            · exact links
            · dsimp only
              rw [announce_store]
              exact links

theorem inserted_message {created : Store} {message : Message}
    (insert : inserted failures actorId request backend = some (created, message)) :
    validateMessageContent request.content = .ok message.content ∧
      created.messages.table.rows = backend.store.messages.table.rows ++ [message] := by
  unfold inserted at insert
  split at insert
  · cases insert
  · split at insert
    · next content valid _ =>
      cases stored : MessageRepository.create backend.store backend.now
          ⟨request.conversationId, actorId, content, request.type⟩ with
      | error error =>
        rw [stored] at insert
        cases insert
      | ok outcome =>
        rw [stored] at insert
        cases insert
        obtain ⟨_, _, rest⟩ := bind_eq_ok.mp stored
        obtain ⟨_, _, same⟩ := bind_eq_ok.mp rest
        cases same
        exact ⟨valid, rfl⟩
    · cases insert

theorem sendUnder_messages {created : Store} {message : Message}
    (insert : inserted failures actorId request backend = some (created, message)) :
    (sendUnder failures actorId request backend).1.store.messages.table.rows =
      backend.store.messages.table.rows ++ [message] := by
  have left := sendUnder_store failures actorId request backend
  rw [insert] at left
  rw [← (inserted_message insert).2]
  rcases left with same | ⟨linked, linking⟩
  · rw [same]
  · rw [linkToMessage_only linking]

/-- When `send` reports an error, nothing has changed unless the message was inserted. If it was,
the store is the one with that message, and with either none or all of its attachments linked,
and a retry whose insert goes through stores the message a second time. -/
theorem failed_send_leaves (failures : Nat → Option AppException) (actorId : UserId) (request : SendMessageRequest)
    (backend final : Backend) (error : AppException)
    (failed : sendUnder failures actorId request backend = (final, .error error)) :
    (inserted failures actorId request backend = none → final.store = backend.store) ∧
    (∀ created message, inserted failures actorId request backend = some (created, message) →
      final.store = created ∨ ∃ linked,
        AttachmentRepository.linkToMessage created request.attachmentIds message.id actorId =
          .ok (final.store, linked)) ∧
    ((final.store.messages = backend.store.messages ∧ final.store.conversations = backend.store.conversations ∧
      final.store.attachments = backend.store.attachments) ↔ inserted failures actorId request backend = none) ∧
    (∀ created message, inserted failures actorId request backend = some (created, message) →
      ∀ retries again second, inserted retries actorId request final = some (again, second) →
        second.content = message.content ∧
          (sendUnder retries actorId request final).1.store.messages.table.rows =
            backend.store.messages.table.rows ++ [message, second]) := by
  have left := sendUnder_store failures actorId request backend
  rw [failed] at left
  cases insert : inserted failures actorId request backend with
  | none =>
    rw [insert] at left
    refine ⟨fun _ => left, (fun _ _ absent => nomatch absent), ⟨fun _ => rfl, fun _ => ?_⟩,
      fun _ _ absent => nomatch absent⟩
    rw [left]
    exact ⟨rfl, rfl, rfl⟩
  | some stored =>
    obtain ⟨created, message⟩ := stored
    rw [insert] at left
    have appended := sendUnder_messages insert
    rw [failed] at appended
    refine ⟨(fun absent => nomatch absent), fun _ _ same => ?_, ⟨fun unchanged => ?_, fun absent => nomatch absent⟩,
      fun _ _ same retries again second repeated => ?_⟩
    · cases same
      exact left
    · rw [unchanged.1] at appended
      simp at appended
    · cases same
      have content := (inserted_message insert).1.symm.trans (inserted_message repeated).1
      refine ⟨(Except.ok.inj content).symm, ?_⟩
      rw [sendUnder_messages repeated, appended, List.append_assoc]
      rfl

def acquainted : Backend :=
  ((ConversationService.create 1 ⟨.direct, none, [2]⟩).run (Calls.initial annAndBob).state).1

def failsAt (place : Nat) (count : Nat) : Option AppException :=
  if count = place then some (databaseFailure "connection lost") else none

def hello : SendMessageRequest := ⟨1, "hello", .text, []⟩

theorem failed_send_leaves_unchecked :
    (sendUnder (failsAt 0) 1 hello acquainted).2 = .error (databaseFailure "connection lost") ∧
      (sendUnder (failsAt 0) 1 hello acquainted).1.store = acquainted.store := by
  have failed : (sendUnder (failsAt 0) 1 hello acquainted).2 = .error (databaseFailure "connection lost") := by
    decide +kernel
  have nothing : (inserted (failsAt 0) 1 hello acquainted).isNone = true := by decide +kernel
  exact ⟨failed, (failed_send_leaves (failsAt 0) 1 hello acquainted _ _ (Prod.ext rfl failed)).1
    (Option.isNone_iff_eq_none.mp nothing)⟩

/-- The participants cannot be read after the message is stored. The error is reported, the
message stays, and a second attempt stores it again. -/
theorem failed_send_stores :
    (sendUnder (failsAt 2) 1 hello acquainted).2 = .error (databaseFailure "connection lost") ∧
    (sendUnder (failsAt 2) 1 hello acquainted).1.store.messages ≠ acquainted.store.messages ∧
    (sendUnder (fun _ => none) 1 hello (sendUnder (failsAt 2) 1 hello acquainted).1).1.store.messages.table.rows.map
      Message.content = ["hello", "hello"] := by
  decide +kernel

end MessageService

end RealtimeChat.Chat
