import RealtimeChat.Foundation.Rely
import RealtimeChat.Chat.History
import RealtimeChat.Chat.Marks

/-! Attachments and the messages they are sent with.

A file is uploaded without a message and is linked by the transaction that
follows the insert of one. The update asks for the owner and for an unset
message, so that of the sends that name an attachment at most one gets it.
-/

set_option autoImplicit false

namespace RealtimeChat.Chat

open Foundation Accounts Script

-- What the checks of the texts come to is never needed here.
attribute [local irreducible] validateMessageContent validateGroupName

namespace AttachmentRepository

/-- An upload that names no user violates the foreign key and leaves no row. -/
def create (store : Store) (ownerId : UserId) : Store :=
  if (store.users.find ownerId).isSome then
    { store with attachments := store.attachments.append (fun id => ⟨id, ownerId, none⟩) fun _ => rfl }
  else store

def remove (store : Store) (id : Int) : Store :=
  { store with attachments := store.attachments.deleteWhere fun row => row.id = id }

end AttachmentRepository

/-- What happens besides the calls of the services: the clock moves, and files come and go. -/
inductive Surroundings where
  | clock (now : TimePoint)
  | upload (ownerId : UserId)
  | removal (id : Int)
  deriving DecidableEq, Repr

def Surroundings.move : Surroundings → Backend → Backend
  | .clock now, backend => { backend with now := now }
  | .upload ownerId, backend => { backend with store := AttachmentRepository.create backend.store ownerId }
  | .removal id, backend => { backend with store := AttachmentRepository.remove backend.store id }

/-- The services over one database, to which attachments are uploaded and from which they are
removed at any time. -/
def sharing : System Backend Surroundings Request Action Action.Returned AppException Answer where
  exec := Action.exec
  body := Request.plan
  move := Surroundings.move

def Attachment.SentByOwner (store : Store) (row : Attachment) : Prop :=
  ∃ message ∈ store.messages, row.messageId = some message.id ∧ message.senderId = row.ownerId

def Attachment.ComesFrom (store : Store) (old row : Attachment) : Prop :=
  row.ownerId = old.ownerId ∧
    (row.messageId = old.messageId ∨ old.messageId = none ∧ row.SentByOwner store)

/-- The attachments and messages have come from those of an earlier store. A message is only
dropped together with the attachments that are linked to it. -/
structure Shares (before after : Store) : Prop where
  messages : Continues before after
  grown : before.attachments.next ≤ after.attachments.next
  rows : ∀ row ∈ after.attachments, (∃ old ∈ before.attachments, old.id = row.id ∧ old.ComesFrom after row) ∨
    before.attachments.next ≤ row.id ∧ (row.messageId = none ∨ row.SentByOwner after)
  kept : ∀ row ∈ after.attachments, ∀ message ∈ before.messages, row.messageId = some message.id →
    ∃ later ∈ after.messages, later.id = message.id

variable {messageId : MessageId} {message : Message} {ownerId : UserId} {attachmentIds : List Int} {action : Action}

namespace Shares

variable {before between after : Store} {now : TimePoint}

variable {old row : Attachment} {linked next : Store × Nat} (store : Store)

theorem sentByOwner (shares : Shares before after) (sent : old.SentByOwner before) (member : row ∈ after.attachments)
    (sameOwner : row.ownerId = old.ownerId) (sameMessage : row.messageId = old.messageId) : row.SentByOwner after := by
  obtain ⟨message, listed, linked, sender⟩ := sent
  obtain ⟨later, laterListed, same⟩ := shares.kept row member message listed (sameMessage.trans linked)
  have origin := shares.messages.follows listed laterListed same
  exact ⟨later, laterListed, by rw [sameMessage, linked, same], by rw [origin.2, sender, sameOwner]⟩

theorem comesFrom (shares : Shares before after) (oldMember : old ∈ before.attachments)
    (member : row ∈ after.attachments) (same : row.id = old.id) : old.ComesFrom after row := by
  rcases shares.rows row member with ⟨origin, originMember, sameId, comes⟩ | ⟨fresh, _⟩
  · rwa [← Table.eq_of_key originMember oldMember (sameId.trans same)]
  · exact absurd (same ▸ Serial.lt_next oldMember) (not_lt.mpr fresh)

theorem trans (first : Shares before between) (second : Shares between after) : Shares before after where
  messages := first.messages.trans second.messages
  grown := le_trans first.grown second.grown
  rows row member := by
    rcases second.rows row member with ⟨middle, middleMember, sameId, sameOwner, link⟩ | ⟨fresh, link⟩
    · rcases first.rows middle middleMember with ⟨old, oldMember, sameOld, oldOwner, earlier⟩ | ⟨fresh, earlier⟩
      · refine Or.inl ⟨old, oldMember, sameOld.trans sameId, sameOwner.trans oldOwner, ?_⟩
        rcases link with same | ⟨unset, sent⟩
        · exact earlier.imp same.trans fun ⟨unset, sent⟩ => ⟨unset, second.sentByOwner sent member sameOwner same⟩
        · exact Or.inr ⟨earlier.elim (fun same => same ▸ unset) And.left, sent⟩
      · refine Or.inr ⟨sameId ▸ fresh, ?_⟩
        rcases link with same | ⟨_, sent⟩
        · exact earlier.imp same.trans fun sent => second.sentByOwner sent member sameOwner same
        · exact Or.inr sent
    · exact Or.inr ⟨le_trans first.grown fresh, link⟩
  kept row member message listed linked := by
    -- The row was linked to the message before, or it has just been linked to one that is there.
    have present (sent : row.SentByOwner after) : ∃ later ∈ after.messages, later.id = message.id := by
      obtain ⟨later, laterListed, toLater, _⟩ := sent
      exact ⟨later, laterListed, Option.some.inj (toLater.symm.trans linked)⟩
    rcases second.rows row member with ⟨middle, middleMember, _, _, same | ⟨_, sent⟩⟩ | ⟨_, unset | sent⟩
    · obtain ⟨later, laterListed, sameMessage⟩ := first.kept middle middleMember message listed (same ▸ linked)
      rw [← sameMessage] at linked ⊢
      exact second.kept row member later laterListed linked
    · exact present sent
    · exact absurd (unset.symm.trans linked) (Option.some_ne_none _).symm
    · exact present sent

theorem of_subset (messages : Continues before after) (grown : before.attachments.next ≤ after.attachments.next)
    (rows : ∀ row ∈ after.attachments, row ∈ before.attachments)
    (kept : ∀ row ∈ after.attachments, ∀ message ∈ before.messages, row.messageId = some message.id →
      ∃ later ∈ after.messages, later.id = message.id) : Shares before after :=
  ⟨messages, grown, fun row member => Or.inl ⟨row, rows row member, rfl, rfl, Or.inl rfl⟩, kept⟩

theorem of_same (attachments : after.attachments = before.attachments) (messages : Continues before after)
    (kept : ∀ message ∈ before.messages, ∃ later ∈ after.messages, later.id = message.id) : Shares before after :=
  of_subset messages (attachments ▸ le_refl _) (fun _ member => attachments ▸ member)
    fun _ _ message listed _ => kept message listed

theorem of_tables (attachments : after.attachments = before.attachments) (messages : after.messages = before.messages) :
    Shares before after :=
  of_same attachments (Continues.of_messages messages) fun message listed => ⟨message, messages ▸ listed, rfl⟩

theorem refl : Shares store store := of_tables rfl rfl

theorem of_rooms (rooms : WritesRooms before after) : Shares before after := by
  rw [rooms]
  exact of_tables rfl rfl

theorem updateUndeleted {change : Message → Message} {keeps : ∀ message, (change message).id = message.id}
    (updated : MessageRepository.updateUndeleted before now messageId change keeps = .ok (after, message))
    (origin : ∀ row : Message, row.SameOrigin (change row)) : Shares before after := by
  have continues := Continues.updateUndeleted updated origin
  unfold MessageRepository.updateUndeleted at updated
  split at updated <;> cases updated
  refine of_same rfl continues fun row listed => ⟨_, Serial.mem_updateWhere.mpr ⟨row, listed, rfl⟩, ?_⟩
  split
  · exact keeps row
  · rfl

theorem removeConversation (conversationId : ConversationId) :
    Shares store (ConversationRepository.remove store conversationId) := by
  have continues := Continues.remove store conversationId
  unfold ConversationRepository.remove at continues ⊢
  split
  · next known =>
    rw [if_pos known] at continues
    refine of_subset continues (le_refl _) (fun row member => (Serial.mem_deleteWhere.mp member).1) ?_
    intro row member message listed linked
    have outside := (Serial.mem_deleteWhere.mp member).2
    rw [linked, Option.any_some, Serial.find_eq_some.mpr ⟨listed, rfl⟩, Option.any_some] at outside
    exact ⟨message, Serial.mem_deleteWhere.mpr ⟨listed, outside⟩, rfl⟩
  · exact refl store

theorem createMessage {input : NewMessage}
    (created : MessageRepository.create before now input = .ok (after, message)) : Shares before after := by
  have continues := (Action.Transacts.createMessage created).continues
  obtain ⟨_, rfl⟩ := createMessage_stored created
  have rows (row : Message) := @Serial.mem_append _ _ before.messages row _ (MessageRepository.messageRow_id now input)
  exact of_same rfl continues fun row listed => ⟨row, (rows row).mpr (Or.inl listed), rfl⟩

theorem upload (ownerId : UserId) : Shares store (AttachmentRepository.create store ownerId) := by
  unfold AttachmentRepository.create
  split
  · refine ⟨Continues.refl store, Serial.next_le_next (Nat.le_succ _), fun row member => ?_, ?_⟩
    · rcases Serial.mem_append.mp member with old | rfl
      · exact Or.inl ⟨row, old, rfl, rfl, Or.inl rfl⟩
      · exact Or.inr ⟨le_refl _, Or.inl rfl⟩
    · exact fun row member message listed linked => ⟨message, listed, rfl⟩
  · exact refl store

theorem removal (id : Int) : Shares store (AttachmentRepository.remove store id) :=
  of_subset (Continues.refl store) (le_refl _) (fun _ member => (Serial.mem_deleteWhere.mp member).1)
    fun _ _ message listed _ => ⟨message, listed, rfl⟩

def LinkedBy (messageId : MessageId) (ownerId : UserId) (store : Store) : Prop :=
  ∀ message ∈ store.messages, message.id = messageId → message.senderId = ownerId

theorem link {id : Int} (done : AttachmentRepository.link messageId ownerId linked id = .ok next)
    (sender : LinkedBy messageId ownerId linked.1) : Shares linked.1 next.1 := by
  obtain ⟨store, count⟩ := linked
  -- The rows that the update matches are the owner's and are unset, and the message is there.
  have rows (row : Attachment) (present : 0 < store.attachments.table.affected (AttachmentRepository.linkable ownerId id) →
      ∃ message ∈ store.messages, message.id = messageId) (member : row ∈ store.attachments.updateWhere
        (AttachmentRepository.linkable ownerId id) (fun row => { row with messageId := some messageId }) fun _ => rfl) :
      ∃ old ∈ store.attachments, old.id = row.id ∧ old.ComesFrom store row := by
    obtain ⟨old, oldMember, rfl⟩ := Serial.mem_updateWhere.mp member
    split
    · next matched =>
      obtain ⟨message, listed, same⟩ := present (List.countP_pos_iff.mpr ⟨old, oldMember, matched⟩)
      simp only [AttachmentRepository.linkable, Bool.and_eq_true, decide_eq_true_eq, Option.isNone_iff_eq_none] at matched
      obtain ⟨⟨rfl, rfl⟩, unset⟩ := matched
      exact ⟨old, oldMember, rfl, rfl, Or.inr ⟨unset, message, listed, by rw [same], sender message listed same⟩⟩
    · exact ⟨old, oldMember, rfl, rfl, Or.inl rfl⟩
  simp only [AttachmentRepository.link] at done
  split at done
  · obtain ⟨_, checked, same⟩ := bind_eq_ok.mp done
    cases same
    exact ⟨Continues.refl _, le_refl _, fun row member => Or.inl (rows row (fun _ => checkMessage_eq_ok.mp checked) member),
      fun _ _ message listed _ => ⟨message, listed, rfl⟩⟩
  · next nothing =>
    cases done
    exact ⟨Continues.refl _, le_refl _, fun row member => Or.inl (rows row (fun some => absurd some nothing) member),
      fun _ _ message listed _ => ⟨message, listed, rfl⟩⟩

theorem linkToMessage (done : attachmentIds.foldlM (AttachmentRepository.link messageId ownerId) linked = .ok next)
    (sender : LinkedBy messageId ownerId linked.1) : Shares linked.1 next.1 := by
  induction attachmentIds generalizing linked with
  | nil =>
    cases done
    exact refl _
  | cons id rest ih =>
    obtain ⟨between, statement, done⟩ := bind_eq_ok.mp done
    have still : LinkedBy messageId ownerId between.1 := by
      rw [link_only statement]
      exact sender
    exact (link statement sender).trans (ih done still)

end Shares

theorem Action.Transacts.shares {now : TimePoint} {store next : Store}
    (transacts : Action.Transacts now store action next)
    (sender : ∀ attachmentIds messageId ownerId, action = .linkToMessage attachmentIds messageId ownerId →
      Shares.LinkedBy messageId ownerId store) : Shares store next := by
  cases transacts with
  | reads => exact Shares.refl store
  | removeParticipant | updateLastRead => exact Shares.of_tables rfl rfl
  | removeConversation conversationId => exact Shares.removeConversation store conversationId
  | createOrGetDirect created => exact Shares.of_rooms (createOrGetDirect_rooms created)
  | createGroup created => exact Shares.of_rooms (createGroup_rooms created)
  | addParticipant added => exact Shares.of_rooms (insertParticipant_rooms (addParticipant_inserted added))
  | transferOwnership transferred => exact Shares.of_rooms (transferOwnership_rooms transferred)
  | createMessage created => exact Shares.createMessage created
  | linkToMessage done => exact Shares.linkToMessage done (sender _ _ _ rfl)
  | updateContent updated | softDelete updated => exact Shares.updateUndeleted updated fun _ => ⟨rfl, rfl⟩
  | upsertState upserted =>
    rw [upsertReceipt_only upserted]
    exact Shares.of_tables rfl rfl
  | markConversationRead marked =>
    rw [markConversationRead_only marked]
    exact Shares.of_tables rfl rfl

section Rely

open MessagePlan ConversationPlan

abbrev SharesWith (before after : Backend) : Prop := Shares before.store after.store

variable {seen : Backend}

theorem meets_apart {A : Type} {plan : Plan A}
    (apart : plan.Everywhere fun action _ => ∀ attachmentIds messageId ownerId,
      action ≠ .linkToMessage attachmentIds messageId ownerId) :
    plan.Meets Action.exec SharesWith (fun _ _ => True) seen := by
  refine meets_of_everywhere (fun action _ _ _ _ other executed => ?_) apart
  exact (Action.exec_transacts executed).shares fun _ _ _ same => absurd same (other _ _ _)

theorem apart_of_reads (reads : action.writes = false) (attachmentIds : List Int) (messageId : MessageId)
    (ownerId : UserId) : action ≠ .linkToMessage attachmentIds messageId ownerId := by
  rintro rfl
  cases reads

theorem meets_requireParticipant {conversationId : ConversationId} {userId : UserId} {post : Unit → Backend → Prop}
    (holds : ∀ state, post () state) :
    (requireParticipant conversationId userId).Meets Action.exec SharesWith post seen := by
  refine meets_bind (meets_act (fun state after found _ executed => ?_) fun _ _ _ => trivial)
  cases executed
  refine ⟨Shares.refl _, meets_done ?_⟩
  dsimp only
  split
  · trivial
  · exact holds _

theorem meets_linkAttachments {post : Unit → Backend → Prop} (stored : message ∈ seen.store.messages)
    (holds : ∀ state, post () state) :
    (linkAttachments message.senderId attachmentIds message.id).Meets Action.exec SharesWith post seen := by
  unfold linkAttachments
  split
  · exact meets_done (holds _)
  · refine meets_bind (meets_act (fun state after linked within executed => ?_) fun _ _ _ => trivial)
    refine ⟨(Action.exec_transacts executed).shares ?_, meets_done (meets_done (holds _))⟩
    rintro _ _ _ ⟨⟩ later listed same
    exact (within.messages.follows stored listed same).2

theorem meets_send (actorId : UserId) (request : SendMessageRequest) :
    (sharing.body (.send actorId request)).Meets Action.exec SharesWith (fun _ _ => True) seen := by
  refine meets_bind (meets_bind (meets_require fun content _ => ?_))
  refine meets_bind (meets_requireParticipant fun state => ?_)
  refine meets_bind (meets_act (fun current after stored _ executed => ?_) fun _ _ _ => trivial)
  refine ⟨(Action.exec_transacts executed).shares fun _ _ _ same => Action.noConfusion same, meets_done ?_⟩
  rw [Action.exec, Action.write_eq_ok] at executed
  obtain ⟨store, created, rfl⟩ := executed
  obtain ⟨rfl, rfl⟩ := createMessage_stored created
  have listed := (@Serial.mem_append _ _ current.store.messages _ _
    (MessageRepository.messageRow_id current.now ⟨request.conversationId, actorId, content, request.type⟩)).mpr (Or.inr rfl)
  refine meets_bind (meets_linkAttachments listed fun state => ?_)
  -- The rest reads the participants and announces the message.
  refine Meets.mono (meets_apart ?_) fun _ _ _ => trivial
  refine everywhere_perform (apart_of_reads rfl) fun _ => ?_
  refine everywhere_bind (everywhere_toResponse fun _ => apart_of_reads rfl) fun _ => ?_
  refine everywhere_perform (apart_of_reads rfl) fun _ => ?_
  exact everywhere_perform (apart_of_reads rfl) fun _ => trivial

theorem Request.eq_send {request : Request} (takes : request.Takes (.linkToMessage attachmentIds messageId ownerId)) :
    ∃ sent, request = .send ownerId sent := by
  rcases takes with reads | writes
  · cases reads
  · cases request with
    | send actorId sent =>
      obtain rfl : ownerId = actorId := writes
      exact ⟨sent, rfl⟩
    | conversation operation => cases operation <;> exact False.elim writes
    | _ => exact False.elim writes

theorem sharing_shares : Rely sharing SharesWith fun _ _ _ => True where
  refl backend := Shares.refl backend.store
  trans first second := first.trans second
  moves
    | .clock _, backend => Shares.refl backend.store
    | .upload ownerId, backend => Shares.upload backend.store ownerId
    | .removal id, backend => Shares.removal backend.store id
  bodies request backend := by
    by_cases sends : ∃ actorId sent, request = .send actorId sent
    · obtain ⟨actorId, sent, rfl⟩ := sends
      exact meets_send actorId sent
    · refine meets_apart (request.takes.mono fun action _ takes attachmentIds messageId ownerId same => ?_)
      obtain ⟨sent, rfl⟩ := Request.eq_send (same ▸ takes)
      exact sends ⟨_, _, rfl⟩

end Rely

/-- Between any two moments of a run of concurrent calls, sends among them, an attachment that is
still there is the same user's, has stayed with the message it was linked to, and if it has been
linked in between, then to a message that its owner has sent. -/
theorem attachments_linked_once {backend : Backend} {before after : List (Pool.Label Surroundings Request AppException)}
    {between final : Calls} (reached : sharing.step.run ⟨backend, []⟩ before = some between)
    (continued : sharing.step.run between after = some final) :
    ∀ old ∈ between.state.store.attachments, ∀ row ∈ final.state.store.attachments, row.id = old.id →
      row.ownerId = old.ownerId ∧
      (∀ messageId, old.messageId = some messageId → row.messageId = some messageId) ∧
      (old.messageId = none → row.messageId = none ∨
        ∃ message ∈ final.state.store.messages, row.messageId = some message.id ∧ message.senderId = row.ownerId) := by
  have bound := (sharing_shares.run (fun _ member => absurd member List.not_mem_nil) reached).2
  have shares := (sharing_shares.run bound continued).1
  intro old oldMember row member same
  obtain ⟨sameOwner, link⟩ := shares.comesFrom oldMember member same
  refine ⟨sameOwner, fun messageId linked => ?_, fun unset => ?_⟩
  · rcases link with same | ⟨unset, _⟩
    · exact same.trans linked
    · exact absurd (unset.symm.trans linked) (Option.some_ne_none _).symm
  · exact link.imp (fun same => same.trans unset) And.right

/-- Two users open a conversation, and the first of them uploads a file. -/
def uploading : List (Pool.Label Surroundings Request AppException) :=
  .start (.conversation (.create 1 ⟨.direct, none, [2]⟩)) :: List.replicate 6 (.perform 0 none) ++ [.move (.upload 1)]

/-- Both of them send the file, the owner twice, and every message is stored before a file is linked. -/
def contending : List (Pool.Label Surroundings Request AppException) :=
  [.start (.send 2 ⟨1, "mine", .text, [1]⟩), .start (.send 1 ⟨1, "here", .text, [1, 1]⟩),
    .start (.send 1 ⟨1, "again", .text, [1]⟩)] ++
  [1, 1, 2, 2, 3, 3, 1, 2, 3].map (.perform · none)

theorem attachments_linked_once_contended :
    ∃ between final, sharing.step.run ⟨(Calls.initial annAndBob).state, []⟩ uploading = some between ∧
      sharing.step.run between contending = some final ∧
      between.state.store.attachments.table.rows = [⟨1, 1, none⟩] ∧
      final.state.store.attachments.table.rows = [⟨1, 1, some 2⟩] ∧
      ∃ message ∈ final.state.store.messages, message.id = 2 ∧ message.senderId = 1 := by
  obtain ⟨between, reached, shown⟩ := (Option.any_eq_true _ _).mp (by decide +kernel :
    (sharing.step.run ⟨(Calls.initial annAndBob).state, []⟩ uploading).any fun between =>
      between.state.store.attachments.table.rows = [⟨1, 1, none⟩] &&
        (sharing.step.run between contending).any fun final =>
          final.state.store.attachments.table.rows = [⟨1, 1, some 2⟩])
  simp only [Bool.and_eq_true, decide_eq_true_eq, Option.any_eq_true] at shown
  obtain ⟨uploaded, final, continued, linked⟩ := shown
  refine ⟨between, final, reached, continued, uploaded, linked, ?_⟩
  have old : (⟨1, 1, none⟩ : Attachment) ∈ between.state.store.attachments := by
    rw [Serial.mem_iff, Table.mem_iff, uploaded]
    exact List.mem_singleton_self _
  have row : (⟨1, 1, some 2⟩ : Attachment) ∈ final.state.store.attachments := by
    rw [Serial.mem_iff, Table.mem_iff, linked]
    exact List.mem_singleton_self _
  rcases (attachments_linked_once reached continued _ old _ row rfl).2.2 rfl with unset | ⟨message, listed, same, sender⟩
  · cases unset
  · exact ⟨message, listed, (Option.some.inj same).symm, sender⟩

end RealtimeChat.Chat
