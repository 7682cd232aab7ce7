import RealtimeChat.Chat.History
import RealtimeChat.Chat.Marks

/-! The read marker and the receipts behind it.

`mark_read` first writes receipts for the messages up to the id it is given and
then moves the marker to that id. The id is the client's and is not looked up,
so the marker can be ahead of every message there is, and later messages are
then at or below it without ever having been read.
-/

set_option autoImplicit false

namespace RealtimeChat.Chat

open Foundation Accounts ConversationRepository

def ReadBy (store : Store) (messageId : MessageId) (userId : UserId) : Prop :=
  ∃ receipt ∈ store.receipts, receipt.messageId = messageId ∧ receipt.userId = userId ∧ receipt.state = .read

/-- The user has read what others have sent to the conversation, up to the id. -/
def ReadUpTo (store : Store) (conversationId : ConversationId) (userId : UserId) (upToMessageId : MessageId) : Prop :=
  ∀ message ∈ store.messages, message.conversationId = conversationId → message.senderId ≠ userId →
    message.id ≤ upToMessageId → ReadBy store message.id userId

/-- No marker claims a message that its user has not been recorded as reading. -/
def Backed (store : Store) : Prop :=
  ∀ participant ∈ store.participants, ∀ marker ∈ participant.lastReadMessageId,
    ReadUpTo store participant.conversationId participant.userId marker

/-- What stays true of an id while messages are sent: it is one that has been given out. -/
structure Covers (store : Store) (conversationId : ConversationId) (userId : UserId) (upToMessageId : MessageId) :
    Prop where
  reached : upToMessageId < store.messages.next
  read : ReadUpTo store conversationId userId upToMessageId

theorem ReceiptState.eq_read_of_rank_le {state : ReceiptState} (least : ReceiptState.read.rank ≤ state.rank) :
    state = .read := by
  cases state <;> simp_all [ReceiptState.rank]

variable {messageId upToMessageId : MessageId} {message : Message} {request : Request}

variable {userId : UserId}

theorem ReadBy.advance {store next : Store} (read : ReadBy store messageId userId)
    (advances : Advances store next) (member : message ∈ next.messages) (same : message.id = messageId) :
    ReadBy next messageId userId := by
  obtain ⟨receipt, listed, rfl, rfl, state⟩ := read
  rcases advances.kept receipt listed with ⟨later, laterListed, sameSeat, forward⟩ | gone
  · obtain ⟨sameMessage, sameUser⟩ := seat_inj.mp sameSeat
    rw [state] at forward
    exact ⟨later, laterListed, sameMessage, sameUser, ReceiptState.eq_read_of_rank_le forward⟩
  · exact absurd same (gone.gone message member)

variable {conversationId : ConversationId}

theorem Covers.transact {now : TimePoint} {store next : Store} {action : Action}
    (covers : Covers store conversationId userId upToMessageId)
    (transacts : Action.Transacts now store action next) : Covers next conversationId userId upToMessageId := by
  have continues := transacts.continues
  refine ⟨lt_of_lt_of_le covers.reached continues.grown, fun message member within sender below => ?_⟩
  rcases continues.rows message member with ⟨old, oldMember, sameId, sameConversation, sameSender⟩ | fresh
  · rw [← sameId] at below ⊢
    have read := covers.read old oldMember (sameConversation ▸ within) (sameSender ▸ sender) below
    exact read.advance transacts.advances member sameId.symm
  · -- A message that is new has an id above the one covered.
    exact absurd (lt_of_le_of_lt (le_trans fresh below) covers.reached) (lt_irrefl _)

/-- `GREATEST` with the zero that stands for no marker. -/
theorem Covers.zero {store : Store} (positive : ∀ message ∈ store.messages, 0 < message.id)
    (conversationId : ConversationId) (userId : UserId) : Covers store conversationId userId 0 := by
  refine ⟨?_, fun message member _ _ below => absurd (positive message member) (not_lt.mpr below)⟩
  exact Int.lt_add_one_of_le (Int.natCast_nonneg store.messages.last)

section Marking

open ReadReceiptRepository

variable {store next : Store} {now : TimePoint} {userId : UserId}

theorem markRead_reads (marked : markRead now userId store messageId = .ok next) : ReadBy next messageId userId := by
  obtain ⟨⟨_, receipt⟩, upserted, rfl⟩ := map_eq_ok.mp marked
  simp only [upsert] at upserted
  cases found : store.receipts.lookup (messageId, userId) with
  | some row =>
    rw [found, Indexed.upsert_of_some found] at upserted
    cases upserted
    obtain ⟨member, sameSeat⟩ := Indexed.lookup_eq_some found
    refine ⟨_, Serial.mem_updateWhere.mpr ⟨row, member, rfl⟩, ?_⟩
    simp only [sameSeat, decide_true, if_true]
    simp only [ReadReceipt.seat, Option.some.injEq, Prod.mk.injEq] at sameSeat
    split
    · next already => exact ⟨sameSeat.1, sameSeat.2, already⟩
    · exact ⟨sameSeat.1, sameSeat.2, rfl⟩
  | none =>
    rw [found] at upserted
    obtain ⟨_, _, rest⟩ := bind_eq_ok.mp upserted
    obtain ⟨_, _, same⟩ := bind_eq_ok.mp rest
    cases same
    refine ⟨receiptRow now messageId userId .read store.receipts.next, ?_, rfl, rfl, rfl⟩
    rw [Indexed.mem_iff, (Indexed.upsert_of_none found).1]
    exact Serial.mem_append.mpr (Or.inr rfl)

theorem markReads_reads {messageIds : List MessageId}
    (marked : messageIds.foldlM (markRead now userId) store = .ok next) (listed : message.id ∈ messageIds)
    (member : message ∈ store.messages) : ReadBy next message.id userId := by
  induction messageIds generalizing store with
  | nil => cases listed
  | cons messageId rest ih =>
    obtain ⟨between, first, others⟩ := bind_eq_ok.mp marked
    have kept : between.messages = store.messages := by rw [markRead_only first]
    rcases List.mem_cons.mp listed with rfl | later
    · have advances := foldlM_relates Advances.refl Advances.trans Advances.markRead others
      refine (markRead_reads first).advance advances ?_ rfl
      rw [markReads_only others]
      exact kept ▸ member
    · exact ih others later (kept ▸ member)

theorem markConversationRead_reads {conversationId : ConversationId} {done : Unit}
    (marked : markConversationRead store now conversationId userId upToMessageId = .ok (next, done)) :
    ReadUpTo next conversationId userId upToMessageId := by
  intro message member within sender below
  rw [markConversationRead_only marked] at member
  obtain ⟨final, folded, same⟩ := bind_eq_ok.mp marked
  cases same
  refine markReads_reads folded (List.mem_map.mpr ⟨message, ?_, rfl⟩) member
  exact List.mem_filter.mpr ⟨member, by simp [within, sender, below]⟩

end Marking

def KeepsMarkers (store next : Store) : Prop :=
  ∀ row ∈ next.participants, ∀ marker ∈ row.lastReadMessageId, ∃ old ∈ store.participants,
    old.conversationId = row.conversationId ∧ old.userId = row.userId ∧ old.lastReadMessageId = some marker

namespace KeepsMarkers

variable {store between next : Store} {now : TimePoint} {conversationId : ConversationId} {userId : UserId}
  {role : ParticipantRole}

theorem of_rows (rows : ∀ row ∈ next.participants, ∃ old ∈ store.participants,
    old.conversationId = row.conversationId ∧ old.userId = row.userId ∧
      old.lastReadMessageId = row.lastReadMessageId) : KeepsMarkers store next := by
  intro row member marker shown
  obtain ⟨old, oldMember, sameConversation, sameUser, sameMarker⟩ := rows row member
  exact ⟨old, oldMember, sameConversation, sameUser, sameMarker.trans shown⟩

theorem of_participants (same : next.participants = store.participants) : KeepsMarkers store next :=
  of_rows fun row member => ⟨row, same ▸ member, rfl, rfl, rfl⟩

theorem refl (store : Store) : KeepsMarkers store store := of_participants rfl

theorem trans (first : KeepsMarkers store between) (second : KeepsMarkers between next) : KeepsMarkers store next := by
  intro row member marker shown
  obtain ⟨middle, middleMember, sameConversation, sameUser, sameMarker⟩ := second row member marker shown
  rw [← sameConversation, ← sameUser]
  exact first middle middleMember marker sameMarker

theorem insertParticipant (inserted : insertParticipant store now conversationId userId role = some (.ok next)) :
    KeepsMarkers store next := by
  obtain ⟨_, participants, accepted, rfl⟩ := insertParticipant_inserted inserted
  intro row member marker shown
  rcases (Indexed.mem_insert accepted).mp member with old | rfl
  · exact ⟨row, old, rfl, rfl, shown⟩
  · cases shown

theorem seat (seats : seat now conversationId role store userId = .ok next) : KeepsMarkers store next := by
  rcases seat_inserted seats with ⟨_, rfl⟩ | inserted
  · exact refl _
  · exact insertParticipant inserted

theorem createOrGetDirect {first second : UserId} {conversation : Conversation}
    (created : createOrGetDirect store now first second = .ok (next, conversation)) : KeepsMarkers store next := by
  obtain ⟨_, between, firstSeat, secondSeat⟩ := createOrGetDirect_seats created
  have same := (upsertDirect_transmits store now (directKey first second)).2
  exact (of_participants same).trans ((seat firstSeat).trans (seat secondSeat))

theorem createGroup {ownerId : UserId} {name : String} {memberIds : List UserId} {conversation : Conversation}
    (created : createGroup store now ownerId name memberIds = .ok (next, conversation)) :
    KeepsMarkers store next := by
  obtain ⟨_, between, owner, members⟩ := createGroup_seats created
  have enrolled := (insertParticipant (addParticipant_inserted owner)).trans (foldlM_relates refl trans seat members)
  exact (of_participants rfl).trans enrolled

theorem handOver (store : Store) (now : TimePoint) (conversationId : ConversationId) (userId : UserId) :
    KeepsMarkers store (handOver store now conversationId userId) := by
  refine of_rows fun row member => ?_
  obtain ⟨demoted, demotedMember, rfl⟩ := Serial.mem_updateWhere.mp member
  obtain ⟨old, oldMember, rfl⟩ := Serial.mem_updateWhere.mp demotedMember
  refine ⟨old, oldMember, ?_⟩
  split <;> split <;> exact ⟨rfl, rfl, rfl⟩

theorem remove (store : Store) (conversationId : ConversationId) :
    KeepsMarkers store (ConversationRepository.remove store conversationId) := by
  unfold ConversationRepository.remove
  split
  · exact of_rows fun row member => ⟨row, (Indexed.mem_deleteWhere.mp member).1, rfl, rfl, rfl⟩
  · exact refl store

end KeepsMarkers

theorem Action.Transacts.keepsMarkers {now : TimePoint} {store next : Store} {action : Action}
    (transacts : Action.Transacts now store action next)
    (other : ∀ conversationId userId messageId, action ≠ .updateLastRead conversationId userId messageId) :
    KeepsMarkers store next := by
  cases organizes : action.organizes with
  | false => exact KeepsMarkers.of_participants (transacts.rooms organizes).2
  | true =>
    cases transacts with
    | createOrGetDirect created => exact KeepsMarkers.createOrGetDirect created
    | createGroup created => exact KeepsMarkers.createGroup created
    | addParticipant added => exact KeepsMarkers.insertParticipant (addParticipant_inserted added)
    | removeParticipant conversationId userId =>
      exact KeepsMarkers.of_rows fun row member => ⟨row, (Indexed.mem_deleteWhere.mp member).1, rfl, rfl, rfl⟩
    | transferOwnership transferred =>
      obtain ⟨_, rfl⟩ := transferOwnership_handOver transferred
      exact KeepsMarkers.handOver store now _ _
    | removeConversation conversationId => exact KeepsMarkers.remove store conversationId
    | createMessage created =>
      obtain ⟨_, rfl⟩ := createMessage_stored created
      exact KeepsMarkers.of_participants rfl
    | updateLastRead conversationId userId messageId => exact absurd rfl (other conversationId userId messageId)
    | reads quiet => exact absurd organizes (by simp [(Bool.or_eq_false_iff.mp quiet).1])
    | linkToMessage | updateContent | softDelete | upsertState | markConversationRead => cases organizes

/-- The marker is moved only right after the receipts have been written. -/
def Request.ReadsFirst (action : Action) (next : Except AppException action.Returned → Plan Answer) : Prop :=
  ∀ result conversationId userId messageId,
    (next result).pending = some (.updateLastRead conversationId userId messageId) →
      action = .markConversationRead conversationId userId messageId ∧ ∃ value, result = .ok value

theorem readsFirst_markRead (actorId : UserId) (conversationId : ConversationId) (upToMessageId : MessageId) :
    (chat.body (.markRead actorId conversationId upToMessageId)).Everywhere Request.ReadsFirst := by
  -- The participant is looked up, the receipts are written, the marker is moved, the rest is announced.
  refine ⟨fun result _ _ _ pending => ?_, fun result => ?_⟩
  · rcases result with error | found
    · cases pending
    · cases found <;> cases pending
  rcases result with error | found
  · trivial
  cases found with
  | false => trivial
  | true =>
    refine ⟨fun result _ _ _ pending => ?_, fun result => ?_⟩
    · rcases result with error | value
      · cases pending
      · cases pending
        exact ⟨rfl, value, rfl⟩
    rcases result with error | value
    · trivial
    iterate 3
      refine ⟨fun result _ _ _ pending => ?_, fun result => ?_⟩
      · rcases result with error | value <;> cases pending
      rcases result with error | value
      · trivial
    trivial

theorem Request.eq_markRead (takes : request.Takes (.updateLastRead conversationId userId messageId)) :
    request = .markRead userId conversationId messageId := by
  rcases takes with reads | writes
  · cases reads
  · cases request with
    | markRead actorId target upToMessageId =>
      obtain ⟨rfl, rfl, rfl⟩ : conversationId = target ∧ userId = actorId ∧ messageId = upToMessageId := writes
      rfl
    | conversation operation => cases operation <;> exact False.elim writes
    | _ => exact False.elim writes

theorem Request.readsFirst (request : Request) : (chat.body request).Everywhere Request.ReadsFirst := by
  by_cases marks : ∃ actorId conversationId upToMessageId, request = .markRead actorId conversationId upToMessageId
  · obtain ⟨actorId, conversationId, upToMessageId, rfl⟩ := marks
    exact readsFirst_markRead actorId conversationId upToMessageId
  · refine request.takes.ahead.mono fun action next ahead result conversationId userId messageId pending => ?_
    exact absurd ⟨_, _, _, Request.eq_markRead (ahead result _ pending)⟩ marks

theorem Request.pending_body :
    (chat.body request).pending ≠ some (.updateLastRead conversationId userId messageId) := by
  intro pending
  obtain rfl := Request.eq_markRead (request.takes.pending pending)
  cases pending

structure Steady (pool : Calls) : Prop where
  markers : ∀ participant ∈ pool.state.store.participants, ∀ marker ∈ participant.lastReadMessageId,
    Covers pool.state.store participant.conversationId participant.userId marker
  pending : ∀ call ∈ pool.calls, ∀ conversationId userId messageId,
    call.script.pending = some (.updateLastRead conversationId userId messageId) →
      Covers pool.state.store conversationId userId messageId
  positive : ∀ message ∈ pool.state.store.messages, 0 < message.id
  prepared : ∀ call ∈ pool.calls, call.script.Everywhere Request.ReadsFirst

def Action.inReach (store : Store) : Action → Bool
  | .markConversationRead _ _ upToMessageId => upToMessageId < store.messages.next
  | _ => true

/-- A call marks messages as read only up to an id that has been given out. -/
def InReach (pool : Calls) (label : Calls.Label) : Prop :=
  (pool.taken label).all fun action => action.inReach pool.state.store

instance (pool : Calls) (label : Calls.Label) : Decidable (InReach pool label) :=
  inferInstanceAs (Decidable (_ = true))

theorem Covers.greatest {store : Store} {last : Option MessageId}
    (positive : ∀ message ∈ store.messages, 0 < message.id)
    (before : ∀ marker ∈ last, Covers store conversationId userId marker)
    (covers : Covers store conversationId userId messageId) :
    Covers store conversationId userId (max (last.getD 0) messageId) := by
  rcases le_total (last.getD 0) messageId with forward | stays
  · rw [max_eq_right forward]
    exact covers
  · rw [max_eq_left stays]
    cases last with
    | none => exact Covers.zero positive conversationId userId
    | some marker => exact before marker rfl

section Exec

variable {pool : Calls} {action : Action} {after : Backend} {value : action.Returned}

theorem Steady.exec_markers (steady : Steady pool) (executed : action.exec pool.state = .ok (after, value))
    (ready : ∀ conversationId userId messageId, action = .updateLastRead conversationId userId messageId →
      Covers pool.state.store conversationId userId messageId) :
    ∀ participant ∈ after.store.participants, ∀ marker ∈ participant.lastReadMessageId,
      Covers after.store participant.conversationId participant.userId marker := by
  have transacts := Action.exec_transacts executed
  intro participant member marker shown
  by_cases moves : ∃ conversationId userId messageId, action = .updateLastRead conversationId userId messageId
  · obtain ⟨conversationId, userId, messageId, rfl⟩ := moves
    refine Covers.transact ?_ transacts
    cases executed
    obtain ⟨old, oldMember, rfl⟩ := Serial.mem_updateWhere.mp member
    split at shown
    · next here =>
      obtain ⟨rfl, rfl⟩ : old.conversationId = conversationId ∧ old.userId = userId := by simpa using here
      obtain rfl := Option.some.inj shown
      simp only [decide_true, Bool.and_self, if_true]
      exact Covers.greatest steady.positive (steady.markers old oldMember) (ready _ _ _ rfl)
    · next elsewhere =>
      simp only [elsewhere]
      exact steady.markers old oldMember marker shown
  · have kept := transacts.keepsMarkers fun conversationId userId messageId same => moves ⟨_, _, _, same⟩
    obtain ⟨old, oldMember, sameConversation, sameUser, sameMarker⟩ := kept participant member marker shown
    rw [← sameConversation, ← sameUser]
    exact (steady.markers old oldMember marker sameMarker).transact transacts

theorem Steady.exec_positive (steady : Steady pool) (executed : action.exec pool.state = .ok (after, value)) :
    ∀ message ∈ after.store.messages, 0 < message.id := by
  intro message member
  rcases (Action.exec_transacts executed).continues.rows message member with ⟨old, oldMember, same, _⟩ | fresh
  · exact same ▸ steady.positive old oldMember
  · exact lt_of_lt_of_le (Int.lt_add_one_of_le (Int.natCast_nonneg _)) fresh

end Exec

theorem Steady.step {pool next : Calls} {label : Calls.Label} (steady : Steady pool) (reach : InReach pool label)
    (moves : chat.step pool label = some next) : Steady next := by
  have effect := System.step_effect moves
  have prepared := System.everywhere_step Request.readsFirst steady.prepared effect
  cases effect with
  | started request =>
    refine ⟨steady.markers, forall_mem_concat steady.pending ?_, steady.positive, prepared⟩
    exact fun _ _ _ pending => absurd pending Request.pending_body
  | moved now => exact ⟨steady.markers, steady.pending, steady.positive, prepared⟩
  | @acted position request action continuation trace after value found executed =>
    have transacts := Action.exec_transacts executed
    have member := List.mem_of_getElem? found
    refine ⟨steady.exec_markers executed ?_, forall_mem_set ?_ ?_, steady.exec_positive executed, prepared⟩
    · rintro conversationId userId messageId rfl
      exact steady.pending _ member _ _ _ rfl
    · exact fun call there conversationId userId messageId pending =>
        (steady.pending call there _ _ _ pending).transact transacts
    · -- The call that acts is about to move the marker: it has just written the receipts.
      intro conversationId userId messageId pending
      obtain ⟨rfl, _⟩ := (steady.prepared _ member).1 _ _ _ _ pending
      have reached : messageId < pool.state.store.messages.next := by
        simpa [InReach, Pool.taken_perform found, Action.inReach] using reach
      refine ⟨lt_of_lt_of_le reached transacts.continues.grown, ?_⟩
      change (Action.markConversationRead conversationId userId messageId).exec pool.state = _ at executed
      rw [Action.exec, Action.write_eq_ok] at executed
      obtain ⟨store, marked, rfl⟩ := executed
      exact markConversationRead_reads marked
  | refused found executed | failed error found =>
    refine ⟨steady.markers, forall_mem_set steady.pending ?_, steady.positive, prepared⟩
    intro conversationId userId messageId pending
    obtain ⟨_, _, succeeded⟩ := (steady.prepared _ (List.mem_of_getElem? found)).1 _ _ _ _ pending
    cases succeeded

theorem initial_steady (users : UserTable) : Steady (Calls.initial users) where
  markers _ member := absurd member Indexed.not_mem_empty
  pending _ member := nomatch member
  positive _ member := nomatch member
  prepared _ member := nomatch member

/-- In every run of concurrent calls in which messages are marked as read only up to ids that have
been given out, no marker claims a message that its user has not been recorded as reading. -/
theorem markers_backed {users : UserTable} {labels : List Calls.Label} {final : Calls}
    (runs : chat.step.run (Calls.initial users) labels = some final)
    (reach : chat.step.Guarded InReach (Calls.initial users) labels) : Backed final.state.store := by
  have steady := Step.guarded_invariant Steady (fun steady reach moves => steady.step reach moves)
    (initial_steady users) reach runs
  exact fun participant member marker shown => (steady.markers participant member marker shown).read

/-- The first user writes to the second, who marks the conversation as read up to the id; then
the first user writes again. Each call ends before the next one starts. -/
def readBetween (upToMessageId : MessageId) : List Calls.Label :=
  [.start (.conversation (.create 1 ⟨.direct, none, [2]⟩))] ++ Calls.acts 0 6 ++
  [.start (.send 1 ⟨1, "hello", .text, []⟩)] ++ Calls.acts 1 6 ++
  [.start (.markRead 2 1 upToMessageId)] ++ Calls.acts 2 5 ++
  [.start (.send 1 ⟨1, "are you there?", .text, []⟩)] ++ Calls.acts 3 6

theorem markers_backed_in_reach :
    ∃ final, chat.step.run (Calls.initial annAndBob) (readBetween 1) = some final ∧ final.finished = true ∧
      Backed final.state.store := by
  have runs : (chat.step.run (Calls.initial annAndBob) (readBetween 1)).any Pool.finished = true := by decide +kernel
  obtain ⟨final, run, finished⟩ := (Option.any_eq_true _ _).mp runs
  exact ⟨final, run, finished, markers_backed run (by decide +kernel)⟩

/-- A marker beyond the messages there are claims the next one, which nobody has read. -/
theorem marker_ahead_of_messages :
    ∃ final, chat.step.run (Calls.initial annAndBob) (readBetween 100) = some final ∧ final.finished = true ∧
      ¬ Backed final.state.store := by
  have runs : (chat.step.run (Calls.initial annAndBob) (readBetween 100)).any (fun final => final.finished &&
      final.state.store.participants.rows.any fun participant => participant.lastReadMessageId = some 100 &&
        final.state.store.messages.table.rows.any fun message =>
          message.conversationId = participant.conversationId && message.senderId ≠ participant.userId &&
          message.id ≤ 100 && final.state.store.receipts.rows.all fun receipt =>
            receipt.messageId ≠ message.id) = true := by decide +kernel
  obtain ⟨final, run, shown⟩ := (Option.any_eq_true _ _).mp runs
  simp only [Bool.and_eq_true, List.any_eq_true, List.all_eq_true, decide_eq_true_eq, and_assoc] at shown
  obtain ⟨finished, participant, member, marker, message, listed, within, sender, below, unread⟩ := shown
  refine ⟨final, run, finished, fun backed => ?_⟩
  obtain ⟨receipt, stored, same, _⟩ := backed participant member 100 marker message listed within sender below
  exact unread receipt stored same

end RealtimeChat.Chat
