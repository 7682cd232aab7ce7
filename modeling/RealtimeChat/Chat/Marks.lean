import RealtimeChat.Foundation.Evolution
import RealtimeChat.Chat.Ownership

/-! Receipts and read markers while calls run concurrently.

`mark_delivered` and `mark_read` write receipts and markers in separate
transactions, in any order. Each transaction on its own moves them forward only,
and so does every other transaction of the services, so that no interleaving can
move them back. A receipt can be deleted with its message, whose id is not used
again.
-/

set_option autoImplicit false

namespace RealtimeChat.Chat

open Foundation Accounts ConversationRepository

/-- The same place in the conversation, and a marker that has not gone back. -/
def Participant.Advances (old new : Participant) : Prop :=
  new.seat = old.seat ∧ ∀ marker ∈ old.lastReadMessageId, ∃ later ∈ new.lastReadMessageId, marker ≤ later

variable {action : Action} {messageId : MessageId} {done : Unit} {pool : Calls} (participant : Participant)

theorem Participant.Advances.refl : participant.Advances participant :=
  ⟨rfl, fun marker shown => ⟨marker, shown, le_refl _⟩⟩

theorem Participant.Advances.trans {first second third : Participant} (earlier : first.Advances second)
    (later : second.Advances third) : first.Advances third := by
  refine ⟨later.1.trans earlier.1, fun marker shown => ?_⟩
  obtain ⟨between, shownBetween, before⟩ := earlier.2 marker shown
  obtain ⟨final, shownLast, after⟩ := later.2 between shownBetween
  exact ⟨final, shownLast, le_trans before after⟩

theorem Participant.advances_setRole (role : ParticipantRole) (participant : Participant) :
    participant.Advances (participant.setRole role) :=
  Participant.Advances.refl participant

/-- `GREATEST` keeps the marker where it is or moves it forward. -/
theorem Participant.advances_greatest (messageId : MessageId) (participant : Participant) :
    participant.Advances
      { participant with lastReadMessageId := some (max (participant.lastReadMessageId.getD 0) messageId) } := by
  refine ⟨rfl, fun marker shown => ⟨_, rfl, ?_⟩⟩
  rw [Option.mem_def.mp shown, Option.getD_some]
  exact le_max_left _ _

abbrev Follows (store next : Store) : Prop :=
  store.participants.serial.Evolves Participant.Advances next.participants.serial

namespace Follows

variable {store between next : Store} {now : TimePoint} {conversationId : ConversationId} {userId : UserId}

theorem refl (store : Store) : Follows store store := Serial.Evolves.refl Participant.Advances.refl _

theorem trans (first : Follows store between) (second : Follows between next) : Follows store next :=
  Serial.Evolves.trans Participant.Advances.trans first second

theorem of_participants (same : next.participants = store.participants) : Follows store next := by
  rw [Follows, same]
  exact refl store

variable {role : ParticipantRole} {conversation : Conversation}

theorem insertParticipant (inserted : insertParticipant store now conversationId userId role = some (.ok next)) :
    Follows store next := by
  obtain ⟨_, participants, accepted, rfl⟩ := insertParticipant_inserted inserted
  rw [Follows, Indexed.insert_eq_some accepted]
  exact Serial.Evolves.append Participant.Advances.refl _ _ _

theorem seat (seats : seat now conversationId role store userId = .ok next) : Follows store next := by
  rcases seat_inserted seats with ⟨_, rfl⟩ | inserted
  · exact refl _
  · exact insertParticipant inserted

theorem createOrGetDirect {first second : UserId}
    (created : createOrGetDirect store now first second = .ok (next, conversation)) : Follows store next := by
  obtain ⟨_, between, firstSeat, secondSeat⟩ := createOrGetDirect_seats created
  have same := (upsertDirect_transmits store now (directKey first second)).2
  exact (of_participants same).trans ((seat firstSeat).trans (seat secondSeat))

theorem createGroup {ownerId : UserId} {name : String} {memberIds : List UserId}
    (created : createGroup store now ownerId name memberIds = .ok (next, conversation)) : Follows store next := by
  obtain ⟨_, between, owner, members⟩ := createGroup_seats created
  have enrolled := (insertParticipant (addParticipant_inserted owner)).trans (foldlM_relates refl trans seat members)
  exact (of_participants rfl).trans enrolled

theorem handOver (store : Store) (now : TimePoint) (conversationId : ConversationId) (userId : UserId) :
    Follows store (handOver store now conversationId userId) :=
  Serial.Evolves.trans Participant.Advances.trans
    (Serial.Evolves.updateWhere Participant.Advances.refl _ _ _ (Participant.advances_setRole .member))
    (Serial.Evolves.updateWhere Participant.Advances.refl _ _ _ (Participant.advances_setRole .owner))

theorem remove (store : Store) (conversationId : ConversationId) :
    Follows store (ConversationRepository.remove store conversationId) := by
  unfold ConversationRepository.remove
  split
  · exact Serial.Evolves.deleteWhere Participant.Advances.refl _ _
  · exact refl store

end Follows

theorem Action.Transacts.follows {now : TimePoint} {store next : Store}
    (transacts : Action.Transacts now store action next) : Follows store next := by
  cases organizes : action.organizes with
  | false => exact Follows.of_participants (transacts.rooms organizes).2
  | true =>
    cases transacts with
    | createOrGetDirect created => exact Follows.createOrGetDirect created
    | createGroup created => exact Follows.createGroup created
    | addParticipant added => exact Follows.insertParticipant (addParticipant_inserted added)
    | removeParticipant conversationId userId => exact Serial.Evolves.deleteWhere Participant.Advances.refl _ _
    | transferOwnership transferred =>
      obtain ⟨_, rfl⟩ := transferOwnership_handOver transferred
      exact Follows.handOver store now _ _
    | removeConversation conversationId => exact Follows.remove store conversationId
    | createMessage created =>
      obtain ⟨_, rfl⟩ := createMessage_stored created
      exact Follows.of_participants rfl
    | updateLastRead conversationId userId messageId =>
      exact Serial.Evolves.updateWhere Participant.Advances.refl _ _ _ (Participant.advances_greatest messageId)
    | reads other => exact absurd organizes (by simp [(Bool.or_eq_false_iff.mp other).1])
    | linkToMessage | updateContent | softDelete | upsertState | markConversationRead => cases organizes

structure Vanished (store : Store) (messageId : MessageId) : Prop where
  used : messageId < store.messages.next
  gone : ∀ message ∈ store.messages, message.id ≠ messageId
  receipts : ∀ receipt ∈ store.receipts, receipt.messageId ≠ messageId

/-- A receipt stays, in no lower state, until its message is deleted for good. -/
structure Advances (store next : Store) : Prop where
  kept : ∀ receipt ∈ store.receipts, (∃ later ∈ next.receipts, later.seat = receipt.seat ∧
    receipt.state.rank ≤ later.state.rank) ∨ Vanished next receipt.messageId
  vanished : ∀ messageId, Vanished store messageId → Vanished next messageId

theorem ReceiptState.rank_le_read (state : ReceiptState) : state.rank ≤ ReceiptState.read.rank := by
  cases state <;> decide

theorem seat_inj {first second : ReadReceipt} :
    first.seat = second.seat ↔ first.messageId = second.messageId ∧ first.userId = second.userId := by
  simp [ReadReceipt.seat]

theorem checkMessage_eq_ok {store : Store} {table : String} :
    checkMessage store table messageId = .ok done ↔ ∃ message ∈ store.messages, message.id = messageId := by
  simp only [checkMessage, ← Serial.find_eq_some, ← Option.isSome_iff_exists]
  split <;> simp_all

namespace Advances

variable {store between next : Store} {now : TimePoint}

theorem refl (store : Store) : Advances store store :=
  ⟨fun receipt member => Or.inl ⟨receipt, member, rfl, le_refl _⟩, fun _ => id⟩

theorem trans (first : Advances store between) (second : Advances between next) : Advances store next := by
  refine ⟨fun receipt member => ?_, fun messageId gone => second.vanished _ (first.vanished _ gone)⟩
  rcases first.kept receipt member with ⟨middle, middleMember, sameSeat, earlier⟩ | gone
  · rcases second.kept middle middleMember with ⟨later, laterMember, same, after⟩ | gone
    · exact Or.inl ⟨later, laterMember, same.trans sameSeat, le_trans earlier after⟩
    · exact Or.inr ((seat_inj.mp sameSeat).1 ▸ gone)
  · exact Or.inr (second.vanished _ gone)

theorem of_messages (order : Message → Message → Prop) (receipts : next.receipts = store.receipts)
    (messages : store.messages.Evolves order next.messages) : Advances store next := by
  refine ⟨fun receipt member => Or.inl ⟨receipt, receipts ▸ member, rfl, le_refl _⟩, fun messageId gone => ?_⟩
  exact ⟨lt_of_lt_of_le gone.used messages.grown, messages.absent gone.used gone.gone, receipts ▸ gone.receipts⟩

theorem of_same (messages : next.messages = store.messages) (receipts : next.receipts = store.receipts) :
    Advances store next := by
  refine of_messages (fun _ _ => True) receipts ?_
  rw [messages]
  exact Serial.Evolves.refl (fun _ => trivial) _

theorem of_rooms (rooms : WritesRooms store next) : Advances store next := by
  rw [rooms]
  exact of_same rfl rfl

variable {state : ReceiptState} {receipt : ReadReceipt} {message : Message}

variable {userId : UserId}

theorem upsert {change : ReadReceipt → ReadReceipt} {keeps : ∀ row, (change row).id = row.id}
    {keepsSeat : ∀ row, (change row).seat = row.seat} (forward : ∀ row, row.state.rank ≤ (change row).state.rank)
    (done : ReadReceiptRepository.upsert store now messageId userId state change keeps keepsSeat = .ok (next, receipt)) :
    Advances store next := by
  simp only [ReadReceiptRepository.upsert] at done
  cases found : store.receipts.lookup (messageId, userId) with
  | some row =>
    rw [found, Indexed.upsert_of_some found] at done
    cases done
    refine ⟨fun old member => Or.inl ⟨_, Serial.mem_updateWhere.mpr ⟨old, member, rfl⟩, ?_⟩, fun other gone => ?_⟩
    · split
      · exact ⟨keepsSeat old, forward old⟩
      · exact ⟨rfl, le_refl _⟩
    · refine ⟨gone.used, gone.gone, fun later member => ?_⟩
      obtain ⟨old, oldMember, rfl⟩ := Serial.mem_updateWhere.mp member
      split
      · rw [(seat_inj.mp (keepsSeat old)).1]
        exact gone.receipts old oldMember
      · exact gone.receipts old oldMember
  | none =>
    rw [found] at done
    obtain ⟨_, checked, rest⟩ := bind_eq_ok.mp done
    obtain ⟨_, _, same⟩ := bind_eq_ok.mp rest
    cases same
    have rows (later : ReadReceipt) : later ∈ (store.receipts.upsert (messageId, userId)
        (ReadReceiptRepository.receiptRow now messageId userId state)
        (ReadReceiptRepository.receiptRow_id now messageId userId state)
        (ReadReceiptRepository.receiptRow_seat now messageId userId state) change keeps keepsSeat).1 ↔
        later ∈ store.receipts ∨
          later = ReadReceiptRepository.receiptRow now messageId userId state store.receipts.next := by
      rw [Indexed.mem_iff, (Indexed.upsert_of_none found).1]
      exact Serial.mem_append
    refine ⟨fun old member => Or.inl ⟨old, (rows old).mpr (Or.inl member), rfl, le_refl _⟩, fun other gone => ?_⟩
    refine ⟨gone.used, gone.gone, fun later member => ?_⟩
    rcases (rows later).mp member with old | rfl
    · exact gone.receipts later old
    · obtain ⟨message, listed, sameId⟩ := checkMessage_eq_ok.mp checked
      exact sameId ▸ gone.gone message listed

theorem upsertState (done : ReadReceiptRepository.upsertState store now messageId userId state = .ok (next, receipt)) :
    Advances store next := by
  refine upsert (fun row => ?_) done
  dsimp only
  split
  · next higher => exact le_of_lt higher
  · exact le_refl _

theorem markRead (done : ReadReceiptRepository.markRead now userId store messageId = .ok next) :
    Advances store next := by
  obtain ⟨⟨_, receipt⟩, upserted, rfl⟩ := map_eq_ok.mp done
  refine upsert (fun row => ?_) upserted
  split
  · exact le_refl _
  · exact row.state.rank_le_read

theorem markConversationRead {conversationId : ConversationId} {upToMessageId : MessageId}
    (marked : ReadReceiptRepository.markConversationRead store now conversationId userId upToMessageId =
      .ok (next, done)) : Advances store next := by
  obtain ⟨final, folded, same⟩ := bind_eq_ok.mp marked
  cases same
  exact foldlM_relates refl trans markRead folded

theorem updateUndeleted {change : Message → Message} {keeps : ∀ message, (change message).id = message.id}
    (updated : MessageRepository.updateUndeleted store now messageId change keeps = .ok (next, message)) :
    Advances store next := by
  unfold MessageRepository.updateUndeleted at updated
  split at updated <;> cases updated
  exact of_messages (fun _ _ => True) rfl (Serial.Evolves.updateWhere (fun _ => trivial) _ _ _ fun _ => trivial)

theorem createMessage {input : NewMessage} (created : MessageRepository.create store now input = .ok (next, message)) :
    Advances store next := by
  obtain ⟨_, rfl⟩ := createMessage_stored created
  exact of_messages (fun _ _ => True) rfl (Serial.Evolves.append (fun _ => trivial) _ _ (MessageRepository.messageRow_id now input))

theorem remove (store : Store) (conversationId : ConversationId) :
    Advances store (ConversationRepository.remove store conversationId) := by
  unfold ConversationRepository.remove
  split
  · refine ⟨fun receipt member => ?_, fun messageId gone => ?_⟩
    · cases found : (store.messages.find receipt.messageId).any fun message => message.conversationId = conversationId with
      | false => exact Or.inl ⟨receipt, Indexed.mem_deleteWhere.mpr ⟨member, found⟩, rfl, le_refl _⟩
      | true =>
        obtain ⟨message, stored, within⟩ := (Option.any_eq_true _ _).mp found
        obtain ⟨listed, sameId⟩ := Serial.find_eq_some.mp stored
        have used : receipt.messageId < store.messages.next := sameId ▸ Serial.lt_next listed
        refine Or.inr ⟨used, fun other otherMember same => ?_, fun other otherMember same => ?_⟩
        · obtain ⟨otherListed, outside⟩ := Serial.mem_deleteWhere.mp otherMember
          rw [Table.eq_of_key otherListed listed (same.trans sameId.symm), within] at outside
          cases outside
        · have outside := (Indexed.mem_deleteWhere.mp otherMember).2
          rw [same] at outside
          exact absurd (found.symm.trans outside) (by decide)
    · exact ⟨gone.used, fun message listed => gone.gone message (Serial.mem_deleteWhere.mp listed).1,
        fun receipt listed => gone.receipts receipt (Indexed.mem_deleteWhere.mp listed).1⟩
  · exact refl store

end Advances

theorem Action.Transacts.advances {now : TimePoint} {store next : Store}
    (transacts : Action.Transacts now store action next) : Advances store next := by
  cases transacts with
  | reads => exact Advances.refl store
  | removeParticipant | updateLastRead => exact Advances.of_same rfl rfl
  | removeConversation conversationId => exact Advances.remove store conversationId
  | createOrGetDirect created => exact Advances.of_rooms (createOrGetDirect_rooms created)
  | createGroup created => exact Advances.of_rooms (createGroup_rooms created)
  | addParticipant added => exact Advances.of_rooms (insertParticipant_rooms (addParticipant_inserted added))
  | transferOwnership transferred => exact Advances.of_rooms (transferOwnership_rooms transferred)
  | createMessage created => exact Advances.createMessage created
  | linkToMessage done =>
    rw [linkToMessage_only done]
    exact Advances.of_same rfl rfl
  | updateContent updated | softDelete updated => exact Advances.updateUndeleted updated
  | upsertState upserted => exact Advances.upsertState upserted
  | markConversationRead marked => exact Advances.markConversationRead marked

theorem advances_step {next : Calls} {label : Calls.Label} (moves : chat.step pool label = some next) :
    Advances pool.state.store next.state.store ∧ Follows pool.state.store next.state.store := by
  cases System.step_effect moves with
  | acted found executed =>
    have transacts := Action.exec_transacts executed
    exact ⟨transacts.advances, transacts.follows⟩
  | _ => exact ⟨Advances.refl _, Follows.refl _⟩

theorem advances_run {final : Calls} {labels : List Calls.Label} (runs : chat.step.run pool labels = some final) :
    Advances pool.state.store final.state.store ∧ Follows pool.state.store final.state.store := by
  refine Step.run_relates (fun first second => Advances first.state.store second.state.store ∧
    Follows first.state.store second.state.store) ?_ ?_ advances_step runs
  · exact fun _ => ⟨Advances.refl _, Follows.refl _⟩
  · exact fun earlier later => ⟨earlier.1.trans later.1, earlier.2.trans later.2⟩

/-- Between any two states of a run of concurrent calls: there is at most one receipt per message
and user, its state has not moved back, and neither has the marker of a membership that is still
the same. -/
theorem marks_advance {pool final : Calls} {labels : List Calls.Label} (runs : chat.step.run pool labels = some final) :
    (∀ first ∈ final.state.store.receipts, ∀ second ∈ final.state.store.receipts,
      first.messageId = second.messageId → first.userId = second.userId → first = second) ∧
    (∀ receipt ∈ pool.state.store.receipts, ∀ later ∈ final.state.store.receipts,
      later.messageId = receipt.messageId → later.userId = receipt.userId →
        receipt.state.rank ≤ later.state.rank) ∧
    (∀ participant ∈ pool.state.store.participants, ∀ later ∈ final.state.store.participants,
      later.id = participant.id → later.conversationId = participant.conversationId ∧
        later.userId = participant.userId ∧
        ∀ marker ∈ participant.lastReadMessageId, ∃ reached ∈ later.lastReadMessageId, marker ≤ reached) := by
  obtain ⟨advances, follows⟩ := advances_run runs
  have unique : ∀ first ∈ final.state.store.receipts, ∀ second ∈ final.state.store.receipts,
      first.messageId = second.messageId → first.userId = second.userId → first = second :=
    fun first one second two sameMessage sameUser =>
      Indexed.eq_of_index one two (seat_inj.mpr ⟨sameMessage, sameUser⟩) rfl
  refine ⟨unique, fun receipt member later laterMember sameMessage sameUser => ?_,
    fun participant member later laterMember same => ?_⟩
  · rcases advances.kept receipt member with ⟨reached, reachedMember, sameSeat, forward⟩ | gone
    · obtain ⟨message, user⟩ := seat_inj.mp sameSeat
      rwa [unique later laterMember reached reachedMember (sameMessage.trans message.symm) (sameUser.trans user.symm)]
    · exact absurd sameMessage (gone.receipts later laterMember)
  · obtain ⟨sameSeat, markers⟩ := follows.follows member laterMember same
    simp only [Participant.seat, Option.some.injEq, Prod.mk.injEq] at sameSeat
    exact ⟨sameSeat.1, sameSeat.2, markers⟩

def readMeanwhile : List Calls.Label :=
  [.start (.markDelivered 2 1), .start (.markRead 2 1 1)] ++ Calls.acts 0 2 ++ Calls.acts 1 5

theorem marks_advance_late_delivery :
    ∃ middle final, chat.step.run greeted readMeanwhile = some middle ∧
      chat.step.run middle (Calls.acts 0 3) = some final ∧ final.finished = true ∧
      (∃ receipt ∈ middle.state.store.receipts, receipt.messageId = 1 ∧ receipt.userId = 2 ∧ receipt.state = .read) ∧
      ∀ later ∈ final.state.store.receipts, later.messageId = 1 → later.userId = 2 →
        ReceiptState.read.rank ≤ later.state.rank := by
  have runs : (chat.step.run greeted readMeanwhile).any (fun middle =>
      (chat.step.run middle (Calls.acts 0 3)).any Pool.finished && middle.state.store.receipts.rows.any fun receipt =>
        receipt.messageId = 1 && receipt.userId = 2 && receipt.state = .read) = true := by
    decide +kernel
  obtain ⟨middle, first, rest⟩ := (Option.any_eq_true _ _).mp runs
  simp only [Bool.and_eq_true, List.any_eq_true, decide_eq_true_eq, Option.any_eq_true, and_assoc] at rest
  obtain ⟨⟨final, second, finished⟩, receipt, member, message, user, read⟩ := rest
  refine ⟨middle, final, first, second, finished, ⟨receipt, member, message, user, read⟩,
    fun later listed sameMessage sameUser => ?_⟩
  rw [← read]
  exact (marks_advance second).2.1 receipt member later listed (sameMessage.trans message.symm) (sameUser.trans user.symm)

end RealtimeChat.Chat
