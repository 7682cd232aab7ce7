import RealtimeChat.Chat.Conduct

/-! Who owns a group while calls run concurrently.

A group is owned when its `owner_id` is one of its participants and that
participant alone has the role of an owner. The transactions of the conversation
calls keep this, except for two that rest on what an earlier transaction read:
a handover to a user who has left, and the removal of a user who has become the
owner. A run keeps every group owned exactly if neither is committed.
-/

set_option autoImplicit false

namespace RealtimeChat.Chat

open Foundation Accounts ConversationRepository

def Owned (store : Store) : Prop :=
  ∀ row ∈ store.conversations, row.isGroup = true → ∃ owner, row.ownerId = some owner ∧
    Member store row.id owner ∧
    ∀ participant ∈ store.participants, participant.conversationId = row.id →
      (participant.role = .owner ↔ participant.userId = owner)

/-- The groups are old ones with the owners they had, the owners stay seated, and whoever is
seated was so with the same role or is new and no owner. -/
structure Transmits (store next : Store) : Prop where
  groups : ∀ row ∈ next.conversations, row.isGroup = true →
    ∃ old ∈ store.conversations, old.id = row.id ∧ old.isGroup = true ∧ old.ownerId = row.ownerId
  owners : ∀ row ∈ next.conversations, row.isGroup = true → ∀ owner, row.ownerId = some owner →
    Member store row.id owner → Member next row.id owner
  seats : ∀ participant ∈ next.participants,
    (∃ old ∈ store.participants, old.conversationId = participant.conversationId ∧
      old.userId = participant.userId ∧ old.role = participant.role) ∨
    (participant.role = .member ∧ ¬ Member store participant.conversationId participant.userId)

theorem Transmits.owned {store next : Store} (transmits : Transmits store next) (owned : Owned store) :
    Owned next := by
  intro row member group
  obtain ⟨old, oldMember, sameId, oldGroup, sameOwner⟩ := transmits.groups row member group
  obtain ⟨owner, owns, seated, roles⟩ := owned old oldMember oldGroup
  rw [sameOwner] at owns
  rw [sameId] at seated roles
  refine ⟨owner, owns, transmits.owners row member group owner owns seated, fun participant listed within => ?_⟩
  rcases transmits.seats participant listed with ⟨seat, seatMember, sameRoom, sameUser, sameRole⟩ | ⟨plain, new⟩
  · rw [← sameRole, ← sameUser]
    exact roles seat seatMember (sameRoom.trans within)
  · -- The owner was seated before, so a new participant is another user.
    refine iff_of_false (by simp [plain]) ?_
    rintro rfl
    rw [within] at new
    exact new seated

theorem transmits_of_rooms {store next : Store} (conversations : next.conversations = store.conversations)
    (participants : next.participants = store.participants) : Transmits store next := by
  refine ⟨fun row member group => ?_, fun row _ _ owner _ seated => ?_, fun participant listed => ?_⟩
  · exact ⟨row, conversations ▸ member, rfl, group, rfl⟩
  · simpa only [Member, participants] using seated
  · exact Or.inl ⟨participant, participants ▸ listed, rfl, rfl, rfl⟩

structure Enrolls (store next : Store) : Prop where
  conversations : next.conversations = store.conversations
  kept : ∀ participant ∈ store.participants, participant ∈ next.participants
  added : ∀ participant ∈ next.participants, participant ∈ store.participants ∨
    (participant.role = .member ∧ ¬ Member store participant.conversationId participant.userId)

namespace Enrolls

variable {store between next : Store}

theorem refl (store : Store) : Enrolls store store := ⟨rfl, fun _ => id, fun _ => Or.inl⟩

theorem member (enrolls : Enrolls store next) {conversationId : ConversationId} {userId : UserId}
    (seated : Member store conversationId userId) : Member next conversationId userId := by
  obtain ⟨participant, listed, same⟩ := seated
  exact ⟨participant, enrolls.kept participant listed, same⟩

theorem trans (first : Enrolls store between) (second : Enrolls between next) : Enrolls store next := by
  refine ⟨second.conversations.trans first.conversations,
    fun participant listed => second.kept _ (first.kept _ listed), fun participant listed => ?_⟩
  rcases second.added participant listed with old | ⟨plain, new⟩
  · exact first.added participant old
  · exact Or.inr ⟨plain, fun seated => new (first.member seated)⟩

theorem transmits (enrolls : Enrolls store next) : Transmits store next := by
  refine ⟨fun row member group => ?_, fun _ _ _ _ _ => enrolls.member, fun participant listed => ?_⟩
  · exact ⟨row, enrolls.conversations ▸ member, rfl, group, rfl⟩
  · exact (enrolls.added participant listed).imp_left fun old => ⟨participant, old, rfl, rfl, rfl⟩

end Enrolls

section Seats

variable {store next : Store} {now : TimePoint} {conversationId : ConversationId} {userId : UserId}

theorem insertParticipant_rows {role : ParticipantRole}
    (inserted : insertParticipant store now conversationId userId role = some (.ok next)) :
    ¬ Member store conversationId userId ∧ next.conversations = store.conversations ∧
      ∀ participant, participant ∈ next.participants ↔ participant ∈ store.participants ∨
        participant = seatRow now conversationId userId role store.participants.next := by
  have absent : ¬ Member store conversationId userId := fun member => by
    rw [insertParticipant_eq_none.mpr member] at inserted
    cases inserted
  obtain ⟨_, participants, accepted, rfl⟩ := insertParticipant_inserted inserted
  exact ⟨absent, rfl, fun participant => Indexed.mem_insert accepted⟩

theorem insertParticipant_enrolls
    (inserted : insertParticipant store now conversationId userId .member = some (.ok next)) :
    Enrolls store next := by
  obtain ⟨absent, conversations, rows⟩ := insertParticipant_rows inserted
  refine ⟨conversations, fun participant listed => (rows participant).mpr (Or.inl listed),
    fun participant listed => ?_⟩
  rcases (rows participant).mp listed with old | rfl
  · exact Or.inl old
  · exact Or.inr ⟨rfl, absent⟩

theorem seat_enrolls (seats : seat now conversationId .member store userId = .ok next) : Enrolls store next := by
  rcases seat_inserted seats with ⟨_, rfl⟩ | inserted
  · exact Enrolls.refl _
  · exact insertParticipant_enrolls inserted

theorem seats_enroll {userIds : List UserId}
    (seats : userIds.foldlM (seat now conversationId .member) store = .ok next) : Enrolls store next :=
  foldlM_relates Enrolls.refl Enrolls.trans seat_enrolls seats

end Seats

section Transactions

variable {store between next : Store} {now : TimePoint} {conversationId : ConversationId} {userId : UserId}

theorem transmits_of_rows (participants : next.participants = store.participants)
    (rows : ∀ row ∈ next.conversations, ∃ old ∈ store.conversations,
      old.id = row.id ∧ old.type = row.type ∧ old.ownerId = row.ownerId) : Transmits store next := by
  refine ⟨fun row member group => ?_, fun _ _ _ _ _ seated => ?_, fun participant listed => ?_⟩
  · obtain ⟨old, oldMember, sameId, sameType, sameOwner⟩ := rows row member
    exact ⟨old, oldMember, sameId, by simpa only [Conversation.isGroup, sameType] using group, sameOwner⟩
  · simpa only [Member, participants] using seated
  · exact Or.inl ⟨participant, participants ▸ listed, rfl, rfl, rfl⟩

theorem Transmits.enroll (transmits : Transmits store between) (same : between.participants = store.participants)
    (enrolls : Enrolls between next) : Transmits store next := by
  have members (other : ConversationId) (user : UserId) : Member between other user ↔ Member store other user := by
    simp only [Member, same]
  refine ⟨fun row member group => ?_, fun row _ _ owner _ seated => ?_, fun participant listed => ?_⟩
  · exact transmits.groups row (enrolls.conversations ▸ member) group
  · exact enrolls.member ((members row.id owner).mpr seated)
  · rcases enrolls.added participant listed with old | ⟨plain, new⟩
    · exact Or.inl ⟨participant, same ▸ old, rfl, rfl, rfl⟩
    · exact Or.inr ⟨plain, fun seated => new ((members _ _).mpr seated)⟩

theorem upsertDirect_transmits (store : Store) (now : TimePoint) (key : String) :
    Transmits store (upsertDirect store now key).1 ∧
      (upsertDirect store now key).1.participants = store.participants := by
  unfold upsertDirect
  cases found : store.conversations.lookup key with
  | some row =>
    rw [Indexed.upsert_of_some found]
    refine ⟨transmits_of_rows rfl fun row member => ?_, rfl⟩
    obtain ⟨old, oldMember, rfl⟩ := Serial.mem_updateWhere.mp member
    refine ⟨old, oldMember, ?_⟩
    split <;> exact ⟨rfl, rfl, rfl⟩
  | none =>
    refine ⟨⟨fun row member group => ?_, fun _ _ _ _ _ => id, fun participant listed => ?_⟩, rfl⟩
    · rw [Indexed.mem_iff, (Indexed.upsert_of_none found).1, Serial.mem_append] at member
      rcases member with old | rfl
      · exact ⟨row, old, rfl, group, rfl⟩
      · cases group
    · exact Or.inl ⟨participant, listed, rfl, rfl, rfl⟩

theorem createOrGetDirect_transmits {first second : UserId} {conversation : Conversation}
    (created : createOrGetDirect store now first second = .ok (next, conversation)) : Transmits store next := by
  obtain ⟨transmits, same⟩ := upsertDirect_transmits store now (directKey first second)
  obtain ⟨_, between, firstSeat, secondSeat⟩ := createOrGetDirect_seats created
  exact transmits.enroll same ((seat_enrolls firstSeat).trans (seat_enrolls secondSeat))

theorem createMessage_transmits {input : NewMessage} {message : Message}
    (created : MessageRepository.create store now input = .ok (next, message)) : Transmits store next := by
  obtain ⟨_, rfl⟩ := createMessage_stored created
  refine transmits_of_rows rfl fun row member => ?_
  obtain ⟨old, oldMember, rfl⟩ := Serial.mem_updateWhere.mp member
  refine ⟨old, oldMember, ?_⟩
  split <;> exact ⟨rfl, rfl, rfl⟩

theorem updateLastRead_transmits (store : Store) (conversationId : ConversationId) (userId : UserId)
    (messageId : MessageId) : Transmits store (updateLastRead store conversationId userId messageId) := by
  refine ⟨fun row member group => ⟨row, member, rfl, group, rfl⟩, fun row _ _ owner _ seated => ?_,
    fun participant listed => ?_⟩
  · exact Iff.mpr (member_updateWhere store _ _ _ row.id owner) seated
  · obtain ⟨old, oldListed, rfl⟩ := Serial.mem_updateWhere.mp listed
    refine Or.inl ⟨old, oldListed, ?_⟩
    split <;> exact ⟨rfl, rfl, rfl⟩

theorem remove_transmits (store : Store) (conversationId : ConversationId) :
    Transmits store (ConversationRepository.remove store conversationId) := by
  unfold ConversationRepository.remove
  split
  · refine ⟨fun row member group => ?_, fun row member _ owner _ seated => ?_, fun participant listed => ?_⟩
    · exact ⟨row, (Indexed.mem_deleteWhere.mp member).1, rfl, group, rfl⟩
    · obtain ⟨participant, listed, same, sameUser⟩ := seated
      refine ⟨participant, Indexed.mem_deleteWhere.mpr ⟨listed, ?_⟩, same, sameUser⟩
      rw [same]
      exact (Indexed.mem_deleteWhere.mp member).2
    · exact Or.inl ⟨participant, (Indexed.mem_deleteWhere.mp listed).1, rfl, rfl, rfl⟩
  · exact transmits_of_rooms rfl rfl

theorem owned_removeParticipant_iff (owned : Owned store) :
    Owned (removeParticipant store conversationId userId) ↔
      ∀ row ∈ findById store conversationId, row.isGroup = true → row.ownerId ≠ some userId := by
  constructor
  · intro stays row found group owns
    obtain ⟨member, same⟩ := Indexed.find_eq_some.mp found
    obtain ⟨owner, isOwner, seated, _⟩ := stays row member group
    rw [owns] at isOwner
    cases isOwner
    exact ((member_removeParticipant _ _).mp seated).2 ⟨same, rfl⟩
  · intro other
    have transmits : Transmits store (removeParticipant store conversationId userId) := by
      refine ⟨fun row member group => ⟨row, member, rfl, group, rfl⟩,
        fun row member group owner owns seated => ?_, fun participant listed => ?_⟩
      · refine (member_removeParticipant _ _).mpr ⟨seated, ?_⟩
        rintro ⟨same, rfl⟩
        exact other row (Indexed.find_eq_some.mpr ⟨member, same⟩) group owns
      · exact Or.inl ⟨participant, (Indexed.mem_deleteWhere.mp listed).1, rfl, rfl, rfl⟩
    exact transmits.owned owned

theorem createGroup_owned {ownerId : UserId} {name : String} {memberIds : List UserId} {conversation : Conversation}
    (seated : Seated store) (owned : Owned store)
    (created : createGroup store now ownerId name memberIds = .ok (next, conversation)) : Owned next := by
  obtain ⟨_, between, owner, members⟩ := createGroup_seats created
  obtain ⟨_, conversations, rows⟩ := insertParticipant_rows (addParticipant_inserted owner)
  refine (seats_enroll members).transmits.owned fun row member group => ?_
  rw [conversations, Indexed.mem_append] at member
  simp only [rows]
  rcases member with old | rfl
  · -- An older group has another id than the new one.
    obtain ⟨owner, owns, ⟨seat, listed, same⟩, roles⟩ := owned row old group
    refine ⟨owner, owns, ⟨seat, (rows seat).mpr (Or.inl listed), same⟩, ?_⟩
    rintro participant (before | rfl) within
    · exact roles participant before within
    · exact absurd within.symm (ne_of_lt (Indexed.lt_next old))
  · -- Nobody is seated in the new group but its owner.
    refine ⟨ownerId, rfl, ⟨_, (rows _).mpr (Or.inr rfl), rfl, rfl⟩, ?_⟩
    rintro participant (before | rfl) within
    · have existing := seated _ _ ⟨participant, before, rfl, rfl⟩
      exact absurd existing.lt_next (within ▸ lt_irrefl _)
    · exact iff_of_true rfl rfl

def Participant.handedOver (conversationId : ConversationId) (newOwnerId : UserId) (participant : Participant) :
    Participant :=
  if participant.conversationId = conversationId then
    participant.setRole (if participant.userId = newOwnerId then .owner else .member)
  else participant

theorem mem_handOver {participant : Participant} :
    participant ∈ (handOver store now conversationId userId).participants ↔
      ∃ old ∈ store.participants, participant = old.handedOver conversationId userId := by
  simp only [handOver, Indexed.mem_updateWhere]
  constructor
  · rintro ⟨_, ⟨old, listed, rfl⟩, rfl⟩
    refine ⟨old, listed, ?_⟩
    obtain ⟨_, _, _, role, _, _⟩ := old
    cases role <;> grind [Participant.handedOver, Participant.setRole]
  · rintro ⟨old, listed, rfl⟩
    refine ⟨_, ⟨old, listed, rfl⟩, ?_⟩
    obtain ⟨_, _, _, role, _, _⟩ := old
    cases role <;> grind [Participant.handedOver, Participant.setRole]

theorem Participant.handedOver_seat (conversationId : ConversationId) (newOwnerId : UserId)
    (participant : Participant) :
    (participant.handedOver conversationId newOwnerId).conversationId = participant.conversationId ∧
      (participant.handedOver conversationId newOwnerId).userId = participant.userId := by
  unfold handedOver
  split <;> exact ⟨rfl, rfl⟩

theorem member_handOver (other : ConversationId) (user : UserId) :
    Member (handOver store now conversationId userId) other user ↔ Member store other user := by
  simp only [Member, mem_handOver]
  constructor
  · rintro ⟨_, ⟨old, listed, rfl⟩, rfl, rfl⟩
    exact ⟨old, listed, (old.handedOver_seat _ _).1.symm, (old.handedOver_seat _ _).2.symm⟩
  · rintro ⟨old, listed, rfl, rfl⟩
    exact ⟨_, ⟨old, listed, rfl⟩, old.handedOver_seat _ _⟩

theorem owned_handOver_iff (owned : Owned store) :
    Owned (handOver store now conversationId userId) ↔
      ∀ row ∈ findById store conversationId, row.isGroup = true → Member store conversationId userId := by
  constructor
  · intro stays row found group
    obtain ⟨member, same⟩ := Indexed.find_eq_some.mp found
    obtain ⟨owner, owns, seated, _⟩ := stays { row with ownerId := some userId, updatedAt := now }
      (Serial.mem_updateWhere.mpr ⟨row, member, by simp [same]⟩) group
    cases owns
    exact same ▸ (member_handOver _ _).mp seated
  · intro successor row member group
    obtain ⟨old, oldMember, rfl⟩ := Serial.mem_updateWhere.mp member
    simp only [mem_handOver, member_handOver]
    by_cases handed : old.id = conversationId
    · simp only [handed, decide_true, if_true] at group ⊢
      refine ⟨userId, rfl, successor old (Indexed.find_eq_some.mpr ⟨oldMember, handed⟩) group, ?_⟩
      rintro _ ⟨participant, listed, rfl⟩ within
      rw [(participant.handedOver_seat _ _).1] at within
      by_cases same : participant.userId = userId <;> simp [Participant.handedOver, Participant.setRole, within, same]
    · simp only [handed, decide_false, Bool.false_eq_true, if_false] at group ⊢
      obtain ⟨owner, owns, seated, roles⟩ := owned old oldMember group
      refine ⟨owner, owns, seated, ?_⟩
      rintro _ ⟨participant, listed, rfl⟩ within
      rw [(participant.handedOver_seat _ _).1] at within
      rw [Participant.handedOver, if_neg (within ▸ handed)]
      exact roles participant listed within

end Transactions

/-- What a transaction has to find to keep the groups owned: the successor of an owner still a
participant, and the user to remove not an owner. -/
def Safe (store : Store) : Action → Prop
  | .transferOwnership conversationId newOwnerId => (store.users.find newOwnerId).isSome = true →
      ∀ row ∈ findById store conversationId, row.isGroup = true → isParticipant store conversationId newOwnerId = true
  | .removeParticipant conversationId userId =>
      ∀ row ∈ findById store conversationId, row.isGroup = true → row.ownerId ≠ some userId
  | _ => True

instance (store : Store) : DecidablePred (Safe store)
  | .transferOwnership _ _ => inferInstanceAs (Decidable (_ → _))
  | .removeParticipant conversationId _ => inferInstanceAs (Decidable (∀ row ∈ findById store conversationId, _))
  | .findConversation _ | .findUser _ | .isParticipant _ _ | .listParticipantIds _ | .listParticipants _
  | .findParticipant _ _ | .findMessage _ | .attachmentIdsFor _ | .createOrGetDirect _ _ | .createGroup _ _ _
  | .addParticipant _ _ _ | .removeConversation _ | .createMessage _ | .linkToMessage _ _ _ | .updateContent _ _
  | .softDelete _ | .upsertState _ _ _ | .markConversationRead _ _ _ | .updateLastRead _ _ _ | .broadcast _ _ _
  | .publish _ => inferInstanceAs (Decidable True)

section Exec

variable {action : Action} {now : TimePoint} {store next : Store}

theorem Action.Transacts.seated (transacts : Action.Transacts now store action next) (seated : Seated store) :
    Seated next := by
  cases organizes : action.organizes with
  | false =>
    obtain ⟨conversations, participants⟩ := transacts.rooms organizes
    simpa only [Seated, Member, Existing, conversations, participants] using seated
  | true =>
    cases transacts with
    | createOrGetDirect created => exact (createOrGetDirect_ok seated created).seated
    | createGroup created => exact (createGroup_ok seated created).seated
    | addParticipant added => exact (addParticipant_ok added).2.existing seated
    | removeParticipant conversationId userId => exact (removeParticipant_moves seated conversationId userId).seated
    | transferOwnership transferred =>
      obtain ⟨members, existing, _⟩ := transferOwnership_ok transferred
      exact fun other user member => (existing other).mpr (seated other user ((members other user).mp member))
    | removeConversation conversationId => exact (remove_moves seated conversationId).seated
    | createMessage created =>
      obtain ⟨_, rfl⟩ := createMessage_stored created
      exact fun other user member => (existing_updateWhere store _ _ _ other).mpr (seated other user member)
    | updateLastRead conversationId userId messageId =>
      exact fun other user member => seated other user ((member_updateWhere store _ _ _ other user).mp member)
    | reads other => exact absurd organizes (by simp [(Bool.or_eq_false_iff.mp other).1])
    | linkToMessage | updateContent | softDelete | upsertState | markConversationRead => cases organizes

theorem Action.Transacts.owned_iff {request : Request} {rest : Except AppException action.Returned → Plan Answer}
    (transacts : Action.Transacts now store action next) (proper : request.Proper action rest) (seated : Seated store)
    (owned : Owned store) : Owned next ↔ Safe store action := by
  cases organizes : action.organizes with
  | false =>
    obtain ⟨conversations, participants⟩ := transacts.rooms organizes
    have kept := (transmits_of_rooms conversations participants).owned owned
    cases action with
    | transferOwnership | removeParticipant => cases organizes
    | _ => exact iff_of_true kept trivial
  | true =>
    cases transacts with
    | createOrGetDirect created => exact iff_of_true ((createOrGetDirect_transmits created).owned owned) trivial
    | createGroup created => exact iff_of_true (createGroup_owned seated owned created) trivial
    | @addParticipant _ _ role _ _ added =>
      obtain ⟨rfl, _⟩ : role = .member ∧ _ := proper
      exact iff_of_true ((insertParticipant_enrolls (addParticipant_inserted added)).transmits.owned owned) trivial
    | removeParticipant conversationId userId => exact owned_removeParticipant_iff owned
    | transferOwnership transferred =>
      obtain ⟨known, rfl⟩ := transferOwnership_handOver transferred
      rw [owned_handOver_iff owned]
      simp only [Safe, isParticipant_iff]
      exact ⟨fun seated _ => seated, fun safe row found => safe (known row found) row found⟩
    | removeConversation conversationId => exact iff_of_true ((remove_transmits store conversationId).owned owned) trivial
    | createMessage created => exact iff_of_true ((createMessage_transmits created).owned owned) trivial
    | updateLastRead conversationId userId messageId =>
      exact iff_of_true ((updateLastRead_transmits store conversationId userId messageId).owned owned) trivial
    | reads other => exact absurd organizes (by simp [(Bool.or_eq_false_iff.mp other).1])
    | linkToMessage | updateContent | softDelete | upsertState | markConversationRead => cases organizes

end Exec

theorem safe_of_refused {action : Action} {backend : Backend} {error : AppException}
    (refused : action.exec backend = .error error) : Safe backend.store action := by
  cases action with
  | removeParticipant conversationId userId => cases refused
  | transferOwnership conversationId newOwnerId =>
    -- The new owner is known, so the transaction could not have been refused.
    intro known row found
    have accepted : transferOwnership backend.store backend.now conversationId newOwnerId =
        .ok (handOver backend.store backend.now conversationId newOwnerId, ()) := by
      simp [transferOwnership, checkUser, known, bind, Except.bind, pure, Except.pure]
    rw [Action.exec, Action.write, accepted] at refused
    cases refused
  | _ => trivial

def Careful (pool : Calls) (label : Calls.Label) : Prop :=
  ∀ action ∈ pool.taken label, Safe pool.state.store action

instance (pool : Calls) (label : Calls.Label) : Decidable (Careful pool label) :=
  inferInstanceAs (Decidable (∀ action ∈ pool.taken label, _))

/-- Foreign keys hold and the calls in progress are those of the services. -/
structure Orderly (pool : Calls) : Prop where
  seated : Seated pool.state.store
  proper : ∀ call ∈ pool.calls, call.script.Everywhere call.operation.Proper

theorem Orderly.step {pool next : Calls} {label : Calls.Label} (orderly : Orderly pool)
    (moves : chat.step pool label = some next) : Orderly next := by
  have effect := System.step_effect moves
  refine ⟨?_, System.everywhere_step Request.proper orderly.proper effect⟩
  cases effect with
  | acted found executed => exact (Action.exec_transacts executed).seated orderly.seated
  | _ => exact orderly.seated

theorem Orderly.run {pool final : Calls} {labels : List Calls.Label} (orderly : Orderly pool)
    (runs : chat.step.run pool labels = some final) : Orderly final :=
  Step.run_invariant Orderly (fun before moves => before.step moves) orderly runs

theorem owned_step_iff {pool next : Calls} {label : Calls.Label} (orderly : Orderly pool)
    (owned : Owned pool.state.store) (moves : chat.step pool label = some next) :
    Owned next.state.store ↔ Careful pool label := by
  cases System.step_effect moves with
  | started | moved | failed => exact iff_of_true owned fun _ taken => nomatch taken
  | acted found executed =>
    have proper := (orderly.proper _ (List.mem_of_getElem? found)).1
    simp only [Careful, Pool.taken_perform found, Option.mem_def, Option.some.injEq, forall_eq']
    exact (Action.exec_transacts executed).owned_iff proper orderly.seated owned
  | refused found executed =>
    simp only [Careful, Pool.taken_perform found, Option.mem_def, Option.some.injEq, forall_eq']
    exact iff_of_true owned (safe_of_refused executed)

/-- From a store in which every group is owned, a run of concurrent calls keeps every group owned
exactly if each of its transactions finds what it needs. -/
theorem groups_owned_iff {pool final : Calls} {labels : List Calls.Label} (idle : pool.calls = [])
    (seated : Seated pool.state.store) (owned : Owned pool.state.store)
    (runs : chat.step.run pool labels = some final) :
    chat.step.Always (fun pool => Owned pool.state.store) pool labels ↔ chat.step.Guarded Careful pool labels := by
  refine Step.always_iff_guarded Orderly (fun orderly _ moves => orderly.step moves)
    (fun orderly owned moves => owned_step_iff orderly owned moves) ⟨seated, ?_⟩ owned runs
  simp [idle]

theorem initial_owned (users : UserTable) : Owned (Calls.initial users).state.store :=
  fun _ member => absurd member Indexed.not_mem_empty

def founded : List Calls.Label :=
  .start (.conversation (.create 1 ⟨.group, some "team", [2]⟩)) :: Calls.acts 0 6

/-- The owner leaves and hands over, and nobody is in the way. -/
theorem groups_owned_iff_handover :
    chat.step.Always (fun pool => Owned pool.state.store) (Calls.initial annAndBob)
      (founded ++ .start (.conversation (.leave 1 1)) :: Calls.acts 1 7) := by
  obtain ⟨final, runs⟩ := Option.isSome_iff_exists.mp (by decide +kernel :
    (chat.step.run (Calls.initial annAndBob)
      (founded ++ .start (.conversation (.leave 1 1)) :: Calls.acts 1 7)).isSome = true)
  exact (groups_owned_iff rfl (initial_seated _) (initial_owned _) runs).mpr (by decide +kernel)

/-- Both members leave at the same time. The owner picks the other one as the successor, who
is gone when the handover is committed. -/
def bothLeave : List Calls.Label :=
  founded ++ [.start (.conversation (.leave 1 1)), .start (.conversation (.leave 2 1))] ++
    Calls.acts 1 4 ++ Calls.acts 2 5 ++ Calls.acts 1 3

/-- All calls have returned and the group is owned by a user who is not in it. -/
theorem group_without_owner :
    ∃ final, chat.step.run (Calls.initial annAndBob) bothLeave = some final ∧ final.finished = true ∧
      ¬ Owned final.state.store := by
  have runs : (chat.step.run (Calls.initial annAndBob) bothLeave).any (fun final => final.finished &&
      final.state.store.conversations.rows.any (fun row => row.isGroup && row.ownerId = some 2) &&
      final.state.store.participants.rows.isEmpty) = true := by
    decide +kernel
  obtain ⟨final, runs, left⟩ := (Option.any_eq_true _ _).mp runs
  simp only [Bool.and_eq_true, List.any_eq_true, List.isEmpty_iff] at left
  obtain ⟨⟨finished, row, member, group, _⟩, empty⟩ := left
  refine ⟨final, runs, finished, fun owned => ?_⟩
  obtain ⟨_, _, ⟨participant, listed, _⟩, _⟩ := owned row member group
  rw [← Indexed.mem_rows, empty] at listed
  cases listed

end RealtimeChat.Chat
