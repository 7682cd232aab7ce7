import RealtimeChat.Foundation.Decimal
import RealtimeChat.Foundation.Rely
import RealtimeChat.Chat.Ownership

/-! Direct conversations while calls run concurrently.

A direct conversation is told apart by the text of the two ids it is between.
No id is used twice and no conversation changes its kind, so what a call has
read about the kind of a conversation stays true while others run, and nobody
but the two users ever gets into a direct conversation.
-/

set_option autoImplicit false

namespace RealtimeChat.Chat

open Foundation Accounts ConversationRepository

theorem directKey_comm (first second : UserId) : directKey first second = directKey second first := by
  rw [directKey, directKey, min_comm, max_comm]

variable {first second userId : UserId} {row conversation : Conversation} {conversationId : ConversationId}
  {done : Unit}

theorem directKey_inj {first' second' : UserId} (same : directKey first second = directKey first' second') :
    (first' = first ∧ second' = second) ∨ (first' = second ∧ second' = first) := by
  have ordered := pair_text_inj.mp same
  simp only [UserId] at *
  omega

structure Between (row : Conversation) (first second : UserId) : Prop where
  direct : row.type = .direct
  distinct : first ≠ second
  keyed : row.directKey = some (directKey first second)

theorem Between.symm (between : Between row first second) : Between row second first :=
  ⟨between.direct, between.distinct.symm, directKey_comm first second ▸ between.keyed⟩

/-- Each direct conversation is between two users and holds no one else. -/
def Paired (store : Store) : Prop :=
  ∀ row ∈ store.conversations, row.type = .direct → ∃ first second, Between row first second ∧
    ∀ userId, Member store row.id userId → userId = first ∨ userId = second

/-- A conversation there is was there before, of the same kind, or has an id not used before. -/
structure Grows (store next : Store) : Prop where
  sequence : store.conversations.next ≤ next.conversations.next
  rows : ∀ row ∈ next.conversations, store.conversations.next ≤ row.id ∨
    ∃ old ∈ store.conversations, old.id = row.id ∧ old.type = row.type

namespace Grows

variable {store between next : Store}

theorem refl (store : Store) : Grows store store :=
  ⟨le_refl _, fun row member => Or.inr ⟨row, member, rfl, rfl⟩⟩

theorem trans (first : Grows store between) (second : Grows between next) : Grows store next := by
  refine ⟨le_trans first.sequence second.sequence, fun row member => ?_⟩
  rcases second.rows row member with fresh | ⟨middle, middleMember, sameId, sameType⟩
  · exact Or.inl (le_trans first.sequence fresh)
  · rw [← sameId, ← sameType]
    exact first.rows middle middleMember

end Grows

structure Grouped (store : Store) (conversationId : ConversationId) : Prop where
  used : conversationId < store.conversations.next
  group : ∀ row ∈ store.conversations, row.id = conversationId → row.type ≠ .direct

theorem Grouped.grow {store next : Store} (grouped : Grouped store conversationId) (grows : Grows store next) :
    Grouped next conversationId := by
  refine ⟨lt_of_lt_of_le grouped.used grows.sequence, fun row member same => ?_⟩
  rcases grows.rows row member with fresh | ⟨old, oldMember, sameId, sameType⟩
  · exact absurd grouped.used (not_lt.mpr (same ▸ fresh))
  · exact sameType ▸ grouped.group old oldMember (sameId.trans same)

structure Settles (store next : Store) : Prop where
  rows : ∀ row ∈ next.conversations, row.type = .direct →
    ∃ old ∈ store.conversations, old.id = row.id ∧ old.type = row.type ∧ old.directKey = row.directKey
  members : ∀ row ∈ next.conversations, row.type = .direct → ∀ userId,
    Member next row.id userId → Member store row.id userId

theorem Settles.paired {store next : Store} (settles : Settles store next) (paired : Paired store) : Paired next := by
  intro row member direct
  obtain ⟨old, oldMember, sameId, sameType, sameKey⟩ := settles.rows row member direct
  obtain ⟨first, second, between, members⟩ := paired old oldMember (sameType.trans direct)
  refine ⟨first, second, ⟨direct, between.distinct, sameKey ▸ between.keyed⟩, fun userId seated => ?_⟩
  exact members userId (sameId ▸ settles.members row member direct userId seated)

section Transactions

variable {store next : Store} {now : TimePoint}

theorem mem_upsertDirect {key : String} (member : row ∈ (upsertDirect store now key).1.conversations) :
    (∃ old ∈ store.conversations, row = old ∨ row = old.touch now) ∨
      (row = directRow now key store.conversations.next ∧ store.conversations.lookup key = none) := by
  unfold upsertDirect at member
  cases found : store.conversations.lookup key with
  | some holder =>
    rw [Indexed.upsert_of_some found] at member
    obtain ⟨old, oldMember, rfl⟩ := Serial.mem_updateWhere.mp member
    refine Or.inl ⟨old, oldMember, ?_⟩
    split
    · exact Or.inr rfl
    · exact Or.inl rfl
  | none =>
    rw [Indexed.mem_iff, (Indexed.upsert_of_none found).1, Serial.mem_append] at member
    exact member.elim (fun old => Or.inl ⟨row, old, Or.inl rfl⟩) fun new => Or.inr ⟨new, rfl⟩

theorem upsertDirect_grows (store : Store) (now : TimePoint) (first second : UserId) :
    Grows store (upsertDirect store now (directKey first second)).1 := by
  refine ⟨(opens_upsertDirect store now first second).2.grown, fun row member => ?_⟩
  rcases mem_upsertDirect member with ⟨old, oldMember, rfl | rfl⟩ | ⟨rfl, _⟩
  · exact Or.inr ⟨row, oldMember, rfl, rfl⟩
  · exact Or.inr ⟨old, oldMember, rfl, rfl⟩
  · exact Or.inl (le_refl _)

theorem Grows.of_conversations (same : next.conversations = store.conversations) : Grows store next := by
  refine ⟨le_of_eq (congrArg Indexed.next same).symm, fun row member => Or.inr ⟨row, same ▸ member, rfl, rfl⟩⟩

theorem directConversation_keyed (member : row ∈ store.conversations)
    (same : row.id = directConversation store first second) : row.directKey = some (directKey first second) := by
  unfold directConversation at same
  cases found : store.conversations.lookup (directKey first second) with
  | none =>
    rw [found] at same
    exact absurd (same ▸ Indexed.lt_next member) (lt_irrefl _)
  | some holder =>
    rw [found] at same
    obtain ⟨holds, keyed⟩ := Indexed.lookup_eq_some found
    rw [Table.eq_of_key member holds same]
    exact keyed

theorem createOrGetDirect_steps (created : createOrGetDirect store now first second = .ok (next, conversation)) :
    upsertDirect store now (directKey first second) =
        ((upsertDirect store now (directKey first second)).1, conversation) ∧
      Joins (upsertDirect store now (directKey first second)).1 next conversation.id
        fun userId => userId = first ∨ userId = second := by
  obtain ⟨rfl, between, firstSeat, secondSeat⟩ := createOrGetDirect_seats created
  exact ⟨rfl, (seat_ok firstSeat).trans (seat_ok secondSeat)⟩

theorem createOrGetDirect_grows (created : createOrGetDirect store now first second = .ok (next, conversation)) :
    Grows store next :=
  (upsertDirect_grows store now first second).trans
    (Grows.of_conversations (createOrGetDirect_steps created).2.conversations)

theorem createOrGetDirect_paired (seated : Seated store) (paired : Paired store) (distinct : first ≠ second)
    (created : createOrGetDirect store now first second = .ok (next, conversation)) : Paired next := by
  obtain ⟨upserted, joins⟩ := createOrGetDirect_steps created
  obtain ⟨sameId, opens⟩ := opens_upsertDirect store now first second
  rw [upserted] at sameId
  have members (other : ConversationId) (userId : UserId) : Member next other userId ↔
      Member store other userId ∨ (other = conversation.id ∧ (userId = first ∨ userId = second)) := by
    rw [joins.members, opens.members]
  intro row member direct
  rw [joins.conversations] at member
  rcases mem_upsertDirect member with ⟨old, oldMember, touched⟩ | ⟨rfl, absent⟩
  · -- An old conversation. If it is the one that is joined, its key is that of the two users.
    obtain ⟨sameRow, sameType, sameKey⟩ : row.id = old.id ∧ row.type = old.type ∧ row.directKey = old.directKey := by
      rcases touched with rfl | rfl <;> exact ⟨rfl, rfl, rfl⟩
    obtain ⟨one, two, between, pair⟩ := paired old oldMember (sameType ▸ direct)
    refine ⟨one, two, ⟨direct, between.distinct, sameKey.trans between.keyed⟩, fun userId seat => ?_⟩
    rw [sameRow] at seat
    rcases (members old.id userId).mp seat with before | ⟨joined, either⟩
    · exact pair userId before
    · have keyed := directConversation_keyed oldMember (joined.trans sameId)
      rcases directKey_inj (Option.some.inj (keyed.symm.trans between.keyed)) with ⟨rfl, rfl⟩ | ⟨rfl, rfl⟩
      · exact either
      · exact either.symm
  · -- Nobody is in a conversation that is only being made.
    refine ⟨first, second, ⟨rfl, distinct, rfl⟩, fun userId seat => ?_⟩
    rcases (members _ userId).mp seat with before | ⟨_, either⟩
    · exact absurd (seated _ _ before).lt_next (lt_irrefl _)
    · exact either

/-- Conversations are changed in other columns than the id, the type and the key, and nobody joins. -/
theorem grows_settles_of_rows (sequence : next.conversations.next = store.conversations.next)
    (rows : ∀ row ∈ next.conversations, ∃ old ∈ store.conversations,
      old.id = row.id ∧ old.type = row.type ∧ old.directKey = row.directKey)
    (members : ∀ other userId, Member next other userId → Member store other userId) :
    Grows store next ∧ Settles store next := by
  refine ⟨⟨le_of_eq sequence.symm, fun row member => ?_⟩, ⟨fun row member _ => rows row member,
    fun row _ _ userId => members row.id userId⟩⟩
  obtain ⟨old, oldMember, sameId, sameType, _⟩ := rows row member
  exact Or.inr ⟨old, oldMember, sameId, sameType⟩

theorem createGroup_grows_settles {ownerId : UserId} {name : String} {memberIds : List UserId}
    (created : createGroup store now ownerId name memberIds = .ok (next, conversation)) :
    Grows store next ∧ Settles store next := by
  obtain ⟨_, between, owner, members⟩ := createGroup_seats created
  have joins := (addParticipant_ok owner).2.trans (seats_ok members)
  have rows (row : Conversation) : row ∈ next.conversations ↔ row ∈ store.conversations ∨
      row = groupRow now ownerId name store.conversations.next := by
    rw [joins.conversations, Indexed.mem_append]
  refine ⟨⟨?_, fun row member => ?_⟩, ⟨fun row member direct => ?_, fun row member direct userId seat => ?_⟩⟩
  · rw [joins.conversations]
    exact Serial.next_le_next (Nat.le_succ _)
  · rcases (rows row).mp member with old | rfl
    · exact Or.inr ⟨row, old, rfl, rfl⟩
    · exact Or.inl (le_refl _)
  · rcases (rows row).mp member with old | rfl
    · exact ⟨row, old, rfl, rfl, rfl⟩
    · cases direct
  · rcases (joins.members row.id userId).mp seat with before | ⟨new, _⟩
    · exact before
    · -- Only the new conversation is joined, and it is a group.
      rcases (rows row).mp member with old | rfl
      · exact absurd (Indexed.lt_next old) (new ▸ lt_irrefl _)
      · cases direct

theorem addParticipant_grows {role : ParticipantRole}
    (added : addParticipant store now conversationId userId role = .ok (next, done)) : Grows store next :=
  Grows.of_conversations (addParticipant_ok added).2.conversations

theorem addParticipant_settles {role : ParticipantRole} (grouped : Grouped store conversationId)
    (added : addParticipant store now conversationId userId role = .ok (next, done)) : Settles store next := by
  have joins := (addParticipant_ok added).2
  refine ⟨fun row member _ => ⟨row, joins.conversations ▸ member, rfl, rfl, rfl⟩, fun row member direct user seat => ?_⟩
  rcases (joins.members row.id user).mp seat with before | ⟨joined, _⟩
  · exact before
  · exact absurd direct (grouped.group row (joins.conversations ▸ member) joined)

theorem remove_grows_settles (store : Store) (conversationId : ConversationId) :
    Grows store (ConversationRepository.remove store conversationId) ∧
      Settles store (ConversationRepository.remove store conversationId) := by
  unfold ConversationRepository.remove
  split
  · refine grows_settles_of_rows rfl (fun row member => ?_) fun other userId seat => ?_
    · exact ⟨row, (Indexed.mem_deleteWhere.mp member).1, rfl, rfl, rfl⟩
    · obtain ⟨participant, listed, same⟩ := seat
      exact ⟨participant, (Indexed.mem_deleteWhere.mp listed).1, same⟩
  · exact grows_settles_of_rows rfl (fun row member => ⟨row, member, rfl, rfl, rfl⟩) fun _ _ => id

end Transactions

/-- What calls rely on and keep: conversations keep their kind, and the direct ones stay paired. -/
structure Within (backend next : Backend) : Prop where
  grows : Grows backend.store next.store
  sound : Seated backend.store ∧ Paired backend.store → Seated next.store ∧ Paired next.store

theorem Within.refl (backend : Backend) : Within backend backend := ⟨.refl _, id⟩

theorem Within.trans {first second third : Backend} (one : Within first second) (two : Within second third) :
    Within first third :=
  ⟨one.grows.trans two.grows, two.sound ∘ one.sound⟩

section Exec

variable {action : Action} {backend after : Backend} {value : action.Returned}

/-- A transaction keeps the kinds and the pairs, given that a direct conversation is between two
users and that a participant is added to a group. -/
theorem Action.Transacts.grows_paired {now : TimePoint} {store next : Store}
    (transacts : Action.Transacts now store action next)
    (distinct : ∀ first second, action = .createOrGetDirect first second → first ≠ second)
    (grouped : ∀ conversationId userId role, action = .addParticipant conversationId userId role →
      Grouped store conversationId) : Grows store next ∧ (Seated store → Paired store → Paired next) := by
  have settled : Grows store next ∧ Settles store next →
      Grows store next ∧ (Seated store → Paired store → Paired next) :=
    fun settles => ⟨settles.1, fun _ => settles.2.paired⟩
  cases organizes : action.organizes with
  | false =>
    obtain ⟨conversations, participants⟩ := transacts.rooms organizes
    refine settled (grows_settles_of_rows (by rw [conversations]) (fun row member => ?_) ?_)
    · exact ⟨row, conversations ▸ member, rfl, rfl, rfl⟩
    · simp [Member, participants]
  | true =>
    cases transacts with
    | createOrGetDirect created =>
      exact ⟨createOrGetDirect_grows created,
        fun seated paired => createOrGetDirect_paired seated paired (distinct _ _ rfl) created⟩
    | createGroup created => exact settled (createGroup_grows_settles created)
    | addParticipant added =>
      exact settled ⟨addParticipant_grows added, addParticipant_settles (grouped _ _ _ rfl) added⟩
    | removeParticipant conversationId userId =>
      refine settled (grows_settles_of_rows rfl (fun row member => ⟨row, member, rfl, rfl, rfl⟩) fun _ _ seat => ?_)
      exact ((member_removeParticipant _ _).mp seat).1
    | transferOwnership transferred =>
      obtain ⟨_, rfl⟩ := transferOwnership_handOver transferred
      refine settled (grows_settles_of_rows rfl (fun row member => ?_) fun other user => (member_handOver other user).mp)
      obtain ⟨old, oldMember, rfl⟩ := Serial.mem_updateWhere.mp member
      refine ⟨old, oldMember, ?_⟩
      split <;> exact ⟨rfl, rfl, rfl⟩
    | removeConversation conversationId => exact settled (remove_grows_settles store conversationId)
    | createMessage created =>
      obtain ⟨_, rfl⟩ := createMessage_stored created
      refine settled (grows_settles_of_rows rfl (fun row member => ?_) fun _ _ => id)
      obtain ⟨old, oldMember, rfl⟩ := Serial.mem_updateWhere.mp member
      refine ⟨old, oldMember, ?_⟩
      split <;> exact ⟨rfl, rfl, rfl⟩
    | updateLastRead conversationId userId messageId =>
      refine settled (grows_settles_of_rows rfl (fun row member => ⟨row, member, rfl, rfl, rfl⟩) fun other user => ?_)
      exact Iff.mp (member_updateWhere store _ _ _ other user)
    | reads other => exact absurd organizes (by simp [(Bool.or_eq_false_iff.mp other).1])
    | linkToMessage | updateContent | softDelete | upsertState | markConversationRead => cases organizes

theorem exec_within (executed : action.exec backend = .ok (after, value))
    (distinct : ∀ first second, action = .createOrGetDirect first second → first ≠ second)
    (grouped : ∀ conversationId userId role, action = .addParticipant conversationId userId role →
      Grouped backend.store conversationId) : Within backend after := by
  have transacts := Action.exec_transacts executed
  obtain ⟨grows, paired⟩ := transacts.grows_paired distinct grouped
  exact ⟨grows, fun sound => ⟨transacts.seated sound.1, paired sound.1 sound.2⟩⟩

theorem exec_quiet (executed : action.exec backend = .ok (after, value)) (quiet : action.organizes = false) :
    Within backend after := by
  refine exec_within executed ?_ ?_
  · rintro first second rfl
    cases quiet
  · rintro conversationId userId role rfl
    cases quiet

end Exec

section Rely

open Script ConversationPlan

variable {seen : Backend}

theorem meets_requireConversation {post : Conversation → Backend → Prop}
    (found : ∀ state conversation, Within seen state → findById state.store conversationId = some conversation →
      post conversation state) : (requireConversation conversationId).Meets Action.exec Within post seen := by
  refine meets_bind (meets_act (fun state after value within executed => ?_) fun _ _ _ => trivial)
  cases executed
  refine ⟨.refl _, meets_done ?_⟩
  dsimp only
  cases row : findById state.store conversationId with
  | none => trivial
  | some conversation => exact found state conversation within row

theorem meets_requireUserExists {post : Unit → Backend → Prop} (holds : ∀ state, Within seen state → post () state) :
    (requireUserExists userId).Meets Action.exec Within post seen := by
  refine meets_bind (meets_act (fun state after value within executed => ?_) fun _ _ _ => trivial)
  cases executed
  refine ⟨.refl _, meets_done ?_⟩
  dsimp only
  split
  · trivial
  · exact holds state within

theorem checkOwner_eq_ok (owner : ConversationService.checkOwner conversation userId = .ok done) :
    conversation.isGroup = true := by
  unfold ConversationService.checkOwner at owner
  split at owner
  · cases owner
  · next group => simpa using group

theorem grouped_of_found {store : Store} (found : findById store conversationId = some conversation)
    (group : conversation.isGroup = true) : Grouped store conversationId := by
  obtain ⟨member, rfl⟩ := Indexed.find_eq_some.mp found
  refine ⟨Indexed.lt_next member, fun row listed same => ?_⟩
  rw [Table.eq_of_key listed member same]
  have kind : conversation.type = .group := by simpa [Conversation.isGroup] using group
  simp [kind]

theorem meets_quiet {A : Type} {plan : Plan A} (quiet : plan.Everywhere fun action _ => action.organizes = false) :
    plan.Meets Action.exec Within (fun _ _ => True) seen := by
  refine meets_of_everywhere ?_ quiet
  intro _ _ _ _ _ unwritten executed
  exact exec_quiet executed unwritten

theorem meets_addMember (actorId : UserId) (conversationId : ConversationId) (userId : UserId) :
    (chat.body (.conversation (.addMember actorId conversationId userId))).Meets Action.exec Within
      (fun _ _ => True) seen := by
  refine meets_bind (meets_bind (meets_requireConversation fun state conversation _ found => ?_))
  refine meets_bind (meets_require fun _ owner => ?_)
  have grouped := grouped_of_found found (checkOwner_eq_ok owner)
  -- What was read of the conversation is still true when the member is added.
  refine meets_bind (meets_requireUserExists fun between within => ?_)
  refine meets_bind (meets_act (fun current after value later executed => ?_) fun _ _ _ => trivial)
  have still := (grouped.grow within.grows).grow later.grows
  refine ⟨exec_within executed nofun ?_, meets_done ?_⟩
  · rintro _ _ _ ⟨⟩
    exact still
  · -- The rest reads the new participant and announces it.
    refine Meets.mono (meets_quiet ?_) fun _ _ _ => trivial
    refine everywhere_perform rfl fun found => ?_
    cases found with
    | none => trivial
    | some participant =>
      refine everywhere_perform rfl fun _ => ?_
      refine everywhere_perform rfl fun _ => ?_
      exact everywhere_perform rfl fun _ => trivial

theorem Request.meets (request : Request) :
    (chat.body request).Meets Action.exec Within (fun _ _ => True) seen := by
  by_cases adds : ∃ actorId conversationId userId,
      request = .conversation (.addMember actorId conversationId userId)
  · obtain ⟨actorId, conversationId, userId, rfl⟩ := adds
    exact meets_addMember actorId conversationId userId
  · refine meets_of_everywhere (fun action next state after value proper executed => ?_) request.proper
    refine exec_within executed ?_ ?_
    · rintro first second rfl
      exact proper.1
    · rintro conversationId userId role rfl
      obtain ⟨_, actorId, same⟩ := proper
      exact absurd ⟨actorId, conversationId, userId, same⟩ adds

theorem chat_within : Rely chat Within fun _ _ _ => True where
  refl := .refl
  trans := .trans
  moves _ _ := ⟨.refl _, id⟩
  bodies request _ := request.meets

end Rely

end RealtimeChat.Chat
