import RealtimeChat.Chat.Writes

/-! What the operations on conversations do to membership.

`Member` is what the repository answers to `isParticipant`. Each repository
function is described by the memberships and the conversations it leaves, and
each service call by the users it moves into or out of a conversation.
-/

set_option autoImplicit false

namespace RealtimeChat.Chat

open Foundation Accounts ConversationRepository

def Member (store : Store) (conversationId : ConversationId) (userId : UserId) : Prop :=
  ∃ row ∈ store.participants, row.conversationId = conversationId ∧ row.userId = userId

def Existing (store : Store) (conversationId : ConversationId) : Prop :=
  ∃ row ∈ store.conversations, row.id = conversationId

/-- The foreign key of `conversation_participants`. -/
def Seated (store : Store) : Prop :=
  ∀ conversationId userId, Member store conversationId userId → Existing store conversationId

variable {store next between : Store} {conversationId : ConversationId} {userId first second ownerId actorId : UserId}
  {now : TimePoint} {role : ParticipantRole} {userIds memberIds : List UserId} {conversation : Conversation}
  {name : String} (other : ConversationId)

theorem isParticipant_iff : isParticipant store conversationId userId = true ↔ Member store conversationId userId := by
  simp [isParticipant, Member, Indexed.mem_rows]

theorem findById_isSome : (findById store conversationId).isSome = true ↔ Existing store conversationId := by
  simp [Option.isSome_iff_exists, findById, Indexed.find_eq_some, Existing]

theorem mem_listParticipantIds :
    userId ∈ listParticipantIds store conversationId ↔ Member store conversationId userId := by
  simp [listParticipantIds, Member, Indexed.mem_rows, and_assoc]

theorem mem_listConversationIds :
    conversationId ∈ listConversationIds store userId ↔ Member store conversationId userId := by
  simp [listConversationIds, Member, Indexed.mem_rows, and_assoc, and_comm]

theorem mem_listParticipants {row : Participant} :
    row ∈ listParticipants store conversationId ↔
      row ∈ store.participants ∧ row.conversationId = conversationId := by
  simp [listParticipants, Indexed.mem_rows]

theorem Existing.lt_next (existing : Existing store conversationId) : conversationId < store.conversations.next := by
  obtain ⟨row, member, rfl⟩ := existing
  exact Indexed.lt_next member

structure Joins (store next : Store) (conversationId : ConversationId) (joining : UserId → Prop) : Prop where
  conversations : next.conversations = store.conversations
  members : ∀ other userId, Member next other userId ↔
    Member store other userId ∨ (other = conversationId ∧ joining userId)
  existing : Seated store → Seated next

theorem insertParticipant_eq_none :
    insertParticipant store now conversationId userId role = none ↔ Member store conversationId userId := by
  rw [insertParticipant, Option.map_eq_none_iff, Indexed.insert_eq_none]
  simp [Participant.seat, Member]

theorem checkConversation_eq_ok {table : String} :
    checkConversation store table conversationId = .ok () ↔ Existing store conversationId := by
  rw [← findById_isSome, checkConversation, findById]
  split <;> simp_all

theorem insertParticipant_ok (inserted : insertParticipant store now conversationId userId role = some (.ok next)) :
    Joins store next conversationId fun user => user = userId := by
  obtain ⟨known, participants, accepted, rfl⟩ := insertParticipant_inserted inserted
  have members (other : ConversationId) (user : UserId) :
      Member { store with participants := participants } other user ↔
        Member store other user ∨ (other = conversationId ∧ user = userId) := by
    simp only [Member, Indexed.mem_insert accepted]
    constructor
    · rintro ⟨row, old | rfl, same, sameUser⟩
      · exact Or.inl ⟨row, old, same, sameUser⟩
      · exact Or.inr ⟨same.symm, sameUser.symm⟩
    · rintro (⟨row, old, same, sameUser⟩ | ⟨rfl, rfl⟩)
      · exact ⟨row, Or.inl old, same, sameUser⟩
      · exact ⟨_, Or.inr rfl, rfl, rfl⟩
  refine ⟨rfl, members, fun seated other user member => ?_⟩
  rcases (members other user).mp member with old | ⟨rfl, _⟩
  · exact seated other user old
  · exact checkConversation_eq_ok.mp known

theorem addParticipant_ok {done : Unit}
    (added : addParticipant store now conversationId userId role = .ok (next, done)) :
    ¬ Member store conversationId userId ∧ Joins store next conversationId fun user => user = userId := by
  have inserted := addParticipant_inserted added
  refine ⟨fun member => ?_, insertParticipant_ok inserted⟩
  rw [insertParticipant_eq_none.mpr member] at inserted
  cases inserted

theorem seat_ok (seats : seat now conversationId role store userId = .ok next) :
    Joins store next conversationId fun user => user = userId := by
  rcases seat_inserted seats with ⟨taken, rfl⟩ | inserted
  · refine ⟨rfl, fun other user => (or_iff_left_of_imp ?_).symm, id⟩
    rintro ⟨rfl, rfl⟩
    exact insertParticipant_eq_none.mp taken
  · exact insertParticipant_ok inserted

theorem Joins.refl (store : Store) (conversationId : ConversationId) :
    Joins store store conversationId fun _ => False :=
  ⟨rfl, fun _ _ => by simp, id⟩

theorem Joins.trans {first second : UserId → Prop} (joins : Joins store between conversationId first)
    (more : Joins between next conversationId second) :
    Joins store next conversationId fun user => first user ∨ second user := by
  refine ⟨more.conversations.trans joins.conversations, fun other user => ?_, more.existing ∘ joins.existing⟩
  rw [more.members, joins.members, or_assoc, ← and_or_left]

theorem seats_ok (seats : userIds.foldlM (seat now conversationId role) store = .ok next) :
    Joins store next conversationId fun user => user ∈ userIds := by
  induction userIds generalizing store with
  | nil =>
    obtain rfl : store = next := by simpa [pure, Except.pure] using seats
    simpa using Joins.refl store conversationId
  | cons userId userIds ih =>
    rw [List.foldlM_cons] at seats
    obtain ⟨between, first, rest⟩ := bind_eq_ok.mp seats
    simpa using (seat_ok first).trans (ih rest)

/-- The users whose membership changes in a conversation that is there afterwards. -/
structure Moves (store next : Store) (moved : UserId → Prop) : Prop where
  kept : ∀ conversationId userId, Existing next conversationId → ¬ moved userId →
    (Member next conversationId userId ↔ Member store conversationId userId)
  moved : ∀ userId, moved userId → ∃ conversationId, Existing next conversationId ∧
    ¬ (Member next conversationId userId ↔ Member store conversationId userId)
  seated : Seated next
  grown : store.conversations.next ≤ next.conversations.next
  fresh : ∀ conversationId, Existing next conversationId → ¬ Existing store conversationId →
    store.conversations.next ≤ conversationId

theorem Moves.congr {moved same : UserId → Prop} (moves : Moves store next moved)
    (iff : ∀ userId, moved userId ↔ same userId) : Moves store next same := by
  obtain rfl : moved = same := funext fun userId => propext (iff userId)
  exact moves

/-- The same memberships and conversations, and perhaps one conversation more. -/
structure Opens (store next : Store) (conversationId : ConversationId) : Prop where
  members : ∀ other userId, Member next other userId ↔ Member store other userId
  existing : ∀ other, Existing next other ↔ Existing store other ∨ other = conversationId
  grown : store.conversations.next ≤ next.conversations.next
  fresh : ¬ Existing store conversationId → store.conversations.next ≤ conversationId

theorem Opens.seated (opens : Opens store next conversationId) (seated : Seated store) : Seated next := by
  intro other userId member
  rw [opens.existing]
  exact Or.inl (seated other userId ((opens.members other userId).mp member))

theorem Opens.moves {joining : UserId → Prop} (opens : Opens store between conversationId)
    (joins : Joins between next conversationId joining) (seated : Seated store) :
    Moves store next fun userId => joining userId ∧ ¬ Member store conversationId userId := by
  have existing (other : ConversationId) : Existing next other ↔ Existing store other ∨ other = conversationId := by
    rw [← opens.existing, Existing, Existing, joins.conversations]
  -- Opening adds no member: the members afterwards are the old ones and those who join.
  have members (other : ConversationId) (userId : UserId) : Member next other userId ↔
      Member store other userId ∨ (other = conversationId ∧ joining userId) := by
    rw [joins.members, opens.members]
  refine ⟨fun other userId _ stays => ?_, fun userId moves => ?_, joins.existing (opens.seated seated), ?_, ?_⟩
  · rw [members]
    constructor
    · rintro (old | ⟨rfl, joined⟩)
      · exact old
      · exact not_not.mp (not_and.mp stays joined)
    · exact Or.inl
  · refine ⟨conversationId, (existing _).mpr (Or.inr rfl), fun same => moves.2 (same.mp ?_)⟩
    exact (members _ _).mpr (Or.inr ⟨rfl, moves.1⟩)
  · rw [joins.conversations]
    exact opens.grown
  · intro other there notBefore
    rcases (existing other).mp there with old | rfl
    · exact absurd old notBefore
    · exact opens.fresh notBefore

theorem Opens.refl (existing : Existing store conversationId) : Opens store store conversationId := by
  refine ⟨fun _ _ => Iff.rfl, fun other => (or_iff_left_of_imp ?_).symm, le_refl _, fun absent => absurd existing absent⟩
  rintro rfl
  exact existing

/-- The conversation a direct key stands for: the one that has it, or the next one. -/
def directConversation (store : Store) (first second : UserId) : ConversationId :=
  ((store.conversations.lookup (directKey first second)).map Conversation.id).getD store.conversations.next

theorem opens_append {build : Int → Conversation} (keyed : ∀ id, (build id).id = id)
    {conversations : Indexed Conversation.id Conversation.directKey}
    (appended : conversations.serial = store.conversations.serial.append build keyed) :
    Opens store { store with conversations := conversations } store.conversations.next := by
  refine ⟨fun _ _ => Iff.rfl, fun other => ?_, ?_, fun _ => le_refl _⟩
  · simp only [Existing, Indexed.mem_iff, appended, Serial.mem_append]
    constructor
    · rintro ⟨row, old | rfl, same⟩
      · exact Or.inl ⟨row, old, same⟩
      · exact Or.inr (same.symm.trans (keyed _))
    · rintro (⟨row, old, same⟩ | rfl)
      · exact ⟨row, Or.inl old, same⟩
      · exact ⟨_, Or.inr rfl, keyed _⟩
  · change store.conversations.serial.next ≤ conversations.serial.next
    rw [appended]
    exact Serial.next_le_next (Nat.le_succ _)

theorem existing_updateWhere (store : Store) (matching : Conversation → Bool) {change : Conversation → Conversation}
    (keeps : ∀ row, (change row).id = row.id) (keepsIndex : ∀ row, (change row).directKey = row.directKey)
    (conversationId : ConversationId) :
    Existing { store with
      conversations := store.conversations.updateWhere matching change keeps keepsIndex } conversationId ↔
      Existing store conversationId := by
  simp only [Existing, Indexed.mem_updateWhere]
  constructor
  · rintro ⟨_, ⟨old, member, rfl⟩, rfl⟩
    refine ⟨old, member, ?_⟩
    split
    · exact (keeps old).symm
    · rfl
  · rintro ⟨old, member, rfl⟩
    refine ⟨_, ⟨old, member, rfl⟩, ?_⟩
    split
    · exact keeps old
    · rfl

theorem opens_upsertDirect (store : Store) (now : TimePoint) (first second : UserId) :
    (upsertDirect store now (directKey first second)).2.id = directConversation store first second ∧
      Opens store (upsertDirect store now (directKey first second)).1 (directConversation store first second) := by
  unfold upsertDirect directConversation
  cases found : store.conversations.lookup (directKey first second) with
  | none =>
    obtain ⟨appended, row⟩ := Indexed.upsert_of_none found
    exact ⟨congrArg Conversation.id row, opens_append (directRow_id now (directKey first second)) appended⟩
  | some row =>
    rw [Indexed.upsert_of_some found]
    have same : Opens store store row.id := Opens.refl ⟨row, (Indexed.lookup_eq_some found).1, rfl⟩
    exact ⟨rfl, same.members, fun other => (existing_updateWhere ..).trans (same.existing other), same.grown, same.fresh⟩

theorem createOrGetDirect_opens (created : createOrGetDirect store now first second = .ok (next, conversation)) :
    conversation.id = directConversation store first second ∧ ∃ between, Opens store between conversation.id ∧
      Joins between next conversation.id fun userId => userId = first ∨ userId = second := by
  obtain ⟨sameId, opens⟩ := opens_upsertDirect store now first second
  obtain ⟨rfl, between, firstSeat, secondSeat⟩ := createOrGetDirect_seats created
  exact ⟨sameId, _, sameId ▸ opens, (seat_ok firstSeat).trans (seat_ok secondSeat)⟩

theorem createGroup_opens (created : createGroup store now ownerId name memberIds = .ok (next, conversation)) :
    conversation.id = store.conversations.next ∧ ∃ between, Opens store between conversation.id ∧
      Joins between next conversation.id fun userId =>
        userId = ownerId ∨ userId ∈ memberIds.filter (· ≠ ownerId) := by
  obtain ⟨rfl, between, owner, members⟩ := createGroup_seats created
  exact ⟨rfl, _, opens_append (groupRow_id now ownerId name) rfl, (addParticipant_ok owner).2.trans (seats_ok members)⟩

theorem createOrGetDirect_ok (seated : Seated store)
    (created : createOrGetDirect store now first second = .ok (next, conversation)) :
    Moves store next fun userId => (userId = first ∨ userId = second) ∧
      ¬ Member store (directConversation store first second) userId := by
  obtain ⟨sameId, between, opens, joins⟩ := createOrGetDirect_opens created
  rw [← sameId]
  exact opens.moves joins seated

theorem createGroup_ok (seated : Seated store)
    (created : createGroup store now ownerId name memberIds = .ok (next, conversation)) :
    Moves store next fun userId => userId = ownerId ∨ userId ∈ memberIds := by
  obtain ⟨sameId, between, opens, joins⟩ := createGroup_opens created
  -- nobody is in a conversation that did not exist
  have empty (userId : UserId) : ¬ Member store conversation.id userId := fun member =>
    absurd (seated _ _ member).lt_next (sameId ▸ lt_irrefl _)
  refine (opens.moves joins seated).congr fun userId => ?_
  by_cases owns : userId = ownerId <;> simp [owns, empty]

theorem member_removeParticipant (user : UserId) :
    Member (removeParticipant store conversationId userId) other user ↔
      Member store other user ∧ ¬ (other = conversationId ∧ user = userId) := by
  refine Indexed.exists_mem_deleteWhere ?_
  rintro row ⟨rfl, rfl⟩
  simp

theorem removeParticipant_moves (seated : Seated store) (conversationId : ConversationId) (userId : UserId) :
    Moves store (removeParticipant store conversationId userId) fun user =>
      user = userId ∧ Member store conversationId userId := by
  have members := @member_removeParticipant store conversationId
  refine ⟨fun other user _ stays => ?_, fun user moves => ?_, fun other user member => ?_, le_refl _, ?_⟩
  · rw [members]
    refine ⟨And.left, fun member => ⟨member, ?_⟩⟩
    rintro ⟨rfl, rfl⟩
    exact stays ⟨rfl, member⟩
  · obtain ⟨rfl, member⟩ := moves
    refine ⟨conversationId, seated _ _ member, fun same => ?_⟩
    exact ((members _ _).mp (same.mpr member)).2 ⟨rfl, rfl⟩
  · exact seated other user ((members other user).mp member).1
  · exact fun _ existing absent => absurd existing absent

theorem existing_remove (store : Store) (conversationId other : ConversationId) :
    Existing (ConversationRepository.remove store conversationId) other ↔
      Existing store other ∧ other ≠ conversationId := by
  unfold ConversationRepository.remove
  split
  · refine Indexed.exists_mem_deleteWhere ?_
    rintro row rfl
    simp
  · next absent =>
    refine ⟨fun existing => ⟨existing, ?_⟩, And.left⟩
    rintro rfl
    exact absent (findById_isSome.mpr existing)

theorem member_remove (seated : Seated store) (conversationId other : ConversationId) (userId : UserId) :
    Member (ConversationRepository.remove store conversationId) other userId ↔
      Member store other userId ∧ other ≠ conversationId := by
  unfold ConversationRepository.remove
  split
  · refine Indexed.exists_mem_deleteWhere ?_
    rintro row ⟨rfl, rfl⟩
    simp
  · next absent =>
    refine ⟨fun member => ⟨member, ?_⟩, And.left⟩
    rintro rfl
    exact absent (findById_isSome.mpr (seated _ _ member))

theorem next_remove (store : Store) (conversationId : ConversationId) :
    (ConversationRepository.remove store conversationId).conversations.next = store.conversations.next := by
  unfold ConversationRepository.remove
  split <;> rfl

theorem remove_moves (seated : Seated store) (conversationId : ConversationId) :
    Moves store (ConversationRepository.remove store conversationId) fun _ => False := by
  refine ⟨fun other user there _ => ?_, fun _ moves => moves.elim, fun other user member => ?_, ?_, ?_⟩
  · rw [member_remove seated]
    exact and_iff_left ((existing_remove ..).mp there).2
  · obtain ⟨member, remains⟩ := (member_remove seated ..).mp member
    exact (existing_remove ..).mpr ⟨seated other user member, remains⟩
  · exact (next_remove store conversationId).ge
  · exact fun other there absent => absurd ((existing_remove ..).mp there).1 absent

theorem member_updateWhere (store : Store) (matching : Participant → Bool) {change : Participant → Participant}
    (keeps : ∀ row, (change row).id = row.id) (keepsSeat : ∀ row, (change row).seat = row.seat)
    (conversationId : ConversationId) (userId : UserId) :
    Member { store with participants := store.participants.updateWhere matching change keeps keepsSeat }
      conversationId userId ↔ Member store conversationId userId := by
  have seat (old : Participant) : (if matching old then change old else old).seat = old.seat := by
    split
    · exact keepsSeat old
    · rfl
  simp only [Member, Indexed.mem_updateWhere]
  constructor
  · rintro ⟨_, ⟨old, member, rfl⟩, same, sameUser⟩
    have there := seat old
    simp only [Participant.seat, Option.some.injEq, Prod.mk.injEq] at there
    exact ⟨old, member, there.1.symm.trans same, there.2.symm.trans sameUser⟩
  · rintro ⟨old, member, same, sameUser⟩
    have there := seat old
    simp only [Participant.seat, Option.some.injEq, Prod.mk.injEq] at there
    exact ⟨_, ⟨old, member, rfl⟩, there.1.trans same, there.2.trans sameUser⟩

theorem transferOwnership_ok {newOwnerId : UserId} {done : Unit}
    (transferred : transferOwnership store now conversationId newOwnerId = .ok (next, done)) :
    (∀ other userId, Member next other userId ↔ Member store other userId) ∧
      (∀ other, Existing next other ↔ Existing store other) ∧
      next.conversations.next = store.conversations.next := by
  obtain ⟨_, rfl⟩ := transferOwnership_handOver transferred
  refine ⟨fun other userId => ?_, fun other => ?_, rfl⟩
  · exact Iff.trans (member_updateWhere { store with participants := _ } _ (Participant.setRole_id .owner)
      (Participant.setRole_seat .owner) other userId) (member_updateWhere store _ (Participant.setRole_id .member)
      (Participant.setRole_seat .member) other userId)
  · exact existing_updateWhere store ..

theorem Moves.after {moved : UserId → Prop}
    (members : ∀ other userId, Member between other userId ↔ Member store other userId)
    (existing : ∀ other, Existing between other ↔ Existing store other)
    (sequence : between.conversations.next = store.conversations.next) (moves : Moves between next moved) :
    Moves store next moved := by
  refine ⟨fun other userId there stays => ?_, fun userId moving => ?_, moves.seated, ?_, fun other there absent => ?_⟩
  · rw [moves.kept other userId there stays, members]
  · obtain ⟨other, there, changed⟩ := moves.moved userId moving
    exact ⟨other, there, by rwa [members] at changed⟩
  · rw [← sequence]
    exact moves.grown
  · rw [← sequence]
    exact moves.fresh other there (by rwa [existing])

namespace ConversationService

variable {backend final : Backend}

theorem requireConversation_returns
    (returns : (requireConversation conversationId).Returns backend final conversation) :
    backend = final ∧ findById backend.store conversationId = some conversation := by
  unfold requireConversation at returns
  simp only [Program.returns_bind, returns_select] at returns
  obtain ⟨_, found, ⟨rfl, rfl⟩, rest⟩ := returns
  cases found : findById backend.store conversationId with
  | none => simp [found] at rest
  | some row => simpa [found] using rest

theorem requireParticipant_returns {done : Unit}
    (returns : (requireParticipant conversationId userId).Returns backend final done) :
    backend = final ∧ Member backend.store conversationId userId := by
  unfold requireParticipant at returns
  simp only [Program.returns_bind, returns_select] at returns
  obtain ⟨_, _, ⟨rfl, rfl⟩, rest⟩ := returns
  rw [← isParticipant_iff]
  cases found : isParticipant backend.store conversationId userId with
  | false => simp [found] at rest
  | true => simpa [found] using rest

theorem requireRemover_returns {done : Unit}
    (returns : (requireRemover conversation conversationId actorId).Returns backend final done) : backend = final := by
  unfold requireRemover at returns
  split at returns
  · exact (Program.returns_require.mp returns).1
  · exact (requireParticipant_returns returns).1

theorem requireUserExists_returns {done : Unit} (returns : (requireUserExists userId).Returns backend final done) :
    backend = final := by
  unfold requireUserExists at returns
  simp only [Program.returns_bind, returns_select] at returns
  obtain ⟨_, _, ⟨rfl, rfl⟩, rest⟩ := returns
  split at rest
  · simp at rest
  · simpa using rest

theorem requireUsersExist_returns {done : Unit} (returns : (requireUsersExist userIds).Returns backend final done) :
    backend = final := by
  induction userIds generalizing backend with
  | nil => simpa [requireUsersExist] using returns
  | cons userId userIds ih =>
    simp only [requireUsersExist, Program.returns_bind] at returns
    obtain ⟨_, _, first, rest⟩ := returns
    exact (requireUserExists_returns first).trans (ih rest)

end ConversationService

inductive Operation where
  | create (actorId : UserId) (request : CreateConversationRequest)
  | addMember (actorId : UserId) (conversationId : ConversationId) (userId : UserId)
  | removeMember (actorId : UserId) (conversationId : ConversationId) (targetUserId : UserId)
  | leave (actorId : UserId) (conversationId : ConversationId)
  | remove (actorId : UserId) (conversationId : ConversationId)
  deriving DecidableEq, Repr

namespace Operation

open ConversationService

def call : Operation → Service Unit
  | .create actorId request => do
    let _ ← ConversationService.create actorId request
  | .addMember actorId conversationId userId => do
    let _ ← ConversationService.addMember actorId conversationId userId
  | .removeMember actorId conversationId targetUserId =>
    ConversationService.removeMember actorId conversationId targetUserId
  | .leave actorId conversationId => ConversationService.leave actorId conversationId
  | .remove actorId conversationId => ConversationService.remove actorId conversationId

/-- The actor owns the group and is alone in it, so that leaving deletes it. -/
def dissolves (store : Store) (actorId : UserId) (conversationId : ConversationId) : Bool :=
  (findById store conversationId).any (fun conversation =>
    conversation.isGroup && conversation.ownerId = some actorId) &&
    (listParticipantIds store conversationId).all (· = actorId)

/-- The users that the operation, if it succeeds, adds to or removes from a conversation that
is there afterwards. -/
def moved (store : Store) : Operation → List UserId
  | .create actorId request =>
    match request.type, request.participantIds with
    | .direct, [other] => [actorId, other].filter fun userId =>
        !isParticipant store (directConversation store actorId other) userId
    | .direct, _ => []
    | .group, participantIds => actorId :: members actorId participantIds
  | .addMember _ _ userId => [userId]
  | .removeMember _ conversationId targetUserId =>
    if isParticipant store conversationId targetUserId then [targetUserId] else []
  | .leave actorId conversationId => if dissolves store actorId conversationId then [] else [actorId]
  | .remove _ _ => []

inductive Performs (now : TimePoint) (store : Store) : Operation → Store → List DomainEvent → Prop where
  | direct {actorId other : UserId} {request : CreateConversationRequest} {next : Store} {conversation : Conversation}
      (type : request.type = .direct) (listed : request.participantIds = [other])
      (created : createOrGetDirect store now actorId other = .ok (next, conversation)) :
      Performs now store (.create actorId request) next [.conversationCreated conversation.id actorId
        conversation.isGroup (listParticipantIds next conversation.id)]
  | group {actorId : UserId} {request : CreateConversationRequest} {name : String} {next : Store}
      {conversation : Conversation} (type : request.type = .group)
      (created : createGroup store now actorId name (members actorId request.participantIds) = .ok (next, conversation)) :
      Performs now store (.create actorId request) next [.conversationCreated conversation.id actorId
        conversation.isGroup (listParticipantIds next conversation.id)]
  | addMember {actorId userId : UserId} {conversationId : ConversationId} {next : Store}
      (existing : Existing store conversationId)
      (added : addParticipant store now conversationId userId .member = .ok (next, ())) :
      Performs now store (.addMember actorId conversationId userId) next [.memberAdded conversationId userId actorId]
  | removeMember {actorId targetUserId : UserId} {conversationId : ConversationId}
      (existing : Existing store conversationId) :
      Performs now store (.removeMember actorId conversationId targetUserId)
        (removeParticipant store conversationId targetUserId) [.memberRemoved conversationId targetUserId actorId]
  | leave {actorId : UserId} {conversationId : ConversationId} (member : Member store conversationId actorId)
      (stays : dissolves store actorId conversationId = false) :
      Performs now store (.leave actorId conversationId) (removeParticipant store conversationId actorId) []
  | handOver {actorId successorId : UserId} {conversationId : ConversationId} {between : Store}
      (member : Member store conversationId actorId) (stays : dissolves store actorId conversationId = false)
      (transferred : transferOwnership store now conversationId successorId = .ok (between, ())) :
      Performs now store (.leave actorId conversationId) (removeParticipant between conversationId actorId) []
  | dissolve {actorId : UserId} {conversationId : ConversationId} (member : Member store conversationId actorId)
      (alone : dissolves store actorId conversationId = true) :
      Performs now store (.leave actorId conversationId) (ConversationRepository.remove store conversationId) []
  | remove {actorId : UserId} {conversationId : ConversationId} :
      Performs now store (.remove actorId conversationId) (ConversationRepository.remove store conversationId)
        [.conversationDeleted conversationId actorId]

variable {backend final : Backend} {done : Unit}

theorem createStored_returns {request : CreateConversationRequest}
    (returns : (createStored actorId request).Returns backend final conversation) :
    ∃ store, final = { backend with store := store } ∧ Performs backend.now backend.store (.create actorId request)
      store [.conversationCreated conversation.id actorId conversation.isGroup
        (listParticipantIds store conversation.id)] := by
  unfold createStored at returns
  cases type : request.type with
  | direct =>
    rw [type] at returns
    simp only at returns
    split at returns
    · next other listed =>
      split at returns
      · simp at returns
      · simp only [Program.returns_bind, returns_transaction] at returns
        obtain ⟨_, _, known, store, created, rfl⟩ := returns
        cases requireUserExists_returns known
        exact ⟨store, rfl, .direct type listed created⟩
    · simp at returns
  | group =>
    rw [type] at returns
    simp only at returns
    split at returns
    · simp at returns
    · simp only [Program.returns_bind, Program.returns_require, returns_transaction] at returns
      obtain ⟨_, _, ⟨rfl, _⟩, _, _, known, store, created, rfl⟩ := returns
      cases requireUsersExist_returns known
      exact ⟨store, rfl, .group type created⟩

theorem depart_returns (found : findById backend.store conversationId = some conversation)
    (member : Member backend.store conversationId actorId)
    (returns : (depart actorId conversation conversationId).Returns backend final done) :
    ∃ store, final = { backend with store := store } ∧
      Performs backend.now backend.store (.leave actorId conversationId) store [] := by
  unfold depart at returns
  cases owns : conversation.isGroup && conversation.ownerId = some actorId with
  | false =>
    have stays : dissolves backend.store actorId conversationId = false := by simp [dissolves, found, owns]
    simp only [owns, Bool.false_eq_true, if_false, returns_transaction] at returns
    obtain ⟨store, same, rfl⟩ := returns
    cases same
    exact ⟨_, rfl, .leave member stays⟩
  | true =>
    simp only [owns, if_true, Program.returns_bind, returns_select] at returns
    obtain ⟨_, _, ⟨rfl, rfl⟩, rest⟩ := returns
    split at rest
    · next successor chosen =>
      have other : successor.userId ≠ actorId := by simpa using List.find?_some chosen
      have listed := mem_listParticipants.mp (List.mem_of_find?_eq_some chosen)
      have stays : dissolves backend.store actorId conversationId = false := by
        have seat : Member backend.store conversationId successor.userId := ⟨successor, listed.1, listed.2, rfl⟩
        have everyone : (listParticipantIds backend.store conversationId).all (· = actorId) = false :=
          List.all_eq_false.mpr ⟨successor.userId, mem_listParticipantIds.mpr seat, by simpa using other⟩
        simp [dissolves, everyone]
      simp only [Program.returns_bind, returns_transaction] at rest
      obtain ⟨_, _, ⟨between, transferred, rfl⟩, store, same, rfl⟩ := rest
      cases same
      exact ⟨_, rfl, .handOver member stays transferred⟩
    · next alone =>
      have leaves : dissolves backend.store actorId conversationId = true := by
        have everyone : (listParticipantIds backend.store conversationId).all (· = actorId) = true := by
          refine List.all_eq_true.mpr fun userId listed => ?_
          obtain ⟨row, there, same, rfl⟩ := mem_listParticipantIds.mp listed
          simpa using List.find?_eq_none.mp alone row (mem_listParticipants.mpr ⟨there, same⟩)
        simpa [dissolves, found, everyone] using owns
      simp only [returns_transaction] at rest
      obtain ⟨store, same, rfl⟩ := rest
      cases same
      exact ⟨_, rfl, .dissolve member leaves⟩

theorem returns_performs {operation : Operation} (returns : operation.call.Returns backend final done) :
    ∃ events, final.events = backend.events ++ events ∧
      Performs backend.now backend.store operation final.store events := by
  cases operation with
  | create actorId request =>
    simp only [call, ConversationService.create, Program.returns_bind, Program.returns_pure, returns_select,
      returns_broadcast, returns_publish] at returns
    obtain ⟨_, _, ⟨_, conversation, stored, _, _, ⟨rfl, _⟩, _, _, ⟨rfl, rfl⟩, _, _, rfl, _, _, rfl, rfl, _⟩,
      rfl, _⟩ := returns
    obtain ⟨store, rfl, performs⟩ := createStored_returns stored
    exact ⟨_, rfl, performs⟩
  | addMember actorId conversationId userId =>
    simp only [call, ConversationService.addMember, Program.returns_bind] at returns
    obtain ⟨_, _, ⟨_, conversation, required, returns⟩, rest⟩ := returns
    obtain ⟨rfl, found⟩ := requireConversation_returns required
    obtain ⟨_, _, owner, returns⟩ := returns
    obtain ⟨rfl, _⟩ := Program.returns_require.mp owner
    obtain ⟨_, _, known, returns⟩ := returns
    obtain rfl := requireUserExists_returns known
    simp only [returns_transaction, returns_select] at returns
    obtain ⟨_, _, ⟨store, added, rfl⟩, _, _, ⟨rfl, rfl⟩, returns⟩ := returns
    have existing : Existing backend.store conversationId := findById_isSome.mp (by simp [found])
    split at returns
    · simp at returns
    · simp only [Program.returns_bind, Program.returns_pure, returns_select, returns_broadcast,
        returns_publish] at returns rest
      obtain ⟨_, _, ⟨rfl, rfl⟩, _, _, rfl, _, _, rfl, rfl, rfl⟩ := returns
      obtain ⟨rfl, _⟩ := rest
      exact ⟨_, rfl, .addMember existing added⟩
  | removeMember actorId conversationId targetUserId =>
    simp only [call, ConversationService.removeMember, Program.returns_bind] at returns
    obtain ⟨_, conversation, required, returns⟩ := returns
    obtain ⟨rfl, found⟩ := requireConversation_returns required
    obtain ⟨_, _, owner, returns⟩ := returns
    obtain ⟨rfl, _⟩ := Program.returns_require.mp owner
    split at returns
    · simp at returns
    · simp only [Program.returns_bind, returns_select, returns_transaction, returns_broadcast,
        returns_publish] at returns
      obtain ⟨_, _, ⟨rfl, rfl⟩, _, _, ⟨store, same, rfl⟩, _, _, rfl, rfl⟩ := returns
      cases same
      exact ⟨_, rfl, .removeMember (findById_isSome.mp (by simp [found]))⟩
  | leave actorId conversationId =>
    simp only [call, ConversationService.leave, Program.returns_bind] at returns
    obtain ⟨_, conversation, required, returns⟩ := returns
    obtain ⟨rfl, found⟩ := requireConversation_returns required
    obtain ⟨_, _, required, returns⟩ := returns
    obtain ⟨rfl, member⟩ := requireParticipant_returns required
    simp only [returns_select, returns_broadcast] at returns
    obtain ⟨_, _, ⟨rfl, rfl⟩, _, _, departs, rfl⟩ := returns
    obtain ⟨store, rfl, performs⟩ := depart_returns found member departs
    exact ⟨_, (List.append_nil _).symm, performs⟩
  | remove actorId conversationId =>
    simp only [call, ConversationService.remove, Program.returns_bind] at returns
    obtain ⟨_, conversation, required, returns⟩ := returns
    obtain ⟨rfl, found⟩ := requireConversation_returns required
    obtain ⟨_, _, allowed, returns⟩ := returns
    obtain rfl := requireRemover_returns allowed
    simp only [returns_select, returns_transaction, returns_broadcast, returns_publish] at returns
    obtain ⟨_, _, ⟨rfl, rfl⟩, _, _, ⟨store, same, rfl⟩, _, _, rfl, rfl⟩ := returns
    cases same
    exact ⟨_, rfl, .remove⟩

theorem Performs.moves {operation : Operation} {events : List DomainEvent} (seated : Seated store)
    (performs : Performs now store operation next events) :
    Moves store next fun userId => userId ∈ operation.moved store := by
  cases performs with
  | direct type listed created =>
    simpa [moved, type, listed, ← isParticipant_iff] using createOrGetDirect_ok seated created
  | group type created => simpa [moved, type] using createGroup_ok seated created
  | @addMember actorId userId conversationId _ existing added =>
    obtain ⟨absent, joins⟩ := addParticipant_ok added
    refine ((Opens.refl existing).moves joins seated).congr fun user => ?_
    simp only [moved, List.mem_singleton]
    exact ⟨And.left, fun same => ⟨same, same ▸ absent⟩⟩
  | @removeMember actorId targetUserId conversationId existing =>
    refine (removeParticipant_moves seated conversationId targetUserId).congr fun userId => ?_
    simp only [moved, ← isParticipant_iff]
    split <;> simp_all
  | @leave actorId conversationId member stays =>
    exact (removeParticipant_moves seated conversationId actorId).congr fun userId => by simp [moved, stays, member]
  | @handOver actorId successorId conversationId between member stays transferred =>
    obtain ⟨members, existing, sequence⟩ := transferOwnership_ok transferred
    have seatedBetween : Seated between := fun other userId there =>
      (existing other).mpr (seated other userId ((members other userId).mp there))
    refine ((removeParticipant_moves seatedBetween conversationId actorId).after members existing
      sequence).congr fun userId => ?_
    simp [moved, stays, members, member]
  | @dissolve actorId conversationId member alone =>
    exact (remove_moves seated conversationId).congr fun userId => by simp [moved, alone]
  | @remove actorId conversationId =>
    exact (remove_moves seated conversationId).congr fun userId => by simp [moved]

theorem returns_moves (seated : Seated backend.store) {operation : Operation}
    (returns : operation.call.Returns backend final done) :
    Moves backend.store final.store fun userId => userId ∈ operation.moved backend.store := by
  obtain ⟨events, _, performs⟩ := returns_performs returns
  exact performs.moves seated

end Operation

end RealtimeChat.Chat
