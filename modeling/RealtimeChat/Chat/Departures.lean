import RealtimeChat.Chat.Ownership

/-! What a departure leaves behind.

Concurrent calls can leave a group without an owner among its participants. What
they cannot do is give the role of an owner to anybody but the user in the
group's `owner_id`. That and the foreign keys hold in every state of the
database, and from any such state a departure that runs alone does exactly what
is said of it.
-/

set_option autoImplicit false

namespace RealtimeChat.Chat

open Foundation Accounts ConversationRepository

def Titled (store : Store) : Prop :=
  ∀ row ∈ store.conversations, row.isGroup = true → ∀ participant ∈ store.participants,
    participant.conversationId = row.id → participant.role = .owner → row.ownerId = some participant.userId

def Known (store : Store) : Prop :=
  ∀ participant ∈ store.participants, (store.users.find participant.userId).isSome = true

variable {ownerId : UserId} {name : String} {memberIds : List UserId} {conversation : Conversation} {action : Action}
  {pool : Calls}

section Titles

variable {store next : Store} {now : TimePoint} {conversationId : ConversationId} {userId : UserId}

theorem Transmits.titled (transmits : Transmits store next) (titled : Titled store) : Titled next := by
  intro row member group participant listed within owner
  obtain ⟨old, oldMember, sameId, oldGroup, sameOwner⟩ := transmits.groups row member group
  rcases transmits.seats participant listed with ⟨seat, seatMember, sameRoom, sameUser, sameRole⟩ | ⟨plain, _⟩
  · rw [← sameOwner, ← sameUser]
    exact titled old oldMember oldGroup seat seatMember (sameRoom.trans (within.trans sameId.symm))
      (sameRole.trans owner)
  · rw [plain] at owner
    cases owner

theorem titled_removeParticipant (titled : Titled store) : Titled (removeParticipant store conversationId userId) :=
  fun row member group participant listed =>
    titled row member group participant (Indexed.mem_deleteWhere.mp listed).1

theorem titled_handOver (titled : Titled store) : Titled (handOver store now conversationId userId) := by
  intro row member group participant listed within owner
  obtain ⟨old, oldMember, rfl⟩ := Serial.mem_updateWhere.mp member
  obtain ⟨seat, seated, rfl⟩ := mem_handOver.mp listed
  rw [(seat.handedOver_seat _ _).1] at within
  rw [(seat.handedOver_seat _ _).2]
  by_cases handed : old.id = conversationId
  · simp only [handed, decide_true, if_true] at within ⊢
    by_cases same : seat.userId = userId
    · rw [same]
    · simp [Participant.handedOver, Participant.setRole, within, same] at owner
  · simp only [handed, decide_false, Bool.false_eq_true, if_false] at within group ⊢
    rw [Participant.handedOver, if_neg (within ▸ handed)] at owner
    exact titled old oldMember group seat seated within owner

theorem titled_createGroup (seated : Seated store) (titled : Titled store)
    (created : createGroup store now ownerId name memberIds = .ok (next, conversation)) : Titled next := by
  obtain ⟨_, between, owner, members⟩ := createGroup_seats created
  obtain ⟨_, conversations, rows⟩ := insertParticipant_rows (addParticipant_inserted owner)
  refine (seats_enroll members).transmits.titled fun row member group participant listed within owns => ?_
  rw [conversations, Indexed.mem_append] at member
  rcases (rows participant).mp listed with before | rfl
  · rcases member with old | rfl
    · exact titled row old group participant before within owns
    · -- Nobody is seated in the new group yet.
      exact absurd (seated _ _ ⟨participant, before, rfl, rfl⟩).lt_next (within ▸ lt_irrefl _)
  · rcases member with old | rfl
    · exact absurd within.symm (ne_of_lt (Indexed.lt_next old))
    · rfl

theorem Action.Transacts.titled {request : Request} {rest : Except AppException action.Returned → Plan Answer}
    (transacts : Action.Transacts now store action next) (proper : request.Proper action rest) (seated : Seated store)
    (titled : Titled store) : Titled next := by
  cases organizes : action.organizes with
  | false =>
    obtain ⟨conversations, participants⟩ := transacts.rooms organizes
    exact (transmits_of_rooms conversations participants).titled titled
  | true =>
    cases transacts with
    | createOrGetDirect created => exact (createOrGetDirect_transmits created).titled titled
    | createGroup created => exact titled_createGroup seated titled created
    | @addParticipant _ _ role _ _ added =>
      obtain ⟨rfl, _⟩ : role = .member ∧ _ := proper
      exact (insertParticipant_enrolls (addParticipant_inserted added)).transmits.titled titled
    | removeParticipant conversationId userId => exact titled_removeParticipant titled
    | transferOwnership transferred =>
      obtain ⟨_, rfl⟩ := transferOwnership_handOver transferred
      exact titled_handOver titled
    | removeConversation conversationId => exact (remove_transmits store conversationId).titled titled
    | createMessage created => exact (createMessage_transmits created).titled titled
    | updateLastRead conversationId userId messageId =>
      exact (updateLastRead_transmits store conversationId userId messageId).titled titled
    | reads other => exact absurd organizes (by simp [(Bool.or_eq_false_iff.mp other).1])
    | linkToMessage | updateContent | softDelete | upsertState | markConversationRead => cases organizes

end Titles

section Users

variable {store next : Store} {now : TimePoint} {conversationId : ConversationId} {userId : UserId}

/-- The users are the same, and whoever takes part did so before or is one of them. -/
structure Admits (store next : Store) : Prop where
  users : next.users = store.users
  seats : ∀ participant ∈ next.participants, (∃ old ∈ store.participants, old.userId = participant.userId) ∨
    (store.users.find participant.userId).isSome = true

theorem Admits.known (admits : Admits store next) (known : Known store) : Known next := by
  intro participant listed
  rw [admits.users]
  rcases admits.seats participant listed with ⟨old, oldListed, same⟩ | there
  · exact same ▸ known old oldListed
  · exact there

theorem admits_of_seats (users : next.users = store.users) (seats : ∀ participant ∈ next.participants,
    ∃ old ∈ store.participants, old.userId = participant.userId) : Admits store next :=
  ⟨users, fun participant listed => Or.inl (seats participant listed)⟩

theorem admits_of_participants (users : next.users = store.users) (participants : next.participants = store.participants) :
    Admits store next :=
  admits_of_seats users fun participant listed => ⟨participant, participants ▸ listed, rfl⟩

theorem Admits.trans {between : Store} (first : Admits store between) (second : Admits between next) :
    Admits store next := by
  refine ⟨second.users.trans first.users, fun participant listed => ?_⟩
  rcases second.seats participant listed with ⟨old, oldListed, same⟩ | there
  · exact same ▸ first.seats old oldListed
  · exact Or.inr (first.users ▸ there)

theorem insertParticipant_admits {role : ParticipantRole}
    (inserted : insertParticipant store now conversationId userId role = some (.ok next)) : Admits store next := by
  obtain ⟨participants, accepted, checks⟩ := Option.map_eq_some_iff.mp inserted
  obtain ⟨_, _, checks⟩ := bind_eq_ok.mp checks
  obtain ⟨_, known, same⟩ := bind_eq_ok.mp checks
  cases same
  refine ⟨rfl, fun participant listed => ?_⟩
  rcases (Indexed.mem_insert accepted).mp listed with old | rfl
  · exact Or.inl ⟨participant, old, rfl⟩
  · exact Or.inr (checkUser_eq_ok.mp known)

theorem seat_admits {role : ParticipantRole} (seats : seat now conversationId role store userId = .ok next) :
    Admits store next := by
  rcases seat_inserted seats with ⟨_, rfl⟩ | inserted
  · exact admits_of_participants rfl rfl
  · exact insertParticipant_admits inserted

theorem createOrGetDirect_admits {first second : UserId}
    (created : createOrGetDirect store now first second = .ok (next, conversation)) : Admits store next := by
  obtain ⟨_, between, firstSeat, secondSeat⟩ := createOrGetDirect_seats created
  have upserted : Admits store (upsertDirect store now (directKey first second)).1 := admits_of_participants rfl rfl
  exact upserted.trans ((seat_admits firstSeat).trans (seat_admits secondSeat))

theorem createGroup_admits (created : createGroup store now ownerId name memberIds = .ok (next, conversation)) :
    Admits store next := by
  obtain ⟨_, between, owner, members⟩ := createGroup_seats created
  have opened : ∀ conversations, Admits store { store with conversations := conversations } :=
    fun _ => admits_of_participants rfl rfl
  exact (opened _).trans ((insertParticipant_admits (addParticipant_inserted owner)).trans
    (foldlM_relates (fun _ => admits_of_participants rfl rfl) Admits.trans seat_admits members))

theorem Action.Transacts.admits (transacts : Action.Transacts now store action next) : Admits store next := by
  cases transacts with
  | reads => exact admits_of_participants rfl rfl
  | createOrGetDirect created => exact createOrGetDirect_admits created
  | createGroup created => exact createGroup_admits created
  | addParticipant added => exact insertParticipant_admits (addParticipant_inserted added)
  | removeParticipant conversationId userId =>
    exact admits_of_seats rfl fun participant listed => ⟨participant, (Indexed.mem_deleteWhere.mp listed).1, rfl⟩
  | transferOwnership transferred =>
    obtain ⟨_, rfl⟩ := transferOwnership_handOver transferred
    refine admits_of_seats rfl fun participant listed => ?_
    obtain ⟨old, oldListed, rfl⟩ := mem_handOver.mp listed
    exact ⟨old, oldListed, (old.handedOver_seat _ _).2.symm⟩
  | removeConversation conversationId =>
    unfold ConversationRepository.remove
    split
    · exact admits_of_seats rfl fun participant listed => ⟨participant, (Indexed.mem_deleteWhere.mp listed).1, rfl⟩
    · exact admits_of_participants rfl rfl
  | createMessage created =>
    obtain ⟨_, rfl⟩ := createMessage_stored created
    exact admits_of_participants rfl rfl
  | updateLastRead conversationId userId messageId =>
    refine admits_of_seats rfl fun participant listed => ?_
    obtain ⟨old, oldListed, rfl⟩ := Serial.mem_updateWhere.mp listed
    refine ⟨old, oldListed, ?_⟩
    split <;> rfl
  | linkToMessage done =>
    rw [linkToMessage_only done]
    exact admits_of_participants rfl rfl
  | updateContent updated | softDelete updated =>
    rw [updateUndeleted_only updated]
    exact admits_of_participants rfl rfl
  | upsertState upserted =>
    rw [upsertReceipt_only upserted]
    exact admits_of_participants rfl rfl
  | markConversationRead marked =>
    rw [markConversationRead_only marked]
    exact admits_of_participants rfl rfl

end Users

/-- The states of the database that the services can bring about, with calls at any point of
their way. Besides the calls of `chat`, groups are renamed, and other services write other
tables; a user who is registered stays so. -/
inductive Calls.Reachable : Calls → Prop
  | initial (users : UserTable) : Reachable (Calls.initial users)
  | called {pool next : Calls} {label : Calls.Label} (before : Reachable pool)
      (moves : chat.step pool label = some next) : Reachable next
  | renamed {pool : Calls} (conversationId : ConversationId) (name : String) (before : Reachable pool) :
      Reachable { pool with state := { pool.state with
        store := rename pool.state.store pool.state.now conversationId name } }
  | elsewhere {pool : Calls} {store : Store} (before : Reachable pool)
      (conversations : store.conversations = pool.state.store.conversations)
      (participants : store.participants = pool.state.store.participants)
      (registered : ∀ userId, (pool.state.store.users.find userId).isSome = true →
        (store.users.find userId).isSome = true) :
      Reachable { pool with state := { pool.state with store := store } }

structure Calls.Kept (pool : Calls) : Prop extends Orderly pool where
  titled : Titled pool.state.store
  known : Known pool.state.store

theorem Calls.Kept.step {next : Calls} {label : Calls.Label} (kept : pool.Kept)
    (moves : chat.step pool label = some next) : next.Kept := by
  refine ⟨kept.toOrderly.step moves, ?_, ?_⟩
  · cases System.step_effect moves with
    | acted found executed =>
      exact (Action.exec_transacts executed).titled (kept.proper _ (List.mem_of_getElem? found)).1 kept.seated kept.titled
    | _ => exact kept.titled
  · cases System.step_effect moves with
    | acted found executed => exact (Action.exec_transacts executed).admits.known kept.known
    | _ => exact kept.known

theorem seated_rename {store : Store} (seated : Seated store) (now : TimePoint) (conversationId : ConversationId)
    (name : String) : Seated (rename store now conversationId name) :=
  fun other userId member => (existing_updateWhere store _ _ _ other).mpr (seated other userId member)

theorem rename_transmits (store : Store) (now : TimePoint) (conversationId : ConversationId) (name : String) :
    Transmits store (rename store now conversationId name) := by
  refine transmits_of_rows rfl fun row member => ?_
  obtain ⟨old, oldMember, rfl⟩ := Serial.mem_updateWhere.mp member
  refine ⟨old, oldMember, ?_⟩
  split <;> exact ⟨rfl, rfl, rfl⟩

theorem Calls.Reachable.kept (reachable : pool.Reachable) : pool.Kept := by
  induction reachable with
  | initial users =>
    have nobody : ∀ participant, participant ∉ (Calls.initial users).state.store.participants :=
      fun _ => Indexed.not_mem_empty
    refine ⟨⟨initial_seated users, fun call member => ?_⟩, fun _ _ _ participant listed => ?_, fun participant listed => ?_⟩
    · cases member
    · exact absurd listed (nobody participant)
    · exact absurd listed (nobody participant)
  | called _ moves ih => exact ih.step moves
  | renamed conversationId name _ ih =>
    exact ⟨⟨seated_rename ih.seated _ conversationId name, ih.proper⟩, (rename_transmits _ _ _ _).titled ih.titled, ih.known⟩
  | elsewhere _ conversations participants registered ih =>
    refine ⟨⟨?_, ih.proper⟩, (transmits_of_rooms conversations participants).titled ih.titled, fun participant listed => ?_⟩
    · simpa only [Seated, Member, Existing, conversations, participants] using ih.seated
    · exact registered _ (ih.known participant (participants ▸ listed))

section Departing

def OwnsGroup (store : Store) (conversationId : ConversationId) (userId : UserId) : Prop :=
  ∃ row ∈ findById store conversationId, row.isGroup = true ∧ row.ownerId = some userId

/-- Of the other participants, the one who joined first, and of those who joined at that time
the one with the smallest row id. -/
structure Succeeds (store : Store) (conversationId : ConversationId) (actorId : UserId) (successor : Participant) :
    Prop where
  listed : successor ∈ store.participants
  within : successor.conversationId = conversationId
  other : successor.userId ≠ actorId
  first : ∀ participant ∈ store.participants, participant.conversationId = conversationId →
    participant.userId ≠ actorId → successor.joinedAt < participant.joinedAt ∨
      successor.joinedAt = participant.joinedAt ∧ successor.id ≤ participant.id

def outside (store : Store) (conversationId : ConversationId) (messageId : MessageId) : Bool :=
  !(store.messages.find messageId).any fun message => message.conversationId = conversationId

/-- Whatever belongs to the users or to other conversations is as it was. -/
structure Untouched (store next : Store) (conversationId : ConversationId) : Prop where
  users : next.users = store.users
  conversations : next.conversations.rows.filter (fun row => row.id ≠ conversationId) =
    store.conversations.rows.filter fun row => row.id ≠ conversationId
  participants : next.participants.rows.filter (fun row => row.conversationId ≠ conversationId) =
    store.participants.rows.filter fun row => row.conversationId ≠ conversationId
  messages : next.messages.table.rows.filter (fun row => row.conversationId ≠ conversationId) =
    store.messages.table.rows.filter fun row => row.conversationId ≠ conversationId
  receipts : next.receipts.rows.filter (fun row => outside store conversationId row.messageId) =
    store.receipts.rows.filter fun row => outside store conversationId row.messageId
  reactions : next.reactions.rows.filter (fun row => outside store conversationId row.messageId) =
    store.reactions.rows.filter fun row => outside store conversationId row.messageId
  attachments : next.attachments.table.rows.filter (fun row => row.messageId.all (outside store conversationId)) =
    store.attachments.table.rows.filter fun row => row.messageId.all (outside store conversationId)

def remaining (store : Store) (conversationId : ConversationId) (actorId : UserId) : List Participant :=
  store.participants.rows.filter fun row => !(row.conversationId = conversationId && row.userId = actorId)

/-- What `leave` has to leave behind. -/
structure Departed (now : TimePoint) (store next : Store) (conversationId : ConversationId) (actorId : UserId) :
    Prop where
  handedOver : OwnsGroup store conversationId actorId →
    (∃ userId, userId ≠ actorId ∧ Member store conversationId userId) →
    ∃ successor, Succeeds store conversationId actorId successor ∧ WritesRooms store next ∧
      next.conversations.rows = store.conversations.rows.map (fun row =>
        if row.id = conversationId then { row with ownerId := some successor.userId, updatedAt := now } else row) ∧
      next.participants.rows = (remaining store conversationId actorId).map fun row =>
        if row.id = successor.id then { row with role := .owner } else row
  dissolved : OwnsGroup store conversationId actorId →
    (∀ userId, Member store conversationId userId → userId = actorId) →
    ¬ Existing next conversationId ∧ (∀ row ∈ next.participants, row.conversationId ≠ conversationId) ∧
      ∀ row ∈ next.messages, row.conversationId ≠ conversationId
  left : ¬ OwnsGroup store conversationId actorId →
    next = { store with participants := next.participants } ∧
      next.participants.rows = remaining store conversationId actorId
  untouched : Untouched store next conversationId

variable {store : Store} {now : TimePoint} {conversationId : ConversationId} {actorId : UserId}

theorem filter_map_of_kept {A : Type} {keep : A → Bool} {change : A → A} (kept : ∀ row, keep (change row) = keep row)
    (same : ∀ row, keep row = true → change row = row) (rows : List A) :
    (rows.map change).filter keep = rows.filter keep := by
  induction rows with
  | nil => rfl
  | cons row rest ih =>
    rw [List.map_cons, List.filter_cons, List.filter_cons, ih, kept]
    split
    · next here => rw [same row here]
    · rfl

theorem filter_filter_of_imp {A : Type} {keep more : A → Bool} (implies : ∀ row, keep row = true → more row = true)
    (rows : List A) : (rows.filter more).filter keep = rows.filter keep := by
  rw [List.filter_filter]
  refine List.filter_congr fun row _ => ?_
  cases kept : keep row with
  | false => rfl
  | true => simp [implies row kept]

/-- A transaction on the rooms touches nothing else if it keeps the rows of other conversations. -/
theorem untouched_of_rooms {next : Store} (rooms : WritesRooms store next)
    (conversations : next.conversations.rows.filter (fun row => row.id ≠ conversationId) =
      store.conversations.rows.filter fun row => row.id ≠ conversationId)
    (participants : next.participants.rows.filter (fun row => row.conversationId ≠ conversationId) =
      store.participants.rows.filter fun row => row.conversationId ≠ conversationId) :
    Untouched store next conversationId := by
  refine ⟨?_, conversations, participants, ?_, ?_, ?_, ?_⟩ <;> rw [rooms]

theorem filter_remaining :
    (remaining store conversationId actorId).filter (fun row => row.conversationId ≠ conversationId) =
      store.participants.rows.filter fun row => row.conversationId ≠ conversationId := by
  refine filter_filter_of_imp (fun row apart => ?_) _
  simp only [ne_eq, decide_not, Bool.not_eq_true', decide_eq_false_iff_not] at apart
  simp [apart]

theorem untouched_removeParticipant :
    Untouched store (removeParticipant store conversationId actorId) conversationId :=
  untouched_of_rooms rfl rfl filter_remaining

variable {successor : Participant} (newOwnerId : UserId)

theorem rows_handOver : (handOver store now conversationId newOwnerId).participants.rows =
    store.participants.rows.map (Participant.handedOver conversationId newOwnerId) := by
  simp only [handOver, Indexed.rows, Indexed.updateWhere, Serial.updateWhere, Table.updateWhere, List.map_map]
  refine List.map_congr_left fun row _ => ?_
  obtain ⟨_, _, _, role, _, _⟩ := row
  cases role <;> grind [Participant.handedOver, Participant.setRole]

theorem remaining_handOver : remaining (handOver store now conversationId newOwnerId) conversationId actorId =
    (remaining store conversationId actorId).map (Participant.handedOver conversationId newOwnerId) := by
  unfold remaining
  rw [rows_handOver, List.filter_map]
  congr 1
  refine List.filter_congr fun row _ => ?_
  obtain ⟨sameRoom, sameUser⟩ := row.handedOver_seat conversationId newOwnerId
  simp only [Function.comp_apply, sameRoom, sameUser]

theorem untouched_handOver : Untouched store
    (removeParticipant (handOver store now conversationId newOwnerId) conversationId actorId) conversationId := by
  refine untouched_of_rooms rfl ?_ ?_
  · refine filter_map_of_kept (fun row => ?_) (fun row apart => ?_) _
    · dsimp only
      split <;> rfl
    · exact if_neg (by simpa using apart)
  · refine filter_remaining.trans ?_
    rw [rows_handOver]
    refine filter_map_of_kept (fun row => ?_) (fun row apart => ?_) _
    · rw [(row.handedOver_seat _ _).1]
    · exact if_neg (by simpa using apart)

theorem untouched_remove : Untouched store (ConversationRepository.remove store conversationId) conversationId := by
  unfold ConversationRepository.remove
  split
  · refine ⟨rfl, ?_, ?_, ?_, ?_, ?_, ?_⟩
    iterate 3 exact filter_filter_of_imp (fun row apart => by simpa using apart) _
    iterate 2 exact filter_filter_of_imp (fun row apart => by simpa [outside] using apart) _
    · refine filter_filter_of_imp (fun row apart => ?_) _
      obtain ⟨_, _, messageId⟩ := row
      cases messageId with
      | none => rfl
      | some messageId => exact apart
  · exact ⟨rfl, rfl, rfl, rfl, rfl, rfl, rfl⟩

theorem joinedBefore_iff {first second : Participant} : joinedBefore first second = true ↔
    first.joinedAt < second.joinedAt ∨ first.joinedAt = second.joinedAt ∧ first.id ≤ second.id := by
  simp [joinedBefore]

theorem listParticipants_sorted (store : Store) (conversationId : ConversationId) :
    (listParticipants store conversationId).Pairwise fun first second => joinedBefore first second = true := by
  have either (a b c d : Int) : (a < b ∨ a = b ∧ c ≤ d) ∨ (b < a ∨ b = a ∧ d ≤ c) := by omega
  have chain (a b c d e f : Int) : (a < b ∨ a = b ∧ d ≤ e) → (b < c ∨ b = c ∧ e ≤ f) → (a < c ∨ a = c ∧ d ≤ f) := by
    omega
  have total : Std.Total fun first second : Participant => joinedBefore first second = true := by
    refine ⟨fun first second => ?_⟩
    rw [joinedBefore_iff, joinedBefore_iff]
    exact either _ _ _ _
  have transitive : IsTrans Participant fun first second => joinedBefore first second = true := by
    refine ⟨fun first second third => ?_⟩
    rw [joinedBefore_iff, joinedBefore_iff, joinedBefore_iff]
    exact chain _ _ _ _ _ _
  exact List.pairwise_insertionSort (fun first second => joinedBefore first second = true) _

theorem succeeds_of_find
    (chosen : (listParticipants store conversationId).find? (fun participant => participant.userId ≠ actorId) =
      some successor) : Succeeds store conversationId actorId successor := by
  obtain ⟨listed, within⟩ := mem_listParticipants.mp (List.mem_of_find?_eq_some chosen)
  refine ⟨listed, within, by simpa using List.find?_some chosen, fun participant there same other => ?_⟩
  obtain ⟨_, before, after, split, passed⟩ := List.find?_eq_some_iff_append.mp chosen
  have sorted := listParticipants_sorted store conversationId
  have member := mem_listParticipants.mpr ⟨there, same⟩
  rw [split] at sorted member
  rcases List.mem_append.mp member with early | late
  · exact absurd other (by simpa using passed participant early)
  · rcases List.mem_cons.mp late with rfl | late
    · exact Or.inr ⟨rfl, le_refl _⟩
    · exact joinedBefore_iff.mp ((List.pairwise_cons.mp (List.pairwise_append.mp sorted).2.1).1 participant late)

theorem handedOver_eq (titled : Titled store) (owns : OwnsGroup store conversationId actorId)
    (succeeds : Succeeds store conversationId actorId successor) {row : Participant}
    (stays : row ∈ remaining store conversationId actorId) :
    row.handedOver conversationId successor.userId =
      if row.id = successor.id then { row with role := .owner } else row := by
  obtain ⟨group, found, isGroup, owner⟩ := owns
  obtain ⟨groupMember, sameId⟩ := Indexed.find_eq_some.mp found
  obtain ⟨listed, apart⟩ := List.mem_filter.mp stays
  by_cases within : row.conversationId = conversationId
  · have other : row.userId ≠ actorId := by simpa [within] using apart
    have plain : row.role = .member := by
      cases role : row.role with
      | member => rfl
      | owner =>
        have owned := titled group groupMember isGroup row listed (within.trans sameId.symm) role
        exact absurd (Option.some.inj (owned.symm.trans owner)) other
    by_cases same : row.userId = successor.userId
    · have seat : row.seat = successor.seat := by simp [Participant.seat, within, succeeds.within, same]
      rw [Indexed.eq_of_index listed succeeds.listed rfl seat.symm]
      simp [Participant.handedOver, Participant.setRole, succeeds.within]
    · have different : row.id ≠ successor.id := fun sameRow =>
        same (congrArg Participant.userId (Table.eq_of_key listed succeeds.listed sameRow))
      rw [if_neg different, Participant.handedOver, if_pos within, if_neg same, Participant.setRole, ← plain]
  · have different : row.id ≠ successor.id := fun sameRow =>
      within ((congrArg Participant.conversationId (Table.eq_of_key listed succeeds.listed sameRow)).trans succeeds.within)
    rw [if_neg different, Participant.handedOver, if_neg within]

theorem departed_removeParticipant (other : ¬ OwnsGroup store conversationId actorId) :
    Departed now store (removeParticipant store conversationId actorId) conversationId actorId where
  handedOver owns := absurd owns other
  dissolved owns := absurd owns other
  left _ := ⟨rfl, rfl⟩
  untouched := untouched_removeParticipant

theorem departed_handOver (titled : Titled store) (owns : OwnsGroup store conversationId actorId)
    (succeeds : Succeeds store conversationId actorId successor) :
    Departed now store (removeParticipant (handOver store now conversationId successor.userId) conversationId actorId)
      conversationId actorId where
  handedOver _ _ := by
    refine ⟨successor, succeeds, rfl, ?_, ?_⟩
    · refine List.map_congr_left fun row _ => ?_
      dsimp only
      simp only [decide_eq_true_eq]
    · exact (remaining_handOver successor.userId).trans
        (List.map_congr_left fun row stays => handedOver_eq titled owns succeeds stays)
  dissolved _ alone := absurd (alone _ ⟨successor, succeeds.listed, succeeds.within, rfl⟩) succeeds.other
  left other := absurd owns other
  untouched := untouched_handOver successor.userId

theorem departed_remove (owns : OwnsGroup store conversationId actorId)
    (alone : ∀ userId, Member store conversationId userId → userId = actorId) :
    Departed now store (ConversationRepository.remove store conversationId) conversationId actorId where
  handedOver _ others := by
    obtain ⟨userId, other, member⟩ := others
    exact absurd (alone userId member) other
  dissolved _ _ := by
    obtain ⟨row, found, _⟩ := owns
    refine ⟨fun existing => ((existing_remove ..).mp existing).2 rfl, ?_⟩
    simp only [ConversationRepository.remove, show store.conversations.find conversationId = some row from found,
      Option.isSome_some, if_true]
    refine ⟨fun row listed => ?_, fun row listed => ?_⟩
    · simpa using (Indexed.mem_deleteWhere.mp listed).2
    · simpa using (Serial.mem_deleteWhere.mp listed).2
  left other := absurd owns other
  untouched := untouched_remove

end Departing

section Leaving

open ConversationService

variable {backend : Backend} {conversationId : ConversationId} {actorId : UserId}

theorem depart_departs (titled : Titled backend.store) (known : Known backend.store)
    (found : findById backend.store conversationId = some conversation) :
    ∃ store, (depart actorId conversation conversationId).Returns backend { backend with store := store } () ∧
      Departed backend.now backend.store store conversationId actorId := by
  have owning : OwnsGroup backend.store conversationId actorId ↔
      (conversation.isGroup && conversation.ownerId = some actorId) = true := by
    simp [OwnsGroup, found]
  unfold depart
  cases owns : conversation.isGroup && conversation.ownerId = some actorId with
  | false =>
    refine ⟨_, ?_, departed_removeParticipant (mt owning.mp (by simp [owns]))⟩
    simp
  | true =>
    cases chosen : (listParticipants backend.store conversationId).find? fun participant => participant.userId ≠ actorId with
    | some successor =>
      have succeeds := succeeds_of_find chosen
      refine ⟨_, ?_, departed_handOver titled (owning.mpr owns) succeeds⟩
      have there : checkUser backend.store "conversations" "owner_id" successor.userId = .ok () :=
        checkUser_eq_ok.mpr (known successor succeeds.listed)
      have transfers : transferOwnership backend.store backend.now conversationId successor.userId =
          .ok (handOver backend.store backend.now conversationId successor.userId, ()) := by
        unfold transferOwnership
        split
        · rw [there]
          rfl
        · rfl
      simp only [if_true, Program.returns_bind, returns_select]
      refine ⟨_, _, ⟨rfl, rfl⟩, ?_⟩
      rw [chosen]
      simp [transfers]
    | none =>
      refine ⟨_, ?_, departed_remove (owning.mpr owns) fun userId member => ?_⟩
      · simp only [if_true, Program.returns_bind, returns_select]
        refine ⟨_, _, ⟨rfl, rfl⟩, ?_⟩
        rw [chosen]
        simp
      · obtain ⟨row, listed, within, rfl⟩ := member
        simpa using List.find?_eq_none.mp chosen row (mem_listParticipants.mpr ⟨listed, within⟩)

theorem listParticipantIds_nodup (store : Store) (conversationId : ConversationId) :
    (listParticipantIds store conversationId).Nodup := by
  have seats : (listParticipantIds store conversationId).map (conversationId, ·) =
      (store.participants.rows.filter fun row => row.conversationId = conversationId).filterMap Participant.seat := by
    rw [listParticipantIds, List.map_map, ← List.filterMap_eq_map]
    refine List.filterMap_congr fun row listed => ?_
    simp only [List.mem_filter, decide_eq_true_eq] at listed
    simp [Participant.seat, listed.2]
  refine List.Nodup.of_map (conversationId, ·) ?_
  rw [seats]
  exact store.participants.unique.sublist (List.filter_sublist.filterMap _)

/-- In every state that the services can bring about, a participant who leaves with no call in
between leaves behind what is said of a departure, and the frame goes to the participants there
were. -/
theorem leave_departs {pool : Calls} (reachable : pool.Reachable)
    (member : Member pool.state.store conversationId actorId) :
    ∃ final recipients, (leave actorId conversationId).Returns pool.state final () ∧
      Departed pool.state.now pool.state.store final.store conversationId actorId ∧
      final.frames = pool.state.frames ++
        [⟨recipients, "conversation.member_removed", .member conversationId actorId⟩] ∧
      recipients.Nodup ∧ ∀ userId, userId ∈ recipients ↔ Member pool.state.store conversationId userId := by
  have kept := reachable.kept
  obtain ⟨conversation, found⟩ := Option.isSome_iff_exists.mp (findById_isSome.mpr (kept.seated _ _ member))
  obtain ⟨store, departs, departed⟩ := depart_departs kept.titled kept.known found
  let recipients := listParticipantIds pool.state.store conversationId
  let frame : Frame := ⟨recipients, "conversation.member_removed", .member conversationId actorId⟩
  refine ⟨{ pool.state with store := store, frames := pool.state.frames ++ [frame] }, recipients, ?_, departed, rfl,
    listParticipantIds_nodup _ _, fun userId => mem_listParticipantIds⟩
  have required : (requireConversation conversationId).Returns pool.state pool.state conversation := by
    simp [requireConversation, found]
  have allowed : (requireParticipant conversationId actorId).Returns pool.state pool.state () := by
    simp [requireParticipant, isParticipant_iff.mpr member]
  simp only [leave, Program.returns_bind, returns_select, returns_broadcast]
  exact ⟨_, _, required, _, _, allowed, _, _, ⟨rfl, rfl⟩, _, _, departs, rfl⟩

theorem Calls.Reachable.run {final : Calls} {labels : List Calls.Label} (reachable : pool.Reachable)
    (runs : chat.step.run pool labels = some final) : final.Reachable :=
  Step.run_invariant Calls.Reachable (fun before moves => before.called moves) reachable runs

/-- The founder of a group leaves, and the other member owns it. -/
theorem leave_departs_founder :
    ∃ pool final successor, chat.step.run (Calls.initial annAndBob) founded = some pool ∧
      (leave 1 1).Returns pool.state final () ∧ successor.userId = 2 ∧ Succeeds pool.state.store 1 1 successor ∧
      Departed pool.state.now pool.state.store final.store 1 1 := by
  obtain ⟨pool, runs, shown⟩ := (Option.any_eq_true _ _).mp (by decide +kernel :
    (chat.step.run (Calls.initial annAndBob) founded).any fun pool =>
      (findById pool.state.store 1).any (fun row => row.isGroup && row.ownerId = some 1) &&
        isParticipant pool.state.store 1 1 && isParticipant pool.state.store 1 2 &&
        pool.state.store.participants.rows.all fun row => row.userId = 1 || row.userId = 2)
  simp only [Bool.and_eq_true, Option.any_eq_true, decide_eq_true_eq, isParticipant_iff, List.all_eq_true,
    Bool.or_eq_true] at shown
  obtain ⟨⟨⟨⟨row, found, group, owner⟩, member⟩, other⟩, everyone⟩ := shown
  have reachable := (Calls.Reachable.initial annAndBob).run runs
  obtain ⟨final, recipients, returns, departed, _⟩ := leave_departs reachable member
  obtain ⟨successor, succeeds, _⟩ := departed.handedOver ⟨row, found, group, owner⟩ ⟨2, by decide, other⟩
  exact ⟨pool, final, successor, runs, returns, (everyone successor succeeds.listed).resolve_left succeeds.other,
    succeeds, departed⟩

end Leaving

end RealtimeChat.Chat
