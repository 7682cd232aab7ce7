import RealtimeChat.Chat.Receipts

/-! What the transactions are made of and which tables they write.

A transaction that succeeds has gone through its checks and statements one by
one; what it leaves can be followed from there.
-/

set_option autoImplicit false

namespace RealtimeChat.Chat

open Foundation Accounts

variable {store next : Store} {now : TimePoint}

variable {message : Message} {messageId : MessageId} {ownerId : UserId} {done : Unit}

theorem createMessage_stored {input : NewMessage}
    (created : MessageRepository.create store now input = .ok (next, message)) :
    message = MessageRepository.messageRow now input store.messages.next ∧ next = { store with
      messages := store.messages.append (MessageRepository.messageRow now input)
        (MessageRepository.messageRow_id now input)
      conversations := store.conversations.updateWhere (fun row => row.id = input.conversationId)
        (fun row => { row with lastMessageAt := some now, updatedAt := now }) (fun _ => rfl) fun _ => rfl } := by
  obtain ⟨_, _, rest⟩ := bind_eq_ok.mp created
  obtain ⟨_, _, same⟩ := bind_eq_ok.mp rest
  cases same
  exact ⟨rfl, rfl⟩

theorem updateUndeleted_only {change : Message → Message} {keeps : ∀ message, (change message).id = message.id}
    (updated : MessageRepository.updateUndeleted store now messageId change keeps = .ok (next, message)) :
    next = { store with messages := next.messages } := by
  unfold MessageRepository.updateUndeleted at updated
  split at updated <;> cases updated
  rfl

theorem link_only {linked after : Store × Nat} {id : Int}
    (done : AttachmentRepository.link messageId ownerId linked id = .ok after) :
    after.1 = { linked.1 with attachments := after.1.attachments } := by
  simp only [AttachmentRepository.link] at done
  split at done
  · obtain ⟨_, _, same⟩ := bind_eq_ok.mp done
    cases same
    rfl
  · cases done
    rfl

theorem linkToMessage_only {attachmentIds : List Int} {linked : Nat}
    (done : AttachmentRepository.linkToMessage store attachmentIds messageId ownerId = .ok (next, linked)) :
    next = { store with attachments := next.attachments } := by
  have kept := foldlM_keeps (fun linked : Store × Nat => { linked.1 with attachments := store.attachments })
    (fun before _ after linked => by rw [link_only linked]) done
  exact Eq.trans (by rfl) (congrArg (fun kept : Store => { kept with attachments := next.attachments }) kept)

variable {userId : UserId}

theorem upsertReceipt_only {state : ReceiptState} {change : ReadReceipt → ReadReceipt}
    {keeps : ∀ row, (change row).id = row.id} {keepsSeat : ∀ row, (change row).seat = row.seat}
    {receipt : ReadReceipt}
    (done : ReadReceiptRepository.upsert store now messageId userId state change keeps keepsSeat = .ok (next, receipt)) :
    next = { store with receipts := next.receipts } := by
  simp only [ReadReceiptRepository.upsert] at done
  split at done
  · obtain ⟨_, _, rest⟩ := bind_eq_ok.mp done
    obtain ⟨_, _, same⟩ := bind_eq_ok.mp rest
    cases same
    rfl
  · cases done
    rfl

theorem markRead_only (marked : ReadReceiptRepository.markRead now userId store messageId = .ok next) :
    next = { store with receipts := next.receipts } := by
  obtain ⟨⟨_, receipt⟩, upserted, rfl⟩ := map_eq_ok.mp marked
  exact upsertReceipt_only upserted

theorem markReads_only {messageIds : List MessageId}
    (marked : messageIds.foldlM (ReadReceiptRepository.markRead now userId) store = .ok next) :
    next = { store with receipts := next.receipts } := by
  have kept := foldlM_keeps (fun marked : Store => { marked with receipts := store.receipts })
    (fun before messageId after marked => by rw [markRead_only marked]) marked
  exact congrArg (fun kept : Store => { kept with receipts := next.receipts }) kept

theorem markConversationRead_only {conversationId : ConversationId} {upToMessageId : MessageId}
    (marked : ReadReceiptRepository.markConversationRead store now conversationId userId upToMessageId =
      .ok (next, done)) : next = { store with receipts := next.receipts } := by
  obtain ⟨final, folded, same⟩ := bind_eq_ok.mp marked
  cases same
  exact markReads_only folded

section Rooms

open ConversationRepository

def WritesRooms (store next : Store) : Prop :=
  next = { store with conversations := next.conversations, participants := next.participants }

theorem WritesRooms.refl (store : Store) : WritesRooms store store := rfl

theorem WritesRooms.trans {between : Store} (first : WritesRooms store between) (second : WritesRooms between next) :
    WritesRooms store next := by
  rw [WritesRooms] at first second ⊢
  rw [second, first]

variable {conversationId : ConversationId} {userId : UserId} {role : ParticipantRole}

theorem insertParticipant_inserted
    (inserted : insertParticipant store now conversationId userId role = some (.ok next)) :
    checkConversation store "conversation_participants" conversationId = .ok () ∧
      ∃ participants, store.participants.insert (conversationId, userId) (seatRow now conversationId userId role)
          (seatRow_id now conversationId userId role) (seatRow_seat now conversationId userId role) =
            some participants ∧ next = { store with participants := participants } := by
  obtain ⟨participants, accepted, checks⟩ := Option.map_eq_some_iff.mp inserted
  obtain ⟨_, known, checks⟩ := bind_eq_ok.mp checks
  obtain ⟨_, _, same⟩ := bind_eq_ok.mp checks
  cases same
  exact ⟨known, participants, accepted, rfl⟩

theorem addParticipant_inserted (added : addParticipant store now conversationId userId role = .ok (next, done)) :
    insertParticipant store now conversationId userId role = some (.ok next) := by
  unfold addParticipant at added
  split at added
  · next inserted found =>
    obtain ⟨final, stored, same⟩ := map_eq_ok.mp added
    cases same
    rw [found, stored]
  · cases added

theorem seat_inserted (seats : seat now conversationId role store userId = .ok next) :
    (insertParticipant store now conversationId userId role = none ∧ next = store) ∨
      insertParticipant store now conversationId userId role = some (.ok next) := by
  unfold seat at seats
  cases inserted : insertParticipant store now conversationId userId role with
  | none =>
    rw [inserted] at seats
    cases seats
    exact Or.inl ⟨rfl, rfl⟩
  | some outcome =>
    rw [inserted] at seats
    exact Or.inr (congrArg some seats)

variable {first second : UserId} {conversation : Conversation} {name : String} {memberIds : List UserId}

theorem createOrGetDirect_seats (created : createOrGetDirect store now first second = .ok (next, conversation)) :
    conversation = (upsertDirect store now (directKey first second)).2 ∧
      ∃ between, seat now conversation.id .member (upsertDirect store now (directKey first second)).1 first =
          .ok between ∧ seat now conversation.id .member between second = .ok next := by
  unfold createOrGetDirect at created
  obtain ⟨between, firstSeat, rest⟩ := bind_eq_ok.mp created
  obtain ⟨final, secondSeat, same⟩ := bind_eq_ok.mp rest
  cases same
  exact ⟨rfl, between, firstSeat, secondSeat⟩

theorem createGroup_seats (created : createGroup store now ownerId name memberIds = .ok (next, conversation)) :
    conversation = groupRow now ownerId name store.conversations.next ∧
      ∃ between, addParticipant { store with
            conversations := store.conversations.append (groupRow now ownerId name) (groupRow_id now ownerId name)
              fun _ shown => (nomatch shown) } now store.conversations.next ownerId .owner = .ok (between, ()) ∧
          (memberIds.filter (· ≠ ownerId)).foldlM (seat now store.conversations.next .member) between = .ok next := by
  obtain ⟨_, _, created⟩ := bind_eq_ok.mp created
  obtain ⟨⟨between, _⟩, owner, rest⟩ := bind_eq_ok.mp created
  obtain ⟨final, members, same⟩ := bind_eq_ok.mp rest
  cases same
  exact ⟨rfl, between, owner, members⟩

theorem checkUser_eq_ok {table column : String} :
    checkUser store table column userId = .ok () ↔ (store.users.find userId).isSome = true := by
  unfold checkUser
  split <;> simp_all

theorem transferOwnership_handOver
    (transferred : transferOwnership store now conversationId userId = .ok (next, done)) :
    (∀ row ∈ findById store conversationId, (store.users.find userId).isSome = true) ∧
      handOver store now conversationId userId = next := by
  unfold transferOwnership at transferred
  split at transferred
  · obtain ⟨_, known, same⟩ := bind_eq_ok.mp transferred
    exact ⟨fun _ _ => checkUser_eq_ok.mp known, congrArg Prod.fst (Except.ok.inj same)⟩
  · next absent =>
    refine ⟨fun row found => absurd ?_ absent, congrArg Prod.fst (Except.ok.inj transferred)⟩
    exact Option.isSome_iff_exists.mpr ⟨row, found⟩

theorem insertParticipant_rooms
    (inserted : insertParticipant store now conversationId userId role = some (.ok next)) : WritesRooms store next := by
  obtain ⟨_, participants, _, rfl⟩ := insertParticipant_inserted inserted
  rfl

theorem seat_rooms (seats : seat now conversationId role store userId = .ok next) : WritesRooms store next := by
  rcases seat_inserted seats with ⟨_, rfl⟩ | inserted
  · rfl
  · exact insertParticipant_rooms inserted

theorem createOrGetDirect_rooms (created : createOrGetDirect store now first second = .ok (next, conversation)) :
    WritesRooms store next := by
  obtain ⟨_, between, firstSeat, secondSeat⟩ := createOrGetDirect_seats created
  have upserted : WritesRooms store (upsertDirect store now (directKey first second)).1 := rfl
  exact upserted.trans ((seat_rooms firstSeat).trans (seat_rooms secondSeat))

theorem createGroup_rooms (created : createGroup store now ownerId name memberIds = .ok (next, conversation)) :
    WritesRooms store next := by
  obtain ⟨_, between, owner, members⟩ := createGroup_seats created
  have opened : ∀ conversations, WritesRooms store { store with conversations := conversations } := fun _ => rfl
  exact (opened _).trans ((insertParticipant_rooms (addParticipant_inserted owner)).trans
    (foldlM_relates WritesRooms.refl WritesRooms.trans seat_rooms members))

theorem transferOwnership_rooms (transferred : transferOwnership store now conversationId userId = .ok (next, done)) :
    WritesRooms store next := by
  obtain ⟨_, rfl⟩ := transferOwnership_handOver transferred
  rfl

end Rooms

end RealtimeChat.Chat
