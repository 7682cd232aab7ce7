import RealtimeChat.Foundation.Evolution
import RealtimeChat.Chat.Calls

/-! The stored messages over time.

Messages are appended under growing ids, edited and soft-deleted in place, and
dropped with their conversation. None of this changes where a message was sent
or by whom.
-/

set_option autoImplicit false

namespace RealtimeChat.Chat

open Foundation Accounts

def Message.SameOrigin (old new : Message) : Prop :=
  new.conversationId = old.conversationId ∧ new.senderId = old.senderId

theorem Message.SameOrigin.refl (message : Message) : message.SameOrigin message := ⟨rfl, rfl⟩

theorem Message.SameOrigin.trans {first second third : Message} (earlier : first.SameOrigin second)
    (later : second.SameOrigin third) : first.SameOrigin third :=
  ⟨later.1.trans earlier.1, later.2.trans earlier.2⟩

abbrev Continues (store next : Store) : Prop := store.messages.Evolves Message.SameOrigin next.messages

namespace Continues

variable {store between next : Store} {now : TimePoint}

theorem refl (store : Store) : Continues store store := Serial.Evolves.refl Message.SameOrigin.refl _

theorem trans (first : Continues store between) (second : Continues between next) : Continues store next :=
  Serial.Evolves.trans Message.SameOrigin.trans first second

theorem of_messages (same : next.messages = store.messages) : Continues store next := by
  rw [Continues, same]
  exact refl store

theorem of_rooms (rooms : WritesRooms store next) : Continues store next := by
  rw [rooms]
  exact of_messages rfl

theorem updateUndeleted {messageId : MessageId} {change : Message → Message}
    {keeps : ∀ message, (change message).id = message.id} {message : Message}
    (updated : MessageRepository.updateUndeleted store now messageId change keeps = .ok (next, message))
    (origin : ∀ row : Message, row.SameOrigin (change row)) : Continues store next := by
  unfold MessageRepository.updateUndeleted at updated
  split at updated <;> cases updated
  exact Serial.Evolves.updateWhere Message.SameOrigin.refl _ _ _ fun row => origin row

theorem remove (store : Store) (conversationId : ConversationId) :
    Continues store (ConversationRepository.remove store conversationId) := by
  unfold ConversationRepository.remove
  split
  · exact Serial.Evolves.deleteWhere Message.SameOrigin.refl _ _
  · exact refl store

end Continues

theorem Action.Transacts.continues {now : TimePoint} {store next : Store} {action : Action}
    (transacts : Action.Transacts now store action next) : Continues store next := by
  cases transacts with
  | reads => exact Continues.refl store
  | removeParticipant | updateLastRead => exact Continues.of_messages rfl
  | removeConversation conversationId => exact Continues.remove store conversationId
  | createOrGetDirect created => exact Continues.of_rooms (createOrGetDirect_rooms created)
  | createGroup created => exact Continues.of_rooms (createGroup_rooms created)
  | addParticipant added => exact Continues.of_rooms (insertParticipant_rooms (addParticipant_inserted added))
  | transferOwnership transferred => exact Continues.of_rooms (transferOwnership_rooms transferred)
  | createMessage created =>
    obtain ⟨_, rfl⟩ := createMessage_stored created
    exact Serial.Evolves.append Message.SameOrigin.refl _ _ (MessageRepository.messageRow_id now _)
  | linkToMessage done =>
    rw [linkToMessage_only done]
    exact Continues.of_messages rfl
  | updateContent updated | softDelete updated => exact Continues.updateUndeleted updated fun _ => ⟨rfl, rfl⟩
  | upsertState upserted =>
    rw [upsertReceipt_only upserted]
    exact Continues.of_messages rfl
  | markConversationRead marked =>
    rw [markConversationRead_only marked]
    exact Continues.of_messages rfl

end RealtimeChat.Chat
