import Mathlib.Data.List.Pairwise
import RealtimeChat.Chat.Marks

/-! What `mark_read` tells the others against what it stores.

The store keeps the greater of the marker it has and the id it is given, while
the frame carries the id. They are the same as long as the ids do not go back.
-/

set_option autoImplicit false

namespace RealtimeChat.Chat

open Foundation Accounts ConversationRepository

def lastRead (store : Store) (conversationId : ConversationId) (userId : UserId) : Option MessageId :=
  (findParticipant store conversationId userId).bind Participant.lastReadMessageId

def Frame.lastRead (conversationId : ConversationId) (userId : UserId) (frame : Frame) : Option MessageId :=
  match frame.payload with
  | .lastRead within reader upToMessageId =>
    if frame.event = "read.update" ∧ within = conversationId ∧ reader = userId then some upToMessageId else none
  | _ => none

/-- Calls of `mark_read` by one user for one conversation, each with its id and time, to its end. -/
def marking (actorId : UserId) (conversationId : ConversationId) : Step Backend (MessageId × TimePoint) :=
  fun backend call => some
    ((ReadReceiptService.markRead actorId conversationId call.1).run { backend with now := call.2 }).1

def Truthful (actorId : UserId) (conversationId : ConversationId) (backend : Backend) (call : MessageId × TimePoint) :
    Prop :=
  ∀ final ∈ marking actorId conversationId backend call, ∀ frame ∈ final.frames.drop backend.frames.length,
    ∀ upToMessageId ∈ frame.lastRead conversationId actorId,
      lastRead final.store conversationId actorId = some upToMessageId

section Repository

open ReadReceiptRepository

variable {store : Store} {userId : UserId}

theorem markRead_ok {messageId : MessageId} (stored : (store.messages.find messageId).isSome)
    (known : (store.users.find userId).isSome) (now : TimePoint) :
    ∃ next, markRead now userId store messageId = .ok next := by
  simp only [markRead, upsert, checkMessage, checkUser, if_pos stored, if_pos known, map_eq_ok]
  split
  · exact ⟨_, _, rfl, rfl⟩
  · exact ⟨_, _, rfl, rfl⟩

theorem markReads_ok {messageIds : List MessageId} (known : (store.users.find userId).isSome) (now : TimePoint)
    (stored : ∀ messageId ∈ messageIds, (store.messages.find messageId).isSome) :
    ∃ next, messageIds.foldlM (markRead now userId) store = .ok next := by
  induction messageIds generalizing store with
  | nil => exact ⟨store, rfl⟩
  | cons messageId rest ih =>
    obtain ⟨between, marked⟩ := markRead_ok (stored messageId List.mem_cons_self) known now
    have only := markRead_only marked
    obtain ⟨next, others⟩ := @ih between (by rwa [only]) fun other member => by
      rw [only]
      exact stored other (List.mem_cons_of_mem _ member)
    exact ⟨next, bind_eq_ok.mpr ⟨between, marked, others⟩⟩

theorem markConversationRead_ok (known : (store.users.find userId).isSome) (now : TimePoint)
    (conversationId : ConversationId) (upToMessageId : MessageId) :
    ∃ next, markConversationRead store now conversationId userId upToMessageId = .ok (next, ()) := by
  obtain ⟨next, marked⟩ := markReads_ok known now fun messageId (listed : messageId ∈
      (store.messages.table.select fun message => message.conversationId = conversationId &&
        message.id ≤ upToMessageId && message.senderId ≠ userId).map Message.id) => by
    obtain ⟨message, selected, rfl⟩ := List.mem_map.mp listed
    rw [Serial.find_eq_some.mpr ⟨(List.mem_filter.mp selected).1, rfl⟩]
    rfl
  exact ⟨next, bind_eq_ok.mpr ⟨next, marked, rfl⟩⟩

end Repository

section Service

variable {backend final : Backend} {actorId : UserId} {conversationId : ConversationId}
  {calls : List (MessageId × TimePoint)}

theorem lastRead_updateLastRead {store : Store} (member : Member store conversationId actorId) (messageId : MessageId) :
    lastRead (updateLastRead store conversationId actorId messageId) conversationId actorId =
      some (max ((lastRead store conversationId actorId).getD 0) messageId) := by
  obtain ⟨row, listed, rfl, rfl⟩ := member
  have updated : { row with lastReadMessageId := some (max (row.lastReadMessageId.getD 0) messageId) } ∈
      (updateLastRead store row.conversationId row.userId messageId).participants :=
    Serial.mem_updateWhere.mpr ⟨row, listed, by simp⟩
  rw [lastRead, lastRead, findParticipant, findParticipant, Indexed.lookup_of_mem updated rfl,
    Indexed.lookup_of_mem listed rfl]
  rfl

theorem requireParticipant_run (backend : Backend) (conversationId : ConversationId) (userId : UserId) :
    (ReadReceiptService.requireParticipant conversationId userId).run backend =
      (backend, if isParticipant backend.store conversationId userId then .ok ()
        else .error ⟨.notFound, "Conversation not found", ""⟩) := by
  change (if !isParticipant backend.store conversationId userId then fail _ else pure () : Service Unit).run
    backend = _
  cases isParticipant backend.store conversationId userId <;> rfl

theorem marking_member (member : Member backend.store conversationId actorId)
    (known : (backend.store.users.find actorId).isSome) (upToMessageId : MessageId) (now : TimePoint) :
    ∃ next recipients, marking actorId conversationId backend (upToMessageId, now) = some next ∧
      next.frames = backend.frames ++ [⟨recipients, "read.update", .lastRead conversationId actorId upToMessageId⟩] ∧
      lastRead next.store conversationId actorId =
        some (max ((lastRead backend.store conversationId actorId).getD 0) upToMessageId) ∧
      Member next.store conversationId actorId ∧ (next.store.users.find actorId).isSome := by
  obtain ⟨store, marked⟩ := markConversationRead_ok known now conversationId upToMessageId
  have only := markConversationRead_only marked
  have seated : Member store conversationId actorId := by
    rw [only]
    exact member
  have admitted : (ReadReceiptService.requireParticipant conversationId actorId).Returns { backend with now := now }
      { backend with now := now } () := by
    rw [Program.Returns, requireParticipant_run, if_pos (isParticipant_iff.mpr member)]
  have returns : (ReadReceiptService.markRead actorId conversationId upToMessageId).Returns
      { backend with now := now }
      { backend with
        now := now
        store := updateLastRead store conversationId actorId upToMessageId
        frames := backend.frames ++ [⟨listParticipantIds (updateLastRead store conversationId actorId upToMessageId)
          conversationId, "read.update", .lastRead conversationId actorId upToMessageId⟩] } () := by
    simp only [ReadReceiptService.markRead, Program.returns_bind, returns_transaction, returns_select,
      returns_broadcast]
    exact ⟨_, (), admitted, _, (), ⟨store, marked, rfl⟩, _, (), ⟨_, rfl, rfl⟩, _, _, ⟨rfl, rfl⟩, rfl⟩
  refine ⟨_, _, congrArg (fun run => some (Prod.fst run)) returns, rfl, ?_, ?_, ?_⟩
  · rw [lastRead_updateLastRead seated, only]
    rfl
  · exact (member_updateWhere store _ _ _ conversationId actorId).mpr seated
  · rw [only]
    exact known

theorem marking_other (other : ¬ Member backend.store conversationId actorId) (call : MessageId × TimePoint) :
    marking actorId conversationId backend call = some { backend with now := call.2 } := by
  have refused := requireParticipant_run { backend with now := call.2 } conversationId actorId
  rw [if_neg (mt isParticipant_iff.mp other)] at refused
  change some (Program.run (Program.bind _ (ReadReceiptService.requireParticipant conversationId actorId)) _).1 = _
  rw [Program.run_bind, refused]

theorem Frame.lastRead_of (recipients : List UserId) (upToMessageId : MessageId) : Frame.lastRead conversationId actorId
      ⟨recipients, "read.update", .lastRead conversationId actorId upToMessageId⟩ = some upToMessageId := by
  simp [Frame.lastRead]

section

variable (member : Member backend.store conversationId actorId) (known : (backend.store.users.find actorId).isSome)

include member known

theorem marking_frames (runs : (marking actorId conversationId).run backend calls = some final) :
    ∃ frames, final.frames = backend.frames ++ frames ∧
      frames.filterMap (Frame.lastRead conversationId actorId) = calls.map Prod.fst := by
  induction calls generalizing backend with
  | nil =>
    cases runs
    exact ⟨[], (List.append_nil _).symm, rfl⟩
  | cons call rest ih =>
    obtain ⟨next, moves, runs⟩ := Step.run_cons.mp runs
    obtain ⟨_, recipients, same, sent, _, member, known⟩ := marking_member member known call.1 call.2
    cases moves.symm.trans same
    obtain ⟨frames, later, shown⟩ := ih member known runs
    refine ⟨_ :: frames, later.trans (by rw [sent, List.append_assoc]; rfl), ?_⟩
    rw [List.filterMap_cons_some (Frame.lastRead_of recipients call.1), shown, List.map_cons]

/-- A participant's call tells what it stores exactly if its id is not below the marker. -/
theorem truthful_iff (call : MessageId × TimePoint) : Truthful actorId conversationId backend call ↔
      (Chat.lastRead backend.store conversationId actorId).getD 0 ≤ call.1 := by
  obtain ⟨next, recipients, moves, sent, stored, _⟩ := marking_member member known call.1 call.2
  have moves : marking actorId conversationId backend call = some next := moves
  simp [Truthful, moves, sent, Frame.lastRead_of, stored]

theorem marking_truthful (runs : (marking actorId conversationId).run backend calls = some final) :
    (marking actorId conversationId).Guarded (Truthful actorId conversationId) backend calls ↔
      ((Chat.lastRead backend.store conversationId actorId).getD 0 :: calls.map Prod.fst).Pairwise (· ≤ ·) := by
  induction calls generalizing backend with
  | nil => simp [Step.Guarded]
  | cons call rest ih =>
    obtain ⟨next, moves, runs⟩ := Step.run_cons.mp runs
    rw [Step.guarded_cons moves, truthful_iff member known, List.map_cons, List.pairwise_cons_cons_iff_of_trans]
    obtain ⟨_, _, same, _, stored, member, known⟩ := marking_member member known call.1 call.2
    cases moves.symm.trans same
    refine and_congr_right fun forward => ?_
    rw [ih member known runs, stored, Option.getD_some, max_eq_right forward]

end

theorem marking_run_other (other : ¬ Member backend.store conversationId actorId)
    (runs : (marking actorId conversationId).run backend calls = some final) :
    (marking actorId conversationId).Guarded (Truthful actorId conversationId) backend calls ∧
      final.frames = backend.frames := by
  induction calls generalizing backend with
  | nil =>
    cases runs
    exact ⟨trivial, rfl⟩
  | cons call rest ih =>
    obtain ⟨next, moves, runs⟩ := Step.run_cons.mp runs
    cases moves.symm.trans (marking_other other call)
    rw [Step.guarded_cons moves]
    obtain ⟨truthful, frames⟩ := @ih { backend with now := call.2 } other runs
    exact ⟨⟨by simp [Truthful, moves], truthful⟩, frames⟩

end Service

/-- In every sequence of a user's calls for a conversation, each `read.update` tells the marker that
the call has left and their order never goes back, exactly if the user is not a participant, so that
there are none, or no id is below the marker that was there or below an earlier id. -/
theorem read_updates_truthful_iff {backend final : Backend} {actorId : UserId} {conversationId : ConversationId}
    {calls : List (MessageId × TimePoint)} (known : (backend.store.users.find actorId).isSome)
    (runs : (marking actorId conversationId).run backend calls = some final) :
    ((marking actorId conversationId).Guarded (Truthful actorId conversationId) backend calls ∧
      ((final.frames.drop backend.frames.length).filterMap (Frame.lastRead conversationId actorId)).Pairwise
        (· ≤ ·)) ↔
    (Member backend.store conversationId actorId →
      ((lastRead backend.store conversationId actorId).getD 0 :: calls.map Prod.fst).Pairwise (· ≤ ·)) := by
  by_cases member : Member backend.store conversationId actorId
  · obtain ⟨frames, sent, shown⟩ := marking_frames member known runs
    rw [marking_truthful member known runs, sent, List.drop_left, shown, imp_iff_right member]
    exact and_iff_left_of_imp fun forward => forward.of_cons
  · obtain ⟨truthful, frames⟩ := marking_run_other member runs
    simp [member, truthful, frames]

/-- The second user reads up to the first message, and says so once more. -/
theorem read_updates_truthful_iff_again : ∃ final, (marking 2 1).run greeted.state [(1, 0), (1, 0)] = some final ∧
      (marking 2 1).Guarded (Truthful 2 1) greeted.state [(1, 0), (1, 0)] ∧
      ((final.frames.drop greeted.state.frames.length).filterMap (Frame.lastRead 1 2)).Pairwise (· ≤ ·) := by
  have known : (greeted.state.store.users.find 2).isSome := by decide +kernel
  have forward : ((lastRead greeted.state.store 1 2).getD 0 :: [1, 1]).Pairwise (· ≤ ·) := by decide +kernel
  obtain ⟨final, runs⟩ : ∃ final, (marking 2 1).run greeted.state [(1, 0), (1, 0)] = some final := ⟨_, rfl⟩
  exact ⟨final, runs, (read_updates_truthful_iff known runs).mpr fun _ => forward⟩

/-- A smaller id after a greater one is broadcast as it is, while the marker stays. -/
theorem read_update_goes_back : ∃ final, (marking 2 1).run greeted.state [(10, 0), (5, 0)] = some final ∧
      lastRead final.store 1 2 = some 10 ∧
      (final.frames.drop greeted.state.frames.length).filterMap (Frame.lastRead 1 2) = [10, 5] ∧
      ¬ (marking 2 1).Guarded (Truthful 2 1) greeted.state [(10, 0), (5, 0)] := by
  have outcome : ((marking 2 1).run greeted.state [(10, 0), (5, 0)]).any (fun final =>
      lastRead final.store 1 2 = some 10 &&
      (final.frames.drop greeted.state.frames.length).filterMap (Frame.lastRead 1 2) = [10, 5]) = true := by
    decide +kernel
  obtain ⟨final, runs, shown⟩ := (Option.any_eq_true _ _).mp outcome
  simp only [Bool.and_eq_true, decide_eq_true_eq] at shown
  have member : Member greeted.state.store 1 2 := isParticipant_iff.mp (by decide +kernel)
  have backwards : ¬ ((lastRead greeted.state.store 1 2).getD 0 :: [10, 5]).Pairwise (· ≤ ·) := by decide +kernel
  exact ⟨final, runs, shown.1, shown.2, mt (marking_truthful member (by decide +kernel) runs).mp backwards⟩

end RealtimeChat.Chat
