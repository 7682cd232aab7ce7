import Mathlib.Data.Finset.Basic
import RealtimeChat.Audit.Service
import RealtimeChat.Chat.Calls

/-! The membership that the audited events tell against the one that is stored.

Replaying the events that `ConversationService` publishes gives the conversations
and their participants, as long as nobody leaves: a departure is stored and
broadcast to the clients, and no event is published for it.
-/

set_option autoImplicit false

namespace RealtimeChat.Chat

open Foundation Accounts ConversationRepository

def DomainEvent.type : DomainEvent → Events.EventType
  | .conversationCreated _ _ _ _ => .conversationCreated
  | .conversationDeleted _ _ => .conversationDeleted
  | .memberAdded _ _ _ => .memberAdded
  | .memberRemoved _ _ _ => .memberRemoved
  | .messageSent _ _ _ _ _ => .messageSent
  | .messageEdited _ _ _ => .messageEdited
  | .messageDeleted _ _ _ _ => .messageDeleted
  | .adminAction _ _ _ _ _ => .adminAction

abbrev Roster := ConversationId → Option (Finset UserId)

def Roster.replay (roster : Roster) : DomainEvent → Roster
  | .conversationCreated conversationId _ _ participantIds =>
    Function.update roster conversationId (some participantIds.toFinset)
  | .conversationDeleted conversationId _ => Function.update roster conversationId none
  | .memberAdded conversationId memberId _ =>
    Function.update roster conversationId ((roster conversationId).map (insert memberId))
  | .memberRemoved conversationId memberId _ =>
    Function.update roster conversationId ((roster conversationId).map fun members => members.erase memberId)
  | .messageSent _ _ _ _ _ | .messageEdited _ _ _ | .messageDeleted _ _ _ _ | .adminAction _ _ _ _ _ => roster

def replay (events : List DomainEvent) : Roster :=
  (events.filter fun event => Audit.isAuditable event.type).foldl Roster.replay fun _ => none

def Tells (store : Store) (conversationId : ConversationId) : Option (Finset UserId) → Prop
  | none => ¬ Existing store conversationId
  | some members => Existing store conversationId ∧ ∀ userId, userId ∈ members ↔ Member store conversationId userId

/-- The published events tell exactly the conversations and participants that are stored. -/
def Replays (backend : Backend) : Prop :=
  ∀ conversationId, Tells backend.store conversationId (replay backend.events conversationId)

variable {backend final : Backend} {call : Operation × TimePoint}

namespace Operation

def step : Step Backend (Operation × TimePoint) := fun backend call =>
  match call.1.call.run { backend with now := call.2 } with
  | (final, .ok _) => some final
  | (_, .error _) => none

def isLeave : Operation → Bool
  | .leave _ _ => true
  | _ => false

theorem step_returns (moves : step backend call = some final) :
    ∃ done, call.1.call.Returns { backend with now := call.2 } final done := by
  unfold step at moves
  split at moves
  · next done returned =>
    cases moves
    exact ⟨done, returned⟩
  · cases moves

end Operation

structure Touches (store next : Store) (conversationId : ConversationId) : Prop where
  existing : ∀ other, other ≠ conversationId → (Existing next other ↔ Existing store other)
  members : ∀ other userId, other ≠ conversationId → (Member next other userId ↔ Member store other userId)

section Touches

variable {store between next : Store} {conversationId : ConversationId} {roster : Roster}

variable {entry : Option (Finset UserId)}

theorem Tells.congr {first second : Store} (existing : Existing second conversationId ↔ Existing first conversationId)
    (members : ∀ userId, Member second conversationId userId ↔ Member first conversationId userId)
    (tells : Tells first conversationId entry) : Tells second conversationId entry := by
  cases entry with
  | none => exact mt existing.mp tells
  | some listed => exact ⟨existing.mpr tells.1, fun userId => (tells.2 userId).trans (members userId).symm⟩

theorem Tells.members (tells : Tells store conversationId entry) (existing : Existing store conversationId) :
    ∃ members, entry = some members ∧ ∀ userId, userId ∈ members ↔ Member store conversationId userId := by
  cases entry with
  | none => exact absurd existing tells
  | some members => exact ⟨members, rfl, tells.2⟩

theorem Touches.tells (touches : Touches store next conversationId)
    (tells : ∀ other, Tells store other (roster other)) (here : Tells next conversationId entry) :
    ∀ other, Tells next other (Function.update roster conversationId entry other) := by
  intro other
  by_cases same : other = conversationId
  · subst same
    rwa [Function.update_self]
  · rw [Function.update_of_ne same]
    exact (tells other).congr (touches.existing other same) fun userId => touches.members other userId same

theorem Joins.touches {joining : UserId → Prop} (opens : Opens store between conversationId)
    (joins : Joins between next conversationId joining) :
    Existing next conversationId ∧ Touches store next conversationId := by
  have existing (other : ConversationId) : Existing next other ↔ Existing store other ∨ other = conversationId := by
    rw [← opens.existing, Existing, Existing, joins.conversations]
  refine ⟨(existing _).mpr (Or.inr rfl), fun other apart => ?_, fun other userId apart => ?_⟩
  · rw [existing, or_iff_left apart]
  · rw [joins.members, opens.members, or_iff_left fun here => apart here.1]

theorem removeParticipant_touches (store : Store) (conversationId : ConversationId) (userId : UserId) :
    Touches store (removeParticipant store conversationId userId) conversationId := by
  refine ⟨fun _ _ => Iff.rfl, fun other user apart => ?_⟩
  rw [member_removeParticipant]
  exact and_iff_left fun here => apart here.1

theorem remove_touches (seated : Seated store) (conversationId : ConversationId) :
    Touches store (ConversationRepository.remove store conversationId) conversationId := by
  refine ⟨fun other apart => ?_, fun other userId apart => ?_⟩
  · rw [existing_remove]
    exact and_iff_left apart
  · rw [member_remove seated]
    exact and_iff_left apart

end Touches

theorem replay_append (events more : List DomainEvent) :
    replay (events ++ more) = (more.filter fun event => Audit.isAuditable event.type).foldl Roster.replay (replay events) := by
  simp only [replay, List.filter_append, List.foldl_append]

theorem tells_listed {store : Store} {conversationId : ConversationId} (existing : Existing store conversationId) :
    Tells store conversationId (some (listParticipantIds store conversationId).toFinset) := by
  refine ⟨existing, fun userId => ?_⟩
  rw [List.mem_toFinset]
  exact mem_listParticipantIds

namespace Operation

variable {now : TimePoint} {store next : Store} {operation : Operation} {events : List DomainEvent} {roster : Roster}

theorem Performs.tells (performs : Performs now store operation next events) (seated : Seated store)
    (tells : ∀ conversationId, Tells store conversationId (roster conversationId))
    (stays : operation.isLeave = false) :
    ∀ conversationId, Tells next conversationId ((events.filter fun event =>
      Audit.isAuditable event.type).foldl Roster.replay roster conversationId) := by
  cases performs with
  | direct type listed created =>
    obtain ⟨_, between, opens, joins⟩ := createOrGetDirect_opens created
    obtain ⟨existing, touches⟩ := joins.touches opens
    exact touches.tells tells (tells_listed existing)
  | group type created =>
    obtain ⟨_, between, opens, joins⟩ := createGroup_opens created
    obtain ⟨existing, touches⟩ := joins.touches opens
    exact touches.tells tells (tells_listed existing)
  | @addMember actorId userId conversationId _ existing added =>
    obtain ⟨absent, joins⟩ := addParticipant_ok added
    obtain ⟨there, touches⟩ := joins.touches (Opens.refl existing)
    obtain ⟨members, entry, before⟩ := (tells conversationId).members existing
    refine touches.tells tells ?_
    rw [entry]
    refine ⟨there, fun user => ?_⟩
    rw [Finset.mem_insert, joins.members, before user]
    simp [or_comm]
  | @removeMember actorId targetUserId conversationId existing =>
    obtain ⟨members, entry, before⟩ := (tells conversationId).members existing
    refine (removeParticipant_touches store conversationId targetUserId).tells tells ?_
    rw [entry]
    refine ⟨existing, fun user => ?_⟩
    rw [Finset.mem_erase, member_removeParticipant, before user]
    simp [and_comm]
  | @remove actorId conversationId =>
    refine (remove_touches seated conversationId).tells tells ?_
    exact fun existing => ((existing_remove ..).mp existing).2 rfl
  | leave | handOver | dissolve => cases stays

theorem Performs.untold (performs : Performs now store operation next events) (seated : Seated store)
    (tells : ∀ conversationId, Tells store conversationId (roster conversationId))
    (leaves : operation.isLeave = true) :
    events = [] ∧ ∃ conversationId, ¬ Tells next conversationId (roster conversationId) := by
  have before {conversationId : ConversationId} {userId : UserId} (member : Member store conversationId userId) :
      ∃ members, roster conversationId = some members ∧ userId ∈ members := by
    obtain ⟨members, entry, before⟩ := (tells conversationId).members (seated _ _ member)
    exact ⟨members, entry, (before userId).mpr member⟩
  cases performs with
  | @leave actorId conversationId member | @handOver actorId _ conversationId _ member =>
    obtain ⟨members, entry, listed⟩ := before member
    refine ⟨rfl, conversationId, fun after => ?_⟩
    rw [entry] at after
    exact ((member_removeParticipant _ _).mp ((after.2 actorId).mp listed)).2 ⟨rfl, rfl⟩
  | @dissolve actorId conversationId member =>
    obtain ⟨members, entry, _⟩ := before member
    refine ⟨rfl, conversationId, fun after => ?_⟩
    rw [entry] at after
    exact ((existing_remove ..).mp after.1).2 rfl
  | direct | group | addMember | removeMember | remove => cases leaves

end Operation

/-- A successful operation keeps the events telling what is stored exactly if it is no departure. -/
theorem step_replays_iff (seated : Seated backend.store) (replays : Replays backend)
    (moves : Operation.step backend call = some final) : Replays final ↔ call.1.isLeave = false := by
  obtain ⟨done, returns⟩ := Operation.step_returns moves
  obtain ⟨events, published, performs⟩ := Operation.returns_performs returns
  have told : replay final.events = (events.filter fun event =>
      Audit.isAuditable event.type).foldl Roster.replay (replay backend.events) := by
    rw [published, replay_append]
  unfold Replays
  rw [told]
  cases leaves : call.1.isLeave with
  | false => exact iff_of_true (performs.tells seated replays leaves) rfl
  | true =>
    obtain ⟨rfl, conversationId, untold⟩ := performs.untold seated replays leaves
    exact iff_of_false (fun all => untold (all conversationId)) (by simp)

/-- In every sequence of successful operations from no conversations, the audited events tell at
every point exactly the conversations and participants that are stored, exactly if no operation is
a departure. -/
theorem audited_rosters_iff {backend final : Backend} {calls : List (Operation × TimePoint)}
    (fresh : ∀ conversationId, ¬ Existing backend.store conversationId) (seated : Seated backend.store)
    (silent : backend.events = []) (runs : Operation.step.run backend calls = some final) :
    Operation.step.Always Replays backend calls ↔ ∀ call ∈ calls, call.1.isLeave = false := by
  rw [← Step.guarded_labels runs]
  refine Step.always_iff_guarded (fun backend => Seated backend.store) (fun seated _ moves => ?_) step_replays_iff
    seated ?_ runs
  · obtain ⟨done, returns⟩ := Operation.step_returns moves
    obtain ⟨_, _, performs⟩ := Operation.returns_performs returns
    exact (performs.moves seated).seated
  · intro conversationId
    rw [silent]
    exact fresh conversationId

/-- The first user makes a group with the second, removes and adds them again, and deletes it. -/
def regrouped : List (Operation × TimePoint) :=
  [(.create 1 ⟨.group, some "team", [2]⟩, 0), (.removeMember 1 1 2, 1), (.addMember 1 1 2, 2), (.remove 1 1, 3)]

theorem initial_fresh (users : UserTable) (conversationId : ConversationId) :
    ¬ Existing (Calls.initial users).state.store conversationId := by
  rintro ⟨row, member, _⟩
  exact Indexed.not_mem_empty member

theorem audited_rosters_iff_regrouped :
    ∃ final, Operation.step.run (Calls.initial annAndBob).state regrouped = some final ∧
      Operation.step.Always Replays (Calls.initial annAndBob).state regrouped := by
  obtain ⟨final, runs⟩ := Option.isSome_iff_exists.mp
    (by decide +kernel : (Operation.step.run (Calls.initial annAndBob).state regrouped).isSome)
  exact ⟨final, runs, (audited_rosters_iff (initial_fresh annAndBob) (initial_seated annAndBob) rfl runs).mpr
    (by decide)⟩

/-- The second user has left the group, and the events still list them. -/
theorem departure_untold :
    ∃ final, Operation.step.run (Calls.initial annAndBob).state
        [(.create 1 ⟨.group, some "team", [2]⟩, 0), (.leave 2 1, 1)] = some final ∧ ¬ Replays final := by
  have outcome : (Operation.step.run (Calls.initial annAndBob).state
      [(.create 1 ⟨.group, some "team", [2]⟩, 0), (.leave 2 1, 1)]).any (fun final =>
        replay final.events 1 = some {1, 2} && !isParticipant final.store 1 2) = true := by
    decide +kernel
  obtain ⟨final, runs, shown⟩ := (Option.any_eq_true _ _).mp outcome
  simp only [Bool.and_eq_true, decide_eq_true_eq, Bool.not_eq_true'] at shown
  obtain ⟨entry, absent⟩ := shown
  refine ⟨final, runs, fun replays => ?_⟩
  have told := replays 1
  rw [entry] at told
  rw [isParticipant_iff.mpr ((told.2 2).mp (by simp))] at absent
  cases absent

end RealtimeChat.Chat
