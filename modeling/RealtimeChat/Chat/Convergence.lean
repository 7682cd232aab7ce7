import RealtimeChat.Chat.Calls

/-! What is broadcast about a message against what is stored of it.

An edit or a removal stores its change in one transaction and broadcasts the row
it got back some actions later. In between, another call may store and broadcast
a later change, and then the older one is what the clients hear last. They hear
last what is stored if a change is only stored once every earlier change of the
message has been broadcast.
-/

set_option autoImplicit false

namespace RealtimeChat.Chat

open Foundation Accounts AttachmentRepository

-- What the check of the text comes to is never needed here.
attribute [local irreducible] validateMessageContent

def Frame.about (messageId : MessageId) (frame : Frame) : Bool :=
  (frame.event = "message.updated" || frame.event = "message.deleted") &&
    match frame.payload with
    | .message response => response.id = messageId
    | _ => false

def framesAbout (messageId : MessageId) (backend : Backend) : List Frame :=
  backend.frames.filter (Frame.about messageId)

def announcement (message : Message) : String :=
  if message.deletedAt.isSome then "message.deleted" else "message.updated"

def Describes (store : Store) (message : Message) (frame : Frame) : Prop :=
  frame.event = announcement message ∧
    frame.payload = .message (.of message (attachmentIdsFor store message.id))

def Converged (messageId : MessageId) (backend : Backend) : Prop :=
  ∀ frame ∈ (framesAbout messageId backend).getLast?,
    ∃ message, backend.store.messages.find messageId = some message ∧ Describes backend.store message frame

def DeletionLast (messageId : MessageId) (backend : Backend) : Prop :=
  ∀ earlier frame later, framesAbout messageId backend = earlier ++ frame :: later →
    frame.event = "message.deleted" → later = []

namespace Action

def changes (messageId : MessageId) : Action → Bool
  | .updateContent changed _ | .softDelete changed => changed = messageId
  | _ => false

def broadcasts : Action → Bool
  | .broadcast _ _ _ => true
  | _ => false

end Action

namespace Calls

abbrev Call := Foundation.Call Request Action Action.Returned AppException Answer

/-- The call has stored a change of the message and has not broadcast it yet. -/
def owes (messageId : MessageId) (call : Call) : Bool :=
  call.trace.any (Action.changes messageId) && !call.trace.any Action.broadcasts

def outstanding (messageId : MessageId) (pool : Calls) : Nat := pool.calls.countP (owes messageId)

end Calls

/-- A change of the message is stored when no other is outstanding, and a call that has stored
one does not fail before it has broadcast it. -/
def Serialized (messageId : MessageId) (pool : Calls) : Calls.Label → Prop
  | .perform position none => ∀ action ∈ pool.taken (.perform position none : Calls.Label),
      action.changes messageId = true → Calls.outstanding messageId pool = 0
  | .perform position (some _) => ∀ call ∈ pool.calls[position]?, Calls.owes messageId call = false
  | .start _ | .move _ => True

instance (messageId : MessageId) (pool : Calls) : DecidablePred (Serialized messageId pool)
  | .perform _ none => inferInstanceAs (Decidable (∀ action ∈ pool.taken _, _))
  | .perform position (some _) => inferInstanceAs (Decidable (∀ call ∈ pool.calls[position]?, _))
  | .start _ | .move _ => inferInstanceAs (Decidable True)

def Request.amends : Request → Bool
  | .edit _ _ _ | .removeMessage _ _ => true
  | _ => false

def Calls.amending : Calls.Label → Bool
  | .start request => request.amends
  | .perform _ _ | .move _ => true

/-! How far a call has come. -/

def Ended (script : Plan Answer) : Prop := script.Everywhere fun action _ => ∃ event, action = .publish event

def Delivers (event : String) (message : Message) (attachmentIds : List Int) : Plan Answer → Prop
  | .act (.broadcast _ shown payload) next => shown = event ∧ payload = .message (.of message attachmentIds) ∧
      ∀ result, Ended (next result)
  | _ => False

def Composes (event : String) (message : Message) : Plan Answer → Prop
  | .act (.attachmentIdsFor messageId) next => messageId = message.id ∧
      (∀ attachmentIds, Delivers event message attachmentIds (next (.ok attachmentIds))) ∧
      ∀ error, Ended (next (.error error))
  | _ => False

def Announces (event : String) (message : Message) : Plan Answer → Prop
  | .act (.listParticipantIds _) next => (∀ recipients, Composes event message (next (.ok recipients))) ∧
      ∀ error, Ended (next (.error error))
  | _ => False

def Prepares : Plan Answer → Prop
  | .done _ => True
  | .act (.updateContent _ _) next => (∀ message, Announces "message.updated" message (next (.ok message))) ∧
      ∀ error, Ended (next (.error error))
  | .act (.softDelete _) next => (∀ message, Announces "message.deleted" message (next (.ok message))) ∧
      ∀ error, Ended (next (.error error))
  | .act (.findMessage _) next => ∀ result, Prepares (next result)
  | .act (.findConversation _) next => ∀ result, Prepares (next result)
  | .act _ _ => False

namespace MessagePlan

theorem announces (event : String) (message : Message) (fact : DomainEvent) : Announces event message ((do
      let participants ← Plan.perform (.listParticipantIds message.conversationId)
      let response ← toResponse message
      Plan.perform (.broadcast participants event (.message response))
      Plan.perform (.publish fact)
      return message : Plan Message) >>= fun told => return .message told) := by
  refine ⟨fun recipients => ⟨rfl, fun attachmentIds => ⟨rfl, rfl, fun result => ?_⟩, fun _ => trivial⟩,
    fun _ => trivial⟩
  cases result with
  | ok => exact ⟨⟨fact, rfl⟩, fun result => by cases result <;> trivial⟩
  | error => trivial

theorem edit_prepares (actorId : UserId) (messageId : MessageId) (content : String) :
    Prepares (Request.plan (.edit actorId messageId content)) := by
  intro found
  rcases found with error | _ | message
  · trivial
  · trivial
  change Prepares (Script.bind _ (Script.bind _ (requireAuthor message actorId)))
  unfold requireAuthor
  split
  · change Prepares (Script.bind _ (Script.bind _ (Plan.require (validateMessageContent content))))
    cases validateMessageContent content with
    | error error => trivial
    | ok content => exact ⟨fun updated => announces _ updated (.messageEdited _ _ actorId), fun _ => trivial⟩
  · trivial

theorem remove_prepares (actorId : UserId) (messageId : MessageId) :
    Prepares (Request.plan (.removeMessage actorId messageId)) := by
  intro found
  rcases found with error | _ | message
  · trivial
  · trivial
  have stores (asModerator : Bool) : Prepares ((do
      let deleted ← Plan.perform (.softDelete messageId)
      let participants ← Plan.perform (.listParticipantIds deleted.conversationId)
      let response ← toResponse deleted
      Plan.perform (.broadcast participants "message.deleted" (.message response))
      Plan.perform (.publish (.messageDeleted deleted.id deleted.conversationId actorId asModerator))
      return deleted : Plan Message) >>= fun told => return .message told) :=
    ⟨fun deleted => announces _ deleted (.messageDeleted _ _ actorId asModerator), fun _ => trivial⟩
  change Prepares (Script.bind _ (Script.bind _ (authorizeRemoval message actorId)))
  unfold authorizeRemoval
  split
  · exact stores false
  · intro found
    cases found with
    | error error => trivial
    | ok conversation =>
      change Prepares (Script.bind _ (Script.bind _ (if _ then _ else _)))
      split
      · exact stores true
      · trivial

end MessagePlan

theorem Request.prepares {request : Request} (amends : request.amends = true) : Prepares (chat.body request) := by
  cases request with
  | edit actorId messageId content => exact MessagePlan.edit_prepares actorId messageId content
  | removeMessage actorId messageId => exact MessagePlan.remove_prepares actorId messageId
  | _ => cases amends

/-- The message is stored as the call got it back, and the event is the one for it. -/
def Current (store : Store) (event : String) (message : Message) : Prop :=
  store.messages.find message.id = some message ∧ event = announcement message

inductive Announcing (store : Store) (event : String) (message : Message) (script : Plan Answer) : Prop where
  | stored (announces : Announces event message script)
  | addressed (composes : Composes event message script)
  | composed (delivers : Delivers event message (attachmentIdsFor store message.id) script)

inductive Stage (store : Store) (messageId : MessageId) (call : Calls.Call) : Prop where
  | preparing (prepares : Prepares call.script) (unchanged : call.trace.any (Action.changes messageId) = false)
      (unsent : call.trace.any Action.broadcasts = false)
  | announcing (event : String) (message : Message) (announcing : Announcing store event message call.script)
      (changed : call.trace.any (Action.changes messageId) = decide (message.id = messageId))
      (unsent : call.trace.any Action.broadcasts = false)
      (current : message.id = messageId → Current store event message)
  | ended (ended : Ended call.script) (settled : Calls.owes messageId call = false)

section Stages

variable {store next : Store} {messageId : MessageId} {call : Calls.Call}

theorem Stage.transfer (stage : Stage store messageId call)
    (row : next.messages.find messageId = store.messages.find messageId ∨ Calls.owes messageId call = false)
    (links : next.attachments = store.attachments) : Stage next messageId call := by
  cases stage with
  | preparing prepares unchanged unsent => exact .preparing prepares unchanged unsent
  | ended ended settled => exact .ended ended settled
  | announcing event message announcing changed unsent current =>
    refine .announcing event message ?_ changed unsent ?_
    · cases announcing with
      | stored announces => exact .stored announces
      | addressed composes => exact .addressed composes
      | composed delivers =>
        refine .composed ?_
        rwa [attachmentIdsFor, links]
    · rintro rfl
      rcases row with same | settled
      · exact ⟨same.trans (current rfl).1, (current rfl).2⟩
      · simp [Calls.owes, changed, unsent] at settled

theorem Stage.settled_of_done (stage : Stage store messageId call) (done : call.pending = none) :
    Calls.owes messageId call = false := by
  obtain ⟨operation, script, trace⟩ := call
  cases stage with
  | preparing prepares unchanged unsent => simp_all [Calls.owes]
  | ended ended settled => exact settled
  | announcing event message announcing changed unsent current =>
    cases script with
    | act action next => cases done
    | done result =>
      cases announcing with
      | stored announces => exact announces.elim
      | addressed composes => exact composes.elim
      | composed delivers => exact delivers.elim

section Refusals

variable {backend : Backend} {request : Request} {action : Action} {trace : List Action}
  {after : Except AppException action.Returned → Plan Answer} {error : AppException}

theorem Announcing.act {event : String} {message : Message}
    (announcing : Announcing backend.store event message (.act action after)) :
    action.exec backend ≠ .error error ∧ Ended (after (.error error)) := by
  cases announcing with
  | stored announces =>
    cases action with
    | listParticipantIds => exact ⟨nofun, announces.2 error⟩
    | _ => exact announces.elim
  | addressed composes =>
    cases action with
    | attachmentIdsFor => exact ⟨nofun, composes.2.2 error⟩
    | _ => exact composes.elim
  | composed delivers =>
    cases action with
    | broadcast => exact ⟨nofun, delivers.2.2 _⟩
    | _ => exact delivers.elim

variable (stage : Stage backend.store messageId ⟨request, .act action after, trace⟩)

include stage

theorem Stage.fail (settled : Calls.owes messageId ⟨request, .act action after, trace⟩ = false) :
    Stage backend.store messageId ⟨request, after (.error error), trace⟩ := by
  cases stage with
  | preparing prepares unchanged unsent =>
    cases action with
    | findMessage | findConversation => exact .preparing (prepares _) unchanged unsent
    | updateContent | softDelete => exact .ended (prepares.2 error) settled
    | _ => exact prepares.elim
  | announcing event message announcing => exact .ended announcing.act.2 settled
  | ended ended => exact .ended (ended.2 _) settled

theorem Stage.settled_of_refused (refused : action.exec backend = .error error) :
    Calls.owes messageId ⟨request, .act action after, trace⟩ = false := by
  cases stage with
  | preparing prepares unchanged unsent => simp_all [Calls.owes]
  | ended ended settled => exact settled
  | announcing event message announcing => exact absurd refused announcing.act.1

end Refusals

end Stages

/-- What an action of a call does to what is stored and broadcast of the message. -/
inductive Progress (messageId : MessageId) (backend : Backend) (call : Calls.Call) (after : Backend)
    (rest : Calls.Call) : Prop where
  | apart (owes : Calls.owes messageId rest = Calls.owes messageId call)
      (row : after.store.messages.find messageId = backend.store.messages.find messageId)
      (frames : framesAbout messageId after = framesAbout messageId backend)
  | stored (settled : Calls.owes messageId call = false) (owes : Calls.owes messageId rest = true)
      (row : ∃ message, backend.store.messages.find messageId = some message ∧ message.deletedAt = none)
      (frames : framesAbout messageId after = framesAbout messageId backend)
  | broadcast (message : Message) (frame : Frame) (owes : Calls.owes messageId call = true)
      (settled : Calls.owes messageId rest = false) (row : backend.store.messages.find messageId = some message)
      (same : after.store = backend.store) (describes : Describes backend.store message frame)
      (frames : framesAbout messageId after = framesAbout messageId backend ++ [frame])

variable {message : Message}

section Progress

variable {messageId : MessageId} {backend after : Backend} {request : Request} {action : Action}
  {next : Except AppException action.Returned → Plan Answer} {trace : List Action} {value : action.Returned}

variable {changed : MessageId} {change : Message → Message} {script : Plan Answer}

theorem updateUndeleted_find {store next : Store} {now : TimePoint}
    {keeps : ∀ message, (change message).id = message.id}
    (updated : MessageRepository.updateUndeleted store now changed change keeps = .ok (next, message)) :
    ∃ old, store.messages.find changed = some old ∧ old.deletedAt = none ∧ message.id = changed ∧
      message = { change old with updatedAt := now } ∧
      ∀ other, next.messages.find other = if other = changed then some message else store.messages.find other := by
  unfold MessageRepository.updateUndeleted at updated
  split at updated
  · cases updated
  · next old found =>
    cases updated
    obtain ⟨found, undeleted⟩ := Option.filter_eq_some_iff.mp found
    refine ⟨old, found, by simpa using undeleted, (keeps old).trans (Serial.find_eq_some.mp found).2, rfl,
      fun other => ?_⟩
    rw [Serial.find_updateKey, found, Option.map_some]

theorem progress_stored {store : Store} {keeps : ∀ message, (change message).id = message.id} {event : String}
    {rest : Plan Answer}
    (updated : MessageRepository.updateUndeleted backend.store backend.now changed change keeps = .ok (store, message))
    (announces : Announces event message rest) (announced : event = announcement message)
    (unchanged : trace.any (Action.changes messageId) = false) (unsent : trace.any Action.broadcasts = false)
    (changes : action.changes messageId = decide (changed = messageId)) (silent : action.broadcasts = false) :
    Stage store messageId ⟨request, rest, trace ++ [action]⟩ ∧ store.attachments = backend.store.attachments ∧
      Progress messageId backend ⟨request, script, trace⟩ { backend with store := store }
        ⟨request, rest, trace ++ [action]⟩ := by
  obtain ⟨old, found, undeleted, sameId, _, rows⟩ := updateUndeleted_find updated
  refine ⟨?_, by rw [updateUndeleted_only updated], ?_⟩
  · refine .announcing event message (.stored announces) ?_ ?_ fun _ => ⟨?_, announced⟩
    · simp [unchanged, changes, sameId]
    · simp [unsent, silent]
    · rw [rows, if_pos sameId]
  · by_cases same : changed = messageId
    · subst same
      exact .stored (by simp [Calls.owes, unchanged]) (by simp [Calls.owes, unsent, changes, silent])
        ⟨old, found, undeleted⟩ rfl
    · exact .apart (by simp [Calls.owes, unchanged, changes, same]) (by rw [rows, if_neg (Ne.symm same)]) rfl

theorem owes_append (changes : action.changes messageId = false) (silent : action.broadcasts = false)
    (script rest : Plan Answer) :
    Calls.owes messageId ⟨request, rest, trace ++ [action]⟩ = Calls.owes messageId ⟨request, script, trace⟩ := by
  simp [Calls.owes, changes, silent]

theorem changes_of_owes {rest : Plan Answer} (settled : Calls.owes messageId ⟨request, script, trace⟩ = false)
    (owes : Calls.owes messageId ⟨request, rest, trace ++ [action]⟩ = true) : action.changes messageId = true := by
  simp only [Calls.owes, List.any_append, List.any_cons, List.any_nil] at settled owes
  grind

theorem about_announcement (message : Message) (recipients : List UserId) (attachmentIds : List Int) :
    Frame.about message.id ⟨recipients, announcement message, .message (.of message attachmentIds)⟩ = true := by
  unfold announcement
  split <;> simp [Frame.about, MessageResponse.of]

theorem about_other (other : message.id ≠ messageId) (recipients : List UserId) (event : String)
    (attachmentIds : List Int) :
    Frame.about messageId ⟨recipients, event, .message (.of message attachmentIds)⟩ = false := by
  simp [Frame.about, MessageResponse.of, other]

theorem framesAbout_broadcast (messageId : MessageId) (backend : Backend) (frame : Frame) :
    framesAbout messageId { backend with frames := backend.frames ++ [frame] } =
      framesAbout messageId backend ++ if frame.about messageId then [frame] else [] := by
  simp only [framesAbout, List.filter_append, List.filter_cons, List.filter_nil]

theorem Stage.act (stage : Stage backend.store messageId ⟨request, .act action next, trace⟩)
    (executed : action.exec backend = .ok (after, value)) :
    Stage after.store messageId ⟨request, next (.ok value), trace ++ [action]⟩ ∧
      after.store.attachments = backend.store.attachments ∧
      Progress messageId backend ⟨request, .act action next, trace⟩ after
        ⟨request, next (.ok value), trace ++ [action]⟩ := by
  cases stage with
  | preparing prepares unchanged unsent =>
    cases action with
    | findMessage sought | findConversation sought =>
      cases executed
      exact ⟨.preparing (prepares _) (by simp [unchanged, Action.changes]) (by simp [unsent, Action.broadcasts]), rfl,
        .apart (owes_append rfl rfl _ _) rfl rfl⟩
    | updateContent changed content =>
      rw [Action.exec, Action.write_eq_ok] at executed
      obtain ⟨store, updated, rfl⟩ := executed
      obtain ⟨old, _, undeleted, _, same, _⟩ := updateUndeleted_find updated
      exact progress_stored updated (prepares.1 value) (by simp [announcement, same, undeleted]) unchanged unsent rfl rfl
    | softDelete changed =>
      rw [Action.exec, Action.write_eq_ok] at executed
      obtain ⟨store, updated, rfl⟩ := executed
      obtain ⟨old, _, _, _, same, _⟩ := updateUndeleted_find updated
      exact progress_stored updated (prepares.1 value) (by simp [announcement, same]) unchanged unsent rfl rfl
    | _ => exact prepares.elim
  | announcing event message announcing changed unsent current =>
    cases announcing with
    | stored announces =>
      cases action with
      | listParticipantIds conversationId =>
        cases executed
        exact ⟨.announcing event message (.addressed (announces.1 _)) (by simp [changed, Action.changes])
          (by simp [unsent, Action.broadcasts]) current, rfl, .apart (owes_append rfl rfl _ _) rfl rfl⟩
      | _ => exact announces.elim
    | addressed composes =>
      cases action with
      | attachmentIdsFor sought =>
        obtain ⟨rfl, composed, _⟩ := composes
        cases executed
        exact ⟨.announcing event message (.composed (composed _)) (by simp [changed, Action.changes])
          (by simp [unsent, Action.broadcasts]) current, rfl, .apart (owes_append rfl rfl _ _) rfl rfl⟩
      | _ => exact composes.elim
    | composed delivers =>
      cases action with
      | broadcast recipients shown payload =>
        obtain ⟨rfl, rfl, ended⟩ := delivers
        cases executed
        have sent : Calls.owes messageId ⟨request, next (.ok ()), trace ++ [.broadcast recipients shown
            (.message (.of message (attachmentIdsFor backend.store message.id)))]⟩ = false := by
          simp [Calls.owes, Action.broadcasts]
        refine ⟨.ended (ended _) sent, rfl, ?_⟩
        by_cases same : message.id = messageId
        · subst same
          obtain ⟨found, rfl⟩ := current rfl
          refine .broadcast message ⟨recipients, announcement message, _⟩ (by simp [Calls.owes, changed, unsent]) sent
            found rfl ⟨rfl, rfl⟩ ((framesAbout_broadcast _ _ _).trans ?_)
          rw [if_pos (about_announcement message recipients _)]
        · refine .apart (sent.trans (by simp [Calls.owes, changed, same])) rfl ((framesAbout_broadcast _ _ _).trans ?_)
          simp [about_other same recipients shown]
      | _ => exact delivers.elim
  | ended ended settled =>
    obtain ⟨⟨event, rfl⟩, rest⟩ := ended
    cases executed
    have same : Calls.owes messageId ⟨request, next (.ok ()), trace ++ [.publish event]⟩ =
        Calls.owes messageId ⟨request, .act (.publish event) next, trace⟩ := owes_append rfl rfl _ _
    exact ⟨.ended (rest _) (same.trans settled), rfl, .apart same rfl rfl⟩

end Progress

/-- At most one change of the message is outstanding. Once none is, the clients have heard what is
stored, and once they have heard of the deletion, none can be stored any more. -/
structure Told (messageId : MessageId) (pool : Calls) : Prop where
  stages : ∀ call ∈ pool.calls, Stage pool.state.store messageId call
  alone : Calls.outstanding messageId pool ≤ 1
  converged : Calls.outstanding messageId pool = 0 → Converged messageId pool.state
  deletion : ∀ earlier frame later, framesAbout messageId pool.state = earlier ++ frame :: later →
    frame.event = "message.deleted" → later = [] ∧ Calls.outstanding messageId pool = 0 ∧
      ∃ message, pool.state.store.messages.find messageId = some message ∧ message.deletedAt ≠ none

namespace Told

variable {messageId : MessageId} {pool : Calls} {position : Nat} {call rest : Calls.Call} {after : Backend}

theorem converged_of_same {backend : Backend} (converged : Converged messageId backend)
    (row : after.store.messages.find messageId = backend.store.messages.find messageId)
    (links : after.store.attachments = backend.store.attachments)
    (frames : framesAbout messageId after = framesAbout messageId backend) : Converged messageId after := by
  intro frame last
  rw [frames] at last
  obtain ⟨message, found, event, payload⟩ := converged frame last
  refine ⟨message, row.trans found, event, payload.trans ?_⟩
  rw [attachmentIdsFor, attachmentIdsFor, links]

section

variable (told : Told messageId pool) (found : pool.calls[position]? = some call) (stage : Stage after.store messageId rest)

include told found stage

theorem apart (links : after.store.attachments = pool.state.store.attachments)
    (owes : Calls.owes messageId rest = Calls.owes messageId call)
    (row : after.store.messages.find messageId = pool.state.store.messages.find messageId)
    (frames : framesAbout messageId after = framesAbout messageId pool.state) :
    Told messageId ⟨after, pool.calls.set position rest⟩ := by
  have same : Calls.outstanding messageId ⟨after, pool.calls.set position rest⟩ =
      Calls.outstanding messageId pool := by
    have count := countP_set_add (Calls.owes messageId) rest found
    rw [owes] at count
    exact Nat.add_right_cancel count
  refine ⟨forall_mem_set (fun other member => (told.stages other member).transfer (Or.inl row) links) stage,
    same ▸ told.alone, fun settled => ?_, fun earlier frame later split deleted => ?_⟩
  · exact converged_of_same (told.converged (same ▸ settled)) row links frames
  · rw [same, row]
    exact told.deletion earlier frame later (frames ▸ split) deleted

theorem stored (links : after.store.attachments = pool.state.store.attachments)
    (settled : Calls.outstanding messageId pool = 0) (owes : Calls.owes messageId rest = true)
    (row : ∃ message, pool.state.store.messages.find messageId = some message ∧ message.deletedAt = none)
    (frames : framesAbout messageId after = framesAbout messageId pool.state) :
    Told messageId ⟨after, pool.calls.set position rest⟩ := by
  have nobody : ∀ other ∈ pool.calls, Calls.owes messageId other = false := by
    simpa [Calls.outstanding, List.countP_eq_zero] using settled
  have one : Calls.outstanding messageId ⟨after, pool.calls.set position rest⟩ = 1 := by
    have count := countP_set_add (Calls.owes messageId) rest found
    rw [owes, nobody call (List.mem_of_getElem? found)] at count
    exact count.trans (congrArg (· + 1) settled)
  refine ⟨forall_mem_set (fun other member => (told.stages other member).transfer (Or.inr (nobody other member)) links)
    stage, one.le, fun none => absurd (one.symm.trans none) Nat.one_ne_zero, fun earlier frame later split deleted => ?_⟩
  obtain ⟨_, _, message, deletedRow, isDeleted⟩ := told.deletion earlier frame later (frames ▸ split) deleted
  obtain ⟨old, oldRow, undeleted⟩ := row
  rw [oldRow] at deletedRow
  cases deletedRow
  exact absurd undeleted isDeleted

theorem broadcast {frame : Frame} (owes : Calls.owes messageId call = true)
    (settled : Calls.owes messageId rest = false) (row : pool.state.store.messages.find messageId = some message)
    (same : after.store = pool.state.store) (describes : Describes pool.state.store message frame)
    (frames : framesAbout messageId after = framesAbout messageId pool.state ++ [frame]) :
    Told messageId ⟨after, pool.calls.set position rest⟩ := by
  have count := countP_set_add (Calls.owes messageId) rest found
  rw [owes, settled] at count
  have none : Calls.outstanding messageId ⟨after, pool.calls.set position rest⟩ = 0 := by
    have alone := told.alone
    simp only [Calls.outstanding, if_true, Bool.false_eq_true, if_false] at alone count ⊢
    omega
  refine ⟨forall_mem_set (fun other member => (told.stages other member).transfer (Or.inl (by rw [same]))
    (by rw [same])) stage, none.le.trans (Nat.zero_le 1), fun _ last isLast => ?_, fun earlier deletion later split deleted => ?_⟩
  · rw [frames, List.getLast?_concat] at isLast
    cases isLast
    exact ⟨message, same ▸ row, same ▸ describes⟩
  · rw [frames] at split
    rcases List.eq_nil_or_concat later with rfl | ⟨before, last, rfl⟩
    · -- The deletion is what has just been broadcast.
      obtain rfl : frame = deletion := List.singleton_inj.mp (List.append_inj_right' split rfl)
      refine ⟨rfl, none, message, same ▸ row, fun undeleted => ?_⟩
      rw [describes.1, announcement, undeleted] at deleted
      exact absurd deleted (by decide)
    · -- After an earlier deletion nothing would be outstanding.
      have split : framesAbout messageId pool.state ++ [frame] = (earlier ++ deletion :: before) ++ [last] := by
        rw [split, List.concat_eq_append, List.append_assoc, List.cons_append]
      obtain ⟨_, settled, _⟩ := told.deletion earlier deletion before (List.append_inj_left' split rfl) deleted
      rw [Calls.outstanding, List.countP_eq_zero] at settled
      exact absurd owes (settled call (List.mem_of_getElem? found))

end

theorem step {next : Calls} {label : Calls.Label} (told : Told messageId pool)
    (serialized : Calls.amending label = true ∧ Serialized messageId pool label) (moves : chat.step pool label = some next) :
    Told messageId next := by
  cases System.step_effect moves with
  | started request =>
    have same : Calls.outstanding messageId
        ⟨pool.state, pool.calls ++ [⟨request, chat.body request, []⟩]⟩ = Calls.outstanding messageId pool := by
      simp [Calls.outstanding, Calls.owes]
    refine ⟨forall_mem_concat told.stages (.preparing (Request.prepares serialized.1) rfl rfl), same ▸ told.alone,
      fun settled => told.converged (same ▸ settled), ?_⟩
    rw [same]
    exact told.deletion
  | moved now => exact ⟨told.stages, told.alone, told.converged, told.deletion⟩
  | acted found executed =>
    obtain ⟨stage, links, progress⟩ := (told.stages _ (List.mem_of_getElem? found)).act executed
    cases progress with
    | apart owes row frames => exact told.apart found stage links owes row frames
    | broadcast message frame owes settled row same describes frames =>
      exact told.broadcast found stage owes settled row same describes frames
    | stored settled owes row frames =>
      exact told.stored found stage links
        (serialized.2 _ (Pool.taken_perform found) (changes_of_owes settled owes)) owes row frames
  | refused found executed =>
    have stage := told.stages _ (List.mem_of_getElem? found)
    exact told.apart found (stage.fail (stage.settled_of_refused executed)) rfl rfl rfl rfl
  | failed error found =>
    have stage := told.stages _ (List.mem_of_getElem? found)
    exact told.apart found (stage.fail (serialized.2 _ found)) rfl rfl rfl rfl

theorem finished (told : Told messageId pool) (finished : pool.finished = true) : Converged messageId pool.state := by
  refine told.converged (List.countP_eq_zero.mpr fun call member => ?_)
  have done : call.pending = none := by
    simpa using List.all_eq_true.mp finished call member
  simp [(told.stages call member).settled_of_done done]

end Told

/-- In every run of edits and removals in which a change of the message is stored only when no
other is outstanding, the clients have heard what is stored once all calls have returned, and
never hear of the message after its deletion. -/
theorem frames_converge {messageId : MessageId} {pool final : Calls} {labels : List Calls.Label}
    (idle : pool.calls = []) (unheard : framesAbout messageId pool.state = [])
    (amending : ∀ label ∈ labels, Calls.amending label = true)
    (serialized : chat.step.Guarded (Serialized messageId) pool labels)
    (runs : chat.step.run pool labels = some final) :
    (final.finished = true → Converged messageId final.state) ∧ DeletionLast messageId final.state := by
  have initially : Told messageId pool := by
    refine ⟨by simp [idle], by simp [Calls.outstanding, idle], fun _ => by simp [Converged, unheard], ?_⟩
    simp [unheard]
  have told := Step.guarded_invariant (Told messageId) (fun told met moves => told.step met moves) initially
    (Step.guarded_and.mpr ⟨Step.guarded_of_labels amending, serialized⟩) runs
  exact ⟨told.finished, fun earlier frame later split deleted => (told.deletion earlier frame later split deleted).1⟩

def editThenRemove : List Calls.Label :=
  [.start (.edit 1 1 "hello Bob"), .start (.removeMessage 1 1)] ++ Calls.acts 0 6 ++ Calls.acts 1 6

theorem frames_converge_in_turn : ∃ final, chat.step.run greeted editThenRemove = some final ∧ final.finished = true ∧
      Converged 1 final.state ∧ DeletionLast 1 final.state := by
  obtain ⟨final, runs, finished⟩ := (Option.any_eq_true _ _).mp
    (by decide +kernel : (chat.step.run greeted editThenRemove).any Pool.finished = true)
  obtain ⟨converged, last⟩ := frames_converge (by decide) (by decide +kernel) (by decide +kernel)
    (by decide +kernel : chat.step.Guarded (Serialized 1) greeted editThenRemove) runs
  exact ⟨final, runs, finished, converged finished, last⟩

/-- The edit is stored, the message is removed and its deletion broadcast, and then the edit is
broadcast. -/
def removedMeanwhile : List Calls.Label :=
  [.start (.edit 1 1 "hello Bob"), .start (.removeMessage 1 1)] ++ Calls.acts 0 2 ++ Calls.acts 1 6 ++ Calls.acts 0 4

/-- Both calls have returned, and the clients have heard the content of a deleted message last. -/
theorem edit_heard_after_deletion :
    ∃ final, chat.step.run greeted removedMeanwhile = some final ∧ final.finished = true ∧
      ¬ Converged 1 final.state ∧ ¬ DeletionLast 1 final.state := by
  have runs : (chat.step.run greeted removedMeanwhile).any (fun final => final.finished &&
      (framesAbout 1 final.state).map Frame.event = ["message.deleted", "message.updated"] &&
      (final.state.store.messages.find 1).any fun message => message.deletedAt.isSome) = true := by
    decide +kernel
  obtain ⟨final, runs, outcome⟩ := (Option.any_eq_true _ _).mp runs
  simp only [Bool.and_eq_true, decide_eq_true_eq, Option.any_eq_true] at outcome
  obtain ⟨⟨finished, events⟩, message, stored, deleted⟩ := outcome
  obtain ⟨deletion, _, frames, deletionEvent, rest⟩ := List.map_eq_cons_iff.mp events
  obtain ⟨edit, _, rfl, editEvent, rest⟩ := List.map_eq_cons_iff.mp rest
  obtain rfl := List.map_eq_nil_iff.mp rest
  refine ⟨final, runs, finished, fun converged => ?_, fun last => ?_⟩
  · obtain ⟨other, found, event, _⟩ := converged edit (by simp [frames])
    rw [stored] at found
    cases found
    rw [editEvent, announcement, if_pos deleted] at event
    exact absurd event (by decide)
  · exact absurd (last [] deletion [edit] frames deletionEvent) (List.cons_ne_nil _ _)

end RealtimeChat.Chat
