import RealtimeChat.Presence.Service

/-! Instances that hear of every change before the next call.

A call is followed, before anything else happens, by what its announcement does
on every other instance. Each instance then records exactly the users that the
others hold, and the answers of the calls are about all instances together.
-/

set_option autoImplicit false

namespace RealtimeChat.Presence

open Foundation

namespace Lockstep

variable {Node : Type} [DecidableEq Node]

/-- A call on an instance, with the times at which it runs and at which the others hear of it. -/
inductive Call (Node : Type) where
  | onConnect (node : Node) (userId : UserId) (nowMs : Int) (received : Node → TimePoint)
  | onDisconnect (node : Node) (userId : UserId) (now : TimePoint) (nowMs : Int) (received : Node → TimePoint)

/-- The instances after a call on one of them, whose announcement, if there is one, has been
applied on all the others. -/
def spread (services : Node → PresenceService Node) (node : Node) (transition : Transition Node)
    (received : Node → TimePoint) : Node → PresenceService Node := fun other =>
  if other = node then transition.service
  else match transition.announcement with
    | some delta => (services other).applyRemote node delta (received other)
    | none => services other

def perform (services : Node → PresenceService Node) : Call Node → Node → PresenceService Node
  | .onConnect node userId nowMs received =>
    spread services node ((services node).onConnect userId nowMs) received
  | .onDisconnect node userId now nowMs received =>
    spread services node ((services node).onDisconnect userId now nowMs) received

def services (calls : List (Call Node)) : Node → PresenceService Node := calls.foldl perform fun _ => .empty

abbrev Held (Node : Type) := Node → UserId → Nat

/-- A connection is one session more and a disconnection one less, if there is one. -/
def Held.after (held : Held Node) : Call Node → Held Node
  | .onConnect node userId _ _ => Function.update held node (Function.update (held node) userId (held node userId + 1))
  | .onDisconnect node userId _ _ _ =>
    Function.update held node (Function.update (held node) userId (held node userId - 1))

def held (calls : List (Call Node)) : Held Node := calls.foldl Held.after fun _ _ => 0

/-- Every instance counts the sessions it holds, and records for the others whom they hold. -/
structure Mirrors (services : Node → PresenceService Node) (held : Held Node) : Prop where
  counts : ∀ node userId, (services node).count userId = held node userId
  records : ∀ node other userId, userId ∈ (services node).remote.values other ↔ other ≠ node ∧ 0 < held other userId

variable {instances : Node → PresenceService Node} {sessions : Held Node}

/-- A call on an instance that announces the user's first session there and the end of the last. -/
theorem Mirrors.spread (mirrors : Mirrors instances sessions) {node : Node} {userId : UserId} {amount : Nat}
    {transition : Transition Node} (received : Node → TimePoint)
    (remote : transition.service.remote = (instances node).remote)
    (counts : ∀ other, transition.service.count other = if other = userId then amount else sessions node other)
    (announced : ∀ delta, transition.announcement = some delta →
      delta.userId = userId ∧ (delta.online = true ↔ 0 < amount))
    (silent : transition.announcement = none → (0 < amount ↔ 0 < sessions node userId)) :
    Mirrors (Lockstep.spread instances node transition received)
      (Function.update sessions node (Function.update (sessions node) userId amount)) := by
  have there (other : Node) (user : UserId) :
      Function.update sessions node (Function.update (sessions node) userId amount) other user =
        if other = node ∧ user = userId then amount else sessions other user := by
    by_cases same : other = node
    · subst same
      by_cases sameUser : user = userId <;> simp [sameUser]
    · simp [same]
  refine ⟨fun other user => ?_, fun other source user => ?_⟩
  · rw [there]
    by_cases same : other = node
    · subst same
      simp [Lockstep.spread, counts]
    · simp only [Lockstep.spread, same, false_and, if_false]
      rw [← mirrors.counts]
      split
      · exact PresenceService.count_applyRemote ..
      · rfl
  · rw [there]
    have before := mirrors.records other source user
    by_cases same : other = node
    · subst same
      simp only [Lockstep.spread, if_true, remote, before]
      grind
    · simp only [Lockstep.spread, if_neg same]
      cases published : transition.announcement with
      | some delta =>
        obtain ⟨rfl, online⟩ := announced delta published
        simp only [PresenceService.mem_remote_applyRemote, before, online]
        grind
      | none =>
        simp only [before]
        have same := silent published
        grind

theorem Mirrors.perform (mirrors : Mirrors instances sessions) (call : Call Node) :
    Mirrors (perform instances call) (sessions.after call) := by
  cases call with
  | onConnect node userId nowMs received =>
    refine mirrors.spread received (by simp) (fun other => ?_) (fun delta published => ?_) fun silent => ?_
    · rw [PresenceService.count_onConnect, mirrors.counts, mirrors.counts]
    · rw [PresenceService.announcement_onConnect] at published
      split at published <;> cases published
      exact ⟨rfl, by simp⟩
    · rw [PresenceService.announcement_onConnect, mirrors.counts] at silent
      split at silent
      · cases silent
      · omega
  | onDisconnect node userId now nowMs received =>
    refine mirrors.spread received (by simp) (fun other => ?_) (fun delta published => ?_) fun silent => ?_
    · rw [PresenceService.count_onDisconnect, mirrors.counts, mirrors.counts]
    · rw [PresenceService.announcement_onDisconnect, mirrors.counts] at published
      split at published <;> cases published
      exact ⟨rfl, by simp [*]⟩
    · rw [PresenceService.announcement_onDisconnect, mirrors.counts] at silent
      split at silent
      · cases silent
      · omega

theorem mirrors_empty : Mirrors (fun _ : Node => .empty) fun _ _ => 0 := by
  constructor <;> simp [PresenceService.empty, PresenceService.count]

theorem Mirrors.foldl (mirrors : Mirrors instances sessions) (calls : List (Call Node)) :
    Mirrors (calls.foldl Lockstep.perform instances) (calls.foldl Held.after sessions) := by
  induction calls generalizing instances sessions with
  | nil => exact mirrors
  | cons call rest ih => exact ih (mirrors.perform call)

theorem mirrors_calls (calls : List (Call Node)) : Mirrors (services calls) (held calls) := mirrors_empty.foldl calls

theorem Mirrors.onlineRemotely (mirrors : Mirrors instances sessions) (node : Node) (userId : UserId) :
    (instances node).onlineRemotely userId = false ↔ ∀ other, other ≠ node → sessions other userId = 0 := by
  rw [← Bool.not_eq_true, PresenceService.onlineRemotely_iff]
  simp only [mirrors.records, not_exists, not_and, Nat.not_lt, Nat.le_zero]

/-- After any calls on any instances, a connection answers true exactly if no instance held a
session of the user, and a disconnection exactly if it ends the last one anywhere. -/
theorem answers_are_global (calls : List (Call Node)) (node : Node) (userId : UserId) (now : TimePoint) (nowMs : Int)
    (received : Node → TimePoint) :
    (((services calls node).onConnect userId nowMs).changed = true ↔ ∀ other, held calls other userId = 0) ∧
    (((services calls node).onDisconnect userId now nowMs).changed = true ↔ 0 < held calls node userId ∧
      ∀ other, (held calls).after (.onDisconnect node userId now nowMs received) other userId = 0) := by
  have mirrors := mirrors_calls calls
  rw [PresenceService.changed_onConnect, PresenceService.changed_onDisconnect, mirrors.onlineRemotely, mirrors.counts]
  refine ⟨⟨fun nowhere other => ?_, fun nowhere => ⟨nowhere node, fun other _ => nowhere other⟩⟩,
    ⟨fun last => ⟨?_, fun other => ?_⟩, fun ⟨holds, ended⟩ => ⟨?_, fun other apart => ?_⟩⟩⟩
  · by_cases same : other = node
    · exact same ▸ nowhere.1
    · exact nowhere.2 other same
  · omega
  · by_cases same : other = node
    · simp [Held.after, same, last.1]
    · simpa [Held.after, same] using last.2 other same
  · have here := ended node
    simp only [Held.after, Function.update_self] at here
    omega
  · simpa [Held.after, apart] using ended other

end Lockstep

end RealtimeChat.Presence
