import RealtimeChat.Foundation.Json
import RealtimeChat.Foundation.Multimap
import RealtimeChat.Basic

/-! The presence service of one instance.

It counts the instance's own sessions of each user and keeps, for every other
instance, the set of users that instance has reported online. `onConnect` and
`onDisconnect` answer whether the user changed state on all instances taken
together, and announce to the other instances when the user changed state on
this one. The announcement is returned: publishing it is a later step.
-/

set_option autoImplicit false

namespace RealtimeChat.Presence

open Foundation

structure PresenceDelta where
  userId : UserId
  online : Bool
  atMs : Int
  deriving DecidableEq, Repr

def PresenceDelta.toJson (delta : PresenceDelta) : Json :=
  .object [("user_id", .number delta.userId), ("online", .bool delta.online), ("at_ms", .number delta.atMs)]

/-- A member that is missing or of another type leaves its default. -/
def PresenceDelta.fromJson (body : Json) : PresenceDelta where
  userId := ((body.find "user_id").bind Json.integer?).getD 0
  online := ((body.find "online").bind Json.boolean?).getD false
  atMs := ((body.find "at_ms").bind Json.integer?).getD 0

@[simp] theorem PresenceDelta.fromJson_toJson (delta : PresenceDelta) : fromJson delta.toJson = delta := by
  simp [fromJson, toJson, Json.find, Json.lookup, Json.integer?, Json.boolean?]

structure PresenceService (Node : Type) [DecidableEq Node] where
  sessions : AList (fun _ : UserId => Nat)
  lastSeen : AList (fun _ : UserId => TimePoint)
  remote : Multimap Node UserId

structure Transition (Node : Type) [DecidableEq Node] where
  service : PresenceService Node
  changed : Bool
  announcement : Option PresenceDelta

namespace PresenceService

variable {Node : Type} [DecidableEq Node]

def empty : PresenceService Node := ⟨∅, ∅, .empty⟩

def onlineRemotely (service : PresenceService Node) (userId : UserId) : Bool :=
  service.remote.groups.entries.any fun group => userId ∈ group.snd

def isOnlineLocally (service : PresenceService Node) (userId : UserId) : Bool :=
  match service.sessions.lookup userId with
  | some count => count > 0
  | none => false

def onlineAnywhere (service : PresenceService Node) (userId : UserId) : Bool :=
  service.isOnlineLocally userId || service.onlineRemotely userId

def onConnect (service : PresenceService Node) (userId : UserId) (nowMs : Int) : Transition Node :=
  let wasOnline := service.onlineAnywhere userId
  let previous := (service.sessions.lookup userId).getD 0
  { service := { service with sessions := service.sessions.insert userId (previous + 1) }
    changed := !wasOnline
    announcement := if previous = 0 then some ⟨userId, true, nowMs⟩ else none }

def onDisconnect (service : PresenceService Node) (userId : UserId) (now : TimePoint) (nowMs : Int) :
    Transition Node :=
  match service.sessions.lookup userId with
  | none | some 0 => ⟨service, false, none⟩
  | some (remaining + 1) =>
    if remaining > 0 then
      ⟨{ service with sessions := service.sessions.insert userId remaining }, false, none⟩
    else
      -- Other instances hear of the last session here even if the user is still online elsewhere.
      let becameOffline := !service.onlineRemotely userId
      { service := { service with
          sessions := service.sessions.erase userId
          lastSeen := if becameOffline then service.lastSeen.insert userId now else service.lastSeen }
        changed := becameOffline
        announcement := some ⟨userId, false, nowMs⟩ }

def applyRemote (service : PresenceService Node) (node : Node) (delta : PresenceDelta) (now : TimePoint) :
    PresenceService Node :=
  if delta.online then { service with remote := service.remote.add node delta.userId }
  else if node ∈ service.remote.groups then
    let service := { service with remote := service.remote.remove node delta.userId }
    if service.onlineAnywhere delta.userId then service
    else { service with lastSeen := service.lastSeen.insert delta.userId now }
  else service

def forgetNode (service : PresenceService Node) (node : Node) : PresenceService Node :=
  { service with remote := service.remote.drop node }

def isOnline (service : PresenceService Node) (userId : UserId) : Bool := service.onlineAnywhere userId

def onlineCount (service : PresenceService Node) : Nat :=
  if service.remote.groups.entries.isEmpty then service.sessions.entries.length
  else
    -- Distinct users: one who is connected to two instances is counted once.
    let here := (service.sessions.entries.filter fun entry => entry.snd > 0).map Sigma.fst
    let elsewhere := service.remote.groups.entries.flatMap Sigma.snd
    (here ++ elsewhere).dedup.length

def localOnlineCount (service : PresenceService Node) : Nat := service.sessions.entries.length

def knownPeerCount (service : PresenceService Node) : Nat := service.remote.groups.entries.length

variable {service : PresenceService Node}

theorem onlineRemotely_iff {userId : UserId} :
    service.onlineRemotely userId = true ↔ ∃ node, userId ∈ service.remote.values node := by
  simp only [onlineRemotely, List.any_eq_true, decide_eq_true_eq, Multimap.values]
  constructor
  · rintro ⟨⟨node, users⟩, listed, member⟩
    refine ⟨node, ?_⟩
    rw [AList.mem_lookup_iff.mpr listed]
    exact member
  · rintro ⟨node, member⟩
    cases found : service.remote.groups.lookup node with
    | none => simp [found] at member
    | some users => exact ⟨⟨node, users⟩, AList.mem_lookup_iff.mp found, by simpa [found] using member⟩

def count (service : PresenceService Node) (userId : UserId) : Nat :=
  (service.sessions.lookup userId).getD 0

theorem isOnlineLocally_iff {userId : UserId} :
    service.isOnlineLocally userId = true ↔ 0 < service.count userId := by
  unfold isOnlineLocally count
  cases service.sessions.lookup userId <;> simp

variable (service : PresenceService Node) (userId other : UserId) (nowMs : Int) (now : TimePoint)

theorem count_onConnect :
    (service.onConnect userId nowMs).service.count other =
      if other = userId then service.count userId + 1 else service.count other := by
  by_cases same : other = userId
  · subst same
    simp [onConnect, count]
  · simp [onConnect, count, AList.lookup_insert_ne same, same]

theorem count_onDisconnect (nowMs : Int) :
    (service.onDisconnect userId now nowMs).service.count other =
      if other = userId then service.count userId - 1 else service.count other := by
  unfold onDisconnect count
  by_cases same : other = userId
  · subst same
    cases found : service.sessions.lookup other with
    | none => simp [found]
    | some sessions =>
      cases sessions with
      | zero => simp [found]
      | succ remaining => cases remaining <;> simp
  · cases found : service.sessions.lookup userId with
    | none => simp [same]
    | some sessions =>
      rcases sessions with _ | _ | remaining <;>
        simp [same, AList.lookup_insert_ne same, AList.lookup_erase_ne same]

@[simp] theorem remote_onConnect : (service.onConnect userId nowMs).service.remote = service.remote := rfl

@[simp] theorem remote_onDisconnect (nowMs : Int) :
    (service.onDisconnect userId now nowMs).service.remote = service.remote := by
  unfold onDisconnect
  split
  · rfl
  · rfl
  · split <;> rfl

@[simp] theorem count_applyRemote (node : Node) (delta : PresenceDelta) (now : TimePoint) (userId : UserId) :
    (service.applyRemote node delta now).count userId = service.count userId := by
  unfold applyRemote
  split
  · rfl
  · split
    · dsimp only
      split <;> rfl
    · rfl

theorem mem_remote_applyRemote {node other : Node} {delta : PresenceDelta} {now : TimePoint} {userId : UserId} :
    userId ∈ (service.applyRemote node delta now).remote.values other ↔
      if other = node ∧ userId = delta.userId then delta.online = true
      else userId ∈ service.remote.values other := by
  unfold applyRemote
  cases online : delta.online with
  | true =>
    simp only [if_true, Multimap.mem_values_add]
    grind
  | false =>
    have removed : userId ∈ (service.remote.remove node delta.userId).values other ↔
        if other = node ∧ userId = delta.userId then False else userId ∈ service.remote.values other := by
      rw [Multimap.mem_values_remove]
      grind
    by_cases known : node ∈ service.remote.groups
    · simp only [Bool.false_eq_true, if_false, known, if_true]
      split <;> exact removed
    · rw [← Bool.false_eq_true] at removed
      rw [← removed]
      simp [known, Multimap.remove]

theorem announcement_onConnect :
    (service.onConnect userId nowMs).announcement =
      if service.count userId = 0 then some ⟨userId, true, nowMs⟩ else none := rfl

theorem announcement_onDisconnect (nowMs : Int) :
    (service.onDisconnect userId now nowMs).announcement =
      if service.count userId = 1 then some ⟨userId, false, nowMs⟩ else none := by
  unfold onDisconnect count
  cases found : service.sessions.lookup userId with
  | none => simp
  | some sessions => rcases sessions with _ | _ | remaining <;> simp

theorem changed_onConnect :
    (service.onConnect userId nowMs).changed = true ↔
      service.count userId = 0 ∧ service.onlineRemotely userId = false := by
  have locally : service.isOnlineLocally userId = false ↔ service.count userId = 0 := by
    rw [← Bool.not_eq_true, isOnlineLocally_iff]
    omega
  simp [onConnect, onlineAnywhere, locally]

theorem changed_onDisconnect (nowMs : Int) :
    (service.onDisconnect userId now nowMs).changed = true ↔
      service.count userId = 1 ∧ service.onlineRemotely userId = false := by
  unfold onDisconnect count
  cases found : service.sessions.lookup userId with
  | none => simp
  | some sessions => rcases sessions with _ | _ | remaining <;> simp

end PresenceService

end RealtimeChat.Presence
