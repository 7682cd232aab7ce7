import Mathlib.Data.Finset.Card
import RealtimeChat.Foundation.Run
import RealtimeChat.Presence.Service

/-! What one instance says of its users.

Any calls and any deltas may come, in any order. No count of zero and no empty
set is ever left behind, so that the sizes of the maps count users and peers.
The time a user was last seen is another matter: a delta that says offline
stamps it although the user was offline already, and an instance that is
forgotten takes its users offline without a stamp.
-/

set_option autoImplicit false

namespace RealtimeChat.Presence

open Foundation

namespace PresenceService

variable {Node : Type} [DecidableEq Node]

inductive Operation (Node : Type) where
  | onConnect (userId : UserId) (nowMs : Int)
  | onDisconnect (userId : UserId) (nowMs : Int)
  | applyRemote (node : Node) (delta : PresenceDelta)
  | forgetNode (node : Node)
  deriving DecidableEq, Repr

/-- The service after an operation that reads the clock at `now`. -/
def perform (service : PresenceService Node) (now : TimePoint) : Operation Node → PresenceService Node
  | .onConnect userId nowMs => (service.onConnect userId nowMs).service
  | .onDisconnect userId nowMs => (service.onDisconnect userId now nowMs).service
  | .applyRemote node delta => service.applyRemote node delta now
  | .forgetNode node => service.forgetNode node

def step : Step (PresenceService Node) (Operation Node × TimePoint) := fun service call =>
  some (service.perform call.2 call.1)

/-- No entry is kept for a user without sessions, or for an instance without users. -/
structure Tidy (service : PresenceService Node) : Prop where
  sessions : ∀ userId count, service.sessions.lookup userId = some count → 0 < count
  remote : service.remote.Occupied

theorem tidy_empty : (empty : PresenceService Node).Tidy := by
  refine ⟨fun userId count found => ?_, Multimap.occupied_empty⟩
  simp [empty] at found

section

variable (service : PresenceService Node) (node : Node) (delta : PresenceDelta) (now : TimePoint)

theorem remote_applyRemote : (service.applyRemote node delta now).remote =
      if delta.online then service.remote.add node delta.userId
      else service.remote.remove node delta.userId := by
  unfold applyRemote
  split
  · rfl
  · split
    · dsimp only
      split <;> rfl
    · next absent => exact (if_neg absent).symm

theorem sessions_applyRemote : (service.applyRemote node delta now).sessions = service.sessions := by
  unfold applyRemote
  split
  · rfl
  · split
    · dsimp only
      split <;> rfl
    · rfl

end

variable {service : PresenceService Node} {userId : UserId} {node : Node} {delta : PresenceDelta} (now : TimePoint)
  (nowMs : Int)

theorem Tidy.onDisconnect (tidy : service.Tidy) (userId : UserId) (now : TimePoint) (nowMs : Int) :
    (service.onDisconnect userId now nowMs).service.Tidy := by
  refine ⟨fun other count found => ?_, by simpa using tidy.remote⟩
  unfold PresenceService.onDisconnect at found
  split at found
  · exact tidy.sessions other count found
  · exact tidy.sessions other count found
  · split at found
    · next remaining there more =>
      by_cases same : other = userId
      · subst same
        rw [AList.lookup_insert] at found
        exact Option.some.inj found ▸ more
      · rw [AList.lookup_insert_ne same] at found
        exact tidy.sessions other count found
    · by_cases same : other = userId
      · subst same
        rw [AList.lookup_erase] at found
        cases found
      · rw [AList.lookup_erase_ne same] at found
        exact tidy.sessions other count found

theorem Tidy.perform (tidy : service.Tidy) (now : TimePoint) (operation : Operation Node) :
    (service.perform now operation).Tidy := by
  cases operation with
  | onConnect userId nowMs =>
    refine ⟨fun other count found => ?_, tidy.remote⟩
    by_cases same : other = userId
    · subst same
      simp only [PresenceService.perform, onConnect, AList.lookup_insert, Option.some.injEq] at found
      omega
    · simp only [PresenceService.perform, onConnect, AList.lookup_insert_ne same] at found
      exact tidy.sessions other count found
  | onDisconnect userId nowMs => exact tidy.onDisconnect userId now nowMs
  | applyRemote node delta =>
    refine ⟨?_, ?_⟩
    · rw [PresenceService.perform, sessions_applyRemote]
      exact tidy.sessions
    · rw [PresenceService.perform, remote_applyRemote]
      split
      · exact tidy.remote.add node delta.userId
      · exact tidy.remote.remove node delta.userId
  | forgetNode node => exact ⟨tidy.sessions, tidy.remote.drop node⟩

theorem tidy_run {calls : List (Operation Node × TimePoint)} (runs : step.run empty calls = some service) :
    service.Tidy := by
  refine Step.run_invariant Tidy (fun tidy moves => ?_) tidy_empty runs
  cases moves
  exact tidy.perform _ _

/-- The sizes that the service reports are those of the sets they stand for. -/
structure Counts (service : PresenceService Node) : Prop where
  online : ∃ users : Finset UserId, (∀ userId, userId ∈ users ↔ service.isOnline userId = true) ∧
    service.onlineCount = users.card
  here : ∃ users : Finset UserId, (∀ userId, userId ∈ users ↔ service.isOnlineLocally userId = true) ∧
    service.localOnlineCount = users.card
  peers : ∃ nodes : Finset Node, (∀ node, node ∈ nodes ↔ service.remote.values node ≠ []) ∧
    service.knownPeerCount = nodes.card

theorem card_keys {K V : Type} [DecidableEq K] (map : AList fun _ : K => V) :
    map.keys.toFinset.card = map.entries.length := by
  rw [AList.keys, List.toFinset_card_of_nodup map.nodupKeys, List.keys, List.length_map]

theorem Tidy.mem_sessions (tidy : service.Tidy) :
    userId ∈ service.sessions ↔ service.isOnlineLocally userId = true := by
  rw [← AList.lookup_isSome, isOnlineLocally]
  cases found : service.sessions.lookup userId with
  | none => simp
  | some count => simpa using tidy.sessions userId count found

theorem mem_distinct : userId ∈ (service.sessions.entries.filter fun entry => entry.snd > 0).map Sigma.fst ++
        service.remote.groups.entries.flatMap Sigma.snd ↔ service.isOnline userId = true := by
  rw [isOnline, onlineAnywhere, Bool.or_eq_true, List.mem_append]
  refine or_congr ?_ ?_
  · simp only [List.mem_map, List.mem_filter, gt_iff_lt, decide_eq_true_eq, isOnlineLocally]
    constructor
    · rintro ⟨⟨user, count⟩, ⟨listed, positive⟩, rfl⟩
      rw [AList.mem_lookup_iff.mpr listed]
      simpa using positive
    · intro online
      split at online
      · next count found => exact ⟨⟨userId, count⟩, ⟨AList.mem_lookup_iff.mp found, by simpa using online⟩, rfl⟩
      · cases online
  · simp [onlineRemotely, List.mem_flatMap]

theorem Tidy.counts (tidy : service.Tidy) : service.Counts where
  online := by
    unfold onlineCount
    split
    · next alone =>
      refine ⟨service.sessions.keys.toFinset, fun userId => ?_, (card_keys _).symm⟩
      have nowhere : service.onlineRemotely userId = false := by
        rw [onlineRemotely, List.isEmpty_iff.mp alone]
        rfl
      rw [List.mem_toFinset, ← AList.mem_keys, tidy.mem_sessions, isOnline, onlineAnywhere, nowhere, Bool.or_false]
    · refine ⟨_, fun userId => ?_, (List.card_toFinset _).symm⟩
      rw [List.mem_toFinset, mem_distinct]
  here := by
    refine ⟨service.sessions.keys.toFinset, fun userId => ?_, (card_keys _).symm⟩
    rw [List.mem_toFinset, ← AList.mem_keys, tidy.mem_sessions]
  peers := by
    refine ⟨service.remote.groups.keys.toFinset, fun node => ?_, (card_keys _).symm⟩
    rw [List.mem_toFinset, ← AList.mem_keys, tidy.remote.mem_groups]

/-- After any sequence of operations on an instance, the numbers it reports are those of the users
who are online, of the users with a session here, and of the instances with a recorded user. -/
theorem counts_exact (calls : List (Operation Node × TimePoint)) :
    ∃ service, step.run (empty : PresenceService Node) calls = some service ∧ service.Counts := by
  have total : ∀ (service : PresenceService Node) call, ∃ next, step service call = some next := fun _ _ => ⟨_, rfl⟩
  obtain ⟨service, runs⟩ := Step.run_total total empty calls
  exact ⟨service, runs, (tidy_run runs).counts⟩

/-- The last time of a user, after an operation at `now`: that time if the user has gone offline with
it, and otherwise what it was. -/
def Stamps (service next : PresenceService Node) (now : TimePoint) : Prop :=
  ∀ userId, next.lastSeen.lookup userId =
    if service.isOnline userId = true ∧ next.isOnline userId = false then some now else service.lastSeen.lookup userId

/-- A delta that says offline comes, if its instance is recorded at all, for a user who is online;
and an instance is forgotten only when its users are here or elsewhere as well. -/
def Tracks (service : PresenceService Node) : Operation Node → Prop
  | .onConnect _ _ | .onDisconnect _ _ => True
  | .applyRemote node delta => delta.online = false → node ∈ service.remote.groups →
      service.isOnline delta.userId = true
  | .forgetNode node => ∀ userId ∈ service.remote.values node, service.isOnlineLocally userId = true ∨
      ∃ other, other ≠ node ∧ userId ∈ service.remote.values other

theorem isOnline_iff :
    service.isOnline userId = true ↔ 0 < service.count userId ∨ ∃ node, userId ∈ service.remote.values node := by
  rw [isOnline, onlineAnywhere, Bool.or_eq_true, isOnlineLocally_iff, onlineRemotely_iff]

theorem isOnline_eq_false :
    service.isOnline userId = false ↔ service.count userId = 0 ∧ ∀ node, userId ∉ service.remote.values node := by
  rw [← Bool.not_eq_true, isOnline_iff, not_or, Nat.not_lt, Nat.le_zero, not_exists]

theorem stamps_of_kept {next : PresenceService Node} (kept : next.lastSeen = service.lastSeen) :
    (∀ now, Stamps service next now) ↔
      ∀ userId, service.isOnline userId = true → next.isOnline userId = true := by
  constructor
  · intro stamps userId online
    by_contra offline
    have moved : service.isOnline userId = true ∧ next.isOnline userId = false := ⟨online, by simpa using offline⟩
    -- The same entry cannot be two readings of the clock.
    have first := stamps 0 userId
    have second := stamps 1 userId
    rw [if_pos moved] at first second
    rw [first] at second
    cases second
  · intro stays now userId
    rw [kept, if_neg]
    rintro ⟨online, offline⟩
    rw [stays userId online] at offline
    cases offline

section

variable (service : PresenceService Node)

theorem lastSeen_onDisconnect (userId other : UserId) (now : TimePoint) (nowMs : Int) :
    (service.onDisconnect userId now nowMs).service.lastSeen.lookup other =
      if other = userId ∧ service.count userId = 1 ∧ service.onlineRemotely userId = false then some now
      else service.lastSeen.lookup other := by
  unfold onDisconnect count
  cases found : service.sessions.lookup userId with
  | none => simp
  | some sessions =>
    rcases sessions with _ | _ | remaining
    · simp
    · cases service.onlineRemotely userId with
      | true => simp
      | false =>
        by_cases same : other = userId
        · subst same
          simp
        · simp [same, AList.lookup_insert_ne same]
    · simp

theorem stamps_onDisconnect (userId : UserId) (now : TimePoint) (nowMs : Int) :
    Stamps service (service.onDisconnect userId now nowMs).service now := by
  intro other
  rw [lastSeen_onDisconnect]
  have before := @isOnline_iff _ _ service other
  have after := @isOnline_eq_false _ _ (service.onDisconnect userId now nowMs).service other
  rw [count_onDisconnect, remote_onDisconnect] at after
  have elsewhere := @onlineRemotely_iff _ _ service userId
  congr 1
  rw [before, after, ← Bool.not_eq_true, elsewhere, eq_iff_iff]
  by_cases same : other = userId
  · subst same
    simp only [true_and, if_true, not_exists]
    grind
  · simp only [same, false_and, if_false, false_iff]
    grind

theorem lastSeen_applyRemote (node : Node) (delta : PresenceDelta) (now : TimePoint) (other : UserId) :
    (service.applyRemote node delta now).lastSeen.lookup other =
      if other = delta.userId ∧ delta.online = false ∧ node ∈ service.remote.groups ∧
          (service.applyRemote node delta now).isOnline other = false then some now
      else service.lastSeen.lookup other := by
  unfold applyRemote
  cases online : delta.online with
  | true => simp
  | false =>
    by_cases known : node ∈ service.remote.groups
    · simp only [Bool.false_eq_true, if_false, known, if_true, true_and]
      split
      · next anywhere =>
        rw [if_neg]
        rintro ⟨rfl, offline⟩
        rw [isOnline, anywhere] at offline
        cases offline
      · next nowhere =>
        by_cases same : other = delta.userId
        · subst same
          rw [AList.lookup_insert, if_pos]
          exact ⟨rfl, Bool.eq_false_iff.mpr nowhere⟩
        · rw [AList.lookup_insert_ne same, if_neg fun both => same both.1]
    · simp [known]

theorem isOnline_applyRemote_of_ne (now : TimePoint) {other : UserId}
    (apart : other ≠ delta.userId) : (service.applyRemote node delta now).isOnline other = service.isOnline other := by
  rw [Bool.eq_iff_iff, isOnline_iff, isOnline_iff, count_applyRemote]
  simp only [mem_remote_applyRemote, apart, and_false, if_false]

end

theorem isOnline_applyRemote_offline (offline : delta.online = false)
    (stays : (service.applyRemote node delta now).isOnline userId = true) : service.isOnline userId = true := by
  rw [isOnline_iff, count_applyRemote] at stays
  rw [isOnline_iff]
  refine stays.imp_right fun ⟨source, member⟩ => ⟨source, ?_⟩
  rw [mem_remote_applyRemote, offline] at member
  split at member
  · cases member
  · exact member

theorem isOnline_applyRemote_online (online : delta.online = true) (before : service.isOnline userId = true) :
    (service.applyRemote node delta now).isOnline userId = true := by
  rw [isOnline_iff] at before
  rw [isOnline_iff, count_applyRemote]
  refine before.imp_right fun ⟨source, member⟩ => ⟨source, ?_⟩
  rw [mem_remote_applyRemote, online]
  split
  · rfl
  · exact member

section

variable (service : PresenceService Node)

theorem stamps_applyRemote_iff (node : Node) (delta : PresenceDelta) :
    (∀ now, Stamps service (service.applyRemote node delta now) now) ↔ Tracks service (.applyRemote node delta) := by
  constructor
  · intro stamps offline known
    by_contra before
    have after (now : TimePoint) : (service.applyRemote node delta now).isOnline delta.userId = false :=
      Bool.eq_false_iff.mpr fun stays => before (isOnline_applyRemote_offline now offline stays)
    -- The user was not online, and is stamped with whatever the time is.
    have written (now : TimePoint) : service.lastSeen.lookup delta.userId = some now := by
      have stamped := stamps now delta.userId
      rw [lastSeen_applyRemote, if_pos ⟨rfl, offline, known, after now⟩, if_neg fun both => before both.1] at stamped
      exact stamped.symm
    cases (written 0).symm.trans (written 1)
  · intro tracks now other
    rw [lastSeen_applyRemote]
    congr 1
    rw [eq_iff_iff]
    constructor
    · rintro ⟨rfl, offline, known, after⟩
      exact ⟨tracks offline known, after⟩
    · rintro ⟨before, after⟩
      by_cases same : other = delta.userId
      · subst same
        have offline : delta.online = false := Bool.eq_false_iff.mpr fun online => by
          rw [isOnline_applyRemote_online now online before] at after
          cases after
        refine ⟨rfl, offline, ?_, after⟩
        -- An instance that is not recorded has nobody to lose, and nothing changes.
        by_contra unknown
        simp only [applyRemote, offline, Bool.false_eq_true, if_false, unknown] at after
        rw [before] at after
        cases after
      · rw [isOnline_applyRemote_of_ne service now same, before] at after
        cases after

theorem stamps_forgetNode_iff (node : Node) :
    (∀ now, Stamps service (service.forgetNode node) now) ↔ Tracks service (.forgetNode node) := by
  have remains (userId : UserId) : (service.forgetNode node).isOnline userId = true ↔
      service.isOnlineLocally userId = true ∨ ∃ other, other ≠ node ∧ userId ∈ service.remote.values other := by
    rw [isOnline_iff, isOnlineLocally_iff]
    simp only [forgetNode, Multimap.values_drop]
    refine or_congr Iff.rfl (exists_congr fun other => ?_)
    by_cases same : other = node <;> simp [same]
  have kept : (service.forgetNode node).lastSeen = service.lastSeen := rfl
  rw [stamps_of_kept kept, Tracks]
  simp only [remains]
  constructor
  · exact fun stays userId member => stays userId (isOnline_iff.mpr (Or.inr ⟨node, member⟩))
  · intro tracks userId online
    rw [isOnline_iff, ← isOnlineLocally_iff] at online
    rcases online with here | ⟨other, member⟩
    · exact Or.inl here
    · by_cases same : other = node
      · exact tracks userId (same ▸ member)
      · exact Or.inr ⟨other, same, member⟩

theorem stamps_onConnect (userId : UserId) (nowMs : Int) (now : TimePoint) :
    Stamps service (service.onConnect userId nowMs).service now := by
  have kept : (service.onConnect userId nowMs).service.lastSeen = service.lastSeen := rfl
  refine (stamps_of_kept kept).mpr (fun other online => ?_) now
  rw [isOnline_iff] at online
  rw [isOnline_iff, count_onConnect, remote_onConnect]
  refine online.imp_left fun held => ?_
  split
  · exact Nat.succ_pos _
  · exact held

/-- Whatever the time is, an operation stamps exactly the users it takes offline, if and only if it
is one of those that track them. -/
theorem stamps_iff (operation : Operation Node) :
    (∀ now, Stamps service (service.perform now operation) now) ↔ Tracks service operation := by
  cases operation with
  | onConnect userId nowMs => exact iff_of_true (stamps_onConnect service userId nowMs) trivial
  | onDisconnect userId nowMs => exact iff_of_true (fun now => stamps_onDisconnect service userId now nowMs) trivial
  | applyRemote node delta => exact stamps_applyRemote_iff service node delta
  | forgetNode node => exact stamps_forgetNode_iff service node

end

/-- A service and, for each user, the last time at which it ceased to take them for online. -/
structure Watched (Node : Type) [DecidableEq Node] where
  service : PresenceService Node
  offlineAt : UserId → Option TimePoint

def Watched.initial : Watched Node := ⟨empty, fun _ => none⟩

def Watched.step : Step (Watched Node) (Operation Node × TimePoint) := fun watched call =>
  let next := watched.service.perform call.2 call.1
  some ⟨next, fun userId =>
    if watched.service.isOnline userId = true ∧ next.isOnline userId = false then some call.2
    else watched.offlineAt userId⟩

/-- After any operations, the next one stamps exactly the users it takes offline, whenever it comes,
if and only if it tracks them; and if all operations did, the service says of each user when it last
took them offline. -/
theorem last_seen_exact_iff {calls : List (Operation Node × TimePoint)} {watched : Watched Node}
    (runs : Watched.step.run Watched.initial calls = some watched) :
    (∀ operation, (∀ now, Stamps watched.service (watched.service.perform now operation) now) ↔
      Tracks watched.service operation) ∧
    (Watched.step.Guarded (fun watched call => Tracks watched.service call.1) Watched.initial calls →
      ∀ userId, watched.service.lastSeen.lookup userId = watched.offlineAt userId) := by
  refine ⟨stamps_iff watched.service, fun tracked => ?_⟩
  refine Step.guarded_invariant (fun watched : Watched Node =>
    ∀ userId, watched.service.lastSeen.lookup userId = watched.offlineAt userId) (fun right tracks moves => ?_)
    (fun userId => by simp [Watched.initial, empty]) tracked runs
  cases moves
  intro userId
  rw [(stamps_iff _ _).mpr tracks _ userId, right userId]

def bothEnded : List (Operation Nat × TimePoint) :=
  [(.onConnect 1 10, 10), (.applyRemote 0 ⟨1, true, 11⟩, 11), (.onDisconnect 1 12, 12), (.applyRemote 0 ⟨1, false, 13⟩, 13)]

theorem last_seen_exact_iff_bothEnded : ∃ watched, Watched.step.run Watched.initial bothEnded = some watched ∧
      watched.service.lastSeen.lookup 1 = some 13 ∧ watched.offlineAt 1 = some 13 := by
  have tracked : Watched.step.Guarded (fun watched call => Tracks watched.service call.1) Watched.initial bothEnded :=
    ⟨trivial, fun offline => absurd offline (by decide), trivial, fun _ _ => rfl, trivial⟩
  refine ⟨_, rfl, ?_, rfl⟩
  exact (last_seen_exact_iff rfl).2 tracked 1

/-- An instance reports one user, and then that another one, whom it never reported, has left. -/
def neverReported : List (Operation Nat × TimePoint) :=
  [(.applyRemote 0 ⟨1, true, 10⟩, 10), (.applyRemote 0 ⟨2, false, 20⟩, 20)]

def forgotten : List (Operation Nat × TimePoint) := [(.applyRemote 0 ⟨1, true, 10⟩, 10), (.forgetNode 0, 20)]

/-- A user who never was online is stamped, and one who goes offline with their instance is not. -/
theorem last_seen_misses : (∃ watched, Watched.step.run Watched.initial neverReported = some watched ∧
      watched.service.lastSeen.lookup 2 = some 20 ∧ watched.offlineAt 2 = none) ∧
    ∃ watched, Watched.step.run Watched.initial forgotten = some watched ∧
      watched.service.lastSeen.lookup 1 = none ∧ watched.offlineAt 1 = some 20 :=
  ⟨⟨_, rfl, rfl, rfl⟩, ⟨_, rfl, rfl, rfl⟩⟩

end PresenceService

end RealtimeChat.Presence
