import RealtimeChat.Realtime.Connections
import Mathlib.Data.Set.Insert

/-! The rooms under any sequence of calls.

What the manager is for is a relation between conversations and connections. It
keeps the relation twice, by conversation and by connection; the two maps clean up
after themselves in different ways. Each call is made under the mutex.
-/

set_option autoImplicit false

namespace RealtimeChat.Realtime

open Foundation

namespace RoomManager

variable {Conn : Type} [DecidableEq Conn]

inductive Call (Conn : Type) where
  | join (conversationId : ConversationId) (conn : Conn)
  | joinMany (conversationIds : List ConversationId) (conn : Conn)
  | leave (conversationId : ConversationId) (conn : Conn)
  | leaveAll (conn : Conn)
  deriving DecidableEq, Repr

def apply (manager : RoomManager Conn) : Call Conn → RoomManager Conn
  | .join conversationId conn => manager.join conversationId conn
  | .joinMany conversationIds conn => manager.joinMany conversationIds conn
  | .leave conversationId conn => manager.leave conversationId conn
  | .leaveAll conn => manager.leaveAll conn

def run (calls : List (Call Conn)) : RoomManager Conn := calls.foldl apply empty

def Call.effect (joined : Set (ConversationId × Conn)) : Call Conn → Set (ConversationId × Conn)
  | .join conversationId conn => insert (conversationId, conn) joined
  | .joinMany conversationIds conn => joined ∪ {pair | pair.1 ∈ conversationIds ∧ pair.2 = conn}
  | .leave conversationId conn => joined \ {(conversationId, conn)}
  | .leaveAll conn => {pair ∈ joined | pair.2 ≠ conn}

/-- Both maps hold the relation, and a room that is kept has a connection. -/
structure Represents (manager : RoomManager Conn) (joined : Set (ConversationId × Conn)) : Prop where
  rooms : ∀ conversationId conn, conn ∈ manager.connectionsInRoom conversationId ↔ (conversationId, conn) ∈ joined
  membership : ∀ conversationId conn, conversationId ∈ manager.membership.values conn ↔ (conversationId, conn) ∈ joined
  occupied : manager.rooms.Occupied

theorem represents_empty : (empty : RoomManager Conn).Represents ∅ where
  rooms _ _ := by simp [empty, connectionsInRoom]
  membership _ _ := by simp [empty]
  occupied := Multimap.occupied_empty

variable {manager : RoomManager Conn}

theorem occupied_joinMany (occupied : manager.rooms.Occupied) (ids : List ConversationId) (conn : Conn) :
    (manager.joinMany ids conn).rooms.Occupied := by
  have fold (start : RoomManager Conn) (occupied : start.rooms.Occupied) :
      (ids.foldl (fun manager id => manager.join id conn) start).rooms.Occupied := by
    induction ids generalizing start with
    | nil => exact occupied
    | cons first rest ih => exact ih _ (occupied.add first conn)
  exact fold _ occupied

theorem occupied_leaveAll (occupied : manager.rooms.Occupied) (conn : Conn) :
    (manager.leaveAll conn).rooms.Occupied := by
  have fold (ids : List ConversationId) (start : Multimap ConversationId Conn) (occupied : start.Occupied) :
      (ids.foldl (fun rooms id => rooms.remove id conn) start).Occupied := by
    induction ids generalizing start with
    | nil => exact occupied
    | cons first rest ih => exact ih _ (occupied.remove first conn)
  exact fold _ _ occupied

theorem Represents.apply {joined : Set (ConversationId × Conn)} (represents : manager.Represents joined)
    (call : Call Conn) : (manager.apply call).Represents (call.effect joined) := by
  have rooms := represents.rooms
  have membership := represents.membership
  cases call with
  | join id conn =>
    refine ⟨fun other member => ?_, fun other member => ?_, represents.occupied.add id conn⟩
    · rw [connectionsInRoom, RoomManager.apply, join, Multimap.mem_values_add, ← connectionsInRoom, rooms]
      simp [Call.effect]
    · rw [RoomManager.apply, join, Multimap.mem_values_add, membership]
      simp [Call.effect, and_comm]
  | joinMany ids conn =>
    refine ⟨fun other member => ?_, fun other member => ?_, occupied_joinMany represents.occupied ids conn⟩
    · rw [RoomManager.apply, mem_joinMany, rooms]
      simp [Call.effect, and_comm, or_comm]
    · rw [RoomManager.apply, mem_membership_joinMany, membership]
      simp [Call.effect, and_comm, or_comm]
  | leave id conn =>
    refine ⟨fun other member => ?_, fun other member => ?_, represents.occupied.remove id conn⟩
    · rw [connectionsInRoom, RoomManager.apply, leave, Multimap.mem_values_remove, ← connectionsInRoom, rooms]
      simp [Call.effect]
    · rw [RoomManager.apply, leave, Multimap.mem_values_remove, membership]
      simp [Call.effect, and_comm]
  | leaveAll conn =>
    refine ⟨fun other member => ?_, fun other member => ?_, occupied_leaveAll represents.occupied conn⟩
    · -- The rooms that are left are those of the other map, which lists the same ones.
      rw [RoomManager.apply, mem_leaveAll, rooms, membership]
      simp only [Call.effect, Set.mem_ofPred_eq]
      refine and_congr_right fun within => not_congr ⟨And.left, ?_⟩
      rintro rfl
      exact ⟨rfl, within⟩
    · rw [RoomManager.apply, leaveAll, Multimap.values_drop]
      split
      · next same => simp [Call.effect, same]
      · next different => simp [Call.effect, membership, different]

def Call.effects (calls : List (Call Conn)) : Set (ConversationId × Conn) := calls.foldl Call.effect ∅

theorem represents_run (calls : List (Call Conn)) : (run calls).Represents (Call.effects calls) := by
  have fold (manager : RoomManager Conn) (joined : Set (ConversationId × Conn)) (represents : manager.Represents joined) :
      (calls.foldl RoomManager.apply manager).Represents (calls.foldl Call.effect joined) := by
    induction calls generalizing manager joined with
    | nil => exact represents
    | cons call rest ih => exact ih _ _ (represents.apply call)
  exact fold _ _ represents_empty

/-- After any calls the two maps mirror each other and no room is empty; a connection that leaves all its
rooms is in none, and the other connections are where they were. -/
theorem rooms_mirror_membership (calls : List (Call Conn)) :
    (∀ conversationId conn, conn ∈ (run calls).connectionsInRoom conversationId ↔
      conversationId ∈ (run calls).membership.values conn) ∧
    (run calls).rooms.Occupied ∧
    ∀ conn, let left := (run calls).leaveAll conn
      left.membership.values conn = [] ∧ (∀ conversationId, conn ∉ left.connectionsInRoom conversationId) ∧
      ∀ other, other ≠ conn → left.membership.values other = (run calls).membership.values other ∧
        ∀ conversationId, other ∈ left.connectionsInRoom conversationId ↔
          other ∈ (run calls).connectionsInRoom conversationId := by
  have before := represents_run calls
  refine ⟨fun id conn => ?_, before.occupied, fun conn => ?_⟩
  · rw [before.rooms, before.membership]
  · have after : ((run calls).leaveAll conn).Represents (Call.effect (Call.effects calls) (.leaveAll conn)) :=
      before.apply (.leaveAll conn)
    refine ⟨?_, fun id => ?_, fun other different => ⟨?_, fun id => ?_⟩⟩
    · simp [leaveAll, Multimap.values_drop]
    · rw [after.rooms]
      simp [Call.effect]
    · simp [leaveAll, Multimap.values_drop, different]
    · rw [after.rooms, before.rooms]
      simp [Call.effect, different]

end RoomManager

end RealtimeChat.Realtime
