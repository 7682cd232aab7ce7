import RealtimeChat.Foundation.Multimap
import RealtimeChat.Realtime.Protocol

/-! The registries of live connections: sessions, rooms and their manager.

A connection is named by its address. The registries accept any address at any
time; Crow opens a connection at an address only while no other connection
lives there, and joins rooms only for the connection it has just opened.
`Reachable` are the registries that arise so, and for them the two indexes of
each registry agree.
-/

set_option autoImplicit false

namespace RealtimeChat.Realtime

open Foundation

structure Session (Conn : Type) where
  connection : Conn
  userId : UserId
  username : String
  protocolVersion : Version
  lastActivityMs : Int
  deriving DecidableEq, Repr

variable {Conn : Type} [DecidableEq Conn]

structure SessionManager (Conn : Type) [DecidableEq Conn] where
  byConnection : AList (fun _ : Conn => Session Conn)
  byUser : Multimap UserId Conn

variable {conn other : Conn} {userId : UserId} {id : ConversationId}

namespace SessionManager

def empty : SessionManager Conn := ⟨∅, Multimap.empty⟩

def add (manager : SessionManager Conn) (conn : Conn) (userId : UserId) (username : String)
    (version : Version) : SessionManager Conn :=
  ⟨manager.byConnection.insert conn ⟨conn, userId, username, version, 0⟩, manager.byUser.add userId conn⟩

def get (manager : SessionManager Conn) (conn : Conn) : Option (Session Conn) :=
  manager.byConnection.lookup conn

def remove (manager : SessionManager Conn) (conn : Conn) : SessionManager Conn × Option (Session Conn) :=
  match manager.get conn with
  | none => (manager, none)
  | some session =>
    (⟨manager.byConnection.erase conn, manager.byUser.remove session.userId conn⟩, some session)

def sessionsFor (manager : SessionManager Conn) (connections : List Conn) : List (Session Conn) :=
  connections.filterMap manager.get

def sessionsForUser (manager : SessionManager Conn) (userId : UserId) : List (Session Conn) :=
  manager.sessionsFor (manager.byUser.values userId)

def snapshot (manager : SessionManager Conn) : List (Session Conn) :=
  manager.byConnection.entries.map Sigma.snd

theorem get_remove (manager : SessionManager Conn) (conn other : Conn) :
    (manager.remove conn).1.get other = if other = conn then none else manager.get other := by
  rw [remove]
  by_cases same : other = conn
  · subst same
    cases found : manager.get other with
    | none => simp [found]
    | some session => simp [get]
  · cases found : manager.get conn with
    | none => simp [same]
    | some session => simp [get, AList.lookup_erase_ne same, same]

variable {manager : SessionManager Conn} {session : Session Conn}

theorem get_of_mem_snapshot (member : session ∈ manager.snapshot) : ∃ conn, manager.get conn = some session := by
  obtain ⟨⟨conn, _⟩, entry, rfl⟩ := List.mem_map.mp member
  exact ⟨conn, AList.mem_lookup_iff.mpr entry⟩

theorem get_of_mem_sessionsFor {connections : List Conn} (member : session ∈ manager.sessionsFor connections) :
    ∃ conn, manager.get conn = some session := by
  obtain ⟨conn, _, found⟩ := List.mem_filterMap.mp member
  exact ⟨conn, found⟩

theorem get_add (manager : SessionManager Conn) (conn other : Conn) (userId : UserId) (username : String)
    (version : Version) :
    (manager.add conn userId username version).get other =
      if other = conn then some ⟨conn, userId, username, version, 0⟩ else manager.get other := by
  by_cases same : other = conn
  · subst same
    simp [add, get]
  · simp [add, get, AList.lookup_insert_ne same, same]

/-- A session is found under its address, and both indexes say the same. -/
structure Agrees (manager : SessionManager Conn) : Prop where
  address : ∀ conn session, manager.get conn = some session → session.connection = conn
  users : ∀ conn userId, conn ∈ manager.byUser.values userId ↔
    ∃ session, manager.get conn = some session ∧ session.userId = userId

theorem Agrees.empty : (SessionManager.empty : SessionManager Conn).Agrees := by
  constructor <;> simp [SessionManager.empty, get]

/-- Adding keeps the indexes in agreement at an address that no other user holds. -/
theorem Agrees.add (agrees : manager.Agrees)
    (free : ∀ session, manager.get conn = some session → session.userId = userId) (username : String)
    (version : Version) : (manager.add conn userId username version).Agrees := by
  refine ⟨fun other session found => ?_, fun other user => ?_⟩
  · rw [get_add] at found
    split at found
    · next same =>
      cases found
      exact same.symm
    · exact agrees.address other session found
  · rw [get_add]
    simp only [SessionManager.add, Multimap.mem_values_add, agrees.users]
    by_cases same : other = conn
    · subst same
      simp only [and_true, if_true, Option.some.injEq, exists_eq_left']
      exact ⟨fun held => held.elim Eq.symm fun ⟨session, found, own⟩ => (free session found).symm.trans own,
        fun own => Or.inl own.symm⟩
    · simp [same]

theorem Agrees.remove (agrees : manager.Agrees) (conn : Conn) : (manager.remove conn).1.Agrees := by
  refine ⟨fun other session found => ?_, fun other user => ?_⟩
  · rw [get_remove] at found
    split at found
    · cases found
    · exact agrees.address other session found
  · have users : other ∈ (manager.remove conn).1.byUser.values user ↔
        other ∈ manager.byUser.values user ∧ other ≠ conn := by
      rw [SessionManager.remove]
      cases found : manager.get conn with
      | none =>
        have absent := (not_congr (agrees.users conn user)).mpr (by simp [found])
        grind
      | some session =>
        simp only [Multimap.mem_values_remove]
        have there := agrees.users conn user
        grind
    rw [users, get_remove, agrees.users]
    by_cases same : other = conn <;> simp [same]

end SessionManager

structure RoomManager (Conn : Type) [DecidableEq Conn] where
  rooms : Multimap ConversationId Conn
  membership : Multimap Conn ConversationId

namespace RoomManager

def empty : RoomManager Conn := ⟨Multimap.empty, Multimap.empty⟩

def join (manager : RoomManager Conn) (conversationId : ConversationId) (conn : Conn) : RoomManager Conn :=
  ⟨manager.rooms.add conversationId conn, manager.membership.add conn conversationId⟩

/-- The connection gets a group of its own even when it joins no room. -/
def joinMany (manager : RoomManager Conn) (conversationIds : List ConversationId) (conn : Conn) :
    RoomManager Conn :=
  conversationIds.foldl (fun manager id => manager.join id conn)
    { manager with membership := manager.membership.touch conn }

def leave (manager : RoomManager Conn) (conversationId : ConversationId) (conn : Conn) : RoomManager Conn :=
  ⟨manager.rooms.remove conversationId conn, manager.membership.remove conn conversationId⟩

def leaveAll (manager : RoomManager Conn) (conn : Conn) : RoomManager Conn :=
  ⟨(manager.membership.values conn).foldl (fun rooms id => rooms.remove id conn) manager.rooms,
    manager.membership.drop conn⟩

def connectionsInRoom (manager : RoomManager Conn) (conversationId : ConversationId) : List Conn :=
  manager.rooms.values conversationId

variable {manager : RoomManager Conn}

variable {ids : List ConversationId}

theorem mem_foldl_join (manager : RoomManager Conn) :
    let joined := ids.foldl (fun manager id => manager.join id conn) manager
    (other ∈ joined.rooms.values id ↔ (other = conn ∧ id ∈ ids) ∨ other ∈ manager.rooms.values id) ∧
      (id ∈ joined.membership.values other ↔ (other = conn ∧ id ∈ ids) ∨ id ∈ manager.membership.values other) := by
  induction ids generalizing manager with
  | nil => simp
  | cons first rest ih =>
    obtain ⟨rooms, membership⟩ := ih (manager.join first conn)
    refine ⟨rooms.trans ?_, membership.trans ?_⟩
    all_goals
      rw [join, Multimap.mem_values_add, List.mem_cons]
      grind

theorem mem_joinMany : other ∈ (manager.joinMany ids conn).connectionsInRoom id ↔
    (other = conn ∧ id ∈ ids) ∨ other ∈ manager.connectionsInRoom id := (mem_foldl_join _).1

theorem mem_membership_joinMany : id ∈ (manager.joinMany ids conn).membership.values other ↔
    (other = conn ∧ id ∈ ids) ∨ id ∈ manager.membership.values other := by
  rw [joinMany, (mem_foldl_join _).2, Multimap.values_touch]

theorem mem_leaveAll :
    other ∈ (manager.leaveAll conn).connectionsInRoom id ↔
      other ∈ manager.connectionsInRoom id ∧ ¬ (other = conn ∧ id ∈ manager.membership.values conn) := by
  have fold (ids : List ConversationId) (start : Multimap ConversationId Conn) :
      other ∈ (ids.foldl (fun rooms id => rooms.remove id conn) start).values id ↔
        other ∈ start.values id ∧ ¬ (other = conn ∧ id ∈ ids) := by
    induction ids generalizing start with
    | nil => simp
    | cons first rest ih =>
      rw [List.foldl_cons, ih, Multimap.mem_values_remove, List.mem_cons]
      grind
  exact fold _ _

end RoomManager

structure ConnectionManager (Conn : Type) [DecidableEq Conn] where
  sessions : SessionManager Conn
  rooms : RoomManager Conn

namespace ConnectionManager

def empty : ConnectionManager Conn := ⟨.empty, .empty⟩

def registerSession (manager : ConnectionManager Conn) (conn : Conn) (userId : UserId) (username : String)
    (version : Version) : ConnectionManager Conn :=
  { manager with sessions := manager.sessions.add conn userId username version }

def unregisterSession (manager : ConnectionManager Conn) (conn : Conn) :
    ConnectionManager Conn × Option (Session Conn) :=
  let (sessions, session) := manager.sessions.remove conn
  (⟨sessions, manager.rooms.leaveAll conn⟩, session)

inductive Reachable : ConnectionManager Conn → Prop
  | empty : Reachable .empty
  | opened {manager : ConnectionManager Conn} {conn : Conn} (userId : UserId) (username : String)
      (version : Version) (before : Reachable manager) (free : manager.sessions.get conn = none) :
      Reachable (manager.registerSession conn userId username version)
  | joined {manager : ConnectionManager Conn} {conn : Conn} (ids : List ConversationId)
      (before : Reachable manager) (live : (manager.sessions.get conn).isSome) :
      Reachable { manager with rooms := manager.rooms.joinMany ids conn }
  | closed {manager : ConnectionManager Conn} (conn : Conn) (before : Reachable manager) :
      Reachable (manager.unregisterSession conn).1

/-- Both indexes of the session registry say the same, and so do both of the room
registry; a connection in a room is registered. -/
structure Consistent (manager : ConnectionManager Conn) : Prop where
  address : ∀ conn session, manager.sessions.get conn = some session → session.connection = conn
  users : ∀ conn userId, conn ∈ manager.sessions.byUser.values userId ↔
    ∃ session, manager.sessions.get conn = some session ∧ session.userId = userId
  rooms : ∀ conn id, conn ∈ manager.rooms.connectionsInRoom id ↔ id ∈ manager.rooms.membership.values conn
  live : ∀ conn id, conn ∈ manager.rooms.connectionsInRoom id → (manager.sessions.get conn).isSome

theorem get_registerSession (manager : ConnectionManager Conn) (conn other : Conn) (userId : UserId)
    (username : String) (version : Version) :
    (manager.registerSession conn userId username version).sessions.get other =
      if other = conn then some ⟨conn, userId, username, version, 0⟩ else manager.sessions.get other :=
  SessionManager.get_add ..

theorem get_unregisterSession (manager : ConnectionManager Conn) (conn other : Conn) :
    (manager.unregisterSession conn).1.sessions.get other =
      if other = conn then none else manager.sessions.get other :=
  SessionManager.get_remove ..

theorem session_unregisterSession (manager : ConnectionManager Conn) (conn : Conn) :
    (manager.unregisterSession conn).2 = manager.sessions.get conn := by
  simp only [unregisterSession, SessionManager.remove]
  cases manager.sessions.get conn <;> rfl

variable {manager : ConnectionManager Conn}

theorem connectionsInRoom_unregisterSession (consistent : manager.Consistent) :
    other ∈ (manager.unregisterSession conn).1.rooms.connectionsInRoom id ↔
      other ∈ manager.rooms.connectionsInRoom id ∧ other ≠ conn := by
  have left : other ∈ (manager.rooms.leaveAll conn).connectionsInRoom id ↔
      other ∈ manager.rooms.connectionsInRoom id ∧ other ≠ conn := by
    rw [RoomManager.mem_leaveAll, ← consistent.rooms]
    grind
  exact left

theorem Consistent.agrees (consistent : manager.Consistent) :
    manager.sessions.Agrees := ⟨consistent.address, consistent.users⟩

theorem Reachable.consistent (reachable : manager.Reachable) :
    manager.Consistent := by
  induction reachable with
  | empty => constructor <;> simp [ConnectionManager.empty, SessionManager.empty, SessionManager.get, RoomManager.empty,
      RoomManager.connectionsInRoom]
  | @opened manager conn userId username version _ free ih =>
    have vacant : ∀ session, manager.sessions.get conn = some session → session.userId = userId := by simp [free]
    have agrees := ih.agrees.add vacant username version
    refine ⟨agrees.address, agrees.users, ih.rooms, fun other id member => ?_⟩
    rw [get_registerSession]
    split
    · rfl
    · exact ih.live other id member
  | @joined manager conn ids _ live ih =>
    refine ⟨ih.address, ih.users, fun other id => ?_, fun other id member => ?_⟩
    · rw [RoomManager.mem_joinMany, RoomManager.mem_membership_joinMany, ih.rooms]
    · rcases RoomManager.mem_joinMany.mp member with ⟨rfl, _⟩ | member
      · exact live
      · exact ih.live other id member
  | @closed manager conn _ ih =>
    have agrees := ih.agrees.remove conn
    refine ⟨agrees.address, agrees.users, fun other id => ?_, fun other id member => ?_⟩
    · rw [connectionsInRoom_unregisterSession ih, ih.rooms]
      simp only [unregisterSession, RoomManager.leaveAll, Multimap.values_drop]
      split <;> simp_all
    · rw [connectionsInRoom_unregisterSession ih] at member
      rw [get_unregisterSession, if_neg member.2]
      exact ih.live other id member.1

theorem Consistent.sessionsForUser_eq_nil (consistent : manager.Consistent) :
    manager.sessions.sessionsForUser userId = [] ↔
      ∀ conn session, manager.sessions.get conn = some session → session.userId ≠ userId := by
  rw [SessionManager.sessionsForUser, SessionManager.sessionsFor, List.filterMap_eq_nil_iff]
  constructor
  · intro absent conn session found own
    have missing := absent conn ((consistent.users conn userId).mpr ⟨session, found, own⟩)
    simp [found] at missing
  · intro foreign conn listed
    obtain ⟨session, found, own⟩ := (consistent.users conn userId).mp listed
    exact absurd own (foreign conn session found)

end ConnectionManager

end RealtimeChat.Realtime
