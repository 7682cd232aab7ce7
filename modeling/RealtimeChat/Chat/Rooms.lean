import Mathlib.Data.Fintype.Basic
import RealtimeChat.Chat.Membership
import RealtimeChat.Realtime.Fanout

/-! Typing indicators: the rooms of the instances against the stored membership.

An instance routes a typing indicator by its rooms. A connection joins the rooms
of its user's conversations when it opens and leaves them when it closes; the
operations on conversations write the store and leave the rooms alone. The world
is a cluster of instances over one store, and its steps are whole handlers and
whole successful operations.
-/

set_option autoImplicit false

namespace RealtimeChat.Chat

open Foundation Accounts Realtime ConversationRepository

namespace Rooms

variable {Node Conn : Type} [DecidableEq Node] [DecidableEq Conn]

structure World (Node Conn : Type) [DecidableEq Conn] where
  backend : Backend
  managers : Node → ConnectionManager Conn

/-- `found` is false when the conversation lookup of `onOpen` throws. -/
inductive Label (Node Conn : Type) where
  | onOpen (node : Node) (conn : Conn) (userId : UserId) (username : String) (version : Version) (found : Bool)
  | onClose (node : Node) (conn : Conn)
  | call (operation : Operation) (now : TimePoint)

def World.initial (users : UserTable) : World Node Conn :=
  ⟨⟨{ Store.empty with users := users }, 0, [], []⟩, fun _ => .empty⟩

/-- What `onOpen` does to the registries. -/
def opened (store : Store) (manager : ConnectionManager Conn) (conn : Conn) (userId : UserId) (username : String)
    (version : Version) (found : Bool) : ConnectionManager Conn :=
  let registered := manager.registerSession conn userId username version
  if found then { registered with rooms := registered.rooms.joinMany (listConversationIds store userId) conn }
  else registered

def World.place (world : World Node Conn) (node : Node) (manager : ConnectionManager Conn) : World Node Conn :=
  { world with managers := Function.update world.managers node manager }

def step : Step (World Node Conn) (Label Node Conn) := fun world label =>
  match label with
  | .onOpen node conn userId username version found =>
    if (world.managers node).sessions.get conn = none then
      some (world.place node
        (opened world.backend.store (world.managers node) conn userId username version found))
    else none
  | .onClose node conn => some (world.place node ((world.managers node).unregisterSession conn).1)
  | .call operation now =>
    match operation.call.run { world.backend with now := now } with
    | (backend, .ok _) => some { world with backend := backend }
    | (_, .error _) => none

def typingData (conversationId : ConversationId) (userId : UserId) (username : String) : Json :=
  .object [("conversation_id", .number conversationId), ("user_id", .number userId),
    ("username", .string username)]

/-- What `handleTyping` has an instance send: the sender's own instance leaves the sender out,
and the others, reached over the bus, leave nobody out. -/
def typing (manager : ConnectionManager Conn) (conversationId : ConversationId) (userId : UserId)
    (username : String) (starting : Bool) (exclude : Option Conn) (timestamp : String) : List (Conn × Json) :=
  deliverLocalToRoom manager conversationId (if starting then "typing.start" else "typing.stop")
    (typingData conversationId userId username) exclude timestamp

def World.participates (world : World Node Conn) (conversationId : ConversationId) (node : Node) (conn : Conn) :
    Prop :=
  ∃ session, (world.managers node).sessions.get conn = some session ∧
    isParticipant world.backend.store conversationId session.userId = true

/-- A typing indicator in a conversation reaches, on every instance, the connections of its
participants and no others. -/
def World.Matches (world : World Node Conn) : Prop :=
  ∀ conversationId, (findById world.backend.store conversationId).isSome = true →
    ∀ node conn userId username starting exclude timestamp,
      conn ∈ (typing (world.managers node) conversationId userId username starting exclude timestamp).map Prod.fst ↔
        world.participates conversationId node conn ∧ some conn ≠ exclude

/-- The users that an operation adds or removes have no open connection, and a lookup fails
only for users without conversations. -/
def Undisturbed (world : World Node Conn) : Label Node Conn → Prop
  | .onOpen _ _ userId _ _ found => found = true ∨ listConversationIds world.backend.store userId = []
  | .onClose _ _ => True
  | .call operation _ => ∀ userId ∈ operation.moved world.backend.store, ∀ node,
      (world.managers node).sessions.sessionsForUser userId = []

instance [Fintype Node] (world : World Node Conn) (label : Label Node Conn) : Decidable (Undisturbed world label) :=
  match label with
  | .onOpen _ _ userId _ _ found =>
    inferInstanceAs (Decidable (found = true ∨ listConversationIds world.backend.store userId = []))
  | .onClose _ _ => .isTrue trivial
  | .call operation _ => inferInstanceAs (Decidable (∀ userId ∈ operation.moved world.backend.store, ∀ node,
      (world.managers node).sessions.sessionsForUser userId = []))

def World.Aligned (world : World Node Conn) : Prop :=
  ∀ conversationId, Existing world.backend.store conversationId → ∀ node conn,
    conn ∈ (world.managers node).rooms.connectionsInRoom conversationId ↔
      world.participates conversationId node conn

/-- What every step keeps. A room stands for a conversation that exists or has existed. -/
structure World.Sound (world : World Node Conn) : Prop where
  reachable : ∀ node, (world.managers node).Reachable
  seated : Seated world.backend.store
  bounded : ∀ node conn conversationId,
    conn ∈ (world.managers node).rooms.connectionsInRoom conversationId →
      conversationId < world.backend.store.conversations.next

variable {manager : ConnectionManager Conn} {world next : World Node Conn} {node : Node} {conn : Conn}
  {final : Backend} {moved : UserId → Prop} {label : Label Node Conn} (users : UserTable)

theorem mem_typing (consistent : manager.Consistent) (conversationId : ConversationId) (userId : UserId)
    (username : String) (starting : Bool) (exclude : Option Conn) (timestamp : String) (conn : Conn) :
    conn ∈ (typing manager conversationId userId username starting exclude timestamp).map Prod.fst ↔
      conn ∈ manager.rooms.connectionsInRoom conversationId ∧ some conn ≠ exclude := by
  have distinct : (manager.rooms.connectionsInRoom conversationId).Nodup := Multimap.nodup_values ..
  have reached (sends : List (Conn × Json)) : conn ∈ sends.map Prod.fst ↔ framesTo conn sends ≠ [] := by
    simp [framesTo, List.filterMap_eq_nil_iff]
  rw [reached, typing, deliverLocalToRoom, framesTo_sendToSessions consistent distinct]
  split
  · next joined =>
    obtain ⟨session, found⟩ := Option.isSome_iff_exists.mp (consistent.live conn conversationId joined.1)
    simp [found, joined]
  · next outside => simpa using outside

omit [DecidableEq Node] in
theorem World.Sound.matches_iff (sound : world.Sound) : world.Matches ↔ world.Aligned := by
  have reach (node : Node) := mem_typing (sound.reachable node).consistent
  constructor
  · intro fits conversationId existing node conn
    have here := fits conversationId (findById_isSome.mpr existing) node conn 0 "" true none ""
    simpa [reach] using here
  · intro aligned conversationId existing node conn userId username starting exclude timestamp
    rw [reach, aligned conversationId (findById_isSome.mp existing)]

theorem aligned_place (aligned : world.Aligned) (node : Node) (manager : ConnectionManager Conn) :
    (world.place node manager).Aligned ↔ ∀ conversationId, Existing world.backend.store conversationId →
      ∀ conn, conn ∈ manager.rooms.connectionsInRoom conversationId ↔
        ∃ session, manager.sessions.get conn = some session ∧
          isParticipant world.backend.store conversationId session.userId = true := by
  constructor
  · intro after conversationId existing conn
    simpa [World.place, World.participates] using after conversationId existing node conn
  · intro here conversationId existing other conn
    by_cases same : other = node
    · subst same
      simpa [World.place, World.participates] using here conversationId existing conn
    · simpa [World.place, World.participates, same] using aligned conversationId existing other conn

theorem sound_place (sound : world.Sound) (reachable : manager.Reachable)
    (bounded : ∀ conn conversationId, conn ∈ manager.rooms.connectionsInRoom conversationId →
      conversationId < world.backend.store.conversations.next) : (world.place node manager).Sound := by
  refine ⟨fun other => ?_, sound.seated, fun other conn conversationId joined => ?_⟩
  · by_cases same : other = node
    · subst same
      simpa [World.place] using reachable
    · simpa [World.place, same] using sound.reachable other
  · by_cases same : other = node
    · subst same
      exact bounded conn conversationId (by simpa [World.place] using joined)
    · exact sound.bounded other conn conversationId (by simpa [World.place, same] using joined)

theorem opened_sound (sound : world.Sound) (free : (world.managers node).sessions.get conn = none) (userId : UserId)
    (username : String) (version : Version) (found : Bool) :
    (world.place node
      (opened world.backend.store (world.managers node) conn userId username version found)).Sound := by
  have registered := (sound.reachable node).opened userId username version free
  cases found with
  | false => exact sound_place sound registered (sound.bounded node)
  | true =>
    refine sound_place sound (registered.joined _ ?_) fun other conversationId joined => ?_
    · rw [ConnectionManager.get_registerSession, if_pos rfl]
      rfl
    · rcases RoomManager.mem_joinMany.mp joined with ⟨_, listed⟩ | old
      · exact (sound.seated _ _ (mem_listConversationIds.mp listed)).lt_next
      · exact sound.bounded node other conversationId old

theorem closed_sound (sound : world.Sound) (node : Node) (conn : Conn) :
    (world.place node ((world.managers node).unregisterSession conn).1).Sound := by
  refine sound_place sound (.closed conn (sound.reachable node)) fun other conversationId joined => ?_
  exact sound.bounded node other conversationId
    ((ConnectionManager.connectionsInRoom_unregisterSession (sound.reachable node).consistent).mp joined).1

theorem get_opened (store : Store) (manager : ConnectionManager Conn) (conn other : Conn) (userId : UserId)
    (username : String) (version : Version) (found : Bool) :
    (opened store manager conn userId username version found).sessions.get other =
      if other = conn then some ⟨conn, userId, username, version, 0⟩ else manager.sessions.get other := by
  rw [← ConnectionManager.get_registerSession]
  cases found <;> rfl

theorem connectionsInRoom_opened {store : Store} {other : Conn} {userId : UserId} {username : String}
    {version : Version} {found : Bool} {conversationId : ConversationId} :
    other ∈ (opened store manager conn userId username version found).rooms.connectionsInRoom conversationId ↔
      (other = conn ∧ found = true ∧ Member store conversationId userId) ∨
        other ∈ manager.rooms.connectionsInRoom conversationId := by
  cases found with
  | false => simp [opened, ConnectionManager.registerSession]
  | true =>
    refine Iff.trans RoomManager.mem_joinMany ?_
    simp [mem_listConversationIds, ConnectionManager.registerSession]

theorem aligned_opened (sound : world.Sound) (aligned : world.Aligned)
    (free : (world.managers node).sessions.get conn = none) (userId : UserId) (username : String) (version : Version)
    (found : Bool) :
    (world.place node
      (opened world.backend.store (world.managers node) conn userId username version found)).Aligned ↔
      (found = true ∨ listConversationIds world.backend.store userId = []) := by
  -- before it opens, the connection is in no room
  have outside (conversationId : ConversationId) :
      conn ∉ (world.managers node).rooms.connectionsInRoom conversationId := fun joined => by
    simpa [free] using (sound.reachable node).consistent.live conn conversationId joined
  rw [aligned_place aligned]
  simp only [get_opened, connectionsInRoom_opened, isParticipant_iff]
  constructor
  -- A failed lookup leaves the connection outside every room, which is right only for a user with none.
  · intro after
    by_cases looked : found = true
    · exact Or.inl looked
    · refine Or.inr (List.eq_nil_iff_forall_not_mem.mpr fun conversationId listed => ?_)
      have member := mem_listConversationIds.mp listed
      have joined := (after conversationId (sound.seated _ _ member) conn).mpr (by simpa using member)
      simp [looked, outside] at joined
  · intro served conversationId existing other
    by_cases same : other = conn
    · subst same
      have looked : Member world.backend.store conversationId userId → found = true := fun member =>
        served.resolve_right (List.ne_nil_of_mem (mem_listConversationIds.mpr member))
      simpa [outside] using looked
    · have before := aligned conversationId existing node other
      simpa [same, World.participates, isParticipant_iff] using before

theorem aligned_closed (sound : world.Sound) (aligned : world.Aligned) (node : Node) (conn : Conn) :
    (world.place node ((world.managers node).unregisterSession conn).1).Aligned := by
  rw [aligned_place aligned]
  intro conversationId existing other
  rw [ConnectionManager.connectionsInRoom_unregisterSession (sound.reachable node).consistent,
    aligned conversationId existing, ConnectionManager.get_unregisterSession]
  by_cases same : other = conn <;> simp [same, World.participates]

omit [DecidableEq Node] in
/-- An operation leaves the rooms alone, so it keeps them right exactly if it moves no user
who has a connection. -/
theorem aligned_call (sound : world.Sound) (aligned : world.Aligned)
    (moves : Moves world.backend.store final.store moved) :
    World.Aligned { world with backend := final } ↔ ∀ userId, moved userId → ∀ node conn session,
      (world.managers node).sessions.get conn = some session → session.userId ≠ userId := by
  -- whether or not the conversation is new, the rooms show the membership before the operation
  have before (conversationId : ConversationId) (existing : Existing final.store conversationId) (node : Node)
      (conn : Conn) : conn ∈ (world.managers node).rooms.connectionsInRoom conversationId ↔
        ∃ session, (world.managers node).sessions.get conn = some session ∧
          Member world.backend.store conversationId session.userId := by
    by_cases old : Existing world.backend.store conversationId
    · simpa [World.participates, isParticipant_iff] using aligned conversationId old node conn
    · refine iff_of_false (fun joined => ?_) ?_
      · exact absurd (sound.bounded node conn conversationId joined) (not_lt.mpr (moves.fresh _ existing old))
      · rintro ⟨session, _, member⟩
        exact old (sound.seated _ _ member)
  constructor
  · rintro after userId moving node conn session found rfl
    obtain ⟨conversationId, existing, changed⟩ := moves.moved session.userId moving
    have same := (after conversationId existing node conn).symm.trans (before conversationId existing node conn)
    simp only [World.participates, isParticipant_iff, found, Option.some.injEq, exists_eq_left'] at same
    exact changed same
  · intro unconnected conversationId existing node conn
    rw [before conversationId existing node conn]
    refine exists_congr fun session => and_congr_right fun found => ?_
    have stays : ¬ moved session.userId := fun moving => unconnected _ moving node conn session found rfl
    rw [isParticipant_iff]
    exact (moves.kept conversationId session.userId existing stays).symm

omit [DecidableEq Node] in
theorem sound_call (sound : world.Sound) (moves : Moves world.backend.store final.store moved) :
    World.Sound { world with backend := final } where
  reachable := sound.reachable
  seated := moves.seated
  bounded node conn conversationId joined := lt_of_lt_of_le (sound.bounded node conn conversationId joined) moves.grown

omit [DecidableEq Node] in
theorem call_moves (sound : world.Sound) {operation : Operation} {now : TimePoint} {done : Unit}
    (returned : operation.call.Returns { world.backend with now := now } final done) :
    Moves world.backend.store final.store fun userId => userId ∈ operation.moved world.backend.store := by
  have seated : Seated ({ world.backend with now := now } : Backend).store := sound.seated
  exact Operation.returns_moves seated returned

theorem step_cases (steps : step world label = some next) :
    (∃ node conn userId username version found, label = .onOpen node conn userId username version found ∧
      (world.managers node).sessions.get conn = none ∧ next = world.place node
        (opened world.backend.store (world.managers node) conn userId username version found)) ∨
    (∃ node conn, label = .onClose node conn ∧
      next = world.place node ((world.managers node).unregisterSession conn).1) ∨
    (∃ operation now final done, label = .call operation now ∧
      operation.call.Returns { world.backend with now := now } final done ∧
      next = { world with backend := final }) := by
  cases label with
  | onOpen node conn userId username version found =>
    simp only [step, Option.ite_none_right_eq_some, Option.some.injEq] at steps
    exact Or.inl ⟨_, _, _, _, _, _, rfl, steps.1, steps.2.symm⟩
  | onClose node conn => exact Or.inr (Or.inl ⟨_, _, rfl, (Option.some.inj steps).symm⟩)
  | call operation now =>
    simp only [step] at steps
    split at steps
    · next final done returned =>
      exact Or.inr (Or.inr ⟨_, _, final, done, rfl, returned, (Option.some.inj steps).symm⟩)
    · cases steps

theorem step_sound (sound : world.Sound) (steps : step world label = some next) : next.Sound := by
  rcases step_cases steps with ⟨node, conn, userId, username, version, found, rfl, free, rfl⟩ |
    ⟨node, conn, rfl, rfl⟩ | ⟨operation, now, final, done, rfl, returned, rfl⟩
  · exact opened_sound sound free userId username version found
  · exact closed_sound sound node conn
  · exact sound_call sound (call_moves sound returned)

theorem step_aligned_iff (sound : world.Sound) (aligned : world.Aligned) (steps : step world label = some next) :
    next.Aligned ↔ Undisturbed world label := by
  rcases step_cases steps with ⟨node, conn, userId, username, version, found, rfl, free, rfl⟩ |
    ⟨node, conn, rfl, rfl⟩ | ⟨operation, now, final, done, rfl, returned, rfl⟩
  · exact aligned_opened sound aligned free userId username version found
  · exact iff_of_true (aligned_closed sound aligned node conn) trivial
  · have absent (node : Node) (userId : UserId) :=
      @ConnectionManager.Consistent.sessionsForUser_eq_nil _ _ userId _ (sound.reachable node).consistent
    refine (aligned_call sound aligned (call_moves sound returned)).trans ?_
    simp only [Undisturbed, absent]

omit [DecidableEq Node] in
theorem initial_sound : (World.initial users : World Node Conn).Sound where
  reachable _ := .empty
  seated _ _ member := by
    obtain ⟨row, there, _⟩ := member
    exact absurd there Indexed.not_mem_empty
  bounded _ _ _ joined := by
    simp [World.initial, ConnectionManager.empty, RoomManager.empty, RoomManager.connectionsInRoom] at joined

omit [DecidableEq Node] in
theorem initial_matches : (World.initial users : World Node Conn).Matches := by
  refine (initial_sound users).matches_iff.mpr fun conversationId existing => ?_
  obtain ⟨row, there, _⟩ := existing
  exact absurd there Indexed.not_mem_empty

/-- Typing indicators reach the participants throughout a run exactly if no operation of the
run moves a user who is connected, and every lookup that matters succeeds. -/
theorem typing_matches_iff_undisturbed (users : UserTable) (labels : List (Label Node Conn))
    {final : World Node Conn} (runs : step.run (World.initial users) labels = some final) :
    step.Always World.Matches (World.initial users) labels ↔
      step.Guarded Undisturbed (World.initial users) labels := by
  refine Step.always_iff_guarded World.Sound (fun sound _ steps => step_sound sound steps) ?_
    (initial_sound users) (initial_matches users) runs
  intro world label next sound fits steps
  rw [(step_sound sound steps).matches_iff]
  exact step_aligned_iff sound (sound.matches_iff.mp fits) steps

def registered : UserTable :=
  ["alice", "bob", "carol"].foldl (fun users name =>
    users.append (NewUser.row ⟨name, name ++ "@example.com", ""⟩ 0) fun _ => rfl) (.empty _)

def team : Operation := .create 1 ⟨.group, some "team", [2]⟩

def changedWhileAway : List (Label Bool Nat) :=
  [.call team 0, .onOpen false 1 1 "alice" .v1 true, .onOpen true 2 2 "bob" .v2 true, .onClose true 2,
    .call (.removeMember 1 1 2) 10, .call (.addMember 1 1 3) 20, .onOpen true 2 3 "carol" .v1 true]

theorem typing_matches_iff_undisturbed_changedWhileAway :
    step.Always World.Matches (World.initial registered) changedWhileAway :=
  (typing_matches_iff_undisturbed registered changedWhileAway
    (Option.eq_some_of_isSome (by decide +kernel))).mpr (by decide +kernel)

def changedWhileConnected : List (Label Bool Nat) :=
  [.call team 0, .onOpen false 1 1 "alice" .v1 true, .onOpen true 2 2 "bob" .v2 true,
    .onOpen true 3 3 "carol" .v1 true, .call (.removeMember 1 1 2) 10, .call (.addMember 1 1 3) 20]

/-- The owner types: the other instance still sends to the member who was removed, and not to
the one who was added. -/
theorem removed_member_reached :
    ∃ final, step.run (World.initial registered) changedWhileConnected = some final ∧
      isParticipant final.backend.store 1 1 = true ∧
      ((typing (final.managers true) 1 1 "alice" true none "").map Prod.fst = [2]) ∧
      isParticipant final.backend.store 1 2 = false ∧
      isParticipant final.backend.store 1 3 = true ∧
      final.participates 1 true 3 ∧ ¬ final.Matches := by
  refine ⟨_, rfl, by decide, by decide, by decide, by decide, ⟨_, rfl, by decide⟩, fun fits => ?_⟩
  have reached := fits 1 (by decide) true 3 1 "alice" true none ""
  have participates := reached.mpr ⟨⟨_, rfl, by decide⟩, nofun⟩
  revert participates
  decide

end Rooms

end RealtimeChat.Chat
