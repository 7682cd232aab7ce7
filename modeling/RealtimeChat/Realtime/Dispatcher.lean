import Mathlib.Data.List.Count
import RealtimeChat.Foundation.Run
import RealtimeChat.Presence.Service
import RealtimeChat.Realtime.Connections

/-! The handlers of the event dispatcher that open and close connections.

A handler moves the session registry and the presence counts in separate steps,
between which other handlers run and the presence feature is switched. `onOpen`
registers the session, looks up the user's conversations, reads the feature flag
and only then counts the session; an exception on the way ends its side effects
but not the session. `onClose` unregisters the session, reads the flag afresh and
then takes one session off the count. A connection runs one handler at a time.
-/

set_option autoImplicit false

namespace RealtimeChat.Realtime

open Foundation Presence

namespace Dispatcher

inductive Handler where
  | joinRooms (userId : UserId)
  | readFlag (userId : UserId)
  | connect (userId : UserId)
  | announceOnline (userId : UserId)
  | ready
  | readFlagClosing (userId : UserId)
  | disconnect (userId : UserId)
  | announceOffline (userId : UserId)
  deriving DecidableEq, Repr

variable {Conn Node : Type} [DecidableEq Conn] [DecidableEq Node]

/-- The state of one instance. `counted` and `succeeded` are history: the sessions that
`onConnect` has counted and `onDisconnect` has not yet been called for, and the connections
whose open read the flag as on and met no exception. -/
structure World (Conn Node : Type) [DecidableEq Conn] [DecidableEq Node] where
  manager : ConnectionManager Conn
  presence : PresenceService Node
  enabled : Bool
  handlers : AList (fun _ : Conn => Handler)
  counted : List (UserId × Conn)
  succeeded : List Conn

/-- What a step may read: the result of a database lookup, `none` when it throws, and the clock. -/
structure Readings where
  lookup : Option (List Int)
  now : TimePoint
  nowMs : Int

inductive Label (Conn Node : Type) where
  | onOpen (conn : Conn) (userId : UserId) (username : String) (version : Version)
  | onClose (conn : Conn)
  | proceed (conn : Conn) (readings : Readings)
  | setEnabled (enabled : Bool)
  | applyRemote (node : Node) (delta : PresenceDelta) (now : TimePoint)

def World.initial (enabled : Bool) : World Conn Node := ⟨.empty, .empty, enabled, ∅, [], []⟩

def World.enter (world : World Conn Node) (conn : Conn) (handler : Handler) : World Conn Node :=
  { world with handlers := world.handlers.insert conn handler }

def World.finish (world : World Conn Node) (conn : Conn) : World Conn Node :=
  { world with handlers := world.handlers.erase conn }

def World.proceed (world : World Conn Node) (conn : Conn) (readings : Readings) : Handler → World Conn Node
  | .joinRooms userId =>
    match readings.lookup with
    | some conversationIds =>
      World.enter { world with
        manager := { world.manager with rooms := world.manager.rooms.joinMany conversationIds conn } }
        conn (.readFlag userId)
    -- The exception is caught around all the side effects, so the session is never counted.
    | none => world.enter conn .ready
  | .readFlag userId => world.enter conn (if world.enabled then .connect userId else .ready)
  | .connect userId =>
    let transition := world.presence.onConnect userId readings.nowMs
    let counting := { world with presence := transition.service, counted := (userId, conn) :: world.counted }
    if transition.changed then counting.enter conn (.announceOnline userId)
    else World.enter { counting with succeeded := conn :: counting.succeeded } conn .ready
  | .announceOnline _ =>
    match readings.lookup with
    | some _ => World.enter { world with succeeded := conn :: world.succeeded } conn .ready
    | none => world.enter conn .ready
  | .ready => world.finish conn
  -- The flag may have been switched since the open, in either direction.
  | .readFlagClosing userId => if world.enabled then world.enter conn (.disconnect userId) else world.finish conn
  | .disconnect userId =>
    let transition := world.presence.onDisconnect userId readings.now readings.nowMs
    let counting :=
      { world with presence := transition.service, counted := world.counted.erase (userId, conn) }
    if transition.changed then counting.enter conn (.announceOffline userId) else counting.finish conn
  | .announceOffline _ => world.finish conn

def step : Step (World Conn Node) (Label Conn Node) := fun world label =>
  match label with
  | .onOpen conn userId username version =>
    if world.handlers.lookup conn = none ∧ world.manager.sessions.get conn = none then
      some (World.enter { world with
        manager := world.manager.registerSession conn userId username version
        succeeded := world.succeeded.filter (· ≠ conn) } conn (.joinRooms userId))
    else none
  | .onClose conn =>
    if world.handlers.lookup conn = none then
      let (manager, session) := world.manager.unregisterSession conn
      match session with
      | some session => some (World.enter { world with manager := manager } conn (.readFlagClosing session.userId))
      | none => some { world with manager := manager }
    else none
  | .proceed conn readings => (world.handlers.lookup conn).map (world.proceed conn readings)
  | .setEnabled enabled => some { world with enabled := enabled }
  | .applyRemote node delta now => some { world with presence := world.presence.applyRemote node delta now }

/-- While the feature is on and no handler runs, a user without a session is not online here,
and a user with a session that was opened with the feature on and without an exception is. -/
def World.Truthful (world : World Conn Node) : Prop :=
  world.enabled = true → world.handlers = ∅ →
    (∀ userId, (∀ conn session, world.manager.sessions.get conn = some session → session.userId ≠ userId) →
      world.presence.isOnlineLocally userId = false) ∧
    ∀ conn session, world.manager.sessions.get conn = some session → conn ∈ world.succeeded →
      world.presence.isOnlineLocally session.userId = true

/-- A close finds the feature on if its session was counted, and takes a session off the
count only if its own was counted or none is. -/
def World.Balances (world : World Conn Node) (conn : Conn) : Handler → Prop
  | .readFlagClosing userId => (userId, conn) ∈ world.counted → world.enabled = true
  | .disconnect userId => (userId, conn) ∈ world.counted ∨ world.presence.count userId = 0
  | _ => True

def Balanced (world : World Conn Node) : Label Conn Node → Prop
  | .proceed conn _ => ∀ handler ∈ world.handlers.lookup conn, world.Balances conn handler
  | _ => True

instance (world : World Conn Node) (conn : Conn) : ∀ handler, Decidable (world.Balances conn handler)
  | .readFlagClosing userId => inferInstanceAs (Decidable ((userId, conn) ∈ world.counted → world.enabled = true))
  | .disconnect userId =>
    inferInstanceAs (Decidable ((userId, conn) ∈ world.counted ∨ world.presence.count userId = 0))
  | .joinRooms _ | .readFlag _ | .connect _ | .announceOnline _ | .ready | .announceOffline _ => isTrue trivial

instance (world : World Conn Node) : ∀ label, Decidable (Balanced world label)
  | .proceed conn _ =>
    inferInstanceAs (Decidable (∀ handler ∈ world.handlers.lookup conn, world.Balances conn handler))
  | .onOpen .. | .onClose _ | .setEnabled _ | .applyRemote .. => isTrue trivial

/-- How the session of a connection, its being counted and its handler go together. -/
def Fits (registered : Option UserId) (counted : UserId → Prop) : Option Handler → Prop
  | some (.joinRooms userId) | some (.readFlag userId) | some (.connect userId) =>
    registered = some userId ∧ ∀ user, ¬ counted user
  | some (.announceOnline userId) => registered = some userId ∧ ∀ user, counted user ↔ user = userId
  | some .ready | none => ∀ user, counted user → registered = some user
  | some (.readFlagClosing userId) | some (.disconnect userId) =>
    registered = none ∧ ∀ user, counted user → user = userId
  | some (.announceOffline _) => registered = none ∧ ∀ user, ¬ counted user

def World.userOf (world : World Conn Node) (conn : Conn) : Option UserId :=
  (world.manager.sessions.get conn).map Session.userId

structure World.Accounted (world : World Conn Node) : Prop where
  fits : ∀ conn, Fits (world.userOf conn) (fun userId => (userId, conn) ∈ world.counted)
    (world.handlers.lookup conn)
  counts : ∀ userId, world.presence.count userId = world.counted.countP fun entry => entry.1 = userId
  once : world.counted.Nodup
  succeeded : ∀ conn ∈ world.succeeded, ∀ userId, world.userOf conn = some userId →
    (userId, conn) ∈ world.counted

theorem World.Accounted.initial (enabled : Bool) : (World.initial enabled : World Conn Node).Accounted := by
  refine ⟨fun conn => ?_, fun _ => rfl, List.nodup_nil, fun _ member => (nomatch member)⟩
  intro user counted
  cases counted

variable {world next : World Conn Node} {conn : Conn} {handler : Handler} {userId : UserId}

section

variable (accounted : world.Accounted)

include accounted

theorem World.Accounted.truthful : world.Truthful := by
  intro _ quiet
  refine ⟨fun userId absent => ?_, fun conn session found succeeded => ?_⟩
  · rw [← Bool.not_eq_true, PresenceService.isOnlineLocally_iff, accounted.counts, List.countP_pos_iff]
    rintro ⟨⟨user, conn⟩, counted, same⟩
    obtain rfl : user = userId := by simpa using same
    -- No handler runs, so a counted session is a registered one.
    have fits := accounted.fits conn
    rw [quiet, AList.lookup_empty] at fits
    obtain ⟨session, found, sameUser⟩ := Option.map_eq_some_iff.mp (fits user counted)
    exact absent conn session found sameUser
  · have counted := accounted.succeeded conn succeeded session.userId (by simp [World.userOf, found])
    rw [PresenceService.isOnlineLocally_iff, accounted.counts, List.countP_pos_iff]
    exact ⟨_, counted, by simp⟩

theorem World.Accounted.locally (conn : Conn)
    (sessions : ∀ other, other ≠ conn → next.userOf other = world.userOf other)
    (handlers : ∀ other, other ≠ conn → next.handlers.lookup other = world.handlers.lookup other)
    (counted : ∀ userId other, other ≠ conn → ((userId, other) ∈ next.counted ↔ (userId, other) ∈ world.counted))
    (history : ∀ other, other ≠ conn → other ∈ next.succeeded → other ∈ world.succeeded)
    (fits : Fits (next.userOf conn) (fun userId => (userId, conn) ∈ next.counted) (next.handlers.lookup conn))
    (counts : ∀ userId, next.presence.count userId = next.counted.countP fun entry => entry.1 = userId)
    (once : next.counted.Nodup)
    (succeeded : conn ∈ next.succeeded → ∀ userId, next.userOf conn = some userId → (userId, conn) ∈ next.counted) :
    next.Accounted := by
  refine ⟨fun other => ?_, counts, once, fun other member userId registered => ?_⟩
  · by_cases same : other = conn
    · exact same ▸ fits
    · rw [sessions other same, handlers other same]
      simpa only [counted _ other same] using accounted.fits other
  · by_cases same : other = conn
    · subst same
      exact succeeded member userId registered
    · rw [sessions other same] at registered
      exact (counted userId other same).mpr
        (accounted.succeeded other (history other same member) userId registered)

theorem World.Accounted.enter
    (fits : Fits (world.userOf conn) (fun userId => (userId, conn) ∈ world.counted) (some handler)) :
    (world.enter conn handler).Accounted := by
  refine accounted.locally conn (fun _ _ => rfl) (fun other different => ?_) (fun _ _ _ => Iff.rfl)
    (fun _ _ member => member) ?_ accounted.counts accounted.once (accounted.succeeded conn)
  · exact AList.lookup_insert_ne different
  · rw [World.enter, AList.lookup_insert]
    exact fits

theorem World.Accounted.finish (fits : Fits (world.userOf conn) (fun userId => (userId, conn) ∈ world.counted) none) :
    (world.finish conn).Accounted := by
  refine accounted.locally conn (fun _ _ => rfl) (fun other different => ?_) (fun _ _ _ => Iff.rfl)
    (fun _ _ member => member) ?_ accounted.counts accounted.once (accounted.succeeded conn)
  · exact AList.lookup_erase_ne different
  · rw [World.finish, AList.lookup_erase]
    exact fits

theorem World.Accounted.succeed (counted : ∀ userId, world.userOf conn = some userId → (userId, conn) ∈ world.counted) :
    World.Accounted { world with succeeded := conn :: world.succeeded } := by
  refine ⟨accounted.fits, accounted.counts, accounted.once, fun other member userId registered => ?_⟩
  rcases List.mem_cons.mp member with rfl | old
  · exact counted userId registered
  · exact accounted.succeeded other old userId registered

section Elsewhere

variable {handlers : AList fun _ : Conn => Handler}
  (elsewhere : ∀ other, other ≠ conn → handlers.lookup other = world.handlers.lookup other)

include elsewhere

theorem World.Accounted.connect (found : world.handlers.lookup conn = some (.connect userId)) (nowMs : Int)
    (continues : Fits (some userId) (fun user => user = userId) (handlers.lookup conn)) :
    World.Accounted { world with
      presence := (world.presence.onConnect userId nowMs).service
      counted := (userId, conn) :: world.counted
      handlers := handlers } := by
  have fits := accounted.fits conn
  rw [found] at fits
  obtain ⟨registered, uncounted⟩ := fits
  refine accounted.locally conn (fun _ _ => rfl) elsewhere (fun user other different => ?_)
    (fun _ _ member => member) ?_ (fun user => ?_) ?_ (fun _ user shown => ?_)
  · simp [different]
  · have own (user : UserId) : ((user, conn) ∈ (userId, conn) :: world.counted) = (user = userId) := by
      simp [uncounted]
    simpa only [own, World.userOf, ← registered] using continues
  · simp only [PresenceService.count_onConnect, List.countP_cons, accounted.counts]
    by_cases same : user = userId
    · simp [same]
    · simp [same, Ne.symm same]
  · exact List.nodup_cons.mpr ⟨uncounted userId, accounted.once⟩
  · obtain rfl : userId = user := Option.some.inj (registered.symm.trans shown)
    exact List.mem_cons_self

theorem World.Accounted.disconnect (found : world.handlers.lookup conn = some (.disconnect userId))
    (balanced : (userId, conn) ∈ world.counted ∨ world.presence.count userId = 0) (now : TimePoint) (nowMs : Int)
    (continues : Fits none (fun _ => False) (handlers.lookup conn)) :
    World.Accounted { world with
      presence := (world.presence.onDisconnect userId now nowMs).service
      counted := world.counted.erase (userId, conn)
      handlers := handlers } := by
  have fits := accounted.fits conn
  rw [found] at fits
  obtain ⟨removed, own⟩ := fits
  refine accounted.locally conn (fun _ _ => rfl) elsewhere (fun user other different => ?_)
    (fun _ _ member => member) ?_ (fun user => ?_) ?_ (fun _ user shown => ?_)
  · exact List.mem_erase_of_ne (by simp [different])
  · have none (user : UserId) : ((user, conn) ∈ world.counted.erase (userId, conn)) = False := by
      refine eq_false fun counted => ?_
      obtain ⟨distinct, member⟩ := accounted.once.mem_erase_iff.mp counted
      exact distinct (by rw [own user member])
    simpa only [none, World.userOf, ← removed] using continues
  · simp only [PresenceService.count_onDisconnect, List.countP_erase, accounted.counts]
    rw [accounted.counts] at balanced
    by_cases same : user = userId
    · subst same
      rcases balanced with counted | none
      · simp [counted]
      · simp [none]
    · simp [same, Ne.symm same]
  · exact accounted.once.erase _
  · exact absurd (removed.symm.trans shown) (by simp)

theorem World.Accounted.onClose (continues : Fits none (fun user => (user, conn) ∈ world.counted) (handlers.lookup conn)) :
    World.Accounted { world with
      manager := (world.manager.unregisterSession conn).1
      handlers := handlers } := by
  refine accounted.locally conn (fun other different => ?_) elsewhere (fun _ _ _ => Iff.rfl)
    (fun _ _ member => member) ?_ accounted.counts accounted.once fun _ user shown => ?_
  · simp [World.userOf, ConnectionManager.get_unregisterSession, different]
  · simpa [World.userOf, ConnectionManager.get_unregisterSession] using continues
  · simp [World.userOf, ConnectionManager.get_unregisterSession] at shown

end Elsewhere

theorem World.Accounted.proceed (found : world.handlers.lookup conn = some handler)
    (balanced : world.Balances conn handler) (readings : Readings) :
    (world.proceed conn readings handler).Accounted := by
  have fits := accounted.fits conn
  rw [found] at fits
  cases handler with
  | joinRooms userId =>
    simp only [World.proceed]
    split
    · next conversationIds _ =>
      have joined : World.Accounted { world with
          manager := { world.manager with rooms := world.manager.rooms.joinMany conversationIds conn } } :=
        ⟨accounted.fits, accounted.counts, accounted.once, accounted.succeeded⟩
      exact joined.enter fits
    · exact accounted.enter fun user counted => absurd counted (fits.2 user)
  | readFlag userId =>
    simp only [World.proceed]
    split
    · exact accounted.enter fits
    · exact accounted.enter fun user counted => absurd counted (fits.2 user)
  | connect userId =>
    simp only [World.proceed]
    split
    · refine accounted.connect (fun _ => AList.lookup_insert_ne) found readings.nowMs ?_
      simp [Fits]
    · refine World.Accounted.succeed
        (accounted.connect (fun _ => AList.lookup_insert_ne) found readings.nowMs ?_) ?_
      · simp [Fits]
      · intro user shown
        obtain rfl : userId = user := Option.some.inj (fits.1.symm.trans shown)
        exact List.mem_cons_self
  | announceOnline userId =>
    have counted : ∀ user, world.userOf conn = some user → (user, conn) ∈ world.counted :=
      fun user shown => (fits.2 user).mpr (Option.some.inj (shown.symm.trans fits.1))
    have ready : ∀ user, (user, conn) ∈ world.counted → world.userOf conn = some user :=
      fun user member => (fits.2 user).mp member ▸ fits.1
    simp only [World.proceed]
    split
    · exact (accounted.succeed counted).enter ready
    · exact accounted.enter ready
  | ready => exact accounted.finish fits
  | readFlagClosing userId =>
    simp only [World.proceed]
    split
    · exact accounted.enter fits
    · next off =>
      refine accounted.finish fun user counted => ?_
      obtain rfl := fits.2 user counted
      exact absurd (balanced counted) off
  | disconnect userId =>
    simp only [World.proceed]
    split
    · refine accounted.disconnect (fun _ => AList.lookup_insert_ne) found balanced readings.now readings.nowMs ?_
      simp [Fits]
    · refine accounted.disconnect (fun _ => AList.lookup_erase_ne) found balanced readings.now readings.nowMs ?_
      simp [Fits]
  | announceOffline userId => exact accounted.finish fun user counted => absurd counted (fits.2 user)

theorem World.Accounted.onOpen (idle : world.handlers.lookup conn = none)
    (free : world.manager.sessions.get conn = none) (userId : UserId) (username : String) (version : Version) :
    World.Accounted (World.enter { world with
      manager := world.manager.registerSession conn userId username version
      succeeded := world.succeeded.filter (· ≠ conn) } conn (.joinRooms userId)) := by
  have fits := accounted.fits conn
  rw [idle] at fits
  have uncounted (user : UserId) : (user, conn) ∉ world.counted := fun counted => by
    simpa [World.userOf, free] using fits user counted
  refine accounted.locally conn (fun other different => ?_) (fun _ => AList.lookup_insert_ne)
    (fun _ _ _ => Iff.rfl) (fun other _ member => (List.mem_filter.mp member).1) ?_ accounted.counts
    accounted.once fun member => ?_
  · simp [World.userOf, World.enter, ConnectionManager.get_registerSession, different]
  · simpa [World.userOf, World.enter, ConnectionManager.get_registerSession, Fits] using uncounted
  · simp [World.enter] at member

theorem World.Accounted.step {label : Label Conn Node} (balanced : Balanced world label)
    (moves : step world label = some next) : next.Accounted := by
  cases label with
  | onOpen conn userId username version =>
    simp only [Dispatcher.step, Option.ite_none_right_eq_some, Option.some.injEq] at moves
    obtain ⟨⟨idle, free⟩, rfl⟩ := moves
    exact accounted.onOpen idle free userId username version
  | onClose conn =>
    simp only [Dispatcher.step, Option.ite_none_right_eq_some] at moves
    obtain ⟨idle, moves⟩ := moves
    have fits := accounted.fits conn
    rw [idle] at fits
    rw [ConnectionManager.session_unregisterSession] at moves
    cases found : world.manager.sessions.get conn with
    | none =>
      rw [found] at moves
      cases moves
      refine accounted.onClose (fun _ _ => rfl) ?_
      simpa [World.userOf, found, idle, Fits] using fits
    | some session =>
      rw [found] at moves
      cases moves
      refine accounted.onClose (fun _ => AList.lookup_insert_ne) ?_
      simpa [World.userOf, found, Fits, eq_comm] using fits
  | proceed conn readings =>
    obtain ⟨handler, found, rfl⟩ := Option.map_eq_some_iff.mp moves
    exact accounted.proceed found (balanced handler found) readings
  | setEnabled enabled =>
    cases moves
    exact ⟨accounted.fits, accounted.counts, accounted.once, accounted.succeeded⟩
  | applyRemote node delta now =>
    cases moves
    exact ⟨accounted.fits, fun userId => by simp [accounted.counts], accounted.once, accounted.succeeded⟩

end

/-- In a run whose closes are balanced, the presence counts tell the truth whenever the
feature is on and no handler runs. -/
theorem truthful_of_balanced (enabled : Bool) (labels : List (Label Conn Node)) {final : World Conn Node}
    (balanced : step.Guarded Balanced (World.initial enabled) labels)
    (runs : step.run (World.initial enabled) labels = some final) : final.Truthful :=
  (Step.guarded_invariant World.Accounted (fun accounted => accounted.step) (.initial enabled) balanced runs).truthful

/-- So many steps of the handler of a connection, whose lookups succeed. -/
def proceeds (conn : Nat) (steps : Nat) : List (Label Nat String) :=
  List.replicate steps (.proceed conn ⟨some [], 0, 0⟩)

/-- Two sessions of a user, the second opened and closed while the feature is off. -/
def switchedBetween : List (Label Nat String) :=
  [.onOpen 0 1 "alice" .v1] ++ proceeds 0 5 ++ [.setEnabled false, .onOpen 1 1 "alice" .v2] ++ proceeds 1 3 ++
    [.onClose 1] ++ proceeds 1 1 ++ [.setEnabled true]

theorem truthful_of_balanced_switchedBetween : ∃ final, step.run (World.initial true) switchedBetween = some final ∧
      final.presence.isOnlineLocally 1 = true := by
  refine ⟨_, rfl, ?_⟩
  have truthful := truthful_of_balanced true switchedBetween (by decide) rfl
  exact (truthful rfl rfl).2 0 ⟨0, 1, "alice", .v1, 0⟩ rfl (by decide)

/-- A session is counted while the feature is on and closed while it is off. -/
def switchedOff : List (Label Nat String) :=
  [.onOpen 0 1 "alice" .v1] ++ proceeds 0 5 ++ [.setEnabled false, .onClose 0] ++ proceeds 0 1 ++
    [.setEnabled true]

/-- The conversation lookup fails for the first of two sessions, which closes before the second. -/
def lookupFails : List (Label Nat String) :=
  [.onOpen 0 1 "alice" .v1, .proceed 0 ⟨none, 0, 0⟩] ++ proceeds 0 1 ++ [.onOpen 1 1 "alice" .v1] ++
    proceeds 1 5 ++ [.onClose 0] ++ proceeds 0 3

/-- The first run leaves a user online without a session, the second offline with one. -/
theorem presence_count_unbalanced :
    (∃ final, step.run (World.initial true) switchedOff = some final ∧ ¬ final.Truthful) ∧
      ∃ final, step.run (World.initial true) lookupFails = some final ∧ ¬ final.Truthful := by
  refine ⟨⟨_, rfl, fun truthful => ?_⟩, ⟨_, rfl, fun truthful => ?_⟩⟩
  · have offline := (truthful rfl rfl).1 1 fun conn session found => (nomatch found)
    exact absurd offline (by decide)
  · have online := (truthful rfl rfl).2 1 ⟨1, 1, "alice", .v1, 0⟩ rfl (by decide)
    exact absurd online (by decide)

end Dispatcher

end RealtimeChat.Realtime
