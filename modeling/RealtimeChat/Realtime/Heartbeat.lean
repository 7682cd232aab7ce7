import RealtimeChat.Foundation.Run
import RealtimeChat.Realtime.Connections

/-! The heartbeat monitor and the activity it goes by.

A session is put into the registry with the activity time zero, and the time of
its opening is stored afterwards. A frame is stamped with a time that is read
before the registry is locked. The monitor wakes after its interval, reads the
clock, copies the sessions and then looks at one after the other; all copies
share the stamp of their session.

The handlers of one connection run one after the other, on the thread of the
connection. Connections are named by identity: none is opened twice.
-/

set_option autoImplicit false

namespace RealtimeChat.Realtime

open Foundation

namespace Heartbeat

inductive Handler where
  | unopened
  | registered
  | storing (atMs : Int)
  | idle
  | touching (atMs : Int)
  | closed
  deriving DecidableEq, Repr

def Handler.settled : Handler → Bool
  | .registered | .storing _ | .touching _ => false
  | .unopened | .idle | .closed => true

def Handler.opened : Handler → Bool
  | .registered | .storing _ | .idle | .touching _ => true
  | .unopened | .closed => false

inductive Monitor (Conn : Type) where
  | sleeping (untilMs : Int)
  | woken (now : Int)
  | visiting (now : Int) (queue : List (Session Conn))

/-- A connection that the monitor closes: the time its sweep has read, and the times at which the
connection was opened or had sent a frame by then. -/
structure Closing (Conn : Type) where
  connection : Conn
  now : Int
  activity : List Int

/-- The intervals as configured, in seconds. -/
structure Options where
  interval : Nat
  timeout : Nat

def Options.timeoutMs (options : Options) : Int := options.timeout * 1000

def Options.intervalMs (options : Options) : Int := options.interval * 1000

structure World (Conn : Type) [DecidableEq Conn] where
  clock : Int
  sessions : SessionManager Conn
  lastActivityMs : Conn → Int
  handler : Conn → Handler
  activity : Conn → List Int
  monitor : Monitor Conn
  closings : List (Closing Conn)

variable {Conn : Type} [DecidableEq Conn]

def World.initial (options : Options) (clock : Int) : World Conn :=
  ⟨clock, .empty, fun _ => 0, fun _ => .unopened, fun _ => [], .sleeping (clock + options.intervalMs), []⟩

namespace World

def turn (world : World Conn) (conn : Conn) (handler : Handler) : World Conn :=
  { world with handler := Function.update world.handler conn handler }

def stamp (world : World Conn) (conn : Conn) (atMs : Int) : World Conn :=
  { world with lastActivityMs := Function.update world.lastActivityMs conn atMs }

def hear (world : World Conn) (conn : Conn) : World Conn :=
  { world with activity := Function.update world.activity conn (world.clock :: world.activity conn) }

end World

inductive Label (Conn : Type) where
  | tick (elapsed : Nat)
  | register (conn : Conn) (userId : UserId) (username : String) (version : Version)
  | readClock (conn : Conn)
  | storeActivity (conn : Conn)
  | receive (conn : Conn)
  | touch (conn : Conn)
  | unregister (conn : Conn)
  | wake
  | snapshot
  | visit

def step (options : Options) : Step (World Conn) (Label Conn) := fun world label =>
  match label with
  | .tick elapsed => some { world with clock := world.clock + elapsed }
  | .register conn userId username version =>
    if world.handler conn = .unopened then
      some { ((world.turn conn .registered).stamp conn 0).hear conn with
        sessions := world.sessions.add conn userId username version }
    else none
  | .readClock conn =>
    match world.handler conn with
    | .registered => some (world.turn conn (.storing world.clock))
    | _ => none
  | .storeActivity conn =>
    match world.handler conn with
    | .storing atMs => some ((world.turn conn .idle).stamp conn atMs)
    | _ => none
  | .receive conn =>
    match world.handler conn with
    | .idle => some ((world.turn conn (.touching world.clock)).hear conn)
    | _ => none
  | .touch conn =>
    match world.handler conn with
    | .touching atMs =>
      if (world.sessions.get conn).isSome then some ((world.turn conn .idle).stamp conn atMs)
      else some (world.turn conn .idle)
    | _ => none
  | .unregister conn =>
    match world.handler conn with
    | .idle => some { world.turn conn .closed with sessions := (world.sessions.remove conn).1 }
    | _ => none
  | .wake =>
    match world.monitor with
    | .sleeping untilMs => if untilMs ≤ world.clock then some { world with monitor := .woken world.clock } else none
    | _ => none
  | .snapshot =>
    match world.monitor with
    | .woken now => some { world with monitor := .visiting now world.sessions.snapshot }
    | _ => none
  | .visit =>
    match world.monitor with
    | .visiting now (session :: queue) =>
      if now - world.lastActivityMs session.connection > options.timeoutMs then
        some { world with
          monitor := .visiting now queue
          closings := world.closings ++ [⟨session.connection, now, world.activity session.connection⟩] }
      else some { world with monitor := .visiting now queue }
    | .visiting _ [] => some { world with monitor := .sleeping (world.clock + options.intervalMs) }
    | _ => none

/-- The connection was neither opened nor heard of in the timeout before the sweep read the clock. -/
def Closing.Idle (options : Options) (closing : Closing Conn) : Prop :=
  ∀ atMs ∈ closing.activity, ¬ (closing.now - options.timeoutMs ≤ atMs ∧ atMs ≤ closing.now)

def OnlyIdle (options : Options) (world : World Conn) : Prop := ∀ closing ∈ world.closings, closing.Idle options

/-- The monitor does not look at a session whose latest activity is still to be stored. -/
def Settled (world : World Conn) : Label Conn → Prop
  | .visit =>
    match world.monitor with
    | .visiting _ (session :: _) => (world.handler session.connection).settled = true
    | _ => True
  | _ => True

instance (world : World Conn) (label : Label Conn) : Decidable (Settled world label) :=
  match label with
  | .visit =>
    match monitor : world.monitor with
    | .visiting _ (session :: _) =>
      decidable_of_iff ((world.handler session.connection).settled = true) (by simp [Settled, monitor])
    | .visiting _ [] | .sleeping _ | .woken _ => isTrue (by simp [Settled, monitor])
  | .tick _ | .register .. | .readClock _ | .storeActivity _ | .receive _ | .touch _ | .unregister _ | .wake
  | .snapshot => isTrue trivial

/-- Where the times of a connection's activity stand: at or below its stamp, or at or below the
time that is about to be stored. -/
def Handler.Covers (activity : List Int) (lastActivityMs : Int) : Handler → Prop
  | .unopened => activity = []
  | .registered => True
  | .storing atMs | .touching atMs => ∀ heard ∈ activity, heard ≤ atMs
  | .idle | .closed => ∀ heard ∈ activity, heard ≤ lastActivityMs

def World.Covered (world : World Conn) (conn : Conn) : Prop :=
  (world.handler conn).Covers (world.activity conn) (world.lastActivityMs conn)

structure Tracked (options : Options) (world : World Conn) : Prop where
  past : ∀ conn, ∀ heard ∈ world.activity conn, heard ≤ world.clock
  covered : ∀ conn, world.Covered conn
  listed : ∀ conn, (world.handler conn).opened = true → (world.sessions.get conn).isSome
  onlyIdle : OnlyIdle options world

namespace Tracked

variable {options : Options} {world next : World Conn} {conn : Conn}

section

variable (tracked : Tracked options world)

include tracked

theorem move (conn : Conn) (clock : next.clock = world.clock) (closings : next.closings = world.closings)
    (others : ∀ other, other ≠ conn → next.handler other = world.handler other ∧
      next.activity other = world.activity other ∧ next.lastActivityMs other = world.lastActivityMs other ∧
      next.sessions.get other = world.sessions.get other)
    (past : ∀ heard ∈ next.activity conn, heard ≤ world.clock) (covered : next.Covered conn)
    (listed : (next.handler conn).opened = true → (next.sessions.get conn).isSome) : Tracked options next := by
  refine ⟨fun other heard member => ?_, fun other => ?_, fun other opened => ?_, ?_⟩
  · rw [clock]
    by_cases same : other = conn
    · subst same
      exact past heard member
    · rw [(others other same).2.1] at member
      exact tracked.past other heard member
  · by_cases same : other = conn
    · subst same
      exact covered
    · obtain ⟨handler, activity, stamp, _⟩ := others other same
      rw [World.Covered, handler, activity, stamp]
      exact tracked.covered other
  · by_cases same : other = conn
    · subst same
      exact listed opened
    · obtain ⟨handler, _, _, session⟩ := others other same
      rw [session]
      exact tracked.listed other (handler ▸ opened)
  · rw [OnlyIdle, closings]
    exact tracked.onlyIdle

theorem register (unopened : world.handler conn = .unopened) (userId : UserId)
    (username : String) (version : Version) : Tracked options { ((world.turn conn .registered).stamp conn 0).hear conn with
      sessions := world.sessions.add conn userId username version } := by
  have silent : world.activity conn = [] := by
    have covered := tracked.covered conn
    rwa [World.Covered, unopened] at covered
  refine tracked.move conn rfl rfl (fun other different => ⟨?_, ?_, ?_, ?_⟩) ?_ ?_ ?_
  iterate 3 exact Function.update_of_ne different _ _
  · exact AList.lookup_insert_ne different
  · simp [World.hear, World.stamp, World.turn, silent]
  · simp [World.Covered, World.hear, World.stamp, World.turn, Handler.Covers]
  · simp [SessionManager.add, SessionManager.get]

theorem readClock (registered : world.handler conn = .registered) :
    Tracked options (world.turn conn (.storing world.clock)) := by
  refine tracked.move conn rfl rfl (fun other different => ⟨?_, rfl, rfl, rfl⟩) ?_ ?_ ?_
  · exact Function.update_of_ne different _ _
  · exact tracked.past conn
  · simpa [World.Covered, World.turn, Handler.Covers] using tracked.past conn
  · exact fun _ => tracked.listed conn (by rw [registered]; rfl)

theorem store {atMs : Int} (holding : world.handler conn = .storing atMs ∨ world.handler conn = .touching atMs) :
    Tracked options ((world.turn conn .idle).stamp conn atMs) := by
  have covered := tracked.covered conn
  have opened : (world.handler conn).opened = true := by rcases holding with here | here <;> rw [here] <;> rfl
  refine tracked.move conn rfl rfl (fun other different => ⟨?_, rfl, ?_, rfl⟩) ?_ ?_ ?_
  · exact Function.update_of_ne different _ _
  · exact Function.update_of_ne different _ _
  · exact tracked.past conn
  · have bounded : ∀ heard ∈ world.activity conn, heard ≤ atMs := by
      rcases holding with here | here <;> rwa [World.Covered, here] at covered
    simpa [World.Covered, World.turn, World.stamp, Handler.Covers] using bounded
  · exact fun _ => tracked.listed conn opened

theorem receive (idle : world.handler conn = .idle) :
    Tracked options ((world.turn conn (.touching world.clock)).hear conn) := by
  refine tracked.move conn rfl rfl (fun other different => ⟨?_, ?_, rfl, rfl⟩) ?_ ?_ ?_
  · exact Function.update_of_ne different _ _
  · exact Function.update_of_ne different _ _
  · simpa [World.hear, World.turn] using tracked.past conn
  · simpa [World.Covered, World.hear, World.turn, Handler.Covers] using tracked.past conn
  · exact fun _ => tracked.listed conn (by rw [idle]; rfl)

theorem unregister (idle : world.handler conn = .idle) :
    Tracked options { world.turn conn .closed with sessions := (world.sessions.remove conn).1 } := by
  have covered := tracked.covered conn
  refine tracked.move conn rfl rfl (fun other different => ⟨?_, rfl, rfl, ?_⟩) ?_ ?_ ?_
  · exact Function.update_of_ne different _ _
  · rw [SessionManager.get_remove, if_neg different]
  · exact tracked.past conn
  · rw [World.Covered, idle] at covered
    simpa [World.Covered, World.turn, Handler.Covers] using covered
  · simp [World.turn, Handler.opened]

theorem close {now : Int} (settled : (world.handler conn).settled = true)
    (overdue : now - world.lastActivityMs conn > options.timeoutMs) :
    (⟨conn, now, world.activity conn⟩ : Closing Conn).Idle options := by
  intro heard member recent
  have covered := tracked.covered conn
  rw [World.Covered] at covered
  cases handler : world.handler conn with
  | registered | storing | touching =>
    rw [handler] at settled
    cases settled
  | unopened =>
    rw [handler] at covered
    rw [show world.activity conn = [] from covered] at member
    exact absurd member List.not_mem_nil
  | idle | closed =>
    rw [handler] at covered
    have bounded : heard ≤ world.lastActivityMs conn := covered heard member
    have recently := recent.1
    dsimp only at recently
    omega

theorem step {label : Label Conn} (settled : Settled world label)
    (moves : Heartbeat.step options world label = some next) : Tracked options next := by
  cases label with
  | tick elapsed =>
    cases moves
    refine ⟨fun conn heard member => ?_, tracked.covered, tracked.listed, tracked.onlyIdle⟩
    exact Int.le_trans (tracked.past conn heard member) (Int.le_add_of_nonneg_right (Int.natCast_nonneg elapsed))
  | register conn userId username version =>
    simp only [Heartbeat.step] at moves
    split at moves
    · next unopened =>
      cases moves
      exact tracked.register unopened userId username version
    · cases moves
  | readClock conn =>
    simp only [Heartbeat.step] at moves
    split at moves <;> cases moves
    exact tracked.readClock ‹_›
  | storeActivity conn =>
    simp only [Heartbeat.step] at moves
    split at moves <;> cases moves
    exact tracked.store (Or.inl ‹_›)
  | receive conn =>
    simp only [Heartbeat.step] at moves
    split at moves <;> cases moves
    exact tracked.receive ‹_›
  | touch conn =>
    simp only [Heartbeat.step] at moves
    split at moves
    · next atMs touching =>
      rw [if_pos (tracked.listed conn (by rw [touching]; rfl))] at moves
      cases moves
      exact tracked.store (Or.inr touching)
    · cases moves
  | unregister conn =>
    simp only [Heartbeat.step] at moves
    split at moves <;> cases moves
    exact tracked.unregister ‹_›
  | wake =>
    simp only [Heartbeat.step] at moves
    split at moves
    · split at moves <;> cases moves
      exact ⟨tracked.past, tracked.covered, tracked.listed, tracked.onlyIdle⟩
    · cases moves
  | snapshot =>
    simp only [Heartbeat.step] at moves
    split at moves <;> cases moves
    exact ⟨tracked.past, tracked.covered, tracked.listed, tracked.onlyIdle⟩
  | visit =>
    simp only [Heartbeat.step] at moves
    split at moves
    · next now session queue monitor =>
      have still : (world.handler session.connection).settled = true := by simpa [Settled, monitor] using settled
      split at moves <;> cases moves
      · next overdue =>
        refine ⟨tracked.past, tracked.covered, tracked.listed, ?_⟩
        exact List.forall_mem_append.mpr ⟨tracked.onlyIdle, List.forall_mem_singleton.mpr (tracked.close still overdue)⟩
      · exact ⟨tracked.past, tracked.covered, tracked.listed, tracked.onlyIdle⟩
    · cases moves
      exact ⟨tracked.past, tracked.covered, tracked.listed, tracked.onlyIdle⟩
    · cases moves

end

end Tracked

def defaults : Options := ⟨30, 90⟩

end Heartbeat

end RealtimeChat.Realtime
