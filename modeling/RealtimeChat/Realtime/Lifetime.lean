import RealtimeChat.Foundation.Positions
import RealtimeChat.Realtime.Fanout

/-! Lifetimes of connections under concurrent fan-outs, sweeps and closes.

A fan-out copies sessions out of the registry under its lock and then sends to
them one by one without it; the heartbeat sweep does the same and sends a ping
or closes. `onClose` takes the connection out of its rooms, then out of the
registry, and when it has returned the connection is destroyed. A session holds
its connection by a plain pointer, so a copy does not keep the connection alive.

Connections are named by identity: none is opened twice. A fan-out may be the
publish of any handler or service, or the delivery of a peer's message.
-/

set_option autoImplicit false

namespace RealtimeChat.Realtime

open Foundation

namespace Lifetime

inductive Phase where
  | unopened
  | opened
  | left
  | removed
  | destroyed
  deriving DecidableEq, Repr

inductive Operation where
  | sendText (frame : Json)
  | close (reason : String)

structure Issue (Conn : Type) where
  connection : Conn
  operation : Operation
  phase : Phase

/-- A fan-out or a sweep in progress, with the sessions it has yet to serve.
`later` are the users whose sessions have not been looked up. -/
inductive Task (Conn : Type) where
  | sending (type : String) (data : Json) (exclude : Option Conn) (later : List UserId) (frames : FrameCache)
      (queue : List (Session Conn))
  | resolving (type : String) (data : Json) (exclude : Option Conn) (members : List Conn)
  | sweeping (now : Int) (queue : List (Session Conn))
  | pinging (now : Int) (connection : Conn) (version : Version) (queue : List (Session Conn))

/-- What the system clock and the session's activity stamp read during a step. -/
structure Readings where
  timestamp : String
  lastActivityMs : Int

variable {Conn : Type} [DecidableEq Conn]

def Task.proceed (manager : ConnectionManager Conn) (timeoutMs : Int) (readings : Readings) :
    Task Conn → Option (Task Conn × Option (Conn × Operation))
  | .sending type data exclude later frames (session :: queue) =>
    if some session.connection = exclude then some (.sending type data exclude later frames queue, none)
    else
      let (frames, frame) := frames.forVersion session.protocolVersion
      some (.sending type data exclude later frames queue, some (session.connection, .sendText frame))
  | .sending type data exclude (userId :: later) _ [] =>
    some (.sending type data exclude later (.create type data {} readings.timestamp)
      (manager.sessions.sessionsForUser userId), none)
  | .sending _ _ _ [] _ [] => none
  | .resolving type data exclude members =>
    some (.sending type data exclude [] (.create type data {} readings.timestamp)
      (manager.sessions.sessionsFor members), none)
  | .sweeping now (session :: queue) =>
    if now - readings.lastActivityMs > timeoutMs then
      some (.sweeping now queue, some (session.connection, .close "heartbeat timeout"))
    else
      -- The version is read from the registry again, and the session may have left it.
      let version := (manager.sessions.get session.connection).elim defaultVersion Session.protocolVersion
      some (.pinging now session.connection version queue, none)
  | .sweeping _ [] => none
  | .pinging now connection version queue =>
    some (.sweeping now queue,
      some (connection, .sendText (encode version "ping" (.object []) {} readings.timestamp)))

def Task.targets : Task Conn → List Conn
  | .sending _ _ exclude _ _ queue =>
    (queue.map Session.connection).filter fun connection => some connection ≠ exclude
  | .resolving .. => []
  | .sweeping _ queue => queue.map Session.connection
  | .pinging _ connection _ queue => connection :: queue.map Session.connection

structure World (Conn : Type) [DecidableEq Conn] where
  manager : ConnectionManager Conn
  phase : Conn → Phase
  tasks : List (Task Conn)
  issued : List (Issue Conn)

def World.initial : World Conn := ⟨.empty, fun _ => .unopened, [], []⟩

inductive Label (Conn : Type) where
  | register (conn : Conn) (userId : UserId) (username : String) (version : Version)
  | join (conn : Conn) (conversationIds : List ConversationId)
  | leaveRooms (conn : Conn)
  | remove (conn : Conn)
  | complete (conn : Conn)
  | publish (userIds : List UserId) (type : String) (data : Json) (timestamp : String)
  | broadcastToRoom (conversationId : ConversationId) (type : String) (data : Json) (exclude : Option Conn)
  | sweep (now : Int)
  | proceed (task : Nat) (readings : Readings)

def World.enter (world : World Conn) (conn : Conn) (phase : Phase) : World Conn :=
  { world with phase := Function.update world.phase conn phase }

def step (timeoutMs : Int) : Step (World Conn) (Label Conn) := fun world label =>
  match label with
  | .register conn userId username version =>
    if world.phase conn = .unopened then
      some { world.enter conn .opened with manager := world.manager.registerSession conn userId username version }
    else none
  | .join conn conversationIds =>
    if world.phase conn = .opened then
      some { world with
        manager := { world.manager with rooms := world.manager.rooms.joinMany conversationIds conn } }
    else none
  | .leaveRooms conn =>
    if world.phase conn = .opened then
      some { world.enter conn .left with
        manager := { world.manager with rooms := world.manager.rooms.leaveAll conn } }
    else none
  | .remove conn =>
    if world.phase conn = .left then
      some { world.enter conn .removed with
        manager := { world.manager with sessions := (world.manager.sessions.remove conn).1 } }
    else none
  | .complete conn =>
    if world.phase conn = .removed then some (world.enter conn .destroyed) else none
  | .publish userIds type data timestamp =>
    some { world with
      tasks := world.tasks ++ [.sending type data none userIds (.create type data {} timestamp) []] }
  | .broadcastToRoom conversationId type data exclude =>
    some { world with
      tasks := world.tasks ++
        [.resolving type data exclude (world.manager.rooms.connectionsInRoom conversationId)] }
  | .sweep now =>
    some { world with tasks := world.tasks ++ [.sweeping now world.manager.sessions.snapshot] }
  | .proceed position readings => do
    let task ← world.tasks[position]?
    let (next, call) ← task.proceed world.manager timeoutMs readings
    some { world with
      tasks := world.tasks.set position next
      issued := world.issued ++
        call.toList.map fun (connection, operation) => ⟨connection, operation, world.phase connection⟩ }

variable {world : World Conn} {manager : ConnectionManager Conn} {connection : Conn} {timeoutMs : Int}
  {task : Task Conn}

theorem run_sending (timeoutMs : Int) (readings : Readings) {position : Nat} {type : String} {data : Json}
    {exclude : Option Conn} {later : List UserId} {queue : List (Session Conn)} {frames : FrameCache}
    (found : world.tasks[position]? = some (.sending type data exclude later frames queue)) :
    ∃ final, (step timeoutMs).run world (queue.map fun _ => .proceed position readings) = some final ∧
      final.issued = world.issued ++ (sendEach exclude frames queue).map fun (connection, frame) =>
        ⟨connection, .sendText frame, world.phase connection⟩ := by
  induction queue generalizing frames world with
  | nil => exact ⟨world, rfl, by simp [sendEach]⟩
  | cons session queue ih =>
    have bound : position < world.tasks.length := (List.getElem?_eq_some_iff.mp found).1
    -- the state after the first step, for either outcome of its test
    by_cases excluded : some session.connection = exclude
    · obtain ⟨final, runs, issued⟩ := @ih { world with
        tasks := world.tasks.set position (.sending type data exclude later frames queue) } frames (by simp [bound])
      refine ⟨final, Step.run_cons.mpr ⟨_, ?_, runs⟩, ?_⟩
      · simp [step, found, Task.proceed, excluded]
      · simpa [sendEach, excluded] using issued
    · obtain ⟨final, runs, issued⟩ := @ih { world with
        tasks := world.tasks.set position
          (.sending type data exclude later (frames.forVersion session.protocolVersion).1 queue)
        issued := world.issued ++ [⟨session.connection,
          .sendText (frames.forVersion session.protocolVersion).2, world.phase session.connection⟩] }
        (frames.forVersion session.protocolVersion).1 (by simp [bound])
      refine ⟨final, Step.run_cons.mpr ⟨_, ?_, runs⟩, ?_⟩
      · simp [step, found, Task.proceed, excluded]
      · simpa [sendEach, excluded] using issued

def Registered (manager : ConnectionManager Conn) (connection : Conn) : Prop :=
  ∃ conn session, manager.sessions.get conn = some session ∧ session.connection = connection

theorem registered_of_lookup {sessions : List (Session Conn)}
    (found : ∀ session ∈ sessions, ∃ conn, manager.sessions.get conn = some session)
    (member : connection ∈ sessions.map Session.connection) : Registered manager connection := by
  obtain ⟨session, listed, same⟩ := List.mem_map.mp member
  obtain ⟨conn, found⟩ := found session listed
  exact ⟨conn, session, found, same⟩

theorem Task.proceed_targets {readings : Readings} {next : Task Conn} {call : Option (Conn × Operation)}
    (moves : task.proceed manager timeoutMs readings = some (next, call)) :
    (∀ connection operation, call = some (connection, operation) → connection ∈ task.targets) ∧
      ∀ connection ∈ next.targets, connection ∈ task.targets ∨ Registered manager connection := by
  cases task with
  | sending type data exclude later frames queue =>
    cases queue with
    | cons session queue =>
      simp only [proceed] at moves
      split at moves <;> cases moves <;> simp_all [targets]
    | nil =>
      cases later with
      | nil => cases moves
      | cons userId later =>
        cases moves
        refine ⟨fun _ _ call => (nomatch call), fun connection member => Or.inr ?_⟩
        exact registered_of_lookup (fun _ => SessionManager.get_of_mem_sessionsFor) (List.mem_filter.mp member).1
  | resolving type data exclude members =>
    cases moves
    refine ⟨fun _ _ call => (nomatch call), fun connection member => Or.inr ?_⟩
    exact registered_of_lookup (fun _ => SessionManager.get_of_mem_sessionsFor) (List.mem_filter.mp member).1
  | sweeping now queue =>
    cases queue with
    | nil => cases moves
    | cons session queue =>
      simp only [proceed] at moves
      split at moves <;> cases moves <;> simp_all [targets]
  | pinging now connection version queue =>
    cases moves
    simp_all [targets]

/-- A registered connection has not been taken out of the registry by its close, and no
task is about to call a destroyed one. -/
structure World.Sound (world : World Conn) : Prop where
  registered : ∀ conn session, world.manager.sessions.get conn = some session →
    session.connection = conn ∧ (world.phase conn = .opened ∨ world.phase conn = .left)
  held : ∀ task ∈ world.tasks, ∀ conn ∈ task.targets, world.phase conn ≠ .destroyed
  issued : ∀ issue ∈ world.issued, issue.phase ≠ .destroyed

/-- A close completes only when no fan-out and no sweep holds the connection. -/
def Released (world : World Conn) : Label Conn → Prop
  | .complete conn => ∀ task ∈ world.tasks, conn ∉ task.targets
  | _ => True

instance (world : World Conn) : ∀ label, Decidable (Released world label)
  | .complete _ => List.decidableBAll _ _
  | .register .. | .join .. | .leaveRooms _ | .remove _ | .publish .. | .broadcastToRoom .. | .sweep _
  | .proceed .. => isTrue trivial

theorem World.Sound.initial : (World.initial : World Conn).Sound :=
  ⟨fun _ _ found => (nomatch found), fun _ member => (nomatch member), fun _ member => (nomatch member)⟩

theorem World.Sound.alive (sound : world.Sound) (registered : Registered world.manager connection) :
    world.phase connection ≠ .destroyed := by
  obtain ⟨conn, session, found, rfl⟩ := registered
  obtain ⟨same, phase⟩ := sound.registered conn session found
  rw [same]
  rcases phase with phase | phase <;> simp [phase]

theorem World.Sound.addTask (sound : world.Sound) (alive : ∀ conn ∈ task.targets, Registered world.manager conn) :
    World.Sound { world with tasks := world.tasks ++ [task] } := by
  refine ⟨sound.registered, forall_mem_concat sound.held fun conn target => ?_, sound.issued⟩
  exact sound.alive (alive conn target)

theorem World.Sound.enter (sound : world.Sound) {conn : Conn} {phase : Phase} (manager : ConnectionManager Conn)
    (survives : phase ≠ .destroyed)
    (registered : ∀ other session, manager.sessions.get other = some session → session.connection = other ∧
      ((world.enter conn phase).phase other = .opened ∨ (world.enter conn phase).phase other = .left)) :
    World.Sound { world.enter conn phase with manager := manager } := by
  refine ⟨registered, fun task member other target => ?_, sound.issued⟩
  by_cases same : other = conn
  · simpa [World.enter, same] using survives
  · simpa [World.enter, same] using sound.held task member other target

theorem World.Sound.step {next : World Conn} {label : Label Conn} (sound : world.Sound)
    (released : Released world label) (moves : step timeoutMs world label = some next) : next.Sound := by
  cases label with
  | register conn userId username version =>
    simp only [Lifetime.step, Option.ite_none_right_eq_some, Option.some.injEq] at moves
    obtain ⟨_, rfl⟩ := moves
    refine sound.enter _ (by simp) fun other session found => ?_
    rw [ConnectionManager.get_registerSession] at found
    split at found
    · next same =>
      cases found
      exact ⟨same.symm, by simp [World.enter, same]⟩
    · next different => simpa [World.enter, different] using sound.registered other session found
  | join conn conversationIds =>
    simp only [Lifetime.step, Option.ite_none_right_eq_some, Option.some.injEq] at moves
    obtain ⟨_, rfl⟩ := moves
    exact ⟨sound.registered, sound.held, sound.issued⟩
  | leaveRooms conn =>
    simp only [Lifetime.step, Option.ite_none_right_eq_some, Option.some.injEq] at moves
    obtain ⟨_, rfl⟩ := moves
    refine sound.enter _ (by simp) fun other session found => ?_
    obtain ⟨same, phase⟩ := sound.registered other session found
    by_cases other = conn <;> simp_all [World.enter]
  | remove conn =>
    simp only [Lifetime.step, Option.ite_none_right_eq_some, Option.some.injEq] at moves
    obtain ⟨_, rfl⟩ := moves
    refine sound.enter _ (by simp) fun other session found => ?_
    rw [SessionManager.get_remove] at found
    split at found
    · cases found
    · next different => simpa [World.enter, different] using sound.registered other session found
  -- The only step that destroys: the registry has dropped the connection, and by the guard no task holds it.
  | complete conn =>
    simp only [Lifetime.step, Option.ite_none_right_eq_some, Option.some.injEq] at moves
    obtain ⟨removed, rfl⟩ := moves
    refine ⟨fun other session found => ?_, fun task member other target => ?_, sound.issued⟩
    · obtain ⟨same, phase⟩ := sound.registered other session found
      have different : other ≠ conn := by
        rintro rfl
        simp [removed] at phase
      simpa [World.enter, different] using ⟨same, phase⟩
    · have different : other ≠ conn := by
        rintro rfl
        exact released task member target
      simpa [World.enter, different] using sound.held task member other target
  | publish | broadcastToRoom =>
    cases moves
    exact sound.addTask fun _ target => (nomatch target)
  | sweep now =>
    cases moves
    exact sound.addTask fun _ => registered_of_lookup fun _ => SessionManager.get_of_mem_snapshot
  | proceed position readings =>
    simp only [Lifetime.step, Option.bind_eq_bind, Option.bind_eq_some_iff, Prod.exists, Option.some.injEq] at moves
    obtain ⟨task, found, following, call, proceeds, rfl⟩ := moves
    obtain ⟨called, gained⟩ := Task.proceed_targets proceeds
    have member := List.mem_of_getElem? found
    refine ⟨sound.registered, forall_mem_set sound.held fun conn target => ?_,
      List.forall_mem_append.mpr ⟨sound.issued, fun issue logged => ?_⟩⟩
    · rcases gained conn target with kept | registered
      · exact sound.held task member conn kept
      · exact sound.alive registered
    · obtain ⟨⟨connection, operation⟩, made, rfl⟩ := List.mem_map.mp logged
      exact sound.held task member connection (called connection operation (by simpa using made))

/-- In a run in which every close completes only after the fan-outs and sweeps that hold
the connection, no call is made on a destroyed connection. -/
theorem issued_before_destruction (timeoutMs : Int) (labels : List (Label Conn)) {final : World Conn}
    (released : (step timeoutMs).Guarded Released World.initial labels)
    (runs : (step timeoutMs).run World.initial labels = some final) :
    ∀ issue ∈ final.issued, issue.phase ≠ .destroyed :=
  (Step.guarded_invariant World.Sound World.Sound.step .initial released runs).issued

/-- A fan-out that is over before the close of its recipient completes. -/
def sequentialClose : List (Label Nat) :=
  [.register 0 1 "alice" .v1, .publish [1] "message.created" .null "t0", .proceed 0 ⟨"t1", 0⟩,
    .leaveRooms 0, .remove 0, .proceed 0 ⟨"t2", 0⟩, .complete 0, .sweep 90000]

theorem issued_before_destruction_sequential :
    ∃ final, (step 60000).run World.initial sequentialClose = some final ∧ final.issued.length = 1 ∧
      ∀ issue ∈ final.issued, issue.phase ≠ .destroyed :=
  ⟨_, rfl, rfl, issued_before_destruction 60000 sequentialClose (by decide) rfl⟩

/-- A fan-out and a sweep that have copied the session before the close make their calls
after it. -/
def overlappingClose : List (Label Nat) :=
  [.register 0 1 "alice" .v1, .publish [1] "message.created" .null "t0", .proceed 0 ⟨"t1", 0⟩, .sweep 90000,
    .leaveRooms 0, .remove 0, .complete 0, .proceed 0 ⟨"t2", 0⟩, .proceed 1 ⟨"t3", 0⟩]

/-- Both the send and the close reach the destroyed connection. -/
theorem destroyed_connection_called :
    ∃ final, (step 60000).run World.initial overlappingClose = some final ∧
      final.issued.map Issue.phase = [.destroyed, .destroyed] :=
  ⟨_, rfl, rfl⟩

end Lifetime

end RealtimeChat.Realtime
