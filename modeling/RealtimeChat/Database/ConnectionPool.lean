import RealtimeChat.Foundation.Run
import RealtimeChat.Foundation.Positions

/-! The fixed-size database connection pool.

`acquire` is two atomic steps: under the lock it takes the front of the idle
queue, and after unlocking it checks the connection and may rebuild it. Any
number of acquiring callers interleave, an idle or leased connection may die at
any moment, and each reconnect attempt may throw. The lease returns its
connection when it is destroyed or overwritten by a move assignment.
-/

set_option autoImplicit false

namespace RealtimeChat.Database

open Foundation

structure Connection where
  isOpen : Bool
  deriving DecidableEq, Repr

/-- The effect of constructing a `pqxx::connection` from the connection string. -/
inductive Attempt where
  | threw (what : String)
  | built (isOpen : Bool)
  deriving DecidableEq, Repr

structure DatabaseException where
  message : String
  details : String
  deriving DecidableEq, Repr

def makeConnection : Attempt → Except DatabaseException Connection
  | .threw what => .error ⟨"Failed to open database connection", what⟩
  | .built false => .error ⟨"Database connection is not open", ""⟩
  | .built true => .ok ⟨true⟩

/-- A lease. `pool` says that `pool_` is not null; both members are cleared together. -/
structure PooledConnection where
  pool : Bool
  conn : Option Connection
  paired : conn.isSome = pool
  deriving DecidableEq, Repr

def PooledConnection.empty : PooledConnection := ⟨false, none, rfl⟩

def PooledConnection.holding (conn : Connection) : PooledConnection := ⟨true, some conn, rfl⟩

structure ConnectionPool where
  size : Nat
  idle : List (Option Connection)
  shuttingDown : Bool
  deriving DecidableEq, Repr

def ConnectionPool.create (size : Nat) : ConnectionPool :=
  let size := if size = 0 then 1 else size
  ⟨size, List.replicate size (some ⟨true⟩), false⟩

def ConnectionPool.release (pool : ConnectionPool) (conn : Option Connection) : ConnectionPool :=
  if pool.shuttingDown then pool else { pool with idle := pool.idle ++ [conn] }

/-- The destructor's effect on the pool; the lease is empty afterwards. -/
def PooledConnection.returnToPool (lease : PooledConnection) (pool : ConnectionPool) : ConnectionPool :=
  if lease.pool && lease.conn.isSome then pool.release lease.conn else pool

/-- A call of `acquire` that has taken its connection. -/
inductive Call where
  | taken (conn : Option Connection)
  | returned
  | threw (error : DatabaseException)
  deriving DecidableEq, Repr

def Call.holds : Call → Bool
  | .taken _ => true
  | _ => false

structure World where
  pool : ConnectionPool
  calls : List Call
  leases : List PooledConnection
  deriving DecidableEq, Repr

def World.create (size : Nat) : World := ⟨.create size, [], []⟩

inductive Action where
  | acquire
  | lease (call : Nat) (attempt : Attempt)
  | destroy (lease : Nat)
  | moveConstruct (source : Nat)
  | moveAssign (target source : Nat)
  | dieIdle (position : Nat)
  | dieLeased (lease : Nat)
  deriving DecidableEq, Repr

def needsReplacement : Option Connection → Bool
  | none => true
  | some conn => !conn.isOpen

/-- The second half of `acquire`, outside the lock. -/
def finishAcquire (taken : Option Connection) (attempt : Attempt) :
    Except DatabaseException Connection :=
  match taken with
  | some conn => if conn.isOpen then .ok conn else makeConnection attempt
  | none => makeConnection attempt

def breakConnection (conn : Connection) : Connection := { conn with isOpen := false }

def PooledConnection.broken (lease : PooledConnection) : PooledConnection :=
  ⟨lease.pool, lease.conn.map breakConnection, by rw [Option.isSome_map, lease.paired]⟩

def step : Step World Action := fun world action =>
  match action with
  | .acquire =>
    if world.pool.shuttingDown then
      some { world with calls := world.calls ++ [.threw ⟨"Connection pool is shutting down", ""⟩] }
    else match world.pool.idle with
      -- The condition variable blocks the caller until a connection is released.
      | [] => none
      | conn :: rest => some { world with
          pool := { world.pool with idle := rest }
          calls := world.calls ++ [.taken conn] }
  | .lease call attempt =>
    match world.calls[call]? with
    | some (.taken conn) =>
      match finishAcquire conn attempt with
      | .ok conn => some { world with
          calls := world.calls.set call .returned
          leases := world.leases ++ [.holding conn] }
      -- The exception leaves `acquire` before a lease exists: nothing puts the slot back.
      | .error error => some { world with calls := world.calls.set call (.threw error) }
    | _ => none
  | .destroy lease =>
    match world.leases[lease]? with
    | some held => some { world with
        pool := held.returnToPool world.pool
        leases := world.leases.set lease .empty }
    | none => none
  | .moveConstruct source =>
    match world.leases[source]? with
    | some held => some { world with leases := world.leases.set source .empty ++ [held] }
    | none => none
  | .moveAssign target source =>
    match world.leases[target]?, world.leases[source]? with
    | some old, some held =>
      if target = source then some world
      else some { world with
        pool := old.returnToPool world.pool
        leases := (world.leases.set target held).set source .empty }
    | _, _ => none
  -- The server or the network may drop a connection at any time; nothing in the pool moves.
  | .dieIdle position => some { world with
      pool := { world.pool with
        idle := world.pool.idle.modify position (Option.map breakConnection) } }
  | .dieLeased lease => some { world with leases := world.leases.modify lease (·.broken) }

/-- Connections out of the queue: held by a lease, or in the hands of an
`acquire` that has not returned. -/
def World.leased (world : World) : Nat :=
  world.leases.countP (·.pool) + world.calls.countP Call.holds

def World.slots (world : World) : Nat := world.pool.idle.length + world.leased

/-- An `acquire` that took a dead connection gets an open one from its reconnect attempt. -/
def reconnects (world : World) : Action → Bool
  | .lease call attempt =>
    match world.calls[call]? with
    | some (.taken conn) => !needsReplacement conn || attempt == .built true
    | _ => true
  | _ => true

variable {world next : World} {action : Action} (lease : PooledConnection) (attempt : Attempt)

theorem returnToPool_idle {pool : ConnectionPool} (running : pool.shuttingDown = false) :
    (lease.returnToPool pool).idle.length = pool.idle.length + (if lease.pool then 1 else 0) := by
  unfold PooledConnection.returnToPool ConnectionPool.release
  rw [lease.paired, Bool.and_self]
  cases lease.pool <;> simp [running]

theorem returnToPool_running (pool : ConnectionPool) : (lease.returnToPool pool).shuttingDown = pool.shuttingDown := by
  unfold PooledConnection.returnToPool ConnectionPool.release
  split
  · split <;> rfl
  · rfl

theorem countP_modify_broken (leases : List PooledConnection) (position : Nat) :
    (leases.modify position (·.broken)).countP (·.pool) = leases.countP (·.pool) := by
  induction leases generalizing position with
  | nil => simp
  | cons first rest ih =>
    cases position with
    | zero => simp [List.countP_cons, PooledConnection.broken]
    | succ position => simp [List.countP_cons, ih]

theorem makeConnection_isOk : (makeConnection attempt).isOk = (attempt == .built true) := by
  rcases attempt with what | isOpen
  · rfl
  · cases isOpen <;> rfl

theorem finishAcquire_isOk (taken : Option Connection) (attempt : Attempt) :
    (finishAcquire taken attempt).isOk = (!needsReplacement taken || attempt == .built true) := by
  cases taken with
  | none => exact makeConnection_isOk attempt
  | some conn =>
    cases conn with | mk isOpen =>
      cases isOpen
      · exact makeConnection_isOk attempt
      · rfl

/-- What one step does to the number of slots of a pool that runs: a throwing reconnect loses one,
and nothing else changes it. -/
theorem step_slots (running : world.pool.shuttingDown = false) (moves : step world action = some next) :
    next.pool.shuttingDown = false ∧
      next.slots + (if reconnects world action then 0 else 1) = world.slots := by
  cases action with
  | acquire =>
    simp only [step, running, Bool.false_eq_true, if_false] at moves
    split at moves
    · cases moves
    · next conn rest queue =>
      cases moves
      refine ⟨rfl, ?_⟩
      simp only [World.slots, World.leased, reconnects, queue, List.length_cons, List.countP_append,
        List.countP_singleton, Call.holds, if_true]
      omega
  | lease call attempt =>
    simp only [step] at moves
    split at moves
    · next conn found =>
      have taken := fun call => countP_set_add Call.holds call found
      have outcome := finishAcquire_isOk conn attempt
      split at moves
      · next opened result =>
        cases moves
        refine ⟨running, ?_⟩
        have ended := taken .returned
        simp only [result, Except.isOk, Except.toBool] at outcome
        simp only [World.slots, World.leased, reconnects, found, ← outcome, List.countP_append,
          List.countP_singleton, PooledConnection.holding, if_true]
        simp only [Call.holds, if_true, Bool.false_eq_true, if_false] at ended
        omega
      · next error result =>
        cases moves
        refine ⟨running, ?_⟩
        have ended := taken (.threw error)
        simp only [result, Except.isOk, Except.toBool] at outcome
        simp only [World.slots, World.leased, reconnects, found, ← outcome, Bool.false_eq_true, if_false]
        simp only [Call.holds, if_true, Bool.false_eq_true, if_false] at ended
        omega
    · cases moves
  | destroy lease =>
    simp only [step] at moves
    split at moves
    · next held found =>
      cases moves
      refine ⟨(returnToPool_running _ _).trans running, ?_⟩
      have emptied := countP_set_add (fun lease : PooledConnection => lease.pool) .empty found
      have returned := returnToPool_idle held running
      simp only [PooledConnection.empty, Bool.false_eq_true, if_false] at emptied
      simp only [World.slots, World.leased, reconnects, if_true, returned, PooledConnection.empty]
      omega
    · cases moves
  | moveConstruct source =>
    simp only [step] at moves
    split at moves
    · next held found =>
      cases moves
      refine ⟨running, ?_⟩
      have emptied := countP_set_add (fun lease : PooledConnection => lease.pool) .empty found
      simp only [PooledConnection.empty, Bool.false_eq_true, if_false] at emptied
      simp only [World.slots, World.leased, reconnects, if_true, List.countP_append,
        List.countP_singleton, PooledConnection.empty]
      omega
    · cases moves
  | moveAssign target source =>
    simp only [step] at moves
    split at moves
    · next old held foundOld foundHeld =>
      split at moves
      · cases moves
        simp [reconnects, running]
      · next different =>
        cases moves
        refine ⟨(returnToPool_running _ _).trans running, ?_⟩
        have overwritten := countP_set_add (fun lease : PooledConnection => lease.pool) held foundOld
        -- The two leases are different, so the source still holds its connection when it is emptied.
        have kept : (world.leases.set target held)[source]? = some held := by
          rw [List.getElem?_set_ne different]
          exact foundHeld
        have emptied := countP_set_add (fun lease : PooledConnection => lease.pool) .empty kept
        have returned := returnToPool_idle old running
        simp only [PooledConnection.empty, Bool.false_eq_true, if_false] at emptied
        simp only [World.slots, World.leased, reconnects, if_true, returned, PooledConnection.empty]
        omega
    · cases moves
  | dieIdle position =>
    cases moves
    exact ⟨running, by simp [World.slots, World.leased, reconnects]⟩
  | dieLeased lease =>
    cases moves
    exact ⟨running, by simp [World.slots, World.leased, reconnects, countP_modify_broken]⟩

/-- The size of the pool is conserved in every state of a run exactly when every
reconnect of the run succeeds: the one way to lose a slot is the exception that
leaves `acquire` between the pop and the lease. -/
theorem conserved_iff_reconnects (size : Nat) (positive : 1 ≤ size) (actions : List Action)
    (final : World) (runs : step.run (World.create size) actions = some final) :
    step.Always (fun world => world.pool.idle.length + world.leased = size) (World.create size) actions ↔
      step.Guarded (fun world action => reconnects world action) (World.create size) actions := by
  have nonzero : size ≠ 0 := by omega
  refine Step.always_iff_guarded (fun world => world.pool.shuttingDown = false)
    (fun running _ moves => (step_slots running moves).1) ?_ rfl ?_ runs
  · intro world action next running holds moves
    have slots := (step_slots running moves).2
    simp only [World.slots, holds] at slots
    constructor
    · intro after
      by_contra lost
      rw [if_neg lost] at slots
      omega
    · intro kept
      rw [if_pos kept] at slots
      omega
  · simp [World.create, ConnectionPool.create, World.leased, nonzero]

/-- Two callers share a pool of two; one of them finds its connection dead and rebuilds it. -/
theorem conserved_iff_reconnects_rebuilt :
    step.Always (fun world => world.pool.idle.length + world.leased = 2) (World.create 2)
      [.acquire, .dieIdle 0, .acquire, .lease 1 (.built true), .lease 0 (.threw "refused"),
        .moveConstruct 0, .destroy 2, .destroy 1] :=
  (conserved_iff_reconnects 2 (by decide) _ _ rfl).mpr (by decide)

/-- A pool of one connection that dies while idle: the next `acquire` cannot reconnect,
and the pool is left with no slot at all. -/
theorem failed_acquire_shrinks_pool :
    ¬ ∀ (size : Nat) (actions : List Action) (final : World), 1 ≤ size →
      step.run (World.create size) actions = some final →
      step.Always (fun world => world.pool.idle.length + world.leased = size)
        (World.create size) actions := by
  intro conserved
  exact absurd (conserved 1 [.dieIdle 0, .acquire, .lease 0 (.threw "refused")] _ (by decide) rfl)
    (by decide)

end RealtimeChat.Database
