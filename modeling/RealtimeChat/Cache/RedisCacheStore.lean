import RealtimeChat.Cache.InMemoryCacheStore
import RealtimeChat.Foundation.Pool

/-! Counters in the shared cache.

The Redis store increments a counter with one command and sets its expiry with
another, and only the call that finds the counter at one sends the second. When
that command does not get through, no later call sends it again: the counter
stays, and so does the limit it stands for.
-/

set_option autoImplicit false

namespace RealtimeChat.Cache

open Foundation

structure RedisError where
  message : String
  deriving DecidableEq, Repr

structure RedisServer where
  clock : Ticks
  counters : Expiring String Int

namespace RedisServer

/-- INCR. A counter that it creates has no expiry, and one that is there keeps its own. -/
def incr (server : RedisServer) (key : String) : RedisServer × Int :=
  match (server.counters.get server.clock key).2 with
  | none => ({ server with counters := (server.counters.get server.clock key).1.keep key 1 }, 1)
  | some value => ({ server with counters := server.counters.alter key (· + 1) }, value + 1)

def expire (server : RedisServer) (key : String) (ttl : Int) : RedisServer × Bool :=
  let live := server.counters.get server.clock key
  ({ server with counters := live.1.setDeadline key (some (server.clock + seconds ttl)) }, live.2.isSome)

end RedisServer

inductive RedisCommand where
  | incr (key : String)
  | expire (key : String) (ttl : Int)
  deriving DecidableEq, Repr

abbrev RedisCommand.Reply : RedisCommand → Type
  | .incr _ => Int
  | .expire _ _ => Bool

def RedisServer.exec : (command : RedisCommand) → RedisServer → Except RedisError (RedisServer × command.Reply)
  | .incr key, server => .ok (server.incr key)
  | .expire key ttl, server => .ok (server.expire key ttl)

abbrev RedisScript := Script RedisCommand RedisCommand.Reply RedisError

namespace RedisCacheStore

def incr (key : String) (ttlOnCreate : Int) : RedisScript Int := do
  let value : Int ← Script.perform (RedisCommand.incr key)
  -- Later calls find a greater value and leave the expiry to the first one.
  if value = 1 ∧ ttlOnCreate > 0 then
    let _ ← Script.perform (RedisCommand.expire key ttlOnCreate)
  return value

end RedisCacheStore

structure Increment where
  key : String
  ttl : Int
  positive : 0 < ttl

/-- Calls of `incr` by any number of processes. The clock moves on by itself; a command fails, or the
process that would send it has stopped, by a failure from outside. -/
def redis : System RedisServer Nat Increment RedisCommand RedisCommand.Reply RedisError Int where
  exec := RedisServer.exec
  body increment := RedisCacheStore.incr increment.key increment.ttl
  move passed server := { server with clock := server.clock + passed }

abbrev RedisCall := Call Increment RedisCommand RedisCommand.Reply RedisError Int

abbrev RedisPool := Pool RedisServer Increment RedisCommand RedisCommand.Reply RedisError Int

def redisStart : RedisPool := ⟨⟨0, .empty⟩, []⟩

namespace Redis

def awaited (call : RedisCall) : Option String :=
  match call.pending with
  | some (.expire key _) => some key
  | _ => none

/-- The call sees to the expiry of a counter of its key: it is about to set it, or the counter has a deadline
not later than one window of the call from now. -/
def Covers (clock : Ticks) (key : String) (expiry : Option Int) (call : RedisCall) : Prop :=
  call.operation.key = key ∧
    (awaited call = some key ∨ ∃ deadline, expiry = some deadline ∧ deadline ≤ clock + seconds call.operation.ttl)

/-- No counter outlives the window of the call that created it, unless that call is still in progress. -/
def Expires (pool : RedisPool) : Prop :=
  ∀ key value expiry, pool.state.counters.Holds key value expiry →
    ∃ call ∈ pool.calls, Covers pool.state.clock key expiry call

/-- Once the windows of its calls have passed, a key whose expiry no call is about to set is free again. -/
def Released (pool : RedisPool) : Prop :=
  ∀ key, key ∉ pool.calls.filterMap awaited → ∀ later,
    (∀ call ∈ pool.calls, call.operation.key = key → pool.state.clock + seconds call.operation.ttl ≤ later) →
      Expiring.unexpired later (pool.state.counters.entries.lookup key) = none

def Reaches (pool : RedisPool) : Pool.Label Nat Increment RedisError → Prop
  | .perform position (some _) => pool.calls[position]?.bind awaited = none
  | _ => True

section Server

variable {server : RedisServer} {key : String} {ttl value : Int} {expiry : Option Int}

theorem incr_of_absent (absent : Expiring.unexpired server.clock (server.counters.entries.lookup key) = none) :
    server.incr key = (⟨server.clock, (server.counters.get server.clock key).1.keep key 1⟩, 1) := by
  have missed : (server.counters.get server.clock key).2 = none := by rw [Expiring.get_eq, absent, Option.map_none]
  unfold RedisServer.incr
  rw [missed]

theorem incr_of_live
    (live : Expiring.unexpired server.clock (server.counters.entries.lookup key) = some (value, expiry)) :
    server.incr key = (⟨server.clock, server.counters.alter key (· + 1)⟩, value + 1) := by
  have read : (server.counters.get server.clock key).2 = some value := by rw [Expiring.get_eq, live, Option.map_some]
  unfold RedisServer.incr
  rw [read]

theorem lookup_created (server : RedisServer) (key other : String) :
    ((server.counters.get server.clock key).1.keep key 1).entries.lookup other =
      if other = key then some (1, none) else server.counters.entries.lookup other := by
  rw [Expiring.lookup_keep]
  split
  · rfl
  · next apart => rw [Expiring.lookup_get, if_neg apart]

theorem lookup_expire (server : RedisServer) (key other : String) (ttl : Int) :
    (server.expire key ttl).1.counters.entries.lookup other =
      if other = key then
        (Expiring.unexpired server.clock (server.counters.entries.lookup key)).map fun stored =>
          (stored.1, some (server.clock + seconds ttl))
      else server.counters.entries.lookup other := by
  unfold RedisServer.expire
  rw [Expiring.lookup_setDeadline]
  split
  · rw [Expiring.lookup_get, if_pos rfl]
  · next apart => rw [Expiring.lookup_get, if_neg apart]

end Server

section Calls

variable {pool next : RedisPool} {label : Pool.Label Nat Increment RedisError}

def setExpiry (increment : Increment) : RedisScript Int := do
  let _ ← Script.perform (RedisCommand.expire increment.key increment.ttl)
  return 1

inductive Stage : RedisCall → Prop where
  | fresh (increment : Increment) (trace : List RedisCommand) : Stage ⟨increment, redis.body increment, trace⟩
  | created (increment : Increment) (trace : List RedisCommand) : Stage ⟨increment, setExpiry increment, trace⟩
  | ended (increment : Increment) (result : Except RedisError Int) (trace : List RedisCommand) :
      Stage ⟨increment, .done result, trace⟩

structure Invariant (pool : RedisPool) : Prop where
  stages : ∀ call ∈ pool.calls, Stage call
  positive : ∀ key value expiry, pool.state.counters.Holds key value expiry → 1 ≤ value
  awaits : ∀ key ∈ pool.calls.filterMap awaited, ∃ value, pool.state.counters.Holds key value none
  distinct : (pool.calls.filterMap awaited).Nodup

inductive Outcome (pool : RedisPool) : Pool.Label Nat Increment RedisError → RedisPool → Prop where
  | started (increment : Increment) : Outcome pool (.start increment)
      { pool with calls := pool.calls ++ [⟨increment, redis.body increment, []⟩] }
  | passed (time : Nat) : Outcome pool (.move time)
      { pool with state := { pool.state with clock := pool.state.clock + time } }
  | created {position : Nat} {increment : Increment} {trace : List RedisCommand}
      (found : pool.calls[position]? = some ⟨increment, redis.body increment, trace⟩)
      (absent : Expiring.unexpired pool.state.clock (pool.state.counters.entries.lookup increment.key) = none)
      (after : List RedisCommand) : Outcome pool (.perform position none)
        ⟨⟨pool.state.clock, (pool.state.counters.get pool.state.clock increment.key).1.keep increment.key 1⟩,
          pool.calls.set position ⟨increment, setExpiry increment, after⟩⟩
  | counted {position : Nat} {increment : Increment} {trace : List RedisCommand} {value : Int} {expiry : Option Int}
      (found : pool.calls[position]? = some ⟨increment, redis.body increment, trace⟩)
      (live : pool.state.counters.Holds increment.key value expiry) (after : List RedisCommand) :
      Outcome pool (.perform position none)
        ⟨⟨pool.state.clock, pool.state.counters.alter increment.key (· + 1)⟩,
          pool.calls.set position ⟨increment, .done (.ok (value + 1)), after⟩⟩
  | timed {position : Nat} {increment : Increment} {trace : List RedisCommand}
      (found : pool.calls[position]? = some ⟨increment, setExpiry increment, trace⟩) (after : List RedisCommand) :
      Outcome pool (.perform position none)
        ⟨(pool.state.expire increment.key increment.ttl).1, pool.calls.set position ⟨increment, .done (.ok 1), after⟩⟩
  | failed {position : Nat} {increment : Increment} {trace : List RedisCommand} (error : RedisError)
      (found : pool.calls[position]? = some ⟨increment, redis.body increment, trace⟩) :
      Outcome pool (.perform position (some error))
        { pool with calls := pool.calls.set position ⟨increment, .done (.error error), trace⟩ }
  | lost {position : Nat} {increment : Increment} {trace : List RedisCommand} (error : RedisError)
      (found : pool.calls[position]? = some ⟨increment, setExpiry increment, trace⟩) :
      Outcome pool (.perform position (some error))
        { pool with calls := pool.calls.set position ⟨increment, .done (.error error), trace⟩ }

def afterIncr (increment : Increment) : Except RedisError Int → RedisScript Int
  | .error error => .done (.error error)
  | .ok value =>
    if value = 1 ∧ increment.ttl > 0 then
      Script.perform (RedisCommand.expire increment.key increment.ttl) >>= fun _ => pure value
    else pure value

variable (increment : Increment) (trace : List RedisCommand)

theorem body_eq : redis.body increment = .act (.incr increment.key) (afterIncr increment) := by
  refine congrArg (Script.act (RedisCommand.incr increment.key)) (funext fun result => ?_)
  cases result with
  | error | ok => rfl

theorem afterIncr_one : afterIncr increment (.ok 1) = setExpiry increment :=
  if_pos ⟨rfl, increment.positive⟩

theorem afterIncr_more {value : Int} (more : value ≠ 1) : afterIncr increment (.ok value) = .done (.ok value) :=
  if_neg fun sent => more sent.1

theorem step_outcome (invariant : Invariant pool) (moves : redis.step pool label = some next) :
    Outcome pool label next := by
  cases label with
  | start increment =>
    cases moves
    exact .started increment
  | move time =>
    cases moves
    exact .passed time
  | perform position failure =>
    cases found : pool.calls[position]? with
    | none => simp [System.step, found] at moves
    | some call =>
      cases invariant.stages call (List.mem_of_getElem? found) with
      | fresh increment trace =>
        have known := found
        rw [body_eq] at known
        cases failure with
        | some error =>
          simp only [System.step, known] at moves
          cases moves
          exact .failed error found
        | none =>
          cases live : Expiring.unexpired pool.state.clock (pool.state.counters.entries.lookup increment.key) with
          | none =>
            have executed : redis.exec (.incr increment.key) pool.state = _ :=
              congrArg Except.ok (incr_of_absent live)
            simp only [System.step, known, executed] at moves
            cases moves
            rw [afterIncr_one]
            exact .created found live _
          | some stored =>
            have there := Expiring.eq_of_unexpired live
            have least := invariant.positive _ _ _ there
            have executed : redis.exec (.incr increment.key) pool.state = _ :=
              congrArg Except.ok (incr_of_live live)
            simp only [System.step, known, executed] at moves
            cases moves
            rw [afterIncr_more increment (by omega)]
            exact .counted found there _
      | created increment trace =>
        cases failure with
        | some error =>
          simp only [System.step, found] at moves
          cases moves
          exact .lost error found
        | none =>
          simp only [System.step, found] at moves
          cases moves
          exact .timed found _
      | ended increment result trace => simp [System.step, found] at moves

theorem awaited_fresh : awaited ⟨increment, redis.body increment, trace⟩ = none := rfl

theorem awaited_created : awaited ⟨increment, setExpiry increment, trace⟩ = some increment.key := rfl

theorem Invariant.start : Invariant redisStart where
  stages _ member := absurd member List.not_mem_nil
  positive _ _ _ holds := absurd holds Expiring.not_holds_empty
  awaits _ member := absurd member List.not_mem_nil
  distinct := List.nodup_nil

theorem Invariant.not_awaited (invariant : Invariant pool) {key : String}
    (absent : Expiring.unexpired pool.state.clock (pool.state.counters.entries.lookup key) = none) :
    key ∉ pool.calls.filterMap awaited := by
  intro member
  obtain ⟨value, holds⟩ := invariant.awaits key member
  rw [holds, Expiring.unexpired_endless] at absent
  cases absent

theorem Invariant.fail (invariant : Invariant pool) (position : Nat) (increment : Increment) (error : RedisError)
    (trace : List RedisCommand) :
    Invariant { pool with calls := pool.calls.set position ⟨increment, .done (.error error), trace⟩ } := by
  have fewer : ((pool.calls.set position ⟨increment, .done (.error error), trace⟩).filterMap awaited).Sublist
      (pool.calls.filterMap awaited) := filterMap_set_sublist awaited rfl
  exact ⟨forall_mem_set invariant.stages (.ended increment _ trace), invariant.positive,
    fun key member => invariant.awaits key (fewer.subset member), invariant.distinct.sublist fewer⟩

theorem Invariant.step (invariant : Invariant pool) (outcome : Outcome pool label next) : Invariant next := by
  cases outcome with
  | started increment =>
    have same : (pool.calls ++ [(⟨increment, redis.body increment, []⟩ : RedisCall)]).filterMap awaited =
        pool.calls.filterMap awaited := by
      rw [List.filterMap_append]
      exact List.append_nil _
    refine ⟨forall_mem_concat invariant.stages (.fresh increment []), invariant.positive, ?_, ?_⟩
    · rw [same]
      exact invariant.awaits
    · rw [same]
      exact invariant.distinct
  | passed time => exact ⟨invariant.stages, invariant.positive, invariant.awaits, invariant.distinct⟩
  | @created position increment trace found absent after =>
    have waiting := filterMap_set_perm awaited ⟨increment, setExpiry increment, after⟩ found
      (awaited_fresh increment trace) (awaited_created increment after)
    have fresh := invariant.not_awaited absent
    refine ⟨forall_mem_set invariant.stages (.created increment after), fun key value expiry holds => ?_,
      fun key member => ?_, waiting.nodup_iff.mpr (List.nodup_cons.mpr ⟨fresh, invariant.distinct⟩)⟩
    · rw [Expiring.Holds, lookup_created] at holds
      split at holds
      · cases holds
        exact le_rfl
      · exact invariant.positive key value expiry holds
    · rcases List.mem_cons.mp (waiting.mem_iff.mp member) with rfl | member
      · exact ⟨1, (lookup_created pool.state _ _).trans (if_pos rfl)⟩
      · obtain ⟨value, holds⟩ := invariant.awaits key member
        have apart : key ≠ increment.key := fun same => fresh (same ▸ member)
        exact ⟨value, (lookup_created pool.state _ _).trans ((if_neg apart).trans holds)⟩
  | @counted position increment trace value expiry found live after =>
    have waiting : (pool.calls.set position ⟨increment, .done (.ok (value + 1)), after⟩).filterMap awaited =
        pool.calls.filterMap awaited := filterMap_set_same awaited found rfl
    refine ⟨forall_mem_set invariant.stages (.ended increment _ after), fun key count deadline holds => ?_,
      fun key member => ?_, ?_⟩
    · rw [Expiring.Holds, Expiring.lookup_alter] at holds
      split at holds
      · rw [live, Option.map_some] at holds
        cases holds
        exact (invariant.positive _ _ _ live).trans (Int.le_add_one le_rfl)
      · exact invariant.positive key count deadline holds
    · rw [waiting] at member
      obtain ⟨count, holds⟩ := invariant.awaits key member
      by_cases same : key = increment.key
      · subst same
        refine ⟨count + 1, (Expiring.lookup_alter _ _ _ _).trans ?_⟩
        rw [if_pos rfl, holds, Option.map_some]
      · exact ⟨count, (Expiring.lookup_alter _ _ _ _).trans ((if_neg same).trans holds)⟩
    · rw [waiting]
      exact invariant.distinct
  | @timed position increment trace found after =>
    have waiting := filterMap_perm_set awaited (⟨increment, .done (.ok 1), after⟩ : RedisCall) found
      (awaited_created increment trace) rfl
    obtain ⟨gone, distinct⟩ := List.nodup_cons.mp (waiting.nodup_iff.mp invariant.distinct)
    refine ⟨forall_mem_set invariant.stages (.ended increment _ after), fun key value expiry holds => ?_,
      fun key member => ?_, distinct⟩
    · rw [Expiring.Holds, lookup_expire] at holds
      split at holds
      · obtain ⟨stored, live, same⟩ := Option.map_eq_some_iff.mp holds
        cases same
        exact invariant.positive _ _ _ (Expiring.eq_of_unexpired live)
      · exact invariant.positive key value expiry holds
    · obtain ⟨value, holds⟩ := invariant.awaits key (waiting.mem_iff.mpr (List.mem_cons_of_mem _ member))
      have apart : key ≠ increment.key := fun same => gone (same ▸ member)
      exact ⟨value, (lookup_expire pool.state _ _ _).trans ((if_neg apart).trans holds)⟩
  | failed error | lost error => exact invariant.fail _ _ error _

section Expiry

variable {clock : Ticks} {key : String} {expiry : Option Int} {old new : RedisCall} {calls : List RedisCall}
  {position : Nat}

theorem Covers.later {time : Nat} (covers : Covers clock key expiry new) : Covers (clock + time) key expiry new := by
  refine ⟨covers.1, covers.2.imp_right fun ⟨deadline, same, soon⟩ => ⟨deadline, same, soon.trans ?_⟩⟩
  have grows : ∀ first second : Int, first + second ≤ first + time + second := fun _ _ => by omega
  exact grows _ _

/-- A deadline goes on to be covered when the call that is about to set another one has moved on. -/
theorem Covers.ended (covers : Covers clock key expiry old) (nothing : awaited old = none)
    (same : new.operation = old.operation) : Covers clock key expiry new := by
  rcases covers with ⟨mine, waits | deadline⟩
  · rw [nothing] at waits
    cases waits
  · exact ⟨same ▸ mine, Or.inr (same ▸ deadline)⟩

theorem covered_set (found : calls[position]? = some old) (covered : ∃ call ∈ calls, Covers clock key expiry call)
    (kept : Covers clock key expiry old → Covers clock key expiry new) :
    ∃ call ∈ calls.set position new, Covers clock key expiry call := by
  obtain ⟨call, member, covers⟩ := covered
  by_cases same : call = old
  · exact ⟨new, mem_set_self new found, kept (same ▸ covers)⟩
  · exact ⟨call, mem_set_of_ne found member same, covers⟩

/-- One step keeps every counter expiring exactly if it is not the failure of a command that sets an expiry. -/
theorem expires_step (invariant : Invariant pool) (expires : Expires pool) (outcome : Outcome pool label next) :
    Expires next ↔ Reaches pool label := by
  cases outcome with
  | started increment =>
    refine iff_of_true (fun key value expiry holds => ?_) trivial
    obtain ⟨call, member, covers⟩ := expires key value expiry holds
    exact ⟨call, List.mem_append_left _ member, covers⟩
  | passed time =>
    refine iff_of_true (fun key value expiry holds => ?_) trivial
    obtain ⟨call, member, covers⟩ := expires key value expiry holds
    exact ⟨call, member, covers.later⟩
  | @created position increment trace found absent after =>
    refine iff_of_true (fun key value expiry holds => ?_) trivial
    rw [Expiring.Holds, lookup_created] at holds
    split at holds
    · next same =>
      exact ⟨_, mem_set_self _ found, same.symm, Or.inl (congrArg some same.symm)⟩
    · exact covered_set found (expires key value expiry holds) fun covers => covers.ended rfl rfl
  | @counted position increment trace count deadline found live after =>
    refine iff_of_true (fun key value expiry holds => ?_) trivial
    rw [Expiring.Holds, Expiring.lookup_alter] at holds
    have before : ∃ value, pool.state.counters.Holds key value expiry := by
      split at holds
      · next same =>
        rw [live, Option.map_some] at holds
        cases holds
        exact ⟨count, same ▸ live⟩
      · exact ⟨value, holds⟩
    obtain ⟨value, holds⟩ := before
    exact covered_set found (expires key value expiry holds) fun covers => covers.ended rfl rfl
  | @timed position increment trace found after =>
    refine iff_of_true (fun key value expiry holds => ?_) trivial
    rw [Expiring.Holds, lookup_expire] at holds
    split at holds
    · next same =>
      obtain ⟨stored, _, shown⟩ := Option.map_eq_some_iff.mp holds
      cases shown
      exact ⟨_, mem_set_self _ found, same.symm, Or.inr ⟨_, rfl, le_rfl⟩⟩
    · next apart =>
      exact covered_set found (expires key value expiry holds) fun covers => absurd covers.1.symm apart
  | @failed position increment trace error found =>
    refine iff_of_true (fun key value expiry holds => ?_) (by rw [Reaches, found]; rfl)
    exact covered_set found (expires key value expiry holds) fun covers => covers.ended rfl rfl
  | @lost position increment trace error found =>
    -- The counter is there without an expiry, and no other call is about to set it.
    have waiting := filterMap_perm_set awaited (⟨increment, .done (.error error), trace⟩ : RedisCall) found
      (awaited_created increment trace) rfl
    obtain ⟨gone, -⟩ := List.nodup_cons.mp (waiting.nodup_iff.mp invariant.distinct)
    obtain ⟨value, holds⟩ := invariant.awaits increment.key (waiting.mem_iff.mpr List.mem_cons_self)
    refine iff_of_false (fun expires => ?_) (fun reaches => ?_)
    · obtain ⟨call, member, -, waits | ⟨deadline, endless, -⟩⟩ := expires _ _ _ holds
      · exact gone (List.mem_filterMap.mpr ⟨call, member, waits⟩)
      · cases endless
    · rw [Reaches, found] at reaches
      cases reaches

theorem Expires.released (expires : Expires pool) : Released pool := by
  intro key settled later passed
  cases found : pool.state.counters.entries.lookup key with
  | none => rfl
  | some stored =>
    obtain ⟨call, member, mine, waits | ⟨deadline, same, soon⟩⟩ := expires key stored.1 stored.2 found
    · exact absurd (List.mem_filterMap.mpr ⟨call, member, waits⟩) settled
    · rw [Expiring.unexpired_some, same]
      exact if_pos (decide_eq_true (soon.trans (passed call member mine)))

/-- In every run, every counter expires and every key is released throughout exactly if no command that sets
an expiry fails. -/
theorem expires_iff_reaches {labels : List (Pool.Label Nat Increment RedisError)} {final : RedisPool}
    (runs : redis.step.run redisStart labels = some final) :
    redis.step.Always (fun pool => Expires pool ∧ Released pool) redisStart labels ↔
      redis.step.Guarded Reaches redisStart labels := by
  have initially : Expires redisStart := fun _ _ _ holds => absurd holds Expiring.not_holds_empty
  refine Step.always_iff_guarded Invariant (fun invariant _ moves => invariant.step (step_outcome invariant moves))
    (fun invariant holds moves => ?_) Invariant.start ⟨initially, initially.released⟩ runs
  refine Iff.trans ?_ (expires_step invariant holds.1 (step_outcome invariant moves))
  exact ⟨And.left, fun expires => ⟨expires, expires.released⟩⟩

def attempt : Increment := ⟨"ratelimit:login:ann", 60, by decide⟩

theorem expires_iff_reaches_attempt :
    redis.step.Always (fun pool => Expires pool ∧ Released pool) redisStart
      [.start attempt, .perform 0 none, .perform 0 none] := by
  have moves : (redis.step.run redisStart [.start attempt, .perform 0 none, .perform 0 none]).isSome = true := rfl
  obtain ⟨final, runs⟩ := Option.isSome_iff_exists.mp moves
  exact (expires_iff_reaches runs).mpr ⟨trivial, trivial, trivial, trivial⟩

/-- The expiry of the first attempt does not get through; the next attempt is made a day later. -/
def stranded : List (Pool.Label Nat Increment RedisError) :=
  [.start attempt, .perform 0 none, .perform 0 (some ⟨"timeout"⟩), .move 86400000000000, .start attempt, .perform 1 none]

/-- No call is in progress, and the counter goes on without an expiry. -/
theorem counter_stranded :
    ∃ final, redis.step.run redisStart stranded = some final ∧ final.finished = true ∧
      final.state.counters.Holds "ratelimit:login:ann" 2 none ∧ ¬ Expires final := by
  have run : (redis.step.run redisStart stranded).any (fun final => final.finished &&
      decide (final.state.counters.entries.lookup "ratelimit:login:ann" = some (2, none))) = true := by decide +kernel
  obtain ⟨final, runs, both⟩ := (Option.any_eq_true _ _).mp run
  obtain ⟨finished, counted⟩ := Bool.and_eq_true_iff.mp both
  have stored := of_decide_eq_true counted
  have holds : final.state.counters.Holds "ratelimit:login:ann" 2 none := stored
  refine ⟨final, runs, finished, holds, fun expires => ?_⟩
  obtain ⟨call, member, -, waits | ⟨deadline, endless, -⟩⟩ := expires _ _ _ holds
  · have ended := Option.isNone_iff_eq_none.mp (List.all_eq_true.mp finished call member)
    rw [awaited, ended] at waits
    cases waits
  · cases endless

end Expiry

end Calls

end Redis

end RealtimeChat.Cache
