import RealtimeChat.Cache.InMemoryCacheStore
import RealtimeChat.Foundation.Pool

/-! Who is online, by the shared cache.

The connections of a user are counted in the cache by all instances. A new
connection is one increment and one command that puts the user into the online
set. A removal reads the counter, writes it back or deletes it, and in the last
case takes the user out of the set: between these commands others come in.
-/

set_option autoImplicit false

namespace RealtimeChat.Cache

open Foundation

structure SharedCache where
  clock : Ticks
  store : InMemoryCacheStore

inductive CacheCommand where
  | incr (key : String)
  | sadd (key member : String)
  | get (key : String)
  | set (key value : String)
  | del (key : String)
  | srem (key member : String)
  deriving DecidableEq, Repr

abbrev CacheCommand.Reply : CacheCommand → Type
  | .incr _ => Int
  | .get _ => Option String
  | .del _ => Bool
  | .sadd _ _ | .set _ _ | .srem _ _ => Unit

def SharedCache.exec : (command : CacheCommand) → SharedCache → Except Empty (SharedCache × command.Reply)
  | .incr key, cache =>
    .ok ({ cache with store := (cache.store.incr cache.clock key 0).1 }, (cache.store.incr cache.clock key 0).2)
  | .sadd key member, cache => .ok ({ cache with store := cache.store.sadd key member }, ())
  | .get key, cache =>
    .ok ({ cache with store := (cache.store.get cache.clock key).1 }, (cache.store.get cache.clock key).2)
  | .set key value, cache => .ok ({ cache with store := cache.store.set cache.clock key value 0 }, ())
  | .del key, cache => .ok ({ cache with store := (cache.store.del key).1 }, (cache.store.del key).2)
  | .srem key member, cache => .ok ({ cache with store := cache.store.srem key member }, ())

abbrev CacheScript := Script CacheCommand CacheCommand.Reply Empty

namespace PresenceCache

def onlineSet : String := "presence:online"

def connKey (userId : Int) : String := "presence:conn:" ++ toString userId

def addConnection (userId : Int) : CacheScript Bool := do
  let count : Int ← Script.perform (CacheCommand.incr (connKey userId))
  Script.perform (CacheCommand.sadd onlineSet (toString userId))
  return count == 1

def remaining (current : Option String) : Int :=
  match current with
  | some text => readInt text - 1
  | none => 0

def removeConnection (userId : Int) : CacheScript Bool := do
  let current : Option String ← Script.perform (CacheCommand.get (connKey userId))
  -- What is written below goes by this reading, whatever has happened to the counter since.
  if remaining current ≤ 0 then
    let _ ← Script.perform (CacheCommand.del (connKey userId))
    Script.perform (CacheCommand.srem onlineSet (toString userId))
    return true
  Script.perform (CacheCommand.set (connKey userId) (toString (remaining current)))
  return false

def isOnline (cache : SharedCache) (userId : Int) : Bool :=
  cache.store.sismember cache.clock onlineSet (toString userId)

inductive Connection where
  | add
  | remove
  deriving DecidableEq, Repr

def presence (userId : Int) : System SharedCache Nat Connection CacheCommand CacheCommand.Reply Empty Bool where
  exec := SharedCache.exec
  body
    | .add => addConnection userId
    | .remove => removeConnection userId
  move passed cache := { cache with clock := cache.clock + passed }

abbrev PresenceCall := Call Connection CacheCommand CacheCommand.Reply Empty Bool

abbrev PresencePool := Pool SharedCache Connection CacheCommand CacheCommand.Reply Empty Bool

def emptyCache : PresencePool := ⟨⟨0, .empty⟩, []⟩

def made (connection : Connection) (calls : List PresenceCall) : Nat :=
  calls.countP fun call => decide (call.operation = connection)

def completed (calls : List PresenceCall) : Nat :=
  calls.countP fun call => decide (call.operation = .add ∧ call.pending = none)

/-- A removal is called for a connection whose addition has ended, and once for each. -/
def Matched (pool : PresencePool) : Pool.Label Nat Connection Empty → Prop
  | .start .remove => made .remove pool.calls < completed pool.calls
  | _ => True

def counter (userId : Int) (cache : SharedCache) : Int :=
  (((cache.store.get cache.clock (connKey userId)).2).map readInt).getD 0

/-- A removal writes the counter as it has read it, and takes the user out of the online set only while
there is no counter or an addition is still to put the user back. An addition has room to count. -/
def Allows (userId : Int) (pool : PresencePool) : Option CacheCommand → Prop
  | some (.incr _) => counter userId pool.state + 1 < 2 ^ 63
  | some (.set _ value) => counter userId pool.state = readInt value + 1
  | some (.del _) => counter userId pool.state ≤ 1
  | some (.srem _ _) => counter userId pool.state = 0 ∨
      ∃ call ∈ pool.calls, call.pending = some (.sadd onlineSet (toString userId))
  | _ => True

def Undisturbed (userId : Int) (pool : PresencePool) : Pool.Label Nat Connection Empty → Prop
  | .perform position _ => Allows userId pool (pool.calls[position]?.bind Call.pending)
  | _ => True

instance (pool : PresencePool) : (label : Pool.Label Nat Connection Empty) → Decidable (Matched pool label)
  | .start .remove => inferInstanceAs (Decidable (made .remove pool.calls < completed pool.calls))
  | .start .add | .perform _ _ | .move _ => isTrue trivial

instance (userId : Int) (pool : PresencePool) : (command : Option CacheCommand) → Decidable (Allows userId pool command)
  | some (.set _ value) => inferInstanceAs (Decidable (counter userId pool.state = readInt value + 1))
  | some (.del _) => inferInstanceAs (Decidable (counter userId pool.state ≤ 1))
  | some (.srem _ _) => inferInstanceAs (Decidable (counter userId pool.state = 0 ∨
      ∃ call ∈ pool.calls, call.pending = some (.sadd onlineSet (toString userId))))
  | some (.incr _) => inferInstanceAs (Decidable (counter userId pool.state + 1 < 2 ^ 63))
  | some (.sadd _ _) | some (.get _) | none => isTrue trivial

instance (userId : Int) (pool : PresencePool) :
    (label : Pool.Label Nat Connection Empty) → Decidable (Undisturbed userId pool label)
  | .perform position _ =>
    inferInstanceAs (Decidable (Allows userId pool (pool.calls[position]?.bind Call.pending)))
  | .start _ | .move _ => isTrue trivial

variable {value position : Nat} {old new call : PresenceCall}

section Store

variable {userId : Int} {cache : SharedCache} {store : InMemoryCacheStore} {now : Ticks} {count : Nat} {online : Bool}

/-- What the cache says of the user: how many connections, and whether they are in the online set. Neither
entry has a deadline. -/
structure Shows (userId : Int) (store : InMemoryCacheStore) (count : Nat) (online : Bool) : Prop where
  counter : store.strings.entries.lookup (connKey userId) =
    if count = 0 then none else some (toString (count : Int), none)
  inRange : count < 2 ^ 63
  members : store.sets.entries.lookup onlineSet = none ∧ online = false ∨
    ∃ members, store.sets.entries.lookup onlineSet = some (members, none) ∧ online = decide (toString userId ∈ members)

theorem onlineSet_ne (userId : Int) : onlineSet ≠ connKey userId := by
  intro same
  have within : 9 < "presence:conn:".toList.length := by decide +kernel
  have letters : (connKey userId).toList = "presence:conn:".toList ++ (toString userId).toList := String.toList_append
  have letter : onlineSet.toList[9]? = "presence:conn:".toList[9]? :=
    (congrArg (fun text : List Char => text[9]?) (same ▸ letters)).trans (List.getElem?_append_left within)
  exact absurd letter (by decide +kernel)

theorem Shows.unexpired (shows : Shows userId store count online) (now : Ticks) :
    Expiring.unexpired now (store.strings.entries.lookup (connKey userId)) =
      store.strings.entries.lookup (connKey userId) := by
  rw [shows.counter]
  split <;> rfl

theorem Shows.get (shows : Shows userId store count online) (now : Ticks) :
    (store.get now (connKey userId)).2 = (if count = 0 then none else some (toString (count : Int))) ∧
      Shows userId (store.get now (connKey userId)).1 count online := by
  refine ⟨?_, ⟨?_, shows.inRange, shows.members⟩⟩
  · refine (Expiring.get_eq _ _ _).trans ?_
    rw [shows.unexpired, shows.counter]
    split <;> rfl
  · refine (Expiring.lookup_get _ _ _ _).trans ?_
    rw [if_pos rfl, shows.unexpired, shows.counter]

theorem Shows.counter_eq (shows : Shows userId cache.store count online) : PresenceCache.counter userId cache = count := by
  unfold PresenceCache.counter
  rw [(shows.get cache.clock).1]
  split
  · next none => rw [none]; rfl
  · have inRange := shows.inRange
    exact readInt_toString (by omega) (by omega)

section

variable (shows : Shows userId store count online)

include shows

theorem Shows.incr (room : count + 1 < 2 ^ 63) (now : Ticks) : (store.incr now (connKey userId) 0).2 = count + 1 ∧
      Shows userId (store.incr now (connKey userId) 0).1 (count + 1) online := by
  have others : (store.incr now (connKey userId) 0).1.sets = store.sets := by
    unfold InMemoryCacheStore.incr
    split <;> rfl
  by_cases none : count = 0
  · subst none
    obtain ⟨first, stored⟩ := InMemoryCacheStore.incr_of_absent 0 ((shows.unexpired now).trans shows.counter)
    exact ⟨first, ⟨stored, room, others ▸ shows.members⟩⟩
  · have live : Expiring.isExpired now Option.none = false := rfl
    obtain ⟨next, stored⟩ := InMemoryCacheStore.incr_of_live 0 shows.inRange (shows.counter.trans (if_neg none)) live
    exact ⟨next, ⟨stored, room, others ▸ shows.members⟩⟩

theorem Shows.set (now : Ticks) (some : value ≠ 0) (inRange : value < 2 ^ 63) :
    Shows userId (store.set now (connKey userId) (toString (value : Int)) 0) value online := by
  refine ⟨?_, inRange, shows.members⟩
  refine (Expiring.lookup_set _ _ _ _ _ _).trans ?_
  rw [if_pos rfl, if_neg some]
  rfl

theorem Shows.del : Shows userId (store.del (connKey userId)).1 0 online := by
  refine ⟨(Expiring.lookup_del _ _ _).trans (if_pos rfl), by decide, ?_⟩
  have kept : (store.del (connKey userId)).1.sets.entries.lookup onlineSet = store.sets.entries.lookup onlineSet :=
    (Expiring.lookup_del _ _ _).trans (if_neg (onlineSet_ne userId))
  rw [kept]
  exact shows.members

theorem Shows.sadd : Shows userId (store.sadd onlineSet (toString userId)) count true := by
  unfold InMemoryCacheStore.sadd Expiring.contains
  rcases shows.members with ⟨absent, -⟩ | ⟨members, found, -⟩
  · rw [absent]
    refine ⟨shows.counter, shows.inRange, Or.inr ⟨{toString userId}, ?_, ?_⟩⟩
    · exact (Expiring.lookup_keep _ _ _ _).trans (if_pos rfl)
    · simp
  · rw [found]
    refine ⟨shows.counter, shows.inRange, Or.inr ⟨insert (toString userId) members, ?_, ?_⟩⟩
    · exact (Expiring.lookup_alter _ _ _ _).trans (by rw [if_pos rfl, found, Option.map_some])
    · simp

theorem Shows.srem : Shows userId (store.srem onlineSet (toString userId)) count false := by
  refine ⟨shows.counter, shows.inRange, ?_⟩
  have after : (store.srem onlineSet (toString userId)).sets.entries.lookup onlineSet = _ :=
    (Expiring.lookup_alter _ _ _ _).trans (if_pos rfl)
  rw [after]
  rcases shows.members with ⟨absent, -⟩ | ⟨members, found, -⟩
  · rw [absent]
    exact Or.inl ⟨rfl, rfl⟩
  · rw [found]
    exact Or.inr ⟨members.erase (toString userId), rfl, by simp⟩

end

theorem Shows.isOnline (shows : Shows userId cache.store count online) : isOnline cache userId = online := by
  unfold PresenceCache.isOnline InMemoryCacheStore.sismember
  rw [Expiring.peek_eq]
  rcases shows.members with ⟨absent, rfl⟩ | ⟨members, found, rfl⟩
  · rw [absent]
    rfl
  · rw [found]
    rfl

end Store

section Calls

variable {userId : Int}

def join (userId count : Int) : CacheScript Bool := do
  Script.perform (CacheCommand.sadd onlineSet (toString userId))
  return count == 1

def writeBack (userId value : Int) : CacheScript Bool := do
  Script.perform (CacheCommand.set (connKey userId) (toString value))
  return false

def leave (userId : Int) : CacheScript Bool := do
  Script.perform (CacheCommand.srem onlineSet (toString userId))
  return true

def dropCounter (userId : Int) : CacheScript Bool := do
  let _ ← Script.perform (CacheCommand.del (connKey userId))
  leave userId

inductive Stage (userId : Int) : PresenceCall → Prop where
  | adding (trace : List CacheCommand) : Stage userId ⟨.add, addConnection userId, trace⟩
  | joining (count : Int) (trace : List CacheCommand) : Stage userId ⟨.add, join userId count, trace⟩
  | removing (trace : List CacheCommand) : Stage userId ⟨.remove, removeConnection userId, trace⟩
  | writing (value : Nat) (positive : value ≠ 0) (inRange : value < 2 ^ 63) (trace : List CacheCommand) :
      Stage userId ⟨.remove, writeBack userId value, trace⟩
  | dropping (trace : List CacheCommand) : Stage userId ⟨.remove, dropCounter userId, trace⟩
  | leaving (trace : List CacheCommand) : Stage userId ⟨.remove, leave userId, trace⟩
  | ended (connection : Connection) (result : Except Empty Bool) (trace : List CacheCommand) :
      Stage userId ⟨connection, .done result, trace⟩

inductive Mark where
  | adding
  | joining
  | added
  | removing
  | leaving
  | removed
  deriving DecidableEq, Repr

def Mark.of (operation : Connection) (pending : Option CacheCommand) : Mark :=
  match operation, pending with
  | .add, some (.sadd _ _) => .joining
  | .add, some _ => .adding
  | .add, none => .added
  | .remove, some (.srem _ _) => .leaving
  | .remove, some _ => .removing
  | .remove, none => .removed

def mark (call : PresenceCall) : Mark := Mark.of call.operation call.pending

def tally (wanted : Mark) (calls : List PresenceCall) : Nat := calls.countP fun call => decide (mark call = wanted)

variable (wanted : Mark) (pending : Option CacheCommand)

theorem tally_concat (calls : List PresenceCall) (call : PresenceCall) :
    tally wanted (calls ++ [call]) = tally wanted calls + if mark call = wanted then 1 else 0 := by
  simp [tally, List.countP_append, List.countP_cons]

theorem tally_set {calls : List PresenceCall} (new : PresenceCall) (found : calls[position]? = some old) :
    tally wanted (calls.set position new) + (if mark old = wanted then 1 else 0) =
      tally wanted calls + if mark new = wanted then 1 else 0 := by
  have counted := countP_set_add (fun call => decide (mark call = wanted)) new found
  simp only [decide_eq_true_eq] at counted
  exact counted

theorem tally_set_same {calls : List PresenceCall} (found : calls[position]? = some old) (same : mark new = mark old) :
    tally wanted (calls.set position new) = tally wanted calls := by
  have shifted := tally_set wanted new found
  rw [same] at shifted
  exact Nat.add_right_cancel shifted

theorem Mark.of_remove :
    (if Mark.of .remove pending = .removing then 1 else 0) + (if Mark.of .remove pending = .leaving then 1 else 0) +
      (if Mark.of .remove pending = .removed then 1 else 0) = 1 := by
  cases pending with
  | none => rfl
  | some command => cases command <;> rfl

theorem Mark.of_add :
    Mark.of .add pending ≠ .removing ∧ Mark.of .add pending ≠ .leaving ∧ Mark.of .add pending ≠ .removed ∧
      (Mark.of .add pending = .added ↔ pending = none) := by
  cases pending with
  | none => exact ⟨Mark.noConfusion, Mark.noConfusion, Mark.noConfusion, iff_of_true rfl rfl⟩
  | some command => cases command <;> simp [Mark.of]

theorem made_remove (calls : List PresenceCall) :
    made .remove calls = tally .removing calls + tally .leaving calls + tally .removed calls := by
  unfold made tally mark
  induction calls with
  | nil => rfl
  | cons call rest ih =>
    obtain ⟨operation, script, trace⟩ := call
    simp only [List.countP_cons, ih, decide_eq_true_eq]
    cases operation with
    | add =>
      obtain ⟨notRemoving, notLeaving, notRemoved, -⟩ := Mark.of_add (Call.pending ⟨Connection.add, script, trace⟩)
      rw [if_neg notRemoving, if_neg notLeaving, if_neg notRemoved, if_neg Connection.noConfusion]
      rfl
    | remove =>
      have one := Mark.of_remove (Call.pending ⟨Connection.remove, script, trace⟩)
      rw [if_pos rfl]
      omega

theorem completed_eq (calls : List PresenceCall) : completed calls = tally .added calls := by
  refine List.countP_congr fun call _ => ?_
  obtain ⟨operation, script, trace⟩ := call
  simp only [decide_eq_true_eq]
  cases operation with
  | add =>
    obtain ⟨-, -, -, ended⟩ := Mark.of_add (Call.pending ⟨Connection.add, script, trace⟩)
    exact ⟨fun both => ended.mpr both.2, fun added => ⟨rfl, ended.mp added⟩⟩
  | remove =>
    refine iff_of_false (fun both => Connection.noConfusion both.1) fun added => ?_
    have one := Mark.of_remove (Call.pending ⟨Connection.remove, script, trace⟩)
    rw [mark] at added
    simp [added] at one

end Calls

section Balance

variable {calls after : List PresenceCall} {count : Nat} {online : Bool}

/-- The counter stands for the additions that have incremented it without the removals that have written it.
A user with a counter is in the online set unless an addition is still to put them there, and one without is
not unless a removal is still to take them out. -/
structure Balanced (count : Nat) (online : Bool) (calls : List PresenceCall) : Prop where
  matched : tally .removing calls + tally .leaving calls + tally .removed calls ≤ tally .added calls
  counted : count + tally .leaving calls + tally .removed calls = tally .joining calls + tally .added calls
  present : 0 < count → tally .joining calls = 0 → online = true
  absent : count = 0 → tally .leaving calls = 0 → online = false

def Shifted (old new : Mark) (calls after : List PresenceCall) : Prop :=
  ∀ wanted, tally wanted after + (if old = wanted then 1 else 0) = tally wanted calls + if new = wanted then 1 else 0

theorem Mark.forall_iff {property : Mark → Prop} :
    (∀ mark, property mark) ↔ property .adding ∧ property .joining ∧ property .added ∧ property .removing ∧
      property .leaving ∧ property .removed := by
  refine ⟨fun all => ⟨all _, all _, all _, all _, all _, all _⟩, fun ⟨_, _, _, _, _, _⟩ mark => ?_⟩
  cases mark <;> assumption

theorem Balanced.written (balanced : Balanced (value + 1) online calls) (positive : value ≠ 0)
    (shifted : Shifted .removing .removed calls after) : Balanced value online after := by
  simp only [Shifted, Mark.forall_iff, reduceCtorEq, ↓reduceIte] at shifted
  obtain ⟨matched, counted, present, -⟩ := balanced
  refine ⟨by omega, by omega, fun _ none => present (Nat.succ_pos value) (by omega), fun none _ => ?_⟩
  exact absurd none positive

theorem Balanced.dropped (balanced : Balanced 1 online calls) (shifted : Shifted .removing .leaving calls after) :
    Balanced 0 online after := by
  simp only [Shifted, Mark.forall_iff, reduceCtorEq, ↓reduceIte] at shifted
  obtain ⟨matched, counted, -, -⟩ := balanced
  exact ⟨by omega, by omega, fun positive _ => by omega, fun _ none => by omega⟩

section

variable (balanced : Balanced count online calls)

include balanced

theorem Balanced.incremented (shifted : Shifted .adding .joining calls after) : Balanced (count + 1) online after := by
  simp only [Shifted, Mark.forall_iff, reduceCtorEq, ↓reduceIte] at shifted
  obtain ⟨matched, counted, -, -⟩ := balanced
  exact ⟨by omega, by omega, fun _ none => by omega, fun none _ => by omega⟩

theorem Balanced.joined (shifted : Shifted .joining .added calls after) : Balanced count true after := by
  simp only [Shifted, Mark.forall_iff, reduceCtorEq, ↓reduceIte] at shifted
  obtain ⟨matched, counted, -, -⟩ := balanced
  exact ⟨by omega, by omega, fun _ _ => rfl, fun none _ => by omega⟩

theorem Balanced.left (shifted : Shifted .leaving .removed calls after)
    (undisturbed : count = 0 ∨ 0 < tally .joining calls) : Balanced count false after := by
  simp only [Shifted, Mark.forall_iff, reduceCtorEq, ↓reduceIte] at shifted
  obtain ⟨matched, counted, -, -⟩ := balanced
  exact ⟨by omega, by omega, fun positive none => by omega, fun _ _ => rfl⟩

theorem Balanced.called
    (room : tally .removing calls + tally .leaving calls + tally .removed calls < tally .added calls)
    (fresh : mark call = .removing) : Balanced count online (calls ++ [call]) := by
  have more (wanted : Mark) := tally_concat wanted calls call
  simp only [fresh, Mark.forall_iff, reduceCtorEq, ↓reduceIte] at more
  obtain ⟨-, counted, present, absent⟩ := balanced
  refine ⟨by omega, by omega, fun positive none => present positive (by omega), fun none ended => absent none (by omega)⟩

theorem Balanced.pos (removing : 0 < tally .removing calls) : 0 < count := by
  obtain ⟨matched, counted, -, -⟩ := balanced
  omega

theorem Balanced.same
    (same : ∀ wanted, wanted ≠ .adding → tally wanted after = tally wanted calls) : Balanced count online after := by
  simp only [Mark.forall_iff, ne_eq, reduceCtorEq, not_false_eq_true, true_implies] at same
  obtain ⟨matched, counted, present, absent⟩ := balanced
  refine ⟨by omega, by omega, fun positive none => present positive (by omega), fun none ended => absent none (by omega)⟩

end

end Balance

section Runs

variable {userId : Int} {pool next : PresencePool} {label : Pool.Label Nat Connection Empty}

structure Invariant (userId : Int) (pool : PresencePool) : Prop where
  stages : ∀ call ∈ pool.calls, Stage userId call
  view : ∃ count online, Shows userId pool.state.store count online ∧ Balanced count online pool.calls

theorem Invariant.start : Invariant userId emptyCache where
  stages _ member := absurd member List.not_mem_nil
  view := ⟨0, false, ⟨rfl, by decide, Or.inl ⟨rfl, rfl⟩⟩, ⟨le_rfl, rfl, fun positive => absurd positive (Nat.lt_irrefl 0), fun _ _ => rfl⟩⟩

theorem shifted_set {calls : List PresenceCall} (found : calls[position]? = some old) :
    Shifted (mark old) (mark new) calls (calls.set position new) :=
  fun wanted => tally_set wanted new found

theorem tally_pos {calls : List PresenceCall} (member : call ∈ calls) : 0 < tally (mark call) calls :=
  List.countP_pos_iff.mpr ⟨call, member, decide_eq_true rfl⟩

theorem step_perform {connection : Connection} {command : CacheCommand}
    {rest : Except Empty command.Reply → CacheScript Bool} {trace : List CacheCommand} {cache : SharedCache}
    {value : command.Reply} (found : pool.calls[position]? = some ⟨connection, .act command rest, trace⟩)
    (executed : SharedCache.exec command pool.state = .ok (cache, value))
    (moves : (presence userId).step pool (.perform position none) = some next) :
    next = ⟨cache, pool.calls.set position ⟨connection, rest (.ok value), trace ++ [command]⟩⟩ := by
  have known : (presence userId).exec command pool.state = .ok (cache, value) := executed
  simp only [System.step, found, known] at moves
  exact (Option.some.inj moves).symm

/-- After the read, the removal writes what remains, or deletes the counter. -/
def afterRead (userId : Int) : Except Empty (Option String) → CacheScript Bool
  | .error error => .done (.error error)
  | .ok current => if remaining current ≤ 0 then dropCounter userId else writeBack userId (remaining current)

theorem removeConnection_eq (userId : Int) :
    removeConnection userId = .act (.get (connKey userId)) (afterRead userId) := by
  refine congrArg (Script.act (CacheCommand.get (connKey userId))) (funext fun result => ?_)
  cases result with
  | error error => exact error.elim
  | ok current => rfl

theorem afterRead_stage {count : Nat} (positive : 0 < count) (inRange : count < 2 ^ 63) (trace : List CacheCommand) :
    Stage userId ⟨.remove, afterRead userId (.ok (if count = 0 then none else some (toString (count : Int)))), trace⟩ ∧
      mark ⟨.remove, afterRead userId (.ok (if count = 0 then none else some (toString (count : Int)))), trace⟩ =
        .removing := by
  rw [if_neg (Nat.ne_of_gt positive)]
  have left : remaining (some (toString (count : Int))) = ((count - 1 : Nat) : Int) := by
    change readInt (toString (count : Int)) - 1 = _
    rw [readInt_toString (by omega) (by omega)]
    omega
  unfold afterRead
  dsimp only
  rw [left]
  split
  · exact ⟨.dropping trace, rfl⟩
  · exact ⟨.writing (count - 1) (by omega) (by omega) trace, rfl⟩

theorem stage_joining (stage : Stage userId call) (pending : call.pending = some (.sadd onlineSet (toString userId))) :
    mark call = .joining := by
  cases stage with
  | joining value trace => rfl
  | adding | removing | writing | dropping | leaving | ended => cases pending

theorem Invariant.perform (invariant : Invariant userId pool)
    (undisturbed : Undisturbed userId pool (.perform position none))
    (moves : (presence userId).step pool (.perform position none) = some next) : Invariant userId next := by
  obtain ⟨stages, count, online, shows, balanced⟩ := invariant
  cases found : pool.calls[position]? with
  | none => simp [System.step, found] at moves
  | some call =>
    have member := List.mem_of_getElem? found
    rw [Undisturbed, found] at undisturbed
    cases stages call member with
    | adding trace =>
      have room : counter userId pool.state + 1 < 2 ^ 63 := undisturbed
      rw [shows.counter_eq] at room
      obtain ⟨-, shows⟩ := shows.incr (by omega) pool.state.clock
      obtain rfl := step_perform found rfl moves
      exact ⟨forall_mem_set stages (.joining _ _), _, _, shows, balanced.incremented (shifted_set found)⟩
    | joining value trace =>
      obtain rfl := step_perform found rfl moves
      exact ⟨forall_mem_set stages (.ended .add _ _), _, _, shows.sadd, balanced.joined (shifted_set found)⟩
    | removing trace =>
      have known := found
      rw [removeConnection_eq] at known
      obtain ⟨read, unchanged⟩ := shows.get pool.state.clock
      obtain rfl := step_perform known rfl moves
      rw [read]
      obtain ⟨stage, marked⟩ := afterRead_stage (balanced.pos (tally_pos member)) shows.inRange
        (trace ++ [.get (connKey userId)])
      exact ⟨forall_mem_set stages stage, count, online, unchanged,
        balanced.same fun wanted _ => tally_set_same wanted found marked⟩
    | writing value positive inRange trace =>
      have asRead : counter userId pool.state = readInt (toString (value : Int)) + 1 := undisturbed
      rw [shows.counter_eq, readInt_toString (by omega) (by omega)] at asRead
      obtain rfl : count = value + 1 := by omega
      obtain rfl := step_perform found rfl moves
      exact ⟨forall_mem_set stages (.ended .remove _ _), value, online, shows.set pool.state.clock positive inRange,
        balanced.written positive (shifted_set found)⟩
    | dropping trace =>
      -- The removal's own connection is still counted, so that the counter is one and not zero.
      have asRead : counter userId pool.state ≤ 1 := undisturbed
      have positive := balanced.pos (tally_pos member)
      rw [shows.counter_eq] at asRead
      obtain rfl : count = 1 := by omega
      obtain rfl := step_perform found rfl moves
      exact ⟨forall_mem_set stages (.leaving _), 0, online, shows.del, balanced.dropped (shifted_set found)⟩
    | leaving trace =>
      have back : counter userId pool.state = 0 ∨
        ∃ call ∈ pool.calls, call.pending = some (.sadd onlineSet (toString userId)) := undisturbed
      have still : count = 0 ∨ 0 < tally .joining pool.calls := by
        rcases back with none | ⟨other, listed, pending⟩
        · rw [shows.counter_eq] at none
          exact Or.inl (by omega)
        · have joins : mark other = .joining := stage_joining (stages other listed) pending
          exact Or.inr (joins ▸ tally_pos listed)
      obtain rfl := step_perform found rfl moves
      exact ⟨forall_mem_set stages (.ended .remove _ _), count, false, shows.srem,
        balanced.left (shifted_set found) still⟩
    | ended connection result trace => simp [System.step, found] at moves

theorem Invariant.step (invariant : Invariant userId pool) (matched : Matched pool label)
    (undisturbed : Undisturbed userId pool label) (moves : (presence userId).step pool label = some next) :
    Invariant userId next := by
  cases label with
  | start connection =>
    cases moves
    obtain ⟨stages, count, online, shows, balanced⟩ := invariant
    cases connection with
    | add =>
      refine ⟨forall_mem_concat stages (.adding []), count, online, shows, balanced.same fun wanted later => ?_⟩
      rw [tally_concat, if_neg fun same => later same.symm, Nat.add_zero]
    | remove =>
      have room : made .remove pool.calls < completed pool.calls := matched
      rw [made_remove, completed_eq] at room
      exact ⟨forall_mem_concat stages (.removing []), count, online, shows, balanced.called room rfl⟩
  | move passed =>
    cases moves
    exact ⟨invariant.stages, invariant.view⟩
  | perform position failure =>
    cases failure with
    | some error => exact error.elim
    | none => exact invariant.perform undisturbed moves

theorem tally_of_finished (finished : pool.finished = true) :
    tally .joining pool.calls = 0 ∧ tally .removing pool.calls = 0 ∧ tally .leaving pool.calls = 0 ∧
      made .add pool.calls = tally .added pool.calls := by
  have ended : ∀ call ∈ pool.calls, call.pending = none := fun call member =>
    Option.isNone_iff_eq_none.mp (List.all_eq_true.mp finished call member)
  have never {wanted : Mark} (busy : ∀ connection, Mark.of connection none ≠ wanted) : tally wanted pool.calls = 0 := by
    refine List.countP_eq_zero.mpr fun call member marked => busy call.operation ?_
    rw [← ended call member]
    exact of_decide_eq_true marked
  refine ⟨never ?_, never ?_, never ?_, ?_⟩
  case refine_4 =>
    rw [← completed_eq]
    refine List.countP_congr fun call member => ?_
    simp [ended call member]
  all_goals exact fun connection => by cases connection <;> exact Mark.noConfusion

/-- In every run in which removals are matched by additions, and write what they have read, the user is online
exactly if there are more additions than removals, whenever no call is in progress. -/
theorem online_iff_more_additions {labels : List (Pool.Label Nat Connection Empty)} {final : PresencePool}
    (runs : (presence userId).step.run emptyCache labels = some final)
    (matched : (presence userId).step.Guarded Matched emptyCache labels)
    (undisturbed : (presence userId).step.Guarded (Undisturbed userId) emptyCache labels)
    (finished : final.finished = true) :
    isOnline final.state userId = true ↔ made .remove final.calls < made .add final.calls := by
  have invariant : Invariant userId final := by
    refine Step.guarded_invariant (Invariant userId) (fun invariant guard moves => ?_) Invariant.start
      (Step.guarded_and.mpr ⟨matched, undisturbed⟩) runs
    exact invariant.step guard.1 guard.2 moves
  obtain ⟨-, count, online, shows, balanced⟩ := invariant
  obtain ⟨joining, removing, leaving, additions⟩ := tally_of_finished finished
  have counted := balanced.counted
  rw [shows.isOnline, made_remove, additions]
  by_cases none : count = 0
  · rw [balanced.absent none leaving]
    refine iff_of_false Bool.false_ne_true ?_
    omega
  · rw [balanced.present (Nat.pos_of_ne_zero none) joining]
    refine iff_of_true rfl ?_
    omega

def twoThenOne : List (Pool.Label Nat Connection Empty) :=
  [.start .add, .perform 0 none, .perform 0 none, .start .add, .perform 1 none, .perform 1 none, .start .remove,
    .perform 2 none, .perform 2 none]

theorem online_iff_more_additions_twoThenOne :
    ∃ final, (presence 7).step.run emptyCache twoThenOne = some final ∧ final.finished = true ∧
      (isOnline final.state 7 = true ↔ made .remove final.calls < made .add final.calls) := by
  have run : ((presence 7).step.run emptyCache twoThenOne).any (fun final => final.finished) = true := by decide +kernel
  obtain ⟨final, runs, finished⟩ := (Option.any_eq_true _ _).mp run
  exact ⟨final, runs, finished, online_iff_more_additions runs (by decide +kernel) (by decide +kernel) finished⟩

def bothAtOnce : List (Pool.Label Nat Connection Empty) :=
  [.start .add, .perform 0 none, .perform 0 none, .start .add, .perform 1 none, .perform 1 none, .start .remove,
    .start .remove, .perform 2 none, .perform 3 none, .perform 2 none, .perform 3 none]

/-- Both removals read two and write one: the user stays online without a connection. -/
theorem removal_lost : (presence 7).step.Guarded Matched emptyCache bothAtOnce ∧
      ∃ final, (presence 7).step.run emptyCache bothAtOnce = some final ∧ final.finished = true ∧
        isOnline final.state 7 = true ∧ made .remove final.calls = 2 ∧ made .add final.calls = 2 := by
  refine ⟨by decide +kernel, ?_⟩
  have run : ((presence 7).step.run emptyCache bothAtOnce).any (fun final => final.finished && isOnline final.state 7 &&
      decide (made .remove final.calls = 2) && decide (made .add final.calls = 2)) = true := by decide +kernel
  obtain ⟨final, runs, all⟩ := (Option.any_eq_true _ _).mp run
  simp only [Bool.and_eq_true, decide_eq_true_eq] at all
  obtain ⟨⟨⟨finished, online⟩, removed⟩, added⟩ := all
  exact ⟨final, runs, finished, online, removed, added⟩

end Runs

end PresenceCache

end RealtimeChat.Cache
