import RealtimeChat.Foundation.Decimal
import RealtimeChat.Foundation.Expiring
import RealtimeChat.Foundation.Run
import Mathlib.Data.Finset.Card

/-! The cache in the memory of one instance.

Strings, counters and sets stay in their maps after their deadline until a read
drops them or a purge does. Most commands look at the deadline first. `del`,
`expire` and `sadd` do not: on an entry that has expired and is still there,
they do what they would not do on one that is gone.
-/

set_option autoImplicit false

namespace RealtimeChat.Cache

open Foundation

/-- A reading of the steady clock, in nanoseconds. -/
abbrev Ticks := Int

def seconds (count : Int) : Ticks := count * 1000000000

structure InMemoryCacheStore where
  strings : Expiring String String
  sets : Expiring String (Finset String)

namespace InMemoryCacheStore

def empty : InMemoryCacheStore := ⟨.empty, .empty⟩

def set (store : InMemoryCacheStore) (now : Ticks) (key value : String) (ttl : Int) : InMemoryCacheStore :=
  { store with strings := store.strings.set now key value (seconds ttl) }

def get (store : InMemoryCacheStore) (now : Ticks) (key : String) : InMemoryCacheStore × Option String :=
  ({ store with strings := (store.strings.get now key).1 }, (store.strings.get now key).2)

def del (store : InMemoryCacheStore) (key : String) : InMemoryCacheStore × Bool :=
  (⟨store.strings.del key, store.sets.del key⟩, store.strings.contains key || store.sets.contains key)

/-- `exists`, which looks at the strings only. -/
def existsKey (store : InMemoryCacheStore) (now : Ticks) (key : String) : InMemoryCacheStore × Bool :=
  ({ store with strings := (store.strings.get now key).1 }, (store.strings.get now key).2.isSome)

def expire (store : InMemoryCacheStore) (now : Ticks) (key : String) (ttl : Int) : InMemoryCacheStore :=
  ⟨store.strings.setDeadline key (Expiring.deadline now (seconds ttl)),
    store.sets.setDeadline key (Expiring.deadline now (seconds ttl))⟩

/-- The successor of the largest count, which the source does not define, is one that reads as zero. -/
def incr (store : InMemoryCacheStore) (now : Ticks) (key : String) (ttlOnCreate : Int) : InMemoryCacheStore × Int :=
  match (store.strings.get now key).2 with
  | none => ({ store with strings := (store.strings.get now key).1.set now key "1" (seconds ttlOnCreate) }, 1)
  | some value =>
    ({ store with strings := store.strings.alter key fun _ => toString (readInt value + 1) }, readInt value + 1)

/-- A new set has no deadline. -/
def sadd (store : InMemoryCacheStore) (key member : String) : InMemoryCacheStore :=
  -- The deadline of a set that is there is not looked at and stays.
  if store.sets.contains key then { store with sets := store.sets.alter key (insert member) }
  else { store with sets := store.sets.keep key {member} }

def srem (store : InMemoryCacheStore) (key member : String) : InMemoryCacheStore :=
  { store with sets := store.sets.alter key fun members => members.erase member }

def sismember (store : InMemoryCacheStore) (now : Ticks) (key member : String) : Bool :=
  (store.sets.peek now key).any fun members => member ∈ members

def smembers (store : InMemoryCacheStore) (now : Ticks) (key : String) : Finset String :=
  (store.sets.peek now key).getD ∅

def scard (store : InMemoryCacheStore) (now : Ticks) (key : String) : Nat :=
  ((store.sets.peek now key).map Finset.card).getD 0

def purgeExpired (store : InMemoryCacheStore) (now : Ticks) : InMemoryCacheStore × Nat :=
  (⟨store.strings.purgeExpired now, store.sets.purgeExpired now⟩,
    store.strings.expiredCount now + store.sets.expiredCount now)

section Counters

variable {store : InMemoryCacheStore} {now : Ticks} {key other : String} {ttl : Int} {expiry : Option Int}

theorem incr_of_absent (ttl : Int) (absent : Expiring.unexpired now (store.strings.entries.lookup key) = none) :
    (store.incr now key ttl).2 = 1 ∧ (store.incr now key ttl).1.strings.entries.lookup key =
      some ("1", Expiring.deadline now (seconds ttl)) := by
  have missed : (store.strings.get now key).2 = none := by rw [Expiring.get_eq, absent, Option.map_none]
  unfold incr
  rw [missed]
  exact ⟨rfl, (Expiring.lookup_set _ now key key "1" (seconds ttl)).trans (if_pos rfl)⟩

theorem incr_of_live (ttl : Int) {count : Nat} (room : count < 2 ^ 63)
    (found : store.strings.entries.lookup key = some (toString (count : Int), expiry))
    (live : Expiring.isExpired now expiry = false) :
    (store.incr now key ttl).2 = count + 1 ∧
      (store.incr now key ttl).1.strings.entries.lookup key = some (toString (count + 1 : Int), expiry) := by
  have read : (store.strings.get now key).2 = some (toString (count : Int)) := by
    rw [Expiring.get_eq, found, Expiring.unexpired_some, live]
    rfl
  unfold incr
  rw [read]
  dsimp only
  rw [readInt_toString (by omega) (by omega)]
  refine ⟨rfl, (Expiring.lookup_alter _ key key _).trans ?_⟩
  rw [if_pos rfl, found, Option.map_some]

end Counters

end InMemoryCacheStore

inductive Command where
  | set (key value : String) (ttl : Int)
  | get (key : String)
  | del (key : String)
  | existsKey (key : String)
  | expire (key : String) (ttl : Int)
  | incr (key : String) (ttlOnCreate : Int)
  | sadd (key member : String)
  | srem (key member : String)
  | sismember (key member : String)
  | smembers (key : String)
  | scard (key : String)
  | purgeExpired
  deriving DecidableEq, Repr

inductive Reply where
  | done
  | text (value : Option String)
  | flag (value : Bool)
  | number (value : Int)
  | members (values : Finset String)
  | size (value : Nat)
  deriving DecidableEq

namespace InMemoryCacheStore

def exec (store : InMemoryCacheStore) (now : Ticks) : Command → InMemoryCacheStore × Reply
  | .set key value ttl => (store.set now key value ttl, .done)
  | .get key => ((store.get now key).1, .text (store.get now key).2)
  | .del key => ((store.del key).1, .flag (store.del key).2)
  | .existsKey key => ((store.existsKey now key).1, .flag (store.existsKey now key).2)
  | .expire key ttl => (store.expire now key ttl, .done)
  | .incr key ttlOnCreate => ((store.incr now key ttlOnCreate).1, .number (store.incr now key ttlOnCreate).2)
  | .sadd key member => (store.sadd key member, .done)
  | .srem key member => (store.srem key member, .done)
  | .sismember key member => (store, .flag (store.sismember now key member))
  | .smembers key => (store, .members (store.smembers now key))
  | .scard key => (store, .size (store.scard now key))
  | .purgeExpired => ((store.purgeExpired now).1, .size (store.purgeExpired now).2)

def step : Step InMemoryCacheStore (Ticks × Command) := fun store call => some (store.exec call.1 call.2).1

def replies (store : InMemoryCacheStore) : List (Ticks × Command) → List Reply
  | [] => []
  | (now, command) :: rest =>
    if command = .purgeExpired then (store.exec now command).1.replies rest
    else (store.exec now command).2 :: (store.exec now command).1.replies rest

/-- The commands that do not look at the deadline meet no entry that has expired. A `del` that
also meets a live one reports a removal either way. -/
def MeetsLive (store : InMemoryCacheStore) : Ticks × Command → Prop
  | (now, .del key) => store.strings.expiredAt now key = true ∨ store.sets.expiredAt now key = true →
      (store.strings.peek now key).isSome ∨ (store.sets.peek now key).isSome
  | (now, .expire key _) => store.strings.expiredAt now key = false ∧ store.sets.expiredAt now key = false
  | (now, .sadd key _) => store.sets.expiredAt now key = false
  | _ => True

end InMemoryCacheStore

inductive WithPurges : List (Ticks × Command) → List (Ticks × Command) → Prop where
  | nil : WithPurges [] []
  | cons (call : Ticks × Command) {calls more : List (Ticks × Command)} (rest : WithPurges calls more) :
      WithPurges (call :: calls) (call :: more)
  | purge (now : Ticks) {calls more : List (Ticks × Command)} (rest : WithPurges calls more) :
      WithPurges calls ((now, .purgeExpired) :: more)

namespace InMemoryCacheStore

variable {now : Ticks} {first second : InMemoryCacheStore}

/-- The second store has lost some entries of the first that had expired. -/
structure Trails (now : Ticks) (first second : InMemoryCacheStore) : Prop where
  strings : Expiring.Trails now first.strings second.strings
  sets : Expiring.Trails now first.sets second.sets

theorem Trails.refl (now : Ticks) (store : InMemoryCacheStore) : Trails now store store := ⟨.refl _, .refl _⟩

section

variable (trails : Trails now first second)

include trails

theorem Trails.later {later : Ticks} (passed : now ≤ later) : Trails later first second :=
  ⟨trails.strings.later passed, trails.sets.later passed⟩

theorem Trails.purge : Trails now first (second.purgeExpired now).1 :=
  ⟨trails.strings.purge, trails.sets.purge⟩

theorem Trails.incr (key : String) (ttl : Int) : (second.incr now key ttl).2 = (first.incr now key ttl).2 ∧
      Trails now (first.incr now key ttl).1 (second.incr now key ttl).1 := by
  unfold InMemoryCacheStore.incr
  rw [trails.strings.get_eq key]
  cases (first.strings.get now key).2 with
  | none => exact ⟨rfl, (trails.strings.get key).set key "1" (seconds ttl), trails.sets⟩
  | some value => exact ⟨rfl, trails.strings.alter key _, trails.sets⟩

theorem Trails.sadd {key : String} (live : first.sets.expiredAt now key = false)
    (member : String) : Trails now (first.sadd key member) (second.sadd key member) := by
  unfold InMemoryCacheStore.sadd
  rw [trails.sets.contains_eq live]
  split
  · exact ⟨trails.strings, trails.sets.alter key _⟩
  · exact ⟨trails.strings, trails.sets.keep key {member}⟩

/-- A live entry is in both stores; without one, what is left out of the second was found expired. -/
theorem Trails.del {key : String} (live : first.MeetsLive (now, .del key)) :
    (second.del key).2 = (first.del key).2 := by
  change (_ || _) = (_ || _)
  by_cases expired : first.strings.expiredAt now key = true ∨ first.sets.expiredAt now key = true
  · rcases live expired with found | found
    · rw [trails.strings.contains_of_peek found, Expiring.contains_of_peek found]
      rfl
    · rw [trails.sets.contains_of_peek found, Expiring.contains_of_peek found, Bool.or_true, Bool.or_true]
  · rw [not_or, Bool.not_eq_true, Bool.not_eq_true] at expired
    rw [trails.strings.contains_eq expired.1, trails.sets.contains_eq expired.2]

theorem Trails.exec {command : Command} (live : first.MeetsLive (now, command)) :
    (command ≠ .purgeExpired → (second.exec now command).2 = (first.exec now command).2) ∧
      Trails now (first.exec now command).1 (second.exec now command).1 := by
  -- Commands that look at the deadline find the same in both stores; the others need what they meet to be live.
  cases command with
  | set key value ttl => exact ⟨fun _ => rfl, trails.strings.set key value (seconds ttl), trails.sets⟩
  | get key => exact ⟨fun _ => congrArg Reply.text (trails.strings.get_eq key), trails.strings.get key, trails.sets⟩
  | del key => exact ⟨fun _ => congrArg Reply.flag (trails.del live), trails.strings.del key, trails.sets.del key⟩
  | existsKey key =>
    exact ⟨fun _ => congrArg (fun found => Reply.flag (Option.isSome found)) (trails.strings.get_eq key),
      trails.strings.get key, trails.sets⟩
  | expire key ttl =>
    exact ⟨fun _ => rfl, trails.strings.setDeadline live.1 _, trails.sets.setDeadline live.2 _⟩
  | incr key ttl =>
    obtain ⟨same, after⟩ := trails.incr key ttl
    exact ⟨fun _ => congrArg Reply.number same, after⟩
  | sadd key member => exact ⟨fun _ => rfl, trails.sadd live member⟩
  | srem key member => exact ⟨fun _ => rfl, trails.strings, trails.sets.alter key _⟩
  | sismember key member =>
    exact ⟨fun _ => congrArg (fun found => Reply.flag (Option.any _ found)) (trails.sets.peek_eq key), trails⟩
  | smembers key =>
    exact ⟨fun _ => congrArg (fun found => Reply.members (Option.getD found ∅)) (trails.sets.peek_eq key), trails⟩
  | scard key =>
    exact ⟨fun _ => congrArg (fun found => Reply.size ((Option.map Finset.card found).getD 0))
      (trails.sets.peek_eq key), trails⟩
  | purgeExpired => exact ⟨fun same => absurd rfl same, trails.strings.purgeBoth, trails.sets.purgeBoth⟩

end

theorem Trails.replies {calls more : List (Ticks × Command)} (inserted : WithPurges calls more)
    (trails : Trails now first second) (after : ∀ call ∈ more, now ≤ call.1)
    (ordered : more.Pairwise fun earlier later => earlier.1 ≤ later.1) (live : step.Guarded MeetsLive first calls) :
    second.replies more = first.replies calls := by
  induction inserted generalizing now first second with
  | nil => rfl
  | cons call rest ih =>
    obtain ⟨later, ordered⟩ := List.pairwise_cons.mp ordered
    obtain ⟨met, live⟩ := (Step.guarded_cons rfl).mp live
    obtain ⟨same, next⟩ := (trails.later (after call List.mem_cons_self)).exec met
    have rest := ih next later ordered live
    unfold InMemoryCacheStore.replies
    split
    · exact rest
    · next other => rw [same other, rest]
  | purge moment rest ih =>
    -- Only the second store is purged; the first one has not moved.
    obtain ⟨later, ordered⟩ := List.pairwise_cons.mp ordered
    exact ih (trails.later (after _ List.mem_cons_self)).purge later ordered live

/-- In every sequence of calls in which `del`, `expire` and `sadd` meet no expired entry, purges may
be inserted anywhere: no other call returns anything else. -/
theorem purges_unseen {calls more : List (Ticks × Command)} (inserted : WithPurges calls more)
    (ordered : more.Pairwise fun earlier later => earlier.1 ≤ later.1) (live : step.Guarded MeetsLive empty calls) :
    empty.replies more = empty.replies calls := by
  cases more with
  | nil =>
    cases inserted
    rfl
  | cons call rest =>
    refine Trails.replies inserted (Trails.refl call.1 empty) (fun other member => ?_) ordered live
    rcases List.mem_cons.mp member with rfl | member
    · exact le_rfl
    · exact (List.pairwise_cons.mp ordered).1 other member

/-- A key that is read after its deadline. -/
theorem purges_unseen_lateRead :
    empty.replies [(0, .set "k" "v" 1), (2000000000, .purgeExpired), (2000000000, .get "k")] =
      empty.replies [(0, .set "k" "v" 1), (2000000000, .get "k")] :=
  purges_unseen (.cons _ (.purge _ (.cons _ .nil))) (by decide) ⟨trivial, trivial, trivial⟩

def lapsing : List (Ticks × Command) :=
  [(0, .set "deleted" "v" 1), (0, .set "extended" "v" 1), (0, .sadd "joined" "a"), (0, .expire "joined" 1)]

def belated : List (Ticks × Command) :=
  [(2000000000, .del "deleted"), (2000000000, .expire "extended" 5), (2000000000, .get "extended"),
    (2000000000, .sadd "joined" "b"), (2000000000, .sismember "joined" "b")]

/-- Expired entries are deleted, come back and hide a new member; after a purge they do not. -/
theorem purge_seen : WithPurges (lapsing ++ belated) (lapsing ++ (2000000000, .purgeExpired) :: belated) ∧
      (lapsing ++ (2000000000, .purgeExpired) :: belated).Pairwise (fun earlier later => earlier.1 ≤ later.1) ∧
      empty.replies (lapsing ++ belated) =
        [.done, .done, .done, .done, .flag true, .done, .text (some "v"), .done, .flag false] ∧
      empty.replies (lapsing ++ (2000000000, .purgeExpired) :: belated) =
        [.done, .done, .done, .done, .flag false, .done, .text none, .done, .flag true] := by
  refine ⟨?_, by decide, by decide +kernel, by decide +kernel⟩
  exact .cons _ (.cons _ (.cons _ (.cons _ (.purge _ (.cons _ (.cons _ (.cons _ (.cons _ (.cons _ .nil)))))))))

end InMemoryCacheStore

end RealtimeChat.Cache
