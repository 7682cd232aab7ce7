import RealtimeChat.Basic
import RealtimeChat.Cache.InMemoryCacheStore
import RealtimeChat.Foundation.Windows

/-! The fixed-window rate limiter over the cache in memory.

Each check increments a counter that lives for one window from its first
increment. The counter is the only state, and the cache lets go of it by its
own clock: the windows of a key are read off the results of its checks.
-/

set_option autoImplicit false

namespace RealtimeChat.RateLimit

open Foundation Cache

structure RateLimiter where
  enabled : Bool

namespace RateLimiter

structure Result where
  allowed : Bool := true
  limit : Int := 0
  remaining : Int := 0
  retryAfterSeconds : Int := 0
  deriving DecidableEq, Repr

def counterKey (bucket identity : String) : String := "ratelimit:" ++ bucket ++ ":" ++ identity

/-- What `check` makes of the count. -/
def Result.ofCount (max window count : Int) : Result where
  allowed := count ≤ max
  limit := max
  remaining := Max.max 0 (max - count)
  retryAfterSeconds := if count ≤ max then 0 else window

/-- Records one hit. A limit of zero or less is no limit. -/
def check (limiter : RateLimiter) (store : InMemoryCacheStore) (now : Ticks) (bucket identity : String)
    (max window : Int) : InMemoryCacheStore × Result :=
  if !limiter.enabled || max ≤ 0 then (store, { allowed := true, limit := max, remaining := max })
  else
    ((store.incr now (counterKey bucket identity) window).1,
      Result.ofCount max window (store.incr now (counterKey bucket identity) window).2)

def enforce (limiter : RateLimiter) (store : InMemoryCacheStore) (now : Ticks) (bucket identity : String)
    (max window : Int) : InMemoryCacheStore × Except AppException Result :=
  let result := (limiter.check store now bucket identity max window).2
  ((limiter.check store now bucket identity max window).1,
    if result.allowed then .ok result
    else .error ⟨.rateLimited, "Rate limit exceeded, please retry later",
      "retry_after=" ++ toString result.retryAfterSeconds⟩)

inductive Event where
  | check (bucket identity : String) (max window : Int)
  | purge
  deriving DecidableEq, Repr

/-- Within a window, the first checks up to the limit are allowed, and what remains counts down to zero. -/
def Numbered (max window : Int) (seen : Nat) (results : List (Ticks × Result)) : Prop :=
  ∀ (index : Nat) (result : Ticks × Result), results[index]? = some result →
    (result.2.allowed = true ↔ ((seen + index : Nat) : Int) < max) ∧ result.2.limit = max ∧
      result.2.remaining = Max.max 0 (max - ((seen + index : Nat) + 1)) ∧
      result.2.retryAfterSeconds = if result.2.allowed then 0 else window

/-- The results of a key's checks split into windows of the given length, each numbered from its start. -/
def Windowed (max window : Int) (results : List (Ticks × Result)) : Prop :=
  ∃ windows, Splits Prod.fst (seconds window) results windows ∧ ∀ results ∈ windows, Numbered max window 0 results

section Results

variable {max window : Int} {seen : Nat} {results : List (Ticks × Result)}

theorem numbered_nil : Numbered max window seen [] := by
  intro index result found
  cases found

theorem numbered_cons (now : Ticks) (rest : Numbered max window (seen + 1) results) :
    Numbered max window seen ((now, Result.ofCount max window (seen + 1)) :: results) := by
  intro index result found
  cases index with
  | zero =>
    cases found
    simp only [Result.ofCount, decide_eq_true_eq, Nat.add_zero, and_true]
    exact Int.add_one_le_iff
  | succ index =>
    have tail := rest index result found
    rwa [Nat.add_right_comm, Nat.add_assoc] at tail

theorem Numbered.countP_le (numbered : Numbered max window seen results) :
    results.countP (fun result => result.2.allowed) ≤ (max - seen).toNat := by
  induction results generalizing seen with
  | nil => exact Nat.zero_le _
  | cons result rest ih =>
    have first := (numbered 0 result rfl).1
    have others : Numbered max window (seen + 1) rest := by
      intro index entry found
      have tail := numbered (index + 1) entry found
      rwa [← Nat.add_assoc, Nat.add_right_comm] at tail
    have bound := ih others
    rw [List.countP_cons]
    split
    · next allowed =>
      have below := first.mp allowed
      push_cast at bound below
      omega
    · push_cast at bound
      omega

/-- The results after a window has opened: the rest of that window, and the windows that follow. -/
def Resumes (max window : Int) (start : Ticks) (seen : Nat) (results : List (Ticks × Result)) : Prop :=
  ∃ inside rest, results = inside ++ rest ∧ (∀ entry ∈ inside, start ≤ entry.1 ∧ entry.1 < start + seconds window) ∧
    (∀ entry ∈ rest, start + seconds window ≤ entry.1) ∧ Numbered max window seen inside ∧ Windowed max window rest

variable {now start : Ticks}

theorem Resumes.opens (resumes : Resumes max window now 1 results) :
    Windowed max window ((now, Result.ofCount max window 1) :: results) := by
  obtain ⟨inside, rest, rfl, within, beyond, numbered, windows, splits, each⟩ := resumes
  refine ⟨_, .window (now, Result.ofCount max window 1) within beyond splits, ?_⟩
  exact List.forall_mem_cons.mpr ⟨numbered_cons now numbered, each⟩

theorem Resumes.counts (after : start ≤ now) (before : now < start + seconds window)
    (resumes : Resumes max window start (seen + 1) results) :
    Resumes max window start seen ((now, Result.ofCount max window (seen + 1)) :: results) := by
  obtain ⟨inside, rest, rfl, within, beyond, numbered, windowed⟩ := resumes
  exact ⟨_ :: inside, rest, rfl, List.forall_mem_cons.mpr ⟨⟨after, before⟩, within⟩, beyond,
    numbered_cons now numbered, windowed⟩

theorem Windowed.resumes (windowed : Windowed max window results)
    (late : ∀ entry ∈ results, start + seconds window ≤ entry.1) : Resumes max window start seen results :=
  ⟨[], results, rfl, fun _ member => absurd member List.not_mem_nil, late, numbered_nil, windowed⟩

end Results

section Counters

variable {limiter : RateLimiter} {key bucket identity : String} {max window limit length : Int}
  {store : InMemoryCacheStore} {now start : Ticks} {seen : Nat}

def Idle (key : String) (now : Ticks) (store : InMemoryCacheStore) : Prop :=
  Expiring.unexpired now (store.strings.entries.lookup key) = none

/-- The counter of a window, which the cache may still hold when the window is over. -/
def Counting (key : String) (window : Int) (start : Ticks) (seen : Nat) (store : InMemoryCacheStore) : Prop :=
  store.strings.entries.lookup key = some (toString (seen : Int), some (start + seconds window))

theorem seconds_pos (long : 1 ≤ window) : 0 < seconds window := by
  have positive : 0 < window * 1000000000 := by omega
  exact positive

theorem Counting.idle (counting : Counting key window start seen store) (past : start + seconds window ≤ now) :
    Idle key now store := by
  unfold Idle
  rw [counting, Expiring.unexpired_some]
  exact if_pos (decide_eq_true past)

theorem Counting.live (before : now < start + seconds window) :
    Expiring.isExpired now (some (start + seconds window)) = false :=
  decide_eq_false (Int.not_le.mpr before)

theorem Idle.purge (idle : Idle key now store) : Idle key now (store.purgeExpired now).1 := by
  unfold Idle
  rw [InMemoryCacheStore.purgeExpired, Expiring.lookup_purgeExpired, idle, Expiring.unexpired_none]

theorem Counting.purge (counting : Counting key window start seen store) (before : now < start + seconds window) :
    Counting key window start seen (store.purgeExpired now).1 := by
  unfold Counting
  rw [InMemoryCacheStore.purgeExpired, Expiring.lookup_purgeExpired, counting, Expiring.unexpired_some,
    Counting.live before]
  rfl

theorem check_eq (enabled : limiter.enabled = true) (positive : 1 ≤ max) :
    limiter.check store now bucket identity max window =
      ((store.incr now (counterKey bucket identity) window).1,
        Result.ofCount max window (store.incr now (counterKey bucket identity) window).2) := by
  have counted : ¬ max ≤ 0 := by omega
  simp [check, enabled, counted]

theorem Idle.check (idle : Idle (counterKey bucket identity) now store) (enabled : limiter.enabled = true)
    (positive : 1 ≤ max) (long : 1 ≤ window) :
    (limiter.check store now bucket identity max window).2 = Result.ofCount max window 1 ∧
      Counting (counterKey bucket identity) window now 1 (limiter.check store now bucket identity max window).1 := by
  obtain ⟨count, stored⟩ := InMemoryCacheStore.incr_of_absent window idle
  rw [Expiring.deadline, if_neg (Int.not_le.mpr (seconds_pos long))] at stored
  rw [check_eq enabled positive]
  exact ⟨congrArg (Result.ofCount max window) count, stored⟩

theorem Counting.check (counting : Counting (counterKey bucket identity) window start seen store)
    (room : seen < 2 ^ 63) (before : now < start + seconds window) (enabled : limiter.enabled = true)
    (positive : 1 ≤ max) :
    (limiter.check store now bucket identity max window).2 = Result.ofCount max window (seen + 1) ∧
      Counting (counterKey bucket identity) window start (seen + 1)
        (limiter.check store now bucket identity max window).1 := by
  obtain ⟨count, stored⟩ := InMemoryCacheStore.incr_of_live window room counting (Counting.live before)
  rw [check_eq enabled positive]
  exact ⟨congrArg (Result.ofCount max window) count, stored⟩

end Counters

section Runs

variable {limiter : RateLimiter} {key : String} {max window : Int} {store : InMemoryCacheStore} {now : Ticks}

variable {events : List (Ticks × Event)}

theorem Windowed.markedDuring_le {results : List (Ticks × Result)} (windowed : Windowed max window results)
    (positive : 1 ≤ max) (long : 1 ≤ window) (start : Ticks) :
    (markedDuring Prod.fst (seconds window) start (fun result => result.2.allowed) results : Int) ≤ 2 * max := by
  obtain ⟨windows, splits, numbered⟩ := windowed
  have few : ∀ results ∈ windows, results.countP (fun result => result.2.allowed) ≤ max.toNat := by
    intro results member
    exact (numbered results member).countP_le.trans (by omega)
  have twice := splits.markedDuring_le_twice start (seconds_pos long) few
  omega

end Runs

end RateLimiter

end RealtimeChat.RateLimit
