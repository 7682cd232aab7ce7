import Mathlib.Data.List.AList

/-! Stores whose entries expire.

An entry is read until its deadline. Nothing removes it at that moment: a read
that finds it too late, or a purge, does. `Holds` is about what is stored, so a
removal only ever makes fewer facts of this kind true.
-/

set_option autoImplicit false

namespace RealtimeChat.Foundation

structure Expiring (K V : Type) [DecidableEq K] where
  entries : AList (fun _ : K => V × Option Int)

namespace Expiring

variable {K V : Type} [DecidableEq K]

def empty : Expiring K V := ⟨∅⟩

/-- An entry without a deadline never expires. -/
def isExpired (now : Int) (expiry : Option Int) : Bool := expiry.any fun deadline => deadline ≤ now

def deadline (now ttl : Int) : Option Int := if ttl ≤ 0 then none else some (now + ttl)

def set (store : Expiring K V) (now : Int) (key : K) (value : V) (ttl : Int) : Expiring K V :=
  ⟨store.entries.insert key (value, deadline now ttl)⟩

def del (store : Expiring K V) (key : K) : Expiring K V := ⟨store.entries.erase key⟩

/-- A read drops the entry it finds expired. -/
def get (store : Expiring K V) (now : Int) (key : K) : Expiring K V × Option V :=
  match store.entries.lookup key with
  | none => (store, none)
  | some (value, expiry) => if isExpired now expiry then (store.del key, none) else (store, some value)

def purgeExpired (store : Expiring K V) (now : Int) : Expiring K V :=
  ⟨store.entries.entries.filter fun entry => !isExpired now entry.2.2,
    store.entries.nodupKeys.sublist List.filter_sublist⟩

def Holds (store : Expiring K V) (key : K) (value : V) (expiry : Option Int) : Prop :=
  store.entries.lookup key = some (value, expiry)

variable {store : Expiring K V} {now : Int} {key other : K} {value stored : V} {expiry : Option Int}

theorem not_holds_empty : ¬ (empty : Expiring K V).Holds key value expiry := by
  simp [Holds, empty]

theorem holds_set {ttl : Int} : (store.set now key stored ttl).Holds other value expiry ↔
    (other = key ∧ value = stored ∧ expiry = deadline now ttl) ∨ (other ≠ key ∧ store.Holds other value expiry) := by
  unfold Holds set
  by_cases same : other = key
  · subst same
    rw [AList.lookup_insert]
    simp [eq_comm]
  · rw [AList.lookup_insert_ne same]
    simp [same]

theorem holds_del : (store.del key).Holds other value expiry ↔ other ≠ key ∧ store.Holds other value expiry := by
  unfold Holds del
  by_cases same : other = key
  · subst same
    simp
  · rw [AList.lookup_erase_ne same]
    simp [same]

theorem holds_of_get (holds : (store.get now key).1.Holds other value expiry) : store.Holds other value expiry := by
  unfold get at holds
  split at holds
  · exact holds
  · split at holds
    · exact (holds_del.mp holds).2
    · exact holds

theorem holds_of_get_eq_some (found : (store.get now key).2 = some value) :
    ∃ expiry, store.Holds key value expiry ∧ isExpired now expiry = false := by
  unfold get at found
  split at found
  · cases found
  · next stored expiry there =>
    split at found
    · cases found
    · next live =>
      cases found
      exact ⟨expiry, there, by simpa using live⟩

theorem holds_of_purgeExpired (holds : (store.purgeExpired now).Holds key value expiry) :
    store.Holds key value expiry := by
  have listed := AList.mem_lookup_iff.mp holds
  exact AList.mem_lookup_iff.mpr (List.mem_of_mem_filter listed)

theorem lt_of_not_expired {ttl stored : Int} (positive : 0 < ttl)
    (live : isExpired now (deadline stored ttl) = false) : now < stored + ttl := by
  rw [deadline, if_neg (Int.not_le.mpr positive)] at live
  simpa [isExpired] using live

def contains (store : Expiring K V) (key : K) : Bool := (store.entries.lookup key).isSome

def setDeadline (store : Expiring K V) (key : K) (expiry : Option Int) : Expiring K V :=
  match store.entries.lookup key with
  | none => store
  | some (value, _) => ⟨store.entries.insert key (value, expiry)⟩

def alter (store : Expiring K V) (key : K) (change : V → V) : Expiring K V :=
  match store.entries.lookup key with
  | none => store
  | some (value, expiry) => ⟨store.entries.insert key (change value, expiry)⟩

def keep (store : Expiring K V) (key : K) (value : V) : Expiring K V := ⟨store.entries.insert key (value, none)⟩

def peek (store : Expiring K V) (now : Int) (key : K) : Option V :=
  match store.entries.lookup key with
  | none => none
  | some (value, expiry) => if isExpired now expiry then none else some value

def expiredCount (store : Expiring K V) (now : Int) : Nat :=
  store.entries.entries.countP fun entry => isExpired now entry.2.2

section Lookups

theorem isExpired_mono {later : Int} (passed : now ≤ later) (expired : isExpired now expiry = true) :
    isExpired later expiry = true := by
  cases expiry with
  | none => cases expired
  | some deadline =>
    simp only [isExpired, Option.any_some, decide_eq_true_eq] at expired ⊢
    omega

/-- The entry that is found under a key when what is expired is left out. -/
def unexpired (now : Int) (entry : Option (V × Option Int)) : Option (V × Option Int) :=
  entry.filter fun stored => !isExpired now stored.2

@[simp] theorem unexpired_none : unexpired now (none : Option (V × Option Int)) = none := rfl

@[simp] theorem unexpired_some (stored : V × Option Int) :
    unexpired now (some stored) = if isExpired now stored.2 then none else some stored := by
  cases expired : isExpired now stored.2 <;> simp [unexpired, Option.filter_some, expired]

theorem eq_of_unexpired {entry : Option (V × Option Int)} {stored : V × Option Int}
    (live : unexpired now entry = some stored) : entry = some stored :=
  (Option.filter_eq_some_iff.mp live).1

theorem unexpired_endless (value : V) : unexpired now (some (value, none)) = some (value, none) := rfl

def expiredAt (store : Expiring K V) (now : Int) (key : K) : Bool :=
  (store.entries.lookup key).any fun stored => isExpired now stored.2

theorem unexpired_of_not_expiredAt (live : store.expiredAt now key = false) :
    unexpired now (store.entries.lookup key) = store.entries.lookup key := by
  unfold expiredAt at live
  cases found : store.entries.lookup key with
  | none => rfl
  | some stored =>
    rw [found, Option.any_some] at live
    simp [live]

theorem lookup_insert (entries : AList fun _ : K => V × Option Int) (key other : K) (stored : V × Option Int) :
    (entries.insert key stored).lookup other = if other = key then some stored else entries.lookup other := by
  split
  · next same => rw [same, AList.lookup_insert]
  · next apart => exact AList.lookup_insert_ne apart

section

variable (store : Expiring K V)

theorem lookup_set (now : Int) (key other : K) (value : V) (ttl : Int) :
    (store.set now key value ttl).entries.lookup other =
      if other = key then some (value, deadline now ttl) else store.entries.lookup other :=
  lookup_insert store.entries key other _

theorem lookup_keep (key other : K) (value : V) :
    (store.keep key value).entries.lookup other = if other = key then some (value, none) else store.entries.lookup other :=
  lookup_insert store.entries key other _

theorem lookup_del (key other : K) :
    (store.del key).entries.lookup other = if other = key then none else store.entries.lookup other := by
  unfold del
  split
  · next same => rw [same, AList.lookup_erase]
  · next apart => exact AList.lookup_erase_ne apart

theorem lookup_setDeadline (key other : K) (expiry : Option Int) : (store.setDeadline key expiry).entries.lookup other =
      if other = key then (store.entries.lookup key).map fun stored => (stored.1, expiry)
      else store.entries.lookup other := by
  unfold setDeadline
  split
  · next absent =>
    split
    · next same => rw [same, absent, Option.map_none]
    · rfl
  · next value _ found =>
    rw [found]
    exact lookup_insert store.entries key other (value, expiry)

theorem lookup_alter (key other : K) (change : V → V) : (store.alter key change).entries.lookup other =
      if other = key then (store.entries.lookup key).map fun stored => (change stored.1, stored.2)
      else store.entries.lookup other := by
  unfold alter
  split
  · next absent =>
    split
    · next same => rw [same, absent, Option.map_none]
    · rfl
  · next value expiry found =>
    rw [found]
    exact lookup_insert store.entries key other (change value, expiry)

theorem lookup_get (now : Int) (key other : K) : (store.get now key).1.entries.lookup other =
      if other = key then unexpired now (store.entries.lookup key) else store.entries.lookup other := by
  unfold get
  split
  · next absent =>
    split
    · next same => rw [same, absent, unexpired_none]
    · rfl
  · next value expiry found =>
    rw [found, unexpired_some]
    split
    · exact lookup_del store key other
    · split
      · next same => rw [same, found]
      · rfl

theorem get_eq (now : Int) (key : K) :
    (store.get now key).2 = (unexpired now (store.entries.lookup key)).map Prod.fst := by
  unfold get
  cases store.entries.lookup key with
  | none => rfl
  | some stored =>
    rw [unexpired_some]
    dsimp only
    split <;> rfl

theorem peek_eq (now : Int) (key : K) :
    store.peek now key = (unexpired now (store.entries.lookup key)).map Prod.fst := by
  unfold peek
  cases store.entries.lookup key with
  | none => rfl
  | some stored =>
    rw [unexpired_some]
    dsimp only
    split <;> rfl

theorem lookup_purgeExpired (now : Int) (key : K) :
    (store.purgeExpired now).entries.lookup key = unexpired now (store.entries.lookup key) := by
  refine Option.ext fun stored => ?_
  rw [unexpired, Option.filter_eq_some_iff]
  exact AList.mem_lookup_iff.trans (List.mem_filter.trans (and_congr_left' AList.mem_lookup_iff.symm))

end

end Lookups

section Trailing

/-- The second entry is the first, or it is gone and the first has expired. -/
def Missing (now : Int) (first second : Option (V × Option Int)) : Prop :=
  second = first ∨ second = none ∧ unexpired now first = none

/-- A store that some expired entries have been removed from. -/
def Trails (now : Int) (first second : Expiring K V) : Prop :=
  ∀ key, Missing now (first.entries.lookup key) (second.entries.lookup key)

variable {first second next after : Expiring K V} {entry left : Option (V × Option Int)}

theorem unexpired_of_later {later : Int} (passed : now ≤ later) (gone : unexpired now entry = none) :
    unexpired later entry = none := by
  cases entry with
  | none => rfl
  | some stored =>
    rw [unexpired_some] at gone ⊢
    split at gone
    · next expired => exact if_pos (isExpired_mono passed expired)
    · cases gone

theorem Trails.refl (store : Expiring K V) : Trails now store store := fun _ => Or.inl rfl

theorem Trails.later {later : Int} (trails : Trails now first second) (passed : now ≤ later) : Trails later first second :=
  fun key => (trails key).imp_right fun gone => ⟨gone.1, unexpired_of_later passed gone.2⟩

theorem Missing.unexpired_eq (missing : Missing now entry left) : unexpired now left = unexpired now entry := by
  rcases missing with rfl | ⟨rfl, gone⟩
  · rfl
  · exact gone.symm

theorem Missing.eq_of_live (missing : Missing now entry left) (live : unexpired now entry = entry) : left = entry := by
  rcases missing with rfl | ⟨rfl, gone⟩
  · rfl
  · exact gone.symm.trans live

section

variable (trails : Trails now first second)

include trails

theorem Trails.purge : Trails now first (second.purgeExpired now) := by
  intro key
  rw [lookup_purgeExpired, (trails key).unexpired_eq]
  cases found : unexpired now (first.entries.lookup key) with
  | none => exact Or.inr ⟨rfl, found⟩
  | some stored =>
    refine Or.inl ?_
    cases there : first.entries.lookup key with
    | none => simp [there] at found
    | some entry =>
      rw [there, unexpired_some] at found
      split at found <;> cases found
      rfl

/-- Operations that change what is stored under one key keep a store trailing another, if they
do so under that key. -/
theorem Trails.change {key : K} (point : Option (V × Option Int) → Option (V × Option Int))
    (one : ∀ other, next.entries.lookup other =
      if other = key then point (first.entries.lookup key) else first.entries.lookup other)
    (two : ∀ other, after.entries.lookup other =
      if other = key then point (second.entries.lookup key) else second.entries.lookup other)
    (here : Missing now (point (first.entries.lookup key)) (point (second.entries.lookup key))) :
    Trails now next after := by
  intro other
  rw [one, two]
  split
  · exact here
  · exact trails other

theorem Trails.get_eq (key : K) : (second.get now key).2 = (first.get now key).2 := by
  rw [Expiring.get_eq, Expiring.get_eq, (trails key).unexpired_eq]

theorem Trails.peek_eq (key : K) : second.peek now key = first.peek now key := by
  rw [Expiring.peek_eq, Expiring.peek_eq, (trails key).unexpired_eq]

theorem Trails.set (key : K) (value : V) (ttl : Int) :
    Trails now (first.set now key value ttl) (second.set now key value ttl) :=
  trails.change (fun _ => some (value, deadline now ttl)) (lookup_set first now key · value ttl)
    (lookup_set second now key · value ttl) (Or.inl rfl)

theorem Trails.keep (key : K) (value : V) : Trails now (first.keep key value) (second.keep key value) :=
  trails.change (fun _ => some (value, none)) (lookup_keep first key · value) (lookup_keep second key · value)
    (Or.inl rfl)

theorem Trails.del (key : K) : Trails now (first.del key) (second.del key) :=
  trails.change (fun _ => none) (lookup_del first key) (lookup_del second key) (Or.inl rfl)

theorem Trails.get (key : K) : Trails now (first.get now key).1 (second.get now key).1 :=
  trails.change (unexpired now) (lookup_get first now key) (lookup_get second now key) (Or.inl (trails key).unexpired_eq)

theorem Trails.alter (key : K) (change : V → V) : Trails now (first.alter key change) (second.alter key change) := by
  refine trails.change _ (lookup_alter first key · change) (lookup_alter second key · change) ?_
  rcases trails key with same | ⟨absent, gone⟩
  · exact Or.inl (by rw [same])
  · refine Or.inr ⟨by rw [absent]; rfl, ?_⟩
    cases found : first.entries.lookup key with
    | none => rfl
    | some stored =>
      rw [found, unexpired_some] at gone
      rw [Option.map_some, unexpired_some]
      split at gone
      · next expired => exact if_pos expired
      · cases gone

theorem Trails.lookup_eq {key : K} (live : first.expiredAt now key = false) :
    second.entries.lookup key = first.entries.lookup key :=
  (trails key).eq_of_live (unexpired_of_not_expiredAt live)

theorem Trails.contains_eq {key : K} (live : first.expiredAt now key = false) :
    second.contains key = first.contains key :=
  congrArg Option.isSome (trails.lookup_eq live)

end

theorem contains_of_peek (found : (store.peek now key).isSome) : store.contains key = true := by
  unfold peek at found
  unfold contains
  split at found
  · cases found
  · next there => rw [there, Option.isSome_some]

theorem Trails.contains_of_peek {key : K} (trails : Trails now first second) (found : (first.peek now key).isSome) :
    second.contains key = true :=
  Expiring.contains_of_peek ((congrArg Option.isSome (trails.peek_eq key)).trans found)

theorem Trails.setDeadline {key : K} (trails : Trails now first second) (live : first.expiredAt now key = false)
    (expiry : Option Int) :
    Trails now (first.setDeadline key expiry) (second.setDeadline key expiry) := by
  refine trails.change _ (lookup_setDeadline first key · expiry) (lookup_setDeadline second key · expiry) (Or.inl ?_)
  rw [trails.lookup_eq live]

theorem Trails.purgeBoth (trails : Trails now first second) :
    Trails now (first.purgeExpired now) (second.purgeExpired now) := by
  intro key
  rw [lookup_purgeExpired, lookup_purgeExpired]
  exact Or.inl (trails key).unexpired_eq

end Trailing

end Expiring

end RealtimeChat.Foundation
