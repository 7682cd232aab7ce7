import RealtimeChat.Events.DomainEvent
import RealtimeChat.Events.InProcessEventBus
import Mathlib.Data.List.Forall2
import Mathlib.Data.List.Nodup

/-! The dispatcher's loop over its subscribers.

A subscriber says which types it wants, which is a matter of the subscriber alone.
Its handler may do anything to a state that all handlers share, and it may throw;
whether it does may depend on that state. The dispatcher has its lock during a
call. What it writes to the log is left out.
-/

set_option autoImplicit false

namespace RealtimeChat.Events

/-- How a call of `handle` ends: it returns, it throws a standard exception or something else. -/
inductive Outcome where
  | returned
  | failed (what : String)
  | failedUnknown
  deriving DecidableEq, Repr

def Outcome.threw : Outcome → Bool
  | .returned => false
  | .failed _ | .failedUnknown => true

/-- A call of `dispatch`: its event and the handlers it has called. -/
structure Dispatch (Subscriber : Type) where
  event : DomainEvent
  handled : List (Subscriber × Outcome)

inductive Call (Subscriber : Type) where
  | subscribe (subscriber : Subscriber)
  | dispatch (event : DomainEvent)

structure Delivery (World Subscriber : Type) where
  world : World
  failures : Nat
  handled : List (Subscriber × Outcome)

/-- `history` keeps the calls of `dispatch`. -/
structure Dispatching (World Subscriber : Type) where
  dispatcher : EventDispatcher Subscriber
  world : World
  history : List (Dispatch Subscriber)

namespace Dispatching

variable {World Subscriber : Type} [DecidableEq Subscriber]

section Model

variable (interestedIn : Subscriber → EventType → Bool)
  (handle : Subscriber → DomainEvent → World → World × Outcome)

/-- One round of the loop. Both kinds of exceptions are caught around the call. -/
def deliver (event : DomainEvent) (delivery : Delivery World Subscriber) (subscriber : Subscriber) :
    Delivery World Subscriber :=
  if !interestedIn subscriber event.type then delivery
  else
    let (world, outcome) := handle subscriber event delivery.world
    let handled := delivery.handled ++ [(subscriber, outcome)]
    match outcome with
    | .returned => ⟨world, delivery.failures, handled⟩
    | .failed _ => ⟨world, delivery.failures + 1, handled⟩
    | .failedUnknown => ⟨world, delivery.failures + 1, handled⟩

def dispatch (state : Dispatching World Subscriber) (event : DomainEvent) : Dispatching World Subscriber :=
  let dispatcher := state.dispatcher
  let delivery := dispatcher.subscribers.foldl (deliver interestedIn handle event)
    ⟨state.world, dispatcher.failures, []⟩
  ⟨⟨dispatcher.subscribers, dispatcher.dispatched + 1, delivery.failures⟩, delivery.world,
    state.history ++ [⟨event, delivery.handled⟩]⟩

def apply (state : Dispatching World Subscriber) : Call Subscriber → Dispatching World Subscriber
  | .subscribe subscriber => { state with dispatcher := state.dispatcher.subscribe subscriber }
  | .dispatch event => state.dispatch interestedIn handle event

def initial (world : World) : Dispatching World Subscriber := ⟨⟨[], 0, 0⟩, world, []⟩

def run (world : World) (calls : List (Call Subscriber)) : Dispatching World Subscriber :=
  calls.foldl (apply interestedIn handle) (initial world)

end Model

/-- Earlier subscribers stand before later ones, by the first call for each. -/
def InOrder (before subscribers : List Subscriber) : Prop :=
  subscribers.Pairwise fun first second => before.idxOf first < before.idxOf second

/-- The event is handled once by each subscriber that has asked for its type and by no other. -/
def HandledOnce (interestedIn : Subscriber → EventType → Bool) (asked : DomainEvent × List Subscriber)
    (dispatch : Dispatch Subscriber) : Prop :=
  dispatch.event = asked.1 ∧
  (∀ subscriber, (dispatch.handled.map Prod.fst).count subscriber =
    if subscriber ∈ asked.2 ∧ interestedIn subscriber asked.1.type = true then 1 else 0) ∧
  InOrder asked.2 (dispatch.handled.map Prod.fst)

def thrown (history : List (Dispatch Subscriber)) : Nat :=
  (history.flatMap Dispatch.handled).countP fun call => call.2.threw

section Loop

variable (interestedIn : Subscriber → EventType → Bool)
  (handle : Subscriber → DomainEvent → World → World × Outcome)

omit [DecidableEq Subscriber] in
theorem foldl_deliver (event : DomainEvent) (subscribers : List Subscriber) (delivery : Delivery World Subscriber) :
    let after := subscribers.foldl (deliver interestedIn handle event) delivery
    ∃ calls, after.handled = delivery.handled ++ calls ∧
      calls.map Prod.fst = subscribers.filter (interestedIn · event.type) ∧
      after.failures = delivery.failures + calls.countP fun call => call.2.threw := by
  induction subscribers generalizing delivery with
  | nil => exact ⟨[], by simp, rfl, rfl⟩
  | cons subscriber rest ih =>
    obtain ⟨calls, handled, called, failures⟩ := ih (deliver interestedIn handle event delivery subscriber)
    cases wanted : interestedIn subscriber event.type with
    | false =>
      have skipped : deliver interestedIn handle event delivery subscriber = delivery := by simp [deliver, wanted]
      rw [skipped] at handled failures
      refine ⟨calls, ?_, ?_, ?_⟩
      · rw [List.foldl_cons, skipped, handled]
      · rw [called, List.filter_cons_of_neg (by simp [wanted])]
      · rw [List.foldl_cons, skipped, failures]
    | true =>
      refine ⟨(subscriber, (handle subscriber event delivery.world).2) :: calls, ?_, ?_, ?_⟩
      · rw [List.foldl_cons, handled]
        simp only [deliver, wanted, Bool.not_true, Bool.false_eq_true, ↓reduceIte]
        split <;> simp [*]
      · rw [List.map_cons, called, List.filter_cons_of_pos (by simp [wanted])]
      · rw [List.foldl_cons, failures, List.countP_cons]
        simp only [deliver, wanted, Bool.not_true, Bool.false_eq_true, ↓reduceIte]
        split <;> simp [*, Outcome.threw] <;> omega

theorem dispatcher_dispatch (state : Dispatching World Subscriber) (event : DomainEvent)
    (distinct : state.dispatcher.subscribers.Nodup) :
    ∃ throws, (state.dispatch interestedIn handle event).dispatcher =
      state.dispatcher.dispatch (fun subscriber event => interestedIn subscriber event.type) event throws := by
  obtain ⟨calls, -, called, failures⟩ := foldl_deliver interestedIn handle event state.dispatcher.subscribers
    ⟨state.world, state.dispatcher.failures, []⟩
  have nodup : (calls.map Prod.fst).Nodup := called ▸ distinct.filter _
  -- A subscriber is called once, so that its outcome is a function of the subscriber.
  let throws (subscriber : Subscriber) : Bool := calls.any fun call => call.1 == subscriber && call.2.threw
  have outcome {call : Subscriber × Outcome} (member : call ∈ calls) : throws call.1 = call.2.threw := by
    rw [Bool.eq_iff_iff, List.any_eq_true]
    constructor
    · rintro ⟨other, listed, same⟩
      rw [Bool.and_eq_true, beq_iff_eq] at same
      rw [← List.inj_on_of_nodup_map nodup listed member same.1]
      exact same.2
    · intro threw
      exact ⟨call, member, by simp [threw]⟩
  refine ⟨throws, ?_⟩
  have counted : calls.countP (fun call => call.2.threw) =
      state.dispatcher.subscribers.countP fun subscriber => interestedIn subscriber event.type && throws subscriber := by
    calc calls.countP (fun call => call.2.threw)
      _ = calls.countP (throws ∘ Prod.fst) := List.countP_congr fun call member => by simp [outcome member]
      _ = (state.dispatcher.subscribers.filter (interestedIn · event.type)).countP throws := by
        rw [← called, List.countP_map]
      _ = _ := by
        rw [List.countP_filter]
        exact List.countP_congr fun subscriber _ => by rw [Bool.and_comm]
  simp only [dispatch, EventDispatcher.dispatch, failures, counted]

end Loop

variable {before : List Subscriber}

section Registration

/-- The subscribers are those of the calls so far, in the order of the first call for each. -/
structure Registered (before subscribers : List Subscriber) : Prop where
  mem : ∀ subscriber, subscriber ∈ subscribers ↔ subscriber ∈ before
  order : InOrder before subscribers

theorem InOrder.nodup {subscribers : List Subscriber} (order : InOrder before subscribers) : subscribers.Nodup :=
  order.imp fun earlier same => earlier.ne (congrArg before.idxOf same)

theorem Registered.subscribe {dispatcher : EventDispatcher Subscriber}
    (registered : Registered before dispatcher.subscribers) (subscriber : Subscriber) :
    Registered (before ++ [subscriber]) (dispatcher.subscribe subscriber).subscribers := by
  have kept {other : Subscriber} (listed : other ∈ dispatcher.subscribers) :
      (before ++ [subscriber]).idxOf other = before.idxOf other :=
    List.idxOf_append_of_mem ((registered.mem other).mp listed)
  have order : InOrder (before ++ [subscriber]) dispatcher.subscribers := by
    apply registered.order.imp_of_mem
    intro first second firstListed secondListed earlier
    rwa [kept firstListed, kept secondListed]
  unfold EventDispatcher.subscribe
  split
  · next known =>
    refine ⟨fun other => ?_, order⟩
    rw [registered.mem, List.mem_append, List.mem_singleton]
    exact ⟨.inl, fun either => either.elim id fun same => same ▸ (registered.mem subscriber).mp known⟩
  · next unknown =>
    have absent : subscriber ∉ before := fun listed => unknown ((registered.mem subscriber).mpr listed)
    refine ⟨fun other => ?_, ?_⟩
    · simp [registered.mem]
    · refine List.pairwise_append.mpr ⟨order, List.pairwise_singleton _ _, ?_⟩
      intro first listed last same
      rw [List.mem_singleton.mp same, kept listed, List.idxOf_append_of_notMem absent]
      have inside := List.idxOf_lt_length_of_mem ((registered.mem first).mp listed)
      simp only [List.idxOf_cons_self]
      omega

end Registration

section Runs

variable (interestedIn : Subscriber → EventType → Bool)
  (handle : Subscriber → DomainEvent → World → World × Outcome)

/-- What is known of the state after some calls of `subscribe`. -/
structure Sound (before : List Subscriber) (state : Dispatching World Subscriber) : Prop where
  registered : Registered before state.dispatcher.subscribers
  failures : state.dispatcher.failures = thrown state.history

variable {state : Dispatching World Subscriber}

theorem Sound.subscribe (sound : Sound before state) (subscriber : Subscriber) :
    Sound (before ++ [subscriber]) (state.apply interestedIn handle (.subscribe subscriber)) := by
  refine ⟨sound.registered.subscribe subscriber, ?_⟩
  simp only [apply, EventDispatcher.subscribe]
  split <;> exact sound.failures

theorem Sound.dispatch (sound : Sound before state) (event : DomainEvent) :
    Sound before (state.apply interestedIn handle (.dispatch event)) ∧
      ∃ dispatch, (state.apply interestedIn handle (.dispatch event)).history = state.history ++ [dispatch] ∧
        HandledOnce interestedIn (event, before) dispatch := by
  obtain ⟨calls, handled, called, failures⟩ := foldl_deliver interestedIn handle event
    state.dispatcher.subscribers ⟨state.world, state.dispatcher.failures, []⟩
  rw [List.nil_append] at handled
  refine ⟨⟨sound.registered, ?_⟩, ⟨event, calls⟩, ?_, rfl, fun subscriber => ?_, ?_⟩
  · simp only [apply, Dispatching.dispatch, failures, handled, thrown, List.flatMap_append, List.flatMap_singleton,
      List.countP_append]
    rw [sound.failures, thrown]
  · simp only [apply, Dispatching.dispatch, handled]
  · have nodup : (state.dispatcher.subscribers.filter (interestedIn · event.type)).Nodup :=
      sound.registered.order.nodup.filter _
    simp only [called, nodup.count, List.mem_filter, sound.registered.mem]
  · rw [called]
    exact List.Pairwise.filter _ sound.registered.order

end Runs

end Dispatching

end RealtimeChat.Events
