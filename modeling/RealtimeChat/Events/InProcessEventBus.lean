import RealtimeChat.Jobs.Draining

/-! The asynchronous event bus and what its counters show.

Publishing counts the event and submits a task that dispatches it; an exception
of `submit` is counted as a drop. The executor is shared with other jobs. It
refuses tasks silently while it is stopped, and the bus does not learn of it.
-/

set_option autoImplicit false

namespace RealtimeChat.Events

open Foundation Jobs

/-- A task of the executor: the dispatch of an event, or a job of somebody else. -/
inductive Task (Event Job : Type) where
  | dispatch (event : Event)
  | other (job : Job)
  deriving DecidableEq, Repr

def Task.events {Event Job : Type} : Task Event Job → Nat
  | .dispatch _ => 1
  | .other _ => 0

structure EventDispatcher (Subscriber : Type) where
  subscribers : List Subscriber
  dispatched : Nat
  failures : Nat

variable {Event Job Subscriber : Type}

/-- A second registration of a subscriber is ignored. -/
def EventDispatcher.subscribe [DecidableEq Subscriber] (dispatcher : EventDispatcher Subscriber) (subscriber : Subscriber) :
    EventDispatcher Subscriber :=
  if subscriber ∈ dispatcher.subscribers then dispatcher
  else { dispatcher with subscribers := dispatcher.subscribers ++ [subscriber] }

/-- The subscribers are independent of each other: one that throws is counted and the next one runs. -/
def EventDispatcher.dispatch (interestedIn : Subscriber → Event → Bool) (dispatcher : EventDispatcher Subscriber)
    (event : Event) (throws : Subscriber → Bool) : EventDispatcher Subscriber :=
  { dispatcher with
    dispatched := dispatcher.dispatched + 1
    failures := dispatcher.failures +
      dispatcher.subscribers.countP fun subscriber => interestedIn subscriber event && throws subscriber }

structure InProcessEventBus (Event Job Subscriber : Type) where
  published : Nat
  dropped : Nat
  dispatcher : EventDispatcher Subscriber
  executor : BackgroundExecutor (Task Event Job)

namespace InProcessEventBus

inductive Label (Event Job Subscriber : Type) where
  | subscribe (subscriber : Subscriber)
  | publish (event : Event)
  /-- A worker runs the task of an event. The dispatcher may fail to get its lock. -/
  | dispatch (event : Event) (locked : Bool) (throws : Subscriber → Bool)
  /-- Any other step of the executor, for an event or for another job. -/
  | work (label : Jobs.Label (Task Event Job))

def reserved : Jobs.Label (Task Event Job) → Bool
  | .submit (.dispatch _) | .execute (.dispatch _) _ => true
  | _ => false

/-- The calls of `publish` to which `submit` throws. -/
def thrown (executor : BackgroundExecutor (Task Event Job)) : Jobs.Label (Task Event Job) → Nat
  | .abandon (.dispatch _) => 1
  | .abandonPush =>
    match executor.mutex with
    | some (.pushing (.dispatch _)) => 1
    | _ => 0
  | _ => 0

def initial : InProcessEventBus Event Job Subscriber := ⟨0, 0, ⟨[], 0, 0⟩, .initial⟩

/-- The events of calls of `publish` under way, of queued tasks and of tasks that a worker is about to run. -/
def inFlight (bus : InProcessEventBus Event Job Subscriber) : Nat := bus.executor.pending Task.events

def Balanced (bus : InProcessEventBus Event Job Subscriber) : Prop :=
  bus.published = bus.dispatcher.dispatched + bus.inFlight + bus.dropped

/-- The events that a step of the executor turns away: `submit` finds that it is not running. -/
def turnedAway (executor : BackgroundExecutor (Task Event Job)) : Jobs.Label (Task Event Job) → Nat
  | .proceed =>
    match executor.mutex with
    | some (.submitting (.dispatch _)) => if executor.running then 0 else 1
    | _ => 0
  | _ => 0

/-- The executor does not turn an event away, and the dispatcher gets its lock. -/
def keeps (bus : InProcessEventBus Event Job Subscriber) : Label Event Job Subscriber → Bool
  | .work label => turnedAway bus.executor label = 0
  | .dispatch _ locked _ => locked
  | .subscribe _ | .publish _ => true

theorem leaving_work {executor : BackgroundExecutor (Task Event Job)} {label : Jobs.Label (Task Event Job)}
    (own : reserved label = false) :
    executor.leaving Task.events label = thrown executor label + turnedAway executor label := by
  cases label with
  | abandon task => cases task <;> rfl
  | execute task outcome =>
    cases task with
    | dispatch event => cases own
    | other job => rfl
  | abandonPush =>
    simp only [BackgroundExecutor.leaving, thrown, turnedAway]
    rcases executor.mutex with _ | (_ | task | _ | _ | _)
    case pushing => cases task <;> rfl
    all_goals rfl
  | proceed =>
    simp only [BackgroundExecutor.leaving, thrown, turnedAway]
    rcases executor.mutex with _ | (task | _ | _ | _ | _)
    case submitting => cases task <;> cases executor.running <;> rfl
    all_goals rfl
  | start | spawn | stop | notifyAll | join | submit | lock | notifyOne | acquire | wakeSpuriously | count => rfl

theorem entering_work {label : Jobs.Label (Task Event Job)} (own : reserved label = false) :
    BackgroundExecutor.entering Task.events label = 0 := by
  cases label with
  | submit task =>
    cases task with
    | dispatch event => cases own
    | other job => rfl
  | _ => rfl

variable [DecidableEq Event] [DecidableEq Job] [DecidableEq Subscriber]

def step (interestedIn : Subscriber → Event → Bool) (workerCount : Nat) :
    Step (InProcessEventBus Event Job Subscriber) (Label Event Job Subscriber) := fun bus label =>
  match label with
  | .subscribe subscriber => some { bus with dispatcher := bus.dispatcher.subscribe subscriber }
  | .publish event =>
    (BackgroundExecutor.step workerCount bus.executor (.submit (.dispatch event))).map fun executor =>
      { bus with published := bus.published + 1, executor := executor }
  | .dispatch event locked throws =>
    -- The task never throws: the dispatcher catches what its subscribers throw, and a failing lock.
    (BackgroundExecutor.step workerCount bus.executor (.execute (.dispatch event) .completed)).map fun executor =>
      { bus with
        executor := executor
        dispatcher := if locked then bus.dispatcher.dispatch interestedIn event throws else bus.dispatcher }
  | .work label =>
    if reserved label then none
    else (BackgroundExecutor.step workerCount bus.executor label).map fun executor =>
      { bus with executor := executor, dropped := bus.dropped + thrown bus.executor label }

theorem balanced_step {interestedIn : Subscriber → Event → Bool} {workerCount : Nat}
    {bus next : InProcessEventBus Event Job Subscriber} {label : Label Event Job Subscriber} (balanced : bus.Balanced)
    (moves : step interestedIn workerCount bus label = some next) : next.Balanced ↔ keeps bus label = true := by
  simp only [Balanced, inFlight] at balanced ⊢
  cases label with
  | subscribe subscriber =>
    cases moves
    simp only [EventDispatcher.subscribe, keeps, iff_true]
    split <;> exact balanced
  | publish event =>
    simp only [step, Option.map_eq_some_iff] at moves
    obtain ⟨executor, submits, rfl⟩ := moves
    have change := BackgroundExecutor.pending_step Task.events (BackgroundExecutor.step_effect submits)
    simp only [BackgroundExecutor.leaving, BackgroundExecutor.entering, Task.events] at change
    simp only [keeps, iff_true]
    omega
  | dispatch event locked throws =>
    simp only [step, Option.map_eq_some_iff] at moves
    obtain ⟨executor, executes, rfl⟩ := moves
    have change := BackgroundExecutor.pending_step Task.events (BackgroundExecutor.step_effect executes)
    simp only [BackgroundExecutor.leaving, BackgroundExecutor.entering, Task.events] at change
    cases locked with
    | true =>
      simp only [keeps, EventDispatcher.dispatch, ↓reduceIte, iff_true]
      omega
    | false =>
      simp only [keeps, Bool.false_eq_true, ↓reduceIte, iff_false]
      omega
  | work label =>
    simp only [step] at moves
    split at moves
    · cases moves
    · next foreign =>
      obtain ⟨executor, works, rfl⟩ := Option.map_eq_some_iff.mp moves
      have own : reserved label = false := Bool.not_eq_true _ ▸ foreign
      have change := BackgroundExecutor.pending_step Task.events (BackgroundExecutor.step_effect works)
      rw [leaving_work own, entering_work own] at change
      simp only [keeps, decide_eq_true_eq]
      omega

/-- The counters and the events in flight make up for all published events throughout a run exactly
if no event is turned away by a stopped executor, and no dispatch fails to lock. -/
theorem events_counted_iff {interestedIn : Subscriber → Event → Bool} {workerCount : Nat}
    {labels : List (Label Event Job Subscriber)} {final : InProcessEventBus Event Job Subscriber}
    (runs : (step interestedIn workerCount).run initial labels = some final) :
    (step interestedIn workerCount).Always Balanced initial labels ↔
      (step interestedIn workerCount).Guarded (fun bus label => keeps bus label = true) initial labels :=
  Step.always_iff_guarded (fun _ => True) (fun _ _ _ => trivial) (fun _ balanced moves => balanced_step balanced moves)
    trivial rfl runs

/-- An event is published and dispatched, and another one is dropped because the queue cannot grow. -/
def keptRun : List (Label Nat Nat Nat) :=
  [.subscribe 0, .work .start, .work .spawn, .publish 1, .work (.lock (.dispatch 1)), .work .proceed, .work .proceed,
    .publish 2, .work (.lock (.dispatch 2)), .work .proceed, .work .abandonPush, .work (.acquire .ready), .work .proceed,
    .work .proceed, .dispatch 1 true fun _ => true]

theorem events_counted_iff_kept :
    ∃ final, (step (fun _ _ => true) 1).run initial keptRun = some final ∧ final.dispatcher.dispatched = 1 ∧
      final.dropped = 1 ∧ (step (fun _ _ => true) 1).Always Balanced initial keptRun := by
  have reached : ((step (fun _ _ => true) 1).run initial keptRun).any (fun final =>
      final.dispatcher.dispatched = 1 ∧ final.dropped = 1) := by decide +kernel
  obtain ⟨final, runs, counts⟩ := (Option.any_eq_true _ _).mp reached
  obtain ⟨dispatched, dropped⟩ := of_decide_eq_true counts
  exact ⟨final, runs, dispatched, dropped, (events_counted_iff runs).mpr (by decide +kernel)⟩

def earlyEvent : List (Label Nat Nat Nat) := [.publish 1, .work (.lock (.dispatch 1)), .work .proceed]

theorem early_event_lost :
    ∃ final, (step (fun _ _ => true) 1).run initial earlyEvent = some final ∧ final.published = 1 ∧
      final.dispatcher.dispatched = 0 ∧ final.inFlight = 0 ∧ final.dropped = 0 := by
  have reached : ((step (fun _ _ => true) 1).run initial earlyEvent).any (fun final =>
      final.published = 1 ∧ final.dispatcher.dispatched = 0 ∧ final.inFlight = 0 ∧ final.dropped = 0) := by decide +kernel
  obtain ⟨final, runs, counts⟩ := (Option.any_eq_true _ _).mp reached
  exact ⟨final, runs, of_decide_eq_true counts⟩

end InProcessEventBus

end RealtimeChat.Events
