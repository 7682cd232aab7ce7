import RealtimeChat.Foundation.Run
import Mathlib.Data.Multiset.AddSub
import Mathlib.Data.Multiset.Filter

/-! The background executor.

Workers take tasks from a queue under a mutex and wait on a condition variable
when there are none. `submit` reads the running flag and pushes under the mutex;
`stop` clears the flag and notifies without it, and joins the workers.

A step is an acquisition of the mutex, an access to the flag or to a counter, a
notification or the execution of a task. What else is done under the mutex is
done in the step that releases it. A call of `submit` may throw before it has the
mutex, or because the queue cannot grow. One thread calls `start` and `stop`; any number
of threads call `submit`. A thread that holds the mutex is not among the others,
so that no two threads hold it.
-/

set_option autoImplicit false

namespace RealtimeChat.Jobs

open Foundation

inductive Outcome where
  | completed
  | failed
  deriving DecidableEq, Repr

/-- A worker outside the mutex. One that waits has to be notified first. -/
inductive Worker (Task : Type) where
  | ready
  | waiting
  | notified
  | holding (task : Task)
  | counting (outcome : Outcome)
  | exited
  deriving DecidableEq, Repr

/-- A call of `submit` outside the mutex. -/
inductive Submitter (Task : Type) where
  | arriving (task : Task)
  | notifying
  deriving DecidableEq, Repr

inductive Critical (Task : Type) where
  | submitting (task : Task)
  | pushing (task : Task)
  | testing
  | blocking
  | checked
  deriving DecidableEq, Repr

inductive Owner where
  | away
  | spawning (left : Nat)
  | notifying
  | joining
  | stopped
  deriving DecidableEq, Repr

/-- `enqueued`, `refused` and `executed` keep what has become of the tasks. -/
structure BackgroundExecutor (Task : Type) where
  running : Bool
  tasks : List Task
  completed : Nat
  failed : Nat
  mutex : Option (Critical Task)
  workers : Multiset (Worker Task)
  submitters : Multiset (Submitter Task)
  owner : Owner
  enqueued : Multiset Task
  refused : Multiset Task
  executed : Multiset Task

inductive Label (Task : Type) where
  | start
  | spawn
  | stop
  | notifyAll
  | join
  | submit (task : Task)
  | lock (task : Task)
  | abandon (task : Task)
  | abandonPush
  | notifyOne
  | acquire (worker : Worker Task)
  | wakeSpuriously
  | proceed
  | execute (task : Task) (outcome : Outcome)
  | count (outcome : Outcome)
  deriving DecidableEq, Repr

variable {Task : Type}

/-- A worker whose wait is notified wakes up; the others are as they were. -/
def Worker.notify : Worker Task → Worker Task
  | .waiting => .notified
  | worker => worker

def Owner.isFree : Owner → Bool
  | .away | .stopped => true
  | .spawning _ | .notifying | .joining => false

variable [DecidableEq Task]

namespace BackgroundExecutor

def initial : BackgroundExecutor Task := ⟨false, [], 0, 0, none, 0, 0, .away, 0, 0, 0⟩

def shift (executor : BackgroundExecutor Task) (old new : Worker Task) : BackgroundExecutor Task :=
  { executor with workers := new ::ₘ executor.workers.erase old }

/-- The constructor takes no workers for one. -/
def population (workerCount : Nat) : Nat := if workerCount = 0 then 1 else workerCount

def proceed (executor : BackgroundExecutor Task) : Critical Task → Option (BackgroundExecutor Task)
  | .submitting task =>
    if executor.running then some { executor with mutex := some (.pushing task) }
    else some { executor with mutex := none, refused := task ::ₘ executor.refused }
  | .pushing task => some { executor with
      mutex := none
      tasks := executor.tasks ++ [task]
      enqueued := task ::ₘ executor.enqueued
      submitters := .notifying ::ₘ executor.submitters }
  | .testing =>
    if !executor.running || !executor.tasks.isEmpty then some { executor with mutex := some .checked }
    else some { executor with mutex := some .blocking }
  | .blocking => some { executor with mutex := none, workers := .waiting ::ₘ executor.workers }
  | .checked =>
    if !executor.running && executor.tasks.isEmpty then
      some { executor with mutex := none, workers := .exited ::ₘ executor.workers }
    else
      match executor.tasks with
      | task :: rest =>
        some { executor with mutex := none, tasks := rest, workers := .holding task ::ₘ executor.workers }
      | [] => none

def drained (executor : BackgroundExecutor Task) : Bool :=
  executor.workers.filter (· ≠ .exited) = 0 &&
    match executor.mutex with
    | none | some (.submitting _) | some (.pushing _) => true
    | some .testing | some .blocking | some .checked => false

def step (workerCount : Nat) : Step (BackgroundExecutor Task) (Label Task) := fun executor label =>
  match label with
  | .start =>
    if executor.owner.isFree then
      if executor.running then some { executor with owner := .away }
      else some { executor with running := true, owner := .spawning (population workerCount) }
    else none
  | .spawn =>
    match executor.owner with
    | .spawning (left + 1) => some { executor with owner := .spawning left, workers := .ready ::ₘ executor.workers }
    | .spawning 0 => some { executor with owner := .away }
    | _ => none
  | .stop =>
    if executor.owner.isFree then
      if executor.running then some { executor with running := false, owner := .notifying }
      else some { executor with owner := .stopped }
    else none
  | .notifyAll =>
    match executor.owner with
    | .notifying => some { executor with owner := .joining, workers := executor.workers.map Worker.notify }
    | _ => none
  | .join =>
    if executor.owner = .joining && executor.drained then some { executor with owner := .stopped, workers := 0 } else none
  | .submit task => some { executor with submitters := .arriving task ::ₘ executor.submitters }
  | .lock task =>
    if executor.mutex = none && .arriving task ∈ executor.submitters then
      some { executor with
        mutex := some (.submitting task)
        submitters := executor.submitters.erase (.arriving task) }
    else none
  | .abandon task =>
    if .arriving task ∈ executor.submitters then
      some { executor with submitters := executor.submitters.erase (.arriving task) }
    else none
  | .abandonPush =>
    match executor.mutex with
    | some (.pushing _) => some { executor with mutex := none }
    | _ => none
  | .notifyOne =>
    if .notifying ∈ executor.submitters then
      let notified := { executor with submitters := executor.submitters.erase .notifying }
      if .waiting ∈ executor.workers then some (notified.shift .waiting .notified) else some notified
    else none
  | .acquire worker =>
    if executor.mutex = none && (worker = .ready || worker = .notified) && worker ∈ executor.workers then
      some { executor with mutex := some .testing, workers := executor.workers.erase worker }
    else none
  | .wakeSpuriously => if .waiting ∈ executor.workers then some (executor.shift .waiting .notified) else none
  | .proceed => executor.mutex.bind executor.proceed
  | .execute task outcome =>
    if .holding task ∈ executor.workers then
      some { executor.shift (.holding task) (.counting outcome) with executed := task ::ₘ executor.executed }
    else none
  | .count outcome =>
    if .counting outcome ∈ executor.workers then
      match outcome with
      | .completed => some { executor.shift (.counting .completed) .ready with completed := executor.completed + 1 }
      | .failed => some { executor.shift (.counting .failed) .ready with failed := executor.failed + 1 }
    else none

section Effects

variable (workerCount : Nat) (executor : BackgroundExecutor Task)

inductive Effect : Label Task → BackgroundExecutor Task → Prop where
  | alreadyStarted (free : executor.owner.isFree = true) (running : executor.running = true) :
      Effect .start { executor with owner := .away }
  | started (free : executor.owner.isFree = true) (stopped : executor.running = false) :
      Effect .start { executor with running := true, owner := .spawning (population workerCount) }
  | spawned {left : Nat} (owner : executor.owner = .spawning (left + 1)) :
      Effect .spawn { executor with owner := .spawning left, workers := .ready ::ₘ executor.workers }
  | staffed (owner : executor.owner = .spawning 0) : Effect .spawn { executor with owner := .away }
  | stopping (free : executor.owner.isFree = true) (running : executor.running = true) :
      Effect .stop { executor with running := false, owner := .notifying }
  | alreadyStopped (free : executor.owner.isFree = true) (stopped : executor.running = false) :
      Effect .stop { executor with owner := .stopped }
  | notifiedAll (owner : executor.owner = .notifying) :
      Effect .notifyAll { executor with owner := .joining, workers := executor.workers.map Worker.notify }
  | joined (owner : executor.owner = .joining) (drained : executor.drained = true) :
      Effect .join { executor with owner := .stopped, workers := 0 }
  | submitted (task : Task) :
      Effect (.submit task) { executor with submitters := .arriving task ::ₘ executor.submitters }
  | locked {task : Task} {others : Multiset (Submitter Task)} (free : executor.mutex = none)
      (arriving : executor.submitters = .arriving task ::ₘ others) :
      Effect (.lock task) { executor with mutex := some (.submitting task), submitters := others }
  | abandoned {task : Task} {others : Multiset (Submitter Task)}
      (arriving : executor.submitters = .arriving task ::ₘ others) :
      Effect (.abandon task) { executor with submitters := others }
  | abandonedPush {task : Task} (holder : executor.mutex = some (.pushing task)) :
      Effect .abandonPush { executor with mutex := none }
  | notifiedOne {callers : Multiset (Submitter Task)} {others : Multiset (Worker Task)}
      (notifying : executor.submitters = .notifying ::ₘ callers) (waiting : executor.workers = .waiting ::ₘ others) :
      Effect .notifyOne { executor with submitters := callers, workers := .notified ::ₘ others }
  | notifiedNone {callers : Multiset (Submitter Task)} (notifying : executor.submitters = .notifying ::ₘ callers)
      (none : .waiting ∉ executor.workers) :
      Effect .notifyOne { executor with submitters := callers }
  | acquired {worker : Worker Task} {others : Multiset (Worker Task)} (free : executor.mutex = none)
      (awake : worker = .ready ∨ worker = .notified) (there : executor.workers = worker ::ₘ others) :
      Effect (.acquire worker) { executor with mutex := some .testing, workers := others }
  | wokenSpuriously {others : Multiset (Worker Task)} (waiting : executor.workers = .waiting ::ₘ others) :
      Effect .wakeSpuriously { executor with workers := .notified ::ₘ others }
  | admitted {task : Task} (holder : executor.mutex = some (.submitting task)) (running : executor.running = true) :
      Effect .proceed { executor with mutex := some (.pushing task) }
  | refused {task : Task} (holder : executor.mutex = some (.submitting task)) (stopped : executor.running = false) :
      Effect .proceed { executor with mutex := none, refused := task ::ₘ executor.refused }
  | pushed {task : Task} (holder : executor.mutex = some (.pushing task)) :
      Effect .proceed { executor with
        mutex := none
        tasks := executor.tasks ++ [task]
        enqueued := task ::ₘ executor.enqueued
        submitters := .notifying ::ₘ executor.submitters }
  | passed (holder : executor.mutex = some .testing) (holds : executor.running = false ∨ executor.tasks ≠ []) :
      Effect .proceed { executor with mutex := some .checked }
  | nothing (holder : executor.mutex = some .testing) (running : executor.running = true) (empty : executor.tasks = []) :
      Effect .proceed { executor with mutex := some .blocking }
  | blocked (holder : executor.mutex = some .blocking) :
      Effect .proceed { executor with mutex := none, workers := .waiting ::ₘ executor.workers }
  | exited (holder : executor.mutex = some .checked) (stopped : executor.running = false) (empty : executor.tasks = []) :
      Effect .proceed { executor with mutex := none, workers := .exited ::ₘ executor.workers }
  | taken {task : Task} {rest : List Task} (holder : executor.mutex = some .checked) (first : executor.tasks = task :: rest) :
      Effect .proceed { executor with mutex := none, tasks := rest, workers := .holding task ::ₘ executor.workers }
  | executed {task : Task} {others : Multiset (Worker Task)} (outcome : Outcome)
      (holding : executor.workers = .holding task ::ₘ others) :
      Effect (.execute task outcome)
        { executor with workers := .counting outcome ::ₘ others, executed := task ::ₘ executor.executed }
  | countedCompleted {others : Multiset (Worker Task)} (counting : executor.workers = .counting .completed ::ₘ others) :
      Effect (.count .completed) { executor with workers := .ready ::ₘ others, completed := executor.completed + 1 }
  | countedFailed {others : Multiset (Worker Task)} (counting : executor.workers = .counting .failed ::ₘ others) :
      Effect (.count .failed) { executor with workers := .ready ::ₘ others, failed := executor.failed + 1 }

end Effects

variable {workerCount : Nat} {executor next : BackgroundExecutor Task}

theorem proceed_effect {critical : Critical Task} (holder : executor.mutex = some critical)
    (moves : executor.proceed critical = some next) : Effect workerCount executor .proceed next := by
  cases critical with
  | submitting task =>
    simp only [proceed] at moves
    split at moves <;> cases moves
    · next running => exact .admitted holder running
    · next stopped => exact .refused holder (Bool.not_eq_true _ ▸ stopped)
  | pushing task =>
    cases moves
    exact .pushed holder
  | testing =>
    simp only [proceed] at moves
    split at moves <;> cases moves
    · next holds => exact .passed holder (by simpa using holds)
    · next fails =>
      simp only [Bool.or_eq_true, Bool.not_eq_true', not_or, Bool.not_eq_false, List.isEmpty_iff] at fails
      exact .nothing holder fails.1 fails.2
  | blocking =>
    cases moves
    exact .blocked holder
  | checked =>
    simp only [proceed] at moves
    split at moves
    · next drained =>
      cases moves
      simp only [Bool.and_eq_true, Bool.not_eq_true', List.isEmpty_iff] at drained
      exact .exited holder drained.1 drained.2
    · split at moves <;> cases moves
      next first => exact .taken holder first

theorem step_effect {label : Label Task} (moves : step workerCount executor label = some next) :
    Effect workerCount executor label next := by
  cases label with
  | start =>
    simp only [step] at moves
    split at moves
    · next free =>
      split at moves <;> cases moves
      · next running => exact .alreadyStarted free running
      · next stopped => exact .started free (Bool.not_eq_true _ ▸ stopped)
    · cases moves
  | spawn =>
    simp only [step] at moves
    split at moves <;> cases moves
    · exact .spawned ‹_›
    · exact .staffed ‹_›
  | stop =>
    simp only [step] at moves
    split at moves
    · next free =>
      split at moves <;> cases moves
      · next running => exact .stopping free running
      · next stopped => exact .alreadyStopped free (Bool.not_eq_true _ ▸ stopped)
    · cases moves
  | notifyAll =>
    simp only [step] at moves
    split at moves <;> cases moves
    exact .notifiedAll ‹_›
  | join =>
    simp only [step, Bool.and_eq_true, decide_eq_true_eq] at moves
    split at moves <;> cases moves
    next ready => exact .joined ready.1 ready.2
  | submit task =>
    cases moves
    exact .submitted task
  | lock task =>
    simp only [step, Bool.and_eq_true, decide_eq_true_eq] at moves
    split at moves <;> cases moves
    next ready => exact .locked ready.1 (Multiset.cons_erase ready.2).symm
  | abandon task =>
    simp only [step] at moves
    split at moves <;> cases moves
    next arriving => exact .abandoned (Multiset.cons_erase arriving).symm
  | abandonPush =>
    simp only [step] at moves
    split at moves <;> cases moves
    exact .abandonedPush ‹_›
  | notifyOne =>
    simp only [step] at moves
    split at moves
    · next notifying =>
      split at moves <;> cases moves
      · next waiting => exact .notifiedOne (Multiset.cons_erase notifying).symm (Multiset.cons_erase waiting).symm
      · next none => exact .notifiedNone (Multiset.cons_erase notifying).symm none
    · cases moves
  | acquire worker =>
    simp only [step, Bool.and_eq_true, Bool.or_eq_true, decide_eq_true_eq] at moves
    split at moves <;> cases moves
    next ready => exact .acquired ready.1.1 ready.1.2 (Multiset.cons_erase ready.2).symm
  | wakeSpuriously =>
    simp only [step] at moves
    split at moves <;> cases moves
    next waiting => exact .wokenSpuriously (Multiset.cons_erase waiting).symm
  | proceed =>
    obtain ⟨critical, holder, moves⟩ := Option.bind_eq_some_iff.mp moves
    exact proceed_effect holder moves
  | execute task outcome =>
    simp only [step] at moves
    split at moves <;> cases moves
    next holding => exact .executed outcome (Multiset.cons_erase holding).symm
  | count outcome =>
    simp only [step] at moves
    split at moves
    · next counting =>
      cases outcome <;> cases moves
      · exact .countedCompleted (Multiset.cons_erase counting).symm
      · exact .countedFailed (Multiset.cons_erase counting).symm
    · cases moves

end BackgroundExecutor

end RealtimeChat.Jobs
