import RealtimeChat.Jobs.Draining
import Mathlib.Algebra.Group.Action.Defs
import Mathlib.Algebra.Order.BigOperators.Group.Multiset
import Mathlib.Algebra.Order.Ring.Nat

/-! The executor finishes.

The steps of the workers and of the calls under way use up an effort that only a
new call or a spurious wake-up adds to. Where none of them is enabled every
task that was enqueued has been executed.
-/

set_option autoImplicit false

namespace RealtimeChat.Jobs

open Foundation

variable {Task : Type}

def Worker.alert : Worker Task → Nat
  | .ready | .notified | .holding _ | .counting _ => 1
  | .waiting | .exited => 0

def Submitter.alert : Submitter Task → Nat
  | .notifying => 1
  | .arriving _ => 0

def Owner.missing : Owner → Nat
  | .spawning left => left
  | .away | .notifying | .joining | .stopped => 0

def Worker.effort : Worker Task → Nat
  | .waiting | .exited => 0
  | .ready | .notified => 3
  | .counting _ => 4
  | .holding _ => 5

def Submitter.effort : Submitter Task → Nat
  | .notifying => 4
  | .arriving _ => 12

def Critical.effort : Critical Task → Nat
  | .blocking | .checked => 1
  | .testing => 2
  | .pushing _ => 10
  | .submitting _ => 11

def Owner.effort (crew : Nat) : Owner → Nat
  | .spawning left => 4 * left + 1
  | .notifying => 3 * crew + 2
  | .joining => 1
  | .away | .stopped => 0

/-- The steps of the workers and of the calls under way. Spurious wake-ups are
not among them, since nothing bounds their number. -/
def Label.continues : Label Task → Bool
  | .start | .stop | .submit _ | .wakeSpuriously => false
  | .spawn | .notifyAll | .join | .lock _ | .abandon _ | .abandonPush | .notifyOne | .acquire _ | .proceed
  | .execute _ _ | .count _ => true

theorem Owner.missing_of_isFree {owner : Owner} (free : owner.isFree = true) : owner.missing = 0 := by
  cases owner <;> first | rfl | cases free

theorem Worker.alert_le_notify (worker : Worker Task) : worker.alert ≤ worker.notify.alert := by
  cases worker <;> simp [Worker.notify, Worker.alert]

theorem Worker.effort_notify_le (worker : Worker Task) : worker.notify.effort ≤ worker.effort + 3 := by
  cases worker <;> simp [Worker.notify, Worker.effort]

namespace BackgroundExecutor

def alert (executor : BackgroundExecutor Task) : Nat :=
  (executor.workers.map Worker.alert).sum + inside executor.mutex + (executor.submitters.map Submitter.alert).sum +
    executor.owner.missing

def effort (executor : BackgroundExecutor Task) : Nat :=
  (executor.workers.map Worker.effort).sum + (executor.mutex.map Critical.effort).getD 0 +
    (executor.submitters.map Submitter.effort).sum + 5 * executor.tasks.length + executor.owner.effort executor.crew

def Attended (executor : BackgroundExecutor Task) : Prop := executor.tasks ≠ [] → 0 < executor.alert

theorem initial_attended : (initial : BackgroundExecutor Task).Attended := fun queued => absurd rfl queued

structure Sound (executor : BackgroundExecutor Task) : Prop where
  accounted : executor.Accounted
  orderly : executor.Orderly
  attended : executor.Attended

theorem initial_sound : (initial : BackgroundExecutor Task).Sound := ⟨initial_accounted, initial_orderly, initial_attended⟩

variable {executor : BackgroundExecutor Task}

theorem Sound.stopped (sound : executor.Sound) (stopped : executor.owner = .stopped) :
    executor.tasks = [] ∧ executor.executed = executor.enqueued ∧
      executor.completed + executor.failed = executor.enqueued.card := by
  have off := sound.orderly.stopping (.inr (.inr stopped))
  obtain ⟨nobody, empty, -⟩ := sound.orderly.idle off (by rw [stopped]; rfl)
  have none : executor.workers = 0 := Multiset.card_eq_zero.mp (Nat.add_eq_zero_iff.mp nobody).1
  obtain ⟨conserved, counted⟩ := sound.accounted
  simp only [held, none, empty, Multiset.map_zero, Multiset.sum_zero, Multiset.coe_nil, add_zero] at conserved counted
  exact ⟨empty, conserved.symm, counted.trans (congrArg Multiset.card conserved.symm)⟩

theorem Orderly.proceeds (orderly : executor.Orderly) {critical : Critical Task}
    (holder : executor.mutex = some critical) : executor.proceed critical ≠ none := by
  cases critical with
  | submitting | testing =>
    simp only [proceed]
    split <;> simp
  | pushing | blocking => simp [proceed]
  | checked =>
    simp only [proceed]
    split
    · simp
    · next goes =>
      cases tasks : executor.tasks with
      | cons task rest => simp
      | nil =>
        rcases orderly.checked holder with off | queued
        · simp [off, tasks] at goes
        · exact absurd tasks queued

variable [DecidableEq Task]

variable {next final : BackgroundExecutor Task} {label : Label Task} {labels : List (Label Task)}

variable {workerCount : Nat}

theorem Attended.step (attended : executor.Attended)
    (orderly : executor.Orderly) (effect : Effect workerCount executor label next) : next.Attended := by
  intro queued
  cases effect with
  | started free off => exact absurd (orderly.idle off free).2.1 queued
  | alreadyStarted free | stopping free | alreadyStopped free =>
    have before := attended queued
    simp only [alert, Owner.missing_of_isFree free] at before
    exact before
  | staffed owner =>
    have before := attended queued
    simp only [alert, owner] at before
    exact before
  | notifiedAll owner =>
    have before := attended queued
    have more := Multiset.sum_map_le_sum_map _ _ fun worker (_ : worker ∈ executor.workers) => worker.alert_le_notify
    simp only [alert, owner, Owner.missing] at before
    simp only [alert, Owner.missing, Multiset.map_map, Function.comp_def]
    omega
  | joined owner drained =>
    exact absurd (orderly.exits (orderly.left_of_drained owner drained)).2.1 queued
  | submitted task =>
    have before := attended queued
    simp only [alert, Multiset.map_cons, Multiset.sum_cons, Submitter.alert]
    exact Nat.zero_add _ ▸ before
  | locked free arriving =>
    have before := attended queued
    simp only [alert, free, arriving, inside, Multiset.map_cons, Multiset.sum_cons, Submitter.alert] at before
    simp only [alert, inside]
    omega
  | abandoned arriving =>
    have before := attended queued
    simp only [alert, arriving, Multiset.map_cons, Multiset.sum_cons, Submitter.alert, Nat.zero_add] at before
    exact before
  | abandonedPush holder | admitted holder | refused holder =>
    have before := attended queued
    simp only [alert, holder, inside] at before
    exact before
  | notifiedNone notifying none =>
    -- No worker waits and none has left, so that whoever is in the crew is alert.
    have busy : executor.running = true ∨ executor.owner.isFree = false := by
      by_contra! still
      have off : executor.running = false := Bool.not_eq_true _ ▸ still.1
      exact queued (orderly.idle off (Bool.not_eq_false _ ▸ still.2)).2.1
    have awake : ∀ worker ∈ executor.workers, worker.alert = 1 := by
      intro worker listed
      cases worker with
      | waiting => exact absurd listed none
      | exited => exact absurd (orderly.exits listed).2.1 queued
      | ready | notified | holding | counting => rfl
    have all : (executor.workers.map Worker.alert).sum = executor.workers.card := by
      rw [Multiset.map_congr rfl awake, Multiset.map_const', Multiset.sum_replicate, smul_eq_mul, Nat.mul_one]
    simp only [alert, all]
    rcases orderly.staffed busy with some | ⟨left, owner⟩
    · simp only [crew] at some
      omega
    · simp only [owner, Owner.missing]
      omega
  | pushed holder =>
    simp only [alert, Multiset.map_cons, Multiset.sum_cons, Submitter.alert]
    omega
  | acquired | passed | nothing =>
    simp only [alert, inside]
    omega
  | blocked holder => exact absurd (orderly.blocking holder) queued
  | exited _ _ empty => exact absurd empty queued
  | spawned | notifiedOne | wokenSpuriously | taken | executed | countedCompleted | countedFailed =>
    simp only [alert, Multiset.map_cons, Multiset.sum_cons, Worker.alert]
    omega

theorem effort_step (continues : label.continues = true)
    (effect : Effect workerCount executor label next) : next.effort < executor.effort := by
  cases effect with
  | alreadyStarted | started | stopping | alreadyStopped | submitted | wokenSpuriously => cases continues
  | spawned owner =>
    simp only [effort, owner, Owner.effort, Worker.effort, Multiset.map_cons, Multiset.sum_cons]
    omega
  | staffed owner =>
    simp only [effort, owner, Owner.effort]
    omega
  | notifiedAll owner =>
    have more := Multiset.sum_map_le_sum_map _ _ fun worker (_ : worker ∈ executor.workers) => worker.effort_notify_le
    simp only [Multiset.sum_map_add, Multiset.map_const', Multiset.sum_replicate, smul_eq_mul] at more
    simp only [effort, owner, Owner.effort, crew, Multiset.map_map, Function.comp_def]
    omega
  | joined owner =>
    simp only [effort, owner, Owner.effort, Multiset.map_zero, Multiset.sum_zero]
    omega
  | locked free arriving =>
    simp only [effort, free, arriving, crew, inside, Critical.effort, Submitter.effort, Multiset.map_cons, Multiset.sum_cons,
      Option.map_some, Option.map_none, Option.getD_some, Option.getD_none]
    omega
  | abandoned arriving =>
    simp only [effort, arriving, crew, Submitter.effort, Multiset.map_cons, Multiset.sum_cons]
    omega
  | notifiedOne notifying waiting =>
    simp only [effort, notifying, waiting, crew, Worker.effort, Submitter.effort, Multiset.map_cons, Multiset.sum_cons,
      Multiset.card_cons]
    omega
  | notifiedNone notifying =>
    simp only [effort, notifying, crew, Submitter.effort, Multiset.map_cons, Multiset.sum_cons]
    omega
  | acquired free awake there =>
    rcases awake with rfl | rfl <;>
    · simp only [effort, free, there, crew, inside, Critical.effort, Worker.effort, Multiset.map_cons, Multiset.sum_cons,
        Multiset.card_cons, Option.map_some, Option.map_none, Option.getD_some, Option.getD_none, Nat.add_zero]
      omega
  | abandonedPush holder | admitted holder | refused holder | passed holder | nothing holder =>
    simp [effort, holder, crew, inside, Critical.effort]
  | pushed holder =>
    simp only [effort, holder, crew, inside, Critical.effort, Submitter.effort, Multiset.map_cons, Multiset.sum_cons,
      Option.map_some, Option.map_none, Option.getD_some, Option.getD_none, List.length_append, List.length_singleton]
    omega
  | blocked holder | exited holder => simp [effort, holder, crew, inside, Critical.effort, Worker.effort]
  | taken holder first =>
    simp only [effort, holder, first, crew, inside, Critical.effort, Worker.effort, Multiset.map_cons, Multiset.sum_cons,
      Multiset.card_cons, Option.map_some, Option.map_none, Option.getD_some, Option.getD_none, List.length_cons,
      Nat.add_zero]
    omega
  | executed _ there | countedCompleted there | countedFailed there => simp [effort, there, crew, Worker.effort]

theorem run_length_le (continues : ∀ label ∈ labels, label.continues = true)
    (runs : (step workerCount).run executor labels = some final) : labels.length + final.effort ≤ executor.effort := by
  induction labels generalizing executor with
  | nil =>
    cases runs
    simp
  | cons label rest ih =>
    obtain ⟨next, moves, runs⟩ := Step.run_cons.mp runs
    have lower := effort_step (continues label List.mem_cons_self) (step_effect moves)
    have after := ih (fun other member => continues other (List.mem_cons_of_mem _ member)) runs
    rw [List.length_cons]
    omega

def Quiet (workerCount : Nat) (executor : BackgroundExecutor Task) : Prop :=
  ∀ label : Label Task, label.continues = true → step workerCount executor label = none

section Quiet

variable {workerCount : Nat} {executor : BackgroundExecutor Task} (quiet : Quiet workerCount executor)

include quiet

theorem Quiet.mutex (orderly : executor.Orderly) : executor.mutex = none := by
  cases holder : executor.mutex with
  | none => rfl
  | some critical =>
    have stuck := quiet .proceed rfl
    simp only [BackgroundExecutor.step, holder, Option.bind_some] at stuck
    exact absurd stuck (orderly.proceeds holder)

theorem Quiet.asleep (orderly : executor.Orderly) : ∀ worker ∈ executor.workers, worker = .waiting ∨ worker = .exited := by
  intro worker listed
  cases worker with
  | waiting => exact .inl rfl
  | exited => exact .inr rfl
  | ready =>
    have stuck := quiet (.acquire .ready) rfl
    simp [BackgroundExecutor.step, quiet.mutex orderly, listed] at stuck
  | notified =>
    have stuck := quiet (.acquire .notified) rfl
    simp [BackgroundExecutor.step, quiet.mutex orderly, listed] at stuck
  | holding task =>
    have stuck := quiet (.execute task .completed) rfl
    simp [BackgroundExecutor.step, listed] at stuck
  | counting outcome =>
    have stuck := quiet (.count outcome) rfl
    cases outcome <;> simp [BackgroundExecutor.step, listed] at stuck

theorem Quiet.alert_eq_zero (orderly : executor.Orderly) : executor.alert = 0 := by
  have workers : (executor.workers.map Worker.alert).sum = 0 := by
    refine Multiset.sum_eq_zero fun part member => ?_
    obtain ⟨worker, listed, rfl⟩ := Multiset.mem_map.mp member
    rcases quiet.asleep orderly worker listed with rfl | rfl <;> rfl
  have submitters : (executor.submitters.map Submitter.alert).sum = 0 := by
    refine Multiset.sum_eq_zero fun part member => ?_
    obtain ⟨submitter, listed, rfl⟩ := Multiset.mem_map.mp member
    cases submitter with
    | arriving => rfl
    | notifying =>
      have stuck := quiet .notifyOne rfl
      simp only [BackgroundExecutor.step, listed, ↓reduceIte] at stuck
      split at stuck <;> cases stuck
  have owner : executor.owner.missing = 0 := by
    cases found : executor.owner with
    | spawning left =>
      have stuck := quiet .spawn rfl
      cases left <;> simp [BackgroundExecutor.step, found] at stuck
    | away | notifying | joining | stopped => rfl
  rw [alert, workers, submitters, owner, quiet.mutex orderly]
  rfl

theorem Quiet.held_eq_zero (orderly : executor.Orderly) : executor.held = 0 := by
  refine Multiset.sum_eq_zero fun part member => ?_
  obtain ⟨worker, listed, rfl⟩ := Multiset.mem_map.mp member
  rcases quiet.asleep orderly worker listed with rfl | rfl <;> rfl

theorem Quiet.executed_all (accounted : executor.Accounted) (orderly : executor.Orderly) (attended : executor.Attended) :
    executor.executed = executor.enqueued := by
  have empty : executor.tasks = [] := by
    by_contra queued
    exact absurd (quiet.alert_eq_zero orderly) (attended queued).ne'
  rw [accounted.conserved, quiet.held_eq_zero orderly, empty]
  simp

end Quiet

theorem Sound.run (sound : executor.Sound)
    (runs : (BackgroundExecutor.step workerCount).run executor labels = some final) : final.Sound := by
  refine Step.run_invariant Sound (fun holds moves => ?_) sound runs
  have effect := step_effect moves
  exact ⟨holds.accounted.step effect, holds.orderly.step effect, holds.attended.step holds.orderly effect⟩

/-- Enqueued tasks are queued, in the hands of a worker or executed, each in one
place. When `stop` has returned all have been executed and the counters show them.
What is left to do from any state takes a bounded number of steps, and when it is
done every task that was enqueued has been executed. -/
theorem tasks_executed_once (workerCount : Nat) {labels : List (Label Task)} {executor : BackgroundExecutor Task}
    (runs : (step workerCount).run initial labels = some executor) :
    executor.enqueued = executor.executed + executor.held + executor.tasks ∧
    (executor.owner = .stopped → executor.tasks = [] ∧ executor.executed = executor.enqueued ∧
      executor.completed + executor.failed = executor.enqueued.card) ∧
    ∀ (rest : List (Label Task)) (final : BackgroundExecutor Task), (∀ label ∈ rest, label.continues = true) →
      (step workerCount).run executor rest = some final →
      rest.length ≤ executor.effort ∧ (Quiet workerCount final → final.executed = final.enqueued) := by
  have sound := initial_sound.run runs
  refine ⟨sound.accounted.conserved, sound.stopped, fun rest final continues goes => ⟨?_, fun quiet => ?_⟩⟩
  · have bound := run_length_le continues goes
    omega
  · have ended := sound.run goes
    exact quiet.executed_all ended.accounted ended.orderly ended.attended

/-- The first task throws. The second one is admitted before the flag is cleared and pushed after it. -/
def lateTask : List (Label Nat) :=
  [.start, .spawn, .spawn, .submit 1, .lock 1, .proceed, .proceed, .notifyOne, .acquire .ready, .proceed, .submit 2,
    .proceed, .lock 2, .proceed, .stop, .execute 1 .failed, .notifyAll, .proceed, .notifyOne, .count .failed,
    .acquire .ready, .proceed, .proceed, .execute 2 .completed, .count .completed, .acquire .ready, .proceed, .proceed,
    .join]

theorem tasks_executed_once_late : ∃ executor : BackgroundExecutor Nat, (step 1).run initial lateTask = some executor ∧
    executor.owner = .stopped ∧ executor.failed = 1 ∧ executor.enqueued.card = 2 ∧ executor.tasks = [] ∧
    executor.executed = executor.enqueued ∧ executor.completed + executor.failed = executor.enqueued.card := by
  have reached : ((step 1).run initial lateTask).any (fun executor =>
      executor.owner = .stopped ∧ executor.failed = 1 ∧ executor.enqueued.card = 2) := by decide +kernel
  obtain ⟨executor, runs, facts⟩ := (Option.any_eq_true _ _).mp reached
  obtain ⟨stopped, failed, enqueued⟩ := of_decide_eq_true facts
  exact ⟨executor, runs, stopped, failed, enqueued, (tasks_executed_once 1 runs).2.1 stopped⟩

end BackgroundExecutor

end RealtimeChat.Jobs
