import RealtimeChat.Jobs.BackgroundExecutor
import Mathlib.Algebra.BigOperators.Group.Multiset.Basic
import Mathlib.Algebra.GroupWithZero.Nat
import Mathlib.Algebra.Order.Group.Multiset

/-! Every task that is enqueued is executed, once.

A task is queued, held by a worker or executed, and in one of these places only.
The running flag is cleared outside the mutex; what makes up for it is that a
worker leaves only when it finds the flag cleared and the queue empty while it
holds the mutex, so that no push can come after it.
-/

set_option autoImplicit false

namespace RealtimeChat.Jobs

open Foundation

variable {Task : Type}

def Worker.load : Worker Task → Multiset Task
  | .holding task => {task}
  | .ready | .waiting | .notified | .counting _ | .exited => 0

def Worker.uncounted : Worker Task → Nat
  | .counting _ => 1
  | .ready | .waiting | .notified | .holding _ | .exited => 0

@[simp] theorem Worker.load_notify (worker : Worker Task) : worker.notify.load = worker.load := by
  cases worker <;> rfl

@[simp] theorem Worker.uncounted_notify (worker : Worker Task) : worker.notify.uncounted = worker.uncounted := by
  cases worker <;> rfl

theorem Worker.eq_exited_of_notify (worker : Worker Task) (leaves : worker.notify = .exited) : worker = .exited := by
  cases worker <;> first | rfl | cases leaves

namespace BackgroundExecutor

def held (executor : BackgroundExecutor Task) : Multiset Task := (executor.workers.map Worker.load).sum

/-- Where the tasks are, and what the counters show of them. -/
structure Accounted (executor : BackgroundExecutor Task) : Prop where
  conserved : executor.enqueued = executor.executed + executor.held + executor.tasks
  counted : executor.completed + executor.failed + (executor.workers.map Worker.uncounted).sum =
    executor.executed.card

theorem initial_accounted : (initial : BackgroundExecutor Task).Accounted := ⟨rfl, rfl⟩

theorem sum_of_exited {M : Type} [AddCommMonoid M] {workers : Multiset (Worker Task)} {amount : Worker Task → M}
    (exited : ∀ worker ∈ workers, worker = .exited) (nothing : amount .exited = 0) : (workers.map amount).sum = 0 := by
  refine Multiset.sum_eq_zero fun part member => ?_
  obtain ⟨worker, listed, rfl⟩ := Multiset.mem_map.mp member
  rw [exited worker listed, nothing]

def inside : Option (Critical Task) → Nat
  | some .testing | some .blocking | some .checked => 1
  | none | some (.submitting _) | some (.pushing _) => 0

def crew (executor : BackgroundExecutor Task) : Nat := executor.workers.card + inside executor.mutex

def NoPush (executor : BackgroundExecutor Task) : Prop := ∀ task, executor.mutex ≠ some (.pushing task)

structure Orderly (executor : BackgroundExecutor Task) : Prop where
  exits : .exited ∈ executor.workers → executor.running = false ∧ executor.tasks = [] ∧ executor.NoPush
  blocking : executor.mutex = some .blocking → executor.tasks = []
  checked : executor.mutex = some .checked → executor.running = false ∨ executor.tasks ≠ []
  starting : ∀ left, executor.owner = .spawning left → executor.running = true
  stopping : executor.owner = .notifying ∨ executor.owner = .joining ∨ executor.owner = .stopped → executor.running = false
  idle : executor.running = false → executor.owner.isFree = true →
    executor.crew = 0 ∧ executor.tasks = [] ∧ executor.NoPush
  staffed : executor.running = true ∨ executor.owner.isFree = false →
    0 < executor.crew ∨ ∃ left, executor.owner = .spawning (left + 1)

variable {executor next : BackgroundExecutor Task} {workerCount : Nat} {label : Label Task}

theorem Orderly.crew_pos (orderly : executor.Orderly)
    (owner : executor.owner = .notifying ∨ executor.owner = .joining) : 0 < executor.crew := by
  rcases owner with owner | owner <;>
  · refine (orderly.staffed (.inr (by rw [owner]; rfl))).resolve_right fun ⟨left, other⟩ => ?_
    cases owner.symm.trans other

theorem initial_orderly : (initial : BackgroundExecutor Task).Orderly where
  exits member := absurd member (Multiset.notMem_zero _)
  blocking holder := nomatch holder
  checked holder := nomatch holder
  starting _ owner := nomatch owner
  stopping owner := by rcases owner with owner | owner | owner <;> cases owner
  idle _ _ := ⟨rfl, rfl, fun _ holder => nomatch holder⟩
  staffed any := by rcases any with any | any <;> cases any

theorem Orderly.of_still (orderly : executor.Orderly) (running : next.running = executor.running)
    (tasks : next.tasks = executor.tasks) (owner : next.owner = executor.owner) (crew : next.crew = executor.crew)
    (exited : .exited ∈ next.workers → .exited ∈ executor.workers) (noPush : executor.NoPush → next.NoPush)
    (blocking : next.mutex = some .blocking → executor.tasks = [])
    (checked : next.mutex = some .checked → executor.running = false ∨ executor.tasks ≠ []) : next.Orderly := by
  refine ⟨fun member => ?_, tasks ▸ blocking, running ▸ tasks ▸ checked, ?_, ?_, fun off free => ?_, ?_⟩
  · obtain ⟨off, empty, none⟩ := orderly.exits (exited member)
    exact ⟨running.trans off, tasks.trans empty, noPush none⟩
  · rw [owner, running]
    exact orderly.starting
  · rw [owner, running]
    exact orderly.stopping
  · obtain ⟨nobody, empty, none⟩ := orderly.idle (running.symm.trans off) (owner ▸ free)
    exact ⟨crew.trans nobody, tasks.trans empty, noPush none⟩
  · rw [owner, running, crew]
    exact orderly.staffed

variable [DecidableEq Task]

theorem exited_of_drained (drained : executor.drained = true) :
    (∀ worker ∈ executor.workers, worker = .exited) ∧ inside executor.mutex = 0 := by
  simp only [BackgroundExecutor.drained, Bool.and_eq_true, decide_eq_true_eq, Multiset.filter_eq_nil, not_not] at drained
  refine ⟨drained.1, ?_⟩
  have outside := drained.2
  revert outside
  cases executor.mutex with
  | none => exact fun _ => rfl
  | some critical => cases critical <;> simp [inside]

theorem Accounted.step (accounted : executor.Accounted) (effect : Effect workerCount executor label next) :
    next.Accounted := by
  obtain ⟨conserved, counted⟩ := accounted
  simp only [held] at conserved
  cases effect with
  | alreadyStarted | started | staffed | stopping | alreadyStopped | submitted | locked | abandoned
  | abandonedPush | notifiedNone | admitted
  | refused | passed | nothing => exact ⟨conserved, counted⟩
  | spawned | blocked | exited =>
    -- A worker that holds nothing joins the others.
    refine ⟨?_, ?_⟩ <;> simp only [held, Multiset.map_cons, Multiset.sum_cons, Worker.load, Worker.uncounted, zero_add]
    · exact conserved
    · exact counted
  | notifiedAll =>
    refine ⟨?_, ?_⟩ <;>
      simp only [held, Multiset.map_map, Function.comp_def, Worker.load_notify, Worker.uncounted_notify]
    · exact conserved
    · exact counted
  | joined owner drained =>
    have exited := (exited_of_drained drained).1
    rw [sum_of_exited exited rfl] at conserved counted
    exact ⟨conserved, counted⟩
  | notifiedOne _ there | wokenSpuriously there =>
    rw [there, Multiset.map_cons, Multiset.sum_cons] at conserved counted
    refine ⟨?_, ?_⟩ <;> simp only [held, Multiset.map_cons, Multiset.sum_cons]
    · exact conserved
    · exact counted
  | acquired _ awake there =>
    rw [there, Multiset.map_cons, Multiset.sum_cons] at conserved counted
    rcases awake with rfl | rfl <;>
      exact ⟨by simpa [held, Worker.load] using conserved, by simpa [Worker.uncounted] using counted⟩
  | pushed =>
    refine ⟨?_, counted⟩
    simp only [held, conserved, ← Multiset.coe_add, ← Multiset.singleton_add, Multiset.coe_singleton]
    ac_rfl
  | taken _ first =>
    rw [first, ← Multiset.cons_coe, ← Multiset.singleton_add] at conserved
    refine ⟨?_, ?_⟩ <;> simp only [held, Multiset.map_cons, Multiset.sum_cons, Worker.load, Worker.uncounted, zero_add]
    · rw [conserved]
      ac_rfl
    · exact counted
  | executed outcome there =>
    rw [there, Multiset.map_cons, Multiset.sum_cons] at conserved counted
    simp only [Worker.load, Worker.uncounted] at conserved counted
    refine ⟨?_, ?_⟩ <;> simp only [held, Multiset.map_cons, Multiset.sum_cons, Worker.load, Worker.uncounted, zero_add]
    · rw [conserved, ← Multiset.singleton_add]
      ac_rfl
    · rw [Multiset.card_cons]
      omega
  | countedCompleted there | countedFailed there =>
    rw [there, Multiset.map_cons, Multiset.sum_cons] at conserved counted
    simp only [Worker.load, Worker.uncounted, zero_add] at conserved counted
    refine ⟨?_, ?_⟩ <;> simp only [held, Multiset.map_cons, Multiset.sum_cons, Worker.load, Worker.uncounted, zero_add]
    · exact conserved
    · omega

theorem Orderly.left_of_drained (orderly : executor.Orderly) (owner : executor.owner = .joining)
    (drained : executor.drained = true) : .exited ∈ executor.workers := by
  obtain ⟨all, outside⟩ := exited_of_drained drained
  have some := orderly.crew_pos (.inr owner)
  rw [crew, outside, Nat.add_zero] at some
  obtain ⟨worker, listed⟩ := Multiset.card_pos_iff_exists_mem.mp some
  exact all worker listed ▸ listed

theorem Orderly.step (orderly : executor.Orderly) (effect : Effect workerCount executor label next) : next.Orderly := by
  cases effect with
  | alreadyStarted free running =>
    refine { orderly with starting := nofun, stopping := nofun, idle := fun off _ => ?_, staffed := fun _ => ?_ }
    · exact absurd (running.symm.trans off) (by decide)
    · rcases orderly.staffed (.inl running) with some | ⟨left, owner⟩
      · exact .inl some
      · rw [owner] at free
        cases free
  | started free off =>
    obtain ⟨nobody, empty, noPush⟩ := orderly.idle off free
    obtain ⟨none, outside⟩ := Nat.add_eq_zero_iff.mp nobody
    refine ⟨fun member => ?_, orderly.blocking, fun holder => ?_, fun _ _ => rfl, nofun, nofun, fun _ => .inr ?_⟩
    · rw [Multiset.card_eq_zero.mp none] at member
      exact absurd member (Multiset.notMem_zero _)
    · rw [show executor.mutex = some .checked from holder] at outside
      cases outside
    · refine ⟨population workerCount - 1, congrArg Owner.spawning ?_⟩
      simp only [population]
      split <;> omega
  | spawned owner =>
    have running := orderly.starting _ owner
    refine ⟨fun member => ?_, orderly.blocking, orderly.checked, fun _ _ => running, nofun, nofun, fun _ => .inl ?_⟩
    · exact orderly.exits ((Multiset.mem_cons.mp member).resolve_left nofun)
    · simp only [crew, Multiset.card_cons]
      omega
  | staffed owner =>
    have running := orderly.starting _ owner
    refine { orderly with starting := nofun, stopping := nofun, idle := fun off _ => ?_, staffed := fun _ => .inl ?_ }
    · exact absurd (running.symm.trans off) (by decide)
    · refine (orderly.staffed (.inl running)).resolve_right fun ⟨left, other⟩ => ?_
      cases owner.symm.trans other
  | stopping free running =>
    refine ⟨fun member => ?_, orderly.blocking, fun _ => .inl rfl, nofun, fun _ => rfl, nofun, fun _ => .inl ?_⟩
    · exact absurd (running.symm.trans (orderly.exits member).1) (by decide)
    · rcases orderly.staffed (.inl running) with some | ⟨left, owner⟩
      · exact some
      · rw [owner] at free
        cases free
  | alreadyStopped free off =>
    refine { orderly with
      starting := nofun, stopping := fun _ => off, idle := fun _ _ => orderly.idle off free, staffed := ?_ }
    rintro (running | busy)
    · exact absurd (off.symm.trans running) (by decide)
    · cases busy
  | notifiedAll owner =>
    have off := orderly.stopping (.inl owner)
    have some := orderly.crew_pos (.inl owner)
    refine ⟨fun member => ?_, orderly.blocking, orderly.checked, nofun, fun _ => off, nofun, fun _ => .inl ?_⟩
    · obtain ⟨worker, listed, leaves⟩ := Multiset.mem_map.mp member
      exact orderly.exits (worker.eq_exited_of_notify leaves ▸ listed)
    · simpa only [crew, Multiset.card_map] using some
  | joined owner drained =>
    have off := orderly.stopping (.inr (.inl owner))
    -- One of the workers that have left tells that nothing is queued and nobody will push.
    obtain ⟨_, empty, noPush⟩ := orderly.exits (orderly.left_of_drained owner drained)
    refine ⟨fun member => absurd member (Multiset.notMem_zero _), orderly.blocking, orderly.checked, nofun, fun _ => off,
      fun _ _ => ⟨?_, empty, noPush⟩, ?_⟩
    · rw [crew, (exited_of_drained drained).2]
      rfl
    · rintro (running | busy)
      · exact absurd (off.symm.trans running) (by decide)
      · cases busy
  | admitted holder running =>
    refine ⟨fun member => ?_, nofun, nofun, orderly.starting, orderly.stopping, fun off => ?_, ?_⟩
    · exact absurd (running.symm.trans (orderly.exits member).1) (by decide)
    · exact absurd (running.symm.trans off) (by decide)
    · simpa [crew, holder, inside] using orderly.staffed
  | pushed holder =>
    refine ⟨fun member => ?_, nofun, nofun, orderly.starting, orderly.stopping, fun off free => ?_, ?_⟩
    · exact absurd holder ((orderly.exits member).2.2 _)
    · exact absurd holder ((orderly.idle off free).2.2 _)
    · simpa [crew, holder, inside] using orderly.staffed
  | exited holder off empty =>
    refine ⟨fun _ => ⟨off, empty, nofun⟩, nofun, nofun, orderly.starting, orderly.stopping, fun off free => ?_, ?_⟩
    · have nobody := (orderly.idle off free).1
      simp [crew, holder, inside] at nobody
    · simp [crew, inside]
  | taken holder first =>
    refine ⟨fun member => ?_, nofun, nofun, orderly.starting, orderly.stopping, fun off free => ?_, ?_⟩
    · have empty := (orderly.exits ((Multiset.mem_cons.mp member).resolve_left nofun)).2.1
      cases first.symm.trans empty
    · have nobody := (orderly.idle off free).1
      simp [crew, holder, inside] at nobody
    · simp [crew, inside]
  | locked free arriving =>
    exact orderly.of_still rfl rfl rfl (by simp [crew, free, inside]) id (fun _ => nofun) nofun nofun
  | abandonedPush holder =>
    exact orderly.of_still rfl rfl rfl (by simp [crew, holder, inside]) id (fun _ => nofun) nofun nofun
  | submitted | abandoned | notifiedNone => exact orderly.of_still rfl rfl rfl rfl id id orderly.blocking orderly.checked
  | notifiedOne _ there | wokenSpuriously there | executed _ there | countedCompleted there | countedFailed there =>
    -- A worker goes from one state to another, and none of the two is the last one.
    refine orderly.of_still rfl rfl rfl ?_ (fun member => ?_) id orderly.blocking orderly.checked
    · simp [crew, there]
    · rw [there]
      exact Multiset.mem_cons_of_mem ((Multiset.mem_cons.mp member).resolve_left nofun)
  | acquired free awake there =>
    refine orderly.of_still rfl rfl rfl ?_ (fun member => ?_) (fun _ => nofun) nofun nofun
    · simp [crew, there, free, inside]
    · rw [there]
      exact Multiset.mem_cons_of_mem member
  | refused holder off => exact orderly.of_still rfl rfl rfl (by simp [crew, holder, inside]) id (fun _ => nofun) nofun nofun
  | passed holder holds =>
    exact orderly.of_still rfl rfl rfl (by simp [crew, holder, inside]) id (fun _ => nofun) nofun fun _ => holds
  | nothing holder running empty =>
    exact orderly.of_still rfl rfl rfl (by simp [crew, holder, inside]) id (fun _ => nofun) (fun _ => empty) nofun
  | blocked holder =>
    refine orderly.of_still rfl rfl rfl ?_ (fun member => ?_) (fun _ => nofun) nofun nofun
    · simp [crew, holder, inside]
    · exact (Multiset.mem_cons.mp member).resolve_left nofun

end BackgroundExecutor

def Worker.weigh (weight : Task → Nat) : Worker Task → Nat
  | .holding task => weight task
  | .ready | .waiting | .notified | .counting _ | .exited => 0

def Submitter.weigh (weight : Task → Nat) : Submitter Task → Nat
  | .arriving task => weight task
  | .notifying => 0

def Critical.weigh (weight : Task → Nat) : Critical Task → Nat
  | .submitting task | .pushing task => weight task
  | .testing | .blocking | .checked => 0

@[simp] theorem Worker.weigh_notify (weight : Task → Nat) (worker : Worker Task) :
    worker.notify.weigh weight = worker.weigh weight := by
  cases worker <;> rfl

namespace BackgroundExecutor

/-- What there is of tasks that have been handed in and neither executed nor turned away. -/
def pending (weight : Task → Nat) (executor : BackgroundExecutor Task) : Nat :=
  (executor.submitters.map (Submitter.weigh weight)).sum + (executor.mutex.map (Critical.weigh weight)).getD 0 +
    (executor.tasks.map weight).sum + (executor.workers.map (Worker.weigh weight)).sum

def entering (weight : Task → Nat) : Label Task → Nat
  | .submit task => weight task
  | _ => 0

/-- What is executed by a step, or given up because `submit` throws or finds the executor stopped. -/
def leaving (weight : Task → Nat) (executor : BackgroundExecutor Task) : Label Task → Nat
  | .abandon task | .execute task _ => weight task
  | .abandonPush =>
    match executor.mutex with
    | some (.pushing task) => weight task
    | _ => 0
  | .proceed =>
    match executor.mutex with
    | some (.submitting task) => if executor.running then 0 else weight task
    | _ => 0
  | _ => 0

variable [DecidableEq Task]

theorem pending_step {workerCount : Nat} {executor next : BackgroundExecutor Task} {label : Label Task}
    (weight : Task → Nat) (effect : Effect workerCount executor label next) :
    next.pending weight + executor.leaving weight label = executor.pending weight + entering weight label := by
  cases effect with
  | alreadyStarted | started | staffed | stopping | alreadyStopped => rfl
  | spawned => simp [pending, leaving, entering, Worker.weigh]
  | notifiedAll => simp [pending, leaving, entering]
  | joined _ drained =>
    have none : (executor.workers.map (Worker.weigh weight)).sum = 0 := sum_of_exited (exited_of_drained drained).1 rfl
    simp [pending, leaving, entering, none]
  | submitted =>
    simp only [pending, leaving, entering, Submitter.weigh, Multiset.map_cons, Multiset.sum_cons]
    omega
  | locked free arriving =>
    simp only [pending, leaving, entering, free, arriving, Submitter.weigh, Critical.weigh, Multiset.map_cons,
      Multiset.sum_cons, Option.map_some, Option.map_none, Option.getD_some, Option.getD_none]
    omega
  | abandoned arriving =>
    simp only [pending, leaving, entering, arriving, Submitter.weigh, Multiset.map_cons, Multiset.sum_cons]
    omega
  | notifiedOne notifying waiting => simp [pending, leaving, entering, notifying, waiting, Submitter.weigh, Worker.weigh]
  | notifiedNone notifying => simp [pending, leaving, entering, notifying, Submitter.weigh]
  | acquired free awake there =>
    rcases awake with rfl | rfl <;> simp [pending, leaving, entering, free, there, Critical.weigh, Worker.weigh]
  | admitted holder running => simp [pending, leaving, entering, holder, running, Critical.weigh]
  | abandonedPush holder =>
    simp only [pending, leaving, entering, holder, Critical.weigh, Option.map_some, Option.map_none, Option.getD_some,
      Option.getD_none]
    omega
  | refused holder off =>
    simp only [pending, leaving, entering, holder, off, Critical.weigh, Option.map_some, Option.map_none, Option.getD_some,
      Option.getD_none, Bool.false_eq_true, ↓reduceIte]
    omega
  | pushed holder =>
    simp only [pending, leaving, entering, holder, Critical.weigh, Submitter.weigh, Multiset.map_cons, Multiset.sum_cons,
      Option.map_some, Option.map_none, Option.getD_some, Option.getD_none, List.map_append, List.sum_append, List.map_cons,
      List.sum_cons, List.map_nil, List.sum_nil]
    omega
  | passed holder | nothing holder | blocked holder | exited holder =>
    simp [pending, leaving, entering, holder, Critical.weigh, Worker.weigh]
  | taken holder first =>
    simp only [pending, leaving, entering, holder, first, Critical.weigh, Worker.weigh, Multiset.map_cons,
      Multiset.sum_cons, Option.map_some, Option.map_none, Option.getD_some, Option.getD_none, List.map_cons, List.sum_cons]
    omega
  | executed _ there =>
    simp only [pending, leaving, entering, there, Worker.weigh, Multiset.map_cons, Multiset.sum_cons]
    omega
  | wokenSpuriously there | countedCompleted there | countedFailed there =>
    simp [pending, leaving, entering, there, Worker.weigh]

end BackgroundExecutor

end RealtimeChat.Jobs
