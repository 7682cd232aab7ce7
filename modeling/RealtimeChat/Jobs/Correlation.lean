import RealtimeChat.Foundation.Guards
import RealtimeChat.Tracing.Spans

/-! The correlation of background tasks with what has submitted them.

The request id and the current span context are kept for each thread. `submit`
copies them, and the worker puts them in place around the task. A task may open
scopes of any kind inside each other, set the request id by hand, throw, catch
what it has thrown, and do each of these depending on what it reads. A scope is
an object of a block and is not moved.
-/

set_option autoImplicit false

namespace RealtimeChat.Jobs

open Foundation Tracing

structure Correlation where
  requestId : String
  current : Option SpanContext
  deriving DecidableEq, Repr

/-- Nothing is done for a context that is not valid. -/
def spanScope (context : SpanContext) : Guard Correlation where
  enter state := if context.isValid then { state with current := some context } else state
  leave before after := if context.isValid then { after with current := before.current } else after

/-- An inert span does not become current. -/
def scopedSpan (span : Span) : Guard Correlation where
  enter state := if span.isRecording then { state with current := some span.context } else state
  leave before after := if span.isRecording then { after with current := before.current } else after

def requestIdScope (requestId : String) : Guard Correlation where
  enter state := { state with requestId := requestId }
  leave before after := { after with requestId := before.requestId }

def setRequestId (requestId : String) (state : Correlation) : Correlation := { state with requestId := requestId }

def clearRequestId (state : Correlation) : Correlation := { state with requestId := "" }

inductive Body where
  | done
  | throw
  | observe (next : Correlation → Body)
  | setRequestId (requestId : String) (next : Body)
  | clearRequestId (next : Body)
  | spanScope (context : SpanContext) (inside next : Body)
  | scopedSpan (span : Span) (inside next : Body)
  | requestIdScope (requestId : String) (inside next : Body)
  | attempt (inside : Body) (next : Exit → Body)

def Body.block : Body → Block Correlation
  | .done => .done
  | .throw => .throw
  | .observe next => .observe fun state => (next state).block
  | .setRequestId requestId next => .update (Jobs.setRequestId requestId) next.block
  | .clearRequestId next => .update Jobs.clearRequestId next.block
  | .spanScope context inside next => .guarded (Jobs.spanScope context) inside.block next.block
  | .scopedSpan span inside next => .guarded (Jobs.scopedSpan span) inside.block next.block
  | .requestIdScope requestId inside next => .guarded (Jobs.requestIdScope requestId) inside.block next.block
  | .attempt inside next => .attempt inside.block fun exit => (next exit).block

/-- A call of `submit`: the state of its thread and the task. -/
structure Submission where
  submitter : Correlation
  task : Body

/-- The context that is copied: none if there is none or it is not valid. -/
def Correlation.captured (submitter : Correlation) : Option SpanContext := submitter.current.filter (·.isValid)

def Submission.carried (submission : Submission) : Block Correlation :=
  let inner := Block.guarded (requestIdScope submission.submitter.requestId) submission.task.block .done
  match submission.submitter.captured with
  | some parent => .guarded (spanScope parent) inner .done
  | none => inner

structure Execution where
  submission : Submission
  before : Correlation
  ending : Ending Correlation

def Submission.execute (submission : Submission) (worker : Correlation) : Execution :=
  ⟨submission, worker, submission.carried.run worker⟩

def workerLoop : Correlation → List Submission → List Execution
  | _, [] => []
  | worker, submission :: rest =>
    let execution := submission.execute worker
    execution :: workerLoop execution.ending.state rest

section Scopes

theorem spanScope_restores (context : SpanContext) : (spanScope context).Restores Correlation.current := by
  intro before after kept
  simp only [spanScope] at kept ⊢
  split
  · rfl
  · next invalid => simpa [invalid] using kept

theorem scopedSpan_restores (span : Span) : (scopedSpan span).Restores Correlation.current := by
  intro before after kept
  simp only [scopedSpan] at kept ⊢
  split
  · rfl
  · next inert => simpa [inert] using kept

theorem requestIdScope_restores (requestId : String) : (requestIdScope requestId).Restores Correlation.current :=
  fun _ _ kept => kept

theorem requestIdScope_resets (requestId : String) : (requestIdScope requestId).Resets Correlation.requestId :=
  fun _ _ => rfl

theorem spanScope_keeps_requestId (context : SpanContext) : (spanScope context).Restores Correlation.requestId := by
  intro before after kept
  simp only [spanScope] at kept ⊢
  split <;> simp_all

/-- Every scope of a task goes back to the context before it, whichever way it is left. -/
theorem Body.keeps_current (body : Body) : body.block.Keeps Correlation.current := by
  induction body with
  | done | throw => trivial
  | observe next ih => exact fun state => ih state
  | setRequestId _ _ ih | clearRequestId _ ih => exact ⟨fun _ => rfl, ih⟩
  | spanScope context inside next ihInside ihNext => exact ⟨.inr ⟨spanScope_restores context, ihInside⟩, ihNext⟩
  | scopedSpan span inside next ihInside ihNext => exact ⟨.inr ⟨scopedSpan_restores span, ihInside⟩, ihNext⟩
  | requestIdScope requestId inside next ihInside ihNext =>
    exact ⟨.inr ⟨requestIdScope_restores requestId, ihInside⟩, ihNext⟩
  | attempt inside next ihInside ihNext => exact ⟨ihInside, fun exit => ihNext exit⟩

end Scopes

section Carrying

variable (submission : Submission) (worker : Correlation)

theorem Submission.keeps_current : submission.carried.Keeps Correlation.current := by
  have inner : Block.Keeps Correlation.current
      (.guarded (requestIdScope submission.submitter.requestId) submission.task.block .done) :=
    ⟨.inr ⟨requestIdScope_restores _, submission.task.keeps_current⟩, trivial⟩
  simp only [carried]
  split
  · next parent _ => exact ⟨.inr ⟨spanScope_restores parent, inner⟩, trivial⟩
  · exact inner

/-- The task may change the request id; its own scope puts back that of the worker. -/
theorem Submission.keeps_requestId : submission.carried.Keeps Correlation.requestId := by
  have inner : Block.Keeps Correlation.requestId
      (.guarded (requestIdScope submission.submitter.requestId) submission.task.block .done) :=
    ⟨.inl (requestIdScope_resets _), trivial⟩
  simp only [carried]
  split
  · next parent _ => exact ⟨.inr ⟨spanScope_keeps_requestId parent, inner⟩, trivial⟩
  · exact inner

theorem Submission.run_carried_state : (submission.carried.run worker).state = worker := by
  have requestId := submission.keeps_requestId.run worker
  have current := submission.keeps_current.run worker
  cases ending : (submission.carried.run worker).state
  cases worker
  simp_all

def Submission.start : Correlation :=
  ⟨submission.submitter.requestId, submission.submitter.captured.or worker.current⟩

theorem Correlation.isValid_captured {submitter : Correlation} {parent : SpanContext}
    (captured : submitter.captured = some parent) : parent.isValid = true :=
  (Option.filter_eq_some_iff.mp captured).2

/-- The task runs as it would on a thread with these values, and the worker is left as it was found. -/
theorem Submission.run_carried : submission.carried.run worker =
    { submission.task.block.run (submission.start worker) with state := worker } := by
  have state := submission.run_carried_state worker
  cases captured : submission.submitter.captured with
  | none =>
    have start : submission.start worker = (requestIdScope submission.submitter.requestId).enter worker := by
      simp [Submission.start, captured, requestIdScope]
    simp only [carried, captured, Block.run_guarded_done] at state ⊢
    rw [state, start]
  | some parent =>
    have start : submission.start worker =
        (requestIdScope submission.submitter.requestId).enter ((spanScope parent).enter worker) := by
      simp [Submission.start, captured, requestIdScope, spanScope, Correlation.isValid_captured captured]
    simp only [carried, captured, Block.run_guarded_done] at state ⊢
    rw [state, start]

end Carrying

/-- A worker that runs any tasks is left as it was by each of them, and each task starts with the request id of
its submitter and, if it is valid, with its context. -/
theorem correlation_carried (worker : Correlation) (submissions : List Submission) :
    (workerLoop worker submissions).map Execution.submission = submissions ∧
    ∀ execution ∈ workerLoop worker submissions,
      execution.before = worker ∧ execution.ending.state = worker ∧
      ∃ start : Correlation,
        start.requestId = execution.submission.submitter.requestId ∧
        (∀ context, execution.submission.submitter.current = some context → context.isValid = true →
          start.current = some context) ∧
        execution.ending.observed = (execution.submission.task.block.run start).observed ∧
        execution.ending.exit = (execution.submission.task.block.run start).exit := by
  induction submissions with
  | nil => simp [workerLoop]
  | cons submission rest ih =>
    have run := submission.run_carried worker
    have next : (submission.execute worker).ending.state = worker := submission.run_carried_state worker
    have loop : workerLoop worker (submission :: rest) = submission.execute worker :: workerLoop worker rest := by
      rw [workerLoop, next]
    rw [loop, List.map_cons, List.forall_mem_cons]
    refine ⟨congrArg _ ih.1, ⟨rfl, next, submission.start worker, rfl, ?_, ?_, ?_⟩, ih.2⟩
    · intro context current valid
      have captured : submission.submitter.captured = some context := Option.filter_eq_some_iff.mpr ⟨current, valid⟩
      rw [Submission.start, captured, Option.some_or]
    · rw [Submission.execute, run]
    · rw [Submission.execute, run]

end RealtimeChat.Jobs
