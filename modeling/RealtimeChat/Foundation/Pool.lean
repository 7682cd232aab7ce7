import RealtimeChat.Foundation.Positions
import RealtimeChat.Foundation.Run
import RealtimeChat.Foundation.Script

/-! Calls that run at the same time over one state.

A pool holds the scripts of the calls in progress. A step starts a call, lets
one of them take its next action, or is a move of the environment; any action
may also fail for a reason outside the state. A theorem about the runs of a pool
is a theorem about every interleaving of its calls.
-/

set_option autoImplicit false

namespace RealtimeChat.Foundation

structure System (S Env Op Act : Type) (Res : Act → Type) (E A : Type) where
  exec : (action : Act) → S → Except E (S × Res action)
  body : Op → Script Act Res E A
  move : Env → S → S

/-- A call in progress: what was called, what is left of it, and the actions it has taken. -/
structure Call (Op Act : Type) (Res : Act → Type) (E A : Type) where
  operation : Op
  script : Script Act Res E A
  trace : List Act

structure Pool (S Op Act : Type) (Res : Act → Type) (E A : Type) where
  state : S
  calls : List (Call Op Act Res E A)

inductive Pool.Label (Env Op E : Type) where
  | start (operation : Op)
  | perform (position : Nat) (failure : Option E)
  | move (env : Env)
  deriving DecidableEq, Repr

def Call.pending {Op Act : Type} {Res : Act → Type} {E A : Type} (call : Call Op Act Res E A) : Option Act :=
  match call.script with
  | .done _ => none
  | .act action _ => some action

def Pool.finished {S Op Act : Type} {Res : Act → Type} {E A : Type} (pool : Pool S Op Act Res E A) : Bool :=
  pool.calls.all fun call => call.pending.isNone

def Pool.taken {S Env Op Act : Type} {Res : Act → Type} {E A : Type} (pool : Pool S Op Act Res E A) :
    Pool.Label Env Op E → Option Act
  | .perform position none => pool.calls[position]?.bind Call.pending
  | _ => none

theorem Pool.taken_perform {S Env Op Act : Type} {Res : Act → Type} {E A : Type} {pool : Pool S Op Act Res E A}
    {position : Nat} {operation : Op} {action : Act} {next : Except E (Res action) → Script Act Res E A}
    {trace : List Act} (found : pool.calls[position]? = some ⟨operation, .act action next, trace⟩) :
    pool.taken (.perform position none : Pool.Label Env Op E) = some action := by
  rw [Pool.taken, found]
  rfl

namespace System

variable {S Env Op Act : Type} {Res : Act → Type} {E A : Type}

def step (system : System S Env Op Act Res E A) : Step (Pool S Op Act Res E A) (Pool.Label Env Op E) :=
  fun pool label =>
  match label with
  | .start operation => some { pool with calls := pool.calls ++ [⟨operation, system.body operation, []⟩] }
  | .move env => some { pool with state := system.move env pool.state }
  | .perform position failure =>
    match pool.calls[position]? with
    | some ⟨operation, .act action next, trace⟩ =>
      match failure with
      | some error => some { pool with calls := pool.calls.set position ⟨operation, next (.error error), trace⟩ }
      | none =>
        match system.exec action pool.state with
        | .ok (state, value) => some ⟨state, pool.calls.set position ⟨operation, next (.ok value), trace ++ [action]⟩⟩
        | .error error => some { pool with calls := pool.calls.set position ⟨operation, next (.error error), trace⟩ }
    | _ => none

/-- What a step does. A refused action and one that fails from outside leave the same. -/
inductive Effect (system : System S Env Op Act Res E A) (pool : Pool S Op Act Res E A) :
    Pool.Label Env Op E → Pool S Op Act Res E A → Prop where
  | started (operation : Op) : Effect system pool (.start operation)
      { pool with calls := pool.calls ++ [⟨operation, system.body operation, []⟩] }
  | moved (env : Env) : Effect system pool (.move env) { pool with state := system.move env pool.state }
  | acted {position : Nat} {operation : Op} {action : Act} {next : Except E (Res action) → Script Act Res E A}
      {trace : List Act} {state : S} {value : Res action}
      (found : pool.calls[position]? = some ⟨operation, .act action next, trace⟩)
      (executed : system.exec action pool.state = .ok (state, value)) :
      Effect system pool (.perform position none)
        ⟨state, pool.calls.set position ⟨operation, next (.ok value), trace ++ [action]⟩⟩
  | refused {position : Nat} {operation : Op} {action : Act} {next : Except E (Res action) → Script Act Res E A}
      {trace : List Act} {error : E} (found : pool.calls[position]? = some ⟨operation, .act action next, trace⟩)
      (executed : system.exec action pool.state = .error error) :
      Effect system pool (.perform position none)
        { pool with calls := pool.calls.set position ⟨operation, next (.error error), trace⟩ }
  | failed {position : Nat} {operation : Op} {action : Act} {next : Except E (Res action) → Script Act Res E A}
      {trace : List Act} (error : E) (found : pool.calls[position]? = some ⟨operation, .act action next, trace⟩) :
      Effect system pool (.perform position (some error))
        { pool with calls := pool.calls.set position ⟨operation, next (.error error), trace⟩ }

variable {system : System S Env Op Act Res E A} {pool next : Pool S Op Act Res E A}

variable {label : Pool.Label Env Op E} {property : A → Prop} {call : Call Op Act Res E A}

theorem step_effect (moves : system.step pool label = some next) : system.Effect pool label next := by
  cases label with
  | start operation =>
    cases moves
    exact .started operation
  | move env =>
    cases moves
    exact .moved env
  | perform position failure =>
    simp only [step] at moves
    split at moves
    · next operation action continuation trace found =>
      cases failure with
      | some error =>
        cases moves
        exact .failed error found
      | none =>
        dsimp only at moves
        split at moves
        · next state value executed =>
          cases moves
          exact .acted found executed
        · next error executed =>
          cases moves
          exact .refused found executed
    · cases moves

theorem everywhere_step {property : Op → (action : Act) → (Except E (Res action) → Script Act Res E A) → Prop}
    (bodies : ∀ operation, (system.body operation).Everywhere (property operation))
    (calls : ∀ call ∈ pool.calls, call.script.Everywhere (property call.operation))
    (effect : system.Effect pool label next) :
    ∀ call ∈ next.calls, call.script.Everywhere (property call.operation) := by
  cases effect with
  | started operation => exact forall_mem_concat calls (bodies operation)
  | moved env => exact calls
  | acted found | refused found | failed _ found =>
    exact forall_mem_set calls ((calls _ (List.mem_of_getElem? found)).2 _)

theorem ends_step {position : Nat} (found : pool.calls[position]? = some call) (ends : call.script.Ends property)
    (effect : system.Effect pool label next) :
    ∃ rest, next.calls[position]? = some rest ∧ rest.script.Ends property := by
  have within := (List.getElem?_eq_some_iff.mp found).1
  -- A call that takes an action is replaced by one that goes on from its result.
  have replaced {other : Nat} {operation : Op} {action : Act} {after : Except E (Res action) → Script Act Res E A}
      {trace trace' : List Act} (here : pool.calls[other]? = some ⟨operation, .act action after, trace⟩)
      (result : Except E (Res action)) :
      ∃ rest, (pool.calls.set other ⟨operation, after result, trace'⟩)[position]? = some rest ∧
        rest.script.Ends property := by
    by_cases same : other = position
    · subst same
      obtain rfl := Option.some.inj (here.symm.trans found)
      exact ⟨_, List.getElem?_set_self within, ends result⟩
    · exact ⟨call, by rw [List.getElem?_set_ne same, found], ends⟩
  cases effect with
  | started operation => exact ⟨call, by rw [List.getElem?_append_left within, found], ends⟩
  | moved env => exact ⟨call, found, ends⟩
  | acted here | refused here | failed _ here => exact replaced here _

theorem ends_run {position : Nat} {labels : List (Pool.Label Env Op E)} {final : Pool S Op Act Res E A}
    (found : pool.calls[position]? = some call) (ends : call.script.Ends property)
    (runs : system.step.run pool labels = some final) :
    ∃ rest, final.calls[position]? = some rest ∧ rest.script.Ends property := by
  induction labels generalizing pool call with
  | nil =>
    cases runs
    exact ⟨call, found, ends⟩
  | cons label labels ih =>
    obtain ⟨next, moves, runs⟩ := Step.run_cons.mp runs
    obtain ⟨rest, found, ends⟩ := ends_step found ends (step_effect moves)
    exact ih found ends runs

theorem run_rest (script : Script Act Res E A) (state : S) (calls : List (Call Op Act Res E A)) (operation : Op)
    (trace : List Act) :
    ∃ count taken, system.step.run ⟨state, calls ++ [⟨operation, script, trace⟩]⟩
        (List.replicate count (.perform calls.length none)) =
      some ⟨((script.toProgram system.exec).run state).1,
        calls ++ [⟨operation, .done ((script.toProgram system.exec).run state).2, taken⟩]⟩ := by
  induction script generalizing state trace with
  | done result => exact ⟨0, trace, rfl⟩
  | act action next ih =>
    simp only [Script.toProgram, Program.run]
    cases executed : system.exec action state with
    | ok result =>
      obtain ⟨count, taken, runs⟩ := ih (.ok result.2) result.1 (trace ++ [action])
      refine ⟨count + 1, taken, Step.run_cons.mpr ⟨_, ?_, runs⟩⟩
      simp [step, executed]
    | error error =>
      obtain ⟨count, taken, runs⟩ := ih (.error error) state trace
      refine ⟨count + 1, taken, Step.run_cons.mpr ⟨_, ?_, runs⟩⟩
      simp [step, executed]

theorem run_uninterrupted (system : System S Env Op Act Res E A) (pool : Pool S Op Act Res E A) (operation : Op) :
    ∃ count taken, system.step.run pool (.start operation :: List.replicate count (.perform pool.calls.length none)) =
      some ⟨(((system.body operation).toProgram system.exec).run pool.state).1,
        pool.calls ++ [⟨operation, .done (((system.body operation).toProgram system.exec).run pool.state).2, taken⟩]⟩ := by
  obtain ⟨count, taken, runs⟩ := @run_rest _ _ _ _ _ _ _ system (system.body operation) pool.state pool.calls operation []
  exact ⟨count, taken, Step.run_cons.mpr ⟨_, rfl, runs⟩⟩

end System

end RealtimeChat.Foundation
