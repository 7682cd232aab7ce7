import RealtimeChat.Foundation.Pool

/-! Calls that keep to a protocol.

A protocol gives each call a stage. It says to which stages the result of an
action may lead, in which stages a call may end, and which results it covers;
of the others nothing is said. A pool whose calls keep to a protocol is thereby
followed by the list of their stages.
-/

set_option autoImplicit false

namespace RealtimeChat.Foundation

structure Protocol (Stage Act : Type) (Res : Act → Type) (E : Type) where
  moves : Stage → (action : Act) → Except E (Res action) → Stage → Prop
  rests : Stage → Prop
  covers : (action : Act) → Except E (Res action) → Prop
  covered : ∀ action, ∃ result, covers action result

variable {Stage S Op Act : Type} {Res : Act → Type} {E A B : Type}

namespace Script

def Follows (protocol : Protocol Stage Act Res E) (post : A → Stage → Prop) : Stage → Script Act Res E A → Prop
  | stage, .done (.ok value) => post value stage
  | stage, .done (.error _) => protocol.rests stage
  | stage, .act action next => ∀ result, protocol.covers action result →
      ∃ after, protocol.moves stage action result after ∧ (next result).Follows protocol post after

variable {protocol : Protocol Stage Act Res E} {stage : Stage}

theorem follows_bind {post : B → Stage → Prop} {script : Script Act Res E A} {next : A → Script Act Res E B}
    (follows : script.Follows protocol (fun value after => (next value).Follows protocol post after) stage) :
    (script >>= next).Follows protocol post stage := by
  change (bind next script).Follows protocol post stage
  induction script generalizing stage with
  | done result =>
    cases result with
    | ok value => exact follows
    | error error => exact follows
  | act action rest ih =>
    intro result covers
    obtain ⟨after, moves, follows⟩ := follows result covers
    exact ⟨after, moves, ih result follows⟩

variable {post : A → Stage → Prop}

theorem follows_act {action : Act} {next : Except E (Res action) → Script Act Res E A}
    (succeeds : ∀ value, ∃ after, protocol.moves stage action (.ok value) after ∧
      (next (.ok value)).Follows protocol post after) (fails : ∀ error, protocol.covers action (.error error) →
      ∃ after, protocol.moves stage action (.error error) after ∧ (next (.error error)).Follows protocol post after) :
    (act action next).Follows protocol post stage
  | .ok value, _ => succeeds value
  | .error error, covers => fails error covers

theorem follows_done {value : A} (holds : post value stage) :
    (done (.ok value) : Script Act Res E A).Follows protocol post stage := holds

theorem follows_require {result : Except E A} (rests : protocol.rests stage)
    (holds : ∀ value, result = .ok value → post value stage) :
    (require result : Script Act Res E A).Follows protocol post stage := by
  cases result with
  | ok value => exact holds value rfl
  | error error => exact rests

end Script

namespace Protocol

variable {protocol : Protocol Stage Act Res E} {calls : List (Call Op Act Res E A)} {stages : List Stage}

def Stands (protocol : Protocol Stage Act Res E) (call : Call Op Act Res E A) (stage : Stage) : Prop :=
  call.script.Follows protocol (fun _ => protocol.rests) stage

abbrev Linked (protocol : Protocol Stage Act Res E) (calls : List (Call Op Act Res E A)) (stages : List Stage) : Prop :=
  List.Forall₂ protocol.Stands calls stages

section

variable (linked : protocol.Linked calls stages)

include linked

theorem Linked.concat {call : Call Op Act Res E A} {stage : Stage}
    (stands : protocol.Stands call stage) : protocol.Linked (calls ++ [call]) (stages ++ [stage]) :=
  List.rel_append linked (.cons stands .nil)

theorem Linked.set (position : Nat) {call : Call Op Act Res E A} {stage : Stage}
    (stands : protocol.Stands call stage) : protocol.Linked (calls.set position call) (stages.set position stage) := by
  induction linked generalizing position with
  | nil => exact .nil
  | cons first rest ih =>
    cases position with
    | zero => exact .cons stands rest
    | succ position => exact .cons first (ih position)

theorem Linked.stage {position : Nat} {call : Call Op Act Res E A}
    (found : calls[position]? = some call) : ∃ stage, stages[position]? = some stage ∧ protocol.Stands call stage := by
  induction linked generalizing position with
  | nil => cases found
  | cons first rest ih =>
    cases position with
    | zero =>
      cases found
      exact ⟨_, rfl, first⟩
    | succ position => exact ih found

theorem Linked.call {stage : Stage} (member : stage ∈ stages) : ∃ call ∈ calls, protocol.Stands call stage := by
  induction linked with
  | nil => cases member
  | cons first rest ih =>
    rcases List.mem_cons.mp member with rfl | member
    · exact ⟨_, List.mem_cons_self, first⟩
    · obtain ⟨call, listed, stands⟩ := ih member
      exact ⟨call, List.mem_cons_of_mem _ listed, stands⟩

theorem Linked.perform {position : Nat} {operation : Op} {action : Act}
    {next : Except E (Res action) → Script Act Res E A} {trace after : List Act} {result : Except E (Res action)}
    (found : calls[position]? = some ⟨operation, .act action next, trace⟩) (covers : protocol.covers action result) :
    ∃ before later, stages[position]? = some before ∧ protocol.moves before action result later ∧
      protocol.Linked (calls.set position ⟨operation, next result, after⟩) (stages.set position later) := by
  obtain ⟨before, atPosition, stands⟩ := linked.stage found
  obtain ⟨later, moves, follows⟩ := stands result covers
  exact ⟨before, later, atPosition, moves, linked.set position follows⟩

end

theorem Stands.pending {call : Call Op Act Res E A} {stage : Stage} (stands : protocol.Stands call stage)
    (busy : ¬ protocol.rests stage) :
    ∃ action result after, call.pending = some action ∧ protocol.moves stage action result after := by
  obtain ⟨operation, script, trace⟩ := call
  cases script with
  | done result => cases result <;> exact absurd stands busy
  | act action next =>
    obtain ⟨result, covers⟩ := protocol.covered action
    obtain ⟨after, moves, _⟩ := stands result covers
    exact ⟨action, result, after, rfl, moves⟩

theorem Linked.rests {state : S} (linked : protocol.Linked calls stages) (finished : Pool.finished ⟨state, calls⟩ = true) :
    ∀ stage ∈ stages, protocol.rests stage := by
  intro stage member
  obtain ⟨call, listed, stands⟩ := linked.call member
  by_contra busy
  obtain ⟨action, _, _, pending, _⟩ := stands.pending busy
  have ended := List.all_eq_true.mp finished call listed
  rw [pending] at ended
  exact absurd ended Bool.false_ne_true

end Protocol

end RealtimeChat.Foundation
