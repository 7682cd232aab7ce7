import Mathlib.Order.Basic

/-! Finite runs of labelled machines.

A machine is a partial step function. A label that is not enabled in a state
has no successor, so a run that uses it does not exist. Concurrent components
are written as machines whose labels name the caller that moves: a theorem
about every run is then a theorem about every interleaving.
-/

set_option autoImplicit false

namespace RealtimeChat.Foundation

variable {State Label : Type}

/-- One atomic step; `none` when the label is not enabled. -/
abbrev Step (State Label : Type) := State → Label → Option State

def Step.run (step : Step State Label) : State → List Label → Option State
  | state, [] => some state
  | state, label :: rest => (step state label).bind fun next => step.run next rest

/-- Each step of the run satisfies a condition on the state it starts from. -/
def Step.Guarded (step : Step State Label) (ok : State → Label → Prop) :
    State → List Label → Prop
  | _, [] => True
  | state, label :: rest => ok state label ∧
      match step state label with
      | none => True
      | some next => step.Guarded ok next rest

/-- Each state of the run satisfies a property, the first and the last included. -/
def Step.Always (step : Step State Label) (property : State → Prop) :
    State → List Label → Prop
  | state, [] => property state
  | state, label :: rest => property state ∧
      match step state label with
      | none => True
      | some next => step.Always property next rest

instance Step.decidableGuarded (step : Step State Label) (ok : State → Label → Prop)
    [∀ state label, Decidable (ok state label)] :
    ∀ state labels, Decidable (step.Guarded ok state labels)
  | _, [] => inferInstanceAs (Decidable True)
  | state, label :: rest =>
    match found : step state label with
    | none => decidable_of_iff (ok state label) (by simp [Guarded, found])
    | some next =>
      have := step.decidableGuarded ok next rest
      decidable_of_iff (ok state label ∧ step.Guarded ok next rest) (by simp [Guarded, found])

instance Step.decidableAlways (step : Step State Label) (property : State → Prop)
    [∀ state, Decidable (property state)] :
    ∀ state labels, Decidable (step.Always property state labels)
  | state, [] => inferInstanceAs (Decidable (property state))
  | state, label :: rest =>
    match found : step state label with
    | none => decidable_of_iff (property state) (by simp [Always, found])
    | some next =>
      have := step.decidableAlways property next rest
      decidable_of_iff (property state ∧ step.Always property next rest) (by simp [Always, found])

variable {step : Step State Label} {ok : State → Label → Prop} {property : State → Prop}

@[simp] theorem Step.run_nil (state : State) : step.run state [] = some state := rfl

variable {state final next between : State} {label : Label} {rest first second labels : List Label}
  {wanted : State → Label → Prop} {allowed : Label → Prop}

theorem Step.run_cons : step.run state (label :: rest) = some final ↔
      ∃ next, step state label = some next ∧ step.run next rest = some final := by
  simp [run, Option.bind_eq_some_iff]

theorem Step.run_append :
    step.run state (first ++ second) = (step.run state first).bind fun next => step.run next second := by
  induction first generalizing state with
  | nil => rfl
  | cons label rest ih =>
    simp only [List.cons_append, run]
    cases step state label with
    | none => rfl
    | some next => exact ih

theorem Step.run_concat : step.run state (labels ++ [label]) = some final ↔
      ∃ between, step.run state labels = some between ∧ step between label = some final := by
  simp [run_append, run, Option.bind_eq_some_iff]

theorem Step.guarded_cons (moves : step state label = some next) :
    step.Guarded ok state (label :: rest) ↔ ok state label ∧ step.Guarded ok next rest := by
  simp [Guarded, moves]

theorem Step.guarded_and : step.Guarded (fun state label => ok state label ∧ wanted state label) state labels ↔
      step.Guarded ok state labels ∧ step.Guarded wanted state labels := by
  induction labels generalizing state with
  | nil => simp [Guarded]
  | cons label rest ih =>
    cases moves : step state label with
    | none => simp [Guarded, moves]
    | some next =>
      rw [guarded_cons moves, guarded_cons moves, guarded_cons moves, ih]
      exact and_and_and_comm

theorem Step.guarded_of_labels (all : ∀ label ∈ labels, allowed label) :
    step.Guarded (fun _ => allowed) state labels := by
  induction labels generalizing state with
  | nil => trivial
  | cons label rest ih =>
    refine ⟨all label List.mem_cons_self, ?_⟩
    cases step state label with
    | none => trivial
    | some next => exact ih fun other member => all other (List.mem_cons_of_mem _ member)

/-- A condition on the labels alone is met throughout a run exactly if all of its labels meet it. -/
theorem Step.guarded_labels (runs : step.run state labels = some final) :
    step.Guarded (fun _ => allowed) state labels ↔ ∀ label ∈ labels, allowed label := by
  refine ⟨fun guarded => ?_, Step.guarded_of_labels⟩
  induction labels generalizing state with
  | nil => simp
  | cons label rest ih =>
    obtain ⟨next, moves, runs⟩ := Step.run_cons.mp runs
    obtain ⟨met, guarded⟩ := (Step.guarded_cons moves).mp guarded
    exact List.forall_mem_cons.mpr ⟨met, ih runs guarded⟩

theorem Step.always_cons (moves : step state label = some next) : step.Always property state (label :: rest) ↔
      property state ∧ step.Always property next rest := by
  simp [Always, moves]

theorem Step.always_head (holds : step.Always property state labels) : property state := by
  cases labels with
  | nil => exact holds
  | cons label rest => exact holds.1

/-- Invariant rule for runs whose steps all meet a condition. -/
theorem Step.guarded_invariant (invariant : State → Prop)
    (preserved : ∀ {state label next}, invariant state → ok state label → step state label = some next → invariant next)
    (initially : invariant state) (guarded : step.Guarded ok state labels) (runs : step.run state labels = some final) :
    invariant final := by
  induction labels generalizing state with
  | nil =>
    cases runs
    exact initially
  | cons label rest ih =>
    obtain ⟨next, moves, runs⟩ := Step.run_cons.mp runs
    obtain ⟨met, guarded⟩ := (Step.guarded_cons moves).mp guarded
    exact ih (preserved initially met moves) guarded runs

/-- Invariant rule for all runs. -/
theorem Step.run_invariant (invariant : State → Prop)
    (preserved : ∀ {state label next}, invariant state → step state label = some next → invariant next)
    (initially : invariant state) (runs : step.run state labels = some final) : invariant final := by
  have guarded : step.Guarded (fun _ _ => True) state labels := Step.guarded_of_labels fun _ _ => trivial
  exact Step.guarded_invariant invariant (fun holds _ moves => preserved holds moves) initially guarded runs

theorem Step.run_relates (relates : State → State → Prop) (reflexive : ∀ state, relates state state)
    (transitive : ∀ {first second third}, relates first second → relates second third → relates first third)
    (respected : ∀ {state label next}, step state label = some next → relates state next)
    (runs : step.run state labels = some final) : relates state final :=
  Step.run_invariant (relates state) (fun before moves => transitive before (respected moves)) (reflexive state) runs

theorem Step.run_total (total : ∀ state label, ∃ next, step state label = some next) (state : State)
    (labels : List Label) : ∃ final, step.run state labels = some final := by
  induction labels generalizing state with
  | nil => exact ⟨state, rfl⟩
  | cons label rest ih =>
    obtain ⟨next, moves⟩ := total state label
    obtain ⟨final, runs⟩ := ih next
    exact ⟨final, Step.run_cons.mpr ⟨next, moves, runs⟩⟩

section

variable (invariant : State → Prop) (preserved : ∀ {state label next}, invariant state → ok state label → step state label = some next → invariant next)

include invariant preserved

/-- Steps that meet one condition meet another when the invariant they keep implies it. -/
theorem Step.guarded_safe
    (safe : ∀ {state label}, invariant state → ok state label → wanted state label) (initially : invariant state)
    (guarded : step.Guarded ok state labels) : step.Guarded wanted state labels := by
  induction labels generalizing state with
  | nil => trivial
  | cons label rest ih =>
    refine ⟨safe initially guarded.1, ?_⟩
    cases moves : step state label with
    | none => trivial
    | some next =>
      exact ih (preserved initially guarded.1 moves) ((Step.guarded_cons moves).mp guarded).2

/-- When a step keeps the property exactly if it meets the condition, a run keeps
it throughout exactly if all of its steps meet the condition. The invariant need
only survive steps that meet the condition. -/
theorem Step.always_iff_guarded (exact : ∀ {state label next}, invariant state → property state →
      step state label = some next → (property next ↔ ok state label)) (initially : invariant state)
    (holds : property state) (runs : step.run state labels = some final) :
    step.Always property state labels ↔ step.Guarded ok state labels := by
  induction labels generalizing state with
  | nil => simp [Always, Guarded, holds]
  | cons label rest ih =>
    obtain ⟨next, moves, runs⟩ := Step.run_cons.mp runs
    rw [Step.always_cons moves, Step.guarded_cons moves]
    have atStep := exact initially holds moves
    constructor
    -- The two directions differ in what is known of the next state: the property, from which the
    -- step met the condition, or the condition, from which the property holds.
    · intro always
      have after := Step.always_head always.2
      have met := atStep.mp after
      exact ⟨met, (ih (preserved initially met moves) after runs).mp always.2⟩
    · intro guarded
      have after := atStep.mpr guarded.1
      exact ⟨holds, (ih (preserved initially guarded.1 moves) after runs).mpr guarded.2⟩

end

end RealtimeChat.Foundation
