import Mathlib.Order.Basic

/-! Blocks with guards.

A guard changes a state when its block is entered and puts something back when it
is left, whether the block returns or throws. A block may read the state and go on
depending on what it has read. What a block keeps is shown guard by guard.
-/

set_option autoImplicit false

namespace RealtimeChat.Foundation

inductive Exit where
  | returned
  | threw
  deriving DecidableEq, Repr

/-- `leave` is given the state before the guard was made and the state at the end of its block. -/
structure Guard (State : Type) where
  enter : State → State
  leave : State → State → State

inductive Block (State : Type) where
  | done
  | throw
  | observe (next : State → Block State)
  | update (change : State → State) (next : Block State)
  | guarded (guard : Guard State) (inside next : Block State)
  /-- An exception of the first block is caught. -/
  | attempt (inside : Block State) (next : Exit → Block State)

structure Ending (State : Type) where
  observed : List State
  exit : Exit
  state : State

variable {State View : Type}

def Ending.after (ending : Ending State) (observed : List State) : Ending State :=
  { ending with observed := observed ++ ending.observed }

namespace Block

def run : Block State → State → Ending State
  | .done, state => ⟨[], .returned, state⟩
  | .throw, state => ⟨[], .threw, state⟩
  | .observe next, state => ((next state).run state).after [state]
  | .update change next, state => next.run (change state)
  | .guarded guard inside next, state =>
    let ending := inside.run (guard.enter state)
    let left := guard.leave state ending.state
    match ending.exit with
    | .returned => (next.run left).after ending.observed
    | .threw => ⟨ending.observed, .threw, left⟩
  | .attempt inside next, state =>
    let ending := inside.run state
    ((next ending.exit).run ending.state).after ending.observed

end Block

namespace Guard

def Resets (guard : Guard State) (view : State → View) : Prop :=
  ∀ before after, view (guard.leave before after) = view before

def Restores (guard : Guard State) (view : State → View) : Prop :=
  ∀ before after, view after = view (guard.enter before) → view (guard.leave before after) = view before

end Guard

namespace Block

def Keeps (view : State → View) : Block State → Prop
  | .done | .throw => True
  | .observe next => ∀ state, (next state).Keeps view
  | .update change next => (∀ state, view (change state) = view state) ∧ next.Keeps view
  | .guarded guard inside next =>
    (guard.Resets view ∨ (guard.Restores view ∧ inside.Keeps view)) ∧ next.Keeps view
  | .attempt inside next => inside.Keeps view ∧ ∀ exit, (next exit).Keeps view

theorem Keeps.run {view : State → View} {block : Block State} (keeps : block.Keeps view) (state : State) :
    view (block.run state).state = view state := by
  induction block generalizing state with
  | done | throw => rfl
  | observe next ih => exact ih state (keeps state) state
  | update change next ih => exact (ih keeps.2 (change state)).trans (keeps.1 state)
  | guarded guard inside next ihInside ihNext =>
    have left : view (guard.leave state (inside.run (guard.enter state)).state) = view state := by
      rcases keeps.1 with resets | ⟨restores, within⟩
      · exact resets _ _
      · exact restores _ _ (ihInside within _)
    simp only [Block.run]
    split
    · exact (ihNext keeps.2 _).trans left
    · exact left
  | attempt inside next ihInside ihNext =>
    exact (ihNext _ (keeps.2 _) _).trans (ihInside keeps.1 state)

theorem run_guarded_done (guard : Guard State) (inside : Block State) (state : State) :
    (guarded guard inside done).run state =
      { inside.run (guard.enter state) with state := guard.leave state (inside.run (guard.enter state)).state } := by
  simp only [Block.run, Ending.after]
  split
  · next returned => simp [returned]
  · next threw => simp [threw]

end Block

end RealtimeChat.Foundation
