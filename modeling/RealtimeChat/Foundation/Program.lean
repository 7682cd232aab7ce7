import Mathlib.Logic.Basic

/-! Sequential programs over a shared state.

A program is a chain of atomic actions and ends with a value or an exception.
An action reads and writes the state at once; between two actions other programs
may run. An action can also fail for a reason outside the state, in which case
it leaves the state alone and the program goes on with its handler.
-/

set_option autoImplicit false

namespace RealtimeChat.Foundation

section Exceptions

variable {E A B : Type} {value : B}

theorem bind_eq_ok {result : Except E A} {next : A → Except E B} :
    (result >>= next) = .ok value ↔ ∃ middle, result = .ok middle ∧ next middle = .ok value := by
  cases result <;> simp [bind, Except.bind]

theorem ok_bind (middle : A) (next : A → Except E B) : (.ok middle >>= next : Except E B) = next middle := rfl

theorem error_bind (error : E) (next : A → Except E B) : (.error error >>= next : Except E B) = .error error := rfl

theorem error_ne_ok {error : E} {middle : A} : (.error error : Except E A) ≠ .ok middle := nofun

theorem map_eq_ok {result : Except E A} {change : A → B} :
    result.map change = .ok value ↔ ∃ middle, result = .ok middle ∧ change middle = value := by
  cases result <;> simp [Except.map]

theorem foldlM_relates {State Row : Type} {relates : State → State → Prop} (reflexive : ∀ state, relates state state)
    (transitive : ∀ {first second third}, relates first second → relates second third → relates first third)
    {change : State → Row → Except E State}
    (step : ∀ {state row next}, change state row = .ok next → relates state next) {rows : List Row}
    {state next : State} (done : rows.foldlM change state = .ok next) : relates state next := by
  induction rows generalizing state with
  | nil =>
    cases done
    exact reflexive _
  | cons row rest ih =>
    obtain ⟨between, changed, done⟩ := bind_eq_ok.mp done
    exact transitive (step changed) (ih done)

theorem foldlM_keeps {State Row : Type} (view : State → B) {change : State → Row → Except E State}
    (keeps : ∀ state row next, change state row = .ok next → view next = view state) {rows : List Row}
    {state next : State} (done : rows.foldlM change state = .ok next) : view next = view state := by
  have relates := @foldlM_relates E State Row (fun state next => view next = view state)
  exact relates (fun _ => rfl) (fun first second => second.trans first) (keeps _ _ _) done

end Exceptions

inductive Program (S E A : Type) where
  | done (result : Except E A)
  | atomic (update : S → S) (rest : S → Program S E A) (rescue : E → Program S E A)

namespace Program

variable {S E A B : Type}

def bind (next : A → Program S E B) : Program S E A → Program S E B
  | .done (.ok value) => next value
  | .done (.error error) => .done (.error error)
  -- A failure that the program handles itself is handled before it goes on to `next`.
  | .atomic update rest rescue => .atomic update (fun state => bind next (rest state))
      (fun error => bind next (rescue error))

instance : Monad (Program S E) where
  pure value := .done (.ok value)
  bind program next := bind next program

/-- An action that may refuse: then the state stays as it is and the refusal is thrown. -/
def attempt (action : S → Except E (S × A)) : Program S E A :=
  .atomic (fun state => match action state with | .ok (next, _) => next | .error _ => state)
    (fun state => .done ((action state).map Prod.snd)) (fun error => .done (.error error))

def query (read : S → A) : Program S E A := attempt fun state => .ok (state, read state)

def modify (update : S → S) : Program S E Unit := attempt fun state => .ok (update state, ())

def require (result : Except E A) : Program S E A := .done result

/-- One action, which succeeds or fails with the given exception. -/
def advance (program : Program S E A) (state : S) (failure : Option E) : Option (S × Program S E A) :=
  match program, failure with
  | .done _, _ => none
  | .atomic update rest _, none => some (update state, rest state)
  | .atomic _ _ rescue, some error => some (state, rescue error)

/-- All actions in a row, none of which fails from outside. -/
def run : Program S E A → S → S × Except E A
  | .done result, state => (state, result)
  | .atomic update rest _, state => run (rest state) (update state)

def Returns (program : Program S E A) (state final : S) (value : A) : Prop :=
  program.run state = (final, .ok value)

theorem run_bind (program : Program S E A) (next : A → Program S E B) (state : S) :
    (bind next program).run state =
      match program.run state with
      | (final, .ok value) => (next value).run final
      | (final, .error error) => (final, .error error) := by
  induction program generalizing state with
  | done result => cases result <;> rfl
  | atomic update rest rescue ih _ => exact ih state (update state)

theorem run_seq (program : Program S E A) (next : A → Program S E B) (state : S) :
    (program >>= next).run state =
      match program.run state with
      | (final, .ok value) => (next value).run final
      | (final, .error error) => (final, .error error) := run_bind program next state

theorem run_require (result : Except E A) (state : S) : (require result : Program S E A).run state = (state, result) := rfl

theorem run_query (read : S → A) (state : S) : (query read : Program S E A).run state = (state, .ok (read state)) := rfl

theorem run_attempt (action : S → Except E (S × A)) (state : S) :
    (attempt action).run state =
      match action state with
      | .ok (next, value) => (next, .ok value)
      | .error error => (state, .error error) := by
  simp only [attempt, run]
  cases action state <;> rfl

variable {program : Program S E A} {next : A → Program S E B} {state final : S} {action : S → Except E (S × A)}
  {update : S → S}

@[simp] theorem returns_bind {value : B} :
    (program >>= next).Returns state final value ↔
      ∃ between middle, program.Returns state between middle ∧ (next middle).Returns between final value := by
  change (bind next program).run state = _ ↔ _
  rw [run_bind]
  unfold Returns
  rcases program.run state with ⟨between, error | middle⟩
  · simp
  · constructor
    · intro rest
      exact ⟨between, middle, rfl, rest⟩
    · rintro ⟨_, _, same, rest⟩
      cases same
      exact rest

@[simp] theorem returns_pure {value result : A} :
    (pure value : Program S E A).Returns state final result ↔ state = final ∧ value = result := by
  simp [Returns, pure, run]

@[simp] theorem returns_require {outcome : Except E A} {value : A} :
    (require outcome : Program S E A).Returns state final value ↔ state = final ∧ outcome = .ok value := by
  simp [Returns, require, run]

@[simp] theorem returns_attempt {value : A} :
    (attempt action).Returns state final value ↔ action state = .ok (final, value) := by
  unfold Returns attempt
  simp only [run]
  cases action state with
  | error error => simp [Except.map]
  | ok result => simp [Except.map, Prod.ext_iff]

@[simp] theorem returns_query {read : S → A} {value : A} :
    (query read : Program S E A).Returns state final value ↔ state = final ∧ read state = value := by
  simp [query]

@[simp] theorem returns_modify {value : Unit} :
    (modify update : Program S E Unit).Returns state final value ↔ update state = final := by
  simp [modify]

def handle (catcher : E → Program S E A) : Program S E A → Program S E A
  | .done (.ok value) => .done (.ok value)
  | .done (.error error) => catcher error
  | .atomic update rest rescue => .atomic update (fun state => handle catcher (rest state))
      (fun error => handle catcher (rescue error))

section Keeps

variable {T : Type} {view : S → T}

/-- No action of the program, whichever way its earlier actions went, changes what is viewed. -/
def Keeps (view : S → T) : Program S E A → Prop
  | .done _ => True
  | .atomic update rest rescue => (∀ state, view (update state) = view state) ∧
      (∀ state, (rest state).Keeps view) ∧ ∀ error, (rescue error).Keeps view

theorem Keeps.advance {rest : Program S E A} {next : S} {failure : Option E} (keeps : program.Keeps view)
    (steps : program.advance state failure = some (next, rest)) : view next = view state ∧ rest.Keeps view := by
  cases program with
  | done result => cases steps
  | atomic update after rescue =>
    obtain ⟨updates, continues, rescued⟩ := keeps
    cases failure with
    | none =>
      cases steps
      exact ⟨updates state, continues state⟩
    | some error =>
      cases steps
      exact ⟨rfl, rescued error⟩

theorem keeps_bind (first : program.Keeps view) (rest : ∀ value, (next value).Keeps view) :
    (program >>= next).Keeps view := by
  change (bind next program).Keeps view
  induction program with
  | done result =>
    cases result with
    | ok value => exact rest value
    | error error => trivial
  | atomic update after rescue ih ihRescue =>
    obtain ⟨updates, continues, rescued⟩ := first
    exact ⟨updates, fun state => ih state (continues state), fun error => ihRescue error (rescued error)⟩

theorem keeps_handle {catcher : E → Program S E A} (body : program.Keeps view)
    (caught : ∀ error, (catcher error).Keeps view) : (program.handle catcher).Keeps view := by
  induction program with
  | done result =>
    cases result with
    | ok value => trivial
    | error error => exact caught error
  | atomic update after rescue ih ihRescue =>
    obtain ⟨updates, continues, rescued⟩ := body
    exact ⟨updates, fun state => ih state (continues state), fun error => ihRescue error (rescued error)⟩

theorem keeps_pure (value : A) : (pure value : Program S E A).Keeps view := trivial

theorem keeps_require (result : Except E A) : (require result : Program S E A).Keeps view := trivial

theorem keeps_attempt (keeps : ∀ state next value, action state = .ok (next, value) → view next = view state) :
    (attempt action).Keeps view := by
  refine ⟨fun state => ?_, fun _ => trivial, fun _ => trivial⟩
  dsimp only
  split
  · next next value acted => exact keeps state next value acted
  · rfl

theorem keeps_query (read : S → A) : (query read : Program S E A).Keeps view := by
  refine keeps_attempt fun state next value same => ?_
  cases same
  rfl

theorem keeps_modify (keeps : ∀ state, view (update state) = view state) :
    (modify update : Program S E Unit).Keeps view := by
  refine keeps_attempt fun state next value same => ?_
  cases same
  exact keeps state

end Keeps

section Failures

variable (failures : Nat → Option E)

/-- All actions in a row, of which those fail from outside that the pattern says. The count of
the actions so far is threaded through, so that each has its place in the pattern. -/
def runUnder : Program S E A → Nat → S → S × Nat × Except E A
  | .done result, count, state => (state, count, result)
  | .atomic update rest rescue, count, state =>
    match failures count with
    | none => runUnder (rest state) (count + 1) (update state)
    | some error => runUnder (rescue error) (count + 1) state

theorem runUnder_bind (program : Program S E A) (next : A → Program S E B) (count : Nat) (state : S) :
    (program >>= next).runUnder failures count state =
      match program.runUnder failures count state with
      | (between, later, .ok value) => (next value).runUnder failures later between
      | (between, later, .error error) => (between, later, .error error) := by
  change (bind next program).runUnder failures count state = _
  induction program generalizing count state with
  | done result => cases result <;> rfl
  | atomic update rest rescue ih ihRescue =>
    simp only [bind, runUnder]
    cases failures count with
    | none => exact ih state (count + 1) (update state)
    | some error => exact ihRescue error (count + 1) state

theorem runUnder_require (result : Except E A) (count : Nat) (state : S) :
    (require result : Program S E A).runUnder failures count state = (state, count, result) := rfl

theorem runUnder_attempt (action : S → Except E (S × A)) (count : Nat) (state : S) :
    (attempt action).runUnder failures count state =
      match failures count, action state with
      | some error, _ => (state, count + 1, .error error)
      | none, .ok (next, value) => (next, count + 1, .ok value)
      | none, .error error => (state, count + 1, .error error) := by
  simp only [attempt, runUnder]
  cases failures count with
  | some error => rfl
  | none => cases action state <;> rfl

/-- A program that leaves something alone does so under every pattern of failures. -/
theorem Keeps.runUnder {T : Type} {view : S → T} (keeps : program.Keeps view) (count : Nat) (state : S) :
    view (program.runUnder failures count state).1 = view state := by
  induction program generalizing count state with
  | done result => rfl
  | atomic update rest rescue ih ihRescue =>
    obtain ⟨updates, continues, rescued⟩ := keeps
    simp only [Program.runUnder]
    cases failures count with
    | none => exact (ih state (continues state) (count + 1) (update state)).trans (updates state)
    | some error => exact ihRescue error (rescued error) (count + 1) state

end Failures

end Program

end RealtimeChat.Foundation
