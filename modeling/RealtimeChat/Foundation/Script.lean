import RealtimeChat.Foundation.Program

/-! Programs whose actions can be named.

A script is a program that says what its next action is before it takes it. The
actions are those of a signature: `Act` names them and `Res` gives the type of
what each returns. Under an interpretation of the signature a script becomes a
program, with the same actions in the same order.
-/

set_option autoImplicit false

namespace RealtimeChat.Foundation

inductive Script (Act : Type) (Res : Act → Type) (E A : Type) where
  | done (result : Except E A)
  | act (action : Act) (next : Except E (Res action) → Script Act Res E A)

namespace Script

variable {Act : Type} {Res : Act → Type} {S E A B : Type}

def bind (next : A → Script Act Res E B) : Script Act Res E A → Script Act Res E B
  | .done (.ok value) => next value
  | .done (.error error) => .done (.error error)
  | .act action after => .act action fun result => bind next (after result)

instance : Monad (Script Act Res E) where
  pure value := .done (.ok value)
  bind script next := bind next script

def perform (action : Act) : Script Act Res E (Res action) := .act action .done

def require (result : Except E A) : Script Act Res E A := .done result

section Interpretation

variable (exec : (action : Act) → S → Except E (S × Res action))

def toProgram : Script Act Res E A → Program S E A
  | .done result => .done result
  | .act action next => .atomic
      (fun state => match exec action state with | .ok (next, _) => next | .error _ => state)
      (fun state => toProgram (next ((exec action state).map Prod.snd)))
      (fun error => toProgram (next (.error error)))

theorem toProgram_bind (script : Script Act Res E A) (next : A → Script Act Res E B) :
    (script >>= next).toProgram exec = script.toProgram exec >>= fun value => (next value).toProgram exec := by
  change (bind next script).toProgram exec = Program.bind _ (script.toProgram exec)
  induction script with
  | done result => cases result <;> rfl
  | act action after ih =>
    simp only [bind, toProgram, Program.bind, ih]

theorem toProgram_perform (action : Act) :
    (perform action : Script Act Res E (Res action)).toProgram exec = Program.attempt (exec action) := by
  simp only [perform, toProgram, Program.attempt]
  congr 1
  funext state
  cases exec action state <;> rfl

theorem run_act (action : Act) {next : Except E (Res action) → Script Act Res E A} {state after : S} {value : Res action}
    (executed : exec action state = .ok (after, value)) :
    ((act action next).toProgram exec).run state = ((next (.ok value)).toProgram exec).run after := by
  simp only [toProgram, Program.run, executed]
  rfl

theorem keeps_toProgram {T : Type} {view : S → T}
    (keeps : ∀ action state next value, exec action state = .ok (next, value) → view next = view state)
    (script : Script Act Res E A) : (script.toProgram exec).Keeps view := by
  induction script with
  | done result => trivial
  | act action after ih =>
    refine ⟨fun state => ?_, fun state => ih _, fun error => ih _⟩
    dsimp only
    split
    · next executed => exact keeps action state _ _ executed
    · rfl

end Interpretation

/-- A property of every action that the script may come to, and of what it goes on with. -/
def Everywhere (property : (action : Act) → (Except E (Res action) → Script Act Res E A) → Prop) :
    Script Act Res E A → Prop
  | .done _ => True
  | .act action next => property action next ∧ ∀ result, (next result).Everywhere property

def pending : Script Act Res E A → Option Act
  | .done _ => none
  | .act action _ => some action

variable {script : Script Act Res E A} {action : Act}

section Everywhere

variable {property : (action : Act) → (Except E (Res action) → Script Act Res E A) → Prop}

theorem everywhere_act {after : Except E (Res action) → Script Act Res E A} (holds : property action after)
    (rest : ∀ result, (after result).Everywhere property) : (act action after).Everywhere property :=
  ⟨holds, rest⟩

theorem Everywhere.mono {weaker : (action : Act) → (Except E (Res action) → Script Act Res E A) → Prop}
    (everywhere : script.Everywhere property) (implies : ∀ action next, property action next → weaker action next) :
    script.Everywhere weaker := by
  induction script with
  | done result => trivial
  | act action after ih => exact ⟨implies _ _ everywhere.1, fun result => ih result (everywhere.2 result)⟩

theorem Everywhere.pending {holds : Act → Prop} (everywhere : script.Everywhere fun action _ => holds action)
    (next : script.pending = some action) : holds action := by
  cases script with
  | done result => cases next
  | act first after =>
    cases next
    exact everywhere.1

theorem Everywhere.ahead {holds : Act → Prop} (everywhere : script.Everywhere fun action _ => holds action) :
    script.Everywhere fun _ next => ∀ result action, (next result).pending = some action → holds action := by
  induction script with
  | done result => trivial
  | act action after ih =>
    exact ⟨fun result _ next => (everywhere.2 result).pending next, fun result => ih result (everywhere.2 result)⟩

theorem everywhere_require (result : Except E A) : (require result).Everywhere property := trivial

theorem everywhere_bind {script : Script Act Res E B} {next : B → Script Act Res E A}
    (first : script.Everywhere fun action after => property action fun result => after result >>= next)
    (rest : ∀ value, (next value).Everywhere property) : (script >>= next).Everywhere property := by
  change (bind next script).Everywhere property
  induction script with
  | done result =>
    cases result with
    | ok value => exact rest value
    | error error => trivial
  | act action after ih => exact ⟨first.1, fun result => ih result (first.2 result)⟩

theorem everywhere_perform {next : Res action → Script Act Res E A}
    (holds : property action fun result => done result >>= next) (rest : ∀ value, (next value).Everywhere property) :
    (perform action >>= next).Everywhere property :=
  everywhere_bind (everywhere_act holds fun _ => trivial) rest

end Everywhere

def Ends (property : A → Prop) : Script Act Res E A → Prop
  | .done (.ok value) => property value
  | .done (.error _) => True
  | .act _ next => ∀ result, (next result).Ends property

theorem ends_act {property : A → Prop} {after : Except E (Res action) → Script Act Res E A}
    (rest : ∀ value, (after (.ok value)).Ends property) (fails : ∀ error, (after (.error error)).Ends property) :
    (act action after).Ends property
  | .ok value => rest value
  | .error error => fails error

theorem ends_bind {property : B → Prop} {next : A → Script Act Res E B}
    (rest : script.Ends fun value => (next value).Ends property) : (script >>= next).Ends property := by
  change (bind next script).Ends property
  induction script with
  | done result =>
    cases result with
    | ok value => exact rest
    | error error => trivial
  | act action after ih => exact fun result => ih result (rest result)

end Script

end RealtimeChat.Foundation
