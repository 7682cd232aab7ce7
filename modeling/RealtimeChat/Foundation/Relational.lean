import RealtimeChat.Foundation.Program

/-! Two runs of a program.

Two programs act alike when, from related states, each action of one leaves a
state related to what the same action of the other leaves, and both end in
related values or in the same exception. What the relation of the states leaves
open is then never seen in the results.
-/

set_option autoImplicit false

namespace RealtimeChat.Foundation

variable {S E A B C D : Type} {states : S → S → Prop}

def Outcomes (values : A → B → Prop) : Except E A → Except E B → Prop
  | .ok first, .ok second => values first second
  | .error first, .error second => first = second
  | _, _ => False

theorem outcomes_eq {first second : Except E A} : Outcomes Eq first second ↔ first = second := by
  cases first <;> cases second <;> simp [Outcomes]

namespace Program

inductive Alike (states : S → S → Prop) (values : A → B → Prop) : Program S E A → Program S E B → Prop where
  | done {first : Except E A} {second : Except E B} (related : Outcomes values first second) :
      Alike states values (.done first) (.done second)
  | atomic {update update' : S → S} {rest : S → Program S E A} {rest' : S → Program S E B}
      {rescue : E → Program S E A} {rescue' : E → Program S E B}
      (updates : ∀ {first second}, states first second → states (update first) (update' second))
      (rests : ∀ {first second}, states first second → Alike states values (rest first) (rest' second))
      (rescues : ∀ error, Alike states values (rescue error) (rescue' error)) :
      Alike states values (.atomic update rest rescue) (.atomic update' rest' rescue')

variable {values : A → B → Prop} {program : Program S E A} {program' : Program S E B} {next : A → Program S E C}

theorem alike_require {first : Except E A} {second : Except E B} (related : Outcomes values first second) :
    Alike states values (require first) (require second) :=
  .done related

theorem alike_pure {first : A} {second : B} (related : values first second) :
    Alike states values (pure first : Program S E A) (pure second : Program S E B) :=
  .done related

theorem alike_bind {between : A → B → Prop} {values : C → D → Prop} {next' : B → Program S E D}
    (first : Alike states between program program')
    (rest : ∀ value value', between value value' → Alike states values (next value) (next' value')) :
    Alike states values (program >>= next) (program' >>= next') := by
  change Alike states values (bind next program) (bind next' program')
  induction first with
  | @done result result' related =>
    cases result with
    | ok value =>
      cases result' with
      | ok value' => exact rest value value' related
      | error error => exact related.elim
    | error error =>
      cases result' with
      | ok value' => exact related.elim
      | error error' => exact .done related
  | atomic updates rests rescues ihRests ihRescues => exact .atomic updates ihRests ihRescues

theorem alike_bind_eq {values : C → D → Prop} {program' : Program S E A} {next' : A → Program S E D}
    (first : Alike states Eq program program') (rest : ∀ value, Alike states values (next value) (next' value)) :
    Alike states values (program >>= next) (program' >>= next') :=
  alike_bind first fun value _ same => same ▸ rest value

theorem alike_attempt {action : S → Except E (S × A)} {action' : S → Except E (S × B)}
    (related : ∀ {first second}, states first second →
      Outcomes (fun after after' => states after.1 after'.1 ∧ values after.2 after'.2) (action first) (action' second)) :
    Alike states values (attempt action) (attempt action') := by
  refine .atomic (fun {first second} same => ?_) (fun {first second} same => .done ?_) fun error => .done rfl
  all_goals
    have outcome := related same
    cases left : action first <;> cases right : action' second <;> rw [left, right] at outcome
  · exact same
  · exact outcome.elim
  · exact outcome.elim
  · exact outcome.1
  · exact outcome
  · exact outcome.elim
  · exact outcome.elim
  · exact outcome.2

theorem alike_query {read : S → A} {read' : S → B}
    (related : ∀ {first second}, states first second → values (read first) (read' second)) :
    Alike states values (query read : Program S E A) (query read') := by
  refine alike_attempt fun same => ?_
  exact ⟨same, related same⟩

theorem alike_modify {update update' : S → S}
    (updates : ∀ {first second}, states first second → states (update first) (update' second)) :
    Alike states Eq (modify update : Program S E Unit) (modify update') := by
  refine alike_attempt fun same => ?_
  exact ⟨updates same, rfl⟩

/-- Programs that act alike show no difference under any pattern of failures. -/
theorem Alike.runUnder (alike : Alike states values program program') (failures : Nat → Option E) (count : Nat)
    {first second : S} (same : states first second) :
    states (program.runUnder failures count first).1 (program'.runUnder failures count second).1 ∧
      Outcomes values (program.runUnder failures count first).2.2 (program'.runUnder failures count second).2.2 := by
  induction alike generalizing count first second with
  | done related => exact ⟨same, related⟩
  | atomic updates rests rescues ihRests ihRescues =>
    simp only [Program.runUnder]
    cases failures count with
    | none => exact ihRests same (count + 1) (updates same)
    | some error => exact ihRescues error (count + 1) same

end Program

end RealtimeChat.Foundation
