import RealtimeChat.Foundation.Pool

/-! Rely and guarantee for the calls of a pool.

One relation says both what a call may do to the state and what it has to
expect from the others. A call meets it, seen from the state in which it acted
last, when each of its actions is within the relation from every state that the
others may have made in between. Where all calls do so, a whole run is within it.
-/

set_option autoImplicit false

namespace RealtimeChat.Foundation

variable {S Env Op Act : Type} {Res : Act → Type} {E A B : Type}

namespace Script

/-- `seen` is the state in which the script acted last. -/
def Meets (exec : (action : Act) → S → Except E (S × Res action)) (rely : S → S → Prop) (post : A → S → Prop) :
    S → Script Act Res E A → Prop
  | seen, .done (.ok value) => post value seen
  | _, .done (.error _) => True
  | seen, .act action next => ∀ state, rely seen state →
      (∀ after value, exec action state = .ok (after, value) →
        rely state after ∧ Meets exec rely post after (next (.ok value))) ∧
      ∀ error, Meets exec rely post state (next (.error error))

variable {exec : (action : Act) → S → Except E (S × Res action)} {rely : S → S → Prop} {seen : S}

variable {script : Script Act Res E A}

theorem meets_bind {post : B → S → Prop} {next : A → Script Act Res E B}
    (meets : script.Meets exec rely (fun value state => (next value).Meets exec rely post state) seen) :
    (script >>= next).Meets exec rely post seen := by
  change (bind next script).Meets exec rely post seen
  induction script generalizing seen with
  | done result =>
    cases result with
    | ok value => exact meets
    | error error => trivial
  | act action after ih =>
    intro state within
    obtain ⟨acts, fails⟩ := meets state within
    refine ⟨fun final value executed => ?_, fun error => ih _ (fails error)⟩
    obtain ⟨guaranteed, rest⟩ := acts final value executed
    exact ⟨guaranteed, ih _ rest⟩

variable {post : A → S → Prop}

theorem meets_act {action : Act} {next : Except E (Res action) → Script Act Res E A}
    (acts : ∀ state after value, rely seen state → exec action state = .ok (after, value) →
      rely state after ∧ (next (.ok value)).Meets exec rely post after)
    (fails : ∀ state error, rely seen state → (next (.error error)).Meets exec rely post state) :
    (act action next).Meets exec rely post seen :=
  fun state within => ⟨fun after value executed => acts state after value within executed,
    fun error => fails state error within⟩

theorem meets_of_everywhere {property : (action : Act) → (Except E (Res action) → Script Act Res E A) → Prop}
    (acts : ∀ action next state after value, property action next → exec action state = .ok (after, value) →
      rely state after) (everywhere : script.Everywhere property) : script.Meets exec rely (fun _ _ => True) seen := by
  induction script generalizing seen with
  | done result => cases result <;> trivial
  | act action next ih =>
    refine meets_act (fun state after value within executed => ⟨?_, ih _ (everywhere.2 _)⟩)
      fun state error within => ih _ (everywhere.2 _)
    exact acts action next state after value everywhere.1 executed

theorem meets_done {value : A} (holds : post value seen) :
    (done (.ok value) : Script Act Res E A).Meets exec rely post seen := holds

theorem meets_require {result : Except E A} (holds : ∀ value, result = .ok value → post value seen) :
    (require result : Script Act Res E A).Meets exec rely post seen := by
  cases result with
  | ok value => exact holds value rfl
  | error error => trivial

theorem meets_always (holds : ∀ value state, post value state) : script.Meets exec (fun _ _ => True) post seen := by
  induction script generalizing seen with
  | done result =>
    cases result with
    | ok value => exact holds value seen
    | error error => trivial
  | act action next ih => exact meets_act (fun _ _ _ _ _ => ⟨trivial, ih _⟩) fun _ _ _ => ih _

theorem Meets.mono {post weaker : A → S → Prop} (meets : script.Meets exec rely post seen)
    (implies : ∀ value state, post value state → weaker value state) : script.Meets exec rely weaker seen := by
  induction script generalizing seen with
  | done result =>
    cases result with
    | ok value => exact implies value seen meets
    | error error => trivial
  | act action next ih =>
    intro state within
    obtain ⟨acts, fails⟩ := meets state within
    refine ⟨fun after value executed => ?_, fun error => ih _ (fails error)⟩
    obtain ⟨guaranteed, rest⟩ := acts after value executed
    exact ⟨guaranteed, ih _ rest⟩

end Script

/-- Every call of the system meets the relation from any state, and so does the environment. -/
structure Rely (system : System S Env Op Act Res E A) (rely : S → S → Prop) (post : Op → A → S → Prop) : Prop where
  refl : ∀ state, rely state state
  trans : ∀ {first second third}, rely first second → rely second third → rely first third
  moves : ∀ env state, rely state (system.move env state)
  bodies : ∀ operation state, (system.body operation).Meets system.exec rely (post operation) state

/-- The call meets the relation, seen from a state that the present one is reached from within it. -/
def Call.Bound (system : System S Env Op Act Res E A) (rely : S → S → Prop) (post : Op → A → S → Prop) (state : S)
    (call : Call Op Act Res E A) : Prop :=
  ∃ seen, rely seen state ∧ call.script.Meets system.exec rely (post call.operation) seen

namespace Rely

variable {system : System S Env Op Act Res E A} {rely : S → S → Prop} {post : Op → A → S → Prop}
  {pool next final : Pool S Op Act Res E A}

section

variable (rules : Rely system rely post) (bound : ∀ call ∈ pool.calls, call.Bound system rely post pool.state)

include rules bound

theorem step {label : Pool.Label Env Op E} (effect : system.Effect pool label next) :
    rely pool.state next.state ∧ ∀ call ∈ next.calls, call.Bound system rely post next.state := by
  have carry {state : S} (within : rely pool.state state) :
      ∀ call ∈ pool.calls, call.Bound system rely post state := by
    intro call member
    obtain ⟨seen, before, meets⟩ := bound call member
    exact ⟨seen, rules.trans before within, meets⟩
  cases effect with
  | started operation =>
    refine ⟨rules.refl _, forall_mem_concat bound ?_⟩
    exact ⟨pool.state, rules.refl _, rules.bodies operation pool.state⟩
  | moved env => exact ⟨rules.moves env pool.state, carry (rules.moves env pool.state)⟩
  | acted found executed =>
    -- The call that acts is seen from the state it leaves; the others are carried there.
    obtain ⟨seen, before, meets⟩ := bound _ (List.mem_of_getElem? found)
    obtain ⟨guaranteed, rest⟩ := (meets pool.state before).1 _ _ executed
    exact ⟨guaranteed, forall_mem_set (carry guaranteed) ⟨_, rules.refl _, rest⟩⟩
  | refused found executed =>
    obtain ⟨seen, before, meets⟩ := bound _ (List.mem_of_getElem? found)
    exact ⟨rules.refl _, forall_mem_set bound ⟨_, rules.refl _, (meets pool.state before).2 _⟩⟩
  | failed error found =>
    obtain ⟨seen, before, meets⟩ := bound _ (List.mem_of_getElem? found)
    exact ⟨rules.refl _, forall_mem_set bound ⟨_, rules.refl _, (meets pool.state before).2 error⟩⟩

theorem run {labels : List (Pool.Label Env Op E)} (runs : system.step.run pool labels = some final) :
    rely pool.state final.state ∧ ∀ call ∈ final.calls, call.Bound system rely post final.state := by
  induction labels generalizing pool with
  | nil =>
    cases runs
    exact ⟨rules.refl _, bound⟩
  | cons label rest ih =>
    obtain ⟨next, moves, runs⟩ := Step.run_cons.mp runs
    obtain ⟨first, bound⟩ := rules.step bound (System.step_effect moves)
    obtain ⟨later, bound⟩ := ih bound runs
    exact ⟨rules.trans first later, bound⟩

end

end Rely

end RealtimeChat.Foundation
