import RealtimeChat.Foundation.Program

/-! Handlers that ask before they write.

A handler asks questions of a kind `Q`, whose answers it gets from elsewhere,
and hands out writes of a kind `W`. What it knows when it writes is the list of
the answers it was given, and `Meets` is the logic of such handlers: whatever the
answers, each write is justified by them.
-/

set_option autoImplicit false

namespace RealtimeChat.Foundation

inductive Inquiry (Q : Type) (V : Q → Type) (W E A : Type) where
  | done (result : Except E A)
  | ask (question : Q) (next : V question → Inquiry Q V W E A)
  | write (change : W) (rest : Inquiry Q V W E A)

namespace Inquiry

variable {Q : Type} {V : Q → Type} {W E A B : Type}

def bind (next : A → Inquiry Q V W E B) : Inquiry Q V W E A → Inquiry Q V W E B
  | .done (.ok value) => next value
  | .done (.error error) => .done (.error error)
  | .ask question answered => .ask question fun answer => bind next (answered answer)
  | .write change rest => .write change (bind next rest)

instance : Monad (Inquiry Q V W E) where
  pure value := .done (.ok value)
  bind handler next := bind next handler

def require (result : Except E A) : Inquiry Q V W E A := .done result

def query (question : Q) : Inquiry Q V W E (V question) := .ask question pure

def emit (change : W) : Inquiry Q V W E Unit := .write change (pure ())

abbrev Answer (V : Q → Type) := (question : Q) × V question

/-- After the answers `known`, each write that the handler makes is justified, and so is its result. -/
def Meets (justified : List (Answer V) → W → Prop) (result : List (Answer V) → A → Prop) :
    List (Answer V) → Inquiry Q V W E A → Prop
  | known, .done (.ok value) => result known value
  | _, .done (.error _) => True
  | known, .ask question next => ∀ answer, Meets justified result (known ++ [⟨question, answer⟩]) (next answer)
  | known, .write change rest => justified known change ∧ Meets justified result known rest

variable {justified : List (Answer V) → W → Prop} {known : List (Answer V)}

theorem meets_bind {handler : Inquiry Q V W E A} {next : A → Inquiry Q V W E B} {result : List (Answer V) → B → Prop}
    (meets : handler.Meets justified (fun after value => (next value).Meets justified result after) known) :
    (handler >>= next).Meets justified result known := by
  change (bind next handler).Meets justified result known
  induction handler generalizing known with
  | done outcome =>
    cases outcome with
    | ok value => exact meets
    | error error => trivial
  | ask question answered ih => exact fun answer => ih answer (meets answer)
  | write change rest ih => exact ⟨meets.1, ih meets.2⟩

theorem meets_query {question : Q} {result : List (Answer V) → V question → Prop}
    (holds : ∀ answer, result (known ++ [⟨question, answer⟩]) answer) :
    (query question : Inquiry Q V W E (V question)).Meets justified result known := holds

theorem meets_emit {change : W} {result : List (Answer V) → Unit → Prop} (known_justifies : justified known change)
    (holds : result known ()) : (emit change : Inquiry Q V W E Unit).Meets justified result known :=
  ⟨known_justifies, holds⟩

theorem meets_require {outcome : Except E A} {result : List (Answer V) → A → Prop}
    (holds : ∀ value, outcome = .ok value → result known value) :
    (require outcome : Inquiry Q V W E A).Meets justified result known := by
  cases outcome with
  | ok value => exact holds value rfl
  | error error => trivial

end Inquiry

end RealtimeChat.Foundation
