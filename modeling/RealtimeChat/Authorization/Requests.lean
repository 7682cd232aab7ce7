import RealtimeChat.Foundation.Inquiry
import RealtimeChat.Authorization.Service
import RealtimeChat.Server.Admission

/-! The administration endpoints for roles and suspensions.

A handler asks the authorization service and writes to the accounts. Where its
answers come from, a cache or the database, is not its business; what is proved
here is what it has been told by the time it writes.
-/

set_option autoImplicit false

namespace RealtimeChat.Authorization

open Foundation Accounts Security Chat

abbrev Handler := Inquiry Question Question.Value Change AppException

abbrev Answer := Inquiry.Answer Question.Value

namespace Handler

def roleOf (userId : UserId) : Handler Role := Inquiry.query (Question.role userId)

def isBanned (userId : UserId) : Handler Bool := Inquiry.query (Question.banned userId)

def fail {A : Type} (error : AppException) : Handler A := Inquiry.require (.error error)

def requireActive (userId : UserId) : Handler Unit := do
  if ← isBanned userId then fail (Server.Admission.suspended userId) else pure ()

def requirePermission (userId : UserId) (permission : Permission) : Handler Unit := do
  let role ← roleOf userId
  Inquiry.require (Security.requirePermission role permission)

/-- The token has been verified: the actor is the user of its claims. -/
def authorize (actorId : UserId) (permission : Permission) : Handler Unit := do
  requireActive actorId
  requirePermission actorId permission

def requireString (body : Json) (field : String) : Result String :=
  match (body.find field).bind Json.text? with
  | some text => .ok text
  | none => .error ⟨.validation, "Missing string field: " ++ field, "field=" ++ field⟩

def requireRole (requested : String) : Result Role :=
  match parseRole requested with
  | some role => .ok role
  | none => .error ⟨.validation, "Unknown role: " ++ requested, "field=role"⟩

/-- `PUT /admin/users/<int>/role`. -/
def assignRole (actorId userId : UserId) (body : Option Json) : Handler Unit := do
  authorize actorId .manageRoles
  let body ← Inquiry.require (parseJsonBody body)
  let requested ← Inquiry.require (requireString body "role")
  let targetRole ← Inquiry.require (requireRole requested)
  let actorRole ← roleOf actorId
  if canAssignRole actorRole targetRole then Inquiry.emit (.setRole userId targetRole)
  else fail ⟨.authorization, "Cannot assign a role at or above your own",
    "actor_role=" ++ actorRole.toString ++ " target_role=" ++ targetRole.toString⟩

/-- `POST /admin/users/<int>/ban`. -/
def ban (actorId userId : UserId) (body : Option Json) : Handler Unit := do
  authorize actorId .banUsers
  if actorId = userId then fail ⟨.validation, "You cannot suspend your own account", ""⟩
  else
    let actorRole ← roleOf actorId
    let targetRole ← roleOf userId
    if actorRole.rank ≤ targetRole.rank then
      fail ⟨.authorization, "Cannot suspend an account at or above your own role", ""⟩
    else
      let body ← Inquiry.require (parseJsonBody body)
      let reason := (body.find "reason").bind Json.text?
      Inquiry.emit (.setBanned userId true reason (some actorId))

/-- `POST /admin/users/<int>/unban`: the target's role does not matter. -/
def unban (actorId userId : UserId) : Handler Unit := do
  authorize actorId .banUsers
  Inquiry.emit (.setBanned userId false none none)

end Handler

/-- `check` stands for the other requests: they ask one question and leave the accounts alone. -/
inductive Endpoint where
  | assignRole (userId : UserId) (body : Option Json)
  | ban (userId : UserId) (body : Option Json)
  | unban (userId : UserId)
  | check (question : Question)

namespace Endpoint

def handler (actorId : UserId) : Endpoint → Handler Unit
  | .assignRole userId body => Handler.assignRole actorId userId body
  | .ban userId body => Handler.ban actorId userId body
  | .unban userId => Handler.unban actorId userId
  | .check question => do
    let _ ← Inquiry.query question

def Justified (actorId : UserId) : Endpoint → List Answer → Change → Prop
  | .assignRole userId _, known, change => ∃ actorRole targetRole : Role,
      change = .setRole userId targetRole ∧ (⟨.role actorId, actorRole⟩ : Answer) ∈ known ∧
        canAssignRole actorRole targetRole = true
  | .ban userId _, known, change => ∃ (reason : Option String) (permitted actorRole targetRole : Role),
      change = .setBanned userId true reason (some actorId) ∧
        (⟨.role actorId, permitted⟩ : Answer) ∈ known ∧ hasPermission permitted .banUsers = true ∧
        (⟨.role actorId, actorRole⟩ : Answer) ∈ known ∧ (⟨.role userId, targetRole⟩ : Answer) ∈ known ∧
        targetRole.rank < actorRole.rank
  | .unban userId, _, change => change = .setBanned userId false none none
  | .check _, _, _ => False

end Endpoint

section Logic

variable {justified : List Answer → Change → Prop} {known : List Answer}

theorem roleOf_meets {userId : UserId} {result : List Answer → Role → Prop}
    (holds : ∀ role : Role, result (known ++ [⟨.role userId, role⟩]) role) :
    (Handler.roleOf userId).Meets justified result known :=
  Inquiry.meets_query holds

theorem isBanned_meets {userId : UserId} {result : List Answer → Bool → Prop}
    (holds : ∀ banned : Bool, result (known ++ [⟨.banned userId, banned⟩]) banned) :
    (Handler.isBanned userId).Meets justified result known :=
  Inquiry.meets_query holds

theorem authorize_meets {actorId : UserId} {permission : Permission} {result : List Answer → Unit → Prop}
    (holds : ∀ banned : Bool, ∀ role : Role, hasPermission role permission = true →
      result (known ++ [⟨.banned actorId, banned⟩] ++ [⟨.role actorId, role⟩]) ()) :
    (Handler.authorize actorId permission).Meets justified result known := by
  refine Inquiry.meets_bind (Inquiry.meets_bind (isBanned_meets fun banned => ?_))
  cases banned with
  | true => trivial
  | false =>
    refine Inquiry.meets_bind (roleOf_meets fun role => ?_)
    refine Inquiry.meets_require fun _ passed => holds false role ?_
    unfold Security.requirePermission at passed
    split at passed
    · assumption
    · cases passed

theorem Endpoint.handler_meets (actorId : UserId) (endpoint : Endpoint) :
    (endpoint.handler actorId).Meets (endpoint.Justified actorId) (fun _ _ => True) [] := by
  cases endpoint with
  | assignRole userId body =>
    refine Inquiry.meets_bind (authorize_meets fun banned permitted _ => ?_)
    refine Inquiry.meets_bind (Inquiry.meets_require fun body _ => ?_)
    refine Inquiry.meets_bind (Inquiry.meets_require fun requested _ => ?_)
    refine Inquiry.meets_bind (Inquiry.meets_require fun targetRole _ => ?_)
    refine Inquiry.meets_bind (roleOf_meets fun actorRole => ?_)
    split
    · next allowed => exact Inquiry.meets_emit ⟨actorRole, targetRole, rfl, by simp, allowed⟩ trivial
    · trivial
  | ban userId body =>
    refine Inquiry.meets_bind (authorize_meets fun banned permitted holds => ?_)
    split
    · trivial
    · refine Inquiry.meets_bind (roleOf_meets fun actorRole => ?_)
      refine Inquiry.meets_bind (roleOf_meets fun targetRole => ?_)
      split
      · trivial
      · next above =>
        refine Inquiry.meets_bind (Inquiry.meets_require fun body _ => ?_)
        refine Inquiry.meets_emit ?_ trivial
        exact ⟨_, permitted, actorRole, targetRole, rfl, by simp, holds, by simp, by simp, not_le.mp above⟩
  | unban userId =>
    refine Inquiry.meets_bind (authorize_meets fun _ _ _ => ?_)
    exact Inquiry.meets_emit rfl trivial
  | check question => exact Inquiry.meets_bind (Inquiry.meets_query fun _ => trivial)

end Logic

end RealtimeChat.Authorization
