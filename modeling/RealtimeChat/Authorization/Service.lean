import RealtimeChat.Foundation.Decimal
import RealtimeChat.Foundation.Expiring
import RealtimeChat.Accounts.Users

/-! The questions that the authorization service answers.

A question is about one account: its role, or whether it is suspended. Each has
a key in the cache, a column in the database and a text for its values. An
account that is not found has the default role and is not suspended.
-/

set_option autoImplicit false

namespace RealtimeChat.Authorization

open Foundation Accounts Security

inductive Question where
  | role (userId : UserId)
  | banned (userId : UserId)
  deriving DecidableEq, Repr

namespace Question

abbrev Value : Question → Type
  | .role _ => Role
  | .banned _ => Bool

instance (question : Question) : DecidableEq question.Value :=
  match question with
  | .role _ => inferInstanceAs (DecidableEq Role)
  | .banned _ => inferInstanceAs (DecidableEq Bool)

def roleKey (userId : UserId) : String := "authz:role:" ++ toString userId

def banKey (userId : UserId) : String := "authz:banned:" ++ toString userId

def key : Question → String
  | .role userId => roleKey userId
  | .banned userId => banKey userId

def find (users : UserTable) : (question : Question) → question.Value
  | .role userId => (findRole users userId).getD defaultRole
  | .banned userId => (isBanned users userId).getD false

def encode : (question : Question) → question.Value → String
  | .role _, held => Role.toString held
  | .banned _, held => if (show Bool from held) then "1" else "0"

/-- A text that is no role counts as a miss; any text is an answer about a suspension. -/
def decode : (question : Question) → String → Option question.Value
  | .role _, text => parseRole text
  | .banned _, text => some (decide (text = "1"))

theorem decode_encode (question : Question) (value : question.Value) :
    question.decode (question.encode value) = some value := by
  cases question with
  | role userId => exact parseRole_toString value
  | banned userId => cases value <;> rfl

theorem roleKey_ne_banKey (first second : UserId) : roleKey first ≠ banKey second := by
  intro same
  have seventh := congrArg (fun text => text.toList[6]?) same
  simp [roleKey, banKey] at seventh

theorem key_injective : Function.Injective key := by
  intro first second same
  cases first with
  | role userId =>
    cases second with
    | role other => rw [toString_int_inj.mp ((String.append_right_inj _).mp same)]
    | banned other => exact absurd same (roleKey_ne_banKey userId other)
  | banned userId =>
    cases second with
    | role other => exact absurd same.symm (roleKey_ne_banKey other userId)
    | banned other => rw [toString_int_inj.mp ((String.append_right_inj _).mp same)]

theorem find_create {users next : UserTable} {input : NewUser} {now : TimePoint} {user : User}
    (created : create users input now = .ok (next, user)) (question : Question) :
    question.find next = question.find users := by
  have absent : users.find users.next = none := Table.find_eq_none.mpr fun row member same =>
    ne_of_lt (Serial.lt_next member) same
  cases question with
  | role userId =>
    rw [find, findRole, Accounts.find_create created, find, findRole]
    split
    · next same => simp [same, absent, NewUser.row]
    · rfl
  | banned userId =>
    rw [find, isBanned, Accounts.find_create created, find, isBanned]
    split
    · next same => simp [same, absent, NewUser.row]
    · rfl

end Question

inductive Change where
  | setRole (userId : UserId) (role : Role)
  | setBanned (userId : UserId) (banned : Bool) (reason : Option String) (actorId : Option UserId)
  deriving DecidableEq, Repr

namespace Change

def apply (users : UserTable) (now : TimePoint) : Change → Result UserTable
  | .setRole userId role => (Accounts.setRole users userId role now).map Prod.fst
  | .setBanned userId banned reason actorId => Accounts.setBanned users userId banned reason actorId now

def question : Change → Question
  | .setRole userId _ => .role userId
  | .setBanned userId _ _ _ => .banned userId

theorem find_apply_ne {change : Change} {users next : UserTable} {now : TimePoint}
    (applied : change.apply users now = .ok next) {question : Question} (other : question ≠ change.question) :
    question.find next = question.find users := by
  cases change with
  | setRole userId role =>
    cases done : Accounts.setRole users userId role now with
    | error error => simp [apply, done, Except.map] at applied
    | ok result =>
      obtain rfl : result.1 = next := by simpa [apply, done, Except.map] using applied
      cases question with
      | role user =>
        have different : user ≠ userId := fun same => other (by rw [same]; rfl)
        rw [Question.find, findRole_setRole done, if_neg different]
        rfl
      | banned user =>
        rw [Question.find, isBanned_setRole done]
        rfl
  | setBanned userId banned reason actorId =>
    cases question with
    | role user =>
      rw [Question.find, findRole_setBanned applied]
      rfl
    | banned user =>
      have different : user ≠ userId := fun same => other (by rw [same]; rfl)
      rw [Question.find, isBanned_setBanned applied, if_neg different]
      rfl

end Change

end RealtimeChat.Authorization
