import RealtimeChat.Foundation.Serial
import RealtimeChat.Security.Role
import RealtimeChat.Accounts.Validation
import RealtimeChat.Database.Columns

/-! The `users` table, its repositories and the user service.

Ids come from a sequence. User names and addresses are unique up to letter case.
They reach the table, as every text does, only up to a first U+0000.
-/

set_option autoImplicit false

namespace RealtimeChat.Accounts

open Foundation Security Database

structure User where
  id : UserId
  username : String
  email : String
  passwordHash : String
  role : Role
  bannedAt : Option TimePoint
  banReason : Option String
  bannedBy : Option UserId
  createdAt : TimePoint
  updatedAt : TimePoint
  deriving DecidableEq, Repr

abbrev UserTable := Serial User.id

structure NewUser where
  username : String
  email : String
  passwordHash : String
  deriving DecidableEq, Repr

/-- The bcrypt hasher; `hash` draws a salt. -/
structure PasswordHasher where
  hash : (salt password : String) → String
  verify : (password hash : String) → Bool

def plainHasher : PasswordHasher := ⟨fun _ password => password, fun password hash => password = hash⟩

def hasUsername (users : UserTable) (username : String) : Bool :=
  users.table.rows.any fun user => toLower user.username = toLower (sent username)

def hasEmail (users : UserTable) (email : String) : Bool :=
  users.table.rows.any fun user => toLower user.email = toLower (sent email)

def NewUser.row (input : NewUser) (now : TimePoint) (id : UserId) : User :=
  ⟨id, sent input.username, sent input.email, input.passwordHash, defaultRole, none, none, none, now, now⟩

/-- The text of a unique violation: the index, and the key that is taken. -/
def uniqueViolation (index column value : String) : String :=
  "ERROR:  duplicate key value violates unique constraint \"" ++ index ++ "\"\nDETAIL:  Key (lower(" ++
    column ++ "::text))=(" ++ value ++ ") already exists.\n"

/-- The conflict is told apart by a search for "email" in the whole text, the key included. -/
def conflictFor (what : String) : AppException :=
  if what.toList.tails.any fun text => "email".toList.isPrefixOf text then
    ⟨.conflict, "Email is already registered", "field=email"⟩
  else ⟨.conflict, "Username is already taken", "field=username"⟩

/-- PostgreSQL checks the index on the user name first. -/
def create (users : UserTable) (input : NewUser) (now : TimePoint) : Result (UserTable × User) :=
  if hasUsername users input.username then
    .error (conflictFor (uniqueViolation "ux_users_username_lower" "username" (toLower (sent input.username))))
  else if hasEmail users input.email then
    .error (conflictFor (uniqueViolation "ux_users_email_lower" "email" (toLower (sent input.email))))
  else .ok (users.append (input.row now) (fun _ => rfl), input.row now users.next)

def findByIdentifier (users : UserTable) (identifier : String) : Option User :=
  users.table.rows.find? fun user =>
    toLower user.username = toLower (sent identifier) || toLower user.email = toLower (sent identifier)

def isBanned (users : UserTable) (userId : UserId) : Option Bool :=
  (users.find userId).map fun user => user.bannedAt.isSome

def findRole (users : UserTable) (userId : UserId) : Option Role :=
  (users.find userId).map User.role

def userNotFound (userId : UserId) : AppException :=
  ⟨.notFound, "User not found", "user_id=" ++ toString userId⟩

/-- One statement for both directions: banning stamps the three columns, reinstating clears them. -/
def setBanned (users : UserTable) (userId : UserId) (banned : Bool) (reason : Option String)
    (actorId : Option UserId) (now : TimePoint) : Result UserTable :=
  match users.find userId with
  | none => .error (userNotFound userId)
  | some _ => .ok (users.updateWhere (fun user => user.id = userId) (fun user => { user with
      bannedAt := if banned then some now else none
      banReason := if banned then reason else none
      bannedBy := if banned then actorId else none
      updatedAt := now }) fun _ => rfl)

/-- The previous role comes back with the table. -/
def setRole (users : UserTable) (userId : UserId) (role : Role) (now : TimePoint) : Result (UserTable × Role) :=
  match users.find userId with
  | none => .error (userNotFound userId)
  | some user => .ok (users.updateWhere (fun user => user.id = userId) (fun user => { user with
      role := role
      updatedAt := now }) (fun _ => rfl), user.role)

def registerUser (hasher : PasswordHasher) (users : UserTable) (request : RegisterRequest) (salt : String)
    (now : TimePoint) : Result (UserTable × User) := do
  let request ← request.validateAndNormalize
  create users ⟨request.username, request.email, hasher.hash salt request.password⟩ now

def invalidCredentials : AppException := ⟨.authentication, "Invalid credentials", ""⟩

/-- Nothing here reads the suspension of the account. -/
def authenticate (hasher : PasswordHasher) (users : UserTable) (request : LoginRequest) : Result User := do
  let request ← request.validateAndNormalize
  match findByIdentifier users request.identifier with
  | none => .error invalidCredentials
  | some user =>
    if hasher.verify request.password user.passwordHash then .ok user else .error invalidCredentials

variable {users next : UserTable} {input : NewUser} {now : TimePoint} {user : User} {userId other : UserId}
  {banned : Bool} {reason : Option String} {actorId : Option UserId} {role previous : Role}

section

variable (created : create users input now = .ok (next, user))

include created

theorem create_adds : hasUsername users input.username = false ∧ hasEmail users input.email = false ∧
      next = users.append (input.row now) (fun _ => rfl) ∧ user = input.row now users.next := by
  unfold create at created
  split at created
  · cases created
  · next free =>
    split at created
    · cases created
    · next unused =>
      cases created
      exact ⟨by simpa using free, by simpa using unused, rfl, rfl⟩

theorem create_eq_ok : user.id = users.next ∧ next.last = users.last + 1 := by
  obtain ⟨_, _, rfl, rfl⟩ := create_adds created
  exact ⟨rfl, rfl⟩

theorem find_create (userId : UserId) :
    next.find userId = if userId = users.next then some (input.row now users.next) else users.find userId := by
  obtain ⟨_, _, rfl, _⟩ := create_adds created
  exact Serial.find_append users (input.row now) (fun _ => rfl) userId

end

theorem isBanned_eq_true :
    isBanned users userId = some true ↔ ∃ user ∈ users, user.id = userId ∧ user.bannedAt.isSome = true := by
  simp [isBanned, Serial.find_eq_some, and_assoc]

theorem isBanned_setBanned (done : setBanned users userId banned reason actorId now = .ok next) :
    isBanned next other = if other = userId then some banned else isBanned users other := by
  unfold setBanned at done
  split at done
  · cases done
  · next user found =>
    cases done
    rw [isBanned, Serial.find_updateKey]
    split
    · cases banned <;> simp [found]
    · rfl

theorem findRole_setBanned (done : setBanned users userId banned reason actorId now = .ok next) :
    findRole next other = findRole users other := by
  unfold setBanned at done
  split at done
  · cases done
  · cases done
    rw [findRole, Serial.find_updateKey, findRole]
    split
    · next same => simp [same, Function.comp_def]
    · rfl

theorem isBanned_setRole (done : setRole users userId role now = .ok (next, previous)) :
    isBanned next other = isBanned users other := by
  unfold setRole at done
  split at done
  · cases done
  · cases done
    rw [isBanned, Serial.find_updateKey, isBanned]
    split
    · next same => simp [same, Function.comp_def]
    · rfl

theorem findRole_setRole (done : setRole users userId role now = .ok (next, previous)) :
    findRole next other = if other = userId then some role else findRole users other := by
  unfold setRole at done
  split at done
  · cases done
  · next user found =>
    cases done
    rw [findRole, Serial.find_updateKey]
    split
    · simp [found]
    · rfl

theorem isBanned_of_create (created : create users input now = .ok (next, user))
    (banned : isBanned next userId = some true) : isBanned users userId = some true := by
  obtain ⟨_, _, rfl, _⟩ := create_adds created
  obtain ⟨row, member, same, stamped⟩ := isBanned_eq_true.mp banned
  rcases Serial.mem_append.mp member with old | rfl
  · exact isBanned_eq_true.mpr ⟨row, old, same, stamped⟩
  · cases stamped

def ann : UserTable :=
  (Serial.empty User.id).append (fun id => ⟨id, "ann", "ann@example.com", "hash", .user, none, none, none, 0, 0⟩)
    fun _ => rfl

end RealtimeChat.Accounts
