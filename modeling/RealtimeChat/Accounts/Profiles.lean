import RealtimeChat.Accounts.Users
import RealtimeChat.Foundation.Json
import RealtimeChat.Foundation.Patch
import RealtimeChat.Foundation.Program

/-! Partial updates of a profile, `PUT /api/users/me`.

A member that is absent from the body leaves its column alone, null and a text
of blanks clear it, and any other text is stored without the blanks around it.
The flags of the request carry this from the body through the validation to one
`UPDATE` with a `CASE` for each column. The validation looks at whole texts, by
their byte counts, and the table gets them up to a first U+0000.
-/

set_option autoImplicit false

namespace RealtimeChat.Accounts

open Foundation Database

/-- A row of `users` with the columns that its owner writes. -/
structure Account extends User where
  displayName : Option String
  bio : Option String
  avatarUrl : Option String
  deriving DecidableEq, Repr

abbrev AccountTable := Serial fun account : Account => account.id

/-- Whether a field is supplied, and its value; a supplied `none` clears the column. -/
structure FieldUpdate where
  set : Bool
  value : Option String
  deriving DecidableEq, Repr

structure UpdateProfileRequest where
  displayName : FieldUpdate
  bio : FieldUpdate
  avatarUrl : FieldUpdate
  deriving DecidableEq, Repr

def readField (body : Json) (field : String) : Result FieldUpdate :=
  match body.find field with
  | none => .ok ⟨false, none⟩
  | some .null => .ok ⟨true, none⟩
  | some (.string value) => .ok ⟨true, some value⟩
  | some _ => .error (invalid ("Field must be a string or null: " ++ field) field)

def UpdateProfileRequest.fromJson (body : Json) : Result UpdateProfileRequest :=
  if !body.isObject then .error ⟨.validation, "Request body must be a JSON object", ""⟩
  else do
    let displayName ← readField body "display_name"
    let bio ← readField body "bio"
    let avatarUrl ← readField body "avatar_url"
    return ⟨displayName, bio, avatarUrl⟩

def normalizeOptional (value : Option String) : Option String :=
  value.bind fun text => if (trim text).isEmpty then none else some (trim text)

def isHttpUrl (url : String) : Bool :=
  "http://".toList.isPrefixOf url.toList || "https://".toList.isPrefixOf url.toList

def checkDisplayName (name : String) : Result Unit :=
  if 64 < name.utf8ByteSize then .error (invalid "Display name must be at most 64 characters" "display_name")
  else .ok ()

def checkBio (bio : String) : Result Unit :=
  if 500 < bio.utf8ByteSize then .error (invalid "Bio must be at most 500 characters" "bio") else .ok ()

def checkAvatarUrl (url : String) : Result Unit :=
  if 2048 < url.utf8ByteSize then .error (invalid "Avatar URL is too long" "avatar_url")
  else if !isHttpUrl url then .error (invalid "Avatar URL must be an http(s) URL" "avatar_url")
  else .ok ()

/-- A supplied field is normalised, and checked unless that cleared it. -/
def normalizeField (check : String → Result Unit) (field : FieldUpdate) : Result FieldUpdate :=
  if field.set then
    match normalizeOptional field.value with
    | none => .ok ⟨true, none⟩
    | some text => (check text).map fun _ => ⟨true, some text⟩
  else .ok field

def UpdateProfileRequest.validateAndNormalize (request : UpdateProfileRequest) : Result UpdateProfileRequest := do
  let displayName ← normalizeField checkDisplayName request.displayName
  let bio ← normalizeField checkBio request.bio
  let avatarUrl ← normalizeField checkAvatarUrl request.avatarUrl
  return ⟨displayName, bio, avatarUrl⟩

def FieldUpdate.given (field : FieldUpdate) : Option String := if field.set then field.value else none

/-- `CASE WHEN set THEN value ELSE column END`. -/
def FieldUpdate.caseWhen (field : FieldUpdate) (width : Nat) (column : Option String) : Option String :=
  if field.set then field.value.map (stored width) else column

/-- The trigger on `users` stamps every row that an update touches. -/
def Account.stamped (now : TimePoint) (account : Account) : Account := { account with updatedAt := now }

def Account.written (update : UpdateProfileRequest) (account : Account) : Account :=
  { account with
    displayName := update.displayName.caseWhen 64 account.displayName
    bio := update.bio.caseWhen 500 account.bio
    avatarUrl := update.avatarUrl.caseWhen 2048 account.avatarUrl }

/-- The texts that a row would take on, with the widths of their columns; a stored text fits already. -/
def UpdateProfileRequest.columns (update : UpdateProfileRequest) : List (Nat × Option String) :=
  [(64, update.displayName.given), (500, update.bio.given), (2048, update.avatarUrl.given)]

def UpdateProfileRequest.isEmpty (update : UpdateProfileRequest) : Bool :=
  !update.displayName.set && !update.bio.set && !update.avatarUrl.set

def firstRow (rows : Option Account) : Result Account :=
  rows.elim (.error ⟨.notFound, "User not found", ""⟩) .ok

inductive ProfileField where
  | displayName
  | bio
  | avatarUrl
  deriving DecidableEq, Repr

namespace ProfileField

def key : ProfileField → String
  | displayName => "display_name"
  | bio => "bio"
  | avatarUrl => "avatar_url"

end ProfileField

def Account.field (account : Account) : ProfileField → Option String
  | .displayName => account.displayName
  | .bio => account.bio
  | .avatarUrl => account.avatarUrl

def Account.withFields (values : ProfileField → Option String) (account : Account) : Account :=
  { account with displayName := values .displayName, bio := values .bio, avatarUrl := values .avatarUrl }

def Account.revised (patch : Patch ProfileField (Option String)) (time : TimePoint) (account : Account) : Account :=
  (account.withFields (patch.apply account.field)).stamped time

theorem Account.revised_revised (first second : Patch ProfileField (Option String)) (time later : TimePoint)
    (account : Account) :
    (account.revised first time).revised second later = account.revised (first.andThen second) later := by
  have fields : (account.revised first time).field = first.apply account.field := by
    funext field
    cases field <;> rfl
  rw [revised, fields, ← Patch.apply_andThen]
  rfl

def cleaned : Json → Option String
  | .string text => if (trim text).isEmpty then none else some (trim text)
  | _ => none

def kept (value : Json) : Option String := (cleaned value).map sent

def asked (body : Json) : Patch ProfileField (Option String) := fun field => (body.find field.key).map kept

def FieldUpdate.patch (field : FieldUpdate) (width : Nat) : Option (Option String) :=
  if field.set then some (field.value.map (stored width)) else none

def UpdateProfileRequest.patch (update : UpdateProfileRequest) : Patch ProfileField (Option String)
  | .displayName => update.displayName.patch 64
  | .bio => update.bio.patch 500
  | .avatarUrl => update.avatarUrl.patch 2048

variable {body : Json} {error : AppException} {update : UpdateProfileRequest} {id : UserId} {now : TimePoint}
  {accounts next : AccountTable}

inductive Outcome (patch : Patch ProfileField (Option String)) (id : UserId) (accounts : AccountTable) :
    AccountTable × Result Account → Prop where
  | missing (absent : accounts.find id = none) : Outcome patch id accounts (accounts, firstRow none)
  | revised {old : Account} {next : AccountTable} {time : TimePoint} (found : accounts.find id = some old)
      (rows : ∀ other, next.find other = if other = id then some (old.revised patch time) else accounts.find other) :
      Outcome patch id accounts (next, .ok (old.revised patch time))

theorem Outcome.andThen {first second : Patch ProfileField (Option String)}
    {middle final : AccountTable × Result Account} (one : Outcome first id accounts middle)
    (two : Outcome second id middle.1 final) : Outcome (first.andThen second) id accounts final := by
  cases one with
  | missing absent =>
    cases two with
    | missing _ => exact .missing absent
    | revised found _ =>
      rw [absent] at found
      cases found
  | @revised old next time found rows =>
    have renewed : next.find id = some (old.revised first time) := by rw [rows, if_pos rfl]
    cases two with
    | missing absent =>
      rw [renewed] at absent
      cases absent
    | @revised other last later again changes =>
      rw [renewed] at again
      cases again
      rw [Account.revised_revised] at changes ⊢
      refine .revised found fun other => ?_
      rw [changes]
      split
      · rfl
      · next different => rw [rows, if_neg different]

def oneAccount : AccountTable :=
  (Serial.empty fun account : Account => account.id).append
    (fun id => ⟨⟨id, "ada", "ada@example.org", "hash", .user, none, none, none, 0, 0⟩, some "Ada", some "Hello", none⟩)
    fun _ => rfl

end RealtimeChat.Accounts
