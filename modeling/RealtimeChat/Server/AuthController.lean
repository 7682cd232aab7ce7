import RealtimeChat.Foundation.Decimal
import RealtimeChat.Accounts.Suspension
import RealtimeChat.Chat.Requests

/-! Registration and login over HTTP.

Both answer with a pair of tokens and record a session for it, in a transaction
of its own. The session keeps the `User-Agent` header and the address of the
client as they came, which may be any bytes, in text columns of bounded width.
What they publish at the end cannot fail.
-/

set_option autoImplicit false

namespace RealtimeChat.Server

open Foundation Accounts Security Sessions
open Chat (parseJsonBody requireObject requireString)

def registerRequestFromJson (body : Json) : Result RegisterRequest := do
  requireObject body
  let username ← requireString body "username"
  let email ← requireString body "email"
  let password ← requireString body "password"
  return ⟨username, email, password⟩

/-- The handle may come under three names, of which the first that is there counts. -/
def loginIdentifier (body : Json) : Result String :=
  if (body.find "identifier").isSome then requireString body "identifier"
  else if (body.find "username").isSome then requireString body "username"
  else if (body.find "email").isSome then requireString body "email"
  else .error ⟨.validation, "Missing login identifier", "field=identifier|username|email"⟩

def loginRequestFromJson (body : Json) : Result LoginRequest := do
  requireObject body
  let identifier ← loginIdentifier body
  let password ← requireString body "password"
  return ⟨identifier, password⟩

/-- A header or an address that is missing is empty. -/
structure HttpRequest where
  body : Option Json
  userAgent : Bytes
  remoteIpAddress : Bytes

/-- What a request draws: random texts, and the clock in its tokens and its transactions. -/
structure Draws where
  salt : String
  createdAt : TimePoint
  access : Draw
  refresh : Draw
  sessionId : String
  recordedAt : TimePoint
  deriving Repr

structure UserResponse where
  id : UserId
  username : String
  email : String
  createdAt : TimePoint
  updatedAt : TimePoint
  deriving DecidableEq, Repr

def UserResponse.ofUser (user : User) : UserResponse :=
  ⟨user.id, user.username, user.email, user.createdAt, user.updatedAt⟩

structure AuthResponse (Token : Type) where
  user : UserResponse
  tokens : TokenPair Token
  deriving DecidableEq

structure SignedIn (Token : Type) extends AuthResponse Token where
  sessionId : String
  deriving DecidableEq

structure Registry (Hash : Type) where
  users : UserTable
  sessions : SessionTable Hash

variable {Token Hash : Type}

abbrev Handler (Hash : Type) := Program (Registry Hash) AppException

namespace AuthService

variable (directory : Directory Token Hash) (draws : Draws)

def buildResponse (user : User) : AuthResponse Token where
  user := .ofUser user
  tokens := issuePair directory.sessions.tokens draws.access draws.refresh user.id user.username

def registerUser (request : RegisterRequest) : Handler Hash (AuthResponse Token) := do
  let request ← Program.require request.validateAndNormalize
  let user ← Program.attempt fun registry => do
    let (users, user) ← Accounts.create registry.users
      ⟨request.username, request.email, directory.hasher.hash draws.salt request.password⟩ draws.createdAt
    return ({ registry with users := users }, user)
  return buildResponse directory draws user

def login (request : LoginRequest) : Handler Hash (AuthResponse Token) := do
  let request ← Program.require request.validateAndNormalize
  match ← Program.query fun registry => findByIdentifier registry.users request.identifier with
  | none => Program.require (.error invalidCredentials)
  | some user =>
    Program.require (if directory.hasher.verify request.password user.passwordHash then .ok ()
      else .error invalidCredentials)
    return buildResponse directory draws user

end AuthService

namespace AuthController

variable (directory : Directory Token Hash) (draws : Draws) (request : HttpRequest)

def nonEmpty (value : Bytes) : Option Bytes := if value.isEmpty then none else some value

/-- Nothing looks at the two on their way into the session. -/
def sessionFor (response : AuthResponse Token) : NewSession Hash :=
  newSession directory.sessions draws.sessionId response.user.id response.tokens.refreshToken
    (nonEmpty request.userAgent) (nonEmpty request.remoteIpAddress)

def withSession (response : AuthResponse Token) : Handler Hash (SignedIn Token) := do
  Program.attempt fun registry => do
    let sessions ← Sessions.create registry.sessions (sessionFor directory draws request response) draws.recordedAt
    return ({ registry with sessions := sessions }, ())
  return { response with sessionId := draws.sessionId }

/-- `POST /auth/register`. -/
def register : Handler Hash (SignedIn Token) := do
  let registration ← Program.require (parseJsonBody request.body >>= registerRequestFromJson)
  let response ← AuthService.registerUser directory draws registration
  withSession directory draws request response

/-- `POST /auth/login`. -/
def login : Handler Hash (SignedIn Token) := do
  let credentials ← Program.require (parseJsonBody request.body >>= loginRequestFromJson)
  let response ← AuthService.login directory draws credentials
  withSession directory draws request response

variable (registry : Registry Hash)

def admitted : Result (UserTable × User) := do
  let registration ← parseJsonBody request.body >>= registerRequestFromJson
  Accounts.registerUser directory.hasher registry.users registration draws.salt draws.createdAt

def authenticated (hasher : PasswordHasher) (users : UserTable) (body : Option Json) : Result User := do
  let credentials ← parseJsonBody body >>= loginRequestFromJson
  authenticate hasher users credentials

/-- What the database has against the header or the address. -/
def refusal (userAgent remoteIpAddress : Bytes) : Option Database.Refusal :=
  Database.refusal [] [(255, nonEmpty userAgent), (64, nonEmpty remoteIpAddress)]

/-- The session table takes a session of the request, whoever signs in. -/
def Recordable : Prop :=
  Database.Fits 64 draws.sessionId ∧ refusal request.userAgent request.remoteIpAddress = none ∧
    ∀ session ∈ registry.sessions, session.id ≠ draws.sessionId

variable {directory draws request registry}

variable (response : AuthResponse Token) (count : Nat)

theorem create_sessionFor (short : draws.sessionId.length ≤ 64)
    (fresh : ∀ session ∈ registry.sessions, session.id ≠ draws.sessionId) :
    ∃ sessions, Sessions.create registry.sessions (sessionFor directory draws request response) draws.recordedAt =
      match refusal request.userAgent request.remoteIpAddress with
      | some refusal => .error refusal.error
      | none => .ok sessions := by
  obtain ⟨sessions, created⟩ := @Sessions.create_of_fresh _ registry.sessions
    (sessionFor directory draws request response) fresh draws.recordedAt
  refine ⟨sessions, created.trans ?_⟩
  rw [NewSession.refusal, sessionFor, newSession, Database.refusal_cons (Database.fits_of_length short)]
  rfl

theorem exists_create_sessionFor :
    (∃ sessions, Sessions.create registry.sessions (sessionFor directory draws request response) draws.recordedAt =
      .ok sessions) ↔ Recordable draws request registry := by
  rw [Sessions.exists_create, NewSession.refusal, Database.refusal_eq_none, and_assoc]
  rfl

section Registration

variable (failures : Nat → Option AppException)

theorem withSession_under :
    (withSession directory draws request response).runUnder failures count registry =
      match failures count,
        Sessions.create registry.sessions (sessionFor directory draws request response) draws.recordedAt with
      | some error, _ => (registry, count + 1, .error error)
      | none, .ok sessions =>
        ({ registry with sessions := sessions }, count + 1, .ok { response with sessionId := draws.sessionId })
      | none, .error error => (registry, count + 1, .error error) := by
  rw [withSession, Program.runUnder_bind, Program.runUnder_attempt]
  cases failures count with
  | some error => rfl
  | none =>
    cases Sessions.create registry.sessions (sessionFor directory draws request response) draws.recordedAt <;> rfl

theorem registerUser_under (registration : RegisterRequest) :
    (∃ users user, failures 0 = none ∧
      Accounts.registerUser directory.hasher registry.users registration draws.salt draws.createdAt = .ok (users, user) ∧
      (AuthService.registerUser directory draws registration).runUnder failures 0 registry =
        ({ registry with users := users }, 1, .ok (AuthService.buildResponse directory draws user))) ∨
    (failures 0 = none → ∀ accepted,
      Accounts.registerUser directory.hasher registry.users registration draws.salt draws.createdAt ≠ .ok accepted) ∧
      ∃ count error, (AuthService.registerUser directory draws registration).runUnder failures 0 registry =
        (registry, count, .error error) := by
  rw [AuthService.registerUser, Program.runUnder_bind, Program.runUnder_require, Accounts.registerUser]
  cases registration.validateAndNormalize with
  | error error =>
    rw [error_bind]
    exact Or.inr ⟨fun _ _ => error_ne_ok, 0, error, rfl⟩
  | ok normal =>
    dsimp only
    rw [ok_bind, Program.runUnder_bind, Program.runUnder_attempt]
    cases failures 0 with
    | some error => exact Or.inr ⟨fun reached => absurd reached (Option.some_ne_none error), 1, error, rfl⟩
    | none =>
      cases Accounts.create registry.users ⟨normal.username, normal.email,
          directory.hasher.hash draws.salt normal.password⟩ draws.createdAt with
      | error error => exact Or.inr ⟨fun _ _ => error_ne_ok, 1, error, rfl⟩
      | ok accepted => exact Or.inl ⟨accepted.1, accepted.2, rfl, rfl, rfl⟩

theorem register_under :
    (∃ users user, failures 0 = none ∧ admitted directory draws request registry = .ok (users, user) ∧
      (register directory draws request).runUnder failures 0 registry =
        (withSession directory draws request (AuthService.buildResponse directory draws user)).runUnder failures 1
          { registry with users := users }) ∨
    (failures 0 = none → ∀ accepted, admitted directory draws request registry ≠ .ok accepted) ∧
      ∃ count error, (register directory draws request).runUnder failures 0 registry = (registry, count, .error error) := by
  rw [register, admitted, Program.runUnder_bind, Program.runUnder_require]
  cases parseJsonBody request.body >>= registerRequestFromJson with
  | error error =>
    rw [error_bind]
    exact Or.inr ⟨fun _ _ => error_ne_ok, 0, error, rfl⟩
  | ok registration =>
    dsimp only
    rw [ok_bind, Program.runUnder_bind]
    rcases @registerUser_under _ _ directory draws registry failures registration with
      ⟨users, user, reached, accepted, ran⟩ | ⟨rejected, count, error, ran⟩
    · exact Or.inl ⟨users, user, reached, accepted, by rw [ran]⟩
    · exact Or.inr ⟨rejected, count, error, by rw [ran]⟩

theorem admitted_grows {users : UserTable} {user : User}
    (accepted : admitted directory draws request registry = .ok (users, user)) :
    users.last = registry.users.last + 1 := by
  obtain ⟨registration, _, registered⟩ := bind_eq_ok.mp accepted
  exact (registerUser_eq_ok registered).2

/-- A registration that is answered with an error leaves the tables as they were exactly if, once
the account has been added, the session is recorded as well. -/
theorem refused_registration_undone_iff :
    (∀ final count error,
      (register directory draws request).runUnder failures 0 registry = (final, count, .error error) →
        final = registry) ↔
      (failures 0 = none → ∀ accepted, admitted directory draws request registry = .ok accepted →
        failures 1 = none ∧ Recordable draws request registry) := by
  rcases @register_under _ _ directory draws request registry failures with
    ⟨users, user, reached, accepted, ran⟩ | ⟨rejected, count, error, ran⟩
  · have grown : ({ registry with users := users } : Registry Hash) ≠ registry := by
      intro same
      have last := admitted_grows accepted
      rw [← congrArg Registry.users same] at last
      exact Nat.succ_ne_self _ last.symm
    have recording := @exists_create_sessionFor _ _ directory draws request { registry with users := users }
      (AuthService.buildResponse directory draws user)
    have needed : (failures 0 = none → ∀ accepted, admitted directory draws request registry = .ok accepted →
        failures 1 = none ∧ Recordable draws request registry) ↔
          failures 1 = none ∧ Recordable draws request registry :=
      ⟨fun required => required reached _ accepted, fun holds _ _ _ => holds⟩
    rw [ran, withSession_under, needed]
    cases failures 1 with
    | some error =>
      refine iff_of_false (fun undone => grown (undone _ _ _ rfl)) fun ⟨reached, _⟩ => nomatch reached
    | none =>
      cases created : Sessions.create registry.sessions (sessionFor directory draws request
          (AuthService.buildResponse directory draws user)) draws.recordedAt with
      | error error =>
        refine iff_of_false (fun undone => grown (undone _ _ _ rfl)) fun ⟨_, recordable⟩ => ?_
        obtain ⟨sessions, same⟩ := recording.mpr recordable
        exact nomatch created.symm.trans same
      | ok sessions => exact iff_of_true (fun _ _ _ same => nomatch same) ⟨rfl, recording.mp ⟨sessions, created⟩⟩
  · rw [ran]
    refine iff_of_true (fun final count error same => ?_) fun reached accepted same => absurd same (rejected reached _)
    cases same
    rfl

end Registration

def drawn (sessionId : String) : Draws := ⟨"salt", 0, ⟨"a0", 0⟩, ⟨"r0", 0⟩, sessionId, 1⟩

def evesRow : User := NewUser.row ⟨"eve", "eve@example.org", "correct horse"⟩ 0 1

def registration : Json :=
  .object [("username", .string "eve"), ("email", .string "eve@example.org"), ("password", .string "correct horse")]

/-- The header is a single byte that no text begins with. -/
def refused : Registry Payload × Nat × Result (SignedIn Payload) :=
  (register sampleDirectory (drawn "4f1a") ⟨some registration, [255], []⟩).runUnder (fun _ => none) 0
    ⟨.empty _, .empty _⟩

/-- The client is told that the request failed, and then, when it tries again without the header,
that the name is taken. -/
theorem refused_registration_kept :
    refused.2.2 = .error (Database.Refusal.encoding "0xff").error ∧ refused.1.users.table.rows.map User.username = ["eve"] ∧
      ((register sampleDirectory (drawn "9c03") ⟨some registration, [], []⟩).run refused.1).2 =
        .error ⟨.conflict, "Username is already taken", "field=username"⟩ :=
  ⟨by decide +kernel, by decide +kernel, by decide +kernel⟩

section Login

theorem authService_login_run (credentials : LoginRequest) :
    (AuthService.login directory draws credentials).run registry =
      (registry, (authenticate directory.hasher registry.users credentials).map
        (AuthService.buildResponse directory draws)) := by
  rw [AuthService.login, authenticate, Program.run_seq, Program.run_require]
  cases credentials.validateAndNormalize with
  | error error => rfl
  | ok normal =>
    dsimp only
    rw [ok_bind, Program.run_seq, Program.run_query]
    dsimp only
    cases findByIdentifier registry.users normal.identifier with
    | none => rfl
    | some user =>
      dsimp only
      cases directory.hasher.verify normal.password user.passwordHash <;> rfl

theorem withSession_run :
    ((withSession directory draws request response).run registry).2 =
      (Sessions.create registry.sessions (sessionFor directory draws request response) draws.recordedAt).map
        fun _ => { response with sessionId := draws.sessionId } := by
  rw [withSession, Program.run_seq, Program.run_attempt]
  cases Sessions.create registry.sessions (sessionFor directory draws request response) draws.recordedAt <;> rfl

/-- The session id is the text of 24 random bytes, and no session has it yet. -/
structure Fresh (draws : Draws) (registry : Registry Hash) : Prop where
  digits : draws.sessionId.length = 48
  unused : ∀ session ∈ registry.sessions, session.id ≠ draws.sessionId

theorem login_answer (fresh : Fresh draws registry) :
    ((login directory draws request).run registry).2 =
      match authenticated directory.hasher registry.users request.body with
      | .error error => .error error
      | .ok user =>
        match refusal request.userAgent request.remoteIpAddress with
        | some refusal => .error refusal.error
        | none => .ok { AuthService.buildResponse directory draws user with sessionId := draws.sessionId } := by
  rw [login, authenticated, Program.run_seq, Program.run_require]
  cases parseJsonBody request.body >>= loginRequestFromJson with
  | error error => rfl
  | ok credentials =>
    dsimp only
    rw [ok_bind, Program.run_seq, authService_login_run]
    cases authenticate directory.hasher registry.users credentials with
    | error error => rfl
    | ok user =>
      obtain ⟨sessions, created⟩ := create_sessionFor (AuthService.buildResponse directory draws user)
        (fresh.digits ▸ by decide) fresh.unused
      refine (withSession_run _).trans ?_
      rw [created]
      cases refusal request.userAgent request.remoteIpAddress <;> rfl

inductive SameOutcome : Result (SignedIn Token) → Result (SignedIn Token) → Prop where
  | signedIn {first second : SignedIn Token} (same : first.user = second.user) : SameOutcome (.ok first) (.ok second)
  | failed (error : AppException) : SameOutcome (.error error) (.error error)

theorem sameOutcome_error {first second : AppException} :
    SameOutcome (.error first : Result (SignedIn Token)) (.error second) ↔ first = second := by
  constructor
  · rintro ⟨⟩
    rfl
  · rintro rfl
    exact .failed first

theorem refusal_error_inj {first second : Database.Refusal} : first.error = second.error ↔ first = second := by
  refine ⟨fun same => ?_, congrArg Database.Refusal.error⟩
  have details := congrArg (fun error : AppException => error.details.toList) same
  simp only [Database.Refusal.error] at details
  cases first with
  | encoding sequence =>
    cases second with
    | encoding other =>
      simp only [databaseFailure, String.toList_append, List.append_assoc, List.append_cancel_left_eq,
        List.append_cancel_right_eq, String.toList_inj] at details
      rw [details]
    | width limit => simp [databaseFailure, Database.valueTooLong] at details
  | width limit =>
    cases second with
    | encoding other => simp [databaseFailure, Database.valueTooLong] at details
    | width other =>
      simp only [databaseFailure, Database.valueTooLong, String.toList_append, List.append_assoc,
        List.append_cancel_left_eq, List.append_cancel_right_eq] at details
      have digits := congrArg readDigits details
      rw [Nat.toString_eq_repr, Nat.toString_eq_repr, Nat.toList_repr, Nat.toList_repr, readDigits_toDigits,
        readDigits_toDigits] at digits
      rw [digits]

/-- A login does not depend on the header and the address exactly if the body does not prove to own
an account, or the database takes both sessions or has the same against both. -/
theorem login_indifferent_iff {first second : Registry Hash} {draws others : Draws}
    (users : first.users = second.users) (fresh : Fresh draws first) (freshToo : Fresh others second)
    (body : Option Json) (userAgent remoteIpAddress otherAgent otherAddress : Bytes) :
    SameOutcome ((login directory draws ⟨body, userAgent, remoteIpAddress⟩).run first).2
      ((login directory others ⟨body, otherAgent, otherAddress⟩).run second).2 ↔
    ∀ user, authenticated directory.hasher first.users body = .ok user →
      refusal userAgent remoteIpAddress = refusal otherAgent otherAddress := by
  rw [login_answer fresh, login_answer freshToo, ← users]
  cases authenticated directory.hasher first.users body with
  | error error => exact iff_of_true (.failed error) fun _ same => absurd same error_ne_ok
  | ok user =>
    have needed : (∀ other : User, (.ok user : Result User) = .ok other →
        refusal userAgent remoteIpAddress = refusal otherAgent otherAddress) ↔
          refusal userAgent remoteIpAddress = refusal otherAgent otherAddress :=
      ⟨fun same => same user rfl, fun same _ _ => same⟩
    rw [needed]
    dsimp only
    cases refusal userAgent remoteIpAddress with
    | none =>
      cases refusal otherAgent otherAddress with
      | none => exact iff_of_true (.signedIn rfl) rfl
      | some other => exact iff_of_false nofun (Option.some_ne_none other).symm
    | some found =>
      cases refusal otherAgent otherAddress with
      | none => exact iff_of_false nofun (Option.some_ne_none found)
      | some other => rw [sameOutcome_error, refusal_error_inj, Option.some_inj]

end Login

def credentials : Json := .object [("identifier", .string "Eve"), ("password", .string "correct horse")]

def zeros : String := String.ofList (List.replicate 48 '0')

theorem zeros_fresh : Fresh (drawn zeros) (⟨eve, .empty _⟩ : Registry Payload) :=
  ⟨by decide +kernel, fun _ member => absurd member List.not_mem_nil⟩

theorem eve_authenticated : authenticated sampleDirectory.hasher eve (some credentials) = .ok evesRow := rfl

/-- Nothing is said of either of the first two; the others are reported with the bytes that are no text. -/
theorem login_indifferent_iff_bytes :
    SameOutcome ((login sampleDirectory (drawn zeros) ⟨some credentials, [], [58, 58, 49]⟩).run ⟨eve, .empty _⟩).2
      ((login sampleDirectory (drawn zeros) ⟨some credentials, [99, 0, 255], []⟩).run ⟨eve, .empty _⟩).2 ∧
    ¬ SameOutcome ((login sampleDirectory (drawn zeros) ⟨some credentials, [255], []⟩).run ⟨eve, .empty _⟩).2
      ((login sampleDirectory (drawn zeros) ⟨some credentials, [99, 254], []⟩).run ⟨eve, .empty _⟩).2 := by
  have taken : refusal [] [58, 58, 49] = refusal [99, 0, 255] [] := by decide +kernel
  have apart : refusal [255] [] ≠ refusal [99, 254] [] := by decide +kernel
  refine ⟨(login_indifferent_iff rfl zeros_fresh zeros_fresh _ _ _ _ _).mpr fun _ _ => taken, fun same => ?_⟩
  exact apart ((login_indifferent_iff rfl zeros_fresh zeros_fresh _ _ _ _ _).mp same evesRow eve_authenticated)

theorem decode_replicate (count : Nat) :
    Database.decode (List.replicate count 97) = some (String.ofList (List.replicate count 'a')) := by
  have encoded : (List.replicate count 'a').flatMap String.utf8EncodeChar = List.replicate count 97 := by
    induction count with
    | zero => rfl
    | succ count ih =>
      rw [List.replicate_succ, List.flatMap_cons, ih]
      rfl
  have bytes : (List.replicate count 97).toByteArray = (String.ofList (List.replicate count 'a')).toByteArray := by
    rw [String.toByteArray_ofList, List.utf8Encode, encoded]
  rw [Database.decode, List.takeWhile_replicate, if_pos (by decide), bytes, String.fromUTF8?,
    dif_pos (String.isValidUTF8 _)]
  rfl

theorem refusal_long (long : 255 < count) : refusal (List.replicate count 97) [] = some (.width 255) := by
  have wide : ¬ Database.Fits 255 (String.ofList (List.replicate count 'a')) := by
    simp [Database.Fits, Database.sent, List.drop_replicate]
    omega
  have given : (List.replicate count (97 : UInt8)).isEmpty = false := by
    simp
    omega
  simp [refusal, Database.refusal, nonEmpty, given, Database.misread, decode_replicate, Database.tooLong, wide]

theorem eve_refused {userAgent : Bytes} {found : Database.Refusal} (refuses : refusal userAgent [] = some found) :
    ((login sampleDirectory (drawn zeros) ⟨some credentials, userAgent, []⟩).run ⟨eve, .empty _⟩).2 =
      .error found.error := by
  rw [login_answer zeros_fresh]
  simp only [eve_authenticated, refuses]

/-- The same credentials sign in without the header and fail with a long one. -/
theorem long_agent_refused :
    ((login sampleDirectory (drawn zeros) ⟨some credentials, [], []⟩).run ⟨eve, .empty _⟩).2.map
      (fun signedIn => signedIn.user.id) = .ok 1 ∧
    ((login sampleDirectory (drawn zeros) ⟨some credentials, List.replicate 256 97, []⟩).run ⟨eve, .empty _⟩).2 =
      .error (Database.valueTooLong 255) :=
  ⟨by decide +kernel, eve_refused (refusal_long 256 (by decide))⟩

end AuthController

end RealtimeChat.Server
