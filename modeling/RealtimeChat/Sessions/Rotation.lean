import RealtimeChat.Foundation.Run
import RealtimeChat.Foundation.Positions
import RealtimeChat.Security.Token
import RealtimeChat.Sessions.Repository

/-! The session service as a machine of interleaved calls.

`rotate` verifies the presented token, reads the session in one transaction,
checks what it read and issues a pair without touching the database, and writes
the new hash in a second transaction. A sign-in issues a pair and then records a
session for it. The revocations are single transactions. Every label names the
call that moves and carries what the call draws: clock readings and random ids.
A token id is never drawn twice.
-/

set_option autoImplicit false

namespace RealtimeChat.Sessions

open Foundation Security

structure SessionService (Token Hash : Type) where
  tokens : Primitives Token Hash
  refreshTtlSeconds : Int

/-- Where a call stands. `returned` keeps the row that its write found. -/
inductive Call (Token Hash : Type) where
  | issued (userId : UserId) (pair : TokenPair Token)
  | recorded (userId : UserId) (sessionId : String) (pair : TokenPair Token)
  | verified (token : Token) (sessionId : String) (claims : TokenClaims)
  | read (token : Token) (sessionId : String) (claims : TokenClaims) (session : Option (Session Hash))
  | checked (token : Token) (sessionId : String) (session : Session Hash) (pair : TokenPair Token)
  | returned (token : Token) (sessionId : String) (pair : TokenPair Token) (stored : Option (Session Hash))
  | threw (error : AppException)
  deriving DecidableEq, Repr

structure World (Token Hash : Type) where
  sessions : SessionTable Hash
  tokenIds : List String
  calls : List (Call Token Hash)
  deriving DecidableEq

inductive Action (Token : Type) where
  | buildResponse (userId : UserId) (username : String) (access refresh : Draw)
  | record (call : Nat) (sessionId : String) (userAgent ip : Option Bytes) (now : TimePoint)
  | verify (token : Token) (sessionId : String) (now : TimePoint)
  | find (call : Nat)
  | check (call : Nat) (now : TimePoint) (access refresh : Draw)
  | write (call : Nat) (now : TimePoint)
  | revoke (userId : UserId) (sessionId : String) (now : TimePoint)
  | revokeAll (userId : UserId) (now : TimePoint)
  | revokeOthers (userId : UserId) (keepSessionId : String) (now : TimePoint)
  deriving DecidableEq, Repr

variable {Token Hash : Type}

def World.initial : World Token Hash := ⟨Table.empty _, [], []⟩

def World.fresh (world : World Token Hash) (access refresh : Draw) : Bool :=
  access.id ∉ world.tokenIds && refresh.id ∉ world.tokenIds && access.id ≠ refresh.id

def World.draws (world : World Token Hash) (access refresh : Draw) : List String :=
  access.id :: refresh.id :: world.tokenIds

def newSession (service : SessionService Token Hash) (sessionId : String) (userId : UserId)
    (refreshToken : Token) (userAgent ip : Option Bytes) : NewSession Hash :=
  ⟨sessionId, userId, service.tokens.sha256Hex refreshToken, userAgent, ip, service.refreshTtlSeconds⟩

variable [DecidableEq Hash]

/-- The checks of `rotate` between its two transactions. -/
def checkSession (service : SessionService Token Hash) (token : Token) (claims : TokenClaims)
    (session : Option (Session Hash)) (now : TimePoint) : Result (Session Hash) :=
  match session with
  | none => .error ⟨.authentication, "Session is invalid or expired", ""⟩
  | some session =>
    if !session.isActive now then .error ⟨.authentication, "Session is invalid or expired", ""⟩
    else if session.userId ≠ claims.userId then
      .error ⟨.authentication, "Session does not match token", ""⟩
    else if session.refreshTokenHash ≠ service.tokens.sha256Hex token then
      .error ⟨.authentication, "Refresh token has been rotated", ""⟩
    else .ok session

def step (service : SessionService Token Hash) : Step (World Token Hash) (Action Token) :=
  fun world action =>
    match action with
    | .buildResponse userId username access refresh =>
      if world.fresh access refresh then some { world with
        tokenIds := world.draws access refresh
        calls := world.calls ++ [.issued userId (issuePair service.tokens access refresh userId username)] }
      else none
    | .record call sessionId userAgent ip now =>
      match world.calls[call]? with
      | some (.issued userId pair) =>
        match create world.sessions
            (newSession service sessionId userId pair.refreshToken userAgent ip) now with
        | .ok sessions => some { world with
            sessions := sessions
            calls := world.calls.set call (.recorded userId sessionId pair) }
        | .error error => some { world with calls := world.calls.set call (.threw error) }
      | _ => none
    | .verify token sessionId now =>
      match Security.verify service.tokens now token .refresh with
      | .ok claims => some { world with calls := world.calls ++ [.verified token sessionId claims] }
      | .error error => some { world with calls := world.calls ++ [.threw error] }
    | .find call =>
      match world.calls[call]? with
      | some (.verified token sessionId claims) => some { world with
          calls := world.calls.set call
            (.read token sessionId claims (findById world.sessions sessionId)) }
      | _ => none
    | .check call now access refresh =>
      match world.calls[call]? with
      | some (.read token sessionId claims session) =>
        match checkSession service token claims session now with
        | .ok session =>
          if world.fresh access refresh then some { world with
            tokenIds := world.draws access refresh
            calls := world.calls.set call (.checked token sessionId session
              (issuePair service.tokens access refresh claims.userId claims.username)) }
          else none
        | .error error => some { world with calls := world.calls.set call (.threw error) }
      | _ => none
    -- `UPDATE ... WHERE id = $1`: the hash and the revocation that were checked are not looked at again.
    | .write call now =>
      match world.calls[call]? with
      | some (.checked token sessionId _ pair) => some { world with
          sessions := rotate world.sessions sessionId (service.tokens.sha256Hex pair.refreshToken) now
          calls := world.calls.set call
            (.returned token sessionId pair (findById world.sessions sessionId)) }
      | _ => none
    | .revoke userId sessionId now =>
      some { world with sessions := (revoke world.sessions sessionId userId now).1 }
    | .revokeAll userId now =>
      some { world with sessions := (revokeAll world.sessions userId now).1 }
    | .revokeOthers userId keepSessionId now =>
      some { world with sessions := (revokeAllExcept world.sessions userId keepSessionId now).1 }

def Call.pending : Call Token Hash → Bool
  | .issued .. | .verified .. | .read .. | .checked .. => true
  | .recorded .. | .returned .. | .threw .. => false

/-- What one step can do. Failing calls and the three revocations are one case each. -/
inductive Effect (service : SessionService Token Hash) (world : World Token Hash) :
    Action Token → World Token Hash → Prop
  | issued {userId username access refresh} (fresh : world.fresh access refresh) :
      Effect service world (.buildResponse userId username access refresh) { world with
        tokenIds := world.draws access refresh
        calls := world.calls ++ [.issued userId (issuePair service.tokens access refresh userId username)] }
  | recorded {call sessionId userAgent ip now userId pair sessions}
      (found : world.calls[call]? = some (.issued userId pair))
      (created : create world.sessions
        (newSession service sessionId userId pair.refreshToken userAgent ip) now = .ok sessions) :
      Effect service world (.record call sessionId userAgent ip now) { world with
        sessions := sessions
        calls := world.calls.set call (.recorded userId sessionId pair) }
  | verified {token sessionId now claims}
      (accepted : Security.verify service.tokens now token .refresh = .ok claims) :
      Effect service world (.verify token sessionId now) { world with
        calls := world.calls ++ [.verified token sessionId claims] }
  | refused {token sessionId now error} :
      Effect service world (.verify token sessionId now) { world with
        calls := world.calls ++ [.threw error] }
  | read {call token sessionId claims} (found : world.calls[call]? = some (.verified token sessionId claims)) :
      Effect service world (.find call) { world with
        calls := world.calls.set call (.read token sessionId claims (findById world.sessions sessionId)) }
  | checked {call now access refresh token sessionId claims session checked}
      (found : world.calls[call]? = some (.read token sessionId claims session))
      (passed : checkSession service token claims session now = .ok checked)
      (fresh : world.fresh access refresh) :
      Effect service world (.check call now access refresh) { world with
        tokenIds := world.draws access refresh
        calls := world.calls.set call (.checked token sessionId checked
          (issuePair service.tokens access refresh claims.userId claims.username)) }
  | wrote {call now token sessionId session pair}
      (found : world.calls[call]? = some (.checked token sessionId session pair)) :
      Effect service world (.write call now) { world with
        sessions := rotate world.sessions sessionId (service.tokens.sha256Hex pair.refreshToken) now
        calls := world.calls.set call
          (.returned token sessionId pair (findById world.sessions sessionId)) }
  | failed {action call old error} (found : world.calls[call]? = some old) (pending : old.pending)
      (other : ∀ call now, action ≠ .write call now) :
      Effect service world action { world with calls := world.calls.set call (.threw error) }
  | revoked {action matching now} (other : ∀ call now, action ≠ .write call now) :
      Effect service world action { world with sessions := (revokeWhere world.sessions matching now).1 }

theorem step_effect {service : SessionService Token Hash} {world next : World Token Hash}
    {action : Action Token} (moves : step service world action = some next) :
    Effect service world action next := by
  cases action with
  | buildResponse userId username access refresh =>
    simp only [step] at moves
    split at moves
    · next fresh =>
      cases moves
      exact .issued fresh
    · cases moves
  | record call sessionId userAgent ip now =>
    simp only [step] at moves
    split at moves
    · next found =>
      split at moves
      · next created =>
        cases moves
        exact .recorded found created
      · cases moves
        exact .failed found rfl (by simp)
    · cases moves
  | verify token sessionId now =>
    simp only [step] at moves
    split at moves
    · next accepted =>
      cases moves
      exact .verified accepted
    · cases moves
      exact .refused
  | find call =>
    simp only [step] at moves
    split at moves
    · next found =>
      cases moves
      exact .read found
    · cases moves
  | check call now access refresh =>
    simp only [step] at moves
    split at moves
    · next found =>
      split at moves
      · next passed =>
        split at moves
        · next fresh =>
          cases moves
          exact .checked found passed fresh
        · cases moves
      · cases moves
        exact .failed found rfl (by simp)
    · cases moves
  | write call now =>
    simp only [step] at moves
    split at moves
    · next found =>
      cases moves
      exact .wrote found
    · cases moves
  | revoke | revokeAll | revokeOthers =>
    cases moves
    exact .revoked (by simp)

theorem checkSession_eq_ok {service : SessionService Token Hash} {token : Token} {claims : TokenClaims}
    {session : Option (Session Hash)} {now : TimePoint} {checked : Session Hash}
    (passed : checkSession service token claims session now = .ok checked) :
    session = some checked ∧ checked.isActive now ∧ checked.userId = claims.userId ∧
      checked.refreshTokenHash = service.tokens.sha256Hex token := by
  unfold checkSession at passed
  split at passed
  · cases passed
  · split at passed
    · cases passed
    · next active =>
      split at passed
      · cases passed
      · next user =>
        split at passed
        · cases passed
        · next hash =>
          cases passed
          exact ⟨rfl, by simpa using active, by simpa using user, by simpa using hash⟩

end RealtimeChat.Sessions
