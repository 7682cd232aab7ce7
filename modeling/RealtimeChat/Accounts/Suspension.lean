import RealtimeChat.Accounts.Users
import RealtimeChat.Sessions.Rotation

/-! Suspending an account while it signs in and refreshes.

The ban handler sets the flag, drops the cached decision and revokes every
session, each in its own step. Sign-ins read the account, issue a pair and
record a session; refreshes are the rotations of the session service. All of
them interleave. Neither a sign-in nor a refresh reads the flag.
-/

set_option autoImplicit false

namespace RealtimeChat.Accounts

open Foundation Security

structure Directory (Token Hash : Type) where
  sessions : Sessions.SessionService Token Hash
  hasher : PasswordHasher

/-- A login or a registration up to the point where its pair is issued. -/
inductive SignIn where
  | authenticated (user : User)
  | responded
  | threw (error : AppException)
  deriving DecidableEq, Repr

inductive BanPhase where
  | committed
  | invalidated
  | finished
  deriving DecidableEq, Repr

/-- A run of the ban handler. `lifted` says that the account has been reinstated since it committed. -/
structure Ban where
  userId : UserId
  phase : BanPhase
  lifted : Bool
  deriving DecidableEq, Repr

structure World (Token Hash : Type) where
  users : UserTable
  sessions : Sessions.World Token Hash
  signIns : List SignIn
  bans : List Ban
  deriving DecidableEq

/-- Roles are what `role_of` returned to the handler, possibly from its cache. -/
inductive Action (Token : Type) where
  | login (request : LoginRequest)
  | register (request : RegisterRequest) (salt : String) (now : TimePoint)
  | respond (signIn : Nat) (access refresh : Draw)
  | session (action : Sessions.Action Token)
  | ban (actorId userId : UserId) (actorRole targetRole : Role) (reason : Option String) (now : TimePoint)
  | invalidate (ban : Nat)
  | revokeAll (ban : Nat) (now : TimePoint)
  | unban (userId : UserId) (actorRole : Role) (now : TimePoint)
  deriving DecidableEq, Repr

variable {Token Hash : Type}

def World.start (users : UserTable) : World Token Hash := ⟨users, Sessions.World.initial, [], []⟩

def banChecks (actorId userId : UserId) (actorRole targetRole : Role) : Result Unit := do
  requirePermission actorRole .banUsers
  if actorId = userId then throw ⟨.validation, "You cannot suspend your own account", ""⟩
  if actorRole.rank ≤ targetRole.rank then
    throw ⟨.authorization, "Cannot suspend an account at or above your own role", ""⟩

def Ban.lift (userId : UserId) (ban : Ban) : Ban :=
  if ban.userId = userId then { ban with lifted := true } else ban

variable [DecidableEq Hash]

def step (directory : Directory Token Hash) : Step (World Token Hash) (Action Token) :=
  fun world action =>
    match action with
    | .login request =>
      match authenticate directory.hasher world.users request with
      | .ok user => some { world with signIns := world.signIns ++ [.authenticated user] }
      | .error error => some { world with signIns := world.signIns ++ [.threw error] }
    | .register request salt now =>
      match registerUser directory.hasher world.users request salt now with
      | .ok (users, user) => some { world with
          users := users
          signIns := world.signIns ++ [.authenticated user] }
      | .error error => some { world with signIns := world.signIns ++ [.threw error] }
    | .respond signIn access refresh =>
      match world.signIns[signIn]? with
      | some (.authenticated user) =>
        (Sessions.step directory.sessions world.sessions
          (.buildResponse user.id user.username access refresh)).map fun sessions => { world with
            sessions := sessions
            signIns := world.signIns.set signIn .responded }
      | _ => none
    | .session (.buildResponse ..) => none
    | .session action =>
      (Sessions.step directory.sessions world.sessions action).map fun sessions =>
        { world with sessions := sessions }
    | .ban actorId userId actorRole targetRole reason now =>
      match banChecks actorId userId actorRole targetRole with
      | .error _ => some world
      | .ok () =>
        match setBanned world.users userId true reason (some actorId) now with
        | .error _ => some world
        | .ok users => some { world with
            users := users
            bans := world.bans ++ [⟨userId, .committed, false⟩] }
    | .invalidate ban =>
      match world.bans[ban]? with
      | some ⟨userId, .committed, lifted⟩ => some { world with
          bans := world.bans.set ban ⟨userId, .invalidated, lifted⟩ }
      | _ => none
    | .revokeAll ban now =>
      match world.bans[ban]? with
      | some ⟨userId, .invalidated, lifted⟩ =>
        (Sessions.step directory.sessions world.sessions (.revokeAll userId now)).map fun sessions =>
          { world with
            sessions := sessions
            bans := world.bans.set ban ⟨userId, .finished, lifted⟩ }
      | _ => none
    | .unban userId actorRole now =>
      match requirePermission actorRole .banUsers with
      | .error _ => some world
      | .ok () =>
        match setBanned world.users userId false none none now with
        | .error _ => some world
        | .ok users => some { world with users := users, bans := world.bans.map (Ban.lift userId) }

def Ban.bars (user : UserId) (ban : Ban) : Bool :=
  ban.userId = user && ban.phase = .finished && !ban.lifted

/-- A ban handler of the account has finished and the account has not been reinstated since. -/
def World.barred (world : World Token Hash) (user : UserId) : Bool := world.bans.any (Ban.bars user)

/-- The account for which a step issues a pair or answers a request with one. -/
def mintsFor (directory : Directory Token Hash) (world : World Token Hash) : Action Token → Option UserId
  | .respond signIn _ _ =>
    match world.signIns[signIn]? with
    | some (.authenticated user) => some user.id
    | _ => none
  | .session (.record call ..) =>
    match world.sessions.calls[call]? with
    | some (.issued userId _) => some userId
    | _ => none
  | .session (.check call now _ _) =>
    match world.sessions.calls[call]? with
    | some (.read token _ claims session) =>
      (Sessions.checkSession directory.sessions token claims session now).toOption.map fun _ => claims.userId
    | _ => none
  | .session (.write call _) =>
    match world.sessions.calls[call]? with
    | some (.checked _ _ session _) => some session.userId
    | _ => none
  | _ => none

def SignIn.concerns (user : UserId) : SignIn → Bool
  | .authenticated account => account.id = user
  | _ => false

/-- A session call that has what it needs to hand a pair to the account. -/
def concerns (user : UserId) : Sessions.Call Token Hash → Bool
  | .issued userId _ => userId = user
  | .read _ _ _ (some session) => session.userId = user
  | .checked _ _ session _ => session.userId = user
  | _ => false

/-- No login of a barred account starts, and no request of the account is under way
past its first read when the handler revokes the sessions. -/
def calm (directory : Directory Token Hash) (world : World Token Hash) : Action Token → Bool
  | .login request =>
    match authenticate directory.hasher world.users request with
    | .ok user => !world.barred user.id
    | .error _ => true
  | .revokeAll ban _ =>
    match world.bans[ban]? with
    | some ⟨userId, _, _⟩ =>
      !world.signIns.any (SignIn.concerns userId) && !world.sessions.calls.any (concerns userId)
    | none => true
  | _ => true

/-- A call that cannot come to hand a pair to the account. A rotation that has read a
revoked session of the account is such a call: its check is going to fail. -/
def Dormant (user : UserId) : Sessions.Call Token Hash → Prop
  | .issued userId _ => userId ≠ user
  | .read _ _ _ (some session) => session.userId = user → session.isRevoked
  | .checked _ _ session _ => session.userId ≠ user
  | _ => True

structure Quiet (sessions : Sessions.World Token Hash) (user : UserId) : Prop where
  rows : ∀ session ∈ sessions.sessions, session.userId = user → session.isRevoked
  calls : ∀ call ∈ sessions.calls, Dormant user call

structure Invariant (world : World Token Hash) : Prop where
  known : ∀ ban ∈ world.bans, ban.userId < world.users.next
  signIns : ∀ user, world.barred user → ∀ signIn ∈ world.signIns, signIn.concerns user = false
  quiet : ∀ user, world.barred user → Quiet world.sessions user

variable {user userId : UserId} {now : TimePoint} {sessions : Sessions.World Token Hash}
  {action : Sessions.Action Token} {users changed : UserTable}

section Effects

omit [DecidableEq Hash] in
theorem dormant_of_not_concerns {call : Sessions.Call Token Hash} (idle : concerns user call = false) :
    Dormant user call := by
  cases call with
  | read token sessionId claims session =>
    cases session with
    | none => trivial
    | some session =>
      intro same
      simp [concerns, same] at idle
  | issued | checked => simpa [concerns, Dormant] using idle
  | recorded | verified | returned | threw => trivial

omit [DecidableEq Hash] in
theorem dormant_read {token : Token} {sessionId : String} {claims : TokenClaims}
    {found : Option (Sessions.Session Hash)}
    (row : ∀ session, found = some session → session.userId = user → session.isRevoked) :
    Dormant user (.read token sessionId claims found : Sessions.Call Token Hash) := by
  cases found with
  | none => trivial
  | some session => exact row session rfl

omit [DecidableEq Hash] in
theorem revokeWhere_revoked {table : Sessions.SessionTable Hash} {matching : Sessions.Session Hash → Bool}
    (covered : ∀ session ∈ table, session.userId = user → session.isRevoked ∨ matching session) :
    ∀ session ∈ (Sessions.revokeWhere table matching now).1, session.userId = user → session.isRevoked := by
  intro session member same
  obtain ⟨old, oldMember, rfl⟩ := Sessions.mem_revokeWhere.mp member
  by_cases live : matching old ∧ old.revokedAt = none
  · rw [if_pos live]
    rfl
  · rw [if_neg live] at same ⊢
    rcases covered old oldMember same with revoked | matches_
    · exact revoked
    · rw [Sessions.Session.isRevoked, Option.isSome_iff_ne_none]
      exact fun unrevoked => live ⟨matches_, unrevoked⟩

omit [DecidableEq Hash] in
theorem Quiet.revokeAll (now : TimePoint) (calls : ∀ call ∈ sessions.calls, Dormant user call)
    (covered : ∀ session ∈ sessions.sessions, session.userId = user → session.isRevoked ∨ session.userId = userId) :
    Quiet { sessions with sessions := (Sessions.revokeAll sessions.sessions userId now).1 } user :=
  ⟨revokeWhere_revoked fun session member same => by simpa using covered session member same, calls⟩

/-- No step of the session service reopens an account whose sessions are all revoked, short of
issuing a pair for it. -/
theorem Quiet.step {service : Sessions.SessionService Token Hash} {next : Sessions.World Token Hash}
    (quiet : Quiet sessions user) (effect : Sessions.Effect service sessions action next)
    (elsewhere : ∀ userId username access refresh,
      action = .buildResponse userId username access refresh → userId ≠ user) : Quiet next user := by
  cases effect with
  | issued => exact ⟨quiet.rows, forall_mem_concat quiet.calls (elsewhere _ _ _ _ rfl)⟩
  | verified | refused => exact ⟨quiet.rows, forall_mem_concat quiet.calls trivial⟩
  | recorded found created =>
    refine ⟨fun session member same => ?_, forall_mem_set quiet.calls trivial⟩
    rcases ((Sessions.create_eq_ok created).2 session).mp member with old | rfl
    · exact quiet.rows session old same
    · exact absurd same (quiet.calls _ (List.mem_of_getElem? found))
  | read found =>
    refine ⟨quiet.rows, forall_mem_set quiet.calls (dormant_read fun session stored same => ?_)⟩
    exact quiet.rows session (Table.mem_of_find stored) same
  | checked found passed =>
    -- The check refuses a revoked session, so the session that passed is another account's.
    refine ⟨quiet.rows, forall_mem_set quiet.calls ?_⟩
    obtain ⟨rfl, active, _⟩ := Sessions.checkSession_eq_ok passed
    intro same
    have revoked := quiet.calls _ (List.mem_of_getElem? found) same
    simp [Sessions.Session.isActive, revoked] at active
  | wrote =>
    refine ⟨fun session member same => ?_, forall_mem_set quiet.calls trivial⟩
    obtain ⟨old, oldMember, rfl⟩ := Sessions.mem_rotate.mp member
    have revoked := quiet.rows old oldMember
    split at same
    · next here =>
      rw [if_pos here]
      exact revoked same
    · next away =>
      rw [if_neg away]
      exact revoked same
  | failed => exact ⟨quiet.rows, forall_mem_set quiet.calls trivial⟩
  | revoked => exact ⟨revokeWhere_revoked fun session member same => .inl (quiet.rows session member same),
      quiet.calls⟩

end Effects

variable {directory : Directory Token Hash} {world next : World Token Hash}

omit [DecidableEq Hash] in
theorem barred_iff : world.barred user ↔ ∃ ban ∈ world.bans, ban.bars user := by
  simp [World.barred]

omit [DecidableEq Hash] in
theorem Invariant.carry (inv : Invariant world) {signIns : List SignIn} (grown : world.users.last ≤ users.last)
    (clear : ∀ user, world.barred user → ∀ signIn ∈ signIns, signIn.concerns user = false)
    (quiet : ∀ user, world.barred user → Quiet world.sessions user → Quiet sessions user) :
    Invariant ⟨users, sessions, signIns, world.bans⟩ :=
  ⟨fun ban member => lt_of_lt_of_le (inv.known ban member) (Serial.next_le_next grown), clear,
    fun user bars => quiet user bars (inv.quiet user bars)⟩

omit [DecidableEq Hash] in
theorem Invariant.rebans (inv : Invariant world) {bans : List Ban} (grown : world.users.last ≤ users.last)
    (moved : ∀ ban ∈ bans, ban.userId < world.users.next ∧ ∀ user, ban.bars user → world.barred user) :
    Invariant { world with users := users, bans := bans } := by
  have before {user : UserId} (bars : World.barred { world with users := users, bans := bans } user) :
      world.barred user := by
    obtain ⟨ban, member, bars⟩ := barred_iff.mp bars
    exact (moved ban member).2 user bars
  exact ⟨fun ban member => lt_of_lt_of_le (moved ban member).1 (Serial.next_le_next grown),
    fun user bars => inv.signIns user (before bars), fun user bars => inv.quiet user (before bars)⟩

omit [DecidableEq Hash] in
theorem Invariant.ban (inv : Invariant world) :
    ∀ ban ∈ world.bans, ban.userId < world.users.next ∧ ∀ user, ban.bars user → world.barred user :=
  fun ban member => ⟨inv.known ban member, fun _ bars => barred_iff.mpr ⟨ban, member, bars⟩⟩

omit [DecidableEq Hash] in
theorem Invariant.signIn (inv : Invariant world) (grown : world.users.last ≤ users.last) {signIn : SignIn}
    (clear : ∀ user, world.barred user → signIn.concerns user = false) :
    Invariant { world with users := users, signIns := world.signIns ++ [signIn] } :=
  inv.carry grown (fun user bars => forall_mem_concat (inv.signIns user bars) (clear user bars))
    fun _ _ quiet => quiet

omit [DecidableEq Hash] in
/-- A handler that revokes the sessions of an account bars it. With nothing of the account
under way, nothing can mint for it any more. -/
theorem Invariant.revokeAll (inv : Invariant world) {position : Nat} {phase : BanPhase} {lifted : Bool}
    (found : world.bans[position]? = some ⟨userId, phase, lifted⟩) (now : TimePoint)
    (signIns : ∀ signIn ∈ world.signIns, signIn.concerns userId = false)
    (calls : ∀ call ∈ world.sessions.calls, Dormant userId call) :
    Invariant { world with
      sessions := { world.sessions with
        sessions := (Sessions.revokeAll world.sessions.sessions userId now).1 }
      bans := world.bans.set position ⟨userId, .finished, lifted⟩ } := by
  have barred {user : UserId}
      (bars : (world.bans.set position ⟨userId, .finished, lifted⟩).any (Ban.bars user)) :
      world.barred user ∨ user = userId := by
    obtain ⟨ban, member, bars⟩ := List.any_eq_true.mp bars
    rcases List.mem_or_eq_of_mem_set member with member | rfl
    · exact .inl (barred_iff.mpr ⟨ban, member, bars⟩)
    · simp only [Ban.bars, Bool.and_eq_true, decide_eq_true_eq] at bars
      exact .inr bars.1.1.symm
  have known := inv.known _ (List.mem_of_getElem? found)
  refine ⟨forall_mem_set inv.known known, fun user bars => ?_, fun user bars => ?_⟩
  · rcases barred bars with bars | rfl
    · exact inv.signIns user bars
    · exact signIns
  · rcases barred bars with bars | rfl
    · exact .revokeAll now (inv.quiet user bars).calls fun session member same =>
        .inl ((inv.quiet user bars).rows session member same)
    · exact .revokeAll now calls fun _ _ same => .inr same

theorem setBanned_last {banned : Bool} {reason : Option String} {actorId : Option UserId}
    (set : setBanned users userId banned reason actorId now = .ok changed) :
    changed.last = users.last ∧ userId < users.next := by
  unfold setBanned at set
  split at set
  · cases set
  · next user found =>
    cases set
    obtain ⟨member, rfl⟩ := Serial.find_eq_some.mp found
    exact ⟨rfl, Serial.lt_next member⟩

theorem registerUser_eq_ok {hasher : PasswordHasher} {request : RegisterRequest} {salt : String} {user : User}
    (registered : registerUser hasher users request salt now = .ok (changed, user)) :
    user.id = users.next ∧ changed.last = users.last + 1 := by
  unfold registerUser at registered
  cases normal : request.validateAndNormalize with
  | error error =>
    rw [normal] at registered
    cases registered
  | ok request =>
    rw [normal] at registered
    exact create_eq_ok registered

theorem step_session
    (issues : ∀ userId username access refresh, action ≠ .buildResponse userId username access refresh) :
    step directory world (.session action) =
      (Sessions.step directory.sessions world.sessions action).map fun sessions =>
        { world with sessions := sessions } := by
  cases action <;> first | rfl | exact absurd rfl (issues _ _ _ _)

theorem Invariant.step (inv : Invariant world) {action : Action Token}
    (met : calm directory world action) (moves : step directory world action = some next) :
    Invariant next := by
  cases action with
  | login request =>
    simp only [Accounts.step] at moves
    simp only [calm] at met
    split at moves
    · next user found =>
      cases moves
      rw [found] at met
      refine inv.signIn (Nat.le_refl _) fun other bars => ?_
      simp only [SignIn.concerns, decide_eq_false_iff_not]
      rintro rfl
      simp [bars] at met
    · cases moves
      exact inv.signIn (Nat.le_refl _) fun _ _ => rfl
  | register request salt now =>
    simp only [Accounts.step] at moves
    split at moves
    · next users user found =>
      cases moves
      obtain ⟨fresh, grown⟩ := registerUser_eq_ok found
      refine inv.signIn (by omega) fun other bars => ?_
      -- The sequence has just drawn this id, so no ban can name it.
      obtain ⟨ban, member, names⟩ := barred_iff.mp bars
      simp only [Ban.bars, Bool.and_eq_true, decide_eq_true_eq] at names
      simp only [SignIn.concerns, decide_eq_false_iff_not, fresh, ← names.1.1]
      exact ne_of_gt (inv.known ban member)
    · cases moves
      exact inv.signIn (Nat.le_refl _) fun _ _ => rfl
  | respond signIn access refresh =>
    simp only [Accounts.step] at moves
    split at moves
    · next user found =>
      obtain ⟨sessions, moved, rfl⟩ := Option.map_eq_some_iff.mp moves
      refine inv.carry (Nat.le_refl _) (fun barred bars => forall_mem_set (inv.signIns barred bars) rfl)
        fun barred bars quiet => ?_
      refine quiet.step (Sessions.step_effect moved) fun _ _ _ _ same => ?_
      cases same
      simpa [SignIn.concerns] using inv.signIns barred bars _ (List.mem_of_getElem? found)
    · cases moves
  | session action =>
    by_cases issues : ∀ userId username access refresh, action ≠ .buildResponse userId username access refresh
    · rw [step_session issues] at moves
      obtain ⟨sessions, moved, rfl⟩ := Option.map_eq_some_iff.mp moves
      exact inv.carry (Nat.le_refl _) inv.signIns fun _ _ quiet =>
        quiet.step (Sessions.step_effect moved) fun _ _ _ _ same => absurd same (issues _ _ _ _)
    · simp only [ne_eq, not_forall, not_not] at issues
      obtain ⟨userId, username, access, refresh, rfl⟩ := issues
      cases moves
  | ban actorId userId actorRole targetRole reason now =>
    simp only [Accounts.step] at moves
    split at moves
    · cases moves
      exact inv
    · split at moves
      · cases moves
        exact inv
      · next users changed =>
        cases moves
        obtain ⟨same, known⟩ := setBanned_last changed
        exact inv.rebans (Nat.le_of_eq same.symm)
          (forall_mem_concat inv.ban ⟨known, fun _ bars => by simp [Ban.bars] at bars⟩)
  | invalidate position =>
    simp only [Accounts.step] at moves
    split at moves
    · next userId lifted found =>
      cases moves
      have known := inv.known _ (List.mem_of_getElem? found)
      exact inv.rebans (Nat.le_refl _)
        (forall_mem_set inv.ban ⟨known, fun _ bars => by simp [Ban.bars] at bars⟩)
    · cases moves
  | revokeAll position now =>
    simp only [Accounts.step] at moves
    simp only [calm] at met
    split at moves
    · next userId lifted found =>
      cases moves
      simp only [found, Bool.and_eq_true, Bool.not_eq_true', List.any_eq_false, Bool.not_eq_true] at met
      exact inv.revokeAll found now met.1 fun call member => dormant_of_not_concerns (met.2 call member)
    · cases moves
  | unban userId actorRole now =>
    simp only [Accounts.step] at moves
    split at moves
    · cases moves
      exact inv
    · split at moves
      · cases moves
        exact inv
      · next users changed =>
        cases moves
        have same := (setBanned_last changed).1
        refine inv.rebans (Nat.le_of_eq same.symm) fun ban member => ?_
        obtain ⟨old, oldMember, rfl⟩ := List.mem_map.mp member
        unfold Ban.lift
        split
        · exact ⟨inv.known old oldMember, fun _ bars => by simp [Ban.bars] at bars⟩
        · exact inv.ban old oldMember

theorem Invariant.mints (inv : Invariant world) {action : Action Token}
    (mints : mintsFor directory world action = some user) : world.barred user = false := by
  rw [Bool.eq_false_iff]
  intro bars
  have quiet := inv.quiet user bars
  unfold mintsFor at mints
  split at mints
  · split at mints
    · next found =>
      cases mints
      have clear := inv.signIns _ bars _ (List.mem_of_getElem? found)
      simp [SignIn.concerns] at clear
    · cases mints
  · split at mints
    · next found =>
      cases mints
      exact quiet.calls _ (List.mem_of_getElem? found) rfl
    · cases mints
  · split at mints
    · next token sessionId claims session found =>
      obtain ⟨checked, passed, rfl⟩ := Option.map_eq_some_iff.mp mints
      cases result : Sessions.checkSession directory.sessions token claims session _ with
      | error error =>
        rw [result] at passed
        cases passed
      | ok checked =>
        obtain ⟨rfl, active, same, _⟩ := Sessions.checkSession_eq_ok result
        have revoked := quiet.calls _ (List.mem_of_getElem? found) same
        simp [Sessions.Session.isActive, revoked] at active
    · cases mints
  · split at mints
    · next found =>
      cases mints
      exact quiet.calls _ (List.mem_of_getElem? found) rfl
    · cases mints
  · cases mints

omit [DecidableEq Hash] in
theorem start_invariant (users : UserTable) : Invariant (World.start users : World Token Hash) := by
  refine ⟨fun _ member => ?_, fun _ _ _ member => ?_, fun _ bars => ?_⟩
  · cases member
  · cases member
  · simp [World.barred, World.start] at bars

/-- In every run without a login of a barred account, and in which no request of an
account is past its first read when a ban handler revokes that account's sessions,
no step issues or hands out a token pair for an account whose ban handler has finished. -/
theorem barred_never_minted (directory : Directory Token Hash) (users : UserTable) (actions : List (Action Token))
    (kept : (step directory).Guarded (fun world action => calm directory world action)
      (World.start users) actions) :
    (step directory).Guarded
      (fun world action => ∀ user, mintsFor directory world action = some user → world.barred user = false)
      (World.start users) actions :=
  Step.guarded_safe Invariant (fun inv met moves => inv.step met moves)
    (fun inv _ _ mints => inv.mints mints) (start_invariant users) kept

def sampleDirectory : Directory Payload Payload := ⟨⟨transparent {}, 1209600⟩, plainHasher⟩

def eve : UserTable := (Serial.empty User.id).append
  (NewUser.row ⟨"eve", "eve@example.org", "correct horse"⟩ 0) fun _ => rfl

/-- Eve signs in, is banned, and presents the refresh token of the revoked session. -/
theorem barred_never_minted_eve :
    (step sampleDirectory).Guarded
      (fun world action => ∀ user, mintsFor sampleDirectory world action = some user →
        world.barred user = false)
      (World.start eve)
      [.login ⟨"eve", "correct horse"⟩, .respond 0 ⟨"a0", 0⟩ ⟨"r0", 0⟩,
        .session (.record 0 "s" none none 0), .ban 7 1 .admin .user (some "spam") 1, .invalidate 0,
        .revokeAll 0 1, .session (.verify (issue (transparent {}) ⟨"r0", 0⟩ 1 "eve" .refresh) "s" 2),
        .session (.find 1), .session (.check 1 2 ⟨"a1", 2⟩ ⟨"r1", 2⟩)] :=
  barred_never_minted sampleDirectory eve _ (by decide)

/-- Once the ban handler has finished, the banned account logs in with its password and
is given a new pair. -/
theorem banned_account_logs_in :
    ¬ ∀ (actions : List (Action Payload)) (final : World Payload Payload),
      (step sampleDirectory).run (World.start eve) actions = some final →
      (step sampleDirectory).Guarded
        (fun world action => ∀ user, mintsFor sampleDirectory world action = some user →
          world.barred user = false) (World.start eve) actions := by
  intro never
  have minted := never [.ban 7 1 .admin .user (some "spam") 1, .invalidate 0, .revokeAll 0 1,
    .login ⟨"eve", "correct horse"⟩, .respond 0 ⟨"a0", 2⟩ ⟨"r0", 2⟩,
    .session (.record 0 "s" none none 2)] _ rfl
  exact absurd (minted.2.2.2.2.1 1 rfl) (by decide)

end RealtimeChat.Accounts
