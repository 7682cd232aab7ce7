import RealtimeChat.Sessions.Rotation

/-! Replay protection of refresh-token rotation.

A rotation is sound when the session it writes to is still the one it checked:
the stored hash is the hash of the presented token and the session is not
revoked. The repository's `UPDATE` has no such condition, so nothing enforces
it. Over a whole run it is exactly what separates the runs in which every
refresh token is accepted once from the others.
-/

set_option autoImplicit false

namespace RealtimeChat.Sessions

open Foundation Security

variable {Token Hash : Type}

def Call.refreshToken : Call Token Hash → Option Token
  | .issued _ pair | .recorded _ _ pair | .checked _ _ _ pair | .returned _ _ pair _ => some pair.refreshToken
  | .verified .. | .read .. | .threw .. => none

/-- The session a finished call has written to, with the token whose hash it stored. -/
def Call.stores : Call Token Hash → Option (String × Token)
  | .recorded _ sessionId pair | .returned _ sessionId pair _ => some (sessionId, pair.refreshToken)
  | _ => none

def Call.accepted : Call Token Hash → Option Token
  | .returned token .. => some token
  | _ => none

def Call.wroteRevoked : Call Token Hash → Bool
  | .returned _ _ _ (some stored) => stored.isRevoked
  | _ => false

def World.issued (world : World Token Hash) : List Token := world.calls.filterMap Call.refreshToken

/-- The refresh tokens that a rotation has accepted, once for each acceptance. -/
def World.accepted (world : World Token Hash) : List Token := world.calls.filterMap Call.accepted

/-- No token has been accepted twice, and no rotation has written to a revoked session. -/
def ReplaySafe (world : World Token Hash) : Prop :=
  world.accepted.Nodup ∧ ∀ call ∈ world.calls, call.wroteRevoked = false

section Steps

variable (service : SessionService Token Hash)

def Stored (world : World Token Hash) (sessionId : String) (hash : Hash) : Prop :=
  ∃ call ∈ world.calls, ∃ token, call.stores = some (sessionId, token) ∧
    service.tokens.sha256Hex token = hash

/-- The session still holds the hash, unless a token with that hash has been accepted since. -/
def Current (world : World Token Hash) (sessionId : String) (hash : Hash) : Prop :=
  ∃ session ∈ world.sessions, session.id = sessionId ∧
    (session.refreshTokenHash = hash ∨ ∃ token ∈ world.accepted, service.tokens.sha256Hex token = hash)

def Spent (world : World Token Hash) (token : Token) : Prop :=
  ∀ session ∈ world.sessions, session.refreshTokenHash ≠ service.tokens.sha256Hex token

def Justified (world : World Token Hash) : Call Token Hash → Prop
  | .read _ sessionId _ (some session) =>
    Stored service world sessionId session.refreshTokenHash ∧
      Current service world sessionId session.refreshTokenHash
  | .checked token sessionId _ _ =>
    Stored service world sessionId (service.tokens.sha256Hex token) ∧
      Current service world sessionId (service.tokens.sha256Hex token)
  | .returned token sessionId _ _ =>
    Stored service world sessionId (service.tokens.sha256Hex token) ∧ Spent service world token
  | _ => True

structure Invariant (world : World Token Hash) : Prop where
  drawn : ∀ token ∈ world.issued, ∃ draw userId username, draw.id ∈ world.tokenIds ∧
    token = issue service.tokens draw userId username .refresh
  distinct : world.issued.Nodup
  rows : ∀ session ∈ world.sessions, Stored service world session.id session.refreshTokenHash
  calls : ∀ call ∈ world.calls, Justified service world call

variable [DecidableEq Hash]

/-- The write of a rotation finds the session as the rotation checked it. -/
def undisturbed (world : World Token Hash) : Action Token → Bool
  | .write call _ =>
    match world.calls[call]? with
    | some (.checked token sessionId _ _) =>
      match findById world.sessions sessionId with
      | some stored => stored.refreshTokenHash = service.tokens.sha256Hex token && !stored.isRevoked
      | none => false
    | _ => true
  | _ => true

end Steps

variable {call : Call Token Hash} {sessionId : String} {token : Token} {hash : Hash} {position : Nat}
  {now : TimePoint} {session : Session Hash} {pair : TokenPair Token}

theorem stores_not_pending {stored : String × Token} (stores : call.stores = some stored) : call.pending = false := by
  cases call <;> first | rfl | cases stores

theorem refreshToken_of_stores (stores : call.stores = some (sessionId, token)) : call.refreshToken = some token := by
  cases call <;> cases stores <;> rfl

theorem accepted_not_pending (accepted : call.accepted = some token) : call.pending = false := by
  cases call <;> first | rfl | cases accepted

variable {service : SessionService Token Hash} {world next : World Token Hash}

namespace Invariant

variable (inv : Invariant service world)

include inv

theorem stored_once {first second : Call Token Hash} (left : first ∈ world.calls)
    (right : second ∈ world.calls) (issues : first.refreshToken = some token)
    (stores : second.stores = some (sessionId, token)) : first = second :=
  eq_of_nodup_filterMap Call.refreshToken inv.distinct left right issues (refreshToken_of_stores stores)

theorem pending_unstored (member : call ∈ world.calls) (pending : call.pending)
    (issues : call.refreshToken = some token) : ¬ Stored service world sessionId (service.tokens.sha256Hex token) := by
  rintro ⟨other, otherMember, otherToken, stores, same⟩
  obtain rfl := service.tokens.sha256Hex_injective same
  obtain rfl := inv.stored_once member otherMember issues stores
  simp [stores_not_pending stores] at pending

theorem stored_session {first second : String}
    (left : Stored service world first hash) (right : Stored service world second hash) : first = second := by
  obtain ⟨call, member, token, stores, rfl⟩ := left
  obtain ⟨other, otherMember, otherToken, otherStores, same⟩ := right
  obtain rfl := service.tokens.sha256Hex_injective same
  obtain rfl := inv.stored_once member otherMember (refreshToken_of_stores stores) otherStores
  exact congrArg Prod.fst (Option.some.inj (stores.symm.trans otherStores))

theorem spends (found : world.calls[position]? = some (.checked token sessionId session pair)) :
    ∀ row ∈ rotate world.sessions sessionId (service.tokens.sha256Hex pair.refreshToken) now,
      row.refreshTokenHash ≠ service.tokens.sha256Hex token := by
  have member := List.mem_of_getElem? found
  have stored := (inv.calls _ member).1
  intro row rowMember same
  obtain ⟨old, oldMember, rfl⟩ := mem_rotate.mp rowMember
  -- The session's own row now has the hash of the new pair, which no finished call had stored;
  -- a row of another session never had the hash.
  by_cases here : old.id = sessionId
  · rw [if_pos here] at same
    rw [← same] at stored
    exact inv.pending_unstored member rfl rfl stored
  · rw [if_neg here] at same
    have elsewhere := inv.rows old oldMember
    rw [same] at elsewhere
    exact here (inv.stored_session elsewhere stored)

end Invariant

theorem justified_read {claims : TokenClaims} {found : Option (Session Hash)}
    (row : ∀ session, found = some session → Stored service world sessionId session.refreshTokenHash ∧
      Current service world sessionId session.refreshTokenHash) :
    Justified service world (.read token sessionId claims found) := by
  cases found with
  | none => trivial
  | some session => exact row session rfl

section Effects

variable [DecidableEq Hash] {action : Action Token}

section

variable (effect : Effect service world action next)

include effect

theorem Effect.keeps (member : call ∈ world.calls) (finished : call.pending = false) : call ∈ next.calls := by
  have kept {position : Nat} {old : Call Token Hash} (new : Call Token Hash)
      (found : world.calls[position]? = some old) (pending : old.pending) :
      call ∈ world.calls.set position new := by
    refine mem_set_of_ne found member ?_
    rintro rfl
    simp [finished] at pending
  cases effect with
  | issued | verified | refused => exact List.mem_append_left _ member
  | recorded found | read found | checked found | wrote found => exact kept _ found rfl
  | failed found pending => exact kept _ found pending
  | revoked => exact member

theorem Effect.stored (stored : Stored service world sessionId hash) : Stored service next sessionId hash := by
  obtain ⟨call, member, token, stores, same⟩ := stored
  exact ⟨call, effect.keeps member (stores_not_pending stores), token, stores, same⟩

theorem Effect.accepted (accepted : token ∈ world.accepted) : token ∈ next.accepted := by
  obtain ⟨call, member, shows⟩ := List.mem_filterMap.mp accepted
  exact List.mem_filterMap.mpr ⟨call, effect.keeps member (accepted_not_pending shows), shows⟩

theorem Effect.row_kept (calm : undisturbed service world action)
    (member : session ∈ world.sessions) : Current service next session.id session.refreshTokenHash := by
  cases effect with
  | issued | verified | refused | read | checked | failed => exact ⟨session, member, rfl, .inl rfl⟩
  | recorded found created =>
    exact ⟨session, ((create_eq_ok created).2 session).mpr (.inl member), rfl, .inl rfl⟩
  | @wrote position now token sessionId checked pair found =>
    refine ⟨_, mem_rotate.mpr ⟨session, member, rfl⟩, ?_⟩
    -- The rotated row gives up its hash, but then the token of that hash is accepted by this step.
    by_cases same : session.id = sessionId
    · have stored : findById world.sessions sessionId = some session :=
        Table.find_eq_some.mpr ⟨member, same⟩
      simp only [undisturbed, found, stored, Bool.and_eq_true, decide_eq_true_eq] at calm
      rw [if_pos same]
      refine ⟨rfl, .inr ⟨token, ?_, calm.1.symm⟩⟩
      exact List.mem_filterMap.mpr ⟨_, mem_set_self _ found, rfl⟩
    · rw [if_neg same]
      exact ⟨rfl, .inl rfl⟩
  | revoked =>
    refine ⟨_, mem_revokeWhere.mpr ⟨session, member, rfl⟩, ?_⟩
    split <;> exact ⟨rfl, .inl rfl⟩

theorem Effect.row_origin (member : session ∈ next.sessions) :
    (∃ old ∈ world.sessions, old.id = session.id ∧ old.refreshTokenHash = session.refreshTokenHash) ∨
      ∃ call ∈ world.calls, ∃ token, call.pending ∧ call.refreshToken = some token ∧
        session.refreshTokenHash = service.tokens.sha256Hex token ∧
        Stored service next session.id session.refreshTokenHash := by
  cases effect with
  | issued | verified | refused | read | checked | failed => exact .inl ⟨session, member, rfl, rfl⟩
  | recorded found created =>
    rcases ((create_eq_ok created).2 session).mp member with old | rfl
    · exact .inl ⟨session, old, rfl, rfl⟩
    · exact .inr ⟨_, List.mem_of_getElem? found, _, rfl, rfl, rfl,
        ⟨_, mem_set_self _ found, _, rfl, rfl⟩⟩
  | @wrote position now token sessionId checked pair found =>
    obtain ⟨old, oldMember, rfl⟩ := mem_rotate.mp member
    by_cases same : old.id = sessionId
    · rw [if_pos same]
      exact .inr ⟨_, List.mem_of_getElem? found, _, rfl, rfl, rfl,
        ⟨_, mem_set_self _ found, _, by simp [Call.stores, same], rfl⟩⟩
    · rw [if_neg same]
      exact .inl ⟨old, oldMember, rfl, rfl⟩
  | revoked =>
    obtain ⟨old, oldMember, rfl⟩ := mem_revokeWhere.mp member
    refine .inl ⟨old, oldMember, ?_⟩
    split <;> exact ⟨rfl, rfl⟩

theorem Effect.current (calm : undisturbed service world action)
    (current : Current service world sessionId hash) : Current service next sessionId hash := by
  obtain ⟨session, member, rfl, held | ⟨token, accepted, same⟩⟩ := current
  · subst held
    exact effect.row_kept calm member
  · obtain ⟨row, rowMember, sameId, _⟩ := effect.row_kept calm member
    exact ⟨row, rowMember, sameId, .inr ⟨token, effect.accepted accepted, same⟩⟩

section

variable (inv : Invariant service world)

include inv

theorem Effect.spent
    (stored : Stored service world sessionId (service.tokens.sha256Hex token)) (spent : Spent service world token) :
    Spent service next token := by
  intro session member same
  rcases effect.row_origin member with ⟨old, oldMember, _, sameHash⟩ | ⟨call, callMember, other, pending, issues, hash, _⟩
  · exact spent old oldMember (sameHash.trans same)
  · rw [← same, hash] at stored
    exact inv.pending_unstored callMember pending issues stored

theorem Effect.justified (calm : undisturbed service world action) (justified : Justified service world call) :
    Justified service next call := by
  cases call with
  | read token sessionId claims session =>
    cases session with
    | none => trivial
    | some session => exact ⟨effect.stored justified.1, effect.current calm justified.2⟩
  | checked => exact ⟨effect.stored justified.1, effect.current calm justified.2⟩
  | returned => exact ⟨effect.stored justified.1, effect.spent inv justified.1 justified.2⟩
  | issued | recorded | verified | threw => trivial

theorem Effect.rows : ∀ session ∈ next.sessions, Stored service next session.id session.refreshTokenHash := by
  intro session member
  rcases effect.row_origin member with ⟨old, oldMember, sameId, sameHash⟩ | ⟨_, _, _, _, _, _, stored⟩
  · rw [← sameId, ← sameHash]
    exact effect.stored (inv.rows old oldMember)
  · exact stored

theorem Effect.calls (calm : undisturbed service world action) : ∀ call ∈ next.calls, Justified service next call := by
  have old : ∀ call ∈ world.calls, Justified service next call :=
    fun call member => effect.justified inv calm (inv.calls call member)
  have whole := effect
  -- Only the call that moved is new; each case says why its new phase is justified.
  cases effect with
  | issued | verified | refused => exact forall_mem_concat old trivial
  | recorded | failed => exact forall_mem_set old trivial
  | read found =>
    refine forall_mem_set old (justified_read fun session stored => ?_)
    obtain ⟨rowMember, rfl⟩ := Table.find_eq_some.mp stored
    exact ⟨whole.stored (inv.rows session rowMember), whole.row_kept calm rowMember⟩
  | checked found passed =>
    refine forall_mem_set old ?_
    obtain ⟨rfl, _, _, hash⟩ := checkSession_eq_ok passed
    have justified := old _ (List.mem_of_getElem? found)
    simp only [Justified, hash] at justified
    exact justified
  | wrote found =>
    exact forall_mem_set old ⟨(old _ (List.mem_of_getElem? found)).1, inv.spends found⟩
  | revoked => exact old

end

theorem Effect.tokenIds {id : String} (member : id ∈ world.tokenIds) : id ∈ next.tokenIds := by
  cases effect with
  | issued | checked => exact List.mem_cons_of_mem _ (List.mem_cons_of_mem _ member)
  | recorded | verified | refused | read | wrote | failed | revoked => exact member

/-- The issued tokens of the next state: those of this one, without the token of a call
that failed, or with one token issued under ids not drawn before. -/
theorem Effect.issued_cases : next.issued.Sublist world.issued ∨
      ∃ access refresh userId username, world.fresh access refresh ∧
        next.tokenIds = world.draws access refresh ∧
        next.issued.Perm (issue service.tokens refresh userId username .refresh :: world.issued) := by
  have same {position : Nat} {old new : Call Token Hash} (found : world.calls[position]? = some old)
      (shown : new.refreshToken = old.refreshToken) :
      ((world.calls.set position new).filterMap Call.refreshToken).Sublist world.issued := by
    rw [filterMap_set_same Call.refreshToken found shown]
    exact List.Sublist.refl _
  cases effect with
  | @issued userId username access refresh fresh =>
    refine .inr ⟨access, refresh, userId, username, fresh, rfl, ?_⟩
    simp only [World.issued, List.filterMap_append]
    exact List.perm_append_singleton _ _
  | @checked position now access refresh token sessionId claims session checked found passed fresh =>
    exact .inr ⟨access, refresh, claims.userId, claims.username, fresh, rfl,
      filterMap_set_perm Call.refreshToken _ found rfl rfl⟩
  | verified | refused =>
    left
    simp [World.issued, List.filterMap_append, Call.refreshToken]
  | recorded found | read found | wrote found =>
    exact .inl (same found rfl)
  | failed found => exact .inl (filterMap_set_sublist Call.refreshToken rfl)
  | revoked => exact .inl (List.Sublist.refl _)

theorem Effect.invariant (inv : Invariant service world)
    (calm : undisturbed service world action) : Invariant service next := by
  refine ⟨?_, ?_, effect.rows inv, effect.calls inv calm⟩
  · intro token member
    have carried (old : token ∈ world.issued) : ∃ draw userId username, draw.id ∈ next.tokenIds ∧
        token = issue service.tokens draw userId username .refresh := by
      obtain ⟨draw, userId, username, drawn, same⟩ := inv.drawn token old
      exact ⟨draw, userId, username, effect.tokenIds drawn, same⟩
    rcases effect.issued_cases with fewer | ⟨access, refresh, userId, username, _, ids, more⟩
    · exact carried (fewer.mem member)
    · rcases List.mem_cons.mp (more.mem_iff.mp member) with rfl | old
      · exact ⟨refresh, userId, username, by simp [ids, World.draws], rfl⟩
      · exact carried old
  · rcases effect.issued_cases with fewer | ⟨access, refresh, userId, username, fresh, _, more⟩
    · exact inv.distinct.sublist fewer
    -- A repeated token would carry an id drawn before, and both ids of this step are fresh.
    · refine more.nodup_iff.mpr (List.nodup_cons.mpr ⟨fun old => ?_, inv.distinct⟩)
      obtain ⟨draw, _, _, drawn, same⟩ := inv.drawn _ old
      simp only [World.fresh, issue_id same] at fresh
      simp [drawn] at fresh

theorem Effect.quiet (other : ∀ call now, action ≠ .write call now) :
    next.accepted = world.accepted ∧ ∀ call ∈ next.calls, call ∈ world.calls ∨ call.wroteRevoked = false := by
  have replaced {position : Nat} {old new : Call Token Hash} (found : world.calls[position]? = some old)
      (pending : old.pending) (nothing : new.accepted = none) (harmless : new.wroteRevoked = false) :
      (world.calls.set position new).filterMap Call.accepted = world.accepted ∧
        ∀ call ∈ world.calls.set position new, call ∈ world.calls ∨ call.wroteRevoked = false := by
    refine ⟨filterMap_set_same Call.accepted found ?_, forall_mem_set (fun _ => .inl) (.inr harmless)⟩
    cases old <;> first | exact nothing | cases pending
  cases effect with
  | issued | verified | refused =>
    exact ⟨by simp [World.accepted, Call.accepted], forall_mem_concat (fun _ => .inl) (.inr rfl)⟩
  | recorded found | read found | checked found => exact replaced found rfl rfl rfl
  | failed found pending => exact replaced found pending rfl rfl
  | wrote => exact absurd rfl (other _ _)
  | revoked => exact ⟨rfl, fun call member => .inl member⟩

end

theorem wrote_safe_iff (inv : Invariant service world) (safe : ReplaySafe world)
    (found : world.calls[position]? = some (.checked token sessionId session pair)) :
    (((world.calls.set position (.returned token sessionId pair
        (findById world.sessions sessionId))).filterMap Call.accepted).Nodup ∧
      ∀ call ∈ world.calls.set position (.returned token sessionId pair
        (findById world.sessions sessionId)), call.wroteRevoked = false) ↔
      undisturbed service world (.write position now) := by
  have member := List.mem_of_getElem? found
  -- The row is there; it holds the token's hash or the token has been accepted already.
  obtain ⟨stored, row, rowMember, sameId, held⟩ := inv.calls _ member
  have rowFound : findById world.sessions sessionId = some row :=
    Table.find_eq_some.mpr ⟨rowMember, sameId⟩
  have grown := filterMap_set_perm Call.accepted
    (.returned token sessionId pair (findById world.sessions sessionId)) found rfl rfl
  rw [grown.nodup_iff, List.nodup_cons]
  simp only [undisturbed, found, rowFound, Bool.and_eq_true, decide_eq_true_eq, Bool.not_eq_true']
  constructor
  · rintro ⟨⟨unspent, _⟩, harmless⟩
    refine ⟨?_, harmless _ (mem_set_self _ found)⟩
    rcases held with held | ⟨other, accepted, same⟩
    · exact held
    · rw [service.tokens.sha256Hex_injective same] at accepted
      exact absurd accepted unspent
  · rintro ⟨held, live⟩
    refine ⟨⟨fun accepted => ?_, safe.1⟩, forall_mem_set safe.2 live⟩
    -- A call that accepted the token before has spent its hash, and the row still holds it.
    obtain ⟨call, callMember, shows⟩ := List.mem_filterMap.mp accepted
    cases call with
    | returned spentToken =>
      cases shows
      exact (inv.calls _ callMember).2 row rowMember held
    | issued | recorded | verified | read | checked | threw => cases shows

theorem Effect.safe_iff (effect : Effect service world action next) (inv : Invariant service world)
    (safe : ReplaySafe world) : ReplaySafe next ↔ undisturbed service world action := by
  by_cases writes : ∃ call now, action = .write call now
  · obtain ⟨position, now, rfl⟩ := writes
    cases effect with
    | wrote found => exact wrote_safe_iff inv safe found
    | failed _ _ other | revoked other => exact absurd rfl (other _ _)
  · have other : ∀ call now, action ≠ .write call now := fun call now same => writes ⟨call, now, same⟩
    obtain ⟨same, calls⟩ := effect.quiet other
    have calm : undisturbed service world action = true := by
      cases action <;> first | rfl | exact absurd rfl (other _ _)
    refine iff_of_true ⟨same ▸ safe.1, fun call member => ?_⟩ calm
    exact (calls call member).elim (safe.2 call) id

end Effects

theorem initial_invariant : Invariant service (World.initial : World Token Hash) := by
  refine ⟨fun _ member => ?_, List.nodup_nil, fun _ member => ?_, fun _ member => ?_⟩ <;> cases member

variable [DecidableEq Hash]

/-- Along a run, every refresh token is accepted at most once and no rotation writes to
a revoked session, exactly when every rotation writes to the session it checked. -/
theorem replay_safe_iff_undisturbed (service : SessionService Token Hash) (actions : List (Action Token))
    (final : World Token Hash) (runs : (step service).run World.initial actions = some final) :
    (step service).Always ReplaySafe World.initial actions ↔
      (step service).Guarded (fun world action => undisturbed service world action)
        World.initial actions := by
  refine Step.always_iff_guarded (Invariant service) ?_ ?_ initial_invariant ?_ runs
  · intro world action next inv calm moves
    exact (step_effect moves).invariant inv calm
  · intro world action next inv safe moves
    exact (step_effect moves).safe_iff inv safe
  · exact ⟨List.nodup_nil, fun _ member => nomatch member⟩

def sample : SessionService Payload Payload := ⟨transparent {}, 1209600⟩

def signIn : List (Action Payload) :=
  [.buildResponse 1 "alice" ⟨"a0", 0⟩ ⟨"r0", 0⟩, .record 0 "s" none none 0]

def firstToken : Payload := issue sample.tokens ⟨"r0", 0⟩ 1 "alice" .refresh

/-- Two rotations of one token, the second after the first has written: the first is
accepted, the second is refused. -/
theorem replay_safe_sequential : (step sample).Always ReplaySafe World.initial
      (signIn ++ [.verify firstToken "s" 1, .find 1, .check 1 1 ⟨"a1", 1⟩ ⟨"r1", 1⟩, .write 1 1,
        .verify firstToken "s" 2, .find 2, .check 2 2 ⟨"a2", 2⟩ ⟨"r2", 2⟩, .revokeAll 1 3]) :=
  (replay_safe_iff_undisturbed sample _ _ rfl).mpr (by decide)

def raced : List (Action Payload) := List.append signIn
  [.verify firstToken "s" 1, .verify firstToken "s" 1, .find 1, .find 2, .check 1 1 ⟨"a1", 1⟩ ⟨"r1", 1⟩,
    .check 2 1 ⟨"a2", 1⟩ ⟨"r2", 1⟩, .write 1 1, .write 2 1]

def revokedBetween : List (Action Payload) := List.append signIn
  [.verify firstToken "s" 1, .find 1, .check 1 1 ⟨"a1", 1⟩ ⟨"r1", 1⟩, .revoke 1 "s" 2, .write 1 3]

/-- Two rotations that read the session before either writes are both accepted, and a
rotation that read the session before its revocation still returns a pair. -/
theorem replay_accepted_twice : (¬ ∀ (actions : List (Action Payload)) (final : World Payload Payload),
      (step sample).run World.initial actions = some final → final.accepted.Nodup) ∧
    ¬ ∀ (actions : List (Action Payload)) (final : World Payload Payload),
      (step sample).run World.initial actions = some final →
        ∀ call ∈ final.calls, call.wroteRevoked = false := by
  constructor
  · intro once
    exact absurd (once raced _ (Option.eq_some_of_isSome (by decide +kernel))) (by decide +kernel)
  · intro live
    exact absurd (live revokedBetween _ (Option.eq_some_of_isSome (by decide +kernel))) (by decide +kernel)

section Cleanup

def deleteExpired (table : SessionTable Hash) (now : TimePoint) : SessionTable Hash × Nat :=
  let dead (session : Session Hash) : Bool := session.expiresAt < now || session.isRevoked
  (table.deleteWhere dead, table.affected dead)

/-- The calls, and beside them the job that deletes what has expired or was revoked. -/
def maintained (service : SessionService Token Hash) : Step (World Token Hash) (Action Token ⊕ TimePoint)
  | world, .inl action => step service world action
  | world, .inr now => some { world with sessions := (deleteExpired world.sessions now).1 }

/-- The session, if it is there. -/
def RevokedAt (id : String) (time : TimePoint) (sessions : SessionTable Hash) : Prop :=
  ∀ session ∈ sessions, session.id = id → session.revokedAt = some time

theorem Effect.revokedAt {action : Action Token} {id : String} {time : TimePoint}
    (effect : Effect service world action next) (revoked : RevokedAt id time world.sessions)
    (fresh : ∀ call userAgent ip now, action ≠ .record call id userAgent ip now) : RevokedAt id time next.sessions := by
  intro session member same
  cases effect with
  | recorded found created =>
    rcases ((create_eq_ok created).2 session).mp member with old | rfl
    · exact revoked session old same
    · subst same
      exact (fresh _ _ _ _ rfl).elim
  | wrote found =>
    obtain ⟨old, listed, rfl⟩ := mem_rotate.mp member
    split at same <;> split <;> exact revoked old listed same
  | revoked other =>
    obtain ⟨old, listed, rfl⟩ := mem_revokeWhere.mp member
    split at same
    · next live => exact absurd (live.2.symm.trans (revoked old listed same)) nofun
    · next kept => rw [if_neg kept]; exact revoked old listed same
  | _ => exact revoked session member same

/-- A revoked session is not revived: whatever runs at the same time, a rotation checked before and the cleanup
included, it keeps the time of its revocation as long as it is there, and every rotation that reads it is refused. -/
theorem revocation_final {labels : List (Action Token ⊕ TimePoint)} {final : World Token Hash} {time : TimePoint}
    (runs : (maintained service).run world labels = some final) (member : session ∈ world.sessions)
    (revoked : session.revokedAt = some time)
    (fresh : ∀ call userAgent ip now, .inl (.record call session.id userAgent ip now) ∉ labels) :
    RevokedAt session.id time final.sessions ∧
      ∀ token claims now, checkSession service token claims (findById final.sessions session.id) now =
        .error ⟨.authentication, "Session is invalid or expired", ""⟩ := by
  have kept : RevokedAt session.id time final.sessions := by
    have new : ∀ label ∈ labels, ∀ call userAgent ip now, label ≠ .inl (.record call session.id userAgent ip now) :=
      fun label listed _ _ _ _ same => fresh _ _ _ _ (same ▸ listed)
    refine Step.guarded_invariant (fun world => RevokedAt session.id time world.sessions) ?_ ?_
      (Step.guarded_of_labels new) runs
    · intro world label next before new moves
      cases label with
      | inl action => exact (step_effect moves).revokedAt before fun _ _ _ _ same => new _ _ _ _ (congrArg _ same)
      | inr now =>
        cases moves
        exact fun other listed => before other (Table.mem_deleteWhere.mp listed).1
    · intro other listed same
      rw [Table.eq_of_key listed member same, revoked]
  refine ⟨kept, fun token claims now => ?_⟩
  cases found : findById final.sessions session.id with
  | none => rfl
  | some later =>
    obtain ⟨listed, id⟩ := Table.find_eq_some.mp found
    rw [checkSession, if_pos]
    simp [Session.isActive, Session.isRevoked, kept later listed id]

theorem revocation_final_written : ∃ world final, (step sample).run World.initial revokedBetween.dropLast = some world ∧
    (maintained sample).run world [.inl (.write 1 3), .inr 4] = some final ∧ RevokedAt "s" 2 final.sessions := by
  obtain ⟨world, reached, shown⟩ := (Option.any_eq_true _ _).mp
    (by decide +kernel : ((step sample).run World.initial revokedBetween.dropLast).any (fun world =>
      (findById world.sessions "s").any (fun session => session.revokedAt = some 2) &&
        ((maintained sample).run world [.inl (.write 1 3), .inr 4]).isSome) = true)
  rw [Bool.and_eq_true] at shown
  obtain ⟨session, found, revoked⟩ := (Option.any_eq_true _ _).mp shown.1
  obtain ⟨final, runs⟩ := Option.isSome_iff_exists.mp shown.2
  obtain ⟨listed, id⟩ := Table.find_eq_some.mp found
  exact ⟨world, final, reached, runs, id ▸ (revocation_final runs listed (of_decide_eq_true revoked) (by simp)).1⟩

end Cleanup

end RealtimeChat.Sessions
