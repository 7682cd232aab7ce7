import RealtimeChat.Database.Columns
import RealtimeChat.Foundation.Table

/-! The `sessions` table and its repository.

Each repository method is one transaction, hence one function on the table. A
statement that the database refuses is reported as the exception that
`with_transaction` wraps around it.
-/

set_option autoImplicit false

namespace RealtimeChat.Sessions

open Foundation

structure Session (Hash : Type) where
  id : String
  userId : UserId
  refreshTokenHash : Hash
  userAgent : Option String
  ip : Option String
  createdAt : TimePoint
  lastUsedAt : TimePoint
  expiresAt : TimePoint
  revokedAt : Option TimePoint
  deriving DecidableEq, Repr

/-- The header and the address are passed on as they came. -/
structure NewSession (Hash : Type) where
  id : String
  userId : UserId
  refreshTokenHash : Hash
  userAgent : Option Bytes
  ip : Option Bytes
  ttlSeconds : Int
  deriving DecidableEq, Repr

variable {Hash : Type}

def Session.isRevoked (session : Session Hash) : Bool := session.revokedAt.isSome

def Session.isExpired (session : Session Hash) (now : TimePoint) : Bool := session.expiresAt ≤ now

def Session.isActive (session : Session Hash) (now : TimePoint) : Bool :=
  !session.isRevoked && !session.isExpired now

abbrev SessionTable (Hash : Type) := Table (fun session : Session Hash => session.id)

/-- The hash, 64 digits, always fits. -/
def NewSession.refusal (input : NewSession Hash) : Option Database.Refusal :=
  Database.refusal [(64, some input.id)] [(255, input.userAgent), (64, input.ip)]

/-- The id is a text of hexadecimal digits. -/
def NewSession.row (input : NewSession Hash) (now : TimePoint) : Session Hash :=
  ⟨input.id, input.userId, input.refreshTokenHash, (input.userAgent.bind Database.decode).map (Database.stored 255),
    (input.ip.bind Database.decode).map (Database.stored 64), now, now, now + input.ttlSeconds, none⟩

def create (table : SessionTable Hash) (input : NewSession Hash) (now : TimePoint) :
    Result (SessionTable Hash) :=
  match input.refusal with
  | some refusal => .error refusal.error
  | none =>
    match table.insert (input.row now) with
    | none => .error (databaseFailure "duplicate key value violates unique constraint")
    | some next => .ok next

def findById (table : SessionTable Hash) (id : String) : Option (Session Hash) := table.find id

def rotate (table : SessionTable Hash) (id : String) (newHash : Hash) (now : TimePoint) :
    SessionTable Hash :=
  table.updateWhere (fun session => session.id = id)
    (fun session => { session with refreshTokenHash := newHash, lastUsedAt := now }) fun _ => rfl

/-- The three revocations differ only in their `WHERE` clause, next to `revoked_at IS NULL`. -/
def revokeWhere (table : SessionTable Hash) (matching : Session Hash → Bool) (now : TimePoint) :
    SessionTable Hash × Nat :=
  let live := fun session : Session Hash => matching session && session.revokedAt.isNone
  (table.updateWhere live (fun session => { session with revokedAt := some now }) fun _ => rfl,
    table.affected live)

def revoke (table : SessionTable Hash) (id : String) (userId : UserId) (now : TimePoint) :
    SessionTable Hash × Bool :=
  let (next, affected) := revokeWhere table (fun session => session.id = id && session.userId = userId) now
  (next, 0 < affected)

def revokeAll (table : SessionTable Hash) (userId : UserId) (now : TimePoint) : SessionTable Hash × Nat :=
  revokeWhere table (fun session => session.userId = userId) now

def revokeAllExcept (table : SessionTable Hash) (userId : UserId) (keepId : String) (now : TimePoint) :
    SessionTable Hash × Nat :=
  revokeWhere table (fun session => session.userId = userId && session.id ≠ keepId) now

variable {table : SessionTable Hash} {input : NewSession Hash} {now : TimePoint} {session : Session Hash}

theorem create_eq_ok {next : SessionTable Hash} (created : create table input now = .ok next) :
    (∀ session ∈ table, session.id ≠ input.id) ∧
      ∀ session, session ∈ next ↔ session ∈ table ∨ session = input.row now := by
  unfold create at created
  split at created
  · cases created
  · split at created
    · cases created
    · next inserted =>
      cases created
      exact ⟨(Table.insert_eq_some inserted).1, fun session => Table.mem_insert inserted⟩

theorem create_of_fresh (fresh : ∀ session ∈ table, session.id ≠ input.id) (now : TimePoint) :
    ∃ next, create table input now =
      match input.refusal with
      | some refusal => .error refusal.error
      | none => .ok next := by
  unfold create
  split
  · exact ⟨table, rfl⟩
  · split
    · next taken =>
      obtain ⟨session, member, same⟩ := Table.insert_eq_none.mp taken
      exact absurd same (fresh session member)
    · next next _ => exact ⟨next, rfl⟩

theorem exists_create :
    (∃ next, create table input now = .ok next) ↔
      input.refusal = none ∧ ∀ session ∈ table, session.id ≠ input.id := by
  constructor
  · rintro ⟨next, created⟩
    refine ⟨?_, (create_eq_ok created).1⟩
    unfold create at created
    split at created
    · cases created
    · next fits => exact fits
  · rintro ⟨fits, fresh⟩
    obtain ⟨next, created⟩ := create_of_fresh fresh now
    rw [fits] at created
    exact ⟨next, created⟩

theorem mem_rotate {id : String} {newHash : Hash} :
    session ∈ rotate table id newHash now ↔ ∃ old ∈ table, session =
      if old.id = id then { old with refreshTokenHash := newHash, lastUsedAt := now } else old := by
  simp [rotate, Table.mem_updateWhere]

/-- A revocation changes no column but `revoked_at`. -/
theorem mem_revokeWhere {matching : Session Hash → Bool} :
    session ∈ (revokeWhere table matching now).1 ↔ ∃ old ∈ table, session =
      if matching old ∧ old.revokedAt = none then { old with revokedAt := some now } else old := by
  simp [revokeWhere, Table.mem_updateWhere]

end RealtimeChat.Sessions
