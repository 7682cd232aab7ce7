import RealtimeChat.Realtime.Fanout

/-! The session registry when an address is registered again.

`add` overwrites the session that is found under an address and enters the
address for its new user. It does not take the address from the user it was
registered for before, whose index then leads to the session of the other. The
frames for a user go where that index leads.
-/

set_option autoImplicit false

namespace RealtimeChat.Realtime

open Foundation

variable {Conn : Type} [DecidableEq Conn]

namespace SessionManager

inductive Label (Conn : Type) where
  | add (conn : Conn) (userId : UserId) (username : String) (version : Version)
  | remove (conn : Conn)
  deriving DecidableEq, Repr

def step : Step (SessionManager Conn) (Label Conn) := fun manager label =>
  match label with
  | .add conn userId username version => some (manager.add conn userId username version)
  | .remove conn => some (manager.remove conn).1

theorem step_total (manager : SessionManager Conn) : ∀ label, ∃ next, step manager label = some next
  | .add _ _ _ _ | .remove _ => ⟨_, rfl⟩

/-- The sessions found for a user are the registered ones of that user, and a frame for some
users goes to no connection that is registered to another. -/
structure Routes (manager : SessionManager Conn) : Prop where
  sessions : ∀ userId, (manager.sessionsForUser userId).Perm (manager.snapshot.filter fun session => session.userId = userId)
  frames : ∀ rooms userIds type data clock, ∀ send ∈ deliverLocal ⟨manager, rooms⟩ userIds type data clock,
    ∃ session, manager.get send.1 = some session ∧ session.userId ∈ userIds

def Vacant (manager : SessionManager Conn) : Label Conn → Prop
  | .add conn userId _ _ => ∀ session ∈ manager.get conn, session.userId = userId
  | .remove _ => True

variable {manager next : SessionManager Conn} {session : Session Conn} {userId : UserId} {label : Label Conn}

theorem mem_snapshot : session ∈ manager.snapshot ↔ ∃ conn, manager.get conn = some session := by
  refine ⟨get_of_mem_snapshot, fun ⟨conn, found⟩ => ?_⟩
  exact List.mem_map.mpr ⟨⟨conn, session⟩, AList.mem_lookup_iff.mp found, rfl⟩

theorem mem_sessionsForUser :
    session ∈ manager.sessionsForUser userId ↔ ∃ conn ∈ manager.byUser.values userId, manager.get conn = some session :=
  List.mem_filterMap

theorem Agrees.nodup_snapshot (agrees : manager.Agrees) : manager.snapshot.Nodup := by
  have addresses : manager.snapshot.map Session.connection = manager.byConnection.keys := by
    rw [snapshot, List.map_map]
    refine List.map_congr_left fun entry listed => ?_
    exact agrees.address entry.1 entry.2 (AList.mem_lookup_iff.mpr listed)
  refine List.Nodup.of_map Session.connection ?_
  rw [addresses]
  exact manager.byConnection.nodupKeys

theorem Agrees.nodup_sessionsForUser (agrees : manager.Agrees) (userId : UserId) :
    (manager.sessionsForUser userId).Nodup := by
  refine (manager.byUser.nodup_values userId).filterMap fun first second session one two => ?_
  exact (agrees.address first session one).symm.trans (agrees.address second session two)

theorem connection_of_mem_sendEach {exclude : Option Conn} {frames : FrameCache} {sessions : List (Session Conn)}
    {send : Conn × Json} (sent : send ∈ sendEach exclude frames sessions) :
    ∃ session ∈ sessions, session.connection = send.1 := by
  induction sessions generalizing frames with
  | nil => cases sent
  | cons session rest ih =>
    rw [sendEach] at sent
    split at sent
    · obtain ⟨other, listed, same⟩ := ih sent
      exact ⟨other, List.mem_cons_of_mem _ listed, same⟩
    · rcases List.mem_cons.mp sent with rfl | sent
      · exact ⟨session, List.mem_cons_self, rfl⟩
      · obtain ⟨other, listed, same⟩ := ih sent
        exact ⟨other, List.mem_cons_of_mem _ listed, same⟩

theorem Agrees.routes (agrees : manager.Agrees) : manager.Routes where
  sessions userId := by
    refine (List.perm_ext_iff_of_nodup (agrees.nodup_sessionsForUser userId) (agrees.nodup_snapshot.filter _)).mpr
      fun session => ?_
    rw [mem_sessionsForUser, List.mem_filter, mem_snapshot, decide_eq_true_eq]
    constructor
    · rintro ⟨conn, listed, found⟩
      obtain ⟨other, there, own⟩ := (agrees.users conn userId).mp listed
      obtain rfl := Option.some.inj (found.symm.trans there)
      exact ⟨⟨conn, found⟩, own⟩
    · rintro ⟨⟨conn, found⟩, own⟩
      exact ⟨conn, (agrees.users conn userId).mpr ⟨session, found, own⟩, found⟩
  frames rooms userIds type data clock send sent := by
    obtain ⟨userId, addressed, sent⟩ := List.mem_flatMap.mp sent
    obtain ⟨session, listed, address⟩ := connection_of_mem_sendEach sent
    obtain ⟨conn, held, found⟩ := mem_sessionsForUser.mp listed
    obtain ⟨other, there, own⟩ := (agrees.users conn userId).mp held
    obtain rfl := Option.some.inj (found.symm.trans there)
    rw [← address, agrees.address conn session found]
    exact ⟨session, found, own.symm ▸ addressed⟩

theorem Agrees.step (agrees : manager.Agrees) (vacant : Vacant manager label) (moves : step manager label = some next) :
    next.Agrees := by
  cases label with
  | add conn userId username version =>
    cases moves
    exact agrees.add vacant username version
  | remove conn =>
    cases moves
    exact agrees.remove conn

theorem Agrees.not_routes_add (agrees : manager.Agrees) {conn : Conn} (found : manager.get conn = some session)
    (other : session.userId ≠ userId) (username : String) (version : Version) :
    ¬ (manager.add conn userId username version).Routes := by
  intro routes
  have stale : conn ∈ (manager.add conn userId username version).byUser.values session.userId :=
    Multimap.mem_values_add.mpr (Or.inr ((agrees.users conn session.userId).mpr ⟨session, found, rfl⟩))
  have led := mem_sessionsForUser.mpr ⟨conn, stale, (get_add manager conn conn userId username version).trans (if_pos rfl)⟩
  have own := (List.mem_filter.mp ((routes.sessions session.userId).mem_iff.mp led)).2
  exact other (of_decide_eq_true own).symm

theorem step_routes_iff (agrees : manager.Agrees) (moves : step manager label = some next) :
    next.Routes ↔ Vacant manager label := by
  refine ⟨fun routes => ?_, fun vacant => (agrees.step vacant moves).routes⟩
  cases label with
  | add conn userId username version =>
    cases moves
    intro session found
    by_contra other
    exact agrees.not_routes_add found other username version routes
  | remove conn => trivial

/-- In every sequence of calls, the sessions and the frames of each user are right at every point
exactly if no address is added for one user while it is registered for another. -/
theorem routes_iff_vacant (labels : List (Label Conn)) :
    step.Always Routes (SessionManager.empty : SessionManager Conn) labels ↔
      step.Guarded Vacant SessionManager.empty labels := by
  obtain ⟨final, runs⟩ := Step.run_total step_total SessionManager.empty labels
  exact Step.always_iff_guarded Agrees Agrees.step (fun agrees _ => step_routes_iff agrees) .empty Agrees.empty.routes runs

/-- The address of the first user's connection is registered for the second user. -/
def reused : List (Label Nat) := [.add 0 1 "ann" .v1, .add 0 2 "bob" .v1]

/-- A frame for the first user is sent to the connection of the second. -/
theorem reused_address_misrouted :
    ∃ manager, step.run SessionManager.empty reused = some manager ∧
      (manager.sessionsForUser 1).map Session.userId = [2] ∧
      (deliverLocal ⟨manager, .empty⟩ [1] "message.created" .null fun _ => "").map Prod.fst = [0] ∧
      (manager.get 0).map Session.userId = some 2 ∧ ¬ manager.Routes := by
  refine ⟨_, rfl, rfl, rfl, rfl, fun routes => ?_⟩
  have found := (routes.sessions 1).length_eq
  revert found
  decide

end SessionManager

end RealtimeChat.Realtime
