import RealtimeChat.Security.Token
import RealtimeChat.Chat.Rooms
import RealtimeChat.Server.Endpoints

/-! Suspension at the entry points of a cluster.

A REST request is admitted by the guard of its endpoint: the token is verified,
the suspension of its user is looked up in the cache, and on a miss it is read
from the database and put into the cache. Each of these is a step, and the
handler's actions are steps too, so that requests interleave with the ban and
with its invalidation. An instance uses one cache store, which it may share with
others. A WebSocket upgrade verifies the token and nothing else, and a frame is
handled for the user of its connection.

`applied` is a record of the run that nothing reads: which instances have
dropped their cached decision about a user since the user was banned.
-/

set_option autoImplicit false

namespace RealtimeChat.Server.Admission

open Foundation Accounts Security Realtime Chat

structure Deployment (Node Slot Token Hash : Type) where
  primitives : Primitives Token Hash
  backing : Node → Slot

inductive Phase where
  | lookUp (endpoint : Endpoint)
  | read (endpoint : Endpoint)
  | fill (endpoint : Endpoint) (banned : Bool)
  | authorize (permission : Permission) (program : Service Unit)
  | execute (program : Service Unit)
  | rejected (error : AppException)

structure Task (Node : Type) where
  node : Node
  userId : UserId
  phase : Phase

structure World (Node Slot Conn : Type) [DecidableEq Conn] where
  backend : Backend
  caches : Slot → AList (fun _ : UserId => Bool)
  managers : Node → ConnectionManager Conn
  features : Node → Features
  tasks : List (Task Node)
  applied : Node → UserId → Bool

/-- Tasks are named by their position. A role is what `role_of` returned, possibly from its
cache. An entry of a cache expires at any time, and an invalidation is applied at any time,
by the handler that made the change or when its notice arrives. -/
inductive Label (Node Slot Conn Token : Type) where
  | request (node : Node) (token : Token) (now : TimePoint) (endpoint : Endpoint)
  | lookUp (task : Nat)
  | read (task : Nat)
  | fill (task : Nat)
  | authorize (task : Nat) (role : Role)
  | abort (task : Nat) (error : AppException)
  | advance (task : Nat) (failure : Option AppException) (now : TimePoint)
  | upgrade (node : Node) (conn : Conn) (token : Token) (now : TimePoint) (requested : Option Int) (found : Bool)
  | frame (node : Node) (conn : Conn) (data : Option Json)
  | close (node : Node) (conn : Conn)
  | setFeatures (node : Node) (features : Features)
  | expire (slot : Slot) (userId : UserId)
  | setBanned (userId : UserId) (banned : Bool) (reason : Option String) (actorId : Option UserId) (now : TimePoint)
  | invalidateLocal (node : Node) (userId : UserId)
  | register (input : NewUser) (now : TimePoint)

variable {Node Slot Conn Token Hash : Type} [DecidableEq Conn]

section Machine

variable [DecidableEq Node] [DecidableEq Slot]

def World.initial (store : Store) (features : Node → Features) : World Node Slot Conn :=
  ⟨⟨store, 0, [], []⟩, fun _ => ∅, fun _ => .empty, features, [], fun _ _ => false⟩

def World.isBanned (world : World Node Slot Conn) (userId : UserId) : Bool :=
  (Accounts.isBanned world.backend.store.users userId).getD false

def suspended (userId : UserId) : AppException :=
  ⟨.authentication, "Account is suspended", "user_id=" ++ toString userId⟩

def requireActive (banned : Bool) (endpoint : Endpoint) (userId : UserId) : Phase :=
  if banned then .rejected (suspended userId)
  else match endpoint.guard with
    | .permission permission => .authorize permission (endpoint.handle userId)
    | _ => .execute (endpoint.handle userId)

def authenticate (endpoint : Endpoint) (userId : UserId) : Phase :=
  match endpoint.guard with
  | .tokenOnly => .execute (endpoint.handle userId)
  | _ => .lookUp endpoint

def World.setPhase (world : World Node Slot Conn) (position : Nat) (task : Task Node) (phase : Phase) :
    World Node Slot Conn :=
  { world with tasks := world.tasks.set position { task with phase := phase } }

def World.start (world : World Node Slot Conn) (task : Task Node) : World Node Slot Conn :=
  { world with tasks := world.tasks ++ [task] }

def World.cache (world : World Node Slot Conn) (slot : Slot) (entries : AList (fun _ : UserId => Bool)) :
    World Node Slot Conn :=
  { world with caches := Function.update world.caches slot entries }

def World.setManager (world : World Node Slot Conn) (node : Node) (manager : ConnectionManager Conn) :
    World Node Slot Conn :=
  { world with managers := Function.update world.managers node manager }

def World.setUsers (world : World Node Slot Conn) (users : UserTable) : World Node Slot Conn :=
  { world with backend := { world.backend with store := { world.backend.store with users := users } } }

def World.recordBan (world : World Node Slot Conn) (userId : UserId) (banned : Bool) : World Node Slot Conn :=
  if banned && !world.isBanned userId then
    { world with applied := fun node => Function.update (world.applied node) userId false }
  else world

variable (deployment : Deployment Node Slot Token Hash)

def step : Step (World Node Slot Conn) (Label Node Slot Conn Token) := fun world label =>
  match label with
  | .request node token now endpoint =>
    match verify deployment.primitives now token .access with
    | .error _ => some world
    | .ok claims => some (world.start ⟨node, claims.userId, authenticate endpoint claims.userId⟩)
  | .lookUp position =>
    match world.tasks[position]? with
    | some ⟨node, userId, .lookUp endpoint⟩ =>
      match (world.caches (deployment.backing node)).lookup userId with
      | some banned => some (world.setPhase position ⟨node, userId, .lookUp endpoint⟩
          (requireActive banned endpoint userId))
      | none => some (world.setPhase position ⟨node, userId, .lookUp endpoint⟩ (.read endpoint))
    | _ => none
  | .read position =>
    match world.tasks[position]? with
    | some ⟨node, userId, .read endpoint⟩ =>
      some (world.setPhase position ⟨node, userId, .read endpoint⟩ (.fill endpoint (world.isBanned userId)))
    | _ => none
  -- The decision goes into the cache as it was read, however long ago that was.
  | .fill position =>
    match world.tasks[position]? with
    | some ⟨node, userId, .fill endpoint banned⟩ =>
      let slot := deployment.backing node
      some ((world.cache slot ((world.caches slot).insert userId banned)).setPhase position
        ⟨node, userId, .fill endpoint banned⟩ (requireActive banned endpoint userId))
    | _ => none
  | .authorize position role =>
    match world.tasks[position]? with
    | some ⟨node, userId, .authorize permission program⟩ =>
      match requirePermission role permission with
      | .ok () => some (world.setPhase position ⟨node, userId, .authorize permission program⟩ (.execute program))
      | .error error => some (world.setPhase position ⟨node, userId, .authorize permission program⟩ (.rejected error))
    | _ => none
  | .abort position error =>
    match world.tasks[position]? with
    | some ⟨_, _, .execute _⟩ | some ⟨_, _, .rejected _⟩ | none => none
    | some task => some (world.setPhase position task (.rejected error))
  | .advance position failure now =>
    match world.tasks[position]? with
    | some ⟨node, userId, .execute program⟩ =>
      (program.advance { world.backend with now := now } failure).map fun (backend, rest) =>
        { world with backend := backend }.setPhase position ⟨node, userId, .execute program⟩ (.execute rest)
    | _ => none
  -- The upgrade and the frames after it go by the token alone: no suspension check.
  | .upgrade node conn token now requested found =>
    match verify deployment.primitives now token .access with
    | .error _ => some world
    | .ok claims =>
      if (world.managers node).sessions.get conn = none then
        some (world.setManager node (Rooms.opened world.backend.store (world.managers node) conn claims.userId
          claims.username (negotiate requested) found))
      else none
  | .frame node conn data =>
    match (world.managers node).sessions.get conn with
    | none => some world
    | some session => some (world.start ⟨node, session.userId, .execute do
        let _ ← EventDispatcher.onMessage (world.features node) session.userId data⟩)
  | .close node conn => some (world.setManager node ((world.managers node).unregisterSession conn).1)
  | .setFeatures node features => some { world with features := Function.update world.features node features }
  | .expire slot userId => some (world.cache slot ((world.caches slot).erase userId))
  | .setBanned userId banned reason actorId now =>
    match setBanned world.backend.store.users userId banned reason actorId now with
    | .error _ => some world
    | .ok users => some ((world.recordBan userId banned).setUsers users)
  | .invalidateLocal node userId =>
    let slot := deployment.backing node
    some { world.cache slot ((world.caches slot).erase userId) with
      applied := Function.update world.applied node (Function.update (world.applied node) userId true) }
  | .register input now =>
    match create world.backend.store.users input now with
    | .error _ => some world
    | .ok (users, _) => some (world.setUsers users)

def actor (world : World Node Slot Conn) : Label Node Slot Conn Token → Option UserId
  | .request _ token now _ | .upgrade _ _ token now _ _ =>
    (verify deployment.primitives now token .access).toOption.map TokenClaims.userId
  | .lookUp position | .read position | .fill position | .authorize position _ | .abort position _
  | .advance position _ _ => world.tasks[position]?.map Task.userId
  | .frame node conn _ => ((world.managers node).sessions.get conn).map Session.userId
  | _ => none

/-- The stored messages, receipts, reactions, conversations and memberships. -/
def chat (store : Store) :=
  (store.messages, store.receipts, store.reactions, store.conversations, store.participants)

/-- The user is banned, and since then every instance has applied an invalidation. -/
def World.Enforced (world : World Node Slot Conn) (userId : UserId) : Prop :=
  world.isBanned userId = true ∧ ∀ node, world.applied node userId = true

/-- The step, if it is made with the credentials of a user whose ban is enforced, leaves the
stored conversations as they are. -/
def Shielded (world : World Node Slot Conn) (label : Label Node Slot Conn Token) : Prop :=
  ∀ userId, actor deployment world label = some userId → world.Enforced userId →
    ∀ next, step deployment world label = some next → chat next.backend.store = chat world.backend.store

def Phase.cleared : Phase → Bool
  | .fill _ banned => !banned
  | .authorize _ _ => true
  | .execute (.atomic _ _ _) => true
  | _ => false

/-- Frames that store something come from users who are not banned, and when an instance
applies the invalidation of a banned user, no request or frame of the user that has been let in
is under way on the instances that share its cache. -/
def careful (world : World Node Slot Conn) : Label Node Slot Conn Token → Bool
  | .frame node conn data => ((world.managers node).sessions.get conn).all fun session =>
      !(EventDispatcher.stores (world.features node) data && world.isBanned session.userId)
  | .invalidateLocal node userId => !world.isBanned userId || world.tasks.all fun task =>
      task.userId ≠ userId || deployment.backing task.node ≠ deployment.backing node || !task.phase.cleared
  | _ => true

end Machine

/-- The task cannot come to change the stored conversations without another check. -/
def Phase.Harmless : Phase → Prop
  | .fill _ banned => banned = true
  | .authorize _ _ => False
  | .execute program => Leaves chat program
  | _ => True

def Phase.LeavesUsers : Phase → Prop
  | .authorize _ program => Leaves Store.users program
  | .execute program => Leaves Store.users program
  | _ => True

/-- Nothing lets the user in at the instances of a cache short of a database read. -/
structure World.Closed (deployment : Deployment Node Slot Token Hash) (world : World Node Slot Conn) (slot : Slot)
    (userId : UserId) : Prop where
  cached : (world.caches slot).lookup userId ≠ some false
  harmless : ∀ task ∈ world.tasks, task.userId = userId → deployment.backing task.node = slot → task.phase.Harmless

structure Invariant (deployment : Deployment Node Slot Token Hash) (world : World Node Slot Conn) : Prop where
  users : ∀ task ∈ world.tasks, task.phase.LeavesUsers
  closed : ∀ node userId, world.isBanned userId = true → world.applied node userId = true →
    World.Closed deployment world (deployment.backing node) userId

variable {phase : Phase} {task : Task Node} (endpoint : Endpoint) (banned : Bool)

theorem Phase.harmless_of_not_cleared (idle : phase.cleared = false) : phase.Harmless := by
  cases phase with
  | fill endpoint banned => simpa [Phase.cleared, Phase.Harmless] using idle
  | authorize permission program => cases idle
  | execute program =>
    cases program with
    | done result => exact ⟨trivial⟩
    | atomic update rest rescue => cases idle
  | lookUp | read | rejected => trivial

theorem authenticate_harmless (userId : UserId) : (authenticate endpoint userId).Harmless := by
  unfold authenticate
  split
  · next unchecked => exact Endpoint.handle_leaves_of_tokenOnly unchecked userId
  · trivial

theorem authenticate_leavesUsers (userId : UserId) : (authenticate endpoint userId).LeavesUsers := by
  unfold authenticate
  split
  · exact Endpoint.handle_leaves_users userId endpoint
  · trivial

theorem requireActive_leavesUsers (endpoint : Endpoint) (userId : UserId) :
    (requireActive banned endpoint userId).LeavesUsers := by
  unfold requireActive
  split
  · trivial
  · split <;> exact Endpoint.handle_leaves_users userId endpoint

theorem isBanned_iff {world : World Node Slot Conn} {userId : UserId} :
    world.isBanned userId = true ↔ Accounts.isBanned world.backend.store.users userId = some true := by
  simp [World.isBanned, Option.getD_eq_iff]

structure Fits (deployment : Deployment Node Slot Token Hash) (world : World Node Slot Conn) (task : Task Node) :
    Prop where
  users : task.phase.LeavesUsers
  harmless : world.isBanned task.userId = true →
    World.Closed deployment world (deployment.backing task.node) task.userId → task.phase.Harmless

variable {deployment : Deployment Node Slot Token Hash} {world next : World Node Slot Conn}

section

variable (invariant : Invariant deployment world)

include invariant

/-- A step keeps the invariant if it watches no more users, poisons no cache and lets no task
of a watched user in. -/
theorem Invariant.keep (watched : ∀ node userId, next.isBanned userId = true → next.applied node userId = true →
      world.isBanned userId = true ∧ world.applied node userId = true)
    (cached : ∀ slot userId, World.Closed deployment world slot userId → (next.caches slot).lookup userId ≠ some false)
    (tasks : ∀ task ∈ next.tasks, task ∈ world.tasks ∨ Fits deployment world task) : Invariant deployment next where
  users task member := (tasks task member).elim (invariant.users task) Fits.users
  closed node userId banned applied := by
    obtain ⟨before, appliedBefore⟩ := watched node userId banned applied
    have closed := invariant.closed node userId before appliedBefore
    refine ⟨cached _ _ closed, fun task member own same => ?_⟩
    rcases tasks task member with old | fits
    · exact closed.harmless task old own same
    · subst own
      exact fits.harmless before (same ▸ closed)

theorem Invariant.start (fits : Fits deployment world task) : Invariant deployment (world.start task) := by
  refine invariant.keep (fun _ _ banned applied => ⟨banned, applied⟩) (fun _ _ => World.Closed.cached) ?_
  exact forall_mem_concat (fun _ => Or.inl) (Or.inr fits)

theorem Invariant.setPhase {position : Nat} (fits : Fits deployment world { task with phase := phase }) :
    Invariant deployment (world.setPhase position task phase) := by
  refine invariant.keep (fun _ _ banned applied => ⟨banned, applied⟩) (fun _ _ => World.Closed.cached) ?_
  exact forall_mem_set (fun _ => Or.inl) (Or.inr fits)

theorem Invariant.cache [DecidableEq Slot] {slot : Slot} {entries : AList (fun _ : UserId => Bool)}
    (cached : ∀ userId, World.Closed deployment world slot userId → entries.lookup userId ≠ some false) :
    Invariant deployment (world.cache slot entries) := by
  refine invariant.keep (fun _ _ banned applied => ⟨banned, applied⟩) ?_ fun _ => Or.inl
  intro other userId closed
  by_cases same : other = slot
  · subst same
    simpa [World.cache] using cached userId closed
  · simpa [World.cache, same] using closed.cached

theorem Invariant.setUsers {users : UserTable}
    (watched : ∀ node userId, (Accounts.isBanned users userId).getD false = true →
      world.applied node userId = true → world.isBanned userId = true) :
    Invariant deployment (world.setUsers users) :=
  invariant.keep (fun node userId banned applied => ⟨watched node userId banned applied, applied⟩)
    (fun _ _ => World.Closed.cached) fun _ => Or.inl

end

theorem fits_lookUp {node : Node} {userId : UserId} {banned : Bool}
    (found : (world.caches (deployment.backing node)).lookup userId = some banned) :
    Fits deployment world ⟨node, userId, requireActive banned endpoint userId⟩ where
  users := requireActive_leavesUsers banned endpoint userId
  harmless _ closed := by
    cases banned with
    | true => trivial
    | false => exact absurd found closed.cached

section Steps

variable [DecidableEq Node] [DecidableEq Slot] {position : Nat} {node : Node} {userId : UserId}

section

variable (invariant : Invariant deployment world)

include invariant

theorem lookUp_invariant
    (steps : step deployment world (.lookUp position) = some next) : Invariant deployment next := by
  simp only [step] at steps
  split at steps
  · next node userId endpoint _ =>
    split at steps
    · next banned found =>
      cases steps
      exact invariant.setPhase (fits_lookUp endpoint found)
    · cases steps
      exact invariant.setPhase ⟨trivial, fun _ _ => trivial⟩
  · cases steps

/-- Only a decision read before the ban could poison a closed cache, and such a task is not
harmless. -/
theorem fill_invariant (steps : step deployment world (.fill position) = some next) : Invariant deployment next := by
  simp only [step] at steps
  split at steps
  · next node userId endpoint banned found =>
    cases steps
    have member := List.mem_of_getElem? found
    refine (invariant.cache fun other closed => ?_).setPhase ⟨requireActive_leavesUsers .., fun _ closed => ?_⟩
    · by_cases same : other = userId
      · subst same
        have known : banned = true := closed.harmless _ member rfl rfl
        simp [known]
      · rw [AList.lookup_insert_ne same]
        exact closed.cached
    · have known : banned = true := closed.harmless _ member rfl rfl
      rw [known]
      trivial
  · cases steps

theorem authorize_invariant {role : Role}
    (steps : step deployment world (.authorize position role) = some next) : Invariant deployment next := by
  simp only [step] at steps
  split at steps
  · next node userId permission program found =>
    have member := List.mem_of_getElem? found
    have leaves : Leaves Store.users program := invariant.users _ member
    split at steps
    · cases steps
      exact invariant.setPhase ⟨leaves, fun _ closed => (closed.harmless _ member rfl rfl).elim⟩
    · cases steps
      exact invariant.setPhase ⟨trivial, fun _ _ => trivial⟩
  · cases steps

end

variable {now : TimePoint} {label : Label Node Slot Conn Token}

theorem advance_invariant (invariant : Invariant deployment world) {failure : Option AppException}
    (steps : step deployment world (.advance position failure now) = some next) : Invariant deployment next := by
  simp only [step] at steps
  split at steps
  · next node userId program found =>
    obtain ⟨⟨backend, rest⟩, advanced, rfl⟩ := Option.map_eq_some_iff.mp steps
    have member := List.mem_of_getElem? found
    have leaves : Leaves Store.users program := invariant.users _ member
    obtain ⟨users, leavesRest⟩ := leaves.advance advanced
    have kept : Invariant deployment { world with backend := backend } :=
      invariant.keep (fun node userId banned applied => ⟨by simpa [World.isBanned, users] using banned, applied⟩)
        (fun _ _ => World.Closed.cached) fun _ => Or.inl
    refine kept.setPhase ⟨leavesRest, fun _ closed => ?_⟩
    have harmless : Leaves chat program := closed.harmless _ member rfl rfl
    exact (harmless.advance advanced).2
  · cases steps

theorem frame_invariant (invariant : Invariant deployment world) {conn : Conn} {data : Option Json}
    (met : careful deployment world (.frame node conn data) = true)
    (steps : step deployment world (.frame node conn data) = some next) : Invariant deployment next := by
  simp only [step] at steps
  split at steps
  · cases steps
    exact invariant
  · next session found =>
    cases steps
    refine invariant.start ⟨leaves_bind (EventDispatcher.onMessage_leaves_users ..) fun _ => leaves_pure _,
      fun banned _ => ?_⟩
    have harmless : EventDispatcher.stores (world.features node) data = false := by
      simpa [careful, found, banned] using met
    exact leaves_bind (EventDispatcher.onMessage_leaves_of_not_stores harmless _) fun _ => leaves_pure _

omit [DecidableEq Node] [DecidableEq Slot] in
theorem isBanned_recordBan (other : UserId) :
    (world.recordBan userId banned).isBanned other = world.isBanned other := by
  unfold World.recordBan
  split <;> rfl

omit [DecidableEq Node] [DecidableEq Slot] in
theorem Invariant.recordBan (invariant : Invariant deployment world) (userId : UserId) (banned : Bool) :
    Invariant deployment (world.recordBan userId banned) := by
  unfold World.recordBan
  split
  · refine invariant.keep (fun node other banned applied => ⟨banned, ?_⟩) (fun _ _ => World.Closed.cached) fun _ => Or.inl
    by_cases same : other = userId
    · subst same
      simp at applied
    · simpa [same] using applied
  · exact invariant

theorem setBanned_invariant (invariant : Invariant deployment world) {banned : Bool} {reason : Option String}
    {actorId : Option UserId}
    (steps : step deployment world (.setBanned userId banned reason actorId now) = some next) :
    Invariant deployment next := by
  simp only [step] at steps
  split at steps
  · cases steps
    exact invariant
  · next users done =>
    cases steps
    refine (invariant.recordBan userId banned).setUsers fun node other after applied => ?_
    rw [isBanned_setBanned done] at after
    rw [isBanned_recordBan]
    by_cases same : other = userId
    · subst same
      -- a user who was not banned has just lost the record
      have banning : banned = true := by simpa using after
      cases unbanned : world.isBanned other with
      | true => rfl
      | false => simp [World.recordBan, banning, unbanned] at applied
    · simpa [same, World.isBanned] using after

omit [DecidableEq Node] in
theorem Invariant.forget (invariant : Invariant deployment world) (slot : Slot) (userId : UserId) :
    Invariant deployment (world.cache slot ((world.caches slot).erase userId)) := by
  refine invariant.cache fun other closed => ?_
  by_cases same : other = userId
  · subst same
    simp
  · rw [AList.lookup_erase_ne same]
    exact closed.cached

theorem invalidateLocal_invariant (invariant : Invariant deployment world)
    (met : careful deployment world (.invalidateLocal node userId) = true)
    (steps : step deployment world (.invalidateLocal node userId) = some next) : Invariant deployment next := by
  cases steps
  have forgotten := invariant.forget (deployment.backing node) userId
  refine ⟨forgotten.users, fun other user banned applied => ?_⟩
  by_cases new : other = node ∧ user = userId
  · obtain ⟨rfl, rfl⟩ := new
    refine ⟨by simp [World.cache], fun task member own same => Phase.harmless_of_not_cleared ?_⟩
    have barred : world.isBanned user = true := banned
    have idle := met
    simp only [careful, barred, Bool.not_true, Bool.false_or, List.all_eq_true] at idle
    simpa [own, same] using idle task member
  · have before : world.applied other user = true := by
      by_cases here : other = node
      · subst here
        have different : user ≠ userId := fun same => new ⟨rfl, same⟩
        simpa [different] using applied
      · simpa [here] using applied
    have closed := forgotten.closed other user banned before
    exact ⟨closed.cached, closed.harmless⟩

theorem step_invariant (invariant : Invariant deployment world) (met : careful deployment world label = true)
    (steps : step deployment world label = some next) : Invariant deployment next := by
  cases label with
  | request node token now endpoint =>
    simp only [step] at steps
    split at steps
    · cases steps
      exact invariant
    · cases steps
      exact invariant.start ⟨authenticate_leavesUsers .., fun _ _ => authenticate_harmless ..⟩
  | lookUp position => exact lookUp_invariant invariant steps
  | read position =>
    simp only [step] at steps
    split at steps
    · cases steps
      exact invariant.setPhase ⟨trivial, fun banned _ => banned⟩
    · cases steps
  | fill position => exact fill_invariant invariant steps
  | authorize position role => exact authorize_invariant invariant steps
  | abort position error =>
    simp only [step] at steps
    split at steps
    · cases steps
    · cases steps
    · cases steps
    · cases steps
      exact invariant.setPhase ⟨trivial, fun _ _ => trivial⟩
  | advance position failure now => exact advance_invariant invariant steps
  | upgrade node conn token now requested found =>
    simp only [step] at steps
    split at steps
    · cases steps
      exact invariant
    · split at steps
      · cases steps
        exact invariant.keep (fun _ _ banned applied => ⟨banned, applied⟩) (fun _ _ => World.Closed.cached) fun _ => Or.inl
      · cases steps
  | frame node conn data => exact frame_invariant invariant met steps
  | close | setFeatures =>
    cases steps
    exact invariant.keep (fun _ _ banned applied => ⟨banned, applied⟩) (fun _ _ => World.Closed.cached) fun _ => Or.inl
  | expire slot userId =>
    cases steps
    exact invariant.forget slot userId
  | setBanned userId banned reason actorId now => exact setBanned_invariant invariant steps
  | invalidateLocal node userId => exact invalidateLocal_invariant invariant met steps
  | register input now =>
    simp only [step] at steps
    split at steps
    · cases steps
      exact invariant
    · next users user created =>
      cases steps
      refine invariant.setUsers fun node userId banned _ => isBanned_iff.mpr (isBanned_of_create created ?_)
      simpa [Option.getD_eq_iff] using banned

theorem chat_step (others : ∀ position failure now, label ≠ .advance position failure now)
    (steps : step deployment world label = some next) : chat next.backend.store = chat world.backend.store := by
  cases label with
  | advance position failure now => exact absurd rfl (others position failure now)
  | close | setFeatures | expire | invalidateLocal =>
    cases steps
    rfl
  | request | read | fill | abort | frame | register =>
    simp only [step] at steps
    split at steps <;> cases steps <;> rfl
  | lookUp | authorize =>
    simp only [step] at steps
    split at steps
    · split at steps <;> cases steps <;> rfl
    · cases steps
  | upgrade node conn token now requested found =>
    simp only [step] at steps
    split at steps
    · cases steps
      rfl
    · split at steps <;> cases steps
      rfl
  | setBanned userId banned reason actorId now =>
    simp only [step] at steps
    split at steps
    · cases steps
      rfl
    · cases steps
      unfold World.recordBan
      split <;> rfl

/-- A task of a user whose ban is enforced is harmless, so its actions leave the stored
conversations as they are. -/
theorem shielded_of_invariant (invariant : Invariant deployment world) (label : Label Node Slot Conn Token) :
    Shielded deployment world label := by
  intro userId made enforced next steps
  by_cases advances : ∃ position failure now, label = .advance position failure now
  · obtain ⟨position, failure, now, rfl⟩ := advances
    simp only [step] at steps
    split at steps
    · next node actorId program found =>
      obtain ⟨⟨backend, rest⟩, advanced, rfl⟩ := Option.map_eq_some_iff.mp steps
      have own : actorId = userId := by simpa [actor, found] using made
      have closed := invariant.closed node userId enforced.1 (enforced.2 node)
      have harmless : Leaves chat program := closed.harmless _ (List.mem_of_getElem? found) own rfl
      exact (harmless.advance advanced).1
    · cases steps
  · exact chat_step (fun position failure now same => advances ⟨position, failure, now, same⟩) steps

omit [DecidableEq Node] [DecidableEq Slot] in
theorem initial_invariant (store : Store) (features : Node → Features) :
    Invariant deployment (World.initial store features : World Node Slot Conn) where
  users _ member := nomatch member
  closed _ _ _ applied := nomatch applied

end Steps

/-- In every run of careful steps, nothing that is done with the credentials of a user whose ban
is enforced changes the stored conversations. -/
theorem enforced_ban_shields [DecidableEq Node] [DecidableEq Slot] (deployment : Deployment Node Slot Token Hash)
    (store : Store) (features : Node → Features) (labels : List (Label Node Slot Conn Token))
    (guarded : (step deployment).Guarded (fun world label => careful deployment world label = true)
      (World.initial store features) labels) :
    (step deployment).Guarded (Shielded deployment) (World.initial store features) labels :=
  Step.guarded_safe (Invariant deployment) (fun invariant met steps => step_invariant invariant met steps)
    (fun invariant _ => shielded_of_invariant invariant _) (initial_invariant store features) guarded

/-- Two instances, each with a cache of its own, and tokens in the clear. -/
def cluster : Deployment Bool Bool Security.Payload Security.Payload := ⟨transparent {}, id⟩

def team : Store :=
  ((ConversationService.create 1 ⟨.group, some "team", [2]⟩).run
    ⟨{ Store.empty with users := Rooms.registered }, 0, [], []⟩).1.store

def start : World Bool Bool Nat := .initial team fun _ => ⟨true, true⟩

def bob : Security.Payload := payloadFor {} ⟨"bob", 0⟩ 2 "bob" .access

def hello : Json := .object [("conversation_id", .number 1), ("content", .string "hello")]

def message : Json := .object [("type", .string "message.send"), ("data", hello)]

/-- The ban of the second account, and its invalidation on both instances. -/
def ban : List (Label Bool Bool Nat Security.Payload) :=
  [.setBanned 2 true (some "spam") (some 1) 20, .invalidateLocal false 2, .invalidateLocal true 2]

/-- The account sends over a socket, is banned when the message has been handled, pings and
asks for another message to be stored, which is refused. -/
def quiet : List (Label Bool Bool Nat Security.Payload) := List.flatten
  [[.upgrade false 7 bob 10 none true, .frame false 7 (some message), .advance 0 none 11, .advance 0 none 12,
      .advance 0 none 13, .advance 0 none 14, .advance 0 none 15, .advance 0 none 16], ban,
    [.frame false 7 (some (.object [("type", .string "ping")])), .request true bob 30 (.sendMessage (some hello)),
      .lookUp 2, .read 2, .fill 2]]

theorem enforced_ban_shields_quiet : (∃ final, (step cluster).run start quiet = some final ∧ final.Enforced 2) ∧
      (step cluster).Guarded (Shielded cluster) start quiet :=
  ⟨⟨_, rfl, by decide, by decide⟩, enforced_ban_shields cluster team _ quiet (by decide)⟩

def openSocket : List (Label Bool Bool Nat Security.Payload) := List.flatten
  [[.upgrade false 7 bob 10 none true], ban, [.frame false 7 (some message), .advance 0 none 30]]

def newSocket : List (Label Bool Bool Nat Security.Payload) := List.flatten
  [ban, [.upgrade true 8 bob 30 (some 2) true, .frame true 8 (some message), .advance 0 none 31]]

/-- A request has read the account before the ban and puts its decision into the cache when the
invalidation is over; a second request finds it there. -/
def overtakenFill : List (Label Bool Bool Nat Security.Payload) := List.flatten
  [[.request false bob 10 (.sendMessage (some hello)), .lookUp 0, .read 0], ban,
    [.fill 0, .request false bob 30 (.sendMessage (some hello)), .lookUp 1, .advance 1 none 31]]

/-- After the run the ban of the second account is enforced, and yet the next action of its
task stores a message. -/
def StoresNext (labels : List (Label Bool Bool Nat Security.Payload)) (task : Nat) : Prop :=
  ∃ world next, (step cluster).run start labels = some world ∧ world.Enforced 2 ∧
    actor cluster world (.advance task none 40) = some 2 ∧
    step cluster world (.advance task none 40) = some next ∧
    next.backend.store.messages.table.rows.length = world.backend.store.messages.table.rows.length + 1

/-- A banned account goes on storing messages over sockets, old and new, and by requests when
the guard's read was overtaken by the ban. -/
theorem suspended_account_stores : StoresNext openSocket 0 ∧ StoresNext newSocket 0 ∧ StoresNext overtakenFill 1 :=
  ⟨⟨_, _, rfl, ⟨by decide, by decide⟩, rfl, rfl, rfl⟩, ⟨_, _, rfl, ⟨by decide, by decide⟩, rfl, rfl, rfl⟩,
    ⟨_, _, rfl, ⟨by decide, by decide⟩, rfl, rfl, rfl⟩⟩

end RealtimeChat.Server.Admission
