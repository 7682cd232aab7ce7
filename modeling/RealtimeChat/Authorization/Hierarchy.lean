import RealtimeChat.Authorization.Staleness

/-! Roles at the moment of a write.

The endpoints compare roles before they write, in another transaction and with
answers that may come from a cache. The comparison is worth something at the
moment of the write only if the roles that were compared still stand. A role
stands when the account has not been given another one since the database read
that the answer comes from.
-/

set_option autoImplicit false

namespace RealtimeChat.Authorization

open Foundation Accounts Security

variable {Node Slot : Type} {deployment : Deployment Node Slot}

def Task.known (task : Task Node) : List Answer := task.findings.map Finding.answer

/-- What the handler will still write is justified by the answers it has and will get. -/
def Task.Follows (task : Task Node) : Prop :=
  match task.activity with
  | .running handler => handler.Meets (task.endpoint.Justified task.actorId) (fun _ _ => True) task.known
  | .read question next _ | .fill question next _ _ _ => ∀ value,
      (next value).Meets (task.endpoint.Justified task.actorId) (fun _ _ => True) (task.known ++ [⟨question, value⟩])

variable {task : Task Node} {world next : World Node Slot} {label : Label Node Slot} {history : History}
  {userId : UserId} {position : Nat} {now : TimePoint} {change : Change} {users : UserTable}

theorem Task.Follows.resume {finding : Finding} {handler : Handler Unit}
    (meets : handler.Meets (task.endpoint.Justified task.actorId) (fun _ _ => True) (task.known ++ [finding.answer])) :
    (task.resume finding handler).Follows := by
  simpa [Task.Follows, Task.resume, Task.known] using meets

theorem Effect.follows [DecidableEq Node] [DecidableEq Slot] (effect : Effect deployment world label next)
    (follows : ∀ task ∈ world.tasks, task.Follows) : ∀ task ∈ next.tasks, task.Follows := by
  cases effect with
  | request node actorId endpoint =>
    exact forall_mem_concat follows (endpoint.handler_meets actorId)
  | hit store found asks kept cached live decoded =>
    have task := follows _ (List.mem_of_getElem? found)
    rw [Task.Follows, asks] at task
    exact forall_mem_set follows (Task.Follows.resume (task _))
  | miss store found asks kept =>
    have task := follows _ (List.mem_of_getElem? found)
    rw [Task.Follows, asks] at task
    exact forall_mem_set follows task
  | read found reads =>
    have task := follows _ (List.mem_of_getElem? found)
    rw [Task.Follows, reads] at task
    exact forall_mem_set follows task
  | fill found fills =>
    have task := follows _ (List.mem_of_getElem? found)
    rw [Task.Follows, fills] at task
    exact forall_mem_set follows (Task.Follows.resume (task _))
  | commit found writes applied =>
    have task := follows _ (List.mem_of_getElem? found)
    rw [Task.Follows, writes] at task
    exact forall_mem_set follows task.2
  | stop found => exact forall_mem_set follows trivial
  | change | drop | purge | elapse | register | idle => exact follows

def History.role (history : History) (userId : UserId) : Role := (Question.role userId).find history.users

/-- The answer is not about a role, or the role has not been changed since it was read. -/
def Finding.Stands (history : History) (finding : Finding) : Prop :=
  match finding.question with
  | .role userId => finding.source.version = history.version (.role userId)
  | .banned _ => True

instance (history : History) : DecidablePred (Finding.Stands history)
  | ⟨.role userId, _, source, _, _⟩ =>
    inferInstanceAs (Decidable (source.version = history.version (.role userId)))
  | ⟨.banned _, _, _, _, _⟩ => isTrue trivial

theorem Task.Sound.role (sound : task.Sound history) (stands : ∀ finding ∈ task.findings, finding.Stands history)
    {role : Role} (told : (⟨.role userId, role⟩ : Answer) ∈ task.known) : history.role userId = role := by
  obtain ⟨⟨question, value, source, call, returned⟩, listed, same⟩ := List.mem_map.mp told
  have traced := sound.findings _ listed
  have standing := stands _ listed
  cases same
  exact (traced.current standing).symm

/-- The write that a commit makes, and the task it makes it for; `none` if it is refused. -/
def World.commits (world : World Node Slot) (position : Nat) (now : TimePoint) : Option (Task Node × Change) := do
  let task ← world.tasks[position]?
  match task.activity with
  | .running (.write change _) =>
    match change.apply world.users now with
    | .ok _ => some (task, change)
    | .error _ => none
  | _ => none

theorem commits_eq_some (commits : (task, change) ∈ world.commits position now) :
    world.tasks[position]? = some task ∧ (∃ rest, task.activity = .running (.write change rest)) ∧
      ∃ users, change.apply world.users now = .ok users := by
  obtain ⟨found, there, rest⟩ := Option.bind_eq_some_iff.mp commits
  split at rest
  · next written handler writes =>
    split at rest
    · next users applied =>
      cases rest
      exact ⟨there, ⟨handler, writes⟩, users, applied⟩
    · cases rest
  · cases rest

theorem commits_justified (commits : (task, change) ∈ world.commits position now)
    (follows : ∀ task ∈ world.tasks, task.Follows) : task.endpoint.Justified task.actorId task.known change := by
  obtain ⟨found, ⟨rest, writes⟩, _⟩ := commits_eq_some commits
  have task := follows _ (List.mem_of_getElem? found)
  rw [Task.Follows, writes] at task
  exact task.1

/-- Every write that goes through satisfies a property of its task and of the database before it. -/
def AtCommits (property : History → Task Node → Change → Prop) (world : World Node Slot) : Label Node Slot → Prop
  | .commit position now => ∀ write ∈ world.commits position now, property world.toHistory write.1 write.2
  | _ => True

instance (property : History → Task Node → Change → Prop) [∀ history task change, Decidable (property history task change)]
    (world : World Node Slot) : DecidablePred (AtCommits property world)
  | .commit position now => inferInstanceAs (Decidable (∀ write ∈ world.commits position now,
      property world.toHistory write.1 write.2))
  | .request _ _ _ | .lookUp _ | .read _ | .fill _ | .fail _ _ | .change _ _ | .drop _ _ | .purge _ |
    .elapse _ | .register _ _ => isTrue trivial

theorem atCommits_of {property wanted : History → Task Node → Change → Prop} (sound : Sound world)
    (follows : ∀ task ∈ world.tasks, task.Follows) (implies : ∀ {task change}, task.Sound world.toHistory →
      task.endpoint.Justified task.actorId task.known change → property world.toHistory task change →
        wanted world.toHistory task change) (holds : AtCommits property world label) :
    AtCommits wanted world label := by
  cases label with
  | commit position now =>
    intro write commits
    have known := sound.tasks write.1 (List.mem_of_getElem? (commits_eq_some commits).1)
    exact implies known (commits_justified commits follows) (holds write commits)
  | _ => trivial

structure Informed (world : World Node Slot) : Prop where
  sound : Sound world
  follows : ∀ task ∈ world.tasks, task.Follows

theorem Informed.initial (users : UserTable) : Informed (World.initial users : World Node Slot) :=
  ⟨Sound.initial users, fun _ member => nomatch member⟩

theorem Informed.step [DecidableEq Node] [DecidableEq Slot] (informed : Informed world)
    (effect : Effect deployment world label next) : Informed next :=
  ⟨informed.sound.step effect, effect.follows informed.follows⟩

theorem guarded_of_informed [DecidableEq Node] [DecidableEq Slot]
    {ok wanted : World Node Slot → Label Node Slot → Prop} {labels : List (Label Node Slot)}
    (guarded : (step deployment).Guarded ok (World.initial users) labels)
    (implies : ∀ {world label}, Informed world → ok world label → wanted world label) :
    (step deployment).Guarded wanted (World.initial users) labels :=
  Step.guarded_safe Informed (fun informed _ moves => informed.step (step_effect deployment moves)) implies
    (Informed.initial users) guarded

section Suspensions

def Endpoint.isBan : Endpoint → Bool
  | .ban _ _ => true
  | _ => false

/-- A suspension is written while the roles that its request was told still stand. -/
def Undisturbed : World Node Slot → Label Node Slot → Prop :=
  AtCommits fun history task _ => task.endpoint.isBan = true → ∀ finding ∈ task.findings, finding.Stands history

def Endpoint.Entitled (history : History) (actorId : UserId) : Endpoint → Prop
  | .ban userId _ => hasPermission (history.role actorId) .banUsers = true ∧
      (history.role userId).rank < (history.role actorId).rank
  | _ => True

instance (history : History) (actorId : UserId) : DecidablePred (Endpoint.Entitled history actorId)
  | .ban userId _ => inferInstanceAs (Decidable (hasPermission (history.role actorId) .banUsers = true ∧
      (history.role userId).rank < (history.role actorId).rank))
  | .assignRole _ _ | .unban _ | .check _ => isTrue trivial

def Entitled : World Node Slot → Label Node Slot → Prop :=
  AtCommits fun history task _ => task.endpoint.Entitled history task.actorId

theorem endpoint_entitled (sound : task.Sound history)
    (justified : task.endpoint.Justified task.actorId task.known change)
    (stands : task.endpoint.isBan = true → ∀ finding ∈ task.findings, finding.Stands history) :
    task.endpoint.Entitled history task.actorId := by
  cases endpoint : task.endpoint with
  | ban userId body =>
    rw [endpoint] at stands justified
    obtain ⟨_, permitted, actorRole, targetRole, _, told, permission, toldActor, toldTarget, below⟩ := justified
    have standing := stands rfl
    -- The two roles told of the actor are one, since both stand.
    have actor := sound.role standing toldActor
    refine ⟨(sound.role standing told).symm ▸ permission, ?_⟩
    rw [sound.role standing toldTarget, actor]
    exact below
  | _ => trivial

variable [DecidableEq Node] [DecidableEq Slot]

/-- In every run whose suspensions are written while the roles told to their requests stand, each of
them is written for an account that may suspend and of an account below it. -/
theorem suspensions_respect_roles (deployment : Deployment Node Slot) (users : UserTable)
    {labels : List (Label Node Slot)}
    (undisturbed : (step deployment).Guarded Undisturbed (World.initial users) labels) :
    (step deployment).Guarded Entitled (World.initial users) labels :=
  guarded_of_informed undisturbed fun informed met =>
    atCommits_of informed.sound informed.follows endpoint_entitled met

/-- Two accounts, the first with the id 1 and the second with the id 2. -/
def twoAccounts (first second : Role) : UserTable :=
  ((Serial.empty User.id).append (fun id => ⟨id, "ann", "ann@example.com", "hash", first, none, none, none, 0, 0⟩)
    fun _ => rfl).append (fun id => ⟨id, "bob", "bob@example.com", "hash", second, none, none, none, 0, 0⟩) fun _ => rfl

/-- A request of the first account to suspend the second, up to its write. -/
def banChecked : List (Label Unit Unit) :=
  [.request () 1 (.ban 2 (some (.object []))), .lookUp 0, .read 0, .fill 0, .lookUp 0, .read 0, .fill 0, .lookUp 0,
    .lookUp 0, .read 0, .fill 0]

/-- The target is promoted between the check and the write. -/
theorem ban_of_superior : ¬ (step single).Guarded Entitled (World.initial (twoAccounts .admin .user))
    (banChecked ++ [.change (.setRole 2 .superAdmin) 5, .commit 0 6]) := by
  unfold Entitled
  decide +kernel

theorem suspensions_respect_roles_banned :
    (step single).Guarded Entitled (World.initial (twoAccounts .admin .user)) (banChecked ++ [.commit 0 6]) ∧
      ((step single).run (World.initial (twoAccounts .admin .user)) (banChecked ++ [.commit 0 6])).any
        (fun final => isBanned final.users 2 = some true) = true :=
  ⟨suspensions_respect_roles single _ (by unfold Undisturbed; decide +kernel), by decide +kernel⟩

end Suspensions

section Assignments

def Change.grants : Change → Option Role
  | .setRole _ role => some role
  | .setBanned _ _ _ _ => none

def Label.Requested : Label Node Slot → Prop
  | .change made _ => made.grants = none
  | _ => True

instance : DecidablePred (Label.Requested : Label Node Slot → Prop)
  | .change made _ => inferInstanceAs (Decidable (made.grants = none))
  | .request _ _ _ | .lookUp _ | .read _ | .fill _ | .commit _ _ | .fail _ _ | .drop _ _ | .purge _ | .elapse _ |
    .register _ _ => isTrue trivial

/-- Roles are only assigned by requests, and while the role that the request was told of its actor stands. -/
def Reliable (world : World Node Slot) (label : Label Node Slot) : Prop :=
  label.Requested ∧ AtCommits (fun history task change => change.grants.isSome = true →
    ∀ finding ∈ task.findings, finding.Stands history) world label

instance (world : World Node Slot) : DecidablePred (Reliable world) := fun label =>
  inferInstanceAs (Decidable (label.Requested ∧ AtCommits (fun history task change => change.grants.isSome = true →
    ∀ finding ∈ task.findings, finding.Stands history) world label))

def Modest : World Node Slot → Label Node Slot → Prop :=
  AtCommits fun _ _ change => change.grants ≠ some .superAdmin

/-- Every assignment gives a role below the one that the actor has at that moment. -/
def StrictlyBelow : World Node Slot → Label Node Slot → Prop :=
  AtCommits fun history task change => ∀ role ∈ change.grants, role.rank < (history.role task.actorId).rank

theorem rank_lt_superAdmin {role : Role} : role.rank < Role.superAdmin.rank ↔ role ≠ .superAdmin := by
  cases role <;> decide

/-- The actor of an assignment is of the highest tier: nobody else manages roles. -/
theorem granting_superAdmin {role : Role} (sound : task.Sound history)
    (justified : task.endpoint.Justified task.actorId task.known change) (grants : change.grants = some role)
    (stands : ∀ finding ∈ task.findings, finding.Stands history) : history.role task.actorId = .superAdmin := by
  cases endpoint : task.endpoint with
  | assignRole userId body =>
    rw [endpoint] at justified
    obtain ⟨actorRole, targetRole, rfl, told, allowed⟩ := justified
    rw [sound.role stands told]
    exact hasPermission_manageRoles.mp ((Bool.and_eq_true _ _).mp allowed).1
  | ban userId body =>
    rw [endpoint] at justified
    obtain ⟨_, _, _, _, rfl, _⟩ := justified
    cases grants
  | unban userId =>
    rw [endpoint] at justified
    cases justified
    cases grants
  | check question =>
    rw [endpoint] at justified
    exact justified.elim

theorem strictlyBelow_iff_modest (informed : Informed world) (reliable : Reliable world label) :
    StrictlyBelow world label ↔ Modest world label := by
  have both := reliable.2
  cases label with
  | commit position now =>
    refine forall₂_congr fun write commits => ?_
    have known := informed.sound.tasks write.1 (List.mem_of_getElem? (commits_eq_some commits).1)
    cases grants : write.2.grants with
    | none => simp [grants]
    | some role =>
      have stands := both write commits (by rw [grants]; rfl)
      have actor := granting_superAdmin known (commits_justified commits informed.follows) grants stands
      simp [grants, actor, rank_lt_superAdmin]
  | _ => exact Iff.rfl

theorem role_store (applied : change.apply history.users now = .ok users) (modest : change.grants ≠ some .superAdmin)
    (highest : (history.store change users).role userId = .superAdmin) : history.role userId = .superAdmin := by
  by_cases own : Question.role userId = change.question
  · cases change with
    | setRole target role =>
      cases own
      obtain ⟨result, done, rfl⟩ := map_eq_ok.mp applied
      have granted : role = .superAdmin := by
        simpa [History.role, History.store, Question.find, findRole_setRole done] using highest
      exact absurd (congrArg some granted) modest
    | setBanned target banned reason actorId => cases own
  · rw [History.role, ← Change.find_apply_ne applied own]
    exact highest

variable [DecidableEq Node] [DecidableEq Slot]

theorem Effect.highest (effect : Effect deployment world label next) (reliable : Reliable world label)
    (modest : Modest world label) (highest : next.role userId = .superAdmin) : world.role userId = .superAdmin := by
  cases effect with
  | @commit position now task change rest users found writes applied =>
    have commits : (task, change) ∈ world.commits position now := by
      simp [World.commits, found, writes, applied]
    exact role_store applied (modest _ commits) highest
  | @change change now users applied =>
    have grants : change.grants = none := reliable.1
    exact role_store applied (by simp [grants]) highest
  | register created => exact (Question.find_create created (.role userId)).symm.trans highest
  | request | hit | miss | read | fill | stop | drop | purge | elapse | idle => exact highest

/-- In a run of assignments in which the roles told to the requests stand, every assignment gives a
role below the actor's exactly if none gives the highest role, and then nobody reaches the highest
role who did not have it at the start. -/
theorem assignments_below_iff (deployment : Deployment Node Slot) (users : UserTable)
    {labels : List (Label Node Slot)} {final : World Node Slot}
    (reliable : (step deployment).Guarded Reliable (World.initial users) labels)
    (runs : (step deployment).run (World.initial users) labels = some final) :
    ((step deployment).Guarded StrictlyBelow (World.initial users) labels ↔
      (step deployment).Guarded Modest (World.initial users) labels) ∧
    ((step deployment).Guarded Modest (World.initial users) labels → ∀ userId,
      final.role userId = .superAdmin → (Question.role userId).find users = Role.superAdmin) := by
  refine ⟨⟨fun below => ?_, fun modest => ?_⟩, fun modest => ?_⟩
  · exact guarded_of_informed (Step.guarded_and.mpr ⟨reliable, below⟩) fun informed met =>
      (strictlyBelow_iff_modest informed met.1).mp met.2
  · exact guarded_of_informed (Step.guarded_and.mpr ⟨reliable, modest⟩) fun informed met =>
      (strictlyBelow_iff_modest informed met.1).mpr met.2
  · refine Step.guarded_invariant
      (fun world => ∀ userId, world.role userId = .superAdmin → (Question.role userId).find users = Role.superAdmin)
      ?_ (fun _ highest => highest) (Step.guarded_and.mpr ⟨reliable, modest⟩) runs
    intro world label next before met moves userId highest
    exact before userId ((step_effect deployment moves).highest met.1 met.2 highest)

/-- A request of the first account to give the second a role, up to its write. -/
def assignmentChecked (role : String) : List (Label Unit Unit) :=
  [.request () 1 (.assignRole 2 (some (.object [("role", .string role)]))), .lookUp 0, .read 0, .fill 0, .lookUp 0,
    .read 0, .fill 0, .lookUp 0]

/-- A super admin makes another, with no role changed in between. -/
theorem super_admin_mints_peer :
    (step single).Guarded Reliable (World.initial (twoAccounts .superAdmin .user))
      (assignmentChecked "super_admin" ++ [.commit 0 5]) ∧
    ¬ (step single).Guarded StrictlyBelow (World.initial (twoAccounts .superAdmin .user))
      (assignmentChecked "super_admin" ++ [.commit 0 5]) ∧
    findRole (twoAccounts .superAdmin .user) 2 = some .user ∧
    ((step single).run (World.initial (twoAccounts .superAdmin .user))
      (assignmentChecked "super_admin" ++ [.commit 0 5])).any
        (fun final => findRole final.users 2 = some .superAdmin) = true := by
  refine ⟨by decide +kernel, ?_, by decide +kernel, by decide +kernel⟩
  unfold StrictlyBelow
  decide +kernel

theorem assignments_below_iff_moderator : ∃ final,
    (step single).run (World.initial (twoAccounts .superAdmin .user))
      (assignmentChecked "moderator" ++ [.commit 0 5]) = some final ∧ findRole final.users 2 = some .moderator ∧
    (step single).Guarded StrictlyBelow (World.initial (twoAccounts .superAdmin .user))
      (assignmentChecked "moderator" ++ [.commit 0 5]) ∧
    ∀ userId, final.role userId = .superAdmin →
      (Question.role userId).find (twoAccounts .superAdmin .user) = Role.superAdmin := by
  have runs : ((step single).run (World.initial (twoAccounts .superAdmin .user))
      (assignmentChecked "moderator" ++ [.commit 0 5])).any
        (fun final => findRole final.users 2 = some .moderator) = true := by decide +kernel
  obtain ⟨final, reached, assigned⟩ := (Option.any_eq_true _ _).mp runs
  have modest : (step single).Guarded Modest (World.initial (twoAccounts .superAdmin .user))
      (assignmentChecked "moderator" ++ [.commit 0 5]) := by
    unfold Modest
    decide +kernel
  have result := assignments_below_iff single (twoAccounts .superAdmin .user) (by decide +kernel) reached
  exact ⟨final, reached, by simpa using assigned, result.1.mpr modest, result.2 modest⟩

end Assignments

end RealtimeChat.Authorization
