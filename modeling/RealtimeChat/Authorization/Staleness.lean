import RealtimeChat.Authorization.Origins

/-! How old an answer of the authorization service can be.

Two results. Whatever is lost and however the steps interleave, an answer is
never older than the time to live of a cache entry and the longest cache fill
together. And an answer is the current one when its call began after the latest
change was dropped from the cache of its instance, as long as no value that was
read before the change is written to the cache after that.
-/

set_option autoImplicit false

namespace RealtimeChat.Authorization

open Foundation Accounts Security

variable {Node Slot : Type} {deployment : Deployment Node Slot}

variable {users : UserTable} {world next : World Node Slot} {task : Task Node} {finding : Finding}
  {handler : Handler Unit} {label : Label Node Slot}

section Bound

variable {delay : Int}

/-- A cache write comes at most `delay` after the database read that it stores. -/
def Prompt (delay : Int) (world : World Node Slot) : Label Node Slot → Prop
  | .fill position => ∀ task ∈ world.tasks[position]?, ∀ pending ∈ task.activity.pending,
      world.clock - pending.2.instant ≤ delay
  | _ => True

instance (delay : Int) (world : World Node Slot) : DecidablePred (Prompt delay world)
  | .fill position => inferInstanceAs (Decidable (∀ task ∈ world.tasks[position]?,
      ∀ pending ∈ task.activity.pending, world.clock - pending.2.instant ≤ delay))
  | .request _ _ _ | .lookUp _ | .read _ | .commit _ _ | .fail _ _ | .change _ _ | .drop _ _ | .purge _ |
    .elapse _ | .register _ _ => isTrue trivial

structure Timely (deployment : Deployment Node Slot) (delay : Int) (world : World Node Slot) : Prop where
  copies : ∀ {slot key copy expiry}, (world.caches slot).Holds key copy expiry →
    ∃ stored, expiry = Expiring.deadline stored deployment.ttl ∧ stored ≤ copy.source.instant + delay
  findings : ∀ task ∈ world.tasks, ∀ finding ∈ task.findings,
    finding.returned - deployment.ttl - delay ≤ finding.source.instant ∧ finding.source.instant ≤ finding.returned

theorem Timely.initial (users : UserTable) : Timely deployment delay (World.initial users : World Node Slot) :=
  ⟨fun holds => absurd holds Expiring.not_holds_empty, fun _ member => nomatch member⟩

theorem Timely.setTask (timely : Timely deployment delay world) {position : Nat} {changed : Task Node}
    (found : world.tasks[position]? = some task) (same : changed.findings = task.findings) :
    Timely deployment delay (world.setTask position changed) :=
  ⟨timely.copies, forall_mem_set timely.findings (same ▸ timely.findings task (List.mem_of_getElem? found))⟩

theorem Timely.resume (timely : Timely deployment delay world) {position : Nat}
    (found : world.tasks[position]? = some task)
    (old : finding.returned - deployment.ttl - delay ≤ finding.source.instant)
    (earlier : finding.source.instant ≤ finding.returned) :
    Timely deployment delay (world.setTask position (task.resume finding handler)) :=
  ⟨timely.copies, forall_mem_set timely.findings
    (forall_mem_concat (timely.findings task (List.mem_of_getElem? found)) ⟨old, earlier⟩)⟩

section Machine

variable [DecidableEq Node] [DecidableEq Slot]

/-- The clock and the database as a run has seen them at one of its states. -/
def Visited (deployment : Deployment Node Slot) (users : UserTable) (labels : List (Label Node Slot)) (instant : Int)
    (seen : UserTable) : Prop :=
  ∃ earlier later world, labels = earlier ++ later ∧
    (step deployment).run (World.initial users) earlier = some world ∧ world.clock = instant ∧ world.users = seen

theorem Visited.extend {seen : UserTable} {labels : List (Label Node Slot)} {instant : Int}
    (visited : Visited deployment users labels instant seen) (label : Label Node Slot) :
    Visited deployment users (labels ++ [label]) instant seen := by
  obtain ⟨earlier, later, world, rfl, runs, rest⟩ := visited
  exact ⟨earlier, later ++ [label], world, List.append_assoc earlier later [label], runs, rest⟩

theorem Effect.past (effect : Effect deployment world label next) :
    next.past = world.past ∨ next.past = (next.clock, next.users) :: world.past := by
  cases effect with
  | commit | change | elapse | register => exact Or.inr rfl
  | request | hit | miss | read | fill | stop | drop | purge | idle => exact Or.inl rfl

theorem visited_of_past {labels : List (Label Node Slot)} {final : World Node Slot}
    (runs : (step deployment).run (World.initial users) labels = some final) :
    ∀ entry ∈ final.past, Visited deployment users labels entry.1 entry.2 := by
  -- The induction is on the last label, since the record grows at the end of the run.
  induction labels using List.reverseRecOn generalizing final with
  | nil =>
    cases runs
    intro entry member
    cases List.mem_singleton.mp member
    exact ⟨[], [], World.initial users, rfl, rfl, rfl, rfl⟩
  | append_singleton labels label ih =>
    obtain ⟨world, before, moves⟩ := Step.run_concat.mp runs
    intro entry member
    rcases (step_effect deployment moves).past with same | grown
    · rw [same] at member
      exact (ih before entry member).extend label
    · rw [grown, List.mem_cons] at member
      rcases member with rfl | old
      · exact ⟨labels ++ [label], [], final, (List.append_nil _).symm, runs, rfl, rfl⟩
      · exact (ih before entry old).extend label

omit [DecidableEq Node] in
theorem Timely.setCache (timely : Timely deployment delay world) (slot : Slot) {store : Expiring String Copy}
    (copies : ∀ {key copy expiry}, store.Holds key copy expiry →
      ∃ stored, expiry = Expiring.deadline stored deployment.ttl ∧ stored ≤ copy.source.instant + delay) :
    Timely deployment delay (world.setCache slot store) := by
  refine ⟨fun {other key copy expiry} holds => ?_, timely.findings⟩
  by_cases same : other = slot
  · subst same
    simp only [World.setCache, Function.update_self] at holds
    exact copies holds
  · simp only [World.setCache, Function.update_of_ne same] at holds
    exact timely.copies holds

theorem Timely.step (positive : 0 < deployment.ttl) (sound : Sound world) (timely : Timely deployment delay world)
    (prompt : Prompt delay world label) (effect : Effect deployment world label next) :
    Timely deployment delay next := by
  cases effect with
  | request node actorId endpoint =>
    exact ⟨timely.copies, forall_mem_concat timely.findings fun _ member => nomatch member⟩
  | hit store found asks kept cached live decoded =>
    obtain ⟨stored, rfl, late⟩ := timely.copies cached
    obtain ⟨_, _, traced⟩ := sound.copies cached
    -- The copy has not expired, so it was stored less than its time to live ago.
    have recent := Expiring.lt_of_not_expired positive live
    refine Timely.resume (timely.setCache _ fun holds => timely.copies (kept holds)) found ?_ traced.earlier
    dsimp only
    omega
  | miss store found asks kept =>
    exact Timely.setTask (timely.setCache _ fun holds => timely.copies (kept holds)) found rfl
  | read found reads => exact timely.setTask found rfl
  | fill found fills =>
    have within : world.clock - _ ≤ delay := prompt _ found _ (by rw [fills]; rfl)
    dsimp only at within
    have traced := (sound.tasks _ (List.mem_of_getElem? found)).pending fills
    refine Timely.resume (timely.setCache _ fun holds => ?_) found ?_ traced.earlier
    · rcases Expiring.holds_set.mp holds with ⟨_, rfl, rfl⟩ | ⟨_, old⟩
      · exact ⟨world.clock, rfl, by dsimp only; omega⟩
      · exact timely.copies old
    · dsimp only
      omega
  | commit found writes applied =>
    have old := timely.findings _ (List.mem_of_getElem? found)
    exact ⟨timely.copies, forall_mem_set timely.findings old⟩
  | stop found => exact timely.setTask found rfl
  | drop node question =>
    have dropped : Timely deployment delay (world.setCache (deployment.backing node)
        ((world.caches (deployment.backing node)).del question.key)) :=
      timely.setCache _ fun holds => timely.copies (Expiring.holds_del.mp holds).2
    exact ⟨dropped.copies, dropped.findings⟩
  | purge slot => exact timely.setCache _ fun holds => timely.copies (Expiring.holds_of_purgeExpired holds)
  | change | elapse | register | idle => exact ⟨timely.copies, timely.findings⟩

/-- Every value that a call returned was what the database held at a moment of the run that lies
no further back than the time to live and the longest cache fill together. -/
theorem answer_age_bounded (deployment : Deployment Node Slot) (positive : 1 ≤ deployment.cacheTtl) (delay : Int)
    (users : UserTable) {labels : List (Label Node Slot)} {final : World Node Slot}
    (prompt : (step deployment).Guarded (Prompt delay) (World.initial users) labels)
    (runs : (step deployment).run (World.initial users) labels = some final) :
    ∀ task ∈ final.tasks, ∀ finding ∈ task.findings, ∃ instant seen,
      finding.returned - deployment.ttl - delay ≤ instant ∧ instant ≤ finding.returned ∧
        Visited deployment users labels instant seen ∧ finding.question.find seen = finding.value := by
  have lasting : 0 < deployment.ttl := by
    unfold Deployment.ttl
    omega
  have invariant := Step.guarded_invariant (fun world => Sound world ∧ Timely deployment delay world)
    (fun ⟨sound, timely⟩ met moves =>
      have effect := step_effect deployment moves
      ⟨sound.step effect, timely.step lasting sound met effect⟩)
    ⟨Sound.initial users, Timely.initial users⟩ prompt runs
  intro task member finding listed
  obtain ⟨old, earlier⟩ := invariant.2.findings task member finding listed
  obtain ⟨seen, recorded, found⟩ := ((invariant.1.tasks task member).findings finding listed).held
  exact ⟨finding.source.instant, seen, old, earlier, visited_of_past runs _ recorded, found⟩

/-- One account, and one instance that keeps answers for thirty seconds. -/
def oneAccount : UserTable :=
  (Serial.empty User.id).append (NewUser.row ⟨"ann", "ann@example.com", "hash"⟩ 0) fun _ => rfl

def single : Deployment Unit Unit := ⟨fun _ => (), 30⟩

def cachedRun : List (Label Unit Unit) :=
  [.request () 1 (.check (.banned 1)), .lookUp 0, .read 0, .elapse 2, .fill 0, .elapse 5,
    .request () 1 (.check (.banned 1)), .lookUp 1]

def World.ages (world : World Node Slot) : List (List (Int × Int)) :=
  world.tasks.map fun task => task.findings.map fun finding => (finding.source.instant, finding.returned)

/-- The second answer comes from the cache, seven nanoseconds after the database was read. -/
theorem answer_age_bounded_cached : ∃ final, (step single).run (World.initial oneAccount) cachedRun = some final ∧
    final.ages = [[(0, 2)], [(0, 7)]] ∧ ∀ task ∈ final.tasks, ∀ finding ∈ task.findings, ∃ instant seen,
      finding.returned - single.ttl - 2 ≤ instant ∧ instant ≤ finding.returned ∧
        Visited single oneAccount cachedRun instant seen ∧ finding.question.find seen = finding.value := by
  have runs : (((step single).run (World.initial oneAccount) cachedRun).any fun final =>
      decide (final.ages = [[(0, 2)], [(0, 7)]])) = true := by decide +kernel
  obtain ⟨final, reached, ages⟩ := (Option.any_eq_true _ _).mp runs
  exact ⟨final, reached, by simpa using ages,
    answer_age_bounded single (by decide) 2 oneAccount (by decide +kernel) reached⟩

end Machine

end Bound

section Currency

/-- A cache write stores what was read after the latest change, or else no instance that uses the
store has dropped its copy for that change yet. -/
def Ordered (deployment : Deployment Node Slot) (world : World Node Slot) : Label Node Slot → Prop
  | .fill position => ∀ task ∈ world.tasks[position]?, ∀ pending ∈ task.activity.pending,
      pending.2.version = world.version pending.1 ∨
        ∀ node, deployment.backing node = deployment.backing task.node →
          world.dropped node pending.1 ≠ world.version pending.1
  | _ => True

instance [Fintype Node] [DecidableEq Slot] (world : World Node Slot) : DecidablePred (Ordered deployment world)
  | .fill position => inferInstanceAs (Decidable (∀ task ∈ world.tasks[position]?,
      ∀ pending ∈ task.activity.pending, pending.2.version = world.version pending.1 ∨
        ∀ node, deployment.backing node = deployment.backing task.node →
          world.dropped node pending.1 ≠ world.version pending.1))
  | .request _ _ _ | .lookUp _ | .read _ | .commit _ _ | .fail _ _ | .change _ _ | .drop _ _ | .purge _ |
    .elapse _ | .register _ _ => isTrue trivial

/-- A call that began after the latest change was dropped returned what the database holds. -/
def Truthful (world : World Node Slot) : Prop :=
  ∀ task ∈ world.tasks, ∀ finding ∈ task.findings, finding.call.fresh = true →
    finding.call.since = world.version finding.question → finding.value = finding.question.find world.users

instance (world : World Node Slot) : Decidable (Truthful world) :=
  inferInstanceAs (Decidable (∀ task ∈ world.tasks, ∀ finding ∈ task.findings, finding.call.fresh = true →
    finding.call.since = world.version finding.question → finding.value = finding.question.find world.users))

/-- A call that began fresh is answered from a database read that came after it began, or saw the
same changes. -/
structure Task.Recent (history : History) (task : Task Node) : Prop where
  read : ∀ {question next call}, task.activity = .read question next call → call.since ≤ history.version question
  fill : ∀ {question next call value source}, task.activity = .fill question next call value source →
    call.since ≤ source.version
  findings : ∀ finding ∈ task.findings, finding.call.fresh = true → finding.call.since ≤ finding.source.version

theorem Task.Recent.lift {history next : History} (recent : task.Recent history) (evolves : Evolves history next) :
    task.Recent next :=
  ⟨fun reads => (recent.read reads).trans (evolves.version _), recent.fill, recent.findings⟩

theorem Task.Recent.resume {history : History} (recent : task.Recent history)
    (began : finding.call.fresh = true → finding.call.since ≤ finding.source.version) :
    (task.resume finding handler).Recent history :=
  ⟨nofun, nofun, forall_mem_concat recent.findings began⟩

structure Coherent (deployment : Deployment Node Slot) (world : World Node Slot) : Prop where
  dropped : ∀ node question, world.dropped node question ≤ world.version question
  copies : ∀ {node question copy expiry}, world.dropped node question = world.version question →
    (world.caches (deployment.backing node)).Holds question.key copy expiry →
      copy.source.version = world.version question
  tasks : ∀ task ∈ world.tasks, task.Recent world.toHistory

theorem Coherent.initial (users : UserTable) : Coherent deployment (World.initial users) :=
  ⟨fun _ _ => le_refl _, fun _ holds => absurd holds Expiring.not_holds_empty, fun _ member => nomatch member⟩

theorem Coherent.setTask (coherent : Coherent deployment world) (position : Nat) (new : task.Recent world.toHistory) :
    Coherent deployment (world.setTask position task) :=
  ⟨coherent.dropped, coherent.copies, forall_mem_set coherent.tasks new⟩

theorem Coherent.store (coherent : Coherent deployment world) {change : Change} {now : TimePoint}
    (applied : change.apply world.users now = .ok users) :
    Coherent deployment (world.setHistory (world.store change users)) := by
  have evolves := evolves_store applied
  refine ⟨fun node question => (coherent.dropped node question).trans (evolves.version question), ?_,
    fun task member => (coherent.tasks task member).lift evolves⟩
  intro node question copy expiry same holds
  have before := coherent.dropped node question
  by_cases own : question = change.question
  · simp only [World.setHistory, History.store, own, Function.update_self] at same before
    omega
  · simp only [World.setHistory, History.store, Function.update_of_ne own] at same ⊢
    exact coherent.copies same holds

theorem Coherent.truthful (coherent : Coherent deployment world) (sound : Sound world) : Truthful world := by
  intro task member finding listed fresh since
  have traced := (sound.tasks task member).findings finding listed
  have began := (coherent.tasks task member).findings finding listed fresh
  exact traced.current (le_antisymm traced.seen (since ▸ began))

section Machine

variable [DecidableEq Node] [DecidableEq Slot]

omit [DecidableEq Node] in
theorem Coherent.setCache (coherent : Coherent deployment world) (slot : Slot) {store : Expiring String Copy}
    (copies : ∀ {node question copy expiry}, deployment.backing node = slot →
      world.dropped node question = world.version question → store.Holds question.key copy expiry →
        copy.source.version = world.version question) : Coherent deployment (world.setCache slot store) := by
  refine ⟨coherent.dropped, fun {node question copy expiry} applied holds => ?_, coherent.tasks⟩
  by_cases same : deployment.backing node = slot
  · simp only [World.setCache, same, Function.update_self] at holds
    exact copies same applied holds
  · simp only [World.setCache, Function.update_of_ne same] at holds
    exact coherent.copies applied holds

omit [DecidableEq Node] in
theorem Coherent.shrink (coherent : Coherent deployment world) (slot : Slot) {store : Expiring String Copy}
    (kept : ∀ {key copy expiry}, store.Holds key copy expiry → (world.caches slot).Holds key copy expiry) :
    Coherent deployment (world.setCache slot store) :=
  coherent.setCache slot fun same applied holds => coherent.copies applied (same ▸ kept holds)

theorem Coherent.drop (coherent : Coherent deployment world) (node : Node) (question : Question) : Coherent deployment
      { world.setCache (deployment.backing node) ((world.caches (deployment.backing node)).del question.key) with
        dropped := Function.update world.dropped node
          (Function.update (world.dropped node) question (world.version question)) } := by
  have shrunk : Coherent deployment (world.setCache (deployment.backing node)
      ((world.caches (deployment.backing node)).del question.key)) :=
    coherent.shrink _ fun holds => (Expiring.holds_del.mp holds).2
  -- Elsewhere the record is as it was; at this node the copy is gone.
  have record (other : Node) (asked : Question) (elsewhere : ¬ (other = node ∧ asked = question)) :
      Function.update world.dropped node (Function.update (world.dropped node) question (world.version question))
        other asked = world.dropped other asked := by
    by_cases same : other = node
    · subst same
      rw [Function.update_self, Function.update_of_ne fun own => elsewhere ⟨rfl, own⟩]
    · rw [Function.update_of_ne same]
  refine ⟨fun other asked => ?_, fun {other asked copy expiry} applied holds => ?_, shrunk.tasks⟩
  · by_cases own : other = node ∧ asked = question
    · obtain ⟨rfl, rfl⟩ := own
      simp [World.setCache]
    · exact (record other asked own).trans_le (coherent.dropped other asked)
  · by_cases own : other = node ∧ asked = question
    · obtain ⟨rfl, rfl⟩ := own
      simp only [World.setCache, Function.update_self] at holds
      exact absurd rfl (Expiring.holds_del.mp holds).1
    · exact shrunk.copies ((record other asked own).symm.trans applied) holds

theorem Coherent.step (coherent : Coherent deployment world) (ordered : Ordered deployment world label)
    (effect : Effect deployment world label next) : Coherent deployment next := by
  have evolves := effect.evolves
  cases effect with
  | request node actorId endpoint =>
    exact ⟨coherent.dropped, coherent.copies,
      forall_mem_concat coherent.tasks ⟨nofun, nofun, fun _ member => nomatch member⟩⟩
  | hit store found asks kept cached live decoded =>
    have task := coherent.tasks _ (List.mem_of_getElem? found)
    refine Coherent.setTask (coherent.shrink _ kept) _ (task.resume fun fresh => ?_)
    exact (coherent.copies (of_decide_eq_true fresh) cached).ge
  | miss store found asks kept =>
    have task := coherent.tasks _ (List.mem_of_getElem? found)
    refine Coherent.setTask (coherent.shrink _ kept) _ ⟨fun reads => ?_, nofun, task.findings⟩
    cases reads
    exact le_refl _
  | read found reads =>
    have task := coherent.tasks _ (List.mem_of_getElem? found)
    refine coherent.setTask _ ⟨nofun, fun fills => ?_, task.findings⟩
    cases fills
    exact task.read reads
  | fill found fills =>
    have task := coherent.tasks _ (List.mem_of_getElem? found)
    have late := ordered _ found _ (by rw [fills]; rfl)
    refine Coherent.setTask (coherent.setCache _ fun {node question copy expiry} same applied holds => ?_) _
      (task.resume fun _ => task.fill fills)
    rcases Expiring.holds_set.mp holds with ⟨key, rfl, _⟩ | ⟨_, old⟩
    · cases Question.key_injective key
      exact late.resolve_right fun unseen => unseen node same applied
    · exact coherent.copies applied (same ▸ old)
  | commit found writes applied =>
    have stored := coherent.store applied
    have task := stored.tasks _ (List.mem_of_getElem? found)
    exact stored.setTask _ ⟨nofun, nofun, task.findings⟩
  | stop found =>
    have task := coherent.tasks _ (List.mem_of_getElem? found)
    exact coherent.setTask _ ⟨nofun, nofun, task.findings⟩
  | change applied => exact coherent.store applied
  | drop node question => exact coherent.drop node question
  | purge slot => exact coherent.shrink _ fun holds => Expiring.holds_of_purgeExpired holds
  | elapse | register | idle =>
    exact ⟨coherent.dropped, coherent.copies, fun task member => (coherent.tasks task member).lift evolves⟩

/-- In every run whose cache writes are ordered, a call that begins after the latest change has been
dropped on its instance returns what the database holds, in every state reached. -/
theorem fresh_answers_current (deployment : Deployment Node Slot) (users : UserTable)
    {labels : List (Label Node Slot)} {final : World Node Slot}
    (ordered : (step deployment).Guarded (Ordered deployment) (World.initial users) labels)
    (runs : (step deployment).run (World.initial users) labels = some final) : Truthful final := by
  have invariant := Step.guarded_invariant (fun world => Sound world ∧ Coherent deployment world)
    (fun ⟨sound, coherent⟩ met moves =>
      have effect := step_effect deployment moves
      ⟨sound.step effect, coherent.step met effect⟩)
    ⟨Sound.initial users, Coherent.initial users⟩ ordered runs
  exact invariant.2.truthful invariant.1

/-- A value that was read before a ban is cached after the instance has dropped its copy for it. -/
def lateRun : List (Label Unit Unit) :=
  [.request () 1 (.check (.banned 1)), .lookUp 0, .read 0, .change (.setBanned 1 true none none) 5,
    .drop () (.role 1), .drop () (.banned 1), .fill 0, .request () 1 (.check (.banned 1)), .lookUp 1]

/-- The second call begins after the ban has been dropped from the cache, and is told that there is none. -/
theorem late_fill_hides_ban : ∃ final, (step single).run (World.initial oneAccount) lateRun = some final ∧
    ¬ Truthful final := by
  have runs : (((step single).run (World.initial oneAccount) lateRun).any fun final =>
      !decide (Truthful final)) = true := by decide +kernel
  obtain ⟨final, reached, wrong⟩ := (Option.any_eq_true _ _).mp runs
  exact ⟨final, reached, by simpa using wrong⟩

def orderedRun : List (Label Unit Unit) :=
  [.request () 1 (.check (.banned 1)), .lookUp 0, .read 0, .change (.setBanned 1 true none none) 5, .fill 0,
    .drop () (.role 1), .drop () (.banned 1), .request () 1 (.check (.banned 1)), .lookUp 1, .read 1, .fill 1]

theorem fresh_answers_current_ordered : ∃ final,
    (step single).run (World.initial oneAccount) orderedRun = some final ∧ final.version (.banned 1) = 1 ∧
      Truthful final := by
  have runs : (((step single).run (World.initial oneAccount) orderedRun).any fun final =>
      decide (final.version (.banned 1) = 1)) = true := by decide +kernel
  obtain ⟨final, reached, changed⟩ := (Option.any_eq_true _ _).mp runs
  exact ⟨final, reached, by simpa using changed,
    fresh_answers_current single oneAccount (by decide +kernel) reached⟩

end Machine

end Currency

end RealtimeChat.Authorization
