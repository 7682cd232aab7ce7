import RealtimeChat.Authorization.Cluster

/-! Where the answers of the authorization service come from.

Every copy in a cache, every value on its way into one and every value that a
call returned was read from the database, and is what the database still holds
unless the account has been changed since. This is so in every run: neither a
lost invalidation nor a late cache write invents an answer.
-/

set_option autoImplicit false

namespace RealtimeChat.Authorization

open Foundation Accounts Security

variable {Node Slot : Type}

/-- The database gave this answer at some moment of the run when the clock showed the instant. -/
def History.Held (history : History) (question : Question) (instant : Int) (value : question.Value) : Prop :=
  ∃ users, (instant, users) ∈ history.past ∧ question.find users = value

structure Traced (history : History) (question : Question) (value : question.Value) (source : Source) : Prop where
  seen : source.version ≤ history.version question
  current : source.version = history.version question → value = question.find history.users
  held : history.Held question source.instant value
  earlier : source.instant ≤ history.clock

/-- The clock goes forward, and an answer only changes with its version. -/
structure Evolves (history next : History) : Prop where
  version : ∀ question, history.version question ≤ next.version question
  unchanged : ∀ question, next.version question = history.version question →
    question.find next.users = question.find history.users
  past : ∀ entry ∈ history.past, entry ∈ next.past
  clock : history.clock ≤ next.clock

theorem Evolves.refl (history : History) : Evolves history history :=
  ⟨fun _ => le_refl _, fun _ _ => rfl, fun _ member => member, le_refl _⟩

variable {history : History} {task : Task Node} {world next : World Node Slot}

theorem Traced.lift {next : History} {question : Question} {value : question.Value} {source : Source}
    (traced : Traced history question value source) (evolves : Evolves history next) :
    Traced next question value source := by
  obtain ⟨users, recorded, found⟩ := traced.held
  refine ⟨traced.seen.trans (evolves.version question), fun same => ?_,
    ⟨users, evolves.past _ recorded, found⟩, traced.earlier.trans evolves.clock⟩
  -- The source is up to date afterwards, so it was before and nothing has changed in between.
  have unchanged : next.version question = history.version question :=
    le_antisymm (same ▸ traced.seen) (evolves.version question)
  rw [evolves.unchanged question unchanged]
  exact traced.current (same.trans unchanged)

theorem evolves_store {change : Change} {users : UserTable} {now : TimePoint}
    (applied : change.apply history.users now = .ok users) : Evolves history (history.store change users) := by
  refine ⟨fun question => ?_, fun question same => ?_, fun entry member => List.mem_cons_of_mem _ member, le_refl _⟩
  · by_cases own : question = change.question
    · simp [History.store, own]
    · simp [History.store, own]
  · by_cases own : question = change.question
    · simp [History.store, own] at same
    · exact Change.find_apply_ne applied own

/-- What is known of a task: the value it is about to cache and the values it was returned. -/
structure Task.Sound (history : History) (task : Task Node) : Prop where
  pending : ∀ {question next call value source}, task.activity = .fill question next call value source →
    Traced history question value source
  findings : ∀ finding ∈ task.findings, Traced history finding.question finding.value finding.source

theorem Task.Sound.lift {next : History} (sound : task.Sound history) (evolves : Evolves history next) :
    task.Sound next :=
  ⟨fun fills => (sound.pending fills).lift evolves,
    fun finding member => (sound.findings finding member).lift evolves⟩

theorem Task.Sound.resume {finding : Finding} {handler : Handler Unit} (sound : task.Sound history)
    (traced : Traced history finding.question finding.value finding.source) :
    (task.resume finding handler).Sound history :=
  ⟨nofun, forall_mem_concat sound.findings traced⟩

structure Sound (world : World Node Slot) : Prop where
  recorded : (world.clock, world.users) ∈ world.past
  copies : ∀ {slot question copy expiry}, (world.caches slot).Holds (Question.key question) copy expiry →
    ∃ value, copy.text = question.encode value ∧ Traced world.toHistory question value copy.source
  tasks : ∀ task ∈ world.tasks, task.Sound world.toHistory

theorem Sound.initial (users : UserTable) : Sound (World.initial users : World Node Slot) :=
  ⟨List.mem_singleton_self _, fun holds => absurd holds Expiring.not_holds_empty, fun _ member => nomatch member⟩

theorem Sound.lift (sound : Sound world) (evolves : Evolves world.toHistory next.toHistory)
    (recorded : (next.clock, next.users) ∈ next.past) (caches : next.caches = world.caches)
    (tasks : next.tasks = world.tasks) : Sound next := by
  refine ⟨recorded, fun holds => ?_, fun task member => ?_⟩
  · rw [caches] at holds
    obtain ⟨value, text, traced⟩ := sound.copies holds
    exact ⟨value, text, traced.lift evolves⟩
  · rw [tasks] at member
    exact (sound.tasks task member).lift evolves

theorem Sound.setTask (sound : Sound world) (position : Nat) (new : task.Sound world.toHistory) :
    Sound (world.setTask position task) :=
  ⟨sound.recorded, sound.copies, forall_mem_set sound.tasks new⟩

section Machine

variable [DecidableEq Node] [DecidableEq Slot] {deployment : Deployment Node Slot}

theorem Effect.evolves {label : Label Node Slot} (effect : Effect deployment world label next) :
    Evolves world.toHistory next.toHistory := by
  cases effect with
  | commit _ _ applied | change applied => exact evolves_store applied
  | elapse duration =>
    refine ⟨fun _ => le_refl _, fun _ _ => rfl, fun _ member => List.mem_cons_of_mem _ member, ?_⟩
    exact Int.le_add_of_nonneg_right (Int.natCast_nonneg duration)
  | register created =>
    exact ⟨fun _ => le_refl _, fun question _ => Question.find_create created question,
      fun _ member => List.mem_cons_of_mem _ member, le_refl _⟩
  | request | hit | miss | read | fill | stop | drop | purge | idle => exact Evolves.refl _

omit [DecidableEq Node] in
theorem Sound.setCache (sound : Sound world) (slot : Slot) {store : Expiring String Copy}
    (copies : ∀ {question copy expiry}, store.Holds (Question.key question) copy expiry →
      ∃ value, copy.text = question.encode value ∧ Traced world.toHistory question value copy.source) :
    Sound (world.setCache slot store) := by
  refine ⟨sound.recorded, fun {other question copy expiry} holds => ?_, sound.tasks⟩
  by_cases same : other = slot
  · subst same
    simp only [World.setCache, Function.update_self] at holds
    exact copies holds
  · simp only [World.setCache, Function.update_of_ne same] at holds
    exact sound.copies holds

theorem Sound.step {label : Label Node Slot} (sound : Sound world) (effect : Effect deployment world label next) :
    Sound next := by
  have evolves := effect.evolves
  cases effect with
  | request node actorId endpoint =>
    exact ⟨sound.recorded, sound.copies, forall_mem_concat sound.tasks ⟨nofun, fun _ member => nomatch member⟩⟩
  | hit store found asks kept cached live decoded =>
    have task := sound.tasks _ (List.mem_of_getElem? found)
    obtain ⟨value, text, traced⟩ := sound.copies cached
    rw [text, Question.decode_encode] at decoded
    cases decoded
    refine Sound.setTask (sound.setCache _ fun holds => sound.copies (kept holds)) _ ?_
    exact task.resume traced
  | miss store found asks kept =>
    have task := sound.tasks _ (List.mem_of_getElem? found)
    refine Sound.setTask (sound.setCache _ fun holds => sound.copies (kept holds)) _ ?_
    exact ⟨nofun, task.findings⟩
  | read found reads =>
    have task := sound.tasks _ (List.mem_of_getElem? found)
    refine sound.setTask _ ⟨fun fills => ?_, task.findings⟩
    cases fills
    exact ⟨le_refl _, fun _ => rfl, ⟨world.users, sound.recorded, rfl⟩, le_refl _⟩
  | fill found fills =>
    have task := sound.tasks _ (List.mem_of_getElem? found)
    have traced := task.pending fills
    refine Sound.setTask (sound.setCache _ fun holds => ?_) _ (task.resume traced)
    rcases Expiring.holds_set.mp holds with ⟨same, rfl, _⟩ | ⟨_, old⟩
    · cases Question.key_injective same
      exact ⟨_, rfl, traced⟩
    · exact sound.copies old
  | commit found writes applied =>
    have stored : Sound (world.setHistory _) := sound.lift (evolves_store applied) List.mem_cons_self rfl rfl
    have task := stored.tasks _ (List.mem_of_getElem? found)
    exact stored.setTask _ ⟨nofun, task.findings⟩
  | stop found =>
    have task := sound.tasks _ (List.mem_of_getElem? found)
    exact sound.setTask _ ⟨nofun, task.findings⟩
  | change applied => exact sound.lift evolves List.mem_cons_self rfl rfl
  | drop node question =>
    have dropped : Sound (world.setCache (deployment.backing node)
        ((world.caches (deployment.backing node)).del question.key)) :=
      sound.setCache _ fun holds => sound.copies (Expiring.holds_del.mp holds).2
    exact ⟨dropped.recorded, dropped.copies, dropped.tasks⟩
  | purge slot => exact sound.setCache _ fun holds => sound.copies (Expiring.holds_of_purgeExpired holds)
  | elapse | register => exact sound.lift evolves List.mem_cons_self rfl rfl
  | idle => exact sound

end Machine

end RealtimeChat.Authorization
