import Mathlib.Data.Fintype.Basic
import RealtimeChat.Presence.Replication

/-! The presence updates that clients see.

An instance sends an update when a call answers that the user changed state on
all instances taken together. It decides that from its own count and from its
record of the others, and the record lags behind; and it sends the update after
the call, when another one may have been sent. The updates tell the truth in
every state of a run exactly when the record is right wherever it decides and
what is sent leaves the last word to the update that had it.
-/

set_option autoImplicit false

namespace RealtimeChat.Presence

open Foundation

variable {Node : Type} [DecidableEq Node]

def World.HeldElsewhere (world : World Node) (node : Node) (userId : UserId) : Prop :=
  ∃ other, other ≠ node ∧ 0 < (world.services other).count userId

def World.Held (world : World Node) (userId : UserId) : Prop :=
  ∃ node, 0 < (world.services node).count userId

/-- The last update of each user, sent or pending, says whether some instance holds a session of
theirs. A user without updates has none. -/
def World.Reported (world : World Node) : Prop :=
  ∀ userId, latest userId false (world.updates ++ world.pending) = true ↔ world.Held userId

/-- An instance consults its record of the others for the first session of a user on it and at
the end of the last one. An update that is sent leaves the same last word among the pending ones
of its user, as it does when the updates of a user are sent in the order of the changes. -/
def Informed (world : World Node) : Label Node → Prop
  | .onConnect node userId _ => (world.services node).count userId = 0 →
      (world.services node).onlineRemotely userId = true → world.HeldElsewhere node userId
  | .onDisconnect node userId _ _ => (world.services node).count userId = 1 →
      ((world.services node).onlineRemotely userId = true ↔ world.HeldElsewhere node userId)
  | .emit position => ∀ update ∈ world.pending[position]?,
      latest update.1 update.2 (world.pending.eraseIdx position) = latest update.1 update.2 world.pending
  | .publish .. | .deliver .. => True

instance [Fintype Node] (world : World Node) : ∀ label, Decidable (Informed world label)
  | .onConnect node userId _ => inferInstanceAs (Decidable ((world.services node).count userId = 0 →
      (world.services node).onlineRemotely userId = true →
        ∃ other, other ≠ node ∧ 0 < (world.services other).count userId))
  | .onDisconnect node userId _ _ => inferInstanceAs (Decidable ((world.services node).count userId = 1 →
      ((world.services node).onlineRemotely userId = true ↔
        ∃ other, other ≠ node ∧ 0 < (world.services other).count userId)))
  | .emit position => inferInstanceAs (Decidable (∀ update ∈ world.pending[position]?,
      latest update.1 update.2 (world.pending.eraseIdx position) = latest update.1 update.2 world.pending))
  | .publish .. | .deliver .. => isTrue trivial

theorem held_iff (world : World Node) (node : Node) (userId : UserId) :
    world.Held userId ↔ 0 < (world.services node).count userId ∨ world.HeldElsewhere node userId := by
  constructor
  · rintro ⟨other, holds⟩
    by_cases same : other = node
    · exact Or.inl (same ▸ holds)
    · exact Or.inr ⟨other, same, holds⟩
  · rintro (holds | ⟨other, _, holds⟩)
    · exact ⟨node, holds⟩
    · exact ⟨other, holds⟩

theorem held_change (world : World Node) (node : Node) (update : UserId × Bool) (transition : Transition Node)
    (userId : UserId) :
    (world.change node update transition).Held userId ↔
      0 < transition.service.count userId ∨ world.HeldElsewhere node userId := by
  rw [held_iff _ node]
  have elsewhere : (world.change node update transition).HeldElsewhere node userId ↔
      world.HeldElsewhere node userId := by
    refine exists_congr fun other => and_congr_right fun different => ?_
    simp [World.change, different]
  rw [elsewhere]
  simp [World.change]

variable {world : World Node}

/-- After a call for one user the updates are right for the others, and for that user if
the answer fits what the instances then hold. -/
theorem reported_change (reported : world.Reported) {node : Node} {userId : UserId} (online : Bool)
    {transition : Transition Node}
    (others : ∀ other, other ≠ userId → transition.service.count other = (world.services node).count other) :
    (world.change node (userId, online) transition).Reported ↔
      ((if transition.changed then online = true else world.Held userId) ↔
        0 < transition.service.count userId ∨ world.HeldElsewhere node userId) := by
  -- The updates change for this user only, and only if the call answered that they moved.
  have told (other : UserId) : latest other false ((world.change node (userId, online) transition).updates ++
        (world.change node (userId, online) transition).pending) = true ↔
      if transition.changed = true ∧ other = userId then online = true else world.Held other := by
    rw [← reported other]
    cases changed : transition.changed with
    | false => simp [World.change, changed]
    | true =>
      by_cases same : other = userId
      · simp [World.change, changed, same, ← List.append_assoc]
      · simp [World.change, changed, same, Ne.symm same, ← List.append_assoc]
  constructor
  · intro after
    rw [← held_change world node (userId, online) transition userId, ← after userId, told userId]
    simp
  · intro fits other
    rw [told other, held_change]
    by_cases same : other = userId
    · subst same
      simpa using fits
    · simp [same, others other same, ← held_iff]

theorem reported_onConnect (reported : world.Reported) (node : Node) (userId : UserId) (nowMs : Int) :
    (world.change node (userId, true) ((world.services node).onConnect userId nowMs)).Reported ↔
      Informed world (.onConnect node userId nowMs) := by
  have changed := (world.services node).changed_onConnect userId nowMs
  rw [reported_change reported true fun other different => by
    rw [PresenceService.count_onConnect, if_neg different]]
  rw [PresenceService.count_onConnect, held_iff world node, Informed]
  grind

theorem reported_onDisconnect (reported : world.Reported) (node : Node) (userId : UserId) (now : TimePoint)
    (nowMs : Int) :
    (world.change node (userId, false) ((world.services node).onDisconnect userId now nowMs)).Reported ↔
      Informed world (.onDisconnect node userId now nowMs) := by
  have changed := (world.services node).changed_onDisconnect userId now nowMs
  rw [reported_change reported false fun other different => by
    rw [PresenceService.count_onDisconnect, if_neg different]]
  rw [PresenceService.count_onDisconnect, held_iff world node, Informed]
  grind

theorem reported_receive (publisher receiver : Node) (delta : PresenceDelta) (now : TimePoint) :
    (world.receive publisher receiver delta now).Reported ↔ world.Reported := by
  have counts (node : Node) (userId : UserId) :
      ((world.receive publisher receiver delta now).services node).count userId =
        (world.services node).count userId := by
    by_cases same : node = receiver
    · subst same
      simp [World.receive]
    · simp [World.receive, same]
  simp only [World.Reported, World.Held, counts]
  rfl

/-- Nothing changes for the other users; for the user of the update, the last pending one decides. -/
theorem reported_emit (reported : world.Reported) {position : Nat} {update : UserId × Bool}
    (found : world.pending[position]? = some update) :
    (world.emit position update).Reported ↔
      latest update.1 update.2 (world.pending.eraseIdx position) = latest update.1 update.2 world.pending := by
  have told (userId : UserId) : latest userId false (world.updates ++ [update] ++ world.pending.eraseIdx position) =
      if update.1 = userId then latest userId update.2 (world.pending.eraseIdx position)
      else latest userId false (world.updates ++ world.pending) := by
    rw [latest_append, latest_concat, latest_append]
    split
    · rfl
    · next other => exact latest_eraseIdx found other _
  have pending : latest update.1 update.2 world.pending = latest update.1 false (world.updates ++ world.pending) := by
    rw [latest_append]
    exact latest_of_present (List.mem_of_getElem? found) rfl _ _
  constructor
  · intro after
    have own := (Bool.eq_iff_iff.mp (told update.1)).symm.trans (after update.1)
    rw [if_pos rfl] at own
    rw [pending]
    exact Bool.eq_iff_iff.mpr (own.trans (reported update.1).symm)
  · intro kept userId
    refine (Bool.eq_iff_iff.mp (told userId)).trans ?_
    split
    · next same =>
      subst same
      rw [kept, pending]
      exact reported update.1
    · exact reported userId

theorem reported_step {next : World Node} {label : Label Node} (reported : world.Reported)
    (moves : step world label = some next) : next.Reported ↔ Informed world label := by
  cases label with
  | onConnect node userId nowMs =>
    cases moves
    exact reported_onConnect reported node userId nowMs
  | onDisconnect node userId now nowMs =>
    cases moves
    exact reported_onDisconnect reported node userId now nowMs
  | publish node position =>
    obtain ⟨delta, _, rfl⟩ := Option.map_eq_some_iff.mp moves
    exact iff_of_true reported trivial
  | deliver publisher receiver now =>
    simp only [step, Option.ite_none_left_eq_some, Option.map_eq_some_iff] at moves
    obtain ⟨_, delta, _, rfl⟩ := moves
    exact iff_of_true ((reported_receive publisher receiver delta now).mpr reported) trivial
  | emit position =>
    obtain ⟨update, found, rfl⟩ := Option.map_eq_some_iff.mp moves
    rw [reported_emit reported found]
    simp [Informed, found]

theorem reported_initial : (World.initial : World Node).Reported := by
  simp [World.Reported, World.Held, World.initial, PresenceService.empty, PresenceService.count]

/-- The last update of every user is right in each state of a run, once what is pending is sent,
exactly if the instances' records of each other are right at the calls that consult them and no
update that is sent takes the last word from another. Then the last update that was sent is right
for every user who has none pending. -/
theorem reported_iff_informed (labels : List (Label Node)) {final : World Node}
    (runs : step.run World.initial labels = some final) :
    (step.Always World.Reported World.initial labels ↔ step.Guarded Informed World.initial labels) ∧
    (step.Guarded Informed World.initial labels → ∀ userId, (∀ update ∈ final.pending, update.1 ≠ userId) →
      (latest userId false final.updates = true ↔ final.Held userId)) := by
  constructor
  · exact Step.always_iff_guarded (fun _ => True) (fun _ _ _ => trivial) (fun _ => reported_step) trivial
      reported_initial runs
  · intro informed userId absent
    have reported : final.Reported := Step.guarded_invariant World.Reported
      (fun reported met moves => (reported_step reported moves).mpr met) reported_initial informed runs
    rw [← reported userId, latest_append, latest_of_absent _ absent]

/-- A user on two instances leaves one, and the other only after it has heard of that. -/
def oneByOne : List (Label Bool) :=
  [.onConnect false 1 10, .publish false 0, .emit 0, .deliver false true 15, .onConnect true 1 20, .publish true 0,
    .deliver true false 25, .onDisconnect false 1 30 30, .publish false 0, .deliver false true 35,
    .onDisconnect true 1 40 40, .publish true 0, .emit 0, .deliver true false 45]

theorem reported_iff_informed_oneByOne :
    ∃ final, step.run World.initial oneByOne = some final ∧ final.updates = [(1, true), (1, false)] ∧
      step.Always World.Reported World.initial oneByOne ∧ ¬ final.Held 1 := by
  obtain ⟨always, right⟩ := reported_iff_informed oneByOne rfl
  refine ⟨_, rfl, rfl, always.mpr (by decide), fun held => ?_⟩
  exact absurd ((right (by decide) 1 (by decide)).mpr held) (by decide)

/-- A user on two instances leaves both before either has heard of the other's change. -/
def together : List (Label Bool) :=
  [.onConnect false 1 10, .publish false 0, .emit 0, .deliver false true 15, .onConnect true 1 20, .publish true 0,
    .deliver true false 25, .onDisconnect false 1 30 30, .publish false 0, .onDisconnect true 1 30 30,
    .publish true 0, .deliver false true 35, .deliver true false 35]

/-- A user leaves one instance and comes back to it, and the update of the connect is sent first. -/
def returned : List (Label Bool) :=
  [.onConnect false 1 10, .publish false 0, .emit 0, .onDisconnect false 1 20 20, .publish false 0,
    .onConnect false 1 30, .publish false 0, .emit 1, .emit 0, .deliver false true 35, .deliver false true 35,
    .deliver false true 35]

/-- All deltas are published in order and delivered, and all updates sent. In the first run no
instance says that the user went offline, in the second the last update says so of a user who
is there. -/
theorem simultaneous_leave_unreported :
    (∃ final, step.run World.initial together = some final ∧ final.Settled ∧ final.pending = [] ∧
      latest 1 false final.updates = true ∧ ¬ final.Held 1) ∧
    ∃ final, step.run World.initial returned = some final ∧ final.Settled ∧ final.pending = [] ∧
      latest 1 false final.updates = false ∧ final.Held 1 := by
  refine ⟨⟨_, rfl, ⟨by decide, by decide⟩, rfl, rfl, ?_⟩, _, rfl, ⟨by decide, by decide⟩, rfl, rfl, false, by decide⟩
  rintro ⟨node, holds⟩
  revert holds
  cases node <;> decide

end RealtimeChat.Presence
