import RealtimeChat.Foundation.Latest
import RealtimeChat.Foundation.Run
import RealtimeChat.Presence.Service

/-! Presence replicated over the instances of a cluster.

A connect or a disconnect changes the instance's own counts under its lock and
publishes the delta in a later step, so an instance may hold several unpublished
deltas and publish them in any order. The bus hands the published deltas of one
instance to each other instance in the order of publication. An update for
clients waits until its call has returned, and is sent in a later step as well.
-/

set_option autoImplicit false

namespace RealtimeChat.Presence

open Foundation

def PresenceDelta.entry (delta : PresenceDelta) : UserId × Bool := (delta.userId, delta.online)

structure World (Node : Type) [DecidableEq Node] where
  services : Node → PresenceService Node
  unpublished : Node → List PresenceDelta
  published : Node → List PresenceDelta
  delivered : Node → Node → Nat
  /-- The updates that calls have answered for, in the order of the changes, and not sent yet. -/
  pending : List (UserId × Bool)
  updates : List (UserId × Bool)

inductive Label (Node : Type) where
  | onConnect (node : Node) (userId : UserId) (nowMs : Int)
  | onDisconnect (node : Node) (userId : UserId) (now : TimePoint) (nowMs : Int)
  | publish (node : Node) (position : Nat)
  | deliver (publisher receiver : Node) (now : TimePoint)
  | emit (position : Nat)
  deriving DecidableEq, Repr

variable {Node : Type} [DecidableEq Node]

def World.initial : World Node := ⟨fun _ => .empty, fun _ => [], fun _ => [], fun _ _ => 0, [], []⟩

def World.change (world : World Node) (node : Node) (update : UserId × Bool) (transition : Transition Node) :
    World Node :=
  { world with
    services := Function.update world.services node transition.service
    unpublished := Function.update world.unpublished node
      (world.unpublished node ++ transition.announcement.toList)
    pending := if transition.changed then world.pending ++ [update] else world.pending }

/-- `position` is that of the delta among the unpublished ones. -/
def World.send (world : World Node) (node : Node) (position : Nat) (delta : PresenceDelta) : World Node :=
  { world with
    unpublished := Function.update world.unpublished node ((world.unpublished node).eraseIdx position)
    published := Function.update world.published node (world.published node ++ [delta]) }

def World.receive (world : World Node) (publisher receiver : Node) (delta : PresenceDelta) (now : TimePoint) :
    World Node :=
  { world with
    services := Function.update world.services receiver
      ((world.services receiver).applyRemote publisher (.fromJson delta.toJson) now)
    delivered := fun source target =>
      if source = publisher ∧ target = receiver then world.delivered source target + 1
      else world.delivered source target }

/-- `position` is that of the update among the pending ones. -/
def World.emit (world : World Node) (position : Nat) (update : UserId × Bool) : World Node :=
  { world with
    pending := world.pending.eraseIdx position
    updates := world.updates ++ [update] }

def step : Step (World Node) (Label Node) := fun world label =>
  match label with
  | .onConnect node userId nowMs =>
    some (world.change node (userId, true) ((world.services node).onConnect userId nowMs))
  | .onDisconnect node userId now nowMs =>
    some (world.change node (userId, false) ((world.services node).onDisconnect userId now nowMs))
  | .publish node position => (world.unpublished node)[position]?.map (world.send node position)
  | .deliver publisher receiver now =>
    if publisher = receiver then none
    else (world.published publisher)[world.delivered publisher receiver]?.map fun delta =>
      world.receive publisher receiver delta now
  | .emit position => world.pending[position]?.map (world.emit position)

def World.Settled (world : World Node) : Prop :=
  (∀ node, world.unpublished node = []) ∧
    ∀ publisher receiver, publisher ≠ receiver →
      world.delivered publisher receiver = (world.published publisher).length

/-- No delta is published ahead of an older one of the same user. -/
def InOrder (world : World Node) : Label Node → Prop
  | .publish node position => ∀ delta ∈ (world.unpublished node)[position]?,
      ∀ earlier ∈ (world.unpublished node).take position, earlier.userId ≠ delta.userId
  | _ => True

instance (world : World Node) : ∀ label, Decidable (InOrder world label)
  | .publish node position => inferInstanceAs (Decidable (∀ delta ∈ (world.unpublished node)[position]?,
      ∀ earlier ∈ (world.unpublished node).take position, earlier.userId ≠ delta.userId))
  | .onConnect .. | .onDisconnect .. | .deliver .. | .emit .. => isTrue trivial

def leaves (userId : UserId) (deltas : List PresenceDelta) : Bool :=
  latest userId false (deltas.map PresenceDelta.entry)

theorem leaves_concat (userId : UserId) (deltas : List PresenceDelta) (delta : PresenceDelta) :
    leaves userId (deltas ++ [delta]) = if delta.userId = userId then delta.online else leaves userId deltas := by
  simp [leaves, PresenceDelta.entry]

/-- What an instance has announced, published or not, says which users it holds, and every
other instance's record of it replays the deltas delivered so far. -/
structure World.Replicated (world : World Node) : Prop where
  announced : ∀ node userId, leaves userId (world.published node ++ world.unpublished node) = true ↔
    0 < (world.services node).count userId
  mirrored : ∀ publisher receiver userId, userId ∈ (world.services receiver).remote.values publisher ↔
    leaves userId ((world.published publisher).take (world.delivered publisher receiver)) = true
  bounded : ∀ publisher receiver, world.delivered publisher receiver ≤ (world.published publisher).length

theorem World.Replicated.initial : (World.initial : World Node).Replicated := by
  constructor <;> simp [World.initial, leaves, PresenceService.empty, PresenceService.count]

variable {world : World Node} {position : Nat} {delta : PresenceDelta}

theorem World.Replicated.change (replicated : world.Replicated) (node : Node) (update : UserId × Bool)
    {transition : Transition Node} (remote : transition.service.remote = (world.services node).remote)
    (announced : ∀ userId,
      leaves userId (world.published node ++ world.unpublished node ++ transition.announcement.toList) = true ↔
        0 < transition.service.count userId) : (world.change node update transition).Replicated := by
  refine ⟨fun other userId => ?_, fun publisher receiver userId => ?_, replicated.bounded⟩
  · by_cases same : other = node
    · subst same
      simpa [World.change, ← List.append_assoc] using announced userId
    · simpa [World.change, same] using replicated.announced other userId
  · by_cases same : receiver = node
    · subst same
      simpa [World.change, remote] using replicated.mirrored publisher receiver userId
    · simpa [World.change, same] using replicated.mirrored publisher receiver userId

theorem World.Replicated.onConnect (replicated : world.Replicated) (node : Node) (userId : UserId) (nowMs : Int) :
    (world.change node (userId, true) ((world.services node).onConnect userId nowMs)).Replicated := by
  refine replicated.change node _ (by simp) fun other => ?_
  rw [PresenceService.announcement_onConnect, PresenceService.count_onConnect]
  have before := replicated.announced node other
  split
  · next first =>
    rw [Option.toList_some, leaves_concat]
    by_cases same : other = userId
    · simp [same]
    · simpa [same, Ne.symm same] using before
  · next more =>
    rw [Option.toList_none, List.append_nil, before]
    by_cases same : other = userId
    · subst same
      rw [if_pos rfl]
      omega
    · rw [if_neg same]

theorem World.Replicated.onDisconnect (replicated : world.Replicated) (node : Node) (userId : UserId)
    (now : TimePoint) (nowMs : Int) :
    (world.change node (userId, false) ((world.services node).onDisconnect userId now nowMs)).Replicated := by
  refine replicated.change node _ (by simp) fun other => ?_
  rw [PresenceService.announcement_onDisconnect, PresenceService.count_onDisconnect]
  have before := replicated.announced node other
  split
  · next last =>
    rw [Option.toList_some, leaves_concat]
    by_cases same : other = userId
    · simp [same, last]
    · simpa [same, Ne.symm same] using before
  · next more =>
    rw [Option.toList_none, List.append_nil, before]
    by_cases same : other = userId
    · subst same
      rw [if_pos rfl]
      omega
    · rw [if_neg same]

theorem leaves_publish {unpublished : List PresenceDelta} (found : unpublished[position]? = some delta)
    (ordered : ∀ earlier ∈ unpublished.take position, earlier.userId ≠ delta.userId) (userId : UserId)
    (published : List PresenceDelta) :
    leaves userId (published ++ delta :: unpublished.eraseIdx position) =
      leaves userId (published ++ unpublished) := by
  obtain ⟨bound, same⟩ := List.getElem?_eq_some_iff.mp found
  -- What stands before the delta concerns other users, so it may as well come after it.
  have split : unpublished = unpublished.take position ++ delta :: unpublished.drop (position + 1) := by
    rw [← same, List.getElem_cons_drop, List.take_append_drop]
  have others : ∀ earlier ∈ (unpublished.take position).map PresenceDelta.entry,
      earlier.1 ≠ delta.entry.1 := by
    intro earlier member
    obtain ⟨old, listed, rfl⟩ := List.mem_map.mp member
    exact ordered old listed
  have overtakes := latest_overtake userId (latest userId false (published.map PresenceDelta.entry))
    ((unpublished.drop (position + 1)).map PresenceDelta.entry) others
  conv_rhs => rw [split]
  simpa [leaves, List.eraseIdx_eq_take_drop_succ, latest_append] using overtakes

theorem World.Replicated.send (replicated : world.Replicated) {node : Node}
    (found : (world.unpublished node)[position]? = some delta)
    (ordered : ∀ earlier ∈ (world.unpublished node).take position, earlier.userId ≠ delta.userId) :
    (world.send node position delta).Replicated := by
  refine ⟨fun other userId => ?_, fun publisher receiver userId => ?_, fun publisher receiver => ?_⟩
  · by_cases same : other = node
    · subst same
      simpa [World.send, leaves_publish found ordered] using replicated.announced other userId
    · simpa [World.send, same] using replicated.announced other userId
  · by_cases same : publisher = node
    · subst same
      have bound := replicated.bounded publisher receiver
      simpa [World.send, List.take_append_of_le_length bound] using
        replicated.mirrored publisher receiver userId
    · simpa [World.send, same] using replicated.mirrored publisher receiver userId
  · have bound := replicated.bounded publisher receiver
    by_cases same : publisher = node
    · subst same
      simpa [World.send] using Nat.le_succ_of_le bound
    · simpa [World.send, same] using bound

theorem World.Replicated.receive (replicated : world.Replicated) {publisher receiver : Node} (now : TimePoint)
    (found : (world.published publisher)[world.delivered publisher receiver]? = some delta) :
    (world.receive publisher receiver delta now).Replicated := by
  refine ⟨fun node userId => ?_, fun source target userId => ?_, fun source target => ?_⟩
  · by_cases same : node = receiver
    · subst same
      simpa [World.receive] using replicated.announced node userId
    · simpa [World.receive, same] using replicated.announced node userId
  · have before := replicated.mirrored source target userId
    by_cases atReceiver : target = receiver
    · subst atReceiver
      simp only [World.receive, Function.update_self, PresenceService.mem_remote_applyRemote,
        PresenceDelta.fromJson_toJson, and_true]
      by_cases fromPublisher : source = publisher
      · subst fromPublisher
        simp only [if_true, List.take_add_one, found, Option.toList_some, leaves_concat, true_and]
        split <;> grind
      · simpa [fromPublisher] using before
    · simpa [World.receive, atReceiver] using before
  · have bound := replicated.bounded source target
    have more := (List.getElem?_eq_some_iff.mp found).1
    simp only [World.receive]
    split
    · next same =>
      obtain ⟨rfl, rfl⟩ := same
      exact more
    · exact bound

theorem World.Replicated.step {next : World Node} {label : Label Node} (replicated : world.Replicated)
    (ordered : InOrder world label) (moves : step world label = some next) : next.Replicated := by
  cases label with
  | onConnect node userId nowMs =>
    cases moves
    exact replicated.onConnect node userId nowMs
  | onDisconnect node userId now nowMs =>
    cases moves
    exact replicated.onDisconnect node userId now nowMs
  | publish node position =>
    obtain ⟨delta, found, rfl⟩ := Option.map_eq_some_iff.mp moves
    exact replicated.send found (ordered delta found)
  | deliver publisher receiver now =>
    simp only [Presence.step, Option.ite_none_left_eq_some, Option.map_eq_some_iff] at moves
    obtain ⟨_, delta, found, rfl⟩ := moves
    exact replicated.receive now found
  | emit position =>
    obtain ⟨update, _, rfl⟩ := Option.map_eq_some_iff.mp moves
    exact ⟨replicated.announced, replicated.mirrored, replicated.bounded⟩

/-- Once everything is published and delivered, each instance records for every other
the users that hold a session there, if no delta overtook an older one of its user. -/
theorem records_sessions (labels : List (Label Node)) {final : World Node}
    (ordered : step.Guarded InOrder World.initial labels) (runs : step.run World.initial labels = some final)
    (settled : final.Settled) {receiver publisher : Node} (distinct : publisher ≠ receiver) (userId : UserId) :
    userId ∈ (final.services receiver).remote.values publisher ↔
      (final.services publisher).isOnlineLocally userId = true := by
  have replicated := Step.guarded_invariant World.Replicated World.Replicated.step .initial ordered runs
  rw [replicated.mirrored, settled.2 publisher receiver distinct, List.take_length,
    PresenceService.isOnlineLocally_iff, ← replicated.announced, settled.1 publisher, List.append_nil]

/-- A user connects to the first instance, leaves and connects again; the second instance is
told of each change in turn. -/
def inTurn : List (Label Bool) :=
  [.onConnect false 1 10, .publish false 0, .onDisconnect false 1 20 20, .onConnect false 1 30,
    .deliver false true 35, .publish false 0, .publish false 0, .deliver false true 40, .deliver false true 45]

theorem records_sessions_inTurn :
    ∃ final, step.run World.initial inTurn = some final ∧ final.Settled ∧
      (1 : UserId) ∈ (final.services true).remote.values false := by
  refine ⟨_, rfl, ?_, ?_⟩
  · exact ⟨by decide, by decide⟩
  · exact (records_sessions inTurn (by decide) rfl ⟨by decide, by decide⟩ (by decide) 1).mpr rfl

/-- The delta of the connect is published after that of the disconnect. -/
def overtaken : List (Label Bool) :=
  [.onConnect false 1 10, .onDisconnect false 1 20 20, .publish false 1, .publish false 0,
    .deliver false true 30, .deliver false true 40]

/-- The second instance goes on recording a user who has left the first. -/
theorem overtaken_delta_misrecorded :
    ∃ final, step.run World.initial overtaken = some final ∧ final.Settled ∧
      (1 : UserId) ∈ (final.services true).remote.values false ∧
      (final.services false).isOnlineLocally 1 = false :=
  ⟨_, rfl, ⟨by decide, by decide⟩, by decide, rfl⟩

end RealtimeChat.Presence
