import RealtimeChat.Authorization.Requests

/-! Authorization on several instances.

A call of the authorization service is a cache read, on a miss followed by a
database read and a cache write, and other steps come between these. An instance
uses one cache store, which it may share with others. A change of an account is
announced to the instances, and each drops its cached answers when it learns of
it, which may be at any time or never.

The world also keeps a record of the run that no step reads: how often the
answer to each question has been changed, which of these changes each instance
has dropped its copy for, and all that the database has held.
-/

set_option autoImplicit false

namespace RealtimeChat.Authorization

open Foundation Accounts Security

/-- The database read that an answer comes from: the change it saw last, and when it was. -/
structure Source where
  version : Nat
  instant : Int
  deriving DecidableEq, Repr

structure Copy where
  text : String
  source : Source
  deriving DecidableEq, Repr

/-- How a call began: whether its instance had dropped its copy for the latest change, and which
change that was. -/
structure Call where
  fresh : Bool
  since : Nat
  deriving DecidableEq, Repr

structure Finding where
  question : Question
  value : question.Value
  source : Source
  call : Call
  returned : Int

def Finding.answer (finding : Finding) : Answer := ⟨finding.question, finding.value⟩

inductive Activity where
  | running (handler : Handler Unit)
  | read (question : Question) (next : question.Value → Handler Unit) (call : Call)
  | fill (question : Question) (next : question.Value → Handler Unit) (call : Call) (value : question.Value)
      (source : Source)

def Activity.pending : Activity → Option (Question × Source)
  | .fill question _ _ _ source => some (question, source)
  | _ => none

structure Task (Node : Type) where
  node : Node
  actorId : UserId
  endpoint : Endpoint
  activity : Activity
  findings : List Finding

/-- The clock and the database. The number of changes of each answer and all that was held
earlier are a record. -/
structure History where
  clock : Int
  users : UserTable
  version : Question → Nat
  past : List (Int × UserTable)

structure World (Node Slot : Type) extends History where
  caches : Slot → Expiring String Copy
  tasks : List (Task Node)
  dropped : Node → Question → Nat

/-- The time to live of a cached answer is given in seconds. -/
structure Deployment (Node Slot : Type) where
  backing : Node → Slot
  cacheTtl : Int

/-- The clock counts nanoseconds. -/
def Deployment.ttl {Node Slot : Type} (deployment : Deployment Node Slot) : Int := deployment.cacheTtl * 1000000000

/-- Tasks are named by their position. `change` is a write from outside the endpoints, and
`drop` one deletion of `invalidate_local`. -/
inductive Label (Node Slot : Type) where
  | request (node : Node) (actorId : UserId) (endpoint : Endpoint)
  | lookUp (task : Nat)
  | read (task : Nat)
  | fill (task : Nat)
  | commit (task : Nat) (now : TimePoint)
  | fail (task : Nat) (error : AppException)
  | change (change : Change) (now : TimePoint)
  | drop (node : Node) (question : Question)
  | purge (slot : Slot)
  | elapse (duration : Nat)
  | register (input : NewUser) (now : TimePoint)

variable {Node Slot : Type}

def World.initial (users : UserTable) : World Node Slot :=
  ⟨⟨0, users, fun _ => 0, [(0, users)]⟩, fun _ => .empty, [], fun _ _ => 0⟩

def World.setTask (world : World Node Slot) (position : Nat) (task : Task Node) : World Node Slot :=
  { world with tasks := world.tasks.set position task }

def Task.resume (task : Task Node) (finding : Finding) (handler : Handler Unit) : Task Node :=
  { task with activity := .running handler, findings := task.findings ++ [finding] }

def History.store (history : History) (change : Change) (users : UserTable) : History where
  clock := history.clock
  users := users
  version := Function.update history.version change.question (history.version change.question + 1)
  past := (history.clock, users) :: history.past

def World.setHistory (world : World Node Slot) (history : History) : World Node Slot :=
  { world with toHistory := history }

section Machine

variable [DecidableEq Node] [DecidableEq Slot] (deployment : Deployment Node Slot)

def World.setCache (world : World Node Slot) (slot : Slot) (store : Expiring String Copy) : World Node Slot :=
  { world with caches := Function.update world.caches slot store }

def World.call (world : World Node Slot) (node : Node) (question : Question) : Call :=
  ⟨world.dropped node question = world.version question, world.version question⟩

/-- A cached text that is no value of the question is a miss. -/
def usable (question : Question) (found : Option Copy) : Option (question.Value × Source) :=
  found.bind fun copy => (question.decode copy.text).map fun value => (value, copy.source)

def lookUp (world : World Node Slot) (position : Nat) (task : Task Node) (question : Question)
    (next : question.Value → Handler Unit) : World Node Slot :=
  let slot := deployment.backing task.node
  let (store, found) := (world.caches slot).get world.clock question.key
  let call := world.call task.node question
  match usable question found with
  | some (value, source) => (world.setCache slot store).setTask position
      (task.resume ⟨question, value, source, call, world.clock⟩ (next value))
  | none => (world.setCache slot store).setTask position { task with activity := .read question next call }

def step : Step (World Node Slot) (Label Node Slot) := fun world label =>
  match label with
  | .request node actorId endpoint => some { world with
      tasks := world.tasks ++ [⟨node, actorId, endpoint, .running (endpoint.handler actorId), []⟩] }
  | .lookUp position => do
    let task ← world.tasks[position]?
    match task.activity with
    | .running (.ask question next) => some (lookUp deployment world position task question next)
    | _ => none
  | .read position => do
    let task ← world.tasks[position]?
    match task.activity with
    | .read question next call => some (world.setTask position { task with
        activity := .fill question next call (question.find world.users) ⟨world.version question, world.clock⟩ })
    | _ => none
  -- The value goes into the cache as it was read, however long ago that was.
  | .fill position => do
    let task ← world.tasks[position]?
    match task.activity with
    | .fill question next call value source =>
      let slot := deployment.backing task.node
      let store := (world.caches slot).set world.clock question.key ⟨question.encode value, source⟩ deployment.ttl
      some ((world.setCache slot store).setTask position
        (task.resume ⟨question, value, source, call, world.clock⟩ (next value)))
    | _ => none
  | .commit position now => do
    let task ← world.tasks[position]?
    match task.activity with
    | .running (.write change rest) =>
      match change.apply world.users now with
      | .ok users => some ((world.setHistory (world.store change users)).setTask position
          { task with activity := .running rest })
      | .error error => some (world.setTask position { task with activity := .running (.done (.error error)) })
    | _ => none
  | .fail position error => do
    let task ← world.tasks[position]?
    match task.activity with
    | .read _ _ _ | .running (.write _ _) =>
      some (world.setTask position { task with activity := .running (.done (.error error)) })
    | _ => none
  | .change change now =>
    match change.apply world.users now with
    | .ok users => some (world.setHistory (world.store change users))
    | .error _ => some world
  | .drop node question =>
    let slot := deployment.backing node
    some { world.setCache slot ((world.caches slot).del question.key) with
      dropped := Function.update world.dropped node
        (Function.update (world.dropped node) question (world.version question)) }
  | .purge slot => some (world.setCache slot ((world.caches slot).purgeExpired world.clock))
  | .elapse duration => some { world with
      clock := world.clock + duration
      past := (world.clock + duration, world.users) :: world.past }
  | .register input now =>
    match create world.users input now with
    | .ok (users, _) => some { world with users := users, past := (world.clock, users) :: world.past }
    | .error _ => some world

/-- What a step does, with all that it has checked. A step that only removes copies leaves a
store whose entries were there before. -/
inductive Effect (world : World Node Slot) : Label Node Slot → World Node Slot → Prop where
  | request (node : Node) (actorId : UserId) (endpoint : Endpoint) :
      Effect world (.request node actorId endpoint) { world with
        tasks := world.tasks ++ [⟨node, actorId, endpoint, .running (endpoint.handler actorId), []⟩] }
  | hit {position : Nat} {task : Task Node} {question : Question} {next : question.Value → Handler Unit}
      {value : question.Value} {copy : Copy} {expiry : Option Int} (store : Expiring String Copy)
      (found : world.tasks[position]? = some task) (asks : task.activity = .running (.ask question next))
      (kept : ∀ {key copy expiry}, store.Holds key copy expiry →
        (world.caches (deployment.backing task.node)).Holds key copy expiry)
      (cached : (world.caches (deployment.backing task.node)).Holds question.key copy expiry)
      (live : Expiring.isExpired world.clock expiry = false) (decoded : question.decode copy.text = some value) :
      Effect world (.lookUp position) ((world.setCache (deployment.backing task.node) store).setTask position
        (task.resume ⟨question, value, copy.source, world.call task.node question, world.clock⟩ (next value)))
  | miss {position : Nat} {task : Task Node} {question : Question} {next : question.Value → Handler Unit}
      (store : Expiring String Copy) (found : world.tasks[position]? = some task)
      (asks : task.activity = .running (.ask question next))
      (kept : ∀ {key copy expiry}, store.Holds key copy expiry →
        (world.caches (deployment.backing task.node)).Holds key copy expiry) :
      Effect world (.lookUp position) ((world.setCache (deployment.backing task.node) store).setTask position
        { task with activity := .read question next (world.call task.node question) })
  | read {position : Nat} {task : Task Node} {question : Question} {next : question.Value → Handler Unit}
      {call : Call} (found : world.tasks[position]? = some task) (reads : task.activity = .read question next call) :
      Effect world (.read position) (world.setTask position { task with
        activity := .fill question next call (question.find world.users) ⟨world.version question, world.clock⟩ })
  | fill {position : Nat} {task : Task Node} {question : Question} {next : question.Value → Handler Unit}
      {call : Call} {value : question.Value} {source : Source} (found : world.tasks[position]? = some task)
      (fills : task.activity = .fill question next call value source) :
      Effect world (.fill position) ((world.setCache (deployment.backing task.node)
        ((world.caches (deployment.backing task.node)).set world.clock question.key
          ⟨question.encode value, source⟩ deployment.ttl)).setTask position
        (task.resume ⟨question, value, source, call, world.clock⟩ (next value)))
  | commit {position : Nat} {now : TimePoint} {task : Task Node} {change : Change} {rest : Handler Unit}
      {users : UserTable} (found : world.tasks[position]? = some task)
      (writes : task.activity = .running (.write change rest)) (applied : change.apply world.users now = .ok users) :
      Effect world (.commit position now)
        ((world.setHistory (world.store change users)).setTask position { task with activity := .running rest })
  | stop {position : Nat} {label : Label Node Slot} {task : Task Node} {error : AppException}
      (found : world.tasks[position]? = some task) : Effect world label
        (world.setTask position { task with activity := .running (.done (.error error)) })
  | change {change : Change} {now : TimePoint} {users : UserTable}
      (applied : change.apply world.users now = .ok users) :
      Effect world (.change change now) (world.setHistory (world.store change users))
  | drop (node : Node) (question : Question) : Effect world (.drop node question)
      { world.setCache (deployment.backing node) ((world.caches (deployment.backing node)).del question.key) with
        dropped := Function.update world.dropped node
          (Function.update (world.dropped node) question (world.version question)) }
  | purge (slot : Slot) : Effect world (.purge slot)
      (world.setCache slot ((world.caches slot).purgeExpired world.clock))
  | elapse (duration : Nat) : Effect world (.elapse duration) { world with
      clock := world.clock + duration
      past := (world.clock + duration, world.users) :: world.past }
  | register {input : NewUser} {now : TimePoint} {users : UserTable} {user : User}
      (created : create world.users input now = .ok (users, user)) :
      Effect world (.register input now) { world with users := users, past := (world.clock, users) :: world.past }
  | idle {label : Label Node Slot} : Effect world label world

theorem lookUp_effect {world : World Node Slot} {position : Nat} {task : Task Node} {question : Question}
    {next : question.Value → Handler Unit} (found : world.tasks[position]? = some task)
    (asks : task.activity = .running (.ask question next)) :
    Effect deployment world (.lookUp position) (lookUp deployment world position task question next) := by
  have kept {key : String} {copy : Copy} {expiry : Option Int} := @Expiring.holds_of_get String Copy _
    (world.caches (deployment.backing task.node)) world.clock question.key key copy expiry
  unfold lookUp
  dsimp only
  split
  · next value source hit =>
    obtain ⟨copy, there, same⟩ := Option.bind_eq_some_iff.mp hit
    obtain ⟨held, decoded, same⟩ := Option.map_eq_some_iff.mp same
    cases same
    obtain ⟨expiry, cached, live⟩ := Expiring.holds_of_get_eq_some there
    exact .hit _ found asks kept cached live decoded
  · exact .miss _ found asks kept

theorem step_effect {world next : World Node Slot} {label : Label Node Slot}
    (moves : step deployment world label = some next) : Effect deployment world label next := by
  cases label with
  | request node actorId endpoint =>
    cases moves
    exact .request node actorId endpoint
  | lookUp position =>
    obtain ⟨task, found, moves⟩ := Option.bind_eq_some_iff.mp moves
    split at moves
    · next question handler asks =>
      cases moves
      exact lookUp_effect deployment found asks
    · cases moves
  | read position =>
    obtain ⟨task, found, moves⟩ := Option.bind_eq_some_iff.mp moves
    split at moves
    · next question handler call reads =>
      cases moves
      exact .read found reads
    · cases moves
  | fill position =>
    obtain ⟨task, found, moves⟩ := Option.bind_eq_some_iff.mp moves
    split at moves
    · next question handler call value source fills =>
      cases moves
      exact .fill found fills
    · cases moves
  | commit position now =>
    obtain ⟨task, found, moves⟩ := Option.bind_eq_some_iff.mp moves
    split at moves
    · next change rest writes =>
      split at moves
      · next users applied =>
        cases moves
        exact .commit found writes applied
      · cases moves
        exact .stop found
    · cases moves
  | fail position error =>
    obtain ⟨task, found, moves⟩ := Option.bind_eq_some_iff.mp moves
    split at moves
    · cases moves
      exact .stop found
    · cases moves
      exact .stop found
    · cases moves
  | change change now =>
    simp only [step] at moves
    split at moves
    · next users applied =>
      cases moves
      exact .change applied
    · cases moves
      exact .idle
  | drop node question =>
    cases moves
    exact .drop node question
  | purge slot =>
    cases moves
    exact .purge slot
  | elapse duration =>
    cases moves
    exact .elapse duration
  | register input now =>
    simp only [step] at moves
    split at moves
    · next users user created =>
      cases moves
      exact .register created
    · cases moves
      exact .idle

end Machine

end RealtimeChat.Authorization
