import RealtimeChat.Foundation.Run
import RealtimeChat.Realtime.Connections

/-! Fan-out over a cluster of instances.

An instance delivers an event to its own connections and publishes it on the
bus. The bus hands each published body to every instance; an instance drops the
bodies that carry its own id and delivers the others to its own connections
only. What is sent is the list of frames with the connections they went to.
-/

set_option autoImplicit false

namespace RealtimeChat.Realtime

open Foundation

variable {Conn : Type} [DecidableEq Conn]

def sendEach (exclude : Option Conn) : FrameCache → List (Session Conn) → List (Conn × Json)
  | _, [] => []
  | frames, session :: rest =>
    if some session.connection = exclude then sendEach exclude frames rest
    else
      let (frames, frame) := frames.forVersion session.protocolVersion
      (session.connection, frame) :: sendEach exclude frames rest

def sendToSessions (sessions : List (Session Conn)) (type : String) (data : Json) (envelope : Envelope)
    (exclude : Option Conn) (timestamp : String) : List (Conn × Json) :=
  sendEach exclude (.create type data envelope timestamp) sessions

/-- `clock` gives the formatted time of each user's fan-out. -/
def deliverLocal (manager : ConnectionManager Conn) (userIds : List UserId) (type : String) (data : Json)
    (clock : UserId → String) : List (Conn × Json) :=
  userIds.flatMap fun userId =>
    sendToSessions (manager.sessions.sessionsForUser userId) type data {} none (clock userId)

def deliverLocalToRoom (manager : ConnectionManager Conn) (conversationId : ConversationId) (type : String)
    (data : Json) (exclude : Option Conn) (timestamp : String) : List (Conn × Json) :=
  sendToSessions (manager.sessions.sessionsFor (manager.rooms.connectionsInRoom conversationId)) type data {}
    exclude timestamp

inductive Channel where
  | userBroadcast
  | roomBroadcast
  deriving DecidableEq, Repr

structure Message where
  channel : Channel
  body : Json

def userBody (userIds : List UserId) (type : String) (data : Json) : Json :=
  .object [("event", .string type), ("user_ids", .array (userIds.map .number)), ("data", data)]

def roomBody (conversationId : ConversationId) (type : String) (data : Json) : Json :=
  .object [("event", .string type), ("conversation_id", .number conversationId), ("data", data)]

/-- What a call of the connection manager does: frames to its own connections, and bodies
handed to the bus. -/
structure Outcome (Conn : Type) where
  sends : List (Conn × Json)
  published : List Message

def publish (manager : ConnectionManager Conn) (userIds : List UserId) (type : String) (data : Json)
    (clock : UserId → String) : Outcome Conn :=
  ⟨deliverLocal manager userIds type data clock, [⟨.userBroadcast, userBody userIds type data⟩]⟩

def broadcastToRoom (manager : ConnectionManager Conn) (conversationId : ConversationId) (type : String)
    (data : Json) (exclude : Option Conn) (timestamp : String) : Outcome Conn :=
  ⟨deliverLocalToRoom manager conversationId type data exclude timestamp,
    [⟨.roomBroadcast, roomBody conversationId type data⟩]⟩

/-- `RedisClusterBus::publish` adds the publisher's id and, inside a trace, its context. -/
def stamp (nodeId : String) (traceparent : Option String) (body : Json) : Json :=
  let stamped := body.set "_node" (.string nodeId)
  match traceparent with
  | some context => stamped.set "_traceparent" (.string context)
  | none => stamped

/-- The subscribers of the two channels call the local deliveries. A failing conversion
is caught by the bus. -/
def handle (manager : ConnectionManager Conn) (clock : UserId → String) (timestamp : String) :
    Message → Outcome Conn
  | ⟨.userBroadcast, body⟩ =>
    match (body.find "event").bind Json.text?, (body.find "user_ids").bind Json.toInts? with
    | some event, some users =>
      ⟨deliverLocal manager users event ((body.find "data").getD (.object [])) clock, []⟩
    | _, _ => ⟨[], []⟩
  | ⟨.roomBroadcast, body⟩ =>
    match (body.find "event").bind Json.text?, (body.find "conversation_id").bind Json.integer? with
    | some event, some conversationId =>
      ⟨deliverLocalToRoom manager conversationId event ((body.find "data").getD (.object [])) none timestamp, []⟩
    | _, _ => ⟨[], []⟩

/-- `RedisClusterBus::deliver`. -/
def deliver (nodeId : String) (manager : ConnectionManager Conn) (clock : UserId → String)
    (timestamp : String) (message : Message) : Outcome Conn :=
  if !message.body.isObject then ⟨[], []⟩
  else if ((message.body.find "_node").bind Json.text?).getD "" = nodeId then ⟨[], []⟩
  else handle manager clock timestamp message

def framesTo (conn : Conn) (sends : List (Conn × Json)) : List Json :=
  sends.filterMap fun send => if send.1 = conn then some send.2 else none

theorem framesTo_append (conn : Conn) (first second : List (Conn × Json)) :
    framesTo conn (first ++ second) = framesTo conn first ++ framesTo conn second :=
  List.filterMap_append

theorem framesTo_cons (conn : Conn) (send : Conn × Json) (rest : List (Conn × Json)) :
    framesTo conn (send :: rest) =
      if send.1 = conn then send.2 :: framesTo conn rest else framesTo conn rest := by
  by_cases same : send.1 = conn <;> simp [framesTo, same]

/-- The cache does not show: each recipient gets the frame of its own version. -/
theorem sendEach_eq {frames : FrameCache} {type : String} {data : Json} {envelope : Envelope}
    {timestamp : String} (holds : frames.Of type data envelope timestamp) (exclude : Option Conn)
    (sessions : List (Session Conn)) :
    sendEach exclude frames sessions =
      (sessions.filter fun session => some session.connection ≠ exclude).map fun session =>
        (session.connection, encode session.protocolVersion type data envelope timestamp) := by
  -- The cache grows along the loop; that it holds frames of this event only is the invariant.
  induction sessions generalizing frames with
  | nil => rfl
  | cons session rest ih =>
    by_cases excluded : some session.connection = exclude
    · simp [sendEach, excluded, ih holds]
    · obtain ⟨frame, kept⟩ := holds.forVersion session.protocolVersion
      simp [sendEach, excluded, frame, ih kept]

variable {manager : ConnectionManager Conn} {userIds : List UserId}

/-- Among the sessions at distinct addresses, a registered address gets one frame and
no other address gets any. -/
theorem framesTo_sendToSessions (consistent : manager.Consistent) {connections : List Conn}
    (distinct : connections.Nodup) (type : String) (data : Json) (envelope : Envelope) (exclude : Option Conn)
    (timestamp : String) (conn : Conn) :
    framesTo conn (sendToSessions (manager.sessions.sessionsFor connections) type data envelope exclude
      timestamp) =
      if conn ∈ connections ∧ some conn ≠ exclude then
        ((manager.sessions.get conn).map fun session =>
          encode session.protocolVersion type data envelope timestamp).toList
      else [] := by
  rw [sendToSessions, sendEach_eq (FrameCache.of_create ..), SessionManager.sessionsFor]
  induction connections with
  | nil => rfl
  | cons first rest ih =>
    obtain ⟨absent, distinct⟩ := List.nodup_cons.mp distinct
    have tail := ih distinct
    rw [List.filterMap_cons]
    cases found : manager.sessions.get first with
    | none =>
      simp only [tail, List.mem_cons]
      by_cases same : conn = first
      · subst same
        simp [absent, found]
      · simp [same]
    | some session =>
      have address := consistent.address first session found
      simp only [List.filter_cons, List.mem_cons, address]
      by_cases excluded : some first = exclude
      · simp only [excluded, ne_eq, not_true_eq_false, decide_false, Bool.false_eq_true, if_false]
        rw [tail]
        by_cases same : conn = first
        · subst same
          simp [excluded]
        · simp [same]
      · simp only [ne_eq, excluded, not_false_eq_true, decide_true, if_true, List.map_cons, address]
        rw [framesTo_cons, tail]
        by_cases same : first = conn
        · subst same
          simp [absent, found, excluded]
        · simp [same, Ne.symm same]

theorem framesTo_deliverLocal (consistent : manager.Consistent) (distinct : userIds.Nodup) (type : String)
    (data : Json) (clock : UserId → String) (conn : Conn) :
    framesTo conn (deliverLocal manager userIds type data clock) =
      match manager.sessions.get conn with
      | some session =>
        if session.userId ∈ userIds then
          [encode session.protocolVersion type data {} (clock session.userId)]
        else []
      | none => [] := by
  induction userIds with
  | nil =>
    cases manager.sessions.get conn <;> rfl
  | cons userId rest ih =>
    obtain ⟨absent, distinct⟩ := List.nodup_cons.mp distinct
    rw [deliverLocal, List.flatMap_cons, framesTo_append, ← deliverLocal, ih distinct,
      SessionManager.sessionsForUser,
      framesTo_sendToSessions consistent (manager.sessions.byUser.nodup_values userId)]
    have listed := consistent.users conn userId
    cases found : manager.sessions.get conn with
    | none => simp
    | some session =>
      rw [found] at listed
      by_cases same : session.userId = userId
      · subst same
        simp [listed, absent]
      · simp [listed, same]

section Cluster

variable {Node : Type} [DecidableEq Node]

structure Deployment (Node Conn : Type) [DecidableEq Conn] where
  nodeId : Node → String
  managers : Node → ConnectionManager Conn

/-- The bus with the bodies it has still to hand over, and what has been done with the others. -/
structure Cluster (Node Conn : Type) where
  inbox : Node → List Message
  sent : List (Node × Conn × Json)
  published : List Message

def Cluster.idle : Cluster Node Conn := ⟨fun _ => [], [], []⟩

inductive Broadcast (Conn : Type) where
  | publish (userIds : List UserId)
  | broadcastToRoom (conversationId : ConversationId) (exclude : Option Conn)

structure Fanout (Node Conn : Type) where
  origin : Node
  broadcast : Broadcast Conn
  type : String
  data : Json
  clock : UserId → String
  timestamp : String
  traceparent : Option String

def Fanout.outcome (fanout : Fanout Node Conn) (manager : ConnectionManager Conn) : Outcome Conn :=
  match fanout.broadcast with
  | .publish userIds => publish manager userIds fanout.type fanout.data fanout.clock
  | .broadcastToRoom conversationId exclude =>
    broadcastToRoom manager conversationId fanout.type fanout.data exclude fanout.timestamp

/-- The frames go out, and the bus hands each stamped body to every instance, the publisher included. -/
def Cluster.perform (cluster : Cluster Node Conn) (nodeId : String) (node : Node)
    (traceparent : Option String) (outcome : Outcome Conn) : Cluster Node Conn :=
  let messages := outcome.published.map fun message =>
    { message with body := stamp nodeId traceparent message.body }
  { inbox := fun other => cluster.inbox other ++ messages
    sent := cluster.sent ++ outcome.sends.map fun send => (node, send)
    published := cluster.published ++ messages }

def Cluster.start (deployment : Deployment Node Conn) (fanout : Fanout Node Conn)
    (cluster : Cluster Node Conn) : Cluster Node Conn :=
  cluster.perform (deployment.nodeId fanout.origin) fanout.origin fanout.traceparent
    (fanout.outcome (deployment.managers fanout.origin))

/-- The bus hands the next body to an instance, which reads its clock as it encodes. -/
structure Delivery (Node : Type) where
  node : Node
  clock : UserId → String
  timestamp : String

def Delivery.outcome (deployment : Deployment Node Conn) (delivery : Delivery Node) (message : Message) :
    Outcome Conn :=
  deliver (deployment.nodeId delivery.node) (deployment.managers delivery.node) delivery.clock
    delivery.timestamp message

def step (deployment : Deployment Node Conn) : Step (Cluster Node Conn) (Delivery Node) :=
  fun cluster delivery =>
    match cluster.inbox delivery.node with
    | [] => none
    | message :: rest =>
      some (Cluster.perform { cluster with inbox := Function.update cluster.inbox delivery.node rest }
        (deployment.nodeId delivery.node) delivery.node ((message.body.find "_traceparent").bind Json.text?)
        (delivery.outcome deployment message))

def Cluster.received (cluster : Cluster Node Conn) (node : Node) (conn : Conn) : List Json :=
  cluster.sent.filterMap fun send => if send.1 = node ∧ send.2.1 = conn then some send.2.2 else none

def Fanout.addresses (fanout : Fanout Node Conn) (deployment : Deployment Node Conn) (node : Node)
    (conn : Conn) (session : Session Conn) : Prop :=
  match fanout.broadcast with
  | .publish userIds => session.userId ∈ userIds
  | .broadcastToRoom conversationId exclude =>
    conn ∈ (deployment.managers node).rooms.connectionsInRoom conversationId ∧
      ¬ (node = fanout.origin ∧ some conn = exclude)

theorem received_map (node other : Node) (conn : Conn) (sends : List (Conn × Json)) :
    (sends.map fun send => (other, send)).filterMap
        (fun send => if send.1 = node ∧ send.2.1 = conn then some send.2.2 else none) =
      if other = node then framesTo conn sends else [] := by
  by_cases same : other = node
  · simp [same, framesTo, List.filterMap_map]
  · simp [same, List.filterMap_map]

variable {order : List (Delivery Node)} {delivery : Delivery Node} (deployment : Deployment Node Conn)
  (fanout : Fanout Node Conn)

omit [DecidableEq Node] in
theorem outcome_published (delivery : Delivery Node) (message : Message) :
    (delivery.outcome deployment message).published = [] := by
  unfold Delivery.outcome deliver handle
  split
  · rfl
  · split
    · rfl
    · split <;> split <;> rfl

theorem run_deliveries {cluster : Cluster Node Conn} {message : Message} (each : (order.map Delivery.node).Nodup)
    (waiting : ∀ delivery ∈ order, cluster.inbox delivery.node = [message]) :
    ∃ final, (step deployment).run cluster order = some final ∧ final.published = cluster.published ∧
      final.sent = cluster.sent ++ order.flatMap fun delivery =>
        (delivery.outcome deployment message).sends.map fun send => (delivery.node, send) := by
  induction order generalizing cluster with
  | nil => exact ⟨cluster, rfl, rfl, by simp⟩
  | cons first rest ih =>
    obtain ⟨absent, each⟩ := List.nodup_cons.mp each
    let next : Cluster Node Conn := { cluster with
      inbox := Function.update cluster.inbox first.node []
      sent := cluster.sent ++ (first.outcome deployment message).sends.map fun send => (first.node, send) }
    have moves : step deployment cluster first = some next := by
      simp [step, waiting first List.mem_cons_self, Cluster.perform, outcome_published, next]
    -- Each instance takes its own copy, so the deliveries still to come find theirs waiting.
    have waiting' : ∀ delivery ∈ rest, next.inbox delivery.node = [message] := by
      intro delivery member
      have other : delivery.node ≠ first.node := fun same => absent (same ▸ List.mem_map_of_mem member)
      simp only [next, Function.update_of_ne other]
      exact waiting delivery (List.mem_cons_of_mem _ member)
    obtain ⟨final, runs, published, sent⟩ := ih each waiting'
    refine ⟨final, Step.run_cons.mpr ⟨next, moves, runs⟩, published, ?_⟩
    rw [sent, List.flatMap_cons, ← List.append_assoc]

theorem find_stamp {body : Json} (isObject : body.isObject) (nodeId : String) (traceparent : Option String) :
    (stamp nodeId traceparent body).find "_node" = some (.string nodeId) ∧
      (stamp nodeId traceparent body).isObject ∧
      ∀ name, name ≠ "_node" → name ≠ "_traceparent" →
        (stamp nodeId traceparent body).find name = body.find name := by
  have object : (body.set "_node" (.string nodeId)).isObject := by rwa [Json.isObject_set]
  cases traceparent with
  | none =>
    refine ⟨?_, object, fun name notNode _ => ?_⟩ <;> simp only [stamp, Json.find_set isObject]
    · rfl
    · rw [if_neg notNode]
  | some context =>
    refine ⟨?_, ?_, fun name notNode notTrace => ?_⟩
    · simp only [stamp, Json.find_set object, Json.find_set isObject]
      rfl
    · simp only [stamp, Json.isObject_set, isObject]
    · simp only [stamp, Json.find_set object, Json.find_set isObject]
      rw [if_neg notTrace, if_neg notNode]

def Fanout.message (fanout : Fanout Node Conn) (nodeId : String) : Message :=
  match fanout.broadcast with
  | .publish userIds =>
    ⟨.userBroadcast, stamp nodeId fanout.traceparent (userBody userIds fanout.type fanout.data)⟩
  | .broadcastToRoom conversationId _ =>
    ⟨.roomBroadcast, stamp nodeId fanout.traceparent (roomBody conversationId fanout.type fanout.data)⟩

omit [DecidableEq Node] in
theorem start_idle :
    Cluster.idle.start deployment fanout =
      { inbox := fun _ => [fanout.message (deployment.nodeId fanout.origin)]
        sent := (fanout.outcome (deployment.managers fanout.origin)).sends.map fun send => (fanout.origin, send)
        published := [fanout.message (deployment.nodeId fanout.origin)] } := by
  unfold Cluster.start Fanout.outcome Fanout.message
  cases fanout.broadcast <;> rfl

omit [DecidableEq Node] in
theorem sends_own (own : delivery.node = fanout.origin) :
    (delivery.outcome deployment (fanout.message (deployment.nodeId fanout.origin))).sends = [] := by
  have dropped (channel : Channel) {body : Json} (isObject : body.isObject) :
      (deliver (deployment.nodeId fanout.origin) (deployment.managers fanout.origin) delivery.clock
        delivery.timestamp
        ⟨channel, stamp (deployment.nodeId fanout.origin) fanout.traceparent body⟩).sends = [] := by
    obtain ⟨origin, object, _⟩ := find_stamp isObject (deployment.nodeId fanout.origin) fanout.traceparent
    simp [deliver, origin, object, Json.text?]
  unfold Delivery.outcome Fanout.message
  rw [own]
  cases fanout.broadcast with
  | publish | broadcastToRoom => exact dropped _ rfl

omit [DecidableEq Node] in
/-- Any other instance repeats the local delivery over its own connections, without the exclusion. -/
theorem sends_peer {deployment : Deployment Node Conn} (ids : Function.Injective deployment.nodeId)
    (fanout : Fanout Node Conn) (peer : delivery.node ≠ fanout.origin) :
    (delivery.outcome deployment (fanout.message (deployment.nodeId fanout.origin))).sends =
      match fanout.broadcast with
      | .publish userIds =>
        deliverLocal (deployment.managers delivery.node) userIds fanout.type fanout.data delivery.clock
      | .broadcastToRoom conversationId _ =>
        deliverLocalToRoom (deployment.managers delivery.node) conversationId fanout.type fanout.data none
          delivery.timestamp := by
  have different : ¬ deployment.nodeId fanout.origin = deployment.nodeId delivery.node :=
    fun same => peer (ids same).symm
  have handled (channel : Channel) {body : Json} (isObject : body.isObject) :
      deliver (deployment.nodeId delivery.node) (deployment.managers delivery.node) delivery.clock
          delivery.timestamp ⟨channel, stamp (deployment.nodeId fanout.origin) fanout.traceparent body⟩ =
        handle (deployment.managers delivery.node) delivery.clock delivery.timestamp
          ⟨channel, stamp (deployment.nodeId fanout.origin) fanout.traceparent body⟩ := by
    obtain ⟨origin, object, _⟩ := find_stamp isObject (deployment.nodeId fanout.origin) fanout.traceparent
    simp [deliver, origin, object, Json.text?, different]
  unfold Delivery.outcome Fanout.message
  cases fanout.broadcast with
  | publish userIds =>
    have fields := (@find_stamp (userBody userIds fanout.type fanout.data) rfl
      (deployment.nodeId fanout.origin) fanout.traceparent).2.2
    rw [handled _ rfl]
    simp only [handle, fields "event" (by decide) (by decide), fields "user_ids" (by decide) (by decide),
      fields "data" (by decide) (by decide)]
    have users := Json.toInts?_numbers userIds
    simp [userBody, Json.find, Json.lookup, Json.text?, users]
  | broadcastToRoom conversationId exclude =>
    have fields := (@find_stamp (roomBody conversationId fanout.type fanout.data) rfl
      (deployment.nodeId fanout.origin) fanout.traceparent).2.2
    rw [handled _ rfl]
    simp only [handle, fields "event" (by decide) (by decide), fields "conversation_id" (by decide) (by decide),
      fields "data" (by decide) (by decide)]
    simp [roomBody, Json.find, Json.lookup, Json.text?, Json.integer?]

theorem flatMap_unique {A : Type} (each : (order.map Delivery.node).Nodup) (member : delivery ∈ order)
    (frames : Delivery Node → List A) :
    (order.flatMap fun other => if other.node = delivery.node then frames other else []) =
      frames delivery := by
  induction order with
  | nil => cases member
  | cons first rest ih =>
    obtain ⟨absent, each⟩ := List.nodup_cons.mp each
    rw [List.flatMap_cons]
    rcases List.mem_cons.mp member with rfl | later
    · have others : (rest.flatMap fun other => if other.node = delivery.node then frames other else []) = [] := by
        rw [List.flatMap_eq_nil_iff]
        intro other otherMember
        rw [if_neg]
        exact fun same => absent (same ▸ List.mem_map_of_mem otherMember)
      simp [others]
    · have different : first.node ≠ delivery.node := fun same => absent (same ▸ List.mem_map_of_mem later)
      simp [different, ih each later]

/-- Each connection is served once: by the publisher's local delivery or by its own
instance's copy of the body. -/
theorem received_final {deployment : Deployment Node Conn} (each : (order.map Delivery.node).Nodup)
    (member : delivery ∈ order) {final : Cluster Node Conn}
    (sent : final.sent = (Cluster.idle.start deployment fanout).sent ++ order.flatMap fun other =>
      (other.outcome deployment (fanout.message (deployment.nodeId fanout.origin))).sends.map
        fun send => (other.node, send)) (conn : Conn) :
    final.received delivery.node conn =
      if fanout.origin = delivery.node then
        framesTo conn (fanout.outcome (deployment.managers fanout.origin)).sends
      else framesTo conn
        (delivery.outcome deployment (fanout.message (deployment.nodeId fanout.origin))).sends := by
  have copies : (order.flatMap fun other => (other.outcome deployment
      (fanout.message (deployment.nodeId fanout.origin))).sends.map fun send => (other.node, send)).filterMap
      (fun send => if send.1 = delivery.node ∧ send.2.1 = conn then some send.2.2 else none) =
      framesTo conn (delivery.outcome deployment (fanout.message (deployment.nodeId fanout.origin))).sends := by
    rw [List.filterMap_flatMap]
    simp only [received_map]
    exact flatMap_unique each member fun other =>
      framesTo conn (other.outcome deployment (fanout.message (deployment.nodeId fanout.origin))).sends
  rw [Cluster.received, sent, List.filterMap_append, copies]
  simp only [start_idle, received_map]
  split
  · next own =>
    rw [sends_own deployment fanout own.symm]
    simp [framesTo]
  · rfl

def Broadcast.Distinct : Broadcast Conn → Prop
  | .publish userIds => userIds.Nodup
  | .broadcastToRoom _ _ => True

/-- A registered connection that is addressed has received one frame of its own version,
and any other connection none. -/
def Served (manager : ConnectionManager Conn) (conn : Conn) (addressed : Session Conn → Prop)
    (type : String) (data : Json) (frames : List Json) : Prop :=
  match manager.sessions.get conn with
  | some session =>
    (addressed session → ∃ timestamp, frames = [encode session.protocolVersion type data {} timestamp]) ∧
      (¬ addressed session → frames = [])
  | none => frames = []

theorem served_deliverLocal (consistent : manager.Consistent) (distinct : userIds.Nodup) (type : String) (data : Json)
    (clock : UserId → String) (conn : Conn) :
    Served manager conn (fun session => session.userId ∈ userIds) type data
      (framesTo conn (deliverLocal manager userIds type data clock)) := by
  rw [framesTo_deliverLocal consistent distinct, Served]
  cases manager.sessions.get conn with
  | none => rfl
  | some session => exact ⟨fun listed => ⟨_, if_pos listed⟩, fun unlisted => if_neg unlisted⟩

theorem served_deliverLocalToRoom (consistent : manager.Consistent) (conversationId : ConversationId) (type : String)
    (data : Json) (exclude : Option Conn) (timestamp : String) (conn : Conn) :
    Served manager conn
      (fun _ => conn ∈ manager.rooms.connectionsInRoom conversationId ∧ ¬ some conn = exclude) type data
      (framesTo conn (deliverLocalToRoom manager conversationId type data exclude timestamp)) := by
  have distinct : (manager.rooms.connectionsInRoom conversationId).Nodup := Multimap.nodup_values ..
  rw [deliverLocalToRoom, framesTo_sendToSessions consistent distinct, Served]
  cases manager.sessions.get conn with
  | none => simp
  | some session => exact ⟨fun joined => ⟨_, if_pos joined⟩, fun outside => if_neg outside⟩

/-- On any cluster of instances with distinct ids, in any order of the deliveries, a
fan-out reaches each connection it is for with exactly one frame in that connection's
version, reaches no other connection, and puts a single body on the bus. -/
theorem fanout_exactly_once (deployment : Deployment Node Conn)
    (ids : Function.Injective deployment.nodeId) (reachable : ∀ node, (deployment.managers node).Reachable)
    (fanout : Fanout Node Conn) (distinct : fanout.broadcast.Distinct) (order : List (Delivery Node))
    (each : (order.map Delivery.node).Nodup) (all : ∀ node, node ∈ order.map Delivery.node) :
    ∃ final, (step deployment).run (Cluster.idle.start deployment fanout) order = some final ∧
      final.published = [fanout.message (deployment.nodeId fanout.origin)] ∧
      ∀ node conn, Served (deployment.managers node) conn (fanout.addresses deployment node conn)
        fanout.type fanout.data (final.received node conn) := by
  have waiting : ∀ delivery ∈ order, (Cluster.idle.start deployment fanout).inbox delivery.node =
      [fanout.message (deployment.nodeId fanout.origin)] := fun delivery _ => by rw [start_idle]
  obtain ⟨final, runs, published, sent⟩ := run_deliveries deployment each waiting
  refine ⟨final, runs, by rw [published, start_idle], fun node conn => ?_⟩
  obtain ⟨delivery, member, rfl⟩ := List.mem_map.mp (all node)
  have consistent := (reachable delivery.node).consistent
  rw [received_final fanout each member sent]
  by_cases own : fanout.origin = delivery.node
  · rw [if_pos own, own]
    unfold Fanout.outcome Fanout.addresses
    cases broadcast : fanout.broadcast with
    | publish userIds =>
      rw [broadcast] at distinct
      exact served_deliverLocal consistent distinct ..
    | broadcastToRoom conversationId exclude =>
      simpa [own, broadcastToRoom] using served_deliverLocalToRoom consistent conversationId fanout.type
        fanout.data exclude fanout.timestamp conn
  -- The body does not carry the excluded connection, which is one of the publisher's.
  · have peer : delivery.node ≠ fanout.origin := Ne.symm own
    rw [if_neg own, sends_peer ids fanout peer]
    unfold Fanout.addresses
    cases broadcast : fanout.broadcast with
    | publish userIds =>
      rw [broadcast] at distinct
      exact served_deliverLocal consistent distinct ..
    | broadcastToRoom conversationId exclude =>
      simpa [peer] using served_deliverLocalToRoom consistent conversationId fanout.type fanout.data none
        delivery.timestamp conn

/-- Two instances: a version 1 and a version 2 connection of user 1 on the first, and
one of user 2 on the second. -/
def twoInstances : Deployment Bool Nat where
  nodeId := fun node => if node then "b" else "a"
  managers := fun node =>
    if node then ConnectionManager.empty.registerSession 0 2 "bob" .v1
    else (ConnectionManager.empty.registerSession 0 1 "alice" .v1).registerSession 1 1 "alice" .v2

/-- An event for both users: the second connection of user 1 receives it once, in version 2. -/
theorem fanout_exactly_once_twoInstances :
    ∃ final, (step twoInstances).run (Cluster.idle.start twoInstances
        ⟨false, .publish [1, 2], "message.created", .null, fun _ => "t0", "t0", none⟩)
        [⟨true, fun _ => "t1", "t1"⟩, ⟨false, fun _ => "t2", "t2"⟩] = some final ∧
      final.published.length = 1 ∧
      (∃ timestamp, final.received true 0 = [encode .v1 "message.created" .null {} timestamp]) ∧
      ∃ timestamp, final.received false 1 = [encode .v2 "message.created" .null {} timestamp] := by
  have reachable : ∀ node, (twoInstances.managers node).Reachable := by
    intro node
    cases node
    · exact .opened _ _ _ (.opened _ _ _ .empty rfl) (by decide)
    · exact .opened _ _ _ .empty rfl
  have ids : Function.Injective twoInstances.nodeId := by unfold Function.Injective; decide
  have distinct : ([1, 2] : List UserId).Nodup := by decide
  obtain ⟨final, runs, published, served⟩ := fanout_exactly_once twoInstances ids reachable
    ⟨false, .publish [1, 2], "message.created", .null, fun _ => "t0", "t0", none⟩ distinct
    [⟨true, fun _ => "t1", "t1"⟩, ⟨false, fun _ => "t2", "t2"⟩] (by decide) (by decide)
  exact ⟨final, runs, by rw [published]; rfl, (served true 0).1 (by decide : (2 : Int) ∈ [1, 2]),
    (served false 1).1 (by decide : (1 : Int) ∈ [1, 2])⟩

end Cluster

end RealtimeChat.Realtime
