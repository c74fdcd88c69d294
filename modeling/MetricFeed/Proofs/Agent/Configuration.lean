/-
MetricFeed/Proofs/Agent/Configuration.lean

Wiring up an agent.  A broker takes in a client whose settings name the broker and the client, and
loaded settings do (`Settings.exists_names`), as both have defaults.  So with the broker itself
behind the clients an agent is always wired up, and the broker has a connection or two more than
before, and nothing else has happened to it (`Agent.connect_brokerClients`).

With clients from anywhere, a failure of the producer is the end, whatever the administrative client
would do, and a failure of that client leaves the agent as it would be without a topic to provision
(`Session.wire_of_no_producer`, `Session.wire_of_no_admin`).

Main result (`Session.wire_configures`): accepted settings always configure an agent.
-/
import MetricFeed.Proofs.Settings.Faithful
import MetricFeed.Rehearsal.Hosting

namespace MetricFeed

/-! ### What the settings ask for -/

/-- Whether the settings ask for a topic to be provisioned, in a shape that a topic can have. -/
def Settings.wantsTopic (s : Settings) : Bool :=
  s.topic.autoCreate && decide (0 < s.topic.partitions.toInt) &&
    decide (0 < s.topic.replication.toInt)

theorem Settings.wantsTopic_iff {s : Settings} :
    s.wantsTopic = true ↔ s.topic.autoCreate = true ∧ 0 < s.topic.partitions.toInt ∧
      0 < s.topic.replication.toInt := by
  simp only [wantsTopic, Bool.and_eq_true, decide_eq_true_eq, and_assoc]

/-- The connections that the settings lead to, in the order in which they are made: one for the
producer and, if there is a topic to provision, one for the administrative client.  Both are built
from the same properties. -/
def Settings.connections (s : Settings) (clientId : String) : List Connection :=
  ⟨.producer, clientId, s.producer.properties⟩ ::
    if s.wantsTopic then [⟨.admin, clientId, s.producer.properties⟩] else []

/-- Loaded settings name the broker and the client. -/
theorem Settings.exists_names {l : Lookup} {s : Settings} (h : Settings.load l = .ok s) :
    ∃ servers clientId, s.producer.get? ProducerSettings.bootstrapServers = some servers ∧
      s.producer.get? ProducerSettings.clientId = some clientId := by
  obtain ⟨-, -, hproducer, -⟩ := Settings.parts_of_load h
  obtain ⟨port, -, hheld⟩ := (ProducerSettings.faithful_of_load hproducer []).texts
  rw [ProducerSettings.fillIn_nil] at hheld
  have hservers := hheld (ProducerSettings.bootstrapServers, "localhost:" ++ toString port)
    (by simp [ProducerSettings.documented])
  have hclientId := hheld (ProducerSettings.clientId, "metrics-reporter")
    (by simp [ProducerSettings.documented])
  exact ⟨_, _, hservers, hclientId⟩

/-! ### Connections to the broker -/

namespace Rehearsal.World

/-- The world in which the broker has taken in one more client. -/
def connected (kind : ClientKind) (clientId : String) (settings : ProducerSettings) (w : World) :
    World :=
  { w with
    broker := { w.broker with
      connections := w.broker.connections.push ⟨kind, clientId, settings.properties⟩ } }.note
    (.clientConnected kind clientId)

variable {settings : ProducerSettings} {servers clientId : String}

theorem connected_broker (kind : ClientKind) (clientId : String) (settings : ProducerSettings)
    (w : World) :
    (w.connected kind clientId settings).broker = { w.broker with
      connections := w.broker.connections ++ [⟨kind, clientId, settings.properties⟩].toArray } := by
  show { w.broker with
    connections := w.broker.connections.push ⟨kind, clientId, settings.properties⟩ } = _
  rw [Array.push_eq_append]

/-- The broker takes in a client whose settings name the broker and the client. -/
theorem reachConnect_of_names
    (hservers : settings.get? ProducerSettings.bootstrapServers = some servers)
    (hclientId : settings.get? ProducerSettings.clientId = some clientId) (kind : ClientKind)
    (w : World) :
    w.reachConnect kind settings = (.ok (), w.connected kind clientId settings) := by
  simp only [reachConnect, Broker.connect, hservers, hclientId]
  rfl

theorem brokerClients_producer
    (hservers : settings.get? ProducerSettings.bootstrapServers = some servers)
    (hclientId : settings.get? ProducerSettings.clientId = some clientId) (w : World) :
    brokerClients.producer settings w = (.ok (), w.connected .producer clientId settings) := by
  show w.connectProducer settings = _
  rw [connectProducer, reachConnect_of_names hservers hclientId]
  rfl

theorem brokerClients_admin
    (hservers : settings.get? ProducerSettings.bootstrapServers = some servers)
    (hclientId : settings.get? ProducerSettings.clientId = some clientId) (w : World) :
    brokerClients.admin settings w = (.ok (), w.connected .admin clientId settings) := by
  show w.connectAdmin settings = _
  rw [connectAdmin, reachConnect_of_names hservers hclientId]
  rfl

end Rehearsal.World

/-! ### Getting the clients -/

namespace Agent

variable {S : Type} {factory : ClientFactory S} {note : Notice → S → S} {settings : Settings}
  {s s' : S}

/-- Without a producer, the administrative client is not asked for. -/
theorem connect_of_no_producer {fault : PublishFault}
    (h : factory.producer settings.producer s = (.error fault, s')) :
    connect factory note settings s = (.error fault, s') := by
  rw [connect, h]

/-- With a producer, the rest is a matter of what can be provisioned. -/
theorem connect_of_producer (h : factory.producer settings.producer s = (.ok (), s')) :
    connect factory note settings s =
      (.ok (provisionable factory note settings s').1,
        (provisionable factory note settings s').2) := by
  rw [connect, h]

/-- The shape that settings ask for, if they do. -/
theorem exists_spec_of_wantsTopic (h : settings.wantsTopic = true) :
    ∃ spec, settings.topic.spec = .ok spec := by
  obtain ⟨-, hcounts⟩ := Settings.wantsTopic_iff.mp h
  exact ⟨_, dif_pos hcounts⟩

/-- With an administrative client, the topic will be provisioned. -/
theorem provisionable_of_admin {spec : TopicSpec} (h : settings.wantsTopic = true)
    (hspec : settings.topic.spec = .ok spec)
    (hadmin : factory.admin settings.producer s = (.ok (), s')) :
    provisionable factory note settings s = (some spec, s') := by
  obtain ⟨hauto, -⟩ := Settings.wantsTopic_iff.mp h
  rw [provisionable, if_pos hauto, hspec]
  dsimp only
  rw [hadmin]

/-- Without one, a line in the log says why it will not. -/
theorem provisionable_of_no_admin {fault : AdminFault} (h : settings.wantsTopic = true)
    (hadmin : factory.admin settings.producer s = (.error fault, s')) :
    provisionable factory note settings s =
      (none, note (.provisioningDisabledByClient fault) s') := by
  obtain ⟨hauto, -⟩ := Settings.wantsTopic_iff.mp h
  obtain ⟨spec, hspec⟩ := exists_spec_of_wantsTopic h
  rw [provisionable, if_pos hauto, hspec]
  dsimp only
  rw [hadmin]

/-- If the settings do not ask for a topic, the administrative client is not asked for, and at most
a line in the log says so. -/
theorem provisionable_of_not_wantsTopic (h : ¬settings.wantsTopic = true) :
    provisionable factory note settings s = (none, s) ∨
      ∃ fault, provisionable factory note settings s =
        (none, note (.provisioningDisabledBySettings fault) s) := by
  unfold provisionable
  by_cases hauto : settings.topic.autoCreate = true
  · have hcounts := fun hcounts => h (Settings.wantsTopic_iff.mpr ⟨hauto, hcounts⟩)
    have hspec : settings.topic.spec =
        .error (.invalidTopicShape settings.topic.partitions settings.topic.replication) :=
      dif_neg hcounts
    rw [if_pos hauto, hspec]
    exact .inr ⟨_, rfl⟩
  · rw [if_neg hauto]
    exact .inl rfl

/-- With the broker itself behind the clients, both are to be had; all that happens to the broker is
that it takes them in. -/
theorem connect_brokerClients {servers clientId : String} (w : Rehearsal.World)
    (hservers : settings.producer.get? ProducerSettings.bootstrapServers = some servers)
    (hclientId : settings.producer.get? ProducerSettings.clientId = some clientId) :
    ∃ spec? w',
      connect Rehearsal.World.brokerClients Rehearsal.World.note settings w = (.ok spec?, w') ∧
      spec?.isSome = settings.wantsTopic ∧
      w'.broker = { w.broker with
        connections := w.broker.connections ++ (settings.connections clientId).toArray } := by
  have hproducer := Rehearsal.World.brokerClients_producer hservers hclientId w
  have hconnect : connect Rehearsal.World.brokerClients Rehearsal.World.note settings w = _ :=
    connect_of_producer hproducer
  by_cases hwants : settings.wantsTopic = true
  · obtain ⟨spec, hspec⟩ := exists_spec_of_wantsTopic hwants
    have hadmin := Rehearsal.World.brokerClients_admin hservers hclientId
      (w.connected .producer clientId settings.producer)
    rw [provisionable_of_admin hwants hspec hadmin] at hconnect
    refine ⟨some spec, _, hconnect, hwants.symm, ?_⟩
    rw [Settings.connections, if_pos hwants, Rehearsal.World.connected_broker,
      Rehearsal.World.connected_broker, Array.append_assoc, List.append_toArray]
    rfl
  · have hbroker : (w.connected .producer clientId settings.producer).broker = { w.broker with
        connections := w.broker.connections ++ (settings.connections clientId).toArray } := by
      rw [Settings.connections, if_neg hwants, Rehearsal.World.connected_broker]
    have hnone := (Bool.eq_false_iff.mpr hwants).symm
    -- a line in the log does not concern the broker
    rcases provisionable_of_not_wantsTopic hwants with hskip | ⟨fault, hskip⟩
    · rw [hskip] at hconnect
      exact ⟨none, _, hconnect, hnone, hbroker⟩
    · rw [hskip] at hconnect
      exact ⟨none, _, hconnect, hnone, hbroker⟩

end Agent

/-! ### Wiring up -/

namespace Rehearsal.Session

/-- The world of the session. -/
def world (s : Session) : World := s.scheduler.state

/-- The session with another world. -/
def setWorld (w : World) (s : Session) : Session :=
  { s with scheduler := s.scheduler.modify fun _ => w }

variable {factory : ClientFactory World} {r : AgentRequest} {settings : Settings} {s : Session}
  {w : World}

/-- An agent is wired up, whether or not it will provision the topic. -/
def wired (r : AgentRequest) (settings : Settings) (spec? : Option TopicSpec) (s : Session) :
    Except PublishFault (Agent World Handle) × Session :=
  let (agent, s) := assemble r settings spec? s
  (.ok agent, s)

theorem bind_apply {α β : Type} (x : Turn α) (f : α → Turn β) (s : Session) :
    (x >>= f) s = f (x s).1 (x s).2 := rfl

theorem ask_apply {α : Type} (f : World → α × World) (s : Session) :
    ask f s = ((f s.world).1, s.setWorld (f s.world).2) := rfl

/-- Without clients there is no agent. -/
theorem wire_of_error {fault : PublishFault}
    (h : Agent.connect factory World.note settings s.world = (.error fault, w)) :
    wire factory r settings s = (.error fault, s.setWorld w) := by
  rw [wire, bind_apply, ask_apply, h]
  rfl

theorem wire_of_ok {spec? : Option TopicSpec}
    (h : Agent.connect factory World.note settings s.world = (.ok spec?, w)) :
    wire factory r settings s = wired r settings spec? (s.setWorld w) := by
  rw [wire, bind_apply, ask_apply, h]
  rfl

/-- **Accepted settings always configure an agent.**  With the broker itself behind the clients, the
agent will provision the topic exactly if the settings ask for it, and the broker has taken in the
clients and is otherwise unchanged.  With clients from anywhere, there is no agent without a
producer, and the administrative client is not asked for; without an administrative client there is
an agent all the same, which has nothing to provision. -/
theorem wire_configures {l : Lookup} (h : Settings.load l = .ok settings) (r : AgentRequest)
    (s : Session) :
    (∃ clientId agent s', wire World.brokerClients r settings s = (.ok agent, s') ∧
      agent.settings = settings ∧ agent.willProvision = settings.wantsTopic ∧
      settings.producer.get? ProducerSettings.clientId = some clientId ∧
      s'.world.broker = { s.world.broker with
        connections := s.world.broker.connections ++ (settings.connections clientId).toArray }) ∧
    (∀ (factory : ClientFactory World) fault w,
      factory.producer settings.producer s.world = (.error fault, w) →
        ∀ admin, wire { factory with admin } r settings s = (.error fault, s.setWorld w)) ∧
    (∀ (factory : ClientFactory World) w,
      factory.producer settings.producer s.world = (.ok (), w) → settings.wantsTopic = true →
        ∃ spec, settings.topic.spec = .ok spec ∧
          (∀ w', factory.admin settings.producer w = (.ok (), w') →
            wire factory r settings s = wired r settings (some spec) (s.setWorld w')) ∧
          ∀ fault w', factory.admin settings.producer w = (.error fault, w') →
            wire factory r settings s = wired r settings none
              (s.setWorld (w'.note (.provisioningDisabledByClient fault)))) := by
  obtain ⟨servers, clientId, hservers, hclientId⟩ := Settings.exists_names h
  refine ⟨?_, fun factory fault w hproducer admin => ?_, fun factory w hproducer hwants => ?_⟩
  · obtain ⟨spec?, w', hconnect, hspec, hbroker⟩ :=
      Agent.connect_brokerClients s.world hservers hclientId
    exact ⟨clientId, _, _, wire_of_ok hconnect, rfl, hspec, hclientId, hbroker⟩
  · exact wire_of_error (Agent.connect_of_no_producer hproducer)
  · obtain ⟨spec, hspec⟩ := Agent.exists_spec_of_wantsTopic hwants
    have hconnect : Agent.connect factory World.note settings s.world = _ :=
      Agent.connect_of_producer hproducer
    refine ⟨spec, hspec, fun w' hadmin => wire_of_ok ?_, fun fault w' hadmin => wire_of_ok ?_⟩
    · rw [hconnect, Agent.provisionable_of_admin hwants hspec hadmin]
    · rw [hconnect, Agent.provisionable_of_no_admin hwants hadmin]

/-- Settings that ask for a topic. -/
def provisioning : TextMap :=
  .ofList [("node.id", "1"), ("metrics.topic.auto.create", "true"),
    ("metrics.topic.num.partitions", "3"), ("metrics.topic.replication.factor", "1")]

/-- An agent of these settings and nothing else. -/
def provisioningAgent : AgentRequest :=
  { properties := provisioning, originMs := 0, interest := .inGroups [], brokerGroups := [] }

/-- The broker behind the producer, and no administrative client to be had. -/
def unadministered : ClientFactory World :=
  { World.brokerClients with admin := fun _ w => (.error (.network "down"), w) }

/-- The broker behind the administrative client, and no producer to be had. -/
def unproducing : ClientFactory World :=
  { World.brokerClients with producer := fun _ w => (.error .closed, w) }

/-- An agent with both clients, one without the administrative client, none without a producer. -/
theorem wire_configures_of_provisioning :
    ∃ settings, Settings.load (.ofMap provisioning) = .ok settings ∧ settings.wantsTopic = true ∧
      (∃ agent s', wire World.brokerClients provisioningAgent settings {} = (.ok agent, s') ∧
        agent.willProvision = true ∧ s'.world.broker.connections.size = 2) ∧
      (∃ agent s', wire unadministered provisioningAgent settings {} = (.ok agent, s') ∧
        agent.willProvision = false) ∧
      (wire unproducing provisioningAgent settings {}).1 = .error .closed := by
  have hload : (Settings.load (.ofMap provisioning)).toOption.any (·.wantsTopic) = true := by
    decide +kernel
  cases hsettings : Settings.load (.ofMap provisioning) with
  | error fault =>
    rw [hsettings] at hload
    cases hload
  | ok settings =>
    rw [hsettings] at hload
    have hwants : settings.wantsTopic = true := hload
    obtain ⟨⟨clientId, agent, s', hwire, -, hprovision, -, hbroker⟩, hproducer, hadmin⟩ :=
      wire_configures hsettings provisioningAgent {}
    have hconnections : s'.world.broker.connections.size = 2 := by
      rw [hbroker, Settings.connections, if_pos hwants]
      rfl
    obtain ⟨servers, clientId, hservers, hclientId⟩ := Settings.exists_names hsettings
    obtain ⟨spec, -, -, hfailed⟩ := hadmin unadministered _
      (World.brokerClients_producer hservers hclientId _) hwants
    have hunadministered := hfailed (.network "down") _ rfl
    have hunproducing := hproducer unproducing .closed _ rfl unproducing.admin
    exact ⟨settings, rfl, hwants, ⟨agent, s', hwire, hprovision.trans hwants, hconnections⟩,
      ⟨_, _, hunadministered, rfl⟩, congrArg Prod.fst hunproducing⟩

end Rehearsal.Session

end MetricFeed
