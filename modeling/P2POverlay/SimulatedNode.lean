/-
**A simulated node never sends a message and never leaves** (`SimulatedNode`).

A `SimulatedNode` owns one node's components: `Node`, `NetworkManager`, `TopologyManager`,
`MessageHandler`, `NodeDiscovery`, `NodeRegistration` and `DynamicNodeManager`, all built on the
same node and the same topology, and a thread.  What can happen to it is one of: its public calls
`start`, `stop`, `joinNetwork` and `leaveNetwork`; a pass of its thread's loop while it runs,
which sends heartbeats every `HEARTBEAT_INTERVAL_SEC` and calls `maintainNetworkIntegrity` every
60 s; a connection its server accepts while it runs, whose message goes to `processMessage`; and
an operation on its shared components from outside, through `getDynamicNodeManager()` (the
program's one such call is `testNetworkIntegrity`'s `maintainNetworkIntegrity`).  These steps
interleave in any order.  A step takes what the network answered during it: which addresses
accept a TCP connection, and what the stack arrays of `sendMessageToPeer` held.

Every call the components make on the shared `NetworkManager` is one of its operations, so the
manager stays as constructed, without a connection: nothing is ever written on a socket.
`running_` and the server's `serverRunning_` change together.  No membership record is ever of
ID `0` or of the local node, and the topology keeps its invariant.  Two consequences hold on every
reachable state: `leaveNetwork` changes nothing, since each leave notification is refused by the
transport and the removal of the local node by the membership registry; and `stop` does nothing
but clear the two flags.

Main definitions:

* `P2POverlay.SimulatedNode`, `P2POverlay.SimulatedNode.new` — the components, and the state the
  constructor leaves;
* `P2POverlay.SimulatedNode.start`, `stop`, `joinNetwork`, `leaveNetwork`, `tick`, `serve`,
  `call` — the steps, with `OverlayEvent.transportOp` the call on the transport each event of
  the shared components stands for;
* `P2POverlay.SimOp`, `P2POverlay.simRun` — runs.

Main results:

* `P2POverlay.SimulatedNode.Inv.step` — every step keeps the invariant `SimulatedNode.Inv`;
* `P2POverlay.simRun_inv` — **on every state a run reaches from the constructor, the transport
  holds no connection and has counted no message, the server runs exactly while the node does, no
  membership record is of ID `0` or of the local node, and the topology satisfies its
  invariant**;
* `P2POverlay.simRun_leaveNetwork` — **on every such state `leaveNetwork` changes nothing, and
  `stop` only clears `running_` and `serverRunning_`**.

## Boundary

Each step is one call, atomic with respect to the others; the components' own locks make the
calls modelled here atomic except for the interleaving of `handleLeaveNotification` with
`ensureConnectivity` that `RosterRace` studies.  `stop()` is one step, so a pass of the thread's
loop that began before it cleared `running_` is taken as done before it.  The clocks are
arguments of the steps, with no assumption on how they advance.
-/

import P2POverlay.LocalNode
import P2POverlay.NodeDiscovery

set_option relaxedAutoImplicit false
set_option autoImplicit false

namespace P2POverlay

/-- What the network and the machine answered during one step: which addresses accept a TCP
connection, and what the stack array of `sendMessageToPeer` held on the call for each peer. -/
structure Env where
  connect : NetworkAddress → Bool
  header : NodeID → HeaderBuffer

/-- The call on `NetworkManager` an event of the overlay stands for, with `peerIDs` the roster a
broadcast reads and `header` the stack bytes by peer; `none` for a user callback. -/
def OverlayEvent.transportOp (peerIDs : List NodeID) (header : NodeID → HeaderBuffer) :
    OverlayEvent → Option TransportOp
  | .sendMessageToPeer peerID message => some (.sendMessageToPeer peerID message.toWire (header peerID))
  | .broadcastMessage message excludeID =>
      some (.broadcastMessage peerIDs message.toWire excludeID header)
  | .connectToPeer address => some (.connectToPeer address)
  | .disconnectFromPeer peerID => some (.disconnectFromPeer peerID)
  | .nodeAdded .. | .nodeRemoved _ | .nodeFailed _ | .networkRepaired => none

/-- The calls on the transport that the events an operation appended to those of `o`, leaving
`o'`, stand for; a broadcast reads the roster as the operation left it, since
`handleLeaveNotification` broadcasts last. -/
def Overlay.transportCalls (o o' : Overlay) (header : NodeID → HeaderBuffer) : List TransportOp :=
  (o'.events.drop o.events.length).filterMap (OverlayEvent.transportOp o'.node.peerIDs header)

namespace NetworkManager

/-- `startServer(port)` on `serverRunning_`: refused while the server runs; otherwise the server
runs when the listening socket could be bound (`bindOk`).  The answer, and `serverRunning_`
after. -/
def startServer (serverRunning bindOk : Bool) : Bool × Bool :=
  if serverRunning then (false, true) else (bindOk, bindOk)

/-- `stopServer()` on `serverRunning_`: a running server is stopped (`tcpServer_` is set whenever
`serverRunning_` is). -/
def stopServer (serverRunning : Bool) : Bool :=
  if serverRunning then false else serverRunning

/-- After `stopServer` the server never runs. -/
@[simp] theorem stopServer_eq_false (serverRunning : Bool) : stopServer serverRunning = false := by
  cases serverRunning <;> rfl

end NetworkManager

/-- `SimulatedNode`: `nodeID_`, `address_` and `running_`; the `serverRunning_` of its
`NetworkManager` beside the manager's connections; the `registrationStatus_` of its
`NodeRegistration`; its `NodeDiscovery`; the components `MessageHandler` and `DynamicNodeManager`
share; and the two time points of its thread's loop, in seconds of the steady clock.  The rest of
`NodeRegistration` is read and written by no call a simulated node makes. -/
structure SimulatedNode where
  nodeID : NodeID
  address : NetworkAddress
  running : Bool
  serverRunning : Bool
  networkManager : NetworkManager
  registrationStatus : RegistrationStatus
  nodeDiscovery : NodeDiscovery
  overlay : Overlay
  lastHeartbeat : Nat
  lastMaintenance : Nat

namespace SimulatedNode

/-- `SimulatedNode(id, port)` at second `now`, where `Poco::Net::DNS::hostName()` gave
`hostname` (or threw, and `hostname` is "localhost"): fresh components on one node and one
topology, and the local node registered with the topology by `TopologyManager::addNode`.  The
message callback is `processMessage`. -/
def new (id : NodeID) (port : Port) (hostname : String) (now : Nat) : SimulatedNode where
  nodeID := id
  address := ⟨hostname, port⟩
  running := false
  serverRunning := false
  networkManager := .new
  registrationStatus := .pending
  nodeDiscovery := .new
  overlay := { Overlay.new (Node.new id ⟨hostname, port⟩ now) with
    topology := ((TopologyManager.new id).addNode id ⟨hostname, port⟩).2 }
  lastHeartbeat := 0
  lastMaintenance := 0

/-! ### The steps -/

/-- The state after an operation of the shared components took the overlay to `o`: its calls on
the transport, made in order on `NetworkManager`. -/
def withOverlay (s : SimulatedNode) (env : Env) (o : Overlay) : SimulatedNode :=
  { s with
    overlay := o
    networkManager := (transportRun env.connect s.networkManager
      (s.overlay.transportCalls o env.header)).2 }

/-- A message to each peer, built by `message` from the peer's ID. -/
def sendToPeers (s : SimulatedNode) (env : Env) (message : NodeID → Message) : SimulatedNode :=
  let sends := s.overlay.node.peerIDs.map fun peerID =>
    TransportOp.sendMessageToPeer peerID (message peerID).toWire (env.header peerID)
  { s with networkManager := (transportRun env.connect s.networkManager sends).2 }

/-- `start()` at second `steady` of the steady clock; `bindOk` says whether the listening socket
could be bound.  Refused while running and when `startServer` fails; otherwise the node runs, and
its thread starts with both time points at `steady`. -/
def start (s : SimulatedNode) (bindOk : Bool) (steady : Nat) : Bool × SimulatedNode :=
  if s.running then (false, s)
  else
    let server := NetworkManager.startServer s.serverRunning bindOk
    let s := { s with serverRunning := server.2 }
    if server.1 then
      (true, { s with running := true, lastHeartbeat := steady, lastMaintenance := steady })
    else (false, s)

/-- `leaveNetwork()` at second `now`: a `LEAVE_NOTIFICATION` to each peer, then
`dynamicNodeManager_->removeNode(nodeID_, true)`. -/
def leaveNetwork (s : SimulatedNode) (env : Env) (now : Nat) : SimulatedNode :=
  let s := s.sendToPeers env fun peerID =>
    createLeaveNotification s.overlay.node.nodeID peerID (Overlay.timestampAt now)
  s.withOverlay env (s.overlay.removeNode env.connect s.nodeID true).2

/-- `stop()` at second `now`: nothing unless running; otherwise `running_` is cleared, the node
leaves the network, the server stops, and the thread is joined. -/
def stop (s : SimulatedNode) (env : Env) (now : Nat) : SimulatedNode :=
  if s.running then
    let s := { s with running := false }.leaveNetwork env now
    { s with serverRunning := NetworkManager.stopServer s.serverRunning }
  else s

/-- `joinNetwork(bootstrapAddress)` at second `now`: nothing to do for port `0`; otherwise
`discoverNetwork({bootstrapAddress})`, and if it succeeded `registerWithNetwork`. -/
def joinNetwork (s : SimulatedNode) (env : Env) (bootstrapAddress : NetworkAddress) (now : Nat) :
    Bool × SimulatedNode :=
  if bootstrapAddress.port = 0 then (true, s)
  else
    let d := s.nodeDiscovery.discoverNetwork s.overlay.node s.overlay.topology s.networkManager
      [bootstrapAddress] now env.connect
    let s := { s with nodeDiscovery := d.2.1, networkManager := d.2.2 }
    if d.1 then
      let r := NodeRegistration.registerWithNetwork s.overlay s.networkManager bootstrapAddress
        env.connect
      (r.1, { s with registrationStatus := r.2.1, overlay := r.2.2.1, networkManager := r.2.2.2 })
    else (false, s)

/-- The first block of a pass of the loop of `nodeThreadFunction`, at second `steady` of the
steady clock and second `now` of the system clock: a `HEARTBEAT` to each peer once
`HEARTBEAT_INTERVAL_SEC` have passed since the last. -/
def sendHeartbeats (s : SimulatedNode) (env : Env) (steady now : Nat) : SimulatedNode :=
  if heartbeatIntervalSec ≤ steady - s.lastHeartbeat then
    { s.sendToPeers env (fun peerID =>
        createHeartbeat s.overlay.node.nodeID peerID (Overlay.timestampAt now)) with
      lastHeartbeat := steady }
  else s

/-- The second block: `maintainNetworkIntegrity` once 60 s have passed since the last. -/
def networkMaintenance (s : SimulatedNode) (env : Env) (steady now : Nat) : SimulatedNode :=
  if 60 ≤ steady - s.lastMaintenance then
    { s.withOverlay env (s.overlay.maintainNetworkIntegrity env.connect now).2 with
      lastMaintenance := steady }
  else s

/-- A pass of the loop of `nodeThreadFunction`; the loop has ended once the node stopped. -/
def tick (s : SimulatedNode) (env : Env) (steady now : Nat) : SimulatedNode :=
  if s.running then (s.sendHeartbeats env steady now).networkMaintenance env steady now else s

/-- A connection the server accepts, at second `now`: `PeerConnectionHandler::run` on the
segments that arrive, with `header` what its stack array held, and `processMessage` on the
message it passes on.  A type byte without a handler is dropped; a handler that throws ends the
connection's thread before any change.  No connection is accepted while the server is down. -/
def serve (s : SimulatedNode) (env : Env) (header : HeaderBuffer) (segments : List Bytes)
    (now : Nat) : SimulatedNode :=
  if s.serverRunning then
    match (PeerConnectionHandler.run header segments).bind WireMessage.toMessage? with
    | some message =>
        match s.overlay.processMessage message now with
        | some o => s.withOverlay env o
        | none => s
    | none => s
  else s

/-- An operation on the shared components from outside: through `getDynamicNodeManager()`, as
`testNetworkIntegrity` calls `maintainNetworkIntegrity`, or `processMessage`.  One that throws
changes nothing. -/
def call (s : SimulatedNode) (env : Env) (op : OverlayOp) : SimulatedNode :=
  match s.overlay.step env.connect op with
  | some o => s.withOverlay env o
  | none => s

end SimulatedNode

/-- What happens next on a simulated node. -/
inductive SimOp where
  | start (bindOk : Bool) (steady : Nat)
  | stop (now : Nat)
  | joinNetwork (bootstrapAddress : NetworkAddress) (now : Nat)
  | leaveNetwork (now : Nat)
  | tick (steady now : Nat)
  | serve (header : HeaderBuffer) (segments : List Bytes) (now : Nat)
  | call (op : OverlayOp)

/-- One step, with what the network answered during it. -/
def SimulatedNode.step (s : SimulatedNode) (env : Env) : SimOp → SimulatedNode
  | .start bindOk steady => (s.start bindOk steady).2
  | .stop now => s.stop env now
  | .joinNetwork bootstrapAddress now => (s.joinNetwork env bootstrapAddress now).2
  | .leaveNetwork now => s.leaveNetwork env now
  | .tick steady now => s.tick env steady now
  | .serve header segments now => s.serve env header segments now
  | .call op => s.call env op

/-- A run of steps from `s`. -/
def simRun (s : SimulatedNode) (ops : List (Env × SimOp)) : SimulatedNode :=
  ops.foldl (fun s op => s.step op.1 op.2) s

namespace SimulatedNode

/-! ### The node's ID -/

/-- No step changes `nodeID_`. -/
theorem step_nodeID (s : SimulatedNode) (env : Env) (op : SimOp) : (s.step env op).nodeID = s.nodeID := by
  cases op <;> dsimp only [step]
  case leaveNetwork => rfl
  case serve =>
    unfold serve
    split_ifs
    · split
      · split <;> rfl
      · rfl
    · rfl
  case call => unfold call; split <;> rfl
  all_goals
    simp only [start, stop, joinNetwork, tick, sendHeartbeats, networkMaintenance]
    split_ifs <;> rfl

theorem simRun_nodeID : ∀ (ops : List (Env × SimOp)) (s : SimulatedNode),
    (P2POverlay.simRun s ops).nodeID = s.nodeID
  | [], _ => rfl
  | op :: ops, s => (simRun_nodeID ops (s.step op.1 op.2)).trans (step_nodeID s op.1 op.2)

/-! ### The invariant -/

/-- What holds on every state a run reaches from the constructor. -/
structure Inv (s : SimulatedNode) : Prop where
  networkManager_eq : s.networkManager = .new
  serverRunning_eq : s.serverRunning = s.running
  nodeID_eq : s.overlay.node.nodeID = s.nodeID
  recordIDsValid : s.overlay.RecordIDsValid
  topology_inv : s.overlay.topology.Inv

theorem Inv.new (id : NodeID) (port : Port) (hostname : String) (now : Nat) :
    (new id port hostname now).Inv where
  networkManager_eq := rfl
  serverRunning_eq := rfl
  nodeID_eq := rfl
  recordIDsValid k hk := absurd hk (StdMap.not_mem_empty k)
  topology_inv := (TopologyManager.Inv.new id).addNode id _

variable {s : SimulatedNode} {env : Env}

/-- An operation of the shared components keeps the invariant. -/
theorem Inv.withOverlay (hs : s.Inv) (op : OverlayOp) {o : Overlay}
    (h : s.overlay.step env.connect op = some o) : (s.withOverlay env o).Inv where
  networkManager_eq := by
    simp only [SimulatedNode.withOverlay, hs.networkManager_eq, transportRun_snd_new]
  serverRunning_eq := hs.serverRunning_eq
  nodeID_eq := (Overlay.step_nodeID env.connect h).trans hs.nodeID_eq
  recordIDsValid := Overlay.step_recordIDsValid env.connect h hs.recordIDsValid
  topology_inv := (Overlay.step_topology env.connect h).inv hs.topology_inv

theorem Inv.sendToPeers (hs : s.Inv) (message : NodeID → Message) :
    (s.sendToPeers env message).Inv :=
  { hs with
    networkManager_eq := by
      simp only [SimulatedNode.sendToPeers, hs.networkManager_eq, transportRun_snd_new] }

/-- `leaveNetwork` changes nothing on a node whose transport holds no connection and whose
membership registry has no record of the local node: every leave notification is refused, and so
is the removal of the local node. -/
theorem leaveNetwork_of_idle (hnm : s.networkManager = .new) (hid : s.overlay.node.nodeID = s.nodeID)
    (hrec : s.overlay.RecordIDsValid) (now : Nat) : s.leaveNetwork env now = s := by
  have hremove : s.overlay.removeNode env.connect s.nodeID true = (false, s.overlay) := by
    rw [← hid]
    exact Overlay.removeNode_self env.connect hrec true
  simp only [SimulatedNode.leaveNetwork, SimulatedNode.sendToPeers, SimulatedNode.withOverlay,
    Overlay.transportCalls, hremove, hnm, transportRun_snd_new, List.drop_length, List.filterMap_nil]
  rw [← hnm]

theorem Inv.stop_eq (hs : s.Inv) (now : Nat) :
    s.stop env now = { s with running := false, serverRunning := false } := by
  have hserver := hs.serverRunning_eq
  unfold SimulatedNode.stop
  split_ifs with hrun
  · rw [leaveNetwork_of_idle (s := { s with running := false }) hs.networkManager_eq hs.nodeID_eq
      hs.recordIDsValid]
    simp [NetworkManager.stopServer, hserver, hrun]
  · cases s
    simp_all

/-! ### Each step keeps the invariant -/

theorem Inv.start (hs : s.Inv) (bindOk : Bool) (steady : Nat) : (s.start bindOk steady).2.Inv := by
  unfold SimulatedNode.start
  split_ifs with hrun
  · exact hs
  · have hserver : s.serverRunning = false := hs.serverRunning_eq.trans (by simpa using hrun)
    simp only [NetworkManager.startServer, hserver]
    cases bindOk
    · exact { hs with serverRunning_eq := by simpa using hrun }
    · exact { hs with serverRunning_eq := rfl }

theorem Inv.joinNetwork (hs : s.Inv) (bootstrapAddress : NetworkAddress) (now : Nat) :
    (s.joinNetwork env bootstrapAddress now).2.Inv := by
  obtain ⟨hnm, hnode, hreg, htop⟩ := NodeRegistration.registerWithNetwork_components s.overlay
    s.networkManager bootstrapAddress env.connect
  unfold SimulatedNode.joinNetwork
  simp only [NodeDiscovery.discoverNetwork_networkManager]
  split_ifs
  · exact hs
  · exact { networkManager_eq := hnm.trans hs.networkManager_eq
            serverRunning_eq := hs.serverRunning_eq
            nodeID_eq := (congrArg Node.nodeID hnode).trans hs.nodeID_eq
            recordIDsValid := fun k hk => hnode ▸ hs.recordIDsValid k (hreg ▸ hk)
            topology_inv := htop.inv hs.topology_inv }
  · exact { hs with }

theorem Inv.tick (hs : s.Inv) (steady now : Nat) : (s.tick env steady now).Inv := by
  have hbeat : (s.sendHeartbeats env steady now).Inv := by
    unfold SimulatedNode.sendHeartbeats
    split_ifs
    · exact { hs.sendToPeers _ with }
    · exact hs
  unfold SimulatedNode.tick SimulatedNode.networkMaintenance
  split_ifs
  · have h := @Inv.withOverlay _ env hbeat (.maintainNetworkIntegrity now) _ rfl
    exact { h with }
  · exact hbeat
  · exact hs

theorem Inv.serve (hs : s.Inv) (header : HeaderBuffer) (segments : List Bytes) (now : Nat) :
    (s.serve env header segments now).Inv := by
  unfold SimulatedNode.serve
  split_ifs
  · split
    · split
      · exact hs.withOverlay (.processMessage _ now) ‹_›
      · exact hs
    · exact hs
  · exact hs

theorem Inv.call (hs : s.Inv) (op : OverlayOp) : (s.call env op).Inv := by
  unfold SimulatedNode.call
  split
  · exact hs.withOverlay op ‹_›
  · exact hs

/-- The step lemma: every step keeps the invariant. -/
theorem Inv.step (hs : s.Inv) (env : Env) : ∀ op : SimOp, (s.step env op).Inv
  | .start bindOk steady => hs.start bindOk steady
  | .stop now => by rw [SimulatedNode.step, hs.stop_eq]; exact { hs with serverRunning_eq := rfl }
  | .joinNetwork bootstrapAddress now => hs.joinNetwork bootstrapAddress now
  | .leaveNetwork now => by
      rw [SimulatedNode.step, leaveNetwork_of_idle hs.networkManager_eq hs.nodeID_eq
        hs.recordIDsValid]
      exact hs
  | .tick steady now => hs.tick steady now
  | .serve header segments now => hs.serve header segments now
  | .call op => hs.call op

/-- The run lemma. -/
theorem Inv.simRun : ∀ (ops : List (Env × SimOp)) {s : SimulatedNode}, s.Inv →
    (P2POverlay.simRun s ops).Inv
  | [], _, hs => hs
  | op :: ops, _, hs => Inv.simRun ops (hs.step op.1 op.2)

end SimulatedNode

/-- **A simulated node never holds a connection, and never has a record of itself.**  On every
state that any interleaving of its steps reaches from the constructor (its public calls, the
passes of its thread, the connections its server accepts, and operations on its shared
components), the `NetworkManager` is as constructed: no connection, so every message it is asked
to send is dropped without a byte written, and no message counted.  The server runs exactly while
the node does; no membership record is of ID `0` or of the node itself; and the topology
satisfies its invariant. -/
theorem simRun_inv (id : NodeID) (port : Port) (hostname : String) (now : Nat)
    (ops : List (Env × SimOp)) :
    let s := simRun (SimulatedNode.new id port hostname now) ops
    s.networkManager = .new ∧ s.serverRunning = s.running ∧
      (∀ k ∈ s.overlay.nodeRegistry, k ≠ 0 ∧ k ≠ s.nodeID) ∧ s.overlay.topology.Inv := by
  have hs := (SimulatedNode.Inv.new id port hostname now).simRun ops
  refine ⟨hs.networkManager_eq, hs.serverRunning_eq, fun k hk => ?_, hs.topology_inv⟩
  rw [← hs.nodeID_eq]
  exact hs.recordIDsValid k hk

/-- **A simulated node never leaves.**  On every state a run reaches from the constructor,
`leaveNetwork()` changes nothing: each leave notification is dropped by the transport, and the
removal of the node itself is refused by the membership registry, which has no record of it.  So
`stop()` does nothing but clear `running_` and `serverRunning_`. -/
theorem simRun_leaveNetwork (id : NodeID) (port : Port) (hostname : String) (now : Nat)
    (ops : List (Env × SimOp)) (env : Env) (now' : Nat) :
    let s := simRun (SimulatedNode.new id port hostname now) ops
    s.leaveNetwork env now' = s ∧ s.stop env now' = { s with running := false, serverRunning := false } := by
  have hs := (SimulatedNode.Inv.new id port hostname now).simRun ops
  exact ⟨SimulatedNode.leaveNetwork_of_idle hs.networkManager_eq hs.nodeID_eq hs.recordIDsValid now',
    hs.stop_eq now'⟩

end P2POverlay
