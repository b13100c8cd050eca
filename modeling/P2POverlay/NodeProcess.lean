/-
**The node process delivers nothing** (`main`).

`main` builds one node's components on one `Node`, one `NetworkManager` and one
`TopologyManager`: `MessageHandler`, `NodeDiscovery`, `NodeRegistration`, `DynamicNodeManager`,
`MessageRouter`, `ReliableMessaging` and `DataExchange`.  It computes the routing table, starts
the server (and exits if that fails), and, given a bootstrap address, runs `discoverNetwork` and
`registerWithNetwork` on it.  Three kinds of thread then act on the components: the main loop,
which sends a `HEARTBEAT` to each peer through `ReliableMessaging` every
`HEARTBEAT_INTERVAL_SEC`, updates the routing table every 30 s, calls
`maintainNetworkIntegrity` every 60 s and cleans up every 300 s; the input thread, which performs
the menu's actions; and the server's threads, each passing one incoming message to
`processMessage`.  On exit the process sends a `LEAVE_NOTIFICATION` to each peer through
`ReliableMessaging`, removes the local node gracefully, stops the server and prints a summary.

Each component is the model of its own module.  The calls they make on the transport are made on
the one `NetworkManager`: the events of the shared components, the router's sends and the resends
of `ReliableMessaging` are forwarded to it, and `ReliableMessaging` and the router read its answer
for each send.  That answer depends only on whether the peer has a connection, which no send
changes (`NetworkManager.mem_sendMessageToPeer`), so the answers a call reads are read as it
starts.

The manager never holds a connection, and so nothing leaves the node.  On every state the process
reaches: the transport has no connection and has counted no message; `ReliableMessaging` holds no
pending message, and has counted none sent and none acknowledged, so its delivery rate is `0`;
no outgoing transfer has had a byte transferred, no chunk is in progress, and nothing has been
received; no membership record is of ID `0` or of the local node; and the topology keeps its
invariant.  The discovery callback that `main` installs never adds a node, since every ID
`discoverPeers` reports is one the topology already knows.

Main definitions:

* `P2POverlay.NodeProcess` — the components and the main loop's time points;
* `P2POverlay.NodeProcess.init`, `P2POverlay.NodeProcess.start` — `main` up to its loops;
* `P2POverlay.NodeProcess.tick`, `serve`, `menuStep`, `sendDataStep`, `shutdown` — the steps;
* `P2POverlay.ProcessOp`, `P2POverlay.processRun` — runs.

Main results:

* `P2POverlay.NodeProcess.Inv.step` — every step keeps the invariant `NodeProcess.Inv`;
* `P2POverlay.discoverPeers_adds_nothing` — the discovery menu action leaves the overlay and
  the transport as they were;
* `P2POverlay.processRun_delivers_nothing` — **no message leaves the node and nothing is
  received, on every run of the process**;
* `P2POverlay.processRun_shutdown` — **at exit the local node's removal is refused, and the
  summary reports no message sent, no reliable message, a delivery rate of `0` and no data
  received**.

## Boundary

The command line is left out: the port and the bootstrap address are arguments, and so are what
`generateNodeID`, `DNS::hostName()`, the random generators and the clocks give.  Each menu
action, each pass of the main loop and each incoming message is one step.  `sendData` is a
thread: the input thread takes the steps `DataExchange.sendStep` of its call one at a time, with
the router's answer for a chunk read at the step that routes it.  The model lets other menu
actions interleave with a transfer in progress, which the single input thread does not do, and
lets any operation of `DynamicNodeManager` be a menu action; every result holds of these extra
runs as well.  The two callers of `retryPendingMessages` each run it as one step; how they
interleave is `AckRetry`'s subject.  The menu's read-only actions and the summary's
`getReceivedMessageCount`, `getRoutedMessageCount` and `getActiveNodeCount` are left out.
-/

import P2POverlay.SimulatedNode
import P2POverlay.Routing
import P2POverlay.ReliableMessaging
import P2POverlay.DataExchange

set_option relaxedAutoImplicit false
set_option autoImplicit false

namespace P2POverlay

/-- A send never changes which peers have a connection. -/
theorem NetworkManager.mem_sendMessageToPeer (nm : NetworkManager) (peerID : NodeID)
    (message : WireMessage) (header : HeaderBuffer) (k : NodeID) :
    k ∈ (nm.sendMessageToPeer peerID message header).2.activeConnections ↔
      k ∈ nm.activeConnections := by
  unfold NetworkManager.sendMessageToPeer
  split
  · rfl
  · next written h =>
    simp only [StdMap.mem_insert]
    exact ⟨fun hk => hk.elim (fun hk => hk ▸ StdMap.mem_of_find? h) id, .inr⟩

/-- The resend a call of `ReliableMessaging` logged, as a call on the transport. -/
def MessagingEvent.resend (header : NodeID → HeaderBuffer) : MessagingEvent → Option TransportOp
  | .sendWithRetry msg =>
      some (.sendMessageToPeer msg.destinationID msg.message.toWire (header msg.destinationID))
  | .sendMessageToPeer .. | .messageDelivered .. | .messageFailed .. => none

/-- The node process: the components the threads share, the call of `sendData` the input thread
is in, and the main loop's four time points, in seconds of the steady clock. -/
structure NodeProcess where
  overlay : Overlay
  networkManager : NetworkManager
  serverRunning : Bool
  reliableMessaging : ReliableMessaging
  router : MessageRouter
  routingTable : RoutingTable
  dataExchange : DataExchange
  sending : Option (SendCall × SendPc)
  nodeDiscovery : NodeDiscovery
  registrationStatus : RegistrationStatus
  running : Bool
  lastHeartbeat : Nat
  lastRoutingUpdate : Nat
  lastMaintenance : Nat
  lastCleanup : Nat

/-! ### The components with nothing to deliver -/

namespace ReliableMessaging

variable {rm : ReliableMessaging}

/-- A send the transport refuses, with nothing pending: the record is stored, then marked failed
and dropped, and `0` returned. -/
theorem sendReliableMessage_false (h : rm.pendingMessages = .empty) (targetID : NodeID)
    (message : Message) (messageID : UInt64) (now : Nat) :
    let r := rm.sendReliableMessage targetID message messageID now false
    r.1 = 0 ∧ r.2.pendingMessages = .empty ∧ r.2.sentMessages = rm.sentMessages ∧
      r.2.acknowledgedMessages = rm.acknowledgedMessages ∧
      r.2.failedMessages = rm.failedMessages + 1 := by
  simp only [sendReliableMessage, markMessageFailed, h, StdMap.find?_insert, if_true, Bool.false_eq_true,
    if_false, StdMap.erase_insert_of_not_mem (StdMap.not_mem_empty messageID), and_self]

/-- With nothing pending, `retryPendingMessages` finds nothing to retry or fail. -/
theorem retryPendingMessages_of_empty (h : rm.pendingMessages = .empty)
    (timeoutSeconds maxRetries : Int) (now : Nat) :
    rm.retryPendingMessages timeoutSeconds maxRetries now = rm := by
  unfold retryPendingMessages collect finishRetry
  rw [h]
  rfl

theorem cleanupAcknowledgedMessages_of_empty (h : rm.pendingMessages = .empty)
    (timeoutSeconds : Int) (now : Nat) :
    rm.cleanupAcknowledgedMessages timeoutSeconds now = rm := by
  obtain ⟨pendingMessages, _, _, _, _⟩ := rm
  obtain rfl : pendingMessages = .empty := h
  rfl

theorem getDeliveryRate_of_sentMessages (h : rm.sentMessages = 0) : rm.getDeliveryRate = 0 := by
  rw [getDeliveryRate, if_pos h]

end ReliableMessaging

namespace DataExchange

/-- Nothing has been received, and no outgoing transfer has had a byte transferred. -/
structure Stalled (d : DataExchange) : Prop where
  incomingTransfers_eq : d.incomingTransfers = .empty
  receivedChunks_eq : d.receivedChunks = .empty
  completedData_eq : d.completedData = .empty
  receivedDataSize_eq : d.receivedDataSize = 0
  transferredSize_eq : ∀ t r, d.outgoingTransfers.find? t = some r → r.transferredSize = 0

variable {d : DataExchange}

theorem Stalled.new (nodeID : NodeID) : (DataExchange.new nodeID).Stalled where
  incomingTransfers_eq := rfl
  receivedChunks_eq := rfl
  completedData_eq := rfl
  receivedDataSize_eq := rfl
  transferredSize_eq _ _ h := by cases h

/-- Changes to the outgoing records that keep every transferred count keep the state stalled. -/
theorem Stalled.of_outgoing (h : d.Stalled) {d' : DataExchange}
    (hin : d'.incomingTransfers = d.incomingTransfers) (hch : d'.receivedChunks = d.receivedChunks)
    (hco : d'.completedData = d.completedData) (hsz : d'.receivedDataSize = d.receivedDataSize)
    (hout : ∀ t r, d'.outgoingTransfers.find? t = some r → r.transferredSize = 0) : d'.Stalled :=
  ⟨hin.trans h.1, hch.trans h.2, hco.trans h.3, hsz.trans h.4, hout⟩

/-- A record as `markTransferComplete` or `cancelTransfer` leaves it keeps its transferred
count. -/
theorem Stalled.modify_outgoing (h : d.Stalled) (t : UInt64) {f : DataTransfer → DataTransfer}
    (hf : ∀ r, (f r).transferredSize = r.transferredSize) :
    ∀ k r, (d.outgoingTransfers.modify t f).find? k = some r → r.transferredSize = 0 := by
  intro k r hr
  simp only [StdMap.find?_modify] at hr
  split_ifs at hr
  · obtain ⟨r', hr', rfl⟩ := Option.map_eq_some'.1 hr
    rw [hf]
    exact h.transferredSize_eq _ r' hr'
  · exact h.transferredSize_eq k r hr

theorem markTransferComplete_outgoingTransfers (t : UInt64) (success : Bool) (now : Nat) :
    (d.markTransferComplete t success now).outgoingTransfers =
      d.outgoingTransfers.modify t (·.complete success now) := by
  by_cases ht : t ∈ d.outgoingTransfers
  · simp only [DataExchange.markTransferComplete, if_pos ht]
  · simp only [DataExchange.markTransferComplete, if_neg ht, StdMap.modify,
      StdMap.not_mem_iff_find?.1 ht]

theorem Stalled.markTransferComplete (h : d.Stalled) (t : UInt64) (success : Bool) (now : Nat) :
    (d.markTransferComplete t success now).Stalled := by
  refine h.of_outgoing ?_ (by simp) (by simp) ?_ ?_
  · rw [markTransferComplete_incomingTransfers, h.incomingTransfers_eq]
    rfl
  · unfold DataExchange.markTransferComplete
    split_ifs <;> rfl
  · rw [markTransferComplete_outgoingTransfers]
    exact h.modify_outgoing t fun _ => rfl

theorem Stalled.cancelTransfer (h : d.Stalled) (t : UInt64) : (d.cancelTransfer t).2.Stalled :=
  h.of_outgoing rfl rfl rfl rfl (h.modify_outgoing t fun _ => rfl)

theorem Stalled.cleanupCompletedTransfers (h : d.Stalled) (timeoutSeconds : Int) (now : Nat) :
    (d.cleanupCompletedTransfers timeoutSeconds now).Stalled :=
  h.of_outgoing (by simp only [DataExchange.cleanupCompletedTransfers, h.incomingTransfers_eq]; rfl)
    rfl rfl rfl fun k r hr => by
    simp only [DataExchange.cleanupCompletedTransfers, StdMap.find?_filter, Option.filter_eq_some] at hr
    exact h.transferredSize_eq k r hr.1

/-- With a router that refuses every chunk, a step of `sendData` keeps the state stalled and
never reaches the progress step. -/
theorem Stalled.sendStep (h : d.Stalled) {call : SendCall} (hroute : ∀ c, call.route c = false)
    (now : Nat) {pc : SendPc} (hpc : ∀ c rest, pc ≠ .progress c rest) :
    (d.sendStep call now pc).1.Stalled ∧ ∀ c rest, (d.sendStep call now pc).2.1 ≠ .progress c rest := by
  cases pc with
  | start =>
      have hs : { d with outgoingTransfers :=
          d.outgoingTransfers.insert call.transferID (d.sendRecord call now) }.Stalled :=
        h.of_outgoing rfl rfl rfl rfl fun k r hr => by
          simp only [StdMap.find?_insert] at hr
          split_ifs at hr
          · obtain rfl := Option.some.inj hr
            rfl
          · exact h.transferredSize_eq k r hr
      simp only [DataExchange.sendStep]
      split <;> exact ⟨hs, by simp⟩
  | sending rest =>
      cases rest with
      | nil => exact ⟨h.markTransferComplete _ _ _, by simp [DataExchange.sendStep]⟩
      | cons c rest =>
          exact ⟨h.of_outgoing rfl rfl rfl rfl h.transferredSize_eq,
            by simp [DataExchange.sendStep, hroute]⟩
  | progress c rest => exact absurd rfl (hpc c rest)
  | failing => exact ⟨h.markTransferComplete _ _ _, by simp [DataExchange.sendStep]⟩
  | done s => exact ⟨h, by simp [DataExchange.sendStep]⟩
  | crashed => exact ⟨h, by simp [DataExchange.sendStep]⟩

end DataExchange

/-- With every send refused, a message routed by `DIRECT` or `SHORTEST_PATH` is refused. -/
theorem MessageRouter.routeMessageMultiHop_of_refused (r : MessageRouter) (node : Node)
    (topology : TopologyManager) (targetID : NodeID) (message : Message) :
    (r.routeMessageMultiHop node topology targetID message fun _ => false).1 = false := by
  unfold MessageRouter.routeMessageMultiHop
  split <;> rfl

namespace NodeProcess

/-! ### The components' calls on the transport -/

/-- The transport's answer to a send of `message` to a peer. -/
def answer (p : NodeProcess) (env : Env) (message : Message) (peerID : NodeID) : Bool :=
  (p.networkManager.sendMessageToPeer peerID message.toWire (env.header peerID)).1

/-- An operation of the shared components took the overlay to `o`. -/
def withOverlay (p : NodeProcess) (env : Env) (o : Overlay) : NodeProcess :=
  { p with
    overlay := o
    networkManager := (transportRun env.connect p.networkManager
      (p.overlay.transportCalls o env.header)).2 }

/-- A call of the router left it as `r`: the sends it logged are made on the transport. -/
def withRouter (p : NodeProcess) (env : Env) (r : MessageRouter) : NodeProcess :=
  let calls := (r.sends.drop p.router.sends.length).map fun s =>
    TransportOp.sendMessageToPeer s.1 s.2.toWire (env.header s.1)
  { p with router := r, networkManager := (transportRun env.connect p.networkManager calls).2 }

/-- A call of `ReliableMessaging` left it as `rm`: the resends it logged are made on the
transport. -/
def withMessaging (p : NodeProcess) (env : Env) (rm : ReliableMessaging) : NodeProcess :=
  let calls := (rm.events.drop p.reliableMessaging.events.length).filterMap
    (MessagingEvent.resend env.header)
  { p with
    reliableMessaging := rm
    networkManager := (transportRun env.connect p.networkManager calls).2 }

/-- `reliableMessaging->sendReliableMessage(targetID, message)`, where `generateMessageID()` drew
`messageID`: the message goes to the transport, whose answer decides. -/
def sendReliableMessage (p : NodeProcess) (env : Env) (targetID : NodeID) (message : Message)
    (messageID : UInt64) (now : Nat) : UInt64 × NodeProcess :=
  let s := p.networkManager.sendMessageToPeer targetID message.toWire (env.header targetID)
  let r := p.reliableMessaging.sendReliableMessage targetID message messageID now s.1
  (r.1, { p with networkManager := s.2, reliableMessaging := r.2 })

/-- A reliable message to each peer of the roster as it stands, built from the peer's ID, with
the ID `messageIDs` draws for it. -/
def sendToPeers (p : NodeProcess) (env : Env) (message : NodeID → Message)
    (messageIDs : NodeID → UInt64) (now : Nat) : NodeProcess :=
  p.overlay.node.peerIDs.foldl
    (fun p peerID => (p.sendReliableMessage env peerID (message peerID) (messageIDs peerID) now).2) p

/-- `reliableMessaging->retryPendingMessages(timeoutSeconds, maxRetries)`. -/
def retryPendingMessages (p : NodeProcess) (env : Env) (timeoutSeconds maxRetries : Int)
    (now : Nat) : NodeProcess :=
  p.withMessaging env (p.reliableMessaging.retryPendingMessages timeoutSeconds maxRetries now)

/-! ### The main loop -/

/-- The first block of a pass of the main loop: a reliable `HEARTBEAT` to each peer once
`HEARTBEAT_INTERVAL_SEC` have passed since the last. -/
def sendHeartbeats (p : NodeProcess) (env : Env) (steady now : Nat)
    (messageIDs : NodeID → UInt64) : NodeProcess :=
  if heartbeatIntervalSec ≤ steady - p.lastHeartbeat then
    { p.sendToPeers env (fun peerID =>
        createHeartbeat p.overlay.node.nodeID peerID (Overlay.timestampAt now)) messageIDs now with
      lastHeartbeat := steady }
  else p

/-- The second: `updateRoutingTable` once 30 s have passed. -/
def updateRouting (p : NodeProcess) (steady : Nat) : NodeProcess :=
  if 30 ≤ steady - p.lastRoutingUpdate then
    { p with
      routingTable := updateRoutingTable p.overlay.node p.overlay.topology
      lastRoutingUpdate := steady }
  else p

/-- The third: `maintainNetworkIntegrity` once 60 s have passed. -/
def networkMaintenance (p : NodeProcess) (env : Env) (steady now : Nat) : NodeProcess :=
  if 60 ≤ steady - p.lastMaintenance then
    { p.withOverlay env (p.overlay.maintainNetworkIntegrity env.connect now).2 with
      lastMaintenance := steady }
  else p

/-- The fourth: once 300 s have passed, `cleanupAcknowledgedMessages(300)`,
`retryPendingMessages(30, 3)` and `cleanupCompletedTransfers(3600)`. -/
def cleanup (p : NodeProcess) (env : Env) (steady now : Nat) : NodeProcess :=
  if 300 ≤ steady - p.lastCleanup then
    let p := { p with reliableMessaging := p.reliableMessaging.cleanupAcknowledgedMessages 300 now }
    let p := p.retryPendingMessages env 30 3 now
    { p with dataExchange := p.dataExchange.cleanupCompletedTransfers 3600 now, lastCleanup := steady }
  else p

/-- A pass of the main loop, which has ended once the user exited. -/
def tick (p : NodeProcess) (env : Env) (steady now : Nat) (messageIDs : NodeID → UInt64) :
    NodeProcess :=
  if p.running then
    (((p.sendHeartbeats env steady now messageIDs).updateRouting steady).networkMaintenance env
      steady now).cleanup env steady now
  else p

/-! ### The server -/

/-- A connection the server accepts, at second `now`: `PeerConnectionHandler::run` on the
segments that arrive, and the message callback of `main` on the message it passes on, which
hands every message to `processMessage`. -/
def serve (p : NodeProcess) (env : Env) (header : HeaderBuffer) (segments : List Bytes)
    (now : Nat) : NodeProcess :=
  if p.serverRunning then
    match (PeerConnectionHandler.run header segments).bind WireMessage.toMessage? with
    | some message =>
        match p.overlay.processMessage message now with
        | some o => p.withOverlay env o
        | none => p
    | none => p
  else p

/-! ### The menu -/

/-- The `DATA_MESSAGE` the menu builds from the user's text. -/
def textMessage (p : NodeProcess) (targetID : NodeID) (text : Bytes) (now : Nat) : Message :=
  ⟨.dataMessage, p.overlay.node.nodeID, targetID, text, Overlay.timestampAt now⟩

/-- Discovery 1: `discoverNetwork({bootstrapAddress})`. -/
def discoverNetwork (p : NodeProcess) (env : Env) (bootstrapAddress : NetworkAddress) (now : Nat) :
    NodeProcess :=
  let d := p.nodeDiscovery.discoverNetwork p.overlay.node p.overlay.topology p.networkManager
    [bootstrapAddress] now env.connect
  { p with nodeDiscovery := d.2.1, networkManager := d.2.2 }

/-- Discovery 2: `discoverPeers(MAX_PEERS)`, whose callback `onPeerDiscovered_`, installed by
`main`, calls `addNodeWithValidation` for each node discovered. -/
def discoverPeers (p : NodeProcess) (env : Env) (now : Nat) : NodeProcess :=
  let d := p.nodeDiscovery.discoverPeers p.overlay.node p.overlay.topology maxPeers now
  let found := d.2.peerDiscovered.drop p.nodeDiscovery.peerDiscovered.length
  let o := found.foldl (fun o e => (o.addNodeWithValidation e.1 e.2 now).2) p.overlay
  { p.withOverlay env o with nodeDiscovery := d.2 }

/-- Registration 1: `registerWithNetwork(bootstrapAddress)`. -/
def registerWithNetwork (p : NodeProcess) (env : Env) (bootstrapAddress : NetworkAddress) :
    NodeProcess :=
  let r := NodeRegistration.registerWithNetwork p.overlay p.networkManager bootstrapAddress env.connect
  { p with registrationStatus := r.2.1, overlay := r.2.2.1, networkManager := r.2.2.2 }

/-- Registration 2: `registerWithNode` with the address the topology gives the target, if it has
a port; `clock` is the system clock and `timestamp` its reading in milliseconds. -/
def registerWithNode (p : NodeProcess) (env : Env) (targetID : NodeID) (clock : TimePoint)
    (timestamp : UInt64) : NodeProcess :=
  let targetAddr := p.overlay.topology.getNodeAddress targetID
  if targetAddr.port ≠ 0 then
    let r := NodeRegistration.registerWithNode p.overlay p.networkManager clock timestamp targetAddr
      env.connect
    { p with registrationStatus := r.2.1, networkManager := r.2.2 }
  else p

/-- Routing 1 and 2: `routeMessage` of a `DATA_MESSAGE`. -/
def routeMessage (p : NodeProcess) (env : Env) (message : Message) (strategy : RoutingStrategy)
    (now : Nat) : Bool × NodeProcess :=
  let r := p.router.routeMessage p.overlay.node p.overlay.topology message strategy now
    (p.answer env message)
  (r.1, p.withRouter env r.2)

/-- Routing 3: `floodMessage` of a `DATA_MESSAGE` to the broadcast ID. -/
def floodMessage (p : NodeProcess) (env : Env) (message : Message) (now : Nat) :
    Bool × NodeProcess :=
  let r := p.router.floodMessage message p.overlay.node.peerIDs now (p.answer env message)
  (r.1, p.withRouter env r.2)

/-- Data exchange 1: a call of `sendData` of `dataSize` bytes `0x42` starts on the input thread,
with the ID `generateTransferID()` drew; an empty type reads as "generic". -/
def startSendData (p : NodeProcess) (targetID : NodeID) (dataSize : Nat) (dataType : String)
    (transferID : UInt64) : NodeProcess :=
  match p.sending with
  | none =>
      let call : SendCall := ⟨targetID, List.replicate dataSize 0x42,
        if dataType = "" then "generic" else dataType, transferID, fun _ => false⟩
      { p with sending := some (call, .start) }
  | some _ => p

/-- What happens next on the input thread when it is not inside `sendData`. -/
inductive MenuAction where
  | discoverNetwork (bootstrapAddress : NetworkAddress) (now : Nat)
  | discoverPeers (now : Nat)
  | registerWithNetwork (bootstrapAddress : NetworkAddress)
  | registerWithNode (targetID : NodeID) (clock : TimePoint) (timestamp : UInt64)
  | overlay (op : OverlayOp)
  | routeMessage (targetID : NodeID) (text : Bytes) (strategy : RoutingStrategy) (now : Nat)
  | floodMessage (text : Bytes) (now : Nat)
  | updateRoutingTable
  | sendReliableMessage (targetID : NodeID) (text : Bytes) (messageID : UInt64) (now : Nat)
  | retryPendingMessages (now : Nat)
  | sendData (targetID : NodeID) (dataSize : Nat) (dataType : String) (transferID : UInt64)
  | cancelTransfer (transferID : UInt64)
  | exit

/-- A menu action: the actions of the menus of `main` that change something. -/
def menuStep (p : NodeProcess) (env : Env) : MenuAction → NodeProcess
  | .discoverNetwork bootstrapAddress now => p.discoverNetwork env bootstrapAddress now
  | .discoverPeers now => p.discoverPeers env now
  | .registerWithNetwork bootstrapAddress => p.registerWithNetwork env bootstrapAddress
  | .registerWithNode targetID clock timestamp => p.registerWithNode env targetID clock timestamp
  | .overlay op =>
      match p.overlay.step env.connect op with
      | some o => p.withOverlay env o
      | none => p
  | .routeMessage targetID text strategy now =>
      (p.routeMessage env (p.textMessage targetID text now) strategy now).2
  | .floodMessage text now => (p.floodMessage env (p.textMessage 0 text now) now).2
  | .updateRoutingTable =>
      { p with routingTable := updateRoutingTable p.overlay.node p.overlay.topology }
  | .sendReliableMessage targetID text messageID now =>
      (p.sendReliableMessage env targetID (p.textMessage targetID text now) messageID now).2
  | .retryPendingMessages now => p.retryPendingMessages env 30 3 now
  | .sendData targetID dataSize dataType transferID =>
      p.startSendData targetID dataSize dataType transferID
  | .cancelTransfer transferID => { p with dataExchange := (p.dataExchange.cancelTransfer transferID).2 }
  | .exit => { p with running := false }

/-! ### Start -/

/-- The components as `main` builds them, for the node `nodeID` at `hostname:port` created at
second `now` of the system clock, with the main loop's time points at `steady` of the steady
clock: the topology holds the local node, and the routing table is computed from it. -/
def init (nodeID : NodeID) (port : Port) (hostname : String) (now steady : Nat)
    (serverRunning : Bool) : NodeProcess :=
  let node := Node.new nodeID ⟨hostname, port⟩ now
  let topology := ((TopologyManager.new nodeID).addNode nodeID ⟨hostname, port⟩).2
  ⟨{ Overlay.new node with topology := topology }, .new, serverRunning, .new, .new,
    updateRoutingTable node topology, DataExchange.new nodeID, none, .new, .pending, true,
    steady, steady, steady, steady⟩

/-- `main` up to its loops; `bindOk` says whether the listening socket could be bound, and
`bootstrap` is the address of `argv[2]` and `argv[3]`, if given, on which `main` runs
`discoverNetwork({bootstrapAddr})` and `registerWithNetwork(bootstrapAddr)`.  `none` when the
server does not start, and `main` returns `1`. -/
def start (nodeID : NodeID) (port : Port) (hostname : String) (now steady : Nat) (bindOk : Bool)
    (bootstrap : Option NetworkAddress) (env : Env) : Option NodeProcess :=
  let server := NetworkManager.startServer false bindOk
  if server.1 then
    let p := init nodeID port hostname now steady server.2
    some <| match bootstrap with
      | some bootstrapAddr =>
          (p.discoverNetwork env bootstrapAddr now).registerWithNetwork env bootstrapAddr
      | none => p
  else none

/-! ### A transfer -/

/-- The `DATA_CHUNK` message `sendDataChunk` builds for `chunk` at second `now`: the bytes of
the `DataChunk` object, `image`, then the chunk's data. -/
def chunkMessage (selfID targetID : NodeID) (image : Bytes) (now : Nat) (chunk : DataChunk) :
    Message :=
  ⟨.dataChunk, selfID, targetID, image ++ chunk.data, Overlay.timestampAt now⟩

/-- The router's answer to a chunk of the call, and the router after routing it: `sendDataChunk`
routes with `SHORTEST_PATH`. -/
def routeChunk (p : NodeProcess) (env : Env) (call : SendCall) (image : Bytes) (now : Nat)
    (chunk : DataChunk) : Bool × MessageRouter :=
  let message := chunkMessage p.overlay.node.nodeID call.targetID image now chunk
  p.router.routeMessage p.overlay.node p.overlay.topology message .shortestPath now
    (p.answer env message)

/-- The call of `sendData` the input thread is in once its call `call` has reached `pc`: none
once the call has returned. -/
def inSendData (call : SendCall) : SendPc → Option (SendCall × SendPc)
  | .done _ => none
  | pc => some (call, pc)

/-- The input thread's next step inside `sendData`, at second `now`, a chunk routed with the
router's answer as it stands; once the call returns, the thread leaves it. -/
def sendDataStep (p : NodeProcess) (env : Env) (image : Bytes) (now : Nat) : NodeProcess :=
  match p.sending with
  | none => p
  | some (call, pc) =>
      let r := p.dataExchange.sendStep { call with route := fun c => (p.routeChunk env call image now c).1 }
        now pc
      let q := { p with dataExchange := r.1, sending := inSendData call r.2.1 }
      match r.2.2 with
      | some c => q.withRouter env (p.routeChunk env call image now c).2
      | none => q

/-! ### Exit -/

/-- What follows the loops once the user exited, at second `now`: a reliable
`LEAVE_NOTIFICATION` to each peer, `removeNodeGracefully` of the local node, and `stopServer`. -/
def shutdown (p : NodeProcess) (env : Env) (now : Nat) (messageIDs : NodeID → UInt64) :
    NodeProcess :=
  let p := p.sendToPeers env (fun peerID =>
    createLeaveNotification p.overlay.node.nodeID peerID (Overlay.timestampAt now)) messageIDs now
  let p := p.withOverlay env (p.overlay.removeNodeGracefully env.connect p.overlay.node.nodeID).2
  { p with serverRunning := NetworkManager.stopServer p.serverRunning }

end NodeProcess

/-- What happens next in the process. -/
inductive ProcessOp where
  | tick (steady now : Nat) (messageIDs : NodeID → UInt64)
  | serve (header : HeaderBuffer) (segments : List Bytes) (now : Nat)
  | menu (action : NodeProcess.MenuAction)
  | sendDataStep (image : Bytes) (now : Nat)
  | shutdown (now : Nat) (messageIDs : NodeID → UInt64)

/-- One step, with what the network answered during it.  The menu is read while the process
runs; the exit sequence follows once it has stopped. -/
def NodeProcess.step (p : NodeProcess) (env : Env) : ProcessOp → NodeProcess
  | .tick steady now messageIDs => p.tick env steady now messageIDs
  | .serve header segments now => p.serve env header segments now
  | .menu action => if p.running then p.menuStep env action else p
  | .sendDataStep image now => p.sendDataStep env image now
  | .shutdown now messageIDs => if p.running then p else p.shutdown env now messageIDs

/-- A run of steps from `p`. -/
def processRun (p : NodeProcess) (ops : List (Env × ProcessOp)) : NodeProcess :=
  ops.foldl (fun p op => p.step op.1 op.2) p

/-- Adding the nodes the topology already knows changes nothing. -/
theorem Overlay.foldl_addNodeWithValidation (now : Nat) :
    ∀ (found : List (NodeID × NetworkAddress)) (o : Overlay),
      (∀ e ∈ found, o.topology.nodeExists e.1) →
        found.foldl (fun o e => (o.addNodeWithValidation e.1 e.2 now).2) o = o
  | [], _, _ => rfl
  | e :: found, o, h => by
      rw [List.foldl_cons, Overlay.addNodeWithValidation, if_pos (.inr (h e (List.mem_cons_self _ _)))]
      exact Overlay.foldl_addNodeWithValidation now found o fun e' he' =>
        h e' (List.mem_cons_of_mem _ he')

namespace NodeProcess

/-! ### The invariant -/

/-- What holds of every state the process reaches: the transport holds no connection, no
reliable message is pending or counted, no data moves, no call of `sendData` is at its progress
step, and the overlay keeps its own invariants. -/
structure Inv (p : NodeProcess) : Prop where
  networkManager_eq : p.networkManager = .new
  pendingMessages_eq : p.reliableMessaging.pendingMessages = .empty
  sentMessages_eq : p.reliableMessaging.sentMessages = 0
  acknowledgedMessages_eq : p.reliableMessaging.acknowledgedMessages = 0
  stalled : p.dataExchange.Stalled
  sending_ne_progress : ∀ call c rest, p.sending ≠ some (call, .progress c rest)
  recordIDsValid : p.overlay.RecordIDsValid
  topology_inv : p.overlay.topology.Inv

variable {p : NodeProcess} {env : Env}

/-- With the transport as constructed, every send is refused. -/
theorem answer_of_new (h : p.networkManager = .new) (message : Message) :
    p.answer env message = fun _ => false := by
  funext peerID
  rw [answer, h, NetworkManager.sendMessageToPeer_of_not_mem (StdMap.not_mem_empty peerID)]

theorem Inv.withOverlay (h : p.Inv) (op : OverlayOp) {o : Overlay}
    (ho : p.overlay.step env.connect op = some o) : (p.withOverlay env o).Inv :=
  { h with
    networkManager_eq := by
      simp only [NodeProcess.withOverlay, h.networkManager_eq, transportRun_snd_new]
    recordIDsValid := Overlay.step_recordIDsValid env.connect ho h.recordIDsValid
    topology_inv := (Overlay.step_topology env.connect ho).inv h.topology_inv }

theorem Inv.withRouter (h : p.Inv) (r : MessageRouter) : (p.withRouter env r).Inv :=
  { h with
    networkManager_eq := by
      simp only [NodeProcess.withRouter, h.networkManager_eq, transportRun_snd_new] }

/-- A reliable message is refused by the transport and counted failed. -/
theorem Inv.sendReliableMessage (h : p.Inv) (env : Env) (targetID : NodeID) (message : Message)
    (messageID : UInt64) (now : Nat) :
    let q := (p.sendReliableMessage env targetID message messageID now).2
    q.Inv ∧ q.reliableMessaging.failedMessages = p.reliableMessaging.failedMessages + 1 := by
  obtain ⟨-, hpend, hsent, hack, hfail⟩ := ReliableMessaging.sendReliableMessage_false
    h.pendingMessages_eq targetID message messageID now
  have hrefused : NetworkManager.new.sendMessageToPeer targetID message.toWire (env.header targetID) =
      (false, .new) :=
    NetworkManager.sendMessageToPeer_of_not_mem (StdMap.not_mem_empty targetID) _ _
  simp only [NodeProcess.sendReliableMessage, h.networkManager_eq, hrefused]
  exact ⟨{ h with
      networkManager_eq := rfl
      pendingMessages_eq := hpend
      sentMessages_eq := hsent.trans h.sentMessages_eq
      acknowledgedMessages_eq := hack.trans h.acknowledgedMessages_eq }, hfail⟩

/-- A reliable message to each of `peers`, each refused. -/
theorem Inv.foldl_sendReliableMessage (env : Env) (message : NodeID → Message)
    (messageIDs : NodeID → UInt64) (now : Nat) : ∀ (peers : List NodeID) {p : NodeProcess}, p.Inv →
    let q := peers.foldl (fun p peerID =>
      (p.sendReliableMessage env peerID (message peerID) (messageIDs peerID) now).2) p
    q.Inv ∧ q.reliableMessaging.failedMessages = p.reliableMessaging.failedMessages + peers.length
  | [], _, h => ⟨h, rfl⟩
  | peerID :: peers, _, h => by
      obtain ⟨h₁, hfail₁⟩ := h.sendReliableMessage env peerID (message peerID) (messageIDs peerID) now
      obtain ⟨h₂, hfail₂⟩ := Inv.foldl_sendReliableMessage env message messageIDs now peers h₁
      refine ⟨h₂, ?_⟩
      rw [List.foldl_cons, hfail₂, hfail₁, List.length_cons]
      omega

theorem Inv.sendToPeers (h : p.Inv) (message : NodeID → Message) (messageIDs : NodeID → UInt64)
    (now : Nat) : (p.sendToPeers env message messageIDs now).Inv :=
  (h.foldl_sendReliableMessage env message messageIDs now _).1

/-- Sending to the peers leaves the overlay, and so the roster, as it was. -/
@[simp] theorem sendToPeers_overlay (message : NodeID → Message) (messageIDs : NodeID → UInt64)
    (now : Nat) : (p.sendToPeers env message messageIDs now).overlay = p.overlay := by
  unfold NodeProcess.sendToPeers
  generalize p.overlay.node.peerIDs = peers
  induction peers generalizing p with
  | nil => rfl
  | cons peerID peers ih => exact ih

theorem Inv.retryPendingMessages (h : p.Inv) (env : Env) (timeoutSeconds maxRetries : Int) (now : Nat) :
    (p.retryPendingMessages env timeoutSeconds maxRetries now).Inv := by
  simp only [NodeProcess.retryPendingMessages, NodeProcess.withMessaging,
    ReliableMessaging.retryPendingMessages_of_empty h.pendingMessages_eq, List.drop_length,
    List.filterMap_nil]
  exact h

/-! #### The main loop and the server -/

theorem Inv.sendHeartbeats (h : p.Inv) (steady now : Nat) (messageIDs : NodeID → UInt64) :
    (p.sendHeartbeats env steady now messageIDs).Inv := by
  unfold NodeProcess.sendHeartbeats
  split_ifs
  · exact { h.sendToPeers _ messageIDs now with }
  · exact h

theorem Inv.updateRouting (h : p.Inv) (steady : Nat) : (p.updateRouting steady).Inv := by
  unfold NodeProcess.updateRouting
  split_ifs
  exacts [{ h with }, h]

theorem Inv.networkMaintenance (h : p.Inv) (steady now : Nat) :
    (p.networkMaintenance env steady now).Inv := by
  unfold NodeProcess.networkMaintenance
  split_ifs
  · have h' := @Inv.withOverlay p env h (.maintainNetworkIntegrity now) _ rfl
    exact { h' with }
  · exact h

theorem Inv.cleanup (h : p.Inv) (steady now : Nat) : (p.cleanup env steady now).Inv := by
  unfold NodeProcess.cleanup
  split_ifs
  · have h₁ : Inv { p with
        reliableMessaging := p.reliableMessaging.cleanupAcknowledgedMessages 300 now } := by
      rw [ReliableMessaging.cleanupAcknowledgedMessages_of_empty h.pendingMessages_eq]
      exact h
    have h₂ := h₁.retryPendingMessages env 30 3 now
    exact { h₂ with stalled := h₂.stalled.cleanupCompletedTransfers 3600 now }
  · exact h

theorem Inv.tick (h : p.Inv) (steady now : Nat) (messageIDs : NodeID → UInt64) :
    (p.tick env steady now messageIDs).Inv := by
  unfold NodeProcess.tick
  split_ifs
  · exact (((h.sendHeartbeats steady now messageIDs).updateRouting steady).networkMaintenance
      steady now).cleanup steady now
  · exact h

theorem Inv.serve (h : p.Inv) (header : HeaderBuffer) (segments : List Bytes) (now : Nat) :
    (p.serve env header segments now).Inv := by
  unfold NodeProcess.serve
  split_ifs
  · split
    · split
      · exact h.withOverlay (.processMessage _ now) ‹_›
      · exact h
    · exact h
  · exact h

/-! #### The menu -/

/-! #### Start -/

theorem Inv.init (nodeID : NodeID) (port : Port) (hostname : String) (now steady : Nat)
    (serverRunning : Bool) : (init nodeID port hostname now steady serverRunning).Inv where
  networkManager_eq := rfl
  pendingMessages_eq := rfl
  sentMessages_eq := rfl
  acknowledgedMessages_eq := rfl
  stalled := .new nodeID
  sending_ne_progress _ _ _ := Option.noConfusion
  recordIDsValid k hk := absurd hk (StdMap.not_mem_empty k)
  topology_inv := (TopologyManager.Inv.new nodeID).addNode nodeID _

theorem Inv.discoverNetwork (h : p.Inv) (bootstrapAddress : NetworkAddress) (now : Nat) :
    (p.discoverNetwork env bootstrapAddress now).Inv :=
  { h with
    networkManager_eq :=
      (NodeDiscovery.discoverNetwork_networkManager ..).trans h.networkManager_eq }

theorem Inv.registerWithNetwork (h : p.Inv) (bootstrapAddress : NetworkAddress) :
    (p.registerWithNetwork env bootstrapAddress).Inv := by
  obtain ⟨hnm, hnode, hreg, htop⟩ := NodeRegistration.registerWithNetwork_components p.overlay
    p.networkManager bootstrapAddress env.connect
  exact { h with
    networkManager_eq := hnm.trans h.networkManager_eq
    recordIDsValid := fun k hk => hnode ▸ h.recordIDsValid k (hreg ▸ hk)
    topology_inv := htop.inv h.topology_inv }

theorem Inv.start {nodeID : NodeID} {port : Port} {hostname : String} {now steady : Nat}
    {bindOk : Bool} {bootstrap : Option NetworkAddress}
    (h : start nodeID port hostname now steady bindOk bootstrap env = some p) : p.Inv := by
  unfold NodeProcess.start at h
  dsimp only at h
  split_ifs at h
  obtain rfl := Option.some.inj h
  cases bootstrap with
  | none => exact .init ..
  | some bootstrapAddr =>
      exact ((Inv.init ..).discoverNetwork bootstrapAddr now).registerWithNetwork bootstrapAddr

/-! #### The menu -/

/-- `discoverPeers` changes only the discovery component: every node it reports is one the
topology knows, which `addNodeWithValidation` refuses. -/
theorem discoverPeers_eq (now : Nat) :
    p.discoverPeers env now = { p with
      nodeDiscovery := (p.nodeDiscovery.discoverPeers p.overlay.node p.overlay.topology maxPeers
        now).2 } := by
  obtain ⟨found, hfound, hknown⟩ := NodeDiscovery.discoverPeers_peerDiscovered p.nodeDiscovery
    p.overlay.node p.overlay.topology maxPeers now
  simp only [NodeProcess.discoverPeers, hfound, List.drop_left,
    Overlay.foldl_addNodeWithValidation now found p.overlay hknown, NodeProcess.withOverlay,
    Overlay.transportCalls, List.drop_length, List.filterMap_nil]
  rfl

theorem Inv.registerWithNode (h : p.Inv) (targetID : NodeID) (clock : TimePoint)
    (timestamp : UInt64) : (p.registerWithNode env targetID clock timestamp).Inv := by
  unfold NodeProcess.registerWithNode
  dsimp only
  split_ifs
  · exact { h with
      networkManager_eq :=
        (NodeRegistration.registerWithNode_networkManager ..).trans h.networkManager_eq }
  · exact h

theorem Inv.startSendData (h : p.Inv) (targetID : NodeID) (dataSize : Nat) (dataType : String)
    (transferID : UInt64) : (p.startSendData targetID dataSize dataType transferID).Inv := by
  unfold NodeProcess.startSendData
  split
  · exact { h with sending_ne_progress := fun _ _ _ => by simp }
  · exact h

theorem Inv.menuStep (h : p.Inv) : ∀ action : MenuAction, (p.menuStep env action).Inv
  | .discoverNetwork bootstrapAddress now => h.discoverNetwork bootstrapAddress now
  | .discoverPeers now => by
      show (p.discoverPeers env now).Inv
      rw [discoverPeers_eq]
      exact { h with }
  | .registerWithNetwork bootstrapAddress => h.registerWithNetwork bootstrapAddress
  | .registerWithNode targetID clock timestamp => h.registerWithNode targetID clock timestamp
  | .overlay op => by
      dsimp only [NodeProcess.menuStep]
      split
      · exact h.withOverlay op ‹_›
      · exact h
  | .routeMessage .. => h.withRouter _
  | .floodMessage .. => h.withRouter _
  | .updateRoutingTable => { h with }
  | .sendReliableMessage targetID _ messageID now =>
      (h.sendReliableMessage env targetID _ messageID now).1
  | .retryPendingMessages now => h.retryPendingMessages env 30 3 now
  | .sendData targetID dataSize dataType transferID =>
      h.startSendData targetID dataSize dataType transferID
  | .cancelTransfer transferID => { h with stalled := h.stalled.cancelTransfer transferID }
  | .exit => { h with }

/-! #### A transfer and the exit -/

theorem inSendData_ne_progress (call : SendCall) {pc : SendPc} (hpc : ∀ c rest, pc ≠ .progress c rest) :
    ∀ call' c rest, inSendData call pc ≠ some (call', .progress c rest) := by
  intro call' c rest
  cases pc with
  | progress c' rest' => exact absurd rfl (hpc c' rest')
  | done => exact Option.noConfusion
  | _ => simp [inSendData]

/-- Every chunk is refused, so a step of the transfer moves no data. -/
theorem Inv.sendDataStep (h : p.Inv) (image : Bytes) (now : Nat) : (p.sendDataStep env image now).Inv := by
  unfold NodeProcess.sendDataStep
  split
  · exact h
  · next call pc hsend =>
    have hroute : ∀ c, ({ call with
        route := fun c => (p.routeChunk env call image now c).1 } : SendCall).route c = false :=
      fun c => by
        simp only [routeChunk, MessageRouter.routeMessage, answer_of_new h.networkManager_eq,
          MessageRouter.routeMessageMultiHop_of_refused]
    obtain ⟨hst, hpc⟩ := h.stalled.sendStep hroute now fun c rest hc =>
      h.sending_ne_progress call c rest (hc ▸ hsend)
    generalize p.dataExchange.sendStep _ now pc = r at hst hpc ⊢
    have hq : Inv { p with dataExchange := r.1, sending := inSendData call r.2.1 } :=
      { h with stalled := hst, sending_ne_progress := inSendData_ne_progress call hpc }
    dsimp only
    split
    · exact hq.withRouter _
    · exact hq

/-- At exit every leave notification is refused and the removal of the local node is refused:
the sends counted failed are all that change, with the server stopped. -/
theorem shutdown_eq (h : p.Inv) (now : Nat) (messageIDs : NodeID → UInt64) :
    let q := p.sendToPeers env (fun peerID =>
      createLeaveNotification p.overlay.node.nodeID peerID (Overlay.timestampAt now)) messageIDs now
    p.shutdown env now messageIDs = { q with serverRunning := NetworkManager.stopServer q.serverRunning } := by
  have hremove : p.overlay.removeNodeGracefully env.connect p.overlay.node.nodeID = (false, p.overlay) :=
    Overlay.removeNode_self env.connect h.recordIDsValid true
  simp only [NodeProcess.shutdown, sendToPeers_overlay, hremove, NodeProcess.withOverlay,
    Overlay.transportCalls, List.drop_length, List.filterMap_nil]
  rfl

theorem Inv.shutdown (h : p.Inv) (now : Nat) (messageIDs : NodeID → UInt64) :
    (p.shutdown env now messageIDs).Inv := by
  rw [shutdown_eq h]
  exact { h.sendToPeers _ messageIDs now with }

/-- The step lemma. -/
theorem Inv.step (h : p.Inv) (env : Env) : ∀ op : ProcessOp, (p.step env op).Inv
  | .tick steady now messageIDs => h.tick steady now messageIDs
  | .serve header segments now => h.serve header segments now
  | .menu action => by
      dsimp only [NodeProcess.step]
      split_ifs
      exacts [h.menuStep action, h]
  | .sendDataStep image now => h.sendDataStep image now
  | .shutdown now messageIDs => by
      dsimp only [NodeProcess.step]
      split_ifs
      exacts [h, h.shutdown now messageIDs]

/-- The run lemma. -/
theorem Inv.processRun : ∀ (ops : List (Env × ProcessOp)) {p : NodeProcess}, p.Inv →
    (P2POverlay.processRun p ops).Inv
  | [], _, h => h
  | op :: ops, _, h => Inv.processRun ops (h.step op.1 op.2)

end NodeProcess

/-- **The discovery callback adds nothing.**  The `onPeerDiscovered_` callback `main` installs
calls `addNodeWithValidation`, which refuses every node the topology knows, and every node
`discoverPeers` reports is one: the menu's `discoverPeers` leaves the overlay and the transport
as they were. -/
theorem discoverPeers_adds_nothing (p : NodeProcess) (env : Env) (now : Nat) :
    (p.discoverPeers env now).overlay = p.overlay ∧
      (p.discoverPeers env now).networkManager = p.networkManager := by
  rw [NodeProcess.discoverPeers_eq]
  exact ⟨rfl, rfl⟩

/-- **The node process delivers nothing.**  On every state reached from a start of `main` by any
interleaving of the main loop's passes, the connections the server accepts, the menu's actions,
the steps of a transfer and the exit sequence, the transport is as constructed (no connection,
no message counted sent or received), `ReliableMessaging` holds nothing pending and has counted
no message sent, so its delivery rate is `0`, and no data has been received or transferred. -/
theorem processRun_delivers_nothing {nodeID : NodeID} {port : Port} {hostname : String}
    {now steady : Nat} {bindOk : Bool} {bootstrap : Option NetworkAddress} {env : Env}
    {p : NodeProcess} (h : NodeProcess.start nodeID port hostname now steady bindOk bootstrap env = some p)
    (ops : List (Env × ProcessOp)) :
    let q := processRun p ops
    q.networkManager = .new ∧ q.reliableMessaging.pendingMessages = .empty ∧
      q.reliableMessaging.sentMessages = 0 ∧ q.reliableMessaging.getDeliveryRate = 0 ∧
      q.dataExchange.receivedDataSize = 0 ∧ q.dataExchange.incomingTransfers = .empty ∧
      ∀ t r, q.dataExchange.outgoingTransfers.find? t = some r → r.transferredSize = 0 := by
  have hq := NodeProcess.Inv.processRun ops (NodeProcess.Inv.start h)
  exact ⟨hq.networkManager_eq, hq.pendingMessages_eq, hq.sentMessages_eq,
    ReliableMessaging.getDeliveryRate_of_sentMessages hq.sentMessages_eq,
    hq.stalled.receivedDataSize_eq, hq.stalled.incomingTransfers_eq, hq.stalled.transferredSize_eq⟩

theorem processRun_delivers_nothing_one_message :
    let env : Env := ⟨fun _ => true, fun _ => ⟨List.replicate 32 0, rfl⟩⟩
    NodeProcess.start 1 8080 "localhost" 0 0 true none env =
        some (NodeProcess.init 1 8080 "localhost" 0 0 true) ∧
      let q := processRun (NodeProcess.init 1 8080 "localhost" 0 0 true)
        [(env, .menu (.sendReliableMessage 2 [104, 105] 7 0))]
      q.networkManager = .new ∧ q.reliableMessaging.pendingMessages = .empty ∧
        q.reliableMessaging.sentMessages = 0 ∧ q.reliableMessaging.getDeliveryRate = 0 ∧
        q.dataExchange.receivedDataSize = 0 ∧ q.dataExchange.incomingTransfers = .empty ∧
        ∀ t r, q.dataExchange.outgoingTransfers.find? t = some r → r.transferredSize = 0 := by
  intro env
  exact ⟨rfl, @processRun_delivers_nothing 1 8080 "localhost" 0 0 true none env
      (NodeProcess.init 1 8080 "localhost" 0 0 true) rfl _⟩

/-- **The exit sequence changes nothing but the failure count.**  From every state a run of the
process reaches, the local node's removal is refused, since the membership registry holds no
record of it; each leave notification is refused and counted failed; and the summary reports no
message sent, no reliable message, a delivery rate of `0` and no data received, with the server
stopped and the overlay as it was. -/
theorem processRun_shutdown {nodeID : NodeID} {port : Port} {hostname : String}
    {now steady : Nat} {bindOk : Bool} {bootstrap : Option NetworkAddress} {env : Env}
    {p : NodeProcess} (h : NodeProcess.start nodeID port hostname now steady bindOk bootstrap env = some p)
    (ops : List (Env × ProcessOp)) (env' : Env) (now' : Nat) (messageIDs : NodeID → UInt64) :
    let q := processRun p ops
    let q' := q.shutdown env' now' messageIDs
    q.overlay.removeNodeGracefully env'.connect q.overlay.node.nodeID = (false, q.overlay) ∧
      q'.overlay = q.overlay ∧ q'.serverRunning = false ∧
      q'.networkManager.sentMessageCount = 0 ∧ q'.reliableMessaging.sentMessages = 0 ∧
      q'.reliableMessaging.getDeliveryRate = 0 ∧ q'.dataExchange.receivedDataSize = 0 ∧
      q'.reliableMessaging.failedMessages =
        q.reliableMessaging.failedMessages + q.overlay.node.peerIDs.length := by
  have hq := NodeProcess.Inv.processRun ops (NodeProcess.Inv.start h)
  obtain ⟨hq', hfail⟩ := hq.foldl_sendReliableMessage env' (fun peerID =>
    createLeaveNotification (processRun p ops).overlay.node.nodeID peerID
      (Overlay.timestampAt now')) messageIDs now' (processRun p ops).overlay.node.peerIDs
  dsimp only
  rw [NodeProcess.shutdown_eq hq]
  refine ⟨Overlay.removeNode_self env'.connect hq.recordIDsValid true,
    NodeProcess.sendToPeers_overlay .., NetworkManager.stopServer_eq_false _, congrArg NetworkManager.sentMessageCount hq'.networkManager_eq,
    hq'.sentMessages_eq, ReliableMessaging.getDeliveryRate_of_sentMessages hq'.sentMessages_eq,
    hq'.stalled.receivedDataSize_eq, hfail⟩

theorem processRun_shutdown_after_boot :
    let env : Env := ⟨fun _ => true, fun _ => ⟨List.replicate 32 0, rfl⟩⟩
    NodeProcess.start 1 8080 "localhost" 0 0 true none env =
        some (NodeProcess.init 1 8080 "localhost" 0 0 true) ∧
      let q := processRun (NodeProcess.init 1 8080 "localhost" 0 0 true) [(env, .menu .exit)]
      let q' := q.shutdown env 5 fun _ => 7
      q.overlay.removeNodeGracefully env.connect q.overlay.node.nodeID = (false, q.overlay) ∧
        q'.overlay = q.overlay ∧ q'.serverRunning = false ∧
        q'.networkManager.sentMessageCount = 0 ∧ q'.reliableMessaging.sentMessages = 0 ∧
        q'.reliableMessaging.getDeliveryRate = 0 ∧ q'.dataExchange.receivedDataSize = 0 ∧
        q'.reliableMessaging.failedMessages =
          q.reliableMessaging.failedMessages + q.overlay.node.peerIDs.length := by
  intro env
  exact ⟨rfl, @processRun_shutdown 1 8080 "localhost" 0 0 true none env
      (NodeProcess.init 1 8080 "localhost" 0 0 true) rfl _ _ _ _⟩

end P2POverlay
