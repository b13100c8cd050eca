/-
**A node's shared components, and message dispatch** (`MessageHandler::processMessage`,
`DynamicNodeManager.h`).

`MessageHandler` and `DynamicNodeManager` act on the same `Node` and the same
`TopologyManager`; `DynamicNodeManager` adds its own membership registry `nodeRegistry_`, a
record per known node with its state, the time it was last seen and a failure count.  An
`Overlay` is these four together with the calls made so far on the transport
(`NetworkManager`) and on the user callbacks, in order.

`processMessage` looks the message type up in the handler table filled by the constructor:
seven types have a handler, the others are reported on `stderr` and dropped.  The clock is a
virtual clock in seconds; `getCurrentTimestamp` reads it in milliseconds.  The only handler
that can throw is `handlePeerDiscovery`, through `discoverPeers` with a negative limit.

No handler reads or writes the membership registry (`processMessage_nodeRegistry`): in
particular `handleHeartbeat` refreshes the local node's own `lastSeen`, not the sender's record.

Main definitions:

* `P2POverlay.NodeState`, `P2POverlay.NodeInfo` — a membership record;
* `P2POverlay.OverlayEvent` — a call on the transport or a user callback;
* `P2POverlay.Overlay` — the node, the topology, the membership registry, the calls so far;
* `handleJoinRequest`, `handleJoinResponse`, `handleLeaveNotification`, `handleHeartbeat`,
  `handleTopologyUpdate`, `handlePeerDiscovery`, `processMessage` — the message handler.

Main results:

* `P2POverlay.Overlay.processMessage_isSome` — which messages are processed without throwing;
* `P2POverlay.Overlay.processMessage_nodeRegistry` — processing a message leaves the membership
  registry as it was.
-/

import P2POverlay.MessageHandler

set_option relaxedAutoImplicit false
set_option autoImplicit false

namespace P2POverlay

/-- `NodeState`. -/
inductive NodeState where
  | joining | active | leaving | failed | unknown
  deriving DecidableEq, Repr

/-- `NodeInfo`: a membership record; the two time points are seconds of the virtual clock. -/
structure NodeInfo where
  nodeID : NodeID
  address : NetworkAddress
  state : NodeState
  lastSeen : Nat
  joinTime : Nat
  failureCount : Int
  deriving DecidableEq, Repr

/-- A call made on the transport (`NetworkManager`) or on a user callback of
`DynamicNodeManager`. -/
inductive OverlayEvent where
  | sendMessageToPeer (peerID : NodeID) (message : Message)
  | broadcastMessage (message : Message) (excludeID : NodeID)
  | connectToPeer (address : NetworkAddress)
  | disconnectFromPeer (peerID : NodeID)
  | nodeAdded (nodeID : NodeID) (address : NetworkAddress)
  | nodeRemoved (nodeID : NodeID)
  | nodeFailed (nodeID : NodeID)
  | networkRepaired
  deriving DecidableEq, Repr

/-- The components of one node that `MessageHandler` and `DynamicNodeManager` share, with
`DynamicNodeManager::nodeRegistry_` as `nodeRegistry`, and the calls made so far. -/
structure Overlay where
  node : Node
  topology : TopologyManager
  nodeRegistry : StdMap NodeID NodeInfo
  events : List OverlayEvent

namespace Overlay

/-- A node with no peers, an empty topology and an empty membership registry. -/
def new (node : Node) : Overlay := ⟨node, .new node.nodeID, .empty, []⟩

/-- `getCurrentTimestamp()` at second `now`: milliseconds. -/
def timestampAt (now : Nat) : UInt64 := UInt64.ofNat (now * 1000)

/-! ### The handlers -/

/-- `handleJoinRequest`: accept when the roster has room, and answer with a `JOIN_RESPONSE`
carrying up to `MAX_PEERS` other registered IDs (`discoverPeers` with a non-negative limit does
not throw). -/
def handleJoinRequest (o : Overlay) (message : Message) (now : Nat) : Overlay :=
  let accepted := decide (o.node.getPeerCount < maxPeers)
  let peerList := if accepted then (o.topology.discoverPeers message.senderID maxPeers).getD [] else []
  let response := createJoinResponse o.node.nodeID message.senderID accepted peerList (timestampAt now)
  { o with events := o.events ++ [.sendMessageToPeer message.senderID response] }

/-- `handleJoinResponse`: connect to each suggested peer it can resolve. -/
def handleJoinResponse (o : Overlay) (message : Message) : Overlay :=
  { o with events := o.events ++
      (P2POverlay.handleJoinResponse o.node o.topology message).map .connectToPeer }

/-- `handleLeaveNotification`: drop the sender from the roster and the topology, and broadcast
a `TOPOLOGY_UPDATE` naming it to every peer but the sender. -/
def handleLeaveNotification (o : Overlay) (message : Message) (now : Nat) : Overlay :=
  let update := createTopologyUpdate o.node.nodeID [message.senderID] (timestampAt now)
  { o with node := (o.node.removePeer message.senderID).2
           topology := (o.topology.removeNode message.senderID).2
           events := o.events ++ [.broadcastMessage update message.senderID] }

/-- `handleHeartbeat`: `node_->updateLastSeen()`, the local node's own time, and a heartbeat
back to the sender. -/
def handleHeartbeat (o : Overlay) (message : Message) (now : Nat) : Overlay :=
  { o with node := o.node.updateLastSeen now
           events := o.events ++ [.sendMessageToPeer message.senderID
             (createHeartbeat o.node.nodeID message.senderID (timestampAt now))] }

/-- `handleTopologyUpdate`: drop from the roster every listed ID the topology does not know,
then `checkNetworkIntegrity`. -/
def handleTopologyUpdate (o : Overlay) (message : Message) : Overlay :=
  { o with
    node := (deserializeNodeList message.payload).foldl (fun n nodeID =>
      if o.topology.nodeExists nodeID then n else (n.removePeer nodeID).2) o.node
    topology := o.topology.checkNetworkIntegrity.2 }

/-- `handlePeerDiscovery`: answer with a `JOIN_RESPONSE` carrying the discovered peers; throws
(`none`) when the requested limit is negative. -/
def handlePeerDiscovery (o : Overlay) (message : Message) (now : Nat) : Option Overlay :=
  (o.topology.discoverPeers message.senderID (peerDiscoveryLimit message)).map fun peers =>
    { o with events := o.events ++ [.sendMessageToPeer message.senderID
        (createJoinResponse o.node.nodeID message.senderID true peers (timestampAt now))] }

/-- `processMessage` at second `now`: the handler registered for the type.  `DATA_MESSAGE` is
only printed; the five unregistered types are reported and dropped. -/
def processMessage (o : Overlay) (message : Message) (now : Nat) : Option Overlay :=
  match message.type with
  | .joinRequest => some (o.handleJoinRequest message now)
  | .joinResponse => some (o.handleJoinResponse message)
  | .leaveNotification => some (o.handleLeaveNotification message now)
  | .heartbeat => some (o.handleHeartbeat message now)
  | .dataMessage => some o
  | .topologyUpdate => some (o.handleTopologyUpdate message)
  | .peerDiscovery => o.handlePeerDiscovery message now
  | .routeMessage | .messageAck | .dataChunk | .transferRequest | .transferResponse => some o

/-! ### What processing a message can do -/

/-- A message is processed without throwing unless it is a `PEER_DISCOVERY` asking for a
negative number of peers. -/
theorem processMessage_isSome (o : Overlay) (message : Message) (now : Nat) :
    (o.processMessage message now).isSome ↔
      ¬(message.type = .peerDiscovery ∧ peerDiscoveryLimit message < 0) := by
  unfold processMessage handlePeerDiscovery
  split <;> simp [TopologyManager.discoverPeers_isSome, *]

/-- Processing a message leaves the membership registry as it was. -/
theorem processMessage_nodeRegistry {o o' : Overlay} {message : Message} {now : Nat}
    (h : o.processMessage message now = some o') : o'.nodeRegistry = o.nodeRegistry := by
  unfold processMessage handlePeerDiscovery at h
  split at h
  case h_7 =>
    obtain ⟨_, -, rfl⟩ := Option.map_eq_some'.mp h
    rfl
  all_goals cases h; rfl

end Overlay

end P2POverlay
