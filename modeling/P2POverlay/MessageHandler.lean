/-
**Control messages** (`MessageHandler::create*`, `MessageHandler::handle*`).

A handler reads the local node, the topology and the incoming message, and answers with the
messages it sends and the connections it asks the transport for.  `getCurrentTimestamp` and
`node_->getID()` are passed in.

A `JOIN_RESPONSE` payload is built by `createJoinResponse` as the node-list encoding with the
acceptance flag inserted *in front of it*, but `handleJoinResponse` hands the whole payload to
`deserializeNodeList`, which reads the count from bytes `0..3`.  The flag and the three low
bytes of the count are read as the count, and for every list of fewer than `2^24` IDs the
count read exceeds what the payload holds, so the decoder returns nothing
(`P2POverlay.createJoinResponse_peerList_empty`).

Main definitions:

* `P2POverlay.createJoinResponse`, `P2POverlay.createHeartbeat`,
  `P2POverlay.createTopologyUpdate` — messages the handlers send;
* `P2POverlay.peerDiscoveryLimit` — the limit a `PEER_DISCOVERY` asks for;
* `P2POverlay.joinResponsePeerList`, `P2POverlay.handleJoinResponse`.

Main results:

* `P2POverlay.count_flag_serializeNodeList` — the count the decoder reads from a
  flag-prefixed node list;
* `P2POverlay.createJoinResponse_peerList_empty` — **a JoinResponse carrying a non-empty list
  decodes to the empty list**;
* `P2POverlay.nodeList_codec` — **the node-list codec round-trips, decodes only encodings, and
  carries a `TOPOLOGY_UPDATE` intact**.
-/

import P2POverlay.Node
import P2POverlay.Topology
import P2POverlay.Wire

set_option relaxedAutoImplicit false
set_option autoImplicit false

namespace P2POverlay

/-! ### JoinResponse -/

/-- `createJoinResponse`: the node-list encoding of `peerList`, with the flag byte `1` or `0`
inserted at the beginning. -/
def createJoinResponse (selfID targetNodeID : NodeID) (accepted : Bool) (peerList : List NodeID)
    (now : UInt64) : Message where
  type := .joinResponse
  senderID := selfID
  receiverID := targetNodeID
  timestamp := now
  payload := (if accepted then 1 else 0) :: serializeNodeList peerList

/-- `createHeartbeat(targetNodeID)`: no payload. -/
def createHeartbeat (selfID targetNodeID : NodeID) (now : UInt64) : Message :=
  ⟨.heartbeat, selfID, targetNodeID, [], now⟩

/-- `createLeaveNotification(targetNodeID)`: no payload. -/
def createLeaveNotification (selfID targetNodeID : NodeID) (now : UInt64) : Message :=
  ⟨.leaveNotification, selfID, targetNodeID, [], now⟩

/-- `createTopologyUpdate(updatedNodes)`: addressed to `0`, the broadcast ID. -/
def createTopologyUpdate (selfID : NodeID) (updatedNodes : List NodeID) (now : UInt64) : Message :=
  ⟨.topologyUpdate, selfID, 0, serializeNodeList updatedNodes, now⟩

/-- The `int` that `handlePeerDiscovery` copies from the first four payload bytes
(little-endian, two's complement), or `MAX_PEERS` when the payload is shorter. -/
def peerDiscoveryLimit (message : Message) : Int :=
  if 4 ≤ message.payload.length then
    let v := leValue (message.payload.take 4)
    if v < 2 ^ 31 then v else (v : Int) - 2 ^ 32
  else maxPeers

/-- The peer list `handleJoinResponse` parses: `deserializeNodeList(message.payload)`. -/
def joinResponsePeerList (message : Message) : List NodeID := deserializeNodeList message.payload

/-- `handleJoinResponse`: the addresses it asks the transport to connect to, one for each
parsed ID that is not the local node, not a peer, and registered with a non-zero port. -/
def handleJoinResponse (node : Node) (topology : TopologyManager) (message : Message) :
    List NetworkAddress :=
  (joinResponsePeerList message).filterMap fun peerID =>
    if peerID ≠ node.nodeID ∧ ¬node.hasPeer peerID then
      let peerAddr := topology.getNodeAddress peerID
      if peerAddr.port ≠ 0 then some peerAddr else none
    else none

/-- The count `deserializeNodeList` reads from a node list with one byte in front: that byte and
the three low bytes of the real count. -/
theorem count_flag_serializeNodeList (b : UInt8) {nodes : List NodeID} (h : nodes.length < 2 ^ 32) :
    leValue ((b :: serializeNodeList nodes).take 4) = b.toNat + 256 * (nodes.length % 2 ^ 24) := by
  simp only [serializeNodeList, Nat.mod_eq_of_lt h, List.take_succ_cons]
  rw [List.take_append_of_le_length (by simp), take_leBytes, leValue_cons, leValue_leBytes]
  rfl

/-- **A JoinResponse with a non-empty list decodes to nothing.**  For every flag and every list
of between `1` and `2^24 - 1` IDs, the payload of `createJoinResponse` starts with the flag, and
the list `handleJoinResponse` decodes from it is empty. -/
theorem createJoinResponse_peerList_empty (selfID targetNodeID : NodeID) (accepted : Bool)
    (peerList : List NodeID) (now : UInt64) (hne : 0 < peerList.length)
    (hsmall : peerList.length < 2 ^ 24) :
    (createJoinResponse selfID targetNodeID accepted peerList now).payload.head? =
        some (if accepted then 1 else 0) ∧
      joinResponsePeerList (createJoinResponse selfID targetNodeID accepted peerList now) = [] := by
  refine ⟨rfl, ?_⟩
  have h32 : peerList.length < 2 ^ 32 := by omega
  have hcount := count_flag_serializeNodeList (if accepted then 1 else 0) h32
  have hlen := length_serializeNodeList h32
  simp only [joinResponsePeerList, deserializeNodeList, createJoinResponse, List.length_cons,
    hlen, hcount, Nat.mod_eq_of_lt hsmall]
  rw [if_neg (by omega), if_pos (by omega)]

/-- The failing input of the spec: the list `[5]` with the flag set decodes to `[]`. -/
theorem createJoinResponse_peerList_empty_five :
    (0 < [(5 : NodeID)].length ∧ [(5 : NodeID)].length < 2 ^ 24) ∧
      (createJoinResponse 1 2 true [5] 0).payload.head? = some 1 ∧
      joinResponsePeerList (createJoinResponse 1 2 true [5] 0) = [] :=
  ⟨⟨by decide, by decide⟩, createJoinResponse_peerList_empty 1 2 true [5] 0 (by decide) (by decide)⟩

/-! ### TopologyUpdate -/

/-- **The node-list codec.**  Every list of fewer than `2 ^ 32` IDs is decoded from its encoding;
on every byte string the decoder either gives up with `[]` or returns a list whose encoding is a
prefix of the string, so it reads only bytes of its input; and the list a `TOPOLOGY_UPDATE` built
by `createTopologyUpdate` carries is the list `handleTopologyUpdate` parses. -/
theorem nodeList_codec :
    (∀ nodes : List NodeID, nodes.length < 2 ^ 32 →
      deserializeNodeList (serializeNodeList nodes) = nodes) ∧
    (∀ data : Bytes,
      deserializeNodeList data = [] ∨ serializeNodeList (deserializeNodeList data) <+: data) ∧
    (∀ (selfID : NodeID) (updatedNodes : List NodeID) (now : UInt64), updatedNodes.length < 2 ^ 32 →
      deserializeNodeList (createTopologyUpdate selfID updatedNodes now).payload = updatedNodes) :=
  ⟨fun _ h => deserializeNodeList_serializeNodeList h, serializeNodeList_deserializeNodeList_prefix,
    fun _ _ _ h => deserializeNodeList_serializeNodeList h⟩

end P2POverlay
