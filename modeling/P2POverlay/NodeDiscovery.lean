/-
**Peer-discovery limits** (`TopologyManager::discoverPeers`, `MessageHandler::handlePeerDiscovery`,
`NodeDiscovery::discoverPeers`).

`TopologyManager::discoverPeers(requester, maxPeers)` collects the registered IDs other than
the requester and the local node, and cuts the list with `resize(maxPeers)` when it is longer
than `maxPeers`.  A negative `maxPeers` is below every size, and the `resize` to it throws.  The
limit comes from the wire: `handlePeerDiscovery` copies it from the first four bytes of a
`PEER_DISCOVERY` payload, so any `int` a peer sends reaches it.

`NodeDiscovery::discoverPeers(maxPeers)` walks the registered IDs, skips the local node and the
current peers, and records each ID with a known address; it tests the limit only *after*
recording an ID, so at least one is returned whenever one qualifies, whatever the limit.

Main definitions:

* `P2POverlay.NodeDiscovery` — the discovered nodes, their discovery times, and the calls of
  `onPeerDiscovered_` so far;
* `P2POverlay.NodeDiscovery.addDiscoveredNode`, `P2POverlay.NodeDiscovery.discoverLoop`,
  `P2POverlay.NodeDiscovery.discoverPeers`.

Main results:

* `P2POverlay.TopologyManager.discoverPeers_eq_take` — without a throw, the first `maxPeers`
  eligible IDs;
* `P2POverlay.peerDiscoveryLimit_leBytes` — every `int` can be put on the wire as a limit;
* `P2POverlay.NodeDiscovery.discoverPeers_fst` — the first `max maxPeers 1` eligible IDs;
* `P2POverlay.discoverPeers_limits` — **the limits hold for non-negative limits only: a
  negative one makes `TopologyManager::discoverPeers` throw, and `NodeDiscovery` returns one ID
  for a limit of zero or less**.
-/

import P2POverlay.Overlay
import P2POverlay.Transport

set_option relaxedAutoImplicit false
set_option autoImplicit false

namespace P2POverlay

/-! ### `TopologyManager::discoverPeers` -/

namespace TopologyManager

/-- Without a throw, `discoverPeers` returns the first `maxPeers` eligible IDs. -/
theorem discoverPeers_eq_take (t : TopologyManager) (requestingNodeID : NodeID) {maxPeers : Int}
    (h : 0 ≤ maxPeers) :
    t.discoverPeers requestingNodeID maxPeers = some ((t.nodeRegistry.keys.filter fun id =>
      id ≠ requestingNodeID ∧ id ≠ t.localNodeID).take maxPeers.toNat) := by
  unfold discoverPeers
  dsimp only
  split_ifs with hlt hneg
  · omega
  · rfl
  · rw [List.take_of_length_le (by omega)]

end TopologyManager

/-- A limit written as the four little-endian bytes of an `int` is read back by
`handlePeerDiscovery` as that `int`. -/
theorem peerDiscoveryLimit_leBytes (v : Int) (h₁ : -2 ^ 31 ≤ v) (h₂ : v < 2 ^ 31) (m : Message)
    (hm : m.payload = leBytes 4 (v % 2 ^ 32).toNat) : peerDiscoveryLimit m = v := by
  have hv : (v % 2 ^ 32).toNat < 256 ^ 4 := by omega
  rw [peerDiscoveryLimit, hm, length_leBytes, if_pos (le_refl 4),
    List.take_of_length_le (length_leBytes 4 _).le, leValue_leBytes]
  dsimp only
  rw [Nat.mod_eq_of_lt hv]
  split_ifs <;> omega

/-! ### `NodeDiscovery` -/

/-- `NodeDiscovery`: `discoveredNodes_` with `discoveryTimestamps_` (seconds of the virtual
clock), and the calls of `onPeerDiscovered_` made so far.  `discoveryActive_` is read by no
modelled function and is left out. -/
structure NodeDiscovery where
  discoveredNodes : StdMap NodeID NetworkAddress
  discoveryTimestamps : StdMap NodeID Nat
  peerDiscovered : List (NodeID × NetworkAddress)

namespace NodeDiscovery

/-- `addDiscoveredNode` at second `now`. -/
def addDiscoveredNode (nd : NodeDiscovery) (nodeID : NodeID) (address : NetworkAddress) (now : Nat) :
    NodeDiscovery :=
  { nd with discoveredNodes := nd.discoveredNodes.insert nodeID address
            discoveryTimestamps := nd.discoveryTimestamps.insert nodeID now }

/-- The loop of `discoverPeers` over the known IDs, with the IDs discovered so far: skip the
local node and the current peers; record an ID with a known address, report it, and stop once
as many as `maxPeers` are discovered. -/
def discoverLoop (topology : TopologyManager) (selfID : NodeID) (currentPeers : List NodeID)
    (maxPeers : Int) (now : Nat) : List NodeID → NodeDiscovery × List NodeID → NodeDiscovery × List NodeID
  | [], r => r
  | nodeID :: rest, (nd, discovered) =>
      if nodeID = selfID then discoverLoop topology selfID currentPeers maxPeers now rest (nd, discovered)
      else if nodeID ∈ currentPeers then
        discoverLoop topology selfID currentPeers maxPeers now rest (nd, discovered)
      else
        let addr := topology.getNodeAddress nodeID
        if addr.port ≠ 0 then
          let nd := { nd.addDiscoveredNode nodeID addr now with
                      peerDiscovered := nd.peerDiscovered ++ [(nodeID, addr)] }
          let discovered := discovered ++ [nodeID]
          if maxPeers ≤ discovered.length then (nd, discovered)
          else discoverLoop topology selfID currentPeers maxPeers now rest (nd, discovered)
        else discoverLoop topology selfID currentPeers maxPeers now rest (nd, discovered)

/-- `discoverPeers(maxPeers)` at second `now`, on the node and topology it was built with: the
IDs discovered, in increasing order. -/
def discoverPeers (nd : NodeDiscovery) (node : Node) (topology : TopologyManager) (maxPeers : Int)
    (now : Nat) : List NodeID × NodeDiscovery :=
  let r := discoverLoop topology node.nodeID node.peerIDs maxPeers now topology.getAllNodeIDs (nd, [])
  (r.2, r.1)

/-- The loop returns the IDs found so far followed by the first eligible ones, up to
`max maxPeers 1` in all: the limit is tested after an ID is recorded. -/
theorem discoverLoop_snd (topology : TopologyManager) (selfID : NodeID) (currentPeers : List NodeID)
    (maxPeers : Int) (now : Nat) :
    ∀ (ids : List NodeID) (nd : NodeDiscovery) (discovered : List NodeID),
      (discovered.length : Int) < max maxPeers 1 →
      (discoverLoop topology selfID currentPeers maxPeers now ids (nd, discovered)).2 =
        discovered ++ (ids.filter fun id => id ≠ selfID ∧ id ∉ currentPeers ∧
          (topology.getNodeAddress id).port ≠ 0).take ((max maxPeers 1).toNat - discovered.length)
  | [], _, discovered, _ => by
      simp only [discoverLoop, List.filter_nil, List.take_nil, List.append_nil]
  | id :: ids, nd, discovered, h => by
      have ih := discoverLoop_snd topology selfID currentPeers maxPeers now ids
      by_cases hself : id = selfID
      · rw [discoverLoop, if_pos hself, ih _ _ h, List.filter_cons_of_neg (by simp [hself])]
      by_cases hpeer : id ∈ currentPeers
      · rw [discoverLoop, if_neg hself, if_pos hpeer, ih _ _ h,
          List.filter_cons_of_neg (by simp [hpeer])]
      by_cases hport : (topology.getNodeAddress id).port = 0
      · rw [discoverLoop, if_neg hself, if_neg hpeer]
        dsimp only
        rw [if_neg (not_not.2 hport), ih _ _ h, List.filter_cons_of_neg (by simp [hport])]
      have hk : (max maxPeers 1).toNat - discovered.length =
          (max maxPeers 1).toNat - (discovered.length + 1) + 1 := by omega
      simp only [discoverLoop, hself, hpeer, hport, if_false, ne_eq, not_false_eq_true, if_true,
        List.filter_cons, and_self, decide_True, List.length_append, List.length_singleton, hk,
        List.take_succ_cons]
      by_cases hstop : maxPeers ≤ ((discovered.length + 1 : Nat) : Int)
      · rw [if_pos hstop, show (max maxPeers 1).toNat - (discovered.length + 1) = 0 by omega,
          List.take_zero]
      · rw [if_neg hstop, ih _ _ (by rw [List.length_append, List.length_singleton]; omega),
          List.length_append, List.length_singleton, List.append_assoc, List.singleton_append]

/-- **What `NodeDiscovery::discoverPeers` returns**: the first `max maxPeers 1` registered IDs
that are not the local node, not a current peer, and have a known address. -/
theorem discoverPeers_fst (nd : NodeDiscovery) (node : Node) (topology : TopologyManager)
    (maxPeers : Int) (now : Nat) :
    (nd.discoverPeers node topology maxPeers now).1 =
      (topology.getAllNodeIDs.filter fun id => id ≠ node.nodeID ∧ id ∉ node.peerIDs ∧
        (topology.getNodeAddress id).port ≠ 0).take (max maxPeers 1).toNat := by
  rw [discoverPeers, discoverLoop_snd _ _ _ _ _ _ _ _ (by simp)]
  simp

/-! ### Discovery through bootstrap nodes -/

/-- `NodeDiscovery(node, networkManager, topologyManager)`: nothing discovered. -/
def new : NodeDiscovery := ⟨.empty, .empty, []⟩

/-- `validateNodeAddress(address)`: a host and a port, and not the local node's address. -/
def validateNodeAddress (node : Node) (address : NetworkAddress) : Bool :=
  !(address.host = "" ∨ address.port = 0) && address ≠ node.address

/-- `connectToBootstrapNode(bootstrapAddress)`: a valid address on which `connectToPeer`
succeeds.  Its `catch` is dead code, since `connectToPeer` catches its own exceptions. -/
def connectToBootstrapNode (node : Node) (nm : NetworkManager) (bootstrapAddress : NetworkAddress)
    (connect : NetworkAddress → Bool) : Bool × NetworkManager :=
  if validateNodeAddress node bootstrapAddress then nm.connectToPeer bootstrapAddress connect
  else (false, nm)

/-- The loop of `discoverNetwork` over the bootstrap nodes, ended by the first that connects. -/
def connectLoop (node : Node) (connect : NetworkAddress → Bool) :
    List NetworkAddress → NetworkManager → Bool × NetworkManager
  | [], nm => (false, nm)
  | bootstrapAddr :: rest, nm =>
      let r := connectToBootstrapNode node nm bootstrapAddr connect
      if r.1 then r else connectLoop node connect rest r.2

/-- `discoverNetwork(bootstrapNodes)` at second `now`: `false` for an empty list, or when no
bootstrap node connects (no caller sets `onDiscoveryFailed_`); otherwise
`discoverPeers(MAX_PEERS)`, whose result is only printed, and `true`. -/
def discoverNetwork (nd : NodeDiscovery) (node : Node) (topology : TopologyManager)
    (nm : NetworkManager) (bootstrapNodes : List NetworkAddress) (now : Nat)
    (connect : NetworkAddress → Bool) : Bool × NodeDiscovery × NetworkManager :=
  if bootstrapNodes.isEmpty then (false, nd, nm)
  else
    let c := connectLoop node connect bootstrapNodes nm
    if c.1 then (true, (nd.discoverPeers node topology maxPeers now).2, c.2) else (false, nd, c.2)

/-- `requestPeerList(fromNode)`: `false` for a node without a known address; otherwise a
connection unless there is one.  Nothing is sent. -/
def requestPeerList (topology : TopologyManager) (nm : NetworkManager) (fromNode : NodeID)
    (connect : NetworkAddress → Bool) : Bool × NetworkManager :=
  let addr := topology.getNodeAddress fromNode
  if addr.port = 0 then (false, nm)
  else if nm.isConnectedTo fromNode then (true, nm)
  else nm.connectToPeer addr connect

/-- `getDiscoveredNodes()`, in increasing order. -/
def getDiscoveredNodes (nd : NodeDiscovery) : List NodeID := nd.discoveredNodes.keys

/-- `getDiscoveredNodeCount()`. -/
def getDiscoveredNodeCount (nd : NodeDiscovery) : Nat := nd.discoveredNodes.size

/-- The loop only ever connects: it leaves the manager as `connectToPeer` does, unchanged. -/
theorem connectLoop_snd (node : Node) (connect : NetworkAddress → Bool) :
    ∀ (bootstrapNodes : List NetworkAddress) (nm : NetworkManager),
      (connectLoop node connect bootstrapNodes nm).2 = nm
  | [], _ => rfl
  | a :: rest, nm => by
      simp only [connectLoop, connectToBootstrapNode, NetworkManager.connectToPeer]
      split_ifs <;> simp [connectLoop_snd node connect rest]

/-- The loop reports only IDs it visits, after those reported before. -/
theorem discoverLoop_peerDiscovered (topology : TopologyManager) (selfID : NodeID)
    (currentPeers : List NodeID) (maxPeers : Int) (now : Nat) :
    ∀ (ids : List NodeID) (nd : NodeDiscovery) (discovered : List NodeID), ∃ found,
      (discoverLoop topology selfID currentPeers maxPeers now ids (nd, discovered)).1.peerDiscovered =
        nd.peerDiscovered ++ found ∧ ∀ e ∈ found, e.1 ∈ ids
  | [], nd, _ => ⟨[], by simp [discoverLoop]⟩
  | id :: ids, nd, discovered => by
      have ih := discoverLoop_peerDiscovered topology selfID currentPeers maxPeers now ids
      have hskip : ∃ found, (discoverLoop topology selfID currentPeers maxPeers now ids
          (nd, discovered)).1.peerDiscovered = nd.peerDiscovered ++ found ∧
            ∀ e ∈ found, e.1 ∈ id :: ids := by
        obtain ⟨found, hf, hmem⟩ := ih nd discovered
        exact ⟨found, hf, fun e he => List.mem_cons_of_mem _ (hmem e he)⟩
      by_cases hself : id = selfID
      · rw [discoverLoop, if_pos hself]
        exact hskip
      by_cases hpeer : id ∈ currentPeers
      · rw [discoverLoop, if_neg hself, if_pos hpeer]
        exact hskip
      rw [discoverLoop, if_neg hself, if_neg hpeer]
      dsimp only
      split_ifs
      · exact ⟨[(id, topology.getNodeAddress id)], rfl, by simp⟩
      · obtain ⟨found, hf, hmem⟩ := ih _ (discovered ++ [id])
        refine ⟨(id, topology.getNodeAddress id) :: found, by rw [hf]; simp, fun e he => ?_⟩
        rcases List.mem_cons.1 he with rfl | he
        · exact List.mem_cons_self _ _
        · exact List.mem_cons_of_mem _ (hmem e he)
      · exact hskip

/-- Every node `discoverPeers` reports is one the topology knows. -/
theorem discoverPeers_peerDiscovered (nd : NodeDiscovery) (node : Node) (topology : TopologyManager)
    (maxPeers : Int) (now : Nat) :
    ∃ found, (nd.discoverPeers node topology maxPeers now).2.peerDiscovered = nd.peerDiscovered ++ found ∧
      ∀ e ∈ found, topology.nodeExists e.1 := by
  obtain ⟨found, hf, hmem⟩ := discoverLoop_peerDiscovered topology node.nodeID node.peerIDs maxPeers now
    topology.getAllNodeIDs nd []
  exact ⟨found, hf, fun e he => decide_eq_true (StdMap.mem_iff_mem_keys.2 (hmem e he))⟩

/-- `discoverNetwork` connects through the manager but stores nothing in it. -/
theorem discoverNetwork_networkManager (nd : NodeDiscovery) (node : Node)
    (topology : TopologyManager) (nm : NetworkManager) (bootstrapNodes : List NetworkAddress)
    (now : Nat) (connect : NetworkAddress → Bool) :
    (nd.discoverNetwork node topology nm bootstrapNodes now connect).2.2 = nm := by
  unfold discoverNetwork
  dsimp only
  split_ifs <;> simp [connectLoop_snd]

/-! ### Stale entries -/

end NodeDiscovery

/-- **Peer-discovery limits hold for non-negative limits only.**  `TopologyManager::discoverPeers`
throws exactly on a negative limit; on any other it returns distinct registered IDs, none the
requester or the local node, as many as the eligible IDs or the limit, whichever is fewer.
Every `int` reaches it from the wire: four little-endian bytes in front of a `PEER_DISCOVERY`
payload are read back as that `int`, and a negative one makes `processMessage` throw.
`NodeDiscovery::discoverPeers` returns the first `max maxPeers 1` eligible IDs, so one ID for a
limit of zero or less whenever one is eligible. -/
theorem discoverPeers_limits :
    (∀ (t : TopologyManager) (requestingNodeID : NodeID) (maxPeers : Int),
      t.discoverPeers requestingNodeID maxPeers = none ↔ maxPeers < 0) ∧
    (∀ (t : TopologyManager) (requestingNodeID : NodeID) (maxPeers : Int), 0 ≤ maxPeers →
      ∃ peers, t.discoverPeers requestingNodeID maxPeers = some peers ∧ peers.Nodup ∧
        (∀ p ∈ peers, p ∈ t.nodeRegistry ∧ p ≠ requestingNodeID ∧ p ≠ t.localNodeID) ∧
        peers.length = min (t.nodeRegistry.keys.filter fun id =>
          id ≠ requestingNodeID ∧ id ≠ t.localNodeID).length maxPeers.toNat) ∧
    (∀ v : Int, -2 ^ 31 ≤ v → v < 2 ^ 31 → ∀ m : Message,
      m.payload = leBytes 4 (v % 2 ^ 32).toNat → peerDiscoveryLimit m = v) ∧
    (∀ (o : Overlay) (m : Message) (now : Nat), m.type = .peerDiscovery → peerDiscoveryLimit m < 0 →
      o.processMessage m now = none) ∧
    (∀ (nd : NodeDiscovery) (node : Node) (topology : TopologyManager) (maxPeers : Int) (now : Nat),
      (nd.discoverPeers node topology maxPeers now).1 =
        (topology.getAllNodeIDs.filter fun id => id ≠ node.nodeID ∧ id ∉ node.peerIDs ∧
          (topology.getNodeAddress id).port ≠ 0).take (max maxPeers 1).toNat) := by
  refine ⟨fun t r maxPeers => ?_, fun t r maxPeers h => ?_, fun v h₁ h₂ m hm =>
    peerDiscoveryLimit_leBytes v h₁ h₂ m hm, fun o m now ht hneg => ?_,
    NodeDiscovery.discoverPeers_fst⟩
  · rw [← Option.not_isSome_iff_eq_none, t.discoverPeers_isSome]
    omega
  · refine ⟨_, t.discoverPeers_eq_take r h, ((StdMap.keys_nodup _).filter _).sublist
      (List.take_sublist _ _), fun p hp => ?_, by rw [List.length_take, Nat.min_comm]⟩
    have hp' := List.mem_filter.1 (List.mem_of_mem_take hp)
    simp only [ne_eq, decide_eq_true_eq] at hp'
    exact ⟨StdMap.mem_iff_mem_keys.2 hp'.1, hp'.2⟩
  · rw [← Option.not_isSome_iff_eq_none, Overlay.processMessage_isSome]
    exact fun h => h ⟨ht, hneg⟩

end P2POverlay
