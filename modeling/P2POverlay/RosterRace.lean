/-
**The roster and the topology can disagree** (`MessageHandler::handleLeaveNotification`,
`DynamicNodeManager::ensureConnectivity`).

`handleLeaveNotification(x)` drops `x` from the roster, under `peersMutex_`, and then removes it
from the topology, under `topologyMutex_`; nothing is held between the two.  An
`ensureConnectivity` that runs in between still finds `x` registered, with its address, and not
in the roster, so it takes `x` back as a peer; the handler then removes `x` from the topology.
The roster ends with a peer the topology does not know.  Run back to back, the two steps are the
handler (`P2POverlay.Overlay.leaveTopologyStep_leaveRosterStep`).

Main definitions:

* `P2POverlay.Overlay.leaveRosterStep`, `P2POverlay.Overlay.leaveTopologyStep` — the two locked
  steps of `handleLeaveNotification`;
* `P2POverlay.LeavePc`, `P2POverlay.LeaveOp`, `P2POverlay.LeaveSys`, `P2POverlay.leaveRun` — a
  thread handling a `LEAVE_NOTIFICATION`, interleaved with the other operations.

Main results:

* `P2POverlay.Overlay.mem_connectAll` — the loop of `ensureConnectivity` takes in every listed ID
  with an address while the roster has room;
* `P2POverlay.leaveRun_sequential` — a check of the thread model: the handling thread alone does
  what the handler does;
* `P2POverlay.leaveNotification_ensureConnectivity_race` — **the interleaving leaves a peer that
  is not registered**.
-/

import P2POverlay.Connectivity

set_option relaxedAutoImplicit false
set_option autoImplicit false

namespace P2POverlay

theorem TopologyManager.not_mem_removeNode (t : TopologyManager) (x : NodeID) :
    x ∉ (t.removeNode x).2.nodeRegistry := by
  unfold TopologyManager.removeNode
  split_ifs with h
  · simp
  · exact h

namespace Overlay

/-! ### The loop of `ensureConnectivity` -/

theorem connectAll_cons (o : Overlay) (selfID a : NodeID) (rest : List NodeID) :
    o.connectAll selfID (a :: rest) =
      (if a = selfID ∨ o.node.hasPeer a ∨ maxPeers ≤ o.node.getPeerCount ∨
          (o.topology.getNodeAddress a).port = 0 then o
        else { o with node := (o.node.addPeer a (o.topology.getNodeAddress a)).2,
                      events := o.events ++ [.connectToPeer (o.topology.getNodeAddress a)] }).connectAll
        selfID rest := rfl

/-- The loop keeps every peer. -/
theorem peerIDs_subset_connectAll (selfID : NodeID) {q : NodeID} :
    ∀ (allNodes : List NodeID) (o : Overlay), q ∈ o.node.peerIDs →
      q ∈ (o.connectAll selfID allNodes).node.peerIDs
  | [], _, hq => hq
  | a :: rest, o, hq => by
      rw [connectAll_cons]
      refine peerIDs_subset_connectAll selfID rest _ ?_
      split_ifs
      · exact hq
      · exact Node.mem_addPeer _ hq

/-- The loop keeps the local node. -/
theorem connectAll_nodeID (selfID : NodeID) :
    ∀ (allNodes : List NodeID) (o : Overlay), (o.connectAll selfID allNodes).node.nodeID = o.node.nodeID
  | [], _ => rfl
  | a :: rest, o => by
      rw [connectAll_cons, connectAll_nodeID selfID rest]
      split_ifs
      · rfl
      · exact Node.addPeer_nodeID _ _ _

/-- **The loop takes in every listed ID other than `selfID` with an address**, when the roster
has room for the whole list. -/
theorem mem_connectAll (selfID : NodeID) {x : NodeID} (hself : x ≠ selfID) :
    ∀ (allNodes : List NodeID) (o : Overlay), x ∈ allNodes → (o.topology.getNodeAddress x).port ≠ 0 →
      o.node.peerIDs.length + allNodes.length ≤ maxPeers → x ∈ (o.connectAll selfID allNodes).node.peerIDs
  | [], _, h, _, _ => absurd h (List.not_mem_nil _)
  | a :: rest, o, hx, hport, hroom => by
      rw [List.length_cons] at hroom
      rw [connectAll_cons]
      split_ifs with hskip
      · by_cases hxa : x = a
        · subst hxa
          rcases hskip with h | h | h | h
          · exact absurd h hself
          · exact peerIDs_subset_connectAll selfID _ _ (of_decide_eq_true h)
          · exact absurd h (not_le.2 (by unfold Node.getPeerCount; omega))
          · exact absurd h hport
        · exact mem_connectAll selfID hself rest o ((List.mem_cons.1 hx).resolve_left hxa) hport
            (by omega)
      · simp only [not_or] at hskip
        by_cases hxa : x = a
        · subst hxa
          exact peerIDs_subset_connectAll selfID _ _ (Node.mem_addPeer_self _
            (fun h => hskip.2.1 (decide_eq_true h)) (not_le.1 hskip.2.2.1))
        · refine mem_connectAll selfID hself rest _ ((List.mem_cons.1 hx).resolve_left hxa) hport ?_
          have := Node.length_addPeer_le o.node x (o.topology.getNodeAddress x)
          have := Node.length_addPeer_le o.node a (o.topology.getNodeAddress a)
          dsimp only
          omega

/-! ### The two steps of `handleLeaveNotification` -/

/-- The first locked step of `handleLeaveNotification`: `node_->removePeer(senderID)`. -/
def leaveRosterStep (o : Overlay) (message : Message) : Overlay :=
  { o with node := (o.node.removePeer message.senderID).2 }

/-- The rest of `handleLeaveNotification`: `topologyManager_->removeNode(senderID)`, then the
broadcast of a `TOPOLOGY_UPDATE` naming the sender. -/
def leaveTopologyStep (o : Overlay) (message : Message) (now : Nat) : Overlay :=
  let update := createTopologyUpdate o.node.nodeID [message.senderID] (timestampAt now)
  { o with topology := (o.topology.removeNode message.senderID).2
           events := o.events ++ [.broadcastMessage update message.senderID] }

/-- Back to back, the two steps are `handleLeaveNotification`. -/
theorem leaveTopologyStep_leaveRosterStep (o : Overlay) (message : Message) (now : Nat) :
    (o.leaveRosterStep message).leaveTopologyStep message now = o.handleLeaveNotification message now := by
  simp [leaveTopologyStep, leaveRosterStep, handleLeaveNotification]

end Overlay

/-! ### Interleavings -/

/-- Where a call of `handleLeaveNotification` is: not running, or past its roster step, with the
message and the second it handles. -/
inductive LeavePc where
  | idle
  | removedPeer (message : Message) (now : Nat)

/-- What happens next: the handling thread takes its next step (starting on `message` at second
`now` if it is idle), or another thread runs an operation whole. -/
inductive LeaveOp where
  | leave (message : Message) (now : Nat)
  | op (op : OverlayOp)

/-- The node, and where the handling thread is. -/
structure LeaveSys where
  overlay : Overlay
  pc : LeavePc

namespace LeaveSys

/-- One step; `none` when an operation throws. -/
def step (connect : NetworkAddress → Bool) (s : LeaveSys) : LeaveOp → Option LeaveSys
  | .leave message now =>
      match s.pc with
      | .idle => some ⟨s.overlay.leaveRosterStep message, .removedPeer message now⟩
      | .removedPeer m n => some ⟨s.overlay.leaveTopologyStep m n, .idle⟩
  | .op op => (s.overlay.step connect op).map fun o => ⟨o, s.pc⟩

end LeaveSys

/-- A schedule of steps; `none` once an operation throws. -/
def leaveRun (connect : NetworkAddress → Bool) (s : LeaveSys) (ops : List LeaveOp) :
    Option LeaveSys :=
  ops.foldlM (LeaveSys.step connect) s

/-- The handling thread alone does what `handleLeaveNotification` does. -/
theorem leaveRun_sequential (connect : NetworkAddress → Bool) (o : Overlay) (message : Message)
    (now : Nat) :
    leaveRun connect ⟨o, .idle⟩ [.leave message now, .leave message now] =
      some ⟨o.handleLeaveNotification message now, .idle⟩ := by
  simp [leaveRun, LeaveSys.step, Overlay.leaveTopologyStep_leaveRosterStep]

/-- **A leave that races `ensureConnectivity` leaves a peer the topology does not know.**  Let the
sender `x` of a `LEAVE_NOTIFICATION` be registered with an address, not the local node, and let
the roster have room for every registered ID.  If `ensureConnectivity` runs between the roster
step and the topology step of the handler, the run ends with the handler done, `x` in the roster
of the same local node, and `x` no longer registered. -/
theorem leaveNotification_ensureConnectivity_race (connect : NetworkAddress → Bool) (o : Overlay)
    (message : Message) (now : Nat) (hx : message.senderID ∈ o.topology.nodeRegistry)
    (hport : (o.topology.getNodeAddress message.senderID).port ≠ 0)
    (hself : message.senderID ≠ o.node.nodeID)
    (hroom : o.node.getPeerCount + o.topology.nodeRegistry.size ≤ maxPeers) :
    ∃ o', leaveRun connect ⟨o, .idle⟩
        [.leave message now, .op .ensureConnectivity, .leave message now] = some ⟨o', .idle⟩ ∧
      o'.node.nodeID = o.node.nodeID ∧ message.senderID ∈ o'.node.peerIDs ∧
      message.senderID ∉ o'.topology.nodeRegistry := by
  set o₁ := o.leaveRosterStep message
  have hlen : o₁.node.peerIDs.length ≤ o.node.peerIDs.length :=
    Node.length_removePeer_le o.node message.senderID
  have hkeys : o.topology.getAllNodeIDs.length = o.topology.nodeRegistry.size := List.length_map _ _
  have hsize : 1 ≤ o.topology.nodeRegistry.size :=
    hkeys ▸ List.length_pos_of_mem (StdMap.mem_iff_mem_keys.1 hx)
  have hroom₁ : o₁.node.getPeerCount < maxPeers := by
    unfold Node.getPeerCount at hroom ⊢
    omega
  have hconn : o₁.ensureConnectivity.2 = o₁.connectAll o₁.node.nodeID o.topology.getAllNodeIDs :=
    if_pos hroom₁
  refine ⟨o₁.ensureConnectivity.2.leaveTopologyStep message now, by
    simp [leaveRun, LeaveSys.step, Overlay.step, o₁], ?_, ?_, ?_⟩
  · rw [Overlay.leaveTopologyStep, hconn, Overlay.connectAll_nodeID]
    exact Node.removePeer_nodeID _ _
  · rw [Overlay.leaveTopologyStep, hconn]
    exact Overlay.mem_connectAll _ (Node.removePeer_nodeID o.node _ ▸ hself) _ o₁
      (StdMap.mem_iff_mem_keys.1 hx) hport
      (by unfold Node.getPeerCount at hroom; omega)
  · simp only [Overlay.leaveTopologyStep]
    exact TopologyManager.not_mem_removeNode _ _

/-- The failing input of the spec: node `1`, registered with its peer `2`, receives a
`LEAVE_NOTIFICATION` from `2`. -/
theorem leaveNotification_ensureConnectivity_race_two :
    let o : Overlay :=
      { Overlay.new ⟨1, ⟨"a", 1⟩, [2], [⟨"b", 2⟩], 0⟩ with
        topology := (((TopologyManager.new 1).addNode 1 ⟨"a", 1⟩).2.addNode 2 ⟨"b", 2⟩).2 }
    let message : Message := ⟨.leaveNotification, 2, 1, [], 0⟩
    ((o.node.nodeID ∈ o.topology.nodeRegistry ∧
        ∀ p ∈ o.node.peerIDs, p ∈ o.topology.nodeRegistry ∧ p ≠ o.node.nodeID) ∧
      message.senderID ∈ o.topology.nodeRegistry ∧
      (o.topology.getNodeAddress message.senderID).port ≠ 0 ∧ message.senderID ≠ o.node.nodeID ∧
      o.node.getPeerCount + o.topology.nodeRegistry.size ≤ maxPeers) ∧
    ∃ o', leaveRun (fun _ => true) ⟨o, .idle⟩
        [.leave message 0, .op .ensureConnectivity, .leave message 0] = some ⟨o', .idle⟩ ∧
      o'.node.nodeID = o.node.nodeID ∧ message.senderID ∈ o'.node.peerIDs ∧
      message.senderID ∉ o'.topology.nodeRegistry := by
  intro o message
  have hx : message.senderID ∈ o.topology.nodeRegistry := by decide
  exact ⟨⟨by decide, hx, by decide, by decide, by decide⟩,
    leaveNotification_ensureConnectivity_race _ o message 0 hx (by decide) (by decide) (by decide)⟩

end P2POverlay
