/-
**The local node never has a membership record** (`DynamicNodeManager::validateNodeAddition`,
`DynamicNodeManager::removeNodeGracefully`).

`DynamicNodeManager::addNode` is the only code that creates a membership record, and it first
calls `validateNodeAddition`, which refuses ID `0` and the local node's own ID.  Every other
operation of the node keeps, updates or erases records, and none changes the local node's ID.
So on every state that a run of the node's operations reaches from a registry without such
records, in particular from the empty registry of the constructor, there is no record of ID `0`
and none of the local node.

The program removes the local node twice, and both times through such a record:
`SimulatedNode::leaveNetwork` calls `removeNode(nodeID_, true)`, and `main` calls
`removeNodeGracefully(node->getID())` when it shuts down.  `removeNodeGracefully` returns
`false`, before any effect, for an ID without a record (`removeNode_self`).

Main definitions:

* `P2POverlay.Overlay.RecordIDsValid` — no record of ID `0` or of the local node.

Main results:

* `P2POverlay.Overlay.step_nodeID`, `P2POverlay.NodeOp.step_nodeID` — no operation changes the
  local node's ID;
* `P2POverlay.Overlay.step_mem_nodeRegistry` — a record an operation creates passed the ID
  checks of `validateNodeAddition`;
* `P2POverlay.NodeOp.step_recordIDsValid`, `P2POverlay.nodeRun_recordIDsValid` — every operation,
  and so every run, keeps the invariant;
* `P2POverlay.Overlay.removeNode_self` — where it holds, removing the local node is refused and
  changes nothing;
* `P2POverlay.nodeRun_removeNode_self` — **on every state a run reaches from the constructor's
  registry, removing the local node is refused and changes nothing**.
-/

import P2POverlay.SharedTopology
import P2POverlay.RosterRace
import P2POverlay.Lifecycle

set_option relaxedAutoImplicit false
set_option autoImplicit false

namespace P2POverlay

namespace Overlay

variable (connect : NetworkAddress → Bool)

/-! ### The local node's ID -/

@[simp] theorem establishReplacementConnections_nodeID (o : Overlay) (replacements : List NodeID) :
    (o.establishReplacementConnections connect replacements).2.node.nodeID = o.node.nodeID := by
  show (replacements.foldl _ (false, o)).2.node.nodeID = (false, o).2.node.nodeID
  generalize (false, o) = r
  induction replacements generalizing r with
  | nil => rfl
  | cons x xs ih =>
      rw [List.foldl_cons, ih]
      dsimp only
      split_ifs
      · rfl
      · split
        · rfl
        · rename_i node hadd
          have h := Node.addPeer_nodeID r.2.node x (r.2.topology.getNodeAddress x)
          rw [hadd] at h
          exact h

@[simp] theorem ensureConnectivity_nodeID (o : Overlay) :
    o.ensureConnectivity.2.node.nodeID = o.node.nodeID := by
  unfold ensureConnectivity
  dsimp only
  split_ifs
  · exact connectAll_nodeID _ _ _
  · rfl

@[simp] theorem repairNetworkAfterNodeRemoval_nodeID (o : Overlay) (removedNodeID : NodeID) :
    (o.repairNetworkAfterNodeRemoval connect removedNodeID).2.node.nodeID = o.node.nodeID := by
  unfold repairNetworkAfterNodeRemoval
  dsimp only
  split_ifs <;> simp

@[simp] theorem removeNodeWith_nodeID (state : NodeState) (callback : NodeID → OverlayEvent)
    (o : Overlay) (nodeID : NodeID) :
    (removeNodeWith connect state callback o nodeID).2.node.nodeID = o.node.nodeID := by
  unfold removeNodeWith
  split_ifs
  · simp [detachNode]
  · rfl

theorem foldl_detectStep_node (timeoutSeconds : Int) (now : Nat) :
    ∀ (ks : List NodeID) (r : Overlay × List NodeID),
      (ks.foldl (detectStep timeoutSeconds now) r).1.node = r.1.node
  | [], _ => rfl
  | k :: ks, r => by
      rw [List.foldl_cons, foldl_detectStep_node timeoutSeconds now ks]
      unfold detectStep
      split
      · rfl
      · split_ifs <;> rfl

@[simp] theorem detectFailedNodes_nodeID (o : Overlay) (timeoutSeconds : Int) (now : Nat) :
    (o.detectFailedNodes connect timeoutSeconds now).node.nodeID = o.node.nodeID := by
  unfold detectFailedNodes
  dsimp only
  generalize (o.nodeRegistry.keys.foldl (detectStep timeoutSeconds now) (o, [])).2 = ids
  rw [← foldl_detectStep_node timeoutSeconds now o.nodeRegistry.keys (o, [])]
  generalize (o.nodeRegistry.keys.foldl (detectStep timeoutSeconds now) (o, [])).1 = o'
  induction ids generalizing o' with
  | nil => rfl
  | cons x xs ih => rw [List.foldl_cons, ih, removeNodeForced, removeNodeWith_nodeID]

@[simp] theorem maintainNetworkIntegrity_nodeID (o : Overlay) (now : Nat) :
    (o.maintainNetworkIntegrity connect now).2.node.nodeID = o.node.nodeID := by
  simp [maintainNetworkIntegrity]

@[simp] theorem addNode_nodeID (o : Overlay) (nodeID : NodeID) (address : NetworkAddress) (now : Nat) :
    (o.addNode nodeID address now).2.node.nodeID = o.node.nodeID := by
  unfold addNode
  dsimp only
  split_ifs <;> simp

@[simp] theorem addNodesFromList_nodeID (o : Overlay) (nodes : List (NodeID × NetworkAddress))
    (now : Nat) : (o.addNodesFromList nodes now).2.node.nodeID = o.node.nodeID := by
  unfold addNodesFromList
  generalize hr : (([] : List NodeID), o) = r
  obtain rfl : o = r.2 := by rw [← hr]
  clear hr
  induction nodes generalizing r with
  | nil => rfl
  | cons e es ih => rw [List.foldl_cons, ih, addNode_nodeID]

theorem processMessage_nodeID {o o' : Overlay} {message : Message} {now : Nat}
    (h : o.processMessage message now = some o') : o'.node.nodeID = o.node.nodeID := by
  unfold processMessage handlePeerDiscovery at h
  split at h
  case h_5 => obtain rfl := Option.some.inj h; rfl
  case h_7 =>
    obtain ⟨_, -, rfl⟩ := Option.map_eq_some'.mp h
    rfl
  case h_6 =>
    obtain rfl := Option.some.inj h
    simp only [handleTopologyUpdate]
    generalize deserializeNodeList message.payload = ids
    generalize o.node = n
    induction ids generalizing n with
    | nil => rfl
    | cons x xs ih => rw [List.foldl_cons, ih]; split_ifs <;> simp
  all_goals obtain rfl := Option.some.inj h; simp [handleJoinRequest, handleJoinResponse,
    handleLeaveNotification, handleHeartbeat, Node.updateLastSeen]

/-- No operation changes the local node's ID. -/
theorem step_nodeID {o o' : Overlay} {op : OverlayOp} (h : o.step connect op = some o') :
    o'.node.nodeID = o.node.nodeID := by
  cases op with
  | processMessage => exact processMessage_nodeID h
  | addNodeWithValidation nodeID address now =>
      obtain rfl := Option.some.inj h
      unfold addNodeWithValidation
      split_ifs <;> simp
  | setNodeState | handleTopologyChange => obtain rfl := Option.some.inj h; rfl
  | recoverFromNodeFailure failedNodeID =>
      obtain rfl := Option.some.inj h
      unfold recoverFromNodeFailure
      dsimp only
      split_ifs <;> simp
  | removeNode nodeID graceful =>
      obtain rfl := Option.some.inj h
      unfold removeNode removeNodeGracefully removeNodeForced
      split_ifs <;> simp
  | _ => obtain rfl := Option.some.inj h; simp

/-! ### The records -/

/-- No membership record is of ID `0` or of the local node: every record passed the ID checks of
`validateNodeAddition`. -/
def RecordIDsValid (o : Overlay) : Prop := ∀ k ∈ o.nodeRegistry, k ≠ 0 ∧ k ≠ o.node.nodeID

theorem addNode_mem_nodeRegistry {o : Overlay} {nodeID k : NodeID} {address : NetworkAddress}
    {now : Nat} (hk : k ∈ (o.addNode nodeID address now).2.nodeRegistry) :
    k ∈ o.nodeRegistry ∨ (k ≠ 0 ∧ k ≠ o.node.nodeID) := by
  rcases h : o.addNode nodeID address now with ⟨_ | _, o'⟩
  · rw [addNode_eq_self_of_fst_eq_false (by rw [h])] at hk
    exact .inl hk
  · obtain ⟨hv, -, -, -, -, hreg⟩ := addNode_eq_true h
    rw [h, hreg, StdMap.mem_insert] at hk
    rcases hk with rfl | hk
    · simp only [validateNodeAddition, decide_eq_true_eq] at hv
      exact .inr ⟨hv.1, hv.2.2.2⟩
    · exact .inl hk

theorem addNodesFromList_mem_nodeRegistry {o : Overlay} {nodes : List (NodeID × NetworkAddress)}
    {now : Nat} {k : NodeID} (hk : k ∈ (o.addNodesFromList nodes now).2.nodeRegistry) :
    k ∈ o.nodeRegistry ∨ (k ≠ 0 ∧ k ≠ o.node.nodeID) := by
  unfold addNodesFromList at hk
  generalize hr : (([] : List NodeID), o) = r at hk
  obtain rfl : o = r.2 := by rw [← hr]
  clear hr
  induction nodes generalizing r with
  | nil => exact .inl hk
  | cons e es ih =>
      rw [List.foldl_cons] at hk
      rcases ih _ hk with hk | hk
      · exact addNode_mem_nodeRegistry hk
      · exact .inr (by simpa using hk)

theorem mem_of_detectFailedNodes {o : Overlay} {timeoutSeconds : Int} {now : Nat} {k : NodeID}
    (hk : k ∈ (o.detectFailedNodes connect timeoutSeconds now).nodeRegistry) : k ∈ o.nodeRegistry := by
  rw [StdMap.mem_iff_find?, detectFailedNodes_find?] at hk
  cases h : o.nodeRegistry.find? k with
  | none => simp [h] at hk
  | some _ => exact StdMap.mem_of_find? h

/-- A record an operation creates passed the ID checks of `validateNodeAddition`; every other
record after the operation was there before it. -/
theorem step_mem_nodeRegistry {o o' : Overlay} {op : OverlayOp} (h : o.step connect op = some o')
    {k : NodeID} (hk : k ∈ o'.nodeRegistry) : k ∈ o.nodeRegistry ∨ (k ≠ 0 ∧ k ≠ o.node.nodeID) := by
  cases op with
  | processMessage => exact .inl (processMessage_nodeRegistry h ▸ hk)
  | addNode => obtain rfl := Option.some.inj h; exact addNode_mem_nodeRegistry hk
  | addNodeWithValidation nodeID address now =>
      obtain rfl := Option.some.inj h
      unfold addNodeWithValidation at hk
      split_ifs at hk
      · exact .inl hk
      · exact addNode_mem_nodeRegistry hk
  | addNodesFromList => obtain rfl := Option.some.inj h; exact addNodesFromList_mem_nodeRegistry hk
  | removeNode nodeID graceful =>
      obtain rfl := Option.some.inj h
      have hsub : ∀ state callback,
          k ∈ (removeNodeWith connect state callback o nodeID).2.nodeRegistry → k ∈ o.nodeRegistry :=
        fun state callback hk => by
          rw [StdMap.mem_iff_find?, removeNodeWith_find?] at hk
          split_ifs at hk
          · simp at hk
          · exact hk
      unfold removeNode removeNodeGracefully removeNodeForced at hk
      split_ifs at hk <;> exact .inl (hsub _ _ hk)
  | setNodeState | handleTopologyChange =>
      obtain rfl := Option.some.inj h
      exact .inl (StdMap.mem_modify.1 hk)
  | detectFailedNodes timeoutSeconds now =>
      obtain rfl := Option.some.inj h
      exact .inl (mem_of_detectFailedNodes connect hk)
  | recoverFromNodeFailure failedNodeID =>
      obtain rfl := Option.some.inj h
      unfold recoverFromNodeFailure at hk
      dsimp only at hk
      split_ifs at hk
      · exact .inl hk
      · exact .inl (establishReplacementConnections_nodeRegistry connect _ _ ▸ hk)
  | maintainNetworkIntegrity now =>
      obtain rfl := Option.some.inj h
      rw [maintainNetworkIntegrity, ensureConnectivity_nodeRegistry] at hk
      have hk' := mem_of_detectFailedNodes connect hk
      exact .inl hk'
  | repairNetworkAfterNodeRemoval =>
      obtain rfl := Option.some.inj h
      exact .inl (repairNetworkAfterNodeRemoval_nodeRegistry connect _ _ ▸ hk)
  | ensureConnectivity =>
      obtain rfl := Option.some.inj h
      exact .inl (ensureConnectivity_nodeRegistry _ ▸ hk)

theorem step_recordIDsValid {o o' : Overlay} {op : OverlayOp} (h : o.step connect op = some o')
    (hv : o.RecordIDsValid) : o'.RecordIDsValid := fun k hk => by
  rw [step_nodeID connect h]
  rcases step_mem_nodeRegistry connect h hk with hk | hk
  · exact hv k hk
  · exact hk

/-- Removing a node without a record, gracefully or not, is refused and changes nothing. -/
theorem removeNode_of_not_mem {o : Overlay} {nodeID : NodeID} (h : nodeID ∉ o.nodeRegistry)
    (graceful : Bool) : o.removeNode connect nodeID graceful = (false, o) := by
  unfold removeNode removeNodeGracefully removeNodeForced removeNodeWith
  split_ifs <;> rfl

/-- **Removing the local node is refused** on every state without a record of it. -/
theorem removeNode_self {o : Overlay} (hv : o.RecordIDsValid) (graceful : Bool) :
    o.removeNode connect o.node.nodeID graceful = (false, o) :=
  removeNode_of_not_mem connect (fun hm => (hv _ hm).2 rfl) graceful

end Overlay

/-! ### Runs with registration requests -/

theorem NodeRegistration.acceptRegistration_overlay (r : NodeRegistration) (o : Overlay)
    (nodeID : NodeID) (address : NetworkAddress) :
    (r.acceptRegistration o nodeID address).2.2.nodeRegistry = o.nodeRegistry ∧
      (r.acceptRegistration o nodeID address).2.2.node.nodeID = o.node.nodeID := by
  unfold NodeRegistration.acceptRegistration
  dsimp only
  split_ifs <;> simp

theorem NodeRegistration.handleRegistrationRequest_overlay (r : NodeRegistration) (o : Overlay)
    (now : TimePoint) (request : RegistrationRequest) :
    (r.handleRegistrationRequest o now request).2.2.nodeRegistry = o.nodeRegistry ∧
      (r.handleRegistrationRequest o now request).2.2.node.nodeID = o.node.nodeID := by
  unfold NodeRegistration.handleRegistrationRequest
  split_ifs
  · exact ⟨rfl, rfl⟩
  · exact ⟨rfl, rfl⟩
  · exact ⟨rfl, rfl⟩
  · exact NodeRegistration.acceptRegistration_overlay r o request.nodeID request.address

variable (connect : NetworkAddress → Bool)

theorem NodeOp.step_nodeID {s s' : NodeRegistration × Overlay} {op : NodeOp}
    (h : op.step connect s = some s') : s'.2.node.nodeID = s.2.node.nodeID := by
  cases op with
  | overlay op =>
      obtain ⟨o, ho, rfl⟩ := Option.map_eq_some'.mp h
      exact Overlay.step_nodeID connect ho
  | handleRegistrationRequest request now =>
      obtain rfl := Option.some.inj h
      exact (NodeRegistration.handleRegistrationRequest_overlay s.1 s.2 now request).2

/-- The step lemma: every operation keeps the invariant. -/
theorem NodeOp.step_recordIDsValid {s s' : NodeRegistration × Overlay} {op : NodeOp}
    (h : op.step connect s = some s') (hv : s.2.RecordIDsValid) : s'.2.RecordIDsValid := by
  cases op with
  | overlay op =>
      obtain ⟨o, ho, rfl⟩ := Option.map_eq_some'.mp h
      exact Overlay.step_recordIDsValid connect ho hv
  | handleRegistrationRequest request now =>
      obtain rfl := Option.some.inj h
      obtain ⟨hreg, hid⟩ := NodeRegistration.handleRegistrationRequest_overlay s.1 s.2 now request
      intro k hk
      rw [hid]
      exact hv k (hreg ▸ hk)

/-- The run lemma: every run keeps the invariant. -/
theorem nodeRun_recordIDsValid : ∀ (ops : List NodeOp) {s s' : NodeRegistration × Overlay},
    nodeRun connect s ops = some s' → s.2.RecordIDsValid → s'.2.RecordIDsValid
  | [], _, _, h, hv => by cases h; exact hv
  | op :: ops, _, _, h, hv => by
      obtain ⟨s₁, h₁, h'⟩ := Option.bind_eq_some.mp h
      exact nodeRun_recordIDsValid ops h' (NodeOp.step_recordIDsValid connect h₁ hv)

/-- **Removing the local node is always refused.**  Start from a state without a record of ID `0`
or of the local node, as the constructor's empty registry, and run any interleaving of messages,
membership operations and registration requests.  On the state reached there is still no such
record, so `removeNode` of the local node, graceful or forced, returns `false` and changes
nothing. -/
theorem nodeRun_removeNode_self (s₀ : NodeRegistration × Overlay) (h₀ : s₀.2.RecordIDsValid)
    (ops : List NodeOp) {s : NodeRegistration × Overlay} (h : nodeRun connect s₀ ops = some s) :
    s.2.RecordIDsValid ∧
      ∀ graceful, s.2.removeNode connect s.2.node.nodeID graceful = (false, s.2) := by
  have hv := nodeRun_recordIDsValid connect ops h h₀
  exact ⟨hv, Overlay.removeNode_self connect hv⟩

/-- A fresh node that adds one peer. -/
theorem nodeRun_removeNode_self_one_addition :
    let s₀ : NodeRegistration × Overlay :=
      (⟨StdMap.empty, none, []⟩, Overlay.new ⟨1, ⟨"a", 9000⟩, [], [], 0⟩)
    let s : NodeRegistration × Overlay := (s₀.1, (s₀.2.addNode 2 ⟨"b", 9001⟩ 0).2)
    (s₀.2.RecordIDsValid ∧ nodeRun (fun _ => true) s₀ [.overlay (.addNode 2 ⟨"b", 9001⟩ 0)] = some s) ∧
      s.2.RecordIDsValid ∧
      ∀ graceful, s.2.removeNode (fun _ => true) s.2.node.nodeID graceful = (false, s.2) := by
  intro s₀ s
  have hv : s₀.2.RecordIDsValid := fun k hk => absurd hk (StdMap.not_mem_empty k)
  exact ⟨⟨hv, rfl⟩,
    nodeRun_removeNode_self (fun _ => true) s₀ hv [.overlay (.addNode 2 ⟨"b", 9001⟩ 0)] rfl⟩

end P2POverlay
