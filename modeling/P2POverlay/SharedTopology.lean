/-
**The shared topology keeps its invariant** (`SimulatedNode`).

A simulated node builds `MessageHandler`, `DynamicNodeManager` and `NodeRegistration` on the same
`Node` and the same `TopologyManager`, so the three change one topology, interleaved in any order.
None of them writes it directly: each changes it only by calling the public operations of
`TopologyManager`.  A leave notification calls `removeNode`, a topology update
`checkNetworkIntegrity`; `addNode` and `acceptRegistration` call `addNode`, and a registration
refused by the roster then calls `removeNode`; a removal calls `removeNode`, then
`repairTopology` when the graph is not connected, then `checkNetworkIntegrity`;
`maintainNetworkIntegrity` calls `validateTopology` and, when the graph is not connected,
`repairTopology`.  Everything else they write is the roster, the membership registry, the
pending registrations and the calls made so far.

So whatever a run of the node does to its topology, a run of topology operations does too
(`nodeRun_topology`), and every property that those operations keep holds on the topology of
every state the node reaches.  The representation invariant `TopologyManager.Inv` is one such
property, so on every reachable state `validateTopology` erases nothing and a refused
registration request leaves the shared state exactly as it was.

Main definitions:

* `P2POverlay.TopologyManager.RunsTo` (in `P2POverlay/TopologyInvariant.lean`) — one topology is
  what a sequence of topology operations makes of another;
* `P2POverlay.NodeOp`, `P2POverlay.nodeRun` — runs interleaving the operations of the three
  components.

Main results:

* `P2POverlay.Overlay.step_topology`, `P2POverlay.NodeRegistration.handleRegistrationRequest_topology`
  — one operation moves the topology by a run of topology operations;
* `P2POverlay.nodeRun_topology` — so does every run;
* `P2POverlay.nodeRun_topology_inv` — **on every state a run reaches from a topology that
  satisfies the invariant, the invariant holds, `validateTopology` erases nothing, and a refused
  registration request changes neither the node, nor the topology, nor the membership
  registry**;
* `P2POverlay.nodeRun_failed_additions_atomic` — **on every state a run reaches from a topology
  with the invariant, a failed addition or registration changes nothing**;
* `P2POverlay.nodeRun_no_pending_registrations` — **no registration is ever pending, so
  `processPendingRegistrations` changes nothing**.
-/

import P2POverlay.Connectivity
import P2POverlay.Registration

set_option relaxedAutoImplicit false
set_option autoImplicit false

namespace P2POverlay

open TopologyManager (RunsTo)

namespace Overlay

variable (connect : NetworkAddress → Bool)

/-! ### What each operation does to the topology -/

theorem processMessage_topology {o o' : Overlay} {message : Message} {now : Nat}
    (h : o.processMessage message now = some o') : o.topology.RunsTo o'.topology := by
  unfold processMessage handlePeerDiscovery at h
  split at h
  case h_3 => cases h; exact .op _ (.removeNode message.senderID)
  case h_6 => cases h; exact .op _ .checkNetworkIntegrity
  case h_7 =>
    obtain ⟨_, -, rfl⟩ := Option.map_eq_some'.mp h
    exact .refl _
  all_goals cases h; exact .refl _

theorem addNode_topology (o : Overlay) (nodeID : NodeID) (address : NetworkAddress) (now : Nat) :
    o.topology.RunsTo (o.addNode nodeID address now).2.topology := by
  unfold addNode
  dsimp only
  split_ifs
  · exact .refl _
  · exact .refl _
  all_goals exact .op _ (.addNode nodeID address)

theorem addNodesFromList_topology (o : Overlay) (nodes : List (NodeID × NetworkAddress))
    (now : Nat) : o.topology.RunsTo (o.addNodesFromList nodes now).2.topology := by
  unfold addNodesFromList
  generalize hr : (([] : List NodeID), o) = r
  obtain rfl : o = r.2 := by rw [← hr]
  clear hr
  induction nodes generalizing r with
  | nil => exact .refl _
  | cons e es ih => exact (addNode_topology r.2 e.1 e.2 now).trans (ih _)

theorem repairNetworkAfterNodeRemoval_topology (o : Overlay) (removedNodeID : NodeID) :
    o.topology.RunsTo (o.repairNetworkAfterNodeRemoval connect removedNodeID).2.topology := by
  have hrepair : o.topology.RunsTo
      (if o.topology.isTopologyConnected then o.topology else o.topology.repairTopology) := by
    split_ifs
    · exact .refl _
    · exact .op _ .repairTopology
  refine hrepair.trans (.trans (.op _ .checkNetworkIntegrity) (.of_eq ?_))
  unfold repairNetworkAfterNodeRemoval
  simp only [TopologyOp.apply, apply_ite Prod.snd, apply_ite Overlay.topology,
    establishReplacementConnections_topology, ite_self]

theorem removeNodeWith_topology (state : NodeState) (callback : NodeID → OverlayEvent)
    (o : Overlay) (nodeID : NodeID) :
    o.topology.RunsTo (removeNodeWith connect state callback o nodeID).2.topology := by
  unfold removeNodeWith
  split_ifs
  · dsimp only
    exact (RunsTo.op _ (.removeNode nodeID)).trans (repairNetworkAfterNodeRemoval_topology connect _ _)
  · exact .refl _

theorem foldl_detectStep_topology (timeoutSeconds : Int) (now : Nat) :
    ∀ (ks : List NodeID) (r : Overlay × List NodeID),
      (ks.foldl (detectStep timeoutSeconds now) r).1.topology = r.1.topology
  | [], _ => rfl
  | k :: ks, r => by
      rw [List.foldl_cons, foldl_detectStep_topology timeoutSeconds now ks]
      unfold detectStep
      split
      · rfl
      · split_ifs <;> rfl

theorem foldl_removeNodeForced_topology :
    ∀ (ids : List NodeID) (o : Overlay),
      o.topology.RunsTo (ids.foldl (fun o nodeID => (o.removeNodeForced connect nodeID).2) o).topology
  | [], _ => .refl _
  | x :: xs, o =>
      (removeNodeWith_topology connect _ _ o x).trans (foldl_removeNodeForced_topology xs _)

theorem detectFailedNodes_topology (o : Overlay) (timeoutSeconds : Int) (now : Nat) :
    o.topology.RunsTo (o.detectFailedNodes connect timeoutSeconds now).topology :=
  (RunsTo.of_eq (foldl_detectStep_topology timeoutSeconds now _ _).symm).trans
    (foldl_removeNodeForced_topology connect _ _)

@[simp] theorem ensureConnectivity_topology (o : Overlay) :
    o.ensureConnectivity.2.topology = o.topology := by
  unfold ensureConnectivity; split_ifs <;> simp

theorem maintainNetworkIntegrity_topology (o : Overlay) (now : Nat) :
    o.topology.RunsTo (o.maintainNetworkIntegrity connect now).2.topology := by
  unfold maintainNetworkIntegrity
  rw [ensureConnectivity_topology]
  refine .trans ?_ (detectFailedNodes_topology connect _ _ now)
  dsimp only
  split_ifs
  · exact .op _ .validateTopology
  · exact (RunsTo.op _ .validateTopology).trans (.op _ .repairTopology)

/-- One operation moves the topology by a run of topology operations. -/
theorem step_topology {o o' : Overlay} {op : OverlayOp} (h : o.step connect op = some o') :
    o.topology.RunsTo o'.topology := by
  cases op with
  | processMessage message now => exact processMessage_topology h
  | addNode nodeID address now =>
      obtain rfl := Option.some.inj h
      exact addNode_topology o nodeID address now
  | addNodeWithValidation nodeID address now =>
      obtain rfl := Option.some.inj h
      unfold addNodeWithValidation
      split_ifs
      · exact .refl _
      · exact addNode_topology o nodeID address now
  | addNodesFromList nodes now =>
      obtain rfl := Option.some.inj h
      exact addNodesFromList_topology o nodes now
  | removeNode nodeID graceful =>
      obtain rfl := Option.some.inj h
      unfold removeNode removeNodeGracefully removeNodeForced
      split_ifs <;> exact removeNodeWith_topology connect _ _ o nodeID
  | setNodeState | handleTopologyChange => obtain rfl := Option.some.inj h; exact .refl _
  | detectFailedNodes timeoutSeconds now =>
      obtain rfl := Option.some.inj h
      exact detectFailedNodes_topology connect o timeoutSeconds now
  | recoverFromNodeFailure failedNodeID =>
      obtain rfl := Option.some.inj h
      unfold recoverFromNodeFailure
      dsimp only
      split_ifs
      · exact .refl _
      · exact .of_eq (establishReplacementConnections_topology connect _ _).symm
  | maintainNetworkIntegrity now =>
      obtain rfl := Option.some.inj h
      exact maintainNetworkIntegrity_topology connect o now
  | repairNetworkAfterNodeRemoval removedNodeID =>
      obtain rfl := Option.some.inj h
      exact repairNetworkAfterNodeRemoval_topology connect o removedNodeID
  | ensureConnectivity =>
      obtain rfl := Option.some.inj h
      exact .of_eq (ensureConnectivity_topology o).symm

end Overlay

namespace NodeRegistration

theorem acceptRegistration_topology (r : NodeRegistration) (o : Overlay) (nodeID : NodeID)
    (address : NetworkAddress) : o.topology.RunsTo (r.acceptRegistration o nodeID address).2.2.topology := by
  unfold acceptRegistration
  dsimp only
  split_ifs
  · exact .refl _
  · exact (RunsTo.op _ (.addNode nodeID address)).trans (.op _ (.removeNode nodeID))
  · exact .op _ (.addNode nodeID address)

/-- A registration request moves the topology by a run of topology operations. -/
theorem handleRegistrationRequest_topology (r : NodeRegistration) (o : Overlay) (now : TimePoint)
    (request : RegistrationRequest) :
    o.topology.RunsTo (r.handleRegistrationRequest o now request).2.2.topology := by
  unfold handleRegistrationRequest
  split_ifs
  any_goals exact .refl _
  exact acceptRegistration_topology r o request.nodeID request.address

end NodeRegistration

/-! ### Runs of a simulated node -/

/-- What happens next on a simulated node: an operation of `MessageHandler` or
`DynamicNodeManager`, or `NodeRegistration::handleRegistrationRequest` with the clock reading
`now`. -/
inductive NodeOp where
  | overlay (op : OverlayOp)
  | handleRegistrationRequest (request : RegistrationRequest) (now : TimePoint)

/-- One operation on the registration state and the shared components; `none` when it throws. -/
def NodeOp.step (connect : NetworkAddress → Bool) (s : NodeRegistration × Overlay) :
    NodeOp → Option (NodeRegistration × Overlay)
  | .overlay op => (s.2.step connect op).map fun o => (s.1, o)
  | .handleRegistrationRequest request now => some (s.1.handleRegistrationRequest s.2 now request).2

/-- A run of operations from `s`; `none` once one throws. -/
def nodeRun (connect : NetworkAddress → Bool) (s : NodeRegistration × Overlay) (ops : List NodeOp) :
    Option (NodeRegistration × Overlay) :=
  ops.foldlM (NodeOp.step connect) s

variable (connect : NetworkAddress → Bool)

theorem NodeOp.step_topology {s s' : NodeRegistration × Overlay} {op : NodeOp}
    (h : op.step connect s = some s') : s.2.topology.RunsTo s'.2.topology := by
  cases op with
  | overlay op =>
      obtain ⟨o, ho, rfl⟩ := Option.map_eq_some'.mp h
      exact Overlay.step_topology connect ho
  | handleRegistrationRequest request now =>
      cases h
      exact NodeRegistration.handleRegistrationRequest_topology s.1 s.2 now request

/-- The run lemma: every run moves the topology by a run of topology operations. -/
theorem nodeRun_topology : ∀ (ops : List NodeOp) {s s' : NodeRegistration × Overlay},
    nodeRun connect s ops = some s' → s.2.topology.RunsTo s'.2.topology
  | [], _, _, h => by cases h; exact .refl _
  | op :: ops, _, _, h => by
      obtain ⟨s₁, h₁, h'⟩ := Option.bind_eq_some.mp h
      exact (NodeOp.step_topology connect h₁).trans (nodeRun_topology ops h')

/-- **The shared topology keeps its invariant.**  Start a simulated node from any state whose
topology satisfies the invariant, and run any interleaving of messages, membership operations and
registration requests.  On the state reached, the topology satisfies the invariant,
`validateTopology` erases nothing, and a registration request that is refused leaves the node,
the topology and the membership registry exactly as they were. -/
theorem nodeRun_topology_inv (s₀ : NodeRegistration × Overlay) (h₀ : s₀.2.topology.Inv)
    (ops : List NodeOp) {s : NodeRegistration × Overlay} (h : nodeRun connect s₀ ops = some s) :
    s.2.topology.Inv ∧ s.2.topology.validateTopology = s.2.topology ∧
      ∀ (now : TimePoint) (request : RegistrationRequest),
        (s.1.handleRegistrationRequest s.2 now request).1 = false →
          (s.1.handleRegistrationRequest s.2 now request).2.2 = s.2 := by
  have hinv := (nodeRun_topology connect ops h).inv h₀
  exact ⟨hinv, TopologyManager.validateTopology_eq_self hinv,
    fun _ _ => NodeRegistration.handleRegistrationRequest_of_fst_eq_false hinv⟩

/-- A fresh node that adds one peer. -/
theorem nodeRun_topology_inv_one_addition :
    let s₀ : NodeRegistration × Overlay :=
      (⟨StdMap.empty, none, []⟩, Overlay.new ⟨1, ⟨"a", 9000⟩, [], [], 0⟩)
    let s : NodeRegistration × Overlay := (s₀.1, (s₀.2.addNode 2 ⟨"b", 9001⟩ 0).2)
    s₀.2.topology.Inv ∧ nodeRun (fun _ => true) s₀ [.overlay (.addNode 2 ⟨"b", 9001⟩ 0)] = some s ∧
      s.2.topology.Inv ∧ s.2.topology.validateTopology = s.2.topology ∧
        ∀ (now : TimePoint) (request : RegistrationRequest),
          (s.1.handleRegistrationRequest s.2 now request).1 = false →
            (s.1.handleRegistrationRequest s.2 now request).2.2 = s.2 := by
  intro s₀ s
  exact ⟨TopologyManager.Inv.new 1, rfl,
    nodeRun_topology_inv (fun _ => true) s₀ (TopologyManager.Inv.new 1) [.overlay (.addNode 2 ⟨"b", 9001⟩ 0)] rfl⟩

/-- **Failed additions change nothing, on every state a node reaches.**  Start from any state
whose topology satisfies the invariant, the constructor's empty one among them, and run any
interleaving of messages, membership operations and registration requests.  On the state reached,
an `addNode` that returns `false` leaves the overlay as it was and one that returns `true` leaves
the node `ACTIVE` and registered with its address; an `acceptRegistration` that returns `false`
leaves the registration state and the overlay as they were; and so does a refused
`handleRegistrationRequest` for the overlay. -/
theorem nodeRun_failed_additions_atomic (s₀ : NodeRegistration × Overlay) (h₀ : s₀.2.topology.Inv)
    (ops : List NodeOp) {s : NodeRegistration × Overlay} (h : nodeRun connect s₀ ops = some s)
    (nodeID : NodeID) (address : NetworkAddress) (now : Nat) (clock : TimePoint)
    (request : RegistrationRequest) :
    ((s.2.addNode nodeID address now).1 = false → (s.2.addNode nodeID address now).2 = s.2) ∧
    ((s.2.addNode nodeID address now).1 = true →
      (s.2.addNode nodeID address now).2.getNodeState nodeID = .active ∧
        (s.2.addNode nodeID address now).2.topology.nodeRegistry.find? nodeID = some address) ∧
    ((s.1.acceptRegistration s.2 nodeID address).1 = false →
      (s.1.acceptRegistration s.2 nodeID address).2 = (s.1, s.2)) ∧
    ((s.1.handleRegistrationRequest s.2 clock request).1 = false →
      (s.1.handleRegistrationRequest s.2 clock request).2.2 = s.2) := by
  have hinv := (nodeRun_topology connect ops h).inv h₀
  exact ⟨Overlay.addNode_eq_self_of_fst_eq_false, Overlay.addNode_fst_eq_true,
    NodeRegistration.acceptRegistration_of_fst_eq_false hinv,
    NodeRegistration.handleRegistrationRequest_of_fst_eq_false hinv⟩

/-- A fresh node adds `2`, then tries to add `2` again: the second addition is refused and
changes nothing. -/
theorem nodeRun_failed_additions_atomic_repeat :
    let s₀ : NodeRegistration × Overlay :=
      (⟨StdMap.empty, none, []⟩, Overlay.new ⟨1, ⟨"a", 9000⟩, [], [], 0⟩)
    let s : NodeRegistration × Overlay := (s₀.1, (s₀.2.addNode 2 ⟨"b", 9001⟩ 0).2)
    (s₀.2.topology.Inv ∧ nodeRun (fun _ => true) s₀ [.overlay (.addNode 2 ⟨"b", 9001⟩ 0)] = some s) ∧
      (s.2.addNode 2 ⟨"b", 9001⟩ 1).1 = false ∧ (s.2.addNode 2 ⟨"b", 9001⟩ 1).2 = s.2 := by
  intro s₀ s
  have hrun : nodeRun (fun _ => true) s₀ [.overlay (.addNode 2 ⟨"b", 9001⟩ 0)] = some s := rfl
  have hfail : (s.2.addNode 2 ⟨"b", 9001⟩ 1).1 = false := by decide
  exact ⟨⟨TopologyManager.Inv.new 1, hrun⟩, hfail,
    (nodeRun_failed_additions_atomic (fun _ => true) s₀ (TopologyManager.Inv.new 1) _ hrun 2
      ⟨"b", 9001⟩ 1 ⟨0, by decide, by decide⟩ ⟨2, ⟨"b", 9001⟩, 0, .pending⟩).1 hfail⟩

theorem NodeOp.step_pendingRegistrations {s s' : NodeRegistration × Overlay} {op : NodeOp}
    (h : op.step connect s = some s') (hp : s.1.pendingRegistrations = .empty) :
    s'.1.pendingRegistrations = .empty := by
  cases op with
  | overlay op =>
      obtain ⟨o, -, rfl⟩ := Option.map_eq_some'.mp h
      exact hp
  | handleRegistrationRequest request now =>
      obtain rfl := Option.some.inj h
      exact NodeRegistration.handleRegistrationRequest_pendingRegistrations hp _ _ _

theorem nodeRun_pendingRegistrations : ∀ (ops : List NodeOp) {s s' : NodeRegistration × Overlay},
    nodeRun connect s ops = some s' → s.1.pendingRegistrations = .empty →
      s'.1.pendingRegistrations = .empty
  | [], _, _, h, hp => by cases h; exact hp
  | op :: ops, _, _, h, hp => by
      obtain ⟨s₁, h₁, h'⟩ := Option.bind_eq_some.mp h
      exact nodeRun_pendingRegistrations ops h' (NodeOp.step_pendingRegistrations connect h₁ hp)

/-- **No registration is ever pending.**  `pendingRegistrations_` is only ever marked, never
filled: from a `NodeRegistration` with none stored, as its constructor leaves it, on every run of
messages, membership operations and registration requests, `getPendingRegistrations` (which the
registration menu prints) is empty, and `processPendingRegistrations` changes nothing. -/
theorem nodeRun_no_pending_registrations (s₀ : NodeRegistration × Overlay)
    (h₀ : s₀.1.pendingRegistrations = .empty) (ops : List NodeOp) {s : NodeRegistration × Overlay}
    (h : nodeRun connect s₀ ops = some s) :
    s.1.getPendingRegistrations = [] ∧ ∀ now, s.1.processPendingRegistrations s.2 now = s := by
  have hp := nodeRun_pendingRegistrations connect ops h h₀
  exact ⟨NodeRegistration.getPendingRegistrations_of_empty hp,
    fun now => NodeRegistration.processPendingRegistrations_of_empty hp s.2 now⟩

/-- A fresh node that handles one registration request. -/
theorem nodeRun_no_pending_registrations_one_request :
    let s₀ : NodeRegistration × Overlay :=
      (⟨StdMap.empty, none, []⟩, Overlay.new ⟨1, ⟨"a", 9000⟩, [], [], 0⟩)
    let clock : TimePoint := ⟨0, by decide, by decide⟩
    let s := (s₀.1.handleRegistrationRequest s₀.2 clock ⟨2, ⟨"b", 9001⟩, 0, .pending⟩).2
    s₀.1.pendingRegistrations = .empty ∧
      nodeRun (fun _ => true) s₀ [.handleRegistrationRequest ⟨2, ⟨"b", 9001⟩, 0, .pending⟩ clock] =
        some s ∧
      s.1.getPendingRegistrations = [] ∧ ∀ now, s.1.processPendingRegistrations s.2 now = s := by
  intro s₀ clock s
  exact ⟨rfl, rfl, nodeRun_no_pending_registrations (fun _ => true) s₀ rfl
    [.handleRegistrationRequest ⟨2, ⟨"b", 9001⟩, 0, .pending⟩ clock] rfl⟩

end P2POverlay
