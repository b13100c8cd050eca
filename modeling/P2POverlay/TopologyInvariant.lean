/-
**The representation invariant of the topology.**

The spec lists four invariants of the graph: every adjacency key is registered (I1), edges are
symmetric (I2), there are no self-loops (I3), and a removed node disappears from the registry
and every adjacency set at once (I4).  The code keeps a stronger form of I1: the key sets of the
registry and of the adjacency are *equal* (`addNode` creates the adjacency entry with the
registry entry, `removeNodeFromGraph` erases both), and every neighbour is registered.

The invariant is `P2POverlay.TopologyManager.Inv`.  Each operation keeps it
(`Inv.addNode`, `Inv.removeNode`, `Inv.updateNodeAddress`, `Inv.addEdge`,
`Inv.repairTopology`); under it `validateTopology` has nothing to erase
(`validateTopology_eq_self`), so the iterator invalidation in its loop, which erases from the
map it walks, is never reached.

Main results:

* `P2POverlay.TopologyManager.removeNode_gone` — after a successful `removeNode x`, `x` is
  nowhere, from any state;
* `P2POverlay.topologyRun_invariant` — **the invariant holds after every sequence of topology
  operations**, and there `validateTopology` erases nothing.
-/

import P2POverlay.Topology

set_option relaxedAutoImplicit false
set_option autoImplicit false

namespace P2POverlay

namespace TopologyManager

/-- The representation invariant: equal key sets, registered neighbours, symmetric edges, no
self-loops. -/
structure Inv (t : TopologyManager) : Prop where
  keys : ∀ a, a ∈ t.adjacencyList ↔ a ∈ t.nodeRegistry
  closed : ∀ a b, b ∈ t.neighbours a → b ∈ t.nodeRegistry
  symm : ∀ a b, b ∈ t.neighbours a → a ∈ t.neighbours b
  irrefl : ∀ a, a ∉ t.neighbours a

variable {t : TopologyManager}

@[simp] theorem neighbours_new (localNodeID a : NodeID) :
    (TopologyManager.new localNodeID).neighbours a = .empty := rfl

theorem Inv.new (localNodeID : NodeID) : (TopologyManager.new localNodeID).Inv where
  keys _ := by simp [TopologyManager.new]
  closed _ _ h := by simp at h
  symm _ _ h := by simp at h
  irrefl _ := by simp

/-! ### Neighbourhoods after each operation -/

theorem neighbours_addNode {x : NodeID} {address : NetworkAddress} (hx : x ∉ t.nodeRegistry)
    (a : NodeID) : (t.addNode x address).2.neighbours a = if a = x then .empty else t.neighbours a := by
  simp only [addNode, if_neg hx, neighbours, StdMap.findD, StdMap.find?_insert]
  split_ifs <;> rfl

/-- After a successful `removeNode x`, `x` is neither registered, nor an adjacency key, nor in
any adjacency set. -/
theorem removeNode_gone {x : NodeID} (h : (t.removeNode x).1 = true) :
    x ∉ (t.removeNode x).2.nodeRegistry ∧ x ∉ (t.removeNode x).2.adjacencyList ∧
      ∀ a, x ∉ (t.removeNode x).2.neighbours a := by
  unfold removeNode at h ⊢
  split_ifs at h ⊢
  · exact ⟨by simp, by simp [removeNodeFromGraph], fun a => by simp⟩

/-! ### Each operation keeps the invariant -/

theorem Inv.addNode (h : t.Inv) (x : NodeID) (address : NetworkAddress) :
    (t.addNode x address).2.Inv := by
  by_cases hx : x ∈ t.nodeRegistry
  · simpa [TopologyManager.addNode, hx] using h
  · have hreg : (t.addNode x address).2.nodeRegistry = t.nodeRegistry.insert x address := by
      simp [TopologyManager.addNode, hx]
    have hne : ∀ b, b ∈ t.nodeRegistry → b ≠ x := fun b hb hbx => hx (hbx ▸ hb)
    refine ⟨fun a => ?_, fun a b hb => ?_, fun a b hb => ?_, fun a => ?_⟩
    · simp [TopologyManager.addNode, hx, h.keys a]
    · rw [neighbours_addNode hx] at hb
      split_ifs at hb
      · simp at hb
      · simp [hreg, h.closed a b hb]
    · rw [neighbours_addNode hx] at hb ⊢
      split_ifs at hb with ha
      · simp at hb
      · rw [if_neg (hne b (h.closed a b hb))]; exact h.symm a b hb
    · rw [neighbours_addNode hx]
      split_ifs
      · simp
      · exact h.irrefl a

theorem Inv.removeNode (h : t.Inv) (x : NodeID) : (t.removeNode x).2.Inv := by
  unfold TopologyManager.removeNode
  split_ifs
  · refine ⟨fun a => ?_, fun a b hb => ?_, fun a b hb => ?_, fun a ha => ?_⟩
    · simp [removeNodeFromGraph, h.keys a]
    · rw [mem_neighbours_removeNodeFromGraph] at hb
      simpa [hb.2.1] using h.closed a b hb.2.2
    · rw [mem_neighbours_removeNodeFromGraph] at hb ⊢
      exact ⟨hb.2.1, hb.1, h.symm a b hb.2.2⟩
    · exact h.irrefl a (mem_neighbours_removeNodeFromGraph.1 ha).2.2
  · exact h

theorem Inv.updateNodeAddress (h : t.Inv) (x : NodeID) (address : NetworkAddress) :
    (t.updateNodeAddress x address).2.Inv := by
  unfold TopologyManager.updateNodeAddress
  split_ifs with hx
  · have hmem : ∀ a, a ∈ t.nodeRegistry.insert x address ↔ a ∈ t.nodeRegistry := fun a => by
      rw [StdMap.mem_insert]; exact ⟨fun h' => h'.elim (· ▸ hx) id, Or.inr⟩
    exact ⟨fun a => (h.keys a).trans (hmem a).symm, fun a b hb => (hmem b).2 (h.closed a b hb),
      h.symm, h.irrefl⟩
  · exact h

/-- **Removing a node just added gives the topology back**: under the invariant an unregistered
node is nowhere in the adjacency, so `removeNodeFromGraph` undoes all that `addNode` did. -/
theorem Inv.removeNode_addNode (h : t.Inv) {x : NodeID} (hx : x ∉ t.nodeRegistry)
    (address : NetworkAddress) : (t.addNode x address).2.removeNode x = (true, t) := by
  have hadj : x ∉ t.adjacencyList := fun hm => hx ((h.keys x).1 hm)
  have hsets : ∀ a s, t.adjacencyList.find? a = some s → s.erase x = s := fun a s hs =>
    StdSet.erase_of_not_mem fun hm => hx (h.closed a x (show x ∈ (t.adjacencyList.find? a).getD .empty
      by rw [hs]; exact hm))
  cases t with
  | mk id reg adj =>
      simp only [TopologyManager.addNode, if_neg hx, TopologyManager.removeNode, StdMap.mem_insert,
        true_or, if_true, removeNodeFromGraph, StdMap.erase_insert_of_not_mem hx,
        StdMap.erase_insert_of_not_mem hadj, StdMap.map_eq_self hsets]

/-- Under equal key sets `validateTopology` erases nothing. -/
theorem validateTopology_eq_self (h : t.Inv) : t.validateTopology = t := by
  cases t with
  | mk id reg adj =>
      simp only [validateTopology, mk.injEq, true_and]
      exact StdMap.filter_eq_self fun k hk _ => by simpa using (h.keys k).1 hk

theorem Inv.addEdge (h : t.Inv) {u v : NodeID} (hu : u ∈ t.nodeRegistry) (hv : v ∈ t.nodeRegistry) :
    (t.addEdge u v).Inv := by
  by_cases huv : u = v
  · simpa [TopologyManager.addEdge, huv] using h
  · refine ⟨fun a => ?_, fun a b hb => ?_, fun a b hb => ?_, fun a ha => ?_⟩
    · rw [mem_adjacencyList_addEdge huv, addEdge_nodeRegistry, h.keys a]
      constructor
      · rintro (rfl | rfl | ha) <;> assumption
      · exact fun ha => Or.inr (Or.inr ha)
    · rw [mem_neighbours_addEdge huv] at hb
      rw [addEdge_nodeRegistry]
      rcases hb with hb | ⟨-, rfl⟩ | ⟨-, rfl⟩
      · exact h.closed a b hb
      · exact hv
      · exact hu
    · rw [mem_neighbours_addEdge huv] at hb ⊢
      rcases hb with hb | ⟨rfl, rfl⟩ | ⟨rfl, rfl⟩
      · exact .inl (h.symm a b hb)
      · exact .inr (.inr ⟨rfl, rfl⟩)
      · exact .inr (.inl ⟨rfl, rfl⟩)
    · rw [mem_neighbours_addEdge huv] at ha
      rcases ha with ha | ⟨rfl, rfl⟩ | ⟨rfl, rfl⟩
      · exact h.irrefl a ha
      · exact huv rfl
      · exact huv rfl

/-- Both endpoints of every ring edge are among the IDs it joins. -/
theorem mem_ringEdges {ids : List NodeID} {e : NodeID × NodeID} (he : e ∈ ringEdges ids) :
    e.1 ∈ ids ∧ e.2 ∈ ids := by
  obtain ⟨i, hi, rfl⟩ := List.mem_map.1 he
  have hi : i < ids.length := List.mem_range.1 hi
  have hj : (i + 1) % ids.length < ids.length := Nat.mod_lt _ (by omega)
  simp only [List.getD_eq_getElem _ _ hi, List.getD_eq_getElem _ _ hj]
  exact ⟨List.getElem_mem _, List.getElem_mem _⟩

theorem Inv.foldl_addEdge {es : List (NodeID × NodeID)} (h : t.Inv)
    (hes : ∀ e ∈ es, e.1 ∈ t.nodeRegistry ∧ e.2 ∈ t.nodeRegistry) :
    (es.foldl (fun t e => t.addEdge e.1 e.2) t).Inv := by
  induction es generalizing t with
  | nil => exact h
  | cons e es ih =>
      have he := hes e (List.mem_cons_self _ _)
      exact ih (h.addEdge he.1 he.2) fun e' he' => by
        simpa using hes e' (List.mem_cons_of_mem _ he')

theorem Inv.repairTopology (h : t.Inv) : t.repairTopology.Inv := by
  unfold TopologyManager.repairTopology
  simp only [validateTopology_eq_self h]
  split_ifs
  · exact h
  · exact h.foldl_addEdge fun e he => by
      simpa [getAllNodeIDs, StdMap.mem_iff_mem_keys] using mem_ringEdges he
  · exact h

end TopologyManager

/-! ### Runs -/

/-- The public operations of `TopologyManager` that change its state. -/
inductive TopologyOp where
  | addNode (nodeID : NodeID) (address : NetworkAddress)
  | registerNode (nodeID : NodeID) (address : NetworkAddress)
  | removeNode (nodeID : NodeID)
  | updateNodeAddress (nodeID : NodeID) (newAddress : NetworkAddress)
  | validateTopology
  | updateTopology
  | checkNetworkIntegrity
  | repairTopology

/-- The state after one operation. -/
def TopologyOp.apply (t : TopologyManager) : TopologyOp → TopologyManager
  | .addNode x a => (t.addNode x a).2
  | .registerNode x a => (t.registerNode x a).2
  | .removeNode x => (t.removeNode x).2
  | .updateNodeAddress x a => (t.updateNodeAddress x a).2
  | .validateTopology => t.validateTopology
  | .updateTopology => t.updateTopology
  | .checkNetworkIntegrity => t.checkNetworkIntegrity.2
  | .repairTopology => t.repairTopology

/-- The state after a sequence of operations. -/
def topologyRun (t : TopologyManager) (ops : List TopologyOp) : TopologyManager :=
  ops.foldl TopologyOp.apply t

theorem TopologyOp.apply_inv {t : TopologyManager} (h : t.Inv) (op : TopologyOp) : (op.apply t).Inv := by
  cases op with
  | addNode x a => exact h.addNode x a
  | registerNode x a => exact h.addNode x a
  | removeNode x => exact h.removeNode x
  | updateNodeAddress x a => exact h.updateNodeAddress x a
  | validateTopology => simpa [apply, TopologyManager.validateTopology_eq_self h] using h
  | updateTopology => exact h
  | checkNetworkIntegrity =>
      simpa [apply, TopologyManager.checkNetworkIntegrity,
        TopologyManager.validateTopology_eq_self h] using h
  | repairTopology => exact h.repairTopology

theorem topologyRun_append (t : TopologyManager) (ops₁ ops₂ : List TopologyOp) :
    topologyRun t (ops₁ ++ ops₂) = topologyRun (topologyRun t ops₁) ops₂ :=
  List.foldl_append _ _ _ _

/-- The run lemma: every sequence of operations keeps the invariant. -/
theorem TopologyManager.Inv.run {t : TopologyManager} (h : t.Inv) :
    ∀ ops : List TopologyOp, (topologyRun t ops).Inv
  | [] => h
  | op :: ops => (TopologyOp.apply_inv h op).run ops

/-- `t'` is what some sequence of topology operations makes of `t`. -/
def TopologyManager.RunsTo (t t' : TopologyManager) : Prop :=
  ∃ ops, t' = topologyRun t ops

namespace TopologyManager.RunsTo

variable {t₁ t₂ t₃ : TopologyManager}

theorem refl (t : TopologyManager) : t.RunsTo t := ⟨[], rfl⟩

theorem of_eq (h : t₁ = t₂) : t₁.RunsTo t₂ := h ▸ refl t₁

theorem op (t : TopologyManager) (op : TopologyOp) : t.RunsTo (op.apply t) := ⟨[op], rfl⟩

theorem trans : t₁.RunsTo t₂ → t₂.RunsTo t₃ → t₁.RunsTo t₃
  | ⟨ops₁, h₁⟩, ⟨ops₂, h₂⟩ => ⟨ops₁ ++ ops₂, by rw [h₂, h₁, topologyRun_append]⟩

theorem inv (h : t₁.RunsTo t₂) (hinv : t₁.Inv) : t₂.Inv := by
  obtain ⟨ops, rfl⟩ := h
  exact hinv.run ops

end TopologyManager.RunsTo

/-- **The topology invariant.**  After every sequence of topology operations from an empty
topology, the key sets of the registry and the adjacency are equal, every neighbour is
registered, adjacency is symmetric and has no self-loop, `validateTopology` erases nothing, and a
successful `removeNode x` leaves `x` nowhere. -/
theorem topologyRun_invariant (localNodeID : NodeID) (ops : List TopologyOp) :
    let t := topologyRun (TopologyManager.new localNodeID) ops
    t.Inv ∧ t.validateTopology = t ∧
      ∀ x, (t.removeNode x).1 = true →
        x ∉ (t.removeNode x).2.nodeRegistry ∧ x ∉ (t.removeNode x).2.adjacencyList ∧
          ∀ a, x ∉ (t.removeNode x).2.neighbours a := by
  have h := (TopologyManager.Inv.new localNodeID).run ops
  exact ⟨h, TopologyManager.validateTopology_eq_self h, fun x hx => TopologyManager.removeNode_gone hx⟩

end P2POverlay
