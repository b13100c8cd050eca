/-
**Connectivity and its repair** (`TopologyManager::isTopologyConnected`, `hasPathDFS`,
`checkNetworkIntegrity`, `repairTopology`, `DynamicNodeManager::ensureConnectivity`,
`repairNetworkAfterNodeRemoval`).

`isTopologyConnected` starts a search from the first registered node *to itself*, and
`hasPathDFS` returns at once when its two ends are equal, with that one node visited; so the
check compares `1` with the number of registered nodes and reports every graph of two nodes or
more disconnected, whatever its edges (`TopologyManager.isTopologyConnected_eq`).  The three
callers that return the check inherit the error.

`repairTopology` therefore always takes its last resort on two nodes or more: it joins all
registered nodes in a ring in key order, on graphs that were connected as well.  What it does
otherwise is right: the repaired graph is connected, keeps the representation invariant and
every edge it had, and gains edges between registered nodes only.

Main definitions:

* `P2POverlay.TopologyManager.Connected` — every registered node reaches every other, along
  `adjacencyList_` edges (`P2POverlay.TopologyManager.Reaches`).

Main results:

* `P2POverlay.TopologyManager.mem_neighbours_foldl_addEdge` — what a sequence of `addEdge`
  does to a neighbourhood;
* `P2POverlay.TopologyManager.Inv.repairTopology_connected` — the repaired graph is connected;
* `P2POverlay.isTopologyConnected_misreports` — **the check, and `checkNetworkIntegrity`,
  `ensureConnectivity` and `repairNetworkAfterNodeRemoval`, report every graph of two nodes or
  more disconnected, those `repairTopology` has just connected included**;
* `P2POverlay.repairTopology_adds_ring` — **`repairTopology` connects the graph, keeps the
  invariant and the old edges and adds edges between registered nodes only, but adds the ring on
  every graph of two nodes or more, connected or not**.
-/

import P2POverlay.TopologyInvariant
import P2POverlay.FindPath
import P2POverlay.Membership

set_option relaxedAutoImplicit false
set_option autoImplicit false

namespace P2POverlay

namespace TopologyManager

/-- Every registered node reaches every registered node. -/
def Connected (t : TopologyManager) : Prop :=
  ∀ a ∈ t.nodeRegistry, ∀ b ∈ t.nodeRegistry, t.Reaches a b

variable {t : TopologyManager}

/-- On symmetric edges reachability is symmetric. -/
theorem Inv.reaches_symm (h : t.Inv) {a b : NodeID} (hab : t.Reaches a b) : t.Reaches b a := by
  induction hab with
  | refl => exact .refl
  | tail _ hbc ih => exact .head (h.symm _ _ hbc) ih

/-- A graph of at most one registered node is connected. -/
theorem connected_of_size_le_one (h : t.nodeRegistry.size ≤ 1) : t.Connected := by
  intro a ha b hb
  have hlen : t.nodeRegistry.keys.length ≤ 1 := (List.length_map _ _).trans_le h
  rw [StdMap.mem_iff_mem_keys] at ha hb
  obtain rfl : a = b := by
    match t.nodeRegistry.keys, hlen, ha, hb with
    | [_], _, ha, hb => rw [List.mem_singleton] at ha hb; rw [ha, hb]
  exact .refl

/-! ### Sequences of edges -/

/-- After a sequence of `addEdge`, `b` is a neighbour of `a` if it was, or if some edge with two
distinct ends joined them. -/
theorem mem_neighbours_foldl_addEdge (es : List (NodeID × NodeID)) (t : TopologyManager) (a b : NodeID) :
    b ∈ (es.foldl (fun t e => t.addEdge e.1 e.2) t).neighbours a ↔
      b ∈ t.neighbours a ∨ ∃ e ∈ es, e.1 ≠ e.2 ∧ ((a = e.1 ∧ b = e.2) ∨ (a = e.2 ∧ b = e.1)) := by
  induction es generalizing t with
  | nil => simp
  | cons e es ih =>
      rw [List.foldl_cons, ih]
      by_cases he : e.1 = e.2
      · simp [addEdge, he]
      · rw [mem_neighbours_addEdge he, List.exists_mem_cons_iff]
        simp only [ne_eq, he, not_false_eq_true, true_and, or_assoc]

@[simp] theorem foldl_addEdge_nodeRegistry (es : List (NodeID × NodeID)) (t : TopologyManager) :
    (es.foldl (fun t e => t.addEdge e.1 e.2) t).nodeRegistry = t.nodeRegistry := by
  induction es generalizing t with
  | nil => rfl
  | cons e es ih => rw [List.foldl_cons, ih, addEdge_nodeRegistry]

/-! ### The ring -/

/-- The `i`-th edge of the ring, for `i + 1 < n`, joins the `i`-th and the `(i + 1)`-th ID. -/
theorem mem_ringEdges_succ {ids : List NodeID} {i : Nat} (hi : i + 1 < ids.length) :
    (ids[i], ids[i + 1]) ∈ ringEdges ids := by
  refine List.mem_map.2 ⟨i, List.mem_range.2 (by omega), ?_⟩
  rw [Nat.mod_eq_of_lt hi, List.getD_eq_getElem _ _ (by omega), List.getD_eq_getElem _ _ hi]

/-- On two distinct IDs or more, every edge of the ring has two distinct ends. -/
theorem ringEdges_fst_ne_snd {ids : List NodeID} (hnd : ids.Nodup) (h2 : 2 ≤ ids.length)
    {e : NodeID × NodeID} (he : e ∈ ringEdges ids) : e.1 ≠ e.2 := by
  obtain ⟨i, hi, rfl⟩ := List.mem_map.1 he
  have hi : i < ids.length := List.mem_range.1 hi
  have hj : (i + 1) % ids.length < ids.length := Nat.mod_lt _ (by omega)
  have hij : i ≠ (i + 1) % ids.length := by
    rcases Nat.lt_or_ge (i + 1) ids.length with h | h
    · rw [Nat.mod_eq_of_lt h]; omega
    · rw [show i + 1 = ids.length by omega, Nat.mod_self]; omega
  simp only [List.getD_eq_getElem _ _ hi, List.getD_eq_getElem _ _ hj]
  exact fun heq => hij ((List.Nodup.getElem_inj_iff hnd).1 heq)

/-- After the ring over distinct IDs, the first reaches every one of them. -/
theorem reaches_ring {ids : List NodeID} (hnd : ids.Nodup) (t : TopologyManager) (h0 : 0 < ids.length) :
    ∀ i (hi : i < ids.length),
      ((ringEdges ids).foldl (fun t e => t.addEdge e.1 e.2) t).Reaches ids[0] ids[i]
  | 0, _ => .refl
  | i + 1, hi => by
      refine .tail (reaches_ring hnd t h0 i (by omega)) ((mem_neighbours_foldl_addEdge _ _ _ _).2
        (.inr ⟨_, mem_ringEdges_succ hi, fun heq => ?_, .inl ⟨rfl, rfl⟩⟩))
      have := (List.Nodup.getElem_inj_iff hnd).1 heq
      omega

/-- Under the invariant, `repairTopology` validates nothing away and adds the ring exactly when
two nodes or more are registered. -/
theorem Inv.repairTopology_eq (h : t.Inv) :
    t.repairTopology = if 2 ≤ t.nodeRegistry.size then
      (ringEdges t.getAllNodeIDs).foldl (fun t e => t.addEdge e.1 e.2) t else t := by
  have hlen : t.getAllNodeIDs.length = t.nodeRegistry.size := List.length_map _ _
  unfold TopologyManager.repairTopology
  simp only [validateTopology_eq_self h, isTopologyConnected_eq, decide_eq_true_eq, hlen]
  split_ifs <;> first | rfl | omega

@[simp] theorem repairTopology_nodeRegistry (t : TopologyManager) :
    t.repairTopology.nodeRegistry = t.nodeRegistry := by
  unfold repairTopology; dsimp only; split_ifs <;> simp

/-- **The repaired graph is connected.** -/
theorem Inv.repairTopology_connected (h : t.Inv) : t.repairTopology.Connected := by
  by_cases h2 : 2 ≤ t.nodeRegistry.size
  · intro a ha b hb
    have hr := h.repairTopology
    rw [h.repairTopology_eq, if_pos h2] at hr ⊢
    rw [repairTopology_nodeRegistry] at ha hb
    have hnd : t.getAllNodeIDs.Nodup := StdMap.keys_nodup _
    have hlen : 0 < t.getAllNodeIDs.length := by
      rw [show t.getAllNodeIDs.length = t.nodeRegistry.size from List.length_map _ _]; omega
    obtain ⟨i, hi, rfl⟩ := List.mem_iff_getElem.1 (StdMap.mem_iff_mem_keys.1 ha)
    obtain ⟨j, hj, rfl⟩ := List.mem_iff_getElem.1 (StdMap.mem_iff_mem_keys.1 hb)
    exact (hr.reaches_symm (reaches_ring hnd t hlen i hi)).trans (reaches_ring hnd t hlen j hj)
  · exact connected_of_size_le_one (by rw [repairTopology_nodeRegistry]; omega)

/-- Repair keeps every edge, and adds edges of the ring only. -/
theorem Inv.mem_neighbours_repairTopology (h : t.Inv) (a b : NodeID) :
    b ∈ t.repairTopology.neighbours a ↔ b ∈ t.neighbours a ∨
      (2 ≤ t.nodeRegistry.size ∧ ∃ e ∈ ringEdges t.getAllNodeIDs, e.1 ≠ e.2 ∧
        ((a = e.1 ∧ b = e.2) ∨ (a = e.2 ∧ b = e.1))) := by
  rw [h.repairTopology_eq]
  split_ifs with h2
  · rw [mem_neighbours_foldl_addEdge]; simp only [h2, true_and]
  · simp only [h2, false_and, or_false]

end TopologyManager

/-! ### What the callers report -/

namespace Overlay

variable (connect : NetworkAddress → Bool)

@[simp] theorem establishReplacementConnections_topology (o : Overlay) (replacements : List NodeID) :
    (o.establishReplacementConnections connect replacements).2.topology = o.topology := by
  show (replacements.foldl _ (false, o)).2.topology = (false, o).2.topology
  generalize (false, o) = r
  induction replacements generalizing r with
  | nil => rfl
  | cons x xs ih =>
      rw [List.foldl_cons, ih]
      dsimp only
      split_ifs
      · rfl
      · split <;> rfl

@[simp] theorem connectAll_topology (o : Overlay) (selfID : NodeID) (allNodes : List NodeID) :
    (o.connectAll selfID allNodes).topology = o.topology := by
  unfold connectAll
  induction allNodes generalizing o with
  | nil => rfl
  | cons x xs ih => rw [List.foldl_cons, ih]; dsimp only; split_ifs <;> rfl

@[simp] theorem ensureConnectivity_fst (o : Overlay) :
    o.ensureConnectivity.1 = o.topology.isTopologyConnected := by
  unfold ensureConnectivity; split_ifs <;> simp

/-- `repairNetworkAfterNodeRemoval` reports the check on a topology with the same registry. -/
theorem repairNetworkAfterNodeRemoval_fst (o : Overlay) (removedNodeID : NodeID) :
    (o.repairNetworkAfterNodeRemoval connect removedNodeID).1 =
      decide (o.topology.nodeRegistry.size ≤ 1) := by
  have hreg : ∀ o' : Overlay, o'.topology.nodeRegistry = o.topology.nodeRegistry →
      o'.topology.checkNetworkIntegrity.1 = decide (o.topology.nodeRegistry.size ≤ 1) := fun o' h' => by
    rw [TopologyManager.checkNetworkIntegrity, TopologyManager.isTopologyConnected_eq,
      TopologyManager.validateTopology_nodeRegistry, h']
  have hfst : ∀ (b : Bool) (x y : Overlay), (if b = true then (true, x) else (false, y)).1 = b := by
    intro b x y; cases b <;> rfl
  unfold repairNetworkAfterNodeRemoval
  dsimp only
  rw [hfst, hreg _ (by split_ifs <;> simp)]

end Overlay

/-! ### The two results -/

open TopologyManager in
/-- **The connectivity check misreports.**  A graph the check calls connected is connected, but
the check calls every graph of two registered nodes or more disconnected, whatever its edges —
among them every graph `repairTopology` has just connected — and so do `checkNetworkIntegrity`,
`ensureConnectivity` and `repairNetworkAfterNodeRemoval`. -/
theorem isTopologyConnected_misreports :
    (∀ t : TopologyManager, t.isTopologyConnected = true → t.Connected) ∧
    (∀ t : TopologyManager, 2 ≤ t.nodeRegistry.size →
      t.isTopologyConnected = false ∧ t.checkNetworkIntegrity.1 = false) ∧
    (∀ t : TopologyManager, t.Inv → 2 ≤ t.nodeRegistry.size →
      t.repairTopology.Connected ∧ t.repairTopology.isTopologyConnected = false) ∧
    (∀ (connect : NetworkAddress → Bool) (o : Overlay) (removedNodeID : NodeID),
      2 ≤ o.topology.nodeRegistry.size →
        o.ensureConnectivity.1 = false ∧
          (o.repairNetworkAfterNodeRemoval connect removedNodeID).1 = false) := by
  refine ⟨fun t ht => connected_of_size_le_one (by simpa [isTopologyConnected_eq] using ht),
    fun t h2 => ⟨?_, ?_⟩, fun t h h2 => ⟨h.repairTopology_connected, ?_⟩,
    fun connect o x h2 => ⟨?_, ?_⟩⟩
  · simp [isTopologyConnected_eq]; omega
  · simp [checkNetworkIntegrity, isTopologyConnected_eq]; omega
  · simp [isTopologyConnected_eq]; omega
  · simp [isTopologyConnected_eq]; omega
  · simp [Overlay.repairNetworkAfterNodeRemoval_fst]; omega

open TopologyManager in
/-- The failing input of the claim: nodes `1` and `2` joined by an edge, a connected graph that
the check and `checkNetworkIntegrity` call disconnected, before and after a repair. -/
theorem isTopologyConnected_misreports_one_edge :
    let t := (((TopologyManager.new 1).addNode 1 ⟨"a", 1⟩).2.addNode 2 ⟨"b", 2⟩).2.addEdge 1 2
    (t.Inv ∧ t.Connected ∧ 2 ≤ t.nodeRegistry.size) ∧
      (t.isTopologyConnected = false ∧ t.checkNetworkIntegrity.1 = false) ∧
      (t.repairTopology.Connected ∧ t.repairTopology.isTopologyConnected = false) := by
  intro t
  have h : t.Inv := (((Inv.new 1).addNode 1 _).addNode 2 _).addEdge (by decide) (by decide)
  have hto1 : ∀ a ∈ t.nodeRegistry, t.Reaches a 1 := by
    intro a ha
    rw [StdMap.mem_iff_mem_keys, show t.nodeRegistry.keys = [1, 2] by decide] at ha
    rcases List.mem_cons.1 ha with rfl | ha
    · exact .refl
    rw [List.mem_singleton.1 ha]
    exact .single (by decide)
  have h2 : 2 ≤ t.nodeRegistry.size := by decide
  exact ⟨⟨h, fun a ha b hb => (hto1 a ha).trans (h.reaches_symm (hto1 b hb)), h2⟩,
    isTopologyConnected_misreports.2.1 t h2, isTopologyConnected_misreports.2.2.1 t h h2⟩

open TopologyManager in
/-- **`repairTopology` adds the ring whether or not it is needed.**  On every topology with the
representation invariant, the repaired topology keeps the invariant and the registry, is
connected, keeps every edge, and gains edges between registered nodes only; but on two registered
nodes or more every edge of the ring over the registered IDs is present after the repair, on
graphs that were already connected too. -/
theorem repairTopology_adds_ring (t : TopologyManager) (h : t.Inv) :
    t.repairTopology.Inv ∧ t.repairTopology.Connected ∧
    t.repairTopology.nodeRegistry = t.nodeRegistry ∧
    (∀ a b, b ∈ t.neighbours a → b ∈ t.repairTopology.neighbours a) ∧
    (∀ a b, b ∈ t.repairTopology.neighbours a →
      b ∈ t.neighbours a ∨ (a ∈ t.nodeRegistry ∧ b ∈ t.nodeRegistry)) ∧
    (2 ≤ t.nodeRegistry.size →
      ∀ e ∈ ringEdges t.getAllNodeIDs, e.2 ∈ t.repairTopology.neighbours e.1) := by
  have hnd : t.getAllNodeIDs.Nodup := StdMap.keys_nodup _
  have hlen : t.getAllNodeIDs.length = t.nodeRegistry.size := List.length_map _ _
  have hreg : ∀ a ∈ t.getAllNodeIDs, a ∈ t.nodeRegistry := fun a ha => StdMap.mem_iff_mem_keys.2 ha
  refine ⟨h.repairTopology, h.repairTopology_connected, repairTopology_nodeRegistry t,
    fun a b hb => (h.mem_neighbours_repairTopology a b).2 (.inl hb), fun a b hb => ?_,
    fun h2 e he => (h.mem_neighbours_repairTopology _ _).2
      (.inr ⟨h2, e, he, ringEdges_fst_ne_snd hnd (by omega) he, .inl ⟨rfl, rfl⟩⟩)⟩
  rcases (h.mem_neighbours_repairTopology a b).1 hb with hb | ⟨-, e, he, -, hab⟩
  · exact .inl hb
  · have := mem_ringEdges he
    rcases hab with ⟨rfl, rfl⟩ | ⟨rfl, rfl⟩
    · exact .inr ⟨hreg _ this.1, hreg _ this.2⟩
    · exact .inr ⟨hreg _ this.2, hreg _ this.1⟩

open TopologyManager in
/-- Four nodes joined in a ring by the repair, then node `4` removed: the path `1 - 2 - 3`,
connected and without the edge `3 - 1`, which the next repair adds. -/
theorem repairTopology_adds_ring_path :
    let t := ((((((TopologyManager.new 1).addNode 1 ⟨"a", 1⟩).2.addNode 2 ⟨"b", 2⟩).2.addNode 3
      ⟨"c", 3⟩).2.addNode 4 ⟨"d", 4⟩).2.repairTopology.removeNode 4).2
    (t.Inv ∧ t.Connected ∧ 1 ∉ t.neighbours 3) ∧ 1 ∈ t.repairTopology.neighbours 3 := by
  intro t
  have h : t.Inv :=
    (((((Inv.new 1).addNode 1 _).addNode 2 _).addNode 3 _).addNode 4 _).repairTopology.removeNode 4
  have hto2 : ∀ a ∈ t.nodeRegistry, t.Reaches a 2 := by
    intro a ha
    rw [StdMap.mem_iff_mem_keys, show t.nodeRegistry.keys = [1, 2, 3] by decide] at ha
    rcases List.mem_cons.1 ha with rfl | ha
    · exact .single (by decide)
    rcases List.mem_cons.1 ha with rfl | ha
    · exact .refl
    rw [List.mem_singleton.1 ha]
    exact .single (by decide)
  refine ⟨⟨h, fun a ha b hb => (hto2 a ha).trans (h.reaches_symm (hto2 b hb)), by decide⟩,
    (repairTopology_adds_ring t h).2.2.2.2.2 (by decide) (3, 1) (by decide)⟩

end P2POverlay
