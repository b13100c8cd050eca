/-
**The simulator's table of nodes never dangles** (`NetworkSimulator`).

`NetworkSimulator` owns its nodes through `nodes_`, a `std::vector` of `unique_ptr<SimulatedNode>`
in the order `createNode` made them, and finds them through `nodeMap_`, a `std::map` from an ID to
a raw pointer to one of them.  `createNode` draws the ID from a 64-bit random generator, appends
the node, and sets `nodeMap_[nodeID]`: nothing keeps two nodes from drawing the same ID, and the
map then points to the later one while `nodes_` keeps both.  `removeNode(nodeID)` stops the node
the map points to and makes it leave, erases the map entry, and erases from `nodes_` every node
with that ID, which destroys them.  The other operations call the nodes in place.

A pointer is the allocation identity of the object it points to: `createNode` gives each object a
fresh one, and an object lives while `nodes_` owns it, so a pointer dangles when no entry of
`nodes_` has its identity.  Over every run from the constructor, in any order of the simulator's
operations and of the nodes' own steps, the identities in `nodes_` are distinct, every pointer in
`nodeMap_` names a node of `nodes_` with the ID it is filed under, the ID of every node of
`nodes_` is in `nodeMap_`, and every node satisfies `SimulatedNode.Inv`.  So `getNode` returns
`nullptr` or a live node with the ID asked for; and `removeNode(nodeID)` is exactly the erasure of
the ID from both tables, since the calls it makes on the node it removes change nothing that
remains.

Main definitions:

* `P2POverlay.NetworkSimulator` — the objects of `nodes_` with their identities, `nodeMap_`,
  `running_`, and the allocator;
* `P2POverlay.NetworkSimulator.createNode`, `removeNode`, `getNode`, `startAllNodes`,
  `stopAllNodes`, `testDynamicNodeAddition`, `testNodeRemoval`, `testNodeFailure`,
  `testNetworkIntegrity`;
* `P2POverlay.SimulatorOp`, `P2POverlay.simulatorRun` — runs, the nodes' own steps included.

Main results:

* `P2POverlay.NetworkSimulator.Inv.of_stepped` — calls on the nodes in place keep the invariant;
* `P2POverlay.NetworkSimulator.Inv.step` — every operation keeps the invariant;
* `P2POverlay.simulatorRun_getNode` — **`getNode` never returns a dangling pointer, and finds
  every node's ID**;
* `P2POverlay.simulatorRun_removeNode` — **`removeNode` erases the ID from both tables and changes
  nothing else**.

## Boundary

`generateNodeID()`, `DNS::hostName()` and the clocks are arguments of the operations.  Each
operation is one step; the nodes' threads and servers, which run during the sleeps of
`startAllNodes` and `simulateNetworkActivity`, take their steps between operations.  A node
destroyed by `removeNode` calls `stop()` from its destructor, on an object no pointer reaches any
more.  `testNodeDiscovery`, `testNodeRegistration`, `printNetworkStatus`, `getNodeCount` and
`getAllNodeIDs` only print or read.
-/

import P2POverlay.SimulatedNode

set_option relaxedAutoImplicit false
set_option autoImplicit false

namespace P2POverlay

/-- What the calls on one node met: for `start()`, whether the socket could be bound and the
steady clock; for the others, the network's answers and the system clock. -/
structure NodeInput where
  bindOk : Bool
  steady : Nat
  env : Env
  now : Nat

/-- `NetworkSimulator`: the objects `nodes_` owns, each with its allocation identity, in order;
`nodeMap_`, whose pointers are identities; `running_`; and the identity the next object gets. -/
structure NetworkSimulator where
  nodes : List (Nat × SimulatedNode)
  nodeMap : StdMap NodeID Nat
  running : Bool
  nextObject : Nat

namespace NetworkSimulator

/-- `NetworkSimulator()`. -/
def new : NetworkSimulator := ⟨[], .empty, false, 0⟩

/-- A call through the pointer `p`: `f` on the object with identity `p`. -/
def updateNode (sim : NetworkSimulator) (p : Nat) (f : SimulatedNode → SimulatedNode) :
    NetworkSimulator :=
  { sim with nodes := sim.nodes.map fun e => (e.1, if e.1 = p then f e.2 else e.2) }

/-- `createNode(port)`, where `generateNodeID()` drew `nodeID` and the node's constructor met
`hostname` and the clock `now`: the pointer, and the simulator after. -/
def createNode (sim : NetworkSimulator) (port : Port) (nodeID : NodeID) (hostname : String)
    (now : Nat) : Nat × NetworkSimulator :=
  let p := sim.nextObject
  (p, { sim with nodes := sim.nodes ++ [(p, SimulatedNode.new nodeID port hostname now)]
                 nodeMap := sim.nodeMap.insert nodeID p
                 nextObject := p + 1 })

/-- `removeNode(nodeID)` at second `now`: `false` for an ID the map lacks; otherwise `stop()` and
`leaveNetwork()` on the node the map points to, the map entry erased, and every node with the ID
erased from `nodes_`. -/
def removeNode (sim : NetworkSimulator) (nodeID : NodeID) (env : Env) (now : Nat) :
    Bool × NetworkSimulator :=
  match sim.nodeMap.find? nodeID with
  | none => (false, sim)
  | some p =>
      let sim := sim.updateNode p fun n => (n.stop env now).leaveNetwork env now
      (true, { sim with nodeMap := sim.nodeMap.erase nodeID
                        nodes := sim.nodes.filter fun e => e.2.nodeID ≠ nodeID })

/-- `getNode(nodeID)`: the pointer, or `none` for `nullptr`. -/
def getNode (sim : NetworkSimulator) (nodeID : NodeID) : Option Nat := sim.nodeMap.find? nodeID

/-- `startAllNodes()`: nothing without nodes; otherwise `start()` on the first node, then
`start()` and `joinNetwork` with the first node's address on each of the others, in order, and
`running_` set.  `input` gives what the calls on each node met, by identity. -/
def startAllNodes (sim : NetworkSimulator) (input : Nat → NodeInput) : NetworkSimulator :=
  match sim.nodes with
  | [] => sim
  | (p, first) :: rest =>
      let first := (first.start (input p).bindOk (input p).steady).2
      let bootstrapAddr := first.address
      { sim with
        nodes := (p, first) :: rest.map fun e =>
          let i := input e.1
          (e.1, ((e.2.start i.bindOk i.steady).2.joinNetwork i.env bootstrapAddr i.now).2)
        running := true }

/-- `stopAllNodes()`: `running_` cleared, and `stop()` on every node. -/
def stopAllNodes (sim : NetworkSimulator) (input : Nat → NodeInput) : NetworkSimulator :=
  { sim with running := false
             nodes := sim.nodes.map fun e => (e.1, e.2.stop (input e.1).env (input e.1).now) }

/-- `testDynamicNodeAddition()`: nothing without nodes; otherwise a node made on port
`8890 + nodes_.size()`, cast to 16 bits, then `start()` and `joinNetwork` with the address of the
first node, which neither call changes. -/
def testDynamicNodeAddition (sim : NetworkSimulator) (nodeID : NodeID) (hostname : String)
    (now : Nat) (input : NodeInput) : NetworkSimulator :=
  match sim.nodes with
  | [] => sim
  | first :: _ =>
      let c := sim.createNode (UInt16.ofNat (8890 + sim.nodes.length)) nodeID hostname now
      c.2.updateNode c.1 fun n =>
        ((n.start input.bindOk input.steady).2.joinNetwork input.env first.2.address input.now).2

/-- `testNodeRemoval()`: with two nodes or more, `removeNode` of the last node's ID. -/
def testNodeRemoval (sim : NetworkSimulator) (env : Env) (now : Nat) : NetworkSimulator :=
  if sim.nodes.length < 2 then sim
  else match sim.nodes.getLast? with
    | some e => (sim.removeNode e.2.nodeID env now).2
    | none => sim

/-- `testNodeFailure()`: with two nodes or more, `stop()` on the last node. -/
def testNodeFailure (sim : NetworkSimulator) (env : Env) (now : Nat) : NetworkSimulator :=
  if sim.nodes.length < 2 then sim
  else match sim.nodes.getLast? with
    | some e => sim.updateNode e.1 fun n => n.stop env now
    | none => sim

/-- `testNetworkIntegrity()`: `maintainNetworkIntegrity` through `getDynamicNodeManager()` on
every running node. -/
def testNetworkIntegrity (sim : NetworkSimulator) (input : Nat → NodeInput) : NetworkSimulator :=
  { sim with nodes := sim.nodes.map fun e =>
      (e.1, if e.2.running then e.2.call (input e.1).env (.maintainNetworkIntegrity (input e.1).now)
        else e.2) }

end NetworkSimulator

/-- What happens next: an operation of the simulator, or a step of one node through a pointer
to it (its thread's passes and its server's connections, and any other call on it). -/
inductive SimulatorOp where
  | createNode (port : Port) (nodeID : NodeID) (hostname : String) (now : Nat)
  | removeNode (nodeID : NodeID) (env : Env) (now : Nat)
  | startAllNodes (input : Nat → NodeInput)
  | stopAllNodes (input : Nat → NodeInput)
  | testDynamicNodeAddition (nodeID : NodeID) (hostname : String) (now : Nat) (input : NodeInput)
  | testNodeRemoval (env : Env) (now : Nat)
  | testNodeFailure (env : Env) (now : Nat)
  | testNetworkIntegrity (input : Nat → NodeInput)
  | node (p : Nat) (env : Env) (op : SimOp)

/-- One operation. -/
def NetworkSimulator.step (sim : NetworkSimulator) : SimulatorOp → NetworkSimulator
  | .createNode port nodeID hostname now => (sim.createNode port nodeID hostname now).2
  | .removeNode nodeID env now => (sim.removeNode nodeID env now).2
  | .startAllNodes input => sim.startAllNodes input
  | .stopAllNodes input => sim.stopAllNodes input
  | .testDynamicNodeAddition nodeID hostname now input =>
      sim.testDynamicNodeAddition nodeID hostname now input
  | .testNodeRemoval env now => sim.testNodeRemoval env now
  | .testNodeFailure env now => sim.testNodeFailure env now
  | .testNetworkIntegrity input => sim.testNetworkIntegrity input
  | .node p env op => sim.updateNode p fun n => n.step env op

/-- A run of operations from `sim`. -/
def simulatorRun (sim : NetworkSimulator) (ops : List SimulatorOp) : NetworkSimulator :=
  ops.foldl NetworkSimulator.step sim

namespace NetworkSimulator

/-! ### The invariant -/

/-- What holds on every state a run reaches from the constructor. -/
structure Inv (sim : NetworkSimulator) : Prop where
  nodup : (sim.nodes.map Prod.fst).Nodup
  lt_nextObject : ∀ e ∈ sim.nodes, e.1 < sim.nextObject
  nodeMap_live : ∀ nodeID p, sim.nodeMap.find? nodeID = some p →
    ∃ n, (p, n) ∈ sim.nodes ∧ n.nodeID = nodeID
  nodeID_mem : ∀ e ∈ sim.nodes, e.2.nodeID ∈ sim.nodeMap
  node_inv : ∀ e ∈ sim.nodes, e.2.Inv

theorem Inv.new : NetworkSimulator.new.Inv where
  nodup := List.nodup_nil
  lt_nextObject _ he := absurd he (List.not_mem_nil _)
  nodeMap_live _ _ h := by cases h
  nodeID_mem _ he := absurd he (List.not_mem_nil _)
  node_inv _ he := absurd he (List.not_mem_nil _)

/-- `e'` is the object `e` after a run of its own steps. -/
def Stepped (e e' : Nat × SimulatedNode) : Prop :=
  e'.1 = e.1 ∧ ∃ ops, e'.2 = simRun e.2 ops

theorem Stepped.one (p : Nat) (n : SimulatedNode) (env : Env) (op : SimOp) :
    Stepped (p, n) (p, n.step env op) :=
  ⟨rfl, [(env, op)], rfl⟩

theorem Stepped.two (p : Nat) (n : SimulatedNode) (env env' : Env) (op op' : SimOp) :
    Stepped (p, n) (p, (n.step env op).step env' op') :=
  ⟨rfl, [(env, op), (env', op')], rfl⟩

theorem Stepped.nodeID {e e' : Nat × SimulatedNode} (h : Stepped e e') : e'.2.nodeID = e.2.nodeID := by
  obtain ⟨-, ops, h⟩ := h
  rw [h, SimulatedNode.simRun_nodeID]

theorem Stepped.inv {e e' : Nat × SimulatedNode} (h : Stepped e e') (hi : e.2.Inv) : e'.2.Inv := by
  obtain ⟨-, ops, h⟩ := h
  exact h ▸ hi.simRun ops

variable {l l' : List (Nat × SimulatedNode)}

theorem Stepped.map_fst (h : List.Forall₂ Stepped l l') : l'.map Prod.fst = l.map Prod.fst := by
  induction h with
  | nil => rfl
  | cons hr _ ih => simp only [List.map_cons, hr.1, ih]

theorem Stepped.exists_right (h : List.Forall₂ Stepped l l') {e : Nat × SimulatedNode} (he : e ∈ l) :
    ∃ e' ∈ l', Stepped e e' := by
  induction h with
  | nil => exact absurd he (List.not_mem_nil _)
  | cons hr _ ih =>
      rcases List.mem_cons.1 he with rfl | he
      · exact ⟨_, List.mem_cons_self _ _, hr⟩
      · obtain ⟨e', he', hr'⟩ := ih he
        exact ⟨e', List.mem_cons_of_mem _ he', hr'⟩

theorem Stepped.exists_left (h : List.Forall₂ Stepped l l') {e' : Nat × SimulatedNode} (he' : e' ∈ l') :
    ∃ e ∈ l, Stepped e e' := by
  induction h with
  | nil => exact absurd he' (List.not_mem_nil _)
  | cons hr _ ih =>
      rcases List.mem_cons.1 he' with rfl | he'
      · exact ⟨_, List.mem_cons_self _ _, hr⟩
      · obtain ⟨e, he, hr'⟩ := ih he'
        exact ⟨e, List.mem_cons_of_mem _ he, hr'⟩

variable {sim sim' : NetworkSimulator}

/-- The step lemma for calls on the nodes in place: when each object of `nodes_` takes a run of
its own steps and the tables are left alone, the invariant is kept. -/
theorem Inv.of_stepped (h : sim.Inv) (hmap : sim'.nodeMap = sim.nodeMap)
    (hnext : sim'.nextObject = sim.nextObject) (hs : List.Forall₂ Stepped sim.nodes sim'.nodes) :
    sim'.Inv where
  nodup := Stepped.map_fst hs ▸ h.nodup
  lt_nextObject e' he' := by
    obtain ⟨e, he, hr⟩ := Stepped.exists_left hs he'
    rw [hr.1, hnext]
    exact h.lt_nextObject e he
  nodeMap_live nodeID p hp := by
    obtain ⟨n, hn, rfl⟩ := h.nodeMap_live nodeID p (hmap ▸ hp)
    obtain ⟨⟨q, m⟩, hm, hr⟩ := Stepped.exists_right hs hn
    obtain rfl : q = p := hr.1
    exact ⟨m, hm, hr.nodeID⟩
  nodeID_mem e' he' := by
    obtain ⟨e, he, hr⟩ := Stepped.exists_left hs he'
    rw [hr.nodeID, hmap]
    exact h.nodeID_mem e he
  node_inv e' he' := by
    obtain ⟨e, he, hr⟩ := Stepped.exists_left hs he'
    exact hr.inv (h.node_inv e he)

/-- A call on the nodes in place, each through its own steps. -/
theorem forall₂_stepped_map (f : Nat × SimulatedNode → List (Env × SimOp)) :
    List.Forall₂ Stepped l (l.map fun e => (e.1, simRun e.2 (f e))) :=
  List.forall₂_map_right_iff.2 (List.forall₂_same.2 fun e _ => ⟨rfl, f e, rfl⟩)

theorem Inv.updateNode (h : sim.Inv) (p : Nat) (ops : List (Env × SimOp)) :
    (sim.updateNode p fun n => simRun n ops).Inv :=
  h.of_stepped rfl rfl (List.forall₂_map_right_iff.2 (List.forall₂_same.2 fun e _ => by
    split_ifs
    · exact ⟨rfl, ops, rfl⟩
    · exact ⟨rfl, [], rfl⟩))

theorem Inv.createNode (h : sim.Inv) (port : Port) (nodeID : NodeID) (hostname : String)
    (now : Nat) : (sim.createNode port nodeID hostname now).2.Inv where
  nodup := by
    simp only [NetworkSimulator.createNode, List.map_append, List.map_cons, List.map_nil]
    refine List.nodup_append.2 ⟨h.nodup, List.nodup_singleton _, ?_⟩
    simp only [List.disjoint_singleton, List.mem_map, not_exists, not_and]
    intro e he hp
    exact absurd (hp ▸ h.lt_nextObject e he) (lt_irrefl _)
  lt_nextObject e he := by
    simp only [NetworkSimulator.createNode, List.mem_append, List.mem_singleton] at he ⊢
    rcases he with he | rfl
    · exact Nat.lt_succ_of_lt (h.lt_nextObject e he)
    · exact Nat.lt_succ_self _
  nodeMap_live k p hp := by
    simp only [NetworkSimulator.createNode, StdMap.find?_insert] at hp ⊢
    split_ifs at hp with hk
    · obtain rfl := Option.some.inj hp
      exact ⟨_, List.mem_append_right _ (List.mem_singleton_self _), hk.symm⟩
    · obtain ⟨n, hn, hid⟩ := h.nodeMap_live k p hp
      exact ⟨n, List.mem_append_left _ hn, hid⟩
  nodeID_mem e he := by
    simp only [NetworkSimulator.createNode, List.mem_append, List.mem_singleton, StdMap.mem_insert] at he ⊢
    rcases he with he | rfl
    · exact .inr (h.nodeID_mem e he)
    · exact .inl rfl
  node_inv e he := by
    simp only [NetworkSimulator.createNode, List.mem_append, List.mem_singleton] at he
    rcases he with he | rfl
    · exact h.node_inv e he
    · exact SimulatedNode.Inv.new _ _ _ _

/-- Erasing an ID from both tables keeps the invariant. -/
theorem Inv.erase (h : sim.Inv) (nodeID : NodeID) :
    { sim with nodeMap := sim.nodeMap.erase nodeID
               nodes := sim.nodes.filter fun e => e.2.nodeID ≠ nodeID }.Inv where
  nodup := ((List.filter_sublist _).map Prod.fst).nodup h.nodup
  lt_nextObject e he := h.lt_nextObject e (List.mem_of_mem_filter he)
  nodeMap_live k p hp := by
    simp only [StdMap.find?_erase] at hp
    split_ifs at hp with hk
    obtain ⟨n, hn, rfl⟩ := h.nodeMap_live k p hp
    exact ⟨n, List.mem_filter.2 ⟨hn, decide_eq_true hk⟩, rfl⟩
  nodeID_mem e he := by
    obtain ⟨he, hne⟩ := List.mem_filter.1 he
    exact StdMap.mem_erase.2 ⟨of_decide_eq_true hne, h.nodeID_mem e he⟩
  node_inv e he := h.node_inv e (List.mem_of_mem_filter he)

/-- An ID is in the map exactly when a node of `nodes_` has it. -/
theorem Inv.mem_nodeMap_iff (h : sim.Inv) (nodeID : NodeID) :
    nodeID ∈ sim.nodeMap ↔ ∃ e ∈ sim.nodes, e.2.nodeID = nodeID := by
  constructor
  · intro hk
    obtain ⟨p, hp⟩ := Option.isSome_iff_exists.1 (StdMap.mem_iff_find?.1 hk)
    obtain ⟨n, hn, hid⟩ := h.nodeMap_live nodeID p hp
    exact ⟨(p, n), hn, hid⟩
  · rintro ⟨e, he, rfl⟩
    exact h.nodeID_mem e he

/-- A call through `p` on the node `p` points to, which has the ID `nodeID`, changes nothing that
is left once the nodes with that ID are erased. -/
theorem filter_updateNode {l : List (Nat × SimulatedNode)} {p : Nat} {nodeID : NodeID}
    {f : SimulatedNode → SimulatedNode} (hf : ∀ n, (f n).nodeID = n.nodeID)
    (hp : ∀ e ∈ l, e.1 = p → e.2.nodeID = nodeID) :
    (l.map fun e => (e.1, if e.1 = p then f e.2 else e.2)).filter (fun e => e.2.nodeID ≠ nodeID) =
      l.filter fun e => e.2.nodeID ≠ nodeID := by
  induction l with
  | nil => rfl
  | cons e l ih =>
      have ih := ih fun e' he' => hp e' (List.mem_cons_of_mem _ he')
      by_cases he : e.1 = p
      · have hid := hp e (List.mem_cons_self _ _) he
        rw [List.map_cons, List.filter_cons_of_neg (by simp [he, hf, hid]),
          List.filter_cons_of_neg (by simp [hid]), ih]
      · simp only [List.map_cons, if_neg he, Prod.mk.eta, List.filter_cons, ih]

/-- `removeNode` on a state with the invariant: whether some node has the ID, and both tables with
the ID erased, nothing else changed. -/
theorem Inv.removeNode_eq (h : sim.Inv) (nodeID : NodeID) (env : Env) (now : Nat) :
    sim.removeNode nodeID env now =
      (sim.nodes.any fun e => e.2.nodeID = nodeID,
        { sim with nodeMap := sim.nodeMap.erase nodeID
                   nodes := sim.nodes.filter fun e => e.2.nodeID ≠ nodeID }) := by
  have hany : (sim.nodes.any fun e => e.2.nodeID = nodeID) = decide (nodeID ∈ sim.nodeMap) := by
    simp only [h.mem_nodeMap_iff, List.any_eq, decide_eq_true_eq]
  rw [hany]
  unfold NetworkSimulator.removeNode
  split
  · next hp =>
    have hk := StdMap.not_mem_iff_find?.2 hp
    have hfilter : (sim.nodes.filter fun e => e.2.nodeID ≠ nodeID) = sim.nodes :=
      List.filter_eq_self.2 fun e he => decide_eq_true fun hid => hk (hid ▸ h.nodeID_mem e he)
    rw [StdMap.erase_of_not_mem hk, hfilter, decide_eq_false hk]
  · next p hp =>
    obtain ⟨n, hn, hid⟩ := h.nodeMap_live nodeID p hp
    have hf (m : SimulatedNode) : ((m.stop env now).leaveNetwork env now).nodeID = m.nodeID :=
      (SimulatedNode.step_nodeID (m.step env (.stop now)) env (.leaveNetwork now)).trans
        (SimulatedNode.step_nodeID m env (.stop now))
    have hobj (e) (he : e ∈ sim.nodes) (hep : e.1 = p) : e.2.nodeID = nodeID := by
      rw [List.inj_on_of_nodup_map h.nodup he hn hep]
      exact hid
    simp only [NetworkSimulator.updateNode, filter_updateNode hf hobj,
      decide_eq_true (StdMap.mem_of_find? hp)]

theorem Inv.removeNode (h : sim.Inv) (nodeID : NodeID) (env : Env) (now : Nat) :
    (sim.removeNode nodeID env now).2.Inv := by
  rw [h.removeNode_eq]
  exact h.erase nodeID

theorem Inv.startAllNodes (h : sim.Inv) (input : Nat → NodeInput) : (sim.startAllNodes input).Inv := by
  unfold NetworkSimulator.startAllNodes
  split
  · exact h
  · next p first rest hnodes =>
    let addr := (first.start (input p).bindOk (input p).steady).2.address
    refine h.of_stepped rfl rfl ?_
    rw [hnodes]
    exact .cons (Stepped.one p first (input p).env (.start (input p).bindOk (input p).steady))
      (forall₂_stepped_map fun e => [((input e.1).env, .start (input e.1).bindOk (input e.1).steady),
        ((input e.1).env, .joinNetwork addr (input e.1).now)])

theorem Inv.stopAllNodes (h : sim.Inv) (input : Nat → NodeInput) : (sim.stopAllNodes input).Inv :=
  h.of_stepped rfl rfl (forall₂_stepped_map fun e => [((input e.1).env, .stop (input e.1).now)])

theorem Inv.testDynamicNodeAddition (h : sim.Inv) (nodeID : NodeID) (hostname : String) (now : Nat)
    (input : NodeInput) : (sim.testDynamicNodeAddition nodeID hostname now input).Inv := by
  unfold NetworkSimulator.testDynamicNodeAddition
  split
  · exact h
  · next first _ _ =>
    exact (h.createNode _ nodeID hostname now).updateNode _
      [(input.env, .start input.bindOk input.steady), (input.env, .joinNetwork first.2.address input.now)]

theorem Inv.testNodeRemoval (h : sim.Inv) (env : Env) (now : Nat) :
    (sim.testNodeRemoval env now).Inv := by
  unfold NetworkSimulator.testNodeRemoval
  split_ifs
  · exact h
  · split
    · exact h.removeNode _ env now
    · exact h

theorem Inv.testNodeFailure (h : sim.Inv) (env : Env) (now : Nat) :
    (sim.testNodeFailure env now).Inv := by
  unfold NetworkSimulator.testNodeFailure
  split_ifs
  · exact h
  · split
    · exact h.updateNode _ [(env, .stop now)]
    · exact h

theorem Inv.testNetworkIntegrity (h : sim.Inv) (input : Nat → NodeInput) :
    (sim.testNetworkIntegrity input).Inv :=
  h.of_stepped rfl rfl (List.forall₂_map_right_iff.2 (List.forall₂_same.2 fun e _ => by
    split_ifs
    · exact Stepped.one e.1 e.2 _ (.call (.maintainNetworkIntegrity (input e.1).now))
    · exact ⟨rfl, [], rfl⟩))

/-- The step lemma: every operation keeps the invariant. -/
theorem Inv.step (h : sim.Inv) : ∀ op : SimulatorOp, (sim.step op).Inv
  | .createNode port nodeID hostname now => h.createNode port nodeID hostname now
  | .removeNode nodeID env now => h.removeNode nodeID env now
  | .startAllNodes input => h.startAllNodes input
  | .stopAllNodes input => h.stopAllNodes input
  | .testDynamicNodeAddition nodeID hostname now input =>
      h.testDynamicNodeAddition nodeID hostname now input
  | .testNodeRemoval env now => h.testNodeRemoval env now
  | .testNodeFailure env now => h.testNodeFailure env now
  | .testNetworkIntegrity input => h.testNetworkIntegrity input
  | .node p env op => h.updateNode p [(env, op)]

/-- The run lemma. -/
theorem Inv.simulatorRun : ∀ (ops : List SimulatorOp) {sim : NetworkSimulator}, sim.Inv →
    (P2POverlay.simulatorRun sim ops).Inv
  | [], _, h => h
  | op :: ops, _, h => Inv.simulatorRun ops (h.step op)

end NetworkSimulator

/-- **`getNode` never returns a dangling pointer.**  On every state that any run of the
simulator's operations and of its nodes' steps reaches from the constructor, a pointer `getNode`
returns names exactly one node of `nodes_`, and that node has the ID asked for; and `getNode`
finds an ID exactly when some node of `nodes_` has it. -/
theorem simulatorRun_getNode (ops : List SimulatorOp) (nodeID : NodeID) :
    let sim := simulatorRun NetworkSimulator.new ops
    (∀ p, sim.getNode nodeID = some p →
      ∃ n, (p, n) ∈ sim.nodes ∧ n.nodeID = nodeID ∧ ∀ m, (p, m) ∈ sim.nodes → m = n) ∧
      ((sim.getNode nodeID).isSome ↔ ∃ e ∈ sim.nodes, e.2.nodeID = nodeID) := by
  have h := NetworkSimulator.Inv.new.simulatorRun ops
  refine ⟨fun p hp => ?_, h.mem_nodeMap_iff nodeID⟩
  obtain ⟨n, hn, hid⟩ := h.nodeMap_live nodeID p hp
  exact ⟨n, hn, hid, fun m hm => (Prod.mk.inj (List.inj_on_of_nodup_map h.nodup hm hn rfl)).2⟩

/-- **Removing a node erases its ID, and nothing else.**  On every state a run reaches from the
constructor, `removeNode(nodeID)` answers whether some node has the ID, and leaves the simulator
with the ID erased from `nodeMap_` and every node with it erased from `nodes_`: the `stop()` and
`leaveNetwork()` it calls on the node it removes change no node that remains, and with no node of
that ID it changes nothing. -/
theorem simulatorRun_removeNode (ops : List SimulatorOp) (nodeID : NodeID) (env : Env) (now : Nat) :
    let sim := simulatorRun NetworkSimulator.new ops
    sim.removeNode nodeID env now =
      (sim.nodes.any fun e => e.2.nodeID = nodeID,
        { sim with nodeMap := sim.nodeMap.erase nodeID
                   nodes := sim.nodes.filter fun e => e.2.nodeID ≠ nodeID }) :=
  (NetworkSimulator.Inv.new.simulatorRun ops).removeNode_eq nodeID env now

end P2POverlay
