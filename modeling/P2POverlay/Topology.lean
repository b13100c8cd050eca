/-
**The topology engine** (`TopologyManager.h`, `TopologyManager.cpp`).

The registry `nodeRegistry_` maps each known node to its address; the adjacency
`adjacencyList_` maps a node to the set of its neighbours.  Both sit under one mutex,
`topologyMutex_`.  Here every operation is the function its body computes on the two maps;
which mutexes a call takes, and that some calls take one they already hold, is the business of
`P2POverlay/Locks.lean`.  `repairTopology` calls `validateTopology`, `isTopologyConnected` and
`getAllNodeIDs` while holding `topologyMutex_`; its model is the composition of their models,
i.e. the behaviour with lock re-entry ignored.

Main definitions:

* `P2POverlay.TopologyManager` — the local node's ID, the registry, the adjacency;
* `addNode`, `removeNode`, `removeNodeFromGraph`, `updateNodeAddress`, `discoverPeers`, `addEdge`,
  `validateTopology`, `hasPathDFS`, `isTopologyConnected`, `checkNetworkIntegrity`,
  `repairTopology` — the operations;
* `P2POverlay.TopologyManager.neighbours` — the adjacency set of a node, empty when it has no
  entry.

Main results:

* `P2POverlay.TopologyManager.mem_neighbours_addEdge`,
  `P2POverlay.TopologyManager.mem_neighbours_removeNodeFromGraph` — how the two operations that
  change edges change a neighbourhood;
* `P2POverlay.TopologyManager.hasPathDFS_self` — a search from a node to itself stops at once,
  so `isTopologyConnected` is `size ≤ 1` (`isTopologyConnected_eq`).
-/

import P2POverlay.StdMap

set_option relaxedAutoImplicit false
set_option autoImplicit false

namespace P2POverlay

/-- `TopologyManager`: the ID of `localNode_`, the registry and the adjacency.  The bootstrap
list is read by no modelled function and is left out. -/
structure TopologyManager where
  localNodeID : NodeID
  nodeRegistry : StdMap NodeID NetworkAddress
  adjacencyList : StdMap NodeID (StdSet NodeID)

namespace TopologyManager

/-- `TopologyManager(node)`: both maps empty. -/
def new (localNodeID : NodeID) : TopologyManager := ⟨localNodeID, .empty, .empty⟩

/-! ### Registry operations -/

/-- `addNode`: refuses a registered ID; otherwise registers it and sets its adjacency entry to
the empty set. -/
def addNode (t : TopologyManager) (nodeID : NodeID) (address : NetworkAddress) :
    Bool × TopologyManager :=
  if nodeID ∈ t.nodeRegistry then (false, t)
  else (true, { t with nodeRegistry := t.nodeRegistry.insert nodeID address,
                       adjacencyList := t.adjacencyList.insert nodeID .empty })

/-- `registerNode` is `addNode`. -/
def registerNode (t : TopologyManager) (nodeID : NodeID) (address : NetworkAddress) :
    Bool × TopologyManager :=
  t.addNode nodeID address

/-- `removeNodeFromGraph`: erases the node from the registry, its adjacency entry, and itself
from every adjacency set. -/
def removeNodeFromGraph (t : TopologyManager) (nodeID : NodeID) : TopologyManager :=
  { t with nodeRegistry := t.nodeRegistry.erase nodeID,
           adjacencyList := (t.adjacencyList.erase nodeID).map fun _ s => s.erase nodeID }

/-- `removeNode`: refuses an unregistered ID. -/
def removeNode (t : TopologyManager) (nodeID : NodeID) : Bool × TopologyManager :=
  if nodeID ∈ t.nodeRegistry then (true, t.removeNodeFromGraph nodeID) else (false, t)

/-- `updateNodeAddress`: overwrites the address of a registered ID. -/
def updateNodeAddress (t : TopologyManager) (nodeID : NodeID) (newAddress : NetworkAddress) :
    Bool × TopologyManager :=
  if nodeID ∈ t.nodeRegistry then (true, { t with nodeRegistry := t.nodeRegistry.insert nodeID newAddress })
  else (false, t)

/-- `nodeExists`. -/
def nodeExists (t : TopologyManager) (nodeID : NodeID) : Bool := nodeID ∈ t.nodeRegistry

/-- `getNodeAddress`: the registered address, or `NetworkAddress()`. -/
def getNodeAddress (t : TopologyManager) (nodeID : NodeID) : NetworkAddress :=
  t.nodeRegistry.findD nodeID default

/-- `getAllNodeIDs`: the registered IDs in increasing order. -/
def getAllNodeIDs (t : TopologyManager) : List NodeID := t.nodeRegistry.keys

/-- `getNetworkSize`. -/
def getNetworkSize (t : TopologyManager) : Nat := t.nodeRegistry.size

/-- `discoverPeers`: the registered IDs other than the requester and the local node, in
increasing order, cut to the first `maxPeers`.  A negative `maxPeers` is below every size, and
`resize` to it (converted to `size_t`, beyond `max_size()`) throws `std::length_error`:
`none`. -/
def discoverPeers (t : TopologyManager) (requestingNodeID : NodeID) (maxPeers : Int) :
    Option (List NodeID) :=
  let availablePeers := t.nodeRegistry.keys.filter fun id => id ≠ requestingNodeID ∧ id ≠ t.localNodeID
  if maxPeers < availablePeers.length then
    if maxPeers < 0 then none else some (availablePeers.take maxPeers.toNat)
  else some availablePeers

/-- `discoverPeers` throws exactly on a negative limit. -/
theorem discoverPeers_isSome (t : TopologyManager) (requestingNodeID : NodeID) (maxPeers : Int) :
    (t.discoverPeers requestingNodeID maxPeers).isSome ↔ 0 ≤ maxPeers := by
  unfold discoverPeers
  dsimp only
  split_ifs <;> simp <;> omega

/-! ### Edges -/

/-- The adjacency set of `a`, or the empty set when `a` has no entry. -/
def neighbours (t : TopologyManager) (a : NodeID) : StdSet NodeID :=
  t.adjacencyList.findD a .empty

/-- `getNeighbors`. -/
def getNeighbors (t : TopologyManager) (nodeID : NodeID) : List NodeID := (t.neighbours nodeID).elems

/-- `addEdge`: ignores a self-loop; otherwise inserts each endpoint into the other's set,
creating a missing entry (`adjacencyList_[from].insert(to)`). -/
def addEdge (t : TopologyManager) (from_ to_ : NodeID) : TopologyManager :=
  if from_ = to_ then t
  else { t with adjacencyList :=
    (t.adjacencyList.alter from_ .empty (·.insert to_)).alter to_ .empty (·.insert from_) }

/-! ### Maintenance -/

/-- `updateTopology`: `buildAdjacencyList` has an empty body. -/
def updateTopology (t : TopologyManager) : TopologyManager := t

/-- `validateTopology`: erases every adjacency entry whose key is not registered. -/
def validateTopology (t : TopologyManager) : TopologyManager :=
  { t with adjacencyList := t.adjacencyList.filter fun k _ => k ∈ t.nodeRegistry }

/-- The loop over the neighbours in `hasPathDFS`: each unvisited neighbour is searched in turn,
with the visited set threaded through, until one search succeeds. -/
def dfsNeighbours (visit : NodeID → StdSet NodeID → Bool × StdSet NodeID) :
    List NodeID → StdSet NodeID → Bool × StdSet NodeID
  | [], visited => (false, visited)
  | n :: ns, visited =>
      if n ∈ visited then dfsNeighbours visit ns visited
      else
        match visit n visited with
        | (true, v) => (true, v)
        | (false, v) => dfsNeighbours visit ns v

/-- `hasPathDFS(from, to, visited)`, with `fuel` bounding the depth of the recursion: it marks
`from` visited, succeeds if `from = to`, and otherwise searches the unvisited neighbours. -/
def hasPathDFS (adj : StdMap NodeID (StdSet NodeID)) :
    Nat → NodeID → NodeID → StdSet NodeID → Bool × StdSet NodeID
  | 0, _, _, visited => (false, visited)
  | fuel + 1, from_, to_, visited =>
      let visited := visited.insert from_
      if from_ = to_ then (true, visited)
      else dfsNeighbours (hasPathDFS adj fuel · to_) (adj.findD from_ .empty).elems visited

/-- One more than the number of `(node, neighbour)` pairs: a bound on the depth of any search,
since each level visits a node that is the neighbour of the level above. -/
def dfsFuel (t : TopologyManager) : Nat :=
  (t.adjacencyList.entries.map fun e => e.2.size).sum + 1

/-- `isTopologyConnected`: true on at most one node; otherwise a search from the first
registered node to itself, compared by the size of its visited set. -/
def isTopologyConnected (t : TopologyManager) : Bool :=
  if t.nodeRegistry.size = 0 then true
  else if t.nodeRegistry.size = 1 then true
  else
    match t.nodeRegistry.keys with
    | [] => true
    | startNode :: _ =>
        (hasPathDFS t.adjacencyList t.dfsFuel startNode startNode .empty).2.size ==
          t.nodeRegistry.size

/-- `checkNetworkIntegrity`: validate, then report connectivity. -/
def checkNetworkIntegrity (t : TopologyManager) : Bool × TopologyManager :=
  (t.validateTopology.isTopologyConnected, t.validateTopology)

/-- The edges of the repair ring over `ids`: `(ids[i], ids[(i + 1) % n])` for each `i < n`. -/
def ringEdges (ids : List NodeID) : List (NodeID × NodeID) :=
  (List.range ids.length).map fun i => (ids.getD i 0, ids.getD ((i + 1) % ids.length) 0)

/-- `repairTopology`, with lock re-entry ignored: validate; if the graph is not connected and
more than one node is registered, join the registered nodes in a ring in key order. -/
def repairTopology (t : TopologyManager) : TopologyManager :=
  let t := t.validateTopology
  if t.isTopologyConnected then t
  else
    let nodeIDs := t.getAllNodeIDs
    if 1 < nodeIDs.length then
      (ringEdges nodeIDs).foldl (fun t e => t.addEdge e.1 e.2) t
    else t

/-! ### Equation lemmas -/

variable {t : TopologyManager}

@[simp] theorem removeNodeFromGraph_nodeRegistry (x : NodeID) :
    (t.removeNodeFromGraph x).nodeRegistry = t.nodeRegistry.erase x := rfl

@[simp] theorem addEdge_nodeRegistry (a b : NodeID) : (t.addEdge a b).nodeRegistry = t.nodeRegistry := by
  unfold addEdge; split_ifs <;> rfl

@[simp] theorem validateTopology_nodeRegistry : t.validateTopology.nodeRegistry = t.nodeRegistry := rfl

@[simp] theorem mem_neighbours_removeNodeFromGraph {x a b : NodeID} :
    b ∈ (t.removeNodeFromGraph x).neighbours a ↔ a ≠ x ∧ b ≠ x ∧ b ∈ t.neighbours a := by
  simp only [neighbours, removeNodeFromGraph, StdMap.findD, StdMap.find?_map, StdMap.find?_erase]
  by_cases ha : a = x
  · simp [ha]
  · cases h : t.adjacencyList.find? a <;> simp [ha, h, and_comm]

theorem mem_neighbours_addEdge {a b u v : NodeID} (huv : u ≠ v) :
    b ∈ (t.addEdge u v).neighbours a ↔ b ∈ t.neighbours a ∨ (a = u ∧ b = v) ∨ (a = v ∧ b = u) := by
  simp only [addEdge, if_neg huv, neighbours, StdMap.findD, StdMap.find?_alter]
  by_cases hv : a = v
  · subst hv; simp [Ne.symm huv, StdSet.mem_insert, or_comm]
  · by_cases hu : a = u
    · subst hu; simp [hv, StdSet.mem_insert, or_comm]
    · simp [hu, hv]

theorem mem_adjacencyList_addEdge {u v a : NodeID} (huv : u ≠ v) :
    a ∈ (t.addEdge u v).adjacencyList ↔ a = v ∨ a = u ∨ a ∈ t.adjacencyList := by
  simp [addEdge, huv]

/-- A search from a node to itself stops at once, with only that node visited. -/
theorem hasPathDFS_self (adj : StdMap NodeID (StdSet NodeID)) (fuel : Nat) (v : NodeID)
    (visited : StdSet NodeID) :
    hasPathDFS adj (fuel + 1) v v visited = (true, visited.insert v) := by
  simp [hasPathDFS]

@[simp] theorem size_insert_empty (v : NodeID) : (StdSet.empty.insert v).size = 1 := rfl

/-- `isTopologyConnected` holds exactly on graphs of at most one registered node. -/
theorem isTopologyConnected_eq (t : TopologyManager) :
    t.isTopologyConnected = decide (t.nodeRegistry.size ≤ 1) := by
  unfold isTopologyConnected
  split_ifs with h₀ h₁
  · simp [h₀]
  · simp [h₁]
  · have hk : t.nodeRegistry.keys.length = t.nodeRegistry.size := List.length_map _ _
    split
    · rename_i hnil; simp [hnil] at hk; omega
    · rw [dfsFuel, hasPathDFS_self, size_insert_empty, decide_eq_false (by omega)]
      exact beq_false_of_ne (by omega)

end TopologyManager

end P2POverlay
