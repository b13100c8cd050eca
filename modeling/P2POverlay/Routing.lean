/-
**Shortest-path routing** (`MessageRouter::routeMessage`, `routeMessageDirect`,
`routeMessageMultiHop`, `findRoute`, `getHopCount`, `isReachable`, `forwardMessage`,
`handleIncomingRoute`, `updateRoutingTable`, `getRoutingTable`, `computeShortestPath`,
`getNextHop`).

`findRoute(t)` first checks whether `t` is directly connected, answering `[self, t]` when `t`
is in the local roster, and answers `findPath(self, t)` otherwise; `routeMessageMultiHop` sends
to the second node of the route, and the hop count and reachability are read off the route.  The
routing table is built from `findPath` alone.  The two agree when every peer is a neighbour of
the local node in the topology (`P2POverlay.MessageRouter.routing_agrees`).  Past that condition
the roster comes first: `DynamicNodeManager::addNode` puts a new node in the roster and adds no
edge to it, so the router sends to it directly and reports it reachable at one hop, while
`findPath` finds no path to it and the routing table has no entry for it.

A message passing through is forwarded to the second node of the route, as multi-hop routing
sends it, and the table `updateRoutingTable` builds only caches what `getNextHop` would compute.
No function of the program calls `forwardMessage`, `handleIncomingRoute` or `getNextHop`.

Main definitions:

* `P2POverlay.RoutingStrategy`, `P2POverlay.MessageRouter.routeMessage` and the calls it makes;
* `P2POverlay.RoutingInfo`, `P2POverlay.MessageRouter.forwardMessage`,
  `P2POverlay.MessageRouter.handleIncomingRoute`;
* `P2POverlay.RoutingTable`, `P2POverlay.updateRoutingTable`,
  `P2POverlay.RoutingTable.getRoutingTable`, `P2POverlay.RoutingTable.getNextHop`.

Main results:

* `P2POverlay.find?_updateRoutingTable` — the table holds the second node of `findPath` for each
  registered target;
* `P2POverlay.getNextHop_updateRoutingTable` — with a fresh table `getNextHop` answers as if it
  computed the path;
* `P2POverlay.MessageRouter.forwardMessage_routeMessageMultiHop` — forwarding answers and sends
  as multi-hop routing;
* `P2POverlay.MessageRouter.routing_agrees` — **route, reachability, hop count and table agree
  with `findPath` when every peer is a neighbour**;
* `P2POverlay.routeMessage_roster_shortcut` — a node `addNode` has just added is routed to
  directly and reported reachable at one hop, with no path to it and no entry in the table.
-/

import P2POverlay.FindPath
import P2POverlay.TopologyInvariant
import P2POverlay.MessageRouter
import P2POverlay.Membership

set_option relaxedAutoImplicit false
set_option autoImplicit false

namespace P2POverlay

/-- `RoutingStrategy`. -/
inductive RoutingStrategy where
  | direct
  | shortestPath
  | flood
  | gossip
  deriving DecidableEq, Repr

/-- `RoutingInfo`: `forwardMessage` reads its hop count alone; the path, the timestamp and the
strategy are read by no function and are left out. -/
structure RoutingInfo where
  hopCount : Int

namespace MessageRouter

/-! ### Routes -/

/-- `findRoute(targetID)`, on the node and the topology the router was built with. -/
def findRoute (node : Node) (topology : TopologyManager) (targetID : NodeID) : List NodeID :=
  if node.hasPeer targetID then [node.nodeID, targetID]
  else topology.findPath node.nodeID targetID

/-- `getHopCount(targetID)`: `-1` when there is no route. -/
def getHopCount (node : Node) (topology : TopologyManager) (targetID : NodeID) : Int :=
  let route := findRoute node topology targetID
  if route.isEmpty then -1 else (route.length : Int) - 1

/-- `isReachable(targetID)`. -/
def isReachable (node : Node) (topology : TopologyManager) (targetID : NodeID) : Bool :=
  !(findRoute node topology targetID).isEmpty

/-- `sendMessageToPeer(peerID, message)` on the transport, answered by `answer`. -/
def sendMessageToPeer (r : MessageRouter) (peerID : NodeID) (message : Message)
    (answer : NodeID → Bool) : Bool × MessageRouter :=
  (answer peerID, { r with sends := r.sends ++ [(peerID, message)] })

/-- `routeMessageMultiHop(targetID, message)`: `false` without a route; a route of one node
goes to `targetID`, a longer one to its second node.  `totalHopCount_` is read by no modelled
function and is left out. -/
def routeMessageMultiHop (r : MessageRouter) (node : Node) (topology : TopologyManager)
    (targetID : NodeID) (message : Message) (answer : NodeID → Bool) : Bool × MessageRouter :=
  match findRoute node topology targetID with
  | [] => (false, r)
  | [_] => r.sendMessageToPeer targetID message answer
  | _ :: nextHop :: _ => r.sendMessageToPeer nextHop message answer

/-- `routeMessageDirect(targetID, message)`: straight to a peer, multi-hop otherwise. -/
def routeMessageDirect (r : MessageRouter) (node : Node) (topology : TopologyManager)
    (targetID : NodeID) (message : Message) (answer : NodeID → Bool) : Bool × MessageRouter :=
  if node.hasPeer targetID then r.sendMessageToPeer targetID message answer
  else r.routeMessageMultiHop node topology targetID message answer

/-- `routeMessage(message, strategy)` at second `now`; `GOSSIP` takes the default branch.
`routedMessageCount_` is read by no modelled function and is left out. -/
def routeMessage (r : MessageRouter) (node : Node) (topology : TopologyManager) (message : Message)
    (strategy : RoutingStrategy) (now : Nat) (answer : NodeID → Bool) : Bool × MessageRouter :=
  match strategy with
  | .direct => r.routeMessageDirect node topology message.receiverID message answer
  | .shortestPath => r.routeMessageMultiHop node topology message.receiverID message answer
  | .flood => r.floodMessage message node.peerIDs now answer
  | .gossip => r.routeMessageMultiHop node topology message.receiverID message answer

/-- `forwardMessage(message, routingInfo)`: refused for a hop count of `0` or less, and
delivered at the receiver; otherwise counted and sent to the second node of the route, if the
route has one. -/
def forwardMessage (r : MessageRouter) (node : Node) (topology : TopologyManager) (message : Message)
    (routingInfo : RoutingInfo) (answer : NodeID → Bool) : Bool × MessageRouter :=
  if routingInfo.hopCount ≤ 0 then (false, r)
  else if message.receiverID = node.nodeID then (true, r)
  else
    match findRoute node topology message.receiverID with
    | _ :: nextHop :: _ =>
        { r with forwardedMessageCount := r.forwardedMessageCount + 1 }.sendMessageToPeer nextHop
          message answer
    | _ => (false, r)

/-- `handleIncomingRoute(message, routingInfo)`: a message for another node is forwarded. -/
def handleIncomingRoute (r : MessageRouter) (node : Node) (topology : TopologyManager)
    (message : Message) (routingInfo : RoutingInfo) (answer : NodeID → Bool) : MessageRouter :=
  if message.receiverID = node.nodeID then r
  else (r.forwardMessage node topology message routingInfo answer).2

end MessageRouter

/-! ### The routing table -/

/-- The routing part of `MessageRouter`: `routingTable_`, the next hop towards each target, and
`hopCounts_`.  `routeTimestamps_` holds wall-clock times that no modelled function reads, and is
left out. -/
structure RoutingTable where
  routingTable : StdMap NodeID NodeID
  hopCounts : StdMap NodeID Int

/-- The body of the loop of `updateRoutingTable` for `targetID`: skip the local node; for a path
of two nodes or more, record its second node and its hop count. -/
def updateRoute (node : Node) (topology : TopologyManager) (rt : RoutingTable) (targetID : NodeID) :
    RoutingTable :=
  if targetID = node.nodeID then rt
  else
    let path := topology.findPath node.nodeID targetID
    match path with
    | _ :: nextHop :: _ =>
        ⟨rt.routingTable.insert targetID nextHop, rt.hopCounts.insert targetID ((path.length : Int) - 1)⟩
    | _ => rt

/-- `updateRoutingTable()`: clear both maps, then one `updateRoute` per registered ID. -/
def updateRoutingTable (node : Node) (topology : TopologyManager) : RoutingTable :=
  topology.getAllNodeIDs.foldl (updateRoute node topology) ⟨.empty, .empty⟩

/-- `getRoutingTable()`: for each target in the table, the path `findPath` gives now. -/
def RoutingTable.getRoutingTable (rt : RoutingTable) (node : Node) (topology : TopologyManager) :
    StdMap NodeID (List NodeID) :=
  rt.routingTable.map fun targetID _ => topology.findPath node.nodeID targetID

theorem updateRoute_find? (node : Node) (topology : TopologyManager) (rt : RoutingTable)
    (targetID k : NodeID) :
    (updateRoute node topology rt targetID).routingTable.find? k =
      if k = targetID ∧ k ≠ node.nodeID then
        (topology.findPath node.nodeID k)[1]?.or (rt.routingTable.find? k)
      else rt.routingTable.find? k := by
  unfold updateRoute
  by_cases hself : targetID = node.nodeID
  · rw [if_pos hself, if_neg (by rintro ⟨rfl, h⟩; exact h hself)]
  rw [if_neg hself]
  by_cases hk : k = targetID
  · subst hk
    rw [if_pos ⟨rfl, hself⟩]
    dsimp only
    rcases topology.findPath node.nodeID k with _ | ⟨a, _ | ⟨b, l⟩⟩ <;> simp
  · rw [if_neg (fun h => hk h.1)]
    dsimp only
    split <;> simp [hk]

/-- The loop of `updateRoutingTable` over distinct IDs sets the entry of each one other than the
local node from its path, and leaves the others alone. -/
theorem find?_foldl_updateRoute (node : Node) (topology : TopologyManager) (k : NodeID) :
    ∀ (ids : List NodeID) (rt : RoutingTable), ids.Nodup →
      (ids.foldl (updateRoute node topology) rt).routingTable.find? k =
        if k ∈ ids ∧ k ≠ node.nodeID then
          (topology.findPath node.nodeID k)[1]?.or (rt.routingTable.find? k)
        else rt.routingTable.find? k
  | [], _, _ => by simp
  | x :: xs, rt, hnd => by
      rw [List.foldl_cons, find?_foldl_updateRoute node topology k xs _ (List.nodup_cons.1 hnd).2,
        updateRoute_find?]
      by_cases hk : k = x
      · subst hk
        simp [(List.nodup_cons.1 hnd).1]
      · simp [hk]

/-- **The routing table holds the second node of `findPath` for each registered target** other
than the local node, and nothing else. -/
theorem find?_updateRoutingTable (node : Node) (topology : TopologyManager) (k : NodeID) :
    (updateRoutingTable node topology).routingTable.find? k =
      if k ∈ topology.nodeRegistry ∧ k ≠ node.nodeID then (topology.findPath node.nodeID k)[1]?
      else none := by
  rw [updateRoutingTable, TopologyManager.getAllNodeIDs,
    find?_foldl_updateRoute _ _ _ _ _ (StdMap.keys_nodup _)]
  simp [TopologyManager.getAllNodeIDs, StdMap.mem_iff_mem_keys]

/-- `computeShortestPath(targetID)`. -/
def computeShortestPath (node : Node) (topology : TopologyManager) (targetID : NodeID) :
    List NodeID :=
  topology.findPath node.nodeID targetID

/-- `getNextHop(targetID)`: the table's next hop; failing that, the second node of the path
computed now; failing that, `0`. -/
def RoutingTable.getNextHop (rt : RoutingTable) (node : Node) (topology : TopologyManager)
    (targetID : NodeID) : NodeID :=
  match rt.routingTable.find? targetID with
  | some nextHop => nextHop
  | none =>
      match computeShortestPath node topology targetID with
      | _ :: nextHop :: _ => nextHop
      | _ => 0

/-- **The routing table is a cache of `findPath`.**  With the table `updateRoutingTable`
computes from the topology as it stands, `getNextHop` answers for every target what it answers
with an empty table, where it computes the path on the fly. -/
theorem getNextHop_updateRoutingTable (node : Node) (topology : TopologyManager)
    (targetID : NodeID) :
    (updateRoutingTable node topology).getNextHop node topology targetID =
      RoutingTable.getNextHop ⟨.empty, .empty⟩ node topology targetID := by
  unfold RoutingTable.getNextHop computeShortestPath
  rw [find?_updateRoutingTable]
  split_ifs <;> rcases topology.findPath node.nodeID targetID with _ | ⟨a, _ | ⟨b, l⟩⟩ <;> simp

namespace MessageRouter

/-- **Routing agrees with the BFS when every peer is a neighbour** of the local node in the
topology: for a registered target other than the local node, the route is `findPath`, so the
table holds its second node, the target is reachable exactly when the path is non-empty, and the
hop count is one less than the length of the path. -/
theorem routing_agrees (node : Node) (topology : TopologyManager)
    (hpeers : ∀ p, node.hasPeer p = true → p ∈ topology.neighbours node.nodeID)
    {targetID : NodeID} (hne : targetID ≠ node.nodeID) (hreg : targetID ∈ topology.nodeRegistry) :
    findRoute node topology targetID = topology.findPath node.nodeID targetID ∧
      (updateRoutingTable node topology).routingTable.find? targetID =
        (findRoute node topology targetID)[1]? ∧
      (isReachable node topology targetID = true ↔ topology.findPath node.nodeID targetID ≠ []) ∧
      getHopCount node topology targetID = ((topology.findPath node.nodeID targetID).length : Int) - 1 := by
  have hroute : findRoute node topology targetID = topology.findPath node.nodeID targetID := by
    unfold findRoute
    split_ifs with hp
    · exact (topology.findPath_of_mem_neighbours (Ne.symm hne) (hpeers _ hp)).symm
    · rfl
  refine ⟨hroute, ?_, ?_, ?_⟩
  · rw [find?_updateRoutingTable, if_pos ⟨hreg, hne⟩, hroute]
  · simp [isReachable, hroute]
  · unfold getHopCount
    rw [hroute]
    dsimp only
    split_ifs with h
    · simp [List.isEmpty_iff.1 h]
    · rfl

/-- One node peered with the next on the path `1 - 2`. -/
theorem routing_agrees_one_edge :
    let node := ((Node.new 1 ⟨"a", 9000⟩ 0).addPeer 2 ⟨"b", 9001⟩).2
    let topology := ((((TopologyManager.new 1).addNode 1 ⟨"a", 9000⟩).2.addNode 2
      ⟨"b", 9001⟩).2.addEdge 1 2)
    ((∀ p, node.hasPeer p = true → p ∈ topology.neighbours node.nodeID) ∧
      (2 : NodeID) ≠ node.nodeID ∧ (2 : NodeID) ∈ topology.nodeRegistry) ∧
      findRoute node topology 2 = topology.findPath node.nodeID 2 ∧
      (updateRoutingTable node topology).routingTable.find? 2 = (findRoute node topology 2)[1]? ∧
      (isReachable node topology 2 = true ↔ topology.findPath node.nodeID 2 ≠ []) ∧
      getHopCount node topology 2 = ((topology.findPath node.nodeID 2).length : Int) - 1 := by
  intro node topology
  have hpeers : ∀ p, node.hasPeer p = true → p ∈ topology.neighbours node.nodeID := fun p h => by
    obtain rfl : p = 2 := by simpa [node, Node.new, Node.addPeer, Node.hasPeer, maxPeers] using h
    decide
  have hne : (2 : NodeID) ≠ node.nodeID := by decide
  have hreg : (2 : NodeID) ∈ topology.nodeRegistry := by decide
  exact ⟨⟨hpeers, hne, hreg⟩, routing_agrees node topology hpeers hne hreg⟩

/-- A route to another node never has a single node: a peer gets `[self, peer]`, and a path
`findPath` finds between two different nodes holds both. -/
theorem findRoute_ne_singleton (node : Node) (topology : TopologyManager) {targetID : NodeID}
    (hne : targetID ≠ node.nodeID) (x : NodeID) : findRoute node topology targetID ≠ [x] := by
  unfold findRoute
  split_ifs
  · simp
  · intro h
    rcases (topology.findPath_spec (Ne.symm hne)).2 with ⟨h0, -⟩ | ⟨hh, hl, -⟩
    · exact List.cons_ne_nil _ _ (h ▸ h0)
    · rw [h, List.head?_singleton, Option.some_inj] at hh
      rw [h, List.getLast?_singleton, Option.some_inj] at hl
      exact hne (hl.symm.trans hh)

/-- **Forwarding agrees with multi-hop routing.**  With a positive hop count, `forwardMessage`
of a message for another node answers what `routeMessageMultiHop` answers for its receiver, and
makes the same sends: both go to the second node of the route, which always has one when it is
not empty. -/
theorem forwardMessage_routeMessageMultiHop (r : MessageRouter) (node : Node)
    (topology : TopologyManager) (message : Message) (routingInfo : RoutingInfo)
    (answer : NodeID → Bool) (hpos : 0 < routingInfo.hopCount) (hne : message.receiverID ≠ node.nodeID) :
    let f := r.forwardMessage node topology message routingInfo answer
    let m := r.routeMessageMultiHop node topology message.receiverID message answer
    f.1 = m.1 ∧ f.2.sends = m.2.sends := by
  have hsingle := findRoute_ne_singleton node topology hne
  simp only [forwardMessage, routeMessageMultiHop, if_neg (not_le.2 hpos), if_neg hne]
  rcases hroute : findRoute node topology message.receiverID with _ | ⟨a, _ | ⟨b, l⟩⟩
  · exact ⟨rfl, rfl⟩
  · exact absurd hroute (hsingle a)
  · exact ⟨rfl, rfl⟩

/-- Node `1` forwards a message for `3` along the path `1 - 2 - 3`. -/
theorem forwardMessage_routeMessageMultiHop_path :
    let node := Node.new 1 ⟨"a", 9000⟩ 0
    let topology := ((((TopologyManager.new 1).addNode 1 ⟨"a", 9000⟩).2.addNode 2
      ⟨"b", 9001⟩).2.addNode 3 ⟨"c", 9002⟩).2.addEdge 1 2 |>.addEdge 2 3
    let message : Message := ⟨.dataMessage, 1, 3, [104], 0⟩
    (0 < (⟨1⟩ : RoutingInfo).hopCount ∧ message.receiverID ≠ node.nodeID) ∧
      (MessageRouter.new.forwardMessage node topology message ⟨1⟩ fun _ => true).1 =
        (MessageRouter.new.routeMessageMultiHop node topology message.receiverID message
          fun _ => true).1 ∧
      (MessageRouter.new.forwardMessage node topology message ⟨1⟩ fun _ => true).2.sends =
        (MessageRouter.new.routeMessageMultiHop node topology message.receiverID message
          fun _ => true).2.sends := by
  intro node topology message
  have h : 0 < (⟨1⟩ : RoutingInfo).hopCount ∧ message.receiverID ≠ node.nodeID := by decide
  exact ⟨h, forwardMessage_routeMessageMultiHop _ node topology message ⟨1⟩ _ h.1 h.2⟩

end MessageRouter

/-- A node just added to a topology with the invariant has no edge into it, so no other node
reaches it. -/
theorem TopologyManager.Inv.not_reaches_addNode {t : TopologyManager} (h : t.Inv) {x : NodeID}
    (hx : x ∉ t.nodeRegistry) (address : NetworkAddress) {a : NodeID} (ha : a ≠ x) :
    ¬(t.addNode x address).2.Reaches a x := by
  intro hr
  cases hr with
  | refl => exact ha rfl
  | tail _ hlast =>
      rw [TopologyManager.neighbours_addNode hx] at hlast
      split_ifs at hlast
      · exact StdSet.not_mem_empty _ hlast
      · exact hx (h.closed _ x hlast)

/-- **A node just added by `addNode` is routed to past the routing table.**  After a successful
`addNode` of `p` with room in the roster, on a topology with the representation invariant, `p`
is a peer other than the local node, and `findPath` finds no path to it, since nothing links it
to the graph.  Yet `routeMessage(m, SHORTEST_PATH)` for `p` hands `m` to `p`, `isReachable(p)`
holds, `getHopCount(p)` is `1`, and the routing table, and so `getRoutingTable`, has no entry
for `p`. -/
theorem routeMessage_roster_shortcut (o o' : Overlay) (p : NodeID) (address : NetworkAddress)
    (now : Nat) (hinv : o.topology.Inv) (hroom : o.node.getPeerCount < maxPeers)
    (hadd : o.addNode p address now = (true, o')) :
    p ≠ o'.node.nodeID ∧ o'.node.hasPeer p = true ∧
      o'.topology.findPath o'.node.nodeID p = [] ∧
      (∀ (r : MessageRouter) (message : Message) (now' : Nat) (answer : NodeID → Bool),
        message.receiverID = p →
          r.routeMessage o'.node o'.topology message .shortestPath now' answer =
            r.sendMessageToPeer p message answer) ∧
      MessageRouter.isReachable o'.node o'.topology p = true ∧
      MessageRouter.getHopCount o'.node o'.topology p = 1 ∧
      (updateRoutingTable o'.node o'.topology).routingTable.find? p = none ∧
      ((updateRoutingTable o'.node o'.topology).getRoutingTable o'.node o'.topology).find? p = none := by
  obtain ⟨hv, -, hfresh, htop, hnode, -⟩ := Overlay.addNode_eq_true hadd
  rw [if_pos hroom] at hnode
  have hself : p ≠ o'.node.nodeID := by
    simp only [Overlay.validateNodeAddition, decide_eq_true_eq] at hv
    rw [hnode, Node.addPeer_nodeID]
    exact hv.2.2.2
  have hpeer : o'.node.hasPeer p = true := hnode ▸ Node.hasPeer_addPeer address hroom
  have hpath : o'.topology.findPath o'.node.nodeID p = [] := by
    refine o'.topology.findPath_eq_nil (Ne.symm hself) ?_
    rw [htop]
    exact hinv.not_reaches_addNode hfresh address (Ne.symm hself)
  have hroute : MessageRouter.findRoute o'.node o'.topology p = [o'.node.nodeID, p] :=
    if_pos hpeer
  have htable : (updateRoutingTable o'.node o'.topology).routingTable.find? p = none := by
    rw [find?_updateRoutingTable, hpath]
    split_ifs <;> rfl
  refine ⟨hself, hpeer, hpath, fun r message now' answer hm => ?_, by simp [MessageRouter.isReachable, hroute],
    by simp [MessageRouter.getHopCount, hroute], htable, by simp [RoutingTable.getRoutingTable, htable]⟩
  simp only [MessageRouter.routeMessage, MessageRouter.routeMessageMultiHop, hm, hroute]

/-- Node `1`, registered in its own topology and with no peers, adds node `2`: a message for `2`
goes to `2`, which is reachable at one hop, while `findPath` finds no path to it and the table
has no entry for it. -/
theorem routeMessage_roster_shortcut_two :
    let o : Overlay :=
      { Overlay.new ⟨1, ⟨"a", 1⟩, [], [], 0⟩ with
        topology := ((TopologyManager.new 1).addNode 1 ⟨"a", 1⟩).2 }
    let o' := (o.addNode 2 ⟨"b", 2⟩ 0).2
    (o.topology.Inv ∧ o.node.getPeerCount < maxPeers ∧ o.addNode 2 ⟨"b", 2⟩ 0 = (true, o')) ∧
      2 ≠ o'.node.nodeID ∧ o'.node.hasPeer 2 = true ∧ o'.topology.findPath o'.node.nodeID 2 = [] ∧
      (∀ (r : MessageRouter) (message : Message) (now' : Nat) (answer : NodeID → Bool),
        message.receiverID = 2 →
          r.routeMessage o'.node o'.topology message .shortestPath now' answer =
            r.sendMessageToPeer 2 message answer) ∧
      MessageRouter.isReachable o'.node o'.topology 2 = true ∧
      MessageRouter.getHopCount o'.node o'.topology 2 = 1 ∧
      (updateRoutingTable o'.node o'.topology).routingTable.find? 2 = none ∧
      ((updateRoutingTable o'.node o'.topology).getRoutingTable o'.node o'.topology).find? 2 = none := by
  intro o o'
  have hinv : o.topology.Inv := (TopologyManager.Inv.new 1).addNode 1 _
  have hroom : o.node.getPeerCount < maxPeers := by decide
  have hadd : o.addNode 2 ⟨"b", 2⟩ 0 = (true, o') := Prod.ext (by decide) rfl
  exact ⟨⟨hinv, hroom, hadd⟩, routeMessage_roster_shortcut o o' 2 _ 0 hinv hroom hadd⟩

end P2POverlay
