/-
**Dynamic membership** (`DynamicNodeManager.cpp`).

The operations of `DynamicNodeManager` on the node's components, with lock re-entry ignored:
which mutexes a call takes is the business of `P2POverlay/Locks.lean`.  The clock is a virtual
clock in seconds, and the transport's answers to `connectToPeer` are an argument `connect`.

`detectFailedNodes(T)` visits every record under `nodesMutex_`: an `ACTIVE` record last seen
more than `T` seconds ago has its failure count raised, and is marked for removal once the
count reaches `3`; any other `ACTIVE` record has its count reset.  The marked records are then
removed by `removeNodeForced`.  The only code that moves a record's `lastSeen` is
`updateNodeLastSeen`, a private method that nothing calls.

Main definitions:

* `addNode`, `addNodeWithValidation`, `addNodesFromList`, `removeNodeGracefully`,
  `removeNodeForced`, `removeNode`, `setNodeState`, `getNodeState`, `getNodesByState`,
  `handleTopologyChange` — membership;
* `detectFailedNodes` (with `detectStep`, one visit of its loop), `recoverFromNodeFailure`,
  `maintainNetworkIntegrity`, `repairNetworkAfterNodeRemoval`, `ensureConnectivity`,
  `findReplacementConnections`, `establishReplacementConnections` — failure handling;
* `P2POverlay.OverlayOp`, `P2POverlay.overlayRun` — runs mixing message processing and the
  public operations.

Main results:

* `P2POverlay.Overlay.removeNodeForced_find?` — a forced removal erases one record;
* `P2POverlay.Overlay.foldl_detectStep` — the locked loop of a sweep is `sweepRecord` on every
  record, and marks the records that are `marked`;
* `P2POverlay.Overlay.detectFailedNodes_find?` — what a sweep leaves of each record.
-/

import P2POverlay.Overlay

set_option relaxedAutoImplicit false
set_option autoImplicit false

namespace P2POverlay

namespace Overlay

variable (connect : NetworkAddress → Bool)

/-! ### Registry helpers -/

/-- `incrementFailureCount`. -/
def incrementFailureCount (o : Overlay) (nodeID : NodeID) : Overlay :=
  { o with nodeRegistry := o.nodeRegistry.modify nodeID fun info =>
      { info with failureCount := info.failureCount + 1 } }

/-- `resetFailureCount`. -/
def resetFailureCount (o : Overlay) (nodeID : NodeID) : Overlay :=
  { o with nodeRegistry := o.nodeRegistry.modify nodeID fun info => { info with failureCount := 0 } }

/-- `shouldRemoveNode`: a failure count of at least `3`. -/
def shouldRemoveNode (o : Overlay) (nodeID : NodeID) : Bool :=
  match o.nodeRegistry.find? nodeID with
  | some info => 3 ≤ info.failureCount
  | none => false

/-- `updateNodeLastSeen` at second `now` (private, and called nowhere). -/
def updateNodeLastSeen (o : Overlay) (nodeID : NodeID) (now : Nat) : Overlay :=
  resetFailureCount { o with nodeRegistry := o.nodeRegistry.modify nodeID fun info =>
    { info with lastSeen := now } } nodeID

/-- `validateNodeAddition`. -/
def validateNodeAddition (o : Overlay) (nodeID : NodeID) (address : NetworkAddress) : Bool :=
  nodeID ≠ 0 ∧ address.port ≠ 0 ∧ address.host ≠ "" ∧ nodeID ≠ o.node.nodeID

/-- `getNodeState`. -/
def getNodeState (o : Overlay) (nodeID : NodeID) : NodeState :=
  ((o.nodeRegistry.find? nodeID).map (·.state)).getD .unknown

/-- `setNodeState`. -/
def setNodeState (o : Overlay) (nodeID : NodeID) (state : NodeState) : Overlay :=
  { o with nodeRegistry := o.nodeRegistry.modify nodeID fun info => { info with state } }

/-- `getNodesByState`, in increasing order of ID. -/
def getNodesByState (o : Overlay) (state : NodeState) : List NodeID :=
  (o.nodeRegistry.entries.filter fun e => e.2.state = state).map Prod.fst

/-- `handleTopologyChange`. -/
def handleTopologyChange (o : Overlay) (changedNodeID : NodeID) (added : Bool) : Overlay :=
  o.setNodeState changedNodeID (if added then .active else .failed)

/-! ### Connectivity -/

/-- `findReplacementConnections`: the registered IDs other than the local node and the removed
one that are not peers, while the roster has room. -/
def findReplacementConnections (o : Overlay) (removedNodeID : NodeID) : List NodeID :=
  o.topology.getAllNodeIDs.filter fun nodeID =>
    nodeID ≠ o.node.nodeID ∧ nodeID ≠ removedNodeID ∧ !o.node.hasPeer nodeID ∧
      o.node.getPeerCount < maxPeers

/-- `establishReplacementConnections`: add and connect each replacement with a known address
while the roster has room (a full roster stays full, so the `break` is a skip); `true` if some
connection succeeded. -/
def establishReplacementConnections (o : Overlay) (replacements : List NodeID) : Bool × Overlay :=
  replacements.foldl (fun r nodeID =>
    let addr := r.2.topology.getNodeAddress nodeID
    if maxPeers ≤ r.2.node.getPeerCount ∨ addr.port = 0 then r
    else
      match r.2.node.addPeer nodeID addr with
      | (false, _) => r
      | (true, node) =>
          (r.1 || connect addr, { r.2 with node, events := r.2.events ++ [.connectToPeer addr] }))
    (false, o)

/-- The loop of `ensureConnectivity` over `allNodes`: add and connect every ID with a known
address that is not `selfID` or a peer, while the roster has room. -/
def connectAll (o : Overlay) (selfID : NodeID) (allNodes : List NodeID) : Overlay :=
  allNodes.foldl (fun o nodeID =>
    let addr := o.topology.getNodeAddress nodeID
    if nodeID = selfID ∨ o.node.hasPeer nodeID ∨ maxPeers ≤ o.node.getPeerCount ∨ addr.port = 0
    then o
    else { o with node := (o.node.addPeer nodeID addr).2,
                  events := o.events ++ [.connectToPeer addr] }) o

/-- `ensureConnectivity`: when the roster has room, run the loop over the registered IDs; then
report connectivity. -/
def ensureConnectivity (o : Overlay) : Bool × Overlay :=
  let o' := if o.node.getPeerCount < maxPeers then o.connectAll o.node.nodeID o.topology.getAllNodeIDs
    else o
  (o'.topology.isTopologyConnected, o')

/-- `repairNetworkAfterNodeRemoval`: repair a disconnected topology, connect replacements,
validate, and fire `onNetworkRepaired_` if the topology is connected. -/
def repairNetworkAfterNodeRemoval (o : Overlay) (removedNodeID : NodeID) : Bool × Overlay :=
  let o := if o.topology.isTopologyConnected then o else { o with topology := o.topology.repairTopology }
  let replacements := o.findReplacementConnections removedNodeID
  let o := if replacements.isEmpty then o else (o.establishReplacementConnections connect replacements).2
  let integrityOK := o.topology.checkNetworkIntegrity
  let o := { o with topology := integrityOK.2 }
  if integrityOK.1 then (true, { o with events := o.events ++ [.networkRepaired] }) else (false, o)

/-- `recoverFromNodeFailure`. -/
def recoverFromNodeFailure (o : Overlay) (failedNodeID : NodeID) : Bool × Overlay :=
  let replacements := o.findReplacementConnections failedNodeID
  if replacements.isEmpty then (false, o) else o.establishReplacementConnections connect replacements

/-! ### Addition and removal -/

/-- `addNode` at second `now`: validate; refuse a known ID; record it `JOINING`; register it
with the topology (on refusal the record is erased again); take it as a peer if the roster has
room; record it `ACTIVE` and fire `onNodeAdded_`.  `propagateTopologyUpdate` does nothing. -/
def addNode (o : Overlay) (nodeID : NodeID) (address : NetworkAddress) (now : Nat) : Bool × Overlay :=
  if !o.validateNodeAddition nodeID address ∨ nodeID ∈ o.nodeRegistry then (false, o)
  else
    let info : NodeInfo := ⟨nodeID, address, .joining, now, now, 0⟩
    let r := o.topology.addNode nodeID address
    if !r.1 then (false, { o with nodeRegistry := (o.nodeRegistry.insert nodeID info).erase nodeID })
    else
      let o := { o with topology := r.2 }
      let o := if o.node.getPeerCount < maxPeers then
          { o with node := (o.node.addPeer nodeID address).2,
                   events := o.events ++ [.connectToPeer address] }
        else o
      (true, { o with nodeRegistry := o.nodeRegistry.insert nodeID { info with state := .active },
                      events := o.events ++ [.nodeAdded nodeID address] })

/-- `addNodeWithValidation`: also refuses the local node and a node the topology knows. -/
def addNodeWithValidation (o : Overlay) (nodeID : NodeID) (address : NetworkAddress) (now : Nat) :
    Bool × Overlay :=
  if nodeID = o.node.nodeID ∨ o.topology.nodeExists nodeID then (false, o)
  else o.addNode nodeID address now

/-- `addNodesFromList`: the IDs added, in order. -/
def addNodesFromList (o : Overlay) (nodes : List (NodeID × NetworkAddress)) (now : Nat) :
    List NodeID × Overlay :=
  nodes.foldl (fun r e =>
    let a := r.2.addNode e.1 e.2 now
    (if a.1 then r.1 ++ [e.1] else r.1, a.2)) ([], o)

/-- The part of a removal before the repair: mark the record `state`, drop the peer,
disconnect, remove the node from the topology, erase the record, fire `callback`. -/
def detachNode (state : NodeState) (callback : NodeID → OverlayEvent) (o : Overlay)
    (nodeID : NodeID) : Overlay :=
  { o with node := (o.node.removePeer nodeID).2
           topology := (o.topology.removeNode nodeID).2
           nodeRegistry := ((o.setNodeState nodeID state).nodeRegistry).erase nodeID
           events := o.events ++ [.disconnectFromPeer nodeID, callback nodeID] }

/-- The body shared by the two removals: refuse an unknown ID; detach the node, then repair. -/
def removeNodeWith (state : NodeState) (callback : NodeID → OverlayEvent) (o : Overlay)
    (nodeID : NodeID) : Bool × Overlay :=
  if nodeID ∈ o.nodeRegistry then
    (true, ((detachNode state callback o nodeID).repairNetworkAfterNodeRemoval connect nodeID).2)
  else (false, o)

/-- `removeNodeGracefully`: state `LEAVING`, callback `onNodeRemoved_`. -/
def removeNodeGracefully (o : Overlay) (nodeID : NodeID) : Bool × Overlay :=
  removeNodeWith connect .leaving .nodeRemoved o nodeID

/-- `removeNodeForced`: state `FAILED`, callback `onNodeFailed_`. -/
def removeNodeForced (o : Overlay) (nodeID : NodeID) : Bool × Overlay :=
  removeNodeWith connect .failed .nodeFailed o nodeID

/-- `removeNode(nodeID, graceful)`. -/
def removeNode (o : Overlay) (nodeID : NodeID) (graceful : Bool) : Bool × Overlay :=
  if graceful then o.removeNodeGracefully connect nodeID else o.removeNodeForced connect nodeID

/-! ### Failure detection -/

/-- One visit of the locked loop of `detectFailedNodes(timeoutSeconds)` at second `now`, with
the IDs marked so far. -/
def detectStep (timeoutSeconds : Int) (now : Nat) (r : Overlay × List NodeID) (nodeID : NodeID) :
    Overlay × List NodeID :=
  match r.1.nodeRegistry.find? nodeID with
  | none => r
  | some info =>
      if info.state ≠ .active then r
      else if timeoutSeconds < (now : Int) - info.lastSeen then
        let o := r.1.incrementFailureCount nodeID
        (o, if o.shouldRemoveNode nodeID then r.2 ++ [nodeID] else r.2)
      else (r.1.resetFailureCount nodeID, r.2)

/-- `detectFailedNodes(timeoutSeconds)` at second `now`: the locked loop over the records in
increasing order of ID, then `removeNodeForced` on each marked ID. -/
def detectFailedNodes (o : Overlay) (timeoutSeconds : Int) (now : Nat) : Overlay :=
  let r := o.nodeRegistry.keys.foldl (detectStep timeoutSeconds now) (o, [])
  r.2.foldl (fun o nodeID => (o.removeNodeForced connect nodeID).2) r.1

/-- `maintainNetworkIntegrity` at second `now`: validate and repair the topology, sweep with
`NODE_TIMEOUT_SEC`, `ensureConnectivity`. -/
def maintainNetworkIntegrity (o : Overlay) (now : Nat) : Bool × Overlay :=
  let t := o.topology.validateTopology
  let o := { o with topology := if t.isTopologyConnected then t else t.repairTopology }
  (o.detectFailedNodes connect nodeTimeoutSec now).ensureConnectivity

/-! ### What the operations do to the registry -/

theorem establishReplacementConnections_nodeRegistry (o : Overlay) (replacements : List NodeID) :
    (o.establishReplacementConnections connect replacements).2.nodeRegistry = o.nodeRegistry := by
  show (replacements.foldl _ (false, o)).2.nodeRegistry = (false, o).2.nodeRegistry
  generalize (false, o) = r
  induction replacements generalizing r with
  | nil => rfl
  | cons x xs ih =>
      rw [List.foldl_cons, ih]
      dsimp only
      split_ifs
      · rfl
      · split <;> rfl

theorem repairNetworkAfterNodeRemoval_nodeRegistry (o : Overlay) (removedNodeID : NodeID) :
    (o.repairNetworkAfterNodeRemoval connect removedNodeID).2.nodeRegistry = o.nodeRegistry := by
  simp only [repairNetworkAfterNodeRemoval]
  split_ifs <;> simp [establishReplacementConnections_nodeRegistry, apply_ite]

/-- A removal erases the record of its node and no other. -/
theorem removeNodeWith_find? (state : NodeState) (callback : NodeID → OverlayEvent) (o : Overlay)
    (nodeID k : NodeID) :
    (removeNodeWith connect state callback o nodeID).2.nodeRegistry.find? k =
      if k = nodeID then none else o.nodeRegistry.find? k := by
  unfold removeNodeWith
  by_cases h : nodeID ∈ o.nodeRegistry
  · by_cases hk : k = nodeID <;>
      simp [h, hk, repairNetworkAfterNodeRemoval_nodeRegistry, detachNode, setNodeState]
  · by_cases hk : k = nodeID
    · subst hk; simpa [h] using StdMap.not_mem_iff_find?.1 h
    · simp [h, hk]

theorem removeNodeForced_find? (o : Overlay) (nodeID k : NodeID) :
    (o.removeNodeForced connect nodeID).2.nodeRegistry.find? k =
      if k = nodeID then none else o.nodeRegistry.find? k :=
  removeNodeWith_find? connect _ _ o nodeID k

theorem foldl_removeNodeForced_find? :
    ∀ (ids : List NodeID) (o : Overlay) (k : NodeID),
      (ids.foldl (fun o nodeID => (o.removeNodeForced connect nodeID).2) o).nodeRegistry.find? k =
        if k ∈ ids then none else o.nodeRegistry.find? k
  | [], _, _ => rfl
  | x :: xs, o, k => by
      rw [List.foldl_cons, foldl_removeNodeForced_find? xs, removeNodeForced_find?]
      by_cases hk : k = x <;> simp [hk]

/-- What a successful `addNode` did: the node passed validation and was new to the registry
and the topology; it is registered with the topology, taken as a peer if the roster had room,
and recorded `ACTIVE`. -/
theorem addNode_eq_true {o o' : Overlay} {nodeID : NodeID} {address : NetworkAddress} {now : Nat}
    (h : o.addNode nodeID address now = (true, o')) :
    o.validateNodeAddition nodeID address = true ∧ nodeID ∉ o.nodeRegistry ∧
      nodeID ∉ o.topology.nodeRegistry ∧ o'.topology = (o.topology.addNode nodeID address).2 ∧
      o'.node = (if o.node.getPeerCount < maxPeers then (o.node.addPeer nodeID address).2 else o.node) ∧
      o'.nodeRegistry = o.nodeRegistry.insert nodeID ⟨nodeID, address, .active, now, now, 0⟩ := by
  unfold addNode at h
  dsimp only at h
  split_ifs at h with hv ht hroom
  · exact absurd (congrArg Prod.fst h) Bool.false_ne_true
  · exact absurd (congrArg Prod.fst h) Bool.false_ne_true
  all_goals
    simp only [not_or, Bool.not_eq_true', Bool.not_eq_false] at hv
    have hfresh : nodeID ∉ o.topology.nodeRegistry := fun hm => by
      simp [TopologyManager.addNode, hm] at ht
    obtain ⟨-, rfl⟩ := Prod.mk.inj h
  · exact ⟨hv.1, hv.2, hfresh, rfl, (if_pos hroom).symm, rfl⟩
  · exact ⟨hv.1, hv.2, hfresh, rfl, (if_neg hroom).symm, rfl⟩

/-- **A failed `addNode` changes nothing**: the `JOINING` record it inserts before trying the
topology is erased again when the topology refuses the node. -/
theorem addNode_eq_self_of_fst_eq_false {o : Overlay} {nodeID : NodeID} {address : NetworkAddress}
    {now : Nat} (h : (o.addNode nodeID address now).1 = false) : (o.addNode nodeID address now).2 = o := by
  unfold addNode at h ⊢
  dsimp only at h ⊢
  split_ifs at h ⊢ with hv
  · rfl
  · rw [StdMap.erase_insert_of_not_mem fun hm => hv (.inr hm)]

/-! ### The sweep, record by record -/

/-- What a sweep at second `now` does to a record: an `ACTIVE` record more than
`timeoutSeconds` old counts one more failure, a fresh `ACTIVE` record is reset, any other
record is kept. -/
def sweepRecord (timeoutSeconds : Int) (now : Nat) (info : NodeInfo) : NodeInfo :=
  if info.state ≠ .active then info
  else if timeoutSeconds < (now : Int) - info.lastSeen then
    { info with failureCount := info.failureCount + 1 }
  else { info with failureCount := 0 }

/-- Whether a sweep marks a record for removal: `ACTIVE`, more than `timeoutSeconds` old, and
with its raised failure count at least `3`. -/
def marked (timeoutSeconds : Int) (now : Nat) (info : NodeInfo) : Bool :=
  info.state = .active ∧ timeoutSeconds < (now : Int) - info.lastSeen ∧ 3 ≤ info.failureCount + 1

/-- One visit changes the visited record by `sweepRecord` and no other. -/
theorem detectStep_find? (timeoutSeconds : Int) (now : Nat) (r : Overlay × List NodeID)
    (k k' : NodeID) :
    (detectStep timeoutSeconds now r k).1.nodeRegistry.find? k' =
      if k' = k then (r.1.nodeRegistry.find? k).map (sweepRecord timeoutSeconds now)
      else r.1.nodeRegistry.find? k' := by
  unfold detectStep
  cases h : r.1.nodeRegistry.find? k with
  | none => by_cases hk : k' = k <;> simp [hk, h]
  | some info =>
      by_cases hk : k' = k
      · subst hk
        simp only [if_true, Option.map_some']
        split_ifs <;> simp [incrementFailureCount, resetFailureCount, sweepRecord, h, *]
      · simp only [hk, if_false]
        split_ifs <;> simp [incrementFailureCount, resetFailureCount, hk]

/-- One visit marks the visited record exactly when `marked` holds of it. -/
theorem detectStep_snd (timeoutSeconds : Int) (now : Nat) (r : Overlay × List NodeID) (k : NodeID) :
    (detectStep timeoutSeconds now r k).2 =
      if (r.1.nodeRegistry.find? k).any (marked timeoutSeconds now) then r.2 ++ [k] else r.2 := by
  unfold detectStep
  cases h : r.1.nodeRegistry.find? k with
  | none => rfl
  | some info =>
      simp only [marked, Option.any_some]
      by_cases ha : info.state = .active
      · by_cases hs : timeoutSeconds < (now : Int) - info.lastSeen
        · have hsr : (r.1.incrementFailureCount k).shouldRemoveNode k =
              decide (3 ≤ info.failureCount + 1) := by
            simp [shouldRemoveNode, incrementFailureCount, h]
          simp [ha, hs, hsr]
        · simp [ha, hs]
      · simp [ha]

/-- The locked loop of `detectFailedNodes` over distinct IDs applies `sweepRecord` to each
visited record and marks, in order, the visited IDs whose record is `marked`. -/
theorem foldl_detectStep (timeoutSeconds : Int) (now : Nat) :
    ∀ (ks : List NodeID) (r : Overlay × List NodeID), ks.Nodup →
      (∀ k', (ks.foldl (detectStep timeoutSeconds now) r).1.nodeRegistry.find? k' =
        if k' ∈ ks then (r.1.nodeRegistry.find? k').map (sweepRecord timeoutSeconds now)
        else r.1.nodeRegistry.find? k') ∧
      (ks.foldl (detectStep timeoutSeconds now) r).2 =
        r.2 ++ ks.filter fun k => (r.1.nodeRegistry.find? k).any (marked timeoutSeconds now)
  | [], _, _ => ⟨fun _ => rfl, by simp⟩
  | k :: ks, r, hnd => by
      obtain ⟨hk, hks⟩ := List.nodup_cons.1 hnd
      obtain ⟨ih₁, ih₂⟩ := foldl_detectStep timeoutSeconds now ks (detectStep timeoutSeconds now r k) hks
      have hsame : ∀ k' ∈ ks, (detectStep timeoutSeconds now r k).1.nodeRegistry.find? k' =
          r.1.nodeRegistry.find? k' := fun k' hk' => by
        rw [detectStep_find?, if_neg (by rintro rfl; exact hk hk')]
      refine ⟨fun k' => ?_, ?_⟩
      · rw [List.foldl_cons, ih₁, detectStep_find?]
        by_cases hk' : k' = k
        · subst hk'; simp [hk]
        · by_cases hmem : k' ∈ ks <;> simp [hk', hmem, detectStep_find?]
      · rw [List.foldl_cons, ih₂, List.filter_congr fun k' hk' => by rw [hsame k' hk'],
          detectStep_snd, List.filter_cons]
        split_ifs <;> simp

/-- **What a sweep leaves of a record**: nothing if the sweep marked it, and otherwise the
record with its failure count raised or reset by `sweepRecord`. -/
theorem detectFailedNodes_find? (o : Overlay) (timeoutSeconds : Int) (now : Nat) (k : NodeID) :
    (o.detectFailedNodes connect timeoutSeconds now).nodeRegistry.find? k =
      (o.nodeRegistry.find? k).bind fun info =>
        if marked timeoutSeconds now info then none else some (sweepRecord timeoutSeconds now info) := by
  obtain ⟨h₁, h₂⟩ := foldl_detectStep timeoutSeconds now o.nodeRegistry.keys (o, [])
    (StdMap.keys_nodup _)
  simp only [detectFailedNodes, foldl_removeNodeForced_find?, h₁, h₂, List.nil_append,
    List.mem_filter]
  cases h : o.nodeRegistry.find? k with
  | none => simp [← StdMap.mem_iff_mem_keys, StdMap.not_mem_iff_find?.2 h]
  | some info =>
      have hk : k ∈ o.nodeRegistry.keys := StdMap.mem_iff_mem_keys.1 (StdMap.mem_of_find? h)
      by_cases hm : marked timeoutSeconds now info <;> simp [hk, h, hm]

end Overlay

/-! ### Runs -/

/-- What happens next on the node: a message is processed, or a public operation of
`DynamicNodeManager` is called, at a second of the clock where it reads one. -/
inductive OverlayOp where
  | processMessage (message : Message) (now : Nat)
  | addNode (nodeID : NodeID) (address : NetworkAddress) (now : Nat)
  | addNodeWithValidation (nodeID : NodeID) (address : NetworkAddress) (now : Nat)
  | addNodesFromList (nodes : List (NodeID × NetworkAddress)) (now : Nat)
  | removeNode (nodeID : NodeID) (graceful : Bool)
  | setNodeState (nodeID : NodeID) (state : NodeState)
  | handleTopologyChange (changedNodeID : NodeID) (added : Bool)
  | detectFailedNodes (timeoutSeconds : Int) (now : Nat)
  | recoverFromNodeFailure (failedNodeID : NodeID)
  | maintainNetworkIntegrity (now : Nat)
  | repairNetworkAfterNodeRemoval (removedNodeID : NodeID)
  | ensureConnectivity

namespace Overlay

variable (connect : NetworkAddress → Bool)

/-- One operation; `none` when it throws. -/
def step (o : Overlay) : OverlayOp → Option Overlay
  | .processMessage message now => o.processMessage message now
  | .addNode nodeID address now => some (o.addNode nodeID address now).2
  | .addNodeWithValidation nodeID address now => some (o.addNodeWithValidation nodeID address now).2
  | .addNodesFromList nodes now => some (o.addNodesFromList nodes now).2
  | .removeNode nodeID graceful => some (o.removeNode connect nodeID graceful).2
  | .setNodeState nodeID state => some (o.setNodeState nodeID state)
  | .handleTopologyChange changedNodeID added => some (o.handleTopologyChange changedNodeID added)
  | .detectFailedNodes timeoutSeconds now => some (o.detectFailedNodes connect timeoutSeconds now)
  | .recoverFromNodeFailure failedNodeID => some (o.recoverFromNodeFailure connect failedNodeID).2
  | .maintainNetworkIntegrity now => some (o.maintainNetworkIntegrity connect now).2
  | .repairNetworkAfterNodeRemoval removedNodeID =>
      some (o.repairNetworkAfterNodeRemoval connect removedNodeID).2
  | .ensureConnectivity => some o.ensureConnectivity.2

end Overlay

/-- A run of operations from `o`; `none` once one throws. -/
def overlayRun (connect : NetworkAddress → Bool) (o : Overlay) (ops : List OverlayOp) : Option Overlay :=
  ops.foldlM (Overlay.step connect) o

end P2POverlay
