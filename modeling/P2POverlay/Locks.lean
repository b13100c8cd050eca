/-
**Which mutexes a call takes** (`std::lock_guard` in `TopologyManager.cpp`,
`DynamicNodeManager.cpp`, `ReliableMessaging.cpp`, `DataExchange.cpp`).

Each `std::mutex` of the four components is a flag, held or free, of the calling thread.  A call
is modelled by its *lock trace*: the acquisitions and releases of those mutexes and the user
callbacks it runs, in order, read off the code's call structure and computed from the model
state where the path depends on it.  Running a trace (`LockState.run`) records each callback
with the mutexes held when it ran; locking a mutex the thread already holds blocks the thread
for good (`std::mutex` is not recursive), and the rest of the trace is not run.

The traces assume every callback registered, as `main` does.  Calls on the `Node` (each holds
one of the node's own mutexes for its span and calls nothing) and on the transport take no
mutex of the four components and run no callback, and are left out.  A loop whose state the
trace depends on is read through the model function on a prefix of the loop's list.

Main definitions:

* `P2POverlay.Mutex`, `P2POverlay.Callback`, `P2POverlay.LockEvent`, `P2POverlay.locked`;
* `P2POverlay.LockState`, `P2POverlay.LockState.run`, `P2POverlay.runLocks` — running a trace;
* `repairTopologyLocks`, `detectFailedNodesLocks`, `maintainNetworkIntegrityLocks`,
  `removeNodeGracefullyLocks`, `removeNodeForcedLocks`, `addNodeLocks`,
  `acknowledgeMessageLocks`, `markMessageFailedLocks`, `markTransferCompleteLocks`,
  `updateTransferProgressLocks` and their callees — the traces.

Main results:

* `P2POverlay.LockState.run_of_blocked`, `P2POverlay.LockState.blocked_run_append`,
  `P2POverlay.LockState.run_section`, `P2POverlay.LockState.run_acquire_held`,
  `P2POverlay.LockState.mem_invoked_run` — how a trace runs;
* `P2POverlay.TopologyManager.run_repairTopologyLocks` — `repairTopology` blocks whenever it
  starts without `topologyMutex_`;
* `P2POverlay.Overlay.run_detectFailedNodesLocks` — a sweep blocks when a record is `ACTIVE`.
-/

import P2POverlay.Membership
import P2POverlay.ReliableMessaging
import P2POverlay.DataExchange

set_option relaxedAutoImplicit false
set_option autoImplicit false

namespace P2POverlay

/-- The mutexes of the four components. -/
inductive Mutex where
  | topologyMutex
  | nodesMutex
  | pendingMessagesMutex
  | transfersMutex
  | receivedDataMutex
  deriving DecidableEq, Repr

/-- The user callbacks of the four components. -/
inductive Callback where
  | onNodeAdded | onNodeRemoved | onNodeFailed | onNetworkRepaired
  | onMessageDelivered | onMessageFailed
  | onTransferProgress | onTransferComplete | onDataReceived
  deriving DecidableEq, Repr

/-- What a call does that matters to its locks. -/
inductive LockEvent where
  | acquire (m : Mutex)
  | release (m : Mutex)
  | invoke (c : Callback)
  deriving DecidableEq, Repr

/-- `std::lock_guard<std::mutex> lock(m)` around `body`. -/
def locked (m : Mutex) (body : List LockEvent) : List LockEvent :=
  .acquire m :: (body ++ [.release m])

/-- The calling thread's mutexes, the callbacks run so far with the mutexes held at the time,
and the mutex the thread is blocked on, if any. -/
structure LockState where
  held : List Mutex
  invoked : List (Callback × List Mutex)
  blocked : Option Mutex
  deriving DecidableEq, Repr

namespace LockState

/-- A thread that holds nothing and has run nothing. -/
def init : LockState := ⟨[], [], none⟩

/-- One event; a blocked thread does nothing more. -/
def step (s : LockState) (e : LockEvent) : LockState :=
  match s.blocked, e with
  | some _, _ => s
  | none, .acquire m => if m ∈ s.held then { s with blocked := some m } else { s with held := m :: s.held }
  | none, .release m => { s with held := s.held.erase m }
  | none, .invoke c => { s with invoked := s.invoked ++ [(c, s.held)] }

/-- A trace run from `s`. -/
def run (s : LockState) (es : List LockEvent) : LockState := es.foldl step s

variable {s : LockState}

@[simp] theorem run_nil : s.run [] = s := rfl

@[simp] theorem run_cons (e : LockEvent) (es : List LockEvent) : s.run (e :: es) = (s.step e).run es :=
  rfl

@[simp] theorem run_append (es es' : List LockEvent) : s.run (es ++ es') = (s.run es).run es' :=
  List.foldl_append _ _ _ _

/-- A blocked thread stays as it is. -/
theorem run_of_blocked {m : Mutex} (h : s.blocked = some m) (es : List LockEvent) : s.run es = s := by
  induction es with
  | nil => rfl
  | cons e es ih => simp only [run_cons, step, h]; exact ih

/-- A critical section that calls nothing leaves a running thread as it was. -/
theorem run_section {m : Mutex} (hb : s.blocked = none) (hm : m ∉ s.held) : s.run (locked m []) = s := by
  cases s
  subst hb
  simp_all [locked, step]

/-- Locking a held mutex blocks the thread. -/
theorem run_acquire_held {m : Mutex} (hb : s.blocked = none) (hm : m ∈ s.held) (es : List LockEvent) :
    (s.run (.acquire m :: es)).blocked = some m := by
  rw [run_cons, run_of_blocked (m := m) (by simp [step, hb, hm])]
  simp [step, hb, hm]

/-- A thread blocked by a trace stays blocked through whatever follows. -/
theorem blocked_run_append {m : Mutex} {es : List LockEvent} (h : (s.run es).blocked = some m)
    (es' : List LockEvent) : (s.run (es ++ es')).blocked = some m := by
  rw [run_append, run_of_blocked h]
  exact h

/-- A callback once run stays run. -/
theorem mem_invoked_run {x : Callback × List Mutex} (h : x ∈ s.invoked) (es : List LockEvent) :
    x ∈ (s.run es).invoked := by
  induction es generalizing s with
  | nil => exact h
  | cons e es ih =>
      apply ih
      unfold step
      split
      · exact h
      · split_ifs <;> exact h
      · exact h
      · exact List.mem_append_left _ h

end LockState

/-- A trace run by a thread that holds nothing. -/
def runLocks (es : List LockEvent) : LockState := LockState.init.run es

/-! ### `TopologyManager` -/

namespace TopologyManager

/-- A call that holds `topologyMutex_` for its span and calls nothing that locks: `addNode`,
`removeNode`, `getNodeAddress`, `getAllNodeIDs`, `validateTopology`, `isTopologyConnected` and
the other accessors. -/
def sectionLocks : List LockEvent := locked .topologyMutex []

/-- `addNode`. -/
def addNodeLocks : List LockEvent := sectionLocks

/-- `removeNode`. -/
def removeNodeLocks : List LockEvent := sectionLocks

/-- `getNodeAddress`. -/
def getNodeAddressLocks : List LockEvent := sectionLocks

/-- `getAllNodeIDs`. -/
def getAllNodeIDsLocks : List LockEvent := sectionLocks

/-- `validateTopology`. -/
def validateTopologyLocks : List LockEvent := sectionLocks

/-- `isTopologyConnected`. -/
def isTopologyConnectedLocks : List LockEvent := sectionLocks

/-- `checkNetworkIntegrity`: `validateTopology`, then `isTopologyConnected`, with nothing held
between. -/
def checkNetworkIntegrityLocks : List LockEvent := validateTopologyLocks ++ isTopologyConnectedLocks

/-- `repairTopology`: under `topologyMutex_`, `validateTopology`, `isTopologyConnected`, and
`getAllNodeIDs` when the validated topology is not connected (`addEdge` takes no lock). -/
def repairTopologyLocks (t : TopologyManager) : List LockEvent :=
  locked .topologyMutex (validateTopologyLocks ++ isTopologyConnectedLocks ++
    if t.validateTopology.isTopologyConnected then [] else getAllNodeIDsLocks)

/-- **`repairTopology` blocks** on `topologyMutex_` whenever it starts without it, whatever the
topology: its `validateTopology` locks the mutex it holds. -/
theorem run_repairTopologyLocks (t : TopologyManager) {s : LockState} (hb : s.blocked = none)
    (hm : Mutex.topologyMutex ∉ s.held) :
    (s.run t.repairTopologyLocks).blocked = some .topologyMutex := by
  simp only [repairTopologyLocks, locked, validateTopologyLocks, sectionLocks, List.cons_append,
    List.append_assoc]
  rw [LockState.run_cons]
  exact LockState.run_acquire_held (by simp [LockState.step, hb, hm]) (by simp [LockState.step, hb, hm]) _

end TopologyManager

/-! ### `DynamicNodeManager` -/

namespace Overlay

variable (connect : NetworkAddress → Bool)

/-- A call that holds `nodesMutex_` for its span and calls nothing that locks:
`incrementFailureCount`, `resetFailureCount`, `shouldRemoveNode` and the accessors. -/
def nodesSectionLocks : List LockEvent := locked .nodesMutex []

/-- `incrementFailureCount`. -/
def incrementFailureCountLocks : List LockEvent := nodesSectionLocks

/-- `resetFailureCount`. -/
def resetFailureCountLocks : List LockEvent := nodesSectionLocks

/-- `shouldRemoveNode`. -/
def shouldRemoveNodeLocks : List LockEvent := nodesSectionLocks

/-- `establishReplacementConnections`: a `getNodeAddress` for each replacement visited while
the roster has room. -/
def establishReplacementConnectionsLocks (o : Overlay) (replacements : List NodeID) :
    List LockEvent :=
  (List.range replacements.length).flatMap fun i =>
    if maxPeers ≤ (o.establishReplacementConnections connect (replacements.take i)).2.node.getPeerCount
    then [] else TopologyManager.getNodeAddressLocks

/-- `repairNetworkAfterNodeRemoval`: `isTopologyConnected`, `repairTopology` when not
connected, `getAllNodeIDs` (in `findReplacementConnections`), the replacements,
`checkNetworkIntegrity`, and `onNetworkRepaired_` when the topology is connected. -/
def repairNetworkAfterNodeRemovalLocks (o : Overlay) (removedNodeID : NodeID) : List LockEvent :=
  let o₁ := if o.topology.isTopologyConnected then o else { o with topology := o.topology.repairTopology }
  let replacements := o₁.findReplacementConnections removedNodeID
  let o₂ := if replacements.isEmpty then o₁ else (o₁.establishReplacementConnections connect replacements).2
  TopologyManager.isTopologyConnectedLocks ++
    (if o.topology.isTopologyConnected then [] else o.topology.repairTopologyLocks) ++
    TopologyManager.getAllNodeIDsLocks ++
    (if replacements.isEmpty then [] else o₁.establishReplacementConnectionsLocks connect replacements) ++
    TopologyManager.checkNetworkIntegrityLocks ++
    (if o₂.topology.checkNetworkIntegrity.1 then [.invoke .onNetworkRepaired] else [])

/-- The trace shared by the two removals: under `nodesMutex_`, for a known ID,
`TopologyManager::removeNode`, the callback, and the repair. -/
def removeNodeWithLocks (state : NodeState) (callback : NodeID → OverlayEvent) (c : Callback)
    (o : Overlay) (nodeID : NodeID) : List LockEvent :=
  locked .nodesMutex (if nodeID ∈ o.nodeRegistry then
      TopologyManager.removeNodeLocks ++ [.invoke c] ++
        (detachNode state callback o nodeID).repairNetworkAfterNodeRemovalLocks connect nodeID
    else [])

/-- `removeNodeGracefully`: the callback is `onNodeRemoved_`. -/
def removeNodeGracefullyLocks (o : Overlay) (nodeID : NodeID) : List LockEvent :=
  removeNodeWithLocks connect .leaving .nodeRemoved .onNodeRemoved o nodeID

/-- `removeNodeForced`: the callback is `onNodeFailed_`. -/
def removeNodeForcedLocks (o : Overlay) (nodeID : NodeID) : List LockEvent :=
  removeNodeWithLocks connect .failed .nodeFailed .onNodeFailed o nodeID

/-- `addNode`: after validation, under `nodesMutex_`, for a new ID, `TopologyManager::addNode`
and, when it succeeds, `onNodeAdded_`. -/
def addNodeLocks (o : Overlay) (nodeID : NodeID) (address : NetworkAddress) : List LockEvent :=
  if !o.validateNodeAddition nodeID address then []
  else locked .nodesMutex (if nodeID ∈ o.nodeRegistry then [] else
    TopologyManager.addNodeLocks ++
      if (o.topology.addNode nodeID address).1 then [.invoke .onNodeAdded] else [])

/-- The calls of the locked loop of `detectFailedNodes` on one record: none on a record that is
not `ACTIVE`; `incrementFailureCount` and `shouldRemoveNode` on a stale one;
`resetFailureCount` on a fresh one.  The loop changes only failure counts, so each record is
visited with the state and `lastSeen` it had before the sweep. -/
def visitLocks (timeoutSeconds : Int) (now : Nat) (info : NodeInfo) : List LockEvent :=
  if info.state ≠ .active then []
  else if timeoutSeconds < (now : Int) - info.lastSeen then
    incrementFailureCountLocks ++ shouldRemoveNodeLocks
  else resetFailureCountLocks

/-- `detectFailedNodes`: the locked loop, then `removeNodeForced` on each marked ID in turn. -/
def detectFailedNodesLocks (o : Overlay) (timeoutSeconds : Int) (now : Nat) : List LockEvent :=
  let r := o.nodeRegistry.keys.foldl (detectStep timeoutSeconds now) (o, [])
  locked .nodesMutex (o.nodeRegistry.entries.flatMap fun e => visitLocks timeoutSeconds now e.2) ++
    (r.2.foldl (fun (acc : Overlay × List LockEvent) nodeID =>
      ((acc.1.removeNodeForced connect nodeID).2, acc.2 ++ acc.1.removeNodeForcedLocks connect nodeID))
      (r.1, [])).2

/-- `ensureConnectivity`: when the roster has room, `getAllNodeIDs` and a `getNodeAddress` for
each ID the loop reaches that is not the local node or a peer, while room remains; then
`isTopologyConnected`. -/
def ensureConnectivityLocks (o : Overlay) : List LockEvent :=
  let allNodes := o.topology.getAllNodeIDs
  (if o.node.getPeerCount < maxPeers then
      TopologyManager.getAllNodeIDsLocks ++ (List.range allNodes.length).flatMap fun i =>
        let o' := o.connectAll o.node.nodeID (allNodes.take i)
        let nodeID := allNodes.getD i 0
        if nodeID = o.node.nodeID ∨ o'.node.hasPeer nodeID ∨ maxPeers ≤ o'.node.getPeerCount then []
        else TopologyManager.getNodeAddressLocks
    else []) ++
  TopologyManager.isTopologyConnectedLocks

/-- `maintainNetworkIntegrity` at second `now`: `validateTopology`, `isTopologyConnected`,
`repairTopology` when not connected, the sweep, `ensureConnectivity`. -/
def maintainNetworkIntegrityLocks (o : Overlay) (now : Nat) : List LockEvent :=
  let t := o.topology.validateTopology
  let o₁ := { o with topology := if t.isTopologyConnected then t else t.repairTopology }
  TopologyManager.validateTopologyLocks ++ TopologyManager.isTopologyConnectedLocks ++
    (if t.isTopologyConnected then [] else t.repairTopologyLocks) ++
    o₁.detectFailedNodesLocks connect nodeTimeoutSec now ++
    (o₁.detectFailedNodes connect nodeTimeoutSec now).ensureConnectivityLocks

theorem visitLocks_of_active (timeoutSeconds : Int) (now : Nat) {info : NodeInfo}
    (h : info.state = .active) :
    ∃ rest, visitLocks timeoutSeconds now info = .acquire .nodesMutex :: rest := by
  unfold visitLocks
  split_ifs <;> simp_all [incrementFailureCountLocks, resetFailureCountLocks, nodesSectionLocks, locked]

theorem visitLocks_of_not_active {timeoutSeconds : Int} {now : Nat} {info : NodeInfo}
    (h : info.state ≠ .active) : visitLocks timeoutSeconds now info = [] := by
  simp [visitLocks, h]

/-- The locked loop blocks at the first `ACTIVE` record. -/
theorem run_flatMap_visitLocks (timeoutSeconds : Int) (now : Nat) {s : LockState}
    (hb : s.blocked = none) (hm : Mutex.nodesMutex ∈ s.held) :
    ∀ (es : List (NodeID × NodeInfo)), (∃ e ∈ es, e.2.state = .active) → ∀ rest : List LockEvent,
      (s.run ((es.flatMap fun e => visitLocks timeoutSeconds now e.2) ++ rest)).blocked =
        some .nodesMutex
  | [], ⟨_, he, _⟩, _ => absurd he (List.not_mem_nil _)
  | e :: es, hex, rest => by
      by_cases ha : e.2.state = .active
      · obtain ⟨tl, htl⟩ := visitLocks_of_active timeoutSeconds now ha
        rw [List.flatMap_cons, htl, List.cons_append, List.cons_append]
        exact LockState.run_acquire_held hb hm _
      · rw [List.flatMap_cons, visitLocks_of_not_active ha, List.nil_append]
        obtain ⟨e', he', ha'⟩ := hex
        exact run_flatMap_visitLocks timeoutSeconds now hb hm es
          ⟨e', (List.mem_cons.1 he').resolve_left (by rintro rfl; exact ha ha'), ha'⟩ rest

/-- **A sweep blocks** on `nodesMutex_` when some record is `ACTIVE`, from any running thread
that does not hold it. -/
theorem run_detectFailedNodesLocks (o : Overlay) (timeoutSeconds : Int) (now : Nat)
    {s : LockState} (hb : s.blocked = none) (hm : Mutex.nodesMutex ∉ s.held)
    (hact : ∃ k info, o.nodeRegistry.find? k = some info ∧ info.state = .active) :
    (s.run (o.detectFailedNodesLocks connect timeoutSeconds now)).blocked = some .nodesMutex := by
  obtain ⟨k, info, hk, ha⟩ := hact
  simp only [detectFailedNodesLocks, locked, List.cons_append, List.append_assoc, LockState.run_cons]
  exact run_flatMap_visitLocks timeoutSeconds now (by simp [LockState.step, hb, hm])
    (by simp [LockState.step, hb, hm]) _ ⟨_, StdMap.mem_entries_of_find? hk, ha⟩ _

end Overlay

/-! ### `ReliableMessaging` and `DataExchange` -/

/-- `acknowledgeMessage`: under `pendingMessagesMutex_`, `onMessageDelivered_` for a pending
message. -/
def ReliableMessaging.acknowledgeMessageLocks (rm : ReliableMessaging) (messageID : UInt64) :
    List LockEvent :=
  locked .pendingMessagesMutex
    (if messageID ∈ rm.pendingMessages then [.invoke .onMessageDelivered] else [])

/-- `markMessageFailed`: under `pendingMessagesMutex_`, `onMessageFailed_` for a pending
message. -/
def ReliableMessaging.markMessageFailedLocks (rm : ReliableMessaging) (messageID : UInt64) :
    List LockEvent :=
  locked .pendingMessagesMutex
    (if messageID ∈ rm.pendingMessages then [.invoke .onMessageFailed] else [])

/-- `markTransferComplete`: under `transfersMutex_`, `onTransferComplete_` for an outgoing
transfer. -/
def DataExchange.markTransferCompleteLocks (d : DataExchange) (transferID : UInt64) :
    List LockEvent :=
  locked .transfersMutex
    (if transferID ∈ d.outgoingTransfers then [.invoke .onTransferComplete] else [])

/-- `updateTransferProgress`: under `transfersMutex_`, `onTransferProgress_` for an outgoing
transfer. -/
def DataExchange.updateTransferProgressLocks (d : DataExchange) (transferID : UInt64) :
    List LockEvent :=
  locked .transfersMutex
    (if transferID ∈ d.outgoingTransfers then [.invoke .onTransferProgress] else [])

/-- A critical section of `m` that runs callback `c` runs it with exactly `m` held. -/
theorem runLocks_locked_invoke (m : Mutex) (c : Callback) :
    (c, [m]) ∈ (runLocks (locked m [.invoke c])).invoked := by
  simp [runLocks, locked, LockState.init, LockState.step]

end P2POverlay
