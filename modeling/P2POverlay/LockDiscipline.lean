/-
**Lock re-entry and callbacks under locks** (`TopologyManager::repairTopology`,
`DynamicNodeManager::detectFailedNodes`, `maintainNetworkIntegrity`, `removeNode*`, `addNode`,
`ReliableMessaging::acknowledgeMessage`, `markMessageFailed`,
`DataExchange::markTransferComplete`, `updateTransferProgress`).

Over the lock traces of `P2POverlay/Locks.lean`:

* `repairTopology` holds `topologyMutex_` and calls `validateTopology`, which locks it again: the
  call blocks from every state;
* `detectFailedNodes` holds `nodesMutex_` and calls `incrementFailureCount` or
  `resetFailureCount`, which lock it again, on the first `ACTIVE` record;
* `maintainNetworkIntegrity` runs one of the two on every state with a disconnected topology or
  an `ACTIVE` record;
* the removals run `onNodeRemoved_`/`onNodeFailed_` under `nodesMutex_`, and block in
  `repairTopology` when the removal disconnects the topology;
* `addNode`, `acknowledgeMessage`, `markMessageFailed`, `markTransferComplete` and
  `updateTransferProgress` run their callbacks under the component's mutex.

Main results:

* `P2POverlay.Overlay.runLocks_removeNodeWithLocks` — what a removal's trace does;
* `P2POverlay.Overlay.runLocks_maintainNetworkIntegrityLocks` — when maintenance blocks;
* `P2POverlay.lockDiscipline_violated` — all of the above.
-/

import P2POverlay.Locks

set_option relaxedAutoImplicit false
set_option autoImplicit false

namespace P2POverlay

namespace Overlay

variable (connect : NetworkAddress → Bool)

/-- A removal of a known node runs its callback with `nodesMutex_` held, and blocks on
`topologyMutex_` when removing the node from the topology disconnects it. -/
theorem runLocks_removeNodeWithLocks (state : NodeState) (callback : NodeID → OverlayEvent)
    (c : Callback) (o : Overlay) (nodeID : NodeID) (h : nodeID ∈ o.nodeRegistry) :
    (c, [Mutex.nodesMutex]) ∈ (runLocks (o.removeNodeWithLocks connect state callback c nodeID)).invoked ∧
      ((o.topology.removeNode nodeID).2.isTopologyConnected = false →
        (runLocks (o.removeNodeWithLocks connect state callback c nodeID)).blocked =
          some .topologyMutex) := by
  -- the thread after `TopologyManager::removeNode` and the callback
  have hrun : runLocks (o.removeNodeWithLocks connect state callback c nodeID) =
      (⟨[.nodesMutex], [(c, [.nodesMutex])], none⟩ : LockState).run
        ((detachNode state callback o nodeID).repairNetworkAfterNodeRemovalLocks connect nodeID ++
          [.release .nodesMutex]) := by
    simp [runLocks, removeNodeWithLocks, h, locked, LockState.init, LockState.step,
      TopologyManager.removeNodeLocks, TopologyManager.sectionLocks]
  rw [hrun]
  refine ⟨LockState.mem_invoked_run (by simp) _, fun hdis => ?_⟩
  simp only [repairNetworkAfterNodeRemovalLocks, detachNode, hdis, Bool.false_eq_true, if_false,
    List.append_assoc]
  rw [LockState.run_append, TopologyManager.isTopologyConnectedLocks, TopologyManager.sectionLocks,
    LockState.run_section rfl (by simp)]
  exact LockState.blocked_run_append (TopologyManager.run_repairTopologyLocks _ rfl (by simp)) _

/-- `maintainNetworkIntegrity` blocks when the validated topology is disconnected (in
`repairTopology`) or when a record is `ACTIVE` (in the sweep). -/
theorem runLocks_maintainNetworkIntegrityLocks (o : Overlay) (now : Nat)
    (h : o.topology.validateTopology.isTopologyConnected = false ∨
      ∃ k info, o.nodeRegistry.find? k = some info ∧ info.state = .active) :
    (runLocks (o.maintainNetworkIntegrityLocks connect now)).blocked ≠ none := by
  have hinit : (LockState.init.run TopologyManager.sectionLocks) = LockState.init :=
    LockState.run_section rfl (List.not_mem_nil _)
  simp only [runLocks, maintainNetworkIntegrityLocks, TopologyManager.validateTopologyLocks,
    TopologyManager.isTopologyConnectedLocks, List.append_assoc]
  rw [LockState.run_append, hinit, LockState.run_append, hinit]
  by_cases hc : o.topology.validateTopology.isTopologyConnected
  · obtain ⟨k, info, hk, ha⟩ := h.resolve_left (by simp [hc])
    rw [if_pos hc, List.nil_append]
    refine ne_of_eq_of_ne (LockState.blocked_run_append
      (run_detectFailedNodesLocks connect _ _ _ rfl (List.not_mem_nil _) ?_) _) (by simp)
    exact ⟨k, info, hk, ha⟩
  · rw [if_neg hc]
    exact ne_of_eq_of_ne (LockState.blocked_run_append
      (TopologyManager.run_repairTopologyLocks _ rfl (List.not_mem_nil _)) _) (by simp)

end Overlay

/-- **The lock discipline fails.**  With each mutex of the four components a held/free flag of
the calling thread: `repairTopology` re-locks `topologyMutex_` from every state;
`detectFailedNodes` re-locks `nodesMutex_` on every state with an `ACTIVE` record;
`maintainNetworkIntegrity` re-locks one of them on every state with a disconnected topology or
an `ACTIVE` record; the removals run their callback under `nodesMutex_`, and re-lock
`topologyMutex_` when the removal disconnects the topology; and `addNode`,
`acknowledgeMessage`, `markMessageFailed`, `markTransferComplete` and
`updateTransferProgress` run their callbacks under their component's mutex. -/
theorem lockDiscipline_violated :
    (∀ t : TopologyManager, (runLocks t.repairTopologyLocks).blocked = some .topologyMutex) ∧
    (∀ (connect : NetworkAddress → Bool) (o : Overlay) (timeoutSeconds : Int) (now : Nat),
      (∃ k info, o.nodeRegistry.find? k = some info ∧ info.state = .active) →
        (runLocks (o.detectFailedNodesLocks connect timeoutSeconds now)).blocked =
          some .nodesMutex) ∧
    (∀ (connect : NetworkAddress → Bool) (o : Overlay) (now : Nat),
      (o.topology.validateTopology.isTopologyConnected = false ∨
        ∃ k info, o.nodeRegistry.find? k = some info ∧ info.state = .active) →
        (runLocks (o.maintainNetworkIntegrityLocks connect now)).blocked ≠ none) ∧
    (∀ (connect : NetworkAddress → Bool) (o : Overlay) (nodeID : NodeID), nodeID ∈ o.nodeRegistry →
      (Callback.onNodeRemoved, [Mutex.nodesMutex]) ∈
          (runLocks (o.removeNodeGracefullyLocks connect nodeID)).invoked ∧
        (Callback.onNodeFailed, [Mutex.nodesMutex]) ∈
          (runLocks (o.removeNodeForcedLocks connect nodeID)).invoked ∧
        ((o.topology.removeNode nodeID).2.isTopologyConnected = false →
          (runLocks (o.removeNodeGracefullyLocks connect nodeID)).blocked = some .topologyMutex ∧
            (runLocks (o.removeNodeForcedLocks connect nodeID)).blocked = some .topologyMutex)) ∧
    (∀ (o : Overlay) (nodeID : NodeID) (address : NetworkAddress),
      o.validateNodeAddition nodeID address = true → nodeID ∉ o.nodeRegistry →
        (o.topology.addNode nodeID address).1 = true →
        (Callback.onNodeAdded, [Mutex.nodesMutex]) ∈ (runLocks (o.addNodeLocks nodeID address)).invoked) ∧
    (∀ (rm : ReliableMessaging) (messageID : UInt64), messageID ∈ rm.pendingMessages →
      (Callback.onMessageDelivered, [Mutex.pendingMessagesMutex]) ∈
          (runLocks (rm.acknowledgeMessageLocks messageID)).invoked ∧
        (Callback.onMessageFailed, [Mutex.pendingMessagesMutex]) ∈
          (runLocks (rm.markMessageFailedLocks messageID)).invoked) ∧
    (∀ (d : DataExchange) (transferID : UInt64), transferID ∈ d.outgoingTransfers →
      (Callback.onTransferComplete, [Mutex.transfersMutex]) ∈
          (runLocks (d.markTransferCompleteLocks transferID)).invoked ∧
        (Callback.onTransferProgress, [Mutex.transfersMutex]) ∈
          (runLocks (d.updateTransferProgressLocks transferID)).invoked) := by
  refine ⟨fun t => TopologyManager.run_repairTopologyLocks t rfl (List.not_mem_nil _),
    fun connect o timeoutSeconds now hact =>
      Overlay.run_detectFailedNodesLocks connect o timeoutSeconds now rfl (List.not_mem_nil _) hact,
    fun connect o now h => Overlay.runLocks_maintainNetworkIntegrityLocks connect o now h,
    fun connect o nodeID h => ?_, fun o nodeID address hv hn hadd => ?_,
    fun rm messageID h => ?_, fun d transferID h => ?_⟩
  · obtain ⟨hg₁, hg₂⟩ := Overlay.runLocks_removeNodeWithLocks connect .leaving .nodeRemoved
      .onNodeRemoved o nodeID h
    obtain ⟨hf₁, hf₂⟩ := Overlay.runLocks_removeNodeWithLocks connect .failed .nodeFailed
      .onNodeFailed o nodeID h
    exact ⟨hg₁, hf₁, fun hdis => ⟨hg₂ hdis, hf₂ hdis⟩⟩
  · simp [Overlay.addNodeLocks, hv, hn, hadd, runLocks, locked, LockState.init, LockState.step,
      TopologyManager.addNodeLocks, TopologyManager.sectionLocks]
  · simpa [ReliableMessaging.acknowledgeMessageLocks, ReliableMessaging.markMessageFailedLocks, h]
      using ⟨runLocks_locked_invoke .pendingMessagesMutex .onMessageDelivered,
        runLocks_locked_invoke .pendingMessagesMutex .onMessageFailed⟩
  · simpa [DataExchange.markTransferCompleteLocks, DataExchange.updateTransferProgressLocks, h]
      using ⟨runLocks_locked_invoke .transfersMutex .onTransferComplete,
        runLocks_locked_invoke .transfersMutex .onTransferProgress⟩

/-- A node that has added peer `2`: `repairTopology` on its topology blocks, and so do the sweep
and `maintainNetworkIntegrity` (the record of `2` is `ACTIVE`); removing `2` runs
`onNodeFailed_` under `nodesMutex_`. -/
theorem lockDiscipline_violated_one_peer :
    let o := ((Overlay.new (Node.new 1 ⟨"a", 1⟩ 0)).addNode 2 ⟨"b", 2⟩ 0).2
    (o.nodeRegistry.find? 2 = some ⟨2, ⟨"b", 2⟩, .active, 0, 0, 0⟩ ∧ (2 : NodeID) ∈ o.nodeRegistry) ∧
      (runLocks o.topology.repairTopologyLocks).blocked = some .topologyMutex ∧
      (runLocks (o.detectFailedNodesLocks (fun _ => true) 90 91)).blocked = some .nodesMutex ∧
      (runLocks (o.maintainNetworkIntegrityLocks (fun _ => true) 91)).blocked ≠ none ∧
      (Callback.onNodeFailed, [Mutex.nodesMutex]) ∈
        (runLocks (o.removeNodeForcedLocks (fun _ => true) 2)).invoked :=
  ⟨⟨by decide, by decide⟩, lockDiscipline_violated.1 _,
    lockDiscipline_violated.2.1 _ _ 90 91 ⟨2, ⟨2, ⟨"b", 2⟩, .active, 0, 0, 0⟩, by decide, rfl⟩,
    lockDiscipline_violated.2.2.1 _ _ 91 (.inr ⟨2, ⟨2, ⟨"b", 2⟩, .active, 0, 0, 0⟩, by decide, rfl⟩),
    (lockDiscipline_violated.2.2.2.1 _ _ 2 (by decide)).2.1⟩

end P2POverlay
