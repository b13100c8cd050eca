/-
**The lifecycle of a membership record** (`DynamicNodeManager`'s public operations,
`NodeState`).

The spec gives a membership record the lifecycle `JOINING → ACTIVE → {LEAVING, FAILED} → erased`.
`addNode` creates a record `JOINING` and makes it `ACTIVE` before it returns; the removals mark
it `LEAVING` or `FAILED` and erase it in the same call; the sweep of `detectFailedNodes` changes
failure counts only.  So every operation but two moves a record along the lifecycle, over every
run (`P2POverlay.overlayTrace_lifecycle`).  The two are `setNodeState`, which sets the state it is
given, and `handleTopologyChange`, which sets `ACTIVE` or `FAILED`: `handleTopologyChange(x, true)`
makes a `FAILED` record `ACTIVE` again, and `setNodeState(x, JOINING)` makes an `ACTIVE` one
`JOINING`.

Main definitions:

* `P2POverlay.lifecycleStep` — the states a record may be seen in before and after one operation;
* `P2POverlay.Overlay.stateOf`, `P2POverlay.overlayTrace` — the state of a record, and the
  overlays a run passes through;
* `P2POverlay.OverlayOp.keepsLifecycle` — the operations other than the two.

Main results:

* `P2POverlay.Overlay.step_stateOf` — one such operation keeps a record's state, erases the
  record, or creates it `ACTIVE`;
* `P2POverlay.overlayTrace_lifecycle` — **along every run of such operations, every record
  follows the lifecycle**;
* `P2POverlay.lifecycle_failed_reactivated` — but the two setters check nothing:
  `handleTopologyChange` takes a `FAILED` record back to `ACTIVE`, and `setNodeState` an `ACTIVE`
  one back to `JOINING`.
-/

import P2POverlay.Membership

set_option relaxedAutoImplicit false
set_option autoImplicit false

namespace P2POverlay

/-- The lifecycle the spec gives a membership record, as the states it may be seen in before and
after one operation, `none` for no record.  A record is created `JOINING`, or `ACTIVE` through
`JOINING`; it moves on along `JOINING → ACTIVE → {LEAVING, FAILED}`; and it may be erased, which
takes it through `LEAVING` or `FAILED`. -/
def lifecycleStep : Option NodeState → Option NodeState → Bool
  | none, none => true
  | none, some s => s = .joining ∨ s = .active
  | some _, none => true
  | some s, some s' =>
      s = s' ∨ (s = .joining ∧ (s' = .active ∨ s' = .leaving ∨ s' = .failed)) ∨
        (s = .active ∧ (s' = .leaving ∨ s' = .failed))

/-- What an operation that only keeps, erases or creates `ACTIVE` does is a lifecycle step. -/
theorem lifecycleStep_of_keeps {s s' : Option NodeState}
    (h : s' = s ∨ s' = none ∨ (s = none ∧ s' = some .active)) : lifecycleStep s s' = true := by
  rcases h with rfl | rfl | ⟨rfl, rfl⟩
  · cases s' <;> simp [lifecycleStep]
  · cases s <;> rfl
  · rfl

namespace OverlayOp

/-- All operations but `setNodeState` and `handleTopologyChange`, which set the state they are
given. -/
def keepsLifecycle : OverlayOp → Bool
  | .setNodeState .. | .handleTopologyChange .. => false
  | _ => true

end OverlayOp

namespace Overlay

/-- The state of the record of `nodeID`, `none` if there is none. -/
def stateOf (o : Overlay) (nodeID : NodeID) : Option NodeState :=
  (o.nodeRegistry.find? nodeID).map (·.state)

variable (connect : NetworkAddress → Bool)

/-! ### What each operation does to a record's state -/

@[simp] theorem stateOf_setNodeState (o : Overlay) (nodeID : NodeID) (state : NodeState) (k : NodeID) :
    (o.setNodeState nodeID state).stateOf k = if k = nodeID then (o.stateOf nodeID).map fun _ => state
      else o.stateOf k := by
  unfold stateOf setNodeState
  split_ifs with hk
  · subst hk
    simp only [StdMap.find?_modify, if_true]
    cases o.nodeRegistry.find? k <;> rfl
  · simp [hk]

theorem connectAll_nodeRegistry (o : Overlay) (selfID : NodeID) (allNodes : List NodeID) :
    (o.connectAll selfID allNodes).nodeRegistry = o.nodeRegistry := by
  unfold connectAll
  induction allNodes generalizing o with
  | nil => rfl
  | cons x xs ih =>
      rw [List.foldl_cons, ih]
      dsimp only
      split_ifs <;> rfl

theorem ensureConnectivity_nodeRegistry (o : Overlay) :
    o.ensureConnectivity.2.nodeRegistry = o.nodeRegistry := by
  unfold ensureConnectivity
  dsimp only
  split_ifs <;> simp [connectAll_nodeRegistry]

theorem sweepRecord_state (timeoutSeconds : Int) (now : Nat) (info : NodeInfo) :
    (sweepRecord timeoutSeconds now info).state = info.state := by
  unfold sweepRecord
  split_ifs <;> rfl

/-- `addNode` keeps every record, or creates the record of its node `ACTIVE`. -/
theorem addNode_stateOf (o : Overlay) (nodeID : NodeID) (address : NetworkAddress) (now : Nat)
    (k : NodeID) :
    (o.addNode nodeID address now).2.stateOf k = o.stateOf k ∨
      (o.stateOf k = none ∧ (o.addNode nodeID address now).2.stateOf k = some .active) := by
  rcases h : o.addNode nodeID address now with ⟨_ | _, o'⟩
  · have hself := addNode_eq_self_of_fst_eq_false (by rw [h] : (o.addNode nodeID address now).1 = false)
    rw [h] at hself
    exact .inl (congrArg (stateOf · k) hself)
  · obtain ⟨-, hnew, -, -, -, hreg⟩ := addNode_eq_true h
    unfold stateOf
    rw [hreg, StdMap.find?_insert]
    by_cases hk : k = nodeID
    · rw [if_pos hk, hk, StdMap.not_mem_iff_find?.1 hnew]
      exact .inr ⟨rfl, rfl⟩
    · rw [if_neg hk]
      exact .inl rfl

/-- `addNodesFromList` keeps every record, or creates it `ACTIVE`. -/
theorem addNodesFromList_stateOf (o : Overlay) (nodes : List (NodeID × NetworkAddress)) (now : Nat)
    (k : NodeID) :
    (o.addNodesFromList nodes now).2.stateOf k = o.stateOf k ∨
      (o.stateOf k = none ∧ (o.addNodesFromList nodes now).2.stateOf k = some .active) := by
  unfold addNodesFromList
  generalize hr : (([] : List NodeID), o) = r
  obtain rfl : o = r.2 := by rw [← hr]
  clear hr
  induction nodes generalizing r with
  | nil => exact .inl rfl
  | cons e es ih =>
      rw [List.foldl_cons]
      rcases ih _ with h | ⟨h₁, h₂⟩ <;> rcases addNode_stateOf r.2 e.1 e.2 now k with h' | ⟨h₁', h₂'⟩
      · exact .inl (h.trans h')
      · exact .inr ⟨h₁', h.trans h₂'⟩
      · exact .inr ⟨h'.symm.trans h₁, h₂⟩
      · exact absurd (h₂'.symm.trans h₁) (Option.some_ne_none _)

/-- The sweep keeps the state of every record it does not erase. -/
theorem detectFailedNodes_stateOf (o : Overlay) (timeoutSeconds : Int) (now : Nat) (k : NodeID) :
    (o.detectFailedNodes connect timeoutSeconds now).stateOf k = o.stateOf k ∨
      (o.detectFailedNodes connect timeoutSeconds now).stateOf k = none := by
  unfold stateOf
  rw [detectFailedNodes_find?]
  cases o.nodeRegistry.find? k with
  | none => exact .inl rfl
  | some info =>
      by_cases hm : marked timeoutSeconds now info
      · simp [hm]
      · simp [hm, sweepRecord_state]

/-- **One operation other than `setNodeState` and `handleTopologyChange` keeps a record's state,
erases the record, or creates it `ACTIVE`.** -/
theorem step_stateOf {op : OverlayOp} (hop : op.keepsLifecycle = true) {o o' : Overlay}
    (h : o.step connect op = some o') (k : NodeID) :
    o'.stateOf k = o.stateOf k ∨ o'.stateOf k = none ∨ (o.stateOf k = none ∧ o'.stateOf k = some .active) := by
  have hreg : o'.nodeRegistry = o.nodeRegistry → o'.stateOf k = o.stateOf k := fun h' => by
    rw [stateOf, h', stateOf]
  cases op with
  | processMessage message now => exact .inl (hreg (processMessage_nodeRegistry h))
  | addNode nodeID address now =>
      obtain rfl := Option.some.inj h
      exact (addNode_stateOf o nodeID address now k).imp_right .inr
  | addNodeWithValidation nodeID address now =>
      obtain rfl := Option.some.inj h
      unfold addNodeWithValidation
      split_ifs
      · exact .inl rfl
      · exact (addNode_stateOf o nodeID address now k).imp_right .inr
  | addNodesFromList nodes now =>
      obtain rfl := Option.some.inj h
      exact (addNodesFromList_stateOf o nodes now k).imp_right .inr
  | removeNode nodeID graceful =>
      obtain rfl := Option.some.inj h
      unfold stateOf removeNode removeNodeGracefully removeNodeForced
      split_ifs <;> rw [removeNodeWith_find?] <;> split_ifs
      all_goals first | exact .inr (.inl rfl) | exact .inl rfl
  | setNodeState => exact absurd hop Bool.false_ne_true
  | handleTopologyChange => exact absurd hop Bool.false_ne_true
  | detectFailedNodes timeoutSeconds now =>
      obtain rfl := Option.some.inj h
      exact (detectFailedNodes_stateOf connect o timeoutSeconds now k).imp_right .inl
  | recoverFromNodeFailure failedNodeID =>
      obtain rfl := Option.some.inj h
      refine .inl (hreg ?_)
      unfold recoverFromNodeFailure
      dsimp only
      split_ifs
      · rfl
      · exact establishReplacementConnections_nodeRegistry connect _ _
  | maintainNetworkIntegrity now =>
      obtain rfl := Option.some.inj h
      unfold maintainNetworkIntegrity
      rw [stateOf, ensureConnectivity_nodeRegistry, ← stateOf]
      exact (detectFailedNodes_stateOf connect _ _ now k).imp_right .inl
  | repairNetworkAfterNodeRemoval removedNodeID =>
      obtain rfl := Option.some.inj h
      exact .inl (hreg (repairNetworkAfterNodeRemoval_nodeRegistry connect o removedNodeID))
  | ensureConnectivity =>
      obtain rfl := Option.some.inj h
      exact .inl (hreg (ensureConnectivity_nodeRegistry o))

end Overlay

/-! ### Runs -/

/-- The overlays a run of operations passes through, from `o`; it stops at an operation that
throws. -/
def overlayTrace (connect : NetworkAddress → Bool) : Overlay → List OverlayOp → List Overlay
  | o, [] => [o]
  | o, op :: ops => o :: match o.step connect op with
      | none => []
      | some o' => overlayTrace connect o' ops

theorem head?_overlayTrace (connect : NetworkAddress → Bool) (o : Overlay) (ops : List OverlayOp) :
    (overlayTrace connect o ops).head? = some o := by
  cases ops <;> rfl

/-- **Along every run of operations other than `setNodeState` and `handleTopologyChange`, every
record follows the lifecycle**: messages, additions, removals, sweeps, repairs and maintenance, in
any order and from any state, create a record `JOINING` or `ACTIVE`, move it along
`JOINING → ACTIVE → {LEAVING, FAILED}`, or erase it. -/
theorem overlayTrace_lifecycle (connect : NetworkAddress → Bool) (k : NodeID) :
    ∀ (o : Overlay) (ops : List OverlayOp), (∀ op ∈ ops, op.keepsLifecycle = true) →
      ((overlayTrace connect o ops).map (·.stateOf k)).Chain' fun s s' => lifecycleStep s s' = true
  | o, [], _ => List.chain'_singleton _
  | o, op :: ops, hops => by
      rw [overlayTrace, List.map_cons, List.chain'_cons']
      cases h : o.step connect op with
      | none => exact ⟨by simp, List.chain'_nil⟩
      | some o' =>
          refine ⟨fun s hs => ?_, overlayTrace_lifecycle connect k o' ops
            fun op' h' => hops op' (List.mem_cons_of_mem _ h')⟩
          rw [List.head?_map, head?_overlayTrace, Option.map_some', Option.mem_some_iff] at hs
          rw [← hs]
          exact lifecycleStep_of_keeps
            (Overlay.step_stateOf connect (hops op (List.mem_cons_self _ _)) h k)

/-- Node `1` adds `2` and `3`, removes `2` gracefully and runs its maintenance. -/
theorem overlayTrace_lifecycle_add_remove :
    let ops : List OverlayOp := [.addNode 2 ⟨"b", 2⟩ 0, .addNode 3 ⟨"c", 3⟩ 0, .removeNode 2 true,
      .maintainNetworkIntegrity 100]
    (∀ op ∈ ops, op.keepsLifecycle = true) ∧
      ((overlayTrace (fun _ => true) (Overlay.new ⟨1, ⟨"a", 1⟩, [], [], 0⟩) ops).map
        (·.stateOf 2)).Chain' fun s s' => lifecycleStep s s' = true :=
  ⟨by decide, overlayTrace_lifecycle _ 2 _ _ (by decide)⟩

/-- **A `FAILED` record becomes `ACTIVE` again, and an `ACTIVE` one `JOINING`.**  The two setters
check nothing.  From every state in which a node has a record, `handleTopologyChange(x, false)`
then `handleTopologyChange(x, true)` takes it to `FAILED` and back to `ACTIVE`, also right after
`addNode(x)`; and `setNodeState(x, JOINING)` takes an `ACTIVE` record back to `JOINING`.  Neither
is a step of the lifecycle. -/
theorem lifecycle_failed_reactivated :
    (∀ (connect : NetworkAddress → Bool) (o : Overlay) (x : NodeID), x ∈ o.nodeRegistry →
      (overlayTrace connect o [.handleTopologyChange x false, .handleTopologyChange x true]).map
        (·.stateOf x) = [o.stateOf x, some .failed, some .active]) ∧
    (∀ (connect : NetworkAddress → Bool) (o : Overlay) (x : NodeID) (address : NetworkAddress)
      (now : Nat), (o.addNode x address now).1 = true →
      (overlayTrace connect o [.addNode x address now, .handleTopologyChange x false,
        .handleTopologyChange x true]).map (·.stateOf x) =
        [none, some .active, some .failed, some .active]) ∧
    (∀ (connect : NetworkAddress → Bool) (o : Overlay) (x : NodeID), o.stateOf x = some .active →
      (overlayTrace connect o [.setNodeState x .joining]).map (·.stateOf x) =
        [some .active, some .joining]) ∧
    lifecycleStep (some .failed) (some .active) = false ∧
    lifecycleStep (some .active) (some .joining) = false := by
  have htwice : ∀ (connect : NetworkAddress → Bool) (o : Overlay) (x : NodeID), x ∈ o.nodeRegistry →
      (overlayTrace connect o [.handleTopologyChange x false, .handleTopologyChange x true]).map
        (·.stateOf x) = [o.stateOf x, some .failed, some .active] := by
    intro connect o x hx
    obtain ⟨info, hinfo⟩ := Option.isSome_iff_exists.1 (StdMap.mem_iff_find?.1 hx)
    have hs : o.stateOf x = some info.state := by simp [Overlay.stateOf, hinfo]
    simp [overlayTrace, Overlay.step, Overlay.handleTopologyChange, hs]
  refine ⟨htwice, fun connect o x address now hadd => ?_, fun connect o x hx => ?_, rfl, rfl⟩
  · obtain ⟨-, hnew, -, -, -, hreg⟩ := Overlay.addNode_eq_true (Prod.ext hadd rfl)
    have hx : x ∈ (o.addNode x address now).2.nodeRegistry := by simp [hreg]
    rw [overlayTrace, Overlay.step, List.map_cons, htwice connect _ x hx]
    simp [Overlay.stateOf, hreg, StdMap.not_mem_iff_find?.1 hnew]
  · simp [overlayTrace, Overlay.step, hx]

/-- Node `1`, with no records, adds `2`; `handleTopologyChange(2, false)` and
`handleTopologyChange(2, true)` then take the record of `2` from `ACTIVE` to `FAILED` and back to
`ACTIVE`, which is no step of the lifecycle. -/
theorem lifecycle_failed_reactivated_node_two :
    (overlayTrace (fun _ => true) (Overlay.new ⟨1, ⟨"a", 1⟩, [], [], 0⟩)
      [.addNode 2 ⟨"b", 2⟩ 0, .handleTopologyChange 2 false, .handleTopologyChange 2 true]).map
        (·.stateOf 2) = [none, some .active, some .failed, some .active] ∧
      lifecycleStep (some .failed) (some .active) = false :=
  ⟨by decide, rfl⟩

end P2POverlay
