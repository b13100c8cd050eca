/-
**Heartbeats do not keep a member alive** (`MessageHandler::handleHeartbeat`,
`DynamicNodeManager::detectFailedNodes`).

A sweep judges a record by its `lastSeen`, which only `updateNodeLastSeen` moves, and nothing
calls it.  Processing a message never touches the membership registry
(`Overlay.processMessage_nodeRegistry`): a `HEARTBEAT` from a peer refreshes the local node's own
`lastSeen` and is answered, and that is all.  So once a peer's record is older than the timeout,
each sweep counts one more failure whatever the peer sends, and the third sweep removes it
(`detectFailedNodes_ignores_heartbeats`).

Main definitions:

* `P2POverlay.messagesThenSweep` — messages processed in turn, then a sweep.

Main results:

* `P2POverlay.overlayRun_processMessages` — a run of messages that do not throw leaves the
  registry as it was;
* `P2POverlay.overlayRun_messagesThenSweep` — such a run followed by a sweep raises the failure
  count of a stale `ACTIVE` record, or removes it at the third failure;
* `P2POverlay.detectFailedNodes_ignores_heartbeats` — **a stale `ACTIVE` record survives two
  sweeps and is removed at the third, whatever messages are processed between them**.
-/

import P2POverlay.Membership

set_option relaxedAutoImplicit false
set_option autoImplicit false

namespace P2POverlay

variable (connect : NetworkAddress → Bool)

/-- Messages processed in turn, each at its second, then `detectFailedNodes(timeoutSeconds)`
at second `now`. -/
def messagesThenSweep (ms : List (Message × Nat)) (timeoutSeconds : Int) (now : Nat) : List OverlayOp :=
  ms.map (fun m => .processMessage m.1 m.2) ++ [.detectFailedNodes timeoutSeconds now]

/-- The messages that `processMessage` handles without throwing. -/
def Processable (m : Message × Nat) : Prop :=
  ¬(m.1.type = .peerDiscovery ∧ peerDiscoveryLimit m.1 < 0)

instance instDecidablePredProcessable : DecidablePred Processable := fun m =>
  inferInstanceAs (Decidable ¬(m.1.type = .peerDiscovery ∧ peerDiscoveryLimit m.1 < 0))

/-- Messages that do not throw are all processed, and leave the membership registry as it
was. -/
theorem overlayRun_processMessages :
    ∀ (ms : List (Message × Nat)) (o : Overlay), (∀ m ∈ ms, Processable m) →
      ∃ o', overlayRun connect o (ms.map fun m => .processMessage m.1 m.2) = some o' ∧
        o'.nodeRegistry = o.nodeRegistry
  | [], o, _ => ⟨o, rfl, rfl⟩
  | m :: ms, o, hms => by
      obtain ⟨o₁, h₁⟩ := Option.isSome_iff_exists.1
        ((o.processMessage_isSome m.1 m.2).2 (hms m (List.mem_cons_self _ _)))
      obtain ⟨o', h', hreg⟩ :=
        overlayRun_processMessages ms o₁ fun m hm => hms m (List.mem_cons_of_mem _ hm)
      exact ⟨o', by simpa [overlayRun, Overlay.step, h₁] using h',
        hreg.trans (Overlay.processMessage_nodeRegistry h₁)⟩

/-- **One phase.**  If `P`'s record is `ACTIVE` and more than `timeoutSeconds` old at second
`now`, then after any messages that do not throw and a sweep at `now`, the record has one more
failure, or is gone if that failure is its third. -/
theorem overlayRun_messagesThenSweep (timeoutSeconds : Int) (now : Nat) (P : NodeID)
    (ms : List (Message × Nat)) (o : Overlay) (info : NodeInfo)
    (hP : o.nodeRegistry.find? P = some info) (hactive : info.state = .active)
    (hstale : timeoutSeconds < (now : Int) - info.lastSeen) (hms : ∀ m ∈ ms, Processable m) :
    ∃ o', overlayRun connect o (messagesThenSweep ms timeoutSeconds now) = some o' ∧
      o'.nodeRegistry.find? P = if 3 ≤ info.failureCount + 1 then none
        else some { info with failureCount := info.failureCount + 1 } := by
  obtain ⟨o₁, h₁, hreg⟩ := overlayRun_processMessages connect ms o hms
  refine ⟨o₁.detectFailedNodes connect timeoutSeconds now, ?_, ?_⟩
  · unfold overlayRun at h₁
    simp [messagesThenSweep, overlayRun, List.foldlM_append, h₁, Overlay.step]
  · rw [Overlay.detectFailedNodes_find?, hreg, hP]
    by_cases h3 : 3 ≤ info.failureCount + 1 <;>
      simp [Overlay.marked, Overlay.sweepRecord, hactive, hstale, h3]

/-- **A peer is removed at the third stale sweep, whatever it sends.**  Let `P`'s record be
`ACTIVE` with no failures, and older than `timeoutSeconds` at each of three sweeps.  Between the
sweeps any messages that do not throw are processed, `HEARTBEAT`s from `P` among them, at any
seconds.  Then `P` is still a member after the first two sweeps and is removed by the third. -/
theorem detectFailedNodes_ignores_heartbeats (o : Overlay) (P : NodeID) (info : NodeInfo)
    (timeoutSeconds : Int) (ms₁ ms₂ ms₃ : List (Message × Nat)) (t₁ t₂ t₃ : Nat)
    (hP : o.nodeRegistry.find? P = some info) (hactive : info.state = .active)
    (hfresh : info.failureCount = 0)
    (hstale : ∀ t ∈ [t₁, t₂, t₃], timeoutSeconds < (t : Int) - info.lastSeen)
    (hms : ∀ m ∈ ms₁ ++ ms₂ ++ ms₃, Processable m) :
    ∃ o₁ o₂ o₃,
      overlayRun connect o (messagesThenSweep ms₁ timeoutSeconds t₁) = some o₁ ∧
        P ∈ o₁.nodeRegistry ∧
      overlayRun connect o₁ (messagesThenSweep ms₂ timeoutSeconds t₂) = some o₂ ∧
        P ∈ o₂.nodeRegistry ∧
      overlayRun connect o₂ (messagesThenSweep ms₃ timeoutSeconds t₃) = some o₃ ∧
        P ∉ o₃.nodeRegistry := by
  simp only [List.mem_append, or_imp, forall_and] at hms
  obtain ⟨⟨hms₁, hms₂⟩, hms₃⟩ := hms
  obtain ⟨o₁, h₁, hP₁⟩ := overlayRun_messagesThenSweep connect timeoutSeconds t₁ P ms₁ o info hP
    hactive (hstale t₁ (by simp)) hms₁
  rw [hfresh, if_neg (by simp)] at hP₁
  obtain ⟨o₂, h₂, hP₂⟩ := overlayRun_messagesThenSweep connect timeoutSeconds t₂ P ms₂ o₁ _ hP₁
    hactive (hstale t₂ (by simp)) hms₂
  rw [if_neg (by simp)] at hP₂
  obtain ⟨o₃, h₃, hP₃⟩ := overlayRun_messagesThenSweep connect timeoutSeconds t₃ P ms₃ o₂ _ hP₂
    hactive (hstale t₃ (by simp)) hms₃
  rw [if_pos (by simp)] at hP₃
  exact ⟨o₁, o₂, o₃, h₁, StdMap.mem_of_find? hP₁, h₂, StdMap.mem_of_find? hP₂, h₃,
    StdMap.not_mem_iff_find?.2 hP₃⟩

/-- A peer added at second `0` and heartbeating every `30` seconds, with sweeps of timeout `90`
at seconds `91`, `182` and `273`: its heartbeats are all processed, and the third sweep removes
it. -/
theorem detectFailedNodes_ignores_heartbeats_every_thirty :
    let o := ((Overlay.new (Node.new 1 ⟨"a", 1⟩ 0)).addNode 2 ⟨"b", 2⟩ 0).2
    let info : NodeInfo := ⟨2, ⟨"b", 2⟩, .active, 0, 0, 0⟩
    let beat := fun t : Nat => ((⟨.heartbeat, 2, 1, [], Overlay.timestampAt t⟩ : Message), t)
    let ms₁ := [beat 30, beat 60, beat 90]
    let ms₂ := [beat 120, beat 150, beat 180]
    let ms₃ := [beat 210, beat 240, beat 270]
    (o.nodeRegistry.find? 2 = some info ∧ info.state = .active ∧ info.failureCount = 0 ∧
      (∀ t ∈ [91, 182, 273], (90 : Int) < (t : Int) - info.lastSeen) ∧
      ∀ m ∈ ms₁ ++ ms₂ ++ ms₃, Processable m) ∧
    ∃ o₁ o₂ o₃,
      overlayRun (fun _ => true) o (messagesThenSweep ms₁ 90 91) = some o₁ ∧ 2 ∈ o₁.nodeRegistry ∧
      overlayRun (fun _ => true) o₁ (messagesThenSweep ms₂ 90 182) = some o₂ ∧ 2 ∈ o₂.nodeRegistry ∧
      overlayRun (fun _ => true) o₂ (messagesThenSweep ms₃ 90 273) = some o₃ ∧ 2 ∉ o₃.nodeRegistry :=
  ⟨⟨by decide, rfl, rfl, by decide, by decide⟩,
    detectFailedNodes_ignores_heartbeats (fun _ => true) _ 2 ⟨2, ⟨"b", 2⟩, .active, 0, 0, 0⟩ 90
      _ _ _ 91 182 273 (by decide) rfl rfl (by decide) (by decide)⟩

end P2POverlay
