/-
**Duplicate suppression in flooding is not atomic** (`MessageRouter::floodMessage`).

The test `isMessageSeen` and the record `markMessageSeen` are separate critical sections.  When
several calls flood messages with one fingerprint, not yet recorded, and each passes the test
before any of them records it, every one of them records the fingerprint and sends to all peers
but its sender: `k` calls forward `k` times (`floodMessage_concurrent`).

Main results:

* `P2POverlay.floodRun_tests`, `P2POverlay.floodRun_sends` — the two rounds of such a schedule;
* `P2POverlay.MessageRouter.foldl_broadcast` — what a sequence of sends adds;
* `P2POverlay.floodMessage_concurrent`.
-/

import P2POverlay.MessageRouter

set_option relaxedAutoImplicit false
set_option autoImplicit false

namespace P2POverlay

open MessageRouter

theorem floodRun_append (s : FloodSys) (ops ops' : List FloodOp) :
    floodRun s (ops ++ ops') = floodRun (floodRun s ops) ops' :=
  List.foldl_append _ _ _ _

section Rounds

variable (peers : List NodeID) (now : Nat) (answer : NodeID → Bool) (msgs : List Message)

/-- The `i`-th call's step, flooding the `i`-th message. -/
def floodOps (k : Nat) : List FloodOp :=
  (List.range k).map fun i => .flood i (msgs.getD i default) peers now answer

theorem floodOps_succ (k : Nat) :
    floodOps peers now answer msgs (k + 1) =
      floodOps peers now answer msgs k ++ [.flood k (msgs.getD k default) peers now answer] := by
  simp [floodOps, List.range_succ]

/-- First round: `k` idle threads test a fingerprint nobody has recorded, and all pass. -/
theorem floodRun_tests {messageID : UInt64} (hsame : ∀ m ∈ msgs, generateMessageID m = messageID) :
    ∀ (k : Nat) (s : FloodSys), k ≤ msgs.length → messageID ∉ s.router.seenMessages →
      (∀ i < k, s.threads i = .idle) →
      floodRun s (floodOps peers now answer msgs k) =
        ⟨s.router, fun i => if i < k then .passed (msgs.getD i default) else s.threads i⟩
  | 0, s, _, _, _ => by simp [floodOps, floodRun]
  | k + 1, s, hk, hnew, hidle => by
      have hfp : generateMessageID (msgs.getD k default) = messageID := by
        rw [List.getD_eq_getElem _ _ (by omega)]; exact hsame _ (List.getElem_mem _)
      rw [floodOps_succ, floodRun_append,
        floodRun_tests hsame k s (by omega) hnew fun i hi => hidle i (by omega)]
      simp only [floodRun, List.foldl_cons, List.foldl_nil, FloodSys.step, Nat.lt_irrefl,
        if_false, hidle k (by omega), floodStep, isMessageSeen, hfp, hnew, decide_False,
        Bool.false_eq_true, FloodSys.mk.injEq, true_and]
      funext i
      by_cases hik : i = k
      · subst hik; simp
      · simp only [Function.update_noteq hik]
        by_cases hi : i < k
        · simp [hi, show i < k + 1 by omega]
        · simp [hi, show ¬i < k + 1 by omega]

/-- Second round: each thread that passed records the fingerprint and sends. -/
theorem floodRun_sends :
    ∀ (k : Nat) (s : FloodSys), k ≤ msgs.length →
      (∀ i < k, s.threads i = .passed (msgs.getD i default)) →
      floodRun s (floodOps peers now answer msgs k) =
        ⟨(msgs.take k).foldl (fun r m =>
            ((r.markMessageSeen (generateMessageID m) now).broadcast m peers answer).2) s.router,
          fun i => if i < k then .idle else s.threads i⟩
  | 0, s, _, _ => by simp [floodOps, floodRun]
  | k + 1, s, hk, hpassed => by
      rw [floodOps_succ, floodRun_append,
        floodRun_sends k s (by omega) fun i hi => hpassed i (by omega),
        List.take_succ, List.getElem?_eq_getElem (by omega), Option.toList_some, List.foldl_append,
        List.foldl_cons, List.foldl_nil, ← List.getD_eq_getElem _ default (by omega)]
      simp only [floodRun, List.foldl_cons, List.foldl_nil, FloodSys.step, Nat.lt_irrefl,
        if_false, hpassed k (by omega), floodStep, FloodSys.mk.injEq, true_and]
      funext i
      by_cases hik : i = k
      · subst hik; simp
      · simp only [Function.update_noteq hik]
        by_cases hi : i < k
        · simp [hi, show i < k + 1 by omega]
        · simp [hi, show ¬i < k + 1 by omega]

end Rounds

/-- A sequence of records-and-sends: one forward and one send to each peer but the sender, per
message. -/
theorem MessageRouter.foldl_broadcast (peers : List NodeID) (now : Nat) (answer : NodeID → Bool) :
    ∀ (ms : List Message) (r : MessageRouter),
      let r' := ms.foldl (fun r m =>
        ((r.markMessageSeen (generateMessageID m) now).broadcast m peers answer).2) r
      r'.forwardedMessageCount = r.forwardedMessageCount + ms.length ∧
        r'.sends = r.sends ++ ms.flatMap fun m => (peers.filter (· ≠ m.senderID)).map (·, m)
  | [], r => by simp
  | m :: ms, r => by
      obtain ⟨h₁, h₂⟩ := MessageRouter.foldl_broadcast peers now answer ms
        ((r.markMessageSeen (generateMessageID m) now).broadcast m peers answer).2
      dsimp only [List.foldl_cons]
      rw [h₁, h₂]
      simp [broadcast, markMessageSeen, Nat.add_assoc, Nat.add_comm 1]

/-- **Every call passes the test before any records.**  Let `msgs` be messages with one
fingerprint that the router has not recorded, each flooded by its own idle thread.  If every
thread takes its test before any takes its record, all of them forward: the forward count grows
by the number of messages, and every peer but a message's sender receives every message. -/
theorem floodMessage_concurrent (s : FloodSys) (msgs : List Message) (messageID : UInt64)
    (peers : List NodeID) (now : Nat) (answer : NodeID → Bool)
    (hsame : ∀ m ∈ msgs, generateMessageID m = messageID)
    (hnew : messageID ∉ s.router.seenMessages) (hidle : ∀ i < msgs.length, s.threads i = .idle) :
    let ops := floodOps peers now answer msgs msgs.length
    let s' := floodRun s (ops ++ ops)
    s'.router.forwardedMessageCount = s.router.forwardedMessageCount + msgs.length ∧
      s'.router.sends =
        s.router.sends ++ msgs.flatMap fun m => (peers.filter (· ≠ m.senderID)).map (·, m) := by
  intro ops
  rw [floodRun_append, floodRun_tests peers now answer msgs hsame _ s (Nat.le_refl _) hnew hidle,
    floodRun_sends peers now answer msgs _ _ (Nat.le_refl _) fun i hi => by simp [hi], List.take_length]
  exact MessageRouter.foldl_broadcast peers now answer msgs s.router

/-- Two copies of one message flooded by two threads that both test first: each of the two
peers receives it twice. -/
theorem floodMessage_concurrent_two_copies :
    let m : Message := ⟨.dataMessage, 1, 2, [], 3⟩
    (∀ x ∈ [m, m], generateMessageID x = 0) ∧ (0 : UInt64) ∉ FloodSys.init.router.seenMessages ∧
      (∀ i < [m, m].length, FloodSys.init.threads i = .idle) ∧
      let ops := floodOps [7, 8] 10 (fun _ => true) [m, m] [m, m].length
      let s' := floodRun FloodSys.init (ops ++ ops)
      s'.router.forwardedMessageCount = FloodSys.init.router.forwardedMessageCount + [m, m].length ∧
        s'.router.sends = FloodSys.init.router.sends ++
          [m, m].flatMap fun x => ([7, 8].filter (· ≠ x.senderID)).map (·, x) :=
  ⟨by decide, by decide, by decide,
    floodMessage_concurrent FloodSys.init _ 0 [7, 8] 10 (fun _ => true) (by decide) (by decide)
      (by decide)⟩

end P2POverlay
