/-
**The local node and its peer roster** (`Node.h`, `Node::addPeer`, `Node::removePeer`).

The roster is two parallel vectors, `peerIDs_` and `peerAddresses_`, changed only by `addPeer`
and `removePeer`, each of which holds `peersMutex_` for its whole body; an interleaving of calls
is therefore a sequence of calls.  The spec describes the roster as one insertion-ordered list
of `(ID, address)` pairs (`P2POverlay.PeerRoster`); the code refines it.

Every present peer was inserted by the last successful `addPeer` of its ID (an ID cannot be
added twice while present), so the roster is determined by the log of successful additions:
it is the subsequence of that log made of the last addition of each present ID
(`P2POverlay.lastAdds`).  That single equation says at once that the two vectors are aligned,
that each address is the one passed with its ID, and that the present peers keep their
insertion order.

Main definitions:

* `P2POverlay.Node`, `P2POverlay.Node.addPeer`, `P2POverlay.Node.removePeer`;
* `P2POverlay.PeerRoster` — the spec's list of pairs, with `add` and `remove`;
* `P2POverlay.lastAdds` — the last addition of each kept ID, in call order;
* `P2POverlay.RosterOp`, `P2POverlay.rosterRun` — a sequence of calls and the successful
  additions it makes.

Main results:

* `P2POverlay.Node.addPeer_represents`, `P2POverlay.Node.removePeer_represents` — the two
  vectors refine the list of pairs, call by call;
* `P2POverlay.RosterInv.add`, `P2POverlay.RosterInv.remove` — the list of pairs keeps its
  invariant;
* `P2POverlay.rosterRun_invariant` — **the roster invariant over every sequence of calls**.
-/

import P2POverlay.Common

set_option relaxedAutoImplicit false
set_option autoImplicit false

namespace P2POverlay

/-! ### The node -/

/-- `Node`: the fields read by the modelled code.  `lastSeen` is the node's own liveness
timestamp, in seconds of the virtual clock. -/
structure Node where
  nodeID : NodeID
  address : NetworkAddress
  peerIDs : List NodeID
  peerAddresses : List NetworkAddress
  lastSeen : Nat

namespace Node

/-- `Node(id, address)` at time `now`: no peers. -/
def new (id : NodeID) (address : NetworkAddress) (now : Nat) : Node := ⟨id, address, [], [], now⟩

/-- `addPeer`: refuses a present ID and a full roster, otherwise appends to both vectors. -/
def addPeer (n : Node) (peerID : NodeID) (peerAddress : NetworkAddress) : Bool × Node :=
  if peerID ∈ n.peerIDs then (false, n)
  else if maxPeers ≤ n.peerIDs.length then (false, n)
  else (true, { n with peerIDs := n.peerIDs ++ [peerID],
                       peerAddresses := n.peerAddresses ++ [peerAddress] })

/-- `removePeer`: erases the first occurrence of the ID and the address at the same index. -/
def removePeer (n : Node) (peerID : NodeID) : Bool × Node :=
  let index := n.peerIDs.indexOf peerID
  if index = n.peerIDs.length then (false, n)
  else (true, { n with peerIDs := n.peerIDs.eraseIdx index,
                       peerAddresses := n.peerAddresses.eraseIdx index })

/-- `hasPeer`. -/
def hasPeer (n : Node) (peerID : NodeID) : Bool := peerID ∈ n.peerIDs

/-- `getPeerCount`. -/
def getPeerCount (n : Node) : Nat := n.peerIDs.length

/-- `updateLastSeen` at time `now`. -/
def updateLastSeen (n : Node) (now : Nat) : Node := { n with lastSeen := now }

@[simp] theorem addPeer_nodeID (n : Node) (i : NodeID) (a : NetworkAddress) :
    (n.addPeer i a).2.nodeID = n.nodeID := by
  unfold addPeer; split_ifs <;> rfl

@[simp] theorem removePeer_nodeID (n : Node) (i : NodeID) : (n.removePeer i).2.nodeID = n.nodeID := by
  simp only [removePeer]; split_ifs <;> rfl

theorem mem_addPeer {n : Node} {p q : NodeID} (a : NetworkAddress) (h : q ∈ n.peerIDs) :
    q ∈ (n.addPeer p a).2.peerIDs := by
  unfold addPeer
  split_ifs <;> simp [h]

theorem mem_addPeer_self {n : Node} {p : NodeID} (a : NetworkAddress) (hp : p ∉ n.peerIDs)
    (hroom : n.peerIDs.length < maxPeers) : p ∈ (n.addPeer p a).2.peerIDs := by
  unfold addPeer
  rw [if_neg hp, if_neg (not_le.2 hroom)]
  simp

/-- With room in the roster, a peer is present after it is added, whether it was before or not. -/
theorem hasPeer_addPeer {n : Node} {p : NodeID} (a : NetworkAddress) (hroom : n.getPeerCount < maxPeers) :
    (n.addPeer p a).2.hasPeer p = true := by
  by_cases hp : p ∈ n.peerIDs
  · exact decide_eq_true (mem_addPeer a hp)
  · exact decide_eq_true (mem_addPeer_self a hp hroom)

theorem length_addPeer_le (n : Node) (p : NodeID) (a : NetworkAddress) :
    (n.addPeer p a).2.peerIDs.length ≤ n.peerIDs.length + 1 := by
  unfold addPeer
  split_ifs <;> simp

theorem length_removePeer_le (n : Node) (p : NodeID) :
    (n.removePeer p).2.peerIDs.length ≤ n.peerIDs.length := by
  unfold removePeer
  dsimp only
  split_ifs
  · exact le_rfl
  · exact List.length_eraseIdx_le _ _

end Node

/-! ### The roster as a list of pairs -/

/-- The roster as the spec describes it: one insertion-ordered list of `(ID, address)` pairs. -/
abbrev PeerRoster := List (NodeID × NetworkAddress)

namespace PeerRoster

/-- Adding a peer: refused if present or full, else appended. -/
def add (r : PeerRoster) (peerID : NodeID) (peerAddress : NetworkAddress) : Bool × PeerRoster :=
  if peerID ∈ r.map Prod.fst ∨ maxPeers ≤ r.length then (false, r)
  else (true, r ++ [(peerID, peerAddress)])

/-- Removing a peer: its pair goes, the rest keep their order. -/
def remove (r : PeerRoster) (peerID : NodeID) : Bool × PeerRoster :=
  if peerID ∈ r.map Prod.fst then (true, r.filter (·.1 ≠ peerID)) else (false, r)

end PeerRoster

/-- The node's two vectors are the two projections of the list of pairs. -/
structure Node.Represents (n : Node) (r : PeerRoster) : Prop where
  ids : n.peerIDs = r.map Prod.fst
  addrs : n.peerAddresses = r.map Prod.snd

theorem map_eraseIdx {α β : Type} (f : α → β) (l : List α) (i : Nat) :
    (l.eraseIdx i).map f = (l.map f).eraseIdx i := by
  simp [List.eraseIdx_eq_take_drop_succ, List.map_take, List.map_drop]

/-- On a list of pairs with distinct first components, erasing at the index of `k` is
filtering `k` out. -/
theorem eraseIdx_indexOf_eq_filter {r : PeerRoster} (hr : (r.map Prod.fst).Nodup) (k : NodeID) :
    r.eraseIdx ((r.map Prod.fst).indexOf k) = r.filter (·.1 ≠ k) := by
  induction r with
  | nil => rfl
  | cons e r ih =>
      rw [List.map_cons, List.nodup_cons] at hr
      by_cases he : e.1 = k
      · have hk : ∀ e' ∈ r, e'.1 ≠ k := fun e' he' h =>
          hr.1 (he ▸ h ▸ List.mem_map_of_mem Prod.fst he')
        rw [List.map_cons, List.indexOf_cons_eq _ he, List.eraseIdx_cons_zero,
          List.filter_cons_of_neg (by simpa using he), List.filter_eq_self.2 (by simpa using hk)]
      · rw [List.map_cons, List.indexOf_cons_ne _ he, Nat.succ_eq_add_one, List.eraseIdx_cons_succ,
          List.filter_cons_of_pos (by simpa using he), ih hr.2]

namespace Node

variable {n : Node} {r : PeerRoster}

theorem addPeer_represents (h : n.Represents r) (i : NodeID) (a : NetworkAddress) :
    (n.addPeer i a).1 = (r.add i a).1 ∧ (n.addPeer i a).2.Represents (r.add i a).2 := by
  have hlen : n.peerIDs.length = r.length := by simp [h.ids]
  unfold addPeer PeerRoster.add
  by_cases hi : i ∈ n.peerIDs
  · rw [if_pos hi, if_pos (Or.inl (h.ids ▸ hi))]
    exact ⟨rfl, h⟩
  · by_cases hm : maxPeers ≤ n.peerIDs.length
    · rw [if_neg hi, if_pos hm, if_pos (Or.inr (hlen ▸ hm))]
      exact ⟨rfl, h⟩
    · have hr : ¬(i ∈ r.map Prod.fst ∨ maxPeers ≤ r.length) := by
        rw [← h.ids, ← hlen]; exact not_or.2 ⟨hi, hm⟩
      rw [if_neg hi, if_neg hm, if_neg hr]
      exact ⟨rfl, ⟨by simp [h.ids], by simp [h.addrs]⟩⟩

theorem removePeer_represents (h : n.Represents r) (hr : (r.map Prod.fst).Nodup) (i : NodeID) :
    (n.removePeer i).1 = (r.remove i).1 ∧ (n.removePeer i).2.Represents (r.remove i).2 := by
  unfold removePeer PeerRoster.remove
  by_cases hi : i ∈ r.map Prod.fst
  · have hidx : n.peerIDs.indexOf i ≠ n.peerIDs.length := by
      rw [Ne, List.indexOf_eq_length, not_not, h.ids]; exact hi
    simp only [if_neg hidx, if_pos hi, true_and]
    constructor
    · simp only [h.ids, ← map_eraseIdx, eraseIdx_indexOf_eq_filter hr]
    · simp only [h.addrs, h.ids, ← map_eraseIdx, eraseIdx_indexOf_eq_filter hr]
  · have hidx : n.peerIDs.indexOf i = n.peerIDs.length := by
      rw [List.indexOf_eq_length, h.ids]; exact hi
    simp only [if_pos hidx, if_neg hi, true_and]
    exact h

end Node

/-! ### The log of successful additions -/

/-- The entries of `log` that are the last entry of their ID and whose ID is kept, in the order
of `log`. -/
def lastAdds : List (NodeID × NetworkAddress) → (NodeID → Bool) → List (NodeID × NetworkAddress)
  | [], _ => []
  | e :: es, keep =>
      if keep e.1 ∧ e.1 ∉ es.map Prod.fst then e :: lastAdds es keep else lastAdds es keep

/-- Appending an addition of `e.1` makes every earlier addition of `e.1` stale. -/
theorem lastAdds_append_single (l : List (NodeID × NetworkAddress)) (e : NodeID × NetworkAddress)
    (keep : NodeID → Bool) :
    lastAdds (l ++ [e]) keep =
      lastAdds l (fun x => keep x && decide (x ≠ e.1)) ++ (if keep e.1 then [e] else []) := by
  induction l with
  | nil => by_cases h : keep e.1 <;> simp [lastAdds, h]
  | cons e' l ih =>
      by_cases h : e'.1 = e.1
      · simp [lastAdds, h, ih]
      · by_cases hk : keep e'.1 <;> by_cases hm : e'.1 ∈ l.map Prod.fst <;>
          simp [lastAdds, h, hk, hm, ih]

/-- Narrowing the kept IDs filters the result. -/
theorem lastAdds_and (l : List (NodeID × NetworkAddress)) (keep q : NodeID → Bool) :
    lastAdds l (fun x => keep x && q x) = (lastAdds l keep).filter (fun e => q e.1) := by
  induction l with
  | nil => rfl
  | cons e l ih =>
      by_cases hk : keep e.1 <;> by_cases hq : q e.1 <;> by_cases hm : e.1 ∈ l.map Prod.fst <;>
        simp [lastAdds, hk, hq, hm, ih]

/-! ### The invariant of the list of pairs -/

/-- The roster invariant, over the log of successful additions. -/
structure RosterInv (r : PeerRoster) (log : List (NodeID × NetworkAddress)) : Prop where
  nodup : (r.map Prod.fst).Nodup
  bound : r.length ≤ maxPeers
  latest : r = lastAdds log (fun x => x ∈ r.map Prod.fst)

theorem RosterInv.nil : RosterInv [] [] := ⟨List.nodup_nil, Nat.zero_le _, rfl⟩

theorem RosterInv.add {r : PeerRoster} {log : List (NodeID × NetworkAddress)} (h : RosterInv r log)
    (i : NodeID) (a : NetworkAddress) :
    RosterInv (r.add i a).2 (if (r.add i a).1 then log ++ [(i, a)] else log) := by
  by_cases hr : i ∈ r.map Prod.fst ∨ maxPeers ≤ r.length
  · simp only [PeerRoster.add, if_pos hr]; simpa using h
  · simp only [PeerRoster.add, if_neg hr, if_true]
    rw [not_or] at hr
    have hkeep : (fun x => decide (x ∈ (r ++ [(i, a)]).map Prod.fst) && decide (x ≠ i)) =
        fun x => decide (x ∈ r.map Prod.fst) := funext fun x => by
      rw [← Bool.decide_and, decide_eq_decide, List.map_append, List.mem_append]
      exact ⟨fun ⟨hx, hne⟩ => hx.resolve_right (by simpa using hne),
        fun hx => ⟨.inl hx, by rintro rfl; exact hr.1 hx⟩⟩
    refine ⟨?_, ?_, ?_⟩
    · rw [List.map_append]
      exact h.nodup.append (List.nodup_singleton _) (List.disjoint_singleton.2 hr.1)
    · simp only [List.length_append, List.length_singleton]; omega
    · rw [lastAdds_append_single, hkeep, ← h.latest]; simp

theorem RosterInv.remove {r : PeerRoster} {log : List (NodeID × NetworkAddress)}
    (h : RosterInv r log) (i : NodeID) : RosterInv (r.remove i).2 log := by
  by_cases hi : i ∈ r.map Prod.fst
  · simp only [PeerRoster.remove, if_pos hi]
    have hkeep : (fun x => decide (x ∈ (r.filter (·.1 ≠ i)).map Prod.fst)) =
        fun x => decide (x ∈ r.map Prod.fst) && decide (x ≠ i) := funext fun x => by
      rw [← Bool.decide_and, decide_eq_decide]
      simp only [List.mem_map, List.mem_filter, decide_eq_true_eq]
      constructor
      · rintro ⟨e, ⟨he, hne⟩, rfl⟩; exact ⟨⟨e, he, rfl⟩, hne⟩
      · rintro ⟨⟨e, he, rfl⟩, hne⟩; exact ⟨e, ⟨he, hne⟩, rfl⟩
    refine ⟨h.nodup.sublist ((List.filter_sublist _).map _), ?_, ?_⟩
    · exact (List.length_filter_le _ _).trans h.bound
    · rw [hkeep, lastAdds_and, ← h.latest]
  · simp only [PeerRoster.remove, if_neg hi]; exact h

/-! ### Runs of `addPeer` and `removePeer` -/

/-- A call on the roster. -/
inductive RosterOp where
  | addPeer (peerID : NodeID) (peerAddress : NetworkAddress)
  | removePeer (peerID : NodeID)

/-- One call, with the log of successful additions extended when an `addPeer` succeeds. -/
def rosterStep (s : Node × List (NodeID × NetworkAddress)) :
    RosterOp → Node × List (NodeID × NetworkAddress)
  | .addPeer i a =>
      ((s.1.addPeer i a).2, if (s.1.addPeer i a).1 then s.2 ++ [(i, a)] else s.2)
  | .removePeer i => ((s.1.removePeer i).2, s.2)

/-- The node after a sequence of calls, and the successful additions made on the way. -/
def rosterRun (n : Node) (ops : List RosterOp) : Node × List (NodeID × NetworkAddress) :=
  ops.foldl rosterStep (n, [])

theorem rosterStep_preserves {s : Node × List (NodeID × NetworkAddress)}
    (h : ∃ r, s.1.Represents r ∧ RosterInv r s.2) (op : RosterOp) :
    ∃ r, (rosterStep s op).1.Represents r ∧ RosterInv r (rosterStep s op).2 := by
  obtain ⟨r, hrep, hinv⟩ := h
  cases op with
  | addPeer i a =>
      obtain ⟨hok, hrep'⟩ := Node.addPeer_represents hrep i a
      exact ⟨_, hrep', by simpa only [rosterStep, hok] using hinv.add i a⟩
  | removePeer i =>
      exact ⟨_, (Node.removePeer_represents hrep hinv.nodup i).2, hinv.remove i⟩

/-- **The roster invariant.**  After every sequence of `addPeer` and `removePeer` calls on a
new node, the IDs are distinct and at most `MAX_PEERS`, the two vectors have one length, and
the pairs they form are exactly the last successful addition of each present ID, in the order
of the calls: each address is the one passed with its ID, and the peers keep their insertion
order. -/
theorem rosterRun_invariant (id : NodeID) (address : NetworkAddress) (now : Nat)
    (ops : List RosterOp) :
    let s := rosterRun (Node.new id address now) ops
    s.1.peerIDs.Nodup ∧ s.1.peerIDs.length ≤ maxPeers ∧
      s.1.peerAddresses.length = s.1.peerIDs.length ∧
      s.1.peerIDs.zip s.1.peerAddresses = lastAdds s.2 (fun x => x ∈ s.1.peerIDs) := by
  have hrun : ∀ (ops : List RosterOp) s, (∃ r, s.1.Represents r ∧ RosterInv r s.2) →
      ∃ r, (ops.foldl rosterStep s).1.Represents r ∧ RosterInv r (ops.foldl rosterStep s).2 := by
    intro ops
    induction ops with
    | nil => exact fun _ h => h
    | cons op ops ih => exact fun s h => ih _ (rosterStep_preserves h op)
  obtain ⟨r, hrep, hinv⟩ := hrun ops (Node.new id address now, []) ⟨[], ⟨rfl, rfl⟩, RosterInv.nil⟩
  have hzip : (r.map Prod.fst).zip (r.map Prod.snd) = r := by
    simpa only [List.unzip_eq_map] using List.zip_unzip r
  simp only [rosterRun, hrep.ids, hrep.addrs, List.length_map, hzip, true_and]
  exact ⟨hinv.nodup, hinv.bound, hinv.latest⟩

end P2POverlay
