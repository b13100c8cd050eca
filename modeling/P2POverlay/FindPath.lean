/-
**Breadth-first path finding** (`TopologyManager::findPath`).

`findPath(from, to)` answers `[from]` when the two are equal; otherwise it runs a breadth-first
search from `from` over `adjacencyList_`, recording each node's parent when it is first
visited, and on popping `to` walks the parents back to `from`.  The search is right: it returns
`[]` exactly when `to` is out of reach, and otherwise a walk from `from` to `to` along edges,
without a repeated node, as short as any such walk.  Both loops end within the fuel the model
gives them, which bounds the number of nodes a search can visit.

The proof follows the textbook argument.  A level function, a proof device that is the
distance from `from` on the visited nodes, is carried by the invariant `BfsInv`: the parent of
a visited node is one level below it and has it as a neighbour; the queue is sorted by level and
spans at most two levels; every node nearer than the head of the queue is visited and popped;
and a popped node has all its neighbours visited.

Main definitions:

* `P2POverlay.TopologyManager.Reaches`, `P2POverlay.TopologyManager.ReachesIn`,
  `P2POverlay.TopologyManager.IsWalk` — reachability, reachability in `n` edges, and walks;
* `P2POverlay.TopologyManager.visitNeighbor`, `P2POverlay.TopologyManager.reconstructPath`,
  `P2POverlay.TopologyManager.bfsLoop` — the inner loop, the path reconstruction and the search;
* `P2POverlay.TopologyManager.findPath`;
* `P2POverlay.TopologyManager.BfsInv` — the invariant of the search.

Main results:

* `P2POverlay.TopologyManager.BfsInv.step` — a round of the search keeps the invariant;
* `P2POverlay.TopologyManager.reconstructPath_spec` — the reconstruction returns a shortest walk;
* `P2POverlay.TopologyManager.bfsLoop_spec` — the search ends and answers right;
* `P2POverlay.findPath_shortest` — **`findPath` returns a shortest path exactly when there is
  one, and terminates**.
-/

import P2POverlay.Topology

set_option relaxedAutoImplicit false
set_option autoImplicit false

namespace P2POverlay

namespace TopologyManager

/-! ### Walks -/

/-- `b` is reached from `a` along `adjacencyList_` edges. -/
def Reaches (t : TopologyManager) : NodeID → NodeID → Prop :=
  Relation.ReflTransGen fun a b => b ∈ t.neighbours a

/-- `b` is reached from `a` along exactly `n` edges. -/
inductive ReachesIn (t : TopologyManager) (a : NodeID) : NodeID → Nat → Prop
  | refl : ReachesIn t a a 0
  | tail {b c : NodeID} {n : Nat} : ReachesIn t a b n → c ∈ t.neighbours b → ReachesIn t a c (n + 1)

/-- Each node of `p` after the first is a neighbour of the one before it. -/
def IsWalk (t : TopologyManager) (p : List NodeID) : Prop :=
  p.Chain' fun a b => b ∈ t.neighbours a

variable {t : TopologyManager}

theorem ReachesIn.head {a b c : NodeID} {n : Nat} (hab : b ∈ t.neighbours a)
    (h : t.ReachesIn b c n) : t.ReachesIn a c (n + 1) := by
  induction h with
  | refl => exact .tail .refl hab
  | tail _ hc ih => exact .tail ih hc

theorem reaches_iff_exists_reachesIn {a b : NodeID} : t.Reaches a b ↔ ∃ n, t.ReachesIn a b n := by
  constructor
  · intro h
    induction h with
    | refl => exact ⟨0, .refl⟩
    | tail _ hbc ih =>
        obtain ⟨n, hn⟩ := ih
        exact ⟨n + 1, .tail hn hbc⟩
  · rintro ⟨n, h⟩
    induction h with
    | refl => exact .refl
    | tail _ hc ih => exact .tail ih hc

/-- A walk of `k` nodes from `a` to `b` reaches `b` from `a` in `k - 1` edges. -/
theorem IsWalk.reachesIn : ∀ {p : List NodeID} {a b : NodeID}, t.IsWalk p → p.head? = some a →
    p.getLast? = some b → t.ReachesIn a b (p.length - 1)
  | [x], a, b, _, ha, hb => by
      obtain rfl : x = a := Option.some_inj.1 ha
      obtain rfl : x = b := Option.some_inj.1 hb
      exact .refl
  | x :: y :: p, a, b, hw, ha, hb => by
      obtain rfl : x = a := Option.some_inj.1 ha
      rw [List.getLast?_cons_cons] at hb
      exact .head (List.chain'_cons.1 hw).1 (IsWalk.reachesIn (List.chain'_cons.1 hw).2 rfl hb)

/-! ### The search -/

/-- The state of the loop of `findPath`: `queue`, `parent` and `visited`. -/
structure BfsState where
  queue : List NodeID
  parent : StdMap NodeID NodeID
  visited : StdSet NodeID

/-- The loop starts with `from_` queued, visited, and its own parent. -/
def BfsState.init (from_ : NodeID) : BfsState :=
  ⟨[from_], StdMap.empty.insert from_ from_, StdSet.empty.insert from_⟩

/-- One pass of the loop over the neighbours of `current`: an unvisited `neighbor` is visited,
gets `current` as its parent, and is queued. -/
def visitNeighbor (current : NodeID) (s : BfsState) (neighbor : NodeID) : BfsState :=
  if neighbor ∈ s.visited then s
  else ⟨s.queue ++ [neighbor], s.parent.insert neighbor current, s.visited.insert neighbor⟩

/-- The reconstruction loop: push `node` and step to its parent until `from_` is reached, then
push `from_` and reverse; `fuel` bounds the steps.  `parent[node]` of a missing key is `0`. -/
def reconstructPath (parent : StdMap NodeID NodeID) (from_ : NodeID) :
    Nat → NodeID → List NodeID → Option (List NodeID)
  | 0, _, _ => none
  | fuel + 1, node, path =>
      if node ≠ from_ then reconstructPath parent from_ fuel (parent.findD node 0) (path ++ [node])
      else some (path ++ [from_]).reverse

/-- The loop of `findPath`: pop `current`; on `to_` reconstruct the path, otherwise visit its
neighbours in increasing order.  `fuel` bounds the reconstruction and `n` the rounds; `none`
when either runs out. -/
def bfsLoop (t : TopologyManager) (from_ to_ : NodeID) (fuel : Nat) :
    Nat → BfsState → Option (List NodeID)
  | 0, _ => none
  | n + 1, s =>
      match s.queue with
      | [] => some []
      | current :: rest =>
          if current = to_ then reconstructPath s.parent from_ fuel to_ []
          else t.bfsLoop from_ to_ fuel n
            ((t.neighbours current).elems.foldl (visitNeighbor current) { s with queue := rest })

/-- The search from `from_` to a different `to_`, with `dfsFuel + 1` for each loop. -/
def findPathSearch (t : TopologyManager) (from_ to_ : NodeID) : Option (List NodeID) :=
  t.bfsLoop from_ to_ (t.dfsFuel + 1) (t.dfsFuel + 1) (BfsState.init from_)

/-- `findPath(from, to)`. -/
def findPath (t : TopologyManager) (from_ to_ : NodeID) : List NodeID :=
  if from_ = to_ then [from_] else (t.findPathSearch from_ to_).getD []

/-- The loop over the neighbours `ns` of `current`: the unvisited ones are queued in order,
visited, and get `current` as their parent. -/
theorem foldl_visitNeighbor (current : NodeID) :
    ∀ (ns : List NodeID) (s : BfsState), ns.Nodup →
      (ns.foldl (visitNeighbor current) s).queue = s.queue ++ ns.filter (· ∉ s.visited) ∧
      (∀ x, x ∈ (ns.foldl (visitNeighbor current) s).visited ↔ x ∈ s.visited ∨ x ∈ ns) ∧
      (∀ x ∈ s.visited, (ns.foldl (visitNeighbor current) s).parent.find? x = s.parent.find? x) ∧
      (∀ x ∉ s.visited, x ∈ ns → (ns.foldl (visitNeighbor current) s).parent.find? x = some current) ∧
      (ns.foldl (visitNeighbor current) s).visited.size =
        s.visited.size + (ns.filter (· ∉ s.visited)).length
  | [], s, _ => by simp
  | n :: ns, s, hnd => by
      have hn : n ∉ ns := (List.nodup_cons.1 hnd).1
      by_cases hv : n ∈ s.visited
      · obtain ⟨hq, hvis, hpar, hnew, hsize⟩ := foldl_visitNeighbor current ns s (List.nodup_cons.1 hnd).2
        have hstep : visitNeighbor current s n = s := if_pos hv
        simp only [List.foldl_cons, hstep, List.filter_cons, hv, not_true_eq_false, decide_False,
          List.mem_cons]
        refine ⟨hq, fun x => ?_, hpar, fun x hx hmem => hnew x hx ?_, hsize⟩
        · rw [hvis]
          exact ⟨fun h => h.imp_right .inr,
            fun h => h.elim .inl fun h => h.elim (fun e => .inl (e ▸ hv)) .inr⟩
        · rcases hmem with rfl | h
          · exact absurd hv hx
          · exact h
      · obtain ⟨hq, hvis, hpar, hnew, hsize⟩ := foldl_visitNeighbor current ns
          ⟨s.queue ++ [n], s.parent.insert n current, s.visited.insert n⟩ (List.nodup_cons.1 hnd).2
        have hfilter : ns.filter (· ∉ s.visited.insert n) = ns.filter (· ∉ s.visited) :=
          List.filter_congr fun x hx => by
            simp only [StdSet.mem_insert, ne_of_mem_of_not_mem hx hn, false_or]
        have hstep : visitNeighbor current s n =
            ⟨s.queue ++ [n], s.parent.insert n current, s.visited.insert n⟩ := if_neg hv
        simp only [List.foldl_cons, hstep, List.filter_cons, hv, not_false_eq_true, decide_True,
          if_true, List.length_cons, List.mem_cons] at hq hsize ⊢
        rw [hfilter] at hq hsize
        refine ⟨by simp [hq], fun x => ?_, fun x hx => ?_, fun x hx hmem => ?_, ?_⟩
        · rw [hvis, StdSet.mem_insert]
          exact or_assoc.trans or_left_comm
        · rw [hpar x (StdSet.mem_insert.2 (.inr hx)), StdMap.find?_insert,
            if_neg (ne_of_mem_of_not_mem hx hv)]
        · rcases hmem with rfl | h
          · rw [hpar x (StdSet.mem_insert.2 (.inl rfl)), StdMap.find?_insert, if_pos rfl]
          · exact hnew x (by simp [StdSet.mem_insert, hx, ne_of_mem_of_not_mem h hn]) h
        · rw [hsize, StdSet.size_insert, if_neg hv]
          omega

/-! ### The invariant -/

section Search

variable (t) (from_ to_ : NodeID)

/-- What holds at the top of each round of the search from `from_` for `to_`, with `lvl` the
distance from `from_` on the visited nodes. -/
structure BfsInv (lvl : NodeID → Nat) (s : BfsState) : Prop where
  from_visited : from_ ∈ s.visited
  queue_visited : ∀ v ∈ s.queue, v ∈ s.visited
  queue_nodup : s.queue.Nodup
  /-- A visited node other than `from_` is a neighbour of its parent, which is visited and one
  level below it. -/
  parent : ∀ v ∈ s.visited, v ≠ from_ →
    ∃ p, s.parent.find? v = some p ∧ p ∈ s.visited ∧ v ∈ t.neighbours p ∧ lvl v = lvl p + 1
  /-- A popped node has all its neighbours visited. -/
  closed : ∀ u ∈ s.visited, u ∉ s.queue → ∀ w ∈ t.neighbours u, w ∈ s.visited
  /-- The queue is sorted by level, -/
  sorted : s.queue.Pairwise fun a b => lvl a ≤ lvl b
  /-- and spans at most two levels. -/
  spread : ∀ c rest, s.queue = c :: rest → ∀ v ∈ rest, lvl v ≤ lvl c + 1
  /-- No walk to a visited node is shorter than its level. -/
  lvl_le : ∀ v ∈ s.visited, ∀ n, t.ReachesIn from_ v n → lvl v ≤ n
  /-- Every node nearer than the head of the queue is visited and popped. -/
  popped : ∀ c rest, s.queue = c :: rest → ∀ x n, t.ReachesIn from_ x n → n < lvl c →
    x ∈ s.visited ∧ x ∉ s.queue
  /-- `to_` is not popped. -/
  to_queued : to_ ∈ s.visited → to_ ∈ s.queue
  /-- A level is at most the number of popped nodes. -/
  count : ∀ v ∈ s.visited, lvl v + s.queue.length ≤ s.visited.size

/-- What `findPath` answers for two different nodes: `[]` when `to_` is out of reach, and
otherwise a walk from `from_` to `to_` without a repeated node, as short as any. -/
def FindPathSpec (r : List NodeID) : Prop :=
  (r = [] ∧ ¬t.Reaches from_ to_) ∨
  (r.head? = some from_ ∧ r.getLast? = some to_ ∧ t.IsWalk r ∧ r.Nodup ∧
    ∀ q : List NodeID, q.head? = some from_ → q.getLast? = some to_ → t.IsWalk q → r.length ≤ q.length)

/-- The search starts with the invariant, every level `0`. -/
theorem BfsInv.init (hne : from_ ≠ to_) : BfsInv t from_ to_ (fun _ => 0) (BfsState.init from_) where
  from_visited := by simp [BfsState.init]
  queue_visited := by simp [BfsState.init]
  queue_nodup := List.nodup_singleton _
  parent v hv hvf := absurd (by simpa [BfsState.init] using hv) hvf
  closed u hu hq := absurd (by simpa [BfsState.init] using hu) (by simpa [BfsState.init] using hq)
  sorted := List.pairwise_singleton _ _
  spread c rest h v hv := by simp_all [BfsState.init]
  lvl_le _ _ _ _ := Nat.zero_le _
  popped _ _ _ _ _ _ h := absurd h (Nat.not_lt_zero _)
  to_queued h := absurd (by simpa [BfsState.init] using h) (Ne.symm hne)
  count v _ := by
    show 0 + 1 ≤ (StdSet.empty.insert from_).size
    rw [StdSet.size_insert, if_neg (StdSet.not_mem_empty _)]
    exact le_refl _

variable {t from_ to_} {lvl : NodeID → Nat} {s : BfsState}

theorem BfsInv.lvl_from (I : BfsInv t from_ to_ lvl s) : lvl from_ = 0 :=
  Nat.le_zero.1 (I.lvl_le _ I.from_visited 0 .refl)

/-- A node at most as far from `from_` as the level of the head of the queue is visited. -/
theorem BfsInv.visited_of_reachesIn (I : BfsInv t from_ to_ lvl s) {c : NodeID}
    {rest : List NodeID} (hq : s.queue = c :: rest) {x : NodeID} {n : Nat}
    (hx : t.ReachesIn from_ x n) (hn : n ≤ lvl c) : x ∈ s.visited := by
  cases hx with
  | refl => exact I.from_visited
  | tail hy hxy =>
      have hy' := I.popped c rest hq _ _ hy (by omega)
      exact I.closed _ hy'.1 hy'.2 _ hxy

/-- With the queue empty, every node reached from `from_` is visited. -/
theorem BfsInv.visited_of_reaches (I : BfsInv t from_ to_ lvl s) (hq : s.queue = [])
    {x : NodeID} {n : Nat} (hx : t.ReachesIn from_ x n) : x ∈ s.visited := by
  induction hx with
  | refl => exact I.from_visited
  | tail _ hxy ih => exact I.closed _ ih (by simp [hq]) _ hxy

/-- At most `dfsFuel` nodes are visited: `from_` and nodes that are someone's neighbour. -/
theorem BfsInv.visited_size_le (I : BfsInv t from_ to_ lvl s) : s.visited.size ≤ t.dfsFuel := by
  have hsub : s.visited.elems ⊆ from_ :: t.adjacencyList.entries.flatMap fun e => e.2.elems := by
    intro v hv
    by_cases hvf : v = from_
    · exact hvf ▸ List.mem_cons_self _ _
    obtain ⟨p, -, -, hvp, -⟩ := I.parent v (StdSet.mem_elems.1 hv) hvf
    refine List.mem_cons_of_mem _ (List.mem_flatMap.2 ?_)
    unfold neighbours StdMap.findD at hvp
    cases hp : t.adjacencyList.find? p with
    | none => rw [hp] at hvp; exact absurd hvp (StdSet.not_mem_empty _)
    | some ns => rw [hp] at hvp; exact ⟨(p, ns), StdMap.mem_entries_of_find? hp, StdSet.mem_elems.2 hvp⟩
  have hlen : ∀ x : StdSet NodeID, x.elems.length = x.size := fun x => List.length_map _ _
  have hnd : s.visited.elems.Nodup := StdMap.keys_nodup _
  have := (hnd.subperm hsub).length_le
  simpa only [List.length_cons, List.length_flatMap, Function.comp_def, hlen, dfsFuel] using this

/-- Every queued node is at the level of the head of the queue or the next. -/
theorem BfsInv.queue_lvl (I : BfsInv t from_ to_ lvl s) {c : NodeID} {rest : List NodeID}
    (hq : s.queue = c :: rest) : ∀ v ∈ s.queue, lvl c ≤ lvl v ∧ lvl v ≤ lvl c + 1 := by
  have hs := I.sorted
  rw [hq, List.pairwise_cons] at hs
  rw [hq]
  intro v hv
  rcases List.mem_cons.1 hv with rfl | hv
  · omega
  · exact ⟨hs.1 v hv, I.spread c rest hq v hv⟩

/-- **A round of the search keeps the invariant**: `c ≠ to_` is popped, and its unvisited
neighbours join the queue at level `lvl c + 1`. -/
theorem BfsInv.step (I : BfsInv t from_ to_ lvl s) {c : NodeID} {rest : List NodeID}
    (hq : s.queue = c :: rest) (hc : c ≠ to_) :
    BfsInv t from_ to_ (fun x => if x ∈ s.visited then lvl x else lvl c + 1)
      ((t.neighbours c).elems.foldl (visitNeighbor c) { s with queue := rest }) := by
  obtain ⟨hQ, hV, hP, hN, hsize⟩ :=
    foldl_visitNeighbor c (t.neighbours c).elems { s with queue := rest } (StdMap.keys_nodup _)
  simp only [StdSet.mem_elems] at hV hN
  set s' := (t.neighbours c).elems.foldl (visitNeighbor c) { s with queue := rest }
  set lvl' := fun x => if x ∈ s.visited then lvl x else lvl c + 1
  have hold : ∀ x ∈ s.visited, lvl' x = lvl x := fun x hx => if_pos hx
  have hnew : ∀ x ∉ s.visited, lvl' x = lvl c + 1 := fun x hx => if_neg hx
  have hcV : c ∈ s.visited := I.queue_visited c (by simp [hq])
  have hrest : ∀ x ∈ rest, x ∈ s.visited := fun x hx => I.queue_visited x (by simp [hq, hx])
  have hmemQ : ∀ x, x ∈ s'.queue ↔ x ∈ rest ∨ (x ∈ t.neighbours c ∧ x ∉ s.visited) := by
    simp [hQ, StdSet.mem_elems]
  have hbound : ∀ x ∈ s'.queue, lvl c ≤ lvl' x ∧ lvl' x ≤ lvl c + 1 := by
    intro x hx
    rcases (hmemQ x).1 hx with hx | ⟨-, hx⟩
    · rw [hold x (hrest x hx)]
      exact I.queue_lvl hq x (by simp [hq, hx])
    · rw [hnew x hx]
      omega
  have hsorted : s'.queue.Pairwise fun a b => lvl' a ≤ lvl' b := by
    have hs := I.sorted
    rw [hq, List.pairwise_cons] at hs
    rw [hQ, List.pairwise_append]
    refine ⟨hs.2.imp_of_mem fun ha hb h => ?_, ((StdMap.keys_nodup _).filter _).imp_of_mem
      fun ha hb _ => ?_, fun a ha b hb => ?_⟩
    · rwa [hold _ (hrest _ ha), hold _ (hrest _ hb)]
    · rw [hnew _ (of_decide_eq_true (List.mem_filter.1 ha).2),
        hnew _ (of_decide_eq_true (List.mem_filter.1 hb).2)]
    · rw [hnew _ (of_decide_eq_true (List.mem_filter.1 hb).2)]
      exact (hbound a (by simp [hQ, ha])).2
  refine
    { from_visited := (hV _).2 (.inl I.from_visited)
      queue_visited := fun v hv => ?_
      queue_nodup := ?_
      parent := fun v hv hvf => ?_
      closed := fun u hu huq w hw => ?_
      sorted := hsorted
      spread := fun c' rest' hq' v hv => ?_
      lvl_le := fun v _ n hr => ?_
      popped := fun c' rest' hq' x n hr hn => ?_
      to_queued := fun h => ?_
      count := fun v hv => ?_ }
  · rcases (hmemQ v).1 hv with hv | hv
    · exact (hV v).2 (.inl (hrest v hv))
    · exact (hV v).2 (.inr hv.1)
  · have hnd := I.queue_nodup
    rw [hq, List.nodup_cons] at hnd
    rw [hQ, List.nodup_append]
    exact ⟨hnd.2, (StdMap.keys_nodup _).filter _,
      fun x hx hx' => of_decide_eq_true (List.mem_filter.1 hx').2 (hrest x hx)⟩
  · by_cases hvV : v ∈ s.visited
    · obtain ⟨p, hp, hpV, hvp, hl⟩ := I.parent v hvV hvf
      refine ⟨p, (hP v hvV).trans hp, (hV p).2 (.inl hpV), hvp, ?_⟩
      rw [hold v hvV, hold p hpV, hl]
    · have hvc := ((hV v).1 hv).resolve_left hvV
      refine ⟨c, hN v hvV hvc, (hV c).2 (.inl hcV), hvc, ?_⟩
      rw [hnew v hvV, hold c hcV]
  · refine (hV w).2 ?_
    by_cases huc : u = c
    · exact .inr (huc ▸ hw)
    by_cases huV : u ∈ s.visited
    · refine .inl (I.closed u huV ?_ w hw)
      rw [hq, List.mem_cons, not_or]
      exact ⟨huc, fun h => huq ((hmemQ u).2 (.inl h))⟩
    · exact absurd ((hmemQ u).2 (.inr ⟨((hV u).1 hu).resolve_left huV, huV⟩)) huq
  · have h₁ := hbound v (by simp [hq', hv])
    have h₂ := hbound c' (by simp [hq'])
    omega
  · by_cases hvV : v ∈ s.visited
    · rw [hold v hvV]
      exact I.lvl_le v hvV n hr
    · rw [hnew v hvV]
      by_contra hlt
      exact hvV (I.visited_of_reachesIn hq hr (by omega))
  · have hc' := hbound c' (by simp [hq'])
    have hxV := I.visited_of_reachesIn hq hr (by omega)
    refine ⟨(hV x).2 (.inl hxV), fun hx => ?_⟩
    have hle : lvl' c' ≤ lvl' x := by
      rw [hq'] at hsorted hx
      rcases List.mem_cons.1 hx with rfl | hx
      · exact le_rfl
      · exact List.rel_of_pairwise_cons hsorted hx
    have := I.lvl_le x hxV n hr
    rw [hold x hxV] at hle
    omega
  · refine (hmemQ to_).2 ?_
    by_cases htV : to_ ∈ s.visited
    · have := I.to_queued htV
      rw [hq, List.mem_cons] at this
      exact .inl (this.resolve_left (Ne.symm hc))
    · exact .inr ⟨((hV to_).1 h).resolve_left htV, htV⟩
  · have hcount := I.count c hcV
    rw [hq, List.length_cons] at hcount
    rw [hsize, hQ, List.length_append]
    dsimp only
    by_cases hvV : v ∈ s.visited
    · have := I.count v hvV
      rw [hq, List.length_cons] at this
      rw [hold v hvV]
      omega
    · rw [hnew v hvV]
      omega

/-- **The reconstruction returns a shortest walk.**  From a visited node `v`, with more fuel than
its level, the walk up the parents gives the nodes at levels `0, …, lvl v`, from `from_` to `v`,
in front of the reversed path pushed so far. -/
theorem reconstructPath_spec (I : BfsInv t from_ to_ lvl s) :
    ∀ (fuel : Nat) (v : NodeID) (path : List NodeID), v ∈ s.visited → lvl v < fuel →
      ∃ p, reconstructPath s.parent from_ fuel v path = some (p ++ path.reverse) ∧
        p.head? = some from_ ∧ p.getLast? = some v ∧ t.IsWalk p ∧ p.map lvl = List.range (lvl v + 1)
  | 0, _, _, _, h => absurd h (Nat.not_lt_zero _)
  | fuel + 1, v, path, hv, hfuel => by
      by_cases hvf : v = from_
      · subst hvf
        exact ⟨[v], by simp [reconstructPath], rfl, rfl, List.chain'_singleton _,
          by rw [List.map_singleton, I.lvl_from]; rfl⟩
      · obtain ⟨u, hu, huV, hvu, hl⟩ := I.parent v hv hvf
        obtain ⟨q, hq, hqh, hql, hqw, hqm⟩ :=
          reconstructPath_spec I fuel u (path ++ [v]) huV (by omega)
        refine ⟨q ++ [v], ?_, ?_, by simp, ?_, ?_⟩
        · rw [reconstructPath, if_pos hvf, StdMap.findD, hu, Option.getD_some, hq]
          simp
        · rw [List.head?_append, hqh]
          rfl
        · refine hqw.append (List.chain'_singleton _) fun x hx y hy => ?_
          rw [hql, Option.mem_some_iff] at hx
          rw [List.head?_singleton, Option.mem_some_iff] at hy
          exact hx ▸ hy ▸ hvu
        · rw [List.map_append, hqm, List.map_singleton, hl]
          exact (List.range_succ _).symm

/-- **The search ends and answers right**: from a state with the invariant, more rounds than
`dfsFuel - |visited| + |queue|` give an answer meeting `FindPathSpec`. -/
theorem bfsLoop_spec : ∀ (n : Nat) (lvl : NodeID → Nat) (s : BfsState), BfsInv t from_ to_ lvl s →
    t.dfsFuel - s.visited.size + s.queue.length < n →
    ∃ r, t.bfsLoop from_ to_ (t.dfsFuel + 1) n s = some r ∧ FindPathSpec t from_ to_ r
  | 0, _, _, _, h => absurd h (Nat.not_lt_zero _)
  | n + 1, lvl, s, I, hn => by
      cases hq : s.queue with
      | nil =>
          refine ⟨[], by simp only [bfsLoop, hq], .inl ⟨rfl, fun h => ?_⟩⟩
          obtain ⟨k, hk⟩ := reaches_iff_exists_reachesIn.1 h
          simpa [hq] using I.to_queued (I.visited_of_reaches hq hk)
      | cons c rest =>
          by_cases hc : c = to_
          · have hto : to_ ∈ s.visited := hc ▸ I.queue_visited c (by simp [hq])
            have hcount := I.count to_ hto
            rw [hq, List.length_cons] at hcount
            have hB := I.visited_size_le
            obtain ⟨p, hp, hph, hpl, hpw, hpm⟩ :=
              reconstructPath_spec I (t.dfsFuel + 1) to_ [] hto (by omega)
            rw [List.reverse_nil, List.append_nil] at hp
            have hlen : p.length = lvl to_ + 1 := by
              rw [← List.length_map p lvl, hpm, List.length_range]
            refine ⟨p, by simp only [bfsLoop, hq, if_pos hc, hp], .inr ⟨hph, hpl, hpw,
              List.Nodup.of_map lvl (hpm ▸ List.nodup_range _), fun q hqh hql hqw => ?_⟩⟩
            have hq0 : q ≠ [] := by rintro rfl; simp at hqh
            have := I.lvl_le to_ hto _ (hqw.reachesIn hqh hql)
            have := List.length_pos.2 hq0
            omega
          · have I' := I.step hq hc
            obtain ⟨hQ, -, -, -, hsize⟩ := foldl_visitNeighbor c (t.neighbours c).elems
              { s with queue := rest } (StdMap.keys_nodup _)
            dsimp only at hQ hsize
            have hB := I'.visited_size_le
            rw [hsize] at hB
            have hmeasure := hn
            rw [hq, List.length_cons] at hmeasure
            obtain ⟨r, hr, hspec⟩ := bfsLoop_spec n _ _ I' (by rw [hsize, hQ, List.length_append]; omega)
            exact ⟨r, by simp only [bfsLoop, hq, if_neg hc, hr], hspec⟩

end Search

end TopologyManager

namespace TopologyManager

/-- Between two different nodes the search ends, and `findPath` answers as `FindPathSpec` says. -/
theorem findPath_spec (t : TopologyManager) {from_ to_ : NodeID} (hne : from_ ≠ to_) :
    t.findPathSearch from_ to_ = some (t.findPath from_ to_) ∧
      FindPathSpec t from_ to_ (t.findPath from_ to_) := by
  have hinit : (BfsState.init from_).visited.size = 1 := by
    rw [BfsState.init, StdSet.size_insert, if_neg (StdSet.not_mem_empty _)]
    rfl
  obtain ⟨r, hr, hspec⟩ := bfsLoop_spec (t.dfsFuel + 1) _ _ (BfsInv.init t from_ to_ hne)
    (by rw [hinit]; simp [BfsState.init, dfsFuel])
  have hsearch : t.findPathSearch from_ to_ = some r := hr
  rw [findPath, if_neg hne, hsearch, Option.getD_some]
  exact ⟨rfl, hspec⟩

/-- A node out of reach gets the empty path. -/
theorem findPath_eq_nil (t : TopologyManager) {from_ to_ : NodeID} (hne : from_ ≠ to_)
    (h : ¬t.Reaches from_ to_) : t.findPath from_ to_ = [] := by
  rcases (t.findPath_spec hne).2 with ⟨h0, -⟩ | ⟨hh, hl, hw, -⟩
  · exact h0
  · exact absurd (reaches_iff_exists_reachesIn.2 ⟨_, hw.reachesIn hh hl⟩) h

/-- A neighbour gets the path of one edge. -/
theorem findPath_of_mem_neighbours (t : TopologyManager) {from_ to_ : NodeID} (hne : from_ ≠ to_)
    (h : to_ ∈ t.neighbours from_) : t.findPath from_ to_ = [from_, to_] := by
  rcases (t.findPath_spec hne).2 with ⟨-, hnr⟩ | ⟨hh, hl, -, -, hmin⟩
  · exact absurd (show t.Reaches from_ to_ from .single h) hnr
  · have hle := hmin [from_, to_] rfl rfl (List.chain'_pair.2 h)
    match hp : t.findPath from_ to_, hh, hl, hle with
    | [x], hh, hl, _ =>
        rw [List.head?_singleton, Option.some_inj] at hh
        rw [List.getLast?_singleton, Option.some_inj] at hl
        exact absurd (hh.symm.trans hl) hne
    | [x, y], hh, hl, _ =>
        rw [List.head?_cons, Option.some_inj] at hh
        rw [List.getLast?_cons_cons, List.getLast?_singleton, Option.some_inj] at hl
        rw [hh, hl]

end TopologyManager

/-- **`findPath` finds shortest paths, and terminates.**  From a node to itself it answers the
node alone.  Between two different nodes the search ends within its fuel, the parent walk
included; it answers `[]` exactly when the second node is out of reach, and otherwise a walk
from the first node to the second along `adjacencyList_` edges, without a repeated node, and no
longer than any such walk. -/
theorem findPath_shortest (t : TopologyManager) (from_ to_ : NodeID) :
    (from_ = to_ → t.findPath from_ to_ = [from_]) ∧
    (from_ ≠ to_ → t.findPathSearch from_ to_ ≠ none ∧
      (t.findPath from_ to_ = [] ↔ ¬t.Reaches from_ to_) ∧
      (t.findPath from_ to_ ≠ [] →
        (t.findPath from_ to_).head? = some from_ ∧ (t.findPath from_ to_).getLast? = some to_ ∧
        t.IsWalk (t.findPath from_ to_) ∧ (t.findPath from_ to_).Nodup ∧
        ∀ q : List NodeID, q.head? = some from_ → q.getLast? = some to_ → t.IsWalk q →
          (t.findPath from_ to_).length ≤ q.length)) := by
  refine ⟨fun h => if_pos h, fun hne => ?_⟩
  obtain ⟨hsearch, hspec⟩ := t.findPath_spec hne
  refine ⟨by simp [hsearch], ?_⟩
  rcases hspec with ⟨h0, hnr⟩ | ⟨hh, hl, hw, hnd, hmin⟩
  · exact ⟨iff_of_true h0 hnr, fun h => absurd h0 h⟩
  · have hreach : t.Reaches from_ to_ :=
      TopologyManager.reaches_iff_exists_reachesIn.2 ⟨_, hw.reachesIn hh hl⟩
    exact ⟨iff_of_false (by rintro h; simp [h] at hh) (not_not.2 hreach),
      fun _ => ⟨hh, hl, hw, hnd, hmin⟩⟩

/-- On the square `1 - 2 - 3 - 4 - 1` the search reaches `3` through the lower neighbour `2`. -/
example : (((TopologyManager.new 1).addEdge 1 2).addEdge 2 3 |>.addEdge 1 4 |>.addEdge 4 3).findPath 1 3 =
    [1, 2, 3] := by decide

end P2POverlay
