/-
**Chunk counts and byte counts, and the round trip of the chunks** (`DataExchange::splitData`,
`DataExchange::sendData`, `DataExchange::handleDataChunk`).

The sender computes the number of chunks as `(totalSize + chunkSize_ - 1) / chunkSize_` in
`size_t` and casts it to `uint32_t`.  When the sum does not wrap and the quotient fits, the
chunks `splitData` returns are exactly the chunk family of `P2POverlay/Reassembly.lean`, and
their bytes concatenate to the payload (`splitData_family`, `ChunkFamily.flatMap_data`).  At a
chunk size of `0` the division fails, at a chunk size near `2 ^ 64` the sum wraps, and a count of
`2 ^ 32` or more is cut by the cast (`splitData_length`).

The receiver keeps two byte counts per incoming transfer: `transferredSize`, the bytes received,
and `totalSize`, set to the bytes received so far when a chunk flagged last arrives
(`countChunk`).  Along any run of `handleDataChunk` the two counts of a transfer are this fold
over its chunks in order of arrival (`receiveAll_sizes`), so when the last chunk arrives first
the total is that chunk's size alone and every later chunk pushes the received count past it.

Put together with the reassembly of `P2POverlay/Reassembly.lean`, the chunks `splitData` makes
of a payload in range are reassembled by `handleDataChunk` to that payload, in whatever order they
arrive (`splitData_receiveAll`).  This is a round trip of the chunk format only: the program has
no path that carries a chunk from `sendData` to `handleDataChunk`.

Main definitions:

* `P2POverlay.countChunk` — what one chunk does to the two byte counts of its record;
* `P2POverlay.DataTransfer.sizes` — the two byte counts of a record.

Main results:

* `P2POverlay.splitData_family`, `P2POverlay.splitData_length` — what `splitData` returns;
* `P2POverlay.splitData_exact_only_in_range` — **`splitData` is exact only when the chunk size
  is positive, the sum does not wrap and the count fits in `uint32_t`**;
* `P2POverlay.receiveAll_sizes` — the run lemma for the byte counts;
* `P2POverlay.handleDataChunk_progress_lastFirst` — **the received count never exceeds the
  payload, but when the last chunk arrives first the total is overshot**;
* `P2POverlay.splitData_receiveAll` — **the chunks of a payload, passed to the receiver in any
  order, give the payload back**.
-/

import P2POverlay.Reassembly

set_option relaxedAutoImplicit false
set_option autoImplicit false

namespace P2POverlay

open DataExchange

/-! ### The chunk family, chunk by chunk -/

/-- A place below `⌈n / cs⌉` starts inside `n` bytes. -/
theorem mul_lt_of_lt_ceilDiv {i n cs : Nat} (hi : i < (n + cs - 1) / cs) : i * cs < n := by
  rcases Nat.eq_zero_or_pos cs with rfl | hcs
  · simp at hi
  have hk : (n + cs - 1) / cs * cs ≤ n + cs - 1 := Nat.div_mul_le_self _ _
  have := Nat.mul_le_mul_right cs (Nat.succ_le_of_lt hi)
  rw [Nat.succ_mul] at this
  omega

namespace ChunkFamily

variable {B : Bytes} {cs : Nat} {t : UInt64} {chunks : List DataChunk}

/-- The chunks of the family concatenate to the payload. -/
theorem flatMap_data (h : ChunkFamily B cs t chunks) (hcs : 0 < cs) : chunks.flatMap (·.data) = B := by
  have hmap : chunks.map (·.data) = (List.range chunks.length).map fun i => (B.drop (i * cs)).take cs :=
    List.ext_getElem (by simp) fun i _ _ => by simp [h.data]
  rw [List.flatMap_def, hmap, ← List.flatMap_def, flatMap_slices,
    List.take_of_length_le (h.length_le_mul hcs)]

/-- The sizes of the chunks add up to the size of the payload. -/
theorem sum_length_data (h : ChunkFamily B cs t chunks) (hcs : 0 < cs) :
    (chunks.map (·.data.length)).sum = B.length := by
  rw [← h.flatMap_data hcs, List.flatMap_def, List.length_flatten, List.map_map]
  rfl

/-- No chunk of the family is empty. -/
theorem data_ne_nil (h : ChunkFamily B cs t chunks) (hcs : 0 < cs) {c : DataChunk} (hc : c ∈ chunks) :
    c.data ≠ [] := by
  obtain ⟨i, hi, rfl⟩ := List.mem_iff_getElem.1 hc
  have hoff := mul_lt_of_lt_ceilDiv (h.length ▸ hi)
  rw [h.data i hi, ← List.length_pos, List.length_take, List.length_drop]
  exact Nat.lt_min.2 ⟨hcs, by omega⟩

/-- One chunk of the family is flagged last. -/
theorem eq_of_isLastChunk (h : ChunkFamily B cs t chunks) {c c' : DataChunk} (hc : c ∈ chunks)
    (hc' : c' ∈ chunks) (hl : c.isLastChunk = true) (hl' : c'.isLastChunk = true) : c = c' := by
  obtain ⟨i, hi, rfl⟩ := List.mem_iff_getElem.1 hc
  obtain ⟨j, hj, rfl⟩ := List.mem_iff_getElem.1 hc'
  rw [h.isLastChunk i hi, decide_eq_true_iff] at hl
  rw [h.isLastChunk j hj, decide_eq_true_iff] at hl'
  obtain rfl : i = j := hl.trans hl'.symm
  rfl

/-- Delivered in any order, no chunk after the one flagged last is flagged last. -/
theorem isLastChunk_eq_false_of_perm (h : ChunkFamily B cs t chunks) {c : DataChunk}
    {P : List DataChunk} (hp : (c :: P).Perm chunks) (hlast : c.isLastChunk = true) :
    ∀ c' ∈ P, c'.isLastChunk = false := fun c' hc' => by
  by_contra hc''
  have heq := h.eq_of_isLastChunk (hp.subset (List.mem_cons_of_mem _ hc'))
    (hp.subset (List.mem_cons_self _ _)) (Bool.not_eq_false _ ▸ hc'') hlast
  exact (List.nodup_cons.1 (hp.nodup_iff.2 h.nodup)).1 (heq ▸ hc')

/-- Delivered in any order, two chunks or more carry some bytes after the first. -/
theorem sum_length_tail_pos (h : ChunkFamily B cs t chunks) (hcs : 0 < cs) {c : DataChunk}
    {P : List DataChunk} (hp : (c :: P).Perm chunks) (h₂ : 2 ≤ chunks.length) :
    0 < (P.map (·.data.length)).sum := by
  cases P with
  | nil => have := hp.length_eq; simp at this; omega
  | cons y P =>
      have := List.length_pos.2 (h.data_ne_nil hcs (hp.subset (List.mem_cons_of_mem _ (List.mem_cons_self _ _))))
      simp only [List.map_cons, List.sum_cons]
      omega

end ChunkFamily

/-! ### The sender: `splitData` -/

/-- Within range, the last-chunk test `i == chunkCount - 1` in `uint32_t` is the test on
numbers. -/
theorem uint32_ofNat_beq_pred {i k : Nat} (hi : i < k) (hk : k < 2 ^ 32) :
    (UInt32.ofNat i == UInt32.ofNat k - 1) = decide (i = k - 1) := by
  have h1 : (UInt32.ofNat i).toNat = i := UInt32.toNat_ofNat_of_lt (by unfold UInt32.size; omega)
  have h2 : (UInt32.ofNat k - 1).toNat = k - 1 := by
    rw [UInt32.toNat_sub_of_le]
    · rw [UInt32.toNat_ofNat_of_lt (by unfold UInt32.size; omega)]; rfl
    · show (1 : UInt32).toNat ≤ (UInt32.ofNat k).toNat
      rw [UInt32.toNat_ofNat_of_lt (by unfold UInt32.size; omega)]; show 1 ≤ k; omega
  rw [Bool.eq_iff_iff, beq_iff_eq, decide_eq_true_iff]
  exact ⟨fun h => by rw [← h1, ← h2, h], fun h => UInt32.toNat.inj (by rw [h1, h2, h])⟩

/-- A slice cut to the bytes that remain is the slice cut to the chunk size. -/
theorem take_min_length_drop (data : Bytes) (n cs : Nat) :
    (data.drop n).take (min cs (data.length - n)) = (data.drop n).take cs := by
  rcases le_total cs (data.length - n) with h | h
  · rw [Nat.min_eq_left h]
  · rw [Nat.min_eq_right h, List.take_of_length_le (by simp),
      List.take_of_length_le (by simp; omega)]

/-- The number of chunks `splitData` returns at a positive chunk size: the `size_t` quotient,
cut to `uint32_t`. -/
theorem splitData_length (data : Bytes) {cs : Nat} (t : UInt64) (hcs : 0 < cs) :
    (splitData cs data t).map List.length = some ((data.length + cs - 1) % 2 ^ 64 / cs % 2 ^ 32) := by
  simp only [splitData, if_neg (Nat.pos_iff_ne_zero.1 hcs), Option.map_some', List.length_map,
    List.length_range]

/-- When the sum does not wrap and the count fits, `splitData` returns the chunk family. -/
theorem splitData_family {data : Bytes} {cs : Nat} (t : UInt64) (hcs : 0 < cs)
    (hwrap : data.length + cs - 1 < 2 ^ 64) (htrunc : (data.length + cs - 1) / cs < 2 ^ 32) :
    ∃ chunks, splitData cs data t = some chunks ∧ ChunkFamily data cs t chunks := by
  have hU : ∀ n, n < 2 ^ 32 → (UInt32.ofNat n).toNat = n := fun n hn =>
    UInt32.toNat_ofNat_of_lt (by unfold UInt32.size; omega)
  simp only [splitData, if_neg (Nat.pos_iff_ne_zero.1 hcs), Nat.mod_eq_of_lt hwrap,
    Nat.mod_eq_of_lt htrunc, Option.some.injEq, exists_eq_left']
  refine ⟨by simp only [List.length_map, List.length_range], fun c hc => ?_, fun c hc => ?_,
    fun i hi => ?_, fun i hi => ?_, fun i hi => ?_⟩
  · obtain ⟨i, -, rfl⟩ := List.mem_map.1 hc
    rfl
  · obtain ⟨i, -, rfl⟩ := List.mem_map.1 hc
    rw [hU _ htrunc, List.length_map, List.length_range]
  · simp only [List.length_map, List.length_range] at hi
    simp only [List.getElem_map, List.getElem_range]
    exact hU i (by omega)
  · simp only [List.length_map, List.length_range] at hi
    have hoff := mul_lt_of_lt_ceilDiv hi
    simp only [List.getElem_map, List.getElem_range, Nat.mod_eq_of_lt (show i * cs < 2 ^ 64 by omega)]
    rw [show (data.length + 2 ^ 64 - i * cs) % 2 ^ 64 = data.length - i * cs by omega,
      take_min_length_drop]
  · simp only [List.length_map, List.length_range] at hi ⊢
    simp only [List.getElem_map, List.getElem_range]
    exact uint32_ofNat_beq_pred hi htrunc

/-- **`splitData` is exact only in range.**  At chunk size `0` it divides by zero.  At a positive
chunk size whose sum with the payload size does not wrap, and whose chunk count fits in
`uint32_t`, it returns the chunk family: `⌈|B| / cs⌉` chunks numbered `0, 1, …` in order, each
announcing that count, only the last flagged last, concatenating to `B`.  At chunk size
`SIZE_MAX` the sum wraps and every payload of two bytes or more gets no chunk, so `sendData`
completes successfully without handing a chunk to the router; and a count of `2 ^ 32` or more is
cut to its low 32 bits. -/
theorem splitData_exact_only_in_range :
    (∀ (data : Bytes) (t : UInt64), splitData 0 data t = none) ∧
    (∀ (data : Bytes) (cs : Nat) (t : UInt64), 0 < cs → data.length + cs - 1 < 2 ^ 64 →
      (data.length + cs - 1) / cs < 2 ^ 32 →
      ∃ chunks, splitData cs data t = some chunks ∧ ChunkFamily data cs t chunks ∧
        chunks.flatMap (·.data) = data) ∧
    (∀ (data : Bytes) (t : UInt64), 2 ≤ data.length → data.length < 2 ^ 64 →
      splitData (2 ^ 64 - 1) data t = some [] ∧
      ∀ (d : DataExchange) (call : SendCall) (now : Nat), d.chunkSize = 2 ^ 64 - 1 → call.data = data →
        (d.sendStep call now .start).2 = (.sending [], none) ∧
        ((d.sendStep call now .start).1.sendStep call now (.sending [])).2 = (.done true, none)) ∧
    (∀ (data : Bytes) (cs : Nat) (t : UInt64), 0 < cs → data.length + cs - 1 < 2 ^ 64 →
      2 ^ 32 ≤ (data.length + cs - 1) / cs →
      (splitData cs data t).map List.length = some ((data.length + cs - 1) / cs % 2 ^ 32)) := by
  have hwrap : ∀ (data : Bytes) (t : UInt64), 2 ≤ data.length → data.length < 2 ^ 64 →
      splitData (2 ^ 64 - 1) data t = some [] := fun data t h₂ h₆₄ => by
    have hcount : (data.length + (2 ^ 64 - 1) - 1) % 2 ^ 64 / (2 ^ 64 - 1) % 2 ^ 32 = 0 := by
      rw [show (data.length + (2 ^ 64 - 1) - 1) % 2 ^ 64 = data.length - 2 by omega,
        Nat.div_eq_of_lt (by omega), Nat.zero_mod]
    simp only [splitData, if_neg (show 2 ^ 64 - 1 ≠ 0 by decide), hcount, List.range_zero, List.map_nil]
  refine ⟨fun _ _ => rfl, fun data cs t hcs h₁ h₂ => ?_, fun data t h₂ h₆₄ => ⟨hwrap data t h₂ h₆₄,
    fun d call now hd hcall => ?_⟩, fun data cs t hcs h₁ _ => ?_⟩
  · obtain ⟨chunks, hs, hfam⟩ := splitData_family t hcs h₁ h₂
    exact ⟨chunks, hs, hfam, hfam.flatMap_data hcs⟩
  · exact ⟨by simp only [sendStep, hd, hcall, hwrap data call.transferID h₂ h₆₄], rfl⟩
  · rw [splitData_length data t hcs, Nat.mod_eq_of_lt h₁]

/-! ### The receiver: byte counts -/

/-- The two byte counts of an incoming record, `transferredSize` and `totalSize`, after one
more chunk: the chunk's bytes are added, and the total is set to the bytes so far when the
chunk is flagged last. -/
def countChunk (s : Nat × Nat) (c : DataChunk) : Nat × Nat :=
  (s.1 + c.data.length, if c.isLastChunk then s.1 + c.data.length else s.2)

/-- The two byte counts of a record. -/
def DataTransfer.sizes (r : DataTransfer) : Nat × Nat := (r.transferredSize, r.totalSize)

@[simp] theorem DataTransfer.sizes_complete (r : DataTransfer) (s : Bool) (now : Nat) :
    (r.complete s now).sizes = r.sizes := rfl

theorem foldl_countChunk_fst (P : List DataChunk) (s : Nat × Nat) :
    (P.foldl countChunk s).1 = s.1 + (P.map (·.data.length)).sum := by
  induction P generalizing s with
  | nil => simp
  | cons c P ih => rw [List.foldl_cons, ih, countChunk, List.map_cons, List.sum_cons, Nat.add_assoc]

theorem foldl_countChunk_snd (P : List DataChunk) (s : Nat × Nat)
    (h : ∀ c ∈ P, c.isLastChunk = false) : (P.foldl countChunk s).2 = s.2 := by
  induction P generalizing s with
  | nil => rfl
  | cons c P ih =>
      rw [List.foldl_cons, ih _ fun c' hc' => h c' (List.mem_cons_of_mem _ hc'), countChunk,
        h c (List.mem_cons_self _ _)]
      rfl

/-- A fold that starts a record at `(0, 0)` on the first chunk. -/
theorem foldl_some_countChunk (P : List DataChunk) (o : Option (Nat × Nat)) :
    P.foldl (fun o c => some (countChunk (o.getD (0, 0)) c)) o =
      if P = [] then o else some (P.foldl countChunk (o.getD (0, 0))) := by
  induction P generalizing o with
  | nil => rfl
  | cons c P ih => rw [List.foldl_cons, ih]; split_ifs <;> simp_all

theorem receiveRecord_sizes (d : DataExchange) (c : DataChunk) (src : NodeID) (now : Nat) :
    (d.receiveRecord c src now).sizes =
      countChunk (((d.incomingTransfers.find? c.chunkID).map DataTransfer.sizes).getD (0, 0)) c := by
  unfold receiveRecord countChunk
  cases d.incomingTransfers.find? c.chunkID <;> cases c.isLastChunk <;> rfl

/-- One chunk counts its bytes in the record of its transfer. -/
theorem handleDataChunk_sizes (d : DataExchange) (c : DataChunk) (src : NodeID) (now : Nat) :
    ((d.handleDataChunk c src now).incomingTransfers.find? c.chunkID).map DataTransfer.sizes =
      some (countChunk (((d.incomingTransfers.find? c.chunkID).map DataTransfer.sizes).getD (0, 0)) c) := by
  obtain ⟨-, h₂, -⟩ := handleDataChunk_tables (d := d) c src now
  rw [h₂, ← receiveRecord_sizes d c src now]
  split_ifs <;> simp

/-- The last callback of `handleDataChunk` reports the two counts of the record. -/
theorem handleDataChunk_events (d : DataExchange) (c : DataChunk) (src : NodeID) (now : Nat) :
    ∃ r, (d.handleDataChunk c src now).incomingTransfers.find? c.chunkID = some r ∧
      (d.handleDataChunk c src now).events.getLast? =
        some (.transferProgress c.chunkID r.transferredSize r.totalSize) := by
  obtain ⟨-, h₂, -⟩ := handleDataChunk_tables (d := d) c src now
  obtain ⟨r, hr⟩ : ∃ r, (d.handleDataChunk c src now).incomingTransfers.find? c.chunkID = some r := by
    rw [h₂]; split_ifs <;> simp
  refine ⟨r, hr, ?_⟩
  revert hr
  unfold handleDataChunk
  dsimp only
  intro hr
  rw [hr]
  simp

/-- The run lemma: along any deliveries, the two counts of transfer `t` are `countChunk` folded
over its chunks in order of arrival. -/
theorem receiveAll_sizes (t : UInt64) :
    ∀ (ds : List (DataChunk × NodeID × Nat)) (d : DataExchange),
      ((receiveAll d ds).incomingTransfers.find? t).map DataTransfer.sizes =
        (arrivals t ds).foldl (fun o c => some (countChunk (o.getD (0, 0)) c))
          ((d.incomingTransfers.find? t).map DataTransfer.sizes)
  | [], _ => rfl
  | x :: ds, d => by
      rw [receiveAll, List.foldl_cons, ← receiveAll, receiveAll_sizes t ds, arrivals_cons]
      by_cases hx : x.1.chunkID = t
      · rw [if_pos hx, List.foldl_cons, ← hx, handleDataChunk_sizes]
      · rw [if_neg hx, (handleDataChunk_find?_of_ne x.2.1 x.2.2 (Ne.symm hx)).2.1]

/-- Deliveries of chunks of `t` only: the counts after them, from a node with no record of
`t`. -/
theorem receiveAll_sizes_new {t : UInt64} (nodeID : NodeID) (ds : List (DataChunk × NodeID × Nat))
    (hds : ∀ x ∈ ds, x.1.chunkID = t) :
    ((receiveAll (DataExchange.new nodeID) ds).incomingTransfers.find? t).map DataTransfer.sizes =
      if ds = [] then none else some ((ds.map Prod.fst).foldl countChunk (0, 0)) := by
  have harr : arrivals t ds = ds.map Prod.fst :=
    List.filter_eq_self.2 fun c hc => by
      obtain ⟨x, hx, rfl⟩ := List.mem_map.1 hc
      simp [hds x hx]
  rw [receiveAll_sizes, harr, foldl_some_countChunk]
  simp only [List.map_eq_nil_iff]
  rfl

/-- After deliveries of chunks of `t` only, at least one, the last callback reports the two
counts of the record of `t`. -/
theorem receiveAll_events_getLast? {t : UInt64} (d : DataExchange) (ds : List (DataChunk × NodeID × Nat))
    (hne : ds ≠ []) (hds : ∀ x ∈ ds, x.1.chunkID = t) :
    ∃ r, (receiveAll d ds).incomingTransfers.find? t = some r ∧
      (receiveAll d ds).events.getLast? = some (.transferProgress t r.transferredSize r.totalSize) := by
  obtain ⟨init, y, rfl⟩ : ∃ init y, ds = init ++ [y] := by
    simpa only [List.concat_eq_append] using (List.eq_nil_or_concat ds).resolve_left hne
  have hyt : y.1.chunkID = t := hds y (List.mem_append_right _ (List.mem_singleton_self _))
  have hrun : receiveAll d (init ++ [y]) = (receiveAll d init).handleDataChunk y.1 y.2.1 y.2.2 := by
    rw [receiveAll, List.foldl_append]; rfl
  rw [hrun, ← hyt]
  exact handleDataChunk_events _ _ _ _

/-- **The receiver's total can be overshot.**  Deliver the chunks of `B`, each once, in any
order.  After every prefix of the deliveries the record of the transfer counts at most `|B|`
received bytes.  But when the chunk flagged last is delivered first and there are two chunks or
more, the record ends with its total set to that chunk's size alone, below the `|B|` bytes
received, and the last progress callback reports more bytes than the total. -/
theorem handleDataChunk_progress_lastFirst {B : Bytes} {cs : Nat} {t : UInt64}
    {chunks : List DataChunk} (hcs : 0 < cs) (hfam : ChunkFamily B cs t chunks) (nodeID : NodeID)
    (ds : List (DataChunk × NodeID × Nat)) (hds : (ds.map Prod.fst).Perm chunks) :
    (∀ (n : Nat) (r : DataTransfer),
      (receiveAll (DataExchange.new nodeID) (ds.take n)).incomingTransfers.find? t = some r →
        r.transferredSize ≤ B.length) ∧
    (2 ≤ chunks.length → ∀ x, ds.head? = some x → x.1.isLastChunk = true →
      ∃ r, (receiveAll (DataExchange.new nodeID) ds).incomingTransfers.find? t = some r ∧
        r.totalSize = x.1.data.length ∧ r.transferredSize = B.length ∧
        r.totalSize < r.transferredSize ∧
        (receiveAll (DataExchange.new nodeID) ds).events.getLast? =
          some (.transferProgress t r.transferredSize r.totalSize)) := by
  have hmem : ∀ x ∈ ds, x.1 ∈ chunks := fun x hx => hds.subset (List.mem_map_of_mem _ hx)
  have hid : ∀ x ∈ ds, x.1.chunkID = t := fun x hx => hfam.chunkID _ (hmem x hx)
  have hsum : ((ds.map Prod.fst).map (·.data.length)).sum = B.length := by
    rw [(hds.map _).sum_eq, hfam.sum_length_data hcs]
  refine ⟨fun n r hr => ?_, fun h₂ x hx hlast => ?_⟩
  · -- a prefix counts the bytes of its chunks, a part of the bytes of all of them
    have hsz := receiveAll_sizes_new nodeID (ds.take n) fun y hy => hid y (List.mem_of_mem_take hy)
    rw [hr] at hsz
    split_ifs at hsz with hnil
    · cases hsz
    · have h₁ : r.transferredSize = (((ds.take n).map Prod.fst).map (·.data.length)).sum := by
        have := congrArg Prod.fst (Option.some.inj hsz)
        rwa [foldl_countChunk_fst, Nat.zero_add] at this
      rw [h₁, ← hsum]
      exact ((((List.take_sublist n ds).map _).map _)).sum_le_sum fun _ _ => Nat.zero_le _
  · obtain ⟨rest, rfl⟩ := List.head?_eq_some_iff.1 hx
    -- the chunks after the first are not flagged last, and carry some bytes
    have hrest := hfam.isLastChunk_eq_false_of_perm hds hlast
    have hpos := hfam.sum_length_tail_pos hcs hds h₂
    -- the counts at the end, and the last callback
    obtain ⟨r, hr, hev⟩ := receiveAll_events_getLast? (DataExchange.new nodeID) _ (List.cons_ne_nil _ _) hid
    have hrs := receiveAll_sizes_new nodeID _ hid
    rw [if_neg (List.cons_ne_nil _ _), hr, Option.map_some', Option.some.injEq] at hrs
    have htr : r.transferredSize = B.length := by
      have := congrArg Prod.fst hrs
      rwa [DataTransfer.sizes, foldl_countChunk_fst, Nat.zero_add, hsum] at this
    have htot : r.totalSize = x.1.data.length := by
      have := congrArg Prod.snd hrs
      rwa [DataTransfer.sizes, List.map_cons, List.foldl_cons, foldl_countChunk_snd _ _ hrest,
        countChunk, hlast, if_pos rfl, Nat.zero_add] at this
    refine ⟨r, hr, htot, htr, ?_, hev⟩
    rw [htot, htr, ← hsum, List.map_cons, List.map_cons, List.sum_cons]
    omega

/-- Three bytes in chunks of two, the chunk flagged last delivered first: the record ends with a
total of `1` byte against `3` received, and the last callback reports `3` of `1`. -/
theorem handleDataChunk_progress_lastFirst_three_bytes :
    let c₀ : DataChunk := ⟨7, 0, 2, [1, 2], false⟩
    let c₁ : DataChunk := ⟨7, 1, 2, [3], true⟩
    let ds : List (DataChunk × NodeID × Nat) := [(c₁, 9, 5), (c₀, 9, 6)]
    (0 < 2 ∧ ChunkFamily [1, 2, 3] 2 7 [c₀, c₁] ∧ (ds.map Prod.fst).Perm [c₀, c₁]) ∧
      ∃ r, (receiveAll (DataExchange.new 1) ds).incomingTransfers.find? 7 = some r ∧
        r.totalSize = c₁.data.length ∧ r.transferredSize = 3 ∧ r.totalSize < r.transferredSize ∧
        (receiveAll (DataExchange.new 1) ds).events.getLast? =
          some (.transferProgress 7 r.transferredSize r.totalSize) := by
  intro c₀ c₁ ds
  have hfam : ChunkFamily [1, 2, 3] 2 7 [c₀, c₁] :=
    ⟨by decide, by decide, by decide, by decide, by decide, by decide⟩
  have hds : (ds.map Prod.fst).Perm [c₀, c₁] := by decide
  exact ⟨⟨by decide, hfam, hds⟩,
    (handleDataChunk_progress_lastFirst (by decide) hfam 1 ds hds).2 (by decide) _ rfl rfl⟩

/-! ### The round trip of the chunks -/

/-- Once every chunk of the family is held, the receiver answers with the payload and reports
the transfer complete. -/
theorem Holds.getReceivedData_of_full {B : Bytes} {k : Nat} {t : UInt64} {d : DataExchange}
    {P : List DataChunk} (h : Holds B k t d P) (hk : 0 < k) (hP : P.length = k) :
    d.getReceivedData t = B ∧ d.isTransferComplete t = true := by
  have hne : P ≠ [] := List.ne_nil_of_length_pos (hP ▸ hk)
  refine ⟨?_, ?_⟩
  · rw [DataExchange.getReceivedData, StdMap.findD, h.published, if_pos hP]; rfl
  · rw [DataExchange.isTransferComplete_eq, h.status, if_neg hne, if_pos hP]; rfl

/-- **The chunks `splitData` makes reassemble to the payload.**  Cut a non-empty payload at a
positive chunk size whose sum with the payload size does not wrap and whose chunk count fits in
`uint32_t`.  Then `splitData` returns chunks, and a receiver that passes them to
`handleDataChunk`, each once and in any order, among chunks of other transfers, ends with the
payload as the transfer's data and the transfer complete.  Nothing in the program carries the
chunks from one side to the other (see `SendCall`): this is the round trip of the chunk format
itself. -/
theorem splitData_receiveAll {B : Bytes} {cs : Nat} (t : UInt64) (hB : B ≠ []) (hcs : 0 < cs)
    (hwrap : B.length + cs - 1 < 2 ^ 64) (htrunc : (B.length + cs - 1) / cs < 2 ^ 32) :
    ∃ chunks, splitData cs B t = some chunks ∧
      ∀ (nodeID : NodeID) (ds : List (DataChunk × NodeID × Nat)), (arrivals t ds).Perm chunks →
        (receiveAll (DataExchange.new nodeID) ds).getReceivedData t = B ∧
          (receiveAll (DataExchange.new nodeID) ds).isTransferComplete t = true := by
  obtain ⟨chunks, hs, hfam⟩ := splitData_family t hcs hwrap htrunc
  refine ⟨chunks, hs, fun nodeID ds hds => ?_⟩
  have h := Holds.run hfam hB hcs ds (Holds.new nodeID (hfam.length_pos hB hcs))
    (hds.nodup_iff.2 hfam.nodup) fun x hx => hds.subset hx
  rw [List.nil_append] at h
  exact h.getReceivedData_of_full (hfam.length_pos hB hcs) hds.length_eq

/-- Three bytes in chunks of two for transfer `7`. -/
theorem splitData_receiveAll_three_bytes :
    let B : Bytes := [1, 2, 3]
    (B ≠ [] ∧ 0 < 2 ∧ B.length + 2 - 1 < 2 ^ 64 ∧ (B.length + 2 - 1) / 2 < 2 ^ 32) ∧
      ∃ chunks, splitData 2 B 7 = some chunks ∧
        ∀ (nodeID : NodeID) (ds : List (DataChunk × NodeID × Nat)), (arrivals 7 ds).Perm chunks →
          (receiveAll (DataExchange.new nodeID) ds).getReceivedData 7 = B ∧
            (receiveAll (DataExchange.new nodeID) ds).isTransferComplete 7 = true :=
  ⟨⟨by decide, by decide, by decide, by decide⟩,
    splitData_receiveAll 7 (by decide) (by decide) (by decide) (by decide)⟩

end P2POverlay
