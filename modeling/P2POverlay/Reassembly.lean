/-
**Reassembly does not depend on the order of arrival** (`handleDataChunk`, `reassembleData`).

A payload `B` cut at chunk size `cs` for transfer `t` is the *chunk family* of `B`: chunk `i`,
for `i < k = ⌈|B| / cs⌉`, carries the ID `t`, the sequence number `i`, the count `k` and the
bytes `B[i * cs, min ((i + 1) * cs, |B|))`.  The receiver stores the chunks of a transfer in a
map keyed by sequence number, so whatever the order of arrival, the map holds exactly the chunks
that have arrived; `reassembleData` refuses while fewer than `k` are there and concatenates the
`k` of them in key order once all are.

The proof follows one transfer through a run of `handleDataChunk`: `Holds B k t d P` says what
the state `d` holds of `t` once the chunks `P` of the family have arrived.  A chunk of another
transfer leaves it as it is (`Holds.of_ne`), a new chunk of the family extends `P`
(`Holds.arrive`), and so it holds along every run (`Holds.receiveAll`).

Main definitions:

* `P2POverlay.ChunkFamily` — the chunks of a payload, as the receiver expects them;
* `P2POverlay.receiveAll` — `handleDataChunk` on a list of deliveries, and
  `P2POverlay.arrivals` — the chunks of one transfer among them;
* `P2POverlay.Stored`, `P2POverlay.Holds` — the chunk map of a transfer, and the receiver's
  tables, after a set of chunks has arrived.

Main results:

* `P2POverlay.Stored.payload_of_lt`, `P2POverlay.Stored.payload_of_all` — the check of
  `reassembleData` on a partial and on a complete chunk map;
* `P2POverlay.Holds.receiveAll` — the run lemma;
* `P2POverlay.receiveAll_reassembles` — **on every interleaving of the chunks of `B`, each
  delivered once, with chunks of other transfers, the payload is absent and the transfer
  incomplete until the last chunk arrives, and from then on the payload is `B` and the transfer
  complete**.
-/

import P2POverlay.DataExchange

set_option relaxedAutoImplicit false
set_option autoImplicit false

namespace P2POverlay

open DataExchange

/-! ### The chunk family of a payload -/

/-- The chunks of payload `B` cut at `chunkSize` for transfer `t`, in sequence order: chunk `i`
carries `t`, the number `i`, the count of chunks, the `i`-th slice of `B`, and the last-chunk
flag exactly when it is the last. -/
structure ChunkFamily (B : Bytes) (chunkSize : Nat) (t : UInt64) (chunks : List DataChunk) :
    Prop where
  length : chunks.length = (B.length + chunkSize - 1) / chunkSize
  chunkID : ∀ c ∈ chunks, c.chunkID = t
  totalChunks : ∀ c ∈ chunks, c.totalChunks.toNat = chunks.length
  sequenceNumber : ∀ i (h : i < chunks.length), chunks[i].sequenceNumber.toNat = i
  data : ∀ i (h : i < chunks.length), chunks[i].data = (B.drop (i * chunkSize)).take chunkSize
  isLastChunk : ∀ i (h : i < chunks.length), chunks[i].isLastChunk = decide (i = chunks.length - 1)

namespace ChunkFamily

variable {B : Bytes} {cs : Nat} {t : UInt64} {chunks : List DataChunk}

/-- A chunk of the family is determined by its sequence number. -/
theorem eq_of_sequenceNumber (h : ChunkFamily B cs t chunks) {c c' : DataChunk} (hc : c ∈ chunks)
    (hc' : c' ∈ chunks) (hs : c.sequenceNumber = c'.sequenceNumber) : c = c' := by
  obtain ⟨i, hi, rfl⟩ := List.mem_iff_getElem.1 hc
  obtain ⟨j, hj, rfl⟩ := List.mem_iff_getElem.1 hc'
  obtain rfl : i = j := by rw [← h.sequenceNumber i hi, ← h.sequenceNumber j hj, hs]
  rfl

theorem nodup (h : ChunkFamily B cs t chunks) : chunks.Nodup :=
  List.nodup_iff_injective_get.2 fun i j hij => Fin.ext <| by
    simpa [h.sequenceNumber] using congrArg (fun c => c.sequenceNumber.toNat) hij

/-- A non-empty payload has at least one chunk. -/
theorem length_pos (h : ChunkFamily B cs t chunks) (hB : B ≠ []) (hcs : 0 < cs) :
    0 < chunks.length := by
  have : 0 < B.length := List.length_pos.2 hB
  rw [h.length]; exact Nat.div_pos (by omega) hcs

/-- The chunks cover the payload. -/
theorem length_le_mul (h : ChunkFamily B cs t chunks) (hcs : 0 < cs) :
    B.length ≤ chunks.length * cs := by
  have := Nat.lt_div_mul_add (a := B.length + cs - 1) hcs
  rw [h.length]; omega

end ChunkFamily

/-- The first `m` slices of `B`, concatenated, are its first `m * cs` bytes. -/
theorem flatMap_slices (B : Bytes) (cs m : Nat) :
    (List.range m).flatMap (fun i => (B.drop (i * cs)).take cs) = B.take (m * cs) := by
  induction m with
  | zero => simp
  | succ m ih => rw [List.range_succ, List.flatMap_append, ih, Nat.succ_mul, List.take_add]; simp

/-! ### The chunk map of one transfer -/

/-- The chunk map of a transfer holds exactly the chunks `P`, each under its own sequence
number. -/
structure Stored (M : StdMap UInt32 DataChunk) (P : List DataChunk) : Prop where
  entry : ∀ e ∈ M.entries, e.2.sequenceNumber = e.1 ∧ e.2 ∈ P
  find : ∀ c ∈ P, M.find? c.sequenceNumber = some c
  size : M.size = P.length

namespace Stored

variable {M : StdMap UInt32 DataChunk} {P : List DataChunk}

theorem empty : Stored .empty [] := ⟨by simp [StdMap.empty], by simp, rfl⟩

/-- Storing a new chunk whose sequence number no stored chunk shares. -/
theorem insert (h : Stored M P) {c : DataChunk} (hc : c ∉ P)
    (hinj : ∀ c' ∈ P, c'.sequenceNumber = c.sequenceNumber → c' = c) :
    Stored (M.insert c.sequenceNumber c) (P ++ [c]) where
  entry e he := by
    rcases Entries.mem_insert he with rfl | he
    · simp
    · exact ⟨(h.entry e he).1, List.mem_append_left _ (h.entry e he).2⟩
  find c' hc' := by
    rcases List.mem_append.1 hc' with hc' | hc'
    · have : c'.sequenceNumber ≠ c.sequenceNumber := fun hs => hc (hinj c' hc' hs ▸ hc')
      simp [this, h.find c' hc']
    · simp [List.mem_singleton.1 hc']
  size := by
    have hnew : c.sequenceNumber ∉ M := fun hm => by
      obtain ⟨e, he, hk⟩ := List.mem_map.1 (StdMap.mem_iff_mem_keys.1 hm)
      obtain ⟨hs, hP⟩ := h.entry e he
      exact hc (hinj e.2 hP (hs.trans hk) ▸ hP)
    rw [StdMap.size_insert, if_neg hnew, h.size, List.length_append, List.length_singleton]

/-- While fewer chunks than announced are stored, `reassembleData` finds no payload. -/
theorem payload_of_lt (h : Stored M P) {k : Nat} (hk : ∀ c ∈ P, c.totalChunks.toNat = k)
    (hlt : P.length < k) : reassembledPayload M = none := by
  unfold reassembledPayload
  split
  · rfl
  · rename_i first _ hfirst
    have hP := (h.entry first (hfirst ▸ List.mem_cons_self _ _)).2
    rw [if_pos (by rw [h.size, hk _ hP]; exact hlt)]

/-- The loop of `reassembleData` over numbers that are all stored. -/
theorem reassembleLoop_of_find (M : StdMap UInt32 DataChunk) (f : Nat → Bytes) :
    ∀ is : List Nat, (∀ i ∈ is, ∃ c, M.find? (UInt32.ofNat i) = some c ∧ c.data = f i) →
      reassembleLoop M is = some (is.flatMap f)
  | [], _ => rfl
  | i :: is, h => by
      obtain ⟨c, hc, hd⟩ := h i (List.mem_cons_self _ _)
      rw [reassembleLoop, hc, reassembleLoop_of_find M f is fun j hj => h j (List.mem_cons_of_mem _ hj)]
      simp [hd]

/-- Once every chunk of the family is stored, `reassembleData` finds the payload. -/
theorem payload_of_perm {B : Bytes} {cs : Nat} {t : UInt64} {chunks : List DataChunk}
    (hfam : ChunkFamily B cs t chunks) (hB : B ≠ []) (hcs : 0 < cs) (h : Stored M P)
    (hperm : P.Perm chunks) : reassembledPayload M = some B := by
  have hk := hfam.length_pos hB hcs
  unfold reassembledPayload
  split
  · rename_i hnil
    have : P.length = 0 := by rw [← h.size, StdMap.size, hnil]; rfl
    exact absurd (hperm.length_eq ▸ this) (by omega)
  · rename_i first _ hfirst
    have hP := (h.entry first (hfirst ▸ List.mem_cons_self _ _)).2
    rw [hfam.totalChunks _ (hperm.subset hP), if_neg (by rw [h.size, hperm.length_eq]; omega),
      reassembleLoop_of_find M (fun i => (B.drop (i * cs)).take cs), flatMap_slices,
      List.take_of_length_le (hfam.length_le_mul hcs)]
    intro i hi
    have hi : i < chunks.length := List.mem_range.1 hi
    refine ⟨chunks[i], ?_, hfam.data i hi⟩
    have hsize : chunks.length < UInt32.size :=
      hfam.totalChunks _ (List.getElem_mem hi) ▸ UInt32.toNat_lt_size _
    have hseq : UInt32.ofNat i = chunks[i].sequenceNumber :=
      UInt32.toNat.inj (by rw [UInt32.toNat_ofNat_of_lt (by omega), hfam.sequenceNumber i hi])
    rw [hseq]; exact h.find _ (hperm.mem_iff.2 (List.getElem_mem hi))

end Stored

/-! ### The receiver's tables for one transfer -/

/-- What the receiver holds of transfer `t`, whose family has `k` chunks, once the chunks `P` of
the family have arrived: the chunk map holds `P`; the incoming record exists once a chunk has
arrived, `COMPLETED` once all have and `IN_PROGRESS` before; the payload is published once all
have. -/
structure Holds (B : Bytes) (k : Nat) (t : UInt64) (d : DataExchange) (P : List DataChunk) :
    Prop where
  stored : Stored (d.receivedChunks.findD t .empty) P
  status : (d.incomingTransfers.find? t).map (·.status) =
    if P = [] then none else some (if P.length = k then .completed else .inProgress)
  published : d.completedData.find? t = if P.length = k then some B else none

namespace Holds

variable {B : Bytes} {k : Nat} {t : UInt64} {d : DataExchange} {P : List DataChunk}

theorem new (nodeID : NodeID) (hk : 0 < k) : Holds B k t (DataExchange.new nodeID) [] :=
  ⟨Stored.empty, rfl, by rw [if_neg (by simp only [List.length_nil]; omega)]; rfl⟩

/-- A chunk of another transfer leaves what is held of `t`. -/
theorem of_ne (h : Holds B k t d P) {c : DataChunk} (src : NodeID) (now : Nat)
    (hc : t ≠ c.chunkID) : Holds B k t (d.handleDataChunk c src now) P := by
  obtain ⟨h₁, h₂, h₃⟩ := handleDataChunk_find?_of_ne (d := d) src now hc
  exact ⟨by simpa only [StdMap.findD, h₁] using h.stored, h₂ ▸ h.status, h₃ ▸ h.published⟩

/-- A chunk of the family that had not arrived extends what is held. -/
theorem arrive {cs : Nat} {chunks : List DataChunk} (hfam : ChunkFamily B cs t chunks)
    (hB : B ≠ []) (hcs : 0 < cs) (h : Holds B chunks.length t d P) {c : DataChunk} (src : NodeID)
    (now : Nat) (hnd : (P ++ [c]).Nodup) (hsub : ∀ x ∈ P ++ [c], x ∈ chunks) :
    Holds B chunks.length t (d.handleDataChunk c src now) (P ++ [c]) := by
  have hc : c ∈ chunks := hsub c (by simp)
  obtain rfl : c.chunkID = t := hfam.chunkID c hc
  have hsubperm : (P ++ [c]).Subperm chunks := hnd.subperm hsub
  have hlen : P.length + 1 ≤ chunks.length := by simpa using hsubperm.length_le
  have hM := h.stored.insert (c := c) (List.disjoint_singleton.1 (List.nodup_append.1 hnd).2.2)
    fun c' hc' hs => hfam.eq_of_sequenceNumber (hsub c' (by simp [hc'])) hc hs
  have hrecv : (d.storeChunk c src now).receivedChunks.find? c.chunkID =
      some ((d.receivedChunks.findD c.chunkID .empty).insert c.sequenceNumber c) := by simp
  have hrec : (d.receiveRecord c src now).status = .inProgress := by
    rw [receiveRecord_status, h.status]; split_ifs <;> first | rfl | omega
  obtain ⟨h₁, h₂, h₃⟩ := handleDataChunk_tables (d := d) c src now
  have hstored : Stored ((d.handleDataChunk c src now).receivedChunks.findD c.chunkID .empty)
      (P ++ [c]) := by simpa [StdMap.findD, h₁] using hM
  by_cases hfull : (P ++ [c]).length = chunks.length
  · have hre := reassembleData_of_payload (by
      rw [hrecv]; exact hM.payload_of_perm hfam hB hcs (hsubperm.perm_of_length_le hfull.ge))
    rw [hre] at h₂ h₃
    exact ⟨hstored, by simp [h₂, hrec, DataTransfer.complete, hfull], by simp [h₃, hfull]⟩
  · rw [List.length_append, List.length_singleton] at hfull
    have hre := reassembleData_of_no_payload (by
      rw [hrecv]; exact hM.payload_of_lt (fun x hx => hfam.totalChunks x (hsub x hx)) (by simp; omega))
    rw [hre] at h₂ h₃
    refine ⟨hstored, by simp [h₂, hrec, hfull], ?_⟩
    rw [h₃, storeChunk_completedData, h.published, if_neg (by omega), List.length_append,
      List.length_singleton, if_neg hfull]

end Holds

/-! ### Runs -/

/-- `handleDataChunk` on each delivery `(chunk, sourceID, now)` in turn. -/
def receiveAll (d : DataExchange) (ds : List (DataChunk × NodeID × Nat)) : DataExchange :=
  ds.foldl (fun d x => d.handleDataChunk x.1 x.2.1 x.2.2) d

/-- The chunks of transfer `t` among the deliveries, in order of arrival. -/
def arrivals (t : UInt64) (ds : List (DataChunk × NodeID × Nat)) : List DataChunk :=
  (ds.map Prod.fst).filter (·.chunkID == t)

theorem arrivals_cons (t : UInt64) (x : DataChunk × NodeID × Nat) (ds : List (DataChunk × NodeID × Nat)) :
    arrivals t (x :: ds) = if x.1.chunkID = t then x.1 :: arrivals t ds else arrivals t ds := by
  by_cases hx : x.1.chunkID = t <;> simp [arrivals, List.filter_cons, hx]

/-- The run lemma: what is held of `t` grows by the arrivals of `t`, as long as they are new
chunks of the family. -/
theorem Holds.run {B : Bytes} {cs : Nat} {t : UInt64} {chunks : List DataChunk}
    (hfam : ChunkFamily B cs t chunks) (hB : B ≠ []) (hcs : 0 < cs) :
    ∀ {d : DataExchange} {P : List DataChunk} (ds : List (DataChunk × NodeID × Nat)),
      Holds B chunks.length t d P → (P ++ arrivals t ds).Nodup →
      (∀ x ∈ P ++ arrivals t ds, x ∈ chunks) →
      Holds B chunks.length t (receiveAll d ds) (P ++ arrivals t ds)
  | _, _, [], h, _, _ => by simpa [receiveAll, arrivals] using h
  | d, P, x :: ds, h, hnd, hsub => by
      by_cases hx : x.1.chunkID = t
      · have happ : P ++ arrivals t (x :: ds) = P ++ [x.1] ++ arrivals t ds := by
          simp [arrivals_cons, hx]
        rw [happ] at hnd hsub ⊢
        exact Holds.run hfam hB hcs ds (h.arrive hfam hB hcs x.2.1 x.2.2
          (hnd.sublist (List.sublist_append_left _ _)) fun y hy => hsub y (List.mem_append_left _ hy))
          hnd hsub
      · rw [arrivals_cons, if_neg hx] at hnd hsub ⊢
        exact Holds.run hfam hB hcs ds (h.of_ne x.2.1 x.2.2 (Ne.symm hx)) hnd hsub

/-- **Reassembly does not depend on the order of arrival.**  Deliver the chunks of `B`, each once
and in any order, interleaved with chunks of other transfers.  After every prefix of the
deliveries, while some chunk of `B` is missing, `completedData_` has no entry for `t` and the
transfer is not complete; once all have arrived, `getReceivedData` is `B` and the transfer is
complete. -/
theorem receiveAll_reassembles {B : Bytes} {cs : Nat} {t : UInt64} {chunks : List DataChunk}
    (hB : B ≠ []) (hcs : 0 < cs) (hfam : ChunkFamily B cs t chunks) (nodeID : NodeID)
    (ds : List (DataChunk × NodeID × Nat)) (hds : (arrivals t ds).Perm chunks) (n : Nat) :
    let d := receiveAll (DataExchange.new nodeID) (ds.take n)
    ((arrivals t (ds.take n)).length < chunks.length →
        d.completedData.find? t = none ∧ d.isTransferComplete t = false) ∧
      ((arrivals t (ds.take n)).length = chunks.length →
        d.getReceivedData t = B ∧ d.isTransferComplete t = true) := by
  have hsubl : (arrivals t (ds.take n)).Sublist (arrivals t ds) :=
    ((List.take_sublist n ds).map _).filter _
  have h := Holds.run hfam hB hcs (ds.take n) (Holds.new nodeID (hfam.length_pos hB hcs))
    (hsubl.nodup (hds.nodup_iff.2 hfam.nodup)) fun x hx => hds.subset (hsubl.subset hx)
  rw [List.nil_append] at h
  have hstatus := h.status
  refine ⟨fun hlt => ⟨?_, ?_⟩, fun heq => ⟨?_, ?_⟩⟩
  · rw [h.published, if_neg hlt.ne]
  · rw [DataExchange.isTransferComplete_eq, hstatus, if_neg hlt.ne]; split_ifs <;> rfl
  · rw [DataExchange.getReceivedData, StdMap.findD, h.published, if_pos heq]; rfl
  · have hne : arrivals t (ds.take n) ≠ [] :=
      List.ne_nil_of_length_pos (heq ▸ hfam.length_pos hB hcs)
    rw [DataExchange.isTransferComplete_eq, hstatus, if_neg hne, if_pos heq]; rfl

/-- Three bytes in chunks of two, the second chunk delivered first, a chunk of another transfer
in between: after all three deliveries the payload is reassembled. -/
theorem receiveAll_reassembles_three_bytes :
    let c₀ : DataChunk := ⟨7, 0, 2, [1, 2], false⟩
    let c₁ : DataChunk := ⟨7, 1, 2, [3], true⟩
    let ds : List (DataChunk × NodeID × Nat) := [(c₁, 9, 5), (⟨8, 0, 1, [4], true⟩, 9, 5), (c₀, 9, 6)]
    ([1, 2, 3] : Bytes) ≠ [] ∧ 0 < 2 ∧ ChunkFamily [1, 2, 3] 2 7 [c₀, c₁] ∧
      (arrivals 7 ds).Perm [c₀, c₁] ∧
      ((arrivals 7 (ds.take 3)).length = 2 →
        (receiveAll (DataExchange.new 1) (ds.take 3)).getReceivedData 7 = [1, 2, 3] ∧
          (receiveAll (DataExchange.new 1) (ds.take 3)).isTransferComplete 7 = true) := by
  intro c₀ c₁ ds
  have hfam : ChunkFamily [1, 2, 3] 2 7 [c₀, c₁] :=
    ⟨by decide, by decide, by decide, by decide, by decide, by decide⟩
  have hds : (arrivals 7 ds).Perm [c₀, c₁] := by decide
  exact ⟨by decide, by decide, hfam, hds,
    (receiveAll_reassembles (by decide) (by decide) hfam 1 ds hds 3).2⟩

end P2POverlay
