/-
**Little-endian integers and the node-list encoding** (`MessageHandler::serializeNodeList`,
`MessageHandler::deserializeNodeList`).

The source copies integers to and from byte buffers with `memcpy`, which on the targets it is
built for writes them least significant byte first; the spec fixes the wire format as
little-endian.  `leBytes w v` is the `w`-byte little-endian image of `v` and `leValue` reads one
back.

A node list is a `uint32_t` count followed by that many 8-byte IDs.  The count is
`static_cast<uint32_t>(nodes.size())`, and the copy writes `count` IDs, so a list of `2^32` IDs
or more is truncated; `count * sizeof(NodeID)` is computed in `size_t` and does not wrap.

Main definitions:

* `P2POverlay.leBytes`, `P2POverlay.leValue`;
* `P2POverlay.serializeNodeList`, `P2POverlay.deserializeNodeList`, with the ID loop
  `P2POverlay.decodeIDs`.

Main results:

* `P2POverlay.leValue_leBytes` — reading back a little-endian image gives the value modulo
  `256 ^ w`;
* `P2POverlay.leBytes_leValue` — and a byte string is the image of its value;
* `P2POverlay.take_leBytes`, `P2POverlay.length_leBytes`, `P2POverlay.length_serializeNodeList`;
* `P2POverlay.deserializeNodeList_serializeNodeList` — the round trip below `2 ^ 32` IDs;
* `P2POverlay.serializeNodeList_deserializeNodeList_prefix` — what the decoder accepts is an
  encoding that fits in its input.
-/

import P2POverlay.Common

set_option relaxedAutoImplicit false
set_option autoImplicit false

namespace P2POverlay

/-! ### Little-endian integers -/

/-- The `w` low bytes of `v`, least significant first. -/
def leBytes : Nat → Nat → Bytes
  | 0, _ => []
  | w + 1, v => UInt8.ofNat (v % 256) :: leBytes w (v / 256)

/-- The value of a little-endian byte string. -/
def leValue : Bytes → Nat
  | [] => 0
  | b :: bs => b.toNat + 256 * leValue bs

@[simp] theorem leValue_nil : leValue [] = 0 := rfl

@[simp] theorem leValue_cons (b : UInt8) (bs : Bytes) :
    leValue (b :: bs) = b.toNat + 256 * leValue bs := rfl

@[simp] theorem length_leBytes (w v : Nat) : (leBytes w v).length = w := by
  induction w generalizing v with
  | zero => rfl
  | succ w ih => simp [leBytes, ih]

theorem toNat_ofNat_mod (v : Nat) : (UInt8.ofNat (v % 256)).toNat = v % 256 :=
  UInt8.toNat_ofNat_of_lt (Nat.mod_lt _ (by decide))

/-- Reading back a little-endian image gives the value modulo `256 ^ w`. -/
theorem leValue_leBytes (w v : Nat) : leValue (leBytes w v) = v % 256 ^ w := by
  induction w generalizing v with
  | zero => simp [leBytes, Nat.mod_one]
  | succ w ih =>
      rw [leBytes, leValue_cons, ih, toNat_ofNat_mod, Nat.pow_succ', Nat.mod_mul]

/-- The first `k` bytes of a `w`-byte image are the `min k w`-byte image. -/
theorem take_leBytes (k w v : Nat) : (leBytes w v).take k = leBytes (min k w) v := by
  induction w generalizing k v with
  | zero => simp [leBytes]
  | succ w ih =>
      cases k with
      | zero => simp [leBytes]
      | succ k => simp [leBytes, ih, Nat.succ_min_succ]

/-- A string of `w` bytes holds a value below `256 ^ w`. -/
theorem leValue_lt (bs : Bytes) : leValue bs < 256 ^ bs.length := by
  induction bs with
  | nil => simp
  | cons b bs ih =>
      have hb := b.toNat_lt
      rw [leValue_cons, List.length_cons, Nat.pow_succ']
      omega

/-- A byte string is the little-endian image of its value. -/
theorem leBytes_leValue (bs : Bytes) : leBytes bs.length (leValue bs) = bs := by
  induction bs with
  | nil => rfl
  | cons b bs ih =>
      have hb : b.toNat < 256 := b.toNat_lt
      rw [List.length_cons, leBytes, leValue_cons, Nat.add_mul_mod_self_left, Nat.mod_eq_of_lt hb,
        Nat.add_mul_div_left _ _ (by decide), Nat.div_eq_of_lt hb, Nat.zero_add, ih,
        UInt8.toNat.inj (UInt8.toNat_ofNat_of_lt hb)]

@[simp] theorem leValue_append (bs cs : Bytes) :
    leValue (bs ++ cs) = leValue bs + 256 ^ bs.length * leValue cs := by
  induction bs with
  | nil => simp
  | cons b bs ih => simp [ih, Nat.pow_succ', Nat.mul_add, Nat.mul_assoc, Nat.add_assoc]

/-! ### Node lists -/

/-- The loop of `deserializeNodeList`: `count` IDs of 8 bytes each. -/
def decodeIDs : Nat → Bytes → List NodeID
  | 0, _ => []
  | count + 1, bs => UInt64.ofNat (leValue (bs.take 8)) :: decodeIDs count (bs.drop 8)

/-- `serializeNodeList`: the count as `uint32_t`, then the first `count` IDs. -/
def serializeNodeList (nodes : List NodeID) : Bytes :=
  let count := nodes.length % 2 ^ 32
  leBytes 4 count ++ (nodes.take count).flatMap fun id => leBytes 8 id.toNat

/-- `deserializeNodeList`: empty if there is no count, or fewer bytes than the count needs;
otherwise `count` IDs after the count. -/
def deserializeNodeList (data : Bytes) : List NodeID :=
  if data.length < 4 then []
  else
    let count := leValue (data.take 4)
    let expectedSize := 4 + count * 8
    if data.length < expectedSize then [] else decodeIDs count (data.drop 4)

@[simp] theorem length_decodeIDs (count : Nat) (bs : Bytes) : (decodeIDs count bs).length = count := by
  induction count generalizing bs with
  | zero => rfl
  | succ n ih => simp [decodeIDs, ih]

/-- The ID loop reads back the images of the IDs, whatever follows them. -/
theorem decodeIDs_flatMap (nodes : List NodeID) (rest : Bytes) :
    decodeIDs nodes.length ((nodes.flatMap fun id => leBytes 8 id.toNat) ++ rest) = nodes := by
  induction nodes with
  | nil => rfl
  | cons id nodes ih =>
      have h8 : (leBytes 8 id.toNat).length = 8 := length_leBytes 8 _
      simp only [List.length_cons, decodeIDs, List.flatMap_cons, List.append_assoc,
        List.take_left' h8, List.drop_left' h8, ih, leValue_leBytes,
        Nat.mod_eq_of_lt (show id.toNat < 256 ^ 8 from id.toNat_lt),
        UInt64.toNat.inj (UInt64.toNat_ofNat_of_lt id.toNat_lt)]

/-- The images of the IDs the loop reads are the bytes it read. -/
theorem flatMap_decodeIDs (count : Nat) (bs : Bytes) (h : 8 * count ≤ bs.length) :
    (decodeIDs count bs).flatMap (fun id => leBytes 8 id.toNat) = bs.take (8 * count) := by
  induction count generalizing bs with
  | zero => simp [decodeIDs]
  | succ n ih =>
      have h8 : (bs.take 8).length = 8 := by simp; omega
      have hb : leBytes 8 (leValue (bs.take 8)) = bs.take 8 := by
        have := leBytes_leValue (bs.take 8); rwa [h8] at this
      have hv : (UInt64.ofNat (leValue (bs.take 8))).toNat = leValue (bs.take 8) :=
        UInt64.toNat_ofNat_of_lt (by simpa [h8] using leValue_lt (bs.take 8))
      rw [decodeIDs, List.flatMap_cons, hv, hb, ih _ (by simp; omega), Nat.mul_succ, Nat.add_comm,
        List.take_add]

theorem length_flatMap_leBytes (nodes : List NodeID) :
    (nodes.flatMap fun id => leBytes 8 id.toNat).length = 8 * nodes.length := by
  induction nodes with
  | nil => rfl
  | cons id nodes ih => simp [List.flatMap_cons, ih]; omega

/-- A list shorter than `2 ^ 32` is encoded in `4 + 8 n` bytes. -/
theorem length_serializeNodeList {nodes : List NodeID} (h : nodes.length < 2 ^ 32) :
    (serializeNodeList nodes).length = 4 + 8 * nodes.length := by
  simp only [serializeNodeList, List.length_append, length_leBytes, Nat.mod_eq_of_lt h,
    List.take_length, length_flatMap_leBytes]

/-- The round trip: a list of fewer than `2 ^ 32` IDs is decoded from its encoding. -/
theorem deserializeNodeList_serializeNodeList {nodes : List NodeID} (h : nodes.length < 2 ^ 32) :
    deserializeNodeList (serializeNodeList nodes) = nodes := by
  have hlen := length_serializeNodeList h
  have hcount : leValue ((serializeNodeList nodes).take 4) = nodes.length := by
    rw [serializeNodeList, Nat.mod_eq_of_lt h, List.take_left' (length_leBytes 4 _), leValue_leBytes,
      Nat.mod_eq_of_lt (show nodes.length < 256 ^ 4 from h)]
  rw [deserializeNodeList, if_neg (by omega), hcount, if_neg (by omega), serializeNodeList,
    Nat.mod_eq_of_lt h, List.drop_left' (length_leBytes 4 _), List.take_length, ← List.append_nil
      (nodes.flatMap _), decodeIDs_flatMap]

/-- What the decoder accepts is an encoding: unless it gives up with `[]`, the encoding of the
list it returns is a prefix of its input, so it read nothing beyond the input. -/
theorem serializeNodeList_deserializeNodeList_prefix (data : Bytes) :
    deserializeNodeList data = [] ∨ serializeNodeList (deserializeNodeList data) <+: data := by
  unfold deserializeNodeList
  dsimp only
  split_ifs
  · exact .inl rfl
  · exact .inl rfl
  · right
    have h4 : (data.take 4).length = 4 := by simp; omega
    have hc : leValue (data.take 4) < 2 ^ 32 := by simpa [h4] using leValue_lt (data.take 4)
    have hb : leBytes 4 (leValue (data.take 4)) = data.take 4 := by
      have := leBytes_leValue (data.take 4); rwa [h4] at this
    rw [serializeNodeList, length_decodeIDs, Nat.mod_eq_of_lt hc, hb,
      List.take_of_length_le (length_decodeIDs _ _).le, flatMap_decodeIDs _ _ (by simp; omega),
      ← List.take_add]
    exact List.take_prefix _ _

end P2POverlay
