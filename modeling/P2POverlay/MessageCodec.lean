/-
**The message codec** (`NetworkManager::serializeMessage`, `NetworkManager::deserializeMessage`).

`serializeMessage` writes a 29-byte header, the type byte at offset `0`, the sender, the receiver
and the timestamp as 8-byte little-endian integers at offsets `1`, `9` and `17`, and the payload
length as a `uint32_t` at offset `25`, followed by the whole payload.  `deserializeMessage` reads
into a `Message` the caller passes: it refuses a buffer shorter than the header, and otherwise
overwrites the four header fields and returns `true`.  The payload is overwritten only when the
declared length is positive and the buffer holds that many bytes after the header.  So the empty
payload of a message is never written back, and a buffer cut short inside the payload is
accepted, with the header of the new message and the payload of the old one.

`MessageType` is an `enum class` over `uint8_t`, and a `memcpy` into it stores any byte, an
enumerator or not.  The codec is therefore modelled on `WireMessage`, a `Message` whose type is
that byte; `Message.toWire` embeds the messages the program builds.

Main definitions:

* `P2POverlay.WireMessage`, `P2POverlay.Message.toWire`;
* `P2POverlay.encodeHeader`, `P2POverlay.readHeader`, `P2POverlay.readPayloadSize` — the header
  fields as the `memcpy` calls write and read them, shared with the socket code;
* `P2POverlay.serializeMessage`, `P2POverlay.deserializeMessage`.

Main results:

* `P2POverlay.readHeader_encodeHeader` — a header is read back, whatever follows it;
* `P2POverlay.deserializeMessage_encodeHeader` — what the decoder makes of a header and any bytes
  after it;
* `P2POverlay.deserializeMessage_stale_payload` — **a buffer is accepted as soon as it holds a
  header; the round trip keeps the old payload when the message has none, and a buffer cut
  inside the payload is accepted with the old payload**;
* `P2POverlay.serializeMessage_deserializeMessage` — what is accepted with its payload is an
  encoding: its header and payload are the buffer's first bytes.
-/

import P2POverlay.Wire

set_option relaxedAutoImplicit false
set_option autoImplicit false

namespace P2POverlay

/-! ### Messages as bytes in memory -/

/-- A `Message` as its fields lie in memory: `type` is the `uint8_t` under the enum. -/
structure WireMessage where
  type : UInt8
  senderID : NodeID
  receiverID : NodeID
  payload : Bytes
  timestamp : UInt64
  deriving DecidableEq, Repr

/-- `Message()`: a `DATA_MESSAGE` with zero identifiers, no payload and timestamp `0`. -/
instance instInhabitedWireMessage : Inhabited WireMessage := ⟨⟨MessageType.dataMessage.toUInt8, 0, 0, [], 0⟩⟩

/-- A message the program builds, as it lies in memory. -/
def Message.toWire (m : Message) : WireMessage :=
  ⟨m.type.toUInt8, m.senderID, m.receiverID, m.payload, m.timestamp⟩

theorem Message.toWire_default : (default : Message).toWire = default := rfl

/-- The enumerator of `MessageType` a `uint8_t` holds; none for a byte outside `1`–`12`. -/
def MessageType.ofUInt8? (b : UInt8) : Option MessageType :=
  [MessageType.joinRequest, .joinResponse, .leaveNotification, .heartbeat, .dataMessage,
    .topologyUpdate, .peerDiscovery, .routeMessage, .messageAck, .dataChunk, .transferRequest,
    .transferResponse].find? (·.toUInt8 = b)

/-- A message in memory as `processMessage` dispatches it: by the enumerator its type byte holds,
`none` when it holds none, for which the handler table has no entry. -/
def WireMessage.toMessage? (w : WireMessage) : Option Message :=
  (MessageType.ofUInt8? w.type).map fun type => ⟨type, w.senderID, w.receiverID, w.payload, w.timestamp⟩

/-- A message the program builds reads back as itself. -/
@[simp] theorem Message.toWire_toMessage? (m : Message) : m.toWire.toMessage? = some m := by
  obtain ⟨type, _, _, _, _⟩ := m
  cases type <;> rfl

/-! ### The header -/

/-- `sizeof(MessageType) + 2 * sizeof(NodeID) + sizeof(uint64_t) + sizeof(uint32_t)`. -/
def headerSize : Nat := 29

/-- The `width` bytes at `offset`, as a `memcpy` into a little-endian integer reads them. -/
def readLE (bs : Bytes) (offset width : Nat) : Nat := leValue ((bs.drop offset).take width)

/-- The header as the `memcpy` calls write it: type, sender, receiver, timestamp, and the payload
length cut to a `uint32_t`. -/
def encodeHeader (msg : WireMessage) : Bytes :=
  msg.type :: (leBytes 8 msg.senderID.toNat ++ leBytes 8 msg.receiverID.toNat ++
    leBytes 8 msg.timestamp.toNat ++ leBytes 4 (msg.payload.length % 2 ^ 32))

/-- The four header fields of `bs` copied into `msg`, at offsets `0`, `1`, `9` and `17`; the
payload of `msg` is kept. -/
def readHeader (bs : Bytes) (msg : WireMessage) : WireMessage :=
  { msg with type := bs.headD 0
             senderID := UInt64.ofNat (readLE bs 1 8)
             receiverID := UInt64.ofNat (readLE bs 9 8)
             timestamp := UInt64.ofNat (readLE bs 17 8) }

/-- The payload length declared at offset `25`. -/
def readPayloadSize (bs : Bytes) : Nat := readLE bs 25 4

@[simp] theorem length_encodeHeader (msg : WireMessage) : (encodeHeader msg).length = headerSize := by
  simp [encodeHeader, headerSize]

theorem leValue_leBytes_toNat (x : UInt64) : leValue (leBytes 8 x.toNat) = x.toNat := by
  rw [leValue_leBytes, Nat.mod_eq_of_lt (show x.toNat < 256 ^ 8 from x.toNat_lt)]

theorem ofNat_toNat (x : UInt64) : UInt64.ofNat x.toNat = x :=
  UInt64.toNat.inj (UInt64.toNat_ofNat_of_lt x.toNat_lt)

/-- A header is read back, whatever follows it. -/
theorem readHeader_encodeHeader (msg msg₀ : WireMessage) (rest : Bytes) :
    readHeader (encodeHeader msg ++ rest) msg₀ = { msg with payload := msg₀.payload } := by
  simp only [readHeader, encodeHeader, List.append_assoc, Nat.reducePow, List.cons_append,
    List.headD_cons, readLE, List.drop_succ_cons, List.drop_append_eq_append_drop, List.drop_zero,
    length_leBytes, zero_le, Nat.sub_eq_zero_of_le, List.take_left', leValue_leBytes_toNat,
    ofNat_toNat, List.drop_left', Nat.reduceLeDiff, List.drop_eq_nil_of_le, Nat.reduceSub,
    List.nil_append]

theorem readPayloadSize_encodeHeader (msg : WireMessage) (rest : Bytes) :
    readPayloadSize (encodeHeader msg ++ rest) = msg.payload.length % 2 ^ 32 := by
  simp only [readPayloadSize, readLE, encodeHeader, List.append_assoc, Nat.reducePow,
    List.cons_append, List.drop_succ_cons, List.drop_append_eq_append_drop, length_leBytes,
    Nat.reduceLeDiff, List.drop_eq_nil_of_le, Nat.reduceSub, List.drop_left', List.nil_append,
    List.drop_zero, List.take_left', leValue_leBytes, dvd_refl, Nat.mod_mod_of_dvd]

/-! ### The codec -/

/-- `serializeMessage`: the header, then the whole payload; it always returns `true`. -/
def serializeMessage (msg : WireMessage) : Bool × Bytes := (true, encodeHeader msg ++ msg.payload)

/-- `deserializeMessage(buffer, msg)`: `false` and `msg` untouched below a header; otherwise the
header fields, and the payload only if it is declared non-empty and present in full. -/
def deserializeMessage (buffer : Bytes) (msg : WireMessage) : Bool × WireMessage :=
  if buffer.length < headerSize then (false, msg)
  else
    let msg := readHeader buffer msg
    let payloadSize := readPayloadSize buffer
    if 0 < payloadSize ∧ headerSize + payloadSize ≤ buffer.length then
      (true, { msg with payload := (buffer.drop headerSize).take payloadSize })
    else (true, msg)

/-- The decoder on a header and the bytes after it: the header fields are those written, and the
payload is taken from `rest` only if it is declared non-empty and `rest` holds all of it. -/
theorem deserializeMessage_encodeHeader (msg msg₀ : WireMessage) (rest : Bytes) :
    deserializeMessage (encodeHeader msg ++ rest) msg₀ =
      (true, if 0 < msg.payload.length % 2 ^ 32 ∧ msg.payload.length % 2 ^ 32 ≤ rest.length
        then { msg with payload := rest.take (msg.payload.length % 2 ^ 32) }
        else { msg with payload := msg₀.payload }) := by
  have hlen : (encodeHeader msg ++ rest).length = headerSize + rest.length := by simp
  have hdrop : (encodeHeader msg ++ rest).drop headerSize = rest :=
    List.drop_left' (length_encodeHeader msg)
  simp only [deserializeMessage, hlen, readHeader_encodeHeader, readPayloadSize_encodeHeader, hdrop,
    Nat.add_le_add_iff_left, if_neg (Nat.not_lt.2 (Nat.le_add_right _ _))]
  split_ifs <;> rfl

/-- The decoder accepts exactly the buffers that hold a header. -/
theorem deserializeMessage_fst (buffer : Bytes) (msg₀ : WireMessage) :
    (deserializeMessage buffer msg₀).1 = decide (headerSize ≤ buffer.length) := by
  unfold deserializeMessage
  dsimp only
  split_ifs <;> simp <;> omega

/-- A refused buffer leaves the output message untouched. -/
theorem deserializeMessage_snd_of_lt {buffer : Bytes} (h : buffer.length < headerSize)
    (msg₀ : WireMessage) : (deserializeMessage buffer msg₀).2 = msg₀ := by
  rw [deserializeMessage, if_pos h]

/-- **The codec keeps stale payloads.**  A buffer is accepted exactly when it holds a header, and
a refused one leaves the output message untouched.  Decoding the encoding of any message with
fewer than `2 ^ 32` payload bytes gives it back, except that a message with no payload gets the
payload the output message already had; and the encoding cut anywhere inside the payload is
still accepted, with the new header fields and the old payload. -/
theorem deserializeMessage_stale_payload :
    (∀ buffer msg₀, (deserializeMessage buffer msg₀).1 = true ↔ headerSize ≤ buffer.length) ∧
      (∀ buffer msg₀, (deserializeMessage buffer msg₀).1 = false →
        (deserializeMessage buffer msg₀).2 = msg₀) ∧
      (∀ m msg₀ : WireMessage, m.payload.length < 2 ^ 32 →
        deserializeMessage (serializeMessage m).2 msg₀ =
          (true, if m.payload = [] then { m with payload := msg₀.payload } else m)) ∧
      (∀ (m msg₀ : WireMessage) (n : Nat), n < m.payload.length → m.payload.length < 2 ^ 32 →
        deserializeMessage ((serializeMessage m).2.take (headerSize + n)) msg₀ =
          (true, { m with payload := msg₀.payload })) := by
  refine ⟨fun buffer msg₀ => ?_, fun buffer msg₀ h => ?_, fun m msg₀ hm => ?_,
    fun m msg₀ n hn hm => ?_⟩
  · simp [deserializeMessage_fst]
  · rw [deserializeMessage_fst, decide_eq_false_iff_not, Nat.not_le] at h
    exact deserializeMessage_snd_of_lt h msg₀
  · rw [serializeMessage, deserializeMessage_encodeHeader, Nat.mod_eq_of_lt hm]
    by_cases hp : m.payload = []
    · simp [hp]
    · have hpos : 0 < m.payload.length := List.length_pos.2 hp
      simp [hp, hpos]
  · rw [serializeMessage, List.take_append_eq_append_take, length_encodeHeader,
      List.take_of_length_le (by simp), Nat.add_sub_cancel_left, deserializeMessage_encodeHeader,
      Nat.mod_eq_of_lt hm, List.length_take, if_neg (by omega)]

/-- A message with no payload decoded into one with a payload keeps the stale payload. -/
example : deserializeMessage (serializeMessage ⟨5, 1, 2, [], 0⟩).2 ⟨5, 0, 0, [7], 0⟩ =
    (true, ⟨5, 1, 2, [7], 0⟩) := by decide

/-! ### What the decoder accepts -/

/-- A byte string of length `w` is the image of its value. -/
theorem leBytes_leValue_of_length {bs : Bytes} {w : Nat} (h : bs.length = w) :
    leBytes w (leValue bs) = bs := h ▸ leBytes_leValue bs

/-- The field read at `offset` is written back as the bytes it was read from. -/
theorem leBytes_readLE (bs : Bytes) (offset w : Nat) (h : offset + w ≤ bs.length) :
    leBytes w (readLE bs offset w) = (bs.drop offset).take w :=
  leBytes_leValue_of_length (by simp; omega)

theorem toNat_ofNat_readLE (bs : Bytes) (offset : Nat) :
    (UInt64.ofNat (readLE bs offset 8)).toNat = readLE bs offset 8 :=
  UInt64.toNat_ofNat_of_lt (show readLE bs offset 8 < 256 ^ 8 from
    lt_of_lt_of_le (leValue_lt _) (Nat.pow_le_pow_right (by decide) (List.length_take_le _ _)))

/-- The header of a decoded message is written back as the first `29` bytes it was read from. -/
theorem encodeHeader_readHeader {bs : Bytes} (h : headerSize ≤ bs.length) (msg : WireMessage)
    (hsize : msg.payload.length % 2 ^ 32 = readPayloadSize bs) :
    encodeHeader (readHeader bs msg) = bs.take headerSize := by
  obtain ⟨b, bs', rfl⟩ : ∃ b bs', bs = b :: bs' := List.exists_cons_of_length_pos (by
    unfold headerSize at h; omega)
  simp only [headerSize, List.length_cons] at h
  have h₁ := leBytes_readLE (b :: bs') 1 8 (by simp; omega)
  have h₉ := leBytes_readLE (b :: bs') 9 8 (by simp; omega)
  have h₁₇ := leBytes_readLE (b :: bs') 17 8 (by simp; omega)
  have h₂₅ := leBytes_readLE (b :: bs') 25 4 (by simp; omega)
  simp only [encodeHeader, readHeader, toNat_ofNat_readLE, List.headD_cons, hsize, readPayloadSize,
    h₁, h₉, h₁₇, h₂₅, headerSize]
  simp only [List.drop_succ_cons, List.take_succ_cons, List.drop_zero, List.cons.injEq, true_and]
  rw [show 28 = 8 + (8 + (8 + 4)) from rfl, List.take_add, List.take_add, List.take_add,
    List.drop_drop, List.drop_drop]
  simp only [List.append_assoc]

theorem readPayloadSize_lt (bs : Bytes) : readPayloadSize bs < 2 ^ 32 :=
  show readLE bs 25 4 < 256 ^ 4 from
    lt_of_lt_of_le (leValue_lt _) (Nat.pow_le_pow_right (by decide) (List.length_take_le _ _))

/-- **What is accepted with its payload is an encoding**: when the decoder takes the payload, the
encoding of the message it returns is the first bytes of the buffer, header and payload. -/
theorem serializeMessage_deserializeMessage {buffer : Bytes} (msg₀ : WireMessage)
    (h : 0 < readPayloadSize buffer ∧ headerSize + readPayloadSize buffer ≤ buffer.length) :
    (serializeMessage (deserializeMessage buffer msg₀).2).2 =
      buffer.take (headerSize + readPayloadSize buffer) := by
  set payload := (buffer.drop headerSize).take (readPayloadSize buffer)
  have hlen : payload.length = readPayloadSize buffer := by simp [payload]; omega
  have hhdr := encodeHeader_readHeader (show headerSize ≤ buffer.length by omega)
    { msg₀ with payload } (by rw [hlen, Nat.mod_eq_of_lt (readPayloadSize_lt buffer)])
  rw [deserializeMessage, if_neg (by omega), if_pos h, serializeMessage, List.take_add]
  exact congrArg (· ++ _) hhdr

/-- The encoding of a two-byte message, with a stray byte after it, is accepted with its
payload. -/
theorem serializeMessage_deserializeMessage_trailing_byte :
    let buffer := (serializeMessage ⟨5, 1, 2, [104, 105], 0⟩).2 ++ [9]
    (0 < readPayloadSize buffer ∧ headerSize + readPayloadSize buffer ≤ buffer.length) ∧
      (serializeMessage (deserializeMessage buffer default).2).2 =
        buffer.take (headerSize + readPayloadSize buffer) :=
  ⟨by decide, serializeMessage_deserializeMessage default (by decide)⟩

end P2POverlay
