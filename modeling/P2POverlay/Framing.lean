/-
**Framing on the socket** (`NetworkManager::sendMessageToPeer`, `PeerConnectionHandler::run`).

`sendMessageToPeer` writes a 32-byte header on the peer's connection, the 29 bytes of
`encodeHeader` followed by the last three bytes of its array `char header[32]`, which it never
sets, and then the payload.  `PeerConnectionHandler::run` serves one connection: one
`receiveBytes` of at most 32 bytes into its own uninitialised array, parsed as soon as it returned
anything, and, if the declared length is positive, one `receiveBytes` of at most that length into
a zero-filled payload; the message then goes to `messageCallback_`.

TCP delivers the bytes in order but splits them as it likes: `receiveBytes(buffer, n)` returns
between one and `n` of the bytes that have arrived.  A *segmentation* of the stream lists what
successive reads can return; `receiveBytes` below returns at most `n` bytes of the first segment,
and every read returns the next bytes of the stream (`P2POverlay.Segmentation.receiveBytes`).

When the first read returns the whole header and the second the whole payload, the callback gets
the message sent.  Nothing makes the reads whole: a first read of `k < 32` bytes is parsed with the
other `32 - k` bytes taken from the receiver's uninitialised array, and a second read of `j` bytes
short of the payload leaves zeros in their place.  The three reserved header bytes are whatever
the sender's array held.

Main definitions:

* `P2POverlay.HeaderBuffer` — a `char[32]` array as it was before the code wrote to it;
* `P2POverlay.frameBytes`, `P2POverlay.NetworkManager.sendMessageToPeer` — what one send writes;
* `P2POverlay.receiveBytes`, `P2POverlay.Segmentation` — reads on a stream split into segments;
* `P2POverlay.PeerConnectionHandler.run` — the message handed to the callback, if any.

Main results:

* `P2POverlay.PeerConnectionHandler.run_header` — the message handed over carries the header
  fields of the first read padded with the receiver's array, whatever the stream;
* `P2POverlay.PeerConnectionHandler.run_of_wholeReads` — whole reads deliver the message sent;
* `P2POverlay.run_partial_reads` — **whole reads deliver the message sent, but a header split
  after `k < 32` bytes is parsed from `k` bytes, a payload split after `j` bytes is delivered with
  zeros in place of the rest, and the reserved bytes are the sender's stack bytes**.
-/

import P2POverlay.MessageCodec
import P2POverlay.StdMap

set_option relaxedAutoImplicit false
set_option autoImplicit false

namespace P2POverlay

/-! ### Sending -/

/-- A `char header[32]` array, with the bytes it held before the code wrote to it. -/
structure HeaderBuffer where
  bytes : Bytes
  length_eq : bytes.length = 32

/-- The 32-byte header `sendMessageToPeer` writes: the header fields, then the last three bytes of
its array as they were. -/
def frameHeader (message : WireMessage) (header : HeaderBuffer) : Bytes :=
  encodeHeader message ++ header.bytes.drop headerSize

/-- What one call of `sendMessageToPeer` writes on the connection: the header, then the payload
when its length cut to `uint32_t` is positive. -/
def frameBytes (message : WireMessage) (header : HeaderBuffer) : Bytes :=
  let payloadSize := message.payload.length % 2 ^ 32
  frameHeader message header ++ if 0 < payloadSize then message.payload.take payloadSize else []

@[simp] theorem length_frameHeader (message : WireMessage) (header : HeaderBuffer) :
    (frameHeader message header).length = 32 := by
  simp [frameHeader, header.length_eq, headerSize]

theorem le_length_frameBytes (message : WireMessage) (header : HeaderBuffer) :
    32 ≤ (frameBytes message header).length := by
  simp [frameBytes]

theorem take_frameBytes (message : WireMessage) (header : HeaderBuffer) :
    (frameBytes message header).take 32 = frameHeader message header :=
  List.take_left' (length_frameHeader _ _)

/-- `NetworkManager`: the bytes written so far on each connection of `activeConnections_`, and
`sentMessageCount_`. -/
structure NetworkManager where
  activeConnections : StdMap NodeID Bytes
  sentMessageCount : Nat

/-- `sendMessageToPeer`: `false` without a connection to the peer; otherwise the frame is written
on it and counted.  `header` is what the stack array held.  The payload goes to `sendBytes`, whose
length is an `int`, so the model follows the code for payloads below `2 ^ 31` bytes. -/
def NetworkManager.sendMessageToPeer (nm : NetworkManager) (peerID : NodeID) (message : WireMessage)
    (header : HeaderBuffer) : Bool × NetworkManager :=
  match nm.activeConnections.find? peerID with
  | none => (false, nm)
  | some written =>
      (true, ⟨nm.activeConnections.insert peerID (written ++ frameBytes message header),
        nm.sentMessageCount + 1⟩)

theorem NetworkManager.find?_sendMessageToPeer (nm : NetworkManager) (peerID : NodeID)
    (message : WireMessage) (header : HeaderBuffer) :
    (nm.sendMessageToPeer peerID message header).2.activeConnections.find? peerID =
      (nm.activeConnections.find? peerID).map (· ++ frameBytes message header) := by
  unfold sendMessageToPeer
  cases h : nm.activeConnections.find? peerID <;> simp [h]

/-! ### Receiving -/

/-- `receiveBytes(buffer, length)` on a connection whose remaining bytes arrive as `segments`: at
most `length` bytes of the first segment, the rest of which stays first; nothing once the stream
has ended. -/
def receiveBytes (length : Nat) : List Bytes → Bytes × List Bytes
  | [] => ([], [])
  | segment :: segments =>
      if length < segment.length then (segment.take length, segment.drop length :: segments)
      else (segment, segments)

@[simp] theorem receiveBytes_nil (length : Nat) : receiveBytes length [] = ([], []) := rfl

theorem receiveBytes_cons (length : Nat) (segment : Bytes) (segments : List Bytes) :
    receiveBytes length (segment :: segments) =
      if length < segment.length then (segment.take length, segment.drop length :: segments)
      else (segment, segments) := rfl

/-- `segments` splits `bytes` into non-empty reads. -/
structure Segmentation (segments : List Bytes) (bytes : Bytes) : Prop where
  flatten_eq : segments.flatten = bytes
  ne_nil : ∀ s ∈ segments, s ≠ []

theorem length_receiveBytes_le (length : Nat) (segments : List Bytes) :
    (receiveBytes length segments).1.length ≤ length := by
  cases segments with
  | nil => exact Nat.zero_le _
  | cons segment segments =>
      rw [receiveBytes_cons]
      split_ifs with h
      · exact List.length_take_le _ _
      · exact Nat.le_of_not_lt h

/-- **Every read returns the next bytes of the stream**, at least one while any is left, and what
is left is split into the remaining reads. -/
theorem Segmentation.receiveBytes {segments : List Bytes} {bytes : Bytes}
    (h : Segmentation segments bytes) (length : Nat) :
    (P2POverlay.receiveBytes length segments).1 =
        bytes.take (P2POverlay.receiveBytes length segments).1.length ∧
      Segmentation (P2POverlay.receiveBytes length segments).2
        (bytes.drop (P2POverlay.receiveBytes length segments).1.length) ∧
      (0 < length → bytes ≠ [] → 0 < (P2POverlay.receiveBytes length segments).1.length) := by
  obtain ⟨rfl, hne⟩ := h
  cases segments with
  | nil => exact ⟨rfl, ⟨rfl, fun _ h => absurd h (List.not_mem_nil _)⟩, fun _ h => absurd rfl h⟩
  | cons segment segments =>
      have hs : segment ≠ [] := hne segment (List.mem_cons_self _ _)
      have hrest : ∀ s ∈ segments, s ≠ [] := fun s h => hne s (List.mem_cons_of_mem _ h)
      rw [receiveBytes_cons]
      split_ifs with hlt
      · have hk : (segment.take length).length = length := List.length_take_of_le hlt.le
        refine ⟨?_, ⟨?_, ?_⟩, fun h _ => by dsimp only; rw [hk]; exact h⟩
        · rw [hk, List.flatten_cons, List.take_append_of_le_length hlt.le]
        · rw [hk, List.flatten_cons, List.flatten_cons, List.drop_append_of_le_length hlt.le]
        · rintro s (_ | ⟨_, hs'⟩)
          · simpa using hlt
          · exact hrest s hs'
      · exact ⟨by rw [List.flatten_cons, List.take_left' rfl],
          ⟨by rw [List.flatten_cons, List.drop_left' rfl], hrest⟩,
          fun _ _ => List.length_pos.2 hs⟩

/-! ### `run()` -/

namespace PeerConnectionHandler

/-- The payload after `resize(payloadSize)` and a read of `got` into it: zeros past what was
read. -/
def fillPayload (payloadSize : Nat) (got : Bytes) : Bytes :=
  got ++ List.replicate (payloadSize - got.length) 0

/-- `run()`: the message passed to `messageCallback_`, or `none` when the first read returned
nothing.  `header` is what the stack array held. -/
def run (header : HeaderBuffer) (segments : List Bytes) : Option WireMessage :=
  let first := receiveBytes 32 segments
  let received := first.1
  if received.length = 0 then none
  else
    let bytes := received ++ header.bytes.drop received.length
    let msg := readHeader bytes default
    let payloadSize := readPayloadSize bytes
    if payloadSize = 0 then some msg
    else some { msg with payload := fillPayload payloadSize (receiveBytes payloadSize first.2).1 }

/-- **The header is parsed from whatever the first read returned**: once it returned anything,
the callback gets a message whose header fields are read from those bytes followed by the rest
of the receiver's uninitialised array. -/
theorem run_header (header : HeaderBuffer) (segments : List Bytes)
    (h : 0 < (receiveBytes 32 segments).1.length) :
    ∃ msg, run header segments = some msg ∧
      { msg with payload := [] } =
        readHeader ((receiveBytes 32 segments).1 ++
          header.bytes.drop (receiveBytes 32 segments).1.length) default := by
  unfold run
  dsimp only
  rw [if_neg (Nat.pos_iff_ne_zero.1 h)]
  split_ifs
  · exact ⟨_, rfl, rfl⟩
  · exact ⟨_, rfl, rfl⟩

/-- The first read returns the whole header and the second the whole payload. -/
def WholeReads (segments : List Bytes) (payloadLength : Nat) : Prop :=
  (receiveBytes 32 segments).1.length = 32 ∧
    (receiveBytes payloadLength (receiveBytes 32 segments).2).1.length = payloadLength

/-- Once the first read has returned the sender's whole header, the callback gets the message
sent, with the payload the second read put in the zero-filled buffer. -/
theorem run_of_receiveBytes_frameHeader (message : WireMessage) (sender receiver : HeaderBuffer)
    {segments rest : List Bytes} (h : receiveBytes 32 segments = (frameHeader message sender, rest)) :
    let payloadSize := message.payload.length % 2 ^ 32
    run receiver segments = some
      { message with
        payload := if payloadSize = 0 then []
          else fillPayload payloadSize (receiveBytes payloadSize rest).1 } := by
  have hbytes : frameHeader message sender ++ receiver.bytes.drop 32 =
      encodeHeader message ++ sender.bytes.drop headerSize := by
    rw [List.drop_eq_nil_of_le receiver.length_eq.le, List.append_nil, frameHeader]
  unfold run
  dsimp only
  rw [h, length_frameHeader, if_neg (by decide), hbytes, readHeader_encodeHeader,
    readPayloadSize_encodeHeader]
  split_ifs <;> rfl

/-- **Whole reads deliver the message sent**, for a payload below `2 ^ 31` bytes. -/
theorem run_of_wholeReads {message : WireMessage} (hm : message.payload.length < 2 ^ 31)
    (sender receiver : HeaderBuffer) {segments : List Bytes}
    (hseg : Segmentation segments (frameBytes message sender))
    (hwhole : WholeReads segments message.payload.length) :
    run receiver segments = some message := by
  have hp : message.payload.length % 2 ^ 32 = message.payload.length :=
    Nat.mod_eq_of_lt (lt_trans hm (by decide))
  obtain ⟨h₁, hseg₂, -⟩ := hseg.receiveBytes 32
  obtain ⟨h₂, -, -⟩ := hseg₂.receiveBytes message.payload.length
  rw [hwhole.1] at h₁ hseg₂ h₂
  rw [hwhole.2] at h₂
  rw [take_frameBytes] at h₁
  rw [run_of_receiveBytes_frameHeader message sender receiver (Prod.ext h₁ rfl), hp]
  split_ifs with h0
  · obtain ⟨type, senderID, receiverID, payload, timestamp⟩ := message
    obtain rfl : payload = [] := List.length_eq_zero.1 h0
    rfl
  · have hpay : (frameBytes message sender).drop 32 = message.payload := by
      rw [frameBytes, hp, if_pos (Nat.pos_of_ne_zero h0), List.take_length,
        List.drop_left' (length_frameHeader _ _)]
    rw [h₂, hpay, List.take_length, fillPayload, Nat.sub_self, List.replicate_zero, List.append_nil]

end PeerConnectionHandler

/-- **Framing holds only for whole reads.**  Send a message with fewer than `2 ^ 31` payload bytes
on a fresh connection: the connection carries its frame.  When the first read returns the whole
header and the second the whole payload, `run()` hands the message sent to the callback.  But a
first read of any `k < 32` bytes is parsed at once, the other header bytes taken from the
receiver's uninitialised array; a second read that returns `j` bytes of a longer payload leaves
zeros in place of the rest; and the three reserved header bytes are those the sender's array
held. -/
theorem run_partial_reads (message : WireMessage) (hm : message.payload.length < 2 ^ 31)
    (sender receiver : HeaderBuffer) :
    let frame := frameBytes message sender
    (∀ (nm : NetworkManager) (peerID : NodeID), nm.activeConnections.find? peerID = some [] →
      (nm.sendMessageToPeer peerID message sender).2.activeConnections.find? peerID = some frame) ∧
    (∀ segments, Segmentation segments frame →
      PeerConnectionHandler.WholeReads segments message.payload.length →
        PeerConnectionHandler.run receiver segments = some message) ∧
    (∀ k, 0 < k → k < 32 → ∃ msg,
      PeerConnectionHandler.run receiver [frame.take k, frame.drop k] = some msg ∧
        { msg with payload := [] } = readHeader (frame.take k ++ receiver.bytes.drop k) default) ∧
    (∀ j, 0 < j → j < message.payload.length →
      PeerConnectionHandler.run receiver [frame.take (32 + j), frame.drop (32 + j)] = some
        { message with
          payload := message.payload.take j ++ List.replicate (message.payload.length - j) 0 }) ∧
    (frame.drop headerSize).take 3 = sender.bytes.drop headerSize := by
  intro frame
  have hp : message.payload.length % 2 ^ 32 = message.payload.length :=
    Nat.mod_eq_of_lt (lt_trans hm (by decide))
  refine ⟨fun nm peerID h => ?_, fun segments hseg hwhole =>
    PeerConnectionHandler.run_of_wholeReads hm sender receiver hseg hwhole,
    fun k hk hk32 => ?_, fun j hj hjp => ?_, ?_⟩
  · rw [NetworkManager.find?_sendMessageToPeer, h]
    rfl
  · have hlen : (frame.take k).length = k :=
      List.length_take_of_le (hk32.le.trans (le_length_frameBytes message sender))
    have hr : receiveBytes 32 [frame.take k, frame.drop k] = (frame.take k, [frame.drop k]) := by
      rw [receiveBytes_cons, if_neg (by omega)]
    obtain ⟨msg, hrun, hmsg⟩ :=
      PeerConnectionHandler.run_header receiver [frame.take k, frame.drop k]
        (by simp only [hr, hlen]; exact hk)
    rw [hr, hlen] at hmsg
    exact ⟨msg, hrun, hmsg⟩
  · have hframe : frame = frameHeader message sender ++ message.payload := by
      simp only [frame, frameBytes, hp, if_pos (show 0 < message.payload.length by omega),
        List.take_length]
    have htake : frame.take (32 + j) = frameHeader message sender ++ message.payload.take j := by
      rw [hframe, List.take_append_eq_append_take, List.take_of_length_le (by simp),
        length_frameHeader, Nat.add_sub_cancel_left]
    have hdrop : frame.drop (32 + j) = message.payload.drop j := by
      rw [hframe, List.drop_append_eq_append_drop, List.drop_eq_nil_of_le (by simp),
        length_frameHeader, Nat.add_sub_cancel_left, List.nil_append]
    have hr : receiveBytes 32 [frame.take (32 + j), frame.drop (32 + j)] =
        (frameHeader message sender, [message.payload.take j, message.payload.drop j]) := by
      rw [htake, hdrop, receiveBytes_cons, if_pos (by
        rw [List.length_append, length_frameHeader, List.length_take]; omega),
        List.take_left' (length_frameHeader _ _), List.drop_left' (length_frameHeader _ _)]
    rw [PeerConnectionHandler.run_of_receiveBytes_frameHeader message sender receiver hr, hp,
      if_neg (by omega), receiveBytes_cons, if_neg (by rw [List.length_take]; omega),
      PeerConnectionHandler.fillPayload, List.length_take, Nat.min_eq_left hjp.le]
  · simp only [frame, frameBytes, frameHeader, List.append_assoc]
    rw [List.drop_left' (length_encodeHeader message), List.take_append_of_le_length (by
      simp [sender.length_eq, headerSize]), List.take_of_length_le (by
      simp [sender.length_eq, headerSize])]

/-- The message `DATA_MESSAGE` from `1` to `2` with payload `hi`, sent and received from stack
arrays filled with `0xCC`. -/
theorem run_partial_reads_hi :
    ([104, 105] : Bytes).length < 2 ^ 31 ∧
      let frame := frameBytes ⟨5, 1, 2, [104, 105], 0⟩ ⟨List.replicate 32 204, rfl⟩
      (∀ (nm : NetworkManager) (peerID : NodeID), nm.activeConnections.find? peerID = some [] →
        (nm.sendMessageToPeer peerID ⟨5, 1, 2, [104, 105], 0⟩
          ⟨List.replicate 32 204, rfl⟩).2.activeConnections.find? peerID = some frame) ∧
      (∀ segments, Segmentation segments frame →
        PeerConnectionHandler.WholeReads segments 2 →
          PeerConnectionHandler.run ⟨List.replicate 32 204, rfl⟩ segments =
            some ⟨5, 1, 2, [104, 105], 0⟩) ∧
      (∀ k, 0 < k → k < 32 → ∃ msg,
        PeerConnectionHandler.run ⟨List.replicate 32 204, rfl⟩ [frame.take k, frame.drop k] = some msg ∧
          { msg with payload := [] } =
            readHeader (frame.take k ++ (List.replicate 32 204).drop k) default) ∧
      (∀ j, 0 < j → j < 2 →
        PeerConnectionHandler.run ⟨List.replicate 32 204, rfl⟩
            [frame.take (32 + j), frame.drop (32 + j)] =
          some ⟨5, 1, 2, ([104, 105] : Bytes).take j ++ List.replicate (2 - j) 0, 0⟩) ∧
      (frame.drop headerSize).take 3 = (List.replicate 32 204).drop headerSize :=
  ⟨by decide, run_partial_reads ⟨5, 1, 2, [104, 105], 0⟩ (by decide) ⟨List.replicate 32 204, rfl⟩
    ⟨List.replicate 32 204, rfl⟩⟩

/-- The payload `hi` read after one of its bytes arrived: `h` and a zero. -/
example :
    let sender : HeaderBuffer := ⟨List.replicate 32 204, rfl⟩
    let frame := frameBytes ⟨5, 1, 2, [104, 105], 0⟩ sender
    PeerConnectionHandler.run sender [frame.take 33, frame.drop 33] = some ⟨5, 1, 2, [104, 0], 0⟩ := by
  decide

end P2POverlay
