/-
**Identifiers, addresses and message envelopes** (`include/Common.h`).

Node identifiers, message identifiers, transfer identifiers and timestamps are the C++
`uint64_t` and are modelled by `UInt64`; sequence numbers and chunk counts are `uint32_t` and
modelled by `UInt32`; a byte vector is a list of `UInt8`.  The two orders are the ones a
`std::map` keyed on these types iterates in, so `UInt64` and `UInt32` get their linear order
here, built on the core `≤` and `<` so that no second order appears.

Main definitions:

* `P2POverlay.NodeID`, `P2POverlay.Port`, `P2POverlay.Bytes`;
* `P2POverlay.NetworkAddress` — host and port, with the default `("", 0)`;
* `P2POverlay.MessageType`, `P2POverlay.Message` — the envelope of every message;
* `P2POverlay.maxPeers`, `P2POverlay.nodeTimeoutSec`, `P2POverlay.heartbeatIntervalSec` — the
  configuration constants.
-/

import Mathlib

set_option relaxedAutoImplicit false
set_option autoImplicit false

namespace P2POverlay

/-! ### The order of the fixed-width keys -/

instance instLinearOrderUInt64 : LinearOrder UInt64 where
  le_refl a := Nat.le_refl a.toNat
  le_trans _ _ _ := Nat.le_trans
  le_antisymm _ _ h₁ h₂ := UInt64.toNat.inj (Nat.le_antisymm h₁ h₂)
  lt_iff_le_not_le _ _ := Nat.lt_iff_le_not_le
  le_total a b := Nat.le_total a.toNat b.toNat
  decidableLE := inferInstance
  decidableLT := inferInstance
  decidableEq := inferInstance

instance instLinearOrderUInt32 : LinearOrder UInt32 where
  le_refl a := Nat.le_refl a.toNat
  le_trans _ _ _ := Nat.le_trans
  le_antisymm _ _ h₁ h₂ := UInt32.toNat.inj (Nat.le_antisymm h₁ h₂)
  lt_iff_le_not_le _ _ := Nat.lt_iff_le_not_le
  le_total a b := Nat.le_total a.toNat b.toNat
  decidableLE := inferInstance
  decidableLT := inferInstance
  decidableEq := inferInstance

/-- Found at once: with the two orders above, the general search for `Nonempty` explores the
order hierarchy before reaching `Inhabited`. -/
instance instNonemptyUInt64 : Nonempty UInt64 := ⟨0⟩

instance instNonemptyUInt32 : Nonempty UInt32 := ⟨0⟩

/-! ### Identifiers and addresses -/

/-- `NodeID`: `uint64_t`. -/
abbrev NodeID := UInt64

/-- `Port`: `uint16_t`. -/
abbrev Port := UInt16

/-- A `std::vector<uint8_t>`. -/
abbrev Bytes := List UInt8

/-- `NetworkAddress`: equality is by host and port. -/
structure NetworkAddress where
  host : String
  port : Port
  deriving DecidableEq, Repr

/-- `NetworkAddress()`: the empty host and port `0`, which callers read as "unknown". -/
instance instInhabitedNetworkAddress : Inhabited NetworkAddress := ⟨⟨"", 0⟩⟩

/-! ### Messages -/

/-- `MessageType`, with its one-byte wire tags. -/
inductive MessageType where
  | joinRequest | joinResponse | leaveNotification | heartbeat | dataMessage
  | topologyUpdate | peerDiscovery | routeMessage | messageAck | dataChunk
  | transferRequest | transferResponse
  deriving DecidableEq, Repr

/-- The `uint8_t` value of each `MessageType`. -/
def MessageType.toUInt8 : MessageType → UInt8
  | .joinRequest => 1 | .joinResponse => 2 | .leaveNotification => 3 | .heartbeat => 4
  | .dataMessage => 5 | .topologyUpdate => 6 | .peerDiscovery => 7 | .routeMessage => 8
  | .messageAck => 9 | .dataChunk => 10 | .transferRequest => 11 | .transferResponse => 12

/-- `Message`: the envelope of every message, fields in the source's order. -/
structure Message where
  type : MessageType
  senderID : NodeID
  receiverID : NodeID
  payload : Bytes
  timestamp : UInt64
  deriving DecidableEq, Repr

/-- `Message()`: a `DATA_MESSAGE` with zero identifiers, no payload and timestamp `0`. -/
instance instInhabitedMessage : Inhabited Message := ⟨⟨.dataMessage, 0, 0, [], 0⟩⟩

/-! ### Configuration -/

/-- `MAX_PEERS`: the cap on the local peer roster. -/
def maxPeers : Nat := 10

/-- `NODE_TIMEOUT_SEC`. -/
def nodeTimeoutSec : Nat := 90

/-- `HEARTBEAT_INTERVAL_SEC`. -/
def heartbeatIntervalSec : Nat := 30

end P2POverlay
