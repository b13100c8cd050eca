/-
**The transport never holds a connection** (`NetworkManager`).

`NetworkManager` writes only on the sockets of `activeConnections_`: `sendMessageToPeer` answers
`false` for a peer without one, and `broadcastMessage` calls `sendMessageToPeer` for every peer of
the roster but the excluded one.  No code of the program inserts into `activeConnections_`.
`connectToPeer` connects a local `StreamSocket`, answers whether the connection was made, and
closes the socket on return without writing to it; `disconnectFromPeer` only erases; the queries
only read.  So from the constructor on the table stays empty, whatever the calls and in whatever
order: every send and every disconnect answers `false`, a broadcast answers `true` exactly when it
has no one to send to, no byte is written on any socket, and `sentMessageCount_` stays `0`.
(`receivedMessageCount_` is written by no code at all.)

Main definitions:

* `P2POverlay.NetworkManager.new`, `connectToPeer`, `disconnectFromPeer`, `broadcastMessage`,
  `getConnectedPeers`, `isConnectedTo` — the calls besides `sendMessageToPeer`;
* `P2POverlay.TransportOp`, `P2POverlay.NetworkManager.apply`, `P2POverlay.transportRun` — a
  sequence of calls, with what each answered;
* `P2POverlay.TransportOp.idleAnswer` — what a call answers on a manager without connections.

Main results:

* `P2POverlay.NetworkManager.apply_of_empty` — on a manager without connections a call answers
  `idleAnswer` and changes nothing;
* `P2POverlay.transportRun_new` — **over every sequence of calls from the constructor, each call
  answers `idleAnswer` and the manager stays as constructed**.
-/

import P2POverlay.Framing

set_option relaxedAutoImplicit false
set_option autoImplicit false

namespace P2POverlay

namespace NetworkManager

/-- `NetworkManager(node)`: no connection, nothing sent. -/
def new : NetworkManager := ⟨.empty, 0⟩

/-- `connectToPeer(peerAddress)`, where `connect` says which addresses accept a TCP connection:
the socket is a local variable, closed on return, and nothing is stored. -/
def connectToPeer (nm : NetworkManager) (peerAddress : NetworkAddress)
    (connect : NetworkAddress → Bool) : Bool × NetworkManager :=
  (connect peerAddress, nm)

/-- `disconnectFromPeer(peerID)`: the peer's socket is closed and its entry erased. -/
def disconnectFromPeer (nm : NetworkManager) (peerID : NodeID) : Bool × NetworkManager :=
  if peerID ∈ nm.activeConnections then
    (true, { nm with activeConnections := nm.activeConnections.erase peerID })
  else (false, nm)

/-- `broadcastMessage(message, excludeID)` on the roster `peerIDs`: `sendMessageToPeer` to every
peer but `excludeID`, with `header` what the stack array of each call held; `true` if every send
succeeded. -/
def broadcastMessage (nm : NetworkManager) (peerIDs : List NodeID) (message : WireMessage)
    (excludeID : NodeID) (header : NodeID → HeaderBuffer) : Bool × NetworkManager :=
  peerIDs.foldl (fun r peerID =>
    if peerID ≠ excludeID then
      let sent := r.2.sendMessageToPeer peerID message (header peerID)
      (r.1 && sent.1, sent.2)
    else r) (true, nm)

/-- `getConnectedPeers()`, in increasing order. -/
def getConnectedPeers (nm : NetworkManager) : List NodeID := nm.activeConnections.keys

/-- `isConnectedTo(peerID)`. -/
def isConnectedTo (nm : NetworkManager) (peerID : NodeID) : Bool :=
  decide (peerID ∈ nm.activeConnections)

@[simp] theorem new_activeConnections : new.activeConnections = .empty := rfl

@[simp] theorem new_sentMessageCount : new.sentMessageCount = 0 := rfl

@[simp] theorem getConnectedPeers_new : new.getConnectedPeers = [] := rfl

@[simp] theorem isConnectedTo_new (peerID : NodeID) : new.isConnectedTo peerID = false := by
  simp [isConnectedTo]

/-! ### A manager without connections -/

variable {nm : NetworkManager}

theorem sendMessageToPeer_of_not_mem {peerID : NodeID} (h : peerID ∉ nm.activeConnections)
    (message : WireMessage) (header : HeaderBuffer) :
    nm.sendMessageToPeer peerID message header = (false, nm) := by
  rw [sendMessageToPeer, StdMap.not_mem_iff_find?.1 h]

theorem broadcastMessage_of_empty (h : nm.activeConnections = .empty) (peerIDs : List NodeID)
    (message : WireMessage) (excludeID : NodeID) (header : NodeID → HeaderBuffer) :
    nm.broadcastMessage peerIDs message excludeID header =
      (peerIDs.all fun peerID => peerID = excludeID, nm) := by
  unfold broadcastMessage
  suffices ∀ b : Bool, peerIDs.foldl _ (b, nm) = (b && peerIDs.all fun peerID => peerID = excludeID, nm) by
    simpa using this true
  induction peerIDs with
  | nil => simp
  | cons p ps ih =>
      intro b
      have hsend := sendMessageToPeer_of_not_mem (h ▸ StdMap.not_mem_empty p) message (header p)
      by_cases hp : p = excludeID
      · simp [hp, ih]
      · simp [hp, hsend, ih]

end NetworkManager

/-! ### Sequences of calls -/

/-- A call on `NetworkManager`; the bytes the stack array of `sendMessageToPeer` held are part of
the call. -/
inductive TransportOp where
  | connectToPeer (peerAddress : NetworkAddress)
  | disconnectFromPeer (peerID : NodeID)
  | sendMessageToPeer (peerID : NodeID) (message : WireMessage) (header : HeaderBuffer)
  | broadcastMessage (peerIDs : List NodeID) (message : WireMessage) (excludeID : NodeID)
      (header : NodeID → HeaderBuffer)

/-- What a call answers on a manager without connections: a connection attempt the outcome of
the TCP connection, a send or a disconnect `false`, and a broadcast `true` exactly when every peer
of the roster is the excluded one. -/
def TransportOp.idleAnswer (connect : NetworkAddress → Bool) : TransportOp → Bool
  | .connectToPeer peerAddress => connect peerAddress
  | .disconnectFromPeer _ => false
  | .sendMessageToPeer .. => false
  | .broadcastMessage peerIDs _ excludeID _ => peerIDs.all fun peerID => peerID = excludeID

/-- One call, with `connect` saying which addresses accept a TCP connection. -/
def NetworkManager.apply (nm : NetworkManager) (connect : NetworkAddress → Bool) :
    TransportOp → Bool × NetworkManager
  | .connectToPeer peerAddress => nm.connectToPeer peerAddress connect
  | .disconnectFromPeer peerID => nm.disconnectFromPeer peerID
  | .sendMessageToPeer peerID message header => nm.sendMessageToPeer peerID message header
  | .broadcastMessage peerIDs message excludeID header =>
      nm.broadcastMessage peerIDs message excludeID header

/-- A sequence of calls from `nm`: what each answered, in order, and the manager after them. -/
def transportRun (connect : NetworkAddress → Bool) (nm : NetworkManager) :
    List TransportOp → List Bool × NetworkManager
  | [] => ([], nm)
  | op :: ops =>
      let r := nm.apply connect op
      let rest := transportRun connect r.2 ops
      (r.1 :: rest.1, rest.2)

/-- The step lemma: on a manager without connections a call answers `idleAnswer` and changes
nothing. -/
theorem NetworkManager.apply_of_empty {nm : NetworkManager} (h : nm.activeConnections = .empty)
    (connect : NetworkAddress → Bool) (op : TransportOp) :
    nm.apply connect op = (op.idleAnswer connect, nm) := by
  cases op with
  | connectToPeer => rfl
  | disconnectFromPeer peerID => simp [apply, disconnectFromPeer, TransportOp.idleAnswer, h]
  | sendMessageToPeer peerID message header =>
      exact sendMessageToPeer_of_not_mem (h ▸ StdMap.not_mem_empty peerID) message header
  | broadcastMessage => exact broadcastMessage_of_empty h ..

/-- The run lemma: from a manager without connections, every call answers `idleAnswer` and the
manager does not change. -/
theorem transportRun_of_empty (connect : NetworkAddress → Bool) :
    ∀ (ops : List TransportOp) {nm : NetworkManager}, nm.activeConnections = .empty →
      transportRun connect nm ops = (ops.map (TransportOp.idleAnswer connect), nm)
  | [], _, _ => rfl
  | op :: ops, nm, h => by
      simp only [transportRun, NetworkManager.apply_of_empty h, transportRun_of_empty connect ops h,
        List.map_cons]

theorem transportRun_snd_new (connect : NetworkAddress → Bool) (ops : List TransportOp) :
    (transportRun connect .new ops).2 = .new := by
  rw [transportRun_of_empty connect ops rfl]

/-- **The transport never holds a connection.**  Over every sequence of calls on a
`NetworkManager` from its constructor, every send and every disconnect answers `false`, a
broadcast answers `true` exactly when the roster holds no peer but the excluded one, a connection
attempt answers the outcome of the TCP connection, and the manager stays as constructed: no
connection, so no byte written on any socket, and no message counted. -/
theorem transportRun_new (connect : NetworkAddress → Bool) (ops : List TransportOp) :
    transportRun connect .new ops = (ops.map (TransportOp.idleAnswer connect), .new) :=
  transportRun_of_empty connect ops rfl

end P2POverlay
