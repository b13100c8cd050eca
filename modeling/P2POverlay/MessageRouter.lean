/-
**Flooding** (`MessageRouter::floodMessage` and the seen set, `MessageRouter.h`,
`MessageRouter.cpp`).

`floodMessage` computes the fingerprint `senderID ^ receiverID ^ timestamp` of a message
(`generateMessageID`), returns `false` if it is in `seenMessages_` (`isMessageSeen`), and
otherwise records it (`markMessageSeen`) and sends the message to every peer but its sender.
The test and the record are two critical sections of `seenMessagesMutex_`, with nothing held
between them; the sends use no router lock.  Here a call of `floodMessage` is a thread with two
steps: the test, and the record followed by the sends.  `cleanupSeenMessages` forgets the
fingerprints older than a timeout.

The clock is a virtual clock in seconds, the peer list `node_->getPeerIDs()` read by the sends is
an argument, and so are the transport's answers.  The sends are recorded, in order, in `sends`.

Main definitions:

* `P2POverlay.MessageRouter` — the seen set, the forward count and the sends so far;
* `generateMessageID`, `isMessageSeen`, `markMessageSeen`, `cleanupSeenMessages`, `broadcast`,
  `floodMessage`;
* `P2POverlay.FloodPc`, `P2POverlay.FloodOp`, `P2POverlay.FloodSys`, `P2POverlay.floodRun` —
  interleaved calls of `floodMessage`.
-/

import P2POverlay.StdMap

set_option relaxedAutoImplicit false
set_option autoImplicit false

namespace P2POverlay

/-- `MessageRouter`, as far as flooding reads and writes it: `seenMessages_` with the time each
fingerprint was recorded, `forwardedMessageCount_`, and the calls of `sendMessageToPeer` made so
far.  The routing table and the other counters are read by no modelled function here and are
left out. -/
structure MessageRouter where
  seenMessages : StdMap UInt64 Nat
  forwardedMessageCount : Nat
  sends : List (NodeID × Message)

namespace MessageRouter

/-- A router that has seen nothing. -/
def new : MessageRouter := ⟨.empty, 0, []⟩

/-- `generateMessageID`: `senderID ^ receiverID ^ timestamp`. -/
def generateMessageID (message : Message) : UInt64 :=
  message.senderID ^^^ message.receiverID ^^^ message.timestamp

/-- `isMessageSeen`. -/
def isMessageSeen (r : MessageRouter) (messageID : UInt64) : Bool := messageID ∈ r.seenMessages

/-- `markMessageSeen`: records the fingerprint with the current time. -/
def markMessageSeen (r : MessageRouter) (messageID : UInt64) (now : Nat) : MessageRouter :=
  { r with seenMessages := r.seenMessages.insert messageID now }

/-- `cleanupSeenMessages`: forgets the fingerprints recorded more than `timeoutSeconds` ago. -/
def cleanupSeenMessages (r : MessageRouter) (timeoutSeconds : Int) (now : Nat) : MessageRouter :=
  { r with seenMessages := r.seenMessages.filter fun _ t => !decide ((now : Int) - t > timeoutSeconds) }

/-- The end of `floodMessage`: the message to every peer but its sender, each send answered by
`answer`; `true` if every send succeeded.  The forward count goes up by one. -/
def broadcast (r : MessageRouter) (message : Message) (peers : List NodeID)
    (answer : NodeID → Bool) : Bool × MessageRouter :=
  let targets := peers.filter (· ≠ message.senderID)
  (targets.all answer,
    { r with
      sends := r.sends ++ targets.map (·, message)
      forwardedMessageCount := r.forwardedMessageCount + 1 })

/-- `floodMessage` run alone. -/
def floodMessage (r : MessageRouter) (message : Message) (peers : List NodeID) (now : Nat)
    (answer : NodeID → Bool) : Bool × MessageRouter :=
  let msgID := generateMessageID message
  if r.isMessageSeen msgID then (false, r)
  else (r.markMessageSeen msgID now).broadcast message peers answer

end MessageRouter

/-! ### Interleavings -/

/-- Where a call of `floodMessage` is: not running, or past the test with the message it
floods. -/
inductive FloodPc where
  | idle
  | passed (message : Message)
  deriving DecidableEq, Repr

/-- What happens next: the flooding thread `thread` takes its next step (starting a call of
`floodMessage(message)` if it is idle; sending to `peers` with the answers `answer` at time
`now` if it has passed the test), or the cleanup runs. -/
inductive FloodOp where
  | flood (thread : Nat) (message : Message) (peers : List NodeID) (now : Nat)
      (answer : NodeID → Bool)
  | cleanup (timeoutSeconds : Int) (now : Nat)

namespace MessageRouter

/-- One step of a call of `floodMessage`: the test, or the record and the sends. -/
def floodStep (r : MessageRouter) (message : Message) (peers : List NodeID) (now : Nat)
    (answer : NodeID → Bool) : FloodPc → MessageRouter × FloodPc
  | .idle => (r, if r.isMessageSeen (generateMessageID message) then .idle else .passed message)
  | .passed m => (((r.markMessageSeen (generateMessageID m) now).broadcast m peers answer).2, .idle)

end MessageRouter

/-- The router and where each flooding thread is. -/
structure FloodSys where
  router : MessageRouter
  threads : Nat → FloodPc

namespace FloodSys

/-- A router that has seen nothing, every thread idle. -/
def init : FloodSys := ⟨.new, fun _ => .idle⟩

/-- One operation. -/
def step (s : FloodSys) : FloodOp → FloodSys
  | .flood i message peers now answer =>
      let r := s.router.floodStep message peers now answer (s.threads i)
      ⟨r.1, Function.update s.threads i r.2⟩
  | .cleanup timeoutSeconds now => { s with router := s.router.cleanupSeenMessages timeoutSeconds now }

end FloodSys

/-- A schedule of operations. -/
def floodRun (s : FloodSys) (ops : List FloodOp) : FloodSys := ops.foldl FloodSys.step s

end P2POverlay
