/-
**Reliable messaging** (`ReliableMessaging::*` in the membership sources, declared in
`DynamicNodeManager.h`).

A message sent reliably is kept in `pendingMessages_` under a random 64-bit ID until it is
acknowledged and cleaned up, or given up on: `retryPendingMessages` resends the records whose
last send is at least `timeoutSeconds` old while their retry count is below `maxRetries`, and
marks the others failed.  The table sits under `pendingMessagesMutex_`; the counters are
atomics, updated outside it.

A call of `retryPendingMessages` takes the mutex many times: once to collect the IDs to retry and
the IDs to fail, then once for each ID to retry (it finds the record again but does not look at
its status or count again), then once for each ID to fail, in `markMessageFailed`.  Here a call
is a thread with a program counter `RetryPc` and `retryStep` is one of those critical sections;
`MessagingSys` runs any number of such threads, interleaved with sends, acknowledgements and
cleanups.  The sequential `retryPendingMessages` is one thread run alone
(`retryPendingMessages_eq_steps`).

The clock is a virtual clock in seconds; generated IDs and the transport's answers are
arguments.  Callbacks and transport calls are recorded, in order, in `events`.  `int` counts and
timeouts are `Int`, `size_t` counters `Nat`, and the `double` of `getDeliveryRate` is the exact
quotient in `ℚ`.

Main definitions:

* `P2POverlay.AckStatus`, `P2POverlay.ReliableMessage`, `P2POverlay.ReliableMessaging`;
* `sendReliableMessage`, `acknowledgeMessage`, `isMessageAcknowledged`, `markMessageFailed`,
  `cleanupAcknowledgedMessages`, `getDeliveryRate`;
* `collect`, `retryOne`, `P2POverlay.RetryPc`, `retryStep`, `retryPendingMessages` — a call of
  `retryPendingMessages` and its critical sections;
* `P2POverlay.MessagingOp`, `P2POverlay.MessagingSys`, `P2POverlay.messagingRun` — interleavings.
-/

import P2POverlay.StdMap

set_option relaxedAutoImplicit false
set_option autoImplicit false

namespace P2POverlay

/-- `AckStatus`. -/
inductive AckStatus where
  | pending | acknowledged | timeout | failed
  deriving DecidableEq, Repr

/-- `ReliableMessage`; times are seconds of the virtual clock. -/
structure ReliableMessage where
  messageID : UInt64
  message : Message
  destinationID : NodeID
  ackStatus : AckStatus
  retryCount : Int
  sendTime : Nat
  lastRetry : Nat
  deriving DecidableEq, Repr

/-- A record as a retry leaves it: one more retry, sent now. -/
def ReliableMessage.retried (msg : ReliableMessage) (now : Nat) : ReliableMessage :=
  { msg with retryCount := msg.retryCount + 1, lastRetry := now }

/-- A call of the transport or of a callback: `sendMessageToPeer` from `sendReliableMessage`,
`sendWithRetry`, `onMessageDelivered_`, `onMessageFailed_`. -/
inductive MessagingEvent where
  | sendMessageToPeer (targetID : NodeID) (message : Message)
  | sendWithRetry (msg : ReliableMessage)
  | messageDelivered (messageID : UInt64) (senderID : NodeID)
  | messageFailed (messageID : UInt64) (destinationID : NodeID)
  deriving DecidableEq, Repr

/-- `ReliableMessaging`: the pending table, the statistics, and the calls made so far.
`retryTimeout_` and `maxRetries_` are set by their setters and read by nothing, and are left
out. -/
structure ReliableMessaging where
  pendingMessages : StdMap UInt64 ReliableMessage
  sentMessages : Nat
  acknowledgedMessages : Nat
  failedMessages : Nat
  events : List MessagingEvent

namespace ReliableMessaging

/-- `ReliableMessaging(node, networkManager)`: nothing pending, counters at `0`. -/
def new : ReliableMessaging := ⟨.empty, 0, 0, 0, []⟩

/-- `markMessageFailed`: a pending record is counted, reported and dropped. -/
def markMessageFailed (rm : ReliableMessaging) (messageID : UInt64) : ReliableMessaging :=
  match rm.pendingMessages.find? messageID with
  | some msg =>
      { rm with
        pendingMessages := rm.pendingMessages.erase messageID
        failedMessages := rm.failedMessages + 1
        events := rm.events ++ [.messageFailed messageID msg.destinationID] }
  | none => rm

/-- `sendReliableMessage` with generated ID `messageID`, the transport answering `ok`: the record
is stored and the message sent; if the transport took it, it is counted and the ID returned,
otherwise it is marked failed and `0` returned. -/
def sendReliableMessage (rm : ReliableMessaging) (targetID : NodeID) (message : Message)
    (messageID : UInt64) (now : Nat) (ok : Bool) : UInt64 × ReliableMessaging :=
  let reliableMsg : ReliableMessage := ⟨messageID, message, targetID, .pending, 0, now, now⟩
  let rm := { rm with
    pendingMessages := rm.pendingMessages.insert messageID reliableMsg
    events := rm.events ++ [MessagingEvent.sendMessageToPeer targetID message] }
  if ok then (messageID, { rm with sentMessages := rm.sentMessages + 1 })
  else (0, rm.markMessageFailed messageID)

/-- `acknowledgeMessage`: a record of the ID, whatever its status, is set `ACKNOWLEDGED`, counted
and reported. -/
def acknowledgeMessage (rm : ReliableMessaging) (messageID : UInt64) (senderID : NodeID) :
    Bool × ReliableMessaging :=
  if messageID ∈ rm.pendingMessages then
    (true, { rm with
      pendingMessages := rm.pendingMessages.modify messageID
        fun msg => { msg with ackStatus := .acknowledged }
      acknowledgedMessages := rm.acknowledgedMessages + 1
      events := rm.events ++ [.messageDelivered messageID senderID] })
  else (false, rm)

/-- `isMessageAcknowledged`. -/
def isMessageAcknowledged (rm : ReliableMessaging) (messageID : UInt64) : Bool :=
  match rm.pendingMessages.find? messageID with
  | some msg => msg.ackStatus == .acknowledged
  | none => false

/-- `cleanupAcknowledgedMessages`: drops the acknowledged records sent more than
`timeoutSeconds` ago. -/
def cleanupAcknowledgedMessages (rm : ReliableMessaging) (timeoutSeconds : Int) (now : Nat) :
    ReliableMessaging :=
  { rm with pendingMessages := rm.pendingMessages.filter fun _ msg =>
      !(msg.ackStatus == .acknowledged && decide ((now : Int) - msg.sendTime > timeoutSeconds)) }

/-- `getDeliveryRate`: acknowledgements per hundred messages sent; `0` before any was sent. -/
def getDeliveryRate (rm : ReliableMessaging) : ℚ :=
  if rm.sentMessages = 0 then 0 else (rm.acknowledgedMessages : ℚ) / rm.sentMessages * 100

/-! ### `retryPendingMessages` -/

/-- The first critical section of `retryPendingMessages`: among the records not acknowledged
whose last send is at least `timeoutSeconds` old, in key order, the IDs below `maxRetries`
retries (to retry) and the others (to fail). -/
def collect (rm : ReliableMessaging) (timeoutSeconds maxRetries : Int) (now : Nat) :
    List UInt64 × List UInt64 :=
  let due := rm.pendingMessages.entries.filter fun e =>
    e.2.ackStatus != .acknowledged && decide ((now : Int) - e.2.lastRetry ≥ timeoutSeconds)
  ((due.filter fun e => decide (e.2.retryCount < maxRetries)).map Prod.fst,
    (due.filter fun e => !decide (e.2.retryCount < maxRetries)).map Prod.fst)

/-- A critical section of the retry loop, and the send after it: if the record of `msgID` is
still there, it is counted and stamped, and the copy taken before is resent. -/
def retryOne (rm : ReliableMessaging) (msgID : UInt64) (now : Nat) : ReliableMessaging :=
  match rm.pendingMessages.find? msgID with
  | some msg =>
      { rm with
        pendingMessages := rm.pendingMessages.insert msgID (msg.retried now)
        events := rm.events ++ [.sendWithRetry msg] }
  | none => rm

end ReliableMessaging

/-- Where a call of `retryPendingMessages` is: not running, or with the IDs it still has to
retry and to fail. -/
inductive RetryPc where
  | idle
  | running (toRetry toFail : List UInt64)
  deriving DecidableEq, Repr

namespace ReliableMessaging

/-- One critical section of a call of `retryPendingMessages(timeoutSeconds, maxRetries)`; an
idle thread starts a call. -/
def retryStep (rm : ReliableMessaging) (timeoutSeconds maxRetries : Int) (now : Nat) :
    RetryPc → ReliableMessaging × RetryPc
  | .idle =>
      let c := rm.collect timeoutSeconds maxRetries now
      (rm, .running c.1 c.2)
  | .running (msgID :: toRetry) toFail => (rm.retryOne msgID now, .running toRetry toFail)
  | .running [] (msgID :: toFail) => (rm.markMessageFailed msgID, .running [] toFail)
  | .running [] [] => (rm, .idle)

/-- A call of `retryPendingMessages` after its collection: retry the IDs of `toRetry`, then fail
those of `toFail`. -/
def finishRetry (rm : ReliableMessaging) (toRetry toFail : List UInt64) (now : Nat) :
    ReliableMessaging :=
  toFail.foldl markMessageFailed (toRetry.foldl (retryOne · · now) rm)

/-- `retryPendingMessages` run alone: collect, retry, fail. -/
def retryPendingMessages (rm : ReliableMessaging) (timeoutSeconds maxRetries : Int) (now : Nat) :
    ReliableMessaging :=
  let c := rm.collect timeoutSeconds maxRetries now
  rm.finishRetry c.1 c.2 now

variable {rm : ReliableMessaging} {k messageID : UInt64}

end ReliableMessaging

/-! ### Interleavings -/

/-- What happens next: a message is sent reliably, an acknowledgement arrives, the retry thread
`thread` takes its next critical section (starting a call of
`retryPendingMessages(timeoutSeconds, maxRetries)` if it is idle), or the cleanup runs. -/
inductive MessagingOp where
  | send (targetID : NodeID) (message : Message) (messageID : UInt64) (now : Nat) (ok : Bool)
  | ack (messageID : UInt64) (senderID : NodeID)
  | retry (thread : Nat) (timeoutSeconds maxRetries : Int) (now : Nat)
  | cleanup (timeoutSeconds : Int) (now : Nat)
  deriving DecidableEq, Repr

/-- The node's messaging and where each retry thread is. -/
structure MessagingSys where
  rm : ReliableMessaging
  threads : Nat → RetryPc

namespace MessagingSys

/-- Nothing pending, every thread idle. -/
def init : MessagingSys := ⟨.new, fun _ => .idle⟩

/-- One operation. -/
def step (s : MessagingSys) : MessagingOp → MessagingSys
  | .send targetID message messageID now ok =>
      { s with rm := (s.rm.sendReliableMessage targetID message messageID now ok).2 }
  | .ack messageID senderID => { s with rm := (s.rm.acknowledgeMessage messageID senderID).2 }
  | .retry i timeoutSeconds maxRetries now =>
      let r := s.rm.retryStep timeoutSeconds maxRetries now (s.threads i)
      ⟨r.1, Function.update s.threads i r.2⟩
  | .cleanup timeoutSeconds now => { s with rm := s.rm.cleanupAcknowledgedMessages timeoutSeconds now }

end MessagingSys

end P2POverlay
