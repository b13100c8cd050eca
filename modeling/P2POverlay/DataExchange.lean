/-
**Chunked transfers** (`DataExchange.h`, `DataExchange.cpp`).

A transfer is split into chunks by `splitData`, sent chunk by chunk by `sendData`, and
reassembled on the receiver by `handleDataChunk` and `reassembleData`, which store the chunks of
a transfer in a `std::map` keyed by sequence number and concatenate them in key order once as
many chunks as the first one announces are present.  Transfer records live in
`outgoingTransfers_` and `incomingTransfers_` under `transfersMutex_`; chunks and reassembled
payloads under `receivedDataMutex_`.

The clock is a virtual clock in seconds, read by the operations through a `now` argument;
`generateTransferID` is an argument too.  The callbacks the code invokes are recorded, in order,
in `events`.  `size_t` arithmetic in `splitData` is written modulo `2 ^ 64`, the cast to
`uint32_t` modulo `2 ^ 32`, and a division by a zero chunk size is `none`.

Main definitions:

* `P2POverlay.DataChunk`, `P2POverlay.TransferStatus`, `P2POverlay.DataTransfer`,
  `P2POverlay.DataExchange`;
* `splitData`, `cancelTransfer`, `markTransferComplete`, `updateTransferProgress`,
  `reassembleData`, `handleDataChunk`, `getReceivedData`, `isTransferComplete`,
  `cleanupCompletedTransfers` — the operations;
* `P2POverlay.SendPc`, `P2POverlay.DataExchange.sendStep` — `sendData` as a thread whose steps
  are its critical sections and its sends;
* `P2POverlay.DataExchange.sendData`, `P2POverlay.DataExchange.sendChunks` — `sendData` as
  written, one call from start to return.
-/

import P2POverlay.StdMap

set_option relaxedAutoImplicit false
set_option autoImplicit false

namespace P2POverlay

/-! ### Data types -/

/-- `DataChunk`. -/
structure DataChunk where
  chunkID : UInt64
  sequenceNumber : UInt32
  totalChunks : UInt32
  data : Bytes
  isLastChunk : Bool
  deriving DecidableEq, Repr

/-- `DataChunk()`: zero identifiers, no data, not last. -/
instance instInhabitedDataChunk : Inhabited DataChunk := ⟨⟨0, 0, 0, [], false⟩⟩

/-- `TransferStatus`. -/
inductive TransferStatus where
  | pending | inProgress | completed | failed | cancelled
  deriving DecidableEq, Repr

/-- `DataTransfer`; times are seconds of the virtual clock, `size_t` counters are `Nat`. -/
structure DataTransfer where
  transferID : UInt64
  sourceID : NodeID
  destinationID : NodeID
  dataType : String
  totalSize : Nat
  transferredSize : Nat
  status : TransferStatus
  startTime : Nat
  lastUpdate : Nat
  deriving DecidableEq, Repr

/-- `DataTransfer()`: zero identifiers and sizes, `PENDING`, both times at the epoch. -/
instance instInhabitedDataTransfer : Inhabited DataTransfer := ⟨⟨0, 0, 0, "", 0, 0, .pending, 0, 0⟩⟩

/-- A record as `markTransferComplete` leaves it: `COMPLETED` or `FAILED`, updated now. -/
def DataTransfer.complete (r : DataTransfer) (success : Bool) (now : Nat) : DataTransfer :=
  { r with status := if success then .completed else .failed, lastUpdate := now }

/-- A callback invocation: `onTransferProgress_`, `onTransferComplete_`, `onDataReceived_`. -/
inductive DataEvent where
  | transferProgress (transferID : UInt64) (transferred total : Nat)
  | transferComplete (transferID : UInt64) (success : Bool)
  | dataReceived (sourceID : NodeID) (data : Bytes) (dataType : String)
  deriving DecidableEq, Repr

/-- `DataExchange`: the local node's ID, the tables, the chunk size and the statistics, and the
callbacks invoked so far. -/
structure DataExchange where
  nodeID : NodeID
  outgoingTransfers : StdMap UInt64 DataTransfer
  incomingTransfers : StdMap UInt64 DataTransfer
  receivedChunks : StdMap UInt64 (StdMap UInt32 DataChunk)
  completedData : StdMap UInt64 Bytes
  chunkSize : Nat
  sentDataSize : Nat
  receivedDataSize : Nat
  completedTransfers : Nat
  failedTransfers : Nat
  events : List DataEvent

namespace DataExchange

/-- `DataExchange(node, ...)`: empty tables, chunk size `4096`. -/
def new (nodeID : NodeID) : DataExchange :=
  ⟨nodeID, .empty, .empty, .empty, .empty, 4096, 0, 0, 0, 0, []⟩

/-- `setChunkSize`: any size, `0` included. -/
def setChunkSize (d : DataExchange) (chunkSize : Nat) : DataExchange := { d with chunkSize := chunkSize }

/-! ### Splitting -/

/-- `splitData`: `(totalSize + chunkSize_ - 1) / chunkSize_` computed in `size_t` and cast to
`uint32_t`; chunk `i` starts at `i * chunkSize_` and holds `min(chunkSize_, totalSize - offset)`
bytes.  `none` when `chunkSize_` is `0`. -/
def splitData (chunkSize : Nat) (data : Bytes) (transferID : UInt64) : Option (List DataChunk) :=
  if chunkSize = 0 then none
  else
    let totalSize := data.length
    let chunkCount := (totalSize + chunkSize - 1) % 2 ^ 64 / chunkSize % 2 ^ 32
    some <| (List.range chunkCount).map fun i =>
      let offset := i * chunkSize % 2 ^ 64
      let chunkDataSize := min chunkSize ((totalSize + 2 ^ 64 - offset) % 2 ^ 64)
      { chunkID := transferID
        sequenceNumber := UInt32.ofNat i
        totalChunks := UInt32.ofNat chunkCount
        isLastChunk := UInt32.ofNat i == UInt32.ofNat chunkCount - 1
        data := (data.drop offset).take chunkDataSize }

/-! ### Transfer records -/

/-- `cancelTransfer`: sets an outgoing record to `CANCELLED`, whatever its status. -/
def cancelTransfer (d : DataExchange) (transferID : UInt64) : Bool × DataExchange :=
  (transferID ∈ d.outgoingTransfers,
    { d with outgoingTransfers := d.outgoingTransfers.modify transferID ({ · with status := .cancelled }) })

/-- `markTransferComplete`: sets the outgoing and the incoming record of the ID, if present, to
`COMPLETED` or `FAILED`, counts the outcome and reports it for an outgoing record. -/
def markTransferComplete (d : DataExchange) (transferID : UInt64) (success : Bool) (now : Nat) :
    DataExchange :=
  let d := if transferID ∈ d.outgoingTransfers then
      { d with
        outgoingTransfers := d.outgoingTransfers.modify transferID (·.complete success now)
        completedTransfers := if success then d.completedTransfers + 1 else d.completedTransfers
        failedTransfers := if success then d.failedTransfers else d.failedTransfers + 1
        events := d.events ++ [DataEvent.transferComplete transferID success] }
    else d
  { d with incomingTransfers := d.incomingTransfers.modify transferID (·.complete success now) }

/-- `updateTransferProgress`: adds the bytes to an outgoing record and reports the progress. -/
def updateTransferProgress (d : DataExchange) (transferID : UInt64) (bytesTransferred : Nat)
    (now : Nat) : DataExchange :=
  match d.outgoingTransfers.find? transferID with
  | some r =>
      let r := { r with transferredSize := r.transferredSize + bytesTransferred, lastUpdate := now }
      { d with outgoingTransfers := d.outgoingTransfers.insert transferID r
               events := d.events ++ [DataEvent.transferProgress transferID r.transferredSize r.totalSize] }
  | none => d

/-- `cleanupCompletedTransfers`: drops outgoing records that are `COMPLETED`, `FAILED` or
`CANCELLED`, and incoming records that are `COMPLETED` or `FAILED`, last updated more than
`timeoutSeconds` ago. -/
def cleanupCompletedTransfers (d : DataExchange) (timeoutSeconds : Int) (now : Nat) :
    DataExchange :=
  let stale (r : DataTransfer) : Bool := decide ((now : Int) - r.lastUpdate > timeoutSeconds)
  { d with
    outgoingTransfers := d.outgoingTransfers.filter fun _ r =>
      !((r.status = .completed ∨ r.status = .failed ∨ r.status = .cancelled) && stale r)
    incomingTransfers := d.incomingTransfers.filter fun _ r =>
      !((r.status = .completed ∨ r.status = .failed) && stale r) }

/-! ### Receiving -/

/-- The loop of `reassembleData` over the sequence numbers `is`: the chunks' bytes in that
order, or `none` at the first missing one. -/
def reassembleLoop (chunks : StdMap UInt32 DataChunk) : List Nat → Option Bytes
  | [] => some []
  | i :: is =>
      match chunks.find? (UInt32.ofNat i) with
      | some c => (reassembleLoop chunks is).map (c.data ++ ·)
      | none => none

/-- The check and the loop of `reassembleData` on the chunks of one transfer: the concatenation
of the chunks numbered below the count that the chunk with the smallest number announces, if
there are at least that many chunks and none of those numbers is missing. -/
def reassembledPayload (chunks : StdMap UInt32 DataChunk) : Option Bytes :=
  match chunks.entries with
  | [] => none
  | first :: _ =>
      let expectedChunks := first.2.totalChunks.toNat
      if chunks.size < expectedChunks then none
      else reassembleLoop chunks (List.range expectedChunks)

/-- The end of a successful `reassembleData`: the payload is stored in `completedData_` and
reported if the incoming record names a source (a missing record reads as source `0`, the
default of `sourceID`). -/
def publish (d : DataExchange) (transferID : UInt64) (reassembled : Bytes) : DataExchange :=
  let r := d.incomingTransfers.findD transferID default
  { d with
    completedData := d.completedData.insert transferID reassembled
    events := d.events ++
      if r.sourceID ≠ 0 then [DataEvent.dataReceived r.sourceID reassembled r.dataType] else [] }

/-- `reassembleData`. -/
def reassembleData (d : DataExchange) (transferID : UInt64) : Bool × DataExchange :=
  match (d.receivedChunks.find? transferID).bind reassembledPayload with
  | some reassembled => (true, d.publish transferID reassembled)
  | none => (false, d)

/-- The incoming record after a chunk of `transferID` arrives: created `IN_PROGRESS` if new, the
bytes added, and the total set to the bytes so far when the chunk is flagged last. -/
def receiveRecord (d : DataExchange) (chunk : DataChunk) (sourceID : NodeID) (now : Nat) :
    DataTransfer :=
  let created : DataTransfer :=
    ⟨chunk.chunkID, sourceID, d.nodeID, "", 0, 0, .inProgress, now, 0⟩
  let r := (d.incomingTransfers.find? chunk.chunkID).getD created
  let r := { r with transferredSize := r.transferredSize + chunk.data.length, lastUpdate := now }
  if chunk.isLastChunk then { r with totalSize := r.transferredSize } else r

/-- The first two critical sections of `handleDataChunk`: the chunk is stored under its sequence
number, the incoming record is created or updated, and the bytes are counted. -/
def storeChunk (d : DataExchange) (chunk : DataChunk) (sourceID : NodeID) (now : Nat) :
    DataExchange :=
  { d with
    receivedChunks := d.receivedChunks.alter chunk.chunkID .empty (·.insert chunk.sequenceNumber chunk)
    incomingTransfers := d.incomingTransfers.insert chunk.chunkID (d.receiveRecord chunk sourceID now)
    receivedDataSize := d.receivedDataSize + chunk.data.length }

/-- `handleDataChunk`: stores the chunk, tries to reassemble, marks the transfer complete if that
succeeded, and reports the progress of the incoming record. -/
def handleDataChunk (d : DataExchange) (chunk : DataChunk) (sourceID : NodeID) (now : Nat) :
    DataExchange :=
  let transferID := chunk.chunkID
  let r := (d.storeChunk chunk sourceID now).reassembleData transferID
  let d := if r.1 then r.2.markTransferComplete transferID true now else r.2
  { d with events := d.events ++ match d.incomingTransfers.find? transferID with
      | some r => [DataEvent.transferProgress transferID r.transferredSize r.totalSize]
      | none => [] }

/-- `getReceivedData`: the reassembled payload, or empty. -/
def getReceivedData (d : DataExchange) (transferID : UInt64) : Bytes :=
  d.completedData.findD transferID []

/-- `isTransferComplete`: the incoming record exists and is `COMPLETED`. -/
def isTransferComplete (d : DataExchange) (transferID : UInt64) : Bool :=
  match d.incomingTransfers.find? transferID with
  | some r => r.status == .completed
  | none => false

/-! ### What each operation leaves alone -/

variable {d : DataExchange}

@[simp] theorem markTransferComplete_receivedChunks (t : UInt64) (s : Bool) (now : Nat) :
    (d.markTransferComplete t s now).receivedChunks = d.receivedChunks := by
  unfold markTransferComplete; split_ifs <;> rfl

@[simp] theorem markTransferComplete_completedData (t : UInt64) (s : Bool) (now : Nat) :
    (d.markTransferComplete t s now).completedData = d.completedData := by
  unfold markTransferComplete; split_ifs <;> rfl

@[simp] theorem markTransferComplete_incomingTransfers (t : UInt64) (s : Bool) (now : Nat) :
    (d.markTransferComplete t s now).incomingTransfers =
      d.incomingTransfers.modify t (·.complete s now) := by
  unfold markTransferComplete; split_ifs <;> rfl

@[simp] theorem reassembleData_receivedChunks (t : UInt64) :
    (d.reassembleData t).2.receivedChunks = d.receivedChunks := by
  unfold reassembleData; split <;> rfl

@[simp] theorem reassembleData_incomingTransfers (t : UInt64) :
    (d.reassembleData t).2.incomingTransfers = d.incomingTransfers := by
  unfold reassembleData; split <;> rfl

/-- `reassembleData` publishes under its own ID only. -/
theorem reassembleData_completedData_find?_of_ne {t t' : UInt64} (h : t' ≠ t) :
    (d.reassembleData t).2.completedData.find? t' = d.completedData.find? t' := by
  unfold reassembleData; split <;> simp [publish, h]

theorem reassembleData_of_payload {t : UInt64} {p : Bytes}
    (h : (d.receivedChunks.find? t).bind reassembledPayload = some p) :
    d.reassembleData t = (true, d.publish t p) := by
  simp [reassembleData, h]

theorem reassembleData_of_no_payload {t : UInt64}
    (h : (d.receivedChunks.find? t).bind reassembledPayload = none) :
    d.reassembleData t = (false, d) := by
  simp [reassembleData, h]

@[simp] theorem publish_incomingTransfers (t : UInt64) (p : Bytes) :
    (d.publish t p).incomingTransfers = d.incomingTransfers := rfl

@[simp] theorem publish_completedData (t : UInt64) (p : Bytes) :
    (d.publish t p).completedData = d.completedData.insert t p := rfl

@[simp] theorem storeChunk_receivedChunks (c : DataChunk) (src : NodeID) (now : Nat) :
    (d.storeChunk c src now).receivedChunks =
      d.receivedChunks.alter c.chunkID .empty (·.insert c.sequenceNumber c) := rfl

@[simp] theorem storeChunk_incomingTransfers (c : DataChunk) (src : NodeID) (now : Nat) :
    (d.storeChunk c src now).incomingTransfers =
      d.incomingTransfers.insert c.chunkID (d.receiveRecord c src now) := rfl

@[simp] theorem storeChunk_completedData (c : DataChunk) (src : NodeID) (now : Nat) :
    (d.storeChunk c src now).completedData = d.completedData := rfl

/-- A new record is `IN_PROGRESS`; an existing one keeps its status. -/
theorem receiveRecord_status (c : DataChunk) (src : NodeID) (now : Nat) :
    (d.receiveRecord c src now).status =
      ((d.incomingTransfers.find? c.chunkID).map (·.status)).getD .inProgress := by
  unfold receiveRecord; cases d.incomingTransfers.find? c.chunkID <;> split_ifs <;> rfl

theorem isTransferComplete_eq (t : UInt64) :
    d.isTransferComplete t = ((d.incomingTransfers.find? t).map (·.status) == some .completed) := by
  unfold isTransferComplete; cases d.incomingTransfers.find? t <;> rfl

/-- What `handleDataChunk` leaves of the three tables: the store and the reassembly, then the
completion mark if the reassembly succeeded. -/
theorem handleDataChunk_tables (c : DataChunk) (src : NodeID) (now : Nat) :
    let r := (d.storeChunk c src now).reassembleData c.chunkID
    (d.handleDataChunk c src now).receivedChunks = (d.storeChunk c src now).receivedChunks ∧
      (d.handleDataChunk c src now).incomingTransfers =
        (if r.1 then r.2.incomingTransfers.modify c.chunkID (·.complete true now)
          else r.2.incomingTransfers) ∧
      (d.handleDataChunk c src now).completedData = r.2.completedData := by
  by_cases h : ((d.storeChunk c src now).reassembleData c.chunkID).1 <;> simp [handleDataChunk, h]

/-- A chunk of another transfer leaves the tables of `t` as they were. -/
theorem handleDataChunk_find?_of_ne {t : UInt64} {c : DataChunk} (src : NodeID) (now : Nat)
    (h : t ≠ c.chunkID) :
    (d.handleDataChunk c src now).receivedChunks.find? t = d.receivedChunks.find? t ∧
      (d.handleDataChunk c src now).incomingTransfers.find? t = d.incomingTransfers.find? t ∧
      (d.handleDataChunk c src now).completedData.find? t = d.completedData.find? t := by
  obtain ⟨h₁, h₂, h₃⟩ := handleDataChunk_tables (d := d) c src now
  refine ⟨by simp [h₁, h], ?_, by simp [h₃, reassembleData_completedData_find?_of_ne h]⟩
  rw [h₂]; split_ifs <;> simp [h]

end DataExchange

/-! ### `sendData` as a thread -/

/-- Where a `sendData` call is.  Its record is created in one critical section; each chunk is
then sent (outside the lock) and, if the send succeeded, its progress recorded in a second
critical section; a failed send, or the end of the chunks, is followed by
`markTransferComplete`. -/
inductive SendPc where
  | start
  | sending (rest : List DataChunk)
  | progress (chunk : DataChunk) (rest : List DataChunk)
  | failing
  | done (success : Bool)
  | crashed
  deriving DecidableEq, Repr

/-- The arguments of a `sendData` call, with the generated ID and the answers the router gives
to each chunk (`sendDataChunk`'s `routeMessage`).  `sendDataChunk` wraps a chunk in a `DATA_CHUNK`
message whose payload is a raw copy of the `DataChunk` object, the pointer of its `std::vector`
included, followed by the chunk's bytes; the model keeps the chunk, which is all the router's
answer is taken to depend on.  No code decodes such a payload back into a chunk, and nothing
calls `handleDataChunk`, so what leaves the sender is never what the receiver's functions
take. -/
structure SendCall where
  targetID : NodeID
  data : Bytes
  dataType : String
  transferID : UInt64
  route : DataChunk → Bool

namespace DataExchange

/-- The record `sendData` creates. -/
def sendRecord (d : DataExchange) (call : SendCall) (now : Nat) : DataTransfer :=
  ⟨call.transferID, d.nodeID, call.targetID, call.dataType, call.data.length, 0, .inProgress, now, now⟩

/-- One step of a `sendData` call at `pc`: the new state, the new `pc`, and the chunk handed
to the router, if any. -/
def sendStep (d : DataExchange) (call : SendCall) (now : Nat) :
    SendPc → DataExchange × SendPc × Option DataChunk
  | .start =>
      let d := { d with outgoingTransfers :=
        d.outgoingTransfers.insert call.transferID (d.sendRecord call now) }
      match splitData d.chunkSize call.data call.transferID with
      | some chunks => (d, .sending chunks, none)
      | none => (d, .crashed, none)
  | .sending [] => (d.markTransferComplete call.transferID true now, .done true, none)
  | .sending (c :: rest) =>
      let d := { d with sentDataSize := d.sentDataSize + c.data.length }
      (d, if call.route c then .progress c rest else .failing, some c)
  | .progress c rest => (d.updateTransferProgress call.transferID c.data.length now, .sending rest, none)
  | .failing => (d.markTransferComplete call.transferID false now, .done false, none)
  | .done s => (d, .done s, none)
  | .crashed => (d, .crashed, none)

/-- The loop of `sendData` from a chunk on: each chunk's bytes are added to `sentDataSize_` and
the chunk is handed to the router (`sendDataChunk`); an accepted chunk is recorded by
`updateTransferProgress`, a refused one ends the transfer by `markTransferComplete(t, false)`,
and the end of the chunks by `markTransferComplete(t, true)`.  Returns whether every chunk was
accepted, the node, and the chunks handed to the router (each sent as the `DATA_CHUNK` message
described at `SendCall`). -/
def sendChunks (call : SendCall) (now : Nat) :
    DataExchange → List DataChunk → Bool × DataExchange × List DataChunk
  | d, [] => (true, d.markTransferComplete call.transferID true now, [])
  | d, c :: rest =>
      let d := { d with sentDataSize := d.sentDataSize + c.data.length }
      if call.route c then
        let r := sendChunks call now (d.updateTransferProgress call.transferID c.data.length now) rest
        (r.1, r.2.1, c :: r.2.2)
      else (false, d.markTransferComplete call.transferID false now, [c])

/-- `sendData` as written, in one call, on one reading of the clock: the transfer's ID, or `0`
when a chunk was refused; the node; and the chunks handed to the router.  `none` where
`splitData` divides by a zero chunk size. -/
def sendData (d : DataExchange) (call : SendCall) (now : Nat) :
    Option (UInt64 × DataExchange × List DataChunk) :=
  let d := { d with outgoingTransfers :=
    d.outgoingTransfers.insert call.transferID (d.sendRecord call now) }
  (splitData d.chunkSize call.data call.transferID).map fun chunks =>
    let r := sendChunks call now d chunks
    (if r.1 then call.transferID else 0, r.2.1, r.2.2)

/-! ### What the sending thread reads -/

variable {d : DataExchange}

@[simp] theorem markTransferComplete_chunkSize (t : UInt64) (s : Bool) (now : Nat) :
    (d.markTransferComplete t s now).chunkSize = d.chunkSize := by
  unfold markTransferComplete; split_ifs <;> rfl

@[simp] theorem updateTransferProgress_chunkSize (t : UInt64) (n now : Nat) :
    (d.updateTransferProgress t n now).chunkSize = d.chunkSize := by
  unfold updateTransferProgress; split <;> rfl

@[simp] theorem cancelTransfer_chunkSize (t : UInt64) : (d.cancelTransfer t).2.chunkSize = d.chunkSize :=
  rfl

@[simp] theorem sendStep_chunkSize (call : SendCall) (now : Nat) (pc : SendPc) :
    (d.sendStep call now pc).1.chunkSize = d.chunkSize := by
  cases pc with
  | start => simp only [sendStep]; split <;> rfl
  | sending rest => cases rest <;> simp [sendStep]
  | _ => simp [sendStep]

/-- The sender's step never returns to the start. -/
theorem sendStep_pc_ne_start (call : SendCall) (now : Nat) (pc : SendPc) :
    (d.sendStep call now pc).2.1 ≠ .start := by
  cases pc with
  | start => simp only [sendStep]; split <;> simp
  | sending rest =>
      cases rest with
      | nil => simp [sendStep]
      | cons c rest => simp only [sendStep]; split_ifs <;> simp
  | _ => simp [sendStep]

theorem mem_markTransferComplete_outgoing {k t : UInt64} {s : Bool} {now : Nat} :
    k ∈ (d.markTransferComplete t s now).outgoingTransfers ↔ k ∈ d.outgoingTransfers := by
  unfold markTransferComplete; split_ifs <;> simp

theorem mem_updateTransferProgress_outgoing {k t : UInt64} {n now : Nat} :
    k ∈ (d.updateTransferProgress t n now).outgoingTransfers ↔ k ∈ d.outgoingTransfers := by
  unfold updateTransferProgress
  split
  · rename_i h; have := StdMap.mem_of_find? h; by_cases hk : k = t <;> simp_all
  · rfl

/-- Once the sender has started, its record stays: no step of it erases a record. -/
theorem mem_outgoing_sendStep (call : SendCall) (now : Nat) (pc : SendPc)
    (h : pc = .start ∨ call.transferID ∈ d.outgoingTransfers) :
    call.transferID ∈ (d.sendStep call now pc).1.outgoingTransfers := by
  cases pc with
  | start => simp only [sendStep]; split <;> simp
  | sending rest =>
      cases rest <;> simpa [sendStep, mem_markTransferComplete_outgoing] using h
  | progress c rest => simpa [sendStep, mem_updateTransferProgress_outgoing] using h
  | failing => simpa [sendStep, mem_markTransferComplete_outgoing] using h
  | _ => simpa [sendStep] using h

/-- Where the sending thread goes and what it sends depend on the node only through the chunk
size: not on the clock, and not on any transfer record. -/
theorem sendStep_snd_congr {d' : DataExchange} (h : d.chunkSize = d'.chunkSize) (call : SendCall)
    (now now' : Nat) (pc : SendPc) : (d.sendStep call now pc).2 = (d'.sendStep call now' pc).2 := by
  cases pc with
  | start => simp only [sendStep, h]; split <;> rfl
  | sending rest => cases rest <;> rfl
  | _ => rfl

end DataExchange

end P2POverlay
