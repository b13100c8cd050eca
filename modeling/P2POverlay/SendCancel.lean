/-
**Cancelling a transfer does not stop it** (`sendData`, `cancelTransfer`, `markTransferComplete`).

`sendData` runs on the caller's thread: a critical section creates the record, then each chunk
is sent outside the lock and its progress recorded in a second critical section, and the call
ends with `markTransferComplete`.  `cancelTransfer` runs on another thread, in one critical
section.  A *schedule* is the order in which the two threads take these steps.

`cancelTransfer` sets the outgoing record to `CANCELLED` whatever its status and returns `true`
whenever there is a record.  The sending loop never reads the status: where it goes and what it
sends depend on the node only through the chunk size (`DataExchange.sendStep_snd_congr`), which
a cancel does not change.  So removing the cancels from a schedule changes neither the chunks
sent nor where the sender ends; and every cancel made once the record exists returns `true`,
also after the transfer has completed (`transferRun_cancels_erased`).

A check of the thread model: run alone, the thread ends where the one call
`DataExchange.sendData` returns, with the same node and the same chunks sent
(`transferRun_sendData`), so the steps the schedules interleave are those of the function as
written.

Main definitions:

* `P2POverlay.TransferEvent` — a step of the sending thread, or a call of `cancelTransfer`;
* `P2POverlay.TransferRun`, `P2POverlay.transferRun` — the node, where the sender is, the chunks
  it has handed to the router, and what each cancel returned, after a schedule.

Main results:

* `P2POverlay.SameSender.run` — a run and the same run without its cancels agree on everything
  the sending thread does;
* `P2POverlay.transferRun_cancels_erased` — **on every schedule the sender sends the same chunks
  and ends in the same place as on the schedule without the cancels, and every cancel after the
  sender's first step returns `true`**;
* `P2POverlay.transferRun_sendData` — a check of the thread model: run alone, the thread
  finishes with what `sendData` returns, leaves and sends.
-/

import P2POverlay.DataExchange

set_option relaxedAutoImplicit false
set_option autoImplicit false

namespace P2POverlay

/-- What happens next: the sending thread takes its next step, at a time of the clock, or
another thread calls `cancelTransfer` on the transfer. -/
inductive TransferEvent where
  | send (now : Nat)
  | cancel
  deriving DecidableEq, Repr

/-- The steps of the sending thread. -/
def TransferEvent.isSend : TransferEvent → Bool
  | .send _ => true
  | .cancel => false

/-- The node, where the sending thread is, the chunks it has handed to the router, and what each
`cancelTransfer` call returned. -/
structure TransferRun where
  d : DataExchange
  pc : SendPc
  emitted : List DataChunk
  cancels : List Bool

namespace TransferRun

variable (call : SendCall)

/-- One event of a schedule. -/
def step (s : TransferRun) : TransferEvent → TransferRun
  | .send now =>
      let r := s.d.sendStep call now s.pc
      ⟨r.1, r.2.1, s.emitted ++ r.2.2.toList, s.cancels⟩
  | .cancel =>
      let r := s.d.cancelTransfer call.transferID
      ⟨r.2, s.pc, s.emitted, s.cancels ++ [r.1]⟩

end TransferRun

/-- A schedule run from node `d`, with the sending thread at its start. -/
def transferRun (d : DataExchange) (call : SendCall) (evs : List TransferEvent) : TransferRun :=
  evs.foldl (TransferRun.step call) ⟨d, .start, [], []⟩

/-! ### The sender does not see the cancels -/

/-- Two runs agree on everything the sending thread reads and does. -/
structure SameSender (s s' : TransferRun) : Prop where
  pc : s.pc = s'.pc
  emitted : s.emitted = s'.emitted
  chunkSize : s.d.chunkSize = s'.d.chunkSize

namespace SameSender

variable (call : SendCall) {s s' : TransferRun}

theorem send (h : SameSender s s') (now : Nat) :
    SameSender (s.step call (.send now)) (s'.step call (.send now)) := by
  have hs := DataExchange.sendStep_snd_congr h.chunkSize call now now s'.pc
  exact ⟨by simp [TransferRun.step, h.pc, hs], by simp [TransferRun.step, h.pc, h.emitted, hs],
    by simp [TransferRun.step, h.chunkSize]⟩

theorem cancel_left (h : SameSender s s') : SameSender (s.step call .cancel) s' :=
  ⟨h.pc, h.emitted, h.chunkSize⟩

/-- The run lemma: a run and the same run without its cancels stay in agreement. -/
theorem run : ∀ (evs : List TransferEvent) {s s' : TransferRun}, SameSender s s' →
    SameSender (evs.foldl (TransferRun.step call) s)
      ((evs.filter TransferEvent.isSend).foldl (TransferRun.step call) s')
  | [], _, _, h => h
  | .send now :: evs, _, _, h => run evs (h.send call now)
  | .cancel :: evs, _, _, h => run evs (h.cancel_left call)

end SameSender

/-! ### Cancels once the record exists -/

namespace TransferRun

variable (call : SendCall)

/-- Once the sender has left its start, its record exists. -/
def Started (s : TransferRun) : Prop := s.pc ≠ .start → call.transferID ∈ s.d.outgoingTransfers

theorem started_step {s : TransferRun} (h : s.Started call) (e : TransferEvent) :
    (s.step call e).Started call := by
  cases e with
  | send now =>
      intro _
      exact DataExchange.mem_outgoing_sendStep call now s.pc
        (if hs : s.pc = .start then .inl hs else .inr (h hs))
  | cancel => intro hs; simpa [step, DataExchange.cancelTransfer] using h hs

/-- After the sender's first step, every cancel returns `true`. -/
theorem cancels_foldl : ∀ (post : List TransferEvent) {s : TransferRun}, s.Started call →
    s.pc ≠ .start →
    (post.foldl (step call) s).cancels = s.cancels ++ List.replicate (post.count .cancel) true
  | [], _, _, _ => by simp
  | .send now :: post, s, h, _ => by
      rw [List.foldl_cons, cancels_foldl post (started_step call h (.send now))
        (DataExchange.sendStep_pc_ne_start (d := s.d) call now s.pc), List.count_cons_of_ne (by simp)]
      rfl
  | .cancel :: post, s, h, hs => by
      rw [List.foldl_cons, cancels_foldl post (started_step call h .cancel) hs, List.count_cons_self]
      simp [step, DataExchange.cancelTransfer, h hs, List.replicate_succ]

theorem started_foldl : ∀ (evs : List TransferEvent) {s : TransferRun}, s.Started call →
    (evs.foldl (step call) s).Started call
  | [], _, h => h
  | e :: evs, _, h => started_foldl evs (started_step call h e)

end TransferRun

/-- **Cancelling does not stop a transfer.**  Take any schedule with at least one step of the
sending thread.  The chunks the sender hands to the router, and where it ends (`done true` after
`markTransferComplete(t, true)`, for instance), are those of the same schedule with every cancel
removed; and every cancel made after the sender's first step returned `true`, whatever the
status of the record at that time. -/
theorem transferRun_cancels_erased (d : DataExchange) (call : SendCall)
    (pre post : List TransferEvent) (now : Nat) :
    let evs := pre ++ .send now :: post
    (transferRun d call evs).pc = (transferRun d call (evs.filter TransferEvent.isSend)).pc ∧
      (transferRun d call evs).emitted =
        (transferRun d call (evs.filter TransferEvent.isSend)).emitted ∧
      (transferRun d call evs).cancels =
        (transferRun d call (pre ++ [.send now])).cancels ++
          List.replicate (post.count .cancel) true := by
  intro evs
  have h := SameSender.run call evs (s := ⟨d, .start, [], []⟩) ⟨rfl, rfl, rfl⟩
  refine ⟨h.pc, h.emitted, ?_⟩
  have hstart := TransferRun.started_foldl call pre (s := ⟨d, .start, [], []⟩) fun h => absurd rfl h
  unfold transferRun
  rw [show evs = (pre ++ [.send now]) ++ post by simp [evs], List.foldl_append, List.foldl_append,
    List.foldl_cons, List.foldl_nil]
  exact TransferRun.cancels_foldl call post (TransferRun.started_step call hstart _)
    (DataExchange.sendStep_pc_ne_start call now _)

/-! ### Alone, the thread is `sendData` -/

namespace TransferRun

variable (call : SendCall) (now : Nat)

/-- A thread at a `pc` its step does not leave stays there, whatever steps it is given. -/
theorem foldl_sends_idle (pc : SendPc) (hpc : ∀ d : DataExchange, d.sendStep call now pc = (d, pc, none))
    (d : DataExchange) (e : List DataChunk) (cs : List Bool) :
    ∀ m, (List.replicate m (TransferEvent.send now)).foldl (step call) ⟨d, pc, e, cs⟩ = ⟨d, pc, e, cs⟩
  | 0 => rfl
  | m + 1 => by simpa [List.replicate_succ, step, hpc] using foldl_sends_idle pc hpc d e cs m

/-- From the chunks left to send, the thread alone reaches what the loop of `sendData` returns:
two steps per accepted chunk, two for a refused one, one at the end. -/
theorem foldl_sends_sendChunks : ∀ (chunks : List DataChunk) (d : DataExchange) (e : List DataChunk),
    ∃ k, (List.replicate k (TransferEvent.send now)).foldl (step call) ⟨d, .sending chunks, e, []⟩ =
      let r := DataExchange.sendChunks call now d chunks
      ⟨r.2.1, .done r.1, e ++ r.2.2, []⟩
  | [], d, e => ⟨1, by simp [step, DataExchange.sendStep, DataExchange.sendChunks]⟩
  | c :: rest, d, e => by
      by_cases hc : call.route c
      · obtain ⟨k, hk⟩ := foldl_sends_sendChunks rest
          ({ d with sentDataSize := d.sentDataSize + c.data.length }.updateTransferProgress
            call.transferID c.data.length now) (e ++ [c])
        refine ⟨k + 1 + 1, ?_⟩
        simp [List.replicate_succ, step, DataExchange.sendStep, DataExchange.sendChunks, hc, hk]
      · exact ⟨2, by simp [step, DataExchange.sendStep, DataExchange.sendChunks, hc]⟩

end TransferRun

/-- **Run alone, the sending thread is `sendData`**, a check that the thread model splits the
function faithfully.  With no other thread between its steps and the clock standing still, the
thread finishes and stays where it finished.  Where `splitData`
returns chunks it ends `done`, with the node `sendData` leaves and the chunks `sendData` hands to
the router, and `sendData` returns the transfer's ID exactly when the thread ends `done true`
(`0` otherwise); where `splitData` divides by zero, it ends `crashed`.  So the steps the race
results interleave are those of the function as written. -/
theorem transferRun_sendData (d : DataExchange) (call : SendCall) (now : Nat) :
    ∃ n, ∀ m, n ≤ m →
      let s := transferRun d call (List.replicate m (.send now))
      match d.sendData call now with
      | some (id, d', sent) =>
          ∃ ok, s = ⟨d', .done ok, sent, []⟩ ∧ id = if ok then call.transferID else 0
      | none => s.pc = .crashed := by
  unfold transferRun DataExchange.sendData
  dsimp only
  cases hsplit : DataExchange.splitData d.chunkSize call.data call.transferID with
  | none =>
      refine ⟨1, fun m hm => ?_⟩
      obtain ⟨j, rfl⟩ := Nat.exists_eq_add_of_le' hm
      simp [List.replicate_succ, TransferRun.step, DataExchange.sendStep, hsplit,
        TransferRun.foldl_sends_idle call now .crashed (fun _ => rfl)]
  | some chunks =>
      obtain ⟨k, hk⟩ := TransferRun.foldl_sends_sendChunks call now chunks
        { d with outgoingTransfers := d.outgoingTransfers.insert call.transferID (d.sendRecord call now) } []
      refine ⟨k + 1, fun m hm => ⟨_, ?_, rfl⟩⟩
      obtain ⟨j, rfl⟩ := Nat.exists_eq_add_of_le hm
      rw [List.replicate_add, List.foldl_append, List.replicate_succ, List.foldl_cons]
      simp only [TransferRun.step, DataExchange.sendStep, hsplit]
      simpa [hk] using TransferRun.foldl_sends_idle call now (.done _) (fun _ => rfl) _ _ _ j

/-- Three bytes in chunks of two, every send routed: a cancel between the two chunks returns
`true`, the second chunk is still sent and the transfer ends `COMPLETED`; a cancel after that
returns `true` again and turns the completed record to `CANCELLED`. -/
example :
    let call : SendCall := ⟨2, [1, 2, 3], "", 7, fun _ => true⟩
    let s := transferRun ((DataExchange.new 1).setChunkSize 2) call
      [.send 0, .send 1, .cancel, .send 2, .send 3, .send 4, .send 5]
    let s' := s.step call .cancel
    s.emitted.map (·.sequenceNumber) = [0, 1] ∧ s.pc = .done true ∧
      (s.d.outgoingTransfers.find? 7).map (·.status) = some .completed ∧
      s'.cancels = [true, true] ∧ (s'.d.outgoingTransfers.find? 7).map (·.status) = some .cancelled := by
  decide

end P2POverlay
