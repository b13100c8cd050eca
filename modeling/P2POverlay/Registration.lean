/-
**Registration of nodes** (`NodeRegistration::validateRegistrationRequest`,
`NodeRegistration::handleRegistrationRequest`, `NodeRegistration::acceptRegistration`,
`NodeRegistration::rejectRegistration`, `NodeRegistration::getPendingRegistrations`,
`NodeRegistration::processPendingRegistrations`, `NodeRegistration::registerWithNetwork`,
`NodeRegistration::registerWithNode`).

`NodeRegistration` shares the node and the topology with `DynamicNodeManager`: the simulator
builds both on the same pointers.  Its operations therefore act on an `Overlay`, beside the state
they own: the pending requests, the authorisation callback, and the rejections they print.

The replay guard of `validateRegistrationRequest` reads `system_clock::now()`, an `int64_t` count
of nanoseconds; turns the request's `uint64_t` timestamp into `milliseconds`, an `int64_t` count,
and then into the clock's nanoseconds; subtracts; and casts the difference to whole seconds,
truncating toward zero.  It refuses only an age above 60 s, so every timestamp in the future
passes, and so does one 60.9 s old (`elapsedSeconds_le_iff`).  The conversions and the difference
are `int64_t`: past `2 ^ 63` ns, about `9.2 * 10 ^ 12` ms, the conversion wraps, and a timestamp
`2 ^ 58` ms later cannot be told from the original (`elapsedSeconds_eq_of_toNat_eq_add`).

`acceptRegistration` adds the node to the topology, then to the roster, and removes it from the
topology again when the roster refuses it; `DynamicNodeManager::addNode` records the node, then
erases the record when the topology refuses it.  Under the topology invariant, which every run of
topology operations keeps (`topologyRun_invariant`), each rollback restores the state exactly.

No function stores a request in `pendingRegistrations_`: accepting and rejecting only mark a
request already there.

Main definitions:

* `P2POverlay.TimePoint`, `P2POverlay.wrapInt64`, `P2POverlay.elapsedSeconds` — the clock, the
  `int64_t` arithmetic of `std::chrono`, and the age of a request;
* `P2POverlay.RegistrationRequest`, `P2POverlay.NodeRegistration`;
* `P2POverlay.NodeRegistration.validateRegistrationRequest`, `acceptRegistration`,
  `rejectRegistration`, `handleRegistrationRequest`, `getPendingRegistrations`,
  `processPendingRegistrations`.

Main results:

* `P2POverlay.validateRegistrationRequest_window` — **the replay guard passes every timestamp in
  the future and every age below 61 s, and cannot tell timestamps `2 ^ 58` ms apart**;
* `P2POverlay.NodeRegistration.acceptRegistration_of_fst_eq_false`,
  `P2POverlay.NodeRegistration.handleRegistrationRequest_of_fst_eq_false` — the rollbacks are
  exact;
* `P2POverlay.failed_additions_atomic` — **a failed addition leaves the membership registry, the
  topology and the roster as they were; a successful `addNode` leaves the node `ACTIVE` and
  registered with its address**;
* `P2POverlay.NodeRegistration.registerWithNode_rejected` — **registering with a node never
  succeeds: the local node's own request is refused before any connection**.
-/

import P2POverlay.Membership
import P2POverlay.TopologyInvariant
import P2POverlay.Transport

set_option relaxedAutoImplicit false
set_option autoImplicit false

namespace P2POverlay

/-! ### The clock -/

/-- `std::chrono::system_clock::time_point`: the `int64_t` count of nanoseconds since the
epoch. -/
structure TimePoint where
  count : Int
  lower : -2 ^ 63 ≤ count
  upper : count < 2 ^ 63

/-- The `int64_t` result of an operation on `std::chrono` counts: the exact result wrapped to
`[-2 ^ 63, 2 ^ 63)`.  Signed overflow is undefined in C++; on the targets the code is built for it
wraps, which is what is modelled. -/
def wrapInt64 (x : Int) : Int := (x + 2 ^ 63) % 2 ^ 64 - 2 ^ 63

/-- `duration_cast<seconds>(now - time_point(milliseconds(timestamp))).count()`: the timestamp
becomes an `int64_t` count of milliseconds, then of nanoseconds; the difference is truncated to
whole seconds. -/
def elapsedSeconds (now : TimePoint) (timestamp : UInt64) : Int :=
  let requestTime := wrapInt64 (wrapInt64 timestamp.toNat * 1000000)
  Int.tdiv (wrapInt64 (now.count - requestTime)) 1000000000

theorem wrapInt64_of_mem {x : Int} (h₁ : -2 ^ 63 ≤ x) (h₂ : x < 2 ^ 63) : wrapInt64 x = x := by
  unfold wrapInt64
  omega

theorem wrapInt64_add_mul (x k : Int) : wrapInt64 (x + k * 2 ^ 64) = wrapInt64 x := by
  unfold wrapInt64
  omega

/-- Wrapping before a product changes nothing after it. -/
theorem wrapInt64_wrapInt64_mul (x c : Int) : wrapInt64 (wrapInt64 x * c) = wrapInt64 (x * c) := by
  have hq : wrapInt64 x = x + -((x + 2 ^ 63) / 2 ^ 64) * 2 ^ 64 := by
    unfold wrapInt64
    omega
  rw [hq, show (x + -((x + 2 ^ 63) / 2 ^ 64) * 2 ^ 64) * c =
    x * c + (-((x + 2 ^ 63) / 2 ^ 64) * c) * 2 ^ 64 by ring, wrapInt64_add_mul]

/-- Truncation toward zero: an age of at most 60 whole seconds is a difference below 61 s. -/
theorem tdiv_le_sixty_iff (d : Int) : Int.tdiv d 1000000000 ≤ 60 ↔ d < 61000000000 := by
  rcases le_or_lt 0 d with hd | hd
  · rw [Int.tdiv_eq_ediv hd (by decide)]
    omega
  · have hneg := Int.tdiv_nonneg (Int.neg_nonneg_of_nonpos hd.le) (show (0 : Int) ≤ 1000000000 by decide)
    rw [Int.neg_tdiv] at hneg
    omega

/-- **Without overflow the guard passes exactly the differences below 61 s**: every timestamp in
the future, and every age below 61 s. -/
theorem elapsedSeconds_le_iff (now : TimePoint) (timestamp : UInt64)
    (h₁ : (timestamp.toNat : Int) * 1000000 < 2 ^ 63)
    (h₂ : -2 ^ 63 ≤ now.count - timestamp.toNat * 1000000) :
    elapsedSeconds now timestamp ≤ 60 ↔ now.count < timestamp.toNat * 1000000 + 61000000000 := by
  have hnow := now.upper
  unfold elapsedSeconds
  dsimp only
  rw [wrapInt64_of_mem (x := (timestamp.toNat : Int)) (by omega) (by omega),
    wrapInt64_of_mem (by omega) h₁, wrapInt64_of_mem h₂ (by omega), tdiv_le_sixty_iff]
  omega

/-- **The conversion wraps**: timestamps `2 ^ 58` ms apart, whose nanosecond counts differ by a
multiple of `2 ^ 64`, have the same age. -/
theorem elapsedSeconds_eq_of_toNat_eq_add (now : TimePoint) {timestamp timestamp' : UInt64}
    (h : timestamp'.toNat = timestamp.toNat + 2 ^ 58) :
    elapsedSeconds now timestamp' = elapsedSeconds now timestamp := by
  unfold elapsedSeconds
  dsimp only
  rw [h, wrapInt64_wrapInt64_mul, wrapInt64_wrapInt64_mul, Nat.cast_add,
    show ((timestamp.toNat : Int) + (2 ^ 58 : Nat)) * 1000000 =
      timestamp.toNat * 1000000 + 15625 * 2 ^ 64 by push_cast; ring, wrapInt64_add_mul]

/-! ### Requests and their validation -/

/-- `RegistrationStatus`. -/
inductive RegistrationStatus where
  | pending | registered | rejected | failed
  deriving DecidableEq, Repr

/-- `RegistrationRequest`; its `nodeInfo` is never read. -/
structure RegistrationRequest where
  nodeID : NodeID
  address : NetworkAddress
  timestamp : UInt64
  status : RegistrationStatus
  deriving DecidableEq, Repr

/-- The state `NodeRegistration` owns: `pendingRegistrations_`, `authorizationCallback_` (`none`
when unset), and the rejections `rejectRegistration` has printed, with their reasons. -/
structure NodeRegistration where
  pendingRegistrations : StdMap NodeID RegistrationRequest
  authorizationCallback : Option (NodeID → NetworkAddress → Bool)
  rejections : List (NodeID × String)

namespace NodeRegistration

/-- `validateNodeID`: not `0`, and not the local node. -/
def validateNodeID (node : Node) (nodeID : NodeID) : Bool :=
  nodeID ≠ 0 ∧ nodeID ≠ node.nodeID

/-- `validateAddress`: a host and a port, the port from `1024` on, and not the local address. -/
def validateAddress (node : Node) (address : NetworkAddress) : Bool :=
  !(address.host = "" ∨ address.port = 0) && !(address.port < 1024 ∨ 65535 < address.port.toNat) &&
    address ≠ node.address

/-- `validateRegistrationRequest`, with the clock reading `now`. -/
def validateRegistrationRequest (o : Overlay) (now : TimePoint) (request : RegistrationRequest) :
    Bool :=
  validateNodeID o.node request.nodeID && validateAddress o.node request.address &&
    !o.topology.nodeExists request.nodeID && !(60 < elapsedSeconds now request.timestamp)

/-- What an accepted request passed: the ID, the address, the topology, and an age of at most
60 whole seconds. -/
theorem validateRegistrationRequest_eq_true {o : Overlay} {now : TimePoint}
    {request : RegistrationRequest} :
    validateRegistrationRequest o now request = true ↔
      validateNodeID o.node request.nodeID = true ∧ validateAddress o.node request.address = true ∧
        o.topology.nodeExists request.nodeID = false ∧ elapsedSeconds now request.timestamp ≤ 60 := by
  simp [validateRegistrationRequest, and_assoc]

/-- `rejectRegistration`: a pending request of the node becomes `REJECTED`, and the reason is
printed. -/
def rejectRegistration (r : NodeRegistration) (nodeID : NodeID) (reason : String) :
    Bool × NodeRegistration :=
  (true,
    { r with
      pendingRegistrations :=
        r.pendingRegistrations.modify nodeID fun request => { request with status := .rejected }
      rejections := r.rejections ++ [(nodeID, reason)] })

/-- `acceptRegistration`: the node joins the topology, then the roster; when the roster refuses
it, it is removed from the topology again. -/
def acceptRegistration (r : NodeRegistration) (o : Overlay) (nodeID : NodeID)
    (address : NetworkAddress) : Bool × NodeRegistration × Overlay :=
  let added := o.topology.addNode nodeID address
  if !added.1 then (false, r, o)
  else
    let peer := o.node.addPeer nodeID address
    if !peer.1 then (false, r, { o with topology := (added.2.removeNode nodeID).2 })
    else
      (true,
        { r with
          pendingRegistrations :=
            r.pendingRegistrations.modify nodeID fun request => { request with status := .registered } },
        { o with topology := added.2, node := peer.2 })

/-- `handleRegistrationRequest`, with the clock reading `now`: refused without a reason when
invalid, rejected with one when the callback refuses the node or the roster is full, and
otherwise accepted. -/
def handleRegistrationRequest (r : NodeRegistration) (o : Overlay) (now : TimePoint)
    (request : RegistrationRequest) : Bool × NodeRegistration × Overlay :=
  if !validateRegistrationRequest o now request then (false, r, o)
  else if r.authorizationCallback.any fun authorize => !authorize request.nodeID request.address then
    (false, (r.rejectRegistration request.nodeID "Node not authorized").2, o)
  else if maxPeers ≤ o.node.getPeerCount then
    (false, (r.rejectRegistration request.nodeID "Maximum peer limit reached").2, o)
  else r.acceptRegistration o request.nodeID request.address

/-- `getPendingRegistrations()`: the requests still `PENDING`, in increasing order of their IDs. -/
def getPendingRegistrations (r : NodeRegistration) : List RegistrationRequest :=
  (r.pendingRegistrations.entries.map Prod.snd).filter fun request => request.status = .pending

/-- `processPendingRegistrations()`, with the clock reading `now`: `handleRegistrationRequest` on
each pending request in turn. -/
def processPendingRegistrations (r : NodeRegistration) (o : Overlay) (now : TimePoint) :
    NodeRegistration × Overlay :=
  r.getPendingRegistrations.foldl (fun s request => (s.1.handleRegistrationRequest s.2 now request).2)
    (r, o)

/-- No request is ever stored: `handleRegistrationRequest` only marks requests already there. -/
theorem handleRegistrationRequest_pendingRegistrations {r : NodeRegistration}
    (h : r.pendingRegistrations = .empty) (o : Overlay) (now : TimePoint)
    (request : RegistrationRequest) :
    (r.handleRegistrationRequest o now request).2.1.pendingRegistrations = .empty := by
  simp only [handleRegistrationRequest, rejectRegistration, acceptRegistration, h,
    apply_ite (fun x : Bool × NodeRegistration × Overlay => x.2.1.pendingRegistrations),
    StdMap.modify_empty, ite_self]

theorem getPendingRegistrations_of_empty {r : NodeRegistration}
    (h : r.pendingRegistrations = .empty) : r.getPendingRegistrations = [] := by
  rw [getPendingRegistrations, h]
  rfl

/-- With nothing stored, processing changes nothing. -/
theorem processPendingRegistrations_of_empty {r : NodeRegistration}
    (h : r.pendingRegistrations = .empty) (o : Overlay) (now : TimePoint) :
    r.processPendingRegistrations o now = (r, o) := by
  rw [processPendingRegistrations, getPendingRegistrations_of_empty h, List.foldl_nil]

/-! ### Failed additions -/

/-- **A refused registration leaves everything as it was**: either the topology refused the node
and nothing changed, or the roster refused it and the topology is back as it was. -/
theorem acceptRegistration_of_fst_eq_false {r : NodeRegistration} {o : Overlay} (hinv : o.topology.Inv)
    {nodeID : NodeID} {address : NetworkAddress} (h : (r.acceptRegistration o nodeID address).1 = false) :
    (r.acceptRegistration o nodeID address).2 = (r, o) := by
  unfold acceptRegistration at h ⊢
  dsimp only at h ⊢
  split_ifs at h ⊢ with hadd
  · rfl
  · have hx : nodeID ∉ o.topology.nodeRegistry := fun hm => by
      simp [TopologyManager.addNode, hm] at hadd
    rw [hinv.removeNode_addNode hx]

/-- A failed `handleRegistrationRequest` leaves the shared state as it was; only the request's
status and the printed rejections may change. -/
theorem handleRegistrationRequest_of_fst_eq_false {r : NodeRegistration} {o : Overlay}
    (hinv : o.topology.Inv) {now : TimePoint} {request : RegistrationRequest}
    (h : (r.handleRegistrationRequest o now request).1 = false) :
    (r.handleRegistrationRequest o now request).2.2 = o := by
  unfold handleRegistrationRequest at h ⊢
  split_ifs at h ⊢
  · rfl
  · rfl
  · rfl
  · rw [acceptRegistration_of_fst_eq_false hinv h]

/-! ### Registering the local node -/

/-- `registerWithNetwork(bootstrapAddress)`: `FAILED` when `connectToPeer` fails; otherwise
`REGISTERED`, and the local node is added to the topology.  The answer, the new
`registrationStatus_`, the shared components and the manager.  No caller sets a callback that
does anything. -/
def registerWithNetwork (o : Overlay) (nm : NetworkManager) (bootstrapAddress : NetworkAddress)
    (connect : NetworkAddress → Bool) : Bool × RegistrationStatus × Overlay × NetworkManager :=
  let c := nm.connectToPeer bootstrapAddress connect
  if c.1 then
    (true, .registered, { o with topology := (o.topology.addNode o.node.nodeID o.node.address).2 }, c.2)
  else (false, .failed, o, c.2)

/-- `registerWithNetwork` stores nothing in the manager, and changes the shared components only
by a topology operation. -/
theorem registerWithNetwork_components (o : Overlay) (nm : NetworkManager)
    (bootstrapAddress : NetworkAddress) (connect : NetworkAddress → Bool) :
    let r := registerWithNetwork o nm bootstrapAddress connect
    r.2.2.2 = nm ∧ r.2.2.1.node = o.node ∧ r.2.2.1.nodeRegistry = o.nodeRegistry ∧
      o.topology.RunsTo r.2.2.1.topology := by
  unfold registerWithNetwork NetworkManager.connectToPeer
  dsimp only
  split_ifs
  · exact ⟨rfl, rfl, rfl, .op _ (.addNode _ _)⟩
  · exact ⟨rfl, rfl, rfl, .refl _⟩

/-- `performRegistrationHandshake(targetNodeID, targetAddress)`: a connection to the target. -/
def performRegistrationHandshake (nm : NetworkManager) (targetAddress : NetworkAddress)
    (connect : NetworkAddress → Bool) : Bool × NetworkManager :=
  nm.connectToPeer targetAddress connect

/-- `registerWithNode(targetNodeID, targetAddress)` with the clock reading `now`; `timestamp` is
the clock in milliseconds when the request was made.  `FAILED` for an invalid target address;
then the local node's request is validated, `REJECTED` if refused; then the handshake decides
between `FAILED` and `REGISTERED`.  The handshake ignores `targetNodeID`. -/
def registerWithNode (o : Overlay) (nm : NetworkManager) (now : TimePoint) (timestamp : UInt64)
    (targetAddress : NetworkAddress) (connect : NetworkAddress → Bool) :
    Bool × RegistrationStatus × NetworkManager :=
  if !validateAddress o.node targetAddress then (false, .failed, nm)
  else
    let request : RegistrationRequest := ⟨o.node.nodeID, o.node.address, timestamp, .pending⟩
    if !validateRegistrationRequest o now request then (false, .rejected, nm)
    else
      let handshake := performRegistrationHandshake nm targetAddress connect
      if handshake.1 then (true, .registered, handshake.2) else (false, .failed, handshake.2)

/-- `registerWithNode` stores nothing in the manager. -/
theorem registerWithNode_networkManager (o : Overlay) (nm : NetworkManager) (now : TimePoint)
    (timestamp : UInt64) (targetAddress : NetworkAddress) (connect : NetworkAddress → Bool) :
    (registerWithNode o nm now timestamp targetAddress connect).2.2 = nm := by
  unfold registerWithNode performRegistrationHandshake NetworkManager.connectToPeer
  dsimp only
  split_ifs <;> rfl

/-- **Registering with a node never succeeds.**  The request `registerWithNode` validates carries
the local node's own ID, which `validateNodeID` refuses; so the call returns `false` before the
handshake, whatever the state, the clock and the target, with the status `FAILED` for an invalid
target address and `REJECTED` for a valid one, and no connection attempted. -/
theorem registerWithNode_rejected (o : Overlay) (nm : NetworkManager) (now : TimePoint)
    (timestamp : UInt64) (targetAddress : NetworkAddress) (connect : NetworkAddress → Bool) :
    registerWithNode o nm now timestamp targetAddress connect =
      (false, if validateAddress o.node targetAddress then .rejected else .failed, nm) := by
  have hself : validateRegistrationRequest o now
      ⟨o.node.nodeID, o.node.address, timestamp, .pending⟩ = false := by
    simp [validateRegistrationRequest, validateNodeID]
  unfold registerWithNode
  cases validateAddress o.node targetAddress <;> simp [hself]

end NodeRegistration

/-- **The replay guard passes the future.**  An accepted request passed the ID, address and
existence checks.  When its timestamp converts to nanoseconds without overflow and the difference
to the clock fits an `int64_t`, the time check passes exactly when the clock is less than 61 s
past the timestamp: every timestamp in the future passes, however far ahead, and so does an age
of 60.9 s.  And a timestamp `2 ^ 58` ms after the request's is treated as the request's own. -/
theorem validateRegistrationRequest_window (o : Overlay) (now : TimePoint)
    (request : RegistrationRequest) :
    (NodeRegistration.validateRegistrationRequest o now request = true →
      NodeRegistration.validateNodeID o.node request.nodeID = true ∧
        NodeRegistration.validateAddress o.node request.address = true ∧
        o.topology.nodeExists request.nodeID = false) ∧
    ((request.timestamp.toNat : Int) * 1000000 < 2 ^ 63 →
      -2 ^ 63 ≤ now.count - request.timestamp.toNat * 1000000 →
      (NodeRegistration.validateRegistrationRequest o now request = true ↔
        NodeRegistration.validateNodeID o.node request.nodeID = true ∧
          NodeRegistration.validateAddress o.node request.address = true ∧
          o.topology.nodeExists request.nodeID = false ∧
          now.count < request.timestamp.toNat * 1000000 + 61000000000)) ∧
    (∀ timestamp : UInt64, timestamp.toNat = request.timestamp.toNat + 2 ^ 58 →
      NodeRegistration.validateRegistrationRequest o now { request with timestamp } =
        NodeRegistration.validateRegistrationRequest o now request) := by
  refine ⟨fun h => ?_, fun h₁ h₂ => ?_, fun timestamp h => ?_⟩
  · obtain ⟨hid, haddr, hnew, -⟩ := NodeRegistration.validateRegistrationRequest_eq_true.1 h
    exact ⟨hid, haddr, hnew⟩
  · rw [NodeRegistration.validateRegistrationRequest_eq_true, elapsedSeconds_le_iff now _ h₁ h₂]
  · simp only [NodeRegistration.validateRegistrationRequest, elapsedSeconds_eq_of_toNat_eq_add now h]

/-- At `2023-11-14T22:13:20Z`, node `1` gets a request of node `2` stamped an hour later, at
`1 700 003 600 000` ms: no conversion overflows, so the time check is the window of the second
part, and the request passes. -/
theorem validateRegistrationRequest_window_hour_ahead :
    let o := Overlay.new ⟨1, ⟨"a", 9000⟩, [], [], 0⟩
    let now : TimePoint := ⟨1700000000000000000, by decide, by decide⟩
    let request : RegistrationRequest := ⟨2, ⟨"b", 9001⟩, 1700003600000, .pending⟩
    ((request.timestamp.toNat : Int) * 1000000 < 2 ^ 63 ∧
      -2 ^ 63 ≤ now.count - request.timestamp.toNat * 1000000) ∧
      (NodeRegistration.validateRegistrationRequest o now request = true ↔
        NodeRegistration.validateNodeID o.node request.nodeID = true ∧
          NodeRegistration.validateAddress o.node request.address = true ∧
          o.topology.nodeExists request.nodeID = false ∧
          now.count < request.timestamp.toNat * 1000000 + 61000000000) ∧
      NodeRegistration.validateRegistrationRequest o now request = true := by
  intro o now request
  have h₁ : (request.timestamp.toNat : Int) * 1000000 < 2 ^ 63 := by decide
  have h₂ : -2 ^ 63 ≤ now.count - request.timestamp.toNat * 1000000 := by decide
  exact ⟨⟨h₁, h₂⟩, (validateRegistrationRequest_window o now request).2.1 h₁ h₂, by decide⟩

/-- An addition that succeeds leaves the node `ACTIVE` in the membership registry and registered
in the topology with the address given. -/
theorem Overlay.addNode_fst_eq_true {o : Overlay} {nodeID : NodeID} {address : NetworkAddress}
    {now : Nat} (h : (o.addNode nodeID address now).1 = true) :
    (o.addNode nodeID address now).2.getNodeState nodeID = .active ∧
      (o.addNode nodeID address now).2.topology.nodeRegistry.find? nodeID = some address := by
  obtain ⟨-, -, hfresh, htop, -, hreg⟩ := Overlay.addNode_eq_true (Prod.ext h rfl)
  refine ⟨by simp [Overlay.getNodeState, hreg], ?_⟩
  rw [htop, TopologyManager.addNode, if_neg hfresh, StdMap.find?_insert, if_pos rfl]

/-- **Failed additions change nothing.**  Under the topology invariant: when
`DynamicNodeManager::addNode` returns `false`, the overlay, membership registry, topology and
roster included, is as it was, and when it returns `true` the node is `ACTIVE` in the membership
registry and registered in the topology with the address given; when `acceptRegistration`
returns `false`, the registration state and the overlay are as they were; and when
`handleRegistrationRequest` returns `false`, the overlay is. -/
theorem failed_additions_atomic (o : Overlay) (hinv : o.topology.Inv) (r : NodeRegistration)
    (nodeID : NodeID) (address : NetworkAddress) (now : Nat) (clock : TimePoint)
    (request : RegistrationRequest) :
    ((o.addNode nodeID address now).1 = false → (o.addNode nodeID address now).2 = o) ∧
    ((o.addNode nodeID address now).1 = true →
      (o.addNode nodeID address now).2.getNodeState nodeID = .active ∧
        (o.addNode nodeID address now).2.topology.nodeRegistry.find? nodeID = some address) ∧
    ((r.acceptRegistration o nodeID address).1 = false →
      (r.acceptRegistration o nodeID address).2 = (r, o)) ∧
    ((r.handleRegistrationRequest o clock request).1 = false →
      (r.handleRegistrationRequest o clock request).2.2 = o) :=
  ⟨Overlay.addNode_eq_self_of_fst_eq_false, Overlay.addNode_fst_eq_true,
    NodeRegistration.acceptRegistration_of_fst_eq_false hinv,
    NodeRegistration.handleRegistrationRequest_of_fst_eq_false hinv⟩

/-- Node `1` with a full roster of ten peers, `2` to `11`, an empty membership registry, and a
topology that already knows `12`: adding `12` is refused by the topology after its record was
made, and registering `13` is refused by the roster after the topology took it.  Both undo what
they did and leave everything as it was. -/
theorem failed_additions_atomic_full_roster :
    let o : Overlay := { Overlay.new ⟨1, ⟨"a", 9000⟩, [2, 3, 4, 5, 6, 7, 8, 9, 10, 11],
        List.replicate 10 ⟨"p", 9100⟩, 0⟩ with
      topology := ((TopologyManager.new 1).addNode 12 ⟨"c", 9012⟩).2 }
    let r : NodeRegistration := ⟨StdMap.empty, none, []⟩
    o.topology.Inv ∧
      ((o.addNode 12 ⟨"c", 9012⟩ 0).1 = false ∧ (o.addNode 12 ⟨"c", 9012⟩ 0).2 = o) ∧
      ((r.acceptRegistration o 13 ⟨"d", 9013⟩).1 = false ∧
        (r.acceptRegistration o 13 ⟨"d", 9013⟩).2 = (r, o)) := by
  intro o r
  have hinv : o.topology.Inv := (TopologyManager.Inv.new 1).addNode 12 _
  have ha : (o.addNode 12 ⟨"c", 9012⟩ 0).1 = false := by decide
  have hr : (r.acceptRegistration o 13 ⟨"d", 9013⟩).1 = false := by decide
  let clock : TimePoint := ⟨0, by decide, by decide⟩
  let request : RegistrationRequest := ⟨13, ⟨"d", 9013⟩, 0, .pending⟩
  exact ⟨hinv, ⟨ha, (failed_additions_atomic o hinv r 12 ⟨"c", 9012⟩ 0 clock request).1 ha⟩,
    ⟨hr, (failed_additions_atomic o hinv r 13 ⟨"d", 9013⟩ 0 clock request).2.2.1 hr⟩⟩

end P2POverlay
