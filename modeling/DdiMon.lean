import DdiMon.Basic
import DdiMon.Registry
import DdiMon.Shadow
import DdiMon.Handlers
import DdiMon.Machine
import DdiMon.Invariant
import DdiMon.Reachable
import DdiMon.Views
import DdiMon.Breakpoint
import DdiMon.SingleStep
import DdiMon.Multiprocessor
import DdiMon.DataView
import DdiMon.Posts
import DdiMon.Execution
import DdiMon.Termination
import DdiMon.Interleaving
import DdiMon.Hooks
import DdiMon.Windows
import DdiMon.Coherence
import DdiMon.Setup
import DdiMon.Faults
