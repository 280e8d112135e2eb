import DdiMon.Handlers

/-!
# One processor running a guest over the engine

`Machine` is the engine's shared state, one processor's VMCS, and whether `SbpStart` has
run. `Machine.step` applies one event: an entry point called from kernel context, a VM exit
and its handler, or one effect of a guest instruction. `Machine.enabled` says when the
hardware and the driver's setup code can produce the event.

* The driver installs its pre breakpoints before `SbpStart`, and calls each once.
* A `#BP` exit at `guestIp` happens when the guest executes `int 3` there. The byte it
  fetches through the EPT entry is `0xcc`, and the monitor trap flag is clear: while it is
  armed the guest runs a single instruction, which was fetched from the rw copy and is not
  an engine trap.
* An MTF exit happens when the monitor trap flag is armed.
* An EPT violation happens when the guest reads or writes guest-physical address `gpa` and
  the entry denies it. The handler is given the guest virtual address `faultVa`; the guest's
  page tables, which relate the two, are not modelled, so `faultVa` is unconstrained.
* A guest store goes through the EPT entry when it allows writes; a guest instruction may
  also set RFLAGS to any value.
* The bulk-disable hypercall of `SbpTermination` runs after `SbpStart`, from kernel
  context.

`Reachable` is every machine these events reach from `SbpInitialization`, for any initial
guest memory, RFLAGS and pool.
-/

namespace DdiMon

/-! ### What the guest sees through the EPT -/

/-- The byte a guest read of guest-physical address `a` returns, if the entry allows it. -/
def State.guestRead (s : State) (a : Nat) : Option UInt8 :=
  if (s.ept (a / pageSize)).readAccess then
    some (s.frameByte (s.ept (a / pageSize)).physialAddress (byteOffset a))
  else none

/-- The byte an instruction fetch of guest-physical address `a` returns, if allowed. -/
def State.guestFetch (s : State) (a : Nat) : Option UInt8 :=
  if (s.ept (a / pageSize)).executeAccess then
    some (s.frameByte (s.ept (a / pageSize)).physialAddress (byteOffset a))
  else none

/-- A guest store of `v` at guest-physical address `a`, through the page's EPT entry. -/
def State.guestWrite (s : State) (a : Nat) (v : UInt8) : State :=
  s.writeFrame v (s.ept (a / pageSize)).physialAddress (byteOffset a)

/-- The state before `SbpInitialization`: null globals, the identity EPT, guest memory
`memory`, nothing allocated, and a pool that refuses the allocations `poolFails` names. -/
def State.boot (memory : Nat → UInt8) (poolFails : Nat → Bool) : State where
  breakpoints := none
  lastBreakpoint := none
  previouseGuestInterruptFlag := false
  ept := EptEntry.identity
  memory := memory
  pool := fun _ _ => 0
  nextPage := 0
  poolFails := poolFails
  nextObject := 0
  copiedFrom := fun _ => 0
  snapshot := fun _ _ => 0
  failedChecks := []
  calls := []

/-! ### Events -/

/-- One step of the system. -/
inductive Event
  /-- `SbpCreatePreBreakpoint(address, target, ...)` from the driver's setup code. -/
  | createPreBreakpoint (address : Nat) (target : BreakpointTarget)
  /-- `SbpStart`. -/
  | start
  /-- A `#BP` exit at `guestIp` on thread `tid`; `requests` are the handler's calls. -/
  | breakpoint (guestIp tid irql : Nat) (requests : List (Nat × List Nat))
  /-- An MTF exit. -/
  | monitorTrapFlag
  /-- An EPT violation on `gpa`, reported at guest virtual address `faultVa`. -/
  | eptViolation (faultVa gpa : Nat)
  /-- A guest store. -/
  | guestWrite (gpa : Nat) (value : UInt8)
  /-- A guest instruction setting RFLAGS. -/
  | guestFlags (flags : FlagRegister)
  /-- The `kDdimonDisablePageShadowing` hypercall of `SbpTermination`. -/
  | disablePageShadowing
  deriving Repr

/-- One processor over the engine. -/
structure Machine where
  state : State
  vmcs : Vmcs
  /-- `SbpStart` has run. -/
  started : Bool

/-- The machine right after `SbpInitialization`. -/
def Machine.initial (memory : Nat → UInt8) (poolFails : Nat → Bool) (flags : FlagRegister) :
    Machine :=
  ⟨sbpInitialization (State.boot memory poolFails), ⟨false, flags⟩, false⟩

/-- When the hardware and the driver can produce an event. -/
def Machine.enabled (m : Machine) : Event → Bool
  | .createPreBreakpoint .. | .start => !m.started && !m.vmcs.monitorTrapFlag
  | .breakpoint guestIp .. =>
    !m.vmcs.monitorTrapFlag && m.state.guestFetch guestIp == some kBreakpoint
  | .monitorTrapFlag => m.vmcs.monitorTrapFlag
  | .eptViolation _ gpa =>
    !((m.state.ept (gpa / pageSize)).readAccess && (m.state.ept (gpa / pageSize)).writeAccess)
  | .guestWrite gpa _ => (m.state.ept (gpa / pageSize)).writeAccess
  | .guestFlags _ => true
  | .disablePageShadowing => m.started && !m.vmcs.monitorTrapFlag

/-- The effect of an event. -/
def Machine.step (m : Machine) : Event → Except Fault Machine
  | .createPreBreakpoint address target => do
    pure { m with state := ← sbpCreatePreBreakpoint address target m.state }
  | .start => do pure { m with state := ← sbpStart m.state, started := true }
  | .breakpoint guestIp tid irql requests => do
    let (_, s, v) ← sbpHandleBreakpoint guestIp tid irql requests m.state m.vmcs
    pure { m with state := s, vmcs := v }
  | .monitorTrapFlag => do
    let (s, v) ← sbpHandleMonitorTrapFlag m.state m.vmcs
    pure { m with state := s, vmcs := v }
  | .eptViolation faultVa _ => do
    let (s, v) ← sbpHandleEptViolation faultVa m.state m.vmcs
    pure { m with state := s, vmcs := v }
  | .guestWrite gpa value => .ok { m with state := m.state.guestWrite gpa value }
  | .guestFlags flags => .ok { m with vmcs := { m.vmcs with guestRflags := flags } }
  | .disablePageShadowing => do
    pure { m with state := ← sbpVmCallDisablePageShadowing m.state.breakpoints m.state }

/-- The machines reachable from `SbpInitialization`. -/
inductive Reachable : Machine → Prop
  | init (memory : Nat → UInt8) (poolFails : Nat → Bool) (flags : FlagRegister) :
      Reachable (Machine.initial memory poolFails flags)
  | step {m m' : Machine} (e : Event) :
      Reachable m → m.enabled e = true → m.step e = .ok m' → Reachable m'

/-- Runs a list of events, stopping at one that is not enabled or faults. -/
def Machine.run (m : Machine) : List Event → Option Machine
  | [] => some m
  | e :: es =>
    if m.enabled e then
      match m.step e with
      | .ok m' => m'.run es
      | .error _ => none
    else none

theorem Reachable.of_run {m m' : Machine} {es : List Event} (h : Reachable m)
    (hrun : m.run es = some m') : Reachable m' := by
  induction es generalizing m with
  | nil => cases hrun; exact h
  | cons e es ih =>
    simp only [Machine.run] at hrun
    split at hrun
    · split at hrun
      · exact ih (.step e h ‹_› ‹_›) hrun
      · cases hrun
    · cases hrun

/-- A property of every reachable machine holds at the end of a run from
`SbpInitialization` that no event stops. -/
theorem Machine.run_elim {P : Machine → Prop} {memory : Nat → UInt8} {poolFails : Nat → Bool}
    {flags : FlagRegister} {es : List Event}
    (hrun : ((Machine.initial memory poolFails flags).run es).isSome = true)
    (hP : ∀ m, Reachable m → P m) : ((Machine.initial memory poolFails flags).run es).elim False P := by
  obtain ⟨m, hm⟩ := Option.isSome_iff_exists.mp hrun
  rw [hm]
  exact hP m (Reachable.of_run (.init memory poolFails flags) hm)

/-- A property of the value of an option that a check on it implies. -/
theorem Option.elim_of_any {α : Type} {o : Option α} (p : α → Bool) {P : α → Prop}
    (h : o.any p = true) (hP : ∀ a, o = some a → p a = true → P a) : o.elim False P := by
  cases o with
  | none => cases h
  | some a => exact hP a rfl h

/-- What a check evaluates to on the machine a run reaches holds there, along with what
holds of every reachable machine. -/
theorem Machine.run_any_elim {p : Machine → Bool} {P : Machine → Prop} {memory : Nat → UInt8}
    {poolFails : Nat → Bool} {flags : FlagRegister} {es : List Event}
    (hrun : ((Machine.initial memory poolFails flags).run es).any p = true)
    (hP : ∀ m, Reachable m → p m = true → P m) :
    ((Machine.initial memory poolFails flags).run es).elim False P :=
  Option.elim_of_any p hrun fun m hm => hP m (Reachable.of_run (.init memory poolFails flags) hm)

end DdiMon
