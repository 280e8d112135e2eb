import Mathlib.Logic.Function.Basic

/-!
# The data model of DdiMon's shadow breakpoints

The globals, records and hardware structures that `shadow_bp.cpp` reads and writes.

A `PatchInformation` is one breakpoint. Records live in the registry `g_sbpp_breakpoints`,
a vector of `unique_ptr`s, modelled as `Option (List PatchInformation)`: `none` is the null
pointer before `SbpInitialization` and after `SbpTermination`. The record's heap address,
which the lookups return and `g_sbpp_last_breakpoint` stores, is the field `object`. The
allocator hands out a fresh one per record.

Shadow pages (`Page`, held through `shared_ptr`) are non-paged pool pages. They are named
by their allocation number, and their contents are `State.pool`. Whether the pool serves
an allocation is not up to the engine: `State.poolFails` says, for every allocation number,
whether `ExAllocatePoolWithTag` returns null there, and `Page::Page` then bug-checks. An EPT leaf entry points
either at a page of guest-physical memory or at such a pool page (`Frame`). The VMM's
translation of kernel addresses (`UtilPaFromVa`) is the identity on pages: a record's page
is the guest-physical page whose EPT entry the engine programs.

Four fields of `State` are **ghost**: nothing in the source reads them, and the step
functions only set or append to them. `copiedFrom` and `snapshot` record the guest page
each pool page was copied from and the bytes copied into it. `failedChecks` records every `NT_ASSERT`/`NT_VERIFY` whose condition was
false: a release build compiles these out and runs on, a checked build stops there.
`calls` records every invocation of a breakpoint's handler.
-/

namespace DdiMon

/-! ### Pages -/

/-- `PAGE_SIZE`. -/
def pageSize : Nat := 4096

/-- `PAGE_ALIGN(a)`: the base of the page holding `a`. -/
def pageAlign (a : Nat) : Nat := a / pageSize * pageSize

/-- `BYTE_OFFSET(a)`: the offset of `a` within its page. -/
def byteOffset (a : Nat) : Nat := a % pageSize

/-- `DISPATCH_LEVEL`. -/
def dispatchLevel : Nat := 2

/-- `kBreakpoint`, the byte `SbppEmbedBreakpoint` writes: `int 3`. -/
def kBreakpoint : UInt8 := 0xcc

theorem pageAlign_eq_iff {a b : Nat} : pageAlign a = pageAlign b ↔ a / pageSize = b / pageSize :=
  Nat.mul_right_cancel_iff (by decide)

theorem byteOffset_lt (a : Nat) : byteOffset a < pageSize := Nat.mod_lt _ (by decide)

/-- An address is its page base plus its offset. -/
theorem pageAlign_add_byteOffset (a : Nat) : a / pageSize * pageSize + byteOffset a = a := by
  rw [byteOffset, Nat.mul_comm]; exact Nat.div_add_mod a pageSize

@[simp] theorem pageAlign_div (a : Nat) : pageAlign a / pageSize = a / pageSize := by
  simp [pageAlign, pageSize]

/-! ### Running fallible code -/

theorem bind_eq_ok_iff {ε α β : Type} {x : Except ε α} {f : α → Except ε β} {b : β} :
    x >>= f = .ok b ↔ ∃ a, x = .ok a ∧ f a = .ok b := by
  cases x <;> simp [bind, Except.bind]

@[simp] theorem ok_bind {ε α β : Type} (a : α) (f : α → Except ε β) : Except.ok a >>= f = f a :=
  rfl

@[simp] theorem error_bind {ε α β : Type} (e : ε) (f : α → Except ε β) :
    Except.error e >>= f = .error e :=
  rfl

@[simp] theorem pure_eq_ok_iff {ε α : Type} {a b : α} : (pure a : Except ε α) = .ok b ↔ a = b := by
  simp [pure, Except.pure]

@[simp] theorem pure_ne_error {ε α : Type} (a : α) (e : ε) : (pure a : Except ε α) ≠ .error e := by
  simp [pure, Except.pure]

theorem toOption_eq_some_iff {ε α : Type} {x : Except ε α} {a : α} :
    x.toOption = some a ↔ x = .ok a := by
  cases x <;> simp [Except.toOption]

/-! ### EPT entries and the VMCS fields the engine uses -/

/-- What an EPT leaf entry's `physial_address` names: a page of guest-physical memory, or
a pool page allocated by `Page::Page`. -/
inductive Frame
  | guest (pfn : Nat)
  | pool (page : Nat)
  deriving DecidableEq, Repr

/-- The fields of an `EptCommonEntry` that the engine writes. -/
structure EptEntry where
  readAccess : Bool
  writeAccess : Bool
  executeAccess : Bool
  physialAddress : Frame
  deriving DecidableEq, Repr

/-- The entry HyperPlatform builds for guest-physical page `pfn`: mapped to itself, with
every access allowed. -/
def EptEntry.identity (pfn : Nat) : EptEntry := ⟨true, true, true, .guest pfn⟩

/-- The guest RFLAGS through the bitfield view of `FlagRegister`: the interrupt-enable flag
`intf`, and the other bits, which the engine only copies. -/
structure FlagRegister where
  intf : Bool
  others : Nat
  deriving DecidableEq, Repr

/-- The fields of one processor's VMCS that the engine reads and writes: the monitor trap
flag of `kCpuBasedVmExecControl`, and `kGuestRflags`. -/
structure Vmcs where
  monitorTrapFlag : Bool
  guestRflags : FlagRegister
  deriving DecidableEq, Repr

/-! ### Breakpoint records -/

/-- `BreakpointType`. -/
inductive BreakpointType
  | kPre
  | kPost
  deriving DecidableEq, Repr

/-- `BreakpointTarget`: the handlers a pre breakpoint is installed with. Handlers are
function pointers, modelled by their address; `0` is `nullptr`. -/
structure BreakpointTarget where
  preHandler : Nat
  postHandler : Nat
  deriving DecidableEq, Repr

/-- `PatchInformation`. Thread ids are `HANDLE`s (`0` is `nullptr`); `parameters` is the
`CapturedParameters` a pre handler recorded; `paBaseForRw` and `paBaseForExec` are the
physical pages of the two shadow pages. -/
structure PatchInformation where
  /-- The heap address of this record. -/
  object : Nat
  patchAddress : Nat
  type : BreakpointType
  handler : Nat
  postHandler : Nat
  targetTid : Nat
  parameters : List Nat
  shadowPageBaseForRw : Nat
  shadowPageBaseForExec : Nat
  paBaseForRw : Frame
  paBaseForExec : Frame
  deriving DecidableEq, Repr

/-- The page number of the patched address. -/
def PatchInformation.page (info : PatchInformation) : Nat := info.patchAddress / pageSize

/-- One call of `info->handler(*info, ept_data, gp_regs, guest_rsp)`, on thread `tid`. -/
structure HandlerCall where
  handler : Nat
  info : PatchInformation
  tid : Nat
  deriving DecidableEq, Repr

/-- How the host stops, or where its behaviour stops being defined. -/
inductive Fault
  /-- `HYPERPLATFORM_COMMON_BUG_CHECK`, also the one in `Page::Page` when the pool is out. -/
  | bugCheck
  /-- A VMM read through a null pointer: `g_sbpp_breakpoints`, or the record
  `SbppRestoreLastPatchInfo` returns. -/
  | nullDereference
  /-- A call of a null handler, `info->handler(...)` with `info->handler == nullptr`. -/
  | nullCall
  /-- A read of a record that `SbppDeleteBreakpointFromList` has freed. -/
  | useAfterFree
  deriving DecidableEq, Repr

/-- The `NT_ASSERT` and `NT_VERIFY` checks that a release build compiles out. -/
inductive Check
  /-- `NT_ASSERT(!g_sbpp_last_breakpoint)` in `SbppSaveLastPatchInfo`. -/
  | lastBreakpointEmpty
  /-- `NT_VERIFY(SbppIsSbpActive())` in `SbpHandleMonitorTrapFlag`. -/
  | sbpActive
  deriving DecidableEq, Repr

/-! ### The engine state -/

/-- Everything the engine shares across processors: its globals, the EPT, guest-physical
memory and the pool pages, and the ghost fields. -/
structure State where
  /-- `g_sbpp_breakpoints`. -/
  breakpoints : Option (List PatchInformation)
  /-- `g_sbpp_last_breakpoint`. -/
  lastBreakpoint : Option PatchInformation
  /-- `g_sbpp_previouse_guest_interrupt_flag`. -/
  previouseGuestInterruptFlag : Bool
  /-- The EPT leaf entries, by guest-physical page number. -/
  ept : Nat → EptEntry
  /-- Guest-physical memory, by byte address. -/
  memory : Nat → UInt8
  /-- The contents of the pool pages, by allocation number and offset. -/
  pool : Nat → Nat → UInt8
  /-- The allocation number the next `Page::Page` returns. -/
  nextPage : Nat
  /-- Whether `ExAllocatePoolWithTag` refuses the allocation numbered `k`. -/
  poolFails : Nat → Bool
  /-- The heap address the next `PatchInformation` gets. -/
  nextObject : Nat
  /-- Ghost: the guest page each pool page was copied from. -/
  copiedFrom : Nat → Nat
  /-- Ghost: the bytes copied into each pool page when it was allocated. -/
  snapshot : Nat → Nat → UInt8
  /-- Ghost: the failed `NT_ASSERT`/`NT_VERIFY` checks, latest first. -/
  failedChecks : List Check
  /-- Ghost: the handler invocations, latest first. -/
  calls : List HandlerCall

/-- The live records: the registry's contents, empty while it is null. -/
def State.records (s : State) : List PatchInformation := s.breakpoints.getD []

/-- The byte at offset `o` of the page a frame names. -/
def State.frameByte (s : State) : Frame → Nat → UInt8
  | .guest pfn, o => s.memory (pfn * pageSize + o)
  | .pool page, o => s.pool page o

/-- Writes `v` at offset `o` of the page a frame names. -/
def State.writeFrame (s : State) (v : UInt8) : Frame → Nat → State
  | .guest pfn, o => { s with memory := Function.update s.memory (pfn * pageSize + o) v }
  | .pool page, o => { s with pool := Function.update s.pool page (Function.update (s.pool page) o v) }

/-- A failed `NT_ASSERT`: the check is recorded and the release build runs on. -/
def State.ntAssert (s : State) (cond : Bool) (c : Check) : State :=
  if cond then s else { s with failedChecks := c :: s.failedChecks }

theorem State.ntAssert_eq (s : State) (cond : Bool) (c : Check) :
    s.ntAssert cond c = { s with failedChecks := if cond then s.failedChecks else c :: s.failedChecks } := by
  unfold State.ntAssert; split <;> simp_all

@[simp] theorem State.ntAssert_breakpoints (s : State) (cond : Bool) (c : Check) :
    (s.ntAssert cond c).breakpoints = s.breakpoints := by
  rw [State.ntAssert_eq]

@[simp] theorem State.ntAssert_lastBreakpoint (s : State) (cond : Bool) (c : Check) :
    (s.ntAssert cond c).lastBreakpoint = s.lastBreakpoint := by
  rw [State.ntAssert_eq]

@[simp] theorem State.ntAssert_ept (s : State) (cond : Bool) (c : Check) :
    (s.ntAssert cond c).ept = s.ept := by
  rw [State.ntAssert_eq]

@[simp] theorem State.records_of_some {s : State} {l : List PatchInformation}
    (h : s.breakpoints = some l) : s.records = l := by
  simp [State.records, h]

@[simp] theorem State.records_mk (b : Option (List PatchInformation)) (last) (flag) (ept) (memory)
    (pool) (nextPage) (poolFails) (nextObject) (copiedFrom) (snapshot) (failedChecks) (calls) :
    (State.mk b last flag ept memory pool nextPage poolFails nextObject copiedFrom snapshot
      failedChecks calls).records = b.getD [] := rfl

@[simp] theorem State.getD_breakpoints (s : State) : s.breakpoints.getD [] = s.records := rfl

end DdiMon
