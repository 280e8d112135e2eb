import DdiMon.Shadow

/-!
# The entry points and the three VM-exit handlers

`SbpHandleBreakpoint`, `SbpHandleMonitorTrapFlag` and `SbpHandleEptViolation` take the
shared state and the VMCS of the processor that exited. The registration entry points and
the two hypercalls take the shared state.

A breakpoint's handler is a function pointer that may do anything. Its only effect on the
engine is the calls it makes to `SbpCreateAndEnablePostBreakpoint`, and these are an input
of the `#BP` exit (`requests`, the address and parameters of each call, in order). The
switch to the guest's CR3 around the call changes nothing the model holds. A null handler
(`0`) is called all the same, and the call faults.

The owner's `#BP` on a post erases the post's record, which frees it, and then passes the
freed record to `SbppDisablePageShadowing` when no other record is left on the page. What
that read returns is not defined, so the model stops there with `Fault.useAfterFree`.
-/

namespace DdiMon

/-- `SbpInitialization`: an empty registry. -/
def sbpInitialization (s : State) : State := { s with breakpoints := some [] }

/-- `SbpVmCallEnablePageShadowing` over the registry passed as `context`. -/
def sbpVmCallEnablePageShadowing (context : Option (List PatchInformation)) (s : State) :
    Except Fault State :=
  match context with
  | none => .error .nullDereference
  | some l => .ok (l.foldl (fun s info => sbppEnablePageShadowingForExec info s) s)

/-- `SbpStart`: the `kDdimonEnablePageShadowing` hypercall over `g_sbpp_breakpoints`. -/
def sbpStart (s : State) : Except Fault State := sbpVmCallEnablePageShadowing s.breakpoints s

/-- `SbpVmCallDisablePageShadowing` over the registry passed as `context`, as
`SbpTermination` requests it. -/
def sbpVmCallDisablePageShadowing (context : Option (List PatchInformation)) (s : State) :
    Except Fault State :=
  match context with
  | none => .error .nullDereference
  | some l => .ok (l.foldl (fun s info => sbppDisablePageShadowing info s) s)

/-- `SbpCreatePreBreakpoint`. -/
def sbpCreatePreBreakpoint (address : Nat) (target : BreakpointTarget) (s : State) :
    Except Fault State := do
  let (info, s) ← sbppCreatePreBreakpoint address target s
  sbppAddBreakpointToList info s

/-- `SbpCreateAndEnablePostBreakpoint`, called by a handler of pre record `info` on thread
`tid` (`PsGetCurrentThreadId()`). -/
def sbpCreateAndEnablePostBreakpoint (address : Nat) (info : PatchInformation)
    (parameters : List Nat) (tid : Nat) (s : State) : Except Fault State := do
  match ← sbppFindDuplicatedPostPatchInfo address tid s with
  | some duplicated => pure (s.setParameters duplicated.object parameters)
  | none =>
    let (post, s) ← sbppCreatePostBreakpoint address info tid parameters s
    let s ← sbppAddBreakpointToList post s
    pure (sbppEnablePageShadowingForExec post s)

/-- The handler's calls of `SbpCreateAndEnablePostBreakpoint`, in order. -/
def runRequests (info : PatchInformation) (tid : Nat) :
    List (Nat × List Nat) → State → Except Fault State
  | [], s => .ok s
  | (address, parameters) :: rest, s => do
    let s ← sbpCreateAndEnablePostBreakpoint address info parameters tid s
    runRequests info tid rest s

/-- `info->handler(*info, ...)` on thread `tid`: the call, then the calls it makes. A null
`handler` is called all the same. -/
def runHandler (info : PatchInformation) (tid : Nat) (requests : List (Nat × List Nat))
    (s : State) : Except Fault State :=
  if info.handler = 0 then .error .nullCall
  else runRequests info tid requests { s with calls := ⟨info.handler, info, tid⟩ :: s.calls }

theorem runHandler_eq_ok {info : PatchInformation} {tid : Nat} {requests : List (Nat × List Nat)}
    {s s' : State} (h : runHandler info tid requests s = .ok s') :
    info.handler ≠ 0 ∧
      runRequests info tid requests { s with calls := ⟨info.handler, info, tid⟩ :: s.calls } = .ok s' := by
  unfold runHandler at h
  split at h
  · cases h
  · exact ⟨‹_›, h⟩

theorem runHandler_of_ne {info : PatchInformation} {tid : Nat} (requests : List (Nat × List Nat))
    (s : State) (h : info.handler ≠ 0) :
    runHandler info tid requests s =
      runRequests info tid requests { s with calls := ⟨info.handler, info, tid⟩ :: s.calls } :=
  if_neg h

/-- What the `#BP` and EPT-violation handlers do to let one instruction run on the rw copy:
`SbppEnablePageShadowingForRW`, `SbppSetMonitorTrapFlag(true)`, `SbppSaveLastPatchInfo`. -/
def stepOnRwView (info : PatchInformation) (s : State) (v : Vmcs) : State × Vmcs :=
  let (s, v) := sbppSetMonitorTrapFlag true (sbppEnablePageShadowingForRW info s) v
  (sbppSaveLastPatchInfo info s, v)

/-- `SbpHandleBreakpoint` at `guestIp` on thread `tid` and interrupt level `irql`. The
`Bool` is the source's result: `true` when the `#BP` is the engine's and is not delivered
to the guest. -/
def sbpHandleBreakpoint (guestIp tid irql : Nat) (requests : List (Nat × List Nat))
    (s : State) (v : Vmcs) : Except Fault (Bool × State × Vmcs) :=
  if !sbppIsSbpActive s then .ok (false, s, v) else do
  match ← sbppFindPatchInfoByAddress guestIp s with
  | none => pure (false, s, v)
  | some info =>
    if !sbppIsShadowBreakpoint info s then pure (false, s, v)
    else if irql > dispatchLevel then throw .bugCheck
    else match info.type with
      | .kPre => do
        let s ← runHandler info tid requests s
        let (s, v) := stepOnRwView info s v
        pure (true, s, v)
      | .kPost =>
        if info.targetTid = tid then do
          let s ← runHandler info tid requests s
          let s ← sbppDeleteBreakpointFromList info s
          match ← sbppFindPatchInfoByPage guestIp s with
          | some _ => pure (true, s, v)
          -- The erase freed `*info`, which `SbppDisablePageShadowing(*info, ...)` reads.
          | none => throw .useAfterFree
        else
          let (s, v) := stepOnRwView info s v
          pure (true, s, v)

/-- `SbpHandleMonitorTrapFlag`: show the exec copy again and disarm. -/
def sbpHandleMonitorTrapFlag (s : State) (v : Vmcs) : Except Fault (State × Vmcs) :=
  match sbppRestoreLastPatchInfo (s.ntAssert (sbppIsSbpActive s) .sbpActive) with
  | (none, _) => .error .nullDereference
  | (some info, s) => .ok (sbppSetMonitorTrapFlag false (sbppEnablePageShadowingForExec info s) v)

/-- `SbpHandleEptViolation` at guest virtual address `faultVa`. -/
def sbpHandleEptViolation (faultVa : Nat) (s : State) (v : Vmcs) : Except Fault (State × Vmcs) :=
  if !sbppIsSbpActive s then .ok (s, v) else do
  match ← sbppFindPatchInfoByPage faultVa s with
  | none => pure (s, v)
  | some info => pure (stepOnRwView info s v)

end DdiMon
