import DdiMon.Breakpoint

/-!
# The single step on the rw copy

A `#BP` or EPT-violation exit that lets one instruction run on the rw copy arms the monitor
trap flag, saves the record in `g_sbpp_last_breakpoint` and the guest's IF in
`g_sbpp_previouse_guest_interrupt_flag`, and clears IF. The MTF exit after the instruction
shows the exec copy again and writes the saved IF back.

* **On one processor the slot is filled exactly while the flag is armed, and the page of
  the record in it shows its rw copy** (`reachable_slot_iff_armed`). Nothing stops a
  second arming exit before the MTF exit, though. An instruction that touches two tracked
  pages takes an EPT violation on each. The second violation finds the slot filled and
  overwrites it, and it saves the IF the first one had already cleared. The MTF exit then
  shows the exec copy of the second page only. The first page stays on its rw copy with
  the flag clear, and the guest's IF stays cleared (`double_violation_loses_view_and_if`).
* The single step is invisible to an instruction exactly when the instruction neither
  reads nor writes IF (`singleStep_transparent_iff`). An instruction that sets IF
  (`sti`) or pushes RFLAGS (`pushf`) sees the difference
  (`sti_and_pushf_see_single_step`).
-/

namespace DdiMon

/-! ### One arming exit at a time -/

/-- **The slot follows the flag.** In every reachable machine, `g_sbpp_last_breakpoint` is
non-null exactly while the monitor trap flag is armed, and then the page of the record in
it shows that record's rw copy. -/
theorem reachable_slot_iff_armed {m : Machine} (h : Reachable m) :
    m.vmcs.monitorTrapFlag = m.state.lastBreakpoint.isSome ∧
      ∀ x, m.state.lastBreakpoint = some x →
        m.state.ept x.page = ⟨true, true, true, x.paBaseForRw⟩ := by
  have hst := h.machineInv.stepping
  refine ⟨hst.monitorTrapFlag_eq, fun x hx => ?_⟩
  rcases hst with ⟨hn, -⟩ | ⟨y, hy, -, he⟩
  · simp [hn] at hx
  · obtain rfl := Option.some.inj (hy.symm.trans hx)
    exact he

theorem one_eptViolation_slot_iff_armed :
    ((Machine.initial (fun _ => 0x90) (fun _ => false) ⟨true, 0⟩).run
      [.createPreBreakpoint 0x1000 ⟨1, 2⟩, .start, .eptViolation 0x1004 0x1004]).elim False
      fun m => Reachable m ∧ (m.vmcs.monitorTrapFlag = m.state.lastBreakpoint.isSome ∧
        ∀ x, m.state.lastBreakpoint = some x →
          m.state.ept x.page = ⟨true, true, true, x.paBaseForRw⟩) :=
  Machine.run_elim (by decide) fun _ h => ⟨h, reachable_slot_iff_armed h⟩

/-- Records on pages 1 and 2, the guest's IF set, and one instruction that reads both
pages. Its EPT violation on page 1 arms the flag. Its violation on page 2 fails
`NT_ASSERT(!g_sbpp_last_breakpoint)`, and both pages then show their rw copies. After the
MTF exit the flag is clear, page 1 still shows its rw copy, and IF is clear. -/
theorem double_violation_loses_view_and_if :
    ((Machine.initial (fun _ => 0x90) (fun _ => false) ⟨true, 0⟩).run
      [.createPreBreakpoint 0x1000 ⟨1, 2⟩, .createPreBreakpoint 0x2000 ⟨3, 4⟩, .start,
        .eptViolation 0x1004 0x1004, .eptViolation 0x2004 0x2004]).any (fun m =>
      m.vmcs.monitorTrapFlag && m.state.failedChecks == [.lastBreakpointEmpty] &&
        m.state.ept 1 == ⟨true, true, true, .pool 0⟩ && m.state.ept 2 == ⟨true, true, true, .pool 2⟩ &&
        (m.run [.monitorTrapFlag]).any fun m' =>
          !m'.vmcs.monitorTrapFlag && m'.state.ept 1 == ⟨true, true, true, .pool 0⟩ &&
            !m'.vmcs.guestRflags.intf) = true := by
  decide

/-! ### What the single-stepped instruction sees -/

/-- One guest instruction `f`, over RFLAGS and the rest `g` of the guest's state, run under
the engine's single step on record `info`: the arming exit's `SbppEnablePageShadowingForRW`,
`SbppSetMonitorTrapFlag(true)` and `SbppSaveLastPatchInfo`, then `f`, then the MTF exit. -/
def singleStep {α : Type} (f : FlagRegister × α → FlagRegister × α) (info : PatchInformation)
    (s : State) (v : Vmcs) (g : α) : Except Fault (FlagRegister × α) := do
  let (s, v) := stepOnRwView info s v
  let (flags, g) := f (v.guestRflags, g)
  let (_, v) ← sbpHandleMonitorTrapFlag s { v with guestRflags := flags }
  pure (v.guestRflags, g)

/-- The instruction runs with IF clear, and IF is then set back to its value before the
arming exit. -/
theorem singleStep_eq {α : Type} (f : FlagRegister × α → FlagRegister × α)
    (info : PatchInformation) (s : State) (v : Vmcs) (g : α) :
    singleStep f info s v g =
      .ok ({ (f ({ v.guestRflags with intf := false }, g)).1 with intf := v.guestRflags.intf },
        (f ({ v.guestRflags with intf := false }, g)).2) := by
  simp [singleStep, sbpHandleMonitorTrapFlag, sbppRestoreLastPatchInfo, stepOnRwView,
    sbppSaveLastPatchInfo, sbppSetMonitorTrapFlag, State.ntAssert_eq,
    sbppEnablePageShadowingForExec, sbppEnablePageShadowingForRW, State.setEpt]

/-- **Transparency of the single step.** Arming, running `f`, and the MTF exit give what
`f` alone gives, for every record, engine state, VMCS and guest state, exactly when `f`
commutes with setting IF: it neither reads IF nor writes it. -/
theorem singleStep_transparent_iff {α : Type} (f : FlagRegister × α → FlagRegister × α) :
    (∀ info s v g, singleStep f info s v g = .ok (f (v.guestRflags, g))) ↔
      ∀ flags g b, f ({ flags with intf := b }, g) =
        ({ (f (flags, g)).1 with intf := b }, (f (flags, g)).2) := by
  simp only [singleStep_eq, Except.ok.injEq]
  constructor
  · intro h flags g b
    have hb := h (.basic 0 0 0 1) (State.boot (fun _ => 0) fun _ => false) ⟨false, { flags with intf := b }⟩ g
    have hf := h (.basic 0 0 0 1) (State.boot (fun _ => 0) fun _ => false) ⟨false, flags⟩ g
    simp only at hb hf
    rw [← hb, ← hf]
  · intro h info s v g
    have hb := h v.guestRflags g false
    have hi := h v.guestRflags g v.guestRflags.intf
    rw [hb]
    rw [show { v.guestRflags with intf := v.guestRflags.intf } = v.guestRflags from rfl] at hi
    rw [hi]

/-- `sti` sets IF, and under the single step IF is clear afterwards; `pushf` stores IF, and
under the single step it stores a clear IF. -/
theorem sti_and_pushf_see_single_step :
    (singleStep (fun x : FlagRegister × Unit => ({ x.1 with intf := true }, x.2))
        (.basic 0 0x1000 0 1) (State.boot (fun _ => 0x90) fun _ => false) ⟨false, ⟨false, 0⟩⟩ ()).toOption ≠
      some (⟨true, 0⟩, ()) ∧
    (singleStep (fun x : FlagRegister × Bool => (x.1, x.1.intf))
        (.basic 0 0x1000 0 1) (State.boot (fun _ => 0x90) fun _ => false) ⟨false, ⟨true, 0⟩⟩ false).toOption ≠
      some (⟨true, 0⟩, true) := by
  decide

end DdiMon
