import DdiMon.Invariant

/-!
# The invariant along every run of one processor

The three exit handlers keep `Inv`, and so does every event of `Machine`. On one
processor the slot and the monitor trap flag also move together: `g_sbpp_last_breakpoint`
is non-null exactly while the flag is armed (`MachineInv`). A `#BP` exit needs the flag
clear, so the handler that erases a post record always runs with the slot empty.
-/

namespace DdiMon

/-! ### The `#BP` handler -/

/-- **Inversion of `sbpHandleBreakpoint`.** Either the `#BP` is not the engine's and
nothing changes, or the first record at `guestIp` is found, its rw copy has no `0xcc` there,
and one of the three branches runs. -/
theorem sbpHandleBreakpoint_cases {s s' : State} {v v' : Vmcs} {b : Bool}
    {guestIp tid irql : Nat} {requests : List (Nat × List Nat)}
    (h : sbpHandleBreakpoint guestIp tid irql requests s v = .ok (b, s', v')) :
    (b = false ∧ s' = s ∧ v' = v) ∨
    ∃ info, s.breakpoints.isSome ∧ s.records.find? (fun r => r.patchAddress == guestIp) = some info ∧
      sbppIsShadowBreakpoint info s = true ∧ irql ≤ dispatchLevel ∧ b = true ∧
      ((info.type = .kPre ∧
          ∃ s₁, runHandler info tid requests s = .ok s₁ ∧ (s', v') = stepOnRwView info s₁ v) ∨
        (info.type = .kPost ∧ info.targetTid = tid ∧ v' = v ∧
          ∃ s₁ o, runHandler info tid requests s = .ok s₁ ∧
            sbppDeleteBreakpointFromList info s₁ = .ok s' ∧
            sbppFindPatchInfoByPage guestIp s' = .ok (some o)) ∨
        (info.type = .kPost ∧ info.targetTid ≠ tid ∧ (s', v') = stepOnRwView info s v)) := by
  unfold sbpHandleBreakpoint at h
  split at h
  · simp only [Except.ok.injEq, Prod.mk.injEq] at h
    exact .inl ⟨h.1.symm, h.2.1.symm, h.2.2.symm⟩
  rename_i hact
  obtain ⟨l, hl⟩ := Option.ne_none_iff_exists'.mp (by simpa [sbppIsSbpActive] using hact)
  simp only [sbppFindPatchInfoByAddress, sbppFindPatchInfo_of_some hl, bind_eq_ok_iff,
    Except.ok.injEq] at h
  obtain ⟨_, rfl, h⟩ := h
  rw [State.records_of_some hl]
  split at h
  · simp only [pure_eq_ok_iff, Prod.mk.injEq] at h
    exact .inl ⟨h.1.symm, h.2.1.symm, h.2.2.symm⟩
  rename_i info hf
  split at h
  · simp only [pure_eq_ok_iff, Prod.mk.injEq] at h
    exact .inl ⟨h.1.symm, h.2.1.symm, h.2.2.symm⟩
  rename_i hsh
  split at h
  · cases h
  rename_i hirql
  refine .inr ⟨info, by simp [hl], hf, by simpa using hsh, by omega, ?_⟩
  split at h
  · rename_i ht
    simp only [bind_eq_ok_iff, pure_eq_ok_iff, Prod.mk.injEq] at h
    obtain ⟨s₁, h₁, rfl, h⟩ := h
    exact ⟨rfl, .inl ⟨ht, s₁, h₁, by rw [← h.1, ← h.2]⟩⟩
  · rename_i ht
    split at h
    · rename_i htid
      simp only [bind_eq_ok_iff] at h
      obtain ⟨s₁, h₁, s₂, h₂, other, h₃, h⟩ := h
      cases other with
      | none => cases h
      | some o =>
        simp only [pure_eq_ok_iff, Prod.mk.injEq] at h
        obtain ⟨rfl, rfl, rfl⟩ := h
        exact ⟨rfl, .inr (.inl ⟨ht, htid, rfl, s₁, o, h₁, h₂, h₃⟩)⟩
    · rename_i htid
      simp only [pure_eq_ok_iff, Prod.mk.injEq] at h
      obtain ⟨rfl, h⟩ := h
      exact ⟨rfl, .inr (.inr ⟨ht, htid, by rw [← h.1, ← h.2]⟩)⟩

/-- Single-stepping on `x`: the slot holds `x`, the monitor trap flag is armed, and the
page of `x` shows its rw copy. -/
def Armed (s : State) (v : Vmcs) (x : PatchInformation) : Prop :=
  s.lastBreakpoint = some x ∧ v.monitorTrapFlag = true ∧
    s.ept x.page = ⟨true, true, true, x.paBaseForRw⟩

/-- One processor is not single-stepping, with the slot empty, or single-steps on a record. -/
def Stepping (s : State) (v : Vmcs) : Prop :=
  (s.lastBreakpoint = none ∧ v.monitorTrapFlag = false) ∨ ∃ x, Armed s v x

/-- The slot is filled exactly while the monitor trap flag is armed. -/
theorem Stepping.monitorTrapFlag_eq {s : State} {v : Vmcs} (h : Stepping s v) :
    v.monitorTrapFlag = s.lastBreakpoint.isSome := by
  rcases h with ⟨h₁, h₂⟩ | ⟨x, h₁, h₂, -⟩ <;> simp [h₁, h₂]

theorem Stepping.slot_eq_none {s : State} {v : Vmcs} (h : Stepping s v)
    (hmtf : v.monitorTrapFlag = false) : s.lastBreakpoint = none := by
  simpa [hmtf] using h.monitorTrapFlag_eq.symm

/-- `Stepping` reads the slot, the flag and the EPT. -/
theorem Stepping.congr {s s' : State} {v v' : Vmcs} (h : Stepping s v)
    (hl : s'.lastBreakpoint = s.lastBreakpoint) (hm : v'.monitorTrapFlag = v.monitorTrapFlag)
    (he : s'.ept = s.ept) : Stepping s' v' := by
  unfold Stepping Armed
  rwa [hl, hm, he]

/-- What the single step leaves in the state: the rw copy shown, the guest's IF saved,
the record in the slot. -/
theorem stepOnRwView_fst (info : PatchInformation) (s : State) (v : Vmcs) :
    (stepOnRwView info s v).1 = { sbppEnablePageShadowingForRW info s with
      previouseGuestInterruptFlag := v.guestRflags.intf, lastBreakpoint := some info
      failedChecks := (s.ntAssert s.lastBreakpoint.isNone .lastBreakpointEmpty).failedChecks } := by
  simp [stepOnRwView, sbppSaveLastPatchInfo, State.ntAssert_eq, sbppSetMonitorTrapFlag,
    sbppEnablePageShadowingForRW, State.setEpt]

theorem stepOnRwView_records (info : PatchInformation) (s : State) (v : Vmcs) :
    (stepOnRwView info s v).1.records = s.records := by
  rw [stepOnRwView_fst]; rfl

theorem stepOnRwView_calls (info : PatchInformation) (s : State) (v : Vmcs) :
    (stepOnRwView info s v).1.calls = s.calls := by
  rw [stepOnRwView_fst]; rfl

/-- The `#BP` and EPT-violation handlers arm on the record they show. -/
theorem stepOnRwView_armed {s : State} (hi : Inv s) (x : PatchInformation) (v : Vmcs) :
    Armed (stepOnRwView x s v).1 (stepOnRwView x s v).2 x := by
  refine ⟨rfl, rfl, ?_⟩
  have hx := (hi.ept x.page).executeAccess
  simp only [stepOnRwView, sbppSaveLastPatchInfo, State.ntAssert_ept, sbppSetMonitorTrapFlag,
    sbppEnablePageShadowingForRW, State.setEpt, ite_true, Function.update_same]
  rw [← hx]

/-- The `#BP` handler keeps the invariant, and arms the monitor trap flag exactly when it
fills the slot, when it runs with the flag clear and the slot empty. -/
theorem Inv.handleBreakpoint {s s' : State} {v v' : Vmcs} {b : Bool} {guestIp tid irql : Nat}
    {requests : List (Nat × List Nat)} (hi : Inv s) (hslot : s.lastBreakpoint = none)
    (hmtf : v.monitorTrapFlag = false)
    (h : sbpHandleBreakpoint guestIp tid irql requests s v = .ok (b, s', v')) :
    Inv s' ∧ Stepping s' v' := by
  rcases sbpHandleBreakpoint_cases h with ⟨-, rfl, rfl⟩ | ⟨info, -, hf, -, -, -, hcase⟩
  · exact ⟨hi, .inl ⟨hslot, hmtf⟩⟩
  have hmem : info ∈ s.records := List.mem_of_find?_eq_some hf
  rcases hcase with ⟨-, s₁, h₁, hs⟩ | ⟨-, -, rfl, s₁, o, h₁, h₂, h₃⟩ | ⟨-, -, hs⟩
  · obtain ⟨hi₁, -, hg⟩ := hi.handler h₁
    obtain ⟨rfl, rfl⟩ := Prod.mk.inj hs
    exact ⟨hi₁.stepOnRwView ((Live.of_mem hmem).grow hg) v, .inr ⟨info, stepOnRwView_armed hi₁ info v⟩⟩
  · obtain ⟨hi₁, hlast, -⟩ := hi.handler h₁
    have hpage : info.patchAddress = guestIp := by simpa using List.find?_some hf
    subst hpage
    refine ⟨hi₁.deleteKeepingPage (fun x hx => by simp [hlast, hslot] at hx) h₂ h₃, .inl ⟨?_, hmtf⟩⟩
    obtain ⟨l, rfl, -⟩ := sbppDeleteBreakpointFromList_eq h₂
    exact hlast.trans hslot
  · obtain ⟨rfl, rfl⟩ := Prod.mk.inj hs
    exact ⟨hi.stepOnRwView (.of_mem hmem) v, .inr ⟨info, stepOnRwView_armed hi info v⟩⟩

/-! ### The MTF and EPT-violation handlers -/

/-- **Inversion of `sbpHandleMonitorTrapFlag`.** It succeeds exactly on a filled slot. -/
theorem sbpHandleMonitorTrapFlag_eq {s s' : State} {v v' : Vmcs}
    (h : sbpHandleMonitorTrapFlag s v = .ok (s', v')) :
    ∃ x, s.lastBreakpoint = some x ∧
      (s', v') = sbppSetMonitorTrapFlag false (sbppEnablePageShadowingForExec x
        { s.ntAssert (sbppIsSbpActive s) .sbpActive with lastBreakpoint := none }) v := by
  unfold sbpHandleMonitorTrapFlag sbppRestoreLastPatchInfo at h
  split at h
  · cases h
  · rename_i x _ heq
    simp only [Prod.mk.injEq, State.ntAssert_lastBreakpoint] at heq
    obtain ⟨hx, rfl⟩ := heq
    exact ⟨x, hx, (Except.ok.inj h).symm⟩

theorem Inv.handleMonitorTrapFlag {s s' : State} {v v' : Vmcs} (hi : Inv s)
    (h : sbpHandleMonitorTrapFlag s v = .ok (s', v')) :
    Inv s' ∧ s'.lastBreakpoint = none ∧ v'.monitorTrapFlag = false := by
  obtain ⟨x, hx, hs⟩ := sbpHandleMonitorTrapFlag_eq h
  obtain ⟨rfl, rfl⟩ := Prod.mk.inj hs
  have h₁ : Inv { s.ntAssert (sbppIsSbpActive s) .sbpActive with lastBreakpoint := none } := by
    rw [State.ntAssert_eq]
    exact ⟨hi.active, hi.frames, hi.pair_ne, hi.allocated, hi.shared, hi.origin, hi.traps,
      hi.pristine, hi.twins, hi.ept, fun _ h => nomatch h⟩
  have hx' : Live { s.ntAssert (sbppIsSbpActive s) .sbpActive with lastBreakpoint := none }.records x := by
    unfold State.records; simpa only [State.ntAssert_breakpoints] using hi.slot x hx
  exact ⟨(h₁.enableExec hx').setMonitorTrapFlag false v, rfl, rfl⟩

/-- **Inversion of `sbpHandleEptViolation`.** Nothing changes, or the first record on the
page of `faultVa` is shown on its rw copy for one instruction. -/
theorem sbpHandleEptViolation_cases {s s' : State} {v v' : Vmcs} {faultVa : Nat}
    (h : sbpHandleEptViolation faultVa s v = .ok (s', v')) :
    (s' = s ∧ v' = v) ∨
      ∃ info, s.records.find? (fun r => pageAlign r.patchAddress == pageAlign faultVa) = some info ∧
        (s', v') = stepOnRwView info s v := by
  unfold sbpHandleEptViolation at h
  split at h
  · simp only [Except.ok.injEq, Prod.mk.injEq] at h
    exact .inl ⟨h.1.symm, h.2.symm⟩
  rename_i hact
  obtain ⟨l, hl⟩ := Option.ne_none_iff_exists'.mp (by simpa [sbppIsSbpActive] using hact)
  simp only [sbppFindPatchInfoByPage, sbppFindPatchInfo_of_some hl, bind_eq_ok_iff,
    Except.ok.injEq] at h
  obtain ⟨_, rfl, h⟩ := h
  rw [State.records_of_some hl]
  split at h
  · simp only [pure_eq_ok_iff, Prod.mk.injEq] at h
    exact .inl ⟨h.1.symm, h.2.symm⟩
  · rename_i info hf
    exact .inr ⟨info, hf, (pure_eq_ok_iff.mp h).symm⟩

theorem Inv.handleEptViolation {s s' : State} {v v' : Vmcs} {faultVa : Nat} (hi : Inv s)
    (h : sbpHandleEptViolation faultVa s v = .ok (s', v')) :
    Inv s' ∧ ((s' = s ∧ v' = v) ∨ ∃ x, Armed s' v' x) := by
  rcases sbpHandleEptViolation_cases h with ⟨rfl, rfl⟩ | ⟨info, hf, hs⟩
  · exact ⟨hi, .inl ⟨rfl, rfl⟩⟩
  · obtain ⟨rfl, rfl⟩ := Prod.mk.inj hs
    exact ⟨hi.stepOnRwView (.of_mem (List.mem_of_find?_eq_some hf)) v,
      .inr ⟨info, stepOnRwView_armed hi info v⟩⟩

/-! ### Every run -/

/-- A loop over the registry whose body keeps a field keeps it. -/
theorem foldl_frame {β : Type} (g : State → β) (f : State → PatchInformation → State)
    (hf : ∀ s info, g (f s info) = g s) :
    ∀ (l : List PatchInformation) (s : State), g (l.foldl f s) = g s
  | [], _ => rfl
  | info :: l, s => (foldl_frame g f hf l (f s info)).trans (hf s info)

theorem State.guestWrite_lastBreakpoint (s : State) (a : Nat) (v : UInt8) :
    (s.guestWrite a v).lastBreakpoint = s.lastBreakpoint := by
  unfold State.guestWrite State.writeFrame
  split <;> rfl

theorem State.guestWrite_ept (s : State) (a : Nat) (v : UInt8) :
    (s.guestWrite a v).ept = s.ept := by
  unfold State.guestWrite State.writeFrame
  split <;> rfl

/-- The invariant of one processor over the engine: `Inv`, and the processor single-steps
on the record in the slot exactly while its monitor trap flag is armed. -/
structure MachineInv (m : Machine) : Prop where
  inv : Inv m.state
  stepping : Stepping m.state m.vmcs

theorem MachineInv.initial (memory : Nat → UInt8) (poolFails : Nat → Bool) (flags : FlagRegister) :
    MachineInv (Machine.initial memory poolFails flags) where
  inv := ⟨rfl, nofun, nofun, nofun, nofun, nofun, nofun, nofun, nofun, fun _ => .inl rfl, nofun⟩
  stepping := .inl ⟨rfl, rfl⟩

/-- The events of the driver's own code run with the flag clear and leave the slot empty. -/
theorem Stepping.idle {s s' : State} {v : Vmcs} (h : Stepping s v) (hmtf : v.monitorTrapFlag = false)
    (hl : s'.lastBreakpoint = s.lastBreakpoint) : Stepping s' v :=
  .inl ⟨hl.trans (h.slot_eq_none hmtf), hmtf⟩

theorem MachineInv.step {m m' : Machine} {e : Event} (h : MachineInv m)
    (he : m.enabled e = true) (hs : m.step e = .ok m') : MachineInv m' := by
  obtain ⟨hi, hstep⟩ := h
  cases e with
  | createPreBreakpoint a t =>
    simp only [Machine.enabled, Bool.and_eq_true, Bool.not_eq_true'] at he
    simp only [Machine.step, bind_eq_ok_iff, pure_eq_ok_iff] at hs
    obtain ⟨s', h₁, rfl⟩ := hs
    obtain ⟨hi', hlast⟩ := hi.createPre h₁
    exact ⟨hi', hstep.idle he.2 hlast⟩
  | start =>
    simp only [Machine.enabled, Bool.and_eq_true, Bool.not_eq_true'] at he
    simp only [Machine.step, sbpStart, bind_eq_ok_iff, pure_eq_ok_iff] at hs
    obtain ⟨s', h₁, rfl⟩ := hs
    obtain ⟨l, hl⟩ := Option.isSome_iff_exists.mp hi.active
    simp only [sbpVmCallEnablePageShadowing, hl, Except.ok.injEq] at h₁
    subst h₁
    exact ⟨hi.enableAll fun r hr => by simpa [State.records_of_some hl] using hr,
      hstep.idle he.2 (foldl_frame State.lastBreakpoint _ (by intros; rfl) _ _)⟩
  | breakpoint guestIp tid irql requests =>
    simp only [Machine.enabled, Bool.and_eq_true, Bool.not_eq_true'] at he
    simp only [Machine.step, bind_eq_ok_iff, pure_eq_ok_iff] at hs
    obtain ⟨⟨b, s', v'⟩, h₁, rfl⟩ := hs
    exact (hi.handleBreakpoint (hstep.slot_eq_none he.1) he.1 h₁).elim MachineInv.mk
  | monitorTrapFlag =>
    simp only [Machine.step, bind_eq_ok_iff, pure_eq_ok_iff] at hs
    obtain ⟨⟨s', v'⟩, h₁, rfl⟩ := hs
    obtain ⟨hi', hlast, hmtf⟩ := hi.handleMonitorTrapFlag h₁
    exact ⟨hi', .inl ⟨hlast, hmtf⟩⟩
  | eptViolation faultVa gpa =>
    simp only [Machine.step, bind_eq_ok_iff, pure_eq_ok_iff] at hs
    obtain ⟨⟨s', v'⟩, h₁, rfl⟩ := hs
    obtain ⟨hi', ⟨rfl, rfl⟩ | harmed⟩ := hi.handleEptViolation h₁
    · exact ⟨hi', hstep⟩
    · exact ⟨hi', .inr harmed⟩
  | guestWrite gpa value =>
    simp only [Machine.step, Except.ok.injEq] at hs
    subst hs
    exact ⟨hi.guestWrite value he,
      hstep.congr (State.guestWrite_lastBreakpoint ..) rfl (State.guestWrite_ept ..)⟩
  | guestFlags flags =>
    simp only [Machine.step, Except.ok.injEq] at hs
    subst hs
    exact ⟨hi, hstep.congr rfl rfl rfl⟩
  | disablePageShadowing =>
    simp only [Machine.enabled, Bool.and_eq_true, Bool.not_eq_true'] at he
    simp only [Machine.step, bind_eq_ok_iff, pure_eq_ok_iff] at hs
    obtain ⟨s', h₁, rfl⟩ := hs
    obtain ⟨l, hl⟩ := Option.isSome_iff_exists.mp hi.active
    simp only [sbpVmCallDisablePageShadowing, hl, Except.ok.injEq] at h₁
    subst h₁
    exact ⟨hi.disableAll l, hstep.idle he.2 (foldl_frame State.lastBreakpoint _ (by intros; rfl) _ _)⟩

/-- **Every reachable machine satisfies the invariant.** -/
theorem Reachable.machineInv {m : Machine} (h : Reachable m) : MachineInv m := by
  induction h with
  | init memory poolFails flags => exact .initial memory poolFails flags
  | step e _ he hs ih => exact ih.step he hs

end DdiMon
