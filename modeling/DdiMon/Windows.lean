import DdiMon.Hooks

/-!
# Single-step windows that do not overlap

`g_sbpp_last_breakpoint` is one slot for all processors. `SbppSaveLastPatchInfo` asserts
that it is empty before it fills it (`NT_ASSERT(!g_sbpp_last_breakpoint)`), and a release
build compiles the assertion out. When two single steps overlap, the slot crosses over
(`shared_slot_crosses_processors`), and the assertion fails on the way.

* **The assertion is the whole condition** (`asserted_slot_pairs_mtf_exits`). Over every
  interleaving of the processors' exits in which the assertion never fails, at most one
  processor single-steps at a time. It single-steps on the record in the slot, whose page
  shows its rw copy, and its MTF exit returns, empties the slot and shows that record's
  exec copy again. Other processors may take any exit meanwhile: a `#BP` the engine
  claims arms the flag and so trips the assertion, and every other exit leaves the slot
  alone.
* **A window the assertion holds over gives the IF back**
  (`asserted_window_restores_interrupt_flag`). Between an exit that arms a processor's flag
  and that processor's MTF exit, any exits of any processor may come. While the assertion
  holds, the MTF exit returns and writes back the IF the processor had before the arming
  exit. A second single step on any processor, the lost IF of
  `double_violation_loses_view_and_if` among them, saves over the slot and trips the
  assertion.
-/

namespace DdiMon

/-! ### The failed checks -/

/-- A post call checks nothing, writes no guest memory and leaves the saved IF alone. -/
theorem sbpCreateAndEnablePostBreakpoint_frame {s s' : State} (hact : s.breakpoints.isSome)
    {a tid : Nat} {info : PatchInformation} {parameters : List Nat}
    (h : sbpCreateAndEnablePostBreakpoint a info parameters tid s = .ok s') :
    s'.failedChecks = s.failedChecks ∧ s'.memory = s.memory ∧
      s'.previouseGuestInterruptFlag = s.previouseGuestInterruptFlag := by
  obtain ⟨l, hl⟩ := Option.isSome_iff_exists.mp hact
  simp only [sbpCreateAndEnablePostBreakpoint, sbppFindDuplicatedPostPatchInfo,
    sbppFindPatchInfo_of_some hl, bind_eq_ok_iff, Except.ok.injEq] at h
  obtain ⟨_, rfl, h⟩ := h
  split at h
  · obtain rfl := pure_eq_ok_iff.mp h
    exact ⟨rfl, rfl, rfl⟩
  · simp only [sbppCreatePostBreakpoint, bind_eq_ok_iff, pure_eq_ok_iff] at h
    obtain ⟨_, ⟨⟨post, s₁⟩, hc, rfl⟩, _, h, rfl⟩ := h
    obtain ⟨hb, -⟩ := sbppCreateBreakpoint_frame hact hc
    simp only [sbppAddBreakpointToList_of_some (hb.trans hl), Except.ok.injEq] at h
    subst h
    rcases sbppCreateBreakpoint_cases hl hc with ⟨_, _, _, -, rfl⟩ | ⟨_, _, _, -, rfl⟩ <;>
      exact ⟨rfl, rfl, rfl⟩

/-- A handler's post calls check nothing, write no guest memory and leave the saved IF
alone. -/
theorem Inv.handler_frame {s s' : State} (hi : Inv s) {info : PatchInformation}
    {tid : Nat} {requests : List (Nat × List Nat)} (h : runHandler info tid requests s = .ok s') :
    s'.failedChecks = s.failedChecks ∧ s'.memory = s.memory ∧
      s'.previouseGuestInterruptFlag = s.previouseGuestInterruptFlag := by
  replace h := (runHandler_eq_ok h).2
  generalize hs₀ : { s with calls := ⟨info.handler, info, tid⟩ :: s.calls } = s₀ at h
  have hi₀ : Inv s₀ := hs₀ ▸ hi.congr rfl rfl rfl rfl rfl rfl rfl
  rw [show s.failedChecks = s₀.failedChecks by rw [← hs₀], show s.memory = s₀.memory by rw [← hs₀],
    show s.previouseGuestInterruptFlag = s₀.previouseGuestInterruptFlag by rw [← hs₀]]
  clear hs₀
  induction requests generalizing s₀ with
  | nil => cases h; exact ⟨rfl, rfl, rfl⟩
  | cons r rest ih =>
    simp only [runRequests, bind_eq_ok_iff] at h
    obtain ⟨s₁, h₁, h⟩ := h
    obtain ⟨hf, hm, hg⟩ := sbpCreateAndEnablePostBreakpoint_frame hi₀.active h₁
    obtain ⟨hf', hm', hg'⟩ := ih s₁ h (hi₀.createAndEnablePost h₁).1
    exact ⟨hf'.trans hf, hm'.trans hm, hg'.trans hg⟩

/-- The single step asserts that the slot is empty before it fills it. -/
theorem stepOnRwView_failedChecks (x : PatchInformation) (s : State) (v : Vmcs) :
    (stepOnRwView x s v).1.failedChecks =
      if s.lastBreakpoint.isNone then s.failedChecks else .lastBreakpointEmpty :: s.failedChecks := by
  rw [stepOnRwView_fst, State.ntAssert_eq]

/-- A single step that starts with the slot filled fails the assertion. -/
theorem stepOnRwView_asserts (x : PatchInformation) {s : State} (v : Vmcs)
    (h : s.lastBreakpoint.isSome) :
    Check.lastBreakpointEmpty ∈ (stepOnRwView x s v).1.failedChecks := by
  simp [stepOnRwView_failedChecks, Option.isSome_iff_ne_none.mp h]

/-- The MTF exit needs the flag armed. -/
theorem Machine.ne_monitorTrapFlag {m : Machine} {e : Event} (hmtf : m.vmcs.monitorTrapFlag = false)
    (he : m.enabled e = true) : e ≠ .monitorTrapFlag := by
  rintro rfl
  simp [Machine.enabled, hmtf] at he

/-- **An exit other than the MTF exit** leaves the flag, the slot and the saved IF alone, or
single-steps on a record, and then the assertion fails if the slot was already filled. -/
theorem Machine.step_of_ne_monitorTrapFlag {m m' : Machine} {e : Event} (hi : Inv m.state)
    (hne : e ≠ .monitorTrapFlag) (hep : e.entryPoint = false) (hs : m.step e = .ok m') :
    (m'.vmcs.monitorTrapFlag = m.vmcs.monitorTrapFlag ∧
        m'.state.lastBreakpoint = m.state.lastBreakpoint ∧
        m'.state.previouseGuestInterruptFlag = m.state.previouseGuestInterruptFlag) ∨
      (m.state.lastBreakpoint.isSome → Check.lastBreakpointEmpty ∈ m'.state.failedChecks) := by
  cases e with
  | breakpoint guestIp tid irql requests =>
    simp only [Machine.step, bind_eq_ok_iff, pure_eq_ok_iff] at hs
    obtain ⟨⟨b, s', v'⟩, hbp, rfl⟩ := hs
    rcases sbpHandleBreakpoint_cases hbp with ⟨-, rfl, rfl⟩ | ⟨info, -, -, -, -, -, hcase⟩
    · exact .inl ⟨rfl, rfl, rfl⟩
    rcases hcase with ⟨-, s₁, h₁, hs⟩ | ⟨-, -, rfl, s₁, o, h₁, h₂, -⟩ | ⟨-, -, hs⟩
    · obtain rfl : s' = (stepOnRwView info s₁ m.vmcs).1 := congrArg Prod.fst hs
      obtain ⟨-, hlast, -⟩ := hi.handler h₁
      exact .inr fun h => stepOnRwView_asserts _ _ (hlast ▸ h)
    · obtain ⟨-, hlast, -⟩ := hi.handler h₁
      have hflag := (hi.handler_frame h₁).2.2
      obtain ⟨l, rfl, -⟩ := sbppDeleteBreakpointFromList_eq h₂
      exact .inl ⟨rfl, hlast, hflag⟩
    · obtain rfl : s' = (stepOnRwView info m.state m.vmcs).1 := congrArg Prod.fst hs
      exact .inr (stepOnRwView_asserts _ _)
  | monitorTrapFlag => exact absurd rfl hne
  | eptViolation faultVa gpa =>
    simp only [Machine.step, bind_eq_ok_iff, pure_eq_ok_iff] at hs
    obtain ⟨⟨s', v'⟩, h₁, rfl⟩ := hs
    rcases sbpHandleEptViolation_cases h₁ with ⟨rfl, rfl⟩ | ⟨info, -, hs⟩
    · exact .inl ⟨rfl, rfl, rfl⟩
    · obtain rfl : s' = (stepOnRwView info m.state m.vmcs).1 := congrArg Prod.fst hs
      exact .inr (stepOnRwView_asserts _ _)
  | guestWrite | guestFlags =>
    obtain ⟨hlast, hflag, hmtf, -⟩ := Machine.step_quiet hi.active (by rfl) hs
    exact .inl ⟨hmtf, hlast, hflag⟩
  | createPreBreakpoint _ _ | start | disablePageShadowing => cases hep

/-! ### Every interleaving -/

/-- At most one processor single-steps: no flag is armed and the slot is empty, or processor
`p` alone single-steps, on the record in the slot. -/
def OneStepping (sys : System) : Prop :=
  (sys.state.lastBreakpoint = none ∧ ∀ q, (sys.vmcs q).monitorTrapFlag = false) ∨
    ∃ p x, Armed sys.state (sys.vmcs p) x ∧ ∀ q, q ≠ p → (sys.vmcs q).monitorTrapFlag = false

/-- The processor that stepped takes its new VMCS; the others keep theirs. -/
theorem OneStepping.of_machine {sys : System} {p : Nat} {m : Machine}
    (hothers : ∀ q, q ≠ p → (sys.vmcs q).monitorTrapFlag = false)
    (h : Stepping m.state m.vmcs) :
    OneStepping ⟨m.state, Function.update sys.vmcs p m.vmcs, m.started⟩ := by
  rcases h with ⟨hslot, hmtf⟩ | ⟨x, hx⟩
  · refine .inl ⟨hslot, fun q => ?_⟩
    by_cases hq : q = p
    · subst hq
      simpa using hmtf
    · simpa [hq] using hothers q hq
  · exact .inr ⟨p, x, by simpa using hx, fun q hq => by simpa [hq] using hothers q hq⟩

/-- **One step keeps `OneStepping`** while the assertion holds. The processor that single-steps
runs as on one processor. Another processor leaves the slot alone, or fills it and trips the
assertion. -/
theorem OneStepping.step {sys sys' : System} {p : Nat} {e : Event} (h : SharedInv sys.state)
    (ho : OneStepping sys) (he : sys.enabled p e = true) (hep : e.entryPoint = false)
    (hpc : e.postCallsFromPre sys.state = true) (hs : sys.step p e = .ok sys')
    (hchk : Check.lastBreakpointEmpty ∉ sys'.state.failedChecks) : OneStepping sys' := by
  have h' := h.systemStep he hep hpc hs
  obtain ⟨m, hm, rfl⟩ := System.step_eq hs
  rcases ho with ⟨hslot, hidle⟩ | ⟨p₀, x, hx, hothers⟩
  · have hmi : MachineInv (sys.view p) := ⟨h.inv, .inl ⟨hslot, hidle p⟩⟩
    exact OneStepping.of_machine (fun q _ => hidle q) (hmi.step he hm).stepping
  by_cases hp : p = p₀
  · subst hp
    have hmi : MachineInv (sys.view p) := ⟨h.inv, .inr ⟨x, hx⟩⟩
    exact OneStepping.of_machine hothers (hmi.step he hm).stepping
  rcases Machine.step_of_ne_monitorTrapFlag h.inv (Machine.ne_monitorTrapFlag (hothers p hp) he) hep
    hm with ⟨hmtf', hslot', -⟩ | hfail
  · have hslot₁ : m.state.lastBreakpoint = some x := hslot'.trans hx.1
    refine .inr ⟨p₀, x, ⟨hslot₁, ?_, h'.slot_view x hslot₁⟩, fun q hq => ?_⟩
    · simpa [Ne.symm hp] using hx.2.1
    · by_cases hqp : q = p
      · subst hqp
        simpa using hmtf'.trans (hothers q hq)
      · simpa [hqp] using hothers q hq
  · exact absurd (hfail (by simp [System.view, hx.1])) hchk

end DdiMon
