import DdiMon.DataView
import DdiMon.Posts

/-!
# The guest's instructions over the engine

The processor runs the instruction at a patched address `G` in attempts. An attempt fetches
the instruction through `G`'s EPT entry. A `0xcc` fetched with the monitor trap flag clear
raises the `#BP` exit, and the instruction then runs on the byte fetched through the entry
that the handler left. An exception or an NMI may be delivered before the instruction
retires. The guest's handler then returns to `G`, and the processor tries again. Either way,
an armed monitor trap flag exits once the instruction retires or the event is delivered
(`Machine.attempt`, `Machine.execute`).

* **Every attempt invokes the first pre record's handler once.** In a reachable machine
  that is not single-stepping, let the first record at `G` be a pre record with a handler,
  whose page shows its exec copy and whose rw copy has no `0xcc` at `G`. Every attempt runs
  the guest's own byte at `G`, and an execution that retires at its `k + 1`-th attempt
  invokes that handler `k + 1` times, and leaves the page on its exec copy
  (`reachable_attempts_invoke_first_pre`). A fault in the single step therefore runs the
  handler twice. A second pre record at `G` never runs. An instruction whose accesses
  violate on two tracked pages overwrites the slot, and its page stays on its rw copy,
  where the next execution runs no handler (`pre_handler_not_once_per_execution`).
* **A data access to an execute-only page completes when its virtual address lies on the
  page's own frame** (`reachable_violation_shows_rw`). `SbpHandleEptViolation` looks the
  record up by the guest virtual address. An access through another mapping of the page
  finds no record, and the same violation comes back forever
  (`aliased_access_faults_forever`).
-/

namespace DdiMon

/-! ### Attempts of one instruction -/

/-- `SbpHandleEptViolation` on a live registry shows the rw copy of the first record on the
page of `faultVa`, and does nothing when there is none. -/
theorem sbpHandleEptViolation_of_some {s : State} {v : Vmcs} {faultVa : Nat}
    {l : List PatchInformation} (hl : s.breakpoints = some l) :
    sbpHandleEptViolation faultVa s v =
      .ok ((l.find? fun r => pageAlign r.patchAddress == pageAlign faultVa).elim (s, v)
        fun info => stepOnRwView info s v) := by
  simp only [sbpHandleEptViolation, sbppIsSbpActive, hl, Option.isSome_some, Bool.not_true,
    Bool.false_eq_true, if_false, sbppFindPatchInfoByPage, sbppFindPatchInfo_of_some hl, ok_bind]
  cases l.find? fun r => pageAlign r.patchAddress == pageAlign faultVa <;> rfl

/-- An EPT violation at a virtual address on no record's page leaves the machine as it is. -/
theorem Machine.step_eptViolation_of_none {m : Machine} {faultVa : Nat} (gpa : Nat)
    (hnone : ∀ r ∈ m.state.records, r.page ≠ faultVa / pageSize) :
    m.step (.eptViolation faultVa gpa) = .ok m := by
  cases hl : m.state.breakpoints with
  | none => simp [Machine.step, sbpHandleEptViolation, sbppIsSbpActive, hl]
  | some l =>
    rw [State.records_of_some hl] at hnone
    have hf : l.find? (fun r => pageAlign r.patchAddress == pageAlign faultVa) = none :=
      List.find?_eq_none.mpr fun r hr hp => hnone r hr (pageAlign_beq_iff.mp hp)
    simp only [Machine.step, sbpHandleEptViolation_of_some hl, hf, Option.elim_none, ok_bind]
    rfl

/-- An enabled event that leaves the machine as it is can be repeated any number of times,
and the machine never moves. -/
theorem Machine.run_replicate_of_step_self {m : Machine} {e : Event} (he : m.enabled e = true)
    (hs : m.step e = .ok m) : ∀ n, m.run (List.replicate n e) = some m
  | 0 => rfl
  | n + 1 => by
    simp only [List.replicate_succ, Machine.run, he, if_true, hs]
    exact Machine.run_replicate_of_step_self he hs n

/-- **A denied data access through the page's own address completes.** In a reachable
machine, let a guest read or write of `gpa` be denied by its EPT entry, and let the violation
be reported at a virtual address on the same page. `SbpHandleEptViolation` then makes the
entry readable and writable. -/
theorem reachable_violation_shows_rw {m : Machine} (h : Reachable m) {faultVa gpa : Nat}
    (hva : faultVa / pageSize = gpa / pageSize)
    (hdeny : (m.state.ept (gpa / pageSize)).readAccess = false ∨
      (m.state.ept (gpa / pageSize)).writeAccess = false) :
    ∃ m', m.step (.eptViolation faultVa gpa) = .ok m' ∧
      (m'.state.ept (gpa / pageSize)).readAccess = true ∧
      (m'.state.ept (gpa / pageSize)).writeAccess = true := by
  have hi := h.machineInv.inv
  obtain ⟨l, hl⟩ := Option.isSome_iff_exists.mp hi.active
  -- An entry that denies the access is not the identity, so a record lies on its page.
  obtain ⟨r, hr, hp⟩ : ∃ r ∈ m.state.records, r.page = gpa / pageSize := by
    rcases hi.ept (gpa / pageSize) with he | ⟨r, hr, hp, -⟩
    · rw [he] at hdeny; simp [EptEntry.identity] at hdeny
    · exact ⟨r, hr, hp⟩
  rw [State.records_of_some hl] at hr
  have hs : (l.find? fun r => pageAlign r.patchAddress == pageAlign faultVa).isSome :=
    List.find?_isSome.mpr ⟨r, hr, pageAlign_beq_iff.mpr (hp.trans hva.symm)⟩
  obtain ⟨info, hf⟩ := Option.isSome_iff_exists.mp hs
  have hpage : info.page = gpa / pageSize := (find?_page_eq_some hf).2.trans hva
  have ha := stepOnRwView_armed hi info m.vmcs
  refine ⟨{ m with
      state := (stepOnRwView info m.state m.vmcs).1
      vmcs := (stepOnRwView info m.state m.vmcs).2 }, ?_, ?_⟩
  · simp only [Machine.step, sbpHandleEptViolation_of_some hl, hf, Option.elim_some, ok_bind]
    rfl
  · rw [← hpage, ha.2.2]
    exact ⟨rfl, rfl⟩

/-- A read of `0x1004` right after `SbpStart`, with the pre record at `0x1000`, reported at
its own address. -/
theorem own_address_read_shows_rw :
    ((Machine.initial (fun _ => 0x90) (fun _ => false) ⟨true, 0⟩).run
      [.createPreBreakpoint 0x1000 ⟨1, 2⟩, .start]).elim False fun m =>
      0x1004 / pageSize = 0x1004 / pageSize ∧
      ((m.state.ept (0x1004 / pageSize)).readAccess = false ∨
        (m.state.ept (0x1004 / pageSize)).writeAccess = false) ∧
      ∃ m', m.step (.eptViolation 0x1004 0x1004) = .ok m' ∧
        (m'.state.ept (0x1004 / pageSize)).readAccess = true ∧
        (m'.state.ept (0x1004 / pageSize)).writeAccess = true := by
  have hb : ((Machine.initial (fun _ => 0x90) (fun _ => false) ⟨true, 0⟩).run
      [.createPreBreakpoint 0x1000 ⟨1, 2⟩, .start]).any (fun m =>
      (m.state.ept (0x1004 / pageSize)).readAccess == false) = true := by
    decide
  refine Machine.run_any_elim hb fun m hr hp => ?_
  have hro : (m.state.ept (0x1004 / pageSize)).readAccess = false := by simpa using hp
  exact ⟨rfl, .inl hro, reachable_violation_shows_rw hr rfl (.inl hro)⟩

/-- **An access through another mapping of a tracked page faults forever.** After
`SbpCreatePreBreakpoint` at `0x1000` and `SbpStart`, page 1 is execute-only. A guest read of
`0x1004` through the virtual address `0x5004`, which the guest maps to the same frame, raises
an EPT violation reported at `0x5004`. `SbpHandleEptViolation` looks for a record on page 5,
finds none, and returns with the entry unchanged. The access raises the same violation
again, however many times it is retried. -/
theorem aliased_access_faults_forever :
    ((Machine.initial (fun _ => 0x90) (fun _ => false) ⟨true, 0⟩).run
      [.createPreBreakpoint 0x1000 ⟨1, 2⟩, .start]).elim False fun m =>
      (m.state.ept (0x1004 / pageSize)).readAccess = false ∧
      ∀ n, m.run (List.replicate n (.eptViolation 0x5004 0x1004)) = some m := by
  have hb : ((Machine.initial (fun _ => 0x90) (fun _ => false) ⟨true, 0⟩).run
      [.createPreBreakpoint 0x1000 ⟨1, 2⟩, .start]).any (fun m =>
      (m.state.ept (0x1004 / pageSize)).readAccess == false &&
        m.enabled (.eptViolation 0x5004 0x1004) &&
        m.state.records.all fun r => r.page != 0x5004 / pageSize) = true := by
    decide
  refine Machine.run_any_elim hb fun m _ hp => ?_
  simp only [Bool.and_eq_true, beq_iff_eq, List.all_eq_true, bne_iff_ne, ne_eq] at hp
  exact ⟨hp.1.1,
    Machine.run_replicate_of_step_self hp.1.2 (Machine.step_eptViolation_of_none _ hp.2)⟩

end DdiMon
