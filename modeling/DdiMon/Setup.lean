import DdiMon.Multiprocessor

/-!
# The driver's setup

The driver calls `SbpInitialization`, then `SbpCreatePreBreakpoint` once for each function
it hooks, and then `SbpStart`, whose hypercall `SbpVmCallEnablePageShadowing` shows every
record's exec copy.

* **The setup returns, and leaves the state the results over interleavings start from**
  (`setup_shows_exec_copies`). For any guest memory, any RFLAGS and any list of hooks, the
  setup runs to its end when the pool serves two pages per hook; `Page::Page` bug-checks on
  a page the pool refuses. The registry then holds one pre record per call, in call order,
  with the call's address and handlers. The slot is empty, the monitor trap flag is clear,
  and every record's page shows its exec copy execute-only.
-/

namespace DdiMon

/-- What the driver chose for a record: its address, its type and its two handlers. -/
def PatchInformation.hook (r : PatchInformation) : Nat × BreakpointType × Nat × Nat :=
  (r.patchAddress, r.type, r.handler, r.postHandler)

/-! ### The pre breakpoints -/

/-- `SbpCreatePreBreakpoint` returns on a live registry while the pool serves the next two
pages. -/
theorem sbpCreatePreBreakpoint_ok {s : State} (hact : s.breakpoints.isSome)
    (h0 : s.poolFails s.nextPage = false) (h1 : s.poolFails (s.nextPage + 1) = false) (a : Nat)
    (t : BreakpointTarget) : ∃ s', sbpCreatePreBreakpoint a t s = .ok s' := by
  obtain ⟨l, hl⟩ := Option.isSome_iff_exists.mp hact
  obtain ⟨⟨info, s₁⟩, hc⟩ := sbppCreateBreakpoint_ok hl h0 h1 a
  obtain ⟨hb, -⟩ := sbppCreateBreakpoint_frame hact hc
  exact ⟨_, by
    simp only [sbpCreatePreBreakpoint, sbppCreatePreBreakpoint, hc, ok_bind, pure_bind,
      sbppAddBreakpointToList_of_some (hb.trans hl)]; rfl⟩

/-- `SbpCreatePreBreakpoint` takes at most the next two pool pages. -/
theorem sbpCreatePreBreakpoint_pool {s s' : State} (hact : s.breakpoints.isSome) {a : Nat}
    {t : BreakpointTarget} (h : sbpCreatePreBreakpoint a t s = .ok s') :
    s'.poolFails = s.poolFails ∧ s.nextPage ≤ s'.nextPage ∧ s'.nextPage ≤ s.nextPage + 2 := by
  obtain ⟨l, hl⟩ := Option.isSome_iff_exists.mp hact
  simp only [sbpCreatePreBreakpoint, sbppCreatePreBreakpoint, bind_eq_ok_iff,
    pure_eq_ok_iff] at h
  obtain ⟨_, ⟨⟨info, s₁⟩, hc, rfl⟩, h⟩ := h
  obtain ⟨hb, -, -, -, -, -, -, hf, hn⟩ := sbppCreateBreakpoint_frame hact hc
  simp only [sbppAddBreakpointToList_of_some (hb.trans hl), Except.ok.injEq] at h
  subst h
  have hn' := sbppCreateBreakpoint_nextPage hact hc
  exact ⟨hf, hn, hn'⟩

/-- `SbpCreatePreBreakpoint` appends a pre record at its address with the target's
handlers. -/
theorem sbpCreatePreBreakpoint_hook {s s' : State} (hact : s.breakpoints.isSome) {a : Nat}
    {t : BreakpointTarget} (h : sbpCreatePreBreakpoint a t s = .ok s') :
    s'.records.map PatchInformation.hook =
      s.records.map PatchInformation.hook ++ [(a, .kPre, t.preHandler, t.postHandler)] := by
  obtain ⟨l, hl⟩ := Option.isSome_iff_exists.mp hact
  simp only [sbpCreatePreBreakpoint, sbppCreatePreBreakpoint, bind_eq_ok_iff,
    pure_eq_ok_iff] at h
  obtain ⟨_, ⟨⟨info, s₁⟩, hc, rfl⟩, h⟩ := h
  obtain ⟨hb, -, -, -, -, haddr, -⟩ := sbppCreateBreakpoint_frame hact hc
  simp only [sbppAddBreakpointToList_of_some (hb.trans hl), Except.ok.injEq] at h
  subst h
  simp [State.records_of_some hl, PatchInformation.hook, haddr]

/-- **The driver's `SbpCreatePreBreakpoint` calls return one after another**, before
`SbpStart`, while the pool serves two pages per call, and append their pre records in call
order. -/
theorem Machine.run_createPres : ∀ (pres : List (Nat × BreakpointTarget)) {m : Machine},
    Reachable m → m.started = false → m.vmcs.monitorTrapFlag = false →
    (∀ k, m.state.nextPage ≤ k → k < m.state.nextPage + 2 * pres.length →
      m.state.poolFails k = false) → ∀ rest : List Event,
    ∃ m', m.run (pres.map (fun p => Event.createPreBreakpoint p.1 p.2) ++ rest) = m'.run rest ∧
      Reachable m' ∧ m'.started = false ∧ m'.vmcs = m.vmcs ∧
      m'.state.lastBreakpoint = m.state.lastBreakpoint ∧
      m'.state.records.map PatchInformation.hook = m.state.records.map PatchInformation.hook ++
        pres.map fun p => (p.1, .kPre, p.2.preHandler, p.2.postHandler)
  | [], m, h, hst, _, _, rest => ⟨m, rfl, h, hst, rfl, rfl, by simp⟩
  | (a, t) :: pres, m, h, hst, hmtf, hpool, rest => by
    have hact := h.machineInv.inv.active
    simp only [List.length_cons] at hpool
    obtain ⟨s', hs⟩ := sbpCreatePreBreakpoint_ok hact (hpool _ (le_refl _) (by omega))
      (hpool _ (Nat.le_succ _) (by omega)) a t
    obtain ⟨hf, hn, hn'⟩ := sbpCreatePreBreakpoint_pool hact hs
    have hen : m.enabled (.createPreBreakpoint a t) = true := by
      simp [Machine.enabled, hst, hmtf]
    have hstep : m.step (.createPreBreakpoint a t) = .ok { m with state := s' } := by
      simp only [Machine.step, hs, ok_bind]; rfl
    obtain ⟨m', hrun, hr', hst', hv', hlast', hrec'⟩ :=
      Machine.run_createPres pres (Reachable.step _ h hen hstep) hst hmtf
        (fun k hk hk' => hf ▸ hpool k (hn.trans hk) (by simp only at hk'; omega)) rest
    refine ⟨m', ?_, hr', hst', hv', hlast'.trans (sbpCreatePreBreakpoint_frame hact hs).1, ?_⟩
    · simp only [List.map_cons, List.cons_append, Machine.run, hen, if_true, hstep]
      exact hrun
    · rw [hrec']
      simp [sbpCreatePreBreakpoint_hook hact hs]

/-! ### `SbpStart` -/

/-- Showing exec copies of records on other pages leaves a page's entry alone. -/
theorem foldl_enableExec_ept {l : List PatchInformation} {p : Nat} (hp : ∀ r ∈ l, r.page ≠ p)
    (s : State) :
    (l.foldl (fun s info => sbppEnablePageShadowingForExec info s) s).ept p = s.ept p := by
  induction l generalizing s with
  | nil => rfl
  | cons r l ih =>
    rw [List.foldl_cons, ih (fun r' hr' => hp r' (List.mem_cons_of_mem _ hr'))]
    simp [sbppEnablePageShadowingForExec, State.setEpt,
      Function.update_noteq (hp r (List.mem_cons_self _ _)).symm]

/-- After `SbpVmCallEnablePageShadowing` over live records, the page of each shows its exec
copy execute-only: the last record walked on a page sets its entry, and records on one
page share their copies. -/
theorem Inv.enableAll_ept {s : State} (hi : Inv s) {l : List PatchInformation}
    (hl : ∀ r ∈ l, r ∈ s.records) : ∀ r ∈ l,
      (l.foldl (fun s info => sbppEnablePageShadowingForExec info s) s).ept r.page =
        ⟨false, false, true, r.paBaseForExec⟩ := by
  induction l generalizing s with
  | nil => intro r hr; cases hr
  | cons x l ih =>
    intro r hr
    have hi₁ := hi.enableExec (.of_mem (hl x (List.mem_cons_self _ _)))
    rw [List.foldl_cons]
    by_cases hy : ∃ y ∈ l, y.page = r.page
    · obtain ⟨y, hyl, hyp⟩ := hy
      rw [← hyp, ih hi₁ (fun r' hr' => hl r' (List.mem_cons_of_mem _ hr')) y hyl,
        (hi.frames_eq (hl y (List.mem_cons_of_mem _ hyl)) (hl r hr) hyp).1]
    · simp only [not_exists, not_and] at hy
      obtain rfl : r = x := (List.mem_cons.mp hr).resolve_right fun hrl => hy r hrl rfl
      rw [foldl_enableExec_ept hy]
      simp [sbppEnablePageShadowingForExec, State.setEpt, (hi.ept r.page).executeAccess]

/-- **The setup returns, and leaves the engine ready.** For any guest memory, RFLAGS and
list of hooks, over a pool that serves the first two pages per hook, `SbpInitialization`,
one `SbpCreatePreBreakpoint` per hook and `SbpStart` run to their end. The registry holds
one pre record per hook, in order, with the hook's address and handlers; the slot is
empty, the monitor trap flag is clear, and every record's page shows its exec copy
execute-only. -/
theorem setup_shows_exec_copies (memory : Nat → UInt8) (poolFails : Nat → Bool)
    (flags : FlagRegister) (pres : List (Nat × BreakpointTarget))
    (hpool : ∀ k < 2 * pres.length, poolFails k = false) :
    ∃ m, (Machine.initial memory poolFails flags).run
        (pres.map (fun p => Event.createPreBreakpoint p.1 p.2) ++ [.start]) = some m ∧
      Reachable m ∧ m.started = true ∧ m.vmcs.monitorTrapFlag = false ∧
      m.state.lastBreakpoint = none ∧
      m.state.records.map PatchInformation.hook =
        pres.map (fun p => (p.1, .kPre, p.2.preHandler, p.2.postHandler)) ∧
      ∀ r ∈ m.state.records, m.state.ept r.page = ⟨false, false, true, r.paBaseForExec⟩ := by
  obtain ⟨m, hrun, hr, hst, hv, hlast, hrec⟩ :=
    Machine.run_createPres pres (.init memory poolFails flags) rfl rfl
      (fun k _ hk => hpool k (by simpa [Machine.initial, sbpInitialization, State.boot] using hk))
      [.start]
  have hi := hr.machineInv.inv
  obtain ⟨l, hl⟩ := Option.isSome_iff_exists.mp hi.active
  have hen : m.enabled .start = true := by simp [Machine.enabled, hst, hv, Machine.initial]
  have hstep : m.step .start = .ok { m with
      state := l.foldl (fun s info => sbppEnablePageShadowingForExec info s) m.state
      started := true } := by
    simp only [Machine.step, sbpStart, sbpVmCallEnablePageShadowing, hl, ok_bind]; rfl
  have hrecs : (l.foldl (fun s info => sbppEnablePageShadowingForExec info s) m.state).records =
      m.state.records :=
    foldl_records (fun s info => sbppEnablePageShadowingForExec info s) (fun _ _ => rfl) _ _
  refine ⟨_, ?_, Reachable.step _ hr hen hstep, rfl, by simp [hv, Machine.initial],
    (foldl_frame State.lastBreakpoint (fun s info => sbppEnablePageShadowingForExec info s)
      (fun _ _ => rfl) _ _).trans hlast, ?_, fun r hr' => ?_⟩
  · rw [hrun]
    simp only [Machine.run, hen, if_true, hstep]
  · rw [hrecs, hrec]
    simp [Machine.initial, sbpInitialization, State.records]
  · rw [hrecs, State.records_of_some hl] at hr'
    exact hi.enableAll_ept (fun r hr => by rwa [State.records_of_some hl]) r hr'

/-- Hooks at `0x1000` and `0x2000`, over a pool that refuses page 9 only. -/
theorem two_hooks_set_up :
    (∀ k < 2 * 2, (k == 9) = false) ∧
    ∃ m, (Machine.initial (fun _ => 0x90) (fun k => k == 9) ⟨true, 0⟩).run
        ([(0x1000, ⟨1, 2⟩), (0x2000, ⟨3, 4⟩)].map (fun p => Event.createPreBreakpoint p.1 p.2) ++
          [.start]) = some m ∧
      Reachable m ∧ m.started = true ∧ m.vmcs.monitorTrapFlag = false ∧
      m.state.lastBreakpoint = none ∧
      m.state.records.map PatchInformation.hook = [(0x1000, .kPre, 1, 2), (0x2000, .kPre, 3, 4)] ∧
      ∀ r ∈ m.state.records, m.state.ept r.page = ⟨false, false, true, r.paBaseForExec⟩ :=
  ⟨by decide, setup_shows_exec_copies _ _ _ [(0x1000, ⟨1, 2⟩), (0x2000, ⟨3, 4⟩)] (by decide)⟩

end DdiMon
