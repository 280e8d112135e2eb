import DdiMon.DataView
import DdiMon.Windows

/-!
# The data the guest sees over every interleaving

Without the engine, the guest sees one memory, which only its own stores change
(`Event.store`). With the engine, a page that holds a record shows its rw copy in place of
its own frame, whichever copy its EPT entry maps (`State.dataView`).

* **Reads return the stores** (`reachable_reads_follow_stores`). Over a run of exits and
  guest events on one processor from a reachable state with every record's page shadowed,
  the data view is the one the run started from with the run's stores applied, and every
  guest read the EPT allows returns it.
* **The data view follows the guest's stores** (`interleaved_data_view_follows_stores`).
  Over every interleaving of the processors' exits after `SbpStart`, the next step changes
  the data view as the store it is, or not at all. The erasure of a page's last record,
  which would show the page's own frame, reads the freed post and is not a step of any run.
* **Hooked pages follow the guest's stores over whole runs** (`hooked_pages_follow_stores`).
  On the page of a pre record first at its address, every run of exits shows the guest the
  stores of the run, in order, over the data it started from.
* **The engine's claim follows the guest's stores** (`hooked_bp_claim_follows_stores`). Over
  the same runs, a `#BP` at the address of such a record is the engine's exactly when the
  guest's data there is not `0xcc`. `SbppIsShadowBreakpoint` reads the rw copy, which holds
  the guest's stores, so a guest that stores `int 3` at a hooked address gets its own `#BP`
  back (`guest_int3_at_hook_delivered`).
-/

namespace DdiMon

variable {s s' : State}

/-! ### The data view of a shadowed state -/

theorem eq_of_page_offset {a b : Nat} (hp : a / pageSize = b / pageSize)
    (ho : byteOffset a = byteOffset b) : a = b := by
  rw [← pageAlign_add_byteOffset a, ← pageAlign_add_byteOffset b, hp, ho]

/-- With every page that holds a record mapped to a pool page, a page's data view is the
rw copy of any record on it. -/
theorem Inv.dataView_of_mem (hi : Inv s) (hsh : Shadowed s) {r : PatchInformation}
    (hr : r ∈ s.records) {a : Nat} (hp : r.page = a / pageSize) :
    s.dataView a = s.pool r.shadowPageBaseForRw (byteOffset a) := by
  refine hi.dataView_of_pool hr hp ?_
  rcases hsh.entry hi hr with he | he <;>
    simp [← hp, he, (hi.frames r hr).1, (hi.frames r hr).2, Frame.isPool]

/-- A page that holds no record shows its own frame. -/
theorem Inv.dataView_of_none (hi : Inv s) {a : Nat}
    (hnone : ∀ r ∈ s.records, r.page ≠ a / pageSize) : s.dataView a = s.memory a := by
  have hid : s.ept (a / pageSize) = .identity (a / pageSize) := by
    rcases hi.ept (a / pageSize) with he | ⟨r, hr, hp, -⟩
    · exact he
    · exact absurd hp (hnone r hr)
  simp [State.dataView, hid, EptEntry.identity, Frame.isPool]

/-- Two shadowed states with the same pool and memory show the same data, whichever copies
their EPTs map, when the records of one are records of the other and every page that holds a
record of the other still holds one. -/
theorem Inv.dataView_of_sub (hi : Inv s) (hsh : Shadowed s) (hi' : Inv s') (hsh' : Shadowed s')
    (hsub : ∀ r ∈ s'.records, r ∈ s.records)
    (hpages : ∀ r ∈ s.records, ∃ r' ∈ s'.records, r'.page = r.page)
    (hp : s'.pool = s.pool) (hm : s'.memory = s.memory) : s'.dataView = s.dataView := by
  funext a
  by_cases ha : ∃ r ∈ s.records, r.page = a / pageSize
  · obtain ⟨r, hmem, hpage⟩ := ha
    obtain ⟨r', hr', hpage'⟩ := hpages r hmem
    rw [hi'.dataView_of_mem hsh' hr' (hpage'.trans hpage),
      hi.dataView_of_mem hsh (hsub r' hr') (hpage'.trans hpage), hp]
  · simp only [not_exists, not_and] at ha
    rw [hi'.dataView_of_none fun r hr => ha r (hsub r hr), hi.dataView_of_none ha, hm]

theorem Inv.dataView_congr (hi : Inv s) (hsh : Shadowed s) (hi' : Inv s') (hsh' : Shadowed s')
    (hr : s'.records = s.records) (hp : s'.pool = s.pool) (hm : s'.memory = s.memory) :
    s'.dataView = s.dataView :=
  hi.dataView_of_sub hsh hi' hsh' (fun _ h => hr ▸ h) (fun r h => ⟨r, hr ▸ h, rfl⟩) hp hm

theorem dataView_stepOnRwView (hi : Inv s) (hsh : Shadowed s) {x : PatchInformation}
    (hx : Live s.records x) (v : Vmcs) : (stepOnRwView x s v).1.dataView = s.dataView :=
  hi.dataView_congr hsh (hi.stepOnRwView hx v) (hsh.stepOnRwView hi hx v)
    (stepOnRwView_records ..) (by rw [stepOnRwView_fst]; rfl) (by rw [stepOnRwView_fst]; rfl)

/-! ### Post calls -/

/-- The rw copy `SbppCreateBreakpoint` gives its record: that of a record already on the
page, or a fresh copy of the page's frame. -/
theorem sbppCreateBreakpoint_rw {l : List PatchInformation} (hl : s.breakpoints = some l)
    {a : Nat} {info : PatchInformation} (h : sbppCreateBreakpoint a s = .ok (info, s')) :
    (∃ r ∈ l, r.page = a / pageSize) ∨
      ∀ o, s'.pool info.shadowPageBaseForRw o = s.memory (pageAlign a + o) := by
  by_cases hex : ∃ r ∈ l, r.page = a / pageSize
  · exact .inl hex
  · simp only [not_exists, not_and] at hex
    exact .inr fun o => ((sbppCreateBreakpoint_fresh hl hex h).2.2 o).1

/-- **A post call keeps the data view.** A post on a page with records shares their
copies, and a post on a page without records copies the page's frame. -/
theorem Inv.createAndEnablePost_dataView (hi : Inv s) (hsh : Shadowed s) {a tid : Nat}
    {info : PatchInformation} {parameters : List Nat}
    (h : sbpCreateAndEnablePostBreakpoint a info parameters tid s = .ok s') :
    s'.dataView = s.dataView := by
  obtain ⟨hi', -, hgrow⟩ := hi.createAndEnablePost h
  have hsh' := hsh.createAndEnablePost hi h
  have hm := (sbpCreateAndEnablePostBreakpoint_frame hi.active h).2.1
  funext x
  by_cases hx : ∃ r ∈ s.records, r.page = x / pageSize
  · obtain ⟨r, hr, hp⟩ := hx
    obtain ⟨ps, hr'⟩ := hgrow r hr
    rw [hi'.dataView_of_mem hsh' hr' hp, hi.dataView_of_mem hsh hr hp]
    exact congrFun ((hi.createAndEnablePost_frame h).2 r hr) _
  simp only [not_exists, not_and] at hx
  rw [hi.dataView_of_none hx]
  obtain ⟨l, hl⟩ := Option.isSome_iff_exists.mp hi.active
  rw [State.records_of_some hl] at hx
  simp only [sbpCreateAndEnablePostBreakpoint, sbppFindDuplicatedPostPatchInfo,
    sbppFindPatchInfo_of_some hl, bind_eq_ok_iff, Except.ok.injEq] at h
  obtain ⟨_, rfl, h⟩ := h
  split at h
  · obtain rfl := pure_eq_ok_iff.mp h
    refine (hi'.dataView_of_none fun r hr hp => ?_).trans (congrFun hm x)
    obtain ⟨r₀, hr₀, hrr⟩ := setParameters_live hi.active _ _ r hr
    rw [hrr] at hp
    exact hx r₀ (by rwa [State.records_of_some hl] at hr₀) hp
  simp only [sbppCreatePostBreakpoint, bind_eq_ok_iff, pure_eq_ok_iff] at h
  obtain ⟨_, ⟨⟨post, s₁⟩, hc, rfl⟩, _, h, rfl⟩ := h
  obtain ⟨hb, -, -, -, -, haddr, -⟩ := sbppCreateBreakpoint_frame hi.active hc
  simp only [sbppAddBreakpointToList_of_some (hb.trans hl), Except.ok.injEq] at h
  subst h
  by_cases hpx : post.page = x / pageSize
  · -- the post is the page's first record: its rw copy is a fresh copy of the frame
    have hax : a / pageSize = x / pageSize := by rw [← haddr]; exact hpx
    rcases sbppCreateBreakpoint_rw hl hc with ⟨r, hr, hp⟩ | hcopy
    · exact absurd (hp.trans hax) (hx r hr)
    rw [hi'.dataView_of_mem hsh' (List.mem_append_right l (List.mem_singleton_self _)) hpx]
    show s₁.pool post.shadowPageBaseForRw (byteOffset x) = s.memory x
    rw [hcopy, pageAlign, hax, pageAlign_add_byteOffset]
  · refine (hi'.dataView_of_none fun r hr hp => ?_).trans (congrFun hm x)
    rcases List.mem_append.mp hr with hr | hr
    · exact hx r hr hp
    · exact hpx (by rw [List.mem_singleton.mp hr] at hp; exact hp)

theorem Inv.requests_dataView {info : PatchInformation} {tid : Nat} :
    ∀ {requests : List (Nat × List Nat)} {s s' : State}, Inv s → Shadowed s →
      runRequests info tid requests s = .ok s' → s'.dataView = s.dataView
  | [], _, _, _, _, hs => by cases hs; rfl
  | (_, _) :: _, _, _, hi, hsh, hs => by
    simp only [runRequests, bind_eq_ok_iff] at hs
    obtain ⟨s₁, h₁, hs⟩ := hs
    exact (Inv.requests_dataView (hi.createAndEnablePost h₁).1 (hsh.createAndEnablePost hi h₁)
      hs).trans (hi.createAndEnablePost_dataView hsh h₁)

/-- A handler and its post calls keep the data view. -/
theorem Inv.handler_dataView (hi : Inv s) (hsh : Shadowed s) {info : PatchInformation}
    {tid : Nat} {requests : List (Nat × List Nat)} (h : runHandler info tid requests s = .ok s') :
    s'.dataView = s.dataView := by
  have hi₀ : Inv { s with calls := ⟨info.handler, info, tid⟩ :: s.calls } :=
    hi.congr rfl rfl rfl rfl rfl rfl rfl
  have hd := Inv.requests_dataView hi₀ hsh (runHandler_eq_ok h).2
  exact hd

/-! ### One step -/

/-- **The `#BP` handler keeps the data view.** The owner's erasure of a post leaves a record on
the post's page, or the handler faults. -/
theorem Inv.handleBreakpoint_dataView {v v' : Vmcs} {b : Bool} {G tid irql : Nat}
    {requests : List (Nat × List Nat)} (hi : Inv s) (hsh : Shadowed s) (hi' : Inv s')
    (hsh' : Shadowed s') (h : sbpHandleBreakpoint G tid irql requests s v = .ok (b, s', v')) :
    s'.dataView = s.dataView := by
  rcases sbpHandleBreakpoint_cases h with ⟨-, rfl, -⟩ | ⟨info, -, hf, -, -, -, hcase⟩
  · rfl
  have hinfo : Live s.records info := .of_mem (List.mem_of_find?_eq_some hf)
  have hi₀ : Inv { s with calls := ⟨info.handler, info, tid⟩ :: s.calls } :=
    hi.congr rfl rfl rfl rfl rfl rfl rfl
  rcases hcase with ⟨-, s₁, h₁, hs⟩ | ⟨-, -, -, s₁, o, h₁, h₂, h₃⟩ | ⟨-, -, hs⟩
  · -- a pre record: the handler, then one step on the rw copy
    obtain rfl : s' = _ := congrArg Prod.fst hs
    obtain ⟨hi₁, -, hg⟩ := hi.handler h₁
    exact (dataView_stepOnRwView hi₁ (Shadowed.requests hi₀ hsh (runHandler_eq_ok h₁).2)
      (hinfo.grow hg) v).trans (hi.handler_dataView hsh h₁)
  · -- the owner's post: the handler, then the erasure, after which `o` is on the page
    obtain ⟨hi₁, -, -⟩ := hi.handler h₁
    have hG : info.patchAddress = G := by simpa using List.find?_some hf
    obtain ⟨hol, hop⟩ := sbppFindPatchInfoByPage_some h₃
    have hpages : ∀ r ∈ s₁.records, ∃ r' ∈ s'.records, r'.page = r.page := fun r hr => by
      by_cases hp : r.page = info.page
      · exact ⟨o, hol, by rw [hop, hp, PatchInformation.page, hG]⟩
      · exact ⟨r, sbppDeleteBreakpointFromList_keeps h₂ hr hp, rfl⟩
    obtain ⟨l, rfl, hsub⟩ := sbppDeleteBreakpointFromList_eq h₂
    exact (hi₁.dataView_of_sub (Shadowed.requests hi₀ hsh (runHandler_eq_ok h₁).2) hi' hsh'
      hsub hpages rfl rfl).trans (hi.handler_dataView hsh h₁)
  · -- another thread's post: one step on the rw copy
    obtain rfl : s' = _ := congrArg Prod.fst hs
    exact dataView_stepOnRwView hi hsh hinfo v

/-- **A guest store writes the data view** at its address, and nowhere else. -/
theorem Inv.guestWrite_dataView (hi : Inv s) (hsh : Shadowed s) {gpa : Nat} (v : UInt8)
    (hw : (s.ept (gpa / pageSize)).writeAccess = true) :
    (s.guestWrite gpa v).dataView = Function.update s.dataView gpa v := by
  have hi' := hi.guestWrite v hw
  obtain ⟨memory, pool, hwr⟩ := State.guestWrite_eq s gpa v
  have hsh' : Shadowed (s.guestWrite gpa v) := by rw [hwr]; exact hsh
  have hr : (s.guestWrite gpa v).records = s.records := by rw [hwr]; rfl
  funext a
  rw [Function.update_apply]
  rcases hi.ept (gpa / pageSize) with he | ⟨r', hr', hp', he | he⟩
  · -- the page of `gpa` maps its own frame: the store writes guest memory
    have hpool : (s.guestWrite gpa v).pool = s.pool := by
      simp only [State.guestWrite, he, EptEntry.identity, State.writeFrame]
    by_cases ha : ∃ r ∈ s.records, r.page = a / pageSize
    · obtain ⟨r, hmem, hpage⟩ := ha
      have hne : a ≠ gpa := by rintro rfl; exact hsh r hmem (hpage ▸ he)
      rw [if_neg hne, hi'.dataView_of_mem hsh' (hr ▸ hmem) hpage, hi.dataView_of_mem hsh hmem hpage,
        hpool]
    · simp only [not_exists, not_and] at ha
      rw [hi'.dataView_of_none (hr ▸ ha), hi.dataView_of_none ha]
      simp only [State.guestWrite, he, EptEntry.identity, State.writeFrame,
        pageAlign_add_byteOffset, Function.update_apply]
  · simp [he] at hw
  · -- the page of `gpa` shows the rw copy of `r'`: the store writes that copy
    have hpool : (s.guestWrite gpa v).pool = Function.update s.pool r'.shadowPageBaseForRw
        (Function.update (s.pool r'.shadowPageBaseForRw) (byteOffset gpa) v) := by
      simp only [State.guestWrite, he, (hi.frames r' hr').1, State.writeFrame]
    by_cases ha : ∃ r ∈ s.records, r.page = a / pageSize
    · obtain ⟨r, hmem, hpage⟩ := ha
      rw [hi'.dataView_of_mem hsh' (hr ▸ hmem) hpage, hi.dataView_of_mem hsh hmem hpage, hpool]
      by_cases hsame : r.page = r'.page
      · rw [(hi.shared r hmem r' hr' hsame).1, Function.update_same, Function.update_apply]
        by_cases hag : a = gpa
        · simp [hag]
        · rw [if_neg hag, if_neg fun ho =>
            hag (eq_of_page_offset (hpage.symm.trans (hsame.trans hp')) ho)]
      · rw [Function.update_noteq (hi.pool_ne hmem hr' hsame).1, if_neg]
        rintro rfl
        exact hsame (hpage.trans hp'.symm)
    · simp only [not_exists, not_and] at ha
      have hne : a ≠ gpa := by rintro rfl; exact ha r' hr' hp'
      rw [if_neg hne, hi'.dataView_of_none (hr ▸ ha), hi.dataView_of_none ha]
      simp only [State.guestWrite, he, (hi.frames r' hr').1, State.writeFrame]

/-- What an event does to the memory the guest sees on a machine without the engine: a
guest store writes its byte, and nothing else changes it. -/
def Event.store : Event → (Nat → UInt8) → Nat → UInt8
  | .guestWrite gpa value, d => Function.update d gpa value
  | _, d => d

/-- **One exit or guest event and the data view.** It changes the data view as the store
it is, or not at all. -/
theorem Machine.step_dataView {m m' : Machine} {e : Event} (hi : Inv m.state)
    (hsh : Shadowed m.state) (hi' : Inv m'.state) (he : m.enabled e = true)
    (hep : e.entryPoint = false) (hs : m.step e = .ok m') :
    m'.state.dataView = e.store m.state.dataView := by
  have hsh' := hsh.step hi hep hs
  cases e with
  | breakpoint G tid irql requests =>
    simp only [Machine.step, bind_eq_ok_iff, pure_eq_ok_iff] at hs
    obtain ⟨⟨b, s', v'⟩, h₁, rfl⟩ := hs
    exact hi.handleBreakpoint_dataView hsh hi' hsh' h₁
  | monitorTrapFlag =>
    simp only [Machine.step, bind_eq_ok_iff, pure_eq_ok_iff] at hs
    obtain ⟨⟨s', v'⟩, h₁, rfl⟩ := hs
    obtain ⟨x, -, hs⟩ := sbpHandleMonitorTrapFlag_eq h₁
    obtain rfl : s' = _ := congrArg Prod.fst hs
    refine hi.dataView_congr hsh hi' hsh' ?_ ?_ ?_ <;>
      simp [sbppSetMonitorTrapFlag_fst, sbppEnablePageShadowingForExec, State.setEpt,
        State.ntAssert_eq]
  | eptViolation faultVa gpa =>
    simp only [Machine.step, bind_eq_ok_iff, pure_eq_ok_iff] at hs
    obtain ⟨⟨s', v'⟩, h₁, rfl⟩ := hs
    rcases sbpHandleEptViolation_cases h₁ with ⟨rfl, -⟩ | ⟨info, hf, hs⟩
    · rfl
    · obtain rfl : s' = (stepOnRwView info m.state m.vmcs).1 := congrArg Prod.fst hs
      exact dataView_stepOnRwView hi hsh (.of_mem (List.mem_of_find?_eq_some hf)) m.vmcs
  | guestWrite gpa value =>
    cases hs
    exact hi.guestWrite_dataView hsh value he
  | guestFlags flags => cases hs; rfl
  | createPreBreakpoint _ _ | start | disablePageShadowing => cases hep

/-- Along a run of exits and guest events on one processor from a shadowed state, the data
view follows the run's stores. -/
theorem Machine.run_dataView {m m' : Machine} {es : List Event} (h : Reachable m)
    (hsh : Shadowed m.state) (hep : ∀ e ∈ es, e.entryPoint = false) (hrun : m.run es = some m') :
    Reachable m' ∧ m'.state.dataView = es.foldl (fun d e => e.store d) m.state.dataView := by
  induction es generalizing m with
  | nil => cases hrun; exact ⟨h, rfl⟩
  | cons e es ih =>
    simp only [Machine.run] at hrun
    split at hrun
    · rename_i he
      split at hrun
      · rename_i m₁ hs
        have hep₁ := hep e (List.mem_cons_self _ _)
        have h₁ : Reachable m₁ := .step e h he hs
        have hd := Machine.step_dataView h.machineInv.inv hsh h₁.machineInv.inv he hep₁ hs
        obtain ⟨h', hd'⟩ := ih h₁ (hsh.step h.machineInv.inv hep₁ hs)
          (fun e' he' => hep e' (List.mem_cons_of_mem _ he')) hrun
        exact ⟨h', by rw [hd', hd, List.foldl_cons]⟩
      · cases hrun
    · cases hrun

/-- **Guest reads follow the guest's stores.** Start from any machine the engine reaches
with every record's page mapped to one of its copies, as `SbpStart` leaves it, and run any
exits and guest events on one processor. Every guest read the EPT allows returns the data
the run started from with the run's stores applied in order: the switches between a page's
copies, the post calls and the erasure of a post all keep the data. -/
theorem reachable_reads_follow_stores {m m' : Machine} {es : List Event} (h : Reachable m)
    (hsh : Shadowed m.state) (hep : ∀ e ∈ es, e.entryPoint = false) (hrun : m.run es = some m') :
    m'.state.dataView = es.foldl (fun d e => e.store d) m.state.dataView ∧
      ∀ a b, m'.state.guestRead a = some b → b = (es.foldl (fun d e => e.store d) m.state.dataView) a := by
  obtain ⟨h', hd⟩ := Machine.run_dataView h hsh hep hrun
  exact ⟨hd, fun a b hb => (h'.machineInv.inv.guestRead_eq_dataView hb).trans (congrFun hd a)⟩

/-- After the pre record at `0x1000` is installed and the engine started, the guest stores
`0x55` at `0x1004` through the rw view, single-steps out, hits the hook with thread 7, and
stores `0x66` at `0x1008`: a read of `0x1004` during the hook's single step returns `0x55`. -/
theorem hooked_read_returns_store :
    ((Machine.initial (fun _ => 0x90) (fun _ => false) ⟨true, 0⟩).run
      [.createPreBreakpoint 0x1000 ⟨1, 2⟩, .start]).elim False
      fun m => Reachable m ∧ Shadowed m.state ∧
        (∀ e ∈ [.eptViolation 0x1004 0x1004, .guestWrite 0x1004 0x55, .monitorTrapFlag,
          .breakpoint 0x1000 7 0 [], .guestWrite 0x1008 0x66], Event.entryPoint e = false) ∧
        (m.run [.eptViolation 0x1004 0x1004, .guestWrite 0x1004 0x55, .monitorTrapFlag,
          .breakpoint 0x1000 7 0 [], .guestWrite 0x1008 0x66]).elim False fun m' =>
        m'.state.guestRead 0x1004 = some 0x55 ∧
        (m'.state.dataView = ([.eptViolation 0x1004 0x1004, .guestWrite 0x1004 0x55,
            .monitorTrapFlag, .breakpoint 0x1000 7 0 [], .guestWrite 0x1008 0x66] : List Event).foldl
            (fun d e => e.store d) m.state.dataView ∧
          ∀ a b, m'.state.guestRead a = some b → b = (([.eptViolation 0x1004 0x1004,
            .guestWrite 0x1004 0x55, .monitorTrapFlag, .breakpoint 0x1000 7 0 [],
            .guestWrite 0x1008 0x66] : List Event).foldl (fun d e => e.store d) m.state.dataView) a) := by
  have hb : ((Machine.initial (fun _ => 0x90) (fun _ => false) ⟨true, 0⟩).run
      [.createPreBreakpoint 0x1000 ⟨1, 2⟩, .start]).any
      (fun m => decide (Shadowed m.state) &&
        (m.run [.eptViolation 0x1004 0x1004, .guestWrite 0x1004 0x55, .monitorTrapFlag,
          .breakpoint 0x1000 7 0 [], .guestWrite 0x1008 0x66]).any fun m' =>
          m'.state.guestRead 0x1004 == some 0x55) = true := by
    decide
  refine Machine.run_any_elim hb fun m hr hp => ?_
  simp only [Bool.and_eq_true, decide_eq_true_eq] at hp
  obtain ⟨hsh, hp⟩ := hp
  have hep : ∀ e ∈ [.eptViolation 0x1004 0x1004, .guestWrite 0x1004 0x55, .monitorTrapFlag,
      .breakpoint 0x1000 7 0 [], .guestWrite 0x1008 0x66], Event.entryPoint e = false := by
    decide
  refine ⟨hr, hsh, hep, Option.elim_of_any _ hp fun m' hrun h55 => ?_⟩
  exact ⟨by simpa using h55, reachable_reads_follow_stores hr hsh hep hrun⟩

/-! ### Every interleaving -/

/-- Along a run of exits, the data view follows the run's stores. -/
theorem Interleaved.runExits_dataView {m : Machine} {vmcs : Nat → Vmcs} (h : Reachable m)
    (hslot : m.state.lastBreakpoint = none) (hsh : Shadowed m.state) :
    ∀ {es : List (Nat × Event)} {sys₁ sys : System},
      Interleaved ⟨m.state, vmcs, m.started⟩ sys₁ → sys₁.runExits es = some sys →
      sys.state.dataView = es.foldl (fun d pe => pe.2.store d) sys₁.state.dataView
  | [], _, _, _, hrun => by cases hrun; rfl
  | (p, e) :: es, sys₁, sys, hsys, hrun => by
    obtain ⟨sys₂, he, hep, hpc, hs, hrun⟩ := System.runExits_cons_eq hrun
    have h₀ := SharedInv.of_reachable h hslot
    have hinv := hsys.sharedInv h₀
    have hsys₂ := Interleaved.step p e hsys he hep hpc hs
    rw [Interleaved.runExits_dataView h hslot hsh hsys₂ hrun, List.foldl_cons]
    obtain ⟨m', hm, rfl⟩ := System.step_eq hs
    rw [Machine.step_dataView hinv.inv (hsys.shadowed h₀ hsh) (hsys₂.sharedInv h₀).inv he hep hm]
    rfl

/-- Along a run of exits, a pre record first at its address stays first there. -/
theorem Interleaved.runExits_find_pre {m : Machine} {vmcs : Nat → Vmcs} (h : Reachable m)
    (hslot : m.state.lastBreakpoint = none) {G : Nat} {X : PatchInformation}
    (hpre : X.type = .kPre) :
    ∀ {es : List (Nat × Event)} {sys₁ sys : System},
      Interleaved ⟨m.state, vmcs, m.started⟩ sys₁ →
      sys₁.state.records.find? (fun r => r.patchAddress == G) = some X →
      sys₁.runExits es = some sys →
      sys.state.records.find? (fun r => r.patchAddress == G) = some X
  | [], _, _, _, hX, hrun => by cases hrun; exact hX
  | (p, e) :: es, sys₁, sys, hsys, hX, hrun => by
    obtain ⟨sys₂, he, hep, hpc, hs, hrun⟩ := System.runExits_cons_eq hrun
    have hinv := hsys.sharedInv (SharedInv.of_reachable h hslot)
    have hsys₂ := Interleaved.step p e hsys he hep hpc hs
    obtain ⟨m', hm, rfl⟩ := System.step_eq hs
    exact Interleaved.runExits_find_pre h hslot hpre hsys₂
      (Machine.step_find_pre hinv.inv hinv.posts hep hX hpre hm) hrun

/-- **Hooked pages follow the guest's stores.** From any point of any interleaving as in
`interleaved_data_view_follows_stores`, at an address on the page of a pre record first at
its address, a further run of exits shows the guest the run's stores, in order, over the
data it started from. -/
theorem hooked_pages_follow_stores {m : Machine} {vmcs : Nat → Vmcs} (h : Reachable m)
    (hslot : m.state.lastBreakpoint = none) (hsh : Shadowed m.state) {G : Nat}
    {X : PatchInformation} (hpre : X.type = .kPre) {a : Nat} (ha : a / pageSize = G / pageSize) :
    ∀ {es : List (Nat × Event)} {sys₁ sys : System},
      Interleaved ⟨m.state, vmcs, m.started⟩ sys₁ →
      sys₁.state.records.find? (fun r => r.patchAddress == G) = some X →
      sys₁.runExits es = some sys →
      sys.state.dataView a = (es.foldl (fun d pe => pe.2.store d) sys₁.state.dataView) a :=
  fun hsys _ hrun => congrFun (Interleaved.runExits_dataView h hslot hsh hsys hrun) a

/-- After the pre record at `0x1000` is installed and the engine started, processor 0 stores
`0x55` at `0x1004` while single-stepping from the `#BP` at `0x1000`, and processor 1 stores
`0x66` at `0x1008` after an EPT violation: the data view at `0x1004` is the first store. -/
theorem stores_reach_hooked_page :
    ((Machine.initial (fun _ => 0x90) (fun _ => false) ⟨true, 0⟩).run
      [.createPreBreakpoint 0x1000 ⟨1, 2⟩, .start]).elim False
      fun m => Reachable m ∧ m.state.lastBreakpoint = none ∧ Shadowed m.state ∧
        ∃ X, m.state.records.find? (fun r => r.patchAddress == 0x1000) = some X ∧
        X.type = .kPre ∧
        ((⟨m.state, fun _ => ⟨false, ⟨true, 0⟩⟩, m.started⟩ : System).runExits
          [(0, .breakpoint 0x1000 7 0 []), (0, .guestWrite 0x1004 0x55), (0, .monitorTrapFlag),
            (1, .eptViolation 0x1008 0x1008), (1, .guestWrite 0x1008 0x66),
            (1, .monitorTrapFlag)]).elim False fun sys =>
        sys.state.dataView 0x1004 = 0x55 ∧
        sys.state.dataView 0x1004 = (([(0, .breakpoint 0x1000 7 0 []), (0, .guestWrite 0x1004 0x55),
          (0, .monitorTrapFlag), (1, .eptViolation 0x1008 0x1008), (1, .guestWrite 0x1008 0x66),
          (1, .monitorTrapFlag)] : List (Nat × Event)).foldl (fun d pe => pe.2.store d)
            m.state.dataView) 0x1004 := by
  have hb : ((Machine.initial (fun _ => 0x90) (fun _ => false) ⟨true, 0⟩).run
      [.createPreBreakpoint 0x1000 ⟨1, 2⟩, .start]).any
      (fun m => m.state.lastBreakpoint.isNone && (decide (Shadowed m.state) &&
        ((m.state.records.find? fun r => r.patchAddress == 0x1000).any fun X => X.type == .kPre) &&
        ((⟨m.state, fun _ => ⟨false, ⟨true, 0⟩⟩, m.started⟩ : System).runExits
          [(0, .breakpoint 0x1000 7 0 []), (0, .guestWrite 0x1004 0x55), (0, .monitorTrapFlag),
            (1, .eptViolation 0x1008 0x1008), (1, .guestWrite 0x1008 0x66),
            (1, .monitorTrapFlag)]).any fun sys => sys.state.dataView 0x1004 == 0x55)) = true := by
    decide
  refine Machine.run_any_elim hb fun m hr hp => ?_
  simp only [Bool.and_eq_true, Option.isNone_iff_eq_none, decide_eq_true_eq] at hp
  obtain ⟨hslot, ⟨hsh, hpre⟩, hp⟩ := hp
  cases hX : m.state.records.find? (fun r => r.patchAddress == 0x1000) with
  | none => simp [hX] at hpre
  | some X =>
    simp only [hX, Option.any_some, beq_iff_eq] at hpre
    refine ⟨hr, hslot, hsh, X, rfl, hpre, Option.elim_of_any _ hp fun sys hrun h55 => ?_⟩
    simp only [beq_iff_eq] at h55
    exact ⟨h55, hooked_pages_follow_stores hr hslot hsh hpre
      (show 0x1004 / pageSize = 0x1000 / pageSize by decide) .refl hX hrun⟩

/-! ### Which `#BP`s the engine claims -/

/-- **The engine's claim follows the guest's stores.** From any point of any interleaving as
in `interleaved_data_view_follows_stores`, with a pre record first at `G`, and after any
further run of exits, a `#BP` at `G` is the engine's exactly when the guest's data at `G`,
with the run's stores applied, is not `0xcc`. A guest that stores `int 3` at `G` through the
rw copy gets its own `#BP` back there. -/
theorem hooked_bp_claim_follows_stores {m : Machine} {vmcs : Nat → Vmcs} (h : Reachable m)
    (hslot : m.state.lastBreakpoint = none) (hsh : Shadowed m.state) {G : Nat}
    {X : PatchInformation} (hpre : X.type = .kPre) {es : List (Nat × Event)} {sys₁ sys : System}
    (hsys : Interleaved ⟨m.state, vmcs, m.started⟩ sys₁)
    (hX : sys₁.state.records.find? (fun r => r.patchAddress == G) = some X)
    (hrun : sys₁.runExits es = some sys) :
    (sys.state.records.find? fun r => r.patchAddress == G).any (sbppIsShadowBreakpoint · sys.state) =
      ((es.foldl (fun d pe => pe.2.store d) sys₁.state.dataView) G != kBreakpoint) := by
  have h₀ := SharedInv.of_reachable h hslot
  have hsys' := hsys.runExits hrun
  have hX' := Interleaved.runExits_find_pre h hslot hpre hsys hX hrun
  have hd := congrFun (Interleaved.runExits_dataView h hslot hsh hsys hrun) G
  have hG : X.patchAddress = G := by simpa using List.find?_some hX'
  rw [hX', Option.any_some, ← hd, (hsys'.sharedInv h₀).inv.dataView_of_mem (hsys'.shadowed h₀ hsh)
    (List.mem_of_find?_eq_some hX') (by rw [PatchInformation.page, hG]), ← hG]
  rfl

/-- After the pre record at `0x1000` is installed and the engine started, processor 1 takes an
EPT violation at `0x1000`, stores `0xcc` there through the rw copy, and takes its MTF exit.
The engine no longer claims the `#BP` at `0x1000`: processor 0's `#BP` there returns `false`,
and the guest gets it. -/
theorem guest_int3_at_hook_delivered :
    ((Machine.initial (fun _ => 0x90) (fun _ => false) ⟨true, 0⟩).run
      [.createPreBreakpoint 0x1000 ⟨1, 2⟩, .start]).elim False
      fun m => Reachable m ∧ m.state.lastBreakpoint = none ∧ Shadowed m.state ∧
        ∃ X, m.state.records.find? (fun r => r.patchAddress == 0x1000) = some X ∧
        X.type = .kPre ∧
        ((⟨m.state, fun _ => ⟨false, ⟨true, 0⟩⟩, m.started⟩ : System).runExits
          [(1, .eptViolation 0x1000 0x1000), (1, .guestWrite 0x1000 0xcc),
            (1, .monitorTrapFlag)]).elim False fun sys =>
        (sys.state.records.find? fun r => r.patchAddress == 0x1000).any
            (sbppIsShadowBreakpoint · sys.state) =
          ((([(1, .eptViolation 0x1000 0x1000), (1, .guestWrite 0x1000 0xcc),
            (1, .monitorTrapFlag)] : List (Nat × Event)).foldl (fun d pe => pe.2.store d)
              m.state.dataView) 0x1000 != kBreakpoint) ∧
        (sbpHandleBreakpoint 0x1000 7 0 [] sys.state (sys.vmcs 0)).toOption.map
          (fun r => r.1) = some false := by
  have hb : ((Machine.initial (fun _ => 0x90) (fun _ => false) ⟨true, 0⟩).run
      [.createPreBreakpoint 0x1000 ⟨1, 2⟩, .start]).any
      (fun m => m.state.lastBreakpoint.isNone && (decide (Shadowed m.state) &&
        ((m.state.records.find? fun r => r.patchAddress == 0x1000).any fun X => X.type == .kPre) &&
        ((⟨m.state, fun _ => ⟨false, ⟨true, 0⟩⟩, m.started⟩ : System).runExits
          [(1, .eptViolation 0x1000 0x1000), (1, .guestWrite 0x1000 0xcc),
            (1, .monitorTrapFlag)]).any fun sys =>
          (sbpHandleBreakpoint 0x1000 7 0 [] sys.state (sys.vmcs 0)).toOption.map
            (fun r => r.1) == some false)) = true := by
    decide
  refine Machine.run_any_elim hb fun m hr hp => ?_
  simp only [Bool.and_eq_true, Option.isNone_iff_eq_none, decide_eq_true_eq] at hp
  obtain ⟨hslot, ⟨hsh, hpre⟩, hp⟩ := hp
  cases hX : m.state.records.find? (fun r => r.patchAddress == 0x1000) with
  | none => simp [hX] at hpre
  | some X =>
    simp only [hX, Option.any_some, beq_iff_eq] at hpre
    refine ⟨hr, hslot, hsh, X, rfl, hpre, Option.elim_of_any _ hp fun sys hrun hbp => ?_⟩
    exact ⟨hooked_bp_claim_follows_stores hr hslot hsh hpre .refl hX hrun, by simpa using hbp⟩

end DdiMon
