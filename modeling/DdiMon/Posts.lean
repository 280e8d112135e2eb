import DdiMon.Multiprocessor
import Mathlib.Data.List.Nodup

/-!
# Post records: one per page and thread, erased by their owner

A pre handler calls `SbpCreateAndEnablePostBreakpoint`, which first looks for a post of the
calling thread on the page of the return address (`SbppFindDuplicatedPostPatchInfo`). When
there is one it rewrites that record's parameters; otherwise it appends a new post and shows
the page's exec copy. `SbppDeleteBreakpointFromList` erases the first record with the same
`(patch_address, target_tid)`.

* **Every record has its own heap address, and a page holds at most one post of each
  thread** (`PostInv`, kept by every event: `Reachable.postInv`). A call of
  `SbpCreateAndEnablePostBreakpoint` appends one post carrying the caller's address, thread,
  post handler and parameters, or rewrites the parameters of the caller's one post on that
  page and changes nothing else in the registry. The erasure after a post handler removes
  the record the `#BP` found and no other (`posts_unique_per_page_and_thread`).
* **The owner's `#BP` at a post erases exactly that post** while another record shares its
  page. It leaves the slot, the processor and every EPT entry alone
  (`owner_hit_reads_freed_post`). When the post is the last record on its page, the erase
  destroys the record `info` points to, and `SbppDisablePageShadowing(*info)` reads the
  freed `patch_address`. On a reachable state that step is the only one that leaves a pool
  page mapped with no live record holding it (`last_shared_pair_erasure_reads_freed`).
-/

namespace DdiMon

/-! ### The registry invariant -/

/-- `r` is a post of thread `tid` on page `page`: what `SbppFindDuplicatedPostPatchInfo`
looks for. -/
def PatchInformation.isPostOn (page tid : Nat) (r : PatchInformation) : Bool :=
  r.type == .kPost && r.page == page && r.targetTid == tid

@[simp] theorem PatchInformation.isPostOn_eq_true {page tid : Nat} {r : PatchInformation} :
    r.isPostOn page tid = true ↔ r.type = .kPost ∧ r.page = page ∧ r.targetTid = tid := by
  simp [PatchInformation.isPostOn, and_assoc]

/-- The predicate of `SbppFindDuplicatedPostPatchInfo(address, tid)` is `isPostOn` at the
page of `address`. -/
theorem isPostOn_eq_duplicated (address tid : Nat) :
    (fun info : PatchInformation => info.type == .kPost &&
      pageAlign info.patchAddress == pageAlign address && info.targetTid == tid) =
      PatchInformation.isPostOn (address / pageSize) tid := by
  funext r
  rw [Bool.eq_iff_iff]
  simp [pageAlign_eq_iff, PatchInformation.page, and_assoc]

/-- The registry's identities and posts: the records' heap addresses are distinct and
already handed out, and a page holds at most one post of each thread. -/
structure PostInv (s : State) : Prop where
  objects_nodup : (s.records.map PatchInformation.object).Nodup
  objects_fresh : ∀ r ∈ s.records, r.object < s.nextObject
  posts_unique : ∀ page tid, (s.records.filter (PatchInformation.isPostOn page tid)).length ≤ 1

/-- `PostInv` reads only the registry and the heap allocator. -/
theorem PostInv.congr {s s' : State} (hp : PostInv s) (hb : s'.breakpoints = s.breakpoints)
    (hn : s'.nextObject = s.nextObject) : PostInv s' := by
  have hr : s'.records = s.records := by unfold State.records; rw [hb]
  exact ⟨hr ▸ hp.objects_nodup, hr ▸ hn ▸ hp.objects_fresh, hr ▸ hp.posts_unique⟩

/-- Keeping a sublist of the records, as an erasure does, keeps `PostInv`. -/
theorem PostInv.sublist {s : State} (hp : PostInv s) {l : List PatchInformation}
    (hl : l.Sublist s.records) : PostInv { s with breakpoints := some l } :=
  ⟨hp.objects_nodup.sublist (hl.map _), fun r hr => hp.objects_fresh r (hl.subset hr),
    fun page tid => (hl.filter _).length_le.trans (hp.posts_unique page tid)⟩

/-- Appending a record with the next heap address keeps `PostInv`, when a post is appended
only on a page where its thread has none. -/
theorem PostInv.append {s s' : State} (hp : PostInv s) {x : PatchInformation}
    (hr : s'.records = s.records ++ [x]) (hn : s'.nextObject = s.nextObject + 1)
    (hx : x.object = s.nextObject)
    (hnew : x.type = .kPost → ∀ r ∈ s.records, r.isPostOn x.page x.targetTid = false) :
    PostInv s' := by
  refine ⟨?_, ?_, fun page tid => ?_⟩ <;> rw [hr]
  · rw [List.map_append, List.nodup_append]
    refine ⟨hp.objects_nodup, List.nodup_singleton _, fun o ho ho' => ?_⟩
    obtain ⟨r, hr, rfl⟩ := List.mem_map.mp ho
    have := hp.objects_fresh r hr
    simp only [List.map_cons, List.map_nil, List.mem_singleton] at ho'
    omega
  · intro r hr
    rcases List.mem_append.mp hr with hr | hr
    · have := hp.objects_fresh r hr; omega
    · rw [List.mem_singleton.mp hr, hn, hx]; omega
  · rw [List.filter_append]
    by_cases hxp : x.isPostOn page tid
    · obtain ⟨htype, rfl, rfl⟩ := PatchInformation.isPostOn_eq_true.mp hxp
      have hnil : s.records.filter (PatchInformation.isPostOn x.page x.targetTid) = [] :=
        List.filter_eq_nil_iff.mpr fun r hr => by simp [hnew htype r hr]
      simp [hnil, hxp]
    · simpa [hxp] using hp.posts_unique page tid

/-- Rewriting one record's parameters keeps `PostInv`. -/
theorem PostInv.setParameters {s : State} (hp : PostInv s) (hact : s.breakpoints.isSome)
    (object : Nat) (parameters : List Nat) : PostInv (s.setParameters object parameters) := by
  obtain ⟨l, hl⟩ := Option.isSome_iff_exists.mp hact
  have hf : ∀ r : PatchInformation, (if r.object = object then { r with parameters := parameters } else r) =
      { r with parameters := if r.object = object then parameters else r.parameters } := by
    intro r; split <;> rfl
  have hl' := State.records_of_some hl
  refine ⟨?_, fun r hr => ?_, fun page tid => ?_⟩ <;>
    simp only [setParameters_records hl, hf] at *
  · simpa [List.map_map, Function.comp_def, hl'] using hp.objects_nodup
  · obtain ⟨r₀, h₀, rfl⟩ := List.mem_map.mp hr
    exact hp.objects_fresh r₀ (hl' ▸ h₀)
  · simpa [List.filter_map, Function.comp_def, PatchInformation.isPostOn, PatchInformation.page, hl']
      using hp.posts_unique page tid

/-! ### One call of `SbpCreateAndEnablePostBreakpoint` -/

theorem sbppCreateBreakpoint_object {s s' : State} {a : Nat} {info : PatchInformation}
    (hact : s.breakpoints.isSome) (h : sbppCreateBreakpoint a s = .ok (info, s')) :
    info.object = s.nextObject ∧ s'.nextObject = s.nextObject + 1 := by
  obtain ⟨l, hl⟩ := Option.isSome_iff_exists.mp hact
  rcases sbppCreateBreakpoint_cases hl h with ⟨_, _, _, rfl, rfl⟩ | ⟨_, _, _, rfl, rfl⟩ <;>
    exact ⟨rfl, rfl⟩

/-- **Inversion of `sbpCreateAndEnablePostBreakpoint`.** With no post of `tid` on the page
of `a`, the call appends a new post with the next heap address, `a`, `tid`, the pre
record's post handler and `parameters`. Otherwise it rewrites the parameters of the first
such post. -/
theorem sbpCreateAndEnablePostBreakpoint_cases {s s' : State} (hact : s.breakpoints.isSome)
    {a tid : Nat} {info : PatchInformation} {parameters : List Nat}
    (h : sbpCreateAndEnablePostBreakpoint a info parameters tid s = .ok s') :
    ((∀ r ∈ s.records, r.isPostOn (a / pageSize) tid = false) ∧
      s'.nextObject = s.nextObject + 1 ∧
      ∃ post, s'.records = s.records ++ [post] ∧ post.object = s.nextObject ∧
        post.type = .kPost ∧ post.patchAddress = a ∧ post.targetTid = tid ∧
        post.handler = info.postHandler ∧ post.parameters = parameters) ∨
    (∃ r ∈ s.records, r.isPostOn (a / pageSize) tid = true ∧
      s' = s.setParameters r.object parameters) := by
  obtain ⟨l, hl⟩ := Option.isSome_iff_exists.mp hact
  simp only [sbpCreateAndEnablePostBreakpoint, sbppFindDuplicatedPostPatchInfo,
    sbppFindPatchInfo_of_some hl, bind_eq_ok_iff, Except.ok.injEq, isPostOn_eq_duplicated] at h
  obtain ⟨_, rfl, h⟩ := h
  rw [State.records_of_some hl]
  split at h
  · rename_i r hr
    exact .inr ⟨r, List.mem_of_find?_eq_some hr, List.find?_some hr, (pure_eq_ok_iff.mp h).symm⟩
  · rename_i hr
    simp only [sbppCreatePostBreakpoint, bind_eq_ok_iff, pure_eq_ok_iff] at h
    obtain ⟨_, ⟨⟨post, s₁⟩, hc, rfl⟩, _, h, rfl⟩ := h
    obtain ⟨hb, -, -, -, -, haddr, -⟩ := sbppCreateBreakpoint_frame hact hc
    obtain ⟨ho, hn⟩ := sbppCreateBreakpoint_object hact hc
    simp only [sbppAddBreakpointToList_of_some (hb.trans hl), Except.ok.injEq] at h
    subst h
    exact .inl ⟨fun r hr' => Bool.eq_false_iff.mpr (List.find?_eq_none.mp hr r hr'), hn, _, rfl, ho, rfl,
      haddr, rfl, rfl, rfl⟩

theorem PostInv.createAndEnablePost {s s' : State} (hp : PostInv s) (hact : s.breakpoints.isSome)
    {a tid : Nat} {info : PatchInformation} {parameters : List Nat}
    (h : sbpCreateAndEnablePostBreakpoint a info parameters tid s = .ok s') : PostInv s' := by
  rcases sbpCreateAndEnablePostBreakpoint_cases hact h with
    ⟨hnone, hn, post, hr, ho, -, haddr, htid, -⟩ | ⟨r, -, -, rfl⟩
  · refine hp.append hr hn ho fun _ r hr' => ?_
    rw [PatchInformation.page, haddr, htid]
    exact hnone r hr'
  · exact hp.setParameters hact _ _

/-- The calls of one handler keep `PostInv`. -/
theorem PostInv.requests {info : PatchInformation} {tid : Nat} :
    ∀ {requests : List (Nat × List Nat)} {s s' : State}, Inv s → PostInv s →
      runRequests info tid requests s = .ok s' → PostInv s'
  | [], _, _, _, hp, h => by cases h; exact hp
  | (_, _) :: _, _, _, hi, hp, h => by
    simp only [runRequests, bind_eq_ok_iff] at h
    obtain ⟨s₁, h₁, h⟩ := h
    exact PostInv.requests (hi.createAndEnablePost h₁).1 (hp.createAndEnablePost hi.active h₁) h

theorem PostInv.handler {s s' : State} (hi : Inv s) (hp : PostInv s) {info : PatchInformation}
    {tid : Nat} {requests : List (Nat × List Nat)} (h : runHandler info tid requests s = .ok s') :
    PostInv s' := by
  refine PostInv.requests ?_ ?_ (runHandler_eq_ok h).2
  exacts [hi.congr rfl rfl rfl rfl rfl rfl rfl, hp.congr rfl rfl]

/-! ### What a handler's post calls leave alone -/

/-- `sbppCreateBreakpoint` writes only the exec copy of the new record and fresh pool pages:
the rw copy of every live record stays. -/
theorem sbppCreateBreakpoint_pool_rw {s s' : State} (hi : Inv s) {a : Nat} {info : PatchInformation}
    (h : sbppCreateBreakpoint a s = .ok (info, s')) {r : PatchInformation} (hr : r ∈ s.records) :
    s'.pool r.shadowPageBaseForRw = s.pool r.shadowPageBaseForRw := by
  obtain ⟨l, hl⟩ := Option.isSome_iff_exists.mp hi.active
  rcases sbppCreateBreakpoint_cases hl h with ⟨r', hr', -, -, rfl⟩ | ⟨-, -, -, -, rfl⟩
  · have hne := hi.exec_ne_rw (by rwa [State.records_of_some hl]) hr
    simp [sbppEmbedBreakpoint, Function.update_apply, Ne.symm hne]
  · have := (hi.allocated r hr).1
    simp [sbppEmbedBreakpoint, State.copyShadowPages, Function.update_apply,
      show r.shadowPageBaseForRw ≠ s.nextPage by omega,
      show r.shadowPageBaseForRw ≠ s.nextPage + 1 by omega]

/-- A call of `SbpCreateAndEnablePostBreakpoint` records no handler invocation and keeps the
rw copy of every live record. -/
theorem Inv.createAndEnablePost_frame {s s' : State} (hi : Inv s) {a tid : Nat}
    {info : PatchInformation} {parameters : List Nat}
    (h : sbpCreateAndEnablePostBreakpoint a info parameters tid s = .ok s') :
    s'.calls = s.calls ∧
      ∀ r ∈ s.records, s'.pool r.shadowPageBaseForRw = s.pool r.shadowPageBaseForRw := by
  obtain ⟨l, hl⟩ := Option.isSome_iff_exists.mp hi.active
  simp only [sbpCreateAndEnablePostBreakpoint, sbppFindDuplicatedPostPatchInfo,
    sbppFindPatchInfo_of_some hl, bind_eq_ok_iff, Except.ok.injEq] at h
  obtain ⟨_, rfl, h⟩ := h
  split at h
  · obtain rfl := pure_eq_ok_iff.mp h
    exact ⟨rfl, fun _ _ => rfl⟩
  · simp only [sbppCreatePostBreakpoint, bind_eq_ok_iff, pure_eq_ok_iff] at h
    obtain ⟨_, ⟨⟨post, s₁⟩, hc, rfl⟩, _, h, rfl⟩ := h
    obtain ⟨hb, -, -, hcalls, -⟩ := sbppCreateBreakpoint_frame hi.active hc
    simp only [sbppAddBreakpointToList_of_some (hb.trans hl), Except.ok.injEq] at h
    subst h
    exact ⟨hcalls, fun r hr => sbppCreateBreakpoint_pool_rw hi hc hr⟩

/-- A handler's post calls record no handler invocation and keep every live rw copy. -/
theorem Inv.requests_frame {info : PatchInformation} {tid : Nat} :
    ∀ {requests : List (Nat × List Nat)} {s s' : State}, Inv s →
      runRequests info tid requests s = .ok s' → s'.calls = s.calls ∧
        ∀ r ∈ s.records, s'.pool r.shadowPageBaseForRw = s.pool r.shadowPageBaseForRw
  | [], _, _, _, h => by cases h; exact ⟨rfl, fun _ _ => rfl⟩
  | (_, _) :: _, _, _, hi, h => by
    simp only [runRequests, bind_eq_ok_iff] at h
    obtain ⟨s₁, h₁, h⟩ := h
    obtain ⟨hc₁, hp₁⟩ := hi.createAndEnablePost_frame h₁
    obtain ⟨hi₁, -, hg⟩ := hi.createAndEnablePost h₁
    obtain ⟨hc, hp⟩ := Inv.requests_frame hi₁ h
    refine ⟨hc.trans hc₁, fun r hr => ?_⟩
    obtain ⟨_, hr'⟩ := hg r hr
    exact (hp _ hr').trans (hp₁ r hr)

/-- Rewriting parameters keeps every record's address, so the first record at an address is
the same record with its parameters rewritten. -/
theorem setParameters_find {s : State} {l : List PatchInformation} (hl : s.breakpoints = some l)
    (object : Nat) (parameters : List Nat) (G : Nat) :
    (s.setParameters object parameters).records.find? (fun r => r.patchAddress == G) =
      (l.find? fun r => r.patchAddress == G).map fun x =>
        if x.object = object then { x with parameters := parameters } else x := by
  rw [setParameters_records hl, List.find?_map]
  congr 2
  funext x
  simp only [Function.comp]
  split <;> rfl

/-- A call keeps a pre record first at its address: the rewritten record is a post, and
records have distinct heap addresses. -/
theorem sbpCreateAndEnablePostBreakpoint_find_pre {s s' : State} (hact : s.breakpoints.isSome)
    (hp : PostInv s) {a tid G : Nat} {info X : PatchInformation} {parameters : List Nat}
    (hX : s.records.find? (fun r => r.patchAddress == G) = some X) (hpre : X.type = .kPre)
    (h : sbpCreateAndEnablePostBreakpoint a info parameters tid s = .ok s') :
    s'.records.find? (fun r => r.patchAddress == G) = some X := by
  rcases sbpCreateAndEnablePostBreakpoint_cases hact h with ⟨-, -, post, hr, -⟩ | ⟨r, hr, hpr, rfl⟩
  · rw [hr, List.find?_append, hX]; rfl
  · obtain ⟨l, hl⟩ := Option.isSome_iff_exists.mp hact
    have hne : X.object ≠ r.object := fun he => by
      have := List.inj_on_of_nodup_map hp.objects_nodup (List.mem_of_find?_eq_some hX) hr he
      simp [this, (PatchInformation.isPostOn_eq_true.mp hpr).1] at hpre
    rw [State.records_of_some hl] at hX
    rw [setParameters_find hl, hX, Option.map_some', if_neg hne]

theorem Inv.requests_find_pre {info : PatchInformation} {tid G : Nat} {X : PatchInformation}
    (hpre : X.type = .kPre) :
    ∀ {requests : List (Nat × List Nat)} {s s' : State}, Inv s → PostInv s →
      s.records.find? (fun r => r.patchAddress == G) = some X →
      runRequests info tid requests s = .ok s' →
      s'.records.find? (fun r => r.patchAddress == G) = some X
  | [], _, _, _, _, hX, h => by cases h; exact hX
  | (_, _) :: _, _, _, hi, hp, hX, h => by
    simp only [runRequests, bind_eq_ok_iff] at h
    obtain ⟨s₁, h₁, h⟩ := h
    exact Inv.requests_find_pre hpre (hi.createAndEnablePost h₁).1
      (hp.createAndEnablePost hi.active h₁)
      (sbpCreateAndEnablePostBreakpoint_find_pre hi.active hp hX hpre h₁) h

/-! ### Every run -/

theorem PostInv.stepOnRwView {s : State} (hp : PostInv s) (info : PatchInformation) (v : Vmcs) :
    PostInv (stepOnRwView info s v).1 :=
  hp.congr (by rw [stepOnRwView_fst]; rfl) (by rw [stepOnRwView_fst]; rfl)

/-- What the MTF exit leaves alone: the registry, the heap allocator, the pool and the
handler invocations. -/
theorem sbpHandleMonitorTrapFlag_frame {s s' : State} {v v' : Vmcs}
    (h : sbpHandleMonitorTrapFlag s v = .ok (s', v')) : s'.breakpoints = s.breakpoints ∧
      s'.nextObject = s.nextObject ∧ s'.pool = s.pool ∧ s'.calls = s.calls := by
  obtain ⟨x, -, hs⟩ := sbpHandleMonitorTrapFlag_eq h
  obtain ⟨rfl, rfl⟩ := Prod.mk.inj hs
  simp [sbppSetMonitorTrapFlag_fst, sbppEnablePageShadowingForExec, State.setEpt, State.ntAssert_eq]

/-- **Every event keeps `PostInv`.** -/
theorem PostInv.step {m m' : Machine} {e : Event} (hi : Inv m.state) (hp : PostInv m.state)
    (hs : m.step e = .ok m') : PostInv m'.state := by
  cases e with
  | createPreBreakpoint a t =>
    simp only [Machine.step, sbpCreatePreBreakpoint, sbppCreatePreBreakpoint, bind_eq_ok_iff,
      pure_eq_ok_iff] at hs
    obtain ⟨s', ⟨_, ⟨⟨info, s₁⟩, hc, rfl⟩, h⟩, rfl⟩ := hs
    obtain ⟨hb, -⟩ := sbppCreateBreakpoint_frame hi.active hc
    obtain ⟨ho, hn⟩ := sbppCreateBreakpoint_object hi.active hc
    obtain ⟨l, hl⟩ := Option.isSome_iff_exists.mp hi.active
    simp only [sbppAddBreakpointToList_of_some (hb.trans hl), Except.ok.injEq] at h
    subst h
    exact hp.append (by rw [State.records_of_some hl]; rfl) hn (by exact ho) (by simp)
  | start | disablePageShadowing =>
    simp only [Machine.step, sbpStart, bind_eq_ok_iff, pure_eq_ok_iff] at hs
    obtain ⟨s', h₁, rfl⟩ := hs
    obtain ⟨l, hl⟩ := Option.isSome_iff_exists.mp hi.active
    simp only [sbpVmCallEnablePageShadowing, sbpVmCallDisablePageShadowing, hl,
      Except.ok.injEq] at h₁
    subst h₁
    exact hp.congr (foldl_frame _ _ (by intros; rfl) _ _) (foldl_frame _ _ (by intros; rfl) _ _)
  | breakpoint guestIp tid irql requests =>
    simp only [Machine.step, bind_eq_ok_iff, pure_eq_ok_iff] at hs
    obtain ⟨⟨b, s', v'⟩, hbp, rfl⟩ := hs
    rcases sbpHandleBreakpoint_cases hbp with ⟨-, rfl, rfl⟩ | ⟨info, -, -, -, -, -, hcase⟩
    · exact hp
    rcases hcase with ⟨-, s₁, h₁, hs⟩ | ⟨-, -, rfl, s₁, o, h₁, h₂, -⟩ | ⟨-, -, hs⟩
    · obtain ⟨rfl, rfl⟩ := Prod.mk.inj hs
      exact (hp.handler hi h₁).stepOnRwView info _
    · obtain ⟨l, hl⟩ := Option.isSome_iff_exists.mp (hi.handler h₁).1.active
      simp only [sbppDeleteBreakpointFromList, hl, Except.ok.injEq] at h₂
      subst h₂
      refine ((hp.handler hi h₁).sublist ?_).congr rfl rfl
      rw [State.records_of_some hl]
      exact List.eraseP_sublist l
    · obtain ⟨rfl, rfl⟩ := Prod.mk.inj hs
      exact hp.stepOnRwView info m.vmcs
  | monitorTrapFlag =>
    simp only [Machine.step, bind_eq_ok_iff, pure_eq_ok_iff] at hs
    obtain ⟨⟨s', v'⟩, h₁, rfl⟩ := hs
    obtain ⟨hb, hn, -⟩ := sbpHandleMonitorTrapFlag_frame h₁
    exact hp.congr hb hn
  | eptViolation faultVa gpa =>
    simp only [Machine.step, bind_eq_ok_iff, pure_eq_ok_iff] at hs
    obtain ⟨⟨s', v'⟩, h₁, rfl⟩ := hs
    rcases sbpHandleEptViolation_cases h₁ with ⟨rfl, rfl⟩ | ⟨info, -, hs⟩
    · exact hp
    · obtain ⟨rfl, rfl⟩ := Prod.mk.inj hs
      exact hp.stepOnRwView info m.vmcs
  | guestWrite gpa value =>
    simp only [Machine.step, Except.ok.injEq] at hs
    subst hs
    obtain ⟨memory, pool, hw⟩ := State.guestWrite_eq m.state gpa value
    rw [hw]
    exact hp.congr rfl rfl
  | guestFlags flags =>
    simp only [Machine.step, Except.ok.injEq] at hs
    subst hs
    exact hp

theorem Reachable.postInv {m : Machine} (h : Reachable m) : PostInv m.state := by
  induction h with
  | init => exact ⟨List.nodup_nil, nofun, fun _ _ => Nat.zero_le _⟩
  | step e hr _ hs ih => exact ih.step hr.machineInv.inv hs

/-! ### The erasure after a post handler -/

/-- A call keeps the first record at an address, up to its parameters. -/
theorem sbpCreateAndEnablePostBreakpoint_find {s s' : State} (hact : s.breakpoints.isSome)
    {a tid G : Nat} {info X : PatchInformation} {parameters : List Nat}
    (hX : s.records.find? (fun r => r.patchAddress == G) = some X)
    (h : sbpCreateAndEnablePostBreakpoint a info parameters tid s = .ok s') :
    ∃ ps, s'.records.find? (fun r => r.patchAddress == G) = some { X with parameters := ps } := by
  rcases sbpCreateAndEnablePostBreakpoint_cases hact h with ⟨-, -, post, hr, -⟩ | ⟨r, -, -, rfl⟩
  · exact ⟨X.parameters, by rw [hr, List.find?_append, hX]; rfl⟩
  · obtain ⟨l, hl⟩ := Option.isSome_iff_exists.mp hact
    rw [State.records_of_some hl] at hX
    refine ⟨if X.object = r.object then parameters else X.parameters, ?_⟩
    rw [setParameters_find hl, hX, Option.map_some']
    split <;> rfl

/-- A handler's calls keep the first record at an address, up to its parameters. -/
theorem Inv.handler_find {info : PatchInformation} {tid G : Nat} :
    ∀ {requests : List (Nat × List Nat)} {s s' : State} {X : PatchInformation}, Inv s →
      s.records.find? (fun r => r.patchAddress == G) = some X →
      runRequests info tid requests s = .ok s' →
      ∃ ps, s'.records.find? (fun r => r.patchAddress == G) = some { X with parameters := ps }
  | [], _, _, X, _, hX, h => by cases h; exact ⟨X.parameters, hX⟩
  | (_, _) :: _, _, _, _, hi, hX, h => by
    simp only [runRequests, bind_eq_ok_iff] at h
    obtain ⟨s₁, h₁, h⟩ := h
    obtain ⟨_, hX₁⟩ := sbpCreateAndEnablePostBreakpoint_find hi.active hX h₁
    obtain ⟨ps, h'⟩ := Inv.handler_find (hi.createAndEnablePost h₁).1 hX₁ h
    exact ⟨ps, h'⟩

/-- **One post per page and thread.** In every reachable machine the records have distinct
heap addresses, and each page holds at most one post of each thread. From a state with
these invariants, while the pool serves, a call of `SbpCreateAndEnablePostBreakpoint`
returns and keeps them. It either appends one new post with the caller's address, thread,
post handler and parameters, where the caller had no post on that page, or rewrites the
parameters of the caller's post on that page and changes no other record. After the handler of the first
record `X` at an address has run, whatever calls it made, `SbppDeleteBreakpointFromList(X)`
erases that record, as the handler left it, and nothing else. -/
theorem posts_unique_per_page_and_thread :
    (∀ m, Reachable m → PostInv m.state) ∧
    (∀ s, Inv s → PostInv s → PoolServes s → ∀ a info parameters tid, ∃ s',
      sbpCreateAndEnablePostBreakpoint a info parameters tid s = .ok s' ∧ Inv s' ∧ PostInv s' ∧
      (((∀ r ∈ s.records, r.isPostOn (a / pageSize) tid = false) ∧ ∃ post,
          s'.records = s.records ++ [post] ∧ post.object ∉ s.records.map PatchInformation.object ∧
          post.type = .kPost ∧ post.patchAddress = a ∧ post.targetTid = tid ∧
          post.handler = info.postHandler ∧ post.parameters = parameters) ∨
        ∃ r ∈ s.records, r.isPostOn (a / pageSize) tid = true ∧
          s'.records = s.records.map fun x => if x = r then { x with parameters := parameters } else x)) ∧
    (∀ s, Inv s → ∀ G X tid requests s₁, s.records.find? (fun r => r.patchAddress == G) = some X →
      runHandler X tid requests s = .ok s₁ →
      ∃ X₁, s₁.records.find? (fun r => r.patchAddress == G) = some X₁ ∧
        X₁ = { X with parameters := X₁.parameters } ∧
        sbppDeleteBreakpointFromList X s₁ = .ok { s₁ with breakpoints := some (s₁.records.erase X₁) }) := by
  refine ⟨fun m h => h.postInv, fun s hi hp hpool a info parameters tid => ?_,
    fun s hi G X tid requests s₁ hX h => ?_⟩
  · obtain ⟨s', h⟩ := hi.createAndEnablePost_ok hpool a info parameters tid
    refine ⟨s', h, (hi.createAndEnablePost h).1, hp.createAndEnablePost hi.active h, ?_⟩
    obtain ⟨l, hl⟩ := Option.isSome_iff_exists.mp hi.active
    rcases sbpCreateAndEnablePostBreakpoint_cases hi.active h with
      ⟨hnone, -, post, hr, ho, hpost⟩ | ⟨r, hr, hpr, rfl⟩
    · refine .inl ⟨hnone, post, hr, fun hin => ?_, hpost⟩
      obtain ⟨x, hx, hxo⟩ := List.mem_map.mp hin
      have := hp.objects_fresh x hx
      omega
    · refine .inr ⟨r, hr, hpr, ?_⟩
      rw [setParameters_records hl, ← State.records_of_some hl]
      refine List.map_congr_left fun x hx => ?_
      by_cases hxr : x = r
      · simp [hxr]
      · have hne : x.object ≠ r.object := fun he =>
          hxr (List.inj_on_of_nodup_map hp.objects_nodup hx hr he)
        simp [hxr, hne]
  · have hi₁ : Inv { s with calls := ⟨X.handler, X, tid⟩ :: s.calls } :=
      hi.congr rfl rfl rfl rfl rfl rfl rfl
    obtain ⟨ps, hX₁⟩ := Inv.handler_find hi₁ hX (runHandler_eq_ok h).2
    obtain ⟨l, hl⟩ := Option.isSome_iff_exists.mp (hi.handler h).1.active
    rw [State.records_of_some hl] at hX₁ ⊢
    exact ⟨_, hX₁, rfl, sbppDeleteBreakpointFromList_first hl hX₁⟩

/-- Thread 7's post at `0x3000` is pending when thread 7 calls again with return address
`0x3010`, on the same page: the call returns and rewrites that post's parameters. -/
theorem second_call_rewrites_pending_post :
    ((Machine.initial (fun _ => 0x90) (fun _ => false) ⟨true, 0⟩).run
      [.createPreBreakpoint 0x1000 ⟨1, 2⟩, .start, .breakpoint 0x1000 7 0 [(0x3000, [1])],
        .monitorTrapFlag]).elim False fun m =>
      PostInv m.state ∧ ∀ info, ∃ s',
        sbpCreateAndEnablePostBreakpoint 0x3010 info [2] 7 m.state = .ok s' ∧ PostInv s' ∧
        ∃ r ∈ m.state.records, r.isPostOn (0x3010 / pageSize) 7 = true ∧
          s'.records = m.state.records.map fun x => if x = r then { x with parameters := [2] } else x := by
  have hb : ((Machine.initial (fun _ => 0x90) (fun _ => false) ⟨true, 0⟩).run
      [.createPreBreakpoint 0x1000 ⟨1, 2⟩, .start, .breakpoint 0x1000 7 0 [(0x3000, [1])],
        .monitorTrapFlag]).any (fun m => m.state.records.any fun r => r.isPostOn 3 7) = true := by
    decide
  refine Machine.run_any_elim_served hb fun m hr hpool hany => ?_
  obtain ⟨hreach, hcall, -⟩ := posts_unique_per_page_and_thread
  refine ⟨hreach m hr, fun info => ?_⟩
  obtain ⟨s', h, -, hp', hcase⟩ :=
    hcall m.state hr.machineInv.inv (hreach m hr) hpool 0x3010 info [2] 7
  refine ⟨s', h, hp', hcase.resolve_left fun hnew => ?_⟩
  obtain ⟨r, hr', hpost⟩ := List.any_eq_true.mp hany
  have hfree := hnew.1 r hr'
  rw [show 0x3010 / pageSize = 3 by decide, hpost] at hfree
  cases hfree

/-! ### The owner's `#BP` -/

/-- **The owner's `#BP` at its post.** Let the first record at `G` be a post of thread `tid`
with no `0xcc` at `G` in its rw copy and a handler that is not null, and let the handler
make no post calls. Take a `#BP` at `G` on `tid` at an interrupt level the engine accepts.
While another record is on the page of `G`, it returns, erases exactly that record, leaves
the others in their order, and leaves the slot, the processor and every EPT entry as they
are. When no other record is on the page, `SbppDeleteBreakpointFromList` frees the post
and `SbppDisablePageShadowing` then reads it. -/
theorem owner_hit_reads_freed_post {s : State} {v : Vmcs} {G tid irql : Nat}
    {X : PatchInformation} (hfirst : s.records.find? (fun r => r.patchAddress == G) = some X)
    (hpost : X.type = .kPost) (htid : X.targetTid = tid)
    (hclean : sbppIsShadowBreakpoint X s = true) (hirql : irql ≤ dispatchLevel)
    (hnull : X.handler ≠ 0) :
    ((s.records.erase X).any (fun r => r.page == G / pageSize) = true →
      ∃ s', sbpHandleBreakpoint G tid irql [] s v = .ok (true, s', v) ∧
        s'.records = s.records.erase X ∧ s'.lastBreakpoint = s.lastBreakpoint ∧ s'.ept = s.ept) ∧
    ((s.records.erase X).any (fun r => r.page == G / pageSize) = false →
      sbpHandleBreakpoint G tid irql [] s v = .error .useAfterFree) := by
  obtain ⟨l, hl⟩ : ∃ l, s.breakpoints = some l :=
    Option.ne_none_iff_exists'.mp fun hb => by simp [State.records, hb] at hfirst
  rw [State.records_of_some hl] at hfirst ⊢
  subst htid
  have hG : G / pageSize = X.page := by
    rw [PatchInformation.page, show X.patchAddress = G by simpa using List.find?_some hfirst]
  rw [sbpHandleBreakpoint_owner hl hfirst hpost hclean hirql hnull, hG]
  exact ⟨fun h => ⟨_, if_pos h, rfl, rfl, rfl⟩, fun h => if_neg (by simp [h])⟩

/-- The failing input: thread 7's post at `0x3000`, which the pre handler at `0x1000`
installed, is alone on page 3 when thread 7 returns to it. -/
theorem lone_post_owner_hit_reads_freed :
    ((Machine.initial (fun _ => 0x90) (fun _ => false) ⟨true, 0⟩).run
      [.createPreBreakpoint 0x1000 ⟨1, 2⟩, .start, .breakpoint 0x1000 7 0 [(0x3000, [1])],
        .monitorTrapFlag]).elim False fun m =>
      ∃ X, m.state.records.find? (fun r => r.patchAddress == 0x3000) = some X ∧
        X.type = .kPost ∧ X.targetTid = 7 ∧ sbppIsShadowBreakpoint X m.state = true ∧
        0 ≤ dispatchLevel ∧ X.handler ≠ 0 ∧
        (m.state.records.erase X).any (fun r => r.page == 0x3000 / pageSize) = false ∧
        sbpHandleBreakpoint 0x3000 7 0 [] m.state m.vmcs = .error .useAfterFree := by
  have hb : ((Machine.initial (fun _ => 0x90) (fun _ => false) ⟨true, 0⟩).run
      [.createPreBreakpoint 0x1000 ⟨1, 2⟩, .start, .breakpoint 0x1000 7 0 [(0x3000, [1])],
        .monitorTrapFlag]).any (fun m =>
      (m.state.records.find? fun r => r.patchAddress == 0x3000).any fun X =>
        X.type == .kPost && X.targetTid == 7 && sbppIsShadowBreakpoint X m.state &&
          X.handler != 0 && !(m.state.records.erase X).any (fun r => r.page == 0x3000 / pageSize)) =
      true := by
    decide
  refine Machine.run_any_elim hb fun m _ hp => ?_
  cases hX : m.state.records.find? fun r => r.patchAddress == 0x3000 with
  | none => simp [hX] at hp
  | some X =>
    simp only [hX, Option.any_some, Bool.and_eq_true, beq_iff_eq, bne_iff_ne, ne_eq,
      Bool.not_eq_true'] at hp
    exact ⟨X, rfl, hp.1.1.1.1, hp.1.1.1.2, hp.1.1.2, by decide, hp.1.2, hp.2,
      (owner_hit_reads_freed_post hX hp.1.1.1.1 hp.1.1.1.2 hp.1.1.2 (by decide) hp.1.2).2 hp.2⟩

/-- **Erasing the last record of a shadow pair leaves the pair mapped.** Let the first
record at `G` be a post `X` with no `0xcc` at `G` in its rw copy and a handler that is not
null, alone on its page, and let its page show one of its copies. The owner's `#BP` at `G`
erases `X`, the last record that holds the page's pair, and `delete` frees the pair with it.
The page's entry then still maps a page of the freed pair, which no record left holds, and
the exit goes on to read the freed `X` for `SbppDisablePageShadowing`. -/
theorem last_shared_pair_erasure_reads_freed {m : Machine} (h : Reachable m) {G irql : Nat}
    {X : PatchInformation} (hfirst : m.state.records.find? (fun r => r.patchAddress == G) = some X)
    (hpost : X.type = .kPost) (hclean : sbppIsShadowBreakpoint X m.state = true)
    (hirql : irql ≤ dispatchLevel) (hnull : X.handler ≠ 0)
    (hmapped : m.state.ept X.page ≠ .identity X.page)
    (hlast : ∀ r ∈ m.state.records.erase X, r.page ≠ X.page) :
    (∃ s₁, sbppDeleteBreakpointFromList X
        { m.state with calls := ⟨X.handler, X, X.targetTid⟩ :: m.state.calls } = .ok s₁ ∧
      ((s₁.ept X.page).physialAddress = .pool X.shadowPageBaseForExec ∨
        (s₁.ept X.page).physialAddress = .pool X.shadowPageBaseForRw) ∧
      ∀ r ∈ s₁.records, r.shadowPageBaseForExec ≠ X.shadowPageBaseForExec ∧
        r.shadowPageBaseForRw ≠ X.shadowPageBaseForRw) ∧
    m.step (.breakpoint G X.targetTid irql []) = .error .useAfterFree := by
  have hi := h.machineInv.inv
  obtain ⟨l, hl⟩ := Option.isSome_iff_exists.mp hi.active
  have hmem : X ∈ m.state.records := List.mem_of_find?_eq_some hfirst
  rw [State.records_of_some hl] at hfirst hlast
  have hany : (l.erase X).any (fun x => x.page == X.page) = false :=
    List.any_eq_false.mpr fun r hr => by simpa using hlast r hr
  -- The page maps a copy of `X`: it is not its own frame.
  have hentry : (m.state.ept X.page).physialAddress = .pool X.shadowPageBaseForExec ∨
      (m.state.ept X.page).physialAddress = .pool X.shadowPageBaseForRw := by
    rcases hi.ept X.page with he | ⟨r, hr, hp, he | he⟩
    · exact absurd he hmapped
    · rw [he, (hi.frames_eq hr hmem hp).1, (hi.frames X hmem).2]; exact .inl rfl
    · rw [he, (hi.frames_eq hr hmem hp).2, (hi.frames X hmem).1]; exact .inr rfl
  refine ⟨⟨_, @sbppDeleteBreakpointFromList_first
    { m.state with calls := ⟨X.handler, X, X.targetTid⟩ :: m.state.calls } l G X hl hfirst,
    hentry, fun r hr => ?_⟩, ?_⟩
  · have hne := hi.pool_ne (by rw [State.records_of_some hl]; exact List.mem_of_mem_erase hr)
      hmem (hlast r hr)
    exact ⟨hne.2.2.2, hne.1⟩
  · simp only [Machine.step, sbpHandleBreakpoint_owner hl hfirst hpost hclean hirql hnull, hany]
    rfl

/-- The failing input: threads 7 and 8 each return through a post on page 3, which no other
record holds. Thread 7's post at `0x3000` is erased first, and page 3's pair stays; thread
8's return to `0x3008` then erases the last record of the pair. -/
theorem shared_pair_last_erasure_reads_freed :
    ((Machine.initial (fun _ => 0x90) (fun _ => false) ⟨true, 0⟩).run
      [.createPreBreakpoint 0x1000 ⟨1, 2⟩, .start, .breakpoint 0x1000 7 0 [(0x3000, [1])],
        .monitorTrapFlag, .breakpoint 0x1000 8 0 [(0x3008, [2])], .monitorTrapFlag,
        .breakpoint 0x3000 7 0 []]).elim False fun m =>
      Reachable m ∧ ∃ X, m.state.records.find? (fun r => r.patchAddress == 0x3008) = some X ∧
        X.type = .kPost ∧ X.targetTid = 8 ∧ sbppIsShadowBreakpoint X m.state = true ∧
        0 ≤ dispatchLevel ∧ X.handler ≠ 0 ∧ m.state.ept X.page ≠ .identity X.page ∧
        (∀ r ∈ m.state.records.erase X, r.page ≠ X.page) ∧
        m.enabled (.breakpoint 0x3008 8 0 []) = true ∧
        (∃ s₁, sbppDeleteBreakpointFromList X
            { m.state with calls := ⟨X.handler, X, X.targetTid⟩ :: m.state.calls } = .ok s₁ ∧
          ((s₁.ept X.page).physialAddress = .pool X.shadowPageBaseForExec ∨
            (s₁.ept X.page).physialAddress = .pool X.shadowPageBaseForRw) ∧
          ∀ r ∈ s₁.records, r.shadowPageBaseForExec ≠ X.shadowPageBaseForExec ∧
            r.shadowPageBaseForRw ≠ X.shadowPageBaseForRw) ∧
        m.step (.breakpoint 0x3008 X.targetTid 0 []) = .error .useAfterFree := by
  have hb : ((Machine.initial (fun _ => 0x90) (fun _ => false) ⟨true, 0⟩).run
      [.createPreBreakpoint 0x1000 ⟨1, 2⟩, .start, .breakpoint 0x1000 7 0 [(0x3000, [1])],
        .monitorTrapFlag, .breakpoint 0x1000 8 0 [(0x3008, [2])], .monitorTrapFlag,
        .breakpoint 0x3000 7 0 []]).any (fun m =>
      (m.state.records.find? fun r => r.patchAddress == 0x3008).any fun X =>
        X.type == .kPost && X.targetTid == 8 && sbppIsShadowBreakpoint X m.state &&
          X.handler != 0 && m.state.ept X.page != .identity X.page &&
          (m.state.records.erase X).all (fun r => r.page != X.page) &&
          m.enabled (.breakpoint 0x3008 8 0 [])) = true := by
    decide
  refine Machine.run_any_elim hb fun m hr hp => ?_
  cases hX : m.state.records.find? fun r => r.patchAddress == 0x3008 with
  | none => simp [hX] at hp
  | some X =>
    simp only [hX, Option.any_some, Bool.and_eq_true, beq_iff_eq, bne_iff_ne, ne_eq,
      List.all_eq_true] at hp
    obtain ⟨⟨⟨⟨⟨⟨hpost, htid⟩, hclean⟩, hnull⟩, hmapped⟩, hlast⟩, he⟩ := hp
    exact ⟨hr, X, rfl, hpost, htid, hclean, by decide, hnull, hmapped, hlast, he,
      last_shared_pair_erasure_reads_freed hr hX hpost hclean (by decide) hnull hmapped hlast⟩

end DdiMon
