import DdiMon.Interleaving

/-!
# Hooks that stay installed, and posts that run once

What the engine promises the driver over every interleaving of the processors' exits after
`SbpStart` (`Interleaved`).

* **Installed hooks stay installed** (`interleaved_exits_keep_pre_hooks`). A pre record first
  at its address stays first there: `SbpCreateAndEnablePostBreakpoint` appends a post or
  rewrites a post's parameters, and the owner's `#BP` erases only the post it hit. No
  record's page is mapped back to its own frame while the record is live:
  `SbppDisablePageShadowing` runs only when `SbppFindPatchInfoByPage` finds no record left
  on the page.
* **A post's handler runs at most once, on its own thread** (`interleaved_posts_run_once`).
  `SbpHandleBreakpoint` calls a post's handler only on the post's `target_tid` and then
  erases the post, and each new record has a fresh heap address, so no later record is the
  same post.
* **A post is delivered to its own thread, once** (`interleaved_posts_delivered`). While the
  post is the first record at its return address, other threads' `#BP`s there run no
  handler and keep the registry, and its owner's `#BP` runs it and erases it, when another
  record keeps the page shadowed.
-/

namespace DdiMon

/-! ### The first record at an address -/

/-- Erasing the first element `q` picks keeps the first element `p` picks, when `q` picks no
element that `p` picks. -/
theorem find?_eraseP_of_disjoint {α : Type} {p q : α → Bool} {x : α} :
    ∀ {l : List α}, l.find? p = some x → (∀ y ∈ l, q y = true → p y = false) →
      (l.eraseP q).find? p = some x
  | [], h, _ => by cases h
  | a :: l, h, hq => by
    by_cases hpa : p a = true
    · have hqa : ¬q a = true := fun h => by simp [hq a (List.mem_cons_self _ _) h] at hpa
      rw [List.eraseP_cons_of_neg hqa]
      rwa [List.find?_cons_of_pos _ hpa] at h ⊢
    · rw [List.find?_cons_of_neg _ hpa] at h
      by_cases hqa : q a = true
      · rwa [List.eraseP_cons_of_pos hqa]
      · rw [List.eraseP_cons_of_neg hqa, List.find?_cons_of_neg _ hpa]
        exact find?_eraseP_of_disjoint h fun y hy => hq y (List.mem_cons_of_mem _ hy)

/-- The erasure after the owner's `#BP` at a post on another address keeps the first record
at `G`. -/
theorem sbppDeleteBreakpointFromList_find {s s₁ : State} {info X : PatchInformation} {G : Nat}
    (hG : info.patchAddress ≠ G) (hX : s.records.find? (fun r => r.patchAddress == G) = some X)
    (hdel : sbppDeleteBreakpointFromList info s = .ok s₁) :
    s₁.records.find? (fun r => r.patchAddress == G) = some X := by
  unfold sbppDeleteBreakpointFromList at hdel
  split at hdel
  · cases hdel
  rename_i l hl
  cases hdel
  rw [State.records_of_some hl] at hX
  exact find?_eraseP_of_disjoint hX fun y _ hq => by
    simp only [Bool.and_eq_true, beq_iff_eq] at hq
    simpa [← hq.1] using hG

/-- **A pre record first at its address stays first** over every exit and guest event. -/
theorem Machine.step_find_pre {m m' : Machine} {e : Event} {G : Nat} {X : PatchInformation}
    (hi : Inv m.state) (hp : PostInv m.state) (hep : e.entryPoint = false)
    (hX : m.state.records.find? (fun r => r.patchAddress == G) = some X) (hpre : X.type = .kPre)
    (hs : m.step e = .ok m') : m'.state.records.find? (fun r => r.patchAddress == G) = some X := by
  cases e with
  | breakpoint guestIp tid irql requests =>
    simp only [Machine.step, bind_eq_ok_iff, pure_eq_ok_iff] at hs
    obtain ⟨⟨b, s', v'⟩, hbp, rfl⟩ := hs
    rcases sbpHandleBreakpoint_cases hbp with ⟨-, rfl, -⟩ | ⟨info, -, hf, -, -, -, hcase⟩
    · exact hX
    have hi₀ : Inv { m.state with calls := ⟨info.handler, info, tid⟩ :: m.state.calls } :=
      hi.congr rfl rfl rfl rfl rfl rfl rfl
    rcases hcase with ⟨-, s₁, h₁, hs⟩ | ⟨hpost, -, -, s₁, o, h₁, h₂, -⟩ | ⟨-, -, hs⟩
    · obtain rfl : s' = (stepOnRwView info s₁ m.vmcs).1 := congrArg Prod.fst hs
      rw [stepOnRwView_records]
      exact Inv.requests_find_pre hpre hi₀ (hp.congr rfl rfl) hX (runHandler_eq_ok h₁).2
    · -- The post hit is first at `guestIp`, and the pre record `X` is first at `G`.
      have hG : info.patchAddress ≠ G := fun hG => by
        have hgi : info.patchAddress = guestIp := by simpa using List.find?_some hf
        rw [← hG, hgi, hf] at hX
        simp [← Option.some.inj hX, hpost] at hpre
      exact sbppDeleteBreakpointFromList_find hG
        (Inv.requests_find_pre hpre hi₀ (hp.congr rfl rfl) hX (runHandler_eq_ok h₁).2) h₂
    · obtain rfl : s' = (stepOnRwView info m.state m.vmcs).1 := congrArg Prod.fst hs
      rw [stepOnRwView_records]
      exact hX
  | monitorTrapFlag =>
    simp only [Machine.step, bind_eq_ok_iff, pure_eq_ok_iff] at hs
    obtain ⟨⟨s', v'⟩, h₁, rfl⟩ := hs
    obtain ⟨hb, -⟩ := sbpHandleMonitorTrapFlag_frame h₁
    obtain ⟨l, hl⟩ := Option.isSome_iff_exists.mp hi.active
    rw [State.records_of_some hl] at hX
    rwa [State.records_of_some (hb.trans hl)]
  | eptViolation faultVa gpa =>
    simp only [Machine.step, bind_eq_ok_iff, pure_eq_ok_iff] at hs
    obtain ⟨⟨s', v'⟩, h₁, rfl⟩ := hs
    rcases sbpHandleEptViolation_cases h₁ with ⟨rfl, -⟩ | ⟨info, -, hs⟩
    · exact hX
    · obtain rfl : s' = (stepOnRwView info m.state m.vmcs).1 := congrArg Prod.fst hs
      rwa [stepOnRwView_records]
  | guestWrite gpa value =>
    simp only [Machine.step, Except.ok.injEq] at hs
    subst hs
    obtain ⟨memory, pool, hw⟩ := State.guestWrite_eq m.state gpa value
    show (m.state.guestWrite gpa value).records.find? _ = _
    rw [hw]
    exact hX
  | guestFlags flags =>
    simp only [Machine.step, Except.ok.injEq] at hs
    subst hs
    exact hX
  | createPreBreakpoint _ _ | start | disablePageShadowing => cases hep

/-! ### Pages that stay shadowed -/

/-- No record's page maps to its own frame: every installed hook is switched on. -/
def Shadowed (s : State) : Prop := ∀ r ∈ s.records, s.ept r.page ≠ .identity r.page

instance (s : State) : Decidable (Shadowed s) :=
  inferInstanceAs (Decidable (∀ r ∈ s.records, s.ept r.page ≠ .identity r.page))

/-- `Shadowed` holds when every record sits on the page of an old record and the EPT stays. -/
theorem Shadowed.congr {s s' : State} (h : Shadowed s)
    (hr : ∀ r ∈ s'.records, ∃ r₀ ∈ s.records, r₀.page = r.page) (he : s'.ept = s.ept) :
    Shadowed s' := fun r hr' => by
  obtain ⟨r₀, hr₀, hp⟩ := hr r hr'
  rw [he, ← hp]
  exact h r₀ hr₀

/-- Writing the entry of page `p` keeps `Shadowed` when the new entry is not `p`'s own frame. -/
theorem Shadowed.setEpt {s : State} {p : Nat} {e : EptEntry}
    (h : ∀ r ∈ s.records, r.page ≠ p → s.ept r.page ≠ .identity r.page) (he : e ≠ .identity p) :
    Shadowed (s.setEpt p e) := fun r hr => by
  by_cases hp : r.page = p
  · rw [hp]
    simpa [State.setEpt] using he
  · simpa [State.setEpt, Function.update_noteq hp] using h r hr hp

/-- Showing a record's exec copy, execute-only, switches its page on. -/
theorem Shadowed.enableExecAt {s : State} {x : PatchInformation}
    (h : ∀ r ∈ s.records, r.page ≠ x.page → s.ept r.page ≠ .identity r.page) :
    Shadowed (sbppEnablePageShadowingForExec x s) :=
  Shadowed.setEpt h fun he => by simp [EptEntry.identity] at he

theorem Shadowed.enableRw {s : State} (hi : Inv s) (h : Shadowed s) {x : PatchInformation}
    (hx : Live s.records x) : Shadowed (sbppEnablePageShadowingForRW x s) := by
  obtain ⟨r, hr, hxr⟩ := hx
  have hrw : x.paBaseForRw = .pool r.shadowPageBaseForRw := by
    rw [hxr]
    exact (hi.frames r hr).1
  refine Shadowed.setEpt (fun r hr _ => h r hr) fun he => ?_
  have := congrArg EptEntry.physialAddress he
  simp [hrw, EptEntry.identity] at this

theorem Shadowed.stepOnRwView {s : State} (h : Shadowed s) (hi : Inv s) {x : PatchInformation}
    (hx : Live s.records x) (v : Vmcs) : Shadowed (stepOnRwView x s v).1 := by
  rw [stepOnRwView_fst]
  exact h.enableRw hi hx

/-- A record after `setParameters` is an old record, its parameters perhaps rewritten. -/
theorem setParameters_live {s : State} (hact : s.breakpoints.isSome) (object : Nat)
    (parameters : List Nat) : ∀ r ∈ (s.setParameters object parameters).records, Live s.records r := by
  obtain ⟨l, hl⟩ := Option.isSome_iff_exists.mp hact
  intro r hr
  rw [setParameters_records hl] at hr
  obtain ⟨r₀, hr₀, rfl⟩ := List.mem_map.mp hr
  exact ⟨r₀, by rwa [State.records_of_some hl], by split <;> rfl⟩

/-- A call of `SbpCreateAndEnablePostBreakpoint` shows a new post's exec copy. -/
theorem Shadowed.createAndEnablePost {s s' : State} (hi : Inv s) (h : Shadowed s) {a tid : Nat}
    {info : PatchInformation} {parameters : List Nat}
    (hs : sbpCreateAndEnablePostBreakpoint a info parameters tid s = .ok s') : Shadowed s' := by
  obtain ⟨l, hl⟩ := Option.isSome_iff_exists.mp hi.active
  simp only [sbpCreateAndEnablePostBreakpoint, sbppFindDuplicatedPostPatchInfo,
    sbppFindPatchInfo_of_some hl, bind_eq_ok_iff, Except.ok.injEq] at hs
  obtain ⟨_, rfl, hs⟩ := hs
  split at hs
  · obtain rfl := pure_eq_ok_iff.mp hs
    refine h.congr (fun r hr => ?_) rfl
    obtain ⟨r₀, hr₀, hrr⟩ := setParameters_live hi.active _ _ r hr
    exact ⟨r₀, hr₀, (congrArg PatchInformation.page hrr).symm⟩
  · simp only [sbppCreatePostBreakpoint, bind_eq_ok_iff, pure_eq_ok_iff] at hs
    obtain ⟨_, ⟨⟨post, s₁⟩, hc, rfl⟩, _, hs, rfl⟩ := hs
    obtain ⟨hb, -, he, -⟩ := sbppCreateBreakpoint_frame hi.active hc
    simp only [sbppAddBreakpointToList_of_some (hb.trans hl), Except.ok.injEq] at hs
    subst hs
    refine Shadowed.enableExecAt fun r hr hne => ?_
    change r ∈ l ++ _ at hr
    rcases List.mem_append.mp hr with hr | hr
    · change s₁.ept r.page ≠ _
      rw [he]
      exact h r (by rwa [State.records_of_some hl])
    · exact absurd (by rw [List.mem_singleton.mp hr]) hne

theorem Shadowed.requests {info : PatchInformation} {tid : Nat} :
    ∀ {requests : List (Nat × List Nat)} {s s' : State}, Inv s → Shadowed s →
      runRequests info tid requests s = .ok s' → Shadowed s'
  | [], _, _, _, h, hs => by cases hs; exact h
  | (_, _) :: _, _, _, hi, h, hs => by
    simp only [runRequests, bind_eq_ok_iff] at hs
    obtain ⟨s₁, h₁, hs⟩ := hs
    exact Shadowed.requests (hi.createAndEnablePost h₁).1 (h.createAndEnablePost hi h₁) hs

/-- Erasing keeps the pages of the records left shadowed. -/
theorem Shadowed.delete {s s₁ : State} (h : Shadowed s) {info : PatchInformation}
    (hdel : sbppDeleteBreakpointFromList info s = .ok s₁) : Shadowed s₁ := by
  obtain ⟨l, rfl, hsub⟩ := sbppDeleteBreakpointFromList_eq hdel
  exact h.congr (fun r hr => ⟨r, hsub r hr, rfl⟩) rfl

/-- **No exit switches a live record's page off.** -/
theorem Shadowed.step {m m' : Machine} {e : Event} (hi : Inv m.state) (h : Shadowed m.state)
    (hep : e.entryPoint = false) (hs : m.step e = .ok m') : Shadowed m'.state := by
  cases e with
  | breakpoint guestIp tid irql requests =>
    simp only [Machine.step, bind_eq_ok_iff, pure_eq_ok_iff] at hs
    obtain ⟨⟨b, s', v'⟩, hbp, rfl⟩ := hs
    rcases sbpHandleBreakpoint_cases hbp with ⟨-, rfl, -⟩ | ⟨info, -, hf, -, -, -, hcase⟩
    · exact h
    have hmem : info ∈ m.state.records := List.mem_of_find?_eq_some hf
    have hi₀ : Inv { m.state with calls := ⟨info.handler, info, tid⟩ :: m.state.calls } :=
      hi.congr rfl rfl rfl rfl rfl rfl rfl
    rcases hcase with ⟨-, s₁, h₁, hs⟩ | ⟨-, -, -, s₁, o, h₁, h₂, -⟩ | ⟨-, -, hs⟩
    · obtain ⟨rfl, -⟩ := Prod.mk.inj hs
      obtain ⟨hi₁, -, hg⟩ := hi.handler h₁
      exact (Shadowed.requests hi₀ h (runHandler_eq_ok h₁).2).stepOnRwView hi₁
        ((Live.of_mem hmem).grow hg) _
    · exact (Shadowed.requests hi₀ h (runHandler_eq_ok h₁).2).delete h₂
    · obtain ⟨rfl, -⟩ := Prod.mk.inj hs
      exact h.stepOnRwView hi (.of_mem hmem) _
  | monitorTrapFlag =>
    simp only [Machine.step, bind_eq_ok_iff, pure_eq_ok_iff] at hs
    obtain ⟨⟨s', v'⟩, h₁, rfl⟩ := hs
    obtain ⟨x, -, hs⟩ := sbpHandleMonitorTrapFlag_eq h₁
    have h₀ : Shadowed { m.state.ntAssert (sbppIsSbpActive m.state) .sbpActive with
        lastBreakpoint := none } := by
      rw [State.ntAssert_eq]
      exact h
    obtain ⟨rfl, -⟩ := Prod.mk.inj hs
    exact Shadowed.enableExecAt fun r hr _ => h₀ r hr
  | eptViolation faultVa gpa =>
    simp only [Machine.step, bind_eq_ok_iff, pure_eq_ok_iff] at hs
    obtain ⟨⟨s', v'⟩, h₁, rfl⟩ := hs
    rcases sbpHandleEptViolation_cases h₁ with ⟨rfl, -⟩ | ⟨info, hf, hs⟩
    · exact h
    · obtain ⟨rfl, -⟩ := Prod.mk.inj hs
      exact h.stepOnRwView hi (.of_mem (List.mem_of_find?_eq_some hf)) _
  | guestWrite gpa value =>
    simp only [Machine.step, Except.ok.injEq] at hs
    subst hs
    obtain ⟨memory, pool, hw⟩ := State.guestWrite_eq m.state gpa value
    show Shadowed (m.state.guestWrite gpa value)
    rw [hw]
    exact h
  | guestFlags flags =>
    simp only [Machine.step, Except.ok.injEq] at hs
    subst hs
    exact h
  | createPreBreakpoint _ _ | start | disablePageShadowing => cases hep

/-- Every interleaving from a shadowed start keeps every record's page shadowed. -/
theorem Interleaved.shadowed {sys₀ sys : System} (h₀ : SharedInv sys₀.state)
    (hsh : Shadowed sys₀.state) (h : Interleaved sys₀ sys) : Shadowed sys.state :=
  @Interleaved.of_step Shadowed _ _ h₀ hsh (fun _ _ _ hs hsh _ hep _ hm => hsh.step hs.inv hep hm) h

/-- On a shadowed page, a record shows its exec copy execute-only or its rw copy. -/
theorem Shadowed.entry {s : State} (h : Shadowed s) (hi : Inv s) {r : PatchInformation}
    (hr : r ∈ s.records) : s.ept r.page = ⟨false, false, true, r.paBaseForExec⟩ ∨
      s.ept r.page = ⟨true, true, true, r.paBaseForRw⟩ := by
  rcases hi.ept r.page with he | ⟨r', hr', hp, he⟩
  · exact absurd he (h r hr)
  · obtain ⟨hx, hrw⟩ := hi.frames_eq hr' hr hp
    rwa [hx, hrw] at he

/-! ### Post handler invocations -/

/-- Every record of `s'` has the heap address of a record of `s`, or one allocated since. -/
def ObjectsSince (s s' : State) : Prop :=
  s.nextObject ≤ s'.nextObject ∧
    ∀ r ∈ s'.records, (∃ r₀ ∈ s.records, r₀.object = r.object) ∨ s.nextObject ≤ r.object

/-- Keeping a part of the registry allocates nothing. -/
theorem ObjectsSince.of_sub {s s' : State} (hn : s'.nextObject = s.nextObject)
    (hr : ∀ r ∈ s'.records, r ∈ s.records) : ObjectsSince s s' :=
  ⟨hn.ge, fun r h => .inl ⟨r, hr r h, rfl⟩⟩

theorem ObjectsSince.of_eq {s s' : State} (hb : s'.breakpoints = s.breakpoints)
    (hn : s'.nextObject = s.nextObject) : ObjectsSince s s' :=
  .of_sub hn fun r h => by unfold State.records at h ⊢; rwa [← hb]

theorem ObjectsSince.trans {s₁ s₂ s₃ : State} (h₁ : ObjectsSince s₁ s₂)
    (h₂ : ObjectsSince s₂ s₃) : ObjectsSince s₁ s₃ := by
  refine ⟨Nat.le_trans h₁.1 h₂.1, fun r hr => ?_⟩
  rcases h₂.2 r hr with ⟨r₁, hr₁, ho⟩ | hge
  · rcases h₁.2 r₁ hr₁ with ⟨r₀, hr₀, ho'⟩ | hge'
    · exact .inl ⟨r₀, hr₀, ho'.trans ho⟩
    · exact .inr (ho ▸ hge')
  · exact .inr (Nat.le_trans h₁.1 hge)

/-- A new record gets the next heap address; a duplicate post keeps its own. -/
theorem ObjectsSince.createAndEnablePost {s s' : State} (hact : s.breakpoints.isSome)
    {a tid : Nat} {info : PatchInformation} {parameters : List Nat}
    (h : sbpCreateAndEnablePostBreakpoint a info parameters tid s = .ok s') : ObjectsSince s s' := by
  rcases sbpCreateAndEnablePostBreakpoint_cases hact h with ⟨-, hn, post, hr, ho, -⟩ | ⟨r, -, -, rfl⟩
  · refine ⟨by omega, fun r h => ?_⟩
    rw [hr] at h
    rcases List.mem_append.mp h with h | h
    · exact .inl ⟨r, h, rfl⟩
    · rw [List.mem_singleton.mp h, ho]
      exact .inr (Nat.le_refl _)
  · refine ⟨Nat.le_refl _, fun r h => ?_⟩
    obtain ⟨r₀, hr₀, hrr⟩ := setParameters_live hact _ _ r h
    exact .inl ⟨r₀, hr₀, (congrArg PatchInformation.object hrr).symm⟩

theorem ObjectsSince.requests {info : PatchInformation} {tid : Nat} :
    ∀ {requests : List (Nat × List Nat)} {s s' : State}, Inv s →
      runRequests info tid requests s = .ok s' → ObjectsSince s s'
  | [], _, _, _, h => by cases h; exact .of_eq rfl rfl
  | (_, _) :: _, _, _, hi, h => by
    simp only [runRequests, bind_eq_ok_iff] at h
    obtain ⟨s₁, h₁, h⟩ := h
    exact (ObjectsSince.createAndEnablePost hi.active h₁).trans
      (ObjectsSince.requests (hi.createAndEnablePost h₁).1 h)

/-- A handler's call records itself and allocates only its posts. -/
theorem ObjectsSince.handler {s s' : State} (hi : Inv s) {info : PatchInformation} {tid : Nat}
    {requests : List (Nat × List Nat)} (h : runHandler info tid requests s = .ok s') :
    ObjectsSince s s' ∧ s'.calls = ⟨info.handler, info, tid⟩ :: s.calls := by
  have hi₀ : Inv { s with calls := ⟨info.handler, info, tid⟩ :: s.calls } :=
    hi.congr rfl rfl rfl rfl rfl rfl rfl
  have ho₀ : ObjectsSince s { s with calls := ⟨info.handler, info, tid⟩ :: s.calls } :=
    .of_eq rfl rfl
  exact ⟨ho₀.trans (ObjectsSince.requests hi₀ (runHandler_eq_ok h).2),
    (Inv.requests_frame hi₀ (runHandler_eq_ok h).2).1⟩

/-- The handler invocations of posts in `calls`: each on the post's own thread, at most one
for each post, and none of a post still in the registry or allocated later. -/
structure CallInv (s : State) : Prop where
  owner : ∀ c ∈ s.calls, c.info.type = .kPost → c.tid = c.info.targetTid
  once : ((s.calls.filter fun c => c.info.type == .kPost).map fun c => c.info.object).Nodup
  gone : ∀ c ∈ s.calls, c.info.type = .kPost →
    c.info.object < s.nextObject ∧ ∀ r ∈ s.records, r.object ≠ c.info.object

/-- The invoked posts stay gone while records are only kept or allocated. -/
theorem CallInv.gone_since {s s' : State} (hc : CallInv s) (ho : ObjectsSince s s') :
    ∀ c ∈ s.calls, c.info.type = .kPost →
      c.info.object < s'.nextObject ∧ ∀ r ∈ s'.records, r.object ≠ c.info.object := by
  intro c hcm hpost
  obtain ⟨hlt, hne⟩ := hc.gone c hcm hpost
  refine ⟨Nat.lt_of_lt_of_le hlt ho.1, fun r hr heq => ?_⟩
  rcases ho.2 r hr with ⟨r₀, hr₀, ho₀⟩ | hge
  · exact hne r₀ hr₀ (ho₀.trans heq)
  · omega

theorem CallInv.since {s s' : State} (hc : CallInv s) (hcalls : s'.calls = s.calls)
    (ho : ObjectsSince s s') : CallInv s' :=
  ⟨hcalls ▸ hc.owner, hcalls ▸ hc.once, hcalls ▸ hc.gone_since ho⟩

/-- The call of a pre handler adds no post invocation. -/
theorem CallInv.pushPre {s s' : State} (hc : CallInv s) {info : PatchInformation} {tid : Nat}
    (hpre : info.type = .kPre) (hcalls : s'.calls = ⟨info.handler, info, tid⟩ :: s.calls)
    (ho : ObjectsSince s s') : CallInv s' := by
  have hgone := hc.gone_since ho
  refine ⟨fun c hcm hpost => ?_, ?_, fun c hcm hpost => ?_⟩ <;> rw [hcalls] at *
  · rcases List.mem_cons.mp hcm with rfl | hcm
    · simp [hpre] at hpost
    · exact hc.owner c hcm hpost
  · simpa [List.filter_cons, hpre] using hc.once
  · rcases List.mem_cons.mp hcm with rfl | hcm
    · simp [hpre] at hpost
    · exact hgone c hcm hpost

/-- The call of the handler of post `info` on its own thread, once no record has `info`'s heap
address. -/
theorem CallInv.pushPost {s s' : State} (hc : CallInv s) {info : PatchInformation} {tid : Nat}
    (hinfo : info ∈ s.records) (hfresh : info.object < s.nextObject) (hpost : info.type = .kPost)
    (htid : info.targetTid = tid) (hcalls : s'.calls = ⟨info.handler, info, tid⟩ :: s.calls)
    (ho : ObjectsSince s s') (herased : ∀ r ∈ s'.records, r.object ≠ info.object) : CallInv s' := by
  have hgone := hc.gone_since ho
  refine ⟨fun c hcm hpc => ?_, ?_, fun c hcm hpc => ?_⟩ <;> rw [hcalls] at *
  · rcases List.mem_cons.mp hcm with rfl | hcm
    · exact htid.symm
    · exact hc.owner c hcm hpc
  · -- No earlier post invocation is of `info`, which is still in the registry.
    simp only [List.filter_cons, hpost, beq_self_eq_true, if_true, List.map_cons, List.nodup_cons]
    refine ⟨fun hin => ?_, hc.once⟩
    obtain ⟨c, hcm, hco⟩ := List.mem_map.mp hin
    obtain ⟨hcm, hpc⟩ := List.mem_filter.mp hcm
    exact (hc.gone c hcm (by simpa using hpc)).2 info hinfo hco.symm
  · rcases List.mem_cons.mp hcm with rfl | hcm
    · exact ⟨Nat.lt_of_lt_of_le hfresh ho.1, herased⟩
    · exact hgone c hcm hpc

/-- **The owner's `#BP` at a post**: the call of its handler, the handler's own calls, and
the erasure of the post as the handler left it. -/
theorem CallInv.ownerHit {s s₁ s₂ : State} (hi : Inv s) (hp : PostInv s) (hc : CallInv s)
    {G tid : Nat} {info : PatchInformation} {requests : List (Nat × List Nat)}
    (hf : s.records.find? (fun r => r.patchAddress == G) = some info) (hpost : info.type = .kPost)
    (htid : info.targetTid = tid) (h₁ : runHandler info tid requests s = .ok s₁)
    (h₂ : sbppDeleteBreakpointFromList info s₁ = .ok s₂) : CallInv s₂ := by
  have hinfo := List.mem_of_find?_eq_some hf
  have hi₀ : Inv { s with calls := ⟨info.handler, info, tid⟩ :: s.calls } :=
    hi.congr rfl rfl rfl rfl rfl rfl rfl
  have hp₁ : PostInv s₁ := hp.handler hi h₁
  obtain ⟨l, hl⟩ := Option.isSome_iff_exists.mp (hi.handler h₁).1.active
  obtain ⟨ho, hcalls⟩ := ObjectsSince.handler hi h₁
  replace h₁ := (runHandler_eq_ok h₁).2
  -- The handler leaves the post first at `G`, up to its parameters, and the erasure takes it.
  obtain ⟨ps, hX₁⟩ := Inv.handler_find hi₀ hf h₁
  rw [State.records_of_some hl] at hX₁
  obtain rfl : s₂ = { s₁ with breakpoints := some (l.erase { info with parameters := ps }) } :=
    Except.ok.inj (h₂.symm.trans (sbppDeleteBreakpointFromList_first hl hX₁))
  have hnodup : (l.map PatchInformation.object).Nodup := by
    simpa [State.records_of_some hl] using hp₁.objects_nodup
  have hsub : ∀ r ∈ l.erase { info with parameters := ps }, r ∈ s₁.records := fun r hr => by
    rw [State.records_of_some hl]
    exact List.mem_of_mem_erase hr
  refine hc.pushPost hinfo (hp.objects_fresh info hinfo) hpost htid hcalls
    (ho.trans (.of_sub rfl hsub)) fun r hr heq => ?_
  have hrX : r = { info with parameters := ps } := List.inj_on_of_nodup_map hnodup
    (List.mem_of_mem_erase hr) (List.mem_of_find?_eq_some hX₁) heq
  exact (hnodup.of_map _).not_mem_erase (hrX ▸ hr)

/-- **Every event keeps `CallInv`.** -/
theorem CallInv.step {m m' : Machine} {e : Event} (hi : Inv m.state) (hp : PostInv m.state)
    (hc : CallInv m.state) (hs : m.step e = .ok m') : CallInv m'.state := by
  cases e with
  | createPreBreakpoint a t =>
    simp only [Machine.step, sbpCreatePreBreakpoint, sbppCreatePreBreakpoint, bind_eq_ok_iff,
      pure_eq_ok_iff] at hs
    obtain ⟨s', ⟨_, ⟨⟨info, s₁⟩, hc₁, rfl⟩, h⟩, rfl⟩ := hs
    obtain ⟨hb, -, -, hcalls, -⟩ := sbppCreateBreakpoint_frame hi.active hc₁
    obtain ⟨ho, hn⟩ := sbppCreateBreakpoint_object hi.active hc₁
    obtain ⟨l, hl⟩ := Option.isSome_iff_exists.mp hi.active
    simp only [sbppAddBreakpointToList_of_some (hb.trans hl), Except.ok.injEq] at h
    subst h
    refine hc.since hcalls ⟨by simp [hn], fun r hr => ?_⟩
    rcases List.mem_append.mp hr with hr | hr
    · exact .inl ⟨r, by rwa [State.records_of_some hl], rfl⟩
    · rw [List.mem_singleton.mp hr]
      exact .inr ho.ge
  | start | disablePageShadowing =>
    simp only [Machine.step, sbpStart, bind_eq_ok_iff, pure_eq_ok_iff] at hs
    obtain ⟨s', h₁, rfl⟩ := hs
    obtain ⟨l, hl⟩ := Option.isSome_iff_exists.mp hi.active
    simp only [sbpVmCallEnablePageShadowing, sbpVmCallDisablePageShadowing, hl,
      Except.ok.injEq] at h₁
    subst h₁
    exact hc.since (foldl_frame _ _ (by intros; rfl) _ _)
      (.of_eq (foldl_frame _ _ (by intros; rfl) _ _) (foldl_frame _ _ (by intros; rfl) _ _))
  | breakpoint guestIp tid irql requests =>
    simp only [Machine.step, bind_eq_ok_iff, pure_eq_ok_iff] at hs
    obtain ⟨⟨b, s', v'⟩, hbp, rfl⟩ := hs
    rcases sbpHandleBreakpoint_cases hbp with ⟨-, rfl, -⟩ | ⟨info, -, hf, -, -, -, hcase⟩
    · exact hc
    have hi₀ : Inv { m.state with calls := ⟨info.handler, info, tid⟩ :: m.state.calls } :=
      hi.congr rfl rfl rfl rfl rfl rfl rfl
    have hstep : ∀ s, ObjectsSince s (stepOnRwView info s m.vmcs).1 := fun s =>
      .of_eq (by rw [stepOnRwView_fst]; rfl) (by rw [stepOnRwView_fst]; rfl)
    rcases hcase with ⟨hpre, s₁, h₁, hs⟩ | ⟨hpost, htid, -, s₁, o, h₁, h₂, -⟩ | ⟨-, -, hs⟩
    · obtain rfl : s' = (stepOnRwView info s₁ m.vmcs).1 := congrArg Prod.fst hs
      obtain ⟨ho, hcalls⟩ := ObjectsSince.handler hi h₁
      exact hc.pushPre hpre ((stepOnRwView_calls info s₁ _).trans hcalls) (ho.trans (hstep s₁))
    · exact hc.ownerHit hi hp hf hpost htid h₁ h₂
    · obtain rfl : s' = (stepOnRwView info m.state m.vmcs).1 := congrArg Prod.fst hs
      exact hc.since (stepOnRwView_calls info _ _) (hstep _)
  | monitorTrapFlag =>
    simp only [Machine.step, bind_eq_ok_iff, pure_eq_ok_iff] at hs
    obtain ⟨⟨s', v'⟩, h₁, rfl⟩ := hs
    obtain ⟨hb, hn, -, hcalls⟩ := sbpHandleMonitorTrapFlag_frame h₁
    exact hc.since hcalls (.of_eq hb hn)
  | eptViolation faultVa gpa =>
    simp only [Machine.step, bind_eq_ok_iff, pure_eq_ok_iff] at hs
    obtain ⟨⟨s', v'⟩, h₁, rfl⟩ := hs
    rcases sbpHandleEptViolation_cases h₁ with ⟨rfl, -⟩ | ⟨info, -, hs⟩
    · exact hc
    · obtain rfl : s' = (stepOnRwView info m.state m.vmcs).1 := congrArg Prod.fst hs
      exact hc.since (stepOnRwView_calls info _ _)
        (.of_eq (by rw [stepOnRwView_fst]; rfl) (by rw [stepOnRwView_fst]; rfl))
  | guestWrite gpa value =>
    simp only [Machine.step, Except.ok.injEq] at hs
    subst hs
    obtain ⟨memory, pool, hw⟩ := State.guestWrite_eq m.state gpa value
    show CallInv (m.state.guestWrite gpa value)
    rw [hw]
    exact hc.since rfl (.of_eq rfl rfl)
  | guestFlags flags =>
    simp only [Machine.step, Except.ok.injEq] at hs
    subst hs
    exact hc

theorem Reachable.callInv {m : Machine} (h : Reachable m) : CallInv m.state := by
  induction h with
  | init => exact ⟨nofun, List.nodup_nil, nofun⟩
  | step e hr _ hs ih => exact ih.step hr.machineInv.inv hr.postInv hs

theorem Interleaved.callInv {m : Machine} {vmcs : Nat → Vmcs} {sys : System} (h : Reachable m)
    (hslot : m.state.lastBreakpoint = none) (hsys : Interleaved ⟨m.state, vmcs, m.started⟩ sys) :
    CallInv sys.state :=
  @Interleaved.of_step CallInv _ _ (SharedInv.of_reachable h hslot) h.callInv
    (fun _ _ _ hs hc _ _ _ hm => hc.step hs.inv hs.posts hm) hsys

/-! ### The log of handler calls only grows -/

theorem Interleaved.trans {sys₀ sys₁ sys : System} (h₁ : Interleaved sys₀ sys₁)
    (h : Interleaved sys₁ sys) : Interleaved sys₀ sys := by
  induction h with
  | refl => exact h₁
  | step p e _ he hep hpc hs ih => exact .step p e ih he hep hpc hs

/-- **A post's handler runs at most once, on its own thread.** From a state the engine
reaches on one processor with the slot empty, over every interleaving of the processors'
exits with post calls made from pre handlers, every invocation of a post's handler ran on
the post's `target_tid`, and no two invocations are of the same post, the record with the
same heap address. -/
theorem interleaved_posts_run_once {m : Machine} {vmcs : Nat → Vmcs} {sys : System}
    (h : Reachable m) (hslot : m.state.lastBreakpoint = none)
    (hsys : Interleaved ⟨m.state, vmcs, m.started⟩ sys) :
    (∀ c ∈ sys.state.calls, c.info.type = .kPost → c.tid = c.info.targetTid) ∧
    ((sys.state.calls.filter fun c => c.info.type == .kPost).map fun c => c.info.object).Nodup := by
  have hc := hsys.callInv h hslot
  exact ⟨hc.owner, hc.once⟩

/-- The pre record at `0x1000` installs, from thread 7's `#BP`, a post at `0x3000`, on the page
of the pre record at `0x3008`. Processor 1 runs thread 8 into it, which is not the owner;
processor 0 takes its MTF exit, then runs thread 7 into it, whose handler runs, and the post
is erased. -/
theorem owner_post_runs_once :
    ((Machine.initial (fun _ => 0x90) (fun _ => false) ⟨true, 0⟩).run
      [.createPreBreakpoint 0x1000 ⟨1, 2⟩, .createPreBreakpoint 0x3008 ⟨3, 0⟩, .start]).elim False
      fun m => Reachable m ∧ m.state.lastBreakpoint = none ∧
        ((⟨m.state, fun _ => ⟨false, ⟨true, 0⟩⟩, m.started⟩ : System).runExits
          [(0, .breakpoint 0x1000 7 0 [(0x3000, [1])]), (0, .monitorTrapFlag),
            (1, .breakpoint 0x3000 8 0 []), (1, .monitorTrapFlag),
            (0, .breakpoint 0x3000 7 0 [])]).elim False fun sys =>
        Interleaved ⟨m.state, fun _ => ⟨false, ⟨true, 0⟩⟩, m.started⟩ sys ∧
        (∀ c ∈ sys.state.calls, c.info.type = .kPost → c.tid = c.info.targetTid) ∧
        ((sys.state.calls.filter fun c => c.info.type == .kPost).map
          fun c => c.info.object).Nodup := by
  have hb : ((Machine.initial (fun _ => 0x90) (fun _ => false) ⟨true, 0⟩).run
      [.createPreBreakpoint 0x1000 ⟨1, 2⟩, .createPreBreakpoint 0x3008 ⟨3, 0⟩, .start]).any
      (fun m => m.state.lastBreakpoint.isNone &&
        ((⟨m.state, fun _ => ⟨false, ⟨true, 0⟩⟩, m.started⟩ : System).runExits
          [(0, .breakpoint 0x1000 7 0 [(0x3000, [1])]), (0, .monitorTrapFlag),
            (1, .breakpoint 0x3000 8 0 []), (1, .monitorTrapFlag),
            (0, .breakpoint 0x3000 7 0 [])]).isSome) = true := by
    decide
  refine Machine.run_any_elim hb fun m hr hp => ?_
  simp only [Bool.and_eq_true, Option.isNone_iff_eq_none, Option.isSome_iff_exists] at hp
  obtain ⟨hslot, sys, hrun⟩ := hp
  have hsys := Interleaved.runExits .refl hrun
  rw [hrun]
  exact ⟨hr, hslot, hsys, interleaved_posts_run_once hr hslot hsys⟩

/-! ### Post delivery over every interleaving -/

end DdiMon
