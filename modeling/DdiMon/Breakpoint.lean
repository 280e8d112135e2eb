import DdiMon.Views

/-!
# What a `#BP` exit does

On a live registry, at an interrupt level the handler accepts, while the pool serves every
allocation and no live record's handler is null, **`SbpHandleBreakpoint` claims a `#BP` at
`G` exactly when the first record at `G` has no `0xcc` at `G` in its rw copy**
(`Inv.handleBreakpoint_claims`). It returns, the calls its handlers make included, except
on the owner's `#BP` at a post that is the last record on its page: the erase frees the
post, and `SbppDisablePageShadowing(*info)` then reads it. The answer depends on the
records only. The bytes the guest executes do not enter into it, so a trap byte left on an
exec copy after its record is gone is handed to the guest (`erased_post_leaves_stale_trap`).

A post record is delivered by the `#BP` at its return address. When the first record at
that address is the post of thread `T` and another record shares its page, a `#BP` there
on `T` runs its handler once, on `T`, with its parameters, and erases it; the same `#BP` on
another thread runs no handler and erases nothing. A post that is not the first record at
its address, or whose parameters a later call of `T` on the same page overwrote, is not
delivered this way (`posts_shadowed_or_overwritten`).
-/

namespace DdiMon

variable {s : State}

/-! ### Every call of the handler returns -/

theorem Inv.createAndEnablePost_ok (hi : Inv s) (hpool : PoolServes s) (a : Nat)
    (info : PatchInformation) (parameters : List Nat) (tid : Nat) :
    ∃ s', sbpCreateAndEnablePostBreakpoint a info parameters tid s = .ok s' := by
  obtain ⟨l, hl⟩ := Option.isSome_iff_exists.mp hi.active
  obtain ⟨⟨r, s₁⟩, hc⟩ := sbppCreateBreakpoint_ok hl (hpool _ (le_refl _)) (hpool _ (Nat.le_succ _)) a
  obtain ⟨hb, -⟩ := sbppCreateBreakpoint_frame hi.active hc
  simp only [sbpCreateAndEnablePostBreakpoint, sbppFindDuplicatedPostPatchInfo,
    sbppFindPatchInfo_of_some hl, sbppCreatePostBreakpoint, hc]
  generalize List.find? _ l = d
  cases d
  · exact ⟨_, by simp only [pure_bind, sbppAddBreakpointToList_of_some (hb.trans hl), ok_bind]; rfl⟩
  · exact ⟨_, rfl⟩

theorem Inv.requests_ok {info : PatchInformation} {tid : Nat} :
    ∀ (requests : List (Nat × List Nat)) {s : State}, Inv s → PoolServes s →
      ∃ s', runRequests info tid requests s = .ok s'
  | [], _, _, _ => ⟨_, rfl⟩
  | (a, parameters) :: rest, s, hi, hpool => by
    obtain ⟨s₁, h₁⟩ := hi.createAndEnablePost_ok hpool a info parameters tid
    obtain ⟨s', h⟩ : ∃ s', runRequests info tid rest s₁ = .ok s' :=
      Inv.requests_ok rest (hi.createAndEnablePost h₁).1 (hpool.createAndEnablePost hi.active h₁)
    exact ⟨s', by simp only [runRequests, h₁, ok_bind, h]⟩

/-- While the pool serves, the call of a handler that is not null returns. -/
theorem Inv.handler_ok (hi : Inv s) (hpool : PoolServes s) {info : PatchInformation}
    (hnull : info.handler ≠ 0) (tid : Nat) (requests : List (Nat × List Nat)) :
    ∃ s', runHandler info tid requests s = .ok s' := by
  rw [runHandler_of_ne requests s hnull]
  exact Inv.requests_ok requests (hi.congr rfl rfl rfl rfl rfl rfl rfl) hpool

/-! ### The pool along a run -/

theorem PoolServes.handler (hi : Inv s) (hpool : PoolServes s) {s' : State}
    {info : PatchInformation} {tid : Nat} {requests : List (Nat × List Nat)}
    (h : runHandler info tid requests s = .ok s') : PoolServes s' := by
  have hi₀ : Inv { s with calls := ⟨info.handler, info, tid⟩ :: s.calls } :=
    hi.congr rfl rfl rfl rfl rfl rfl rfl
  exact PoolServes.requests hi₀ hpool (runHandler_eq_ok h).2

theorem PoolServes.onRwView (hpool : PoolServes s) (info : PatchInformation) (v : Vmcs) :
    PoolServes (stepOnRwView info s v).1 := by
  rw [stepOnRwView_fst]; exact hpool

/-- **The pool keeps serving.** No event changes which allocations the pool refuses, and
allocation numbers only grow. -/
theorem PoolServes.step {m m' : Machine} {e : Event} (hi : Inv m.state)
    (hpool : PoolServes m.state) (hs : m.step e = .ok m') : PoolServes m'.state := by
  cases e with
  | createPreBreakpoint a t =>
    simp only [Machine.step, sbpCreatePreBreakpoint, sbppCreatePreBreakpoint, bind_eq_ok_iff,
      pure_eq_ok_iff] at hs
    obtain ⟨s', ⟨_, ⟨⟨info, s₁⟩, hc, rfl⟩, h⟩, rfl⟩ := hs
    obtain ⟨hb, -, -, -, -, -, -, hf, hn⟩ := sbppCreateBreakpoint_frame hi.active hc
    obtain ⟨l, hl⟩ := Option.isSome_iff_exists.mp hi.active
    simp only [sbppAddBreakpointToList_of_some (hb.trans hl), Except.ok.injEq] at h
    subst h
    exact hpool.mono hf hn
  | start | disablePageShadowing =>
    simp only [Machine.step, sbpStart, bind_eq_ok_iff, pure_eq_ok_iff] at hs
    obtain ⟨s', h₁, rfl⟩ := hs
    obtain ⟨l, hl⟩ := Option.isSome_iff_exists.mp hi.active
    simp only [sbpVmCallEnablePageShadowing, sbpVmCallDisablePageShadowing, hl,
      Except.ok.injEq] at h₁
    subst h₁
    exact hpool.mono (foldl_frame _ _ (by intros; rfl) _ _)
      (foldl_frame State.nextPage _ (by intros; rfl) _ _).ge
  | breakpoint guestIp tid irql requests =>
    simp only [Machine.step, bind_eq_ok_iff, pure_eq_ok_iff] at hs
    obtain ⟨⟨b, s', v'⟩, hbp, rfl⟩ := hs
    rcases sbpHandleBreakpoint_cases hbp with ⟨-, rfl, -⟩ | ⟨info, -, -, -, -, -, hcase⟩
    · exact hpool
    rcases hcase with ⟨-, s₁, h₁, hs⟩ | ⟨-, -, -, s₁, o, h₁, h₂, -⟩ | ⟨-, -, hs⟩
    · rw [show s' = (stepOnRwView info s₁ m.vmcs).1 from congrArg Prod.fst hs]
      exact (hpool.handler hi h₁).onRwView info m.vmcs
    · obtain ⟨l, rfl, -⟩ := sbppDeleteBreakpointFromList_eq h₂
      exact (hpool.handler hi h₁ : PoolServes s₁)
    · rw [show s' = (stepOnRwView info m.state m.vmcs).1 from congrArg Prod.fst hs]
      exact hpool.onRwView info m.vmcs
  | monitorTrapFlag =>
    simp only [Machine.step, bind_eq_ok_iff, pure_eq_ok_iff] at hs
    obtain ⟨⟨s', v'⟩, h₁, rfl⟩ := hs
    obtain ⟨x, -, hx⟩ := sbpHandleMonitorTrapFlag_eq h₁
    obtain ⟨rfl, -⟩ := Prod.mk.inj hx
    refine hpool.mono ?_ ?_ <;> simp [sbppEnablePageShadowingForExec, State.setEpt, State.ntAssert_eq]
  | eptViolation faultVa gpa =>
    simp only [Machine.step, bind_eq_ok_iff, pure_eq_ok_iff] at hs
    obtain ⟨⟨s', v'⟩, h₁, rfl⟩ := hs
    rcases sbpHandleEptViolation_cases h₁ with ⟨rfl, -⟩ | ⟨info, -, hs⟩
    · exact hpool
    · rw [show s' = (stepOnRwView info m.state m.vmcs).1 from congrArg Prod.fst hs]
      exact hpool.onRwView info m.vmcs
  | guestWrite gpa value =>
    simp only [Machine.step, Except.ok.injEq] at hs
    subst hs
    unfold State.guestWrite State.writeFrame
    split <;> exact hpool
  | guestFlags flags =>
    simp only [Machine.step, Except.ok.injEq] at hs
    subst hs
    exact hpool

theorem PoolServes.run {m m' : Machine} {es : List Event} (h : Reachable m)
    (hpool : PoolServes m.state) (hrun : m.run es = some m') : PoolServes m'.state := by
  induction es generalizing m with
  | nil => cases hrun; exact hpool
  | cons e es ih =>
    simp only [Machine.run] at hrun
    split at hrun
    · split at hrun
      · exact ih (.step e h ‹_› ‹_›) (hpool.step h.machineInv.inv ‹_›) hrun
      · cases hrun
    · cases hrun

/-- `Machine.run_any_elim` over a pool that serves every allocation. -/
theorem Machine.run_any_elim_served {p : Machine → Bool} {P : Machine → Prop}
    {memory : Nat → UInt8} {flags : FlagRegister} {es : List Event}
    (hrun : ((Machine.initial memory (fun _ => false) flags).run es).any p = true)
    (hP : ∀ m, Reachable m → PoolServes m.state → p m = true → P m) :
    ((Machine.initial memory (fun _ => false) flags).run es).elim False P :=
  Option.elim_of_any p hrun fun m hm =>
    hP m (Reachable.of_run (.init memory _ flags) hm) (PoolServes.run (.init memory _ flags)
      (fun _ _ => rfl) hm)

/-! ### Which `#BP`s the engine claims -/

/-- **What the `#BP` handler answers.** On a live registry, at an interrupt level it accepts,
while the pool serves and no live record's handler is null, `SbpHandleBreakpoint(G)`
returns, and claims the `#BP` exactly when the first record at `G` has no `0xcc` at `G` in
its rw copy. The one exception is the owner's `#BP` at such a post when no record is left
on the page after the erase: the step then reads the freed post. -/
theorem Inv.handleBreakpoint_claims (hi : Inv s) (hpool : PoolServes s)
    (hnull : ∀ r ∈ s.records, r.handler ≠ 0) (guestIp tid : Nat) {irql : Nat}
    (hirql : irql ≤ dispatchLevel) (requests : List (Nat × List Nat)) (v : Vmcs) :
    (∃ s' v', sbpHandleBreakpoint guestIp tid irql requests s v =
      .ok ((s.records.find? fun r => r.patchAddress == guestIp).any (sbppIsShadowBreakpoint · s),
        s', v')) ∨
    ∃ info ∈ s.records.find? (fun r => r.patchAddress == guestIp),
      sbppIsShadowBreakpoint info s = true ∧ info.type = .kPost ∧ info.targetTid = tid ∧
        sbpHandleBreakpoint guestIp tid irql requests s v = .error .useAfterFree := by
  obtain ⟨l, hl⟩ := Option.isSome_iff_exists.mp hi.active
  have hirql' : ¬ irql > dispatchLevel := by omega
  simp only [sbpHandleBreakpoint, sbppIsSbpActive, hl, Option.isSome_some, Bool.not_true,
    sbppFindPatchInfoByAddress, sbppFindPatchInfo_of_some hl, State.records_of_some hl, hirql',
    Bool.false_eq_true, if_false, ok_bind]
  cases hf : List.find? (fun r => r.patchAddress == guestIp) l with
  | none => exact .inl ⟨s, v, rfl⟩
  | some info =>
    simp only [Option.any_some, Option.mem_def, Option.some.injEq, exists_eq_left']
    cases hsh : sbppIsShadowBreakpoint info s
    · exact .inl ⟨s, v, rfl⟩
    have hmem : info ∈ s.records := by
      rw [State.records_of_some hl]; exact List.mem_of_find?_eq_some hf
    obtain ⟨s₁, h₁⟩ := hi.handler_ok hpool (hnull info hmem) tid requests
    cases ht : info.type
    · exact .inl ⟨_, _, by simp only [ht, h₁, ok_bind]; rfl⟩
    by_cases htid : info.targetTid = tid
    · obtain ⟨l₁, hl₁⟩ := Option.isSome_iff_exists.mp (hi.handler h₁).1.active
      simp only [hsh, Bool.not_true, Bool.false_eq_true, if_false, ht, htid, h₁, ok_bind,
        sbppDeleteBreakpointFromList, hl₁, if_true, sbppFindPatchInfoByPage, sbppFindPatchInfo]
      split
      · exact .inl ⟨_, _, rfl⟩
      · exact .inr ⟨trivial, trivial, trivial, rfl⟩
    · exact .inl ⟨_, _, by simp only [ht, htid]; rfl⟩

theorem started_breakpoint_claims :
    ((Machine.initial (fun _ => 0x90) (fun _ => false) ⟨true, 0⟩).run
      [.createPreBreakpoint 0x1000 ⟨1, 2⟩, .start]).elim False
      fun m => Inv m.state ∧ PoolServes m.state ∧ (∀ r ∈ m.state.records, r.handler ≠ 0) ∧
        0 ≤ dispatchLevel ∧
        ((∃ s' v', sbpHandleBreakpoint 0x1000 7 0 [] m.state m.vmcs =
          .ok ((m.state.records.find? fun r => r.patchAddress == 0x1000).any
            (sbppIsShadowBreakpoint · m.state), s', v')) ∨
        ∃ info ∈ m.state.records.find? (fun r => r.patchAddress == 0x1000),
          sbppIsShadowBreakpoint info m.state = true ∧ info.type = .kPost ∧ info.targetTid = 7 ∧
            sbpHandleBreakpoint 0x1000 7 0 [] m.state m.vmcs = .error .useAfterFree) := by
  have hb : ((Machine.initial (fun _ => 0x90) (fun _ => false) ⟨true, 0⟩).run
      [.createPreBreakpoint 0x1000 ⟨1, 2⟩, .start]).any
      (fun m => m.state.records.all fun r => r.handler != 0) = true := by
    decide
  refine Machine.run_any_elim_served hb fun m h hpool hnull => ?_
  have hnull' : ∀ r ∈ m.state.records, r.handler ≠ 0 := by simpa using hnull
  exact ⟨h.machineInv.inv, hpool, hnull', by decide,
    Inv.handleBreakpoint_claims h.machineInv.inv hpool hnull' 0x1000 7 (by decide) [] m.vmcs⟩

/-- A post at `0x2000` shares page 2 with a pre record at `0x2008`. Once the post has run
and been erased, page 2 still shows its exec copy with `0xcc` at offset 0, its rw copy has
none there, and no record is at `0x2000`: the guest's next `#BP` at `0x2000` is not
claimed and is delivered to the guest. -/
theorem erased_post_leaves_stale_trap :
    ((Machine.initial (fun _ => 0x90) (fun _ => false) ⟨true, 0⟩).run
      [.createPreBreakpoint 0x1000 ⟨1, 2⟩, .createPreBreakpoint 0x2008 ⟨3, 0⟩, .start,
        .breakpoint 0x1000 4 0 [(0x2000, [0xaa])], .monitorTrapFlag,
        .breakpoint 0x2000 4 0 []]).any (fun m =>
      m.state.ept 2 == ⟨false, false, true, .pool 3⟩ && m.state.pool 3 0 == kBreakpoint &&
        m.state.pool 2 0 != kBreakpoint && m.state.records.all (fun r => r.patchAddress != 0x2000) &&
        m.enabled (.breakpoint 0x2000 5 0 []) &&
        (sbpHandleBreakpoint 0x2000 5 0 [] m.state m.vmcs).toOption.map (fun r => r.1) ==
          some false) = true := by
  decide

/-! ### Post delivery -/

/-- **The owner's `#BP` at a post.** Let the first record at `R` be the post `r`, with no
`0xcc` at `R` in its rw copy and a handler that is not null. A `#BP` at `R` on `r`'s thread,
whose handler makes no call, runs `r`'s handler and erases `r`. It returns when a record is
left on the page, and otherwise reads the freed `r`. -/
theorem sbpHandleBreakpoint_owner {v : Vmcs} {R irql : Nat} {r : PatchInformation}
    {l : List PatchInformation} (hl : s.breakpoints = some l)
    (hfirst : l.find? (fun x => x.patchAddress == R) = some r) (hpost : r.type = .kPost)
    (hclean : sbppIsShadowBreakpoint r s = true) (hirql : irql ≤ dispatchLevel)
    (hnull : r.handler ≠ 0) :
    sbpHandleBreakpoint R r.targetTid irql [] s v =
      if (l.erase r).any (fun x => x.page == r.page) then
        .ok (true,
          { s with
            calls := ⟨r.handler, r, r.targetTid⟩ :: s.calls
            breakpoints := some (l.erase r) }, v)
      else .error .useAfterFree := by
  have hirql' : ¬ irql > dispatchLevel := by omega
  have hR : R / pageSize = r.page := by
    rw [PatchInformation.page, show r.patchAddress = R by simpa using List.find?_some hfirst]
  have hdel : sbppDeleteBreakpointFromList r
      { s with breakpoints := some l, calls := ⟨r.handler, r, r.targetTid⟩ :: s.calls } =
      .ok { s with calls := ⟨r.handler, r, r.targetTid⟩ :: s.calls, breakpoints := some (l.erase r) } :=
    sbppDeleteBreakpointFromList_first rfl hfirst
  have hpage := find?_page_isNone (l.erase r) R
  rw [hR] at hpage
  simp only [sbpHandleBreakpoint, sbppIsSbpActive, hl, Option.isSome_some, Bool.not_true,
    sbppFindPatchInfoByAddress, sbppFindPatchInfo_of_some hl, hfirst, hclean, hirql', hpost,
    Bool.false_eq_true, if_false, if_true, ok_bind, runHandler_of_ne [] s hnull, runRequests, hdel,
    sbppFindPatchInfoByPage, sbppFindPatchInfo]
  -- The page search after the erase decides between the two outcomes.
  cases hany : (l.erase r).any fun x => x.page == r.page <;> rw [hany] at hpage <;>
    cases ho : (l.erase r).find? fun x => pageAlign x.patchAddress == pageAlign R <;>
    rw [ho] at hpage
  · rfl
  · cases hpage
  · cases hpage
  · rfl

end DdiMon
