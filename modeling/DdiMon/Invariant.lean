import DdiMon.Machine

/-!
# The engine invariant

`Inv` is what holds of the shared state in every reachable machine:

* every live record's `pa_base_for_*` name its two shadow pages, which differ and are
  already allocated;
* records on one page share one shadow pair (`shared`), and each pool page of a live record
  was copied from that record's page (`origin`). So the pairs of different pages are
  disjoint;
* the exec copy holds `0xcc` at every live record's offset (`traps`);
* each EPT entry is the identity, or the exec copy of a live record on its page
  execute-only, or that record's rw copy with every access (`EptShape`);
* the slot `g_sbpp_last_breakpoint` holds a live record.

Every operation of the engine preserves `Inv`. The operations that erase a record need
an empty slot, and the exit handlers only erase while the monitor trap flag is clear.
-/

namespace DdiMon

/-! ### EPT entries the engine builds -/

/-- The entry `e` of page `p` is one the engine builds from the live records `l`: the
identity, the exec copy of a record on `p` execute-only, or its rw copy with every access. -/
def EptShape (l : List PatchInformation) (p : Nat) (e : EptEntry) : Prop :=
  e = .identity p ∨ ∃ r ∈ l, r.page = p ∧
    (e = ⟨false, false, true, r.paBaseForExec⟩ ∨ e = ⟨true, true, true, r.paBaseForRw⟩)

theorem EptShape.executeAccess {l : List PatchInformation} {p : Nat} {e : EptEntry}
    (h : EptShape l p e) : e.executeAccess = true := by
  rcases h with rfl | ⟨r, -, -, rfl | rfl⟩ <;> rfl

/-- An entry stays well shaped when every record on its page has a sibling with the same
frames in the new list. -/
theorem EptShape.transfer {l l' : List PatchInformation} {p : Nat} {e : EptEntry}
    (h : EptShape l p e)
    (hl : ∀ r ∈ l, r.page = p → ∃ r' ∈ l', r'.page = p ∧ r'.paBaseForExec = r.paBaseForExec ∧
      r'.paBaseForRw = r.paBaseForRw) : EptShape l' p e := by
  rcases h with h | ⟨r, hr, hp, he⟩
  · exact .inl h
  · obtain ⟨r', hr', hp', hx, hrw⟩ := hl r hr hp
    exact .inr ⟨r', hr', hp', hx ▸ hrw ▸ he⟩

theorem EptShape.mono {l l' : List PatchInformation} {p : Nat} {e : EptEntry}
    (h : EptShape l p e) (hl : ∀ r ∈ l, r ∈ l') : EptShape l' p e :=
  h.transfer fun r hr hp => ⟨r, hl r hr, hp, rfl, rfl⟩

/-- An entry stays well shaped when the records on its page survive. -/
theorem EptShape.mono' {l l' : List PatchInformation} {p : Nat} {e : EptEntry}
    (h : EptShape l p e) (hl : ∀ r ∈ l, r.page = p → r ∈ l') : EptShape l' p e :=
  h.transfer fun r hr hp => ⟨r, hl r hr hp, hp, rfl, rfl⟩

/-! ### Live records -/

/-- `x` is one of the records `l` up to its parameters. `g_sbpp_last_breakpoint` keeps a
copy of the record it points to, and a duplicate post may rewrite the parameters since. -/
def Live (l : List PatchInformation) (x : PatchInformation) : Prop :=
  ∃ r ∈ l, x = { r with parameters := x.parameters }

/-- Every record of `l` is in `l'` up to its parameters. -/
def Grows (l l' : List PatchInformation) : Prop :=
  ∀ r ∈ l, ∃ ps, { r with parameters := ps } ∈ l'

theorem Live.of_mem {l : List PatchInformation} {x : PatchInformation} (h : x ∈ l) : Live l x :=
  ⟨x, h, rfl⟩

theorem Live.grow {l l' : List PatchInformation} {x : PatchInformation} (hx : Live l x)
    (hg : Grows l l') : Live l' x := by
  obtain ⟨r, hr, hx⟩ := hx
  obtain ⟨ps, h⟩ := hg r hr
  exact ⟨_, h, hx⟩

theorem Grows.refl (l : List PatchInformation) : Grows l l := fun r hr => ⟨r.parameters, hr⟩

theorem Grows.trans {l₁ l₂ l₃ : List PatchInformation} (h₁ : Grows l₁ l₂) (h₂ : Grows l₂ l₃) :
    Grows l₁ l₃ := by
  intro r hr
  obtain ⟨ps, h⟩ := h₁ r hr
  obtain ⟨ps', h'⟩ := h₂ _ h
  exact ⟨ps', h'⟩

theorem Grows.append (l l' : List PatchInformation) : Grows l (l ++ l') :=
  fun r hr => ⟨r.parameters, List.mem_append_left _ hr⟩

/-! ### The invariant -/

/-- The invariant of the engine's shared state. -/
structure Inv (s : State) : Prop where
  active : s.breakpoints.isSome
  frames : ∀ r ∈ s.records, r.paBaseForRw = .pool r.shadowPageBaseForRw ∧
    r.paBaseForExec = .pool r.shadowPageBaseForExec
  pair_ne : ∀ r ∈ s.records, r.shadowPageBaseForRw ≠ r.shadowPageBaseForExec
  allocated : ∀ r ∈ s.records, r.shadowPageBaseForRw < s.nextPage ∧
    r.shadowPageBaseForExec < s.nextPage
  shared : ∀ r ∈ s.records, ∀ r' ∈ s.records, r.page = r'.page →
    r.shadowPageBaseForRw = r'.shadowPageBaseForRw ∧
      r.shadowPageBaseForExec = r'.shadowPageBaseForExec
  origin : ∀ r ∈ s.records, s.copiedFrom r.shadowPageBaseForRw = r.page ∧
    s.copiedFrom r.shadowPageBaseForExec = r.page
  traps : ∀ r ∈ s.records, s.pool r.shadowPageBaseForExec (byteOffset r.patchAddress) = kBreakpoint
  pristine : ∀ r ∈ s.records, ∀ o, s.pool r.shadowPageBaseForExec o = s.snapshot r.shadowPageBaseForExec o ∨
    s.pool r.shadowPageBaseForExec o = kBreakpoint
  twins : ∀ r ∈ s.records, s.snapshot r.shadowPageBaseForExec = s.snapshot r.shadowPageBaseForRw
  ept : ∀ p, EptShape s.records p (s.ept p)
  slot : ∀ x, s.lastBreakpoint = some x → Live s.records x

/-- `Inv` reads only the registry, the pool, the two ghost records of the copies, the
allocator, the slot and the EPT. -/
theorem Inv.congr {s s' : State} (hi : Inv s) (hb : s'.breakpoints = s.breakpoints)
    (hp : s'.pool = s.pool) (hc : s'.copiedFrom = s.copiedFrom) (hs : s'.snapshot = s.snapshot)
    (hn : s'.nextPage = s.nextPage) (hl : s'.lastBreakpoint = s.lastBreakpoint)
    (he : s'.ept = s.ept) : Inv s' := by
  have hr : s'.records = s.records := by unfold State.records; rw [hb]
  exact ⟨hb ▸ hi.active, hr ▸ hi.frames, hr ▸ hi.pair_ne, hr ▸ hn ▸ hi.allocated,
    hr ▸ hi.shared, hr ▸ hc ▸ hi.origin, hr ▸ hp ▸ hi.traps, hr ▸ hp ▸ hs ▸ hi.pristine,
    hr ▸ hs ▸ hi.twins, hr ▸ he ▸ hi.ept, hr ▸ hl ▸ hi.slot⟩

/-- Two records on one page have the same frames. -/
theorem Inv.frames_eq {s : State} (hi : Inv s) {r r' : PatchInformation} (hr : r ∈ s.records)
    (hr' : r' ∈ s.records) (hp : r.page = r'.page) :
    r.paBaseForExec = r'.paBaseForExec ∧ r.paBaseForRw = r'.paBaseForRw := by
  obtain ⟨hrw, hx⟩ := hi.shared r hr r' hr' hp
  rw [(hi.frames r hr).1, (hi.frames r hr).2, (hi.frames r' hr').1, (hi.frames r' hr').2, hrw, hx]
  exact ⟨rfl, rfl⟩

/-- Pool pages of records on different pages differ: each remembers its page. -/
theorem Inv.pool_ne {s : State} (hi : Inv s) {r r' : PatchInformation} (hr : r ∈ s.records)
    (hr' : r' ∈ s.records) (hp : r.page ≠ r'.page) :
    r.shadowPageBaseForRw ≠ r'.shadowPageBaseForRw ∧ r.shadowPageBaseForRw ≠ r'.shadowPageBaseForExec ∧
      r.shadowPageBaseForExec ≠ r'.shadowPageBaseForRw ∧
        r.shadowPageBaseForExec ≠ r'.shadowPageBaseForExec := by
  have ho := hi.origin r hr
  have ho' := hi.origin r' hr'
  refine ⟨?_, ?_, ?_, ?_⟩ <;> intro h <;> apply hp <;> simp_all

/-- No live record's exec copy is another live record's rw copy. -/
theorem Inv.exec_ne_rw {s : State} (hi : Inv s) {r r' : PatchInformation} (hr : r ∈ s.records)
    (hr' : r' ∈ s.records) : r.shadowPageBaseForExec ≠ r'.shadowPageBaseForRw := by
  by_cases hp : r.page = r'.page
  · rw [(hi.shared r hr r' hr' hp).2]; exact (hi.pair_ne r' hr').symm
  · exact (hi.pool_ne hr hr' hp).2.2.1

/-! ### The EPT operations and the slot -/

theorem Inv.setEpt {s : State} (hi : Inv s) {p : Nat} {e : EptEntry}
    (he : EptShape s.records p e) : Inv (s.setEpt p e) := by
  refine ⟨hi.active, hi.frames, hi.pair_ne, hi.allocated, hi.shared, hi.origin, hi.traps,
    hi.pristine, hi.twins, fun q => ?_, hi.slot⟩
  by_cases hq : q = p
  · subst hq; simpa [State.setEpt] using he
  · simpa [State.setEpt, hq] using hi.ept q

theorem Inv.enableExec {s : State} (hi : Inv s) {x : PatchInformation} (hx : Live s.records x) :
    Inv (sbppEnablePageShadowingForExec x s) := by
  obtain ⟨r, hr, hx⟩ := hx
  rw [hx]
  refine hi.setEpt (.inr ⟨r, hr, rfl, .inl ?_⟩)
  rw [← (hi.ept r.page).executeAccess]
  rfl

theorem Inv.enableRw {s : State} (hi : Inv s) {x : PatchInformation} (hx : Live s.records x) :
    Inv (sbppEnablePageShadowingForRW x s) := by
  obtain ⟨r, hr, hx⟩ := hx
  rw [hx]
  refine hi.setEpt (.inr ⟨r, hr, rfl, .inr ?_⟩)
  rw [← (hi.ept r.page).executeAccess]
  rfl

/-- Mapping a page back to itself is always allowed. -/
theorem Inv.disable {s : State} (hi : Inv s) (info : PatchInformation) :
    Inv (sbppDisablePageShadowing info s) :=
  hi.setEpt (.inl rfl)

theorem Inv.save {s : State} (hi : Inv s) {x : PatchInformation} (hx : Live s.records x) :
    Inv (sbppSaveLastPatchInfo x s) := by
  rw [sbppSaveLastPatchInfo, State.ntAssert_eq]
  refine ⟨hi.active, hi.frames, hi.pair_ne, hi.allocated, hi.shared, hi.origin, hi.traps,
    hi.pristine, hi.twins, hi.ept, ?_⟩
  rintro x ⟨⟩
  exact hx

theorem sbppSetMonitorTrapFlag_fst (enable : Bool) (s : State) (v : Vmcs) :
    (sbppSetMonitorTrapFlag enable s v).1 =
      if enable then { s with previouseGuestInterruptFlag := v.guestRflags.intf } else s := by
  cases enable <;> rfl

theorem Inv.setMonitorTrapFlag {s : State} (hi : Inv s) (enable : Bool) (v : Vmcs) :
    Inv (sbppSetMonitorTrapFlag enable s v).1 := by
  rw [sbppSetMonitorTrapFlag_fst]
  split
  · exact hi.congr rfl rfl rfl rfl rfl rfl rfl
  · exact hi

theorem Inv.stepOnRwView {s : State} (hi : Inv s) {x : PatchInformation} (hx : Live s.records x)
    (v : Vmcs) : Inv (stepOnRwView x s v).1 :=
  ((hi.enableRw hx).setMonitorTrapFlag true v).save hx

/-! ### Building records -/

/-- **Inversion of `sbppCreateBreakpoint`.** The record gets the shadow pair of a live
record on its page, or, when there is none and the pool serves both allocations, two
freshly allocated pages. -/
theorem sbppCreateBreakpoint_cases {s s' : State} {l : List PatchInformation} {a : Nat}
    {info : PatchInformation} (hl : s.breakpoints = some l)
    (h : sbppCreateBreakpoint a s = .ok (info, s')) :
    (∃ r ∈ l, r.page = a / pageSize ∧
        info = .basic s.nextObject a r.shadowPageBaseForRw r.shadowPageBaseForExec ∧
        s' = sbppEmbedBreakpoint r.shadowPageBaseForExec (byteOffset a)
          { s with nextObject := s.nextObject + 1 }) ∨
      ((∀ r ∈ l, r.page ≠ a / pageSize) ∧
        s.poolFails s.nextPage = false ∧ s.poolFails (s.nextPage + 1) = false ∧
        info = .basic s.nextObject a s.nextPage (s.nextPage + 1) ∧
        s' = sbppEmbedBreakpoint (s.nextPage + 1) (byteOffset a)
          { s.copyShadowPages a with nextObject := s.nextObject + 1 }) := by
  simp only [sbppCreateBreakpoint, sbppFindPatchInfoByPage, sbppFindPatchInfo_of_some hl] at h
  cases hf : l.find? fun info => pageAlign info.patchAddress == pageAlign a with
  | some r =>
    simp only [hf] at h
    cases h
    exact .inl ⟨r, (find?_page_eq_some hf).1, (find?_page_eq_some hf).2, rfl, rfl⟩
  | none =>
    cases ha : s.allocateShadowPages a with
    | error e => simp only [hf, ha] at h; cases h
    | ok s₁ =>
      obtain ⟨h0, h1, rfl⟩ := State.allocateShadowPages_eq_ok ha
      simp only [hf, ha] at h
      cases h
      exact .inr ⟨find?_page_eq_none hf, h0, h1, rfl, rfl⟩

/-- **A fresh shadow pair.** On a page that holds no live record, the record
`SbppCreateBreakpoint` returns gets the next two pool pages: the rw copy holds the bytes of
the page of `a`, and the exec copy holds them too, with `0xcc` at the offset of `a`. -/
theorem sbppCreateBreakpoint_fresh {s s' : State} {l : List PatchInformation} {a : Nat}
    {info : PatchInformation} (hl : s.breakpoints = some l)
    (hnone : ∀ r ∈ l, r.page ≠ a / pageSize) (h : sbppCreateBreakpoint a s = .ok (info, s')) :
    info.shadowPageBaseForRw = s.nextPage ∧ info.shadowPageBaseForExec = s.nextPage + 1 ∧
      ∀ o, s'.pool info.shadowPageBaseForRw o = s.memory (pageAlign a + o) ∧
        s'.pool info.shadowPageBaseForExec o =
          if o = byteOffset a then kBreakpoint else s.memory (pageAlign a + o) := by
  rcases sbppCreateBreakpoint_cases hl h with ⟨r, hr, hp, -⟩ | ⟨-, -, -, rfl, rfl⟩
  · exact absurd hp (hnone r hr)
  refine ⟨rfl, rfl, fun o => ⟨?_, ?_⟩⟩ <;>
    simp [sbppEmbedBreakpoint, State.copyShadowPages, PatchInformation.basic, Function.update_apply]

theorem Inv.copyShadowPages {s : State} (hi : Inv s) (a : Nat) : Inv (s.copyShadowPages a) := by
  have fresh : ∀ r ∈ s.records, ∀ k, k = s.nextPage ∨ k = s.nextPage + 1 →
      k ≠ r.shadowPageBaseForRw ∧ k ≠ r.shadowPageBaseForExec := by
    intro r hr k hk
    have := hi.allocated r hr
    omega
  refine ⟨hi.active, hi.frames, hi.pair_ne, fun r hr => ?_, hi.shared, fun r hr => ?_,
    fun r hr => ?_, fun r hr o => ?_, fun r hr => ?_, hi.ept, hi.slot⟩
  · have := hi.allocated r hr
    simp only [State.copyShadowPages]
    omega
  all_goals
    have h0 := fresh r hr _ (.inl rfl)
    have h1 := fresh r hr _ (.inr rfl)
  · simpa [State.copyShadowPages, Function.update_apply, Ne.symm h0.1, Ne.symm h0.2,
      Ne.symm h1.1, Ne.symm h1.2] using hi.origin r hr
  · simpa [State.copyShadowPages, Function.update_apply, Ne.symm h0.2, Ne.symm h1.2]
      using hi.traps r hr
  · simpa [State.copyShadowPages, Function.update_apply, Ne.symm h0.2, Ne.symm h1.2]
      using hi.pristine r hr o
  · simpa [State.copyShadowPages, Function.update_apply, Ne.symm h0.1, Ne.symm h0.2,
      Ne.symm h1.1, Ne.symm h1.2] using hi.twins r hr

/-- Adding a record whose shadow pair is allocated, copied from its page, and shared with
every live record on its page, after embedding its trap. -/
theorem Inv.addRecord {s : State} (hi : Inv s) {info : PatchInformation}
    (hframes : info.paBaseForRw = .pool info.shadowPageBaseForRw ∧
      info.paBaseForExec = .pool info.shadowPageBaseForExec)
    (hne : info.shadowPageBaseForRw ≠ info.shadowPageBaseForExec)
    (halloc : info.shadowPageBaseForRw < s.nextPage ∧ info.shadowPageBaseForExec < s.nextPage)
    (horigin : s.copiedFrom info.shadowPageBaseForRw = info.page ∧
      s.copiedFrom info.shadowPageBaseForExec = info.page)
    (hshared : ∀ r ∈ s.records, r.page = info.page →
      r.shadowPageBaseForRw = info.shadowPageBaseForRw ∧
        r.shadowPageBaseForExec = info.shadowPageBaseForExec)
    (hpristine : ∀ o, s.pool info.shadowPageBaseForExec o = s.snapshot info.shadowPageBaseForExec o ∨
      s.pool info.shadowPageBaseForExec o = kBreakpoint)
    (htwins : s.snapshot info.shadowPageBaseForExec = s.snapshot info.shadowPageBaseForRw) :
    Inv { sbppEmbedBreakpoint info.shadowPageBaseForExec (byteOffset info.patchAddress) s with
      breakpoints := some (s.records ++ [info]) } := by
  have hmem : ∀ r, r ∈ (s.records ++ [info]) ↔ r ∈ s.records ∨ r = info := by simp
  refine ⟨rfl, ?_, ?_, ?_, ?_, ?_, ?_, ?_, ?_, fun p => ?_, ?_⟩ <;>
    simp only [State.records_mk, Option.getD_some, sbppEmbedBreakpoint, hmem]
  · rintro r (hr | rfl); exacts [hi.frames r hr, hframes]
  · rintro r (hr | rfl); exacts [hi.pair_ne r hr, hne]
  · rintro r (hr | rfl); exacts [hi.allocated r hr, halloc]
  · rintro r (hr | rfl) r' (hr' | rfl) hp
    · exact hi.shared r hr r' hr' hp
    · exact hshared r hr hp
    · exact (hshared r' hr' hp.symm).imp Eq.symm Eq.symm
    · exact ⟨rfl, rfl⟩
  · rintro r (hr | rfl); exacts [hi.origin r hr, horigin]
  · rintro r (hr | rfl)
    · exact sbppEmbedBreakpoint_pool_of_eq (hi.traps r hr)
    · exact sbppEmbedBreakpoint_pool_self _ _ _
  · rintro r (hr | rfl) o
    · exact sbppEmbedBreakpoint_pristine _ _ (hi.pristine r hr o)
    · exact sbppEmbedBreakpoint_pristine _ _ (hpristine o)
  · rintro r (hr | rfl); exacts [hi.twins r hr, htwins]
  · exact (hi.ept p).mono fun r hr => List.mem_append_left _ hr
  · exact fun x hx => (hi.slot x hx).grow (Grows.append _ _)

/-- `sbppCreateBreakpoint` keeps the invariant once its record, with any type, handlers,
owner and parameters, is in the registry. -/
theorem Inv.create {s s' : State} (hi : Inv s) {a : Nat} {info : PatchInformation}
    (h : sbppCreateBreakpoint a s = .ok (info, s')) (type : BreakpointType)
    (handler postHandler targetTid : Nat) (parameters : List Nat) :
    Inv { s' with
      breakpoints := some (s.records ++ [{ info with
        type := type, handler := handler, postHandler := postHandler, targetTid := targetTid
        parameters := parameters }]) } := by
  obtain ⟨l, hl⟩ := Option.isSome_iff_exists.mp hi.active
  have hs : s.records = l := State.records_of_some hl
  rcases sbppCreateBreakpoint_cases hl h with ⟨r, hr, hp, rfl, rfl⟩ | ⟨hnone, -, -, rfl, rfl⟩
  · have h₁ : Inv { s with nextObject := s.nextObject + 1 } := hi.congr rfl rfl rfl rfl rfl rfl rfl
    rw [← hs] at hr
    refine Inv.addRecord h₁ ⟨rfl, rfl⟩ (hi.pair_ne r hr) (hi.allocated r hr) ?_ ?_
      (hi.pristine r hr) (hi.twins r hr)
    · simpa [PatchInformation.page, PatchInformation.basic, ← hp] using hi.origin r hr
    · intro r' hr' hp'
      exact hi.shared r' hr' r hr (hp'.trans hp.symm)
  · have h₁ : Inv { s.copyShadowPages a with nextObject := s.nextObject + 1 } :=
      (hi.copyShadowPages a).congr rfl rfl rfl rfl rfl rfl rfl
    refine Inv.addRecord h₁ ⟨rfl, rfl⟩ ?_ ?_ ?_ ?_ (fun o => .inl ?_) ?_
    · simp [PatchInformation.basic]
    · simp [State.copyShadowPages, PatchInformation.basic]
    · simp [State.copyShadowPages, PatchInformation.basic, PatchInformation.page]
    · intro r hr hp
      exact absurd hp (hnone r (by simpa [State.copyShadowPages, hs] using hr))
    all_goals simp [State.copyShadowPages, PatchInformation.basic]

/-- What `sbppCreateBreakpoint` leaves alone. -/
theorem sbppCreateBreakpoint_frame {s s' : State} {a : Nat} {info : PatchInformation}
    (hact : s.breakpoints.isSome) (h : sbppCreateBreakpoint a s = .ok (info, s')) :
    s'.breakpoints = s.breakpoints ∧ s'.lastBreakpoint = s.lastBreakpoint ∧ s'.ept = s.ept ∧
      s'.calls = s.calls ∧ s'.memory = s.memory ∧ info.patchAddress = a ∧
        s'.previouseGuestInterruptFlag = s.previouseGuestInterruptFlag ∧
          s'.poolFails = s.poolFails ∧ s.nextPage ≤ s'.nextPage := by
  obtain ⟨l, hl⟩ := Option.isSome_iff_exists.mp hact
  rcases sbppCreateBreakpoint_cases hl h with ⟨_, _, _, rfl, rfl⟩ | ⟨_, _, _, rfl, rfl⟩
  · exact ⟨rfl, rfl, rfl, rfl, rfl, rfl, rfl, rfl, le_refl _⟩
  · exact ⟨rfl, rfl, rfl, rfl, rfl, rfl, rfl, rfl, Nat.le_add_right _ 2⟩

/-! ### The pool -/

/-- The pool serves every allocation from `nextPage` on. -/
def PoolServes (s : State) : Prop := ∀ k, s.nextPage ≤ k → s.poolFails k = false

theorem PoolServes.mono {s s' : State} (h : PoolServes s) (hf : s'.poolFails = s.poolFails)
    (hn : s.nextPage ≤ s'.nextPage) : PoolServes s' :=
  fun k hk => hf ▸ h k (hn.trans hk)

/-- `sbppCreateBreakpoint` takes at most the next two pool pages. -/
theorem sbppCreateBreakpoint_nextPage {s s' : State} {a : Nat} {info : PatchInformation}
    (hact : s.breakpoints.isSome) (h : sbppCreateBreakpoint a s = .ok (info, s')) :
    s'.nextPage ≤ s.nextPage + 2 := by
  obtain ⟨l, hl⟩ := Option.isSome_iff_exists.mp hact
  rcases sbppCreateBreakpoint_cases hl h with ⟨_, _, _, -, rfl⟩ | ⟨_, _, _, -, rfl⟩
  · exact Nat.le_add_right _ 2
  · exact le_refl _

/-- While the pool serves the next two pages, `sbppCreateBreakpoint` returns. -/
theorem sbppCreateBreakpoint_ok {s : State} {l : List PatchInformation}
    (hl : s.breakpoints = some l) (h0 : s.poolFails s.nextPage = false)
    (h1 : s.poolFails (s.nextPage + 1) = false) (a : Nat) :
    ∃ r, sbppCreateBreakpoint a s = .ok r := by
  have hfree : s.allocateShadowPages a = .ok (s.copyShadowPages a) := by
    simp [State.allocateShadowPages, h0, h1]
  simp only [sbppCreateBreakpoint, sbppFindPatchInfoByPage, sbppFindPatchInfo_of_some hl]
  cases List.find? _ l
  · exact ⟨_, by simp only [ok_bind, hfree]; rfl⟩
  · exact ⟨_, rfl⟩

/-! ### Registration -/

theorem Inv.createPre {s s' : State} (hi : Inv s) {a : Nat} {t : BreakpointTarget}
    (h : sbpCreatePreBreakpoint a t s = .ok s') : Inv s' ∧ s'.lastBreakpoint = s.lastBreakpoint := by
  simp only [sbpCreatePreBreakpoint, sbppCreatePreBreakpoint, bind_eq_ok_iff, pure_eq_ok_iff] at h
  obtain ⟨_, ⟨⟨info, s₁⟩, hc, rfl⟩, h⟩ := h
  obtain ⟨hb, hlast, -⟩ := sbppCreateBreakpoint_frame hi.active hc
  obtain ⟨l, hl⟩ := Option.isSome_iff_exists.mp hi.active
  simp only [sbppAddBreakpointToList_of_some (hb.trans hl), Except.ok.injEq] at h
  subst h
  refine ⟨?_, hlast⟩
  simpa [State.records_of_some hl] using hi.create hc .kPre t.preHandler t.postHandler 0 []

theorem setParameters_records {s : State} {l : List PatchInformation}
    (hl : s.breakpoints = some l) (object : Nat) (parameters : List Nat) :
    (s.setParameters object parameters).records =
      l.map fun r => if r.object = object then { r with parameters := parameters } else r := by
  simp [State.setParameters, hl]

/-- Rewriting parameters keeps every record, up to its parameters. -/
theorem setParameters_grows {s : State} (hi : s.breakpoints.isSome) (object : Nat)
    (parameters : List Nat) : Grows s.records (s.setParameters object parameters).records := by
  obtain ⟨l, hl⟩ := Option.isSome_iff_exists.mp hi
  intro r hr
  refine ⟨if r.object = object then parameters else r.parameters, ?_⟩
  rw [setParameters_records hl]
  refine List.mem_map.mpr ⟨r, by simpa [State.records_of_some hl] using hr, ?_⟩
  split <;> rfl

theorem Inv.setParameters {s : State} (hi : Inv s) (object : Nat) (parameters : List Nat) :
    Inv (s.setParameters object parameters) := by
  obtain ⟨l, hl⟩ := Option.isSome_iff_exists.mp hi.active
  have hmem : ∀ r ∈ (s.setParameters object parameters).records,
      ∃ r₀ ∈ s.records, ∃ ps, r = { r₀ with parameters := ps } := by
    rw [setParameters_records hl, State.records_of_some hl]
    simp only [List.mem_map]
    rintro _ ⟨r₀, hr₀, rfl⟩
    exact ⟨r₀, hr₀, by split <;> exact ⟨_, rfl⟩⟩
  have hkeep := setParameters_grows hi.active object parameters
  refine ⟨by simp [State.setParameters, hl], ?_, ?_, ?_, ?_, ?_, ?_, ?_, ?_, fun p => ?_,
    fun x hx => (hi.slot x hx).grow hkeep⟩
  · intro r hr; obtain ⟨r₀, h₀, _, rfl⟩ := hmem r hr; exact hi.frames r₀ h₀
  · intro r hr; obtain ⟨r₀, h₀, _, rfl⟩ := hmem r hr; exact hi.pair_ne r₀ h₀
  · intro r hr; obtain ⟨r₀, h₀, _, rfl⟩ := hmem r hr; exact hi.allocated r₀ h₀
  · intro r hr r' hr'
    obtain ⟨r₀, h₀, _, rfl⟩ := hmem r hr
    obtain ⟨r₁, h₁, _, rfl⟩ := hmem r' hr'
    exact hi.shared r₀ h₀ r₁ h₁
  · intro r hr; obtain ⟨r₀, h₀, _, rfl⟩ := hmem r hr; exact hi.origin r₀ h₀
  · intro r hr; obtain ⟨r₀, h₀, _, rfl⟩ := hmem r hr; exact hi.traps r₀ h₀
  · intro r hr; obtain ⟨r₀, h₀, _, rfl⟩ := hmem r hr; exact hi.pristine r₀ h₀
  · intro r hr; obtain ⟨r₀, h₀, _, rfl⟩ := hmem r hr; exact hi.twins r₀ h₀
  · refine (hi.ept p).transfer fun r hr hp => ?_
    obtain ⟨ps, h⟩ := hkeep r hr
    exact ⟨_, h, hp, rfl, rfl⟩

/-- `SbpCreateAndEnablePostBreakpoint` keeps the invariant and the slot, and keeps every
record up to its parameters. -/
theorem Inv.createAndEnablePost {s s' : State} (hi : Inv s) {a tid : Nat}
    {info : PatchInformation} {parameters : List Nat}
    (h : sbpCreateAndEnablePostBreakpoint a info parameters tid s = .ok s') :
    Inv s' ∧ s'.lastBreakpoint = s.lastBreakpoint ∧ Grows s.records s'.records := by
  obtain ⟨l, hl⟩ := Option.isSome_iff_exists.mp hi.active
  simp only [sbpCreateAndEnablePostBreakpoint, sbppFindDuplicatedPostPatchInfo,
    sbppFindPatchInfo_of_some hl, bind_eq_ok_iff, Except.ok.injEq] at h
  obtain ⟨_, rfl, h⟩ := h
  split at h
  · simp only [pure_eq_ok_iff] at h
    subst h
    exact ⟨hi.setParameters _ _, rfl, setParameters_grows hi.active _ _⟩
  · simp only [sbppCreatePostBreakpoint, bind_eq_ok_iff, pure_eq_ok_iff] at h
    obtain ⟨_, ⟨⟨post, s₁⟩, hc, rfl⟩, _, h, rfl⟩ := h
    obtain ⟨hb, hlast, -⟩ := sbppCreateBreakpoint_frame hi.active hc
    simp only [sbppAddBreakpointToList_of_some (hb.trans hl), Except.ok.injEq] at h
    subst h
    have hi' := hi.create hc .kPost info.postHandler 0 tid parameters
    rw [State.records_of_some hl] at hi'
    exact ⟨hi'.enableExec (.of_mem (by simp)), hlast, by
      simpa [State.records_of_some hl, sbppEnablePageShadowingForExec, State.setEpt] using
        Grows.append l _⟩

theorem Inv.requests {info : PatchInformation} {tid : Nat} :
    ∀ {requests : List (Nat × List Nat)} {s s' : State}, Inv s →
      runRequests info tid requests s = .ok s' →
        Inv s' ∧ s'.lastBreakpoint = s.lastBreakpoint ∧ Grows s.records s'.records
  | [], _, _, hi, h => by cases h; exact ⟨hi, rfl, .refl _⟩
  | (a, parameters) :: rest, s, s', hi, h => by
    simp only [runRequests, bind_eq_ok_iff] at h
    obtain ⟨s₁, h₁, h⟩ := h
    obtain ⟨hi₁, hlast₁, hg₁⟩ := hi.createAndEnablePost h₁
    obtain ⟨hi', hlast, hg⟩ := hi₁.requests h
    exact ⟨hi', hlast.trans hlast₁, hg₁.trans hg⟩

/-- `SbpCreateAndEnablePostBreakpoint` takes pool pages only from `nextPage` on. -/
theorem PoolServes.createAndEnablePost {s s' : State} (hpool : PoolServes s)
    (hact : s.breakpoints.isSome) {a tid : Nat} {info : PatchInformation} {parameters : List Nat}
    (h : sbpCreateAndEnablePostBreakpoint a info parameters tid s = .ok s') : PoolServes s' := by
  obtain ⟨l, hl⟩ := Option.isSome_iff_exists.mp hact
  simp only [sbpCreateAndEnablePostBreakpoint, sbppFindDuplicatedPostPatchInfo,
    sbppFindPatchInfo_of_some hl, bind_eq_ok_iff, Except.ok.injEq] at h
  obtain ⟨_, rfl, h⟩ := h
  split at h
  · simp only [pure_eq_ok_iff] at h
    subst h
    exact hpool
  · simp only [sbppCreatePostBreakpoint, bind_eq_ok_iff, pure_eq_ok_iff] at h
    obtain ⟨_, ⟨⟨post, s₁⟩, hc, rfl⟩, _, h, rfl⟩ := h
    obtain ⟨hb, -, -, -, -, -, -, hf, hn⟩ := sbppCreateBreakpoint_frame hact hc
    simp only [sbppAddBreakpointToList_of_some (hb.trans hl), Except.ok.injEq] at h
    subst h
    exact hpool.mono hf hn

theorem PoolServes.requests {info : PatchInformation} {tid : Nat} :
    ∀ {requests : List (Nat × List Nat)} {s s' : State}, Inv s → PoolServes s →
      runRequests info tid requests s = .ok s' → PoolServes s'
  | [], _, _, _, hpool, h => by cases h; exact hpool
  | (_, _) :: _, _, _, hi, hpool, h => by
    simp only [runRequests, bind_eq_ok_iff] at h
    obtain ⟨s₁, h₁, h⟩ := h
    exact PoolServes.requests (hi.createAndEnablePost h₁).1 (hpool.createAndEnablePost hi.active h₁) h

/-- A handler's calls keep the invariant, the slot and every record. -/
theorem Inv.handler {s s' : State} (hi : Inv s) {info : PatchInformation} {tid : Nat}
    {requests : List (Nat × List Nat)} (h : runHandler info tid requests s = .ok s') :
    Inv s' ∧ s'.lastBreakpoint = s.lastBreakpoint ∧ Grows s.records s'.records := by
  have h₁ : Inv { s with calls := ⟨info.handler, info, tid⟩ :: s.calls } :=
    hi.congr rfl rfl rfl rfl rfl rfl rfl
  exact h₁.requests (runHandler_eq_ok h).2

/-! ### Erasure, guest stores and the hypercalls -/

/-- Shrinking the registry, with the slot's record kept and every EPT entry still well
shaped. -/
theorem Inv.shrink {s : State} (hi : Inv s) {l' : List PatchInformation}
    (hsub : ∀ r ∈ l', r ∈ s.records) (hslot : ∀ x, s.lastBreakpoint = some x → Live l' x)
    {e : Nat → EptEntry} (he : ∀ p, EptShape l' p (e p)) :
    Inv { s with breakpoints := some l', ept := e } where
  active := rfl
  frames r hr := hi.frames r (hsub r hr)
  pair_ne r hr := hi.pair_ne r (hsub r hr)
  allocated r hr := hi.allocated r (hsub r hr)
  shared r hr r' hr' := hi.shared r (hsub r hr) r' (hsub r' hr')
  origin r hr := hi.origin r (hsub r hr)
  traps r hr := hi.traps r (hsub r hr)
  pristine r hr := hi.pristine r (hsub r hr)
  twins r hr := hi.twins r (hsub r hr)
  ept := he
  slot := hslot

/-- **Erasure.** `SbppDeleteBreakpointFromList(info)`, with the slot empty or holding a
record on another page, when `SbppFindPatchInfoByPage` still finds a record on the page of
`info`: that record's shadow pair is the one the page's entry shows. -/
theorem Inv.deleteKeepingPage {s s₁ : State} (hi : Inv s) {info o : PatchInformation}
    (hslot : ∀ x, s.lastBreakpoint = some x → x.page ≠ info.page)
    (hdel : sbppDeleteBreakpointFromList info s = .ok s₁)
    (hfind : sbppFindPatchInfoByPage info.patchAddress s₁ = .ok (some o)) : Inv s₁ := by
  have hstay : ∀ r ∈ s.records, r.page ≠ info.page → r ∈ s₁.records := fun _ hr hp =>
    sbppDeleteBreakpointFromList_keeps hdel hr hp
  obtain ⟨l', rfl, hsub⟩ := sbppDeleteBreakpointFromList_eq hdel
  have hlive : ∀ x, s.lastBreakpoint = some x → Live l' x := fun x hx => by
    obtain ⟨r, hr, hxr⟩ := hi.slot x hx
    exact ⟨r, hstay r hr fun h => hslot x hx ((congrArg PatchInformation.page hxr).trans h), hxr⟩
  obtain ⟨hol, hop⟩ := sbppFindPatchInfoByPage_some hfind
  refine hi.shrink hsub hlive fun p => ?_
  by_cases hp : p = info.page
  · subst hp
    exact (hi.ept _).transfer fun r hr hrp =>
      ⟨o, hol, hop, hi.frames_eq (hsub o hol) hr (hop.trans hrp.symm)⟩
  · exact (hi.ept p).mono' fun r hr hrp => hstay r hr fun h => hp (hrp.symm.trans h)

/-- A guest store lands in guest memory or in a live record's rw copy, never in an exec
copy. -/
theorem Inv.guestWrite {s : State} (hi : Inv s) {a : Nat} (v : UInt8)
    (hw : (s.ept (a / pageSize)).writeAccess = true) : Inv (s.guestWrite a v) := by
  rcases hi.ept (a / pageSize) with he | ⟨r', hr', -, he | he⟩ <;>
    simp only [State.guestWrite, he] at hw ⊢
  · exact hi.congr rfl rfl rfl rfl rfl rfl rfl
  · cases hw
  · rw [(hi.frames r' hr').1]
    refine ⟨hi.active, hi.frames, hi.pair_ne, hi.allocated, hi.shared, hi.origin,
      fun r hr => ?_, fun r hr o => ?_, hi.twins, hi.ept, hi.slot⟩
    · simpa [State.writeFrame, Function.update_apply, hi.exec_ne_rw hr hr'] using hi.traps r hr
    · simpa [State.writeFrame, Function.update_apply, hi.exec_ne_rw hr hr'] using hi.pristine r hr o

/-- `SbpVmCallEnablePageShadowing` over live records. -/
theorem Inv.enableAll {s : State} (hi : Inv s) {l : List PatchInformation}
    (hl : ∀ r ∈ l, r ∈ s.records) : Inv (l.foldl (fun s info => sbppEnablePageShadowingForExec info s) s) := by
  induction l generalizing s with
  | nil => exact hi
  | cons r l ih =>
    exact ih (hi.enableExec (.of_mem (hl r (List.mem_cons_self _ _))))
      fun r' hr' => hl r' (List.mem_cons_of_mem _ hr')

/-- `SbpVmCallDisablePageShadowing` over any records. -/
theorem Inv.disableAll {s : State} (hi : Inv s) (l : List PatchInformation) :
    Inv (l.foldl (fun s info => sbppDisablePageShadowing info s) s) := by
  induction l generalizing s with
  | nil => exact hi
  | cons r l ih => exact ih (hi.disable r)

end DdiMon
