import DdiMon.Registry

/-!
# Shadow pages, EPT views and the single-step slot

The internal operations of `shadow_bp.cpp` below the exit handlers.

* `sbppCreateBreakpoint` builds a record for `address`. It reuses the shadow pair of the
  first record on the same page, or allocates two pool pages and copies the page into both;
  an allocation the pool refuses bug-checks.
  Then it writes `0xcc` at the address's offset of the exec copy (`sbppEmbedBreakpoint`).
* The three EPT operations each rewrite the leaf entry of one page:
  `sbppEnablePageShadowingForExec` shows the exec copy execute-only,
  `sbppEnablePageShadowingForRW` shows the rw copy with every access, and
  `sbppDisablePageShadowing` maps the page to itself again. `UtilInveptAll` and
  `KeInvalidateAllCaches` have no effect on this model, which has no TLB or caches.
* `sbppSetMonitorTrapFlag` arms or disarms the monitor trap flag. Arming saves the guest's
  IF in `g_sbpp_previouse_guest_interrupt_flag` and clears it; disarming writes the saved
  value back.
* `sbppSaveLastPatchInfo` and `sbppRestoreLastPatchInfo` fill and empty the one-record slot
  `g_sbpp_last_breakpoint`.
-/

namespace DdiMon

/-! ### Building records -/

/-- `SbppEmbedBreakpoint(page + offset)`: `0xcc` into a pool page. -/
def sbppEmbedBreakpoint (page offset : Nat) (s : State) : State :=
  { s with pool := Function.update s.pool page (Function.update (s.pool page) offset kBreakpoint) }

theorem sbppEmbedBreakpoint_pool_self (page offset : Nat) (s : State) :
    (sbppEmbedBreakpoint page offset s).pool page offset = kBreakpoint := by
  simp [sbppEmbedBreakpoint]

/-- Embedding leaves every byte as it was, or makes it `0xcc`. -/
theorem sbppEmbedBreakpoint_pool (page offset k o : Nat) (s : State) :
    (sbppEmbedBreakpoint page offset s).pool k o = s.pool k o ∨
      (sbppEmbedBreakpoint page offset s).pool k o = kBreakpoint := by
  by_cases hk : k = page
  · subst hk
    by_cases ho : o = offset <;> simp [sbppEmbedBreakpoint, ho]
  · simp [sbppEmbedBreakpoint, hk]

/-- Embedding never removes a `0xcc`. -/
theorem sbppEmbedBreakpoint_pool_of_eq {page offset k o : Nat} {s : State}
    (h : s.pool k o = kBreakpoint) : (sbppEmbedBreakpoint page offset s).pool k o = kBreakpoint :=
  (sbppEmbedBreakpoint_pool page offset k o s).elim (·.trans h) id

/-- Embedding keeps a byte within `0xcc` of the bytes first copied there. -/
theorem sbppEmbedBreakpoint_pristine {s : State} {k o : Nat} (page offset : Nat)
    (h : s.pool k o = s.snapshot k o ∨ s.pool k o = kBreakpoint) :
    (sbppEmbedBreakpoint page offset s).pool k o = s.snapshot k o ∨
      (sbppEmbedBreakpoint page offset s).pool k o = kBreakpoint := by
  rcases sbppEmbedBreakpoint_pool page offset k o s with he | he <;> rw [he]
  · exact h
  · exact .inr rfl

/-- The two `RtlCopyMemory` of the page holding `address` into pool pages `nextPage` (rw)
and `nextPage + 1` (exec), once both are allocated. -/
def State.copyShadowPages (s : State) (address : Nat) : State :=
  let copy : Nat → UInt8 := fun o => s.memory (pageAlign address + o)
  { s with
    pool := Function.update (Function.update s.pool s.nextPage copy) (s.nextPage + 1) copy
    copiedFrom := Function.update (Function.update s.copiedFrom s.nextPage (address / pageSize))
      (s.nextPage + 1) (address / pageSize)
    snapshot := Function.update (Function.update s.snapshot s.nextPage copy) (s.nextPage + 1) copy
    nextPage := s.nextPage + 2 }

/-- Two `std::make_shared<Page>()` and the copies: `Page::Page` bug-checks when the pool
refuses either page. -/
def State.allocateShadowPages (s : State) (address : Nat) : Except Fault State :=
  if s.poolFails s.nextPage || s.poolFails (s.nextPage + 1) then .error .bugCheck
  else .ok (s.copyShadowPages address)

theorem State.allocateShadowPages_eq_ok {s s' : State} {address : Nat}
    (h : s.allocateShadowPages address = .ok s') :
    s.poolFails s.nextPage = false ∧ s.poolFails (s.nextPage + 1) = false ∧
      s' = s.copyShadowPages address := by
  unfold State.allocateShadowPages at h
  split at h
  · cases h
  · cases h; simp_all

/-- The record `SbppCreateBreakpoint` fills in: its address, its shadow pair and the pair's
physical pages. The other fields keep the values of `std::make_unique<PatchInformation>()`
until the caller sets them. -/
def PatchInformation.basic (object address rw exec : Nat) : PatchInformation where
  object := object
  patchAddress := address
  type := .kPre
  handler := 0
  postHandler := 0
  targetTid := 0
  parameters := []
  shadowPageBaseForRw := rw
  shadowPageBaseForExec := exec
  paBaseForRw := .pool rw
  paBaseForExec := .pool exec

/-- `SbppCreateBreakpoint`. -/
def sbppCreateBreakpoint (address : Nat) (s : State) : Except Fault (PatchInformation × State) := do
  let reusable ← sbppFindPatchInfoByPage address s
  let (rw, exec, s) ← match reusable with
    | some r => pure (r.shadowPageBaseForRw, r.shadowPageBaseForExec, s)
    | none => do pure (s.nextPage, s.nextPage + 1, ← s.allocateShadowPages address)
  pure (.basic s.nextObject address rw exec,
    sbppEmbedBreakpoint exec (byteOffset address) { s with nextObject := s.nextObject + 1 })

/-- `SbppCreatePreBreakpoint`. -/
def sbppCreatePreBreakpoint (address : Nat) (target : BreakpointTarget) (s : State) :
    Except Fault (PatchInformation × State) := do
  let (info, s) ← sbppCreateBreakpoint address s
  pure ({ info with
    type := .kPre, handler := target.preHandler, postHandler := target.postHandler
    targetTid := 0, parameters := [] }, s)

/-- `SbppCreatePostBreakpoint`: the post of pre record `info`, owned by `targetTid`. -/
def sbppCreatePostBreakpoint (address : Nat) (info : PatchInformation) (targetTid : Nat)
    (parameters : List Nat) (s : State) : Except Fault (PatchInformation × State) := do
  let (post, s) ← sbppCreateBreakpoint address s
  pure ({ post with
    type := .kPost, handler := info.postHandler, postHandler := 0, targetTid := targetTid
    parameters := parameters }, s)

/-! ### EPT views -/

/-- Rewrites the EPT leaf entry of guest-physical page `pfn`. -/
def State.setEpt (s : State) (pfn : Nat) (e : EptEntry) : State :=
  { s with ept := Function.update s.ept pfn e }

/-- `SbppEnablePageShadowingForExec`: execute-only, showing the exec copy. -/
def sbppEnablePageShadowingForExec (info : PatchInformation) (s : State) : State :=
  s.setEpt info.page
    { s.ept info.page with
      writeAccess := false, readAccess := false, physialAddress := info.paBaseForExec }

/-- `SbppEnablePageShadowingForRW`: readable and writable, showing the rw copy. -/
def sbppEnablePageShadowingForRW (info : PatchInformation) (s : State) : State :=
  s.setEpt info.page
    { s.ept info.page with
      writeAccess := true, readAccess := true, physialAddress := info.paBaseForRw }

/-- `SbppDisablePageShadowing`: the page mapped to itself with every access. -/
def sbppDisablePageShadowing (info : PatchInformation) (s : State) : State :=
  let paBase := pageAlign info.patchAddress / pageSize
  s.setEpt paBase
    { s.ept paBase with
      executeAccess := true, writeAccess := true, readAccess := true
      physialAddress := .guest paBase }

/-- `SbppIsShadowBreakpoint`: the rw copy does not hold `0xcc` where `info` patches, so
the `#BP` came from the engine's exec copy and not from the guest's own `int 3`. -/
def sbppIsShadowBreakpoint (info : PatchInformation) (s : State) : Bool :=
  s.pool info.shadowPageBaseForRw (byteOffset info.patchAddress) != kBreakpoint

/-! ### The monitor trap flag and the last-event slot -/

/-- `SbppSetMonitorTrapFlag`. -/
def sbppSetMonitorTrapFlag (enable : Bool) (s : State) (v : Vmcs) : State × Vmcs :=
  let flags := v.guestRflags
  if enable then
    ({ s with previouseGuestInterruptFlag := flags.intf },
      { v with monitorTrapFlag := true, guestRflags := { flags with intf := false } })
  else
    (s, { v with
      monitorTrapFlag := false, guestRflags := { flags with intf := s.previouseGuestInterruptFlag } })

/-- `SbppSaveLastPatchInfo`. -/
def sbppSaveLastPatchInfo (info : PatchInformation) (s : State) : State :=
  { s.ntAssert s.lastBreakpoint.isNone .lastBreakpointEmpty with lastBreakpoint := some info }

/-- `SbppRestoreLastPatchInfo`. Its `NT_ASSERT(info)` is followed by the caller's
dereference, which `sbpHandleMonitorTrapFlag` models. -/
def sbppRestoreLastPatchInfo (s : State) : Option PatchInformation × State :=
  (s.lastBreakpoint, { s with lastBreakpoint := none })

/-- `SbppIsSbpActive`. -/
def sbppIsSbpActive (s : State) : Bool := s.breakpoints.isSome

end DdiMon
