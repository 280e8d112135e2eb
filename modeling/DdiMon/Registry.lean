import DdiMon.Basic
import Mathlib.Data.List.Basic

/-!
# The breakpoint registry

The three lookups of `shadow_bp.cpp` are one search: under the spin lock, `std::find_if`
over `g_sbpp_breakpoints` with a predicate, returning the first match or `nullptr`
(`sbppFindPatchInfo`). Each lookup is that search at its own predicate.
`SbppAddBreakpointToList` appends, and `SbppDeleteBreakpointFromList` erases the first
record whose `(patch_address, target_tid)` equals the argument's. All of them dereference
`g_sbpp_breakpoints` after an `NT_ASSERT`, so a null registry stops the host.

The spin lock itself is not modelled: every operation is one atomic step.
-/

namespace DdiMon

/-! ### Lookups -/

/-- The search shared by the three lookups: the first record satisfying `pred`. -/
def sbppFindPatchInfo (pred : PatchInformation → Bool) (s : State) :
    Except Fault (Option PatchInformation) :=
  match s.breakpoints with
  | none => .error .nullDereference
  | some l => .ok (l.find? pred)

/-- `SbppFindPatchInfoByPage`: the first record on the page of `address`. -/
def sbppFindPatchInfoByPage (address : Nat) : State → Except Fault (Option PatchInformation) :=
  sbppFindPatchInfo fun info => pageAlign info.patchAddress == pageAlign address

/-- `SbppFindPatchInfoByAddress`: the first record patching exactly `address`. -/
def sbppFindPatchInfoByAddress (address : Nat) : State → Except Fault (Option PatchInformation) :=
  sbppFindPatchInfo fun info => info.patchAddress == address

/-- `SbppFindDuplicatedPostPatchInfo`: the first post record of thread `targetTid` on the
page of `address`. -/
def sbppFindDuplicatedPostPatchInfo (address targetTid : Nat) :
    State → Except Fault (Option PatchInformation) :=
  sbppFindPatchInfo fun info =>
    info.type == .kPost && pageAlign info.patchAddress == pageAlign address &&
      info.targetTid == targetTid

theorem sbppFindPatchInfo_of_some {pred : PatchInformation → Bool} {s : State}
    {l : List PatchInformation} (h : s.breakpoints = some l) :
    sbppFindPatchInfo pred s = .ok (l.find? pred) := by
  simp [sbppFindPatchInfo, h]

/-- **Spec of the search.** A hit is a live record satisfying the predicate; a miss means
no live record does. -/
theorem sbppFindPatchInfo_spec {pred : PatchInformation → Bool} {s : State}
    {r : Option PatchInformation} (h : sbppFindPatchInfo pred s = .ok r) :
    s.breakpoints.isSome ∧
      (∀ info, r = some info → info ∈ s.records ∧ pred info) ∧
      (r = none → ∀ info ∈ s.records, pred info = false) := by
  unfold sbppFindPatchInfo at h
  split at h
  · cases h
  · rename_i l hl
    cases h
    refine ⟨by simp [hl], fun info hi => ?_, fun hn info hmem => ?_⟩
    · exact ⟨by simpa [hl] using List.mem_of_find?_eq_some hi, List.find?_some hi⟩
    · simpa using List.find?_eq_none.mp hn info (by simpa [hl] using hmem)

theorem pageAlign_beq_iff {a b : Nat} : (pageAlign a == pageAlign b) = true ↔ a / pageSize = b / pageSize := by
  simp [pageAlign_eq_iff]

/-- A hit of the page search is a record on that page. -/
theorem find?_page_eq_some {l : List PatchInformation} {a : Nat} {o : PatchInformation}
    (h : l.find? (fun r => pageAlign r.patchAddress == pageAlign a) = some o) :
    o ∈ l ∧ o.page = a / pageSize := by
  have hp := List.find?_some h
  exact ⟨List.mem_of_find?_eq_some h, pageAlign_beq_iff.mp hp⟩

/-- A hit of `SbppFindPatchInfoByPage` is a live record on the page. -/
theorem sbppFindPatchInfoByPage_some {a : Nat} {s : State} {o : PatchInformation}
    (h : sbppFindPatchInfoByPage a s = .ok (some o)) : o ∈ s.records ∧ o.page = a / pageSize :=
  have hs := (sbppFindPatchInfo_spec h).2.1 o rfl
  ⟨hs.1, pageAlign_beq_iff.mp hs.2⟩

/-- A miss of the page search means no record is on that page. -/
theorem find?_page_eq_none {l : List PatchInformation} {a : Nat}
    (h : l.find? (fun r => pageAlign r.patchAddress == pageAlign a) = none) :
    ∀ r ∈ l, r.page ≠ a / pageSize :=
  fun r hr hp => List.find?_eq_none.mp h r hr (pageAlign_beq_iff.mpr hp)

/-- The page search misses exactly when no record is on the page. -/
theorem find?_page_isNone (l : List PatchInformation) (a : Nat) :
    (l.find? fun r => pageAlign r.patchAddress == pageAlign a).isNone =
      !l.any fun r => r.page == a / pageSize := by
  cases h : l.any fun r => r.page == a / pageSize
  · rw [List.any_eq_false] at h
    simpa [Option.isNone_iff_eq_none, List.find?_eq_none, pageAlign_eq_iff] using h
  · obtain ⟨r, hr, hp⟩ := List.any_eq_true.mp h
    have : (l.find? fun r => pageAlign r.patchAddress == pageAlign a).isSome := by
      exact List.find?_isSome.mpr ⟨r, hr, by simpa [pageAlign_eq_iff] using hp⟩
    simpa [Option.isNone_iff_eq_none, Option.isSome_iff_ne_none] using this

/-! ### Insertion, erasure and the duplicate-post update -/

/-- `SbppAddBreakpointToList`: `push_back` under the lock. -/
def sbppAddBreakpointToList (info : PatchInformation) (s : State) : Except Fault State :=
  match s.breakpoints with
  | none => .error .nullDereference
  | some l => .ok { s with breakpoints := some (l ++ [info]) }

/-- `SbppDeleteBreakpointFromList`: erase the first record with the same `patch_address` and
`target_tid` as `info`, if there is one. -/
def sbppDeleteBreakpointFromList (info : PatchInformation) (s : State) : Except Fault State :=
  match s.breakpoints with
  | none => .error .nullDereference
  | some l =>
    .ok { s with
      breakpoints := some (l.eraseP fun info2 =>
        info.patchAddress == info2.patchAddress && info.targetTid == info2.targetTid) }

/-- What `SbppDeleteBreakpointFromList` changes: the registry, to a part of itself. -/
theorem sbppDeleteBreakpointFromList_eq {s s₁ : State} {info : PatchInformation}
    (hdel : sbppDeleteBreakpointFromList info s = .ok s₁) :
    ∃ l, s₁ = { s with breakpoints := some l } ∧ ∀ r ∈ l, r ∈ s.records := by
  unfold sbppDeleteBreakpointFromList at hdel
  split at hdel
  · cases hdel
  rename_i l hl
  cases hdel
  exact ⟨_, rfl, fun r hr => by rw [State.records_of_some hl]; exact List.mem_of_mem_eraseP hr⟩

/-- The erasure keeps every record on another page than `info`'s. -/
theorem sbppDeleteBreakpointFromList_keeps {s s₁ : State} {info r : PatchInformation}
    (hdel : sbppDeleteBreakpointFromList info s = .ok s₁) (hr : r ∈ s.records)
    (hp : r.page ≠ info.page) : r ∈ s₁.records := by
  unfold sbppDeleteBreakpointFromList at hdel
  split at hdel
  · cases hdel
  rename_i l hl
  cases hdel
  rw [State.records_of_some hl] at hr
  refine (List.mem_eraseP_of_neg ?_).mpr hr
  simp only [Bool.and_eq_true, beq_iff_eq, not_and]
  exact fun ha => absurd (by rw [PatchInformation.page, ← ha]; rfl) hp

/-- Erasing by the address and thread of the first record at an address erases that record. -/
theorem sbppDeleteBreakpointFromList_first {s : State} {l : List PatchInformation}
    {address : Nat} {info : PatchInformation} (hl : s.breakpoints = some l)
    (h : l.find? (fun r => r.patchAddress == address) = some info) :
    sbppDeleteBreakpointFromList info s = .ok { s with breakpoints := some (l.erase info) } := by
  obtain ⟨hp, as, bs, rfl, has⟩ := List.find?_eq_some.mp h
  have hp : info.patchAddress = address := by simpa using hp
  have hne : ∀ a ∈ as, a.patchAddress ≠ address := fun a ha => by simpa using has a ha
  simp only [sbppDeleteBreakpointFromList, hl, Except.ok.injEq, State.mk.injEq, Option.some.injEq]
  rw [List.eraseP_append_right _ fun b hb => by simp [hp, Ne.symm (hne b hb)],
    List.eraseP_cons_of_pos (by simp), List.erase_append_right _ fun hin => hne info hin hp,
    List.erase_cons_head]
  simp

/-- `duplicated_info->parameters = parameters`: overwrite the parameters of the record at
heap address `object`. -/
def State.setParameters (s : State) (object : Nat) (parameters : List Nat) : State :=
  { s with
    breakpoints := s.breakpoints.map fun l =>
      l.map fun r => if r.object = object then { r with parameters := parameters } else r }

theorem sbppAddBreakpointToList_of_some {info : PatchInformation} {s : State}
    {l : List PatchInformation} (h : s.breakpoints = some l) :
    sbppAddBreakpointToList info s = .ok { s with breakpoints := some (l ++ [info]) } := by
  simp [sbppAddBreakpointToList, h]

end DdiMon
