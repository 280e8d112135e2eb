import DdiMon.Views

/-!
# The guest's data and its two copies

`SbppCreateBreakpoint` copies a page into both pool pages of its pair. From then on the
engine writes only `0xcc`s into the exec copy, and guest stores through the rw view write
only the rw copy. The ghost `snapshot` keeps the bytes copied at allocation.

* **The copies agree off traps and guest stores** (`reachable_copies_agree`). At every
  offset where a live record's exec copy holds no `0xcc`, and its rw copy still holds the
  byte copied into it, the two copies agree. A guest store through the rw view breaks the
  agreement at the stored offset, and the store is not undone when the page returns to its
  exec copy (`rw_store_splits_copies`).
* **The data view** of a page is what guest reads see: its rw copy while its entry maps a
  pool page, its own frame otherwise (`State.dataView`). Every guest read returns the
  data view (`Inv.guestRead_eq_dataView`). Switching between a page's two copies keeps it,
  and the exits keep it over whole runs (`Coherence.lean`). Switching between a page's own
  frame and its copies does not: `SbpStart` drops a store made before it, and the bulk
  disable drops a store made through the rw view (`shadowing_drops_stores`).
-/

namespace DdiMon

variable {s : State}

/-! ### The two copies -/

/-- **The copies agree off traps and guest stores.** In every reachable machine, at every
offset where the exec copy of a live record holds no `0xcc` and its rw copy still holds the
byte copied into it, the two copies hold the same byte. -/
theorem reachable_copies_agree {m : Machine} (h : Reachable m) :
    ∀ r ∈ m.state.records, ∀ o, m.state.pool r.shadowPageBaseForExec o ≠ kBreakpoint →
      m.state.pool r.shadowPageBaseForRw o = m.state.snapshot r.shadowPageBaseForRw o →
      m.state.pool r.shadowPageBaseForExec o = m.state.pool r.shadowPageBaseForRw o := by
  intro r hr o htrap hrw
  have hi := h.machineInv.inv
  calc m.state.pool r.shadowPageBaseForExec o
      = m.state.snapshot r.shadowPageBaseForExec o := (hi.pristine r hr o).resolve_right htrap
    _ = m.state.snapshot r.shadowPageBaseForRw o := congrFun (hi.twins r hr) o
    _ = m.state.pool r.shadowPageBaseForRw o := hrw.symm

theorem one_record_copies_agree :
    ((Machine.initial (fun _ => 0x90) (fun _ => false) ⟨true, 0⟩).run
      [.createPreBreakpoint 0x1000 ⟨1, 2⟩, .start]).elim False fun m => Reachable m ∧
      ∀ r ∈ m.state.records, ∀ o, m.state.pool r.shadowPageBaseForExec o ≠ kBreakpoint →
        m.state.pool r.shadowPageBaseForRw o = m.state.snapshot r.shadowPageBaseForRw o →
        m.state.pool r.shadowPageBaseForExec o = m.state.pool r.shadowPageBaseForRw o :=
  Machine.run_elim (by decide) fun _ h => ⟨h, reachable_copies_agree h⟩

/-- A store of `0x55` at `0x1004` through the rw view of page 1, then the MTF exit: page 1
shows its exec copy again, which holds `0x90` at offset 4 while the rw copy holds `0x55`,
and offset 4 is no record's trap. -/
theorem rw_store_splits_copies :
    ((Machine.initial (fun _ => 0x90) (fun _ => false) ⟨true, 0⟩).run
      [.createPreBreakpoint 0x1000 ⟨1, 2⟩, .start, .eptViolation 0x1004 0x1004,
        .guestWrite 0x1004 0x55, .monitorTrapFlag]).any (fun m =>
      m.state.ept 1 == ⟨false, false, true, .pool 1⟩ && m.state.pool 1 4 == 0x90 &&
        m.state.pool 0 4 == 0x55 &&
        m.state.records.all fun r => byteOffset r.patchAddress != 4) = true := by
  decide

/-! ### The data view -/

/-- The frame is a pool page: one of a pair of shadow copies. -/
def Frame.isPool : Frame → Bool
  | .pool _ => true
  | .guest _ => false

/-- The data view of guest-physical address `a`: the rw copy of the first record on its
page while the page's entry maps a pool page, the page's own frame otherwise. -/
def State.dataView (s : State) (a : Nat) : UInt8 :=
  match (s.ept (a / pageSize)).physialAddress.isPool,
      s.records.find? (fun r => r.page == a / pageSize) with
  | true, some r => s.pool r.shadowPageBaseForRw (byteOffset a)
  | _, _ => s.memory a

/-- On a page that maps a pool page, the data view is the rw copy of any record on it. -/
theorem Inv.dataView_of_pool (hi : Inv s) {r : PatchInformation} (hr : r ∈ s.records) {a : Nat}
    (hp : r.page = a / pageSize) (hpool : (s.ept (a / pageSize)).physialAddress.isPool = true) :
    s.dataView a = s.pool r.shadowPageBaseForRw (byteOffset a) := by
  obtain ⟨r₀, hr₀⟩ := Option.isSome_iff_exists.mp
    (show (s.records.find? fun r => r.page == a / pageSize).isSome by simpa using ⟨r, hr, hp⟩)
  have hp₀ : r₀.page = r.page := by simpa [hp] using List.find?_some hr₀
  simp only [State.dataView, hpool, hr₀,
    (hi.shared r₀ (List.mem_of_find?_eq_some hr₀) r hr hp₀).1]

/-- **Guest reads return the data view.** -/
theorem Inv.guestRead_eq_dataView (hi : Inv s) {a : Nat} {b : UInt8}
    (hb : s.guestRead a = some b) : b = s.dataView a := by
  unfold State.guestRead at hb
  split at hb
  · rename_i hrd
    obtain rfl := Option.some.inj hb
    rcases hi.readable_entry _ hrd with h | ⟨r, hr, hp, h⟩
    · simp only [State.dataView, h, Frame.isPool, State.frameByte]
      rw [byteOffset, Nat.div_add_mod']
    · rw [h, (hi.frames r hr).1]
      have hfind : (s.records.find? fun r => r.page == a / pageSize).isSome := by
        simpa using ⟨r, hr, hp⟩
      obtain ⟨r₀, hr₀⟩ := Option.isSome_iff_exists.mp hfind
      have hmem := List.mem_of_find?_eq_some hr₀
      have hp₀ : r₀.page = a / pageSize := by simpa using List.find?_some hr₀
      simp only [State.dataView, h, (hi.frames r hr).1, Frame.isPool, hr₀, State.frameByte,
        (hi.shared r hr r₀ hmem (hp.trans hp₀.symm)).1]
  · cases hb

/-- `SbpStart` after the guest stored `0x55` at `0x1004` shows the page's copies, made
before the store: the data view at `0x1004` goes from `0x55` back to `0x90`. A store of
`0x55` through the rw view, then the bulk disable: the data view goes from `0x55` back to
the page's own `0x90`. -/
theorem shadowing_drops_stores :
    ((Machine.initial (fun _ => 0x90) (fun _ => false) ⟨true, 0⟩).run
      [.createPreBreakpoint 0x1000 ⟨1, 2⟩, .guestWrite 0x1004 0x55]).any (fun m =>
      m.state.dataView 0x1004 == 0x55 &&
        (m.run [.start]).any fun m' => m'.state.dataView 0x1004 == 0x90) = true ∧
    ((Machine.initial (fun _ => 0x90) (fun _ => false) ⟨true, 0⟩).run
      [.createPreBreakpoint 0x1000 ⟨1, 2⟩, .start, .eptViolation 0x1004 0x1004,
        .guestWrite 0x1004 0x55, .monitorTrapFlag]).any (fun m =>
      m.state.dataView 0x1004 == 0x55 &&
        (m.run [.disablePageShadowing]).any fun m' => m'.state.dataView 0x1004 == 0x90) = true := by
  decide

end DdiMon
