import DdiMon.Posts
import DdiMon.Termination

/-!
# The engine over every interleaving of the processors' exits

Once `SbpStart` has returned, the driver calls no entry point until `SbpTermination`. Any
number of processors then take VM exits and run the guest, and their handlers interleave
one at a time over the shared registry, slot and EPT (`Interleaved`). A handler that
installs posts is a pre handler: a post record's own `post_handler` is null
(`SbppCreatePostBreakpoint`), so a post that a post handler installed would call null when
delivered, which faults (`Fault.nullCall`). The results below take the driver's handlers at
their word: only pre handlers install posts (`Event.postCallsFromPre`).

* **No interleaving breaks the engine's invariant** (`interleaved_exits_keep_frames_live`).
  Every EPT entry that names a pool page names a copy of a live record on its page. The
  record in `g_sbpp_last_breakpoint` is live, and its page shows its rw copy. Each page
  holds at most one post of each thread. The owner's `#BP` at a post erases it only while
  another record keeps the page's copies; when it erases the page's last record, the step
  reads the freed record and the run goes no further (`Fault.useAfterFree`). Nor does that
  `#BP` erase the record in the slot: the slot's page shows the rw copy, whose byte at the
  post's address is not `0xcc`.
-/

namespace DdiMon

/-! ### The processors after `SbpStart` -/

/-- The post calls of the handler that a `#BP` exit at `guestIp` runs come from a pre
handler, or there are none. -/
def Event.postCallsFromPre (s : State) : Event → Bool
  | .breakpoint guestIp _ _ requests => requests.isEmpty ||
    (s.records.find? fun r => r.patchAddress == guestIp).all fun r => r.type == .kPre
  | _ => true

/-- The systems that the processors' VM exits and guest events reach from `sys₀`, in any
interleaving. -/
inductive Interleaved (sys₀ : System) : System → Prop
  | refl : Interleaved sys₀ sys₀
  | step {sys sys' : System} (p : Nat) (e : Event) : Interleaved sys₀ sys →
      sys.enabled p e = true → e.entryPoint = false → e.postCallsFromPre sys.state = true →
      sys.step p e = .ok sys' → Interleaved sys₀ sys'

/-- Runs the processors' events, stopping at one that `Interleaved` does not allow. -/
def System.runExits (sys : System) : List (Nat × Event) → Option System
  | [] => some sys
  | (p, e) :: es =>
    if sys.enabled p e && !e.entryPoint && e.postCallsFromPre sys.state then
      match sys.step p e with
      | .ok sys' => sys'.runExits es
      | .error _ => none
    else none

/-- **Inversion of `System.runExits`.** A run that gets past its first event took that event
as a step `Interleaved` allows. -/
theorem System.runExits_cons_eq {sys sys' : System} {p : Nat} {e : Event}
    {es : List (Nat × Event)} (h : sys.runExits ((p, e) :: es) = some sys') :
    ∃ sys₁, sys.enabled p e = true ∧ e.entryPoint = false ∧ e.postCallsFromPre sys.state = true ∧
      sys.step p e = .ok sys₁ ∧ sys₁.runExits es = some sys' := by
  simp only [System.runExits, Bool.and_eq_true, Bool.not_eq_true'] at h
  split at h
  · rename_i hc
    split at h
    · exact ⟨_, hc.1.1, hc.1.2, hc.2, ‹_›, h⟩
    · cases h
  · cases h

theorem Interleaved.runExits {sys₀ sys sys' : System} {es : List (Nat × Event)}
    (h : Interleaved sys₀ sys) (hrun : sys.runExits es = some sys') : Interleaved sys₀ sys' := by
  induction es generalizing sys with
  | nil => cases hrun; exact h
  | cons pe es ih =>
    obtain ⟨sys₁, he, hep, hpc, hs, hrun⟩ := System.runExits_cons_eq hrun
    exact ih (.step pe.1 pe.2 h he hep hpc hs) hrun

/-! ### The shared invariant -/

/-- A filled slot names a record whose page shows its rw copy. -/
def SlotView (s : State) : Prop :=
  ∀ x, s.lastBreakpoint = some x → s.ept x.page = ⟨true, true, true, x.paBaseForRw⟩

theorem Armed.slotView {s : State} {v : Vmcs} {x : PatchInformation} (h : Armed s v x) :
    SlotView s := by
  intro y hy
  obtain rfl := Option.some.inj (hy.symm.trans h.1)
  exact h.2.2

/-- `SlotView` reads only the slot and the EPT. -/
theorem SlotView.congr {s s' : State} (h : SlotView s) (hl : s'.lastBreakpoint = s.lastBreakpoint)
    (he : s'.ept = s.ept) : SlotView s' := by
  unfold SlotView
  rw [hl, he]
  exact h

/-- The engine's invariant on the state the processors share. -/
structure SharedInv (s : State) : Prop where
  inv : Inv s
  posts : PostInv s
  slot_view : SlotView s

/-- A state the engine reaches on one processor, with the slot empty. -/
theorem SharedInv.of_reachable {m : Machine} (h : Reachable m)
    (hslot : m.state.lastBreakpoint = none) : SharedInv m.state :=
  ⟨h.machineInv.inv, h.postInv, fun x hx => by simp [hslot] at hx⟩

/-- A fetch on the page of the slot's record reads the record's rw copy. -/
theorem SharedInv.fetch_slot_page {s : State} (h : SharedInv s) {x : PatchInformation}
    (hx : s.lastBreakpoint = some x) {a : Nat} (ha : a / pageSize = x.page) :
    s.guestFetch a = some (s.pool x.shadowPageBaseForRw (byteOffset a)) := by
  obtain ⟨r, hr, hxr⟩ := h.inv.slot x hx
  have hrw : x.paBaseForRw = .pool x.shadowPageBaseForRw := by
    rw [hxr]; exact (h.inv.frames r hr).1
  simp only [State.guestFetch, ha, h.slot_view x hx, if_true, hrw, State.frameByte]

/-- **The owner's `#BP` never erases the slot's record.** The slot's page shows the record's
rw copy, whose byte at a record's address there is not `0xcc`, so no `#BP` the engine
claims comes from that page. -/
theorem SharedInv.slot_page_ne {s : State} (h : SharedInv s) {G : Nat} {info x : PatchInformation}
    (hfetch : s.guestFetch G = some kBreakpoint)
    (hf : s.records.find? (fun r => r.patchAddress == G) = some info)
    (hclean : sbppIsShadowBreakpoint info s = true) (hx : s.lastBreakpoint = some x) :
    x.page ≠ info.page := by
  intro hpage
  have hG : info.patchAddress = G := by simpa using List.find?_some hf
  obtain ⟨r, hr, hxr⟩ := h.inv.slot x hx
  have hrw : x.shadowPageBaseForRw = info.shadowPageBaseForRw := by
    rw [hxr]
    exact (h.inv.shared r hr info (List.mem_of_find?_eq_some hf)
      ((congrArg PatchInformation.page hxr).symm.trans hpage)).1
  rw [h.fetch_slot_page hx (hG ▸ hpage.symm), hrw, ← hG] at hfetch
  simp only [sbppIsShadowBreakpoint, bne_iff_ne, ne_eq] at hclean
  exact hclean (Option.some.inj hfetch)

/-- The `#BP` handler keeps `Inv` and `SlotView`, with the slot held by any processor. -/
theorem SharedInv.handleBreakpoint {s s' : State} {v v' : Vmcs} {b : Bool} {G tid irql : Nat}
    {requests : List (Nat × List Nat)} (h : SharedInv s)
    (hfetch : s.guestFetch G = some kBreakpoint)
    (hpc : (Event.breakpoint G tid irql requests).postCallsFromPre s = true)
    (hs : sbpHandleBreakpoint G tid irql requests s v = .ok (b, s', v')) :
    Inv s' ∧ SlotView s' := by
  have hi := h.inv
  rcases sbpHandleBreakpoint_cases hs with ⟨-, rfl, rfl⟩ | ⟨info, -, hf, hclean, -, -, hcase⟩
  · exact ⟨hi, h.slot_view⟩
  have hmem : info ∈ s.records := List.mem_of_find?_eq_some hf
  rcases hcase with ⟨-, s₁, h₁, hs⟩ | ⟨hpost, -, -, s₁, o, h₁, h₂, h₃⟩ | ⟨-, -, hs⟩
  · obtain ⟨hi₁, -, hg⟩ := hi.handler h₁
    obtain ⟨rfl, rfl⟩ := Prod.mk.inj hs
    exact ⟨hi₁.stepOnRwView ((Live.of_mem hmem).grow hg) v, (stepOnRwView_armed hi₁ info v).slotView⟩
  · -- The owner's `#BP` at a post: its handler makes no post calls.
    have hrq : requests = [] := by
      simpa [Event.postCallsFromPre, hf, hpost] using hpc
    subst hrq
    obtain ⟨-, h₁⟩ := runHandler_eq_ok h₁
    simp only [runRequests, Except.ok.injEq] at h₁
    subst h₁
    have hslot : ∀ x, s.lastBreakpoint = some x → x.page ≠ info.page := fun x hx =>
      h.slot_page_ne hfetch hf hclean hx
    have hG : info.patchAddress = G := by simpa using List.find?_some hf
    subst hG
    have hi₁ : Inv { s with calls := ⟨info.handler, info, tid⟩ :: s.calls } :=
      hi.congr rfl rfl rfl rfl rfl rfl rfl
    refine ⟨hi₁.deleteKeepingPage hslot h₂ h₃, fun x hx => ?_⟩
    obtain ⟨l, rfl, -⟩ := sbppDeleteBreakpointFromList_eq h₂
    exact h.slot_view x hx
  · obtain ⟨rfl, rfl⟩ := Prod.mk.inj hs
    exact ⟨hi.stepOnRwView (.of_mem hmem) v, (stepOnRwView_armed hi info v).slotView⟩

/-! ### Every interleaving -/

/-- **One exit or guest event of any processor keeps `SharedInv`**, whichever processor holds
the slot. -/
theorem SharedInv.step {m m' : Machine} {e : Event} (h : SharedInv m.state)
    (he : m.enabled e = true) (hep : e.entryPoint = false) (hpc : e.postCallsFromPre m.state = true)
    (hs : m.step e = .ok m') : SharedInv m'.state := by
  have hp := h.posts.step h.inv hs
  cases e with
  | breakpoint G tid irql requests =>
    simp only [Machine.enabled, Bool.and_eq_true, beq_iff_eq] at he
    simp only [Machine.step, bind_eq_ok_iff, pure_eq_ok_iff] at hs
    obtain ⟨⟨b, s', v'⟩, h₁, rfl⟩ := hs
    obtain ⟨hi, hv⟩ := h.handleBreakpoint he.2 hpc h₁
    exact ⟨hi, hp, hv⟩
  | monitorTrapFlag =>
    simp only [Machine.step, bind_eq_ok_iff, pure_eq_ok_iff] at hs
    obtain ⟨⟨s', v'⟩, h₁, rfl⟩ := hs
    obtain ⟨hi, hlast, -⟩ := h.inv.handleMonitorTrapFlag h₁
    exact ⟨hi, hp, fun x hx => by simp [hlast] at hx⟩
  | eptViolation faultVa gpa =>
    simp only [Machine.step, bind_eq_ok_iff, pure_eq_ok_iff] at hs
    obtain ⟨⟨s', v'⟩, h₁, rfl⟩ := hs
    obtain ⟨hi, ⟨rfl, -⟩ | ⟨x, hx⟩⟩ := h.inv.handleEptViolation h₁
    · exact h
    · exact ⟨hi, hp, hx.slotView⟩
  | guestWrite gpa value =>
    simp only [Machine.step, Except.ok.injEq] at hs
    subst hs
    exact ⟨h.inv.guestWrite value he, hp,
      h.slot_view.congr (State.guestWrite_lastBreakpoint ..) (State.guestWrite_ept ..)⟩
  | guestFlags flags =>
    simp only [Machine.step, Except.ok.injEq] at hs
    subst hs
    exact h
  | createPreBreakpoint _ _ | start | disablePageShadowing => cases hep

theorem SharedInv.systemStep {sys sys' : System} {p : Nat} {e : Event} (h : SharedInv sys.state)
    (he : sys.enabled p e = true) (hep : e.entryPoint = false)
    (hpc : e.postCallsFromPre sys.state = true) (hs : sys.step p e = .ok sys') :
    SharedInv sys'.state := by
  obtain ⟨m, hm, rfl⟩ := System.step_eq hs
  exact @SharedInv.step (sys.view p) _ e h he hep hpc hm

/-- **Every interleaving keeps `SharedInv`.** -/
theorem Interleaved.sharedInv {sys₀ sys : System} (h₀ : SharedInv sys₀.state)
    (h : Interleaved sys₀ sys) : SharedInv sys.state := by
  induction h with
  | refl => exact h₀
  | step p e _ he hep hpc hs ih => exact ih.systemStep he hep hpc hs

/-- A property of the shared state that every allowed step from a state with `SharedInv` keeps
holds along every interleaving. -/
theorem Interleaved.of_step {P : State → Prop} {sys₀ sys : System} (h₀ : SharedInv sys₀.state)
    (hP₀ : P sys₀.state)
    (hstep : ∀ (m : Machine) {m' : Machine} {e : Event}, SharedInv m.state → P m.state →
      m.enabled e = true → e.entryPoint = false → e.postCallsFromPre m.state = true →
      m.step e = .ok m' → P m'.state)
    (h : Interleaved sys₀ sys) : P sys.state := by
  induction h with
  | refl => exact hP₀
  | @step sys sys' p e hprev he hep hpc hs ih =>
    obtain ⟨m, hm, rfl⟩ := System.step_eq hs
    exact hstep (sys.view p) (hprev.sharedInv h₀) ih he hep hpc hm

end DdiMon
