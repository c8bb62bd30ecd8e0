import Cfix.Storage.Discipline

/-!
# `Storage.Agreement` — value storage in user mode and in kernel mode

The two disciplines clear the value of slot 0 at different moments. `agree_iff` says for which fixtures their
routines read the same values all the same, over every behaviour of the routines.
-/

namespace Cfix

/-! ## Which routines there are -/

/-- The optional routines of a fixture. -/
structure Shape where
  setup    : Bool
  before   : Bool
  after    : Bool
  teardown : Bool

def Shape.has (p : Shape) : RoutineId → Bool
  | .setup    => p.setup
  | .before _ => p.before
  | .test _   => true
  | .after _  => p.after
  | .teardown => p.teardown

/-- The run under a discipline, from this value of the slot. -/
def Discipline.run (d : Discipline) (p : Shape) (b : RoutineId → Prog) (cases : List Nat) (value : Pvoid) :
    SlotState :=
  (RoutineId.ofFixture cases).foldl (d.step p.has b) (value, [])

/-- Both disciplines clear the value in time, if up to `n` test cases are run: it is cleared between test
    cases, or by both at no time that matters. -/
def Shape.Agrees (p : Shape) (n : Nat) (value : Pvoid) : Prop :=
  n = 0 ∨
  p.before = true ∧ (p.after = true ∨ n = 1 ∧ p.teardown = false) ∨
  p.before = false ∧ p.setup = false ∧ value = 0 ∧
    (p.after = true ∧ n = 1 ∨ p.after = false ∧ p.teardown = false)

/-! ## Runs in step -/

namespace Discipline

variable {p : Shape} {b : RoutineId → Prog} {x y : SlotState} {r : RoutineId} {i : Nat} {value : Pvoid}

/-- Before a test case: the logs are the same, and the first routine will start with the same value. -/
def InStep (p : Shape) (x y : SlotState) : Prop :=
  x.2 = y.2 ∧ if p.before then y.1 = 0 else x.1 = y.1

/-- The routines of a test case. -/
theorem ofCase_inStep (h : InStep p x y) :
    let x' := (RoutineId.ofCase i).foldl (pe.step p.has b) x
    let y' := (RoutineId.ofCase i).foldl (kernel.step p.has b) y
    x'.2 = y'.2 ∧ if p.after then y'.1 = 0 else x'.1 = y'.1 := by
  obtain ⟨v, log⟩ := x
  obtain ⟨w, log'⟩ := y
  obtain ⟨hlog, hvalue⟩ := h
  simp only at hlog hvalue
  subst hlog
  cases hb : p.before with
  | true  =>
      simp only [hb, if_true] at hvalue
      subst hvalue
      cases ha : p.after <;>
        simp [RoutineId.ofCase, step, Shape.has, pe, kernel, RoutineId.restores, hb, ha]
  | false =>
      simp only [hb, Bool.false_eq_true, if_false] at hvalue
      subst hvalue
      cases ha : p.after <;>
        simp [RoutineId.ofCase, step, Shape.has, pe, kernel, RoutineId.restores, hb, ha]

/-- Fixtures that have both Before and After, or none of them, stay in step. -/
theorem cases_inStep (hboth : p.before = p.after) (cases : List Nat) (h : InStep p x y) :
    InStep p ((cases.flatMap RoutineId.ofCase).foldl (pe.step p.has b) x)
      ((cases.flatMap RoutineId.ofCase).foldl (kernel.step p.has b) y) := by
  induction cases generalizing x y with
  | nil => exact h
  | cons i rest ih =>
      rw [List.flatMap_cons, List.foldl_append, List.foldl_append]
      apply ih
      have hcase := ofCase_inStep (b := b) (i := i) h
      rw [← hboth] at hcase
      exact hcase

/-- Routines that start with the same value read the same. -/
theorem step_log_eq (hlog : x.2 = y.2) (hstart : p.has r = true → pe.start r x.1 = kernel.start r y.1) :
    (pe.step p.has b x r).2 = (kernel.step p.has b y r).2 := by
  unfold step
  split
  · rename_i hr
    simp [hlog, hstart hr]
  · exact hlog

/-- The state after Setup. -/
def afterSetup (d : Discipline) (p : Shape) (b : RoutineId → Prog) (value : Pvoid) : SlotState :=
  d.step p.has b (value, []) .setup

/-- The state before Teardown. -/
def beforeTeardown (d : Discipline) (p : Shape) (b : RoutineId → Prog) (cases : List Nat) (value : Pvoid) :
    SlotState :=
  (cases.flatMap RoutineId.ofCase).foldl (d.step p.has b) (d.afterSetup p b value)

theorem run_eq (d : Discipline) (cases : List Nat) :
    d.run p b cases value = d.step p.has b (d.beforeTeardown p b cases value) .teardown := by
  simp [run, beforeTeardown, afterSetup, RoutineId.ofFixture]

theorem afterSetup_kernel : (kernel.afterSetup p b value).1 = 0 := by
  cases hs : p.setup <;> simp [afterSetup, step, Shape.has, kernel, hs]

theorem afterSetup_pe (h : p.setup = false) : pe.afterSetup p b value = (value, []) := by
  simp [afterSetup, step, Shape.has, h, pe]

theorem afterSetup_log_eq : (pe.afterSetup p b value).2 = (kernel.afterSetup p b value).2 :=
  step_log_eq rfl (fun _ => rfl)

theorem afterSetup_inStep (h : p.before = true ∨ p.setup = false ∧ value = 0) :
    InStep p (pe.afterSetup p b value) (kernel.afterSetup p b value) := by
  refine ⟨afterSetup_log_eq, ?_⟩
  rw [afterSetup_kernel]
  cases hb : p.before with
  | true  => rfl
  | false =>
      obtain ⟨hs, hv⟩ := h.resolve_left (by simp [hb])
      simp [afterSetup_pe hs, hv]

/-- In an agreeing shape the logs are the same before Teardown, and Teardown starts with 0. -/
theorem beforeTeardown_agrees {n : Nat} (h : p.Agrees n value) {cases : List Nat} (hlen : cases.length ≤ n) :
    (pe.beforeTeardown p b cases value).2 = (kernel.beforeTeardown p b cases value).2 ∧
      (p.teardown = true → (kernel.beforeTeardown p b cases value).1 = 0) := by
  unfold beforeTeardown
  by_cases hnone : cases = []
  · subst hnone
    exact ⟨afterSetup_log_eq, fun _ => afterSetup_kernel⟩
  have hpos : 0 < cases.length := List.length_pos_iff.mpr hnone
  have hone : n = 1 → ∃ i, cases = [i] := fun hn => List.length_eq_one_iff.mp (by omega)
  rcases h with hn | ⟨hbefore, hrest⟩ | ⟨hbefore, hs, hv, hrest⟩
  · omega
  · have hin : InStep p (pe.afterSetup p b value) (kernel.afterSetup p b value) :=
      afterSetup_inStep (.inl hbefore)
    rcases hrest with hafter | ⟨hn, hteardown⟩
    · obtain ⟨hsame, hcleared⟩ := cases_inStep (hbefore.trans hafter.symm) cases hin
      rw [hbefore, if_pos rfl] at hcleared
      exact ⟨hsame, fun _ => hcleared⟩
    · obtain ⟨i, rfl⟩ := hone hn
      rw [List.flatMap_singleton]
      exact ⟨(ofCase_inStep hin).1, fun ht => by rw [hteardown] at ht; cases ht⟩
  · have hin : InStep p (pe.afterSetup p b value) (kernel.afterSetup p b value) :=
      afterSetup_inStep (.inr ⟨hs, hv⟩)
    rcases hrest with ⟨hafter, hn⟩ | ⟨hafter, hteardown⟩
    · obtain ⟨i, rfl⟩ := hone hn
      obtain ⟨hsame, hcleared⟩ := ofCase_inStep (i := i) hin
      rw [hafter, if_pos rfl] at hcleared
      rw [List.flatMap_singleton]
      exact ⟨hsame, fun _ => hcleared⟩
    · obtain ⟨hsame, -⟩ := cases_inStep (hbefore.trans hafter.symm) cases hin
      exact ⟨hsame, fun ht => by rw [hteardown] at ht; cases ht⟩

/-- **Where the shape agrees, so do the logs.** -/
theorem log_run_eq {n : Nat} (h : p.Agrees n value) {cases : List Nat} (hlen : cases.length ≤ n) :
    (pe.run p b cases value).2 = (kernel.run p b cases value).2 := by
  obtain ⟨hsame, hcleared⟩ := beforeTeardown_agrees h hlen
  rw [run_eq, run_eq]
  exact step_log_eq hsame fun ht => (hcleared ht).symm

/-! ## Runs that diverge -/

/-- The logs differ in a value. -/
def Diverged (x y : SlotState) : Prop := x.2.length = y.2.length ∧ x.2 ≠ y.2

theorem Diverged.step (h : Diverged x y) (r : RoutineId) :
    Diverged (pe.step p.has b x r) (kernel.step p.has b y r) := by
  unfold Discipline.step
  split
  · refine ⟨by simp [h.1], ?_⟩
    intro heq
    exact h.2 (List.append_inj_left heq h.1)
  · exact h

/-- What has diverged stays so. -/
theorem Diverged.foldl (h : Diverged x y) (l : List RoutineId) :
    Diverged (l.foldl (pe.step p.has b) x) (l.foldl (kernel.step p.has b) y) :=
  List.foldl_rel h fun r _ _ _ hd => hd.step r

/-- Routines that all read slot 0 and set it to 1. -/
def probe : RoutineId → Prog := fun _ => readAndSet 1

theorem step_probe (d : Discipline) (hr : p.has r = true) :
    d.step p.has probe x r = (d.leave r 1, x.2 ++ [⟨r, [⟨0#32, d.start r x.1⟩]⟩]) := by
  simp [step, hr, probe, readAndSet, Prog.runInDriver, Prog.exec, kernelGetValue, kernelSetValue]

/-- A routine that starts with different values reads them. -/
theorem diverged_of_start (hlog : x.2 = y.2) (hr : p.has r = true)
    (hstart : pe.start r x.1 ≠ kernel.start r y.1) :
    Diverged (pe.step p.has probe x r) (kernel.step p.has probe y r) := by
  rw [step_probe pe hr, step_probe kernel hr, Diverged, hlog]
  exact ⟨by simp, by simpa using hstart⟩

theorem start_before_ne (h : y.1 = 1) : pe.start (.before i) x.1 ≠ kernel.start (.before i) y.1 := by
  change 0 ≠ y.1
  rw [h]
  decide

theorem start_teardown_ne (h : y.1 = 1) : pe.start .teardown x.1 ≠ kernel.start .teardown y.1 := by
  change 0 ≠ y.1
  rw [h]
  decide

/-- A test case that starts with different values diverges if there is no Before routine. -/
theorem diverged_ofCase (hlog : x.2 = y.2) (hbefore : p.before = false) (hvalue : x.1 ≠ y.1) (i : Nat) :
    Diverged ((RoutineId.ofCase i).foldl (pe.step p.has probe) x)
      ((RoutineId.ofCase i).foldl (kernel.step p.has probe) y) := by
  have hskip : ∀ (d : Discipline) (z : SlotState), d.step p.has probe z (.before i) = (d.absent (.before i) z.1, z.2) := by
    intro d z
    simp [step, Shape.has, hbefore]
  simp only [RoutineId.ofCase, List.foldl_cons, hskip, List.foldl_nil]
  exact (diverged_of_start (r := .test i) hlog rfl hvalue).step _

/-- The test routine's value is kept in user mode. -/
theorem ofCase_pe_probe (i : Nat) : ((RoutineId.ofCase i).foldl (pe.step p.has probe) x).1 = 1 := by
  cases hb : p.before <;> cases ha : p.after <;>
    simp [RoutineId.ofCase, step, Shape.has, pe, hb, ha, probe, readAndSet, Prog.runInDriver, Prog.exec,
      kernelSetValue]

/-- In kernel mode it is kept if there is no After routine. -/
theorem ofCase_kernel_probe (ha : p.after = false) (i : Nat) :
    ((RoutineId.ofCase i).foldl (kernel.step p.has probe) x).1 = 1 := by
  cases hb : p.before <;>
    simp [RoutineId.ofCase, step, Shape.has, kernel, hb, ha, probe, readAndSet, Prog.runInDriver, Prog.exec,
      kernelSetValue]

theorem cases_kernel_probe (ha : p.after = false) (cases : List Nat) (h : x.1 = 1) :
    ((cases.flatMap RoutineId.ofCase).foldl (kernel.step p.has probe) x).1 = 1 := by
  induction cases generalizing x with
  | nil => exact h
  | cons i rest ih =>
      rw [List.flatMap_cons, List.foldl_append]
      exact ih (ofCase_kernel_probe ha i)

/-- **Where the shape does not agree, the probe tells the modules apart.** -/
theorem diverged_run {cases : List Nat} (h : ¬p.Agrees cases.length value) :
    Diverged (pe.run p probe cases value) (kernel.run p probe cases value) := by
  simp only [Shape.Agrees, not_or, not_and] at h
  obtain ⟨hn, hwith, hwithout⟩ := h
  obtain ⟨i, rest, rfl⟩ : ∃ i rest, cases = i :: rest := List.exists_cons_of_ne_nil (fun h => hn (by simp [h]))
  rw [run_eq, run_eq, beforeTeardown, beforeTeardown, List.flatMap_cons, List.foldl_append, List.foldl_append]
  cases hb : p.before with
  | true  =>
      obtain ⟨ha, hrest⟩ := hwith hb
      rw [Bool.not_eq_true] at ha
      have hin : InStep p (pe.afterSetup p probe value) (kernel.afterSetup p probe value) :=
        afterSetup_inStep (.inl hb)
      have hlog := (ofCase_inStep (b := probe) (i := i) hin).1
      have hone := ofCase_kernel_probe (x := kernel.afterSetup p probe value) ha i
      cases rest with
      | nil            =>
          -- Teardown starts with 0 and with the value of the test routine
          have ht : p.teardown = true := by simpa using hrest rfl
          exact diverged_of_start hlog ht (start_teardown_ne hone)
      | cons j rest =>
          -- the next Before routine does
          have hbefore := diverged_of_start (r := .before j) hlog hb (start_before_ne hone)
          exact ((hbefore.foldl [.test j, .after j]).foldl (rest.flatMap RoutineId.ofCase)).step _
  | false =>
      by_cases hset : p.setup = false ∧ value = 0
      · have hin : InStep p (pe.afterSetup p probe value) (kernel.afterSetup p probe value) :=
          afterSetup_inStep (.inr hset)
        obtain ⟨hlog, hcase⟩ := ofCase_inStep (b := probe) (i := i) hin
        obtain ⟨hcleared, hkept⟩ := hwithout hb hset.1 hset.2
        cases ha : p.after with
        | true  =>
            -- the next test routine starts with the value that is cleared in kernel mode
            rw [ha, if_pos rfl] at hcase
            cases rest with
            | nil         => exact absurd rfl (hcleared ha)
            | cons j rest =>
                have hne : ((RoutineId.ofCase i).foldl (pe.step p.has probe) (pe.afterSetup p probe value)).1 ≠
                    ((RoutineId.ofCase i).foldl (kernel.step p.has probe) (kernel.afterSetup p probe value)).1 := by
                  rw [ofCase_pe_probe, hcase]
                  decide
                have hnext := diverged_ofCase hlog hb hne j
                rw [List.flatMap_cons, List.foldl_append, List.foldl_append]
                exact (hnext.foldl _).step _
        | false =>
            -- Teardown starts with 0 and with the value of the last test routine
            have ht : p.teardown = true := by simpa using hkept ha
            rw [ha, if_neg Bool.false_ne_true] at hcase
            have hstep : InStep p ((RoutineId.ofCase i).foldl (pe.step p.has probe) (pe.afterSetup p probe value))
                ((RoutineId.ofCase i).foldl (kernel.step p.has probe) (kernel.afterSetup p probe value)) := by
              refine ⟨hlog, ?_⟩
              rw [hb, if_neg Bool.false_ne_true]
              exact hcase
            have hlog' := (cases_inStep (b := probe) (hb.trans ha.symm) rest hstep).1
            have hone := cases_kernel_probe ha rest
              (ofCase_kernel_probe (x := kernel.afterSetup p probe value) ha i)
            exact diverged_of_start hlog' ht (start_teardown_ne hone)
      · -- the first test routine starts with what Setup or an earlier fixture has left
        have hne : (pe.afterSetup p probe value).1 ≠ (kernel.afterSetup p probe value).1 := by
          rw [afterSetup_kernel]
          cases hs : p.setup with
          | true  =>
              have hone : (pe.afterSetup p probe value).1 = 1 := by
                rw [afterSetup, step_probe (r := .setup) pe hs]
                rfl
              rw [hone]
              decide
          | false =>
              rw [afterSetup_pe hs]
              exact fun hv => hset ⟨hs, hv⟩
        have hfirst := diverged_ofCase afterSetup_log_eq hb hne i
        exact (hfirst.foldl _).step _

end Discipline

/-! ## The modules -/

/-- **Agreement of the modules**: when all routines succeed, they read the same values in a process, from
    these TLS slots on, and in a driver. -/
def Agree (a k : TsexecAction) (tls : Storage) : Prop :=
  ∀ (c : Callbacks) (e : PeEnvironment (List Observation)) (d : KernelEnvironment (List Observation))
    (b : RoutineId → Prog), e.Succeeds c → d.Succeeds c → (∀ r, (b r).Plain) →
    e.observations b a tls = d.observations b k

def Fixture.shape (f : Fixture) : Shape where
  setup    := f.setupRoutine != 0
  before   := f.beforeRoutine != 0
  after    := f.afterRoutine != 0
  teardown := f.teardownRoutine != 0

namespace SameFixture

variable {a k : TsexecAction} {c : Callbacks}

theorem has_shape (h : SameFixture a k) : k.fixture.kernelRoutine = a.fixture.shape.has := by
  funext r
  cases r with
  | test i => rfl
  | setup | before i | after i | teardown =>
      rw [Bool.eq_iff_iff, ← h.optional _ (fun i hi => by cases hi)]
      simp [Fixture.shape, Shape.has, Fixture.routine]

/-- The reads of a smooth run in user mode. -/
theorem observations_pe (h : SameFixture a k) {e : PeEnvironment (List Observation)} {b : RoutineId → Prog}
    (he : e.Succeeds c) (hb : ∀ r, (b r).Plain) (hc : failed c.fixtureStart = false) (tls : Storage) :
    e.observations b a tls = (Discipline.pe.run a.fixture.shape b (a.startedCases c) tls.defaultSlot).2 := by
  have hview := (h.peSmooth he hb).run { env := { table := ⟨0, 0⟩, tls := tls, user := [] }, trace := [] }
  rw [TsexecAction.smoothRoutines, hc, if_neg Bool.false_ne_true, h.has_shape] at hview
  exact congrArg Prod.snd hview

/-- The reads of a smooth run in kernel mode. -/
theorem observations_kernel (h : SameFixture a k) {d : KernelEnvironment (List Observation)}
    {b : RoutineId → Prog} (hd : d.Succeeds c) (hb : ∀ r, (b r).Plain) (hc : failed c.fixtureStart = false)
    (value : Pvoid) :
    d.observations b k = (Discipline.kernel.run a.fixture.shape b (a.startedCases c) value).2 := by
  have hview := (kernelSmooth (k := k) hd hb).run
    { env := { table := ⟨0, 0⟩, tlsValuePtr := none, user := [] }, trace := [] }
  rw [← h.smoothRoutines_eq, TsexecAction.smoothRoutines, hc, if_neg Bool.false_ne_true, h.has_shape] at hview
  -- Setup's runner does not look at the slot
  have hsetup : ∀ slot, Discipline.kernel.step a.fixture.shape.has b (slot, []) .setup =
      Discipline.kernel.step a.fixture.shape.has b (value, []) .setup := fun _ => rfl
  refine (congrArg Prod.snd hview).trans ?_
  simp only [Discipline.run, RoutineId.ofFixture, List.cons_append, List.foldl_cons]
  rw [hsetup]

end SameFixture

/-- The codes of a context that refuses nothing. -/
def Callbacks.accepting : Callbacks where
  fixtureStart    := sOk
  testCaseStart _ := sOk

theorem startedCases_accepting (a : TsexecAction) : a.startedCases .accepting = a.selected :=
  TsexecAction.startedCases_of_accepted fun _ _ _ => failed_sOk

theorem succeeds_stalePe : PeEnvironment.stalePe.Succeeds .accepting :=
  ⟨rfl, rfl, rfl, fun _ => failed_sOk⟩

/-- Every call succeeds. -/
def KernelEnvironment.allOk : KernelEnvironment (List Observation) where
  isValidContext        := true
  isDebuggerPresent _   := false
  currentThreadId       := 1
  beforeFixtureStart    := sOk
  beforeTestCaseStart _ := sOk
  malloc                := true
  deviceIoControl _     := sOk
  body                  := observeInDriver Discipline.probe

theorem succeeds_allOk : KernelEnvironment.allOk.Succeeds .accepting :=
  ⟨rfl, rfl, rfl, rfl, fun _ => failed_sOk⟩

theorem plain_probe (r : RoutineId) : (Discipline.probe r).Plain :=
  ⟨by decide, fun _ => ⟨by decide, rfl⟩⟩

/-- **User mode and kernel mode**: the routines of a fixture read the same values in both, whatever they do,
    iff its shape agrees. -/
theorem agree_iff (a k : TsexecAction) (h : SameFixture a k) (tls : Storage) :
    Agree a k tls ↔ a.fixture.shape.Agrees a.selected.length tls.defaultSlot := by
  constructor
  · intro hagree
    by_contra hnot
    have hlog := hagree .accepting .stalePe .allOk Discipline.probe succeeds_stalePe succeeds_allOk plain_probe
    rw [h.observations_pe succeeds_stalePe plain_probe failed_sOk,
      h.observations_kernel succeeds_allOk plain_probe failed_sOk tls.defaultSlot, startedCases_accepting]
      at hlog
    exact (Discipline.diverged_run hnot).2 hlog
  · intro hagrees c e d b he hd hb
    cases hc : failed c.fixtureStart with
    | true  =>
        -- nothing is run
        have hpe := (h.peSmooth he hb).run { env := { table := ⟨0, 0⟩, tls := tls, user := [] }, trace := [] }
        have hkernel := (SameFixture.kernelSmooth (k := k) hd hb).run
          { env := { table := ⟨0, 0⟩, tlsValuePtr := none, user := [] }, trace := [] }
        rw [TsexecAction.smoothRoutines, hc, if_pos rfl] at hpe hkernel
        exact (congrArg Prod.snd hpe).trans (congrArg Prod.snd hkernel).symm
    | false =>
        rw [h.observations_pe he hb hc, h.observations_kernel hd hb hc tls.defaultSlot]
        have hprefix : (a.startedCases c).length ≤ a.selected.length :=
          (List.takeWhile_prefix _).length_le
        exact Discipline.log_run_eq hagrees hprefix

/-- The same fixture in a driver, where a routine is a key with the bit for its presence. -/
def inDriver (a : TsexecAction) : TsexecAction where
  fixture := { a.fixture with
    setupRoutine    := if a.fixture.setupRoutine = 0 then 0 else 0x80000001
    teardownRoutine := if a.fixture.teardownRoutine = 0 then 0 else 0x80000002
    beforeRoutine   := if a.fixture.beforeRoutine = 0 then 0 else 0x80000003
    afterRoutine    := if a.fixture.afterRoutine = 0 then 0 else 0x80000004 }
  flags         := a.flags
  testCaseIndex := a.testCaseIndex
  index_lt      := a.index_lt

theorem sameFixture_inDriver (a : TsexecAction)
    (h : ∀ i < a.fixture.testCases.length, a.fixture.routine (.test i) ≠ 0) : SameFixture a (inDriver a) where
  length   := rfl
  index    := rfl
  optional := by
    intro r hr
    cases r with
    | test i => exact absurd rfl (hr i)
    | setup | before i | after i | teardown =>
        simp only [Fixture.routine, Fixture.kernelRoutine, inDriver, cfixklpRoutinePresent]
        split <;> simp [*]
  test     := h

/-- The routines of a fixture that has all of them read the same. -/
theorem agree_twoTestCases : Agree (twoTestCases 0#32) (inDriver (twoTestCases 0#32)) .zero :=
  (agree_iff _ _ (sameFixture_inDriver _ (by decide)) .zero).mpr (.inr (.inl ⟨rfl, .inl rfl⟩))

/-- A fixture with Before, one test case and Teardown. -/
def withoutAfter : TsexecAction where
  fixture :=
    { name := "Fixture", setupRoutine := 0, teardownRoutine := 2, beforeRoutine := 3, afterRoutine := 0,
      flags := 0#32, testCases := [⟨"Test", 5⟩] }
  flags         := 0#32
  testCaseIndex := none
  index_lt _ h  := nomatch h

/-- In the driver Teardown reads what the test routine has written. -/
theorem teardown_disagrees : SameFixture withoutAfter (inDriver withoutAfter) ∧
    ¬Agree withoutAfter (inDriver withoutAfter) .zero := by
  refine ⟨sameFixture_inDriver _ (by decide), ?_⟩
  intro h
  have hlog := h .accepting .stalePe .allOk Discipline.probe succeeds_stalePe succeeds_allOk plain_probe
  exact absurd hlog (by decide)

end Cfix
