import Cfix.Fixture.Smooth
import Cfix.Storage.Isolation
import Cfix.Storage.KernelModule

/-!
# `Storage.Discipline` — what the runners do with the value of slot 0

A `Discipline` says with which value a routine starts and which value is kept after it. When all routines
succeed, the runs of both modules refine their disciplines (`peSmooth`, `kernelSmooth`).
-/

namespace Cfix

/-! ## Disciplines -/

/-- `absent` is the value after the runner of a routine that the fixture does not have. -/
structure Discipline where
  start  : RoutineId → Pvoid → Pvoid
  leave  : RoutineId → Pvoid → Pvoid
  absent : RoutineId → Pvoid → Pvoid

/-- The value of slot 0 and the reads so far. -/
abbrev SlotState := Pvoid × List Observation

/-- The value is cleared at the start of Setup, Before and Teardown. -/
def Discipline.pe : Discipline where
  start r v  := if r.restores then v else 0
  leave _ v  := v
  absent _ v := v

/-- The value is cleared by Setup's runner, after an After routine, and when Teardown frees the cell. -/
def Discipline.kernel : Discipline where
  start
    | .setup, _                                    => 0
    | .before _, v | .test _, v | .after _, v | .teardown, v => v
  leave
    | .setup, _ | .after _, _ | .teardown, _       => 0
    | .before _, v | .test _, v                    => v
  absent
    | .setup, _ | .teardown, _                     => 0
    | .before _, v | .test _, v | .after _, v      => v

/-- What a runner does. -/
def Discipline.step (d : Discipline) (present : RoutineId → Bool) (b : RoutineId → Prog) (x : SlotState)
    (r : RoutineId) : SlotState :=
  if present r then
    let y := (b r).runInDriver (d.start r x.1)
    (d.leave r y.storage, x.2 ++ [⟨r, y.reads⟩])
  else (d.absent r x.1, x.2)

/-! ## The runs -/

/-- The routine exists for the runners of `cfixkl/module.c`. -/
def Fixture.kernelRoutine (f : Fixture) : RoutineId → Bool
  | .setup    => f.setupRoutine &&& f.setupRoutine != 0
  | .before _ => f.beforeRoutine &&& cfixklpRoutinePresent != 0
  | .test _   => true
  | .after _  => f.afterRoutine &&& cfixklpRoutinePresent != 0
  | .teardown => f.teardownRoutine &&& cfixklpRoutinePresent != 0

/-- `a` runs a fixture of a user-mode module and `k` the same fixture of a driver. -/
structure SameFixture (a k : TsexecAction) : Prop where
  length   : a.fixture.testCases.length = k.fixture.testCases.length
  index    : a.testCaseIndex = k.testCaseIndex
  optional : ∀ r, (∀ i, r ≠ .test i) → (a.fixture.routine r ≠ 0 ↔ k.fixture.kernelRoutine r = true)
  test     : ∀ i < a.fixture.testCases.length, a.fixture.routine (.test i) ≠ 0

/-- No call fails for a reason other than the routines, and the context answers so. -/
structure PeEnvironment.Succeeds {ω : Type} (e : PeEnvironment ω) (c : Callbacks) : Prop where
  valid         : e.isValidContext = true
  fixtureStart  : e.beforeFixtureStart = c.fixtureStart
  testCaseStart : e.beforeTestCaseStart = c.testCaseStart
  install       : ∀ r, failed (e.install r) = false

structure KernelEnvironment.Succeeds {ω : Type} (k : KernelEnvironment ω) (c : Callbacks) : Prop where
  valid           : k.isValidContext = true
  fixtureStart    : k.beforeFixtureStart = c.fixtureStart
  testCaseStart   : k.beforeTestCaseStart = c.testCaseStart
  malloc          : k.malloc = true
  deviceIoControl : ∀ r, failed (k.deviceIoControl r) = false

/-- Routines in a driver with this behaviour, whose reads are recorded. -/
def observeInDriver (b : RoutineId → Prog) (r : RoutineId) : KernelBody (List Observation) := fun slot log =>
  let x := (b r).runInDriver slot
  (x.completion, x.storage, log ++ [⟨r, x.reads⟩])

namespace KernelEnvironment

def observing (k : KernelEnvironment (List Observation)) (b : RoutineId → Prog) :
    KernelEnvironment (List Observation) :=
  { k with body := observeInDriver b }

/-- The reads in a run. -/
def observations (k : KernelEnvironment (List Observation)) (b : RoutineId → Prog) (a : TsexecAction) :
    List Observation :=
  ((k.observing b).run a []).2.env.user

end KernelEnvironment

/-! ## Refinement -/

namespace SameFixture

variable {a k : TsexecAction} {c : Callbacks}

theorem selected_eq (h : SameFixture a k) : a.selected = k.selected := by
  have hsel : a.selects = k.selects := by
    funext i
    rw [TsexecAction.selects, TsexecAction.selects, h.index]
  rw [TsexecAction.selected, TsexecAction.selected, h.length, hsel]

theorem smoothRoutines_eq (h : SameFixture a k) (c : Callbacks) : a.smoothRoutines c = k.smoothRoutines c := by
  rw [TsexecAction.smoothRoutines, TsexecAction.smoothRoutines, TsexecAction.startedCases,
    TsexecAction.startedCases, h.selected_eq]

/-- The user-mode runner of a routine refines its discipline. -/
theorem runRoutine_pe {e : PeEnvironment (List Observation)} {b : RoutineId → Prog} {r : RoutineId}
    (h : SameFixture a k) (he : e.Succeeds c) (hb : ∀ r, (b r).Plain)
    (hlt : ∀ i, r = .test i → i < a.fixture.testCases.length) (s : PeState (List Observation)) :
    ((e.observing b).runRoutine a.fixture s r).1 = sOk ∧
      (((e.observing b).runRoutine a.fixture s r).2.tls.defaultSlot,
        ((e.observing b).runRoutine a.fixture s r).2.user) =
        Discipline.pe.step k.fixture.kernelRoutine b (s.tls.defaultSlot, s.user) r := by
  by_cases hr : a.fixture.routine r = 0
  · -- only test routines are not optional
    have hopt : ∀ i, r ≠ .test i := by
      rintro i rfl
      exact h.test i (hlt i rfl) hr
    have hk : k.fixture.kernelRoutine r = false := by
      rw [← Bool.not_eq_true, ← h.optional r hopt]
      exact not_not_intro hr
    have habsent : r.absentHr = sOk := by
      cases r with
      | test i => exact absurd rfl (hopt i)
      | setup | before i | after i | teardown => rfl
    rw [PeEnvironment.runRoutine_of_absent (e := e.observing b) he.valid hr]
    simp [Discipline.step, hk, habsent, Discipline.pe]
  · have hk : k.fixture.kernelRoutine r = true := by
      cases r with
      | test i => rfl
      | setup | before i | after i | teardown => exact (h.optional _ (fun i hi => by cases hi)).mp hr
    have hent : e.enters a.fixture r = true := by simp [PeEnvironment.enters, hr, he.install r]
    have hstart : Discipline.pe.start r s.tls.defaultSlot = (r.slots s.tls).defaultSlot := by
      cases hres : r.restores <;> simp [Discipline.pe, RoutineId.slots, hres, Storage.zero]
    obtain ⟨-, hstorage, hreads⟩ := Prog.runInDriver_eq (hb r) (r.slots s.tls)
    rw [PeEnvironment.runRoutine_observing he.valid hent]
    simp only [Discipline.step, hk, if_true, hstart, hstorage, hreads, Prog.completion_run (hb r),
      Completion.result, RoutineId.mapHr_sOk, true_and]
    rfl

/-- **The user-mode module refines its discipline.** -/
theorem peSmooth (h : SameFixture a k) {e : PeEnvironment (List Observation)} {b : RoutineId → Prog}
    (he : e.Succeeds c) (hb : ∀ r, (b r).Plain) :
    Smooth (e.observing b).host a c (fun s => s.table.index) (fun s => (s.tls.defaultSlot, s.user))
      (Discipline.pe.step k.fixture.kernelRoutine b) where
  valid         := he.valid
  fixtureStart  := fun _ => ⟨he.fixtureStart, rfl⟩
  caseStart     := fun i _ => ⟨congrFun he.testCaseStart i, rfl, rfl⟩
  setup         := fun _ s => h.runRoutine_pe he hb (r := .setup) nofun s
  before        := by
    intro _ s
    obtain ⟨hhr, hview⟩ := h.runRoutine_pe he hb (r := .before s.table.index) nofun s
    exact ⟨hhr, rfl, hview⟩
  test          := by
    intro i _ s hlt
    obtain ⟨hhr, hview⟩ := h.runRoutine_pe he hb (r := .test i) (by rintro _ ⟨⟩; exact hlt) s
    exact ⟨hhr, rfl, hview⟩
  after         := fun _ s => h.runRoutine_pe he hb (r := .after s.table.index) nofun s
  teardown      := fun _ s => h.runRoutine_pe he hb (r := .teardown) nofun s
  caseFinish    := fun _ _ _ => rfl
  fixtureFinish := fun _ _ => rfl

/-- A call into the driver. -/
theorem callRoutine_observing {d : KernelEnvironment (List Observation)} {b : RoutineId → Prog}
    (hd : d.Succeeds c) (hb : ∀ r, (b r).Plain) (r : RoutineId) (slot : Pvoid) (log : List Observation) :
    (d.observing b).callRoutine r slot log =
      ⟨sOk, true, false, ((b r).runInDriver slot).storage, log ++ [⟨r, ((b r).runInDriver slot).reads⟩]⟩ := by
  have hreturned : ((b r).runInDriver slot).completion = .returned := by
    obtain ⟨hcompletion, -, -⟩ := Prog.runInDriver_eq (hb r) ⟨slot, 0⟩
    exact hcompletion.trans (Prog.completion_run (hb r) _)
  simp [KernelEnvironment.callRoutine, KernelEnvironment.observing, observeInDriver, hd.deviceIoControl r,
    hreturned]

theorem responseHr_ok {ω : Type} (slot : Pvoid) (user : ω) (failureHr : HRESULT) :
    KernelEnvironment.responseHr ⟨sOk, true, false, slot, user⟩ failureHr = sOk := by
  simp [KernelEnvironment.responseHr]

/-- **The kernel module refines its discipline.** -/
theorem kernelSmooth {d : KernelEnvironment (List Observation)} {b : RoutineId → Prog}
    (hd : d.Succeeds c) (hb : ∀ r, (b r).Plain) :
    Smooth (d.observing b).host k c (fun s => s.table.index) (fun s => (s.tlsValue, s.user))
      (Discipline.kernel.step k.fixture.kernelRoutine b) where
  valid         := hd.valid
  fixtureStart  := fun _ => ⟨hd.fixtureStart, rfl⟩
  caseStart     := fun i _ => ⟨congrFun hd.testCaseStart i, rfl, rfl⟩
  setup         := by
    intro _ s
    have hv : (d.observing b).isValidContext = true := hd.valid
    have hm : (d.observing b).malloc = true := hd.malloc
    simp only [KernelEnvironment.host, KernelEnvironment.dispatch, KernelEnvironment.runSetupRoutine, hv, hm,
      callRoutine_observing hd hb, Discipline.step, Bool.not_true, Bool.false_eq_true,
      if_false]
    cases hp : k.fixture.kernelRoutine .setup with
    | true  =>
        have htag : (k.fixture.setupRoutine &&& k.fixture.setupRoutine != 0) = true := hp
        simp only [htag, if_true]
        exact ⟨responseHr_ok _ _ _, rfl⟩
    | false =>
        have htag : (k.fixture.setupRoutine &&& k.fixture.setupRoutine != 0) = false := hp
        simp only [htag, Bool.false_eq_true, if_false]
        exact ⟨trivial, rfl⟩
  before        := by
    intro _ s
    have hv : (d.observing b).isValidContext = true := hd.valid
    simp only [KernelEnvironment.host, KernelEnvironment.dispatch, KernelEnvironment.runBeforeRoutine,
      KernelEnvironment.runBeforeOrAfterRoutine, hv, callRoutine_observing hd hb, Discipline.step,
      Bool.not_true, Bool.false_eq_true, if_false]
    cases hp : k.fixture.kernelRoutine (.before s.table.index) with
    | true  =>
        have htag : (k.fixture.beforeRoutine &&& cfixklpRoutinePresent != 0) = true := hp
        simp only [htag, if_true]
        exact ⟨responseHr_ok _ _ _, rfl, rfl⟩
    | false =>
        have htag : (k.fixture.beforeRoutine &&& cfixklpRoutinePresent != 0) = false := hp
        simp only [htag, Bool.false_eq_true, if_false]
        exact ⟨trivial, rfl, rfl⟩
  test          := by
    intro i _ s _
    have hv : (d.observing b).isValidContext = true := hd.valid
    simp only [KernelEnvironment.host, KernelEnvironment.dispatch, KernelEnvironment.runTestCaseRoutine, hv,
      callRoutine_observing hd hb, Discipline.step, Bool.not_true, Bool.false_eq_true,
      if_false]
    exact ⟨responseHr_ok _ _ _, rfl, rfl⟩
  after         := by
    intro _ s
    have hv : (d.observing b).isValidContext = true := hd.valid
    simp only [KernelEnvironment.host, KernelEnvironment.dispatch, KernelEnvironment.runAfterRoutine,
      KernelEnvironment.runBeforeOrAfterRoutine, hv, callRoutine_observing hd hb, Discipline.step,
      Bool.not_true, Bool.false_eq_true, if_false, if_true]
    cases hp : k.fixture.kernelRoutine (.after s.table.index) with
    | true  =>
        have htag : (k.fixture.afterRoutine &&& cfixklpRoutinePresent != 0) = true := hp
        simp only [htag, if_true]
        exact ⟨responseHr_ok _ _ _, rfl⟩
    | false =>
        have htag : (k.fixture.afterRoutine &&& cfixklpRoutinePresent != 0) = false := hp
        simp only [htag, Bool.false_eq_true, if_false]
        exact ⟨trivial, rfl⟩
  teardown      := by
    intro _ s
    have hv : (d.observing b).isValidContext = true := hd.valid
    simp only [KernelEnvironment.host, KernelEnvironment.dispatch, KernelEnvironment.runTeardownRoutine, hv,
      callRoutine_observing hd hb, Discipline.step, Bool.not_true, Bool.false_eq_true,
      if_false]
    cases hp : k.fixture.kernelRoutine .teardown with
    | true  =>
        have htag : (k.fixture.teardownRoutine &&& cfixklpRoutinePresent != 0) = true := hp
        simp only [htag, if_true]
        exact ⟨responseHr_ok _ _ _, rfl⟩
    | false =>
        have htag : (k.fixture.teardownRoutine &&& cfixklpRoutinePresent != 0) = false := hp
        simp only [htag, Bool.false_eq_true, if_false]
        exact ⟨trivial, rfl⟩
  caseFinish    := fun _ _ _ => rfl
  fixtureFinish := fun _ _ => rfl

end SameFixture

end Cfix
