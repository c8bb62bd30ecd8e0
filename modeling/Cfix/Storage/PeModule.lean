import Cfix.Fixture.Outline
import Cfix.Storage.Slots

/-!
# `Storage.PeModule` — the routine runners of a user-mode module (`cfix/pe.c`)

Each routine runs in a filament of its own. The filament's slots are loaded from the thread's TLS slots if
the runner says so, and are stored there when the filament is destroyed. What the routines do is a parameter,
on the slots and on a state `ω` of the test code.
-/

namespace Cfix

/-! ## Environment -/

/-- `TestCase->Routine`. -/
def TestCaseRef.routine (testCase : TestCaseRef) : Nat :=
  match testCase.fixture.testCases[testCase.index]? with
  | some tc => tc.routine
  | none    => 0

/-- The routine's address, which is `NULL` if the fixture does not have it. -/
def Fixture.routine (f : Fixture) : RoutineId → Nat
  | .setup    => f.setupRoutine
  | .before _ => f.beforeRoutine
  | .test i   => (⟨f, i⟩ : TestCaseRef).routine
  | .after _  => f.afterRoutine
  | .teardown => f.teardownRoutine

/-- What a routine does. -/
abbrev Body (ω : Type) := Storage → ω → Completion × Storage × ω

/-- What a run depends on besides the action: the execution context and the routines. -/
structure PeEnvironment (ω : Type) where
  isValidContext      : Bool
  isDebuggerPresent   : Nat → Bool
  currentThreadId     : Nat
  beforeFixtureStart  : HRESULT
  beforeTestCaseStart : Nat → HRESULT
  /-- The result of `CfixpSetCurrentFilament` for the routine's filament. -/
  install             : RoutineId → HRESULT
  body                : RoutineId → Body ω

/-- The TLS slots of the main thread and the state of the test code. `table` is where the run stands. -/
structure PeState (ω : Type) where
  table : TableEnv
  tls   : Storage
  user  : ω

variable {ω : Type}

/-! ## Runners -/

/-- The result of a routine that ends so. -/
def Completion.result : Completion → HRESULT
  | .returned     => sOk
  | .raised true  => eTestrunAborted
  | .raised false => eTestRoutineFailed

namespace PeEnvironment

variable (e : PeEnvironment ω)

/-- `CfixsRunTestRoutine` on the main thread. `CfixpInitializeFilament` loads the slots, and
    `CfixpDestroyFilament` stores them. -/
def runTestRoutine (routine : Nat) (r : RoutineId) (restoreFilamentStorage : Bool) (s : PeState ω) :
    HRESULT × PeState ω :=
  if routine == 0 then (eUnexpected, s)
  else
    let storage := if restoreFilamentStorage then s.tls else .zero
    let hr := e.install r
    if failed hr then (hr, { s with tls := storage })
    else
      let (completion, storage, user) := e.body r storage s.user
      (completion.result, { s with tls := storage, user := user })

/-- The common part of the runners for optional routines. -/
def runOptionalRoutine (routine : Nat) (r : RoutineId) (restoreFilamentStorage : Bool) (failureHr : HRESULT)
    (s : PeState ω) : HRESULT × PeState ω :=
  if !e.isValidContext then (eInvalidarg, s)
  else if routine != 0 then
    let (hr, s) := e.runTestRoutine routine r restoreFilamentStorage s
    if hr == eTestRoutineFailed then (failureHr, s) else (hr, s)
  else (sOk, s)

/-- `CfixsRunSetupTestModule`: the storage is not restored, as this is a new fixture. -/
def runSetupTestModule (f : Fixture) : PeState ω → HRESULT × PeState ω :=
  e.runOptionalRoutine f.setupRoutine .setup false eSetupRoutineFailed

/-- `CfixsRunTeardownTestModule`: Teardown does not see what Before, test or After routines have set. -/
def runTeardownTestModule (f : Fixture) : PeState ω → HRESULT × PeState ω :=
  e.runOptionalRoutine f.teardownRoutine .teardown false eTeardownRoutineFailed

/-- `CfixsRunBeforeTestModule`: Before does not see what Setup has set. -/
def runBeforeTestModule (f : Fixture) (i : Nat) : PeState ω → HRESULT × PeState ω :=
  e.runOptionalRoutine f.beforeRoutine (.before i) false eBeforeRoutineFailed

/-- `CfixsRunAfterTestModule`. -/
def runAfterTestModule (f : Fixture) (i : Nat) : PeState ω → HRESULT × PeState ω :=
  e.runOptionalRoutine f.afterRoutine (.after i) true eAfterRoutineFailed

/-- `CfixsRunTestCaseTestModule`. -/
def runTestCaseTestModule (testCase : TestCaseRef) (s : PeState ω) : HRESULT × PeState ω :=
  if !e.isValidContext then (eInvalidarg, s)
  else e.runTestRoutine testCase.routine (.test testCase.index) true s

/-- What a call of the fixture action does, before it is counted. -/
def dispatch (s : PeState ω) : Call → HRESULT × PeState ω
  | .beforeFixtureStart _ _   => (e.beforeFixtureStart, s)
  | .beforeTestCaseStart _ tc => (e.beforeTestCaseStart tc.index, s)
  | .setup f _                => e.runSetupTestModule f s
  | .before f _               => e.runBeforeTestModule f s.table.index s
  | .runTestCase tc _         => e.runTestCaseTestModule tc s
  | .after f _                => e.runAfterTestModule f s.table.index s
  | .teardown f _             => e.runTeardownTestModule f s
  | .afterTestCaseFinish _ _ _ | .afterFixtureFinish _ _ _ => (sOk, s)

/-- The host of a fixture action whose module is a user-mode module. -/
def host : Host (PeState ω) where
  isValidContext      := e.isValidContext
  isDebuggerPresent s := e.isDebuggerPresent s.table.calls
  currentThreadId     := e.currentThreadId
  call c s            :=
    let r := e.dispatch s c
    (r.1, { r.2 with table := s.table.next c })

/-- The run of the action from these values in the TLS slots. -/
def run (a : TsexecAction) (tls : Storage) (user : ω) : HRESULT × Run (PeState ω) :=
  runFixtureExecutionAction e.host a
    { env := { table := ⟨0, 0⟩, tls := tls, user := user }, trace := [] }

end PeEnvironment

/-! ## The runner of a routine -/

/-- The code of a failing routine. -/
def RoutineId.failureHr : RoutineId → HRESULT
  | .setup    => eSetupRoutineFailed
  | .before _ => eBeforeRoutineFailed
  | .test _   => eTestRoutineFailed
  | .after _  => eAfterRoutineFailed
  | .teardown => eTeardownRoutineFailed

/-- The routine finds what the routines before it have left in the TLS slots. -/
def RoutineId.restores : RoutineId → Bool
  | .test _ | .after _             => true
  | .setup | .before _ | .teardown => false

/-- The result of the runner if the routine is missing: only the test routine is not optional. -/
def RoutineId.absentHr : RoutineId → HRESULT
  | .test _ => eUnexpected
  | .setup | .before _ | .after _ | .teardown => sOk

/-- The runners tell the failures of the routines apart. -/
def RoutineId.mapHr (r : RoutineId) (hr : HRESULT) : HRESULT :=
  if hr == eTestRoutineFailed then r.failureHr else hr

@[simp] theorem RoutineId.failed_mapHr (r : RoutineId) (hr : HRESULT) : failed (r.mapHr hr) = failed hr := by
  unfold mapHr
  split
  · rename_i h
    rw [eq_of_beq h]
    cases r <;> simp [failureHr]
  · rfl

@[simp] theorem RoutineId.mapHr_sOk (r : RoutineId) : r.mapHr sOk = sOk := if_neg (by decide)

/-- The slots of the routine's filament. -/
def RoutineId.slots (r : RoutineId) (tls : Storage) : Storage := if r.restores then tls else .zero

namespace PeEnvironment

variable (e : PeEnvironment ω) (f : Fixture)

/-- The runner calls the routine. -/
def enters (r : RoutineId) : Bool := f.routine r != 0 && !failed (e.install r)

/-- The runner of each routine. -/
def runRoutine (s : PeState ω) : RoutineId → HRESULT × PeState ω
  | .setup    => e.runSetupTestModule f s
  | .before i => e.runBeforeTestModule f i s
  | .test i   => e.runTestCaseTestModule ⟨f, i⟩ s
  | .after i  => e.runAfterTestModule f i s
  | .teardown => e.runTeardownTestModule f s

variable {e f} {r : RoutineId} {s : PeState ω}

theorem runOptionalRoutine_eq (hv : e.isValidContext = true) (routine : Nat) (r : RoutineId) (s : PeState ω) :
    e.runOptionalRoutine routine r r.restores r.failureHr s =
      if routine == 0 then (sOk, s)
      else (r.mapHr (e.runTestRoutine routine r r.restores s).1, (e.runTestRoutine routine r r.restores s).2) := by
  unfold runOptionalRoutine RoutineId.mapHr
  cases h : routine == 0 with
  | true  => simp [hv, eq_of_beq h]
  | false =>
      have hne : (routine != 0) = true := by simpa using h
      simp only [hv, hne, Bool.not_true, Bool.false_eq_true, if_false, if_true]
      split
      · rfl
      · rfl

/-- **What the runner of a routine does**, in one form for the five routines. -/
theorem runRoutine_eq (hv : e.isValidContext = true) (r : RoutineId) (s : PeState ω) :
    e.runRoutine f s r =
      if f.routine r == 0 then (r.absentHr, s)
      else (r.mapHr (e.runTestRoutine (f.routine r) r r.restores s).1,
        (e.runTestRoutine (f.routine r) r r.restores s).2) := by
  cases r with
  | setup    => exact runOptionalRoutine_eq hv f.setupRoutine .setup s
  | before i => exact runOptionalRoutine_eq hv f.beforeRoutine (.before i) s
  | after i  => exact runOptionalRoutine_eq hv f.afterRoutine (.after i) s
  | teardown => exact runOptionalRoutine_eq hv f.teardownRoutine .teardown s
  | test i   =>
      have hmap : ∀ hr, (RoutineId.test i).mapHr hr = hr := by
        intro hr
        simp only [RoutineId.mapHr, RoutineId.failureHr, beq_iff_eq, ite_eq_right_iff]
        exact Eq.symm
      simp only [runRoutine, runTestCaseTestModule, hv, Bool.not_true, Bool.false_eq_true, if_false, hmap,
        RoutineId.restores]
      cases h : f.routine (.test i) == 0 with
      | true  =>
          have h' : ((⟨f, i⟩ : TestCaseRef).routine == 0) = true := h
          simp [runTestRoutine, h', RoutineId.absentHr]
      | false => rfl

/-- A missing routine. -/
theorem runRoutine_of_absent (hv : e.isValidContext = true) (h : f.routine r = 0) :
    e.runRoutine f s r = (r.absentHr, s) := by
  rw [runRoutine_eq hv]
  simp [h]

/-- A routine that is entered works on its filament's slots, which stay in the TLS slots. -/
theorem runRoutine_of_enters (hv : e.isValidContext = true) (h : e.enters f r = true) :
    e.runRoutine f s r =
      let x := e.body r (r.slots s.tls) s.user
      (r.mapHr x.1.result, { s with tls := x.2.1, user := x.2.2 }) := by
  simp only [enters, Bool.and_eq_true, Bool.not_eq_true', bne_iff_ne, ne_eq] at h
  rw [runRoutine_eq hv]
  simp [h.1, h.2, runTestRoutine, RoutineId.slots]

/-- Otherwise the test code does nothing. The slots are loaded nevertheless, if the routine is there. -/
theorem runRoutine_of_not_enters (hv : e.isValidContext = true) (h : e.enters f r = false) :
    e.runRoutine f s r =
      if f.routine r = 0 then (r.absentHr, s) else (r.mapHr (e.install r), { s with tls := r.slots s.tls }) := by
  rw [runRoutine_eq hv]
  by_cases hr : f.routine r = 0
  · simp [hr]
  · have hf : failed (e.install r) = true := by simpa [enters, hr] using h
    simp [runTestRoutine, RoutineId.slots, hr, hf]

end PeEnvironment

/-! ## Calls of the host -/

namespace PeEnvironment

variable {e : PeEnvironment ω} {a : TsexecAction} {s s' : Run (PeState ω)} {hr : HRESULT} {c : Call}

theorem invoke_some (h : e.host.invoke c s = (hr, s')) :
    hr = (e.dispatch s.env c).1 ∧ s'.env = { (e.dispatch s.env c).2 with table := s.env.table.next c } := by
  cases h
  exact ⟨rfl, rfl⟩

/-- A call that runs a routine. -/
theorem invoke_routine {f : Fixture} {r : RoutineId} (h : e.host.invoke c s = (hr, s'))
    (hrun : e.dispatch s.env c = e.runRoutine f s.env r) :
    hr = (e.runRoutine f s.env r).1 ∧
      s'.env = { (e.runRoutine f s.env r).2 with table := s.env.table.next c } := by
  rw [← hrun]
  exact invoke_some h

end PeEnvironment

/-! ## A run without failures -/

/-- Every call succeeds, with these routines. -/
def PeEnvironment.allOk (body : RoutineId → Body ω) : PeEnvironment ω where
  isValidContext        := true
  isDebuggerPresent _   := false
  currentThreadId       := 1
  beforeFixtureStart    := sOk
  beforeTestCaseStart _ := sOk
  install _             := sOk
  body                  := body

theorem PeEnvironment.enters_allOk (body : RoutineId → Body ω) (f : Fixture) (r : RoutineId) :
    (allOk body).enters f r = (f.routine r != 0) := by
  simp [enters, allOk]

end Cfix
