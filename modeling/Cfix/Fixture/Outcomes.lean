import Cfix.Fixture.Action
import Cfix.Lib.TakeThrough

/-!
# `Fixture.Outcomes` — the run of a fixture action as a function of the outcomes of its calls

Each routine and each callback is called at most once (per test case), so the callees' whole behaviour in
one run is a table of the codes they return: `Outcomes`. `Outcomes.host` answers the calls from the table.
Two closed forms say what the run on it is: `fixtureLabels` is the sequence of calls with their codes,
`fixtureFails` says whether the function returns a failure.
-/

namespace Cfix

open TakeThrough

/-- What a call is, without the data that is only passed through. -/
inductive Label where
  | beforeFixtureStart  (fixture : Fixture)
  | beforeTestCaseStart (testCase : TestCaseRef)
  | afterTestCaseFinish (testCase : TestCaseRef)
  | afterFixtureFinish  (fixture : Fixture)
  | setup | before | test (testCase : TestCaseRef) | after | teardown
  deriving DecidableEq, Repr

def Call.label : Call → Label
  | .beforeFixtureStart _ f     => .beforeFixtureStart f
  | .beforeTestCaseStart _ tc   => .beforeTestCaseStart tc
  | .afterTestCaseFinish _ tc _ => .afterTestCaseFinish tc
  | .afterFixtureFinish _ f _   => .afterFixtureFinish f
  | .setup _ _                  => .setup
  | .before _ _                 => .before
  | .runTestCase tc _           => .test tc
  | .after _ _                  => .after
  | .teardown _ _               => .teardown

/-- A labelled call and the code it returned. -/
abbrev Labelled := Label × HRESULT

variable {σ : Type}

def Run.labels (s : Run σ) : List Labelled := s.trace.map (fun e => (e.call.label, e.hr))

/-! ## Outcome tables -/

/-- The code of every call of one run. The debugger may come and go: its presence is a function of the
    number of calls made so far. -/
structure Outcomes where
  isValidContext      : Bool
  isDebuggerPresent   : Nat → Bool
  currentThreadId     : Nat
  beforeFixtureStart  : HRESULT
  setup               : HRESULT
  beforeTestCaseStart : Nat → HRESULT
  before              : Nat → HRESULT
  test                : Nat → HRESULT
  after               : Nat → HRESULT
  teardown            : HRESULT

/-- The test case that `BeforeTestCaseStart` announced last, and the number of calls made. -/
structure TableEnv where
  index : Nat
  calls : Nat

def Outcomes.answer (o : Outcomes) (index : Nat) : Call → HRESULT
  | .beforeFixtureStart _ _   => o.beforeFixtureStart
  | .beforeTestCaseStart _ tc => o.beforeTestCaseStart tc.index
  | .setup _ _                => o.setup
  | .before _ _               => o.before index
  | .runTestCase tc _         => o.test tc.index
  | .after _ _                => o.after index
  | .teardown _ _             => o.teardown
  | .afterTestCaseFinish _ _ _ | .afterFixtureFinish _ _ _ => sOk

def TableEnv.next (env : TableEnv) : Call → TableEnv
  | .beforeTestCaseStart _ tc => { index := tc.index, calls := env.calls + 1 }
  | _                         => { env with calls := env.calls + 1 }

def Outcomes.host (o : Outcomes) : Host TableEnv where
  isValidContext        := o.isValidContext
  isDebuggerPresent env := o.isDebuggerPresent env.calls
  currentThreadId       := o.currentThreadId
  call c env            := (o.answer env.index c, env.next c)

/-- No call has been made. -/
def Run.start : Run TableEnv := { env := ⟨0, 0⟩, trace := [] }

@[simp] theorem Run.labels_start : Run.start.labels = [] := rfl

/-- The action against the table, as a sequence action runs it. -/
def Outcomes.action (o : Outcomes) (a : TsexecAction) : Run TableEnv → HRESULT × Run TableEnv :=
  runFixtureExecutionAction o.host a

/-- The run of the action against the table. -/
def Outcomes.run (o : Outcomes) (a : TsexecAction) : HRESULT × Run TableEnv := o.action a .start

/-- Every call succeeds. -/
def Outcomes.allOk : Outcomes where
  isValidContext        := true
  isDebuggerPresent _   := false
  currentThreadId       := 1
  beforeFixtureStart    := sOk
  setup                 := sOk
  beforeTestCaseStart _ := sOk
  before _              := sOk
  test _                := sOk
  after _               := sOk
  teardown              := sOk

/-- A fixture with all routines and two test cases, all of which are to be run. -/
def twoTestCases (flags : BitVec 32) : TsexecAction where
  fixture :=
    { name := "Fixture", setupRoutine := 1, teardownRoutine := 2, beforeRoutine := 3, afterRoutine := 4,
      flags := 0#32, testCases := [⟨"First", 5⟩, ⟨"Second", 6⟩] }
  flags         := flags
  testCaseIndex := none
  index_lt _ h  := nomatch h

/-! ## One test case -/

variable (o : Outcomes) (a : TsexecAction)

/-- The first failure of Before, test and After; the test routine's code if there is none. -/
def Outcomes.testCaseResult (i : Nat) : HRESULT :=
  if failed (o.before i) then o.before i
  else if failed (o.test i) then o.test i
  else if failed (o.after i) then o.after i
  else o.test i

/-- The routine calls of one test case. -/
def Outcomes.testCaseLabels (f : Fixture) (i : Nat) : List Labelled :=
  (.before, o.before i) ::
    if failed (o.before i) then [] else [(.test ⟨f, i⟩, o.test i), (.after, o.after i)]

/-! ## The loop -/

/-- A failure that is neither a routine failure nor an abort: the loop treats it as fatal. -/
def fatal (hr : HRESULT) : Bool := failed hr && !isRoutineFailure hr && hr != eTestrunAborted

theorem failed_of_isRoutineFailure {hr : HRESULT} (h : isRoutineFailure hr = true) :
    failed hr = true := by
  simp only [isRoutineFailure, Bool.or_eq_true, beq_iff_eq] at h
  rcases h with (h | h) | h <;> subst h <;> rfl

theorem fatal_eq_false_of_isRoutineFailure {hr : HRESULT} (h : isRoutineFailure hr = true) :
    fatal hr = false := by
  simp [fatal, h]

@[simp] theorem isRoutineFailure_eTestrunAborted : isRoutineFailure eTestrunAborted = false := by decide

/-- `Action->TestCaseIndex` selects the test case. -/
def TsexecAction.selects (i : Nat) : Bool := a.testCaseIndex.isNone || a.testCaseIndex == some i

theorem TsexecAction.skips_eq (i : Nat) :
    (a.testCaseIndex.isSome && a.testCaseIndex != some i) = !a.selects i := by
  cases h : a.testCaseIndex <;> simp [TsexecAction.selects, h, bne]

/-- The selected test cases in index order. -/
def TsexecAction.selected : List Nat :=
  (List.range a.fixture.testCases.length).filter a.selects

/-- The test case ends with a fatal error. -/
def Outcomes.fatalAt (i : Nat) : Bool :=
  !failed (o.beforeTestCaseStart i) && fatal (o.testCaseResult i)

/-- No further test case runs after this one. -/
def Outcomes.stopsAt (i : Nat) : Bool :=
  failed (o.beforeTestCaseStart i) ||
    failed (o.testCaseResult i) &&
      (!isRoutineFailure (o.testCaseResult i) ||
        flagOn a.flags fixtureExecutionShortcircuitFixtureOnFailure)

/-- The test case leaves a failure code in `Hr`. -/
def Outcomes.escalatesAt (i : Nat) : Bool :=
  failed (o.beforeTestCaseStart i) ||
    failed (o.testCaseResult i) &&
      (!isRoutineFailure (o.testCaseResult i) ||
        flagOn a.flags fixtureExecutionShortcircuitFixtureOnFailure &&
          flagOn a.flags fixtureExecutionEscalateFixtureFailues)

/-- The selected test cases whose turn comes, in index order. -/
def Outcomes.reached : List Nat := takeThrough (o.stopsAt a) a.selected

/-- All calls made in the turn of one test case. -/
def Outcomes.turn (i : Nat) : List Labelled :=
  (.beforeTestCaseStart ⟨a.fixture, i⟩, o.beforeTestCaseStart i) ::
    if failed (o.beforeTestCaseStart i) then []
    else o.testCaseLabels a.fixture i ++
      if fatal (o.testCaseResult i) then [] else [(.afterTestCaseFinish ⟨a.fixture, i⟩, sOk)]

/-- `stopsAt` for a test case that was started. -/
theorem Outcomes.stopsAt_of_started {i : Nat} (h : failed (o.beforeTestCaseStart i) = false) :
    o.stopsAt a i = (failed (o.testCaseResult i) &&
      (!isRoutineFailure (o.testCaseResult i) ||
        flagOn a.flags fixtureExecutionShortcircuitFixtureOnFailure)) := by
  simp [Outcomes.stopsAt, h]

def LoopExit.isReturned : LoopExit → Bool
  | .returned _   => true
  | .finished _ _ => false

def LoopExit.hr : LoopExit → HRESULT
  | .returned hr   => hr
  | .finished _ hr => hr

/-! ## The whole run -/

/-- The context is valid and `BeforeFixtureStart` succeeds: the fixture is run. -/
def Outcomes.opens : Bool := o.isValidContext && !failed o.beforeFixtureStart

/-- The calls of a run in order, with their codes. -/
def Outcomes.fixtureLabels : List Labelled :=
  if !o.isValidContext then []
  else (.beforeFixtureStart a.fixture, o.beforeFixtureStart) ::
    if failed o.beforeFixtureStart then []
    else (.setup, o.setup) ::
      if o.setup == eSetupRoutineFailed || o.setup == eTestrunAborted then
        [(.afterFixtureFinish a.fixture, sOk)]
      else if failed o.setup then []
      else (o.reached a).flatMap (o.turn a) ++
        if (o.reached a).any o.fatalAt then []
        else [(.teardown, o.teardown), (.afterFixtureFinish a.fixture, sOk)]

/-- The run returns a failure code. -/
def Outcomes.fixtureFails : Bool :=
  if !o.isValidContext then true
  else if failed o.beforeFixtureStart then true
  else if o.setup == eSetupRoutineFailed || o.setup == eTestrunAborted then
    flagOn a.flags fixtureExecutionShortcircuitRunOnSetupFailure
  else if failed o.setup then true
  else (o.reached a).any (o.escalatesAt a) ||
    failed o.teardown && flagOn a.flags fixtureExecutionEscalateFixtureFailues

/-- A fatal test case leaves a failure code. -/
theorem Outcomes.escalatesAt_of_fatalAt {i : Nat} (h : o.fatalAt i = true) : o.escalatesAt a i = true := by
  simp only [Outcomes.fatalAt, fatal, Bool.and_eq_true, Bool.not_eq_true'] at h
  obtain ⟨hcb, ⟨hf, hrf⟩, -⟩ := h
  simp [Outcomes.escalatesAt, hf, hrf]

/-- A fatal test case ends the loop. -/
theorem Outcomes.stopsAt_of_fatalAt {i : Nat} (h : o.fatalAt i = true) : o.stopsAt a i = true := by
  simp only [Outcomes.fatalAt, fatal, Bool.and_eq_true, Bool.not_eq_true'] at h
  obtain ⟨hcb, ⟨hf, hrf⟩, -⟩ := h
  simp [Outcomes.stopsAt, hf, hrf]

theorem Outcomes.any_escalatesAt_of_any_fatalAt (h : (o.reached a).any o.fatalAt = true) :
    (o.reached a).any (o.escalatesAt a) = true := by
  obtain ⟨i, hi, hf⟩ := List.any_eq_true.mp h
  exact List.any_eq_true.mpr ⟨i, hi, o.escalatesAt_of_fatalAt a hf⟩

end Cfix
