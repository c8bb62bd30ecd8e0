import Cfix.Base.Hresult

/-!
# `Fixture.Action` — the fixture execution action (`tsexecaction.c`)

`runFixtureExecutionAction` is `CfixsRunFixtureExecutionAction`. What it calls (the module's routine
runners, the execution context's callbacks, `IsDebuggerPresent`) is a `Host` over an arbitrary state, so
every behaviour of the callees is a host. The run records each call with the code it returned.
-/

namespace Cfix

/-! ## Data -/

/-- `CFIX_TEST_CASE`; the backpointer to the fixture is `TestCaseRef.fixture`. -/
structure TestCase where
  name    : String
  routine : Nat
  deriving DecidableEq, Repr

/-- `CFIX_FIXTURE`. A routine is absent iff its value is 0. -/
structure Fixture where
  name            : String
  setupRoutine    : Nat
  teardownRoutine : Nat
  beforeRoutine   : Nat
  afterRoutine    : Nat
  flags           : BitVec 32
  testCases       : List TestCase
  deriving DecidableEq, Repr

/-- `&Fixture->TestCases[ Index ]`. -/
structure TestCaseRef where
  fixture : Fixture
  index   : Nat
  deriving DecidableEq, Repr

/-- `CFIX_THREAD_ID`. -/
structure CfixThreadId where
  threadId     : Nat
  mainThreadId : Nat
  deriving DecidableEq, Repr

def fixtureExecutionShortcircuitFixtureOnFailure    : BitVec 32 := 1#32
def fixtureExecutionShortcircuitRunOnSetupFailure   : BitVec 32 := 2#32
def fixtureExecutionEscalateFixtureFailues          : BitVec 32 := 4#32
def fixtureExecutionCaptureStackTraces              : BitVec 32 := 256#32

def testFlagCaptureStackTraces     : BitVec 32 := 1#32
def testFlagProvideDefaultFilament : BitVec 32 := 2#32
def fixtureUsesAnonymousThreads    : BitVec 32 := 1#32

/-- `TSEXEC_ACTION`. `testCaseIndex = none` is the value `-1`: run all test cases. An index is in range,
    which `CfixCreateFixtureExecutionAction` checks. -/
structure TsexecAction where
  fixture       : Fixture
  flags         : BitVec 32
  testCaseIndex : Option Nat
  index_lt      : ∀ i, testCaseIndex = some i → i < fixture.testCases.length

/-- `CfixCreateFixtureExecutionAction`; `none` stands for a failing `malloc`. -/
def createFixtureExecutionAction (fixture : Fixture) (flags : BitVec 32) (testCase : Option Nat)
    (malloc : Bool) : Except HRESULT TsexecAction :=
  if h : ∀ i, testCase = some i → i < fixture.testCases.length then
    if malloc then .ok ⟨fixture, flags, testCase, h⟩ else .error eOutofmemory
  else .error eInvalidarg

/-! ## Callees -/

/-- The calls of the action: callbacks of the execution context and routine runners of the module. -/
inductive Call where
  | beforeFixtureStart  (thread : CfixThreadId) (fixture : Fixture)
  | beforeTestCaseStart (thread : CfixThreadId) (testCase : TestCaseRef)
  | afterTestCaseFinish (thread : CfixThreadId) (testCase : TestCaseRef) (ranToCompletion : Bool)
  | afterFixtureFinish  (thread : CfixThreadId) (fixture : Fixture) (ranToCompletion : Bool)
  | setup               (fixture : Fixture) (flags : BitVec 32)
  | before              (fixture : Fixture) (flags : BitVec 32)
  | runTestCase         (testCase : TestCaseRef) (flags : BitVec 32)
  | after               (fixture : Fixture) (flags : BitVec 32)
  | teardown            (fixture : Fixture) (flags : BitVec 32)
  deriving DecidableEq, Repr

/-- Everything the action depends on besides its own fields. -/
structure Host (σ : Type) where
  /-- `CfixIsValidContext( Context )`. -/
  isValidContext    : Bool
  isDebuggerPresent : σ → Bool
  currentThreadId   : Nat
  call              : Call → σ → HRESULT × σ

/-- A call and the code it returned (`S_OK` for a callback without a result). -/
structure Event where
  call : Call
  hr   : HRESULT
  deriving DecidableEq, Repr

/-- The state of a run: the host's state and the calls made so far. -/
structure Run (σ : Type) where
  env   : σ
  trace : List Event

variable {σ : Type}

def Host.invoke (h : Host σ) (c : Call) (s : Run σ) : HRESULT × Run σ :=
  let r := h.call c s.env
  (r.1, { env := r.2, trace := s.trace ++ [⟨c, r.1⟩] })

/-- A call of a callback that returns nothing. -/
def Host.notify (h : Host σ) (c : Call) (s : Run σ) : Run σ :=
  { env := (h.call c s.env).2, trace := s.trace ++ [⟨c, sOk⟩] }

/-- `CfixpInitializeThreadId`: the calling thread is always the main thread. -/
def Host.threadId (h : Host σ) : CfixThreadId :=
  { threadId := h.currentThreadId, mainThreadId := h.currentThreadId }

/-! ## The action -/

/-- `CfixsGetTestFlagsFixtureExecutionAction`. -/
def getTestFlagsFixtureExecutionAction (h : Host σ) (a : TsexecAction) (s : Run σ) : BitVec 32 :=
  let capture :=
    if h.isDebuggerPresent s.env then 0#32
    else if flagOn a.flags fixtureExecutionCaptureStackTraces then testFlagCaptureStackTraces
    else 0#32
  if flagOn a.fixture.flags fixtureUsesAnonymousThreads then capture ||| testFlagProvideDefaultFilament
  else capture

/-- `CfixsRunTestCaseFixtureExecutionAction`. -/
def runTestCaseFixtureExecutionAction (h : Host σ) (a : TsexecAction) (testCase : TestCaseRef)
    (s : Run σ) : HRESULT × Run σ :=
  let (hr, s) := h.invoke (.before a.fixture (getTestFlagsFixtureExecutionAction h a s)) s
  if failed hr then (hr, s)
  else
    let (hrTestCase, s) := h.invoke (.runTestCase testCase (getTestFlagsFixtureExecutionAction h a s)) s
    -- the after-routine runs whether or not the test routine succeeded
    let (hr, s) := h.invoke (.after a.fixture (getTestFlagsFixtureExecutionAction h a s)) s
    if failed hr then
      if failed hrTestCase then (hrTestCase, s) else (hr, s)
    else (hrTestCase, s)

/-- How the loop over the test cases ends: it leaves the loop (`FixtureShortCircuit`, `Hr`), or the whole
    function returns from inside the loop (`return Hr` after a fatal error). -/
inductive LoopExit where
  | finished (fixtureShortCircuit : Bool) (hr : HRESULT)
  | returned (hr : HRESULT)
  deriving DecidableEq, Repr

/-- The codes of a failed Before, test or After routine. -/
def isRoutineFailure (hr : HRESULT) : Bool :=
  hr == eBeforeRoutineFailed || hr == eAfterRoutineFailed || hr == eTestRoutineFailed

/-- The loop over `Action->Fixture->TestCases`, from `index` on; `hr` is the current value of `Hr`. -/
def runTestCases (h : Host σ) (a : TsexecAction) :
    List TestCase → Nat → HRESULT → Run σ → LoopExit × Run σ
  | [], _, hr, s => (.finished false hr, s)
  | _ :: rest, index, hr, s =>
    if a.testCaseIndex.isSome && a.testCaseIndex != some index then
      runTestCases h a rest (index + 1) hr s
    else
      let testCase : TestCaseRef := ⟨a.fixture, index⟩
      let (hr, s) := h.invoke (.beforeTestCaseStart h.threadId testCase) s
      -- the test case has not started, so it does not finish either
      if failed hr then (.finished true hr, s)
      else
        let (hr, s) := runTestCaseFixtureExecutionAction h a testCase s
        let ranToCompletion := succeeded hr
        let finish := h.notify (.afterTestCaseFinish h.threadId testCase ranToCompletion)
        if isRoutineFailure hr then
          if flagOn a.flags fixtureExecutionShortcircuitFixtureOnFailure then
            if flagOn a.flags fixtureExecutionEscalateFixtureFailues then (.finished true hr, finish s)
            else (.finished true sOk, finish s)
          else runTestCases h a rest (index + 1) sOk (finish s)
        else if hr == eTestrunAborted then (.finished true hr, finish s)
        -- neither the test case nor the fixture is finished
        else if failed hr then (.returned hr, s)
        else runTestCases h a rest (index + 1) hr (finish s)

/-- `CfixsRunFixtureExecutionAction`. -/
def runFixtureExecutionAction (h : Host σ) (a : TsexecAction) (s : Run σ) : HRESULT × Run σ :=
  if !h.isValidContext then (eInvalidarg, s)
  else
    let (hr, s) := h.invoke (.beforeFixtureStart h.threadId a.fixture) s
    if failed hr then (hr, s)
    else
      let (hr, s) := h.invoke (.setup a.fixture (getTestFlagsFixtureExecutionAction h a s)) s
      if hr == eSetupRoutineFailed || hr == eTestrunAborted then
        -- an abort is treated like a failed routine
        let hr :=
          if flagOn a.flags fixtureExecutionShortcircuitRunOnSetupFailure then hr else sOk
        (hr, h.notify (.afterFixtureFinish h.threadId a.fixture false) s)
      else if failed hr then (hr, s)
      else
        match runTestCases h a a.fixture.testCases 0 hr s with
        | (.returned hr, s) => (hr, s)
        | (.finished fixtureShortCircuit hr, s) =>
          let (teardownHr, s) :=
            h.invoke (.teardown a.fixture (getTestFlagsFixtureExecutionAction h a s)) s
          if failed teardownHr then
            -- without the escalate flag the teardown's failure is dropped
            let hr :=
              if flagOn a.flags fixtureExecutionEscalateFixtureFailues then teardownHr else hr
            (hr, h.notify (.afterFixtureFinish h.threadId a.fixture false) s)
          else (hr, h.notify (.afterFixtureFinish h.threadId a.fixture (!fixtureShortCircuit)) s)

end Cfix
