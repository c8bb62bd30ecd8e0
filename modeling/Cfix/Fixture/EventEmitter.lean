import Cfix.Fixture.Outline

/-!
# `Fixture.EventEmitter` — the event-emitting execution context (`eventemitter.c`)

The proxy stands between the fixture action and the target context: it forwards each callback to the event
sink and to the target, and labels each event with what runs at the moment, as far as three fields tell.
`DrivenFixture.host` is a host on which the fixture action drives the proxy: the codes of the target's
callbacks and of the routines come from a table, and each routine reports a list of events.
-/

namespace Cfix

variable {ε : Type}

/-! ## The proxy -/

/-- `CFIXP_EVENT_EMITTING_PROXY`, without its target and sink. -/
structure EventEmittingProxy where
  firstTestCaseBegun : Bool
  currentTestCase    : Option TestCaseRef
  currentFixture     : Option Fixture
  deriving DecidableEq, Repr

/-- `CfixCreateEventEmittingExecutionContextProxy`. -/
def EventEmittingProxy.created : EventEmittingProxy where
  firstTestCaseBegun := false
  currentTestCase    := none
  currentFixture     := none

/-- A call on the event sink; `ε` is the type of the reported events. -/
inductive SinkCall (ε : Type) where
  | reportEvent (thread : CfixThreadId) (moduleName fixtureName testCaseName : String) (event : ε)
  | beforeFixtureStart (thread : CfixThreadId) (moduleName fixtureName : String)
  | beforeTestCaseStart (thread : CfixThreadId) (moduleName fixtureName testCaseName : String)
  | afterTestCaseFinish (thread : CfixThreadId) (moduleName fixtureName testCaseName : String)
      (ranToCompletion : Bool)
  | afterFixtureFinish (thread : CfixThreadId) (moduleName fixtureName : String) (ranToCompletion : Bool)
  deriving DecidableEq, Repr

/-- `TestCase->Name`. -/
def TestCaseRef.name (testCase : TestCaseRef) : String :=
  match testCase.fixture.testCases[testCase.index]? with
  | some tc => tc.name
  | none    => ""

namespace EventEmittingProxy

variable (p : EventEmittingProxy)

/-- The name that `CfixsEventEmittingProxyReportEvent` chooses. It takes the absence of a test case before
    the first one for Setup, and after it for Teardown. -/
def testCaseName : String :=
  match p.currentTestCase with
  | some testCase => testCase.name
  | none          => if p.firstTestCaseBegun then "[Teardown]" else "[Setup]"

-- `Fixture->Module->Name`
variable (moduleName : Fixture → String)

/-- `CfixsEventEmittingProxyReportEvent`; `none` if `CurrentFixture` is `NULL`, which it dereferences. -/
def reportEvent (thread : CfixThreadId) (event : ε) : Option (SinkCall ε) :=
  p.currentFixture.map (fun f => .reportEvent thread (moduleName f) f.name p.testCaseName event)

/-- `CfixsEventEmittingProxyBeforeFixtureStart`. It does not touch `CurrentTestCase`. -/
def beforeFixtureStart (thread : CfixThreadId) (f : Fixture) : EventEmittingProxy × SinkCall ε :=
  ({ p with firstTestCaseBegun := false, currentFixture := some f },
    .beforeFixtureStart thread (moduleName f) f.name)

/-- `CfixsEventEmittingProxyBeforeTestCaseStart`. The target may still fail the call. -/
def beforeTestCaseStart (thread : CfixThreadId) (tc : TestCaseRef) : EventEmittingProxy × SinkCall ε :=
  ({ p with firstTestCaseBegun := true, currentTestCase := some tc },
    .beforeTestCaseStart thread (moduleName tc.fixture) tc.fixture.name tc.name)

/-- `CfixsEventEmittingProxyAfterTestCaseFinish`. -/
def afterTestCaseFinish (thread : CfixThreadId) (tc : TestCaseRef) (ranToCompletion : Bool) :
    EventEmittingProxy × SinkCall ε :=
  ({ p with currentTestCase := none },
    .afterTestCaseFinish thread (moduleName tc.fixture) tc.fixture.name tc.name ranToCompletion)

/-- `CfixsEventEmittingProxyAfterFixtureFinish`. -/
def afterFixtureFinish (thread : CfixThreadId) (f : Fixture) (ranToCompletion : Bool) :
    EventEmittingProxy × SinkCall ε :=
  ({ p with currentFixture := none }, .afterFixtureFinish thread (moduleName f) f.name ranToCompletion)

end EventEmittingProxy

/-! ## Driving the proxy -/

/-- An event that was reported while a routine of the fixture ran, and the call on the sink that it led to. -/
structure Report (ε : Type) where
  fixture : Fixture
  routine : RoutineId
  thread  : CfixThreadId
  event   : ε
  call    : Option (SinkCall ε)
  deriving DecidableEq, Repr

/-- The proxy, the calls it has made on the sink, and the reports among them. `table` is where the run
    stands in the table of its codes. -/
structure Emission (ε : Type) where
  table   : TableEnv
  proxy   : EventEmittingProxy
  sink    : List (SinkCall ε)
  reports : List (Report ε)

/-- The proxy after its creation. -/
def Emission.start : Emission ε where
  table   := ⟨0, 0⟩
  proxy   := .created
  sink    := []
  reports := []

namespace Emission

variable (e : Emission ε)

/-- A callback: the proxy changes its fields and calls the sink. -/
def callback (x : EventEmittingProxy × SinkCall ε) : Emission ε :=
  { e with proxy := x.1, sink := e.sink ++ [x.2] }

/-- The run goes on at another place of the table. -/
def withTable (t : TableEnv) : Emission ε := { e with table := t }

variable (moduleName : Fixture → String)

/-- A routine runs and reports events. -/
def routine (f : Fixture) (r : RoutineId) (events : List (CfixThreadId × ε)) : Emission ε :=
  { e with
    sink    := e.sink ++ events.filterMap (fun x => e.proxy.reportEvent moduleName x.1 x.2)
    reports := e.reports ++ events.map (fun x => ⟨f, r, x.1, x.2, e.proxy.reportEvent moduleName x.1 x.2⟩) }

/-- What a call of the fixture action does; `events` says what each routine reports. -/
def after (events : RoutineId → List (CfixThreadId × ε)) : Call → Emission ε
  | .beforeFixtureStart t f        => e.callback (e.proxy.beforeFixtureStart moduleName t f)
  | .beforeTestCaseStart t tc      => e.callback (e.proxy.beforeTestCaseStart moduleName t tc)
  | .afterTestCaseFinish t tc ran  => e.callback (e.proxy.afterTestCaseFinish moduleName t tc ran)
  | .afterFixtureFinish t f ran    => e.callback (e.proxy.afterFixtureFinish moduleName t f ran)
  | .setup f _                     => e.routine moduleName f .setup (events .setup)
  | .before f _                    =>
    e.routine moduleName f (.before e.table.index) (events (.before e.table.index))
  | .runTestCase tc _              =>
    e.routine moduleName tc.fixture (.test tc.index) (events (.test tc.index))
  | .after f _                     =>
    e.routine moduleName f (.after e.table.index) (events (.after e.table.index))
  | .teardown f _                  => e.routine moduleName f .teardown (events .teardown)

end Emission

/-- A fixture that is run on the proxy: the codes of the target context and of the routines, and the events
    that the routines report. -/
structure DrivenFixture (ε : Type) where
  action   : TsexecAction
  outcomes : Outcomes
  events   : RoutineId → List (CfixThreadId × ε)

/-- The host of the fixture action: the proxy over a target that answers from the table. -/
def DrivenFixture.host (moduleName : Fixture → String) (d : DrivenFixture ε) : Host (Emission ε) where
  isValidContext      := d.outcomes.isValidContext
  isDebuggerPresent e := d.outcomes.isDebuggerPresent e.table.calls
  currentThreadId     := d.outcomes.currentThreadId
  call c e            :=
    (d.outcomes.answer e.table.index c, (e.after moduleName d.events c).withTable (e.table.next c))

/-- The fixtures are run one after the other on one proxy. A sequence that ends early runs a shorter list. -/
def runFixtures (moduleName : Fixture → String) : List (DrivenFixture ε) → Emission ε → Emission ε
  | [], e      => e
  | d :: ds, e =>
    runFixtures moduleName ds
      (runFixtureExecutionAction (d.host moduleName) d.action { env := e, trace := [] }).2.env

end Cfix
