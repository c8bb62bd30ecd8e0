import Cfix.Fixture.EventEmitter
import Cfix.Kernel.SameRun
import Cfix.Runner.MainWorker
import Cfix.Storage.Agreement

/-!
# `Runner.SameVerdict` — the runner's context, for fixtures of processes and of drivers

The runner gives the fixture action an event-emitting proxy over its own execution context (`cfixrun/main.c`).
`RunnerContext` is both with the calls on the event sink. Whether the modules are DLLs or drivers makes no difference
to the statistics, and none to the sink but for what a driver does not tell (`runner_sameVerdict`).
-/

namespace Cfix.Runner

open Cfix.Events (Width Session eventTypeCode)

variable {ε : Type}

/-! ## The context of a run -/

/-- The proxy, its target and the calls on its sink. -/
structure RunnerContext (ε : Type) where
  target : ExecContext
  proxy  : EventEmittingProxy
  sink   : List (SinkCall ε)

/-- `CfixrunsCreateExecutionContextAndEventSink`, where it succeeds. -/
def RunnerContext.created : RunnerContext ε where
  target := .created
  proxy  := .created
  sink   := []

/-- What the context depends on besides its state. -/
structure RunnerSetting (ε : Type) where
  options    : Options
  /-- The main thread. -/
  thread     : CfixThreadId
  /-- The thread state can be allocated. -/
  memory     : Bool
  /-- `Fixture->Module->Name`. -/
  moduleName : Fixture → String
  /-- `Event->Type`. -/
  type       : ε → EventType

namespace RunnerSetting

variable (c : RunnerSetting ε)

/-- A callback of the fixture action: the proxy first calls the sink, then the target. The result is `none` if the
    target touches a state that was freed. -/
def callback (call : Call) (x : RunnerContext ε) : HRESULT × Option (RunnerContext ε) :=
  match call with
  | .beforeFixtureStart t f       =>
    let (proxy, sinkCall) := x.proxy.beforeFixtureStart c.moduleName t f
    let (hr, target) := x.target.beforeFixtureStart c.thread.threadId c.memory
    (hr, some ⟨target, proxy, x.sink ++ [sinkCall]⟩)
  | .beforeTestCaseStart t tc     =>
    let (proxy, sinkCall) := x.proxy.beforeTestCaseStart c.moduleName t tc
    (x.target.beforeTestCaseStart c.thread.threadId, some ⟨x.target, proxy, x.sink ++ [sinkCall]⟩)
  | .afterTestCaseFinish t tc ran =>
    let (proxy, sinkCall) := x.proxy.afterTestCaseFinish c.moduleName t tc ran
    (sOk, (x.target.afterTestCaseFinish c.thread.threadId).map (⟨·, proxy, x.sink ++ [sinkCall]⟩))
  | .afterFixtureFinish t f ran   =>
    let (proxy, sinkCall) := x.proxy.afterFixtureFinish c.moduleName t f ran
    (sOk, (x.target.afterFixtureFinish c.thread.threadId).map (⟨·, proxy, x.sink ++ [sinkCall]⟩))
  | .setup _ _ | .before _ _ | .runTestCase _ _ | .after _ _ | .teardown _ _ => (sOk, some x)

/-- `ReportEvent` on the main thread; `none` if there is no current fixture, which the proxy dereferences. -/
def reportEvent (e : ε) (x : RunnerContext ε) : Disposition × Option (RunnerContext ε) :=
  match x.proxy.reportEvent c.moduleName c.thread e with
  | none          => (.abort, none)
  | some sinkCall =>
    let (disp, target) := x.target.reportEvent c.options c.thread.threadId (c.type e)
    (disp, some ⟨target, x.proxy, x.sink ++ [sinkCall]⟩)

/-- The context as the fixture action and the report functions see it; the runner has crashed in the state `none`. -/
def context : ExecutionContext ε (Option (RunnerContext ε)) where
  callback call    := fun
    | none   => (sOk, none)
    | some x => c.callback call x
  reportEvent e    := fun
    | none   => (.abort, none)
    | some x => c.reportEvent e x

end RunnerSetting

/-! ## Related contexts -/

variable {w : Width}

/-- The sink is called with the same names, and with events that are alike. -/
inductive SameSinkCall : SinkCall (ReportedEvent w) → SinkCall (Events.Report w) → Prop where
  | reportEvent {e : ReportedEvent w} {r : Events.Report w} (t t' m f tc) : Alike e r →
      SameSinkCall (.reportEvent t m f tc e) (.reportEvent t' m f tc r)
  | beforeFixtureStart (t m f) : SameSinkCall (.beforeFixtureStart t m f) (.beforeFixtureStart t m f)
  | beforeTestCaseStart (t m f tc) : SameSinkCall (.beforeTestCaseStart t m f tc) (.beforeTestCaseStart t m f tc)
  | afterTestCaseFinish (t m f tc ran) :
      SameSinkCall (.afterTestCaseFinish t m f tc ran) (.afterTestCaseFinish t m f tc ran)
  | afterFixtureFinish (t m f ran) : SameSinkCall (.afterFixtureFinish t m f ran) (.afterFixtureFinish t m f ran)

/-- The proxies are at the same place of the two fixtures. -/
structure SameProxy (p p' : EventEmittingProxy) : Prop where
  begun    : p.firstTestCaseBegun = p'.firstTestCaseBegun
  testCase : p.currentTestCase.map TestCaseRef.name = p'.currentTestCase.map TestCaseRef.name

/-- The state of the main thread, if it has one, is allocated. -/
def HasState (m : ThreadId) (x : ExecContext) : Prop := ∀ i, x.slot m = some i → ∃ st, x.states i = some st

/-- The contexts have the same target and have made the same calls on the sink. -/
structure SameRunner (m : ThreadId) (x : RunnerContext (ReportedEvent w)) (x' : RunnerContext (Events.Report w)) :
    Prop where
  target : x.target = x'.target
  sink   : List.Forall₂ SameSinkCall x.sink x'.sink
  proxy  : SameProxy x.proxy x'.proxy
  state  : HasState m x.target

/-- In a fixture, the main thread has a state. -/
structure SameRunnerIn (c : RunnerSetting (ReportedEvent w)) (c' : RunnerSetting (Events.Report w))
    (a a' : TsexecAction) (x : RunnerContext (ReportedEvent w)) (x' : RunnerContext (Events.Report w)) : Prop
    extends SameRunner c.thread.threadId x x' where
  started : x.target.slot c.thread.threadId ≠ none
  fixture : x.proxy.currentFixture = some a.fixture ∧ x'.proxy.currentFixture = some a'.fixture

/-- Neither runner has crashed, and the contexts are related. -/
def Both {α β : Type} (R : α → β → Prop) (k : Option α) (k' : Option β) : Prop :=
  ∃ x x', k = some x ∧ k' = some x' ∧ R x x'

/-- The two worlds have the same runner, and the fixtures have the same names. -/
structure SameSetting (c : RunnerSetting (ReportedEvent w)) (c' : RunnerSetting (Events.Report w))
    (a a' : TsexecAction) : Prop where
  options    : c.options = c'.options
  thread     : c.thread = c'.thread
  memory     : c.memory = c'.memory
  type       : c.type = ReportedEvent.type
  moduleName : c.moduleName a.fixture = c'.moduleName a'.fixture
  fixture    : a.fixture.name = a'.fixture.name
  testCase   : ∀ i, (⟨a.fixture, i⟩ : TestCaseRef).name = (⟨a'.fixture, i⟩ : TestCaseRef).name

/-! ## Steps of the target -/

section Target

variable {m : ThreadId} {x : ExecContext}

theorem HasState.beforeFixtureStart (h : HasState m x) (memory : Bool) :
    HasState m (x.beforeFixtureStart m memory).2 ∧
      (failed (x.beforeFixtureStart m memory).1 = false → (x.beforeFixtureStart m memory).2.slot m ≠ none) := by
  unfold ExecContext.beforeFixtureStart ExecContext.getCurrentExecutionState
  cases hslot : x.slot m with
  | some i => exact ⟨h, fun _ => by simp [hslot]⟩
  | none   =>
      cases memory with
      | false => exact ⟨h, fun hf => by simp at hf⟩
      | true  =>
          refine ⟨?_, fun _ => by simp⟩
          intro i hi
          simp only [Bool.and_self, if_true, Function.update_self, Option.some.injEq] at hi
          subst hi
          exact ⟨_, Function.update_self ..⟩

/-- A test case is counted. -/
theorem HasState.afterTestCaseFinish (h : HasState m x) :
    ∃ y, x.afterTestCaseFinish m = some y ∧ HasState m y ∧ y.slot m = x.slot m := by
  unfold ExecContext.afterTestCaseFinish
  cases hslot : x.slot m with
  | none   => exact ⟨x, rfl, h, hslot⟩
  | some i =>
      obtain ⟨st, hst⟩ := h i hslot
      simp only [hst]
      refine ⟨_, rfl, ?_, hslot⟩
      intro j hj
      simp only [hslot, Option.some.injEq] at hj
      subst hj
      exact ⟨_, Function.update_self ..⟩

/-- A fixture is counted, and the thread gives back its state. -/
theorem HasState.afterFixtureFinish (h : HasState m x) : ∃ y, x.afterFixtureFinish m = some y ∧ HasState m y := by
  unfold ExecContext.afterFixtureFinish ExecContext.dereferenceCurrentExecutionState
  cases hslot : x.slot m with
  | none   => exact ⟨x, rfl, h⟩
  | some i =>
      obtain ⟨st, hst⟩ := h i hslot
      simp only [hst]
      split
      · exact ⟨_, rfl, fun j hj => by simp at hj⟩
      · refine ⟨_, rfl, ?_⟩
        intro j hj
        simp only [hslot, Option.some.injEq] at hj
        subst hj
        exact ⟨_, Function.update_self ..⟩

/-- A thread with a state gets the default disposition. -/
theorem reportEvent_started (o : Options) (event : EventType) (h : x.slot m ≠ none) :
    (x.reportEvent o m event).1 = queryDefaultDisposition o event := by
  obtain ⟨i, hi⟩ := Option.ne_none_iff_exists'.mp h
  simp only [ExecContext.reportEvent, ExecContext.getCurrentExecutionState, hi]

end Target

/-! ## The runner's contexts are related -/

section Related

variable {c : RunnerSetting (ReportedEvent w)} {c' : RunnerSetting (Events.Report w)} {a a' : TsexecAction}

theorem SameProxy.testCaseName_eq {p p' : EventEmittingProxy} (h : SameProxy p p') :
    p.testCaseName = p'.testCaseName := by
  obtain ⟨hbegun, hcase⟩ := h
  unfold EventEmittingProxy.testCaseName
  cases hp : p.currentTestCase with
  | none    =>
      rw [hp, Option.map_none, eq_comm, Option.map_eq_none_iff] at hcase
      simp only [hcase, hbegun]
  | some tc =>
      rw [hp, Option.map_some, eq_comm, Option.map_eq_some_iff] at hcase
      obtain ⟨tc', htc', hname⟩ := hcase
      simp only [htc', hname]

/-- Both proxies make a callback, and their sinks the same call. -/
theorem SameRunner.callback {m : ThreadId} {x : RunnerContext (ReportedEvent w)}
    {x' : RunnerContext (Events.Report w)} (hx : SameRunner m x x') {target target' : ExecContext}
    {p p' : EventEmittingProxy} {call : SinkCall (ReportedEvent w)} {call' : SinkCall (Events.Report w)}
    (htarget : target = target') (hcall : SameSinkCall call call') (hproxy : SameProxy p p')
    (hstate : HasState m target) :
    SameRunner m ⟨target, p, x.sink ++ [call]⟩ ⟨target', p', x'.sink ++ [call']⟩ where
  target := htarget
  sink   := List.rel_append hx.sink (.cons hcall .nil)
  proxy  := hproxy
  state  := hstate

/-- In a fixture the proxy knows what to call the sink with, and the target answers with the default. -/
theorem RunnerSetting.reportEvent_eq {ε : Type} (c : RunnerSetting ε) {x : RunnerContext ε} {f : Fixture}
    (hf : x.proxy.currentFixture = some f) (hstarted : x.target.slot c.thread.threadId ≠ none) (e : ε) :
    c.reportEvent e x = (queryDefaultDisposition c.options (c.type e), some ⟨x.target, x.proxy,
      x.sink ++ [.reportEvent c.thread (c.moduleName f) f.name x.proxy.testCaseName e]⟩) := by
  simp only [RunnerSetting.reportEvent, EventEmittingProxy.reportEvent, hf, Option.map_some, reportEvent_context,
    reportEvent_started c.options _ hstarted]

/-- **The runner's contexts answer alike.** -/
theorem sameContext (h : SameSetting c c' a a') :
    SameContext c.context c'.context a a' c.thread (queryDefaultDisposition c.options .failedAssertion)
      (queryDefaultDisposition c.options .uncaughtException) (Both (SameRunner c.thread.threadId))
      (Both (SameRunnerIn c c' a a')) (Both (SameRunner c.thread.threadId)) := by
  constructor
  case reject => exact id
  case abandon =>
    rintro _ _ ⟨x, x', rfl, rfl, hx⟩
    exact ⟨x, x', rfl, rfl, hx.toSameRunner⟩
  case start =>
    rintro _ _ ⟨x, x', rfl, rfl, hx⟩
    obtain ⟨hstate, hstarted⟩ := hx.state.beforeFixtureStart c.memory
    have hcall : SameSinkCall (w := w) (.beforeFixtureStart c.thread (c.moduleName a.fixture) a.fixture.name)
        (.beforeFixtureStart c.thread (c'.moduleName a'.fixture) a'.fixture.name) := by
      rw [h.moduleName, h.fixture]
      exact .beforeFixtureStart _ _ _
    have htarget : x.target.beforeFixtureStart c.thread.threadId c.memory =
        x'.target.beforeFixtureStart c'.thread.threadId c'.memory := by rw [hx.target, h.thread, h.memory]
    have hproxy : SameProxy { x.proxy with firstTestCaseBegun := false, currentFixture := some a.fixture }
        { x'.proxy with firstTestCaseBegun := false, currentFixture := some a'.fixture } :=
      ⟨rfl, hx.proxy.testCase⟩
    have hnext := hx.callback (congrArg Prod.snd htarget) hcall hproxy hstate
    refine ⟨congrArg Prod.fst htarget, ?_⟩
    cases hf : failed (x.target.beforeFixtureStart c.thread.threadId c.memory).1 with
    | true  => exact (if_pos hf).mpr ⟨_, _, rfl, rfl, hnext⟩
    | false =>
        refine (if_neg (by rw [Bool.not_eq_true]; exact hf)).mpr ⟨_, _, rfl, rfl, ?_⟩
        exact ⟨hnext, hstarted hf, rfl, rfl⟩
  case announce =>
    rintro _ _ i ⟨x, x', rfl, rfl, hx⟩
    have hcall : SameSinkCall (w := w)
        (.beforeTestCaseStart c.thread (c.moduleName a.fixture) a.fixture.name (⟨a.fixture, i⟩ : TestCaseRef).name)
        (.beforeTestCaseStart c.thread (c'.moduleName a'.fixture) a'.fixture.name
          (⟨a'.fixture, i⟩ : TestCaseRef).name) := by
      rw [h.moduleName, h.fixture, h.testCase]
      exact .beforeTestCaseStart _ _ _ _
    have hcode : x.target.beforeTestCaseStart c.thread.threadId =
        x'.target.beforeTestCaseStart c'.thread.threadId := by rw [hx.target, h.thread]
    refine ⟨hcode, _, _, rfl, rfl, ?_, hx.started, hx.fixture⟩
    refine hx.callback hx.target hcall ⟨rfl, ?_⟩ hx.state
    simp only [Option.map_some, h.testCase]
  case finish =>
    rintro _ _ i ran ⟨x, x', rfl, rfl, hx⟩
    obtain ⟨y, hy, hstate, hslot⟩ := hx.state.afterTestCaseFinish
    have hy' : x'.target.afterTestCaseFinish c'.thread.threadId = some y := by rw [← hx.target, ← h.thread, hy]
    have hcall : SameSinkCall (w := w)
        (.afterTestCaseFinish c.thread (c.moduleName a.fixture) a.fixture.name (⟨a.fixture, i⟩ : TestCaseRef).name ran)
        (.afterTestCaseFinish c.thread (c'.moduleName a'.fixture) a'.fixture.name
          (⟨a'.fixture, i⟩ : TestCaseRef).name ran) := by
      rw [h.moduleName, h.fixture, h.testCase]
      exact .afterTestCaseFinish _ _ _ _ _
    refine ⟨_, _, congrArg (Option.map _) hy, congrArg (Option.map _) hy', ?_, ?_, hx.fixture⟩
    · exact hx.callback rfl hcall ⟨hx.proxy.begun, rfl⟩ hstate
    · rw [hslot]
      exact hx.started
  case close =>
    rintro _ _ ran ⟨x, x', rfl, rfl, hx⟩
    obtain ⟨y, hy, hstate⟩ := hx.state.afterFixtureFinish
    have hy' : x'.target.afterFixtureFinish c'.thread.threadId = some y := by rw [← hx.target, ← h.thread, hy]
    have hcall : SameSinkCall (w := w) (.afterFixtureFinish c.thread (c.moduleName a.fixture) a.fixture.name ran)
        (.afterFixtureFinish c.thread (c'.moduleName a'.fixture) a'.fixture.name ran) := by
      rw [h.moduleName, h.fixture]
      exact .afterFixtureFinish _ _ _ _
    refine ⟨_, _, congrArg (Option.map _) hy, congrArg (Option.map _) hy', ?_⟩
    exact hx.callback rfl hcall ⟨hx.proxy.begun, hx.proxy.testCase⟩ hstate
  case report =>
    rintro _ _ e r ⟨x, x', rfl, rfl, hx⟩ he
    have hstarted' : x'.target.slot c'.thread.threadId ≠ none := by rw [← hx.target, ← h.thread]; exact hx.started
    have hcall : SameSinkCall (.reportEvent c.thread (c.moduleName a.fixture) a.fixture.name x.proxy.testCaseName e)
        (.reportEvent c'.thread (c'.moduleName a'.fixture) a'.fixture.name x'.proxy.testCaseName r) := by
      rw [h.moduleName, h.fixture, hx.proxy.testCaseName_eq]
      exact .reportEvent _ _ _ _ _ he
    refine ⟨_, _, congrArg Prod.snd (c.reportEvent_eq hx.fixture.1 hx.started e),
      congrArg Prod.snd (c'.reportEvent_eq hx.fixture.2 hstarted' r), ?_, hx.started, hx.fixture⟩
    exact hx.callback hx.target hcall hx.proxy hx.state
  case failedAssertion =>
    rintro _ _ place expression ⟨x, x', rfl, rfl, hx⟩
    have hcode := congrArg Prod.fst (c.reportEvent_eq hx.fixture.1 hx.started (.failedAssertion place expression))
    rw [h.type] at hcode
    exact hcode
  case unhandledException =>
    rintro _ _ record ⟨x, x', rfl, rfl, hx⟩
    have hcode := congrArg Prod.fst (c.reportEvent_eq hx.fixture.1 hx.started (.uncaughtException record))
    rw [h.type] at hcode
    exact hcode

end Related

/-! ## Whole runs -/

/-- One fixture in both worlds, with what its run depends on. -/
structure FixturePair (w : Width) where
  inside     : TsexecAction
  outside    : TsexecAction
  code       : RoutineId → TestCode w
  session    : RoutineId → BitVec 64 → Session w
  connection : RoutineId → DriverConnection w
  debugger   : Nat → Bool
  pe         : PeEnvironment (Option (RunnerContext (ReportedEvent w)))
  kernel     : KernelEnvironment (Option (RunnerContext (Events.Report w)))

namespace FixturePair

variable (c : RunnerSetting (ReportedEvent w)) (c' : RunnerSetting (Events.Report w)) (q : FixturePair w)

/-- The action whose module is a DLL. -/
def runInside (s : PeState (Option (RunnerContext (ReportedEvent w)))) :
    HRESULT × PeState (Option (RunnerContext (ReportedEvent w))) :=
  let x := runFixtureExecutionAction (q.pe.hostFor c.context) q.inside ⟨s, []⟩
  (x.1, x.2.env)

/-- The action whose module is a driver. -/
def runOutside (s : KernelState (Option (RunnerContext (Events.Report w)))) :
    HRESULT × KernelState (Option (RunnerContext (Events.Report w))) :=
  let x := runFixtureExecutionAction (q.kernel.hostFor c'.context) q.outside ⟨s, []⟩
  (x.1, x.2.env)

/-- It is the same fixture with the same code, run in the same way. -/
structure Matches : Prop where
  setting : SameSetting c c' q.inside q.outside
  modules : SameModules q.code ⟨c.context.reportEvent, q.debugger⟩ c'.context q.session q.connection q.pe q.kernel
    (queryDefaultDisposition c.options .failedAssertion) (queryDefaultDisposition c.options .uncaughtException)
  fixture : SameFixture q.inside q.outside
  flags   : q.inside.flags = q.outside.flags
  thread  : c.thread = ⟨q.pe.currentThreadId, q.pe.currentThreadId⟩

end FixturePair

section Whole

variable {c : RunnerSetting (ReportedEvent w)} {c' : RunnerSetting (Events.Report w)}

/-- Exceptions are handled unless the user has asked to leave them to a debugger. -/
theorem queryDefaultDisposition_ne_break {o : Options} (h : o.doNotCatchUnhandledExceptions = false) :
    queryDefaultDisposition o .uncaughtException ≠ .break_ := by
  unfold queryDefaultDisposition
  rw [h, if_neg Bool.false_ne_true]
  cases o.abortOnFirstFailure <;> simp

/-- **The same verdict.** A sequence of fixtures returns the same code whether their modules are DLLs or drivers.
    The runner does not crash, counts the same, and calls the event sink for the same fixtures, test cases and
    events, in the same order. -/
theorem runner_sameVerdict {qs : List (FixturePair w)} (hqs : ∀ q ∈ qs, q.Matches c c')
    (hcatch : c.options.doNotCatchUnhandledExceptions = false) (malloc : Bool) (tls : Storage)
    (tlsValuePtr : Option Pvoid) :
    let x := Cfix.runSequenceAction true malloc (qs.map (FixturePair.runInside c)) ⟨⟨0, 0⟩, tls, some .created⟩
    let x' := Cfix.runSequenceAction true malloc (qs.map (FixturePair.runOutside c'))
      ⟨⟨0, 0⟩, tlsValuePtr, some .created⟩
    x.1 = x'.1 ∧ ∃ y y', x.2.user = some y ∧ x'.2.user = some y' ∧
      y.target.statistics = y'.target.statistics ∧
      y.target.statistics.exitCode = y'.target.statistics.exitCode ∧ List.Forall₂ SameSinkCall y.sink y'.sink := by
  have hstep : List.Forall₂ (fun f f' => ∀ s s', SameState (Both (SameRunner c.thread.threadId)) s s' →
      (f s).1 = (f' s').1 ∧ SameState (Both (SameRunner c.thread.threadId)) (f s).2 (f' s').2)
      (qs.map (FixturePair.runInside c)) (qs.map (FixturePair.runOutside c')) := by
    rw [List.forall₂_map_left_iff, List.forall₂_map_right_iff, List.forall₂_same]
    intro q hq s s' hs
    have hm := hqs q hq
    exact sameRun (sameContext hm.setting) (queryDefaultDisposition_ne_break hcatch) hm.modules hm.fixture hm.flags
      hm.thread hs
  have hstart : Both (SameRunner (w := w) c.thread.threadId) (some .created) (some .created) :=
    ⟨_, _, rfl, rfl, rfl, .nil, ⟨rfl, rfl⟩, fun i hi => nomatch hi⟩
  obtain ⟨hcode, ⟨y, y', hy, hy', hrun⟩, -⟩ := runSequenceAction_rel hstep true malloc
    ⟨⟨0, 0⟩, tls, some .created⟩ ⟨⟨0, 0⟩, tlsValuePtr, some .created⟩ ⟨hstart, rfl⟩
  exact ⟨hcode, y, y', hy, hy', by rw [hrun.target], by rw [hrun.target], hrun.sink⟩

end Whole

/-! ## A failing test case in both worlds -/

/-- A fixture with one test case. -/
def oneTestCase : TsexecAction where
  fixture :=
    { name := "Fixture", setupRoutine := 0, teardownRoutine := 0, beforeRoutine := 0, afterRoutine := 0
      flags := 0#32, testCases := [⟨"Test", 5⟩] }
  flags         := 0#32
  testCaseIndex := none
  index_lt _ h  := nomatch h

/-- The runner without options. -/
def plainSetting {ε : Type} (type : ε → EventType) : RunnerSetting ε where
  options      := ⟨false, false, false⟩
  thread       := ⟨1, 1⟩
  memory       := true
  moduleName _ := "Module"
  type         := type

/-- The type of a reported event. -/
def reportType (r : Events.Report w) : EventType :=
  if r.type = 0 then .failedAssertion
  else if r.type = 1 then .uncaughtException
  else if r.type = 2 then .inconclusiveness
  else .log

/-- The test case logs a message and fails. -/
def failingPair : FixturePair .w64 where
  inside         := oneTestCase
  outside        := inDriver oneTestCase
  code _         := failingCode .w64
  session _      := failingSession .w64
  connection _   := failingDriver .w64
  debugger _     := false
  pe             := .allOk (processBody ⟨(plainSetting ReportedEvent.type).context.reportEvent, fun _ => false⟩
    fun _ => failingCode .w64)
  kernel         :=
    { isValidContext := true, isDebuggerPresent := fun _ => false, currentThreadId := 1, beforeFixtureStart := sOk
      beforeTestCaseStart := fun _ => sOk, malloc := true, deviceIoControl := fun _ => sOk
      body := driverBody (plainSetting reportType).context fun _ => failingSession .w64 }

/-- What the test case queues. -/
def failingEvents : List (Events.EventArgs .w64) :=
  let t := (failingDriver .w64).thread (failingSession .w64 0#64).request
  [t.eventArgs [] (.log ((Events.Wstr.ofString "3 left").truncate 200)),
    t.eventArgs [] (.failedAssertion ⟨none, none, 12#32⟩ (some (.ofString "left == 0")))]

theorem failingSession_fits (tlsValue : BitVec 64) :
    Fits (failingSession .w64 tlsValue) (failingDriver .w64) (failingCode .w64) := by
  have hholds : (failingSession .w64 tlsValue).channel.Holds ([] : List (Events.EventArgs .w64)) :=
    Events.initChannel_holds _ _
      (Events.acceptsRequest_output (failingSession_reachesCode .w64 tlsValue).accepts)
  have hroom : (failingSession .w64 tlsValue).channel.room = 4072 := by
    unfold Events.Channel.room Events.Session.channel
    rw [Events.initChannel_bufferSize _ _
      (Events.acceptsRequest_output (failingSession_reachesCode .w64 tlsValue).accepts)]
    rfl
  -- the events are the same for every value
  have hevents : ((failingCode .w64).runInDriver ((failingDriver .w64).thread (failingSession .w64 tlsValue).request)
      (DriverConnection.start (failingSession .w64 tlsValue).request)).2.events = failingEvents := rfl
  show Events.committed _ _ = _
  rw [hevents]
  refine Events.committed_of_room hholds ?_ ?_
  · intro a ha
    simp only [failingEvents, List.mem_cons, List.not_mem_nil, or_false] at ha
    rcases ha with rfl | rfl
    · exact ⟨⟨by decide, by decide, by decide, by decide⟩, by decide⟩
    · exact ⟨⟨by decide, by decide, by decide, by decide⟩, by decide⟩
  · rw [hroom]
    decide

theorem failingPair_matches : failingPair.Matches (plainSetting ReportedEvent.type) (plainSetting reportType) where
  setting := ⟨rfl, rfl, rfl, rfl, rfl, rfl, fun _ => rfl⟩
  modules :=
    { valid := rfl, thread := rfl, install := fun _ => failed_sOk, malloc := rfl, io := fun _ => failed_sOk
      inside := rfl, outside := rfl, reaches := fun _ => failingSession_reachesCode .w64, value := fun _ _ => rfl
      answers := fun _ _ => ⟨rfl, rfl⟩, debugger := fun _ => rfl, portable := fun _ => failingCode_portable .w64
      slotless := fun _ _ => trivial, fits := fun _ => failingSession_fits }
  fixture := sameFixture_inDriver oneTestCase (by decide)
  flags   := rfl
  thread  := rfl

/-- The runner counts the failing test case of the DLL and of the driver in the same way. -/
theorem runner_sameVerdict_failing :
    let x := Cfix.runSequenceAction true true
      ([failingPair].map (FixturePair.runInside (plainSetting ReportedEvent.type))) ⟨⟨0, 0⟩, .zero, some .created⟩
    let x' := Cfix.runSequenceAction true true
      ([failingPair].map (FixturePair.runOutside (plainSetting reportType))) ⟨⟨0, 0⟩, none, some .created⟩
    ∃ y y', x.2.user = some y ∧ x'.2.user = some y' ∧
      y.target.statistics.exitCode = y'.target.statistics.exitCode := by
  have hmatches : ∀ q ∈ [failingPair], q.Matches (plainSetting ReportedEvent.type) (plainSetting reportType) :=
    fun q hq => by rw [List.mem_singleton.mp hq]; exact failingPair_matches
  obtain ⟨-, y, y', hy, hy', -, hexit, -⟩ := runner_sameVerdict hmatches rfl true .zero none
  exact ⟨y, y', hy, hy', hexit⟩

end Cfix.Runner
