import Cfix.Runner.CallbackOrder
import Cfix.Runner.SameVerdict

/-!
# `Runner.ServedHosts` — DLLs and drivers are served by the runner's context (`execctx.c`, `pe.c`, `cfixkl/module.c`)

The context of the runner is the proxy over its own execution context. A host whose routines do nothing to it but
report events is served by it (`OnlyReports.serves`), and so are the two kinds of modules: the routines of a DLL report
through the stubs, those of a driver through the events that the client delivers.
-/

namespace Cfix.Runner

open Transition
open Cfix.Events (Width Session Delivery)
open Cfix.Thread (exceptionBreakpoint exceptionStackOverflow exceptionFilter)

/-! ## The runner's context -/

section

variable {ε σ : Type}

/-- The runner has not crashed, its context is that of the test run, and the proxy has a fixture when one is run. -/
structure InContext (c : RunnerSetting ε) (user : σ → Option (RunnerContext ε)) (s : σ) (r : TestRun) : Prop where
  alive : ∃ x, user s = some x ∧ x.target = r.context ∧ (r.phase ≠ .idle → x.proxy.currentFixture ≠ none)
  inv   : Inv c.thread.threadId r

/-- The events are reported to the context, one after the other. -/
def reportAll (c : RunnerSetting ε) (events : List ε) (k : Option (RunnerContext ε)) : Option (RunnerContext ε) :=
  events.foldl (fun k e => (c.context.reportEvent e k).2) k

/-- The host makes its callbacks on the context, and its routines only report events to it. -/
structure OnlyReports (c : RunnerSetting ε) (h : Host σ) (user : σ → Option (RunnerContext ε)) : Prop where
  callback : ∀ call s, call.isCallback = true → (h.call call s).1 = (c.context.callback call (user s)).1 ∧
    user (h.call call s).2 = (c.context.callback call (user s)).2
  routine  : ∀ call s, call.isCallback = false → ∃ events, user (h.call call s).2 = reportAll c events (user s)

variable {c : RunnerSetting ε} {user : σ → Option (RunnerContext ε)} {r : TestRun}

/-- Events that are reported while a fixture is run leave the execution context as it is. -/
theorem reportAll_some {f : Fixture} (events : List ε) {x : RunnerContext ε} (hf : x.proxy.currentFixture = some f) :
    ∃ sink, reportAll c events (some x) = some ⟨x.target, x.proxy, sink⟩ := by
  induction events generalizing x with
  | nil => exact ⟨x.sink, rfl⟩
  | cons e events ih =>
      let call : SinkCall ε := .reportEvent c.thread (c.moduleName f) f.name x.proxy.testCaseName e
      have hstep : (c.context.reportEvent e (some x)).2 = some ⟨x.target, x.proxy, x.sink ++ [call]⟩ := by
        simp only [RunnerSetting.context, RunnerSetting.reportEvent, EventEmittingProxy.reportEvent, hf,
          Option.map_some, reportEvent_context, call]
      obtain ⟨sink, hsink⟩ := ih (x := ⟨x.target, x.proxy, x.sink ++ [call]⟩) hf
      refine ⟨sink, ?_⟩
      rw [reportAll, List.foldl_cons, hstep]
      exact hsink

/-- The events of a routine are callbacks of the main thread, which are allowed while a fixture is run. -/
theorem reports_inOrder (c : RunnerSetting ε) (events : List ε) (hphase : r.phase ≠ .idle) :
    r.InOrder c.thread.threadId c.options (events.map fun e => .reportEvent c.thread.threadId (c.type e)) := by
  induction events generalizing r with
  | nil => trivial
  | cons e events ih =>
      refine ⟨by simpa [TestRun.allowed] using hphase, fun r₁ hcall => ih ?_⟩
      cases hcall
      exact hphase

/-- They leave all but the list of the events as it is. -/
theorem run_reports (c : RunnerSetting ε) (events : List ε) {r' : TestRun}
    (hrun : run (next c.thread.threadId c.options) r
      (events.map fun e => .reportEvent c.thread.threadId (c.type e)) = some r') :
    r'.context = r.context ∧ r'.phase = r.phase ∧ r'.children = r.children := by
  induction events generalizing r with
  | nil =>
      cases hrun
      exact ⟨rfl, rfl, rfl⟩
  | cons e events ih =>
      obtain ⟨r₁, hnext, hrest⟩ := run_cons.mp hrun
      obtain ⟨hcontext, hphase, hchildren⟩ := ih hrest
      unfold next at hnext
      split at hnext
      · rw [TestRun.call, reportEvent_context] at hnext
        cases hnext
        exact ⟨hcontext, hphase, hchildren⟩
      · cases hnext

variable {h : Host σ}

/-- **The runner's context serves every host that only reports to it.** -/
theorem OnlyReports.serves (hreports : OnlyReports c h user) :
    Serves c.thread.threadId c.options h (InContext c user) where
  beforeFixtureStart {s r} t f hat := by
    obtain ⟨⟨x, hx, htarget, -⟩, hinv⟩ := hat.related
    refine ⟨c.memory, fun r' hcall => ?_⟩
    have hinv' := hinv.of_call (by simp [TestRun.allowed, hat.phase]) hcall
    obtain ⟨hcode, hstate⟩ := hreports.callback (.beforeFixtureStart t f) s rfl
    rw [hx] at hcode hstate
    simp only [RunnerSetting.context, RunnerSetting.callback, htarget] at hcode hstate
    simp only [TestRun.call] at hcall
    cases hcall
    refine ⟨⟨⟨_, hstate, rfl, fun _ => Option.some_ne_none f⟩, hinv'⟩, ?_, hat.joined⟩
    rw [hcode]
  beforeTestCaseStart {s r} t tc hat := by
    obtain ⟨⟨x, hx, htarget, hfixture⟩, hinv⟩ := hat.related
    intro r' hcall
    have hinv' := hinv.of_call (by simp [TestRun.allowed, hat.phase, hat.joined]) hcall
    obtain ⟨hcode, hstate⟩ := hreports.callback (.beforeTestCaseStart t tc) s rfl
    rw [hx] at hcode hstate
    simp only [RunnerSetting.context, RunnerSetting.callback, htarget] at hcode hstate
    have hbusy : r.phase ≠ .idle := by rw [hat.phase]; decide
    simp only [TestRun.call] at hcall
    rw [hcode]
    cases hf : failed (r.context.beforeTestCaseStart c.thread.threadId) with
    | true  =>
        rw [hf, if_pos rfl] at hcall
        cases hcall
        exact ⟨⟨⟨_, hstate, rfl, fun _ => hfixture hbusy⟩, hinv'⟩, hat.phase, hat.joined⟩
    | false =>
        rw [hf, if_neg Bool.false_ne_true] at hcall
        cases hcall
        exact ⟨⟨⟨_, hstate, rfl, fun _ => hfixture hbusy⟩, hinv'⟩, rfl, hat.joined⟩
  afterTestCaseFinish {s r} t tc ran hat := by
    obtain ⟨⟨x, hx, htarget, hfixture⟩, hinv⟩ := hat.related
    intro r' hcall
    have hinv' := hinv.of_call (by simp [TestRun.allowed, hat.phase, hat.joined]) hcall
    obtain ⟨-, hstate⟩ := hreports.callback (.afterTestCaseFinish t tc ran) s rfl
    rw [hx] at hstate
    obtain ⟨y, hy, rfl⟩ := Option.map_eq_some_iff.mp hcall
    simp only [RunnerSetting.context, RunnerSetting.callback, htarget, hy, Option.map_some] at hstate
    have hbusy : r.phase ≠ .idle := by rw [hat.phase]; decide
    exact ⟨⟨⟨_, hstate, rfl, fun _ => hfixture hbusy⟩, hinv'⟩, rfl, hat.joined⟩
  afterFixtureFinish {s r} t f ran hat := by
    obtain ⟨⟨x, hx, htarget, -⟩, hinv⟩ := hat.related
    intro r' hcall
    have hinv' := hinv.of_call (by simp [TestRun.allowed, hat.phase, hat.joined]) hcall
    obtain ⟨-, hstate⟩ := hreports.callback (.afterFixtureFinish t f ran) s rfl
    rw [hx] at hstate
    obtain ⟨y, hy, rfl⟩ := Option.map_eq_some_iff.mp hcall
    simp only [RunnerSetting.context, RunnerSetting.callback, htarget, hy, Option.map_some] at hstate
    exact ⟨⟨⟨_, hstate, rfl, fun hidle => absurd rfl hidle⟩, hinv'⟩, rfl, hat.joined⟩
  leaveFixture {s r p} hp hat := by
    obtain ⟨⟨x, hx, htarget, -⟩, hinv⟩ := hat.related
    intro r' hcall
    have hinv' := hinv.of_call (by simpa [TestRun.allowed, hat.phase, hat.joined] using hp) hcall
    cases hcall
    exact ⟨⟨⟨x, hx, htarget, fun hidle => absurd rfl hidle⟩, hinv'⟩, rfl, hat.joined⟩
  routine {s r p call} hcall hp hat := by
    obtain ⟨⟨x, hx, htarget, hfixture⟩, hinv⟩ := hat.related
    have hbusy : r.phase ≠ .idle := by rw [hat.phase]; exact hp
    obtain ⟨f, hf⟩ := Option.ne_none_iff_exists'.mp (hfixture hbusy)
    obtain ⟨events, hevents⟩ := hreports.routine call s hcall
    obtain ⟨sink, hsink⟩ := reportAll_some (c := c) events hf
    refine ⟨events.map fun e => .reportEvent c.thread.threadId (c.type e), ?_, reports_inOrder c events hbusy, ?_⟩
    · intro a ha
      obtain ⟨e, -, rfl⟩ := List.mem_map.mp ha
      rfl
    · intro r' hrun
      obtain ⟨hcontext, hphase, hchildren⟩ := run_reports c events hrun
      refine ⟨hchildren.trans hat.joined, ⟨⟨x.target, x.proxy, sink⟩, ?_, ?_, fun _ => hfixture hbusy⟩, ?_⟩
      · rw [hevents, hx, hsink]
      · exact htarget.trans hcontext.symm
      · exact run_invariant (fun _ _ _ hI hnext => (hI.step hnext).1) hinv hrun

end

/-! ## Modules -/

section

variable {κ : Type} {P : κ → κ → Prop}

/-- What a routine of a DLL does to the context, its runner does or nothing. -/
theorem PeEnvironment.runTestRoutine_user {e : PeEnvironment κ} (hrefl : ∀ k, P k k)
    (hbody : ∀ r storage k, P k (e.body r storage k).2.2) (routine : Nat) (r : RoutineId) (restore : Bool)
    (s : PeState κ) : P s.user (e.runTestRoutine routine r restore s).2.user := by
  simp only [PeEnvironment.runTestRoutine]
  split
  · exact hrefl _
  · split
    · exact hrefl _
    · exact hbody _ _ _

theorem PeEnvironment.runOptionalRoutine_user {e : PeEnvironment κ} (hrefl : ∀ k, P k k)
    (hbody : ∀ r storage k, P k (e.body r storage k).2.2) (routine : Nat) (r : RoutineId) (restore : Bool)
    (failureHr : HRESULT) (s : PeState κ) :
    P s.user (e.runOptionalRoutine routine r restore failureHr s).2.user := by
  have hrun := PeEnvironment.runTestRoutine_user hrefl hbody routine r restore s
  simp only [PeEnvironment.runOptionalRoutine]
  split
  · exact hrefl _
  · split
    · split <;> exact hrun
    · exact hrefl _

theorem PeEnvironment.dispatch_user {e : PeEnvironment κ} (hrefl : ∀ k, P k k)
    (hbody : ∀ r storage k, P k (e.body r storage k).2.2) (s : PeState κ) (call : Call) :
    P s.user (e.dispatch s call).2.user := by
  cases call with
  | setup f flags        => exact PeEnvironment.runOptionalRoutine_user hrefl hbody ..
  | before f flags       => exact PeEnvironment.runOptionalRoutine_user hrefl hbody ..
  | after f flags        => exact PeEnvironment.runOptionalRoutine_user hrefl hbody ..
  | teardown f flags     => exact PeEnvironment.runOptionalRoutine_user hrefl hbody ..
  | runTestCase tc flags =>
      simp only [PeEnvironment.dispatch, PeEnvironment.runTestCaseTestModule]
      split
      · exact hrefl _
      · exact PeEnvironment.runTestRoutine_user hrefl hbody ..
  | _ => exact hrefl _

/-- The same for a driver. -/
theorem KernelEnvironment.callRoutine_user {d : KernelEnvironment κ} (hrefl : ∀ k, P k k)
    (hbody : ∀ r tlsValue k, P k (d.body r tlsValue k).2.2) (r : RoutineId) (tlsValue : Pvoid) (k : κ) :
    P k (d.callRoutine r tlsValue k).user := by
  unfold KernelEnvironment.callRoutine
  split
  · exact hrefl _
  · exact hbody _ _ _

theorem KernelEnvironment.runBeforeOrAfterRoutine_user {d : KernelEnvironment κ} (hrefl : ∀ k, P k k)
    (hbody : ∀ r tlsValue k, P k (d.body r tlsValue k).2.2) (routineTag : Nat) (r : RoutineId) (failureHr : HRESULT)
    (reset : Bool) (s : KernelState κ) :
    P s.user (d.runBeforeOrAfterRoutine routineTag r failureHr reset s).2.user := by
  unfold KernelEnvironment.runBeforeOrAfterRoutine
  split
  · exact KernelEnvironment.callRoutine_user hrefl hbody ..
  · exact hrefl _

theorem KernelEnvironment.dispatch_user {d : KernelEnvironment κ} (hrefl : ∀ k, P k k)
    (hbody : ∀ r tlsValue k, P k (d.body r tlsValue k).2.2) (s : KernelState κ) (call : Call) :
    P s.user (d.dispatch s call).2.user := by
  have hcall := KernelEnvironment.callRoutine_user (d := d) hrefl hbody
  have hrun := KernelEnvironment.runBeforeOrAfterRoutine_user (d := d) hrefl hbody
  cases call with
  | setup f flags        =>
      simp only [KernelEnvironment.dispatch, KernelEnvironment.runSetupRoutine]
      split
      · exact hrefl _
      · split
        · exact hrefl _
        · split
          · exact hcall _ _ _
          · exact hrefl _
  | teardown f flags     =>
      simp only [KernelEnvironment.dispatch, KernelEnvironment.runTeardownRoutine]
      split
      · exact hrefl _
      · split
        · exact hcall _ _ _
        · exact hrefl _
  | before f flags       =>
      simp only [KernelEnvironment.dispatch, KernelEnvironment.runBeforeRoutine]
      split
      · exact hrefl _
      · exact hrun ..
  | after f flags        =>
      simp only [KernelEnvironment.dispatch, KernelEnvironment.runAfterRoutine]
      split
      · exact hrefl _
      · exact hrun ..
  | runTestCase tc flags =>
      simp only [KernelEnvironment.dispatch, KernelEnvironment.runTestCaseRoutine]
      split
      · exact hrefl _
      · exact hcall _ _ _
  | _ => exact hrefl _

end

section

variable {w : Width} {ε : Type}

/-- The context for the events of one kind of modules. -/
def RunnerSetting.contextFor {ε' : Type} (c : RunnerSetting ε) (f : ε' → ε) :
    ExecutionContext ε' (Option (RunnerContext ε)) where
  callback      := c.context.callback
  reportEvent e := c.context.reportEvent (f e)

/-- A DLL whose routines have this code. -/
theorem onlyReports_process (c : RunnerSetting ε) (f : ReportedEvent w → ε)
    {e : PeEnvironment (Option (RunnerContext ε))} {debugger : Nat → Bool} {code : RoutineId → TestCode w}
    (hbody : e.body = processBody ⟨(c.contextFor f).reportEvent, debugger⟩ code) :
    OnlyReports c (e.hostFor c.context) PeState.user where
  callback call s hcall := by simp [PeEnvironment.hostFor, hcall]
  routine call s hcall  := by
    have hdispatch := PeEnvironment.dispatch_user (e := e) (P := fun k k' => ∃ events, k' = reportAll c events k)
      (fun k => ⟨[], rfl⟩) (fun r storage k => by
        rw [hbody]
        have hcontext := (code r).runInProcess_context ⟨(c.contextFor f).reportEvent, debugger⟩ storage k
        refine ⟨((code r).runInProcess ⟨(c.contextFor f).reportEvent, debugger⟩ ⟨storage, k, []⟩).2.events.map f, ?_⟩
        rw [reportAll, List.foldl_map]
        exact hcontext) s call
    simpa [PeEnvironment.hostFor, hcall] using hdispatch

/-- The deliveries of a call of the client. -/
theorem deliver_reportAll (c : RunnerSetting ε) (f : Events.Report w → ε) (deliveries : List (Delivery w))
    (k : Option (RunnerContext ε)) :
    ∃ events, deliveries.foldl (c.contextFor f).deliver k = reportAll c events k := by
  induction deliveries generalizing k with
  | nil => exact ⟨[], rfl⟩
  | cons delivery deliveries ih =>
      obtain ⟨events, hevents⟩ := ih ((c.contextFor f).deliver k delivery)
      cases delivery with
      | event report => exact ⟨f report :: events, hevents⟩
      | note report  => exact ⟨f report :: events, hevents⟩

/-- A driver whose routines are called through the client. -/
theorem onlyReports_driver (c : RunnerSetting ε) (f : Events.Report w → ε)
    {d : KernelEnvironment (Option (RunnerContext ε))} {session : RoutineId → BitVec 64 → Session w}
    (hbody : d.body = driverBody (c.contextFor f) session) :
    OnlyReports c (d.hostFor c.context) KernelState.user where
  callback call s hcall := by simp [KernelEnvironment.hostFor, hcall]
  routine call s hcall  := by
    have hdispatch := KernelEnvironment.dispatch_user (d := d) (P := fun k k' => ∃ events, k' = reportAll c events k)
      (fun k => ⟨[], rfl⟩) (fun r tlsValue k => by
        rw [hbody]
        exact deliver_reportAll c f _ k) s call
    simpa [KernelEnvironment.hostFor, hcall] using hdispatch

end

/-! ## A run with both kinds of modules -/

section

variable {σ τ κ : Type}

/-- A host on a part of the state. -/
def Host.on (h : Host τ) (get : σ → τ) (put : σ → τ → σ) : Host σ where
  isValidContext      := h.isValidContext
  isDebuggerPresent s := h.isDebuggerPresent (get s)
  currentThreadId     := h.currentThreadId
  call c s            := ((h.call c (get s)).1, put s (h.call c (get s)).2)

theorem OnlyReports.on {ε : Type} {c : RunnerSetting ε} {h : Host τ} {user : τ → Option (RunnerContext ε)}
    {user' : σ → Option (RunnerContext ε)} (hreports : OnlyReports c h user) {get : σ → τ} {put : σ → τ → σ}
    (hget : ∀ s, user (get s) = user' s) (hput : ∀ s t, user' (put s t) = user t) :
    OnlyReports c (Host.on h get put) user' where
  callback call s hcall := by
    obtain ⟨hcode, hstate⟩ := hreports.callback call (get s) hcall
    rw [hget] at hcode hstate
    exact ⟨hcode, (hput s _).trans hstate⟩
  routine call s hcall  := by
    obtain ⟨events, hevents⟩ := hreports.routine call (get s) hcall
    rw [hget] at hevents
    exact ⟨events, (hput s _).trans hevents⟩

/-- Where the run stands, the slots of the main thread for either kind of modules, and the execution context. -/
structure MixedState (κ : Type) where
  table       : TableEnv
  tls         : Storage
  tlsValuePtr : Option Pvoid
  user        : κ

namespace MixedState

def inside (s : MixedState κ) : PeState κ := ⟨s.table, s.tls, s.user⟩

def putInside (s : MixedState κ) (p : PeState κ) : MixedState κ :=
  { s with table := p.table, tls := p.tls, user := p.user }

def outside (s : MixedState κ) : KernelState κ := ⟨s.table, s.tlsValuePtr, s.user⟩

def putOutside (s : MixedState κ) (k : KernelState κ) : MixedState κ :=
  { s with table := k.table, tlsValuePtr := k.tlsValuePtr, user := k.user }

end MixedState

variable {w : Width}

/-- An event of a DLL, or one that the client reports for a driver. -/
abbrev ModuleEvent (w : Width) := ReportedEvent w ⊕ Events.Report w

def ModuleEvent.type : ModuleEvent w → EventType := Sum.elim ReportedEvent.type reportType

/-- The code raises none of the exceptions that are left to a debugger. -/
def Contained : TestCode w → Prop
  | .finish | .fail | .reportInconclusiveness _ => True
  | .raise record =>
    record.exceptionCode ≠ exceptionBreakpoint ∧ record.exceptionCode ≠ exceptionStackOverflow
  | .reportFailedAssertion _ _ next
  | .reportFailedAssertionFormat _ _ next
  | .assertEqualsUlong _ _ _ _ next => ∀ disp, Contained (next disp)
  | .reportLog _ next | .setValue _ _ next | .setIrql _ next => Contained next
  | .getValue _ next => ∀ value, Contained (next value)

/-- A DLL, and the code of its routines, which leaves no exception unhandled. -/
structure DllCode (c : RunnerSetting (ModuleEvent w)) where
  pe       : PeEnvironment (Option (RunnerContext (ModuleEvent w)))
  code     : RoutineId → TestCode w
  debugger : Nat → Bool
  handled  : ∀ r storage k, ((code r).runInProcess ⟨(c.contextFor Sum.inl).reportEvent, debugger⟩
    ⟨storage, k, []⟩).1.isSome = true

/-- A driver, and the calls of the client for its routines. -/
structure DriverCode (w : Width) where
  kernel  : KernelEnvironment (Option (RunnerContext (ModuleEvent w)))
  session : RoutineId → BitVec 64 → Session w

inductive ModuleCode (c : RunnerSetting (ModuleEvent w)) where
  | dll (d : DllCode c)
  | sys (d : DriverCode w)

/-- The host for the actions of a module's fixtures. -/
def ModuleCode.host {c : RunnerSetting (ModuleEvent w)} :
    ModuleCode c → Host (MixedState (Option (RunnerContext (ModuleEvent w))))
  | .dll d =>
    let body := processBody ⟨(c.contextFor Sum.inl).reportEvent, d.debugger⟩ d.code
    Host.on (PeEnvironment.hostFor { d.pe with body := body } c.context) MixedState.inside MixedState.putInside
  | .sys d =>
    let body := driverBody (c.contextFor Sum.inr) d.session
    Host.on (KernelEnvironment.hostFor { d.kernel with body := body } c.context) MixedState.outside
      MixedState.putOutside

/-- A failed assertion leaves no exception unhandled, if the code behind it does not. -/
theorem reportFailedAssertion_handled (p : Process w κ) {place : Place} {expression : Option Events.Wstr}
    {next : Disposition → ProcessRun w κ → Ended (ProcessRun w κ)} (hnext : ∀ disp s, (next disp s).1.isSome = true)
    (s : ProcessRun w κ) : (p.reportFailedAssertion place expression next s).1.isSome = true := by
  simp only [Process.reportFailedAssertion, Process.report]
  generalize (p.reportEvent (.failedAssertion place expression) s.context).1 = disp
  generalize p.isDebuggerPresent (s.events ++ [ReportedEvent.failedAssertion place expression]).length = debugger
  cases disp with
  | continue_   => exact hnext _ _
  | breakAlways => exact hnext _ _
  | abort       => rfl
  | break_      =>
      cases debugger with
      | true  => exact hnext _ _
      | false => rfl

/-- Unless the context answers an exception with a break, contained code leaves none unhandled. -/
theorem Contained.handled {code : TestCode w} (hcode : Contained code) {p : Process w κ}
    (hp : ∀ record k, (p.reportEvent (.uncaughtException record) k).1 ≠ .break_) (s : ProcessRun w κ) :
    (code.runInProcess p s).1.isSome = true := by
  induction code generalizing s with
  | finish => rfl
  | fail => rfl
  | raise record =>
      obtain ⟨hbreakpoint, hoverflow⟩ := hcode
      have hfilter : ∀ disp, disp ≠ .break_ →
          (completionOf (exceptionFilter record.exceptionCode disp false)).isSome = true := by
        intro disp hdisp
        unfold exceptionFilter
        rw [if_neg hbreakpoint, if_neg hoverflow, if_neg hdisp]
        split
        · rfl
        · split <;> rfl
      simp only [TestCode.runInProcess, Process.exception, Process.report]
      split
      · exact hfilter _ (hp _ _)
      · exact hfilter _ (by decide)
  | reportFailedAssertion place expression next ih =>
      exact reportFailedAssertion_handled p (fun disp s => ih disp (hcode disp) s) s
  | reportFailedAssertionFormat place format next ih =>
      exact reportFailedAssertion_handled p (fun disp s => ih disp (hcode disp) s) s
  | assertEqualsUlong expected actual place expression next ih =>
      simp only [TestCode.runInProcess]
      split
      · exact ih _ (hcode _) s
      · exact reportFailedAssertion_handled p (fun disp s => ih disp (hcode disp) s) s
  | reportInconclusiveness message => rfl
  | reportLog format next ih => exact ih hcode _
  | setValue tag value next ih => exact ih hcode _
  | getValue tag next ih => exact ih _ (hcode _) _
  | setIrql irql next ih => exact ih hcode _

/-- The runner's context does not, unless exceptions are to be left to a debugger. -/
theorem RunnerSetting.uncaughtException_ne_break (c : RunnerSetting (ModuleEvent w)) (htype : c.type = ModuleEvent.type)
    (hcatch : c.options.doNotCatchUnhandledExceptions = false) (record : Events.ExceptionRecord w)
    (k : Option (RunnerContext (ModuleEvent w))) :
    ((c.contextFor Sum.inl).reportEvent (.uncaughtException record) k).1 ≠ .break_ := by
  simp only [RunnerSetting.contextFor, RunnerSetting.context]
  cases k with
  | none   => exact (by decide : Disposition.abort ≠ .break_)
  | some x =>
      simp only [RunnerSetting.reportEvent]
      cases x.proxy.reportEvent c.moduleName c.thread (Sum.inl (ReportedEvent.uncaughtException record)) with
      | none      => exact (by decide : Disposition.abort ≠ .break_)
      | some call =>
          simp only [ExecContext.reportEvent, ExecContext.getCurrentExecutionState]
          cases x.target.slot c.thread.threadId with
          | none   => exact (by decide : Disposition.abort ≠ .break_)
          | some i =>
              rw [htype]
              exact queryDefaultDisposition_ne_break hcatch

theorem onlyReports_module {c : RunnerSetting (ModuleEvent w)} (m : ModuleCode c) :
    OnlyReports c m.host MixedState.user := by
  cases m with
  | dll d => exact (onlyReports_process c Sum.inl rfl).on (fun _ => rfl) (fun _ _ => rfl)
  | sys d => exact (onlyReports_driver c Sum.inr rfl).on (fun _ => rfl) (fun _ _ => rfl)

end

end Cfix.Runner
