import Cfix.Fixture.Simulation
import Cfix.Kernel.SameCode
import Cfix.Storage.Discipline

/-!
# `Kernel.SameRun` — the same fixture in a process and in a driver

The fixture action does not know where its module lives: it calls the runners of `cfix/pe.c` or those of
`cfixkl/module.c`. The former run the code at once, with every event going to the execution context; the latter send
a request and report what comes back. `sameRun` lifts the agreement of a single routine to the run of a fixture.
-/

namespace Cfix

open Events (Wstr Width EventArgs Session Delivery TranslatedInfo ReportOf committed charsOf eventTypeCode)

variable {w : Width} {κ κ' : Type}

/-! ## Execution contexts -/

/-- `CFIX_EXECUTION_CONTEXT` for events of a type `ε`, over the states `κ`. -/
structure ExecutionContext (ε κ : Type) where
  /-- The callbacks of the fixture action. -/
  callback    : Call → κ → HRESULT × κ
  /-- `ReportEvent` on the main thread. -/
  reportEvent : ε → κ → Disposition × κ

/-- A call of the fixture action to the context and not to the module. -/
def Call.isCallback : Call → Bool
  | .beforeFixtureStart _ _ | .beforeTestCaseStart _ _ => true
  | .afterTestCaseFinish _ _ _ | .afterFixtureFinish _ _ _ => true
  | .setup _ _ | .before _ _ | .runTestCase _ _ | .after _ _ | .teardown _ _ => false

/-! ## The module in a process -/

/-- The code of a routine as the runners see it. If nobody handles its exception the process ends, and what is given
    here for that case is never seen. -/
def processBody (p : Process w κ) (code : RoutineId → TestCode w) : RoutineId → Body κ := fun r storage user =>
  let (completion, s) := (code r).runInProcess p ⟨storage, user, []⟩
  (completion.getD .returned, s.storage, s.context)

/-- The host of an action with the context; the module has the runners of `e`. -/
def PeEnvironment.hostFor {ε : Type} (e : PeEnvironment κ) (x : ExecutionContext ε κ) : Host (PeState κ) where
  isValidContext      := e.isValidContext
  isDebuggerPresent s := e.isDebuggerPresent s.table.calls
  currentThreadId     := e.currentThreadId
  call c s            :=
    let r := if c.isCallback then ((x.callback c s.user).1, { s with user := (x.callback c s.user).2 })
      else e.dispatch s c
    (r.1, { r.2 with table := s.table.next c })

/-! ## The module in a driver -/

/-- The client reports a delivery. The answer is not looked at. -/
def ExecutionContext.deliver (x : ExecutionContext (Events.Report w) κ) (k : κ) : Delivery w → κ
  | .event report => (x.reportEvent report k).2
  | .note report  => (x.reportEvent report k).2

/-- A call of the client for a routine, by the value of slot 0. -/
def driverBody (x : ExecutionContext (Events.Report w) κ) (session : RoutineId → BitVec 64 → Session w) :
    RoutineId → KernelBody κ := fun r tlsValue user =>
  let result := (session r (.ofNat 64 tlsValue)).result
  (if result.abortRun then .raised true else if result.ranToCompletion then .returned else .raised false,
    result.tlsValue.toNat, result.deliveries.foldl x.deliver user)

/-- What the flags of a response say. -/
theorem completion_of_flags (completion : Completion) :
    (if completion == .raised true then Completion.raised true
      else if completion == .returned then Completion.returned else Completion.raised false) = completion := by
  cases completion with
  | returned        => rfl
  | raised abortRun => cases abortRun <;> rfl

/-- The host of an action with the context; the module has the runners of `d`. -/
def KernelEnvironment.hostFor {ε : Type} (d : KernelEnvironment κ) (x : ExecutionContext ε κ) :
    Host (KernelState κ) where
  isValidContext      := d.isValidContext
  isDebuggerPresent s := d.isDebuggerPresent s.table.calls
  currentThreadId     := d.currentThreadId
  call c s            :=
    let r := if c.isCallback then ((x.callback c s.user).1, { s with user := (x.callback c s.user).2 })
      else d.dispatch s c
    (r.1, { r.2 with table := s.table.next c })

/-! ## Code that does not read its slots -/

def TestCode.Slotless : TestCode w → Prop
  | .finish | .raise _ | .fail | .reportInconclusiveness _ => True
  | .reportFailedAssertion _ _ next
  | .reportFailedAssertionFormat _ _ next
  | .assertEqualsUlong _ _ _ _ next => ∀ disp, (next disp).Slotless
  | .reportLog _ next | .setValue _ _ next | .setIrql _ next => next.Slotless
  | .getValue _ _ => False

/-- The runs differ in the slots only. -/
def SameButSlots (x y : Ended (ProcessRun w κ)) : Prop :=
  x.1 = y.1 ∧ x.2.context = y.2.context ∧ x.2.events = y.2.events

theorem Process.reportFailedAssertion_slots {p : Process w κ} {place : Place} {expression : Option Wstr}
    {next : Disposition → ProcessRun w κ → Ended (ProcessRun w κ)}
    (hnext : ∀ disp k es st st', SameButSlots (next disp ⟨st, k, es⟩) (next disp ⟨st', k, es⟩)) (k : κ)
    (es : List (ReportedEvent w)) (st st' : Storage) :
    SameButSlots (p.reportFailedAssertion place expression next ⟨st, k, es⟩)
      (p.reportFailedAssertion place expression next ⟨st', k, es⟩) := by
  simp only [Process.reportFailedAssertion, Process.resume, Process.report]
  generalize Thread.peReportFailedAssertion _ _ _ = effect
  cases effect with
  | returns disp => exact hnext disp _ _ st st'
  | raises code  => exact ⟨rfl, rfl, rfl⟩
  | exits        => exact ⟨rfl, rfl, rfl⟩

theorem TestCode.runInProcess_slots {code : TestCode w} (hcode : code.Slotless) (p : Process w κ) (k : κ)
    (es : List (ReportedEvent w)) (st st' : Storage) :
    SameButSlots (code.runInProcess p ⟨st, k, es⟩) (code.runInProcess p ⟨st', k, es⟩) := by
  induction code generalizing k es st st' with
  | finish => exact ⟨rfl, rfl, rfl⟩
  | fail => exact ⟨rfl, rfl, rfl⟩
  | raise record =>
      simp only [runInProcess, Process.exception, Process.report]
      split <;> exact ⟨rfl, rfl, rfl⟩
  | reportFailedAssertion place expression next ih =>
      exact Process.reportFailedAssertion_slots (fun disp k es st st' => ih disp (hcode disp) k es st st') k es st st'
  | reportFailedAssertionFormat place format next ih =>
      exact Process.reportFailedAssertion_slots (fun disp k es st st' => ih disp (hcode disp) k es st st') k es st st'
  | assertEqualsUlong expected actual place expression next ih =>
      simp only [runInProcess]
      split
      · exact ih _ (hcode _) k es st st'
      · exact Process.reportFailedAssertion_slots (fun disp k es st st' => ih disp (hcode disp) k es st st') k es st st'
  | reportInconclusiveness message => exact ⟨rfl, rfl, rfl⟩
  | reportLog format next ih => exact ih hcode _ _ st st'
  | setValue tag value next ih => exact ih hcode k es _ _
  | getValue tag next => exact hcode.elim
  | setIrql irql next ih => exact ih hcode k es st st'

/-- A failed assertion keeps what its event and the code behind it keep. -/
theorem Process.reportFailedAssertion_keeps {p : Process w κ} {I : κ → List (ReportedEvent w) → Prop}
    (hreport : ∀ e k es, I k es → I (p.reportEvent e k).2 (es ++ [e])) {place : Place} {expression : Option Wstr}
    {next : Disposition → ProcessRun w κ → Ended (ProcessRun w κ)}
    (hnext : ∀ disp x, I x.context x.events → I (next disp x).2.context (next disp x).2.events)
    {x : ProcessRun w κ} (hx : I x.context x.events) :
    I (p.reportFailedAssertion place expression next x).2.context
      (p.reportFailedAssertion place expression next x).2.events := by
  have hrep := hreport (.failedAssertion place expression) x.context x.events hx
  simp only [Process.reportFailedAssertion, Process.resume, Process.report]
  generalize Thread.peReportFailedAssertion _ _ _ = effect
  cases effect with
  | returns disp => exact hnext disp _ hrep
  | raises code  => exact hrep
  | exits        => exact hrep

/-- What every event keeps, whatever is in the slots, is kept by the run. -/
theorem TestCode.runInProcess_keeps (code : TestCode w) {p : Process w κ} {I : κ → List (ReportedEvent w) → Prop}
    (hreport : ∀ e k es, I k es → I (p.reportEvent e k).2 (es ++ [e])) {x : ProcessRun w κ}
    (hx : I x.context x.events) :
    I (code.runInProcess p x).2.context (code.runInProcess p x).2.events := by
  induction code generalizing x with
  | finish => exact hx
  | fail => exact hx
  | raise record =>
      simp only [runInProcess, Process.exception, Process.report]
      split
      · exact hreport _ _ _ hx
      · exact hx
  | reportFailedAssertion place expression next ih =>
      exact Process.reportFailedAssertion_keeps hreport (fun disp _ hx => ih disp hx) hx
  | reportFailedAssertionFormat place format next ih =>
      exact Process.reportFailedAssertion_keeps hreport (fun disp _ hx => ih disp hx) hx
  | assertEqualsUlong expected actual place expression next ih =>
      simp only [runInProcess]
      split
      · exact ih _ hx
      · exact Process.reportFailedAssertion_keeps hreport (fun disp _ hx => ih disp hx) hx
  | reportInconclusiveness message => exact hreport _ _ _ hx
  | reportLog format next ih => exact ih (hreport _ _ _ hx)
  | setValue tag value next ih => exact ih hx
  | getValue tag next ih => exact ih _ hx
  | setIrql irql next ih => exact ih hx

/-- The context has seen the events of the run, one after the other. -/
theorem TestCode.runInProcess_context (code : TestCode w) (p : Process w κ) (st : Storage) (k : κ) :
    let x := (code.runInProcess p ⟨st, k, []⟩).2
    x.context = x.events.foldl (fun k e => (p.reportEvent e k).2) k :=
  code.runInProcess_keeps (I := fun k' es => k' = es.foldl (fun k e => (p.reportEvent e k).2) k)
    (fun e k' es h => by rw [List.foldl_append, ← h]; rfl) rfl

/-! ## Code comes to its end -/

/-- The filter of a driver lets no exception pass if the disposition is not to break. -/
theorem completionOf_isSome (code : Thread.ExceptionCode) {disp : Disposition} (h : disp ≠ .break_) :
    (completionOf (DriverThread.exceptionFilter code disp)).isSome = true := by
  unfold DriverThread.exceptionFilter
  split
  · rfl
  · split
    · rfl
    · rfl

section Ends

variable {t : DriverThread w} (h : t.unhandledException ≠ .break_)

include h

theorem DriverThread.abortCurrentTestCase_isSome (code : Thread.ExceptionCode) (y : DriverRun w) :
    (t.abortCurrentTestCase code y).1.isSome = true := completionOf_isSome code h

theorem DriverThread.reportFailedAssertion_isSome {place : Place} {expression : Option Wstr}
    {next : Disposition → DriverRun w → Ended (DriverRun w)} (hnext : ∀ disp y, (next disp y).1.isSome = true)
    (y : DriverRun w) : (t.reportFailedAssertion place expression next y).1.isSome = true := by
  unfold DriverThread.reportFailedAssertion
  cases t.failedAssertion with
  | continue_   => exact hnext _ _
  | breakAlways => exact hnext _ _
  | abort       => exact DriverThread.abortCurrentTestCase_isSome h _ _
  | break_      =>
      simp only
      split
      · exact hnext _ _
      · exact DriverThread.abortCurrentTestCase_isSome h _ _

/-- Then all code comes to an end that the caller sees. -/
theorem TestCode.runInDriver_isSome (code : TestCode w) (y : DriverRun w) :
    (code.runInDriver t y).1.isSome = true := by
  induction code generalizing y with
  | finish => rfl
  | raise record => exact completionOf_isSome _ h
  | fail => exact DriverThread.abortCurrentTestCase_isSome h _ _
  | reportFailedAssertion place expression next ih => exact DriverThread.reportFailedAssertion_isSome h ih y
  | reportFailedAssertionFormat place format next ih => exact DriverThread.reportFailedAssertion_isSome h ih y
  | assertEqualsUlong expected actual place expression next ih =>
      simp only [runInDriver]
      split
      · exact ih _ y
      · exact DriverThread.reportFailedAssertion_isSome h ih y
  | reportInconclusiveness message => exact DriverThread.abortCurrentTestCase_isSome h _ _
  | reportLog format next ih => exact ih _
  | setValue tag value next ih => exact ih _
  | getValue tag next ih => exact ih _ _
  | setIrql irql next ih => exact ih _

end Ends

/-! ## Events that arrive -/

/-- A report says what an event of a process says. Absent strings are empty, and of a record only that there is one
    is compared. -/
def Alike (e : ReportedEvent w) (r : Events.Report w) : Prop :=
  r.type = eventTypeCode e.type ∧
    match e with
    | .failedAssertion place expression =>
      ∃ file routine expression', r.info = .failedAssertion file routine place.line expression' ∧
        file.chars = charsOf place.file ∧ routine.chars = charsOf place.routine ∧ Abridged expression (some expression')
    | .uncaughtException _              => ∃ record, r.info = .uncaughtException record
    | .inconclusiveness message         =>
      ∃ message', r.info = .inconclusiveness message' ∧ message'.chars = charsOf message
    | .log message                      => ∃ message', r.info = .log message' ∧ Abridged (some message) (some message')

/-- What is queued like an event and reported as it was queued is like the event. -/
theorem alike_of_echoes {e : ReportedEvent w} {a : EventArgs w} {r : Events.Report w} (h : Echoes e a)
    (hr : ReportOf r a) : Alike e r := by
  obtain ⟨htype, hsays⟩ := h
  have hinfo := hr.info
  refine ⟨by rw [hr.type, htype], ?_⟩
  unfold Events.InfoOf at hinfo
  rw [htype] at hinfo
  cases e with
  | failedAssertion place expression =>
      obtain ⟨hfile, hroutine, hline, hexpression⟩ := hsays
      rw [hfile, hroutine, hline] at hinfo
      exact ⟨_, _, _, hinfo, rfl, rfl, hexpression⟩
  | uncaughtException record => exact hinfo
  | inconclusiveness message => exact ⟨_, hinfo, hsays⟩
  | log message => exact ⟨_, hinfo, hsays⟩

theorem forall₂_alike {es : List (ReportedEvent w)} {as : List (EventArgs w)} {rs : List (Events.Report w)}
    (h : List.Forall₂ Echoes es as) (hr : List.Forall₂ ReportOf rs as) : List.Forall₂ Alike es rs := by
  induction h generalizing rs with
  | nil =>
      cases hr
      exact .nil
  | cons he _ ih =>
      cases hr with
      | cons hr hrs => exact .cons (alike_of_echoes he hr) (ih hrs)

/-- Some report is like the event. -/
theorem exists_alike (e : ReportedEvent w) : ∃ r, Alike e r := by
  cases e with
  | failedAssertion place expression =>
      exact ⟨⟨0, 0, 0, .failedAssertion (place.file.getD .empty) (place.routine.getD .empty) place.line
        (expression.getD .empty), []⟩, rfl, _, _, _, rfl, rfl, rfl, .refl _⟩
  | uncaughtException record => exact ⟨⟨0, 0, 1, .uncaughtException record, []⟩, rfl, _, rfl⟩
  | inconclusiveness message =>
      exact ⟨⟨0, 0, 2, .inconclusiveness (message.getD .empty), []⟩, rfl, _, rfl, rfl⟩
  | log message => exact ⟨⟨0, 0, 3, .log message, []⟩, rfl, _, rfl, .refl _⟩

/-- If no event is dropped the flag that says so stays down. -/
theorem Events.bufferTruncated_of_committed {c : Events.Channel} {held es : List (EventArgs w)} (h : c.Holds held)
    (hall : committed c es = es) : (Events.queueEvents c es).bufferTruncated = c.bufferTruncated := by
  induction es generalizing c held with
  | nil => rfl
  | cons a es ih =>
      have hle := (Events.committed_sublist (Events.queueEvent c a) es).length_le
      rw [committed] at hall
      split at hall
      · rename_i hcount
        obtain ⟨hholds, -, -, hflag⟩ := Events.queueEvent_committed h ((Events.eventCount_iff a h).mp hcount)
        rw [Events.queueEvents_cons, ih hholds (List.cons.inj hall).2, hflag]
      · rw [hall] at hle
        exact absurd hle (Nat.not_succ_le_self _)

/-- If there is room for all events, and for the largest stack trace behind them, none is dropped. -/
theorem Events.committed_of_room {c : Events.Channel} {held es : List (EventArgs w)} (h : c.Holds held)
    (hshort : ∀ a ∈ es, a.Short ∧ a.size ≤ Events.maxUshort)
    (hroom : (Events.eventLayout w).total es + Events.sizeofThroughFrames w ≤ c.room) : committed c es = es := by
  induction es generalizing c held with
  | nil => rfl
  | cons a es ih =>
      obtain ⟨hs, hsize⟩ := hshort a List.mem_cons_self
      rw [Memory.Layout.total_cons] at hroom
      have hlayout : (Events.eventLayout w).size a = a.size := rfl
      have hcommits : Events.Commits c a := ⟨by omega, hs, by omega, hsize⟩
      obtain ⟨hholds, hframe, hcount, -⟩ := Events.queueEvent_committed h hcommits
      have hlength := hholds.length
      rw [Memory.Layout.total_append, Memory.Layout.total_cons, Memory.Layout.total_nil, ← h.length] at hlength
      have hbuffer := hframe.bufferSize
      rw [committed, if_pos hcount, ih hholds (fun b hb => hshort b (List.mem_cons_of_mem a hb)) ?_]
      unfold Events.Channel.room at hroom ⊢
      omega

/-! ## The runners of a driver -/

namespace KernelEnvironment

variable {d : KernelEnvironment κ} {f : Fixture}

/-- The runner of each routine. -/
def runRoutine (d : KernelEnvironment κ) (f : Fixture) (s : KernelState κ) : RoutineId → HRESULT × KernelState κ
  | .setup    => d.runSetupRoutine f s
  | .before i => d.runBeforeRoutine f i s
  | .test i   => d.runTestCaseRoutine ⟨f, i⟩ s
  | .after i  => d.runAfterRoutine f i s
  | .teardown => d.runTeardownRoutine f s

theorem runBeforeOrAfterRoutine_eq (routineTag : Nat) (r : RoutineId) (failureHr : HRESULT) (reset : Bool)
    (s : KernelState κ) :
    ∃ tlsValuePtr, d.runBeforeOrAfterRoutine routineTag r failureHr reset s =
      if routineTag &&& cfixklpRoutinePresent != 0 then
        (responseHr (d.callRoutine r s.tlsValue s.user) failureHr,
          { s with tlsValuePtr := tlsValuePtr, user := (d.callRoutine r s.tlsValue s.user).user })
      else (sOk, { s with tlsValuePtr := tlsValuePtr }) := by
  unfold runBeforeOrAfterRoutine
  by_cases h : (routineTag &&& cfixklpRoutinePresent != 0) = true
  · simp only [h, if_true]
    exact ⟨_, rfl⟩
  · simp only [h]
    exact ⟨s.tlsValuePtr, rfl⟩

/-- **What the runner of a routine does**, the cell aside: it calls the routine, with some value, if it exists. -/
theorem runRoutine_eq (hv : d.isValidContext = true) (hm : d.malloc = true) (r : RoutineId) (s : KernelState κ) :
    ∃ tlsValue tlsValuePtr, d.runRoutine f s r =
      if f.kernelRoutine r then
        (responseHr (d.callRoutine r tlsValue s.user) r.failureHr,
          { s with tlsValuePtr := tlsValuePtr, user := (d.callRoutine r tlsValue s.user).user })
      else (sOk, { s with tlsValuePtr := tlsValuePtr }) := by
  cases r with
  | setup =>
      refine ⟨0, some 0, ?_⟩
      simp only [runRoutine, runSetupRoutine, hv, hm, Bool.not_true, Bool.false_eq_true, if_false,
        Fixture.kernelRoutine]
      rfl
  | teardown =>
      refine ⟨s.tlsValue, none, ?_⟩
      simp only [runRoutine, runTeardownRoutine, hv, Bool.not_true, Bool.false_eq_true, if_false,
        Fixture.kernelRoutine]
      rfl
  | test i => exact ⟨s.tlsValue, _, by simp only [runRoutine, runTestCaseRoutine, hv]; rfl⟩
  | before i =>
      obtain ⟨tlsValuePtr, heq⟩ := runBeforeOrAfterRoutine_eq (d := d) f.beforeRoutine (.before i)
        (RoutineId.before i).failureHr false s
      refine ⟨s.tlsValue, tlsValuePtr, ?_⟩
      simp only [runRoutine, runBeforeRoutine, hv, Bool.not_true, Bool.false_eq_true, if_false, Fixture.kernelRoutine]
      exact heq
  | after i =>
      obtain ⟨tlsValuePtr, heq⟩ := runBeforeOrAfterRoutine_eq (d := d) f.afterRoutine (.after i)
        (RoutineId.after i).failureHr true s
      refine ⟨s.tlsValue, tlsValuePtr, ?_⟩
      simp only [runRoutine, runAfterRoutine, hv, Bool.not_true, Bool.false_eq_true, if_false, Fixture.kernelRoutine]
      exact heq

end KernelEnvironment

/-! ## Both worlds -/

/-- The two contexts of a run of the fixture answer the callbacks alike and keep a relation between their states: `P`
    before the fixture, `R` while it is run, `Q` at the end. In a process the answers to events are the dispositions
    that a driver gets with the request. -/
structure SameContext (x : ExecutionContext (ReportedEvent w) κ) (x' : ExecutionContext (Events.Report w) κ')
    (a a' : TsexecAction) (thread : CfixThreadId) (failedAssertion unhandledException : Disposition)
    (P R Q : κ → κ' → Prop) : Prop where
  reject             : ∀ {k k'}, P k k' → Q k k'
  start              : ∀ {k k'}, P k k' →
    let y := x.callback (.beforeFixtureStart thread a.fixture) k
    let y' := x'.callback (.beforeFixtureStart thread a'.fixture) k'
    y.1 = y'.1 ∧ if failed y.1 then Q y.2 y'.2 else R y.2 y'.2
  announce           : ∀ {k k'} (i : Nat), R k k' →
    let y := x.callback (.beforeTestCaseStart thread ⟨a.fixture, i⟩) k
    let y' := x'.callback (.beforeTestCaseStart thread ⟨a'.fixture, i⟩) k'
    y.1 = y'.1 ∧ R y.2 y'.2
  finish             : ∀ {k k'} (i : Nat) (ran : Bool), R k k' →
    R (x.callback (.afterTestCaseFinish thread ⟨a.fixture, i⟩ ran) k).2
      (x'.callback (.afterTestCaseFinish thread ⟨a'.fixture, i⟩ ran) k').2
  abandon            : ∀ {k k'}, R k k' → Q k k'
  close              : ∀ {k k'} (ran : Bool), R k k' →
    Q (x.callback (.afterFixtureFinish thread a.fixture ran) k).2
      (x'.callback (.afterFixtureFinish thread a'.fixture ran) k').2
  report             : ∀ {k k' e r}, R k k' → Alike e r → R (x.reportEvent e k).2 (x'.reportEvent r k').2
  failedAssertion    : ∀ {k k'} (place : Place) (expression : Option Wstr), R k k' →
    (x.reportEvent (.failedAssertion place expression) k).1 = failedAssertion
  unhandledException : ∀ {k k'} (record : Events.ExceptionRecord w), R k k' →
    (x.reportEvent (.uncaughtException record) k).1 = unhandledException

/-- All events of the code find room behind the response. -/
def Fits (s : Session w) (c : DriverConnection w) (code : TestCode w) : Prop :=
  let y := code.runInDriver (c.thread s.request) (DriverConnection.start s.request)
  committed s.channel y.2.events = y.2.events

/-- The module in a process and the module in a driver have the same routines, and nothing but their code fails. -/
structure SameModules (code : RoutineId → TestCode w) (p : Process w κ)
    (x' : ExecutionContext (Events.Report w) κ') (session : RoutineId → BitVec 64 → Session w)
    (conn : RoutineId → DriverConnection w) (e : PeEnvironment κ) (d : KernelEnvironment κ')
    (failedAssertion unhandledException : Disposition) : Prop where
  valid    : e.isValidContext = d.isValidContext
  thread   : e.currentThreadId = d.currentThreadId
  install  : ∀ r, failed (e.install r) = false
  malloc   : d.malloc = true
  io       : ∀ r, failed (d.deviceIoControl r) = false
  inside   : e.body = processBody p code
  outside  : d.body = driverBody x' session
  reaches  : ∀ r v, ReachesCode (session r v) (conn r) (code r)
  value    : ∀ r v, (session r v).request.tlsValue = v
  answers  : ∀ r v, dispositionOf (session r v).request.failedAssertion = failedAssertion ∧
    dispositionOf (session r v).request.unhandledException = unhandledException
  debugger : ∀ r, p.isDebuggerPresent = (conn r).isDebuggerPresent
  portable : ∀ r, (code r).Portable
  slotless : ∀ r, (code r).Slotless
  /-- There is room for the events of each routine. -/
  fits     : ∀ r v, Fits (session r v) (conn r) (code r)

section SameRun

variable {x : ExecutionContext (ReportedEvent w) κ} {x' : ExecutionContext (Events.Report w) κ'} {a a' : TsexecAction}
  {thread : CfixThreadId} {disp disp' : Disposition} {P R Q : κ → κ' → Prop} {code : RoutineId → TestCode w}
  {session : RoutineId → BitVec 64 → Session w} {conn : RoutineId → DriverConnection w} {debug : Nat → Bool}
  {e : PeEnvironment κ} {d : KernelEnvironment κ'} {k : κ} {k' : κ'}

/-- Events on the one side and reports on the other keep the contexts related. -/
theorem SameContext.foldl (hx : SameContext x x' a a' thread disp disp' P R Q) {es : List (ReportedEvent w)}
    {rs : List (Events.Report w)} (h : List.Forall₂ Alike es rs) (hk : R k k') :
    R (es.foldl (fun k e => (x.reportEvent e k).2) k) ((rs.map Delivery.event).foldl x'.deliver k') := by
  induction h generalizing k k' with
  | nil => exact hk
  | cons he _ ih => exact ih (hx.report hk he)

/-- The dispositions of a driver are the answers in a process. -/
theorem SameContext.processAnswers (hx : SameContext x x' a a' thread disp disp' P R Q) :
    Process.Answers (w := w) ⟨x.reportEvent, debug⟩ (fun k => ∃ k', R k k') disp disp' where
  failedAssertion place expression k hk    := hx.failedAssertion place expression hk.choose_spec
  unhandledException record k hk           := hx.unhandledException record hk.choose_spec
  keeps e k hk                             := by
    obtain ⟨r, hr⟩ := exists_alike e
    exact ⟨_, hx.report hk.choose_spec hr⟩

/-- **A routine.** Under related contexts it ends in the same way, and leaves the contexts related. -/
theorem SameContext.body (hx : SameContext x x' a a' thread disp disp' P R Q) (hdisp : disp' ≠ .break_)
    (hm : SameModules code ⟨x.reportEvent, debug⟩ x' session conn e d disp disp') (hk : R k k') (r : RoutineId)
    (storage : Storage) (tlsValue : Pvoid) :
    let b := e.body r storage k
    let y := d.callRoutine r tlsValue k'
    KernelEnvironment.responseHr y r.failureHr = r.mapHr b.1.result ∧ R b.2.2 y.user := by
  obtain ⟨hfailed, hunhandled⟩ := hm.answers r (.ofNat 64 tlsValue)
  have hreaches := hm.reaches r (.ofNat 64 tlsValue)
  have hfits := hm.fits r (.ofNat 64 tlsValue)
  simp only [hm.inside, processBody, KernelEnvironment.callRoutine, hm.io r, Bool.false_eq_true, if_false, hm.outside,
    driverBody]
  generalize session r (.ofNat 64 tlsValue) = s at hfailed hunhandled hreaches hfits
  -- the run in the driver
  obtain ⟨completion, hsome⟩ := Option.isSome_iff_exists.mp ((code r).runInDriver_isSome
    (t := (conn r).thread s.request) (by rw [← hunhandled] at hdisp; exact hdisp) (DriverConnection.start s.request))
  rcases hy : (code r).runInDriver ((conn r).thread s.request) (DriverConnection.start s.request) with ⟨ending, y⟩
  rw [hy] at hsome
  simp only at hsome
  subst hsome
  obtain ⟨-, hran, habort, -, reports, hreports, hdeliveries⟩ := hreaches.result hy
  -- the run in the process, from a slot that holds the value of the request and then from the real slots
  have hstart : InStep (fun k => ∃ k', R k k')
      ⟨⟨(DriverConnection.start (w := w) s.request).tlsValue.toNat, 0⟩, k, []⟩ (DriverConnection.start s.request) :=
    ⟨rfl, rfl, .nil, k', hk⟩
  have hanswers : Process.Answers (w := w) ⟨x.reportEvent, debug⟩ (fun k => ∃ k', R k k')
      ((conn r).thread s.request).failedAssertion ((conn r).thread s.request).unhandledException := by
    show Process.Answers _ _ (dispositionOf s.request.failedAssertion) (dispositionOf s.request.unhandledException)
    rw [hfailed, hunhandled]
    exact hx.processAnswers
  obtain ⟨hend, hstep⟩ := (code r).runInDriver_agrees (hm.portable r) hanswers (hm.debugger r) hstart
  obtain ⟨hend', hcontext', hevents'⟩ := (code r).runInProcess_slots (hm.slotless r) ⟨x.reportEvent, debug⟩ k []
    storage ⟨(DriverConnection.start (w := w) s.request).tlsValue.toNat, 0⟩
  have hcontext := (code r).runInProcess_context ⟨x.reportEvent, debug⟩ storage k
  rw [hy] at hend hstep
  simp only at hcontext
  rw [hend] at hend'
  rw [hcontext, hend', hran, habort, hevents', hdeliveries]
  unfold Fits at hfits
  rw [hy] at hfits
  simp only at hfits
  -- nothing is dropped, so there is no note
  have hholds : s.channel.Holds ([] : List (EventArgs w)) :=
    Events.initChannel_holds _ _ (Events.acceptsRequest_output hreaches.accepts)
  have hflag : (Events.queueEvents s.channel y.events).bufferTruncated = false :=
    Events.bufferTruncated_of_committed hholds hfits
  rw [hfits] at hreports
  rw [hflag, if_neg Bool.false_ne_true, List.append_nil]
  simp only [completion_of_flags]
  exact ⟨responseHr_completion _ rfl rfl rfl r, hx.foldl (forall₂_alike hstep.events hreports) hk⟩

/-- The contexts are related, and the runs are at the same test case. -/
def SameState (R : κ → κ' → Prop) (s : PeState κ) (s' : KernelState κ') : Prop :=
  R s.user s'.user ∧ s.table.index = s'.table.index

/-- The runner of a routine of either module. -/
theorem SameContext.runRoutine (hx : SameContext x x' a a' thread disp disp' P R Q) (hdisp : disp' ≠ .break_)
    (hm : SameModules code ⟨x.reportEvent, debug⟩ x' session conn e d disp disp') (hsame : SameFixture a a')
    (hv : e.isValidContext = true) {r : RoutineId} (hr : ∀ i, r = .test i → i < a.fixture.testCases.length)
    {s : PeState κ} {s' : KernelState κ'} (hk : R s.user s'.user) :
    let y := e.runRoutine a.fixture s r
    let y' := d.runRoutine a'.fixture s' r
    y.1 = y'.1 ∧ R y.2.user y'.2.user ∧ y.2.table = s.table ∧ y'.2.table = s'.table := by
  obtain ⟨tlsValue, tlsValuePtr, hdriver⟩ :=
    KernelEnvironment.runRoutine_eq (f := a'.fixture) (hm.valid ▸ hv) hm.malloc r s'
  -- the routine exists in both modules or in none
  have hpresent : a.fixture.routine r ≠ 0 ↔ a'.fixture.kernelRoutine r = true := by
    cases r with
    | test i => exact iff_of_true (hsame.test i (hr i rfl)) rfl
    | setup | before i | after i | teardown => exact hsame.optional _ (fun i hi => by cases hi)
  simp only [hdriver]
  by_cases hroutine : a.fixture.routine r = 0
  · have habsent : a'.fixture.kernelRoutine r = false := by simpa [hroutine] using hpresent
    rw [PeEnvironment.runRoutine_of_absent hv hroutine, habsent, if_neg Bool.false_ne_true]
    refine ⟨?_, hk, rfl, rfl⟩
    cases r with
    | test i => exact absurd hroutine (hsame.test i (hr i rfl))
    | setup | before i | after i | teardown => rfl
  · have henters : e.enters a.fixture r = true := by simp [PeEnvironment.enters, hroutine, hm.install r]
    obtain ⟨hcode, hrel⟩ := hx.body hdisp hm hk r (r.slots s.tls) tlsValue
    rw [PeEnvironment.runRoutine_of_enters hv henters, hpresent.mp hroutine, if_pos rfl]
    exact ⟨hcode.symm, hrel, rfl, rfl⟩

/-- A call of a routine, by the runners of both modules. -/
theorem sync_routine {c c' : Call} {r : RoutineId} {s : Run (PeState κ)} {s' : Run (KernelState κ')}
    (hs : SameState R s.env s'.env) (hc : c.isCallback = false) (hc' : c'.isCallback = false)
    (hdispatch : e.dispatch s.env c = e.runRoutine a.fixture s.env r)
    (hdispatch' : d.dispatch s'.env c' = d.runRoutine a'.fixture s'.env r)
    (hroutine : let y := e.runRoutine a.fixture s.env r
      let y' := d.runRoutine a'.fixture s'.env r
      y.1 = y'.1 ∧ R y.2.user y'.2.user ∧ y.2.table = s.env.table ∧ y'.2.table = s'.env.table) :
    Sync (fun _ s s' => SameState R s.env s'.env) ((e.hostFor x).invoke c s) ((d.hostFor x').invoke c' s') := by
  have hindex (t : TableEnv) : (t.next c).index = t.index := by cases c <;> first | rfl | cases hc
  have hindex' (t : TableEnv) : (t.next c').index = t.index := by cases c' <;> first | rfl | cases hc'
  obtain ⟨hcode, hrel, -, -⟩ := hroutine
  unfold Sync SameState Host.invoke PeEnvironment.hostFor KernelEnvironment.hostFor
  simp only [hc, hc', Bool.false_eq_true, if_false, hdispatch, hdispatch', hindex, hindex']
  exact ⟨hcode, hrel, hs.2⟩

/-- **The same fixture in both worlds**: the action returns the same code, and the contexts are related at the
    end. -/
theorem sameRun (hx : SameContext x x' a a' thread disp disp' P R Q) (hdisp : disp' ≠ .break_)
    (hm : SameModules code ⟨x.reportEvent, debug⟩ x' session conn e d disp disp') (hsame : SameFixture a a')
    (hflags : a.flags = a'.flags) (hthread : thread = ⟨e.currentThreadId, e.currentThreadId⟩)
    {s : Run (PeState κ)} {s' : Run (KernelState κ')} (hs : SameState P s.env s'.env) :
    Sync (fun _ s s' => SameState Q s.env s'.env) (runFixtureExecutionAction (e.hostFor x) a s)
      (runFixtureExecutionAction (d.hostFor x') a' s') := by
  have hthread' : (d.hostFor x').threadId = thread := by
    rw [hthread, hm.thread]
    rfl
  have hthread'' : (e.hostFor x).threadId = thread := hthread.symm
  cases hv : e.isValidContext with
  | false =>
      have hv' : d.isValidContext = false := hm.valid ▸ hv
      simp only [runFixtureExecutionAction, PeEnvironment.hostFor, KernelEnvironment.hostFor, hv, hv', Bool.not_false,
        if_true]
      exact ⟨rfl, hx.reject hs.1, hs.2⟩
  | true  =>
      have hroutine {s : PeState κ} {s' : KernelState κ'} (r : RoutineId)
          (hr : ∀ i, r = .test i → i < a.fixture.testCases.length) (hs : R s.user s'.user) :=
        hx.runRoutine hdisp hm hsame hv hr hs
      refine Simulation.run (P := fun s s' => SameState P s.env s'.env) (R := fun s s' => SameState R s.env s'.env)
        ?_ hs
      constructor
      case valid => exact hm.valid
      case flags => exact hflags
      case index => exact hsame.index
      case length => exact hsame.length
      case reject => exact fun hs => ⟨hx.reject hs.1, hs.2⟩
      case abandon => exact fun hs => ⟨hx.abandon hs.1, hs.2⟩
      case start =>
        intro s s' hs
        obtain ⟨hcode, hrel⟩ := hx.start hs.1
        rw [hthread', hthread'']
        refine ⟨hcode, ?_⟩
        cases hf : failed (x.callback (.beforeFixtureStart thread a.fixture) s.env.user).1 with
        | true  =>
            rw [hf, if_pos rfl] at hrel
            exact (if_pos hf).mpr ⟨hrel, hs.2⟩
        | false =>
            rw [hf, if_neg Bool.false_ne_true] at hrel
            exact (if_neg (by rw [Bool.not_eq_true]; exact hf)).mpr ⟨hrel, hs.2⟩
      case announce =>
        intro s s' i hs
        obtain ⟨hcode, hrel⟩ := hx.announce i hs.1
        rw [hthread', hthread'']
        exact ⟨hcode, hrel, rfl⟩
      case finish =>
        intro s s' i ran hs
        rw [hthread', hthread'']
        exact ⟨hx.finish i ran hs.1, hs.2⟩
      case close =>
        intro s s' ran hs
        rw [hthread', hthread'']
        exact ⟨hx.close ran hs.1, hs.2⟩
      case setup =>
        intro s s' f f' hs
        exact sync_routine hs rfl rfl rfl rfl (hroutine .setup (fun i hi => by cases hi) hs.1)
      case before =>
        intro s s' f f' hs
        refine sync_routine hs rfl rfl rfl ?_ (hroutine (.before s.env.table.index) (fun i hi => by cases hi) hs.1)
        rw [hs.2]
        rfl
      case test =>
        intro s s' i f f' hi hs
        refine sync_routine hs rfl rfl rfl rfl (hroutine (.test i) ?_ hs.1)
        rintro j ⟨⟩
        exact hi
      case after =>
        intro s s' f f' hs
        refine sync_routine hs rfl rfl rfl ?_ (hroutine (.after s.env.table.index) (fun i hi => by cases hi) hs.1)
        rw [hs.2]
        rfl
      case teardown =>
        intro s s' f f' hs
        exact sync_routine hs rfl rfl rfl rfl (hroutine .teardown (fun i hi => by cases hi) hs.1)

end SameRun

end Cfix
