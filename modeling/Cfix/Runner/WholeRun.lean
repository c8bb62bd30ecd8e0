import Cfix.Runner.Plan
import Cfix.Runner.ServedHosts
import Cfix.Runner.Verdict

/-!
# `Runner.WholeRun` — from the command line to the exit code (`cfixrun/main.c`)

`CfixrunMain` assembles the sequence of actions, runs it with the context of the runner, and reads the exit code off
the statistics. All callbacks of the run are in the order of `Runner.TestRun` (`main_callbackOrder`), and the exit code
is a function of how many test cases have finished (`cfixrun_exitCode`).
-/

namespace Cfix.Runner

open Transition
open Cfix.Events (Width)
open Cfix.Plan (TestModule PlannedAction Chosen Selects IsExecution IsDisplay PicksOnce Possible available
  assembleExecutionAction assembleDisplayAction)

/-! ## The main routine -/

/-- The options that the execution context reads. -/
def runnerOptions (o : CommandLine.Options) : Options where
  abortOnFirstFailure           := o.switch .abortOnFirstFailure
  alwaysBreakOnFailure          := o.switch .alwaysBreakOnFailure
  doNotCatchUnhandledExceptions := o.switch .doNotCatchUnhandledExceptions

/-- What `CfixrunMain` depends on. -/
structure MainSetting (σ : Type) where
  plan        : Plan.Setting
  /-- The modules and the context, which the actions are run with. -/
  hosts       : TestModule → Host σ
  /-- `CfixrunpGetStatisticsExecutionContext`. -/
  statistics  : σ → Statistics
  /-- The results of `CdiagCreateMessageResolver` and of `CfixrunsCreateExecutionContextAndEventSink`. -/
  resolverHr  : HRESULT
  createHr    : HRESULT
  /-- The sequence action can allocate its array. -/
  arrayMemory : Bool

variable {σ : Type}

namespace MainSetting

variable (s : MainSetting σ)

/-- `Options->InputFile` is neither `NULL` nor empty. -/
def hasInputFile : Bool := s.plan.options.inputFile.any fun file => file.length ≠ 0

/-- The composite action, and the number of its fixtures. -/
def assemble : Except Cfixutil.Fault Plan.Assembled :=
  if s.plan.options.switch .displayOnly then assembleDisplayAction s.plan else assembleExecutionAction s.plan

/-- `Action->Run`. -/
def runAction (actions : List PlannedAction) : Run σ → HRESULT × Run σ :=
  Cfix.runSequenceAction true s.arrayMemory (actions.map (PlannedAction.run s.hosts))

/-- `CfixrunsMainWorker`: its result, `*ExitCode`, which was `exitCode` before, and the run. -/
def mainWorker (exitCode : DWORD) (x : Run σ) : Except Cfixutil.Fault (HRESULT × DWORD × Run σ) :=
  if !s.hasInputFile then .ok (eFileNotFound, exitUsageFailure, x)
  else s.assemble.map fun r =>
    if failed r.hr then (r.hr, exitFailure, x)
    else if r.fixtureCount = 0#32 then (r.hr, exitNoneExecuted, x)
    else if succeeded s.createHr then
      let (hr, y) := s.runAction (r.action.getD []) x
      (hr, (s.statistics y.env).exitCode, y)
    else (s.createHr, exitCode, x)

/-- `CfixrunMain`. The results of `RegisterMessageDll` are not looked at. -/
def main (x : Run σ) : Except Cfixutil.Fault (DWORD × Run σ) :=
  if failed s.resolverHr then .ok (exitFailure, x)
  else (s.mainWorker exitFailure x).map fun (_, exitCode, y) => (exitCode, y)

end MainSetting

/-! ## What the main routine does -/

section

variable {s : MainSetting σ} {x y : Run σ} {code : DWORD}

/-- The action of a chosen fixture. -/
def MainSetting.IsAction (s : MainSetting σ) (c : Chosen) (p : PlannedAction) : Prop :=
  if s.plan.options.switch .displayOnly then IsDisplay c p else IsExecution s.plan.options c p

/-- The sequence that is assembled. -/
theorem MainSetting.assemble_ok {r : Plan.Assembled} (h : s.assemble = .ok r) (hr : failed r.hr = false) :
    ∃ cs actions, r.action = some actions ∧ Selects s.plan (available s.plan) cs ∧
      List.Forall₂ s.IsAction cs actions ∧ r.fixtureCount = BitVec.ofNat 32 cs.length := by
  unfold MainSetting.assemble at h
  unfold MainSetting.IsAction
  split at h
  · rename_i hdisplay
    obtain ⟨cs, actions, haction, hselects, hactions, hcount⟩ := Plan.assembleAction_ok Plan.creates_display h hr
    refine ⟨cs, actions, haction, hselects, ?_, by rw [hcount, hactions.length_eq]⟩
    exact hactions.imp fun c p hp => by rwa [if_pos hdisplay]
  · rename_i hdisplay
    obtain ⟨cs, actions, haction, hselects, hactions, hcount⟩ :=
      Plan.assembleAction_ok (Plan.creates_execution s.plan.options) h hr
    refine ⟨cs, actions, haction, hselects, ?_, by rw [hcount, hactions.length_eq]⟩
    exact hactions.imp fun c p hp => by rwa [if_neg hdisplay]

/-- The action is run, and the exit code read off the statistics. -/
def MainSetting.Ran (s : MainSetting σ) (x : Run σ) (code : DWORD) (y : Run σ) : Prop :=
  ∃ cs actions, Selects s.plan (available s.plan) cs ∧ List.Forall₂ s.IsAction cs actions ∧
    y = (s.runAction actions x).2 ∧ code = (s.statistics y.env).exitCode

/-- **The outcomes of the main routine**: it ends before the run with a code that says so, or after it. -/
theorem MainSetting.main_cases (h : s.main x = .ok (code, y)) :
    (y = x ∧ (code = exitUsageFailure ∨ code = exitFailure ∨ code = exitNoneExecuted)) ∨ s.Ran x code y := by
  unfold MainSetting.main at h
  split at h
  · -- the message resolver cannot be created
    cases h
    exact .inl ⟨rfl, .inr (.inl rfl)⟩
  · unfold MainSetting.mainWorker at h
    split at h
    · -- no module or directory is given
      cases h
      exact .inl ⟨rfl, .inl rfl⟩
    · cases hassemble : s.assemble with
      | error fault => rw [hassemble] at h; cases h
      | ok r        =>
          rw [hassemble] at h
          simp only [Except.map, Except.ok.injEq] at h
          split at h
          · -- the search for modules fails
            cases h
            exact .inl ⟨rfl, .inr (.inl rfl)⟩
          · rename_i hr
            split at h
            · -- no fixture matches
              cases h
              exact .inl ⟨rfl, .inr (.inr rfl)⟩
            · split at h
              · obtain ⟨cs, actions, haction, hselects, hactions, -⟩ :=
                  s.assemble_ok hassemble (Bool.not_eq_true _ ▸ hr)
                rw [haction] at h
                cases h
                exact .inr ⟨cs, actions, hselects, hactions, rfl, rfl⟩
              · -- the context cannot be created: the exit code stays what `CfixrunMain` has initialised it to
                cases h
                exact .inl ⟨rfl, .inr (.inl rfl)⟩

/-- What is run or displayed is run on the hosts of the modules, or leaves the run as it is. -/
theorem MainSetting.forall_run {P : (Run σ → HRESULT × Run σ) → Prop}
    (hexecution : ∀ m a, P (runFixtureExecutionAction (s.hosts m) a)) (hdisplay : P fun x => (sOk, x))
    (actions : List PlannedAction) : ∀ f ∈ actions.map (PlannedAction.run s.hosts), P f := by
  intro f hf
  obtain ⟨p, -, rfl⟩ := List.mem_map.mp hf
  cases p with
  | execution m a => exact hexecution m a
  | display m f   => exact hdisplay

end

/-! ## The order of the callbacks -/

section

variable {m : ThreadId} {o : Options} {R : σ → TestRun → Prop} {s : MainSetting σ} {x y : Run σ} {code : DWORD}

theorem MainSetting.mirrors_main (hserves : ∀ module, Serves m o (s.hosts module) R) (hx : At R .idle x.env .created)
    (h : s.main x = .ok (code, y)) : Mirrors m o R .created x .idle y := by
  have hstart : Mirrors m o R .created x .idle x := mirrors_refl inv_created hx
  rcases s.main_cases h with ⟨rfl, -⟩ | ⟨cs, actions, -, -, rfl, -⟩
  · exact hstart
  · refine Cfix.runSequenceAction_preserves (s.forall_run (fun module a z hz => ?_) (fun z hz => hz) actions) _ _ hstart
    exact (hserves module).action a hz

/-- The calls that the fixture actions make on the context, and those of the routines, are a run of the system from its
    start; at the end no fixture is run, and all child threads have been joined. -/
def KeepsOrder (m : ThreadId) (o : Options) (R : σ → TestRun → Prop) (y : Run σ) : Prop :=
  ∃ callbacks r, run (next m o) .created callbacks = some r ∧ R y.env r ∧ r.phase = .idle ∧ r.children = [] ∧
    marks y.labels = callbacks.filterMap Callback.mark

theorem MainSetting.main_keepsOrder (hserves : ∀ module, Serves m o (s.hosts module) R)
    (hx : At R .idle x.env .created) (hlabels : x.labels = []) (h : s.main x = .ok (code, y)) : KeepsOrder m o R y := by
  obtain ⟨callbacks, r, hr, -, hat, hmarks⟩ := s.mirrors_main hserves hx h
  refine ⟨callbacks, r, hr, hat.related, hat.phase, hat.joined, ?_⟩
  rw [hmarks, hlabels]
  rfl

end

/-! ## The test cases that finish -/

def finishedTestCase (l : Labelled) : Option TestCaseRef :=
  match l.1 with
  | .afterTestCaseFinish testCase => some testCase
  | _                             => none

/-- The test cases for which `AfterTestCaseFinish` is called. -/
def finishedTestCases (calls : List Labelled) : List TestCaseRef := calls.filterMap finishedTestCase

/-- The calls that do not keep a test case from finishing: routines of test cases may fail in their way, and so may a
    teardown routine, if the flags do not short-circuit this; all other calls succeed. -/
def Tolerated (flags : BitVec 32) (l : Labelled) : Prop :=
  match l.1 with
  | .before | .test _ | .after =>
    failed l.2 = true → isRoutineFailure l.2 = true ∧ flagOn flags fixtureExecutionShortcircuitFixtureOnFailure = false
  | .teardown                  => failed l.2 = true → flagOn flags fixtureExecutionEscalateFixtureFailues = false
  | _                          => failed l.2 = false

/-- The result of a test case whose routines are tolerated. -/
theorem testCaseResult_of_tolerated {flags : BitVec 32} {o : Outcomes} {f : Fixture} {i : Nat}
    (h : ∀ l ∈ o.testCaseLabels f i, Tolerated flags l) :
    failed (o.testCaseResult i) = true → isRoutineFailure (o.testCaseResult i) = true ∧
      flagOn flags fixtureExecutionShortcircuitFixtureOnFailure = false := by
  unfold Outcomes.testCaseLabels at h
  obtain ⟨hbefore, hrest⟩ := List.forall_mem_cons.mp h
  unfold Outcomes.testCaseResult
  cases hb : failed (o.before i) with
  | true  => exact fun _ => hbefore hb
  | false =>
      simp only [hb, Bool.false_eq_true, if_false, List.forall_mem_cons] at hrest ⊢
      obtain ⟨htest, hafter, -⟩ := hrest
      cases ht : failed (o.test i) with
      | true  => exact fun _ => htest ht
      | false =>
          cases ha : failed (o.after i) with
          | true  => exact fun _ => hafter ha
          | false => intro hf; simp [ht] at hf

/-- A test case finishes however its routines do. -/
theorem picksOnce_finished (flags : BitVec 32) : PicksOnce flags (Tolerated flags) finishedTestCase where
  outside _ _ := ⟨rfl, rfl, rfl, rfl⟩
  turn o a i  := by
    unfold Outcomes.turn Outcomes.testCaseLabels finishedTestCase
    cases failed (o.beforeTestCaseStart i) <;> cases failed (o.before i) <;> cases fatal (o.testCaseResult i) <;>
      simp
  opens h     := h
  setup h     := h
  teardown {hr} h := by
    cases hf : failed hr with
    | true  => exact h hf
    | false => rfl
  goesOn {o a i} ha hall := by
    unfold Outcomes.turn at hall ⊢
    simp only [List.forall_mem_cons] at hall
    obtain ⟨hstart, hall⟩ := hall
    have hstart' : failed (o.beforeTestCaseStart i) = false := hstart
    simp only [hstart', Bool.false_eq_true, if_false] at hall ⊢
    -- a tolerated result is never fatal, so that the test case finishes and the next one starts
    have hresult := testCaseResult_of_tolerated (List.forall_mem_append.mp hall).1
    have hfatal : fatal (o.testCaseResult i) = false := by
      cases hf : failed (o.testCaseResult i) with
      | true  => exact fatal_eq_false_of_isRoutineFailure (hresult hf).1
      | false => simp [fatal, hf]
    constructor
    · simp only [hfatal, Bool.false_eq_true, if_false, Outcomes.testCaseLabels]
      cases failed (o.before i) <;> rfl
    · rw [o.stopsAt_of_started a hstart', ha]
      cases hf : failed (o.testCaseResult i) with
      | true  => rw [(hresult hf).1, (hresult hf).2]; rfl
      | false => rfl

/-- Their number is that of the marks. -/
theorem count_marks (calls : List Labelled) :
    (marks calls).count .testCaseFinish = (finishedTestCases calls).length := by
  unfold marks finishedTestCases
  rw [List.count_filterMap, List.length_filterMap_eq_countP]
  refine List.countP_congr fun l _ => ?_
  obtain ⟨label, hr⟩ := l
  cases label <;> simp [markOf, finishedTestCase]

theorem count_callbackMarks (callbacks : List Callback) :
    (callbacks.filterMap Callback.mark).count .testCaseFinish = callbacks.count .afterTestCaseFinish := by
  rw [List.count_filterMap, List.count]
  refine List.countP_congr fun a _ => ?_
  cases a <;> simp [Callback.mark]

/-! ## The exit code -/

section

variable {m : ThreadId} {o : Options} {R : σ → TestRun → Prop} {s : MainSetting σ} {x y : Run σ} {code : DWORD}

/-- The statistics of a run in which as many test cases have finished. -/
def Statistics.AllCountedAsSucceeded (n : Statistics) (finished : Nat) : Prop :=
  n.testCases = BitVec.ofNat 32 finished ∧ n.succeededTestCases = BitVec.ofNat 32 finished ∧
    n.failedTestCases = 0#32 ∧ n.inconclusiveTestCases = 0#32

theorem Statistics.AllCountedAsSucceeded.exitCode {n : Statistics} {finished : Nat}
    (h : n.AllCountedAsSucceeded finished) :
    n.exitCode = if finished % 2 ^ 32 = 0 then exitNoneExecuted else exitAllSucceeded := by
  obtain ⟨htests, -, hfailed, -⟩ := h
  have hzero : n.testCases = 0#32 ↔ finished % 2 ^ 32 = 0 := by
    rw [htests, ← BitVec.toNat_inj, BitVec.toNat_ofNat, BitVec.toNat_ofNat, Nat.zero_mod]
  unfold Statistics.exitCode
  by_cases hnone : n.testCases = 0#32
  · rw [if_pos hnone, if_pos (hzero.mp hnone)]
  · rw [if_neg hnone, if_pos hfailed, if_neg (mt hzero.mpr hnone)]

theorem Statistics.AllCountedAsSucceeded.exitCode_eq_allSucceeded_iff {n : Statistics} {finished : Nat}
    (h : n.AllCountedAsSucceeded finished) : n.exitCode = exitAllSucceeded ↔ finished % 2 ^ 32 ≠ 0 := by
  rw [h.exitCode]
  split
  · rename_i hzero
    exact ⟨fun heq => absurd heq (by decide), fun hne => absurd hzero hne⟩
  · rename_i hne
    exact ⟨fun _ => hne, fun _ => rfl⟩

theorem Statistics.AllCountedAsSucceeded.exitCode_ne_someFailed {n : Statistics} {finished : Nat}
    (h : n.AllCountedAsSucceeded finished) : n.exitCode ≠ exitSomeFailed := by
  rw [h.exitCode]
  split <;> decide

/-- What the statistics are in the end. -/
theorem statistics_of_mirrors (hlabels : x.labels = []) (h : Mirrors m o R .created x .idle y) :
    ∃ r, R y.env r ∧ r.context.statistics.AllCountedAsSucceeded (finishedTestCases y.labels).length := by
  obtain ⟨callbacks, r, hr, -, hat, hmarks⟩ := h
  have hcount : callbacks.count .afterTestCaseFinish = (finishedTestCases y.labels).length := by
    rw [← count_marks, hmarks, hlabels, ← count_callbackMarks]
    rfl
  obtain ⟨htests, hsucceeded, hfailed, hinconclusive⟩ := statistics_run inv_created hr
  rw [hcount] at htests hsucceeded
  exact ⟨r, hat.related, htests.trans (BitVec.zero_add _), hsucceeded.trans (BitVec.zero_add _), hfailed,
    hinconclusive⟩

/-- A display run calls nothing. -/
theorem run_displays {cs : List Chosen} {actions : List PlannedAction} (h : List.Forall₂ IsDisplay cs actions)
    (x : Run σ) : (s.runAction actions x).2 = x := by
  have hactions : ∀ f ∈ actions.map (PlannedAction.run s.hosts), ∀ z, z = x → (f z).2 = x := by
    induction h with
    | nil => exact fun _ hf => absurd hf List.not_mem_nil
    | @cons c p cs actions hp _ ih =>
        rw [List.map_cons, List.forall_mem_cons]
        obtain rfl : p = .display c.module c.fixture.toFixture := hp
        exact ⟨fun _ hz => hz, ih⟩
  exact Cfix.runSequenceAction_preserves hactions _ _ rfl

/-- Nothing is in the way of the run. -/
structure MainSetting.Unhindered (s : MainSetting σ) : Prop where
  possible  : Possible s.plan
  inputFile : s.hasInputFile = true
  executes  : s.plan.options.switch .displayOnly = false
  resolver  : failed s.resolverHr = false
  created   : failed s.createHr = false
  array     : s.arrayMemory = true
  valid     : ∀ m, (s.hosts m).isValidContext = true

/-- The test cases that finish in the run of a sequence are chosen ones, in their order; and all of them, where nothing
    stops it. -/
theorem MainSetting.finished_runAction {cs : List Chosen} {actions : List PlannedAction}
    (h : List.Forall₂ s.IsAction cs actions) (hlabels : x.labels = []) :
    (finishedTestCases (s.runAction actions x).2.labels).Sublist (cs.flatMap Chosen.testCases) ∧
      (s.Unhindered → (∀ l ∈ (s.runAction actions x).2.labels, Tolerated (Plan.executionFlags s.plan.options) l) →
        finishedTestCases (s.runAction actions x).2.labels = cs.flatMap Chosen.testCases) := by
  unfold MainSetting.IsAction at h
  cases hdisplay : s.plan.options.switch .displayOnly with
  | true  =>
      -- a display run calls no routine, and such a run is not unhindered
      simp only [hdisplay, if_true] at h
      rw [run_displays h, hlabels]
      refine ⟨List.nil_sublist _, fun hs => ?_⟩
      rw [hs.executes] at hdisplay
      cases hdisplay
  | false =>
      simp only [hdisplay, Bool.false_eq_true, if_false] at h
      unfold MainSetting.runAction
      cases hmemory : s.arrayMemory with
      | true  =>
          obtain ⟨calls, hcalls, hsub, hall⟩ : Plan.Covers (Tolerated _) finishedTestCase s.hosts cs x _ :=
            Plan.covers_runSequenceAction (picksOnce_finished _) h x
          rw [hlabels, List.nil_append] at hcalls
          rw [hcalls]
          exact ⟨hsub, fun hs htolerated => (hall hs.valid htolerated).2⟩
      | false =>
          rw [Cfix.runSequenceAction_noMemory, hlabels]
          refine ⟨List.nil_sublist _, fun hs => ?_⟩
          rw [hs.array] at hmemory
          cases hmemory

/-- Where nothing is in the way the action is run, unless there is nothing to run. -/
theorem MainSetting.Unhindered.ran (hs : s.Unhindered) (h : s.main x = .ok (code, y)) {cs : List Chosen}
    (hcs : Selects s.plan (available s.plan) cs) : s.Ran x code y ∨ cs.length % 2 ^ 32 = 0 := by
  obtain ⟨r, hr, hcode⟩ := Plan.assembleAction_possible (Plan.creates_execution s.plan.options) hs.possible
  have hassemble : s.assemble = .ok r := by
    unfold MainSetting.assemble
    rw [hs.executes]
    exact hr
  obtain ⟨cs', actions, haction, hselects, hactions, hcount⟩ :=
    s.assemble_ok hassemble (by rw [hcode]; exact failed_sOk)
  obtain rfl := hcs.unique hselects
  by_cases hzero : cs.length % 2 ^ 32 = 0
  · exact .inr hzero
  · have hne : r.fixtureCount ≠ 0#32 := by
      rw [hcount, ne_eq, ← BitVec.toNat_inj, BitVec.toNat_ofNat]
      exact hzero
    refine .inl ⟨cs, actions, hselects, hactions, ?_⟩
    unfold MainSetting.main MainSetting.mainWorker at h
    rw [hs.resolver, hs.inputFile, hassemble] at h
    simp only [Except.map, hcode, failed_sOk, hne, succeeded, hs.created, haction, Option.getD_some, Bool.not_true,
      Bool.not_false, Bool.false_eq_true, if_false, if_true] at h
    cases h
    exact ⟨rfl, rfl⟩

/-- The test cases that finish in a run are some of those that the options ask for. -/
theorem MainSetting.main_finished (hlabels : x.labels = []) (h : s.main x = .ok (code, y)) :
    ∃ cs, Selects s.plan (available s.plan) cs ∧
      (finishedTestCases y.labels).Sublist (cs.flatMap Chosen.testCases) ∧
      (s.Unhindered → cs.length < 2 ^ 32 → (∀ l ∈ y.labels, Tolerated (Plan.executionFlags s.plan.options) l) →
        finishedTestCases y.labels = cs.flatMap Chosen.testCases) := by
  obtain ⟨cs, hcs⟩ := Plan.exists_selects (s := s.plan) (available s.plan)
  have hran : s.Ran x code y → (finishedTestCases y.labels).Sublist (cs.flatMap Chosen.testCases) ∧
      (s.Unhindered → (∀ l ∈ y.labels, Tolerated (Plan.executionFlags s.plan.options) l) →
        finishedTestCases y.labels = cs.flatMap Chosen.testCases) := by
    rintro ⟨cs', actions, hselects, hactions, rfl, -⟩
    obtain rfl := hcs.unique hselects
    exact MainSetting.finished_runAction hactions hlabels
  have hsub : (finishedTestCases y.labels).Sublist (cs.flatMap Chosen.testCases) := by
    rcases s.main_cases h with ⟨rfl, -⟩ | hrun
    · rw [hlabels]
      exact List.nil_sublist _
    · exact (hran hrun).1
  refine ⟨cs, hcs, hsub, fun hs hlt htolerated => ?_⟩
  rcases hs.ran h hcs with hrun | hzero
  · exact (hran hrun).2 hs htolerated
  · -- the number of fixtures is zero as a number of 32 bits, and it is not cut off
    rw [Nat.mod_eq_of_lt hlt, List.length_eq_zero_iff] at hzero
    rw [hzero] at hsub ⊢
    exact List.sublist_nil.mp hsub

/-- The exit code says whether any test case has finished, if all that have are counted as succeeded. -/
theorem MainSetting.main_code (hlabels : x.labels = []) (h : s.main x = .ok (code, y))
    (hcounted : (s.statistics y.env).AllCountedAsSucceeded (finishedTestCases y.labels).length) :
    (code = exitAllSucceeded ↔ (finishedTestCases y.labels).length % 2 ^ 32 ≠ 0) ∧ code ≠ exitSomeFailed := by
  rcases s.main_cases h with ⟨rfl, hcode⟩ | ⟨-, -, -, -, -, rfl⟩
  · -- nothing has been run, and the code is that of an error or of an empty run
    rw [hlabels]
    rcases hcode with rfl | rfl | rfl <;> decide
  · exact ⟨hcounted.exitCode_eq_allSucceeded_iff, hcounted.exitCode_ne_someFailed⟩

/-- **The exit code of a run**, on hosts that the context serves. -/
theorem MainSetting.main_exitCode (hserves : ∀ module, Serves m o (s.hosts module) R)
    (hstatistics : ∀ {env r}, R env r → s.statistics env = r.context.statistics) (hx : At R .idle x.env .created)
    (hlabels : x.labels = []) (h : s.main x = .ok (code, y)) :
    ∃ cs, Selects s.plan (available s.plan) cs ∧
      (finishedTestCases y.labels).Sublist (cs.flatMap Chosen.testCases) ∧
      (∃ r, R y.env r ∧ r.context.statistics.AllCountedAsSucceeded (finishedTestCases y.labels).length) ∧
      (code = exitAllSucceeded ↔ (finishedTestCases y.labels).length % 2 ^ 32 ≠ 0) ∧ code ≠ exitSomeFailed ∧
      (s.Unhindered → cs.length < 2 ^ 32 → (∀ l ∈ y.labels, Tolerated (Plan.executionFlags s.plan.options) l) →
        finishedTestCases y.labels = cs.flatMap Chosen.testCases) := by
  obtain ⟨cs, hcs, hsub, hall⟩ := s.main_finished hlabels h
  obtain ⟨r, hrelated, hcounted⟩ := statistics_of_mirrors hlabels (s.mirrors_main hserves hx h)
  obtain ⟨hcode, hfailed⟩ := s.main_code hlabels h (by rw [hstatistics hrelated]; exact hcounted)
  exact ⟨cs, hcs, hsub, ⟨r, hrelated, hcounted⟩, hcode, hfailed, hall⟩

end

/-! ## The runner with its modules -/

/-- `cfixrun`, with DLLs and drivers as modules. -/
structure Cfixrun (w : Width) where
  plan        : Plan.Setting
  runner      : RunnerSetting (ModuleEvent w)
  options     : runner.options = runnerOptions plan.options
  type        : runner.type = ModuleEvent.type
  modules     : TestModule → ModuleCode runner
  resolverHr  : HRESULT
  createHr    : HRESULT
  arrayMemory : Bool

namespace Cfixrun

variable {w : Width} (c : Cfixrun w)

def setting : MainSetting (MixedState (Option (RunnerContext (ModuleEvent w)))) where
  plan         := c.plan
  hosts m      := (c.modules m).host
  statistics s := (s.user.getD .created).target.statistics
  resolverHr   := c.resolverHr
  createHr     := c.createHr
  arrayMemory  := c.arrayMemory

/-- The process has just been started. -/
def start : Run (MixedState (Option (RunnerContext (ModuleEvent w)))) where
  env   := ⟨⟨0, 0⟩, .zero, none, some .created⟩
  trace := []

/-- `CfixrunMain`. -/
def main : Except Cfixutil.Fault (DWORD × Run (MixedState (Option (RunnerContext (ModuleEvent w))))) :=
  c.setting.main start

theorem serves (m : TestModule) :
    Serves c.runner.thread.threadId c.runner.options (c.setting.hosts m) (InContext c.runner MixedState.user) :=
  (onlyReports_module (c.modules m)).serves

theorem at_start : At (InContext c.runner MixedState.user) .idle start.env .created where
  related := ⟨⟨.created, rfl, rfl, fun h => absurd rfl h⟩, inv_created⟩
  phase   := rfl
  joined  := rfl

end Cfixrun

section

variable {w : Width} {c : Cfixrun w} {code : DWORD} {y : Run (MixedState (Option (RunnerContext (ModuleEvent w))))}

/-- **The callbacks of a run are in order**, on hosts that the context serves, with any threads in their routines; and
    so they are in `cfixrun`, whose hosts are DLLs and drivers. -/
theorem main_callbackOrder :
    (∀ (σ : Type) (m : ThreadId) (o : Options) (R : σ → TestRun → Prop) (s : MainSetting σ) (x y : Run σ) (code : DWORD),
      (∀ module, Serves m o (s.hosts module) R) → At R .idle x.env .created → x.labels = [] →
        s.main x = .ok (code, y) → KeepsOrder m o R y) ∧
      ∀ (w : Width) (c : Cfixrun w) code y, c.main = .ok (code, y) →
        KeepsOrder c.runner.thread.threadId c.runner.options (InContext c.runner MixedState.user) y :=
  ⟨fun _ _ _ _ s _ _ _ hserves hx hlabels h => s.main_keepsOrder hserves hx hlabels h,
    fun _ c _ _ h => c.setting.main_keepsOrder c.serves c.at_start rfl h⟩

/-- **The exit code of `cfixrun`**, for any modules with any code. The test cases that finish are some of those that
    the options ask for, in their order, and the summary counts each of them as succeeded. The code is that all tests
    have succeeded iff any has finished, as far as a counter of 32 bits can tell; it never is that some have failed.
    Where nothing is in the way, and the routines of test cases only fail in their way and without being asked to
    short-circuit the fixture, all test cases finish. -/
theorem cfixrun_exitCode (h : c.main = .ok (code, y)) :
    ∃ cs, Selects c.plan (available c.plan) cs ∧
      (finishedTestCases y.labels).Sublist (cs.flatMap Chosen.testCases) ∧
      (∃ k, y.env.user = some k ∧
        k.target.statistics.AllCountedAsSucceeded (finishedTestCases y.labels).length) ∧
      (code = exitAllSucceeded ↔ (finishedTestCases y.labels).length % 2 ^ 32 ≠ 0) ∧ code ≠ exitSomeFailed ∧
      (c.setting.Unhindered → cs.length < 2 ^ 32 →
        (∀ l ∈ y.labels, Tolerated (Plan.executionFlags c.plan.options) l) →
        finishedTestCases y.labels = cs.flatMap Chosen.testCases) := by
  have hstatistics : ∀ {env r}, InContext c.runner MixedState.user env r →
      c.setting.statistics env = r.context.statistics := by
    rintro env r ⟨⟨x, hx, htarget, -⟩, -⟩
    simp only [Cfixrun.setting, hx, Option.getD_some, htarget]
  obtain ⟨cs, hcs, hsub, ⟨r, ⟨⟨k, hk, htarget, -⟩, -⟩, hcounted⟩, hcode, hfailed, hall⟩ :=
    c.setting.main_exitCode c.serves hstatistics c.at_start rfl h
  exact ⟨cs, hcs, hsub, ⟨k, hk, by rw [htarget]; exact hcounted⟩, hcode, hfailed, hall⟩

theorem contained_failingCode : Contained (failingCode .w64) := fun _ => trivial

/-- A DLL whose test cases fail. -/
def failingCfixrun : Cfixrun .w64 where
  plan        := Plan.sampleSetting
  runner      := plainSetting ModuleEvent.type
  options     := rfl
  type        := rfl
  modules _   := .dll
    { pe        := .allOk fun _ storage user => (.returned, storage, user)
      code _    := failingCode .w64
      debugger _ := false
      handled   := fun _ _ _ =>
        contained_failingCode.handled (RunnerSetting.uncaughtException_ne_break _ rfl rfl) _ }
  resolverHr  := sOk
  createHr    := sOk
  arrayMemory := true

/-- Its test case fails, and the runner says that all tests have succeeded. -/
theorem cfixrun_exitCode_failing :
    ∃ code y, failingCfixrun.main = .ok (code, y) ∧ eTestRoutineFailed ∈ y.labels.map Prod.snd ∧
      code = exitAllSucceeded := by
  have hrun : failingCfixrun.main = .ok (_, _) := rfl
  obtain ⟨cs, -, -, -, hcode, -⟩ := cfixrun_exitCode hrun
  exact ⟨_, _, hrun, by decide, hcode.mpr (by decide)⟩

/-- Its callbacks are in order. -/
theorem main_callbackOrder_failing :
    ∃ callbacks r, run (next 1 noOptions) .created callbacks = some r ∧ r.phase = .idle ∧
      callbacks.filterMap Callback.mark = [.fixtureStart, .testCaseStart, .testCaseFinish, .fixtureFinish] := by
  have hrun : failingCfixrun.main = .ok (_, _) := rfl
  obtain ⟨callbacks, r, hr, -, hphase, -, hmarks⟩ := main_callbackOrder.2 .w64 failingCfixrun _ _ hrun
  exact ⟨callbacks, r, hr, hphase, hmarks.symm.trans (by decide)⟩

end

end Cfix.Runner
