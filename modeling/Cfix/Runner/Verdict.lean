import Cfix.Runner.MainWorker
import Cfix.Runner.TestRun

/-!
# `Runner.Verdict` — what the statistics and the exit code say

`Sound` is what they should say. Nothing increments the counters of `EXEC_THREAD_STATE`, so every test case
counts as succeeded; `sound_iff` says for which runs this is right.
-/

namespace Cfix.Runner

open Transition

/-! ## The verdict of a test case -/

inductive TestClass where
  | succeeded
  | failed
  | inconclusive
  deriving DecidableEq, Repr

/-- The event makes its test case a failed one. -/
def isFailure : EventType → Bool
  | .failedAssertion   => true
  | .uncaughtException => true
  | _                  => false

/-- The class that a test case belongs to, by the events that were reported for it. -/
def classOf (events : List EventType) : TestClass :=
  if events.any isFailure then .failed
  else if events.contains .inconclusiveness then .inconclusive
  else .succeeded

/-- Counting a test case in one class. -/
def Statistics.countAs (n : Statistics) : TestClass → Statistics
  | .succeeded    =>
    { n with testCases := n.testCases + 1#32, succeededTestCases := n.succeededTestCases + 1#32 }
  | .failed       => { n with testCases := n.testCases + 1#32, failedTestCases := n.failedTestCases + 1#32 }
  | .inconclusive =>
    { n with testCases := n.testCases + 1#32, inconclusiveTestCases := n.inconclusiveTestCases + 1#32 }

theorem add_one_ne (x : BitVec 32) : x + 1#32 ≠ x := by
  intro h
  have h1 : 1#32 = 0#32 := by
    have hcancel : x + 1#32 = x + 0#32 := by rw [h, BitVec.add_zero]
    exact (BitVec.add_right_inj x).mp hcancel
  revert h1
  decide

/-- The classes are told apart by their counters. -/
theorem countAs_inj {n : Statistics} {c d : TestClass} (h : n.countAs c = n.countAs d) : c = d := by
  cases c <;> cases d <;>
    simp only [Statistics.countAs, Statistics.mk.injEq, true_and, and_true, reduceCtorEq] at h ⊢ <;>
    first
      | exact add_one_ne _ h.1
      | exact add_one_ne _ h.1.symm

/-- Only a test case for which nothing but logs was reported has succeeded. -/
theorem classOf_eq_succeeded {events : List EventType} :
    classOf events = .succeeded ↔ ∀ e ∈ events, e = .log := by
  unfold classOf
  constructor
  · intro h e he
    split at h
    · cases h
    · rename_i hfail
      split at h
      · cases h
      · rename_i hinc
        cases e with
        | log => rfl
        | failedAssertion => exact absurd (List.any_eq_true.mpr ⟨_, he, rfl⟩) hfail
        | uncaughtException => exact absurd (List.any_eq_true.mpr ⟨_, he, rfl⟩) hfail
        | inconclusiveness => exact absurd (List.contains_iff_mem.mpr he) hinc
  · intro h
    have hfail : events.any isFailure = false := by
      rw [List.any_eq_false]
      intro e he
      rw [h e he]
      exact Bool.false_ne_true
    have hinc : events.contains .inconclusiveness = false := by
      rw [Bool.eq_false_iff]
      intro hc
      have := h _ (List.contains_iff_mem.mp hc)
      cases this
    rw [hfail, hinc]
    rfl

/-! ## The property and the condition -/

section Run

variable (m : ThreadId) (o : Options)

/-- When `AfterTestCaseFinish` returns, the test case has been counted in its class and in no other. -/
def CountedRight (r : TestRun) (a : Callback) : Prop :=
  a = .afterTestCaseFinish → ∀ r', next m o r a = some r' →
    r'.context.statistics = r.context.statistics.countAs (classOf r.reported)

/-- No failure event was reported in the run. -/
def NoFailures (calls : List Callback) : Prop := ∀ t event, .reportEvent t event ∈ calls → isFailure event = false

/-- **Soundness** of the statistics and of the exit code of `CfixrunsMainWorker`. -/
structure Sound (calls : List Callback) (r : TestRun) (i : Invocation) : Prop where
  counted : Meets (next m o) (CountedRight m o) .created calls
  sum     : r.context.statistics.testCases
    = r.context.statistics.succeededTestCases + r.context.statistics.failedTestCases
      + r.context.statistics.inconclusiveTestCases
  exit    : (mainWorker i r.context.statistics exitFailure).2 = exitAllSucceeded →
    NoFailures calls ∧ succeeded i.runHr = true

/-- A test case that finishes has only logged. -/
def OnlyLogs (r : TestRun) (a : Callback) : Prop := a = .afterTestCaseFinish → ∀ e ∈ r.reported, e = .log

/-- Nothing has to be told apart: the test cases have only logged, and if any was counted (and the counter
    has not come back to 0), nothing failed outside of them either. -/
structure Uneventful (calls : List Callback) (i : Invocation) : Prop where
  tests : Meets (next m o) OnlyLogs .created calls
  rest  : i.runsAction = true → calls.count .afterTestCaseFinish % 2 ^ 32 ≠ 0 →
    NoFailures calls ∧ succeeded i.runHr = true

end Run

/-! ## Runs -/

variable {m : ThreadId} {o : Options} {r r' : TestRun}

theorem countedRight_iff {a : Callback} (h : Inv m r) (hnext : next m o r a = some r') :
    CountedRight m o r a ↔ OnlyLogs r a := by
  unfold CountedRight OnlyLogs
  by_cases ha : a = .afterTestCaseFinish
  · subst ha
    have hstat : r'.context.statistics = r.context.statistics.countAs .succeeded := (h.step hnext).2
    rw [← classOf_eq_succeeded]
    constructor
    · intro hcount _
      have heq := hcount rfl r' hnext
      rw [hstat] at heq
      exact (countAs_inj heq).symm
    · intro hclass _ r'' hnext'
      rw [hnext] at hnext'
      cases hnext'
      rw [hstat, hclass rfl]
  · exact ⟨fun _ h' => absurd h' ha, fun _ h' => absurd h' ha⟩

/-- What a run adds to the statistics. -/
theorem statistics_run {calls : List Callback} (h : Inv m r) (hr : run (next m o) r calls = some r') :
    r'.context.statistics.testCases
      = r.context.statistics.testCases + BitVec.ofNat 32 (calls.count .afterTestCaseFinish) ∧
    r'.context.statistics.succeededTestCases
      = r.context.statistics.succeededTestCases + BitVec.ofNat 32 (calls.count .afterTestCaseFinish) ∧
    r'.context.statistics.failedTestCases = r.context.statistics.failedTestCases ∧
    r'.context.statistics.inconclusiveTestCases = r.context.statistics.inconclusiveTestCases := by
  induction calls generalizing r with
  | nil =>
      cases hr
      simp
  | cons a calls ih =>
      obtain ⟨r₁, hnext, hrest⟩ := run_cons.mp hr
      obtain ⟨hinv, hstat⟩ := h.step hnext
      obtain ⟨htest, hsucc, hfail, hinc⟩ := ih hinv hrest
      rw [htest, hsucc, hfail, hinc, hstat]
      by_cases ha : a = .afterTestCaseFinish
      · subst ha
        rw [List.count_cons_self, BitVec.ofNat_add, BitVec.add_comm (BitVec.ofNat 32 _)]
        refine ⟨?_, ?_, rfl, rfl⟩
        · exact BitVec.add_assoc ..
        · exact BitVec.add_assoc ..
      · rw [List.count_cons_of_ne ha]
        cases a <;> first | exact ⟨rfl, rfl, rfl, rfl⟩ | exact absurd rfl ha

/-- **Soundness of the verdict**: for every run and every invocation of the worker, statistics and exit code
    are sound iff the run is uneventful. -/
theorem sound_iff (i : Invocation) {calls : List Callback} (hr : run (next m o) .created calls = some r) :
    Sound m o calls r i ↔ Uneventful m o calls i := by
  have hcounted : Meets (next m o) (CountedRight m o) .created calls ↔ Meets (next m o) OnlyLogs .created calls :=
    meets_congr (I := Inv m) (fun _ _ _ h hnext => countedRight_iff h hnext) (fun _ _ _ h _ hnext => (h.step hnext).1)
      inv_created hr
  obtain ⟨htest, hsucc, hfail, hinc⟩ := statistics_run inv_created hr
  have htest' : r.context.statistics.testCases = BitVec.ofNat 32 (calls.count .afterTestCaseFinish) := by
    rw [htest]
    exact BitVec.zero_add _
  have hsucc' : r.context.statistics.succeededTestCases = BitVec.ofNat 32 (calls.count .afterTestCaseFinish) := by
    rw [hsucc]
    exact BitVec.zero_add _
  have hfail' : r.context.statistics.failedTestCases = 0#32 := hfail
  have hinc' : r.context.statistics.inconclusiveTestCases = 0#32 := hinc
  have hnone : r.context.statistics.testCases ≠ 0#32 ↔ calls.count .afterTestCaseFinish % 2 ^ 32 ≠ 0 := by
    rw [htest', ne_eq, ne_eq, ← BitVec.toNat_inj, BitVec.toNat_ofNat, BitVec.toNat_ofNat, Nat.zero_mod]
  constructor
  · intro h
    refine ⟨hcounted.mp h.counted, fun hruns hcount => h.exit ?_⟩
    exact (mainWorker_eq_exitAllSucceeded i _).mpr ⟨hruns, hnone.mpr hcount, hfail'⟩
  · intro h
    refine ⟨hcounted.mpr h.tests, ?_, fun hexit => ?_⟩
    · rw [htest', hsucc', hfail', hinc', BitVec.add_zero, BitVec.add_zero]
    · obtain ⟨hruns, hcount, -⟩ := (mainWorker_eq_exitAllSucceeded i _).mp hexit
      exact h.rest hruns (hnone.mp hcount)

/-! ## Two runs -/

/-- A worker that runs an action, which succeeds. -/
def ordinary : Invocation where
  hasInputFile := true
  assembleHr   := sOk
  fixtureCount := 1#32
  createHr     := sOk
  runHr        := sOk

def noOptions : Options where
  abortOnFirstFailure           := false
  alwaysBreakOnFailure          := false
  doNotCatchUnhandledExceptions := false

/-- A fixture with one test case that creates a child thread; both threads log. -/
def logging : List Callback :=
  [.beforeFixtureStart true, .beforeTestCaseStart, .startChildThread 0 1, .reportEvent 0 .log,
    .reportEvent 1 .log, .finishChildThread 1, .afterTestCaseFinish, .afterFixtureFinish]

theorem sound_logging : ∃ r, run (next 0 noOptions) .created logging = some r ∧
    Sound 0 noOptions logging r ordinary := by
  have hr : run (next 0 noOptions) .created logging = some _ := rfl
  refine ⟨_, hr, (sound_iff ordinary hr).mpr ⟨?_, ?_⟩⟩
  · refine .cons rfl (by simp [OnlyLogs]) (.cons rfl (by simp [OnlyLogs]) (.cons rfl (by simp [OnlyLogs]) ?_))
    refine .cons rfl (by simp [OnlyLogs]) (.cons rfl (by simp [OnlyLogs]) (.cons rfl (by simp [OnlyLogs]) ?_))
    refine .cons rfl (fun _ => ?_) (.cons rfl (by simp [OnlyLogs]) trivial)
    show ∀ e ∈ [EventType.log, EventType.log], e = .log
    decide
  · intro _ _
    refine ⟨fun t event hmem => ?_, rfl⟩
    simp only [logging, List.mem_cons, Callback.reportEvent.injEq, List.not_mem_nil, reduceCtorEq, or_false,
      false_or] at hmem
    rcases hmem with ⟨-, rfl⟩ | ⟨-, rfl⟩ <;> rfl

/-- A fixture with one test case that fails. -/
def failing : List Callback :=
  [.beforeFixtureStart true, .beforeTestCaseStart, .reportEvent 0 .failedAssertion, .afterTestCaseFinish,
    .afterFixtureFinish]

/-- The worker says that all tests succeeded. -/
theorem failing_allSucceeded : ∃ r, run (next 0 noOptions) .created failing = some r ∧
    (mainWorker ordinary r.context.statistics exitFailure).2 = exitAllSucceeded ∧
    ¬ Sound 0 noOptions failing r ordinary := by
  refine ⟨_, rfl, rfl, fun h => ?_⟩
  have hnone := (h.exit rfl).1 0 .failedAssertion (by decide)
  cases hnone

end Cfix.Runner
