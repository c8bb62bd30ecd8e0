import Cfix.Fixture.Outline
import Cfix.Fixture.Sequence

/-!
# `Fixture.Logbook` — a run of several fixtures, as a list of what happens

A host that keeps a log of the routines that run, with their codes, and of the test cases and fixtures that
finish. The outcomes are the two that a routine has on its own account, success and failure; the closed form
of the log and of the returned code is proved with an outline of the fixture action.
-/

namespace Cfix

open TakeThrough

/-! ## The log -/

/-- A routine of the fixture at some position of the sequence, and the code it returned. -/
structure RoutineRun where
  fixture : Nat
  routine : RoutineId
  hr      : HRESULT
  deriving DecidableEq, Repr

/-- What happens in a run. -/
inductive Entry where
  | ran (run : RoutineRun)
  | testCaseFinished (fixture index : Nat) (ranToCompletion : Bool)
  | fixtureFinished (fixture : Nat) (ranToCompletion : Bool)
  deriving DecidableEq, Repr

/-- Where the run stands in the table of its codes, and the log. -/
structure Logbook where
  table : TableEnv
  log   : List Entry

/-- The entry of a call; `index` is the test case that was announced last. -/
def Call.entry (fixture index : Nat) (hr : HRESULT) : Call → List Entry
  | .setup _ _                  => [.ran ⟨fixture, .setup, hr⟩]
  | .before _ _                 => [.ran ⟨fixture, .before index, hr⟩]
  | .runTestCase tc _           => [.ran ⟨fixture, .test tc.index, hr⟩]
  | .after _ _                  => [.ran ⟨fixture, .after index, hr⟩]
  | .teardown _ _               => [.ran ⟨fixture, .teardown, hr⟩]
  | .afterTestCaseFinish _ tc r => [.testCaseFinished fixture tc.index r]
  | .afterFixtureFinish _ _ r   => [.fixtureFinished fixture r]
  | .beforeFixtureStart _ _ | .beforeTestCaseStart _ _ => []

/-- The run goes on after a call. -/
def Logbook.after (l : Logbook) (fixture : Nat) (hr : HRESULT) (c : Call) : Logbook where
  table := l.table.next c
  log   := l.log ++ c.entry fixture l.table.index hr

/-- The routine that has run. -/
def Entry.routine? : Entry → Option RoutineRun
  | .ran r                                       => some r
  | .testCaseFinished _ _ _ | .fixtureFinished _ _ => none

/-- The routines that have run. -/
def Logbook.routines (l : Logbook) : List RoutineRun := l.log.filterMap Entry.routine?

/-! ## Fixtures and their outcomes -/

/-- Callbacks that succeed and routines that succeed or fail, without an abort or another error. -/
structure PlainOutcomes extends Outcomes where
  valid    : isValidContext = true
  opened   : failed beforeFixtureStart = false
  accepted : ∀ i, failed (beforeTestCaseStart i) = false
  setup_or    : setup = sOk ∨ setup = eSetupRoutineFailed
  before_or   : ∀ i, before i = sOk ∨ before i = eBeforeRoutineFailed
  test_or     : ∀ i, test i = sOk ∨ test i = eTestRoutineFailed
  after_or    : ∀ i, after i = sOk ∨ after i = eAfterRoutineFailed
  teardown_or : teardown = sOk ∨ teardown = eTeardownRoutineFailed

/-- A fixture execution action with the outcomes of its calls. -/
structure PlannedFixture where
  action   : TsexecAction
  outcomes : PlainOutcomes

namespace PlannedFixture

variable (d : PlannedFixture) (k : Nat)

/-- The host of the fixture at position `k`: it answers from the table and keeps the log. -/
def host : Host Logbook where
  isValidContext      := d.outcomes.isValidContext
  isDebuggerPresent l := d.outcomes.isDebuggerPresent l.table.calls
  currentThreadId     := d.outcomes.currentThreadId
  call c l            :=
    let hr := d.outcomes.answer l.table.index c
    (hr, l.after k hr c)

/-- The action's `Run` method. -/
def run : Run Logbook → HRESULT × Run Logbook := runFixtureExecutionAction (d.host k) d.action

end PlannedFixture

/-- `Run` of a sequence action that contains the fixtures' actions. -/
def runPlannedFixtures (ds : List PlannedFixture) : HRESULT × Run Logbook :=
  runSequenceAction true true (ds.zipIdx.map (fun x => x.1.run x.2))
    { env := { table := ⟨0, 0⟩, log := [] }, trace := [] }

/-! ## The closed form of one fixture -/

namespace PlannedFixture

variable (d : PlannedFixture) (k : Nat)

/-- The test case fails. -/
def caseFails (i : Nat) : Bool := failed (d.outcomes.testCaseResult i)

/-- A failure ends the loop. -/
def cutShort : Bool :=
  flagOn d.action.flags fixtureExecutionShortcircuitFixtureOnFailure && d.action.selected.any d.caseFails

/-- The routines of one test case. -/
def caseRoutines (i : Nat) : List RoutineRun :=
  ⟨k, .before i, d.outcomes.before i⟩ ::
    if failed (d.outcomes.before i) then []
    else [⟨k, .test i, d.outcomes.test i⟩, ⟨k, .after i, d.outcomes.after i⟩]

def caseLog (i : Nat) : List Entry :=
  (d.caseRoutines k i).map .ran ++ [.testCaseFinished k i (!d.caseFails i)]

/-- The log up to the end of the fixture. -/
def body : List Entry :=
  .ran ⟨k, .setup, d.outcomes.setup⟩ ::
    if failed d.outcomes.setup then []
    else (d.outcomes.reached d.action).flatMap (d.caseLog k) ++ [.ran ⟨k, .teardown, d.outcomes.teardown⟩]

/-- The fixture's `RanToCompletion`. -/
def completes : Bool := !failed d.outcomes.setup && !failed d.outcomes.teardown && !d.cutShort

def fixtureLog : List Entry := d.body k ++ [.fixtureFinished k d.completes]

/-- The action returns a failure. -/
def fails : Bool :=
  if failed d.outcomes.setup then flagOn d.action.flags fixtureExecutionShortcircuitRunOnSetupFailure
  else (d.cutShort || failed d.outcomes.teardown) &&
    flagOn d.action.flags fixtureExecutionEscalateFixtureFailues

/-- What the action returns: a failure code, or `S_OK`. -/
def Returns (hr : HRESULT) : Prop := failed hr = d.fails ∧ (failed hr = false → hr = sOk)

end PlannedFixture

/-! ## Plain outcomes -/

/-- A test case succeeds or ends with the failure of a routine. -/
theorem PlainOutcomes.testCaseResult_or (o : PlainOutcomes) (i : Nat) :
    o.testCaseResult i = sOk ∨ isRoutineFailure (o.testCaseResult i) = true := by
  unfold Outcomes.testCaseResult
  rcases o.before_or i with hb | hb <;> rcases o.test_or i with ht | ht <;> rcases o.after_or i with ha | ha <;>
    simp [hb, ht, ha, isRoutineFailure]

namespace PlannedFixture

variable {d : PlannedFixture} {k : Nat} {L : List Entry} {s s' : Run Logbook} {i : Nat} {hr : HRESULT}

theorem stopsAt_eq (d : PlannedFixture) (i : Nat) : d.outcomes.stopsAt d.action i =
    (d.caseFails i && flagOn d.action.flags fixtureExecutionShortcircuitFixtureOnFailure) := by
  rw [d.outcomes.stopsAt_of_started d.action (d.outcomes.accepted i), caseFails]
  rcases d.outcomes.testCaseResult_or i with h | h
  · simp [h]
  · simp [h, failed_of_isRoutineFailure h]

theorem cutShort_eq_any (d : PlannedFixture) :
    d.cutShort = d.action.selected.any (d.outcomes.stopsAt d.action) := by
  rw [cutShort, funext d.stopsAt_eq]
  cases flagOn d.action.flags fixtureExecutionShortcircuitFixtureOnFailure <;> simp

/-! ## The outline -/

theorem invoke_some {c : Call} (h : (d.host k).invoke c s = (hr, s')) :
    hr = d.outcomes.answer s.env.table.index c ∧ s'.env = s.env.after k hr c := by
  cases h
  exact ⟨rfl, rfl⟩

/-- The log at the head of the loop. -/
def logUpTo (d : PlannedFixture) (k i : Nat) : List Entry :=
  .ran ⟨k, .setup, d.outcomes.setup⟩ :: ((List.range i).filter d.action.selects).flatMap (d.caseLog k)

/-- No test case before the index has stopped the loop. -/
structure Reaches (d : PlannedFixture) (i : Nat) : Prop where
  setup   : failed d.outcomes.setup = false
  earlier : ∀ j < i, d.action.selects j = true → d.outcomes.stopsAt d.action j = false

/-- In the turn of test case `i`, some of whose routines have run. -/
structure InTurn (d : PlannedFixture) (k : Nat) (L : List Entry) (i : Nat) (ran : List RoutineRun)
    (s : Run Logbook) : Prop where
  log      : s.env.log = L ++ d.logUpTo k i ++ ran.map .ran
  index    : s.env.table.index = i
  reaches  : d.Reaches i
  lt       : i < d.action.fixture.testCases.length
  selected : d.action.selects i = true

theorem InTurn.ran {c : Call} {r : RoutineId} {runs : List RoutineRun} (h : d.InTurn k L i runs s)
    (henv : s'.env = s.env.after k hr c) (hentry : c.entry k i hr = [.ran ⟨k, r, hr⟩])
    (hindex : (s.env.table.next c).index = s.env.table.index) :
    d.InTurn k L i (runs ++ [⟨k, r, hr⟩]) s' := by
  refine { h with log := ?_, index := ?_ }
  · rw [henv, Logbook.after, h.index, hentry, h.log]
    simp
  · rw [henv]
    exact hindex.trans h.index

theorem logUpTo_succ (h : d.action.selects i = true) :
    d.logUpTo k (i + 1) = d.logUpTo k i ++ d.caseLog k i := by
  simp [logUpTo, List.range_succ, List.filter_append, h]

theorem logUpTo_succ_of_skipped (h : d.action.selects i = false) : d.logUpTo k (i + 1) = d.logUpTo k i := by
  simp [logUpTo, List.range_succ, List.filter_append, h]

theorem Reaches.succ (h : d.Reaches i) (hi : d.action.selects i = true → d.outcomes.stopsAt d.action i = false) :
    d.Reaches (i + 1) := by
  refine ⟨h.setup, ?_⟩
  intro j hj hsel
  rcases Nat.lt_succ_iff_lt_or_eq.mp hj with hlt | rfl
  · exact h.earlier j hlt hsel
  · exact hi hsel

/-- The proof outline: what the log holds at each point. -/
def logged (d : PlannedFixture) (k : Nat) (L : List Entry) :
    Outline (d.host k) d.action (fun s => s.env.log = L)
      (fun hr s => s.env.log = L ++ d.fixtureLog k ∧ d.Returns hr) where
  opened s        := s.env.log = L
  loop i hr s     := s.env.log = L ++ d.logUpTo k i ∧ hr = sOk ∧ d.Reaches i
  started i s     := d.InTurn k L i [] s
  prepared i s    := d.InTurn k L i [⟨k, .before i, d.outcomes.before i⟩] s ∧ failed (d.outcomes.before i) = false
  tested i hr s   :=
    d.InTurn k L i [⟨k, .before i, d.outcomes.before i⟩, ⟨k, .test i, d.outcomes.test i⟩] s ∧
      failed (d.outcomes.before i) = false ∧ hr = d.outcomes.test i
  ended i hr s    := d.InTurn k L i (d.caseRoutines k i) s ∧ hr = d.outcomes.testCaseResult i
  stopped sc hr s :=
    s.env.log = L ++ .ran ⟨k, .setup, d.outcomes.setup⟩ ::
        (d.outcomes.reached d.action).flatMap (d.caseLog k) ∧
      failed d.outcomes.setup = false ∧ sc = d.cutShort ∧
      failed hr = (sc && flagOn d.action.flags fixtureExecutionEscalateFixtureFailues) ∧
      (failed hr = false → hr = sOk)
  closing ran hr s := s.env.log = L ++ d.body k ∧ ran = d.completes ∧ d.Returns hr
  reject := by
    intro s _ hvalid
    have hvalid' : d.outcomes.isValidContext = false := hvalid
    rw [d.outcomes.valid] at hvalid'
    cases hvalid'
  start := by
    intro s s' hr hs _ hcall
    obtain ⟨rfl, henv⟩ := invoke_some hcall
    simp only [Outcomes.answer, d.outcomes.opened, Bool.false_eq_true, if_false]
    rw [henv]
    simpa [Logbook.after, Call.entry] using hs
  setup := by
    intro s s' hr flags hs hcall
    obtain ⟨rfl, henv⟩ := invoke_some hcall
    have hlog : s'.env.log = L ++ [.ran ⟨k, .setup, d.outcomes.setup⟩] := by
      rw [henv]
      simp [Logbook.after, Call.entry, Outcomes.answer, hs]
    rcases d.outcomes.setup_or with hok | hfail
    · have hf : failed d.outcomes.setup = false := by simp [hok]
      simp only [Outcomes.answer, setupFailure_eq_false hf, hf, Bool.false_eq_true, if_false]
      refine ⟨by simpa [logUpTo] using hlog, hok, hf, ?_⟩
      exact fun j hj => absurd hj (Nat.not_lt_zero j)
    · have hf : failed d.outcomes.setup = true := by simp [hfail]
      simp only [Outcomes.answer, hfail, beq_self_eq_true, Bool.true_or, if_true]
      refine ⟨by simpa [body, hf] using hlog, by simp [completes, hf], ?_, ?_⟩
      · simp only [fails, hf, if_true]
        cases flagOn d.action.flags fixtureExecutionShortcircuitRunOnSetupFailure <;> simp
      · cases flagOn d.action.flags fixtureExecutionShortcircuitRunOnSetupFailure <;> simp
  skip := by
    rintro i hr s _ hskip ⟨hlog, rfl, hreaches⟩
    refine ⟨by rw [hlog, logUpTo_succ_of_skipped hskip], rfl, hreaches.succ ?_⟩
    intro hsel
    rw [hskip] at hsel
    cases hsel
  announce := by
    rintro i hr₀ s s' hr hlt hsel ⟨hlog, -, hreaches⟩ hcall
    obtain ⟨rfl, henv⟩ := invoke_some hcall
    simp only [Outcomes.answer, d.outcomes.accepted i, Bool.false_eq_true, if_false]
    refine ⟨?_, ?_, hreaches, hlt, hsel⟩
    · rw [henv]
      simp [Logbook.after, Call.entry, hlog]
    · rw [henv]
      rfl
  before := by
    intro i s s' hr flags hs hcall
    obtain ⟨hhr, henv⟩ := invoke_some hcall
    rw [Outcomes.answer, hs.index] at hhr
    subst hhr
    have hturn := hs.ran henv rfl rfl
    cases hf : failed (d.outcomes.before i) with
    | true  =>
        simp only [if_true]
        exact ⟨by simpa [caseRoutines, hf] using hturn, by simp [Outcomes.testCaseResult, hf]⟩
    | false =>
        simp only [Bool.false_eq_true, if_false]
        exact ⟨hturn, trivial⟩
  test := by
    intro i s s' hr flags hs hcall
    obtain ⟨rfl, henv⟩ := invoke_some hcall
    exact ⟨hs.1.ran henv rfl rfl, hs.2, rfl⟩
  after := by
    rintro i s s' hrTestCase hr flags ⟨hturn, hbefore, rfl⟩ hcall
    obtain ⟨hhr, henv⟩ := invoke_some hcall
    rw [Outcomes.answer, hturn.index] at hhr
    subst hhr
    have hturn' := hturn.ran henv rfl rfl
    exact ⟨by simpa [caseRoutines, hbefore] using hturn',
      (d.outcomes.testCaseResult_eq_resultOf hbefore).symm⟩
  abandon := by
    rintro i s hr ⟨-, rfl⟩ hfatal
    rcases d.outcomes.testCaseResult_or i with h | h
    · simp [fatal, h] at hfatal
    · simp [fatal, h] at hfatal
  finish := by
    rintro i s hr ⟨hturn, rfl⟩ -
    have hstops : d.outcomes.stopsAt d.action i = d.action.stopsOn (d.outcomes.testCaseResult i) :=
      d.outcomes.stopsAt_of_started d.action (d.outcomes.accepted i)
    have hlog : ((d.host k).notify (.afterTestCaseFinish (d.host k).threadId ⟨d.action.fixture, i⟩
        (succeeded (d.outcomes.testCaseResult i))) s).env.log = L ++ d.logUpTo k i ++ d.caseLog k i := by
      simp [Host.notify, host, Logbook.after, Call.entry, hturn.log, caseLog, caseFails]
    split
    · rename_i hstop
      have hreached := d.outcomes.reached_of_stopsAt hturn.lt hturn.selected hturn.reaches.earlier
        (hstops.trans hstop)
      have hcut : d.cutShort = true := by
        rw [cutShort_eq_any, List.any_eq_true]
        refine ⟨i, ?_, hstops.trans hstop⟩
        exact List.mem_filter.mpr ⟨List.mem_range.mpr hturn.lt, hturn.selected⟩
      refine ⟨?_, hturn.reaches.setup, hcut.symm, ?_⟩
      · rw [hlog, hreached]
        simp [logUpTo]
      · rw [TsexecAction.stopsOn] at hstop
        rcases d.outcomes.testCaseResult_or i with h | h
        · simp [h] at hstop
        · simp only [h, Bool.not_true, Bool.false_or, Bool.and_eq_true] at hstop
          rw [TsexecAction.keeps, h, hstop.2]
          cases flagOn d.action.flags fixtureExecutionEscalateFixtureFailues <;> simp [hstop.1]
    · rename_i hgo
      refine ⟨?_, ?_, hturn.reaches.succ ?_⟩
      · rw [hlog, logUpTo_succ hturn.selected, List.append_assoc]
      · rw [TsexecAction.stopsOn] at hgo
        rcases d.outcomes.testCaseResult_or i with h | h
        · simp [TsexecAction.keeps, h]
        · simp [h, failed_of_isRoutineFailure h] at hgo
          simp [TsexecAction.keeps, h, hgo]
      · intro _
        rw [hstops]
        simpa using hgo
  leave := by
    rintro hr s ⟨hlog, rfl, hreaches⟩
    have hreached := d.outcomes.reached_of_not_stopsAt hreaches.earlier
    have hcut : d.cutShort = false := by
      rw [cutShort_eq_any, List.any_eq_false]
      intro j hj
      simp only [TsexecAction.selected, List.mem_filter, List.mem_range] at hj
      simp [hreaches.earlier j hj.1 hj.2]
    refine ⟨?_, hreaches.setup, hcut.symm, by simp, fun _ => rfl⟩
    rw [hlog, hreached]
    rfl
  teardown := by
    rintro sc hr s s' teardownHr flags ⟨hlog, hsetup, rfl, hfail, hok⟩ hcall
    obtain ⟨rfl, henv⟩ := invoke_some hcall
    have hlog' : s'.env.log = L ++ d.body k := by
      rw [henv]
      simp [Logbook.after, Call.entry, Outcomes.answer, hlog, body, hsetup]
    rcases d.outcomes.teardown_or with ht | ht
    · simp only [Outcomes.answer, ht, failed_sOk, Bool.false_eq_true, if_false]
      refine ⟨hlog', by simp [completes, hsetup, ht], ?_, hok⟩
      simp [fails, hsetup, ht, hfail]
    · simp only [Outcomes.answer, ht, failed_eTeardownRoutineFailed, if_true]
      refine ⟨hlog', by simp [completes, ht], ?_, ?_⟩
      · cases hesc : flagOn d.action.flags fixtureExecutionEscalateFixtureFailues <;>
          simp [fails, hsetup, ht, hesc, hfail]
      · cases hesc : flagOn d.action.flags fixtureExecutionEscalateFixtureFailues
        · simpa using hok
        · simp
  close := by
    rintro ran hr s ⟨hlog, rfl, hret⟩
    refine ⟨?_, hret⟩
    simp [Host.notify, host, Logbook.after, Call.entry, hlog, fixtureLog]

/-- **The run of one fixture**: what it adds to the log, and what it returns. -/
theorem run_spec (d : PlannedFixture) (k : Nat) (s : Run Logbook) :
    (d.run k s).2.env.log = s.env.log ++ d.fixtureLog k ∧ d.Returns (d.run k s).1 :=
  (d.logged k s.env.log).run rfl

end PlannedFixture

/-! ## The closed form of the sequence -/

/-- The actions from position `k` on, run from a state in which `Hr` is `S_OK`. -/
theorem runActions_spec (ds : List PlannedFixture) (k : Nat) (s : Run Logbook) :
    let x := runActions ((ds.zipIdx k).map (fun x => x.1.run x.2)) sOk s
    x.2.env.log = s.env.log ++
        (takeThrough (fun x => x.1.fails) (ds.zipIdx k)).flatMap (fun x => x.1.fixtureLog x.2) ∧
      failed x.1 = ds.any PlannedFixture.fails ∧ (failed x.1 = false → x.1 = sOk) := by
  induction ds generalizing k s with
  | nil => simp [runActions]
  | cons d ds ih =>
      obtain ⟨hlog, hfail, hok⟩ := d.run_spec k s
      rw [List.zipIdx_cons, List.map_cons, runActions]
      cases hf : d.fails with
      | true  =>
          have htake : takeThrough (fun x => x.1.fails) ((d, k) :: ds.zipIdx (k + 1)) = [(d, k)] :=
            takeThrough_cons_pos hf
          rw [hf] at hfail
          simp [hfail, htake, hlog, hf]
      | false =>
          have htake : takeThrough (fun x => x.1.fails) ((d, k) :: ds.zipIdx (k + 1)) =
              (d, k) :: takeThrough (fun x => x.1.fails) (ds.zipIdx (k + 1)) := takeThrough_cons_neg hf
          rw [hf] at hfail
          have hnext := ih (k + 1) (d.run k s).2
          simp only [hok hfail, failed_sOk, Bool.false_eq_true, if_false, htake, List.flatMap_cons,
            List.any_cons, hf, Bool.false_or]
          refine ⟨?_, hnext.2⟩
          rw [hnext.1, hlog, List.append_assoc]

/-- **The run of the sequence**: it runs the fixtures up to the first one that fails. -/
theorem runPlannedFixtures_spec (ds : List PlannedFixture) :
    (runPlannedFixtures ds).2.env.log =
        (takeThrough (fun x => x.1.fails) ds.zipIdx).flatMap (fun x => x.1.fixtureLog x.2) ∧
      failed (runPlannedFixtures ds).1 = ds.any PlannedFixture.fails ∧
      (failed (runPlannedFixtures ds).1 = false → (runPlannedFixtures ds).1 = sOk) := by
  cases ds with
  | nil => simp [runPlannedFixtures, runSequenceAction]
  | cons d ds =>
      have hspec := runActions_spec (d :: ds) 0 { env := { table := ⟨0, 0⟩, log := [] }, trace := [] }
      simp only [List.nil_append] at hspec
      exact hspec

end Cfix
