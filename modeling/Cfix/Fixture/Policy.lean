import Cfix.Fixture.Logbook

/-!
# `Fixture.Policy` — what a failing routine ends

The three policies of a run: a failure ends the run, the fixture or nothing. For each of them the routines
that run are determined by the outcomes, over any number of fixtures and test cases.
-/

namespace Cfix

open TakeThrough

/-! ## The policies -/

/-- `CFIX_FIXTURE_EXECUTION_SHORTCIRCUIT_RUN_ON_FAILURE`. -/
def fixtureExecutionShortcircuitRunOnFailure : BitVec 32 :=
  fixtureExecutionShortcircuitFixtureOnFailure ||| fixtureExecutionShortcircuitRunOnSetupFailure |||
    fixtureExecutionEscalateFixtureFailues

inductive Policy where
  | shortcircuitRun
  | shortcircuitFixture
  | runAll
  deriving DecidableEq, Repr

/-- The flags that select the policy. -/
def Policy.flags : Policy → BitVec 32
  | .shortcircuitRun     => fixtureExecutionShortcircuitRunOnFailure
  | .shortcircuitFixture => fixtureExecutionShortcircuitFixtureOnFailure
  | .runAll              => 0#32

/-- The action's flags select the policy; they may contain other flags. -/
def TsexecAction.HasPolicy (a : TsexecAction) (p : Policy) : Prop :=
  a.flags &&& fixtureExecutionShortcircuitRunOnFailure = p.flags

theorem TsexecAction.HasPolicy.flagOn_eq {a : TsexecAction} {p : Policy} (h : a.HasPolicy p) (flag : BitVec 32)
    (hflag : fixtureExecutionShortcircuitRunOnFailure &&& flag = flag) :
    flagOn a.flags flag = flagOn p.flags flag := by
  rw [flagOn, flagOn, ← h, BitVec.and_assoc, hflag]

namespace Policy

theorem flagOn_fixture (p : Policy) :
    flagOn p.flags fixtureExecutionShortcircuitFixtureOnFailure = decide (p ≠ .runAll) := by
  cases p <;> decide

theorem flagOn_setup (p : Policy) :
    flagOn p.flags fixtureExecutionShortcircuitRunOnSetupFailure = decide (p = .shortcircuitRun) := by
  cases p <;> decide

theorem flagOn_escalate (p : Policy) :
    flagOn p.flags fixtureExecutionEscalateFixtureFailues = decide (p = .shortcircuitRun) := by
  cases p <;> decide

end Policy

/-! ## The laws -/

/-- The routines of the fixture that still run after this one has failed: After follows the test routine,
    Teardown follows if Setup has succeeded. -/
def RoutineId.closing : RoutineId → List RoutineId
  | .setup    => []
  | .before _ => [.teardown]
  | .test i   => [.after i, .teardown]
  | .after _  => [.teardown]
  | .teardown => []

/-- After the first failing routine only its fixture is closed. -/
def ClosesAfterFailure (routines : List RoutineRun) : Prop :=
  ∀ x post, routines.dropWhile (fun y => !failed y.hr) = x :: post →
    post.map (fun y => (y.fixture, y.routine)) = x.routine.closing.map (fun r => (x.fixture, r))

namespace PlannedFixture

variable (d : PlannedFixture) (k : Nat)

/-- The routines of a fixture that runs these test cases. -/
def routinesOf (testCases : List Nat) : List RoutineRun :=
  ⟨k, .setup, d.outcomes.setup⟩ ::
    if failed d.outcomes.setup then []
    else testCases.flatMap (d.caseRoutines k) ++ [⟨k, .teardown, d.outcomes.teardown⟩]

/-- A routine fails when the fixture is run. -/
def anyFails : Bool :=
  failed d.outcomes.setup || d.action.selected.any d.caseFails || failed d.outcomes.teardown

end PlannedFixture

/-- What a run under the policy does. -/
def Policy.Law (ds : List PlannedFixture) (hr : HRESULT) (routines : List RoutineRun) : Policy → Prop
  | .shortcircuitRun     =>
    routines = (takeThrough (fun x => x.1.anyFails) ds.zipIdx).flatMap
        (fun x => x.1.routinesOf x.2 (takeThrough x.1.caseFails x.1.action.selected)) ∧
      ClosesAfterFailure routines ∧ (failed hr = true ↔ ∃ x ∈ routines, failed x.hr = true)
  | .shortcircuitFixture =>
    routines = ds.zipIdx.flatMap
        (fun x => x.1.routinesOf x.2 (takeThrough x.1.caseFails x.1.action.selected)) ∧
      hr = sOk
  | .runAll              =>
    routines = ds.zipIdx.flatMap (fun x => x.1.routinesOf x.2 x.1.action.selected) ∧ hr = sOk

/-- What `RanToCompletion` says, and that it is said of every test case and fixture that runs. -/
structure CompletionLaw (ds : List PlannedFixture) (log : List Entry) : Prop where
  testCase : ∀ {k i ran}, .testCaseFinished k i ran ∈ log → ∃ d, ds[k]? = some d ∧
    (ran = true ↔
      failed (d.outcomes.before i) = false ∧ failed (d.outcomes.test i) = false ∧
        failed (d.outcomes.after i) = false)
  fixture  : ∀ {k ran}, .fixtureFinished k ran ∈ log → ∃ d, ds[k]? = some d ∧
    (ran = true ↔
      failed d.outcomes.setup = false ∧ failed d.outcomes.teardown = false ∧ d.cutShort = false)
  finished : ∀ {r : RoutineRun}, .ran r ∈ log →
    (∀ i ∈ r.routine.testCase, ∃ ran, .testCaseFinished r.fixture i ran ∈ log) ∧
      ∃ ran, .fixtureFinished r.fixture ran ∈ log

/-! ## The routines of one fixture -/

namespace PlannedFixture

variable {d : PlannedFixture} {k i : Nat}

theorem caseFails_eq_false : d.caseFails i = false ↔
    failed (d.outcomes.before i) = false ∧ failed (d.outcomes.test i) = false ∧
      failed (d.outcomes.after i) = false := by
  unfold caseFails Outcomes.testCaseResult
  cases hb : failed (d.outcomes.before i) <;> cases ht : failed (d.outcomes.test i) <;>
    cases ha : failed (d.outcomes.after i) <;> simp [hb, ht, ha]

/-- No routine of a test case that succeeds fails. -/
theorem caseRoutines_ok (h : d.caseFails i = false) : ∀ y ∈ d.caseRoutines k i, failed y.hr = false := by
  obtain ⟨hb, ht, ha⟩ := caseFails_eq_false.mp h
  simp [caseRoutines, hb, ht, ha]

theorem exists_caseRoutines (h : d.caseFails i = true) : ∃ y ∈ d.caseRoutines k i, failed y.hr = true := by
  by_contra hnone
  simp only [not_exists, not_and, Bool.not_eq_true] at hnone
  have hok : d.caseFails i = false := by
    rw [caseFails_eq_false]
    cases hb : failed (d.outcomes.before i) with
    | true  => simpa [hb] using hnone ⟨k, .before i, d.outcomes.before i⟩ (by simp [caseRoutines])
    | false => simpa [caseRoutines, hb] using hnone
  rw [h] at hok
  cases hok

/-- The routines in the log of a fixture. -/
theorem routines_fixtureLog (d : PlannedFixture) (k : Nat) :
    (d.fixtureLog k).filterMap Entry.routine? = d.routinesOf k (d.outcomes.reached d.action) := by
  have hcase : ∀ i, (d.caseLog k i).filterMap Entry.routine? = d.caseRoutines k i := by
    intro i
    simp [caseLog, Entry.routine?, List.filterMap_map, Function.comp_def]
  have hcases : ∀ l : List Nat,
      (l.flatMap (d.caseLog k)).filterMap Entry.routine? = l.flatMap (d.caseRoutines k) := by
    intro l
    simp only [List.filterMap_flatMap, hcase]
  cases hs : failed d.outcomes.setup with
  | true  => simp [fixtureLog, body, routinesOf, hs, Entry.routine?]
  | false =>
      simp [fixtureLog, body, routinesOf, hs, Entry.routine?, List.filterMap_append, hcases]

/-- Where no routine fails, all of them succeed. -/
theorem routinesOf_ok (h : d.anyFails = false) {testCases : List Nat}
    (hsub : ∀ i ∈ testCases, i ∈ d.action.selected) :
    ∀ y ∈ d.routinesOf k testCases, failed y.hr = false := by
  simp only [anyFails, Bool.or_eq_false_iff, List.any_eq_false, Bool.not_eq_true] at h
  obtain ⟨⟨hs, hcases⟩, ht⟩ := h
  intro y hy
  simp only [routinesOf, hs, Bool.false_eq_true, if_false, List.mem_cons, List.mem_append, List.mem_flatMap,
    List.not_mem_nil, or_false] at hy
  rcases hy with rfl | ⟨i, hi, hy⟩ | rfl
  · exact hs
  · exact caseRoutines_ok (hcases i (hsub i hi)) y hy
  · exact ht

/-- A fixture in which a routine fails runs that routine. -/
theorem exists_routinesOf (h : d.anyFails = true) :
    ∃ y ∈ d.routinesOf k (takeThrough d.caseFails d.action.selected), failed y.hr = true := by
  unfold anyFails at h
  cases hs : failed d.outcomes.setup with
  | true  => exact ⟨_, List.mem_cons_self, hs⟩
  | false =>
      cases hcases : d.action.selected.any d.caseFails with
      | true  =>
          obtain ⟨pre, i, htake, -, -, hi⟩ := takeThrough_of_any hcases
          obtain ⟨y, hy, hf⟩ := exists_caseRoutines (k := k) hi
          refine ⟨y, ?_, hf⟩
          simp [routinesOf, hs, htake, hy]
      | false =>
          have ht : failed d.outcomes.teardown = true := by simpa [hs, hcases] using h
          exact ⟨⟨k, .teardown, d.outcomes.teardown⟩, by simp [routinesOf, hs], ht⟩

end PlannedFixture

/-! ## The first failure -/

theorem closesAfterFailure_append {l l' : List RoutineRun} (h : ∀ y ∈ l, failed y.hr = false) :
    ClosesAfterFailure (l ++ l') ↔ ClosesAfterFailure l' := by
  have hok : ∀ y ∈ l, (!failed y.hr) = true := fun y hy => by simp [h y hy]
  rw [ClosesAfterFailure, List.dropWhile_append_of_pos hok, ClosesAfterFailure]

theorem closesAfterFailure_nil : ClosesAfterFailure [] := by
  intro x post h
  cases h

namespace PlannedFixture

variable {d : PlannedFixture} {k i : Nat}

/-- In a test case that fails, After follows the test routine, and Teardown follows. -/
theorem closesAfterFailure_case (hr : HRESULT) (h : d.caseFails i = true) :
    ClosesAfterFailure (d.caseRoutines k i ++ [⟨k, .teardown, hr⟩]) := by
  intro x post hdrop
  unfold caseRoutines at hdrop
  cases hb : failed (d.outcomes.before i) with
  | true  =>
      simp only [hb, if_true, List.cons_append, List.nil_append, List.dropWhile_cons, Bool.not_true,
        Bool.false_eq_true, if_false] at hdrop
      cases hdrop
      rfl
  | false =>
      cases ht : failed (d.outcomes.test i) with
      | true  =>
          simp only [hb, ht, Bool.false_eq_true, if_false, List.cons_append, List.nil_append,
            List.dropWhile_cons, Bool.not_false, Bool.not_true, if_true] at hdrop
          cases hdrop
          rfl
      | false =>
          have ha : failed (d.outcomes.after i) = true := by
            by_contra ha
            rw [Bool.not_eq_true] at ha
            rw [caseFails_eq_false.mpr ⟨hb, ht, ha⟩] at h
            cases h
          simp only [hb, ht, ha, Bool.false_eq_true, if_false, List.cons_append, List.nil_append,
            List.dropWhile_cons, Bool.not_false, Bool.not_true, if_true] at hdrop
          cases hdrop
          rfl

/-- **The first failure of a fixture** ends it, apart from the closing routines. -/
theorem closesAfterFailure_fixture (d : PlannedFixture) (k : Nat) :
    ClosesAfterFailure (d.routinesOf k (takeThrough d.caseFails d.action.selected)) := by
  unfold routinesOf
  cases hs : failed d.outcomes.setup with
  | true  =>
      intro x post hdrop
      simp only [if_true, List.dropWhile_cons, hs, Bool.not_true, Bool.false_eq_true, if_false] at hdrop
      cases hdrop
      rfl
  | false =>
      have hsetup : ∀ y ∈ [(⟨k, .setup, d.outcomes.setup⟩ : RoutineRun)], failed y.hr = false := by
        simpa using hs
      simp only [Bool.false_eq_true, if_false]
      rw [← List.singleton_append, closesAfterFailure_append hsetup]
      cases hcases : d.action.selected.any d.caseFails with
      | true  =>
          obtain ⟨pre, i, htake, -, hpre, hi⟩ := takeThrough_of_any hcases
          have hok : ∀ y ∈ pre.flatMap (d.caseRoutines k), failed y.hr = false := by
            intro y hy
            obtain ⟨j, hj, hy⟩ := List.mem_flatMap.mp hy
            exact caseRoutines_ok (hpre j hj) y hy
          rw [htake, List.flatMap_append, List.append_assoc, closesAfterFailure_append hok,
            List.flatMap_singleton]
          exact closesAfterFailure_case d.outcomes.teardown hi
      | false =>
          simp only [List.any_eq_false, Bool.not_eq_true] at hcases
          have hok : ∀ y ∈ (takeThrough d.caseFails d.action.selected).flatMap (d.caseRoutines k),
              failed y.hr = false := by
            intro y hy
            obtain ⟨j, hj, hy⟩ := List.mem_flatMap.mp hy
            exact caseRoutines_ok (hcases j (mem_of_mem_takeThrough hj)) y hy
          rw [closesAfterFailure_append hok]
          intro x post hdrop
          cases ht : failed d.outcomes.teardown with
          | true  =>
              simp only [List.dropWhile_cons, ht, Bool.not_true, Bool.false_eq_true, if_false] at hdrop
              cases hdrop
              rfl
          | false => simp [ht] at hdrop

end PlannedFixture

/-- The same for the fixtures up to the first one in which a routine fails. -/
theorem closesAfterFailure_run (xs : List (PlannedFixture × Nat)) :
    ClosesAfterFailure ((takeThrough (fun x => x.1.anyFails) xs).flatMap
      (fun x => x.1.routinesOf x.2 (takeThrough x.1.caseFails x.1.action.selected))) := by
  induction xs with
  | nil => exact closesAfterFailure_nil
  | cons x xs ih =>
      cases hx : x.1.anyFails with
      | true  =>
          have htake : takeThrough (fun x => x.1.anyFails) (x :: xs) = [x] := takeThrough_cons_pos hx
          rw [htake, List.flatMap_singleton]
          exact x.1.closesAfterFailure_fixture x.2
      | false =>
          have htake : takeThrough (fun x => x.1.anyFails) (x :: xs) =
              x :: takeThrough (fun x => x.1.anyFails) xs := takeThrough_cons_neg hx
          rw [htake, List.flatMap_cons]
          refine (closesAfterFailure_append ?_).mpr ih
          exact PlannedFixture.routinesOf_ok hx (fun i hi => mem_of_mem_takeThrough hi)

/-- A routine has failed iff one of the fixtures has a failing routine. -/
theorem exists_failed_run (xs : List (PlannedFixture × Nat)) :
    (∃ y ∈ (takeThrough (fun x => x.1.anyFails) xs).flatMap
      (fun x => x.1.routinesOf x.2 (takeThrough x.1.caseFails x.1.action.selected)), failed y.hr = true) ↔
    xs.any (fun x => x.1.anyFails) = true := by
  constructor
  · rintro ⟨y, hy, hf⟩
    obtain ⟨x, hx, hy⟩ := List.mem_flatMap.mp hy
    refine List.any_eq_true.mpr ⟨x, mem_of_mem_takeThrough hx, ?_⟩
    by_contra hok
    have hnot := PlannedFixture.routinesOf_ok (by simpa using hok) (fun i hi => mem_of_mem_takeThrough hi) y hy
    rw [hf] at hnot
    cases hnot
  · intro h
    obtain ⟨pre, x, htake, -, -, hx⟩ := takeThrough_of_any h
    obtain ⟨y, hy, hf⟩ := PlannedFixture.exists_routinesOf (k := x.2) hx
    exact ⟨y, by rw [htake]; simp [hy], hf⟩

/-! ## Fixtures under a policy -/

namespace PlannedFixture

variable {d : PlannedFixture} {p : Policy}

/-- Which test cases are reached: under a short-circuit policy those up to the first failing one. -/
theorem reached_of_policy (h : d.action.HasPolicy p) : d.outcomes.reached d.action =
    if p = .runAll then d.action.selected else takeThrough d.caseFails d.action.selected := by
  have hflag := h.flagOn_eq fixtureExecutionShortcircuitFixtureOnFailure (by decide)
  unfold Outcomes.reached
  rw [funext d.stopsAt_eq, hflag, p.flagOn_fixture]
  by_cases hp : p = .runAll
  · rw [if_pos hp]
    refine takeThrough_eq_self ?_
    intro i _
    simp [hp]
  · simp [hp]

/-- Only the policy that ends the run lets the action return a failure. -/
theorem fails_of_policy (h : d.action.HasPolicy p) :
    d.fails = if p = .shortcircuitRun then d.anyFails else false := by
  have hfix := h.flagOn_eq fixtureExecutionShortcircuitFixtureOnFailure (by decide)
  have hrun := h.flagOn_eq fixtureExecutionShortcircuitRunOnSetupFailure (by decide)
  have hesc := h.flagOn_eq fixtureExecutionEscalateFixtureFailues (by decide)
  rw [fails, cutShort, hfix, hrun, hesc, p.flagOn_fixture, p.flagOn_setup, p.flagOn_escalate]
  by_cases hp : p = .shortcircuitRun
  · cases hs : failed d.outcomes.setup <;> simp [anyFails, hp, hs]
  · simp [hp]

end PlannedFixture

/-- The log of the run, when its actions follow the policy. -/
theorem routines_runPlannedFixtures {ds : List PlannedFixture} {p : Policy}
    (h : ∀ d ∈ ds, d.action.HasPolicy p) :
    (runPlannedFixtures ds).2.env.routines =
      (takeThrough (fun x => decide (p = .shortcircuitRun) && x.1.anyFails) ds.zipIdx).flatMap
        (fun x => x.1.routinesOf x.2
          (if p = .runAll then x.1.action.selected else takeThrough x.1.caseFails x.1.action.selected)) := by
  have hmem : ∀ x ∈ ds.zipIdx, x.1.action.HasPolicy p :=
    fun x hx => h x.1 (List.fst_mem_of_mem_zipIdx hx)
  rw [Logbook.routines, (runPlannedFixtures_spec ds).1, List.filterMap_flatMap]
  have htake : takeThrough (fun x => x.1.fails) ds.zipIdx =
      takeThrough (fun x => decide (p = .shortcircuitRun) && x.1.anyFails) ds.zipIdx := by
    refine takeThrough_congr ?_
    intro x hx
    rw [PlannedFixture.fails_of_policy (hmem x hx)]
    by_cases hp : p = .shortcircuitRun <;> simp [hp]
  rw [htake]
  refine List.flatMap_congr ?_
  intro x hx
  rw [PlannedFixture.routines_fixtureLog, PlannedFixture.reached_of_policy (hmem x (mem_of_mem_takeThrough hx))]

/-! ## `RanToCompletion` -/

namespace PlannedFixture

variable {d : PlannedFixture} {k k' i : Nat} {ran : Bool}

theorem testCaseFinished_mem_fixtureLog :
    .testCaseFinished k' i ran ∈ d.fixtureLog k ↔ failed d.outcomes.setup = false ∧
      i ∈ d.outcomes.reached d.action ∧ k' = k ∧ ran = !d.caseFails i := by
  cases hs : failed d.outcomes.setup with
  | true  => simp [fixtureLog, body, hs]
  | false =>
      simp only [fixtureLog, body, hs, caseLog, Bool.false_eq_true, if_false, List.mem_append, List.mem_cons,
        List.mem_flatMap, List.mem_map, reduceCtorEq, and_false, exists_false, false_or, or_false,
        List.not_mem_nil, Entry.testCaseFinished.injEq, true_and]
      constructor
      · rintro ⟨j, hj, rfl, rfl, rfl⟩
        exact ⟨hj, rfl, rfl⟩
      · rintro ⟨hi, rfl, rfl⟩
        exact ⟨i, hi, rfl, rfl, rfl⟩

theorem fixtureFinished_mem_fixtureLog :
    .fixtureFinished k' ran ∈ d.fixtureLog k ↔ k' = k ∧ ran = d.completes := by
  cases hs : failed d.outcomes.setup <;> simp [fixtureLog, body, caseLog, hs]

theorem ran_mem_fixtureLog {r : RoutineRun} :
    .ran r ∈ d.fixtureLog k ↔ r ∈ d.routinesOf k (d.outcomes.reached d.action) := by
  rw [← routines_fixtureLog, List.mem_filterMap]
  constructor
  · exact fun h => ⟨.ran r, h, rfl⟩
  · rintro ⟨e, he, hr⟩
    cases e with
    | ran r'                 =>
        cases hr
        exact he
    | testCaseFinished _ _ _ => cases hr
    | fixtureFinished _ _    => cases hr

/-- A routine of the log belongs to the fixture, and to a test case that is reached. -/
theorem of_mem_routinesOf {r : RoutineRun} {l : List Nat} (h : r ∈ d.routinesOf k l) :
    r.fixture = k ∧ ∀ i ∈ r.routine.testCase, failed d.outcomes.setup = false ∧ i ∈ l := by
  unfold routinesOf at h
  cases hs : failed d.outcomes.setup with
  | true  =>
      simp only [hs, if_true, List.mem_singleton] at h
      subst h
      exact ⟨rfl, fun i hi => nomatch hi⟩
  | false =>
      simp only [hs, Bool.false_eq_true, if_false, List.mem_cons, List.mem_append, List.mem_flatMap,
        List.not_mem_nil, or_false] at h
      rcases h with rfl | ⟨j, hj, h⟩ | rfl
      · exact ⟨rfl, fun i hi => nomatch hi⟩
      · have hcase : r.fixture = k ∧ r.routine.testCase = some j := by
          unfold caseRoutines at h
          cases hb : failed (d.outcomes.before j) with
          | true  =>
              simp only [hb, if_true, List.mem_singleton] at h
              subst h
              exact ⟨rfl, rfl⟩
          | false =>
              simp only [hb, Bool.false_eq_true, if_false, List.mem_cons, List.not_mem_nil, or_false] at h
              rcases h with rfl | rfl | rfl <;> exact ⟨rfl, rfl⟩
        refine ⟨hcase.1, fun i hi => ⟨rfl, ?_⟩⟩
        rw [hcase.2] at hi
        cases hi
        exact hj
      · exact ⟨rfl, fun i hi => nomatch hi⟩

end PlannedFixture

/-- An entry of the run's log belongs to a fixture of the sequence, all of whose entries are there. -/
theorem mem_log {ds : List PlannedFixture} {e : Entry} (h : e ∈ (runPlannedFixtures ds).2.env.log) :
    ∃ (d : PlannedFixture) (k : Nat), ds[k]? = some d ∧ e ∈ d.fixtureLog k ∧
      ∀ e' ∈ d.fixtureLog k, e' ∈ (runPlannedFixtures ds).2.env.log := by
  rw [(runPlannedFixtures_spec ds).1] at h ⊢
  obtain ⟨⟨d, k⟩, hx, he⟩ := List.mem_flatMap.mp h
  refine ⟨d, k, ?_, he, fun e' he' => List.mem_flatMap.mpr ⟨(d, k), hx, he'⟩⟩
  exact List.mem_zipIdx_iff_getElem?.mp (mem_of_mem_takeThrough hx)

/-- `RanToCompletion` is right in every run. -/
theorem completionLaw (ds : List PlannedFixture) : CompletionLaw ds (runPlannedFixtures ds).2.env.log where
  testCase := by
    intro k i ran h
    obtain ⟨d, k', hd, he, -⟩ := mem_log h
    obtain ⟨-, -, rfl, rfl⟩ := PlannedFixture.testCaseFinished_mem_fixtureLog.mp he
    refine ⟨d, hd, ?_⟩
    rw [Bool.not_eq_true', PlannedFixture.caseFails_eq_false]
  fixture := by
    intro k ran h
    obtain ⟨d, k', hd, he, -⟩ := mem_log h
    obtain ⟨rfl, rfl⟩ := PlannedFixture.fixtureFinished_mem_fixtureLog.mp he
    refine ⟨d, hd, ?_⟩
    simp [PlannedFixture.completes, and_assoc]
  finished := by
    intro r h
    obtain ⟨d, k, hd, he, hall⟩ := mem_log h
    obtain ⟨rfl, hcase⟩ := PlannedFixture.of_mem_routinesOf (PlannedFixture.ran_mem_fixtureLog.mp he)
    constructor
    · intro i hi
      obtain ⟨hs, hmem⟩ := hcase i hi
      exact ⟨_, hall _ (PlannedFixture.testCaseFinished_mem_fixtureLog.mpr ⟨hs, hmem, rfl, rfl⟩)⟩
    · exact ⟨_, hall _ (PlannedFixture.fixtureFinished_mem_fixtureLog.mpr ⟨rfl, rfl⟩)⟩

/-! ## The run -/

/-- A routine fails in one of the fixtures, whatever their positions are. -/
theorem any_anyFails_zipIdx (ds : List PlannedFixture) :
    ds.zipIdx.any (fun x => x.1.anyFails) = ds.any PlannedFixture.anyFails := by
  conv_rhs => rw [← List.zipIdx_map_fst 0 ds, List.any_map]
  rfl

theorem any_fails_of_policy {p : Policy} {ds : List PlannedFixture} (h : ∀ d ∈ ds, d.action.HasPolicy p) :
    ds.any PlannedFixture.fails = (decide (p = .shortcircuitRun) && ds.any PlannedFixture.anyFails) := by
  induction ds with
  | nil => simp
  | cons d ds ih =>
      rw [List.any_cons, List.any_cons, ih (fun x hx => h x (List.mem_cons_of_mem d hx)),
        PlannedFixture.fails_of_policy (h d (by simp))]
      by_cases hp : p = .shortcircuitRun <;> simp [hp]

/-- **The short-circuit policy over a run**: which routines run, what `Run` returns, and what
    `RanToCompletion` says. -/
theorem policy_run (p : Policy) (ds : List PlannedFixture) (h : ∀ d ∈ ds, d.action.HasPolicy p) :
    p.Law ds (runPlannedFixtures ds).1 (runPlannedFixtures ds).2.env.routines ∧
      CompletionLaw ds (runPlannedFixtures ds).2.env.log := by
  refine ⟨?_, completionLaw ds⟩
  obtain ⟨-, hfail, hok⟩ := runPlannedFixtures_spec ds
  have hroutines := routines_runPlannedFixtures h
  rw [any_fails_of_policy h] at hfail
  cases p with
  | shortcircuitRun     =>
      simp only [decide_true, Bool.true_and, reduceCtorEq, if_false] at hroutines hfail
      refine ⟨hroutines, hroutines ▸ closesAfterFailure_run _, ?_⟩
      rw [hroutines, exists_failed_run, hfail, any_anyFails_zipIdx]
  | shortcircuitFixture =>
      simp only [reduceCtorEq, decide_false, Bool.false_and, if_false] at hroutines hfail
      rw [takeThrough_eq_self (fun _ _ => rfl)] at hroutines
      exact ⟨hroutines, hok hfail⟩
  | runAll              =>
      simp only [reduceCtorEq, decide_false, Bool.false_and, if_true] at hroutines hfail
      rw [takeThrough_eq_self (fun _ _ => rfl)] at hroutines
      exact ⟨hroutines, hok hfail⟩

/-- Everything succeeds, apart from the test routines that are given. -/
def plainFixture (flags : BitVec 32) (test : Nat → HRESULT)
    (htest : ∀ i, test i = sOk ∨ test i = eTestRoutineFailed) : PlannedFixture where
  action   := twoTestCases flags
  outcomes :=
    { Outcomes.allOk with
      test        := test
      valid       := rfl
      opened      := rfl
      accepted    := fun _ => failed_sOk
      setup_or    := .inl rfl
      before_or   := fun _ => .inl rfl
      test_or     := htest
      after_or    := fun _ => .inl rfl
      teardown_or := .inl rfl }

/-- The first of two fixtures has a failing test case, which ends the run. -/
theorem policy_run_failingTest :
    let failing := plainFixture fixtureExecutionShortcircuitRunOnFailure (fun _ => eTestRoutineFailed)
      (fun _ => .inr rfl)
    let passing := plainFixture fixtureExecutionShortcircuitRunOnFailure (fun _ => sOk) (fun _ => .inl rfl)
    (∀ d ∈ [failing, passing], d.action.HasPolicy .shortcircuitRun) ∧
    Policy.Law [failing, passing] (runPlannedFixtures [failing, passing]).1
        (runPlannedFixtures [failing, passing]).2.env.routines .shortcircuitRun ∧
      CompletionLaw [failing, passing] (runPlannedFixtures [failing, passing]).2.env.log := by
  have hpolicy : ∀ test htest,
      (plainFixture fixtureExecutionShortcircuitRunOnFailure test htest).action.HasPolicy .shortcircuitRun :=
    fun _ _ => BitVec.and_self
  have hall : ∀ d ∈ [plainFixture fixtureExecutionShortcircuitRunOnFailure (fun _ => eTestRoutineFailed)
      (fun _ => .inr rfl), plainFixture fixtureExecutionShortcircuitRunOnFailure (fun _ => sOk)
      (fun _ => .inl rfl)], d.action.HasPolicy .shortcircuitRun := by
    intro d hd
    simp only [List.mem_cons, List.not_mem_nil, or_false] at hd
    rcases hd with rfl | rfl
    · exact hpolicy _ _
    · exact hpolicy _ _
  exact ⟨hall, policy_run .shortcircuitRun _ hall⟩

end Cfix
