import Cfix.Fixture.Follows

/-!
# `Fixture.Law` — which routines a fixture run calls, and in which order

The law: Setup comes first; the test cases that start run in index order, each with Before, and with the
test routine and After iff Before succeeded; Teardown comes last iff Setup succeeded. The run obeys it
exactly when no test case ends with a fatal error, because the loop then returns without the teardown.
-/

namespace Cfix

open TakeThrough

/-! ## The law -/

/-- A call of one of the fixture's routines. -/
def Label.isRoutine : Label → Bool
  | .setup | .before | .test _ | .after | .teardown => true
  | .beforeFixtureStart _ | .beforeTestCaseStart _ | .afterTestCaseFinish _ | .afterFixtureFinish _ => false

/-- The routine calls of one test case: the test routine and After follow iff Before succeeded. -/
inductive TestCaseLaw (f : Fixture) (i : Nat) : List Labelled → Prop where
  | beforeFailed {hr : HRESULT} : failed hr = true → TestCaseLaw f i [(.before, hr)]
  | ran {hr hrTest hrAfter : HRESULT} : failed hr = false →
      TestCaseLaw f i [(.before, hr), (.test ⟨f, i⟩, hrTest), (.after, hrAfter)]

/-- **The fixture execution law** for the routine calls of a run that started the test cases `started`. -/
inductive FixtureLaw (f : Fixture) (started : List Nat) : List Labelled → Prop where
  | setupFailed {hr : HRESULT} : failed hr = true → FixtureLaw f started [(.setup, hr)]
  | ran {hr hrTeardown : HRESULT} {parts : List (List Labelled)} : failed hr = false →
      List.Forall₂ (TestCaseLaw f) started parts →
      FixtureLaw f started ((.setup, hr) :: parts.flatten ++ [(.teardown, hrTeardown)])

variable (o : Outcomes) (a : TsexecAction)

/-- The routine calls of a run, in order. -/
def Outcomes.routineCalls : List Labelled := (o.run a).2.labels.filter (fun l => l.1.isRoutine)

/-- The test cases whose `BeforeTestCaseStart` succeeds, up to the one that short-circuits the fixture. -/
def Outcomes.started : List Nat := (o.reached a).filter (fun i => !failed (o.beforeTestCaseStart i))

/-- The run obeys the law: a fixture that is not run calls nothing. -/
def Outcomes.ObeysLaw : Prop :=
  if o.opens then o.started a <+: a.selected ∧ FixtureLaw a.fixture (o.started a) (o.routineCalls a)
  else o.routineCalls a = []

/-! ## The started test cases -/

/-- Only the last test case that is reached can be refused. -/
theorem started_prefix_reached {l : List Nat} :
    (takeThrough (o.stopsAt a) l).filter (fun i => !failed (o.beforeTestCaseStart i)) <+: l := by
  induction l with
  | nil => simp
  | cons i l ih =>
      cases hst : o.stopsAt a i with
      | true =>
          rw [takeThrough_cons_pos hst]
          cases hcb : failed (o.beforeTestCaseStart i) <;> simp [hcb]
      | false =>
          have hcb : failed (o.beforeTestCaseStart i) = false := by
            simp only [Outcomes.stopsAt, Bool.or_eq_false_iff] at hst
            exact hst.1
          rw [takeThrough_cons_neg hst]
          simpa [hcb] using ih

theorem Outcomes.started_prefix_selected : o.started a <+: a.selected := started_prefix_reached o a

/-- Unless a test case stops the fixture, all selected test cases are started. -/
theorem Outcomes.started_eq_selected (h : ∀ i ∈ a.selected, o.stopsAt a i = false) :
    o.started a = a.selected := by
  have hr : o.reached a = a.selected := takeThrough_eq_self h
  rw [Outcomes.started, hr, List.filter_eq_self]
  intro i hi
  have hst := h i hi
  simp only [Outcomes.stopsAt, Bool.or_eq_false_iff] at hst
  simp [hst.1]

/-! ## The routine calls of a run -/

theorem testCaseLaw_testCaseLabels (f : Fixture) (i : Nat) : TestCaseLaw f i (o.testCaseLabels f i) := by
  unfold Outcomes.testCaseLabels
  cases hb : failed (o.before i) with
  | true  => exact .beforeFailed hb
  | false => exact .ran hb

/-- The routine calls of one turn. -/
theorem filter_turn (i : Nat) :
    (o.turn a i).filter (fun l => l.1.isRoutine)
      = if failed (o.beforeTestCaseStart i) then [] else o.testCaseLabels a.fixture i := by
  unfold Outcomes.turn Outcomes.testCaseLabels
  cases hcb : failed (o.beforeTestCaseStart i) with
  | true => simp [Label.isRoutine]
  | false =>
      cases hb : failed (o.before i) <;> cases hf : fatal (o.testCaseResult i) <;> simp [Label.isRoutine]

/-- The routine calls of the loop are those of the started test cases. -/
theorem filter_turns (l : List Nat) :
    (l.flatMap (o.turn a)).filter (fun l => l.1.isRoutine)
      = (l.filter (fun i => !failed (o.beforeTestCaseStart i))).flatMap (o.testCaseLabels a.fixture) := by
  induction l with
  | nil => rfl
  | cons i l ih =>
      rw [List.flatMap_cons, List.filter_append, ih, filter_turn, List.filter_cons]
      cases hcb : failed (o.beforeTestCaseStart i) <;> simp

/-- No turn calls Teardown. -/
theorem teardown_not_mem_turns {l : List Nat} {hr : HRESULT} :
    (Label.teardown, hr) ∉ l.flatMap (o.testCaseLabels a.fixture) := by
  simp only [List.mem_flatMap, not_exists, not_and]
  intro i _
  unfold Outcomes.testCaseLabels
  cases hb : failed (o.before i) <;> simp

/-- A fixture that is not opened runs nothing. -/
theorem routineCalls_of_not_opens (hop : o.opens = false) : o.routineCalls a = [] := by
  rw [Outcomes.routineCalls, (o.run_spec a).1]
  unfold Outcomes.fixtureLabels
  cases hv : o.isValidContext with
  | false => simp
  | true =>
      have hb : failed o.beforeFixtureStart = true := by simpa [Outcomes.opens, hv] using hop
      simp [hb, Label.isRoutine]

/-- The routine calls of a run that opens the fixture. -/
theorem routineCalls_eq (hop : o.opens = true) :
    o.routineCalls a = (.setup, o.setup) ::
      if failed o.setup then []
      else (o.started a).flatMap (o.testCaseLabels a.fixture) ++
        if (o.reached a).any o.fatalAt then [] else [(.teardown, o.teardown)] := by
  simp only [Outcomes.opens, Bool.and_eq_true, Bool.not_eq_true'] at hop
  obtain ⟨hv, hb⟩ := hop
  rw [Outcomes.routineCalls, (o.run_spec a).1]
  unfold Outcomes.fixtureLabels
  cases hsr : (o.setup == eSetupRoutineFailed || o.setup == eTestrunAborted) with
  | true =>
      have hsf : failed o.setup = true := by
        simp only [Bool.or_eq_true, beq_iff_eq] at hsr
        rcases hsr with h | h <;> simp [h]
      simp [hv, hb, hsf, Label.isRoutine]
  | false =>
      cases hsf : failed o.setup with
      | true => simp [hv, hb, Label.isRoutine]
      | false =>
          have hturns := filter_turns o a (o.reached a)
          simp only [hv, hb, Bool.not_true, Bool.false_eq_true, if_false, List.filter_cons,
            List.filter_append, hturns, Outcomes.started]
          cases hany : (o.reached a).any o.fatalAt <;> simp [Label.isRoutine]

/-! ## When the law holds -/

theorem obeysLaw_of_not_opens (hop : o.opens = false) : o.ObeysLaw a := by
  rw [Outcomes.ObeysLaw, hop, if_neg Bool.false_ne_true]
  exact routineCalls_of_not_opens o a hop

/-- Without a fatal test case the teardown is called. -/
theorem obeysLaw_of_not_fatal (hop : o.opens = true)
    (h : failed o.setup = false → ∀ i ∈ o.reached a, o.fatalAt i = false) : o.ObeysLaw a := by
  rw [Outcomes.ObeysLaw, hop, if_pos rfl, routineCalls_eq o a hop]
  refine ⟨o.started_prefix_selected a, ?_⟩
  cases hsf : failed o.setup with
  | true => exact .setupFailed hsf
  | false =>
      have hany : (o.reached a).any o.fatalAt = false := by
        simpa [List.any_eq_false] using h hsf
      have hparts : List.Forall₂ (TestCaseLaw a.fixture) (o.started a)
          ((o.started a).map (o.testCaseLabels a.fixture)) := by
        rw [List.forall₂_map_right_iff, List.forall₂_same]
        exact fun i _ => testCaseLaw_testCaseLabels o a.fixture i
      have hlaw : FixtureLaw a.fixture (o.started a) (_ :: _ ++ [(.teardown, o.teardown)]) :=
        .ran hsf hparts
      simpa [hany, List.flatMap_def] using hlaw

/-- A fatal test case skips the teardown of a fixture whose Setup succeeded. -/
theorem not_obeysLaw_of_fatal {i : Nat} (hop : o.opens = true) (hsf : failed o.setup = false)
    (hi : i ∈ o.reached a) (hf : o.fatalAt i = true) : ¬ o.ObeysLaw a := by
  rw [Outcomes.ObeysLaw, hop, if_pos rfl, routineCalls_eq o a hop]
  rintro ⟨-, hlaw⟩
  have hany : (o.reached a).any o.fatalAt = true := List.any_eq_true.mpr ⟨i, hi, hf⟩
  simp only [hsf, hany, Bool.false_eq_true, if_false, if_true, List.append_nil] at hlaw
  generalize hw : (Label.setup, o.setup) :: (o.started a).flatMap (o.testCaseLabels a.fixture) = w at hlaw
  cases hlaw with
  | @setupFailed hr hfail =>
      have hset : o.setup = hr := congrArg Prod.snd (List.cons.inj hw).1
      rw [hset, hfail] at hsf
      cases hsf
  | @ran hr hrTeardown parts _ _ =>
      -- the law ends with the teardown, which no turn calls
      have hmem : (Label.teardown, hrTeardown) ∈
          (Label.setup, o.setup) :: (o.started a).flatMap (o.testCaseLabels a.fixture) := by
        rw [hw]
        simp
      rcases List.mem_cons.mp hmem with h | h
      · cases h
      · exact teardown_not_mem_turns o a h

/-- **A run obeys the law iff no test case of an opened fixture with a successful Setup is fatal.** -/
theorem obeysLaw_iff :
    o.ObeysLaw a ↔
      (o.opens = true → failed o.setup = false → ∀ i ∈ o.reached a, o.fatalAt i = false) := by
  constructor
  · intro hlaw hop hsf i hi
    by_contra hf
    exact not_obeysLaw_of_fatal o a hop hsf hi (by simpa using hf) hlaw
  · intro h
    cases hop : o.opens with
    | false => exact obeysLaw_of_not_opens o a hop
    | true  => exact obeysLaw_of_not_fatal o a hop (h hop)

/-- A kernel-mode test routine that cannot be called (`CfixklpCallRoutine` runs out of memory): its fixture
    is never torn down. -/
theorem teardown_skipped :
    ¬ Outcomes.ObeysLaw { Outcomes.allOk with test := fun _ => eOutofmemory } (twoTestCases 0#32) :=
  not_obeysLaw_of_fatal (i := 0) _ _ (by decide) (by decide) (by decide) (by decide)

end Cfix
