import Cfix.Fixture.Outcomes

/-!
# `Fixture.Outline` — pre- and postconditions for the fixture action

An `Outline` annotates `CfixsRunFixtureExecutionAction` on an arbitrary host: one assertion for each point
between two calls, and for each call the obligation that it leads from the assertion before it to the one
after it. `Outline.run` puts the obligations together: the precondition of the action gives its
postcondition, for any number of test cases and any codes that the calls return.
-/

namespace Cfix

open TakeThrough

variable {σ : Type}

/-! ## Routines -/

/-- A routine of a fixture in one run; Before and After run once for each test case. -/
inductive RoutineId where
  | setup
  | before (index : Nat)
  | test   (index : Nat)
  | after  (index : Nat)
  | teardown
  deriving DecidableEq, Repr

/-- The test case that a routine runs for. -/
def RoutineId.testCase : RoutineId → Option Nat
  | .setup | .teardown             => none
  | .before i | .test i | .after i => some i

/-! ## Outlines -/

/-- No further test case runs after one with this result. -/
def TsexecAction.stopsOn (a : TsexecAction) (hr : HRESULT) : Bool :=
  failed hr && (!isRoutineFailure hr || flagOn a.flags fixtureExecutionShortcircuitFixtureOnFailure)

/-- The result of a test case whose Before routine succeeded. -/
def resultOf (hrTestCase hrAfter : HRESULT) : HRESULT :=
  if failed hrAfter then if failed hrTestCase then hrTestCase else hrAfter else hrTestCase

theorem Outcomes.testCaseResult_eq_resultOf (o : Outcomes) {i : Nat} (h : failed (o.before i) = false) :
    o.testCaseResult i = resultOf (o.test i) (o.after i) := by
  unfold Outcomes.testCaseResult resultOf
  cases ht : failed (o.test i) <;> cases ha : failed (o.after i) <;> simp [h]

/-- A Setup that succeeds does not end the action. -/
theorem setupFailure_eq_false {hr : HRESULT} (h : failed hr = false) :
    (hr == eSetupRoutineFailed || hr == eTestrunAborted) = false := by
  by_contra hne
  simp only [Bool.not_eq_false, Bool.or_eq_true, beq_iff_eq] at hne
  rcases hne with rfl | rfl
  · exact absurd h (by decide)
  · exact absurd h (by decide)

/-- `Hr` after a test case with this result: without the escalate flag the failure of a routine is dropped. -/
def TsexecAction.keeps (a : TsexecAction) (hr : HRESULT) : HRESULT :=
  if isRoutineFailure hr && !(flagOn a.flags fixtureExecutionShortcircuitFixtureOnFailure &&
    flagOn a.flags fixtureExecutionEscalateFixtureFailues) then sOk else hr

/-- A proof outline of the action `a` on the host `h`, with precondition `P` and postcondition `Q`, which is
    about the returned code too. The number in an assertion is the index of a test case; `Hr` and the flags
    are arguments where the action holds them in variables. -/
structure Outline (h : Host σ) (a : TsexecAction) (P : Run σ → Prop) (Q : HRESULT → Run σ → Prop) where
  /-- Setup comes next. -/
  opened   : Run σ → Prop
  /-- At the head of the loop, with the current value of `Hr`. -/
  loop     : Nat → HRESULT → Run σ → Prop
  /-- Before comes next. -/
  started  : Nat → Run σ → Prop
  /-- The test routine comes next. -/
  prepared : Nat → Run σ → Prop
  /-- After comes next; the test routine has returned this code. -/
  tested   : Nat → HRESULT → Run σ → Prop
  /-- The test case has this result. -/
  ended    : Nat → HRESULT → Run σ → Prop
  /-- Teardown comes next, with `FixtureShortCircuit` and `Hr`. -/
  stopped  : Bool → HRESULT → Run σ → Prop
  /-- `AfterFixtureFinish` comes next, with `RanToCompletion`; the code is returned after it. -/
  closing  : Bool → HRESULT → Run σ → Prop
  reject   : ∀ {s}, P s → h.isValidContext = false → Q eInvalidarg s
  start    : ∀ {s s' hr}, P s → h.isValidContext = true →
    h.invoke (.beforeFixtureStart h.threadId a.fixture) s = (hr, s') →
    if failed hr then Q hr s' else opened s'
  setup    : ∀ {s s' hr flags}, opened s → h.invoke (.setup a.fixture flags) s = (hr, s') →
    if hr == eSetupRoutineFailed || hr == eTestrunAborted then
      closing false (if flagOn a.flags fixtureExecutionShortcircuitRunOnSetupFailure then hr else sOk) s'
    else if failed hr then Q hr s' else loop 0 hr s'
  skip     : ∀ {i hr s}, i < a.fixture.testCases.length → a.selects i = false → loop i hr s →
    loop (i + 1) hr s
  announce : ∀ {i hr₀ s s' hr}, i < a.fixture.testCases.length → a.selects i = true → loop i hr₀ s →
    h.invoke (.beforeTestCaseStart h.threadId ⟨a.fixture, i⟩) s = (hr, s') →
    if failed hr then stopped true hr s' else started i s'
  before   : ∀ {i s s' hr flags}, started i s → h.invoke (.before a.fixture flags) s = (hr, s') →
    if failed hr then ended i hr s' else prepared i s'
  test     : ∀ {i s s' hr flags}, prepared i s →
    h.invoke (.runTestCase ⟨a.fixture, i⟩ flags) s = (hr, s') → tested i hr s'
  after    : ∀ {i s s' hrTestCase hr flags}, tested i hrTestCase s →
    h.invoke (.after a.fixture flags) s = (hr, s') → ended i (resultOf hrTestCase hr) s'
  abandon  : ∀ {i s hr}, ended i hr s → fatal hr = true → Q hr s
  finish   : ∀ {i s hr}, ended i hr s → fatal hr = false →
    let s' := h.notify (.afterTestCaseFinish h.threadId ⟨a.fixture, i⟩ (succeeded hr)) s
    if a.stopsOn hr then stopped true (a.keeps hr) s' else loop (i + 1) (a.keeps hr) s'
  leave    : ∀ {hr s}, loop a.fixture.testCases.length hr s → stopped false hr s
  teardown : ∀ {fixtureShortCircuit hr s s' teardownHr flags}, stopped fixtureShortCircuit hr s →
    h.invoke (.teardown a.fixture flags) s = (teardownHr, s') →
    if failed teardownHr then
      closing false (if flagOn a.flags fixtureExecutionEscalateFixtureFailues then teardownHr else hr) s'
    else closing (!fixtureShortCircuit) hr s'
  close    : ∀ {ranToCompletion hr s}, closing ranToCompletion hr s →
    Q hr (h.notify (.afterFixtureFinish h.threadId a.fixture ranToCompletion) s)

namespace Outline

variable {h : Host σ} {a : TsexecAction} {P : Run σ → Prop} {Q : HRESULT → Run σ → Prop} {i : Nat} {s : Run σ}

/-- The routines of one test case. -/
theorem testCase (out : Outline h a P Q) (hs : out.started i s) :
    let x := runTestCaseFixtureExecutionAction h a ⟨a.fixture, i⟩ s
    out.ended i x.1 x.2 := by
  simp only [runTestCaseFixtureExecutionAction]
  rcases hb : h.invoke (.before a.fixture (getTestFlagsFixtureExecutionAction h a s)) s with ⟨hr, s₁⟩
  have h₁ := out.before hs hb
  cases hf : failed hr with
  | true => simpa [hf] using h₁
  | false =>
      simp only [hf, Bool.false_eq_true, if_false] at h₁ ⊢
      rcases ht : h.invoke (.runTestCase ⟨a.fixture, i⟩
        (getTestFlagsFixtureExecutionAction h a s₁)) s₁ with ⟨hrTestCase, s₂⟩
      rcases ha : h.invoke (.after a.fixture (getTestFlagsFixtureExecutionAction h a s₂)) s₂
        with ⟨hrAfter, s₃⟩
      have h₃ := out.after (out.test h₁ ht) ha
      unfold resultOf at h₃
      cases hfa : failed hrAfter with
      | false => simpa [hfa] using h₃
      | true  => cases hft : failed hrTestCase <;> simpa [hfa, hft] using h₃

/-- **The loop.** It ends at the point before Teardown, or returns with the postcondition. -/
theorem testCases (out : Outline h a P Q) (rest : List TestCase) (hr : HRESULT)
    (hn : i + rest.length = a.fixture.testCases.length) (hs : out.loop i hr s) :
    match runTestCases h a rest i hr s with
    | (.finished fixtureShortCircuit hr', s') => out.stopped fixtureShortCircuit hr' s'
    | (.returned hr', s')                     => Q hr' s' := by
  induction rest generalizing i s hr with
  | nil =>
      simp only [runTestCases]
      rw [List.length_nil, Nat.add_zero] at hn
      subst hn
      exact out.leave hs
  | cons tc rest ih =>
      rw [List.length_cons] at hn
      have hlt : i < a.fixture.testCases.length := by omega
      have hn' : i + 1 + rest.length = a.fixture.testCases.length := by omega
      rw [runTestCases, TsexecAction.skips_eq]
      cases hsel : a.selects i with
      | false =>
          simp only [Bool.not_false, if_true]
          exact ih hr hn' (out.skip hlt hsel hs)
      | true =>
          simp only [Bool.not_true, Bool.false_eq_true, if_false]
          rcases ha : h.invoke (.beforeTestCaseStart h.threadId ⟨a.fixture, i⟩) s with ⟨hrStart, s₁⟩
          have h₁ := out.announce hlt hsel hs ha
          cases hf : failed hrStart with
          | true => simpa [hf] using h₁
          | false =>
              simp only [hf, Bool.false_eq_true, if_false] at h₁ ⊢
              have hended := out.testCase h₁
              rcases hx : runTestCaseFixtureExecutionAction h a ⟨a.fixture, i⟩ s₁ with ⟨hrCase, s₂⟩
              simp only [hx] at hended ⊢
              -- the three classes of results, as the loop tells them apart
              cases hrf : isRoutineFailure hrCase with
              | true =>
                  have hnext := out.finish hended (fatal_eq_false_of_isRoutineFailure hrf)
                  have hfail := failed_of_isRoutineFailure hrf
                  cases hflag : flagOn a.flags fixtureExecutionShortcircuitFixtureOnFailure with
                  | true =>
                      simp only [TsexecAction.stopsOn, TsexecAction.keeps, hfail, hrf, hflag] at hnext
                      cases hesc : flagOn a.flags fixtureExecutionEscalateFixtureFailues <;>
                        simpa [hesc] using hnext
                  | false =>
                      simp only [TsexecAction.stopsOn, TsexecAction.keeps, hfail, hrf, hflag] at hnext
                      simpa using ih sOk hn' (by simpa using hnext)
              | false =>
                  by_cases hab : hrCase = eTestrunAborted
                  · have hnext := out.finish hended (by simp [fatal, hab])
                    simp only [TsexecAction.stopsOn, TsexecAction.keeps, hab] at hnext
                    simpa [hab] using hnext
                  · cases hfail : failed hrCase with
                    | true =>
                        have hq := out.abandon hended (by simp [fatal, hfail, hrf, hab])
                        simpa [hab, hfail] using hq
                    | false =>
                        have hnext := out.finish hended (by simp [fatal, hfail])
                        simp only [TsexecAction.stopsOn, TsexecAction.keeps, hfail, hrf, Bool.false_and,
                          Bool.false_eq_true, if_false] at hnext
                        simpa [hab, hfail] using ih hrCase hn' hnext

/-- **The outline is sound**: a run from the precondition ends in the postcondition. -/
theorem run (out : Outline h a P Q) (hs : P s) :
    Q (runFixtureExecutionAction h a s).1 (runFixtureExecutionAction h a s).2 := by
  unfold runFixtureExecutionAction
  cases hv : h.isValidContext with
  | false => exact out.reject hs hv
  | true =>
      simp only [Bool.not_true, Bool.false_eq_true, if_false]
      rcases hb : h.invoke (.beforeFixtureStart h.threadId a.fixture) s with ⟨hr₁, s₁⟩
      have h₁ := out.start hs hv hb
      cases hf₁ : failed hr₁ with
      | true => simpa [hf₁] using h₁
      | false =>
          simp only [hf₁, Bool.false_eq_true, if_false] at h₁ ⊢
          rcases hset : h.invoke (.setup a.fixture (getTestFlagsFixtureExecutionAction h a s₁)) s₁
            with ⟨hr₂, s₂⟩
          have h₂ := out.setup h₁ hset
          cases hsr : (hr₂ == eSetupRoutineFailed || hr₂ == eTestrunAborted) with
          | true =>
              simp only [hsr, if_true] at h₂ ⊢
              exact out.close h₂
          | false =>
              simp only [hsr, Bool.false_eq_true, if_false] at h₂ ⊢
              cases hf₂ : failed hr₂ with
              | true => simpa [hf₂] using h₂
              | false =>
                  simp only [hf₂, Bool.false_eq_true, if_false] at h₂ ⊢
                  have h₃ := out.testCases a.fixture.testCases hr₂ (Nat.zero_add _) h₂
                  rcases hx : runTestCases h a a.fixture.testCases 0 hr₂ s₂ with ⟨exit, s₃⟩
                  rw [hx] at h₃
                  cases exit with
                  | returned hr => exact h₃
                  | finished fixtureShortCircuit hr =>
                      simp only at h₃ ⊢
                      rcases ht : h.invoke (.teardown a.fixture
                        (getTestFlagsFixtureExecutionAction h a s₃)) s₃ with ⟨hr₄, s₄⟩
                      have h₄ := out.teardown h₃ ht
                      cases hf₄ : failed hr₄ with
                      | true =>
                          simp only [hf₄, if_true] at h₄ ⊢
                          exact out.close h₄
                      | false =>
                          simp only [hf₄, Bool.false_eq_true, if_false] at h₄ ⊢
                          exact out.close h₄

end Outline

/-! ## Reached test cases -/

namespace Outcomes

variable (o : Outcomes) {a : TsexecAction} {i : Nat}

/-- A selected test case that stops the loop, when no earlier one does, is the last one that is reached. -/
theorem reached_of_stopsAt (hlt : i < a.fixture.testCases.length) (hsel : a.selects i = true)
    (hearlier : ∀ j < i, a.selects j = true → o.stopsAt a j = false) (hstop : o.stopsAt a i = true) :
    o.reached a = (List.range i).filter a.selects ++ [i] :=
  takeThrough_filter_range hlt hsel hearlier hstop

/-- Otherwise all selected test cases are reached. -/
theorem reached_of_not_stopsAt
    (hall : ∀ j < a.fixture.testCases.length, a.selects j = true → o.stopsAt a j = false) :
    o.reached a = a.selected := by
  refine takeThrough_eq_self ?_
  intro j hj
  simp only [TsexecAction.selected, List.mem_filter, List.mem_range] at hj
  exact hall j hj.1 hj.2

end Outcomes

end Cfix
