import Cfix.Fixture.Outcomes

/-!
# `Fixture.Follows` — runs of a fixture action that follow a table of outcomes

`Follows h o a s` says that the calls of the action on host `h`, made from `s`, get the codes of table `o`.
The run is then the closed form of the table (`Follows.spec`). A table's own host follows it, and every run
on every host follows some table (`Host.exists_follows`): what holds for all tables holds for all callees.
-/

namespace Cfix

open TakeThrough

variable {σ : Type}

/-! ## Following a table -/

section Follow

variable (h : Host σ) (o : Outcomes) (a : TsexecAction)

/-- The routines of test case `i`, called one after the other from `s`, return the codes of the table. -/
inductive FollowsTestCase (i : Nat) : Run σ → Prop where
  | intro {s s₁ s₂ s₃ : Run σ} :
      h.invoke (.before a.fixture (getTestFlagsFixtureExecutionAction h a s)) s = (o.before i, s₁) →
      h.invoke (.runTestCase ⟨a.fixture, i⟩ (getTestFlagsFixtureExecutionAction h a s₁)) s₁
        = (o.test i, s₂) →
      h.invoke (.after a.fixture (getTestFlagsFixtureExecutionAction h a s₂)) s₂ = (o.after i, s₃) →
      FollowsTestCase i s

/-- The state in which the loop goes on after test case `i`, which was started in `s`. -/
def Host.finishTestCase (i : Nat) (s : Run σ) : Run σ :=
  let (hr, s) := runTestCaseFixtureExecutionAction h a ⟨a.fixture, i⟩ s
  h.notify (.afterTestCaseFinish h.threadId ⟨a.fixture, i⟩ (succeeded hr)) s

/-- The turns of the loop from an index on get the codes of the table, as if none of them ended it. -/
inductive FollowsLoop : List TestCase → Nat → Run σ → Prop where
  | done {i : Nat} {s : Run σ} : FollowsLoop [] i s
  | skip {tc : TestCase} {rest : List TestCase} {i : Nat} {s : Run σ} :
      a.selects i = false → FollowsLoop rest (i + 1) s → FollowsLoop (tc :: rest) i s
  | turn {tc : TestCase} {rest : List TestCase} {i : Nat} {s s₁ : Run σ} : a.selects i = true →
      h.invoke (.beforeTestCaseStart h.threadId ⟨a.fixture, i⟩) s = (o.beforeTestCaseStart i, s₁) →
      FollowsTestCase h o a i s₁ → FollowsLoop rest (i + 1) (h.finishTestCase a i s₁) →
      FollowsLoop (tc :: rest) i s

/-- All calls of the action get the codes of the table. -/
inductive Follows : Run σ → Prop where
  | intro {s s₁ s₂ : Run σ} : h.isValidContext = o.isValidContext →
      h.invoke (.beforeFixtureStart h.threadId a.fixture) s = (o.beforeFixtureStart, s₁) →
      h.invoke (.setup a.fixture (getTestFlagsFixtureExecutionAction h a s₁)) s₁ = (o.setup, s₂) →
      FollowsLoop h o a a.fixture.testCases 0 s₂ →
      (∀ s₃, (runTestCases h a a.fixture.testCases 0 o.setup s₂).2 = s₃ →
        (h.invoke (.teardown a.fixture (getTestFlagsFixtureExecutionAction h a s₃)) s₃).1 = o.teardown) →
      Follows s

end Follow

variable {h : Host σ} {o : Outcomes} {a : TsexecAction} {s s' : Run σ} {i : Nat}

theorem Host.labels_invoke {c : Call} {hr : HRESULT} (hc : h.invoke c s = (hr, s')) :
    s'.labels = s.labels ++ [(c.label, hr)] := by
  cases hc
  simp [Run.labels]

@[simp] theorem Host.labels_notify (c : Call) : (h.notify c s).labels = s.labels ++ [(c.label, sOk)] := by
  simp [Run.labels, Host.notify]

/-! ## The closed form of a run -/

/-- What one test case does: its result, and the calls it adds. -/
theorem FollowsTestCase.spec (hf : FollowsTestCase h o a i s) :
    ∃ s', runTestCaseFixtureExecutionAction h a ⟨a.fixture, i⟩ s = (o.testCaseResult i, s') ∧
      s'.labels = s.labels ++ o.testCaseLabels a.fixture i := by
  obtain @⟨s₁, s₂, s₃, h₁, h₂, h₃⟩ := hf
  unfold runTestCaseFixtureExecutionAction Outcomes.testCaseResult Outcomes.testCaseLabels
  have hl₁ := Host.labels_invoke h₁
  have hl₂ := Host.labels_invoke h₂
  have hl₃ := Host.labels_invoke h₃
  simp only [Call.label] at hl₁ hl₂ hl₃
  cases hb : failed (o.before i) with
  | true => exact ⟨s₁, by simp [h₁, hb], by simp [hl₁]⟩
  | false =>
      simp only [h₁, h₂, h₃, hb, Bool.false_eq_true, if_false]
      cases ha : failed (o.after i) <;> cases ht : failed (o.test i) <;>
        exact ⟨s₃, rfl, by simp [hl₁, hl₂, hl₃]⟩

/-- **One turn of the loop** at a selected test case: it adds the calls of the turn, and either leaves the
    loop with the codes of this test case or goes on with a success code. -/
theorem FollowsTestCase.turn_spec {s₁ : Run σ} (htest : FollowsTestCase h o a i s₁)
    (hsel : a.selects i = true)
    (hstart : h.invoke (.beforeTestCaseStart h.threadId ⟨a.fixture, i⟩) s = (o.beforeTestCaseStart i, s₁))
    (tc : TestCase) (rest : List TestCase) (hr : HRESULT) :
    (o.stopsAt a i = true ∧ ∃ exit s', runTestCases h a (tc :: rest) i hr s = (exit, s') ∧
      s'.labels = s.labels ++ o.turn a i ∧ exit.isReturned = o.fatalAt i ∧
      failed exit.hr = o.escalatesAt a i) ∨
    (o.stopsAt a i = false ∧ o.fatalAt i = false ∧ o.escalatesAt a i = false ∧
      (h.finishTestCase a i s₁).labels = s.labels ++ o.turn a i ∧
      ∃ hr', failed hr' = false ∧ runTestCases h a (tc :: rest) i hr s
        = runTestCases h a rest (i + 1) hr' (h.finishTestCase a i s₁)) := by
  have hlab := Host.labels_invoke hstart
  obtain ⟨s₂, hx, hlab'⟩ := htest.spec
  simp only [Call.label] at hlab
  rw [hlab] at hlab'
  rw [runTestCases, TsexecAction.skips_eq, hsel]
  simp only [Bool.not_true, Bool.false_eq_true, if_false, hstart, Host.finishTestCase, hx]
  cases hcb : failed (o.beforeTestCaseStart i) with
  | true =>
      refine .inl ⟨by simp [Outcomes.stopsAt, hcb], _, s₁, rfl, ?_, ?_, ?_⟩
      · simp [hlab, Outcomes.turn, hcb]
      · simp [LoopExit.isReturned, Outcomes.fatalAt, hcb]
      · simp [LoopExit.hr, Outcomes.escalatesAt, hcb]
  | false =>
      cases hrf : isRoutineFailure (o.testCaseResult i) with
      | true =>
          have hf := failed_of_isRoutineFailure hrf
          have hnf := fatal_eq_false_of_isRoutineFailure hrf
          cases hfsf : flagOn a.flags fixtureExecutionShortcircuitFixtureOnFailure with
          | true =>
              refine .inl ⟨by simp [Outcomes.stopsAt, hcb, hf, hfsf], ?_⟩
              cases hesc : flagOn a.flags fixtureExecutionEscalateFixtureFailues <;>
                simp [hf, hlab', Outcomes.turn, Call.label, LoopExit.isReturned, LoopExit.hr,
                  Outcomes.fatalAt, Outcomes.escalatesAt, hcb, hnf, hrf, hfsf, hesc]
          | false =>
              refine .inr ⟨by simp [Outcomes.stopsAt, hcb, hrf, hfsf], by simp [Outcomes.fatalAt, hnf],
                by simp [Outcomes.escalatesAt, hcb, hrf, hfsf], ?_, sOk, failed_sOk, by simp⟩
              simp [hlab', Outcomes.turn, hcb, hnf, Call.label]
      | false =>
          by_cases hab : o.testCaseResult i = eTestrunAborted
          · have hnf : fatal (o.testCaseResult i) = false := by simp [fatal, hab]
            refine .inl ⟨by simp [Outcomes.stopsAt, hcb, hab], ?_⟩
            simp [hab, hlab', Outcomes.turn, Call.label, LoopExit.isReturned, LoopExit.hr,
              Outcomes.fatalAt, Outcomes.escalatesAt, hcb, fatal]
          · cases hf : failed (o.testCaseResult i) with
            | true =>
                have hft : fatal (o.testCaseResult i) = true := by simp [fatal, hf, hrf, hab]
                refine .inl ⟨by simp [Outcomes.stopsAt, hcb, hf, hrf], ?_⟩
                simp [hab, hlab', Outcomes.turn, LoopExit.isReturned, LoopExit.hr, Outcomes.fatalAt,
                  Outcomes.escalatesAt, hcb, hf, hft, hrf]
            | false =>
                have hnf : fatal (o.testCaseResult i) = false := by simp [fatal, hf]
                refine .inr ⟨by simp [Outcomes.stopsAt, hcb, hf], by simp [Outcomes.fatalAt, hnf],
                  by simp [Outcomes.escalatesAt, hcb, hf], ?_, _, hf, by simp [hab]⟩
                simp [hlab', Outcomes.turn, hcb, hnf, Call.label]

/-- **The loop.** It takes the turns of the test cases up to the first that stops it; it returns from the
    function iff one of them is fatal, and it leaves a failure code iff one of them escalates. -/
theorem FollowsLoop.spec {rest : List TestCase} {index : Nat} (hf : FollowsLoop h o a rest index s)
    {hr : HRESULT} (hhr : failed hr = false) :
    let r := takeThrough (o.stopsAt a) ((List.range' index rest.length).filter a.selects)
    let x := runTestCases h a rest index hr s
    x.2.labels = s.labels ++ r.flatMap (o.turn a) ∧ x.1.isReturned = r.any o.fatalAt ∧
      failed x.1.hr = r.any (o.escalatesAt a) := by
  induction hf generalizing hr with
  | done => simp [runTestCases, LoopExit.isReturned, LoopExit.hr, hhr]
  | skip hsel _ ih =>
      simp only [List.length_cons, List.range'_succ, List.filter_cons, hsel, runTestCases,
        TsexecAction.skips_eq]
      simpa using ih hhr
  | @turn tc rest _ _ _ hsel hstart htest _ ih =>
      simp only [List.length_cons, List.range'_succ, List.filter_cons, hsel, if_true]
      rcases htest.turn_spec hsel hstart tc rest hr with ⟨hst, exit, s', hrun, hlab, hret, hfail⟩ |
        ⟨hst, hnf, hne, hlab, hr', hhr', hrun⟩
      · simp [hrun, hlab, hret, hfail, takeThrough_cons_pos hst]
      · obtain ⟨h₁, h₂, h₃⟩ := ih hhr'
        rw [takeThrough_cons_neg hst, hrun, h₁, h₂, h₃, hlab]
        simp [hnf, hne]

/-- The loop of the whole fixture visits the reached test cases. -/
theorem FollowsLoop.fixture_spec (hf : FollowsLoop h o a a.fixture.testCases 0 s) {hr : HRESULT}
    (hhr : failed hr = false) :
    let x := runTestCases h a a.fixture.testCases 0 hr s
    x.2.labels = s.labels ++ (o.reached a).flatMap (o.turn a) ∧
      x.1.isReturned = (o.reached a).any o.fatalAt ∧ failed x.1.hr = (o.reached a).any (o.escalatesAt a) := by
  have hspec := hf.spec hhr
  rw [← List.range_eq_range'] at hspec
  exact hspec

/-- **The run in closed form**: its calls, and whether it fails. -/
theorem Follows.spec (hf : Follows h o a s) :
    (runFixtureExecutionAction h a s).2.labels = s.labels ++ o.fixtureLabels a ∧
      failed (runFixtureExecutionAction h a s).1 = o.fixtureFails a := by
  obtain @⟨s₁, s₂, hvc, hbfs, hsetup, hloop, htd⟩ := hf
  have hl₁ := Host.labels_invoke hbfs
  have hl₂ := Host.labels_invoke hsetup
  simp only [Call.label] at hl₁ hl₂
  unfold runFixtureExecutionAction Outcomes.fixtureLabels Outcomes.fixtureFails
  rw [hvc]
  cases hv : o.isValidContext with
  | false => simp
  | true =>
      simp only [Bool.not_true, Bool.false_eq_true, if_false, hbfs, hsetup]
      cases hb : failed o.beforeFixtureStart with
      | true => simp [hb, hl₁]
      | false =>
          simp only [Bool.false_eq_true, if_false]
          cases hsr : (o.setup == eSetupRoutineFailed || o.setup == eTestrunAborted) with
          | true =>
              refine ⟨by simp [hl₁, hl₂, Call.label], ?_⟩
              cases hro : flagOn a.flags fixtureExecutionShortcircuitRunOnSetupFailure with
              | false => simp
              | true =>
                  simp only [Bool.or_eq_true, beq_iff_eq] at hsr
                  rcases hsr with hsr | hsr <;> simp [hsr]
          | false =>
              cases hsf : failed o.setup with
              | true => simp [hl₁, hl₂, hsf]
              | false =>
                  obtain ⟨hl₃, hret, hfail⟩ := hloop.fixture_spec hsf
                  have hcode := htd _ rfl
                  rcases hx₃ : runTestCases h a a.fixture.testCases 0 o.setup s₂ with ⟨exit, s₃⟩
                  simp only [hx₃, hl₂, hl₁] at hl₃ hret hfail hcode
                  cases exit with
                  | returned hr =>
                      have hany : (o.reached a).any o.fatalAt = true := hret.symm
                      have hesc := o.any_escalatesAt_of_any_fatalAt a hany
                      have hhr : failed hr = true := hfail.trans hesc
                      simp [hl₃, hany, hesc, hhr]
                  | finished fixtureShortCircuit hr =>
                      have hany : (o.reached a).any o.fatalAt = false := hret.symm
                      have hhr : failed hr = (o.reached a).any (o.escalatesAt a) := hfail
                      obtain ⟨s₄, hx₄⟩ : ∃ s₄, h.invoke (.teardown a.fixture
                          (getTestFlagsFixtureExecutionAction h a s₃)) s₃ = (o.teardown, s₄) :=
                        ⟨_, Prod.ext hcode rfl⟩
                      have hl₄ := Host.labels_invoke hx₄
                      simp only [Call.label] at hl₄
                      simp only [hx₄]
                      cases htd : failed o.teardown with
                      | false => simp [hl₃, hl₄, hhr, hany, Call.label]
                      | true =>
                          cases hesc : flagOn a.flags fixtureExecutionEscalateFixtureFailues <;>
                            simp [hl₃, hl₄, hhr, hany, htd, Call.label]

/-! ## The table's own host -/

theorem Outcomes.followsTestCase (o : Outcomes) (a : TsexecAction) {s : Run TableEnv} (hs : s.env.index = i) :
    FollowsTestCase o.host o a i s := by
  subst hs
  exact .intro rfl rfl rfl

theorem Outcomes.followsLoop (o : Outcomes) (a : TsexecAction) (rest : List TestCase) (index : Nat)
    (s : Run TableEnv) : FollowsLoop o.host o a rest index s := by
  induction rest generalizing index s with
  | nil => exact .done
  | cons tc rest ih =>
      cases hsel : a.selects index with
      | false => exact .skip hsel (ih (index + 1) s)
      | true  => exact .turn hsel rfl (o.followsTestCase a rfl) (ih (index + 1) _)

/-- The host of a table follows it. -/
theorem Outcomes.follows (o : Outcomes) (a : TsexecAction) (s : Run TableEnv) : Follows o.host o a s := by
  refine .intro rfl rfl rfl (o.followsLoop a _ _ _) ?_
  intro s₃ _
  rfl

theorem Outcomes.action_spec (o : Outcomes) (a : TsexecAction) (s : Run TableEnv) :
    (o.action a s).2.labels = s.labels ++ o.fixtureLabels a ∧
      failed (o.action a s).1 = o.fixtureFails a :=
  (o.follows a s).spec

/-- The run from the start. -/
theorem Outcomes.run_spec (o : Outcomes) (a : TsexecAction) :
    (o.run a).2.labels = o.fixtureLabels a ∧ failed (o.run a).1 = o.fixtureFails a := by
  simpa [Outcomes.run] using o.action_spec a .start

/-! ## Every host follows a table -/

/-- The codes of test case `i` are the same in both tables. -/
structure Outcomes.AgreesAt (o o' : Outcomes) (i : Nat) : Prop where
  start  : o'.beforeTestCaseStart i = o.beforeTestCaseStart i
  before : o'.before i = o.before i
  test   : o'.test i = o.test i
  after  : o'.after i = o.after i

/-- The table with new codes for test case `i`. -/
def Outcomes.setTestCase (o : Outcomes) (i : Nat) (start before test after : HRESULT) : Outcomes :=
  { o with
    beforeTestCaseStart := Function.update o.beforeTestCaseStart i start
    before              := Function.update o.before i before
    test                := Function.update o.test i test
    after               := Function.update o.after i after }

theorem Outcomes.agreesAt_setTestCase {j : Nat} (hne : j ≠ i) (start before test after : HRESULT) :
    o.AgreesAt (o.setTestCase i start before test after) j :=
  ⟨Function.update_of_ne hne _ _, Function.update_of_ne hne _ _, Function.update_of_ne hne _ _,
    Function.update_of_ne hne _ _⟩

theorem Outcomes.setTestCase_self (o : Outcomes) (i : Nat) (start before test after : HRESULT) :
    (o.setTestCase i start before test after).beforeTestCaseStart i = start ∧
      (o.setTestCase i start before test after).before i = before ∧
      (o.setTestCase i start before test after).test i = test ∧
      (o.setTestCase i start before test after).after i = after :=
  ⟨Function.update_self .., Function.update_self .., Function.update_self .., Function.update_self ..⟩

theorem FollowsTestCase.congr {o' : Outcomes} (hf : FollowsTestCase h o a i s) (hagree : o.AgreesAt o' i) :
    FollowsTestCase h o' a i s := by
  obtain ⟨h₁, h₂, h₃⟩ := hf
  rw [← hagree.before] at h₁
  rw [← hagree.test] at h₂
  rw [← hagree.after] at h₃
  exact .intro h₁ h₂ h₃

/-- The loop does not look at the test cases before its index. -/
theorem FollowsLoop.congr {o' : Outcomes} {rest : List TestCase} {index : Nat}
    (hf : FollowsLoop h o a rest index s) (hagree : ∀ j, index ≤ j → o.AgreesAt o' j) :
    FollowsLoop h o' a rest index s := by
  induction hf with
  | done => exact .done
  | skip hsel _ ih => exact .skip hsel (ih (fun j hj => hagree j (by omega)))
  | @turn tc rest i s s₁ hsel hstart htest _ ih =>
      have hi := hagree i (Nat.le_refl i)
      rw [← hi.start] at hstart
      exact .turn hsel hstart (htest.congr hi) (ih (fun j hj => hagree j (by omega)))

theorem Host.exists_followsLoop (h : Host σ) (a : TsexecAction) (rest : List TestCase) (index : Nat)
    (s : Run σ) : ∃ o, FollowsLoop h o a rest index s := by
  induction rest generalizing index s with
  | nil => exact ⟨.allOk, .done⟩
  | cons tc rest ih =>
      cases hsel : a.selects index with
      | false =>
          obtain ⟨o, ho⟩ := ih (index + 1) s
          exact ⟨o, .skip hsel ho⟩
      | true =>
          -- the table of the later turns, with the codes of this one
          rcases h₀ : h.invoke (.beforeTestCaseStart h.threadId ⟨a.fixture, index⟩) s with ⟨start, s₁⟩
          rcases h₁ : h.invoke (.before a.fixture (getTestFlagsFixtureExecutionAction h a s₁)) s₁
            with ⟨before, s₂⟩
          rcases h₂ : h.invoke (.runTestCase ⟨a.fixture, index⟩
            (getTestFlagsFixtureExecutionAction h a s₂)) s₂ with ⟨test, s₃⟩
          rcases h₃ : h.invoke (.after a.fixture (getTestFlagsFixtureExecutionAction h a s₃)) s₃
            with ⟨after, s₄⟩
          obtain ⟨o, ho⟩ := ih (index + 1) (h.finishTestCase a index s₁)
          obtain ⟨e₀, e₁, e₂, e₃⟩ := o.setTestCase_self index start before test after
          rw [← e₀] at h₀
          rw [← e₁] at h₁
          rw [← e₂] at h₂
          rw [← e₃] at h₃
          exact ⟨_, .turn hsel h₀ (.intro h₁ h₂ h₃)
            (ho.congr (fun j hj => Outcomes.agreesAt_setTestCase (by omega) ..))⟩

/-- **Every run on every host follows a table.** -/
theorem Host.exists_follows (h : Host σ) (a : TsexecAction) (s : Run σ) : ∃ o, Follows h o a s := by
  rcases h₁ : h.invoke (.beforeFixtureStart h.threadId a.fixture) s with ⟨start, s₁⟩
  rcases h₂ : h.invoke (.setup a.fixture (getTestFlagsFixtureExecutionAction h a s₁)) s₁ with ⟨setup, s₂⟩
  obtain ⟨o, ho⟩ := h.exists_followsLoop a a.fixture.testCases 0 s₂
  let s₃ := (runTestCases h a a.fixture.testCases 0 setup s₂).2
  let o' : Outcomes :=
    { o with
      isValidContext     := h.isValidContext
      beforeFixtureStart := start
      setup              := setup
      teardown           := (h.invoke (.teardown a.fixture (getTestFlagsFixtureExecutionAction h a s₃)) s₃).1 }
  refine ⟨o', .intro rfl h₁ h₂ (ho.congr (fun _ _ => ⟨rfl, rfl, rfl, rfl⟩)) ?_⟩
  rintro _ rfl
  rfl

/-- **Tables are all there is**: the calls that the action makes on any host, with their codes, and whether
    it fails, are those of the run against some table. -/
theorem Host.exists_run (h : Host σ) (a : TsexecAction) (s : Run σ) :
    ∃ o : Outcomes, (runFixtureExecutionAction h a s).2.labels = s.labels ++ (o.run a).2.labels ∧
      failed (runFixtureExecutionAction h a s).1 = failed (o.run a).1 := by
  obtain ⟨o, ho⟩ := h.exists_follows a s
  obtain ⟨hlabels, hfails⟩ := ho.spec
  obtain ⟨hlabels', hfails'⟩ := o.run_spec a
  exact ⟨o, by rw [hlabels, hlabels'], by rw [hfails, hfails']⟩

end Cfix
