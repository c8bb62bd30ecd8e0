import Cfix.Fixture.Outcomes
import Cfix.Fixture.Sequence

/-!
# `Fixture.Simulation` — two runs of fixture actions in step

A fixture action makes its calls in an order that depends on its own fields and on the codes of the calls only. Two
hosts whose calls return the same codes and keep a relation between the runs therefore run the fixture in the same
way, whatever their states are. `Simulation` has one field for each kind of call, and `Simulation.run` is the rule.
-/

namespace Cfix

variable {σ σ' : Type}

/-- The same result, and runs that are related for it. -/
def Sync {α : Type} (R : α → Run σ → Run σ' → Prop) (x : α × Run σ) (x' : α × Run σ') : Prop :=
  x.1 = x'.1 ∧ R x.1 x.2 x'.2

theorem Sync.elim {α : Type} {R : α → Run σ → Run σ' → Prop} {x : α × Run σ} {x' : α × Run σ'} (h : Sync R x x') :
    ∃ r s s', x = (r, s) ∧ x' = (r, s') ∧ R r s s' := by
  obtain ⟨r, s⟩ := x
  obtain ⟨r', s'⟩ := x'
  obtain ⟨hr, hs⟩ := h
  simp only at hr hs
  exact ⟨r, s, s', rfl, by rw [hr], hs⟩

/-- The calls of the two actions correspond: `P` relates the runs before the fixture, `R` while it is run, and `Q`
    at the end. The flags of the routine runners do not matter. -/
structure Simulation (h : Host σ) (a : TsexecAction) (h' : Host σ') (a' : TsexecAction)
    (P R Q : Run σ → Run σ' → Prop) : Prop where
  valid    : h.isValidContext = h'.isValidContext
  flags    : a.flags = a'.flags
  index    : a.testCaseIndex = a'.testCaseIndex
  length   : a.fixture.testCases.length = a'.fixture.testCases.length
  reject   : ∀ {s s'}, P s s' → Q s s'
  start    : ∀ {s s'}, P s s' →
    Sync (fun hr s s' => if failed hr then Q s s' else R s s')
      (h.invoke (.beforeFixtureStart h.threadId a.fixture) s)
      (h'.invoke (.beforeFixtureStart h'.threadId a'.fixture) s')
  setup    : ∀ {s s'} (f f' : BitVec 32), R s s' →
    Sync (fun _ => R) (h.invoke (.setup a.fixture f) s) (h'.invoke (.setup a'.fixture f') s')
  announce : ∀ {s s'} (i : Nat), R s s' →
    Sync (fun _ => R) (h.invoke (.beforeTestCaseStart h.threadId ⟨a.fixture, i⟩) s)
      (h'.invoke (.beforeTestCaseStart h'.threadId ⟨a'.fixture, i⟩) s')
  before   : ∀ {s s'} (f f' : BitVec 32), R s s' →
    Sync (fun _ => R) (h.invoke (.before a.fixture f) s) (h'.invoke (.before a'.fixture f') s')
  test     : ∀ {s s'} (i : Nat) (f f' : BitVec 32), i < a.fixture.testCases.length → R s s' →
    Sync (fun _ => R) (h.invoke (.runTestCase ⟨a.fixture, i⟩ f) s) (h'.invoke (.runTestCase ⟨a'.fixture, i⟩ f') s')
  after    : ∀ {s s'} (f f' : BitVec 32), R s s' →
    Sync (fun _ => R) (h.invoke (.after a.fixture f) s) (h'.invoke (.after a'.fixture f') s')
  finish   : ∀ {s s'} (i : Nat) (ran : Bool), R s s' →
    R (h.notify (.afterTestCaseFinish h.threadId ⟨a.fixture, i⟩ ran) s)
      (h'.notify (.afterTestCaseFinish h'.threadId ⟨a'.fixture, i⟩ ran) s')
  teardown : ∀ {s s'} (f f' : BitVec 32), R s s' →
    Sync (fun _ => R) (h.invoke (.teardown a.fixture f) s) (h'.invoke (.teardown a'.fixture f') s')
  abandon  : ∀ {s s'}, R s s' → Q s s'
  close    : ∀ {s s'} (ran : Bool), R s s' →
    Q (h.notify (.afterFixtureFinish h.threadId a.fixture ran) s)
      (h'.notify (.afterFixtureFinish h'.threadId a'.fixture ran) s')

namespace Simulation

variable {h : Host σ} {a : TsexecAction} {h' : Host σ'} {a' : TsexecAction} {P R Q : Run σ → Run σ' → Prop}
  {s : Run σ} {s' : Run σ'} {i : Nat}

/-- The routines of one test case. -/
theorem testCase (sim : Simulation h a h' a' P R Q) (hi : i < a.fixture.testCases.length) (hs : R s s') :
    Sync (fun _ => R) (runTestCaseFixtureExecutionAction h a ⟨a.fixture, i⟩ s)
      (runTestCaseFixtureExecutionAction h' a' ⟨a'.fixture, i⟩ s') := by
  simp only [runTestCaseFixtureExecutionAction]
  obtain ⟨hr₁, s₁, s₁', hx₁, hx₁', hs₁⟩ := (sim.before (getTestFlagsFixtureExecutionAction h a s)
    (getTestFlagsFixtureExecutionAction h' a' s') hs).elim
  simp only [hx₁, hx₁']
  cases hf₁ : failed hr₁ with
  | true  => exact ⟨rfl, hs₁⟩
  | false =>
      obtain ⟨hr₂, s₂, s₂', hx₂, hx₂', hs₂⟩ := (sim.test i (getTestFlagsFixtureExecutionAction h a s₁)
        (getTestFlagsFixtureExecutionAction h' a' s₁') hi hs₁).elim
      obtain ⟨hr₃, s₃, s₃', hx₃, hx₃', hs₃⟩ := (sim.after (getTestFlagsFixtureExecutionAction h a s₂)
        (getTestFlagsFixtureExecutionAction h' a' s₂') hs₂).elim
      simp only [Bool.false_eq_true, if_false, hx₂, hx₂', hx₃, hx₃']
      cases failed hr₃ <;> cases failed hr₂ <;> exact ⟨rfl, hs₃⟩

/-- **The loops**, over test cases that are the same in number: they end in the same way, on the way to Teardown or
    for good. -/
theorem testCases (sim : Simulation h a h' a' P R Q) {rest rest' : List TestCase}
    (hrest : rest.length = rest'.length) (hn : i + rest.length = a.fixture.testCases.length) (hr : HRESULT)
    (hs : R s s') :
    Sync (fun exit s s' => if exit.isReturned then Q s s' else R s s') (runTestCases h a rest i hr s)
      (runTestCases h' a' rest' i hr s') := by
  induction rest generalizing rest' i hr s s' with
  | nil =>
      cases rest' with
      | nil => exact ⟨rfl, hs⟩
      | cons tc' rest' => exact absurd hrest (by simp)
  | cons tc rest ih =>
      cases rest' with
      | nil => exact absurd hrest (by simp)
      | cons tc' rest' =>
          rw [List.length_cons, List.length_cons, Nat.add_right_cancel_iff] at hrest
          rw [List.length_cons] at hn
          have hn' : i + 1 + rest.length = a.fixture.testCases.length := by omega
          have hi : i < a.fixture.testCases.length := by omega
          rw [runTestCases, runTestCases, ← sim.index]
          cases (a.testCaseIndex.isSome && a.testCaseIndex != some i) with
          | true  => exact ih hrest hn' hr hs
          | false =>
              obtain ⟨hr₁, s₁, s₁', hx₁, hx₁', hs₁⟩ := (sim.announce i hs).elim
              simp only [Bool.false_eq_true, if_false, hx₁, hx₁']
              cases failed hr₁ with
              | true  => exact ⟨rfl, hs₁⟩
              | false =>
                  obtain ⟨hr₂, s₂, s₂', hx₂, hx₂', hs₂⟩ := (sim.testCase hi hs₁).elim
                  have hs₃ := sim.finish i (succeeded hr₂) hs₂
                  simp only [Bool.false_eq_true, if_false, hx₂, hx₂', ← sim.flags]
                  -- the branches of the loop depend on the code and on the flags of the action
                  cases isRoutineFailure hr₂ with
                  | true  =>
                      cases flagOn a.flags fixtureExecutionShortcircuitFixtureOnFailure with
                      | true  =>
                          cases flagOn a.flags fixtureExecutionEscalateFixtureFailues <;> exact ⟨rfl, hs₃⟩
                      | false => exact ih hrest hn' sOk hs₃
                  | false =>
                      cases hr₂ == eTestrunAborted with
                      | true  => exact ⟨rfl, hs₃⟩
                      | false =>
                          cases failed hr₂ with
                          | true  => exact ⟨rfl, sim.abandon hs₂⟩
                          | false => exact ih hrest hn' hr₂ hs₃

/-- **The rule**: the actions return the same code, and the runs are related at the end. -/
theorem run (sim : Simulation h a h' a' P R Q) (hs : P s s') :
    Sync (fun _ => Q) (runFixtureExecutionAction h a s) (runFixtureExecutionAction h' a' s') := by
  unfold runFixtureExecutionAction
  rw [← sim.valid]
  cases h.isValidContext with
  | false => exact ⟨rfl, sim.reject hs⟩
  | true  =>
      obtain ⟨hr₁, s₁, s₁', hx₁, hx₁', hs₁⟩ := (sim.start hs).elim
      simp only [Bool.not_true, Bool.false_eq_true, if_false, hx₁, hx₁']
      cases hf₁ : failed hr₁ with
      | true  =>
          rw [hf₁, if_pos rfl] at hs₁
          exact ⟨rfl, hs₁⟩
      | false =>
          rw [hf₁, if_neg Bool.false_ne_true] at hs₁
          obtain ⟨hr₂, s₂, s₂', hx₂, hx₂', hs₂⟩ := (sim.setup (getTestFlagsFixtureExecutionAction h a s₁)
            (getTestFlagsFixtureExecutionAction h' a' s₁') hs₁).elim
          simp only [Bool.false_eq_true, if_false, hx₂, hx₂', ← sim.flags]
          cases (hr₂ == eSetupRoutineFailed || hr₂ == eTestrunAborted) with
          | true  => exact ⟨rfl, sim.close false hs₂⟩
          | false =>
              cases failed hr₂ with
              | true  => exact ⟨rfl, sim.abandon hs₂⟩
              | false =>
                  obtain ⟨exit, s₃, s₃', hx₃, hx₃', hs₃⟩ :=
                    (sim.testCases sim.length (Nat.zero_add _) hr₂ hs₂).elim
                  simp only [Bool.false_eq_true, if_false, hx₃, hx₃']
                  cases exit with
                  | returned hr₃                     => exact ⟨rfl, hs₃⟩
                  | finished fixtureShortCircuit hr₃ =>
                      obtain ⟨hr₄, s₄, s₄', hx₄, hx₄', hs₄⟩ :=
                        (sim.teardown (getTestFlagsFixtureExecutionAction h a s₃)
                          (getTestFlagsFixtureExecutionAction h' a' s₃') hs₃).elim
                      simp only [hx₄, hx₄']
                      cases failed hr₄ with
                      | true  => exact ⟨rfl, sim.close false hs₄⟩
                      | false => exact ⟨rfl, sim.close (!fixtureShortCircuit) hs₄⟩

end Simulation

/-! ## Sequences -/

/-- Sequences of actions that return the same codes from related states stop at the same place. -/
theorem runActions_rel {S : σ → σ' → Prop} {fs : List (σ → HRESULT × σ)} {fs' : List (σ' → HRESULT × σ')}
    (h : List.Forall₂ (fun f f' => ∀ s s', S s s' → (f s).1 = (f' s').1 ∧ S (f s).2 (f' s').2) fs fs')
    (hr : HRESULT) {s : σ} {s' : σ'} (hs : S s s') :
    (runActions fs hr s).1 = (runActions fs' hr s').1 ∧ S (runActions fs hr s).2 (runActions fs' hr s').2 := by
  induction h generalizing hr s s' with
  | nil => exact ⟨rfl, hs⟩
  | @cons f f' fs fs' hstep _ ih =>
      obtain ⟨hcode, hnext⟩ := hstep s s' hs
      simp only [runActions, ← hcode]
      cases failed (f s).1 with
      | true  => exact ⟨rfl, hnext⟩
      | false => exact ih (f s).1 hnext

/-- The same for sequence actions. -/
theorem runSequenceAction_rel {S : σ → σ' → Prop} {fs : List (σ → HRESULT × σ)} {fs' : List (σ' → HRESULT × σ')}
    (h : List.Forall₂ (fun f f' => ∀ s s', S s s' → (f s).1 = (f' s').1 ∧ S (f s).2 (f' s').2) fs fs')
    (isValidContext malloc : Bool) (s : σ) (s' : σ') (hs : S s s') :
    let x := runSequenceAction isValidContext malloc fs s
    let x' := runSequenceAction isValidContext malloc fs' s'
    x.1 = x'.1 ∧ S x.2 x'.2 := by
  have hempty : fs.isEmpty = fs'.isEmpty := by cases h <;> rfl
  simp only [runSequenceAction, ← hempty]
  cases isValidContext with
  | false => exact ⟨rfl, hs⟩
  | true  =>
      cases fs.isEmpty with
      | true  => exact ⟨rfl, hs⟩
      | false =>
          cases malloc with
          | false => exact ⟨rfl, hs⟩
          | true  => exact runActions_rel h sOk hs

end Cfix
