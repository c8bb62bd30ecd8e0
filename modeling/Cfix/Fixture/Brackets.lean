import Cfix.Fixture.Follows
import Cfix.Lib.Bracket

/-!
# `Fixture.Brackets` — the execution context's callbacks as brackets

A `Before*` callback that succeeds opens a bracket, an `After*` callback closes one, labelled by the fixture
or the test case. The brackets of a run are properly nested exactly when neither Setup nor a test case
fails fatally: after a fatal failure the function returns without the closing callbacks.
-/

namespace Cfix

open Bracket TakeThrough

/-! ## Brackets of a run -/

/-- What a bracket belongs to. -/
inductive Scope where
  | fixture  (fixture : Fixture)
  | testCase (testCase : TestCaseRef)
  deriving DecidableEq, Repr

/-- The bracket of a call. A failed `Before*` callback opens nothing. -/
def bracketOf : Labelled → List (Tok Scope)
  | (.beforeFixtureStart f, hr)   => if failed hr then [] else [.opn (.fixture f)]
  | (.beforeTestCaseStart tc, hr) => if failed hr then [] else [.opn (.testCase tc)]
  | (.afterTestCaseFinish tc, _)  => [.cls (.testCase tc)]
  | (.afterFixtureFinish f, _)    => [.cls (.fixture f)]
  | (.setup, _) | (.before, _) | (.test _, _) | (.after, _) | (.teardown, _) => []

variable (o : Outcomes) (a : TsexecAction)

def Outcomes.brackets : List (Tok Scope) := (o.run a).2.labels.flatMap bracketOf

/-- Setup fails with a code that the action does not expect. -/
def Outcomes.setupFatal : Bool :=
  failed o.setup && o.setup != eSetupRoutineFailed && o.setup != eTestrunAborted

/-- The brackets of one turn: the test case, left open by a fatal failure. -/
def Outcomes.turnBrackets (i : Nat) : List (Tok Scope) :=
  if failed (o.beforeTestCaseStart i) then []
  else .opn (.testCase ⟨a.fixture, i⟩) ::
    if fatal (o.testCaseResult i) then [] else [.cls (.testCase ⟨a.fixture, i⟩)]

theorem flatMap_turn (i : Nat) : (o.turn a i).flatMap bracketOf = o.turnBrackets a i := by
  unfold Outcomes.turn Outcomes.turnBrackets Outcomes.testCaseLabels
  cases hcb : failed (o.beforeTestCaseStart i) with
  | true => simp [bracketOf, hcb]
  | false =>
      cases hb : failed (o.before i) <;> cases hf : fatal (o.testCaseResult i) <;> simp [bracketOf, hcb]

/-- The brackets of a run that is not opened, and of one that is. -/
theorem brackets_eq :
    o.brackets a =
      if !o.opens then []
      else .opn (.fixture a.fixture) ::
        if o.setupFatal then []
        else if failed o.setup then [.cls (.fixture a.fixture)]
        else (o.reached a).flatMap (o.turnBrackets a) ++
          if (o.reached a).any o.fatalAt then [] else [.cls (.fixture a.fixture)] := by
  rw [Outcomes.brackets, (o.run_spec a).1]
  unfold Outcomes.fixtureLabels Outcomes.opens Outcomes.setupFatal
  cases hv : o.isValidContext with
  | false => simp
  | true =>
      cases hb : failed o.beforeFixtureStart with
      | true => simp [hb, bracketOf]
      | false =>
          by_cases h₁ : o.setup = eSetupRoutineFailed
          · simp [hb, h₁, bracketOf]
          · by_cases h₂ : o.setup = eTestrunAborted
            · simp [hb, h₂, bracketOf]
            · cases hs : failed o.setup with
              | true => simp [hb, h₁, h₂, bracketOf]
              | false =>
                  cases hany : (o.reached a).any o.fatalAt <;>
                    simp [hb, h₁, h₂, bracketOf, List.flatMap_assoc, flatMap_turn]

/-! ## When the brackets are nested -/

theorem nested_turnBrackets {i : Nat} (h : o.fatalAt i = false) : Nested (o.turnBrackets a i) := by
  unfold Outcomes.turnBrackets
  cases hcb : failed (o.beforeTestCaseStart i) with
  | true => exact .nil
  | false =>
      have hf : fatal (o.testCaseResult i) = false := by simpa [Outcomes.fatalAt, hcb] using h
      simpa [hf] using Nested.wrap (Scope.testCase ⟨a.fixture, i⟩) .nil

/-- The test cases never close the fixture. -/
theorem count_cls_turns (l : List Nat) (f : Fixture) :
    (l.flatMap (o.turnBrackets a)).count (.cls (.fixture f)) = 0 := by
  rw [List.count_eq_zero]
  simp only [List.mem_flatMap, not_exists, not_and]
  intro i _
  unfold Outcomes.turnBrackets
  cases hcb : failed (o.beforeTestCaseStart i) <;> cases hf : fatal (o.testCaseResult i) <;> simp

/-- A test case opens and closes nothing but itself. -/
theorem testCase_of_mem_turn {i : Nat} {t : Tok Scope} (h : t ∈ o.turnBrackets a i) :
    t = .opn (.testCase ⟨a.fixture, i⟩) ∨ t = .cls (.testCase ⟨a.fixture, i⟩) := by
  unfold Outcomes.turnBrackets at h
  cases hcb : failed (o.beforeTestCaseStart i) <;> cases hf : fatal (o.testCaseResult i) <;> simp_all

/-- There are no brackets, or the bracket of the fixture is around those of its test cases. -/
def InFixture (f : Fixture) (w : List (Tok Scope)) : Prop :=
  w = [] ∨ ∃ u, w = .opn (.fixture f) :: u ++ [.cls (.fixture f)] ∧ Nested u ∧
    ∀ t ∈ u, ∃ i, t = .opn (.testCase ⟨f, i⟩) ∨ t = .cls (.testCase ⟨f, i⟩)

theorem InFixture.nested {f : Fixture} {w : List (Tok Scope)} (h : InFixture f w) : Nested w := by
  obtain rfl | ⟨u, rfl, hu, -⟩ := h
  · exact .nil
  · exact hu.wrap (.fixture f)

/-- Without a fatal failure every bracket is closed, and those of the test cases inside of the fixture's. -/
theorem inFixture_of_not_fatal (hs : o.opens = true → o.setupFatal = false)
    (ht : o.opens = true → failed o.setup = false → ∀ i ∈ o.reached a, o.fatalAt i = false) :
    InFixture a.fixture (o.brackets a) := by
  rw [brackets_eq]
  cases hop : o.opens with
  | false => exact .inl rfl
  | true =>
      right
      simp only [Bool.not_true, Bool.false_eq_true, if_false, hs hop]
      cases hf : failed o.setup with
      | true => exact ⟨[], rfl, .nil, fun _ h => absurd h List.not_mem_nil⟩
      | false =>
          have hreached := ht hop hf
          have hany : (o.reached a).any o.fatalAt = false := by
            simpa [List.any_eq_false] using hreached
          refine ⟨(o.reached a).flatMap (o.turnBrackets a), by simp [hany], ?_, ?_⟩
          · exact .flatMap (fun i hi => nested_turnBrackets o a (hreached i hi))
          · intro t hmem
            obtain ⟨i, -, hi⟩ := List.mem_flatMap.mp hmem
            exact ⟨i, testCase_of_mem_turn o a hi⟩

/-- A fatal failure leaves the fixture's bracket open. -/
theorem not_nested_of_fatal (hop : o.opens = true)
    (h : o.setupFatal = true ∨ failed o.setup = false ∧ (o.reached a).any o.fatalAt = true) :
    ¬ Nested (o.brackets a) := by
  intro hn
  have hcount := hn.count_eq (.fixture a.fixture)
  rw [brackets_eq] at hcount
  rcases h with hs | ⟨hf, hany⟩
  · simp [hop, hs] at hcount
  · have hs : o.setupFatal = false := by simp [Outcomes.setupFatal, hf]
    simp only [hop, hs, hf, hany, Bool.not_true, Bool.false_eq_true, if_false, if_true, List.append_nil,
      List.count_cons_self, List.count_cons, count_cls_turns] at hcount
    simp at hcount

/-- **The brackets of a run are nested iff neither Setup nor a reached test case fails fatally**; and if they are
    nested, those of the test cases are inside of the fixture's. -/
theorem nested_brackets_iff :
    (Nested (o.brackets a) ↔
      (o.opens = true → o.setupFatal = false ∧
        (failed o.setup = false → ∀ i ∈ o.reached a, o.fatalAt i = false))) ∧
      (Nested (o.brackets a) → InFixture a.fixture (o.brackets a)) := by
  have hfatal (hn : Nested (o.brackets a)) (hop : o.opens = true) : o.setupFatal = false ∧
      (failed o.setup = false → ∀ i ∈ o.reached a, o.fatalAt i = false) := by
    by_contra hc
    refine not_nested_of_fatal o a hop ?_ hn
    cases hs : o.setupFatal with
    | true => exact .inl rfl
    | false =>
        rw [hs] at hc
        simp only [true_and, Classical.not_imp, not_forall] at hc
        obtain ⟨hf, i, hi, hfat⟩ := hc
        exact .inr ⟨hf, List.any_eq_true.mpr ⟨i, hi, by simpa using hfat⟩⟩
  refine ⟨⟨hfatal, fun h => ?_⟩, fun hn => ?_⟩
  · exact (inFixture_of_not_fatal o a (fun hop => (h hop).1) (fun hop => (h hop).2)).nested
  · exact inFixture_of_not_fatal o a (fun hop => (hfatal hn hop).1) (fun hop => (hfatal hn hop).2)

/-- A kernel-mode test routine that cannot be called leaves its test case and its fixture open. -/
theorem brackets_left_open :
    ¬ Nested (Outcomes.brackets { Outcomes.allOk with test := fun _ => eOutofmemory } (twoTestCases 0#32)) :=
  not_nested_of_fatal _ _ (by decide) (.inr ⟨by decide, by decide⟩)

end Cfix
