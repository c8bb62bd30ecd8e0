import Cfix.Fixture.Outline
import Mathlib.Data.List.TakeWhile

/-!
# `Fixture.Smooth` — runs in which every routine succeeds

The order of the routines is then fixed by the action and the callbacks alone: `smoothRoutines`. What the run
does to a part of the state is the fold of what each routine does to it (`Smooth.run`).
-/

namespace Cfix

open TakeThrough

variable {σ τ : Type}

/-- The codes of the execution context's callbacks. -/
structure Callbacks where
  fixtureStart  : HRESULT
  testCaseStart : Nat → HRESULT

/-- The selected test cases that are started: the context has refused none so far. -/
def TsexecAction.startedCases (a : TsexecAction) (c : Callbacks) : List Nat :=
  a.selected.takeWhile fun i => !failed (c.testCaseStart i)

/-- The routines of a test case. -/
def RoutineId.ofCase (i : Nat) : List RoutineId := [.before i, .test i, .after i]

/-- The routines of a fixture that runs these test cases. -/
def RoutineId.ofFixture (cases : List Nat) : List RoutineId := .setup :: cases.flatMap ofCase ++ [.teardown]

/-- The runners that are called if they all succeed. -/
def TsexecAction.smoothRoutines (a : TsexecAction) (c : Callbacks) : List RoutineId :=
  if failed c.fixtureStart then [] else RoutineId.ofFixture (a.startedCases c)

/-- On this host every routine succeeds and does `step` to the part of the state that is seen by `view`;
    nothing else changes that part. `index` is the test case that was announced last. -/
structure Smooth (h : Host σ) (a : TsexecAction) (c : Callbacks) (index : σ → Nat) (view : σ → τ)
    (step : τ → RoutineId → τ) : Prop where
  valid        : h.isValidContext = true
  fixtureStart : ∀ s, (h.call (.beforeFixtureStart h.threadId a.fixture) s).1 = c.fixtureStart ∧
    view (h.call (.beforeFixtureStart h.threadId a.fixture) s).2 = view s
  caseStart    : ∀ i s, (h.call (.beforeTestCaseStart h.threadId ⟨a.fixture, i⟩) s).1 = c.testCaseStart i ∧
    index (h.call (.beforeTestCaseStart h.threadId ⟨a.fixture, i⟩) s).2 = i ∧
    view (h.call (.beforeTestCaseStart h.threadId ⟨a.fixture, i⟩) s).2 = view s
  setup        : ∀ flags s, (h.call (.setup a.fixture flags) s).1 = sOk ∧
    view (h.call (.setup a.fixture flags) s).2 = step (view s) .setup
  before       : ∀ flags s, (h.call (.before a.fixture flags) s).1 = sOk ∧
    index (h.call (.before a.fixture flags) s).2 = index s ∧
    view (h.call (.before a.fixture flags) s).2 = step (view s) (.before (index s))
  test         : ∀ i flags s, i < a.fixture.testCases.length →
    (h.call (.runTestCase ⟨a.fixture, i⟩ flags) s).1 = sOk ∧
    index (h.call (.runTestCase ⟨a.fixture, i⟩ flags) s).2 = index s ∧
    view (h.call (.runTestCase ⟨a.fixture, i⟩ flags) s).2 = step (view s) (.test i)
  after        : ∀ flags s, (h.call (.after a.fixture flags) s).1 = sOk ∧
    view (h.call (.after a.fixture flags) s).2 = step (view s) (.after (index s))
  teardown     : ∀ flags s, (h.call (.teardown a.fixture flags) s).1 = sOk ∧
    view (h.call (.teardown a.fixture flags) s).2 = step (view s) .teardown
  caseFinish   : ∀ i ran s, view (h.call (.afterTestCaseFinish h.threadId ⟨a.fixture, i⟩ ran) s).2 = view s
  fixtureFinish : ∀ ran s, view (h.call (.afterFixtureFinish h.threadId a.fixture ran) s).2 = view s

/-! ## Started test cases -/

namespace TsexecAction

variable {a : TsexecAction} {c : Callbacks} {i : Nat}

theorem selected_split (hlt : i < a.fixture.testCases.length) (hsel : a.selects i = true) :
    ∃ post, a.selected = (List.range i).filter a.selects ++ i :: post :=
  ⟨_, filter_range_split hlt hsel⟩

/-- The context refuses a test case. -/
theorem startedCases_of_refused (hlt : i < a.fixture.testCases.length) (hsel : a.selects i = true)
    (hearlier : ∀ j < i, a.selects j = true → failed (c.testCaseStart j) = false)
    (hrefused : failed (c.testCaseStart i) = true) : a.startedCases c = (List.range i).filter a.selects := by
  obtain ⟨post, hpost⟩ := selected_split hlt hsel
  rw [startedCases, hpost, List.takeWhile_append_of_pos]
  · simp [hrefused]
  · intro j hj
    simp only [List.mem_filter, List.mem_range] at hj
    simp [hearlier j hj.1 hj.2]

/-- The context refuses none. -/
theorem startedCases_of_accepted
    (hall : ∀ j < a.fixture.testCases.length, a.selects j = true → failed (c.testCaseStart j) = false) :
    a.startedCases c = a.selected := by
  rw [startedCases, List.takeWhile_eq_self_iff]
  intro j hj
  simp only [selected, List.mem_filter, List.mem_range] at hj
  simp [hall j hj.1 hj.2]

theorem filter_range_succ (a : TsexecAction) (i : Nat) : (List.range (i + 1)).filter a.selects =
    (List.range i).filter a.selects ++ if a.selects i then [i] else [] := by
  rw [List.range_succ, List.filter_append, List.filter_singleton, Bool.cond_eq_ite]

end TsexecAction

/-! ## The run -/

namespace Smooth

variable {h : Host σ} {a : TsexecAction} {c : Callbacks} {index : σ → Nat} {view : σ → τ}
  {step : τ → RoutineId → τ} {s : Run σ}

/-- After Setup and these test cases. -/
def progress (step : τ → RoutineId → τ) (t : τ) (cases : List Nat) : τ :=
  (cases.flatMap RoutineId.ofCase).foldl step (step t .setup)

theorem progress_append (step : τ → RoutineId → τ) (t : τ) (cases : List Nat) (i : Nat) :
    progress step t (cases ++ [i]) =
      step (step (step (progress step t cases) (.before i)) (.test i)) (.after i) := by
  simp [progress, RoutineId.ofCase, List.flatMap_append]

/-- The proof outline of a smooth run. -/
def outline (sm : Smooth h a c index view step) (t : τ) :
    Outline h a (fun s => view s.env = t) (fun _ s => view s.env = (a.smoothRoutines c).foldl step t) where
  opened s      := view s.env = t ∧ failed c.fixtureStart = false
  loop i _ s    := view s.env = progress step t ((List.range i).filter a.selects) ∧
    failed c.fixtureStart = false ∧ ∀ j < i, a.selects j = true → failed (c.testCaseStart j) = false
  started i s   := view s.env = progress step t ((List.range i).filter a.selects) ∧ index s.env = i ∧
    i < a.fixture.testCases.length ∧ a.selects i = true ∧
    failed c.fixtureStart = false ∧ ∀ j < i + 1, a.selects j = true → failed (c.testCaseStart j) = false
  prepared i s  := view s.env = step (progress step t ((List.range i).filter a.selects)) (.before i) ∧
    index s.env = i ∧ i < a.fixture.testCases.length ∧ a.selects i = true ∧
    failed c.fixtureStart = false ∧ ∀ j < i + 1, a.selects j = true → failed (c.testCaseStart j) = false
  tested i hr s := hr = sOk ∧
    view s.env = step (step (progress step t ((List.range i).filter a.selects)) (.before i)) (.test i) ∧
    index s.env = i ∧ a.selects i = true ∧
    failed c.fixtureStart = false ∧ ∀ j < i + 1, a.selects j = true → failed (c.testCaseStart j) = false
  ended i hr s  := hr = sOk ∧ view s.env = progress step t ((List.range (i + 1)).filter a.selects) ∧
    failed c.fixtureStart = false ∧ ∀ j < i + 1, a.selects j = true → failed (c.testCaseStart j) = false
  stopped _ _ s := view s.env = progress step t (a.startedCases c) ∧ failed c.fixtureStart = false
  closing _ _ s := view s.env = step (progress step t (a.startedCases c)) .teardown ∧
    failed c.fixtureStart = false
  reject        := by
    intro s _ hv
    rw [sm.valid] at hv
    cases hv
  start         := by
    intro s s' hr hs _ hcall
    cases hcall
    obtain ⟨hhr, hview⟩ := sm.fixtureStart s.env
    rw [hhr]
    cases hf : failed c.fixtureStart with
    | true  => simpa [TsexecAction.smoothRoutines, hf] using hview.trans hs
    | false => simpa using hview.trans hs
  setup         := by
    intro s s' hr flags hs hcall
    cases hcall
    obtain ⟨hhr, hview⟩ := sm.setup flags s.env
    rw [hhr, setupFailure_eq_false failed_sOk, failed_sOk]
    simp only [Bool.false_eq_true, if_false]
    refine ⟨?_, hs.2, fun j hj => absurd hj (Nat.not_lt_zero j)⟩
    rw [hview, hs.1]
    rfl
  skip          := by
    intro i hr s _ hskip hs
    obtain ⟨hview, hopen, hearlier⟩ := hs
    refine ⟨?_, hopen, ?_⟩
    · rw [hview, TsexecAction.filter_range_succ, hskip]
      simp
    · intro j hj hsel
      rcases Nat.lt_succ_iff_lt_or_eq.mp hj with hlt | rfl
      · exact hearlier j hlt hsel
      · rw [hskip] at hsel
        cases hsel
  announce      := by
    intro i hr₀ s s' hr hlt hsel hs hcall
    cases hcall
    obtain ⟨hview, hopen, hearlier⟩ := hs
    obtain ⟨hhr, hindex, hview'⟩ := sm.caseStart i s.env
    rw [hhr]
    cases hf : failed (c.testCaseStart i) with
    | true  =>
        simp only [if_true]
        rw [TsexecAction.startedCases_of_refused hlt hsel hearlier hf]
        exact ⟨hview'.trans hview, hopen⟩
    | false =>
        simp only [Bool.false_eq_true, if_false]
        refine ⟨hview'.trans hview, hindex, hlt, hsel, hopen, ?_⟩
        intro j hj hselj
        rcases Nat.lt_succ_iff_lt_or_eq.mp hj with hltj | rfl
        · exact hearlier j hltj hselj
        · exact hf
  before        := by
    intro i s s' hr flags hs hcall
    cases hcall
    obtain ⟨hview, hindex, hrest⟩ := hs
    obtain ⟨hhr, hindex', hview'⟩ := sm.before flags s.env
    rw [hhr, failed_sOk]
    simp only [Bool.false_eq_true, if_false]
    refine ⟨?_, hindex'.trans hindex, hrest⟩
    rw [hview', hindex, hview]
  test          := by
    intro i s s' hr flags hs hcall
    cases hcall
    obtain ⟨hview, hindex, hlt, hrest⟩ := hs
    obtain ⟨hhr, hindex', hview'⟩ := sm.test i flags s.env hlt
    refine ⟨hhr, ?_, hindex'.trans hindex, hrest⟩
    rw [hview', hview]
  after         := by
    intro i s s' hrTestCase hr flags hs hcall
    cases hcall
    obtain ⟨rfl, hview, hindex, hsel, hrest⟩ := hs
    obtain ⟨hhr, hview'⟩ := sm.after flags s.env
    refine ⟨?_, ?_, hrest⟩
    · rw [hhr]
      rfl
    · rw [hview', hindex, hview, TsexecAction.filter_range_succ, hsel, if_pos rfl, progress_append]
  abandon       := by
    rintro i s hr ⟨rfl, -⟩ hfatal
    exact absurd hfatal (by decide)
  finish        := by
    rintro i s hr ⟨rfl, hview, hrest⟩ -
    have hstops : a.stopsOn sOk = false := by simp [TsexecAction.stopsOn]
    simp only [hstops, Bool.false_eq_true, if_false]
    exact ⟨(sm.caseFinish i _ s.env).trans hview, hrest⟩
  leave         := by
    rintro hr s ⟨hview, hopen, hall⟩
    rw [TsexecAction.startedCases_of_accepted hall]
    exact ⟨hview, hopen⟩
  teardown      := by
    intro fixtureShortCircuit hr s s' teardownHr flags hs hcall
    cases hcall
    obtain ⟨hhr, hview⟩ := sm.teardown flags s.env
    rw [hhr, failed_sOk]
    simp only [Bool.false_eq_true, if_false]
    rw [hview, hs.1]
    exact ⟨rfl, hs.2⟩
  close         := by
    rintro ran hr s ⟨hview, hopen⟩
    refine (sm.fixtureFinish ran s.env).trans ?_
    rw [hview, TsexecAction.smoothRoutines, hopen]
    simp [progress, RoutineId.ofFixture]

/-- **A smooth run** folds the steps of the routines. -/
theorem run (sm : Smooth h a c index view step) (s : Run σ) :
    view (runFixtureExecutionAction h a s).2.env = (a.smoothRoutines c).foldl step (view s.env) :=
  (sm.outline (view s.env)).run rfl

end Smooth

end Cfix
