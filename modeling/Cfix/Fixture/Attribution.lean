import Cfix.Fixture.EventEmitter

/-!
# `Fixture.Attribution` — which routine an event is attributed to

The sink should see an event under the name of the test case whose Before, test or After routine reports it,
and under `[Setup]` or `[Teardown]` otherwise. `CurrentTestCase` is reset in `AfterTestCaseFinish` only, so
a test case that is announced but does not finish lends its name to the routines that follow.
-/

namespace Cfix

variable {ε : Type} (moduleName : Fixture → String)

/-! ## The property -/

/-- The name under which events of the routine belong. -/
def RoutineId.label (f : Fixture) : RoutineId → String
  | .setup                         => "[Setup]"
  | .before i | .test i | .after i => (⟨f, i⟩ : TestCaseRef).name
  | .teardown                      => "[Teardown]"

/-- The event was forwarded under the names of its fixture and its routine. -/
def Report.Right (r : Report ε) : Prop :=
  r.call = some
    (.reportEvent r.thread (moduleName r.fixture) r.fixture.name (r.routine.label r.fixture) r.event)

/-- **Every event is attributed to the right routine.** -/
def Emission.Attributed (e : Emission ε) : Prop := ∀ r ∈ e.reports, r.Right moduleName

/-! ## The condition -/

namespace DrivenFixture

variable (d : DrivenFixture ε)

/-- Setup has succeeded, so test cases run. -/
def runsTestCases : Bool := d.outcomes.opens && !failed d.outcomes.setup

/-- The test case that ends the loop. -/
def stopper : Option Nat := d.action.selected.find? (d.outcomes.stopsAt d.action)

/-- The target context refuses the test case. -/
def refusedAt (i : Nat) : Bool := failed (d.outcomes.beforeTestCaseStart i)

/-- The test case that is announced but does not finish. -/
def unfinished : Option TestCaseRef :=
  (d.stopper.filter (fun i => d.refusedAt i || d.outcomes.fatalAt i)).map (fun i => ⟨d.action.fixture, i⟩)

/-- The test case that is shown after the fixture, given the one that is shown before it. -/
def leaves (stale : Option TestCaseRef) : Option TestCaseRef :=
  if d.runsTestCases then d.unfinished else stale

/-- Setup reports no event, or under its own name. -/
def SetupNamed (stale : Option TestCaseRef) : Prop :=
  d.outcomes.opens = true → d.events .setup = [] ∨ ∀ testCase ∈ stale, testCase.name = "[Setup]"

/-- The same for Teardown, after a test case that was refused. -/
def TeardownNamed : Prop :=
  d.runsTestCases = true → ∀ i ∈ d.stopper, d.refusedAt i = true →
    d.events .teardown = [] ∨ (⟨d.action.fixture, i⟩ : TestCaseRef).name = "[Teardown]"

end DrivenFixture

/-- No event is reported in Setup or Teardown while an unfinished test case of this or an earlier fixture is
    shown (unless it happens to have the right name). -/
def Unstale : Option TestCaseRef → List (DrivenFixture ε) → Prop
  | _, []          => True
  | stale, d :: ds => d.SetupNamed stale ∧ d.TeardownNamed ∧ Unstale (d.leaves stale) ds

/-! ## One routine -/

variable {moduleName}

/-- What the proxy shows, and when all reports so far are right. -/
structure Emission.Shows (moduleName : Fixture → String) (e : Emission ε) (f : Fixture) (begun : Bool)
    (testCase : Option TestCaseRef) (right : Prop) : Prop where
  fixture    : e.proxy.currentFixture = some f
  begun      : e.proxy.firstTestCaseBegun = begun
  testCase   : e.proxy.currentTestCase = testCase
  attributed : e.Attributed moduleName ↔ right

namespace Emission.Shows

variable {e : Emission ε} {f : Fixture} {begun : Bool} {tc : Option TestCaseRef} {right : Prop}

/-- A report is right iff the proxy shows the routine's name. -/
theorem right_iff (h : e.Shows moduleName f begun tc right) (r : RoutineId) (x : CfixThreadId × ε) :
    Report.Right moduleName ⟨f, r, x.1, x.2, e.proxy.reportEvent moduleName x.1 x.2⟩ ↔
      e.proxy.testCaseName = r.label f := by
  simp [Report.Right, EventEmittingProxy.reportEvent, h.fixture]

/-- The events of a routine are right iff there are none or the proxy shows its name. -/
theorem routine (h : e.Shows moduleName f begun tc right) (r : RoutineId)
    (events : List (CfixThreadId × ε)) :
    (e.routine moduleName f r events).Shows moduleName f begun tc
      (right ∧ (events = [] ∨ e.proxy.testCaseName = r.label f)) := by
  refine ⟨h.fixture, h.begun, h.testCase, ?_⟩
  have hsplit : (e.routine moduleName f r events).Attributed moduleName ↔
      e.Attributed moduleName ∧ ∀ x ∈ events, e.proxy.testCaseName = r.label f := by
    simp only [Emission.Attributed, Emission.routine, List.forall_mem_append, List.forall_mem_map]
    exact and_congr_right' (forall₂_congr (fun x _ => h.right_iff r x))
  rw [hsplit, h.attributed]
  refine and_congr_right' ?_
  cases events with
  | nil       => simp
  | cons x xs =>
      simp only [List.forall_mem_cons, reduceCtorEq, false_or]
      exact ⟨fun hall => hall.1, fun hname => ⟨hname, fun _ _ => hname⟩⟩

theorem table (h : e.Shows moduleName f begun tc right) (t : TableEnv) :
    (e.withTable t).Shows moduleName f begun tc right :=
  ⟨h.fixture, h.begun, h.testCase, h.attributed⟩

theorem congr {right' : Prop} (h : e.Shows moduleName f begun tc right) (hr : right ↔ right') :
    e.Shows moduleName f begun tc right' :=
  ⟨h.fixture, h.begun, h.testCase, h.attributed.trans hr⟩

end Emission.Shows

/-! ## The test case that ends the loop -/

namespace DrivenFixture

variable {d : DrivenFixture ε} {i : Nat}

theorem stopper_eq_some (hlt : i < d.action.fixture.testCases.length) (hsel : d.action.selects i = true)
    (hearlier : ∀ j < i, d.action.selects j = true → d.outcomes.stopsAt d.action j = false)
    (hstops : d.outcomes.stopsAt d.action i = true) : d.stopper = some i := by
  rw [stopper, TsexecAction.selected, List.find?_filter, List.find?_range_eq_some]
  refine ⟨by simp [hsel, hstops], List.mem_range.mpr hlt, ?_⟩
  intro j hj
  cases hs : d.action.selects j with
  | false => rfl
  | true  => simp [hearlier j hj hs]

theorem stopper_eq_none (hall : ∀ j < d.action.fixture.testCases.length, d.action.selects j = true →
    d.outcomes.stopsAt d.action j = false) : d.stopper = none := by
  rw [stopper, List.find?_eq_none]
  intro j hj
  simp only [TsexecAction.selected, List.mem_filter, List.mem_range] at hj
  simp [hall j hj.1 hj.2]

theorem leaves_eq_none (hruns : d.runsTestCases = true) (stale : Option TestCaseRef)
    (h : ∀ i ∈ d.stopper, d.refusedAt i = false ∧ d.outcomes.fatalAt i = false) : d.leaves stale = none := by
  rw [leaves, if_pos hruns, unfinished]
  cases hs : d.stopper with
  | none   => rfl
  | some i =>
      obtain ⟨hr, hf⟩ := h i hs
      simp [hr, hf]

theorem leaves_eq_some (hruns : d.runsTestCases = true) (stale : Option TestCaseRef)
    (hs : d.stopper = some i) (h : (d.refusedAt i || d.outcomes.fatalAt i) = true) :
    d.leaves stale = some ⟨d.action.fixture, i⟩ := by
  simp only [leaves, hruns, unfinished, hs, if_true, Option.filter_some, h, Option.map_some]

end DrivenFixture

/-! ## The outline -/

namespace DrivenFixture

variable {d : DrivenFixture ε} {s s' : Run (Emission ε)} {i : Nat} {hr : HRESULT} {c : Call} {right : Prop}

theorem invoke_some (h : (d.host moduleName).invoke c s = (hr, s')) :
    hr = d.outcomes.answer s.env.table.index c ∧
      s'.env = (s.env.after moduleName d.events c).withTable (s.env.table.next c) := by
  cases h
  exact ⟨rfl, rfl⟩

/-- At the head of the loop: no earlier test case has stopped it, and the proxy shows none of them. -/
structure AtHead (moduleName : Fixture → String) (d : DrivenFixture ε) (right : Prop) (i : Nat)
    (s : Run (Emission ε)) : Prop where
  shows_  : ∃ begun testCase, s.env.Shows moduleName d.action.fixture begun testCase right ∧
    (begun = true ∧ testCase = none ∨ ∀ j < i, d.action.selects j = false)
  runs    : d.runsTestCases = true
  earlier : ∀ j < i, d.action.selects j = true → d.outcomes.stopsAt d.action j = false

/-- In the turn of test case `i`, which has been announced and accepted. -/
structure InTurn (moduleName : Fixture → String) (d : DrivenFixture ε) (right : Prop) (i : Nat)
    (s : Run (Emission ε)) : Prop where
  shows_   : s.env.Shows moduleName d.action.fixture true (some ⟨d.action.fixture, i⟩) right
  index    : s.env.table.index = i
  runs     : d.runsTestCases = true
  earlier  : ∀ j < i, d.action.selects j = true → d.outcomes.stopsAt d.action j = false
  lt       : i < d.action.fixture.testCases.length
  selected : d.action.selects i = true
  accepted : d.refusedAt i = false

/-- Before Teardown: the proxy shows the test case that ended the loop if it was refused. -/
structure AtTeardown (moduleName : Fixture → String) (d : DrivenFixture ε) (stale : Option TestCaseRef)
    (right : Prop) (s : Run (Emission ε)) : Prop where
  shows_   : s.env.Shows moduleName d.action.fixture true (d.leaves stale) right
  runs     : d.runsTestCases = true
  notFatal : ∀ i ∈ d.stopper, d.outcomes.fatalAt i = false

/-- A routine of the turn runs and reports events. -/
theorem InTurn.routine (h : d.InTurn moduleName right i s) (r : RoutineId)
    (hlabel : r.label d.action.fixture = (⟨d.action.fixture, i⟩ : TestCaseRef).name)
    {t : TableEnv} (henv : s'.env = (s.env.routine moduleName d.action.fixture r (d.events r)).withTable t)
    (ht : t.index = s.env.table.index) : d.InTurn moduleName right i s' := by
  have hname : s.env.proxy.testCaseName = r.label d.action.fixture := by
    simp [EventEmittingProxy.testCaseName, h.shows_.testCase, hlabel]
  refine { h with shows_ := ?_, index := ?_ }
  · rw [henv]
    exact ((h.shows_.routine r _).congr (and_iff_left (.inr hname))).table t
  · rw [henv]
    exact ht.trans h.index

/-- What Teardown's events depend on, in terms of the name that is shown. -/
theorem AtTeardown.named_iff {stale : Option TestCaseRef} (h : d.AtTeardown moduleName stale right s) :
    (d.events .teardown = [] ∨ s.env.proxy.testCaseName = "[Teardown]") ↔ d.TeardownNamed := by
  simp only [TeardownNamed, h.runs, true_imp_iff, EventEmittingProxy.testCaseName, h.shows_.testCase,
    h.shows_.begun]
  cases hs : d.stopper with
  | none   => simp [leaves_eq_none h.runs stale (by simp [hs])]
  | some i =>
      cases hr : d.refusedAt i with
      | true  => simp [leaves_eq_some h.runs stale hs (by simp [hr]), hr]
      | false =>
          have hleaves := leaves_eq_none h.runs stale (by
            intro j hj
            cases hs.symm.trans hj
            exact ⟨hr, h.notFatal i hs⟩)
          simp [hleaves, hr]

/-- The proof outline of a fixture, from a proxy that shows `stale`. -/
def attribution (moduleName : Fixture → String) (d : DrivenFixture ε) (hsel : d.action.selected ≠ [])
    (stale : Option TestCaseRef) (right : Prop) :
    Outline (d.host moduleName) d.action
      (fun s => s.env.proxy.currentTestCase = stale ∧ (s.env.Attributed moduleName ↔ right))
      (fun _ s => s.env.proxy.currentTestCase = d.leaves stale ∧
        (s.env.Attributed moduleName ↔ (right ∧ d.SetupNamed stale) ∧ d.TeardownNamed)) where
  opened s      := s.env.Shows moduleName d.action.fixture false stale right ∧ d.outcomes.opens = true
  loop i _      := d.AtHead moduleName (right ∧ d.SetupNamed stale) i
  started       := d.InTurn moduleName (right ∧ d.SetupNamed stale)
  prepared i s  := d.InTurn moduleName (right ∧ d.SetupNamed stale) i s ∧ failed (d.outcomes.before i) = false
  tested i hr s :=
    d.InTurn moduleName (right ∧ d.SetupNamed stale) i s ∧ failed (d.outcomes.before i) = false ∧
      hr = d.outcomes.test i
  ended i hr s  :=
    d.InTurn moduleName (right ∧ d.SetupNamed stale) i s ∧ hr = d.outcomes.testCaseResult i
  stopped _ _   := d.AtTeardown moduleName stale (right ∧ d.SetupNamed stale)
  closing _ _ s := s.env.proxy.currentTestCase = d.leaves stale ∧
    (s.env.Attributed moduleName ↔ (right ∧ d.SetupNamed stale) ∧ d.TeardownNamed)
  reject := by
    intro s hs hvalid
    have hopens : d.outcomes.opens = false := by
      have hvalid' : d.outcomes.isValidContext = false := hvalid
      simp [Outcomes.opens, hvalid']
    simpa [leaves, SetupNamed, TeardownNamed, runsTestCases, hopens] using hs
  start := by
    intro s s' hr hs hvalid hcall
    obtain ⟨rfl, henv⟩ := invoke_some hcall
    have hattr : s'.env.Attributed moduleName ↔ right := by
      rw [henv]
      exact hs.2
    have hstale : s'.env.proxy.currentTestCase = stale := by
      rw [henv]
      exact hs.1
    have hvalid' : d.outcomes.isValidContext = true := hvalid
    cases hf : failed d.outcomes.beforeFixtureStart with
    | true  =>
        have hopens : d.outcomes.opens = false := by simp [Outcomes.opens, hf]
        simp only [Outcomes.answer, hf, if_true]
        simpa [leaves, SetupNamed, TeardownNamed, runsTestCases, hopens] using ⟨hstale, hattr⟩
    | false =>
        simp only [Outcomes.answer, hf, Bool.false_eq_true, if_false]
        refine ⟨⟨?_, ?_, hstale, hattr⟩, by simp [Outcomes.opens, hvalid', hf]⟩
        · rw [henv]
          rfl
        · rw [henv]
          rfl
  setup := by
    intro s s' hr flags hs hcall
    obtain ⟨rfl, henv⟩ := invoke_some hcall
    obtain ⟨hshows, hopens⟩ := hs
    have hnamed : (d.events .setup = [] ∨ s.env.proxy.testCaseName = "[Setup]") ↔ d.SetupNamed stale := by
      simp only [SetupNamed, hopens, true_imp_iff, EventEmittingProxy.testCaseName, hshows.testCase,
        hshows.begun]
      cases stale <;> simp
    have hshows' : s'.env.Shows moduleName d.action.fixture false stale (right ∧ d.SetupNamed stale) := by
      rw [henv]
      exact ((hshows.routine .setup _).congr (and_congr_right' hnamed)).table _
    cases hf : failed d.outcomes.setup with
    | true  =>
        have hruns : d.runsTestCases = false := by simp [runsTestCases, hf]
        have hclosing : s'.env.proxy.currentTestCase = d.leaves stale ∧
            (s'.env.Attributed moduleName ↔ (right ∧ d.SetupNamed stale) ∧ d.TeardownNamed) := by
          simpa [leaves, TeardownNamed, hruns] using ⟨hshows'.testCase, hshows'.attributed⟩
        simp only [Outcomes.answer, hf, if_true]
        split
        · exact hclosing
        · exact hclosing
    | false =>
        simp only [Outcomes.answer, setupFailure_eq_false hf, hf, Bool.false_eq_true, if_false]
        refine ⟨⟨false, stale, hshows', .inr ?_⟩, by simp [runsTestCases, hopens, hf], ?_⟩
        · exact fun j hj => absurd hj (Nat.not_lt_zero j)
        · exact fun j hj => absurd hj (Nat.not_lt_zero j)
  skip := by
    intro i hr s _ hskip hs
    obtain ⟨begun, testCase, hshows, hbegun⟩ := hs.shows_
    refine ⟨⟨begun, testCase, hshows, hbegun.imp_right ?_⟩, hs.runs, ?_⟩
    · intro hnone j hj
      rcases Nat.lt_succ_iff_lt_or_eq.mp hj with hlt | rfl
      · exact hnone j hlt
      · exact hskip
    · intro j hj hselects
      rcases Nat.lt_succ_iff_lt_or_eq.mp hj with hlt | rfl
      · exact hs.earlier j hlt hselects
      · rw [hskip] at hselects
        cases hselects
  announce := by
    intro i hr₀ s s' hr hlt hselects hs hcall
    obtain ⟨rfl, henv⟩ := invoke_some hcall
    obtain ⟨begun, testCase, hshows, -⟩ := hs.shows_
    have hshows' : s'.env.Shows moduleName d.action.fixture true (some ⟨d.action.fixture, i⟩)
        (right ∧ d.SetupNamed stale) := by
      rw [henv]
      exact ⟨hshows.fixture, rfl, rfl, hshows.attributed⟩
    cases hf : failed (d.outcomes.beforeTestCaseStart i) with
    | true  =>
        have hstopper := stopper_eq_some hlt hselects hs.earlier (by simp [Outcomes.stopsAt, hf])
        have hleaves := leaves_eq_some hs.runs stale hstopper (by simp [refusedAt, hf])
        simp only [Outcomes.answer, hf, if_true]
        refine ⟨hleaves ▸ hshows', hs.runs, ?_⟩
        intro j hj
        cases hstopper.symm.trans hj
        simp [Outcomes.fatalAt, hf]
    | false =>
        simp only [Outcomes.answer, hf, Bool.false_eq_true, if_false]
        refine ⟨hshows', ?_, hs.runs, hs.earlier, hlt, hselects, hf⟩
        rw [henv]
        rfl
  before := by
    intro i s s' hr flags hs hcall
    obtain ⟨rfl, henv⟩ := invoke_some hcall
    have hturn : d.InTurn moduleName (right ∧ d.SetupNamed stale) i s' := by
      simp only [Emission.after, hs.index] at henv
      exact hs.routine (.before i) rfl henv rfl
    cases hf : failed (d.outcomes.before i) with
    | true  =>
        simp only [Outcomes.answer, hs.index, hf, if_true]
        exact ⟨hturn, by simp [Outcomes.testCaseResult, hf]⟩
    | false =>
        simp only [Outcomes.answer, hs.index, hf, Bool.false_eq_true, if_false]
        exact ⟨hturn, trivial⟩
  test := by
    intro i s s' hr flags hs hcall
    obtain ⟨rfl, henv⟩ := invoke_some hcall
    exact ⟨hs.1.routine (.test i) rfl henv rfl, hs.2, rfl⟩
  after := by
    intro i s s' hrTestCase hr flags hs hcall
    obtain ⟨rfl, henv⟩ := invoke_some hcall
    obtain ⟨hturn, hbefore, rfl⟩ := hs
    simp only [Emission.after, hturn.index] at henv
    refine ⟨hturn.routine (.after i) rfl henv rfl, ?_⟩
    rw [d.outcomes.testCaseResult_eq_resultOf hbefore]
    simp only [Outcomes.answer, hturn.index]
  abandon := by
    rintro i s hr ⟨hturn, rfl⟩ hfatal
    have haccepted : failed (d.outcomes.beforeTestCaseStart i) = false := hturn.accepted
    have hfatalAt : d.outcomes.fatalAt i = true := by simp [Outcomes.fatalAt, haccepted, hfatal]
    have hstopper := stopper_eq_some hturn.lt hturn.selected hturn.earlier
      (d.outcomes.stopsAt_of_fatalAt d.action hfatalAt)
    have hleaves := leaves_eq_some hturn.runs stale hstopper (by simp [hfatalAt])
    have hnamed : d.TeardownNamed := by
      intro _ j hj hrefused
      cases hstopper.symm.trans hj
      rw [hturn.accepted] at hrefused
      cases hrefused
    exact ⟨hturn.shows_.testCase.trans hleaves.symm, hturn.shows_.attributed.trans (by simp [hnamed])⟩
  finish := by
    rintro i s hr ⟨hturn, rfl⟩ hfatal
    have haccepted : failed (d.outcomes.beforeTestCaseStart i) = false := hturn.accepted
    have hstops : d.outcomes.stopsAt d.action i = d.action.stopsOn (d.outcomes.testCaseResult i) :=
      d.outcomes.stopsAt_of_started d.action haccepted
    have hshows : ((d.host moduleName).notify (.afterTestCaseFinish (d.host moduleName).threadId
        ⟨d.action.fixture, i⟩ (succeeded (d.outcomes.testCaseResult i))) s).env.Shows moduleName
        d.action.fixture true none (right ∧ d.SetupNamed stale) :=
      ⟨hturn.shows_.fixture, hturn.shows_.begun, rfl, hturn.shows_.attributed⟩
    split
    · rename_i hstop
      have hstopper := stopper_eq_some hturn.lt hturn.selected hturn.earlier (hstops.trans hstop)
      have hfinished : ∀ j ∈ d.stopper, d.refusedAt j = false ∧ d.outcomes.fatalAt j = false := by
        intro j hj
        cases hstopper.symm.trans hj
        exact ⟨hturn.accepted, by simp [Outcomes.fatalAt, hfatal]⟩
      have hleaves := leaves_eq_none hturn.runs stale hfinished
      exact ⟨hleaves ▸ hshows, hturn.runs, fun j hj => (hfinished j hj).2⟩
    · rename_i hgo
      refine ⟨⟨true, none, hshows, .inl ⟨rfl, rfl⟩⟩, hturn.runs, ?_⟩
      intro j hj hselects
      rcases Nat.lt_succ_iff_lt_or_eq.mp hj with hlt | rfl
      · exact hturn.earlier j hlt hselects
      · rw [hstops]
        simpa using hgo
  leave := by
    intro hr s hs
    have hstopper := stopper_eq_none hs.earlier
    have hleaves := leaves_eq_none hs.runs stale (by simp [hstopper])
    obtain ⟨begun, testCase, hshows, ⟨rfl, rfl⟩ | hnone⟩ := hs.shows_
    · exact ⟨hleaves ▸ hshows, hs.runs, by simp [hstopper]⟩
    · exfalso
      refine hsel (List.filter_eq_nil_iff.mpr ?_)
      intro j hj
      simp [hnone j (List.mem_range.mp hj)]
  teardown := by
    intro fixtureShortCircuit hr s s' teardownHr flags hs hcall
    obtain ⟨rfl, henv⟩ := invoke_some hcall
    have hshows := ((hs.shows_.routine .teardown (d.events .teardown)).congr
      (and_congr_right' hs.named_iff)).table (s.env.table.next (.teardown d.action.fixture flags))
    rw [henv]
    split
    · exact ⟨hshows.testCase, hshows.attributed⟩
    · exact ⟨hshows.testCase, hshows.attributed⟩
  close := fun hs => hs

end DrivenFixture

/-! ## All fixtures -/

/-- From a proxy that shows `stale`. -/
theorem attributed_runFixtures {ds : List (DrivenFixture ε)} {stale : Option TestCaseRef} {e : Emission ε}
    {right : Prop} (hsel : ∀ d ∈ ds, d.action.selected ≠ []) (hstale : e.proxy.currentTestCase = stale)
    (hattr : e.Attributed moduleName ↔ right) :
    (runFixtures moduleName ds e).Attributed moduleName ↔ right ∧ Unstale stale ds := by
  induction ds generalizing e stale right with
  | nil => simpa [runFixtures, Unstale] using hattr
  | cons d ds ih =>
      have hpost := (d.attribution moduleName (hsel d (by simp)) stale right).run
        (s := { env := e, trace := [] }) ⟨hstale, hattr⟩
      rw [runFixtures, ih (fun x hx => hsel x (List.mem_cons_of_mem d hx)) hpost.1 hpost.2, Unstale, and_assoc,
        and_assoc]

/-- **Attribution over a run**: all events are forwarded under the name of the routine that reports them iff
    none is reported in Setup or Teardown while an unfinished test case is shown. -/
theorem attributed_iff (moduleName : Fixture → String) (ds : List (DrivenFixture ε))
    (hsel : ∀ d ∈ ds, d.action.selected ≠ []) :
    (runFixtures moduleName ds .start).Attributed moduleName ↔ Unstale none ds := by
  have hstart : (Emission.start : Emission ε).Attributed moduleName ↔ True := by
    simp [Emission.Attributed, Emission.start]
  have hnone : (Emission.start : Emission ε).proxy.currentTestCase = none := rfl
  rw [attributed_runFixtures hsel hnone hstart, true_and]

/-- A fixture whose routines all report one event. -/
def reportingFixture (o : Outcomes) : DrivenFixture String where
  action   := twoTestCases 0#32
  outcomes := o
  events _ := [(⟨1, 1⟩, "Log")]

/-- Two fixtures on one proxy, the first with a failing test case. -/
theorem attributed_iff_failingTest :
    (∀ d ∈ [reportingFixture { Outcomes.allOk with test := fun _ => eTestRoutineFailed },
      reportingFixture Outcomes.allOk], d.action.selected ≠ []) ∧
    (runFixtures (fun _ => "Module")
      [reportingFixture { Outcomes.allOk with test := fun _ => eTestRoutineFailed },
        reportingFixture Outcomes.allOk] .start).Attributed (fun _ => "Module") := by
  refine ⟨by decide, (attributed_iff _ _ (by decide)).mpr ⟨?_, ?_, ?_, ?_, trivial⟩⟩
  · exact fun _ => .inr (fun _ h => nomatch h)
  · intro _ i _ hrefused
    simp [DrivenFixture.refusedAt, reportingFixture, Outcomes.allOk] at hrefused
  · exact fun _ => .inr (fun _ h => nomatch h)
  · intro _ i _ hrefused
    simp [DrivenFixture.refusedAt, reportingFixture, Outcomes.allOk] at hrefused

/-- The target context refuses the first test case, whose name Teardown's event then gets. -/
theorem refused_misattributes :
    ¬ ∀ ds : List (DrivenFixture String), (∀ d ∈ ds, d.action.selected ≠ []) →
      (runFixtures (fun _ => "Module") ds .start).Attributed (fun _ => "Module") := by
  intro h
  have hright := h [reportingFixture { Outcomes.allOk with beforeTestCaseStart := fun _ => eOutofmemory }]
    (by decide) ⟨(twoTestCases 0#32).fixture, .teardown, ⟨1, 1⟩, "Log",
      some (.reportEvent ⟨1, 1⟩ "Module" "Fixture" "First" "Log")⟩ (by decide)
  simp [Report.Right, RoutineId.label] at hright

end Cfix
