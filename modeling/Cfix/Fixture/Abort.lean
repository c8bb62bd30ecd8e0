import Cfix.Fixture.Law
import Cfix.Fixture.Sequence

/-!
# `Fixture.Abort` — an aborted routine and the rest of the run

A routine that returns `CFIX_E_TESTRUN_ABORTED` should fail the action, which ends the sequence that
contains it. Three aborts get lost: the one of Setup without its short-circuit flag, the one of Teardown
without the escalate flag, and the one of an After routine whose test routine had failed before.
-/

namespace Cfix

variable (o : Outcomes) (a : TsexecAction)

/-! ## The property -/

/-- One of the calls returned `CFIX_E_TESTRUN_ABORTED`. -/
def abortedIn (calls : List Labelled) : Bool := calls.any (fun l => l.2 == eTestrunAborted)

/-- A routine called in the run aborts. -/
def Outcomes.aborts : Bool := abortedIn (o.routineCalls a)

/-- **An abort ends the run**: the action fails, and a sequence that reaches it ends there, whatever
    actions follow. -/
def Outcomes.AbortEndsRun : Prop :=
  o.aborts a = true → failed (o.run a).1 = true ∧
    ∀ (pre post : List (Run TableEnv → HRESULT × Run TableEnv)) (s : Run TableEnv),
      failed (runActions pre sOk s).1 = false →
        runSequenceAction true true (pre ++ o.action a :: post) s = o.action a (runActions pre sOk s).2

/-- After aborts, but the result of the test case is the earlier failure of the test routine. -/
def Outcomes.afterMaskedAt (i : Nat) : Bool :=
  !failed (o.beforeTestCaseStart i) && !failed (o.before i) && failed (o.test i) &&
    o.after i == eTestrunAborted

/-- No abort is lost. -/
def Outcomes.AbortKept : Prop :=
  o.opens = true →
    (o.setup = eTestrunAborted →
      flagOn a.flags fixtureExecutionShortcircuitRunOnSetupFailure = true) ∧
    (failed o.setup = false →
      (∃ i ∈ o.reached a, o.escalatesAt a i = true) ∨
      (failed o.teardown = true ∧ flagOn a.flags fixtureExecutionEscalateFixtureFailues = true) ∨
      (o.teardown ≠ eTestrunAborted ∧ ∀ i ∈ o.reached a, o.afterMaskedAt i = false))

/-! ## Aborts of a run -/

/-- A routine of the test case aborts. -/
def Outcomes.abortsAt (i : Nat) : Bool := abortedIn (o.testCaseLabels a.fixture i)

/-- Where no failure escalates, the only abort of a test case is a masked one. -/
theorem abortsAt_eq_masked {i : Nat} (hcb : failed (o.beforeTestCaseStart i) = false)
    (hesc : o.escalatesAt a i = false) : o.abortsAt a i = o.afterMaskedAt i := by
  have hres : o.testCaseResult i ≠ eTestrunAborted := by
    intro h
    simp [Outcomes.escalatesAt, hcb, h] at hesc
  unfold Outcomes.testCaseResult at hres
  unfold Outcomes.abortsAt Outcomes.testCaseLabels Outcomes.afterMaskedAt abortedIn
  cases hb : failed (o.before i) with
  | true => simpa [hb] using hres
  | false =>
      have hb' : (o.before i == eTestrunAborted) = false :=
        beq_eq_false_iff_ne.mpr (fun h => by simp [h] at hb)
      cases ht : failed (o.test i) with
      | true =>
          have ht' : (o.test i == eTestrunAborted) = false := by simpa [hb, ht] using hres
          simp [hcb, hb', ht']
      | false =>
          have ht' : (o.test i == eTestrunAborted) = false :=
            beq_eq_false_iff_ne.mpr (fun h => by simp [h] at ht)
          have ha' : (o.after i == eTestrunAborted) = false :=
            beq_eq_false_iff_ne.mpr (fun h => by simp [hb, ht, h] at hres)
          simp [hb', ht', ha']

/-- The aborts of an opened fixture. -/
theorem aborts_eq (hop : o.opens = true) :
    o.aborts a = (o.setup == eTestrunAborted || !failed o.setup &&
      ((o.started a).any (o.abortsAt a) ||
        !(o.reached a).any o.fatalAt && o.teardown == eTestrunAborted)) := by
  have hloop : abortedIn ((o.started a).flatMap (o.testCaseLabels a.fixture))
      = (o.started a).any (o.abortsAt a) := by
    rw [abortedIn, List.any_flatMap]
    rfl
  rw [Outcomes.aborts, routineCalls_eq o a hop, ← hloop]
  cases hs : failed o.setup with
  | true => simp [abortedIn]
  | false => cases hany : (o.reached a).any o.fatalAt <;> simp [abortedIn]

/-! ## When an abort ends the run -/

/-- A failing action ends every sequence that reaches it. -/
theorem abortEndsRun_of_fails (h : o.fixtureFails a = true) : o.AbortEndsRun a := by
  intro _
  refine ⟨(o.run_spec a).2.trans h, ?_⟩
  intro pre post s hs
  exact runSequenceAction_failed hs ((o.action_spec a _).2.trans h)

/-- The action fails if an abort is kept. -/
theorem fails_of_abortKept (hop : o.opens = true) (hk : o.AbortKept a) (hab : o.aborts a = true) :
    o.fixtureFails a = true := by
  obtain ⟨hsetup, hloop⟩ := hk hop
  rw [aborts_eq o a hop] at hab
  simp only [Outcomes.opens, Bool.and_eq_true, Bool.not_eq_true'] at hop
  unfold Outcomes.fixtureFails
  by_cases hs : o.setup = eTestrunAborted
  · simp [hop, hs, hsetup hs]
  · cases hf : failed o.setup with
    | true => simp [hs, hf] at hab
    | false =>
        have hs' : o.setup ≠ eSetupRoutineFailed := fun h => by simp [h] at hf
        simp only [hop, hs, hs', beq_iff_eq, Bool.or_eq_true, or_self, Bool.not_true, Bool.false_eq_true,
          if_false, List.any_eq_true, Bool.and_eq_true]
        rcases hloop hf with hesc | htd | ⟨htd, hmask⟩
        · exact .inl hesc
        · exact .inr htd
        · -- the abort of a test case is not masked, so it escalates
          have hany : (o.started a).any (o.abortsAt a) = true := by simpa [hs, hf, htd] using hab
          obtain ⟨i, hi, habi⟩ := List.any_eq_true.mp hany
          simp only [Outcomes.started, List.mem_filter, Bool.not_eq_true'] at hi
          refine .inl ⟨i, hi.1, ?_⟩
          by_contra hne
          rw [abortsAt_eq_masked o a hi.2 (by simpa using hne), hmask i hi.1] at habi
          cases habi

/-- Where an abort is lost the run aborts and succeeds. -/
theorem lost_of_not_abortKept (hk : ¬ o.AbortKept a) : o.aborts a = true ∧ o.fixtureFails a = false := by
  unfold Outcomes.AbortKept at hk
  rw [Classical.not_imp] at hk
  obtain ⟨hop, hk⟩ := hk
  rw [aborts_eq o a hop]
  simp only [Outcomes.opens, Bool.and_eq_true, Bool.not_eq_true'] at hop
  unfold Outcomes.fixtureFails
  rw [not_and_or, Classical.not_imp, Classical.not_imp, not_or, not_or] at hk
  rcases hk with ⟨hs, hflag⟩ | ⟨hs, hesc, htd, hlost⟩
  · exact ⟨by simp [hs], by simpa [hop, hs] using hflag⟩
  · have hs₁ : o.setup ≠ eSetupRoutineFailed := fun h => by simp [h] at hs
    have hs₂ : o.setup ≠ eTestrunAborted := fun h => by simp [h] at hs
    have hesc' : ∀ i ∈ o.reached a, o.escalatesAt a i = false := by simpa using hesc
    have hany : (o.reached a).any (o.escalatesAt a) = false := by simpa [List.any_eq_false] using hesc'
    have hfat : (o.reached a).any o.fatalAt = false := by
      by_contra h
      rw [o.any_escalatesAt_of_any_fatalAt a (by simpa using h)] at hany
      cases hany
    have htd' : failed o.teardown = true →
        flagOn a.flags fixtureExecutionEscalateFixtureFailues = false := by simpa using htd
    refine ⟨?_, ?_⟩
    · have hlost' : o.teardown = eTestrunAborted ∨ ∃ i ∈ o.reached a, o.afterMaskedAt i = true := by
        by_cases h : o.teardown = eTestrunAborted
        · exact .inl h
        · exact .inr (by simpa [h] using hlost)
      rcases hlost' with h | ⟨i, hi, hm⟩
      · simp [hs, hfat, h]
      · have hcb : failed (o.beforeTestCaseStart i) = false := by
          simp only [Outcomes.afterMaskedAt, Bool.and_eq_true, Bool.not_eq_true'] at hm
          exact hm.1.1.1
        have hab : o.abortsAt a i = true := (abortsAt_eq_masked o a hcb (hesc' i hi)).trans hm
        have hstarted : (o.started a).any (o.abortsAt a) = true :=
          List.any_eq_true.mpr ⟨i, by simp [Outcomes.started, hi, hcb], hab⟩
        simp [hs, hstarted]
    · cases hf : failed o.teardown with
      | false => simp [hop, hs, hs₁, hs₂, hany]
      | true  => simp [hop, hs, hs₁, hs₂, hany, htd' hf]

/-- **Aborts end the run iff none is lost**: Setup's abort needs its short-circuit flag; without an
    escalating failure, Teardown must not abort, nor an After routine whose test routine failed. -/
theorem abortEndsRun_iff : o.AbortEndsRun a ↔ o.AbortKept a := by
  constructor
  · intro h
    by_contra hk
    obtain ⟨hab, hf⟩ := lost_of_not_abortKept o a hk
    have hrun := (h hab).1
    rw [(o.run_spec a).2, hf] at hrun
    cases hrun
  · intro hk
    cases hop : o.opens with
    | false =>
        intro hab
        rw [Outcomes.aborts, routineCalls_of_not_opens o a hop] at hab
        cases hab
    | true =>
        intro hab
        exact abortEndsRun_of_fails o a (fails_of_abortKept o a hop hk hab) hab

/-- A Setup routine that aborts, without flags: the action succeeds. -/
theorem setup_abort_lost :
    ¬ Outcomes.AbortEndsRun { Outcomes.allOk with setup := eTestrunAborted } (twoTestCases 0#32) := by
  intro h
  have hrun := (h (by decide)).1
  revert hrun
  decide

end Cfix
