import Cfix.Sequence.Termination

/-!
# `Sequence.Composition` — sequences of sequences

A sequence may contain sequences. As long as none contains itself, directly or indirectly, what is called ends
and every sequence is freed after the references from outside are gone. `CfixAddEntrySequenceAction` rejects
only the sequence itself (`composed_iff`, `mutual_sequences`).
-/

namespace Cfix.Sequence

open Acyclic Relation Transition

/-! ## Freeing -/

/-- **Nothing is left** when there are no activations and no references from outside: what is left would be
    an entry of something that is left. -/
theorem Invariant.freed {s : State} (h : Invariant s) (hacyclic : IsAcyclic s.Contains) (hidle : s.stack = [])
    (hexternal : ∀ x, s.external x = 0) (x : ActionId) : s.heap x = none := by
  have hwf : WellFounded s.Contains := by
    apply hacyclic.swap.wellFounded (Set.finite_Iio s.next)
    rintro z y ⟨o, ho, hz⟩
    obtain ⟨o', ho'⟩ := h.sound.exists_of_mem_entries ho hz
    exact h.sound.lt_next ho'
  induction x using hwf.induction with
  | h x ih =>
      have hcontained : s.contained x = 0 := by
        apply Finset.sum_eq_zero
        intro y _
        cases hy : s.heap y with
        | none   => rfl
        | some o =>
            rw [entryCount_some, List.count_eq_zero]
            intro hmem
            rw [ih y ⟨o, hy, hmem⟩] at hy
            cases hy
      cases hx : s.heap x with
      | none   => rfl
      | some o =>
          have hpos := h.sound.positive x o hx
          have hbal := h.sound.balance x
          have hrefs : s.refs x = o.referenceCount := by simp [State.refs, hx]
          have hheld : s.held x = 0 := by simp [State.held, hidle]
          rw [State.owners, hexternal x, hcontained, hheld, hrefs, List.count_nil] at hbal
          omega

/-! ## Composed actions -/

/-- References are given back, and nothing else is called. -/
def Step.drops : Step → Bool
  | .dereference _ | .finish _ | .resume _                       => true
  | .create _ | .add _ _ _ | .reference _ | .invoke _ _ _        => false

theorem Step.keeps_of_drops {a : Step} (h : a.drops = true) : a.keeps = true := by
  cases a with
  | dereference x | finish hr | resume malloc           => rfl
  | create b | add q x m | reference x | invoke x c m   => cases h

/-- **Composed actions are in order**: no sequence contains itself, what is called ends, and after the
    references from outside are dropped nothing is left. -/
structure Composed (s : State) : Prop where
  acyclic    : IsAcyclic s.Contains
  terminates : ∀ a s', a.keeps = true → next s a = some s' → Terminates s'
  freed      : ∀ as s', (∀ a ∈ as, Step.drops a = true) → run next s as = some s' → s'.stack = [] →
    (∀ x, s'.external x = 0) → ∀ x, s'.heap x = none

/-- The call does not add an action to a sequence that the action contains, directly or indirectly. -/
def ClosesNoCycle (s : State) : Step → Prop
  | .add q x malloc => s.IsSequence q ∧ x ≠ q ∧ malloc = true → ¬ ReflTransGen s.Contains x q
  | _               => True

section Runs

variable {s s' : State}

theorem Invariant.composed (h : Invariant s) (hacyclic : IsAcyclic s.Contains) : Composed s where
  acyclic    := hacyclic
  terminates := by
    intro a s' ha hstep
    exact (h.step hstep).terminates (hacyclic.mono fun _ _ => (step_shrinks ha hstep).contains)
  freed      := by
    intro as s' has hrun
    have hkept : Invariant s' ∧ IsAcyclic s'.Contains := by
      refine run_induction (C := fun _ a => Step.drops a = true)
        (I := fun t => Invariant t ∧ IsAcyclic t.Contains) ?_ ⟨h, hacyclic⟩ ?_ hrun
      · rintro t a t' ⟨ht, hta⟩ ha hstep
        exact ⟨ht.step hstep, hta.mono fun _ _ => (step_shrinks (Step.keeps_of_drops ha) hstep).contains⟩
      · exact meets_of_all has s
    exact hkept.1.freed hkept.2

/-- A step that closes no cycle keeps the sequences without cycles. -/
theorem acyclic_step {a : Step} (hacyclic : IsAcyclic s.Contains) (ha : ClosesNoCycle s a)
    (hstep : next s a = some s') : IsAcyclic s'.Contains := by
  cases a with
  | create isSequence => exact hacyclic.mono fun _ _ => create_contains hstep
  | add q x malloc    =>
      rcases add_contains hstep with ⟨haccept, hcontains⟩ | ⟨-, rfl⟩
      · have hedge := (isAcyclic_withEdge hacyclic).mpr (ha haccept)
        exact hedge.mono fun y z => (hcontains y z).mp
      · exact hacyclic
  | reference x | dereference x | invoke x c m | finish hr | resume m =>
      exact hacyclic.mono fun _ _ => (step_shrinks rfl hstep).contains

theorem closesNoCycle_of_acyclic {a : Step} (hacyclic : IsAcyclic s.Contains) (hacyclic' : IsAcyclic s'.Contains)
    (hstep : next s a = some s') : ClosesNoCycle s a := by
  cases a with
  | add q x malloc =>
      intro haccept
      rcases add_contains hstep with ⟨-, hcontains⟩ | ⟨hreject, -⟩
      · exact (isAcyclic_withEdge hacyclic).mp (hacyclic'.mono fun y z => (hcontains y z).mpr)
      · exact absurd haccept hreject
  | create b | reference x | dereference x | invoke x c m | finish hr | resume m => exact trivial

end Runs

/-- **When composed actions are in order.** In every run, they are in every state exactly if no accepted call
    adds an action to a sequence that the action contains. -/
theorem composed_iff {as : List Step} {s : State} (h : run next .initial as = some s) :
    (∀ bs cs t, as = bs ++ cs → run next .initial bs = some t → Composed t) ↔
      Meets next ClosesNoCycle .initial as := by
  have hinitial : IsAcyclic State.initial.Contains := by
    intro x hx
    obtain ⟨y, ⟨o, ho, -⟩, -⟩ := TransGen.head'_iff.mp hx
    cases ho
  have halways := always_iff_meets (P := fun t => Invariant t ∧ IsAcyclic t.Contains) (C := ClosesNoCycle)
    (fun t a t' ht ha hstep => ⟨ht.1.step hstep, acyclic_step ht.2 ha hstep⟩)
    (fun t a t' ht ht' hstep => closesNoCycle_of_acyclic ht.2 ht'.2 hstep) ⟨.initial, hinitial⟩ h
  rw [← halways]
  constructor
  · intro hall bs cs t heq hrun
    exact ⟨.reachable hrun, (hall bs cs t heq hrun).acyclic⟩
  · intro hall bs cs t heq hrun
    obtain ⟨hinv, hacyclic⟩ := hall bs cs t heq hrun
    exact hinv.composed hacyclic

/-- A sequence in a sequence in a sequence, and an action in all of them. -/
def nested : List Step :=
  [.create true, .create true, .create true, .create false, .add 2 3 true, .add 1 3 true, .add 1 2 true,
    .add 0 1 true, .add 0 3 true]

theorem composed_iff_nested : ∃ s, run next .initial nested = some s ∧
    ((∀ bs cs t, nested = bs ++ cs → run next .initial bs = some t → Composed t) ↔
      Meets next ClosesNoCycle .initial nested) :=
  ⟨_, rfl, composed_iff rfl⟩

/-- Two sequences that contain each other: the calls are accepted, and the sequences are left when the
    references from outside are dropped. -/
theorem mutual_sequences : ∃ s s',
    run next .initial [.create true, .create true, .add 0 1 true, .add 1 0 true] = some s ∧
      ¬ IsAcyclic s.Contains ∧ run next s [.dereference 0, .dereference 1] = some s' ∧ s'.stack = [] ∧
      s'.external 0 = 0 ∧ s'.external 1 = 0 ∧ (s'.heap 0).isSome ∧ (s'.heap 1).isSome := by
  refine ⟨_, _, rfl, ?_, rfl, rfl, rfl, rfl, rfl, rfl⟩
  intro hacyclic
  apply hacyclic 0
  refine .tail (.single (b := 1) ?_) ?_
  · exact ⟨⟨true, 2, [1], 1⟩, rfl, List.mem_singleton.mpr rfl⟩
  · exact ⟨⟨true, 2, [0], 1⟩, rfl, List.mem_singleton.mpr rfl⟩

end Cfix.Sequence
