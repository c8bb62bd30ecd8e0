import Mathlib.Data.List.Basic

/-!
# `Lib.Transition` — partial transition functions, their runs and invariants

A system is a function `next : σ → α → Option σ`: `none` says that the action is not enabled. Any
interleaving of concurrent parties is a list of actions, so a property of all interleavings is a property
of all lists. `Meets` restricts a run by a condition on every step; `run_induction` is the one induction
that the invariants of the clients use.
-/

namespace Transition

variable {σ α : Type}

/-- The state after the actions, if each was enabled when its turn came. -/
def run (next : σ → α → Option σ) : σ → List α → Option σ
  | s, []      => some s
  | s, a :: as =>
    match next s a with
    | none    => none
    | some s' => run next s' as

/-- Every action of the run satisfies `C` in the state it is taken in. -/
def Meets (next : σ → α → Option σ) (C : σ → α → Prop) : σ → List α → Prop
  | _, []      => True
  | s, a :: as => C s a ∧ ∀ s', next s a = some s' → Meets next C s' as

variable {next : σ → α → Option σ} {C : σ → α → Prop}

@[simp] theorem run_nil (s : σ) : run next s [] = some s := rfl

/-- The first step of a run, and the run that follows it. -/
theorem run_cons {s s' : σ} {a : α} {as : List α} :
    run next s (a :: as) = some s' ↔ ∃ t, next s a = some t ∧ run next t as = some s' := by
  simp only [run]
  cases h : next s a with
  | none   => simp
  | some t => simp

theorem run_append {s s' : σ} {as bs : List α} :
    run next s (as ++ bs) = some s' ↔ ∃ t, run next s as = some t ∧ run next t bs = some s' := by
  induction as generalizing s with
  | nil => simp
  | cons a as ih =>
      simp only [List.cons_append, run_cons, ih]
      constructor
      · rintro ⟨t, ht, u, hu, hb⟩
        exact ⟨u, ⟨t, ht, hu⟩, hb⟩
      · rintro ⟨u, ⟨t, ht, hu⟩, hb⟩
        exact ⟨t, ht, u, hu, hb⟩

/-- A run meets the condition if its first step does and the rest does from there. -/
theorem Meets.cons {s t : σ} {a : α} {as : List α} (h : next s a = some t) (hC : C s a)
    (hm : Meets next C t as) : Meets next C s (a :: as) := by
  refine ⟨hC, ?_⟩
  intro s' hs'
  rw [h] at hs'
  cases hs'
  exact hm

/-- The unrestricted condition is met by every run. -/
theorem meets_of_forall (hC : ∀ s a, C s a) (s : σ) (as : List α) : Meets next C s as := by
  induction as generalizing s with
  | nil => exact trivial
  | cons a as ih => exact ⟨hC s a, fun s' _ => ih s'⟩

/-- A condition on the actions alone. -/
theorem meets_of_all {D : α → Prop} {as : List α} (h : ∀ a ∈ as, D a) (s : σ) : Meets next (fun _ => D) s as := by
  induction as generalizing s with
  | nil => exact trivial
  | cons a as ih =>
      exact ⟨h a List.mem_cons_self, fun s' _ => ih (fun b hb => h b (List.mem_cons_of_mem _ hb)) s'⟩

/-- **Invariant rule.** What holds at the start and is kept by every step that meets the condition holds
    at the end of every run that meets it. -/
theorem run_induction {I : σ → Prop}
    (hstep : ∀ s a s', I s → C s a → next s a = some s' → I s')
    {s s' : σ} {as : List α} (hs : I s) (hm : Meets next C s as) (hr : run next s as = some s') :
    I s' := by
  induction as generalizing s with
  | nil =>
      cases hr
      exact hs
  | cons a as ih =>
      obtain ⟨t, ht, htr⟩ := run_cons.mp hr
      exact ih (hstep s a t hs hm.1 ht) (hm.2 t ht) htr

/-- Two conditions that agree where an invariant holds are met by the same runs, if the invariant is kept
    by the steps that meet the first. -/
theorem meets_congr {D : σ → α → Prop} {I : σ → Prop}
    (hiff : ∀ s a s', I s → next s a = some s' → (C s a ↔ D s a))
    (hstep : ∀ s a s', I s → C s a → next s a = some s' → I s')
    {s s' : σ} {as : List α} (hs : I s) (hr : run next s as = some s') :
    Meets next C s as ↔ Meets next D s as := by
  induction as generalizing s with
  | nil => exact Iff.rfl
  | cons a as ih =>
      obtain ⟨t, ht, htr⟩ := run_cons.mp hr
      have ha := hiff s a t hs ht
      constructor
      · rintro ⟨hC, hrest⟩
        exact .cons ht (ha.mp hC) ((ih (hstep s a t hs hC ht) htr).mp (hrest t ht))
      · rintro ⟨hD, hrest⟩
        have hC := ha.mpr hD
        exact .cons ht hC ((ih (hstep s a t hs hC ht) htr).mpr (hrest t ht))

/-- What every step keeps if it meets the condition, and loses if it does not, holds in all states of a run
    exactly if the run meets the condition. -/
theorem always_iff_meets {P : σ → Prop} (hkeep : ∀ s a s', P s → C s a → next s a = some s' → P s')
    (hneed : ∀ s a s', P s → P s' → next s a = some s' → C s a) {s s' : σ} {as : List α} (hs : P s)
    (hr : run next s as = some s') :
    (∀ bs cs t, as = bs ++ cs → run next s bs = some t → P t) ↔ Meets next C s as := by
  induction as generalizing s with
  | nil =>
      constructor
      · exact fun _ => trivial
      · intro _ bs cs t heq ht
        obtain ⟨rfl, -⟩ := List.append_eq_nil_iff.mp heq.symm
        cases ht
        exact hs
  | cons a as ih =>
      obtain ⟨t, ht, htr⟩ := run_cons.mp hr
      constructor
      · intro h
        have hPt : P t := h [a] as t rfl (run_cons.mpr ⟨t, ht, rfl⟩)
        refine .cons ht (hneed s a t hs hPt ht) ((ih hPt htr).mp ?_)
        intro bs cs u heq hu
        exact h (a :: bs) cs u (by rw [heq]; rfl) (run_cons.mpr ⟨t, ht, hu⟩)
      · intro hm bs cs u heq hu
        cases bs with
        | nil =>
            cases hu
            exact hs
        | cons b bs =>
            obtain ⟨rfl, hrest⟩ := List.cons.inj heq
            obtain ⟨t', ht', hu⟩ := run_cons.mp hu
            rw [ht] at ht'
            cases ht'
            have hPt := hkeep s a t hs hm.1 ht
            exact (ih hPt htr).mpr (hm.2 t ht) bs cs u hrest hu

/-- The invariant rule for runs without a condition. -/
theorem run_invariant {I : σ → Prop} (hstep : ∀ s a s', I s → next s a = some s' → I s')
    {s s' : σ} {as : List α} (hs : I s) (hr : run next s as = some s') : I s' :=
  run_induction (C := fun _ _ => True) (fun s a s' hI _ h => hstep s a s' hI h) hs
    (meets_of_forall (fun _ _ => trivial) s as) hr

end Transition
