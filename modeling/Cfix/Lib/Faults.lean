import Cfix.Lib.Transition

/-!
# `Lib.Faults` — systems whose steps can go wrong

A step that uses memory which is not there any more does not lead to a state, and it is not the same as a step that
has to wait. `Taken` tells the two apart, and `safe_run` is the rule for both what holds in all states of a run and
that no step goes wrong there.
-/

namespace Transition

variable {σ α : Type}

/-- What comes of an action: it is not enabled, it goes wrong, or it leads to a state. -/
inductive Taken (σ : Type) where
  | disabled
  | faults
  | done (s : σ)

/-- A step that accesses memory, of which `none` says that it is not there. -/
def Taken.of {β : Type} (x : Option β) (k : β → σ) : Taken σ :=
  match x with
  | none   => .faults
  | some b => .done (k b)

/-- An action that is taken does not go wrong and leads to a state of `I`. -/
def Taken.Keeps (I : σ → Prop) : Taken σ → Prop
  | .disabled => True
  | .faults   => False
  | .done s   => I s

/-- The partial transition function of the steps that do not go wrong. -/
def nextOf (step : σ → α → Taken σ) (s : σ) (a : α) : Option σ :=
  match step s a with
  | .done s' => some s'
  | _        => none

variable {step : σ → α → Taken σ} {I J : σ → Prop} {s s' : σ} {a : α}

theorem nextOf_eq_some : nextOf step s a = some s' ↔ step s a = .done s' := by
  unfold nextOf
  cases step s a with
  | disabled => simp
  | faults   => simp
  | done t   => simp

theorem Taken.Keeps.ne_faults {r : Taken σ} (h : r.Keeps I) : r ≠ .faults := by
  rintro rfl
  exact h

theorem Taken.Keeps.imp {r : Taken σ} (h : r.Keeps I) (himp : ∀ s, I s → J s) : r.Keeps J := by
  cases r with
  | disabled => trivial
  | faults   => exact h
  | done s   => exact himp s h

/-- **Safety rule.** If the steps keep the invariant, it holds at the end of every run, and no step goes wrong there. -/
theorem safe_run (hstep : ∀ s a, I s → (step s a).Keeps I) {as : List α} (hs : I s)
    (hr : run (nextOf step) s as = some s') : I s' ∧ ∀ a, step s' a ≠ .faults := by
  have hkeep : ∀ s a s', I s → nextOf step s a = some s' → I s' := by
    intro s a s' hI hnext
    have hkeeps := hstep s a hI
    rw [nextOf_eq_some.mp hnext] at hkeeps
    exact hkeeps
  have hI := run_invariant hkeep hs hr
  exact ⟨hI, fun a => (hstep s' a hI).ne_faults⟩

end Transition
