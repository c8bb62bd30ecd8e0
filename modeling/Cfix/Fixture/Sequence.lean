import Cfix.Base.Hresult

/-!
# `Fixture.Sequence` — the sequence action (`sequenceaction.c`)

An action is what its `Run` method does to a state `σ`. The sequence action runs its entries in order and
stops at the first failure.
-/

namespace Cfix

variable {σ : Type}

/-- The loop of `CfixsRunSequenceAction` over the collected actions; `hr` is the current value of `Hr`. -/
def runActions : List (σ → HRESULT × σ) → HRESULT → σ → HRESULT × σ
  | [], hr, s => (hr, s)
  | run :: rest, _, s =>
    let (hr, s) := run s
    if failed hr then (hr, s) else runActions rest hr s

/-- `CfixsRunSequenceAction`; `malloc` says whether the array of actions can be allocated. `ActionsCount` is a `UINT`:
    this is the function for fewer than 2^32 actions. -/
def runSequenceAction (isValidContext malloc : Bool) (actions : List (σ → HRESULT × σ)) (s : σ) :
    HRESULT × σ :=
  if !isValidContext then (eInvalidarg, s)
  else if actions.isEmpty then (sOk, s)
  else if !malloc then (eOutofmemory, s)
  else runActions actions sOk s

variable {pre post : List (σ → HRESULT × σ)} {run : σ → HRESULT × σ} {hr : HRESULT} {s : σ}

/-- Actions that all succeed are followed by the rest of the sequence. -/
theorem runActions_append (hs : failed (runActions pre hr s).1 = false) :
    runActions (pre ++ post) hr s = runActions post (runActions pre hr s).1 (runActions pre hr s).2 := by
  induction pre generalizing hr s with
  | nil => rfl
  | cons x xs ih =>
      simp only [List.cons_append, runActions] at hs ⊢
      cases hx : failed (x s).1 with
      | true  => simp [hx] at hs
      | false =>
          simp only [hx, Bool.false_eq_true, if_false] at hs ⊢
          exact ih hs

/-- **A failing action ends the sequence**: what is left of the run is the run of that action, whatever
    the later actions are. -/
theorem runActions_failed (hs : failed (runActions pre hr s).1 = false)
    (hf : failed (run (runActions pre hr s).2).1 = true) :
    runActions (pre ++ run :: post) hr s = run (runActions pre hr s).2 := by
  rw [runActions_append hs, runActions]
  simp [hf]

/-- The same for the sequence action, once it runs its actions at all. -/
theorem runSequenceAction_failed (hs : failed (runActions pre sOk s).1 = false)
    (hf : failed (run (runActions pre sOk s).2).1 = true) :
    runSequenceAction true true (pre ++ run :: post) s = run (runActions pre sOk s).2 := by
  have hne : (pre ++ run :: post).isEmpty = false := by simp
  rw [runSequenceAction, hne]
  exact runActions_failed hs hf

variable {actions : List (σ → HRESULT × σ)} {P : σ → Prop}

/-- What each action keeps is kept by the actions together, wherever they stop. -/
theorem runActions_preserves (h : ∀ run ∈ actions, ∀ s, P s → P (run s).2) (hr : HRESULT) (hs : P s) :
    P (runActions actions hr s).2 := by
  induction actions generalizing hr s with
  | nil => exact hs
  | cons x xs ih =>
      have hfirst := h x List.mem_cons_self s hs
      rw [runActions]
      cases hx : failed (x s).1 with
      | true  => simpa [hx] using hfirst
      | false => simpa [hx] using ih (fun run hrun => h run (List.mem_cons_of_mem _ hrun)) (x s).1 hfirst

/-- The same for the sequence action, which may also end before it runs any of them. -/
theorem runSequenceAction_preserves (h : ∀ run ∈ actions, ∀ s, P s → P (run s).2) (isValidContext malloc : Bool)
    (hs : P s) : P (runSequenceAction isValidContext malloc actions s).2 := by
  unfold runSequenceAction
  split
  · exact hs
  · split
    · exact hs
    · split
      · exact hs
      · exact runActions_preserves h sOk hs

/-- Without memory for the array nothing is run. -/
theorem runSequenceAction_noMemory (isValidContext : Bool) :
    (runSequenceAction isValidContext false actions s).2 = s := by
  unfold runSequenceAction
  split
  · rfl
  · split <;> rfl

end Cfix
