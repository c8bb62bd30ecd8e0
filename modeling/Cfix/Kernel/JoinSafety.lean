import Cfix.Kernel.ThreadObjects

/-!
# `Kernel.JoinSafety` — what the join waits for

The join waits on live objects as long as test code keeps a handle or a reference to every child thread that has
exited. An object that is lost before the join stays in the list, so the join finds it there.
-/

namespace Cfix.ThreadObjects

open Transition

/-! ## Lost objects -/

/-- Until the join is over the registered threads have their objects. -/
def Guarded (s : System) : Prop := s.main ≠ .joined → ∀ k ∈ s.childThreads, (s.threads k).Allocated

section Guarded

variable {s s' : System} {k : ThreadId} {a : Action}

theorem Guarded.waitSafe (h : Guarded s) : WaitSafe s := by
  intro hjoining
  apply h
  rw [hjoining]
  exact MainPc.noConfusion

/-- A step that meets the condition keeps the objects. -/
theorem Guarded.step (hinv : Inv s) (hs : Guarded s) (ha : KeepsObject s a) (h : next s a = some s') : Guarded s' := by
  intro hmain k hk
  have hmain' := not_joined_of_step h hmain
  rcases step_registers h hk with hold | ⟨hphase, -⟩
  · have hallocated := hs hmain' k hold
    unfold Thread.Allocated at hallocated ⊢
    have heffect := (step_kept hinv h hold).effect
    cases heffect with
    | none live handles references =>
        rw [live, handles, references]
        exact hallocated
    | exit live dead handles references =>
        have hkeeps := ha hmain' hold
        rw [handles, references]
        exact .inr hkeeps
    | close live handles references =>
        have hkeeps := ha hmain' hold
        rw [live, references]
        rcases hkeeps with hlive | hhandles | hrefs
        · exact .inl hlive
        · refine .inr (.inl ?_)
          omega
        · exact .inr (.inr hrefs)
    | reference allocated live handles references =>
        refine .inr (.inr ?_)
        omega
    | dereference live handles references =>
        have hkeeps := ha hmain' hold
        rw [live, handles]
        rcases hkeeps with hlive | hhandles | hrefs
        · exact .inl hlive
        · exact .inr (.inl hhandles)
        · refine .inr (.inr ?_)
          omega
  · refine .inl ?_
    rw [hphase]
    rfl

/-- A step that does not meet it loses one. -/
theorem keepsObject_of_guarded (hs' : Guarded s') (h : next s a = some s') : KeepsObject s a := by
  cases a with
  | exit y =>
      simp only [next, Option.ite_none_right_eq_some, Option.some.injEq] at h
      obtain ⟨-, rfl⟩ := h
      intro hmain hy
      have hallocated := hs' hmain y hy
      rw [System.setThread_self] at hallocated
      rcases hallocated with hlive | hrest
      · cases hlive
      · exact hrest
  | close y =>
      simp only [next, Option.ite_none_right_eq_some, Option.some.injEq] at h
      obtain ⟨⟨-, hpos⟩, rfl⟩ := h
      intro hmain hy
      have hallocated := hs' hmain y hy
      rw [System.setThread_self] at hallocated
      rcases hallocated with hlive | hhandles | hrefs
      · exact .inl hlive
      · refine .inr (.inl ?_)
        have hleft : 0 < (s.threads y).handles - 1 := hhandles
        omega
      · exact .inr (.inr hrefs)
  | dereference y =>
      simp only [next, Option.ite_none_right_eq_some, Option.some.injEq] at h
      obtain ⟨hpos, rfl⟩ := h
      intro hmain hy
      have hallocated := hs' hmain y hy
      rw [System.setThread_self] at hallocated
      rcases hallocated with hlive | hhandles | hrefs
      · exact .inl hlive
      · exact .inr (.inl hhandles)
      · refine .inr (.inr ?_)
        have hleft : 0 < (s.threads y).references - 1 := hrefs
        omega
  | create creator y | register y pool | resume creator | reference y | beginJoin | endJoin => exact trivial

/-- An object that is gone does not come back. -/
theorem lost_step (hinv : Inv s) (hk : k ∈ s.childThreads) (hlost : ¬ (s.threads k).Allocated)
    (h : next s a = some s') : k ∈ s'.childThreads ∧ ¬ (s'.threads k).Allocated := by
  have hkept := step_kept hinv h hk
  refine ⟨hkept.registered, ?_⟩
  intro hallocated
  apply hlost
  unfold Thread.Allocated at hallocated ⊢
  cases hkept.effect with
  | none live handles references =>
      rw [← live, ← handles, ← references]
      exact hallocated
  | exit live dead handles references      => exact .inl live
  | close live handles references          => exact .inr (.inl (by omega))
  | reference allocated live handles references => exact allocated
  | dereference live handles references    => exact .inr (.inr (by omega))

/-- A run from the routine to the join passes through its start. -/
theorem run_joining {as : List Action} {s : System} (h : run next s as = some s') (hs : s.main.inRoutine = true)
    (hs' : s'.main.inRoutine = false) :
    ∃ bs cs t, as = bs ++ cs ∧ run next s bs = some t ∧ t.main = .joining := by
  induction as generalizing s with
  | nil =>
      cases h
      rw [hs] at hs'
      cases hs'
  | cons a as ih =>
      obtain ⟨u, hu, hrun⟩ := run_cons.mp h
      have hcases : u.main.inRoutine = true ∨ u.main = .joining := by
        rcases step_main hu with hsame | ⟨-, hroutine⟩ | ⟨-, hjoining⟩ | ⟨hjoining, -⟩
        · exact .inl (hsame ▸ hs)
        · exact .inl hroutine
        · exact .inr hjoining
        · rw [hjoining] at hs
          cases hs
      rcases hcases with hroutine | hjoining
      · obtain ⟨bs, cs, t, rfl, ht, hmain⟩ := ih hrun hroutine
        exact ⟨a :: bs, cs, t, rfl, run_cons.mpr ⟨u, hu, ht⟩, hmain⟩
      · exact ⟨[a], as, u, rfl, run_cons.mpr ⟨u, hu, rfl⟩, hjoining⟩

/-- If the join is reached, an object that is lost before is waited for. -/
theorem guarded_of_waitSafe {as : List Action} (hinv : Inv s) (h : run next s as = some s')
    (hs' : s'.main.inRoutine = false) (hsafe : ∀ bs cs t, as = bs ++ cs → run next s bs = some t → WaitSafe t) :
    Guarded s := by
  intro hmain k hk
  by_contra hlost
  have hjoining : ∃ bs cs t, as = bs ++ cs ∧ run next s bs = some t ∧ t.main = .joining := by
    cases hpc : s.main with
    | routine awaits => exact run_joining h (by rw [hpc]; rfl) hs'
    | joining        => exact ⟨[], as, s, rfl, rfl, hpc⟩
    | joined         => exact absurd hpc hmain
  obtain ⟨bs, cs, t, heq, ht, htmain⟩ := hjoining
  have hkept : Inv t ∧ k ∈ t.childThreads ∧ ¬ (t.threads k).Allocated := by
    refine run_invariant (I := fun u => Inv u ∧ k ∈ u.childThreads ∧ ¬ (u.threads k).Allocated) ?_
      ⟨hinv, hk, hlost⟩ ht
    rintro u a u' ⟨hu, hku, hlostu⟩ hstep
    exact ⟨hu.step hstep, lost_step hu hku hlostu hstep⟩
  exact hkept.2.2 (hsafe bs cs t heq ht htmain k hkept.2.1)

end Guarded

/-! ## Every run -/

/-- The filament's functions take no handle and no reference, and give none back. -/
theorem filament_takes_nothing {s s' : System} {a : Action} (ha : a.ofFilament = true) (h : next s a = some s')
    (k : ThreadId) : (s'.threads k).handles = (s.threads k).handles ∧
      (s'.threads k).references = (s.threads k).references := by
  cases a with
  | register y pool =>
      simp only [next, Option.ite_none_right_eq_some, Option.some.injEq] at h
      obtain ⟨-, rfl⟩ := h
      by_cases hk : k = y
      · subst hk
        rw [System.setThread_self]
        exact ⟨rfl, rfl⟩
      · rw [System.setThread_of_ne _ _ hk]
        exact ⟨rfl, rfl⟩
  | beginJoin | endJoin =>
      simp only [next, Option.ite_none_right_eq_some, Option.some.injEq] at h
      obtain ⟨-, rfl⟩ := h
      exact ⟨rfl, rfl⟩
  | create creator y | resume creator | exit y | close y | reference y | dereference y => cases ha

/-- **When the join waits on live objects.** In every run whose steps meet the condition it does, in every
    state; a run that reaches the join and has a step that does not meet the condition has a state in which
    the main thread waits on an object that is gone. The filament itself takes no handle or reference that it
    would have to release. -/
theorem waitSafe_iff {as : List Action} {s : System} (h : run next .initialized as = some s) :
    (Meets next KeepsObject .initialized as →
      ∀ bs cs t, as = bs ++ cs → run next .initialized bs = some t → WaitSafe t) ∧
    (s.main.inRoutine = false →
      (∀ bs cs t, as = bs ++ cs → run next .initialized bs = some t → WaitSafe t) →
      Meets next KeepsObject .initialized as) ∧
    ∀ bs cs t a t', as = bs ++ a :: cs → run next .initialized bs = some t → a.ofFilament = true →
      next t a = some t' → ∀ k, (t'.threads k).handles = (t.threads k).handles ∧
        (t'.threads k).references = (t.threads k).references := by
  have hinitial : Guarded .initialized := fun _ _ hk => nomatch hk
  have halways := always_iff_meets (P := fun t => Inv t ∧ Guarded t) (C := KeepsObject)
    (fun t a t' ht ha hstep => ⟨ht.1.step hstep, ht.2.step ht.1 ha hstep⟩)
    (fun t a t' _ ht' hstep => keepsObject_of_guarded ht'.2 hstep) ⟨inv_initialized, hinitial⟩ h
  refine ⟨?_, ?_, ?_⟩
  · intro hmeets bs cs t heq ht
    exact (halways.mpr hmeets bs cs t heq ht).2.waitSafe
  · intro hjoin hsafe
    apply halways.mp
    intro bs cs t heq ht
    have hinv : Inv t := run_invariant (fun _ _ _ hI hstep => Inv.step hI hstep) inv_initialized ht
    have hrest : run next t cs = some s := by
      rw [heq] at h
      obtain ⟨u, hu, hrest⟩ := run_append.mp h
      rw [ht] at hu
      cases hu
      exact hrest
    refine ⟨hinv, guarded_of_waitSafe hinv hrest hjoin ?_⟩
    intro ds es u hds hu
    exact hsafe (bs ++ ds) es u (by rw [heq, hds, List.append_assoc]) (run_append.mpr ⟨t, ht, hu⟩)
  · intro bs cs t a t' _ _ ha hstep
    exact filament_takes_nothing ha hstep

/-- Test code keeps its handle until the routine is over. -/
def keepsHandle : List Action :=
  [.create .main 0, .register 0 true, .resume .main, .exit 0, .beginJoin, .endJoin, .close 0]

theorem waitSafe_iff_keepsHandle : ∃ s, run next .initialized keepsHandle = some s ∧ s.main = .joined ∧
    (Meets next KeepsObject .initialized keepsHandle ↔
      ∀ bs cs t, keepsHandle = bs ++ cs → run next .initialized bs = some t → WaitSafe t) := by
  have hiff := waitSafe_iff (show run next .initialized keepsHandle = some _ from rfl)
  exact ⟨_, rfl, rfl, hiff.1, hiff.2.1 rfl⟩

/-- Test code waits for a child thread and closes its handle, as it should. The join waits on what is left of
    the object. -/
theorem join_waits_on_freed : ∃ s,
    run next .initialized [.create .main 0, .register 0 true, .resume .main, .exit 0, .close 0, .beginJoin] = some s ∧
      ¬ WaitSafe s := by
  refine ⟨_, rfl, ?_⟩
  intro hsafe
  have hallocated := hsafe rfl 0 (List.mem_singleton.mpr rfl)
  rcases hallocated with hlive | hhandles | hrefs
  · cases hlive
  · cases hhandles
  · cases hrefs

end Cfix.ThreadObjects
