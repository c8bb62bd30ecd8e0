import Cfix.Filament.Outcome

/-!
# `Filament.Locks` — the locks around a change of the current filament

A completed call leaves the locks as they were, except for the default filament's lock on a conflict. A
call completes when the locks that it needs can be entered.
-/

namespace Cfix.Thread

variable (F : FilamentId → Filament)

section Calls

variable {F} {t : ThreadId} {old new prev : Option FilamentId} {derived : Bool} {handleHr hr : HRESULT}
  {w w' : World}

/-! ## After a call -/

theorem registerChildThreadFilament_locks {f : FilamentId}
    (h : registerChildThreadFilament f t w = some (hr, w')) :
    w'.childLock = w.childLock ∧ w'.defaultLock = w.defaultLock := by
  obtain ⟨lock, henter, heq⟩ := Option.map_eq_some_iff.mp h
  split at heq
  · cases heq
    exact ⟨rfl, rfl⟩
  · cases heq
    refine ⟨?_, rfl⟩
    show Function.update w.childLock f lock.leave = w.childLock
    rw [CriticalSection.leave_enter henter, Function.update_eq_self]

theorem setDefaultFilament_locks {f : Option FilamentId} (h : setDefaultFilament t f w = some (hr, w')) :
    w'.childLock = w.childLock ∧
      (w'.defaultLock = w.defaultLock ∨ (w.default_.isSome && f.isSome) = true) := by
  obtain ⟨lock, henter, heq⟩ := Option.map_eq_some_iff.mp h
  split at heq
  · rename_i hc
    cases heq
    exact ⟨rfl, .inr hc⟩
  · cases heq
    exact ⟨rfl, .inl (CriticalSection.leave_enter henter)⟩

theorem registerCurrentThread_locks (h : registerCurrentThread F t new handleHr w = some (hr, w')) :
    w'.childLock = w.childLock ∧ w'.defaultLock = w.defaultLock := by
  cases new with
  | none =>
      cases h
      exact ⟨rfl, rfl⟩
  | some f =>
      simp only [registerCurrentThread] at h
      split at h
      · split at h
        · cases h
          exact ⟨rfl, rfl⟩
        · obtain ⟨⟨hr', w₁⟩, h₁, heq⟩ := Option.map_eq_some_iff.mp h
          have hlocks := registerChildThreadFilament_locks h₁
          simp only at heq
          split at heq <;> (cases heq; exact hlocks)
      · cases h
        exact ⟨rfl, rfl⟩

theorem updateDefault_locks (h : updateDefault F t old new w = some (hr, w')) :
    w'.childLock = w.childLock ∧ (w'.defaultLock = w.defaultLock ∨ w.conflicts F t new = true) := by
  cases new with
  | some f =>
      simp only [updateDefault] at h
      split at h
      · obtain ⟨⟨hr', w₁⟩, h₁, heq⟩ := Option.map_eq_some_iff.mp h
        cases heq
        obtain ⟨hchild, hlock | hc⟩ := setDefaultFilament_locks h₁
        · exact ⟨hchild, .inl hlock⟩
        · simp at hc
      · rename_i hflag
        split at h
        · rename_i hmain
          obtain ⟨hchild, hlock | hc⟩ := setDefaultFilament_locks h
          · exact ⟨hchild, .inl hlock⟩
          · refine ⟨hchild, .inr ?_⟩
            have hsome : w.default_.isSome = true := by simpa [World.addRef] using hc
            have hflag' : (F f).providesDefault = true := by simpa using hflag
            simp [World.conflicts, hflag', hmain, hsome]
        · cases h
          exact ⟨rfl, .inl rfl⟩
  | none =>
      cases old with
      | none =>
          cases h
          exact ⟨rfl, .inl rfl⟩
      | some o =>
          simp only [updateDefault] at h
          split at h
          · obtain ⟨⟨hr', w₁⟩, h₁, heq⟩ := Option.map_eq_some_iff.mp h
            cases heq
            obtain ⟨hchild, hlock | hc⟩ := setDefaultFilament_locks h₁
            · exact ⟨hchild, .inl hlock⟩
            · simp at hc
          · cases h
            exact ⟨rfl, .inl rfl⟩

/-- **A completed call leaves the locks as they were, unless it conflicts.** -/
theorem setCurrentFilament_locks
    (h : setCurrentFilament F t new derived handleHr w = some (hr, prev, w')) :
    w'.childLock = w.childLock ∧ (w'.defaultLock = w.defaultLock ∨ w.conflicts F t new = true) := by
  obtain ⟨-, hdef₀, -, hlock₀, hchild₀⟩ := dereferenceOld_frame F (w.tls t).filament w
  simp only [setCurrentFilament] at h
  split at h
  · cases h
  · rename_i hr₁ w₁ h₁
    obtain ⟨hchild₁, hlock₁⟩ := registerCurrentThread_locks h₁
    have hdef₁ : failed hr₁ = false → w₁.default_ = w.default_ := by
      intro hok
      rcases registerCurrentThread_some F h₁ with ⟨-, -, -, hd, -⟩ | ⟨-, hf, rfl, rfl⟩ | ⟨-, -, -, rfl, rfl⟩
      · rw [hd, hdef₀]
      · exact hdef₀
      · exact hdef₀
    split at h
    · cases h
      exact ⟨hchild₁.trans hchild₀, .inl (hlock₁.trans hlock₀)⟩
    · rename_i hok
      have hconf : w₁.conflicts F t new = w.conflicts F t new := by
        cases new with
        | none => rfl
        | some f => simp only [World.conflicts, hdef₁ (by simpa using hok)]
      split at h
      · cases h
      · rename_i hr₂ w₂ h₂
        obtain ⟨hchild₂, hlock₂⟩ := updateDefault_locks h₂
        have hchild : w₂.childLock = w.childLock := hchild₂.trans (hchild₁.trans hchild₀)
        have hlock : w₂.defaultLock = w.defaultLock ∨ w.conflicts F t new = true := by
          rw [← hconf, ← hlock₀, ← hlock₁]
          exact hlock₂
        split at h <;> (cases h; exact ⟨hchild, hlock⟩)

/-- A thread that attaches itself leaves the locks as they were. -/
theorem getCurrentFilament_locks {v : TlsValue} {d : FilamentId} (hd : w.default_ = some d)
    (hmain : t ≠ (F d).mainThreadId) (h : getCurrentFilament F t handleHr w = some (hr, v, w')) :
    w'.childLock = w.childLock ∧ w'.defaultLock = w.defaultLock := by
  unfold getCurrentFilament at h
  split at h
  · cases h
    exact ⟨rfl, rfl⟩
  · rw [hd] at h
    simp only at h
    split at h
    · cases h
    · rename_i lock henter
      split at h
      · cases h
      · rename_i hr₁ prev w₁ h₁
        obtain ⟨hchild, hlock⟩ := setCurrentFilament_locks h₁
        have hlock' : w₁.defaultLock = lock := by
          rcases hlock with hlock | hc
          · exact hlock
          · simp [World.conflicts, hmain] at hc
        have hleave : w₁.defaultLock.leave = w.defaultLock := by
          rw [hlock', CriticalSection.leave_enter henter]
        split at h <;> (cases h; exact ⟨hchild, hleave⟩)

/-! ## Completing -/

theorem setDefaultFilament_isSome (f : Option FilamentId) (h : (w.defaultLock.enter t).isSome) :
    (setDefaultFilament t f w).isSome := by
  unfold setDefaultFilament
  rw [Option.isSome_map]
  exact h

theorem registerCurrentThread_isSome
    (h : ∀ f, new = some f → t ≠ (F f).mainThreadId → ((w.childLock f).enter t).isSome) :
    (registerCurrentThread F t new handleHr w).isSome := by
  cases new with
  | none => rfl
  | some f =>
      simp only [registerCurrentThread]
      split
      · rename_i hmain
        split
        · rfl
        · rw [Option.isSome_map, registerChildThreadFilament, Option.isSome_map]
          exact h f rfl hmain
      · rfl

/-- The last part of the call sets or revokes the default filament. -/
def usesDefaultLock (F : FilamentId → Filament) (t : ThreadId) (old : Option FilamentId) :
    Option FilamentId → Bool
  | some f => !(F f).providesDefault || t == (F f).mainThreadId
  | none   =>
    match old with
    | some o => t == (F o).mainThreadId && (F o).providesDefault
    | none   => false

theorem updateDefault_isSome (h : usesDefaultLock F t old new = true → (w.defaultLock.enter t).isSome) :
    (updateDefault F t old new w).isSome := by
  cases new with
  | some f =>
      simp only [usesDefaultLock, Bool.or_eq_true, Bool.not_eq_true', beq_iff_eq] at h
      simp only [updateDefault]
      split
      · rename_i hflag
        rw [Option.isSome_map]
        exact setDefaultFilament_isSome none (h (.inl (by simpa using hflag)))
      · split
        · rename_i hmain
          exact setDefaultFilament_isSome (some f) (h (.inr hmain))
        · rfl
  | none =>
      cases old with
      | none => rfl
      | some o =>
          simp only [usesDefaultLock, Bool.and_eq_true, beq_iff_eq] at h
          simp only [updateDefault]
          split
          · rename_i ho
            rw [Option.isSome_map]
            exact setDefaultFilament_isSome none (h ho)
          · rfl

/-- **A call completes** if the child thread lock can be entered where the thread registers, and the default
    filament's lock where it is used. -/
theorem setCurrentFilament_isSome
    (hchild : ∀ f, new = some f → t ≠ (F f).mainThreadId → ((w.childLock f).enter t).isSome)
    (hdef : usesDefaultLock F t (w.tls t).filament new = true → (w.defaultLock.enter t).isSome) :
    (setCurrentFilament F t new derived handleHr w).isSome := by
  obtain ⟨-, -, -, hlock₀, hchild₀⟩ := dereferenceOld_frame F (w.tls t).filament w
  have hreg : (registerCurrentThread F t new handleHr (dereferenceOld F (w.tls t).filament w)).isSome := by
    apply registerCurrentThread_isSome
    rw [hchild₀]
    exact hchild
  obtain ⟨⟨hr₁, w₁⟩, h₁⟩ := Option.isSome_iff_exists.mp hreg
  have hupd : (updateDefault F t (w.tls t).filament new w₁).isSome := by
    apply updateDefault_isSome
    rw [(registerCurrentThread_locks h₁).2, hlock₀]
    exact hdef
  obtain ⟨⟨hr₂, w₂⟩, h₂⟩ := Option.isSome_iff_exists.mp hupd
  simp only [setCurrentFilament, h₁, h₂]
  split
  · rfl
  · split <;> rfl

/-- A thread that has to register blocks while the child thread lock cannot be entered. -/
theorem setCurrentFilament_eq_none {f : FilamentId} (hmain : t ≠ (F f).mainThreadId)
    (hhandle : failed handleHr = false) (hlock : (w.childLock f).enter t = none) :
    setCurrentFilament F t (some f) derived handleHr w = none := by
  obtain ⟨-, -, -, -, hchild₀⟩ := dereferenceOld_frame F (w.tls t).filament w
  have hreg : registerCurrentThread F t (some f) handleHr (dereferenceOld F (w.tls t).filament w) = none := by
    simp only [registerCurrentThread, if_pos hmain, hhandle, Bool.false_eq_true, if_false,
      registerChildThreadFilament, hchild₀, hlock, Option.map_none]
  simp only [setCurrentFilament, hreg]

end Calls

end Cfix.Thread
