import Cfix.Filament.Current

/-!
# `Filament.Outcome` — what a call of `CfixsSetCurrentFilament` does

A completed call has one of four outcomes (`SetOutcome`): the filament is installed, the thread handle
cannot be duplicated, the child thread list is full, or the default filament is taken.
-/

namespace Cfix.Thread

variable (F : FilamentId → Filament)

/-! ## Outcomes -/

/-- The execution context that a current filament belongs to. -/
def contextOf (x : Option FilamentId) : Option ContextId := x.map (fun f => (F f).executionContext)

/-- The references that one current filament accounts for. -/
def refsOf (x : Option FilamentId) (c : ContextId) : Int := if contextOf F x = some c then 1 else 0

/-- The default filament after a successful call. -/
def defaultAfter (t : ThreadId) (old new default_ : Option FilamentId) : Option FilamentId :=
  match new with
  | some f =>
    if !(F f).providesDefault then none else if t = (F f).mainThreadId then some f else default_
  | none =>
    match old with
    | some o => if t = (F o).mainThreadId ∧ (F o).providesDefault then none else default_
    | none   => default_

/-- The child thread lists after a successful call. -/
def childThreadsAfter (t : ThreadId) (new : Option FilamentId) (lists : FilamentId → List ThreadId) :
    FilamentId → List ThreadId :=
  match new with
  | some f => if t ≠ (F f).mainThreadId then Function.update lists f (lists f ++ [t]) else lists
  | none   => lists

/-- The child thread list of the new filament is full. -/
def World.full (w : World) : Option FilamentId → Bool
  | some f => (w.childThreads f).length == cfixMaxThreads
  | none   => false

/-- Thread `t` is to provide a default filament though there is one. -/
def World.conflicts (w : World) (t : ThreadId) : Option FilamentId → Bool
  | some f => (F f).providesDefault && t == (F f).mainThreadId && w.default_.isSome
  | none   => false

/-- The outcomes of a call that completes, with their effect on everything but the locks. -/
inductive SetOutcome (t : ThreadId) (new : Option FilamentId) (derived : Bool) (handleHr : HRESULT)
    (w : World) : HRESULT → Option FilamentId → World → Prop where
  | installed {w' : World} :
      (registersAsChild F t new = true → failed handleHr = false ∧ w.full new = false) →
      w.conflicts F t new = false →
      w'.tls = Function.update w.tls t ⟨new, derived⟩ →
      w'.default_ = defaultAfter F t (w.tls t).filament new w.default_ →
      w'.childThreads = childThreadsAfter F t new w.childThreads →
      (∀ c, w'.contextRefs c = w.contextRefs c - refsOf F (w.tls t).filament c + refsOf F new c) →
      SetOutcome t new derived handleHr w sOk (w.tls t).filament w'
  | noHandle {w' : World} : registersAsChild F t new = true → failed handleHr = true →
      w'.tls = w.tls → w'.default_ = w.default_ → w'.childThreads = w.childThreads →
      (∀ c, w'.contextRefs c = w.contextRefs c - refsOf F (w.tls t).filament c) →
      SetOutcome t new derived handleHr w handleHr none w'
  | tooMany {w' : World} :
      registersAsChild F t new = true → failed handleHr = false → w.full new = true →
      w'.tls = Function.update w.tls t ⟨none, false⟩ → w'.default_ = w.default_ →
      w'.childThreads = w.childThreads →
      (∀ c, w'.contextRefs c = w.contextRefs c - refsOf F (w.tls t).filament c) →
      SetOutcome t new derived handleHr w eTooManyChildThreads none w'
  | conflict {w' : World} : w.conflicts F t new = true →
      w'.tls = w.tls → w'.default_ = w.default_ → w'.childThreads = w.childThreads →
      (∀ c, w'.contextRefs c = w.contextRefs c - refsOf F (w.tls t).filament c + refsOf F new c) →
      SetOutcome t new derived handleHr w eDefaultFilamentConflict none w'

/-- The default filament's lock plays no part in the outcome. -/
theorem SetOutcome.of_lock {t : ThreadId} {new prev : Option FilamentId} {derived : Bool}
    {handleHr hr : HRESULT} {w w' : World} {lock : CriticalSection} (lock' : CriticalSection)
    (h : SetOutcome F t new derived handleHr { w with defaultLock := lock } hr prev w') :
    SetOutcome F t new derived handleHr w hr prev { w' with defaultLock := lock' } := by
  have hfull : ({ w with defaultLock := lock } : World).full new = w.full new := by cases new <;> rfl
  have hconf : ({ w with defaultLock := lock } : World).conflicts F t new = w.conflicts F t new := by
    cases new <;> rfl
  cases h with
  | installed hreg hc htls hd hch hctx =>
      rw [hfull] at hreg
      rw [hconf] at hc
      exact .installed hreg hc htls hd hch hctx
  | noHandle hreg hf htls hd hch hctx => exact .noHandle hreg hf htls hd hch hctx
  | tooMany hreg hf hfu htls hd hch hctx =>
      rw [hfull] at hfu
      exact .tooMany hreg hf hfu htls hd hch hctx
  | conflict hc htls hd hch hctx =>
      rw [hconf] at hc
      exact .conflict hc htls hd hch hctx

/-! ## The parts -/

section Parts

variable {t : ThreadId} {old new : Option FilamentId} {handleHr hr : HRESULT} {w w' : World}

theorem contextRefs_addRef (x : FilamentId) (n : Int) (c : ContextId) :
    (w.addRef (F x).executionContext n).contextRefs c = w.contextRefs c + n * refsOf F (some x) c := by
  simp only [World.addRef, Function.update_apply, refsOf, contextOf, Option.map_some, Option.some.injEq]
  by_cases h : c = (F x).executionContext
  · rw [if_pos h, if_pos h.symm, h, Int.mul_one]
  · rw [if_neg h, if_neg (Ne.symm h), Int.mul_zero, Int.add_zero]

theorem contextRefs_dereferenceOld (c : ContextId) :
    (dereferenceOld F old w).contextRefs c = w.contextRefs c - refsOf F old c := by
  cases old with
  | none => simp [dereferenceOld, refsOf, contextOf]
  | some o =>
      rw [dereferenceOld, contextRefs_addRef]
      omega

/-- Dropping the old reference changes nothing else. -/
theorem dereferenceOld_frame (old : Option FilamentId) (w : World) :
    (dereferenceOld F old w).tls = w.tls ∧ (dereferenceOld F old w).default_ = w.default_ ∧
      (dereferenceOld F old w).childThreads = w.childThreads ∧
      (dereferenceOld F old w).defaultLock = w.defaultLock ∧
      (dereferenceOld F old w).childLock = w.childLock := by
  cases old <;> exact ⟨rfl, rfl, rfl, rfl, rfl⟩

/-- What setting or revoking the default filament does. -/
theorem setDefaultFilament_some {f : Option FilamentId} (h : setDefaultFilament t f w = some (hr, w')) :
    w'.tls = w.tls ∧ w'.childThreads = w.childThreads ∧ w'.contextRefs = w.contextRefs ∧
      (((w.default_.isSome && f.isSome) = true ∧ hr = eDefaultFilamentConflict ∧ w'.default_ = w.default_) ∨
       ((w.default_.isSome && f.isSome) = false ∧ hr = sOk ∧ w'.default_ = f)) := by
  unfold setDefaultFilament at h
  obtain ⟨lock, -, heq⟩ := Option.map_eq_some_iff.mp h
  split at heq
  · rename_i hc
    cases heq
    exact ⟨rfl, rfl, rfl, .inl ⟨hc, rfl, rfl⟩⟩
  · rename_i hc
    cases heq
    exact ⟨rfl, rfl, rfl, .inr ⟨by simpa using hc, rfl, rfl⟩⟩

/-- What registering the current thread does. -/
theorem registerCurrentThread_some (h : registerCurrentThread F t new handleHr w = some (hr, w')) :
    (hr = sOk ∧ (registersAsChild F t new = true → failed handleHr = false ∧ w.full new = false) ∧
        w'.tls = w.tls ∧ w'.default_ = w.default_ ∧ w'.contextRefs = w.contextRefs ∧
        w'.childThreads = childThreadsAfter F t new w.childThreads) ∨
    (registersAsChild F t new = true ∧ failed handleHr = true ∧ hr = handleHr ∧ w' = w) ∨
    (registersAsChild F t new = true ∧ failed handleHr = false ∧ w.full new = true ∧
      hr = eTooManyChildThreads ∧ w' = w.setTls t none false) := by
  cases new with
  | none =>
      cases h
      exact .inl ⟨rfl, (fun hreg => nomatch hreg), rfl, rfl, rfl, rfl⟩
  | some f =>
      simp only [registerCurrentThread] at h
      split at h
      · rename_i hmain
        have hreg : registersAsChild F t (some f) = true := by simpa [registersAsChild] using hmain
        split at h
        · rename_i hf
          cases h
          exact .inr (.inl ⟨hreg, hf, rfl, rfl⟩)
        · rename_i hf
          have hf' : failed handleHr = false := by simpa using hf
          obtain ⟨⟨hr', w₁⟩, h₁, heq⟩ := Option.map_eq_some_iff.mp h
          unfold registerChildThreadFilament at h₁
          obtain ⟨lock, -, heq₁⟩ := Option.map_eq_some_iff.mp h₁
          split at heq₁
          · rename_i hfull
            cases heq₁
            simp only [failed_eTooManyChildThreads, if_true] at heq
            cases heq
            exact .inr (.inr ⟨hreg, hf', by simpa [World.full] using hfull, rfl, rfl⟩)
          · rename_i hroom
            cases heq₁
            simp only [failed_sOk, Bool.false_eq_true, if_false] at heq
            cases heq
            refine .inl ⟨rfl, fun _ => ⟨hf', by simpa [World.full] using hroom⟩, rfl, rfl, rfl, ?_⟩
            simp [childThreadsAfter, hmain]
      · rename_i hmain
        cases h
        refine .inl ⟨rfl, ?_, rfl, rfl, rfl, by simp [childThreadsAfter, hmain]⟩
        intro hreg
        exact absurd (by simpa [registersAsChild] using hreg) hmain

/-- What the last part does. -/
theorem updateDefault_some (h : updateDefault F t old new w = some (hr, w')) :
    w'.tls = w.tls ∧ w'.childThreads = w.childThreads ∧
      (∀ c, w'.contextRefs c = w.contextRefs c + refsOf F new c) ∧
      ((w.conflicts F t new = true ∧ hr = eDefaultFilamentConflict ∧ w'.default_ = w.default_) ∨
       (w.conflicts F t new = false ∧ hr = sOk ∧ w'.default_ = defaultAfter F t old new w.default_)) := by
  cases new with
  | some f =>
      have hrefs : ∀ c, (w.addRef (F f).executionContext 1).contextRefs c
          = w.contextRefs c + refsOf F (some f) c := by
        intro c
        rw [contextRefs_addRef, Int.one_mul]
      simp only [updateDefault] at h
      split at h
      · rename_i hflag
        obtain ⟨⟨hr', w₁⟩, h₁, heq⟩ := Option.map_eq_some_iff.mp h
        cases heq
        obtain ⟨htls, hch, hctx, hd⟩ := setDefaultFilament_some h₁
        refine ⟨htls, hch, fun c => by rw [hctx]; exact hrefs c, .inr ⟨?_, rfl, ?_⟩⟩
        · have hflag' : (F f).providesDefault = false := by simpa using hflag
          simp [World.conflicts, hflag']
        · rcases hd with ⟨hc, -⟩ | ⟨-, -, hd⟩
          · simp at hc
          · rw [hd, defaultAfter, if_pos hflag]
      · rename_i hflag
        have hflag' : (F f).providesDefault = true := by simpa using hflag
        split at h
        · rename_i hmain
          obtain ⟨htls, hch, hctx, hd⟩ := setDefaultFilament_some h
          refine ⟨htls, hch, fun c => by rw [hctx]; exact hrefs c, ?_⟩
          rcases hd with ⟨hc, hhr, hd⟩ | ⟨hc, hhr, hd⟩
          · refine .inl ⟨?_, hhr, hd⟩
            have hsome : w.default_.isSome = true := by simpa [World.addRef] using hc
            simp [World.conflicts, hflag', hmain, hsome]
          · refine .inr ⟨?_, hhr, ?_⟩
            · have hnone : w.default_.isSome = false := by simpa [World.addRef] using hc
              simp [World.conflicts, hnone]
            · simp [hd, defaultAfter, hflag', hmain]
        · rename_i hmain
          cases h
          refine ⟨rfl, rfl, hrefs, .inr ⟨?_, rfl, ?_⟩⟩
          · simp [World.conflicts, hmain]
          · simp [defaultAfter, hflag', hmain, World.addRef]
  | none =>
      have hrefs : ∀ c, w.contextRefs c = w.contextRefs c + refsOf F none c := by
        intro c
        simp [refsOf, contextOf]
      cases old with
      | none =>
          cases h
          exact ⟨rfl, rfl, hrefs, .inr ⟨rfl, rfl, rfl⟩⟩
      | some o =>
          simp only [updateDefault] at h
          split at h
          · rename_i ho
            obtain ⟨⟨hr', w₁⟩, h₁, heq⟩ := Option.map_eq_some_iff.mp h
            cases heq
            obtain ⟨htls, hch, hctx, hd⟩ := setDefaultFilament_some h₁
            refine ⟨htls, hch, fun c => by rw [hctx]; exact hrefs c, .inr ⟨rfl, rfl, ?_⟩⟩
            rcases hd with ⟨hc, -⟩ | ⟨-, -, hd⟩
            · simp at hc
            · rw [hd, defaultAfter]
              exact (if_pos ho).symm
          · rename_i ho
            cases h
            refine ⟨rfl, rfl, hrefs, .inr ⟨rfl, rfl, ?_⟩⟩
            rw [defaultAfter]
            exact (if_neg ho).symm

end Parts

/-! ## The call -/

/-- **A call that completes has one of the four outcomes.** -/
theorem setCurrentFilament_some {t : ThreadId} {new prev : Option FilamentId} {derived : Bool}
    {handleHr hr : HRESULT} {w w' : World}
    (h : setCurrentFilament F t new derived handleHr w = some (hr, prev, w')) :
    SetOutcome F t new derived handleHr w hr prev w' := by
  obtain ⟨htls₀, hdef₀, hch₀, -, -⟩ := dereferenceOld_frame F (w.tls t).filament w
  have hfull₀ : (dereferenceOld F (w.tls t).filament w).full new = w.full new := by
    cases new with
    | none => rfl
    | some f => simp only [World.full, hch₀]
  simp only [setCurrentFilament] at h
  split at h
  · cases h
  · rename_i hr₁ w₁ h₁
    rcases registerCurrentThread_some F h₁ with
      ⟨rfl, hreg, htls₁, hdef₁, hctx₁, hch₁⟩ | ⟨hreg, hf, rfl, rfl⟩ | ⟨hreg, hf, hfull, rfl, rfl⟩
    · simp only [failed_sOk, Bool.false_eq_true, if_false] at h
      split at h
      · cases h
      · rename_i hr₂ w₂ h₂
        obtain ⟨htls₂, hch₂, hctx₂, hd₂⟩ := updateDefault_some F h₂
        have htls : w₂.tls = w.tls := htls₂.trans (htls₁.trans htls₀)
        have hrefs : ∀ c, w₂.contextRefs c
            = w.contextRefs c - refsOf F (w.tls t).filament c + refsOf F new c := by
          intro c
          rw [hctx₂ c, hctx₁, contextRefs_dereferenceOld]
        have hconf : w₁.conflicts F t new = w.conflicts F t new := by
          cases new with
          | none => rfl
          | some f => simp only [World.conflicts, hdef₁, hdef₀]
        rcases hd₂ with ⟨hc, rfl, hdef₂⟩ | ⟨hc, rfl, hdef₂⟩
        · simp only [failed_eDefaultFilamentConflict, if_true] at h
          cases h
          -- only the main thread conflicts, and it does not register
          have hsame : childThreadsAfter F t new w.childThreads = w.childThreads := by
            cases new with
            | none => rfl
            | some f =>
                simp only [World.conflicts, Bool.and_eq_true, beq_iff_eq] at hc
                simp [childThreadsAfter, hc.1.2]
          refine .conflict (hconf ▸ hc) htls ?_ ?_ hrefs
          · rw [hdef₂, hdef₁, hdef₀]
          · rw [hch₂, hch₁, hch₀, hsame]
        · simp only [failed_sOk, Bool.false_eq_true, if_false] at h
          cases h
          refine .installed ?_ (hconf ▸ hc) ?_ ?_ ?_ hrefs
          · intro h'
            rw [← hfull₀]
            exact hreg h'
          · simp only [World.setTls, htls]
          · show w₂.default_ = _
            rw [hdef₂, hdef₁, hdef₀]
          · show w₂.childThreads = _
            rw [hch₂, hch₁, hch₀]
    · rw [if_pos hf] at h
      cases h
      exact .noHandle hreg hf htls₀ hdef₀ hch₀ (fun c => contextRefs_dereferenceOld F c)
    · simp only [failed_eTooManyChildThreads, if_true] at h
      cases h
      refine .tooMany hreg hf (hfull₀ ▸ hfull) ?_ hdef₀ hch₀ (fun c => contextRefs_dereferenceOld F c)
      simp only [World.setTls, htls₀]

/-- A completed call of `CfixsGetCurrentFilament`: the thread has a filament, or there is no default
    filament, or the call attaches the thread to the default filament. -/
theorem getCurrentFilament_some {t : ThreadId} {handleHr hr : HRESULT} {v : TlsValue} {w w' : World}
    (h : getCurrentFilament F t handleHr w = some (hr, v, w')) :
    ((w.tls t).filament ≠ none ∧ hr = sOk ∧ w' = w) ∨
    ((w.tls t).filament = none ∧ w.default_ = none ∧ failed hr = true ∧ w' = w) ∨
    (∃ d prev, (w.tls t).filament = none ∧ w.default_ = some d ∧
      SetOutcome F t (some d) true handleHr w hr prev w') := by
  unfold getCurrentFilament at h
  split at h
  · rename_i f hf
    cases h
    exact .inl ⟨by rw [hf]; exact Option.some_ne_none f, rfl, rfl⟩
  · rename_i hnone
    split at h
    · rename_i hd
      cases h
      exact .inr (.inl ⟨hnone, hd, rfl, rfl⟩)
    · rename_i d hd
      refine .inr (.inr ⟨d, ?_⟩)
      split at h
      · cases h
      · rename_i lock hlock
        split at h
        · cases h
        · rename_i hr₁ prev w₁ h₁
          refine ⟨prev, hnone, hd, ?_⟩
          have hout := (setCurrentFilament_some F h₁).of_lock F w₁.defaultLock.leave
          have hhr : hr = hr₁ ∧ w' = { w₁ with defaultLock := w₁.defaultLock.leave } := by
            simp only at h
            split at h
            · cases h
              exact ⟨rfl, rfl⟩
            · rename_i hok
              cases h
              refine ⟨?_, rfl⟩
              cases hout with
              | installed => rfl
              | noHandle _ hf => exact absurd hf hok
              | tooMany => exact absurd failed_eTooManyChildThreads hok
              | conflict => exact absurd failed_eDefaultFilamentConflict hok
          obtain ⟨rfl, rfl⟩ := hhr
          exact hout

end Cfix.Thread
