import Cfix.Filament.RoutineInv

/-!
# `Filament.Aborts` — what an answered abort ends

A failed assertion or an uncaught exception that is answered with `CfixAbort` ends the test code of the
reporting thread. Only on the main thread does it end the test run: `AbortRun` of a child thread goes
nowhere, and an anonymous thread just exits.
-/

namespace Cfix.Routine

open Thread Transition

variable {c : Call}

/-! ## Answers are recorded -/

/-- A failed assertion that is answered with an abort is recorded. -/
theorem mem_aborted_of_report {s s' : State} {t : ThreadId} {debuggerPresent : Bool}
    (h : next c s (.report t .failedAssertion .abort debuggerPresent) = some s') : t ∈ s'.aborted := by
  have hmem : t ∈ (s.answer t .abort).aborted := List.mem_cons_self
  simp only [next, State.report] at h
  split at h
  · cases h
  · split at h
    · cases h
      rw [peReportFailedAssertion_abort]
      split
      · rw [State.apply, State.exit]
        split <;> exact hmem
      · rw [State.apply, unwind_cfix (by decide)]
        split <;> exact hmem
    · cases h

/-- So is an uncaught exception, if the thread has a filter that reports it. -/
theorem mem_aborted_of_raise {s s' : State} {t : ThreadId} {code : ExceptionCode}
    (hfilter : (s.world.tls t).derivedFromDefaultFilament = false) (hrep : reportsException code = true)
    (h : next c s (.raise t code .abort) = some s') : t ∈ s'.aborted := by
  simp only [next, State.raise] at h
  split at h
  · cases h
  · split at h
    · cases h
      rw [State.unwind, hfilter, hrep]
      simp only [Bool.false_eq_true, if_false, if_true, exceptionFilter_reported hrep]
      exact List.mem_cons_self
    · cases h

/-! ## The end of a thread's test code -/

/-- The test code of the thread is over. -/
def ThreadPc.over : ThreadPc → Bool
  | .leaving => true
  | .exited  => true
  | _        => false

theorem over_update {threads : ThreadId → ThreadPc} {t x : ThreadId} {pc : ThreadPc}
    (ht : (threads t).over = true) (hx : (threads x).over = true → pc.over = true) :
    (Function.update threads x pc t).over = true := by
  by_cases htx : t = x
  · rw [htx, Function.update_self]
    exact hx (htx ▸ ht)
  · rw [Function.update_of_ne htx]
    exact ht

/-- No step brings a thread back into test code. -/
theorem Step.over {s s' : State} {a : Action} {t : ThreadId} (h : Inv c s) (hs : Step c s a s')
    (ht : (s.threads t).over = true) : (s'.threads t).over = true := by
  cases hs with
  | installed hmain hset hok =>
      refine over_update ht (fun hx => ?_)
      rw [(h.fresh hmain).2] at hx
      cases hx
  | notInstalled => exact ht
  | stayed => exact ht
  | stopped => exact over_update ht (fun _ => rfl)
  | abandoned => exact ht
  | attached hmain habsent =>
      refine over_update ht (fun hx => ?_)
      rw [habsent] at hx
      cases hx
  | notAttached => exact ht
  | @created v u hrunning hu habsent =>
      have huv : u ≠ v := by
        rintro rfl
        rw [hrunning] at habsent
        cases habsent
      refine over_update (over_update ht (fun hx => ?_)) (fun hx => ?_)
      · rw [hrunning] at hx
        cases hx
      · rw [Function.update_of_ne huv, habsent] at hx
        cases hx
  | started hu =>
      refine over_update ht (fun hx => ?_)
      rw [hu] at hx
      cases hx
  | notStarted => exact over_update ht (fun _ => rfl)
  | resumed hrunning =>
      refine over_update ht (fun hx => ?_)
      rw [hrunning] at hx
      cases hx
  | left => exact over_update ht (fun _ => rfl)
  | joinBegun => exact ht
  | joinEnded => exact ht
  | restored => exact over_update ht (fun _ => rfl)
  | destroyed => exact ht

/-! ## The result of the call -/

/-- The state fits the answers so far. -/
structure Answered (c : Call) (s : State) : Prop where
  ended   : ∀ t ∈ s.aborted, (s.threads t).over = true
  pending : s.main = .entered ∨ s.main = .routine → s.abortRun = false
  decided : s.main = .routineDone ∨ s.main = .waiting ∨ s.main = .joined →
    (s.abortRun = true ↔ c.mainThread ∈ s.aborted)
  result  : ∀ result, s.main = .destroying result ∨ s.main = .returned result →
    (result = eTestrunAborted ↔ c.mainThread ∈ s.aborted)

theorem answered_start : Answered c c.start where
  ended   := fun t ht => nomatch ht
  pending := fun _ => rfl
  decided := fun h => by simp [Call.start] at h
  result  := fun result h => by simp [Call.start] at h

theorem result_eq_eTestrunAborted (s : State) : s.result = eTestrunAborted ↔ s.abortRun = true := by
  unfold State.result
  cases s.abortRun <;> cases s.routineRanToCompletion <;> simp [eTestrunAborted, eTestRoutineFailed, sOk]

/-- While its test code runs, the main thread has not been answered with an abort. -/
theorem Answered.main_not_mem {s : State} (h : Answered c s) (hover : (s.threads c.mainThread).over = false) :
    c.mainThread ∉ s.aborted := by
  intro hm
  rw [h.ended _ hm] at hover
  cases hover

/-- Steps that change neither the main thread nor the answers. -/
theorem Answered.of_main {s s' : State} {a : Action} (hi : Inv c s) (hs : Step c s a s') (h : Answered c s)
    (hmain : s'.main = s.main) (habort : s'.abortRun = s.abortRun) (haborted : s'.aborted = s.aborted) :
    Answered c s' where
  ended   := fun t ht => hs.over hi (h.ended t (haborted ▸ ht))
  pending := fun hm => by rw [habort]; exact h.pending (hmain ▸ hm)
  decided := fun hm => by rw [habort, haborted]; exact h.decided (hmain ▸ hm)
  result  := fun result hm => by rw [haborted]; exact h.result result (hmain ▸ hm)

/-- Test code ends; `answered` says whether with an abort. -/
theorem Answered.stopped {s : State} {t : ThreadId} (hi : Inv c s) (h : Answered c s)
    (completed abortRun answered : Bool) (ht : s.threads t = .running none)
    (hanswer : t = c.mainThread → (s.world.tls t).derivedFromDefaultFilament = false →
      abortRun = answered ∨ (answered = false ∧ abortRun = s.abortRun)) :
    Answered c { s.stop c t completed abortRun with
      aborted := if answered then t :: s.aborted else s.aborted } := by
  have hover : ∀ x ∈ (if answered then t :: s.aborted else s.aborted),
      (Function.update s.threads t .leaving x).over = true := by
    intro x hx
    by_cases hxt : x = t
    · rw [hxt, Function.update_self]
      rfl
    · have hold : x ∈ s.aborted := by
        cases answered with
        | false => exact hx
        | true  => exact (List.mem_cons.mp hx).resolve_left hxt
      exact over_update (h.ended x hold) (fun _ => rfl)
  by_cases hmain : t = c.mainThread
  · have hpc : s.main = .routine := hi.main_routine (hmain ▸ ht)
    have hnot : t ∉ s.aborted := by
      rw [hmain]
      exact h.main_not_mem (by rw [← hmain, ht]; rfl)
    have hmem : (c.mainThread ∈ (if answered then t :: s.aborted else s.aborted)) ↔ answered = true := by
      rw [← hmain]
      cases answered with
      | false => simp [hnot]
      | true  => simp
    have habort : abortRun = answered := by
      have hexplicit := hi.explicit (by rw [← hmain, ht]; rfl)
      rcases hanswer hmain (hmain ▸ hexplicit) with heq | ⟨hans, heq⟩
      · exact heq
      · rw [heq, hans]
        exact h.pending (.inr hpc)
    have hdone : (s.stop c t completed abortRun).main = .routineDone := if_pos hmain
    refine ⟨hover, ?_, ?_, ?_⟩
    · intro hm
      simp [hdone] at hm
    · intro _
      show (if t = c.mainThread then abortRun else s.abortRun) = true ↔ _
      rw [if_pos hmain, hmem, habort]
    · intro result hm
      simp [hdone] at hm
  · have hmem : (c.mainThread ∈ (if answered then t :: s.aborted else s.aborted)) ↔ c.mainThread ∈ s.aborted := by
      cases answered with
      | false => exact Iff.rfl
      | true  => simp [Ne.symm hmain]
    have hsame : (s.stop c t completed abortRun).main = s.main := if_neg hmain
    have habort : (s.stop c t completed abortRun).abortRun = s.abortRun := if_neg hmain
    refine ⟨hover, ?_, ?_, ?_⟩
    · intro hm
      exact habort.trans (h.pending (hsame ▸ hm))
    · intro hm
      show (s.stop c t completed abortRun).abortRun = true ↔ _
      rw [habort, hmem]
      exact h.decided (hsame ▸ hm)
    · intro result hm
      show _ ↔ c.mainThread ∈ (if answered then t :: s.aborted else s.aborted)
      rw [hmem]
      exact h.result result (hsame ▸ hm)

theorem Answered.step {s s' : State} {a : Action} (hi : Inv c s) (hs : Step c s a s') (h : Answered c s) :
    Answered c s' := by
  have hover := hs
  cases hs with
  | installed hmain =>
      refine ⟨fun t ht => hover.over hi (h.ended t ht), fun _ => h.pending (.inl hmain), ?_, ?_⟩
      · intro hm
        simp at hm
      · intro result hm
        simp at hm
  | notInstalled hmain hset hf =>
      obtain ⟨-, -, ⟨rfl, -⟩ | ⟨rfl, -⟩⟩ := setCurrentFilament_installed hset
      · cases hf
      · have hnot := h.main_not_mem (by rw [(hi.fresh hmain).2]; rfl)
        refine ⟨h.ended, ?_, ?_, ?_⟩
        · intro hm
          simp at hm
        · intro hm
          simp at hm
        · intro result hm
          have hresult : eDefaultFilamentConflict = result := by simpa using hm
          rw [← hresult]
          exact ⟨fun hc => absurd hc (by decide), fun hc => absurd hc hnot⟩
  | stayed => exact h
  | stopped completed abortRun answered ht hanswer => exact h.stopped hi completed abortRun answered ht hanswer
  | @abandoned _ t answered ht hanswer =>
      have hans : answered = false := by
        cases answered with
        | false => rfl
        | true  =>
            obtain ⟨hmain, hderived⟩ := hanswer rfl
            rw [hmain, hi.explicit (by rw [← hmain, ht]; rfl)] at hderived
            cases hderived
      rw [hans]
      exact ⟨h.ended, h.pending, h.decided, h.result⟩
  | attached => exact .of_main hi hover h rfl rfl rfl
  | notAttached => exact .of_main hi hover h rfl rfl rfl
  | created => exact .of_main hi hover h rfl rfl rfl
  | started => exact .of_main hi hover h rfl rfl rfl
  | notStarted => exact .of_main hi hover h rfl rfl rfl
  | resumed => exact .of_main hi hover h rfl rfl rfl
  | left => exact .of_main hi hover h rfl rfl rfl
  | joinBegun hmain =>
      have hafter := h.decided (.inl hmain)
      refine ⟨h.ended, fun hm => by simp at hm, fun _ => hafter, fun result hm => by simp at hm⟩
  | joinEnded hmain =>
      have hafter := h.decided (.inr (.inl hmain))
      refine ⟨h.ended, fun hm => by simp at hm, fun _ => hafter, fun result hm => by simp at hm⟩
  | restored hmain =>
      refine ⟨fun t ht => hover.over hi (h.ended t ht), fun hm => by simp at hm, fun hm => by simp at hm, ?_⟩
      intro result hm
      have hresult : s.result = result := by simpa using hm
      rw [← hresult, result_eq_eTestrunAborted]
      exact h.decided (.inr (.inr hmain))
  | destroyed hmain =>
      refine ⟨h.ended, fun hm => by simp at hm, fun hm => by simp at hm, ?_⟩
      intro result' hm
      exact h.result result' (.inl (by simpa [hmain] using hm))

/-- What an answered abort should do according to its name. -/
def AbortReachesRun (s : State) : Prop :=
  ∀ t ∈ s.aborted, (∀ awaits, s.threads t ≠ .running awaits) ∧
    ∀ result, s.main = .returned result → result = eTestrunAborted

/-- **Aborts.** In every state of every run, a thread that was answered with an abort is in test code no
    more, and the call returns `CFIX_E_TESTRUN_ABORTED` iff the main thread was. -/
theorem abort_run {s : State} {as : List Action} (hr : run (next c) c.start as = some s) :
    (∀ t ∈ s.aborted, ∀ awaits, s.threads t ≠ .running awaits) ∧
    ∀ result, s.main = .returned result → (result = eTestrunAborted ↔ c.mainThread ∈ s.aborted) := by
  obtain ⟨-, h⟩ := run_invariant (I := fun s => Inv c s ∧ Answered c s)
    (fun _ _ _ h hnext => ⟨h.1.step (next_step hnext), h.2.step h.1 (next_step hnext)⟩)
    ⟨inv_start, answered_start⟩ hr
  refine ⟨?_, fun result hm => h.result result (.inr hm)⟩
  intro t ht awaits hpc
  have hover := h.ended t ht
  rw [hpc] at hover
  cases hover

/-! ## Two runs -/

/-- A call on thread 0 that provides a default filament; no filament is current. -/
def outermost : Call where
  filaments _       := { executionContext := 0, mainThreadId := 0, flags := filamentFlagDefaultFilament }
  this              := 0
  current           := ⟨none, false⟩
  default_          := none
  childThreads _    := []
  current_ne        := by simp
  default_ne        := by simp
  childThreads_this := rfl

/-- The main thread fails an assertion and is answered with an abort. -/
def mainAborts : List Action :=
  [.install sOk, .report 0 .failedAssertion .abort false, .beginJoin, .endJoin, .restore sOk, .destroy]

theorem abort_run_mainAborts : ∃ s, run (next outermost) outermost.start mainAborts = some s ∧
    s.main = .returned eTestrunAborted ∧ (eTestrunAborted = eTestrunAborted ↔ outermost.mainThread ∈ s.aborted) := by
  have hr : run (next outermost) outermost.start mainAborts = some _ := rfl
  exact ⟨_, hr, rfl, (abort_run hr).2 _ rfl⟩

/-- So is thread 1, which the main thread has created. -/
def childAborts : List Action :=
  [.install sOk, .create 0 1, .start 1 sOk, .resume 0, .report 1 .failedAssertion .abort false, .leave 1,
    .finish 0, .beginJoin, .endJoin, .restore sOk, .destroy]

/-- The call returns `S_OK`. -/
theorem childAborts_returns : ∃ s, run (next outermost) outermost.start childAborts = some s ∧
    s.main = .returned sOk ∧ ¬ AbortReachesRun s := by
  refine ⟨_, rfl, rfl, fun h => ?_⟩
  have hresult := (h 1 List.mem_cons_self).2 sOk rfl
  revert hresult
  decide

end Cfix.Routine
