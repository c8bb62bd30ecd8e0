import Cfix.Filament.Locks
import Cfix.Filament.Routine

/-!
# `Filament.RoutineSteps` — what a step of a test routine can do

`Step` says for every action what it does (`next_step`), in terms of what the calls of the filament functions
do: a thread registers with the filament of the call or fails to (`Registered`, `NotRegistered`), the main
thread installs and restores the filament, a child thread resets it.
-/

namespace Cfix.Routine

open Thread Transition

variable (c : Call)

/-! ## Registering with the filament of the call -/

/-- Thread `t` has become a child thread. -/
structure Registered (t : ThreadId) (derived : Bool) (w w' : World) : Prop where
  tls          : w'.tls = Function.update w.tls t ⟨some c.this, derived⟩
  default_     : w'.default_ = if c.providesDefault then w.default_ else none
  childThreads : w'.childThreads c.this = w.childThreads c.this ++ [t]
  childLock    : w'.childLock = w.childLock
  defaultLock  : w'.defaultLock = w.defaultLock

/-- Thread `t` could not become a child thread. -/
structure NotRegistered (t : ThreadId) (w w' : World) : Prop where
  tls          : w'.tls = w.tls ∨ w'.tls = Function.update w.tls t ⟨none, false⟩
  default_     : w'.default_ = w.default_
  childThreads : w'.childThreads = w.childThreads
  childLock    : w'.childLock = w.childLock
  defaultLock  : w'.defaultLock = w.defaultLock

section Register

variable {c} {t : ThreadId} {prev : Option FilamentId} {derived : Bool} {handleHr hr : HRESULT} {w w' : World}

theorem registered_of_outcome (hmain : t ≠ c.mainThread)
    (h : SetOutcome c.filaments t (some c.this) derived handleHr w hr prev w')
    (hchild : w'.childLock = w.childLock) (hlock : w'.defaultLock = w.defaultLock) :
    (failed hr = false ∧ Registered c t derived w w') ∨ (failed hr = true ∧ NotRegistered t w w') := by
  have hne : t ≠ (c.filaments c.this).mainThreadId := hmain
  cases h with
  | installed _ _ htls hd hch _ =>
      refine .inl ⟨rfl, htls, ?_, ?_, hchild, hlock⟩
      · rw [hd, Call.providesDefault]
        cases hp : (c.filaments c.this).providesDefault <;> simp [defaultAfter, hp, hne]
      · rw [hch, childThreadsAfter, if_pos hne, Function.update_self]
  | noHandle _ hf htls hd hch _ => exact .inr ⟨hf, .inl htls, hd, hch, hchild, hlock⟩
  | tooMany _ _ _ htls hd hch _ => exact .inr ⟨rfl, .inr htls, hd, hch, hchild, hlock⟩
  | conflict hc _ _ _ _ =>
      simp [World.conflicts, hne] at hc

/-- A new thread takes over the filament of its creator. -/
theorem setCurrentFilament_registered (hmain : t ≠ c.mainThread)
    (h : setCurrentFilament c.filaments t (some c.this) derived handleHr w = some (hr, prev, w')) :
    (failed hr = false ∧ Registered c t derived w w') ∨ (failed hr = true ∧ NotRegistered t w w') := by
  obtain ⟨hchild, hlock | hc⟩ := setCurrentFilament_locks h
  · exact registered_of_outcome hmain (setCurrentFilament_some c.filaments h) hchild hlock
  · have hne : t ≠ (c.filaments c.this).mainThreadId := hmain
    simp [World.conflicts, hne] at hc

/-- An anonymous thread attaches itself to the filament. -/
theorem getCurrentFilament_registered {v : TlsValue} (hmain : t ≠ c.mainThread)
    (htls : (w.tls t).filament = none) (hd : w.default_ = some c.this)
    (h : getCurrentFilament c.filaments t handleHr w = some (hr, v, w')) :
    (failed hr = false ∧ Registered c t true w w') ∨ (failed hr = true ∧ NotRegistered t w w') := by
  obtain ⟨hchild, hlock⟩ := getCurrentFilament_locks hd hmain h
  rcases getCurrentFilament_some c.filaments h with ⟨hsome, -⟩ | ⟨-, hnone, -⟩ | ⟨d, prev, -, hd', hout⟩
  · exact absurd htls hsome
  · rw [hd] at hnone
    cases hnone
  · rw [hd] at hd'
    cases hd'
    exact registered_of_outcome hmain hout hchild hlock

/-- A thread with a filament finds it in its TLS slot. -/
theorem getCurrentFilament_tls {f : FilamentId} (F : FilamentId → Filament) (htls : (w.tls t).filament = some f) :
    getCurrentFilament F t handleHr w = some (sOk, w.tls t, w) := by
  simp only [getCurrentFilament, htls]

end Register

/-! ## Installing and resetting the filament -/

section Install

variable {c} {t : ThreadId} {prev : Option FilamentId} {handleHr hr : HRESULT} {w w' : World}

theorem setCurrentFilament_installed
    (h : setCurrentFilament c.filaments c.mainThread (some c.this) false handleHr w = some (hr, prev, w')) :
    w'.childThreads = w.childThreads ∧ w'.childLock = w.childLock ∧
      ((hr = sOk ∧ prev = (w.tls c.mainThread).filament ∧
          w'.tls = Function.update w.tls c.mainThread ⟨some c.this, false⟩ ∧
          w'.default_ = (if c.providesDefault then some c.this else none) ∧ w'.defaultLock = w.defaultLock) ∨
       (hr = eDefaultFilamentConflict ∧ w'.tls = w.tls ∧ w'.default_ = w.default_)) := by
  have hnoreg : registersAsChild c.filaments c.mainThread (some c.this) = false := by
    simp [registersAsChild, Call.mainThread]
  obtain ⟨hchild, hlock⟩ := setCurrentFilament_locks h
  cases setCurrentFilament_some c.filaments h with
  | installed _ hc htls hd hch _ =>
      refine ⟨?_, hchild, .inl ⟨rfl, rfl, htls, ?_, ?_⟩⟩
      · rw [hch, childThreadsAfter, if_neg (fun hne => hne rfl)]
      · rw [hd, Call.providesDefault]
        cases hp : (c.filaments c.this).providesDefault <;> simp [defaultAfter, hp, Call.mainThread]
      · rcases hlock with hlock | hconf
        · exact hlock
        · rw [hc] at hconf
          cases hconf
  | noHandle hreg =>
      rw [hnoreg] at hreg
      cases hreg
  | tooMany hreg =>
      rw [hnoreg] at hreg
      cases hreg
  | conflict _ htls hd hch _ => exact ⟨hch, hchild, .inr ⟨rfl, htls, hd⟩⟩

/-- A child thread resets the filament. -/
theorem setCurrentFilament_left (hmain : t ≠ c.mainThread) (hcur : (w.tls t).filament = some c.this)
    (h : setCurrentFilament c.filaments t none false handleHr w = some (hr, prev, w')) :
    w'.tls = Function.update w.tls t ⟨none, false⟩ ∧ w'.default_ = w.default_ ∧
      w'.childThreads = w.childThreads ∧ w'.childLock = w.childLock ∧ w'.defaultLock = w.defaultLock := by
  obtain ⟨hchild, hlock | hc⟩ := setCurrentFilament_locks h
  · cases setCurrentFilament_some c.filaments h with
    | installed _ _ htls hd hch _ =>
        refine ⟨htls, ?_, hch, hchild, hlock⟩
        rw [hd, hcur]
        exact if_neg (fun hand => hmain hand.1)
    | noHandle hreg => cases hreg
    | tooMany hreg => cases hreg
    | conflict hc => cases hc
  · cases hc

/-- The main thread restores a filament that is not the one of the call. -/
theorem setCurrentFilament_restored {new : Option FilamentId} (hnew : new ≠ some c.this)
    (h : setCurrentFilament c.filaments c.mainThread new false handleHr w = some (hr, prev, w')) :
    (∀ u, u ≠ c.mainThread → w'.tls u = w.tls u) ∧ w'.childThreads c.this = w.childThreads c.this ∧
      w'.childLock = w.childLock := by
  obtain ⟨hchild, -⟩ := setCurrentFilament_locks h
  have hupdate : ∀ (v : TlsValue) (u : ThreadId), u ≠ c.mainThread →
      Function.update w.tls c.mainThread v u = w.tls u := fun v u hu => Function.update_of_ne hu v w.tls
  cases setCurrentFilament_some c.filaments h with
  | installed _ _ htls _ hch _ =>
      refine ⟨fun u hu => ?_, ?_, hchild⟩
      · rw [htls, hupdate _ u hu]
      · rw [hch]
        cases new with
        | none => rfl
        | some p =>
            have hp : c.this ≠ p := fun h => hnew (h ▸ rfl)
            simp only [childThreadsAfter]
            split
            · rw [Function.update_of_ne hp]
            · rfl
  | noHandle _ _ htls _ hch _ => exact ⟨fun u _ => by rw [htls], by rw [hch], hchild⟩
  | tooMany _ _ _ htls _ hch _ =>
      refine ⟨fun u hu => ?_, by rw [hch], hchild⟩
      rw [htls, hupdate _ u hu]
  | conflict _ htls _ hch _ => exact ⟨fun u _ => by rw [htls], by rw [hch], hchild⟩

end Install

/-! ## Steps -/

/-- What an action does. -/
inductive Step (s : State) : Action → State → Prop where
  | installed {handleHr hr : HRESULT} {prev : Option FilamentId} {w : World} : s.main = .entered →
      setCurrentFilament c.filaments c.mainThread (some c.this) false handleHr s.world
        = some (hr, prev, w) → failed hr = false →
      Step s (.install handleHr) { s with
        world := w, main := .routine, prevFilament := prev
        threads := Function.update s.threads c.mainThread (.running none) }
  | notInstalled {handleHr hr : HRESULT} {prev : Option FilamentId} {w : World} : s.main = .entered →
      setCurrentFilament c.filaments c.mainThread (some c.this) false handleHr s.world
        = some (hr, prev, w) → failed hr = true →
      Step s (.install handleHr) { s with world := w, main := .destroying hr }
  /-- Test code goes on. -/
  | stayed {a : Action} {t : ThreadId} : s.threads t = .running none → Step s a s
  /-- Test code is over; `answered` says whether an event of it was answered with an abort. -/
  | stopped {a : Action} {t : ThreadId} (completed abortRun answered : Bool) : s.threads t = .running none →
      (t = c.mainThread → (s.world.tls t).derivedFromDefaultFilament = false →
        abortRun = answered ∨ (answered = false ∧ abortRun = s.abortRun)) →
      Step s a { s.stop c t completed abortRun with
        aborted := if answered then t :: s.aborted else s.aborted }
  | abandoned {a : Action} {t : ThreadId} (answered : Bool) : s.threads t = .running none →
      (answered = true → t = c.mainThread ∧ (s.world.tls t).derivedFromDefaultFilament = true) →
      Step s a { s with abandoned := true, aborted := if answered then t :: s.aborted else s.aborted }
  | attached {t : ThreadId} {handleHr hr : HRESULT} {v : TlsValue} {w : World} : t ≠ c.mainThread →
      s.threads t = .absent → s.world.default_ = some c.this →
      getCurrentFilament c.filaments t handleHr s.world = some (hr, v, w) → failed hr = false →
      Step s (.attach t handleHr)
        { s with world := w, threads := Function.update s.threads t (.running none) }
  | notAttached {t : ThreadId} {handleHr hr : HRESULT} {v : TlsValue} {w : World} : t ≠ c.mainThread →
      s.threads t = .absent → s.world.default_ = some c.this →
      getCurrentFilament c.filaments t handleHr s.world = some (hr, v, w) → failed hr = true →
      Step s (.attach t handleHr) { s with world := w }
  | created {t u : ThreadId} : s.threads t = .running none → u ≠ c.mainThread → s.threads u = .absent →
      Step s (.create t u) { s with
        threads := Function.update (Function.update s.threads t (.running (some u))) u (.starting t) }
  | started {u creator : ThreadId} {handleHr hr : HRESULT} {prev : Option FilamentId} {w : World} :
      s.threads u = .starting creator →
      setCurrentFilament c.filaments u (some c.this) false handleHr s.world = some (hr, prev, w) →
      failed hr = false →
      Step s (.start u handleHr)
        { s with world := w, threads := Function.update s.threads u (.running none) }
  | notStarted {u creator : ThreadId} {handleHr hr : HRESULT} {prev : Option FilamentId} {w : World} :
      s.threads u = .starting creator →
      setCurrentFilament c.filaments u (some c.this) false handleHr s.world = some (hr, prev, w) →
      failed hr = true →
      Step s (.start u handleHr)
        { s with world := w, threads := Function.update s.threads u .exited }
  | resumed {t u : ThreadId} : s.threads t = .running (some u) → (∀ v, s.threads u ≠ .starting v) →
      Step s (.resume t) { s with threads := Function.update s.threads t (.running none) }
  | left {u : ThreadId} {hr : HRESULT} {prev : Option FilamentId} {w : World} : u ≠ c.mainThread →
      s.threads u = .leaving →
      setCurrentFilament c.filaments u none false sOk s.world = some (hr, prev, w) →
      Step s (.leave u) { s with world := w, threads := Function.update s.threads u .exited }
  | joinBegun {lock : CriticalSection} : s.main = .routineDone →
      (s.world.childLock c.this).enter c.mainThread = some lock →
      Step s .beginJoin { s with
        world := { s.world with childLock := Function.update s.world.childLock c.this lock }
        main := .waiting }
  | joinEnded : s.main = .waiting → (∀ t ∈ s.world.childThreads c.this, s.threads t = .exited) →
      Step s .endJoin { s with
        world := { s.world with
          childLock := Function.update s.world.childLock c.this (s.world.childLock c.this).leave }
        main := .joined, waitedFor := s.world.childThreads c.this }
  | restored {handleHr hr : HRESULT} {prev : Option FilamentId} {w : World} : s.main = .joined →
      setCurrentFilament c.filaments c.mainThread s.prevFilament false handleHr s.world
        = some (hr, prev, w) →
      Step s (.restore handleHr) { s with
        world := w, main := .destroying s.result
        threads := Function.update s.threads c.mainThread .exited }
  | destroyed {result : HRESULT} : s.main = .destroying result →
      Step s .destroy { s with main := .returned result }

variable {c}

section User

variable {s : State} {a : Action} {t : ThreadId}

/-- A cfix exception unwinds to the filter, if the thread has one. -/
theorem unwind_cfix {code : ExceptionCode} (hcode : code ∈ cfixExceptions) (disp : Disposition) (s : State) :
    s.unwind c t code disp
      = if (s.world.tls t).derivedFromDefaultFilament then { s with abandoned := true }
        else s.stop c t false (code == exceptionTestcaseFailedAbort) := by
  have hrep : reportsException code = false := by simp [reportsException, hcode]
  rw [State.unwind, hrep]
  simp only [Bool.false_eq_true, if_false, exceptionFilter_cfix hcode]

/-- The end of another thread than the main thread. -/
theorem exit_eq_stop (hmain : t ≠ c.mainThread) (completed abortRun : Bool) (s : State) :
    s.exit c t = s.stop c t completed abortRun := by
  simp only [State.exit, State.stop, if_neg hmain]

/-- The end of a report function whose event was not answered with an abort. -/
theorem step_apply {effect : Effect} (ht : s.threads t = .running none)
    (hraises : ∀ code, effect = .raises code →
      code = exceptionTestcaseInconclusive ∨ code = exceptionTestcaseFailed) :
    Step c s a (s.apply c t effect) := by
  cases effect with
  | returns disp => exact .stayed ht
  | raises code =>
      have hcode : code ∈ cfixExceptions ∧ (code == exceptionTestcaseFailedAbort) = false := by
        rcases hraises code rfl with rfl | rfl <;> decide
      rw [State.apply, unwind_cfix hcode.1, hcode.2]
      split
      · exact .abandoned false ht (fun h => nomatch h)
      · exact .stopped false false false ht (fun _ _ => .inl rfl)
  | exits =>
      rw [State.apply]
      by_cases hmain : t = c.mainThread
      · rw [State.exit, if_pos hmain]
        exact .abandoned false ht (fun h => nomatch h)
      · rw [exit_eq_stop hmain false false]
        exact .stopped false false false ht (fun h => absurd h hmain)

theorem peFail_raises (derived : Bool) (code : ExceptionCode) (h : peFail derived = .raises code) :
    code = exceptionTestcaseInconclusive ∨ code = exceptionTestcaseFailed := by
  cases derived with
  | false =>
      cases h
      exact .inr rfl
  | true => cases h

/-- A failed assertion that is answered with an abort. -/
theorem step_abort {debuggerPresent : Bool} (ht : s.threads t = .running none) :
    Step c s a ((s.answer t .abort).apply c t
      (peReportFailedAssertion .abort (s.world.tls t).derivedFromDefaultFilament debuggerPresent)) := by
  rw [peReportFailedAssertion_abort]
  cases hderived : (s.world.tls t).derivedFromDefaultFilament with
  | false =>
      have htls : ((s.answer t .abort).world.tls t).derivedFromDefaultFilament = false := hderived
      simp only [Bool.false_eq_true, if_false, State.apply]
      rw [unwind_cfix (by decide), htls]
      exact .stopped false true true ht (fun _ _ => .inl rfl)
  | true =>
      simp only [if_true, State.apply]
      by_cases hmain : t = c.mainThread
      · rw [State.exit, if_pos hmain]
        exact .abandoned true ht (fun _ => ⟨hmain, hderived⟩)
      · rw [exit_eq_stop hmain false false]
        exact .stopped false false true ht (fun h => absurd h hmain)

theorem step_report {event : EventType} {disp : Disposition} {debuggerPresent : Bool} {s' : State}
    (h : s.report c t event disp debuggerPresent = some s') : Step c s a s' := by
  simp only [State.report] at h
  split at h
  · rename_i ht
    cases event with
    | failedAssertion =>
        cases h
        cases disp with
        | abort => exact step_abort ht
        | continue_ => exact .stayed ht
        | breakAlways => exact .stayed ht
        | break_ =>
            cases debuggerPresent with
            | true  => exact .stayed ht
            | false => exact step_apply ht (peFail_raises _)
    | inconclusiveness =>
        cases h
        refine step_apply ht (fun code hcode => ?_)
        unfold peReportInconclusiveness at hcode
        split at hcode
        · cases hcode
          exact .inl rfl
        · cases hcode
    | log =>
        cases h
        exact .stayed ht
    | uncaughtException => cases h
  · cases h

theorem step_raise {code : ExceptionCode} {disp : Disposition} {s' : State}
    (h : s.raise c t code disp = some s') : Step c s a s' := by
  simp only [State.raise] at h
  split at h
  · rename_i hg
    obtain ⟨ht, hcode⟩ := hg
    cases h
    unfold State.unwind
    split
    · exact .abandoned false ht (fun h => nomatch h)
    · cases hrep : reportsException code with
      | true =>
          simp only [if_true, exceptionFilter_reported hrep]
          cases disp with
          | abort       => exact .stopped false true true ht (fun _ _ => .inl rfl)
          | continue_   => exact .stopped false false false ht (fun _ _ => .inl rfl)
          | breakAlways => exact .stopped false false false ht (fun _ _ => .inl rfl)
          | break_      => exact .abandoned false ht (fun h => nomatch h)
      | false =>
          have hbreak : code = exceptionBreakpoint ∨ code = exceptionStackOverflow := by
            by_contra hne
            rw [not_or] at hne
            simp [reportsException, hcode, hne] at hrep
          rcases hbreak with rfl | rfl <;> exact .abandoned false ht (fun h => nomatch h)
  · cases h

end User

/-- **Every enabled action does what `Step` says.** -/
theorem next_step {s s' : State} {a : Action} (h : next c s a = some s') : Step c s a s' := by
  unfold next at h
  split at h
  · cases h
  · cases a with
    | install handleHr =>
        simp only [State.install] at h
        split at h
        · rename_i hmain
          obtain ⟨⟨hr, prev, w⟩, hset, heq⟩ := Option.map_eq_some_iff.mp h
          simp only at heq
          split at heq
          · rename_i hf
            cases heq
            exact .notInstalled hmain hset hf
          · rename_i hf
            cases heq
            exact .installed hmain hset (by simpa using hf)
        · cases h
    | report t event disp debuggerPresent => exact step_report h
    | fail t =>
        simp only [State.fail] at h
        split at h
        · rename_i ht
          cases h
          exact step_apply ht (peFail_raises _)
        · cases h
    | raise t code disp => exact step_raise h
    | attach t handleHr =>
        simp only [State.attach] at h
        split at h
        · rename_i hg
          obtain ⟨hmain, habsent, hd⟩ := hg
          obtain ⟨⟨hr, v, w⟩, hget, heq⟩ := Option.map_eq_some_iff.mp h
          simp only at heq
          split at heq
          · rename_i hf
            cases heq
            exact .notAttached hmain habsent hd hget hf
          · rename_i hf
            cases heq
            exact .attached hmain habsent hd hget (by simpa using hf)
        · cases h
    | create t u =>
        simp only [State.create] at h
        split at h
        · rename_i hg
          cases h
          exact .created hg.1 hg.2.1 hg.2.2
        · cases h
    | start u handleHr =>
        simp only [State.startThread] at h
        split at h
        · rename_i creator hu
          obtain ⟨⟨hr, prev, w⟩, hset, heq⟩ := Option.map_eq_some_iff.mp h
          simp only at heq
          cases hf : failed hr with
          | true =>
              rw [hf, if_pos rfl] at heq
              cases heq
              exact .notStarted hu hset hf
          | false =>
              rw [hf, if_neg Bool.false_ne_true] at heq
              cases heq
              exact .started hu hset hf
        · cases h
    | resume t =>
        simp only [State.resume] at h
        split at h
        · rename_i u ht
          split at h
          · cases h
          · rename_i hu
            cases h
            exact .resumed ht hu
        · cases h
    | finish t =>
        simp only [State.finish] at h
        split at h
        · rename_i ht
          cases h
          exact .stopped true s.abortRun false ht (fun _ _ => .inr ⟨rfl, rfl⟩)
        · cases h
    | leave u =>
        simp only [State.leave] at h
        split at h
        · rename_i hg
          obtain ⟨⟨hr, prev, w⟩, hset, heq⟩ := Option.map_eq_some_iff.mp h
          cases heq
          exact .left hg.1 hg.2 hset
        · cases h
    | beginJoin =>
        simp only [State.beginJoin] at h
        split at h
        · rename_i hmain
          obtain ⟨lock, hlock, heq⟩ := Option.map_eq_some_iff.mp h
          cases heq
          exact .joinBegun hmain hlock
        · cases h
    | endJoin =>
        simp only [State.endJoin] at h
        split at h
        · rename_i hg
          cases h
          exact .joinEnded hg.1 hg.2
        · cases h
    | restore handleHr =>
        simp only [State.restore] at h
        split at h
        · rename_i hmain
          obtain ⟨⟨hr, prev, w⟩, hset, heq⟩ := Option.map_eq_some_iff.mp h
          cases heq
          exact .restored hmain hset
        · cases h
    | destroy =>
        simp only [State.destroy] at h
        split at h
        · rename_i result hmain
          cases h
          exact .destroyed hmain
        · cases h

end Cfix.Routine
