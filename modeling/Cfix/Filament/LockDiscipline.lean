import Cfix.Filament.Conservation
import Cfix.Filament.Locks
import Cfix.Filament.StackTrace

/-!
# `Filament.LockDiscipline` — no call keeps a global lock

The default filament's lock and the lock of dbghelp are entered and left within a call. Two return paths
leave a lock entered: a conflict of default filaments, and a stack frame query whose library cannot be
initialized. In a run without these, every call of every thread gives back what it enters.
-/

namespace Cfix.Thread

open Transition

/-! ## Critical sections -/

namespace CriticalSection

variable {s l : CriticalSection} {t : ThreadId}

/-- The thread owns the critical section. -/
def HeldBy (s : CriticalSection) (t : ThreadId) : Prop := ∃ n, s.owner = some (t, n)

theorem heldBy_of_enter (h : s.enter t = some l) : l.HeldBy t := by
  obtain ⟨owner⟩ := s
  cases owner with
  | none   =>
      cases h
      exact ⟨0, rfl⟩
  | some o =>
      obtain ⟨u, n⟩ := o
      simp only [enter, Option.ite_none_right_eq_some, Option.some.injEq] at h
      rw [← h.2]
      exact ⟨n + 1, rfl⟩

theorem not_heldBy_of_free (h : s.owner = none) : ¬ s.HeldBy t := by
  rintro ⟨n, hn⟩
  rw [h] at hn
  cases hn

end CriticalSection

/-! ## The default filament's lock -/

section Filament

variable {F : FilamentId → Filament} {t : ThreadId} {new prev : Option FilamentId} {derived : Bool}
  {handleHr hr : HRESULT} {v : TlsValue} {w w' : World}

/-- A call that conflicts keeps the lock that it has entered, and no other call does. -/
theorem setCurrentFilament_defaultLock
    (h : setCurrentFilament F t new derived handleHr w = some (hr, prev, w')) :
    if w.conflicts F t new then w.defaultLock.enter t = some w'.defaultLock
    else w'.defaultLock = w.defaultLock := by
  cases hc : w.conflicts F t new with
  | false =>
      rcases (setCurrentFilament_locks h).2 with hlock | hconf
      · simpa using hlock
      · rw [hc] at hconf
        cases hconf
  | true  =>
      obtain ⟨-, hdef₀, -, hlock₀, -⟩ := dereferenceOld_frame F (w.tls t).filament w
      cases new with
      | none   => cases hc
      | some f =>
          simp only [World.conflicts, Bool.and_eq_true, beq_iff_eq] at hc
          obtain ⟨⟨hprov, rfl⟩, hsome⟩ := hc
          simp only [setCurrentFilament, registerCurrentThread, ne_eq, not_true_eq_false, if_false, failed_sOk,
            Bool.false_eq_true, updateDefault, hprov, Bool.not_true, if_true, setDefaultFilament,
            World.addRef, hdef₀, hsome, Option.isSome_some, Bool.and_self, hlock₀] at h
          cases henter : w.defaultLock.enter (F f).mainThreadId with
          | none      => simp [henter] at h
          | some lock =>
              simp only [henter, Option.map_some, failed_eDefaultFilamentConflict, if_true,
                Option.some.injEq, Prod.mk.injEq] at h
              rw [← h.2.2]
              simp

/-- The thread has no filament, and attaching itself to the default filament conflicts: it is its main
    thread. -/
def World.attachConflicts (F : FilamentId → Filament) (t : ThreadId) (w : World) : Bool :=
  (w.tls t).filament.isNone && w.conflicts F t w.default_

theorem getCurrentFilament_defaultLock (h : getCurrentFilament F t handleHr w = some (hr, v, w')) :
    if w.attachConflicts F t then w.defaultLock.enter t = some w'.defaultLock
    else w'.defaultLock = w.defaultLock := by
  unfold getCurrentFilament at h
  split at h
  · rename_i f hf
    cases h
    simp [World.attachConflicts, hf]
  · rename_i hnone
    split at h
    · rename_i hd
      cases h
      simp [World.attachConflicts, hd, World.conflicts]
    · rename_i d hd
      split at h
      · cases h
      · rename_i lock henter
        split at h
        · cases h
        · rename_i hr₁ prev w₁ h₁
          have hset := setCurrentFilament_defaultLock h₁
          have hconf : ({ w with defaultLock := lock } : World).conflicts F t (some d) =
              w.attachConflicts F t := by
            simp [World.attachConflicts, hnone, hd, World.conflicts]
          have hw' : w'.defaultLock = w₁.defaultLock.leave := by
            split at h <;> (cases h; rfl)
          rw [hconf] at hset
          rw [hw']
          cases hc : w.attachConflicts F t with
          | false =>
              simp only [hc, Bool.false_eq_true, if_false] at hset ⊢
              rw [hset, CriticalSection.leave_enter henter]
          | true  =>
              simp only [hc, if_true] at hset ⊢
              rw [CriticalSection.leave_enter hset, henter]

end Filament

/-! ## The lock of dbghelp -/

section DbgHelp

variable {t : ThreadId} {o : DbgHelpInit} {hr : HRESULT} {d d' : DbgHelp}

def Loading.fails : Loading → Bool
  | .noModuleFileName e => e != 0#32
  | .missing | .loadLibraryFailed | .procedureMissing => true
  | .loaded             => false

/-- The library is not initialized, and cannot be. -/
def DbgHelp.cannotInitialize (o : DbgHelpInit) (d : DbgHelp) : Bool :=
  !d.symInitialized && (o.loading.fails || o.symInitialize.any (· != 0#32))

theorem linkDbghelp_eq (o : DbgHelpInit) (d : DbgHelp) :
    (linkDbghelp o d).2.lock = d.lock ∧ failed (linkDbghelp o d).1 = o.loading.fails := by
  unfold linkDbghelp
  cases o.loading with
  | noModuleFileName e => exact ⟨rfl, failed_hresultFromWin32 e⟩
  | missing            => exact ⟨rfl, failed_eDbghelpMissing⟩
  | loadLibraryFailed  => exact ⟨rfl, failed_eLoadingDbghelpFailed⟩
  | procedureMissing   => exact ⟨rfl, failed_eLoadingDbghelpFailed⟩
  | loaded             => exact ⟨rfl, failed_sOk⟩

theorem lazyInitializeDbgHelp_some (h : lazyInitializeDbgHelp o d = some (hr, d')) :
    d'.lock = d.lock ∧ failed hr = d.cannotInitialize o := by
  unfold lazyInitializeDbgHelp at h
  unfold DbgHelp.cannotInitialize
  cases hinit : d.symInitialized with
  | true  =>
      rw [hinit, if_pos rfl] at h
      cases h
      exact ⟨rfl, by simp⟩
  | false =>
      obtain ⟨hlock, hlink⟩ := linkDbghelp_eq o d
      rcases hd₁ : linkDbghelp o d with ⟨hr₁, d₁⟩
      rw [hd₁] at hlock hlink
      simp only [hinit, hd₁, Bool.false_eq_true, if_false] at h
      cases hf : failed hr₁ with
      | true  =>
          simp only [hf, if_true] at h hlink
          cases h
          exact ⟨hlock, by simp [hf, ← hlink]⟩
      | false =>
          simp only [hf, Bool.false_eq_true, if_false] at h hlink
          split at h
          · cases h
          · cases hsym : o.symInitialize with
            | none   =>
                simp only [hsym] at h
                cases h
                exact ⟨hlock, by simp [← hlink]⟩
            | some e =>
                simp only [hsym] at h
                cases h
                exact ⟨hlock, by simp [← hlink, failed_hresultFromWin32]⟩

theorem captureStackTrace_lock {stackWalk : Nat → Option (BitVec 64)} {maxFrames : Nat}
    {frames : List (BitVec 64)} (h : captureStackTrace t o stackWalk maxFrames d = some (hr, frames, d')) :
    d'.lock = d.lock := by
  unfold captureStackTrace at h
  split at h
  · cases h
  · rename_i lock henter
    split at h
    · cases h
    · rename_i hr₁ d₁ h₁
      have hlock := (lazyInitializeDbgHelp_some h₁).1
      have hleave : d₁.lock.leave = d.lock := by
        rw [hlock, CriticalSection.leave_enter henter]
      simp only at h
      split at h
      · split at h
        · cases h
        · cases h
          exact hleave
      · cases h
        exact hleave

/-- The lock is kept exactly if the library cannot be initialized. -/
theorem getInformationStackframe_lock {q : FrameRequest} {symbols : FrameSymbols} {out out' : FrameInformation}
    (h : getInformationStackframe t q o symbols out d = some (hr, out', d')) :
    if q.isValid && d.cannotInitialize o then d.lock.enter t = some d'.lock else d'.lock = d.lock := by
  unfold getInformationStackframe at h
  cases hq : q.isValid with
  | false =>
      simp only [hq, Bool.not_false, if_true] at h
      cases h
      simp
  | true  =>
      simp only [hq, Bool.not_true, Bool.false_eq_true, if_false] at h
      split at h
      · cases h
      · rename_i lock henter
        split at h
        · cases h
        · rename_i hr₁ d₁ h₁
          obtain ⟨hlock, hfail⟩ := lazyInitializeDbgHelp_some h₁
          have hcannot : ({ d with lock := lock } : DbgHelp).cannotInitialize o = d.cannotInitialize o := rfl
          rw [hcannot] at hfail
          cases hf : failed hr₁ with
          | true  =>
              rw [hf, if_pos rfl] at h
              cases h
              rw [hf] at hfail
              simp [← hfail, hlock, henter]
          | false =>
              rw [hf, if_neg Bool.false_ne_true] at h
              rw [hf] at hfail
              split at h
              · cases h
              · cases h
                simp [← hfail, hlock, CriticalSection.leave_enter henter]

end DbgHelp

/-! ## Calls -/

/-- The state that the global locks protect. -/
structure LockState where
  world   : World
  dbgHelp : DbgHelp

def LockState.initial : LockState where
  world   := .initial
  dbgHelp := .initial

/-- A call of a function that uses one of the locks. -/
inductive LockCall where
  | filament (call : FilamentCall)
  | captureStackTrace (t : ThreadId) (o : DbgHelpInit) (stackWalk : Nat → Option (BitVec 64)) (maxFrames : Nat)
  | getInformationStackframe (t : ThreadId) (q : FrameRequest) (o : DbgHelpInit) (symbols : FrameSymbols)
      (out : FrameInformation)

def LockCall.thread : LockCall → ThreadId
  | .filament call                          => call.thread
  | .captureStackTrace t _ _ _              => t
  | .getInformationStackframe t _ _ _ _     => t

section Run

variable (F : FilamentId → Filament)

/-- The result of a call; `none` if it does not return. -/
def LockCall.result (s : LockState) : LockCall → Option (HRESULT × LockState)
  | .filament call                                  =>
    (call.result F s.world).map (fun r => (r.1, { s with world := r.2 }))
  | .captureStackTrace t o stackWalk maxFrames      =>
    (Thread.captureStackTrace t o stackWalk maxFrames s.dbgHelp).map
      (fun r => (r.1, { s with dbgHelp := r.2.2 }))
  | .getInformationStackframe t q o symbols out     =>
    (Thread.getInformationStackframe t q o symbols out s.dbgHelp).map
      (fun r => (r.1, { s with dbgHelp := r.2.2 }))

/-- The state after a call that returns. -/
def nextLockState (s : LockState) (call : LockCall) : Option LockState := (call.result F s).map Prod.snd

/-- When the call returns, its thread holds neither lock; a conflict leaves the default filament alone. -/
structure Disciplined (s : LockState) (call : LockCall) (hr : HRESULT) (s' : LockState) : Prop where
  defaultLock : ¬ s'.world.defaultLock.HeldBy call.thread
  dbgHelpLock : ¬ s'.dbgHelp.lock.HeldBy call.thread
  default_    : hr = eDefaultFilamentConflict → s'.world.default_ = s.world.default_

def CallDisciplined (s : LockState) (call : LockCall) : Prop :=
  ∀ hr s', call.result F s = some (hr, s') → Disciplined s call hr s'

/-- The call returns without leaving the lock it has entered. -/
def LockCall.keepsLock (s : LockState) : LockCall → Bool
  | .filament (.set t new _)                    => s.world.conflicts F t new
  | .filament (.get t _)                        => s.world.attachConflicts F t
  | .captureStackTrace _ _ _ _                  => false
  | .getInformationStackframe _ q o _ _         => q.isValid && s.dbgHelp.cannotInitialize o

/-- No call conflicts or queries a stack frame in vain. -/
def LeavesLocks (s : LockState) (call : LockCall) : Prop := call.keepsLock F s = false

/-- No thread owns a lock. -/
def LockState.Free (s : LockState) : Prop := s.world.defaultLock.owner = none ∧ s.dbgHelp.lock.owner = none

end Run

/-! ## One call -/

section Calls

variable {F : FilamentId → Filament} {s s' : LockState} {call : LockCall} {hr : HRESULT}

/-- A failed filament call leaves the default filament alone. -/
theorem SetOutcome.default_of_failed {t : ThreadId} {new prev : Option FilamentId} {derived : Bool}
    {handleHr : HRESULT} {w w' : World} (h : SetOutcome F t new derived handleHr w hr prev w')
    (hf : failed hr = true) : w'.default_ = w.default_ := by
  cases h with
  | installed _ _ _ _ _ _  => cases hf
  | noHandle _ _ _ hd _ _  => exact hd
  | tooMany _ _ _ _ hd _ _ => exact hd
  | conflict _ _ hd _ _    => exact hd

theorem FilamentCall.default_of_failed {c : FilamentCall} {w w' : World} (h : c.result F w = some (hr, w'))
    (hf : failed hr = true) : w'.default_ = w.default_ := by
  cases c with
  | set t new handleHr =>
      obtain ⟨⟨_, _, _⟩, hset, heq⟩ := Option.map_eq_some_iff.mp h
      cases heq
      exact (setCurrentFilament_some F hset).default_of_failed hf
  | get t handleHr     =>
      obtain ⟨⟨_, _, _⟩, hget, heq⟩ := Option.map_eq_some_iff.mp h
      cases heq
      rcases getCurrentFilament_some F hget with ⟨-, -, rfl⟩ | ⟨-, -, -, rfl⟩ | ⟨_, _, -, -, hout⟩
      · rfl
      · rfl
      · exact hout.default_of_failed hf

theorem default_of_failed (h : call.result F s = some (hr, s')) (hf : failed hr = true) :
    s'.world.default_ = s.world.default_ := by
  cases call with
  | filament c                           =>
      obtain ⟨⟨_, _⟩, hres, heq⟩ := Option.map_eq_some_iff.mp h
      cases heq
      exact FilamentCall.default_of_failed hres hf
  | captureStackTrace _ _ _ _            =>
      obtain ⟨⟨_, _, _⟩, -, heq⟩ := Option.map_eq_some_iff.mp h
      cases heq
      rfl
  | getInformationStackframe _ _ _ _ _   =>
      obtain ⟨⟨_, _, _⟩, -, heq⟩ := Option.map_eq_some_iff.mp h
      cases heq
      rfl

/-- What a call that returns does to the locks. -/
theorem result_locks (h : call.result F s = some (hr, s')) :
    (call.keepsLock F s = true ∧
      (s'.world.defaultLock.HeldBy call.thread ∨ s'.dbgHelp.lock.HeldBy call.thread)) ∨
    (call.keepsLock F s = false ∧
      s'.world.defaultLock = s.world.defaultLock ∧ s'.dbgHelp.lock = s.dbgHelp.lock) := by
  cases call with
  | filament c                                  =>
      obtain ⟨⟨hr', w'⟩, hres, heq⟩ := Option.map_eq_some_iff.mp h
      cases heq
      cases c with
      | set t new handleHr =>
          obtain ⟨⟨_, _, _⟩, hset, heq⟩ := Option.map_eq_some_iff.mp hres
          cases heq
          have hlock := setCurrentFilament_defaultLock hset
          cases hc : s.world.conflicts F t new with
          | true  =>
              rw [hc, if_pos rfl] at hlock
              exact .inl ⟨hc, .inl (CriticalSection.heldBy_of_enter hlock)⟩
          | false =>
              rw [hc, if_neg Bool.false_ne_true] at hlock
              exact .inr ⟨hc, hlock, rfl⟩
      | get t handleHr     =>
          obtain ⟨⟨_, _, _⟩, hget, heq⟩ := Option.map_eq_some_iff.mp hres
          cases heq
          have hlock := getCurrentFilament_defaultLock hget
          cases hc : s.world.attachConflicts F t with
          | true  =>
              rw [hc, if_pos rfl] at hlock
              exact .inl ⟨hc, .inl (CriticalSection.heldBy_of_enter hlock)⟩
          | false =>
              rw [hc, if_neg Bool.false_ne_true] at hlock
              exact .inr ⟨hc, hlock, rfl⟩
  | captureStackTrace t o stackWalk maxFrames   =>
      obtain ⟨⟨_, _, _⟩, hcap, heq⟩ := Option.map_eq_some_iff.mp h
      cases heq
      exact .inr ⟨rfl, rfl, captureStackTrace_lock hcap⟩
  | getInformationStackframe t q o symbols out  =>
      obtain ⟨⟨_, _, _⟩, hget, heq⟩ := Option.map_eq_some_iff.mp h
      cases heq
      have hlock := getInformationStackframe_lock hget
      cases hc : q.isValid && s.dbgHelp.cannotInitialize o with
      | true  =>
          rw [hc, if_pos rfl] at hlock
          exact .inl ⟨hc, .inr (CriticalSection.heldBy_of_enter hlock)⟩
      | false =>
          rw [hc, if_neg Bool.false_ne_true] at hlock
          exact .inr ⟨hc, rfl, hlock⟩

theorem callDisciplined_iff (hfree : s.Free) (h : nextLockState F s call = some s') :
    CallDisciplined F s call ↔ LeavesLocks F s call := by
  obtain ⟨⟨hr, s''⟩, hres, rfl⟩ := Option.map_eq_some_iff.mp h
  unfold LeavesLocks
  rcases result_locks hres with ⟨hkeeps, hheld⟩ | ⟨hkeeps, hdefault, hdbg⟩
  · rw [hkeeps]
    refine iff_of_false (fun hdisc => ?_) (by decide)
    rcases hheld with hheld | hheld
    · exact (hdisc hr s'' hres).defaultLock hheld
    · exact (hdisc hr s'' hres).dbgHelpLock hheld
  · refine iff_of_true (fun hr₁ s₁ hres₁ => ?_) hkeeps
    rw [hres] at hres₁
    cases hres₁
    refine ⟨?_, ?_, fun hconf => default_of_failed hres (by rw [hconf]; rfl)⟩
    · rw [hdefault]
      exact CriticalSection.not_heldBy_of_free hfree.1
    · rw [hdbg]
      exact CriticalSection.not_heldBy_of_free hfree.2

end Calls

/-! ## Runs -/

variable {F : FilamentId → Filament}

/-- **Lock discipline over a run of calls**: every call gives back the locks that it enters iff none
    conflicts and none queries a stack frame without dbghelp. -/
theorem lockDiscipline_iff (F : FilamentId → Filament) (calls : List LockCall) {s : LockState}
    (hr : run (nextLockState F) .initial calls = some s) :
    Meets (nextLockState F) (CallDisciplined F) .initial calls ↔
      Meets (nextLockState F) (LeavesLocks F) .initial calls := by
  refine meets_congr (I := LockState.Free) (fun s call s' hfree h => callDisciplined_iff hfree h) ?_
    ⟨rfl, rfl⟩ hr
  intro s call s' hfree hdisc h
  have hleaves : call.keepsLock F s = false := (callDisciplined_iff hfree h).mp hdisc
  obtain ⟨⟨hr, s''⟩, hres, rfl⟩ := Option.map_eq_some_iff.mp h
  rcases result_locks hres with ⟨hkeeps, -⟩ | ⟨-, hdefault, hdbg⟩
  · rw [hleaves] at hkeeps
    cases hkeeps
  · exact ⟨hdefault ▸ hfree.1, hdbg ▸ hfree.2⟩

/-! ## Three runs -/

/-- A frame of which dbghelp knows everything but the line. -/
def knownFrame : FrameSymbols where
  moduleInfo    := .ok "cfix"
  symbol        := .ok ("Test", 16#64)
  undecorated n := .ok n
  line          := none

def noFrameInformation : FrameInformation where
  moduleName   := ""
  functionName := ""
  displacement := 0#32
  sourceFile   := ""
  sourceLine   := 0#32

/-- A query by thread `t`, for which dbghelp has to be loaded. -/
def frameQuery (t : ThreadId) (loading : Loading) : LockCall :=
  .getInformationStackframe t ⟨4096#64, 64, 100, 100, true⟩ ⟨loading, none⟩ knownFrame noFrameInformation

/-- Thread 0 runs a test with a default filament, to which thread 1 attaches itself; thread 1 queries a
    frame. -/
def attachAndQuery : List LockCall :=
  [.filament (.set 0 (some 0) sOk), .filament (.get 1 sOk), frameQuery 1 .loaded,
    .filament (.set 1 none sOk), .filament (.set 0 none sOk)]

theorem lockDiscipline_attachAndQuery :
    Meets (nextLockState filamentsByThread) (CallDisciplined filamentsByThread) .initial attachAndQuery := by
  refine (lockDiscipline_iff filamentsByThread attachAndQuery rfl).mpr ?_
  exact .cons rfl rfl (.cons rfl rfl (.cons rfl rfl (.cons rfl rfl (.cons rfl rfl trivial))))

/-- Threads 0 and 2 both request a default filament; or dbghelp is missing when a frame is queried. -/
theorem locks_kept :
    ¬ Meets (nextLockState filamentsByThread) (CallDisciplined filamentsByThread) .initial
      [.filament (.set 0 (some 0) sOk), .filament (.set 2 (some 2) sOk)] ∧
    ¬ Meets (nextLockState filamentsByThread) (CallDisciplined filamentsByThread) .initial
      [frameQuery 1 .missing] := by
  constructor
  · intro h
    exact ((h.2 _ rfl).1 _ _ rfl).defaultLock ⟨0, rfl⟩
  · intro h
    exact (h.1 _ _ rfl).dbgHelpLock ⟨0, rfl⟩

end Cfix.Thread
