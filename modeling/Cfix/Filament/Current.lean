import Mathlib.Logic.Function.Basic
import Cfix.Base.Hresult

/-!
# `Filament.Current` — the current filament of a thread (`cfix/filament.c`)

`setCurrentFilament` is `CfixsSetCurrentFilament`, with everything it touches: the TLS slot of the calling
thread, the default filament with its lock, the child thread list of the new filament with its lock, and
the reference counts of the execution contexts. A function returns `none` where the calling thread blocks
on a critical section that another thread owns.
-/

namespace Cfix.Thread

abbrev ThreadId   := Nat
abbrev FilamentId := Nat
abbrev ContextId  := Nat

def filamentFlagCaptureStackTraces : BitVec 32 := 1#32
def filamentFlagDefaultFilament    : BitVec 32 := 2#32

/-- `CFIX_MAX_THREADS`. -/
def cfixMaxThreads : Nat := 64

/-- The fields of `CFIXP_FILAMENT` that `CfixpInitializeFilament` sets for good. -/
structure Filament where
  executionContext : ContextId
  mainThreadId     : ThreadId
  flags            : BitVec 32
  deriving DecidableEq, Repr

/-- `CFIXP_FILAMENT_FLAG_DEFAULT_FILAMENT` is set. -/
def Filament.providesDefault (f : Filament) : Bool := flagOn f.flags filamentFlagDefaultFilament

/-- The value of the TLS slot: the filament, and the bit that says that it is the default filament. -/
structure TlsValue where
  filament                   : Option FilamentId
  derivedFromDefaultFilament : Bool
  deriving DecidableEq, Repr

/-- A critical section: its owner, and how often the owner has entered it again. -/
structure CriticalSection where
  owner : Option (ThreadId × Nat)
  deriving DecidableEq, Repr

/-- `EnterCriticalSection`; `none` if another thread owns it. -/
def CriticalSection.enter (s : CriticalSection) (t : ThreadId) : Option CriticalSection :=
  match s.owner with
  | none        => some ⟨some (t, 0)⟩
  | some (u, n) => if u = t then some ⟨some (t, n + 1)⟩ else none

/-- `LeaveCriticalSection` by its owner. -/
def CriticalSection.leave (s : CriticalSection) : CriticalSection :=
  match s.owner with
  | some (t, n + 1) => ⟨some (t, n)⟩
  | _               => ⟨none⟩

/-- Entering and leaving changes nothing. -/
theorem CriticalSection.leave_enter {s l : CriticalSection} {t : ThreadId} (h : s.enter t = some l) :
    l.leave = s := by
  obtain ⟨owner⟩ := s
  cases owner with
  | none =>
      cases h
      rfl
  | some o =>
      obtain ⟨u, n⟩ := o
      simp only [CriticalSection.enter] at h
      split at h
      · rename_i hu
        cases h
        rw [hu]
        rfl
      · cases h

/-- The shared state that the functions of this module work on. -/
structure World where
  /-- `CfixsTlsSlotForFilament` of each thread. -/
  tls           : ThreadId → TlsValue
  /-- `CfixsDefaultFilament.Filament`. -/
  default_      : Option FilamentId
  defaultLock   : CriticalSection
  /-- The threads whose handles are in `ChildThreads.Threads` of each filament. -/
  childThreads  : FilamentId → List ThreadId
  childLock     : FilamentId → CriticalSection
  /-- The references that were taken on each execution context and not given back. -/
  contextRefs   : ContextId → Int

/-- No filament has been installed. -/
def World.initial : World where
  tls _          := ⟨none, false⟩
  default_       := none
  defaultLock    := ⟨none⟩
  childThreads _ := []
  childLock _    := ⟨none⟩
  contextRefs _  := 0

/-! ## Parts -/

/-- `CfixsSetTlsFilamant`. -/
def World.setTls (w : World) (t : ThreadId) (f : Option FilamentId) (derived : Bool) : World :=
  { w with tls := Function.update w.tls t ⟨f, derived⟩ }

/-- `ExecutionContext->Reference` and, with `-1`, `ExecutionContext->Dereference`. -/
def World.addRef (w : World) (c : ContextId) (n : Int) : World :=
  { w with contextRefs := Function.update w.contextRefs c (w.contextRefs c + n) }

/-- `CfixsSetDefaultFilament`. On a conflict the lock is not left. -/
def setDefaultFilament (t : ThreadId) (f : Option FilamentId) (w : World) : Option (HRESULT × World) :=
  (w.defaultLock.enter t).map (fun lock =>
    if w.default_.isSome && f.isSome then
      (eDefaultFilamentConflict, { w with defaultLock := lock })
    else (sOk, { w with default_ := f, defaultLock := lock.leave }))

/-- `CfixsRegisterChildThreadFilament` for a handle of thread `t`, by thread `t`. -/
def registerChildThreadFilament (f : FilamentId) (t : ThreadId) (w : World) : Option (HRESULT × World) :=
  (w.childLock f |>.enter t).map (fun lock =>
    if (w.childThreads f).length = cfixMaxThreads then (eTooManyChildThreads, w)
    else
      (sOk, { w with
        childThreads := Function.update w.childThreads f (w.childThreads f ++ [t])
        childLock    := Function.update w.childLock f lock.leave }))

/-! ## The current filament -/

section Calls

-- the filaments, as they were initialized
variable (F : FilamentId → Filament)

/-- The first part of `CfixsSetCurrentFilament`: the reference on the old filament's context is dropped. -/
def dereferenceOld (old : Option FilamentId) (w : World) : World :=
  match old with
  | some o => w.addRef (F o).executionContext (-1)
  | none   => w

/-- The calling thread is to be a child thread of the new filament. -/
def registersAsChild (t : ThreadId) : Option FilamentId → Bool
  | some f => t != (F f).mainThreadId
  | none   => false

/-- The second part: a thread that is not the main thread of the new filament registers as child thread.
    `handleHr` is the result of `CfixsGetCurrentThreadHandle`. -/
def registerCurrentThread (t : ThreadId) (new : Option FilamentId) (handleHr : HRESULT) (w : World) :
    Option (HRESULT × World) :=
  match new with
  | some f =>
    if t ≠ (F f).mainThreadId then
      if failed handleHr then some (handleHr, w)
      else
        (registerChildThreadFilament f t w).map (fun (hr, w) =>
          if failed hr then (hr, w.setTls t none false) else (sOk, w))
    else some (sOk, w)
  | none => some (sOk, w)

/-- The third part: the new context is referenced, and the default filament set or revoked. -/
def updateDefault (t : ThreadId) (old new : Option FilamentId) (w : World) : Option (HRESULT × World) :=
  match new with
  | some f =>
    -- taken before the default filament is set, and kept if that fails
    let w := w.addRef (F f).executionContext 1
    if !(F f).providesDefault then
      -- revokes a leftover default filament when filaments are nested
      (setDefaultFilament t none w).map (fun (_, w) => (sOk, w))
    else if t = (F f).mainThreadId then setDefaultFilament t (some f) w
    else some (sOk, w)
  | none =>
    match old with
    | some o =>
      if t = (F o).mainThreadId ∧ (F o).providesDefault then
        (setDefaultFilament t none w).map (fun (_, w) => (sOk, w))
      else some (sOk, w)
    | none => some (sOk, w)

/-- `CfixsSetCurrentFilament`: the result, the previous filament (`*Prev`, set on success only), and the
    state. -/
def setCurrentFilament (t : ThreadId) (new : Option FilamentId) (derived : Bool) (handleHr : HRESULT)
    (w : World) : Option (HRESULT × Option FilamentId × World) :=
  let old := (w.tls t).filament
  -- the old reference is dropped first; no failure below takes it back
  match registerCurrentThread F t new handleHr (dereferenceOld F old w) with
  | none => none
  | some (hr, w) =>
    if failed hr then some (hr, none, w)
    else
      match updateDefault F t old new w with
      | none => none
      | some (hr, w) =>
        if failed hr then some (hr, none, w)
        else some (sOk, old, w.setTls t new derived)

/-- `CfixsGetCurrentFilament( TRUE, .. )`: the result, the filament with its derived bit, and the state. A
    thread without a filament attaches itself to the default filament. -/
def getCurrentFilament (t : ThreadId) (handleHr : HRESULT) (w : World) :
    Option (HRESULT × TlsValue × World) :=
  match (w.tls t).filament with
  | some _ => some (sOk, w.tls t, w)
  | none   =>
    match w.default_ with
    | none   => some (eUnknownThread, ⟨none, false⟩, w)
    | some d =>
      -- the lock keeps the default filament from being revoked while the thread registers
      match w.defaultLock.enter t with
      | none      => none
      | some lock =>
        match setCurrentFilament F t (some d) true handleHr { w with defaultLock := lock } with
        | none => none
        | some (hr, _, w) =>
          let w := { w with defaultLock := w.defaultLock.leave }
          if failed hr then some (hr, ⟨none, false⟩, w) else some (sOk, w.tls t, w)

end Calls

end Cfix.Thread
