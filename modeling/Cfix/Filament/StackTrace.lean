import Cfix.Base.Strsafe
import Cfix.Filament.Current

/-!
# `Filament.StackTrace` — stack traces (`cfix/stacktrace.c`)

The functions serialize their use of dbghelp by `CfixsDbgHelpLock`, and load and initialize the library when
they first need it. What the system and the library return is a parameter of each call. A function returns
`none` where it blocks on the lock, or calls a library function that is not linked.
-/

namespace Cfix.Thread

def eDbghelpMissing       : HRESULT := 0x80048013#32
def eLoadingDbghelpFailed : HRESULT := 0x80048014#32

@[simp] theorem failed_eDbghelpMissing : failed eDbghelpMissing = true := rfl
@[simp] theorem failed_eLoadingDbghelpFailed : failed eLoadingDbghelpFailed = true := rfl

/-- The static variables. -/
structure DbgHelp where
  /-- `CfixsDbgHelpLock`. -/
  lock           : CriticalSection
  /-- `CfixsDbgSymInitialized`. -/
  symInitialized : Bool
  /-- All function pointers of `CfixsDbghelp` are set. -/
  linked         : Bool
  deriving DecidableEq, Repr

/-- `CfixpSetupStackTraceCapturing`. -/
def DbgHelp.initial : DbgHelp where
  lock           := ⟨none⟩
  symInitialized := false
  linked         := false

/-! ## Initialization -/

/-- How loading dbghelp goes. -/
inductive Loading where
  /-- `GetModuleFileName` fails with this error. -/
  | noModuleFileName (lastError : BitVec 32)
  /-- There is no `dbghelp.dll` in the directory of this module. -/
  | missing
  | loadLibraryFailed
  /-- Some function is not exported. -/
  | procedureMissing
  | loaded
  deriving DecidableEq, Repr

/-- What the system and dbghelp return while the library is initialized. -/
structure DbgHelpInit where
  loading       : Loading
  /-- The error of `SymInitialize`, if it fails. -/
  symInitialize : Option (BitVec 32)
  deriving DecidableEq, Repr

/-- `CfixsLinkDbghelp`. -/
def linkDbghelp (o : DbgHelpInit) (d : DbgHelp) : HRESULT × DbgHelp :=
  match o.loading with
  | .noModuleFileName e => (hresultFromWin32 e, d)
  | .missing            => (eDbghelpMissing, d)
  | .loadLibraryFailed  => (eLoadingDbghelpFailed, d)
  | .procedureMissing   => (eLoadingDbghelpFailed, { d with linked := false })
  | .loaded             => (sOk, { d with linked := true })

/-- `CfixsLazyInitializeDbgHelp`. -/
def lazyInitializeDbgHelp (o : DbgHelpInit) (d : DbgHelp) : Option (HRESULT × DbgHelp) :=
  if d.symInitialized then some (sOk, d)
  else
    let (hr, d) := linkDbghelp o d
    if failed hr then some (hr, d)
    else if !d.linked then none
    else
      match o.symInitialize with
      | none   => some (sOk, { d with symInitialized := true })
      | some e => some (hresultFromWin32 e, d)

/-! ## Capturing -/

/-- The loop of `CfixpCaptureStackTrace`: `stackWalk` is what `StackWalk64` returns when called for the
    `n`th time. At most `fuel` frames are left to be captured, which is what the loop counts down. -/
def walkStack (stackWalk : Nat → Option (BitVec 64)) : Nat → Nat → List (BitVec 64)
  | 0, _        => []
  | fuel + 1, n =>
    match stackWalk n with
    | none      => []
    | some addr => if addr != 0#64 then addr :: walkStack stackWalk fuel (n + 1) else []

/-- `CfixpCaptureStackTrace`: the result, the frames, and the state. -/
def captureStackTrace (t : ThreadId) (o : DbgHelpInit) (stackWalk : Nat → Option (BitVec 64)) (maxFrames : Nat)
    (d : DbgHelp) : Option (HRESULT × List (BitVec 64) × DbgHelp) :=
  match d.lock.enter t with
  | none      => none
  | some lock =>
    match lazyInitializeDbgHelp o { d with lock := lock } with
    | none         => none
    | some (hr, d) =>
      let leave := { d with lock := d.lock.leave }
      if succeeded hr then
        if !d.linked then none else some (hr, walkStack stackWalk maxFrames 0, leave)
      else some (hr, [], leave)

/-! ## Information about a frame -/

/-- The arguments of `CfixpGetInformationStackframe`: the frame, the sizes of the three buffers, and whether
    all pointers are given. -/
structure FrameRequest where
  frame           : BitVec 64
  moduleNameCch   : Nat
  functionNameCch : Nat
  sourceFileCch   : Nat
  pointers        : Bool
  deriving DecidableEq, Repr

def FrameRequest.isValid (q : FrameRequest) : Bool :=
  q.frame != 0#64 && q.moduleNameCch != 0 && q.functionNameCch != 0 && q.sourceFileCch != 0 && q.pointers

/-- What dbghelp says about the frame: a result or the last error of each function. -/
structure FrameSymbols where
  moduleInfo  : Except (BitVec 32) String
  /-- The symbol's name and the displacement. -/
  symbol      : Except (BitVec 32) (String × BitVec 64)
  undecorated : String → Except (BitVec 32) String
  /-- The line and the file, if they are known. -/
  line        : Option (BitVec 32 × String)

/-- What is stored through the pointers. -/
structure FrameInformation where
  moduleName   : String
  functionName : String
  displacement : BitVec 32
  sourceFile   : String
  sourceLine   : BitVec 32
  deriving DecidableEq, Repr

/-- The queries of `CfixpGetInformationStackframe`, which are made under the lock. -/
def queryFrame (q : FrameRequest) (o : FrameSymbols) (out : FrameInformation) : HRESULT × FrameInformation :=
  match o.moduleInfo with
  | .error e    => (hresultFromWin32 e, out)
  | .ok modName =>
    let (hr, text) := stringCchCopy q.moduleNameCch modName
    let out := { out with moduleName := text }
    if failed hr then (hr, out)
    else
      match o.symbol with
      | .error e                    => (hresultFromWin32 e, out)
      | .ok (name, displacement64) =>
        let out := { out with displacement := displacement64.setWidth 32 }
        match o.undecorated name with
        | .error e          => (hresultFromWin32 e, out)
        | .ok functionName =>
          let out := { out with functionName := functionName }
          match o.line with
          | none                    => (sOk, { out with sourceLine := 0#32, sourceFile := "" })
          | some (number, fileName) =>
            let (hr, text) := stringCchCopy q.sourceFileCch fileName
            let out := { out with sourceLine := number, sourceFile := text }
            if failed hr then (hr, out) else (sOk, out)

/-- `CfixpGetInformationStackframe`. It does not leave the lock if the library cannot be initialized. -/
def getInformationStackframe (t : ThreadId) (q : FrameRequest) (o : DbgHelpInit) (symbols : FrameSymbols)
    (out : FrameInformation) (d : DbgHelp) : Option (HRESULT × FrameInformation × DbgHelp) :=
  if !q.isValid then some (eInvalidarg, out, d)
  else
    match d.lock.enter t with
    | none      => none
    | some lock =>
      match lazyInitializeDbgHelp o { d with lock := lock } with
      | none         => none
      | some (hr, d) =>
        if failed hr then some (hr, out, d)
        else if !d.linked then none
        else
          let (hr, out) := queryFrame q symbols out
          some (hr, out, { d with lock := d.lock.leave })

end Cfix.Thread
