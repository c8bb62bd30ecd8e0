import Cfix.Filament.TestCode
import Cfix.Kernel.TestAdapter

/-!
# `Kernel.ReportSink` — the report functions of a driver and the call of its routines (`cfixkr`)

In a driver the report functions queue their events in the channel of the call and act on the dispositions that
came with the request (`rptstubs.c`). Code may run at an elevated IRQL, where no text can be formatted and no
exception can be raised. `callRoutineDriverConnection` is the call around the code (`drvconn.c`).
-/

namespace Cfix

open Events (Wstr Width ExceptionRecord EventArgs RoutineCall CallRoutineRequest)
open Thread
open Unload (NTSTATUS statusSuccess)

/-! ## The thread of a routine -/

def passiveLevel : Nat := 0

/-- What the code of a routine depends on in a driver. -/
structure DriverThread (w : Width) where
  /-- `Channel->Dispositions`. -/
  failedAssertion    : Disposition
  unhandledException : Disposition
  /-- `KD_DEBUGGER_ENABLED && ! KD_DEBUGGER_NOT_PRESENT` after a number of events. -/
  isDebuggerPresent  : Nat → Bool
  mainThreadId       : BitVec 32
  threadId           : BitVec 32
  /-- The frames on the stack after a number of events. -/
  stack              : Nat → List (BitVec 64)

/-- The IRQL, `Channel->TlsValue`, and the events that `CfixkrsQueueEvent` was called for. -/
structure DriverRun (w : Width) where
  irql     : Nat
  tlsValue : BitVec w.bits
  events   : List (EventArgs w)

variable {w : Width}

namespace DriverThread

variable (t : DriverThread w)

/-- The parameters of `CfixkrsQueueEvent` for an event. The record of an exception comes with a context. -/
def eventArgs (stack : List (BitVec 64)) (e : ReportedEvent w) : EventArgs w :=
  let args : EventArgs w :=
    { callerContext := false, type := e.type, exceptionRecord := none, file := none, routine := none
      line := 0#32, expression := none, message := none, mainThreadId := t.mainThreadId
      currentThreadId := t.threadId, stack := stack }
  match e with
  | .failedAssertion place expression =>
    { args with file := place.file, routine := place.routine, line := place.line, expression := expression }
  | .uncaughtException record         => { args with callerContext := true, exceptionRecord := some record }
  | .inconclusiveness message         => { args with message := message }
  | .log message                      => { args with message := some message }

/-- `CfixkrsQueueEvent`. -/
def queueEvent (e : ReportedEvent w) (s : DriverRun w) : DriverRun w :=
  { s with events := s.events ++ [t.eventArgs (t.stack s.events.length) e] }

/-! ## Exceptions -/

/-- `CfixkrpExceptionFilter` reports the exception. Breakpoints are exceptions like others. -/
def reportsException (code : ExceptionCode) : Bool := code ∉ cfixExceptions

/-- `CfixkrpExceptionFilter`, with `*AbortRun`. -/
def exceptionFilter (code : ExceptionCode) (disp : Disposition) : FilterResult × Bool :=
  if code = exceptionTestcaseInconclusive ∨ code = exceptionTestcaseFailed then (.executeHandler, false)
  else if code = exceptionTestcaseFailedAbort then (.executeHandler, true)
  else (if disp = .break_ then .continueSearch else .executeHandler, disp == .abort)

/-- An exception gets to the filter, which calls `CfixkrpReportUnhandledException`. -/
def exception (record : ExceptionRecord w) (s : DriverRun w) : Ended (DriverRun w) :=
  let s := if reportsException record.exceptionCode then t.queueEvent (.uncaughtException record) s else s
  (completionOf (exceptionFilter record.exceptionCode t.unhandledException), s)

def irqlMessage : Wstr :=
  .ofString ("Testcase aborted at elevated IRQL. IRQL  " ++
    "will be forced back to PASSIVE_LEVEL. Machine state might " ++ "become corrupted")

/-- `CfixkrsAbortCurrentTestCase`. -/
def abortCurrentTestCase (code : ExceptionCode) (s : DriverRun w) : Ended (DriverRun w) :=
  let s := if s.irql > passiveLevel then { t.queueEvent (.log irqlMessage) s with irql := passiveLevel } else s
  (completionOf (exceptionFilter code t.unhandledException), s)

/-! ## The report functions -/

/-- `CfixkrsReportFailedAssertionStub`. -/
def reportFailedAssertion (place : Place) (expression : Option Wstr)
    (next : Disposition → DriverRun w → Ended (DriverRun w)) (s : DriverRun w) : Ended (DriverRun w) :=
  let s := t.queueEvent (.failedAssertion place expression) s
  match t.failedAssertion with
  | .breakAlways => next .break_ s
  | .abort       => t.abortCurrentTestCase exceptionTestcaseFailedAbort s
  | .continue_   => next .continue_ s
  | .break_      =>
    if t.isDebuggerPresent s.events.length then next .break_ s
    else t.abortCurrentTestCase exceptionTestcaseFailed s

/-- The message for a format: at an elevated IRQL it is the format itself. -/
def message (irql : Nat) (f : FormatArgs) : Wstr := if irql = passiveLevel then f.text.truncate 200 else f.format

end DriverThread

/-- The code of a routine in a driver. -/
def TestCode.runInDriver (t : DriverThread w) : TestCode w → DriverRun w → Ended (DriverRun w)
  | .finish, s                                           => (some .returned, s)
  | .raise record, s                                     => t.exception record s
  | .fail, s                                             => t.abortCurrentTestCase exceptionTestcaseFailed s
  | .reportFailedAssertion place expression next, s      =>
    t.reportFailedAssertion place (some expression) (fun disp s => (next disp).runInDriver t s) s
  | .reportFailedAssertionFormat place format next, s    =>
    t.reportFailedAssertion place (format.map (DriverThread.message s.irql))
      (fun disp s => (next disp).runInDriver t s) s
  | .assertEqualsUlong expected actual place expression next, s =>
    if expected = actual then (next .continue_).runInDriver t s
    else
      t.reportFailedAssertion place
        (some (DriverThread.message s.irql ⟨expression, comparisonFailed expected actual expression⟩))
        (fun disp s => (next disp).runInDriver t s) s
  | .reportInconclusiveness message, s                   =>
    t.abortCurrentTestCase exceptionTestcaseInconclusive
      (t.queueEvent (.inconclusiveness (some (message.getD .empty))) s)
  | .reportLog format next, s                            =>
    next.runInDriver t (t.queueEvent (.log ((format.map (DriverThread.message s.irql)).getD .empty)) s)
  | .setValue tag value next, s                          =>
    next.runInDriver t (if tag ≠ 0#32 then s else { s with tlsValue := value })
  | .getValue tag next, s                                =>
    (next (if tag ≠ 0#32 then 0#w.bits else s.tlsValue)).runInDriver t s
  | .setIrql irql next, s                                => next.runInDriver t { s with irql := irql }

/-! ## The call of a routine -/

def statusDriverUnableToLoad : NTSTATUS := 0xC000026C#32

/-- `CFIXKRP_DRIVER_CONNECTION`, with what the call of a routine depends on. -/
structure DriverConnection (w : Width) where
  adapter                       : TestModule.TestAdapter
  /-- The code at an address of the driver. -/
  code                          : Pvoid → TestCode w
  /-- The result of `CfixkrpSetCurrentFilament`. -/
  setCurrentFilament            : NTSTATUS
  acquireDriverUnloadProtection : Bool
  isDebuggerPresent             : Nat → Bool
  threadId                      : BitVec 32
  stack                         : Nat → List (BitVec 64)

/-- The disposition with this value; the request has been checked. -/
def dispositionOf (x : BitVec 8) : Disposition :=
  if x = 0#8 then .continue_ else if x = 1#8 then .break_ else if x = 2#8 then .breakAlways else .abort

namespace DriverConnection

variable (c : DriverConnection w)

/-- The thread that runs the routine of a request. -/
def thread (request : CallRoutineRequest) : DriverThread w where
  failedAssertion    := dispositionOf request.failedAssertion
  unhandledException := dispositionOf request.unhandledException
  isDebuggerPresent  := c.isDebuggerPresent
  mainThreadId       := c.threadId
  threadId           := c.threadId
  stack              := c.stack

/-- The channel at the start of a call. -/
def start (request : CallRoutineRequest) : DriverRun w where
  irql     := passiveLevel
  tlsValue := request.tlsValue.setWidth w.bits
  events   := []

/-- The call comes to an early end. -/
def failedCall (status : NTSTATUS) (request : CallRoutineRequest) : RoutineCall w where
  events          := []
  status          := status
  ranToCompletion := false
  abortRun        := false
  tlsValue        := request.tlsValue

/-- `CfixkrpCallRoutineDriverConnection`, with the channel of the caller; `none` if an exception is not handled,
    which stops the machine. -/
def callRoutineDriverConnection (request : CallRoutineRequest) : Option (RoutineCall w) :=
  match TestModule.getRoutineTestAdapter c.adapter request.fixtureKey.toNat request.routineKey.toNat with
  | .error status => some (failedCall status request)
  | .ok routine   =>
    if !Events.ntSuccess c.setCurrentFilament then some (failedCall c.setCurrentFilament request)
    else if !c.acquireDriverUnloadProtection then some (failedCall statusDriverUnableToLoad request)
    else
      let (completion, s) := (c.code routine).runInDriver (c.thread request) (start request)
      completion.map fun completion =>
        { events          := s.events
          status          := statusSuccess
          ranToCompletion := completion == .returned
          abortRun        := completion == .raised true
          tlsValue        := s.tlsValue.setWidth 64 }

end DriverConnection

end Cfix
