import Cfix.Filament.Report
import Cfix.Kernel.EventLayout
import Cfix.Storage.Slots

/-!
# `Filament.TestCode` — what the code of a routine does, and its run in a process (`cfix/rptstubs.c`)

Test code acts on the framework through the report functions and the value slots only, and how it goes on may
depend on what these return. `TestCode` is this behaviour. `runInProcess` is its run on the thread of a routine,
below the exception filter of `CfixsRunTestRoutine`.
-/

namespace Cfix

open Events (Wstr Width ExceptionRecord)
open Thread

/-! ## Texts -/

/-- A text of the program. -/
def Events.Wstr.ofString (s : String) : Wstr := .ofBuffer (s.toList.map fun x => BitVec.ofNat 16 x.toNat)

/-- What is left of a text that is printed to a buffer of the size. -/
def Events.Wstr.truncate (bufferSize : Nat) (s : Wstr) : Wstr where
  chars     := s.chars.take (bufferSize - 1)
  nulFree h := s.nulFree (List.mem_of_mem_take h)

/-- A format string with its arguments: what it is, and what is printed for it. -/
structure FormatArgs where
  format : Wstr
  text   : Wstr

/-- `%08X`. -/
def hexUlong (x : BitVec 32) : List (BitVec 16) :=
  (List.range 8).map fun i =>
    let digit := x.toNat / 16 ^ (7 - i) % 16
    .ofNat 16 (if digit < 10 then 48 + digit else 55 + digit)

/-- The message of a failed comparison of two numbers. -/
def comparisonFailed (expected actual : BitVec 32) (expression : Wstr) : Wstr :=
  .ofBuffer ((Wstr.ofString "Comparison failed. Expected: 0x").chars ++ hexUlong expected ++
    (Wstr.ofString ", Actual: 0x").chars ++ hexUlong actual ++ (Wstr.ofString " (Expression: ").chars ++
    expression.chars ++ (Wstr.ofString ")").chars)

/-! ## Test code -/

/-- `File`, `Routine` and `Line`. -/
structure Place where
  file    : Option Wstr
  routine : Option Wstr
  line    : BitVec 32

/-- What the code of a routine does next. What the framework does not see of it is left out. -/
inductive TestCode (w : Width) where
  | finish
  /-- An exception that the code does not catch itself. -/
  | raise (record : ExceptionRecord w)
  | fail
  | reportFailedAssertion (place : Place) (expression : Wstr) (next : Disposition → TestCode w)
  | reportFailedAssertionFormat (place : Place) (format : Option FormatArgs) (next : Disposition → TestCode w)
  | assertEqualsUlong (expected actual : BitVec 32) (place : Place) (expression : Wstr)
      (next : Disposition → TestCode w)
  | reportInconclusiveness (message : Option Wstr)
  | reportLog (format : Option FormatArgs) (next : TestCode w)
  | setValue (tag : BitVec 32) (value : BitVec w.bits) (next : TestCode w)
  | getValue (tag : BitVec 32) (next : BitVec w.bits → TestCode w)
  /-- `KeRaiseIrql` and `KeLowerIrql`, which are there in a driver only. -/
  | setIrql (irql : Nat) (next : TestCode w)

/-! ## The execution context -/

/-- The part of `CFIX_TESTCASE_EXECUTION_EVENT` that depends on the event type, without the last error. -/
inductive ReportedEvent (w : Width) where
  | failedAssertion (place : Place) (expression : Option Wstr)
  | uncaughtException (record : ExceptionRecord w)
  | inconclusiveness (message : Option Wstr)
  | log (message : Wstr)

variable {w : Width}

def ReportedEvent.type : ReportedEvent w → EventType
  | .failedAssertion _ _ => .failedAssertion
  | .uncaughtException _ => .uncaughtException
  | .inconclusiveness _  => .inconclusiveness
  | .log _               => .log

variable {κ : Type}

/-- What the code of a routine depends on in a process. -/
structure Process (w : Width) (κ : Type) where
  /-- `ReportEvent` of the execution context, on the thread of the routine. -/
  reportEvent       : ReportedEvent w → κ → Disposition × κ
  /-- `IsDebuggerPresent` after a number of events. -/
  isDebuggerPresent : Nat → Bool

/-- The slots of the filament, the execution context, and the events that were reported to it. -/
structure ProcessRun (w : Width) (κ : Type) where
  storage : Storage
  context : κ
  events  : List (ReportedEvent w)

/-- How a routine ends, and the run up to there; `none` if nobody handles its exception. -/
abbrev Ended (σ : Type) := Option Completion × σ

/-- The handler behind the filter, if it is executed. -/
def completionOf (x : FilterResult × Bool) : Option Completion :=
  match x.1 with
  | .executeHandler => some (.raised x.2)
  | .continueSearch => none

/-! ## The run in a process -/

namespace Process

variable (p : Process w κ)

/-- An event is reported. -/
def report (e : ReportedEvent w) (s : ProcessRun w κ) : Disposition × ProcessRun w κ :=
  let (disp, context) := p.reportEvent e s.context
  (disp, { s with context := context, events := s.events ++ [e] })

/-- An exception gets to the filter. -/
def exception (record : ExceptionRecord w) (s : ProcessRun w κ) : Ended (ProcessRun w κ) :=
  if reportsException record.exceptionCode then
    let (disp, s) := p.report (.uncaughtException record) s
    (completionOf (exceptionFilter record.exceptionCode disp false), s)
  else (completionOf (exceptionFilter record.exceptionCode .continue_ false), s)

/-- A report function comes to its end. The exceptions that it raises are not reported. -/
def resume (effect : Effect) (next : Disposition → ProcessRun w κ → Ended (ProcessRun w κ))
    (s : ProcessRun w κ) : Ended (ProcessRun w κ) :=
  match effect with
  | .returns disp => next disp s
  | .raises code  => (completionOf (exceptionFilter code .continue_ false), s)
  | .exits        => (none, s)

/-- `CfixPeReportFailedAssertion`. -/
def reportFailedAssertion (place : Place) (expression : Option Wstr)
    (next : Disposition → ProcessRun w κ → Ended (ProcessRun w κ)) (s : ProcessRun w κ) :
    Ended (ProcessRun w κ) :=
  let (disp, s) := p.report (.failedAssertion place expression) s
  resume (peReportFailedAssertion disp false (p.isDebuggerPresent s.events.length)) next s

end Process

/-- What is printed for a format to a buffer of the size, which is empty at first. -/
def printed (bufferSize : Nat) : Option FormatArgs → Wstr
  | none   => .empty
  | some f => f.text.truncate bufferSize

/-- The code of a routine in a process. -/
def TestCode.runInProcess (p : Process w κ) : TestCode w → ProcessRun w κ → Ended (ProcessRun w κ)
  | .finish, s                                           => (some .returned, s)
  | .raise record, s                                     => p.exception record s
  | .fail, s                                             => Process.resume (peFail false) (fun _ s => (none, s)) s
  | .reportFailedAssertion place expression next, s      =>
    p.reportFailedAssertion place (some expression) (fun disp s => (next disp).runInProcess p s) s
  -- `CfixPeReportFailedAssertionFormatW`
  | .reportFailedAssertionFormat place format next, s    =>
    p.reportFailedAssertion place (some (printed 256 format)) (fun disp s => (next disp).runInProcess p s) s
  | .assertEqualsUlong expected actual place expression next, s =>
    if expected = actual then (next .continue_).runInProcess p s
    else
      p.reportFailedAssertion place (some ((comparisonFailed expected actual expression).truncate 200))
        (fun disp s => (next disp).runInProcess p s) s
  | .reportInconclusiveness message, s                   =>
    let (_, s) := p.report (.inconclusiveness message) s
    Process.resume (peReportInconclusiveness false) (fun _ s => (none, s)) s
  | .reportLog format next, s                            =>
    let (_, s) := p.report (.log (printed 512 format)) s
    next.runInProcess p s
  | .setValue tag value next, s                          =>
    next.runInProcess p { s with storage := s.storage.setValue tag value.toNat }
  | .getValue tag next, s                                =>
    (next (.ofNat w.bits (s.storage.getValue tag))).runInProcess p s
  | .setIrql _ next, s                                   => next.runInProcess p s

end Cfix
