import Cfix.Base.Hresult

/-!
# `Filament.Report` — reporting an event from test code (`cfix/rptstubs.c`)

The functions that test code reports its events with, on a thread that has a filament: `derived` is the bit
of its TLS slot that says that the filament is the default filament, and `disp` is what the execution
context answers. An `Effect` is how the function ends for the reporting thread.
-/

namespace Cfix.Thread

/-! ## Exceptions -/

abbrev ExceptionCode := BitVec 32

def exceptionTestcaseInconclusive : ExceptionCode := 0x8004AFFE#32
def exceptionTestcaseFailed       : ExceptionCode := 0x8004AFFF#32
def exceptionTestcaseFailedAbort  : ExceptionCode := 0x8004AFFD#32
def exceptionBreakpoint           : ExceptionCode := 0x80000003#32
def exceptionStackOverflow        : ExceptionCode := 0xC00000FD#32

/-- The exceptions that cfix raises itself. -/
def cfixExceptions : List ExceptionCode :=
  [exceptionTestcaseInconclusive, exceptionTestcaseFailed, exceptionTestcaseFailedAbort]

instance (code : ExceptionCode) : Decidable (code ∈ cfixExceptions) :=
  List.instDecidableMemOfLawfulBEq code cfixExceptions

/-! ## The report functions -/

inductive Effect where
  /-- The function returns to the test code. -/
  | returns (disp : Disposition)
  | raises (code : ExceptionCode)
  /-- `ExitThread( CFIX_EXIT_THREAD_ABORTED )`. -/
  | exits
  deriving DecidableEq, Repr

/-- `CfixPeFail`. -/
def peFail (derived : Bool) : Effect :=
  if !derived then .raises exceptionTestcaseFailed else .exits

/-- `CfixPeReportFailedAssertion`. -/
def peReportFailedAssertion (disp : Disposition) (derived debuggerPresent : Bool) : Effect :=
  match disp with
  | .breakAlways => .returns .break_
  | .abort       => if !derived then .raises exceptionTestcaseFailedAbort else .exits
  | .continue_   => .returns disp
  | .break_      => if debuggerPresent then .returns disp else peFail derived

/-- `CfixPeReportInconclusiveness`. The disposition is ignored. -/
def peReportInconclusiveness (derived : Bool) : Effect :=
  if !derived then .raises exceptionTestcaseInconclusive else .exits

/-- `CfixPeReportLog`. The disposition is ignored. -/
def peReportLog (disp : Disposition) : Effect := .returns disp

/-! ## The exception filter -/

inductive FilterResult where
  | executeHandler
  | continueSearch
  deriving DecidableEq, Repr

/-- The filter reports the exception as an event of type `CfixEventUncaughtException`. -/
def reportsException (code : ExceptionCode) : Bool :=
  code ∉ cfixExceptions ∧ code ≠ exceptionBreakpoint ∧ code ≠ exceptionStackOverflow

/-- `CfixpExceptionFilter`: its result, and `*AbortRun`, which was `abortRun` before. -/
def exceptionFilter (code : ExceptionCode) (disp : Disposition) (abortRun : Bool) : FilterResult × Bool :=
  if code = exceptionTestcaseInconclusive ∨ code = exceptionTestcaseFailed then (.executeHandler, false)
  else if code = exceptionTestcaseFailedAbort then (.executeHandler, true)
  else if code = exceptionBreakpoint then (.continueSearch, abortRun)
  else if code = exceptionStackOverflow then (.continueSearch, abortRun)
  else (if disp = .break_ then .continueSearch else .executeHandler, disp == .abort)

/-- An answered abort never returns to the test code. -/
theorem peReportFailedAssertion_abort (derived debuggerPresent : Bool) :
    peReportFailedAssertion .abort derived debuggerPresent
      = if derived then .exits else .raises exceptionTestcaseFailedAbort := by
  cases derived <;> rfl

/-- Without a filament of its own a thread is never unwound by a cfix exception. -/
theorem peReportFailedAssertion_derived (disp : Disposition) (debuggerPresent : Bool) (code : ExceptionCode) :
    peReportFailedAssertion disp true debuggerPresent ≠ .raises code := by
  cases disp <;> cases debuggerPresent <;> simp [peReportFailedAssertion, peFail]

/-- The filter catches every exception of cfix. -/
theorem exceptionFilter_cfix {code : ExceptionCode} (h : code ∈ cfixExceptions) (disp : Disposition)
    (abortRun : Bool) :
    exceptionFilter code disp abortRun = (.executeHandler, code == exceptionTestcaseFailedAbort) := by
  simp only [cfixExceptions, List.mem_cons, List.not_mem_nil, or_false] at h
  rcases h with rfl | rfl | rfl <;> rfl

/-- An exception that is reported and answered with an abort ends the run. -/
theorem exceptionFilter_reported {code : ExceptionCode} (h : reportsException code = true)
    (disp : Disposition) (abortRun : Bool) :
    exceptionFilter code disp abortRun
      = (if disp = .break_ then .continueSearch else .executeHandler, disp == .abort) := by
  simp only [reportsException, cfixExceptions, List.mem_cons, List.not_mem_nil, or_false, not_or,
    decide_eq_true_eq] at h
  obtain ⟨⟨h₁, h₂, h₃⟩, h₄, h₅⟩ := h
  rw [exceptionFilter, if_neg (not_or.mpr ⟨h₁, h₂⟩), if_neg h₃, if_neg h₄, if_neg h₅]

end Cfix.Thread
