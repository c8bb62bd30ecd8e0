import Mathlib.Data.BitVec

/-!
# `Base.Hresult` — result codes, flag words, event types and dispositions

The 32-bit result codes of `cfixmsg.h` and the few system codes that the modelled functions return. A
code is a failure iff its sign bit is set (`FAILED`).
-/

namespace Cfix

abbrev HRESULT := BitVec 32

/-- `FAILED( Hr )`: the code is negative as a signed number. -/
def failed (hr : HRESULT) : Bool := hr.msb

/-- `SUCCEEDED( Hr )`. -/
def succeeded (hr : HRESULT) : Bool := !failed hr

@[simp] theorem succeeded_eq_not_failed (hr : HRESULT) : succeeded hr = !failed hr := rfl

/-! ## Codes -/

def sOk                       : HRESULT := 0x00000000#32
def eAccessdenied             : HRESULT := 0x80070005#32
def eInvalidarg               : HRESULT := 0x80070057#32
def eOutofmemory              : HRESULT := 0x8007000E#32
def eUnexpected               : HRESULT := 0x8000FFFF#32

def eTestrunAborted           : HRESULT := 0x80048008#32
def eUnknownThread            : HRESULT := 0x80048009#32
def eSetupRoutineFailed       : HRESULT := 0x8004800B#32
def eTeardownRoutineFailed    : HRESULT := 0x8004800C#32
def eTestRoutineFailed        : HRESULT := 0x8004800E#32
def eBeforeRoutineFailed      : HRESULT := 0x80048011#32
def eAfterRoutineFailed       : HRESULT := 0x80048012#32
def eTooManyChildThreads      : HRESULT := 0x80048015#32
def eDefaultFilamentConflict  : HRESULT := 0x80048017#32

@[simp] theorem failed_sOk : failed sOk = false := rfl
@[simp] theorem failed_eAccessdenied : failed eAccessdenied = true := rfl
@[simp] theorem failed_eInvalidarg : failed eInvalidarg = true := rfl
@[simp] theorem failed_eOutofmemory : failed eOutofmemory = true := rfl
@[simp] theorem failed_eUnexpected : failed eUnexpected = true := rfl
@[simp] theorem failed_eTestrunAborted : failed eTestrunAborted = true := rfl
@[simp] theorem failed_eUnknownThread : failed eUnknownThread = true := rfl
@[simp] theorem failed_eSetupRoutineFailed : failed eSetupRoutineFailed = true := rfl
@[simp] theorem failed_eTeardownRoutineFailed : failed eTeardownRoutineFailed = true := rfl
@[simp] theorem failed_eTestRoutineFailed : failed eTestRoutineFailed = true := rfl
@[simp] theorem failed_eBeforeRoutineFailed : failed eBeforeRoutineFailed = true := rfl
@[simp] theorem failed_eAfterRoutineFailed : failed eAfterRoutineFailed = true := rfl
@[simp] theorem failed_eTooManyChildThreads : failed eTooManyChildThreads = true := rfl
@[simp] theorem failed_eDefaultFilamentConflict : failed eDefaultFilamentConflict = true := rfl

/-! ## Flag words -/

/-- `CfixpFlagOn( Flags, FlagToTest )`. -/
def flagOn (flags flagToTest : BitVec 32) : Bool := flags &&& flagToTest != 0#32

/-! ## Events and dispositions -/

/-- `CFIX_EVENT_TYPE`. -/
inductive EventType where
  | failedAssertion
  | uncaughtException
  | inconclusiveness
  | log
  deriving DecidableEq, Repr

/-- `CFIX_REPORT_DISPOSITION`. -/
inductive Disposition where
  | continue_
  | break_
  | breakAlways
  | abort
  deriving DecidableEq, Repr

end Cfix
