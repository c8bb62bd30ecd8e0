import Cfix.Runner.ExecCtx

/-!
# `Runner.MainWorker` — the exit code of the runner (`cfixrun/main.c`)
-/

namespace Cfix.Runner

abbrev DWORD := BitVec 32

def exitAllSucceeded : DWORD := 0#32
def exitNoneExecuted : DWORD := 1#32
def exitSomeFailed   : DWORD := 2#32
def exitUsageFailure : DWORD := 3#32
def exitFailure      : DWORD := 4#32

/-- `HRESULT_FROM_WIN32( ERROR_FILE_NOT_FOUND )`. -/
def eFileNotFound : HRESULT := 0x80070002#32

/-- What `CfixrunsMainWorker` finds on its way. -/
structure Invocation where
  /-- `Options->InputFile` is neither `NULL` nor empty. -/
  hasInputFile : Bool
  /-- The result and the fixture count of `CfixrunpAssembleDisplayAction` or
      `CfixrunpAssembleExecutionAction`. -/
  assembleHr   : HRESULT
  fixtureCount : BitVec 32
  /-- The result of `CfixrunsCreateExecutionContextAndEventSink`. -/
  createHr     : HRESULT
  /-- The result of `Action->Run`. -/
  runHr        : HRESULT
  deriving DecidableEq, Repr

/-- The exit code after the action has run. -/
def Statistics.exitCode (n : Statistics) : DWORD :=
  -- the result of the run plays no part
  if n.testCases = 0#32 then exitNoneExecuted
  else if n.failedTestCases = 0#32 then exitAllSucceeded
  else exitSomeFailed

/-- `CfixrunsMainWorker`: its result and `*ExitCode`, which was `exitCode` before. `statistics` are those of
    the execution context after `Action->Run`. -/
def mainWorker (i : Invocation) (statistics : Statistics) (exitCode : DWORD) : HRESULT × DWORD :=
  if !i.hasInputFile then (eFileNotFound, exitUsageFailure)
  else if failed i.assembleHr then (i.assembleHr, exitFailure)
  else if i.fixtureCount = 0#32 then (i.assembleHr, exitNoneExecuted)
  else if succeeded i.createHr then (i.runHr, statistics.exitCode)
  else (i.createHr, exitCode)

/-- `CfixrunsMainWorker` gets to run the action. -/
def Invocation.runsAction (i : Invocation) : Bool :=
  i.hasInputFile && !failed i.assembleHr && i.fixtureCount != 0#32 && !failed i.createHr

/-- For `CfixrunMain`, which presets the exit code with a failure, all tests can have succeeded only if the
    action has run. -/
theorem mainWorker_eq_exitAllSucceeded (i : Invocation) (n : Statistics) :
    (mainWorker i n exitFailure).2 = exitAllSucceeded
      ↔ i.runsAction = true ∧ n.testCases ≠ 0#32 ∧ n.failedTestCases = 0#32 := by
  have hexit : n.exitCode = exitAllSucceeded ↔ n.testCases ≠ 0#32 ∧ n.failedTestCases = 0#32 := by
    unfold Statistics.exitCode
    by_cases h : n.testCases = 0#32
    · simp [h, exitNoneExecuted, exitAllSucceeded]
    · by_cases h' : n.failedTestCases = 0#32
      · simp [h, h']
      · simp [h, h', exitSomeFailed, exitAllSucceeded]
  unfold mainWorker Invocation.runsAction
  cases hin : i.hasInputFile with
  | false => simp [exitUsageFailure, exitAllSucceeded]
  | true =>
      cases has : failed i.assembleHr with
      | true => simp [exitFailure, exitAllSucceeded]
      | false =>
          by_cases hf : i.fixtureCount = 0#32
          · simp [hf, exitNoneExecuted, exitAllSucceeded]
          · cases hc : failed i.createHr with
            | true => simp [hf, hc, exitFailure, exitAllSucceeded]
            | false => simp [hf, hc, hexit]

end Cfix.Runner
