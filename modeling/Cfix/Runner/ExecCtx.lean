import Mathlib.Logic.Function.Basic
import Cfix.Base.Hresult

/-!
# `Runner.ExecCtx` — the execution context of the runner (`cfixrun/execctx.c`)

Each thread of a test has a slot for an `EXEC_THREAD_STATE`; child threads share the state of their parent.
The callbacks of the execution context create, share and free these states, and count the test cases. A
callback that touches a state after it was freed returns `none`.
-/

namespace Cfix.Runner

abbrev ThreadId := Nat
abbrev StateId  := Nat

/-! ## Data -/

/-- `EXEC_THREAD_STATE`. The reference count is the number of threads that share the state. -/
structure ThreadState where
  failureCount      : BitVec 32
  inconclusiveCount : BitVec 32
  referenceCount    : Int
  deriving DecidableEq, Repr

/-- `CFIXRUN_STATISTICS`. -/
structure Statistics where
  fixtures              : BitVec 32
  testCases             : BitVec 32
  succeededTestCases    : BitVec 32
  failedTestCases       : BitVec 32
  inconclusiveTestCases : BitVec 32
  deriving DecidableEq, Repr

/-- The options that dispositions depend on. -/
structure Options where
  abortOnFirstFailure           : Bool
  alwaysBreakOnFailure          : Bool
  doNotCatchUnhandledExceptions : Bool
  deriving DecidableEq, Repr

/-- `EXEC_CONTEXT`, with the slots of the threads and the states that are allocated. -/
structure ExecContext where
  /-- `CfixrunsCurrentExecutionStateSlot` of each thread. -/
  slot       : ThreadId → Option StateId
  states     : StateId → Option ThreadState
  /-- The next state that `malloc` returns. -/
  nextState  : StateId
  statistics : Statistics

/-- `CfixrunpCreateExecutionContext`. -/
def ExecContext.created : ExecContext where
  slot _     := none
  states _   := none
  nextState  := 0
  statistics :=
    { fixtures := 0#32, testCases := 0#32, succeededTestCases := 0#32, failedTestCases := 0#32
      inconclusiveTestCases := 0#32 }

/-! ## Thread states -/

/-- `CfixrunsGetCurrentExecutionState`; `memory` says whether `malloc` succeeds. -/
def ExecContext.getCurrentExecutionState (t : ThreadId) (create memory : Bool) (x : ExecContext) :
    Option StateId × ExecContext :=
  match x.slot t with
  | some i => (some i, x)
  | none   =>
    if create && memory then
      (some x.nextState, { x with
        slot      := Function.update x.slot t (some x.nextState)
        states    := Function.update x.states x.nextState
          (some { failureCount := 0#32, inconclusiveCount := 0#32, referenceCount := 1 })
        nextState := x.nextState + 1 })
    else (none, x)

/-- `CfixrunsDereferenceCurrentExecutionState`. -/
def ExecContext.dereferenceCurrentExecutionState (t : ThreadId) (x : ExecContext) : Option ExecContext :=
  match x.slot t with
  | none   => some x
  | some i =>
    match x.states i with
    | none    => none
    | some st =>
      if st.referenceCount - 1 = 0 then
        some { x with
          slot   := Function.update x.slot t none
          states := Function.update x.states i none }
      else
        -- the slot keeps pointing to the shared state
        some { x with
          states := Function.update x.states i (some { st with referenceCount := st.referenceCount - 1 }) }

/-! ## Callbacks -/

/-- `CfixrunsExecCtxQueryDefaultDisposition`. -/
def queryDefaultDisposition (o : Options) : EventType → Disposition
  | .failedAssertion   =>
    if o.abortOnFirstFailure then .abort
    else if o.alwaysBreakOnFailure then .breakAlways
    else .break_
  | .uncaughtException =>
    if o.doNotCatchUnhandledExceptions then .break_
    else if o.abortOnFirstFailure then .abort else .continue_
  | .inconclusiveness  => .continue_
  | .log               => .continue_

/-- `CfixrunsExecCtxReportEvent`. -/
def ExecContext.reportEvent (o : Options) (t : ThreadId) (event : EventType) (x : ExecContext) :
    Disposition × ExecContext :=
  match x.getCurrentExecutionState t false false with
  | (none, x)   => (.abort, x)
  -- the event is not recorded in the state
  | (some _, x) => (queryDefaultDisposition o event, x)

/-- Reporting an event leaves the execution context as it is. -/
theorem reportEvent_context (o : Options) (t : ThreadId) (event : EventType) (x : ExecContext) :
    (x.reportEvent o t event).2 = x := by
  unfold ExecContext.reportEvent ExecContext.getCurrentExecutionState
  cases x.slot t <;> rfl

/-- `CfixrunsExecCtxBeforeFixtureStart`. -/
def ExecContext.beforeFixtureStart (t : ThreadId) (memory : Bool) (x : ExecContext) : HRESULT × ExecContext :=
  match x.getCurrentExecutionState t true memory with
  | (none, x)   => (eUnexpected, x)
  | (some _, x) => (sOk, x)

/-- `CfixrunsExecCtxBeforeTestCaseStart`. -/
def ExecContext.beforeTestCaseStart (t : ThreadId) (x : ExecContext) : HRESULT :=
  match x.slot t with
  | none   => eUnexpected
  | some _ => sOk

/-- `CfixrunsExecCtxAfterFixtureFinish`. -/
def ExecContext.afterFixtureFinish (t : ThreadId) (x : ExecContext) : Option ExecContext :=
  match x.slot t with
  | none   => some x
  | some _ =>
    { x with statistics := { x.statistics with fixtures := x.statistics.fixtures + 1#32 } }
      |>.dereferenceCurrentExecutionState t

/-- The counting of `CfixrunsExecCtxAfterTestCaseFinish`. -/
def Statistics.countTestCase (st : ThreadState) (n : Statistics) : Statistics :=
  let n :=
    if st.failureCount = 0#32 ∧ st.inconclusiveCount = 0#32 then
      { n with succeededTestCases := n.succeededTestCases + 1#32 }
    else if (0#32).slt st.failureCount then { n with failedTestCases := n.failedTestCases + 1#32 }
    else if (0#32).slt st.inconclusiveCount then
      { n with inconclusiveTestCases := n.inconclusiveTestCases + 1#32 }
    else n
  { n with testCases := n.testCases + 1#32 }

/-- `CfixrunsExecCtxAfterTestCaseFinish`. -/
def ExecContext.afterTestCaseFinish (t : ThreadId) (x : ExecContext) : Option ExecContext :=
  match x.slot t with
  | none   => some x
  | some i =>
    match x.states i with
    | none    => none
    | some st =>
      some { x with
        statistics := x.statistics.countTestCase st
        states     := Function.update x.states i
          (some { st with inconclusiveCount := 0#32, failureCount := 0#32 }) }

/-- `CfixrunsExecCtxCreateChildThread`, with `*ContextForChild`. -/
def ExecContext.createChildThread (t : ThreadId) (x : ExecContext) : HRESULT × Option StateId :=
  match x.slot t with
  | none   => (eUnknownThread, none)
  | some i => (sOk, some i)

/-- `CfixrunsExecCtxBeforeChildThreadStart` on thread `t` with the parent's state `i`. -/
def ExecContext.beforeChildThreadStart (t : ThreadId) (i : StateId) (x : ExecContext) : Option ExecContext :=
  (x.states i).map (fun st =>
    { x with
      states := Function.update x.states i (some { st with referenceCount := st.referenceCount + 1 })
      slot   := Function.update x.slot t (some i) })

/-- `CfixrunsExecCtxAfterChildThreadFinish`. -/
def ExecContext.afterChildThreadFinish (t : ThreadId) (x : ExecContext) : Option ExecContext :=
  x.dereferenceCurrentExecutionState t

end Cfix.Runner
