import Cfix.Base.Strsafe
import Cfix.Fixture.EventEmitter

/-!
# `Console.EventSink` — the event sink that writes to the console (`cfixcons/eventsink.c`)

Each callback is a function from the sink to the sink and the text it prints. The names of modules, error
messages and stack frames are resolved by other components, which are parameters.
-/

namespace Cfix.Console

/-! ## Events -/

/-- What `GetInformationStackFrame` finds out about a frame. -/
structure StackFrame where
  moduleName   : String
  functionName : String
  displacement : BitVec 32
  sourceFile   : String
  sourceLine   : BitVec 32

/-- `CFIX_STACKTRACE`. The routine is optional, and it fails for some frames. -/
structure StackTrace where
  frames                   : List (BitVec 64)
  getInformationStackFrame : Option (BitVec 64 → Option StackFrame)

/-- The part of `CFIX_TESTCASE_EXECUTION_EVENT` that depends on the event type. -/
inductive EventInfo where
  | failedAssertion (file routine : String) (line : BitVec 32) (expression : String) (lastError : BitVec 32)
  | uncaughtException (exceptionCode : BitVec 32) (exceptionAddress : BitVec 64)
  | inconclusiveness (message : String)
  | log (message : String)

def EventInfo.type : EventInfo → EventType
  | .failedAssertion _ _ _ _ _ => .failedAssertion
  | .uncaughtException _ _     => .uncaughtException
  | .inconclusiveness _        => .inconclusiveness
  | .log _                     => .log

/-- `CFIX_TESTCASE_EXECUTION_EVENT`. -/
structure TestcaseExecutionEvent where
  info       : EventInfo
  stackTrace : StackTrace

/-- A call of the sink by the execution context. -/
abbrev Callback := SinkCall TestcaseExecutionEvent

/-! ## Text -/

/-- `%d` for a 32-bit argument. -/
def decimal (x : BitVec 32) : String := toString x.toInt

/-- `%x`. -/
def hex (x : Nat) : String := String.ofList (Nat.toDigits 16 x)

/-- `%08X`, or `%p` of a 64-bit build for a width of 16. -/
def paddedHex (width x : Nat) : String :=
  let digits := (hex x).toUpper
  String.ofList (List.replicate (width - digits.length) '0') ++ digits

/-! ## The sink -/

/-- `CFIXCONS_EVENT_SINK`, without its reference count. -/
structure Sink where
  flags             : BitVec 32
  failureCount      : BitVec 32
  inconclusiveCount : BitVec 32

def eventSinkFlagShowStacktraceSourceInformation : BitVec 32 := 1#32

/-- `CDIAG_E_UNKNOWN_MESSAGE`. -/
def eUnknownMessage : HRESULT := 0x80048104#32

/-- `CreateEventSink`, where it succeeds. -/
def Sink.created (flags : BitVec 32) : Sink where
  flags             := flags
  failureCount      := 0#32
  inconclusiveCount := 0#32

/-- `CfixconssFormatStackTrace`: the frames are appended to the buffer. -/
def formatStackTrace (getInformationStackFrame : BitVec 64 → Option StackFrame) (showSourceInformation : Bool)
    (bufferSize : Nat) : List (BitVec 64) → String → String
  | [], buffer            => buffer
  | frame :: rest, buffer =>
    match getInformationStackFrame frame with
    | none   => formatStackTrace getInformationStackFrame showSourceInformation bufferSize rest buffer
    | some i =>
      let place := s!"                 {i.moduleName}!{i.functionName} +0x{hex i.displacement.toNat}"
      let source := s!" ({i.sourceFile}:{decimal i.sourceLine})"
      let (hr, frameBuffer) := stringCchCopy 200
        (if i.sourceLine != 0#32 && showSourceInformation then place ++ source ++ "\n" else place ++ "\n")
      if failed hr then buffer
      else
        let (hr, buffer) := stringCchCat bufferSize buffer frameBuffer
        if failed hr then buffer
        else formatStackTrace getInformationStackFrame showSourceInformation bufferSize rest buffer

section Callbacks

-- `Resolver->ResolveMessage` for a buffer of the given size
variable (resolveMessage : BitVec 32 → Nat → Except HRESULT String)

/-- `CfixconssResolveErrorMessage`. -/
def resolveErrorMessage (messageCode : BitVec 32) (bufferSize : Nat) : String :=
  match resolveMessage messageCode bufferSize with
  | .ok message => message
  | .error hr   => if hr == eUnknownMessage then (stringCchCopy bufferSize "Unknown error").2 else ""

namespace Sink

variable (sink : Sink)

/-- `CfixconssReportEvent`. -/
def reportEvent (moduleBaseName fixtureName testCaseName : String) (event : TestcaseExecutionEvent) :
    Sink × String :=
  let stackTraceBuffer :=
    match event.stackTrace.getInformationStackFrame with
    | some get =>
      formatStackTrace get (flagOn sink.flags eventSinkFlagShowStacktraceSourceInformation) 2048
        event.stackTrace.frames ""
    | none     => ""
  let name := s!"{moduleBaseName}.{fixtureName}.{testCaseName} \n"
  let trace := s!"{stackTraceBuffer}\n\n"
  match event.info with
  | .failedAssertion file routine line expression lastError =>
    let lastErrorMessage := resolveErrorMessage resolveMessage lastError 260
    let place :=
      if line != 0#32 then s!"                 {file}({decimal line}): {routine}\n\n" else ""
    (sink, s!"[Failure]      {name}{place}" ++ s!"                 Expression: {expression}\n" ++
      s!"                 Last Error: {decimal lastError} ({lastErrorMessage})\n\n" ++ trace)
  | .uncaughtException exceptionCode exceptionAddress =>
    let exceptionMessage := (stringCchCopy 260 ("Unhandled Exception 0x" ++
      paddedHex 8 exceptionCode.toNat ++ " at " ++ paddedHex 16 exceptionAddress.toNat)).2
    (sink, s!"[Failure]      {name}                 {exceptionMessage}\n\n" ++ trace)
  | .inconclusiveness message => (sink, s!"[Inconclusive] {name}                 {message}\n\n" ++ trace)
  | .log message              => (sink, s!"[Log]          {name}                 {message}\n\n")

/-- `CfixconssBeforeTestCaseStart`. -/
def beforeTestCaseStart : Sink × String := ({ sink with failureCount := 0#32, inconclusiveCount := 0#32 }, "")

/-- The line that reports a success. -/
def successLine (moduleBaseName fixtureName testCaseName : String) : String :=
  s!"[Success]      {moduleBaseName}.{fixtureName}.{testCaseName}\n"

/-- `CfixconssAfterTestCaseFinish`. Failures have been printed before. -/
def afterTestCaseFinish (moduleBaseName fixtureName testCaseName : String) : Sink × String :=
  if sink.failureCount == 0#32 && sink.inconclusiveCount == 0#32 then
    (sink, successLine moduleBaseName fixtureName testCaseName)
  else (sink, "")

/-- The sink's method for each callback. -/
def call : Callback → Sink × String
  | .reportEvent _ m f tc event        => sink.reportEvent resolveMessage m f tc event
  | .beforeTestCaseStart _ _ _ _       => sink.beforeTestCaseStart
  | .afterTestCaseFinish _ m f tc _    => sink.afterTestCaseFinish m f tc
  | .beforeFixtureStart _ _ _ | .afterFixtureFinish _ _ _ _ => (sink, "")

end Sink

end Callbacks

end Cfix.Console
