import Cfix.Kernel.EventLayout

/-!
# `Kernel.EventBuffer` — `CfixkrsQueueEvent`: events are appended to the response buffer (`rptstubs.c`)

An event is written at the end of the buffer and committed by adjusting `BufferLength`: first the stack
trace, directly from the walk, then, once the total size is known to fit, the fixed part and the strings.
All sizes are narrowed as in the code, to 32 bits in the sums and to 16 bits in the event.
-/

namespace Cfix.Events

open Memory

/-! ## The report channel -/

/-- `CFIXKRP_REPORT_CHANNEL.EventBuffer`. The lock serialises the calls, so a run is a list of them. -/
structure Channel where
  memory          : Mem
  buffer          : Nat
  bufferSize      : Nat
  eventCount      : Nat
  bufferLength    : Nat
  bufferTruncated : Bool

/-- The parameters of `CfixkrsQueueEvent`, the thread that calls it and the frames on its stack. -/
structure EventArgs (w : Width) where
  callerContext   : Bool
  type            : EventType
  exceptionRecord : Option (ExceptionRecord w)
  file            : Option Wstr
  routine         : Option Wstr
  line            : BitVec 32
  expression      : Option Wstr
  message         : Option Wstr
  mainThreadId    : BitVec 32
  currentThreadId : BitVec 32
  stack           : List (BitVec 64)

variable {w : Width}

/-! ## Stack trace -/

/-- `RtlWalkFrameChain`: the topmost frames, at most `count`. -/
def rtlWalkFrameChain (stack : List (BitVec 64)) (count : Nat) : List (BitVec 64) := stack.take count

/-- `CfixkrpCaptureStackTrace`; `none` is `STATUS_NOT_IMPLEMENTED`. -/
def captureStackTrace (a : EventArgs w) (m : Mem) (event maxFrames : Nat) : Option Mem :=
  if a.callerContext then none
  else
    let frames := rtlWalkFrameChain a.stack (min maxFrames 64)
    let m := store w.bytes m (event + getInformationOffset w) 0
    let m := store 4 m (event + stackTraceOffset) frames.length
    some (storeArray 8 m (event + framesOffset w) (frames.map BitVec.toNat))

/-- The memory after the stack trace was captured, and `StructureBaseSize`. -/
def writeStackTrace (a : EventArgs w) (m : Mem) (event : Nat) : Mem × Nat :=
  match captureStackTrace a m event cfixkrpMaxStackframes with
  | some m =>
    if load 4 m (event + stackTraceOffset) > 0 then
      (m, framesOffset w + 8 * load 4 m (event + stackTraceOffset))
    else (store 4 m (event + stackTraceOffset) 0, sizeofExecutionEvent w)
  | none => (store 4 m (event + stackTraceOffset) 0, sizeofExecutionEvent w)

/-! ## Sizes -/

def maxUshort : Nat := 0xFFFF

/-- Subtraction of two `ULONG`s. -/
def ulongSub (x y : Nat) : Nat := (x + 2 ^ 32 - y) % 2 ^ 32

/-- `RtlStringCbLengthW`: fails if there is no terminator in the first `cbMax` bytes. -/
def rtlStringCbLength (s : Wstr) (cbMax : Nat) : Option Nat :=
  if s.chars.length < cbMax / 2 then some (2 * s.chars.length) else none

/-- The length of an optional string in bytes. -/
def lengthCb : Option Wstr → Option Nat
  | none   => some 0
  | some s => rtlStringCbLength s maxUshort

/-- `StructureTotalSize`: the sum, rounded up to a multiple of 8. -/
def structureTotalSize (baseSize expression file message routine : Nat) : Nat :=
  ((baseSize + expression + file + message + routine) % 2 ^ 32 + 7) % 2 ^ 32 / 8 * 8

/-! ## Fixed part and strings -/

/-- `Offset` and `StringsPointer`. -/
structure Cursor where
  offset         : Nat
  stringsPointer : Nat

/-- One string: its offset goes to the field and its characters to the cursor, which moves behind them. -/
def copyString (m : Mem) (field : Nat) (c : Cursor) (chars : List (BitVec 16)) : Mem × Cursor :=
  if 2 * chars.length = 0 then (store 2 m field 0, c)
  else
    let m := store 2 m field c.offset
    (storeArray 2 m c.stringsPointer (chars.map BitVec.toNat),
      { offset         := (c.offset + 2 * chars.length % 2 ^ 16) % 2 ^ 16
        stringsPointer := c.stringsPointer + 2 * chars.length })

/-- `CfixkrExceptionRecordNone`. -/
def exceptionRecordNone : Nat := 0

/-- `CfixkrExceptionRecord32` and `CfixkrExceptionRecord64`; `CfixkrExceptionRecordDefault` is the one of
    the build. -/
def exceptionRecordTag : Width → Nat
  | .w32 => 1
  | .w64 => 2

/-- The part of `CfixkrsQueueEvent` that writes `Info`. -/
def writeInfo (a : EventArgs w) (m : Mem) (event baseSize : Nat) : Mem :=
  let cursor : Cursor := ⟨baseSize % 2 ^ 16, event + baseSize % 2 ^ 16⟩
  match a.type with
  | .failedAssertion =>
    let m := store 4 m (event + 24) a.line.toNat
    let m := store 2 m (event + 18) (2 * (charsOf a.file).length)
    let m := store 2 m (event + 22) (2 * (charsOf a.routine).length)
    let m := store 2 m (event + 30) (2 * (charsOf a.expression).length)
    let (m, cursor) := copyString m (event + 16) cursor (charsOf a.file)
    let (m, cursor) := copyString m (event + 20) cursor (charsOf a.routine)
    (copyString m (event + 28) cursor (charsOf a.expression)).1
  | .uncaughtException =>
    match a.exceptionRecord with
    | some r => r.store (store 4 m (event + 16) (exceptionRecordTag w)) (event + 24)
    | none   => store 4 m (event + 16) exceptionRecordNone
  | .inconclusiveness
  | .log =>
    let m := store 2 m (event + 18) (2 * (charsOf a.message).length)
    (copyString m (event + 16) cursor (charsOf a.message)).1

/-- The event without its stack trace. -/
def writeEvent (a : EventArgs w) (m : Mem) (event baseSize totalSize : Nat) : Mem :=
  let m := store 2 m event (eventTypeCode a.type)
  let m := store 2 m (event + 2) totalSize
  let m := store 4 m (event + 8) a.mainThreadId.toNat
  let m := store 4 m (event + 4) a.currentThreadId.toNat
  writeInfo a m event baseSize

/-- `RTL_SIZEOF_THROUGH_FIELD( CFIXKR_EXECUTION_EVENT, StackTrace.Frames[ CFIXKRP_MAX_STACKFRAMES ] )`. -/
def sizeofThroughFrames (w : Width) : Nat := framesOffset w + 8 * cfixkrpMaxStackframes + 8

/-- `CfixkrsQueueEvent`. -/
def queueEvent (c : Channel) (a : EventArgs w) : Channel :=
  if ulongSub c.bufferSize c.bufferLength < sizeofThroughFrames w then { c with bufferTruncated := true }
  else
    let event := c.buffer + c.bufferLength
    let (m, baseSize) := writeStackTrace a c.memory event
    match lengthCb a.file, lengthCb a.routine, lengthCb a.message, lengthCb a.expression with
    | some file, some routine, some message, some expression =>
      let totalSize := structureTotalSize baseSize expression file message routine
      if ulongSub c.bufferSize c.bufferLength < totalSize then
        { c with memory := m, bufferTruncated := true }
      else if totalSize > maxUshort then { c with memory := m }
      else
        { c with
          memory       := writeEvent a m event baseSize totalSize
          bufferLength := (c.bufferLength + totalSize) % 2 ^ 32
          eventCount   := (c.eventCount + 1) % 2 ^ 32 }
    | _, _, _, _ => { c with memory := m }

/-- The calls of a run, in the order in which they get the lock. -/
def queueEvents (c : Channel) (as : List (EventArgs w)) : Channel := as.foldl queueEvent c

@[simp] theorem queueEvents_nil (c : Channel) : queueEvents c ([] : List (EventArgs w)) = c := rfl

@[simp] theorem queueEvents_cons (c : Channel) (a : EventArgs w) (as : List (EventArgs w)) :
    queueEvents c (a :: as) = queueEvents (queueEvent c a) as := rfl

theorem queueEvents_append (c : Channel) (as bs : List (EventArgs w)) :
    queueEvents c (as ++ bs) = queueEvents (queueEvents c as) bs := List.foldl_append

end Cfix.Events
