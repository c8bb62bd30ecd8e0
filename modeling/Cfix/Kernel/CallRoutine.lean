import Cfix.Kernel.EventQueue
import Cfix.Kernel.Unload

/-!
# `Kernel.CallRoutine` — the request to call a routine, in the reflector (`CfixkrsCallRoutineIoctl`)

The request and the response share one buffer, and the events are written to the rest of it while the
routine runs. The main result is the invariant of that buffer in every state of every run
(`eventBuffer_invariant`).
-/

namespace Cfix.Events

open Memory
open Cfix.Unload (NTSTATUS statusSuccess)

/-! ## Request -/

def statusInvalidParameter : NTSTATUS := 0xC000000D#32

/-- `NT_SUCCESS`. -/
def ntSuccess (status : NTSTATUS) : Bool := !status.msb

/-- `CFIXKR_IOCTL_CALL_ROUTINE_REQUEST`. -/
structure CallRoutineRequest where
  driverBaseAddress  : BitVec 64
  fixtureKey         : BitVec 16
  routineKey         : BitVec 16
  failedAssertion    : BitVec 8
  unhandledException : BitVec 8
  tlsValue           : BitVec 64

/-- `sizeof( CFIXKR_IOCTL_CALL_ROUTINE_REQUEST )`. -/
def sizeofCallRoutineRequest : Nat := 24

/-- The request in the memory at address `a`. -/
def CallRoutineRequest.load (m : Mem) (a : Nat) : CallRoutineRequest where
  driverBaseAddress  := .ofNat 64 (Memory.load 8 m a)
  fixtureKey         := .ofNat 16 (Memory.load 2 m (a + 8))
  routineKey         := .ofNat 16 (Memory.load 2 m (a + 10))
  failedAssertion    := .ofNat 8 (Memory.load 1 m (a + 12))
  unhandledException := .ofNat 8 (Memory.load 1 m (a + 13))
  tlsValue           := .ofNat 64 (Memory.load 8 m (a + 16))

/-- The memory after the request was copied to address `a`. -/
def CallRoutineRequest.store (m : Mem) (a : Nat) (r : CallRoutineRequest) : Mem :=
  let m := Memory.store 8 m a r.driverBaseAddress.toNat
  let m := Memory.store 2 m (a + 8) r.fixtureKey.toNat
  let m := Memory.store 2 m (a + 10) r.routineKey.toNat
  let m := Memory.store 1 m (a + 12) r.failedAssertion.toNat
  let m := Memory.store 1 m (a + 13) r.unhandledException.toNat
  Memory.store 8 m (a + 16) r.tlsValue.toNat

/-- `CfixAbort`, the last of the dispositions. -/
def cfixAbort : Nat := 3

/-- The request passes all checks on its parameters. -/
def acceptsRequest (m : Mem) (buffer : Nat) (inputBufferLength outputBufferLength : BitVec 32) : Bool :=
  let request := CallRoutineRequest.load m buffer
  buffer != 0 && decide (sizeofCallRoutineRequest ≤ inputBufferLength.toNat) &&
    decide (sizeofCallRoutineResponse ≤ outputBufferLength.toNat) && request.driverBaseAddress != 0#64 &&
    decide (request.failedAssertion.toNat ≤ cfixAbort) &&
    decide (request.unhandledException.toNat ≤ cfixAbort)

/-! ## The call -/

variable {w : Width}

/-- What `CfixkrpCallRoutineDriverConnection` does: the events it queues, from whatever threads, in the
    order in which they get the lock, and what it returns. -/
structure RoutineCall (w : Width) where
  events          : List (EventArgs w)
  status          : NTSTATUS
  ranToCompletion : Bool
  abortRun        : Bool
  tlsValue        : BitVec 64

/-- The reflector with the connections that it finds by the base address of their driver. -/
structure Reflector (w : Width) where
  lookupDriverConnection : BitVec 64 → Except NTSTATUS (CallRoutineRequest → RoutineCall w)

/-- The channel of a call: events are appended behind the response. -/
def initChannel (m : Mem) (buffer : Nat) (outputBufferLength : BitVec 32) : Channel where
  memory          := m
  buffer          := buffer + sizeofCallRoutineResponse
  bufferSize      := ulongSub outputBufferLength.toNat sizeofCallRoutineResponse
  eventCount      := 0
  bufferLength    := 0
  bufferTruncated := false

/-- `CFIXKR_CALL_ROUTINE_FLAG_EVENTS_TRUNCATED`. -/
def flagEventsTruncated : Nat := 1

/-- The status, the memory afterwards and `BytesWritten`. -/
structure IoctlResult where
  status       : NTSTATUS
  memory       : Mem
  bytesWritten : Nat

/-- `RoutineRanToCompletion` and `AbortRun`, then the remaining parts of the response. -/
def writeResponse (m : Mem) (buffer : Nat) (call : RoutineCall w) (c : Channel) : Mem :=
  let m := store 1 m buffer call.ranToCompletion.toNat
  let m := store 1 m (buffer + 1) call.abortRun.toNat
  let m := store 4 m (buffer + 20) c.eventCount
  let m := store 2 m (buffer + 16) (if c.bufferTruncated then flagEventsTruncated else 0)
  store 8 m (buffer + 8) call.tlsValue.toNat

/-- The validation of the request and the lookup of the connection, which give the call to make. -/
def routineCall (r : Reflector w) (m : Mem) (buffer : Nat)
    (inputBufferLength outputBufferLength : BitVec 32) : Except NTSTATUS (RoutineCall w) :=
  if !acceptsRequest m buffer inputBufferLength outputBufferLength then .error statusInvalidParameter
  else
    let request := CallRoutineRequest.load m buffer
    (r.lookupDriverConnection request.driverBaseAddress).map fun connection => connection request

/-- `CfixkrsCallRoutineIoctl`. -/
def callRoutineIoctl (r : Reflector w) (m : Mem) (buffer : Nat)
    (inputBufferLength outputBufferLength : BitVec 32) : IoctlResult :=
  match routineCall r m buffer inputBufferLength outputBufferLength with
  | .error status => ⟨status, m, 0⟩
  | .ok call =>
    let c := queueEvents (initChannel m buffer outputBufferLength) call.events
    if ntSuccess call.status then
      ⟨call.status, writeResponse c.memory buffer call c,
        (sizeofCallRoutineResponse + c.bufferLength) % 2 ^ 32⟩
    else ⟨call.status, c.memory, 0⟩

/-! ## The buffer of a call -/

section InitChannel

variable (m : Mem) (buffer : Nat) {inputBufferLength outputBufferLength : BitVec 32}

theorem initChannel_bufferSize (h : sizeofCallRoutineResponse ≤ outputBufferLength.toNat) :
    (initChannel m buffer outputBufferLength).bufferSize
      = outputBufferLength.toNat - sizeofCallRoutineResponse :=
  ulongSub_of_le h outputBufferLength.isLt

/-- A new channel holds no event. -/
theorem initChannel_holds (h : sizeofCallRoutineResponse ≤ outputBufferLength.toNat) :
    (initChannel m buffer outputBufferLength).Holds ([] : List (EventArgs w)) := by
  constructor
  · exact trivial
  · rfl
  · rfl
  · exact Nat.zero_le _
  · rw [initChannel_bufferSize m buffer h]
    exact Nat.lt_of_le_of_lt (Nat.sub_le _ _) outputBufferLength.isLt

/-- After any calls, the channel holds the committed events. -/
theorem initChannel_run (as : List (EventArgs w)) (h : sizeofCallRoutineResponse ≤ outputBufferLength.toNat) :
    (queueEvents (initChannel m buffer outputBufferLength) as).Holds
      (committed (initChannel m buffer outputBufferLength) as) := by
  have hrun := (queueEvents_holds as (initChannel_holds m buffer h)).1
  rwa [List.nil_append] at hrun

/-- The calls write to the buffer of the channel only, which keeps its place. -/
theorem initChannel_frame (as : List (EventArgs w)) (h : sizeofCallRoutineResponse ≤ outputBufferLength.toNat) :
    (queueEvents (initChannel m buffer outputBufferLength) as).buffer = buffer + sizeofCallRoutineResponse ∧
      (queueEvents (initChannel m buffer outputBufferLength) as).bufferSize
        = outputBufferLength.toNat - sizeofCallRoutineResponse ∧
      ∀ x, x < buffer + sizeofCallRoutineResponse ∨ buffer + outputBufferLength.toNat ≤ x →
        (queueEvents (initChannel m buffer outputBufferLength) as).memory x = m x := by
  have hframe := (queueEvents_holds as (initChannel_holds m buffer h)).2.1
  have hsize := initChannel_bufferSize m buffer h
  refine ⟨hframe.buffer, hframe.bufferSize.trans hsize, ?_⟩
  intro x hx
  apply hframe.outside
  rw [hsize]
  rcases hx with hlt | hge
  · exact Or.inl hlt
  · right
    show buffer + sizeofCallRoutineResponse + _ ≤ x
    omega

variable {m buffer}

theorem acceptsRequest_output
    (h : acceptsRequest m buffer inputBufferLength outputBufferLength = true) :
    sizeofCallRoutineResponse ≤ outputBufferLength.toNat := by
  unfold acceptsRequest at h
  simp only [Bool.and_eq_true, decide_eq_true_eq] at h
  exact h.1.1.1.2

theorem routineCall_accepts {r : Reflector w} {call : RoutineCall w}
    (h : routineCall r m buffer inputBufferLength outputBufferLength = .ok call) :
    acceptsRequest m buffer inputBufferLength outputBufferLength = true := by
  unfold routineCall at h
  by_contra hnot
  rw [Bool.not_eq_true] at hnot
  rw [hnot] at h
  cases h

end InitChannel

/-- **The event buffer invariant.** In every state that the calls of an accepted request reach, one more
    call keeps the buffer consistent: its length is a multiple of 8 within the size and the sum of the
    sizes stored in it, all strings are inside of their events, nothing outside of the buffer is written,
    and what is committed stays as it is, the length and the count included unless the event is
    committed. -/
theorem eventBuffer_invariant {m : Mem} {buffer : Nat} {inputBufferLength outputBufferLength : BitVec 32}
    (haccepts : acceptsRequest m buffer inputBufferLength outputBufferLength = true)
    {c : Channel} {as : List (EventArgs w)} (hc : c = queueEvents (initChannel m buffer outputBufferLength) as)
    {c' : Channel} {a : EventArgs w} (hc' : c' = queueEvent c a) :
    (c'.buffer = buffer + sizeofCallRoutineResponse ∧
        c'.bufferSize = outputBufferLength.toNat - sizeofCallRoutineResponse) ∧
      c'.bufferLength ≤ c'.bufferSize ∧ 8 ∣ c'.bufferLength ∧
      c'.bufferLength = (c'.events.map (sizeField c'.memory)).sum ∧
      (∀ p ∈ c'.events, StringsInside c'.memory p) ∧
      (∀ x, x < c'.buffer ∨ c'.buffer + c'.bufferSize ≤ x → c'.memory x = m x) ∧
      (∀ x, c'.buffer ≤ x → x < c'.buffer + c.bufferLength → c'.memory x = c.memory x) ∧
      ((c'.eventCount = c.eventCount + 1 ∧
          c'.bufferLength = c.bufferLength + sizeField c'.memory (c'.buffer + c.bufferLength)) ∨
        (c'.eventCount = c.eventCount ∧ c'.bufferLength = c.bufferLength)) := by
  have hout := acceptsRequest_output haccepts
  have hholds := initChannel_run m buffer as hout
  rw [← hc] at hholds
  obtain ⟨hholds', hframe, -⟩ := queueEvent_holds a hholds
  have hgrows := queueEvent_grows a hholds
  obtain ⟨hbuffer, hsize, houtside⟩ := initChannel_frame m buffer (as ++ [a]) hout
  rw [queueEvents_append, ← hc, queueEvents_cons, queueEvents_nil, ← hc'] at hbuffer hsize houtside
  rw [← hc'] at hholds' hframe hgrows
  rw [← hframe.buffer] at hgrows
  refine ⟨⟨hbuffer, hsize⟩, hholds'.inside, ?_, hholds'.sum_sizes.symm, hholds'.stringsInside, ?_, ?_, hgrows⟩
  · rw [hholds'.length]
    exact dvd_total _
  · intro x hx
    apply houtside
    omega
  · intro x _ hx
    rw [hframe.buffer] at hx
    exact hframe.outside x (Or.inl hx)

/-- A request for the driver at address 1. -/
def samplePacket : CallRoutineRequest := ⟨1#64, 0#16, 0#16, 0#8, 0#8, 0#64⟩

/-- The request at address 4096. -/
def sampleMemory : Mem := samplePacket.store (fun _ => 0) 4096

theorem sampleMemory_accepted :
    acceptsRequest sampleMemory 4096 (.ofNat 32 sizeofCallRoutineRequest) 4096#32 = true := by
  decide

/-- A message without a stack trace. -/
def logEvent (w : Width) (message : Wstr) : EventArgs w where
  callerContext   := false
  type            := .log
  exceptionRecord := none
  file            := none
  routine         := none
  line            := 0#32
  expression      := none
  message         := some message
  mainThreadId    := 4#32
  currentThreadId := 8#32
  stack           := []

/-- The first message of a call. -/
theorem eventBuffer_invariant_log :
    8 ∣ (queueEvent (queueEvents (initChannel sampleMemory 4096 4096#32) ([] : List (EventArgs .w64)))
      (logEvent .w64 .empty)).bufferLength :=
  (eventBuffer_invariant sampleMemory_accepted rfl rfl).2.2.1

end Cfix.Events
