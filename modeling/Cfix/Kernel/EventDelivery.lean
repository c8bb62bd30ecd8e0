import Cfix.Base.Strsafe
import Cfix.Kernel.CallRoutine

/-!
# `Kernel.EventDelivery` — the client's walk over the events of a response (`cfixkl/ioctl.c`)

`CfixklsReportEventToExecutionContext` translates one event, `CfixklpCallRoutine` walks over the response and
reports every event. The client is compiled for its own pointer width and reads with its own offsets.
-/

namespace Cfix.Events

open Memory
open Cfix.Unload (NTSTATUS)

/-! ## Translated events -/

/-- `CFIX_TESTCASE_EXECUTION_EVENT.Info`. -/
inductive TranslatedInfo (w : Width) where
  | failedAssertion (file routine : Wstr) (line : BitVec 32) (expression : Wstr)
  | uncaughtException (record : ExceptionRecord w)
  | inconclusiveness (message : Wstr)
  | log (message : Wstr)
  | unrecognized

/-- A call of `ReportEvent` of the execution context. -/
structure Report (w : Width) where
  threadId     : BitVec 32
  mainThreadId : BitVec 32
  type         : Nat
  info         : TranslatedInfo w
  frames       : List (BitVec 64)

/-- The allocations for one event: the translated event with what is in its memory, and the buffers for
    the strings. -/
structure Mallocs where
  eventTranslated : Option Mem
  file            : Bool
  routine         : Bool
  expression      : Bool
  message         : Bool

variable {w : Width}

/-! ## One event -/

/-- The record of an event that is not the one of the client's width; `_WIN32` is defined in the builds of
    both widths, so both have this branch. `target` is the record in the translated event. -/
def copyExceptionRecord (w : Width) (m : Mem) (event : Nat) (target : Mem) : Mem :=
  if load 4 m (event + 16) = exceptionRecordTag .w64 then
    let target := store 4 target 0 (load 4 m (event + 24))
    let target := store 4 target 4 (load 4 m (event + 28))
    let target := store 4 target (8 + 2 * w.bytes) 0
    let target := store w.bytes target (8 + w.bytes) 0xFFFFFFFF
    store w.bytes target 8 0
  else write target 0 (read m (event + 24) (sizeofExceptionRecord .w32))

/-- A counted string, copied to a buffer and zero-terminated. -/
def readString (m : Mem) (event field : Nat) : Wstr :=
  let length := load 2 m (event + field + 2)
  .ofBuffer ((loadArray 2 m (event + load 2 m (event + field)) (length / 2)).map (BitVec.ofNat 16) ++ [0#16])

/-- The frames of an event, as many as its count says. -/
def readFrames (w : Width) (m : Mem) (event : Nat) : List (BitVec 64) :=
  (loadArray 8 m (event + framesOffset w) (load 4 m (event + stackTraceOffset))).map (BitVec.ofNat 64)

/-- `CfixklsReportEventToExecutionContext`. -/
def reportEvent (w : Width) (mallocs : Mallocs) (m : Mem) (event : Nat) : Except HRESULT (Report w) :=
  match mallocs.eventTranslated with
  | none => .error eOutofmemory
  | some target =>
    let report (info : TranslatedInfo w) : Report w :=
      { threadId     := .ofNat 32 (load 4 m (event + 4))
        mainThreadId := .ofNat 32 (load 4 m (event + 8))
        type         := load 2 m event
        info         := info
        frames       := readFrames w m event }
    match load 2 m event with
    | 0 =>
      if mallocs.file && mallocs.routine && mallocs.expression then
        .ok (report (.failedAssertion (readString m event 16) (readString m event 20)
          (.ofNat 32 (load 4 m (event + 24))) (readString m event 28)))
      else .error eOutofmemory
    | 1 => .ok (report (.uncaughtException (.load w (copyExceptionRecord w m event target) 0)))
    | 2 =>
      if mallocs.message then .ok (report (.inconclusiveness (readString m event 16)))
      else .error eOutofmemory
    | 3 =>
      if mallocs.message then .ok (report (.log (readString m event 16)))
      else .error eOutofmemory
    | _ => .ok (report .unrecognized)

/-! ## The walk -/

/-- A report of the walk, or the note that events were dropped. -/
inductive Delivery (w : Width) where
  | event (report : Report w)
  | note (report : Report w)

/-- The loop over the events: it ends early if an event cannot be translated. -/
def reportEvents (w : Width) (mallocs : Nat → Mallocs) (m : Mem) : Nat → Nat → Nat → HRESULT × List (Report w)
  | 0, _, _                 => (sOk, [])
  | count + 1, index, event =>
    match reportEvent w (mallocs index) m event with
    | .error hr  => (hr, [])
    | .ok report =>
      let (hr, reports) := reportEvents w mallocs m count (index + 1) (event + sizeField m event)
      (hr, report :: reports)

/-- `Note: At least one event has been dropped`. -/
def noteMessage : Wstr where
  chars   := "Note: At least one event has been dropped".toList.map fun x => BitVec.ofNat 16 x.toNat
  nulFree := by decide

/-- What the client's process provides during a call. -/
structure ClientEnvironment where
  /-- The allocation of the response. -/
  malloc          : Bool
  /-- The allocations for each event. -/
  mallocs         : Nat → Mallocs
  currentThreadId : BitVec 32

/-- The result of `CfixklpCallRoutine`, its output parameters and its calls of `ReportEvent`. -/
structure CallResult (w : Width) where
  hr              : HRESULT
  ranToCompletion : Bool
  abortRun        : Bool
  tlsValue        : BitVec 64
  deliveries      : List (Delivery w)

/-- The error of a failed system call. -/
structure Win32Error where
  code    : BitVec 32
  ne_zero : code ≠ 0#32

def cfixklEInvalidReflectorResponse : HRESULT := 0x8004A004#32

/-- The fake event for dropped events. -/
def noteReport (w : Width) (currentThreadId : BitVec 32) : Report w where
  threadId     := currentThreadId
  mainThreadId := currentThreadId
  type         := eventTypeCode .log
  info         := .log noteMessage
  frames       := []

/-- The address of the first event of a response. -/
def firstEvent (response : Nat) : Nat := response + sizeofCallRoutineResponse

/-- `Events.Flags` has `CFIXKR_CALL_ROUTINE_FLAG_EVENTS_TRUNCATED`. -/
def truncatedFlag (m : Mem) (response : Nat) : Bool :=
  load 2 m (response + 16) &&& flagEventsTruncated != 0

/-- `Events.Count`. -/
def countField (m : Mem) (response : Nat) : Nat := load 4 m (response + 20)

/-- `CfixklpCallRoutine` from the call of `DeviceIoControl` on; that gives the memory with the response and
    `BytesTransferred`. -/
def callRoutine (w : Width) (env : ClientEnvironment) (response : Nat) (tlsValue : BitVec 64)
    (deviceIoControl : Except Win32Error (Mem × Nat)) : CallResult w :=
  if !env.malloc then ⟨eOutofmemory, false, false, tlsValue, []⟩
  else
    match deviceIoControl with
    | .error e => ⟨hresultFromWin32 e.code, false, false, tlsValue, []⟩
    | .ok (m, bytesTransferred) =>
      if bytesTransferred < sizeofCallRoutineResponse then
        ⟨cfixklEInvalidReflectorResponse, false, false, tlsValue, []⟩
      else
        -- the result of the loop is not looked at
        let (_, reports) := reportEvents w env.mallocs m (countField m response) 0 (firstEvent response)
        let note := if truncatedFlag m response then [.note (noteReport w env.currentThreadId)] else []
        { hr              := sOk
          ranToCompletion := load 1 m response != 0
          abortRun        := load 1 m (response + 1) != 0
          tlsValue        := .ofNat 64 (load 8 m (response + 8))
          deliveries      := reports.map .event ++ note }

/-! ## The request on its way -/

/-- The system buffer of a request, and the translation of its status. -/
structure IoManager where
  memory                : Mem
  systemBuffer          : Nat
  rtlNtStatusToDosError : NTSTATUS → Win32Error

/-- `DeviceIoControl` with `METHOD_BUFFERED`: the request goes to the system buffer, and after success the
    bytes that were written come back to the response. -/
def deviceIoControl (r : Reflector w) (io : IoManager) (request : CallRoutineRequest) (m : Mem)
    (response : Nat) (responseSize : BitVec 32) : Except Win32Error (Mem × Nat) :=
  let result := callRoutineIoctl r (request.store io.memory io.systemBuffer) io.systemBuffer
    (.ofNat 32 sizeofCallRoutineRequest) responseSize
  if ntSuccess result.status then
    .ok (write m response (read result.memory io.systemBuffer result.bytesWritten), result.bytesWritten)
  else .error (io.rtlNtStatusToDosError result.status)

/-- A call of `CfixklpCallRoutine`, with the reflector and the processes around it. -/
structure Session (w : Width) where
  reflector    : Reflector w
  io           : IoManager
  request      : CallRoutineRequest
  memory       : Mem
  response     : Nat
  responseSize : BitVec 32
  env          : ClientEnvironment

namespace Session

variable (s : Session w)

/-- The memory in which the reflector finds the request. -/
def systemMemory : Mem := s.request.store s.io.memory s.io.systemBuffer

/-- The call that the reflector makes for the request. -/
def call : Except NTSTATUS (RoutineCall w) :=
  routineCall s.reflector s.systemMemory s.io.systemBuffer (.ofNat 32 sizeofCallRoutineRequest) s.responseSize

/-- The channel of the call. -/
def channel : Channel := initChannel s.systemMemory s.io.systemBuffer s.responseSize

/-- The result of the client's function, for a client of any width. -/
def resultFor (v : Width) : CallResult v :=
  callRoutine v s.env s.response s.request.tlsValue
    (deviceIoControl s.reflector s.io s.request s.memory s.response s.responseSize)

/-- The result for a client of the kernel's width. -/
def result : CallResult w := s.resultFor w

end Session

/-! ## What the client reads -/

/-- A counted string is read back. -/
theorem readString_eq {m : Mem} {event field size : Nat} (s : Option Wstr)
    (h : StringAt m event field size (charsOf s)) : readString m event field = s.getD .empty := by
  have hlen : 2 * (charsOf s).length / 2 = (charsOf s).length := Nat.mul_div_cancel_left _ (by decide)
  unfold readString
  rw [h.length]
  simp only [hlen, h.chars, map_ofNat_map_toNat]
  exact Wstr.ofBuffer_chars (s.getD .empty) []

/-- The frames are read back by a client of the same width. -/
theorem TraceAt.read_frames {m : Mem} {event : Nat} {a : EventArgs w} (h : TraceAt m event a) :
    readFrames w m event = a.frames := by
  unfold readFrames
  rw [h.frameCount, h.frames]
  exact map_ofNat_map_toNat a.frames

/-- The information reported is that of the arguments; of a record only that there is one. -/
def InfoOf {v : Width} (info : TranslatedInfo v) (a : EventArgs w) : Prop :=
  match a.type with
  | .failedAssertion =>
    info = .failedAssertion (a.file.getD .empty) (a.routine.getD .empty) a.line (a.expression.getD .empty)
  | .uncaughtException => ∃ record, info = .uncaughtException record
  | .inconclusiveness  => info = .inconclusiveness (a.message.getD .empty)
  | .log               => info = .log (a.message.getD .empty)

/-- The report is that of the event, its frames aside: same type, threads, line and strings. Absent strings
    are reported as empty. -/
structure HeaderOf {v : Width} (r : Report v) (a : EventArgs w) : Prop where
  threadId     : r.threadId = a.currentThreadId
  mainThreadId : r.mainThreadId = a.mainThreadId
  type         : r.type = eventTypeCode a.type
  info         : InfoOf r.info a

/-- The report is that of the event. -/
structure ReportOf (r : Report w) (a : EventArgs w) : Prop extends HeaderOf r a where
  frames : r.frames = a.frames

/-- The allocations that are made for an event of the type succeed. -/
def Mallocs.suffice (x : Mallocs) (type : EventType) : Bool :=
  x.eventTranslated.isSome &&
    match type with
    | .failedAssertion   => x.file && x.routine && x.expression
    | .uncaughtException => true
    | .inconclusiveness  => x.message
    | .log               => x.message

/-- What a client of any width reports for a stored event if the allocations succeed. -/
structure ReportedFor (v : Width) (mallocs : Mallocs) (m : Mem) (event : Nat) (a : EventArgs w)
    (r : Report v) : Prop extends HeaderOf r a where
  frames : r.frames = readFrames v m event
  record : a.type = .uncaughtException → ∃ target, mallocs.eventTranslated = some target ∧
    r.info = .uncaughtException (.load v (copyExceptionRecord v m event target) 0)

/-- **One event.** A stored event is reported with what was queued, if the allocations succeed. -/
theorem reportEvent_of_stored (v : Width) {m : Mem} {event : Nat} {a : EventArgs w} (h : Stored m event a)
    {mallocs : Mallocs} (hm : mallocs.suffice a.type = true) :
    ∃ r, reportEvent v mallocs m event = .ok r ∧ ReportedFor v mallocs m event a r := by
  obtain ⟨htype, -, hthread, hmain, hinfo, -⟩ := h
  have hthread' : BitVec.ofNat 32 (load 4 m (event + 4)) = a.currentThreadId := by
    rw [hthread, BitVec.ofNat_toNat, BitVec.setWidth_eq]
  have hmain' : BitVec.ofNat 32 (load 4 m (event + 8)) = a.mainThreadId := by
    rw [hmain, BitVec.ofNat_toNat, BitVec.setWidth_eq]
  unfold Mallocs.suffice at hm
  unfold InfoAt at hinfo
  unfold reportEvent
  cases htr : mallocs.eventTranslated with
  | none =>
      rw [htr] at hm
      exact absurd hm Bool.false_ne_true
  | some target =>
      rw [htr, Option.isSome_some, Bool.true_and] at hm
      -- what is the same for all types, with the information left open
      have hreport (info : TranslatedInfo v) (hof : InfoOf info a) (hrecord : a.type = .uncaughtException →
          info = .uncaughtException (.load v (copyExceptionRecord v m event target) 0)) :
          ReportedFor v mallocs m event a
            ⟨.ofNat 32 (load 4 m (event + 4)), .ofNat 32 (load 4 m (event + 8)), eventTypeCode a.type, info,
              readFrames v m event⟩ :=
        ⟨⟨hthread', hmain', rfl, hof⟩, rfl, fun hexc => ⟨target, htr, hrecord hexc⟩⟩
      unfold InfoOf at hreport
      rw [htype]
      cases hty : a.type with
      | failedAssertion =>
          simp only [hty, eventTypeCode] at hm hinfo hreport ⊢
          obtain ⟨hline, hfile, hroutine, hexpression⟩ := hinfo
          rw [if_pos hm]
          refine ⟨_, rfl, hreport _ ?_ (fun hexc => EventType.noConfusion hexc)⟩
          rw [readString_eq a.file hfile, readString_eq a.routine hroutine,
            readString_eq a.expression hexpression, hline, BitVec.ofNat_toNat, BitVec.setWidth_eq]
      | uncaughtException =>
          simp only [hty, eventTypeCode] at hreport ⊢
          exact ⟨_, rfl, hreport _ ⟨_, rfl⟩ (fun _ => rfl)⟩
      | inconclusiveness =>
          simp only [hty, eventTypeCode] at hm hinfo hreport ⊢
          rw [if_pos hm]
          refine ⟨_, rfl, hreport _ ?_ (fun hexc => EventType.noConfusion hexc)⟩
          rw [readString_eq a.message hinfo]
      | log =>
          simp only [hty, eventTypeCode] at hm hinfo hreport ⊢
          rw [if_pos hm]
          refine ⟨_, rfl, hreport _ ?_ (fun hexc => EventType.noConfusion hexc)⟩
          rw [readString_eq a.message hinfo]

/-- An event for which an allocation fails is not reported. -/
theorem reportEvent_of_malloc (v : Width) {m : Mem} {event : Nat} {a : EventArgs w} (h : Stored m event a)
    {mallocs : Mallocs} (hm : mallocs.suffice a.type = false) :
    reportEvent v mallocs m event = .error eOutofmemory := by
  have htype := h.type
  unfold Mallocs.suffice at hm
  unfold reportEvent
  cases htr : mallocs.eventTranslated with
  | none => rfl
  | some target =>
      rw [htr, Option.isSome_some, Bool.true_and] at hm
      rw [htype]
      cases hty : a.type with
      | failedAssertion =>
          simp only [hty, eventTypeCode] at hm ⊢
          rw [if_neg (by rw [hm]; exact Bool.false_ne_true)]
      | uncaughtException =>
          rw [hty] at hm
          exact absurd hm.symm Bool.false_ne_true
      | inconclusiveness =>
          simp only [hty, eventTypeCode] at hm ⊢
          rw [if_neg (by rw [hm]; exact Bool.false_ne_true)]
      | log =>
          simp only [hty, eventTypeCode] at hm ⊢
          rw [if_neg (by rw [hm]; exact Bool.false_ne_true)]

/-- A client of the kernel's width sees the frames. -/
theorem ReportedFor.reportOf {mallocs : Mallocs} {m : Mem} {event : Nat} {a : EventArgs w} {r : Report w}
    (h : ReportedFor w mallocs m event a r) (hs : Stored m event a) : ReportOf r a :=
  ⟨h.toHeaderOf, h.frames.trans hs.trace.read_frames⟩

/-! ## The walk over a chain -/

/-- As long as the allocations succeed, a client of any width reports every event, in order. -/
theorem reportEvents_get (v : Width) (index : Nat) {m : Mem} {event : Nat} {es : List (EventArgs w)}
    {mallocs : Nat → Mallocs} (h : (eventLayout w).Chain m event es)
    (hm : ∀ i a, es[i]? = some a → (mallocs (index + i)).suffice a.type = true) :
    (reportEvents v mallocs m es.length index event).2.length = es.length ∧
      ∀ i a, es[i]? = some a → ∃ r p, (reportEvents v mallocs m es.length index event).2[i]? = some r ∧
        Stored m p a ∧ ReportedFor v (mallocs (index + i)) m p a r := by
  induction es generalizing index event with
  | nil => exact ⟨rfl, fun i a hi => by simp at hi⟩
  | cons e es ih =>
      obtain ⟨he, hes⟩ := h
      have he : Stored m event e := he
      have hnext : event + sizeField m event = event + e.size := congrArg (event + ·) he.size
      obtain ⟨r, hr, hfor⟩ := reportEvent_of_stored v he (hm 0 e rfl)
      have hrest (i : Nat) (a : EventArgs w) (hi : es[i]? = some a) :
          (mallocs (index + 1 + i)).suffice a.type = true := by
        rw [Nat.add_assoc, Nat.add_comm 1 i]
        exact hm (i + 1) a hi
      obtain ⟨hlength, hget⟩ := ih _ hes hrest
      rw [List.length_cons, reportEvents, show mallocs index = mallocs (index + 0) from rfl, hr]
      simp only
      rw [hnext]
      refine ⟨congrArg (· + 1) hlength, ?_⟩
      intro i a hi
      cases i with
      | zero =>
          cases hi
          exact ⟨r, event, rfl, he, hfor⟩
      | succ i =>
          obtain ⟨r', p, hr', hs, hfor'⟩ := hget i a hi
          rw [Nat.add_assoc, Nat.add_comm 1 i] at hfor'
          exact ⟨r', p, hr', hs, hfor'⟩

/-- A walk that reports as many events as there are had no allocation fail. -/
theorem reportEvents_length (v : Width) {m : Mem} {event : Nat} {es : List (EventArgs w)}
    {mallocs : Nat → Mallocs} {index : Nat} (h : (eventLayout w).Chain m event es)
    (hlength : (reportEvents v mallocs m es.length index event).2.length = es.length) :
    ∀ i a, es[i]? = some a → (mallocs (index + i)).suffice a.type = true := by
  induction es generalizing index event with
  | nil => exact fun i a hi => by simp at hi
  | cons e es ih =>
      obtain ⟨he, hes⟩ := h
      have he : Stored m event e := he
      have hnext : event + sizeField m event = event + e.size := congrArg (event + ·) he.size
      rw [List.length_cons, reportEvents] at hlength
      cases hm : (mallocs index).suffice e.type with
      | false =>
          -- the walk ends here, and reports nothing
          rw [reportEvent_of_malloc v he hm] at hlength
          exact absurd hlength (Nat.succ_ne_zero _).symm
      | true =>
          obtain ⟨r, hr, -⟩ := reportEvent_of_stored v he hm
          rw [hr] at hlength
          simp only at hlength
          rw [hnext] at hlength
          have hrest := ih hes (Nat.succ.inj hlength)
          intro i a hi
          cases i with
          | zero =>
              cases hi
              exact hm
          | succ i =>
              have hi' := hrest i a hi
              rwa [Nat.add_assoc, Nat.add_comm 1 i] at hi'

/-- **The walk over a chain.** A client of the kernel's width reports all events as they were queued, in
    order, exactly if the allocations succeed. -/
theorem reportEvents_chain {m : Mem} {event : Nat} {es : List (EventArgs w)} (mallocs : Nat → Mallocs)
    (index : Nat) (h : (eventLayout w).Chain m event es) :
    (∀ i a, es[i]? = some a → (mallocs (index + i)).suffice a.type = true) ↔
      List.Forall₂ ReportOf (reportEvents w mallocs m es.length index event).2 es := by
  constructor
  · intro hm
    obtain ⟨hlength, hget⟩ := reportEvents_get w _ h hm
    refine List.forall₂_iff_get.mpr ⟨hlength, ?_⟩
    intro i hi hi'
    obtain ⟨r, p, hr, hs, hfor⟩ := hget i (es.get ⟨i, hi'⟩) (List.getElem?_eq_getElem hi')
    rw [List.getElem?_eq_getElem hi] at hr
    rw [List.get_eq_getElem, Option.some.inj hr]
    exact hfor.reportOf hs
  · intro hall
    exact reportEvents_length w h hall.length_eq

/-! ## The response -/

/-- What the client sees of the response: the count, the flag and the events as the channel has them. -/
structure ResponseOf (m : Mem) (response : Nat) (c : Channel) (es : List (EventArgs w)) : Prop where
  count : countField m response = es.length
  flag  : truncatedFlag m response = c.bufferTruncated
  chain : (eventLayout w).Chain m (firstEvent response) es

/-- The rest of the response does not overlap the events. -/
theorem writeResponse_outside (m : Mem) {buffer x : Nat} (call : RoutineCall w) (c : Channel)
    (h : buffer + sizeofCallRoutineResponse ≤ x) : writeResponse m buffer call c x = m x := by
  unfold sizeofCallRoutineResponse at h
  unfold writeResponse
  simp (disch := omega) only [store_outside]

theorem writeResponse_count (m : Mem) (buffer : Nat) (call : RoutineCall w) (c : Channel)
    (h : c.eventCount < 2 ^ 32) : load 4 (writeResponse m buffer call c) (buffer + 20) = c.eventCount := by
  unfold writeResponse
  simp (disch := omega) only [load_store_disjoint, load_store]
  exact Nat.mod_eq_of_lt h

theorem writeResponse_flag (m : Mem) (buffer : Nat) (call : RoutineCall w) (c : Channel) :
    truncatedFlag (writeResponse m buffer call c) buffer = c.bufferTruncated := by
  unfold truncatedFlag writeResponse
  simp (disch := omega) only [load_store_disjoint, load_store]
  cases c.bufferTruncated with
  | false => rfl
  | true => rfl

/-- The number of events is bounded by the buffer. -/
theorem Channel.Holds.count_lt {c : Channel} {es : List (EventArgs w)} (h : c.Holds es) :
    c.eventCount < 2 ^ 32 := by
  have hbound := mul_length_le_events es
  have hlength := h.length
  have hcount := h.count
  have hinside := h.inside
  have hsize := h.size
  omega

/-- A copied response is the response. -/
theorem responseOf_copy {m' : Mem} {buffer response bytes : Nat} {call : RoutineCall w} {c : Channel}
    {es : List (EventArgs w)} (hholds : c.Holds es) (hbuffer : c.buffer = buffer + sizeofCallRoutineResponse)
    (hbytes : bytes = sizeofCallRoutineResponse + c.bufferLength)
    (hsame : Same (writeResponse c.memory buffer call c) buffer m' response bytes) :
    ResponseOf m' response c es := by
  unfold sizeofCallRoutineResponse at hbuffer hbytes
  have hlength := hholds.length
  have hcount := writeResponse_count c.memory buffer call c hholds.count_lt
  have hflag := writeResponse_flag c.memory buffer call c
  have hload (n d : Nat) (hd : d + n ≤ 24) :
      load n (writeResponse c.memory buffer call c) (buffer + d) = load n m' (response + d) :=
    (hsame.mono (by omega) (by omega) (by omega)).load_eq
  constructor
  · rw [countField, ← hload 4 20 (by decide), hcount, hholds.count]
  · rw [← hflag, truncatedFlag, truncatedFlag, hload 2 16 (by decide)]
  · have hmem : Agree c.memory (writeResponse c.memory buffer call c) c.buffer ((eventLayout w).total es) := by
      intro x hx _
      exact (writeResponse_outside c.memory call c (by unfold sizeofCallRoutineResponse; omega)).symm
    refine (hholds.chain.congr hmem.same).congr (hsame.mono ?_ ?_ ?_)
    · omega
    · omega
    · unfold firstEvent sizeofCallRoutineResponse
      omega

namespace Session

variable {s : Session w} {call : RoutineCall w}

theorem holds (hcall : s.call = .ok call) :
    (queueEvents s.channel call.events).Holds (committed s.channel call.events) :=
  initChannel_run _ _ call.events (acceptsRequest_output (routineCall_accepts hcall))

/-- The events that the driver commits in the call. -/
theorem passing (hcall : s.call = .ok call) : Passing s.channel call.events (committed s.channel call.events) :=
  passing_committed call.events (initChannel_holds _ _ (acceptsRequest_output (routineCall_accepts hcall)))

/-- The number of bytes to transfer does not wrap. -/
theorem bytesWritten_eq (hcall : s.call = .ok call) :
    (sizeofCallRoutineResponse + (queueEvents s.channel call.events).bufferLength) % 2 ^ 32
      = sizeofCallRoutineResponse + (queueEvents s.channel call.events).bufferLength := by
  have hout := acceptsRequest_output (routineCall_accepts hcall)
  have hsize : (queueEvents s.channel call.events).bufferSize
      = s.responseSize.toNat - sizeofCallRoutineResponse := (initChannel_frame _ _ call.events hout).2.1
  have hinside := (holds hcall).inside
  have hlt := s.responseSize.isLt
  rw [hsize] at hinside
  apply Nat.mod_eq_of_lt
  omega

/-- **The response arrives.** After a successful call the client has the response, and the events behind
    it. -/
theorem deviceIoControl_ok (hcall : s.call = .ok call) (hstatus : ntSuccess call.status = true) :
    ∃ m bytes, deviceIoControl s.reflector s.io s.request s.memory s.response s.responseSize = .ok (m, bytes) ∧
      sizeofCallRoutineResponse ≤ bytes ∧
      ResponseOf m s.response (queueEvents s.channel call.events) (committed s.channel call.events) := by
  have hbytes := bytesWritten_eq hcall
  have hbuffer : (queueEvents s.channel call.events).buffer = s.io.systemBuffer + sizeofCallRoutineResponse :=
    (initChannel_frame _ _ call.events (acceptsRequest_output (routineCall_accepts hcall))).1
  have hcall' : routineCall s.reflector (s.request.store s.io.memory s.io.systemBuffer) s.io.systemBuffer
      (.ofNat 32 sizeofCallRoutineRequest) s.responseSize = .ok call := hcall
  unfold deviceIoControl callRoutineIoctl
  rw [hcall']
  simp only [hstatus, if_true]
  refine ⟨_, _, rfl, ?_, responseOf_copy (holds hcall) hbuffer hbytes (same_copy _ _ _ _ _)⟩
  exact (Nat.le_add_right _ _).trans_eq hbytes.symm

/-- A call that fails makes `DeviceIoControl` fail. -/
theorem deviceIoControl_error (hcall : s.call = .ok call) (hstatus : ntSuccess call.status = false) :
    ∃ e, deviceIoControl s.reflector s.io s.request s.memory s.response s.responseSize = .error e := by
  have hcall' : routineCall s.reflector (s.request.store s.io.memory s.io.systemBuffer) s.io.systemBuffer
      (.ofNat 32 sizeofCallRoutineRequest) s.responseSize = .ok call := hcall
  unfold deviceIoControl callRoutineIoctl
  rw [hcall']
  simp only [hstatus, Bool.false_eq_true, if_false]
  exact ⟨_, rfl⟩

end Session

end Cfix.Events
