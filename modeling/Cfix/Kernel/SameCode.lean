import Cfix.Kernel.EventRoundTrip
import Cfix.Kernel.ReportSink
import Cfix.Storage.KernelModule

/-!
# `Kernel.SameCode` — the same test code in a process and in a driver

The two implementations of the report functions are separate programs: in a process an event goes to the
execution context, whose answer decides, and in a driver it is queued, and what decides are two dispositions that
came with the request. `runInDriver_agrees` is the simulation between the two runs of a piece of code, step by
step, and `Session.routine_agrees` goes on to what the client makes of the call.
-/

namespace Cfix

open Events (Wstr Width ExceptionRecord EventArgs charsOf)
open Thread

variable {w : Width} {κ : Type}

/-! ## Events in both worlds -/

/-- The string is the same, or what the smaller buffer of the driver leaves of it. Absent strings count as
    empty. -/
def Abridged (s t : Option Wstr) : Prop := charsOf t = charsOf s ∨ charsOf t = (charsOf s).take 199

theorem Abridged.refl (s : Option Wstr) : Abridged s s := .inl rfl

/-- What is printed to buffers of both sizes. -/
theorem abridged_truncate {n : Nat} (hn : 200 ≤ n) (s : Wstr) :
    Abridged (some (s.truncate n)) (some (s.truncate 200)) := by
  right
  show s.chars.take 199 = (s.chars.take (n - 1)).take 199
  rw [List.take_take, Nat.min_eq_left (by omega)]

/-- The arguments of the queued event are those of the event in a process. -/
def Echoes (e : ReportedEvent w) (a : EventArgs w) : Prop :=
  a.type = e.type ∧
    match e with
    | .failedAssertion place expression =>
      a.file = place.file ∧ a.routine = place.routine ∧ a.line = place.line ∧ Abridged expression a.expression
    | .uncaughtException record         => a.exceptionRecord = some record
    | .inconclusiveness message         => charsOf a.message = charsOf message
    | .log message                      => Abridged (some message) a.message

/-- The code does not depend on where it runs: it does not touch the IRQL or the slot for C++ fixtures, which a
    driver does not have, and it does not raise the exceptions that are left to a debugger in a process. -/
def TestCode.Portable : TestCode w → Prop
  | .finish | .fail | .reportInconclusiveness _ => True
  | .raise record =>
    record.exceptionCode ≠ exceptionBreakpoint ∧ record.exceptionCode ≠ exceptionStackOverflow
  | .reportFailedAssertion _ _ next
  | .reportFailedAssertionFormat _ _ next
  | .assertEqualsUlong _ _ _ _ next => ∀ disp, (next disp).Portable
  | .reportLog _ next => next.Portable
  | .setValue tag _ next => tag ≠ cfixTagReservedForCc ∧ next.Portable
  | .getValue tag next => tag ≠ cfixTagReservedForCc ∧ ∀ value, (next value).Portable
  | .setIrql _ _ => False

/-- In the states `P` the context answers with the two dispositions. What it answers to other events is not looked
    at. -/
structure Process.Answers (p : Process w κ) (P : κ → Prop) (failedAssertion unhandledException : Disposition) :
    Prop where
  failedAssertion    : ∀ place expression k, P k →
    (p.reportEvent (.failedAssertion place expression) k).1 = failedAssertion
  unhandledException : ∀ record k, P k → (p.reportEvent (.uncaughtException record) k).1 = unhandledException
  keeps              : ∀ e k, P k → P (p.reportEvent e k).2

/-! ## The simulation -/

/-- Both runs are at the same point. -/
structure InStep (P : κ → Prop) (x : ProcessRun w κ) (y : DriverRun w) : Prop where
  irql    : y.irql = passiveLevel
  slot    : x.storage.defaultSlot = y.tlsValue.toNat
  events  : List.Forall₂ Echoes x.events y.events
  context : P x.context

/-- The runs have ended in the same way. -/
def EndInStep (P : κ → Prop) (x : Ended (ProcessRun w κ)) (y : Ended (DriverRun w)) : Prop :=
  x.1 = y.1 ∧ InStep P x.2 y.2

section Steps

variable {p : Process w κ} {t : DriverThread w} {P : κ → Prop} {x : ProcessRun w κ} {y : DriverRun w}

/-- An event is reported and queued. -/
theorem InStep.report (h : InStep P x y) (hp : ∀ e k, P k → P (p.reportEvent e k).2) {e e' : ReportedEvent w}
    (he : Echoes e (t.eventArgs (t.stack y.events.length) e')) :
    InStep P (p.report e x).2 (t.queueEvent e' y) where
  irql    := h.irql
  slot    := h.slot
  events  := List.rel_append h.events (.cons he .nil)
  context := hp e x.context h.context

/-- The filters agree on the exceptions of cfix. -/
theorem filter_cfix {code : ExceptionCode} (h : code ∈ cfixExceptions) (disp disp' : Disposition) :
    DriverThread.exceptionFilter code disp = exceptionFilter code disp' false := by
  rw [exceptionFilter_cfix h]
  simp only [cfixExceptions, List.mem_cons, List.not_mem_nil, or_false] at h
  rcases h with rfl | rfl | rfl <;> rfl

/-- A routine is left by an exception of cfix. -/
theorem InStep.abort (h : InStep P x y) {code : ExceptionCode} (hcode : code ∈ cfixExceptions)
    (next : Disposition → ProcessRun w κ → Ended (ProcessRun w κ)) :
    EndInStep P (Process.resume (.raises code) next x) (t.abortCurrentTestCase code y) := by
  have hlow : ¬y.irql > passiveLevel := by rw [h.irql]; exact Nat.lt_irrefl _
  unfold EndInStep Process.resume DriverThread.abortCurrentTestCase
  rw [if_neg hlow, filter_cfix hcode t.unhandledException .continue_]
  exact ⟨rfl, h⟩

/-- **An exception of the code.** -/
theorem InStep.exception (h : InStep P x y) (hp : p.Answers P t.failedAssertion t.unhandledException)
    {record : ExceptionRecord w} (hbreak : record.exceptionCode ≠ exceptionBreakpoint)
    (hoverflow : record.exceptionCode ≠ exceptionStackOverflow) :
    EndInStep P (p.exception record x) (t.exception record y) := by
  unfold Process.exception DriverThread.exception DriverThread.reportsException
  by_cases hcfix : record.exceptionCode ∈ cfixExceptions
  · have hnot : reportsException record.exceptionCode = false := by simp [reportsException, hcfix]
    rw [hnot, if_neg Bool.false_ne_true, decide_eq_false (not_not_intro hcfix), if_neg Bool.false_ne_true,
      filter_cfix hcfix t.unhandledException .continue_]
    exact ⟨rfl, h⟩
  · have hrep : reportsException record.exceptionCode = true := by
      simp [reportsException, hcfix, hbreak, hoverflow]
    have hdisp : (p.report (.uncaughtException record) x).1 = t.unhandledException :=
      hp.unhandledException record x.context h.context
    have hfilter : DriverThread.exceptionFilter record.exceptionCode t.unhandledException
        = exceptionFilter record.exceptionCode t.unhandledException false := by
      rw [exceptionFilter_reported hrep]
      simp only [cfixExceptions, List.mem_cons, List.not_mem_nil, or_false, not_or] at hcfix
      rw [DriverThread.exceptionFilter, if_neg (not_or.mpr ⟨hcfix.1, hcfix.2.1⟩), if_neg hcfix.2.2]
    rw [hrep, if_pos rfl, decide_eq_true hcfix, if_pos rfl, hfilter]
    simp only [hdisp]
    exact ⟨rfl, h.report hp.keeps ⟨rfl, rfl⟩⟩

/-- **A failed assertion.** What follows is left open. -/
theorem InStep.reportFailedAssertion (h : InStep P x y)
    (hp : p.Answers P t.failedAssertion t.unhandledException) (hdebug : p.isDebuggerPresent = t.isDebuggerPresent)
    {place : Place} {expression expression' : Option Wstr} (hexpr : Abridged expression expression')
    {next : Disposition → ProcessRun w κ → Ended (ProcessRun w κ)}
    {next' : Disposition → DriverRun w → Ended (DriverRun w)}
    (hnext : ∀ disp x y, InStep P x y → EndInStep P (next disp x) (next' disp y)) :
    EndInStep P (p.reportFailedAssertion place expression next x)
      (t.reportFailedAssertion place expression' next' y) := by
  have hdisp : (p.report (.failedAssertion place expression) x).1 = t.failedAssertion :=
    hp.failedAssertion place expression x.context h.context
  have hstep : InStep P (p.report (.failedAssertion place expression) x).2
      (t.queueEvent (.failedAssertion place expression') y) :=
    h.report hp.keeps ⟨rfl, rfl, rfl, rfl, hexpr⟩
  have hlength := hstep.events.length_eq
  unfold Process.reportFailedAssertion DriverThread.reportFailedAssertion
  simp only [hdisp, hdebug, hlength]
  cases hd : t.failedAssertion with
  | continue_   => exact hnext .continue_ _ _ hstep
  | breakAlways => exact hnext .break_ _ _ hstep
  | abort       => exact hstep.abort (by decide) next
  | break_      =>
      cases hb : t.isDebuggerPresent (t.queueEvent (.failedAssertion place expression') y).events.length with
      | true  =>
          simp only [peReportFailedAssertion, if_true]
          exact hnext .break_ _ _ hstep
      | false =>
          simp only [peReportFailedAssertion, Bool.false_eq_true, if_false]
          exact hstep.abort (by decide) next

end Steps

/-- Slot 0 is set in both worlds, or in none. -/
theorem InStep.setValue {P : κ → Prop} {x : ProcessRun w κ} {y : DriverRun w} (h : InStep P x y) {tag : BitVec 32}
    (htag : tag ≠ cfixTagReservedForCc) (value : BitVec w.bits) :
    InStep P { x with storage := x.storage.setValue tag value.toNat }
      (if tag ≠ 0#32 then y else { y with tlsValue := value }) := by
  have hcc : (tag == cfixTagReservedForCc) = false := by simpa using htag
  unfold Storage.setValue
  rw [hcc, if_neg Bool.false_ne_true]
  by_cases hzero : tag = 0#32
  · rw [if_neg (not_not_intro hzero), if_pos (by simpa using hzero)]
    exact ⟨h.irql, rfl, h.events, h.context⟩
  · rw [if_pos hzero, if_neg (by simpa using hzero)]
    exact h

/-- The values that are read are the same. -/
theorem InStep.getValue {P : κ → Prop} {x : ProcessRun w κ} {y : DriverRun w} (h : InStep P x y) {tag : BitVec 32}
    (htag : tag ≠ cfixTagReservedForCc) :
    BitVec.ofNat w.bits (x.storage.getValue tag) = if tag ≠ 0#32 then 0#w.bits else y.tlsValue := by
  have hcc : (tag == cfixTagReservedForCc) = false := by simpa using htag
  unfold Storage.getValue
  rw [hcc, if_neg Bool.false_ne_true]
  by_cases hzero : tag = 0#32
  · rw [if_neg (not_not_intro hzero), if_pos (by simpa using hzero), h.slot, BitVec.ofNat_toNat, BitVec.setWidth_eq]
  · rw [if_pos hzero, if_neg (by simpa using hzero)]

/-- **The same code in both worlds**: it ends in the same way, with the same value in slot 0, and the events are
    the same up to the length of printed messages. -/
theorem TestCode.runInDriver_agrees {code : TestCode w} (hcode : code.Portable) {p : Process w κ}
    {t : DriverThread w} {P : κ → Prop} (hp : p.Answers P t.failedAssertion t.unhandledException)
    (hdebug : p.isDebuggerPresent = t.isDebuggerPresent) {x : ProcessRun w κ} {y : DriverRun w}
    (h : InStep P x y) : EndInStep P (code.runInProcess p x) (code.runInDriver t y) := by
  induction code generalizing x y with
  | finish => exact ⟨rfl, h⟩
  | raise record => exact h.exception hp hcode.1 hcode.2
  | fail => exact h.abort (by decide) fun _ s => (none, s)
  | reportFailedAssertion place expression next ih =>
      exact h.reportFailedAssertion hp hdebug (.refl _) fun disp x y hxy => ih disp (hcode disp) hxy
  | reportFailedAssertionFormat place format next ih =>
      refine h.reportFailedAssertion hp hdebug ?_ fun disp x y hxy => ih disp (hcode disp) hxy
      cases format with
      | none   => exact .inl rfl
      | some f =>
          simp only [printed, Option.map_some, DriverThread.message, h.irql, if_true]
          exact abridged_truncate (by decide) f.text
  | assertEqualsUlong expected actual place expression next ih =>
      simp only [runInProcess, runInDriver]
      by_cases heq : expected = actual
      · rw [if_pos heq, if_pos heq]
        exact ih .continue_ (hcode .continue_) h
      · rw [if_neg heq, if_neg heq]
        refine h.reportFailedAssertion hp hdebug ?_ fun disp x y hxy => ih disp (hcode disp) hxy
        simp only [DriverThread.message, h.irql, if_true]
        exact .refl _
  | reportInconclusiveness message =>
      have hstep : InStep P (p.report (.inconclusiveness message) x).2
          (t.queueEvent (.inconclusiveness (some (message.getD .empty))) y) := h.report hp.keeps ⟨rfl, rfl⟩
      exact hstep.abort (by decide) fun _ s => (none, s)
  | reportLog format next ih =>
      have hstep : InStep P (p.report (.log (printed 512 format)) x).2
          (t.queueEvent (.log ((format.map (DriverThread.message y.irql)).getD .empty)) y) := by
        refine h.report hp.keeps ⟨rfl, ?_⟩
        cases format with
        | none   => exact .refl _
        | some f =>
            simp only [DriverThread.eventArgs, printed, Option.map_some, Option.getD_some, DriverThread.message,
              h.irql, if_true]
            exact abridged_truncate (by decide) f.text
      exact ih hcode hstep
  | setValue tag value next ih => exact ih hcode.2 (h.setValue hcode.1 value)
  | getValue tag next ih =>
      simp only [runInProcess, runInDriver, h.getValue hcode.1]
      exact ih _ (hcode.2 _) h
  | setIrql irql next ih => exact hcode.elim

/-! ## The request and the head of the response -/

namespace Events

open Memory
open Unload (NTSTATUS)

/-- The reflector finds the request that the client has made. -/
theorem CallRoutineRequest.load_store (m : Mem) (a : Nat) (r : CallRoutineRequest) :
    CallRoutineRequest.load (r.store m a) a = r := by
  have h64 (v : BitVec 64) : BitVec.ofNat 64 (v.toNat % 256 ^ 8) = v := ofNat_toNat_mod (by decide) v
  have h16 (v : BitVec 16) : BitVec.ofNat 16 (v.toNat % 256 ^ 2) = v := ofNat_toNat_mod (by decide) v
  have h8 (v : BitVec 8) : BitVec.ofNat 8 (v.toNat % 256 ^ 1) = v := ofNat_toNat_mod (by decide) v
  unfold CallRoutineRequest.load CallRoutineRequest.store
  simp (disch := omega) only [load_store_disjoint, Memory.load_store, h64, h16, h8]

namespace Session

variable {s : Session w} {call : RoutineCall w}

/-- The reflector makes the call that the connection to the driver gives for the request. -/
theorem call_eq {connection : CallRoutineRequest → RoutineCall w}
    (hconn : s.reflector.lookupDriverConnection s.request.driverBaseAddress = .ok connection)
    (haccepts : acceptsRequest s.systemMemory s.io.systemBuffer (.ofNat 32 sizeofCallRoutineRequest)
      s.responseSize = true) : s.call = .ok (connection s.request) := by
  have hload : CallRoutineRequest.load s.systemMemory s.io.systemBuffer = s.request :=
    CallRoutineRequest.load_store _ _ _
  unfold Session.call routineCall
  rw [haccepts, Bool.not_true, if_neg Bool.false_ne_true, hload]
  simp only [hconn]
  rfl

/-- What the client gets from a successful call: a copy of the response with the events behind it. -/
theorem deviceIoControl_copy (hcall : s.call = .ok call) (hstatus : ntSuccess call.status = true) :
    let c := queueEvents s.channel call.events
    ∃ m bytes, deviceIoControl s.reflector s.io s.request s.memory s.response s.responseSize = .ok (m, bytes) ∧
      bytes = sizeofCallRoutineResponse + c.bufferLength ∧
      Same (writeResponse c.memory s.io.systemBuffer call c) s.io.systemBuffer m s.response bytes := by
  have hcall' : routineCall s.reflector (s.request.store s.io.memory s.io.systemBuffer) s.io.systemBuffer
      (.ofNat 32 sizeofCallRoutineRequest) s.responseSize = .ok call := hcall
  unfold deviceIoControl callRoutineIoctl
  rw [hcall']
  simp only [hstatus, if_true]
  exact ⟨_, _, rfl, bytesWritten_eq hcall, same_copy _ _ _ _ _⟩

/-- **The head of the response.** After a successful call the client has what the routine has returned. -/
theorem resultFor_head (v : Width) (hcall : s.call = .ok call) (hstatus : ntSuccess call.status = true)
    (hmalloc : s.env.malloc = true) :
    (s.resultFor v).hr = sOk ∧ (s.resultFor v).ranToCompletion = call.ranToCompletion ∧
      (s.resultFor v).abortRun = call.abortRun ∧ (s.resultFor v).tlsValue = call.tlsValue := by
  have hbool (b : Bool) : (b.toNat % 256 ^ 1 != 0) = b := by cases b <;> rfl
  have h64 : BitVec.ofNat 64 (call.tlsValue.toNat % 256 ^ 8) = call.tlsValue := ofNat_toNat_mod (by decide) _
  obtain ⟨m, bytes, hio, hbytes, hsame⟩ := deviceIoControl_copy hcall hstatus
  have hle : sizeofCallRoutineResponse ≤ bytes := (Nat.le_add_right _ _).trans_eq hbytes.symm
  -- the head is inside of the bytes that are transferred
  have hload (n d : Nat) (hd : d + n ≤ sizeofCallRoutineResponse) : load n m (s.response + d)
      = load n (writeResponse (queueEvents s.channel call.events).memory s.io.systemBuffer call
          (queueEvents s.channel call.events)) (s.io.systemBuffer + d) :=
    ((hsame.mono (by omega) (by omega) (by omega)).load_eq).symm
  have hran := hload 1 0 (by decide)
  have habort := hload 1 1 (by decide)
  have htls := hload 8 8 (by decide)
  rw [Nat.add_zero, Nat.add_zero] at hran
  unfold Session.resultFor callRoutine
  rw [hio, hmalloc]
  simp only [Bool.not_true, Bool.false_eq_true, if_false, hran, habort, htls]
  rw [if_neg (Nat.not_lt.mpr hle)]
  unfold writeResponse
  refine ⟨rfl, ?_, ?_, ?_⟩
  · simp (disch := omega) only [load_store_disjoint, Memory.load_store, hbool]
  · simp (disch := omega) only [load_store_disjoint, Memory.load_store, hbool]
  · simp (disch := omega) only [Memory.load_store, h64]

end Session

/-- Events that are committed keep their order. -/
theorem committed_sublist (c : Channel) (es : List (EventArgs w)) : (committed c es).Sublist es := by
  induction es generalizing c with
  | nil => exact List.Sublist.refl []
  | cons a es ih =>
      unfold committed
      split
      · exact (ih _).cons_cons a
      · exact (ih _).cons a

/-- The client's function, as its callers look at it. -/
def CallResult.response {ω : Type} (x : CallResult w) (user : ω) : RoutineResponse ω where
  hr              := x.hr
  ranToCompletion := x.ranToCompletion
  abortRun        := x.abortRun
  tlsValue        := x.tlsValue.toNat
  user            := user

end Events

/-! ## The call of a routine -/

open Events (Session RoutineCall CallRoutineRequest committed ReportOf)

/-- The request of the session is served by the connection, finds the code and is not held up by a shortage or by
    the driver's end. -/
structure ReachesCode (s : Session w) (c : DriverConnection w) (code : TestCode w) : Prop where
  connection : ∃ connection, s.reflector.lookupDriverConnection s.request.driverBaseAddress = .ok connection ∧
    ∀ call, c.callRoutineDriverConnection s.request = some call → connection s.request = call
  accepts    : Events.acceptsRequest s.systemMemory s.io.systemBuffer (.ofNat 32 Events.sizeofCallRoutineRequest)
    s.responseSize = true
  malloc     : s.env.malloc = true
  mallocs    : ∀ i type, (s.env.mallocs i).suffice type = true
  filament   : Events.ntSuccess c.setCurrentFilament = true
  protection : c.acquireDriverUnloadProtection = true
  routine    : ∃ address, TestModule.getRoutineTestAdapter c.adapter s.request.fixtureKey.toNat
    s.request.routineKey.toNat = .ok address ∧ c.code address = code

/-- The response of a routine that has run. -/
def ranCall (completion : Completion) (y : DriverRun w) : RoutineCall w where
  events          := y.events
  status          := Unload.statusSuccess
  ranToCompletion := completion == .returned
  abortRun        := completion == .raised true
  tlsValue        := y.tlsValue.setWidth 64

/-- The connection runs the code. -/
theorem ReachesCode.call_eq {s : Session w} {c : DriverConnection w} {code : TestCode w} (h : ReachesCode s c code) :
    let y := code.runInDriver (c.thread s.request) (DriverConnection.start s.request)
    c.callRoutineDriverConnection s.request = y.1.map fun completion => ranCall completion y.2 := by
  obtain ⟨address, hroutine, rfl⟩ := h.routine
  unfold DriverConnection.callRoutineDriverConnection
  rw [hroutine]
  simp only [h.filament, h.protection, Bool.not_true, Bool.false_eq_true, if_false]
  rfl

/-- **What the client gets from the code**, if it comes to an end: how it ended, the value of slot 0, and reports of
    the events that are committed. -/
theorem ReachesCode.result {s : Session w} {c : DriverConnection w} {code : TestCode w} (h : ReachesCode s c code)
    {completion : Completion} {y : DriverRun w}
    (hy : code.runInDriver (c.thread s.request) (DriverConnection.start s.request) = (some completion, y)) :
    s.result.hr = sOk ∧ s.result.ranToCompletion = (completion == .returned) ∧
      s.result.abortRun = (completion == .raised true) ∧ s.result.tlsValue.toNat = y.tlsValue.toNat ∧
      ∃ reports, List.Forall₂ ReportOf reports (committed s.channel y.events) ∧
        s.result.deliveries = reports.map .event ++
          (if (Events.queueEvents s.channel y.events).bufferTruncated then
            [.note (Events.noteReport w s.env.currentThreadId)] else []) := by
  have hcall := h.call_eq
  rw [hy] at hcall
  obtain ⟨connection, hlookup, hserves⟩ := h.connection
  have hsession : s.call = .ok (ranCall completion y) := by
    rw [Events.Session.call_eq hlookup h.accepts, hserves _ hcall]
  have hstatus : Events.ntSuccess Unload.statusSuccess = true := by decide
  obtain ⟨hhr, hran, habort, htls⟩ := Events.Session.resultFor_head w hsession hstatus h.malloc
  refine ⟨hhr, hran, habort, ?_, Events.Session.deliveries_committed hsession hstatus h.malloc h.mallocs⟩
  have hbits : w.bits ≤ 64 := Nat.mul_le_mul_left 8 w.bytes_pos.2
  rw [Events.Session.result, htls]
  show (BitVec.setWidth 64 y.tlsValue).toNat = _
  rw [BitVec.toNat_setWidth, Nat.mod_eq_of_lt]
  exact Nat.lt_of_lt_of_le y.tlsValue.isLt (Nat.pow_le_pow_right (by decide) hbits)

/-- The runners of both kinds of modules make the same of the end of a routine. -/
theorem responseHr_completion {ω : Type} (x : RoutineResponse ω) {completion : Completion} (hhr : x.hr = sOk)
    (hran : x.ranToCompletion = (completion == .returned)) (habort : x.abortRun = (completion == .raised true))
    (r : RoutineId) : KernelEnvironment.responseHr x r.failureHr = r.mapHr completion.result := by
  unfold KernelEnvironment.responseHr RoutineId.mapHr
  rw [hhr, hran, habort]
  cases completion with
  | returned => rfl
  | raised abortRun => cases abortRun <;> rfl

/-- **One routine in a process and in a driver.** If nothing stops the machine, the client's runner returns what the
    runner of the process returns, and slot 0 has the same value afterwards. The driver queues the events that the
    process reports, and the client reports those of them that are committed, in their order. -/
theorem routine_agrees {s : Session w} {c : DriverConnection w} {code : TestCode w} (h : ReachesCode s c code)
    (hcode : code.Portable) {p : Process w κ} {P : κ → Prop}
    (hp : p.Answers P (dispositionOf s.request.failedAssertion) (dispositionOf s.request.unhandledException))
    (hdebug : p.isDebuggerPresent = c.isDebuggerPresent) {x : ProcessRun w κ}
    (hx : InStep P x (DriverConnection.start s.request)) (r : RoutineId) :
    let run := code.runInProcess p x
    (run.1 = none ↔ c.callRoutineDriverConnection s.request = none) ∧
      ∀ completion, run.1 = some completion →
        KernelEnvironment.responseHr (s.result.response ()) r.failureHr = r.mapHr completion.result ∧
        run.2.storage.defaultSlot = (s.result.response ()).tlsValue ∧
        ∃ events, List.Forall₂ Echoes run.2.events events ∧ (committed s.channel events).Sublist events ∧
          List.Forall₂ ReportOf (Events.reportsOf s.result.deliveries) (committed s.channel events) := by
  obtain ⟨hend, hstep⟩ := code.runInDriver_agrees hcode (t := c.thread s.request) hp hdebug hx
  have hcall := h.call_eq
  simp only at hcall ⊢
  rw [hcall, hend, Option.map_eq_none_iff]
  refine ⟨Iff.rfl, ?_⟩
  intro completion hcompletion
  rcases hy : code.runInDriver (c.thread s.request) (DriverConnection.start s.request) with ⟨ending, y⟩
  rw [hy] at hcompletion hstep
  simp only at hcompletion
  subst hcompletion
  obtain ⟨hhr, hran, habort, htls, reports, hreports, hdeliveries⟩ := h.result hy
  refine ⟨responseHr_completion _ hhr hran habort r, hstep.slot.trans htls.symm, y.events, hstep.events,
    Events.committed_sublist _ _, ?_⟩
  rw [hdeliveries, Events.reportsOf_note]
  exact hreports

/-- Code that keeps a value, logs a message and then fails. -/
def failingCode (w : Width) : TestCode w :=
  .setValue 0#32 7 (.reportLog (some ⟨.ofString "%d left", .ofString "3 left"⟩)
    (.reportFailedAssertion ⟨none, none, 12#32⟩ (.ofString "left == 0") fun _ => .finish))

/-- A driver with one fixture that has one routine. -/
def failingDriver (w : Width) : DriverConnection w where
  adapter                       :=
    ⟨[⟨.ofString "Fixture", [⟨3#32, .ofString "Test", 4096⟩], by decide, by decide⟩], by decide⟩
  code _                        := failingCode w
  setCurrentFilament            := Unload.statusSuccess
  acquireDriverUnloadProtection := true
  isDebuggerPresent _           := false
  threadId                      := 8#32
  stack _                       := []

/-- The call of that routine, for a failed assertion to break and an exception to go on. -/
def failingSession (w : Width) (tlsValue : BitVec 64) : Session w :=
  { Events.sampleSession w [] with
    reflector := ⟨fun _ => .ok fun request =>
      ((failingDriver w).callRoutineDriverConnection request).getD (DriverConnection.failedCall 0#32 request)⟩
    request   := ⟨1#64, 0#16, 0#16, 1#8, 0#8, tlsValue⟩ }

/-- A context with the same answers. -/
def breakingProcess (w : Width) : Process w Unit where
  reportEvent e k     := (if e.type = .failedAssertion then .break_ else .continue_, k)
  isDebuggerPresent _ := false

theorem failingSession_reachesCode (w : Width) (tlsValue : BitVec 64) :
    ReachesCode (failingSession w tlsValue) (failingDriver w) (failingCode w) where
  connection := by
    refine ⟨_, rfl, ?_⟩
    intro call hcall
    simp only [hcall, Option.getD_some]
  accepts    := by
    unfold Events.acceptsRequest Events.Session.systemMemory
    rw [Events.CallRoutineRequest.load_store]
    rfl
  malloc     := rfl
  mallocs    := Events.sampleSession_mallocs w []
  filament   := show Events.ntSuccess 0#32 = true by decide
  protection := rfl
  routine    := ⟨4096, rfl, rfl⟩

theorem failingCode_portable (w : Width) : (failingCode w).Portable := ⟨by decide, fun _ => trivial⟩

/-- Without a debugger the routine fails in the driver, too. -/
theorem routine_agrees_failing :
    KernelEnvironment.responseHr ((failingSession .w64 0#64).result.response ()) eTestRoutineFailed
      = eTestRoutineFailed := by
  have hp : (breakingProcess .w64).Answers (fun _ => True) .break_ .continue_ :=
    ⟨fun _ _ _ _ => rfl, fun _ _ _ => rfl, fun _ _ _ => trivial⟩
  have hx : InStep (w := .w64) (fun _ => True) ⟨.zero, (), []⟩
      (DriverConnection.start (failingSession .w64 0#64).request) := ⟨rfl, by decide, .nil, trivial⟩
  exact ((routine_agrees (failingSession_reachesCode .w64 0#64) (failingCode_portable .w64) hp rfl hx (.test 0)).2
    (.raised false) rfl).1

end Cfix
