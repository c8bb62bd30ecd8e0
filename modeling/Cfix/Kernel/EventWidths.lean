import Cfix.Kernel.EventRoundTrip

/-!
# `Kernel.EventWidths` — pointer widths: clients of 32 bits below a kernel of 64, and exception records

A client of 32 bits finds the frames of an event eight bytes before the place where a kernel of 64 bits puts
them, so it sees the same frames only if they are all zero (`Session.wow64_iff`). An exception record of 64
bits is always converted as if it had to fit into 32 bits (`Session.exceptionRecord_iff`).
-/

namespace Cfix.Events

open Memory
open Cfix.Unload (statusSuccess)

variable {w : Width}

/-! ## Events of a session, for clients of any width -/

/-- The event at a place of the queue, as a client of any width reports it. -/
theorem Session.report_get (v : Width) {s : Session w} {call : RoutineCall w} (hcall : s.call = .ok call)
    (hstatus : ntSuccess call.status = true) (hmalloc : s.env.malloc = true)
    (hmallocs : ∀ i type, (s.env.mallocs i).suffice type = true) {i : Nat} {a : EventArgs w}
    (ha : (committed s.channel call.events)[i]? = some a) :
    ∃ r m p, (reportsOf (s.resultFor v).deliveries)[i]? = some r ∧ Stored m p a ∧
      ReportedFor v (s.env.mallocs i) m p a r := by
  obtain ⟨m, hchain, -, hdeliveries⟩ := s.resultFor_deliveries v hcall hstatus hmalloc
  obtain ⟨-, hget⟩ := reportEvents_get v 0 hchain fun i a _ => hmallocs (0 + i) a.type
  obtain ⟨r, p, hr, hs, hfor⟩ := hget i a ha
  rw [Nat.zero_add] at hfor
  refine ⟨r, m, p, ?_, hs, hfor⟩
  rw [hdeliveries, reportsOf_note]
  exact hr

/-! ## Frames seen from 32 bits -/

/-- Every entry of a list that moves up by one is the entry before it. -/
theorem cons_take_eq_iff {α : Type} (x : α) (l : List α) :
    (x :: l).take l.length = l ↔ ∀ y ∈ l, y = x := by
  induction l generalizing x with
  | nil => simp
  | cons y l ih =>
      rw [List.length_cons, List.take_succ_cons, List.cons.injEq, ih, List.forall_mem_cons]
      constructor
      · rintro ⟨rfl, h⟩
        exact ⟨rfl, h⟩
      · rintro ⟨rfl, h⟩
        exact ⟨rfl, h⟩

/-- **The frames a client of 32 bits sees**: first the pointer in front of them, then all but the last. -/
theorem readFrames_w32 {m : Mem} {event : Nat} {a : EventArgs .w64} (h : TraceAt m event a) :
    readFrames .w32 m event = (0#64 :: a.frames).take a.frames.length := by
  unfold readFrames
  rw [h.frameCount]
  cases hframes : a.frames with
  | nil => rfl
  | cons f fs =>
      -- the pointer in front of the frames is stored as 0
      have hpointer : load 8 m (event + 184) = 0 := h.getInformation (by rw [hframes]; exact List.cons_ne_nil f fs)
      have htail : loadArray 8 m (event + 192) (fs.length + 1) = (f :: fs).map BitVec.toNat := by
        have hall := h.frames
        rw [hframes] at hall
        exact hall
      have hinit : loadArray 8 m (event + 192) fs.length = ((f :: fs).take fs.length).map BitVec.toNat := by
        rw [List.map_take, ← htail, loadArray_append, List.take_left' (length_loadArray _ _ _ _)]
      show (loadArray 8 m (event + 184) (fs.length + 1)).map (BitVec.ofNat 64) = _
      rw [loadArray, hpointer, show event + 184 + 8 = event + 192 from rfl, hinit, List.length_cons,
        List.take_succ_cons, List.map_cons, map_ofNat_map_toNat]

/-- The strings of an event. -/
def TranslatedInfo.strings : TranslatedInfo w → List Wstr
  | .failedAssertion file routine _ expression => [file, routine, expression]
  | .uncaughtException _                       => []
  | .inconclusiveness message                  => [message]
  | .log message                               => [message]
  | .unrecognized                              => []

/-- Two clients see the same event: type, threads, strings and frames, with their number. -/
structure SameEvent {v v' : Width} (r : Report v) (r' : Report v') : Prop where
  type         : r.type = r'.type
  threadId     : r.threadId = r'.threadId
  mainThreadId : r.mainThreadId = r'.mainThreadId
  strings      : r.info.strings = r'.info.strings
  frames       : r.frames = r'.frames

/-- The strings do not depend on the width of the client. -/
theorem InfoOf.strings_eq {v v' : Width} {info : TranslatedInfo v} {info' : TranslatedInfo v'}
    {a : EventArgs w} (h : InfoOf info a) (h' : InfoOf info' a) : info.strings = info'.strings := by
  unfold InfoOf at h h'
  cases hty : a.type with
  | failedAssertion =>
      rw [hty] at h h'
      rw [h, h']
      rfl
  | uncaughtException =>
      rw [hty] at h h'
      obtain ⟨record, rfl⟩ := h
      obtain ⟨record', rfl⟩ := h'
      rfl
  | inconclusiveness =>
      rw [hty] at h h'
      rw [h, h']
      rfl
  | log =>
      rw [hty] at h h'
      rw [h, h']
      rfl

/-- **Clients of both widths.** For every event of a kernel of 64 bits, a client of 32 bits sees what a
    client of 64 bits sees exactly if all its frames are zero, in particular if it has none. -/
theorem Session.wow64_iff {s : Session .w64} {call : RoutineCall .w64} (hcall : s.call = .ok call)
    (hstatus : ntSuccess call.status = true) (hmalloc : s.env.malloc = true)
    (hmallocs : ∀ i type, (s.env.mallocs i).suffice type = true) {i : Nat} {a : EventArgs .w64}
    (ha : (committed s.channel call.events)[i]? = some a) :
    ∃ r r', (reportsOf (s.resultFor .w32).deliveries)[i]? = some r ∧
      (reportsOf (s.resultFor .w64).deliveries)[i]? = some r' ∧
      (SameEvent r r' ↔ ∀ f ∈ a.frames, f = 0#64) := by
  obtain ⟨r, m, p, hr, hs, hfor⟩ := s.report_get .w32 hcall hstatus hmalloc hmallocs ha
  obtain ⟨r', m', p', hr', hs', hfor'⟩ := s.report_get .w64 hcall hstatus hmalloc hmallocs ha
  have hframes : r.frames = (0#64 :: a.frames).take a.frames.length :=
    hfor.frames.trans (readFrames_w32 hs.trace)
  have hframes' : r'.frames = a.frames := (hfor'.reportOf hs').frames
  -- the frames decide: they move up by one, behind a zero
  refine ⟨r, r', hr, hr', ?_⟩
  rw [← cons_take_eq_iff]
  constructor
  · intro hsame
    rw [← hframes, ← hframes']
    exact hsame.frames
  · intro heq
    constructor
    · rw [hfor.type, hfor'.type]
    · rw [hfor.threadId, hfor'.threadId]
    · rw [hfor.mainThreadId, hfor'.mainThreadId]
    · exact hfor.info.strings_eq hfor'.info
    · rw [hframes, hframes', heq]

/-- A message with a stack trace. -/
def traceEvent (w : Width) (stack : List (BitVec 64)) : EventArgs w :=
  { logEvent w noteMessage with stack := stack }

/-- The only event of a sample is committed if it passes the checks. -/
theorem sampleSession_committed {a : EventArgs w} (h : Commits (sampleSession w [a]).channel a) :
    (committed (sampleSession w [a]).channel (sampleCall w [a]).events)[0]? = some a := by
  have hcommitted : committed (sampleSession w [a]).channel (sampleCall w [a]).events = [a] :=
    (Session.passing (sampleSession_call w [a])).eq_of_commits h
  rw [hcommitted]
  rfl

/-- A message without a stack trace looks the same to both clients. -/
theorem Session.wow64_log :
    let s := sampleSession .w64 [logEvent .w64 noteMessage]
    ∃ r r', (reportsOf (s.resultFor .w32).deliveries)[0]? = some r ∧
      (reportsOf (s.resultFor .w64).deliveries)[0]? = some r' ∧ SameEvent r r' := by
  have hcall := sampleSession_call .w64 [logEvent .w64 noteMessage]
  obtain ⟨r, r', hr, hr', hiff⟩ := Session.wow64_iff hcall rfl rfl (sampleSession_mallocs .w64 _)
    (sampleSession_committed logEvent_commits)
  exact ⟨r, r', hr, hr', hiff.mpr fun f hf => absurd hf List.not_mem_nil⟩

theorem traceEvent_commits : Commits (sampleSession .w64 [traceEvent .w64 [1#64]]).channel
    (traceEvent .w64 [1#64]) :=
  ⟨by decide, ⟨by decide, by decide, by decide, by decide⟩, by decide, by decide⟩

/-- A message whose stack trace is one frame: the client of 32 bits does not see what the client of 64 bits
    sees. -/
theorem Session.wow64_counterexample :
    let s := sampleSession .w64 [traceEvent .w64 [1#64]]
    ∃ r r', (reportsOf (s.resultFor .w32).deliveries)[0]? = some r ∧
      (reportsOf (s.resultFor .w64).deliveries)[0]? = some r' ∧ ¬ SameEvent r r' := by
  have hcall := sampleSession_call .w64 [traceEvent .w64 [1#64]]
  obtain ⟨r, r', hr, hr', hiff⟩ := Session.wow64_iff hcall rfl rfl (sampleSession_mallocs .w64 _)
    (sampleSession_committed traceEvent_commits)
  refine ⟨r, r', hr, hr', ?_⟩
  rw [hiff]
  intro hall
  exact absurd (hall 1#64 (by decide)) (by decide)

/-! ## Exception records -/

/-- The conversion to a record of 32 bits; the information stays what it was. -/
def truncatedRecord (r target : ExceptionRecord w) : ExceptionRecord w :=
  { target with
    exceptionCode    := r.exceptionCode
    exceptionFlags   := r.exceptionFlags
    exceptionRecord  := 0#w.bits
    exceptionAddress := .ofNat w.bits 0xFFFFFFFF
    numberParameters := 0#32 }

/-- With 32 bits on both sides the record is copied. -/
theorem copyExceptionRecord_w32 {m target : Mem} {event : Nat} {r : ExceptionRecord .w32}
    (htag : load 4 m (event + 16) = exceptionRecordTag .w32)
    (hr : ExceptionRecord.load .w32 m (event + 24) = r) :
    ExceptionRecord.load .w32 (copyExceptionRecord .w32 m event target) 0 = r := by
  unfold copyExceptionRecord
  rw [htag, if_neg (by decide), ← hr]
  exact (ExceptionRecord.load_congr (same_copy m target (event + 24) 0 (sizeofExceptionRecord .w32))).symm

/-- With 64 bits on both sides the record is converted. -/
theorem copyExceptionRecord_w64 {m target : Mem} {event : Nat} {r : ExceptionRecord .w64}
    (htag : load 4 m (event + 16) = exceptionRecordTag .w64)
    (hr : ExceptionRecord.load .w64 m (event + 24) = r) :
    ExceptionRecord.load .w64 (copyExceptionRecord .w64 m event target) 0
      = truncatedRecord r (.load .w64 target 0) := by
  have hcode : BitVec.ofNat 32 (load 4 m (event + 24) % 256 ^ 4) = r.exceptionCode := by
    rw [Nat.mod_eq_of_lt (load_lt 4 m _), ← hr]
    rfl
  have hflags : BitVec.ofNat 32 (load 4 m (event + 28) % 256 ^ 4) = r.exceptionFlags := by
    rw [Nat.mod_eq_of_lt (load_lt 4 m _), ← hr]
    rfl
  unfold copyExceptionRecord
  rw [if_pos htag]
  unfold ExceptionRecord.load truncatedRecord informationOffset
  ext1
  all_goals simp only [Width.bytes]
  · simp (disch := decide) only [load_store_disjoint, load_store]
    exact hcode
  · simp (disch := decide) only [load_store_disjoint, load_store]
    exact hflags
  · simp (disch := decide) only [load_store]
    rfl
  · simp (disch := decide) only [load_store_disjoint, load_store]
    rfl
  · simp (disch := decide) only [load_store_disjoint, load_store]
    rfl
  · simp (disch := decide) only [loadArray_store_disjoint]

/-- **Exception records.** The record of an exception arrives as it was raised exactly if both sides have
    32 bits, or if the conversion happens to give it back: no parameters, the address `0xFFFFFFFF`, no nested
    record and, as information, what was in the memory of the translated event. -/
theorem Session.exceptionRecord_iff {s : Session w} {call : RoutineCall w} (hcall : s.call = .ok call)
    (hstatus : ntSuccess call.status = true) (hmalloc : s.env.malloc = true)
    (hmallocs : ∀ i type, (s.env.mallocs i).suffice type = true) {i : Nat} {a : EventArgs w}
    (ha : (committed s.channel call.events)[i]? = some a) (hty : a.type = .uncaughtException)
    {r : ExceptionRecord w} (hr : a.exceptionRecord = some r) :
    ∃ report record target, (reportsOf s.result.deliveries)[i]? = some report ∧
      (s.env.mallocs i).eventTranslated = some target ∧ report.info = .uncaughtException record ∧
      (record = r ↔
        w = .w32 ∨ (r.numberParameters = 0#32 ∧ r.exceptionAddress = .ofNat w.bits 0xFFFFFFFF ∧
          r.exceptionRecord = 0#w.bits ∧
          r.exceptionInformation = (ExceptionRecord.load w target 0).exceptionInformation)) := by
  obtain ⟨report, m, p, hget, hs, hfor⟩ := s.report_get w hcall hstatus hmalloc hmallocs ha
  obtain ⟨target, htarget, hinfo⟩ := hfor.record hty
  have hstored := hs.info
  unfold InfoAt at hstored
  simp only [hty, hr] at hstored
  obtain ⟨htag, hload⟩ := hstored
  refine ⟨report, _, target, hget, htarget, hinfo, ?_⟩
  cases w with
  | w32 =>
      rw [copyExceptionRecord_w32 htag hload]
      exact iff_of_true rfl (Or.inl rfl)
  | w64 =>
      -- code and flags survive the conversion, the other fields are overwritten or left as they were
      rw [copyExceptionRecord_w64 htag hload, or_iff_right (by decide)]
      constructor
      · intro heq
        rw [← heq]
        exact ⟨rfl, rfl, rfl, rfl⟩
      · rintro ⟨hnumber, haddress, hnested, hinformation⟩
        ext1
        · rfl
        · rfl
        · exact hnested.symm
        · exact haddress.symm
        · exact hnumber.symm
        · exact hinformation.symm

/-- An access violation in a test routine. -/
def accessViolation (w : Width) : ExceptionRecord w where
  exceptionCode        := 0xC0000005#32
  exceptionFlags       := 0#32
  exceptionRecord      := 0#w.bits
  exceptionAddress     := .ofNat w.bits 0x1000
  numberParameters     := 2#32
  exceptionInformation := List.replicate exceptionMaximumParameters (0#w.bits)
  length_information   := List.length_replicate

/-- An uncaught exception. -/
def exceptionEvent (w : Width) (r : ExceptionRecord w) : EventArgs w :=
  { logEvent w .empty with type := .uncaughtException, message := none, exceptionRecord := some r }

theorem exceptionEvent_commits_w32 :
    Commits (sampleSession .w32 [exceptionEvent .w32 (accessViolation .w32)]).channel
      (exceptionEvent .w32 (accessViolation .w32)) :=
  ⟨by decide, ⟨by decide, by decide, by decide, by decide⟩, by decide, by decide⟩

/-- An access violation, with 32 bits on both sides. -/
theorem Session.exceptionRecord_w32 :
    let s := sampleSession .w32 [exceptionEvent .w32 (accessViolation .w32)]
    ∃ report, (reportsOf s.result.deliveries)[0]? = some report ∧
      report.info = .uncaughtException (accessViolation .w32) := by
  have hcall := sampleSession_call .w32 [exceptionEvent .w32 (accessViolation .w32)]
  obtain ⟨report, record, target, hget, -, hinfo, hiff⟩ := Session.exceptionRecord_iff hcall rfl rfl
    (sampleSession_mallocs .w32 _) (sampleSession_committed exceptionEvent_commits_w32) rfl rfl
  have hrecord : record = accessViolation .w32 := hiff.mpr (Or.inl rfl)
  exact ⟨report, hget, hrecord ▸ hinfo⟩

theorem exceptionEvent_commits : Commits (sampleSession .w64 [exceptionEvent .w64 (accessViolation .w64)]).channel
    (exceptionEvent .w64 (accessViolation .w64)) :=
  ⟨by decide, ⟨by decide, by decide, by decide, by decide⟩, by decide, by decide⟩

/-- An access violation, with 64 bits on both sides: another record arrives. -/
theorem Session.exceptionRecord_counterexample :
    let s := sampleSession .w64 [exceptionEvent .w64 (accessViolation .w64)]
    ∃ report record, (reportsOf s.result.deliveries)[0]? = some report ∧
      report.info = .uncaughtException record ∧ record ≠ accessViolation .w64 := by
  have hcall := sampleSession_call .w64 [exceptionEvent .w64 (accessViolation .w64)]
  obtain ⟨report, record, target, hget, -, hinfo, hiff⟩ := Session.exceptionRecord_iff hcall rfl rfl
    (sampleSession_mallocs .w64 _) (sampleSession_committed exceptionEvent_commits) rfl rfl
  refine ⟨report, record, hget, hinfo, ?_⟩
  rw [ne_eq, hiff]
  rintro (hw | ⟨hnumber, -⟩)
  · exact absurd hw (by decide)
  · exact absurd hnumber (by decide)

end Cfix.Events
