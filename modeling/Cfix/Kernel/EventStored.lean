import Cfix.Kernel.EventBuffer

/-!
# `Kernel.EventStored` — what a committed event leaves in the buffer

`Stored` says field by field what the bytes of a committed event are. It depends on these bytes only, so
events form a record layout (`eventLayout`), and the parts of `CfixkrsQueueEvent` each have one lemma that
says what they write and that they write nothing else.
-/

namespace Cfix.Events

open Memory

variable {w : Width}

/-! ## Sizes of an event -/

namespace EventArgs

/-- The frames that are captured. -/
def frames (a : EventArgs w) : List (BitVec 64) :=
  if a.callerContext then [] else a.stack.take cfixkrpMaxStackframes

/-- The size of the event without its strings; an empty trace takes the place of one frame. -/
def baseSize (a : EventArgs w) : Nat := framesOffset w + 8 * max 1 a.frames.length

/-- The characters of all strings passed, those that do not apply to the type included. -/
def charCount (a : EventArgs w) : Nat :=
  (charsOf a.expression).length + (charsOf a.file).length + (charsOf a.message).length
    + (charsOf a.routine).length

/-- The total size. -/
def size (a : EventArgs w) : Nat := (a.baseSize + 2 * a.charCount + 7) / 8 * 8

/-- No string is too long for its length to be determined. -/
structure Short (a : EventArgs w) : Prop where
  file       : (charsOf a.file).length < 32767
  routine    : (charsOf a.routine).length < 32767
  message    : (charsOf a.message).length < 32767
  expression : (charsOf a.expression).length < 32767

theorem length_frames (a : EventArgs w) : a.frames.length ≤ 32 := by
  unfold frames
  split
  · exact Nat.zero_le 32
  · exact List.length_take_le 32 a.stack

theorem le_baseSize (a : EventArgs w) : framesOffset w + 8 ≤ a.baseSize := by
  unfold baseSize
  omega

theorem frames_le_baseSize (a : EventArgs w) : framesOffset w + 8 * a.frames.length ≤ a.baseSize := by
  unfold baseSize
  omega

theorem baseSize_le (a : EventArgs w) : a.baseSize + 8 ≤ sizeofThroughFrames w := by
  have h := a.length_frames
  unfold baseSize sizeofThroughFrames cfixkrpMaxStackframes
  omega

theorem le_size (a : EventArgs w) : a.baseSize + 2 * a.charCount ≤ a.size := by
  unfold size
  omega

end EventArgs

/-- The frames stand behind the fixed part of the event. -/
theorem framesOffset_bounds (w : Width) : 184 ≤ framesOffset w ∧ framesOffset w ≤ 192 := by
  have h := w.bytes_pos
  unfold framesOffset
  omega

theorem EventArgs.baseSize_bounds (a : EventArgs w) : 192 ≤ a.baseSize ∧ a.baseSize ≤ 448 := by
  have h := framesOffset_bounds w
  have hn := a.length_frames
  unfold baseSize
  omega

/-! ## Stored events -/

/-- A counted string: the field holds its offset, followed by its length. -/
structure StringAt (m : Mem) (event field size : Nat) (chars : List (BitVec 16)) : Prop where
  length : load 2 m (event + field + 2) = 2 * chars.length
  inside : load 2 m (event + field) + 2 * chars.length ≤ size
  chars  : loadArray 2 m (event + load 2 m (event + field)) chars.length = chars.map BitVec.toNat

/-- The stack trace of an event. -/
structure TraceAt (m : Mem) (event : Nat) (a : EventArgs w) : Prop where
  frameCount     : load 4 m (event + stackTraceOffset) = a.frames.length
  getInformation : a.frames ≠ [] → load w.bytes m (event + getInformationOffset w) = 0
  frames         : loadArray 8 m (event + framesOffset w) a.frames.length = a.frames.map BitVec.toNat

/-- The part of an event that depends on its type. -/
def InfoAt (m : Mem) (event : Nat) (a : EventArgs w) : Prop :=
  match a.type with
  | .failedAssertion =>
    load 4 m (event + 24) = a.line.toNat ∧ StringAt m event 16 a.size (charsOf a.file) ∧
      StringAt m event 20 a.size (charsOf a.routine) ∧ StringAt m event 28 a.size (charsOf a.expression)
  | .uncaughtException =>
    match a.exceptionRecord with
    | some r => load 4 m (event + 16) = exceptionRecordTag w ∧ ExceptionRecord.load w m (event + 24) = r
    | none   => load 4 m (event + 16) = exceptionRecordNone
  | .inconclusiveness
  | .log => StringAt m event 16 a.size (charsOf a.message)

/-- The event at the address was written for these arguments. -/
structure Stored (m : Mem) (event : Nat) (a : EventArgs w) : Prop where
  type         : load 2 m event = eventTypeCode a.type
  size         : load 2 m (event + 2) = a.size
  threadId     : load 4 m (event + 4) = a.currentThreadId.toNat
  mainThreadId : load 4 m (event + 8) = a.mainThreadId.toNat
  info         : InfoAt m event a
  trace        : TraceAt m event a

/-! ## Stored events depend on their own bytes only -/

theorem StringAt.congr {m m' : Mem} {event event' field size : Nat} {chars : List (BitVec 16)}
    (h : StringAt m event field size chars) (hfield : field + 4 ≤ size)
    (hsame : Same m event m' event' size) : StringAt m' event' field size chars := by
  obtain ⟨hlength, hinside, hchars⟩ := h
  have hlen : load 2 m (event + field + 2) = load 2 m' (event' + field + 2) :=
    (hsame.mono (by omega) (by omega) (by omega)).load_eq
  have hoff : load 2 m (event + field) = load 2 m' (event' + field) :=
    (hsame.mono (by omega) (by omega) (by omega)).load_eq
  have harray : loadArray 2 m (event + load 2 m (event + field)) chars.length
      = loadArray 2 m' (event' + load 2 m (event + field)) chars.length :=
    (hsame.mono (by omega) (by omega) (by omega)).loadArray_eq
  rw [hlen] at hlength
  rw [harray, hoff] at hchars
  rw [hoff] at hinside
  exact ⟨hlength, hinside, hchars⟩

theorem TraceAt.congr {m m' : Mem} {event event' : Nat} {a : EventArgs w} (h : TraceAt m event a)
    (hsame : Same m (event + stackTraceOffset) m' (event' + stackTraceOffset) (a.baseSize - stackTraceOffset)) :
    TraceAt m' event' a := by
  obtain ⟨hcount, hpointer, hframes⟩ := h
  have hw := w.bytes_pos
  have hlow := a.le_baseSize
  have hhigh := a.frames_le_baseSize
  unfold framesOffset stackTraceOffset getInformationOffset at *
  have h1 : load 4 m (event + 176) = load 4 m' (event' + 176) :=
    (hsame.mono (by omega) (by omega) (by omega)).load_eq
  have h2 : load w.bytes m (event + (176 + w.bytes)) = load w.bytes m' (event' + (176 + w.bytes)) :=
    (hsame.mono (by omega) (by omega) (by omega)).load_eq
  have h3 : loadArray 8 m (event + (176 + 2 * w.bytes)) a.frames.length
      = loadArray 8 m' (event' + (176 + 2 * w.bytes)) a.frames.length :=
    (hsame.mono (by omega) (by omega) (by omega)).loadArray_eq
  exact ⟨h1 ▸ hcount, fun hne => h2 ▸ hpointer hne, h3 ▸ hframes⟩

theorem InfoAt.congr {m m' : Mem} {event event' : Nat} {a : EventArgs w} (h : InfoAt m event a)
    (hsame : Same m event m' event' a.size) : InfoAt m' event' a := by
  have hbase := a.baseSize_bounds
  have hsize := a.le_size
  have hload {n f : Nat} (hf : f + n ≤ 192) : load n m (event + f) = load n m' (event' + f) :=
    (hsame.mono (by omega) (by omega) (by omega)).load_eq
  unfold InfoAt at *
  cases htype : a.type with
  | failedAssertion =>
      simp only [htype] at h ⊢
      obtain ⟨hline, hfile, hroutine, hexpression⟩ := h
      rw [hload (by decide)] at hline
      exact ⟨hline, hfile.congr (by omega) hsame, hroutine.congr (by omega) hsame,
        hexpression.congr (by omega) hsame⟩
  | uncaughtException =>
      simp only [htype] at h ⊢
      cases hrecord : a.exceptionRecord with
      | none =>
          simp only [hrecord] at h ⊢
          rwa [hload (by decide)] at h
      | some r =>
          simp only [hrecord] at h ⊢
          obtain ⟨htag, hr⟩ := h
          have hsz : 24 + sizeofExceptionRecord w ≤ 192 := by
            cases w with
            | w32 => decide
            | w64 => decide
          rw [hload (by decide)] at htag
          have hload' : ExceptionRecord.load w m (event + 24) = ExceptionRecord.load w m' (event' + 24) :=
            ExceptionRecord.load_congr (hsame.mono (by omega) (by omega) (by omega))
          exact ⟨htag, hload' ▸ hr⟩
  | inconclusiveness =>
      simp only [htype] at h ⊢
      exact h.congr (by omega) hsame
  | log =>
      simp only [htype] at h ⊢
      exact h.congr (by omega) hsame

theorem Stored.congr {m m' : Mem} {event event' : Nat} {a : EventArgs w} (h : Stored m event a)
    (hsame : Same m event m' event' a.size) : Stored m' event' a := by
  have hbase := a.baseSize_bounds
  have hsize := a.le_size
  have hload {n f : Nat} (hf : f + n ≤ 192) : load n m (event + f) = load n m' (event' + f) :=
    (hsame.mono (by omega) (by omega) (by omega)).load_eq
  constructor
  · exact (hload (f := 0) (by decide)).symm.trans h.type
  · exact (hload (by decide)).symm.trans h.size
  · exact (hload (by decide)).symm.trans h.threadId
  · exact (hload (by decide)).symm.trans h.mainThreadId
  · exact h.info.congr hsame
  · refine h.trace.congr (hsame.mono (by omega) ?_ (by omega))
    unfold stackTraceOffset
    omega

/-- **Events as records.** -/
def eventLayout (w : Width) : Layout (EventArgs w) where
  size   := EventArgs.size
  Stored := Stored
  local_ := Stored.congr

/-! ## What the stack trace leaves -/

theorem captureStackTrace_of_frames (a : EventArgs w) (m : Mem) (event : Nat) (hc : a.callerContext = false) :
    captureStackTrace a m event cfixkrpMaxStackframes =
      some (storeArray 8 (store 4 (store w.bytes m (event + getInformationOffset w) 0)
        (event + stackTraceOffset) a.frames.length) (event + framesOffset w) (a.frames.map BitVec.toNat)) := by
  have hframes : rtlWalkFrameChain a.stack (min cfixkrpMaxStackframes 64) = a.frames := by
    unfold EventArgs.frames rtlWalkFrameChain
    rw [hc]
    rfl
  unfold captureStackTrace
  rw [hc, hframes]
  rfl

/-- Capturing the stack trace gives the base size, writes the trace and changes nothing else. -/
theorem writeStackTrace_spec (a : EventArgs w) (m : Mem) (event : Nat) :
    (writeStackTrace a m event).2 = a.baseSize ∧ TraceAt (writeStackTrace a m event).1 event a ∧
      ∀ x, x < event + stackTraceOffset ∨ event + a.baseSize ≤ x → (writeStackTrace a m event).1 x = m x := by
  have hw := w.bytes_pos
  have hn := a.length_frames
  have hlow := a.le_baseSize
  have hhigh := a.frames_le_baseSize
  unfold framesOffset at hlow hhigh
  -- without frames, only the count is set
  have hnone (m : Mem) (hnil : a.frames = []) : TraceAt (store 4 m (event + stackTraceOffset) 0) event a := by
    constructor
    · rw [load_store, hnil]
      rfl
    · exact fun hne => absurd hnil hne
    · rw [hnil]
      rfl
  have hbase (hnil : a.frames = []) : sizeofExecutionEvent w = a.baseSize := by
    unfold sizeofExecutionEvent EventArgs.baseSize
    rw [hnil]
    rfl
  cases hc : a.callerContext with
  | true =>
      -- the stack is not walked in a caller's context
      have hnil : a.frames = [] := by
        unfold EventArgs.frames
        rw [hc]
        rfl
      unfold writeStackTrace captureStackTrace
      rw [hc]
      refine ⟨hbase hnil, hnone m hnil, ?_⟩
      intro x hx
      exact store_outside 4 m 0 (by unfold stackTraceOffset at *; omega)
  | false =>
      unfold writeStackTrace
      rw [captureStackTrace_of_frames a m event hc]
      simp only
      -- the count is read back, below the frames that are stored behind it
      have hcount : load 4 (storeArray 8 (store 4 (store w.bytes m (event + getInformationOffset w) 0)
          (event + stackTraceOffset) a.frames.length) (event + framesOffset w) (a.frames.map BitVec.toNat))
          (event + stackTraceOffset) = a.frames.length := by
        rw [load_storeArray_disjoint _ _ _ (by unfold stackTraceOffset framesOffset; omega), load_store]
        omega
      rw [hcount]
      have houtside (x : Nat) (hx : x < event + stackTraceOffset ∨ event + a.baseSize ≤ x) :
          storeArray 8 (store 4 (store w.bytes m (event + getInformationOffset w) 0)
            (event + stackTraceOffset) a.frames.length) (event + framesOffset w)
            (a.frames.map BitVec.toNat) x = m x := by
        unfold stackTraceOffset getInformationOffset framesOffset at *
        rw [storeArray_outside _ _ (by rw [List.length_map]; omega), store_outside _ _ _ (by omega),
          store_outside _ _ _ (by omega)]
      by_cases hpos : a.frames.length > 0
      · rw [if_pos hpos]
        refine ⟨?_, ⟨hcount, ?_, ?_⟩, houtside⟩
        · unfold EventArgs.baseSize
          omega
        · intro _
          rw [load_storeArray_disjoint _ _ _ (by unfold getInformationOffset framesOffset; omega),
            load_store_disjoint _ _ _ _ (by unfold getInformationOffset stackTraceOffset; omega), load_store]
          exact Nat.zero_mod _
        · have h := loadArray_storeArray 8 (store 4 (store w.bytes m (event + getInformationOffset w) 0)
            (event + stackTraceOffset) a.frames.length) (event + framesOffset w) (a.frames.map BitVec.toNat)
          rw [List.length_map, List.map_map] at h
          rw [h]
          apply List.map_congr_left
          intro v _
          exact Nat.mod_eq_of_lt v.isLt
      · have hnil : a.frames = [] := List.length_eq_zero_iff.mp (by omega)
        rw [if_neg hpos]
        refine ⟨hbase hnil, hnone _ hnil, ?_⟩
        intro x hx
        show store 4 _ _ 0 x = m x
        rw [store_outside 4 _ 0 (by unfold stackTraceOffset at *; omega)]
        exact houtside x hx

/-! ## What the strings leave -/

/-- The cursor stands `offset` bytes behind the start of the event. -/
def Cursor.At (c : Cursor) (event offset : Nat) : Prop :=
  c.offset = offset ∧ c.stringsPointer = event + offset

/-- What is known of a memory after one string was copied to it. -/
structure Copied (m m' : Mem) (event field offset : Nat) (s : List (BitVec 16)) : Prop where
  start   : load 2 m' (event + field) = if s = [] then 0 else offset
  chars   : loadArray 2 m' (event + offset) s.length = s.map BitVec.toNat
  outside : ∀ x, x < event + field ∨ event + field + 2 ≤ x →
    x < event + offset ∨ event + offset + 2 * s.length ≤ x → m' x = m x

/-- Copying a string writes its offset and its characters, moves the cursor and changes nothing else. -/
theorem copyString_spec (m : Mem) (field : Nat) {event offset : Nat} {c : Cursor} (s : List (BitVec 16))
    (hc : c.At event offset) (hfield : field + 2 ≤ offset) (hfits : offset + 2 * s.length ≤ maxUshort) :
    (copyString m (event + field) c s).2.At event (offset + 2 * s.length) ∧
      Copied m (copyString m (event + field) c s).1 event field offset s := by
  obtain ⟨hoffset, hpointer⟩ := hc
  unfold maxUshort at hfits
  unfold copyString
  by_cases hlen : 2 * s.length = 0
  · -- an empty string has the offset 0 and does not move the cursor
    have hnil : s = [] := List.length_eq_zero_iff.mp (by omega)
    rw [if_pos hlen, hnil]
    refine ⟨⟨hoffset, hpointer⟩, ?_, rfl, ?_⟩
    · rw [load_store]
      rfl
    · exact fun x hx _ => store_outside 2 m 0 hx
  · have hne : s ≠ [] := fun hnil => hlen (by rw [hnil]; rfl)
    rw [if_neg hlen]
    simp only [hoffset, hpointer]
    refine ⟨⟨?_, ?_⟩, ?_, ?_, ?_⟩
    · show (offset + 2 * s.length % 2 ^ 16) % 2 ^ 16 = _
      omega
    · show event + offset + 2 * s.length = _
      omega
    · rw [load_storeArray_disjoint _ _ _ (by omega), load_store, if_neg hne]
      exact Nat.mod_eq_of_lt (by omega)
    · have h := loadArray_storeArray 2 (store 2 m (event + field) offset) (event + offset)
        (s.map BitVec.toNat)
      rw [List.length_map, List.map_map] at h
      rw [h]
      apply List.map_congr_left
      intro v _
      exact Nat.mod_eq_of_lt v.isLt
    · intro x hx hx'
      show storeArray 2 _ _ _ x = m x
      rw [storeArray_outside _ _ (by rw [List.length_map]; omega), store_outside _ _ _ (by omega)]

theorem Copied.agree {m m' : Mem} {event field offset b k : Nat} {s : List (BitVec 16)}
    (h : Copied m m' event field offset s) (hfield : b + k ≤ event + field ∨ event + field + 2 ≤ b)
    (hstring : b + k ≤ event + offset ∨ event + offset + 2 * s.length ≤ b) : Agree m m' b k :=
  fun x hb hk => (h.outside x (by omega) (by omega)).symm

/-- A copied string whose bytes stay as they are is a counted string, given its length. -/
theorem Copied.stringAt {m m' m'' : Mem} {event field offset size : Nat} {s : List (BitVec 16)}
    (h : Copied m m' event field offset s) (hlength : load 2 m'' (event + field + 2) = 2 * s.length)
    (hfield : Agree m' m'' (event + field) 2) (hstring : Agree m' m'' (event + offset) (2 * s.length))
    (hsize : offset + 2 * s.length ≤ size) : StringAt m'' event field size s := by
  obtain ⟨hoffset, hchars, -⟩ := h
  rw [hfield.load_eq] at hoffset
  rw [hstring.loadArray_eq] at hchars
  cases s with
  | nil =>
      rw [if_pos rfl] at hoffset
      exact ⟨hlength, by rw [hoffset]; exact Nat.zero_le size, rfl⟩
  | cons x xs =>
      rw [if_neg (List.cons_ne_nil x xs)] at hoffset
      exact ⟨hlength, by rw [hoffset]; exact hsize, by rw [hoffset]; exact hchars⟩

/-! ## What the fixed part leaves -/

/-- The message of an event, whose length stands behind its offset. -/
theorem writeMessage_spec (m : Mem) {event offset size : Nat} (s : List (BitVec 16)) (hoffset : 192 ≤ offset)
    (hfits : offset + 2 * s.length ≤ maxUshort) (hsize : offset + 2 * s.length ≤ size) :
    let m' := (copyString (store 2 m (event + 18) (2 * s.length)) (event + 16) ⟨offset, event + offset⟩ s).1
    StringAt m' event 16 size s ∧
      ∀ x, x < event + 16 ∨ event + 176 ≤ x → x < event + offset ∨ event + size ≤ x → m' x = m x := by
  obtain ⟨-, hcopied⟩ := copyString_spec (store 2 m (event + 18) (2 * s.length)) 16 s
    (show Cursor.At ⟨offset, event + offset⟩ event offset from ⟨rfl, rfl⟩) (by omega) hfits
  unfold maxUshort at hfits
  constructor
  · refine hcopied.stringAt ?_ (Agree.refl _ _ _) (Agree.refl _ _ _) hsize
    rw [← (hcopied.agree (by omega) (by omega)).load_eq, load_store]
    omega
  · intro x hx hx'
    rw [hcopied.outside x (by omega) (by omega)]
    exact store_outside 2 m _ (by omega)

/-- The three strings of a failed assertion, copied one behind the other. -/
theorem writeStrings_spec (m : Mem) (event offset size : Nat) (file routine expression : List (BitVec 16))
    (hfile : load 2 m (event + 18) = 2 * file.length)
    (hroutine : load 2 m (event + 22) = 2 * routine.length)
    (hexpression : load 2 m (event + 30) = 2 * expression.length) (hoffset : 192 ≤ offset)
    (hfits : offset + 2 * file.length + 2 * routine.length + 2 * expression.length ≤ maxUshort)
    (hsize : offset + 2 * file.length + 2 * routine.length + 2 * expression.length ≤ size) :
    let r  := copyString m (event + 16) ⟨offset, event + offset⟩ file
    let r' := copyString r.1 (event + 20) r.2 routine
    let m' := (copyString r'.1 (event + 28) r'.2 expression).1
    (StringAt m' event 16 size file ∧ StringAt m' event 20 size routine ∧ StringAt m' event 28 size expression) ∧
      Agree m m' (event + 24) 4 ∧
      ∀ x, x < event + 16 ∨ event + 176 ≤ x → x < event + offset ∨ event + size ≤ x → m' x = m x := by
  intro r r' m'
  obtain ⟨hc, h1⟩ := copyString_spec m 16 file
    (show Cursor.At ⟨offset, event + offset⟩ event offset from ⟨rfl, rfl⟩) (by omega) (by omega)
  obtain ⟨hc', h2⟩ := copyString_spec r.1 20 routine hc (by omega) (by omega)
  obtain ⟨-, h3⟩ := copyString_spec r'.1 28 expression hc' (by omega) (by omega)
  -- each string survives the copies after it: their fields and characters are elsewhere
  refine ⟨⟨?_, ?_, ?_⟩, ?_, ?_⟩
  · refine h1.stringAt ?_ ?_ ?_ (by omega)
    · rw [← (h3.agree (by omega) (by omega)).load_eq, ← (h2.agree (by omega) (by omega)).load_eq,
        ← (h1.agree (by omega) (by omega)).load_eq]
      exact hfile
    · exact (h2.agree (by omega) (by omega)).trans (h3.agree (by omega) (by omega))
    · exact (h2.agree (by omega) (by omega)).trans (h3.agree (by omega) (by omega))
  · refine h2.stringAt ?_ (h3.agree (by omega) (by omega)) (h3.agree (by omega) (by omega)) (by omega)
    rw [← (h3.agree (by omega) (by omega)).load_eq, ← (h2.agree (by omega) (by omega)).load_eq,
      ← (h1.agree (by omega) (by omega)).load_eq]
    exact hroutine
  · refine h3.stringAt ?_ (Agree.refl _ _ _) (Agree.refl _ _ _) (by omega)
    rw [← (h3.agree (by omega) (by omega)).load_eq, ← (h2.agree (by omega) (by omega)).load_eq,
      ← (h1.agree (by omega) (by omega)).load_eq]
    exact hexpression
  · exact ((h1.agree (by omega) (by omega)).trans (h2.agree (by omega) (by omega))).trans
      (h3.agree (by omega) (by omega))
  · intro x hx hx'
    calc m' x = r'.1 x := h3.outside x (by omega) (by omega)
      _ = r.1 x := h2.outside x (by omega) (by omega)
      _ = m x := h1.outside x (by omega) (by omega)

/-- Writing `Info` leaves the information of the event and changes nothing outside of it and the strings. -/
theorem writeInfo_spec (a : EventArgs w) (m : Mem) (event : Nat)
    (hfits : a.baseSize + 2 * a.charCount ≤ maxUshort) :
    InfoAt (writeInfo a m event a.baseSize) event a ∧
      ∀ x, x < event + 16 ∨ event + stackTraceOffset ≤ x →
        x < event + a.baseSize ∨ event + a.size ≤ x → writeInfo a m event a.baseSize x = m x := by
  have hbase := a.baseSize_bounds
  have hsize := a.le_size
  have hcount : a.charCount = (charsOf a.expression).length + (charsOf a.file).length
    + (charsOf a.message).length + (charsOf a.routine).length := rfl
  unfold maxUshort at hfits
  have hmod : a.baseSize % 2 ^ 16 = a.baseSize := by omega
  have hstart : Cursor.At ⟨a.baseSize, event + a.baseSize⟩ event a.baseSize := ⟨rfl, rfl⟩
  unfold writeInfo InfoAt stackTraceOffset
  rw [hmod]
  cases htype : a.type with
  | failedAssertion =>
      simp only
      -- the line and the lengths are stored before the strings are copied
      obtain ⟨hstrings, hline, houtside⟩ := writeStrings_spec (store 2 (store 2 (store 2 (store 4 m
          (event + 24) a.line.toNat) (event + 18) (2 * (charsOf a.file).length))
          (event + 22) (2 * (charsOf a.routine).length)) (event + 30) (2 * (charsOf a.expression).length))
        event a.baseSize a.size (charsOf a.file) (charsOf a.routine) (charsOf a.expression)
        (by simp (disch := omega) only [load_store_disjoint, load_store]; omega)
        (by simp (disch := omega) only [load_store_disjoint, load_store]; omega)
        (by simp (disch := omega) only [load_store]; omega)
        hbase.1 (by unfold maxUshort; omega) (by omega)
      refine ⟨⟨?_, hstrings⟩, ?_⟩
      · rw [← hline.load_eq]
        simp (disch := omega) only [load_store_disjoint, load_store]
        exact Nat.mod_eq_of_lt a.line.isLt
      · intro x hx hx'
        rw [houtside x hx hx']
        simp (disch := omega) only [store_outside]
  | uncaughtException =>
      simp only
      cases hrecord : a.exceptionRecord with
      | none =>
          simp only
          refine ⟨load_store 4 m _ _, ?_⟩
          exact fun x hx _ => store_outside 4 m _ (by omega)
      | some r =>
          simp only
          have hsz : 24 + sizeofExceptionRecord w ≤ 176 := by
            cases w with
            | w32 => decide
            | w64 => decide
          refine ⟨⟨?_, r.load_store _ _⟩, ?_⟩
          · have hagree : Agree (r.store (store 4 m (event + 16) (exceptionRecordTag w)) (event + 24))
                (store 4 m (event + 16) (exceptionRecordTag w)) (event + 16) 4 :=
              fun x _ hx => r.store_outside _ (by omega)
            rw [hagree.load_eq, load_store]
            cases w with
            | w32 => rfl
            | w64 => rfl
          · intro x hx _
            rw [r.store_outside _ (by omega), store_outside 4 m _ (by omega)]
  | inconclusiveness =>
      exact writeMessage_spec m (charsOf a.message) hbase.1 (by unfold maxUshort; omega) (by omega)
  | log =>
      exact writeMessage_spec m (charsOf a.message) hbase.1 (by unfold maxUshort; omega) (by omega)

/-- **A written event is stored.** With the stack trace already in place, writing the rest of an event
    makes it a stored event and changes no byte outside of it. -/
theorem writeEvent_spec (a : EventArgs w) {m : Mem} {event : Nat} (htrace : TraceAt m event a)
    (hfits : a.size ≤ maxUshort) :
    Stored (writeEvent a m event a.baseSize a.size) event a ∧
      ∀ x, x < event ∨ event + a.size ≤ x → writeEvent a m event a.baseSize a.size x = m x := by
  have hbase := a.baseSize_bounds
  have hsize := a.le_size
  unfold writeEvent
  obtain ⟨hinfo, houtside⟩ := writeInfo_spec a (store 4 (store 4 (store 2 (store 2 m event
    (eventTypeCode a.type)) (event + 2) a.size) (event + 8) a.mainThreadId.toNat) (event + 4)
    a.currentThreadId.toNat) event (by omega)
  unfold stackTraceOffset at houtside
  unfold maxUshort at hfits
  -- what is written after the header does not reach it
  have hheader {b k : Nat} (hb : b + k ≤ event + 16) : Agree (writeInfo a _ event a.baseSize) _ b k :=
    fun x _ hx => houtside x (by omega) (by omega)
  refine ⟨⟨?_, ?_, ?_, ?_, hinfo, ?_⟩, ?_⟩
  · rw [(hheader (by omega)).load_eq]
    simp (disch := omega) only [load_store_disjoint, load_store]
    cases a.type with
    | failedAssertion => rfl
    | uncaughtException => rfl
    | inconclusiveness => rfl
    | log => rfl
  · rw [(hheader (by omega)).load_eq]
    simp (disch := omega) only [load_store_disjoint, load_store]
    omega
  · rw [(hheader (by omega)).load_eq, load_store]
    exact Nat.mod_eq_of_lt a.currentThreadId.isLt
  · rw [(hheader (by omega)).load_eq]
    simp (disch := omega) only [load_store_disjoint, load_store]
    exact Nat.mod_eq_of_lt a.mainThreadId.isLt
  · apply htrace.congr
    apply Agree.same
    unfold stackTraceOffset
    intro x hx hx'
    rw [houtside x (by omega) (by omega)]
    simp (disch := omega) only [store_outside]
  · intro x hx
    rw [houtside x (by omega) (by omega)]
    simp (disch := omega) only [store_outside]

end Cfix.Events
