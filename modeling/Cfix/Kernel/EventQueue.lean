import Cfix.Kernel.EventStored

/-!
# `Kernel.EventQueue` — the buffer as a queue of events

What the buffer is for: it is the list of the events committed so far. `Holds` relates a channel to that
list, and a call of `CfixkrsQueueEvent` either appends its event to the list (`queueEvent_committed`) or
leaves the list as it is (`queueEvent_rejected`); which of the two is decided by the arguments and the room
left (`Commits`).
-/

namespace Cfix.Events

open Memory

variable {w : Width}

/-! ## When an event is committed -/

/-- The space that is left. -/
def Channel.room (c : Channel) : Nat := c.bufferSize - c.bufferLength

/-- The event passes all checks. -/
structure Commits (c : Channel) (a : EventArgs w) : Prop where
  trace : sizeofThroughFrames w ≤ c.room
  short : a.Short
  room  : a.size ≤ c.room
  size  : a.size ≤ maxUshort

/-- The event is rejected by one of the checks that set `BufferTruncated`. -/
def Truncates (c : Channel) (a : EventArgs w) : Prop :=
  c.room < sizeofThroughFrames w ∨ (a.Short ∧ c.room < a.size)

/-- The events of the run that the code counts, in the order of their commits. -/
def committed (c : Channel) : List (EventArgs w) → List (EventArgs w)
  | []      => []
  | a :: as =>
    if (queueEvent c a).eventCount = c.eventCount + 1 then a :: committed (queueEvent c a) as
    else committed (queueEvent c a) as

/-- The events of a run that pass all checks when their turn comes. -/
inductive Passing : Channel → List (EventArgs w) → List (EventArgs w) → Prop where
  | nil (c) : Passing c [] []
  | commits {c a as es} (ha : Commits c a) (h : Passing (queueEvent c a) as es) : Passing c (a :: as) (a :: es)
  | rejected {c a as es} (ha : ¬ Commits c a) (h : Passing (queueEvent c a) as es) : Passing c (a :: as) es

/-- **The channel holds the events.** -/
structure Channel.Holds (c : Channel) (es : List (EventArgs w)) : Prop where
  chain  : (eventLayout w).Chain c.memory c.buffer es
  length : c.bufferLength = (eventLayout w).total es
  count  : c.eventCount = es.length
  inside : c.bufferLength ≤ c.bufferSize
  size   : c.bufferSize < 2 ^ 32

/-- What a call may change: nothing that is committed, nothing outside of the buffer. -/
structure Channel.Frame (c c' : Channel) : Prop where
  buffer     : c'.buffer = c.buffer
  bufferSize : c'.bufferSize = c.bufferSize
  outside    : ∀ x, x < c.buffer + c.bufferLength ∨ c.buffer + c.bufferSize ≤ x → c'.memory x = c.memory x

/-! ## The checks -/

theorem ulongSub_of_le {x y : Nat} (hle : y ≤ x) (hlt : x < 2 ^ 32) : ulongSub x y = x - y := by
  unfold ulongSub
  omega

/-- The length of a string is found if it is not too long. -/
theorem lengthCb_eq (s : Option Wstr) :
    lengthCb s = if (charsOf s).length < 32767 then some (2 * (charsOf s).length) else none := by
  cases s with
  | none => rfl
  | some s => rfl

theorem lengthCb_of_lt {s : Option Wstr} (h : (charsOf s).length < 32767) :
    lengthCb s = some (2 * (charsOf s).length) := by
  rw [lengthCb_eq, if_pos h]

/-- One string that is too long leaves the lengths undetermined. -/
theorem lengths_of_not_short {a : EventArgs w} (h : ¬ a.Short) :
    lengthCb a.file = none ∨ lengthCb a.routine = none ∨ lengthCb a.message = none ∨
      lengthCb a.expression = none := by
  have hlong (s : Option Wstr) (hs : ¬ (charsOf s).length < 32767) : lengthCb s = none := by
    rw [lengthCb_eq, if_neg hs]
  by_cases hf : (charsOf a.file).length < 32767
  · by_cases hr : (charsOf a.routine).length < 32767
    · by_cases hm : (charsOf a.message).length < 32767
      · exact Or.inr (Or.inr (Or.inr (hlong _ fun he => h ⟨hf, hr, hm, he⟩)))
      · exact Or.inr (Or.inr (Or.inl (hlong _ hm)))
    · exact Or.inr (Or.inl (hlong _ hr))
  · exact Or.inl (hlong _ hf)

/-- The total size does not wrap. -/
theorem structureTotalSize_eq {a : EventArgs w} (h : a.Short) :
    structureTotalSize a.baseSize (2 * (charsOf a.expression).length) (2 * (charsOf a.file).length)
      (2 * (charsOf a.message).length) (2 * (charsOf a.routine).length) = a.size := by
  obtain ⟨hf, hr, hm, he⟩ := h
  have hbase := a.baseSize_bounds
  unfold structureTotalSize EventArgs.size EventArgs.charCount
  omega

/-! ## One call -/

/-- A call for an event with short strings, once there is room for the stack trace. -/
theorem queueEvent_short {c : Channel} {a : EventArgs w} (hle : c.bufferLength ≤ c.bufferSize)
    (hlt : c.bufferSize < 2 ^ 32) (hroom : sizeofThroughFrames w ≤ c.room) (hshort : a.Short) :
    queueEvent c a =
      let m := (writeStackTrace a c.memory (c.buffer + c.bufferLength)).1
      if c.room < a.size then { c with memory := m, bufferTruncated := true }
      else if a.size > maxUshort then { c with memory := m }
      else
        { c with
          memory       := writeEvent a m (c.buffer + c.bufferLength) a.baseSize a.size
          bufferLength := (c.bufferLength + a.size) % 2 ^ 32
          eventCount   := (c.eventCount + 1) % 2 ^ 32 } := by
  have hsub : ulongSub c.bufferSize c.bufferLength = c.room := ulongSub_of_le hle hlt
  obtain ⟨hbase, -⟩ := writeStackTrace_spec a c.memory (c.buffer + c.bufferLength)
  unfold queueEvent
  rw [hsub, if_neg (Nat.not_lt.mpr hroom)]
  simp only [lengthCb_of_lt hshort.file, lengthCb_of_lt hshort.routine, lengthCb_of_lt hshort.message,
    lengthCb_of_lt hshort.expression, hbase, structureTotalSize_eq hshort]

/-- Every event takes at least its fixed part. -/
theorem mul_length_le_events (es : List (EventArgs w)) : 192 * es.length ≤ (eventLayout w).total es := by
  apply Layout.mul_length_le_total
  intro e _
  exact Nat.le_trans e.baseSize_bounds.1 (Nat.le_trans (Nat.le_add_right _ _) e.le_size)

/-- **An event that passes the checks is appended.** -/
theorem queueEvent_committed {c : Channel} {es : List (EventArgs w)} {a : EventArgs w} (h : c.Holds es)
    (hc : Commits c a) :
    (queueEvent c a).Holds (es ++ [a]) ∧ c.Frame (queueEvent c a) ∧
      (queueEvent c a).eventCount = c.eventCount + 1 ∧
      (queueEvent c a).bufferTruncated = c.bufferTruncated := by
  obtain ⟨hchain, hlength, hcount, hinside, hsize⟩ := h
  obtain ⟨htrace, hshort, hroom, hushort⟩ := hc
  obtain ⟨-, htraceAt, hkeep⟩ := writeStackTrace_spec a c.memory (c.buffer + c.bufferLength)
  obtain ⟨hstored, hkeep'⟩ := writeEvent_spec a htraceAt hushort
  have hbase := a.baseSize_bounds
  have hle := a.le_size
  rw [queueEvent_short hinside hsize htrace hshort]
  simp only
  rw [if_neg (Nat.not_lt.mpr hroom), if_neg (Nat.not_lt.mpr hushort)]
  unfold Channel.room at hroom
  have hcountBound := mul_length_le_events es
  -- neither sum wraps: the event fits, and every event takes 192 bytes of a buffer below 2^32
  have hlen : (c.bufferLength + a.size) % 2 ^ 32 = c.bufferLength + a.size := by omega
  have hcnt : (c.eventCount + 1) % 2 ^ 32 = c.eventCount + 1 := by omega
  have houtside (x : Nat) (hx : x < c.buffer + c.bufferLength ∨ c.buffer + c.bufferLength + a.size ≤ x) :
      writeEvent a (writeStackTrace a c.memory (c.buffer + c.bufferLength)).1 (c.buffer + c.bufferLength)
        a.baseSize a.size x = c.memory x := by
    rw [hkeep' x hx]
    exact hkeep x (by unfold stackTraceOffset; omega)
  refine ⟨⟨?_, ?_, ?_, ?_, hsize⟩, ⟨rfl, rfl, ?_⟩, hcnt, rfl⟩
  · refine Layout.Chain.snoc (hchain.congr (Agree.same ?_)) ?_
    · rw [← hlength]
      exact fun x _ hx => (houtside x (Or.inl hx)).symm
    · rw [← hlength]
      exact hstored
  · show (c.bufferLength + a.size) % 2 ^ 32 = _
    rw [hlen, hlength, Layout.total_append, Layout.total_cons, Layout.total_nil]
    rfl
  · show (c.eventCount + 1) % 2 ^ 32 = _
    rw [hcnt, hcount, List.length_append]
    rfl
  · show (c.bufferLength + a.size) % 2 ^ 32 ≤ c.bufferSize
    omega
  · exact fun x hx => houtside x (by omega)

/-- A rejected event leaves everything but unused bytes and the flag as it is; the flag is set by the
    checks for room. -/
theorem queueEvent_rejected {c : Channel} {a : EventArgs w} (hinside : c.bufferLength ≤ c.bufferSize)
    (hsize : c.bufferSize < 2 ^ 32) (hc : ¬ Commits c a) :
    ∃ m t, queueEvent c a = { c with memory := m, bufferTruncated := t } ∧
      (t = true ↔ c.bufferTruncated = true ∨ Truncates c a) ∧
      ∀ x, x < c.buffer + c.bufferLength ∨ c.buffer + c.bufferSize ≤ x → m x = c.memory x := by
  obtain ⟨-, -, hkeep⟩ := writeStackTrace_spec a c.memory (c.buffer + c.bufferLength)
  have hbase := a.baseSize_le
  have hsub : ulongSub c.bufferSize c.bufferLength = c.room := ulongSub_of_le hinside hsize
  unfold stackTraceOffset at hkeep
  by_cases htrace : sizeofThroughFrames w ≤ c.room
  · have hroomEq : c.room = c.bufferSize - c.bufferLength := rfl
    have houtside (x : Nat) (hx : x < c.buffer + c.bufferLength ∨ c.buffer + c.bufferSize ≤ x) :
        (writeStackTrace a c.memory (c.buffer + c.bufferLength)).1 x = c.memory x := hkeep x (by omega)
    by_cases hshort : a.Short
    · rw [queueEvent_short hinside hsize htrace hshort]
      simp only
      by_cases hroom : c.room < a.size
      · rw [if_pos hroom]
        refine ⟨_, true, rfl, ?_, houtside⟩
        exact iff_of_true rfl (Or.inr (Or.inr ⟨hshort, hroom⟩))
      · -- the only check left is that of the size, which does not raise the flag
        have hushort : a.size > maxUshort := by
          by_contra hle
          exact hc ⟨htrace, hshort, Nat.not_lt.mp hroom, Nat.not_lt.mp hle⟩
        rw [if_neg hroom, if_pos hushort]
        refine ⟨_, c.bufferTruncated, rfl, ?_, houtside⟩
        constructor
        · exact Or.inl
        · rintro (ht | ht | ⟨-, ht⟩)
          · exact ht
          · exact absurd htrace (Nat.not_le.mpr ht)
          · exact absurd ht hroom
    · -- a string is too long: the flag is not raised either
      have hlengths := lengths_of_not_short hshort
      refine ⟨(writeStackTrace a c.memory (c.buffer + c.bufferLength)).1, c.bufferTruncated, ?_, ?_, houtside⟩
      · unfold queueEvent
        rw [hsub, if_neg (Nat.not_lt.mpr htrace)]
        simp only
        split
        · rename_i hf hr hm he
          rw [hf, hr, hm, he] at hlengths
          simp at hlengths
        · rfl
      · constructor
        · exact Or.inl
        · rintro (ht | ht | ⟨ht, -⟩)
          · exact ht
          · exact absurd htrace (Nat.not_le.mpr ht)
          · exact absurd ht hshort
  · -- there is no room for the largest stack trace: nothing is written
    refine ⟨c.memory, true, ?_, iff_of_true rfl (Or.inr (Or.inl (Nat.not_le.mp htrace))), fun _ _ => rfl⟩
    unfold queueEvent
    rw [hsub, if_pos (Nat.not_le.mp htrace)]

/-- The count goes up exactly if the event passes the checks. -/
theorem eventCount_iff {c : Channel} {es : List (EventArgs w)} (a : EventArgs w) (h : c.Holds es) :
    (queueEvent c a).eventCount = c.eventCount + 1 ↔ Commits c a := by
  constructor
  · intro hcount
    by_contra hc
    obtain ⟨m, t, heq, -, -⟩ := queueEvent_rejected h.inside h.size hc
    rw [heq] at hcount
    exact Nat.succ_ne_self _ hcount.symm
  · intro hc
    exact (queueEvent_committed h hc).2.2.1

/-- A rejected event leaves the queue as it is. -/
theorem queueEvent_not_committed {c : Channel} {es : List (EventArgs w)} {a : EventArgs w} (h : c.Holds es)
    (hc : ¬ Commits c a) :
    (queueEvent c a).Holds es ∧ c.Frame (queueEvent c a) ∧
      (queueEvent c a).bufferLength = c.bufferLength ∧ (queueEvent c a).eventCount = c.eventCount := by
  obtain ⟨m, t, heq, -, houtside⟩ := queueEvent_rejected h.inside h.size hc
  rw [heq]
  refine ⟨⟨?_, h.length, h.count, h.inside, h.size⟩, ⟨rfl, rfl, houtside⟩, rfl, rfl⟩
  refine h.chain.congr (Agree.same ?_)
  rw [← h.length]
  exact fun x _ hx => (houtside x (Or.inl hx)).symm

/-! ## Runs -/

theorem Channel.Frame.refl (c : Channel) : c.Frame c := ⟨rfl, rfl, fun _ _ => rfl⟩

/-- Changes behind the end of the queue, one after the other, while the queue grows. -/
theorem Channel.Frame.trans {c c' c'' : Channel} (h : c.Frame c') (h' : c'.Frame c'')
    (hgrow : c.bufferLength ≤ c'.bufferLength) : c.Frame c'' := by
  obtain ⟨hb, hs, ho⟩ := h
  obtain ⟨hb', hs', ho'⟩ := h'
  refine ⟨hb'.trans hb, hs'.trans hs, ?_⟩
  intro x hx
  rw [ho' x (by omega), ho x hx]

/-- **One call, on the queue.** It appends its event or not, and keeps everything else. -/
theorem queueEvent_holds {c : Channel} {es : List (EventArgs w)} (a : EventArgs w) (h : c.Holds es) :
    (queueEvent c a).Holds (es ++ committed c [a]) ∧ c.Frame (queueEvent c a) ∧
      c.bufferLength ≤ (queueEvent c a).bufferLength := by
  unfold committed
  by_cases hc : Commits c a
  · obtain ⟨hholds, hframe, hcount, -⟩ := queueEvent_committed h hc
    rw [if_pos hcount]
    refine ⟨hholds, hframe, ?_⟩
    rw [h.length, hholds.length, Layout.total_append]
    exact Nat.le_add_right _ _
  · obtain ⟨hholds, hframe, hlength, hcount⟩ := queueEvent_not_committed h hc
    rw [if_neg (by omega)]
    refine ⟨?_, hframe, Nat.le_of_eq hlength.symm⟩
    show (queueEvent c a).Holds (es ++ [])
    rwa [List.append_nil]

theorem committed_cons (c : Channel) (a : EventArgs w) (as : List (EventArgs w)) :
    committed c (a :: as) = committed c [a] ++ committed (queueEvent c a) as := by
  rw [committed, committed]
  split
  · rfl
  · rfl

/-- **A run, on the queue.** The channel holds the events committed so far, in the order of their
    commits. -/
theorem queueEvents_holds {c : Channel} {es : List (EventArgs w)} (as : List (EventArgs w)) (h : c.Holds es) :
    (queueEvents c as).Holds (es ++ committed c as) ∧ c.Frame (queueEvents c as) ∧
      c.bufferLength ≤ (queueEvents c as).bufferLength := by
  induction as generalizing c es with
  | nil =>
      refine ⟨?_, Channel.Frame.refl c, Nat.le_refl _⟩
      show c.Holds (es ++ [])
      rwa [List.append_nil]
  | cons a as ih =>
      obtain ⟨hstep, hframe, hgrow⟩ := queueEvent_holds a h
      obtain ⟨hrun, hframe', hgrow'⟩ := ih hstep
      rw [committed_cons, ← List.append_assoc]
      exact ⟨hrun, hframe.trans hframe' hgrow, Nat.le_trans hgrow hgrow'⟩

/-- What is committed are the events that pass the checks. -/
theorem passing_committed {c : Channel} {es : List (EventArgs w)} (as : List (EventArgs w)) (h : c.Holds es) :
    Passing c as (committed c as) := by
  induction as generalizing c es with
  | nil => exact .nil c
  | cons a as ih =>
      have hrest := ih (queueEvent_holds a h).1
      have hcount := eventCount_iff a h
      unfold committed
      split
      · rename_i hcommitted
        exact .commits (hcount.mp hcommitted) hrest
      · rename_i hrejected
        exact .rejected (fun ha => hrejected (hcount.mpr ha)) hrest

theorem Passing.eq_of_commits {c : Channel} {a : EventArgs w} {es : List (EventArgs w)} (h : Passing c [a] es)
    (ha : Commits c a) : es = [a] := by
  cases h with
  | commits _ hrest =>
      cases hrest
      rfl
  | rejected hnot _ => exact absurd ha hnot

/-! ## What the queue looks like in memory -/

/-- The `Size` field of an event. -/
def sizeField (m : Mem) (event : Nat) : Nat := load 2 m (event + 2)

/-- The addresses of the events in the buffer, each found from the size of the one before. -/
def Channel.events (c : Channel) : List Nat :=
  Layout.positions (sizeField c.memory) c.eventCount c.buffer

/-- The offsets of the counted strings of an event, by the code of its type. -/
def stringFields : Nat → List Nat
  | 0 => [16, 20, 28]
  | 2 => [16]
  | 3 => [16]
  | _ => []

/-- Every string of the event lies inside of it. -/
def StringsInside (m : Mem) (event : Nat) : Prop :=
  ∀ field ∈ stringFields (load 2 m event),
    load 2 m (event + field) + load 2 m (event + field + 2) ≤ sizeField m event

theorem StringAt.inside_size {m : Mem} {event field size : Nat} {s : List (BitVec 16)}
    (h : StringAt m event field size s) :
    load 2 m (event + field) + load 2 m (event + field + 2) ≤ size := by
  rw [h.length]
  exact h.inside

/-- The strings of a stored event lie inside of it. -/
theorem Stored.stringsInside {m : Mem} {event : Nat} {a : EventArgs w} (h : Stored m event a) :
    StringsInside m event := by
  have hinfo := h.info
  unfold StringsInside sizeField
  unfold InfoAt at hinfo
  rw [h.type, h.size]
  intro field hfield
  cases htype : a.type with
  | failedAssertion =>
      rw [htype] at hinfo hfield
      obtain ⟨-, hfile, hroutine, hexpression⟩ := hinfo
      simp only [eventTypeCode, stringFields, List.mem_cons, List.not_mem_nil, or_false] at hfield
      rcases hfield with rfl | rfl | rfl
      · exact hfile.inside_size
      · exact hroutine.inside_size
      · exact hexpression.inside_size
  | uncaughtException =>
      rw [htype] at hfield
      simp [eventTypeCode, stringFields] at hfield
  | inconclusiveness =>
      rw [htype] at hinfo hfield
      simp only [eventTypeCode, stringFields, List.mem_cons, List.not_mem_nil, or_false] at hfield
      rw [hfield]
      exact hinfo.inside_size
  | log =>
      rw [htype] at hinfo hfield
      simp only [eventTypeCode, stringFields, List.mem_cons, List.not_mem_nil, or_false] at hfield
      rw [hfield]
      exact hinfo.inside_size

/-- The size of an event is a multiple of 8, so the length of the queue is. -/
theorem dvd_total (es : List (EventArgs w)) : 8 ∣ (eventLayout w).total es := by
  induction es with
  | nil => exact Nat.dvd_zero 8
  | cons a es ih =>
      rw [Layout.total_cons]
      exact Nat.dvd_add (Nat.dvd_mul_left 8 _) ih

/-- The sizes in the buffer sum up to the length of the queue. -/
theorem Channel.Holds.sum_sizes {c : Channel} {es : List (EventArgs w)} (h : c.Holds es) :
    (c.events.map (sizeField c.memory)).sum = c.bufferLength := by
  have hsize (p : Nat) (e : EventArgs w) (he : Stored c.memory p e) : sizeField c.memory p = e.size := he.size
  unfold Channel.events
  rw [h.count, h.chain.map_positions hsize hsize, h.length]
  rfl

/-- The reader finds the committed events. -/
theorem Channel.Holds.events_stored {c : Channel} {es : List (EventArgs w)} (h : c.Holds es) :
    List.Forall₂ (Stored c.memory) c.events es := by
  unfold Channel.events
  rw [h.count]
  exact h.chain.forall₂ fun _ _ he => he.size

/-- Every event of the buffer has its strings inside. -/
theorem Channel.Holds.stringsInside {c : Channel} {es : List (EventArgs w)} (h : c.Holds es) :
    ∀ p ∈ c.events, StringsInside c.memory p := by
  have hboth : List.Forall₂ (fun p e => StringsInside c.memory p ∧ Stored c.memory p e) c.events es :=
    h.events_stored.imp fun _ _ he => ⟨he.stringsInside, he⟩
  exact ((List.forall₂_and_left _ _).mp hboth).1

/-- A call adds the size that it stores in front of its event, or nothing at all. -/
theorem queueEvent_grows {c : Channel} {es : List (EventArgs w)} (a : EventArgs w) (h : c.Holds es) :
    ((queueEvent c a).eventCount = c.eventCount + 1 ∧
        (queueEvent c a).bufferLength =
          c.bufferLength + sizeField (queueEvent c a).memory (c.buffer + c.bufferLength)) ∨
      ((queueEvent c a).eventCount = c.eventCount ∧ (queueEvent c a).bufferLength = c.bufferLength) := by
  by_cases hc : Commits c a
  · obtain ⟨hholds, hframe, hcount, -⟩ := queueEvent_committed h hc
    left
    refine ⟨hcount, ?_⟩
    have hlast := Layout.Chain.last hholds.chain
    rw [hframe.buffer, ← h.length] at hlast
    have hsize : sizeField (queueEvent c a).memory (c.buffer + c.bufferLength) = a.size := hlast.size
    rw [hsize, hholds.length, h.length, Layout.total_append]
    rfl
  · obtain ⟨-, -, hlength, hcount⟩ := queueEvent_not_committed h hc
    exact Or.inr ⟨hcount, hlength⟩

end Cfix.Events
