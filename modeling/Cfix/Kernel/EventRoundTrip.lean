import Cfix.Kernel.EventDelivery

/-!
# `Kernel.EventRoundTrip` — from the routine to the execution context: what arrives and what gets lost

The client reports exactly the committed events, in the order of their commits (`Session.roundTrip`). Events
are lost without a trace in two ways only: a string that is too long, or a total size over 16 bits although
there is room, does not raise the flag; and the walk ends silently when an allocation fails
(`Session.nothingLost_iff`).
-/

namespace Cfix.Events

open Cfix.Unload (statusSuccess)

variable {w : Width}

/-! ## Round trip -/

/-- The events among the deliveries. -/
def reportsOf (ds : List (Delivery w)) : List (Report w) :=
  ds.filterMap fun
    | .event r => some r
    | .note _  => none

theorem reportsOf_events (rs : List (Report w)) : reportsOf (rs.map .event) = rs := by
  induction rs with
  | nil => rfl
  | cons r rs ih => exact congrArg (r :: ·) ih

theorem reportsOf_note (rs : List (Report w)) (b : Bool) (r : Report w) :
    reportsOf (rs.map .event ++ if b then [.note r] else []) = rs := by
  have hevents := reportsOf_events rs
  unfold reportsOf at *
  rw [List.filterMap_append, hevents]
  cases b with
  | false => exact List.append_nil rs
  | true => exact List.append_nil rs

/-- What a client of any width delivers for a response: the events of the walk over the chain, and the note
    if the flag is set. -/
theorem Session.resultFor_deliveries (v : Width) {s : Session w} {call : RoutineCall w}
    (hcall : s.call = .ok call) (hstatus : ntSuccess call.status = true) (hmalloc : s.env.malloc = true) :
    ∃ m, (eventLayout w).Chain m (firstEvent s.response) (committed s.channel call.events) ∧
      (s.resultFor v).hr = sOk ∧
      (s.resultFor v).deliveries =
        (reportEvents v s.env.mallocs m (committed s.channel call.events).length 0 (firstEvent s.response)).2.map
          .event ++
        (if (queueEvents s.channel call.events).bufferTruncated then
          [.note (noteReport v s.env.currentThreadId)] else []) := by
  obtain ⟨m, bytes, hio, hbytes, hcount, hflag, hchain⟩ := s.deviceIoControl_ok hcall hstatus
  refine ⟨m, hchain, ?_⟩
  unfold Session.resultFor callRoutine
  rw [hio, hmalloc]
  simp only [Bool.not_true, Bool.false_eq_true, if_false]
  rw [if_neg (Nat.not_lt.mpr hbytes), hcount, hflag]
  exact ⟨rfl, rfl⟩

/-- A client whose allocations succeed reports the committed events, and the note if some were dropped. -/
theorem Session.deliveries_committed {s : Session w} {call : RoutineCall w} (hcall : s.call = .ok call)
    (hstatus : ntSuccess call.status = true) (hmalloc : s.env.malloc = true)
    (hmallocs : ∀ i type, (s.env.mallocs i).suffice type = true) :
    ∃ reports, List.Forall₂ ReportOf reports (committed s.channel call.events) ∧
      s.result.deliveries = reports.map .event ++
        (if (queueEvents s.channel call.events).bufferTruncated then
          [.note (noteReport w s.env.currentThreadId)] else []) := by
  obtain ⟨m, hchain, -, hdeliveries⟩ := s.resultFor_deliveries w hcall hstatus hmalloc
  have hwalk := reportEvents_chain s.env.mallocs 0 hchain
  exact ⟨_, hwalk.mp fun i a _ => hmallocs (0 + i) a.type, hdeliveries⟩

/-- **Event queue round trip.** Whatever the routine and its threads queue, and whatever the size of the
    response, the events that are committed are those that pass the checks when their turn comes, and a client
    whose allocations succeed reports them, in the order of their commits, each with its type, threads, line,
    strings and frames; and the note if some were dropped. -/
theorem Session.roundTrip {s : Session w} {call : RoutineCall w} (hcall : s.call = .ok call)
    (hstatus : ntSuccess call.status = true) (hmalloc : s.env.malloc = true)
    (hmallocs : ∀ i type, (s.env.mallocs i).suffice type = true) :
    Passing s.channel call.events (committed s.channel call.events) ∧
      ∃ reports, List.Forall₂ ReportOf reports (committed s.channel call.events) ∧
        s.result.deliveries = reports.map .event ++
          (if (queueEvents s.channel call.events).bufferTruncated then
            [.note (noteReport w s.env.currentThreadId)] else []) :=
  ⟨s.passing hcall, s.deliveries_committed hcall hstatus hmalloc hmallocs⟩

/-- A call for the driver at address 1 that queues the events and runs to completion, with a response of
    4096 bytes and no shortage of memory. -/
def sampleSession (w : Width) (events : List (EventArgs w)) : Session w where
  reflector    := ⟨fun _ => .ok fun _ => ⟨events, statusSuccess, true, false, 0#64⟩⟩
  io           := ⟨fun _ => 0, 4096, fun _ => ⟨31#32, by decide⟩⟩
  request      := samplePacket
  memory       := fun _ => 0
  response     := 8192
  responseSize := 4096#32
  env          := ⟨true, fun _ => ⟨some fun _ => 0, true, true, true, true⟩, 4#32⟩

/-- The call that the sample makes. -/
def sampleCall (w : Width) (events : List (EventArgs w)) : RoutineCall w :=
  ⟨events, statusSuccess, true, false, 0#64⟩

theorem sampleSession_call (w : Width) (events : List (EventArgs w)) :
    (sampleSession w events).call = .ok (sampleCall w events) := by
  have haccepts : acceptsRequest (sampleSession w events).systemMemory 4096
      (.ofNat 32 sizeofCallRoutineRequest) 4096#32 = true := sampleMemory_accepted
  show routineCall _ _ 4096 (.ofNat 32 sizeofCallRoutineRequest) 4096#32 = _
  unfold routineCall
  rw [haccepts]
  rfl

/-- All allocations of the sample succeed. -/
theorem sampleSession_mallocs (w : Width) (events : List (EventArgs w)) (i : Nat) (type : EventType) :
    ((sampleSession w events).env.mallocs i).suffice type = true := by
  cases type with
  | failedAssertion => rfl
  | uncaughtException => rfl
  | inconclusiveness => rfl
  | log => rfl

theorem logEvent_commits : Commits (sampleSession .w64 [logEvent .w64 noteMessage]).channel
    (logEvent .w64 noteMessage) :=
  ⟨by decide, ⟨by decide, by decide, by decide, by decide⟩, by decide, by decide⟩

/-- One message is committed, and reported. -/
theorem Session.roundTrip_log :
    let s := sampleSession .w64 [logEvent .w64 noteMessage]
    committed s.channel [logEvent .w64 noteMessage] = [logEvent .w64 noteMessage] ∧
      ∃ report, ReportOf report (logEvent .w64 noteMessage) ∧ reportsOf s.result.deliveries = [report] := by
  have hcall := sampleSession_call .w64 [logEvent .w64 noteMessage]
  obtain ⟨hpassing, reports, hreports, hdeliveries⟩ :=
    Session.roundTrip hcall rfl rfl (sampleSession_mallocs .w64 _)
  have hcommitted : committed (sampleSession .w64 [logEvent .w64 noteMessage]).channel [logEvent .w64 noteMessage] =
      [logEvent .w64 noteMessage] := hpassing.eq_of_commits logEvent_commits
  have hone : List.Forall₂ ReportOf reports [logEvent .w64 noteMessage] := hcommitted ▸ hreports
  cases hone with
  | cons hreport hnil =>
      cases hnil
      refine ⟨hcommitted, _, hreport, ?_⟩
      rw [hdeliveries, reportsOf_note]

/-! ## Lost events -/

/-- The event is rejected and no flag tells: a string is too long, or there is room for a total size that
    does not fit into 16 bits. -/
def SilentlyRejected (c : Channel) (a : EventArgs w) : Prop :=
  c.bufferTruncated = false ∧ sizeofThroughFrames w ≤ c.room ∧
    (¬ a.Short ∨ a.size ≤ c.room ∧ maxUshort < a.size)

/-- Every call of the run commits its event or leaves the flag set. -/
def KernelAccounts (c : Channel) (as : List (EventArgs w)) : Prop :=
  ∀ bs a cs, as = bs ++ a :: cs →
    (queueEvent (queueEvents c bs) a).eventCount = (queueEvents c bs).eventCount + 1 ∨
      (queueEvent (queueEvents c bs) a).bufferTruncated = true

/-- The client fails, delivers the note, or delivers all committed events. -/
def ClientAccounts (result : CallResult w) (es : List (EventArgs w)) : Prop :=
  failed result.hr = true ∨ (∃ r, .note r ∈ result.deliveries) ∨
    List.Forall₂ ReportOf (reportsOf result.deliveries) es

/-- **One call.** It commits its event or leaves the flag set, unless it rejects the event silently. -/
theorem queueEvent_accounts_iff {c : Channel} {es : List (EventArgs w)} (a : EventArgs w) (h : c.Holds es) :
    ((queueEvent c a).eventCount = c.eventCount + 1 ∨ (queueEvent c a).bufferTruncated = true) ↔
      ¬ SilentlyRejected c a := by
  rw [eventCount_iff a h]
  by_cases hc : Commits c a
  · -- a committed event is counted, and passes the checks that reject silently
    refine iff_of_true (Or.inl hc) ?_
    rintro ⟨-, -, hlong | ⟨-, hsize⟩⟩
    · exact hlong hc.short
    · exact absurd hc.size (Nat.not_le.mpr hsize)
  · obtain ⟨m, t, heq, hflag, -⟩ := queueEvent_rejected h.inside h.size hc
    have htrunc : (queueEvent c a).bufferTruncated = t := by rw [heq]
    rw [htrunc, hflag, or_iff_right hc]
    constructor
    · rintro (ht | ht | ⟨hshort, ht⟩) ⟨hfalse, htrace, hcase⟩
      · rw [ht] at hfalse
        exact Bool.noConfusion hfalse
      · exact absurd htrace (Nat.not_le.mpr ht)
      · rcases hcase with hlong | ⟨hroom, -⟩
        · exact hlong hshort
        · exact absurd hroom (Nat.not_le.mpr ht)
    · intro hnot
      by_contra hall
      -- the flag is down, so there was room, and one of the two other checks has failed
      rw [not_or, Bool.not_eq_true] at hall
      obtain ⟨hfalse, htr⟩ := hall
      unfold Truncates at htr
      rw [not_or, Nat.not_lt] at htr
      obtain ⟨htrace, hroom⟩ := htr
      refine hnot ⟨hfalse, htrace, ?_⟩
      by_cases hshort : a.Short
      · right
        have hle : a.size ≤ c.room := Nat.not_lt.mp fun hlt => hroom ⟨hshort, hlt⟩
        refine ⟨hle, ?_⟩
        by_contra hush
        exact hc ⟨htrace, hshort, hle, Nat.not_lt.mp hush⟩
      · exact Or.inl hshort

/-- A failed call is reported as a failure. -/
theorem Session.failed_result {s : Session w} {call : RoutineCall w} (hcall : s.call = .ok call)
    (h : ntSuccess call.status = false ∨ s.env.malloc = false) : failed s.result.hr = true := by
  unfold Session.result Session.resultFor callRoutine
  cases hm : s.env.malloc with
  | false =>
      rw [Bool.not_false, if_pos rfl]
      show failed eOutofmemory = true
      decide
  | true =>
      rw [hm] at h
      have hstatus := h.resolve_right (fun hf => Bool.noConfusion hf)
      obtain ⟨e, he⟩ := s.deviceIoControl_error hcall hstatus
      rw [he]
      show failed (hresultFromWin32 e.code) = true
      rw [failed_hresultFromWin32, bne_iff_ne]
      exact e.ne_zero

/-- **What is not lost silently.** Every event of a call leaves its trace exactly if no call of
    `CfixkrsQueueEvent` rejects its event silently, and the call fails, the flag is set or the client's
    allocations for the committed events succeed. -/
theorem Session.nothingLost_iff {s : Session w} {call : RoutineCall w} (hcall : s.call = .ok call) :
    (KernelAccounts s.channel call.events ∧ ClientAccounts s.result (committed s.channel call.events)) ↔
      (∀ bs a cs, call.events = bs ++ a :: cs → ¬ SilentlyRejected (queueEvents s.channel bs) a) ∧
        (ntSuccess call.status = false ∨ s.env.malloc = false ∨
          (queueEvents s.channel call.events).bufferTruncated = true ∨
          ∀ i a, (committed s.channel call.events)[i]? = some a → (s.env.mallocs i).suffice a.type = true) := by
  have hout := acceptsRequest_output (routineCall_accepts hcall)
  have hkernel : KernelAccounts s.channel call.events ↔
      ∀ bs a cs, call.events = bs ++ a :: cs → ¬ SilentlyRejected (queueEvents s.channel bs) a := by
    unfold KernelAccounts
    constructor
    · intro h bs a cs heq
      exact (queueEvent_accounts_iff a (initChannel_run _ _ bs hout)).mp (h bs a cs heq)
    · intro h bs a cs heq
      exact (queueEvent_accounts_iff a (initChannel_run _ _ bs hout)).mpr (h bs a cs heq)
  rw [hkernel]
  apply and_congr_right
  intro _
  cases hstatus : ntSuccess call.status with
  | false => exact iff_of_true (Or.inl (s.failed_result hcall (Or.inl hstatus))) (Or.inl rfl)
  | true =>
      cases hmalloc : s.env.malloc with
      | false => exact iff_of_true (Or.inl (s.failed_result hcall (Or.inr hmalloc))) (Or.inr (Or.inl rfl))
      | true =>
          obtain ⟨m, hchain, hhr, hdeliveries⟩ := s.resultFor_deliveries w hcall hstatus hmalloc
          have hwalk := reportEvents_chain s.env.mallocs 0 hchain
          simp only [Nat.zero_add] at hwalk
          rw [hwalk]
          unfold ClientAccounts Session.result
          rw [hhr, hdeliveries, reportsOf_note]
          cases hflag : (queueEvents s.channel call.events).bufferTruncated with
          | true =>
              -- the client reports the note that events were dropped
              refine iff_of_true (Or.inr (Or.inl ⟨noteReport w s.env.currentThreadId, ?_⟩))
                (Or.inr (Or.inr (Or.inl rfl)))
              exact List.mem_append_right _ List.mem_cons_self
          | false =>
              simp only [Bool.false_eq_true, if_false, List.append_nil, false_or]
              constructor
              · rintro (hf | ⟨r, hr⟩ | h)
                · exact Bool.noConfusion hf
                · simp at hr
                · exact Or.inr (Or.inr h)
              · rintro (hf | hf | h)
                · exact Bool.noConfusion hf
                · exact Bool.noConfusion hf
                · exact Or.inr (Or.inr h)

/-- Nothing is lost if all that is queued is one message and there is no shortage. -/
theorem Session.nothingLost_log :
    let s := sampleSession .w64 [logEvent .w64 noteMessage]
    let call := sampleCall .w64 [logEvent .w64 noteMessage]
    KernelAccounts s.channel call.events ∧ ClientAccounts s.result (committed s.channel call.events) := by
  intro s call
  have hcall : s.call = .ok call := sampleSession_call .w64 [logEvent .w64 noteMessage]
  refine (Session.nothingLost_iff hcall).mpr ⟨?_, ?_⟩
  · intro bs a cs heq
    have hmem : a ∈ [logEvent .w64 noteMessage] := by
      show a ∈ call.events
      rw [heq]
      exact List.mem_append_right _ List.mem_cons_self
    rw [List.mem_singleton.mp hmem]
    rintro ⟨-, -, hlong | ⟨-, hsize⟩⟩
    · exact hlong ⟨by decide, by decide, by decide, by decide⟩
    · exact absurd hsize (by decide)
  · exact Or.inr (Or.inr (Or.inr fun i a _ => sampleSession_mallocs .w64 _ i a.type))

/-- A failed assertion whose expression has the given number of characters. -/
def longAssertion (w : Width) (n : Nat) : EventArgs w where
  callerContext   := false
  type            := .failedAssertion
  exceptionRecord := none
  file            := none
  routine         := none
  line            := 1#32
  expression      := some ⟨List.replicate n 88#16, fun h => absurd (List.eq_of_mem_replicate h) (by decide)⟩
  message         := none
  mainThreadId    := 4#32
  currentThreadId := 8#32
  stack           := []

theorem longAssertion_length (w : Width) (n : Nat) :
    (charsOf (longAssertion w n).expression).length = n := List.length_replicate

/-- The only event of the call is a failed assertion with an expression of 32767 characters: it is dropped,
    and nothing tells. -/
theorem Session.nothingLost_counterexample :
    let s := sampleSession .w64 [longAssertion .w64 32767]
    let call := sampleCall .w64 [longAssertion .w64 32767]
    s.call = .ok call ∧
      ¬ (KernelAccounts s.channel call.events ∧ ClientAccounts s.result (committed s.channel call.events)) := by
  intro s call
  have hcall : s.call = .ok call := sampleSession_call .w64 [longAssertion .w64 32767]
  refine ⟨hcall, ?_⟩
  rw [Session.nothingLost_iff hcall]
  rintro ⟨hkernel, -⟩
  refine hkernel [] (longAssertion .w64 32767) [] rfl ⟨rfl, by decide, Or.inl ?_⟩
  intro hshort
  have hlen := hshort.expression
  rw [longAssertion_length] at hlen
  exact absurd hlen (by decide)

end Cfix.Events
