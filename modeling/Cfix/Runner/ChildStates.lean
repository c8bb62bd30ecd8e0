import Cfix.Lib.Faults
import Cfix.Lib.UpdateCount
import Cfix.Runner.ExecCtx

/-!
# `Runner.ChildStates` — the state that a fixture's threads share (`cfixrun/execctx.c`, `cfix/thread.c`)

Any number of child threads, created at any depth, run beside the main thread. An action is one access to shared
memory or one call that other threads wait for, so the interlocked operations of the callbacks are apart from what
the thread does with their results. The main thread leaves a routine when the threads that have registered with the
filament have exited; a thread that has not registered yet keeps its creator waiting in `CfixCreateThread2`.
Registration is limited (`CFIX_MAX_THREADS`), thus the `LONG` of the reference count does not wrap around.
-/

namespace Cfix.Runner

open Transition UpdateCount

/-! ## The callbacks in parts -/

/-- `CfixrunsReferenceExecutionState`. -/
def ExecContext.referenceExecutionState (i : StateId) (x : ExecContext) : Option ExecContext :=
  (x.states i).map (fun st =>
    { x with states := Function.update x.states i (some { st with referenceCount := st.referenceCount + 1 }) })

/-- `CfixrunsSetCurrentExecutionState`. -/
def ExecContext.setCurrentExecutionState (t : ThreadId) (i : StateId) (x : ExecContext) : ExecContext :=
  { x with slot := Function.update x.slot t (some i) }

/-- The decrement of `CfixrunsDereferenceCurrentExecutionState`, and whether it gave back the last reference. -/
def ExecContext.releaseCurrentExecutionState (t : ThreadId) (x : ExecContext) : Option (Bool × ExecContext) :=
  match x.slot t with
  | none   => some (false, x)
  | some i =>
    (x.states i).map (fun st =>
      (st.referenceCount - 1 == 0,
        { x with
          states := Function.update x.states i (some { st with referenceCount := st.referenceCount - 1 }) }))

/-- What follows the last decrement: the slot is cleared and the state is freed. -/
def ExecContext.freeCurrentExecutionState (t : ThreadId) (x : ExecContext) : Option ExecContext :=
  match x.slot t with
  | none   => some x
  | some i =>
    (x.states i).map (fun _ =>
      { x with
        slot   := Function.update x.slot t none
        states := Function.update x.states i none })

/-- `CfixrunsExecCtxAfterFixtureFinish` up to the decrement. -/
def ExecContext.releaseFixture (t : ThreadId) (x : ExecContext) : Option (Bool × ExecContext) :=
  match x.slot t with
  | none   => some (false, x)
  | some _ =>
    { x with statistics := { x.statistics with fixtures := x.statistics.fixtures + 1#32 } }
      |>.releaseCurrentExecutionState t

/-- The rest of a callback that has given back a reference. -/
def ExecContext.freeIfLast (t : ThreadId) : Bool × ExecContext → Option ExecContext
  | (last, x) => if last then x.freeCurrentExecutionState t else some x

theorem beforeChildThreadStart_eq (t : ThreadId) (i : StateId) (x : ExecContext) :
    x.beforeChildThreadStart t i = (x.referenceExecutionState i).map (·.setCurrentExecutionState t i) := by
  cases h : x.states i <;> simp [ExecContext.beforeChildThreadStart, ExecContext.referenceExecutionState,
    ExecContext.setCurrentExecutionState, h]

theorem dereferenceCurrentExecutionState_eq (t : ThreadId) (x : ExecContext) :
    x.dereferenceCurrentExecutionState t = (x.releaseCurrentExecutionState t).bind (ExecContext.freeIfLast t) := by
  cases hslot : x.slot t with
  | none   => simp [ExecContext.dereferenceCurrentExecutionState, ExecContext.releaseCurrentExecutionState,
      ExecContext.freeIfLast, hslot]
  | some i =>
      cases hst : x.states i with
      | none    =>
          simp [ExecContext.dereferenceCurrentExecutionState, ExecContext.releaseCurrentExecutionState, hslot, hst]
      | some st =>
          by_cases hlast : st.referenceCount - 1 = 0 <;>
            simp [ExecContext.dereferenceCurrentExecutionState, ExecContext.releaseCurrentExecutionState,
              ExecContext.freeIfLast, ExecContext.freeCurrentExecutionState, hslot, hst, hlast]

theorem afterChildThreadFinish_eq (t : ThreadId) (x : ExecContext) :
    x.afterChildThreadFinish t = (x.releaseCurrentExecutionState t).bind (ExecContext.freeIfLast t) :=
  dereferenceCurrentExecutionState_eq t x

theorem afterFixtureFinish_eq (t : ThreadId) (x : ExecContext) :
    x.afterFixtureFinish t = (x.releaseFixture t).bind (ExecContext.freeIfLast t) := by
  cases hslot : x.slot t with
  | none   => simp [ExecContext.afterFixtureFinish, ExecContext.releaseFixture, ExecContext.freeIfLast, hslot]
  | some i =>
      simp only [ExecContext.afterFixtureFinish, ExecContext.releaseFixture, hslot]
      exact dereferenceCurrentExecutionState_eq t _

/-! ## The threads -/

/-- Where the main thread stands. -/
inductive FixturePc where
  | outside
  /-- In a fixture, between two routines. -/
  | inFixture
  | inRoutine
  /-- In `AfterFixtureFinish`, which has given back the last reference. -/
  | freeing
  deriving DecidableEq, Repr

/-- Where a child thread stands in `CfixsThreadStart`; up to the event that its creator waits for, it has the
    creator's parameters. -/
inductive ChildPc where
  | absent
  | started (creator : ThreadId) (parentContext : StateId)
  | registered (creator : ThreadId) (parentContext : StateId)
  /-- In `BeforeChildThreadStart`, which has taken its reference. -/
  | referenced (creator : ThreadId) (parentContext : StateId)
  | prepared (creator : ThreadId)
  /-- There are too many child threads. -/
  | rejected (creator : ThreadId)
  | running
  /-- The start routine has returned or raised an exception. -/
  | leaving
  /-- In `AfterChildThreadFinish`, which has given back the last reference. -/
  | freeing
  | finished
  deriving DecidableEq, Repr

/-- The thread has taken its reference in `BeforeChildThreadStart`, and has not given it back. -/
def ChildPc.sharing : ChildPc → Bool
  | .referenced _ _ | .prepared _ | .running | .leaving => true
  | _                                                   => false

/-- Where a thread stands in `CfixCreateThread2`. -/
inductive Creation where
  | idle
  /-- `CreateChildThread` has returned this `ParentContext`. -/
  | obtained (parentContext : StateId)
  | waiting (child : ThreadId)
  /-- `InitializationCompleted` is set. -/
  | signalled
  deriving DecidableEq, Repr

/-- The callbacks that free states. -/
inductive Freer where
  | afterFixtureFinish
  | afterChildThreadFinish (child : ThreadId)
  deriving DecidableEq, Repr

structure SharedRun where
  context  : ExecContext
  main     : FixturePc
  threads  : ThreadId → ChildPc
  creating : ThreadId → Creation
  /-- The threads that have registered with the filament and have not exited. -/
  handles  : List ThreadId
  /-- The states that were freed, in order. -/
  freed    : List (Freer × StateId)

def SharedRun.created : SharedRun where
  context    := .created
  main       := .outside
  threads _  := .absent
  creating _ := .idle
  handles    := []
  freed      := []

inductive SharedAction where
  | beforeFixtureStart (memory : Bool)
  | enterRoutine
  | leaveRoutine
  | beforeTestCaseStart
  | afterTestCaseFinish
  /-- `AfterFixtureFinish` up to the decrement. -/
  | releaseFixture
  | freeFixture
  | reportEvent (t : ThreadId) (event : EventType)
  | createChildThread (t : ThreadId)
  /-- `_beginthreadex` or `CreateThread`; `none` if it fails. -/
  | createThread (t : ThreadId) (child : Option ThreadId)
  /-- `CfixpSetCurrentFilament` on the new thread. -/
  | register (c : ThreadId) (succeeds : Bool)
  | reference (c : ThreadId)
  | setState (c : ThreadId)
  /-- `SetEvent( InitializationCompleted )`. -/
  | signal (c : ThreadId)
  | resume (t : ThreadId)
  | leave (c : ThreadId) (raised : Bool)
  /-- `AfterChildThreadFinish` up to the decrement. -/
  | release (c : ThreadId)
  | free (c : ThreadId)
  | exit (c : ThreadId)
  deriving DecidableEq, Repr

section Run

-- the main thread and the options of the run
variable (m : ThreadId) (o : Options)

/-- The thread is in a routine and not in `CfixCreateThread2`. -/
def SharedRun.inUserCode (s : SharedRun) (t : ThreadId) : Prop :=
  ((t = m ∧ s.main = .inRoutine) ∨ s.threads t = .running) ∧ s.creating t = .idle

instance (s : SharedRun) (t : ThreadId) : Decidable (s.inUserCode m t) :=
  inferInstanceAs (Decidable (_ ∧ _))

def SharedRun.at (s : SharedRun) (c : ThreadId) (pc : ChildPc) : SharedRun :=
  { s with threads := Function.update s.threads c pc }

def SharedRun.creates (s : SharedRun) (t : ThreadId) (creation : Creation) : SharedRun :=
  { s with creating := Function.update s.creating t creation }

/-- The steps of the main thread. -/
@[simp] def SharedRun.fixtureStep (s : SharedRun) : SharedAction → Taken SharedRun
  | .beforeFixtureStart memory =>
    if s.main = .outside then
      match s.context.beforeFixtureStart m memory with
      | (hr, x) => .done { s with context := x, main := if failed hr then .outside else .inFixture }
    else .disabled
  | .enterRoutine => if s.main = .inFixture then .done { s with main := .inRoutine } else .disabled
  | .leaveRoutine =>
    if s.main = .inRoutine ∧ s.creating m = .idle ∧ s.handles = [] then .done { s with main := .inFixture }
    else .disabled
  | .beforeTestCaseStart => if s.main = .inFixture then .done s else .disabled
  | .afterTestCaseFinish =>
    if s.main = .inFixture then .of (s.context.afterTestCaseFinish m) (fun x => { s with context := x })
    else .disabled
  | .releaseFixture =>
    if s.main = .inFixture then
      .of (s.context.releaseFixture m) (fun (last, x) =>
        { s with context := x, main := if last then .freeing else .outside })
    else .disabled
  | .freeFixture =>
    if s.main = .freeing then
      .of (s.context.freeCurrentExecutionState m) (fun x =>
        { s with
          context := x
          main    := .outside
          freed   := s.freed ++ (s.context.slot m).toList.map (.afterFixtureFinish, ·) })
    else .disabled
  | _ => .disabled

/-- The steps of `CfixCreateThread2`, and the events that a thread reports. -/
@[simp] def SharedRun.userStep (s : SharedRun) : SharedAction → Taken SharedRun
  | .reportEvent t event =>
    if s.inUserCode m t then .done { s with context := (s.context.reportEvent o t event).2 } else .disabled
  | .createChildThread t =>
    if s.inUserCode m t then
      match s.context.createChildThread t with
      | (_, none)   => .done s
      | (_, some i) => .done (s.creates t (.obtained i))
    else .disabled
  | .createThread t child =>
    match s.creating t, child with
    | .obtained _, none   => .done (s.creates t .idle)
    | .obtained i, some c =>
      if c ≠ m ∧ s.threads c = .absent then .done ((s.at c (.started t i)).creates t (.waiting c)) else .disabled
    | _, _                => .disabled
  | .resume t => if s.creating t = .signalled then .done (s.creates t .idle) else .disabled
  | _ => .disabled

/-- The steps of `CfixsThreadStart`. -/
@[simp] def SharedRun.childStep (s : SharedRun) : SharedAction → Taken SharedRun
  | .register c succeeds =>
    match s.threads c with
    | .started p i =>
      if succeeds then .done { s.at c (.registered p i) with handles := c :: s.handles }
      else .done (s.at c (.rejected p))
    | _            => .disabled
  | .reference c =>
    match s.threads c with
    | .registered p i =>
      .of (s.context.referenceExecutionState i) (fun x => { s.at c (.referenced p i) with context := x })
    | _               => .disabled
  | .setState c =>
    match s.threads c with
    | .referenced p i => .done { s.at c (.prepared p) with context := s.context.setCurrentExecutionState c i }
    | _               => .disabled
  | .signal c =>
    match s.threads c with
    | .prepared p => .done ((s.at c .running).creates p .signalled)
    | .rejected p => .done ((s.at c .finished).creates p .signalled)
    | _           => .disabled
  | .leave c raised =>
    if s.threads c = .running ∧ s.creating c = .idle then
      .done { s.at c .leaving with
        -- the exception filter reports the exception
        context := if raised then (s.context.reportEvent o c .uncaughtException).2 else s.context }
    else .disabled
  | .release c =>
    if s.threads c = .leaving then
      .of (s.context.releaseCurrentExecutionState c) (fun (last, x) =>
        { s.at c (if last then .freeing else .finished) with context := x })
    else .disabled
  | .free c =>
    if s.threads c = .freeing then
      .of (s.context.freeCurrentExecutionState c) (fun x =>
        { s.at c .finished with
          context := x
          freed   := s.freed ++ (s.context.slot c).toList.map (.afterChildThreadFinish c, ·) })
    else .disabled
  | .exit c =>
    if s.threads c = .finished then
      -- the TLS slots end with the thread
      .done { s.at c .absent with
        context := { s.context with slot := Function.update s.context.slot c none }
        handles := s.handles.erase c }
    else .disabled
  | _ => .disabled

/-- A step; it goes wrong if it uses a state that was freed. -/
def SharedRun.step (s : SharedRun) (a : SharedAction) : Taken SharedRun :=
  match a with
  | .beforeFixtureStart _ | .enterRoutine | .leaveRoutine | .beforeTestCaseStart | .afterTestCaseFinish
  | .releaseFixture | .freeFixture => s.fixtureStep m a
  | .reportEvent _ _ | .createChildThread _ | .createThread _ _ | .resume _ => s.userStep m o a
  | .register _ _ | .reference _ | .setState _ | .signal _ | .leave _ _ | .release _ | .free _ | .exit _ =>
    s.childStep o a

end Run

/-! ## The invariant -/

/-- The threads that have a reference besides the main thread. -/
noncomputable def SharedRun.sharers (s : SharedRun) : Nat := {t | (s.threads t).sharing = true}.ncard

section Invariant

variable (m : ThreadId)

/-- What holds of a child thread that stands there while the fixture with the state `i` runs. A creator waits until
    its thread has registered or has been rejected. -/
def SharedRun.PcOk (s : SharedRun) (i : StateId) (t : ThreadId) : ChildPc → Prop
  | .absent | .finished => True
  | .started p j        => j = i ∧ s.creating p = .waiting t
  | .registered p j     => j = i ∧ s.creating p = .waiting t ∧ t ∈ s.handles
  | .referenced p j     => j = i ∧ s.creating p = .waiting t ∧ t ∈ s.handles
  | .prepared p         => s.context.slot t = some i ∧ s.creating p = .waiting t ∧ t ∈ s.handles
  | .rejected p         => s.creating p = .waiting t
  | .running | .leaving => s.context.slot t = some i ∧ t ∈ s.handles
  | .freeing            => False

def SharedRun.ThreadOk (s : SharedRun) (i : StateId) (t : ThreadId) : Prop := s.PcOk i t (s.threads t)

/-- A thread in `CfixCreateThread2` is in a routine, and passes on the state of the fixture. -/
def SharedRun.CreatorOk (s : SharedRun) (i : StateId) (t : ThreadId) : Prop :=
  (s.creating t ≠ .idle → (t = m ∧ s.main = .inRoutine) ∨ s.threads t = .running) ∧
    ∀ j, s.creating t = .obtained j → j = i

/-- The state of the fixture, which is the one behind `i` others. -/
def SharedRun.PhaseOk (s : SharedRun) (i : StateId) : Prop :=
  match s.main with
  | .outside               => s.context.slot m = none ∧ s.context.states i = none ∧ s.context.nextState = i
  | .inFixture | .inRoutine => s.context.slot m = some i ∧ s.context.nextState = i + 1 ∧
      ∃ st, s.context.states i = some st ∧ st.referenceCount = 1 + s.sharers
  | .freeing               => s.context.slot m = some i ∧ s.context.nextState = i + 1 ∧ s.context.states i ≠ none

/-- The threads share the state `i`, and `AfterFixtureFinish` has freed the states of the fixtures before. -/
structure SharedRun.Inv (s : SharedRun) (i : StateId) : Prop where
  freed     : s.freed = (List.range i).map (.afterFixtureFinish, ·)
  allocated : ∀ j, j ≠ i → s.context.states j = none
  phase     : s.PhaseOk m i
  quiet     : s.main ≠ .inRoutine → ∀ t, s.threads t = .absent ∨ s.threads t = .finished
  threads   : ∀ t, s.ThreadOk i t
  creators  : ∀ t, s.CreatorOk m i t
  main_     : s.threads m = .absent
  finite    : {t | (s.threads t).sharing = true}.Finite
  bounded   : ∀ t j, s.context.slot t = some j → j < s.context.nextState

/-- The invariant, for some state of a fixture. -/
def SharedRun.Kept (s : SharedRun) : Prop := ∃ i, s.Inv m i

end Invariant

variable {m : ThreadId} {o : Options} {s s' : SharedRun} {i : StateId} {a : SharedAction}

theorem sharers_eq_zero (h : ∀ t, (s.threads t).sharing = false) : s.sharers = 0 := by
  have hempty : {t | (s.threads t).sharing = true} = ∅ := by
    ext t
    simp [h t]
  rw [SharedRun.sharers, hempty, Set.ncard_empty]

theorem inv_sharedCreated : SharedRun.created.Inv m 0 where
  freed     := rfl
  allocated := fun _ _ => rfl
  phase     := ⟨rfl, rfl, rfl⟩
  quiet     := fun _ _ => .inl rfl
  threads   := fun _ => trivial
  creators  := fun _ => ⟨fun h => absurd rfl h, fun _ h => nomatch h⟩
  main_     := rfl
  finite    := by
    apply Set.Finite.subset Set.finite_empty
    intro t ht
    exact nomatch ht
  bounded   := fun _ _ h => nomatch h

/-- Outside routines no thread has a reference of its own. -/
theorem SharedRun.Inv.sharers_quiet (h : s.Inv m i) (hmain : s.main ≠ .inRoutine) : s.sharers = 0 := by
  apply sharers_eq_zero
  intro t
  rcases h.quiet hmain t with ht | ht
  · rw [ht]
    rfl
  · rw [ht]
    rfl

theorem SharedRun.PcOk.frame {t : ThreadId} {pc : ChildPc} (h : s.PcOk i t pc)
    (hslot : s'.context.slot t = s.context.slot t) (hhandles : t ∈ s.handles → t ∈ s'.handles)
    (hcreating : ∀ p, s.creating p = .waiting t → s'.creating p = .waiting t) : s'.PcOk i t pc := by
  cases pc with
  | absent         => trivial
  | started p j    => exact ⟨h.1, hcreating p h.2⟩
  | registered p j => exact ⟨h.1, hcreating p h.2.1, hhandles h.2.2⟩
  | referenced p j => exact ⟨h.1, hcreating p h.2.1, hhandles h.2.2⟩
  | prepared p     => exact ⟨hslot.trans h.1, hcreating p h.2.1, hhandles h.2.2⟩
  | rejected p     => exact hcreating p h
  | running        => exact ⟨hslot.trans h.1, hhandles h.2⟩
  | leaving        => exact ⟨hslot.trans h.1, hhandles h.2⟩
  | freeing        => exact h
  | finished       => trivial

theorem SharedRun.ThreadOk.frame {t : ThreadId} (h : s.ThreadOk i t) (hthread : s'.threads t = s.threads t)
    (hslot : s'.context.slot t = s.context.slot t) (hhandles : t ∈ s.handles → t ∈ s'.handles)
    (hcreating : ∀ p, s.creating p = .waiting t → s'.creating p = .waiting t) : s'.ThreadOk i t := by
  unfold SharedRun.ThreadOk
  rw [hthread]
  exact SharedRun.PcOk.frame h hslot hhandles hcreating

/-! ## The steps of the main thread -/

/-- The threads that exist outside a routine have nothing to do with the state. -/
theorem SharedRun.Inv.of_quiet (h : s.Inv m i) (hmain : s.main ≠ .inRoutine) {j : StateId}
    (hfreed : s'.freed = (List.range j).map (.afterFixtureFinish, ·))
    (hallocated : ∀ k, k ≠ j → s'.context.states k = none) (hphase : s'.PhaseOk m j)
    (hthreads : s'.threads = s.threads) (hcreating : s'.creating = s.creating)
    (hbounded : ∀ t k, s'.context.slot t = some k → k < s'.context.nextState) : s'.Inv m j where
  freed     := hfreed
  allocated := hallocated
  phase     := hphase
  quiet     := fun _ t => hthreads ▸ h.quiet hmain t
  threads   := by
    intro t
    unfold SharedRun.ThreadOk
    rw [hthreads]
    rcases h.quiet hmain t with ht | ht
    · rw [ht]
      trivial
    · rw [ht]
      trivial
  creators  := by
    have hidle : ∀ t, s.creating t = .idle := by
      intro t
      by_contra hne
      rcases (h.creators t).1 hne with ⟨-, hr⟩ | hrunning
      · exact hmain hr
      · rcases h.quiet hmain t with ht | ht
        · rw [ht] at hrunning
          cases hrunning
        · rw [ht] at hrunning
          cases hrunning
    intro t
    rw [SharedRun.CreatorOk, hcreating, hidle t]
    exact ⟨fun hne => absurd rfl hne, fun _ hk => nomatch hk⟩
  main_     := hthreads ▸ h.main_
  finite    := hthreads ▸ h.finite
  bounded   := hbounded

theorem SharedRun.Inv.outside (h : s.Inv m i) (hmain : s.main = .outside) :
    s.context.slot m = none ∧ s.context.states i = none ∧ s.context.nextState = i := by
  have hphase := h.phase
  rw [SharedRun.PhaseOk, hmain] at hphase
  exact hphase

theorem SharedRun.Inv.inside (h : s.Inv m i) (hmain : s.main = .inFixture ∨ s.main = .inRoutine) :
    s.context.slot m = some i ∧ s.context.nextState = i + 1 ∧
      ∃ st, s.context.states i = some st ∧ st.referenceCount = 1 + s.sharers := by
  have hphase := h.phase
  rcases hmain with hmain | hmain
  · rw [SharedRun.PhaseOk, hmain] at hphase
    exact hphase
  · rw [SharedRun.PhaseOk, hmain] at hphase
    exact hphase

theorem SharedRun.Inv.freeing (h : s.Inv m i) (hmain : s.main = .freeing) :
    s.context.slot m = some i ∧ s.context.nextState = i + 1 ∧ s.context.states i ≠ none := by
  have hphase := h.phase
  rw [SharedRun.PhaseOk, hmain] at hphase
  exact hphase

theorem SharedRun.phaseOk_of_inside (hmain : s.main = .inFixture ∨ s.main = .inRoutine)
    (h : s.context.slot m = some i ∧ s.context.nextState = i + 1 ∧
      ∃ st, s.context.states i = some st ∧ st.referenceCount = 1 + s.sharers) : s.PhaseOk m i := by
  rcases hmain with hmain | hmain
  · rw [SharedRun.PhaseOk, hmain]
    exact h
  · rw [SharedRun.PhaseOk, hmain]
    exact h

theorem states_update_ne {states : StateId → Option ThreadState} {v : Option ThreadState}
    (h : ∀ j, j ≠ i → states j = none) : ∀ j, j ≠ i → Function.update states i v j = none := by
  intro j hj
  rw [Function.update_of_ne hj]
  exact h j hj

/-- A thread without a state gets a new one. -/
theorem beforeFixtureStart_new {t : ThreadId} {x : ExecContext} (hslot : x.slot t = none) :
    ∃ x', x.beforeFixtureStart t true = (sOk, x') ∧ x'.slot = Function.update x.slot t (some x.nextState) ∧
      x'.states = Function.update x.states x.nextState
        (some { failureCount := 0#32, inconclusiveCount := 0#32, referenceCount := 1 }) ∧
      x'.nextState = x.nextState + 1 := by
  refine ⟨{ x with
    slot      := Function.update x.slot t (some x.nextState)
    states    := Function.update x.states x.nextState
      (some { failureCount := 0#32, inconclusiveCount := 0#32, referenceCount := 1 })
    nextState := x.nextState + 1 }, ?_, rfl, rfl, rfl⟩
  simp only [ExecContext.beforeFixtureStart, ExecContext.getCurrentExecutionState, hslot]
  rfl

theorem beforeFixtureStart_noMemory {t : ThreadId} {x : ExecContext} (hslot : x.slot t = none) :
    x.beforeFixtureStart t false = (eUnexpected, x) := by
  simp only [ExecContext.beforeFixtureStart, ExecContext.getCurrentExecutionState, hslot]
  rfl

theorem keeps_beforeFixtureStart (h : s.Inv m i) (memory : Bool) :
    (s.fixtureStep m (.beforeFixtureStart memory)).Keeps (SharedRun.Kept m) := by
  simp only [SharedRun.fixtureStep]
  split
  case isFalse => trivial
  case isTrue hmain =>
    obtain ⟨hslot, hfree, hnext⟩ := h.outside hmain
    have hquiet : s.main ≠ .inRoutine := by
      rw [hmain]
      exact FixturePc.noConfusion
    cases memory with
    | false =>
        rw [beforeFixtureStart_noMemory hslot]
        simp only [failed_eUnexpected, if_true]
        show ∃ j, SharedRun.Inv m { s with main := .outside } j
        rw [← hmain]
        exact ⟨i, h⟩
    | true =>
        obtain ⟨x, hcall, hslot', hstates', hnext'⟩ := beforeFixtureStart_new hslot
        rw [hcall]
        rw [hnext] at hslot' hstates' hnext'
        simp only [failed_sOk, Bool.false_eq_true, if_false]
        show ∃ j, SharedRun.Inv m { s with context := x, main := .inFixture } j
        refine ⟨i, h.of_quiet hquiet h.freed ?_ ?_ rfl rfl ?_⟩
        · show ∀ k, k ≠ i → x.states k = none
          rw [hstates']
          exact states_update_ne h.allocated
        · apply SharedRun.phaseOk_of_inside (.inl rfl)
          show x.slot m = some i ∧ x.nextState = i + 1 ∧ ∃ st, x.states i = some st ∧ st.referenceCount = 1 + s.sharers
          rw [hslot', hstates', Function.update_self, Function.update_self, h.sharers_quiet hquiet]
          exact ⟨rfl, hnext', _, rfl, rfl⟩
        · show ∀ t k, x.slot t = some k → k < x.nextState
          intro t k hk
          rw [hslot', Function.update_apply] at hk
          rw [hnext']
          split at hk
          · cases hk
            exact Nat.lt_succ_self i
          · have hlt := h.bounded t k hk
            rw [hnext] at hlt
            exact Nat.lt_succ_of_lt hlt

theorem keeps_enterRoutine (h : s.Inv m i) : (s.fixtureStep m .enterRoutine).Keeps (SharedRun.Kept m) := by
  simp only [SharedRun.fixtureStep]
  split
  case isFalse => trivial
  case isTrue hmain =>
    have hquiet : s.main ≠ .inRoutine := by
      rw [hmain]
      exact FixturePc.noConfusion
    have hinside := h.inside (.inl hmain)
    exact ⟨i, h.of_quiet hquiet h.freed h.allocated (SharedRun.phaseOk_of_inside (.inr rfl) hinside) rfl rfl h.bounded⟩

/-- **The join is enough.** When no registered thread is left, the creator of a thread that has not registered would
    be one, or the main thread in `CfixCreateThread2`. -/
theorem SharedRun.Inv.joined (h : s.Inv m i) (hcreating : s.creating m = .idle) (hhandles : s.handles = [])
    (t : ThreadId) :
    s.threads t = .absent ∨ s.threads t = .finished := by
  have hgone : ∀ u, u ∉ s.handles := by
    intro u
    rw [hhandles]
    exact List.not_mem_nil
  have hrunning : ∀ u, s.threads u ≠ .running := by
    intro u hu
    have hok := h.threads u
    rw [SharedRun.ThreadOk, hu] at hok
    exact hgone u hok.2
  have hwaiting : ∀ p, s.creating p ≠ .waiting t := by
    intro p hp
    rcases (h.creators p).1 (by rw [hp]; exact Creation.noConfusion) with ⟨rfl, -⟩ | hr
    · rw [hcreating] at hp
      cases hp
    · exact hrunning p hr
  have hok := h.threads t
  rw [SharedRun.ThreadOk] at hok
  cases hpc : s.threads t with
  | absent         => exact .inl rfl
  | finished       => exact .inr rfl
  | started p j    =>
      rw [hpc] at hok
      exact absurd hok.2 (hwaiting p)
  | registered p j =>
      rw [hpc] at hok
      exact absurd hok.2.1 (hwaiting p)
  | referenced p j =>
      rw [hpc] at hok
      exact absurd hok.2.1 (hwaiting p)
  | prepared p     =>
      rw [hpc] at hok
      exact absurd hok.2.1 (hwaiting p)
  | rejected p     =>
      rw [hpc] at hok
      exact absurd hok (hwaiting p)
  | running        => exact absurd hpc (hrunning t)
  | leaving        =>
      rw [hpc] at hok
      exact absurd hok.2 (hgone t)
  | freeing        =>
      rw [hpc] at hok
      exact hok.elim

theorem keeps_leaveRoutine (h : s.Inv m i) : (s.fixtureStep m .leaveRoutine).Keeps (SharedRun.Kept m) := by
  simp only [SharedRun.fixtureStep]
  split
  case isFalse => trivial
  case isTrue hjoin =>
    obtain ⟨hmain, hcreating, hhandles⟩ := hjoin
    have hquiet := h.joined hcreating hhandles
    refine ⟨i, { h with
      phase    := SharedRun.phaseOk_of_inside (.inl rfl) (h.inside (.inr hmain))
      quiet    := fun _ => hquiet
      threads  := fun t => (h.threads t).frame rfl rfl id (fun _ => id)
      creators := ?_ }⟩
    intro t
    refine ⟨?_, (h.creators t).2⟩
    intro hne
    rcases (h.creators t).1 hne with ⟨rfl, -⟩ | hrunning
    · exact absurd hcreating hne
    · exact .inr hrunning

theorem keeps_afterTestCaseFinish (h : s.Inv m i) : (s.fixtureStep m .afterTestCaseFinish).Keeps (SharedRun.Kept m) := by
  simp only [SharedRun.fixtureStep]
  split
  case isFalse => trivial
  case isTrue hmain =>
    have hquiet : s.main ≠ .inRoutine := by
      rw [hmain]
      exact FixturePc.noConfusion
    obtain ⟨hslot, hnext, st, hst, hcount⟩ := h.inside (.inl hmain)
    simp only [ExecContext.afterTestCaseFinish, hslot, hst]
    refine ⟨i, h.of_quiet hquiet h.freed (states_update_ne h.allocated) ?_ rfl rfl h.bounded⟩
    exact SharedRun.phaseOk_of_inside (.inl hmain) ⟨hslot, hnext, _, Function.update_self .., hcount⟩

theorem keeps_releaseFixture (h : s.Inv m i) : (s.fixtureStep m .releaseFixture).Keeps (SharedRun.Kept m) := by
  simp only [SharedRun.fixtureStep]
  split
  case isFalse => trivial
  case isTrue hmain =>
    have hquiet : s.main ≠ .inRoutine := by
      rw [hmain]
      exact FixturePc.noConfusion
    obtain ⟨hslot, hnext, st, hst, hcount⟩ := h.inside (.inl hmain)
    have hlast : (st.referenceCount - 1 == 0) = true := by
      rw [hcount, h.sharers_quiet hquiet]
      rfl
    simp only [ExecContext.releaseFixture, ExecContext.releaseCurrentExecutionState, hslot, hst, Option.map_some,
      Taken.of, hlast, if_true]
    refine ⟨i, h.of_quiet hquiet h.freed (states_update_ne h.allocated) ⟨hslot, hnext, ?_⟩ rfl rfl h.bounded⟩
    show Function.update s.context.states i _ i ≠ none
    rw [Function.update_self]
    exact Option.some_ne_none _

/-- The fixture's state is freed. -/
theorem keeps_freeFixture (h : s.Inv m i) : (s.fixtureStep m .freeFixture).Keeps (SharedRun.Kept m) := by
  simp only [SharedRun.fixtureStep]
  split
  case isFalse => trivial
  case isTrue hmain =>
    have hquiet : s.main ≠ .inRoutine := by
      rw [hmain]
      exact FixturePc.noConfusion
    obtain ⟨hslot, hnext, hsome⟩ := h.freeing hmain
    obtain ⟨st, hst⟩ := Option.ne_none_iff_exists'.mp hsome
    simp only [ExecContext.freeCurrentExecutionState, hslot, hst, Option.map_some, Taken.of]
    have hnone : ∀ j, Function.update s.context.states i none j = none := by
      intro j
      by_cases hj : j = i
      · rw [hj, Function.update_self]
      · rw [Function.update_of_ne hj]
        exact h.allocated j hj
    refine ⟨i + 1, h.of_quiet hquiet ?_ (fun j _ => hnone j) ⟨Function.update_self .., hnone _, hnext⟩ rfl rfl ?_⟩
    · show s.freed ++ [_] = _
      rw [h.freed, List.range_succ, List.map_append]
      rfl
    · intro t j hj
      show j < s.context.nextState
      by_cases ht : t = m
      · subst ht
        exact nomatch (Function.update_self ..).symm.trans hj
      · exact h.bounded t j ((Function.update_of_ne ht ..).symm.trans hj)

/-! ## The steps of the other threads -/

theorem sharers_update (h : s.Inv m i) (s' : SharedRun) (c : ThreadId) (pc : ChildPc)
    (hthreads : s'.threads = Function.update s.threads c pc) :
    s'.sharers + (if (s.threads c).sharing = true then 1 else 0) = s.sharers + if pc.sharing = true then 1 else 0 := by
  rw [SharedRun.sharers, hthreads]
  exact ncard_update (fun pc : ChildPc => pc.sharing = true) s.threads c pc h.finite

/-- The thread goes on without taking a reference or giving one back. -/
theorem sharers_of_sharing (h : s.Inv m i) {c : ThreadId} {pc : ChildPc}
    (hthreads : s'.threads = Function.update s.threads c pc) (hsharing : pc.sharing = (s.threads c).sharing) :
    s'.sharers = s.sharers := by
  have hupdate := sharers_update h s' c pc hthreads
  rw [hsharing] at hupdate
  exact Nat.add_right_cancel hupdate

/-- A child thread that uses the state does so in a routine. -/
theorem SharedRun.Inv.inRoutine (h : s.Inv m i) {c : ThreadId} (habsent : s.threads c ≠ .absent)
    (hfinished : s.threads c ≠ .finished) : s.main = .inRoutine := by
  by_contra hmain
  rcases h.quiet hmain c with hc | hc
  · exact habsent hc
  · exact hfinished hc

theorem SharedRun.Inv.ne_main (h : s.Inv m i) {c : ThreadId} (habsent : s.threads c ≠ .absent) : c ≠ m := by
  rintro rfl
  exact habsent h.main_

/-- A thread that is in no routine is not in `CfixCreateThread2`. -/
theorem SharedRun.Inv.creating_idle (h : s.Inv m i) {c : ThreadId} (hc : c ≠ m) (hrunning : s.threads c ≠ .running) :
    s.creating c = .idle := by
  by_contra hne
  rcases (h.creators c).1 hne with ⟨heq, -⟩ | hr
  · exact hc heq
  · exact hrunning hr

theorem SharedRun.PhaseOk.frame (h : s.PhaseOk m i) (hmain : s'.main = s.main)
    (hslot : s'.context.slot m = s.context.slot m) (hstates : s'.context.states = s.context.states)
    (hnext : s'.context.nextState = s.context.nextState) (hsharers : s'.sharers = s.sharers) : s'.PhaseOk m i := by
  unfold SharedRun.PhaseOk at h ⊢
  rw [hmain, hslot, hstates, hnext, hsharers]
  exact h

/-- A thread in `CfixsThreadStart`, outside its routine. -/
theorem SharedRun.Inv.inThreadStart (h : s.Inv m i) {c : ThreadId} {pc : ChildPc} (hpc : s.threads c = pc)
    (habsent : pc ≠ .absent) (hfinished : pc ≠ .finished) (hrunning : pc ≠ .running) :
    c ≠ m ∧ s.main = .inRoutine ∧ s.creating c = .idle ∧ s.PcOk i c pc := by
  subst hpc
  exact ⟨h.ne_main habsent, h.inRoutine habsent hfinished, h.creating_idle (h.ne_main habsent) hrunning, h.threads c⟩

/-- One child thread goes on, and the others find what they need. -/
theorem SharedRun.Inv.of_thread (h : s.Inv m i) {c : ThreadId} {pc : ChildPc} (hc : c ≠ m)
    (hthreads : s'.threads = Function.update s.threads c pc) (hmain : s'.main = s.main) (hfreed : s'.freed = s.freed)
    (hcreating : s'.creating = s.creating) (hidle : s.creating c = .idle)
    (hslot : ∀ t, t ≠ c → s'.context.slot t = s.context.slot t)
    (hslot_c : ∀ j, s'.context.slot c = some j → j < s.context.nextState)
    (hnext : s'.context.nextState = s.context.nextState) (hstates : ∀ j, j ≠ i → s'.context.states j = none)
    (hhandles : ∀ t, t ≠ c → t ∈ s.handles → t ∈ s'.handles) (hphase : s'.PhaseOk m i) (hok : s'.PcOk i c pc)
    (hquiet : s.main ≠ .inRoutine → pc = .absent ∨ pc = .finished) : s'.Inv m i where
  freed     := hfreed.trans h.freed
  allocated := hstates
  phase     := hphase
  quiet     := by
    intro hm t
    rw [hmain] at hm
    rw [hthreads, Function.update_apply]
    split
    · exact hquiet hm
    · exact h.quiet hm t
  threads   := by
    intro t
    by_cases ht : t = c
    · rw [ht, SharedRun.ThreadOk, hthreads, Function.update_self]
      exact hok
    · apply (h.threads t).frame (by rw [hthreads, Function.update_of_ne ht]) (hslot t ht) (hhandles t ht)
      intro p hp
      rw [hcreating]
      exact hp
  creators  := by
    intro t
    refine ⟨?_, by rw [hcreating]; exact (h.creators t).2⟩
    intro hne
    rw [hcreating] at hne
    have ht : t ≠ c := by
      rintro rfl
      exact hne hidle
    rw [hmain, hthreads, Function.update_of_ne ht]
    exact (h.creators t).1 hne
  main_     := by
    rw [hthreads, Function.update_of_ne (Ne.symm hc)]
    exact h.main_
  finite    := by
    rw [hthreads]
    exact finite_update (fun pc : ChildPc => pc.sharing = true) s.threads c pc h.finite
  bounded   := by
    intro t j hj
    rw [hnext]
    by_cases ht : t = c
    · rw [ht] at hj
      exact hslot_c j hj
    · rw [hslot t ht] at hj
      exact h.bounded t j hj

theorem SharedRun.creates_self (s : SharedRun) (t : ThreadId) (creation : Creation) :
    (s.creates t creation).creating t = creation := Function.update_self ..

theorem SharedRun.creates_of_ne (s : SharedRun) {t u : ThreadId} (hu : u ≠ t) (creation : Creation) :
    (s.creates t creation).creating u = s.creating u := Function.update_of_ne hu ..

/-- A thread goes on in a routine, without a new reference. -/
theorem SharedRun.Inv.advances (h : s.Inv m i) (hmain : s.main = .inRoutine) {c : ThreadId} {pc : ChildPc} (hc : c ≠ m)
    {handles : List ThreadId} (hidle : s.creating c = .idle) (hsharing : pc.sharing = (s.threads c).sharing)
    (hhandles : ∀ t, t ≠ c → t ∈ s.handles → t ∈ handles)
    (hok : SharedRun.PcOk { s with handles := handles } i c pc) :
    SharedRun.Inv m { s.at c pc with handles := handles } i := by
  have hsharers : SharedRun.sharers { s.at c pc with handles := handles } = s.sharers := sharers_of_sharing h rfl hsharing
  refine h.of_thread hc rfl rfl rfl rfl hidle (fun _ _ => rfl) (fun j hj => h.bounded c j hj) rfl h.allocated hhandles
    ?_ ?_ (fun hne => absurd hmain hne)
  · have hinside := h.inside (.inr hmain)
    rw [← hsharers] at hinside
    exact SharedRun.phaseOk_of_inside (.inr hmain) hinside
  · exact SharedRun.PcOk.frame hok rfl id (fun _ => id)

/-- A thread gets on in `CfixCreateThread2`. -/
theorem SharedRun.Inv.creates (h : s.Inv m i) {t : ThreadId} {creation : Creation}
    (hwaited : ∀ c, s.creating t = .waiting c → (s.creates t creation).ThreadOk i c)
    (hactive : creation ≠ .idle → (t = m ∧ s.main = .inRoutine) ∨ s.threads t = .running)
    (hobtained : ∀ j, creation = .obtained j → j = i) : (s.creates t creation).Inv m i :=
  { h with
    phase    := h.phase
    threads  := by
      intro c
      by_cases hc : s.creating t = .waiting c
      · exact hwaited c hc
      · have hcreating : ∀ p, s.creating p = .waiting c → (s.creates t creation).creating p = .waiting c := by
          intro p hp
          have hne : p ≠ t := by
            rintro rfl
            exact hc hp
          rw [s.creates_of_ne hne]
          exact hp
        exact (h.threads c).frame rfl rfl id hcreating
    creators := by
      intro u
      by_cases hu : u = t
      · subst hu
        rw [SharedRun.CreatorOk, s.creates_self]
        exact ⟨hactive, hobtained⟩
      · rw [SharedRun.CreatorOk, s.creates_of_ne hu]
        exact h.creators u }

/-- A thread that is waited for lets its creator go on. -/
theorem SharedRun.Inv.signals (h : s.Inv m i) {c p : ThreadId} (hwaits : s.creating p = .waiting c)
    (hok : (s.creates p .signalled).ThreadOk i c) : (s.creates p .signalled).Inv m i := by
  apply h.creates
  · intro d hd
    rw [hwaits] at hd
    cases hd
    exact hok
  · intro _
    apply (h.creators p).1
    rw [hwaits]
    exact Creation.noConfusion
  · intro j hj
    cases hj

/-! ### In the test code -/

/-- A thread in a routine has the state of the fixture. -/
theorem SharedRun.Inv.slot_of_inUserCode (h : s.Inv m i) {t : ThreadId} (ht : s.inUserCode m t) :
    s.context.slot t = some i := by
  rcases ht.1 with ⟨rfl, hmain⟩ | hrunning
  · exact (h.inside (.inr hmain)).1
  · have hok := h.threads t
    rw [SharedRun.ThreadOk, hrunning] at hok
    exact hok.1

theorem keeps_reportEvent (h : s.Inv m i) (t : ThreadId) (event : EventType) :
    (s.userStep m o (.reportEvent t event)).Keeps (SharedRun.Kept m) := by
  simp only [SharedRun.userStep]
  split
  case isFalse => trivial
  case isTrue =>
    rw [reportEvent_context]
    exact ⟨i, h⟩

theorem keeps_createChildThread (h : s.Inv m i) (t : ThreadId) :
    (s.userStep m o (.createChildThread t)).Keeps (SharedRun.Kept m) := by
  simp only [SharedRun.userStep]
  split
  case isFalse => trivial
  case isTrue ht =>
    have hcall : s.context.createChildThread t = (sOk, some i) := by
      simp only [ExecContext.createChildThread, h.slot_of_inUserCode ht]
    rw [hcall]
    refine ⟨i, h.creates ?_ (fun _ => ht.1) ?_⟩
    · intro c hc
      rw [ht.2] at hc
      cases hc
    · intro j hj
      cases hj
      rfl

theorem keeps_createThread (h : s.Inv m i) (t : ThreadId) (child : Option ThreadId) :
    (s.userStep m o (.createThread t child)).Keeps (SharedRun.Kept m) := by
  simp only [SharedRun.userStep]
  cases hcreating : s.creating t with
  | idle        => trivial
  | waiting c   => trivial
  | signalled   => trivial
  | obtained j  =>
      have hj : j = i := (h.creators t).2 j hcreating
      have hnot : ∀ c, s.creating t ≠ .waiting c := by
        intro c hc
        rw [hcreating] at hc
        cases hc
      cases child with
      | none   =>
          exact ⟨i, h.creates (fun c hc => absurd hc (hnot c)) (fun hne => absurd rfl hne) (fun _ hk => nomatch hk)⟩
      | some c =>
          simp only []
          split
          case isFalse => trivial
          case isTrue hnew =>
            obtain ⟨hc, habsent⟩ := hnew
            have hactive := (h.creators t).1 (by rw [hcreating]; exact Creation.noConfusion)
            have hmain : s.main = .inRoutine := by
              rcases hactive with ⟨-, hmain⟩ | hrunning
              · exact hmain
              · exact h.inRoutine (by rw [hrunning]; exact ChildPc.noConfusion)
                  (by rw [hrunning]; exact ChildPc.noConfusion)
            have hwaits : (s.creates t (.waiting c)).Inv m i :=
              h.creates (fun c hc => absurd hc (hnot c)) (fun _ => hactive) (fun _ hk => nomatch hk)
            have hct : c ≠ t := by
              rintro rfl
              rcases hactive with ⟨heq, -⟩ | hrunning
              · exact hc heq
              · rw [habsent] at hrunning
                cases hrunning
            have hidle : (s.creates t (.waiting c)).creating c = .idle := by
              rw [s.creates_of_ne hct]
              exact h.creating_idle hc (by rw [habsent]; exact ChildPc.noConfusion)
            have hok : (s.creates t (.waiting c)).PcOk i c (.started t j) := ⟨hj, s.creates_self t _⟩
            have hsharing : ChildPc.sharing (.started t j) = ((s.creates t (.waiting c)).threads c).sharing :=
              (congrArg ChildPc.sharing habsent).symm
            exact ⟨i, hwaits.advances hmain hc hidle hsharing (fun _ _ => id) hok⟩

theorem keeps_resume (h : s.Inv m i) (t : ThreadId) : (s.userStep m o (.resume t)).Keeps (SharedRun.Kept m) := by
  simp only [SharedRun.userStep]
  split
  case isFalse => trivial
  case isTrue hsignalled =>
    refine ⟨i, h.creates ?_ (fun hne => absurd rfl hne) (fun _ hk => nomatch hk)⟩
    intro c hc
    rw [hsignalled] at hc
    cases hc

/-! ### In `CfixsThreadStart` -/

theorem keeps_register (h : s.Inv m i) (c : ThreadId) (succeeds : Bool) :
    (s.childStep o (.register c succeeds)).Keeps (SharedRun.Kept m) := by
  simp only [SharedRun.childStep]
  cases hpc : s.threads c with
  | started p j =>
      obtain ⟨hc, hmain, hidle, hok⟩ := h.inThreadStart hpc (by simp) (by simp) (by simp)
      have hsharing : (s.threads c).sharing = false := congrArg ChildPc.sharing hpc
      cases succeeds with
      | true  =>
          refine ⟨i, h.advances hmain hc hidle hsharing.symm (fun t _ => List.mem_cons_of_mem c) ?_⟩
          exact ⟨hok.1, hok.2, List.mem_cons_self⟩
      | false => exact ⟨i, h.advances hmain hc hidle hsharing.symm (fun _ _ => id) hok.2⟩
  | _ => trivial

/-- The child takes its reference while the main thread has one. -/
theorem keeps_reference (h : s.Inv m i) (c : ThreadId) : (s.childStep o (.reference c)).Keeps (SharedRun.Kept m) := by
  simp only [SharedRun.childStep]
  cases hpc : s.threads c with
  | registered p j =>
      obtain ⟨hc, hmain, hidle, rfl, hwaits, hhandle⟩ := h.inThreadStart hpc (by simp) (by simp) (by simp)
      obtain ⟨hslot, hnext, st, hst, hcount⟩ := h.inside (.inr hmain)
      simp only [ExecContext.referenceExecutionState, hst, Option.map_some, Taken.of]
      have hsharers : (s.at c (.referenced p j)).sharers = s.sharers + 1 := by
        have hupdate := sharers_update h (s.at c (.referenced p j)) c (.referenced p j) rfl
        rw [hpc] at hupdate
        exact hupdate
      refine ⟨j, h.of_thread hc rfl rfl rfl rfl hidle (fun _ _ => rfl) (fun k hk => h.bounded c k hk) rfl
        (states_update_ne h.allocated) (fun _ _ => id) ?_ ?_ (fun hne => absurd hmain hne)⟩
      · refine SharedRun.phaseOk_of_inside (.inr hmain) ⟨hslot, hnext, _, Function.update_self .., ?_⟩
        show st.referenceCount + 1 = 1 + ((s.at c (.referenced p j)).sharers : Int)
        omega
      · exact ⟨rfl, hwaits, hhandle⟩
  | _ => trivial

theorem keeps_setState (h : s.Inv m i) (c : ThreadId) : (s.childStep o (.setState c)).Keeps (SharedRun.Kept m) := by
  simp only [SharedRun.childStep]
  cases hpc : s.threads c with
  | referenced p j =>
      obtain ⟨hc, hmain, hidle, rfl, hwaits, hhandle⟩ := h.inThreadStart hpc (by simp) (by simp) (by simp)
      obtain ⟨hslot, hnext, hcounted⟩ := h.inside (.inr hmain)
      have hsharing : (s.threads c).sharing = true := congrArg ChildPc.sharing hpc
      have hsharers : (s.at c (.prepared p)).sharers = s.sharers := sharers_of_sharing h rfl hsharing.symm
      refine ⟨j, h.of_thread hc rfl rfl rfl rfl hidle (fun t ht => Function.update_of_ne ht ..) ?_ rfl h.allocated
        (fun _ _ => id) ?_ ?_ (fun hne => absurd hmain hne)⟩
      · intro k hk
        have hslot' : Function.update s.context.slot c (some j) c = some k := hk
        rw [Function.update_self] at hslot'
        cases hslot'
        rw [hnext]
        exact Nat.lt_succ_self j
      · refine SharedRun.phaseOk_of_inside (.inr hmain) ⟨?_, hnext, ?_⟩
        · exact (Function.update_of_ne (Ne.symm hc) ..).trans hslot
        · show ∃ st, s.context.states j = some st ∧ st.referenceCount = 1 + ((s.at c (.prepared p)).sharers : Int)
          rw [hsharers]
          exact hcounted
      · exact ⟨Function.update_self .., hwaits, hhandle⟩
  | _ => trivial

theorem keeps_signal (h : s.Inv m i) (c : ThreadId) : (s.childStep o (.signal c)).Keeps (SharedRun.Kept m) := by
  simp only [SharedRun.childStep]
  cases hpc : s.threads c with
  | prepared p =>
      obtain ⟨hc, hmain, hidle, hslot, hwaits, hhandle⟩ := h.inThreadStart hpc (by simp) (by simp) (by simp)
      have hsharing : (s.threads c).sharing = true := congrArg ChildPc.sharing hpc
      have hruns : (s.at c .running).Inv m i :=
        h.advances hmain hc hidle hsharing.symm (fun _ _ => id) ⟨hslot, hhandle⟩
      refine ⟨i, hruns.signals hwaits ?_⟩
      unfold SharedRun.ThreadOk
      show SharedRun.PcOk _ i c (Function.update s.threads c .running c)
      rw [Function.update_self]
      exact ⟨hslot, hhandle⟩
  | rejected p =>
      obtain ⟨hc, hmain, hidle, hwaits⟩ := h.inThreadStart hpc (by simp) (by simp) (by simp)
      have hsharing : (s.threads c).sharing = false := congrArg ChildPc.sharing hpc
      have hends : (s.at c .finished).Inv m i := h.advances hmain hc hidle hsharing.symm (fun _ _ => id) trivial
      refine ⟨i, hends.signals hwaits ?_⟩
      unfold SharedRun.ThreadOk
      show SharedRun.PcOk _ i c (Function.update s.threads c .finished c)
      rw [Function.update_self]
      trivial
  | _ => trivial

theorem keeps_leave (h : s.Inv m i) (c : ThreadId) (raised : Bool) :
    (s.childStep o (.leave c raised)).Keeps (SharedRun.Kept m) := by
  simp only [SharedRun.childStep]
  split
  case isFalse => trivial
  case isTrue hleaves =>
    obtain ⟨hrunning, hidle⟩ := hleaves
    have habsent : s.threads c ≠ .absent := by
      rw [hrunning]
      exact ChildPc.noConfusion
    have hmain := h.inRoutine habsent (by rw [hrunning]; exact ChildPc.noConfusion)
    have hsharing : (s.threads c).sharing = true := congrArg ChildPc.sharing hrunning
    have hok := h.threads c
    rw [SharedRun.ThreadOk, hrunning] at hok
    rw [reportEvent_context, ite_self]
    exact ⟨i, h.advances hmain (h.ne_main habsent) hidle hsharing.symm (fun _ _ => id) hok⟩

/-- The child's reference is not the last one. -/
theorem keeps_release (h : s.Inv m i) (c : ThreadId) : (s.childStep o (.release c)).Keeps (SharedRun.Kept m) := by
  simp only [SharedRun.childStep]
  split
  case isFalse => trivial
  case isTrue hpc =>
    obtain ⟨hc, hmain, hidle, hown, hhandle⟩ := h.inThreadStart hpc (by simp) (by simp) (by simp)
    obtain ⟨hslot, hnext, st, hst, hcount⟩ := h.inside (.inr hmain)
    have hsharers : (s.at c .finished).sharers + 1 = s.sharers := by
      have hupdate := sharers_update h (s.at c .finished) c .finished rfl
      rw [hpc] at hupdate
      exact hupdate
    have hlast : (st.referenceCount - 1 == 0) = false := by
      apply beq_false_of_ne
      omega
    simp only [ExecContext.releaseCurrentExecutionState, hown, hst, Option.map_some, Taken.of, hlast, Bool.false_eq_true,
      if_false]
    refine ⟨i, h.of_thread hc rfl rfl rfl rfl hidle (fun _ _ => rfl) (fun k hk => h.bounded c k hk) rfl
      (states_update_ne h.allocated) (fun _ _ => id) ?_ ?_ (fun hne => absurd hmain hne)⟩
    · refine SharedRun.phaseOk_of_inside (.inr hmain) ⟨hslot, hnext, _, Function.update_self .., ?_⟩
      show st.referenceCount - 1 = 1 + ((s.at c .finished).sharers : Int)
      omega
    · trivial

theorem keeps_free (h : s.Inv m i) (c : ThreadId) : (s.childStep o (.free c)).Keeps (SharedRun.Kept m) := by
  simp only [SharedRun.childStep]
  split
  case isFalse => trivial
  case isTrue hpc =>
    have hok := h.threads c
    rw [SharedRun.ThreadOk, hpc] at hok
    exact hok.elim

theorem keeps_exit (h : s.Inv m i) (c : ThreadId) : (s.childStep o (.exit c)).Keeps (SharedRun.Kept m) := by
  simp only [SharedRun.childStep]
  split
  case isFalse => trivial
  case isTrue hpc =>
    have hc : c ≠ m := h.ne_main (by rw [hpc]; exact ChildPc.noConfusion)
    have hidle := h.creating_idle hc (by rw [hpc]; exact ChildPc.noConfusion)
    have hsharing : (s.threads c).sharing = false := congrArg ChildPc.sharing hpc
    have hsharers : (s.at c .absent).sharers = s.sharers := sharers_of_sharing h rfl hsharing.symm
    refine ⟨i, h.of_thread hc rfl rfl rfl rfl hidle (fun t ht => Function.update_of_ne ht ..) ?_ rfl h.allocated
      (fun t ht => (List.mem_erase_of_ne ht).mpr) ?_ ?_ (fun _ => .inl rfl)⟩
    · intro k hk
      have hslot : Function.update s.context.slot c none c = some k := hk
      rw [Function.update_self] at hslot
      cases hslot
    · exact h.phase.frame rfl (Function.update_of_ne (Ne.symm hc) ..) rfl rfl hsharers
    · trivial

/-! ## Runs -/

/-- **Every step keeps the invariant, and none uses a freed state.** -/
theorem keeps_step (h : s.Inv m i) (a : SharedAction) : (s.step m o a).Keeps (SharedRun.Kept m) := by
  cases a with
  | beforeFixtureStart memory => exact keeps_beforeFixtureStart h memory
  | enterRoutine              => exact keeps_enterRoutine h
  | leaveRoutine              => exact keeps_leaveRoutine h
  | beforeTestCaseStart       =>
      show (if s.main = .inFixture then Taken.done s else .disabled).Keeps (SharedRun.Kept m)
      split
      case isTrue  => exact ⟨i, h⟩
      case isFalse => trivial
  | afterTestCaseFinish       => exact keeps_afterTestCaseFinish h
  | releaseFixture            => exact keeps_releaseFixture h
  | freeFixture               => exact keeps_freeFixture h
  | reportEvent t event       => exact keeps_reportEvent (o := o) h t event
  | createChildThread t       => exact keeps_createChildThread (o := o) h t
  | createThread t child      => exact keeps_createThread (o := o) h t child
  | register c succeeds       => exact keeps_register (o := o) h c succeeds
  | reference c               => exact keeps_reference (o := o) h c
  | setState c                => exact keeps_setState (o := o) h c
  | signal c                  => exact keeps_signal (o := o) h c
  | resume t                  => exact keeps_resume (o := o) h t
  | leave c raised            => exact keeps_leave (o := o) h c raised
  | release c                 => exact keeps_release (o := o) h c
  | free c                    => exact keeps_free (o := o) h c
  | exit c                    => exact keeps_exit (o := o) h c

/-- The state of a fixture is counted right and never used after it was freed. All the states before it were freed
    once, by `AfterFixtureFinish`. -/
structure SharedRun.FreedOnce (m : ThreadId) (o : Options) (s : SharedRun) : Prop where
  counted : s.main = .inFixture ∨ s.main = .inRoutine →
    ∃ i st, s.context.slot m = some i ∧ s.context.states i = some st ∧ st.referenceCount = 1 + s.sharers
  shared  : ∀ t, s.threads t = .running → s.context.slot t = s.context.slot m
  safe    : ∀ a, s.step m o a ≠ .faults
  current : s.main ≠ .outside →
    ∃ i, s.context.slot m = some i ∧ s.context.nextState = i + 1 ∧
      s.freed = (List.range i).map (.afterFixtureFinish, ·)
  between : s.main = .outside →
    (∀ i, s.context.states i = none) ∧ s.freed = (List.range s.context.nextState).map (.afterFixtureFinish, ·)
  fresh   : s.main = .outside → ∃ x, s.context.beforeFixtureStart m true = (sOk, x) ∧
    x.slot m = some s.context.nextState ∧
    x.states s.context.nextState = some { failureCount := 0#32, inconclusiveCount := 0#32, referenceCount := 1 } ∧
    (∀ p ∈ s.freed, p.2 ≠ s.context.nextState) ∧ ∀ t, s.context.slot t ≠ some s.context.nextState

/-- **The shared state is freed exactly once**, in every interleaving. -/
theorem freedOnce_run {as : List SharedAction} (hr : run (nextOf (SharedRun.step m o)) .created as = some s) :
    s.FreedOnce m o := by
  obtain ⟨⟨i, h⟩, hsafe⟩ := safe_run (I := SharedRun.Kept m) (fun _ a ⟨_, h⟩ => keeps_step h a) ⟨0, inv_sharedCreated⟩ hr
  refine ⟨?_, ?_, ?_, ?_, ?_, ?_⟩
  · intro hmain
    obtain ⟨hslot, -, st, hst, hcount⟩ := h.inside hmain
    exact ⟨i, st, hslot, hst, hcount⟩
  · intro t ht
    have hmain := h.inRoutine (c := t) (by rw [ht]; exact ChildPc.noConfusion) (by rw [ht]; exact ChildPc.noConfusion)
    have hok := h.threads t
    rw [SharedRun.ThreadOk, ht] at hok
    rw [hok.1, (h.inside (.inr hmain)).1]
  · exact hsafe
  · intro hmain
    cases hpc : s.main with
    | outside   => exact absurd hpc hmain
    | inFixture => exact ⟨i, (h.inside (.inl hpc)).1, (h.inside (.inl hpc)).2.1, h.freed⟩
    | inRoutine => exact ⟨i, (h.inside (.inr hpc)).1, (h.inside (.inr hpc)).2.1, h.freed⟩
    | freeing   => exact ⟨i, (h.freeing hpc).1, (h.freeing hpc).2.1, h.freed⟩
  · intro hmain
    obtain ⟨-, hnone, hnext⟩ := h.outside hmain
    refine ⟨?_, by rw [hnext]; exact h.freed⟩
    intro j
    by_cases hj : j = i
    · rw [hj]
      exact hnone
    · exact h.allocated j hj
  · intro hmain
    obtain ⟨hslot, -, hnext⟩ := h.outside hmain
    obtain ⟨x, hcall, hslot', hstates', -⟩ := beforeFixtureStart_new hslot
    refine ⟨x, hcall, ?_, ?_, ?_, ?_⟩
    · rw [hslot', Function.update_self]
    · rw [hstates', Function.update_self]
    · intro p hp
      rw [h.freed] at hp
      obtain ⟨j, hj, rfl⟩ := List.mem_map.mp hp
      rw [hnext]
      exact Nat.ne_of_lt (List.mem_range.mp hj)
    · intro t ht
      exact Nat.lt_irrefl _ (h.bounded t _ ht)

/-- A child thread creates another one; the first one returns and the second one raises an exception. -/
def nestedThreads : List SharedAction :=
  [.beforeFixtureStart true, .enterRoutine,
   .createChildThread 0, .createThread 0 (some 1), .register 1 true, .reference 1, .setState 1, .signal 1,
   .createChildThread 1, .resume 0, .createThread 1 (some 2), .register 2 true, .reference 2, .setState 2, .signal 2,
   .leave 2 true, .resume 1, .leave 1 false, .release 1, .exit 1, .release 2, .exit 2,
   .leaveRoutine, .releaseFixture, .freeFixture]

theorem freedOnce_nestedThreads :
    ∃ s, run (nextOf (SharedRun.step 0 ⟨false, false, false⟩)) .created nestedThreads = some s ∧
      s.FreedOnce 0 ⟨false, false, false⟩ ∧ s.freed = [(.afterFixtureFinish, 0)] :=
  ⟨_, rfl, freedOnce_run (rfl : run (nextOf (SharedRun.step 0 ⟨false, false, false⟩)) .created nestedThreads = _), rfl⟩

end Cfix.Runner
