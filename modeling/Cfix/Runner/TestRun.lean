import Cfix.Lib.Transition
import Cfix.Runner.ExecCtx

/-!
# `Runner.TestRun` — a run as the execution context sees it

A run is a sequence of callbacks: fixtures, test cases in them, child threads that are created and finish,
and events that any thread reports. `allowed` is the order that the callers keep to. In such a run every
thread state is counted right, so no callback touches a freed one (`call_isSome`).
-/

namespace Cfix.Runner

open Transition

/-! ## The system -/

inductive Phase where
  | idle
  /-- In a fixture, outside its test cases: Setup or Teardown. -/
  | fixture
  | testCase
  deriving DecidableEq, Repr

structure TestRun where
  context  : ExecContext
  phase    : Phase
  /-- The child threads that have not finished. -/
  children : List ThreadId
  /-- The events that were reported since the test case began. -/
  reported : List EventType

def TestRun.created : TestRun where
  context  := .created
  phase    := .idle
  children := []
  reported := []

inductive Callback where
  | beforeFixtureStart (memory : Bool)
  | afterFixtureFinish
  | beforeTestCaseStart
  | afterTestCaseFinish
  /-- The fixture is left without any further callback, as happens after a fatal error. -/
  | leaveFixture
  /-- `CreateChildThread` on the parent, and `BeforeChildThreadStart` on the new thread. -/
  | startChildThread (parent child : ThreadId)
  /-- `AfterChildThreadFinish`; the thread ends, and its slot with it. -/
  | finishChildThread (child : ThreadId)
  | reportEvent (t : ThreadId) (event : EventType)
  deriving DecidableEq, Repr

section Run

-- the main thread and the options of the run
variable (m : ThreadId) (o : Options)

/-- The order of the callbacks. A thread that is neither the main thread nor a child thread is anonymous; it
    can report events. -/
def TestRun.allowed (r : TestRun) : Callback → Bool
  | .beforeFixtureStart _          => r.phase == .idle
  | .afterFixtureFinish            => r.phase == .fixture && r.children.isEmpty
  | .beforeTestCaseStart           => r.phase == .fixture && r.children.isEmpty
  | .afterTestCaseFinish           => r.phase == .testCase && r.children.isEmpty
  | .leaveFixture                  => r.phase != .idle && r.children.isEmpty
  | .startChildThread parent child =>
    r.phase != .idle && (parent == m || r.children.contains parent) && child != m && !r.children.contains child
  | .finishChildThread child       => r.children.contains child
  | .reportEvent _ _               => r.phase != .idle

/-- What a callback does; `none` if it touches a freed thread state. -/
def TestRun.call (r : TestRun) : Callback → Option TestRun
  | .beforeFixtureStart memory =>
    match r.context.beforeFixtureStart m memory with
    | (hr, x) => some { r with context := x, phase := if failed hr then .idle else .fixture }
  | .afterFixtureFinish => (r.context.afterFixtureFinish m).map (fun x => { r with context := x, phase := .idle })
  | .beforeTestCaseStart =>
    if failed (r.context.beforeTestCaseStart m) then some r
    else some { r with phase := .testCase, reported := [] }
  | .afterTestCaseFinish =>
    (r.context.afterTestCaseFinish m).map (fun x => { r with context := x, phase := .fixture })
  | .leaveFixture => some { r with phase := .idle }
  | .startChildThread parent child =>
    match r.context.createChildThread parent with
    | (_, none)   => some r
    | (_, some i) =>
      (r.context.beforeChildThreadStart child i).map (fun x =>
        { r with context := x, children := child :: r.children })
  | .finishChildThread child =>
    (r.context.afterChildThreadFinish child).map (fun x =>
      { r with
        context  := { x with slot := Function.update x.slot child none }
        children := r.children.erase child })
  | .reportEvent t event =>
    some { r with
      context  := (r.context.reportEvent o t event).2
      reported := if r.phase = .testCase then r.reported ++ [event] else r.reported }

def next (r : TestRun) (a : Callback) : Option TestRun := if r.allowed m a then r.call m o a else none

/-- Each callback is allowed when its turn comes, if those before it complete. -/
def TestRun.InOrder (r : TestRun) : List Callback → Prop
  | []             => True
  | a :: callbacks => r.allowed m a = true ∧ ∀ r', r.call m o a = some r' → r'.InOrder callbacks

/-! ## The invariant -/

/-- The main thread and its child threads share one state, which counts them. No state has counted a failure
    or an inconclusiveness. -/
structure Inv (r : TestRun) : Prop where
  started  : r.phase ≠ .idle → r.context.slot m ≠ none
  shared   : ∀ t ∈ r.children, r.context.slot t = r.context.slot m ∧ r.context.slot m ≠ none
  others   : ∀ t, t ≠ m → t ∉ r.children → r.context.slot t = none
  counted  : ∀ i, r.context.slot m = some i → ∃ st, r.context.states i = some st ∧
    st.referenceCount = 1 + r.children.length
  zero     : ∀ i st, r.context.states i = some st → st.failureCount = 0#32 ∧ st.inconclusiveCount = 0#32
  distinct : r.children.Nodup ∧ m ∉ r.children

end Run

variable {m : ThreadId} {o : Options} {r r' : TestRun} {a : Callback}

theorem inv_created : Inv m .created where
  started  := fun h => absurd rfl h
  shared   := fun _ h => nomatch h
  others   := fun _ _ _ => rfl
  counted  := fun _ h => nomatch h
  zero     := fun _ _ h => nomatch h
  distinct := ⟨List.nodup_nil, List.not_mem_nil⟩

/-- A thread of the run has the state of the main thread. -/
theorem Inv.slot_eq (h : Inv m r) {t : ThreadId} (ht : t = m ∨ t ∈ r.children) :
    r.context.slot t = r.context.slot m := by
  rcases ht with rfl | ht
  · rfl
  · exact (h.shared t ht).1

/-- Without child threads the steps of the main thread change only the phase and the statistics. -/
theorem Inv.of_phase (h : Inv m r) (hslot : r'.context.slot = r.context.slot)
    (hstates : ∀ i, r'.context.states i = r.context.states i ∨
      ∃ st, r.context.states i = some st ∧
        r'.context.states i = some { st with inconclusiveCount := 0#32, failureCount := 0#32 })
    (hchildren : r'.children = r.children) (hphase : r'.phase ≠ .idle → r.context.slot m ≠ none) : Inv m r' where
  started  := fun hp => by rw [hslot]; exact hphase hp
  shared   := fun t ht => by rw [hslot]; exact h.shared t (hchildren ▸ ht)
  others   := fun t ht hn => by rw [hslot]; exact h.others t ht (hchildren ▸ hn)
  counted  := by
    intro i hi
    rw [hslot] at hi
    obtain ⟨st, hst, hcount⟩ := h.counted i hi
    rw [hchildren]
    rcases hstates i with heq | ⟨st', hst', heq⟩
    · exact ⟨st, heq.trans hst, hcount⟩
    · rw [hst] at hst'
      cases hst'
      exact ⟨_, heq, hcount⟩
  zero     := by
    intro i st hst
    rcases hstates i with heq | ⟨st', hst', heq⟩
    · exact h.zero i st (heq ▸ hst)
    · rw [heq] at hst
      cases hst
      exact ⟨rfl, rfl⟩
  distinct := hchildren ▸ h.distinct

/-- The statistics after a callback: every test case counts as succeeded. -/
def Statistics.onCallback (n : Statistics) : Callback → Statistics
  | .afterTestCaseFinish =>
    { n with succeededTestCases := n.succeededTestCases + 1#32, testCases := n.testCases + 1#32 }
  | .afterFixtureFinish  => { n with fixtures := n.fixtures + 1#32 }
  | _                    => n

/-- What has to be shown for a callback. -/
def Completes (m : ThreadId) (o : Options) (r : TestRun) (a : Callback) : Prop :=
  ∃ r', r.call m o a = some r' ∧ Inv m r' ∧ r'.context.statistics = r.context.statistics.onCallback a

/-! ## The callbacks -/

/-- What holds of all allocated states holds after one of them has been changed, allocated or freed. -/
theorem forall_states_update {P : ThreadState → Prop} {states : StateId → Option ThreadState} {i : StateId}
    {v : Option ThreadState} (hall : ∀ j st, states j = some st → P st) (hv : ∀ st, v = some st → P st) :
    ∀ j st, Function.update states i v j = some st → P st := by
  intro j st hst
  rw [Function.update_apply] at hst
  split at hst
  · exact hv st hst
  · exact hall j st hst

theorem getCurrentExecutionState_some {t : ThreadId} {i : StateId} {x : ExecContext} (create memory : Bool)
    (h : x.slot t = some i) : x.getCurrentExecutionState t create memory = (some i, x) := by
  simp only [ExecContext.getCurrentExecutionState, h]

theorem completes_beforeFixtureStart (h : Inv m r) (hphase : r.phase = .idle) (memory : Bool) :
    Completes m o r (.beforeFixtureStart memory) := by
  cases hslot : r.context.slot m with
  | some i =>
      refine ⟨{ r with phase := .fixture }, ?_, ?_, rfl⟩
      · simp only [TestRun.call, ExecContext.beforeFixtureStart, getCurrentExecutionState_some true memory hslot]
        rfl
      · exact h.of_phase rfl (fun _ => .inl rfl) rfl (fun _ => by rw [hslot]; simp)
  | none =>
      have hnil : r.children = [] := by
        cases hc : r.children with
        | nil => rfl
        | cons t ts => exact absurd hslot (h.shared t (by rw [hc]; exact List.mem_cons_self)).2
      cases memory with
      | false =>
          refine ⟨r, ?_, h, rfl⟩
          simp only [TestRun.call, ExecContext.beforeFixtureStart, ExecContext.getCurrentExecutionState, hslot,
            Bool.and_false, Bool.false_eq_true, if_false]
          rw [← hphase]
          rfl
      | true =>
          have hcall : r.call m o (.beforeFixtureStart true) = some { r with
              phase   := .fixture
              context := { r.context with
                slot      := Function.update r.context.slot m (some r.context.nextState)
                states    := Function.update r.context.states r.context.nextState
                  (some { failureCount := 0#32, inconclusiveCount := 0#32, referenceCount := 1 })
                nextState := r.context.nextState + 1 } } := by
            simp only [TestRun.call, ExecContext.beforeFixtureStart, ExecContext.getCurrentExecutionState, hslot,
              Bool.and_self, if_true]
            rfl
          refine ⟨_, hcall, ?_, rfl⟩
          exact
            { started  := fun _ => by simp
              shared   := by simp [hnil]
              others   := fun t ht hn => by
                show Function.update r.context.slot m _ t = none
                rw [Function.update_of_ne ht]
                exact h.others t ht hn
              counted  := by
                intro i hi
                have hi' : r.context.nextState = i := by simpa using hi
                subst hi'
                exact ⟨_, Function.update_self .., by simp [hnil]⟩
              zero     := by
                refine forall_states_update h.zero ?_
                rintro st ⟨⟩
                exact ⟨rfl, rfl⟩
              distinct := h.distinct }

theorem completes_beforeTestCaseStart (h : Inv m r) (hphase : r.phase = .fixture) :
    Completes m o r .beforeTestCaseStart := by
  have hstarted := h.started (by rw [hphase]; simp)
  obtain ⟨i, hi⟩ := Option.ne_none_iff_exists'.mp hstarted
  refine ⟨{ r with phase := .testCase, reported := [] }, ?_, ?_, rfl⟩
  · simp only [TestRun.call, ExecContext.beforeTestCaseStart, hi]
    rfl
  · exact h.of_phase rfl (fun _ => .inl rfl) rfl (fun _ => hstarted)

theorem completes_afterTestCaseFinish (h : Inv m r) (hphase : r.phase = .testCase) :
    Completes m o r .afterTestCaseFinish := by
  have hstarted := h.started (by rw [hphase]; simp)
  obtain ⟨i, hi⟩ := Option.ne_none_iff_exists'.mp hstarted
  obtain ⟨st, hst, -⟩ := h.counted i hi
  obtain ⟨hf, hic⟩ := h.zero i st hst
  have hcall : r.call m o .afterTestCaseFinish = some { r with
      phase   := .fixture
      context := { r.context with
        statistics := r.context.statistics.countTestCase st
        states     := Function.update r.context.states i
          (some { st with inconclusiveCount := 0#32, failureCount := 0#32 }) } } := by
    simp only [TestRun.call, ExecContext.afterTestCaseFinish, hi, hst, Option.map_some]
  refine ⟨_, hcall, ?_, ?_⟩
  · refine h.of_phase rfl (fun j => ?_) rfl (fun _ => hstarted)
    by_cases hj : j = i
    · rw [hj]
      exact .inr ⟨st, hst, Function.update_self ..⟩
    · exact .inl (Function.update_of_ne hj _ _)
  · show r.context.statistics.countTestCase st = _
    rw [Statistics.countTestCase, if_pos ⟨hf, hic⟩]
    rfl

theorem completes_afterFixtureFinish (h : Inv m r) (hphase : r.phase = .fixture) (hnil : r.children = []) :
    Completes m o r .afterFixtureFinish := by
  obtain ⟨i, hi⟩ := Option.ne_none_iff_exists'.mp (h.started (by rw [hphase]; simp))
  obtain ⟨st, hst, hcount⟩ := h.counted i hi
  -- nobody shares the state any more
  have hzero : st.referenceCount - 1 = 0 := by
    rw [hcount, hnil]
    rfl
  have hcall : r.call m o .afterFixtureFinish = some { r with
      phase   := .idle
      context := { r.context with
        statistics := { r.context.statistics with fixtures := r.context.statistics.fixtures + 1#32 }
        slot       := Function.update r.context.slot m none
        states     := Function.update r.context.states i none } } := by
    simp only [TestRun.call, ExecContext.afterFixtureFinish, hi, ExecContext.dereferenceCurrentExecutionState, hst,
      if_pos hzero, Option.map_some]
  refine ⟨_, hcall, ?_, rfl⟩
  exact
    { started  := fun hp => absurd rfl hp
      shared   := by simp [hnil]
      others   := fun t ht hn => by
        show Function.update r.context.slot m none t = none
        rw [Function.update_of_ne ht]
        exact h.others t ht hn
      counted  := fun j hj => by simp at hj
      zero     := forall_states_update h.zero (fun _ hnone => nomatch hnone)
      distinct := h.distinct }

theorem completes_startChildThread {parent child : ThreadId} (h : Inv m r) (hphase : r.phase ≠ .idle)
    (hparent : parent = m ∨ parent ∈ r.children) (hchild : child ≠ m) (hfresh : child ∉ r.children) :
    Completes m o r (.startChildThread parent child) := by
  have hstarted := h.started hphase
  obtain ⟨i, hi⟩ := Option.ne_none_iff_exists'.mp hstarted
  obtain ⟨st, hst, hcount⟩ := h.counted i hi
  have hparent' : r.context.slot parent = some i := (h.slot_eq hparent).trans hi
  have hcall : r.call m o (.startChildThread parent child) = some { r with
      children := child :: r.children
      context  := { r.context with
        states := Function.update r.context.states i (some { st with referenceCount := st.referenceCount + 1 })
        slot   := Function.update r.context.slot child (some i) } } := by
    simp only [TestRun.call, ExecContext.createChildThread, hparent', ExecContext.beforeChildThreadStart, hst,
      Option.map_some]
  have hm : Function.update r.context.slot child (some i) m = some i := by
    rw [Function.update_of_ne hchild.symm]
    exact hi
  refine ⟨_, hcall, ?_, rfl⟩
  refine
    { started  := fun _ => by simp [hm]
      shared   := ?_
      others   := ?_
      counted  := ?_
      zero     := ?_
      distinct := ⟨List.nodup_cons.mpr ⟨hfresh, h.distinct.1⟩, ?_⟩ }
  · intro t ht
    refine ⟨?_, by simp [hm]⟩
    show Function.update r.context.slot child _ t = Function.update r.context.slot child _ m
    rw [hm]
    by_cases htc : t = child
    · rw [htc, Function.update_self]
    · rw [Function.update_of_ne htc, (h.shared t ((List.mem_cons.mp ht).resolve_left htc)).1]
      exact hi
  · intro t ht hn
    have htc : t ≠ child := fun heq => hn (heq ▸ List.mem_cons_self)
    show Function.update r.context.slot child _ t = none
    rw [Function.update_of_ne htc]
    exact h.others t ht (fun hmem => hn (List.mem_cons_of_mem _ hmem))
  · intro j hj
    have hj' : Function.update r.context.slot child (some i) m = some j := hj
    rw [hm] at hj'
    cases hj'
    refine ⟨_, Function.update_self .., ?_⟩
    simp only [List.length_cons, Nat.cast_add, Nat.cast_one, hcount]
    omega
  · refine forall_states_update h.zero ?_
    rintro st' ⟨⟩
    exact h.zero i st hst
  · rintro (_ | hmem)
    · exact hchild rfl
    · exact h.distinct.2 ‹_›

theorem completes_finishChildThread {child : ThreadId} (h : Inv m r) (hchild : child ∈ r.children) :
    Completes m o r (.finishChildThread child) := by
  obtain ⟨hslot, hstarted⟩ := h.shared child hchild
  obtain ⟨i, hi⟩ := Option.ne_none_iff_exists'.mp hstarted
  obtain ⟨st, hst, hcount⟩ := h.counted i hi
  have hpos : 0 < r.children.length := List.length_pos_of_mem hchild
  -- the main thread holds on to the state
  have hkeep : st.referenceCount - 1 ≠ 0 := by
    rw [hcount]
    omega
  have hchild' : r.context.slot child = some i := hslot.trans hi
  have hne : child ≠ m := fun heq => h.distinct.2 (heq ▸ hchild)
  have hcall : r.call m o (.finishChildThread child) = some { r with
      children := r.children.erase child
      context  := { r.context with
        states := Function.update r.context.states i (some { st with referenceCount := st.referenceCount - 1 })
        slot   := Function.update r.context.slot child none } } := by
    simp only [TestRun.call, ExecContext.afterChildThreadFinish, ExecContext.dereferenceCurrentExecutionState,
      hchild', hst, if_neg hkeep, Option.map_some]
  have hm : Function.update r.context.slot child none m = some i := by
    rw [Function.update_of_ne hne.symm]
    exact hi
  have hmem : ∀ t ∈ r.children.erase child, t ∈ r.children ∧ t ≠ child := by
    intro t ht
    rw [h.distinct.1.mem_erase_iff] at ht
    exact ⟨ht.2, ht.1⟩
  refine ⟨_, hcall, ?_, rfl⟩
  refine
    { started  := fun _ => by simp [hm]
      shared   := ?_
      others   := ?_
      counted  := ?_
      zero     := ?_
      distinct := ⟨h.distinct.1.erase child, fun hmm => h.distinct.2 (hmem m hmm).1⟩ }
  · intro t ht
    obtain ⟨htm, htc⟩ := hmem t ht
    refine ⟨?_, by simp [hm]⟩
    show Function.update r.context.slot child none t = Function.update r.context.slot child none m
    rw [hm, Function.update_of_ne htc, (h.shared t htm).1]
    exact hi
  · intro t ht hn
    show Function.update r.context.slot child none t = none
    by_cases htc : t = child
    · rw [htc, Function.update_self]
    · rw [Function.update_of_ne htc]
      exact h.others t ht (fun htm => hn ((h.distinct.1.mem_erase_iff).mpr ⟨htc, htm⟩))
  · intro j hj
    have hj' : Function.update r.context.slot child none m = some j := hj
    rw [hm] at hj'
    cases hj'
    refine ⟨_, Function.update_self .., ?_⟩
    simp only [List.length_erase_of_mem hchild, hcount]
    omega
  · refine forall_states_update h.zero ?_
    rintro st' ⟨⟩
    exact h.zero i st hst

/-- **Every callback of a run completes.** -/
theorem Inv.completes (h : Inv m r) (ha : r.allowed m a = true) : Completes m o r a := by
  cases a with
  | beforeFixtureStart memory =>
      exact completes_beforeFixtureStart h (by simpa [TestRun.allowed] using ha) memory
  | afterFixtureFinish =>
      simp only [TestRun.allowed, Bool.and_eq_true, beq_iff_eq, List.isEmpty_iff] at ha
      exact completes_afterFixtureFinish h ha.1 ha.2
  | beforeTestCaseStart =>
      simp only [TestRun.allowed, Bool.and_eq_true, beq_iff_eq] at ha
      exact completes_beforeTestCaseStart h ha.1
  | afterTestCaseFinish =>
      simp only [TestRun.allowed, Bool.and_eq_true, beq_iff_eq] at ha
      exact completes_afterTestCaseFinish h ha.1
  | leaveFixture => exact ⟨_, rfl, h.of_phase rfl (fun _ => .inl rfl) rfl (fun hp => absurd rfl hp), rfl⟩
  | startChildThread parent child =>
      simp only [TestRun.allowed, Bool.and_eq_true, Bool.or_eq_true, beq_iff_eq, bne_iff_ne, ne_eq,
        List.contains_iff_mem, Bool.not_eq_true', ← Bool.not_eq_true] at ha
      obtain ⟨⟨⟨hphase, hparent⟩, hchild⟩, hfresh⟩ := ha
      exact completes_startChildThread h hphase hparent hchild hfresh
  | finishChildThread child =>
      exact completes_finishChildThread h (by simpa [TestRun.allowed] using ha)
  | reportEvent t event =>
      refine ⟨_, rfl, ?_, ?_⟩
      · refine h.of_phase ?_ (fun i => .inl ?_) rfl h.started
        · show (r.context.reportEvent o t event).2.slot = _
          rw [reportEvent_context]
        · show (r.context.reportEvent o t event).2.states i = _
          rw [reportEvent_context]
      · show (r.context.reportEvent o t event).2.statistics = _
        rw [reportEvent_context]
        rfl

/-- The step lemma. -/
theorem Inv.step (h : Inv m r) (hnext : next m o r a = some r') :
    Inv m r' ∧ r'.context.statistics = r.context.statistics.onCallback a := by
  unfold next at hnext
  split at hnext
  · rename_i ha
    obtain ⟨r'', hcall, hinv, hstat⟩ := h.completes (o := o) ha
    rw [hcall] at hnext
    cases hnext
    exact ⟨hinv, hstat⟩
  · cases hnext

/-- The invariant is kept by a callback that is allowed. -/
theorem Inv.of_call (h : Inv m r) (ha : r.allowed m a = true) (hcall : r.call m o a = some r') : Inv m r' := by
  have hnext : next m o r a = some r' := by rw [next, if_pos ha, hcall]
  exact (h.step hnext).1

/-- A callback that is allowed is a step. -/
theorem Inv.next_of_allowed (h : Inv m r) (ha : r.allowed m a = true) :
    ∃ r', r.call m o a = some r' ∧ next m o r a = some r' ∧ Inv m r' := by
  obtain ⟨r', hcall, hinv, -⟩ := h.completes (o := o) ha
  exact ⟨r', hcall, by rw [next, if_pos ha, hcall], hinv⟩

/-- **Callbacks in order complete.** -/
theorem Inv.run_of_inOrder {callbacks : List Callback} (h : Inv m r) (horder : r.InOrder m o callbacks) :
    ∃ r', run (next m o) r callbacks = some r' ∧ Inv m r' := by
  induction callbacks generalizing r with
  | nil => exact ⟨r, rfl, h⟩
  | cons a callbacks ih =>
      obtain ⟨r₁, hcall, hnext, hinv⟩ := h.next_of_allowed (o := o) horder.1
      obtain ⟨r', hrun, hinv'⟩ := ih hinv (horder.2 r₁ hcall)
      exact ⟨r', run_cons.mpr ⟨r₁, hnext, hrun⟩, hinv'⟩

/-- **No callback touches a freed thread state.** -/
theorem call_isSome {calls : List Callback} (hr : run (next m o) .created calls = some r)
    (ha : r.allowed m a = true) : (r.call m o a).isSome = true := by
  have h : Inv m r := run_invariant (fun _ _ _ h hnext => (h.step hnext).1) inv_created hr
  obtain ⟨r', hcall, -⟩ := h.completes (o := o) ha
  rw [hcall]
  rfl

end Cfix.Runner
