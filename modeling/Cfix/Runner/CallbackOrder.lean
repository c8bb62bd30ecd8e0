import Cfix.Fixture.Follows
import Cfix.Kernel.SameRun
import Cfix.Runner.TestRun

/-!
# `Runner.CallbackOrder` — the fixture actions keep to the order of the callbacks (`tsexecaction.c`)

`Runner.TestRun` takes the order of the callbacks for granted. Here the callers are put in: fixture actions, on hosts
that are served by the execution context (`Serves`). Each call of an action is a callback then, and each routine is any
run of callbacks of its threads. `Serves.action` says that all of them together are a run of the system, from idle to
idle; so that actions can follow each other.
-/

namespace Cfix.Runner

open Transition

/-! ## Marks -/

/-- A callback that a fixture action makes, without its data. -/
inductive Mark where
  | fixtureStart
  | testCaseStart
  | testCaseFinish
  | fixtureFinish
  deriving DecidableEq, Repr

/-- What is left of a callback; those of a routine, and the end without a callback, leave nothing. -/
def Callback.mark : Callback → Option Mark
  | .beforeFixtureStart _  => some .fixtureStart
  | .beforeTestCaseStart   => some .testCaseStart
  | .afterTestCaseFinish   => some .testCaseFinish
  | .afterFixtureFinish    => some .fixtureFinish
  | .leaveFixture          => none
  | .startChildThread _ _  => none
  | .finishChildThread _   => none
  | .reportEvent _ _       => none

/-- What is left of a call of a fixture action. -/
def markOf : Label → Option Mark
  | .beforeFixtureStart _  => some .fixtureStart
  | .beforeTestCaseStart _ => some .testCaseStart
  | .afterTestCaseFinish _ => some .testCaseFinish
  | .afterFixtureFinish _  => some .fixtureFinish
  | .setup | .before | .test _ | .after | .teardown => none

def marks (calls : List Labelled) : List Mark := calls.filterMap fun l => markOf l.1

theorem marks_append (calls calls' : List Labelled) : marks (calls ++ calls') = marks calls ++ marks calls' :=
  List.filterMap_append ..

/-- One thing leaves one mark, or none. -/
theorem filterMap_one {α : Type} (f : α → Option Mark) (a : α) : [a].filterMap f = (f a).toList := by
  rw [List.filterMap_cons]
  cases f a <;> rfl

theorem marks_one (call : Labelled) : marks [call] = (markOf call.1).toList := filterMap_one _ call

/-! ## Routines -/

/-- A callback that a thread makes while a routine runs. -/
def Callback.ofRoutine : Callback → Bool
  | .startChildThread _ _ | .finishChildThread _ | .reportEvent _ _ => true
  | .beforeFixtureStart _ | .beforeTestCaseStart | .afterTestCaseFinish | .afterFixtureFinish | .leaveFixture => false

theorem Callback.mark_of_ofRoutine {a : Callback} (h : a.ofRoutine = true) : a.mark = none := by
  cases a <;> first | rfl | cases h

section

variable {m : ThreadId} {o : Options} {r r' : TestRun}

/-- Routines do not change the phase. -/
theorem phase_of_ofRoutine {a : Callback} (ha : a.ofRoutine = true) (h : next m o r a = some r') :
    r'.phase = r.phase := by
  unfold next at h
  split at h
  · cases a with
    | startChildThread parent child =>
        simp only [TestRun.call] at h
        split at h
        · cases h; rfl
        · obtain ⟨x, -, rfl⟩ := Option.map_eq_some_iff.mp h
          rfl
    | finishChildThread child =>
        obtain ⟨x, -, rfl⟩ := Option.map_eq_some_iff.mp h
        rfl
    | reportEvent t event => cases h; rfl
    | _ => cases ha
  · cases h

theorem phase_of_routine {callbacks : List Callback} (ha : ∀ a ∈ callbacks, a.ofRoutine = true)
    (h : run (next m o) r callbacks = some r') : r'.phase = r.phase := by
  induction callbacks generalizing r with
  | nil => cases h; rfl
  | cons a callbacks ih =>
      obtain ⟨r₁, hnext, hrest⟩ := run_cons.mp h
      rw [ih (fun b hb => ha b (List.mem_cons_of_mem _ hb)) hrest]
      exact phase_of_ofRoutine (ha a List.mem_cons_self) hnext

end

/-! ## Hosts that are served by the context -/

section

variable {σ : Type}

/-- No routine is running; all child threads have been joined. -/
structure At (R : σ → TestRun → Prop) (p : Phase) (s : σ) (r : TestRun) : Prop where
  related : R s r
  phase   : r.phase = p
  joined  : r.children = []

/-- Each call of a fixture action on the host is the callback it stands for, and its code says whether the phase
    begins. A routine makes callbacks of its threads, in any order that is allowed, and joins its child threads. That
    the callbacks complete is not asked for. -/
structure Serves (m : ThreadId) (o : Options) (h : Host σ) (R : σ → TestRun → Prop) : Prop where
  beforeFixtureStart  : ∀ {s r} (t : CfixThreadId) (f : Fixture), At R .idle s r →
    ∃ memory, ∀ r', r.call m o (.beforeFixtureStart memory) = some r' →
      At R (if failed (h.call (.beforeFixtureStart t f) s).1 then .idle else .fixture)
        (h.call (.beforeFixtureStart t f) s).2 r'
  beforeTestCaseStart : ∀ {s r} (t : CfixThreadId) (tc : TestCaseRef), At R .fixture s r →
    ∀ r', r.call m o .beforeTestCaseStart = some r' →
      At R (if failed (h.call (.beforeTestCaseStart t tc) s).1 then .fixture else .testCase)
        (h.call (.beforeTestCaseStart t tc) s).2 r'
  afterTestCaseFinish : ∀ {s r} (t : CfixThreadId) (tc : TestCaseRef) (ran : Bool), At R .testCase s r →
    ∀ r', r.call m o .afterTestCaseFinish = some r' → At R .fixture (h.call (.afterTestCaseFinish t tc ran) s).2 r'
  afterFixtureFinish  : ∀ {s r} (t : CfixThreadId) (f : Fixture) (ran : Bool), At R .fixture s r →
    ∀ r', r.call m o .afterFixtureFinish = some r' → At R .idle (h.call (.afterFixtureFinish t f ran) s).2 r'
  leaveFixture        : ∀ {s r p}, p ≠ .idle → At R p s r →
    ∀ r', r.call m o .leaveFixture = some r' → At R .idle s r'
  routine             : ∀ {s r p c}, c.isCallback = false → p ≠ .idle → At R p s r →
    ∃ callbacks, (∀ a ∈ callbacks, a.ofRoutine = true) ∧ r.InOrder m o callbacks ∧
      ∀ r', run (next m o) r callbacks = some r' → r'.children = [] ∧ R (h.call c s).2 r'

/-- The run has come from `s₀` to the phase by callbacks that the system allows, and the calls of the actions are
    among them, in their order. -/
def Mirrors (m : ThreadId) (o : Options) (R : σ → TestRun → Prop) (r₀ : TestRun) (s₀ : Run σ) (p : Phase)
    (s : Run σ) : Prop :=
  ∃ callbacks r, run (next m o) r₀ callbacks = some r ∧ Inv m r ∧ At R p s.env r ∧
    marks s.labels = marks s₀.labels ++ callbacks.filterMap Callback.mark

variable {m : ThreadId} {o : Options} {R : σ → TestRun → Prop} {r₀ : TestRun} {s₀ s s' : Run σ} {p : Phase}

theorem mirrors_refl (hinv : Inv m r₀) (h : At R p s₀.env r₀) : Mirrors m o R r₀ s₀ p s₀ :=
  ⟨[], r₀, rfl, hinv, h, (List.append_nil _).symm⟩

/-- One more callback, which is allowed where the run stands. -/
theorem Mirrors.step (h : Mirrors m o R r₀ s₀ p s) {p' : Phase} {call : Labelled}
    (hlabels : s'.labels = s.labels ++ [call])
    (hstep : ∀ r, At R p s.env r → ∃ a, r.allowed m a = true ∧ a.mark = markOf call.1 ∧
      ∀ r', r.call m o a = some r' → At R p' s'.env r') :
    Mirrors m o R r₀ s₀ p' s' := by
  obtain ⟨callbacks, r, hr, hinv, hat, hmarks⟩ := h
  obtain ⟨a, hallowed, hmark, hat'⟩ := hstep r hat
  obtain ⟨r', hcall, hnext, hinv'⟩ := hinv.next_of_allowed (o := o) hallowed
  refine ⟨callbacks ++ [a], r', run_append.mpr ⟨r, hr, run_cons.mpr ⟨r', hnext, rfl⟩⟩, hinv', hat' r' hcall, ?_⟩
  rw [hlabels, marks_append, hmarks, List.filterMap_append, List.append_assoc, marks_one, filterMap_one, hmark]

variable {h : Host σ}

/-- A routine. -/
theorem Mirrors.routine (hm : Mirrors m o R r₀ s₀ p s) (hserves : Serves m o h R) (hp : p ≠ .idle) {c : Call}
    (hc : c.isCallback = false) {hr : HRESULT} (hinvoke : h.invoke c s = (hr, s')) : Mirrors m o R r₀ s₀ p s' := by
  have hlabels := Host.labels_invoke hinvoke
  cases hinvoke
  obtain ⟨callbacks, r, hrun, hinv, hat, hmarks⟩ := hm
  obtain ⟨callbacks', hof, horder, hends⟩ := hserves.routine hc hp hat
  obtain ⟨r', hrun', hinv'⟩ := hinv.run_of_inOrder horder
  obtain ⟨hjoined, hrelated⟩ := hends r' hrun'
  have hnone : callbacks'.filterMap Callback.mark = [] := by
    rw [List.filterMap_eq_nil_iff]
    exact fun a ha => Callback.mark_of_ofRoutine (hof a ha)
  have hmark : markOf c.label = none := by
    cases c <;> first | rfl | cases hc
  refine ⟨callbacks ++ callbacks', r', run_append.mpr ⟨r, hrun, hrun'⟩, hinv',
    ⟨hrelated, (phase_of_routine hof hrun').trans hat.phase, hjoined⟩, ?_⟩
  rw [hlabels, marks_append, hmarks, List.filterMap_append, hnone, List.append_nil, marks_one, hmark]
  exact List.append_nil _

/-- The fixture is left without a callback. -/
theorem Mirrors.leaveFixture (hm : Mirrors m o R r₀ s₀ p s) (hserves : Serves m o h R) (hp : p ≠ .idle) :
    Mirrors m o R r₀ s₀ .idle s := by
  obtain ⟨callbacks, r, hrun, hinv, hat, hmarks⟩ := hm
  have hallowed : r.allowed m .leaveFixture = true := by
    simpa [TestRun.allowed, hat.phase, hat.joined] using hp
  obtain ⟨r', hcall, hnext, hinv'⟩ := hinv.next_of_allowed (o := o) hallowed
  refine ⟨callbacks ++ [.leaveFixture], r', run_append.mpr ⟨r, hrun, run_cons.mpr ⟨r', hnext, rfl⟩⟩, hinv',
    hserves.leaveFixture hp hat r' hcall, ?_⟩
  rw [hmarks, List.filterMap_append]
  exact congrArg _ (List.append_nil _).symm

theorem Mirrors.beforeFixtureStart (hm : Mirrors m o R r₀ s₀ .idle s) (hserves : Serves m o h R) {t : CfixThreadId}
    {f : Fixture} {hr : HRESULT} (hinvoke : h.invoke (.beforeFixtureStart t f) s = (hr, s')) :
    Mirrors m o R r₀ s₀ (if failed hr then .idle else .fixture) s' := by
  refine hm.step (Host.labels_invoke hinvoke) fun r hat => ?_
  obtain ⟨memory, hat'⟩ := hserves.beforeFixtureStart t f hat
  cases hinvoke
  exact ⟨.beforeFixtureStart memory, by simp [TestRun.allowed, hat.phase], rfl, hat'⟩

theorem Mirrors.beforeTestCaseStart (hm : Mirrors m o R r₀ s₀ .fixture s) (hserves : Serves m o h R)
    {t : CfixThreadId} {tc : TestCaseRef} {hr : HRESULT}
    (hinvoke : h.invoke (.beforeTestCaseStart t tc) s = (hr, s')) :
    Mirrors m o R r₀ s₀ (if failed hr then .fixture else .testCase) s' := by
  refine hm.step (Host.labels_invoke hinvoke) fun r hat => ?_
  cases hinvoke
  exact ⟨.beforeTestCaseStart, by simp [TestRun.allowed, hat.phase, hat.joined], rfl,
    hserves.beforeTestCaseStart t tc hat⟩

theorem Mirrors.afterTestCaseFinish (hm : Mirrors m o R r₀ s₀ .testCase s) (hserves : Serves m o h R)
    (t : CfixThreadId) (tc : TestCaseRef) (ran : Bool) :
    Mirrors m o R r₀ s₀ .fixture (h.notify (.afterTestCaseFinish t tc ran) s) := by
  refine hm.step (Host.labels_notify _) fun r hat => ?_
  exact ⟨.afterTestCaseFinish, by simp [TestRun.allowed, hat.phase, hat.joined], rfl,
    hserves.afterTestCaseFinish t tc ran hat⟩

theorem Mirrors.afterFixtureFinish (hm : Mirrors m o R r₀ s₀ .fixture s) (hserves : Serves m o h R)
    (t : CfixThreadId) (f : Fixture) (ran : Bool) :
    Mirrors m o R r₀ s₀ .idle (h.notify (.afterFixtureFinish t f ran) s) := by
  refine hm.step (Host.labels_notify _) fun r hat => ?_
  exact ⟨.afterFixtureFinish, by simp [TestRun.allowed, hat.phase, hat.joined], rfl,
    hserves.afterFixtureFinish t f ran hat⟩

/-! ## Fixture actions -/

/-- The phases of an action: the assertions say nothing else. -/
def Serves.outline (hserves : Serves m o h R) (a : TsexecAction) (r₀ : TestRun) (s₀ : Run σ) :
    Outline h a (Mirrors m o R r₀ s₀ .idle) (fun _ => Mirrors m o R r₀ s₀ .idle) where
  opened       := Mirrors m o R r₀ s₀ .fixture
  loop _ _     := Mirrors m o R r₀ s₀ .fixture
  started _    := Mirrors m o R r₀ s₀ .testCase
  prepared _   := Mirrors m o R r₀ s₀ .testCase
  tested _ _   := Mirrors m o R r₀ s₀ .testCase
  ended _ _    := Mirrors m o R r₀ s₀ .testCase
  stopped _ _  := Mirrors m o R r₀ s₀ .fixture
  closing _ _  := Mirrors m o R r₀ s₀ .fixture
  reject hm _  := hm
  start {s s' hr} hm _ hinvoke := by
    have hopened := hm.beforeFixtureStart hserves hinvoke
    cases hf : failed hr with
    | true  => rwa [hf, if_pos rfl] at hopened
    | false => rwa [hf, if_neg Bool.false_ne_true] at hopened
  setup {s s' hr flags} hm hinvoke := by
    have hopened := hm.routine hserves (by decide) rfl hinvoke
    split
    · exact hopened
    · split
      -- after a fatal error nothing is closed
      · exact hopened.leaveFixture hserves (by decide)
      · exact hopened
  skip _ _ hm  := hm
  announce {i hr₀ s s' hr} _ _ hm hinvoke := by
    have hstarted := hm.beforeTestCaseStart hserves hinvoke
    cases hf : failed hr with
    | true  => rwa [hf, if_pos rfl] at hstarted
    | false => rwa [hf, if_neg Bool.false_ne_true] at hstarted
  before hm hinvoke := by
    have hended := hm.routine hserves (by decide) rfl hinvoke
    split <;> exact hended
  test hm hinvoke   := hm.routine hserves (by decide) rfl hinvoke
  after hm hinvoke  := hm.routine hserves (by decide) rfl hinvoke
  abandon hm _      := hm.leaveFixture hserves (by decide)
  finish hm _       := by
    have hclosed := hm.afterTestCaseFinish hserves
    dsimp only
    split <;> exact hclosed _ _ _
  leave hm          := hm
  teardown hm hinvoke := by
    have hended := hm.routine hserves (by decide) rfl hinvoke
    split <;> exact hended
  close hm          := hm.afterFixtureFinish hserves _ _ _

/-- A fixture action goes from idle to idle. -/
theorem Serves.action (hserves : Serves m o h R) (a : TsexecAction) (hm : Mirrors m o R r₀ s₀ .idle s) :
    Mirrors m o R r₀ s₀ .idle (runFixtureExecutionAction h a s).2 := (hserves.outline a r₀ s₀).run hm

end

end Cfix.Runner
