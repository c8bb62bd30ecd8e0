import Cfix.Storage.ObjectHistory
import Cfix.Storage.PeModule

/-!
# `Storage.TestObject` — the objects of a C++ fixture (`cfixcc.h`)

`InvokeBefore` constructs the object of a test case and keeps it in the slot that is reserved for C++
fixtures; `InvokeTestMethod` runs on the object in the slot and `InvokeAfter` deletes it. The three are
separate routines of the fixture, each of which an exception can leave.
-/

namespace Cfix

/-! ## Test classes -/

/-- How the methods of a test class end, for each test case; `construct` is the constructor. -/
structure TestClass where
  setUp     : Completion
  construct : Nat → Completion
  before    : Nat → Completion
  method    : Nat → Completion
  after     : Nat → Completion
  tearDown  : Completion

/-- The heap of test objects: the address of the next one and what has happened so far. -/
structure TestObjects where
  next : Pvoid
  log  : List ObjectEvent

def TestObjects.record (s : TestObjects) (event : ObjectEvent) : TestObjects :=
  { s with log := s.log ++ [event] }

namespace TestClass

variable (c : TestClass)

def invokeSetUp : Body TestObjects := fun slots s => (c.setUp, slots, s)

def invokeTearDown : Body TestObjects := fun slots s => (c.tearDown, slots, s.record .teardownStarted)

/-- The constructor leaves no object if it raises; what Before raises leaves it in the slot. -/
def invokeBefore (i : Nat) : Body TestObjects := fun slots s =>
  let s := s.record (.beforeStarted i)
  match c.construct i with
  | .raised abortRun => (.raised abortRun, slots, s)
  | .returned        =>
    let testObject := s.next
    (c.before i, slots.setValue cfixTagReservedForCc testObject,
      { next := testObject + 1, log := s.log ++ [.constructed i testObject] })

/-- The object is deleted only if After returns. -/
def invokeAfter (i : Nat) : Body TestObjects := fun slots s =>
  let testObject := slots.getValue cfixTagReservedForCc
  match c.after i with
  | .raised abortRun => (.raised abortRun, slots, s)
  | .returned        => (.returned, slots, s.record (.destroyed testObject))

def invokeTestMethod (i : Nat) : Body TestObjects := fun slots s =>
  let testObject := slots.getValue cfixTagReservedForCc
  (c.method i, slots, s.record (.methodRan i testObject))

/-- The routines that `CFIXCC_BEGIN_CLASS` and `CFIXCC_METHOD` define. -/
def invoke : RoutineId → Body TestObjects
  | .setup    => c.invokeSetUp
  | .before i => c.invokeBefore i
  | .test i   => c.invokeTestMethod i
  | .after i  => c.invokeAfter i
  | .teardown => c.invokeTearDown

/-- How a routine ends. -/
def completion : RoutineId → Completion
  | .setup    => c.setUp
  | .before i => if c.construct i = .returned then c.before i else c.construct i
  | .test i   => c.method i
  | .after i  => c.after i
  | .teardown => c.tearDown

theorem invoke_completion (r : RoutineId) (slots : Storage) (s : TestObjects) :
    (c.invoke r slots s).1 = c.completion r := by
  cases r with
  | setup | test i | teardown => rfl
  | before i =>
      cases h : c.construct i <;> simp [invoke, invokeBefore, completion, h]
  | after i  =>
      cases h : c.after i <;> simp [invoke, invokeAfter, completion, h]

end TestClass

/-- A fixture of a test class has all routines. -/
structure Fixture.IsTestClass (f : Fixture) : Prop where
  routine : ∀ r, (∀ i ∈ r.testCase, i < f.testCases.length) → f.routine r ≠ 0

namespace PeEnvironment

variable (e : PeEnvironment TestObjects) (c : TestClass)

def running : PeEnvironment TestObjects := { e with body := c.invoke }

/-- The result of a routine's runner. -/
def code (r : RoutineId) : HRESULT :=
  r.mapHr (if failed (e.install r) then e.install r else (c.completion r).result)

/-- The codes of a run. -/
def outcomes : Outcomes where
  isValidContext      := e.isValidContext
  isDebuggerPresent   := e.isDebuggerPresent
  currentThreadId     := e.currentThreadId
  beforeFixtureStart  := e.beforeFixtureStart
  setup               := e.code c .setup
  beforeTestCaseStart := e.beforeTestCaseStart
  before i            := e.code c (.before i)
  test i              := e.code c (.test i)
  after i             := e.code c (.after i)
  teardown            := e.code c .teardown

/-- If the test case's object is constructed, Before returns, After is called and returns. -/
def Destroys (i : Nat) : Prop :=
  failed (e.beforeTestCaseStart i) = false → failed (e.install (.before i)) = false →
    c.construct i = .returned →
    c.before i = .returned ∧ failed (e.install (.after i)) = false ∧ c.after i = .returned

/-- What happens to the objects in a run. -/
def objectLog (a : TsexecAction) (tls : Storage) : List ObjectEvent :=
  ((e.running c).run a tls ⟨1, []⟩).2.env.user.log

end PeEnvironment

/-! ## One routine -/

namespace PeEnvironment

variable {e : PeEnvironment TestObjects} {c : TestClass} {f : Fixture} {r : RoutineId} {i : Nat}
  {s : PeState TestObjects}

theorem failed_result (completion : Completion) :
    failed completion.result = true ↔ completion ≠ .returned := by
  cases completion with
  | returned        => simp [Completion.result]
  | raised abortRun => cases abortRun <;> simp [Completion.result]

theorem runRoutine_running (hv : e.isValidContext = true) (hi : failed (e.install r) = false)
    (hr : f.routine r ≠ 0) : (e.running c).runRoutine f s r =
      (e.code c r, { s with
        tls := (c.invoke r (r.slots s.tls) s.user).2.1, user := (c.invoke r (r.slots s.tls) s.user).2.2 }) := by
  have hent : (e.running c).enters f r = true := by
    have hinstall : failed ((e.running c).install r) = false := hi
    simp [enters, hr, hinstall]
  rw [runRoutine_of_enters (e := e.running c) hv hent]
  simp [code, hi, running, c.invoke_completion]

theorem runRoutine_running_of_not_installed (hv : e.isValidContext = true) (hi : failed (e.install r) = true)
    (hr : f.routine r ≠ 0) : (e.running c).runRoutine f s r =
      (e.code c r, { s with tls := r.slots s.tls }) := by
  have hent : (e.running c).enters f r = false := by
    have hinstall : failed ((e.running c).install r) = true := hi
    simp [enters, hinstall]
  rw [runRoutine_of_not_enters (e := e.running c) hv hent, if_neg hr]
  simp [code, hi, running]

/-- The result of a runner is the code of the table. -/
theorem runRoutine_code (hv : e.isValidContext = true) (hr : f.routine r ≠ 0) :
    ((e.running c).runRoutine f s r).1 = e.code c r := by
  cases hi : failed (e.install r) with
  | true  => rw [runRoutine_running_of_not_installed hv hi hr]
  | false => rw [runRoutine_running hv hi hr]

end PeEnvironment

/-! ## The run -/

namespace PeEnvironment

variable {e : PeEnvironment TestObjects} {c : TestClass} {a : TsexecAction} {s s' : Run (PeState TestObjects)}
  {i : Nat}

/-- The objects so far are older than the next one. -/
def Fresh (s : TestObjects) : Prop := ∀ x ∈ s.log, ∀ p ∈ x.object, p < s.next

/-- At the head of the loop: the history is right iff no earlier test case has lost its object. -/
structure AtCase (e : PeEnvironment TestObjects) (c : TestClass) (a : TsexecAction) (i : Nat)
    (s : TestObjects) : Prop where
  opens   : (e.outcomes c).opens = true
  setUp   : failed (e.outcomes c).setup = false
  fresh   : Fresh s
  right   : Lifecycle s.log ↔ ∀ j < i, a.selects j = true → e.Destroys c j
  earlier : ∀ j < i, a.selects j = true → (e.outcomes c).stopsAt a j = false

/-- The turn of a test case that has been started. -/
structure IsTurn (e : PeEnvironment TestObjects) (a : TsexecAction) (i : Nat) : Prop where
  lt       : i < a.fixture.testCases.length
  selected : a.selects i = true
  started  : failed (e.beforeTestCaseStart i) = false

/-- The object of the test case is in the slot; `l` is the history before this turn. -/
structure Holds (e : PeEnvironment TestObjects) (c : TestClass) (a : TsexecAction) (i : Nat) (ran : Bool)
    (s : PeState TestObjects) (object : Pvoid) (l : List ObjectEvent) : Prop where
  head   : e.AtCase c a i ⟨object, l⟩
  log    : s.user.log = l ++ Lifecycle.turn i object ran false
  next   : s.user.next = object + 1
  slot   : s.tls.ccSlot = object
  made   : failed (e.install (.before i)) = false ∧ c.construct i = .returned ∧ c.before i = .returned

/-- **A turn** extends the history by that of its object. -/
theorem AtCase.turn {object : Pvoid} {l : List ObjectEvent} (h : e.AtCase c a i ⟨object, l⟩)
    (turn : e.IsTurn a i) (hi : failed (e.install (.before i)) = false) (hc : c.construct i = .returned)
    (ran destroyed : Bool)
    (hdestroyed : destroyed = true ↔
      c.before i = .returned ∧ failed (e.install (.after i)) = false ∧ c.after i = .returned) :
    Fresh ⟨object + 1, l ++ Lifecycle.turn i object ran destroyed⟩ ∧
      (Lifecycle (l ++ Lifecycle.turn i object ran destroyed) ↔
        (∀ j < i, a.selects j = true → e.Destroys c j) ∧ e.Destroys c i) := by
  refine ⟨?_, ?_⟩
  · intro x hx p hp
    rcases List.mem_append.mp hx with hx | hx
    · exact Nat.lt_succ_of_lt (h.fresh x hx p hp)
    · rw [Lifecycle.object_turn hx hp]
      exact Nat.lt_succ_self object
  · have hhead : ∀ x ∈ (Lifecycle.turn i object ran destroyed).head?, x.starts = true := by
      rintro x ⟨⟩
      rfl
    rw [Lifecycle.append_iff h.fresh (fun x hx p hp => (Lifecycle.object_turn hx hp).ge) hhead, Lifecycle.turn_iff,
      hdestroyed]
    refine and_congr h.right ?_
    constructor
    · exact fun hall _ _ _ => hall
    · exact fun hall => hall turn.started hi hc

/-- A turn in which no object is constructed. -/
theorem AtCase.skipped {x : TestObjects} (h : e.AtCase c a i x) (t : List ObjectEvent)
    (ht : t = [] ∨ t = [.beforeStarted i])
    (hnone : ¬(failed (e.install (.before i)) = false ∧ c.construct i = .returned)) :
    Fresh ⟨x.next, x.log ++ t⟩ ∧
      (Lifecycle (x.log ++ t) ↔ (∀ j < i, a.selects j = true → e.Destroys c j) ∧ e.Destroys c i) := by
  have hobject : ∀ y ∈ t, y.object = none := by
    rcases ht with rfl | rfl <;> simp [ObjectEvent.object]
  have hnot : ∀ y ∈ t, ∀ p ∈ y.object, False := by
    intro y hy p hp
    rw [hobject y hy] at hp
    cases hp
  have hhead : ∀ y ∈ t.head?, y.starts = true := by
    rcases ht with rfl | rfl <;> simp [ObjectEvent.starts]
  refine ⟨?_, ?_⟩
  · intro y hy p hp
    rcases List.mem_append.mp hy with hy | hy
    · exact h.fresh y hy p hp
    · exact (hnot y hy p hp).elim
  · rw [Lifecycle.append_iff h.fresh (fun y hy p hp => (hnot y hy p hp).elim) hhead]
    refine and_congr h.right (iff_of_true (Lifecycle.of_none hobject) ?_)
    exact fun _ hi hc => absurd ⟨hi, hc⟩ hnone

/-- The test case is over. -/
structure Done (e : PeEnvironment TestObjects) (c : TestClass) (a : TsexecAction) (i : Nat)
    (s : TestObjects) : Prop where
  opens   : (e.outcomes c).opens = true
  setUp   : failed (e.outcomes c).setup = false
  turn    : e.IsTurn a i
  fresh   : Fresh s
  right   : Lifecycle s.log ↔ (∀ j < i, a.selects j = true → e.Destroys c j) ∧ e.Destroys c i
  earlier : ∀ j < i, a.selects j = true → (e.outcomes c).stopsAt a j = false

/-- Every test case that is reached loses its object in time. -/
def Cleans (e : PeEnvironment TestObjects) (c : TestClass) (a : TsexecAction) : Prop :=
  (e.outcomes c).opens = true → failed (e.outcomes c).setup = false →
    ∀ i ∈ (e.outcomes c).reached a, e.Destroys c i

/-- The loop has ended. -/
structure AtTearDown (e : PeEnvironment TestObjects) (c : TestClass) (a : TsexecAction) (s : TestObjects) :
    Prop where
  fresh : Fresh s
  right : Lifecycle s.log ↔ e.Cleans c a

theorem AtCase.next {x : TestObjects} (h : e.AtCase c a i x) (hskip : a.selects i = false) :
    e.AtCase c a (i + 1) x := by
  refine { h with right := h.right.trans ?_, earlier := ?_ }
  · constructor
    · intro hall j hj hsel
      rcases Nat.lt_succ_iff_lt_or_eq.mp hj with hlt | rfl
      · exact hall j hlt hsel
      · rw [hskip] at hsel
        cases hsel
    · exact fun hall j hj => hall j (Nat.lt_succ_of_lt hj)
  · intro j hj hsel
    rcases Nat.lt_succ_iff_lt_or_eq.mp hj with hlt | rfl
    · exact h.earlier j hlt hsel
    · rw [hskip] at hsel
      cases hsel

theorem Done.next {x : TestObjects} (h : e.Done c a i x) (hgo : (e.outcomes c).stopsAt a i = false) :
    e.AtCase c a (i + 1) x := by
  refine ⟨h.opens, h.setUp, h.fresh, h.right.trans ?_, ?_⟩
  · constructor
    · rintro ⟨hall, hi⟩ j hj hsel
      rcases Nat.lt_succ_iff_lt_or_eq.mp hj with hlt | rfl
      · exact hall j hlt hsel
      · exact hi
    · intro hall
      exact ⟨fun j hj => hall j (Nat.lt_succ_of_lt hj), hall i (Nat.lt_succ_self i) h.turn.selected⟩
  · intro j hj hsel
    rcases Nat.lt_succ_iff_lt_or_eq.mp hj with hlt | rfl
    · exact h.earlier j hlt hsel
    · exact hgo

/-- What is said of the test cases up to one that ends the loop is said of all that are reached. -/
theorem cleans_of_stopsAt (hopens : (e.outcomes c).opens = true) (hset : failed (e.outcomes c).setup = false)
    (hlt : i < a.fixture.testCases.length) (hsel : a.selects i = true)
    (hearlier : ∀ j < i, a.selects j = true → (e.outcomes c).stopsAt a j = false)
    (hstop : (e.outcomes c).stopsAt a i = true) :
    e.Cleans c a ↔ (∀ j < i, a.selects j = true → e.Destroys c j) ∧ e.Destroys c i := by
  simp only [Cleans, hopens, hset, true_imp_iff, (e.outcomes c).reached_of_stopsAt hlt hsel hearlier hstop,
    List.forall_mem_append, List.mem_filter, List.mem_range, List.mem_singleton, forall_eq, and_imp]

theorem Done.stopped {x : TestObjects} (h : e.Done c a i x) (hstop : (e.outcomes c).stopsAt a i = true) :
    e.AtTearDown c a x :=
  ⟨h.fresh, h.right.trans
    (cleans_of_stopsAt h.opens h.setUp h.turn.lt h.turn.selected h.earlier hstop).symm⟩

theorem AtCase.refused {x : TestObjects} (h : e.AtCase c a i x) (hlt : i < a.fixture.testCases.length)
    (hsel : a.selects i = true) (hrefused : failed (e.beforeTestCaseStart i) = true) :
    e.AtTearDown c a x := by
  have hstop : (e.outcomes c).stopsAt a i = true := by
    have hrefused' : failed ((e.outcomes c).beforeTestCaseStart i) = true := hrefused
    simp [Outcomes.stopsAt, hrefused']
  refine ⟨h.fresh, h.right.trans ?_⟩
  rw [cleans_of_stopsAt h.opens h.setUp hlt hsel h.earlier hstop, iff_self_and]
  intro _ hstarted
  rw [hrefused] at hstarted
  cases hstarted

theorem AtCase.left {x : TestObjects} (h : e.AtCase c a a.fixture.testCases.length x) :
    e.AtTearDown c a x := by
  refine ⟨h.fresh, h.right.trans ?_⟩
  simp only [Cleans, h.opens, h.setUp, true_imp_iff, (e.outcomes c).reached_of_not_stopsAt h.earlier,
    TsexecAction.selected, List.mem_filter, List.mem_range, and_imp]

/-- Before leaves its object in the slot, or the test case is over. -/
theorem before_turn (hv : e.isValidContext = true) (hf : a.fixture.IsTestClass) (turn : e.IsTurn a i)
    {t : PeState TestObjects} (h : e.AtCase c a i t.user) :
    let x := (e.running c).runRoutine a.fixture t (.before i)
    x.1 = e.code c (.before i) ∧
      if failed (e.code c (.before i)) then e.Done c a i x.2.user
      else e.Holds c a i false x.2 t.user.next t.user.log := by
  have hroutine : a.fixture.routine (.before i) ≠ 0 := hf.routine _ (by rintro _ ⟨⟩; exact turn.lt)
  refine ⟨runRoutine_code hv hroutine, ?_⟩
  cases hi : failed (e.install (.before i)) with
  | true  =>
      have hfail : failed (e.code c (.before i)) = true := by simp [code, hi]
      obtain ⟨hfresh, hright⟩ := h.skipped [] (.inl rfl) (by simp [hi])
      rw [hfail, if_pos rfl, runRoutine_running_of_not_installed hv hi hroutine]
      rw [List.append_nil] at hfresh hright
      exact ⟨h.opens, h.setUp, turn, hfresh, hright, h.earlier⟩
  | false =>
      rw [runRoutine_running hv hi hroutine]
      cases hc : c.construct i with
      | raised abortRun =>
          have hfail : failed (e.code c (.before i)) = true := by
            simp [code, hi, TestClass.completion, hc, failed_result]
          obtain ⟨hfresh, hright⟩ := h.skipped [.beforeStarted i] (.inr rfl) (by simp [hc])
          rw [hfail, if_pos rfl]
          simp only [TestClass.invoke, TestClass.invokeBefore, hc]
          exact ⟨h.opens, h.setUp, turn, hfresh, hright, h.earlier⟩
      | returned        =>
          cases hb : c.before i with
          | raised abortRun =>
              have hfail : failed (e.code c (.before i)) = true := by
                simp [code, hi, TestClass.completion, hc, hb, failed_result]
              obtain ⟨hfresh, hright⟩ := h.turn turn hi hc false false (by simp [hb])
              rw [hfail, if_pos rfl]
              simp only [TestClass.invoke, TestClass.invokeBefore, hc]
              simp only [TestObjects.record, List.append_assoc]
              exact ⟨h.opens, h.setUp, turn, hfresh, hright, h.earlier⟩
          | returned        =>
              have hok : failed (e.code c (.before i)) = false := by
                simp [code, hi, TestClass.completion, hc, hb, Completion.result]
              rw [hok, if_neg Bool.false_ne_true]
              simp only [TestClass.invoke, TestClass.invokeBefore, hc]
              refine ⟨h, ?_, rfl, rfl, hi, hc, hb⟩
              simp [TestObjects.record, Lifecycle.turn]

/-- The test method finds the object of its test case. -/
theorem method_turn (hv : e.isValidContext = true) (hf : a.fixture.IsTestClass) (turn : e.IsTurn a i)
    {t : PeState TestObjects} {object : Pvoid} {l : List ObjectEvent} (h : e.Holds c a i false t object l) :
    let x := (e.running c).runRoutine a.fixture t (.test i)
    x.1 = e.code c (.test i) ∧ ∃ ran, e.Holds c a i ran x.2 object l := by
  have hroutine : a.fixture.routine (.test i) ≠ 0 := hf.routine _ (by rintro _ ⟨⟩; exact turn.lt)
  refine ⟨runRoutine_code hv hroutine, ?_⟩
  cases hi : failed (e.install (.test i)) with
  | true  =>
      rw [runRoutine_running_of_not_installed hv hi hroutine]
      exact ⟨false, h.head, h.log, h.next, h.slot, h.made⟩
  | false =>
      rw [runRoutine_running hv hi hroutine]
      have hslot : t.tls.getValue cfixTagReservedForCc = object := by
        simp [Storage.getValue, h.slot]
      refine ⟨true, h.head, ?_, h.next, h.slot, h.made⟩
      simp [TestClass.invoke, TestClass.invokeTestMethod, TestObjects.record, RoutineId.slots,
        RoutineId.restores, hslot, h.log, Lifecycle.turn]

/-- After ends the turn. -/
theorem after_turn (hv : e.isValidContext = true) (hf : a.fixture.IsTestClass) (turn : e.IsTurn a i)
    {t : PeState TestObjects} {object : Pvoid} {l : List ObjectEvent} {ran : Bool}
    (h : e.Holds c a i ran t object l) :
    let x := (e.running c).runRoutine a.fixture t (.after i)
    x.1 = e.code c (.after i) ∧ e.Done c a i x.2.user := by
  have hroutine : a.fixture.routine (.after i) ≠ 0 := hf.routine _ (by rintro _ ⟨⟩; exact turn.lt)
  refine ⟨runRoutine_code hv hroutine, ?_⟩
  obtain ⟨hi, hc, hb⟩ := h.made
  have hkept : ∀ x : TestObjects, x = t.user →
      ¬(failed (e.install (.after i)) = false ∧ c.after i = .returned) → e.Done c a i x := by
    rintro x rfl hnot
    obtain ⟨hfresh, hright⟩ := h.head.turn turn hi hc ran false (by simp [hb]; tauto)
    rw [← h.log] at hfresh hright
    rw [← h.next] at hfresh
    exact ⟨h.head.opens, h.head.setUp, turn, hfresh, hright, h.head.earlier⟩
  cases hia : failed (e.install (.after i)) with
  | true  =>
      rw [runRoutine_running_of_not_installed hv hia hroutine]
      exact hkept _ rfl (by simp [hia])
  | false =>
      rw [runRoutine_running hv hia hroutine]
      cases ha : c.after i with
      | raised abortRun =>
          simp only [TestClass.invoke, TestClass.invokeAfter, ha]
          exact hkept _ rfl (by simp [ha])
      | returned        =>
          have hslot : t.tls.getValue cfixTagReservedForCc = object := by
            simp [Storage.getValue, h.slot]
          have hlog : t.user.log ++ [.destroyed object] = l ++ Lifecycle.turn i object ran true := by
            simp [h.log, Lifecycle.turn]
          obtain ⟨hfresh, hright⟩ := h.head.turn turn hi hc ran true (by simp [hb, hia, ha])
          simp only [TestClass.invoke, TestClass.invokeAfter, ha, RoutineId.slots, RoutineId.restores, if_true,
            hslot, TestObjects.record]
          rw [hlog]
          exact ⟨h.head.opens, h.head.setUp, turn, h.next ▸ hfresh, hright, h.head.earlier⟩

/-- The proof outline of a test class. -/
def lifecycle (hv : e.isValidContext = true) (hf : a.fixture.IsTestClass) :
    Outline (e.running c).host a
      (fun s => s.env.user.log = []) (fun _ s => Lifecycle s.env.user.log ↔ e.Cleans c a) where
  opened s      := s.env.user.log = [] ∧ (e.outcomes c).opens = true
  loop i _ s    := e.AtCase c a i s.env.user
  started i s   := e.AtCase c a i s.env.user ∧ e.IsTurn a i ∧ s.env.table.index = i
  prepared i s  := (∃ object l, e.Holds c a i false s.env object l) ∧ e.IsTurn a i ∧ s.env.table.index = i
  tested i hr s := (∃ ran object l, e.Holds c a i ran s.env object l) ∧ e.IsTurn a i ∧ s.env.table.index = i ∧
    hr = e.code c (.test i) ∧ failed (e.code c (.before i)) = false
  ended i hr s  := e.Done c a i s.env.user ∧ hr = (e.outcomes c).testCaseResult i
  stopped _ _ s := e.AtTearDown c a s.env.user
  closing _ _ s := Lifecycle s.env.user.log ↔ e.Cleans c a
  reject        := by
    intro s _ hinvalid
    have hinvalid' : e.isValidContext = false := hinvalid
    rw [hv] at hinvalid'
    cases hinvalid'
  start         := by
    intro s s' hr hs _ hcall
    obtain ⟨hhr, henv⟩ := invoke_some hcall
    have hlog : s'.env.user.log = [] := by
      rw [henv]
      exact hs
    cases hf₁ : failed e.beforeFixtureStart with
    | true  =>
        have hopens : (e.outcomes c).opens = false := by simp [Outcomes.opens, outcomes, hf₁]
        have hfail : failed hr = true := by
          rw [hhr]
          exact hf₁
        simp only [hfail, if_true]
        rw [hlog]
        refine iff_of_true (Lifecycle.of_none (by simp)) ?_
        intro h
        rw [hopens] at h
        cases h
    | false =>
        have hopens : (e.outcomes c).opens = true := by simp [Outcomes.opens, outcomes, hf₁, hv]
        have hok : failed hr = false := by
          rw [hhr]
          exact hf₁
        simp only [hok, Bool.false_eq_true, if_false]
        exact ⟨hlog, hopens⟩
  setup         := by
    intro s s' hr flags hs hcall
    obtain ⟨hlog, hopens⟩ := hs
    obtain ⟨hhr, henv⟩ := invoke_routine (r := .setup) hcall rfl
    have hroutine : a.fixture.routine .setup ≠ 0 := hf.routine _ (by rintro _ ⟨⟩)
    have hhr' : hr = e.code c .setup := hhr.trans (runRoutine_code hv hroutine)
    have hlog' : s'.env.user.log = [] := by
      rw [henv]
      cases hi : failed (e.install .setup) with
      | true  => rw [runRoutine_running_of_not_installed hv hi hroutine]; exact hlog
      | false => rw [runRoutine_running hv hi hroutine]; exact hlog
    cases hset : failed hr with
    | true  =>
        have hclosing : Lifecycle s'.env.user.log ↔ e.Cleans c a := by
          rw [hlog']
          refine iff_of_true (Lifecycle.of_none (by simp)) ?_
          intro _ hok
          have hfail : failed (e.outcomes c).setup = true := by rw [← hset, hhr']; rfl
          rw [hfail] at hok
          cases hok
        simp only [if_true]
        split
        · exact hclosing
        · exact hclosing
    | false =>
        simp only [setupFailure_eq_false hset, Bool.false_eq_true, if_false]
        refine ⟨hopens, ?_, ?_, ?_, ?_⟩
        · rw [← hset, hhr']
          rfl
        · simp [Fresh, hlog']
        · rw [hlog']
          exact iff_of_true (Lifecycle.of_none (by simp)) (fun j hj => absurd hj (Nat.not_lt_zero j))
        · exact fun j hj => absurd hj (Nat.not_lt_zero j)
  skip          := fun _ hskip hs => hs.next hskip
  announce      := by
    intro i hr₀ s s' hr hlt hsel hs hcall
    obtain ⟨hhr, henv⟩ := invoke_some hcall
    have huser : s'.env.user = s.env.user := by
      rw [henv]
      rfl
    have hhr' : hr = e.beforeTestCaseStart i := hhr
    cases hfail : failed hr with
    | true  =>
        simp only [if_true, huser]
        exact hs.refused hlt hsel (by rw [← hhr', hfail])
    | false =>
        simp only [Bool.false_eq_true, if_false, huser]
        refine ⟨hs, ⟨hlt, hsel, by rw [← hhr', hfail]⟩, ?_⟩
        rw [henv]
        rfl
  before        := by
    intro i s s' hr flags hs hcall
    obtain ⟨hcase, hturn, rfl⟩ := hs
    obtain ⟨hhr, henv⟩ := invoke_routine (r := .before s.env.table.index) hcall rfl
    obtain ⟨hcode, hnext⟩ := before_turn hv hf hturn hcase
    have hhr' : hr = e.code c (.before s.env.table.index) := hhr.trans hcode
    rw [← hhr'] at hnext
    cases hfail : failed hr with
    | true  =>
        simp only [hfail, if_true] at hnext ⊢
        refine ⟨henv ▸ hnext, ?_⟩
        have hbefore : failed ((e.outcomes c).before s.env.table.index) = true := by rw [← hfail, hhr']; rfl
        rw [Outcomes.testCaseResult, hbefore, if_pos rfl, hhr']
        rfl
    | false =>
        simp only [hfail, Bool.false_eq_true, if_false] at hnext ⊢
        refine ⟨⟨_, _, hnext.head, ?_, ?_, ?_, hnext.made⟩, hturn, by rw [henv]; rfl⟩
        · rw [henv]
          exact hnext.log
        · rw [henv]
          exact hnext.next
        · rw [henv]
          exact hnext.slot
  test          := by
    intro i s s' hr flags hs hcall
    obtain ⟨⟨object, l, hholds⟩, hturn, hindex⟩ := hs
    obtain ⟨hhr, henv⟩ := invoke_routine (r := .test i) hcall rfl
    obtain ⟨hcode, ran, hnext⟩ := method_turn hv hf hturn hholds
    have hbefore : failed (e.code c (.before i)) = false := by
      simp [code, hholds.made.1, TestClass.completion, hholds.made.2, Completion.result]
    refine ⟨⟨ran, object, l, hnext.head, ?_, ?_, ?_, hnext.made⟩, hturn, ?_, hhr.trans hcode, hbefore⟩
    · rw [henv]
      exact hnext.log
    · rw [henv]
      exact hnext.next
    · rw [henv]
      exact hnext.slot
    · rw [henv]
      exact hindex
  after         := by
    intro i s s' hrTestCase hr flags hs hcall
    obtain ⟨⟨ran, object, l, hholds⟩, hturn, rfl, rfl, hbefore⟩ := hs
    obtain ⟨hhr, henv⟩ := invoke_routine (r := .after s.env.table.index) hcall rfl
    obtain ⟨hcode, hnext⟩ := after_turn hv hf hturn hholds
    refine ⟨henv ▸ hnext, ?_⟩
    rw [(e.outcomes c).testCaseResult_eq_resultOf hbefore, hhr.trans hcode]
    rfl
  abandon       := by
    rintro i s hr ⟨hdone, rfl⟩ hfatal
    have hstarted : failed ((e.outcomes c).beforeTestCaseStart i) = false := hdone.turn.started
    have hfatalAt : (e.outcomes c).fatalAt i = true := by simp [Outcomes.fatalAt, hstarted, hfatal]
    exact (hdone.stopped ((e.outcomes c).stopsAt_of_fatalAt a hfatalAt)).right
  finish        := by
    rintro i s hr ⟨hdone, rfl⟩ -
    have hstops : (e.outcomes c).stopsAt a i = a.stopsOn ((e.outcomes c).testCaseResult i) :=
      (e.outcomes c).stopsAt_of_started a hdone.turn.started
    split
    · rename_i hstop
      exact hdone.stopped (hstops.trans hstop)
    · rename_i hgo
      exact hdone.next (hstops.trans (by simpa using hgo))
  leave         := fun hs => hs.left
  teardown      := by
    intro fixtureShortCircuit hr s s' teardownHr flags hs hcall
    obtain ⟨-, henv⟩ := invoke_routine (r := .teardown) hcall rfl
    have hroutine : a.fixture.routine .teardown ≠ 0 := hf.routine _ (by rintro _ ⟨⟩)
    have hclosing : Lifecycle s'.env.user.log ↔ e.Cleans c a := by
      rw [henv]
      cases hi : failed (e.install .teardown) with
      | true  =>
          rw [runRoutine_running_of_not_installed hv hi hroutine]
          exact hs.right
      | false =>
          rw [runRoutine_running hv hi hroutine]
          simp only [TestClass.invoke, TestClass.invokeTearDown, TestObjects.record]
          rw [Lifecycle.append_iff hs.fresh (by simp [ObjectEvent.object]) (by simp [ObjectEvent.starts])]
          exact (and_iff_left (Lifecycle.of_none (by simp [ObjectEvent.object]))).trans hs.right
    split
    · exact hclosing
    · exact hclosing
  close         := fun hs => hs

/-- **The test objects of a run**: every test method runs on the living object of its own test case, and every
    object is destroyed exactly once and in time, iff no test case that is reached loses its object. -/
theorem lifecycle_iff (a : TsexecAction) (hf : a.fixture.IsTestClass) (e : PeEnvironment TestObjects)
    (c : TestClass) (tls : Storage) : Lifecycle (e.objectLog c a tls) ↔ e.Cleans c a := by
  cases hv : e.isValidContext with
  | true  => exact (lifecycle hv hf).run rfl
  | false =>
      have hv' : (e.running c).host.isValidContext = false := hv
      have hlog : e.objectLog c a tls = [] := by
        simp [objectLog, PeEnvironment.run, runFixtureExecutionAction, hv']
      have hopens : (e.outcomes c).opens = false := by simp [Outcomes.opens, outcomes, hv]
      rw [hlog]
      refine iff_of_true (Lifecycle.of_none (by simp)) ?_
      intro h
      rw [hopens] at h
      cases h

end PeEnvironment

/-- A class whose methods return; Before ends as given. -/
def TestClass.withBefore (before : Completion) : TestClass where
  setUp       := .returned
  construct _ := .returned
  before _    := before
  method _    := .returned
  after _     := .returned
  tearDown    := .returned

/-- The runs of a test class whose calls succeed. -/
def testClassPe : PeEnvironment TestObjects := .allOk (TestClass.withBefore .returned).invoke

theorem isTestClass_twoTestCases : (twoTestCases 0#32).fixture.IsTestClass where
  routine := by
    intro r hr
    cases r with
    | setup | before i | after i | teardown => exact Nat.succ_ne_zero _
    | test i =>
        have hlt : i < 2 := hr i rfl
        have hroutine : ∀ j < 2, (twoTestCases 0#32).fixture.routine (.test j) ≠ 0 := by decide
        exact hroutine i hlt

theorem lifecycle_returning :
    Lifecycle (testClassPe.objectLog (.withBefore .returned) (twoTestCases 0#32) .zero) :=
  (PeEnvironment.lifecycle_iff _ isTestClass_twoTestCases _ _ _).mpr
    fun _ _ _ _ _ _ _ => ⟨rfl, failed_sOk, rfl⟩

/-- The object of a test case whose Before method raises is never destroyed. -/
theorem object_lost : (twoTestCases 0#32).fixture.IsTestClass ∧
    ¬Lifecycle (testClassPe.objectLog (.withBefore (.raised false)) (twoTestCases 0#32) .zero) := by
  refine ⟨isTestClass_twoTestCases, ?_⟩
  intro h
  have hlog : testClassPe.objectLog (.withBefore (.raised false)) (twoTestCases 0#32) .zero =
      [.beforeStarted 0] ++ .constructed 0 1 ::
        [.beforeStarted 1, .constructed 1 2, .teardownStarted] := by decide
  have hdestroyed := h.destroyed hlog
  exact absurd hdestroyed (by decide)

end Cfix
