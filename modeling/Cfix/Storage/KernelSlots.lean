import Cfix.Fixture.Outline
import Cfix.Storage.KernelModule

/-!
# `Storage.KernelSlots` — the life of the value slots of kernel fixtures (`cfixkl/module.c`)

The Setup runner of a kernel module allocates the slot of its thread and the Teardown runner frees it; the
runners between them read the pointer without looking at it. Which runners a fixture gets is decided by the
fixture execution action. The world answers everything else: an allocation, a callback, a request for a routine.
-/

namespace Cfix.KernelSlots

open KernelEnvironment (responseHr)

/-! ## State -/

/-- The result of an allocation: each one gives another cell. -/
abbrev Cell := Nat

inductive SlotEvent where
  /-- The Setup runner starts, with this pointer in the TLS slot. -/
  | setup (tlsValuePtr : Option Cell)
  /-- Another runner gets the pointer. -/
  | get (tlsValuePtr : Option Cell)
  | malloc (cell : Cell)
  | free (cell : Cell)
  deriving DecidableEq, Repr

variable {ω : Type}

/-- A request for a routine and its response; that of After with the response of the test routine before it. -/
inductive Request (ω : Type) where
  | setup (x : RoutineResponse ω)
  | before (x : RoutineResponse ω)
  | test (x : RoutineResponse ω)
  | after (xTest x : RoutineResponse ω)
  | teardown (x : RoutineResponse ω)

/-- The TLS slot, the value in the cell that it points to, and the history of both. -/
structure State (ω : Type) where
  tlsValuePtr : Option Cell
  tlsValue    : Pvoid
  cells       : Nat
  events      : List SlotEvent
  requests    : List (Request ω)
  lastTest    : RoutineResponse ω
  user        : ω

/-- The callbacks and the debugger, the heap, and the reflector with the driver behind it. -/
structure World (ω : Type) where
  isValidContext    : Bool
  isDebuggerPresent : ω → Bool
  currentThreadId   : Nat
  callback          : Call → ω → HRESULT × ω
  malloc            : ω → Bool × ω
  /-- `CfixklpCallRoutine` for the routine of this call. -/
  callRoutine       : Call → Pvoid → ω → RoutineResponse ω

namespace State

variable (s : State ω)

/-- `malloc` of a cell, and `CfixklsSetTlsValuePtr`. -/
def allocate : State ω :=
  { s with
    tlsValuePtr := some s.cells
    tlsValue    := 0
    cells       := s.cells + 1
    events      := s.events ++ [.malloc s.cells] }

/-- `free` of the cell, and `CfixklsSetTlsValuePtr( NULL )`. -/
def release : State ω :=
  match s.tlsValuePtr with
  | none      => s
  | some cell => { s with tlsValuePtr := none, events := s.events ++ [.free cell] }

def getTlsValuePtr : State ω := { s with events := s.events ++ [.get s.tlsValuePtr] }

def respond (r : Request ω) (tlsValue : Pvoid) (user : ω) : State ω :=
  { s with tlsValue := tlsValue, requests := s.requests ++ [r], user := user }

end State

/-! ## Runners -/

namespace World

variable (w : World ω)

/-- `CfixklsRunSetupRoutine`. -/
def runSetupRoutine (f : Fixture) (flags : BitVec 32) (s : State ω) : HRESULT × State ω :=
  if !w.isValidContext then (eInvalidarg, s)
  else
    let s := { s with events := s.events ++ [SlotEvent.setup s.tlsValuePtr] }
    let (allocated, user) := w.malloc s.user
    let s := { s with user := user }
    if !allocated then (eOutofmemory, s)
    else
      let s := s.allocate
      if f.setupRoutine &&& f.setupRoutine != 0 then
        let x := w.callRoutine (.setup f flags) s.tlsValue s.user
        (responseHr x eSetupRoutineFailed, s.respond (.setup x) 0 x.user)
      else (sOk, s)

/-- `CfixklsRunTeardownRoutine`. -/
def runTeardownRoutine (f : Fixture) (flags : BitVec 32) (s : State ω) : HRESULT × State ω :=
  if !w.isValidContext then (eInvalidarg, s)
  else
    let s := s.getTlsValuePtr
    let tlsValueCopy := s.tlsValue
    let s := s.release
    if f.teardownRoutine &&& cfixklpRoutinePresent != 0 then
      let x := w.callRoutine (.teardown f flags) tlsValueCopy s.user
      (responseHr x eTeardownRoutineFailed, s.respond (.teardown x) s.tlsValue x.user)
    else (sOk, s)

/-- `CfixklsRunBeforeRoutine`. -/
def runBeforeRoutine (f : Fixture) (flags : BitVec 32) (s : State ω) : HRESULT × State ω :=
  if !w.isValidContext then (eInvalidarg, s)
  else
    let s := s.getTlsValuePtr
    if f.beforeRoutine &&& cfixklpRoutinePresent != 0 then
      let x := w.callRoutine (.before f flags) s.tlsValue s.user
      (responseHr x eBeforeRoutineFailed, s.respond (.before x) x.tlsValue x.user)
    else (sOk, s)

/-- `CfixklsRunAfterRoutine`. -/
def runAfterRoutine (f : Fixture) (flags : BitVec 32) (s : State ω) : HRESULT × State ω :=
  if !w.isValidContext then (eInvalidarg, s)
  else
    let s := s.getTlsValuePtr
    if f.afterRoutine &&& cfixklpRoutinePresent != 0 then
      let x := w.callRoutine (.after f flags) s.tlsValue s.user
      (responseHr x eAfterRoutineFailed, s.respond (.after s.lastTest x) 0 x.user)
    else (sOk, s)

/-- `CfixklsRunTestCaseRoutine`. -/
def runTestCaseRoutine (testCase : TestCaseRef) (flags : BitVec 32) (s : State ω) : HRESULT × State ω :=
  if !w.isValidContext then (eInvalidarg, s)
  else
    let s := s.getTlsValuePtr
    let x := w.callRoutine (.runTestCase testCase flags) s.tlsValue s.user
    (responseHr x eTestRoutineFailed, { s.respond (.test x) x.tlsValue x.user with lastTest := x })

/-- What a call of the fixture action does. -/
def dispatch (s : State ω) : Call → HRESULT × State ω
  | .setup f flags        => w.runSetupRoutine f flags s
  | .before f flags       => w.runBeforeRoutine f flags s
  | .runTestCase tc flags => w.runTestCaseRoutine tc flags s
  | .after f flags        => w.runAfterRoutine f flags s
  | .teardown f flags     => w.runTeardownRoutine f flags s
  | c                     => ((w.callback c s.user).1, { s with user := (w.callback c s.user).2 })

/-- The host of a fixture action whose module is a driver. -/
def host : Host (State ω) where
  isValidContext      := w.isValidContext
  isDebuggerPresent s := w.isDebuggerPresent s.user
  currentThreadId     := w.currentThreadId
  call c s            := w.dispatch s c

/-- A sequence of fixtures on one thread. -/
def runAll (as : List TsexecAction) (s : Run (State ω)) : Run (State ω) :=
  as.foldl (fun s a => (runFixtureExecutionAction w.host a s).2) s

end World

/-- A thread that has not run a fixture. -/
def start (user : ω) : Run (State ω) where
  env   :=
    { tlsValuePtr := none, tlsValue := 0, cells := 0, events := [], requests := []
      lastTest := ⟨sOk, true, false, 0, user⟩, user := user }
  trace := []

/-! ## Lifecycle -/

/-- **The lifecycle of the slots**: the pointer is `NULL` when a Setup runner starts, it is not `NULL` when
    another runner gets it, and every cell is freed exactly once. -/
structure Lifecycle (events : List SlotEvent) : Prop where
  setup : ∀ p, SlotEvent.setup p ∈ events → p = none
  get   : ∀ p, SlotEvent.get p ∈ events → p ≠ none
  freed : ∀ c, SlotEvent.malloc c ∈ events → events.count (.free c) = 1

/-- The response does not keep the fixture from being torn down: Setup runs to completion, and no request fails
    after it, except one for After when the test routine failed before. -/
def Request.Harmless : Request ω → Prop
  | .setup x      => failed (responseHr x eSetupRoutineFailed) = false
  | .before x     => fatal x.hr = false
  | .test x       => fatal x.hr = false
  | .after xTest x => fatal x.hr = true → failed (responseHr xTest eTestRoutineFailed) = true
  | .teardown _   => True

variable {w : World ω} {s : State ω} {c : Cell} {a : TsexecAction}

/-! ## Responses -/

/-- No response has kept a fixture from being torn down. -/
def State.Unharmed (s : State ω) : Prop := ∀ r ∈ s.requests, r.Harmless

/-- The code of a runner is fatal exactly if its request fails so. -/
theorem fatal_responseHr (x : RoutineResponse ω) {hr : HRESULT} (h : isRoutineFailure hr = true) :
    fatal (responseHr x hr) = fatal x.hr := by
  unfold responseHr
  cases hx : succeeded x.hr with
  | false => simp
  | true  =>
      have hnot : failed x.hr = false := by simpa [succeeded] using hx
      cases x.abortRun <;> cases x.ranToCompletion <;> simp [fatal, hnot, h]

/-- A test case fails fatally if its test routine does, or After when the test routine has succeeded. -/
theorem fatal_resultOf (hrTestCase hrAfter : HRESULT) :
    fatal (resultOf hrTestCase hrAfter) = (fatal hrTestCase || !failed hrTestCase && fatal hrAfter) := by
  unfold resultOf
  cases htest : failed hrTestCase with
  | true  => cases failed hrAfter <;> simp
  | false => cases hafter : failed hrAfter <;> simp [fatal, htest, hafter]

/-! ## Slots -/

/-- The history keeps to the lifecycle so far: at most the cell that the pointer refers to is not freed. -/
structure Orderly (s : State ω) : Prop where
  setup   : ∀ p, SlotEvent.setup p ∈ s.events → p = none
  get     : ∀ p, SlotEvent.get p ∈ s.events → p ≠ none
  freed   : ∀ c, SlotEvent.malloc c ∈ s.events → some c ≠ s.tlsValuePtr → s.events.count (.free c) = 1
  pending : ∀ c, s.tlsValuePtr = some c → SlotEvent.malloc c ∈ s.events ∧ SlotEvent.free c ∉ s.events
  fresh   : ∀ c, SlotEvent.malloc c ∈ s.events ∨ SlotEvent.free c ∈ s.events → c < s.cells

/-- The cell is allocated and never freed. -/
structure Leaked (c : Cell) (s : State ω) : Prop where
  malloc : SlotEvent.malloc c ∈ s.events
  free   : SlotEvent.free c ∉ s.events
  old    : c < s.cells

theorem Orderly.congr {s' : State ω} (h : Orderly s) (hptr : s'.tlsValuePtr = s.tlsValuePtr)
    (hevents : s'.events = s.events) (hcells : s'.cells = s.cells) : Orderly s' := by
  obtain ⟨h₁, h₂, h₃, h₄, h₅⟩ := h
  rw [← hevents] at h₁ h₂
  rw [← hevents, ← hptr] at h₃ h₄
  rw [← hevents, ← hcells] at h₅
  exact ⟨h₁, h₂, h₃, h₄, h₅⟩

theorem Orderly.lifecycle (h : Orderly s) (hnone : s.tlsValuePtr = none) : Lifecycle s.events where
  setup     := h.setup
  get       := h.get
  freed c hc := h.freed c hc (by simp [hnone])

theorem Orderly.leaked (h : Orderly s) (hc : s.tlsValuePtr = some c) : Leaked c s where
  malloc := (h.pending c hc).1
  free   := (h.pending c hc).2
  old    := h.fresh c (.inl (h.pending c hc).1)

theorem Leaked.not_lifecycle (h : Leaked c s) : ¬ Lifecycle s.events := by
  intro hlife
  have hone := hlife.freed c h.malloc
  rw [List.count_eq_zero_of_not_mem h.free] at hone
  cases hone

theorem Orderly.setup_event (h : Orderly s) (hnone : s.tlsValuePtr = none) :
    Orderly { s with events := s.events ++ [.setup s.tlsValuePtr] } where
  setup p hp   := by
    rcases List.mem_append.mp hp with hp | hp
    · exact h.setup p hp
    · simp only [List.mem_singleton, SlotEvent.setup.injEq] at hp
      exact hp.trans hnone
  get p hp     := h.get p (by simpa using hp)
  freed c hc   := by simpa using h.freed c (by simpa using hc)
  pending c hc := by simpa using h.pending c hc
  fresh c hc   := h.fresh c (by simpa using hc)

theorem Orderly.getTlsValuePtr (h : Orderly s) (hsome : s.tlsValuePtr ≠ none) : Orderly s.getTlsValuePtr where
  setup p hp   := h.setup p (by simpa [State.getTlsValuePtr] using hp)
  get p hp     := by
    rcases List.mem_append.mp hp with hp | hp
    · exact h.get p hp
    · simp only [List.mem_singleton, SlotEvent.get.injEq] at hp
      rw [hp]
      exact hsome
  freed c hc   := by simpa [State.getTlsValuePtr] using h.freed c (by simpa [State.getTlsValuePtr] using hc)
  pending c hc := by simpa [State.getTlsValuePtr] using h.pending c hc
  fresh c hc   := h.fresh c (by simpa [State.getTlsValuePtr] using hc)

theorem Orderly.allocate (h : Orderly s) (hnone : s.tlsValuePtr = none) : Orderly s.allocate where
  setup p hp   := h.setup p (by simpa [State.allocate] using hp)
  get p hp     := h.get p (by simpa [State.allocate] using hp)
  freed c hc hne := by
    have hold : SlotEvent.malloc c ∈ s.events := by
      rcases List.mem_append.mp hc with hc | hc
      · exact hc
      · simp only [List.mem_singleton, SlotEvent.malloc.injEq] at hc
        exact absurd (congrArg some hc) hne
    simpa [State.allocate] using h.freed c hold (by simp [hnone])
  pending c hc := by
    cases hc
    have hnew : SlotEvent.free s.cells ∉ s.events := by
      intro hmem
      exact absurd (h.fresh _ (.inr hmem)) (Nat.lt_irrefl _)
    simpa [State.allocate] using hnew
  fresh c hc   := by
    have hc' : (SlotEvent.malloc c ∈ s.events ∨ SlotEvent.free c ∈ s.events) ∨ c = s.cells := by
      simpa [State.allocate, or_assoc, or_comm, or_left_comm] using hc
    show c < s.cells + 1
    rcases hc' with hold | rfl
    · exact Nat.lt_succ_of_lt (h.fresh c hold)
    · exact Nat.lt_succ_self _

theorem Orderly.release (h : Orderly s) : Orderly s.release ∧ s.release.tlsValuePtr = none := by
  unfold State.release
  split
  · rename_i hnone
    exact ⟨h, hnone⟩
  · rename_i cell hcell
    obtain ⟨hmalloc, hfree⟩ := h.pending cell hcell
    refine ⟨⟨?_, ?_, ?_, ?_, ?_⟩, rfl⟩
    · exact fun p hp => h.setup p (by simpa using hp)
    · exact fun p hp => h.get p (by simpa using hp)
    · intro c hc _
      have hold : SlotEvent.malloc c ∈ s.events := by simpa using hc
      by_cases heq : c = cell
      · subst heq
        simp [List.count_eq_zero_of_not_mem hfree]
      · have hone := h.freed c hold (by rw [hcell]; simpa using heq)
        simpa [List.count_append, Ne.symm heq] using hone
    · intro c hc
      cases hc
    · intro c hc
      have hc' : SlotEvent.malloc c ∈ s.events ∨ SlotEvent.free c ∈ s.events ∨ c = cell := by simpa using hc
      rcases hc' with hc' | hc' | rfl
      · exact h.fresh c (.inl hc')
      · exact h.fresh c (.inr hc')
      · exact h.fresh c (.inl hmalloc)

/-! ## Runners on an orderly history -/

/-- Between two fixtures, if none has been kept from its teardown. -/
structure Idle (s : State ω) : Prop where
  orderly  : Orderly s
  pointer  : s.tlsValuePtr = none
  unharmed : s.Unharmed

/-- Between the Setup and the Teardown of a fixture. -/
structure Busy (s : State ω) : Prop where
  orderly : Orderly s
  pointer : s.tlsValuePtr ≠ none

/-- A cell is lost, and a response is to blame for it. -/
def Harmed (s : State ω) : Prop := (∃ c, Leaked c s) ∧ ¬ s.Unharmed

@[simp] theorem unharmed_respond (r : Request ω) (tlsValue : Pvoid) (user : ω) :
    (s.respond r tlsValue user).Unharmed ↔ s.Unharmed ∧ r.Harmless := by
  simp [State.Unharmed, State.respond, or_imp, forall_and]

@[simp] theorem unharmed_getTlsValuePtr : s.getTlsValuePtr.Unharmed ↔ s.Unharmed := Iff.rfl

@[simp] theorem unharmed_allocate : s.allocate.Unharmed ↔ s.Unharmed := Iff.rfl

@[simp] theorem unharmed_release : s.release.Unharmed ↔ s.Unharmed := by
  unfold State.release
  split
  · exact Iff.rfl
  · exact Iff.rfl

theorem Busy.respond (h : Busy s) (r : Request ω) (tlsValue : Pvoid) (user : ω) : Busy (s.respond r tlsValue user) where
  orderly := h.orderly.congr rfl rfl rfl
  pointer := h.pointer

theorem Busy.getTlsValuePtr (h : Busy s) : Busy s.getTlsValuePtr where
  orderly := h.orderly.getTlsValuePtr h.pointer
  pointer := h.pointer

theorem Busy.harmed (h : Busy s) (hharm : ¬ s.Unharmed) : Harmed s := by
  obtain ⟨c, hc⟩ := Option.ne_none_iff_exists'.mp h.pointer
  exact ⟨⟨c, h.orderly.leaked hc⟩, hharm⟩

section Runners

variable (hv : w.isValidContext = true)
include hv

theorem runSetupRoutine_spec (h : Idle s) (f : Fixture) (flags : BitVec 32) :
    let r := w.dispatch s (.setup f flags)
    failed r.1 = true ∧ (Idle r.2 ∨ Harmed r.2) ∨ failed r.1 = false ∧ Busy r.2 ∧ r.2.Unharmed := by
  obtain ⟨horderly, hnone, hunharmed⟩ := h
  have hevent := horderly.setup_event hnone
  simp only [World.dispatch, World.runSetupRoutine, hv, Bool.not_true, Bool.false_eq_true, if_false]
  split
  · exact .inl ⟨by simp, .inl ⟨hevent.congr rfl rfl rfl, hnone, hunharmed⟩⟩
  · -- from the allocation on, the pointer is set, whatever the routine does
    have hbusy : Busy (State.allocate { s with
        events := s.events ++ [SlotEvent.setup s.tlsValuePtr]
        user   := (w.malloc s.user).2 }) := by
      refine ⟨Orderly.allocate ?_ hnone, ?_⟩
      · exact hevent.congr rfl rfl rfl
      · simp [State.allocate]
    split
    · generalize w.callRoutine _ _ _ = x
      have hbusy' := hbusy.respond (.setup x) 0 x.user
      cases hf : failed (responseHr x eSetupRoutineFailed) with
      | true  =>
          refine .inl ⟨rfl, .inr (hbusy'.harmed ?_)⟩
          simp [Request.Harmless, hf]
      | false =>
          refine .inr ⟨rfl, hbusy', ?_⟩
          rw [unharmed_respond]
          exact ⟨hunharmed, hf⟩
    · exact .inr ⟨by simp, hbusy, hunharmed⟩

/-- The Before runner: the history is harmed exactly if the code is fatal. -/
theorem runBeforeRoutine_spec (h : Busy s) (hunharmed : s.Unharmed) (f : Fixture) (flags : BitVec 32) :
    let r := w.dispatch s (.before f flags)
    Busy r.2 ∧ (r.2.Unharmed ↔ fatal r.1 = false) := by
  simp only [World.dispatch, World.runBeforeRoutine, hv, Bool.not_true, Bool.false_eq_true, if_false]
  split
  · generalize w.callRoutine _ _ _ = x
    refine ⟨h.getTlsValuePtr.respond .., ?_⟩
    rw [unharmed_respond, unharmed_getTlsValuePtr, fatal_responseHr x rfl]
    simp [hunharmed, Request.Harmless]
  · exact ⟨h.getTlsValuePtr, iff_of_true hunharmed (by simp [fatal])⟩

theorem runTestCaseRoutine_spec (h : Busy s) (hunharmed : s.Unharmed) (testCase : TestCaseRef) (flags : BitVec 32) :
    let r := w.dispatch s (.runTestCase testCase flags)
    Busy r.2 ∧ (r.2.Unharmed ↔ fatal r.1 = false) ∧ responseHr r.2.lastTest eTestRoutineFailed = r.1 := by
  simp only [World.dispatch, World.runTestCaseRoutine, hv, Bool.not_true, Bool.false_eq_true, if_false]
  generalize w.callRoutine _ _ _ = x
  have hbusy := h.getTlsValuePtr.respond (.test x) x.tlsValue x.user
  refine ⟨⟨hbusy.orderly.congr rfl rfl rfl, hbusy.pointer⟩, ?_, trivial⟩
  show (s.getTlsValuePtr.respond (.test x) x.tlsValue x.user).Unharmed ↔ _
  rw [unharmed_respond, unharmed_getTlsValuePtr, fatal_responseHr x rfl]
  simp [hunharmed, Request.Harmless]

theorem runAfterRoutine_spec {hr : HRESULT} (h : Busy s) (hunharmed : s.Unharmed ↔ fatal hr = false)
    (hlast : responseHr s.lastTest eTestRoutineFailed = hr) (f : Fixture) (flags : BitVec 32) :
    let r := w.dispatch s (.after f flags)
    Busy r.2 ∧ (r.2.Unharmed ↔ fatal (resultOf hr r.1) = false) := by
  simp only [World.dispatch, World.runAfterRoutine, hv, Bool.not_true, Bool.false_eq_true, if_false]
  split
  · generalize w.callRoutine _ _ _ = x
    refine ⟨h.getTlsValuePtr.respond .., ?_⟩
    rw [unharmed_respond, unharmed_getTlsValuePtr, fatal_resultOf, fatal_responseHr x rfl, hunharmed]
    show fatal hr = false ∧ (fatal x.hr = true → failed (responseHr s.lastTest eTestRoutineFailed) = true) ↔ _
    rw [hlast]
    cases fatal hr <;> cases fatal x.hr <;> cases failed hr <;> simp
  · refine ⟨h.getTlsValuePtr, ?_⟩
    rw [fatal_resultOf]
    simpa [fatal] using hunharmed

theorem runTeardownRoutine_spec (h : Busy s) (hunharmed : s.Unharmed) (f : Fixture) (flags : BitVec 32) :
    Idle (w.dispatch s (.teardown f flags)).2 := by
  obtain ⟨horderly, hnone⟩ := h.getTlsValuePtr.orderly.release
  have hunharmed' : s.getTlsValuePtr.release.Unharmed := by simpa using hunharmed
  simp only [World.dispatch, World.runTeardownRoutine, hv, Bool.not_true, Bool.false_eq_true, if_false]
  split
  · refine ⟨horderly.congr rfl rfl rfl, hnone, ?_⟩
    rw [unharmed_respond]
    exact ⟨hunharmed', trivial⟩
  · exact ⟨horderly, hnone, hunharmed'⟩

end Runners

/-! ## Runners after a loss -/

/-- What a call adds to the history. -/
structure Adds (s s' : State ω) (es : List SlotEvent) (rs : List (Request ω)) : Prop where
  events   : s'.events = s.events ++ es
  requests : s'.requests = s.requests ++ rs
  cells    : s.cells ≤ s'.cells

theorem Leaked.adds {s' : State ω} {es : List SlotEvent} {rs : List (Request ω)} (h : Leaked c s)
    (hadds : Adds s s' es rs) (hfree : SlotEvent.free c ∉ es) : Leaked c s' := by
  refine ⟨?_, ?_, Nat.lt_of_lt_of_le h.old hadds.cells⟩
  · rw [hadds.events]
    exact List.mem_append_left _ h.malloc
  · rw [hadds.events]
    exact List.not_mem_append h.free hfree

theorem Adds.not_unharmed {s' : State ω} {es : List SlotEvent} {rs : List (Request ω)} (hadds : Adds s s' es rs)
    (h : ¬ s.Unharmed) : ¬ s'.Unharmed := by
  intro h'
  apply h
  intro r hr
  apply h' r
  rw [hadds.requests]
  exact List.mem_append_left _ hr

/-- Setup frees nothing, and if it succeeds the pointer refers to a new cell. -/
theorem runSetupRoutine_adds (w : World ω) (s : State ω) (f : Fixture) (flags : BitVec 32) :
    let r := w.dispatch s (.setup f flags)
    ∃ es rs, Adds s r.2 es rs ∧ (∀ c, SlotEvent.free c ∉ es) ∧
      (failed r.1 = false → r.2.tlsValuePtr = some s.cells) := by
  simp only [World.dispatch, World.runSetupRoutine]
  split
  · exact ⟨[], [], ⟨by simp, by simp, Nat.le_refl _⟩, by simp, by simp⟩
  split
  · exact ⟨[_], [], ⟨rfl, by simp, Nat.le_refl _⟩, by simp, by simp⟩
  split
  · generalize w.callRoutine _ _ _ = x
    refine ⟨[.setup s.tlsValuePtr, .malloc s.cells], [.setup x], ⟨?_, rfl, Nat.le_succ _⟩, by simp, fun _ => rfl⟩
    simp [State.respond, State.allocate]
  · refine ⟨[.setup s.tlsValuePtr, .malloc s.cells], [], ⟨?_, ?_, Nat.le_succ _⟩, by simp, fun _ => rfl⟩
    · simp [State.allocate]
    · simp [State.allocate]

/-- Teardown frees the cell that the pointer refers to. -/
theorem runTeardownRoutine_adds (w : World ω) (s : State ω) (f : Fixture) (flags : BitVec 32) :
    ∃ es rs, Adds s (w.dispatch s (.teardown f flags)).2 es rs ∧
      ∀ c, SlotEvent.free c ∈ es → s.tlsValuePtr = some c := by
  have hrelease : ∃ es, Adds s s.getTlsValuePtr.release es [] ∧ ∀ c, SlotEvent.free c ∈ es → s.tlsValuePtr = some c := by
    unfold State.release
    split
    · exact ⟨[.get s.tlsValuePtr], ⟨rfl, by simp [State.getTlsValuePtr], Nat.le_refl _⟩, by simp⟩
    · rename_i cell hcell
      refine ⟨[.get s.tlsValuePtr, .free cell], ⟨?_, ?_, Nat.le_refl _⟩, ?_⟩
      · simp [State.getTlsValuePtr]
      · simp [State.getTlsValuePtr]
      · intro c hc
        have heq : c = cell := by simpa using hc
        rw [heq]
        exact hcell
  obtain ⟨es, hadds, hfree⟩ := hrelease
  simp only [World.dispatch, World.runTeardownRoutine]
  split
  · exact ⟨[], [], ⟨by simp, by simp, Nat.le_refl _⟩, by simp⟩
  split
  · generalize w.callRoutine _ _ _ = x
    refine ⟨es, [.teardown x], ⟨hadds.events, ?_, hadds.cells⟩, hfree⟩
    simp [State.respond, hadds.requests]
  · exact ⟨es, [], hadds, hfree⟩

/-- The other calls free nothing and keep the pointer. -/
theorem dispatch_adds (w : World ω) (s : State ω) (call : Call) (hsetup : call.label ≠ .setup)
    (hteardown : call.label ≠ .teardown) : ∃ es rs, Adds s (w.dispatch s call).2 es rs ∧
      (∀ c, SlotEvent.free c ∉ es) ∧ (w.dispatch s call).2.tlsValuePtr = s.tlsValuePtr := by
  cases call with
  | setup f flags    => exact absurd rfl hsetup
  | teardown f flags => exact absurd rfl hteardown
  | before f flags =>
      simp only [World.dispatch, World.runBeforeRoutine]
      split
      · exact ⟨[], [], ⟨by simp, by simp, Nat.le_refl _⟩, by simp, rfl⟩
      split
      · exact ⟨[.get s.tlsValuePtr], [_], ⟨rfl, rfl, Nat.le_refl _⟩, by simp, rfl⟩
      · exact ⟨[.get s.tlsValuePtr], [], ⟨rfl, by simp [State.getTlsValuePtr], Nat.le_refl _⟩, by simp, rfl⟩
  | runTestCase testCase flags =>
      simp only [World.dispatch, World.runTestCaseRoutine]
      split
      · exact ⟨[], [], ⟨by simp, by simp, Nat.le_refl _⟩, by simp, rfl⟩
      · exact ⟨[.get s.tlsValuePtr], [_], ⟨rfl, rfl, Nat.le_refl _⟩, by simp, rfl⟩
  | after f flags =>
      simp only [World.dispatch, World.runAfterRoutine]
      split
      · exact ⟨[], [], ⟨by simp, by simp, Nat.le_refl _⟩, by simp, rfl⟩
      split
      · exact ⟨[.get s.tlsValuePtr], [_], ⟨rfl, rfl, Nat.le_refl _⟩, by simp, rfl⟩
      · exact ⟨[.get s.tlsValuePtr], [], ⟨rfl, by simp [State.getTlsValuePtr], Nat.le_refl _⟩, by simp, rfl⟩
  | beforeFixtureStart | beforeTestCaseStart | afterTestCaseFinish | afterFixtureFinish =>
      exact ⟨[], [], ⟨by simp [World.dispatch], by simp [World.dispatch], Nat.le_refl _⟩, by simp, rfl⟩

/-! ## Fixtures -/

/-- The history after a fixture. -/
def Settled (s : State ω) : Prop := Idle s ∨ Harmed s

/-- A call of the host. -/
theorem invoke_some {call : Call} {hr : HRESULT} {r r' : Run (State ω)} (h : w.host.invoke call r = (hr, r')) :
    hr = (w.dispatch r.env call).1 ∧ r'.env = (w.dispatch r.env call).2 := by
  cases h
  exact ⟨rfl, rfl⟩

/-- A fixture on an orderly history. -/
def settles (hv : w.isValidContext = true) (a : TsexecAction) :
    Outline w.host a (fun r => Idle r.env) (fun _ r => Settled r.env) where
  opened r      := Idle r.env
  loop _ _ r    := Busy r.env ∧ r.env.Unharmed
  started _ r   := Busy r.env ∧ r.env.Unharmed
  prepared _ r  := Busy r.env ∧ r.env.Unharmed
  tested _ hr r := Busy r.env ∧ (r.env.Unharmed ↔ fatal hr = false) ∧
    responseHr r.env.lastTest eTestRoutineFailed = hr
  ended _ hr r  := Busy r.env ∧ (r.env.Unharmed ↔ fatal hr = false)
  stopped _ _ r := Busy r.env ∧ r.env.Unharmed
  closing _ _ r := Settled r.env
  reject        := by
    intro r hidle _
    exact .inl hidle
  start         := by
    intro r r' hr hidle _ hcall
    obtain ⟨-, henv⟩ := invoke_some hcall
    have hidle' : Idle r'.env := by
      rw [henv]
      exact ⟨hidle.orderly.congr rfl rfl rfl, hidle.pointer, hidle.unharmed⟩
    split
    · exact .inl hidle'
    · exact hidle'
  setup         := by
    intro r r' hr flags hidle hcall
    obtain ⟨hhr, henv⟩ := invoke_some hcall
    have hspec := runSetupRoutine_spec hv hidle a.fixture flags
    simp only at hspec
    rw [← hhr, ← henv] at hspec
    rcases hspec with ⟨hfail, hsettled⟩ | ⟨hok, hbusy⟩
    · split
      · exact hsettled
      · exact hsettled
    · simpa [setupFailure_eq_false hok, hok] using hbusy
  skip          := fun _ _ h => h
  announce      := by
    intro i hr₀ r r' hr _ _ hbusy hcall
    obtain ⟨-, henv⟩ := invoke_some hcall
    have hbusy' : Busy r'.env ∧ r'.env.Unharmed := by
      rw [henv]
      exact ⟨⟨hbusy.1.orderly.congr rfl rfl rfl, hbusy.1.pointer⟩, hbusy.2⟩
    split
    · exact hbusy'
    · exact hbusy'
  before        := by
    intro i r r' hr flags hbusy hcall
    obtain ⟨hhr, henv⟩ := invoke_some hcall
    have hspec := runBeforeRoutine_spec hv hbusy.1 hbusy.2 a.fixture flags
    simp only at hspec
    rw [← hhr, ← henv] at hspec
    cases hf : failed hr with
    | true  => exact hspec
    | false => exact ⟨hspec.1, hspec.2.mpr (by simp [fatal, hf])⟩
  test          := by
    intro i r r' hr flags hbusy hcall
    obtain ⟨hhr, henv⟩ := invoke_some hcall
    have hspec := runTestCaseRoutine_spec hv hbusy.1 hbusy.2 ⟨a.fixture, i⟩ flags
    rw [hhr, henv]
    exact hspec
  after         := by
    intro i r r' hrTestCase hr flags htested hcall
    obtain ⟨hhr, henv⟩ := invoke_some hcall
    have hspec := runAfterRoutine_spec hv htested.1 htested.2.1 htested.2.2 a.fixture flags
    rw [hhr, henv]
    exact hspec
  abandon       := by
    intro i r hr hended hfatal
    -- the fixture returns from inside of its loop: its cell is lost, and the fatal response is to blame
    refine .inr (hended.1.harmed ?_)
    rw [hended.2, hfatal]
    simp
  finish        := by
    intro i r hr hended hfatal
    have hbusy : Busy (w.dispatch r.env (.afterTestCaseFinish w.host.threadId ⟨a.fixture, i⟩ (succeeded hr))).2 :=
      ⟨hended.1.orderly.congr rfl rfl rfl, hended.1.pointer⟩
    have hunharmed := hended.2.mpr hfatal
    split
    · exact ⟨hbusy, hunharmed⟩
    · exact ⟨hbusy, hunharmed⟩
  leave         := fun h => h
  teardown      := by
    intro fixtureShortCircuit hr r r' teardownHr flags hbusy hcall
    obtain ⟨-, henv⟩ := invoke_some hcall
    have hspec := runTeardownRoutine_spec hv hbusy.1 hbusy.2 a.fixture flags
    have hsettled : Settled r'.env := by
      rw [henv]
      exact .inl hspec
    split
    · exact hsettled
    · exact hsettled
  close         := by
    intro ranToCompletion hr r hsettled
    rcases hsettled with hidle | ⟨⟨c, hleaked⟩, hharm⟩
    · exact .inl ⟨hidle.orderly.congr rfl rfl rfl, hidle.pointer, hidle.unharmed⟩
    · exact .inr ⟨⟨c, ⟨hleaked.malloc, hleaked.free, hleaked.old⟩⟩, hharm⟩

/-- A cell is lost, and a response is to blame. -/
def Lost (c : Cell) (s : State ω) : Prop := Leaked c s ∧ ¬ s.Unharmed

theorem Lost.adds {s' : State ω} {es : List SlotEvent} {rs : List (Request ω)} (h : Lost c s)
    (hadds : Adds s s' es rs) (hfree : SlotEvent.free c ∉ es) : Lost c s' :=
  ⟨h.1.adds hadds hfree, hadds.not_unharmed h.2⟩

theorem Lost.dispatch (h : Lost c s) (w : World ω) (call : Call) (hsetup : call.label ≠ .setup)
    (hteardown : call.label ≠ .teardown) :
    Lost c (w.dispatch s call).2 ∧ (w.dispatch s call).2.tlsValuePtr = s.tlsValuePtr := by
  obtain ⟨es, rs, hadds, hfree, hptr⟩ := dispatch_adds w s call hsetup hteardown
  exact ⟨h.adds hadds (hfree c), hptr⟩

/-- A call that is neither Setup nor Teardown, while the pointer refers to another cell. -/
theorem Lost.invoke {call : Call} {hr : HRESULT} {r r' : Run (State ω)}
    (h : Lost c r.env ∧ r.env.tlsValuePtr ≠ some c) (hcall : w.host.invoke call r = (hr, r'))
    (hsetup : call.label ≠ .setup) (hteardown : call.label ≠ .teardown) :
    Lost c r'.env ∧ r'.env.tlsValuePtr ≠ some c := by
  obtain ⟨-, henv⟩ := invoke_some hcall
  obtain ⟨hlost, hptr⟩ := h.1.dispatch w call hsetup hteardown
  rw [henv, hptr]
  exact ⟨hlost, h.2⟩

/-- A fixture after a loss. -/
def keepsLost (w : World ω) (c : Cell) (a : TsexecAction) :
    Outline w.host a (fun r => Lost c r.env) (fun _ r => Lost c r.env) where
  opened r      := Lost c r.env
  loop _ _ r    := Lost c r.env ∧ r.env.tlsValuePtr ≠ some c
  started _ r   := Lost c r.env ∧ r.env.tlsValuePtr ≠ some c
  prepared _ r  := Lost c r.env ∧ r.env.tlsValuePtr ≠ some c
  tested _ _ r  := Lost c r.env ∧ r.env.tlsValuePtr ≠ some c
  ended _ _ r   := Lost c r.env ∧ r.env.tlsValuePtr ≠ some c
  stopped _ _ r := Lost c r.env ∧ r.env.tlsValuePtr ≠ some c
  closing _ _ r := Lost c r.env
  reject        := fun hlost _ => hlost
  start         := by
    intro r r' hr hlost _ hcall
    obtain ⟨-, henv⟩ := invoke_some hcall
    have hlost' : Lost c r'.env := by
      rw [henv]
      exact (hlost.dispatch w (.beforeFixtureStart w.host.threadId a.fixture) nofun nofun).1
    split
    · exact hlost'
    · exact hlost'
  setup         := by
    intro r r' hr flags hlost hcall
    obtain ⟨hhr, henv⟩ := invoke_some hcall
    obtain ⟨es, rs, hadds, hfree, hnew⟩ := runSetupRoutine_adds w r.env a.fixture flags
    have hlost' : Lost c r'.env := by
      rw [henv]
      exact hlost.adds hadds (hfree c)
    split
    · exact hlost'
    · cases hf : failed hr with
      | true  => exact hlost'
      | false =>
          -- the new cell is not the lost one, which is older
          refine ⟨hlost', ?_⟩
          rw [hhr] at hf
          have hptr : r'.env.tlsValuePtr = some r.env.cells := by
            rw [henv]
            exact hnew hf
          rw [hptr]
          intro heq
          exact absurd hlost.1.old (by rw [Option.some.inj heq]; exact Nat.lt_irrefl _)
  skip          := fun _ _ h => h
  announce      := by
    intro i hr₀ r r' hr _ _ hlost hcall
    have hlost' := Lost.invoke hlost hcall nofun nofun
    split
    · exact hlost'
    · exact hlost'
  before        := by
    intro i r r' hr flags hlost hcall
    have hlost' := Lost.invoke hlost hcall nofun nofun
    split
    · exact hlost'
    · exact hlost'
  test          := by
    intro i r r' hr flags hlost hcall
    exact Lost.invoke hlost hcall nofun nofun
  after         := by
    intro i r r' hrTestCase hr flags hlost hcall
    exact Lost.invoke hlost hcall nofun nofun
  abandon       := fun h _ => h.1
  finish        := by
    intro i r hr ⟨hlost, hne⟩ _
    obtain ⟨hlost', hptr⟩ := hlost.dispatch w
      (.afterTestCaseFinish w.host.threadId ⟨a.fixture, i⟩ (succeeded hr)) nofun nofun
    rw [← hptr] at hne
    split
    · exact ⟨hlost', hne⟩
    · exact ⟨hlost', hne⟩
  leave         := fun h => h
  teardown      := by
    intro fixtureShortCircuit hr r r' teardownHr flags ⟨hlost, hne⟩ hcall
    obtain ⟨-, henv⟩ := invoke_some hcall
    obtain ⟨es, rs, hadds, hfree⟩ := runTeardownRoutine_adds w r.env a.fixture flags
    -- Teardown frees the cell that the pointer refers to, which is another one
    have hlost' : Lost c r'.env := by
      rw [henv]
      exact hlost.adds hadds (fun hc => hne (hfree c hc))
    split
    · exact hlost'
    · exact hlost'
  close         := by
    intro ranToCompletion hr r hlost
    exact (hlost.dispatch w (.afterFixtureFinish w.host.threadId a.fixture ranToCompletion) nofun nofun).1

theorem settled_run (w : World ω) (a : TsexecAction) {r : Run (State ω)} (h : Settled r.env) :
    Settled (runFixtureExecutionAction w.host a r).2.env := by
  rcases h with hidle | ⟨⟨c, hleaked⟩, hharm⟩
  · cases hv : w.isValidContext with
    | true  => exact (settles hv a).run hidle
    | false =>
        have hreject : runFixtureExecutionAction w.host a r = (eInvalidarg, r) := by
          simp [runFixtureExecutionAction, World.host, hv]
        rw [hreject]
        exact .inl hidle
  · have hlost := (keepsLost w c a).run ⟨hleaked, hharm⟩
    exact .inr ⟨⟨c, hlost.1⟩, hlost.2⟩

/-- Whatever the fixtures are, the history is settled after them. -/
theorem settled_runAll (w : World ω) (as : List TsexecAction) {r : Run (State ω)} (h : Settled r.env) :
    Settled (w.runAll as r).env := by
  induction as generalizing r with
  | nil          => exact h
  | cons a as ih => exact ih (settled_run w a h)

theorem settled_start (user : ω) : Settled (start user).env := by
  refine .inl ⟨⟨?_, ?_, ?_, ?_, ?_⟩, rfl, ?_⟩
  · simp [start]
  · simp [start]
  · simp [start]
  · simp [start]
  · simp [start]
  · simp [start, State.Unharmed]

/-- **The lifecycle of the slots over any sequence of fixtures**: it is kept exactly if no response keeps a
    fixture from being torn down. -/
theorem slots_lifecycle_iff (w : World ω) (as : List TsexecAction) (user : ω) :
    let s := (w.runAll as (start user)).env
    Lifecycle s.events ↔ ∀ r ∈ s.requests, r.Harmless := by
  -- either nothing is lost and no response is to blame, or both
  rcases settled_runAll w as (settled_start user) with hidle | ⟨⟨c, hleaked⟩, hharm⟩
  · exact iff_of_true (hidle.orderly.lifecycle hidle.pointer) hidle.unharmed
  · exact iff_of_false hleaked.not_lifecycle hharm

/-- A world in which everything succeeds but the Setup routines, which fail. -/
def failingSetup : World Unit where
  isValidContext      := true
  isDebuggerPresent _ := false
  currentThreadId     := 1
  callback _ _        := (sOk, ())
  malloc _            := (true, ())
  callRoutine call _ _ := ⟨sOk, call.label != .setup, false, 0, ()⟩

/-- The second Setup runner finds the slot of the first fixture. -/
theorem slots_lifecycle_broken : ¬ ∀ (w : World Unit) (as : List TsexecAction),
    Lifecycle (w.runAll as (start ())).env.events := by
  intro h
  have hlife := h failingSetup [twoTestCases 0#32, twoTestCases 0#32]
  have hfound : SlotEvent.setup (some 0) ∈
      (failingSetup.runAll [twoTestCases 0#32, twoTestCases 0#32] (start ())).env.events := by decide
  cases hlife.setup _ hfound

end Cfix.KernelSlots
