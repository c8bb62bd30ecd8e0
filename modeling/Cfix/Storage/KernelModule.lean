import Cfix.Storage.PeModule

/-!
# `Storage.KernelModule` — the routine runners of a kernel-mode module (`cfixkl/module.c`)

The value of slot 0 is kept in an allocated cell whose address is in a TLS slot. It travels to the reflector
with each call of a routine and comes back with the response, so the runners decide when it is cleared.
-/

namespace Cfix

/-! ## Environment -/

/-- `CFIXKLP_ROUTINE_PRESENT`, which is set in the routines of a fixture if the routine exists. -/
def cfixklpRoutinePresent : Nat := 0x80000000

/-- What a routine does in the driver, on `Channel.TlsValue`. -/
abbrev KernelBody (ω : Type) := Pvoid → ω → Completion × Pvoid × ω

structure KernelEnvironment (ω : Type) where
  isValidContext      : Bool
  isDebuggerPresent   : Nat → Bool
  currentThreadId     : Nat
  beforeFixtureStart  : HRESULT
  beforeTestCaseStart : Nat → HRESULT
  /-- The allocation of the cell succeeds. -/
  malloc              : Bool
  /-- The result of sending the request for the routine; if it fails the routine is not called. -/
  deviceIoControl     : RoutineId → HRESULT
  body                : RoutineId → KernelBody ω

/-- `tlsValuePtr` is the cell whose address is in the TLS slot, if there is one. -/
structure KernelState (ω : Type) where
  table       : TableEnv
  tlsValuePtr : Option Pvoid
  user        : ω

variable {ω : Type}

/-- `*TlsValuePtr`; the code asserts and assumes that the pointer is not `NULL`. -/
def KernelState.tlsValue (s : KernelState ω) : Pvoid := s.tlsValuePtr.getD 0

/-! ## Runners -/

/-- What `CfixklpCallRoutine` gives: its result, `RoutineRanToCompletion`, `AbortRun` and `TlsValue`. -/
structure RoutineResponse (ω : Type) where
  hr              : HRESULT
  ranToCompletion : Bool
  abortRun        : Bool
  tlsValue        : Pvoid
  user            : ω

namespace KernelEnvironment

variable (k : KernelEnvironment ω)

/-- `CfixklpCallRoutine`. A failure to report an event is dropped. -/
def callRoutine (r : RoutineId) (tlsValue : Pvoid) (user : ω) : RoutineResponse ω :=
  if failed (k.deviceIoControl r) then ⟨k.deviceIoControl r, false, false, tlsValue, user⟩
  else
    let (completion, tlsValue, user) := k.body r tlsValue user
    ⟨sOk, completion == .returned, completion == .raised true, tlsValue, user⟩

/-- How the runners read the response. -/
def responseHr (x : RoutineResponse ω) (failureHr : HRESULT) : HRESULT :=
  if succeeded x.hr && x.abortRun then eTestrunAborted
  else if succeeded x.hr && !x.ranToCompletion then failureHr
  else x.hr

/-- `CfixklsRunSetupRoutine`. The value is 0 for the first call and is reset after the routine. -/
def runSetupRoutine (f : Fixture) (s : KernelState ω) : HRESULT × KernelState ω :=
  if !k.isValidContext then (eInvalidarg, s)
  else if !k.malloc then (eOutofmemory, s)
  else
    let s := { s with tlsValuePtr := some 0 }
    if f.setupRoutine &&& f.setupRoutine != 0 then
      let x := k.callRoutine .setup s.tlsValue s.user
      (responseHr x eSetupRoutineFailed, { s with tlsValuePtr := some 0, user := x.user })
    else (sOk, s)

/-- `CfixklsRunTeardownRoutine`. The routine gets a copy of the value, the cell is freed. -/
def runTeardownRoutine (f : Fixture) (s : KernelState ω) : HRESULT × KernelState ω :=
  if !k.isValidContext then (eInvalidarg, s)
  else
    let tlsValueCopy := s.tlsValue
    let s := { s with tlsValuePtr := none }
    if f.teardownRoutine &&& cfixklpRoutinePresent != 0 then
      let x := k.callRoutine .teardown tlsValueCopy s.user
      (responseHr x eTeardownRoutineFailed, { s with user := x.user })
    else (sOk, s)

/-- `CfixklsRunBeforeOrAfterRoutine`. -/
def runBeforeOrAfterRoutine (routineTag : Nat) (r : RoutineId) (failureHr : HRESULT) (resetTlsAfterCall : Bool)
    (s : KernelState ω) : HRESULT × KernelState ω :=
  if routineTag &&& cfixklpRoutinePresent != 0 then
    let x := k.callRoutine r s.tlsValue s.user
    let tlsValue := if resetTlsAfterCall then 0 else x.tlsValue
    (responseHr x failureHr, { s with tlsValuePtr := some tlsValue, user := x.user })
  else (sOk, s)

/-- `CfixklsRunBeforeRoutine`. -/
def runBeforeRoutine (f : Fixture) (i : Nat) (s : KernelState ω) : HRESULT × KernelState ω :=
  if !k.isValidContext then (eInvalidarg, s)
  else k.runBeforeOrAfterRoutine f.beforeRoutine (.before i) eBeforeRoutineFailed false s

/-- `CfixklsRunAfterRoutine`. -/
def runAfterRoutine (f : Fixture) (i : Nat) (s : KernelState ω) : HRESULT × KernelState ω :=
  if !k.isValidContext then (eInvalidarg, s)
  else k.runBeforeOrAfterRoutine f.afterRoutine (.after i) eAfterRoutineFailed true s

/-- `CfixklsRunTestCaseRoutine`. The routine is a key, so it is never missing. -/
def runTestCaseRoutine (testCase : TestCaseRef) (s : KernelState ω) : HRESULT × KernelState ω :=
  if !k.isValidContext then (eInvalidarg, s)
  else
    let x := k.callRoutine (.test testCase.index) s.tlsValue s.user
    (responseHr x eTestRoutineFailed, { s with tlsValuePtr := some x.tlsValue, user := x.user })

/-- What a call of the fixture action does, before it is counted. -/
def dispatch (s : KernelState ω) : Call → HRESULT × KernelState ω
  | .beforeFixtureStart _ _   => (k.beforeFixtureStart, s)
  | .beforeTestCaseStart _ tc => (k.beforeTestCaseStart tc.index, s)
  | .setup f _                => k.runSetupRoutine f s
  | .before f _               => k.runBeforeRoutine f s.table.index s
  | .runTestCase tc _         => k.runTestCaseRoutine tc s
  | .after f _                => k.runAfterRoutine f s.table.index s
  | .teardown f _             => k.runTeardownRoutine f s
  | .afterTestCaseFinish _ _ _ | .afterFixtureFinish _ _ _ => (sOk, s)

/-- The host of a fixture action whose module is a driver. -/
def host : Host (KernelState ω) where
  isValidContext      := k.isValidContext
  isDebuggerPresent s := k.isDebuggerPresent s.table.calls
  currentThreadId     := k.currentThreadId
  call c s            :=
    let r := k.dispatch s c
    (r.1, { r.2 with table := s.table.next c })

/-- The run of the action; no fixture is being run on this thread. -/
def run (a : TsexecAction) (user : ω) : HRESULT × Run (KernelState ω) :=
  runFixtureExecutionAction k.host a
    { env := { table := ⟨0, 0⟩, tlsValuePtr := none, user := user }, trace := [] }

end KernelEnvironment

/-! ## The slots of a driver's routine -/

/-- `CfixkrsSetValueStub`: there is slot 0 only. -/
def kernelSetValue (slot : Pvoid) (tag : BitVec 32) (value : Pvoid) : Pvoid :=
  if tag != 0#32 then slot else value

/-- `CfixkrsGetValueStub`. -/
def kernelGetValue (slot : Pvoid) (tag : BitVec 32) : Pvoid := if tag != 0#32 then 0 else slot

/-- The routine in a driver. -/
def Prog.runInDriver (p : Prog) (slot : Pvoid) : ProgResult Pvoid := p.exec kernelGetValue kernelSetValue slot

/-- The routine returns, and does not use the tag that is reserved for C++ fixtures. -/
def Prog.Plain : Prog → Prop
  | .finish completion      => completion = .returned
  | .setValue tag _ next    => tag ≠ cfixTagReservedForCc ∧ next.Plain
  | .getValue tag next      => tag ≠ cfixTagReservedForCc ∧ ∀ value, (next value).Plain

theorem Prog.completion_run {p : Prog} (h : p.Plain) (s : Storage) : (p.run s).completion = .returned := by
  unfold Prog.run
  induction p generalizing s with
  | finish completion            => exact h
  | setValue tag value next ih   => exact ih h.2 _
  | getValue tag next ih         => exact ih _ (h.2 _) _

/-- On the same value of slot 0 a routine does the same in a process and in a driver. -/
theorem Prog.runInDriver_eq {p : Prog} (h : p.Plain) (s : Storage) :
    (p.runInDriver s.defaultSlot).completion = (p.run s).completion ∧
      (p.runInDriver s.defaultSlot).storage = (p.run s).storage.defaultSlot ∧
      (p.runInDriver s.defaultSlot).reads = (p.run s).reads := by
  unfold Prog.run Prog.runInDriver
  induction p generalizing s with
  | finish completion          => exact ⟨rfl, rfl, rfl⟩
  | setValue tag value next ih =>
      have hslot : kernelSetValue s.defaultSlot tag value = (s.setValue tag value).defaultSlot := by
        by_cases htag : tag = 0#32
        · simp [kernelSetValue, Storage.setValue, htag, cfixTagReservedForCc]
        · simp [kernelSetValue, Storage.setValue, h.1, htag]
      simp only [Prog.exec, hslot]
      exact ih h.2 _
  | getValue tag next ih       =>
      have hvalue : kernelGetValue s.defaultSlot tag = s.getValue tag := by
        by_cases htag : tag = 0#32
        · simp [kernelGetValue, Storage.getValue, htag, cfixTagReservedForCc]
        · simp [kernelGetValue, Storage.getValue, h.1, htag]
      obtain ⟨hcompletion, hstorage, hreads⟩ := ih (s.getValue tag) (h.2 _) s
      simp only [Prog.exec, hvalue]
      exact ⟨hcompletion, hstorage, by rw [hreads]⟩

end Cfix
