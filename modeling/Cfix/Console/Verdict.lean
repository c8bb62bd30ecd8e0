import Cfix.Console.EventSink
import Cfix.Lib.Transition

/-!
# `Console.Verdict` — what the console says about a test case

A session is a stream of callbacks in which test cases are properly started and finished. The sink prints
`[Success]` when a test case finishes and its counters are 0. No callback increments them.
-/

namespace Cfix.Console

open Transition

/-! ## Sessions -/

/-- The sink, and what has been told to it. -/
structure Session where
  sink     : Sink
  /-- The names of the test case that has been started, and of its fixture and module. -/
  testCase : Option (String × String × String)
  /-- The events reported since then. -/
  reported : List EventType

def Session.created (flags : BitVec 32) : Session where
  sink     := .created flags
  testCase := none
  reported := []

section Run

variable (resolveMessage : BitVec 32 → Nat → Except HRESULT String)

/-- A callback. Test cases are not nested, and the one that finishes is the one that has been started. -/
def next (s : Session) (c : Callback) : Option Session :=
  let sink := (s.sink.call resolveMessage c).1
  match c with
  | .beforeTestCaseStart _ m f tc       =>
    if s.testCase = none then some { sink := sink, testCase := some (m, f, tc), reported := [] } else none
  | .afterTestCaseFinish _ m f tc _     =>
    if s.testCase = some (m, f, tc) then some { s with sink := sink, testCase := none } else none
  | .reportEvent _ _ _ _ event          =>
    some { s with sink := sink, reported := s.reported ++ [event.info.type] }
  | .beforeFixtureStart _ _ _ | .afterFixtureFinish _ _ _ _ => some { s with sink := sink }

/-- The events that a successful test case does not report. -/
def spoils : EventType → Bool
  | .failedAssertion | .uncaughtException | .inconclusiveness => true
  | .log                                                      => false

/-- `[Success]` is printed for the test case iff no such event was reported since its start. -/
def VerdictRight (s : Session) : Callback → Prop
  | .afterTestCaseFinish t m f tc ran =>
    (s.sink.call resolveMessage (.afterTestCaseFinish t m f tc ran)).2 = Sink.successLine m f tc ↔
      ∀ e ∈ s.reported, spoils e = false
  | _                                 => True

/-- The test case that finishes has only logged. -/
def OnlyLogs (s : Session) : Callback → Prop
  | .afterTestCaseFinish _ _ _ _ _ => ∀ e ∈ s.reported, e = .log
  | _                              => True

end Run

/-! ## The counters -/

variable {resolveMessage : BitVec 32 → Nat → Except HRESULT String} {s s' : Session}

theorem spoils_eq_false {e : EventType} : spoils e = false ↔ e = .log := by
  cases e <;> simp [spoils]

/-- The counters are 0. -/
def Sink.Unspoiled (sink : Sink) : Prop := sink.failureCount = 0#32 ∧ sink.inconclusiveCount = 0#32

/-- No callback changes that. -/
theorem Sink.Unspoiled.call {sink : Sink} (h : sink.Unspoiled) (c : Callback) :
    (sink.call resolveMessage c).1.Unspoiled := by
  cases c with
  | reportEvent _ m f tc event        =>
      simp only [Sink.call, Sink.reportEvent]
      cases event.info <;> exact h
  | beforeTestCaseStart _ _ _ _       => exact ⟨rfl, rfl⟩
  | afterTestCaseFinish _ m f tc _    =>
      simp only [Sink.call, Sink.afterTestCaseFinish]
      split <;> exact h
  | beforeFixtureStart _ _ _          => exact h
  | afterFixtureFinish _ _ _ _        => exact h

theorem Sink.Unspoiled.afterTestCaseFinish {sink : Sink} (h : sink.Unspoiled) (m f tc : String) :
    (sink.afterTestCaseFinish m f tc).2 = successLine m f tc := by
  simp [Sink.afterTestCaseFinish, h.1, h.2]

theorem unspoiled_next {c : Callback} (h : s.sink.Unspoiled) (hnext : next resolveMessage s c = some s') :
    s'.sink.Unspoiled := by
  have hsink : s'.sink = (s.sink.call resolveMessage c).1 := by
    unfold next at hnext
    cases c with
    | reportEvent _ _ _ _ _         => cases hnext; rfl
    | beforeFixtureStart _ _ _      => cases hnext; rfl
    | afterFixtureFinish _ _ _ _    => cases hnext; rfl
    | beforeTestCaseStart _ _ _ _   =>
        simp only [Option.ite_none_right_eq_some, Option.some.injEq] at hnext
        rw [← hnext.2]
    | afterTestCaseFinish _ _ _ _ _ =>
        simp only [Option.ite_none_right_eq_some, Option.some.injEq] at hnext
        rw [← hnext.2]
  rw [hsink]
  exact h.call c

/-! ## The verdict -/

/-- With counters that are 0 the verdict is right iff it should be a success. -/
theorem verdictRight_iff (h : s.sink.Unspoiled) (c : Callback) : VerdictRight resolveMessage s c ↔ OnlyLogs s c := by
  cases c with
  | afterTestCaseFinish t m f tc ran =>
      have hline : (s.sink.call resolveMessage (.afterTestCaseFinish t m f tc ran)).2 = Sink.successLine m f tc :=
        h.afterTestCaseFinish m f tc
      simp only [VerdictRight, OnlyLogs, hline, true_iff, spoils_eq_false]
  | reportEvent _ _ _ _ _       => exact Iff.rfl
  | beforeFixtureStart _ _ _    => exact Iff.rfl
  | afterFixtureFinish _ _ _ _  => exact Iff.rfl
  | beforeTestCaseStart _ _ _ _ => exact Iff.rfl

/-- **The console's verdicts in a session** are right iff the test cases that finish have only logged. -/
theorem verdicts_iff (resolveMessage : BitVec 32 → Nat → Except HRESULT String) (flags : BitVec 32)
    (calls : List Callback) (hr : run (next resolveMessage) (.created flags) calls = some s) :
    Meets (next resolveMessage) (VerdictRight resolveMessage) (.created flags) calls ↔
      Meets (next resolveMessage) OnlyLogs (.created flags) calls :=
  meets_congr (I := fun s => s.sink.Unspoiled) (fun _ c _ h _ => verdictRight_iff h c)
    (fun _ _ _ h _ hnext => unspoiled_next h hnext) ⟨rfl, rfl⟩ hr

/-! ## Two sessions -/

/-- The events of one test case. -/
def testCaseWith (events : List EventInfo) : List Callback :=
  .beforeTestCaseStart ⟨1, 1⟩ "Module" "Fixture" "Test" ::
    events.map (fun info => .reportEvent ⟨1, 1⟩ "Module" "Fixture" "Test" ⟨info, ⟨[], none⟩⟩) ++
    [.afterTestCaseFinish ⟨1, 1⟩ "Module" "Fixture" "Test" true]

/-- Without a message resolver no error message is found. -/
def noMessages (_ : BitVec 32) (_ : Nat) : Except HRESULT String := .error eUnknownMessage

theorem verdicts_logging :
    Meets (next noMessages) (VerdictRight noMessages) (.created 0#32) (testCaseWith [.log "Message"]) := by
  refine (verdicts_iff noMessages 0#32 (testCaseWith [.log "Message"]) rfl).mpr ?_
  refine .cons rfl trivial (.cons rfl trivial (.cons rfl ?_ trivial))
  show ∀ e ∈ [EventType.log], e = .log
  decide

/-- A failed assertion is reported, and the test case is reported as a success. -/
theorem failure_succeeds :
    (∃ s, run (next noMessages) (.created 0#32)
      (testCaseWith [.failedAssertion "Test.c" "Test" 1#32 "x == y" 0#32]) = some s) ∧
    ¬ Meets (next noMessages) (VerdictRight noMessages) (.created 0#32)
      (testCaseWith [.failedAssertion "Test.c" "Test" 1#32 "x == y" 0#32]) := by
  refine ⟨⟨_, rfl⟩, fun h => ?_⟩
  have hlast := ((h.2 _ rfl).2 _ rfl).1.mp rfl .failedAssertion (List.mem_singleton.mpr rfl)
  cases hlast

end Cfix.Console
