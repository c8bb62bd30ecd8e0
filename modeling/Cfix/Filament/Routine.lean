import Cfix.Filament.Outcome
import Cfix.Filament.Report
import Cfix.Lib.Transition

/-!
# `Filament.Routine` — a test routine with its child threads (`cfix/pe.c`, `cfix/thread.c`)

One call of `CfixsRunTestRoutine` as a transition system: the main thread installs the filament, runs the
routine, joins the child threads, restores the previous filament and destroys its own. Any number of threads
register meanwhile, through `CfixCreateThread2` (a creator can itself be a child thread) or, being anonymous,
through the default filament. An action is one call that a thread makes; a call that would block is not
enabled. Left out are child threads that run test routines of their own, with a filament of their own: what a
nested call finds is in `Call`, but the calls it would run concurrently with are not.
-/

namespace Cfix.Routine

open Thread Transition

/-! ## State -/

/-- A call of `CfixsRunTestRoutine`, and what it finds: the current filament of the calling thread (that of
    an enclosing call), the default filament, and the child threads of the other filaments. -/
structure Call where
  filaments         : FilamentId → Filament
  this              : FilamentId
  current           : TlsValue
  default_          : Option FilamentId
  childThreads      : FilamentId → List ThreadId
  current_ne        : current.filament ≠ some this
  default_ne        : default_ ≠ some this
  childThreads_this : childThreads this = []

/-- The thread that makes the call. -/
def Call.mainThread (c : Call) : ThreadId := (c.filaments c.this).mainThreadId

/-- `CFIX_TEST_FLAG_PROVIDE_DEFAULT_FILAMENT` was given. -/
def Call.providesDefault (c : Call) : Bool := (c.filaments c.this).providesDefault

/-- The shared state when the call begins. -/
def Call.world (c : Call) : World :=
  { World.initial with
    tls          := Function.update World.initial.tls c.mainThread c.current
    default_     := c.default_
    childThreads := c.childThreads }

/-- Where `CfixsRunTestRoutine` stands. -/
inductive MainPc where
  | entered
  | routine
  | routineDone
  /-- In `CfixpJoinChildThreadsFilament`, holding the filament's lock. -/
  | waiting
  | joined
  /-- `CfixpDestroyFilament` comes next. -/
  | destroying (result : HRESULT)
  | returned (result : HRESULT)
  deriving DecidableEq, Repr

/-- Where a thread stands in its use of the filament; for the main thread this follows the routine. -/
inductive ThreadPc where
  | absent
  /-- In `CfixsThreadStart`: `InitializationCompleted`, which the creator waits for, is not set. -/
  | starting (creator : ThreadId)
  /-- In test code; `awaits` is the thread whose initialization it waits for in `CfixCreateThread2`. -/
  | running (awaits : Option ThreadId)
  /-- The test code is over, the filament has not been reset. -/
  | leaving
  | exited
  deriving DecidableEq, Repr

structure State where
  world                  : World
  main                   : MainPc
  threads                : ThreadId → ThreadPc
  prevFilament           : Option FilamentId
  abortRun               : Bool
  routineRanToCompletion : Bool
  /-- The threads that the join has waited for. -/
  waitedFor              : List ThreadId
  /-- The threads that had a failed assertion or an uncaught exception answered with `CfixAbort`. -/
  aborted                : List ThreadId
  /-- An exception that no filter of this call handles, or the end of the main thread, ends everything. -/
  abandoned              : Bool

def Call.start (c : Call) : State where
  world                  := c.world
  main                   := .entered
  threads _              := .absent
  prevFilament           := none
  abortRun               := false
  routineRanToCompletion := false
  waitedFor              := []
  aborted                := []
  abandoned              := false

/-! ## Steps -/

inductive Action where
  /-- `CfixpInitializeFilament` and `CfixpSetCurrentFilament( &Filament, &PrevFilament )`. In this and the
      other actions `handleHr` is the result of `CfixsGetCurrentThreadHandle`. -/
  | install (handleHr : HRESULT)
  /-- Test code reports an event, which the execution context answers with `disp`. -/
  | report (t : ThreadId) (event : EventType) (disp : Disposition) (debuggerPresent : Bool)
  /-- Test code calls `CfixPeFail`. -/
  | fail (t : ThreadId)
  /-- Test code raises an exception that is not one of cfix. -/
  | raise (t : ThreadId) (code : ExceptionCode) (disp : Disposition)
  /-- An anonymous thread makes its first call into cfix: `CfixpGetCurrentFilament`. -/
  | attach (t : ThreadId) (handleHr : HRESULT)
  /-- `CfixCreateThread2` on thread `t`, up to the wait for the new thread `u`. -/
  | create (t u : ThreadId)
  /-- `CfixsThreadStart`, up to the call of the start routine. -/
  | start (u : ThreadId) (handleHr : HRESULT)
  /-- The creator's wait for `InitializationCompleted` ends. -/
  | resume (t : ThreadId)
  /-- The test code of the thread returns. -/
  | finish (t : ThreadId)
  /-- The thread resets its filament, in `CfixsThreadStart` or when it detaches. -/
  | leave (u : ThreadId)
  | beginJoin
  | endJoin
  /-- `CfixpSetCurrentFilament( PrevFilament, NULL )`. -/
  | restore (handleHr : HRESULT)
  /-- `CfixpDestroyFilament` and the return. -/
  | destroy
  deriving DecidableEq, Repr

variable (c : Call)

def State.install (handleHr : HRESULT) (s : State) : Option State :=
  if s.main = .entered then
    (setCurrentFilament c.filaments c.mainThread (some c.this) false handleHr s.world).map
      (fun (hr, prev, w) =>
        -- a filament that cannot be installed is destroyed at once
        if failed hr then { s with world := w, main := .destroying hr }
        else
          { s with
            world        := w
            main         := .routine
            prevFilament := prev
            threads      := Function.update s.threads c.mainThread (.running none) })
  else none

/-- The test code of thread `t` is over. For the main thread, `completed` and `abortRun` are what
    `RoutineRanToCompletion` and `AbortRun` get. -/
def State.stop (t : ThreadId) (completed abortRun : Bool) (s : State) : State :=
  { s with
    threads                := Function.update s.threads t .leaving
    main                   := if t = c.mainThread then .routineDone else s.main
    abortRun               := if t = c.mainThread then abortRun else s.abortRun
    routineRanToCompletion := if t = c.mainThread then completed else s.routineRanToCompletion }

/-- The answer of the execution context to a failed assertion or an uncaught exception. -/
def State.answer (t : ThreadId) (disp : Disposition) (s : State) : State :=
  if disp = .abort then { s with aborted := t :: s.aborted } else s

/-- An exception in the test code of thread `t`. An anonymous thread has no filter. -/
def State.unwind (t : ThreadId) (code : ExceptionCode) (disp : Disposition) (s : State) : State :=
  if (s.world.tls t).derivedFromDefaultFilament then { s with abandoned := true }
  else
    let s := if reportsException code then s.answer t disp else s
    match exceptionFilter code disp s.abortRun with
    | (.executeHandler, abortRun) => s.stop c t false abortRun
    | (.continueSearch, _)        => { s with abandoned := true }

/-- `ExitThread` on thread `t`. -/
def State.exit (t : ThreadId) (s : State) : State :=
  if t = c.mainThread then { s with abandoned := true }
  else { s with threads := Function.update s.threads t .leaving }

/-- What the end of a report function does to the reporting thread. The exceptions that it raises are not
    reported again, so no disposition is asked for. -/
def State.apply (t : ThreadId) (effect : Effect) (s : State) : State :=
  match effect with
  | .returns _   => s
  | .raises code => s.unwind c t code .continue_
  | .exits       => s.exit c t

/-- The report functions. Each takes the thread's filament from its TLS slot (`getCurrentFilament_user`).
    Test code does not report uncaught exceptions itself. -/
def State.report (t : ThreadId) (event : EventType) (disp : Disposition) (debuggerPresent : Bool)
    (s : State) : Option State :=
  let derived := (s.world.tls t).derivedFromDefaultFilament
  if s.threads t = .running none then
    match event with
    | .failedAssertion   =>
      some ((s.answer t disp).apply c t (peReportFailedAssertion disp derived debuggerPresent))
    | .inconclusiveness  => some (s.apply c t (peReportInconclusiveness derived))
    | .log               => some (s.apply c t (peReportLog disp))
    | .uncaughtException => none
  else none

def State.fail (t : ThreadId) (s : State) : Option State :=
  if s.threads t = .running none then
    some (s.apply c t (peFail (s.world.tls t).derivedFromDefaultFilament))
  else none

def State.raise (t : ThreadId) (code : ExceptionCode) (disp : Disposition) (s : State) : Option State :=
  if s.threads t = .running none ∧ code ∉ cfixExceptions then some (s.unwind c t code disp) else none

def State.attach (t : ThreadId) (handleHr : HRESULT) (s : State) : Option State :=
  if t ≠ c.mainThread ∧ s.threads t = .absent ∧ s.world.default_ = some c.this then
    -- a thread that cannot attach itself has no filament, and may try again
    (getCurrentFilament c.filaments t handleHr s.world).map (fun (hr, _, w) =>
      if failed hr then { s with world := w }
      else { s with world := w, threads := Function.update s.threads t (.running none) })
  else none

def State.create (t u : ThreadId) (s : State) : Option State :=
  if s.threads t = .running none ∧ u ≠ c.mainThread ∧ s.threads u = .absent then
    -- the creator does not go on before the new thread has registered
    some { s with
      threads := Function.update (Function.update s.threads t (.running (some u))) u (.starting t) }
  else none

def State.startThread (u : ThreadId) (handleHr : HRESULT) (s : State) : Option State :=
  match s.threads u with
  | .starting _ =>
    (setCurrentFilament c.filaments u (some c.this) false handleHr s.world).map (fun (hr, _, w) =>
      { s with
        world   := w
        threads := Function.update s.threads u (if failed hr then .exited else .running none) })
  | _ => none

def State.resume (t : ThreadId) (s : State) : Option State :=
  match s.threads t with
  | .running (some u) =>
    match s.threads u with
    | .starting _ => none
    -- the event is set also if the new thread failed to register
    | _           => some { s with threads := Function.update s.threads t (.running none) }
  | _ => none

def State.finish (t : ThreadId) (s : State) : Option State :=
  if s.threads t = .running none then some (s.stop c t true s.abortRun) else none

def State.leave (u : ThreadId) (s : State) : Option State :=
  if u ≠ c.mainThread ∧ s.threads u = .leaving then
    (setCurrentFilament c.filaments u none false sOk s.world).map (fun (_, _, w) =>
      { s with world := w, threads := Function.update s.threads u .exited })
  else none

/-- `EnterCriticalSection` in `CfixpJoinChildThreadsFilament`. -/
def State.beginJoin (s : State) : Option State :=
  if s.main = .routineDone then
    ((s.world.childLock c.this).enter c.mainThread).map (fun lock =>
      { s with
        world := { s.world with childLock := Function.update s.world.childLock c.this lock }
        main  := .waiting })
  else none

/-- `WaitForMultipleObjects` for all child threads, and `LeaveCriticalSection`. -/
def State.endJoin (s : State) : Option State :=
  if s.main = .waiting ∧ ∀ t ∈ s.world.childThreads c.this, s.threads t = .exited then
    some { s with
      world     := { s.world with
        childLock := Function.update s.world.childLock c.this (s.world.childLock c.this).leave }
      main      := .joined
      waitedFor := s.world.childThreads c.this }
  else none

/-- What `CfixsRunTestRoutine` returns. -/
def State.result (s : State) : HRESULT :=
  if s.abortRun then eTestrunAborted
  else if !s.routineRanToCompletion then eTestRoutineFailed
  else sOk

def State.restore (handleHr : HRESULT) (s : State) : Option State :=
  if s.main = .joined then
    (setCurrentFilament c.filaments c.mainThread s.prevFilament false handleHr s.world).map
      (fun (_, _, w) =>
        -- the result of the call is verified in debug builds only
        { s with
          world   := w
          main    := .destroying s.result
          threads := Function.update s.threads c.mainThread .exited })
  else none

def State.destroy (s : State) : Option State :=
  match s.main with
  | .destroying result => some { s with main := .returned result }
  | _                  => none

def next (s : State) (a : Action) : Option State :=
  if s.abandoned then none
  else
    match a with
    | .install handleHr                      => s.install c handleHr
    | .report t event disp debuggerPresent   => s.report c t event disp debuggerPresent
    | .fail t                                => s.fail c t
    | .raise t code disp                     => s.raise c t code disp
    | .attach t handleHr                     => s.attach c t handleHr
    | .create t u                            => s.create c t u
    | .start u handleHr                      => s.startThread c u handleHr
    | .resume t                              => s.resume t
    | .finish t                              => s.finish c t
    | .leave u                               => s.leave c u
    | .beginJoin                             => s.beginJoin c
    | .endJoin                               => s.endJoin c
    | .restore handleHr                      => s.restore c handleHr
    | .destroy                               => s.destroy

end Cfix.Routine
