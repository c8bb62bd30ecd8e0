import Cfix.Kernel.ThreadObjects
import Cfix.Storage.Slots

/-!
# `Kernel.FilamentTable` — the thread-to-filament table across a routine call (`cfixkr/drvconn.c`, `filament.c`)

`CfixkrpCallRoutineDriverConnection` keeps its filament on the stack and enters it into the connection's table
under its thread; every child thread enters it under its own, and removes this entry when its start routine
returns. A list of actions is an interleaving of the main thread and the child threads of one call, the only
one on the connection.
-/

namespace Cfix.FilamentTable

open Transition
open Cfix.Unload (NTSTATUS statusSuccess statusDriverUnableToLoad cfixMaxThreads)
open Cfix.ThreadObjects (ThreadId statusNoMemory)

/-! ## State -/

def statusDriverEntrypointNotFound : NTSTATUS := 0xC0000263#32

/-- The address of a `CFIXKRP_FILAMENT`. -/
abbrev FilamentId := Nat

/-- `Registry->Table`: the filament of each `KTHREAD`. -/
abbrev Table := ThreadId → Option FilamentId

/-- The thread that runs the call, and its stack-allocated filament. -/
structure Call where
  mainThread : ThreadId
  filament   : FilamentId

/-- Where the main thread stands in `CfixkrpCallRoutineDriverConnection`. -/
inductive MainPc where
  | entered
  /-- `Routine` is set. -/
  | found
  /-- `CfixkrpSetCurrentFilament` has succeeded. -/
  | associated
  | routine
  /-- In `KeWaitForMultipleObjects`, holding `ChildThreads.Lock`. -/
  | joining (completion : Completion)
  | joined (completion : Completion)
  /-- The status, with `RoutineRanToCompletion` and `AbortRun` if they are set. -/
  | returned (status : NTSTATUS) (completion : Option Completion)
  deriving DecidableEq, Repr

inductive Phase where
  | absent
  /-- In `CfixkrsThreadStart`, not yet a child of the filament. -/
  | starting
  /-- `CfixkrsRegisterChildThreadFilament` has succeeded. -/
  | registered
  /-- In its start routine. -/
  | running
  /-- At the end of `CfixkrsThreadStart`. -/
  | leaving
  | exited
  deriving DecidableEq, Repr

/-- The filament's `ChildThreads.Threads`, the threads, and for each thread in
    `CfixkrpCreateSystemThread` the child whose `InitializationCompleted` it waits for. -/
structure System where
  main         : MainPc
  childThreads : List ThreadId
  phase        : ThreadId → Phase
  waiting      : ThreadId → Option ThreadId
  table        : Table

/-- After `CfixkrpInitializeFilament`. -/
def System.initial (table : Table) : System where
  main         := .entered
  childThreads := []
  phase _      := .absent
  waiting _    := none
  table        := table

def MainPc.isJoining : MainPc → Bool
  | .joining _ => true
  | _          => false

def MainPc.isReturned : MainPc → Bool
  | .returned _ _ => true
  | _             => false

/-- `InitializationCompleted` is set. -/
def Phase.isInitialized : Phase → Bool
  | .running | .leaving | .exited    => true
  | .absent | .starting | .registered => false

/-- The thread is in the test routine, or in the start routine of a child. -/
def System.InRoutine (c : Call) (s : System) (x : ThreadId) : Prop :=
  x = c.mainThread ∧ s.main = .routine ∨ s.phase x = .running

instance (c : Call) (s : System) (x : ThreadId) : Decidable (s.InRoutine c x) :=
  inferInstanceAs (Decidable (_ ∨ _))

/-! ## Steps -/

inductive Action where
  /-- `CfixkrpGetRoutineTestAdapter`. -/
  | getRoutine (found : Bool)
  /-- `CfixkrpSetCurrentFilament` in the main thread; `pool` says whether its entry can be allocated. -/
  | setCurrentFilament (pool : Bool)
  /-- `CfixkrsAcquireDriverUnloadProtection`. -/
  | acquireUnloadProtection (loaded : Bool)
  /-- `CfixkrpCreateSystemThread`, up to its wait. -/
  | create (creator k : ThreadId)
  /-- `CfixkrpSetCurrentFilament` in a child, up to its registration. -/
  | register (k : ThreadId) (pool : Bool)
  /-- The rest of `CfixkrpSetCurrentFilament` in a child. -/
  | associate (k : ThreadId)
  /-- The wait for `InitializationCompleted` ends. -/
  | resume (creator : ThreadId)
  /-- The start routine returns or raises; `CfixkrpResetCurrentFilament`. -/
  | endStart (k : ThreadId)
  /-- The start routine calls `PsTerminateSystemThread`. -/
  | terminate (k : ThreadId)
  | exit (k : ThreadId)
  /-- The test routine returns or raises; `CfixkrpJoinChildThreadsFilament`, up to its wait. -/
  | endRoutine (completion : Completion)
  | endJoin
  /-- `CfixkrpResetCurrentFilament` in the main thread. -/
  | resetCurrentFilament
  deriving DecidableEq, Repr

/-- One step of one party; `none` if that party is not at this point or has to wait. -/
def next (c : Call) (s : System) : Action → Option System
  | .getRoutine found =>
    if s.main = .entered then
      if found then some { s with main := .found }
      else some { s with main := .returned statusDriverEntrypointNotFound none }
    else none
  | .setCurrentFilament pool =>
    if s.main = .found then
      if pool then
        some { s with main := .associated, table := Function.update s.table c.mainThread (some c.filament) }
      else some { s with main := .returned statusNoMemory none }
    else none
  | .acquireUnloadProtection loaded =>
    if s.main = .associated then
      if loaded then some { s with main := .routine }
      else some { s with main := .returned statusDriverUnableToLoad none }
    else none
  | .create creator k =>
    -- the filament that the child inherits is looked up in the table
    if s.InRoutine c creator ∧ s.waiting creator = none ∧ s.table creator = some c.filament ∧
        k ≠ c.mainThread ∧ s.phase k = .absent then
      some { s with
        phase   := Function.update s.phase k .starting
        waiting := Function.update s.waiting creator (some k) }
    else none
  | .register k pool =>
    -- the main thread holds the lock while it waits
    if s.phase k = .starting ∧ (pool = true → s.main.isJoining = false) then
      if pool = true ∧ s.childThreads.length ≠ cfixMaxThreads then
        some { s with
          childThreads := s.childThreads ++ [k]
          phase        := Function.update s.phase k .registered }
      else some { s with phase := Function.update s.phase k .leaving }
    else none
  | .associate k =>
    if s.phase k = .registered then
      some { s with
        phase := Function.update s.phase k .running
        table := Function.update s.table k (some c.filament) }
    else none
  | .resume creator =>
    match s.waiting creator with
    | none   => none
    | some k =>
      if (s.phase k).isInitialized then some { s with waiting := Function.update s.waiting creator none } else none
  | .endStart k =>
    if s.phase k = .running ∧ s.waiting k = none then
      some { s with
        phase := Function.update s.phase k .leaving
        table := Function.update s.table k none }
    else none
  | .terminate k =>
    if s.phase k = .running ∧ s.waiting k = none then
      some { s with phase := Function.update s.phase k .exited }
    else none
  | .exit k =>
    if s.phase k = .leaving then some { s with phase := Function.update s.phase k .exited } else none
  | .endRoutine completion =>
    if s.main = .routine ∧ s.waiting c.mainThread = none then some { s with main := .joining completion } else none
  | .endJoin =>
    match s.main with
    | .joining completion =>
      if ∀ k ∈ s.childThreads, s.phase k = .exited then some { s with main := .joined completion } else none
    | _ => none
  | .resetCurrentFilament =>
    match s.main with
    | .joined completion =>
      some { s with
        main  := .returned statusSuccess (some completion)
        table := Function.update s.table c.mainThread none }
    | _ => none

/-- What an action does, with the guards that it has passed. -/
inductive Step (c : Call) (s : System) : Action → System → Prop where
  | found : s.main = .entered → Step c s (.getRoutine true) { s with main := .found }
  | notFound : s.main = .entered →
      Step c s (.getRoutine false) { s with main := .returned statusDriverEntrypointNotFound none }
  | associated : s.main = .found → Step c s (.setCurrentFilament true)
      { s with main := .associated, table := Function.update s.table c.mainThread (some c.filament) }
  | notAssociated : s.main = .found →
      Step c s (.setCurrentFilament false) { s with main := .returned statusNoMemory none }
  | loaded : s.main = .associated → Step c s (.acquireUnloadProtection true) { s with main := .routine }
  | notLoaded : s.main = .associated →
      Step c s (.acquireUnloadProtection false) { s with main := .returned statusDriverUnableToLoad none }
  | created {creator k : ThreadId} : s.InRoutine c creator → s.waiting creator = none →
      s.table creator = some c.filament → k ≠ c.mainThread → s.phase k = .absent →
      Step c s (.create creator k) { s with
        phase   := Function.update s.phase k .starting
        waiting := Function.update s.waiting creator (some k) }
  | registered {k : ThreadId} : s.phase k = .starting → s.main.isJoining = false →
      s.childThreads.length ≠ cfixMaxThreads →
      Step c s (.register k true) { s with
        childThreads := s.childThreads ++ [k]
        phase        := Function.update s.phase k .registered }
  | notRegistered {k : ThreadId} {pool : Bool} : s.phase k = .starting →
      Step c s (.register k pool) { s with phase := Function.update s.phase k .leaving }
  | childAssociated {k : ThreadId} : s.phase k = .registered →
      Step c s (.associate k) { s with
        phase := Function.update s.phase k .running
        table := Function.update s.table k (some c.filament) }
  | resumed {creator k : ThreadId} : s.waiting creator = some k → (s.phase k).isInitialized = true →
      Step c s (.resume creator) { s with waiting := Function.update s.waiting creator none }
  | startEnded {k : ThreadId} : s.phase k = .running → s.waiting k = none →
      Step c s (.endStart k) { s with
        phase := Function.update s.phase k .leaving
        table := Function.update s.table k none }
  | terminated {k : ThreadId} : s.phase k = .running → s.waiting k = none →
      Step c s (.terminate k) { s with phase := Function.update s.phase k .exited }
  | exited {k : ThreadId} : s.phase k = .leaving →
      Step c s (.exit k) { s with phase := Function.update s.phase k .exited }
  | routineEnded {completion : Completion} : s.main = .routine → s.waiting c.mainThread = none →
      Step c s (.endRoutine completion) { s with main := .joining completion }
  | joined {completion : Completion} : s.main = .joining completion →
      (∀ k ∈ s.childThreads, s.phase k = .exited) → Step c s .endJoin { s with main := .joined completion }
  | reset {completion : Completion} : s.main = .joined completion →
      Step c s .resetCurrentFilament { s with
        main  := .returned statusSuccess (some completion)
        table := Function.update s.table c.mainThread none }

/-- **What a step can do.** -/
theorem next_step {c : Call} {s s' : System} {a : Action} (h : next c s a = some s') : Step c s a s' := by
  cases a with
  | getRoutine found =>
      simp only [next, Option.ite_none_right_eq_some] at h
      obtain ⟨hmain, h⟩ := h
      cases found with
      | true =>
          cases h
          exact .found hmain
      | false =>
          cases h
          exact .notFound hmain
  | setCurrentFilament pool =>
      simp only [next, Option.ite_none_right_eq_some] at h
      obtain ⟨hmain, h⟩ := h
      cases pool with
      | true =>
          cases h
          exact .associated hmain
      | false =>
          cases h
          exact .notAssociated hmain
  | acquireUnloadProtection loaded =>
      simp only [next, Option.ite_none_right_eq_some] at h
      obtain ⟨hmain, h⟩ := h
      cases loaded with
      | true =>
          cases h
          exact .loaded hmain
      | false =>
          cases h
          exact .notLoaded hmain
  | create creator k =>
      simp only [next, Option.ite_none_right_eq_some, Option.some.injEq] at h
      obtain ⟨⟨hroutine, hnone, htable, hk, habsent⟩, rfl⟩ := h
      exact .created hroutine hnone htable hk habsent
  | register k pool =>
      simp only [next, Option.ite_none_right_eq_some] at h
      obtain ⟨⟨hstarting, hjoining⟩, h⟩ := h
      split at h
      · rename_i hpool
        cases h
        obtain ⟨rfl, hroom⟩ := hpool
        exact .registered hstarting (hjoining rfl) hroom
      · cases h
        exact .notRegistered hstarting
  | associate k =>
      simp only [next, Option.ite_none_right_eq_some, Option.some.injEq] at h
      obtain ⟨hregistered, rfl⟩ := h
      exact .childAssociated hregistered
  | resume creator =>
      simp only [next] at h
      split at h
      · cases h
      · rename_i k hk
        rw [Option.ite_none_right_eq_some] at h
        obtain ⟨hinitialized, h⟩ := h
        cases h
        exact .resumed hk hinitialized
  | endStart k =>
      simp only [next, Option.ite_none_right_eq_some, Option.some.injEq] at h
      obtain ⟨⟨hrunning, hnone⟩, rfl⟩ := h
      exact .startEnded hrunning hnone
  | terminate k =>
      simp only [next, Option.ite_none_right_eq_some, Option.some.injEq] at h
      obtain ⟨⟨hrunning, hnone⟩, rfl⟩ := h
      exact .terminated hrunning hnone
  | exit k =>
      simp only [next, Option.ite_none_right_eq_some, Option.some.injEq] at h
      obtain ⟨hleaving, rfl⟩ := h
      exact .exited hleaving
  | endRoutine completion =>
      simp only [next, Option.ite_none_right_eq_some, Option.some.injEq] at h
      obtain ⟨⟨hmain, hnone⟩, rfl⟩ := h
      exact .routineEnded hmain hnone
  | endJoin =>
      simp only [next] at h
      split at h
      · rename_i completion hmain
        rw [Option.ite_none_right_eq_some] at h
        obtain ⟨hexited, h⟩ := h
        cases h
        exact .joined hmain hexited
      · cases h
  | resetCurrentFilament =>
      simp only [next] at h
      split at h
      · rename_i completion hmain
        cases h
        exact .reset hmain
      · cases h

/-! ## Which threads run -/

def MainPc.isBeforeRoutine : MainPc → Bool
  | .entered | .found | .associated                          => true
  | .routine | .joining _ | .joined _ | .returned _ _ => false

/-- The main thread does not wait for its children any more. -/
def MainPc.isOver : MainPc → Bool
  | .joined _ | .returned _ _                               => true
  | .entered | .found | .associated | .routine | .joining _ => false

/-- The main thread is between `CfixkrpSetCurrentFilament` and `CfixkrpResetCurrentFilament`. -/
def MainPc.isAssociated : MainPc → Bool
  | .associated | .routine | .joining _ | .joined _ => true
  | .entered | .found | .returned _ _               => false

/-- A child that uses the filament is registered, or its creator waits for it in the routine. -/
structure Inv (c : Call) (s : System) : Prop where
  mainThread : s.phase c.mainThread = .absent
  quiet      : s.main.isBeforeRoutine = true → s.childThreads = [] ∧ ∀ k, s.phase k = .absent
  listed     : ∀ k, s.phase k = .registered ∨ s.phase k = .running → k ∈ s.childThreads
  awaited    : ∀ k, s.phase k = .starting ∨ s.phase k = .registered → ∃ x, s.InRoutine c x ∧ s.waiting x = some k
  ended      : s.main.isOver = true → ∀ k ∈ s.childThreads, s.phase k = .exited

variable {c : Call} {table₀ : Table} {s s' : System} {a : Action} {k x : ThreadId}

theorem inv_initial : Inv c (.initial table₀) where
  mainThread  := rfl
  quiet _     := ⟨rfl, fun _ => rfl⟩
  listed _ h  := by simp [System.initial] at h
  awaited _ h := by simp [System.initial] at h
  ended h     := nomatch h

/-- After the join, no child is between its creation and the end of its start routine. -/
theorem Inv.idle (hinv : Inv c s) (hover : s.main.isOver = true) (k : ThreadId) :
    s.phase k = .absent ∨ s.phase k = .leaving ∨ s.phase k = .exited := by
  have hrunning : ∀ x, s.phase x ≠ .running := by
    intro x hx
    have hexited := hinv.ended hover x (hinv.listed x (.inr hx))
    rw [hx] at hexited
    cases hexited
  have hnew : ¬ (s.phase k = .starting ∨ s.phase k = .registered) := by
    intro hk
    obtain ⟨x, hroutine | hroutine, -⟩ := hinv.awaited k hk
    · rw [hroutine.2] at hover
      cases hover
    · exact hrunning x hroutine
  have := hrunning k
  cases hphase : s.phase k with
  | absent  => exact .inl rfl
  | leaving => exact .inr (.inl rfl)
  | exited  => exact .inr (.inr rfl)
  | starting | registered | running => simp_all

/-- A step of the main thread: the children stay as they are. -/
theorem Inv.of_main (hinv : Inv c s) (hlist : s'.childThreads = s.childThreads) (hphase : s'.phase = s.phase)
    (hwaiting : s'.waiting = s.waiting) (hbefore : s'.main.isBeforeRoutine = true → s.main.isBeforeRoutine = true)
    (hroutine : s.main = .routine → s'.main = .routine ∨ s.waiting c.mainThread = none)
    (hover : s'.main.isOver = true → ∀ k ∈ s.childThreads, s.phase k = .exited) : Inv c s' := by
  constructor
  · rw [hphase]
    exact hinv.mainThread
  · rw [hlist, hphase]
    exact fun h => hinv.quiet (hbefore h)
  · rw [hlist, hphase]
    exact hinv.listed
  · rw [hphase, hwaiting]
    intro k hk
    obtain ⟨x, hx, hxk⟩ := hinv.awaited k hk
    refine ⟨x, ?_, hxk⟩
    rcases hx with ⟨rfl, hmain⟩ | hrunning
    · rcases hroutine hmain with hmain' | hnone
      · exact .inl ⟨rfl, hmain'⟩
      · rw [hnone] at hxk
        cases hxk
    · refine .inr ?_
      rw [hphase]
      exact hrunning
  · rw [hlist, hphase]
    exact hover

/-- A step of the main thread on its way to the routine: there is no child yet. -/
theorem Inv.of_before (hinv : Inv c s) (hbefore : s.main.isBeforeRoutine = true)
    (hlist : s'.childThreads = s.childThreads) (hphase : s'.phase = s.phase) (hwaiting : s'.waiting = s.waiting) :
    Inv c s' := by
  apply hinv.of_main hlist hphase hwaiting
  · exact fun _ => hbefore
  · intro hmain
    rw [hmain] at hbefore
    cases hbefore
  · rw [(hinv.quiet hbefore).1]
    exact fun _ k hk => absurd hk List.not_mem_nil

/-- A step of a child thread that exists: another thread that waits keeps waiting. -/
theorem Inv.of_child (hinv : Inv c s) (hmain : s'.main = s.main) (hwaiting : s'.waiting = s.waiting) {p : Phase}
    (hphase : s'.phase = Function.update s.phase k p) (hnew : s.phase k ≠ .absent)
    (hkeep : s.phase k = .running → s.waiting k = none)
    (hlist : s'.childThreads = s.childThreads ∨
      s'.childThreads = s.childThreads ++ [k] ∧ p = .registered ∧ s.phase k = .starting)
    (hlisted : p = .registered ∨ p = .running → k ∈ s'.childThreads)
    (hawaited : p = .starting ∨ p = .registered → s.phase k = .starting ∨ s.phase k = .registered)
    (hover : s.phase k = .leaving ∨ s.phase k = .exited → p = .exited) : Inv c s' := by
  have hk : c.mainThread ≠ k := by
    rintro rfl
    exact hnew hinv.mainThread
  have hsub : ∀ x ∈ s.childThreads, x ∈ s'.childThreads := by
    intro x hx
    rcases hlist with heq | ⟨heq, -⟩
    · rwa [heq]
    · rw [heq]
      exact List.mem_append_left _ hx
  constructor
  · rw [hphase, Function.update_of_ne hk]
    exact hinv.mainThread
  · rw [hmain]
    intro hbefore
    exact absurd ((hinv.quiet hbefore).2 k) hnew
  · intro x hx
    rw [hphase] at hx
    by_cases hxk : x = k
    · subst hxk
      rw [Function.update_self] at hx
      exact hlisted hx
    · rw [Function.update_of_ne hxk] at hx
      exact hsub x (hinv.listed x hx)
  · intro x hx
    have hx' : s.phase x = .starting ∨ s.phase x = .registered := by
      rw [hphase] at hx
      by_cases hxk : x = k
      · subst hxk
        rw [Function.update_self] at hx
        exact hawaited hx
      · rwa [Function.update_of_ne hxk] at hx
    -- the creator that waits for `x` is not `k`, which does not wait
    obtain ⟨y, hy, hyx⟩ := hinv.awaited x hx'
    rw [hwaiting]
    refine ⟨y, ?_, hyx⟩
    rcases hy with ⟨rfl, hroutine⟩ | hrunning
    · exact .inl ⟨rfl, hmain.trans hroutine⟩
    · refine .inr ?_
      have hyk : y ≠ k := by
        rintro rfl
        rw [hkeep hrunning] at hyx
        cases hyx
      rwa [hphase, Function.update_of_ne hyk]
  · rw [hmain]
    intro hover' x hx
    have hidle := hinv.idle hover' k
    have hx' : x ∈ s.childThreads := by
      rcases hlist with heq | ⟨-, -, hstarting⟩
      · rwa [heq] at hx
      · rw [hstarting] at hidle
        simp at hidle
    have hexited := hinv.ended hover' x hx'
    by_cases hxk : x = k
    · subst hxk
      rw [hphase, Function.update_self]
      exact hover (.inr hexited)
    · rwa [hphase, Function.update_of_ne hxk]

/-- While a thread is in a routine, the call is neither before its routine nor after its join. -/
theorem Inv.main_of_inRoutine (hinv : Inv c s) (hx : s.InRoutine c x) :
    s.main.isBeforeRoutine = false ∧ s.main.isOver = false := by
  rcases hx with ⟨-, hmain⟩ | hrunning
  · rw [hmain]
    exact ⟨rfl, rfl⟩
  · constructor
    · apply eq_false_of_ne_true
      intro hbefore
      rw [(hinv.quiet hbefore).2 x] at hrunning
      cases hrunning
    · apply eq_false_of_ne_true
      intro hover
      have hidle := hinv.idle hover x
      simp [hrunning] at hidle

theorem Inv.create (hinv : Inv c s) (hx : s.InRoutine c x) (hnone : s.waiting x = none) (hk : k ≠ c.mainThread)
    (habsent : s.phase k = .absent) :
    Inv c { s with
      phase   := Function.update s.phase k .starting
      waiting := Function.update s.waiting x (some k) } := by
  obtain ⟨hbefore, hover⟩ := hinv.main_of_inRoutine hx
  have hstay : ∀ y, s.InRoutine c y → y = c.mainThread ∧ s.main = .routine ∨
      Function.update s.phase k .starting y = .running := by
    intro y hy
    rcases hy with hmain | hrunning
    · exact .inl hmain
    · refine .inr ?_
      have hyk : y ≠ k := by
        rintro rfl
        rw [habsent] at hrunning
        cases hrunning
      rwa [Function.update_of_ne hyk]
  constructor
  · show Function.update s.phase k .starting c.mainThread = .absent
    rw [Function.update_of_ne hk.symm]
    exact hinv.mainThread
  · intro h
    rw [hbefore] at h
    cases h
  · intro y hy
    apply hinv.listed y
    by_cases hyk : y = k
    · simp [hyk] at hy
    · simpa [hyk] using hy
  · intro y hy
    by_cases hyk : y = k
    · subst hyk
      exact ⟨x, hstay x hx, by simp⟩
    · obtain ⟨z, hz, hzy⟩ := hinv.awaited y (by simpa [hyk] using hy)
      refine ⟨z, hstay z hz, ?_⟩
      have hzx : z ≠ x := by
        rintro rfl
        rw [hnone] at hzy
        cases hzy
      show Function.update s.waiting x (some k) z = some y
      rwa [Function.update_of_ne hzx]
  · intro h
    rw [hover] at h
    cases h

theorem Inv.resume (hinv : Inv c s) (hk : s.waiting x = some k) (hinitialized : (s.phase k).isInitialized = true) :
    Inv c { s with waiting := Function.update s.waiting x none } where
  mainThread  := hinv.mainThread
  quiet       := hinv.quiet
  listed      := hinv.listed
  ended       := hinv.ended
  awaited y hy := by
    obtain ⟨z, hz, hzy⟩ := hinv.awaited y hy
    refine ⟨z, hz, ?_⟩
    have hzx : z ≠ x := by
      rintro rfl
      rw [hk] at hzy
      cases hzy
      rcases hy with hy | hy
      · simp only at hy
        rw [hy] at hinitialized
        cases hinitialized
      · simp only at hy
        rw [hy] at hinitialized
        cases hinitialized
    show Function.update s.waiting x none z = some y
    rwa [Function.update_of_ne hzx]

theorem Inv.step (hinv : Inv c s) (h : next c s a = some s') : Inv c s' := by
  -- a step of the main thread leaves the children as they are, a step of a child moves only that child
  cases next_step h with
  | found hmain         => exact hinv.of_before (by rw [hmain]; rfl) rfl rfl rfl
  | notFound hmain      => exact hinv.of_before (by rw [hmain]; rfl) rfl rfl rfl
  | associated hmain    => exact hinv.of_before (by rw [hmain]; rfl) rfl rfl rfl
  | notAssociated hmain => exact hinv.of_before (by rw [hmain]; rfl) rfl rfl rfl
  | loaded hmain        => exact hinv.of_before (by rw [hmain]; rfl) rfl rfl rfl
  | notLoaded hmain     => exact hinv.of_before (by rw [hmain]; rfl) rfl rfl rfl
  | created hroutine hnone _ hk habsent => exact hinv.create hroutine hnone hk habsent
  | registered hstarting =>
      refine hinv.of_child rfl rfl rfl ?_ ?_ ?_ ?_ ?_ ?_
      · simp [hstarting]
      · simp [hstarting]
      · exact .inr ⟨rfl, rfl, hstarting⟩
      · simp
      · simp [hstarting]
      · simp [hstarting]
  | notRegistered hstarting =>
      refine hinv.of_child rfl rfl rfl ?_ ?_ ?_ ?_ ?_ ?_
      · simp [hstarting]
      · simp [hstarting]
      · exact .inl rfl
      · simp
      · simp
      · simp [hstarting]
  | @childAssociated k hregistered =>
      refine hinv.of_child rfl rfl rfl ?_ ?_ ?_ ?_ ?_ ?_
      · simp [hregistered]
      · simp [hregistered]
      · exact .inl rfl
      · exact fun _ => hinv.listed k (.inl hregistered)
      · simp
      · simp [hregistered]
  | resumed hk hinitialized => exact hinv.resume hk hinitialized
  | startEnded hrunning hnone =>
      refine hinv.of_child rfl rfl rfl ?_ ?_ ?_ ?_ ?_ ?_
      · simp [hrunning]
      · exact fun _ => hnone
      · exact .inl rfl
      · simp
      · simp
      · simp [hrunning]
  | terminated hrunning hnone =>
      refine hinv.of_child rfl rfl rfl ?_ ?_ ?_ ?_ ?_ ?_
      · simp [hrunning]
      · exact fun _ => hnone
      · exact .inl rfl
      · simp
      · simp
      · simp
  | exited hleaving =>
      refine hinv.of_child rfl rfl rfl ?_ ?_ ?_ ?_ ?_ ?_
      · simp [hleaving]
      · simp [hleaving]
      · exact .inl rfl
      · simp
      · simp
      · simp
  | routineEnded hmain hnone =>
      refine hinv.of_main rfl rfl rfl ?_ ?_ ?_
      · simp [MainPc.isBeforeRoutine]
      · exact fun _ => .inr hnone
      · simp [MainPc.isOver]
  | joined hmain hexited =>
      refine hinv.of_main rfl rfl rfl ?_ ?_ ?_
      · simp [MainPc.isBeforeRoutine]
      · simp [hmain]
      · exact fun _ => hexited
  | reset hmain =>
      refine hinv.of_main rfl rfl rfl ?_ ?_ ?_
      · simp [MainPc.isBeforeRoutine]
      · simp [hmain]
      · exact fun _ => hinv.ended (by rw [hmain]; rfl)

/-! ## Entries -/

/-- The entry of the thread is its own, and the thread will leave it. -/
def System.HoldsEntry (c : Call) (s : System) (x : ThreadId) : Prop :=
  x = c.mainThread ∧ s.main.isAssociated = true ∨ s.phase x = .running

/-- The thread does not touch its entry any more. -/
def System.IsDone (c : Call) (s : System) (x : ThreadId) : Prop :=
  x = c.mainThread ∧ s.main.isReturned = true ∨ s.phase x = .leaving ∨ s.phase x = .exited

/-- The last step of a thread on the table, and the entry that is left. -/
def Action.leaves (c : Call) : Action → Option (ThreadId × Option FilamentId)
  | .acquireUnloadProtection false => some (c.mainThread, some c.filament)
  | .resetCurrentFilament          => some (c.mainThread, none)
  | .endStart k                    => some (k, none)
  | .terminate k                   => some (k, some c.filament)
  | _                              => none

/-- What a step does to the entry of a thread. -/
inductive EntryStep (c : Call) (s s' : System) (a : Action) (x : ThreadId) : Prop where
  | same (table : s'.table x = s.table x) (holds : s'.HoldsEntry c x ↔ s.HoldsEntry c x)
      (done : s.IsDone c x → s'.IsDone c x) (other : ∀ e, a.leaves c ≠ some (x, e))
  | takes (table : s'.table x = some c.filament) (holds : s'.HoldsEntry c x) (done : ¬ s.IsDone c x)
      (other : ∀ e, a.leaves c ≠ some (x, e))
  | leaves (e : Option FilamentId) (leaves : a.leaves c = some (x, e)) (table : s'.table x = e)
      (holds : s.HoldsEntry c x) (done : s'.IsDone c x)

/-- A thread that holds its entry refers to the filament of the call. -/
def Held (c : Call) (s : System) : Prop := ∀ x, s.HoldsEntry c x → s.table x = some c.filament

/-- The step moves neither the thread nor its entry. -/
theorem EntryStep.unmoved (htable : s'.table x = s.table x) (hphase : s'.phase x = s.phase x)
    (hassociated : x = c.mainThread → s'.main.isAssociated = s.main.isAssociated)
    (hreturned : s.main.isReturned = true → s'.main.isReturned = true)
    (hother : ∀ e, a.leaves c ≠ some (x, e)) : EntryStep c s s' a x := by
  refine .same htable ?_ ?_ hother
  · unfold System.HoldsEntry
    rw [hphase]
    constructor
    · rintro (⟨hx, hmain⟩ | hrunning)
      · exact .inl ⟨hx, hassociated hx ▸ hmain⟩
      · exact .inr hrunning
    · rintro (⟨hx, hmain⟩ | hrunning)
      · exact .inl ⟨hx, hassociated hx ▸ hmain⟩
      · exact .inr hrunning
  · unfold System.IsDone
    rw [hphase]
    rintro (⟨hx, hmain⟩ | hdone)
    · exact .inl ⟨hx, hreturned hmain⟩
    · exact .inr hdone

/-- A step that does not touch the table or a thread other than the main one. -/
theorem EntryStep.of_main (htable : s'.table = s.table) (hphase : s'.phase = s.phase)
    (hassociated : s'.main.isAssociated = s.main.isAssociated)
    (hreturned : s.main.isReturned = true → s'.main.isReturned = true)
    (hother : a.leaves c = none) : EntryStep c s s' a x := by
  apply EntryStep.unmoved
  · rw [htable]
  · rw [hphase]
  · exact fun _ => hassociated
  · exact hreturned
  · simp [hother]

/-- A step of a child that does not touch the table, and does not begin or end the use of its entry. -/
theorem EntryStep.of_child {p : Phase} (hk : k ≠ c.mainThread) (hmain : s'.main = s.main) (htable : s'.table = s.table)
    (hphase : s'.phase = Function.update s.phase k p) (hrunning : p ≠ .running ∧ s.phase k ≠ .running)
    (hdone : s.phase k = .leaving ∨ s.phase k = .exited → p = .leaving ∨ p = .exited)
    (hother : a.leaves c = none) : EntryStep c s s' a x := by
  refine .same ?_ ?_ ?_ ?_
  · rw [htable]
  · unfold System.HoldsEntry
    rw [hmain, hphase]
    by_cases hx : x = k
    · subst hx
      simp [hk, hrunning]
    · rw [Function.update_of_ne hx]
  · unfold System.IsDone
    rw [hmain, hphase]
    by_cases hx : x = k
    · subst hx
      simpa [hk] using hdone
    · rw [Function.update_of_ne hx]
      exact id
  · simp [hother]

/-- The main thread goes on without the table. -/
theorem EntryStep.of_pc {pc pc' : MainPc} (hmain : s.main = pc) (hassociated : pc'.isAssociated = pc.isAssociated)
    (hreturned : pc.isReturned = false) (hother : a.leaves c = none) : EntryStep c s { s with main := pc' } a x := by
  refine .of_main rfl rfl ?_ ?_ hother
  · rw [hmain]
    exact hassociated
  · rw [hmain, hreturned]
    exact fun h => absurd h Bool.false_ne_true

/-- The main thread takes or leaves its entry: those of the others stay. -/
theorem EntryStep.of_other (hx : x ≠ c.mainThread) (htable : s'.table x = s.table x) (hphase : s'.phase = s.phase)
    (hreturned : s.main.isReturned = true → s'.main.isReturned = true) (hother : ∀ e, a.leaves c ≠ some (x, e)) :
    EntryStep c s s' a x := by
  refine .unmoved htable ?_ ?_ hreturned hother
  · rw [hphase]
  · exact fun heq => absurd heq hx

theorem step_entry (hinv : Inv c s) (hheld : Held c s) (h : next c s a = some s') (x : ThreadId) : EntryStep c s s' a x := by
  have hmainThread : ∀ {k}, s.phase k ≠ .absent → k ≠ c.mainThread := by
    rintro k hk rfl
    exact hk hinv.mainThread
  -- only five steps write to the table or leave an entry there: they are split by whether the thread is theirs
  cases next_step h with
  | found hmain         => exact .of_pc hmain rfl rfl rfl
  | notFound hmain      => exact .of_pc hmain rfl rfl rfl
  | notAssociated hmain => exact .of_pc hmain rfl rfl rfl
  | loaded hmain        => exact .of_pc hmain rfl rfl rfl
  | associated hmain =>
      by_cases hx : x = c.mainThread
      · subst hx
        refine .takes ?_ (.inl ⟨rfl, rfl⟩) ?_ nofun
        · exact Function.update_self ..
        · simp [System.IsDone, hmain, hinv.mainThread, MainPc.isReturned]
      · refine .of_other hx (Function.update_of_ne hx ..) rfl ?_ nofun
        simp [hmain, MainPc.isReturned]
  | notLoaded hmain =>
      by_cases hx : x = c.mainThread
      · subst hx
        have hholds : s.HoldsEntry c c.mainThread := .inl ⟨rfl, by rw [hmain]; rfl⟩
        exact .leaves _ rfl (hheld _ hholds) hholds (.inl ⟨rfl, rfl⟩)
      · refine .of_other hx rfl rfl ?_ ?_
        · exact fun _ => rfl
        · simp [Action.leaves, Ne.symm hx]
  | created _ _ _ hk habsent =>
      refine .of_child hk rfl rfl rfl ?_ ?_ (by rfl)
      · simp [habsent]
      · simp [habsent]
  | registered hstarting =>
      refine .of_child (hmainThread (by simp [hstarting])) rfl rfl rfl ?_ ?_ (by rfl)
      · simp [hstarting]
      · simp [hstarting]
  | notRegistered hstarting =>
      refine .of_child (hmainThread (by simp [hstarting])) rfl rfl rfl ?_ ?_ (by rfl)
      · simp [hstarting]
      · simp [hstarting]
  | @childAssociated k hregistered =>
      have hk := hmainThread (k := k) (by simp [hregistered])
      by_cases hx : x = k
      · subst hx
        refine .takes ?_ (.inr ?_) ?_ nofun
        · exact Function.update_self ..
        · exact Function.update_self ..
        · simp [System.IsDone, hk, hregistered]
      · exact .unmoved (Function.update_of_ne hx ..) (Function.update_of_ne hx ..) (fun _ => rfl) id nofun
  | resumed => exact .of_main rfl rfl rfl id (by rfl)
  | @startEnded k hrunning =>
      by_cases hx : x = k
      · subst hx
        refine .leaves _ rfl ?_ (.inr hrunning) (.inr (.inl ?_))
        · exact Function.update_self ..
        · exact Function.update_self ..
      · refine .unmoved (Function.update_of_ne hx ..) (Function.update_of_ne hx ..) (fun _ => rfl) id ?_
        simp [Action.leaves, Ne.symm hx]
  | @terminated k hrunning =>
      by_cases hx : x = k
      · subst hx
        refine .leaves _ rfl ?_ (.inr hrunning) (.inr (.inr ?_))
        · exact hheld x (.inr hrunning)
        · exact Function.update_self ..
      · refine .unmoved rfl (Function.update_of_ne hx ..) (fun _ => rfl) id ?_
        simp [Action.leaves, Ne.symm hx]
  | exited hleaving =>
      refine .of_child (hmainThread (by simp [hleaving])) rfl rfl rfl ?_ ?_ (by rfl)
      · simp [hleaving]
      · simp
  | routineEnded hmain => exact .of_pc hmain rfl rfl rfl
  | joined hmain       => exact .of_pc hmain rfl rfl rfl
  | reset hmain =>
      by_cases hx : x = c.mainThread
      · subst hx
        refine .leaves _ rfl ?_ (.inl ⟨rfl, ?_⟩) (.inl ⟨rfl, rfl⟩)
        · exact Function.update_self ..
        · rw [hmain]
          rfl
      · refine .of_other hx (Function.update_of_ne hx ..) rfl ?_ ?_
        · exact fun _ => rfl
        · simp [Action.leaves, Ne.symm hx]

theorem held_initial : Held c (.initial table₀) := by
  rintro x (⟨-, h⟩ | h)
  · cases h
  · cases h

/-- A thread that is done does not hold an entry. -/
theorem System.IsDone.released (hinv : Inv c s) (hdone : s.IsDone c x) : ¬ s.HoldsEntry c x := by
  have hmainThread := hinv.mainThread
  rintro (⟨rfl, hassociated⟩ | hrunning)
  · rcases hdone with ⟨-, hreturned⟩ | hleft
    · cases hmain : s.main <;> simp_all [MainPc.isAssociated, MainPc.isReturned]
    · simp [hmainThread] at hleft
  · rcases hdone with ⟨rfl, -⟩ | hleft
    · simp [hmainThread] at hrunning
    · simp [hrunning] at hleft

theorem Held.step (hheld : Held c s) (hinv : Inv c s) (h : next c s a = some s') : Held c s' := by
  intro x hx
  cases step_entry hinv hheld h x with
  | same htable hholds       => rw [htable, hheld x (hholds.mp hx)]
  | takes htable             => exact htable
  | leaves e _ _ _ hdone     => exact absurd hx (hdone.released (hinv.step h))

/-! ## The table at the return -/

/-- A step that leaves an entry for good leaves the one of the table at entry. -/
def Restores (c : Call) (table₀ : Table) (a : Action) : Prop :=
  ∀ x e, a.leaves c = some (x, e) → table₀ x = e

/-- The entries that are not in use are those of the table at entry. -/
def Restored (c : Call) (table₀ : Table) (s : System) : Prop := ∀ x, ¬ s.HoldsEntry c x → s.table x = table₀ x

theorem Restored.step (hrest : Restored c table₀ s) (hinv : Inv c s) (hheld : Held c s)
    (ha : Restores c table₀ a) (h : next c s a = some s') : Restored c table₀ s' := by
  intro x hx
  cases step_entry hinv hheld h x with
  | same htable hholds        => rw [htable, hrest x (fun hholds' => hx (hholds.mpr hholds'))]
  | takes _ hholds            => exact absurd hholds hx
  | leaves e hleaves htable   => rw [htable, ha x e hleaves]

/-- What a thread has left in the table stays there. -/
theorem step_done (hinv : Inv c s) (hheld : Held c s) (hdone : s.IsDone c x) (h : next c s a = some s') :
    s'.IsDone c x ∧ s'.table x = s.table x := by
  cases step_entry hinv hheld h x with
  | same htable _ hdone'      => exact ⟨hdone' hdone, htable⟩
  | takes _ _ hnot            => exact absurd hdone hnot
  | leaves e _ _ hholds       => exact absurd hholds (hdone.released hinv)

/-- After the return, no thread of the call holds an entry. -/
theorem Inv.released (hinv : Inv c s) (hreturned : s.main.isReturned = true) (x : ThreadId) : ¬ s.HoldsEntry c x := by
  cases hmain : s.main with
  | returned status completion =>
      have hidle := hinv.idle (by rw [hmain]; rfl) x
      rintro (⟨-, hassociated⟩ | hrunning)
      · rw [hmain] at hassociated
        cases hassociated
      · simp [hrunning] at hidle
  | entered | found | associated | routine | joining | joined =>
      rw [hmain] at hreturned
      cases hreturned

theorem inv_run {as : List Action} (hr : run (next c) (.initial table₀) as = some s) : Inv c s ∧ Held c s := by
  refine run_invariant (I := fun s => Inv c s ∧ Held c s) ?_ ⟨inv_initial, held_initial⟩ hr
  rintro s a s' ⟨hinv, hheld⟩ h
  exact ⟨hinv.step h, hheld.step hinv h⟩

/-- **When the call returns, the table is the one at entry exactly if every step that leaves an entry for good
    leaves the entry of that table.** -/
theorem table_restored_iff (c : Call) (table₀ : Table) (as : List Action) {s' : System}
    (hr : run (next c) (.initial table₀) as = some s') (hreturned : s'.main.isReturned = true) :
    s'.table = table₀ ↔ ∀ a ∈ as, Restores c table₀ a := by
  constructor
  · intro htable a ha x e hleaves
    -- from the step on which the thread leaves its entry, the entry stays until the return
    obtain ⟨bs, cs, rfl⟩ := List.append_of_mem ha
    obtain ⟨t, ht, htr⟩ := run_append.mp hr
    obtain ⟨u, hu, hur⟩ := run_cons.mp htr
    obtain ⟨hinv, hheld⟩ := inv_run ht
    obtain ⟨hleft, hdone⟩ : u.table x = e ∧ u.IsDone c x := by
      cases step_entry hinv hheld hu x with
      | same _ _ _ hother           => exact absurd hleaves (hother e)
      | takes _ _ _ hother          => exact absurd hleaves (hother e)
      | leaves e' hleaves' hleft _ hdone =>
          rw [hleaves] at hleaves'
          cases hleaves'
          exact ⟨hleft, hdone⟩
    have hend : (Inv c s' ∧ Held c s') ∧ s'.IsDone c x ∧ s'.table x = e := by
      refine run_invariant (I := fun s => (Inv c s ∧ Held c s) ∧ s.IsDone c x ∧ s.table x = e) ?_
        ⟨⟨hinv.step hu, hheld.step hinv hu⟩, hdone, hleft⟩ hur
      rintro s a s' ⟨⟨hinv, hheld⟩, hdone, hleft⟩ h
      obtain ⟨hdone', hsame⟩ := step_done hinv hheld hdone h
      exact ⟨⟨hinv.step h, hheld.step hinv h⟩, hdone', hsame.trans hleft⟩
    rw [← htable]
    exact hend.2.2
  · intro hall
    -- after the return no entry is in use, so all of them are restored
    have hend : (Inv c s' ∧ Held c s') ∧ Restored c table₀ s' := by
      refine run_induction (I := fun s => (Inv c s ∧ Held c s) ∧ Restored c table₀ s) ?_
        ⟨⟨inv_initial, held_initial⟩, fun _ _ => rfl⟩ (meets_of_all hall _) hr
      rintro s a s' ⟨⟨hinv, hheld⟩, hrest⟩ ha h
      exact ⟨⟨hinv.step h, hheld.step hinv h⟩, hrest.step hinv hheld ha h⟩
    funext x
    exact hend.2 x (hend.1.1.released hreturned x)

/-- The main thread 1 runs a routine that creates the child 2; both return. -/
def orderlyCall : List Action :=
  [.getRoutine true, .setCurrentFilament true, .acquireUnloadProtection true, .create 1 2, .register 2 true,
    .associate 2, .resume 1, .endRoutine .returned, .endStart 2, .exit 2, .endJoin, .resetCurrentFilament]

theorem table_restored_orderly : ∃ s', run (next ⟨1, 5⟩) (.initial fun _ => none) orderlyCall = some s' ∧
    s'.main.isReturned = true ∧ (s'.table = (fun _ => none) ↔ ∀ a ∈ orderlyCall, Restores ⟨1, 5⟩ (fun _ => none) a) :=
  ⟨_, rfl, rfl, table_restored_iff ⟨1, 5⟩ (fun _ => none) orderlyCall rfl rfl⟩

/-- The driver is unloaded between the lookup of the routine and the call: the entry of the main thread is left. -/
theorem table_not_restored : ¬ ∀ (c : Call) (table₀ : Table) (as : List Action) (s' : System),
    run (next c) (.initial table₀) as = some s' → s'.main.isReturned = true → s'.table = table₀ := by
  intro h
  have htable := h ⟨1, 5⟩ (fun _ => none)
    [.getRoutine true, .setCurrentFilament true, .acquireUnloadProtection false] _ rfl rfl
  have hleft := congrFun htable 1
  simp [System.initial] at hleft

end Cfix.FilamentTable
