import Cfix.Kernel.Unload

/-!
# `Kernel.ThreadObjects` — the thread objects that a kernel filament joins (`cfixkr/filament.c`)

A child thread stores `PsGetCurrentThread()` in the filament of its creator; the main thread passes these
pointers to `KeWaitForMultipleObjects` later. Neither takes a reference. In the meantime the child may exit,
and test code may close the handle that it received. A list of actions is an interleaving of the main thread,
the child threads and the test code.
-/

namespace Cfix.ThreadObjects

open Transition
open Cfix.Unload (NTSTATUS statusSuccess cfixMaxThreads)

/-! ## State -/

abbrev ThreadId := Nat

def statusNoMemory              : NTSTATUS := 0xC0000017#32
def statusAllottedSpaceExceeded : NTSTATUS := 0xC0000099#32

inductive Phase where
  | absent
  /-- In `CfixkrsThreadStart`; `InitializationCompleted` is not set. -/
  | starting
  /-- In its start routine; `awaits` is the child whose initialization it waits for. -/
  | running (awaits : Option ThreadId)
  /-- The filament could not be set. -/
  | leaving
  | exited
  deriving DecidableEq, Repr

/-- A thread with its object. `received` says whether test code has got the handle. -/
structure Thread where
  phase                : Phase
  initializationStatus : Option NTSTATUS
  received             : Bool
  handles              : Nat
  references           : Nat
  deriving DecidableEq, Repr

def Thread.absent : Thread := ⟨.absent, none, false, 0, 0⟩

/-- Where the main thread stands in `CfixkrpCallRoutineDriverConnection`. -/
inductive MainPc where
  | routine (awaits : Option ThreadId)
  /-- In `KeWaitForMultipleObjects`, holding `ChildThreads.Lock`. -/
  | joining
  | joined
  deriving DecidableEq, Repr

/-- The filament's `ChildThreads.Threads`, and the threads. -/
structure System where
  main         : MainPc
  childThreads : List ThreadId
  threads      : ThreadId → Thread

/-- After `CfixkrpInitializeFilament`. -/
def System.initialized : System where
  main         := .routine none
  childThreads := []
  threads _    := .absent

inductive Creator where
  | main
  | child (k : ThreadId)
  deriving DecidableEq, Repr

/-! ## Steps -/

inductive Action where
  /-- `CfixkrpCreateSystemThread`, up to its wait. -/
  | create (creator : Creator) (k : ThreadId)
  /-- `CfixkrpSetCurrentFilament` in the child; `pool` says whether its entry can be allocated. -/
  | register (k : ThreadId) (pool : Bool)
  /-- The wait for `InitializationCompleted` ends, and `CfixkrpCreateSystemThread` returns. -/
  | resume (creator : Creator)
  | exit (k : ThreadId)
  /-- Test code closes a handle that it received. -/
  | close (k : ThreadId)
  /-- `ObReferenceObject`, `ObReferenceObjectByHandle`. -/
  | reference (k : ThreadId)
  | dereference (k : ThreadId)
  | beginJoin
  | endJoin
  deriving DecidableEq, Repr

namespace System

variable (s : System)

def setThread (k : ThreadId) (t : Thread) : System := { s with threads := Function.update s.threads k t }

/-- What a creator waits for, if it runs. -/
def awaits : Creator → Option (Option ThreadId)
  | .main    =>
    match s.main with
    | .routine awaits => some awaits
    | _               => none
  | .child k =>
    match (s.threads k).phase with
    | .running awaits => some awaits
    | _               => none

def setAwaits (creator : Creator) (awaits : Option ThreadId) : System :=
  match creator with
  | .main    => { s with main := .routine awaits }
  | .child k => s.setThread k { s.threads k with phase := .running awaits }

/-- `CfixkrsRegisterChildThreadFilament`: the status and the new list. -/
def registerChildThread (k : ThreadId) : NTSTATUS × List ThreadId :=
  if s.childThreads.length = cfixMaxThreads then (statusAllottedSpaceExceeded, s.childThreads)
  else (statusSuccess, s.childThreads ++ [k])

/-- `CfixkrpSetCurrentFilament` by a child thread. -/
def setCurrentFilament (k : ThreadId) (pool : Bool) : NTSTATUS × List ThreadId :=
  if !pool then (statusNoMemory, s.childThreads) else s.registerChildThread k

end System

/-- One step of one party; `none` if that party is not at this point or has to wait. -/
def next (s : System) : Action → Option System
  | .create creator k =>
    if s.awaits creator = some none ∧ (s.threads k).phase = .absent then
      some ((s.setAwaits creator (some k)).setThread k ⟨.starting, none, false, 1, 0⟩)
    else none
  | .register k pool =>
    -- the main thread holds the lock while it waits
    if (s.threads k).phase = .starting ∧ (s.main = .joining → pool = false) then
      let (status, childThreads) := s.setCurrentFilament k pool
      let phase := if status = statusSuccess then Phase.running none else .leaving
      some ({ s with childThreads := childThreads }.setThread k
        { s.threads k with phase := phase, initializationStatus := some status })
    else none
  | .resume creator =>
    match s.awaits creator with
    | some (some k) =>
      match (s.threads k).initializationStatus with
      | none        => none
      | some status =>
        let s := s.setAwaits creator none
        let t := s.threads k
        -- the handle of a thread that is not initialized is closed
        let t := if status = statusSuccess then { t with received := true } else { t with handles := t.handles - 1 }
        some (s.setThread k t)
    | _ => none
  | .exit k =>
    if (s.threads k).phase = .running none ∨ (s.threads k).phase = .leaving then
      some (s.setThread k { s.threads k with phase := .exited })
    else none
  | .close k =>
    let t := s.threads k
    if t.received = true ∧ 0 < t.handles then some (s.setThread k { t with handles := t.handles - 1 }) else none
  | .reference k =>
    let t := s.threads k
    if t.received = true ∧ 0 < t.handles ∨ t.phase = .running none then
      some (s.setThread k { t with references := t.references + 1 })
    else none
  | .dereference k =>
    let t := s.threads k
    if 0 < t.references then some (s.setThread k { t with references := t.references - 1 }) else none
  | .beginJoin => if s.main = .routine none then some { s with main := .joining } else none
  | .endJoin   =>
    if s.main = .joining ∧ ∀ k ∈ s.childThreads, (s.threads k).phase = .exited then
      some { s with main := .joined }
    else none

/-- What an action does, with the guards that it has passed. -/
inductive Step (s : System) : Action → System → Prop where
  | created {creator : Creator} {k : ThreadId} : s.awaits creator = some none → (s.threads k).phase = .absent →
      Step s (.create creator k) ((s.setAwaits creator (some k)).setThread k ⟨.starting, none, false, 1, 0⟩)
  | registered {k : ThreadId} : (s.threads k).phase = .starting → s.main ≠ .joining →
      s.childThreads.length ≠ cfixMaxThreads →
      Step s (.register k true) ({ s with childThreads := s.childThreads ++ [k] }.setThread k
        { s.threads k with phase := .running none, initializationStatus := some statusSuccess })
  | notRegistered {k : ThreadId} {pool : Bool} {status : NTSTATUS} : (s.threads k).phase = .starting →
      status ≠ statusSuccess →
      Step s (.register k pool)
        (s.setThread k { s.threads k with phase := .leaving, initializationStatus := some status })
  | handedOut {creator : Creator} {k : ThreadId} : s.awaits creator = some (some k) →
      (s.threads k).initializationStatus = some statusSuccess →
      Step s (.resume creator)
        ((s.setAwaits creator none).setThread k { (s.setAwaits creator none).threads k with received := true })
  | notHandedOut {creator : Creator} {k : ThreadId} {status : NTSTATUS} : s.awaits creator = some (some k) →
      (s.threads k).initializationStatus = some status → status ≠ statusSuccess →
      Step s (.resume creator)
        ((s.setAwaits creator none).setThread k
          { (s.setAwaits creator none).threads k with handles := ((s.setAwaits creator none).threads k).handles - 1 })
  | exited {k : ThreadId} : (s.threads k).phase = .running none ∨ (s.threads k).phase = .leaving →
      Step s (.exit k) (s.setThread k { s.threads k with phase := .exited })
  | closed {k : ThreadId} : 0 < (s.threads k).handles →
      Step s (.close k) (s.setThread k { s.threads k with handles := (s.threads k).handles - 1 })
  | referenced {k : ThreadId} :
      (s.threads k).received = true ∧ 0 < (s.threads k).handles ∨ (s.threads k).phase = .running none →
      Step s (.reference k) (s.setThread k { s.threads k with references := (s.threads k).references + 1 })
  | dereferenced {k : ThreadId} : 0 < (s.threads k).references →
      Step s (.dereference k) (s.setThread k { s.threads k with references := (s.threads k).references - 1 })
  | joining : s.main = .routine none → Step s .beginJoin { s with main := .joining }
  | joined : s.main = .joining → (∀ k ∈ s.childThreads, (s.threads k).phase = .exited) →
      Step s .endJoin { s with main := .joined }

/-- The outcome of `CfixkrpSetCurrentFilament` in a child. -/
theorem System.setCurrentFilament_cases (s : System) (k : ThreadId) (pool : Bool) :
    pool = true ∧ s.childThreads.length ≠ cfixMaxThreads ∧
        s.setCurrentFilament k pool = (statusSuccess, s.childThreads ++ [k]) ∨
      ∃ status, status ≠ statusSuccess ∧ s.setCurrentFilament k pool = (status, s.childThreads) := by
  cases pool with
  | false => exact .inr ⟨statusNoMemory, by decide, rfl⟩
  | true  =>
      by_cases hfull : s.childThreads.length = cfixMaxThreads
      · exact .inr ⟨statusAllottedSpaceExceeded, by decide, if_pos hfull⟩
      · exact .inl ⟨rfl, hfull, if_neg hfull⟩

/-- **What a step can do.** -/
theorem next_step {s s' : System} {a : Action} (h : next s a = some s') : Step s a s' := by
  cases a with
  | create creator k =>
      simp only [next, Option.ite_none_right_eq_some, Option.some.injEq] at h
      obtain ⟨⟨hawaits, habsent⟩, rfl⟩ := h
      exact .created hawaits habsent
  | register k pool =>
      simp only [next, Option.ite_none_right_eq_some, Option.some.injEq] at h
      obtain ⟨⟨hstarting, hlock⟩, rfl⟩ := h
      rcases s.setCurrentFilament_cases k pool with ⟨rfl, hroom, hset⟩ | ⟨status, hfailed, hset⟩
      · rw [hset, if_pos rfl]
        exact .registered hstarting (fun hmain => nomatch hlock hmain) hroom
      · rw [hset, if_neg hfailed]
        exact .notRegistered hstarting hfailed
  | resume creator =>
      simp only [next] at h
      split at h
      · rename_i k hawaits
        split at h
        · cases h
        · rename_i status hstatus
          cases h
          split
          · rename_i hsuccess
            rw [hsuccess] at hstatus
            exact .handedOut hawaits hstatus
          · rename_i hfailed
            exact .notHandedOut hawaits hstatus hfailed
      · cases h
  | exit k =>
      simp only [next, Option.ite_none_right_eq_some, Option.some.injEq] at h
      obtain ⟨hgo, rfl⟩ := h
      exact .exited hgo
  | close k =>
      simp only [next, Option.ite_none_right_eq_some, Option.some.injEq] at h
      obtain ⟨⟨-, hpos⟩, rfl⟩ := h
      exact .closed hpos
  | reference k =>
      simp only [next, Option.ite_none_right_eq_some, Option.some.injEq] at h
      obtain ⟨hgo, rfl⟩ := h
      exact .referenced hgo
  | dereference k =>
      simp only [next, Option.ite_none_right_eq_some, Option.some.injEq] at h
      obtain ⟨hpos, rfl⟩ := h
      exact .dereferenced hpos
  | beginJoin =>
      simp only [next, Option.ite_none_right_eq_some, Option.some.injEq] at h
      obtain ⟨hmain, rfl⟩ := h
      exact .joining hmain
  | endJoin =>
      simp only [next, Option.ite_none_right_eq_some, Option.some.injEq] at h
      obtain ⟨⟨hmain, hexited⟩, rfl⟩ := h
      exact .joined hmain hexited

/-! ## Objects -/

def Phase.live : Phase → Bool
  | .starting | .running _ | .leaving => true
  | .absent | .exited                 => false

/-- The object exists while the thread runs, or a handle or a reference is left. -/
def Thread.Allocated (t : Thread) : Prop := t.phase.live = true ∨ 0 < t.handles ∨ 0 < t.references

/-- **Every thread object that the main thread waits for is still allocated.** -/
def WaitSafe (s : System) : Prop := s.main = .joining → ∀ k ∈ s.childThreads, (s.threads k).Allocated

/-- Until the join is over, no step leaves a registered thread without its object: if it exits, a handle or a
    reference is left, and after it has exited the last one is not given up. -/
def KeepsObject (s : System) : Action → Prop
  | .exit k        => s.main ≠ .joined → k ∈ s.childThreads → 0 < (s.threads k).handles ∨ 0 < (s.threads k).references
  | .close k       => s.main ≠ .joined → k ∈ s.childThreads →
    (s.threads k).phase.live = true ∨ 1 < (s.threads k).handles ∨ 0 < (s.threads k).references
  | .dereference k => s.main ≠ .joined → k ∈ s.childThreads →
    (s.threads k).phase.live = true ∨ 0 < (s.threads k).handles ∨ 1 < (s.threads k).references
  | _              => True

/-- A step of the filament's functions. -/
def Action.ofFilament : Action → Bool
  | .register _ _ | .beginJoin | .endJoin => true
  | _                                     => false

/-! ## What a step does -/

/-- A registered thread has been initialized. -/
structure Inv (s : System) : Prop where
  phase  : ∀ k ∈ s.childThreads, (∃ awaits, (s.threads k).phase = .running awaits) ∨ (s.threads k).phase = .exited
  status : ∀ k ∈ s.childThreads, (s.threads k).initializationStatus = some statusSuccess

theorem inv_initialized : Inv .initialized where
  phase _ h  := nomatch h
  status _ h := nomatch h

/-- What a step does to the object of an initialized thread. -/
inductive Effect (k : ThreadId) (t t' : Thread) : Action → Prop where
  | none {a : Action} (live : t'.phase.live = t.phase.live) (handles : t'.handles = t.handles)
      (references : t'.references = t.references) : Effect k t t' a
  | exit (live : t.phase.live = true) (dead : t'.phase.live = false) (handles : t'.handles = t.handles)
      (references : t'.references = t.references) : Effect k t t' (.exit k)
  | close (live : t'.phase.live = t.phase.live) (handles : t.handles = t'.handles + 1)
      (references : t'.references = t.references) : Effect k t t' (.close k)
  | reference (allocated : t.Allocated) (live : t'.phase.live = t.phase.live) (handles : t'.handles = t.handles)
      (references : t'.references = t.references + 1) : Effect k t t' (.reference k)
  | dereference (live : t'.phase.live = t.phase.live) (handles : t'.handles = t.handles)
      (references : t.references = t'.references + 1) : Effect k t t' (.dereference k)

/-- What a step does to a registered thread: it stays registered and initialized. -/
structure Kept (s s' : System) (a : Action) (k : ThreadId) : Prop where
  registered : k ∈ s'.childThreads
  phase      : (∃ awaits, (s'.threads k).phase = .running awaits) ∨ (s'.threads k).phase = .exited
  status     : (s'.threads k).initializationStatus = some statusSuccess
  effect     : Effect k (s.threads k) (s'.threads k) a

section Steps

variable {s s' : System} {k x : ThreadId} {t : Thread} {a : Action}

@[simp] theorem System.setThread_self (s : System) (k : ThreadId) (t : Thread) : (s.setThread k t).threads k = t := by
  simp [System.setThread]

theorem System.setThread_of_ne (s : System) (t : Thread) (h : x ≠ k) : (s.setThread k t).threads x = s.threads x := by
  simp [System.setThread, h]

/-- A creator waits or goes on: its own phase is all that changes. -/
theorem System.setAwaits_cases {creator : Creator} {awaits : Option ThreadId}
    (h : s.awaits creator = some awaits) (awaits' : Option ThreadId) (x : ThreadId) :
    (s.setAwaits creator awaits').threads x = s.threads x ∨
      (s.threads x).phase = .running awaits ∧
        (s.setAwaits creator awaits').threads x = { s.threads x with phase := .running awaits' } := by
  cases creator with
  | main    => exact .inl rfl
  | child k =>
      by_cases hx : x = k
      · subst hx
        refine .inr ⟨?_, setThread_self s x _⟩
        simp only [System.awaits] at h
        split at h
        · rename_i aw hphase
          rw [hphase, Option.some.inj h]
        · cases h
      · exact .inl (setThread_of_ne s _ hx)

@[simp] theorem System.setAwaits_childThreads (s : System) (creator : Creator) (awaits : Option ThreadId) :
    (s.setAwaits creator awaits).childThreads = s.childThreads := by
  cases creator with
  | main | child k => rfl

theorem Inv.ne_of_new (hinv : Inv s) (hk : k ∈ s.childThreads)
    (hx : (s.threads x).phase = .absent ∨ (s.threads x).phase = .starting) : k ≠ x := by
  rintro rfl
  rcases hinv.phase k hk with ⟨awaits, hphase⟩ | hphase
  · rw [hphase] at hx
    simp at hx
  · rw [hphase] at hx
    simp at hx

/-- Nothing happens to the thread. -/
theorem Kept.same (hinv : Inv s) (hk : k ∈ s.childThreads) (hregistered : k ∈ s'.childThreads)
    (hthread : s'.threads k = s.threads k) : Kept s s' a k := by
  refine ⟨hregistered, ?_, ?_, ?_⟩
  · rw [hthread]
    exact hinv.phase k hk
  · rw [hthread]
    exact hinv.status k hk
  · rw [hthread]
    exact .none rfl rfl rfl

/-- The thread waits for the initialization of another one, or goes on. -/
theorem Kept.awaits (hinv : Inv s) (hk : k ∈ s.childThreads) (hregistered : k ∈ s'.childThreads)
    {awaits awaits' : Option ThreadId} (hphase : (s.threads k).phase = .running awaits)
    (hthread : s'.threads k = { s.threads k with phase := .running awaits' }) : Kept s s' a k := by
  refine ⟨hregistered, ?_, ?_, ?_⟩
  · rw [hthread]
    exact .inl ⟨awaits', rfl⟩
  · rw [hthread]
    exact hinv.status k hk
  · refine .none ?_ ?_ ?_
    · rw [hthread, hphase]
      rfl
    · rw [hthread]
    · rw [hthread]

/-- A step of the thread, or of another one, after `s'`. -/
theorem Kept.setThread (h : Kept s s' a k) {y : ThreadId}
    (hself : y = k → t.phase = (s'.threads k).phase ∧
      t.initializationStatus = (s'.threads k).initializationStatus ∧ Effect k (s.threads k) t a) :
    Kept s (s'.setThread y t) a k := by
  by_cases hy : k = y
  · subst hy
    obtain ⟨hphase, hstatus, heffect⟩ := hself rfl
    refine ⟨h.registered, ?_, ?_, ?_⟩
    · rw [System.setThread_self, hphase]
      exact h.phase
    · rw [System.setThread_self, hstatus]
      exact h.status
    · rw [System.setThread_self]
      exact heffect
  · refine ⟨h.registered, ?_, ?_, ?_⟩
    · rw [System.setThread_of_ne _ _ hy]
      exact h.phase
    · rw [System.setThread_of_ne _ _ hy]
      exact h.status
    · rw [System.setThread_of_ne _ _ hy]
      exact h.effect

/-- A step of another thread, or of nobody's. -/
theorem Kept.update (hinv : Inv s) (hk : k ∈ s.childThreads) {y : ThreadId}
    (hself : y = k → t.phase = (s.threads k).phase ∧ t.initializationStatus = (s.threads k).initializationStatus ∧
      Effect k (s.threads k) t a) : Kept s (s.setThread y t) a k := by
  have hsame : Kept s s a k := .same hinv hk hk rfl
  exact hsame.setThread hself

/-- The creator goes on. -/
theorem Kept.resumed (hinv : Inv s) (hk : k ∈ s.childThreads) {creator : Creator} {awaits : Option ThreadId}
    (hawaits : s.awaits creator = some awaits) : Kept s (s.setAwaits creator none) a k := by
  have hmem : k ∈ (s.setAwaits creator none).childThreads := by simpa using hk
  rcases System.setAwaits_cases hawaits none k with hsame | ⟨hrunning, hthread⟩
  · exact .same hinv hk hmem hsame
  · exact .awaits hinv hk hmem hrunning hthread

/-- **What a step does to a registered thread.** -/
theorem step_kept (hinv : Inv s) (h : next s a = some s') (hk : k ∈ s.childThreads) : Kept s s' a k := by
  have hstatus := hinv.status k hk
  cases next_step h with
  | @created creator y hawaits habsent =>
      have hne := hinv.ne_of_new hk (.inl habsent)
      have hmem : k ∈ ((s.setAwaits creator (some y)).setThread y ⟨.starting, none, false, 1, 0⟩).childThreads := by
        simpa [System.setThread] using hk
      rcases System.setAwaits_cases hawaits (some y) k with hsame | ⟨hrunning, hthread⟩
      · exact .same hinv hk hmem ((System.setThread_of_ne _ _ hne).trans hsame)
      · exact .awaits hinv hk hmem hrunning ((System.setThread_of_ne _ _ hne).trans hthread)
  | registered hstarting _ _ =>
      have hne := hinv.ne_of_new hk (.inr hstarting)
      exact .same hinv hk (List.mem_append_left _ hk) (System.setThread_of_ne _ _ hne)
  | notRegistered hstarting _ =>
      exact .same hinv hk hk (System.setThread_of_ne _ _ (hinv.ne_of_new hk (.inr hstarting)))
  | @handedOut creator y hawaits _ =>
      have hmid : Kept s (s.setAwaits creator none) (.resume creator) k := .resumed hinv hk hawaits
      refine hmid.setThread ?_
      rintro rfl
      refine ⟨rfl, rfl, ?_⟩
      cases hmid.effect with
      | none live handles references => exact .none live handles references
  | @notHandedOut creator y status hawaits hinit hfailed =>
      have hne : k ≠ y := by
        rintro rfl
        rw [hstatus] at hinit
        exact hfailed (Option.some.inj hinit).symm
      have hmid : Kept s (s.setAwaits creator none) (.resume creator) k := .resumed hinv hk hawaits
      exact hmid.setThread fun hy => absurd hy.symm hne
  | @exited y hgo =>
      by_cases hy : k = y
      · subst hy
        refine ⟨hk, .inr ?_, ?_, ?_⟩
        · rw [System.setThread_self]
        · rw [System.setThread_self]
          exact hstatus
        · refine .exit ?_ ?_ ?_ ?_
          · rcases hgo with hgo | hgo
            · rw [hgo]
              rfl
            · rw [hgo]
              rfl
          · rw [System.setThread_self]
            rfl
          · rw [System.setThread_self]
          · rw [System.setThread_self]
      · exact .same hinv hk hk (System.setThread_of_ne s _ hy)
  | closed hpos =>
      refine .update hinv hk ?_
      rintro rfl
      exact ⟨rfl, rfl, .close rfl (Nat.sub_add_cancel hpos).symm rfl⟩
  | referenced hgo =>
      refine .update hinv hk ?_
      rintro rfl
      refine ⟨rfl, rfl, .reference ?_ rfl rfl rfl⟩
      rcases hgo with ⟨-, hpos⟩ | hrunning
      · exact .inr (.inl hpos)
      · refine .inl ?_
        rw [hrunning]
        rfl
  | dereferenced hpos =>
      refine .update hinv hk ?_
      rintro rfl
      exact ⟨rfl, rfl, .dereference rfl rfl (Nat.sub_add_cancel hpos).symm⟩
  | joining _ => exact .same hinv hk hk rfl
  | joined _ _ => exact .same hinv hk hk rfl

/-- A thread that is registered by a step runs. -/
theorem step_registers (h : next s a = some s') (hk : k ∈ s'.childThreads) : k ∈ s.childThreads ∨
    (s'.threads k).phase = .running none ∧ (s'.threads k).initializationStatus = some statusSuccess := by
  cases next_step h with
  | registered =>
      rcases List.mem_append.mp hk with hold | hnew
      · exact .inl hold
      · rw [List.mem_singleton] at hnew
        subst hnew
        rw [System.setThread_self]
        exact .inr ⟨rfl, rfl⟩
  | created | handedOut | notHandedOut =>
      refine .inl ?_
      simpa [System.setThread] using hk
  | notRegistered | exited | closed | referenced | dereferenced | joining | joined => exact .inl hk

def MainPc.inRoutine : MainPc → Bool
  | .routine _          => true
  | .joining | .joined  => false

theorem System.setAwaits_main {creator : Creator} {awaits : Option ThreadId} (h : s.awaits creator = some awaits)
    (awaits' : Option ThreadId) : (s.setAwaits creator awaits').main = s.main ∨
      s.main.inRoutine = true ∧ (s.setAwaits creator awaits').main.inRoutine = true := by
  cases creator with
  | child k => exact .inl rfl
  | main    =>
      simp only [System.awaits] at h
      split at h
      · rename_i aw hmain
        refine .inr ⟨?_, rfl⟩
        rw [hmain]
        rfl
      · cases h

/-- The way of the main thread. -/
theorem step_main (h : next s a = some s') : s'.main = s.main ∨
    s.main.inRoutine = true ∧ s'.main.inRoutine = true ∨ s.main.inRoutine = true ∧ s'.main = .joining ∨
    s.main = .joining ∧ s'.main = .joined := by
  cases next_step h with
  | @created _ y hawaits _ =>
      rcases System.setAwaits_main hawaits (some y) with hsame | hroutine
      · exact .inl hsame
      · exact .inr (.inl hroutine)
  | handedOut hawaits _ | notHandedOut hawaits _ _ =>
      rcases System.setAwaits_main hawaits none with hsame | hroutine
      · exact .inl hsame
      · exact .inr (.inl hroutine)
  | joining hmain =>
      refine .inr (.inr (.inl ⟨?_, rfl⟩))
      rw [hmain]
      rfl
  | joined hmain _ => exact .inr (.inr (.inr ⟨hmain, rfl⟩))
  | registered | notRegistered | exited | closed | referenced | dereferenced => exact .inl rfl

theorem Inv.step (hinv : Inv s) (h : next s a = some s') : Inv s' where
  phase k hk  := by
    rcases step_registers h hk with hold | ⟨hphase, -⟩
    · exact (step_kept hinv h hold).phase
    · exact .inl ⟨none, hphase⟩
  status k hk := by
    rcases step_registers h hk with hold | ⟨-, hstatus⟩
    · exact (step_kept hinv h hold).status
    · exact hstatus

/-- What is joined stays joined. -/
theorem not_joined_of_step (h : next s a = some s') (hmain : s'.main ≠ .joined) : s.main ≠ .joined := by
  intro hjoined
  rcases step_main h with hsame | ⟨hroutine, -⟩ | ⟨hroutine, -⟩ | ⟨hjoining, -⟩
  · exact hmain (hsame.trans hjoined)
  · rw [hjoined] at hroutine
    cases hroutine
  · rw [hjoined] at hroutine
    cases hroutine
  · rw [hjoined] at hjoining
    cases hjoining

end Steps

end Cfix.ThreadObjects
