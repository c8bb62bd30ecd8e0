import Mathlib.Logic.Function.Basic
import Cfix.Lib.RwLock
import Cfix.Lib.Transition

/-!
# `Kernel.Unload` — calls of test routines against the unloading of their driver (`cfixkr/drvconn.c`)

A driver connection serves any number of calls of `CfixkrpCallRoutineDriverConnection`; each may create
child system threads. The test driver unloads by `CfixkrsExternalDereferenceConnection`. An action is one
step of one of these parties up to its next access to shared state, so a list of actions is an
interleaving.
-/

namespace Cfix.Unload

open Transition

/-! ## State -/

abbrev CallId  := Nat
abbrev ChildId := Nat

/-- `NTSTATUS`. -/
abbrev NTSTATUS := BitVec 32

def statusSuccess            : NTSTATUS := 0x00000000#32
def statusDriverUnableToLoad : NTSTATUS := 0xC000026C#32

/-- `CFIX_MAX_THREADS`. -/
def cfixMaxThreads : Nat := 64

/-- Who creates a child thread: the called routine itself, or a child thread of it. -/
inductive Creator where
  | call  (c : CallId)
  | child (k : ChildId)
  deriving DecidableEq, Repr

/-- Where a call of `CfixkrpCallRoutineDriverConnection` stands. -/
inductive CallPc where
  | idle
  /-- The routine is known and the filament is set; the unload protection comes next. -/
  | prepared
  /-- `ExternalReferenceCount` was seen to be nonzero. -/
  | checked
  /-- Under unload protection; `awaits` is the child whose initialization the routine waits for. -/
  | routine (awaits : Option ChildId)
  /-- The protection has been released, the child threads have not been joined. -/
  | released
  /-- In `CfixkrpJoinChildThreadsFilament`, holding the filament's lock. -/
  | joining
  | returned (status : NTSTATUS)
  deriving DecidableEq, Repr

/-- Where a child system thread stands. -/
inductive ChildPc where
  | absent
  /-- In `CfixkrsThreadStart`, not registered yet: `InitializationCompleted` is not set. -/
  | starting (call : CallId)
  /-- Registered, in its start routine. -/
  | running (call : CallId) (awaits : Option ChildId)
  | exited
  deriving DecidableEq, Repr

/-- The call that a live child thread belongs to. -/
def ChildPc.liveOf : ChildPc → Option CallId
  | .starting c  => some c
  | .running c _ => some c
  | .absent      => none
  | .exited      => none

/-- Where `CfixkrsExternalDereferenceConnection` stands. -/
inductive UnloadPc where
  | idle | waiting | locked | decremented | released | returned
  deriving DecidableEq, Repr

/-- Who can own the `DriverUnloadLock`. -/
inductive Party where
  | call (c : CallId)
  | unload
  deriving DecidableEq, Repr

/-- `CFIXKRP_DRIVER_CONNECTION` with the parties that work on it. -/
structure Connection where
  externalReferenceCount : Nat
  referenceCount         : Nat
  driverUnloadLock       : RwLock Party
  calls                  : CallId → CallPc
  children               : ChildId → ChildPc
  /-- `Filament.ChildThreads.Threads` of each call. -/
  childThreads           : CallId → List ChildId
  unload                 : UnloadPc

/-- After `CfixkrpCreateAndRegisterDriverConnection`. -/
def Connection.created : Connection where
  externalReferenceCount := 1
  referenceCount         := 1
  driverUnloadLock       := .free
  calls _                := .idle
  children _             := .absent
  childThreads _         := []
  unload                 := .idle

/-! ## Steps -/

inductive Action where
  /-- A request looks the connection up and calls it; the filament is set. -/
  | enter (c : CallId)
  /-- The routine is unknown or the filament cannot be set. -/
  | fail (c : CallId) (status : NTSTATUS)
  /-- The unlocked test of `CfixkrsAcquireDriverUnloadProtection`. -/
  | test (c : CallId)
  /-- Its `ExAcquireResourceSharedLite`; the routine starts. -/
  | acquire (c : CallId)
  /-- `CfixkrpCreateSystemThread`. -/
  | create (creator : Creator) (k : ChildId)
  /-- `CfixkrsThreadStart` up to the call of the start routine; `pool` says whether the filament's entry
      can be allocated. -/
  | register (k : ChildId) (pool : Bool)
  /-- The creator's wait for `InitializationCompleted` ends. -/
  | resume (creator : Creator)
  | exit (k : ChildId)
  /-- The routine ends: `CfixkrsReleaseDriverUnloadProtection`. -/
  | release (c : CallId)
  | beginJoin (c : CallId)
  | endJoin (c : CallId)
  | unloadRequest
  | unloadAcquire
  | unloadDecrement
  | unloadRelease
  | unloadReturn
  deriving DecidableEq, Repr

def Connection.setCall (s : Connection) (c : CallId) (pc : CallPc) : Connection :=
  { s with calls := Function.update s.calls c pc }

def Connection.setChild (s : Connection) (k : ChildId) (pc : ChildPc) : Connection :=
  { s with children := Function.update s.children k pc }

/-- The call on whose behalf a creator runs driver code, and the child it waits for. -/
def Connection.creatorPc (s : Connection) : Creator → Option (CallId × Option ChildId)
  | .call c =>
    match s.calls c with
    | .routine awaits => some (c, awaits)
    | _               => none
  | .child k =>
    match s.children k with
    | .running c awaits => some (c, awaits)
    | _                 => none

/-- The creator waits for the initialization of `awaits`, or goes on. -/
def Connection.setAwaits (s : Connection) (creator : Creator) (call : CallId)
    (awaits : Option ChildId) : Connection :=
  match creator with
  | .call c  => s.setCall c (.routine awaits)
  | .child k => s.setChild k (.running call awaits)

/-- `CfixkrsRegisterChildThreadFilament` by child `k`: whether there is room, and the new list. -/
def Connection.registerChildThread (s : Connection) (call : CallId) (k : ChildId) : Option Connection :=
  if (s.childThreads call).length = cfixMaxThreads then none
  else some { s with childThreads := Function.update s.childThreads call (s.childThreads call ++ [k]) }

/-- `CfixkrpDereferenceConnection`, as far as the count goes. -/
def Connection.dereference (s : Connection) : Connection :=
  { s with referenceCount := s.referenceCount - 1 }

/-- One step of one party; `none` if that party is not at this point or has to wait. -/
def next (s : Connection) : Action → Option Connection
  | .enter c =>
    -- a lookup finds the connection until its last reference is gone
    if s.calls c = .idle ∧ s.referenceCount ≠ 0 then
      some ({ s with referenceCount := s.referenceCount + 1 }.setCall c .prepared)
    else none
  | .fail c status =>
    if s.calls c = .prepared then some (s.setCall c (.returned status)).dereference else none
  | .test c =>
    if s.calls c = .prepared then
      if s.externalReferenceCount = 0 then
        some (s.setCall c (.returned statusDriverUnableToLoad)).dereference
      else some (s.setCall c .checked)
    else none
  | .acquire c =>
    if s.calls c = .checked then
      -- the external reference is not tested again under the lock
      (s.driverUnloadLock.acquireShared (.call c)).map
        (fun lock => { s with driverUnloadLock := lock }.setCall c (.routine none))
    else none
  | .create creator k =>
    match s.creatorPc creator with
    | some (call, none) =>
      if s.children k = .absent then
        some ((s.setAwaits creator call (some k)).setChild k (.starting call))
      else none
    | _ => none
  | .register k pool =>
    match s.children k with
    | .starting call =>
      -- a child that cannot be registered never calls its start routine
      if !pool then some (s.setChild k .exited)
      -- the join of this call holds the filament's lock
      else if s.calls call = .joining then none
      else
        match s.registerChildThread call k with
        | some s' => some (s'.setChild k (.running call none))
        | none    => some (s.setChild k .exited)
    | _ => none
  | .resume creator =>
    match s.creatorPc creator with
    | some (call, some k) =>
      match s.children k with
      | .starting _ => none
      | _           => some (s.setAwaits creator call none)
    | _ => none
  | .exit k =>
    match s.children k with
    | .running _ none => some (s.setChild k .exited)
    | _               => none
  | .release c =>
    if s.calls c = .routine none then
      -- the child threads are joined without the protection
      some ({ s with driverUnloadLock := s.driverUnloadLock.releaseShared (.call c) }.setCall c .released)
    else none
  | .beginJoin c => if s.calls c = .released then some (s.setCall c .joining) else none
  | .endJoin c =>
    if s.calls c = .joining ∧ ∀ k ∈ s.childThreads c, s.children k = .exited then
      some (s.setCall c (.returned statusSuccess)).dereference
    else none
  | .unloadRequest =>
    if s.unload = .idle then
      some { s with driverUnloadLock := s.driverUnloadLock.request .unload, unload := .waiting }
    else none
  | .unloadAcquire =>
    if s.unload = .waiting then
      (s.driverUnloadLock.grant .unload).map
        (fun lock => { s with driverUnloadLock := lock, unload := .locked })
    else none
  | .unloadDecrement =>
    if s.unload = .locked then
      some { s with externalReferenceCount := s.externalReferenceCount - 1, unload := .decremented }
    else none
  | .unloadRelease =>
    if s.unload = .decremented then
      some { s with driverUnloadLock := s.driverUnloadLock.releaseExclusive, unload := .released }
    else none
  | .unloadReturn =>
    if s.unload = .released then some { s.dereference with unload := .returned } else none

/-! ## What runs driver code -/

/-- The called routine of `c` is running. -/
def Connection.inRoutine (s : Connection) (c : CallId) : Prop := ∃ awaits, s.calls c = .routine awaits

/-- Child `k` is running its start routine. -/
def Connection.childRuns (s : Connection) (k : ChildId) : Prop :=
  ∃ c awaits, s.children k = .running c awaits

/-- **Unload safety**: once the dereference has returned, no routine of the driver runs. -/
def UnloadSafe (s : Connection) : Prop :=
  s.unload = .returned → (∀ c, ¬ s.inRoutine c) ∧ ∀ k, ¬ s.childRuns k

/-- No routine runs, and no child thread exists that runs or will run. -/
def Connection.Quiet (s : Connection) : Prop :=
  (∀ c, ¬ s.inRoutine c) ∧ ∀ k, (s.children k).liveOf = none

/-- The unload owns or has owned the lock. -/
def UnloadPc.past : UnloadPc → Bool
  | .idle | .waiting                                => false
  | .locked | .decremented | .released | .returned => true

/-- The external reference has been dropped. -/
def UnloadPc.dropped : UnloadPc → Bool
  | .idle | .waiting | .locked            => false
  | .decremented | .released | .returned => true

section Updates

variable {s : Connection} {c c' : CallId} {k k' : ChildId}

theorem Connection.inRoutine_setCall (pc : CallPc) (h : (s.setCall c pc).inRoutine c') :
    (c' = c ∧ ∃ awaits, pc = .routine awaits) ∨ (c' ≠ c ∧ s.inRoutine c') := by
  obtain ⟨awaits, h⟩ := h
  simp only [Connection.setCall, Function.update_apply] at h
  split at h
  · rename_i hc
    exact .inl ⟨hc, awaits, h⟩
  · rename_i hc
    exact .inr ⟨hc, awaits, h⟩

/-- The call of a creator is live: its routine runs, or one of its children does. -/
theorem Connection.not_quiet_of_creatorPc {creator : Creator} {call : CallId} {awaits : Option ChildId}
    (h : s.creatorPc creator = some (call, awaits)) : ¬ s.Quiet := by
  rintro ⟨hcalls, hchildren⟩
  cases creator with
  | call c =>
      simp only [Connection.creatorPc] at h
      split at h
      · rename_i aw hc
        exact hcalls c ⟨aw, hc⟩
      · cases h
  | child k =>
      simp only [Connection.creatorPc] at h
      split at h
      · rename_i c aw hk
        have hlive := hchildren k
        rw [hk] at hlive
        cases hlive
      · cases h

/-- Waiting and going on do not change who is in a routine. -/
theorem Connection.inRoutine_setAwaits {creator : Creator} {call : CallId} {aw aw' : Option ChildId}
    (hpc : s.creatorPc creator = some (call, aw)) (h : (s.setAwaits creator call aw').inRoutine c') :
    s.inRoutine c' := by
  cases creator with
  | child k => exact h
  | call c =>
      rcases Connection.inRoutine_setCall _ h with ⟨rfl, -⟩ | ⟨-, h⟩
      · simp only [Connection.creatorPc] at hpc
        split at hpc
        · rename_i aw hc
          exact ⟨aw, hc⟩
        · cases hpc
      · exact h

end Updates

/-! ## Steps that start no driver code -/

/-- The step leaves the unload's state alone, lets no call into its routine and keeps quiet what is
    quiet. -/
structure StartsNothing (s s' : Connection) : Prop where
  unload    : s'.unload = s.unload
  external  : s'.externalReferenceCount = s.externalReferenceCount
  exclusive : s'.driverUnloadLock.exclusive = s.driverUnloadLock.exclusive
  routines  : ∀ c, s'.inRoutine c → s.inRoutine c
  owners    : ∀ c, s'.inRoutine c → .call c ∈ s.driverUnloadLock.shared →
    .call c ∈ s'.driverUnloadLock.shared
  quiet     : s.Quiet → s'.Quiet

/-- A call that moves to a point outside its routine. -/
theorem startsNothing_setCall (s : Connection) (c : CallId) {pc : CallPc}
    (hpc : ∀ awaits, pc ≠ .routine awaits) : StartsNothing s (s.setCall c pc) := by
  have hroutines : ∀ c', (s.setCall c pc).inRoutine c' → s.inRoutine c' := by
    intro c' h
    rcases Connection.inRoutine_setCall _ h with ⟨-, awaits, h⟩ | ⟨-, h⟩
    · exact absurd h (hpc awaits)
    · exact h
  exact ⟨rfl, rfl, rfl, hroutines, fun _ _ h => h, fun hq => ⟨fun c' h => hq.1 c' (hroutines c' h), hq.2⟩⟩

/-- The reference count plays no part. -/
theorem StartsNothing.withReferenceCount {s s' : Connection} (h : StartsNothing s s') (n : Nat) :
    StartsNothing s { s' with referenceCount := n } :=
  ⟨h.unload, h.external, h.exclusive, h.routines, h.owners, h.quiet⟩

/-- A child that ends. -/
theorem startsNothing_exited {s : Connection} {k : ChildId} : StartsNothing s (s.setChild k .exited) := by
  refine ⟨rfl, rfl, rfl, fun _ h => h, fun _ _ h => h, fun hq => ⟨hq.1, ?_⟩⟩
  intro k'
  simp only [Connection.setChild, Function.update_apply]
  split
  · rfl
  · exact hq.2 k'

/-- A step that a running creator takes, which changes no more than what it waits for and its child. -/
theorem startsNothing_create {s : Connection} {creator : Creator} {call : CallId} {aw : Option ChildId}
    (aw' : Option ChildId) (k : ChildId) (pc : ChildPc) (hpc : s.creatorPc creator = some (call, aw)) :
    StartsNothing s ((s.setAwaits creator call aw').setChild k pc) := by
  have hframe : ∀ (s₁ : Connection), s₁ = s.setAwaits creator call aw' →
      s₁.unload = s.unload ∧ s₁.externalReferenceCount = s.externalReferenceCount ∧
        s₁.driverUnloadLock = s.driverUnloadLock := by
    rintro s₁ rfl
    cases creator <;> exact ⟨rfl, rfl, rfl⟩
  obtain ⟨hu, he, hl⟩ := hframe _ rfl
  refine ⟨hu, he, congrArg _ hl, ?_, ?_, ?_⟩
  · exact fun c h => Connection.inRoutine_setAwaits hpc h
  · intro c _ h
    exact hl ▸ h
  · exact fun hq => absurd hq (Connection.not_quiet_of_creatorPc hpc)

theorem startsNothing_resume {s : Connection} {creator : Creator} {call : CallId} {aw aw' : Option ChildId}
    (hpc : s.creatorPc creator = some (call, aw)) : StartsNothing s (s.setAwaits creator call aw') := by
  have h := startsNothing_create aw' 0 ((s.setAwaits creator call aw').children 0) hpc
  have hself : (s.setAwaits creator call aw').setChild 0 ((s.setAwaits creator call aw').children 0)
      = s.setAwaits creator call aw' := by
    simp only [Connection.setChild, Function.update_eq_self]
  rwa [hself] at h

/-- A child that was starting: nothing was quiet. -/
theorem startsNothing_register {s s₁ : Connection} {k : ChildId} {call : CallId} {pc : ChildPc}
    (hk : s.children k = .starting call) (h₁ : s.registerChildThread call k = some s₁) :
    StartsNothing s (s₁.setChild k pc) := by
  unfold Connection.registerChildThread at h₁
  split at h₁
  · cases h₁
  · cases h₁
    refine ⟨rfl, rfl, rfl, fun _ h => h, fun _ _ h => h, fun hq => ?_⟩
    have hlive := hq.2 k
    rw [hk] at hlive
    cases hlive

/-- A routine that ends gives up its ownership of the lock. -/
theorem startsNothing_release {s : Connection} {c : CallId} :
    StartsNothing s
      ({ s with driverUnloadLock := s.driverUnloadLock.releaseShared (.call c) }.setCall c .released) := by
  have h : StartsNothing s (s.setCall c .released) := startsNothing_setCall s c (fun _ h => nomatch h)
  refine ⟨rfl, rfl, rfl, h.routines, ?_, h.quiet⟩
  intro c' hin hmem
  rcases Connection.inRoutine_setCall _ hin with ⟨-, awaits, hpc⟩ | ⟨hne, -⟩
  · cases hpc
  · refine (List.mem_erase_of_ne ?_).mpr hmem
    exact fun heq => hne (Party.call.inj heq)

/-- The steps of a call outside its entry into the routine, and the steps of children. -/
def Action.startsNothing : Action → Bool
  | .acquire _ | .unloadRequest | .unloadAcquire | .unloadDecrement | .unloadRelease | .unloadReturn => false
  | .enter _ | .fail _ _ | .test _ | .create _ _ | .register _ _ | .resume _ | .exit _ | .release _
  | .beginJoin _ | .endJoin _ => true

/-- **What a step does that is neither an entry into a routine nor a step of the unload.** -/
theorem startsNothing_next {s s' : Connection} {a : Action} (ha : a.startsNothing = true)
    (h : next s a = some s') : StartsNothing s s' := by
  cases a with
  | acquire c => cases ha
  | unloadRequest => cases ha
  | unloadAcquire => cases ha
  | unloadDecrement => cases ha
  | unloadRelease => cases ha
  | unloadReturn => cases ha
  | enter c =>
      simp only [next] at h
      split at h
      · cases h
        have hs : StartsNothing s (s.setCall c .prepared) :=
          startsNothing_setCall s c (fun _ h => nomatch h)
        exact hs.withReferenceCount _
      · cases h
  | fail c status =>
      simp only [next] at h
      split at h
      · cases h
        have hs : StartsNothing s (s.setCall c (.returned status)) :=
          startsNothing_setCall s c (fun _ h => nomatch h)
        exact hs.withReferenceCount _
      · cases h
  | test c =>
      simp only [next] at h
      split at h
      · split at h
        · cases h
          have hs : StartsNothing s (s.setCall c (.returned statusDriverUnableToLoad)) :=
            startsNothing_setCall s c (fun _ h => nomatch h)
          exact hs.withReferenceCount _
        · cases h
          exact startsNothing_setCall s c (fun _ h => nomatch h)
      · cases h
  | create creator k =>
      simp only [next] at h
      split at h
      · rename_i call hpc
        split at h
        · cases h
          exact startsNothing_create _ k (.starting call) hpc
        · cases h
      · cases h
  | register k pool =>
      simp only [next] at h
      split at h
      · rename_i call hk
        split at h
        · cases h
          exact startsNothing_exited
        · split at h
          · cases h
          · split at h
            · rename_i s₁ h₁
              cases h
              exact startsNothing_register hk h₁
            · cases h
              exact startsNothing_exited
      · cases h
  | resume creator =>
      simp only [next] at h
      split at h
      · rename_i call k hpc
        split at h
        · cases h
        · cases h
          exact startsNothing_resume hpc
      · cases h
  | exit k =>
      simp only [next] at h
      split at h
      · cases h
        exact startsNothing_exited
      · cases h
  | release c =>
      simp only [next] at h
      split at h
      · cases h
        exact startsNothing_release
      · cases h
  | beginJoin c =>
      simp only [next] at h
      split at h
      · cases h
        exact startsNothing_setCall s c (fun _ h => nomatch h)
      · cases h
  | endJoin c =>
      simp only [next] at h
      split at h
      · cases h
        have hs : StartsNothing s (s.setCall c (.returned statusSuccess)) :=
          startsNothing_setCall s c (fun _ h => nomatch h)
        exact hs.withReferenceCount _
      · cases h

/-! ## The invariant -/

/-- **The invariant**: who is in a routine owns the lock; the external reference is held until the unload
    drops it; and from the moment the unload gets the lock, everything is quiet. -/
structure Inv (s : Connection) : Prop where
  owners   : ∀ c, s.inRoutine c → .call c ∈ s.driverUnloadLock.shared
  locked   : s.unload = .locked ∨ s.unload = .decremented → s.driverUnloadLock.exclusive = some .unload
  external : s.externalReferenceCount = if s.unload.dropped then 0 else 1
  quiet    : s.unload.past = true → s.Quiet

theorem inv_created : Inv .created := by
  refine ⟨?_, ?_, rfl, ?_⟩
  · rintro c ⟨awaits, h⟩
    cases h
  · rintro (h | h) <;> cases h
  · intro h
    cases h

theorem Inv.of_startsNothing {s s' : Connection} (hI : Inv s) (h : StartsNothing s s') : Inv s' := by
  refine ⟨?_, ?_, ?_, ?_⟩
  · exact fun c hc => h.owners c hc (hI.owners c (h.routines c hc))
  · rw [h.unload, h.exclusive]
    exact hI.locked
  · rw [h.external, h.unload]
    exact hI.external
  · rw [h.unload]
    exact fun hp => h.quiet (hI.quiet hp)

/-- The steps that unload safety needs: no call enters its routine after the external reference is gone
    (which its test preceded), and the unload gets the lock when no child thread is alive. -/
def Protected (s : Connection) : Action → Prop
  | .acquire _     => s.externalReferenceCount ≠ 0
  | .unloadAcquire => ∀ k, (s.children k).liveOf = none
  | _              => True

/-- A call that enters its routine under the invariant does so before the unload gets the lock. -/
theorem inv_acquire {s s' : Connection} {c : CallId} (hI : Inv s) (hC : s.externalReferenceCount ≠ 0)
    (h : next s (.acquire c) = some s') : Inv s' := by
  simp only [next] at h
  split at h
  · obtain ⟨lock, hlock, rfl⟩ := Option.map_eq_some_iff.mp h
    obtain ⟨hexcl, hshared, hexcl'⟩ := RwLock.acquireShared_some hlock
    -- the unload neither owns the lock (it was free) nor has given it back (the reference is still there)
    have hpast : s.unload.past = false := by
      have hdropped : s.unload.dropped = false := by
        by_contra hd
        exact hC (by rw [hI.external, if_pos (by simpa using hd)])
      cases hu : s.unload with
      | locked =>
          have hl := hI.locked (.inl hu)
          rw [hexcl] at hl
          cases hl
      | idle => rfl
      | waiting => rfl
      | decremented => rw [hu] at hdropped; cases hdropped
      | released => rw [hu] at hdropped; cases hdropped
      | returned => rw [hu] at hdropped; cases hdropped
    refine ⟨?_, ?_, hI.external, ?_⟩
    · intro c' hc'
      show Party.call c' ∈ lock.shared
      rw [hshared]
      rcases Connection.inRoutine_setCall _ hc' with ⟨rfl, -⟩ | ⟨-, hin⟩
      · exact List.mem_cons_self
      · exact List.mem_cons_of_mem _ (hI.owners c' hin)
    · intro hu
      have hl := hI.locked hu
      rw [hexcl] at hl
      cases hl
    · intro hp
      have hp' : s.unload.past = true := hp
      rw [hpast] at hp'
      cases hp'
  · cases h

/-- The unload gets the lock: the shared owners are gone, so no routine runs. -/
theorem inv_unloadAcquire {s s' : Connection} (hI : Inv s) (hC : ∀ k, (s.children k).liveOf = none)
    (h : next s .unloadAcquire = some s') : Inv s' := by
  simp only [next] at h
  split at h
  · rename_i hu
    obtain ⟨lock, hlock, rfl⟩ := Option.map_eq_some_iff.mp h
    obtain ⟨-, hshared, -, hexcl⟩ := RwLock.grant_some hlock
    -- a running routine owns the lock shared, and nobody does
    have hcalls : ∀ c, ¬ s.inRoutine c := by
      intro c hc
      have hmem := hI.owners c hc
      rw [hshared] at hmem
      exact List.not_mem_nil hmem
    refine ⟨?_, fun _ => hexcl, ?_, fun _ => ⟨hcalls, hC⟩⟩
    · exact fun c hc => absurd hc (hcalls c)
    · show s.externalReferenceCount = 1
      rw [hI.external, hu]
      rfl
  · cases h

/-- **One step keeps the invariant.** -/
theorem inv_next {s s' : Connection} {a : Action} (hI : Inv s) (hC : Protected s a)
    (h : next s a = some s') : Inv s' := by
  cases ha : a.startsNothing with
  | true => exact hI.of_startsNothing (startsNothing_next ha h)
  | false =>
      cases a with
      | acquire c => exact inv_acquire hI hC h
      | unloadAcquire => exact inv_unloadAcquire hI hC h
      | unloadRequest =>
          simp only [next] at h
          split at h
          · rename_i hu
            cases h
            refine ⟨hI.owners, ?_, ?_, ?_⟩
            · rintro (h | h) <;> cases h
            · show s.externalReferenceCount = 1
              rw [hI.external, hu]
              rfl
            · intro h
              cases h
          · cases h
      | unloadDecrement =>
          simp only [next] at h
          split at h
          · rename_i hu
            cases h
            refine ⟨hI.owners, fun _ => hI.locked (.inl hu), ?_, fun _ => hI.quiet (by rw [hu]; rfl)⟩
            show s.externalReferenceCount - 1 = 0
            rw [hI.external, hu]
            rfl
          · cases h
      | unloadRelease =>
          simp only [next] at h
          split at h
          · rename_i hu
            cases h
            refine ⟨hI.owners, ?_, ?_, fun _ => hI.quiet (by rw [hu]; rfl)⟩
            · rintro (h | h) <;> cases h
            · show s.externalReferenceCount = 0
              rw [hI.external, hu]
              rfl
          · cases h
      | unloadReturn =>
          simp only [next] at h
          split at h
          · rename_i hu
            cases h
            refine ⟨hI.owners, ?_, ?_, fun _ => hI.quiet (by rw [hu]; rfl)⟩
            · rintro (h | h) <;> cases h
            · show s.externalReferenceCount = 0
              rw [hI.external, hu]
              rfl
          · cases h
      | _ => cases ha

theorem unloadSafe_of_inv {s : Connection} (hI : Inv s) : UnloadSafe s := by
  intro hu
  obtain ⟨hcalls, hchildren⟩ := hI.quiet (by rw [hu]; rfl)
  refine ⟨hcalls, ?_⟩
  rintro k ⟨c, awaits, hk⟩
  have hlive := hchildren k
  rw [hk] at hlive
  cases hlive

/-- **Unload safety of every run** in which the unload protection protects: every state is unload safe. -/
theorem unloadSafe_run (as : List Action) {s : Connection} (hm : Meets next Protected .created as)
    (hr : run next .created as = some s) : UnloadSafe s :=
  unloadSafe_of_inv (run_induction (fun _ _ _ hI hC h => inv_next hI hC h) inv_created hm hr)

/-- A call with one child thread that is joined before the driver unloads. -/
def orderlyUnload : List Action :=
  [.enter 0, .test 0, .acquire 0, .create (.call 0) 0, .register 0 true, .resume (.call 0), .exit 0,
    .release 0, .beginJoin 0, .endJoin 0, .unloadRequest, .unloadAcquire, .unloadDecrement,
    .unloadRelease, .unloadReturn]

theorem unloadSafe_orderlyUnload :
    ∃ s, run next .created orderlyUnload = some s ∧ s.unload = .returned ∧ UnloadSafe s := by
  have hm : Meets next Protected .created orderlyUnload := by
    -- up to the entry into the routine, and then up to the unload's acquisition
    refine .cons rfl trivial (.cons rfl trivial (.cons rfl Nat.one_ne_zero ?_))
    refine .cons rfl trivial (.cons rfl trivial (.cons rfl trivial (.cons rfl trivial ?_)))
    refine .cons rfl trivial (.cons rfl trivial (.cons rfl trivial (.cons rfl trivial ?_)))
    refine .cons rfl (fun k => ?_) (.cons rfl trivial (.cons rfl trivial (.cons rfl trivial trivial)))
    rcases k with _ | k <;> rfl
  exact ⟨_, rfl, rfl, unloadSafe_run orderlyUnload hm rfl⟩

/-- The unload gets the lock between the test and the acquisition of a call: the routine starts after the
    dereference has returned. -/
def lateEntry : List Action :=
  [.enter 0, .test 0, .unloadRequest, .unloadAcquire, .unloadDecrement, .unloadRelease, .unloadReturn,
    .acquire 0]

/-- A routine ends while its child thread runs: the unload does not wait for the join. -/
def orphanedChild : List Action :=
  [.enter 0, .test 0, .acquire 0, .create (.call 0) 0, .register 0 true, .resume (.call 0), .release 0,
    .unloadRequest, .unloadAcquire, .unloadDecrement, .unloadRelease, .unloadReturn]

/-- Both windows are open: a late routine and an orphaned child run after the dereference returned. -/
theorem unload_unsafe :
    (∃ s, run next .created lateEntry = some s ∧ ¬ UnloadSafe s) ∧
    ∃ s, run next .created orphanedChild = some s ∧ ¬ UnloadSafe s := by
  constructor
  · exact ⟨_, rfl, fun h => (h rfl).1 0 ⟨none, rfl⟩⟩
  · exact ⟨_, rfl, fun h => (h rfl).2 0 ⟨0, none, rfl⟩⟩

end Cfix.Unload
