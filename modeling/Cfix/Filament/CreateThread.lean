import Cfix.Base.Hresult
import Cfix.Lib.Faults

/-!
# `Filament.CreateThread` — the creation of a child thread (`cfix/thread.c`)

`CfixCreateThread2` and, on the new thread, `CfixsThreadStart`, step by step. The two share the start parameters, a
local variable of the creator, so a step that uses them after the creator has returned goes wrong; so does one that
reads a member before it has been set. The handles that the two open and close, and the callbacks and the routine that
the new thread calls, are their effects.
-/

namespace Cfix.CreateThread

open Transition

abbrev Pvoid := Nat

def cfixThreadFlagCrt     : BitVec 32 := 1#32
def errorInvalidParameter : BitVec 32 := 87#32

/-! ## Data -/

/-- The handles that a call can lead to; the new thread duplicates its own one for the filament. -/
inductive Handle where
  | initializationCompleted
  | thread
  | duplicate
  deriving DecidableEq, Repr

inductive Effect where
  | opened (h : Handle)
  | closed (h : Handle)
  | beforeChildThreadStart (context : Pvoid)
  | startRoutine (address parameter : Pvoid)
  | afterChildThreadFinish (context : Pvoid)
  deriving DecidableEq, Repr

/-- A call of `CfixCreateThread2`, with the outcomes of what it and the new thread call. The creation flags are those
    that let the thread start. -/
structure Call where
  startAddress         : Pvoid
  userParameter        : Pvoid
  flags                : BitVec 32
  /-- The result of `CfixpGetCurrentFilament`. The handle by which an anonymous creator attaches itself to the default
      filament is the filament's. -/
  getCurrentFilament   : HRESULT
  /-- `CreateEvent` returns a handle. -/
  createEvent          : Bool
  /-- The result of the callback `CreateChildThread`, with `ContextForChild`. -/
  createChildThread    : HRESULT
  contextForChild      : Pvoid
  /-- `_beginthreadex` or `CreateThread` returns a handle. -/
  createThread         : Bool
  /-- The result of `CfixsGetCurrentThreadHandle` on the new thread. -/
  getThreadHandle      : HRESULT
  /-- The result of `CfixsRegisterChildThreadFilament` for the new thread. -/
  registerChildThread  : HRESULT
  deriving DecidableEq, Repr

/-- `CFIXP_THREAD_START_PARAMETERS`; the filament, which is that of the creator, is left out. `none` is a member that
    has not been set, or `NULL`. -/
structure StartParameters where
  startAddress            : Option Pvoid
  userParameter           : Option Pvoid
  parentContext           : Option Pvoid
  initializationCompleted : Option Handle
  initializationResult    : Option HRESULT
  deriving DecidableEq, Repr

/-- Where `CfixCreateThread2` stands. -/
inductive CreatorPc where
  | called
  | filamentObtained
  | eventCreated
  | contextObtained
  /-- In `WaitForSingleObject`. -/
  | waiting
  | waited
  | eventClosed
  | returned (thread : Option Handle)
  deriving DecidableEq, Repr

/-- Where `CfixsThreadStart` stands, with its copy of the parameters. -/
inductive ChildPc where
  | absent
  | started
  | copied (copy : StartParameters)
  /-- In `CfixpSetCurrentFilament`, with a handle. -/
  | duplicated (copy : StartParameters)
  | filamentSet (copy : StartParameters) (result : HRESULT)
  | initialized (copy : StartParameters)
  /-- `SetEvent` comes next; `runs` says whether the routine is called afterwards. -/
  | completing (copy : StartParameters) (runs : Bool)
  | signalling (copy : StartParameters) (event : Handle) (runs : Bool)
  | running (copy : StartParameters)
  | leaving (copy : StartParameters)
  | finished
  deriving DecidableEq, Repr

structure State where
  creator        : CreatorPc
  child          : ChildPc
  /-- The creator's local variable. -/
  parameters     : Option StartParameters
  /-- The state of the event. -/
  signalled      : Bool
  /-- What the function has set with `SetLastError`. -/
  lastError      : Option (BitVec 32)
  creatorEffects : List Effect
  childEffects   : List Effect
  deriving DecidableEq, Repr

inductive Party where
  | creator
  | child
  deriving DecidableEq, Repr

def State.start : State where
  creator        := .called
  child          := .absent
  parameters     := some ⟨none, none, none, none, none⟩
  signalled      := false
  lastError      := none
  creatorEffects := []
  childEffects   := []

/-! ## Steps -/

/-- The creator returns, and its local variables are gone. -/
def State.returns (s : State) (thread : Option Handle) (lastError : Option (BitVec 32)) : State :=
  { s with creator := .returned thread, parameters := none, lastError := lastError }

/-- What the creator does to its local variable. -/
def State.setParameters (s : State) (f : StartParameters → StartParameters) : State :=
  { s with parameters := s.parameters.map f }

def State.creatorAt (s : State) (pc : CreatorPc) (effects : List Effect) : State :=
  { s with creator := pc, creatorEffects := s.creatorEffects ++ effects }

def State.childAt (s : State) (pc : ChildPc) (effects : List Effect) : State :=
  { s with child := pc, childEffects := s.childEffects ++ effects }

section Steps

variable (c : Call)

/-- `CfixCreateThread2`. -/
def creatorStep (s : State) : Taken State :=
  match s.creator with
  | .called =>
    if cfixThreadFlagCrt < c.flags then .done (s.returns none (some errorInvalidParameter))
    else if failed c.getCurrentFilament then .done (s.returns none (some c.getCurrentFilament))
    else .done (s.creatorAt .filamentObtained [])
  | .filamentObtained =>
    if c.createEvent then
      .done ((s.creatorAt .eventCreated [.opened .initializationCompleted]).setParameters (fun p =>
        { p with
          startAddress            := some c.startAddress
          userParameter           := some c.userParameter
          initializationCompleted := some .initializationCompleted }))
    -- keeps the last error
    else .done (s.returns none none)
  | .eventCreated =>
    if failed c.createChildThread then .done (s.returns none (some c.createChildThread))
    else
      .done ((s.creatorAt .contextObtained []).setParameters (fun p =>
        { p with parentContext := some c.contextForChild }))
  | .contextObtained =>
    if c.createThread then .done ((s.creatorAt .waiting [.opened .thread]).childAt .started [])
    else .done (s.returns none none)
  | .waiting =>
    -- the event is reset when the wait ends
    if s.signalled then .done { s.creatorAt .waited [] with signalled := false } else .disabled
  | .waited =>
    .done ((s.creatorAt .eventClosed [.closed .initializationCompleted]).setParameters (fun p =>
      { p with initializationCompleted := none }))
  | .eventClosed =>
    .of (s.parameters.bind StartParameters.initializationResult) (fun hr =>
      if failed hr then ({ s with creatorEffects := s.creatorEffects ++ [Effect.closed .thread] }).returns none (some hr)
      else s.returns (some .thread) none)
  | .returned _ => .disabled

/-- `CfixsThreadStart`. -/
def childStep (s : State) : Taken State :=
  match s.child with
  | .absent => .disabled
  | .started => .of s.parameters (fun p => s.childAt (.copied p) [])
  | .copied copy =>
    -- CfixpInitializeThreadId and CfixpSetCurrentFilament take the filament from the parameters
    .of s.parameters (fun _ =>
      if failed c.getThreadHandle then s.childAt (.filamentSet copy c.getThreadHandle) []
      else s.childAt (.duplicated copy) [.opened .duplicate])
  | .duplicated copy =>
    if failed c.registerChildThread then .done (s.childAt (.filamentSet copy c.registerChildThread) [.closed .duplicate])
    else .done (s.childAt (.filamentSet copy sOk) [])
  | .filamentSet copy result =>
    .of s.parameters (fun p =>
      { s.childAt (.initialized copy) [] with parameters := some { p with initializationResult := some result } })
  | .initialized copy =>
    match s.parameters with
    | none   => .faults
    | some p =>
      .of p.initializationResult (fun hr =>
        if failed hr then s.childAt (.completing copy false) []
        else s.childAt (.completing copy true) (p.parentContext.toList.map .beforeChildThreadStart))
  | .completing copy runs =>
    .of (s.parameters.bind StartParameters.initializationCompleted) (fun event =>
      s.childAt (.signalling copy event runs) [])
  | .signalling copy event runs =>
    if s.creatorEffects.contains (Effect.closed event) then .faults
    else .done { s.childAt (if runs then .running copy else .finished) [] with signalled := true }
  | .running copy =>
    .of copy.startAddress (fun address =>
      s.childAt (.leaving copy) (copy.userParameter.toList.map (.startRoutine address)))
  | .leaving copy =>
    .done (s.childAt .finished (copy.parentContext.toList.map .afterChildThreadFinish))
  | .finished => .disabled

def step (s : State) : Party → Taken State
  | .creator => creatorStep c s
  | .child   => childStep c s

end Steps

/-! ## Outcomes -/

section Outcomes

variable (c : Call)

/-- The call gets as far as `CreateEvent`, which succeeds. -/
def Call.opensEvent : Bool := !decide (cfixThreadFlagCrt < c.flags) && !failed c.getCurrentFilament && c.createEvent

/-- The call starts a thread. -/
def Call.startsThread : Bool := c.opensEvent && !failed c.createChildThread && c.createThread

/-- The result of `CfixpSetCurrentFilament` on the new thread. -/
def Call.initializationResult : HRESULT :=
  if failed c.getThreadHandle then c.getThreadHandle
  else if failed c.registerChildThread then c.registerChildThread
  else sOk

/-- The parameters that the new thread is started with. -/
def Call.startParameters : StartParameters where
  startAddress            := some c.startAddress
  userParameter           := some c.userParameter
  parentContext           := some c.contextForChild
  initializationCompleted := some .initializationCompleted
  initializationResult    := none

/-- What the new thread does until its filament is set. -/
def Call.registrationEffects : List Effect :=
  if failed c.getThreadHandle then []
  else if failed c.registerChildThread then [.opened .duplicate, .closed .duplicate]
  else [.opened .duplicate]

/-- The parameters once the result is set. -/
def Call.initializedParameters : StartParameters :=
  { c.startParameters with initializationResult := some c.initializationResult }

end Outcomes

/-! ## The invariant -/

section Invariant

variable (c : Call)

/-- What the new thread has done when it comes to `SetEvent`. -/
def Call.preparationEffects : List Effect :=
  if failed c.initializationResult then c.registrationEffects
  else c.registrationEffects ++ [.beforeChildThreadStart c.contextForChild]

/-- The new thread while its creator waits. -/
def State.ChildStarting (s : State) : ChildPc → Prop
  | .started => s.parameters = some c.startParameters ∧ s.childEffects = []
  | .copied copy =>
    copy = c.startParameters ∧ s.parameters = some c.startParameters ∧ s.childEffects = []
  | .duplicated copy =>
    copy = c.startParameters ∧ s.parameters = some c.startParameters ∧ failed c.getThreadHandle = false ∧
      s.childEffects = [.opened .duplicate]
  | .filamentSet copy result =>
    copy = c.startParameters ∧ s.parameters = some c.startParameters ∧ result = c.initializationResult ∧
      s.childEffects = c.registrationEffects
  | .initialized copy =>
    copy = c.startParameters ∧ s.parameters = some c.initializedParameters ∧ s.childEffects = c.registrationEffects
  | .completing copy runs =>
    copy = c.startParameters ∧ s.parameters = some c.initializedParameters ∧ runs = !failed c.initializationResult ∧
      s.childEffects = c.preparationEffects
  | .signalling copy event runs =>
    copy = c.startParameters ∧ s.parameters = some c.initializedParameters ∧ event = .initializationCompleted ∧
      runs = (!failed c.initializationResult) ∧ s.childEffects = c.preparationEffects
  | _ => False

/-- The new thread after it has set the event. -/
def State.ChildSignalled (s : State) : ChildPc → Prop
  | .running copy =>
    copy = c.startParameters ∧ failed c.initializationResult = false ∧ s.childEffects = c.preparationEffects
  | .leaving copy =>
    copy = c.startParameters ∧ failed c.initializationResult = false ∧
      s.childEffects = c.preparationEffects ++ [.startRoutine c.startAddress c.userParameter]
  | .finished =>
    s.childEffects = if failed c.initializationResult then c.preparationEffects
      else c.preparationEffects ++
        [.startRoutine c.startAddress c.userParameter, .afterChildThreadFinish c.contextForChild]
  | _ => False

/-- No thread has been started. -/
structure State.Alone (s : State) (effects : List Effect) : Prop where
  child          : s.child = .absent
  creatorEffects : s.creatorEffects = effects
  childEffects   : s.childEffects = []

/-- What holds where the creator stands. -/
def State.Inv (s : State) : Prop :=
  match s.creator with
  | .called => s = .start
  | .filamentObtained =>
    (c.createEvent = true → c.opensEvent = true) ∧ s.Alone [] ∧ s.signalled = false ∧
      s.parameters = some ⟨none, none, none, none, none⟩
  | .eventCreated =>
    c.opensEvent = true ∧ s.Alone [.opened .initializationCompleted] ∧ s.signalled = false ∧
      s.parameters = some { c.startParameters with parentContext := none }
  | .contextObtained =>
    c.opensEvent = true ∧ failed c.createChildThread = false ∧ s.Alone [.opened .initializationCompleted] ∧
      s.signalled = false ∧ s.parameters = some c.startParameters
  | .waiting =>
    c.startsThread = true ∧ s.creatorEffects = [.opened .initializationCompleted, .opened .thread] ∧
      (s.signalled = false ∧ s.ChildStarting c s.child ∨
        s.signalled = true ∧ s.parameters = some c.initializedParameters ∧ s.ChildSignalled c s.child)
  | .waited =>
    c.startsThread = true ∧ s.creatorEffects = [.opened .initializationCompleted, .opened .thread] ∧
      s.parameters = some c.initializedParameters ∧ s.ChildSignalled c s.child
  | .eventClosed =>
    c.startsThread = true ∧
      s.creatorEffects = [.opened .initializationCompleted, .opened .thread, .closed .initializationCompleted] ∧
      s.parameters = some { c.initializedParameters with initializationCompleted := none } ∧ s.ChildSignalled c s.child
  | .returned thread =>
    (c.startsThread = false ∧ thread = none ∧
      s.Alone (if c.opensEvent then [.opened .initializationCompleted] else [])) ∨
    (c.startsThread = true ∧ s.ChildSignalled c s.child ∧
      thread = (if failed c.initializationResult then none else some .thread) ∧
      s.creatorEffects = [.opened .initializationCompleted, .opened .thread, .closed .initializationCompleted] ++
        if failed c.initializationResult then [.closed .thread] else [])

end Invariant

variable {c : Call} {s s' : State}

/-! ## The steps keep the invariant -/

theorem State.alone_start : State.start.Alone [] := ⟨rfl, rfl, rfl⟩

theorem startsThread_of_not_opensEvent (h : c.opensEvent = false) : c.startsThread = false := by
  rw [Call.startsThread, h]
  rfl

/-- A call that does not get a thread returns. -/
theorem State.inv_returns_alone {effects : List Effect} (hthread : c.startsThread = false) (halone : s.Alone effects)
    (heffects : effects = if c.opensEvent then [.opened .initializationCompleted] else []) (lastError : Option (BitVec 32)) :
    (s.returns none lastError).Inv c := by
  show _ ∨ _
  left
  rw [← heffects]
  exact ⟨hthread, rfl, halone.child, halone.creatorEffects, halone.childEffects⟩

theorem keeps_called (h : s.Inv c) (hpc : s.creator = .called) : (creatorStep c s).Keeps (State.Inv c) := by
  unfold State.Inv at h
  rw [hpc] at h
  simp only at h
  subst h
  unfold creatorStep
  simp only [State.start]
  split
  case isTrue hflags =>
    have hopens : c.opensEvent = false := by
      simp [Call.opensEvent, hflags]
    exact State.inv_returns_alone (startsThread_of_not_opensEvent hopens) State.alone_start (by rw [hopens]; rfl) _
  case isFalse hflags =>
    split
    case isTrue hfilament =>
      have hopens : c.opensEvent = false := by
        simp [Call.opensEvent, hfilament]
      exact State.inv_returns_alone (startsThread_of_not_opensEvent hopens) State.alone_start (by rw [hopens]; rfl) _
    case isFalse hfilament =>
      refine ⟨?_, ⟨rfl, rfl, rfl⟩, rfl, rfl⟩
      intro hevent
      simp [Call.opensEvent, hflags, hfilament, hevent]

theorem keeps_creatorStep (h : s.Inv c) : (creatorStep c s).Keeps (State.Inv c) := by
  cases hpc : s.creator with
  | called => exact keeps_called h hpc
  | filamentObtained =>
      unfold State.Inv at h
      rw [hpc] at h
      obtain ⟨hopens, halone, hsignalled, hparameters⟩ := h
      unfold creatorStep
      rw [hpc]
      simp only
      split
      case isTrue hevent =>
        refine ⟨hopens hevent, ⟨halone.child, ?_, halone.childEffects⟩, hsignalled, ?_⟩
        · show s.creatorEffects ++ _ = _
          rw [halone.creatorEffects]
          rfl
        · show s.parameters.map _ = _
          rw [hparameters]
          rfl
      case isFalse hevent =>
        have hnot : c.opensEvent = false := by
          simp [Call.opensEvent, hevent]
        exact State.inv_returns_alone (startsThread_of_not_opensEvent hnot) halone (by rw [hnot]; rfl) none
  | eventCreated =>
      unfold State.Inv at h
      rw [hpc] at h
      obtain ⟨hopens, halone, hsignalled, hparameters⟩ := h
      unfold creatorStep
      rw [hpc]
      simp only
      split
      case isTrue hcallback =>
        have hthread : c.startsThread = false := by
          simp [Call.startsThread, hcallback]
        exact State.inv_returns_alone hthread halone (by rw [hopens]; rfl) _
      case isFalse hcallback =>
        refine ⟨hopens, Bool.eq_false_iff.mpr hcallback, ⟨halone.child, ?_, halone.childEffects⟩, hsignalled, ?_⟩
        · show s.creatorEffects ++ _ = _
          rw [halone.creatorEffects]
          rfl
        · show s.parameters.map _ = _
          rw [hparameters]
          rfl
  | contextObtained =>
      unfold State.Inv at h
      rw [hpc] at h
      obtain ⟨hopens, hcallback, halone, hsignalled, hparameters⟩ := h
      unfold creatorStep
      rw [hpc]
      simp only
      split
      case isTrue hcreated =>
        refine ⟨by simp [Call.startsThread, hopens, hcallback, hcreated], ?_, .inl ⟨hsignalled, hparameters, ?_⟩⟩
        · show s.creatorEffects ++ _ = _
          rw [halone.creatorEffects]
          rfl
        · show s.childEffects ++ [] = _
          rw [halone.childEffects]
          rfl
      case isFalse hcreated =>
        have hthread : c.startsThread = false := by
          simp [Call.startsThread, hcreated]
        exact State.inv_returns_alone hthread halone (by rw [hopens]; rfl) none
  | waiting =>
      unfold State.Inv at h
      rw [hpc] at h
      obtain ⟨hthread, heffects, hchild⟩ := h
      unfold creatorStep
      rw [hpc]
      simp only
      split
      case isTrue hsignalled =>
        rcases hchild with ⟨hnot, -⟩ | ⟨-, hparameters, hchild⟩
        · rw [hsignalled] at hnot
          cases hnot
        · refine ⟨hthread, ?_, hparameters, hchild⟩
          show s.creatorEffects ++ [] = _
          rw [heffects]
          rfl
      case isFalse => trivial
  | waited =>
      unfold State.Inv at h
      rw [hpc] at h
      obtain ⟨hthread, heffects, hparameters, hchild⟩ := h
      unfold creatorStep
      rw [hpc]
      refine ⟨hthread, ?_, ?_, hchild⟩
      · show s.creatorEffects ++ _ = _
        rw [heffects]
        rfl
      · show s.parameters.map _ = _
        rw [hparameters]
        rfl
  | eventClosed =>
      unfold State.Inv at h
      rw [hpc] at h
      obtain ⟨hthread, heffects, hparameters, hchild⟩ := h
      unfold creatorStep
      rw [hpc]
      simp only [hparameters, Option.bind_some, Call.initializedParameters, Taken.of]
      by_cases hfailed : failed c.initializationResult = true
      · rw [if_pos hfailed]
        refine .inr ⟨hthread, hchild, by rw [if_pos hfailed], ?_⟩
        rw [if_pos hfailed]
        show s.creatorEffects ++ _ = _
        rw [heffects]
      · rw [if_neg hfailed]
        refine .inr ⟨hthread, hchild, by rw [if_neg hfailed], ?_⟩
        rw [if_neg hfailed]
        show s.creatorEffects = _
        rw [heffects]
        rfl
  | returned thread =>
      unfold creatorStep
      rw [hpc]
      trivial

/-- A step of a thread that has set the event concerns that thread only. -/
structure State.ChildWent (c : Call) (s s' : State) : Prop where
  child          : s'.ChildSignalled c s'.child
  creator        : s'.creator = s.creator
  parameters     : s'.parameters = s.parameters
  signalled      : s'.signalled = s.signalled
  creatorEffects : s'.creatorEffects = s.creatorEffects

theorem childStep_signalled (h : s.ChildSignalled c s.child) : (childStep c s).Keeps (s.ChildWent c) := by
  cases hpc : s.child with
  | running copy =>
      rw [hpc] at h
      obtain ⟨rfl, hresult, heffects⟩ := h
      unfold childStep
      rw [hpc]
      refine ⟨⟨rfl, hresult, ?_⟩, rfl, rfl, rfl, rfl⟩
      show s.childEffects ++ _ = _
      rw [heffects]
      rfl
  | leaving copy =>
      rw [hpc] at h
      obtain ⟨rfl, hresult, heffects⟩ := h
      unfold childStep
      rw [hpc]
      refine ⟨?_, rfl, rfl, rfl, rfl⟩
      show s.childEffects ++ _ = _
      rw [heffects, hresult, List.append_assoc]
      rfl
  | finished =>
      unfold childStep
      rw [hpc]
      trivial
  | _ =>
      rw [hpc] at h
      exact h.elim

/-- Before it sets the event, the new thread uses the parameters only while its creator waits. -/
theorem keeps_starting (hthread : c.startsThread = true) (hcreator : s.creator = .waiting)
    (heffects : s.creatorEffects = [.opened .initializationCompleted, .opened .thread]) (hsignalled : s.signalled = false)
    (h : s.ChildStarting c s.child) : (childStep c s).Keeps (State.Inv c) := by
  have hinv : ∀ s' : State, s'.creator = s.creator → s'.creatorEffects = s.creatorEffects →
      (s'.signalled = false ∧ s'.ChildStarting c s'.child ∨
        s'.signalled = true ∧ s'.parameters = some c.initializedParameters ∧ s'.ChildSignalled c s'.child) → s'.Inv c := by
    intro s' hcreator' heffects' hchild
    unfold State.Inv
    rw [hcreator', hcreator]
    exact ⟨hthread, heffects'.trans heffects, hchild⟩
  cases hpc : s.child with
  | started =>
      rw [hpc] at h
      obtain ⟨hparameters, hnil⟩ := h
      unfold childStep
      rw [hpc]
      simp only [hparameters, Taken.of]
      show State.Inv c _
      refine hinv _ rfl rfl (.inl ⟨hsignalled, rfl, hparameters, ?_⟩)
      show s.childEffects ++ [] = []
      rw [hnil]
      rfl
  | copied copy =>
      rw [hpc] at h
      obtain ⟨rfl, hparameters, hnil⟩ := h
      unfold childStep
      rw [hpc]
      simp only [hparameters, Taken.of]
      apply hinv _ (by split <;> rfl) (by split <;> rfl)
      left
      by_cases hduplicate : failed c.getThreadHandle = true
      · rw [if_pos hduplicate]
        refine ⟨hsignalled, rfl, hparameters, by rw [Call.initializationResult, if_pos hduplicate], ?_⟩
        show s.childEffects ++ [] = _
        rw [hnil, Call.registrationEffects, if_pos hduplicate]
        rfl
      · rw [if_neg hduplicate]
        refine ⟨hsignalled, rfl, hparameters, Bool.eq_false_iff.mpr hduplicate, ?_⟩
        show s.childEffects ++ _ = _
        rw [hnil]
        rfl
  | duplicated copy =>
      rw [hpc] at h
      obtain ⟨rfl, hparameters, hduplicate, hopened⟩ := h
      unfold childStep
      rw [hpc]
      by_cases hregister : failed c.registerChildThread = true
      · simp only [if_pos hregister]
        show State.Inv c _
        refine hinv _ rfl rfl (.inl ⟨hsignalled, rfl, hparameters, ?_, ?_⟩)
        · rw [Call.initializationResult, hduplicate, if_pos hregister]
          rfl
        · show s.childEffects ++ _ = _
          rw [hopened, Call.registrationEffects, hduplicate, if_pos hregister]
          rfl
      · simp only [if_neg hregister]
        show State.Inv c _
        refine hinv _ rfl rfl (.inl ⟨hsignalled, rfl, hparameters, ?_, ?_⟩)
        · rw [Call.initializationResult, hduplicate, if_neg hregister]
          rfl
        · show s.childEffects ++ _ = _
          rw [hopened, Call.registrationEffects, hduplicate, if_neg hregister]
          rfl
  | filamentSet copy result =>
      rw [hpc] at h
      obtain ⟨rfl, hparameters, rfl, hregistered⟩ := h
      unfold childStep
      rw [hpc]
      simp only [hparameters, Taken.of]
      show State.Inv c _
      refine hinv _ rfl rfl (.inl ⟨hsignalled, rfl, rfl, ?_⟩)
      show s.childEffects ++ [] = _
      rw [hregistered, List.append_nil]
  | initialized copy =>
      rw [hpc] at h
      obtain ⟨rfl, hparameters, hregistered⟩ := h
      unfold childStep
      rw [hpc]
      simp only [hparameters, Taken.of, Call.initializedParameters]
      by_cases hfailed : failed c.initializationResult = true
      · rw [if_pos hfailed]
        show State.Inv c _
        refine hinv _ rfl rfl (.inl ⟨hsignalled, rfl, hparameters, by rw [hfailed]; rfl, ?_⟩)
        show s.childEffects ++ [] = _
        rw [hregistered, List.append_nil, Call.preparationEffects, if_pos hfailed]
      · rw [if_neg hfailed]
        show State.Inv c _
        refine hinv _ rfl rfl (.inl ⟨hsignalled, rfl, hparameters, by rw [Bool.eq_false_iff.mpr hfailed]; rfl, ?_⟩)
        show s.childEffects ++ _ = _
        rw [hregistered, Call.preparationEffects, if_neg hfailed]
        rfl
  | completing copy runs =>
      rw [hpc] at h
      obtain ⟨rfl, hparameters, hruns, hprepared⟩ := h
      unfold childStep
      rw [hpc]
      simp only [hparameters, Taken.of, Option.bind_some, Call.initializedParameters, Call.startParameters]
      show State.Inv c _
      refine hinv _ rfl rfl (.inl ⟨hsignalled, rfl, hparameters, rfl, hruns, ?_⟩)
      show s.childEffects ++ [] = _
      rw [hprepared, List.append_nil]
  | signalling copy event runs =>
      rw [hpc] at h
      obtain ⟨rfl, hparameters, rfl, hruns, hprepared⟩ := h
      unfold childStep
      rw [hpc]
      have hopen : s.creatorEffects.contains (Effect.closed .initializationCompleted) = false := by
        rw [heffects]
        rfl
      simp only [hopen, Bool.false_eq_true, if_false]
      show State.Inv c _
      refine hinv _ rfl rfl (.inr ⟨rfl, hparameters, ?_⟩)
      by_cases hfailed : failed c.initializationResult = true
      · rw [hruns, hfailed]
        show s.childEffects ++ [] = _
        rw [hprepared, List.append_nil, if_pos hfailed]
      · rw [hruns, Bool.eq_false_iff.mpr hfailed]
        refine ⟨rfl, Bool.eq_false_iff.mpr hfailed, ?_⟩
        show s.childEffects ++ [] = _
        rw [hprepared, List.append_nil]
  | _ =>
      rw [hpc] at h
      exact h.elim

theorem keeps_absent (h : s.child = .absent) : (childStep c s).Keeps (State.Inv c) := by
  unfold childStep
  rw [h]
  trivial

theorem keeps_childStep (h : s.Inv c) : (childStep c s).Keeps (State.Inv c) := by
  unfold State.Inv at h
  cases hpc : s.creator with
  | called =>
      rw [hpc] at h
      apply keeps_absent
      rw [h]
      rfl
  | filamentObtained =>
      rw [hpc] at h
      exact keeps_absent h.2.1.child
  | eventCreated =>
      rw [hpc] at h
      exact keeps_absent h.2.1.child
  | contextObtained =>
      rw [hpc] at h
      exact keeps_absent h.2.2.1.child
  | waiting =>
      rw [hpc] at h
      obtain ⟨hthread, heffects, ⟨hsignalled, hchild⟩ | ⟨hsignalled, hparameters, hchild⟩⟩ := h
      · exact keeps_starting hthread hpc heffects hsignalled hchild
      · apply (childStep_signalled hchild).imp
        intro s' hwent
        unfold State.Inv
        rw [hwent.creator, hpc]
        exact ⟨hthread, hwent.creatorEffects.trans heffects,
          .inr ⟨hwent.signalled.trans hsignalled, hwent.parameters.trans hparameters, hwent.child⟩⟩
  | waited =>
      rw [hpc] at h
      obtain ⟨hthread, heffects, hparameters, hchild⟩ := h
      apply (childStep_signalled hchild).imp
      intro s' hwent
      unfold State.Inv
      rw [hwent.creator, hpc]
      exact ⟨hthread, hwent.creatorEffects.trans heffects, hwent.parameters.trans hparameters, hwent.child⟩
  | eventClosed =>
      rw [hpc] at h
      obtain ⟨hthread, heffects, hparameters, hchild⟩ := h
      apply (childStep_signalled hchild).imp
      intro s' hwent
      unfold State.Inv
      rw [hwent.creator, hpc]
      exact ⟨hthread, hwent.creatorEffects.trans heffects, hwent.parameters.trans hparameters, hwent.child⟩
  | returned thread =>
      rw [hpc] at h
      rcases h with ⟨-, -, halone⟩ | ⟨hthread, hchild, hreturned, heffects⟩
      · exact keeps_absent halone.child
      · apply (childStep_signalled hchild).imp
        intro s' hwent
        unfold State.Inv
        rw [hwent.creator, hpc]
        exact .inr ⟨hthread, hwent.child, hreturned, hwent.creatorEffects.trans heffects⟩

theorem keeps_step (h : s.Inv c) (party : Party) : (step c s party).Keeps (State.Inv c) := by
  cases party with
  | creator => exact keeps_creatorStep h
  | child   => exact keeps_childStep h

/-! ## The call returns -/

/-- How far the creator has to go. -/
def CreatorPc.remaining : CreatorPc → Nat
  | .called           => 7
  | .filamentObtained => 6
  | .eventCreated     => 5
  | .contextObtained  => 4
  | .waiting          => 3
  | .waited           => 2
  | .eventClosed      => 1
  | .returned _       => 0

def ChildPc.remaining : ChildPc → Nat
  | .started          => 7
  | .copied _         => 6
  | .duplicated _     => 5
  | .filamentSet _ _  => 4
  | .initialized _    => 3
  | .completing _ _   => 2
  | .signalling _ _ _ => 1
  | _                 => 0

def State.remaining (s : State) : Nat := s.creator.remaining * 8 + s.child.remaining

/-- The creator goes on unless it waits. -/
theorem creatorStep_advances (h : s.Inv c) (hreturned : ∀ thread, s.creator ≠ .returned thread)
    (hwaiting : s.creator = .waiting → s.signalled = true) :
    ∃ s', creatorStep c s = .done s' ∧ s'.remaining < s.remaining := by
  unfold State.Inv at h
  unfold creatorStep State.remaining
  cases hpc : s.creator with
  | called =>
      rw [hpc] at h
      simp only at h
      subst h
      simp only
      split
      · exact ⟨_, rfl, by show 0 * 8 + 0 < 7 * 8 + 0; omega⟩
      · split
        · exact ⟨_, rfl, by show 0 * 8 + 0 < 7 * 8 + 0; omega⟩
        · exact ⟨_, rfl, by show 6 * 8 + 0 < 7 * 8 + 0; omega⟩
  | filamentObtained =>
      simp only
      split
      · exact ⟨_, rfl, by show 5 * 8 + s.child.remaining < 6 * 8 + s.child.remaining; omega⟩
      · exact ⟨_, rfl, by show 0 * 8 + s.child.remaining < 6 * 8 + s.child.remaining; omega⟩
  | eventCreated =>
      simp only
      split
      · exact ⟨_, rfl, by show 0 * 8 + s.child.remaining < 5 * 8 + s.child.remaining; omega⟩
      · exact ⟨_, rfl, by show 4 * 8 + s.child.remaining < 5 * 8 + s.child.remaining; omega⟩
  | contextObtained =>
      simp only
      split
      · exact ⟨_, rfl, by show 3 * 8 + 7 < 4 * 8 + s.child.remaining; omega⟩
      · exact ⟨_, rfl, by show 0 * 8 + s.child.remaining < 4 * 8 + s.child.remaining; omega⟩
  | waiting =>
      simp only [hwaiting hpc, if_true]
      exact ⟨_, rfl, by show 2 * 8 + s.child.remaining < 3 * 8 + s.child.remaining; omega⟩
  | waited => exact ⟨_, rfl, by show 1 * 8 + s.child.remaining < 2 * 8 + s.child.remaining; omega⟩
  | eventClosed =>
      rw [hpc] at h
      simp only [h.2.2.1, Option.bind_some, Call.initializedParameters, Taken.of]
      refine ⟨_, rfl, ?_⟩
      split
      · show 0 * 8 + s.child.remaining < 1 * 8 + s.child.remaining
        omega
      · show 0 * 8 + s.child.remaining < 1 * 8 + s.child.remaining
        omega
  | returned thread => exact absurd hpc (hreturned thread)

/-- The new thread gets to `SetEvent`. -/
theorem childStep_advances (h : s.Inv c) (hwaiting : s.creator = .waiting) (hsignalled : s.signalled = false) :
    ∃ s', childStep c s = .done s' ∧ s'.remaining < s.remaining := by
  unfold State.Inv at h
  rw [hwaiting] at h
  obtain ⟨-, heffects, ⟨-, hchild⟩ | ⟨hset, -⟩⟩ := h
  · unfold childStep State.remaining
    cases hpc : s.child with
    | started =>
        rw [hpc] at hchild
        simp only [hchild.1, Taken.of]
        exact ⟨_, rfl, by show s.creator.remaining * 8 + 6 < s.creator.remaining * 8 + 7; omega⟩
    | copied copy =>
        rw [hpc] at hchild
        simp only [hchild.2.1, Taken.of]
        refine ⟨_, rfl, ?_⟩
        split
        · show s.creator.remaining * 8 + 4 < s.creator.remaining * 8 + 6
          omega
        · show s.creator.remaining * 8 + 5 < s.creator.remaining * 8 + 6
          omega
    | duplicated copy =>
        simp only
        split
        · exact ⟨_, rfl, by show s.creator.remaining * 8 + 4 < s.creator.remaining * 8 + 5; omega⟩
        · exact ⟨_, rfl, by show s.creator.remaining * 8 + 4 < s.creator.remaining * 8 + 5; omega⟩
    | filamentSet copy result =>
        rw [hpc] at hchild
        simp only [hchild.2.1, Taken.of]
        exact ⟨_, rfl, by show s.creator.remaining * 8 + 3 < s.creator.remaining * 8 + 4; omega⟩
    | initialized copy =>
        rw [hpc] at hchild
        simp only [hchild.2.1, Taken.of, Call.initializedParameters]
        refine ⟨_, rfl, ?_⟩
        split
        · show s.creator.remaining * 8 + 2 < s.creator.remaining * 8 + 3
          omega
        · show s.creator.remaining * 8 + 2 < s.creator.remaining * 8 + 3
          omega
    | completing copy runs =>
        rw [hpc] at hchild
        simp only [hchild.2.1, Taken.of, Option.bind_some, Call.initializedParameters, Call.startParameters]
        exact ⟨_, rfl, by show s.creator.remaining * 8 + 1 < s.creator.remaining * 8 + 2; omega⟩
    | signalling copy event runs =>
        rw [hpc] at hchild
        have hopen : s.creatorEffects.contains (Effect.closed event) = false := by
          rw [heffects, hchild.2.2.1]
          rfl
        simp only [hopen, Bool.false_eq_true, if_false]
        refine ⟨_, rfl, ?_⟩
        cases runs with
        | false =>
            show s.creator.remaining * 8 + 0 < s.creator.remaining * 8 + 1
            omega
        | true  =>
            show s.creator.remaining * 8 + 0 < s.creator.remaining * 8 + 1
            omega
    | _ =>
        rw [hpc] at hchild
        exact hchild.elim
  · rw [hsignalled] at hset
    cases hset

/-- **From every state of a run, the call can return.** -/
theorem exists_returned (h : s.Inv c) :
    ∃ parties t thread, run (nextOf (step c)) s parties = some t ∧ t.creator = .returned thread := by
  induction hn : s.remaining using Nat.strong_induction_on generalizing s with
  | _ n ih =>
      by_cases hreturned : ∃ thread, s.creator = .returned thread
      · obtain ⟨thread, hthread⟩ := hreturned
        exact ⟨[], s, thread, rfl, hthread⟩
      · have hstep : ∃ party s', step c s party = .done s' ∧ s'.remaining < s.remaining := by
          by_cases hwaiting : s.creator = .waiting ∧ s.signalled = false
          · obtain ⟨s', hdone, hless⟩ := childStep_advances h hwaiting.1 hwaiting.2
            exact ⟨.child, s', hdone, hless⟩
          · have hset : s.creator = .waiting → s.signalled = true := by
              intro hpc
              by_contra hnot
              exact hwaiting ⟨hpc, Bool.eq_false_iff.mpr hnot⟩
            obtain ⟨s', hdone, hless⟩ := creatorStep_advances h (fun thread hpc => hreturned ⟨thread, hpc⟩) hset
            exact ⟨.creator, s', hdone, hless⟩
        obtain ⟨party, s', hdone, hless⟩ := hstep
        have hkeeps := keeps_step h party
        rw [hdone] at hkeeps
        obtain ⟨parties, t, thread, hrun, hthread⟩ := ih s'.remaining (hn ▸ hless) hkeeps rfl
        exact ⟨party :: parties, t, thread, run_cons.mpr ⟨s', nextOf_eq_some.mpr hdone, hrun⟩, hthread⟩

/-! ## Handles -/

/-- How often a handle has been opened, and closed. -/
def State.openings (s : State) (h : Handle) : Nat := (s.creatorEffects ++ s.childEffects).count (.opened h)

def State.closings (s : State) (h : Handle) : Nat := (s.creatorEffects ++ s.childEffects).count (.closed h)

/-- The new thread has called the routine. -/
def State.RanUserCode (s : State) : Prop := ∃ address parameter, .startRoutine address parameter ∈ s.childEffects

/-- A call cleans up, whatever the interleaving with the new thread. -/
structure CleansUp (c : Call) : Prop where
  /-- No step uses the parameters after the creator has returned. -/
  safe        : ∀ parties s, run (nextOf (step c)) .start parties = some s → ∀ party, step c s party ≠ .faults
  /-- The call can return from where it is. -/
  returns     : ∀ parties s, run (nextOf (step c)) .start parties = some s →
    ∃ parties' t thread, run (nextOf (step c)) s parties' = some t ∧ t.creator = .returned thread
  /-- An event that was created is closed once. -/
  eventClosed : ∀ parties s thread, run (nextOf (step c)) .start parties = some s → s.creator = .returned thread →
    s.openings .initializationCompleted ≤ 1 ∧
      s.closings .initializationCompleted = s.openings .initializationCompleted
  /-- Without a thread to return, no handle is left open, and the routine is not called. -/
  onNull      : ∀ parties s, run (nextOf (step c)) .start parties = some s → s.creator = .returned none →
    (∀ h, s.closings h = s.openings h) ∧ ¬ s.RanUserCode

/-- The event is created, but the callback or the creation of the thread fails. -/
def Call.LosesEvent (c : Call) : Prop :=
  c.opensEvent = true ∧ (failed c.createChildThread = true ∨ c.createThread = false)

/-- The new thread has nothing to do with the event's handle. -/
theorem count_preparationEffects (c : Call) :
    c.preparationEffects.count (.opened .initializationCompleted) = 0 ∧
      c.preparationEffects.count (.closed .initializationCompleted) = 0 := by
  have hregistration : c.registrationEffects.count (.opened .initializationCompleted) = 0 ∧
      c.registrationEffects.count (.closed .initializationCompleted) = 0 := by
    unfold Call.registrationEffects
    split
    · exact ⟨rfl, rfl⟩
    · split
      · exact ⟨rfl, rfl⟩
      · exact ⟨rfl, rfl⟩
  unfold Call.preparationEffects
  split
  · exact hregistration
  · rw [List.count_append, List.count_append, hregistration.1, hregistration.2]
    exact ⟨rfl, rfl⟩

theorem State.ChildSignalled.count_event (h : s.ChildSignalled c s.child) :
    s.childEffects.count (.opened .initializationCompleted) = 0 ∧
      s.childEffects.count (.closed .initializationCompleted) = 0 := by
  obtain ⟨hopened, hclosed⟩ := count_preparationEffects c
  cases hpc : s.child with
  | running copy =>
      rw [hpc] at h
      rw [h.2.2]
      exact ⟨hopened, hclosed⟩
  | leaving copy =>
      rw [hpc] at h
      rw [h.2.2, List.count_append, List.count_append, hopened, hclosed]
      exact ⟨rfl, rfl⟩
  | finished =>
      rw [hpc] at h
      have heffects : s.childEffects = _ := h
      rw [heffects]
      split
      · exact ⟨hopened, hclosed⟩
      · rw [List.count_append, List.count_append, hopened, hclosed]
        exact ⟨rfl, rfl⟩
  | _ =>
      rw [hpc] at h
      exact h.elim

/-- A thread that could not register has closed its handle and does nothing else. -/
theorem State.ChildSignalled.of_failed (h : s.ChildSignalled c s.child) (hfailed : failed c.initializationResult = true) :
    s.childEffects = [] ∨ s.childEffects = [.opened .duplicate, .closed .duplicate] := by
  cases hpc : s.child with
  | running copy =>
      rw [hpc] at h
      rw [h.2.1] at hfailed
      cases hfailed
  | leaving copy =>
      rw [hpc] at h
      rw [h.2.1] at hfailed
      cases hfailed
  | finished =>
      rw [hpc] at h
      have heffects : s.childEffects = _ := h
      rw [if_pos hfailed, Call.preparationEffects, if_pos hfailed, Call.registrationEffects] at heffects
      by_cases hduplicate : failed c.getThreadHandle = true
      · rw [if_pos hduplicate] at heffects
        exact .inl heffects
      · rw [if_neg hduplicate] at heffects
        by_cases hregister : failed c.registerChildThread = true
        · rw [if_pos hregister] at heffects
          exact .inr heffects
        · rw [Call.initializationResult, if_neg hduplicate, if_neg hregister] at hfailed
          cases hfailed
  | _ =>
      rw [hpc] at h
      exact h.elim

theorem State.Inv.returned {thread : Option Handle} (h : s.Inv c) (hpc : s.creator = .returned thread) :
    (c.startsThread = false ∧ thread = none ∧
      s.Alone (if c.opensEvent then [.opened .initializationCompleted] else [])) ∨
    (c.startsThread = true ∧ s.ChildSignalled c s.child ∧
      thread = (if failed c.initializationResult then none else some .thread) ∧
      s.creatorEffects = [.opened .initializationCompleted, .opened .thread, .closed .initializationCompleted] ++
        if failed c.initializationResult then [.closed .thread] else []) := by
  unfold State.Inv at h
  rw [hpc] at h
  exact h

/-- Without a thread there is no event either, unless it is lost. -/
theorem opensEvent_of_not_losesEvent (h : ¬ c.LosesEvent) (hthread : c.startsThread = false) : c.opensEvent = false := by
  by_contra hopens
  have hopens' : c.opensEvent = true := Bool.eq_true_of_not_eq_false hopens
  apply h
  refine ⟨hopens', ?_⟩
  cases hcallback : failed c.createChildThread with
  | true  => exact .inl rfl
  | false =>
      right
      rw [Call.startsThread, hopens', hcallback] at hthread
      exact hthread

theorem State.Inv.eventClosed {thread : Option Handle} (h : s.Inv c) (hnot : ¬ c.LosesEvent)
    (hpc : s.creator = .returned thread) :
    s.openings .initializationCompleted ≤ 1 ∧
      s.closings .initializationCompleted = s.openings .initializationCompleted := by
  unfold State.openings State.closings
  rw [List.count_append, List.count_append]
  rcases h.returned hpc with ⟨hthread, -, halone⟩ | ⟨-, hchild, -, heffects⟩
  · rw [halone.creatorEffects, halone.childEffects, opensEvent_of_not_losesEvent hnot hthread]
    exact ⟨Nat.zero_le 1, rfl⟩
  · obtain ⟨hopened, hclosed⟩ := hchild.count_event
    rw [heffects, hopened, hclosed]
    split
    · exact ⟨Nat.le_refl 1, rfl⟩
    · exact ⟨Nat.le_refl 1, rfl⟩

theorem State.Inv.onNull (h : s.Inv c) (hnot : ¬ c.LosesEvent) (hpc : s.creator = .returned none) :
    (∀ h, s.closings h = s.openings h) ∧ ¬ s.RanUserCode := by
  unfold State.openings State.closings State.RanUserCode
  rcases h.returned hpc with ⟨hthread, -, halone⟩ | ⟨-, hchild, hnone, heffects⟩
  · rw [halone.creatorEffects, halone.childEffects, opensEvent_of_not_losesEvent hnot hthread]
    refine ⟨fun _ => rfl, ?_⟩
    rintro ⟨address, parameter, hmem⟩
    exact List.not_mem_nil hmem
  · have hfailed : failed c.initializationResult = true := by
      by_contra hsucceeded
      rw [if_neg hsucceeded] at hnone
      cases hnone
    rw [heffects, if_pos hfailed]
    rcases hchild.of_failed hfailed with hnil | hduplicate
    · rw [hnil]
      refine ⟨fun h => by cases h <;> rfl, ?_⟩
      rintro ⟨address, parameter, hmem⟩
      exact List.not_mem_nil hmem
    · rw [hduplicate]
      refine ⟨fun h => by cases h <;> rfl, ?_⟩
      rintro ⟨address, parameter, hmem⟩
      simp at hmem

theorem inv_start : State.start.Inv c := rfl

theorem inv_run {parties : List Party} (hr : run (nextOf (step c)) .start parties = some s) :
    s.Inv c ∧ ∀ party, step c s party ≠ .faults :=
  safe_run (fun _ party h => keeps_step h party) inv_start hr

/-- **A call cleans up if and only if it does not lose its event.** -/
theorem cleansUp_iff (c : Call) : CleansUp c ↔ ¬ c.LosesEvent := by
  constructor
  · rintro h ⟨hopens, hlost⟩
    have hthread : c.startsThread = false := by
      rcases hlost with hcallback | hcreate
      · simp [Call.startsThread, hcallback]
      · simp [Call.startsThread, hcreate]
    obtain ⟨parties, s, thread, hrun, hpc⟩ := exists_returned (inv_start (c := c))
    have hclosed := (h.eventClosed parties s thread hrun hpc).2
    rcases (inv_run hrun).1.returned hpc with ⟨-, -, halone⟩ | ⟨hstarted, -⟩
    · unfold State.openings State.closings at hclosed
      rw [halone.creatorEffects, halone.childEffects, hopens] at hclosed
      exact absurd hclosed (by decide)
    · rw [hthread] at hstarted
      cases hstarted
  · intro hnot
    exact {
      safe        := fun parties s hrun => (inv_run hrun).2
      returns     := fun parties s hrun => exists_returned (inv_run hrun).1
      eventClosed := fun parties s thread hrun hpc => (inv_run hrun).1.eventClosed hnot hpc
      onNull      := fun parties s hrun hpc => (inv_run hrun).1.onNull hnot hpc }

/-- An anonymous thread, which the execution context does not know, has attached itself to the default filament. -/
def anonymousCreator : Call where
  startAddress        := 0xF100
  userParameter       := 0
  flags               := 0#32
  getCurrentFilament  := sOk
  createEvent         := true
  createChildThread   := eUnknownThread
  contextForChild     := 0
  createThread        := true
  getThreadHandle     := sOk
  registerChildThread := sOk

/-- The event stays open. -/
theorem not_cleansUp_anonymousCreator : ¬ ∀ c : Call, CleansUp c := by
  intro hall
  exact (cleansUp_iff anonymousCreator).mp (hall anonymousCreator) ⟨rfl, .inl rfl⟩

end Cfix.CreateThread
