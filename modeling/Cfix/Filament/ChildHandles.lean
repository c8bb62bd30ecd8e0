import Cfix.Filament.Locks
import Cfix.Lib.Faults

/-!
# `Filament.ChildHandles` — the handles of child threads (`cfix/filament.c`)

`CfixsSetCurrentFilament` by a thread that is to become a child thread, step by step: it duplicates a handle, registers
it under the filament's lock, and closes it if there is no room for it. The threads, the filaments, and the joins and
destructions of these interleave freely; a filament is destroyed when no thread is registering with it. Each
duplication gives a handle of its own, which is the position of its thread in `duplicated`. A step that uses a handle
which has been closed goes wrong.
-/

namespace Cfix.ChildHandles

open Thread Transition

abbrev Handle := Nat

/-! ## Data -/

/-- `ChildThreads` of a `CFIXP_FILAMENT`, without its lock. -/
structure ChildThreads where
  threads     : Nat → Handle
  threadCount : Nat

/-- The slots in use. -/
def ChildThreads.handles (c : ChildThreads) : List Handle := (List.range c.threadCount).map c.threads

/-- `CfixsRegisterChildThreadFilament`, under the lock. -/
def ChildThreads.register (c : ChildThreads) (thread : Handle) : HRESULT × ChildThreads :=
  if c.threadCount = cfixMaxThreads then (eTooManyChildThreads, c)
  else
    (sOk,
      { threads     := Function.update c.threads c.threadCount thread
        threadCount := c.threadCount + 1 })

/-- Where a thread stands in a call of `CfixsSetCurrentFilament` that registers it. -/
inductive CallPc where
  | idle
  /-- The thread has a handle of its own. -/
  | duplicated (f : FilamentId) (derived : Bool) (old : Option FilamentId) (h : Handle)
  | registered (f : FilamentId) (derived : Bool) (old : Option FilamentId)
  /-- There was no room for the handle. -/
  | rejected (f : FilamentId) (derived : Bool) (h : Handle)
  /-- The TLS slot has been reset, `CloseHandle` comes next. -/
  | closing (f : FilamentId) (derived : Bool) (h : Handle)
  deriving DecidableEq, Repr

/-- The handle that the call has to take care of. -/
def CallPc.handle : CallPc → Option Handle
  | .duplicated _ _ _ h | .rejected _ _ h | .closing _ _ h => some h
  | .idle | .registered _ _ _                              => none

inductive Stage where
  | active
  /-- In `CfixpJoinChildThreadsFilament`, with the lock. -/
  | joining
  | joined
  | destroyed
  deriving DecidableEq, Repr

/-- The calls that close handles: that of a thread which was rejected, and `CfixpDestroyFilament`. -/
inductive Closer where
  | rejection (t : ThreadId) (f : FilamentId)
  | destruction (f : FilamentId)
  deriving DecidableEq, Repr

structure State where
  world       : World
  tables      : FilamentId → ChildThreads
  stage       : FilamentId → Stage
  calls       : ThreadId → CallPc
  /-- The threads between the duplication and the registration. -/
  registering : FilamentId → List ThreadId
  /-- The thread that each handle refers to. -/
  duplicated  : List ThreadId
  /-- The registrations that succeeded, in order. -/
  registered  : FilamentId → List (ThreadId × Handle)
  closed      : List (Handle × Closer)

/-- `CfixpInitializeFilament` has zeroed the filaments. -/
def State.initial : State where
  world         := .initial
  tables _      := { threads := fun _ => 0, threadCount := 0 }
  stage _       := .active
  calls _       := .idle
  registering _ := []
  duplicated    := []
  registered _  := []
  closed        := []

/-! ## Steps -/

inductive Action where
  /-- A call for a thread that is not the main thread, up to `DuplicateHandle`, which has the result `handleHr`.
      `derived` is set when the thread attaches itself to the default filament. -/
  | begin_ (t : ThreadId) (f : FilamentId) (derived : Bool) (handleHr : HRESULT)
  | register (t : ThreadId)
  | reset (t : ThreadId)
  | close (t : ThreadId)
  /-- The rest of the call: the default filament and the TLS slot. -/
  | install (t : ThreadId)
  /-- A call that registers nothing: by the main thread of the filament, or with `NULL`. -/
  | set (t : ThreadId) (new : Option FilamentId)
  | beginJoin (f : FilamentId)
  | endJoin (f : FilamentId)
  | destroy (f : FilamentId)
  deriving DecidableEq, Repr

/-- `CfixsGetCurrentFilament` enters the lock of the default filament, in which the thread attaches itself. -/
def enterDefault (t : ThreadId) (f : FilamentId) (derived : Bool) (w : World) : Option World :=
  if derived then
    if (w.tls t).filament = none ∧ w.default_ = some f then
      (w.defaultLock.enter t).map (fun lock => { w with defaultLock := lock })
    else none
  else some w

def leaveDefault (derived : Bool) (w : World) : World :=
  if derived then { w with defaultLock := w.defaultLock.leave } else w

section Steps

-- the filaments, as they were initialized
variable (F : FilamentId → Filament)

/-- `CloseHandle`; `none` if the handle has been closed already. -/
def closeHandle (closer : Closer) (h : Handle) (closed : List (Handle × Closer)) : Option (List (Handle × Closer)) :=
  if (closed.map (·.1)).contains h then none else some (closed ++ [(h, closer)])

/-- The loop of `CfixpDestroyFilament`. -/
def closeHandles (closer : Closer) : List Handle → List (Handle × Closer) → Option (List (Handle × Closer))
  | [], closed      => some closed
  | h :: hs, closed => (closeHandle closer h closed).bind (closeHandles closer hs)

def State.at (s : State) (t : ThreadId) (pc : CallPc) : State := { s with calls := Function.update s.calls t pc }

/-- The first part of the call. -/
def State.begin_ (s : State) (t : ThreadId) (f : FilamentId) (derived : Bool) (handleHr : HRESULT) : Taken State :=
  if s.calls t = .idle ∧ t ≠ (F f).mainThreadId ∧ s.stage f ≠ .destroyed then
    match enterDefault t f derived s.world with
    | none   => .disabled
    | some w =>
      let old := (w.tls t).filament
      let w := dereferenceOld F old w
      if failed handleHr then .done { s with world := leaveDefault derived w }
      else
        .done { s.at t (.duplicated f derived old s.duplicated.length) with
          world       := w
          duplicated  := s.duplicated ++ [t]
          registering := Function.update s.registering f (t :: s.registering f) }
  else .disabled

/-- The registration. -/
def State.register (s : State) (t : ThreadId) : Taken State :=
  match s.calls t with
  | .duplicated f derived old h =>
    match registerChildThreadFilament f t s.world with
    | none        => .disabled
    | some (_, w) =>
      match (s.tables f).register h with
      | (hr, table) =>
        if failed hr then
          .done { s.at t (.rejected f derived h) with
            world       := w
            registering := Function.update s.registering f ((s.registering f).erase t) }
        else
          .done { s.at t (.registered f derived old) with
            world       := w
            tables      := Function.update s.tables f table
            registered  := Function.update s.registered f (s.registered f ++ [(t, h)])
            registering := Function.update s.registering f ((s.registering f).erase t) }
  | _ => .disabled

def State.step (s : State) : Action → Taken State
  | .begin_ t f derived handleHr => s.begin_ F t f derived handleHr
  | .register t => s.register t
  | .reset t =>
    match s.calls t with
    | .rejected f derived h => .done { s.at t (.closing f derived h) with world := s.world.setTls t none false }
    | _                     => .disabled
  | .close t =>
    match s.calls t with
    | .closing f derived h =>
      .of (closeHandle (.rejection t f) h s.closed) (fun closed =>
        { s.at t .idle with
          world  := leaveDefault derived s.world
          closed := closed })
    | _ => .disabled
  | .install t =>
    match s.calls t with
    | .registered f derived old =>
      match updateDefault F t old (some f) s.world with
      | none         => .disabled
      | some (hr, w) =>
        if failed hr then .done { s.at t .idle with world := leaveDefault derived w }
        else .done { s.at t .idle with world := leaveDefault derived (w.setTls t (some f) derived) }
    | _ => .disabled
  | .set t new =>
    if s.calls t = .idle ∧ registersAsChild F t new = false then
      match setCurrentFilament F t new false sOk s.world with
      | none           => .disabled
      | some (_, _, w) => .done { s with world := w }
    else .disabled
  | .beginJoin f =>
    if s.stage f = .active then
      match (s.world.childLock f).enter (F f).mainThreadId with
      | none      => .disabled
      | some lock =>
        -- `WaitForMultipleObjects` for the slots in use
        if (s.tables f).handles.any (s.closed.map (·.1)).contains then .faults
        else
          .done { s with
            stage := Function.update s.stage f .joining
            world := { s.world with childLock := Function.update s.world.childLock f lock } }
    else .disabled
  | .endJoin f =>
    if s.stage f = .joining then
      .done { s with
        stage := Function.update s.stage f .joined
        world := { s.world with childLock := Function.update s.world.childLock f (s.world.childLock f).leave } }
    else .disabled
  | .destroy f =>
    -- a filament that was never installed is destroyed without a join
    if (s.stage f = .active ∨ s.stage f = .joined) ∧ s.registering f = [] then
      .of (closeHandles (.destruction f) (s.tables f).handles s.closed) (fun closed =>
        { s with
          stage  := Function.update s.stage f .destroyed
          closed := closed })
    else .disabled

end Steps

/-! ## The invariant -/

/-- What has become of a handle: a call takes care of it, a slot has it, or it was closed by a thread that was
    rejected. -/
inductive Fate where
  | pending (t : ThreadId)
  | stored (f : FilamentId) (slot : Nat)
  | rejected (t : ThreadId) (f : FilamentId)
  deriving DecidableEq

def Fate.closedBy (stage : FilamentId → Stage) : Fate → Option Closer
  | .pending _    => none
  | .stored f _   => if stage f = .destroyed then some (.destruction f) else none
  | .rejected t f => some (.rejection t f)

section Invariant

variable (F : FilamentId → Filament)

/-- Every handle has one fate, which the calls, the slots and the closed handles agree on. -/
structure State.Ledger (s : State) (fate : Handle → Fate) : Prop where
  pending : ∀ t h, (s.calls t).handle = some h ↔ h < s.duplicated.length ∧ fate h = .pending t
  slot    : ∀ f k, k < (s.tables f).threadCount →
    (s.tables f).threads k < s.duplicated.length ∧ fate ((s.tables f).threads k) = .stored f k
  stored  : ∀ h f k, h < s.duplicated.length → fate h = .stored f k →
    k < (s.tables f).threadCount ∧ (s.tables f).threads k = h
  nodup   : (s.closed.map (·.1)).Nodup
  closed  : ∀ h c, (h, c) ∈ s.closed ↔ h < s.duplicated.length ∧ (fate h).closedBy s.stage = some c

/-- The slots of the filaments are the registrations, and the calls in flight are in order. -/
structure State.Registered (s : State) : Prop where
  bounded     : ∀ f, (s.tables f).threadCount ≤ cfixMaxThreads
  log         : ∀ f, (s.tables f).handles = (s.registered f).map (·.2)
  threads     : ∀ f, s.world.childThreads f = (s.registered f).map (·.1)
  owner       : ∀ f p, p ∈ s.registered f → s.duplicated[p.2]? = some p.1
  caller      : ∀ t h, (s.calls t).handle = some h → s.duplicated[h]? = some t
  registering : ∀ t f derived old h, s.calls t = .duplicated f derived old h →
    t ∈ s.registering f ∧ s.stage f ≠ .destroyed
  reset       : ∀ t f derived h, s.calls t = .closing f derived h → s.world.tls t = ⟨none, false⟩

def State.Inv (s : State) : Prop := s.Registered ∧ ∃ fate, s.Ledger fate

end Invariant

variable {F : FilamentId → Filament} {s s' : State} {fate : Handle → Fate} {t : ThreadId} {f : FilamentId}

theorem inv_initial : State.initial.Inv := by
  refine ⟨?_, fun _ => .pending 0, ?_⟩
  · exact {
      bounded     := fun _ => Nat.zero_le _
      log         := fun _ => rfl
      threads     := fun _ => rfl
      owner       := fun _ _ h => nomatch h
      caller      := fun _ _ h => nomatch h
      registering := fun _ _ _ _ _ h => nomatch h
      reset       := fun _ _ _ _ h => nomatch h }
  · exact {
      pending := fun t h => ⟨(fun hc => nomatch hc), fun hc => absurd hc.1 (Nat.not_lt_zero h)⟩
      slot    := fun _ k hk => absurd hk (Nat.not_lt_zero k)
      stored  := fun h _ _ hh => absurd hh (Nat.not_lt_zero h)
      nodup   := List.nodup_nil
      closed  := fun h c => ⟨(fun hc => nomatch hc), fun hc => absurd hc.1 (Nat.not_lt_zero h)⟩ }

/-! ## The parts of the world -/

theorem enterDefault_some {derived : Bool} {w w' : World} (h : enterDefault t f derived w = some w') :
    w'.tls = w.tls ∧ w'.childThreads = w.childThreads := by
  unfold enterDefault at h
  split at h
  · split at h
    · obtain ⟨lock, -, rfl⟩ := Option.map_eq_some_iff.mp h
      exact ⟨rfl, rfl⟩
    · cases h
  · cases h
    exact ⟨rfl, rfl⟩

theorem leaveDefault_frame (derived : Bool) (w : World) :
    (leaveDefault derived w).tls = w.tls ∧ (leaveDefault derived w).childThreads = w.childThreads := by
  unfold leaveDefault
  split
  · exact ⟨rfl, rfl⟩
  · exact ⟨rfl, rfl⟩

/-- Registering a thread, in terms of the list of threads. -/
theorem registerChildThreadFilament_some {hr : HRESULT} {w w' : World}
    (h : registerChildThreadFilament f t w = some (hr, w')) :
    w'.tls = w.tls ∧
      (((w.childThreads f).length = cfixMaxThreads ∧ hr = eTooManyChildThreads ∧ w'.childThreads = w.childThreads) ∨
       ((w.childThreads f).length ≠ cfixMaxThreads ∧ hr = sOk ∧
          w'.childThreads = Function.update w.childThreads f (w.childThreads f ++ [t]))) := by
  unfold registerChildThreadFilament at h
  obtain ⟨lock, -, heq⟩ := Option.map_eq_some_iff.mp h
  split at heq
  case isTrue hfull =>
    cases heq
    exact ⟨rfl, .inl ⟨hfull, rfl, rfl⟩⟩
  case isFalse hroom =>
    cases heq
    exact ⟨rfl, .inr ⟨hroom, rfl, rfl⟩⟩

/-- A call that registers nothing concerns the TLS slot of its thread only. -/
theorem setCurrentFilament_registersNothing {new prev : Option FilamentId} {hr : HRESULT} {w w' : World}
    (hnot : registersAsChild F t new = false) (h : setCurrentFilament F t new false sOk w = some (hr, prev, w')) :
    w'.childThreads = w.childThreads ∧ ∀ u, u ≠ t → w'.tls u = w.tls u := by
  cases setCurrentFilament_some F h with
  | installed _ _ htls _ hch _ =>
      refine ⟨?_, ?_⟩
      · rw [hch]
        cases new with
        | none   => rfl
        | some f =>
            have hmain : t = (F f).mainThreadId := by simpa [registersAsChild] using hnot
            rw [childThreadsAfter, if_neg (fun hne => hne hmain)]
      · intro u hu
        rw [htls, Function.update_of_ne hu]
  | noHandle hreg =>
      rw [hnot] at hreg
      cases hreg
  | tooMany hreg =>
      rw [hnot] at hreg
      cases hreg
  | conflict _ htls _ hch _ => exact ⟨hch, fun u _ => by rw [htls]⟩

/-! ## Closing handles -/

theorem closeHandle_open {closer : Closer} {k : Handle} {closed : List (Handle × Closer)} (h : ∀ c, (k, c) ∉ closed) :
    closeHandle closer k closed = some (closed ++ [(k, closer)]) := by
  have hopen : ¬ (closed.map (·.1)).contains k = true := by
    rw [List.contains_iff_mem]
    intro hmem
    obtain ⟨p, hp, rfl⟩ := List.mem_map.mp hmem
    exact h p.2 hp
  rw [closeHandle, if_neg hopen]

theorem closeHandles_open {closer : Closer} {ks : List Handle} {closed : List (Handle × Closer)} (hnodup : ks.Nodup)
    (h : ∀ k ∈ ks, ∀ c, (k, c) ∉ closed) : closeHandles closer ks closed = some (closed ++ ks.map (·, closer)) := by
  induction ks generalizing closed with
  | nil => simp [closeHandles]
  | cons k ks ih =>
      obtain ⟨hnot, hnodup⟩ := List.nodup_cons.mp hnodup
      rw [closeHandles, closeHandle_open (h k List.mem_cons_self), Option.bind_some, ih hnodup]
      · rw [List.append_assoc]
        rfl
      · intro j hj c hc
        rcases List.mem_append.mp hc with hc | hc
        · exact h j (List.mem_cons_of_mem k hj) c hc
        · cases List.mem_singleton.mp hc
          exact hnot hj

/-! ## The steps keep the invariant -/

/-- A handle that a call takes care of is open. -/
theorem State.Ledger.open_of_pending (h : s.Ledger fate) {k : Handle} (hk : (s.calls t).handle = some k) (c : Closer) :
    (k, c) ∉ s.closed := by
  intro hc
  have hfate := ((h.closed k c).mp hc).2
  rw [((h.pending t k).mp hk).2] at hfate
  cases hfate

/-- The handle of a slot, and the slot of a handle. -/
theorem State.Ledger.mem_handles (h : s.Ledger fate) {k : Handle} :
    k ∈ (s.tables f).handles ↔ k < s.duplicated.length ∧ ∃ slot, fate k = .stored f slot := by
  unfold ChildThreads.handles
  rw [List.mem_map]
  constructor
  · rintro ⟨slot, hslot, rfl⟩
    obtain ⟨hlt, hfate⟩ := h.slot f slot (List.mem_range.mp hslot)
    exact ⟨hlt, slot, hfate⟩
  · rintro ⟨hlt, slot, hfate⟩
    obtain ⟨hslot, hthread⟩ := h.stored k f slot hlt hfate
    exact ⟨slot, List.mem_range.mpr hslot, hthread⟩

theorem State.Ledger.nodup_handles (h : s.Ledger fate) (f : FilamentId) : (s.tables f).handles.Nodup := by
  apply List.Nodup.map_on _ List.nodup_range
  intro j hj k hk heq
  have hfate := (h.slot f j (List.mem_range.mp hj)).2
  rw [heq, (h.slot f k (List.mem_range.mp hk)).2] at hfate
  cases hfate
  rfl

/-- The handles of the slots are closed by the destruction of the filament, and by nothing else. -/
theorem State.Ledger.closed_of_slot (h : s.Ledger fate) {k : Handle} (hk : k ∈ (s.tables f).handles) (c : Closer) :
    (k, c) ∈ s.closed ↔ c = .destruction f ∧ s.stage f = .destroyed := by
  obtain ⟨hlt, slot, hfate⟩ := h.mem_handles.mp hk
  rw [h.closed k c, hfate, Fate.closedBy]
  constructor
  · rintro ⟨-, hby⟩
    split at hby
    case isTrue hdestroyed => exact ⟨(Option.some.inj hby).symm, hdestroyed⟩
    case isFalse           => cases hby
  · rintro ⟨rfl, hdestroyed⟩
    rw [if_pos hdestroyed]
    exact ⟨hlt, rfl⟩

/-- A thread goes on in its call with the handle that it has. -/
theorem State.Ledger.of_call (h : s.Ledger fate) {pc : CallPc} (hcalls : s'.calls = Function.update s.calls t pc)
    (hhandle : pc.handle = (s.calls t).handle) (htables : s'.tables = s.tables) (hstage : s'.stage = s.stage)
    (hduplicated : s'.duplicated = s.duplicated) (hclosed : s'.closed = s.closed) : s'.Ledger fate where
  pending := by
    intro u k
    rw [hcalls, hduplicated, ← h.pending u k, Function.update_apply]
    split
    case isTrue heq => rw [heq, hhandle]
    case isFalse    => rfl
  slot    := by
    rw [htables, hduplicated]
    exact h.slot
  stored  := by
    rw [htables, hduplicated]
    exact h.stored
  nodup   := hclosed ▸ h.nodup
  closed  := by
    rw [hclosed, hduplicated, hstage]
    exact h.closed

theorem State.Registered.of_call (h : s.Registered) {pc : CallPc} (hcalls : s'.calls = Function.update s.calls t pc)
    (hhandle : ∀ k, pc.handle = some k → (s.calls t).handle = some k) (htables : s'.tables = s.tables)
    (hstage : s'.stage = s.stage)
    (hduplicated : s'.duplicated = s.duplicated) (hregistered : s'.registered = s.registered)
    (hregistering : ∀ u f, u ≠ t → u ∈ s.registering f → u ∈ s'.registering f)
    (hchild : s'.world.childThreads = s.world.childThreads) (htls : ∀ u, u ≠ t → s'.world.tls u = s.world.tls u)
    (hpc : ∀ f derived old k, pc ≠ .duplicated f derived old k)
    (hreset : ∀ f derived k, pc = .closing f derived k → s'.world.tls t = ⟨none, false⟩) : s'.Registered where
  bounded     := htables ▸ h.bounded
  log         := by
    rw [htables, hregistered]
    exact h.log
  threads     := by
    rw [hchild, hregistered]
    exact h.threads
  owner       := by
    rw [hduplicated, hregistered]
    exact h.owner
  caller      := by
    intro u k hu
    rw [hduplicated]
    apply h.caller u k
    rw [hcalls, Function.update_apply] at hu
    split at hu
    case isTrue heq =>
      rw [heq]
      exact hhandle k hu
    case isFalse => exact hu
  registering := by
    intro u g derived old k hu
    rw [hcalls, Function.update_apply] at hu
    split at hu
    case isTrue heq => exact absurd hu (hpc g derived old k)
    case isFalse hne =>
      rw [hstage]
      obtain ⟨hmem, hlive⟩ := h.registering u g derived old k hu
      exact ⟨hregistering u g hne hmem, hlive⟩
  reset       := by
    intro u g derived k hu
    rw [hcalls, Function.update_apply] at hu
    split at hu
    case isTrue heq =>
      rw [heq]
      exact hreset g derived k hu
    case isFalse hne =>
      rw [htls u hne]
      exact h.reset u g derived k hu

/-- A new handle is the calling thread's. -/
theorem State.Ledger.duplicate (h : s.Ledger fate) (hidle : s.calls t = .idle) {derived : Bool} {old : Option FilamentId}
    (hcalls : s'.calls = Function.update s.calls t (.duplicated f derived old s.duplicated.length))
    (htables : s'.tables = s.tables) (hstage : s'.stage = s.stage) (hduplicated : s'.duplicated = s.duplicated ++ [t])
    (hclosed : s'.closed = s.closed) : s'.Ledger (Function.update fate s.duplicated.length (.pending t)) := by
  have hlength : s'.duplicated.length = s.duplicated.length + 1 := by
    rw [hduplicated, List.length_append]
    rfl
  have hold : ∀ k, k < s.duplicated.length →
      Function.update fate s.duplicated.length (.pending t) k = fate k := by
    intro k hk
    exact Function.update_of_ne (Nat.ne_of_lt hk) ..
  exact {
    pending := by
      intro u k
      rw [hcalls, hlength, Function.update_apply]
      constructor
      · intro hu
        split at hu
        case isTrue heq =>
          have hk : s.duplicated.length = k := Option.some.inj hu
          rw [← hk, heq, Function.update_self]
          exact ⟨Nat.lt_succ_self _, rfl⟩
        case isFalse hne =>
          obtain ⟨hk, hfate⟩ := (h.pending u k).mp hu
          rw [hold k hk]
          exact ⟨Nat.lt_succ_of_lt hk, hfate⟩
      · rintro ⟨hk, hfate⟩
        rcases Nat.lt_succ_iff_lt_or_eq.mp hk with hlt | rfl
        · rw [hold k hlt] at hfate
          have hu := (h.pending u k).mpr ⟨hlt, hfate⟩
          split
          case isTrue heq =>
            rw [heq, hidle] at hu
            cases hu
          case isFalse => exact hu
        · rw [Function.update_self] at hfate
          cases hfate
          rw [if_pos rfl]
          rfl
    slot    := by
      intro g k hk
      rw [htables] at hk ⊢
      obtain ⟨hlt, hfate⟩ := h.slot g k hk
      rw [hlength, hold _ hlt]
      exact ⟨Nat.lt_succ_of_lt hlt, hfate⟩
    stored  := by
      intro k g slot hk hfate
      rw [htables]
      rw [hlength] at hk
      rcases Nat.lt_succ_iff_lt_or_eq.mp hk with hlt | rfl
      · rw [hold k hlt] at hfate
        exact h.stored k g slot hlt hfate
      · rw [Function.update_self] at hfate
        cases hfate
    nodup   := hclosed ▸ h.nodup
    closed  := by
      intro k c
      rw [hclosed, hstage, hlength, h.closed k c]
      constructor
      · rintro ⟨hk, hfate⟩
        rw [hold k hk]
        exact ⟨Nat.lt_succ_of_lt hk, hfate⟩
      · rintro ⟨hk, hfate⟩
        rcases Nat.lt_succ_iff_lt_or_eq.mp hk with hlt | rfl
        · rw [hold k hlt] at hfate
          exact ⟨hlt, hfate⟩
        · rw [Function.update_self] at hfate
          cases hfate }

/-- The thread that has a new handle is registering. -/
theorem State.Registered.duplicate (h : s.Registered) {derived : Bool} {old : Option FilamentId}
    (hlive : s.stage f ≠ .destroyed)
    (hcalls : s'.calls = Function.update s.calls t (.duplicated f derived old s.duplicated.length))
    (htables : s'.tables = s.tables) (hstage : s'.stage = s.stage) (hduplicated : s'.duplicated = s.duplicated ++ [t])
    (hregistered : s'.registered = s.registered)
    (hregistering : s'.registering = Function.update s.registering f (t :: s.registering f))
    (hchild : s'.world.childThreads = s.world.childThreads) (htls : s'.world.tls = s.world.tls) : s'.Registered where
  bounded     := htables ▸ h.bounded
  log         := by
    rw [htables, hregistered]
    exact h.log
  threads     := by
    rw [hchild, hregistered]
    exact h.threads
  owner       := by
    intro g p hp
    rw [hregistered] at hp
    have howner := h.owner g p hp
    rw [hduplicated, List.getElem?_append_left (List.getElem?_eq_some_iff.mp howner).1]
    exact howner
  caller      := by
    intro u k hu
    rw [hcalls, Function.update_apply] at hu
    rw [hduplicated]
    split at hu
    case isTrue heq =>
      have hk : s.duplicated.length = k := Option.some.inj hu
      rw [← hk, heq, List.getElem?_append_right (Nat.le_refl _), Nat.sub_self]
      rfl
    case isFalse =>
      have hcaller := h.caller u k hu
      rw [List.getElem?_append_left (List.getElem?_eq_some_iff.mp hcaller).1]
      exact hcaller
  registering := by
    intro u g derived' old' k hu
    rw [hcalls, Function.update_apply] at hu
    rw [hregistering, hstage, Function.update_apply]
    split at hu
    case isTrue heq =>
      cases hu
      rw [if_pos rfl, heq]
      exact ⟨List.mem_cons_self, hlive⟩
    case isFalse =>
      obtain ⟨hmem, hlive'⟩ := h.registering u g derived' old' k hu
      refine ⟨?_, hlive'⟩
      split
      case isTrue heq =>
        rw [← heq]
        exact List.mem_cons_of_mem t hmem
      case isFalse => exact hmem
  reset       := by
    intro u g derived' k hu
    rw [hcalls, Function.update_apply] at hu
    rw [htls]
    split at hu
    case isTrue  => cases hu
    case isFalse => exact h.reset u g derived' k hu

theorem keeps_begin (h : s.Inv) (derived : Bool) (handleHr : HRESULT) :
    (s.begin_ F t f derived handleHr).Keeps State.Inv := by
  obtain ⟨hreg, fate, hledger⟩ := h
  unfold State.begin_
  split
  case isFalse => trivial
  case isTrue hbegins =>
    obtain ⟨hidle, -, hlive⟩ := hbegins
    cases hlock : enterDefault t f derived s.world with
    | none   => trivial
    | some w =>
      obtain ⟨htls, hchild⟩ := enterDefault_some hlock
      obtain ⟨htls', -, hchild', -, -⟩ := dereferenceOld_frame F (w.tls t).filament w
      simp only
      split
      case isTrue =>
        -- without a handle the call returns
        obtain ⟨htls'', hchild''⟩ := leaveDefault_frame derived (dereferenceOld F (w.tls t).filament w)
        have hsame : s.calls = Function.update s.calls t .idle := by
          rw [← hidle, Function.update_eq_self]
        have hhandle : CallPc.handle .idle = (s.calls t).handle := by rw [hidle]
        refine ⟨hreg.of_call hsame (fun _ hk => nomatch hk) rfl rfl rfl rfl (fun _ _ _ => id) ?_ ?_
          (fun _ _ _ _ hpc => nomatch hpc) (fun _ _ _ hpc => nomatch hpc), fate,
          hledger.of_call hsame hhandle rfl rfl rfl rfl⟩
        · exact hchild''.trans (hchild'.trans hchild)
        · intro u _
          exact congrFun (htls''.trans (htls'.trans htls)) u
      case isFalse =>
        exact ⟨hreg.duplicate hlive rfl rfl rfl rfl rfl rfl (hchild'.trans hchild) (htls'.trans htls), _,
          hledger.duplicate hidle rfl rfl rfl rfl rfl⟩

/-! ### The registration -/

/-- The slots in use after another one has been filled. -/
theorem ChildThreads.handles_store (c : ChildThreads) (h : Handle) :
    ChildThreads.handles { threads := Function.update c.threads c.threadCount h, threadCount := c.threadCount + 1 } =
      c.handles ++ [h] := by
  unfold ChildThreads.handles
  rw [List.range_succ, List.map_append]
  congr 1
  · apply List.map_congr_left
    intro k hk
    exact Function.update_of_ne (Nat.ne_of_lt (List.mem_range.mp hk)) ..
  · simp

theorem ChildThreads.length_handles (c : ChildThreads) : c.handles.length = c.threadCount := by
  rw [ChildThreads.handles, List.length_map, List.length_range]

/-- The list of threads has as many entries as there are slots in use. -/
theorem State.Registered.length_childThreads (h : s.Registered) (f : FilamentId) :
    (s.world.childThreads f).length = (s.tables f).threadCount := by
  rw [h.threads f, List.length_map, ← (s.tables f).length_handles, h.log f, List.length_map]

/-- A handle that is settled leaves its call, and the other calls keep theirs. -/
theorem State.Ledger.pending_of_settled (h : s.Ledger fate) {k : Handle} (hk : (s.calls t).handle = some k) {pc : CallPc}
    (hpc : pc.handle = none) {settled : Fate} (hsettled : ∀ u, settled ≠ .pending u)
    (hcalls : s'.calls = Function.update s.calls t pc) (hduplicated : s'.duplicated = s.duplicated) (u : ThreadId)
    (j : Handle) :
    (s'.calls u).handle = some j ↔ j < s'.duplicated.length ∧ Function.update fate k settled j = .pending u := by
  obtain ⟨-, hpending⟩ := (h.pending t k).mp hk
  rw [hcalls, hduplicated, Function.update_apply, Function.update_apply]
  constructor
  · intro hu
    split at hu
    case isTrue =>
      rw [hpc] at hu
      cases hu
    case isFalse hne =>
      obtain ⟨hj, hfate⟩ := (h.pending u j).mp hu
      refine ⟨hj, ?_⟩
      split
      case isTrue heq =>
        rw [heq, hpending] at hfate
        cases hfate
        exact absurd rfl hne
      case isFalse => exact hfate
  · rintro ⟨hj, hfate⟩
    split at hfate
    case isTrue  => exact absurd hfate (hsettled u)
    case isFalse hne =>
      have hu := (h.pending u j).mpr ⟨hj, hfate⟩
      split
      case isTrue heq =>
        rw [heq, hk] at hu
        exact absurd (Option.some.inj hu).symm hne
      case isFalse => exact hu

/-- The slots in use do not have the handle that is settled. -/
theorem State.Ledger.slot_of_settled (h : s.Ledger fate) {k : Handle} (hk : (s.calls t).handle = some k) (settled : Fate)
    (g : FilamentId) (slot : Nat) (hslot : slot < (s.tables g).threadCount) :
    (s.tables g).threads slot < s.duplicated.length ∧
      Function.update fate k settled ((s.tables g).threads slot) = .stored g slot := by
  obtain ⟨hj, hfate⟩ := h.slot g slot hslot
  refine ⟨hj, ?_⟩
  rw [Function.update_of_ne, hfate]
  intro heq
  rw [heq, ((h.pending t k).mp hk).2] at hfate
  cases hfate

/-- The handle gets the next slot. -/
theorem State.Ledger.store (h : s.Ledger fate) {k : Handle} (hk : (s.calls t).handle = some k) {pc : CallPc}
    (hpc : pc.handle = none) (hcalls : s'.calls = Function.update s.calls t pc)
    (htables : s'.tables = Function.update s.tables f
      { threads     := Function.update (s.tables f).threads (s.tables f).threadCount k
        threadCount := (s.tables f).threadCount + 1 })
    (hstage : s'.stage = s.stage) (hlive : s.stage f ≠ .destroyed) (hduplicated : s'.duplicated = s.duplicated)
    (hclosed : s'.closed = s.closed) : s'.Ledger (Function.update fate k (.stored f (s.tables f).threadCount)) := by
  obtain ⟨hlt, hpending⟩ := (h.pending t k).mp hk
  exact {
    pending := h.pending_of_settled hk hpc (fun _ => Fate.noConfusion) hcalls hduplicated
    slot    := by
      intro g slot hslot
      rw [hduplicated]
      have hother := h.slot_of_settled hk (.stored f (s.tables f).threadCount)
      by_cases hg : g = f
      · subst hg
        rw [htables, Function.update_self] at hslot ⊢
        rcases Nat.lt_succ_iff_lt_or_eq.mp hslot with hless | rfl
        · simp only [Function.update_of_ne (Nat.ne_of_lt hless)]
          exact hother g slot hless
        · simp only [Function.update_self, and_true]
          exact hlt
      · rw [htables, Function.update_of_ne hg] at hslot ⊢
        exact hother g slot hslot
    stored  := by
      intro j g slot hj hfate
      rw [hduplicated] at hj
      rw [Function.update_apply] at hfate
      split at hfate
      case isTrue heq =>
        cases hfate
        rw [htables, Function.update_self, heq]
        exact ⟨Nat.lt_succ_self _, Function.update_self ..⟩
      case isFalse =>
        obtain ⟨hslot, hthread⟩ := h.stored j g slot hj hfate
        by_cases hg : g = f
        · subst hg
          rw [htables, Function.update_self]
          exact ⟨Nat.lt_succ_of_lt hslot, (Function.update_of_ne (Nat.ne_of_lt hslot) ..).trans hthread⟩
        · rw [htables, Function.update_of_ne hg]
          exact ⟨hslot, hthread⟩
    nodup   := hclosed ▸ h.nodup
    closed  := by
      intro j c
      rw [hclosed, hstage, hduplicated, h.closed j c, Function.update_apply]
      split
      case isTrue heq =>
        rw [heq, hpending, Fate.closedBy, Fate.closedBy, if_neg hlive]
      case isFalse => rfl }

/-- The registration is logged, and the thread is no longer registering. -/
theorem State.Registered.store (h : s.Registered) {k : Handle} {derived : Bool} {old : Option FilamentId}
    (hpc : s.calls t = .duplicated f derived old k) (hroom : (s.tables f).threadCount ≠ cfixMaxThreads)
    (hcalls : s'.calls = Function.update s.calls t (.registered f derived old))
    (htables : s'.tables = Function.update s.tables f
      { threads     := Function.update (s.tables f).threads (s.tables f).threadCount k
        threadCount := (s.tables f).threadCount + 1 })
    (hstage : s'.stage = s.stage) (hduplicated : s'.duplicated = s.duplicated)
    (hregistered : s'.registered = Function.update s.registered f (s.registered f ++ [(t, k)]))
    (hregistering : s'.registering = Function.update s.registering f ((s.registering f).erase t))
    (hchild : s'.world.childThreads = Function.update s.world.childThreads f (s.world.childThreads f ++ [t]))
    (htls : s'.world.tls = s.world.tls) : s'.Registered where
  bounded     := by
    intro g
    rw [htables, Function.update_apply]
    split
    case isTrue  => exact Nat.lt_of_le_of_ne (h.bounded f) hroom
    case isFalse => exact h.bounded g
  log         := by
    intro g
    rw [htables, hregistered, Function.update_apply, Function.update_apply]
    split
    case isTrue =>
      rw [ChildThreads.handles_store, h.log f, List.map_append]
      rfl
    case isFalse => exact h.log g
  threads     := by
    intro g
    rw [hchild, hregistered, Function.update_apply, Function.update_apply]
    split
    case isTrue =>
      rw [h.threads f, List.map_append]
      rfl
    case isFalse => exact h.threads g
  owner       := by
    intro g p hp
    rw [hregistered, Function.update_apply] at hp
    rw [hduplicated]
    split at hp
    case isTrue =>
      rcases List.mem_append.mp hp with hp | hp
      · exact h.owner f p hp
      · obtain rfl := List.mem_singleton.mp hp
        apply h.caller t k
        rw [hpc]
        rfl
    case isFalse => exact h.owner g p hp
  caller      := by
    intro u j hu
    rw [hcalls, Function.update_apply] at hu
    rw [hduplicated]
    split at hu
    case isTrue  => cases hu
    case isFalse => exact h.caller u j hu
  registering := by
    intro u g derived' old' j hu
    rw [hcalls, Function.update_apply] at hu
    rw [hregistering, hstage, Function.update_apply]
    split at hu
    case isTrue => cases hu
    case isFalse hne =>
      obtain ⟨hmem, hlive⟩ := h.registering u g derived' old' j hu
      refine ⟨?_, hlive⟩
      split
      case isTrue heq =>
        rw [heq] at hmem
        exact (List.mem_erase_of_ne hne).mpr hmem
      case isFalse => exact hmem
  reset       := by
    intro u g derived' j hu
    rw [hcalls, Function.update_apply] at hu
    rw [htls]
    split at hu
    case isTrue  => cases hu
    case isFalse => exact h.reset u g derived' j hu

theorem keeps_register (h : s.Inv) : (s.register t).Keeps State.Inv := by
  obtain ⟨hreg, fate, hledger⟩ := h
  unfold State.register
  cases hpc : s.calls t with
  | duplicated f derived old k =>
      simp only
      cases hcall : registerChildThreadFilament f t s.world with
      | none   => trivial
      | some p =>
          obtain ⟨hr, w⟩ := p
          obtain ⟨hmem, hlive⟩ := hreg.registering t f derived old k hpc
          have hhandle : (s.calls t).handle = some k := by rw [hpc]; rfl
          obtain ⟨htls, hfull | hroom⟩ := registerChildThreadFilament_some hcall
          · obtain ⟨hcount, -, hchild⟩ := hfull
            rw [hreg.length_childThreads] at hcount
            simp only [ChildThreads.register, if_pos hcount, failed_eTooManyChildThreads, if_true]
            refine ⟨hreg.of_call rfl (fun _ hk => hhandle.trans hk) rfl rfl rfl rfl ?_ hchild (fun u _ => by rw [htls])
              (fun _ _ _ _ hpc => nomatch hpc) (fun _ _ _ hpc => nomatch hpc), fate,
              hledger.of_call rfl hhandle.symm rfl rfl rfl rfl⟩
            intro u g hne hu
            show u ∈ Function.update s.registering f ((s.registering f).erase t) g
            rw [Function.update_apply]
            split
            case isTrue heq =>
              rw [heq] at hu
              exact (List.mem_erase_of_ne hne).mpr hu
            case isFalse => exact hu
          · obtain ⟨hcount, -, hchild⟩ := hroom
            rw [hreg.length_childThreads] at hcount
            simp only [ChildThreads.register, if_neg hcount, failed_sOk, Bool.false_eq_true, if_false]
            exact ⟨hreg.store hpc hcount rfl rfl rfl rfl rfl rfl hchild htls, _,
              hledger.store hhandle rfl rfl rfl rfl hlive rfl rfl⟩
  | _ => trivial

/-! ### The rest of the call -/

theorem keeps_reset (h : s.Inv) : (s.step F (.reset t)).Keeps State.Inv := by
  obtain ⟨hreg, fate, hledger⟩ := h
  simp only [State.step]
  cases hpc : s.calls t with
  | rejected f derived k =>
      have hhandle : (s.calls t).handle = some k := by rw [hpc]; rfl
      refine ⟨hreg.of_call rfl (fun _ hk => hhandle.trans hk) rfl rfl rfl rfl (fun _ _ _ => id) rfl ?_
        (fun _ _ _ _ hpc => nomatch hpc) ?_, fate, hledger.of_call rfl hhandle.symm rfl rfl rfl rfl⟩
      · intro u hu
        exact Function.update_of_ne hu ..
      · intro _ _ _ _
        exact Function.update_self ..
  | _ => trivial

/-- The thread that was rejected closes its handle. -/
theorem State.Ledger.close (h : s.Ledger fate) {k : Handle} (hk : (s.calls t).handle = some k)
    (hcalls : s'.calls = Function.update s.calls t .idle) (htables : s'.tables = s.tables) (hstage : s'.stage = s.stage)
    (hduplicated : s'.duplicated = s.duplicated) (hclosed : s'.closed = s.closed ++ [(k, .rejection t f)]) :
    s'.Ledger (Function.update fate k (.rejected t f)) := by
  obtain ⟨hlt, hpending⟩ := (h.pending t k).mp hk
  exact {
    pending := h.pending_of_settled hk rfl (fun _ => Fate.noConfusion) hcalls hduplicated
    slot    := by
      rw [htables, hduplicated]
      exact h.slot_of_settled hk _
    stored  := by
      intro j g slot hj hfate
      rw [hduplicated] at hj
      rw [htables]
      rw [Function.update_apply] at hfate
      split at hfate
      case isTrue  => cases hfate
      case isFalse => exact h.stored j g slot hj hfate
    nodup   := by
      rw [hclosed, List.map_append]
      apply h.nodup.append (List.nodup_singleton _)
      intro j hj hsingle
      obtain rfl := List.mem_singleton.mp hsingle
      obtain ⟨p, hp, rfl⟩ := List.mem_map.mp hj
      exact h.open_of_pending hk p.2 hp
    closed  := by
      intro j c
      rw [hclosed, hduplicated, hstage, List.mem_append, List.mem_singleton, h.closed j c, Function.update_apply]
      constructor
      · rintro (⟨hj, hfate⟩ | heq)
        · refine ⟨hj, ?_⟩
          split
          case isTrue heq =>
            rw [heq, hpending] at hfate
            cases hfate
          case isFalse => exact hfate
        · cases heq
          rw [if_pos rfl]
          exact ⟨hlt, rfl⟩
      · rintro ⟨hj, hfate⟩
        split at hfate
        case isTrue heq =>
          right
          rw [heq, Option.some.inj hfate]
        case isFalse => exact .inl ⟨hj, hfate⟩ }

theorem keeps_close (h : s.Inv) : (s.step F (.close t)).Keeps State.Inv := by
  obtain ⟨hreg, fate, hledger⟩ := h
  simp only [State.step]
  cases hpc : s.calls t with
  | closing f derived k =>
      have hhandle : (s.calls t).handle = some k := by rw [hpc]; rfl
      obtain ⟨htls, hchild⟩ := leaveDefault_frame derived s.world
      simp only [closeHandle_open (hledger.open_of_pending hhandle), Taken.of]
      exact ⟨hreg.of_call rfl (fun _ hk => nomatch hk) rfl rfl rfl rfl (fun _ _ _ => id) hchild
        (fun u _ => by rw [htls]) (fun _ _ _ _ hpc => nomatch hpc) (fun _ _ _ hpc => nomatch hpc), _,
        hledger.close hhandle rfl rfl rfl rfl rfl⟩
  | _ => trivial

theorem keeps_install (h : s.Inv) : (s.step F (.install t)).Keeps State.Inv := by
  obtain ⟨hreg, fate, hledger⟩ := h
  simp only [State.step]
  cases hpc : s.calls t with
  | registered f derived old =>
      simp only
      cases hcall : updateDefault F t old (some f) s.world with
      | none   => trivial
      | some p =>
          obtain ⟨hr, w⟩ := p
          obtain ⟨htls, hchild, -, -⟩ := updateDefault_some F hcall
          have hhandle : CallPc.handle .idle = (s.calls t).handle := by rw [hpc]; rfl
          simp only
          split
          case isTrue =>
            obtain ⟨htls', hchild'⟩ := leaveDefault_frame derived w
            exact ⟨hreg.of_call rfl (fun _ hk => nomatch hk) rfl rfl rfl rfl (fun _ _ _ => id) (hchild'.trans hchild)
              (fun u _ => by rw [htls', htls]) (fun _ _ _ _ hpc => nomatch hpc) (fun _ _ _ hpc => nomatch hpc), fate,
              hledger.of_call rfl hhandle rfl rfl rfl rfl⟩
          case isFalse =>
            obtain ⟨htls', hchild'⟩ := leaveDefault_frame derived (w.setTls t (some f) derived)
            refine ⟨hreg.of_call rfl (fun _ hk => nomatch hk) rfl rfl rfl rfl (fun _ _ _ => id) (hchild'.trans hchild) ?_
              (fun _ _ _ _ hpc => nomatch hpc) (fun _ _ _ hpc => nomatch hpc), fate,
              hledger.of_call rfl hhandle rfl rfl rfl rfl⟩
            intro u hu
            rw [htls', ← htls]
            exact Function.update_of_ne hu ..
  | _ => trivial

theorem keeps_set (h : s.Inv) (new : Option FilamentId) : (s.step F (.set t new)).Keeps State.Inv := by
  obtain ⟨hreg, fate, hledger⟩ := h
  simp only [State.step]
  split
  case isFalse => trivial
  case isTrue hsets =>
    obtain ⟨hidle, hnot⟩ := hsets
    cases hcall : setCurrentFilament F t new false sOk s.world with
    | none   => trivial
    | some p =>
        obtain ⟨hr, prev, w⟩ := p
        obtain ⟨hchild, htls⟩ := setCurrentFilament_registersNothing hnot hcall
        have hsame : s.calls = Function.update s.calls t .idle := by
          rw [← hidle, Function.update_eq_self]
        have hhandle : CallPc.handle .idle = (s.calls t).handle := by rw [hidle]
        exact ⟨hreg.of_call hsame (fun _ hk => nomatch hk) rfl rfl rfl rfl (fun _ _ _ => id) hchild htls
          (fun _ _ _ _ hpc => nomatch hpc) (fun _ _ _ hpc => nomatch hpc), fate,
          hledger.of_call hsame hhandle rfl rfl rfl rfl⟩

/-! ### The end of the filament -/

/-- A filament gets on that is not destroyed. -/
theorem State.Ledger.of_stage (h : s.Ledger fate) {stage : Stage} (hold : s.stage f ≠ .destroyed)
    (hnew : stage ≠ .destroyed) (hstage : s'.stage = Function.update s.stage f stage) (hcalls : s'.calls = s.calls)
    (htables : s'.tables = s.tables) (hduplicated : s'.duplicated = s.duplicated) (hclosed : s'.closed = s.closed) :
    s'.Ledger fate where
  pending := by
    rw [hcalls, hduplicated]
    exact h.pending
  slot    := by
    rw [htables, hduplicated]
    exact h.slot
  stored  := by
    rw [htables, hduplicated]
    exact h.stored
  nodup   := hclosed ▸ h.nodup
  closed  := by
    intro k c
    have hsame : (fate k).closedBy s'.stage = (fate k).closedBy s.stage := by
      cases fate k with
      | pending u    => rfl
      | rejected u g => rfl
      | stored g slot =>
          rw [Fate.closedBy, Fate.closedBy, hstage, Function.update_apply]
          by_cases hg : g = f
          · rw [if_pos hg, if_neg hnew, hg, if_neg hold]
          · rw [if_neg hg]
    rw [hclosed, hduplicated, hsame]
    exact h.closed k c

theorem State.Registered.of_stage (h : s.Registered) (stage : Stage)
    (hregistering : stage = .destroyed → s.registering f = []) (hstage : s'.stage = Function.update s.stage f stage)
    (hcalls : s'.calls = s.calls) (htables : s'.tables = s.tables) (hduplicated : s'.duplicated = s.duplicated)
    (hregistered : s'.registered = s.registered) (hkept : s'.registering = s.registering)
    (hchild : s'.world.childThreads = s.world.childThreads) (htls : s'.world.tls = s.world.tls) : s'.Registered where
  bounded     := htables ▸ h.bounded
  log         := by
    rw [htables, hregistered]
    exact h.log
  threads     := by
    rw [hchild, hregistered]
    exact h.threads
  owner       := by
    rw [hduplicated, hregistered]
    exact h.owner
  caller      := by
    rw [hcalls, hduplicated]
    exact h.caller
  registering := by
    intro u g derived old k hu
    rw [hcalls] at hu
    rw [hkept, hstage, Function.update_apply]
    obtain ⟨hmem, hlive⟩ := h.registering u g derived old k hu
    refine ⟨hmem, ?_⟩
    split
    case isTrue heq =>
      -- nobody registers with a filament that is destroyed
      intro hdestroyed
      rw [heq, hregistering hdestroyed] at hmem
      exact List.not_mem_nil hmem
    case isFalse => exact hlive
  reset       := by
    rw [hcalls, htls]
    exact h.reset

theorem keeps_beginJoin (h : s.Inv) : (s.step F (.beginJoin f)).Keeps State.Inv := by
  obtain ⟨hreg, fate, hledger⟩ := h
  simp only [State.step]
  split
  case isFalse => trivial
  case isTrue hactive =>
    cases (s.world.childLock f).enter (F f).mainThreadId with
    | none      => trivial
    | some lock =>
        have hold : s.stage f ≠ .destroyed := by
          rw [hactive]
          exact Stage.noConfusion
        have hopen : ¬ (s.tables f).handles.any (s.closed.map (·.1)).contains = true := by
          rw [List.any_eq_true]
          rintro ⟨k, hk, hclosed⟩
          obtain ⟨p, hp, rfl⟩ := List.mem_map.mp (List.contains_iff_mem.mp hclosed)
          exact hold ((hledger.closed_of_slot hk p.2).mp hp).2
        simp only [if_neg hopen]
        exact ⟨hreg.of_stage .joining (fun hnew => nomatch hnew) rfl rfl rfl rfl rfl rfl rfl rfl, fate,
          hledger.of_stage hold Stage.noConfusion rfl rfl rfl rfl rfl⟩

theorem keeps_endJoin (h : s.Inv) : (s.step F (.endJoin f)).Keeps State.Inv := by
  obtain ⟨hreg, fate, hledger⟩ := h
  simp only [State.step]
  split
  case isFalse => trivial
  case isTrue hjoining =>
    have hold : s.stage f ≠ .destroyed := by
      rw [hjoining]
      exact Stage.noConfusion
    exact ⟨hreg.of_stage .joined (fun hnew => nomatch hnew) rfl rfl rfl rfl rfl rfl rfl rfl, fate,
      hledger.of_stage hold Stage.noConfusion rfl rfl rfl rfl rfl⟩

/-- `CfixpDestroyFilament` closes the handles of the slots in use, which were open. -/
theorem State.Ledger.destroy (h : s.Ledger fate) (hold : s.stage f ≠ .destroyed)
    (hstage : s'.stage = Function.update s.stage f .destroyed) (hcalls : s'.calls = s.calls)
    (htables : s'.tables = s.tables) (hduplicated : s'.duplicated = s.duplicated)
    (hclosed : s'.closed = s.closed ++ (s.tables f).handles.map (·, .destruction f)) : s'.Ledger fate where
  pending := by
    rw [hcalls, hduplicated]
    exact h.pending
  slot    := by
    rw [htables, hduplicated]
    exact h.slot
  stored  := by
    rw [htables, hduplicated]
    exact h.stored
  nodup   := by
    have hhandles : ((s.tables f).handles.map (fun k => (k, Closer.destruction f))).map (·.1) = (s.tables f).handles := by
      rw [List.map_map]
      exact List.map_id _
    rw [hclosed, List.map_append, hhandles]
    apply h.nodup.append (h.nodup_handles f)
    intro k hk hhandle
    obtain ⟨p, hp, rfl⟩ := List.mem_map.mp hk
    exact hold ((h.closed_of_slot hhandle p.2).mp hp).2
  closed  := by
    intro k c
    rw [hclosed, hduplicated, hstage, List.mem_append, h.closed k c, List.mem_map]
    constructor
    · rintro (⟨hk, hby⟩ | ⟨j, hj, heq⟩)
      · refine ⟨hk, ?_⟩
        cases hfate : fate k with
        | pending u =>
            rw [hfate] at hby
            exact hby
        | rejected u g =>
            rw [hfate] at hby
            exact hby
        | stored g slot =>
            rw [hfate, Fate.closedBy] at hby
            rw [Fate.closedBy, Function.update_apply]
            split
            case isTrue heq =>
              rw [heq, if_neg hold] at hby
              cases hby
            case isFalse => exact hby
      · cases heq
        obtain ⟨hk, slot, hfate⟩ := h.mem_handles.mp hj
        rw [hfate, Fate.closedBy, Function.update_self, if_pos rfl]
        exact ⟨hk, rfl⟩
    · rintro ⟨hk, hby⟩
      cases hfate : fate k with
      | pending u =>
          rw [hfate] at hby
          cases hby
      | rejected u g =>
          rw [hfate] at hby
          exact .inl ⟨hk, hby⟩
      | stored g slot =>
          rw [hfate, Fate.closedBy, Function.update_apply] at hby
          by_cases hg : g = f
          · subst hg
            rw [if_pos rfl, if_pos rfl] at hby
            right
            exact ⟨k, h.mem_handles.mpr ⟨hk, slot, hfate⟩, by rw [Option.some.inj hby]⟩
          · rw [if_neg hg] at hby
            exact .inl ⟨hk, hby⟩

theorem keeps_destroy (h : s.Inv) : (s.step F (.destroy f)).Keeps State.Inv := by
  obtain ⟨hreg, fate, hledger⟩ := h
  simp only [State.step]
  split
  case isFalse => trivial
  case isTrue hends =>
    obtain ⟨hstage, hnobody⟩ := hends
    have hold : s.stage f ≠ .destroyed := by
      rcases hstage with hstage | hstage
      · rw [hstage]
        exact Stage.noConfusion
      · rw [hstage]
        exact Stage.noConfusion
    have hopen : ∀ k ∈ (s.tables f).handles, ∀ c, (k, c) ∉ s.closed := by
      intro k hk c hc
      exact hold ((hledger.closed_of_slot hk c).mp hc).2
    simp only [closeHandles_open (hledger.nodup_handles f) hopen, Taken.of]
    exact ⟨hreg.of_stage .destroyed (fun _ => hnobody) rfl rfl rfl rfl rfl rfl rfl rfl, fate,
      hledger.destroy hold rfl rfl rfl rfl rfl⟩

theorem keeps_step (h : s.Inv) (a : Action) : (s.step F a).Keeps State.Inv := by
  cases a with
  | begin_ t f derived handleHr => exact keeps_begin h derived handleHr
  | register t                  => exact keeps_register h
  | reset t                     => exact keeps_reset h
  | close t                     => exact keeps_close h
  | install t                   => exact keeps_install h
  | set t new                   => exact keeps_set h new
  | beginJoin f                 => exact keeps_beginJoin h
  | endJoin f                   => exact keeps_endJoin h
  | destroy f                   => exact keeps_destroy h

/-! ## Calls that are not interrupted -/

/-- What the first part of a call does that gets a handle. -/
theorem begin_done {handleHr : HRESULT} (hok : failed handleHr = false) (h : s.begin_ F t f false handleHr = .done s') :
    t ≠ (F f).mainThreadId ∧ s'.world = dereferenceOld F (s.world.tls t).filament s.world ∧
      s'.calls t = .duplicated f false (s.world.tls t).filament s.duplicated.length := by
  unfold State.begin_ at h
  split at h
  case isFalse => cases h
  case isTrue hbegins =>
    simp only [enterDefault, Bool.false_eq_true, if_false, hok] at h
    cases h
    exact ⟨hbegins.2.1, rfl, Function.update_self ..⟩

/-- The registration gives the same result as with the list of threads. -/
theorem register_done (hreg : s.Registered) {derived : Bool} {old : Option FilamentId} {k : Handle}
    (hpc : s.calls t = .duplicated f derived old k) (h : s.register t = .done s') :
    (registerChildThreadFilament f t s.world = some (eTooManyChildThreads, s'.world) ∧ s'.calls t = .rejected f derived k) ∨
      (registerChildThreadFilament f t s.world = some (sOk, s'.world) ∧ s'.calls t = .registered f derived old) := by
  unfold State.register at h
  rw [hpc] at h
  simp only at h
  cases hcall : registerChildThreadFilament f t s.world with
  | none   =>
      rw [hcall] at h
      cases h
  | some p =>
      obtain ⟨hr, w⟩ := p
      rw [hcall] at h
      simp only at h
      obtain ⟨-, ⟨hcount, rfl, -⟩ | ⟨hcount, rfl, -⟩⟩ := registerChildThreadFilament_some hcall
      · rw [hreg.length_childThreads] at hcount
        simp only [ChildThreads.register, if_pos hcount, failed_eTooManyChildThreads, if_true] at h
        cases h
        exact .inl ⟨rfl, Function.update_self ..⟩
      · rw [hreg.length_childThreads] at hcount
        simp only [ChildThreads.register, if_neg hcount, failed_sOk, Bool.false_eq_true, if_false] at h
        cases h
        exact .inr ⟨rfl, Function.update_self ..⟩

theorem registered_of_done (h : s.Inv) {a : Action} (hdone : s.step F a = .done s') : s'.Registered := by
  have hkeeps := keeps_step (F := F) h a
  rw [hdone] at hkeeps
  exact hkeeps.1

/-- **The steps of a registration are `CfixsSetCurrentFilament`**, where nothing comes in between. -/
theorem setCurrentFilament_of_steps (h : s.Inv) {handleHr : HRESULT} (hok : failed handleHr = false)
    (hrun : run (nextOf (State.step F)) s [.begin_ t f false handleHr, .register t, .install t] = some s') :
    ∃ hr prev, setCurrentFilament F t (some f) false handleHr s.world = some (hr, prev, s'.world) := by
  obtain ⟨s₁, hbegin, hrun⟩ := run_cons.mp hrun
  obtain ⟨s₂, hregister, hrun⟩ := run_cons.mp hrun
  obtain ⟨s₃, hinstall, hrun⟩ := run_cons.mp hrun
  cases hrun
  rw [nextOf_eq_some] at hbegin hregister hinstall
  have hreg := registered_of_done h hbegin
  obtain ⟨hmain, hworld, hpc⟩ := begin_done hok hbegin
  simp only [setCurrentFilament, registerCurrentThread, if_pos hmain, hok, Bool.false_eq_true, if_false, ← hworld]
  rcases register_done hreg hpc hregister with ⟨-, hpc₂⟩ | ⟨hcall, hpc₂⟩
  · simp only [State.step, hpc₂] at hinstall
    cases hinstall
  · simp only [State.step, hpc₂] at hinstall
    simp only [hcall, Option.map_some, failed_sOk, Bool.false_eq_true, if_false]
    cases hdefault : updateDefault F t (s.world.tls t).filament (some f) s₂.world with
    | none   =>
        rw [hdefault] at hinstall
        cases hinstall
    | some p =>
        obtain ⟨hr, w⟩ := p
        rw [hdefault] at hinstall
        simp only at hinstall ⊢
        by_cases hfailed : failed hr = true
        · rw [if_pos hfailed] at hinstall
          cases hinstall
          exact ⟨hr, none, by rw [if_pos hfailed]; rfl⟩
        · rw [if_neg hfailed] at hinstall
          cases hinstall
          exact ⟨sOk, (s.world.tls t).filament, by rw [if_neg hfailed]; rfl⟩

/-- The same for a thread that is rejected. -/
theorem setCurrentFilament_of_rejection (h : s.Inv) {handleHr : HRESULT} (hok : failed handleHr = false)
    (hrun : run (nextOf (State.step F)) s [.begin_ t f false handleHr, .register t, .reset t, .close t] = some s') :
    setCurrentFilament F t (some f) false handleHr s.world = some (eTooManyChildThreads, none, s'.world) := by
  obtain ⟨s₁, hbegin, hrun⟩ := run_cons.mp hrun
  obtain ⟨s₂, hregister, hrun⟩ := run_cons.mp hrun
  obtain ⟨s₃, hreset, hrun⟩ := run_cons.mp hrun
  obtain ⟨s₄, hclose, hrun⟩ := run_cons.mp hrun
  cases hrun
  rw [nextOf_eq_some] at hbegin hregister hreset hclose
  have hreg := registered_of_done h hbegin
  obtain ⟨hmain, hworld, hpc⟩ := begin_done hok hbegin
  simp only [setCurrentFilament, registerCurrentThread, if_pos hmain, hok, Bool.false_eq_true, if_false, ← hworld]
  rcases register_done hreg hpc hregister with ⟨hcall, hpc₂⟩ | ⟨-, hpc₂⟩
  · simp only [State.step, hpc₂] at hreset
    cases hreset
    simp only [State.step, State.at, Function.update_self] at hclose
    simp only [hcall, Option.map_some, failed_eTooManyChildThreads, if_true]
    cases hclosed : closeHandle (.rejection t f) s.duplicated.length s₂.closed with
    | none        =>
        rw [hclosed] at hclose
        cases hclose
    | some closed =>
        rw [hclosed] at hclose
        cases hclose
        rfl
  · simp only [State.step, hpc₂] at hreset
    cases hreset

/-! ## The accounts -/

/-- The handles that were duplicated are accounted for. -/
structure State.Accounted (F : FilamentId → Filament) (s : State) : Prop where
  bounded    : ∀ f, (s.tables f).threadCount ≤ cfixMaxThreads
  /-- The slots have the handles of the registrations, in order and each once. -/
  stored     : ∀ f, (s.tables f).handles = (s.registered f).map (·.2) ∧ (s.tables f).handles.Nodup
  /-- A registration is one of the thread that has duplicated the handle. -/
  owned      : ∀ f p, p ∈ s.registered f → s.duplicated[p.2]? = some p.1
  /-- A thread that was rejected returns without a current filament. -/
  rejected   : ∀ t s', s.step F (.close t) = .done s' → s'.world.tls t = ⟨none, false⟩
  /-- A thread that does not get a handle keeps the filament that it had. -/
  refused    : ∀ t f derived handleHr s', failed handleHr = true → s.step F (.begin_ t f derived handleHr) = .done s' →
    s'.world.tls = s.world.tls ∧ s'.duplicated = s.duplicated
  /-- A handle belongs to the call that has duplicated it, or was registered, or was closed on rejection. -/
  fates      : ∀ h, h < s.duplicated.length →
    (∃ t, (s.calls t).handle = some h) ∨ (∃ f, h ∈ (s.tables f).handles) ∨ ∃ t f, (h, .rejection t f) ∈ s.closed
  pending    : ∀ t h c, (s.calls t).handle = some h → (h, c) ∉ s.closed
  /-- The handles that were registered are closed by `CfixpDestroyFilament`. -/
  destroyed  : ∀ f h c, h ∈ (s.tables f).handles → ((h, c) ∈ s.closed ↔ c = .destruction f ∧ s.stage f = .destroyed)
  closedOnce : (s.closed.map (·.1)).Nodup
  /-- In the end, every handle has been closed once. -/
  final      : ∀ h, h < s.duplicated.length → (∀ t, (s.calls t).handle ≠ some h) →
    (∀ f, h ∈ (s.tables f).handles → s.stage f = .destroyed) → (s.closed.map (·.1)).count h = 1
  /-- No step uses a closed handle. -/
  safe       : ∀ a, s.step F a ≠ .faults

theorem State.Ledger.fates (h : s.Ledger fate) {k : Handle} (hk : k < s.duplicated.length) :
    (∃ t, (s.calls t).handle = some k) ∨ (∃ f, k ∈ (s.tables f).handles) ∨ ∃ t f, (k, .rejection t f) ∈ s.closed := by
  cases hfate : fate k with
  | pending t     => exact .inl ⟨t, (h.pending t k).mpr ⟨hk, hfate⟩⟩
  | stored f slot => exact .inr (.inl ⟨f, h.mem_handles.mpr ⟨hk, slot, hfate⟩⟩)
  | rejected t f  =>
      right
      right
      refine ⟨t, f, (h.closed k _).mpr ⟨hk, ?_⟩⟩
      rw [hfate]
      rfl

/-- A thread that closes its handle has reset its TLS slot. -/
theorem State.Registered.rejected (h : s.Registered) (hclose : s.step F (.close t) = .done s') :
    s'.world.tls t = ⟨none, false⟩ := by
  simp only [State.step] at hclose
  cases hpc : s.calls t with
  | closing f derived k =>
      rw [hpc] at hclose
      simp only at hclose
      cases hclosed : closeHandle (.rejection t f) k s.closed with
      | none =>
          rw [hclosed] at hclose
          cases hclose
      | some closed =>
          rw [hclosed] at hclose
          cases hclose
          show (leaveDefault derived s.world).tls t = _
          rw [(leaveDefault_frame derived s.world).1]
          exact h.reset t f derived k hpc
  | _ =>
      rw [hpc] at hclose
      cases hclose

theorem begin_refused {derived : Bool} {handleHr : HRESULT} (hfailed : failed handleHr = true)
    (h : s.begin_ F t f derived handleHr = .done s') : s'.world.tls = s.world.tls ∧ s'.duplicated = s.duplicated := by
  unfold State.begin_ at h
  split at h
  case isFalse => cases h
  case isTrue =>
    cases hlock : enterDefault t f derived s.world with
    | none   =>
        rw [hlock] at h
        cases h
    | some w =>
        rw [hlock] at h
        simp only at h
        cases h
        refine ⟨?_, rfl⟩
        show (leaveDefault derived (dereferenceOld F (w.tls t).filament w)).tls = _
        rw [(leaveDefault_frame derived _).1, (dereferenceOld_frame F _ w).1, (enterDefault_some hlock).1]

/-- **Child thread handles are accounted for**, in every interleaving. -/
theorem accounted_run {as : List Action} (hr : run (nextOf (State.step F)) .initial as = some s) : s.Accounted F := by
  obtain ⟨⟨hreg, fate, hledger⟩, hsafe⟩ := safe_run (I := State.Inv) (fun _ a h => keeps_step h a) inv_initial hr
  exact {
    bounded    := hreg.bounded
    stored     := fun f => ⟨hreg.log f, hledger.nodup_handles f⟩
    owned      := hreg.owner
    rejected   := fun t s' hclose => hreg.rejected hclose
    refused    := fun t f derived handleHr s' hfailed hbegin => begin_refused hfailed hbegin
    fates      := fun h hh => hledger.fates hh
    pending    := fun t h c hh => hledger.open_of_pending hh c
    destroyed  := fun f h c hh => hledger.closed_of_slot hh c
    closedOnce := hledger.nodup
    final      := by
      intro h hh hcalls hdestroyed
      apply List.count_eq_one_of_mem hledger.nodup
      rcases hledger.fates hh with ⟨t, ht⟩ | ⟨f, hf⟩ | ⟨t, f, hclosed⟩
      · exact absurd ht (hcalls t)
      · have hmem := (hledger.closed_of_slot hf (.destruction f)).mpr ⟨rfl, hdestroyed f hf⟩
        exact List.mem_map.mpr ⟨_, hmem, rfl⟩
      · exact List.mem_map.mpr ⟨_, hclosed, rfl⟩
    safe       := hsafe }

/-- Two child threads, of which the second one registers first. -/
def twoChildThreads : List Action :=
  [.begin_ 1 0 false sOk, .begin_ 2 0 false sOk, .register 2, .register 1, .install 1, .install 2,
   .beginJoin 0, .endJoin 0, .destroy 0]

theorem accounted_twoChildThreads :
    ∃ s, run (nextOf (State.step fun _ => ⟨0, 0, 0#32⟩)) .initial twoChildThreads = some s ∧
      s.Accounted (fun _ => ⟨0, 0, 0#32⟩) ∧ s.registered 0 = [(2, 1), (1, 0)] ∧
      s.closed = [(1, .destruction 0), (0, .destruction 0)] :=
  ⟨_, rfl, accounted_run (rfl : run (nextOf (State.step fun _ => ⟨0, 0, 0#32⟩)) .initial twoChildThreads = _), rfl, rfl⟩

end Cfix.ChildHandles
