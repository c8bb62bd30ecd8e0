import Mathlib.Logic.Function.Basic
import Cfix.Lib.RwLock
import Cfix.Lib.Transition

/-!
# `Kernel.Registry` — the driver connection registry (`cfixkr/drvconnreg.c`, `cfixkr/drvconn.c`)

Connections are counted objects in a table keyed by load address; the table holds no reference. Any number
of threads look connections up, reference and dereference them, and register new ones. The count is changed
by interlocked operations outside the table's lock, so each of these functions is several steps here: a
step ends where another thread can intervene.
-/

namespace Cfix.Registry

/-! ## State -/

abbrev ThreadId    := Nat
abbrev ConnId      := Nat
abbrev LoadAddress := Nat

/-- `CFIXKRP_DRIVER_CONNECTION`. `deletions` counts how often its deletion code was started, `freed` says
    that `ExFreePoolWithTag` was called. -/
structure Connection where
  driverLoadAddress : LoadAddress
  referenceCount    : Int
  freed             : Bool
  deletions         : Nat
  deriving DecidableEq, Repr

/-- Where a thread stands. -/
inductive Pc where
  | idle
  /-- `CfixkrpLookupDriverConnection`, owning the lock shared. -/
  | lookupLocked (address : LoadAddress)
  /-- It has read the entry and has not referenced the connection. -/
  | lookupFound (c : ConnId)
  | lookupDone
  /-- `CfixkrpRegisterDriverConnection` of a new connection, waiting for the lock. -/
  | registerWaiting (c : ConnId)
  | registerLocked (c : ConnId)
  | registerDone
  /-- `CfixkrpDereferenceConnection` after its decrement returned 0. -/
  | dying (c : ConnId)
  /-- `CfixkrpUnregisterDriverConnection` from the deletion code. -/
  | unregisterWaiting (c : ConnId)
  | unregisterLocked (c : ConnId)
  | unregisterRemoved (c : ConnId)
  /-- The rest of the deletion code: the adapter, the lock and the memory. -/
  | unregistered (c : ConnId)
  deriving DecidableEq, Repr

/-- The registry, the connections and the threads. -/
structure State where
  /-- `CfixkrsDriverConnectionRegistry.Connections`. -/
  table   : LoadAddress → Option ConnId
  lock    : RwLock ThreadId
  conns   : ConnId → Option Connection
  threads : ThreadId → Pc
  /-- The references that callers have taken and not given back. -/
  held    : List (ThreadId × ConnId)
  /-- Live connections whose registration was removed on behalf of another connection. -/
  evicted : List ConnId

/-- After `CfixkrpInitializeDriverConnectionRegistry`. -/
def State.initialized : State where
  table _   := none
  lock      := .free
  conns _   := none
  threads _ := .idle
  held      := []
  evicted   := []

def State.setPc (s : State) (t : ThreadId) (pc : Pc) : State :=
  { s with threads := Function.update s.threads t pc }

def State.setConn (s : State) (c : ConnId) (k : Connection) : State :=
  { s with conns := Function.update s.conns c (some k) }

/-- `CfixkrpReferenceConnection` by thread `t`, which holds the new reference. -/
def State.referenceConnection (s : State) (t : ThreadId) (c : ConnId) (k : Connection) : State :=
  { s with held := (t, c) :: s.held }.setConn c { k with referenceCount := k.referenceCount + 1 }

/-- `CfixkrpDereferenceConnection` by thread `t`, up to the deletion code. -/
def State.dereferenceConnection (s : State) (t : ThreadId) (c : ConnId) (k : Connection) : State :=
  let s := { s with held := s.held.erase (t, c) }
  if k.referenceCount - 1 = 0 then
    (s.setConn c { k with referenceCount := 0, deletions := k.deletions + 1 }).setPc t (.dying c)
  else s.setConn c { k with referenceCount := k.referenceCount - 1 }

/-! ## Steps -/

inductive Action where
  /-- `ExAcquireResourceSharedLite` of a lookup. -/
  | lookupAcquire (t : ThreadId) (address : LoadAddress)
  /-- `JphtGetEntryHashtable`. -/
  | lookupFind (t : ThreadId)
  /-- `CfixkrpReferenceConnection` of the connection found. -/
  | lookupReference (t : ThreadId)
  | lookupRelease (t : ThreadId)
  /-- `CfixkrpReferenceConnection` by a caller that holds a reference. -/
  | reference (t : ThreadId) (c : ConnId)
  /-- The `InterlockedDecrement` of `CfixkrpDereferenceConnection`. -/
  | dereference (t : ThreadId) (c : ConnId)
  /-- A caller leaves its reference to another thread: a driver may be loaded by one thread and unloaded by
      another. -/
  | handOver (t u : ThreadId) (c : ConnId)
  | unregisterRequest (t : ThreadId)
  | unregisterAcquire (t : ThreadId)
  /-- `JphtRemoveEntryHashtable`. -/
  | unregisterRemove (t : ThreadId)
  | unregisterRelease (t : ThreadId)
  | free (t : ThreadId)
  /-- `CfixkrpCreateAndRegisterDriverConnection` up to the registry's lock. -/
  | create (t : ThreadId) (c : ConnId) (address : LoadAddress)
  | registerAcquire (t : ThreadId)
  /-- `JphtPutEntryHashtable`; an entry with the same address is replaced. -/
  | registerPut (t : ThreadId)
  | registerRelease (t : ThreadId)
  deriving DecidableEq, Repr

/-- The connections that lose their registration, though they are alive, when `c` is unregistered. -/
def State.evictedBy (s : State) (c : ConnId) (address : LoadAddress) : List ConnId :=
  match s.table address with
  | some c' =>
    match s.conns c' with
    | some k' => if c' ≠ c ∧ 1 ≤ k'.referenceCount then [c'] else []
    | none    => []
  | none    => []

/-- One step of one thread; `none` if the thread is not at this point or has to wait. -/
def next (s : State) : Action → Option State
  | .lookupAcquire t address =>
    match s.threads t with
    | .idle => (s.lock.acquireShared t).map (fun lock => { s with lock := lock }.setPc t (.lookupLocked address))
    | _     => none
  | .lookupFind t =>
    match s.threads t with
    | .lookupLocked address =>
      -- the shared lock keeps the entry in the table, but not the connection alive
      match s.table address with
      | some c => some (s.setPc t (.lookupFound c))
      | none   => some (s.setPc t .lookupDone)
    | _ => none
  | .lookupReference t =>
    match s.threads t with
    | .lookupFound c =>
      -- `InterlockedIncrement`, whatever the count has become
      (s.conns c).map (fun k => (s.referenceConnection t c k).setPc t .lookupDone)
    | _ => none
  | .lookupRelease t =>
    match s.threads t with
    | .lookupDone => some ({ s with lock := s.lock.releaseShared t }.setPc t .idle)
    | _           => none
  | .reference t c =>
    if s.threads t = .idle ∧ (t, c) ∈ s.held then
      (s.conns c).map (fun k => s.referenceConnection t c k)
    else none
  | .dereference t c =>
    if s.threads t = .idle ∧ (t, c) ∈ s.held then
      (s.conns c).map (fun k => s.dereferenceConnection t c k)
    else none
  | .handOver t u c =>
    if s.threads t = .idle ∧ (t, c) ∈ s.held then
      some { s with held := (u, c) :: s.held.erase (t, c) }
    else none
  | .unregisterRequest t =>
    match s.threads t with
    | .dying c => some ({ s with lock := s.lock.request t }.setPc t (.unregisterWaiting c))
    | _        => none
  | .unregisterAcquire t =>
    match s.threads t with
    | .unregisterWaiting c =>
      (s.lock.grant t).map (fun lock => { s with lock := lock }.setPc t (.unregisterLocked c))
    | _ => none
  | .unregisterRemove t =>
    match s.threads t with
    | .unregisterLocked c =>
      -- the entry at the address goes, whichever connection it belongs to
      (s.conns c).map (fun k =>
        { s with
          table   := Function.update s.table k.driverLoadAddress none
          evicted := s.evictedBy c k.driverLoadAddress ++ s.evicted }.setPc t (.unregisterRemoved c))
    | _ => none
  | .unregisterRelease t =>
    match s.threads t with
    | .unregisterRemoved c =>
      some ({ s with lock := s.lock.releaseExclusive }.setPc t (.unregistered c))
    | _ => none
  | .free t =>
    match s.threads t with
    | .unregistered c => (s.conns c).map (fun k => (s.setConn c { k with freed := true }).setPc t .idle)
    | _               => none
  | .create t c address =>
    if s.threads t = .idle ∧ s.conns c = none then
      -- the external reference is the creator's
      some ({ s with held := (t, c) :: s.held, lock := s.lock.request t }
        |>.setConn c { driverLoadAddress := address, referenceCount := 1, freed := false, deletions := 0 }
        |>.setPc t (.registerWaiting c))
    else none
  | .registerAcquire t =>
    match s.threads t with
    | .registerWaiting c =>
      (s.lock.grant t).map (fun lock => { s with lock := lock }.setPc t (.registerLocked c))
    | _ => none
  | .registerPut t =>
    match s.threads t with
    | .registerLocked c =>
      -- that there was no entry before is asserted in debug builds only
      (s.conns c).map (fun k =>
        { s with table := Function.update s.table k.driverLoadAddress (some c) }.setPc t .registerDone)
    | _ => none
  | .registerRelease t =>
    match s.threads t with
    | .registerDone => some ({ s with lock := s.lock.releaseExclusive }.setPc t .idle)
    | _             => none

/-! ## What a run must not do -/

/-- **The registry's promise**: a held connection is alive and not freed, the deletion code of a connection
    runs once, when its count has dropped to 0, and no live connection loses its registration on behalf of
    another. -/
structure RegistryOk (s : State) : Prop where
  held      : ∀ t c, (t, c) ∈ s.held →
    ∃ k, s.conns c = some k ∧ 1 ≤ k.referenceCount ∧ k.freed = false
  deletions : ∀ c k, s.conns c = some k → k.deletions = if 1 ≤ k.referenceCount then 0 else 1
  freed     : ∀ c k, s.conns c = some k → k.freed = true → k.deletions = 1
  evicted   : s.evicted = []

/-- The steps that the promise needs: a lookup references a connection whose count is not 0, and a
    connection is registered at an address that is not in the table. -/
def Orderly (s : State) : Action → Prop
  | .lookupReference t =>
    ∀ c k, s.threads t = .lookupFound c → s.conns c = some k → 1 ≤ k.referenceCount
  | .registerPut t =>
    ∀ c k, s.threads t = .registerLocked c → s.conns c = some k → s.table k.driverLoadAddress = none
  | _ => True

end Cfix.Registry
