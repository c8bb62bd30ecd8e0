import Cfix.Cdiag.Helper
import Cfix.Jpht.Hashtable

/-!
# `Cdiag.Session` — handlers and severity filters of a session (`cdiag/session.c`)

A session has a default handler and a table of registrations, one for each event type, with a severity filter.
Handlers are objects of the user: `η` are the pointers to them, and what `Handle` returns is a parameter. The
session keeps a log of the calls that it makes to them.
-/

namespace Cfix.Cdiag

open Cfix.Jpht
open Cfix.Events (Width)

def sFalse : HRESULT := 0x00000001#32

@[simp] theorem failed_sFalse : failed sFalse = false := rfl

/-! ## Data -/

/-- `HANDLER_REGISTRATION`: its address and its key, which never changes. -/
structure Registration where
  address : Nat
  type    : DWORD
  deriving DecidableEq, Repr

/-- The fields of `CDIAG_EVENT_PACKET` that a session reads. -/
structure EventPacket where
  type     : DWORD
  severity : BitVec 8
  deriving DecidableEq, Repr

/-- A call of a handler's method. -/
inductive HandlerCall (η : Type) where
  | reference (handler : η)
  | dereference (handler : η)
  | handle (handler : η) (packet : EventPacket)
  deriving DecidableEq, Repr

/-- `CDIAGP_SESSION`. `registration` has `Handler` and `SeverityFilter` of the registrations that are allocated. -/
structure Session (η : Type) where
  formatter             : Nat
  resolver              : Nat
  defaultHandler        : Option η
  defaultSeverityFilter : DWORD
  handlers              : Hashtable Registration
  registration          : Nat → Option (η × DWORD)
  /-- The next registration that `CdiagpMalloc` returns. -/
  nextRegistration      : Nat
  calls                 : List (HandlerCall η)

/-- `CdiagsHashEventType` and `CdiagsEqualsEventType`, which look at the low 32 bits of a key. The key of a
    registration is its type in memory that was zero before. -/
def handlerRoutines (w : Width) : Routines Registration (BitVec w.bits) where
  hash key       := key.setWidth 32
  equals lhs rhs := (lhs.setWidth 32 : DWORD) == rhs.setWidth 32
  key reg        := reg.type.setWidth w.bits

/-- A `CDIAG_EVENT_TYPE` that is passed as a key: enumerations are signed. -/
def eventTypeKey (w : Width) (type : DWORD) : BitVec w.bits := type.signExtend w.bits

variable {η : Type} (w : Width) (fuel : Nat)

/-- `CdiagCreateSession`: `memory` and `tableMemory` say whether the session and its buckets can be allocated, and
    the objects that are not given are created. -/
def createSession (memory tableMemory : Bool) (formatter resolver : Option Nat)
    (newResolver newFormatter : Except HRESULT Nat) (links : LinkedList.Links (Link Registration)) (block : Nat) :
    Except Fault (Except HRESULT (Session η)) :=
  if !memory then .ok (.error eOutofmemory)
  else do
    let handlers ← initializeHashtable w 23#32 tableMemory links block
    match handlers with
    | none          => .ok (.error eOutofmemory)
    | some handlers =>
      match resolver.elim newResolver .ok with
      | .error hr    => .ok (.error hr)
      | .ok resolver =>
        match formatter.elim newFormatter .ok with
        | .error hr     => .ok (.error hr)
        | .ok formatter =>
          .ok (.ok
            { formatter := formatter, resolver := resolver, defaultHandler := none
              defaultSeverityFilter := 0xFFFFFFFF#32, handlers := handlers, registration := fun _ => none
              nextRegistration := 0, calls := [] })

/-! ## Registrations -/

namespace Session

variable (s : Session η)

/-- `CdiagsDeleteHandlerRegistration`. -/
def deleteHandlerRegistration (reg : Registration) : Except Fault (Session η) :=
  match s.registration reg.address with
  | none              => .error .wildAccess
  | some (handler, _) =>
    .ok { s with
      calls        := s.calls ++ [.dereference handler]
      registration := Function.update s.registration reg.address none }

/-- `CdiagsSetDefaultHandler`: the severity filter stays what it is. -/
def setDefaultHandler (isValidHandler : η → Bool) (handler : η) : HRESULT × Session η :=
  if !isValidHandler handler then (eInvalidarg, s)
  else
    let old := s.defaultHandler.toList.map .dereference
    (sOk, { s with defaultHandler := some handler, calls := s.calls ++ old ++ [.reference handler] })

/-- `CdiagsSetHandler`. The pointer that `CdiagpMalloc` returns is not checked. -/
def setHandler (type : DWORD) (handler : η) (memory : Bool) : Except Fault (HRESULT × Session η) :=
  if !memory then .error .wildAccess
  else do
    let reg : Registration := { address := s.nextRegistration, type := type }
    let (handlers, oldEntry) ← putEntryHashtable (handlerRoutines w) fuel reg s.handlers
    let s := { s with
      handlers         := handlers
      registration     := Function.update s.registration reg.address (some (handler, 0xFFFFFFFF#32))
      nextRegistration := s.nextRegistration + 1
      calls            := s.calls ++ [.reference handler] }
    match oldEntry with
    | none        => .ok (sOk, s)
    | some oldReg => do
      let s ← s.deleteHandlerRegistration oldReg
      .ok (sOk, s)

/-- `CdiagsSetSeverityFilter`. -/
def setSeverityFilter (type filter : DWORD) : Except Fault (HRESULT × Session η) := do
  let entry ← getEntryHashtable (handlerRoutines w) fuel (eventTypeKey w type) s.handlers
  match entry with
  | none     => .ok (sFalse, s)
  | some reg =>
    match s.registration reg.address with
    | none              => .error .wildAccess
    | some (handler, _) =>
      .ok (sOk, { s with registration := Function.update s.registration reg.address (some (handler, filter)) })

end Session

/-- What is set with `CdiagSetInformationSession`: the class, the event type and what `Value` points to. -/
inductive Information (η : Type) where
  | defaultHandler (handler : η)
  | handler (type : DWORD) (handler : η) (memory : Bool)
  | severityFilter (type filter : DWORD)
  | resolver (resolver : Nat)
  | formatter (formatter : Nat)
  /-- The class is unknown, or `Value` is `NULL`. -/
  | invalid
  deriving DecidableEq, Repr

/-- `CdiagSetInformationSession`. -/
def setInformationSession (isValidHandler : η → Bool) (s : Session η) :
    Information η → Except Fault (HRESULT × Session η)
  | .defaultHandler handler      => .ok (s.setDefaultHandler isValidHandler handler)
  | .handler type handler memory => s.setHandler w fuel type handler memory
  | .severityFilter type filter  => s.setSeverityFilter w fuel type filter
  | .resolver resolver           => .ok (sOk, { s with resolver := resolver })
  | .formatter formatter         => .ok (sOk, { s with formatter := formatter })
  | .invalid                     => .ok (eInvalidarg, s)

/-! ## Events -/

/-- `1 << Packet->Type`: the processor takes the count modulo 32. -/
def typeBit (type : DWORD) : DWORD := 1#32 <<< (type.toNat % 32)

/-- The registration that applies, with its filter: that of the entry, or the default. -/
def Session.registrationFor (s : Session η) : Option Registration → Except Fault (Option η × DWORD)
  | none     => .ok (s.defaultHandler, s.defaultSeverityFilter)
  | some reg =>
    match s.registration reg.address with
    | none                   => .error .wildAccess
    | some (handler, filter) => .ok (some handler, filter)

def Session.called (s : Session η) (c : HandlerCall η) : Session η := { s with calls := s.calls ++ [c] }

/-- `CdiagHandleEvent`; `none` is a `NULL` packet. -/
def handleEvent (handle : η → EventPacket → HRESULT) (packet : Option EventPacket) (s : Session η) :
    Except Fault (HRESULT × Session η) :=
  match packet with
  | none        => .ok (eInvalidarg, s)
  | some packet => do
    let entry ← getEntryHashtable (handlerRoutines w) fuel (eventTypeKey w packet.type) s.handlers
    let (handler, severityFilter) ← s.registrationFor entry
    match handler with
    | none         => .ok (sFalse, s)
    | some handler =>
      let s := s.called (.reference handler)
      -- the filter is tested with the type, not with the severity
      let (hr, s) :=
        if 0#32 ≠ typeBit packet.type &&& severityFilter then
          (handle handler packet, s.called (.handle handler packet))
        else (sFalse, s)
      .ok (hr, s.called (.dereference handler))

end Cfix.Cdiag
