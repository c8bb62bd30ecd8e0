import Cfix.Cdiag.Dispatch
import Cfix.Jpht.Enumerate
import Mathlib.Data.FinEnum

/-!
# `Cdiag.SessionRefs` — the references that a session holds (`cdiag/session.c`)

A session holds a reference on each handler for the default and for each registration of it, and on its resolver and
formatter. An event in flight holds one more. `References` ties the logs of calls to these slots; the last
dereference of the session gives all of them back.
-/

namespace Cfix.Cdiag

open Cfix.Jpht LinkedList UpdateCount
open Cfix.Events (Width)

/-! ## Resolvers and formatters -/

inductive Object where
  | resolver (x : Nat)
  | formatter (x : Nat)
  deriving DecidableEq, Repr

/-- A call of a method of a resolver or formatter, or its creation, which gives the session a reference. -/
inductive ObjectCall where
  | created (o : Object)
  | reference (o : Object)
  | dereference (o : Object)
  deriving DecidableEq, Repr

/-! ## Events in two parts -/

section Events

variable {η : Type} (w : Width) (fuel : Nat)

/-- `CdiagHandleEvent` up to the end of its critical section: the handler that it has referenced, with its filter. -/
def grabHandler (packet : EventPacket) (s : Session η) : Except Fault (Option (η × DWORD) × Session η) := do
  let entry ← getEntryHashtable (handlerRoutines w) fuel (eventTypeKey w packet.type) s.handlers
  let (handler, severityFilter) ← s.registrationFor entry
  match handler with
  | none         => .ok (none, s)
  | some handler => .ok (some (handler, severityFilter), s.called (.reference handler))

/-- The rest of `CdiagHandleEvent`, which does not use the session any more. -/
def filterAndHandle (handle : η → EventPacket → HRESULT) (packet : EventPacket) (handler : η) (severityFilter : DWORD)
    (s : Session η) : HRESULT × Session η :=
  let (hr, s) :=
    if 0#32 ≠ typeBit packet.type &&& severityFilter then
      (handle handler packet, s.called (.handle handler packet))
    else (sFalse, s)
  (hr, s.called (.dereference handler))

/-- What an event ends with, once its handler is known. -/
def finishEvent (handle : η → EventPacket → HRESULT) (packet : EventPacket) :
    Option (η × DWORD) × Session η → HRESULT × Session η
  | (none, s)                           => (sFalse, s)
  | (some (handler, severityFilter), s) => filterAndHandle handle packet handler severityFilter s

/-- An event that is not interrupted. -/
theorem handleEvent_eq (handle : η → EventPacket → HRESULT) (packet : EventPacket) (s : Session η) :
    handleEvent w fuel handle (some packet) s = (grabHandler w fuel packet s).map (finishEvent handle packet) := by
  rw [handleEvent, grabHandler]
  cases getEntryHashtable (handlerRoutines w) fuel (eventTypeKey w packet.type) s.handlers with
  | error fault => rfl
  | ok entry =>
      simp only [ok_bind]
      cases s.registrationFor entry with
      | error fault => rfl
      | ok p =>
          obtain ⟨handler, filter⟩ := p
          cases handler with
          | none         => rfl
          | some handler => rfl

end Events

/-! ## The session with its counter -/

/-- A session, with the number of references on it and the calls that it has made to its resolvers and formatters.
    `inFlight` has the events whose handlers are still to be called and dereferenced, and `freed` is the handler table
    when it was freed with the session. -/
structure SharedSession (η : Type) where
  session        : Session η
  referenceCount : Nat
  inFlight       : List (η × DWORD × EventPacket)
  objectCalls    : List ObjectCall
  freed          : Option (Hashtable Registration)

/-- The session after `CdiagCreateSession`, to which the resolver and the formatter may have been passed. -/
def SharedSession.created {η : Type} (formatter resolver : Option Nat) (s : Session η) : SharedSession η where
  session        := s
  referenceCount := 1
  inFlight       := []
  objectCalls    :=
    [if resolver.isSome then .reference (.resolver s.resolver) else .created (.resolver s.resolver),
     if formatter.isSome then .reference (.formatter s.formatter) else .created (.formatter s.formatter)]
  freed          := none

section Calls

variable {η : Type} (w : Width) (fuel : Nat)

/-- `CdiagsTearDownHandlerFromHashtableCallback`. -/
def tearDownHandler (reg : Registration) (s : Session η) : Except Fault (Session η) := do
  let (handlers, _) ← removeEntryHashtable (handlerRoutines w) fuel ((handlerRoutines w).key reg) s.handlers
  { s with handlers := handlers }.deleteHandlerRegistration reg

/-- `CdiagsDeleteSession`. -/
def deleteSession (s : SharedSession η) : Except Fault (SharedSession η) := do
  let session ← enumerateEntries Session.handlers (tearDownHandler w fuel) fuel s.session
  let calls := session.defaultHandler.toList.map .dereference
  .ok { s with
    session        := { session with calls := session.calls ++ calls }
    referenceCount := 0
    objectCalls    := s.objectCalls ++
      [.dereference (.formatter session.formatter), .dereference (.resolver session.resolver)]
    freed          := some session.handlers }

/-- The calls to resolvers and formatters that `CdiagSetInformationSession` makes. -/
def Information.objectCalls (s : Session η) : Information η → List ObjectCall
  | .resolver x  => [.dereference (.resolver s.resolver), .reference (.resolver x)]
  | .formatter x => [.dereference (.formatter s.formatter), .reference (.formatter x)]
  | .defaultHandler _ | .handler _ _ _ | .severityFilter _ _ | .invalid => []

/-- A call of the session's functions. An event begins and ends, and other calls may come in between. -/
inductive SessionCall (η : Type) where
  | set (info : Information η)
  | beginEvent (packet : EventPacket)
  | endEvent (index : Nat)
  | reference
  | dereference
  deriving DecidableEq, Repr

/-- A call as a step; `none` if the session is freed, there is no such event, or the call does not return. -/
def SharedSession.next (isValidHandler : η → Bool) (handle : η → EventPacket → HRESULT) (s : SharedSession η) :
    SessionCall η → Option (SharedSession η)
  | .set info =>
    if s.freed.isSome then none
    else
      match setInformationSession w fuel isValidHandler s.session info with
      | .ok (_, session) => some { s with session := session, objectCalls := s.objectCalls ++ info.objectCalls s.session }
      | .error _         => none
  | .beginEvent packet =>
    if s.freed.isSome then none
    else
      match grabHandler w fuel packet s.session with
      | .ok (none, session)                   => some { s with session := session }
      | .ok (some (handler, filter), session) =>
        some { s with session := session, inFlight := (handler, filter, packet) :: s.inFlight }
      | .error _                              => none
  | .endEvent index =>
    match s.inFlight[index]? with
    | none                           => none
    | some (handler, filter, packet) =>
      some { s with
        session  := (filterAndHandle handle packet handler filter s.session).2
        inFlight := s.inFlight.eraseIdx index }
  | .reference => if s.freed.isSome then none else some { s with referenceCount := s.referenceCount + 1 }
  | .dereference =>
    if s.freed.isSome then none
    else
      match s.referenceCount with
      | 0     => none
      | 1     => (deleteSession w fuel s).toOption
      | n + 2 => some { s with referenceCount := n + 1 }

end Calls

/-! ## Slots and references -/

section Slots

variable {η : Type} [DecidableEq η] (w : Width) (fuel : Nat)

/-- The references on a handler that were taken less those that were given back. -/
def heldHandler (calls : List (HandlerCall η)) (x : η) : Int :=
  calls.count (.reference x) - calls.count (.dereference x)

def heldObject (calls : List ObjectCall) (o : Object) : Int :=
  calls.count (.created o) + calls.count (.reference o) - calls.count (.dereference o)

/-- The handler that is registered for a type. -/
def Session.registeredHandler (s : Session η) (type : DWORD) : Option η :=
  match getEntryHashtable (handlerRoutines w) fuel (eventTypeKey w type) s.handlers with
  | .ok (some reg) => (s.registration reg.address).map (·.1)
  | _              => none

/-- The slots of the session that refer to a handler. -/
noncomputable def Session.handlerSlots (s : Session η) (x : η) : Nat :=
  (if s.defaultHandler = some x then 1 else 0) + {type | s.registeredHandler w fuel type = some x}.ncard

def Session.objectSlots (s : Session η) (o : Object) : Nat :=
  (if o = .resolver s.resolver then 1 else 0) + (if o = .formatter s.formatter then 1 else 0)

/-- The events in flight with the handler. -/
def SharedSession.flights (s : SharedSession η) (x : η) : Nat := (s.inFlight.map (·.1)).count x

/-- **Every slot and every event in flight holds one reference**, and a session that is freed has none of its own. -/
structure SharedSession.Conserved (s : SharedSession η) : Prop where
  handlers : s.freed = none → ∀ x, heldHandler s.session.calls x = s.session.handlerSlots w fuel x + s.flights x
  objects  : s.freed = none → ∀ o, heldObject s.objectCalls o = s.session.objectSlots o
  counted  : s.freed = none ↔ 0 < s.referenceCount
  released : s.freed ≠ none → (∀ x, heldHandler s.session.calls x = s.flights x) ∧ ∀ o, heldObject s.objectCalls o = 0
  emptied  : ∀ t, s.freed = some t → t.entryCount = 0#32 ∧
    ∃ lists, Represents (handlerRoutines w) t lists ∧ ∀ i < t.bucketCount.toNat, lists i = []

/-- The call is possible: the session is not freed, there is such an event, and a registration can be allocated. -/
def SharedSession.Admits (s : SharedSession η) : SessionCall η → Prop
  | .set info       => s.freed = none ∧ info.Allocated
  | .endEvent index => index < s.inFlight.length
  | .beginEvent _ | .reference | .dereference => s.freed = none

end Slots

/-! ## References that a call takes -/

section Held

variable {η : Type} [DecidableEq η]

theorem heldHandler_append (calls calls' : List (HandlerCall η)) (x : η) :
    heldHandler (calls ++ calls') x = heldHandler calls x + heldHandler calls' x := by
  simp only [heldHandler, List.count_append]
  omega

@[simp] theorem heldHandler_nil (x : η) : heldHandler [] x = 0 := rfl

@[simp] theorem heldHandler_reference (h x : η) :
    heldHandler [.reference h] x = ((if h = x then 1 else 0 : Nat) : Int) := by
  by_cases heq : h = x <;> simp [heldHandler, heq]

@[simp] theorem heldHandler_dereference (h x : η) :
    heldHandler [.dereference h] x = -((if h = x then 1 else 0 : Nat) : Int) := by
  by_cases heq : h = x <;> simp [heldHandler, heq]

/-- The handler that a slot had is dereferenced. -/
theorem heldHandler_old (old : Option η) (x : η) :
    heldHandler (old.toList.map .dereference) x = -((if old = some x then 1 else 0 : Nat) : Int) := by
  cases old with
  | none => simp
  | some h => simp

@[simp] theorem heldHandler_handle (h x : η) (packet : EventPacket) : heldHandler [.handle h packet] x = 0 := by
  simp [heldHandler]

theorem heldObject_append (calls calls' : List ObjectCall) (o : Object) :
    heldObject (calls ++ calls') o = heldObject calls o + heldObject calls' o := by
  simp only [heldObject, List.count_append]
  omega

theorem heldObject_reference (p o : Object) : heldObject [.reference p] o = ((if o = p then 1 else 0 : Nat) : Int) := by
  by_cases heq : o = p
  · simp [heldObject, heq]
  · simp [heldObject, heq, Ne.symm heq]

theorem heldObject_created (p o : Object) : heldObject [.created p] o = ((if o = p then 1 else 0 : Nat) : Int) := by
  by_cases heq : o = p
  · simp [heldObject, heq]
  · simp [heldObject, heq, Ne.symm heq]

/-- An object that replaces another one. -/
theorem heldObject_replace (old new o : Object) :
    heldObject [.dereference old, .reference new] o =
      ((if o = new then 1 else 0 : Nat) : Int) - ((if o = old then 1 else 0 : Nat) : Int) := by
  simp only [heldObject, List.count_cons, List.count_nil]
  by_cases hnew : o = new
  · subst hnew
    by_cases hold : o = old
    · simp [hold]
    · simp [hold, Ne.symm hold]
  · by_cases hold : o = old
    · subst hold
      simp [hnew, Ne.symm hnew]
    · simp [hold, hnew, Ne.symm hold, Ne.symm hnew]

end Held

/-! ## Slots of the abstract session -/

section Dispatch

variable {η : Type} [DecidableEq η] {w : Width} {fuel : Nat} {s : Session η} {lists : Nat → List Registration}
  {d : Dispatch η}

noncomputable def Dispatch.slots (d : Dispatch η) (x : η) : Nat :=
  (if d.default = some x then 1 else 0) + {type | (d.registered type).map (·.1) = some x}.ncard

omit [DecidableEq η] in
theorem Session.Shows.registeredHandler (h : s.Shows w lists d) (hfuel : s.count lists < fuel) (type : DWORD) :
    s.registeredHandler w fuel type = (d.registered type).map (·.1) := by
  rw [Session.registeredHandler, h.getEntry hfuel]
  cases hfind : s.find w lists type with
  | none => rw [h.missing _ hfind]; rfl
  | some reg =>
      obtain ⟨p, hp, hd⟩ := h.found _ _ hfind
      rw [hd]
      show (s.registration reg.address).map _ = _
      rw [hp]

theorem Session.Shows.handlerSlots (h : s.Shows w lists d) (hfuel : s.count lists < fuel) (x : η) :
    s.handlerSlots w fuel x = d.slots x := by
  simp only [Session.handlerSlots, Dispatch.slots, h.registeredHandler hfuel, h.default]

/-- What a new registration, or none, adds to the slots, and what the old one takes away. -/
theorem Dispatch.slots_update (d : Dispatch η) (type : DWORD) (p : Option (η × DWORD)) (x : η) :
    Dispatch.slots { d with registered := Function.update d.registered type p } x +
        (if (d.registered type).map (·.1) = some x then 1 else 0) =
      d.slots x + if p.map (·.1) = some x then 1 else 0 := by
  have hupdate := ncard_update (fun o : Option (η × DWORD) => o.map (·.1) = some x) d.registered type p
    (Set.toFinite _)
  simp only [Dispatch.slots]
  omega

/-- A severity filter is no slot. -/
theorem Dispatch.slots_filter (d : Dispatch η) (isValidHandler : η → Bool) (type filter : DWORD) (x : η) :
    (d.set isValidHandler (.severityFilter type filter)).slots x = d.slots x := by
  have hupdate := d.slots_update type ((d.registered type).map fun p => (p.1, filter)) x
  rw [Option.map_map] at hupdate
  exact Nat.add_right_cancel hupdate

end Dispatch

/-! ## References of each call -/

section References

variable {η : Type} [DecidableEq η] {w : Width} {fuel : Nat} {s s' : Session η} {lists : Nat → List Registration}
  {d : Dispatch η} {isValidHandler : η → Bool} {hr : HRESULT}

/-- The default handler is replaced in its slot. -/
theorem held_setDefaultHandler (handler x : η) (h : s.Shows w lists d) :
    heldHandler (s.setDefaultHandler isValidHandler handler).2.calls x + d.slots x =
      heldHandler s.calls x + (d.set isValidHandler (.defaultHandler handler)).slots x := by
  rw [Session.setDefaultHandler, Dispatch.set]
  cases isValidHandler handler with
  | false => rfl
  | true =>
      simp only [Bool.not_true, Bool.false_eq_true, if_false, if_true, heldHandler_append, Dispatch.slots, h.default,
        heldHandler_old, heldHandler_reference, Option.some.injEq]
      omega

omit [DecidableEq η] in
/-- A new registration is referenced, and the handler of the old one is dereferenced. -/
theorem calls_setHandler (h : s.Shows w lists d) (hfuel : s.count lists < fuel) {type : DWORD} {handler : η}
    (hset : s.setHandler w fuel type handler true = .ok (hr, s')) :
    s'.calls = s.calls ++ [.reference handler] ++ ((d.registered type).map (·.1)).toList.map .dereference := by
  obtain ⟨links, count, hput, -, -⟩ := putEntryHashtable_spec (handlerRoutines_lawful w) h.represents
    (⟨s.nextRegistration, type⟩ : Registration) hfuel
  rw [h.find_key] at hput
  simp only [Session.setHandler, Bool.not_true, Bool.false_eq_true, if_false, hput, ok_bind] at hset
  cases hold : s.find w lists type with
  | none =>
      rw [hold] at hset
      cases hset
      rw [h.missing _ hold]
      simp
  | some old =>
      obtain ⟨p, hp, hd⟩ := h.found _ _ hold
      have hne : old.address ≠ s.nextRegistration := Nat.ne_of_lt (h.older _ _ hold)
      have hdelete : Function.update s.registration s.nextRegistration (some (handler, 0xFFFFFFFF#32)) old.address =
        some p := by rw [Function.update_of_ne hne, hp]
      simp only [hold, Session.deleteHandlerRegistration, hdelete, ok_bind] at hset
      cases hset
      rw [hd]
      rfl

omit [DecidableEq η] in
theorem calls_setSeverityFilter (h : s.Shows w lists d) (hfuel : s.count lists < fuel) {type filter : DWORD}
    (hset : s.setSeverityFilter w fuel type filter = .ok (hr, s')) : s'.calls = s.calls := by
  rw [Session.setSeverityFilter, h.getEntry hfuel, ok_bind] at hset
  cases hfind : s.find w lists type with
  | none =>
      rw [hfind] at hset
      cases hset
      rfl
  | some reg =>
      obtain ⟨p, hp, -⟩ := h.found _ _ hfind
      simp only [hfind, hp] at hset
      cases hset
      rfl

/-- **The references change like the slots.** -/
theorem held_setInformation (h : s.Shows w lists d) (hfuel : s.count lists < fuel) {info : Information η}
    (hinfo : info.Allocated) (hset : setInformationSession w fuel isValidHandler s info = .ok (hr, s')) (x : η) :
    heldHandler s'.calls x + d.slots x = heldHandler s.calls x + (d.set isValidHandler info).slots x := by
  cases info with
  | defaultHandler handler =>
      obtain ⟨-, rfl⟩ := Prod.mk.inj (Except.ok.inj hset)
      exact held_setDefaultHandler handler x h
  | handler type handler memory =>
      obtain rfl : memory = true := hinfo
      rw [calls_setHandler h hfuel hset]
      have hslots := d.slots_update type (some (handler, 0xFFFFFFFF#32)) x
      simp only [heldHandler_append, heldHandler_reference, heldHandler_old, Dispatch.set]
      simp only [Option.map_some, Option.some.injEq] at hslots
      omega
  | severityFilter type filter =>
      rw [calls_setSeverityFilter h hfuel hset, d.slots_filter isValidHandler]
  | resolver o | formatter o =>
      cases hset
      rfl
  | invalid =>
      cases hset
      rfl

variable (s isValidHandler) in
omit [DecidableEq η] in
theorem setDefaultHandler_objects (handler : η) :
    (s.setDefaultHandler isValidHandler handler).2.resolver = s.resolver ∧
    (s.setDefaultHandler isValidHandler handler).2.formatter = s.formatter := by
  unfold Session.setDefaultHandler
  split <;> exact ⟨rfl, rfl⟩

omit [DecidableEq η] in
theorem deleteHandlerRegistration_objects {reg : Registration} (h : s.deleteHandlerRegistration reg = .ok s') :
    s'.resolver = s.resolver ∧ s'.formatter = s.formatter := by
  unfold Session.deleteHandlerRegistration at h
  split at h
  · cases h
  · cases h
    exact ⟨rfl, rfl⟩

omit [DecidableEq η] in
theorem setHandler_objects {type : DWORD} {handler : η} {memory : Bool}
    (hset : s.setHandler w fuel type handler memory = .ok (hr, s')) :
    s'.resolver = s.resolver ∧ s'.formatter = s.formatter := by
  cases memory with
  | false => cases hset
  | true =>
      obtain ⟨⟨handlers, oldEntry⟩, -, hset⟩ := bind_eq_ok hset
      cases oldEntry with
      | none =>
          cases hset
          exact ⟨rfl, rfl⟩
      | some oldReg =>
          obtain ⟨s₁, hdelete, hset⟩ := bind_eq_ok hset
          cases hset
          have hsame := deleteHandlerRegistration_objects hdelete
          exact hsame

omit [DecidableEq η] in
theorem setSeverityFilter_objects {type filter : DWORD} (hset : s.setSeverityFilter w fuel type filter = .ok (hr, s')) :
    s'.resolver = s.resolver ∧ s'.formatter = s.formatter := by
  obtain ⟨entry, -, hset⟩ := bind_eq_ok hset
  cases entry with
  | none =>
      cases hset
      exact ⟨rfl, rfl⟩
  | some reg =>
      simp only at hset
      split at hset
      · cases hset
      · cases hset
        exact ⟨rfl, rfl⟩

omit [DecidableEq η] in
/-- Calls for handlers leave resolver and formatter as they are. -/
theorem objectSlots_of_eq (h : s'.resolver = s.resolver ∧ s'.formatter = s.formatter) (o : Object) :
    s'.objectSlots o = s.objectSlots o := by
  rw [Session.objectSlots, Session.objectSlots, h.1, h.2]

omit [DecidableEq η] in
/-- **The references on resolvers and formatters change like their slots.** -/
theorem held_objectCalls {info : Information η} (hset : setInformationSession w fuel isValidHandler s info = .ok (hr, s'))
    (o : Object) : heldObject (info.objectCalls s) o + s.objectSlots o = s'.objectSlots o := by
  have hnone : heldObject [] o = 0 := rfl
  cases info with
  | defaultHandler handler =>
      obtain ⟨-, rfl⟩ := Prod.mk.inj (Except.ok.inj hset)
      rw [Information.objectCalls, hnone, Int.zero_add]
      have hsame := objectSlots_of_eq (setDefaultHandler_objects s isValidHandler handler) o
      rw [← hsame]
      rfl
  | handler type handler memory =>
      rw [Information.objectCalls, hnone, Int.zero_add, objectSlots_of_eq (setHandler_objects hset)]
  | severityFilter type filter =>
      rw [Information.objectCalls, hnone, Int.zero_add, objectSlots_of_eq (setSeverityFilter_objects hset)]
  | resolver x =>
      cases hset
      rw [Information.objectCalls, heldObject_replace]
      simp only [Session.objectSlots]
      omega
  | formatter x =>
      cases hset
      rw [Information.objectCalls, heldObject_replace]
      simp only [Session.objectSlots]
      omega
  | invalid =>
      cases hset
      rw [Information.objectCalls, hnone, Int.zero_add]

end References

/-! ## Events -/

section Grab

variable {η : Type} [DecidableEq η] {w : Width} {fuel : Nat} {s : Session η} {lists : Nat → List Registration}
  {d : Dispatch η}

omit [DecidableEq η] in
/-- Calls of handlers do not change what a session shows. -/
theorem Session.Shows.called (h : s.Shows w lists d) (c : HandlerCall η) : (s.called c).Shows w lists d :=
  ⟨h.represents, h.default, h.allBits, h.missing, h.found, h.older, h.injective⟩

omit [DecidableEq η] in
/-- A handler is referenced for the event, or there is none. -/
theorem grabHandler_spec (h : s.Shows w lists d) (hfuel : s.count lists < fuel) (packet : EventPacket) :
    grabHandler w fuel packet s = .ok (none, s) ∨
    ∃ handler filter, grabHandler w fuel packet s = .ok (some (handler, filter), s.called (.reference handler)) := by
  rw [grabHandler, h.getEntry hfuel, ok_bind]
  cases hfind : s.find w lists packet.type with
  | none =>
      rw [Session.registrationFor, ok_bind]
      cases s.defaultHandler with
      | none         => exact .inl rfl
      | some handler => exact .inr ⟨handler, s.defaultSeverityFilter, rfl⟩
  | some reg =>
      obtain ⟨⟨handler, filter⟩, hreg, -⟩ := h.found _ _ hfind
      simp only [Session.registrationFor, hreg, ok_bind]
      exact .inr ⟨handler, filter, rfl⟩

/-- The rest of an event gives the reference back. -/
theorem held_filterAndHandle (handle : η → EventPacket → HRESULT) (packet : EventPacket) (handler : η) (filter : DWORD)
    (s : Session η) (x : η) :
    heldHandler (filterAndHandle handle packet handler filter s).2.calls x =
      heldHandler s.calls x - ((if handler = x then 1 else 0 : Nat) : Int) := by
  unfold filterAndHandle
  dsimp only
  split
  · simp only [Session.called, heldHandler_append, heldHandler_handle, heldHandler_dereference]
    omega
  · simp only [Session.called, heldHandler_append, heldHandler_dereference]
    omega

omit [DecidableEq η] in
/-- It changes nothing else. -/
theorem filterAndHandle_session (handle : η → EventPacket → HRESULT) (packet : EventPacket) (handler : η) (filter : DWORD)
    (s : Session η) :
    ∃ calls, (filterAndHandle handle packet handler filter s).2 = { s with calls := calls } := by
  unfold filterAndHandle
  dsimp only
  split <;> exact ⟨_, rfl⟩

end Grab

/-! ## Tearing down -/

section TearDown

variable {η : Type} [DecidableEq η] {w : Width} {fuel : Nat} {s : Session η} {lists : Nat → List Registration}
  {d : Dispatch η}

/-- While the table is emptied, the references are those of the slots that are left. -/
def TearingDown (w : Width) (before : Session η) (flights : η → Nat) (lists : Nat → List Registration) (s : Session η) :
    Prop :=
  ∃ d, s.Shows w lists d ∧ s.defaultHandler = before.defaultHandler ∧ s.resolver = before.resolver ∧
    s.formatter = before.formatter ∧ ∀ x, heldHandler s.calls x = d.slots x + flights x

omit [DecidableEq η] in
/-- The first entry of a bucket is the one that its key finds. -/
theorem Session.Shows.find_head (h : s.Shows w lists d) {i : Nat} {reg : Registration} {rest : List Registration}
    (hi : i < s.handlers.bucketCount.toNat) (hlist : lists i = reg :: rest) :
    s.find w lists reg.type = some reg ∧
    listsRemove (handlerRoutines w) s.handlers lists ((handlerRoutines w).key reg) = Function.update lists i rest := by
  have hmem : reg ∈ lists i := by
    rw [hlist]
    exact List.mem_cons_self
  have hindex := h.represents.hashed i hi reg hmem
  have hkey : (handlerRoutines w).hasKey ((handlerRoutines w).key reg) reg = true := (handlerRoutines_lawful w).refl _
  constructor
  · rw [← h.find_key reg.address reg.type, lookup, hindex, hlist, List.find?_cons, hkey]
  · have hdistinct := h.represents.distinct i hi
    rw [hlist] at hdistinct
    rw [listsRemove, hindex, hlist, without_cons_of_pos hkey,
      without_eq_self ((handlerRoutines_lawful w).tail_hasKey hdistinct hkey)]

omit [DecidableEq η] in
/-- **A registration is taken out**, and the other types keep theirs. -/
theorem Session.Shows.remove (h : s.Shows w lists d) {i : Nat} {reg : Registration} {rest : List Registration}
    (hi : i < s.handlers.bucketCount.toNat) (hlist : lists i = reg :: rest) {links : Links (Link Registration)}
    {count : ULONG} (calls : List (HandlerCall η))
    (hrep : Represents (handlerRoutines w) (s.handlers.changed links count) (Function.update lists i rest)) :
    Session.Shows w { s with
      handlers := s.handlers.changed links count, calls := calls
      registration := Function.update s.registration reg.address none } (Function.update lists i rest)
      { d with registered := Function.update d.registered reg.type none } := by
  obtain ⟨hfind, hlists⟩ := h.find_head hi hlist
  have hleft : ∀ type, lookup (handlerRoutines w) (s.handlers.changed links count) (Function.update lists i rest)
      (eventTypeKey w type) = if reg.type = type then none else s.find w lists type := by
    intro type
    rw [← hlists, lookup_listsRemove (handlerRoutines_lawful w), Contents.remove, equals_eventTypeKey]
    simp [Session.find]
  have hother : ∀ type reg', lookup (handlerRoutines w) (s.handlers.changed links count) (Function.update lists i rest)
      (eventTypeKey w type) = some reg' → reg.type ≠ type ∧ s.find w lists type = some reg' := by
    intro type reg' hfound
    rw [hleft] at hfound
    split at hfound
    · cases hfound
    · rename_i hne
      exact ⟨hne, hfound⟩
  refine ⟨hrep, h.default, h.allBits, ?_, ?_, ?_, ?_⟩
  · intro type hfound
    have hnone : (if reg.type = type then none else s.find w lists type) = none := (hleft type).symm.trans hfound
    by_cases htype : reg.type = type
    · simp [htype]
    · rw [if_neg htype] at hnone
      simp [Ne.symm htype, h.missing _ hnone]
  · intro type reg' hfound
    obtain ⟨hne, hfound⟩ := hother type reg' hfound
    obtain ⟨p, hp, hd⟩ := h.found _ _ hfound
    have haddress : reg'.address ≠ reg.address := fun heq => hne (h.injective _ _ _ _ hfind hfound heq.symm)
    exact ⟨p, by simp [haddress, hp], by simp [Ne.symm hne, hd]⟩
  · exact fun type reg' hfound => h.older _ _ (hother type reg' hfound).2
  · exact fun type type' reg₁ reg₂ h₁ h₂ => h.injective _ _ _ _ (hother type reg₁ h₁).2 (hother type' reg₂ h₂).2

/-- The callback takes its registration out and dereferences the handler. -/
theorem tearDownHandler_takesOut (w : Width) (fuel : Nat) (before : Session η) (flights : η → Nat) :
    TakesOut (handlerRoutines w) Session.handlers (tearDownHandler w fuel) (TearingDown w before flights) fuel := by
  rintro lists s i reg rest - ⟨d, h, hdefault, hresolver, hformatter, hheld⟩ hi hlist hfuel
  obtain ⟨hfind, hlists⟩ := h.find_head hi hlist
  obtain ⟨⟨handler, filter⟩, hreg, hd⟩ := h.found _ _ hfind
  obtain ⟨links, count, hremove, hrep⟩ := removeEntryHashtable_spec (handlerRoutines_lawful w) h.represents
    ((handlerRoutines w).key reg) hfuel
  rw [hlists] at hrep
  refine ⟨{ s with
      handlers := s.handlers.changed links count, calls := s.calls ++ [.dereference handler]
      registration := Function.update s.registration reg.address none }, links, count, ?_, rfl, hrep, ?_⟩
  · simp only [tearDownHandler, hremove, ok_bind, Session.deleteHandlerRegistration, hreg]
  · refine ⟨_, h.remove hi hlist _ hrep, hdefault, hresolver, hformatter, fun x => ?_⟩
    have hslots := d.slots_update reg.type none x
    have hx := hheld x
    simp only [hd, Option.map_some, Option.map_none, Option.some.injEq, reduceCtorEq, if_false, Nat.add_zero] at hslots
    simp only [heldHandler_append, heldHandler_dereference]
    omega

end TearDown

/-! ## Runs -/

section Runs

variable {η : Type} [DecidableEq η] {w : Width} {fuel : Nat} {s s' : SharedSession η}

/-- **The invariant of a session that is not freed**: the references are those of the slots and the events in
    flight, and the table has at most `bound` registrations. -/
structure SharedSession.Live (w : Width) (s : SharedSession η) (lists : Nat → List Registration) (d : Dispatch η)
    (bound : Nat) : Prop where
  shows    : s.session.Shows w lists d
  count    : s.session.count lists ≤ bound
  handlers : ∀ x, heldHandler s.session.calls x = d.slots x + s.flights x
  objects  : ∀ o, heldObject s.objectCalls o = s.session.objectSlots o
  kept     : s.freed = none
  counted  : 0 < s.referenceCount

/-- What is left of a session that is freed. -/
structure SharedSession.Gone (w : Width) (s : SharedSession η) : Prop where
  handlers : ∀ x, heldHandler s.session.calls x = s.flights x
  objects  : ∀ o, heldObject s.objectCalls o = 0
  counted  : s.referenceCount = 0
  emptied  : ∃ t, s.freed = some t ∧ t.entryCount = 0#32 ∧
    ∃ lists, Represents (handlerRoutines w) t lists ∧ ∀ i < t.bucketCount.toNat, lists i = []

def SharedSession.Inv (w : Width) (s : SharedSession η) (bound : Nat) : Prop :=
  (∃ lists d, s.Live w lists d bound) ∨ s.Gone w

theorem SharedSession.Inv.conserved {bound : Nat} (h : s.Inv w bound) (hfuel : bound < fuel) : s.Conserved w fuel := by
  rcases h with ⟨lists, d, h⟩ | h
  · have hcount : s.session.count lists < fuel := Nat.lt_of_le_of_lt h.count hfuel
    refine ⟨fun _ x => ?_, fun _ => h.objects, ?_, fun hfreed => absurd h.kept hfreed, ?_⟩
    · rw [h.shows.handlerSlots hcount]
      exact h.handlers x
    · exact iff_of_true h.kept h.counted
    · intro t ht
      rw [h.kept] at ht
      cases ht
  · obtain ⟨t, ht, hempty⟩ := h.emptied
    have hfreed : s.freed ≠ none := by
      rw [ht]
      exact Option.some_ne_none t
    refine ⟨fun hn => absurd hn hfreed, fun hn => absurd hn hfreed, ?_, fun _ => ⟨h.handlers, h.objects⟩, ?_⟩
    · refine iff_of_false hfreed ?_
      rw [h.counted]
      exact Nat.lt_irrefl 0
    · intro t' ht'
      obtain rfl : t = t' := Option.some.inj (ht.symm.trans ht')
      exact hempty

/-- Without registrations only the default handler is in a slot. -/
theorem Session.Shows.slots_of_empty {s : Session η} {lists : Nat → List Registration} {d : Dispatch η}
    (h : s.Shows w lists d) (hempty : ∀ i < s.handlers.bucketCount.toNat, lists i = []) (x : η) :
    d.slots x = if s.defaultHandler = some x then 1 else 0 := by
  have hnone : ∀ type, d.registered type = none := by
    intro type
    apply h.missing
    rw [Session.find, lookup, hempty _ (h.represents.indexOf_lt _)]
    rfl
  simp [Dispatch.slots, hnone, h.default]

/-- **The last dereference gives back all references**, after the table was emptied. -/
theorem deleteSession_gone {lists : Nat → List Registration} {d : Dispatch η} {bound : Nat} (h : s.Live w lists d bound)
    (hfuel : bound < fuel) : ∃ s', deleteSession w fuel s = .ok s' ∧ s'.Gone w := by
  have htearing : TearingDown w s.session s.flights lists s.session := ⟨d, h.shows, rfl, rfl, rfl, h.handlers⟩
  obtain ⟨session, links, count, lists', hrun, htable, hrep, ⟨d', hshows, hdefault, hresolver, hformatter, hheld⟩, hempty⟩ :=
    enumerateEntries_empties (tearDownHandler_takesOut w fuel s.session s.flights) h.shows.represents htearing
      (Nat.lt_of_le_of_lt h.count hfuel)
  have hbuckets : session.handlers.bucketCount = s.session.handlers.bucketCount := by
    rw [htable]
    rfl
  rw [← hbuckets] at hempty
  refine ⟨_, by rw [deleteSession, hrun, ok_bind], ?_, ?_, rfl, session.handlers, rfl,
    hrep.entryCount_of_empty hempty, lists', hrep, hempty⟩
  · intro x
    show heldHandler (session.calls ++ session.defaultHandler.toList.map .dereference) x = s.flights x
    have hx := hheld x
    rw [hshows.slots_of_empty hempty] at hx
    rw [heldHandler_append, heldHandler_old]
    omega
  · intro o
    show heldObject (s.objectCalls ++ [.dereference (.formatter session.formatter), .dereference (.resolver session.resolver)])
      o = 0
    rw [heldObject_append, h.objects, hresolver, hformatter]
    cases o with
    | resolver x =>
        by_cases hx : x = s.session.resolver
        · simp [Session.objectSlots, heldObject, hx]
        · simp [Session.objectSlots, heldObject, hx, Ne.symm hx]
    | formatter x =>
        by_cases hx : x = s.session.formatter
        · simp [Session.objectSlots, heldObject, hx]
        · simp [Session.objectSlots, heldObject, hx, Ne.symm hx]

/-- An event that ends is not in flight any more. -/
theorem flights_eraseIdx {index : Nat} {handler : η} {filter : DWORD} {packet : EventPacket}
    (h : s.inFlight[index]? = some (handler, filter, packet)) (x : η) :
    ((s.inFlight.eraseIdx index).map (·.1)).count x + (if handler = x then 1 else 0) = s.flights x := by
  obtain ⟨hlt, hget⟩ := List.getElem?_eq_some_iff.mp h
  have hperm := (List.getElem_cons_eraseIdx_perm hlt).map (·.1)
  rw [hget, List.map_cons] at hperm
  have hcount := hperm.count_eq x
  rw [List.count_cons] at hcount
  simpa [SharedSession.flights] using hcount

variable {isValidHandler : η → Bool} {handle : η → EventPacket → HRESULT}

theorem SharedSession.Live.mono {lists : Nat → List Registration} {d : Dispatch η} {bound bound' : Nat}
    (h : s.Live w lists d bound) (hle : bound ≤ bound') : s.Live w lists d bound' :=
  ⟨h.shows, Nat.le_trans h.count hle, h.handlers, h.objects, h.kept, h.counted⟩

/-- What is set is a change of slots. -/
theorem SharedSession.Live.set {lists : Nat → List Registration} {d : Dispatch η} {bound : Nat}
    (h : s.Live w lists d bound) (hfuel : bound < fuel) {info : Information η} (hinfo : info.Allocated) :
    ∃ s' lists', s.next w fuel isValidHandler handle (.set info) = some s' ∧
      s'.Live w lists' (d.set isValidHandler info) (bound + 1) ∧ s'.referenceCount = s.referenceCount := by
  have hcount : s.session.count lists < fuel := Nat.lt_of_le_of_lt h.count hfuel
  obtain ⟨hr, session, lists', hset, hshows, hcount'⟩ := h.shows.setInformation hcount isValidHandler hinfo
  refine ⟨{ s with session := session, objectCalls := s.objectCalls ++ info.objectCalls s.session }, lists', ?_,
    ⟨hshows, ?_, ?_, ?_, h.kept, h.counted⟩, rfl⟩
  · simp [SharedSession.next, h.kept, hset]
  · show session.count lists' ≤ bound + 1
    have hbound := h.count
    omega
  · intro x
    have hslots := held_setInformation h.shows hcount hinfo hset x
    have hx := h.handlers x
    show heldHandler session.calls x = _ + (s.flights x : Int)
    omega
  · intro o
    have hslots := held_objectCalls hset o
    rw [heldObject_append, h.objects]
    show _ = (session.objectSlots o : Int)
    omega

/-- An event begins with a reference on its handler. -/
theorem SharedSession.Live.beginEvent {lists : Nat → List Registration} {d : Dispatch η} {bound : Nat}
    (h : s.Live w lists d bound) (hfuel : bound < fuel) (packet : EventPacket) :
    ∃ s', s.next w fuel isValidHandler handle (.beginEvent packet) = some s' ∧ s'.Live w lists d bound ∧
      s'.referenceCount = s.referenceCount := by
  have hcount : s.session.count lists < fuel := Nat.lt_of_le_of_lt h.count hfuel
  rcases grabHandler_spec h.shows hcount packet with hgrab | ⟨handler, filter, hgrab⟩
  · refine ⟨s, ?_, h, rfl⟩
    rw [SharedSession.next, if_neg (by simp [h.kept]), hgrab]
  · refine ⟨{ s with
        session := s.session.called (.reference handler), inFlight := (handler, filter, packet) :: s.inFlight }, ?_,
      ⟨h.shows.called _, h.count, ?_, h.objects, h.kept, h.counted⟩, rfl⟩
    · simp [SharedSession.next, h.kept, hgrab]
    · intro x
      have hx := h.handlers x
      simp only [Session.called, SharedSession.flights, heldHandler_append, heldHandler_reference, List.map_cons,
        List.count_cons, beq_iff_eq] at hx ⊢
      omega

/-- An event that ends gives the reference back, also if the session is freed. -/
theorem SharedSession.Inv.endEvent {bound index : Nat} (h : s.Inv w bound) (hindex : index < s.inFlight.length) :
    ∃ s', s.next w fuel isValidHandler handle (.endEvent index) = some s' ∧ s'.Inv w bound ∧
      s'.referenceCount = s.referenceCount := by
  obtain ⟨⟨handler, filter, packet⟩, hevent⟩ : ∃ event, s.inFlight[index] = event := ⟨_, rfl⟩
  have hget : s.inFlight[index]? = some (handler, filter, packet) := by
    rw [List.getElem?_eq_getElem hindex, hevent]
  obtain ⟨calls, hsession⟩ := filterAndHandle_session handle packet handler filter s.session
  have hheld := held_filterAndHandle handle packet handler filter s.session
  have hflights := flights_eraseIdx hget
  rw [hsession] at hheld
  refine ⟨{ s with session := { s.session with calls := calls }, inFlight := s.inFlight.eraseIdx index }, ?_, ?_, rfl⟩
  · simp [SharedSession.next, hget, hsession]
  · rcases h with ⟨lists, d, h⟩ | h
    · refine .inl ⟨lists, d, ?_, h.count, fun x => ?_, h.objects, h.kept, h.counted⟩
      · exact ⟨h.shows.represents, h.shows.default, h.shows.allBits, h.shows.missing, h.shows.found, h.shows.older,
          h.shows.injective⟩
      · have hx := h.handlers x
        have hx' := hheld x
        have hf := hflights x
        simp only [SharedSession.flights] at hx hf ⊢
        simp only at hx'
        omega
    · refine .inr ⟨fun x => ?_, h.objects, h.counted, h.emptied⟩
      have hx := h.handlers x
      have hx' := hheld x
      have hf := hflights x
      simp only [SharedSession.flights] at hx hf ⊢
      simp only at hx'
      omega

/-- The last dereference frees the session, and the others count down. -/
theorem SharedSession.Live.dereference {lists : Nat → List Registration} {d : Dispatch η} {bound : Nat}
    (h : s.Live w lists d bound) (hfuel : bound < fuel) :
    ∃ s', s.next w fuel isValidHandler handle .dereference = some s' ∧ s'.Inv w bound ∧
      s'.referenceCount + 1 = s.referenceCount := by
  obtain ⟨n, hn⟩ : ∃ n, s.referenceCount = n + 1 := ⟨s.referenceCount - 1, by have := h.counted; omega⟩
  cases n with
  | zero =>
      obtain ⟨s', hdelete, hgone⟩ := deleteSession_gone h hfuel
      refine ⟨s', ?_, .inr hgone, ?_⟩
      · simp [SharedSession.next, h.kept, hn, hdelete, Except.toOption]
      · rw [hgone.counted, hn]
  | succ n =>
      refine ⟨{ s with referenceCount := n + 1 }, ?_, .inl ⟨lists, d, h.shows, h.count, h.handlers, h.objects, h.kept,
        Nat.succ_pos n⟩, ?_⟩
      · simp [SharedSession.next, h.kept, hn]
      · exact hn.symm

/-- What a call adds to the references on the session, and takes away. -/
def SessionCall.taken : SessionCall η → Nat
  | .reference => 1
  | .set _ | .beginEvent _ | .endEvent _ | .dereference => 0

def SessionCall.given : SessionCall η → Nat
  | .dereference => 1
  | .set _ | .beginEvent _ | .endEvent _ | .reference => 0

variable (isValidHandler handle) in
/-- **Every call that is possible returns and keeps the invariant.** -/
theorem SharedSession.Inv.step {bound : Nat} (h : s.Inv w bound) (hfuel : bound < fuel) {c : SessionCall η}
    (hc : s.Admits c) :
    ∃ s', s.next w fuel isValidHandler handle c = some s' ∧ s'.Inv w (bound + 1) ∧
      s'.referenceCount + c.given = s.referenceCount + c.taken := by
  have hlive : s.freed = none → ∃ lists d, s.Live w lists d bound := by
    intro hkept
    rcases h with hl | hg
    · exact hl
    · obtain ⟨t, ht, -⟩ := hg.emptied
      rw [hkept] at ht
      cases ht
  have hmono : ∀ {s' : SharedSession η}, s'.Inv w bound → s'.Inv w (bound + 1) := by
    rintro s' (⟨lists, d, hl⟩ | hg)
    · exact .inl ⟨lists, d, hl.mono (Nat.le_succ _)⟩
    · exact .inr hg
  cases c with
  | set info =>
      obtain ⟨lists, d, hl⟩ := hlive hc.1
      obtain ⟨s', lists', hnext, hl', hcount⟩ := hl.set hfuel hc.2
      exact ⟨s', hnext, .inl ⟨lists', _, hl'⟩, hcount⟩
  | beginEvent packet =>
      obtain ⟨lists, d, hl⟩ := hlive hc
      obtain ⟨s', hnext, hl', hcount⟩ := hl.beginEvent hfuel packet
      exact ⟨s', hnext, hmono (.inl ⟨lists, d, hl'⟩), hcount⟩
  | endEvent index =>
      obtain ⟨s', hnext, hinv, hcount⟩ := h.endEvent hc
      exact ⟨s', hnext, hmono hinv, hcount⟩
  | reference =>
      obtain ⟨lists, d, hl⟩ := hlive hc
      refine ⟨{ s with referenceCount := s.referenceCount + 1 }, ?_, hmono (.inl ⟨lists, d, ?_⟩), rfl⟩
      · rw [SharedSession.next, if_neg (by simp [hl.kept])]
      · exact ⟨hl.shows, hl.count, hl.handlers, hl.objects, hl.kept, Nat.succ_pos _⟩
  | dereference =>
      obtain ⟨lists, d, hl⟩ := hlive hc
      obtain ⟨s', hnext, hinv, hcount⟩ := hl.dereference hfuel
      exact ⟨s', hnext, hmono hinv, hcount⟩

omit [DecidableEq η] in
/-- A call that returns was possible. -/
theorem SharedSession.admits_of_next {c : SessionCall η} (h : s.next w fuel isValidHandler handle c = some s') :
    s.Admits c := by
  have hkept : ∀ {x : Option (SharedSession η)}, (if s.freed.isSome then none else x) = some s' → s.freed = none := by
    intro x hx
    cases hfreed : s.freed with
    | none => rfl
    | some t =>
        rw [hfreed] at hx
        cases hx
  cases c with
  | set info =>
      refine ⟨hkept h, ?_⟩
      by_contra hinfo
      rw [SharedSession.next, setInformationSession_not_allocated hinfo] at h
      split at h <;> cases h
  | endEvent index =>
      by_contra hindex
      have hnone : s.inFlight[index]? = none := List.getElem?_eq_none (Nat.not_lt.mp hindex)
      simp [SharedSession.next, hnone] at h
  | beginEvent packet | reference | dereference => exact hkept h

theorem SharedSession.Inv.run {bound : Nat} {calls : List (SessionCall η)} (h : s.Inv w bound)
    (hfuel : bound + calls.length ≤ fuel)
    (hrun : Transition.run (SharedSession.next w fuel isValidHandler handle) s calls = some s') :
    s'.Inv w (bound + calls.length) ∧
    s'.referenceCount + (calls.map SessionCall.given).sum = s.referenceCount + (calls.map SessionCall.taken).sum := by
  induction calls generalizing s bound with
  | nil =>
      cases hrun
      exact ⟨h, rfl⟩
  | cons c calls ih =>
      rw [List.length_cons] at hfuel
      obtain ⟨s₁, hnext, hrun⟩ := Transition.run_cons.mp hrun
      obtain ⟨s₁', hnext', hinv, hcount⟩ := h.step isValidHandler handle
        (by omega : bound < fuel) (admits_of_next hnext)
      obtain rfl : s₁' = s₁ := Option.some.inj (hnext'.symm.trans hnext)
      obtain ⟨hinv', hcount'⟩ := ih hinv (by omega) hrun
      rw [List.length_cons, List.map_cons, List.map_cons, List.sum_cons, List.sum_cons]
      refine ⟨?_, by omega⟩
      rwa [show bound + (calls.length + 1) = bound + 1 + calls.length by omega]

section Created

variable {memory tableMemory : Bool} {formatter resolver : Option Nat} {newResolver newFormatter : Except HRESULT Nat}
  {links : Links (Link Registration)} {block : Nat} {session : Session η}

omit [DecidableEq η] in
theorem createSession_calls
    (hs : createSession w memory tableMemory formatter resolver newResolver newFormatter links block = .ok (.ok session)) :
    session.calls = [] := by
  cases memory with
  | false => cases hs
  | true =>
      obtain ⟨handlers, -, hs⟩ := bind_eq_ok hs
      cases handlers with
      | none => cases hs
      | some handlers =>
          simp only at hs
          split at hs
          · cases hs
          · split at hs
            · cases hs
            · cases hs
              rfl

/-- A created session holds its resolver and its formatter. -/
theorem created_inv
    (hs : createSession w memory tableMemory formatter resolver newResolver newFormatter links block = .ok (.ok session)) :
    (SharedSession.created formatter resolver session).Inv w 0 := by
  obtain ⟨hshows, hcount⟩ := createSession_shows hs
  refine .inl ⟨_, _, hshows, Nat.le_of_eq hcount, ?_, ?_, rfl, Nat.one_pos⟩
  · intro x
    show heldHandler session.calls x = _
    rw [createSession_calls hs]
    simp [Dispatch.slots, Dispatch.initial, SharedSession.flights, SharedSession.created]
  · intro o
    have hresolver : heldObject [if resolver.isSome then .reference (.resolver session.resolver)
        else .created (.resolver session.resolver)] o =
          ((if o = .resolver session.resolver then 1 else 0 : Nat) : Int) := by
      cases resolver.isSome with
      | false => exact heldObject_created _ o
      | true => exact heldObject_reference _ o
    have hformatter : heldObject [if formatter.isSome then .reference (.formatter session.formatter)
        else .created (.formatter session.formatter)] o =
          ((if o = .formatter session.formatter then 1 else 0 : Nat) : Int) := by
      cases formatter.isSome with
      | false => exact heldObject_created _ o
      | true => exact heldObject_reference _ o
    show heldObject ([_] ++ [_]) o = (session.objectSlots o : Int)
    rw [heldObject_append, hresolver, hformatter, Session.objectSlots, Nat.cast_add]

/-- **Conservation of references**: after any calls that return, the session holds one reference for each slot and
    each event in flight, and none of its own when it is freed, which happens when all references on it are given
    back. The next call returns, too, if it is possible. -/
theorem references_conserved
    (hs : createSession w memory tableMemory formatter resolver newResolver newFormatter links block = .ok (.ok session))
    {calls : List (SessionCall η)} (hfuel : calls.length < fuel)
    (hrun : Transition.run (SharedSession.next w fuel isValidHandler handle)
      (SharedSession.created formatter resolver session) calls = some s') :
    s'.Conserved w fuel ∧
    s'.referenceCount + (calls.map SessionCall.given).sum = 1 + (calls.map SessionCall.taken).sum ∧
    ∀ c, s'.Admits c → (s'.next w fuel isValidHandler handle c).isSome := by
  obtain ⟨hinv, hcount⟩ := (created_inv hs).run (by omega) hrun
  rw [Nat.zero_add] at hinv
  refine ⟨hinv.conserved hfuel, hcount, fun c hc => ?_⟩
  obtain ⟨s'', hnext, -⟩ := hinv.step isValidHandler handle hfuel hc
  rw [hnext]
  rfl

end Created

/-- A handler that is replaced while it handles an event, and the end of the session. -/
def replacement : List (SessionCall Nat) :=
  [.set (.handler 2#32 8 true), .beginEvent ⟨2#32, 4#8⟩, .set (.handler 2#32 9 true), .endEvent 0, .dereference]

theorem replacement_returns :
    ∃ session s', createSession .w32 true true none (some 1) (.ok 3) (.ok 2) ⟨id, id⟩ 0 = .ok (.ok session) ∧
      Transition.run (SharedSession.next .w32 6 (fun _ => true) (fun _ _ => sOk))
        (SharedSession.created none (some 1) session) replacement = some s' :=
  ⟨_, _, rfl, rfl⟩

theorem references_conserved_replacement :
    ∃ session s', createSession .w32 true true none (some 1) (.ok 3) (.ok 2) ⟨id, id⟩ 0 = .ok (.ok session) ∧
      Transition.run (SharedSession.next .w32 6 (fun _ => true) (fun _ _ => sOk))
        (SharedSession.created none (some 1) session) replacement = some s' ∧ s'.Conserved .w32 6 := by
  obtain ⟨session, s', hs, hrun⟩ := replacement_returns
  exact ⟨session, s', hs, hrun, (references_conserved hs (by decide) hrun).1⟩

end Runs

end Cfix.Cdiag
