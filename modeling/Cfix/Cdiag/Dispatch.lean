import Cfix.Cdiag.Session
import Cfix.Jpht.Refinement

/-!
# `Cdiag.Dispatch` — which handler gets an event

Abstractly a session is the default handler and, for each type, the handler that was last registered with its
severity filter. `Shows` ties the table and the registrations to these; an event is then dispatched by them.
-/

namespace Cfix.Cdiag

open Cfix.Jpht LinkedList Transition
open Cfix.Events (Width)

/-! ## Keys -/

theorem Width.le_bits (w : Width) : 32 ≤ w.bits := by
  cases w <;> decide

theorem setWidth_setWidth_type (w : Width) (type : DWORD) : (type.setWidth w.bits).setWidth 32 = type := by
  have hle := Width.le_bits w
  rw [BitVec.setWidth_setWidth_of_le _ hle, BitVec.setWidth_eq]

theorem setWidth_eventTypeKey (w : Width) (type : DWORD) : (eventTypeKey w type).setWidth 32 = type := by
  have hle := Width.le_bits w
  ext i hi
  have hlt : i < w.bits := by omega
  rw [BitVec.getElem_setWidth, eventTypeKey, BitVec.getLsbD_signExtend]
  simp [hi, hlt]

theorem handlerRoutines_lawful (w : Width) : (handlerRoutines w).Lawful := by
  refine ⟨?_, ?_, ?_, ?_⟩
  · simp [handlerRoutines]
  · intro a b h
    simp only [handlerRoutines, beq_iff_eq] at h ⊢
    exact h.symm
  · intro a b c hab hbc
    simp only [handlerRoutines, beq_iff_eq] at hab hbc ⊢
    exact hab.trans hbc
  · intro a b h
    simpa [handlerRoutines] using h

/-- A registration has a type's key if it has the type. -/
theorem equals_eventTypeKey (w : Width) (reg : Registration) (type : DWORD) :
    (handlerRoutines w).equals ((handlerRoutines w).key reg) (eventTypeKey w type) = (reg.type == type) := by
  simp [handlerRoutines, setWidth_setWidth_type, setWidth_eventTypeKey]

/-! ## The abstract session -/

/-- The default handler, and the handler and filter of each registered type. -/
structure Dispatch (η : Type) where
  default    : Option η
  registered : DWORD → Option (η × DWORD)

variable {η : Type}

namespace Dispatch

def initial : Dispatch η where
  default      := none
  registered _ := none

variable (d : Dispatch η)

/-- What a call of `CdiagSetInformationSession` changes. -/
def set (isValidHandler : η → Bool) : Information η → Dispatch η
  | .defaultHandler handler => if isValidHandler handler then { d with default := some handler } else d
  | .handler type handler _ =>
    { d with registered := Function.update d.registered type (some (handler, 0xFFFFFFFF#32)) }
  | .severityFilter type filter =>
    { d with registered := Function.update d.registered type ((d.registered type).map fun p => (p.1, filter)) }
  | .resolver _ | .formatter _ | .invalid => d

/-- What a sequence of calls changes. -/
def setAll (isValidHandler : η → Bool) (infos : List (Information η)) : Dispatch η :=
  infos.foldl (fun d info => d.set isValidHandler info) d

/-- The handler and the filter for a type: all bits are set in the filter of the default handler. -/
def inForce (type : DWORD) : Option (η × DWORD) :=
  match d.registered type with
  | some p => some p
  | none   => d.default.map fun handler => (handler, 0xFFFFFFFF#32)

/-- The result for an event, and the handlers that are called: at most one, and that one if the bit is set in its
    filter. -/
def outcome (handle : η → EventPacket → HRESULT) (packet : EventPacket) (bit : Nat) :
    HRESULT × List (η × EventPacket) :=
  match d.inForce packet.type with
  | none                   => (sFalse, [])
  | some (handler, filter) =>
    if filter.getLsbD bit then (handle handler packet, [(handler, packet)]) else (sFalse, [])

end Dispatch

/-- The handler and the packet of a call that handles one. -/
def HandlerCall.handled? : HandlerCall η → Option (η × EventPacket)
  | .handle handler packet        => some (handler, packet)
  | .reference _ | .dereference _ => none

/-- The registration that a call needs is allocated. -/
def Information.Allocated : Information η → Prop
  | .handler _ _ memory => memory = true
  | .defaultHandler _ | .severityFilter _ _ | .resolver _ | .formatter _ | .invalid => True

instance : (info : Information η) → Decidable info.Allocated
  | .handler _ _ memory => inferInstanceAs (Decidable (memory = true))
  | .defaultHandler _ | .severityFilter _ _ | .resolver _ | .formatter _ | .invalid => inferInstanceAs (Decidable True)

/-- A call of `CdiagSetInformationSession` as a step of the session. -/
def next (w : Width) (fuel : Nat) (isValidHandler : η → Bool) (s : Session η) (info : Information η) :
    Option (Session η) :=
  match setInformationSession w fuel isValidHandler s info with
  | .ok (_, s) => some s
  | .error _   => none

/-! ## What a session shows -/

section Shows

variable {w : Width} {fuel : Nat} {s s' : Session η} {lists : Nat → List Registration} {d : Dispatch η}

/-- The registration of a type. -/
def Session.find (w : Width) (s : Session η) (lists : Nat → List Registration) (type : DWORD) :
    Option Registration := lookup (handlerRoutines w) s.handlers lists (eventTypeKey w type)

/-- The session is the abstract one. -/
structure Session.Shows (w : Width) (s : Session η) (lists : Nat → List Registration) (d : Dispatch η) : Prop where
  represents : Represents (handlerRoutines w) s.handlers lists
  default    : s.defaultHandler = d.default
  allBits    : s.defaultSeverityFilter = 0xFFFFFFFF#32
  missing    : ∀ type, s.find w lists type = none → d.registered type = none
  found      : ∀ type reg, s.find w lists type = some reg → ∃ p, s.registration reg.address = some p ∧
    d.registered type = some p
  older      : ∀ type reg, s.find w lists type = some reg → reg.address < s.nextRegistration
  injective  : ∀ type type' reg reg', s.find w lists type = some reg → s.find w lists type' = some reg' →
    reg.address = reg'.address → type = type'

/-- The total number of registrations. -/
def Session.count (s : Session η) (lists : Nat → List Registration) : Nat :=
  total lists s.handlers.bucketCount.toNat

theorem Session.Shows.getEntry (h : s.Shows w lists d) (hfuel : s.count lists < fuel) (type : DWORD) :
    getEntryHashtable (handlerRoutines w) fuel (eventTypeKey w type) s.handlers = .ok (s.find w lists type) :=
  getEntryHashtable_spec h.represents _ hfuel

/-- The default handler changes if it is valid. -/
theorem Session.Shows.setDefaultHandler (h : s.Shows w lists d) (isValidHandler : η → Bool) (handler : η) :
    ∃ hr s', s.setDefaultHandler isValidHandler handler = (hr, s') ∧
      s'.Shows w lists (d.set isValidHandler (.defaultHandler handler)) ∧ s'.count lists = s.count lists := by
  rw [Session.setDefaultHandler, Dispatch.set]
  cases isValidHandler handler with
  | false => exact ⟨_, _, rfl, h, rfl⟩
  | true  => exact ⟨_, _, rfl, ⟨h.represents, rfl, h.allBits, h.missing, h.found, h.older, h.injective⟩, rfl⟩

/-- A filter is set in the registration of its type. -/
theorem Session.Shows.setSeverityFilter (h : s.Shows w lists d) (hfuel : s.count lists < fuel)
    (isValidHandler : η → Bool) (type filter : DWORD) :
    ∃ hr s', s.setSeverityFilter w fuel type filter = .ok (hr, s') ∧
      s'.Shows w lists (d.set isValidHandler (.severityFilter type filter)) ∧ s'.count lists = s.count lists := by
  rw [Session.setSeverityFilter, h.getEntry hfuel, ok_bind]
  cases hfind : s.find w lists type with
  | none =>
      refine ⟨sFalse, s, rfl, ⟨h.represents, h.default, h.allBits, ?_, ?_, h.older, h.injective⟩, rfl⟩
      · intro type' hfind'
        by_cases htype : type' = type
        · subst htype
          simp [Dispatch.set, h.missing _ hfind]
        · simp [Dispatch.set, htype, h.missing _ hfind']
      · intro type' reg hfind'
        have htype : type' ≠ type := by
          rintro rfl
          rw [hfind] at hfind'
          cases hfind'
        obtain ⟨p, hp, hd⟩ := h.found _ _ hfind'
        exact ⟨p, hp, by simp [Dispatch.set, htype, hd]⟩
  | some reg =>
      obtain ⟨⟨handler, old⟩, hreg, hd⟩ := h.found _ _ hfind
      refine ⟨sOk, { s with registration := Function.update s.registration reg.address (some (handler, filter)) },
        by simp only [hreg], ⟨h.represents, h.default, h.allBits, ?_, ?_, h.older, h.injective⟩, rfl⟩
      · intro type' hfind'
        have htype : type' ≠ type := by
          rintro rfl
          have hsome : s.find w lists type' = some reg := hfind
          have hnone : s.find w lists type' = none := hfind'
          rw [hsome] at hnone
          cases hnone
        simp [Dispatch.set, htype, h.missing _ hfind']
      · intro type' reg' hfind'
        by_cases htype : type' = type
        · subst htype
          have heq : reg' = reg := Option.some.inj (hfind'.symm.trans hfind)
          subst heq
          exact ⟨(handler, filter), by simp, by simp [Dispatch.set, hd]⟩
        · obtain ⟨p, hp, hd'⟩ := h.found _ _ hfind'
          have haddress : reg'.address ≠ reg.address := fun heq => htype (h.injective _ _ _ _ hfind' hfind heq)
          exact ⟨p, by simp [haddress, hp], by simp [Dispatch.set, htype, hd']⟩

/-- What is found after a registration was put. -/
theorem find_put (w : Width) (s : Session η) (lists : Nat → List Registration) (reg : Registration)
    (links : Links (Link Registration)) (count : ULONG) (type : DWORD) :
    lookup (handlerRoutines w) (s.handlers.changed links count) (listsPut (handlerRoutines w) s.handlers lists reg)
      (eventTypeKey w type) = if reg.type = type then some reg else s.find w lists type := by
  rw [lookup_listsPut (handlerRoutines_lawful w), Contents.put, equals_eventTypeKey]
  simp [Session.find]

/-- The key in a registration is found like a type that is passed. -/
theorem Session.Shows.find_key (h : s.Shows w lists d) (address : Nat) (type : DWORD) :
    lookup (handlerRoutines w) s.handlers lists ((handlerRoutines w).key ⟨address, type⟩) = s.find w lists type := by
  apply Option.ext
  intro reg
  rw [Session.find, lookup_eq_some (handlerRoutines_lawful w) h.represents,
    lookup_eq_some (handlerRoutines_lawful w) h.represents]
  simp [handlerRoutines, setWidth_setWidth_type, setWidth_eventTypeKey]

/-- The registrations of the other types stay where they are. -/
theorem Session.Shows.address_ne (h : s.Shows w lists d) {type type' : DWORD} (hne : type' ≠ type) {reg : Registration}
    (hfind : s.find w lists type' = some reg) :
    reg.address ≠ s.nextRegistration ∧ ∀ old, s.find w lists type = some old → reg.address ≠ old.address :=
  ⟨Nat.ne_of_lt (h.older _ _ hfind), fun _ hold heq => hne (h.injective _ _ _ _ hfind hold heq)⟩

/-- **A new registration is shown**, if it is what is found for its type, and the registrations of the other types
    are left as they are. -/
theorem Session.Shows.put (h : s.Shows w lists d) (isValidHandler : η → Bool) {type : DWORD} {handler : η}
    {links : Links (Link Registration)} {count : ULONG} {lists' : Nat → List Registration}
    {registration : Nat → Option (η × DWORD)} (calls : List (HandlerCall η))
    (hrep : Represents (handlerRoutines w) (s.handlers.changed links count) lists')
    (hfind : ∀ type', lookup (handlerRoutines w) (s.handlers.changed links count) lists' (eventTypeKey w type') =
      if type = type' then some ⟨s.nextRegistration, type⟩ else s.find w lists type')
    (hnew : registration s.nextRegistration = some (handler, 0xFFFFFFFF#32))
    (hkept : ∀ type', type' ≠ type → ∀ reg, s.find w lists type' = some reg →
      registration reg.address = s.registration reg.address) :
    Session.Shows w { s with
      handlers := s.handlers.changed links count, registration := registration
      nextRegistration := s.nextRegistration + 1, calls := calls } lists'
      (d.set isValidHandler (.handler type handler true)) := by
  have hcases : ∀ type' reg, lookup (handlerRoutines w) (s.handlers.changed links count) lists' (eventTypeKey w type')
      = some reg → (type' = type ∧ reg = ⟨s.nextRegistration, type⟩) ∨
        (type' ≠ type ∧ s.find w lists type' = some reg) := by
    intro type' reg hfound
    rw [hfind] at hfound
    by_cases htype : type = type'
    · rw [if_pos htype] at hfound
      exact Or.inl ⟨htype.symm, (Option.some.inj hfound).symm⟩
    · rw [if_neg htype] at hfound
      exact Or.inr ⟨Ne.symm htype, hfound⟩
  refine ⟨hrep, h.default, h.allBits, ?_, ?_, ?_, ?_⟩
  · intro type' hfound
    have hnone : (if type = type' then some (⟨s.nextRegistration, type⟩ : Registration)
      else s.find w lists type') = none := (hfind type').symm.trans hfound
    by_cases htype : type = type'
    · rw [if_pos htype] at hnone
      cases hnone
    · rw [if_neg htype] at hnone
      simp [Dispatch.set, Ne.symm htype, h.missing _ hnone]
  · intro type' reg hfound
    rcases hcases type' reg hfound with ⟨rfl, rfl⟩ | ⟨htype, hfound⟩
    · exact ⟨_, hnew, by simp [Dispatch.set]⟩
    · obtain ⟨p, hp, hd⟩ := h.found _ _ hfound
      exact ⟨p, (hkept _ htype _ hfound).trans hp, by simp [Dispatch.set, htype, hd]⟩
  · intro type' reg hfound
    rcases hcases type' reg hfound with ⟨rfl, rfl⟩ | ⟨htype, hfound⟩
    · exact Nat.lt_succ_self _
    · exact Nat.lt_succ_of_lt (h.older _ _ hfound)
  · intro type₁ type₂ reg₁ reg₂ hfound₁ hfound₂ heq
    rcases hcases _ _ hfound₁ with ⟨rfl, rfl⟩ | ⟨hne₁, hfound₁⟩
    · rcases hcases _ _ hfound₂ with ⟨rfl, rfl⟩ | ⟨hne₂, hfound₂⟩
      · rfl
      · exact absurd heq.symm (h.address_ne hne₂ hfound₂).1
    · rcases hcases _ _ hfound₂ with ⟨rfl, rfl⟩ | ⟨hne₂, hfound₂⟩
      · exact absurd heq (h.address_ne hne₁ hfound₁).1
      · exact h.injective _ _ _ _ hfound₁ hfound₂ heq

/-- **A new registration replaces the old one of its type**, with all bits set in its filter. -/
theorem Session.Shows.setHandler (h : s.Shows w lists d) (hfuel : s.count lists < fuel) (isValidHandler : η → Bool)
    (type : DWORD) (handler : η) :
    ∃ hr s' lists', s.setHandler w fuel type handler true = .ok (hr, s') ∧
      s'.Shows w lists' (d.set isValidHandler (.handler type handler true)) ∧ s'.count lists' ≤ s.count lists + 1 := by
  obtain ⟨links, count, hput, hrep, -⟩ := putEntryHashtable_spec (handlerRoutines_lawful w) h.represents
    (⟨s.nextRegistration, type⟩ : Registration) hfuel
  have htotal := total_listsPut (handlerRoutines_lawful w) h.represents (⟨s.nextRegistration, type⟩ : Registration)
  have hfind := find_put w s lists ⟨s.nextRegistration, type⟩ links count
  rw [h.find_key] at hput
  have hcount : total (listsPut (handlerRoutines w) s.handlers lists ⟨s.nextRegistration, type⟩)
      s.handlers.bucketCount.toNat ≤ s.count lists + 1 := by
    rw [Session.count]
    omega
  generalize listsPut (handlerRoutines w) s.handlers lists ⟨s.nextRegistration, type⟩ = lists' at *
  simp only [Session.setHandler, Bool.not_true, Bool.false_eq_true, if_false, hput, ok_bind]
  cases hold : s.find w lists type with
  | none =>
      refine ⟨_, _, lists', rfl, h.put isValidHandler _ hrep hfind ?_ ?_, hcount⟩
      · simp
      · intro type' hne reg hfound
        simp [(h.address_ne hne hfound).1]
  | some old =>
      -- the old registration is deleted
      obtain ⟨p, hp, -⟩ := h.found _ _ hold
      have hne : old.address ≠ s.nextRegistration := Nat.ne_of_lt (h.older _ _ hold)
      have hdelete : Function.update s.registration s.nextRegistration (some (handler, 0xFFFFFFFF#32)) old.address =
        some p := by rw [Function.update_of_ne hne, hp]
      simp only [Session.deleteHandlerRegistration, hdelete, ok_bind]
      refine ⟨_, _, lists', rfl, h.put isValidHandler _ hrep hfind ?_ ?_, hcount⟩
      · simp [Ne.symm hne]
      · intro type' hne' reg hfound
        obtain ⟨hnew, hother⟩ := h.address_ne hne' hfound
        simp [hnew, hother _ hold]

/-- **Each call of `CdiagSetInformationSession` refines its change**, if a registration can be allocated. -/
theorem Session.Shows.setInformation (h : s.Shows w lists d) (hfuel : s.count lists < fuel)
    (isValidHandler : η → Bool) {info : Information η} (hinfo : info.Allocated) :
    ∃ hr s' lists', setInformationSession w fuel isValidHandler s info = .ok (hr, s') ∧
      s'.Shows w lists' (d.set isValidHandler info) ∧ s'.count lists' ≤ s.count lists + 1 := by
  cases info with
  | defaultHandler handler =>
      obtain ⟨hr, s', hset, hshows, hcount⟩ := h.setDefaultHandler isValidHandler handler
      exact ⟨hr, s', lists, congrArg _ hset, hshows, by omega⟩
  | handler type handler memory =>
      obtain rfl : memory = true := hinfo
      exact h.setHandler hfuel isValidHandler type handler
  | severityFilter type filter =>
      obtain ⟨hr, s', hset, hshows, hcount⟩ := h.setSeverityFilter hfuel isValidHandler type filter
      exact ⟨hr, s', lists, hset, hshows, by omega⟩
  | resolver resolver =>
      exact ⟨_, _, lists, rfl, ⟨h.represents, h.default, h.allBits, h.missing, h.found, h.older, h.injective⟩,
        Nat.le_succ _⟩
  | formatter formatter =>
      exact ⟨_, _, lists, rfl, ⟨h.represents, h.default, h.allBits, h.missing, h.found, h.older, h.injective⟩,
        Nat.le_succ _⟩
  | invalid => exact ⟨_, s, lists, rfl, h, Nat.le_succ _⟩

/-- Without memory for a registration, the call does not return. -/
theorem setInformationSession_not_allocated {isValidHandler : η → Bool} {info : Information η}
    (hinfo : ¬ info.Allocated) : setInformationSession w fuel isValidHandler s info = .error .wildAccess := by
  cases info with
  | handler type handler memory =>
      have hmemory : memory = false := by simpa [Information.Allocated] using hinfo
      simp [setInformationSession, Session.setHandler, hmemory]
  | defaultHandler handler | severityFilter type filter | resolver resolver | formatter formatter | invalid =>
      exact absurd trivial hinfo

end Shows

/-! ## Runs -/

section Runs

variable {w : Width} {fuel : Nat} {s s' : Session η} {lists : Nat → List Registration} {d : Dispatch η}
  (isValidHandler : η → Bool)

/-- **A run of calls refines the run of changes.** -/
theorem Session.Shows.run {infos : List (Information η)} (h : s.Shows w lists d)
    (hinfos : ∀ info ∈ infos, info.Allocated) (hfuel : s.count lists + infos.length < fuel) :
    ∃ s' lists', Transition.run (next w fuel isValidHandler) s infos = some s' ∧
      s'.Shows w lists' (d.setAll isValidHandler infos) ∧ s'.count lists' < fuel := by
  induction infos generalizing s lists d with
  | nil => exact ⟨s, lists, rfl, h, by simpa using hfuel⟩
  | cons info infos ih =>
      rw [List.length_cons] at hfuel
      have hlt : s.count lists < fuel := by omega
      obtain ⟨hr, s₁, lists₁, hset, h₁, hcount⟩ := h.setInformation hlt isValidHandler (hinfos info List.mem_cons_self)
      have hnext : next w fuel isValidHandler s info = some s₁ := by simp [next, hset]
      obtain ⟨s', lists', hrun, h', hcount'⟩ := ih h₁ (fun i hi => hinfos i (List.mem_cons_of_mem _ hi)) (by omega)
      exact ⟨s', lists', run_cons.mpr ⟨s₁, hnext, hrun⟩, h', hcount'⟩

/-- A run that ends has allocated every registration. -/
theorem allocated_of_run {isValidHandler : η → Bool} {infos : List (Information η)}
    (hrun : Transition.run (next w fuel isValidHandler) s infos = some s') : ∀ info ∈ infos, info.Allocated := by
  induction infos generalizing s with
  | nil => exact fun info hinfo => absurd hinfo List.not_mem_nil
  | cons info infos ih =>
      obtain ⟨s₁, hnext, hrun⟩ := run_cons.mp hrun
      intro info' hmem
      rcases List.mem_cons.mp hmem with rfl | hmem
      · by_contra hinfo
        rw [next, setInformationSession_not_allocated hinfo] at hnext
        cases hnext
      · exact ih hrun info' hmem

/-- A created session has no handlers. -/
theorem createSession_shows {memory tableMemory : Bool} {formatter resolver : Option Nat}
    {newResolver newFormatter : Except HRESULT Nat} {links : Links (Link Registration)} {block : Nat}
    (h : createSession w memory tableMemory formatter resolver newResolver newFormatter links block = .ok (.ok s)) :
    s.Shows w (fun _ => []) Dispatch.initial ∧ s.count (fun _ => []) = 0 := by
  have hfit : (23#32).toNat * sizeofBucket w < 2 ^ w.bits := by
    cases w <;> decide
  obtain ⟨t₀, hinit, hempty⟩ := initializeHashtable_spec (handlerRoutines w) (by decide : 23#32 ≠ 0#32) hfit links
    block
  have hs : s = ⟨s.formatter, s.resolver, none, 0xFFFFFFFF#32, t₀, fun _ => none, 0, []⟩ := by
    cases memory with
    | false => cases h
    | true  =>
        cases tableMemory with
        | false => simp [createSession, initializeHashtable, not_overflow] at h
        | true  =>
            simp only [createSession, hinit, ok_bind, Bool.not_true, Bool.false_eq_true, if_false] at h
            cases hresolver : resolver.elim newResolver .ok with
            | error hr  => simp [hresolver] at h
            | ok res =>
                cases hformatter : formatter.elim newFormatter .ok with
                | error hr => simp [hresolver, hformatter] at h
                | ok fmt   =>
                    simp only [hresolver, hformatter, Except.ok.injEq] at h
                    rw [← h]
  have hnone : ∀ type, s.find w (fun _ => []) type = none := by
    intro type
    rfl
  rw [hs] at hnone ⊢
  refine ⟨⟨hempty.represents, rfl, rfl, fun _ _ => rfl, ?_, ?_, ?_⟩, by simp [Session.count, total]⟩
  · intro type reg hfind
    rw [hnone type] at hfind
    cases hfind
  · intro type reg hfind
    rw [hnone type] at hfind
    cases hfind
  · intro type type' reg reg' hfind
    rw [hnone type] at hfind
    cases hfind

/-! ## Events -/

/-- The bit of a type in a filter. -/
theorem typeBit_and (type filter : DWORD) :
    0#32 ≠ typeBit type &&& filter ↔ filter.getLsbD (type.toNat % 32) = true := by
  have hbit : typeBit type = BitVec.twoPow 32 (type.toNat % 32) := by rw [typeBit, BitVec.twoPow_eq]
  rw [hbit, BitVec.twoPow_and]
  cases hlsb : filter.getLsbD (type.toNat % 32) with
  | false => simp
  | true  =>
      have hlt : type.toNat % 32 < 32 := Nat.mod_lt _ (by decide)
      have hne : BitVec.twoPow 32 (type.toNat % 32) ≠ 0#32 := by
        intro heq
        have hget := congrArg (fun b : DWORD => b.getLsbD (type.toNat % 32)) heq
        simp [hlt] at hget
      simpa using hne.symm

/-- **An event is dispatched by the bit of its type.** -/
theorem Session.Shows.handleEvent (h : s.Shows w lists d) (hfuel : s.count lists < fuel)
    (handle : η → EventPacket → HRESULT) (packet : EventPacket) :
    ∃ hr s' calls, handleEvent w fuel handle (some packet) s = .ok (hr, s') ∧ s'.calls = s.calls ++ calls ∧
      (hr, calls.filterMap HandlerCall.handled?) = d.outcome handle packet (packet.type.toNat % 32) := by
  have hcall : ∀ (handler : η) (filter : DWORD), ∃ hr s' calls,
      (.ok (let s := s.called (.reference handler)
        let p := if 0#32 ≠ typeBit packet.type &&& filter then
            (handle handler packet, s.called (.handle handler packet))
          else (sFalse, s)
        (p.1, p.2.called (.dereference handler))) : Except Fault (HRESULT × Session η)) = .ok (hr, s') ∧
      s'.calls = s.calls ++ calls ∧ (hr, calls.filterMap HandlerCall.handled?) =
        if filter.getLsbD (packet.type.toNat % 32) then (handle handler packet, [(handler, packet)])
        else (sFalse, []) := by
    intro handler filter
    by_cases hbit : 0#32 ≠ typeBit packet.type &&& filter
    · refine ⟨_, _, [.reference handler, .handle handler packet, .dereference handler], rfl, ?_, ?_⟩
      · simp [hbit, Session.called]
      · simp only [if_pos hbit, if_pos ((typeBit_and _ _).mp hbit)]
        rfl
    · refine ⟨_, _, [.reference handler, .dereference handler], rfl, ?_, ?_⟩
      · simp [hbit, Session.called]
      · have hlsb := mt (typeBit_and packet.type filter).mpr hbit
        simp only [if_neg hbit, if_neg hlsb]
        rfl
  rw [Cdiag.handleEvent]
  simp only [h.getEntry hfuel, ok_bind, Dispatch.outcome, Dispatch.inForce]
  cases hfind : s.find w lists packet.type with
  | none =>
      simp only [h.missing _ hfind, Session.registrationFor, ok_bind, h.default]
      cases hhandler : d.default with
      | none         => exact ⟨_, _, [], rfl, by simp, rfl⟩
      | some handler =>
          obtain ⟨hr, s', calls, hok, hcalls, hout⟩ := hcall handler s.defaultSeverityFilter
          exact ⟨hr, s', calls, hok, hcalls, by simpa [h.allBits] using hout⟩
  | some reg =>
      obtain ⟨⟨handler, filter⟩, hreg, hd⟩ := h.found _ _ hfind
      simp only [hd, Session.registrationFor, hreg, ok_bind]
      exact hcall handler filter

/-- Two bits give one outcome if they agree in the registered filter. -/
theorem Dispatch.outcome_eq_iff (d : Dispatch η) (handle : η → EventPacket → HRESULT) (packet : EventPacket) {i j : Nat}
    (hi : i < 32) (hj : j < 32) :
    d.outcome handle packet i = d.outcome handle packet j ↔
      ∀ handler filter, d.registered packet.type = some (handler, filter) → filter.getLsbD i = filter.getLsbD j := by
  have hdefault : ∀ bit, bit < 32 → (0xFFFFFFFF#32).getLsbD bit = true := by decide
  rw [Dispatch.outcome, Dispatch.outcome, Dispatch.inForce]
  cases hreg : d.registered packet.type with
  | none =>
      cases hhandler : d.default with
      | none         => simp
      | some handler => simp [hdefault i hi, hdefault j hj]
  | some p =>
      obtain ⟨handler, filter⟩ := p
      cases hbi : filter.getLsbD i <;> cases hbj : filter.getLsbD j <;> simp [hbi, hbj]

/-- The calls of `CdiagSetInformationSession` return, and the event is then handled with the result and by the
    handler that its severity selects. -/
def Session.HandlesBySeverity (w : Width) (fuel : Nat) (isValidHandler : η → Bool) (handle : η → EventPacket → HRESULT)
    (s : Session η) (infos : List (Information η)) (packet : EventPacket) : Prop :=
  ∃ s₁ hr s₂ calls, Transition.run (next w fuel isValidHandler) s infos = some s₁ ∧
    Cdiag.handleEvent w fuel handle (some packet) s₁ = .ok (hr, s₂) ∧ s₂.calls = s₁.calls ++ calls ∧
    (hr, calls.filterMap HandlerCall.handled?) =
      (Dispatch.initial.setAll isValidHandler infos).outcome handle packet packet.severity.toNat

/-- After any calls, an event is dispatched by its type. -/
theorem handles_by_type {memory tableMemory : Bool} {formatter resolver : Option Nat}
    {newResolver newFormatter : Except HRESULT Nat} {links : Links (Link Registration)} {block : Nat}
    {infos : List (Information η)}
    (hs : createSession w memory tableMemory formatter resolver newResolver newFormatter links block = .ok (.ok s))
    (hinfos : ∀ info ∈ infos, info.Allocated) (hfuel : infos.length < fuel) (handle : η → EventPacket → HRESULT)
    (packet : EventPacket) :
    ∃ s₁ hr s₂ calls, Transition.run (next w fuel isValidHandler) s infos = some s₁ ∧
      Cdiag.handleEvent w fuel handle (some packet) s₁ = .ok (hr, s₂) ∧ s₂.calls = s₁.calls ++ calls ∧
      (hr, calls.filterMap HandlerCall.handled?) =
        (Dispatch.initial.setAll isValidHandler infos).outcome handle packet (packet.type.toNat % 32) := by
  obtain ⟨h, hcount⟩ := createSession_shows hs
  obtain ⟨s₁, lists, hrun, h₁, hlt⟩ := h.run isValidHandler hinfos
    (by omega : s.count (fun _ => []) + infos.length < fuel)
  obtain ⟨hr, s₂, calls, hhandle, hcalls, hout⟩ := h₁.handleEvent hlt handle packet
  exact ⟨s₁, hr, s₂, calls, hrun, hhandle, hcalls, hout⟩

section Created

variable {isValidHandler} {memory tableMemory : Bool} {formatter resolver : Option Nat}
  {newResolver newFormatter : Except HRESULT Nat} {links : Links (Link Registration)} {block : Nat}

/-- An event that is dispatched by its severity could as well be dispatched by its type. -/
theorem Session.HandlesBySeverity.agree {infos : List (Information η)} {handle : η → EventPacket → HRESULT}
    {packet : EventPacket}
    (hs : createSession w memory tableMemory formatter resolver newResolver newFormatter links block = .ok (.ok s))
    (hfuel : infos.length < fuel) (hseverity : packet.severity.toNat ≤ cdiagMaxSeverity)
    (h : s.HandlesBySeverity w fuel isValidHandler handle infos packet) :
    (∀ info ∈ infos, info.Allocated) ∧ ∀ handler filter,
      (Dispatch.initial.setAll isValidHandler infos).registered packet.type = some (handler, filter) →
        filter.getLsbD (packet.type.toNat % 32) = filter.getLsbD packet.severity.toNat := by
  have hbit : packet.severity.toNat < 32 := Nat.lt_of_le_of_lt hseverity (by decide)
  obtain ⟨s₁, hr, s₂, calls, hrun, hhandle, hcalls, hout⟩ := h
  have hinfos := allocated_of_run hrun
  obtain ⟨s₁', hr', s₂', calls', hrun', hhandle', hcalls', hout'⟩ := handles_by_type isValidHandler hs hinfos hfuel
    handle packet
  rw [hrun] at hrun'
  cases hrun'
  rw [hhandle] at hhandle'
  cases hhandle'
  refine ⟨hinfos, (Dispatch.outcome_eq_iff _ handle packet (Nat.mod_lt _ (by decide)) hbit).mp ?_⟩
  rw [← hout', ← hout, List.append_cancel_left (hcalls.symm.trans hcalls')]

/-- **An event is dispatched by its severity** exactly if every registration could be allocated, and the registered
    filter has the same bit for the type as for the severity. -/
theorem handlesBySeverity_iff
    (hs : createSession w memory tableMemory formatter resolver newResolver newFormatter links block = .ok (.ok s))
    (infos : List (Information η)) (hfuel : infos.length < fuel) (handle : η → EventPacket → HRESULT)
    (packet : EventPacket) (hseverity : packet.severity.toNat ≤ cdiagMaxSeverity) :
    s.HandlesBySeverity w fuel isValidHandler handle infos packet ↔ (∀ info ∈ infos, info.Allocated) ∧
      ∀ handler filter, (Dispatch.initial.setAll isValidHandler infos).registered packet.type = some (handler, filter) →
        filter.getLsbD (packet.type.toNat % 32) = filter.getLsbD packet.severity.toNat := by
  have hbit : packet.severity.toNat < 32 := Nat.lt_of_le_of_lt hseverity (by decide)
  constructor
  · exact fun h => h.agree hs hfuel hseverity
  · rintro ⟨hinfos, hfilter⟩
    obtain ⟨s₁, hr, s₂, calls, hrun, hhandle, hcalls, hout⟩ := handles_by_type isValidHandler hs hinfos hfuel handle
      packet
    have hagree := (Dispatch.outcome_eq_iff _ handle packet (Nat.mod_lt _ (by decide)) hbit).mpr hfilter
    exact ⟨s₁, hr, s₂, calls, hrun, hhandle, hcalls, hout.trans hagree⟩

end Created

/-- With memory a session is created. -/
theorem createSession_ok (η : Type) (w : Width) (resolver formatter : Nat) (links : Links (Link Registration))
    (block : Nat) :
    ∃ s : Session η, createSession w true true none none (.ok resolver) (.ok formatter) links block = .ok (.ok s) := by
  have hfit : (23#32).toNat * sizeofBucket w < 2 ^ w.bits := by
    cases w <;> decide
  obtain ⟨t₀, hinit, -⟩ := initializeHashtable_spec (handlerRoutines w) (by decide : 23#32 ≠ 0#32) hfit links block
  exact ⟨_, by simp only [createSession, hinit, ok_bind, Bool.not_true, Bool.false_eq_true, if_false]; rfl⟩

/-- A handler that is replaced, and a filter with the bits of type 2 and severity 4. -/
theorem handlesBySeverity_bothBits :
    ∃ s : Session Nat, createSession .w32 true true none none (.ok 1) (.ok 2) ⟨id, id⟩ 0 = .ok (.ok s) ∧
      s.HandlesBySeverity .w32 5 (fun _ => true) (fun _ _ => sOk)
        [.defaultHandler 7, .handler 2#32 8 true, .handler 2#32 9 true, .severityFilter 2#32 0x14#32] ⟨2#32, 4#8⟩ := by
  obtain ⟨s, hs⟩ := createSession_ok Nat .w32 1 2 ⟨id, id⟩ 0
  refine ⟨s, hs, (handlesBySeverity_iff hs _ (by decide) _ _ (by decide)).mpr ⟨by decide, ?_⟩⟩
  intro handler filter hreg
  obtain ⟨rfl, rfl⟩ : 9 = handler ∧ 0x14#32 = filter := by simpa [Dispatch.setAll, Dispatch.set] using hreg
  decide

/-- A filter for one severity takes all events of type 2. -/
theorem not_handlesBySeverity_oneBit :
    ∃ s : Session Nat, createSession .w32 true true none none (.ok 1) (.ok 2) ⟨id, id⟩ 0 = .ok (.ok s) ∧
      ¬ s.HandlesBySeverity .w32 3 (fun _ => true) (fun _ _ => sOk)
        [.handler 2#32 8 true, .severityFilter 2#32 0x10#32] ⟨2#32, 4#8⟩ := by
  obtain ⟨s, hs⟩ := createSession_ok Nat .w32 1 2 ⟨id, id⟩ 0
  refine ⟨s, hs, fun h => ?_⟩
  have hagree := (h.agree hs (by decide) (by decide)).2 8 0x10#32 (by simp [Dispatch.setAll, Dispatch.set])
  exact absurd hagree (by decide)

end Runs

end Cfix.Cdiag
