import Mathlib.Logic.Function.Basic
import Cfix.Kernel.CallRoutine

/-!
# `Kernel.QueryInterface` — `CfixkrpDispatchPnp`: a driver asks for the report sink (`cfixkr/main.c`)

The reflector finds the driver's load address, creates and registers a connection for it and hands out an
interface whose size depends on the version asked for. The creation cleans up after itself
(`createAndRegister_error`); the dispatch routine does so in some cases only (`dispatchPnp_atomic_iff`).
-/

namespace Cfix.QueryInterface

open Cfix.Events (Width ntSuccess)
open Cfix.Unload (NTSTATUS statusSuccess)

/-! ## Connections -/

abbrev ConnId      := Nat
abbrev LoadAddress := Nat

def statusNoMemory             : NTSTATUS := 0xC0000017#32
def statusUnsuccessful         : NTSTATUS := 0xC0000001#32
def statusInvalidDeviceRequest : NTSTATUS := 0xC0000010#32
def statusDriverInternalError  : NTSTATUS := 0xC0000183#32

/-- `CFIXKRP_DRIVER_CONNECTION`, as far as the request sets it up. -/
structure DriverConnection where
  driverLoadAddress      : LoadAddress
  referenceCount         : Nat
  externalReferenceCount : Nat
  deriving DecidableEq, Repr

/-- The registry and the connections in memory. An allocation takes the next identifier, which is unused. -/
structure ConnectionStore where
  table       : LoadAddress → Option ConnId
  connections : ConnId → Option DriverConnection
  next        : ConnId
  unused      : ∀ c, next ≤ c → connections c = none

/-- `ExAllocatePoolWithTag` of a connection that is then initialized. -/
def ConnectionStore.allocate (s : ConnectionStore) (k : DriverConnection) : ConnectionStore where
  table       := s.table
  connections := Function.update s.connections s.next (some k)
  next        := s.next + 1
  unused c hc := by
    rw [Function.update_of_ne (Nat.ne_of_gt hc)]
    exact s.unused c (Nat.le_of_succ_le hc)

/-- `ExFreePoolWithTag`. -/
def ConnectionStore.free (s : ConnectionStore) (c : ConnId) : ConnectionStore where
  table       := s.table
  connections := Function.update s.connections c none
  next        := s.next
  unused c' hc := by
    by_cases h : c' = c
    · rw [h, Function.update_self]
    · rw [Function.update_of_ne h]
      exact s.unused c' hc

/-- `JphtPutEntryHashtable` in the registry. -/
def ConnectionStore.register (s : ConnectionStore) (address : LoadAddress) (c : ConnId) : ConnectionStore :=
  { s with table := Function.update s.table address (some c) }

/-- The registry and the connections are the same. -/
def ConnectionStore.Unchanged (s s' : ConnectionStore) : Prop :=
  s'.table = s.table ∧ s'.connections = s.connections

/-! ## Environment -/

/-- How `AuxKlibQueryModuleInformation` answers when asked for the size and for the modules, each with its
    base and its size. -/
structure ModuleQuery where
  sizeStatus : NTSTATUS
  allocation : Bool
  status     : NTSTATUS
  modules    : List (Nat × Nat)

/-- The outcomes of what the request calls. -/
structure Environment where
  moduleQuery          : ModuleQuery
  connectionAllocation : Bool
  /-- `CfixkrpInitializeFilamentRegistry`. -/
  filamentRegistry     : NTSTATUS
  /-- `ExInitializeResourceLite`. -/
  driverUnloadLock     : NTSTATUS
  /-- `CfixkrpCreateTestAdapter` for the load address. -/
  testAdapter          : LoadAddress → NTSTATUS
  registrationAllocation : Bool

/-- `CfixkrpGetModuleBaseAddress`. -/
def getModuleBaseAddress (q : ModuleQuery) (address : Nat) : Except NTSTATUS LoadAddress :=
  if !ntSuccess q.sizeStatus then .error q.sizeStatus
  else if !q.allocation then .error statusNoMemory
  else if !ntSuccess q.status then .error statusUnsuccessful
  else
    match q.modules.find? fun (base, size) => base ≤ address && address < base + size with
    | some (base, _) => if base = 0 then .error statusUnsuccessful else .ok base
    | none           => .error statusUnsuccessful

/-- `CfixkrpCreateAndRegisterDriverConnection`. -/
def createAndRegister (env : Environment) (s : ConnectionStore) (address : LoadAddress) :
    Except NTSTATUS ConnId × ConnectionStore :=
  if !env.connectionAllocation then (.error statusNoMemory, s)
  else
    let c := s.next
    let s := s.allocate { driverLoadAddress := address, referenceCount := 1, externalReferenceCount := 1 }
    if !ntSuccess env.filamentRegistry then (.error statusNoMemory, s.free c)
    else if !ntSuccess env.driverUnloadLock then (.error env.driverUnloadLock, s.free c)
    else if !ntSuccess (env.testAdapter address) then (.error (env.testAdapter address), s.free c)
    else if !env.registrationAllocation then (.error statusNoMemory, s.free c)
    else (.ok c, s.register address c)

/-! ## Interfaces -/

/-- The report sink methods. -/
inductive Method where
  | reportFailedAssertion
  | assertEqualsUlong
  | reportInconclusiveness
  | reportLog
  | reportFailedAssertionFormat
  | fail
  | getValue
  | setValue
  | createSystemThread
  deriving DecidableEq, Repr

/-- What is written to the caller's interface structure. -/
structure SinkInterface where
  size    : Nat
  version : Nat
  context : ConnId
  methods : List Method
  deriving DecidableEq, Repr

/-- The bytes of an interface with so many methods: `INTERFACE` takes four pointers. -/
def sizeofInterface (w : Width) (methods : Nat) : Nat := w.bytes * (4 + methods)

/-- The bytes that are written. -/
def SinkInterface.extent (w : Width) (i : SinkInterface) : Nat := sizeofInterface w i.methods.length

/-- `CFIXKR_REPORT_SINK_VERSION_1`, `_2` and `_3`. -/
def reportSinkVersion1 : Nat := 0x1000
def reportSinkVersion2 : Nat := 0x2000
def reportSinkVersion3 : Nat := 0x3000

/-- `CfixkrpGetReportSinkStubs`. -/
def reportSinkStubs : List Method := [.reportFailedAssertion, .assertEqualsUlong, .reportInconclusiveness, .reportLog]

/-- `CfixkrpGetReportSinkStubs2`. -/
def reportSinkStubs2 : List Method :=
  reportSinkStubs ++ [.reportFailedAssertionFormat, .fail, .getValue, .setValue]

/-- `CfixkrpGetReportSinkStubs3`. -/
def reportSinkStubs3 : List Method := reportSinkStubs2 ++ [.createSystemThread]

/-- `CfixkrpQuerySinkInterfaceDriverConnection` and its variants, which differ in the version and the
    methods. -/
def querySinkInterface (w : Width) (version : Nat) (methods : List Method) (c : ConnId) : SinkInterface where
  size    := sizeofInterface w methods.length
  version := version
  context := c
  methods := methods

def querySinkInterface1 (w : Width) : ConnId → SinkInterface :=
  querySinkInterface w reportSinkVersion1 reportSinkStubs

def querySinkInterface2 (w : Width) : ConnId → SinkInterface :=
  querySinkInterface w reportSinkVersion2 reportSinkStubs2

def querySinkInterface3 (w : Width) : ConnId → SinkInterface :=
  querySinkInterface w reportSinkVersion3 reportSinkStubs3

/-! ## The dispatch routine -/

/-- `GUID`. -/
structure Guid where
  data1 : BitVec 32
  data2 : BitVec 16
  data3 : BitVec 16
  data4 : List (BitVec 8)
  deriving DecidableEq, Repr

/-- `GUID_CFIXKR_REPORT_SINK`. -/
def guidReportSink : Guid where
  data1 := 0x118f0a99#32
  data2 := 0xc318#16
  data3 := 0x45da#16
  data4 := [0xb5#8, 0x5c#8, 0x6e#8, 0x19#8, 0xa4#8, 0xe1#8, 0x24#8, 0xc#8]

/-- `IRP_MN_QUERY_INTERFACE`. -/
def irpMnQueryInterface : BitVec 8 := 0x08#8

/-- The stack location of a PnP request; pointers are addresses. -/
structure PnpRequest where
  minorFunction         : BitVec 8
  interfaceType         : Guid
  size                  : BitVec 16
  version               : BitVec 16
  interface             : Nat
  interfaceSpecificData : Nat

/-- What the dispatch routine returns and what it leaves: the completions of the IRP, the connections and the
    interface it has written. -/
structure PnpResult where
  status      : NTSTATUS
  completions : List NTSTATUS
  store       : ConnectionStore
  written     : Option SinkInterface

/-- `CfixkrpCompleteRequest`. -/
def completeRequest (status : NTSTATUS) (s : ConnectionStore) (written : Option SinkInterface) : PnpResult :=
  ⟨status, [status], s, written⟩

/-- The interface asked for is the report sink, and there is something to write it to. -/
def asksForReportSink (w : Width) (r : PnpRequest) : Bool :=
  r.interfaceType == guidReportSink && decide (sizeofInterface w reportSinkStubs.length ≤ r.size.toNat) &&
    r.interface != 0 && r.interfaceSpecificData != 0

/-- `CfixkrpDispatchPnp`. -/
def dispatchPnp (w : Width) (env : Environment) (s : ConnectionStore) (r : PnpRequest) : PnpResult :=
  if r.minorFunction = irpMnQueryInterface then
    if asksForReportSink w r then
      match getModuleBaseAddress env.moduleQuery r.interfaceSpecificData with
      -- the IRP is not completed
      | .error _ => ⟨statusDriverInternalError, [], s, none⟩
      | .ok base =>
        match createAndRegister env s base with
        | (.error status, s) => completeRequest status s none
        | (.ok c, s) =>
          if r.version.toNat = reportSinkVersion1 then
            completeRequest statusSuccess s (some (querySinkInterface1 w c))
          else if r.version.toNat = reportSinkVersion2 then
            completeRequest statusSuccess s (some (querySinkInterface2 w c))
          else if r.version.toNat = reportSinkVersion3 then
            completeRequest statusSuccess s (some (querySinkInterface3 w c))
          -- the connection stays registered
          else completeRequest statusInvalidDeviceRequest s none
    else completeRequest statusInvalidDeviceRequest s none
  else completeRequest statusInvalidDeviceRequest s none

/-! ## Creation of a connection -/

/-- All steps of the creation succeed. -/
def Environment.creates (env : Environment) (address : LoadAddress) : Bool :=
  env.connectionAllocation && ntSuccess env.filamentRegistry && ntSuccess env.driverUnloadLock &&
    ntSuccess (env.testAdapter address) && env.registrationAllocation

theorem ConnectionStore.Unchanged.refl (s : ConnectionStore) : s.Unchanged s := ⟨rfl, rfl⟩

/-- Freeing what was just allocated leaves no trace. -/
theorem ConnectionStore.free_allocate (s : ConnectionStore) (k : DriverConnection) :
    s.Unchanged ((s.allocate k).free s.next) := by
  refine ⟨rfl, ?_⟩
  show Function.update (Function.update s.connections s.next (some k)) s.next none = s.connections
  rw [Function.update_idem, ← s.unused s.next (Nat.le_refl _), Function.update_eq_self]

/-- A new connection is one more than before. -/
theorem ConnectionStore.allocate_changed (s : ConnectionStore) (k : DriverConnection) (address : LoadAddress) :
    ¬ s.Unchanged ((s.allocate k).register address s.next) := by
  rintro ⟨-, hconns⟩
  have hnew : Function.update s.connections s.next (some k) s.next = s.connections s.next :=
    congrFun hconns s.next
  rw [Function.update_self, s.unused s.next (Nat.le_refl _)] at hnew
  cases hnew

/-- **A creation that fails leaves nothing behind.** -/
theorem createAndRegister_error {env : Environment} {s : ConnectionStore} {address : LoadAddress}
    (h : env.creates address = false) :
    ∃ status, (createAndRegister env s address).1 = .error status ∧ ntSuccess status = false ∧
      s.Unchanged (createAndRegister env s address).2 := by
  have hfree := s.free_allocate ⟨address, 1, 1⟩
  unfold Environment.creates at h
  unfold createAndRegister
  -- the steps in their order: each failure frees the connection, the first one has none to free
  cases hconn : env.connectionAllocation with
  | false => exact ⟨_, rfl, rfl, .refl s⟩
  | true =>
      cases hfilament : ntSuccess env.filamentRegistry with
      | false => exact ⟨_, rfl, rfl, hfree⟩
      | true =>
          cases hlock : ntSuccess env.driverUnloadLock with
          | false => exact ⟨_, rfl, hlock, hfree⟩
          | true =>
              cases hadapter : ntSuccess (env.testAdapter address) with
              | false => exact ⟨_, rfl, hadapter, hfree⟩
              | true =>
                  cases hreg : env.registrationAllocation with
                  | false => exact ⟨_, rfl, rfl, hfree⟩
                  | true =>
                      rw [hconn, hfilament, hlock, hadapter, hreg] at h
                      cases h

/-- A creation whose steps all succeed registers a new connection. -/
theorem createAndRegister_ok {env : Environment} {s : ConnectionStore} {address : LoadAddress}
    (h : env.creates address = true) :
    createAndRegister env s address =
      (.ok s.next, (s.allocate ⟨address, 1, 1⟩).register address s.next) := by
  unfold Environment.creates at h
  simp only [Bool.and_eq_true] at h
  obtain ⟨⟨⟨⟨hconn, hfilament⟩, hlock⟩, hadapter⟩, hreg⟩ := h
  unfold createAndRegister
  rw [hconn, hfilament, hlock, hadapter, hreg]
  rfl

/-! ## When the request is atomic -/

/-- The IRP is completed exactly once, a failure leaves the connections as they were, and no more is written
    than the caller has room for. -/
structure Atomic (w : Width) (s : ConnectionStore) (r : PnpRequest) (result : PnpResult) : Prop where
  completed : result.completions.length = 1
  failure   : ∀ status ∈ result.completions, ntSuccess status = false → s.Unchanged result.store
  written   : ∀ i ∈ result.written, i.extent w ≤ r.size.toNat

/-- The version is known and the caller has room for its interface. -/
def HasRoom (w : Width) (r : PnpRequest) : Prop :=
  r.version.toNat = reportSinkVersion1 ∨
    (r.version.toNat = reportSinkVersion2 ∧ sizeofInterface w reportSinkStubs2.length ≤ r.size.toNat) ∨
    (r.version.toNat = reportSinkVersion3 ∧ sizeofInterface w reportSinkStubs3.length ≤ r.size.toNat)

theorem atomic_rejected {w : Width} {s s' : ConnectionStore} {r : PnpRequest} (status : NTSTATUS)
    (hs : s.Unchanged s') : Atomic w s r (completeRequest status s' none) :=
  ⟨rfl, fun _ _ _ => hs, fun i hi => by cases hi⟩

/-- A success is atomic if what was written has room. -/
theorem atomic_success_iff {w : Width} {s s' : ConnectionStore} {r : PnpRequest} (i : SinkInterface) :
    Atomic w s r (completeRequest statusSuccess s' (some i)) ↔ i.extent w ≤ r.size.toNat := by
  constructor
  · intro h
    exact h.written i rfl
  · intro hroom
    refine ⟨rfl, ?_, ?_⟩
    · intro status hstatus hfail
      rw [List.mem_singleton.mp hstatus] at hfail
      exact absurd hfail (by decide)
    · intro i' hi'
      cases hi'
      exact hroom

/-- Once the connection is registered, the request is atomic if the version is known and has room. -/
theorem atomic_created_iff {w : Width} {env : Environment} {s : ConnectionStore} {r : PnpRequest}
    {base : LoadAddress} (hminor : r.minorFunction = irpMnQueryInterface) (hasks : asksForReportSink w r = true)
    (hbase : getModuleBaseAddress env.moduleQuery r.interfaceSpecificData = .ok base)
    (hcreates : env.creates base = true) : Atomic w s r (dispatchPnp w env s r) ↔ HasRoom w r := by
  have hroom : sizeofInterface w reportSinkStubs.length ≤ r.size.toNat := by
    unfold asksForReportSink at hasks
    simp only [Bool.and_eq_true, decide_eq_true_eq] at hasks
    exact hasks.1.1.2
  unfold dispatchPnp HasRoom
  rw [if_pos hminor, if_pos hasks, hbase]
  simp only
  rw [createAndRegister_ok hcreates]
  simp only
  by_cases h1 : r.version.toNat = reportSinkVersion1
  · rw [if_pos h1, atomic_success_iff]
    exact iff_of_true hroom (Or.inl h1)
  · rw [if_neg h1, or_iff_right h1]
    by_cases h2 : r.version.toNat = reportSinkVersion2
    · have h3 : r.version.toNat ≠ reportSinkVersion3 := by
        rw [h2]
        decide
      rw [if_pos h2, atomic_success_iff]
      exact ⟨fun h => Or.inl ⟨h2, h⟩, fun h => h.elim And.right fun h => absurd h.1 h3⟩
    · rw [if_neg h2]
      by_cases h3 : r.version.toNat = reportSinkVersion3
      · rw [if_pos h3, atomic_success_iff]
        exact ⟨fun h => Or.inr ⟨h3, h⟩, fun h => h.elim (fun h => absurd h.1 h2) And.right⟩
      · -- an unknown version fails after the connection was registered
        rw [if_neg h3]
        refine iff_of_false ?_ ?_
        · intro h
          have hsame := h.failure statusInvalidDeviceRequest List.mem_cons_self (by decide)
          exact s.allocate_changed _ _ hsame
        · rintro (h | h)
          · exact h2 h.1
          · exact h3 h.1

/-- **Atomicity.** A request is handled atomically exactly if it does not ask for the report sink, or the
    base address is found and either the creation fails or the version is known and has room. -/
theorem dispatchPnp_atomic_iff (w : Width) (env : Environment) (s : ConnectionStore) (r : PnpRequest) :
    Atomic w s r (dispatchPnp w env s r) ↔
      (r.minorFunction = irpMnQueryInterface → asksForReportSink w r = true →
        ∃ base, getModuleBaseAddress env.moduleQuery r.interfaceSpecificData = .ok base ∧
          (env.creates base = true → HasRoom w r)) := by
  by_cases hminor : r.minorFunction = irpMnQueryInterface
  · cases hasks : asksForReportSink w r with
    | false =>
        unfold dispatchPnp
        rw [if_pos hminor, hasks]
        exact iff_of_true (atomic_rejected _ (.refl s)) fun _ hf => Bool.noConfusion hf
    | true =>
        cases hbase : getModuleBaseAddress env.moduleQuery r.interfaceSpecificData with
        | error e =>
            -- without a base address the IRP is completed twice
            unfold dispatchPnp
            rw [if_pos hminor, if_pos hasks, hbase]
            refine iff_of_false ?_ ?_
            · exact fun h => Nat.zero_ne_one h.completed
            · intro h
              obtain ⟨base, heq, -⟩ := h hminor rfl
              cases heq
        | ok base =>
            cases hcreates : env.creates base with
            | false =>
                obtain ⟨status, herror, -, hsame⟩ := createAndRegister_error (s := s) hcreates
                unfold dispatchPnp
                rw [if_pos hminor, if_pos hasks, hbase]
                simp only
                split
                · rename_i status' s' heq
                  rw [heq] at hsame
                  refine iff_of_true (atomic_rejected _ hsame) fun _ _ => ⟨base, rfl, ?_⟩
                  intro hf
                  rw [hcreates] at hf
                  cases hf
                · rename_i c s' heq
                  rw [heq] at herror
                  cases herror
            | true =>
                rw [atomic_created_iff hminor hasks hbase hcreates]
                constructor
                · exact fun h _ _ => ⟨base, rfl, fun _ => h⟩
                · intro h
                  obtain ⟨base', heq, hroom⟩ := h hminor rfl
                  cases heq
                  exact hroom hcreates
  · unfold dispatchPnp
    rw [if_neg hminor]
    exact iff_of_true (atomic_rejected _ (.refl s)) fun h => absurd h hminor

/-- A request of a driver at `0x1000` for the size of the first version. -/
def sampleRequest (version : BitVec 16) : PnpRequest where
  minorFunction         := irpMnQueryInterface
  interfaceType         := guidReportSink
  size                  := 64#16
  version               := version
  interface             := 1
  interfaceSpecificData := 0x1010

/-- No module is found, or one at `0x1000`; everything else succeeds. -/
def sampleEnvironment (modules : List (Nat × Nat)) : Environment where
  moduleQuery            := ⟨statusSuccess, true, statusSuccess, modules⟩
  connectionAllocation   := true
  filamentRegistry       := statusSuccess
  driverUnloadLock       := statusSuccess
  testAdapter _          := statusSuccess
  registrationAllocation := true

/-- No connection. -/
def emptyStore : ConnectionStore := ⟨fun _ => none, fun _ => none, 0, fun _ _ => rfl⟩

/-- Three requests that are not handled atomically: the driver is not found, the version is unknown, and the
    structure is too small for the version. -/
theorem dispatchPnp_not_atomic :
    ¬ Atomic .w64 emptyStore (sampleRequest 0x1000#16)
        (dispatchPnp .w64 (sampleEnvironment []) emptyStore (sampleRequest 0x1000#16)) ∧
      ¬ Atomic .w64 emptyStore (sampleRequest 0x4000#16)
        (dispatchPnp .w64 (sampleEnvironment [(0x1000, 0x1000)]) emptyStore (sampleRequest 0x4000#16)) ∧
      ¬ Atomic .w64 emptyStore (sampleRequest 0x3000#16)
        (dispatchPnp .w64 (sampleEnvironment [(0x1000, 0x1000)]) emptyStore (sampleRequest 0x3000#16)) := by
  refine ⟨?_, ?_, ?_⟩
  · intro h
    exact absurd h.completed (by decide)
  · intro h
    have hsame := h.failure statusInvalidDeviceRequest (by decide) (by decide)
    exact absurd (congrFun hsame.1 0x1000) (by decide)
  · intro h
    exact absurd (h.written (querySinkInterface3 .w64 0) rfl) (by decide)

end Cfix.QueryInterface
