import Cfix.Jpht.Removal
import Cfix.Kernel.EventDelivery
import Cfix.Kernel.TestAdapter

/-!
# `Kernel.GetModules` — the list of the registered drivers (`cfixkr/main.c`, `cfixkr/drvconnreg.c`)

`CfixkrpGetDriverConnections` enumerates the registry and stores the load addresses in the buffer of the request, as
many as fit; `CfixkrsGetModulesIoctl` computes the capacity of the buffer before and the size of the response after it.
-/

namespace Cfix.GetModules

open Cfix.Jpht Memory
open Cfix.Events (Width ntSuccess statusInvalidParameter cfixklEInvalidReflectorResponse)
open Cfix.Unload (NTSTATUS statusSuccess)
open Cfix.TestModule (statusBufferOverflow)

/-! ## The registry -/

/-- `CFIXKRP_DRVCONN_REGISTRATION`, of which the entry is a part. -/
structure Registration (w : Width) where
  loadAddress : BitVec w.bits
  connection  : Nat
  deriving DecidableEq, Repr

variable {w : Width}

/-- `CfixkrsHashRegistration`, `CfixkrsEqualsRegistration` and the key. -/
def connectionRoutines (w : Width) : Routines (Registration w) (BitVec w.bits) where
  hash key                 := key.setWidth 32
  equals keyLhs keyRhs := keyLhs == keyRhs
  key registration         := registration.loadAddress

theorem connectionRoutines_lawful (w : Width) : (connectionRoutines w).Lawful := by
  refine ⟨?_, ?_, ?_, ?_⟩
  · simp [connectionRoutines]
  · intro a b h
    simp only [connectionRoutines, beq_iff_eq] at h ⊢
    exact h.symm
  · intro a b c hab hbc
    simp only [connectionRoutines, beq_iff_eq] at hab hbc ⊢
    exact hab.trans hbc
  · intro a b h
    simp only [connectionRoutines, beq_iff_eq] at h ⊢
    rw [h]

/-- `CFIXKRP_GET_CONNECTIONS_CONTEXT`, with the memory that the array is in. -/
structure GetConnectionsContext where
  capacity            : ULONG
  count               : ULONG
  totalAvailable      : ULONG
  driverLoadAddresses : Nat
  overflow            : Bool
  memory              : Mem

/-- `CfixkrsEnlistConnectionHashtableCallback`. -/
def enlistConnection : Callback (Registration w) GetConnectionsContext := fun registration _ c =>
  let c := { c with totalAvailable := c.totalAvailable + 1#32 }
  (.keep,
    if c.count < c.capacity then
      { c with
        memory := store 8 c.memory (c.driverLoadAddresses + 8 * c.count.toNat) registration.loadAddress.toNat
        count  := c.count + 1#32 }
    else { c with overflow := true })

/-- `CfixkrpGetDriverConnections`: the status, the elements written and available, and the memory. -/
def getDriverConnections (fuel : Nat) (t : Hashtable (Registration w)) (loadAddressesCapacity : ULONG)
    (driverLoadAddresses : Nat) (m : Mem) : Except Fault (NTSTATUS × ULONG × ULONG × Mem) := do
  let (_, c) ← enumerateEntries Prod.fst (enlistConnection.run (connectionRoutines w) fuel) fuel
    (t, ⟨loadAddressesCapacity, 0#32, 0#32, driverLoadAddresses, false, m⟩)
  .ok (if c.overflow then statusBufferOverflow else statusSuccess, c.count, c.totalAvailable, c.memory)

/-! ## The request -/

/-- `RTL_SIZEOF_THROUGH_FIELD( CFIXKR_IOCTL_GET_MODULES, DriverLoadAddress[ Index ] )`, in a `ULONG`. -/
def sizeofThroughDriverLoadAddress (index : ULONG) : ULONG := 8#32 + 8#32 * index + 8#32

/-- What a request leaves: its status, the buffer and `BytesWritten`. -/
structure IoctlResult where
  status       : NTSTATUS
  memory       : Mem
  bytesWritten : ULONG

/-- `CfixkrsGetModulesIoctl`. `Count` is at offset 0 of the buffer and `DriverLoadAddress` at offset 8. -/
def getModulesIoctl (fuel : Nat) (t : Hashtable (Registration w)) (buffer : Nat)
    (inputBufferLength outputBufferLength : ULONG) (m : Mem) : Except Fault IoctlResult :=
  if buffer = 0 ∨ inputBufferLength ≠ 0#32 ∨ outputBufferLength < 16#32 then
    .ok ⟨statusInvalidParameter, m, 0#32⟩
  else do
    let capacity := (outputBufferLength - 8#32) / 8#32
    let (status, elementsWritten, elementsAvailable, m) ← getDriverConnections fuel t capacity (buffer + 8) m
    if status = statusBufferOverflow then
      .ok ⟨status, store 4 m buffer elementsAvailable.toNat, sizeofThroughDriverLoadAddress (elementsWritten - 1#32)⟩
    else if ntSuccess status then
      .ok ⟨status, store 4 m buffer elementsWritten.toNat,
        if elementsWritten = 0#32 then 4#32 else sizeofThroughDriverLoadAddress (elementsWritten - 1#32)⟩
    else .ok ⟨status, m, 0#32⟩

/-! ## Enumeration -/

/-- The context after the callback was called for these registrations. -/
structure Enlisted (capacity : ULONG) (array : Nat) (m : Mem) (es : List (Registration w))
    (c : GetConnectionsContext) : Prop where
  capacity_eq    : c.capacity = capacity
  array_eq       : c.driverLoadAddresses = array
  count          : c.count.toNat = min capacity.toNat es.length
  totalAvailable : c.totalAvailable = BitVec.ofNat 32 es.length
  overflow       : c.overflow = decide (capacity.toNat < es.length)
  written        : loadArray 8 c.memory array (min capacity.toNat es.length) =
    (es.take capacity.toNat).map fun e => e.loadAddress.toNat
  outside        : ∀ x, x < array ∨ array + 8 * min capacity.toNat es.length ≤ x → c.memory x = m x

theorem bits_le (w : Width) : 2 ^ w.bits ≤ 256 ^ 8 := by
  cases w <;> decide

/-- **One more registration.** -/
theorem Enlisted.snoc {capacity : ULONG} {array : Nat} {m : Mem} {es : List (Registration w)}
    {c : GetConnectionsContext} (h : Enlisted capacity array m es c) (e : Registration w)
    (t : Hashtable (Registration w)) : Enlisted capacity array m (es ++ [e]) (enlistConnection e t c).2 := by
  have hcapacity := h.capacity_eq
  have hcount := h.count
  have hlt := capacity.isLt
  have htotal : c.totalAvailable + 1#32 = BitVec.ofNat 32 (es ++ [e]).length := by
    rw [h.totalAvailable, List.length_append, BitVec.ofNat_add]
    rfl
  by_cases hroom : es.length < capacity.toNat
  · have hmin : min capacity.toNat es.length = es.length := by omega
    have hmin' : min capacity.toNat (es ++ [e]).length = es.length + 1 := by
      rw [List.length_append, List.length_singleton]
      omega
    rw [hmin] at hcount
    have hless : c.count < c.capacity := by
      rw [BitVec.lt_def, hcapacity, hcount]
      exact hroom
    have hstep : (enlistConnection e t c).2 =
        { c with
          totalAvailable := c.totalAvailable + 1#32
          memory := store 8 c.memory (c.driverLoadAddresses + 8 * c.count.toNat) e.loadAddress.toNat
          count  := c.count + 1#32 } := if_pos hless
    have hvalue : e.loadAddress.toNat % 256 ^ 8 = e.loadAddress.toNat :=
      Nat.mod_eq_of_lt (lt_of_lt_of_le e.loadAddress.isLt (bits_le w))
    have hwritten := h.written
    rw [hmin, List.take_of_length_le (by omega)] at hwritten
    rw [hstep, h.array_eq, hcount]
    refine ⟨hcapacity, rfl, ?_, htotal, ?_, ?_, ?_⟩
    · show (c.count + 1#32).toNat = _
      rw [hmin', BitVec.toNat_add, hcount]
      show (es.length + 1) % 2 ^ 32 = es.length + 1
      exact Nat.mod_eq_of_lt (by omega)
    · show c.overflow = _
      rw [h.overflow, decide_eq_false (by omega : ¬ capacity.toNat < es.length), decide_eq_false]
      rw [List.length_append, List.length_singleton]
      omega
    · rw [hmin', loadArray_append, loadArray_store_disjoint 8 8 _ _ (Or.inl (Nat.le_refl _)), hwritten,
        List.take_of_length_le (by rw [List.length_append, List.length_singleton]; omega), List.map_append]
      simp only [loadArray, load_store, hvalue, List.map_cons, List.map_nil]
    · intro x hx
      rw [hmin'] at hx
      show store 8 c.memory (array + 8 * es.length) e.loadAddress.toNat x = m x
      rw [store_outside 8 _ _ (by omega)]
      apply h.outside
      rw [hmin]
      omega
  · have hmin : min capacity.toNat es.length = capacity.toNat := by omega
    have hmin' : min capacity.toNat (es ++ [e]).length = capacity.toNat := by
      rw [List.length_append, List.length_singleton]
      omega
    rw [hmin] at hcount
    have hfull : ¬ c.count < c.capacity := by
      rw [BitVec.lt_def, hcapacity, hcount]
      exact Nat.lt_irrefl _
    have hstep : (enlistConnection e t c).2 =
        { c with totalAvailable := c.totalAvailable + 1#32, overflow := true } := if_neg hfull
    have hwritten := h.written
    have houtside := h.outside
    rw [hmin] at hwritten houtside
    rw [hstep]
    refine ⟨hcapacity, h.array_eq, ?_, htotal, ?_, ?_, ?_⟩
    · rw [hmin']
      exact hcount
    · rw [decide_eq_true]
      rw [List.length_append, List.length_singleton]
      omega
    · rw [hmin', List.take_append_of_le_length (by omega)]
      exact hwritten
    · rw [hmin']
      exact houtside

/-- All registrations of a table. -/
theorem enlisted_foldl (capacity : ULONG) (array : Nat) (m : Mem) (t : Hashtable (Registration w))
    (es : List (Registration w)) :
    Enlisted capacity array m es
      (es.foldl (fun c e => (enlistConnection e t c).2) ⟨capacity, 0#32, 0#32, array, false, m⟩) := by
  induction es using List.reverseRecOn with
  | nil =>
      refine ⟨rfl, rfl, ?_, rfl, ?_, ?_, fun _ _ => rfl⟩
      · simp
      · simp
      · simp [loadArray]
  | append_singleton es e ih =>
      rw [List.foldl_append]
      exact ih.snoc e t

section Registry

variable {t : Hashtable (Registration w)} {lists : Nat → List (Registration w)} {fuel : Nat}

/-- The registrations in the order of the enumeration. -/
def registrations (t : Hashtable (Registration w)) (lists : Nat → List (Registration w)) : List (Registration w) :=
  (entriesBefore lists t.bucketCount.toNat).reverse

theorem mem_registrations {e : Registration w} : e ∈ registrations t lists ↔ t.Stores lists e := by
  rw [registrations, List.mem_reverse]
  exact mem_entriesBefore

theorem length_registrations : (registrations t lists).length = total lists t.bucketCount.toNat := by
  rw [registrations, List.length_reverse, length_entriesBefore]

/-- No load address is registered twice. -/
theorem nodup_loadAddresses (h : Represents (connectionRoutines w) t lists) :
    ((registrations t lists).map fun e => e.loadAddress.toNat).Nodup := by
  have hpairwise := h.pairwise_entriesBefore (connectionRoutines_lawful w) le_rfl
  rw [registrations, List.map_reverse, List.nodup_reverse, List.Nodup, List.pairwise_map]
  apply hpairwise.imp
  intro a b hdistinct heq
  have hkeys : a.loadAddress = b.loadAddress := BitVec.eq_of_toNat_eq heq
  simp [Routines.Distinct, connectionRoutines, hkeys] at hdistinct

/-- **`CfixkrpGetDriverConnections`** -/
theorem getDriverConnections_spec (h : Represents (connectionRoutines w) t lists)
    (hfuel : total lists t.bucketCount.toNat < fuel) (capacity : ULONG) (array : Nat) (m : Mem) :
    ∃ c, getDriverConnections fuel t capacity array m =
        .ok (if c.overflow then statusBufferOverflow else statusSuccess, c.count, c.totalAvailable, c.memory) ∧
      Enlisted capacity array m (registrations t lists) c := by
  refine ⟨_, ?_, enlisted_foldl capacity array m t (registrations t lists)⟩
  rw [getDriverConnections, enumerateEntries_keeps (connectionRoutines_lawful w) (fun _ _ _ => rfl) h _ hfuel]
  rfl

/-! ## The response -/

/-- The number of addresses that fit in an output buffer. -/
def capacityOf (outputBufferLength : Nat) : Nat := (outputBufferLength - 8) / 8

/-- The addresses in a response. -/
def addresses (m : Mem) (buffer n : Nat) : List Nat := loadArray 8 m (buffer + 8) n

/-- The response of `n` registered connections to a request with this buffer, which held `m` before. -/
structure Describes (t : Hashtable (Registration w)) (lists : Nat → List (Registration w)) (buffer outputLength n : Nat)
    (m : Mem) (r : IoctlResult) : Prop where
  nodup      : (addresses r.memory buffer (min (capacityOf outputLength) n)).Nodup
  registered : ∀ a ∈ addresses r.memory buffer (min (capacityOf outputLength) n),
    ∃ e, t.Stores lists e ∧ e.loadAddress.toNat = a
  overflow   : r.status = statusBufferOverflow ↔ capacityOf outputLength < n
  success    : r.status = statusSuccess ↔ n ≤ capacityOf outputLength
  bytes      : r.bytesWritten.toNat =
    if min (capacityOf outputLength) n = 0 then 4 else 8 + 8 * min (capacityOf outputLength) n
  bytes_le   : r.bytesWritten.toNat ≤ outputLength
  outside    : ∀ x, x < buffer ∨ buffer + r.bytesWritten.toNat ≤ x → r.memory x = m x

/-- The response has the addresses of all connections. -/
def Complete (t : Hashtable (Registration w)) (lists : Nat → List (Registration w)) (buffer n : Nat)
    (r : IoctlResult) : Prop :=
  r.status = statusSuccess ∧ load 4 r.memory buffer = n ∧
    ∀ e, t.Stores lists e → e.loadAddress.toNat ∈ addresses r.memory buffer n

theorem sizeofThroughDriverLoadAddress_pred {k : ULONG} (h : 8 + 8 * k.toNat < 2 ^ 32) :
    (sizeofThroughDriverLoadAddress (k - 1#32)).toNat = 8 + 8 * k.toNat := by
  have hsum : sizeofThroughDriverLoadAddress (k - 1#32) = 8#32 + 8#32 * k := by
    unfold sizeofThroughDriverLoadAddress
    rw [BitVec.mul_sub]
    bv_omega
  rw [hsum, BitVec.toNat_add, BitVec.toNat_mul]
  show (8 + 8 * k.toNat % 2 ^ 32) % 2 ^ 32 = 8 + 8 * k.toNat
  rw [Nat.mod_eq_of_lt (by omega : 8 * k.toNat < 2 ^ 32), Nat.mod_eq_of_lt h]

theorem toNat_capacity {outputLength : ULONG} (h : 16 ≤ outputLength.toNat) :
    ((outputLength - 8#32) / 8#32).toNat = capacityOf outputLength.toNat := by
  have hsub : (outputLength - 8#32).toNat = outputLength.toNat - 8 := BitVec.toNat_sub_of_le (by
    rw [BitVec.le_def]
    show 8 ≤ outputLength.toNat
    omega)
  rw [BitVec.toNat_udiv, hsub]
  rfl

/-- What the request leaves in terms of the context of the enumeration. -/
theorem getModulesIoctl_eq (h : Represents (connectionRoutines w) t lists)
    (hfuel : total lists t.bucketCount.toNat < fuel) {buffer : Nat} (hbuffer : buffer ≠ 0) {outputLength : ULONG}
    (hlength : 16 ≤ outputLength.toNat) (m : Mem) :
    ∃ c, Enlisted ((outputLength - 8#32) / 8#32) (buffer + 8) m (registrations t lists) c ∧
      getModulesIoctl fuel t buffer 0#32 outputLength m = .ok
        (if c.overflow then
          ⟨statusBufferOverflow, store 4 c.memory buffer c.totalAvailable.toNat,
            sizeofThroughDriverLoadAddress (c.count - 1#32)⟩
        else
          ⟨statusSuccess, store 4 c.memory buffer c.count.toNat,
            if c.count = 0#32 then 4#32 else sizeofThroughDriverLoadAddress (c.count - 1#32)⟩) := by
  obtain ⟨c, hrun, henlisted⟩ := getDriverConnections_spec h hfuel ((outputLength - 8#32) / 8#32) (buffer + 8) m
  refine ⟨c, henlisted, ?_⟩
  have haccepted : ¬ (buffer = 0 ∨ (0#32 : ULONG) ≠ 0#32 ∨ outputLength < 16#32) := by
    rintro (hzero | hinput | hshort)
    · exact hbuffer hzero
    · exact hinput rfl
    · rw [BitVec.lt_def] at hshort
      have hsixteen : (16#32 : ULONG).toNat = 16 := rfl
      omega
  rw [getModulesIoctl, if_neg haccepted]
  simp only [hrun, ok_bind]
  cases c.overflow with
  | false => rfl
  | true  => rfl

/-- `Count` is stored in front of the addresses. -/
theorem Enlisted.addresses {t : Hashtable (Registration w)} {lists : Nat → List (Registration w)} {buffer : Nat}
    {outputLength : ULONG} (hlength : 16 ≤ outputLength.toNat) {m : Mem} {c : GetConnectionsContext}
    (h : Enlisted ((outputLength - 8#32) / 8#32) (buffer + 8) m (registrations t lists) c) (v : Nat) :
    GetModules.addresses (store 4 c.memory buffer v) buffer
      (min (capacityOf outputLength.toNat) (total lists t.bucketCount.toNat)) =
        ((registrations t lists).take (capacityOf outputLength.toNat)).map fun e => e.loadAddress.toNat := by
  have hwritten := h.written
  rw [length_registrations, toNat_capacity hlength] at hwritten
  rw [GetModules.addresses, loadArray_store_disjoint 8 4 _ _ (Or.inr (by omega)), hwritten]

/-- A response that has this status and size describes the registry. -/
theorem Describes.of_enlisted (h : Represents (connectionRoutines w) t lists) {buffer : Nat} {outputLength : ULONG}
    (hlength : 16 ≤ outputLength.toNat) {m : Mem} {c : GetConnectionsContext}
    (henlisted : Enlisted ((outputLength - 8#32) / 8#32) (buffer + 8) m (registrations t lists) c) {r : IoctlResult}
    {v : Nat} (hmemory : r.memory = store 4 c.memory buffer v)
    (hstatus : r.status =
      if capacityOf outputLength.toNat < total lists t.bucketCount.toNat then statusBufferOverflow else statusSuccess)
    (hbytes : r.bytesWritten.toNat =
      if min (capacityOf outputLength.toNat) (total lists t.bucketCount.toNat) = 0 then 4
      else 8 + 8 * min (capacityOf outputLength.toNat) (total lists t.bucketCount.toNat)) :
    Describes t lists buffer outputLength.toNat (total lists t.bucketCount.toNat) m r where
  nodup      := by
    rw [hmemory, henlisted.addresses hlength]
    exact (nodup_loadAddresses h).sublist ((List.take_sublist _ _).map _)
  registered := by
    intro a ha
    rw [hmemory, henlisted.addresses hlength] at ha
    obtain ⟨e, he, heq⟩ := List.mem_map.mp ha
    exact ⟨e, mem_registrations.mp (List.mem_of_mem_take he), heq⟩
  overflow   := by
    rw [hstatus]
    split
    · next hover => exact iff_of_true rfl hover
    · next hfits => exact iff_of_false (show statusSuccess ≠ statusBufferOverflow by decide) hfits
  success    := by
    rw [hstatus]
    split
    · next hover => exact iff_of_false (show statusBufferOverflow ≠ statusSuccess by decide) (Nat.not_le_of_lt hover)
    · next hfits => exact iff_of_true rfl (Nat.le_of_not_lt hfits)
  bytes      := hbytes
  bytes_le   := by
    rw [hbytes]
    unfold capacityOf
    split
    · omega
    · omega
  outside    := by
    intro x hx
    have houtside := henlisted.outside
    rw [length_registrations, toNat_capacity hlength] at houtside
    rw [hbytes] at hx
    rw [hmemory]
    split at hx
    · next hzero =>
        rw [store_outside 4 _ _ (by omega)]
        apply houtside
        rw [hzero]
        omega
    · rw [store_outside 4 _ _ (by omega)]
      apply houtside
      omega

/-- **`CfixkrsGetModulesIoctl`** describes the registry; `Count` is the number of connections in a `ULONG`. -/
theorem getModulesIoctl_spec (h : Represents (connectionRoutines w) t lists)
    (hfuel : total lists t.bucketCount.toNat < fuel) {buffer : Nat} (hbuffer : buffer ≠ 0) {outputLength : ULONG}
    (hlength : 16 ≤ outputLength.toNat) (m : Mem) :
    ∃ r, getModulesIoctl fuel t buffer 0#32 outputLength m = .ok r ∧
      Describes t lists buffer outputLength.toNat (total lists t.bucketCount.toNat) m r ∧
      load 4 r.memory buffer = total lists t.bucketCount.toNat % 2 ^ 32 ∧
      (total lists t.bucketCount.toNat ≤ capacityOf outputLength.toNat →
        Complete t lists buffer (total lists t.bucketCount.toNat) r) := by
  obtain ⟨c, henlisted, hrun⟩ := getModulesIoctl_eq h hfuel hbuffer hlength m
  have hcount := henlisted.count
  have hoverflow := henlisted.overflow
  rw [length_registrations, toNat_capacity hlength] at hcount hoverflow
  have hlt := outputLength.isLt
  have hcap : 8 + 8 * capacityOf outputLength.toNat ≤ outputLength.toNat := by
    unfold capacityOf
    omega
  by_cases hover : capacityOf outputLength.toNat < total lists t.bucketCount.toNat
  · rw [decide_eq_true hover] at hoverflow
    rw [hoverflow, if_pos rfl] at hrun
    have hmin : min (capacityOf outputLength.toNat) (total lists t.bucketCount.toNat) =
      capacityOf outputLength.toNat := by omega
    have hpos : capacityOf outputLength.toNat ≠ 0 := by
      unfold capacityOf
      omega
    have hbytes : (sizeofThroughDriverLoadAddress (c.count - 1#32)).toNat = 8 + 8 * capacityOf outputLength.toNat := by
      rw [sizeofThroughDriverLoadAddress_pred (by omega), hcount, hmin]
    refine ⟨_, hrun, .of_enlisted h hlength henlisted rfl (if_pos hover).symm ?_, ?_, ?_⟩
    · rw [hmin, if_neg hpos]
      exact hbytes
    · have htotal : c.totalAvailable.toNat = total lists t.bucketCount.toNat % 2 ^ 32 := by
        rw [henlisted.totalAvailable, length_registrations, BitVec.toNat_ofNat]
      show load 4 (store 4 c.memory buffer c.totalAvailable.toNat) buffer = _
      rw [load_store, htotal]
      exact Nat.mod_mod _ _
    · exact fun hle => absurd hover (Nat.not_lt_of_le hle)
  · rw [decide_eq_false hover] at hoverflow
    rw [hoverflow, if_neg Bool.false_ne_true] at hrun
    have hmin : min (capacityOf outputLength.toNat) (total lists t.bucketCount.toNat) =
      total lists t.bucketCount.toNat := by omega
    rw [hmin] at hcount
    have hbytes : (if c.count = 0#32 then 4#32 else sizeofThroughDriverLoadAddress (c.count - 1#32)).toNat =
        if total lists t.bucketCount.toNat = 0 then 4 else 8 + 8 * total lists t.bucketCount.toNat := by
      by_cases hzero : c.count = 0#32
      · have hnone : total lists t.bucketCount.toNat = 0 := by
          rw [← hcount, hzero]
          rfl
        rw [if_pos hzero, if_pos hnone]
        rfl
      · have hsome : total lists t.bucketCount.toNat ≠ 0 := by
          intro hnone
          apply hzero
          apply BitVec.eq_of_toNat_eq
          rw [hcount, hnone]
          rfl
        rw [if_neg hzero, if_neg hsome, sizeofThroughDriverLoadAddress_pred (by omega), hcount]
    have hcountLoad : load 4 (store 4 c.memory buffer c.count.toNat) buffer = total lists t.bucketCount.toNat := by
      rw [load_store, hcount]
      exact Nat.mod_eq_of_lt (by omega)
    refine ⟨_, hrun, .of_enlisted h hlength henlisted rfl (if_neg hover).symm ?_, ?_, ?_⟩
    · rw [hmin]
      exact hbytes
    · show load 4 (store 4 c.memory buffer c.count.toNat) buffer = _
      rw [hcountLoad, Nat.mod_eq_of_lt (by omega)]
    · intro _
      refine ⟨rfl, hcountLoad, ?_⟩
      intro e he
      have hall := henlisted.addresses hlength c.count.toNat
      rw [hmin, List.take_of_length_le (by rw [length_registrations]; omega)] at hall
      show e.loadAddress.toNat ∈ GetModules.addresses (store 4 c.memory buffer c.count.toNat) buffer _
      rw [hall]
      exact List.mem_map.mpr ⟨e, mem_registrations.mpr he, rfl⟩

/-! ## The client -/

/-- The check of `CfixklsFindBaseAddressDriver`, and the addresses that it goes through. -/
def responseAddresses (r : IoctlResult) (buffer : Nat) : Except HRESULT (List Nat) :=
  let count := load 4 r.memory buffer
  if r.bytesWritten.toNat < 4 ∨ r.bytesWritten.toNat < count * 8 then .error cfixklEInvalidReflectorResponse
  else .ok (addresses r.memory buffer count)

/-- The requests of `CfixklsFindBaseAddressDriver`: the first has room for one address, and `Count` of its response
    gives the size of the second. `malloc` says whether there is memory for it, `hresultFromStatus` is the error of a
    request that failed with this status. -/
def findLoadAddresses (fuel : Nat) (t : Hashtable (Registration w)) (malloc : Bool)
    (hresultFromStatus : NTSTATUS → HRESULT) (buffer : Nat) (m m' : Mem) : Except Fault (Except HRESULT (List Nat)) := do
  let first ← getModulesIoctl fuel t buffer 0#32 16#32 m
  if ntSuccess first.status then .ok (responseAddresses first buffer)
  else if first.status = statusBufferOverflow then
    if !malloc then .ok (.error eOutofmemory)
    else do
      let count := BitVec.ofNat 32 (load 4 first.memory buffer)
      let second ← getModulesIoctl fuel t buffer 0#32 (sizeofThroughDriverLoadAddress (count - 1#32)) m'
      if ntSuccess second.status then .ok (responseAddresses second buffer)
      else .ok (.error (hresultFromStatus second.status))
  else .ok (.error (hresultFromStatus first.status))

/-- A complete response passes the check. -/
theorem Complete.responseAddresses {buffer outputLength : Nat} {m : Mem} {r : IoctlResult}
    (hcomplete : Complete t lists buffer (total lists t.bucketCount.toNat) r)
    (h : Describes t lists buffer outputLength (total lists t.bucketCount.toNat) m r) :
    responseAddresses r buffer = .ok (addresses r.memory buffer (total lists t.bucketCount.toNat)) := by
  have hle := h.success.mp hcomplete.1
  have hmin : min (capacityOf outputLength) (total lists t.bucketCount.toNat) = total lists t.bucketCount.toNat := by
    omega
  have hbytes := h.bytes
  rw [hmin] at hbytes
  have hpasses : ¬ (r.bytesWritten.toNat < 4 ∨ r.bytesWritten.toNat < total lists t.bucketCount.toNat * 8) := by
    split at hbytes <;> omega
  rw [GetModules.responseAddresses, hcomplete.2.1]
  exact if_neg hpasses

/-- **The client finds all drivers**, if the size of its buffer does not overflow. -/
theorem findLoadAddresses_spec (h : Represents (connectionRoutines w) t lists)
    (hfuel : total lists t.bucketCount.toNat < fuel) (hfit : 8 + 8 * total lists t.bucketCount.toNat < 2 ^ 32)
    (hresultFromStatus : NTSTATUS → HRESULT) {buffer : Nat} (hbuffer : buffer ≠ 0) (m m' : Mem) :
    ∃ found, findLoadAddresses fuel t true hresultFromStatus buffer m m' = .ok (.ok found) ∧
      found.Nodup ∧ ∀ a, a ∈ found ↔ ∃ e, t.Stores lists e ∧ e.loadAddress.toNat = a := by
  have hanswer {r : IoctlResult} {outputLength : Nat} {m : Mem}
      (hd : Describes t lists buffer outputLength (total lists t.bucketCount.toNat) m r)
      (hle : total lists t.bucketCount.toNat ≤ capacityOf outputLength)
      (hc : Complete t lists buffer (total lists t.bucketCount.toNat) r) :
      ∃ found, GetModules.responseAddresses r buffer = .ok found ∧ found.Nodup ∧
        ∀ a, a ∈ found ↔ ∃ e, t.Stores lists e ∧ e.loadAddress.toNat = a := by
    have hnodup := hd.nodup
    have hregistered := hd.registered
    rw [Nat.min_eq_right hle] at hnodup hregistered
    refine ⟨_, hc.responseAddresses hd, hnodup, fun a => ⟨hregistered a, ?_⟩⟩
    rintro ⟨e, he, rfl⟩
    exact hc.2.2 e he
  obtain ⟨first, hfirst, hdescribes, hcount, hcomplete⟩ := getModulesIoctl_spec h hfuel hbuffer
    (show 16 ≤ (16#32 : ULONG).toNat by decide) m
  rw [Nat.mod_eq_of_lt (by omega)] at hcount
  rcases Nat.lt_or_ge (capacityOf 16) (total lists t.bucketCount.toNat) with hover | hle
  · have hstatus : first.status = statusBufferOverflow := hdescribes.overflow.mpr hover
    -- the size of the second request is computed from `Count`
    have hsize : (sizeofThroughDriverLoadAddress (BitVec.ofNat 32 (load 4 first.memory buffer) - 1#32)).toNat =
        8 + 8 * total lists t.bucketCount.toNat := by
      have hnat : (BitVec.ofNat 32 (load 4 first.memory buffer)).toNat = total lists t.bucketCount.toNat := by
        rw [hcount, BitVec.toNat_ofNat, Nat.mod_eq_of_lt (by omega)]
      rw [sizeofThroughDriverLoadAddress_pred (by omega), hnat]
    have hone : capacityOf 16 = 1 := rfl
    obtain ⟨second, hsecond, hdescribes', -, hcomplete'⟩ := getModulesIoctl_spec h hfuel hbuffer
      (show 16 ≤ (sizeofThroughDriverLoadAddress (BitVec.ofNat 32 (load 4 first.memory buffer) - 1#32)).toNat by omega) m'
    have hroom : total lists t.bucketCount.toNat ≤
        capacityOf (sizeofThroughDriverLoadAddress (BitVec.ofNat 32 (load 4 first.memory buffer) - 1#32)).toNat := by
      rw [hsize]
      unfold capacityOf
      omega
    obtain ⟨found, hfound, hall⟩ := hanswer hdescribes' hroom (hcomplete' hroom)
    refine ⟨found, ?_, hall⟩
    have hfailed : ntSuccess statusBufferOverflow = false := rfl
    have hsucceeded : ntSuccess statusSuccess = true := rfl
    have hdone : second.status = statusSuccess := (hcomplete' hroom).1
    simp only [findLoadAddresses, hfirst, ok_bind, hstatus, hfailed, Bool.false_eq_true, if_false, if_true,
      Bool.not_true, hsecond, hdone, hsucceeded, hfound]
  · obtain ⟨found, hfound, hall⟩ := hanswer hdescribes hle (hcomplete hle)
    refine ⟨found, ?_, hall⟩
    have hdone : first.status = statusSuccess := (hcomplete hle).1
    have hsucceeded : ntSuccess statusSuccess = true := rfl
    simp only [findLoadAddresses, hfirst, ok_bind, hdone, hsucceeded, if_true, hfound]

/-! ## Exactness -/

/-- A client that has got the response `r` and retries with room for `Count` addresses gets all of them. -/
def RetrySucceeds (fuel : Nat) (t : Hashtable (Registration w)) (lists : Nat → List (Registration w)) (buffer : Nat)
    (r : IoctlResult) : Prop :=
  ∀ (retryLength : ULONG) (m' : Mem), 16 ≤ retryLength.toNat → 8 + 8 * load 4 r.memory buffer ≤ retryLength.toNat →
    ∃ r', getModulesIoctl fuel t buffer 0#32 retryLength m' = .ok r' ∧
      Complete t lists buffer (total lists t.bucketCount.toNat) r'

/-- The response describes the registry, `Count` is the number of connections, and a retry succeeds. -/
def ReportsExactly (fuel : Nat) (t : Hashtable (Registration w)) (lists : Nat → List (Registration w)) (buffer : Nat)
    (outputLength : ULONG) (m : Mem) : Prop :=
  ∃ r, getModulesIoctl fuel t buffer 0#32 outputLength m = .ok r ∧
    Describes t lists buffer outputLength.toNat (total lists t.bucketCount.toNat) m r ∧
    load 4 r.memory buffer = total lists t.bucketCount.toNat ∧ RetrySucceeds fuel t lists buffer r

/-- `CfixkrsDriverConnectionRegistry`, with its registrations. Each of them is a block of the nonpaged pool, so there are
    as many as `EntryCount` of the table says. -/
structure DriverConnectionRegistry (w : Width) where
  connections : Hashtable (Registration w)
  lists       : Nat → List (Registration w)
  represents  : Represents (connectionRoutines w) connections lists
  counts      : connections.entryCount.toNat = total lists connections.bucketCount.toNat

/-- The number of connections. -/
def DriverConnectionRegistry.count (registry : DriverConnectionRegistry w) : Nat :=
  total registry.lists registry.connections.bucketCount.toNat

theorem DriverConnectionRegistry.count_lt (registry : DriverConnectionRegistry w) : registry.count < 2 ^ 32 := by
  rw [count, ← registry.counts]
  exact registry.connections.entryCount.isLt

/-- **`GET_TEST_MODULES` is exact**: for every registry and every buffer that is accepted, the response has the addresses
    that fit, `Count` is the number of connections, and a client that retries with room for them gets all. -/
theorem getModules_exact (registry : DriverConnectionRegistry w) (hfuel : registry.count < fuel) {buffer : Nat}
    (hbuffer : buffer ≠ 0) {outputLength : ULONG} (hlength : 16 ≤ outputLength.toNat) (m : Mem) :
    ReportsExactly fuel registry.connections registry.lists buffer outputLength m := by
  have hfew : total registry.lists registry.connections.bucketCount.toNat < 2 ^ 32 := registry.count_lt
  obtain ⟨r, hrun, hdescribes, hcount, -⟩ := getModulesIoctl_spec registry.represents hfuel hbuffer hlength m
  rw [Nat.mod_eq_of_lt hfew] at hcount
  refine ⟨r, hrun, hdescribes, hcount, fun retryLength m' hretry hroom => ?_⟩
  rw [hcount] at hroom
  obtain ⟨r', hrun', -, -, hcomplete⟩ := getModulesIoctl_spec registry.represents hfuel hbuffer hretry m'
  refine ⟨r', hrun', hcomplete ?_⟩
  unfold capacityOf
  omega

/-- Two drivers, in one bucket. -/
def twoDrivers : Hashtable (Registration .w32) where
  entryCount  := 2#32
  bucketCount := 1#32
  buckets     := 0
  capacity    := 1
  nextBlock   := 1
  links       :=
    { flink := fun x =>
        if x = .bucket 0 0 then .entry ⟨0x81000000#32, 1⟩
        else if x = .entry ⟨0x81000000#32, 1⟩ then .entry ⟨0x82000000#32, 2⟩ else .bucket 0 0
      blink := fun x =>
        if x = .bucket 0 0 then .entry ⟨0x82000000#32, 2⟩
        else if x = .entry ⟨0x82000000#32, 2⟩ then .entry ⟨0x81000000#32, 1⟩ else .bucket 0 0 }

theorem twoDrivers_represents : Represents (connectionRoutines .w32) twoDrivers
    (fun _ => [⟨0x81000000#32, 1⟩, ⟨0x82000000#32, 2⟩]) := by
  refine ⟨by decide, by decide, by decide, ?_, ?_, ?_, by decide⟩
  · intro i hi
    obtain rfl : i = 0 := by
      have hlt : i < 1 := hi
      omega
    refine ⟨?_, by decide⟩
    have hne : (⟨0x81000000#32, 1⟩ : Registration .w32) ≠ ⟨0x82000000#32, 2⟩ := by decide
    simp [LinkedList.Segment, twoDrivers, hne, hne.symm]
  · intro i hi e _
    have hlt : i < 1 := hi
    have hmod : twoDrivers.indexOf (connectionRoutines .w32) ((connectionRoutines .w32).key e) < 1 :=
      Nat.mod_lt _ (by decide)
    omega
  · intro i hi
    exact List.pairwise_cons.mpr ⟨by simp [Routines.Distinct, connectionRoutines], List.pairwise_singleton _ _⟩

/-- A buffer for one address. -/
theorem getModules_exact_twoDrivers :
    ∃ r, getModulesIoctl 3 twoDrivers 0x1000 0#32 16#32 (fun _ => 0) = .ok r ∧ r.status = statusBufferOverflow ∧
      r.bytesWritten.toNat = 16 ∧ load 4 r.memory 0x1000 = 2 := by
  obtain ⟨r, hrun, hdescribes, hcount, -⟩ := getModules_exact ⟨twoDrivers, _, twoDrivers_represents, rfl⟩
    (by decide : 2 < 3) (by decide : 0x1000 ≠ 0) (by decide : 16 ≤ (16#32 : ULONG).toNat) (fun _ => 0)
  exact ⟨r, hrun, hdescribes.overflow.mpr (by decide), hdescribes.bytes, hcount⟩

/-! ### What the counter is needed for -/

/-- A new driver is registered. -/
theorem Represents.register (h : Represents (connectionRoutines w) t lists) {registration : Registration w}
    (hfresh : ∀ e, t.Stores lists e → e.loadAddress ≠ registration.loadAddress) :
    ∃ (t' : Hashtable (Registration w)) (lists' : Nat → List (Registration w)),
      Represents (connectionRoutines w) t' lists' ∧
      total lists' t'.bucketCount.toNat = total lists t.bucketCount.toNat + 1 ∧
      ∀ e, t'.Stores lists' e → e = registration ∨ t.Stores lists e := by
  have law := connectionRoutines_lawful w
  have hi := h.indexOf_lt registration.loadAddress
  obtain ⟨links, count, -, hput, -⟩ := putEntryHashtable_spec law h registration (Nat.lt_succ_self _)
  have hnone : lookup (connectionRoutines w) t lists registration.loadAddress = none := by
    apply List.find?_eq_none.mpr
    intro e he
    have hne := hfresh e ⟨_, hi, he⟩
    simpa [Routines.hasKey, connectionRoutines] using hne
  have htotal := total_listsPut law h registration
  rw [show (connectionRoutines w).key registration = registration.loadAddress from rfl, hnone] at htotal
  refine ⟨_, _, hput, ?_, ?_⟩
  · have hone : total (listsPut (connectionRoutines w) t lists registration) t.bucketCount.toNat =
        total lists t.bucketCount.toNat + 1 := by simpa using htotal
    exact hone
  · rintro e ⟨j, hj, he⟩
    by_cases hji : j = t.indexOf (connectionRoutines w) registration.loadAddress
    · subst hji
      rw [listsPut, show (connectionRoutines w).key registration = registration.loadAddress from rfl,
        Function.update_self] at he
      rcases List.mem_cons.mp he with rfl | he
      · exact Or.inl rfl
      · exact Or.inr ⟨_, hj, without_subset e he⟩
    · rw [listsPut, show (connectionRoutines w).key registration = registration.loadAddress from rfl,
        Function.update_of_ne hji] at he
      exact Or.inr ⟨j, hj, he⟩

/-- A table for addresses of 64 bits can represent any number of connections up to 2^64, pool or not. -/
theorem exists_table {n : Nat} (hn : n ≤ 2 ^ 64) :
    ∃ (t : Hashtable (Registration .w64)) (lists : Nat → List (Registration .w64)),
      Represents (connectionRoutines .w64) t lists ∧ total lists t.bucketCount.toNat = n ∧
      ∀ e, t.Stores lists e → e.loadAddress.toNat < n := by
  induction n with
  | zero =>
      obtain ⟨t, -, hrefines⟩ := initializeHashtable_spec (connectionRoutines .w64) (by decide : 31#32 ≠ 0#32)
        (by decide : (31#32).toNat * sizeofBucket .w64 < 2 ^ Width.w64.bits) ⟨id, id⟩ 0
      refine ⟨t, fun _ => [], hrefines.represents, by simp [total], ?_⟩
      rintro e ⟨i, -, he⟩
      cases he
  | succ n ih =>
      obtain ⟨t, lists, hrep, htotal, hbelow⟩ := ih (by omega)
      have hvalue : (BitVec.ofNat Width.w64.bits n).toNat = n := by
        rw [BitVec.toNat_ofNat]
        exact Nat.mod_eq_of_lt (by show n < 2 ^ 64; omega)
      obtain ⟨t', lists', hrep', htotal', hstores⟩ := Represents.register hrep
        (show ∀ e, t.Stores lists e →
          e.loadAddress ≠ (⟨BitVec.ofNat Width.w64.bits n, n⟩ : Registration .w64).loadAddress by
          intro e he heq
          have hlt := hbelow e he
          rw [heq, hvalue] at hlt
          exact Nat.lt_irrefl n hlt)
      refine ⟨t', lists', hrep', by rw [htotal', htotal], ?_⟩
      intro e he
      rcases hstores e he with rfl | he
      · rw [hvalue]
        exact Nat.lt_succ_self n
      · exact Nat.lt_succ_of_lt (hbelow e he)

/-- Of a table that counts wrong, the response is: `Count` of 2^32 connections is 0. -/
theorem not_reportsExactly_manyDrivers :
    ¬ ∀ (w : Width) (t : Hashtable (Registration w)) (lists : Nat → List (Registration w)) (fuel buffer : Nat)
        (outputLength : ULONG) (m : Mem), Represents (connectionRoutines w) t lists →
      total lists t.bucketCount.toNat < fuel → buffer ≠ 0 → 16 ≤ outputLength.toNat →
      ReportsExactly fuel t lists buffer outputLength m := by
  intro hall
  obtain ⟨t, lists, hrep, htotal, -⟩ := exists_table (show 2 ^ 32 ≤ 2 ^ 64 by decide)
  have hfuel : total lists t.bucketCount.toNat < 2 ^ 32 + 1 := by omega
  obtain ⟨r, -, -, hcount, -⟩ := hall .w64 t lists (2 ^ 32 + 1) 0x1000 16#32 (fun _ => 0) hrep hfuel (by decide)
    (by decide)
  have hlt := load_lt 4 r.memory 0x1000
  rw [hcount, htotal] at hlt
  exact absurd hlt (by decide)

end Registry

end Cfix.GetModules
