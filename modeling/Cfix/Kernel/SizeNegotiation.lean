import Cfix.Kernel.ModuleRoundTrip
import Cfix.Lib.Tiling

/-!
# `Kernel.SizeNegotiation` — how the client learns the size of a description (`cfixkr/main.c`, `cfixkl/ioctl.c`)

`CfixkrsQueryModuleIoctl` reports the size that is required if the output buffer is smaller; the client asks with a
buffer that is too small and then once more with the size it has got. What a description consists of is read back from
the buffer here.
-/

namespace Cfix.TestModule

open Memory Tiling
open Cfix.Events (Wstr ntSuccess statusInvalidParameter)
open Cfix.Unload (NTSTATUS statusSuccess)

/-! ## The request -/

/-- What a request leaves: its status, the buffer and `BytesWritten`. -/
structure IoctlResult where
  status       : NTSTATUS
  memory       : Mem
  bytesWritten : Nat

def statusNotFound : NTSTATUS := 0xC0000225#32

/-- `sizeof( CFIXKR_IOCTL_QUERY_TEST_MODULE_REQUEST )`. -/
def sizeofQueryRequest : BitVec 32 := 8#32

/-- `sizeof( CFIXKR_IOCTL_QUERY_TEST_MODULE_RESPONSE )`. -/
def sizeofQueryResponse : BitVec 32 := 8#32

/-- `CfixkrsQueryModuleIoctl`. The request has the base address of the driver; `connections` are the adapters of the
    registered drivers. -/
def queryModuleIoctl (connections : Nat → Option TestAdapter) (buffer : Nat)
    (inputBufferLength outputBufferLength : BitVec 32) (m : Mem) : IoctlResult :=
  if buffer = 0 ∨ inputBufferLength ≠ sizeofQueryRequest ∨ outputBufferLength < 4#32 then
    ⟨statusInvalidParameter, m, 0⟩
  else
    match connections (load 8 m buffer) with
    | none   => ⟨statusNotFound, m, 0⟩
    | some a =>
      let r := queryModuleTestAdapter a outputBufferLength m buffer
      if r.status = statusBufferOverflow then ⟨r.status, store 4 r.memory buffer r.bufferSize, 4⟩
      else if ntSuccess r.status then ⟨r.status, r.memory, r.bufferSize⟩
      else ⟨r.status, r.memory, 0⟩

/-- `CfixklsQuerySizeForQueryModuleRequest`: `none` says that it fails. -/
def querySize (connections : Nat → Option TestAdapter) (buffer : Nat) (m : Mem) : Option (BitVec 32) :=
  let r := queryModuleIoctl connections buffer sizeofQueryRequest sizeofQueryResponse m
  if ntSuccess r.status then some 4#32
  else if r.status = statusBufferOverflow ∧ 4 ≤ r.bytesWritten then some (BitVec.ofNat 32 (load 4 r.memory buffer))
  else none

/-! ## What a description consists of -/

/-- The structures of `n` fixtures, from `fixIndex` on. -/
def structRegions (m : Mem) (base : Nat) : Nat → Nat → List Region
  | _,        0     => []
  | fixIndex, n + 1 =>
    let offset := load 4 m (base + (4 + 4 * fixIndex))
    ⟨offset, sizeofFixture (load 4 m (base + offset + 12))⟩ :: structRegions m base (fixIndex + 1) n

/-- The names of `n` entries of the fixture at the offset, from `defIndex` on. -/
def entryRegions (m : Mem) (base structOffset : Nat) : Nat → Nat → List Region
  | _,        0     => []
  | defIndex, n + 1 =>
    let e := IoEntry.load m (base + (structOffset + 16 + 12 * defIndex))
    ⟨e.nameOffset, e.nameLength⟩ :: entryRegions m base structOffset (defIndex + 1) n

/-- The strings of `n` fixtures: the name of each and the names of its entries. -/
def stringRegions (m : Mem) (base : Nat) : Nat → Nat → List Region
  | _,        0     => []
  | fixIndex, n + 1 =>
    let offset := load 4 m (base + (4 + 4 * fixIndex))
    ⟨load 4 m (base + offset + 4), load 4 m (base + offset + 8)⟩ ::
      entryRegions m base offset 0 (load 4 m (base + offset + 12)) ++ stringRegions m base (fixIndex + 1) n

/-- All structures and strings of the description at this address, as offsets in it. -/
def moduleRegions (m : Mem) (base : Nat) : List Region :=
  ⟨0, sizeofModule (load 4 m base)⟩ :: structRegions m base 0 (load 4 m base) ++ stringRegions m base 0 (load 4 m base)

section Regions

variable {m : Mem} {base structOffset stringsOffset defIndex fixIndex : Nat}

theorem EntriesStored.consecutive {es : List DefinitionEntry}
    (h : EntriesStored m base structOffset defIndex stringsOffset es) :
    Consecutive stringsOffset (entryRegions m base structOffset defIndex es.length) (stringsOffset + namesSize es) := by
  induction es generalizing defIndex stringsOffset with
  | nil => exact rfl
  | cons e es ih =>
      obtain ⟨⟨hfields, -⟩, hrest⟩ := h
      rw [List.length_cons, entryRegions, hfields, namesSize_cons, ← Nat.add_assoc]
      exact ⟨rfl, ih hrest⟩

theorem FixturesStored.structs {fs : List TestFixture} (h : FixturesStored m base fixIndex structOffset stringsOffset fs) :
    Consecutive structOffset (structRegions m base fixIndex fs.length) (structOffset + structsSize fs) := by
  induction fs generalizing fixIndex structOffset stringsOffset with
  | nil => exact rfl
  | cons f fs ih =>
      obtain ⟨⟨hhead, -⟩, hrest⟩ := h
      rw [List.length_cons, structRegions, hhead.offset, hhead.entryCount, structsSize_cons, ← Nat.add_assoc]
      exact ⟨rfl, ih hrest⟩

theorem FixturesStored.strings {fs : List TestFixture} (h : FixturesStored m base fixIndex structOffset stringsOffset fs) :
    Consecutive stringsOffset (stringRegions m base fixIndex fs.length) (stringsOffset + stringsSize fs) := by
  induction fs generalizing fixIndex structOffset stringsOffset with
  | nil => exact rfl
  | cons f fs ih =>
      obtain ⟨⟨hhead, hentries⟩, hrest⟩ := h
      rw [List.length_cons, stringRegions, hhead.offset, hhead.entryCount, hhead.nameOffset, hhead.nameLength,
        stringsSize_cons]
      refine ⟨rfl, ?_⟩
      have hnames := hentries.consecutive
      have hbehind := ih hrest
      rw [TestFixture.stringsSize] at hbehind ⊢
      rw [show stringsOffset + (2 * f.fixtureName.chars.length + namesSize f.entries) =
        stringsOffset + 2 * f.fixtureName.chars.length + namesSize f.entries by omega] at hbehind
      rw [show stringsOffset + (2 * f.fixtureName.chars.length + namesSize f.entries + stringsSize fs) =
        stringsOffset + 2 * f.fixtureName.chars.length + namesSize f.entries + stringsSize fs by omega]
      exact hnames.append hbehind

/-- **The structures and strings of a description fill it.** -/
theorem ModuleStored.tiles {a : TestAdapter} (h : ModuleStored m base a) : Tiles (moduleRegions m base) 0 a.size := by
  apply Consecutive.tiles
  rw [moduleRegions, h.count]
  refine ⟨rfl, ?_⟩
  have hstructs := h.fixtures.structs
  have hstrings := h.fixtures.strings
  rw [← TestAdapter.structSize] at hstructs
  rw [Nat.zero_add]
  exact hstructs.append hstrings

end Regions

/-! ## Exact sizes -/

/-- The answer to a request for the description of an adapter, in a buffer of this length. -/
structure Negotiates (a : TestAdapter) (buffer : Nat) (outputBufferLength : BitVec 32) (m : Mem) (r : IoctlResult) :
    Prop where
  outside   : ∀ x, x < buffer ∨ buffer + a.size ≤ x → r.memory x = m x
  overflow  : r.status = statusBufferOverflow ↔ outputBufferLength.toNat < a.size
  required  : r.status = statusBufferOverflow → load 4 r.memory buffer = a.size ∧ r.bytesWritten = 4
  described : r.status ≠ statusBufferOverflow →
    r.status = statusSuccess ∧ r.bytesWritten = a.size ∧ Tiles (moduleRegions r.memory buffer) 0 a.size

/-- **The sizes are exact**: every buffer is filled or refused by the size of the description, and the client gets it
    with its second request. -/
def ExactNegotiation (a : TestAdapter) : Prop :=
  ∀ (connections : Nat → Option TestAdapter) (buffer : Nat) (m : Mem), buffer ≠ 0 →
    connections (load 8 m buffer) = some a →
    (∀ outputBufferLength : BitVec 32, 4 ≤ outputBufferLength.toNat →
      Negotiates a buffer outputBufferLength m
        (queryModuleIoctl connections buffer sizeofQueryRequest outputBufferLength m)) ∧
    ∃ size, querySize connections buffer m = some size ∧
      ∀ m', connections (load 8 m' buffer) = some a →
        (queryModuleIoctl connections buffer sizeofQueryRequest size m').status = statusSuccess

section Exact

variable {a : TestAdapter} {buffer : Nat} {m : Mem} {outputBufferLength : BitVec 32}

/-- A buffer that is smaller than the size, as it is computed, is refused, and any other is filled. -/
theorem queryModuleTestAdapter_status (hfit : ∀ f ∈ a.fixtures, NamesFit f.entries) (maximumBufferSize : BitVec 32)
    (m : Mem) (ioBuffer : Nat) :
    if maximumBufferSize.toNat < ulong a.size then
      queryModuleTestAdapter a maximumBufferSize m ioBuffer = ⟨statusBufferOverflow, m, ulong a.size⟩
    else ∃ m', queryModuleTestAdapter a maximumBufferSize m ioBuffer = ⟨statusSuccess, m', ulong a.size⟩ := by
  have hsum : ulong (ulong a.structSize + ulong (stringsSize a.fixtures)) = ulong a.size := by
    rw [TestAdapter.size]
    exact (Nat.add_mod _ _ _).symm
  rw [queryModuleTestAdapter, calculateBufferSize_eq hfit]
  simp only [hsum]
  by_cases hlt : maximumBufferSize.toNat < ulong a.size
  · simp only [if_pos hlt]
  · simp only [if_neg hlt]
    obtain ⟨m', hwrite⟩ := writeFixtures_ok hfit ioBuffer (store 4 m ioBuffer a.fixtures.length) 0
      (ulong (sizeofModule (load 4 (store 4 m ioBuffer a.fixtures.length) ioBuffer))) (ulong a.structSize)
    exact ⟨m', by rw [hwrite]⟩

theorem success_ne_overflow : (statusSuccess = statusBufferOverflow) = False := eq_false (by decide)

theorem ntSuccess_success : ntSuccess statusSuccess = true := rfl

theorem ntSuccess_overflow : ntSuccess statusBufferOverflow = false := rfl

/-- An accepted request. -/
theorem queryModuleIoctl_eq {connections : Nat → Option TestAdapter} (hbuffer : buffer ≠ 0)
    (hconnection : connections (load 8 m buffer) = some a) (hlength : 4 ≤ outputBufferLength.toNat) :
    queryModuleIoctl connections buffer sizeofQueryRequest outputBufferLength m =
      let r := queryModuleTestAdapter a outputBufferLength m buffer
      if r.status = statusBufferOverflow then ⟨r.status, store 4 r.memory buffer r.bufferSize, 4⟩
      else if ntSuccess r.status then ⟨r.status, r.memory, r.bufferSize⟩
      else ⟨r.status, r.memory, 0⟩ := by
  have haccepted : ¬ (buffer = 0 ∨ sizeofQueryRequest ≠ sizeofQueryRequest ∨ outputBufferLength < 4#32) := by
    rintro (hzero | hinput | hshort)
    · exact hbuffer hzero
    · exact hinput rfl
    · rw [BitVec.lt_def] at hshort
      exact absurd hlength (Nat.not_le_of_lt hshort)
  rw [queryModuleIoctl, if_neg haccepted, hconnection]

/-- The answer to a request whose buffer is too small. -/
theorem queryModuleIoctl_overflow {connections : Nat → Option TestAdapter} (hfit : ∀ f ∈ a.fixtures, NamesFit f.entries)
    (hbuffer : buffer ≠ 0) (hconnection : connections (load 8 m buffer) = some a) (hlength : 4 ≤ outputBufferLength.toNat)
    (hsmall : outputBufferLength.toNat < ulong a.size) :
    queryModuleIoctl connections buffer sizeofQueryRequest outputBufferLength m =
      ⟨statusBufferOverflow, store 4 m buffer (ulong a.size), 4⟩ := by
  have hquery := queryModuleTestAdapter_status hfit outputBufferLength m buffer
  rw [if_pos hsmall] at hquery
  rw [queryModuleIoctl_eq hbuffer hconnection hlength, hquery]
  simp only [if_true]

/-- The answer to a request whose buffer is not too small, by the size as it is computed. -/
theorem queryModuleIoctl_success {connections : Nat → Option TestAdapter} (hfit : ∀ f ∈ a.fixtures, NamesFit f.entries)
    (hbuffer : buffer ≠ 0) (hconnection : connections (load 8 m buffer) = some a) (hlength : 4 ≤ outputBufferLength.toNat)
    (hroom : ulong a.size ≤ outputBufferLength.toNat) :
    queryModuleIoctl connections buffer sizeofQueryRequest outputBufferLength m =
      ⟨statusSuccess, (queryModuleTestAdapter a outputBufferLength m buffer).memory, ulong a.size⟩ := by
  have hquery := queryModuleTestAdapter_status hfit outputBufferLength m buffer
  rw [if_neg (Nat.not_lt_of_le hroom)] at hquery
  obtain ⟨m', hquery⟩ := hquery
  rw [queryModuleIoctl_eq hbuffer hconnection hlength, hquery]
  simp only [success_ne_overflow, if_false, ntSuccess_success, if_true]

theorem TestAdapter.four_le_size (a : TestAdapter) : 4 ≤ a.size := by
  rw [TestAdapter.size, TestAdapter.structSize, sizeofModule]
  omega

theorem negotiates {connections : Nat → Option TestAdapter} (hfit : ∀ f ∈ a.fixtures, NamesFit f.entries)
    (hsize : a.size < 2 ^ 32) (hbuffer : buffer ≠ 0) (hconnection : connections (load 8 m buffer) = some a)
    (hlength : 4 ≤ outputBufferLength.toNat) :
    Negotiates a buffer outputBufferLength m
      (queryModuleIoctl connections buffer sizeofQueryRequest outputBufferLength m) := by
  have hulong : ulong a.size = a.size := ulong_of_lt hsize
  have hfour := a.four_le_size
  rcases Nat.lt_or_ge outputBufferLength.toNat a.size with hsmall | hroom
  · rw [queryModuleIoctl_overflow hfit hbuffer hconnection hlength (by rw [hulong]; exact hsmall), hulong]
    refine ⟨?_, iff_of_true rfl hsmall, ?_, fun hne => absurd rfl hne⟩
    · intro x hx
      exact store_outside 4 m _ (by omega)
    · intro _
      refine ⟨?_, rfl⟩
      show load 4 (store 4 m buffer a.size) buffer = a.size
      rw [load_store]
      exact Nat.mod_eq_of_lt hsize
  · obtain ⟨m', hquery, hstored, hout⟩ := queryModuleTestAdapter_spec m buffer hfit hsize hroom
    rw [queryModuleIoctl_success hfit hbuffer hconnection hlength (by rw [hulong]; exact hroom), hquery, hulong]
    have hne : statusSuccess ≠ statusBufferOverflow := by decide
    refine ⟨hout, iff_of_false hne (Nat.not_lt_of_le hroom), fun heq => absurd heq hne, fun _ => ⟨rfl, rfl, hstored.tiles⟩⟩

/-- The client learns the size: a module without fixtures fits in the first buffer. -/
theorem querySize_spec {connections : Nat → Option TestAdapter} (hfit : ∀ f ∈ a.fixtures, NamesFit f.entries)
    (hsize : a.size < 2 ^ 32) (hbuffer : buffer ≠ 0) (hconnection : connections (load 8 m buffer) = some a) :
    ∃ size, querySize connections buffer m = some size ∧ a.size ≤ size.toNat := by
  have hulong : ulong a.size = a.size := ulong_of_lt hsize
  have height : sizeofQueryResponse.toNat = 8 := rfl
  have hfour : 4 ≤ sizeofQueryResponse.toNat := by decide
  rcases Nat.lt_or_ge sizeofQueryResponse.toNat a.size with hsmall | hroom
  · refine ⟨BitVec.ofNat 32 a.size, ?_, ?_⟩
    · rw [querySize, queryModuleIoctl_overflow hfit hbuffer hconnection hfour (by rw [hulong]; exact hsmall), hulong]
      have hload : load 4 (store 4 m buffer a.size) buffer = a.size := by
        rw [load_store]
        exact Nat.mod_eq_of_lt hsize
      simp only [ntSuccess_overflow, Bool.false_eq_true, if_false, hload, Nat.le_refl, and_self, if_true]
    · rw [BitVec.toNat_ofNat, Nat.mod_eq_of_lt hsize]
  · refine ⟨4#32, ?_, ?_⟩
    · rw [querySize, queryModuleIoctl_success hfit hbuffer hconnection hfour (by rw [hulong]; exact hroom)]
      simp only [ntSuccess_success, if_true]
    · -- the structure of a fixture alone would not fit
      have hfew : a.fixtures = [] := by
        cases hfixtures : a.fixtures with
        | nil => rfl
        | cons f fs =>
            have hsum : a.size = 4 + 4 * (fs.length + 1) + structsSize (f :: fs) + stringsSize (f :: fs) := by
              rw [TestAdapter.size, TestAdapter.structSize, sizeofModule, hfixtures, List.length_cons]
            rw [structsSize_cons, sizeofFixture] at hsum
            omega
      have hzero : a.size = 4 := by
        rw [TestAdapter.size, TestAdapter.structSize, hfew]
        rfl
      rw [hzero]
      exact Nat.le_refl 4

/-- A description that is larger than its size as it is computed: a buffer of that size is filled. -/
theorem not_exactNegotiation (hfit : ∀ f ∈ a.fixtures, NamesFit f.entries) (hover : 2 ^ 32 ≤ a.size) :
    ¬ ExactNegotiation a := by
  intro h
  have hlt : max 4 (ulong a.size) < 2 ^ 32 := by
    unfold ulong
    omega
  obtain ⟨outputBufferLength, hlength⟩ : ∃ n : BitVec 32, n.toNat = max 4 (ulong a.size) :=
    ⟨BitVec.ofNat 32 (max 4 (ulong a.size)), by rw [BitVec.toNat_ofNat, Nat.mod_eq_of_lt hlt]⟩
  obtain ⟨connections, hconnections⟩ : ∃ connections : Nat → Option TestAdapter, ∀ x, connections x = some a :=
    ⟨fun _ => some a, fun _ => rfl⟩
  obtain ⟨hnegotiates, -⟩ := h connections 1 (fun _ => 0) Nat.one_ne_zero (hconnections _)
  have hstatus := (hnegotiates outputBufferLength (by omega)).overflow
  rw [queryModuleIoctl_success hfit Nat.one_ne_zero (hconnections _) (by omega) (by omega)] at hstatus
  have hoverflow : statusSuccess = statusBufferOverflow := hstatus.mpr (by omega)
  rwa [success_ne_overflow] at hoverflow

/-- **The sizes are exact if and only if they are smaller than 2^32.** -/
theorem exactNegotiation_iff (hfit : ∀ f ∈ a.fixtures, NamesFit f.entries) : ExactNegotiation a ↔ a.size < 2 ^ 32 := by
  constructor
  · intro h
    by_contra hover
    exact not_exactNegotiation hfit (Nat.le_of_not_lt hover) h
  · intro hsize connections buffer m hbuffer hconnection
    refine ⟨fun outputBufferLength hlength => negotiates hfit hsize hbuffer hconnection hlength, ?_⟩
    obtain ⟨size, hquery, hle⟩ := querySize_spec hfit hsize hbuffer hconnection
    refine ⟨size, hquery, ?_⟩
    intro m' hconnection'
    have hfour := a.four_le_size
    rw [queryModuleIoctl_success hfit hbuffer hconnection' (by omega) (by rw [ulong_of_lt hsize]; exact hle)]

theorem exactNegotiation_smallAdapter : ExactNegotiation smallAdapter :=
  (exactNegotiation_iff fun f hf => (smallAdapter_describable f hf).fit).mpr (by decide)

/-- The description of 2^32 bytes is taken for one of 0 bytes. -/
theorem not_exactNegotiation_largeAdapter :
    ¬ ∀ a : TestAdapter, (∀ f ∈ a.fixtures, NamesFit f.entries) → ExactNegotiation a := by
  intro hall
  have hfit : ∀ f ∈ largeAdapter.fixtures, NamesFit f.entries := fun f hf => (largeAdapter_describable f hf).fit
  exact not_exactNegotiation hfit (Nat.le_of_eq largeAdapter_size.symm) (hall largeAdapter hfit)

end Exact

end Cfix.TestModule
