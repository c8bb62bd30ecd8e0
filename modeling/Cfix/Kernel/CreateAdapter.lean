import Cfix.Kernel.DriverAdapter
import Cfix.Kernel.QueryInterface
import Cfix.Pe.Mangling
import Cfix.Pe.Selected
import Cfix.Pe.Violations

/-!
# `Kernel.CreateAdapter` — the adapter of a driver (`cfixkr/drvtestadp.c`)

`CfixkrpCreateTestAdapter` walks over the exports of a driver and initialises an entry for each one that is a fixture.
Other than `CfixsCreateFixture`, it does not look at the entries of a definition.
-/

namespace Cfix.TestModule

open Memory PeImage PeLoader
open Cdiag (CString)
open Events (Wstr Width ntSuccess)
open Unload (NTSTATUS statusSuccess)
open PeFixture (ExportName Definition CodePage mangledPrefixCch countEntries)
open QueryInterface (statusNoMemory)

def statusInvalidParameter2   : NTSTATUS := 0xC00000F0#32
def statusInvalidImageFormat  : NTSTATUS := 0xC000007B#32

/-! ## Fixtures -/

/-- A name that `RtlAnsiStringToUnicodeString` has put in a buffer of this many bytes. -/
abbrev BufferedName (maximumLength : Nat) := { name : CString // 2 * name.length < maximumLength }

/-- `RtlInitAnsiString` and `RtlAnsiStringToUnicodeString`: both lengths are `USHORT`s, and a terminator has to fit. -/
def rtlAnsiStringToUnicodeString (decode : List UInt8 → CString) (text : List UInt8) (maximumLength : Nat) :
    Except NTSTATUS (BufferedName maximumLength) :=
  let name := decode (text.take 0xFFFE)
  if 2 * name.length + 2 > 0xFFFF then .error statusInvalidParameter2
  else if h : 2 * name.length < maximumLength then .ok ⟨name, h⟩
  else .error statusBufferOverflow

/-- `Head.ApiVersion`. -/
def apiVersion (d : Definition) : BitVec 32 := d.revision ++ d.flags ++ d.type

/-- `CFIX_PE_API_VERSION`. -/
def cfixPeApiVersion : BitVec 32 := 1#32

/-- `Name` without the pointer; `text` is the string at an address. -/
def definitionEntry (text : Nat → Wstr) (e : PeFixture.DefinitionEntry) : DefinitionEntry where
  type    := BitVec.ofNat 32 e.type
  name    := text e.name
  routine := e.routine

/-- The counted entries of a fixture with this name, which `CfixkrsUnmangleName` cuts off. -/
def driverFixture (text : Nat → Wstr) (name : BufferedName (2 * cfixMaxFixtureNameCch)) (entryCount : BitVec 32)
    (d : Definition) : DriverFixture where
  fixtureName :=
    { chars   := (PeFixture.unmangleName name.1).chars
      nulFree := fun h => (PeFixture.unmangleName name.1).nonzero _ h rfl }
  entries     := (d.entries.take entryCount.toNat).map (definitionEntry text)
  name_lt     := by
    have hcut : (PeFixture.unmangleName name.1).chars.length ≤ name.1.length :=
      (List.takeWhile_sublist _).length_le
    have hfits := name.2
    show (PeFixture.unmangleName name.1).chars.length < cfixMaxFixtureNameCch
    omega
  entries_lt  := by
    rw [List.length_map, List.length_take]
    exact Nat.lt_of_le_of_lt (Nat.min_le_left _ _) entryCount.isLt

/-- `CfixkrsInitializeFixture`, with what the exported routine returns; `none` if the fuel is not enough to count the
    entries. -/
def initializeFixture {w : Width} (decode : List UInt8 → CString) (text : Nat → Wstr) (fuel : Nat)
    (exportName : ExportName w) (testDef : Option Definition) : Option (Except NTSTATUS DriverFixture) :=
  match rtlAnsiStringToUnicodeString decode (exportName.chars.drop (mangledPrefixCch w)) (2 * cfixMaxFixtureNameCch) with
  | .error status => some (.error status)
  | .ok name      =>
    match testDef with
    | none   => some (.error Unload.statusDriverUnableToLoad)
    | some d =>
      if apiVersion d ≠ cfixPeApiVersion then some (.error Unload.statusDriverUnableToLoad)
      else (countEntries d.entries fuel 0#32).map fun entryCount => .ok (driverFixture text name entryCount d)

/-! ## Adapters -/

def sizeofTestFixture : Width → Nat
  | .w32 => 272
  | .w64 => 288

def sizeofTestAdapter : Width → Nat
  | .w32 => 12
  | .w64 => 24

/-- `ExportDirectory->NumberOfNames * sizeof( CFIXKRP_TEST_FIXTURE )`. -/
def fixturesBytes (w : Width) (numberOfNames : Nat) : Nat :=
  numberOfNames * sizeofTestFixture w % 2 ^ PeFixture.sizeBits w

theorem numberOfNames_lt (m : Mem) (a : Nat) : (ExportDirectory.load m a).numberOfNames < 2 ^ 32 := load_lt ..

section

variable (w : Width) (image : Mem) (pool : Nat → Bool) (host : KernelHost DriverFixture)

theorem length_kernelWalkNames (dir : DataDirectory) (e : ExportDirectory) (n index : Nat) (entries : List DriverFixture) :
    (kernelWalkNames w image host dir e n index entries).entries.length ≤ entries.length + n := by
  induction n generalizing index entries with
  | zero => exact Nat.le_refl _
  | succ n ih =>
      have hrest := ih (index + 1) entries
      simp only [kernelWalkNames]
      split
      · omega
      · split
        · cases host.initializeFixture entries.length
              ⟨exportName w image e index, pointer w (functionRva w image e index)⟩ with
          | error status => exact Nat.le_add_right _ _
          | ok entry     =>
              have hentry := ih (index + 1) (entries ++ [entry])
              rw [List.length_append, List.length_singleton] at hentry
              show (kernelWalkNames w image host dir e n (index + 1) (entries ++ [entry])).entries.length ≤ _
              omega
        · omega

/-- There is at most an entry for each name. -/
theorem length_walk_le (dir : DataDirectory) (e : ExportDirectory) :
    (walkExportDirectoryAndExtractFixtures w image host dir e).entries.length ≤ e.numberOfNames := by
  rw [walkExportDirectoryAndExtractFixtures]
  split
  · exact Nat.zero_le _
  · exact Nat.le_trans (length_kernelWalkNames ..) (by rw [List.length_nil, Nat.zero_add])

/-- What is returned, `*Adapter`, and the number of blocks that have been allocated and not freed. -/
structure CreatedAdapter where
  status  : NTSTATUS
  adapter : Option DriverAdapter
  blocks  : Nat

/-- `CfixkrsInitializeAdapter`. A turn of the walk writes to its entry in the block. -/
def initializeAdapter : Except PeFixture.Fault CreatedAdapter :=
  if load 4 image (eLfanew image) ≠ imageNtSignature then .ok ⟨statusInvalidImageFormat, none, 0⟩
  else
    let dir := exportDataDir w image (eLfanew image)
    let e := exportDirectory w image
    let size := fixturesBytes w e.numberOfNames
    if !pool size then .ok ⟨statusNoMemory, none, 0⟩
    else
      let r := walkExportDirectoryAndExtractFixtures w image host dir e
      if size < r.turns.length * sizeofTestFixture w then .error .outOfBounds
      else if ntSuccess r.status then
        .ok ⟨r.status, some ⟨r.entries, Nat.lt_of_le_of_lt (length_walk_le w image host dir e) (numberOfNames_lt ..)⟩, 1⟩
      else .ok ⟨r.status, none, 0⟩

/-- `CfixkrpCreateTestAdapter`. -/
def createTestAdapter : Except PeFixture.Fault CreatedAdapter :=
  if !pool (sizeofTestAdapter w) then .ok ⟨statusNoMemory, none, 0⟩
  else (initializeAdapter w image pool host).map fun c =>
    if ntSuccess c.status then { c with blocks := c.blocks + 1 } else c

end

/-! ## What becomes of a definition -/

section

variable {w : Width} {decode : List UInt8 → CString} {exportName : ExportName w} {d : Definition}

/-- A definition of the base API, without flags. -/
structure BaseApi (d : Definition) : Prop where
  type     : d.type = 1#4
  flags    : d.flags = 0#12
  revision : d.revision = 0#16

theorem apiVersion_eq_iff : apiVersion d = cfixPeApiVersion ↔ BaseApi d := by
  have hvalue : (apiVersion d).toNat = d.revision.toNat * 2 ^ 16 + d.flags.toNat * 2 ^ 4 + d.type.toNat := by
    have htype := d.type.isLt
    have hflags := d.flags.isLt
    simp only [apiVersion, BitVec.toNat_append]
    rw [← Nat.shiftLeft_add_eq_or_of_lt (by omega), ← Nat.shiftLeft_add_eq_or_of_lt (by omega), Nat.shiftLeft_eq,
      Nat.shiftLeft_eq]
    omega
  have hone : cfixPeApiVersion.toNat = 1 := rfl
  constructor
  · intro h
    have hsum := congrArg BitVec.toNat h
    rw [hvalue, hone] at hsum
    have htype := d.type.isLt
    refine ⟨BitVec.eq_of_toNat_eq ?_, BitVec.eq_of_toNat_eq ?_, BitVec.eq_of_toNat_eq ?_⟩
    · show d.type.toNat = 1
      omega
    · show d.flags.toNat = 0
      omega
    · show d.revision.toNat = 0
      omega
  · intro h
    apply BitVec.eq_of_toNat_eq
    rw [hvalue, hone, h.type, h.flags, h.revision]
    rfl

/-- A name that fits is converted. -/
theorem rtlAnsiStringToUnicodeString_ok {text : List UInt8} (hlength : text.length < 0xFFFF)
    (hfits : (decode text).length < cfixMaxFixtureNameCch) :
    ∃ name, rtlAnsiStringToUnicodeString decode text (2 * cfixMaxFixtureNameCch) = .ok name ∧ name.1 = decode text := by
  unfold cfixMaxFixtureNameCch at hfits ⊢
  unfold rtlAnsiStringToUnicodeString
  rw [List.take_of_length_le (by omega)]
  simp only
  rw [if_neg (by omega), dif_pos (by omega)]
  exact ⟨_, rfl, rfl⟩

/-- **A definition of the base API becomes a fixture**, whatever its entries are. -/
theorem initializeFixture_ok (exportName : ExportName w) (text : Nat → Wstr) {fuel : Nat} (hbase : BaseApi d)
    (hlength : (exportName.chars.drop (mangledPrefixCch w)).length < 0xFFFF)
    (hfits : PeFixture.NameFits decode exportName) (hcount : d.entries.length < 2 ^ 32)
    (hfuel : d.entries.length < fuel) :
    ∃ f, initializeFixture decode text fuel exportName (some d) = some (.ok f) ∧
      f.fixtureName.chars = (PeFixture.unmangleName (decode (exportName.chars.drop (mangledPrefixCch w)))).chars ∧
      f.entries = d.entries.map (definitionEntry text) := by
  obtain ⟨name, hname, hdecoded⟩ := rtlAnsiStringToUnicodeString_ok hlength hfits
  have hcounted := PeFixture.countEntries_eq hcount fuel 0 (Nat.zero_le _)
  rw [Nat.sub_zero, if_pos hfuel] at hcounted
  have htake : d.entries.take (BitVec.ofNat 32 d.entries.length).toNat = d.entries := by
    rw [BitVec.toNat_ofNat, Nat.mod_eq_of_lt hcount, List.take_length]
  refine ⟨driverFixture text name (BitVec.ofNat 32 d.entries.length) d, ?_, ?_, ?_⟩
  · rw [initializeFixture, hname]
    simp only [apiVersion_eq_iff.mpr hbase, ne_eq, not_true_eq_false, if_false]
    rw [show (0#32 : BitVec 32) = BitVec.ofNat 32 0 from rfl, hcounted]
    rfl
  · show (PeFixture.unmangleName name.1).chars = _
    rw [hdecoded]
  · show (d.entries.take _).map (definitionEntry text) = _
    rw [htake]

end

/-! ## What becomes of a driver -/

section

variable {w : Width} {file image : Mem} {fileSize : Nat} {host : KernelHost DriverFixture} {pool : Nat → Bool}

/-- If each turn succeeds, all of them are taken. -/
theorem InitializesTurns.all {φ : Type} {host : KernelHost φ} {P : Turn → φ → Prop} {k : Nat} {turns : List Turn}
    {r : KernelWalk φ} (h : InitializesTurns host k turns r)
    (hall : ∀ k, ∀ t ∈ turns, ∃ entry, host.initializeFixture k t.passed = .ok entry ∧ P t entry) :
    r.status = statusSuccess ∧ r.turns = turns ∧ List.Forall₂ P turns r.entries := by
  induction h with
  | done => exact ⟨rfl, rfl, .nil⟩
  | failed herror =>
      obtain ⟨entry, hentry, -⟩ := hall _ _ List.mem_cons_self
      rw [hentry] at herror
      cases herror
  | initialized hentry _ ih =>
      obtain ⟨entry', hentry', hP⟩ := hall _ _ List.mem_cons_self
      obtain rfl := Except.ok.inj (hentry.symm.trans hentry')
      obtain ⟨hstatus, hturns, hentries⟩ := ih fun k t ht => hall k t (List.mem_cons_of_mem _ ht)
      exact ⟨hstatus, congrArg (List.cons _) hturns, .cons hP hentries⟩

/-- The pool gives the memory for the adapter, and the size of its fixtures does not wrap around. -/
structure PoolGives (w : Width) (image : Mem) (pool : Nat → Bool) : Prop where
  gives : ∀ n, pool n = true
  size  : (exportDirectory w image).numberOfNames * sizeofTestFixture w < 2 ^ PeFixture.sizeBits w

/-- **The adapter of a driver** has a fixture for each turn, if each turn succeeds. -/
theorem createTestAdapter_ok (h : ValidExports w file fileSize) (hloaded : Loaded file image)
    (hpool : PoolGives w image pool) {P : Turn → DriverFixture → Prop}
    (hall : ∀ k, ∀ t ∈ walkedTurns w image, ∃ f, host.initializeFixture k t.passed = .ok f ∧ P t f) :
    ∃ a : DriverAdapter, createTestAdapter w image pool host = .ok ⟨statusSuccess, some a, 2⟩ ∧
      List.Forall₂ P (walkedTurns w image) a.fixtures := by
  have hsignature : load 4 image (eLfanew image) = imageNtSignature := by
    rw [h.eLfanew_eq hloaded]
    exact h.ntSignature_eq hloaded
  have hwalk := kernel_spec h hloaded host
  obtain ⟨hstatus, hturns, hentries⟩ := InitializesTurns.all hwalk hall
  have hsize : fixturesBytes w (exportDirectory w image).numberOfNames =
      (exportDirectory w image).numberOfNames * sizeofTestFixture w := Nat.mod_eq_of_lt hpool.size
  have hroom : ¬ fixturesBytes w (exportDirectory w image).numberOfNames <
      (walkedTurns w image).length * sizeofTestFixture w := by
    rw [hsize, Nat.not_lt]
    exact Nat.mul_le_mul_right _ (length_turnsOf_le _ _)
  have hsuccess : ntSuccess statusSuccess = true := rfl
  refine ⟨⟨(walkExportDirectoryAndExtractFixtures w image host (exportDataDir w image (eLfanew image))
    (exportDirectory w image)).entries, ?_⟩, ?_, hentries⟩
  · exact Nat.lt_of_le_of_lt (length_walk_le ..) (numberOfNames_lt ..)
  · rw [createTestAdapter, initializeAdapter]
    simp only [hpool.gives, Bool.not_true, Bool.false_eq_true, if_false, hsignature, ne_eq, not_true_eq_false, hturns,
      hroom, hstatus, hsuccess, if_true, Except.map]

/-- Whatever fails, no block is left if there is no adapter. -/
theorem createTestAdapter_blocks {c : CreatedAdapter} (h : createTestAdapter w image pool host = .ok c) :
    c.blocks = if c.adapter.isSome then 2 else 0 := by
  unfold createTestAdapter at h
  split_ifs at h with hpool
  · cases h
    rfl
  · unfold initializeAdapter at h
    simp only at h
    split_ifs at h with hsignature hfixtures hroom hstatus
    · cases h
      rfl
    · cases h
      rfl
    · cases h
    · simp only [Except.map, hstatus, if_true] at h
      cases h
      rfl
    · simp only [Except.map, hstatus, Bool.false_eq_true, if_false] at h
      cases h
      rfl

end

end Cfix.TestModule
