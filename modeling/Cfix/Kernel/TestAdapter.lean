import Cfix.Kernel.CallRoutine
import Cfix.Kernel.FilamentTable

/-!
# `Kernel.TestAdapter` — the fixtures of a driver and their description (`cfixkr/drvtestadp.c`)

`CfixkrpQueryModuleTestAdapter` describes the fixtures for the client: all structures, one behind the other,
then all strings. Both areas are filled in one pass with one offset each; the fields that the code reads back
are read back here, too. `CfixkrpGetRoutineTestAdapter` finds a routine by the keys of such a description.
-/

namespace Cfix.TestModule

open Memory
open Cfix.Events (Wstr rtlStringCbLength statusInvalidParameter)
open Cfix.Unload (NTSTATUS statusSuccess)
open Cfix.FilamentTable (statusDriverEntrypointNotFound)

/-! ## Adapter -/

/-- `CFIX_ENTRY_TYPE`. -/
def cfixEntryTypeSetup    : Nat := 1
def cfixEntryTypeTeardown : Nat := 2
def cfixEntryTypeTestcase : Nat := 3
def cfixEntryTypeBefore   : Nat := 4
def cfixEntryTypeAfter    : Nat := 5

/-- `CFIX_PE_DEFINITION_ENTRY`. -/
structure DefinitionEntry where
  type    : BitVec 32
  name    : Wstr
  routine : Pvoid

def cfixMaxEntryNameCch   : Nat := 64
def cfixMaxFixtureNameCch : Nat := 128

/-- `CFIXKRP_TEST_FIXTURE`. The name is zero-terminated in `__NameBuffer`; the entries are counted by the
    `USHORT` of the loops over them. -/
structure TestFixture where
  fixtureName : Wstr
  entries     : List DefinitionEntry
  name_lt     : fixtureName.chars.length < cfixMaxFixtureNameCch
  entries_lt  : entries.length < 2 ^ 16

/-- `CFIXKRP_TEST_ADAPTER`. -/
structure TestAdapter where
  fixtures    : List TestFixture
  fixtures_lt : fixtures.length < 2 ^ 16

/-- `CfixkrpGetRoutineTestAdapter`. -/
def getRoutineTestAdapter (a : TestAdapter) (fixtureKey routineKey : Nat) : Except NTSTATUS Pvoid :=
  match a.fixtures[fixtureKey]? with
  | none => .error statusDriverEntrypointNotFound
  | some f =>
    match f.entries[routineKey]? with
    | none   => .error statusDriverEntrypointNotFound
    | some e => .ok e.routine

/-! ## Sizes -/

/-- A number in a `ULONG`. -/
def ulong (n : Nat) : Nat := n % 2 ^ 32

/-- `RTL_SIZEOF_THROUGH_FIELD( CFIXKRIO_TEST_MODULE, FixtureOffsets[ Count - 1 ] )`. -/
def sizeofModule (fixtureCount : Nat) : Nat := 4 + 4 * fixtureCount

/-- `RTL_SIZEOF_THROUGH_FIELD( CFIXKRIO_FIXTURE, Entries[ Count - 1 ] )`. -/
def sizeofFixture (entryCount : Nat) : Nat := 16 + 12 * entryCount

/-- The length of an entry's name in bytes. -/
def entryNameLength (e : DefinitionEntry) : Except NTSTATUS Nat :=
  match rtlStringCbLength e.name ((cfixMaxEntryNameCch - 1) * 2) with
  | none        => .error statusInvalidParameter
  | some length => .ok length

/-- The loop over the entries of a fixture. -/
def stringsSizeEntries : List DefinitionEntry → Nat → Except NTSTATUS Nat
  | [], stringsSize      => .ok stringsSize
  | e :: es, stringsSize =>
    match entryNameLength e with
    | .error status => .error status
    | .ok length    => stringsSizeEntries es (ulong (stringsSize + length))

/-- The loop over the fixtures: `StructSize` and `StringsSize`. -/
def bufferSizeFixtures : List TestFixture → Nat → Nat → Except NTSTATUS (Nat × Nat)
  | [], structSize, stringsSize      => .ok (structSize, stringsSize)
  | f :: fs, structSize, stringsSize =>
    match stringsSizeEntries f.entries (ulong (stringsSize + 2 * f.fixtureName.chars.length)) with
    | .error status   => .error status
    | .ok stringsSize => bufferSizeFixtures fs (ulong (structSize + sizeofFixture f.entries.length)) stringsSize

/-- `CfixkrsCalculateBufferSize`. -/
def calculateBufferSize (a : TestAdapter) : Except NTSTATUS (Nat × Nat) :=
  bufferSizeFixtures a.fixtures (ulong (sizeofModule a.fixtures.length)) 0

/-! ## Description -/

/-- `RtlCopyMemory` of the characters of a string. -/
def copyChars (m : Mem) (target : Nat) (s : Wstr) : Mem := storeArray 2 m target (s.chars.map BitVec.toNat)

/-- One entry, at `io`: the memory afterwards and `BufferStringsOffset`. -/
def writeEntry (ioBuffer : Nat) (m : Mem) (io defIndex stringsOffset length : Nat) (e : DefinitionEntry) : Mem × Nat :=
  let m := store 2 m io e.type.toNat
  let m := store 2 m (io + 2) defIndex
  let m := store 4 m (io + 8) length
  let m := store 4 m (io + 4) stringsOffset
  let m := copyChars m (ioBuffer + load 4 m (io + 4)) e.name
  (m, ulong (stringsOffset + load 4 m (io + 8)))

/-- The loop over the entries of the fixture at `ioFixture`. -/
def writeEntries (ioBuffer ioFixture : Nat) :
    Mem → Nat → Nat → List DefinitionEntry → Except NTSTATUS (Mem × Nat)
  | m, _, stringsOffset, []             => .ok (m, stringsOffset)
  | m, defIndex, stringsOffset, e :: es =>
    match entryNameLength e with
    | .error status => .error status
    | .ok length    =>
      let (m, stringsOffset) := writeEntry ioBuffer m (ioFixture + 16 + 12 * defIndex) defIndex stringsOffset length e
      writeEntries ioBuffer ioFixture m (defIndex + 1) stringsOffset es

/-- A fixture without its entries, at `structOffset`: the memory afterwards and the two offsets. -/
def writeFixtureHead (ioBuffer : Nat) (m : Mem) (fixIndex structOffset stringsOffset : Nat) (f : TestFixture) :
    Mem × Nat × Nat :=
  let m := store 4 m (ioBuffer + 4 + 4 * fixIndex) structOffset
  let ioFixture := ioBuffer + structOffset
  let m := store 2 m ioFixture fixIndex
  let m := store 4 m (ioFixture + 12) f.entries.length
  let structOffset := ulong (structOffset + sizeofFixture (load 4 m (ioFixture + 12)))
  let m := store 4 m (ioFixture + 8) (2 * f.fixtureName.chars.length)
  let m := store 4 m (ioFixture + 4) stringsOffset
  let m := copyChars m (ioBuffer + load 4 m (ioFixture + 4)) f.fixtureName
  (m, structOffset, ulong (stringsOffset + load 4 m (ioFixture + 8)))

/-- The loop over the fixtures. -/
def writeFixtures (ioBuffer : Nat) : Mem → Nat → Nat → Nat → List TestFixture → Except NTSTATUS Mem
  | m, _, _, _, []                                    => .ok m
  | m, fixIndex, structOffset, stringsOffset, f :: fs =>
    let (m, structOffset', stringsOffset) := writeFixtureHead ioBuffer m fixIndex structOffset stringsOffset f
    match writeEntries ioBuffer (ioBuffer + structOffset) m 0 stringsOffset f.entries with
    | .error status          => .error status
    | .ok (m, stringsOffset) => writeFixtures ioBuffer m (fixIndex + 1) structOffset' stringsOffset fs

def statusBufferOverflow : NTSTATUS := 0x80000005#32

/-- The status, the memory afterwards and `BufferSize`. -/
structure QueryResult where
  status     : NTSTATUS
  memory     : Mem
  bufferSize : Nat

/-- `CfixkrpQueryModuleTestAdapter`. -/
def queryModuleTestAdapter (a : TestAdapter) (maximumBufferSize : BitVec 32) (m : Mem) (ioBuffer : Nat) :
    QueryResult :=
  match calculateBufferSize a with
  | .error status                  => ⟨status, m, 0⟩
  | .ok (structSize, stringsSize) =>
    let bufferSize := ulong (structSize + stringsSize)
    if bufferSize > maximumBufferSize.toNat then ⟨statusBufferOverflow, m, bufferSize⟩
    else
      let m := store 4 m ioBuffer a.fixtures.length
      match writeFixtures ioBuffer m 0 (ulong (sizeofModule (load 4 m ioBuffer))) structSize a.fixtures with
      | .error status => ⟨status, m, bufferSize⟩
      | .ok m         => ⟨statusSuccess, m, bufferSize⟩

end Cfix.TestModule
