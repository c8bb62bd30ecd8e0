import Cfix.Kernel.EventDelivery
import Cfix.Kernel.TestAdapter
import Cfix.Storage.KernelModule

/-!
# `Kernel.ModuleClient` — the client's copy of a module description (`cfixkl/module.c`)

`CfixklsInitializeModule` walks over the description and creates a fixture for each fixture in it. The
allocation of a fixture holds its name, its test cases and behind them the names of the test cases.
-/

namespace Cfix.TestModule

open Memory
open Cfix.Events (Wstr Width cfixklEInvalidReflectorResponse)

/-! ## Fixtures of the client -/

def eDupSetupRoutine      : HRESULT := 0x80048002#32
def eDupTeardownRoutine   : HRESULT := 0x80048003#32
def eDupBeforeRoutine     : HRESULT := 0x8004800F#32
def eDupAfterRoutine      : HRESULT := 0x80048010#32
/-- `HRESULT_FROM_WIN32( ERROR_INSUFFICIENT_BUFFER )`. -/
def eInsufficientBuffer   : HRESULT := 0x8007007A#32

/-- `CFIX_TEST_CASE`; the name is an offset in the allocation of the fixture. -/
structure KernelTestCase where
  name    : Nat
  routine : Nat
  deriving DecidableEq, Repr

/-- `CFIX_FIXTURE` as this module creates it: `memory` is the allocation, `size` its size. -/
structure KernelFixture where
  memory          : Mem
  size            : Nat
  setupRoutine    : Nat
  teardownRoutine : Nat
  beforeRoutine   : Nat
  afterRoutine    : Nat
  reserved        : Nat
  testCases       : List KernelTestCase

/-- The zero-terminated string at an offset of the allocation. -/
def KernelFixture.stringAt (f : KernelFixture) (offset : Nat) : Wstr :=
  .ofBuffer ((loadArray 2 f.memory offset ((f.size - offset) / 2)).map (BitVec.ofNat 16))

/-- `Name`, the first field. -/
def KernelFixture.name (f : KernelFixture) : Wstr := f.stringAt 0

/-- `RTL_SIZEOF_THROUGH_FIELD( CFIX_FIXTURE, TestCases[ Count - 1 ] )`. -/
def sizeofKernelFixture : Width → Nat → Nat
  | .w32, testCaseCount => 292 + 12 * testCaseCount
  | .w64, testCaseCount => 320 + 24 * testCaseCount

/-! ## One fixture -/

/-- `CFIXKRIO_FIXTURE_ENTRY`. -/
structure IoEntry where
  type       : Nat
  key        : Nat
  nameOffset : Nat
  nameLength : Nat
  deriving DecidableEq, Repr

/-- The entry in the memory at address `a`. -/
def IoEntry.load (m : Mem) (a : Nat) : IoEntry where
  type       := Memory.load 2 m a
  key        := Memory.load 2 m (a + 2)
  nameOffset := Memory.load 4 m (a + 4)
  nameLength := Memory.load 4 m (a + 8)

/-- `IoFixture->Entries`. -/
def ioEntries (m : Mem) (ioFixture : Nat) : List IoEntry :=
  (List.range (load 4 m (ioFixture + 12))).map fun i => .load m (ioFixture + 16 + 12 * i)

/-- The first loop: `TestCaseCount` and `StringSizesTotalCb`. -/
def countTestCases : List IoEntry → Nat → Nat → Nat × Nat
  | [], count, sizes      => (count, sizes)
  | e :: es, count, sizes =>
    if e.type = cfixEntryTypeTestcase then countTestCases es (count + 1) (ulong (sizes + (e.nameLength + 2)))
    else countTestCases es count sizes

/-- `CopyMemory` of a counted string and its zero-termination. -/
def copyTerminated (target : Mem) (offset : Nat) (m : Mem) (source length : Nat) : Mem :=
  store 2 (write target offset (read m source length)) (offset + 2 * (length / 2)) 0

/-- A special routine: it must not be there already. -/
def setRoutine (routine : Nat) (e : IoEntry) (duplicate : HRESULT) : Except HRESULT Nat :=
  if routine &&& cfixklpRoutinePresent != 0 then .error duplicate else .ok (e.key ||| cfixklpRoutinePresent)

/-- The switch over the type of an entry; the state has `CurrentStringOffset` beside the fixture. -/
def addEntry (m : Mem) (ioModule : Nat) (f : KernelFixture) (stringOffset : Nat) (e : IoEntry) :
    Except HRESULT (KernelFixture × Nat) :=
  if e.type = cfixEntryTypeTestcase then
    .ok ({ f with
        memory    := copyTerminated f.memory stringOffset m (ioModule + e.nameOffset) e.nameLength
        testCases := f.testCases ++ [⟨stringOffset, e.key⟩] },
      ulong (stringOffset + (e.nameLength + 2)))
  else if e.type = cfixEntryTypeSetup then
    (setRoutine f.setupRoutine e eDupSetupRoutine).map fun r => ({ f with setupRoutine := r }, stringOffset)
  else if e.type = cfixEntryTypeTeardown then
    (setRoutine f.teardownRoutine e eDupTeardownRoutine).map fun r => ({ f with teardownRoutine := r }, stringOffset)
  else if e.type = cfixEntryTypeBefore then
    (setRoutine f.beforeRoutine e eDupBeforeRoutine).map fun r => ({ f with beforeRoutine := r }, stringOffset)
  else if e.type = cfixEntryTypeAfter then
    (setRoutine f.afterRoutine e eDupAfterRoutine).map fun r => ({ f with afterRoutine := r }, stringOffset)
  else .error cfixklEInvalidReflectorResponse

/-- The second loop over the entries. -/
def addEntries (m : Mem) (ioModule : Nat) : KernelFixture → Nat → List IoEntry → Except HRESULT KernelFixture
  | f, _, []                 => .ok f
  | f, stringOffset, e :: es =>
    match addEntry m ioModule f stringOffset e with
    | .error hr               => .error hr
    | .ok (f, stringOffset) => addEntries m ioModule f stringOffset es

/-- `CfixklsCreateFixture`; `allocation` is the memory that `malloc` returns, if it does. -/
def createFixture (w : Width) (allocation : Option Mem) (m : Mem) (ioModule ioFixture : Nat) :
    Except HRESULT KernelFixture :=
  let entries := ioEntries m ioFixture
  let (testCaseCount, stringSizesTotalCb) := countTestCases entries 0 0
  match allocation with
  | none        => .error eOutofmemory
  | some memory =>
    let nameLength := load 4 m (ioFixture + 8)
    if nameLength > 2 * cfixMaxFixtureNameCch - 2 then .error eInsufficientBuffer
    else
      let f : KernelFixture :=
        { memory          := copyTerminated memory 0 m (ioModule + load 4 m (ioFixture + 4)) nameLength
          size            := sizeofKernelFixture w testCaseCount + stringSizesTotalCb
          setupRoutine    := 0
          teardownRoutine := 0
          beforeRoutine   := 0
          afterRoutine    := 0
          reserved        := load 2 m ioFixture
          testCases       := [] }
      addEntries m ioModule f (ulong (sizeofKernelFixture w testCaseCount)) entries

/-! ## The module -/

/-- What the client's heap gives: the array of fixtures, and the memory of each fixture. -/
structure ClientHeap where
  fixtures    : Bool
  allocations : Nat → Option Mem

/-- The loop over the fixtures of the response at `ioModule`. -/
def createFixtures (w : Width) (heap : ClientHeap) (m : Mem) (ioModule : Nat) :
    Nat → Nat → Except HRESULT (List KernelFixture)
  | 0, _         => .ok []
  | n + 1, index =>
    match createFixture w (heap.allocations index) m ioModule
        (ioModule + load 4 m (ioModule + 4 + 4 * index)) with
    | .error hr => .error hr
    | .ok f     =>
      match createFixtures w heap m ioModule n (index + 1) with
      | .error hr => .error hr
      | .ok fs    => .ok (f :: fs)

/-- `CfixklsInitializeModule`, once it has the response. -/
def initializeModule (w : Width) (heap : ClientHeap) (m : Mem) (ioModule : Nat) :
    Except HRESULT (List KernelFixture) :=
  if !heap.fixtures then .error eOutofmemory
  else createFixtures w heap m ioModule (load 4 m ioModule) 0

/-! ## Keys -/

/-- The keys that the runners send for a special routine and for a test routine. -/
def KernelFixture.fixtureKey (f : KernelFixture) : Nat := f.reserved % 2 ^ 16

def specialRoutineKey (routine : Nat) : Nat := (routine &&& 0x7FFFFFFF) % 2 ^ 16

def KernelTestCase.routineKey (tc : KernelTestCase) : Nat := tc.routine % 2 ^ 16

end Cfix.TestModule
