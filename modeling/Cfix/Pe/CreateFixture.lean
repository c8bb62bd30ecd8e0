import Cfix.Cdiag.Helper
import Cfix.Kernel.ModuleClient
import Cfix.Pe.Exports

/-!
# `Pe.CreateFixture` — fixtures from the definitions in a module (`cfix/pe.c`, `cfixpe.h`)

`CfixsCreateFixture` counts the entries of a definition, allocates a fixture with room for that many test cases and
walks over the entries once more. A routine is there already if its member of the fixture is not 0.
-/

namespace Cfix.PeFixture

open Cdiag (CString WCHAR)
open Events (Width)
open TestModule (cfixEntryTypeSetup cfixEntryTypeTeardown cfixEntryTypeTestcase cfixEntryTypeBefore cfixEntryTypeAfter
  eDupSetupRoutine eDupTeardownRoutine eDupBeforeRoutine eDupAfterRoutine cfixMaxFixtureNameCch)

abbrev ULONG := BitVec 32

/-! ## Definitions -/

def cfixEntryTypeEnd : Nat := 0

/-- `CFIX_PE_DEFINITION_ENTRY`. The name and the routine are pointers. -/
structure DefinitionEntry where
  type    : Nat
  name    : Nat
  routine : Nat
  deriving DecidableEq, Repr

/-- `CFIX_TEST_PE_DEFINITION`, with the entries in front of the one that ends the table. -/
structure Definition where
  type       : BitVec 4
  flags      : BitVec 12
  revision   : BitVec 16
  entries    : List DefinitionEntry
  ne_end     : ∀ e ∈ entries, e.type ≠ cfixEntryTypeEnd

/-- The routines that a fixture has at most once. -/
inductive Special where
  | setup
  | teardown
  | before
  | after
  deriving DecidableEq, Repr

def Special.entryType : Special → Nat
  | .setup    => cfixEntryTypeSetup
  | .teardown => cfixEntryTypeTeardown
  | .before   => cfixEntryTypeBefore
  | .after    => cfixEntryTypeAfter

def Special.duplicate : Special → HRESULT
  | .setup    => eDupSetupRoutine
  | .teardown => eDupTeardownRoutine
  | .before   => eDupBeforeRoutine
  | .after    => eDupAfterRoutine

/-- The cases of the switch. -/
inductive EntryKind where
  | special (s : Special)
  | testcase
  | unknown
  deriving DecidableEq, Repr

def entryKind (type : Nat) : EntryKind :=
  if type = cfixEntryTypeSetup then .special .setup
  else if type = cfixEntryTypeTeardown then .special .teardown
  else if type = cfixEntryTypeBefore then .special .before
  else if type = cfixEntryTypeAfter then .special .after
  else if type = cfixEntryTypeTestcase then .testcase
  else .unknown

/-! ## Fixtures -/

def eMisbehavioudGettcRoutine     : HRESULT := 0x80048000#32
def eUnsupportedVersion           : HRESULT := 0x80048001#32
def eUnknownEntryType             : HRESULT := 0x80048004#32
def eFixtureNameTooLong           : HRESULT := 0x80048005#32
def eInvalidFixtureFlag           : HRESULT := 0x80048018#32
def eUnsupportedFixtureRevision   : HRESULT := 0x80048019#32

def cfixApiTypeMin : Nat := 1
def cfixApiTypeMax : Nat := 4

/-- `CFIX_TEST_CASE`; the backpointer is to the fixture that contains it. -/
structure TestCase where
  name    : Nat
  routine : Nat
  deriving DecidableEq, Repr

/-- `CFIX_FIXTURE`. -/
structure Fixture where
  name            : CString
  setupRoutine    : Nat
  teardownRoutine : Nat
  beforeRoutine   : Nat
  afterRoutine    : Nat
  reserved        : Nat
  apiType         : Nat
  flags           : ULONG
  testModule      : Nat
  testCases       : List TestCase

def Fixture.routine (f : Fixture) : Special → Nat
  | .setup    => f.setupRoutine
  | .teardown => f.teardownRoutine
  | .before   => f.beforeRoutine
  | .after    => f.afterRoutine

def Fixture.setRoutine (f : Fixture) (routine : Nat) : Special → Fixture
  | .setup    => { f with setupRoutine := routine }
  | .teardown => { f with teardownRoutine := routine }
  | .before   => { f with beforeRoutine := routine }
  | .after    => { f with afterRoutine := routine }

/-- `FIELD_OFFSET( CFIX_FIXTURE, TestCases )`. -/
def testCasesOffset : Width → Nat
  | .w32 => 292
  | .w64 => 320

def sizeofTestCase : Width → Nat
  | .w32 => 12
  | .w64 => 24

/-- The size of a fixture with this number of test cases. -/
def sizeofFixture (w : Width) (testCaseCount : Nat) : Nat := testCasesOffset w + sizeofTestCase w * testCaseCount

/-- The bits of a `SIZE_T`. -/
def sizeBits : Width → Nat
  | .w32 => 32
  | .w64 => 64

/-- `RTL_SIZEOF_THROUGH_FIELD( CFIX_FIXTURE, TestCases[ EntryCount - 1 ] )`. The offset of the element is a `LONG`. -/
def sizeofThroughTestCase (w : Width) (entryCount : ULONG) : Nat :=
  let offset : BitVec 32 := BitVec.ofNat 32 (testCasesOffset w + sizeofTestCase w * (entryCount - 1).toNat)
  (offset.signExtend (sizeBits w) + BitVec.ofNat (sizeBits w) (sizeofTestCase w)).toNat

/-! ## Names -/

/-- `CFIX_FIXTURE_EXPORT_PREFIX_MANGLED`. -/
def mangledPrefix : Width → List UInt8
  | .w32 => UInt8.ofNat '_'.toNat :: PeImage.fixtureExportPrefix
  | .w64 => PeImage.fixtureExportPrefix

/-- `CFIX_FIXTURE_EXPORT_PREFIX_MANGLED_CCH`. -/
def mangledPrefixCch : Width → Nat
  | .w32 => PeImage.fixtureExportPrefixCch + 1
  | .w64 => PeImage.fixtureExportPrefixCch

/-- The name of an export that `CfixpIsFixtureExport` takes for a fixture. -/
structure ExportName (w : Width) where
  chars  : List UInt8
  begins : mangledPrefix w <+: chars
  longer : mangledPrefixCch w < chars.length

def errorInsufficientBuffer : ULONG := 122#32

/-- `MultiByteToWideChar` with a buffer; `decode` is the code page. -/
def multiByteToWideChar (decode : List UInt8 → CString) (text : List UInt8) (cch : Nat) : Except ULONG CString :=
  if (decode text).length < cch then .ok (decode text) else .error errorInsufficientBuffer

/-- `CfixsUnmangleName`. -/
def unmangleName (name : CString) : CString where
  chars   := name.chars.takeWhile (· ≠ 0x40#16)
  nonzero := fun c hc => name.nonzero c ((List.takeWhile_sublist _).subset hc)

/-! ## The function -/

/-- An access outside of the block. -/
inductive Fault where
  | outOfBounds
  deriving DecidableEq, Repr

/-- Why the walk ends early. -/
inductive Stop where
  | code (hr : HRESULT)
  | fault (f : Fault)
  deriving DecidableEq, Repr

/-- The loop that counts the entries; the index is a `UINT`. -/
def countEntries (entries : List DefinitionEntry) : Nat → ULONG → Option ULONG
  | 0,        _          => none
  | fuel + 1, entryCount =>
    match entries[entryCount.toNat]? with
    | some _ => countEntries entries fuel (entryCount + 1)
    | none   => some entryCount

/-- One turn of the walk, in a block of this size. -/
def addEntry (w : Width) (size : Nat) (f : Fixture) (e : DefinitionEntry) : Except Stop Fixture :=
  match entryKind e.type with
  | .special s => if f.routine s ≠ 0 then .error (.code s.duplicate) else .ok (f.setRoutine e.routine s)
  | .testcase  =>
    if sizeofFixture w (f.testCases.length + 1) ≤ size then
      .ok { f with testCases := f.testCases ++ [⟨e.name, e.routine⟩] }
    else .error (.fault .outOfBounds)
  | .unknown   => .error (.code eUnknownEntryType)

def addEntries (w : Width) (size : Nat) : Fixture → List DefinitionEntry → Except Stop Fixture
  | f, []      => .ok f
  | f, e :: es =>
    match addEntry w size f e with
    | .error stop => .error stop
    | .ok f       => addEntries w size f es

/-- What is returned, `*Fixture`, and the number of blocks that have been allocated and not freed. -/
structure Created where
  hr      : HRESULT
  fixture : Option Fixture
  blocks  : Nat

/-- The code behind the label. -/
def cleanup (hr : HRESULT) (newFixture : Bool) : Created := ⟨hr, none, if newFixture && !failed hr then 1 else 0⟩

/-- What becomes of the new fixture, a block of this size. -/
def fillFixture (w : Width) (decode : List UInt8 → CString) (exportName : ExportName w) (testModule : Nat) (d : Definition)
    (size : Nat) : Except Fault Created :=
  if size < testCasesOffset w then .error .outOfBounds
  else
    match multiByteToWideChar decode (exportName.chars.drop (mangledPrefixCch w)) cfixMaxFixtureNameCch with
    | .error err =>
      .ok (cleanup (if err = errorInsufficientBuffer then eFixtureNameTooLong else hresultFromWin32 err) true)
    | .ok name   =>
      let f : Fixture :=
        { name            := unmangleName name
          setupRoutine    := 0
          teardownRoutine := 0
          beforeRoutine   := 0
          afterRoutine    := 0
          reserved        := 0
          apiType         := d.type.toNat
          flags           := d.flags.setWidth 32
          testModule      := testModule
          testCases       := [] }
      if d.revision ≠ 0 then .ok (cleanup eUnsupportedFixtureRevision true)
      else if fixtureUsesAnonymousThreads < f.flags then .ok (cleanup eInvalidFixtureFlag true)
      else
        match addEntries w size f d.entries with
        | .error (.code hr)  => .ok (cleanup hr true)
        | .error (.fault e)  => .error e
        | .ok f              => .ok ⟨sOk, some f, 1⟩

/-- `CfixsCreateFixture`, with what the exported routine returns; `none` if the fuel is not enough to count the
    entries. -/
def createFixture (w : Width) (decode : List UInt8 → CString) (malloc : Nat → Bool) (fuel : Nat)
    (exportName : ExportName w) (testModule : Nat) (definition : Option Definition) : Option (Except Fault Created) :=
  match definition with
  | none   => some (.ok ⟨eMisbehavioudGettcRoutine, none, 0⟩)
  | some d =>
    if d.type.toNat < cfixApiTypeMin || cfixApiTypeMax < d.type.toNat then some (.ok ⟨eUnsupportedVersion, none, 0⟩)
    else
      match countEntries d.entries fuel 0#32 with
      | none            => none
      | some entryCount =>
        let size := sizeofThroughTestCase w entryCount
        if !malloc size then some (.ok (cleanup eOutofmemory false))
        else some (fillFixture w decode exportName testModule d size)

end Cfix.PeFixture
