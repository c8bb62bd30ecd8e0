import Cfix.Base.Strsafe
import Cfix.Pe.Image

/-!
# `Pe.Exports` — the two walks over the exports of an image (`cfix/pequery.c`, `cfix/pe.c`)

`CfixQueryPeImage` walks over the names in the mapped file and translates each RVA with the section table.
`CfixsLoadFixturesFromPeImage` walks over the names, ordinals and functions of the loaded image, and creates a
fixture for each export that it takes for one. The loader is built for one architecture, the query reads both.
-/

namespace Cfix.PeImage

open Memory
open Cfix.Events (Width)

/-- A sum of `ULONG`s. -/
def dword (n : Nat) : Nat := n % 2 ^ 32

/-- A sum in a pointer of the process. -/
def pointer : Width → Nat → Nat
  | .w32, n => n % 2 ^ 32
  | .w64, n => n % 2 ^ 64

/-- A `LONG` that is added to a pointer. -/
def long : Width → Nat → Nat
  | .w32, n => n
  | .w64, n => if n < 2 ^ 31 then n else n + (2 ^ 64 - 2 ^ 32)

/-! ## Names of fixtures -/

/-- `CFIX_FIXTURE_EXPORT_PREFIX`. -/
def fixtureExportPrefix : List UInt8 :=
  ['_', '_', 'C', 'f', 'i', 'x', 'F', 'i', 'x', 't', 'u', 'r', 'e', 'P', 'e'].map fun c => UInt8.ofNat c.toNat

def fixtureExportPrefixCch : Nat := 15

/-- `strlen( s ) > n`: none of the first `n + 1` bytes is the terminator. -/
def strlenGt (m : Mem) (a n : Nat) : Bool := (read m a (n + 1)).all fun b => b != 0

/-- The common part of the two functions: `strlen` and `memcmp`. -/
def beginsWith (m : Mem) (exportName : Nat) (mangled : List UInt8) (cch : Nat) : Bool :=
  strlenGt m exportName cch && read m exportName cch == mangled

/-- `CfixpIsFixtureExport32`. -/
def isFixtureExport32 (m : Mem) (exportName : Nat) : Bool :=
  beginsWith m exportName (UInt8.ofNat '_'.toNat :: fixtureExportPrefix) (fixtureExportPrefixCch + 1)

/-- `CfixpIsFixtureExport64`. -/
def isFixtureExport64 (m : Mem) (exportName : Nat) : Bool :=
  beginsWith m exportName fixtureExportPrefix fixtureExportPrefixCch

/-- `CfixpIsFixtureExport`, which is the one for the architecture. -/
def isFixtureExport : Width → Mem → Nat → Bool
  | .w32 => isFixtureExport32
  | .w64 => isFixtureExport64

/-! ## Query -/

/-- The loop over the sections. `CfixPtrFromRva` does not put its arguments in parentheses, so the two summands are added
    to the pointer one after the other. -/
def lookupSection (w : Width) : List SectionHeader → Nat → Option Nat
  | [], _       => none
  | s :: ss, va =>
    if s.virtualAddress ≤ va ∧ va < dword (s.virtualAddress + s.virtualSize) then
      some (pointer w (s.pointerToRawData + (va - s.virtualAddress)))
    else lookupSection w ss va

/-- `CfixPtrFromVaNonRelocated`. -/
def ptrFromVaNonRelocated (w : Width) (file : Mem) (ntHeader va : Nat) : Option Nat :=
  lookupSection w (sectionHeaders file ntHeader) va

/-- `CfixsQueryOptionalHeader`: the subsystem, `Win64` and the data directory. -/
def queryOptionalHeader (file : Mem) (ntHeader : Nat) : Option (Nat × Width × DataDirectory) :=
  if magic file ntHeader = optionalHeaderMagic .w32 then
    some (subsystem file ntHeader, .w32, exportDataDir .w32 file ntHeader)
  else if magic file ntHeader = optionalHeaderMagic .w64 then
    some (subsystem file ntHeader, .w64, exportDataDir .w64 file ntHeader)
  else none

/-- The loop over the names: an export has the name of a fixture. -/
def findFixtureName (w win64 : Width) (file : Mem) (ntHeader names : Nat) : Nat → Nat → Bool
  | 0, _         => false
  | n + 1, index =>
    match ptrFromVaNonRelocated w file ntHeader (load 4 file (pointer w (names + 4 * index))) with
    | some name => if isFixtureExport win64 file name then true
                   else findFixtureName w win64 file ntHeader names n (index + 1)
    | none      => findFixtureName w win64 file ntHeader names n (index + 1)

/-- The part of `CfixsQueryPeImage` that looks for the exports. The functions are located, but not read. -/
def queryExports (w win64 : Width) (file : Mem) (ntHeader : Nat) (dir : DataDirectory) : Bool :=
  match ptrFromVaNonRelocated w file ntHeader dir.virtualAddress with
  | none           => false
  | some exportDir =>
    let e := ExportDirectory.load file exportDir
    match ptrFromVaNonRelocated w file ntHeader e.addressOfNames,
        ptrFromVaNonRelocated w file ntHeader e.addressOfFunctions with
    | some names, some _ =>
      if e.numberOfFunctions > 0 then findFixtureName w win64 file ntHeader names e.numberOfNames 0 else false
    | _, _               => false

/-- `CFIX_MODULE_TYPE`. -/
inductive ModuleType where
  | dll
  | exe
  | driver
  deriving DecidableEq, Repr

/-- `CFIX_MODULE_INFO`. -/
structure ModuleInfo where
  machineType           : Nat
  subsystem             : Nat
  fixtureExportsPresent : Bool
  moduleType            : ModuleType
  deriving DecidableEq, Repr

def sizeofModuleInfo : Nat := 16

def imageFileDll         : Nat := 0x2000
def imageSubsystemNative : Nat := 1

/-- `HRESULT_FROM_WIN32( ERROR_BAD_EXE_FORMAT )`. -/
def eBadExeFormat : HRESULT := hresultFromWin32 193#32

/-- `CfixsQueryPeImage`, on top of the machine type. -/
def queryNtHeader (w : Width) (file : Mem) (ntHeader : Nat) : Except HRESULT ModuleInfo :=
  match queryOptionalHeader file ntHeader with
  | none                          => .error eBadExeFormat
  | some (subsystem, win64, dir) =>
    let header := FileHeader.load file ntHeader
    .ok
      { machineType           := header.machine
        subsystem             := subsystem
        fixtureExportsPresent := queryExports w win64 file ntHeader dir
        moduleType            :=
          if header.characteristics &&& imageFileDll ≠ 0 then .dll
          else if subsystem = imageSubsystemNative then .driver
          else .exe }

/-- `CfixQueryPeImage`. `mapFile` opens and maps the file; `sizeOfStruct` is that of `Info`, if there is one. -/
def queryPeImage (w : Width) (mapFile : String → Except HRESULT Mem) (path : Option String)
    (sizeOfStruct : Option Nat) : Except HRESULT ModuleInfo :=
  match path, sizeOfStruct with
  | some path, some size =>
    if size ≠ sizeofModuleInfo then .error eInvalidarg
    else
      match mapFile path with
      | .error hr => .error hr
      | .ok file  =>
        if load 2 file 0 ≠ imageDosSignature then .error eBadExeFormat
        else
          let ntHeader := long w (eLfanew file)
          if load 4 file ntHeader ≠ imageNtSignature then .error eBadExeFormat else queryNtHeader w file ntHeader
  | _, _                 => .error eInvalidarg

/-! ## Loader -/

/-- The forwarders are the exports whose function RVA is inside of the export directory. -/
def DataDirectory.isForwarder (dir : DataDirectory) (funcRva : Nat) : Bool :=
  decide (dir.virtualAddress ≤ funcRva ∧ funcRva < dword (dir.virtualAddress + dir.size))

/-- `Ordinal - ExportDir->Base`, where `Ordinal` is the `WORD` that is the sum of two `WORD`s. -/
def functionIndex (nameOrdinal base : Nat) : Nat :=
  let ordinal := (nameOrdinal + base % 2 ^ 16) % 2 ^ 16
  dword (ordinal + (2 ^ 32 - base))

section Loader

variable (w : Width) (image : Mem)

/-- `Name`. -/
def exportName (e : ExportDirectory) (index : Nat) : Nat :=
  pointer w (load 4 image (pointer w (e.addressOfNames + 4 * index)))

/-- `FuncRva`. -/
def functionRva (e : ExportDirectory) (index : Nat) : Nat :=
  let nameOrdinal := load 2 image (pointer w (e.addressOfNameOrdinals + 2 * index))
  load 4 image (pointer w (e.addressOfFunctions + 4 * functionIndex nameOrdinal e.base))

/-- What `CfixsCreateFixture` gets: the addresses of a name and of a routine. -/
structure Export where
  name    : Nat
  routine : Nat
  deriving DecidableEq, Repr

/-- What the walk does not decide: the allocations, and what becomes of an export (`CfixsCreateFixture` calls its
    routine). -/
structure LoaderEnvironment (φ : Type) where
  dbg           : Bool
  malloc        : Bool
  realloc       : Nat → Bool
  createFixture : Export → Except HRESULT φ

/-- The fixtures, and the exports that have been treated as fixtures. -/
structure LoadResult (φ : Type) where
  fixtures : Except HRESULT (List φ)
  treated  : List Export

variable {φ : Type} (env : LoaderEnvironment φ)

/-- An export becomes a fixture: `AllocatedFixtures` and the array afterwards. -/
def LoaderEnvironment.addFixture (allocated : Nat) (fixtures : List φ) (x : Export) : Except HRESULT (Nat × List φ) :=
  let full : Bool := fixtures.length == allocated
  let allocated := if full then dword (allocated * 2) else allocated
  if full && !env.realloc allocated then .error eOutofmemory
  else (env.createFixture x).map fun fixture => (allocated, fixtures ++ [fixture])

/-- The loop over the names; `allocated` is `AllocatedFixtures`. -/
def loadExports (dir : DataDirectory) (e : ExportDirectory) : Nat → Nat → Nat → List φ → LoadResult φ
  | 0, _, _, fixtures                 => ⟨.ok fixtures, []⟩
  | n + 1, index, allocated, fixtures =>
    let name := exportName w image e index
    let funcRva := functionRva w image e index
    if dir.isForwarder funcRva then loadExports dir e n (index + 1) allocated fixtures
    else if isFixtureExport w image name then
      let x : Export := ⟨name, pointer w funcRva⟩
      match env.addFixture allocated fixtures x with
      | .error hr                   => ⟨.error hr, [x]⟩
      | .ok (allocated, fixtures) =>
        let r := loadExports dir e n (index + 1) allocated fixtures
        ⟨r.fixtures, x :: r.treated⟩
    else loadExports dir e n (index + 1) allocated fixtures

/-- `CfixsLoadFixturesFromPeImage`. -/
def loadFixturesFromPeImage : LoadResult φ :=
  if !env.malloc then ⟨.error eOutofmemory, []⟩
  else if load 4 image (eLfanew image) ≠ imageNtSignature then ⟨.error eBadExeFormat, []⟩
  else
    let dir := exportDataDir w image (eLfanew image)
    let e := ExportDirectory.load image dir.virtualAddress
    if e.numberOfFunctions > 0 then
      loadExports w image env dir e e.numberOfNames 0 (if env.dbg then 1 else 16) []
    else ⟨.ok [], []⟩

end Loader

end Cfix.PeImage
