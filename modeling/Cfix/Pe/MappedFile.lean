import Cfix.Kernel.EventDelivery
import Cfix.Lib.Definedness
import Cfix.Pe.Exports

/-!
# `Pe.MappedFile` — the query with its reads (`cfix/pequery.c`)

The query follows the offsets that it finds in a file, as its process adds them to the address of the view. A read of
a byte that is not in the file has no result here.
-/

namespace Cfix.PeImage

open Definedness
open Memory
open Cfix.Events (Width Win32Error)

/-! ## Views -/

/-- A view of a file in a process of the width: the bytes of the file, and the address of the view. -/
structure MappedFile (w : Width) where
  bytes    : Mem
  size     : Nat
  base     : Nat
  size_pos : 0 < size
  base_pos : 0 < base
  fits     : base + size ≤ 2 ^ w.bits

namespace MappedFile

variable {w : Width} (f : MappedFile w)

/-- The memory from the view on; addresses wrap around. -/
def view : Mem := fun a => f.bytes (pointer w a)

/-- The bytes are in the file. -/
def Inside (a n : Nat) : Prop := ∀ i < n, pointer w (a + i) < f.size

instance (a n : Nat) : Decidable (f.Inside a n) := inferInstanceAs (Decidable (∀ i < n, _))

/-- A pointer that may be `NULL`. -/
def nonNull (a : Nat) : Option Nat := if pointer w (f.base + a) = 0 then none else some a

/-! ## Reads -/

/-- A number that is read. -/
def load (n a : Nat) : Option Nat := if f.Inside a n then some (Memory.load n f.view a) else none

/-- Bytes that are read. -/
def read (a n : Nat) : Option (List UInt8) := if f.Inside a n then some (Memory.read f.view a n) else none

/-- The way to the terminator, in as many bytes as are left of the file. -/
def scan (m : Mem) : Nat → Nat → Option Nat
  | _, 0     => none
  | a, n + 1 => if m a = 0 then some 0 else (scan m (a + 1) n).map (· + 1)

/-- `strlen`. -/
def strlen (a : Nat) : Option Nat := scan f.bytes (pointer w a) (f.size - pointer w a)

/-- The common part of the two functions: `strlen` and `memcmp`. -/
def beginsWith (exportName : Nat) (mangled : List UInt8) (cch : Nat) : Option Bool := do
  let len ← f.strlen exportName
  if cch < len then do
    let name ← f.read exportName cch
    pure (name == mangled)
  else pure false

/-- `CfixpIsFixtureExport32`. -/
def isFixtureExport32 (exportName : Nat) : Option Bool :=
  f.beginsWith exportName (UInt8.ofNat '_'.toNat :: fixtureExportPrefix) (fixtureExportPrefixCch + 1)

/-- `CfixpIsFixtureExport64`. -/
def isFixtureExport64 (exportName : Nat) : Option Bool :=
  f.beginsWith exportName fixtureExportPrefix fixtureExportPrefixCch

/-- The test for the names of an image of the architecture. -/
def namesFixture (win64 : Width) (name : Nat) : Option Bool :=
  match win64 with
  | .w32 => f.isFixtureExport32 name
  | .w64 => f.isFixtureExport64 name

/-- One iteration of the loop over the sections. -/
def trySection (va sectionHeader : Nat) : Option (Option (Option Nat)) := do
  let virtualAddress ← f.load 4 (sectionHeader + 12)
  if virtualAddress ≤ va then do
    let virtualSize ← f.load 4 (sectionHeader + 8)
    if va < dword (virtualAddress + virtualSize) then do
      let pointerToRawData ← f.load 4 (sectionHeader + 20)
      pure (some (f.nonNull (pointer w (pointerToRawData + (va - virtualAddress)))))
    else pure none
  else pure none

/-- `CfixPtrFromVaNonRelocated`. -/
def ptrFromVaNonRelocated (ntHeader va : Nat) : Option (Option Nat) := do
  let sizeOfOptionalHeader ← f.load 2 (ntHeader + 20)
  let sectionCount ← f.load 2 (ntHeader + 6)
  let found ← search (fun i => f.trySection va (ntHeader + 24 + sizeOfOptionalHeader + 40 * i)) sectionCount 0
  pure found.join

/-- `CfixsQueryOptionalHeader`; the data directory is a pointer. -/
def queryOptionalHeader (ntHeader : Nat) : Option (Option (Nat × Width × Nat)) := do
  let magic ← f.load 2 (ntHeader + 24)
  if magic = optionalHeaderMagic .w32 then do
    let subsystem ← f.load 2 (ntHeader + 24 + 68)
    pure (some (subsystem, .w32, ntHeader + dataDirectoryOffset .w32))
  else if magic = optionalHeaderMagic .w64 then do
    let subsystem ← f.load 2 (ntHeader + 24 + 68)
    pure (some (subsystem, .w64, ntHeader + dataDirectoryOffset .w64))
  else pure none

/-- One iteration of the loop over the names. -/
def tryName (win64 : Width) (ntHeader names index : Nat) : Option (Option Unit) := do
  let va ← f.load 4 (names + 4 * index)
  let name ← f.ptrFromVaNonRelocated ntHeader va
  match name with
  | none      => pure none
  | some name => do
    let isFixture ← f.namesFixture win64 name
    pure (if isFixture then some () else none)

/-- The part of `CfixsQueryPeImage` that walks over the names, if the arrays have been located. -/
def walkNames (win64 : Width) (ntHeader exportDir : Nat) : Option Nat → Option Nat → Option Bool
  | some names, some _ => do
    let numberOfFunctions ← f.load 4 (exportDir + 20)
    if 0 < numberOfFunctions then do
      let numberOfNames ← f.load 4 (exportDir + 24)
      let found ← search (f.tryName win64 ntHeader names) numberOfNames 0
      pure found.isSome
    else pure false
  | _, _               => pure false

/-- The part that locates the arrays of the export directory. -/
def queryExportDir (win64 : Width) (ntHeader exportDir : Nat) : Option Bool := do
  let addressOfNames ← f.load 4 (exportDir + 32)
  let names ← f.ptrFromVaNonRelocated ntHeader addressOfNames
  let addressOfFunctions ← f.load 4 (exportDir + 28)
  let functions ← f.ptrFromVaNonRelocated ntHeader addressOfFunctions
  f.walkNames win64 ntHeader exportDir names functions

/-- The part of `CfixsQueryPeImage` that looks for the exports. -/
def queryExports (win64 : Width) (ntHeader dirVa : Nat) : Option Bool := do
  let exportDir ← f.ptrFromVaNonRelocated ntHeader dirVa
  match exportDir with
  | none           => pure false
  | some exportDir => f.queryExportDir win64 ntHeader exportDir

/-- `CfixsQueryPeImage`, on top of the machine type. -/
def queryNtHeader (ntHeader : Nat) : Option (Except HRESULT ModuleInfo) := do
  let machine ← f.load 2 (ntHeader + 4)
  let optionalHeader ← f.queryOptionalHeader ntHeader
  match optionalHeader with
  | none                         => pure (.error eBadExeFormat)
  | some (subsystem, win64, dir) => do
    let characteristics ← f.load 2 (ntHeader + 22)
    let dirVa ← f.load 4 dir
    let present ← f.queryExports win64 ntHeader dirVa
    pure (.ok
      { machineType           := machine
        subsystem             := subsystem
        fixtureExportsPresent := present
        moduleType            :=
          if characteristics &&& imageFileDll ≠ 0 then .dll
          else if subsystem = imageSubsystemNative then .driver
          else .exe })

/-- The part of `CfixQueryPeImage` that reads the file. -/
def queryDosHeader : Option (Except HRESULT ModuleInfo) := do
  let magic ← f.load 2 0
  if magic ≠ imageDosSignature then pure (.error eBadExeFormat)
  else do
    let eLfanew ← f.load 4 60
    let signature ← f.load 4 (long w eLfanew)
    if signature ≠ imageNtSignature then pure (.error eBadExeFormat) else f.queryNtHeader (long w eLfanew)

end MappedFile

/-- `CfixQueryPeImage`, with its reads. `mapFile` opens and maps the file; `sizeOfStruct` is that of `Info`. -/
def queryMappedFile {w : Width} (mapFile : String → Except Win32Error (MappedFile w)) (path : Option String)
    (sizeOfStruct : Option Nat) : Option (Except HRESULT ModuleInfo) :=
  match path, sizeOfStruct with
  | some path, some size =>
    if size ≠ sizeofModuleInfo then some (.error eInvalidarg)
    else
      match mapFile path with
      | .error e => some (.error (hresultFromWin32 e.code))
      | .ok f    => f.queryDosHeader
  | _, _                 => some (.error eInvalidarg)

end Cfix.PeImage
