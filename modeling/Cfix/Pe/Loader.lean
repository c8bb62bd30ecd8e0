import Cfix.Kernel.CallRoutine
import Cfix.Pe.Agreement

/-!
# `Pe.Loader` — the walks over the exports of a loaded image (`cfix/pe.c`, `cfixkr/drvtestadp.c`)

`CfixsLoadFixturesFromPeImage` collects fixtures in an array that it enlarges, and frees them if it fails. The walk of the
kernel has an array that is large enough. What becomes of an export is up to a host.
-/

namespace Cfix.PeLoader

open Memory PeImage
open Events (Width ntSuccess)
open Unload (NTSTATUS statusSuccess)

def sizeofPointer : Width → Nat
  | .w32 => 4
  | .w64 => 8

/-- The turn of a name, and what is made a fixture in it. -/
structure Turn where
  index  : Nat
  passed : Export
  deriving DecidableEq, Repr

/-- The heap, and `CfixsCreateFixture` for the fixture that has this index. -/
structure LoadHost (φ : Type) where
  dbg           : Bool
  malloc        : Nat → Bool
  realloc       : Nat → Bool
  create        : Nat → Export → Except HRESULT φ
  create_failed : ∀ k x hr, create k x = .error hr → failed hr = true

/-- An access outside of the array, or after it has been freed. -/
inductive Fault where
  | outOfBounds
  | afterFree
  deriving DecidableEq, Repr

/-- Why the walk goes to the label. -/
inductive Stop where
  | code (hr : HRESULT)
  | fault (f : Fault)
  deriving DecidableEq, Repr

/-! ## The loader -/

section Loader

variable {φ : Type} (w : Width) (image : Mem) (host : LoadHost φ)

/-- The initial value of `AllocatedFixtures`. -/
def LoadHost.allocatedFixtures : Nat := if host.dbg then 1 else 16

/-- `AllocatedFixtures * sizeof( PCFIX_FIXTURE )`. -/
def arrayBytes (allocated : Nat) : Nat := pointer w (allocated * sizeofPointer w)

/-- An export becomes a fixture. `realloc` with the size 0 frees the array and returns `NULL`, and the array is read at
    the label. -/
def addFixture (allocated : Nat) (fixtures : List φ) (x : Export) : Except Stop (Nat × List φ) :=
  let full : Bool := fixtures.length == allocated
  let allocated := if full then dword (allocated * 2) else allocated
  if full && arrayBytes w allocated == 0 then .error (.fault .afterFree)
  else if full && !host.realloc (arrayBytes w allocated) then .error (.code eOutofmemory)
  else if arrayBytes w allocated < (fixtures.length + 1) * sizeofPointer w then .error (.fault .outOfBounds)
  else
    match host.create fixtures.length x with
    | .error hr   => .error (.code hr)
    | .ok fixture => .ok (allocated, fixtures ++ [fixture])

/-- Where the walk has got to: `FixturePtrArray`, and the turns in which a fixture was to be created. -/
structure Walk (φ : Type) where
  stop     : Option Stop
  fixtures : List φ
  turns    : List Turn

/-- The loop over the names. -/
def walkExports (dir : DataDirectory) (e : ExportDirectory) : Nat → Nat → Nat → List φ → Walk φ
  | 0,     _,     _,         fixtures => ⟨none, fixtures, []⟩
  | n + 1, index, allocated, fixtures =>
    let name := exportName w image e index
    let funcRva := functionRva w image e index
    if dir.isForwarder funcRva then walkExports dir e n (index + 1) allocated fixtures
    else if isFixtureExport w image name then
      let x : Export := ⟨name, pointer w funcRva⟩
      match addFixture w host allocated fixtures x with
      | .error stop               => ⟨some stop, fixtures, [⟨index, x⟩]⟩
      | .ok (allocated, fixtures) =>
        let r := walkExports dir e n (index + 1) allocated fixtures
        { r with turns := ⟨index, x⟩ :: r.turns }
    else walkExports dir e n (index + 1) allocated fixtures

/-- What is returned, the fixtures that the module gets, those that have not been freed, and whether the array has not. -/
structure LoadedModule (φ : Type) where
  hr         : HRESULT
  testModule : Option (List φ)
  live       : List φ
  array      : Bool
  turns      : List Turn

/-- The loop that frees the fixtures. -/
def deleteFixtures : Nat → List φ → List φ
  | 0,     live => live
  | n + 1, live => deleteFixtures n live.tail

/-- The code behind the label, where there is an array. -/
def cleanup (hr : HRESULT) (fixtures : List φ) (turns : List Turn) : LoadedModule φ :=
  if failed hr then ⟨hr, none, deleteFixtures fixtures.length fixtures, false, turns⟩
  else ⟨hr, none, fixtures, true, turns⟩

/-- `CfixsLoadFixturesFromPeImage`. -/
def loadFixturesFromPeImage : Except Fault (LoadedModule φ) :=
  if !host.malloc (arrayBytes w host.allocatedFixtures) then .ok ⟨eOutofmemory, none, [], false, []⟩
  else if load 4 image (eLfanew image) ≠ imageNtSignature then .ok (cleanup eBadExeFormat [] [])
  else
    let dir := exportDataDir w image (eLfanew image)
    let e := ExportDirectory.load image dir.virtualAddress
    if e.numberOfFunctions > 0 then
      let r := walkExports w image host dir e e.numberOfNames 0 host.allocatedFixtures []
      match r.stop with
      | none            => .ok ⟨sOk, some r.fixtures, r.fixtures, true, r.turns⟩
      | some (.code hr) => .ok (cleanup hr r.fixtures r.turns)
      | some (.fault f) => .error f
    else .ok ⟨sOk, some [], [], true, []⟩

end Loader

/-! ## The kernel -/

/-- `CfixkrsInitializeFixture` for the entry that has this index. -/
structure KernelHost (ψ : Type) where
  initializeFixture        : Nat → Export → Except NTSTATUS ψ
  initializeFixture_failed : ∀ k x status, initializeFixture k x = .error status → ntSuccess status = false

section Kernel

variable {ψ : Type} (w : Width) (image : Mem) (host : KernelHost ψ)

/-- The status, the fixtures of the adapter, and the turns in which a fixture was to be initialised. -/
structure KernelWalk (ψ : Type) where
  status  : NTSTATUS
  entries : List ψ
  turns   : List Turn

/-- The loop over the names. The array has an entry for each name. -/
def kernelWalkNames (dir : DataDirectory) (e : ExportDirectory) : Nat → Nat → List ψ → KernelWalk ψ
  | 0,     _,     entries => ⟨statusSuccess, entries, []⟩
  | n + 1, index, entries =>
    let name := exportName w image e index
    let funcRva := functionRva w image e index
    if dir.isForwarder funcRva then kernelWalkNames dir e n (index + 1) entries
    else if isFixtureExport w image name then
      let x : Export := ⟨name, pointer w funcRva⟩
      match host.initializeFixture entries.length x with
      | .error status => ⟨status, entries, [⟨index, x⟩]⟩
      | .ok entry     =>
        let r := kernelWalkNames dir e n (index + 1) (entries ++ [entry])
        { r with turns := ⟨index, x⟩ :: r.turns }
    else kernelWalkNames dir e n (index + 1) entries

/-- `CfixkrsWalkExportDirectoryAndExtractFixtures`. -/
def walkExportDirectoryAndExtractFixtures (dir : DataDirectory) (e : ExportDirectory) : KernelWalk ψ :=
  if e.addressOfNames = 0 ∨ e.addressOfFunctions = 0 ∨ e.addressOfNameOrdinals = 0 then ⟨statusSuccess, [], []⟩
  else kernelWalkNames w image host dir e e.numberOfNames 0 []

end Kernel

end Cfix.PeLoader
