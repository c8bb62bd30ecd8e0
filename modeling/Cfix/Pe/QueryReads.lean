import Cfix.Pe.Agreement
import Cfix.Pe.MappedFile

/-!
# `Pe.QueryReads` — which files the query reads beyond

A file is contained if everything that the query comes to is in it: the headers, the section headers up to the one
that an address is looked for in, the export directory, and its names up to the first one of a fixture. These are the
files that the query reads without going beyond.
-/

namespace Cfix.PeImage

open Definedness
open Memory
open Cfix.Events (Width Win32Error)

/-! ## What has to be in the file -/

/-- The address is in the section, as the query computes it. -/
def SectionHeader.Covers (s : SectionHeader) (va : Nat) : Prop :=
  s.virtualAddress ≤ va ∧ va < dword (s.virtualAddress + s.virtualSize)

instance (s : SectionHeader) (va : Nat) : Decidable (s.Covers va) := inferInstanceAs (Decidable (_ ∧ _))

namespace MappedFile

section Contained

variable {w : Width} (f : MappedFile w)

/-- What is read of a section header. -/
structure HeaderInside (va sectionHeader : Nat) : Prop where
  virtualAddress   : f.Inside (sectionHeader + 12) 4
  virtualSize      : (SectionHeader.load f.view sectionHeader).virtualAddress ≤ va → f.Inside (sectionHeader + 8) 4
  pointerToRawData : (SectionHeader.load f.view sectionHeader).Covers va → f.Inside (sectionHeader + 20) 4

/-- A section header of the file. -/
def sectionHeader (ntHeader i : Nat) : Nat := firstSection f.view ntHeader + 40 * i

/-- The section headers, up to the one of the section that the address is in. -/
structure LookupInside (ntHeader va : Nat) : Prop where
  sizeOfOptionalHeader : f.Inside (ntHeader + 20) 2
  numberOfSections     : f.Inside (ntHeader + 6) 2
  headers              : ∀ i < (FileHeader.load f.view ntHeader).numberOfSections,
    (∀ j < i, ¬ (SectionHeader.load f.view (f.sectionHeader ntHeader j)).Covers va) →
      f.HeaderInside va (f.sectionHeader ntHeader i)

/-- Where the file has the bytes of the address, unless the pointer is `NULL`. -/
def located (ntHeader va : Nat) : Option Nat := (PeImage.ptrFromVaNonRelocated w f.view ntHeader va).bind f.nonNull

/-- A zero-terminated string. -/
def Terminated (a : Nat) : Prop := ∃ len, pointer w a + len < f.size ∧ f.bytes (pointer w a + len) = 0

/-- The address of a name. -/
def nameVa (names i : Nat) : Nat := Memory.load 4 f.view (names + 4 * i)

structure NameInside (ntHeader names i : Nat) : Prop where
  va         : f.Inside (names + 4 * i) 4
  lookup     : f.LookupInside ntHeader (f.nameVa names i)
  terminated : ∀ name, f.located ntHeader (f.nameVa names i) = some name → f.Terminated name

def isFixtureName (win64 : Width) (ntHeader names i : Nat) : Bool :=
  (f.located ntHeader (f.nameVa names i)).any (isFixtureExport win64 f.view)

/-- The names, up to the first one of a fixture. -/
def NamesInside (win64 : Width) (ntHeader names numberOfNames : Nat) : Prop :=
  ∀ i < numberOfNames, (∀ j < i, f.isFixtureName win64 ntHeader names j = false) → f.NameInside ntHeader names i

/-- An export has the name of a fixture. -/
def namesPresent (win64 : Width) (ntHeader exportDir : Nat) : Option Nat → Option Nat → Bool
  | some names, some _ =>
    if 0 < (ExportDirectory.load f.view exportDir).numberOfFunctions then
      (List.range (ExportDirectory.load f.view exportDir).numberOfNames).any (f.isFixtureName win64 ntHeader names)
    else false
  | _, _               => false

def exportDirPresent (win64 : Width) (ntHeader exportDir : Nat) : Bool :=
  f.namesPresent win64 ntHeader exportDir
    (f.located ntHeader (ExportDirectory.load f.view exportDir).addressOfNames)
    (f.located ntHeader (ExportDirectory.load f.view exportDir).addressOfFunctions)

def exportsPresent (win64 : Width) (ntHeader dirVa : Nat) : Bool :=
  match f.located ntHeader dirVa with
  | some exportDir => f.exportDirPresent win64 ntHeader exportDir
  | none           => false

/-- What is read once both arrays have been located. -/
def WalkInside (win64 : Width) (ntHeader exportDir : Nat) (names functions : Option Nat) : Prop :=
  ∀ n fn, names = some n → functions = some fn →
    f.Inside (exportDir + 20) 4 ∧ (0 < (ExportDirectory.load f.view exportDir).numberOfFunctions →
      f.Inside (exportDir + 24) 4 ∧
        f.NamesInside win64 ntHeader n (ExportDirectory.load f.view exportDir).numberOfNames)

/-- The export directory, and the names in it. -/
structure ExportsInside (win64 : Width) (ntHeader exportDir : Nat) : Prop where
  addressOfNames     : f.Inside (exportDir + 32) 4
  addressOfFunctions : f.Inside (exportDir + 28) 4
  namesLookup        : f.LookupInside ntHeader (ExportDirectory.load f.view exportDir).addressOfNames
  functionsLookup    : f.LookupInside ntHeader (ExportDirectory.load f.view exportDir).addressOfFunctions
  walk               : f.WalkInside win64 ntHeader exportDir
    (f.located ntHeader (ExportDirectory.load f.view exportDir).addressOfNames)
    (f.located ntHeader (ExportDirectory.load f.view exportDir).addressOfFunctions)

/-- The optional header, up to the export directory. -/
structure OptionalHeaderInside (win64 : Width) (ntHeader : Nat) : Prop where
  subsystem       : f.Inside (ntHeader + 24 + 68) 2
  characteristics : f.Inside (ntHeader + 22) 2
  directory       : f.Inside (ntHeader + dataDirectoryOffset win64) 4
  lookup          : f.LookupInside ntHeader (exportDataDir win64 f.view ntHeader).virtualAddress
  exports         : ∀ exportDir,
    f.located ntHeader (exportDataDir win64 f.view ntHeader).virtualAddress = some exportDir →
      f.ExportsInside win64 ntHeader exportDir

structure NtHeaderInside (ntHeader : Nat) : Prop where
  machine  : f.Inside (ntHeader + 4) 2
  magic    : f.Inside (ntHeader + 24) 2
  optional : ∀ win64, PeImage.magic f.view ntHeader = optionalHeaderMagic win64 →
    f.OptionalHeaderInside win64 ntHeader

/-- Everything that the query comes to is in the file. -/
structure Contained : Prop where
  magic     : f.Inside 0 2
  eLfanew   : Memory.load 2 f.view 0 = imageDosSignature → f.Inside 60 4
  signature : Memory.load 2 f.view 0 = imageDosSignature → f.Inside (long w (PeImage.eLfanew f.view)) 4
  ntHeader  : Memory.load 2 f.view 0 = imageDosSignature →
    Memory.load 4 f.view (long w (PeImage.eLfanew f.view)) = imageNtSignature →
      f.NtHeaderInside (long w (PeImage.eLfanew f.view))

/-- The result for an image of the architecture. -/
def moduleInfo (win64 : Width) (ntHeader : Nat) : ModuleInfo where
  machineType           := (FileHeader.load f.view ntHeader).machine
  subsystem             := PeImage.subsystem f.view ntHeader
  fixtureExportsPresent := f.exportsPresent win64 ntHeader (exportDataDir win64 f.view ntHeader).virtualAddress
  moduleType            :=
    if (FileHeader.load f.view ntHeader).characteristics &&& imageFileDll ≠ 0 then .dll
    else if PeImage.subsystem f.view ntHeader = imageSubsystemNative then .driver
    else .exe

end Contained

/-! ## What the reads are defined for -/

section Defined

variable {w : Width} {f : MappedFile w}

theorem definedIff_load (n a : Nat) : DefinedIff (f.load n a) (f.Inside a n) (Memory.load n f.view a) :=
  definedIff_access _

/-- One section, and the pointer into it. -/
theorem definedIff_trySection (va a : Nat) :
    DefinedIff (f.trySection va a) (f.HeaderInside va a)
      (if (SectionHeader.load f.view a).Covers va then
        some (f.nonNull (pointer w ((SectionHeader.load f.view a).pointerToRawData
          + (va - (SectionHeader.load f.view a).virtualAddress))))
      else none) := by
  have hparts : DefinedIff (f.trySection va a) _ _ :=
    (definedIff_load 4 (a + 12)).bind fun _ =>
      .ite (fun _ => (definedIff_load 4 (a + 8)).bind fun _ =>
          .ite (fun _ => (definedIff_load 4 (a + 20)).bind fun _ => definedIff_pure _) (fun _ => definedIff_pure _))
        (fun _ => definedIff_pure _)
  apply hparts.congr
  · constructor
    · rintro ⟨hva, hrest, -⟩
      exact ⟨hva, fun hle => (hrest hle).1, fun hcovers => ((hrest hcovers.1).2.1 hcovers.2).1⟩
    · rintro ⟨hva, hsize, hraw⟩
      refine ⟨hva, fun hle => ⟨hsize hle, fun hlt => ?_, fun _ => trivial⟩, fun _ => trivial⟩
      exact ⟨hraw ⟨hle, hlt⟩, trivial⟩
  · intro _
    split
    · rename_i hle
      split
      · rename_i hlt
        exact (if_pos ⟨hle, hlt⟩).symm
      · rename_i hlt
        exact (if_neg (fun hcovers => hlt hcovers.2)).symm
    · rename_i hle
      exact (if_neg (fun hcovers => hle hcovers.1)).symm

/-- The loop over the sections finds what the first section that covers the address gives. -/
theorem join_findSome? {α : Type} (g : α → SectionHeader) (l : List α) (va : Nat) :
    (l.findSome? fun a => if (g a).Covers va then
        some (f.nonNull (pointer w ((g a).pointerToRawData + (va - (g a).virtualAddress)))) else none).join
      = (lookupSection w (l.map g) va).bind f.nonNull := by
  induction l with
  | nil => rfl
  | cons a l ih =>
      rw [List.findSome?_cons, List.map_cons, lookupSection]
      by_cases hcovers : (g a).Covers va
      · simp only [if_pos hcovers]
        rw [if_pos (show _ ∧ _ from hcovers)]
        rfl
      · simp only [if_neg hcovers]
        rw [if_neg (show ¬ (_ ∧ _) from hcovers)]
        exact ih

theorem definedIff_ptrFromVaNonRelocated (ntHeader va : Nat) :
    DefinedIff (f.ptrFromVaNonRelocated ntHeader va) (f.LookupInside ntHeader va) (f.located ntHeader va) := by
  have hparts : DefinedIff (f.ptrFromVaNonRelocated ntHeader va) _ _ :=
    (definedIff_load 2 (ntHeader + 20)).bind fun _ => (definedIff_load 2 (ntHeader + 6)).bind fun _ =>
      (definedIff_search (fun i => definedIff_trySection va (f.sectionHeader ntHeader i)) _ 0).bind fun _ =>
        definedIff_pure _
  apply hparts.congr
  · constructor
    · rintro ⟨hoptional, hsections, hheaders, -⟩
      refine ⟨hoptional, hsections, fun i hi hbefore => ?_⟩
      rw [← Nat.zero_add i]
      apply hheaders i hi
      intro j hj
      rw [Nat.zero_add]
      exact if_neg (hbefore j hj)
    · rintro ⟨hoptional, hsections, hheaders⟩
      refine ⟨hoptional, hsections, fun i hi hbefore => ?_, trivial⟩
      rw [Nat.zero_add]
      apply hheaders i hi
      intro j hj hcovers
      have hnone := hbefore j hj
      rw [Nat.zero_add, if_pos hcovers] at hnone
      cases hnone
  · intro _
    rw [← List.range_eq_range']
    exact join_findSome? (fun i => SectionHeader.load f.view (f.sectionHeader ntHeader i)) _ va

/-! ### Names -/

theorem scan_eq_some {m : Mem} {a n len : Nat} (h : scan m a n = some len) : len < n ∧ CString m a len := by
  induction n generalizing a len with
  | zero => cases h
  | succ n ih =>
      rw [scan] at h
      split at h
      · rename_i hzero
        obtain rfl := Option.some.inj h
        exact ⟨Nat.succ_pos n, hzero, fun i hi => absurd hi (Nat.not_lt_zero i)⟩
      · rename_i hne
        obtain ⟨len, hlen, rfl⟩ := Option.map_eq_some_iff.mp h
        obtain ⟨hlt, hend, hbefore⟩ := ih hlen
        refine ⟨Nat.succ_lt_succ hlt, ?_, fun i hi => ?_⟩
        · rw [show a + (len + 1) = a + 1 + len by omega]
          exact hend
        · cases i with
          | zero => exact hne
          | succ i =>
              rw [show a + (i + 1) = a + 1 + i by omega]
              exact hbefore i (Nat.lt_of_succ_lt_succ hi)

theorem scan_eq_none {m : Mem} {a n : Nat} (h : scan m a n = none) : ∀ i < n, m (a + i) ≠ 0 := by
  induction n generalizing a with
  | zero => exact fun i hi => absurd hi (Nat.not_lt_zero i)
  | succ n ih =>
      rw [scan] at h
      split at h
      · cases h
      · rename_i hne
        intro i hi
        cases i with
        | zero => exact hne
        | succ i =>
            rw [show a + (i + 1) = a + 1 + i by omega]
            exact ih (Option.map_eq_none_iff.mp h) i (Nat.lt_of_succ_lt_succ hi)

theorem pointer_eq_mod (w : Width) (n : Nat) : pointer w n = n % 2 ^ w.bits := by
  cases w with
  | w32 => rfl
  | w64 => rfl

theorem size_lt (f : MappedFile w) : f.size < 2 ^ w.bits := by
  have hfits := f.fits
  have hbase := f.base_pos
  omega

/-- From an address in the file on, addresses do not wrap around in the file. -/
theorem pointer_add {a i : Nat} (h : pointer w a + i < f.size) : pointer w (a + i) = pointer w a + i := by
  have hsize := f.size_lt
  rw [pointer_eq_mod] at h ⊢
  rw [pointer_eq_mod, ← Nat.mod_add_mod]
  exact Nat.mod_eq_of_lt (by omega)

/-- Up to its terminator, a string in the file is what the process sees. -/
theorem cstring_view {a len : Nat} (hlt : pointer w a + len < f.size) (h : CString f.bytes (pointer w a) len) :
    CString f.view a len := by
  constructor
  · rw [view, pointer_add hlt]
    exact h.1
  · intro i hi
    rw [view, pointer_add (f := f) (by omega)]
    exact h.2 i hi

theorem definedIff_beginsWith (a : Nat) (mangled : List UInt8) (cch : Nat) :
    DefinedIff (f.beginsWith a mangled cch) (f.Terminated a) (PeImage.beginsWith f.view a mangled cch) := by
  unfold beginsWith
  cases hlen : f.strlen a with
  | none =>
      have hnot : ¬ f.Terminated a := by
        rintro ⟨len, hlt, hzero⟩
        exact scan_eq_none hlen len (by omega) hzero
      exact ⟨fun h => absurd h hnot, fun _ => rfl⟩
  | some len =>
      obtain ⟨hlt, hstring⟩ := scan_eq_some hlen
      have hview := cstring_view (f := f) (by omega) hstring
      have hterminated : f.Terminated a := ⟨len, by omega, hstring.1⟩
      refine ⟨fun _ => ?_, fun hnot => absurd hterminated hnot⟩
      show (if cch < len then _ else _) = _
      unfold PeImage.beginsWith
      split
      · rename_i hcch
        have hinside : f.Inside a cch := by
          intro i hi
          rw [pointer_add (f := f) (by omega)]
          omega
        have hread : f.read a cch = some (Memory.read f.view a cch) := if_pos hinside
        rw [hread, (hview.strlenGt_iff cch).mpr hcch, Bool.true_and]
        rfl
      · rename_i hcch
        have hgt : strlenGt f.view a cch = false := Bool.eq_false_iff.mpr (mt (hview.strlenGt_iff cch).mp hcch)
        rw [hgt, Bool.false_and]
        rfl

theorem definedIff_namesFixture (win64 : Width) (name : Nat) :
    DefinedIff (f.namesFixture win64 name) (f.Terminated name) (isFixtureExport win64 f.view name) := by
  cases win64 with
  | w32 => exact definedIff_beginsWith name _ _
  | w64 => exact definedIff_beginsWith name _ _

theorem definedIff_tryName (win64 : Width) (ntHeader names i : Nat) :
    DefinedIff (f.tryName win64 ntHeader names i) (f.NameInside ntHeader names i)
      (if f.isFixtureName win64 ntHeader names i then some () else none) := by
  have hlookup := definedIff_ptrFromVaNonRelocated (f := f) ntHeader (f.nameVa names i)
  unfold isFixtureName
  cases hlocated : f.located ntHeader (f.nameVa names i) with
  | none =>
      have hparts : DefinedIff (f.tryName win64 ntHeader names i) _ none :=
        (definedIff_load 4 (names + 4 * i)).bind fun _ =>
          (hlookup.congr Iff.rfl (fun _ => hlocated)).bind fun _ => definedIff_pure _
      apply hparts.congr
      · constructor
        · rintro ⟨hva, hinside, -⟩
          refine ⟨hva, hinside, ?_⟩
          intro name hname
          rw [hlocated] at hname
          cases hname
        · intro h
          exact ⟨h.va, h.lookup, trivial⟩
      · exact fun _ => rfl
  | some name =>
      have hparts : DefinedIff (f.tryName win64 ntHeader names i) _ _ :=
        (definedIff_load 4 (names + 4 * i)).bind fun _ =>
          (hlookup.congr Iff.rfl (fun _ => hlocated)).bind fun _ =>
            (definedIff_namesFixture win64 name).bind fun _ => definedIff_pure _
      apply hparts.congr
      · constructor
        · rintro ⟨hva, hinside, hterminated, -⟩
          refine ⟨hva, hinside, fun name' hname => ?_⟩
          obtain rfl := Option.some.inj (hlocated.symm.trans hname)
          exact hterminated
        · intro h
          exact ⟨h.va, h.lookup, h.terminated name hlocated, trivial⟩
      · exact fun _ => rfl

/-- The walk over the names. -/
theorem definedIff_names (win64 : Width) (ntHeader names numberOfNames : Nat) :
    DefinedIff (search (f.tryName win64 ntHeader names) numberOfNames 0)
      (f.NamesInside win64 ntHeader names numberOfNames)
      ((List.range numberOfNames).findSome? fun i =>
        if f.isFixtureName win64 ntHeader names i then some () else none) := by
  rw [List.range_eq_range']
  apply (definedIff_search (definedIff_tryName win64 ntHeader names) numberOfNames 0).congr
  · constructor
    · intro h i hi hbefore
      rw [← Nat.zero_add i]
      apply h i hi
      intro j hj
      rw [Nat.zero_add, hbefore j hj]
      rfl
    · intro h i hi hbefore
      rw [Nat.zero_add]
      apply h i hi
      intro j hj
      have hnone := hbefore j hj
      rw [Nat.zero_add] at hnone
      by_contra hname
      rw [Bool.not_eq_false] at hname
      rw [if_pos hname] at hnone
      cases hnone
  · exact fun _ => rfl

theorem isSome_findSome?_any {α : Type} (p : α → Bool) (l : List α) :
    (l.findSome? fun a => if p a then some () else none).isSome = l.any p := by
  have heq : (fun a => (if p a then some () else none).isSome) = p := by
    funext a
    cases p a with
    | true  => rfl
    | false => rfl
  rw [List.isSome_findSome?, heq]

/-- The walk over the names, if both arrays have been located. -/
theorem definedIff_walkNames (win64 : Width) (ntHeader exportDir : Nat) (names functions : Option Nat) :
    DefinedIff (f.walkNames win64 ntHeader exportDir names functions)
      (f.WalkInside win64 ntHeader exportDir names functions)
      (f.namesPresent win64 ntHeader exportDir names functions) := by
  have hpure {names functions : Option Nat} (hnone : names = none ∨ functions = none) :
      f.WalkInside win64 ntHeader exportDir names functions := by
    intro n fn hn hf
    rcases hnone with rfl | rfl
    · cases hn
    · cases hf
  cases names with
  | none => exact (definedIff_pure false).congr (iff_of_true trivial (hpure (.inl rfl))) (fun _ => rfl)
  | some names =>
      cases functions with
      | none => exact (definedIff_pure false).congr (iff_of_true trivial (hpure (.inr rfl))) (fun _ => rfl)
      | some functions =>
          have hparts : DefinedIff (f.walkNames win64 ntHeader exportDir (some names) (some functions)) _ _ :=
            (definedIff_load 4 (exportDir + 20)).bind fun _ =>
              .ite (fun _ => (definedIff_load 4 (exportDir + 24)).bind fun _ =>
                  (definedIff_names win64 ntHeader names _).bind fun _ => definedIff_pure _)
                (fun _ => definedIff_pure _)
          apply hparts.congr
          · constructor
            · rintro ⟨hfunctions, hwalk, -⟩ n fn hn -
              obtain rfl := Option.some.inj hn
              exact ⟨hfunctions, fun hpos => ⟨(hwalk hpos).1, (hwalk hpos).2.1⟩⟩
            · intro h
              obtain ⟨hfunctions, hwalk⟩ := h names functions rfl rfl
              exact ⟨hfunctions, fun hpos => ⟨(hwalk hpos).1, (hwalk hpos).2, trivial⟩, fun _ => trivial⟩
          · intro _
            rw [isSome_findSome?_any]
            rfl

theorem definedIff_queryExportDir (win64 : Width) (ntHeader exportDir : Nat) :
    DefinedIff (f.queryExportDir win64 ntHeader exportDir) (f.ExportsInside win64 ntHeader exportDir)
      (f.exportDirPresent win64 ntHeader exportDir) := by
  have hparts : DefinedIff (f.queryExportDir win64 ntHeader exportDir) _ _ :=
    (definedIff_load 4 (exportDir + 32)).bind fun _ => (definedIff_ptrFromVaNonRelocated ntHeader _).bind fun _ =>
      (definedIff_load 4 (exportDir + 28)).bind fun _ => (definedIff_ptrFromVaNonRelocated ntHeader _).bind fun _ =>
        definedIff_walkNames win64 ntHeader exportDir _ _
  apply hparts.congr
  · constructor
    · rintro ⟨haddress, hlookup, haddress', hlookup', hwalk⟩
      exact ⟨haddress, haddress', hlookup, hlookup', hwalk⟩
    · intro h
      exact ⟨h.addressOfNames, h.namesLookup, h.addressOfFunctions, h.functionsLookup, h.walk⟩
  · exact fun _ => rfl

/-- The export directory and its names. -/
theorem definedIff_queryExports (win64 : Width) (ntHeader dirVa : Nat) :
    DefinedIff (f.queryExports win64 ntHeader dirVa)
      (f.LookupInside ntHeader dirVa ∧
        ∀ exportDir, f.located ntHeader dirVa = some exportDir → f.ExportsInside win64 ntHeader exportDir)
      (f.exportsPresent win64 ntHeader dirVa) := by
  have hlookup := definedIff_ptrFromVaNonRelocated (f := f) ntHeader dirVa
  unfold exportsPresent
  cases hdir : f.located ntHeader dirVa with
  | none =>
      have hparts : DefinedIff (f.queryExports win64 ntHeader dirVa) _ false :=
        (hlookup.congr Iff.rfl (fun _ => hdir)).bind fun _ => definedIff_pure _
      apply hparts.congr
      · constructor
        · rintro ⟨hinside, -⟩
          exact ⟨hinside, nofun⟩
        · rintro ⟨hinside, -⟩
          exact ⟨hinside, trivial⟩
      · exact fun _ => rfl
  | some exportDir =>
      have hparts : DefinedIff (f.queryExports win64 ntHeader dirVa) _ _ :=
        (hlookup.congr Iff.rfl (fun _ => hdir)).bind fun _ => definedIff_queryExportDir win64 ntHeader exportDir
      apply hparts.congr
      · constructor
        · rintro ⟨hinside, hexports⟩
          refine ⟨hinside, fun exportDir' heq => ?_⟩
          obtain rfl := Option.some.inj heq
          exact hexports
        · rintro ⟨hinside, hexports⟩
          exact ⟨hinside, hexports exportDir rfl⟩
      · exact fun _ => rfl

theorem definedIff_queryOptionalHeader (ntHeader : Nat) :
    DefinedIff (f.queryOptionalHeader ntHeader)
      (f.Inside (ntHeader + 24) 2 ∧ ((∃ win64, PeImage.magic f.view ntHeader = optionalHeaderMagic win64) →
        f.Inside (ntHeader + 24 + 68) 2))
      ((PeImage.queryOptionalHeader f.view ntHeader).map fun (subsystem, win64, _) =>
        (subsystem, win64, ntHeader + dataDirectoryOffset win64)) := by
  have hparts : DefinedIff (f.queryOptionalHeader ntHeader) _ _ :=
    (definedIff_load 2 (ntHeader + 24)).bind fun _ =>
      .ite (fun _ => (definedIff_load 2 (ntHeader + 24 + 68)).bind fun _ => definedIff_pure _)
        (fun _ => .ite (fun _ => (definedIff_load 2 (ntHeader + 24 + 68)).bind fun _ => definedIff_pure _)
          (fun _ => definedIff_pure _))
  apply hparts.congr
  · constructor
    · rintro ⟨hmagic, hw32, hw64⟩
      refine ⟨hmagic, ?_⟩
      rintro ⟨win64, hwin64⟩
      cases win64 with
      | w32 => exact (hw32 hwin64).1
      | w64 =>
          have hne : PeImage.magic f.view ntHeader ≠ optionalHeaderMagic .w32 := by
            rw [hwin64]
            decide
          exact ((hw64 hne).1 hwin64).1
    · rintro ⟨hmagic, hsubsystem⟩
      exact ⟨hmagic, fun hw32 => ⟨hsubsystem ⟨.w32, hw32⟩, trivial⟩,
        fun _ => ⟨fun hw64 => ⟨hsubsystem ⟨.w64, hw64⟩, trivial⟩, fun _ => trivial⟩⟩
  · intro _
    unfold PeImage.queryOptionalHeader
    split
    · rename_i hw32
      rw [if_pos (show PeImage.magic f.view ntHeader = _ from hw32)]
      rfl
    · rename_i hw32
      rw [if_neg (show ¬ PeImage.magic f.view ntHeader = _ from hw32)]
      split
      · rename_i hw64
        rw [if_pos (show PeImage.magic f.view ntHeader = _ from hw64)]
        rfl
      · rename_i hw64
        rw [if_neg (show ¬ PeImage.magic f.view ntHeader = _ from hw64)]
        rfl

theorem optionalHeaderMagic_inj {win64 win64' : Width} (h : optionalHeaderMagic win64 = optionalHeaderMagic win64') :
    win64 = win64' := by
  revert h
  cases win64 <;> cases win64' <;> decide

theorem queryOptionalHeader_of_magic {m : Mem} {ntHeader : Nat} {win64 : Width}
    (h : PeImage.magic m ntHeader = optionalHeaderMagic win64) :
    PeImage.queryOptionalHeader m ntHeader
      = some (PeImage.subsystem m ntHeader, win64, exportDataDir win64 m ntHeader) := by
  unfold PeImage.queryOptionalHeader
  rw [h]
  cases win64 with
  | w32 => rfl
  | w64 => rfl

theorem queryOptionalHeader_of_not_magic {m : Mem} {ntHeader : Nat}
    (h : ∀ win64, PeImage.magic m ntHeader ≠ optionalHeaderMagic win64) :
    PeImage.queryOptionalHeader m ntHeader = none := by
  unfold PeImage.queryOptionalHeader
  rw [if_neg (h .w32), if_neg (h .w64)]

/-- An image of the architecture. -/
theorem definedIff_queryNtHeader {ntHeader : Nat} {win64 : Width}
    (hmagic : PeImage.magic f.view ntHeader = optionalHeaderMagic win64) :
    DefinedIff (f.queryNtHeader ntHeader) (f.NtHeaderInside ntHeader) (.ok (f.moduleInfo win64 ntHeader)) := by
  have hoptional := definedIff_queryOptionalHeader (f := f) ntHeader
  rw [queryOptionalHeader_of_magic hmagic] at hoptional
  have hparts : DefinedIff (f.queryNtHeader ntHeader) _ (.ok (f.moduleInfo win64 ntHeader)) :=
    (definedIff_load 2 (ntHeader + 4)).bind fun _ => hoptional.bind fun _ =>
      (definedIff_load 2 (ntHeader + 22)).bind fun _ => (definedIff_load 4 (ntHeader + dataDirectoryOffset win64)).bind
        fun _ => (definedIff_queryExports win64 ntHeader _).bind fun _ => definedIff_pure _
  apply hparts.congr
  · constructor
    · rintro ⟨hmachine, ⟨hread, hsubsystem⟩, hcharacteristics, hdirectory, ⟨hlookup, hexports⟩, -⟩
      refine ⟨hmachine, hread, fun win64' hmagic' => ?_⟩
      obtain rfl := optionalHeaderMagic_inj (hmagic.symm.trans hmagic')
      exact ⟨hsubsystem ⟨win64, hmagic⟩, hcharacteristics, hdirectory, hlookup, hexports⟩
    · intro h
      have hinside := h.optional win64 hmagic
      exact ⟨h.machine, ⟨h.magic, fun _ => hinside.subsystem⟩, hinside.characteristics, hinside.directory,
        ⟨hinside.lookup, hinside.exports⟩, trivial⟩
  · exact fun _ => rfl

/-- No image of an architecture. -/
theorem definedIff_queryNtHeader_unknown {ntHeader : Nat}
    (hmagic : ∀ win64, PeImage.magic f.view ntHeader ≠ optionalHeaderMagic win64) :
    DefinedIff (f.queryNtHeader ntHeader) (f.NtHeaderInside ntHeader) (.error eBadExeFormat) := by
  have hoptional := definedIff_queryOptionalHeader (f := f) ntHeader
  rw [queryOptionalHeader_of_not_magic hmagic] at hoptional
  have hparts : DefinedIff (f.queryNtHeader ntHeader) _ (.error eBadExeFormat) :=
    (definedIff_load 2 (ntHeader + 4)).bind fun _ => hoptional.bind fun _ => definedIff_pure _
  apply hparts.congr
  · constructor
    · rintro ⟨hmachine, ⟨hread, -⟩, -⟩
      exact ⟨hmachine, hread, fun win64 hwin64 => absurd hwin64 (hmagic win64)⟩
    · intro h
      refine ⟨h.machine, ⟨h.magic, ?_⟩, trivial⟩
      rintro ⟨win64, hwin64⟩
      exact absurd hwin64 (hmagic win64)
  · exact fun _ => rfl

/-- The result of a query that reads the file. -/
def IsResult (r : Except HRESULT ModuleInfo) : Prop := ∀ hr, r = .error hr → failed hr = true

theorem isResult_ok (info : ModuleInfo) : IsResult (.ok info) := nofun

theorem isResult_badExeFormat : IsResult (.error eBadExeFormat) := by
  intro hr heq
  obtain rfl := Except.error.inj heq
  decide

theorem exists_definedIff_queryNtHeader (ntHeader : Nat) :
    ∃ r, DefinedIff (f.queryNtHeader ntHeader) (f.NtHeaderInside ntHeader) r ∧ IsResult r := by
  by_cases hmagic : ∃ win64, PeImage.magic f.view ntHeader = optionalHeaderMagic win64
  · obtain ⟨win64, hmagic⟩ := hmagic
    exact ⟨_, definedIff_queryNtHeader hmagic, isResult_ok _⟩
  · exact ⟨_, definedIff_queryNtHeader_unknown (not_exists.mp hmagic), isResult_badExeFormat⟩

/-- The two signatures, and what follows behind them. -/
theorem definedIff_queryDosHeader {r : Except HRESULT ModuleInfo}
    (hntHeader : DefinedIff (f.queryNtHeader (long w (PeImage.eLfanew f.view)))
      (f.NtHeaderInside (long w (PeImage.eLfanew f.view))) r) :
    DefinedIff f.queryDosHeader f.Contained
      (if Memory.load 2 f.view 0 ≠ imageDosSignature then .error eBadExeFormat
      else if Memory.load 4 f.view (long w (PeImage.eLfanew f.view)) ≠ imageNtSignature then .error eBadExeFormat
      else r) := by
  have hparts : DefinedIff f.queryDosHeader _ _ :=
    (definedIff_load 2 0).bind fun _ => .ite (fun _ => definedIff_pure (Except.error eBadExeFormat)) fun _ =>
      (definedIff_load 4 60).bind fun _ => (definedIff_load 4 (long w (PeImage.eLfanew f.view))).bind fun _ =>
        DefinedIff.ite (fun _ => definedIff_pure (Except.error eBadExeFormat)) (fun _ => hntHeader)
  apply hparts.congr
  · constructor
    · rintro ⟨hmagic, -, hrest⟩
      refine ⟨hmagic, fun hdos => ?_, fun hdos => ?_, fun hdos hnt => ?_⟩
      · exact (hrest (not_not.mpr hdos)).1
      · exact (hrest (not_not.mpr hdos)).2.1
      · exact (hrest (not_not.mpr hdos)).2.2.2 (not_not.mpr hnt)
    · intro h
      refine ⟨h.magic, fun _ => trivial, fun hdos => ?_⟩
      have hdos := not_not.mp hdos
      exact ⟨h.eLfanew hdos, h.signature hdos, fun _ => trivial, fun hnt => h.ntHeader hdos (not_not.mp hnt)⟩
  · exact fun _ => rfl

theorem exists_definedIff_queryDosHeader (f : MappedFile w) :
    ∃ r, DefinedIff f.queryDosHeader f.Contained r ∧ IsResult r := by
  obtain ⟨r, hntHeader, hresult⟩ := exists_definedIff_queryNtHeader (f := f) (long w (PeImage.eLfanew f.view))
  refine ⟨_, definedIff_queryDosHeader hntHeader, ?_⟩
  split
  · exact isResult_badExeFormat
  · split
    · exact isResult_badExeFormat
    · exact hresult

end Defined

end MappedFile

/-! ## Which files are read without going beyond -/

/-- The query reads bytes of the file only, and ends with `S_OK` or a failure. -/
def QuerySafe {w : Width} (mapFile : String → Except Win32Error (MappedFile w)) (path : Option String)
    (sizeOfStruct : Option Nat) : Prop :=
  ∃ r, queryMappedFile mapFile path sizeOfStruct = some r ∧ MappedFile.IsResult r

section QuerySafe

variable {w : Width} {mapFile : String → Except Win32Error (MappedFile w)} {path : Option String} {p : String}
  {sizeOfStruct : Option Nat} {hr : HRESULT}

theorem querySafe_of_error (hquery : queryMappedFile mapFile path sizeOfStruct = some (.error hr))
    (hfailed : failed hr = true) : QuerySafe mapFile path sizeOfStruct := by
  refine ⟨.error hr, hquery, ?_⟩
  intro hr' heq
  obtain rfl := Except.error.inj heq
  exact hfailed

theorem queryMappedFile_of_size {size : Nat} (h : size ≠ sizeofModuleInfo) :
    queryMappedFile mapFile (some p) (some size) = some (.error eInvalidarg) := if_pos h

theorem queryMappedFile_of_error {e : Win32Error} (h : mapFile p = .error e) :
    queryMappedFile mapFile (some p) (some sizeofModuleInfo) = some (.error (hresultFromWin32 e.code)) := by
  simp only [queryMappedFile, h, ne_eq, not_true_eq_false, if_false]

theorem queryMappedFile_of_ok {f : MappedFile w} (h : mapFile p = .ok f) :
    queryMappedFile mapFile (some p) (some sizeofModuleInfo) = f.queryDosHeader := by
  simp only [queryMappedFile, h, ne_eq, not_true_eq_false, if_false]

/-- A query that comes to the file. -/
theorem querySafe_iff_contained {f : MappedFile w} (h : mapFile p = .ok f) :
    QuerySafe mapFile (some p) (some sizeofModuleInfo) ↔ f.Contained := by
  obtain ⟨r, hdefined, hresult⟩ := f.exists_definedIff_queryDosHeader
  unfold QuerySafe
  rw [queryMappedFile_of_ok h]
  constructor
  · rintro ⟨r', hr', -⟩
    apply hdefined.isSome_iff.mp
    rw [hr']
    rfl
  · intro hcontained
    exact ⟨r, hdefined.eq_some hcontained, hresult⟩

/-- Of the files, only the one that the query gets to has to be contained. -/
theorem querySafe_iff_reached (mapFile : String → Except Win32Error (MappedFile w)) (path : Option String)
    (sizeOfStruct : Option Nat) :
    QuerySafe mapFile path sizeOfStruct ↔
      ∀ p f, path = some p → sizeOfStruct = some sizeofModuleInfo → mapFile p = .ok f → f.Contained := by
  cases path with
  | none => exact iff_of_true (querySafe_of_error rfl failed_eInvalidarg) (fun p f hp => absurd hp nofun)
  | some p =>
      cases sizeOfStruct with
      | none => exact iff_of_true (querySafe_of_error rfl failed_eInvalidarg) (fun p f _ hsize => absurd hsize nofun)
      | some size =>
          by_cases hsize : size = sizeofModuleInfo
          · subst hsize
            cases hmap : mapFile p with
            | error e =>
                have hfailed : failed (hresultFromWin32 e.code) = true := by
                  rw [failed_hresultFromWin32, bne_iff_ne]
                  exact e.ne_zero
                refine iff_of_true (querySafe_of_error (queryMappedFile_of_error hmap) hfailed) ?_
                intro p' f hp _ hf
                obtain rfl := Option.some.inj hp
                exact absurd (hmap.symm.trans hf) nofun
            | ok f =>
                rw [querySafe_iff_contained hmap]
                constructor
                · intro hcontained p' f' hp _ hf
                  obtain rfl := Option.some.inj hp
                  obtain rfl := Except.ok.inj (hmap.symm.trans hf)
                  exact hcontained
                · intro hall
                  exact hall p f rfl rfl hmap
          · refine iff_of_true (querySafe_of_error (queryMappedFile_of_size hsize) failed_eInvalidarg) ?_
            intro p' f _ heq _
            exact absurd (Option.some.inj heq) hsize

end QuerySafe

end Cfix.PeImage
