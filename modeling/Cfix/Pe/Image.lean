import Mathlib.Data.List.Pairwise
import Cfix.Kernel.EventLayout

/-!
# `Pe.Image` — PE images in a file and in memory

The structures of the format that the code reads, and what loading does with them. The mapped file and the
loaded image are memories whose addresses count from their DOS header, so an RVA is an address of the image.
-/

namespace Cfix.PeImage

open Memory
open Cfix.Events (Width)

/-! ## Structures -/

def imageDosSignature : Nat := 0x5A4D
def imageNtSignature  : Nat := 0x00004550

/-- `IMAGE_DOS_HEADER.e_lfanew`: where the NT headers are. It is a `LONG`, positive in every well-formed image. -/
def eLfanew (m : Mem) : Nat := load 4 m 60

/-- `IMAGE_FILE_HEADER`. -/
structure FileHeader where
  machine              : Nat
  numberOfSections     : Nat
  sizeOfOptionalHeader : Nat
  characteristics      : Nat
  deriving DecidableEq, Repr

/-- The file header behind the signature of the NT headers. -/
def FileHeader.load (m : Mem) (ntHeader : Nat) : FileHeader where
  machine              := Memory.load 2 m (ntHeader + 4)
  numberOfSections     := Memory.load 2 m (ntHeader + 6)
  sizeOfOptionalHeader := Memory.load 2 m (ntHeader + 20)
  characteristics      := Memory.load 2 m (ntHeader + 22)

/-- `IMAGE_NT_OPTIONAL_HDR32_MAGIC` and `IMAGE_NT_OPTIONAL_HDR64_MAGIC`. -/
def optionalHeaderMagic : Width → Nat
  | .w32 => 0x10B
  | .w64 => 0x20B

/-- The fields of `IMAGE_OPTIONAL_HEADER32` and `IMAGE_OPTIONAL_HEADER64`. -/
def magic (m : Mem) (ntHeader : Nat) : Nat := load 2 m (ntHeader + 24)

def sizeOfHeaders (m : Mem) : Nat := load 4 m (eLfanew m + 24 + 60)

def subsystem (m : Mem) (ntHeader : Nat) : Nat := load 2 m (ntHeader + 24 + 68)

/-- `FIELD_OFFSET( IMAGE_NT_HEADERS, OptionalHeader.DataDirectory )`. -/
def dataDirectoryOffset : Width → Nat
  | .w32 => 24 + 96
  | .w64 => 24 + 112

/-- `IMAGE_DATA_DIRECTORY`. -/
structure DataDirectory where
  virtualAddress : Nat
  size           : Nat
  deriving DecidableEq, Repr

/-- `OptionalHeader.DataDirectory[ IMAGE_DIRECTORY_ENTRY_EXPORT ]`. -/
def exportDataDir (w : Width) (m : Mem) (ntHeader : Nat) : DataDirectory where
  virtualAddress := load 4 m (ntHeader + dataDirectoryOffset w)
  size           := load 4 m (ntHeader + dataDirectoryOffset w + 4)

/-- `IMAGE_SECTION_HEADER`. -/
structure SectionHeader where
  virtualSize      : Nat
  virtualAddress   : Nat
  sizeOfRawData    : Nat
  pointerToRawData : Nat
  deriving DecidableEq, Repr

def SectionHeader.load (m : Mem) (a : Nat) : SectionHeader where
  virtualSize      := Memory.load 4 m (a + 8)
  virtualAddress   := Memory.load 4 m (a + 12)
  sizeOfRawData    := Memory.load 4 m (a + 16)
  pointerToRawData := Memory.load 4 m (a + 20)

/-- `IMAGE_FIRST_SECTION( NtHeader )`. -/
def firstSection (m : Mem) (ntHeader : Nat) : Nat := ntHeader + 24 + (FileHeader.load m ntHeader).sizeOfOptionalHeader

/-- The section table. -/
def sectionHeaders (m : Mem) (ntHeader : Nat) : List SectionHeader :=
  (List.range (FileHeader.load m ntHeader).numberOfSections).map fun i => .load m (firstSection m ntHeader + 40 * i)

/-- `IMAGE_EXPORT_DIRECTORY`. -/
structure ExportDirectory where
  base                  : Nat
  numberOfFunctions     : Nat
  numberOfNames         : Nat
  addressOfFunctions    : Nat
  addressOfNames        : Nat
  addressOfNameOrdinals : Nat
  deriving DecidableEq, Repr

def ExportDirectory.load (m : Mem) (a : Nat) : ExportDirectory where
  base                  := Memory.load 4 m (a + 16)
  numberOfFunctions     := Memory.load 4 m (a + 20)
  numberOfNames         := Memory.load 4 m (a + 24)
  addressOfFunctions    := Memory.load 4 m (a + 28)
  addressOfNames        := Memory.load 4 m (a + 32)
  addressOfNameOrdinals := Memory.load 4 m (a + 36)

/-! ## Loading -/

/-- The bytes of a section that the file has and the image shows. -/
def SectionHeader.dataSize (s : SectionHeader) : Nat := min s.sizeOfRawData s.virtualSize

/-- The address has data of the section. -/
def SectionHeader.HasData (s : SectionHeader) (x : Nat) : Prop :=
  s.virtualAddress ≤ x ∧ x < s.virtualAddress + s.dataSize

instance (s : SectionHeader) (x : Nat) : Decidable (s.HasData x) := inferInstanceAs (Decidable (_ ∧ _))

/-- **Loading**: the headers stay where they are, the raw data of each section is at its virtual address. -/
def mapImage (file : Mem) : Mem := fun x =>
  match (sectionHeaders file (eLfanew file)).find? fun s => s.HasData x with
  | some s => file (s.pointerToRawData + (x - s.virtualAddress))
  | none   => if x < sizeOfHeaders file then file x else 0

/-- The address is one of the headers or of the data of a section. -/
def Mapped (file : Mem) (x : Nat) : Prop :=
  x < sizeOfHeaders file ∨ ∃ s ∈ sectionHeaders file (eLfanew file), s.HasData x

/-- The image of the file is in the memory. What the memory holds elsewhere is left open. -/
def Loaded (file image : Mem) : Prop := ∀ x, Mapped file x → image x = mapImage file x

theorem loaded_mapImage (file : Mem) : Loaded file (mapImage file) := fun _ _ => rfl

/-! ## Well-formed images -/

/-- `n` bytes from the RVA on lie in the data of one section. -/
def InData (file : Mem) (rva n : Nat) : Prop :=
  ∃ s ∈ sectionHeaders file (eLfanew file), s.virtualAddress ≤ rva ∧ rva + n ≤ s.virtualAddress + s.dataSize

instance (file : Mem) (rva n : Nat) : Decidable (InData file rva n) := inferInstanceAs (Decidable (∃ _ ∈ _, _))

/-- A zero-terminated string of this length. -/
def CString (m : Mem) (a len : Nat) : Prop := m (a + len) = 0 ∧ ∀ i < len, m (a + i) ≠ 0

instance (m : Mem) (a len : Nat) : Decidable (CString m a len) := inferInstanceAs (Decidable (_ ∧ _))

/-- The export directory, its arrays and the names lie in sections. Nothing is asked of the names, the ordinals,
    their base and the function RVAs. -/
structure ExportsInData (file : Mem) (e : ExportDirectory) : Prop where
  functions : 0 < e.numberOfFunctions → InData file e.addressOfFunctions (4 * e.numberOfFunctions)
  nameArray : 0 < e.numberOfNames → InData file e.addressOfNames (4 * e.numberOfNames)
  names     : ∀ i < e.numberOfNames, ∃ len,
    CString (mapImage file) (load 4 (mapImage file) (e.addressOfNames + 4 * i)) len ∧
    InData file (load 4 (mapImage file) (e.addressOfNames + 4 * i)) (len + 1)

/-- A well-formed PE image of the architecture, in a file of this size. -/
structure WellFormed (w : Width) (file : Mem) (fileSize : Nat) : Prop where
  dosSignature : load 2 file 0 = imageDosSignature
  ntSignature  : load 4 file (eLfanew file) = imageNtSignature
  magic        : magic file (eLfanew file) = optionalHeaderMagic w
  ntHeaders    : eLfanew file < 2 ^ 31
  optional     : eLfanew file + dataDirectoryOffset w + 8 ≤ firstSection file (eLfanew file)
  table        : firstSection file (eLfanew file) + 40 * (FileHeader.load file (eLfanew file)).numberOfSections ≤
    sizeOfHeaders file
  size         : sizeOfHeaders file ≤ fileSize ∧ fileSize < 2 ^ 32
  sections     : ∀ s ∈ sectionHeaders file (eLfanew file), sizeOfHeaders file ≤ s.virtualAddress ∧
    s.virtualAddress + s.virtualSize < 2 ^ 32 ∧ s.pointerToRawData + s.sizeOfRawData ≤ fileSize
  ascending    : (sectionHeaders file (eLfanew file)).Pairwise fun s t => s.virtualAddress + s.virtualSize ≤ t.virtualAddress
  /-- There is no export directory, or it is in a section. -/
  exports      : (exportDataDir w file (eLfanew file)).virtualAddress = 0 ∨
    InData file (exportDataDir w file (eLfanew file)).virtualAddress 40 ∧
      ExportsInData file (.load (mapImage file) (exportDataDir w file (eLfanew file)).virtualAddress)

section WellFormed

variable {w : Width} {file image : Mem} {fileSize : Nat}

theorem find?_of_unique {α : Type} {p : α → Bool} {l : List α} {a : α} (ha : a ∈ l) (hp : p a = true)
    (hunique : ∀ b ∈ l, p b = true → b = a) : l.find? p = some a := by
  obtain ⟨b, hb⟩ := Option.isSome_iff_exists.mp (List.find?_isSome.mpr ⟨a, ha, hp⟩)
  have heq : b = a := hunique b (List.mem_of_find?_eq_some hb) (List.find?_some hb)
  rw [hb, heq]

/-- The address ranges of the sections have no address in common. -/
def SectionHeader.Apart (s t : SectionHeader) : Prop :=
  s.virtualAddress + s.virtualSize ≤ t.virtualAddress ∨ t.virtualAddress + t.virtualSize ≤ s.virtualAddress

instance : Std.Symm SectionHeader.Apart := ⟨fun _ _ => Or.symm⟩

/-- No address is in two sections. -/
theorem WellFormed.unique (h : WellFormed w file fileSize) {s t : SectionHeader} {x : Nat}
    (hs : s ∈ sectionHeaders file (eLfanew file)) (ht : t ∈ sectionHeaders file (eLfanew file))
    (hsx : s.virtualAddress ≤ x ∧ x < s.virtualAddress + s.virtualSize)
    (htx : t.virtualAddress ≤ x ∧ x < t.virtualAddress + t.virtualSize) : s = t := by
  by_contra hne
  have hapart : (sectionHeaders file (eLfanew file)).Pairwise SectionHeader.Apart := h.ascending.imp Or.inl
  have hst : s.Apart t := hapart.forall hs ht hne
  unfold SectionHeader.Apart at hst
  omega

theorem SectionHeader.HasData.inside {s : SectionHeader} {x : Nat} (h : s.HasData x) :
    s.virtualAddress ≤ x ∧ x < s.virtualAddress + s.virtualSize := by
  have hle : s.dataSize ≤ s.virtualSize := Nat.min_le_right ..
  have hlt := h.2
  exact ⟨h.1, by omega⟩

/-- The raw data of a section is at its virtual address. -/
theorem WellFormed.mapImage_data (h : WellFormed w file fileSize) {s : SectionHeader} {x : Nat}
    (hs : s ∈ sectionHeaders file (eLfanew file)) (hx : s.HasData x) :
    mapImage file x = file (s.pointerToRawData + (x - s.virtualAddress)) := by
  have hfind : ((sectionHeaders file (eLfanew file)).find? fun s => decide (s.HasData x)) = some s := by
    apply find?_of_unique hs (decide_eq_true hx)
    intro t ht htx
    exact h.unique ht hs (of_decide_eq_true htx).inside hx.inside
  unfold mapImage
  rw [hfind]

/-- The headers are where they are in the file. -/
theorem WellFormed.mapImage_headers (h : WellFormed w file fileSize) {x : Nat} (hx : x < sizeOfHeaders file) :
    mapImage file x = file x := by
  have hnone : ((sectionHeaders file (eLfanew file)).find? fun s => decide (s.HasData x)) = none := by
    rw [List.find?_eq_none]
    intro s hs hsx
    have hbehind := (h.sections s hs).1
    have hinside := (of_decide_eq_true hsx).1
    omega
  unfold mapImage
  rw [hnone]
  exact if_pos hx

theorem WellFormed.same_headers (h : WellFormed w file fileSize) (hloaded : Loaded file image) {a n : Nat}
    (hlo : a + n ≤ sizeOfHeaders file) : Same file a image a n := by
  intro i hi
  rw [hloaded (a + i) (.inl (by omega)), h.mapImage_headers (by omega)]

theorem Loaded.same (hloaded : Loaded file image) {rva n : Nat} (h : InData file rva n) :
    Same (mapImage file) rva image rva n := by
  obtain ⟨s, hs, hlo, hhi⟩ := h
  intro i hi
  exact (hloaded (rva + i) (.inr ⟨s, hs, by omega, by omega⟩)).symm

theorem InData.mono {rva n a k : Nat} (h : InData file rva n) (hlo : rva ≤ a) (hhi : a + k ≤ rva + n) :
    InData file a k := by
  obtain ⟨s, hs, hs₁, hs₂⟩ := h
  exact ⟨s, hs, by omega, by omega⟩

end WellFormed

end Cfix.PeImage
