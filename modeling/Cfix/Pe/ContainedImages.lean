import Cfix.Pe.QueryReads

/-!
# `Pe.ContainedImages` — the query reads well-formed images

The headers, the export directory and the names of a well-formed image are in its file, so the query does not go
beyond it, and its reads have the result of `Pe.Exports`. `querySafe_iff` says of all files when the query stays inside,
and the file at the end is one that it leaves.
-/

namespace Cfix.PeImage

open Memory
open Cfix.Events (Width Win32Error)

namespace MappedFile

section WellFormed

variable {w win64 : Width} {f : MappedFile w}

theorem inside_of_le {a n : Nat} (h : a + n ≤ f.size) : f.Inside a n := by
  intro i hi
  have hsize := f.size_lt
  rw [pointer_eq_mod, Nat.mod_eq_of_lt (by omega)]
  omega

theorem view_of_lt {a : Nat} (h : a < f.size) : f.view a = f.bytes a := by
  have hsize := f.size_lt
  rw [view, pointer_eq_mod, Nat.mod_eq_of_lt (by omega)]

/-- A pointer into the file is not `NULL`. -/
theorem nonNull_of_lt {a : Nat} (h : a < f.size) : f.nonNull a = some a := by
  have hfits := f.fits
  have hbase := f.base_pos
  have hne : pointer w (f.base + a) ≠ 0 := by
    rw [pointer_eq_mod, Nat.mod_eq_of_lt (by omega)]
    omega
  exact if_neg hne

/-- The data of a section is located in the file. -/
theorem located_of_data (h : WellFormed win64 f.view f.size) {rva n : Nat} (hdata : InData f.view rva n) (hn : 0 < n) :
    ∃ p, PeImage.ptrFromVaNonRelocated w f.view (PeImage.eLfanew f.view) rva = some p ∧
      f.located (PeImage.eLfanew f.view) rva = some p ∧ p + n ≤ f.size ∧ Same f.view p (mapImage f.view) rva n := by
  obtain ⟨-, p, hp, hle, hsame⟩ := h.translated w (loaded_mapImage f.view) hdata hn
  refine ⟨p, hp, ?_, hle, hsame⟩
  rw [located, hp]
  exact nonNull_of_lt (by omega)

/-- The section table is in the file. -/
theorem lookupInside_of_wellFormed (h : WellFormed win64 f.view f.size) (va : Nat) :
    f.LookupInside (PeImage.eLfanew f.view) va := by
  have hoptional := h.optional
  have htable := h.table
  have hsize := h.size.1
  have hoffset : 120 ≤ dataDirectoryOffset win64 := by cases win64 <;> decide
  refine ⟨inside_of_le (by omega), inside_of_le (by omega), fun i hi _ => ?_⟩
  have hheader : f.sectionHeader (PeImage.eLfanew f.view) i + 40 ≤ f.size := by
    unfold sectionHeader
    omega
  exact ⟨inside_of_le (by omega), fun _ => inside_of_le (by omega), fun _ => inside_of_le (by omega)⟩

/-- A name of the export directory, and its terminator. -/
theorem nameInside_of_wellFormed (h : WellFormed win64 f.view f.size) {e : ExportDirectory}
    (hexports : ExportsInData f.view e) {names i : Nat} (hi : i < e.numberOfNames)
    (hlocated : f.located (PeImage.eLfanew f.view) e.addressOfNames = some names) :
    f.NameInside (PeImage.eLfanew f.view) names i := by
  obtain ⟨q, -, hq, hqLe, hqSame⟩ := located_of_data h (hexports.nameArray (by omega)) (by omega)
  obtain rfl := Option.some.inj (hlocated.symm.trans hq)
  obtain ⟨len, hstring, hdata⟩ := hexports.names i hi
  have hva : f.nameVa names i = Memory.load 4 (mapImage f.view) (e.addressOfNames + 4 * i) :=
    (hqSame.mono (Nat.le_add_right _ _) (by omega) (by omega)).load_eq
  obtain ⟨r, -, hr, hrLe, hrSame⟩ := located_of_data h hdata (Nat.succ_pos len)
  refine ⟨inside_of_le (by omega), lookupInside_of_wellFormed h _, fun name hname => ?_⟩
  rw [hva] at hname
  obtain rfl := Option.some.inj (hr.symm.trans hname)
  have hsize := f.size_lt
  have hpointer : pointer w r = r := by
    rw [pointer_eq_mod]
    exact Nat.mod_eq_of_lt (by omega)
  refine ⟨len, by omega, ?_⟩
  rw [hpointer, ← view_of_lt (by omega), hrSame len (Nat.lt_succ_self len)]
  exact hstring.1

/-- The export directory of a well-formed image. -/
theorem exportsInside_of_wellFormed (h : WellFormed win64 f.view f.size) {dirVa exportDir : Nat}
    (hdir : InData f.view dirVa 40) (hexports : ExportsInData f.view (.load (mapImage f.view) dirVa))
    (hlocated : f.located (PeImage.eLfanew f.view) dirVa = some exportDir) :
    f.ExportsInside win64 (PeImage.eLfanew f.view) exportDir := by
  obtain ⟨p, -, hp, hle, hsame⟩ := located_of_data h hdir (by decide)
  obtain rfl := Option.some.inj (hlocated.symm.trans hp)
  rw [← ExportDirectory.load_congr hsame] at hexports
  refine ⟨inside_of_le (by omega), inside_of_le (by omega), lookupInside_of_wellFormed h _,
    lookupInside_of_wellFormed h _, ?_⟩
  intro names functions hnames _
  refine ⟨inside_of_le (by omega), fun _ => ⟨inside_of_le (by omega), fun i hi _ => ?_⟩⟩
  exact nameInside_of_wellFormed h hexports hi hnames

/-- Without an export directory there is none to locate. -/
theorem located_zero (h : WellFormed win64 f.view f.size) :
    PeImage.ptrFromVaNonRelocated w f.view (PeImage.eLfanew f.view) 0 = none ∧
      f.located (PeImage.eLfanew f.view) 0 = none := by
  have htable := h.table
  have hoptional := h.optional
  have hoffset : 120 ≤ dataDirectoryOffset win64 := by cases win64 <;> decide
  have hnone : PeImage.ptrFromVaNonRelocated w f.view (PeImage.eLfanew f.view) 0 = none := by
    apply lookupSection_none w
    intro s hs
    have hbehind := (h.sections s hs).1
    omega
  refine ⟨hnone, ?_⟩
  rw [located, hnone]
  rfl

/-- **A well-formed image is contained in its file.** -/
theorem contained_of_wellFormed (h : WellFormed win64 f.view f.size) : f.Contained := by
  have hoptional := h.optional
  have htable := h.table
  have hsize := h.size.1
  have hoffset : 120 ≤ dataDirectoryOffset win64 := by cases win64 <;> decide
  have hlong : long w (PeImage.eLfanew f.view) = PeImage.eLfanew f.view := long_of_lt w h.ntHeaders
  refine ⟨inside_of_le (by omega), fun _ => inside_of_le (by omega), fun _ => ?_, fun _ _ => ?_⟩
  · rw [hlong]
    exact inside_of_le (by omega)
  · rw [hlong]
    refine ⟨inside_of_le (by omega), inside_of_le (by omega), fun win64' hmagic => ?_⟩
    obtain rfl := optionalHeaderMagic_inj (h.magic.symm.trans hmagic)
    refine ⟨inside_of_le (by omega), inside_of_le (by omega), inside_of_le (by omega), lookupInside_of_wellFormed h _,
      fun exportDir hlocated => ?_⟩
    rcases h.exports with hzero | ⟨hdir, hexports⟩
    · rw [hzero, (located_zero h).2] at hlocated
      cases hlocated
    · exact exportsInside_of_wellFormed h hdir hexports hlocated

/-! ### The same result -/

theorem namesPresent_of_empty {exportDir : Nat} (h : (ExportDirectory.load f.view exportDir).numberOfFunctions = 0 ∨
      (ExportDirectory.load f.view exportDir).numberOfNames = 0) (ntHeader : Nat) (names functions : Option Nat) :
    f.namesPresent win64 ntHeader exportDir names functions = false := by
  cases names with
  | none => rfl
  | some names =>
      cases functions with
      | none => rfl
      | some functions =>
          rcases h with h | h
          · simp [namesPresent, h]
          · simp [namesPresent, h]

theorem view_pointer (n a : Nat) : Memory.load n f.view (pointer w a) = Memory.load n f.view a := by
  apply Same.load_eq
  intro i _
  rw [view, view, pointer_eq_mod, pointer_eq_mod, pointer_eq_mod, Nat.mod_add_mod]

/-- The names of a well-formed image are located where the query finds them. -/
theorem isFixtureName_of_wellFormed (h : WellFormed win64 f.view f.size) {e : ExportDirectory}
    (hexports : ExportsInData f.view e) {names i : Nat} (hi : i < e.numberOfNames)
    (hlocated : f.located (PeImage.eLfanew f.view) e.addressOfNames = some names) :
    ∃ p, PeImage.ptrFromVaNonRelocated w f.view (PeImage.eLfanew f.view)
        (Memory.load 4 f.view (pointer w (names + 4 * i))) = some p ∧
      isFixtureExport win64 f.view p = f.isFixtureName win64 (PeImage.eLfanew f.view) names i := by
  obtain ⟨q, -, hq, hqLe, hqSame⟩ := located_of_data h (hexports.nameArray (by omega)) (by omega)
  obtain rfl := Option.some.inj (hlocated.symm.trans hq)
  obtain ⟨len, -, hdata⟩ := hexports.names i hi
  have hva : f.nameVa names i = Memory.load 4 (mapImage f.view) (e.addressOfNames + 4 * i) :=
    (hqSame.mono (Nat.le_add_right _ _) (by omega) (by omega)).load_eq
  obtain ⟨p, hp, hp', -, -⟩ := located_of_data h hdata (Nat.succ_pos len)
  rw [← hva] at hp hp'
  refine ⟨p, ?_, ?_⟩
  · rw [view_pointer]
    exact hp
  · rw [isFixtureName, hp']
    rfl

/-- The two walks over the names of a well-formed image. -/
theorem findFixtureName_of_wellFormed (h : WellFormed win64 f.view f.size) {e : ExportDirectory}
    (hexports : ExportsInData f.view e) {names : Nat}
    (hlocated : f.located (PeImage.eLfanew f.view) e.addressOfNames = some names) :
    findFixtureName w win64 f.view (PeImage.eLfanew f.view) names e.numberOfNames 0
      = (List.range e.numberOfNames).any (f.isFixtureName win64 (PeImage.eLfanew f.view) names) := by
  have hnamed (i : Nat) (_ : 0 ≤ i) (hi : i < 0 + e.numberOfNames) :=
    isFixtureName_of_wellFormed h hexports (show i < e.numberOfNames by omega) hlocated
  rw [Bool.eq_iff_iff, findFixtureName_iff hnamed, List.any_eq_true]
  constructor
  · rintro ⟨i, -, hi, hname⟩
    exact ⟨i, List.mem_range.mpr (by omega), hname⟩
  · rintro ⟨i, hi, hname⟩
    have hlt := List.mem_range.mp hi
    exact ⟨i, Nat.zero_le i, by omega, hname⟩

theorem queryExports_of_wellFormed (h : WellFormed win64 f.view f.size) :
    PeImage.queryExports w win64 f.view (PeImage.eLfanew f.view) (exportDataDir win64 f.view (PeImage.eLfanew f.view))
      = f.exportsPresent win64 (PeImage.eLfanew f.view)
          (exportDataDir win64 f.view (PeImage.eLfanew f.view)).virtualAddress := by
  unfold PeImage.queryExports exportsPresent
  rcases h.exports with hzero | ⟨hdir, hexports⟩
  · obtain ⟨hptr, hlocated⟩ := located_zero h
    rw [hzero, hptr, hlocated]
  · obtain ⟨p, hp, hlocated, -, hsame⟩ := located_of_data h hdir (by decide)
    rw [← ExportDirectory.load_congr hsame] at hexports
    rw [hp, hlocated]
    dsimp only [exportDirPresent]
    by_cases hempty : (ExportDirectory.load f.view p).numberOfFunctions = 0 ∨
        (ExportDirectory.load f.view p).numberOfNames = 0
    · -- without functions or names nothing is found, wherever the arrays are
      rw [namesPresent_of_empty hempty]
      split
      · rcases hempty with hempty | hempty
        · simp [hempty]
        · simp [hempty, findFixtureName]
      · rfl
    · obtain ⟨hfunctions, hnames⟩ := not_or.mp hempty
      obtain ⟨q, hq, hq', -, -⟩ := located_of_data h (hexports.nameArray (by omega)) (by omega)
      obtain ⟨r, hr, hr', -, -⟩ := located_of_data h (hexports.functions (by omega)) (by omega)
      rw [hq, hr, hq', hr']
      dsimp only [namesPresent]
      rw [findFixtureName_of_wellFormed h hexports hq']

/-- **A well-formed image is read without going beyond it**, and the result is that of the query. -/
theorem queryMappedFile_of_wellFormed (h : WellFormed win64 f.view f.size)
    {mapFile : String → Except Win32Error (MappedFile w)} {path : String} (hmap : mapFile path = .ok f)
    {mapFile' : String → Except HRESULT Mem} (hmap' : mapFile' path = .ok f.view) :
    queryMappedFile mapFile (some path) (some sizeofModuleInfo)
      = some (queryPeImage w mapFile' (some path) (some sizeofModuleInfo)) := by
  have hlong : long w (PeImage.eLfanew f.view) = PeImage.eLfanew f.view := long_of_lt w h.ntHeaders
  have hdefined := definedIff_queryDosHeader (f := f) (hlong.symm ▸ definedIff_queryNtHeader h.magic)
  rw [queryMappedFile_of_ok hmap, hdefined.eq_some (contained_of_wellFormed h), hlong]
  simp only [queryPeImage, hmap', hlong, h.dosSignature, h.ntSignature, PeImage.queryNtHeader,
    queryOptionalHeader_of_magic h.magic, ne_eq, not_true_eq_false, if_false]
  rw [queryExports_of_wellFormed h]
  rfl

end WellFormed

end MappedFile

/-! ## The query -/

/-- **The query stays inside the file exactly if everything that it comes to is in it**, as it is for a well-formed
    image. -/
theorem querySafe_iff {w : Width} (mapFile : String → Except Win32Error (MappedFile w)) (path : Option String)
    (sizeOfStruct : Option Nat) :
    (QuerySafe mapFile path sizeOfStruct ↔
      ∀ p f, path = some p → sizeOfStruct = some sizeofModuleInfo → mapFile p = .ok f → f.Contained) ∧
      ((∀ p f, path = some p → mapFile p = .ok f → ∃ win64, WellFormed win64 f.view f.size) →
        QuerySafe mapFile path sizeOfStruct) := by
  have hiff := querySafe_iff_reached mapFile path sizeOfStruct
  refine ⟨hiff, fun hwellFormed => hiff.mpr fun p f hp _ hf => ?_⟩
  obtain ⟨win64, h⟩ := hwellFormed p f hp hf
  exact MappedFile.contained_of_wellFormed h

/-! ## A file that is cut off -/

/-- A file that ends with the DOS header, whose `e_lfanew` is `0x1000`. -/
def truncatedFile : MappedFile .w64 where
  bytes    := fun a => if a = 0 then 0x4D else if a = 1 then 0x5A else if a = 61 then 0x10 else 0
  size     := 64
  base     := 0x10000
  size_pos := by decide
  base_pos := by decide
  fits     := by decide

theorem not_contained_truncatedFile : ¬ truncatedFile.Contained := by
  intro h
  have hinside := h.signature (by decide) 0 (by decide)
  exact absurd hinside (by decide)

/-- The query looks for the NT headers behind the file. -/
theorem not_querySafe_truncatedFile :
    ¬ ∀ (mapFile : String → Except Win32Error (MappedFile .w64)) (path : Option String) (sizeOfStruct : Option Nat),
      QuerySafe mapFile path sizeOfStruct := fun hall =>
  not_contained_truncatedFile
    ((querySafe_iff_contained rfl).mp (hall (fun _ => .ok truncatedFile) (some "mz.dll") (some sizeofModuleInfo)))

end Cfix.PeImage
