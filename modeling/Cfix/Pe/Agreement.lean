import Cfix.Pe.Exports

/-!
# `Pe.Agreement` — when the query and the loader agree

For an RVA in a section the query finds the bytes that the loaded image has at the RVA, so both walks see the
same names. They differ in what they make of them: the query takes every name of a fixture, the loader leaves
out the forwarders. Without an export directory the query stops, and the loader reads the DOS header as one.
-/

namespace Cfix.PeImage

open Memory
open Cfix.Events (Width)

/-! ## Bytes of the file and of the image -/

theorem pointer_of_lt (w : Width) {n : Nat} (h : n < 2 ^ 32) : pointer w n = n := by
  cases w with
  | w32 => exact Nat.mod_eq_of_lt h
  | w64 => exact Nat.mod_eq_of_lt (Nat.lt_trans h (by decide))

theorem long_of_lt (w : Width) {n : Nat} (h : n < 2 ^ 31) : long w n = n := by
  cases w with
  | w32 => rfl
  | w64 => exact if_pos h

/-- The loop over the sections finds the section that contains the address. -/
theorem lookupSection_of_unique (w : Width) {ss : List SectionHeader} {s : SectionHeader} {va : Nat} (hs : s ∈ ss)
    (hva : s.virtualAddress ≤ va ∧ va < dword (s.virtualAddress + s.virtualSize))
    (hunique : ∀ t ∈ ss, t.virtualAddress ≤ va ∧ va < dword (t.virtualAddress + t.virtualSize) → t = s) :
    lookupSection w ss va = some (pointer w (s.pointerToRawData + (va - s.virtualAddress))) := by
  induction ss with
  | nil => exact absurd hs List.not_mem_nil
  | cons t ss ih =>
      rw [lookupSection]
      split
      · rename_i ht
        rw [hunique t List.mem_cons_self ht]
      · rename_i ht
        have hne : s ≠ t := by
          rintro rfl
          exact ht hva
        exact ih (List.mem_of_ne_of_mem hne hs) (fun x hx => hunique x (List.mem_cons_of_mem _ hx))

theorem lookupSection_none (w : Width) {ss : List SectionHeader} {va : Nat} (h : ∀ s ∈ ss, va < s.virtualAddress) :
    lookupSection w ss va = none := by
  induction ss with
  | nil => rfl
  | cons s ss ih =>
      have hs := h s List.mem_cons_self
      rw [lookupSection, if_neg (fun hva => absurd hva.1 (Nat.not_le_of_lt hs))]
      exact ih (fun x hx => h x (List.mem_cons_of_mem _ hx))

section Translation

variable {w : Width} {file image : Mem} {fileSize : Nat}

/-- **Translation by the section table**: the bytes at the pointer are those that the image has at the RVA. -/
theorem WellFormed.translated (v : Width) (h : WellFormed w file fileSize) (hloaded : Loaded file image) {rva n : Nat}
    (hdata : InData file rva n) (hn : 0 < n) :
    rva + n < 2 ^ 32 ∧ ∃ p, ptrFromVaNonRelocated v file (eLfanew file) rva = some p ∧ p + n ≤ fileSize ∧
      Same file p image rva n := by
  have hsame := hloaded.same hdata
  obtain ⟨s, hs, hlo, hhi⟩ := hdata
  obtain ⟨-, hvirtual, hraw⟩ := h.sections s hs
  have hsize := h.size.2
  have hle : s.dataSize ≤ s.virtualSize := Nat.min_le_right ..
  have hle' : s.dataSize ≤ s.sizeOfRawData := Nat.min_le_left ..
  have hend (t : SectionHeader) (ht : t ∈ sectionHeaders file (eLfanew file)) :
      dword (t.virtualAddress + t.virtualSize) = t.virtualAddress + t.virtualSize :=
    Nat.mod_eq_of_lt (h.sections t ht).2.1
  have hp : pointer v (s.pointerToRawData + (rva - s.virtualAddress)) = s.pointerToRawData + (rva - s.virtualAddress) :=
    pointer_of_lt v (by omega)
  -- the first section that contains the RVA is the only one, and its raw data is what was mapped there
  refine ⟨by omega, s.pointerToRawData + (rva - s.virtualAddress), ?_, by omega, ?_⟩
  · rw [← hp]
    apply lookupSection_of_unique v hs
    · rw [hend s hs]
      omega
    · intro t ht htva
      rw [hend t ht] at htva
      exact h.unique ht hs htva (by omega)
  · intro i hi
    rw [← hsame i hi, h.mapImage_data hs ⟨by omega, by omega⟩]
    congr 1
    omega

theorem WellFormed.eLfanew_eq (h : WellFormed w file fileSize) (hloaded : Loaded file image) :
    eLfanew image = eLfanew file := by
  have htable := h.table
  have hoptional := h.optional
  have hoffset : 120 ≤ dataDirectoryOffset w := by cases w <;> decide
  exact (h.same_headers hloaded (show 60 + 4 ≤ sizeOfHeaders file by omega)).load_eq.symm

theorem WellFormed.exportDataDir_eq (h : WellFormed w file fileSize) (hloaded : Loaded file image) :
    exportDataDir w image (eLfanew file) = exportDataDir w file (eLfanew file) := by
  have htable := h.table
  have hoptional := h.optional
  unfold exportDataDir
  rw [(h.same_headers hloaded (show eLfanew file + dataDirectoryOffset w + 4 ≤ sizeOfHeaders file by omega)).load_eq,
    (h.same_headers hloaded (show eLfanew file + dataDirectoryOffset w + 4 + 4 ≤ sizeOfHeaders file by omega)).load_eq]

theorem WellFormed.ntSignature_eq (h : WellFormed w file fileSize) (hloaded : Loaded file image) :
    load 4 image (eLfanew file) = imageNtSignature := by
  have htable := h.table
  have hoptional := h.optional
  rw [← (h.same_headers hloaded (show eLfanew file + 4 ≤ sizeOfHeaders file by omega)).load_eq]
  exact h.ntSignature

end Translation

/-! ## The same directory and names -/

theorem ExportDirectory.load_congr {m m' : Mem} {a a' : Nat} (h : Same m a m' a' 40) :
    ExportDirectory.load m a = ExportDirectory.load m' a' := by
  have hload (d : Nat) (hd : d + 4 ≤ 40) : Memory.load 4 m (a + d) = Memory.load 4 m' (a' + d) :=
    (h.mono (by omega) (by omega) (by omega)).load_eq
  unfold ExportDirectory.load
  rw [hload 16 (by decide), hload 20 (by decide), hload 24 (by decide), hload 28 (by decide), hload 32 (by decide),
    hload 36 (by decide)]

theorem CString.congr {m m' : Mem} {a a' len : Nat} (h : CString m a len) (hsame : Same m a m' a' (len + 1)) :
    CString m' a' len := by
  refine ⟨(hsame len (by omega)).symm.trans h.1, ?_⟩
  intro i hi
  rw [← hsame i (by omega)]
  exact h.2 i hi

theorem strlenGt_iff (m : Mem) (a n : Nat) : strlenGt m a n = true ↔ ∀ i ≤ n, m (a + i) ≠ 0 := by
  rw [strlenGt, List.all_eq_true]
  constructor
  · intro h i hi
    exact bne_iff_ne.mp (h _ (mem_read.mpr ⟨i, by omega, rfl⟩))
  · intro h b hb
    obtain ⟨i, hi, rfl⟩ := mem_read.mp hb
    exact bne_iff_ne.mpr (h i (by omega))

/-- `strlenGt` is what it says. -/
theorem CString.strlenGt_iff {m : Mem} {a len : Nat} (h : CString m a len) (n : Nat) :
    strlenGt m a n = true ↔ n < len := by
  rw [PeImage.strlenGt_iff]
  constructor
  · intro hall
    by_contra hle
    exact hall len (by omega) h.1
  · intro hlt i hi
    exact h.2 i (by omega)

theorem CString.beginsWith_congr {m m' : Mem} {a a' len : Nat} (h : CString m a len)
    (hsame : Same m a m' a' (len + 1)) (mangled : List UInt8) (cch : Nat) :
    beginsWith m a mangled cch = beginsWith m' a' mangled cch := by
  have hlen : strlenGt m a cch = strlenGt m' a' cch := by
    rw [Bool.eq_iff_iff, h.strlenGt_iff, (h.congr hsame).strlenGt_iff]
  unfold beginsWith
  rw [← hlen]
  cases hgt : strlenGt m a cch with
  | false => rfl
  | true  =>
      have hcch := (h.strlenGt_iff cch).mp hgt
      rw [(hsame.mono (Nat.le_refl a) (by omega) (by omega) : Same m a m' a' cch).read_eq]

/-- Whether a string is the name of a fixture depends only on the string. -/
theorem CString.isFixtureExport_congr {m m' : Mem} {a a' len : Nat} (h : CString m a len)
    (hsame : Same m a m' a' (len + 1)) (w : Width) : isFixtureExport w m a = isFixtureExport w m' a' := by
  cases w with
  | w32 => exact h.beginsWith_congr hsame _ _
  | w64 => exact h.beginsWith_congr hsame _ _

/-! ## The walks -/

section Walks

variable {w : Width} {file image : Mem}

/-- The walk of the query, if the names are translated. -/
theorem findFixtureName_iff {win64 : Width} {ntHeader names n index : Nat} {named : Nat → Bool}
    (h : ∀ i, index ≤ i → i < index + n → ∃ p,
      ptrFromVaNonRelocated w file ntHeader (load 4 file (pointer w (names + 4 * i))) = some p ∧
      isFixtureExport win64 file p = named i) :
    findFixtureName w win64 file ntHeader names n index = true ↔ ∃ i, index ≤ i ∧ i < index + n ∧ named i = true := by
  induction n generalizing index with
  | zero =>
      constructor
      · intro hfalse
        cases hfalse
      · rintro ⟨i, hlo, hhi, -⟩
        omega
  | succ n ih =>
      obtain ⟨p, hp, hnamed⟩ := h index (Nat.le_refl _) (by omega)
      have hrest := @ih (index + 1) (fun i hlo hhi => h i (by omega) (by omega))
      rw [findFixtureName, hp]
      simp only [hnamed]
      cases hhead : named index with
      | true  =>
          simp only [if_true]
          exact iff_of_true trivial ⟨index, Nat.le_refl _, by omega, hhead⟩
      | false =>
          simp only [Bool.false_eq_true, if_false]
          rw [hrest]
          constructor
          · rintro ⟨i, hlo, hhi, hi⟩
            exact ⟨i, by omega, by omega, hi⟩
          · rintro ⟨i, hlo, hhi, hi⟩
            have hne : i ≠ index := by
              rintro rfl
              rw [hhead] at hi
              cases hi
            exact ⟨i, by omega, by omega, hi⟩

variable (w image)

/-- The export has the name of a fixture. -/
def NamedFixture (e : ExportDirectory) (index : Nat) : Prop :=
  isFixtureExport w image (exportName w image e index) = true

/-- The loader takes the export for a forwarder. -/
def IsForwarder (dir : DataDirectory) (e : ExportDirectory) (index : Nat) : Prop :=
  dir.isForwarder (functionRva w image e index) = true

variable {w image} {φ : Type} {env : LoaderEnvironment φ}

/-- The walk of the loader: whatever becomes of the first export that it treats as a fixture, it treats it as one. -/
theorem loadExports_treated_iff {dir : DataDirectory} {e : ExportDirectory} {n index allocated : Nat}
    {fixtures : List φ} : (loadExports w image env dir e n index allocated fixtures).treated ≠ [] ↔
      ∃ i, index ≤ i ∧ i < index + n ∧ NamedFixture w image e i ∧ ¬ IsForwarder w image dir e i := by
  induction n generalizing index allocated fixtures with
  | zero =>
      constructor
      · intro hnil
        exact absurd rfl hnil
      · rintro ⟨i, hlo, hhi, -⟩
        omega
  | succ n ih =>
      -- an export that is not treated as a fixture does not count
      have hskip (allocated : Nat) (hhead : ¬ (NamedFixture w image e index ∧ ¬ IsForwarder w image dir e index)) :
          (loadExports w image env dir e n (index + 1) allocated fixtures).treated ≠ [] ↔
            ∃ i, index ≤ i ∧ i < index + (n + 1) ∧ NamedFixture w image e i ∧ ¬ IsForwarder w image dir e i := by
        rw [ih]
        constructor
        · rintro ⟨i, hlo, hhi, hi⟩
          exact ⟨i, by omega, by omega, hi⟩
        · rintro ⟨i, hlo, hhi, hi⟩
          have hne : i ≠ index := by
            rintro rfl
            exact hhead hi
          exact ⟨i, by omega, by omega, hi⟩
      rw [loadExports]
      by_cases hforwarder : dir.isForwarder (functionRva w image e index) = true
      · rw [if_pos hforwarder]
        exact hskip allocated (fun h => h.2 hforwarder)
      · rw [if_neg hforwarder]
        by_cases hnamed : isFixtureExport w image (exportName w image e index) = true
        · rw [if_pos hnamed]
          refine iff_of_true ?_ ⟨index, Nat.le_refl _, by omega, hnamed, hforwarder⟩
          dsimp only
          split
          · exact List.cons_ne_nil _ _
          · exact List.cons_ne_nil _ _
        · rw [if_neg hnamed]
          exact hskip allocated (fun h => hnamed h.1)

theorem addFixture_length {allocated allocated' : Nat} {fixtures fixtures' : List φ} {x : Export}
    (h : env.addFixture allocated fixtures x = .ok (allocated', fixtures')) :
    fixtures'.length = fixtures.length + 1 := by
  unfold LoaderEnvironment.addFixture at h
  dsimp only at h
  generalize (if (fixtures.length == allocated) = true then dword (allocated * 2) else allocated) = size at h
  split at h
  · cases h
  · cases hfixture : env.createFixture x with
    | error hr   =>
        rw [hfixture] at h
        cases h
    | ok fixture =>
        rw [hfixture] at h
        cases h
        exact List.length_append

/-- Each export that is treated as a fixture becomes one, if the loader succeeds. -/
theorem loadExports_length {dir : DataDirectory} {e : ExportDirectory} {n index allocated : Nat}
    {fixtures loaded : List φ} (h : (loadExports w image env dir e n index allocated fixtures).fixtures = .ok loaded) :
    loaded.length = fixtures.length + (loadExports w image env dir e n index allocated fixtures).treated.length := by
  induction n generalizing index allocated fixtures with
  | zero =>
      cases h
      rfl
  | succ n ih =>
      rw [loadExports] at h ⊢
      dsimp only at h ⊢
      split at h
      · rename_i hforwarder
        rw [if_pos hforwarder]
        exact ih h
      · rename_i hforwarder
        rw [if_neg hforwarder]
        split at h
        · rename_i hnamed
          rw [if_pos hnamed]
          split at h
          · cases h
          · rename_i hadd
            have hlength := ih h
            have hone := addFixture_length hadd
            rw [List.length_cons]
            omega
        · rename_i hnamed
          rw [if_neg hnamed]
          exact ih h

/-- **The fixtures of the loader** are the exports that it treats as fixtures. -/
theorem loadFixtures_length {loaded : List φ} (h : (loadFixturesFromPeImage w image env).fixtures = .ok loaded) :
    loaded.length = (loadFixturesFromPeImage w image env).treated.length := by
  unfold loadFixturesFromPeImage at h ⊢
  split at h
  · cases h
  · rename_i hmalloc
    rw [if_neg hmalloc]
    split at h
    · cases h
    · rename_i hsignature
      rw [if_neg hsignature]
      dsimp only at h ⊢
      split at h
      · rename_i hfunctions
        rw [if_pos hfunctions]
        exact (loadExports_length h).trans (Nat.zero_add _)
      · rename_i hfunctions
        rw [if_neg hfunctions]
        cases h
        rfl

end Walks

/-- The loader reads the function of the name's ordinal iff the biased ordinal fits a `WORD`. -/
theorem functionIndex_eq_iff {nameOrdinal base : Nat} (ho : nameOrdinal < 2 ^ 16) (hbase : base < 2 ^ 32) :
    functionIndex nameOrdinal base = nameOrdinal ↔ (nameOrdinal + base) % 2 ^ 32 < 2 ^ 16 := by
  unfold functionIndex dword
  dsimp only
  omega

/-! ## Agreement -/

section Agreement

variable {w : Width} {file image : Mem} {fileSize : Nat}

/-- The names lie in the image as they lie in what loading makes of the file. -/
theorem ExportsInData.name {e : ExportDirectory} (h : ExportsInData file e) (hloaded : Loaded file image) {i : Nat}
    (hi : i < e.numberOfNames) : ∃ len, CString image (load 4 image (e.addressOfNames + 4 * i)) len ∧
      InData file (load 4 image (e.addressOfNames + 4 * i)) (len + 1) := by
  have harray : InData file (e.addressOfNames + 4 * i) 4 := (h.nameArray (by omega)).mono (by omega) (by omega)
  obtain ⟨len, hstring, hdata⟩ := h.names i hi
  rw [(hloaded.same harray).load_eq] at hstring hdata
  exact ⟨len, hstring.congr (hloaded.same hdata), hdata⟩

/-- The query finds the names of the exports, and takes those for names of fixtures that the loader does. -/
theorem WellFormed.translated_name (h : WellFormed w file fileSize) (hloaded : Loaded file image) {e : ExportDirectory}
    (hexports : ExportsInData file e) {names : Nat} (hlt : e.addressOfNames + 4 * e.numberOfNames < 2 ^ 32)
    (hnamesLt : names + 4 * e.numberOfNames < 2 ^ 32)
    (hsame : Same file names image e.addressOfNames (4 * e.numberOfNames)) {i : Nat} (hi : i < e.numberOfNames) :
    ∃ p, ptrFromVaNonRelocated w file (eLfanew file) (load 4 file (pointer w (names + 4 * i))) = some p ∧
      isFixtureExport w file p = isFixtureExport w image (exportName w image e i) := by
  obtain ⟨len, hstring, hdata⟩ := hexports.name hloaded hi
  obtain ⟨hrva, p, hp, -, hpSame⟩ := h.translated w hloaded hdata (by omega)
  have hload : load 4 file (pointer w (names + 4 * i)) = load 4 image (e.addressOfNames + 4 * i) := by
    rw [pointer_of_lt w (by omega)]
    exact (hsame.mono (by omega) (by omega) (by omega)).load_eq
  have hexport : exportName w image e i = load 4 image (e.addressOfNames + 4 * i) := by
    rw [exportName, pointer_of_lt w (show e.addressOfNames + 4 * i < 2 ^ 32 by omega), pointer_of_lt w (by omega)]
  have hback : Same image (load 4 image (e.addressOfNames + 4 * i)) file p (len + 1) := fun j hj => (hpSame j hj).symm
  refine ⟨p, ?_, ?_⟩
  · rw [hload]
    exact hp
  · rw [hexport]
    exact (hstring.isFixtureExport_congr hback w).symm

/-- **The query** finds an export directory in a section, and reports whether it has the name of a fixture. -/
theorem queryExports_iff (h : WellFormed w file fileSize) (hloaded : Loaded file image) {dir : DataDirectory}
    {e : ExportDirectory} (hdir : InData file dir.virtualAddress 40)
    (he : ExportDirectory.load image dir.virtualAddress = e) (hexports : ExportsInData file e) :
    queryExports w w file (eLfanew file) dir = true ↔
      0 < e.numberOfFunctions ∧ ∃ i < e.numberOfNames, NamedFixture w image e i := by
  obtain ⟨-, p, hp, -, hsame⟩ := h.translated w hloaded hdir (by decide)
  have hload : ExportDirectory.load file p = e := (ExportDirectory.load_congr hsame).trans he
  unfold queryExports
  rw [hp]
  dsimp only
  rw [hload]
  by_cases hnames : 0 < e.numberOfNames
  · by_cases hfunctions : 0 < e.numberOfFunctions
    · obtain ⟨-, functions, hfunctionsPtr, -, -⟩ := h.translated w hloaded (hexports.functions hfunctions) (by omega)
      obtain ⟨hlt, names, hnamesPtr, hnamesLe, hnamesSame⟩ :=
        h.translated w hloaded (hexports.nameArray hnames) (by omega)
      have hnamesLt : names + 4 * e.numberOfNames < 2 ^ 32 := Nat.lt_of_le_of_lt hnamesLe h.size.2
      -- both pointers are there, so that the walk decides
      rw [hnamesPtr, hfunctionsPtr]
      dsimp only
      have hnamed (i : Nat) (_ : 0 ≤ i) (hi : i < 0 + e.numberOfNames) :=
        h.translated_name hloaded hexports hlt hnamesLt hnamesSame (show i < e.numberOfNames by omega)
      rw [if_pos hfunctions, findFixtureName_iff hnamed]
      constructor
      · rintro ⟨i, -, hi, hi'⟩
        exact ⟨hfunctions, i, by omega, hi'⟩
      · rintro ⟨-, i, hi, hi'⟩
        exact ⟨i, by omega, by omega, hi'⟩
    · refine iff_of_false ?_ (fun hand => hfunctions hand.1)
      split
      · rw [if_neg hfunctions]
        exact Bool.false_ne_true
      · exact Bool.false_ne_true
  · refine iff_of_false ?_ ?_
    · have hzero : e.numberOfNames = 0 := by omega
      rw [hzero]
      split
      · split
        · exact Bool.false_ne_true
        · exact Bool.false_ne_true
      · exact Bool.false_ne_true
    · rintro ⟨-, i, hi, -⟩
      omega

/-- Without an export directory the query reports nothing. -/
theorem queryExports_absent (h : WellFormed w file fileSize) {dir : DataDirectory} (hdir : dir.virtualAddress = 0) :
    queryExports w w file (eLfanew file) dir = false := by
  have htable := h.table
  have hoptional := h.optional
  have hoffset : 120 ≤ dataDirectoryOffset w := by cases w <;> decide
  have hnone : ptrFromVaNonRelocated w file (eLfanew file) dir.virtualAddress = none := by
    apply lookupSection_none w
    intro s hs
    have hbehind := (h.sections s hs).1
    omega
  rw [queryExports, hnone]

/-- The export directory that the loader reads. -/
def exportDirectory (w : Width) (image : Mem) : ExportDirectory :=
  .load image (exportDataDir w image (eLfanew image)).virtualAddress

/-- An export has the name of a fixture. -/
def NamesFixture (w : Width) (image : Mem) : Prop :=
  0 < (exportDirectory w image).numberOfFunctions ∧
    ∃ i < (exportDirectory w image).numberOfNames, NamedFixture w image (exportDirectory w image) i

/-- An export has the name of a fixture, and is not a forwarder. -/
def NamesOwnFixture (w : Width) (image : Mem) : Prop :=
  0 < (exportDirectory w image).numberOfFunctions ∧
    ∃ i < (exportDirectory w image).numberOfNames, NamedFixture w image (exportDirectory w image) i ∧
      ¬ IsForwarder w image (exportDataDir w image (eLfanew image)) (exportDirectory w image) i

/-- The query succeeds, and reports fixtures iff the loader treats an export as a fixture. -/
def Agree {φ : Type} (w : Width) (mapFile : String → Except HRESULT Mem) (path : String) (image : Mem)
    (env : LoaderEnvironment φ) : Prop :=
  ∃ info, queryPeImage w mapFile (some path) (some sizeofModuleInfo) = .ok info ∧
    (info.fixtureExportsPresent = true ↔ (loadFixturesFromPeImage w image env).treated ≠ [])

/-- **The loader** treats an export as a fixture iff one is not a forwarder and has the name of a fixture. -/
theorem loadFixtures_treated_iff {φ : Type} (h : WellFormed w file fileSize) (hloaded : Loaded file image)
    (env : LoaderEnvironment φ) :
    (loadFixturesFromPeImage w image env).treated ≠ [] ↔ env.malloc = true ∧ NamesOwnFixture w image := by
  have hsignature : load 4 image (eLfanew image) = imageNtSignature := by
    rw [h.eLfanew_eq hloaded]
    exact h.ntSignature_eq hloaded
  unfold loadFixturesFromPeImage NamesOwnFixture exportDirectory
  cases hmalloc : env.malloc with
  | false => simp
  | true  =>
      simp only [Bool.not_true, Bool.false_eq_true, if_false, hsignature, ne_eq, not_true_eq_false, true_and]
      generalize exportDataDir w image (eLfanew image) = dir
      generalize ExportDirectory.load image dir.virtualAddress = e
      by_cases hfunctions : 0 < e.numberOfFunctions
      · rw [if_pos hfunctions, ← ne_eq, loadExports_treated_iff]
        constructor
        · rintro ⟨i, -, hi, hown⟩
          exact ⟨hfunctions, i, by omega, hown⟩
        · rintro ⟨-, i, hi, hown⟩
          exact ⟨i, by omega, by omega, hown⟩
      · rw [if_neg hfunctions]
        exact iff_of_false (fun hnil => hnil rfl) (fun hand => hfunctions hand.1)

/-- The query of a well-formed image succeeds. -/
theorem queryPeImage_ok (h : WellFormed w file fileSize) (mapFile : String → Except HRESULT Mem) (path : String)
    (hmap : mapFile path = .ok file) :
    ∃ info, queryPeImage w mapFile (some path) (some sizeofModuleInfo) = .ok info ∧
      info.fixtureExportsPresent = queryExports w w file (eLfanew file) (exportDataDir w file (eLfanew file)) := by
  have hoptional : queryOptionalHeader file (eLfanew file) =
      some (subsystem file (eLfanew file), w, exportDataDir w file (eLfanew file)) := by
    unfold queryOptionalHeader
    rw [h.magic]
    cases w with
    | w32 => rfl
    | w64 => rfl
  have hlong : long w (eLfanew file) = eLfanew file := long_of_lt w h.ntHeaders
  unfold queryPeImage
  simp only [hmap, hlong, h.dosSignature, h.ntSignature, queryNtHeader, hoptional, ne_eq, not_true_eq_false, if_false]
  exact ⟨_, rfl, rfl⟩

/-- **When the query and the loader agree.** With an export directory: if an export has the name of a fixture,
    then one with such a name is not a forwarder. Without one: the DOS header, read as an export directory, does
    not name a fixture. -/
theorem query_agrees_iff {φ : Type} {mapFile : String → Except HRESULT Mem} {path : String}
    (env : LoaderEnvironment φ) (hmap : mapFile path = .ok file) (h : WellFormed w file fileSize)
    (hloaded : Loaded file image) :
    Agree w mapFile path image env ↔
      if (exportDataDir w image (eLfanew image)).virtualAddress = 0 then
        ¬ (env.malloc = true ∧ NamesOwnFixture w image)
      else NamesFixture w image → env.malloc = true ∧ NamesOwnFixture w image := by
  have hnt := h.eLfanew_eq hloaded
  have hdir : exportDataDir w image (eLfanew image) = exportDataDir w file (eLfanew file) := by
    rw [hnt]
    exact h.exportDataDir_eq hloaded
  have hagree : Agree w mapFile path image env ↔
      (queryExports w w file (eLfanew file) (exportDataDir w file (eLfanew file)) = true ↔
        env.malloc = true ∧ NamesOwnFixture w image) := by
    obtain ⟨info, hinfo, hpresent⟩ := queryPeImage_ok h mapFile path hmap
    unfold Agree
    rw [hinfo, ← loadFixtures_treated_iff h hloaded env, ← hpresent]
    constructor
    · rintro ⟨info', heq, hiff⟩
      cases heq
      exact hiff
    · intro hiff
      exact ⟨info, rfl, hiff⟩
  rw [hagree, hdir]
  split
  · -- the RVA 0 is in no section
    rename_i hzero
    rw [queryExports_absent h hzero]
    simp
  · rename_i hne
    obtain ⟨hdata, hexports⟩ := h.exports.resolve_left hne
    have he : ExportDirectory.load (mapImage file) (exportDataDir w file (eLfanew file)).virtualAddress =
        exportDirectory w image := by
      rw [exportDirectory, hdir]
      exact ExportDirectory.load_congr (hloaded.same hdata)
    rw [he] at hexports
    have hquery : queryExports w w file (eLfanew file) (exportDataDir w file (eLfanew file)) = true ↔
        NamesFixture w image := by
      apply queryExports_iff h hloaded hdata _ hexports
      rw [exportDirectory, hdir]
    rw [hquery]
    constructor
    · exact Iff.mp
    -- the other direction always holds: what the loader takes has the name of a fixture
    · intro hown
      refine ⟨hown, ?_⟩
      rintro ⟨-, hfunctions, i, hi, hnamed, -⟩
      exact ⟨hfunctions, i, hi, hnamed⟩

end Agreement

/-- A DLL with one export, which has the name of a fixture and is a forwarder: its RVA is that of the string
    `B.F` inside of the export directory. -/
def forwarderFile : Mem :=
  let fields : List (Nat × Nat × Nat) :=
    [(2, 0, 0x5A4D), (4, 60, 64),
     (4, 64, 0x4550), (2, 68, 0x8664), (2, 70, 1), (2, 84, 120), (2, 86, 0x2002),
     (2, 88, 0x20B), (4, 148, 248), (2, 156, 3), (4, 200, 0x1000), (4, 204, 0x60),
     (4, 216, 0x60), (4, 220, 0x1000), (4, 224, 0x60), (4, 228, 248),
     (4, 264, 1), (4, 268, 1), (4, 272, 1), (4, 276, 0x1028), (4, 280, 0x102C), (4, 284, 0x1030),
     (4, 288, 0x1050), (4, 292, 0x1032), (1, 313, 0x58), (1, 328, 0x42), (1, 329, 0x2E), (1, 330, 0x46)]
  let file := fields.foldl (fun m field => store field.1 m field.2.1 field.2.2) (fun _ => 0)
  write file 298 fixtureExportPrefix

theorem forwarderFile_wellFormed : WellFormed .w64 forwarderFile 344 where
  dosSignature := by decide +kernel
  ntSignature  := by decide +kernel
  magic        := by decide +kernel
  ntHeaders    := by decide +kernel
  optional     := by decide +kernel
  table        := by decide +kernel
  size         := by decide +kernel
  sections     := by decide +kernel
  ascending    := by decide +kernel
  exports      := by
    right
    refine ⟨by decide +kernel, ?_, ?_, ?_⟩
    · decide +kernel
    · decide +kernel
    · intro i hi
      have hone : (ExportDirectory.load (mapImage forwarderFile)
        (exportDataDir .w64 forwarderFile (eLfanew forwarderFile)).virtualAddress).numberOfNames = 1 := by
        decide +kernel
      rw [hone] at hi
      obtain rfl : i = 0 := by omega
      exact ⟨16, by decide +kernel, by decide +kernel⟩

def plentifulEnvironment : LoaderEnvironment Export where
  dbg           := false
  malloc        := true
  realloc       := fun _ => true
  createFixture := .ok

theorem query_agrees_forwarderFile :
    Agree .w64 (fun _ => .ok forwarderFile) "forwarder.dll" (mapImage forwarderFile) plentifulEnvironment ↔
      if (exportDataDir .w64 (mapImage forwarderFile) (eLfanew (mapImage forwarderFile))).virtualAddress = 0 then
        ¬ (plentifulEnvironment.malloc = true ∧ NamesOwnFixture .w64 (mapImage forwarderFile))
      else NamesFixture .w64 (mapImage forwarderFile) →
        plentifulEnvironment.malloc = true ∧ NamesOwnFixture .w64 (mapImage forwarderFile) :=
  query_agrees_iff plentifulEnvironment rfl forwarderFile_wellFormed (loaded_mapImage forwarderFile)

/-- The query reports the fixture of this DLL, the loader finds a forwarder. -/
theorem query_disagrees_forwarderFile :
    ¬ ∀ (w : Width) (file image : Mem) (fileSize : Nat) (mapFile : String → Except HRESULT Mem) (path : String)
        (env : LoaderEnvironment Export), env.malloc = true → mapFile path = .ok file →
      WellFormed w file fileSize → Loaded file image → Agree w mapFile path image env := by
  intro h
  obtain ⟨info, hquery, hiff⟩ := h .w64 forwarderFile (mapImage forwarderFile) 344 (fun _ => .ok forwarderFile)
    "forwarder.dll" plentifulEnvironment rfl rfl forwarderFile_wellFormed (loaded_mapImage forwarderFile)
  obtain ⟨info', hquery', hpresent⟩ :=
    queryPeImage_ok forwarderFile_wellFormed (fun _ => .ok forwarderFile) "forwarder.dll" rfl
  have hinfo : info = info' := Except.ok.inj (hquery.symm.trans hquery')
  have hfound : queryExports .w64 .w64 forwarderFile (eLfanew forwarderFile)
      (exportDataDir .w64 forwarderFile (eLfanew forwarderFile)) = true := by
    decide +kernel
  have hnone : (loadFixturesFromPeImage .w64 (mapImage forwarderFile) plentifulEnvironment).treated = [] := by
    decide +kernel
  rw [hinfo, hpresent] at hiff
  exact hiff.mp hfound hnone

end Cfix.PeImage
