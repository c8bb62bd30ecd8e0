import Cfix.Pe.Loader

/-!
# `Pe.Selected` — the exports that become fixtures

An export is selected if its name is that of a fixture and the function of its ordinal is not a forwarder. The walks look
for the function at another index, `Ordinal - Base` for a sum of 16 bits, and select the same exports where this does not
matter.
-/

namespace Cfix.PeLoader

open Memory PeImage
open Events (Width ntSuccess)
open Unload (NTSTATUS statusSuccess)

/-! ## Valid export directories -/

/-- The export directory of the file. -/
def fileDirectory (w : Width) (file : Mem) : DataDirectory := exportDataDir w file (eLfanew file)

def fileExports (w : Width) (file : Mem) : ExportDirectory :=
  .load (mapImage file) (fileDirectory w file).virtualAddress

/-- There is an export directory, with an ordinal for each name, which is the index of a function. -/
structure ValidExports (w : Width) (file : Mem) (fileSize : Nat) : Prop extends WellFormed w file fileSize where
  present      : (fileDirectory w file).virtualAddress ≠ 0
  directory    : (fileDirectory w file).virtualAddress + (fileDirectory w file).size < 2 ^ 32
  ordinalArray : 0 < (fileExports w file).numberOfNames →
    InData file (fileExports w file).addressOfNameOrdinals (2 * (fileExports w file).numberOfNames)
  ordinals     : ∀ i < (fileExports w file).numberOfNames,
    load 2 (mapImage file) ((fileExports w file).addressOfNameOrdinals + 2 * i) < (fileExports w file).numberOfFunctions

/-! ## Selected exports -/

section

variable (w : Width) (image : Mem)

/-- `AddressOfFunctions[ AddressOfNameOrdinals[ i ] ]`. -/
def ownRva (e : ExportDirectory) (i : Nat) : Nat :=
  load 4 image (e.addressOfFunctions + 4 * load 2 image (e.addressOfNameOrdinals + 2 * i))

/-- An RVA in the export directory. -/
def Forwards (dir : DataDirectory) (rva : Nat) : Prop :=
  dir.virtualAddress ≤ rva ∧ rva < dir.virtualAddress + dir.size

instance (dir : DataDirectory) (rva : Nat) : Decidable (Forwards dir rva) := inferInstanceAs (Decidable (_ ∧ _))

/-- The export with this index, if it is to become a fixture. -/
def selectedExport (dir : DataDirectory) (e : ExportDirectory) (i : Nat) : Option Export :=
  if isFixtureExport w image (exportName w image e i) = true ∧ ¬ Forwards dir (ownRva image e i) then
    some ⟨exportName w image e i, ownRva image e i⟩
  else none

/-- The turns of these exports, in the order of the names. -/
def turnsOf (f : Nat → Option Export) (n : Nat) : List Turn := (List.range n).filterMap fun i => (f i).map (Turn.mk i)

/-- The turns of the exports that are to become fixtures. -/
def selectedTurns : List Turn :=
  let dir := exportDataDir w image (eLfanew image)
  let e := exportDirectory w image
  turnsOf (selectedExport w image dir e) e.numberOfNames

end

/-! ## What the walks are to do -/

section

variable {φ ψ : Type}

/-- A fixture for each of the turns, the first of which is the fixture with this index. -/
inductive CreatedFrom (create : Nat → Export → Except HRESULT φ) : Nat → List Turn → List φ → Prop where
  | nil {k : Nat} : CreatedFrom create k [] []
  | cons {k : Nat} {t : Turn} {ts : List Turn} {fixture : φ} {fixtures : List φ} :
      create k t.passed = .ok fixture → CreatedFrom create (k + 1) ts fixtures →
      CreatedFrom create k (t :: ts) (fixture :: fixtures)

/-- The array is full with this many fixtures. -/
def LoadHost.Full (host : LoadHost φ) (k : Nat) : Prop := ∃ i, k = host.allocatedFixtures * 2 ^ i

/-- There is no place for the fixture with this index: the array is full, and cannot be enlarged. -/
def NoPlace (w : Width) (host : LoadHost φ) (k : Nat) : Prop :=
  host.Full k ∧ host.realloc (arrayBytes w (k * 2)) = false

/-- Why there is no fixture with this index: it has no place, or cannot be created. -/
def Fails (w : Width) (host : LoadHost φ) (k : Nat) (t : Turn) (hr : HRESULT) : Prop :=
  NoPlace w host k ∧ hr = eOutofmemory ∨ ¬ NoPlace w host k ∧ host.create k t.passed = .error hr

/-- The module gets a fixture for each turn; or one of them or its place in the array fails, or the array, and nothing is
    left. -/
inductive LoadsTurns (w : Width) (host : LoadHost φ) (turns : List Turn) : LoadedModule φ → Prop where
  | loaded {fixtures : List φ} (hmalloc : host.malloc (arrayBytes w host.allocatedFixtures) = true)
      (hcreated : CreatedFrom host.create 0 turns fixtures) (hplaces : ∀ k < turns.length, ¬ NoPlace w host k) :
      LoadsTurns w host turns ⟨sOk, some fixtures, fixtures, true, turns⟩
  | failed {pre post : List Turn} {t : Turn} {fixtures : List φ} {hr : HRESULT}
      (hmalloc : host.malloc (arrayBytes w host.allocatedFixtures) = true) (hturns : turns = pre ++ t :: post)
      (hcreated : CreatedFrom host.create 0 pre fixtures) (hplaces : ∀ k < pre.length, ¬ NoPlace w host k)
      (hfails : Fails w host pre.length t hr) :
      LoadsTurns w host turns ⟨hr, none, [], false, pre ++ [t]⟩
  | noMemory (h : host.malloc (arrayBytes w host.allocatedFixtures) = false) :
      LoadsTurns w host turns ⟨eOutofmemory, none, [], false, []⟩

/-- The adapter of the kernel gets an entry for each turn, or for those in front of one that fails. -/
inductive InitializesTurns (host : KernelHost ψ) : Nat → List Turn → KernelWalk ψ → Prop where
  | done {k : Nat} : InitializesTurns host k [] ⟨statusSuccess, [], []⟩
  | failed {k : Nat} {t : Turn} {ts : List Turn} {status : NTSTATUS} :
      host.initializeFixture k t.passed = .error status → InitializesTurns host k (t :: ts) ⟨status, [], [t]⟩
  | initialized {k : Nat} {t : Turn} {ts : List Turn} {entry : ψ} {r : KernelWalk ψ} :
      host.initializeFixture k t.passed = .ok entry → InitializesTurns host (k + 1) ts r →
      InitializesTurns host k (t :: ts) ⟨r.status, entry :: r.entries, t :: r.turns⟩

end

/-- The loader and the walk of the kernel make fixtures of the selected exports. -/
structure WalksSelected (w : Width) (image : Mem) : Prop where
  loader : ∀ (φ : Type) (host : LoadHost φ), ∃ r, loadFixturesFromPeImage w image host = .ok r ∧
    LoadsTurns w host (selectedTurns w image) r
  kernel : ∀ (ψ : Type) (host : KernelHost ψ), InitializesTurns host 0 (selectedTurns w image)
    (walkExportDirectoryAndExtractFixtures w image host (exportDataDir w image (eLfanew image)) (exportDirectory w image))

/-- It does not matter at which index the function is looked for: the RVA is the same, or both are forwarders. -/
def SameFunction (w : Width) (image : Mem) (i : Nat) : Prop :=
  let dir := exportDataDir w image (eLfanew image)
  let e := exportDirectory w image
  functionRva w image e i = ownRva image e i ∨ Forwards dir (functionRva w image e i) ∧ Forwards dir (ownRva image e i)

/-- The number of fixtures that the array has room for. -/
def maxFixtures : Width → Nat
  | .w32 => 2 ^ 29
  | .w64 => 2 ^ 31

/-! ## Turns -/

section Turns

variable {w : Width} {image : Mem} {dir : DataDirectory} {e : ExportDirectory}

/-- The export with this index, if the walks make a fixture of it. -/
def walkedExport (w : Width) (image : Mem) (dir : DataDirectory) (e : ExportDirectory) (i : Nat) : Option Export :=
  if dir.isForwarder (functionRva w image e i) then none
  else if isFixtureExport w image (exportName w image e i) then
    some ⟨exportName w image e i, pointer w (functionRva w image e i)⟩
  else none

theorem mem_turnsOf {f : Nat → Option Export} {n : Nat} {t : Turn} :
    t ∈ turnsOf f n ↔ t.index < n ∧ f t.index = some t.passed := by
  rw [turnsOf, List.mem_filterMap]
  constructor
  · rintro ⟨i, hi, ht⟩
    obtain ⟨x, hx, rfl⟩ := Option.map_eq_some_iff.mp ht
    exact ⟨List.mem_range.mp hi, hx⟩
  · rintro ⟨hlt, hx⟩
    exact ⟨t.index, List.mem_range.mpr hlt, by rw [hx]; rfl⟩

/-- Each turn says which export it is the turn of. -/
theorem turnsOf_eq_iff {f g : Nat → Option Export} {n : Nat} : turnsOf f n = turnsOf g n ↔ ∀ i < n, f i = g i := by
  constructor
  · intro h i hi
    have hmem : ∀ x, f i = some x ↔ g i = some x := by
      intro x
      have hiff : (⟨i, x⟩ : Turn) ∈ turnsOf f n ↔ (⟨i, x⟩ : Turn) ∈ turnsOf g n := by rw [h]
      rw [mem_turnsOf, mem_turnsOf] at hiff
      exact ⟨fun hf => (hiff.mp ⟨hi, hf⟩).2, fun hg => (hiff.mpr ⟨hi, hg⟩).2⟩
    exact Option.ext hmem
  · intro h
    refine List.filterMap_congr fun i hi => ?_
    rw [h i (List.mem_range.mp hi)]

theorem length_turnsOf_le (f : Nat → Option Export) (n : Nat) : (turnsOf f n).length ≤ n := by
  refine Nat.le_trans (List.length_filterMap_le _ _) ?_
  rw [List.length_range]

theorem functionRva_lt (i : Nat) : functionRva w image e i < 2 ^ 32 := load_lt ..

theorem isForwarder_iff (hdir : dir.virtualAddress + dir.size < 2 ^ 32) {rva : Nat} :
    dir.isForwarder rva = true ↔ Forwards dir rva := by
  rw [DataDirectory.isForwarder, decide_eq_true_eq, dword, Nat.mod_eq_of_lt hdir]
  exact Iff.rfl

/-- The walks select the same export if and only if its name is not that of a fixture or the function is the same. -/
theorem walkedExport_eq_iff (hdir : dir.virtualAddress + dir.size < 2 ^ 32) {i : Nat} :
    walkedExport w image dir e i = selectedExport w image dir e i ↔
      (NamedFixture w image e i → functionRva w image e i = ownRva image e i ∨
        Forwards dir (functionRva w image e i) ∧ Forwards dir (ownRva image e i)) := by
  unfold walkedExport selectedExport NamedFixture
  rw [pointer_of_lt w (functionRva_lt i)]
  by_cases hnamed : isFixtureExport w image (exportName w image e i) = true
  · simp only [hnamed, if_true, true_and, forall_const]
    by_cases hwalked : Forwards dir (functionRva w image e i)
    · by_cases hown : Forwards dir (ownRva image e i)
      · rw [if_pos ((isForwarder_iff hdir).mpr hwalked), if_neg (not_not.mpr hown)]
        exact iff_of_true rfl (.inr ⟨hwalked, hown⟩)
      · rw [if_pos ((isForwarder_iff hdir).mpr hwalked), if_pos hown]
        refine iff_of_false nofun ?_
        rintro (heq | ⟨-, hown'⟩)
        · exact hown (heq ▸ hwalked)
        · exact hown hown'
    · rw [if_neg (mt (isForwarder_iff hdir).mp hwalked)]
      by_cases hown : Forwards dir (ownRva image e i)
      · rw [if_neg (not_not.mpr hown)]
        refine iff_of_false nofun ?_
        rintro (heq | ⟨hwalked', -⟩)
        · exact hwalked (heq ▸ hown)
        · exact hwalked hwalked'
      · rw [if_pos hown]
        constructor
        · intro heq
          exact .inl (Export.mk.inj (Option.some.inj heq)).2
        · rintro (heq | ⟨hwalked', -⟩)
          · rw [heq]
          · exact absurd hwalked' hwalked
  · refine iff_of_true ?_ fun h => absurd h hnamed
    rw [if_neg hnamed, ite_self, if_neg fun h => hnamed h.1]

end Turns

/-! ## The walks, turn by turn -/

section Walks

variable {w : Width} {image : Mem} {dir : DataDirectory} {e : ExportDirectory} {φ ψ : Type}

/-- The fixtures for a list of turns. -/
def addFixtures (w : Width) (host : LoadHost φ) : Nat → List φ → List Turn → Walk φ
  | _,         fixtures, []      => ⟨none, fixtures, []⟩
  | allocated, fixtures, t :: ts =>
    match addFixture w host allocated fixtures t.passed with
    | .error stop               => ⟨some stop, fixtures, [t]⟩
    | .ok (allocated, fixtures) =>
      let r := addFixtures w host allocated fixtures ts
      { r with turns := t :: r.turns }

/-- The entries for a list of turns. -/
def initializeFixtures (host : KernelHost ψ) : List ψ → List Turn → KernelWalk ψ
  | entries, []      => ⟨statusSuccess, entries, []⟩
  | entries, t :: ts =>
    match host.initializeFixture entries.length t.passed with
    | .error status => ⟨status, entries, [t]⟩
    | .ok entry     =>
      let r := initializeFixtures host (entries ++ [entry]) ts
      { r with turns := t :: r.turns }

/-- The loop over the names from an index on has the turns of the exports from there. -/
theorem walkExports_eq (host : LoadHost φ) (n index allocated : Nat) (fixtures : List φ) :
    walkExports w image host dir e n index allocated fixtures = addFixtures w host allocated fixtures
      ((List.range' index n).filterMap fun i => (walkedExport w image dir e i).map (Turn.mk i)) := by
  induction n generalizing index allocated fixtures with
  | zero => rfl
  | succ n ih =>
      rw [walkExports, List.range'_succ, List.filterMap_cons, walkedExport]
      by_cases hforwarder : dir.isForwarder (functionRva w image e index) = true
      · simp only [hforwarder, if_true, Option.map_none]
        exact ih (index + 1) allocated fixtures
      · by_cases hnamed : isFixtureExport w image (exportName w image e index) = true
        · simp only [hforwarder, hnamed, if_true, Option.map_some, addFixtures, Bool.false_eq_true, if_false]
          cases addFixture w host allocated fixtures
              ⟨exportName w image e index, pointer w (functionRva w image e index)⟩ with
          | error stop => rfl
          | ok added =>
              simp only
              rw [ih]
        · simp only [hforwarder, hnamed, Option.map_none, Bool.false_eq_true, if_false]
          exact ih (index + 1) allocated fixtures

theorem kernelWalkNames_eq (host : KernelHost ψ) (n index : Nat) (entries : List ψ) :
    kernelWalkNames w image host dir e n index entries = initializeFixtures host entries
      ((List.range' index n).filterMap fun i => (walkedExport w image dir e i).map (Turn.mk i)) := by
  induction n generalizing index entries with
  | zero => rfl
  | succ n ih =>
      rw [kernelWalkNames, List.range'_succ, List.filterMap_cons, walkedExport]
      by_cases hforwarder : dir.isForwarder (functionRva w image e index) = true
      · simp only [hforwarder, if_true, Option.map_none]
        exact ih (index + 1) entries
      · by_cases hnamed : isFixtureExport w image (exportName w image e index) = true
        · simp only [hforwarder, hnamed, if_true, Option.map_some, initializeFixtures, Bool.false_eq_true, if_false]
          cases host.initializeFixture entries.length
              ⟨exportName w image e index, pointer w (functionRva w image e index)⟩ with
          | error status => rfl
          | ok entry =>
              simp only
              rw [ih]
        · simp only [hforwarder, hnamed, Option.map_none, Bool.false_eq_true, if_false]
          exact ih (index + 1) entries

/-- The kernel's entries are appended to those that are there. -/
theorem initializeFixtures_spec (host : KernelHost ψ) (entries : List ψ) (ts : List Turn) :
    ∃ r, InitializesTurns host entries.length ts r ∧
      initializeFixtures host entries ts = { r with entries := entries ++ r.entries } := by
  induction ts generalizing entries with
  | nil => exact ⟨_, .done, by simp [initializeFixtures]⟩
  | cons t ts ih =>
      rw [initializeFixtures]
      cases hinit : host.initializeFixture entries.length t.passed with
      | error status => exact ⟨_, .failed hinit, by simp⟩
      | ok entry =>
          obtain ⟨r, hr, hwalk⟩ := ih (entries ++ [entry])
          rw [List.length_append, List.length_singleton] at hr
          refine ⟨_, .initialized hinit hr, ?_⟩
          simp only
          rw [hwalk]
          simp

end Walks

/-! ## The array -/

section Room

variable {w : Width} {φ : Type} {host : LoadHost φ} {allocated count : Nat} {fixtures : List φ} {x : Export}

/-- The array has room for the fixtures, and is not larger than it has to be. -/
structure Room (allocated count : Nat) : Prop where
  positive : 0 < allocated
  le       : count ≤ allocated
  bound    : allocated ≤ 16 ∨ allocated ≤ 2 * count

theorem room_allocatedFixtures : Room host.allocatedFixtures 0 := by
  unfold LoadHost.allocatedFixtures
  cases host.dbg with
  | true  => exact ⟨by decide, by decide, .inl (by decide)⟩
  | false => exact ⟨by decide, by decide, .inl (by decide)⟩

/-- The size of an array does not wrap around as long as there are not too many fixtures. -/
theorem arrayBytes_eq (hbound : allocated ≤ 16 ∨ allocated ≤ 2 * count) (hcount : count < maxFixtures w) :
    arrayBytes w allocated = allocated * sizeofPointer w := by
  unfold arrayBytes
  cases w with
  | w32 =>
      have hlt : count < 2 ^ 29 := hcount
      exact Nat.mod_eq_of_lt (show allocated * 4 < 2 ^ 32 by omega)
  | w64 =>
      have hlt : count < 2 ^ 31 := hcount
      exact Nat.mod_eq_of_lt (show allocated * 8 < 2 ^ 64 by omega)

theorem maxFixtures_le (w : Width) : maxFixtures w ≤ 2 ^ 31 := by
  cases w <;> decide

/-- `AllocatedFixtures` after one more fixture. -/
def grown (allocated count : Nat) : Nat := if count = allocated then allocated * 2 else allocated

theorem Room.grown (h : Room allocated count) : Room (grown allocated count) (count + 1) := by
  have hpos := h.positive
  have hle := h.le
  have hbound := h.bound
  unfold PeLoader.grown
  split
  · exact ⟨by omega, by omega, by omega⟩
  · exact ⟨by omega, by omega, by omega⟩

/-- Where the size of the array does not wrap around, only `realloc` and the creation decide. -/
theorem addFixture_eq (host : LoadHost φ) (x : Export) (hroom : Room allocated fixtures.length)
    (hcount : fixtures.length < maxFixtures w) :
    addFixture w host allocated fixtures x =
      if fixtures.length = allocated ∧ host.realloc (arrayBytes w (fixtures.length * 2)) = false then
        .error (.code eOutofmemory)
      else
        match host.create fixtures.length x with
        | .error hr   => .error (.code hr)
        | .ok fixture => .ok (grown allocated fixtures.length, fixtures ++ [fixture]) := by
  have hmax := maxFixtures_le w
  have hpos := hroom.positive
  have hle := hroom.le
  have hpointer : 0 < sizeofPointer w := by cases w <;> decide
  -- the array after it has been enlarged, or as it is
  have hinside : ∀ allocated', fixtures.length + 1 ≤ allocated' → allocated' ≤ 16 ∨ allocated' ≤ 2 * fixtures.length →
      ¬ arrayBytes w allocated' < (fixtures.length + 1) * sizeofPointer w := by
    intro allocated' hfits hbound
    rw [arrayBytes_eq hbound hcount, Nat.not_lt]
    exact Nat.mul_le_mul_right _ hfits
  unfold addFixture grown
  by_cases hfull : fixtures.length = allocated
  · subst hfull
    have hdouble : dword (fixtures.length * 2) = fixtures.length * 2 := Nat.mod_eq_of_lt (by omega)
    have hbound : fixtures.length * 2 ≤ 16 ∨ fixtures.length * 2 ≤ 2 * fixtures.length := .inr (by omega)
    have hbytes : arrayBytes w (fixtures.length * 2) ≠ 0 := by
      rw [arrayBytes_eq hbound hcount]
      exact Nat.mul_ne_zero (by omega) (by omega)
    simp only [beq_self_eq_true, if_true, Bool.true_and, true_and, hdouble, beq_eq_false_iff_ne.mpr hbytes,
      Bool.false_eq_true, if_false]
    rw [if_neg (hinside _ (by omega) hbound)]
    cases host.realloc (arrayBytes w (fixtures.length * 2)) with
    | false => rfl
    | true  => rfl
  · have hbound := hroom.bound
    simp only [beq_eq_false_iff_ne.mpr hfull, Bool.false_eq_true, if_false, Bool.false_and, hfull, false_and]
    rewrite [if_neg (hinside _ (by omega) hbound)]
    rfl

/-- **One fixture**: it is added, or the full array cannot be enlarged, or the fixture not be created. -/
theorem addFixture_spec (host : LoadHost φ) (x : Export) (hroom : Room allocated fixtures.length)
    (hcount : fixtures.length < maxFixtures w) :
    let stuck := fixtures.length = allocated ∧ host.realloc (arrayBytes w (fixtures.length * 2)) = false
    (∃ fixture, addFixture w host allocated fixtures x = .ok (grown allocated fixtures.length, fixtures ++ [fixture]) ∧
      ¬ stuck ∧ host.create fixtures.length x = .ok fixture) ∨
    ∃ hr, addFixture w host allocated fixtures x = .error (.code hr) ∧
      (stuck ∧ hr = eOutofmemory ∨ ¬ stuck ∧ host.create fixtures.length x = .error hr) := by
  intro stuck
  rw [addFixture_eq host x hroom hcount]
  by_cases hstuck : stuck
  · rw [if_pos hstuck]
    exact .inr ⟨_, rfl, .inl ⟨hstuck, rfl⟩⟩
  · rw [if_neg hstuck]
    cases hx : host.create fixtures.length x with
    | error hr => exact .inr ⟨hr, rfl, .inr ⟨hstuck, rfl⟩⟩
    | ok fixture => exact .inl ⟨fixture, rfl, hstuck, rfl⟩

/-- The array has been doubled as often as the fixtures needed it. -/
def Doubled (initial allocated count : Nat) : Prop :=
  ∃ j, allocated = initial * 2 ^ j ∧ ∀ i < j, initial * 2 ^ i < count

theorem Doubled.grown {initial : Nat} (h : Doubled initial allocated count) :
    Doubled initial (grown allocated count) (count + 1) := by
  obtain ⟨j, rfl, hneeded⟩ := h
  unfold PeLoader.grown
  split
  · rename_i hfull
    refine ⟨j + 1, by rw [Nat.pow_succ, Nat.mul_assoc], fun i hi => ?_⟩
    rcases Nat.lt_succ_iff_lt_or_eq.mp hi with hlt | rfl
    · exact Nat.lt_succ_of_lt (hneeded i hlt)
    · rw [← hfull]
      exact Nat.lt_succ_self _
  · exact ⟨j, rfl, fun i hi => Nat.lt_succ_of_lt (hneeded i hi)⟩

/-- Then it is known which numbers of fixtures fill it. -/
theorem full_iff (hroom : Room allocated count) (hdoubled : Doubled host.allocatedFixtures allocated count) :
    count = allocated ↔ host.Full count := by
  obtain ⟨j, rfl, hneeded⟩ := hdoubled
  constructor
  · exact fun h => ⟨j, h⟩
  · rintro ⟨i, hi⟩
    rcases Nat.lt_trichotomy i j with hlt | rfl | hgt
    · exact absurd hi (Nat.ne_of_gt (hneeded i hlt))
    · exact hi
    · -- then it would be larger than the array
      have hle := hroom.le
      have hpos : 0 < host.allocatedFixtures := Nat.pos_of_mul_pos_right hroom.positive
      have hlt := Nat.mul_lt_mul_of_pos_left (Nat.pow_lt_pow_right (by decide : 1 < 2) hgt) hpos
      omega

/-- **The fixtures for a list of turns**: all of them, or those in front of one that fails. -/
theorem addFixtures_spec {ts : List Turn} (hroom : Room allocated fixtures.length)
    (hdoubled : Doubled host.allocatedFixtures allocated fixtures.length)
    (hcount : fixtures.length + ts.length ≤ maxFixtures w) :
    (∃ created, addFixtures w host allocated fixtures ts = ⟨none, fixtures ++ created, ts⟩ ∧
      CreatedFrom host.create fixtures.length ts created ∧
      ∀ k < ts.length, ¬ NoPlace w host (fixtures.length + k)) ∨
    ∃ hr pre t post created, ts = pre ++ t :: post ∧
      addFixtures w host allocated fixtures ts = ⟨some (.code hr), fixtures ++ created, pre ++ [t]⟩ ∧
      CreatedFrom host.create fixtures.length pre created ∧
      (∀ k < pre.length, ¬ NoPlace w host (fixtures.length + k)) ∧
      Fails w host (fixtures.length + pre.length) t hr := by
  induction ts generalizing allocated fixtures with
  | nil => exact .inl ⟨[], by simp [addFixtures], .nil, fun _ hk => absurd hk (Nat.not_lt_zero _)⟩
  | cons t ts ih =>
      rw [List.length_cons] at hcount
      rw [addFixtures]
      have hlt : fixtures.length < maxFixtures w := by omega
      have hspec := addFixture_spec host t.passed hroom hlt
      rw [full_iff hroom hdoubled] at hspec
      rcases hspec with ⟨fixture, hadd, hplace, hcreate⟩ | ⟨hr, hadd, hfails⟩
      · have hlength : (fixtures ++ [fixture]).length = fixtures.length + 1 := by simp
        rw [hadd]
        simp only
        have hroom' : Room (grown allocated fixtures.length) (fixtures ++ [fixture]).length := hlength ▸ hroom.grown
        have hdoubled' :
            Doubled host.allocatedFixtures (grown allocated fixtures.length) (fixtures ++ [fixture]).length :=
          hlength ▸ hdoubled.grown
        -- the fixture itself has its place, and those behind it are counted from one more
        have hplaces {n : Nat} (hrest : ∀ k < n, ¬ NoPlace w host (fixtures.length + 1 + k)) :
            ∀ k < n + 1, ¬ NoPlace w host (fixtures.length + k) := by
          intro k hk
          cases k with
          | zero   => exact hplace
          | succ k =>
              rw [Nat.add_comm k, ← Nat.add_assoc]
              exact hrest k (Nat.lt_of_succ_lt_succ hk)
        rcases ih hroom' hdoubled' (by omega) with
          ⟨created, hrest, hcreated, hrestPlaces⟩ |
          ⟨hr, pre, t', post, created, rfl, hrest, hcreated, hrestPlaces, hfails⟩
        · rw [hlength] at hcreated hrestPlaces
          refine .inl ⟨fixture :: created, ?_, .cons hcreate hcreated, hplaces hrestPlaces⟩
          rw [hrest]
          simp
        · rw [hlength] at hcreated hrestPlaces hfails
          refine .inr
            ⟨hr, t :: pre, t', post, fixture :: created, rfl, ?_, .cons hcreate hcreated, hplaces hrestPlaces, ?_⟩
          · rw [hrest]
            simp
          · rw [List.length_cons, Nat.add_comm pre.length, ← Nat.add_assoc]
            exact hfails
      · refine .inr ⟨hr, [], t, ts, [], rfl, ?_, .nil, fun _ hk => absurd hk (Nat.not_lt_zero _), hfails⟩
        rw [hadd]
        simp

end Room

/-! ## The loader without the heap

`Pe.Exports` has the loader as far as the query is compared with it: without the size of the array, and without what is
freed. -/

section Environment

variable {w : Width} {image : Mem} {φ : Type} {env : LoaderEnvironment φ} {allocated : Nat} {fixtures : List φ}

/-- The host of an environment. -/
def hostOf (w : Width) (env : LoaderEnvironment φ) (hfailed : ∀ x hr, env.createFixture x = .error hr → failed hr = true) :
    LoadHost φ where
  dbg           := env.dbg
  malloc _      := env.malloc
  realloc bytes := env.realloc (bytes / sizeofPointer w)
  create _      := env.createFixture
  create_failed := fun _ => hfailed

/-- What a walk is without the heap. -/
def Walk.result (r : Walk φ) : Option (LoadResult φ) :=
  match r.stop with
  | none            => some ⟨.ok r.fixtures, r.turns.map Turn.passed⟩
  | some (.code hr) => some ⟨.error hr, r.turns.map Turn.passed⟩
  | some (.fault _) => none

theorem Walk.result_cons {r : Walk φ} {l : LoadResult φ} (t : Turn) (h : r.result = some l) :
    ({ r with turns := t :: r.turns } : Walk φ).result = some ⟨l.fixtures, t.passed :: l.treated⟩ := by
  unfold Walk.result at h ⊢
  cases hstop : r.stop with
  | none =>
      rw [hstop] at h
      obtain rfl := Option.some.inj h
      simp only [List.map_cons]
  | some stop =>
      rw [hstop] at h
      cases stop with
      | code hr =>
          obtain rfl := Option.some.inj h
          simp only [List.map_cons]
      | fault f => cases h

theorem addFixture_hostOf (hfailed : ∀ x hr, env.createFixture x = .error hr → failed hr = true)
    (hroom : Room allocated fixtures.length) (hcount : fixtures.length < maxFixtures w) (x : Export) :
    addFixture w (hostOf w env hfailed) allocated fixtures x =
      match env.addFixture allocated fixtures x with
      | .error hr => .error (.code hr)
      | .ok added => .ok added := by
  have hmax := maxFixtures_le w
  have hpointer : 0 < sizeofPointer w := by cases w <;> decide
  have hbytes : arrayBytes w (fixtures.length * 2) / sizeofPointer w = fixtures.length * 2 := by
    rw [arrayBytes_eq (.inr (Nat.le_of_eq (Nat.mul_comm ..))) hcount, Nat.mul_div_cancel _ hpointer]
  rw [addFixture_eq _ x hroom hcount, LoaderEnvironment.addFixture, grown]
  simp only [hostOf, hbytes]
  by_cases hfull : fixtures.length = allocated
  · subst hfull
    have hdouble : dword (fixtures.length * 2) = fixtures.length * 2 := Nat.mod_eq_of_lt (by omega)
    simp only [beq_self_eq_true, if_true, Bool.true_and, true_and, hdouble]
    cases env.realloc (fixtures.length * 2) with
    | false => rfl
    | true  => cases env.createFixture x <;> rfl
  · simp only [beq_eq_false_iff_ne.mpr hfull, Bool.false_eq_true, if_false, Bool.false_and, hfull, false_and]
    cases env.createFixture x <;> rfl

/-- **The loop of the two models** is the same, if there are not too many fixtures. -/
theorem loadExports_eq (hfailed : ∀ x hr, env.createFixture x = .error hr → failed hr = true) {dir : DataDirectory}
    {e : ExportDirectory} {n index : Nat} (hroom : Room allocated fixtures.length)
    (hcount : fixtures.length + n ≤ maxFixtures w) :
    (walkExports w image (hostOf w env hfailed) dir e n index allocated fixtures).result =
      some (loadExports w image env dir e n index allocated fixtures) := by
  induction n generalizing index allocated fixtures with
  | zero => rfl
  | succ n ih =>
      rw [walkExports, loadExports]
      by_cases hforwarder : dir.isForwarder (functionRva w image e index) = true
      · simp only [hforwarder, if_true]
        exact ih hroom (by omega)
      · by_cases hnamed : isFixtureExport w image (exportName w image e index) = true
        · simp only [hforwarder, hnamed, if_true, Bool.false_eq_true, if_false]
          rw [addFixture_hostOf hfailed hroom (by omega)]
          cases hadd : env.addFixture allocated fixtures
              ⟨exportName w image e index, pointer w (functionRva w image e index)⟩ with
          | error hr => rfl
          | ok added =>
              have hlt : fixtures.length < maxFixtures w := by omega
              have hok := addFixture_hostOf hfailed hroom hlt
                ⟨exportName w image e index, pointer w (functionRva w image e index)⟩
              rw [hadd] at hok
              rcases addFixture_spec (hostOf w env hfailed) _ hroom hlt with ⟨fixture, heq, -⟩ | ⟨hr, heq, -⟩
              · obtain rfl := Except.ok.inj (hok.symm.trans heq)
                have hlength : (fixtures ++ [fixture]).length = fixtures.length + 1 := by simp
                have hroom' : Room (grown allocated fixtures.length) (fixtures ++ [fixture]).length :=
                  hlength ▸ hroom.grown
                exact Walk.result_cons _ (ih hroom' (by omega))
              · cases hok.symm.trans heq
        · simp only [hforwarder, hnamed, Bool.false_eq_true, if_false]
          exact ih hroom (by omega)

/-- Behind the label, there is no module, and the turns are what they were. -/
theorem cleanup_keeps (hr : HRESULT) (fixtures : List φ) (turns : List Turn) :
    (cleanup hr fixtures turns).testModule = none ∧ (cleanup hr fixtures turns).turns = turns := by
  unfold cleanup
  split
  · exact ⟨rfl, rfl⟩
  · exact ⟨rfl, rfl⟩

/-- **The two models of the loader** treat the same exports, and have the same fixtures if the loader succeeds. -/
theorem loadFixtures_hostOf (hfailed : ∀ x hr, env.createFixture x = .error hr → failed hr = true)
    (hnames : (exportDirectory w image).numberOfNames ≤ maxFixtures w) :
    ∃ r, loadFixturesFromPeImage w image (hostOf w env hfailed) = .ok r ∧
      (PeImage.loadFixturesFromPeImage w image env).treated = r.turns.map Turn.passed ∧
      ∀ loaded, (PeImage.loadFixturesFromPeImage w image env).fixtures = .ok loaded ↔ r.testModule = some loaded := by
  unfold loadFixturesFromPeImage PeImage.loadFixturesFromPeImage
  have hmallocOf : ∀ bytes, (hostOf w env hfailed).malloc bytes = env.malloc := fun _ => rfl
  rw [hmallocOf]
  cases env.malloc with
  | false => exact ⟨_, rfl, rfl, fun _ => ⟨nofun, nofun⟩⟩
  | true =>
      by_cases hsignature : load 4 image (eLfanew image) = imageNtSignature
      · have hdirectory : ExportDirectory.load image (exportDataDir w image (eLfanew image)).virtualAddress =
            exportDirectory w image := rfl
        simp only [Bool.not_true, Bool.false_eq_true, if_false, hsignature, ne_eq, not_true_eq_false, hdirectory]
        by_cases hfunctions : (exportDirectory w image).numberOfFunctions > 0
        · simp only [hfunctions, if_true]
          have hroom : Room (hostOf w env hfailed).allocatedFixtures ([] : List φ).length := room_allocatedFixtures
          have hcount : ([] : List φ).length + (exportDirectory w image).numberOfNames ≤ maxFixtures w := by
            rwa [List.length_nil, Nat.zero_add]
          -- the loops have the same result
          have hloop : (walkExports w image (hostOf w env hfailed) (exportDataDir w image (eLfanew image))
              (exportDirectory w image) (exportDirectory w image).numberOfNames 0
              (hostOf w env hfailed).allocatedFixtures []).result = some _ := loadExports_eq hfailed hroom hcount
          generalize walkExports w image (hostOf w env hfailed) (exportDataDir w image (eLfanew image))
              (exportDirectory w image) (exportDirectory w image).numberOfNames 0
              (hostOf w env hfailed).allocatedFixtures [] = r at hloop ⊢
          have hstart : (hostOf w env hfailed).allocatedFixtures = if env.dbg = true then 1 else 16 := rfl
          rw [hstart] at hloop
          rcases r with ⟨none | hr | fault, fixtures, turns⟩
          · obtain hloop := Option.some.inj hloop
            rw [← hloop]
            exact ⟨_, rfl, rfl, fun _ =>
              ⟨fun h => congrArg some (Except.ok.inj h), fun h => congrArg Except.ok (Option.some.inj h)⟩⟩
          · obtain hloop := Option.some.inj hloop
            obtain ⟨hmodule, hturns⟩ := cleanup_keeps hr fixtures turns
            rw [← hloop]
            refine ⟨_, rfl, congrArg (List.map Turn.passed) hturns.symm, fun loaded => ⟨nofun, fun h => ?_⟩⟩
            cases hmodule.symm.trans h
          · cases hloop
        · simp only [hfunctions, if_false]
          exact ⟨_, rfl, rfl, fun _ =>
            ⟨fun h => congrArg some (Except.ok.inj h), fun h => congrArg Except.ok (Option.some.inj h)⟩⟩
      · simp only [Bool.not_true, Bool.false_eq_true, if_false, ne_eq, hsignature, not_false_eq_true, if_true]
        exact ⟨_, rfl, rfl, fun _ => ⟨nofun, nofun⟩⟩

end Environment

/-! ## Too many fixtures -/

/-- Nothing fails. -/
def LoadHost.plentiful : LoadHost Unit where
  dbg           := false
  malloc _      := true
  realloc _     := true
  create _ _    := .ok ()
  create_failed := nofun

theorem not_fails_plentiful (w : Width) (k : Nat) (t : Turn) (hr : HRESULT) : ¬ Fails w .plentiful k t hr := by
  rintro (⟨⟨-, h⟩, -⟩ | ⟨-, h⟩)
  · cases h
  · cases h

/-- With 32 bits, the array of 2^30 pointers has no size. -/
theorem addFixtures_tooMany {j : Nat} (hj : j ≤ 29) {fixtures : List Unit} (hroom : Room (2 ^ j) fixtures.length)
    {ts : List Turn} (hmany : 2 ^ 29 < fixtures.length + ts.length) :
    (addFixtures .w32 .plentiful (2 ^ j) fixtures ts).stop = some (.fault .afterFree) := by
  have hpow : 2 ^ j ≤ 2 ^ 29 := Nat.pow_le_pow_right (by decide) hj
  have hle := hroom.le
  induction ts generalizing j fixtures with
  | nil =>
      rw [List.length_nil] at hmany
      omega
  | cons t ts ih =>
      rw [List.length_cons] at hmany
      rw [addFixtures]
      by_cases hlast : fixtures.length = 2 ^ 29
      · -- the array is full, and cannot be enlarged any more
        have hfull : 2 ^ j = 2 ^ 29 := by omega
        have hstop : addFixture .w32 .plentiful (2 ^ j) fixtures t.passed = .error (.fault .afterFree) := by
          rw [addFixture, hlast, hfull]
          rfl
        rw [hstop]
      · have hlt : fixtures.length < maxFixtures .w32 := by
          show fixtures.length < 2 ^ 29
          omega
        rcases addFixture_spec .plentiful t.passed hroom hlt with
          ⟨fixture, hadd, -⟩ | ⟨hr, -, ⟨⟨-, hrealloc⟩, -⟩ | ⟨-, hcreate⟩⟩
        · have hlength : (fixtures ++ [fixture]).length = fixtures.length + 1 := by simp
          have hroom' : Room (grown (2 ^ j) fixtures.length) (fixtures ++ [fixture]).length := hlength ▸ hroom.grown
          rw [hadd]
          simp only
          by_cases hfull : fixtures.length = 2 ^ j
          · have hnext : j + 1 ≤ 29 := by
              by_contra hj'
              obtain rfl : j = 29 := by omega
              exact hlast hfull
            have hgrown : grown (2 ^ j) fixtures.length = 2 ^ (j + 1) := by rw [grown, if_pos hfull, Nat.pow_succ]
            rw [hgrown] at hroom' ⊢
            exact ih hnext hroom' (by omega) (Nat.pow_le_pow_right (by decide) hnext) hroom'.le
          · have hgrown : grown (2 ^ j) fixtures.length = 2 ^ j := if_neg hfull
            rw [hgrown] at hroom' ⊢
            exact ih hj hroom' (by omega) hpow hroom'.le
        · cases hrealloc
        · cases hcreate

/-! ## Selected exports become fixtures -/

section

variable {w : Width} {file image : Mem} {fileSize : Nat}

theorem ValidExports.directory_eq (h : ValidExports w file fileSize) (hloaded : Loaded file image) :
    exportDataDir w image (eLfanew image) = fileDirectory w file := by
  rw [h.eLfanew_eq hloaded, h.exportDataDir_eq hloaded, fileDirectory]

theorem ValidExports.exports_eq (h : ValidExports w file fileSize) (hloaded : Loaded file image) :
    exportDirectory w image = fileExports w file := by
  obtain ⟨hdata, -⟩ := h.exports.resolve_left h.present
  rw [exportDirectory, h.directory_eq hloaded]
  exact (ExportDirectory.load_congr (hloaded.same hdata)).symm

/-- Where there are names, there are functions, and the tables are not at 0. -/
theorem ValidExports.tables (h : ValidExports w file fileSize) (hnames : 0 < (fileExports w file).numberOfNames) :
    0 < (fileExports w file).numberOfFunctions ∧ (fileExports w file).addressOfNames ≠ 0 ∧
      (fileExports w file).addressOfFunctions ≠ 0 ∧ (fileExports w file).addressOfNameOrdinals ≠ 0 ∧
      4 * (fileExports w file).numberOfNames < 2 ^ 32 := by
  obtain ⟨-, hexports⟩ := h.exports.resolve_left h.present
  have hfunctions : 0 < (fileExports w file).numberOfFunctions := Nat.lt_of_le_of_lt (Nat.zero_le _) (h.ordinals 0 hnames)
  have htable := h.table
  have hoptional := h.optional
  have hoffset : 120 ≤ dataDirectoryOffset w := by cases w <;> decide
  have hbehind : ∀ {rva n : Nat}, InData file rva n → rva ≠ 0 ∧ n < 2 ^ 32 := by
    rintro rva n ⟨s, hs, hlo, hhi⟩
    obtain ⟨hheaders, hvirtual, -⟩ := h.sections s hs
    have hle : s.dataSize ≤ s.virtualSize := Nat.min_le_right ..
    exact ⟨by omega, by omega⟩
  have hnameArray := hbehind (hexports.nameArray hnames)
  exact ⟨hfunctions, hnameArray.1, (hbehind (hexports.functions hfunctions)).1, (hbehind (h.ordinalArray hnames)).1,
    hnameArray.2⟩

/-- Where the ordinals with their base fit into 16 bits, the walks find the function. -/
theorem ValidExports.sameFunction (h : ValidExports w file fileSize) (hloaded : Loaded file image) {i : Nat}
    (hi : i < (exportDirectory w image).numberOfNames)
    (hsmall : (load 2 image ((exportDirectory w image).addressOfNameOrdinals + 2 * i) +
      (exportDirectory w image).base) % 2 ^ 32 < 2 ^ 16) : SameFunction w image i := by
  have hexports := (h.exports.resolve_left h.present).2
  rw [h.exports_eq hloaded] at hi hsmall
  have hnames : 0 < (fileExports w file).numberOfNames := by omega
  have hordinals := (h.ordinalArray hnames).mono (Nat.le_add_right _ (2 * i)) (show _ + 2 ≤ _ by omega)
  have hordinal := h.ordinals i hi
  rw [(hloaded.same hordinals).load_eq] at hordinal
  obtain ⟨hfunctionsLt, -⟩ := h.translated w hloaded (hexports.functions (h.tables hnames).1)
    (Nat.mul_pos (by decide) (h.tables hnames).1)
  obtain ⟨hordinalsLt, -⟩ := h.translated w hloaded (h.ordinalArray hnames) (by omega)
  have hbase : (fileExports w file).base < 2 ^ 32 := load_lt ..
  refine .inl ?_
  rw [h.exports_eq hloaded, functionRva, ownRva, pointer_of_lt w (by omega : _ + 2 * i < 2 ^ 32),
    (functionIndex_eq_iff (load_lt ..) hbase).mpr hsmall, pointer_of_lt w]
  have hlt : (fileExports w file).addressOfFunctions + 4 * (fileExports w file).numberOfFunctions < 2 ^ 32 := hfunctionsLt
  omega

/-- The turns of the walks. -/
def walkedTurns (w : Width) (image : Mem) : List Turn :=
  let dir := exportDataDir w image (eLfanew image)
  let e := exportDirectory w image
  turnsOf (walkedExport w image dir e) e.numberOfNames

theorem deleteFixtures_eq {φ : Type} (n : Nat) (live : List φ) : deleteFixtures n live = live.drop n := by
  induction n generalizing live with
  | zero => rfl
  | succ n ih =>
      rw [deleteFixtures, ih, List.drop_tail]

theorem Fails.failed {φ : Type} {host : LoadHost φ} {k : Nat} {t : Turn} {hr : HRESULT} (h : Fails w host k t hr) :
    Cfix.failed hr = true := by
  rcases h with ⟨-, rfl⟩ | ⟨-, h⟩
  · rfl
  · exact host.create_failed _ _ _ h

/-- Nothing is left behind the label. -/
theorem cleanup_failed {φ : Type} {hr : HRESULT} (h : Cfix.failed hr = true) (fixtures : List φ) (turns : List Turn) :
    cleanup hr fixtures turns = ⟨hr, none, [], false, turns⟩ := by
  rw [cleanup, if_pos h, deleteFixtures_eq, List.drop_length]

/-- The loader, if it has an array and there are functions. -/
theorem loadFixtures_walk {φ : Type} (h : ValidExports w file fileSize) (hloaded : Loaded file image) (host : LoadHost φ)
    (hmalloc : host.malloc (arrayBytes w host.allocatedFixtures) = true)
    (hfunctions : 0 < (exportDirectory w image).numberOfFunctions) :
    loadFixturesFromPeImage w image host =
      let r := addFixtures w host host.allocatedFixtures [] (walkedTurns w image)
      match r.stop with
      | none            => .ok ⟨sOk, some r.fixtures, r.fixtures, true, r.turns⟩
      | some (.code hr) => .ok (cleanup hr r.fixtures r.turns)
      | some (.fault f) => .error f := by
  have hsignature : load 4 image (eLfanew image) = imageNtSignature := by
    rw [h.eLfanew_eq hloaded]
    exact h.ntSignature_eq hloaded
  have hdirectory : ExportDirectory.load image (exportDataDir w image (eLfanew image)).virtualAddress =
      exportDirectory w image := rfl
  have hturns : ((List.range (exportDirectory w image).numberOfNames).filterMap fun i =>
      (walkedExport w image (exportDataDir w image (eLfanew image)) (exportDirectory w image) i).map (Turn.mk i)) =
      walkedTurns w image := rfl
  unfold loadFixturesFromPeImage
  simp only [hmalloc, Bool.not_true, Bool.false_eq_true, if_false, hsignature, ne_eq, not_true_eq_false, hdirectory,
    gt_iff_lt, hfunctions, if_true]
  rewrite [walkExports_eq, ← List.range_eq_range', hturns]
  rfl

/-- Without functions there are no names, and no fixtures. -/
theorem loadFixtures_noFunctions {φ : Type} (h : ValidExports w file fileSize) (hloaded : Loaded file image)
    (host : LoadHost φ) (hmalloc : host.malloc (arrayBytes w host.allocatedFixtures) = true)
    (hfunctions : ¬ 0 < (exportDirectory w image).numberOfFunctions) :
    loadFixturesFromPeImage w image host = .ok ⟨sOk, some [], [], true, []⟩ ∧ walkedTurns w image = [] := by
  have hsignature : load 4 image (eLfanew image) = imageNtSignature := by
    rw [h.eLfanew_eq hloaded]
    exact h.ntSignature_eq hloaded
  have hdirectory : ExportDirectory.load image (exportDataDir w image (eLfanew image)).virtualAddress =
      exportDirectory w image := rfl
  have hnames : (exportDirectory w image).numberOfNames = 0 := by
    rw [h.exports_eq hloaded] at hfunctions ⊢
    by_contra hne
    exact hfunctions (h.tables (Nat.pos_of_ne_zero hne)).1
  constructor
  · unfold loadFixturesFromPeImage
    simp only [hmalloc, Bool.not_true, Bool.false_eq_true, if_false, hsignature, ne_eq, not_true_eq_false, hdirectory,
      gt_iff_lt, hfunctions]
  · rw [walkedTurns, hnames]
    rfl

/-- **The loader** makes fixtures of its turns, if they are not too many. -/
theorem loader_spec {φ : Type} (h : ValidExports w file fileSize) (hloaded : Loaded file image) (host : LoadHost φ)
    (hcount : (walkedTurns w image).length ≤ maxFixtures w) :
    ∃ r, loadFixturesFromPeImage w image host = .ok r ∧ LoadsTurns w host (walkedTurns w image) r := by
  cases hmalloc : host.malloc (arrayBytes w host.allocatedFixtures) with
  | false =>
      refine ⟨_, ?_, .noMemory hmalloc⟩
      rw [loadFixturesFromPeImage, hmalloc]
      rfl
  | true =>
      by_cases hfunctions : 0 < (exportDirectory w image).numberOfFunctions
      · rw [loadFixtures_walk h hloaded host hmalloc hfunctions]
        have hroom : Room host.allocatedFixtures ([] : List φ).length := room_allocatedFixtures
        have hcount' : ([] : List φ).length + (walkedTurns w image).length ≤ maxFixtures w := by
          rwa [List.length_nil, Nat.zero_add]
        have hdoubled : Doubled host.allocatedFixtures host.allocatedFixtures ([] : List φ).length :=
          ⟨0, (Nat.mul_one _).symm, fun _ hi => absurd hi (Nat.not_lt_zero _)⟩
        rcases addFixtures_spec hroom hdoubled hcount' with
          ⟨created, hwalk, hcreated, hplaces⟩ | ⟨hr, pre, t, post, created, hsplit, hwalk, hcreated, hplaces, hfails⟩
        · simp only [List.length_nil, Nat.zero_add] at hplaces
          refine ⟨⟨sOk, some created, created, true, walkedTurns w image⟩, ?_, .loaded hmalloc hcreated hplaces⟩
          rw [hwalk]
          rfl
        · simp only [List.length_nil, Nat.zero_add] at hplaces hfails
          refine ⟨⟨hr, none, [], false, pre ++ [t]⟩, ?_, .failed hmalloc hsplit hcreated hplaces hfails⟩
          rw [hwalk]
          simp only
          rw [cleanup_failed hfails.failed]
      · obtain ⟨hload, hturns⟩ := loadFixtures_noFunctions h hloaded host hmalloc hfunctions
        rw [hload, hturns]
        exact ⟨_, rfl, .loaded hmalloc .nil fun _ hk => absurd hk (Nat.not_lt_zero _)⟩

/-- If nothing fails, all turns are taken. -/
theorem LoadsTurns.turns_eq {turns : List Turn} {r : LoadedModule Unit} (h : LoadsTurns w .plentiful turns r) :
    r.turns = turns := by
  cases h with
  | loaded => rfl
  | failed _ _ _ _ hfails => exact absurd hfails (not_fails_plentiful _ _ _ _)
  | noMemory hmalloc => cases hmalloc

/-- If nothing fails and the loader returns, the fixtures are not too many. -/
theorem walkedTurns_le (h : ValidExports w file fileSize) (hloaded : Loaded file image) {r : LoadedModule Unit}
    (hload : loadFixturesFromPeImage w image .plentiful = .ok r) : (walkedTurns w image).length ≤ maxFixtures w := by
  have hle : (walkedTurns w image).length ≤ (exportDirectory w image).numberOfNames := length_turnsOf_le _ _
  rcases Nat.eq_zero_or_pos (exportDirectory w image).numberOfNames with hzero | hnames
  · rw [hzero] at hle
    exact Nat.le_trans hle (Nat.zero_le _)
  · obtain ⟨hfunctions, -, -, -, hlt⟩ := h.tables (h.exports_eq hloaded ▸ hnames)
    rw [← h.exports_eq hloaded] at hfunctions hlt
    cases w with
    | w32 =>
        by_contra hmany
        have hmany' : 2 ^ 29 < ([] : List Unit).length + (walkedTurns .w32 image).length := by
          rw [List.length_nil, Nat.zero_add]
          exact Nat.lt_of_not_le hmany
        have hroom : Room (2 ^ 4) ([] : List Unit).length := ⟨by decide, by decide, .inl (by decide)⟩
        have hstop := addFixtures_tooMany (show 4 ≤ 29 by decide) hroom hmany'
        have hallocated : LoadHost.plentiful.allocatedFixtures = 2 ^ 4 := rfl
        rw [loadFixtures_walk h hloaded .plentiful rfl hfunctions, hallocated] at hload
        simp only [hstop] at hload
        cases hload
    | w64 =>
        show (walkedTurns .w64 image).length ≤ 2 ^ 31
        omega

/-- **The walk of the kernel** initialises entries for the same turns. -/
theorem kernel_spec {ψ : Type} (h : ValidExports w file fileSize) (hloaded : Loaded file image) (host : KernelHost ψ) :
    InitializesTurns host 0 (walkedTurns w image)
      (walkExportDirectoryAndExtractFixtures w image host (exportDataDir w image (eLfanew image))
        (exportDirectory w image)) := by
  rw [walkExportDirectoryAndExtractFixtures]
  by_cases hnames : 0 < (exportDirectory w image).numberOfNames
  · obtain ⟨-, hnameTable, hfunctionTable, hordinalTable, -⟩ := h.tables (h.exports_eq hloaded ▸ hnames)
    rw [← h.exports_eq hloaded] at hnameTable hfunctionTable hordinalTable
    rw [if_neg (by simp [hnameTable, hfunctionTable, hordinalTable]), kernelWalkNames_eq, ← List.range_eq_range']
    obtain ⟨r, hr, hwalk⟩ := initializeFixtures_spec host [] (walkedTurns w image)
    have hsame : initializeFixtures host [] (walkedTurns w image) = r := by simpa using hwalk
    exact hsame ▸ hr
  · have hzero : (exportDirectory w image).numberOfNames = 0 := by omega
    have hturns : walkedTurns w image = [] := by
      rw [walkedTurns, hzero]
      rfl
    rw [hturns, hzero]
    split
    · exact .done
    · exact .done

/-- **The export walk.** The walks make fixtures of exactly the selected exports if and only if each export that has the
    name of a fixture has the same function for them, and the array has room for the fixtures. -/
theorem walksSelected_iff (h : ValidExports w file fileSize) (hloaded : Loaded file image) :
    WalksSelected w image ↔
      (∀ i < (exportDirectory w image).numberOfNames, NamedFixture w image (exportDirectory w image) i →
        SameFunction w image i) ∧
      (selectedTurns w image).length ≤ maxFixtures w := by
  have hdir : (exportDataDir w image (eLfanew image)).virtualAddress + (exportDataDir w image (eLfanew image)).size <
      2 ^ 32 := by
    rw [h.directory_eq hloaded]
    exact h.directory
  have hsame : walkedTurns w image = selectedTurns w image ↔
      ∀ i < (exportDirectory w image).numberOfNames, NamedFixture w image (exportDirectory w image) i →
        SameFunction w image i := by
    rw [walkedTurns, selectedTurns, turnsOf_eq_iff]
    exact forall₂_congr fun i _ => walkedExport_eq_iff hdir
  rw [← hsame]
  constructor
  · intro hwalks
    obtain ⟨r, hload, hselected⟩ := hwalks.loader Unit .plentiful
    have hcount := walkedTurns_le h hloaded hload
    obtain ⟨r', hload', hwalked⟩ := loader_spec h hloaded .plentiful hcount
    obtain rfl := Except.ok.inj (hload.symm.trans hload')
    have hturns : walkedTurns w image = selectedTurns w image := hwalked.turns_eq.symm.trans hselected.turns_eq
    exact ⟨hturns, hturns ▸ hcount⟩
  · rintro ⟨hturns, hcount⟩
    rw [← hturns] at hcount
    refine ⟨fun φ host => ?_, fun ψ host => ?_⟩
    · rw [← hturns]
      exact loader_spec h hloaded host hcount
    · rw [← hturns]
      exact kernel_spec h hloaded host

end

/-! ## Two images -/

theorem validExports_forwarderFile : ValidExports .w64 forwarderFile 344 where
  toWellFormed := forwarderFile_wellFormed
  present      := by decide +kernel
  directory    := by decide +kernel
  ordinalArray := by decide +kernel
  ordinals     := by decide +kernel

theorem walksSelected_forwarderFile :
    WalksSelected .w64 (mapImage forwarderFile) ↔
      (∀ i < (exportDirectory .w64 (mapImage forwarderFile)).numberOfNames,
        NamedFixture .w64 (mapImage forwarderFile) (exportDirectory .w64 (mapImage forwarderFile)) i →
          SameFunction .w64 (mapImage forwarderFile) i) ∧
      (selectedTurns .w64 (mapImage forwarderFile)).length ≤ maxFixtures .w64 :=
  walksSelected_iff validExports_forwarderFile (loaded_mapImage forwarderFile)

/-- The same DLL with the ordinal base 0x10000 and a function at 0x2000. -/
def largeBaseFile : Mem := store 4 (store 4 forwarderFile 264 0x10000) 288 0x2000

theorem validExports_largeBaseFile : ValidExports .w64 largeBaseFile 344 where
  dosSignature := by decide +kernel
  ntSignature  := by decide +kernel
  magic        := by decide +kernel
  ntHeaders    := by decide +kernel
  optional     := by decide +kernel
  table        := by decide +kernel
  size         := by decide +kernel
  sections     := by decide +kernel
  ascending    := by decide +kernel
  exports      := by
    right
    refine ⟨by decide +kernel, ?_, ?_, ?_⟩
    · decide +kernel
    · decide +kernel
    · intro i hi
      have hone : (fileExports .w64 largeBaseFile).numberOfNames = 1 := by decide +kernel
      have hlt : i < (fileExports .w64 largeBaseFile).numberOfNames := hi
      rw [hone] at hlt
      obtain rfl : i = 0 := by omega
      exact ⟨16, by decide +kernel, by decide +kernel⟩
  present      := by decide +kernel
  directory    := by decide +kernel
  ordinalArray := by decide +kernel
  ordinals     := by decide +kernel

/-- The function is looked for 16 GB behind the table. -/
theorem not_walksSelected_largeBaseFile :
    ¬ ∀ (w : Width) (file image : Mem) (fileSize : Nat), ValidExports w file fileSize → Loaded file image →
      WalksSelected w image := by
  intro h
  have hloaded := loaded_mapImage largeBaseFile
  obtain ⟨r, hload, hselected⟩ := (h .w64 largeBaseFile (mapImage largeBaseFile) 344 validExports_largeBaseFile
    hloaded).loader Unit .plentiful
  obtain ⟨r', hload', hwalked⟩ := loader_spec validExports_largeBaseFile hloaded .plentiful
    (walkedTurns_le validExports_largeBaseFile hloaded hload)
  obtain rfl := Except.ok.inj (hload.symm.trans hload')
  have hturns : walkedTurns .w64 (mapImage largeBaseFile) = selectedTurns .w64 (mapImage largeBaseFile) :=
    hwalked.turns_eq.symm.trans hselected.turns_eq
  have hne : walkedTurns .w64 (mapImage largeBaseFile) ≠ selectedTurns .w64 (mapImage largeBaseFile) := by
    decide +kernel
  exact hne hturns

end Cfix.PeLoader
