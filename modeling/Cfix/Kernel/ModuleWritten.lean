import Mathlib.Algebra.GroupWithZero.Nat
import Cfix.Kernel.ModuleClient

/-!
# `Kernel.ModuleWritten` — what `CfixkrpQueryModuleTestAdapter` leaves in the buffer

`FixturesStored` says, in terms of the offsets that the code computes, what the structures and strings of a
description hold. It is built entry by entry: each step writes its own bytes, behind those written before in
both areas, so what is stored already stays. The sizes are computed first, modulo 2^32.
-/

namespace Cfix.TestModule

open Memory
open Cfix.Events (Wstr rtlStringCbLength)
open Cfix.Unload (NTSTATUS statusSuccess)

/-! ## Sizes -/

theorem sum_map_replicate {α : Type} (size : α → Nat) (n : Nat) (x : α) :
    ((List.replicate n x).map size).sum = n * size x := by
  rw [List.map_replicate, List.sum_replicate_nat]

/-- The bytes of the names of the entries. -/
def namesSize (es : List DefinitionEntry) : Nat := (es.map fun e => 2 * e.name.chars.length).sum

def TestFixture.stringsSize (f : TestFixture) : Nat := 2 * f.fixtureName.chars.length + namesSize f.entries

def structsSize (fs : List TestFixture) : Nat := (fs.map fun f => sizeofFixture f.entries.length).sum

def stringsSize (fs : List TestFixture) : Nat := (fs.map TestFixture.stringsSize).sum

def TestAdapter.structSize (a : TestAdapter) : Nat := sizeofModule a.fixtures.length + structsSize a.fixtures

/-- The bytes of the whole description. -/
def TestAdapter.size (a : TestAdapter) : Nat := a.structSize + stringsSize a.fixtures

/-- The names fit: `RtlStringCbLengthW` finds their ends. -/
def NamesFit (es : List DefinitionEntry) : Prop := ∀ e ∈ es, e.name.chars.length ≤ 62

@[simp] theorem namesSize_cons (e : DefinitionEntry) (es : List DefinitionEntry) :
    namesSize (e :: es) = 2 * e.name.chars.length + namesSize es := by
  simp [namesSize]

@[simp] theorem structsSize_cons (f : TestFixture) (fs : List TestFixture) :
    structsSize (f :: fs) = sizeofFixture f.entries.length + structsSize fs := by
  simp [structsSize]

@[simp] theorem stringsSize_cons (f : TestFixture) (fs : List TestFixture) :
    stringsSize (f :: fs) = f.stringsSize + stringsSize fs := by
  simp [stringsSize]

theorem ulong_of_lt {n : Nat} (h : n < 2 ^ 32) : ulong n = n := Nat.mod_eq_of_lt h

@[simp] theorem ulong_ulong_add (n k : Nat) : ulong (ulong n + k) = ulong (n + k) := Nat.mod_add_mod ..

theorem NamesFit.head {e : DefinitionEntry} {es : List DefinitionEntry} (h : NamesFit (e :: es)) :
    entryNameLength e = .ok (2 * e.name.chars.length) := by
  have hlen := h e List.mem_cons_self
  have hfits : e.name.chars.length < (cfixMaxEntryNameCch - 1) * 2 / 2 := by
    unfold cfixMaxEntryNameCch
    omega
  rw [entryNameLength, rtlStringCbLength, if_pos hfits]

theorem NamesFit.tail {e : DefinitionEntry} {es : List DefinitionEntry} (h : NamesFit (e :: es)) : NamesFit es :=
  fun x hx => h x (List.mem_cons_of_mem _ hx)

theorem stringsSizeEntries_eq {es : List DefinitionEntry} (h : NamesFit es) (n : Nat) :
    stringsSizeEntries es (ulong n) = .ok (ulong (n + namesSize es)) := by
  induction es generalizing n with
  | nil => simp [stringsSizeEntries, namesSize]
  | cons e es ih =>
      rw [stringsSizeEntries, h.head]
      simp only [ulong_ulong_add]
      rw [ih h.tail, namesSize_cons, Nat.add_assoc]

theorem bufferSizeFixtures_eq {fs : List TestFixture} (h : ∀ f ∈ fs, NamesFit f.entries) (n k : Nat) :
    bufferSizeFixtures fs (ulong n) (ulong k) = .ok (ulong (n + structsSize fs), ulong (k + stringsSize fs)) := by
  induction fs generalizing n k with
  | nil => simp [bufferSizeFixtures, structsSize, stringsSize]
  | cons f fs ih =>
      have hf := h f List.mem_cons_self
      have hfs := ih (fun x hx => h x (List.mem_cons_of_mem _ hx))
      rw [bufferSizeFixtures, ulong_ulong_add, stringsSizeEntries_eq hf]
      simp only [ulong_ulong_add]
      rw [hfs, structsSize_cons, stringsSize_cons, TestFixture.stringsSize]
      simp only [Nat.add_assoc]

/-- The sizes, as the code computes them. -/
theorem calculateBufferSize_eq {a : TestAdapter} (h : ∀ f ∈ a.fixtures, NamesFit f.entries) :
    calculateBufferSize a = .ok (ulong a.structSize, ulong (stringsSize a.fixtures)) := by
  have hzero : (0 : Nat) = ulong 0 := rfl
  rw [calculateBufferSize]
  conv_lhs => rw [hzero]
  rw [bufferSizeFixtures_eq h, Nat.zero_add]
  rfl

/-! ## What is stored -/

/-- The characters of a string, without a terminator. -/
def CharsStored (m : Mem) (a : Nat) (s : Wstr) : Prop := loadArray 2 m a s.chars.length = s.chars.map BitVec.toNat

/-- The fields of an entry in the description. -/
def DefinitionEntry.io (e : DefinitionEntry) (defIndex stringsOffset : Nat) : IoEntry :=
  ⟨e.type.toNat % 2 ^ 16, defIndex, stringsOffset, 2 * e.name.chars.length⟩

/-- The entries from `defIndex` on of the fixture at `structOffset`, with their names from `stringsOffset` on. -/
def EntriesStored (m : Mem) (base structOffset : Nat) : Nat → Nat → List DefinitionEntry → Prop
  | _, _, []                           => True
  | defIndex, stringsOffset, e :: es => (IoEntry.load m (base + (structOffset + 16 + 12 * defIndex)) = e.io defIndex stringsOffset ∧
      CharsStored m (base + stringsOffset) e.name) ∧
    EntriesStored m base structOffset (defIndex + 1) (stringsOffset + 2 * e.name.chars.length) es

/-- A fixture without its entries. -/
structure HeadStored (m : Mem) (base fixIndex structOffset stringsOffset : Nat) (f : TestFixture) : Prop where
  offset     : load 4 m (base + (4 + 4 * fixIndex)) = structOffset
  key        : load 2 m (base + structOffset) = fixIndex
  nameOffset : load 4 m (base + structOffset + 4) = stringsOffset
  nameLength : load 4 m (base + structOffset + 8) = 2 * f.fixtureName.chars.length
  entryCount : load 4 m (base + structOffset + 12) = f.entries.length
  name       : CharsStored m (base + stringsOffset) f.fixtureName

structure FixtureStored (m : Mem) (base fixIndex structOffset stringsOffset : Nat) (f : TestFixture) : Prop where
  head    : HeadStored m base fixIndex structOffset stringsOffset f
  entries : EntriesStored m base structOffset 0 (stringsOffset + 2 * f.fixtureName.chars.length) f.entries

/-- The fixtures from `fixIndex` on, the first of which is at `structOffset`. -/
def FixturesStored (m : Mem) (base : Nat) : Nat → Nat → Nat → List TestFixture → Prop
  | _, _, _, []                                    => True
  | fixIndex, structOffset, stringsOffset, f :: fs =>
    FixtureStored m base fixIndex structOffset stringsOffset f ∧
      FixturesStored m base (fixIndex + 1) (structOffset + sizeofFixture f.entries.length)
        (stringsOffset + f.stringsSize) fs

/-- The description of the adapter. -/
structure ModuleStored (m : Mem) (base : Nat) (a : TestAdapter) : Prop where
  count    : load 4 m base = a.fixtures.length
  fixtures : FixturesStored m base 0 (sizeofModule a.fixtures.length) a.structSize a.fixtures

/-! ### The bytes that decide it -/

section Congr

variable {m m' : Mem} {base base' structOffset stringsOffset defIndex fixIndex : Nat}

theorem CharsStored.congr {a a' : Nat} {s : Wstr} (h : CharsStored m a s) (hsame : Same m a m' a' (2 * s.chars.length)) :
    CharsStored m' a' s := by
  unfold CharsStored at h ⊢
  rw [← hsame.loadArray_eq]
  exact h

theorem IoEntry.load_congr {a a' : Nat} (h : Same m a m' a' 12) : IoEntry.load m a = IoEntry.load m' a' := by
  have hload (n d : Nat) (hd : d + n ≤ 12) : Memory.load n m (a + d) = Memory.load n m' (a' + d) :=
    (h.mono (by omega) (by omega) (by omega)).load_eq
  unfold IoEntry.load
  rw [show Memory.load 2 m a = Memory.load 2 m' a' from hload 2 0 (by decide), hload 2 2 (by decide),
    hload 4 4 (by decide), hload 4 8 (by decide)]

theorem EntriesStored.congr {es : List DefinitionEntry}
    (h : EntriesStored m base structOffset defIndex stringsOffset es)
    (hstructs : Same m (base + (structOffset + 16 + 12 * defIndex)) m' (base' + (structOffset + 16 + 12 * defIndex))
      (12 * es.length))
    (hstrings : Same m (base + stringsOffset) m' (base' + stringsOffset) (namesSize es)) :
    EntriesStored m' base' structOffset defIndex stringsOffset es := by
  induction es generalizing defIndex stringsOffset with
  | nil => exact trivial
  | cons e es ih =>
      obtain ⟨⟨hfields, hname⟩, hrest⟩ := h
      rw [List.length_cons] at hstructs
      rw [namesSize_cons] at hstrings
      refine ⟨⟨?_, ?_⟩, ih hrest ?_ ?_⟩
      · rw [← IoEntry.load_congr (hstructs.mono (Nat.le_refl _) (by omega) (by omega))]
        exact hfields
      · exact hname.congr (hstrings.mono (Nat.le_refl _) (by omega) (by omega))
      · exact hstructs.mono (by omega) (by omega) (by omega)
      · exact hstrings.mono (by omega) (by omega) (by omega)

theorem HeadStored.congr {f : TestFixture} (h : HeadStored m base fixIndex structOffset stringsOffset f)
    (hoffset : Same m (base + (4 + 4 * fixIndex)) m' (base' + (4 + 4 * fixIndex)) 4)
    (hstruct : Same m (base + structOffset) m' (base' + structOffset) 16)
    (hname : Same m (base + stringsOffset) m' (base' + stringsOffset) (2 * f.fixtureName.chars.length)) :
    HeadStored m' base' fixIndex structOffset stringsOffset f := by
  have hload (n d : Nat) (hd : d + n ≤ 16) :
      load n m (base + structOffset + d) = load n m' (base' + structOffset + d) :=
    (hstruct.mono (by omega) (by omega) (by omega)).load_eq
  constructor
  · rw [← hoffset.load_eq]
    exact h.offset
  · exact (hload 2 0 (by decide)).symm.trans h.key
  · rw [← hload 4 4 (by decide)]
    exact h.nameOffset
  · rw [← hload 4 8 (by decide)]
    exact h.nameLength
  · rw [← hload 4 12 (by decide)]
    exact h.entryCount
  · exact h.name.congr hname

theorem FixtureStored.congr {f : TestFixture} (h : FixtureStored m base fixIndex structOffset stringsOffset f)
    (hoffset : Same m (base + (4 + 4 * fixIndex)) m' (base' + (4 + 4 * fixIndex)) 4)
    (hstruct : Same m (base + structOffset) m' (base' + structOffset) (sizeofFixture f.entries.length))
    (hstrings : Same m (base + stringsOffset) m' (base' + stringsOffset) f.stringsSize) :
    FixtureStored m' base' fixIndex structOffset stringsOffset f := by
  unfold sizeofFixture at hstruct
  unfold TestFixture.stringsSize at hstrings
  constructor
  · apply h.head.congr hoffset (hstruct.mono (Nat.le_refl _) (by omega) (by omega))
    exact hstrings.mono (Nat.le_refl _) (by omega) (by omega)
  · apply h.entries.congr (hstruct.mono (by omega) (by omega) (by omega))
    exact hstrings.mono (by omega) (by omega) (by omega)

theorem FixturesStored.congr {fs : List TestFixture} (h : FixturesStored m base fixIndex structOffset stringsOffset fs)
    (hoffsets : Same m (base + (4 + 4 * fixIndex)) m' (base' + (4 + 4 * fixIndex)) (4 * fs.length))
    (hstructs : Same m (base + structOffset) m' (base' + structOffset) (structsSize fs))
    (hstrings : Same m (base + stringsOffset) m' (base' + stringsOffset) (stringsSize fs)) :
    FixturesStored m' base' fixIndex structOffset stringsOffset fs := by
  induction fs generalizing fixIndex structOffset stringsOffset with
  | nil => exact trivial
  | cons f fs ih =>
      rw [List.length_cons] at hoffsets
      rw [structsSize_cons] at hstructs
      rw [stringsSize_cons] at hstrings
      refine ⟨h.1.congr ?_ ?_ ?_, ih h.2 ?_ ?_ ?_⟩
      · exact hoffsets.mono (Nat.le_refl _) (by omega) (by omega)
      · exact hstructs.mono (Nat.le_refl _) (by omega) (by omega)
      · exact hstrings.mono (Nat.le_refl _) (by omega) (by omega)
      · exact hoffsets.mono (by omega) (by omega) (by omega)
      · exact hstructs.mono (by omega) (by omega) (by omega)
      · exact hstrings.mono (by omega) (by omega) (by omega)

/-- The same bytes are the same description. -/
theorem ModuleStored.congr {a : TestAdapter} (h : ModuleStored m base a) (hsame : Same m base m' base' a.size) :
    ModuleStored m' base' a := by
  unfold TestAdapter.size TestAdapter.structSize sizeofModule at hsame
  constructor
  · rw [← (hsame.mono (Nat.le_refl base) (by omega) (by omega)).load_eq]
    exact h.count
  · apply h.fixtures.congr
    · exact hsame.mono (by omega) (by omega) (by omega)
    · unfold sizeofModule
      exact hsame.mono (by omega) (by omega) (by omega)
    · unfold TestAdapter.structSize sizeofModule
      exact hsame.mono (by omega) (by omega) (by omega)

end Congr

/-! ## Writing -/

section Write

variable {m m' : Mem} {base structOffset stringsOffset defIndex fixIndex : Nat}

/-- Nothing changes outside of the two ranges. -/
def Outside (m m' : Mem) (a n b k : Nat) : Prop := ∀ x, x < a ∨ a + n ≤ x → x < b ∨ b + k ≤ x → m' x = m x

theorem Outside.same {a n b k c i : Nat} (h : Outside m m' a n b k) (hstruct : c + i ≤ a ∨ a + n ≤ c)
    (hstring : c + i ≤ b ∨ b + k ≤ c) : Same m c m' c i :=
  fun j hj => (h (c + j) (by omega) (by omega)).symm

theorem copyChars_stored (m : Mem) (a : Nat) (s : Wstr) : CharsStored (copyChars m a s) a s := by
  unfold CharsStored copyChars
  have h := loadArray_storeArray 2 m a (s.chars.map BitVec.toNat)
  rw [List.length_map, List.map_map] at h
  rw [h]
  apply List.map_congr_left
  intro c _
  exact Nat.mod_eq_of_lt c.isLt

theorem copyChars_outside (m : Mem) {a x : Nat} {s : Wstr} (h : x < a ∨ a + 2 * s.chars.length ≤ x) :
    copyChars m a s x = m x :=
  storeArray_outside 2 m (by rwa [List.length_map])

theorem load_copyChars (m : Mem) {a b n : Nat} {s : Wstr} (h : b + n ≤ a ∨ a + 2 * s.chars.length ≤ b) :
    load n (copyChars m a s) b = load n m b :=
  load_storeArray_disjoint 2 n m (by rwa [List.length_map])

/-- One entry is stored, and nothing else is changed. -/
theorem writeEntry_spec (m : Mem) (base : Nat) (e : DefinitionEntry) (hindex : defIndex < 2 ^ 16)
    (hbehind : structOffset + 16 + 12 * defIndex + 12 ≤ stringsOffset)
    (hlt : stringsOffset + 2 * e.name.chars.length < 2 ^ 32) :
    ∃ m', writeEntry base m (base + structOffset + 16 + 12 * defIndex) defIndex stringsOffset
        (2 * e.name.chars.length) e = (m', stringsOffset + 2 * e.name.chars.length) ∧
      (IoEntry.load m' (base + (structOffset + 16 + 12 * defIndex)) = e.io defIndex stringsOffset ∧
        CharsStored m' (base + stringsOffset) e.name) ∧
      Outside m m' (base + (structOffset + 16 + 12 * defIndex)) 12 (base + stringsOffset) (2 * e.name.chars.length) := by
  have hio : base + structOffset + 16 + 12 * defIndex = base + (structOffset + 16 + 12 * defIndex) := by omega
  rw [hio]
  generalize hio' : base + (structOffset + 16 + 12 * defIndex) = io
  have hbehind' : io + 12 ≤ base + stringsOffset := by omega
  have h16 : defIndex % 256 ^ 2 = defIndex := Nat.mod_eq_of_lt (by omega)
  have hoffset : stringsOffset % 256 ^ 4 = stringsOffset := Nat.mod_eq_of_lt (by omega)
  have hlength : 2 * e.name.chars.length % 256 ^ 4 = 2 * e.name.chars.length := Nat.mod_eq_of_lt (by omega)
  -- all fields are below the strings area, so that the name is copied last and changes none of them
  unfold writeEntry
  simp only [load_store, hoffset]
  refine ⟨_, Prod.ext rfl ?_, ⟨?_, copyChars_stored _ _ _⟩, ?_⟩
  · rw [load_copyChars _ (by omega)]
    simp (disch := omega) only [load_store_disjoint, load_store, hlength]
    exact ulong_of_lt hlt
  · simp (disch := omega) only [IoEntry.load, DefinitionEntry.io, load_copyChars, load_store_disjoint, load_store,
      h16, hoffset, hlength]
    rfl
  · intro x hx hx'
    rw [copyChars_outside _ hx']
    simp (disch := omega) only [store_outside]

/-- **The loop over the entries of a fixture.** -/
theorem writeEntries_spec (m : Mem) (base : Nat) (es : List DefinitionEntry) (hfit : NamesFit es) (hindex : defIndex + es.length ≤ 2 ^ 16)
    (hbehind : structOffset + 16 + 12 * (defIndex + es.length) ≤ stringsOffset)
    (hlt : stringsOffset + namesSize es < 2 ^ 32) :
    ∃ m', writeEntries base (base + structOffset) m defIndex stringsOffset es = .ok (m', stringsOffset + namesSize es) ∧
      EntriesStored m' base structOffset defIndex stringsOffset es ∧
      Outside m m' (base + (structOffset + 16 + 12 * defIndex)) (12 * es.length) (base + stringsOffset) (namesSize es) := by
  induction es generalizing m defIndex stringsOffset with
  | nil =>
      refine ⟨m, rfl, trivial, ?_⟩
      intro x _ _
      rfl
  | cons e es ih =>
      rw [List.length_cons] at hindex hbehind
      rw [namesSize_cons] at hlt
      obtain ⟨m₁, hwrite, hstored, hout₁⟩ := writeEntry_spec m base e
        (show defIndex < 2 ^ 16 by omega)
        (show structOffset + 16 + 12 * defIndex + 12 ≤ stringsOffset by omega) (by omega)
      obtain ⟨m₂, hrest, hstored₂, hout₂⟩ := ih m₁ hfit.tail (show defIndex + 1 + es.length ≤ 2 ^ 16 by omega)
        (show structOffset + 16 + 12 * (defIndex + 1 + es.length) ≤ stringsOffset + 2 * e.name.chars.length by omega)
        (by omega)
      -- the entries after it are written behind it, in both areas
      refine ⟨m₂, ?_, ⟨⟨?_, ?_⟩, hstored₂⟩, ?_⟩
      · rw [writeEntries, hfit.head]
        simp only [hwrite]
        rw [hrest, namesSize_cons, Nat.add_assoc]
      · rw [← IoEntry.load_congr (hout₂.same (by omega) (by omega))]
        exact hstored.1
      · exact hstored.2.congr (hout₂.same (by omega) (by omega))
      · intro x hx hx'
        rw [List.length_cons] at hx
        rw [namesSize_cons] at hx'
        rw [hout₂ x (by omega) (by omega), hout₁ x (by omega) (by omega)]

/-- Nothing changes outside of the three ranges. -/
def Outside₃ (m m' : Mem) (c i a n b k : Nat) : Prop :=
  ∀ x, x < c ∨ c + i ≤ x → x < a ∨ a + n ≤ x → x < b ∨ b + k ≤ x → m' x = m x

theorem Outside₃.same {c i a n b k d j : Nat} (h : Outside₃ m m' c i a n b k) (hoffset : d + j ≤ c ∨ c + i ≤ d)
    (hstruct : d + j ≤ a ∨ a + n ≤ d) (hstring : d + j ≤ b ∨ b + k ≤ d) : Same m d m' d j :=
  fun l hl => (h (d + l) (by omega) (by omega) (by omega)).symm

/-- The head of a fixture is stored, and nothing else is changed. -/
theorem writeFixtureHead_spec (m : Mem) (base : Nat) (f : TestFixture) (hindex : fixIndex < 2 ^ 16)
    (hoffsets : 4 + 4 * fixIndex + 4 ≤ structOffset)
    (hbehind : structOffset + sizeofFixture f.entries.length ≤ stringsOffset)
    (hlt : stringsOffset + 2 * f.fixtureName.chars.length < 2 ^ 32) :
    ∃ m', writeFixtureHead base m fixIndex structOffset stringsOffset f =
        (m', structOffset + sizeofFixture f.entries.length, stringsOffset + 2 * f.fixtureName.chars.length) ∧
      HeadStored m' base fixIndex structOffset stringsOffset f ∧
      Outside₃ m m' (base + (4 + 4 * fixIndex)) 4 (base + structOffset) 16 (base + stringsOffset)
        (2 * f.fixtureName.chars.length) := by
  have hentries := f.entries_lt
  have hsize : sizeofFixture f.entries.length = 16 + 12 * f.entries.length := rfl
  have h16 : fixIndex % 256 ^ 2 = fixIndex := Nat.mod_eq_of_lt (by omega)
  have hstruct : structOffset % 256 ^ 4 = structOffset := Nat.mod_eq_of_lt (by omega)
  have hcount : f.entries.length % 256 ^ 4 = f.entries.length := Nat.mod_eq_of_lt (by omega)
  have hstring : stringsOffset % 256 ^ 4 = stringsOffset := Nat.mod_eq_of_lt (by omega)
  have hlength : 2 * f.fixtureName.chars.length % 256 ^ 4 = 2 * f.fixtureName.chars.length :=
    Nat.mod_eq_of_lt (by omega)
  unfold writeFixtureHead
  rw [Nat.add_assoc base 4]
  simp only [load_store, hstring, hcount]
  refine ⟨_, Prod.ext rfl (Prod.ext ?_ ?_), ⟨?_, ?_, ?_, ?_, ?_, copyChars_stored _ _ _⟩, ?_⟩
  · exact ulong_of_lt (by omega)
  · rw [load_copyChars _ (by omega)]
    simp (disch := omega) only [load_store_disjoint, load_store, hlength]
    exact ulong_of_lt (by omega)
  · rw [load_copyChars _ (by omega)]
    simp (disch := omega) only [load_store_disjoint, load_store, hstruct]
  · rw [load_copyChars _ (by omega)]
    simp (disch := omega) only [load_store_disjoint, load_store, h16]
  · rw [load_copyChars _ (by omega), load_store, hstring]
  · rw [load_copyChars _ (by omega)]
    simp (disch := omega) only [load_store_disjoint, load_store, hlength]
  · rw [load_copyChars _ (by omega)]
    simp (disch := omega) only [load_store_disjoint, load_store, hcount]
  · intro x hx hx' hx''
    rw [copyChars_outside _ hx'']
    simp (disch := omega) only [store_outside]

/-- **The loop over the fixtures.** -/
theorem writeFixtures_spec (m : Mem) (base : Nat) (fs : List TestFixture) (hfit : ∀ f ∈ fs, NamesFit f.entries)
    (hindex : fixIndex + fs.length ≤ 2 ^ 16) (hoffsets : 4 + 4 * (fixIndex + fs.length) ≤ structOffset)
    (hbehind : structOffset + structsSize fs ≤ stringsOffset) (hlt : stringsOffset + stringsSize fs < 2 ^ 32) :
    ∃ m', writeFixtures base m fixIndex structOffset stringsOffset fs = .ok m' ∧
      FixturesStored m' base fixIndex structOffset stringsOffset fs ∧
      Outside₃ m m' (base + (4 + 4 * fixIndex)) (4 * fs.length) (base + structOffset) (structsSize fs)
        (base + stringsOffset) (stringsSize fs) := by
  induction fs generalizing m fixIndex structOffset stringsOffset with
  | nil => exact ⟨m, rfl, trivial, fun _ _ _ _ => rfl⟩
  | cons f fs ih =>
      rw [List.length_cons] at hindex hoffsets
      rw [structsSize_cons] at hbehind
      rw [stringsSize_cons, TestFixture.stringsSize] at hlt
      have hentries := f.entries_lt
      have hsize : sizeofFixture f.entries.length = 16 + 12 * f.entries.length := rfl
      obtain ⟨m₁, hhead, hstored₁, hout₁⟩ := writeFixtureHead_spec m base f (show fixIndex < 2 ^ 16 by omega)
        (show 4 + 4 * fixIndex + 4 ≤ structOffset by omega)
        (show structOffset + sizeofFixture f.entries.length ≤ stringsOffset by omega) (by omega)
      obtain ⟨m₂, hwrite, hstored₂, hout₂⟩ := writeEntries_spec m₁ base f.entries (hfit f List.mem_cons_self)
        (show 0 + f.entries.length ≤ 2 ^ 16 by omega)
        (show structOffset + 16 + 12 * (0 + f.entries.length) ≤ stringsOffset + 2 * f.fixtureName.chars.length by omega)
        (by omega)
      obtain ⟨m₃, hrest, hstored₃, hout₃⟩ := ih m₂ (fun x hx => hfit x (List.mem_cons_of_mem _ hx))
        (show fixIndex + 1 + fs.length ≤ 2 ^ 16 by omega)
        (show 4 + 4 * (fixIndex + 1 + fs.length) ≤ structOffset + sizeofFixture f.entries.length by omega)
        (show structOffset + sizeofFixture f.entries.length + structsSize fs ≤
          stringsOffset + 2 * f.fixtureName.chars.length + namesSize f.entries by omega) (by omega)
      -- the head survives the entries, and the fixture the fixtures after it
      have hfixture₂ : FixtureStored m₂ base fixIndex structOffset stringsOffset f := by
        refine ⟨hstored₁.congr ?_ ?_ ?_, hstored₂⟩
        · exact hout₂.same (by omega) (by omega)
        · exact hout₂.same (by omega) (by omega)
        · exact hout₂.same (by omega) (by omega)
      refine ⟨m₃, ?_, ⟨hfixture₂.congr ?_ ?_ ?_, ?_⟩, ?_⟩
      · rw [writeFixtures]
        simp only [hhead, hwrite]
        exact hrest
      · exact hout₃.same (by omega) (by omega) (by omega)
      · exact hout₃.same (by omega) (by omega) (by omega)
      · rw [TestFixture.stringsSize]
        exact hout₃.same (by omega) (by omega) (by omega)
      · rw [TestFixture.stringsSize, ← Nat.add_assoc]
        exact hstored₃
      · intro x hx hx' hx''
        rw [List.length_cons] at hx
        rw [structsSize_cons] at hx'
        rw [stringsSize_cons, TestFixture.stringsSize] at hx''
        rw [hout₃ x (by omega) (by omega) (by omega), hout₂ x (by omega) (by omega),
          hout₁ x (by omega) (by omega) (by omega)]

end Write

/-- **The description is written.** The size is exact, nothing is written behind it, and it holds what
    `ModuleStored` says. -/
theorem queryModuleTestAdapter_spec {a : TestAdapter} {maximumBufferSize : BitVec 32} (m : Mem) (ioBuffer : Nat)
    (hfit : ∀ f ∈ a.fixtures, NamesFit f.entries) (hlt : a.size < 2 ^ 32) (hroom : a.size ≤ maximumBufferSize.toNat) :
    ∃ m', queryModuleTestAdapter a maximumBufferSize m ioBuffer = ⟨statusSuccess, m', a.size⟩ ∧
      ModuleStored m' ioBuffer a ∧ ∀ x, x < ioBuffer ∨ ioBuffer + a.size ≤ x → m' x = m x := by
  have hfixtures := a.fixtures_lt
  have hsize : a.size = a.structSize + stringsSize a.fixtures := rfl
  have hstructs : a.structSize = 4 + 4 * a.fixtures.length + structsSize a.fixtures := rfl
  have hmodule : sizeofModule a.fixtures.length = 4 + 4 * a.fixtures.length := rfl
  have hcount : a.fixtures.length % 256 ^ 4 = a.fixtures.length := Nat.mod_eq_of_lt (by omega)
  obtain ⟨m', hwrite, hstored, hout⟩ := writeFixtures_spec (store 4 m ioBuffer a.fixtures.length) ioBuffer a.fixtures hfit
    (show 0 + a.fixtures.length ≤ 2 ^ 16 by omega)
    (show 4 + 4 * (0 + a.fixtures.length) ≤ sizeofModule a.fixtures.length by omega)
    (show sizeofModule a.fixtures.length + structsSize a.fixtures ≤ a.structSize by omega) (by omega)
  refine ⟨m', ?_, ⟨?_, hstored⟩, ?_⟩
  · -- no sum wraps below 2^32
    have hstructs' : ulong a.structSize = a.structSize := ulong_of_lt (by omega)
    have hstrings' : ulong (stringsSize a.fixtures) = stringsSize a.fixtures := ulong_of_lt (by omega)
    have hsize' : ulong (a.structSize + stringsSize a.fixtures) = a.size := ulong_of_lt hlt
    have hmodule' : ulong (sizeofModule a.fixtures.length) = sizeofModule a.fixtures.length := ulong_of_lt (by omega)
    rw [queryModuleTestAdapter, calculateBufferSize_eq hfit, hstructs', hstrings']
    simp only [hsize', load_store, hcount, hmodule', hwrite]
    exact if_neg (Nat.not_lt_of_le hroom)
  · rw [← (hout.same (by omega) (by omega) (by omega)).load_eq, load_store, hcount]
  · intro x hx
    rw [hout x (by omega) (by omega) (by omega), store_outside 4 m _ (by omega)]

end Cfix.TestModule
