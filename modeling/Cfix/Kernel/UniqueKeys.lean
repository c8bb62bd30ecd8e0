import Cfix.Kernel.EntryNames

/-!
# `Kernel.UniqueKeys` — the keys of a description (`cfixkr/drvtestadp.c`)

`CfixkrpQueryModuleTestAdapter` gives each fixture and each entry its index as the key, by which the client calls its
routine later. Keys and indices are `USHORT`s, but the fixtures and the entries of a driver are counted in `ULONG`s.
The keys are read back from the buffer here, as the client does.
-/

namespace Cfix.TestModule

open Memory
open Cfix.Events (statusInvalidParameter)
open Cfix.Unload (NTSTATUS statusSuccess)

/-! ## Keys -/

/-- The `CFIXKRIO_FIXTURE` with the index. -/
def ioFixtureAt (m : Mem) (ioBuffer fixIndex : Nat) : Nat := ioBuffer + load 4 m (ioBuffer + (4 + 4 * fixIndex))

/-- The keys of the fixtures in the module at this address. -/
def fixtureKeys (m : Mem) (ioBuffer : Nat) : List Nat :=
  (List.range (load 4 m ioBuffer)).map fun i => load 2 m (ioFixtureAt m ioBuffer i)

/-- The keys of the entries of a fixture. -/
def entryKeys (m : Mem) (ioFixture : Nat) : List Nat := (ioEntries m ioFixture).map IoEntry.key

/-- The module has the adapter's fixtures with their entries, and their keys are different. -/
structure KeysUnique (a : DriverAdapter) (m : Mem) (ioBuffer : Nat) : Prop where
  fixtures : (fixtureKeys m ioBuffer).length = a.fixtures.length ∧ (fixtureKeys m ioBuffer).Nodup
  entries  : ∀ i f, a.fixtures[i]? = some f →
    (entryKeys m (ioFixtureAt m ioBuffer i)).length = f.entries.length ∧
      (entryKeys m (ioFixtureAt m ioBuffer i)).Nodup

/-- With every buffer that is large enough the query ends, and a module that it reports has different keys. -/
def EncodesUniquely (a : DriverAdapter) : Prop :=
  ∀ (maximumBufferSize : BitVec 32) (m : Mem) (ioBuffer : Nat), a.size ≤ maximumBufferSize.toNat →
    ∃ fuel r, (∀ more, fuel ≤ more → a.queryModule more maximumBufferSize m ioBuffer = some r) ∧
      (r.status = statusSuccess → KeysUnique a r.memory ioBuffer)

section Stored

variable {m : Mem} {base structOffset stringsOffset fixIndex : Nat}

/-- **The keys of the entries are their indices.** -/
theorem map_key_ioOf (defIndex stringsOffset : Nat) (es : List DefinitionEntry) :
    (ioOf defIndex stringsOffset es).map IoEntry.key = List.range' defIndex es.length := by
  induction es generalizing defIndex stringsOffset with
  | nil => rfl
  | cons e es ih =>
      rw [ioOf, List.map_cons, ih, List.length_cons, List.range'_succ]
      rfl

theorem FixtureStored.entryKeys {f : TestFixture} (h : FixtureStored m base fixIndex structOffset stringsOffset f) :
    TestModule.entryKeys m (base + structOffset) = List.range f.entries.length := by
  rw [TestModule.entryKeys, h.ioEntries_eq, map_key_ioOf, List.range_eq_range']

theorem FixtureStored.ioFixtureAt {f : TestFixture} (h : FixtureStored m base fixIndex structOffset stringsOffset f) :
    TestModule.ioFixtureAt m base fixIndex = base + structOffset := by
  rw [TestModule.ioFixtureAt, h.head.offset]

/-- **The keys of the fixtures are their indices.** -/
theorem FixturesStored.keys {fs : List TestFixture} (h : FixturesStored m base fixIndex structOffset stringsOffset fs) :
    ((List.range' fixIndex fs.length).map fun i => load 2 m (ioFixtureAt m base i)) = List.range' fixIndex fs.length := by
  induction fs generalizing fixIndex structOffset stringsOffset with
  | nil => rfl
  | cons f fs ih =>
      rw [List.length_cons, List.range'_succ, List.map_cons, ih h.2, h.1.ioFixtureAt, h.1.head.key]

/-- The fixture with an index. -/
theorem FixturesStored.getElem {fs : List TestFixture} (h : FixturesStored m base fixIndex structOffset stringsOffset fs)
    {i : Nat} {f : TestFixture} (hf : fs[i]? = some f) :
    ∃ structOffset stringsOffset, FixtureStored m base (fixIndex + i) structOffset stringsOffset f := by
  induction fs generalizing fixIndex structOffset stringsOffset i with
  | nil => cases hf
  | cons g fs ih =>
      cases i with
      | zero =>
          obtain rfl : g = f := Option.some.inj hf
          exact ⟨structOffset, stringsOffset, h.1⟩
      | succ i =>
          rw [Nat.add_comm i 1, ← Nat.add_assoc]
          exact ih h.2 hf

theorem ModuleStored.keysUnique {t : TestAdapter} (h : ModuleStored m base t) : KeysUnique t.driver m base where
  fixtures := by
    have hkeys : fixtureKeys m base = List.range t.fixtures.length := by
      rw [fixtureKeys, h.count, List.range_eq_range']
      exact h.fixtures.keys
    rw [hkeys]
    refine ⟨?_, List.nodup_range⟩
    rw [List.length_range]
    exact (List.length_map _).symm
  entries  := by
    intro i f hf
    have hmap : (t.fixtures.map TestFixture.driver)[i]? = some f := hf
    rw [List.getElem?_map] at hmap
    obtain ⟨g, hg, rfl⟩ := Option.map_eq_some_iff.mp hmap
    obtain ⟨structOffset, stringsOffset, hstored⟩ := h.fixtures.getElem hg
    rw [Nat.zero_add] at hstored
    rw [hstored.ioFixtureAt, hstored.entryKeys]
    exact ⟨List.length_range, List.nodup_range⟩

end Stored

/-! ## Encoding -/

section Encoding

variable {a : DriverAdapter}

/-- **A query encodes its adapter with different keys exactly if the loops end**, unless it fails before them or no
    buffer is large enough. -/
theorem encodesUniquely_iff (a : DriverAdapter) :
    EncodesUniquely a ↔ ((∀ f ∈ a.fixtures, NamesFit f.entries) → a.size < 2 ^ 32 → a.CountsFit) := by
  constructor
  · intro h hfit hsize
    have hroom : a.size ≤ (BitVec.ofNat 32 a.size).toNat := by
      rw [BitVec.toNat_ofNat, Nat.mod_eq_of_lt hsize]
    obtain ⟨fuel, r, hrun, -⟩ := h (BitVec.ofNat 32 a.size) (fun _ => 0) 0 hroom
    by_contra hcounts
    have hends := hrun fuel le_rfl
    rw [queryModule_endless hfit hcounts hroom] at hends
    cases hends
  · intro h maximumBufferSize m ioBuffer hroom
    have hsize : a.size < 2 ^ 32 := Nat.lt_of_le_of_lt hroom maximumBufferSize.isLt
    by_cases hfit : ∀ f ∈ a.fixtures, NamesFit f.entries
    · obtain ⟨t, rfl⟩ := (h hfit hsize).exists
      have hfit' : ∀ f ∈ t.fixtures, NamesFit f.entries := fun f hf => hfit f.driver (List.mem_map_of_mem hf)
      rw [TestAdapter.size_driver] at hsize hroom
      obtain ⟨m', hquery, hstored, -⟩ := queryModuleTestAdapter_spec m ioBuffer hfit' hsize hroom
      refine ⟨2 ^ 16, ⟨statusSuccess, m', t.size⟩, ?_, fun _ => hstored.keysUnique⟩
      intro more hmore
      rw [queryModule_driver_of_le t hmore, hquery]
    · refine ⟨0, ⟨statusInvalidParameter, m, 0⟩, fun more _ => queryModule_refused hfit, ?_⟩
      intro hstatus
      have hne : statusInvalidParameter ≠ statusSuccess := by decide
      exact absurd hstatus hne

/-! ### 65536 fixtures -/

/-- A fixture without entries. -/
def fixtureWithoutEntries : DriverFixture where
  fixtureName := ⟨[0x4D#16, 0x41#16, 0x4E#16, 0x59#16], by decide⟩
  entries     := []
  name_lt     := by decide
  entries_lt  := by decide

def manyFixtures : DriverAdapter where
  fixtures    := List.replicate 65536 fixtureWithoutEntries
  fixtures_lt := by
    rw [List.length_replicate]
    decide

theorem manyFixtures_fixtures : manyFixtures.fixtures = List.replicate 65536 fixtureWithoutEntries := rfl

theorem size_manyFixtures : manyFixtures.size = 1835012 := by
  have hfixture : sizeofFixture fixtureWithoutEntries.entries.length = 16 := rfl
  have hname : 2 * fixtureWithoutEntries.fixtureName.chars.length + namesSize fixtureWithoutEntries.entries = 8 := rfl
  rw [DriverAdapter.size, DriverAdapter.structSize, DriverAdapter.stringsSize, manyFixtures_fixtures, List.length_replicate,
    sum_map_replicate, sum_map_replicate, hfixture, hname, sizeofModule]

/-- The index of the fixtures wraps around, so the loop does not end. -/
theorem not_encodesUniquely_manyFixtures : ¬ ∀ a : DriverAdapter, EncodesUniquely a := by
  intro hall
  have hlength : manyFixtures.fixtures.length = 65536 := by rw [manyFixtures_fixtures, List.length_replicate]
  have hfit : ∀ f ∈ manyFixtures.fixtures, NamesFit f.entries := by
    intro f hf e he
    rw [manyFixtures_fixtures] at hf
    rw [List.eq_of_mem_replicate hf] at he
    cases he
  have hsize : manyFixtures.size < 2 ^ 32 := by
    rw [size_manyFixtures]
    decide
  have hfew := ((encodesUniquely_iff manyFixtures).mp (hall manyFixtures) hfit hsize).fixtures
  rw [hlength] at hfew
  exact absurd hfew (by decide)

end Encoding

end Cfix.TestModule
