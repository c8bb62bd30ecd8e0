import Cfix.Kernel.ModuleRoundTrip

/-!
# `Kernel.DriverAdapter` — adapters of any size (`cfixkr/drvtestadp.c`)

The fixtures of a driver and their entries are counted in `ULONG`s, but the loops that describe them count in `USHORT`s.
The adapters of `Kernel.TestAdapter` are those for which the counts fit; for them the loops here are the recursions
there, and for all others they do not end.
-/

namespace Cfix.TestModule

open Memory
open Cfix.Events (Wstr rtlStringCbLength statusInvalidParameter ntSuccess)
open Cfix.Unload (NTSTATUS statusSuccess)

/-! ## Adapters -/

/-- `CFIXKRP_TEST_FIXTURE`, with `Definition.EntryCount` entries. -/
structure DriverFixture where
  fixtureName : Wstr
  entries     : List DefinitionEntry
  name_lt     : fixtureName.chars.length < cfixMaxFixtureNameCch
  entries_lt  : entries.length < 2 ^ 32

/-- `CFIXKRP_TEST_ADAPTER`, with `Fixtures.EntryCount` fixtures. -/
structure DriverAdapter where
  fixtures    : List DriverFixture
  fixtures_lt : fixtures.length < 2 ^ 32

/-- The loop of `CfixkrsCalculateBufferSize` over the fixtures. -/
def driverBufferSizeFixtures : List DriverFixture → Nat → Nat → Except NTSTATUS (Nat × Nat)
  | [], structSize, stringsSize      => .ok (structSize, stringsSize)
  | f :: fs, structSize, stringsSize =>
    match stringsSizeEntries f.entries (ulong (stringsSize + 2 * f.fixtureName.chars.length)) with
    | .error status   => .error status
    | .ok stringsSize =>
      driverBufferSizeFixtures fs (ulong (structSize + sizeofFixture f.entries.length)) stringsSize

/-- `CfixkrsCalculateBufferSize`. -/
def DriverAdapter.calculateBufferSize (a : DriverAdapter) : Except NTSTATUS (Nat × Nat) :=
  driverBufferSizeFixtures a.fixtures (ulong (sizeofModule a.fixtures.length)) 0

/-- The loop over the entries of the fixture at `ioFixture`: `DefIndex` is a `USHORT`. -/
def entriesLoop (ioBuffer ioFixture : Nat) (es : List DefinitionEntry) :
    Nat → Mem → BitVec 16 → Nat → Option (Except NTSTATUS (Mem × Nat))
  | 0,        _, _,        _             => none
  | fuel + 1, m, defIndex, stringsOffset =>
    match es[defIndex.toNat]? with
    | none   => some (.ok (m, stringsOffset))
    | some e =>
      match entryNameLength e with
      | .error status => some (.error status)
      | .ok length    =>
        let (m, stringsOffset) :=
          writeEntry ioBuffer m (ioFixture + 16 + 12 * defIndex.toNat) defIndex.toNat stringsOffset length e
        entriesLoop ioBuffer ioFixture es fuel m (defIndex + 1#16) stringsOffset

/-- A fixture without its entries, at `structOffset`: the memory afterwards and the two offsets. -/
def DriverFixture.writeHead (f : DriverFixture) (ioBuffer : Nat) (m : Mem) (fixIndex structOffset stringsOffset : Nat) :
    Mem × Nat × Nat :=
  let m := store 4 m (ioBuffer + 4 + 4 * fixIndex) structOffset
  let ioFixture := ioBuffer + structOffset
  let m := store 2 m ioFixture fixIndex
  let m := store 4 m (ioFixture + 12) f.entries.length
  let structOffset := ulong (structOffset + sizeofFixture (load 4 m (ioFixture + 12)))
  let m := store 4 m (ioFixture + 8) (2 * f.fixtureName.chars.length)
  let m := store 4 m (ioFixture + 4) stringsOffset
  let m := copyChars m (ioBuffer + load 4 m (ioFixture + 4)) f.fixtureName
  (m, structOffset, ulong (stringsOffset + load 4 m (ioFixture + 8)))

/-- The loop over the fixtures: `FixIndex` is a `USHORT`. -/
def fixturesLoop (ioBuffer : Nat) (fs : List DriverFixture) (turns : Nat) :
    Nat → Mem → BitVec 16 → Nat → Nat → Option (Except NTSTATUS Mem)
  | 0,        _, _,        _,            _             => none
  | fuel + 1, m, fixIndex, structOffset, stringsOffset =>
    match fs[fixIndex.toNat]? with
    | none   => some (.ok m)
    | some f =>
      let (m, structOffset', stringsOffset) := f.writeHead ioBuffer m fixIndex.toNat structOffset stringsOffset
      match entriesLoop ioBuffer (ioBuffer + structOffset) f.entries turns m 0#16 stringsOffset with
      | none                          => none
      | some (.error status)          => some (.error status)
      | some (.ok (m, stringsOffset)) =>
        fixturesLoop ioBuffer fs turns fuel m (fixIndex + 1#16) structOffset' stringsOffset

/-- `CfixkrpQueryModuleTestAdapter`. Each loop may take `fuel` turns; `none` says that this is not enough. -/
def DriverAdapter.queryModule (a : DriverAdapter) (fuel : Nat) (maximumBufferSize : BitVec 32) (m : Mem)
    (ioBuffer : Nat) : Option QueryResult :=
  match a.calculateBufferSize with
  | .error status                  => some ⟨status, m, 0⟩
  | .ok (structSize, stringsSize) =>
    let bufferSize := ulong (structSize + stringsSize)
    if bufferSize > maximumBufferSize.toNat then some ⟨statusBufferOverflow, m, bufferSize⟩
    else
      let m := store 4 m ioBuffer a.fixtures.length
      match fixturesLoop ioBuffer a.fixtures fuel fuel m 0#16 (ulong (sizeofModule (load 4 m ioBuffer))) structSize with
      | none                 => none
      | some (.error status) => some ⟨status, m, bufferSize⟩
      | some (.ok m)         => some ⟨statusSuccess, m, bufferSize⟩

/-! ## Adapters whose counts fit -/

def TestFixture.driver (f : TestFixture) : DriverFixture where
  fixtureName := f.fixtureName
  entries     := f.entries
  name_lt     := f.name_lt
  entries_lt  := Nat.lt_trans f.entries_lt (by decide)

def TestAdapter.driver (a : TestAdapter) : DriverAdapter where
  fixtures    := a.fixtures.map TestFixture.driver
  fixtures_lt := by
    rw [List.length_map]
    exact Nat.lt_trans a.fixtures_lt (by decide)

/-- The loops over the fixtures and the entries end. -/
structure DriverAdapter.CountsFit (a : DriverAdapter) : Prop where
  fixtures : a.fixtures.length < 2 ^ 16
  entries  : ∀ f ∈ a.fixtures, f.entries.length < 2 ^ 16

theorem exists_fixtures {fs : List DriverFixture} (h : ∀ f ∈ fs, f.entries.length < 2 ^ 16) :
    ∃ ts : List TestFixture, ts.map TestFixture.driver = fs := by
  induction fs with
  | nil => exact ⟨[], rfl⟩
  | cons f fs ih =>
      obtain ⟨ts, hts⟩ := ih (fun x hx => h x (List.mem_cons_of_mem _ hx))
      refine ⟨⟨f.fixtureName, f.entries, f.name_lt, h f List.mem_cons_self⟩ :: ts, ?_⟩
      rw [List.map_cons, hts]
      rfl

/-- These are the adapters of `Kernel.TestAdapter`. -/
theorem DriverAdapter.CountsFit.exists {a : DriverAdapter} (h : a.CountsFit) : ∃ t : TestAdapter, t.driver = a := by
  obtain ⟨ts, hts⟩ := exists_fixtures h.entries
  have hlength : ts.length = a.fixtures.length := by rw [← hts, List.length_map]
  refine ⟨⟨ts, by rw [hlength]; exact h.fixtures⟩, ?_⟩
  cases a with
  | mk fixtures fixtures_lt =>
      obtain rfl := hts
      rfl

section Loops

variable (ioBuffer ioFixture : Nat) {fuel turns : Nat}

theorem toNat_ofNat_of_le {i n : Nat} (hi : i ≤ n) (hn : n < 2 ^ 16) : (BitVec.ofNat 16 i).toNat = i := by
  rw [BitVec.toNat_ofNat]
  exact Nat.mod_eq_of_lt (by omega)

theorem ofNat_succ (i : Nat) : BitVec.ofNat 16 i + 1#16 = BitVec.ofNat 16 (i + 1) := (BitVec.ofNat_add i 1).symm

/-- **The loop over the entries** is the recursion over the entries that are left. -/
theorem entriesLoop_eq {es : List DefinitionEntry} (hcount : es.length < 2 ^ 16) (m : Mem) {i : Nat}
    (hi : i ≤ es.length) (stringsOffset : Nat) (hfuel : es.length < i + fuel) :
    entriesLoop ioBuffer ioFixture es fuel m (BitVec.ofNat 16 i) stringsOffset =
      some (writeEntries ioBuffer ioFixture m i stringsOffset (es.drop i)) := by
  induction fuel generalizing i m stringsOffset with
  | zero => omega
  | succ fuel ih =>
      rw [entriesLoop, toNat_ofNat_of_le hi hcount]
      rcases Nat.lt_or_ge i es.length with hlt | hge
      · rw [List.drop_eq_getElem_cons hlt, writeEntries]
        simp only [List.getElem?_eq_getElem hlt]
        cases hname : entryNameLength es[i] with
        | error status => simp only
        | ok length =>
            simp only [ofNat_succ]
            exact ih _ hlt _ (by omega)
      · rw [List.drop_eq_nil_of_le hge]
        simp only [List.getElem?_eq_none hge, writeEntries]

/-- **The loop over the fixtures** is the recursion over the fixtures that are left. -/
theorem fixturesLoop_eq {ts : List TestFixture} (hcount : ts.length < 2 ^ 16)
    (hturns : ∀ t ∈ ts, t.entries.length < turns) (m : Mem) {i : Nat} (hi : i ≤ ts.length)
    (structOffset stringsOffset : Nat) (hfuel : ts.length < i + fuel) :
    fixturesLoop ioBuffer (ts.map TestFixture.driver) turns fuel m (BitVec.ofNat 16 i) structOffset stringsOffset =
      some (writeFixtures ioBuffer m i structOffset stringsOffset (ts.drop i)) := by
  induction fuel generalizing i m structOffset stringsOffset with
  | zero => omega
  | succ fuel ih =>
      rw [fixturesLoop, toNat_ofNat_of_le hi hcount]
      rcases Nat.lt_or_ge i ts.length with hlt | hge
      · have hget : (ts.map TestFixture.driver)[i]? = some ts[i].driver := by
          rw [List.getElem?_map, List.getElem?_eq_getElem hlt]
          rfl
        have hhead : ts[i].driver.writeHead ioBuffer m i structOffset stringsOffset =
          writeFixtureHead ioBuffer m i structOffset stringsOffset ts[i] := rfl
        rw [List.drop_eq_getElem_cons hlt, writeFixtures]
        simp only [hget, hhead]
        obtain ⟨m₁, structOffset', stringsOffset'⟩ := writeFixtureHead ioBuffer m i structOffset stringsOffset ts[i]
        have hentries := entriesLoop_eq ioBuffer (ioBuffer + structOffset) ts[i].entries_lt m₁
          (Nat.zero_le _) stringsOffset' (by rw [Nat.zero_add]; exact hturns _ (List.getElem_mem hlt))
        have hrun : entriesLoop ioBuffer (ioBuffer + structOffset) ts[i].driver.entries turns m₁ 0#16 stringsOffset' =
          some (writeEntries ioBuffer (ioBuffer + structOffset) m₁ 0 stringsOffset' ts[i].entries) := hentries
        simp only [hrun]
        cases writeEntries ioBuffer (ioBuffer + structOffset) m₁ 0 stringsOffset' ts[i].entries with
        | error status => rfl
        | ok r =>
            simp only [ofNat_succ]
            exact ih _ hlt _ _ (by omega)
      · have hget : (ts.map TestFixture.driver)[i]? = none := by
          rw [List.getElem?_map, List.getElem?_eq_none hge]
          rfl
        rw [List.drop_eq_nil_of_le hge]
        simp only [hget, writeFixtures]

end Loops

theorem driverBufferSizeFixtures_eq (ts : List TestFixture) (structSize stringsSize : Nat) :
    driverBufferSizeFixtures (ts.map TestFixture.driver) structSize stringsSize =
      bufferSizeFixtures ts structSize stringsSize := by
  induction ts generalizing structSize stringsSize with
  | nil => rfl
  | cons t ts ih =>
      rw [List.map_cons, driverBufferSizeFixtures, bufferSizeFixtures]
      have hentries : t.driver.entries = t.entries := rfl
      have hname : t.driver.fixtureName = t.fixtureName := rfl
      rw [hentries, hname]
      cases stringsSizeEntries t.entries (ulong (stringsSize + 2 * t.fixtureName.chars.length)) with
      | error status => rfl
      | ok stringsSize => exact ih _ _

/-- **The query of an adapter whose counts fit** ends, and is the one of `Kernel.TestAdapter`. -/
theorem queryModule_driver_of_le (t : TestAdapter) {fuel : Nat} (hfuel : 2 ^ 16 ≤ fuel) (maximumBufferSize : BitVec 32)
    (m : Mem) (ioBuffer : Nat) :
    t.driver.queryModule fuel maximumBufferSize m ioBuffer =
      some (queryModuleTestAdapter t maximumBufferSize m ioBuffer) := by
  have hsizes : t.driver.calculateBufferSize = calculateBufferSize t := by
    rw [DriverAdapter.calculateBufferSize, calculateBufferSize]
    show driverBufferSizeFixtures (t.fixtures.map TestFixture.driver)
      (ulong (sizeofModule (t.fixtures.map TestFixture.driver).length)) 0 = _
    rw [driverBufferSizeFixtures_eq, List.length_map]
  have hlength : t.driver.fixtures.length = t.fixtures.length := List.length_map _
  rw [DriverAdapter.queryModule, queryModuleTestAdapter, hsizes, hlength]
  cases calculateBufferSize t with
  | error status => rfl
  | ok sizes =>
      obtain ⟨structSize, stringsSize⟩ := sizes
      simp only
      split
      · rfl
      · have hloop := fixturesLoop_eq ioBuffer t.fixtures_lt (fun f _ => Nat.lt_of_lt_of_le f.entries_lt hfuel)
          (store 4 m ioBuffer t.fixtures.length) (Nat.zero_le _)
          (ulong (sizeofModule (load 4 (store 4 m ioBuffer t.fixtures.length) ioBuffer))) structSize
          (by rw [Nat.zero_add]; exact Nat.lt_of_lt_of_le t.fixtures_lt hfuel)
        rw [List.drop_zero] at hloop
        have hrun : fixturesLoop ioBuffer t.driver.fixtures fuel fuel (store 4 m ioBuffer t.fixtures.length) 0#16
            (ulong (sizeofModule (load 4 (store 4 m ioBuffer t.fixtures.length) ioBuffer))) structSize =
              some (writeFixtures ioBuffer (store 4 m ioBuffer t.fixtures.length) 0
                (ulong (sizeofModule (load 4 (store 4 m ioBuffer t.fixtures.length) ioBuffer))) structSize t.fixtures) :=
          hloop
        rw [hrun]
        cases writeFixtures ioBuffer (store 4 m ioBuffer t.fixtures.length) 0
            (ulong (sizeofModule (load 4 (store 4 m ioBuffer t.fixtures.length) ioBuffer))) structSize t.fixtures with
        | error status => rfl
        | ok m => rfl

theorem queryModule_driver (t : TestAdapter) (maximumBufferSize : BitVec 32) (m : Mem) (ioBuffer : Nat) :
    t.driver.queryModule (2 ^ 16) maximumBufferSize m ioBuffer =
      some (queryModuleTestAdapter t maximumBufferSize m ioBuffer) :=
  queryModule_driver_of_le t le_rfl maximumBufferSize m ioBuffer

/-! ## Loops that do not end -/

section Endless

variable {es : List DefinitionEntry} {fs : List DriverFixture} {fuel turns : Nat}

/-- The length of the name of an entry. -/
theorem NamesFit.entryNameLength (h : NamesFit es) {e : DefinitionEntry} (he : e ∈ es) :
    entryNameLength e = .ok (2 * e.name.chars.length) := by
  have hone : NamesFit [e] := by
    intro x hx
    obtain rfl := List.mem_singleton.mp hx
    exact h x he
  exact hone.head

/-- The loop over the entries does not stop at a name. -/
theorem entriesLoop_ne_error (fuel : Nat) (hfit : NamesFit es) (ioBuffer ioFixture : Nat) (m : Mem) (defIndex : BitVec 16)
    (stringsOffset : Nat) (status : NTSTATUS) :
    entriesLoop ioBuffer ioFixture es fuel m defIndex stringsOffset ≠ some (.error status) := by
  induction fuel generalizing m defIndex stringsOffset with
  | zero => simp [entriesLoop]
  | succ fuel ih =>
      rw [entriesLoop]
      cases hget : es[defIndex.toNat]? with
      | none => simp
      | some e =>
          simp only [hfit.entryNameLength (List.mem_of_getElem? hget)]
          exact ih _ _ _

/-- **More than 65535 entries**: the index is always in the table. -/
theorem entriesLoop_endless (hfit : NamesFit es) (hmany : 2 ^ 16 ≤ es.length) (ioBuffer ioFixture : Nat) (m : Mem)
    (defIndex : BitVec 16) (stringsOffset : Nat) :
    entriesLoop ioBuffer ioFixture es fuel m defIndex stringsOffset = none := by
  induction fuel generalizing m defIndex stringsOffset with
  | zero => rfl
  | succ fuel ih =>
      have hlt : defIndex.toNat < es.length := Nat.lt_of_lt_of_le defIndex.isLt hmany
      rw [entriesLoop]
      simp only [List.getElem?_eq_getElem hlt, hfit.entryNameLength (List.getElem_mem hlt)]
      exact ih _ _ _

/-- **More than 65535 fixtures**: the index is always in the array. -/
theorem fixturesLoop_endless (hfit : ∀ f ∈ fs, NamesFit f.entries) (hmany : 2 ^ 16 ≤ fs.length) (ioBuffer : Nat)
    (m : Mem) (fixIndex : BitVec 16) (structOffset stringsOffset : Nat) :
    fixturesLoop ioBuffer fs turns fuel m fixIndex structOffset stringsOffset = none := by
  induction fuel generalizing m fixIndex structOffset stringsOffset with
  | zero => rfl
  | succ fuel ih =>
      have hlt : fixIndex.toNat < fs.length := Nat.lt_of_lt_of_le fixIndex.isLt hmany
      rw [fixturesLoop]
      simp only [List.getElem?_eq_getElem hlt]
      obtain ⟨m₁, structOffset', stringsOffset'⟩ :=
        (fs[fixIndex.toNat]).writeHead ioBuffer m fixIndex.toNat structOffset stringsOffset
      have herror := entriesLoop_ne_error turns (hfit _ (List.getElem_mem hlt)) ioBuffer
        (ioBuffer + structOffset) m₁ 0#16 stringsOffset'
      cases hentries : entriesLoop ioBuffer (ioBuffer + structOffset) fs[fixIndex.toNat].entries turns m₁ 0#16
          stringsOffset' with
      | none => simp only
      | some r =>
          cases r with
          | error status => exact absurd hentries (herror status)
          | ok r =>
              simp only
              exact ih _ _ _ _

/-- The loop over the fixtures does not get past a fixture with more than 65535 entries. -/
theorem fixturesLoop_stuck (hfit : ∀ f ∈ fs, NamesFit f.entries) (hcount : fs.length < 2 ^ 16) {j : Nat}
    (hj : j < fs.length) (hmany : 2 ^ 16 ≤ fs[j].entries.length) (ioBuffer : Nat) (m : Mem) {i : Nat} (hi : i ≤ j)
    (structOffset stringsOffset : Nat) :
    fixturesLoop ioBuffer fs turns fuel m (BitVec.ofNat 16 i) structOffset stringsOffset = none := by
  induction fuel generalizing i m structOffset stringsOffset with
  | zero => rfl
  | succ fuel ih =>
      have hlt : i < fs.length := Nat.lt_of_le_of_lt hi hj
      rw [fixturesLoop, toNat_ofNat_of_le hlt.le hcount]
      simp only [List.getElem?_eq_getElem hlt]
      obtain ⟨m₁, structOffset', stringsOffset'⟩ := (fs[i]).writeHead ioBuffer m i structOffset stringsOffset
      have herror := entriesLoop_ne_error turns (hfit _ (List.getElem_mem hlt)) ioBuffer
        (ioBuffer + structOffset) m₁ 0#16 stringsOffset'
      cases hentries : entriesLoop ioBuffer (ioBuffer + structOffset) fs[i].entries turns m₁ 0#16 stringsOffset' with
      | none => simp only
      | some r =>
          cases r with
          | error status => exact absurd hentries (herror status)
          | ok r =>
              simp only
              have hne : i ≠ j := by
                rintro rfl
                rw [entriesLoop_endless (hfit _ (List.getElem_mem hlt)) hmany] at hentries
                cases hentries
              rw [ofNat_succ]
              exact ih _ (by omega) _ _

end Endless

/-! ## Sizes -/

/-- The bytes of the structures and of the strings. -/
def DriverAdapter.structSize (a : DriverAdapter) : Nat :=
  sizeofModule a.fixtures.length + (a.fixtures.map fun f => sizeofFixture f.entries.length).sum

def DriverAdapter.stringsSize (a : DriverAdapter) : Nat :=
  (a.fixtures.map fun f => 2 * f.fixtureName.chars.length + namesSize f.entries).sum

/-- The bytes of the whole description. -/
def DriverAdapter.size (a : DriverAdapter) : Nat := a.structSize + a.stringsSize

theorem TestAdapter.size_driver (t : TestAdapter) : t.driver.size = t.size := by
  rw [DriverAdapter.size, DriverAdapter.structSize, DriverAdapter.stringsSize, TestAdapter.size, TestAdapter.structSize,
    structsSize, stringsSize]
  show sizeofModule (t.fixtures.map TestFixture.driver).length +
      ((t.fixtures.map TestFixture.driver).map fun f => sizeofFixture f.entries.length).sum +
      ((t.fixtures.map TestFixture.driver).map fun f => 2 * f.fixtureName.chars.length + namesSize f.entries).sum = _
  rw [List.length_map, List.map_map, List.map_map]
  rfl

/-- The sums wrap, but do not fail. -/
theorem driverBufferSizeFixtures_ok {fs : List DriverFixture} (hfit : ∀ f ∈ fs, NamesFit f.entries) (n k : Nat) :
    driverBufferSizeFixtures fs (ulong n) (ulong k) =
      .ok (ulong (n + (fs.map fun f => sizeofFixture f.entries.length).sum),
        ulong (k + (fs.map fun f => 2 * f.fixtureName.chars.length + namesSize f.entries).sum)) := by
  induction fs generalizing n k with
  | nil => simp [driverBufferSizeFixtures]
  | cons f fs ih =>
      have hfs := ih (fun x hx => hfit x (List.mem_cons_of_mem _ hx))
      rw [driverBufferSizeFixtures, ulong_ulong_add, stringsSizeEntries_eq (hfit f List.mem_cons_self)]
      simp only [ulong_ulong_add]
      rw [hfs, List.map_cons, List.sum_cons, List.map_cons, List.sum_cons]
      simp only [Nat.add_assoc]

theorem stringsSizeEntries_error {es : List DefinitionEntry} (h : ¬ NamesFit es) (n : Nat) :
    stringsSizeEntries es n = .error statusInvalidParameter := by
  induction es generalizing n with
  | nil => exact absurd (fun e he => by cases he) h
  | cons e es ih =>
      rw [stringsSizeEntries]
      by_cases hname : e.name.chars.length ≤ 62
      · have hone : NamesFit [e] := by
          intro x hx
          obtain rfl := List.mem_singleton.mp hx
          exact hname
        simp only [hone.head]
        apply ih
        intro hrest
        apply h
        intro x hx
        rcases List.mem_cons.mp hx with rfl | hx
        · exact hname
        · exact hrest x hx
      · have hlong : entryNameLength e = .error statusInvalidParameter := by
          have hout : ¬ e.name.chars.length < (cfixMaxEntryNameCch - 1) * 2 / 2 := by
            unfold cfixMaxEntryNameCch
            omega
          rw [entryNameLength, rtlStringCbLength, if_neg hout]
        simp only [hlong]

/-- A name that is too long is the only reason for a failure. -/
theorem driverBufferSizeFixtures_error {fs : List DriverFixture} (h : ¬ ∀ f ∈ fs, NamesFit f.entries) (n k : Nat) :
    driverBufferSizeFixtures fs n k = .error statusInvalidParameter := by
  induction fs generalizing n k with
  | nil => exact absurd (fun f hf => by cases hf) h
  | cons f fs ih =>
      rw [driverBufferSizeFixtures]
      by_cases hfit : NamesFit f.entries
      · cases hentries : stringsSizeEntries f.entries (ulong (k + 2 * f.fixtureName.chars.length)) with
        | error status =>
            rw [stringsSizeEntries_eq hfit] at hentries
            cases hentries
        | ok stringsSize =>
            simp only
            apply ih
            intro hrest
            apply h
            intro x hx
            rcases List.mem_cons.mp hx with rfl | hx
            · exact hfit
            · exact hrest x hx
      · rw [stringsSizeEntries_error hfit]

end Cfix.TestModule
