import Cfix.Kernel.DriverAdapter

/-!
# `Kernel.EntryNames` — the names that `CfixkrpQueryModuleTestAdapter` accepts (`cfixkr/drvtestadp.c`)

`CFIX_MAX_ENTRY_NAME_CCH` includes the terminator, and so does the limit of `RtlStringCbLengthW`; the code subtracts one
character from it all the same.
-/

namespace Cfix.TestModule

open Memory
open Cfix.Events (Wstr statusInvalidParameter)
open Cfix.Unload (NTSTATUS statusSuccess)

/-! ## Names -/

/-- All names are non-empty, and with their terminators they are not longer than `CFIX_MAX_ENTRY_NAME_CCH`. -/
def DriverAdapter.NamesValid (a : DriverAdapter) : Prop :=
  ∀ f ∈ a.fixtures, ∀ e ∈ f.entries, 0 < e.name.chars.length ∧ e.name.chars.length + 1 ≤ cfixMaxEntryNameCch

def DriverAdapter.NameTooLong (a : DriverAdapter) : Prop :=
  ∃ f ∈ a.fixtures, ∃ e ∈ f.entries, cfixMaxEntryNameCch < e.name.chars.length + 1

/-- No name has the maximal length. -/
def DriverAdapter.BelowLimit (a : DriverAdapter) : Prop :=
  ∀ f ∈ a.fixtures, ∀ e ∈ f.entries, e.name.chars.length + 1 ≠ cfixMaxEntryNameCch

/-- Valid names are accepted if the buffer is large enough; with a name that is too long the query fails and leaves the
    buffer alone. -/
structure AcceptsNames (a : DriverAdapter) : Prop where
  accepted : a.NamesValid → ∀ (maximumBufferSize : BitVec 32) (m : Mem) (ioBuffer : Nat),
    a.size ≤ maximumBufferSize.toNat →
    ∃ fuel r, a.queryModule fuel maximumBufferSize m ioBuffer = some r ∧ r.status = statusSuccess
  refused  : a.NameTooLong → ∀ (maximumBufferSize : BitVec 32) (m : Mem) (ioBuffer : Nat),
    ∃ fuel, a.queryModule fuel maximumBufferSize m ioBuffer = some ⟨statusInvalidParameter, m, 0⟩

section Names

variable {a : DriverAdapter} {maximumBufferSize : BitVec 32} {m : Mem} {ioBuffer fuel : Nat}

/-- A name that does not fit makes the query fail before it writes anything. -/
theorem queryModule_refused (h : ¬ ∀ f ∈ a.fixtures, NamesFit f.entries) :
    a.queryModule fuel maximumBufferSize m ioBuffer = some ⟨statusInvalidParameter, m, 0⟩ := by
  rw [DriverAdapter.queryModule, DriverAdapter.calculateBufferSize, driverBufferSizeFixtures_error h]

theorem calculateBufferSize_ok (hfit : ∀ f ∈ a.fixtures, NamesFit f.entries) :
    a.calculateBufferSize = .ok (ulong a.structSize, ulong a.stringsSize) := by
  have hzero : (0 : Nat) = ulong 0 := rfl
  rw [DriverAdapter.calculateBufferSize]
  conv_lhs => rw [hzero]
  rw [driverBufferSizeFixtures_ok hfit, Nat.zero_add]
  rfl

/-- If the counts do not fit, the query does not end. -/
theorem queryModule_endless (hfit : ∀ f ∈ a.fixtures, NamesFit f.entries) (hcounts : ¬ a.CountsFit)
    (hroom : a.size ≤ maximumBufferSize.toNat) : a.queryModule fuel maximumBufferSize m ioBuffer = none := by
  have hlt := maximumBufferSize.isLt
  have hsum : a.size = a.structSize + a.stringsSize := rfl
  have hsize : ulong (ulong a.structSize + ulong a.stringsSize) = a.size := by
    rw [ulong_of_lt (by omega : a.structSize < 2 ^ 32), ulong_of_lt (by omega : a.stringsSize < 2 ^ 32), ← hsum]
    exact ulong_of_lt (by omega)
  have hloop (m : Mem) (structOffset stringsOffset : Nat) :
      fixturesLoop ioBuffer a.fixtures fuel fuel m 0#16 structOffset stringsOffset = none := by
    rcases Nat.lt_or_ge a.fixtures.length (2 ^ 16) with hfew | hmany
    · obtain ⟨f, hf, hentries⟩ : ∃ f ∈ a.fixtures, 2 ^ 16 ≤ f.entries.length := by
        by_contra hnone
        apply hcounts
        refine ⟨hfew, ?_⟩
        intro f hf
        by_contra hge
        exact hnone ⟨f, hf, Nat.le_of_not_lt hge⟩
      obtain ⟨j, hj, rfl⟩ := List.getElem_of_mem hf
      exact fixturesLoop_stuck hfit hfew hj hentries ioBuffer m (Nat.zero_le j) structOffset stringsOffset
    · exact fixturesLoop_endless hfit hmany ioBuffer m 0#16 structOffset stringsOffset
  rw [DriverAdapter.queryModule, calculateBufferSize_ok hfit]
  simp only [hsize, hloop]
  exact if_neg (Nat.not_lt_of_le hroom)

/-- The query succeeds if names and counts fit. -/
theorem queryModule_success (hfit : ∀ f ∈ a.fixtures, NamesFit f.entries) (hcounts : a.CountsFit)
    (hroom : a.size ≤ maximumBufferSize.toNat) :
    ∃ r, a.queryModule (2 ^ 16) maximumBufferSize m ioBuffer = some r ∧ r.status = statusSuccess := by
  obtain ⟨t, rfl⟩ := hcounts.exists
  rw [TestAdapter.size_driver] at hroom
  have hfit' : ∀ f ∈ t.fixtures, NamesFit f.entries := fun f hf => hfit f.driver (List.mem_map_of_mem hf)
  obtain ⟨m', hquery, -, -⟩ := queryModuleTestAdapter_spec m ioBuffer hfit'
    (Nat.lt_of_le_of_lt hroom maximumBufferSize.isLt) hroom
  exact ⟨_, queryModule_driver t maximumBufferSize m ioBuffer, by rw [hquery]⟩

theorem namesFit_iff (hvalid : a.NamesValid) : (∀ f ∈ a.fixtures, NamesFit f.entries) ↔ a.BelowLimit := by
  have hmax : cfixMaxEntryNameCch = 64 := rfl
  constructor
  · intro hfit f hf e he heq
    have hle := hfit f hf e he
    omega
  · intro hbelow f hf e he
    have hne := hbelow f hf e he
    have hle := (hvalid f hf e he).2
    omega

/-- **Valid names are accepted exactly if none has the maximal length and the loops end.** -/
theorem acceptsNames_iff (a : DriverAdapter) :
    AcceptsNames a ↔ (a.NamesValid → a.size < 2 ^ 32 → a.BelowLimit ∧ a.CountsFit) := by
  constructor
  · intro h hvalid hsize
    have hroom : a.size ≤ (BitVec.ofNat 32 a.size).toNat := by
      rw [BitVec.toNat_ofNat, Nat.mod_eq_of_lt hsize]
    obtain ⟨fuel, r, hrun, hstatus⟩ := h.accepted hvalid (BitVec.ofNat 32 a.size) (fun _ => 0) 0 hroom
    have hfit : ∀ f ∈ a.fixtures, NamesFit f.entries := by
      by_contra hlong
      rw [queryModule_refused hlong] at hrun
      cases hrun
      exact absurd hstatus (by decide)
    refine ⟨(namesFit_iff hvalid).mp hfit, ?_⟩
    by_contra hcounts
    rw [queryModule_endless hfit hcounts hroom] at hrun
    cases hrun
  · intro h
    constructor
    · intro hvalid maximumBufferSize m ioBuffer hroom
      obtain ⟨hbelow, hcounts⟩ := h hvalid (Nat.lt_of_le_of_lt hroom maximumBufferSize.isLt)
      exact ⟨2 ^ 16, queryModule_success ((namesFit_iff hvalid).mpr hbelow) hcounts hroom⟩
    · rintro ⟨f, hf, e, he, hlong⟩ maximumBufferSize m ioBuffer
      refine ⟨0, queryModule_refused ?_⟩
      intro hfit
      have hle := hfit f hf e he
      have hmax : cfixMaxEntryNameCch = 64 := rfl
      omega

/-! ### A name of 63 characters -/

def longestName : Wstr where
  chars   := List.replicate 63 0x41#16
  nulFree := by
    intro hmem
    have heq := List.eq_of_mem_replicate hmem
    exact absurd heq (by decide)

theorem length_longestName : longestName.chars.length = 63 := List.length_replicate

/-- A driver with one test case, whose name has the maximal length. -/
def longestAdapter : DriverAdapter where
  fixtures    := [⟨⟨[0x4C#16, 0x4E#16], by decide⟩, [⟨3#32, longestName, 0xF100⟩], by decide, by decide⟩]
  fixtures_lt := by decide

/-- The driver cannot be queried. -/
theorem not_acceptsNames_longestAdapter : ¬ ∀ a : DriverAdapter, AcceptsNames a := by
  intro hall
  have hmem : ∀ f ∈ longestAdapter.fixtures, ∀ e ∈ f.entries, e.name = longestName := by
    intro f hf e he
    obtain rfl := List.mem_singleton.mp hf
    obtain rfl := List.mem_singleton.mp he
    rfl
  have hvalid : longestAdapter.NamesValid := by
    intro f hf e he
    rw [hmem f hf e he, length_longestName]
    decide
  have hroom : longestAdapter.size ≤ (1000#32).toNat := by
    have hsize : longestAdapter.size
        = 4 + 4 * 1 + (16 + 12 * 1 + 0) + (2 * 2 + (2 * longestName.chars.length + 0) + 0) := rfl
    rw [hsize, length_longestName]
    decide
  obtain ⟨fuel, r, hrun, hstatus⟩ := (hall longestAdapter).accepted hvalid 1000#32 (fun _ => 0) 0 hroom
  have hlong : ¬ ∀ f ∈ longestAdapter.fixtures, NamesFit f.entries := by
    intro hfit
    have hle := hfit _ List.mem_cons_self _ List.mem_cons_self
    have hlength : longestName.chars.length ≤ 62 := hle
    rw [length_longestName] at hlength
    omega
  rw [queryModule_refused hlong] at hrun
  cases hrun
  exact absurd hstatus (by decide)

end Names

end Cfix.TestModule
