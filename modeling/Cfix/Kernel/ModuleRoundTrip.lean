import Cfix.Kernel.ModuleWritten

/-!
# `Kernel.ModuleRoundTrip` — the client's fixtures are those of the driver

`createFixture` is followed over a stored description: the strings of the allocation are stored one behind the
other, each special routine is set by at most one entry, and every key is the index of its entry. The round
trip of the whole module is `moduleRoundTrip`.
-/

namespace Cfix.TestModule

open Memory
open Cfix.Events (Wstr Width)
open Cfix.Unload (statusSuccess)

/-! ## Entries of the client -/

/-- The entries as the client reads them. -/
def ioOf : Nat → Nat → List DefinitionEntry → List IoEntry
  | _, _, []                           => []
  | defIndex, stringsOffset, e :: es =>
    e.io defIndex stringsOffset :: ioOf (defIndex + 1) (stringsOffset + 2 * e.name.chars.length) es

section Entries

variable {m : Mem} {base structOffset stringsOffset defIndex : Nat}

theorem EntriesStored.map_load {es : List DefinitionEntry}
    (h : EntriesStored m base structOffset defIndex stringsOffset es) :
    ((List.range' defIndex es.length).map fun i => IoEntry.load m (base + (structOffset + 16 + 12 * i)))
      = ioOf defIndex stringsOffset es := by
  induction es generalizing defIndex stringsOffset with
  | nil => rfl
  | cons e es ih =>
      rw [List.length_cons, List.range'_succ, List.map_cons, ih h.2, h.1.1]
      rfl

theorem FixtureStored.ioEntries_eq {fixIndex : Nat} {f : TestFixture}
    (h : FixtureStored m base fixIndex structOffset stringsOffset f) :
    ioEntries m (base + structOffset) = ioOf 0 (stringsOffset + 2 * f.fixtureName.chars.length) f.entries := by
  rw [ioEntries, h.head.entryCount, List.range_eq_range', ← h.entries.map_load]
  apply List.map_congr_left
  intro i _
  congr 1
  omega

end Entries

/-! ## Strings of the client -/

/-- A zero-terminated string in an allocation. -/
def StringStored (m : Mem) (offset : Nat) (s : Wstr) : Prop :=
  loadArray 2 m offset (s.chars.length + 1) = s.chars.map BitVec.toNat ++ [0]

theorem StringStored.congr {m m' : Mem} {offset : Nat} {s : Wstr} (h : StringStored m offset s)
    (hsame : Same m offset m' offset (2 * s.chars.length + 2)) : StringStored m' offset s := by
  unfold StringStored at h ⊢
  rw [← hsame.loadArray_eq]
  exact h

/-- A counted string becomes a zero-terminated one. -/
theorem copyTerminated_stored {m : Mem} {source : Nat} {s : Wstr} (h : CharsStored m source s) (target : Mem)
    (offset : Nat) : StringStored (copyTerminated target offset m source (2 * s.chars.length)) offset s := by
  -- the terminator is behind the characters, which are those of the source
  unfold StringStored copyTerminated
  have hhalf : 2 * (2 * s.chars.length / 2) = 2 * s.chars.length := by omega
  have hcopy := (same_copy m target source offset (2 * s.chars.length)).loadArray_eq
  rw [hhalf, loadArray_append, loadArray_store_disjoint _ _ _ _ (.inl (Nat.le_refl _)), ← hcopy, h]
  simp [loadArray, load_store]

theorem copyTerminated_outside (target : Mem) {offset x : Nat} (m : Mem) (source n : Nat)
    (h : x < offset ∨ offset + (2 * n + 2) ≤ x) : copyTerminated target offset m source (2 * n) x = target x := by
  have hhalf : 2 * (2 * n / 2) = 2 * n := by omega
  rw [copyTerminated, hhalf, store_outside 2 _ _ (by omega), write_outside _ (by rw [length_read]; omega)]

theorem StringStored.stringAt {f : KernelFixture} {offset : Nat} {s : Wstr} (h : StringStored f.memory offset s)
    (hsize : offset + (2 * s.chars.length + 2) ≤ f.size) : f.stringAt offset = s := by
  obtain ⟨k, hk⟩ : ∃ k, (f.size - offset) / 2 = s.chars.length + 1 + k := ⟨_, (Nat.add_sub_of_le (by omega)).symm⟩
  rw [KernelFixture.stringAt, hk, loadArray_append, h, List.map_append, List.map_append,
    Events.map_ofNat_map_toNat, List.append_assoc]
  exact Wstr.ofBuffer_chars s _

/-! ## The loop over the entries -/

def DefinitionEntry.isTestcase (e : DefinitionEntry) : Bool := e.type.toNat == cfixEntryTypeTestcase

/-- The entry has one of the types that the client knows. -/
def DefinitionEntry.Known (e : DefinitionEntry) : Prop := 1 ≤ e.type.toNat ∧ e.type.toNat ≤ 5

/-- The test cases among the entries, with their keys. -/
def testEntries (defIndex : Nat) (es : List DefinitionEntry) : List (DefinitionEntry × Nat) :=
  (es.zipIdx defIndex).filter fun p => p.1.isTestcase

/-- The bytes of the names of the test cases, zero-terminated. -/
def testStringsSize (es : List DefinitionEntry) : Nat :=
  ((es.filter DefinitionEntry.isTestcase).map fun e => 2 * e.name.chars.length + 2).sum

/-- The types of the special routines. -/
def isSpecial (type : Nat) : Prop := 1 ≤ type ∧ type ≤ 5 ∧ type ≠ cfixEntryTypeTestcase

/-- The special routine of a type. -/
def KernelFixture.routine (f : KernelFixture) : Nat → Nat
  | 1 => f.setupRoutine
  | 2 => f.teardownRoutine
  | 4 => f.beforeRoutine
  | 5 => f.afterRoutine
  | _ => 0

/-- The special routine of a type after the entries from `defIndex` on. -/
def specialRoutine (type : Nat) : Nat → List DefinitionEntry → Nat → Nat
  | _, [], routine             => routine
  | defIndex, e :: es, routine =>
    specialRoutine type (defIndex + 1) es
      (if e.type.toNat = type then defIndex ||| cfixklpRoutinePresent else routine)

/-- The entries set the routine at most once, and not if it is there already. -/
def SetsOnce (routine type : Nat) (es : List DefinitionEntry) : Prop :=
  (es.countP fun e => e.type.toNat == type) + (if routine &&& cfixklpRoutinePresent = 0 then 0 else 1) ≤ 1

/-- A test case of the client is that of an entry: its key, and its name in the allocation between the bounds. -/
structure Translated (f : KernelFixture) (lo hi : Nat) (tc : KernelTestCase) (p : DefinitionEntry × Nat) : Prop where
  routine : tc.routine = p.2
  name    : StringStored f.memory tc.name p.1.name
  above   : lo ≤ tc.name
  below   : tc.name + (2 * p.1.name.chars.length + 2) ≤ hi

/-- What the loop adds to a fixture, with the strings from `stringOffset` on. -/
structure Added (stringOffset defIndex : Nat) (es : List DefinitionEntry) (f f' : KernelFixture) : Prop where
  reserved  : f'.reserved = f.reserved
  size      : f'.size = f.size
  routine   : ∀ type, isSpecial type → f'.routine type = specialRoutine type defIndex es (f.routine type)
  outside   : ∀ x, x < stringOffset ∨ stringOffset + testStringsSize es ≤ x → f'.memory x = f.memory x
  testCases : ∃ tcs, f'.testCases = f.testCases ++ tcs ∧
    List.Forall₂ (Translated f' stringOffset (stringOffset + testStringsSize es)) tcs (testEntries defIndex es)

theorem testStringsSize_cons (e : DefinitionEntry) (es : List DefinitionEntry) : testStringsSize (e :: es)
    = (if e.isTestcase then 2 * e.name.chars.length + 2 else 0) + testStringsSize es := by
  unfold testStringsSize
  rw [List.filter_cons]
  split
  · simp
  · simp

theorem testEntries_cons (defIndex : Nat) (e : DefinitionEntry) (es : List DefinitionEntry) :
    testEntries defIndex (e :: es) = (if e.isTestcase then [(e, defIndex)] else []) ++ testEntries (defIndex + 1) es := by
  unfold testEntries
  rw [List.zipIdx_cons, List.filter_cons]
  split
  · rfl
  · rfl

theorem present_or (key : Nat) : (key ||| cfixklpRoutinePresent) &&& cfixklpRoutinePresent ≠ 0 := by
  have h : ((key ||| cfixklpRoutinePresent) &&& cfixklpRoutinePresent) = cfixklpRoutinePresent := by
    apply Nat.eq_of_testBit_eq
    intro i
    rw [Nat.testBit_and, Nat.testBit_or]
    cases Nat.testBit cfixklpRoutinePresent i <;> simp
  rw [h]
  decide

variable {m : Mem} {base structOffset stringsOffset defIndex stringOffset type : Nat}

theorem isSpecial_iff {type : Nat} : isSpecial type ↔ type = 1 ∨ type = 2 ∨ type = 4 ∨ type = 5 := by
  unfold isSpecial cfixEntryTypeTestcase
  omega

/-- The fixture with another special routine. -/
def KernelFixture.withRoutine (f : KernelFixture) (type routine : Nat) : KernelFixture :=
  match type with
  | 1 => { f with setupRoutine := routine }
  | 2 => { f with teardownRoutine := routine }
  | 4 => { f with beforeRoutine := routine }
  | 5 => { f with afterRoutine := routine }
  | _ => f

@[simp] theorem reserved_withRoutine (f : KernelFixture) (type routine : Nat) :
    (f.withRoutine type routine).reserved = f.reserved := by
  unfold KernelFixture.withRoutine
  split <;> rfl

@[simp] theorem size_withRoutine (f : KernelFixture) (type routine : Nat) :
    (f.withRoutine type routine).size = f.size := by
  unfold KernelFixture.withRoutine
  split <;> rfl

@[simp] theorem memory_withRoutine (f : KernelFixture) (type routine : Nat) :
    (f.withRoutine type routine).memory = f.memory := by
  unfold KernelFixture.withRoutine
  split <;> rfl

@[simp] theorem testCases_withRoutine (f : KernelFixture) (type routine : Nat) :
    (f.withRoutine type routine).testCases = f.testCases := by
  unfold KernelFixture.withRoutine
  split <;> rfl

theorem routine_withRoutine (f : KernelFixture) {type type' : Nat} (h : isSpecial type) (h' : isSpecial type')
    (routine : Nat) : (f.withRoutine type routine).routine type' = if type = type' then routine else f.routine type' := by
  rcases isSpecial_iff.mp h with rfl | rfl | rfl | rfl
  all_goals rcases isSpecial_iff.mp h' with rfl | rfl | rfl | rfl
  all_goals rfl

/-- An entry of a special type: it sets its routine and nothing else. -/
theorem addEntry_special (m : Mem) (ioModule : Nat) (f : KernelFixture) (stringOffset : Nat) (e : IoEntry)
    (hspecial : isSpecial e.type) (hfree : f.routine e.type &&& cfixklpRoutinePresent = 0) :
    addEntry m ioModule f stringOffset e =
      .ok (f.withRoutine e.type (e.key ||| cfixklpRoutinePresent), stringOffset) := by
  obtain ⟨type, key, nameOffset, nameLength⟩ := e
  rcases isSpecial_iff.mp hspecial with rfl | rfl | rfl | rfl
  all_goals simp only [KernelFixture.routine] at hfree
  all_goals simp [addEntry, setRoutine, hfree, cfixEntryTypeTestcase, cfixEntryTypeSetup, cfixEntryTypeTeardown,
    cfixEntryTypeBefore, cfixEntryTypeAfter, KernelFixture.withRoutine, Except.map]

/-- An entry of a test case: one more name and key. -/
theorem addEntry_testcase (m : Mem) (ioModule : Nat) (f : KernelFixture) (stringOffset : Nat) {e : IoEntry}
    (htype : e.type = cfixEntryTypeTestcase) : addEntry m ioModule f stringOffset e =
      .ok ({ f with
          memory    := copyTerminated f.memory stringOffset m (ioModule + e.nameOffset) e.nameLength
          testCases := f.testCases ++ [⟨stringOffset, e.key⟩] },
        ulong (stringOffset + (e.nameLength + 2))) := by
  rw [addEntry, if_pos htype]

theorem SetsOnce.head {routine : Nat} {e : DefinitionEntry} {es : List DefinitionEntry}
    (h : SetsOnce routine type (e :: es)) (htype : e.type.toNat = type) :
    routine &&& cfixklpRoutinePresent = 0 ∧ ∀ routine', SetsOnce routine' type es := by
  unfold SetsOnce at h ⊢
  rw [List.countP_cons_of_pos (by simpa using htype)] at h
  have hfree : routine &&& cfixklpRoutinePresent = 0 := by
    by_contra hne
    rw [if_neg hne] at h
    omega
  refine ⟨hfree, ?_⟩
  intro routine'
  rw [if_pos hfree] at h
  split <;> omega

theorem SetsOnce.tail {routine : Nat} {e : DefinitionEntry} {es : List DefinitionEntry}
    (h : SetsOnce routine type (e :: es)) (htype : e.type.toNat ≠ type) : SetsOnce routine type es := by
  unfold SetsOnce at h ⊢
  rwa [List.countP_cons_of_neg (by simpa using htype)] at h

theorem Translated.mono {f : KernelFixture} {lo hi lo' hi' : Nat} {tc : KernelTestCase} {p : DefinitionEntry × Nat}
    (h : Translated f lo hi tc p) (hlo : lo' ≤ lo) (hhi : hi ≤ hi') : Translated f lo' hi' tc p where
  routine := h.routine
  name    := h.name
  above   := Nat.le_trans hlo h.above
  below   := Nat.le_trans h.below hhi

/-- What is added after a test case is added with it. -/
theorem Added.testcase {e : DefinitionEntry} {es : List DefinitionEntry} {f f₁ f' : KernelFixture}
    (h : Added (stringOffset + (2 * e.name.chars.length + 2)) (defIndex + 1) es f₁ f')
    (hf₁ : ({ f with
      memory    := copyTerminated f.memory stringOffset m (base + stringsOffset) (2 * e.name.chars.length)
      testCases := f.testCases ++ [⟨stringOffset, defIndex⟩] } : KernelFixture) = f₁)
    (htest : e.isTestcase = true) (hname : CharsStored m (base + stringsOffset) e.name) :
    Added stringOffset defIndex (e :: es) f f' := by
  have htype : e.type.toNat = cfixEntryTypeTestcase := by simpa [DefinitionEntry.isTestcase] using htest
  have hsizes : testStringsSize (e :: es) = 2 * e.name.chars.length + 2 + testStringsSize es := by
    rw [testStringsSize_cons, if_pos htest]
  obtain ⟨tcs, htcs, hall⟩ := h.testCases
  subst hf₁
  refine ⟨h.reserved, h.size, ?_, ?_, ⟨stringOffset, defIndex⟩ :: tcs, ?_, ?_⟩
  · intro type hspecial
    rw [h.routine type hspecial, specialRoutine, if_neg (fun heq => hspecial.2.2 (heq.symm.trans htype))]
    congr 1
  · intro x hx
    rw [hsizes] at hx
    rw [h.outside x (by omega)]
    exact copyTerminated_outside f.memory m (base + stringsOffset) _ (by omega)
  · rw [htcs, List.append_assoc]
    rfl
  · rw [testEntries_cons, if_pos htest, hsizes]
    refine .cons ⟨rfl, ?_, Nat.le_refl _, ?_⟩ ?_
    · apply (copyTerminated_stored hname f.memory stringOffset).congr
      intro i hi
      exact (h.outside (stringOffset + i) (.inl (by omega))).symm
    · show stringOffset + (2 * e.name.chars.length + 2) ≤ _
      omega
    · exact hall.imp fun tc p htr => htr.mono (by omega) (by omega)

/-- What is added after a special routine is set is added with it. -/
theorem Added.special {e : DefinitionEntry} {es : List DefinitionEntry} {f f' : KernelFixture}
    (h : Added stringOffset (defIndex + 1) es (f.withRoutine e.type.toNat (defIndex ||| cfixklpRoutinePresent)) f')
    (hspecial : isSpecial e.type.toNat) : Added stringOffset defIndex (e :: es) f f' := by
  have htest : e.isTestcase = false := beq_eq_false_iff_ne.mpr hspecial.2.2
  have hsizes : testStringsSize (e :: es) = testStringsSize es := by
    rw [testStringsSize_cons, htest]
    exact Nat.zero_add _
  constructor
  · rw [h.reserved, reserved_withRoutine]
  · rw [h.size, size_withRoutine]
  · intro type htype
    rw [h.routine type htype, routine_withRoutine f hspecial htype, specialRoutine]
  · intro x hx
    rw [hsizes] at hx
    rw [h.outside x hx, memory_withRoutine]
  · rw [hsizes, testEntries_cons, htest, ← testCases_withRoutine f e.type.toNat (defIndex ||| cfixklpRoutinePresent)]
    exact h.testCases

/-- **The loop over the entries of a fixture**, on a stored description. -/
theorem addEntries_spec {es : List DefinitionEntry} (f : KernelFixture) (stringOffset : Nat)
    (hstored : EntriesStored m base structOffset defIndex stringsOffset es) (hknown : ∀ e ∈ es, e.Known)
    (honce : ∀ type, isSpecial type → SetsOnce (f.routine type) type es)
    (hlt : stringOffset + testStringsSize es < 2 ^ 32) :
    ∃ f', addEntries m base f stringOffset (ioOf defIndex stringsOffset es) = .ok f' ∧
      Added stringOffset defIndex es f f' := by
  induction es generalizing f stringOffset defIndex stringsOffset with
  | nil =>
      refine ⟨f, rfl, rfl, rfl, fun _ _ => rfl, fun _ _ => rfl, [], ?_, .nil⟩
      exact (List.append_nil _).symm
  | cons e es ih =>
      obtain ⟨⟨-, hname⟩, hrest⟩ := hstored
      have hknown₀ := hknown e List.mem_cons_self
      have hknown' : ∀ x ∈ es, x.Known := fun x hx => hknown x (List.mem_cons_of_mem _ hx)
      have htype : (e.io defIndex stringsOffset).type = e.type.toNat := Nat.mod_eq_of_lt (by
        have := hknown₀.2
        omega)
      rw [testStringsSize_cons] at hlt
      -- a test case moves the strings on, a special routine only sets itself
      by_cases htest : e.type.toNat = cfixEntryTypeTestcase
      · have hisTest : e.isTestcase = true := by simpa [DefinitionEntry.isTestcase] using htest
        rw [hisTest, if_pos rfl] at hlt
        have hadd := addEntry_testcase m base f stringOffset (htype.trans htest)
        simp only [DefinitionEntry.io] at hadd
        rw [ulong_of_lt (by omega)] at hadd
        generalize hf₁ : ({ f with
          memory    := copyTerminated f.memory stringOffset m (base + stringsOffset) (2 * e.name.chars.length)
          testCases := f.testCases ++ [⟨stringOffset, defIndex⟩] } : KernelFixture) = f₁ at hadd
        have hroutine₁ : ∀ type, f₁.routine type = f.routine type := by
          subst hf₁
          intro type
          unfold KernelFixture.routine
          split <;> rfl
        obtain ⟨f', hadds, hadded⟩ := ih f₁ (stringOffset + (2 * e.name.chars.length + 2)) hrest hknown'
          (fun type hspecial => by
            rw [hroutine₁ type]
            exact (honce type hspecial).tail (fun heq => hspecial.2.2 (heq.symm.trans htest)))
          (by omega)
        refine ⟨f', ?_, ?_⟩
        · rw [ioOf, addEntries]
          simp only [DefinitionEntry.io, hadd]
          exact hadds
        · exact hadded.testcase hf₁ hisTest hname
      · have hspecial : isSpecial e.type.toNat := ⟨hknown₀.1, hknown₀.2, htest⟩
        have hisTest : e.isTestcase = false := by simpa [DefinitionEntry.isTestcase] using htest
        obtain ⟨hfree, hset⟩ := (honce _ hspecial).head rfl
        have hadd := addEntry_special m base f stringOffset (e.io defIndex stringsOffset) (by rwa [htype]) (by rwa [htype])
        rw [htype] at hadd
        obtain ⟨f', hadds, hadded⟩ := ih (f.withRoutine e.type.toNat (defIndex ||| cfixklpRoutinePresent)) stringOffset
          hrest hknown'
          (fun type htype' => by
            rw [routine_withRoutine f hspecial htype']
            by_cases heq : e.type.toNat = type
            · subst heq
              exact hset _
            · rw [if_neg heq]
              exact (honce type htype').tail heq)
          (by simpa [hisTest] using hlt)
        refine ⟨f', ?_, hadded.special hspecial⟩
        rw [ioOf, addEntries]
        simp only [hadd]
        exact hadds

/-! ## Fixtures of the client -/

theorem countTestCases_eq {es : List DefinitionEntry} (hknown : ∀ e ∈ es, e.Known) {count sizes : Nat}
    (hlt : sizes + testStringsSize es < 2 ^ 32) : countTestCases (ioOf defIndex stringsOffset es) count sizes
      = (count + (es.filter DefinitionEntry.isTestcase).length, sizes + testStringsSize es) := by
  induction es generalizing defIndex stringsOffset count sizes with
  | nil => rfl
  | cons e es ih =>
      have htype : (e.io defIndex stringsOffset).type = e.type.toNat := Nat.mod_eq_of_lt (by
        have := (hknown e List.mem_cons_self).2
        omega)
      have hknown' : ∀ x ∈ es, x.Known := fun x hx => hknown x (List.mem_cons_of_mem _ hx)
      rw [testStringsSize_cons] at hlt ⊢
      rw [ioOf, countTestCases, htype, List.filter_cons]
      cases htest : e.isTestcase with
      | true  =>
          rw [htest, if_pos rfl] at hlt
          have h3 : e.type.toNat = cfixEntryTypeTestcase := by simpa [DefinitionEntry.isTestcase] using htest
          have hlength : (e.io defIndex stringsOffset).nameLength = 2 * e.name.chars.length := rfl
          rw [if_pos h3, hlength, ulong_of_lt (by omega), ih hknown' (by omega)]
          simp only [if_true, List.length_cons]
          congr 1
          · omega
          · omega
      | false =>
          rw [htest] at hlt
          have h3 : e.type.toNat ≠ cfixEntryTypeTestcase := by simpa [DefinitionEntry.isTestcase] using htest
          rw [if_neg h3, ih hknown' (by simpa using hlt)]
          simp

theorem testStringsSize_le {es : List DefinitionEntry} (hfit : NamesFit es) : testStringsSize es ≤ 126 * es.length := by
  induction es with
  | nil => exact Nat.le_refl _
  | cons e es ih =>
      have hhead := hfit e List.mem_cons_self
      have htail := ih hfit.tail
      rw [testStringsSize_cons, List.length_cons]
      split <;> omega

/-- The conditions on a fixture: names of 1 to 62 characters, known types, no special routine twice. -/
structure TestFixture.Describable (f : TestFixture) : Prop where
  names : ∀ e ∈ f.entries, 1 ≤ e.name.chars.length ∧ e.name.chars.length ≤ 62
  known : ∀ e ∈ f.entries, e.Known
  once  : ∀ type, isSpecial type → (f.entries.countP fun e => e.type.toNat == type) ≤ 1

theorem TestFixture.Describable.fit {f : TestFixture} (h : f.Describable) : NamesFit f.entries :=
  fun e he => (h.names e he).2

/-- The fixture of the client has the names and keys of the one with the index in the adapter. -/
structure ClientOf (fixIndex : Nat) (f : TestFixture) (g : KernelFixture) : Prop where
  reserved  : g.reserved = fixIndex
  name      : g.name = f.fixtureName
  testCases : List.Forall₂ (fun tc p => tc.routine = p.2 ∧ g.stringAt tc.name = p.1.name) g.testCases
    (testEntries 0 f.entries)
  routine   : ∀ type, isSpecial type → g.routine type = specialRoutine type 0 f.entries 0

/-- **A fixture is created** from its description. -/
theorem createFixture_spec {f : TestFixture} {fixIndex : Nat} (w : Width) (memory : Mem) (hd : f.Describable)
    (h : FixtureStored m base fixIndex structOffset stringsOffset f) :
    ∃ g, createFixture w (some memory) m base (base + structOffset) = .ok g ∧ ClientOf fixIndex f g := by
  have hname := f.name_lt
  have hentries := f.entries_lt
  have hstrings := testStringsSize_le hd.fit
  have hcount := List.length_filter_le DefinitionEntry.isTestcase f.entries
  have hsizeof : 292 ≤ sizeofKernelFixture w (f.entries.filter DefinitionEntry.isTestcase).length ∧
      sizeofKernelFixture w (f.entries.filter DefinitionEntry.isTestcase).length ≤ 320 + 24 * f.entries.length := by
    cases w <;> (simp only [sizeofKernelFixture]; omega)
  have hfits : ¬ 2 * f.fixtureName.chars.length > 2 * cfixMaxFixtureNameCch - 2 := by
    unfold cfixMaxFixtureNameCch at hname ⊢
    omega
  have hnone : ∀ type, isSpecial type → SetsOnce 0 type f.entries := by
    intro type hspecial
    unfold SetsOnce
    rw [Nat.zero_and, if_pos rfl]
    exact hd.once type hspecial
  generalize hsize : sizeofKernelFixture w (f.entries.filter DefinitionEntry.isTestcase).length = size at hsizeof
  unfold cfixMaxFixtureNameCch at hname
  -- the fixture with its name, before the loop over the entries
  let g₀ : KernelFixture :=
    { memory          := copyTerminated memory 0 m (base + stringsOffset) (2 * f.fixtureName.chars.length)
      size            := size + testStringsSize f.entries
      setupRoutine    := 0
      teardownRoutine := 0
      beforeRoutine   := 0
      afterRoutine    := 0
      reserved        := fixIndex
      testCases       := [] }
  have hroutine : ∀ type, g₀.routine type = 0 := by
    intro type
    unfold KernelFixture.routine
    split <;> rfl
  obtain ⟨g, hadds, hadded⟩ := addEntries_spec g₀ size h.entries hd.known
    (fun type hspecial => by
      rw [hroutine type]
      exact hnone type hspecial) (by omega)
  obtain ⟨tcs, htcs, hall⟩ := hadded.testCases
  refine ⟨g, ?_, hadded.reserved, ?_, ?_, ?_⟩
  · rw [createFixture, h.ioEntries_eq, countTestCases_eq hd.known (by omega)]
    simp only [h.head.nameLength, if_neg hfits, Nat.zero_add, hsize, h.head.nameOffset, h.head.key]
    rw [ulong_of_lt (by omega)]
    exact hadds
  · refine StringStored.stringAt ((copyTerminated_stored h.head.name memory 0).congr ?_) ?_
    · intro i hi
      exact (hadded.outside (0 + i) (.inl (by omega))).symm
    · rw [hadded.size]
      show _ ≤ size + testStringsSize f.entries
      omega
  · rw [htcs]
    apply hall.imp
    intro tc p htr
    refine ⟨htr.routine, htr.name.stringAt ?_⟩
    rw [hadded.size]
    exact htr.below
  · intro type hspecial
    rw [hadded.routine type hspecial, hroutine type]

/-! ## Keys -/

theorem specialRoutineKey_or {key : Nat} (h : key < 2 ^ 16) : specialRoutineKey (key ||| cfixklpRoutinePresent) = key := by
  have hmask : cfixklpRoutinePresent &&& 0x7FFFFFFF = 0 := by decide
  have hlow : key &&& 0x7FFFFFFF = key % 2 ^ 31 := Nat.and_two_pow_sub_one_eq_mod key 31
  rw [specialRoutineKey, Nat.and_or_distrib_right, hmask, Nat.or_zero, hlow]
  omega

/-- Without an entry of its type a special routine stays as it is. -/
theorem specialRoutine_absent {es : List DefinitionEntry} (h : ∀ e ∈ es, e.type.toNat ≠ type) (routine : Nat) :
    specialRoutine type defIndex es routine = routine := by
  induction es generalizing defIndex with
  | nil => rfl
  | cons e es ih =>
      rw [specialRoutine, if_neg (h e List.mem_cons_self)]
      exact ih (fun x hx => h x (List.mem_cons_of_mem _ hx))

/-- The only entry of its type gives a special routine its key. -/
theorem specialRoutine_of_getElem? {es : List DefinitionEntry} {i : Nat} {e : DefinitionEntry} (hi : es[i]? = some e)
    (htype : e.type.toNat = type) (honce : (es.countP fun e => e.type.toNat == type) ≤ 1) (routine : Nat) :
    specialRoutine type defIndex es routine = (defIndex + i) ||| cfixklpRoutinePresent := by
  induction es generalizing defIndex i routine with
  | nil => cases hi
  | cons e₀ es ih =>
      rw [specialRoutine]
      cases i with
      | zero =>
          cases hi
          rw [List.countP_cons_of_pos (by simpa using htype)] at honce
          have hnone : ∀ x ∈ es, x.type.toNat ≠ type := by
            have hzero : (es.countP fun e => e.type.toNat == type) = 0 := by omega
            simpa [List.countP_eq_zero] using hzero
          rw [if_pos htype, specialRoutine_absent hnone]
          rfl
      | succ i =>
          have hle := List.countP_cons (p := fun e : DefinitionEntry => e.type.toNat == type) (a := e₀) (l := es)
          rw [ih (by simpa using hi) (by omega)]
          congr 1
          omega

/-- The keys of the test cases are the indices of their entries. -/
theorem getElem?_of_mem_testEntries {es : List DefinitionEntry} {p : DefinitionEntry × Nat}
    (h : p ∈ testEntries 0 es) : es[p.2]? = some p.1 := by
  have hmem : (p.1, p.2) ∈ es.zipIdx := List.mem_of_mem_filter h
  exact List.mk_mem_zipIdx_iff_getElem?.mp hmem

theorem map_fst_testEntries (es : List DefinitionEntry) :
    (testEntries defIndex es).map Prod.fst = es.filter DefinitionEntry.isTestcase := by
  induction es generalizing defIndex with
  | nil => rfl
  | cons e es ih =>
      rw [testEntries_cons, List.map_append, ih, List.filter_cons]
      split <;> rfl

/-- **The fixture of the client is that of the driver**: the same name, the test cases by name and order, the
    same special routines, and for every routine the keys of the entry that it comes from. -/
structure SameFixture (a : TestAdapter) (f : TestFixture) (g : KernelFixture) : Prop where
  name      : g.name = f.fixtureName
  testCases : List.Forall₂ (fun tc e => g.stringAt tc.name = e.name ∧
    getRoutineTestAdapter a g.fixtureKey tc.routineKey = .ok e.routine) g.testCases
      (f.entries.filter DefinitionEntry.isTestcase)
  present   : ∀ type, isSpecial type →
    (g.routine type &&& cfixklpRoutinePresent ≠ 0 ↔ ∃ e ∈ f.entries, e.type.toNat = type)
  special   : ∀ e ∈ f.entries, isSpecial e.type.toNat →
    getRoutineTestAdapter a g.fixtureKey (specialRoutineKey (g.routine e.type.toNat)) = .ok e.routine

theorem ClientOf.sameFixture {a : TestAdapter} {fixIndex : Nat} {f : TestFixture} {g : KernelFixture}
    (h : ClientOf fixIndex f g) (hd : f.Describable) (hf : a.fixtures[fixIndex]? = some f) : SameFixture a f g := by
  have hentries := f.entries_lt
  have hfixture : g.fixtureKey = fixIndex := by
    have hlt := (List.getElem?_eq_some_iff.mp hf).1
    have hfixtures := a.fixtures_lt
    rw [KernelFixture.fixtureKey, h.reserved]
    omega
  have hget : ∀ i e, f.entries[i]? = some e → getRoutineTestAdapter a g.fixtureKey i = .ok e.routine := by
    intro i e hi
    rw [hfixture, getRoutineTestAdapter, hf]
    simp only [hi]
  have hlt : ∀ i e, f.entries[i]? = some e → i < 2 ^ 16 := by
    intro i e hi
    have := (List.getElem?_eq_some_iff.mp hi).1
    omega
  refine ⟨h.name, ?_, ?_, ?_⟩
  · rw [← @map_fst_testEntries 0, List.forall₂_map_right_iff]
    have hboth := (List.forall₂_and_left _ _).mpr
      ⟨fun p (hp : p ∈ testEntries 0 f.entries) => getElem?_of_mem_testEntries hp, h.testCases.flip⟩
    apply hboth.flip.imp
    rintro tc p ⟨hp, hroutine, hname⟩
    refine ⟨hname, ?_⟩
    have hkey : tc.routineKey = p.2 := by
      rw [KernelTestCase.routineKey, hroutine]
      exact Nat.mod_eq_of_lt (hlt _ _ hp)
    rw [hkey]
    exact hget _ _ hp
  · intro type hspecial
    rw [h.routine type hspecial]
    constructor
    · intro hpresent
      by_contra hnone
      push Not at hnone
      rw [specialRoutine_absent hnone, Nat.zero_and] at hpresent
      exact hpresent rfl
    · rintro ⟨e, he, htype⟩
      obtain ⟨i, hi⟩ := List.mem_iff_getElem?.mp he
      rw [specialRoutine_of_getElem? hi htype (hd.once type hspecial)]
      exact present_or _
  · -- the key of the routine is the index of its entry, as no other entry sets it
    intro e he hspecial
    obtain ⟨i, hi⟩ := List.mem_iff_getElem?.mp he
    rw [h.routine _ hspecial, specialRoutine_of_getElem? hi rfl (hd.once _ hspecial), Nat.zero_add,
      specialRoutineKey_or (hlt i e hi)]
    exact hget i e hi

/-! ## The module -/

/-- The loop over the fixtures: it ends early only if the heap gives no memory for a fixture. -/
theorem createFixtures_spec {fs : List TestFixture} {fixIndex : Nat} (w : Width) (heap : ClientHeap)
    (hd : ∀ f ∈ fs, f.Describable) (h : FixturesStored m base fixIndex structOffset stringsOffset fs) :
    match createFixtures w heap m base fs.length fixIndex with
    | .ok gs    => List.Forall₂ (fun g p => ClientOf p.2 p.1 g) gs (fs.zipIdx fixIndex)
    | .error hr => hr = eOutofmemory ∧ ∃ i, i < fixIndex + fs.length ∧ heap.allocations i = none := by
  induction fs generalizing fixIndex structOffset stringsOffset with
  | nil => exact .nil
  | cons f fs ih =>
      have hoffset : load 4 m (base + 4 + 4 * fixIndex) = structOffset := by
        rw [Nat.add_assoc]
        exact h.1.head.offset
      rw [List.length_cons, createFixtures, hoffset]
      cases hmemory : heap.allocations fixIndex with
      | none        => exact ⟨rfl, fixIndex, by omega, hmemory⟩
      | some memory =>
          obtain ⟨g, hcreate, hclient⟩ := createFixture_spec w memory (hd f List.mem_cons_self) h.1
          have hrest := ih (fun x hx => hd x (List.mem_cons_of_mem _ hx)) h.2
          simp only [hcreate]
          cases hgs : createFixtures w heap m base fs.length (fixIndex + 1) with
          | ok gs    =>
              rw [hgs] at hrest
              exact .cons hclient hrest
          | error hr =>
              rw [hgs] at hrest
              obtain ⟨hhr, i, hi, hnone⟩ := hrest
              exact ⟨hhr, i, by omega, hnone⟩

/-- The conditions on an adapter. -/
def TestAdapter.Describable (a : TestAdapter) : Prop := ∀ f ∈ a.fixtures, f.Describable

/-- The client's heap gives the memory for this many fixtures. -/
def ClientHeap.Gives (heap : ClientHeap) (n : Nat) : Prop :=
  heap.fixtures = true ∧ ∀ i < n, heap.allocations i ≠ none

/-- The client gets the fixtures of the adapter, in their order, unless its heap gives no memory. -/
def DecodesTo (a : TestAdapter) (heap : ClientHeap) : Except HRESULT (List KernelFixture) → Prop
  | .ok gs    => List.Forall₂ (SameFixture a) a.fixtures gs
  | .error hr => hr = eOutofmemory ∧ ¬ heap.Gives a.fixtures.length

theorem initializeModule_spec {a : TestAdapter} (w : Width) (heap : ClientHeap) (hd : a.Describable)
    (h : ModuleStored m base a) : DecodesTo a heap (initializeModule w heap m base) := by
  unfold initializeModule
  cases hheap : heap.fixtures with
  | false =>
      refine ⟨rfl, ?_⟩
      rintro ⟨htrue, -⟩
      rw [hheap] at htrue
      cases htrue
  | true  =>
      have hspec := createFixtures_spec w heap hd h.fixtures
      simp only [Bool.not_true, Bool.false_eq_true, if_false, h.count]
      cases hgs : createFixtures w heap m base a.fixtures.length 0 with
      | error hr =>
          rw [hgs] at hspec
          obtain ⟨hhr, i, hi, hnone⟩ := hspec
          refine ⟨hhr, ?_⟩
          rintro ⟨-, hall⟩
          exact hall i (by omega) hnone
      | ok gs    =>
          rw [hgs] at hspec
          have hboth := (List.forall₂_and_left _ _).mpr
            ⟨fun p (hp : p ∈ a.fixtures.zipIdx) => List.mk_mem_zipIdx_iff_getElem?.mp hp, hspec.flip⟩
          show List.Forall₂ (SameFixture a) a.fixtures gs
          rw [← List.zipIdx_map_fst 0 a.fixtures, List.forall₂_map_left_iff]
          apply hboth.imp
          rintro ⟨f, i⟩ g ⟨hf, hclient⟩
          exact hclient.sameFixture (hd f (List.mem_of_getElem? hf)) hf

/-! ## Round trip -/

/-- **The round trip of a module description.** A description that takes less than 2^32 bytes and fits the buffer
    is written, with its exact size and nothing behind it; and whoever reads these bytes, wherever they have been
    copied to, gets the fixtures of the adapter. -/
theorem moduleRoundTrip {a : TestAdapter} {maximumBufferSize : BitVec 32} (m : Mem) (ioBuffer : Nat) (w : Width)
    (heap : ClientHeap) (hd : a.Describable) (hlt : a.size < 2 ^ 32) (hroom : a.size ≤ maximumBufferSize.toNat) :
    let r := queryModuleTestAdapter a maximumBufferSize m ioBuffer
    r.status = statusSuccess ∧ r.bufferSize = a.size ∧
      (∀ x, x < ioBuffer ∨ ioBuffer + a.size ≤ x → r.memory x = m x) ∧
      ∀ m' ioModule, Same r.memory ioBuffer m' ioModule r.bufferSize →
        DecodesTo a heap (initializeModule w heap m' ioModule) := by
  have hfit : ∀ f ∈ a.fixtures, NamesFit f.entries := fun f hf => (hd f hf).fit
  obtain ⟨m₁, hquery, hstored, hout⟩ := queryModuleTestAdapter_spec m ioBuffer hfit hlt hroom
  rw [hquery]
  refine ⟨rfl, rfl, hout, ?_⟩
  intro m' ioModule hsame
  exact initializeModule_spec w heap hd (hstored.congr hsame)

/-- A setup routine and a test case in one fixture. -/
def smallAdapter : TestAdapter where
  fixtures    :=
    [{ fixtureName := ⟨[0x46#16], by decide⟩
       entries     := [⟨1#32, ⟨[0x53#16], by decide⟩, 0xF000⟩, ⟨3#32, ⟨[0x54#16], by decide⟩, 0xF100⟩]
       name_lt     := by decide
       entries_lt  := by decide }]
  fixtures_lt := by decide

theorem smallAdapter_describable : smallAdapter.Describable := by
  intro f hf
  rw [List.mem_singleton.mp hf]
  constructor
  · decide
  · intro e he
    rcases List.mem_pair.mp he with rfl | rfl
    · exact ⟨by decide, by decide⟩
    · exact ⟨by decide, by decide⟩
  · rintro type ⟨hlo, hhi, -⟩
    obtain rfl | rfl | rfl | rfl | rfl : type = 1 ∨ type = 2 ∨ type = 3 ∨ type = 4 ∨ type = 5 := by omega
    all_goals decide

theorem moduleRoundTrip_smallAdapter :
    let r := queryModuleTestAdapter smallAdapter 100#32 (fun _ => 0) 0x1000
    r.status = statusSuccess ∧ r.bufferSize = smallAdapter.size ∧
      (∀ x, x < 0x1000 ∨ 0x1000 + smallAdapter.size ≤ x → r.memory x = 0) ∧
      ∀ m' ioModule, Same r.memory 0x1000 m' ioModule r.bufferSize →
        DecodesTo smallAdapter ⟨true, fun _ => some fun _ => 0⟩
          (initializeModule .w64 ⟨true, fun _ => some fun _ => 0⟩ m' ioModule) :=
  moduleRoundTrip (fun _ => 0) 0x1000 .w64 ⟨true, fun _ => some fun _ => 0⟩ smallAdapter_describable (by decide) (by decide)

/-! ### Descriptions of 2^32 bytes -/

/-- Whatever the offsets are, the names are the only reason for an error. -/
theorem writeEntries_ok {es : List DefinitionEntry} (hfit : NamesFit es) (ioBuffer ioFixture : Nat) (m : Mem)
    (defIndex stringsOffset : Nat) :
    ∃ r, writeEntries ioBuffer ioFixture m defIndex stringsOffset es = .ok r := by
  induction es generalizing m defIndex stringsOffset with
  | nil => exact ⟨_, rfl⟩
  | cons e es ih =>
      rw [writeEntries, hfit.head]
      exact ih hfit.tail _ _ _

theorem writeFixtures_ok {fs : List TestFixture} (hfit : ∀ f ∈ fs, NamesFit f.entries) (ioBuffer : Nat) (m : Mem)
    (fixIndex structOffset stringsOffset : Nat) :
    ∃ m', writeFixtures ioBuffer m fixIndex structOffset stringsOffset fs = .ok m' := by
  induction fs generalizing m fixIndex structOffset stringsOffset with
  | nil => exact ⟨_, rfl⟩
  | cons f fs ih =>
      rw [writeFixtures]
      obtain ⟨r, hr⟩ := writeEntries_ok (hfit f List.mem_cons_self) ioBuffer (ioBuffer + structOffset)
        (writeFixtureHead ioBuffer m fixIndex structOffset stringsOffset f).1 0
        (writeFixtureHead ioBuffer m fixIndex structOffset stringsOffset f).2.2
      simp only [hr]
      exact ih (fun x hx => hfit x (List.mem_cons_of_mem _ hx)) _ _ _ _

/-- A description of 2^32 bytes has size 0 for any buffer. -/
theorem queryModuleTestAdapter_wraps {a : TestAdapter} (hfit : ∀ f ∈ a.fixtures, NamesFit f.entries)
    (hsize : a.size = 2 ^ 32) (maximumBufferSize : BitVec 32) (m : Mem) (ioBuffer : Nat) :
    ∃ m', queryModuleTestAdapter a maximumBufferSize m ioBuffer = ⟨statusSuccess, m', 0⟩ := by
  have hwraps : ulong (ulong a.structSize + ulong (stringsSize a.fixtures)) = 0 := by
    have hsum : a.structSize + stringsSize a.fixtures = 2 ^ 32 := hsize
    unfold ulong
    omega
  obtain ⟨m', hwrite⟩ := writeFixtures_ok hfit ioBuffer (store 4 m ioBuffer a.fixtures.length) 0
    (ulong (sizeofModule (load 4 (store 4 m ioBuffer a.fixtures.length) ioBuffer))) (ulong a.structSize)
  refine ⟨m', ?_⟩
  rw [queryModuleTestAdapter, calculateBufferSize_eq hfit]
  simp only [hwraps, hwrite]
  exact if_neg (Nat.not_lt_zero _)

def largeEntry : DefinitionEntry := ⟨3#32, ⟨[0x54#16], by decide⟩, 0xF100⟩

/-- 9360 test cases. -/
def largeFixture : TestFixture where
  fixtureName := ⟨[0x46#16, 0x49#16, 0x58#16, 0x54#16], by decide⟩
  entries     := List.replicate 9360 largeEntry
  name_lt     := by decide
  entries_lt  := by
    rw [List.length_replicate]
    decide

/-- 32769 such fixtures: their description takes 2^32 bytes. -/
def largeAdapter : TestAdapter where
  fixtures    := List.replicate 32769 largeFixture
  fixtures_lt := by
    rw [List.length_replicate]
    decide

theorem largeFixture_entries : largeFixture.entries = List.replicate 9360 largeEntry := rfl

theorem largeAdapter_fixtures : largeAdapter.fixtures = List.replicate 32769 largeFixture := rfl

theorem largeAdapter_describable : largeAdapter.Describable := by
  intro f hf
  obtain rfl := (List.eq_of_mem_replicate hf)
  constructor
  · intro e he
    obtain rfl := List.eq_of_mem_replicate he
    exact ⟨by decide, by decide⟩
  · intro e he
    obtain rfl := List.eq_of_mem_replicate he
    exact ⟨by decide, by decide⟩
  · rintro type ⟨-, -, hne⟩
    have htype : ¬ (largeEntry.type.toNat == type) = true := fun h => hne (beq_iff_eq.mp h).symm
    rw [largeFixture_entries, List.countP_replicate, if_neg htype]
    exact Nat.zero_le 1

theorem largeAdapter_size : largeAdapter.size = 2 ^ 32 := by
  have hentries : largeFixture.entries.length = 9360 := by rw [largeFixture_entries, List.length_replicate]
  have hnames : namesSize largeFixture.entries = 18720 := by
    rw [namesSize, largeFixture_entries, sum_map_replicate]
    rfl
  have hstrings : largeFixture.stringsSize = 18728 := by
    rw [TestFixture.stringsSize, hnames]
    rfl
  have hlength : largeAdapter.fixtures.length = 32769 := by rw [largeAdapter_fixtures, List.length_replicate]
  rw [TestAdapter.size, TestAdapter.structSize, hlength, structsSize, stringsSize, largeAdapter_fixtures,
    sum_map_replicate, sum_map_replicate, hentries, hstrings]
  rfl

/-- No byte of the description of this adapter has to arrive at the client. -/
theorem moduleRoundTrip_largeAdapter :
    ¬ ∀ (a : TestAdapter), a.Describable → ∀ (maximumBufferSize : BitVec 32) (m : Mem) (ioBuffer : Nat) (w : Width)
        (heap : ClientHeap) (m' : Mem) (ioModule : Nat),
      (queryModuleTestAdapter a maximumBufferSize m ioBuffer).status = statusSuccess →
      Same (queryModuleTestAdapter a maximumBufferSize m ioBuffer).memory ioBuffer m' ioModule
        (queryModuleTestAdapter a maximumBufferSize m ioBuffer).bufferSize →
      DecodesTo a heap (initializeModule w heap m' ioModule) := by
  intro h
  have hfit : ∀ f ∈ largeAdapter.fixtures, NamesFit f.entries := fun f hf => (largeAdapter_describable f hf).fit
  obtain ⟨m₁, hquery⟩ := queryModuleTestAdapter_wraps hfit largeAdapter_size 0x1000#32 (fun _ => 0) 0
  have hclient : initializeModule .w64 ⟨true, fun _ => some fun _ => 0⟩ (fun _ => 0) 0 = .ok [] := rfl
  have hdecodes := h largeAdapter largeAdapter_describable 0x1000#32 (fun _ => 0) 0 .w64
    ⟨true, fun _ => some fun _ => 0⟩ (fun _ => 0) 0
  rw [hquery, hclient] at hdecodes
  have hnone : List.Forall₂ (SameFixture largeAdapter) largeAdapter.fixtures [] :=
    hdecodes rfl (fun i hi => absurd hi (Nat.not_lt_zero i))
  have hlength := hnone.length_eq
  rw [largeAdapter_fixtures, List.length_replicate] at hlength
  cases hlength

end Cfix.TestModule
