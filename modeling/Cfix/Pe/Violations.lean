import Cfix.Pe.CreateFixture

/-!
# `Pe.Violations` — which definitions become fixtures

A definition is well-formed, or it has a first violation. The walk of `CfixsCreateFixture` finds the first violation
among those that it sees: an entry does not count as present if its routine is `NULL`.
-/

namespace Cfix.PeFixture

open Cdiag (CString WCHAR)
open Events (Width)
open TestModule (cfixEntryTypeSetup cfixEntryTypeTeardown cfixEntryTypeTestcase cfixEntryTypeBefore cfixEntryTypeAfter
  eDupSetupRoutine eDupTeardownRoutine eDupBeforeRoutine eDupAfterRoutine cfixMaxFixtureNameCch)

/-! ## Well-formed definitions -/

def ApiTypeSupported (d : Definition) : Prop := cfixApiTypeMin ≤ d.type.toNat ∧ d.type.toNat ≤ cfixApiTypeMax

def RevisionSupported (d : Definition) : Prop := d.revision = 0

def FlagsSupported (d : Definition) : Prop := d.flags = 0 ∨ d.flags = 1

/-- The name behind the prefix, with its terminator. -/
def NameFits {w : Width} (decode : List UInt8 → CString) (exportName : ExportName w) : Prop :=
  (decode (exportName.chars.drop (mangledPrefixCch w))).length < cfixMaxFixtureNameCch

def KnownType (type : Nat) : Prop :=
  type ∈ [cfixEntryTypeSetup, cfixEntryTypeTeardown, cfixEntryTypeTestcase, cfixEntryTypeBefore, cfixEntryTypeAfter]

structure WellFormedEntries (entries : List DefinitionEntry) : Prop where
  known  : ∀ e ∈ entries, KnownType e.type
  unique : ∀ s : Special, (entries.filter fun e => e.type = s.entryType).length ≤ 1

structure WellFormed {w : Width} (decode : List UInt8 → CString) (exportName : ExportName w) (d : Definition) : Prop where
  apiType  : ApiTypeSupported d
  name     : NameFits decode exportName
  revision : RevisionSupported d
  flags    : FlagsSupported d
  entries  : WellFormedEntries d.entries

/-! ## Violations -/

/-- What is wrong with an entry behind others: its type is unknown, or there is an entry of its type that counts. -/
inductive EntryViolation (counts : DefinitionEntry → Prop) (pre : List DefinitionEntry) (e : DefinitionEntry) :
    HRESULT → Prop where
  | unknown (h : ¬ KnownType e.type) : EntryViolation counts pre e eUnknownEntryType
  | duplicate (s : Special) {e' : DefinitionEntry} (h : e.type = s.entryType) (hmem : e' ∈ pre)
      (htype : e'.type = s.entryType) (hcounts : counts e') : EntryViolation counts pre e s.duplicate

/-- No entry violates anything. -/
def Clean (counts : DefinitionEntry → Prop) (entries : List DefinitionEntry) : Prop :=
  ∀ pre e post hr, entries = pre ++ e :: post → ¬ EntryViolation counts pre e hr

/-- The first entry that violates something has this code. -/
def FirstViolation (counts : DefinitionEntry → Prop) (entries : List DefinitionEntry) (hr : HRESULT) : Prop :=
  ∃ pre e post, entries = pre ++ e :: post ∧ Clean counts pre ∧ EntryViolation counts pre e hr

def AnyEntry (_ : DefinitionEntry) : Prop := True

/-- The entry has a routine. -/
def HasRoutine (e : DefinitionEntry) : Prop := e.routine ≠ 0

/-- The first violation of a definition, in the order of its parts. -/
inductive Violates (counts : DefinitionEntry → Prop) {w : Width} (decode : List UInt8 → CString) (exportName : ExportName w)
    (d : Definition) : HRESULT → Prop where
  | apiType (h : ¬ ApiTypeSupported d) : Violates counts decode exportName d eUnsupportedVersion
  | name (htype : ApiTypeSupported d) (h : ¬ NameFits decode exportName) :
      Violates counts decode exportName d eFixtureNameTooLong
  | revision (htype : ApiTypeSupported d) (hname : NameFits decode exportName) (h : ¬ RevisionSupported d) :
      Violates counts decode exportName d eUnsupportedFixtureRevision
  | flags (htype : ApiTypeSupported d) (hname : NameFits decode exportName) (hrevision : RevisionSupported d)
      (h : ¬ FlagsSupported d) : Violates counts decode exportName d eInvalidFixtureFlag
  | entry {hr : HRESULT} (htype : ApiTypeSupported d) (hname : NameFits decode exportName)
      (hrevision : RevisionSupported d) (hflags : FlagsSupported d) (h : FirstViolation counts d.entries hr) :
      Violates counts decode exportName d hr

/-! ## What is to be created -/

/-- The routine of the entry of this type, 0 if there is none. -/
def RoutineOf (entries : List DefinitionEntry) (s : Special) (routine : Nat) : Prop :=
  (∃ e ∈ entries, e.type = s.entryType ∧ e.routine = routine) ∨ routine = 0 ∧ ∀ e ∈ entries, e.type ≠ s.entryType

def testCasesOf (entries : List DefinitionEntry) : List TestCase :=
  (entries.filter fun e => e.type = cfixEntryTypeTestcase).map fun e => ⟨e.name, e.routine⟩

structure FixtureOf {w : Width} (decode : List UInt8 → CString) (exportName : ExportName w) (testModule : Nat)
    (d : Definition) (f : Fixture) : Prop where
  name       : f.name = unmangleName (decode (exportName.chars.drop (mangledPrefixCch w)))
  routines   : ∀ s, RoutineOf d.entries s (f.routine s)
  testCases  : f.testCases = testCasesOf d.entries
  testModule : f.testModule = testModule
  apiType    : f.apiType = d.type.toNat
  flags      : f.flags = d.flags.setWidth 32

/-- The function succeeds if and only if the definition is well-formed, with its fixture. Otherwise it returns the code
    of the first violation, and there is no fixture and no block left. -/
structure Classified {w : Width} (decode : List UInt8 → CString) (exportName : ExportName w) (testModule : Nat)
    (d : Definition) (c : Created) : Prop where
  succeeds_iff : failed c.hr = false ↔ WellFormed decode exportName d
  created      : failed c.hr = false → c.blocks = 1 ∧ ∃ f, c.fixture = some f ∧ FixtureOf decode exportName testModule d f
  refused      : failed c.hr = true → c.blocks = 0 ∧ c.fixture = none ∧ Violates AnyEntry decode exportName d c.hr

/-- The function returns, and classifies the definition unless there is no memory for its fixture. -/
def CreatesExactly {w : Width} (decode : List UInt8 → CString) (exportName : ExportName w) (testModule : Nat)
    (d : Definition) : Prop :=
  ∀ malloc : Nat → Bool, ∃ fuel c, createFixture w decode malloc fuel exportName testModule (some d) = some (.ok c) ∧
    (Classified decode exportName testModule d c ∨
      malloc (sizeofFixture w d.entries.length) = false ∧ c = ⟨eOutofmemory, none, 0⟩)

/-- The number of entries from which on the size of the fixture is not what is allocated. -/
def maxEntryCount : Width → Nat
  | .w32 => 357913916
  | .w64 => 89478472

/-! ## Entries -/

theorem entryKind_special_iff {type : Nat} {s : Special} : entryKind type = .special s ↔ type = s.entryType := by
  constructor
  · intro h
    unfold entryKind at h
    repeat' split at h
    all_goals first
      | cases h
        assumption
      | cases h
  · rintro rfl
    cases s <;> rfl

theorem entryKind_testcase_iff {type : Nat} : entryKind type = .testcase ↔ type = cfixEntryTypeTestcase := by
  constructor
  · intro h
    unfold entryKind at h
    repeat' split at h
    all_goals first
      | cases h
        assumption
      | cases h
  · rintro rfl
    rfl

theorem knownType_iff {type : Nat} : KnownType type ↔ entryKind type ≠ .unknown := by
  have hspecial := @entryKind_special_iff type
  have htestcase := @entryKind_testcase_iff type
  cases hkind : entryKind type with
  | special s =>
      refine iff_of_true ?_ nofun
      rw [hspecial.mp hkind]
      cases s <;> simp [KnownType, Special.entryType]
  | testcase =>
      refine iff_of_true ?_ nofun
      rw [htestcase.mp hkind]
      simp [KnownType]
  | unknown =>
      refine iff_of_false ?_ (fun h => h rfl)
      intro hknown
      simp only [KnownType, List.mem_cons, List.not_mem_nil, or_false] at hknown
      rcases hknown with rfl | rfl | rfl | rfl | rfl <;> cases hkind

section Violations

variable {counts : DefinitionEntry → Prop} {pre entries : List DefinitionEntry} {e : DefinitionEntry} {hr hr' : HRESULT}

theorem Special.entryType_injective {s s' : Special} (h : s.entryType = s'.entryType) : s = s' := by
  have hkind := entryKind_special_iff.mpr h
  rw [entryKind_special_iff.mpr rfl] at hkind
  exact EntryKind.special.inj hkind

theorem Special.known (s : Special) : KnownType s.entryType := by
  rw [knownType_iff, entryKind_special_iff.mpr rfl]
  nofun

theorem EntryViolation.eq (h : EntryViolation counts pre e hr) (h' : EntryViolation counts pre e hr') : hr = hr' := by
  cases h with
  | unknown hunknown =>
      cases h' with
      | unknown => rfl
      | duplicate s htype => exact absurd (htype ▸ s.known) hunknown
  | duplicate s htype =>
      cases h' with
      | unknown hunknown => exact absurd (htype ▸ s.known) hunknown
      | duplicate s' htype' => rw [Special.entryType_injective (htype.symm.trans htype')]

theorem clean_nil : Clean counts [] := fun pre e post _ h => by simp at h

/-- One more entry. -/
theorem Clean.snoc (h : Clean counts pre) (he : ∀ hr, ¬ EntryViolation counts pre e hr) : Clean counts (pre ++ [e]) := by
  intro pre' e' post hr heq
  rcases List.eq_nil_or_concat post with rfl | ⟨post', x, rfl⟩
  · obtain ⟨rfl, hlast⟩ := List.append_inj' heq rfl
    cases hlast
    exact he hr
  · rw [List.concat_eq_append, ← List.cons_append, ← List.append_assoc] at heq
    obtain ⟨rfl, -⟩ := List.append_inj' heq rfl
    exact h pre' e' post' hr rfl

theorem FirstViolation.not_clean (h : FirstViolation counts entries hr) : ¬ Clean counts entries := by
  obtain ⟨pre, e, post, heq, -, hviolation⟩ := h
  exact fun hclean => hclean pre e post hr heq hviolation

/-- There is one first violation. -/
theorem FirstViolation.eq (h : FirstViolation counts entries hr) (h' : FirstViolation counts entries hr') : hr = hr' := by
  obtain ⟨pre, e, post, rfl, hclean, hviolation⟩ := h
  obtain ⟨pre', e', post', heq, hclean', hviolation'⟩ := h'
  rcases List.append_eq_append_iff.mp heq with ⟨l, hpre, hpost⟩ | ⟨l, hpre, hpost⟩
  · cases l with
    | nil =>
        rw [List.append_nil] at hpre
        subst hpre
        cases hpost
        exact hviolation.eq hviolation'
    | cons x l =>
        cases hpost
        exact absurd hviolation (hclean' _ _ _ _ hpre)
  · cases l with
    | nil =>
        rw [List.append_nil] at hpre
        subst hpre
        cases hpost
        exact hviolation.eq hviolation'
    | cons x l =>
        cases hpost
        exact absurd hviolation' (hclean _ _ _ _ hpre)

/-- Where there is a violation, there is a first one. -/
theorem exists_firstViolation (h : ¬ Clean counts entries) : ∃ hr, FirstViolation counts entries hr := by
  induction entries using List.reverseRecOn with
  | nil => exact absurd clean_nil h
  | append_singleton pre e ih =>
      by_cases hclean : Clean counts pre
      · by_contra hnone
        refine h (hclean.snoc fun hr hviolation => hnone ⟨hr, pre, e, [], rfl, hclean, hviolation⟩)
      · obtain ⟨hr, pre', e', post, rfl, hclean', hviolation⟩ := ih hclean
        exact ⟨hr, pre', e', post ++ [e], by simp, hclean', hviolation⟩

theorem length_filter_le_one_iff {p : DefinitionEntry → Bool} :
    (entries.filter p).length ≤ 1 ↔ entries.Pairwise fun e e' => p e = true → p e' = false := by
  induction entries with
  | nil => simp
  | cons e entries ih =>
      rw [List.pairwise_cons, List.filter_cons]
      cases hp : p e with
      | false => simpa [hp] using ih
      | true =>
          rw [if_pos rfl, List.length_cons]
          constructor
          · intro h
            have hnil : entries.filter p = [] := List.eq_nil_of_length_eq_zero (by omega)
            have hall : ∀ e' ∈ entries, p e' = false := by simpa [List.filter_eq_nil_iff] using hnil
            exact ⟨fun e' he' _ => hall e' he', List.pairwise_of_forall_mem_list fun _ _ e' he' _ => hall e' he'⟩
          · rintro ⟨hall, -⟩
            have hnil : entries.filter p = [] := List.filter_eq_nil_iff.mpr fun e' he' => by simp [hall e' he']
            rw [hnil]
            exact Nat.le_refl 1

/-- **A table is well-formed if and only if no entry violates anything.** -/
theorem wellFormedEntries_iff : WellFormedEntries entries ↔ Clean AnyEntry entries := by
  constructor
  · rintro ⟨hknown, hunique⟩ pre e post hr rfl hviolation
    cases hviolation with
    | unknown h => exact h (hknown e (by simp))
    | @duplicate s e' h hmem htype =>
        have hpair := length_filter_le_one_iff.mp (hunique s)
        have hne := (List.pairwise_append.mp hpair).2.2 e' hmem e List.mem_cons_self (decide_eq_true htype)
        exact absurd h (of_decide_eq_false hne)
  · intro hclean
    refine ⟨fun e he => ?_, fun s => length_filter_le_one_iff.mpr (List.pairwise_iff_getElem.mpr ?_)⟩
    · by_contra hunknown
      obtain ⟨pre, post, rfl⟩ := List.append_of_mem he
      exact hclean pre e post _ rfl (.unknown hunknown)
    · intro i j hi hj hlt htype
      rw [decide_eq_true_eq] at htype
      rw [decide_eq_false_iff_not]
      intro htype'
      have hsplit : entries = entries.take j ++ entries[j] :: entries.drop (j + 1) := by simp
      have hmem : entries[i] ∈ entries.take j := List.mem_take_iff_getElem.mpr ⟨i, by omega, rfl⟩
      exact hclean _ _ _ _ hsplit (.duplicate s htype' hmem htype trivial)

end Violations

section

variable {w : Width} {decode : List UInt8 → CString} {exportName : ExportName w} {testModule : Nat} {d : Definition}
  {counts : DefinitionEntry → Prop} {hr hr' : HRESULT}

theorem Violates.eq (h : Violates counts decode exportName d hr) (h' : Violates counts decode exportName d hr') : hr = hr' := by
  cases h with
  | apiType h => cases h' <;> first | rfl | contradiction
  | name => cases h' <;> first | rfl | contradiction
  | revision => cases h' <;> first | rfl | contradiction
  | flags => cases h' <;> first | rfl | contradiction
  | entry _ _ _ _ h =>
      cases h' with
      | entry _ _ _ _ h' => exact h.eq h'
      | _ => contradiction

theorem FirstViolation.failed {entries : List DefinitionEntry} (h : FirstViolation counts entries hr) :
    Cfix.failed hr = true := by
  obtain ⟨_, _, _, -, -, hviolation⟩ := h
  cases hviolation with
  | unknown => rfl
  | duplicate s => cases s <;> rfl

theorem Violates.failed (h : Violates counts decode exportName d hr) : Cfix.failed hr = true := by
  cases h with
  | entry _ _ _ _ h => exact h.failed
  | _ => rfl

theorem FirstViolation.ne_outofmemory {entries : List DefinitionEntry} (h : FirstViolation counts entries hr) :
    hr ≠ eOutofmemory := by
  obtain ⟨_, _, _, -, -, hviolation⟩ := h
  cases hviolation with
  | unknown => decide
  | duplicate s => cases s <;> decide

theorem Violates.ne_outofmemory (h : Violates counts decode exportName d hr) : hr ≠ eOutofmemory := by
  cases h with
  | entry _ _ _ _ h => exact h.ne_outofmemory
  | _ => decide

/-- A definition is well-formed or has a violation. -/
theorem wellFormed_iff : WellFormed decode exportName d ↔ ∀ hr, ¬ Violates AnyEntry decode exportName d hr := by
  constructor
  · rintro ⟨htype, hname, hrevision, hflags, hentries⟩ hr h
    cases h with
    | entry _ _ _ _ h => exact h.not_clean (wellFormedEntries_iff.mp hentries)
    | _ => contradiction
  · intro h
    have htype : ApiTypeSupported d := by_contra fun hn => h _ (.apiType hn)
    have hname : NameFits decode exportName := by_contra fun hn => h _ (.name htype hn)
    have hrevision : RevisionSupported d := by_contra fun hn => h _ (.revision htype hname hn)
    have hflags : FlagsSupported d := by_contra fun hn => h _ (.flags htype hname hrevision hn)
    refine ⟨htype, hname, hrevision, hflags, wellFormedEntries_iff.mpr (by_contra fun hn => ?_)⟩
    obtain ⟨hr, hfirst⟩ := exists_firstViolation hn
    exact h hr (.entry htype hname hrevision hflags hfirst)

end

/-! ## The walk -/

/-- The members that the walk does not change. -/
def Fixture.head (f : Fixture) : CString × Nat × Nat × ULONG × Nat := (f.name, f.reserved, f.apiType, f.flags, f.testModule)

/-- The fixture after these entries. -/
structure Walked (start : Fixture) (pre : List DefinitionEntry) (f : Fixture) : Prop where
  head      : f.head = start.head
  routines  : ∀ s, RoutineOf pre s (f.routine s)
  present   : ∀ s, ∀ e ∈ pre, e.type = s.entryType → HasRoutine e → f.routine s ≠ 0
  testCases : f.testCases = testCasesOf pre

theorem Fixture.routine_setRoutine (f : Fixture) (routine : Nat) (s s' : Special) :
    (f.setRoutine routine s).routine s' = if s' = s then routine else f.routine s' := by
  cases s <;> cases s' <;> rfl

@[simp] theorem Fixture.head_setRoutine (f : Fixture) (routine : Nat) (s : Special) :
    (f.setRoutine routine s).head = f.head := by
  cases s <;> rfl

@[simp] theorem Fixture.testCases_setRoutine (f : Fixture) (routine : Nat) (s : Special) :
    (f.setRoutine routine s).testCases = f.testCases := by
  cases s <;> rfl

theorem testCasesOf_append (entries entries' : List DefinitionEntry) :
    testCasesOf (entries ++ entries') = testCasesOf entries ++ testCasesOf entries' := by
  simp [testCasesOf]

theorem length_testCasesOf_le (entries : List DefinitionEntry) : (testCasesOf entries).length ≤ entries.length := by
  rw [testCasesOf, List.length_map]
  exact List.length_filter_le _ _

section Walk

variable {w : Width} {size : Nat} {start f : Fixture} {pre rest : List DefinitionEntry} {e : DefinitionEntry}

/-- An entry of another type leaves a routine as it is. -/
theorem Walked.other {s : Special} (h : Walked start pre f) (htype : e.type ≠ s.entryType) :
    RoutineOf (pre ++ [e]) s (f.routine s) ∧
      ∀ e' ∈ pre ++ [e], e'.type = s.entryType → HasRoutine e' → f.routine s ≠ 0 := by
  refine ⟨?_, fun e' hmem htype' hhas => ?_⟩
  · rcases h.routines s with ⟨e', hmem, htype', hroutine⟩ | ⟨hzero, hnone⟩
    · exact .inl ⟨e', List.mem_append_left _ hmem, htype', hroutine⟩
    · refine .inr ⟨hzero, fun e' hmem => ?_⟩
      rcases List.mem_append.mp hmem with hmem | hmem
      · exact hnone e' hmem
      · rw [List.mem_singleton.mp hmem]
        exact htype
  · rcases List.mem_append.mp hmem with hmem | hmem
    · exact h.present s e' hmem htype' hhas
    · rw [List.mem_singleton.mp hmem] at htype'
      exact absurd htype' htype

/-- A special routine that is not there yet. -/
theorem Walked.setRoutine {s : Special} (h : Walked start pre f) (htype : e.type = s.entryType) (hzero : f.routine s = 0) :
    Walked start (pre ++ [e]) (f.setRoutine e.routine s) where
  head      := by rw [Fixture.head_setRoutine, h.head]
  routines  := by
    intro s'
    rw [Fixture.routine_setRoutine]
    split
    · rename_i hs
      subst hs
      exact .inl ⟨e, by simp, htype, rfl⟩
    · rename_i hs
      exact (h.other fun htype' => hs (Special.entryType_injective (htype'.symm.trans htype))).1
  present   := by
    intro s' e' hmem htype' hhas
    rw [Fixture.routine_setRoutine]
    split
    · rename_i hs
      subst hs
      rcases List.mem_append.mp hmem with hmem | hmem
      · exact absurd hzero (h.present s' e' hmem htype' hhas)
      · rw [List.mem_singleton.mp hmem] at hhas
        exact hhas
    · rename_i hs
      exact (h.other fun htype' => hs (Special.entryType_injective (htype'.symm.trans htype))).2 e' hmem htype' hhas
  testCases := by
    have hne : e.type ≠ cfixEntryTypeTestcase := by
      rw [htype]
      cases s <;> decide
    rw [Fixture.testCases_setRoutine, h.testCases, testCasesOf_append]
    simp [testCasesOf, hne]

theorem Walked.addTestCase (h : Walked start pre f) (htype : e.type = cfixEntryTypeTestcase) :
    Walked start (pre ++ [e]) { f with testCases := f.testCases ++ [⟨e.name, e.routine⟩] } := by
  have hother : ∀ s : Special, e.type ≠ s.entryType := by
    intro s
    rw [htype]
    cases s <;> decide
  have hroutine : ∀ s : Special,
      ({ f with testCases := f.testCases ++ [⟨e.name, e.routine⟩] } : Fixture).routine s = f.routine s := by
    intro s
    cases s <;> rfl
  refine ⟨h.head, fun s => ?_, fun s => ?_, ?_⟩
  · rw [hroutine]
    exact (h.other (hother s)).1
  · rw [hroutine]
    exact (h.other (hother s)).2
  · show f.testCases ++ [⟨e.name, e.routine⟩] = _
    rw [h.testCases, testCasesOf_append]
    simp [testCasesOf, htype]

/-- **One entry**: it is added, or it violates something that the walk sees. -/
theorem addEntry_spec (h : Walked start pre f) (hroom : sizeofFixture w (pre.length + 1) ≤ size) :
    (∃ g, addEntry w size f e = .ok g ∧ Walked start (pre ++ [e]) g ∧ ∀ hr, ¬ EntryViolation HasRoutine pre e hr) ∨
    ∃ hr, addEntry w size f e = .error (.code hr) ∧ EntryViolation HasRoutine pre e hr := by
  unfold addEntry
  cases hkind : entryKind e.type with
  | special s =>
      have htype := entryKind_special_iff.mp hkind
      by_cases hzero : f.routine s = 0
      · refine .inl ⟨f.setRoutine e.routine s, if_neg (not_not.mpr hzero), h.setRoutine htype hzero, fun hr hviolation => ?_⟩
        cases hviolation with
        | unknown hunknown => exact hunknown (htype ▸ s.known)
        | @duplicate s' e' htype' hmem hsame hhas =>
            obtain rfl := Special.entryType_injective (htype.symm.trans htype')
            exact h.present s e' hmem hsame hhas hzero
      · refine .inr ⟨s.duplicate, if_pos hzero, ?_⟩
        rcases h.routines s with ⟨e', hmem, htype', hroutine⟩ | ⟨hnone, -⟩
        · have hhas : e'.routine ≠ 0 := hroutine ▸ hzero
          exact .duplicate s htype hmem htype' hhas
        · exact absurd hnone hzero
  | testcase =>
      have htype := entryKind_testcase_iff.mp hkind
      have hfits : sizeofFixture w (f.testCases.length + 1) ≤ size := by
        have hle := length_testCasesOf_le pre
        rw [← h.testCases] at hle
        refine Nat.le_trans ?_ hroom
        exact Nat.add_le_add_left (Nat.mul_le_mul_left _ (Nat.add_le_add_right hle 1)) _
      refine .inl ⟨_, if_pos hfits, h.addTestCase htype, fun hr hviolation => ?_⟩
      cases hviolation with
      | unknown hunknown => exact hunknown (by rw [knownType_iff, hkind]; nofun)
      | duplicate s htype' =>
          rw [htype] at htype'
          cases s <;> cases htype'
  | unknown => exact .inr ⟨_, rfl, .unknown fun hknown => knownType_iff.mp hknown hkind⟩

/-- **The walk** adds all entries, or it stops at the first violation that it sees. -/
theorem addEntries_spec (h : Walked start pre f) (hclean : Clean HasRoutine pre)
    (hroom : sizeofFixture w (pre.length + rest.length) ≤ size) :
    (∃ g, addEntries w size f rest = .ok g ∧ Walked start (pre ++ rest) g ∧ Clean HasRoutine (pre ++ rest)) ∨
    ∃ hr, addEntries w size f rest = .error (.code hr) ∧ FirstViolation HasRoutine (pre ++ rest) hr := by
  induction rest generalizing pre f with
  | nil =>
      rw [List.append_nil]
      exact .inl ⟨f, rfl, h, hclean⟩
  | cons e rest ih =>
      rw [List.length_cons] at hroom
      have hroom' : sizeofFixture w (pre.length + 1) ≤ size :=
        Nat.le_trans (Nat.add_le_add_left (Nat.mul_le_mul_left _ (by omega)) _) hroom
      rcases addEntry_spec h hroom' (e := e) with ⟨g, hadd, hwalked, hnone⟩ | ⟨hr, hadd, hviolation⟩
      · have hrest := ih hwalked (hclean.snoc hnone) (by
          rw [List.length_append, List.length_singleton, Nat.add_assoc, Nat.add_comm 1]
          exact hroom)
        rw [List.append_assoc, List.singleton_append] at hrest
        rw [addEntries, hadd]
        exact hrest
      · refine .inr ⟨hr, ?_, pre, e, rest, rfl, hclean, hviolation⟩
        rw [addEntries, hadd]

end Walk

/-! ## Counting and allocating -/

theorem countEntries_eq {entries : List DefinitionEntry} (hlt : entries.length < 2 ^ 32) (fuel i : Nat)
    (hi : i ≤ entries.length) : countEntries entries fuel (BitVec.ofNat 32 i) =
      if entries.length - i < fuel then some (BitVec.ofNat 32 entries.length) else none := by
  induction fuel generalizing i with
  | zero => simp [countEntries]
  | succ fuel ih =>
      have hindex : (BitVec.ofNat 32 i).toNat = i := by
        rw [BitVec.toNat_ofNat]
        omega
      rw [countEntries, hindex]
      rcases Nat.lt_or_eq_of_le hi with hi' | rfl
      · have hnext : BitVec.ofNat 32 i + 1 = BitVec.ofNat 32 (i + 1) := by rw [BitVec.ofNat_add]; rfl
        rw [List.getElem?_eq_getElem hi', hnext]
        simp only
        rw [ih (i + 1) hi']
        split
        · rw [if_pos (by omega)]
        · rw [if_neg (by omega)]
      · simp

/-- A table that is too long is never left. -/
theorem countEntries_long {entries : List DefinitionEntry} (hlong : 2 ^ 32 ≤ entries.length) (fuel : Nat) (i : ULONG) :
    countEntries entries fuel i = none := by
  induction fuel generalizing i with
  | zero => rfl
  | succ fuel ih =>
      have hlt : i.toNat < entries.length := Nat.lt_of_lt_of_le i.isLt hlong
      rw [countEntries, List.getElem?_eq_getElem hlt]
      exact ih (i + 1)

theorem toNat_ofNat_succ_sub_one {m : Nat} (hm : m + 1 < 2 ^ 32) : (BitVec.ofNat 32 (m + 1) - 1).toNat = m := by
  have hone : (1 : ULONG).toNat = 1 := rfl
  rw [BitVec.toNat_sub, BitVec.toNat_ofNat, hone]
  omega

/-- The size is that of a fixture with all entries as test cases, up to a number of entries. -/
theorem sizeofThroughTestCase_eq_iff (w : Width) {n : Nat} (hn : n < 2 ^ 32) :
    sizeofThroughTestCase w (BitVec.ofNat 32 n) = sizeofFixture w n ↔ n ≤ maxEntryCount w := by
  cases n with
  | zero =>
      -- the index of the element is the greatest one, and the sum wraps around twice
      refine iff_of_true ?_ (Nat.zero_le _)
      cases w <;> rfl
  | succ m =>
      cases w with
      | w32 =>
          show ((BitVec.ofNat 32 (292 + 12 * (BitVec.ofNat 32 (m + 1) - 1).toNat)).signExtend 32 + 12#32).toNat =
            292 + 12 * (m + 1) ↔ m + 1 ≤ 357913916
          rw [toNat_ofNat_succ_sub_one hn, BitVec.signExtend_eq, BitVec.toNat_add, BitVec.toNat_ofNat, BitVec.toNat_ofNat]
          omega
      | w64 =>
          show ((BitVec.ofNat 32 (320 + 24 * (BitVec.ofNat 32 (m + 1) - 1).toNat)).signExtend 64 + 24#64).toNat =
            320 + 24 * (m + 1) ↔ m + 1 ≤ 89478472
          rw [toNat_ofNat_succ_sub_one hn, BitVec.toNat_add, BitVec.toNat_signExtend, BitVec.toNat_setWidth,
            BitVec.toNat_ofNat, BitVec.toNat_ofNat, BitVec.msb_eq_decide, BitVec.toNat_ofNat]
          have hsum := Nat.div_add_mod (320 + 24 * m) (2 ^ 32)
          have hlt : (320 + 24 * m) % 2 ^ 32 < 2 ^ 32 := Nat.mod_lt _ (Nat.two_pow_pos 32)
          generalize (320 + 24 * m) % 2 ^ 32 = offset at hsum hlt ⊢
          rw [Nat.mod_eq_of_lt (show offset < 2 ^ 64 by omega)]
          split
          · -- a negative offset is extended: the sum is huge, or it wraps around
            rename_i hmsb
            have hnegative : 2 ^ 31 ≤ offset := by simpa using hmsb
            have hne : (offset + (2 ^ 64 - 2 ^ 32) + 24 % 2 ^ 64) % 2 ^ 64 ≠ 320 + 24 * (m + 1) := by
              by_cases hwraps : offset + 24 < 2 ^ 32
              · rw [Nat.mod_eq_of_lt (by omega)]
                omega
              · rw [Nat.mod_eq_sub_mod (by omega), Nat.mod_eq_of_lt (by omega)]
                omega
            refine iff_of_false hne ?_
            omega
          · rename_i hmsb
            have hpositive : offset < 2 ^ 31 := by simpa using hmsb
            rw [Nat.mod_eq_of_lt (show offset + 0 + 24 % 2 ^ 64 < 2 ^ 64 by omega)]
            omega

/-! ## The function -/

section

variable {w : Width} {decode : List UInt8 → CString} {exportName : ExportName w} {testModule : Nat} {d : Definition}

/-- A fixture has been created and there is no violation that the walk sees, or there is one. -/
def Decided (decode : List UInt8 → CString) (exportName : ExportName w) (testModule : Nat) (d : Definition) (c : Created) :
    Prop :=
  (∃ f, c = ⟨sOk, some f, 1⟩ ∧ FixtureOf decode exportName testModule d f ∧
    ∀ hr, ¬ Violates HasRoutine decode exportName d hr) ∨
  ∃ hr, c = ⟨hr, none, 0⟩ ∧ Violates HasRoutine decode exportName d hr

theorem cleanup_failed {hr : HRESULT} (h : failed hr = true) (newFixture : Bool) : cleanup hr newFixture = ⟨hr, none, 0⟩ := by
  simp [cleanup, h]

theorem flagsSupported_iff : FlagsSupported d ↔ ¬ fixtureUsesAnonymousThreads < d.flags.setWidth 32 := by
  have hlt := d.flags.isLt
  rw [FlagsSupported, BitVec.toNat_eq, BitVec.toNat_eq, BitVec.lt_def, BitVec.toNat_setWidth]
  show d.flags.toNat = 0 ∨ d.flags.toNat = 1 ↔ ¬ 1 < d.flags.toNat % 2 ^ 32
  omega

theorem fillFixture_spec (decode : List UInt8 → CString) (exportName : ExportName w) (testModule : Nat)
    (htype : ApiTypeSupported d) :
    ∃ c, fillFixture w decode exportName testModule d (sizeofFixture w d.entries.length) = .ok c ∧
      Decided decode exportName testModule d c := by
  have hsize : testCasesOffset w ≤ sizeofFixture w d.entries.length := Nat.le_add_right _ _
  unfold fillFixture
  rw [if_neg (Nat.not_lt.mpr hsize), multiByteToWideChar]
  by_cases hname : NameFits decode exportName
  · have hfits : (decode (exportName.chars.drop (mangledPrefixCch w))).length < cfixMaxFixtureNameCch := hname
    rw [if_pos hfits]
    simp only
    by_cases hrevision : RevisionSupported d
    · have hzero : d.revision = 0 := hrevision
      rw [if_neg (not_not.mpr hzero)]
      by_cases hflags : FlagsSupported d
      · rw [if_neg (flagsSupported_iff.mp hflags)]
        let start : Fixture :=
          { name            := unmangleName (decode (exportName.chars.drop (mangledPrefixCch w)))
            setupRoutine    := 0
            teardownRoutine := 0
            beforeRoutine   := 0
            afterRoutine    := 0
            reserved        := 0
            apiType         := d.type.toNat
            flags           := d.flags.setWidth 32
            testModule      := testModule
            testCases       := [] }
        have hstart : Walked start [] start := by
          refine ⟨rfl, fun s => .inr ⟨?_, fun _ h => absurd h List.not_mem_nil⟩, fun _ _ h => absurd h List.not_mem_nil, rfl⟩
          cases s <;> rfl
        have hroom : sizeofFixture w (([] : List DefinitionEntry).length + d.entries.length) ≤
            sizeofFixture w d.entries.length := by
          rw [List.length_nil, Nat.zero_add]
        rcases addEntries_spec hstart clean_nil hroom with ⟨f, hadd, hwalked, hclean⟩ | ⟨hr, hadd, hfirst⟩
        · rw [hadd]
          have hhead : f.name = start.name ∧ f.reserved = start.reserved ∧ f.apiType = start.apiType ∧
              f.flags = start.flags ∧ f.testModule = start.testModule := by
            simpa [Fixture.head] using hwalked.head
          obtain ⟨hname', -, htype', hflags', hmodule⟩ := hhead
          refine ⟨_, rfl, .inl ⟨f, rfl, ⟨hname', hwalked.routines, hwalked.testCases, hmodule, htype', hflags'⟩, ?_⟩⟩
          intro hr hviolates
          cases hviolates with
          | entry _ _ _ _ hfirst => exact hfirst.not_clean hclean
          | _ => contradiction
        · rw [hadd]
          simp only
          rw [cleanup_failed hfirst.failed]
          exact ⟨_, rfl, .inr ⟨hr, rfl, .entry htype hname hrevision hflags hfirst⟩⟩
      · rw [if_pos (not_not.mp (mt flagsSupported_iff.mpr hflags)), cleanup_failed rfl]
        exact ⟨_, rfl, .inr ⟨_, rfl, .flags htype hname hrevision hflags⟩⟩
    · have hne : d.revision ≠ 0 := hrevision
      rw [if_pos hne, cleanup_failed rfl]
      exact ⟨_, rfl, .inr ⟨_, rfl, .revision htype hname hrevision⟩⟩
  · have hlong : ¬ (decode (exportName.chars.drop (mangledPrefixCch w))).length < cfixMaxFixtureNameCch := hname
    rw [if_neg hlong]
    simp only [if_true]
    rw [cleanup_failed rfl]
    exact ⟨_, rfl, .inr ⟨_, rfl, .name htype hname⟩⟩

theorem createFixture_unsupported (malloc : Nat → Bool) (fuel : Nat) (htype : ¬ ApiTypeSupported d) :
    createFixture w decode malloc fuel exportName testModule (some d) = some (.ok ⟨eUnsupportedVersion, none, 0⟩) := by
  have hor : (decide (d.type.toNat < cfixApiTypeMin) || decide (cfixApiTypeMax < d.type.toNat)) = true := by
    rw [Bool.or_eq_true, decide_eq_true_eq, decide_eq_true_eq]
    rwa [ApiTypeSupported, not_and_or, Nat.not_le, Nat.not_le] at htype
  rw [createFixture]
  exact if_pos hor

theorem createFixture_supported (malloc : Nat → Bool) (fuel : Nat) (htype : ApiTypeSupported d) :
    createFixture w decode malloc fuel exportName testModule (some d) =
      match countEntries d.entries fuel 0#32 with
      | none            => none
      | some entryCount =>
        if !malloc (sizeofThroughTestCase w entryCount) then some (.ok (cleanup eOutofmemory false))
        else some (fillFixture w decode exportName testModule d (sizeofThroughTestCase w entryCount)) := by
  have hor : ¬ (decide (d.type.toNat < cfixApiTypeMin) || decide (cfixApiTypeMax < d.type.toNat)) = true := by
    rw [Bool.or_eq_true, decide_eq_true_eq, decide_eq_true_eq, not_or, Nat.not_lt, Nat.not_lt]
    exact htype
  rw [createFixture]
  exact if_neg hor

/-- The result for a supported type, if the table is not too long to be counted. -/
theorem createFixture_counted (decode : List UInt8 → CString) (exportName : ExportName w) (testModule : Nat)
    (malloc : Nat → Bool) {fuel : Nat} (htype : ApiTypeSupported d)
    (hcount : d.entries.length < 2 ^ 32) (hfuel : d.entries.length < fuel) :
    createFixture w decode malloc fuel exportName testModule (some d) =
      if !malloc (sizeofThroughTestCase w (BitVec.ofNat 32 d.entries.length)) then
        some (.ok (cleanup eOutofmemory false))
      else some (fillFixture w decode exportName testModule d
        (sizeofThroughTestCase w (BitVec.ofNat 32 d.entries.length))) := by
  have hstart : countEntries d.entries fuel (BitVec.ofNat 32 0) = _ := countEntries_eq hcount fuel 0 (Nat.zero_le _)
  rw [Nat.sub_zero, if_pos hfuel] at hstart
  rw [createFixture_supported malloc fuel htype, show (0#32 : ULONG) = BitVec.ofNat 32 0 from rfl, hstart]

/-- A call that returns has had enough fuel. -/
theorem createFixture_some {malloc : Nat → Bool} {fuel : Nat} {r : Except Fault Created} (htype : ApiTypeSupported d)
    (h : createFixture w decode malloc fuel exportName testModule (some d) = some r) :
    d.entries.length < 2 ^ 32 ∧ d.entries.length < fuel := by
  rw [createFixture_supported malloc fuel htype] at h
  by_cases hcount : d.entries.length < 2 ^ 32
  · refine ⟨hcount, ?_⟩
    by_contra hfuel
    have hstart : countEntries d.entries fuel (BitVec.ofNat 32 0) = _ := countEntries_eq hcount fuel 0 (Nat.zero_le _)
    rw [Nat.sub_zero, if_neg hfuel] at hstart
    rw [show (0#32 : ULONG) = BitVec.ofNat 32 0 from rfl, hstart] at h
    cases h
  · rw [countEntries_long (Nat.not_lt.mp hcount)] at h
    cases h

/-- What has been decided is a classification, if the first violation is one that the walk sees. -/
theorem Decided.classified {c : Created} (h : Decided decode exportName testModule d c)
    (hseen : ∀ hr, Violates AnyEntry decode exportName d hr → Violates HasRoutine decode exportName d hr)
    (hreal : ∀ hr, Violates HasRoutine decode exportName d hr → ∃ hr', Violates AnyEntry decode exportName d hr') :
    Classified decode exportName testModule d c := by
  rcases h with ⟨f, rfl, hf, hnone⟩ | ⟨hr, rfl, hviolates⟩
  · have hwell : WellFormed decode exportName d := wellFormed_iff.mpr fun hr hviolates => hnone hr (hseen hr hviolates)
    have hok : failed sOk = false := rfl
    refine ⟨iff_of_true hok hwell, fun _ => ⟨rfl, f, rfl, hf⟩, fun hfail => ?_⟩
    rw [hok] at hfail
    cases hfail
  · obtain ⟨hr', hfirst⟩ := hreal hr hviolates
    obtain rfl := (hseen hr' hfirst).eq hviolates
    have hfailed : failed hr' = true := hviolates.failed
    refine ⟨iff_of_false (by simp [hfailed]) fun hwell => wellFormed_iff.mp hwell hr' hfirst, fun hok => ?_,
      fun _ => ⟨rfl, rfl, hfirst⟩⟩
    rw [hfailed] at hok
    cases hok

/-- What the walk sees is a violation, though maybe not the first. -/
theorem violates_of_hasRoutine {hr : HRESULT} (h : Violates HasRoutine decode exportName d hr) :
    ∃ hr', Violates AnyEntry decode exportName d hr' := by
  cases h with
  | apiType h => exact ⟨_, .apiType h⟩
  | name htype h => exact ⟨_, .name htype h⟩
  | revision htype hname h => exact ⟨_, .revision htype hname h⟩
  | flags htype hname hrevision h => exact ⟨_, .flags htype hname hrevision h⟩
  | entry htype hname hrevision hflags h =>
      obtain ⟨pre, e, post, heq, -, hviolation⟩ := h
      have hany : ∃ hr', EntryViolation AnyEntry pre e hr' := by
        cases hviolation with
        | unknown h => exact ⟨_, .unknown h⟩
        | duplicate s h hmem htype' _ => exact ⟨_, .duplicate s h hmem htype' trivial⟩
      obtain ⟨hr', hany⟩ := hany
      obtain ⟨hr, hfirst⟩ := exists_firstViolation fun hclean => hclean pre e post hr' heq hany
      exact ⟨hr, .entry htype hname hrevision hflags hfirst⟩

theorem classified_unsupported (htype : ¬ ApiTypeSupported d) :
    Classified decode exportName testModule d ⟨eUnsupportedVersion, none, 0⟩ where
  succeeds_iff := iff_of_false nofun fun hwell => htype hwell.apiType
  created      := nofun
  refused      := fun _ => ⟨rfl, rfl, .apiType htype⟩

/-- **Creating a fixture.** The function classifies the definition if and only if the type of its API is not
    supported, or the entries are not too many and the first violation is also the first of those that the walk sees. -/
theorem createsExactly_iff (w : Width) (decode : List UInt8 → CString) (exportName : ExportName w) (testModule : Nat)
    (d : Definition) :
    CreatesExactly decode exportName testModule d ↔
      (ApiTypeSupported d → d.entries.length ≤ maxEntryCount w ∧
        ∀ hr, Violates AnyEntry decode exportName d hr → Violates HasRoutine decode exportName d hr) := by
  constructor
  · intro h htype
    -- there is memory for the fixture, and for nothing else
    obtain ⟨fuel, c, hcreate, hc⟩ := h fun size => size == sizeofFixture w d.entries.length
    obtain ⟨hcount, hfuel⟩ := createFixture_some htype hcreate
    have hclassified : Classified decode exportName testModule d c := by
      rcases hc with hc | ⟨hnone, -⟩
      · exact hc
      · simp at hnone
    rw [createFixture_counted decode exportName testModule _ htype hcount hfuel] at hcreate
    by_cases hsize : sizeofThroughTestCase w (BitVec.ofNat 32 d.entries.length) = sizeofFixture w d.entries.length
    · refine ⟨(sizeofThroughTestCase_eq_iff w hcount).mp hsize, fun hr hviolates => ?_⟩
      rw [hsize, if_neg (by simp), Option.some.injEq] at hcreate
      obtain ⟨c', hfill, hdecided⟩ := fillFixture_spec decode exportName testModule htype
      rw [hfill] at hcreate
      obtain rfl := Except.ok.inj hcreate
      rcases hdecided with ⟨f, rfl, -, -⟩ | ⟨hr', rfl, hseen⟩
      · have hok : failed sOk = false := rfl
        exact absurd hviolates (wellFormed_iff.mp (hclassified.succeeds_iff.mp hok) hr)
      · obtain rfl := hviolates.eq (hclassified.refused hseen.failed).2.2
        exact hseen
    · rw [if_pos (by simpa using hsize), cleanup_failed rfl, Option.some.injEq] at hcreate
      obtain rfl := Except.ok.inj hcreate
      exact absurd rfl (hclassified.refused rfl).2.2.ne_outofmemory
  · intro h malloc
    by_cases htype : ApiTypeSupported d
    · obtain ⟨hmax, hseen⟩ := h htype
      have hcount : d.entries.length < 2 ^ 32 := Nat.lt_of_le_of_lt hmax (by cases w <;> decide)
      have hcreate := createFixture_counted decode exportName testModule malloc htype hcount (Nat.lt_succ_self _)
      rw [(sizeofThroughTestCase_eq_iff w hcount).mpr hmax] at hcreate
      cases hmalloc : malloc (sizeofFixture w d.entries.length) with
      | false =>
          rw [hmalloc, cleanup_failed rfl] at hcreate
          exact ⟨_, _, hcreate, .inr ⟨rfl, rfl⟩⟩
      | true =>
          obtain ⟨c, hfill, hdecided⟩ := fillFixture_spec decode exportName testModule htype
          rw [hmalloc, hfill] at hcreate
          exact ⟨_, c, hcreate, .inl (hdecided.classified hseen fun _ => violates_of_hasRoutine)⟩
    · exact ⟨0, _, createFixture_unsupported malloc 0 htype, .inl (classified_unsupported htype)⟩

end

/-! ## A routine that is `NULL` -/

/-- Two Setup routines, the first of which is `NULL`. -/
def nullSetup : Definition where
  type     := 1
  flags    := 0
  revision := 0
  entries  := [⟨cfixEntryTypeSetup, 0, 0⟩, ⟨cfixEntryTypeSetup, 0, 5⟩]
  ne_end   := by decide

/-- `__CfixFixturePeSuite`. -/
def suiteExport : ExportName .w64 where
  chars  := PeImage.fixtureExportPrefix ++ [0x53, 0x75, 0x69, 0x74, 0x65]
  begins := List.prefix_append _ _
  longer := by decide

/-- The fixture is created although it has two Setup routines. -/
theorem not_createsExactly_nullSetup : ¬ CreatesExactly (fun _ => Cdiag.wide "Suite") suiteExport 0 nullSetup := by
  intro h
  have htype : ApiTypeSupported nullSetup := by unfold ApiTypeSupported; decide
  obtain ⟨fuel, c, hcreate, hc⟩ := h fun _ => true
  obtain ⟨hcount, hfuel⟩ := createFixture_some htype hcreate
  rw [createFixture_counted _ _ _ _ htype hcount hfuel] at hcreate
  have hfill : fillFixture .w64 (fun _ => Cdiag.wide "Suite") suiteExport 0 nullSetup
      (sizeofThroughTestCase .w64 (BitVec.ofNat 32 2)) =
      .ok ⟨sOk, some ⟨unmangleName (Cdiag.wide "Suite"), 5, 0, 0, 0, 0, 1, 0#32, 0, []⟩, 1⟩ := rfl
  have hlength : nullSetup.entries.length = 2 := rfl
  rw [hlength, hfill] at hcreate
  obtain rfl := Except.ok.inj (Option.some.inj hcreate)
  rcases hc with hc | ⟨hnone, -⟩
  · have hok : failed sOk = false := rfl
    have hunique := (hc.succeeds_iff.mp hok).entries.unique .setup
    exact absurd hunique (by decide)
  · cases hnone

end Cfix.PeFixture
