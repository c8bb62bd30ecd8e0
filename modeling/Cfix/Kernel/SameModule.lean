import Cfix.Kernel.CreateAdapter

/-!
# `Kernel.SameModule` — a module as a DLL and as a driver (`cfix/pe.c`, `cfixkr/drvtestadp.c`, `cfixkl/module.c`)

`CfixsCreateFixture` checks the entries of a definition while it creates the fixture. For a driver nobody does so before
the client has got the description of all fixtures. Both refuse the same modules, and where they do not, they have the
same fixtures.
-/

namespace Cfix.TestModule

open Memory PeImage PeLoader
open Events (Wstr Width cfixklEInvalidReflectorResponse)
open Unload (NTSTATUS statusSuccess)
open PeFixture (ExportName Definition CodePage FixtureName Special mangledPrefixCch mangledSuffix WellFormedEntries
  FirstViolation AnyEntry HasRoutine KnownType FixtureOf RoutineOf eUnknownEntryType)

/-! ## What the client refuses -/

/-- The client does not take an entry behind these ones: its type is unknown, or there is an entry of its type. -/
inductive Refuses (pre : List DefinitionEntry) (e : DefinitionEntry) : HRESULT → Prop where
  | unknown (htype : e.type.toNat < 2 ^ 16) (h : ¬ e.Known) : Refuses pre e cfixklEInvalidReflectorResponse
  | duplicate (s : Special) (h : e.type.toNat = s.entryType) {e' : DefinitionEntry} (hmem : e' ∈ pre)
      (htype : e'.type.toNat = s.entryType) : Refuses pre e s.duplicate

/-- The entries that the client takes, names apart. -/
structure Takes (es : List DefinitionEntry) : Prop where
  known : ∀ e ∈ es, e.Known
  once  : ∀ type, isSpecial type → (es.countP fun e => e.type.toNat == type) ≤ 1

/-- The client does not take the fixture because of the first entry that it does not take. -/
structure RefusesFixture (f : TestFixture) (hr : HRESULT) : Prop where
  fit   : NamesFit f.entries
  first : ∃ pre e post, f.entries = pre ++ e :: post ∧ Takes pre ∧ Refuses pre e hr

theorem isSpecial_entryType (s : Special) : isSpecial s.entryType := by
  cases s <;> exact ⟨by decide, by decide, by decide⟩

theorem exists_special {type : Nat} (h : isSpecial type) : ∃ s : Special, type = s.entryType := by
  rcases isSpecial_iff.mp h with rfl | rfl | rfl | rfl
  · exact ⟨.setup, rfl⟩
  · exact ⟨.teardown, rfl⟩
  · exact ⟨.before, rfl⟩
  · exact ⟨.after, rfl⟩

section

variable {m : Mem} {base structOffset stringsOffset defIndex fixIndex : Nat} {f f' : KernelFixture} {hr : HRESULT}

theorem ioOf_append (es es' : List DefinitionEntry) :
    ∃ stringsOffset', ioOf defIndex stringsOffset (es ++ es') =
      ioOf defIndex stringsOffset es ++ ioOf (defIndex + es.length) stringsOffset' es' := by
  induction es generalizing defIndex stringsOffset with
  | nil => exact ⟨stringsOffset, rfl⟩
  | cons e es ih =>
      obtain ⟨stringsOffset', h⟩ := @ih (stringsOffset + 2 * e.name.chars.length) (defIndex + 1)
      refine ⟨stringsOffset', ?_⟩
      rw [List.cons_append, ioOf, h, ioOf, List.length_cons, List.cons_append, Nat.add_assoc, Nat.add_comm 1]

theorem EntriesStored.left {es es' : List DefinitionEntry}
    (h : EntriesStored m base structOffset defIndex stringsOffset (es ++ es')) :
    EntriesStored m base structOffset defIndex stringsOffset es := by
  induction es generalizing defIndex stringsOffset with
  | nil => trivial
  | cons e es ih => exact ⟨h.1, ih h.2⟩

/-- The second half of the loop starts with what the first half has added. -/
theorem addEntries_append_error {es es' : List IoEntry} {stringOffset : Nat}
    (h : addEntries m base f stringOffset es = .ok f')
    (h' : ∀ stringOffset', addEntries m base f' stringOffset' es' = .error hr) :
    addEntries m base f stringOffset (es ++ es') = .error hr := by
  induction es generalizing f stringOffset with
  | nil =>
      cases h
      exact h' stringOffset
  | cons e es ih =>
      rw [addEntries] at h
      rw [List.cons_append, addEntries]
      cases hadd : addEntry m base f stringOffset e with
      | error hr' =>
          rw [hadd] at h
          cases h
      | ok r =>
          rw [hadd] at h
          exact ih h

theorem setRoutine_present {routine : Nat} (h : routine &&& cfixklpRoutinePresent ≠ 0) (e : IoEntry)
    (duplicate : HRESULT) : setRoutine routine e duplicate = .error duplicate := by
  rw [setRoutine, if_pos (bne_iff_ne.mpr h)]

/-- A special routine that is there is not set again. -/
theorem addEntry_duplicate {e : IoEntry} {s : Special} (htype : e.type = s.entryType)
    (hpresent : f.routine s.entryType &&& cfixklpRoutinePresent ≠ 0) (stringOffset : Nat) :
    addEntry m base f stringOffset e = .error s.duplicate := by
  unfold addEntry
  rw [htype]
  cases s with
  | setup =>
      have hset := setRoutine_present (show f.setupRoutine &&& _ ≠ 0 from hpresent) e eDupSetupRoutine
      rw [if_neg (by decide), if_pos (by decide), hset]
      rfl
  | teardown =>
      have hset := setRoutine_present (show f.teardownRoutine &&& _ ≠ 0 from hpresent) e eDupTeardownRoutine
      rw [if_neg (by decide), if_neg (by decide), if_pos (by decide), hset]
      rfl
  | before =>
      have hset := setRoutine_present (show f.beforeRoutine &&& _ ≠ 0 from hpresent) e eDupBeforeRoutine
      rw [if_neg (by decide), if_neg (by decide), if_neg (by decide), if_pos (by decide), hset]
      rfl
  | after =>
      have hset := setRoutine_present (show f.afterRoutine &&& _ ≠ 0 from hpresent) e eDupAfterRoutine
      rw [if_neg (by decide), if_neg (by decide), if_neg (by decide), if_neg (by decide), if_pos (by decide), hset]
      rfl

theorem addEntry_unknown {e : IoEntry} (htype : ¬ (1 ≤ e.type ∧ e.type ≤ 5)) (stringOffset : Nat) :
    addEntry m base f stringOffset e = .error cfixklEInvalidReflectorResponse := by
  unfold addEntry cfixEntryTypeTestcase cfixEntryTypeSetup cfixEntryTypeTeardown cfixEntryTypeBefore cfixEntryTypeAfter
  rw [if_neg (by omega), if_neg (by omega), if_neg (by omega), if_neg (by omega), if_neg (by omega)]

/-- A routine that an entry sets is there. -/
theorem specialRoutine_present {type : Nat} {es : List DefinitionEntry} {e : DefinitionEntry} (hmem : e ∈ es)
    (htype : e.type.toNat = type) (honce : (es.countP fun e => e.type.toNat == type) ≤ 1) (routine : Nat) :
    specialRoutine type defIndex es routine &&& cfixklpRoutinePresent ≠ 0 := by
  obtain ⟨i, hi⟩ := List.mem_iff_getElem?.mp hmem
  rw [specialRoutine_of_getElem? hi htype honce]
  exact present_or _

/-- **The loop ends at the first entry that is refused.** -/
theorem addEntries_refused {pre post : List DefinitionEntry} {e : DefinitionEntry} {stringOffset : Nat}
    (hstored : EntriesStored m base structOffset defIndex stringsOffset (pre ++ e :: post)) (htakes : Takes pre)
    (hrefuses : Refuses pre e hr) (hnone : ∀ type, f.routine type = 0)
    (hlt : stringOffset + testStringsSize pre < 2 ^ 32) :
    addEntries m base f stringOffset (ioOf defIndex stringsOffset (pre ++ e :: post)) = .error hr := by
  obtain ⟨stringsOffset', happend⟩ := @ioOf_append stringsOffset defIndex pre (e :: post)
  rw [happend]
  obtain ⟨f', hadds, hadded⟩ := addEntries_spec f stringOffset hstored.left htakes.known
    (fun type hspecial => by
      rw [hnone type, SetsOnce, Nat.zero_and, if_pos rfl]
      exact htakes.once type hspecial) hlt
  apply addEntries_append_error hadds
  intro offset
  rw [ioOf, addEntries]
  cases hrefuses with
  | unknown htype hunknown =>
      have hio : (e.io (defIndex + pre.length) stringsOffset').type = e.type.toNat := Nat.mod_eq_of_lt htype
      have hunknown' : ¬ (1 ≤ (e.io (defIndex + pre.length) stringsOffset').type ∧
          (e.io (defIndex + pre.length) stringsOffset').type ≤ 5) := by
        rw [hio]
        exact hunknown
      rw [addEntry_unknown hunknown']
  | duplicate s htype hmem htype' =>
      have hspecial := isSpecial_entryType s
      have hio : (e.io (defIndex + pre.length) stringsOffset').type = s.entryType := by
        rw [← htype]
        apply Nat.mod_eq_of_lt
        have hle := hspecial.2.1
        omega
      have hpresent : f'.routine s.entryType &&& cfixklpRoutinePresent ≠ 0 := by
        rw [hadded.routine _ hspecial]
        exact specialRoutine_present hmem htype' (htakes.once _ hspecial) _
      rw [addEntry_duplicate hio hpresent]

theorem countTestCases_le (es : List IoEntry) (count sizes : Nat) :
    (countTestCases es count sizes).1 ≤ count + es.length := by
  induction es generalizing count sizes with
  | nil => exact Nat.le_refl _
  | cons e es ih =>
      rw [countTestCases, List.length_cons]
      split
      · exact Nat.le_trans (ih _ _) (by omega)
      · exact Nat.le_trans (ih _ _) (by omega)

theorem length_ioOf (es : List DefinitionEntry) : (ioOf defIndex stringsOffset es).length = es.length := by
  induction es generalizing defIndex stringsOffset with
  | nil => rfl
  | cons e es ih => rw [ioOf, List.length_cons, ih, List.length_cons]

theorem createFixture_refused {t : TestFixture} (w : Width) (memory : Mem) (h : RefusesFixture t hr)
    (hstored : FixtureStored m base fixIndex structOffset stringsOffset t) :
    createFixture w (some memory) m base (base + structOffset) = .error hr := by
  obtain ⟨pre, e, post, hentries, htakes, hrefuses⟩ := h.first
  have hname := t.name_lt
  have hlt := t.entries_lt
  have hfits : ¬ 2 * t.fixtureName.chars.length > 2 * cfixMaxFixtureNameCch - 2 := by
    unfold cfixMaxFixtureNameCch at hname ⊢
    omega
  have hpre : testStringsSize pre ≤ 126 * pre.length :=
    testStringsSize_le fun x hx => h.fit x (hentries ▸ List.mem_append_left _ hx)
  have hlength : pre.length + (post.length + 1) = t.entries.length := by
    rw [hentries, List.length_append, List.length_cons]
  have hcount := countTestCases_le (ioOf 0 (stringsOffset + 2 * t.fixtureName.chars.length) t.entries) 0 0
  rw [length_ioOf, Nat.zero_add] at hcount
  have hstoredEntries := hstored.entries
  rw [createFixture, hstored.ioEntries_eq]
  generalize hcounts : countTestCases (ioOf 0 (stringsOffset + 2 * t.fixtureName.chars.length) t.entries) 0 0 = counts
    at hcount
  obtain ⟨count, sizes⟩ := counts
  simp only [hstored.head.nameLength, if_neg hfits]
  rw [hentries] at hstoredEntries ⊢
  refine addEntries_refused hstoredEntries htakes hrefuses (fun type => ?_) ?_
  · unfold KernelFixture.routine
    split <;> rfl
  · have hsize : ulong (sizeofKernelFixture w count) ≤ 320 + 24 * count := by
      refine Nat.le_trans (Nat.mod_le _ _) ?_
      cases w <;> (simp only [sizeofKernelFixture]; omega)
    omega

/-- **The loop over the fixtures ends** at the first fixture that the client does not take. -/
theorem createFixtures_refused {pre post : List TestFixture} {t : TestFixture} (w : Width) (heap : ClientHeap)
    (hd : ∀ x ∈ pre, x.Describable) (hrefuses : RefusesFixture t hr)
    (h : FixturesStored m base fixIndex structOffset stringsOffset (pre ++ t :: post))
    (hheap : ∀ i < fixIndex + pre.length + 1, heap.allocations i ≠ none) :
    createFixtures w heap m base (pre ++ t :: post).length fixIndex = .error hr := by
  induction pre generalizing fixIndex structOffset stringsOffset with
  | nil =>
      obtain ⟨memory, hmemory⟩ := Option.ne_none_iff_exists'.mp (hheap fixIndex (by omega))
      have hoffset : load 4 m (base + 4 + 4 * fixIndex) = structOffset := by
        rw [Nat.add_assoc]
        exact h.1.head.offset
      rw [List.nil_append, List.length_cons, createFixtures, hoffset, hmemory, createFixture_refused w memory hrefuses h.1]
  | cons x pre ih =>
      obtain ⟨memory, hmemory⟩ := Option.ne_none_iff_exists'.mp (hheap fixIndex (by omega))
      have hoffset : load 4 m (base + 4 + 4 * fixIndex) = structOffset := by
        rw [Nat.add_assoc]
        exact h.1.head.offset
      obtain ⟨g, hcreate, -⟩ := createFixture_spec w memory (hd x List.mem_cons_self) h.1
      have hrest := ih (fun y hy => hd y (List.mem_cons_of_mem _ hy)) h.2
        (fun i hi => hheap i (by rw [List.length_cons]; omega))
      rw [List.cons_append, List.length_cons, createFixtures, hoffset, hmemory]
      simp only [hcreate, hrest]

end

/-! ## One definition -/

/-- The entries of a definition are the same in both modules: `R` relates the routines. -/
structure SameEntry (R : Nat → Nat → Prop) (text text' : Nat → Wstr) (e e' : PeFixture.DefinitionEntry) : Prop where
  type       : e.type = e'.type
  type_lt    : e.type < 2 ^ 16
  name       : text e.name = text' e'.name
  name_pos   : 1 ≤ (text e.name).chars.length
  name_le    : (text e.name).chars.length ≤ 62
  routine    : R e.routine e'.routine
  routine_ne : e.routine ≠ 0

structure SameDefinition (R : Nat → Nat → Prop) (text text' : Nat → Wstr) (d d' : Definition) : Prop where
  base       : BaseApi d
  base'      : BaseApi d'
  entries    : List.Forall₂ (SameEntry R text text') d.entries d'.entries
  entries_lt : d.entries.length < 2 ^ 16

section

variable {R : Nat → Nat → Prop} {text text' : Nat → Wstr} {d d' : Definition} {es es' : List PeFixture.DefinitionEntry}
  {hr : HRESULT}

/-- Only the types decide whether the entries are well-formed. -/
theorem wellFormedEntries_congr (h : WellFormedEntries es) (htypes : es.map (·.type) = es'.map (·.type)) :
    WellFormedEntries es' where
  known e he := by
    obtain ⟨e₀, he₀, htype⟩ := List.mem_map.mp (htypes ▸ List.mem_map_of_mem he)
    exact htype ▸ h.known e₀ he₀
  unique s := by
    have hcount : ∀ l : List PeFixture.DefinitionEntry, (l.filter fun e => e.type = s.entryType).length =
        (l.map (·.type)).countP (· = s.entryType) := by
      intro l
      rw [List.countP_map, List.countP_eq_length_filter]
      rfl
    rw [hcount, ← htypes, ← hcount]
    exact h.unique s

theorem types_eq (h : List.Forall₂ (SameEntry R text text') es es') : es.map (·.type) = es'.map (·.type) := by
  induction h with
  | nil => rfl
  | cons he _ ih => rw [List.map_cons, List.map_cons, he.type, ih]

theorem type_definitionEntry (text : Nat → Wstr) {e : PeFixture.DefinitionEntry} (h : e.type < 2 ^ 16) :
    (definitionEntry text e).type.toNat = e.type := by
  rw [definitionEntry, BitVec.toNat_ofNat]
  omega

theorem known_iff {e : PeFixture.DefinitionEntry} (h : e.type < 2 ^ 16) :
    (definitionEntry text e).Known ↔ KnownType e.type := by
  rw [DefinitionEntry.Known, type_definitionEntry text h, KnownType]
  simp only [cfixEntryTypeSetup, cfixEntryTypeTeardown, cfixEntryTypeTestcase, cfixEntryTypeBefore, cfixEntryTypeAfter,
    List.mem_cons, List.not_mem_nil, or_false]
  omega

theorem countP_definitionEntry (h : ∀ e ∈ es, e.type < 2 ^ 16) (type : Nat) :
    (es.map (definitionEntry text)).countP (fun e => e.type.toNat == type) = (es.filter fun e => e.type = type).length := by
  rw [List.countP_map, ← List.countP_eq_length_filter]
  apply List.countP_congr
  intro e he
  simp [type_definitionEntry text (h e he)]

/-- The client takes well-formed entries. -/
theorem takes_of_wellFormed (text : Nat → Wstr) (h : WellFormedEntries es) (hlt : ∀ e ∈ es, e.type < 2 ^ 16) :
    Takes (es.map (definitionEntry text)) where
  known e he := by
    obtain ⟨e₀, he₀, rfl⟩ := List.mem_map.mp he
    exact (known_iff (hlt e₀ he₀)).mpr (h.known e₀ he₀)
  once type hspecial := by
    obtain ⟨s, rfl⟩ := exists_special hspecial
    rw [countP_definitionEntry hlt]
    exact h.unique s

/-- The codes for an unknown type differ. -/
inductive SameRefusal : HRESULT → HRESULT → Prop where
  | duplicate (s : Special) : SameRefusal s.duplicate s.duplicate
  | unknown : SameRefusal eUnknownEntryType cfixklEInvalidReflectorResponse

/-- The client refuses the first entry that violates something. -/
theorem refuses_of_firstViolation (text : Nat → Wstr) (h : FirstViolation AnyEntry es hr) (hlt : ∀ e ∈ es, e.type < 2 ^ 16) :
    ∃ pre e post hr', es.map (definitionEntry text) = pre ++ e :: post ∧ Takes pre ∧ Refuses pre e hr' ∧
      SameRefusal hr hr' := by
  obtain ⟨pre, e, post, rfl, hclean, hviolation⟩ := h
  have hpre : ∀ x ∈ pre, x.type < 2 ^ 16 := fun x hx => hlt x (List.mem_append_left _ hx)
  have he : e.type < 2 ^ 16 := hlt e (by simp)
  have htakes : Takes (pre.map (definitionEntry text)) :=
    takes_of_wellFormed text (PeFixture.wellFormedEntries_iff.mpr hclean) hpre
  refine ⟨pre.map (definitionEntry text), definitionEntry text e, post.map (definitionEntry text), ?_⟩
  rw [List.map_append, List.map_cons]
  cases hviolation with
  | unknown h =>
      refine ⟨_, rfl, htakes, .unknown ?_ fun hknown => h ((known_iff he).mp hknown), .unknown⟩
      rw [type_definitionEntry text he]
      exact he
  | @duplicate s e' htype hmem htype' =>
      refine ⟨_, rfl, htakes, .duplicate s ?_ (List.mem_map_of_mem hmem) ?_, .duplicate s⟩
      · rw [type_definitionEntry text he]
        exact htype
      · rw [type_definitionEntry text (hpre e' hmem)]
        exact htype'

/-- The entries in front of the first violation have the same types in the other module. -/
theorem firstViolation_congr (h : FirstViolation AnyEntry es hr) (htypes : es.map (·.type) = es'.map (·.type)) :
    FirstViolation AnyEntry es' hr := by
  obtain ⟨pre, e, post, rfl, hclean, hviolation⟩ := h
  rw [List.map_append, List.map_cons] at htypes
  obtain ⟨pre', rest, rfl, hpre, hrest⟩ := List.map_eq_append_iff.mp htypes.symm
  obtain ⟨e', post', rfl, he, -⟩ := List.map_eq_cons_iff.mp hrest
  refine ⟨pre', e', post', rfl, PeFixture.wellFormedEntries_iff.mp
    (wellFormedEntries_congr (PeFixture.wellFormedEntries_iff.mpr hclean) hpre.symm), ?_⟩
  cases hviolation with
  | unknown h => exact .unknown (he ▸ h)
  | @duplicate s x htype hmem htype' =>
      obtain ⟨x', hx', hxtype⟩ := List.mem_map.mp (hpre ▸ List.mem_map.mpr ⟨x, hmem, rfl⟩)
      exact .duplicate s (he.trans htype) hx' (hxtype.trans htype') trivial

end

/-! ## The loader and a definition -/

section

variable {w : Width} {decode : List UInt8 → Cdiag.CString} {exportName : ExportName w} {d : Definition}

/-- If all entries have a routine, the walk sees every violation. -/
theorem entryViolation_iff {pre : List PeFixture.DefinitionEntry} {e : PeFixture.DefinitionEntry} {hr : HRESULT}
    (h : ∀ x ∈ pre, x.routine ≠ 0) :
    PeFixture.EntryViolation HasRoutine pre e hr ↔ PeFixture.EntryViolation AnyEntry pre e hr := by
  constructor
  · intro hviolation
    cases hviolation with
    | unknown h => exact .unknown h
    | duplicate s htype hmem htype' _ => exact .duplicate s htype hmem htype' trivial
  · intro hviolation
    cases hviolation with
    | unknown h => exact .unknown h
    | duplicate s htype hmem htype' _ => exact .duplicate s htype hmem htype' (h _ hmem)

theorem clean_iff {es : List PeFixture.DefinitionEntry} (h : ∀ x ∈ es, x.routine ≠ 0) :
    PeFixture.Clean HasRoutine es ↔ PeFixture.Clean AnyEntry es := by
  have hpre : ∀ pre e post, es = pre ++ e :: post → ∀ x ∈ pre, x.routine ≠ 0 := by
    rintro pre e post rfl x hx
    exact h x (List.mem_append_left _ hx)
  constructor
  · intro hclean pre e post hr heq hviolation
    exact hclean pre e post hr heq ((entryViolation_iff (hpre pre e post heq)).mpr hviolation)
  · intro hclean pre e post hr heq hviolation
    exact hclean pre e post hr heq ((entryViolation_iff (hpre pre e post heq)).mp hviolation)

theorem firstViolation_hasRoutine {es : List PeFixture.DefinitionEntry} {hr : HRESULT}
    (h : FirstViolation HasRoutine es hr) (hroutines : ∀ e ∈ es, e.routine ≠ 0) : FirstViolation AnyEntry es hr := by
  obtain ⟨pre, e, post, rfl, hclean, hviolation⟩ := h
  have hpre : ∀ x ∈ pre, x.routine ≠ 0 := fun x hx => hroutines x (List.mem_append_left _ hx)
  exact ⟨pre, e, post, rfl, (clean_iff hpre).mp hclean, (entryViolation_iff hpre).mp hviolation⟩

/-- **A definition of the base API** whose entries have routines becomes a fixture, or its first violation is found. -/
theorem createFixture_base {malloc : Nat → Bool} (hmalloc : ∀ n, malloc n = true) (testModule : Nat) (hbase : BaseApi d)
    (hfits : PeFixture.NameFits decode exportName) (hroutines : ∀ e ∈ d.entries, e.routine ≠ 0)
    (hcount : d.entries.length < 2 ^ 16) :
    ∃ fuel c, PeFixture.createFixture w decode malloc fuel exportName testModule (some d) = some (.ok c) ∧
      ((∃ f, c = ⟨sOk, some f, 1⟩ ∧ FixtureOf decode exportName testModule d f ∧ WellFormedEntries d.entries) ∨
        ∃ hr, c = ⟨hr, none, 0⟩ ∧ FirstViolation AnyEntry d.entries hr) := by
  have htype : PeFixture.ApiTypeSupported d := by
    rw [PeFixture.ApiTypeSupported, hbase.type]
    exact ⟨by decide, by decide⟩
  have hsize : PeFixture.sizeofThroughTestCase w (BitVec.ofNat 32 d.entries.length) =
      PeFixture.sizeofFixture w d.entries.length := by
    rw [PeFixture.sizeofThroughTestCase_eq_iff w (by omega)]
    cases w <;> (simp only [PeFixture.maxEntryCount]; omega)
  obtain ⟨c, hfill, hdecided⟩ := PeFixture.fillFixture_spec decode exportName testModule htype
  refine ⟨d.entries.length + 1, c, ?_, ?_⟩
  · rw [PeFixture.createFixture_counted decode exportName testModule malloc htype (by omega) (Nat.lt_succ_self _), hmalloc,
      hsize, hfill]
    rfl
  · rcases hdecided with ⟨f, hc, hf, hnone⟩ | ⟨hr, hc, hviolates⟩
    · refine .inl ⟨f, hc, hf, ?_⟩
      rw [PeFixture.wellFormedEntries_iff, ← clean_iff hroutines]
      by_contra hclean
      obtain ⟨hr, hfirst⟩ := PeFixture.exists_firstViolation hclean
      exact hnone hr (.entry htype hfits hbase.revision (.inl hbase.flags) hfirst)
    · refine .inr ⟨hr, hc, ?_⟩
      cases hviolates with
      | apiType h => exact absurd htype h
      | name _ h => exact absurd hfits h
      | revision _ _ h => exact absurd hbase.revision h
      | flags _ _ _ h => exact absurd (.inl hbase.flags) h
      | entry _ _ _ _ h => exact firstViolation_hasRoutine h hroutines

end

end Cfix.TestModule
