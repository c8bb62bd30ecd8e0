import Cfix.Kernel.SameModule
import Cfix.Storage.Discipline

/-!
# `Kernel.TwoLoaders` — the loader of DLLs and the way of a driver's fixtures to the client

The way leads from the exports of the driver over its adapter (`drvtestadp.c`) and the description in the response to the
fixtures of the client (`cfixkl/module.c`). `loaders_agree` compares its end with the result of
`CfixsLoadFixturesFromPeImage`.
-/

namespace Cfix.TestModule

open Memory PeImage PeLoader
open Events (Wstr Width)
open Unload (NTSTATUS statusSuccess)
open PeFixture (ExportName Definition CodePage FixtureName Special mangledPrefixCch mangledSuffix WellFormedEntries
  FirstViolation AnyEntry FixtureOf RoutineOf NameFits widen)

/-! ## Modules -/

/-- The names of the exports of a loaded module, what their routines return, and the strings in the module. -/
structure ModuleCode (w : Width) where
  page       : CodePage
  exportName : Export → ExportName w
  testDef    : Export → Option Definition
  text       : Nat → Wstr

section

variable {w w' : Width}

/-- The host of the loader calls `CfixsCreateFixture` in these turns, and has memory. -/
structure ModuleCode.Loads (c : ModuleCode w) (testModule : Nat) (host : LoadHost PeFixture.Fixture)
    (turns : List Turn) : Prop where
  malloc  : ∀ n, host.malloc n = true
  realloc : ∀ n, host.realloc n = true
  create  : ∀ k, ∀ t ∈ turns, ∀ fuel r, PeFixture.createFixture w c.page.decode host.malloc fuel
    (c.exportName t.passed) testModule (c.testDef t.passed) = some (.ok r) →
      host.create k t.passed = r.fixture.elim (.error r.hr) .ok

/-- The host of the kernel calls `CfixkrsInitializeFixture` in these turns. -/
def ModuleCode.Initializes (c : ModuleCode w) (host : KernelHost DriverFixture) (turns : List Turn) : Prop :=
  ∀ k, ∀ t ∈ turns, ∀ fuel r, initializeFixture c.page.decode c.text fuel (c.exportName t.passed)
    (c.testDef t.passed) = some r → host.initializeFixture k t.passed = r

/-- An export of the DLL and one of the driver are the same fixture. -/
structure SameExport (R : Nat → Nat → Prop) (inside : ModuleCode w) (outside : ModuleCode w') (t t' : Turn)
    (name : FixtureName) (d d' : Definition) : Prop where
  exportName  : inside.exportName t.passed = PeFixture.exportName w name
  exportName' : outside.exportName t'.passed = PeFixture.exportName w' name
  testDef     : inside.testDef t.passed = some d
  testDef'    : outside.testDef t'.passed = some d'
  fits        : NameFits inside.page.decode (PeFixture.exportName w name)
  fits'       : NameFits outside.page.decode (PeFixture.exportName w' name)
  definition  : SameDefinition R inside.text outside.text d d'

def SameTurn (R : Nat → Nat → Prop) (inside : ModuleCode w) (outside : ModuleCode w') (t t' : Turn) : Prop :=
  ∃ name d d', SameExport R inside outside t t' name d d'

end

/-! ## The same fixtures -/

/-- With these keys the driver calls the routine that the DLL has. -/
def CallsSame (R : Nat → Nat → Prop) (a : TestAdapter) (fixtureKey routineKey routine : Nat) : Prop :=
  ∃ routine', getRoutineTestAdapter a fixtureKey routineKey = .ok routine' ∧ R routine routine'

/-- A fixture of a DLL and a fixture of the client are the same. -/
structure SameLoaded (R : Nat → Nat → Prop) (text : Nat → Wstr) (a : TestAdapter) (f : PeFixture.Fixture)
    (g : KernelFixture) : Prop where
  name      : g.name.chars = f.name.chars
  testCases : List.Forall₂ (fun tc tc' => g.stringAt tc'.name = text tc.name ∧ tc.routine ≠ 0 ∧
    CallsSame R a g.fixtureKey tc'.routineKey tc.routine) f.testCases g.testCases
  absent    : ∀ s : Special, f.routine s = 0 → g.routine s.entryType = 0
  present   : ∀ s : Special, f.routine s ≠ 0 → g.routine s.entryType &&& cfixklpRoutinePresent ≠ 0 ∧
    CallsSame R a g.fixtureKey (specialRoutineKey (g.routine s.entryType)) (f.routine s)

/-- The loader and the client have the same fixtures, or both have none. -/
inductive SameModule (R : Nat → Nat → Prop) (text : Nat → Wstr) (a : TestAdapter) :
    LoadedModule PeFixture.Fixture → Except HRESULT (List KernelFixture) → Prop where
  | loaded {fs : List PeFixture.Fixture} {gs : List KernelFixture} {turns : List Turn}
      (h : List.Forall₂ (SameLoaded R text a) fs gs) : SameModule R text a ⟨sOk, some fs, fs, true, turns⟩ (.ok gs)
  | refused {hr hr' : HRESULT} {turns : List Turn} (h : SameRefusal hr hr') :
      SameModule R text a ⟨hr, none, [], false, turns⟩ (.error hr')

theorem forall₂_comp {α β γ : Type} {R : α → β → Prop} {S : β → γ → Prop} {as : List α} {bs : List β} {cs : List γ}
    (h : List.Forall₂ R as bs) (h' : List.Forall₂ S bs cs) :
    List.Forall₂ (fun a c => ∃ b ∈ bs, R a b ∧ S b c) as cs := by
  induction h generalizing cs with
  | nil =>
      cases h'
      exact .nil
  | cons hab _ ih =>
      cases h' with
      | cons hbc hrest =>
          refine .cons ⟨_, List.mem_cons_self, hab, hbc⟩ ((ih hrest).imp ?_)
          rintro a c ⟨b, hb, hR, hS⟩
          exact ⟨b, List.mem_cons_of_mem _ hb, hR, hS⟩

theorem forall₂_mem {α β : Type} {R : α → β → Prop} {as : List α} {bs : List β} (h : List.Forall₂ R as bs) {b : β}
    (hb : b ∈ bs) : ∃ a ∈ as, R a b := by
  induction h with
  | nil => cases hb
  | cons hab _ ih =>
      rcases List.mem_cons.mp hb with rfl | hb
      · exact ⟨_, List.mem_cons_self, hab⟩
      · obtain ⟨a, ha, hR⟩ := ih hb
        exact ⟨a, List.mem_cons_of_mem _ ha, hR⟩

section

variable {w w' : Width} {R : Nat → Nat → Prop} {inside : ModuleCode w} {outside : ModuleCode w'} {t t' : Turn}
  {name : FixtureName} {d d' : Definition} {testModule : Nat} {host : LoadHost PeFixture.Fixture}
  {khost : KernelHost DriverFixture} {turns turns' : List Turn}

/-- The fixture of the adapter for the export of a driver. -/
structure Stands (text' : Nat → Wstr) (f : DriverFixture) (name : FixtureName) (d' : Definition) : Prop where
  name    : f.fixtureName.chars = widen name.chars
  entries : f.entries = d'.entries.map (definitionEntry text')

/-- **The turn of the kernel**: the adapter gets a fixture. -/
theorem SameExport.initialize (h : SameExport R inside outside t t' name d d') (hinit : outside.Initializes khost turns')
    (ht : t' ∈ turns') (k : Nat) :
    ∃ f, khost.initializeFixture k t'.passed = .ok f ∧ Stands outside.text f name d' := by
  have hlength := h.definition.entries.length_eq
  have hlt := h.definition.entries_lt
  have hsuffix : (mangledSuffix w').length ≤ 2 := by cases w' <;> decide
  have hname := name.length_lt
  unfold cfixMaxFixtureNameCch at hname
  have hdrop := PeFixture.drop_exportName w' name
  obtain ⟨f, hf, hchars, hentries⟩ := initializeFixture_ok (PeFixture.exportName w' name) outside.text
    h.definition.base' (by
      rw [hdrop, List.length_append]
      omega) h.fits' (by omega) (Nat.lt_succ_self _)
  refine ⟨f, ?_, ?_, hentries⟩
  · apply hinit k t' ht (d'.entries.length + 1)
    rw [h.exportName', h.testDef']
    exact hf
  · rw [hchars, hdrop, PeFixture.unmangleName_decode]

/-- **The turn of the loader**: it creates the fixture, or it finds the first violation. -/
theorem SameExport.create (h : SameExport R inside outside t t' name d d') (hloads : inside.Loads testModule host turns)
    (ht : t ∈ turns) (k : Nat) :
    (∃ f, host.create k t.passed = .ok f ∧ FixtureOf inside.page.decode (PeFixture.exportName w name) testModule d f ∧
      WellFormedEntries d.entries) ∨
    ∃ hr, host.create k t.passed = .error hr ∧ FirstViolation AnyEntry d.entries hr := by
  have hroutines : ∀ e ∈ d.entries, e.routine ≠ 0 := by
    intro e he
    obtain ⟨e', -, hsame⟩ := forall₂_mem h.definition.entries.flip he
    exact hsame.routine_ne
  obtain ⟨fuel, c, hcreate, hresult⟩ := createFixture_base hloads.malloc testModule h.definition.base h.fits hroutines
    h.definition.entries_lt
  have hhost := hloads.create k t ht fuel c (by
    rw [h.exportName, h.testDef]
    exact hcreate)
  rcases hresult with ⟨f, rfl, hf, hwell⟩ | ⟨hr, rfl, hfirst⟩
  · exact .inl ⟨f, hhost, hf, hwell⟩
  · exact .inr ⟨hr, hhost, hfirst⟩

theorem SameDefinition.type_lt {text text' : Nat → Wstr} (h : SameDefinition R text text' d d') :
    ∀ e ∈ d'.entries, e.type < 2 ^ 16 := by
  intro e he
  obtain ⟨e₀, -, hsame⟩ := forall₂_mem h.entries he
  exact hsame.type ▸ hsame.type_lt

theorem SameDefinition.names {text text' : Nat → Wstr} (h : SameDefinition R text text' d d') :
    ∀ e ∈ d'.entries.map (definitionEntry text'), 1 ≤ e.name.chars.length ∧ e.name.chars.length ≤ 62 := by
  intro e he
  obtain ⟨e', he', rfl⟩ := List.mem_map.mp he
  obtain ⟨e₀, -, hsame⟩ := forall₂_mem h.entries he'
  show 1 ≤ (text' e'.name).chars.length ∧ (text' e'.name).chars.length ≤ 62
  rw [← hsame.name]
  exact ⟨hsame.name_pos, hsame.name_le⟩

/-- The client takes the fixture that the loader creates. -/
theorem SameDefinition.describable {text text' : Nat → Wstr} {f : TestFixture} (h : SameDefinition R text text' d d')
    (hentries : f.entries = d'.entries.map (definitionEntry text')) (hwell : WellFormedEntries d.entries) :
    f.Describable := by
  obtain ⟨hknown, honce⟩ := takes_of_wellFormed text' (wellFormedEntries_congr hwell (types_eq h.entries)) h.type_lt
  rw [← hentries] at hknown honce
  exact ⟨hentries ▸ h.names, hknown, honce⟩

/-- It refuses the one that the loader does not create. -/
theorem SameDefinition.refusesFixture {text text' : Nat → Wstr} {f : TestFixture} {hr : HRESULT}
    (h : SameDefinition R text text' d d') (hentries : f.entries = d'.entries.map (definitionEntry text'))
    (hfirst : FirstViolation AnyEntry d.entries hr) : ∃ hr', RefusesFixture f hr' ∧ SameRefusal hr hr' := by
  obtain ⟨pre, e, post, hr', hsplit, htakes, hrefuses, hsame⟩ :=
    refuses_of_firstViolation text' (firstViolation_congr hfirst (types_eq h.entries)) h.type_lt
  refine ⟨hr', ⟨fun x hx => ?_, pre, e, post, hentries.trans hsplit, htakes, hrefuses⟩, hsame⟩
  exact (h.names x (hentries ▸ hx)).2

/-- **The same fixture.** -/
theorem SameDefinition.sameLoaded {text' : Nat → Wstr} {a : TestAdapter} {i : Nat} {f : TestFixture} {g : KernelFixture}
    {f₀ : PeFixture.Fixture} (h : SameDefinition R inside.text text' d d')
    (hname : f.fixtureName.chars = widen name.chars) (hentries : f.entries = d'.entries.map (definitionEntry text'))
    (hf₀ : FixtureOf inside.page.decode (PeFixture.exportName w name) testModule d f₀)
    (hwell : WellFormedEntries d.entries) (hf : a.fixtures[i]? = some f) (hg : ClientOf i f g) :
    SameLoaded R inside.text a f₀ g := by
  have hd := h.describable hentries hwell
  have hsame := hg.sameFixture hd hf
  have htype : ∀ e ∈ d'.entries, (definitionEntry text' e).type.toNat = e.type :=
    fun e he => type_definitionEntry text' (h.type_lt e he)
  have hnone : ∀ s : Special, (∀ e ∈ d.entries, e.type ≠ s.entryType) → g.routine s.entryType = 0 := by
    intro s hnone
    rw [hg.routine _ (isSpecial_entryType s)]
    apply specialRoutine_absent
    intro e he
    obtain ⟨e', he', rfl⟩ := List.mem_map.mp (hentries ▸ he)
    obtain ⟨e₀, he₀, hsame⟩ := forall₂_mem h.entries he'
    rw [htype e' he', ← hsame.type]
    exact hnone e₀ he₀
  have hsome : ∀ (s : Special) (e : PeFixture.DefinitionEntry), e ∈ d.entries → e.type = s.entryType →
      g.routine s.entryType &&& cfixklpRoutinePresent ≠ 0 ∧
        CallsSame R a g.fixtureKey (specialRoutineKey (g.routine s.entryType)) e.routine := by
    intro s e he hes
    obtain ⟨e', he', hsame'⟩ := forall₂_mem h.entries.flip he
    have hmem : definitionEntry text' e' ∈ f.entries := by
      rw [hentries]
      exact List.mem_map_of_mem he'
    have htype' : (definitionEntry text' e').type.toNat = s.entryType := by
      rw [htype e' he', ← hsame'.type, hes]
    refine ⟨(hsame.present _ (isSpecial_entryType s)).mpr ⟨_, hmem, htype'⟩, e'.routine, ?_, hsame'.routine⟩
    have hkey := hsame.special _ hmem (by rw [htype']; exact isSpecial_entryType s)
    rwa [htype'] at hkey
  refine ⟨?_, ?_, ?_, ?_⟩
  · rw [hsame.name, hname, hf₀.name, PeFixture.drop_exportName, PeFixture.unmangleName_decode]
  · -- the test cases are those of the entries, in their order
    have hfilter : List.Forall₂ (SameEntry R inside.text text')
        (d.entries.filter fun e => e.type = cfixEntryTypeTestcase)
        (d'.entries.filter fun e => e.type = cfixEntryTypeTestcase) := by
      apply List.rel_filter _ h.entries
      intro e e' he
      show decide (e.type = _) = true ↔ decide (e'.type = _) = true
      rw [he.type]
    have hdriver : f.entries.filter DefinitionEntry.isTestcase =
        (d'.entries.filter fun e => e.type = cfixEntryTypeTestcase).map (definitionEntry text') := by
      rw [hentries, List.filter_map]
      apply congrArg
      apply List.filter_congr
      intro e he
      show ((definitionEntry text' e).type.toNat == _) = decide (e.type = _)
      rw [htype e he]
      rfl
    have hclient := hsame.testCases
    rw [hdriver, List.forall₂_map_right_iff] at hclient
    rw [hf₀.testCases, PeFixture.testCasesOf, List.forall₂_map_left_iff]
    apply (forall₂_comp hfilter hclient.flip).imp
    rintro e tc ⟨e', -, he, hstring, hroutine⟩
    exact ⟨hstring.trans he.name.symm, he.routine_ne, e'.routine, hroutine, he.routine⟩
  · intro s hzero
    rcases hf₀.routines s with ⟨e, he, hes, hroutine⟩ | ⟨-, hnone'⟩
    · obtain ⟨e', -, hsame'⟩ := forall₂_mem h.entries.flip he
      exact absurd (hroutine.trans hzero) hsame'.routine_ne
    · exact hnone s hnone'
  · intro s hne
    rcases hf₀.routines s with ⟨e, he, hes, hroutine⟩ | ⟨hzero, -⟩
    · rw [← hroutine]
      exact hsome s e he hes
    · exact absurd hzero hne

/-! ## The way of all fixtures -/

theorem createdFrom_forall₂ {φ : Type} {create : Nat → Export → Except HRESULT φ} {Q : Turn → φ → Prop} {k : Nat}
    {ts : List Turn} {fs : List φ} (h : CreatedFrom create k ts fs)
    (hQ : ∀ k, ∀ t ∈ ts, ∀ f, create k t.passed = .ok f → Q t f) : List.Forall₂ Q ts fs := by
  induction h with
  | nil => exact .nil
  | cons hcreate _ ih =>
      exact .cons (hQ _ _ List.mem_cons_self _ hcreate) (ih fun k t ht => hQ k t (List.mem_cons_of_mem _ ht))

/-- The fixture of the adapter for a turn of the loader. -/
def StandsFor (R : Nat → Nat → Prop) (inside : ModuleCode w) (outside : ModuleCode w') (t : Turn) (f : DriverFixture) :
    Prop :=
  ∃ t' name d d', SameExport R inside outside t t' name d d' ∧ Stands outside.text f name d'

/-- The fixture that the loader has created in a turn. -/
def CreatedFor (R : Nat → Nat → Prop) (inside : ModuleCode w) (outside : ModuleCode w') (testModule : Nat) (t : Turn)
    (f : PeFixture.Fixture) : Prop :=
  ∀ t' name d d', SameExport R inside outside t t' name d d' →
    FixtureOf inside.page.decode (PeFixture.exportName w name) testModule d f ∧ WellFormedEntries d.entries

theorem ModuleCode.Loads.createdFor (h : inside.Loads testModule host turns) (ht : t ∈ turns) {k : Nat}
    {f : PeFixture.Fixture} (hf : host.create k t.passed = .ok f) : CreatedFor R inside outside testModule t f := by
  intro t' name d d' hsame
  rcases hsame.create h ht k with ⟨f', hf', hfixture, hwell⟩ | ⟨hr, herror, -⟩
  · obtain rfl := Except.ok.inj (hf.symm.trans hf')
    exact ⟨hfixture, hwell⟩
  · rw [hf] at herror
    cases herror

/-- **The adapter** has a fixture for each turn of the loader. -/
theorem createTestAdapter_standsFor {file' image' : Mem} {fileSize' : Nat} {pool : Nat → Bool}
    (h' : ValidExports w' file' fileSize') (hloaded' : Loaded file' image') (hpool : PoolGives w' image' pool)
    (hsame : List.Forall₂ (SameTurn R inside outside) turns (walkedTurns w' image'))
    (hinit : outside.Initializes khost (walkedTurns w' image')) (hmany : turns.length < 2 ^ 16) :
    ∃ a : TestAdapter, createTestAdapter w' image' pool khost = .ok ⟨statusSuccess, some a.driver, 2⟩ ∧
      List.Forall₂ (fun t f => StandsFor R inside outside t f.driver) turns a.fixtures := by
  -- all exports of the DLL that are this one have the same name and the same definition
  let P : Turn → DriverFixture → Prop := fun t' f =>
    ∀ t name d d', SameExport R inside outside t t' name d d' → Stands outside.text f name d'
  have hall : ∀ k, ∀ t' ∈ walkedTurns w' image', ∃ f, khost.initializeFixture k t'.passed = .ok f ∧ P t' f := by
    intro k t' ht'
    obtain ⟨t, -, name, d, d', hexport⟩ := forall₂_mem hsame ht'
    obtain ⟨f, hf, -⟩ := hexport.initialize hinit ht' k
    refine ⟨f, hf, fun t name d d' hexport => ?_⟩
    obtain ⟨f', hf', hstands⟩ := hexport.initialize hinit ht' k
    obtain rfl := Except.ok.inj (hf.symm.trans hf')
    exact hstands
  obtain ⟨adapter, hcreate, hfixtures⟩ := createTestAdapter_ok h' hloaded' hpool hall
  have hstands : List.Forall₂ (StandsFor R inside outside) turns adapter.fixtures := by
    apply (forall₂_comp hsame hfixtures).imp
    rintro t f ⟨t', -, ⟨name, d, d', hexport⟩, hP⟩
    exact ⟨t', name, d, d', hexport, hP t name d d' hexport⟩
  have hcounts : adapter.CountsFit := by
    refine ⟨hstands.length_eq ▸ hmany, fun f hf => ?_⟩
    obtain ⟨t, -, t', name, d, d', hexport, hstands⟩ := forall₂_mem hstands hf
    have hlt := hexport.definition.entries_lt
    rw [hstands.entries, List.length_map, ← hexport.definition.entries.length_eq]
    exact hlt
  obtain ⟨a, rfl⟩ := hcounts.exists
  refine ⟨a, hcreate, ?_⟩
  have hdriver : a.driver.fixtures = a.fixtures.map TestFixture.driver := rfl
  rwa [hdriver, List.forall₂_map_right_iff] at hstands

section

variable {a : TestAdapter} {m : Mem} {ioModule : Nat} {heap : ClientHeap}

/-- All fixtures have been created: the client takes them all. -/
theorem sameModule_loaded {fs : List PeFixture.Fixture} (wc : Width)
    (hstands : List.Forall₂ (fun t f => StandsFor R inside outside t f.driver) turns a.fixtures)
    (hcreated : List.Forall₂ (CreatedFor R inside outside testModule) turns fs) (hstored : ModuleStored m ioModule a)
    (hheap : heap.Gives a.fixtures.length) :
    SameModule R inside.text a ⟨sOk, some fs, fs, true, turns⟩ (initializeModule wc heap m ioModule) := by
  have hpairs := forall₂_comp hcreated.flip hstands
  have hd : ∀ f ∈ a.fixtures, f.Describable := by
    intro f hf
    obtain ⟨f₀, -, t, -, hfor, t', name, d, d', hexport, hstand⟩ := forall₂_mem hpairs hf
    exact hexport.definition.describable hstand.entries (hfor t' name d d' hexport).2
  have hspec := createFixtures_spec wc heap hd hstored.fixtures
  rw [initializeModule, hheap.1, hstored.count]
  simp only [Bool.not_true, Bool.false_eq_true, if_false]
  cases hgs : createFixtures wc heap m ioModule a.fixtures.length 0 with
  | error hr =>
      rw [hgs] at hspec
      obtain ⟨-, i, hi, hnone⟩ := hspec
      exact absurd hnone (hheap.2 i (by omega))
  | ok gs =>
      rw [hgs] at hspec
      have hclients : List.Forall₂ (fun f g => ∃ i, a.fixtures[i]? = some f ∧ ClientOf i f g) a.fixtures gs := by
        have hboth := (List.forall₂_and_left _ _).mpr
          ⟨fun p (hp : p ∈ a.fixtures.zipIdx) => List.mk_mem_zipIdx_iff_getElem?.mp hp, hspec.flip⟩
        have hmap : List.Forall₂ (fun f g => ∃ i, a.fixtures[i]? = some f ∧ ClientOf i f g)
            (a.fixtures.zipIdx.map Prod.fst) gs := by
          rw [List.forall₂_map_left_iff]
          apply hboth.imp
          rintro ⟨f, i⟩ g ⟨hf, hclient⟩
          exact ⟨i, hf, hclient⟩
        rwa [List.zipIdx_map_fst] at hmap
      refine .loaded ((forall₂_comp hpairs hclients).imp ?_)
      rintro f₀ g ⟨f, -, ⟨t, -, hfor, t', name, d, d', hexport, hstand⟩, i, hf, hg⟩
      obtain ⟨hf₀, hwell⟩ := hfor t' name d d' hexport
      exact hexport.definition.sameLoaded hstand.name hstand.entries hf₀ hwell hf hg

/-- A fixture has not been created: the client refuses it, and takes those in front of it. -/
theorem sameModule_refused {pre post : List Turn} {fs : List PeFixture.Fixture} {hr : HRESULT} {k : Nat} (wc : Width)
    (hstands : List.Forall₂ (fun t f => StandsFor R inside outside t f.driver) (pre ++ t :: post) a.fixtures)
    (hloads : inside.Loads testModule host (pre ++ t :: post))
    (hcreated : List.Forall₂ (CreatedFor R inside outside testModule) pre fs)
    (herror : host.create k t.passed = .error hr) (hstored : ModuleStored m ioModule a)
    (hheap : heap.Gives a.fixtures.length) :
    SameModule R inside.text a ⟨hr, none, [], false, pre ++ [t]⟩ (initializeModule wc heap m ioModule) := by
  have htake := List.forall₂_take_append _ _ _ hstands.flip
  have hdrop := List.forall₂_drop_append _ _ _ hstands.flip
  obtain ⟨f, rest, hfor, -, hsplit⟩ := List.forall₂_cons_right_iff.mp hdrop
  have hfixtures : a.fixtures.take pre.length ++ f :: rest = a.fixtures := by
    rw [← hsplit, List.take_append_drop]
  have hd : ∀ x ∈ a.fixtures.take pre.length, x.Describable := by
    intro x hx
    obtain ⟨t', ht', hfor⟩ := forall₂_mem htake.flip hx
    obtain ⟨f₀, -, hcreated⟩ := forall₂_mem hcreated.flip ht'
    obtain ⟨t'', name, d, d', hexport, hstand⟩ := hfor
    exact hexport.definition.describable hstand.entries (hcreated t'' name d d' hexport).2
  obtain ⟨t', name, d, d', hexport, hstand⟩ := hfor
  have hmem : t ∈ pre ++ t :: post := List.mem_append_right _ List.mem_cons_self
  rcases hexport.create hloads hmem k with ⟨f₀, hf₀, -⟩ | ⟨hr₀, hr₀eq, hfirst⟩
  · rw [herror] at hf₀
    cases hf₀
  · obtain rfl := Except.error.inj (herror.symm.trans hr₀eq)
    obtain ⟨hr', hrefuses, hsame⟩ := hexport.definition.refusesFixture (f := f) hstand.entries hfirst
    have hlength : (a.fixtures.take pre.length).length + 1 ≤ a.fixtures.length := by
      have hboth := congrArg List.length hfixtures
      rw [List.length_append, List.length_cons] at hboth
      omega
    have hall := hstored.fixtures
    rw [← hfixtures] at hall
    have hclient := createFixtures_refused wc heap hd hrefuses hall (fun i hi => hheap.2 i (by omega))
    rw [hfixtures] at hclient
    rw [initializeModule, hheap.1, hstored.count]
    simp only [Bool.not_true, Bool.false_eq_true, if_false, hclient]
    exact .refused hsame

end

/-- **One module, two loaders.** The exports of a DLL and of a driver are the same fixtures, in the same order. Then the
    driver gets an adapter, and it answers the query for its description if there is enough room. Wherever this
    description has been copied to, the client that reads it refuses the module if and only if the loader does, because of
    the same violation; otherwise both have the same fixtures. -/
theorem loaders_agree {file image file' image' : Mem} {fileSize fileSize' : Nat} {pool : Nat → Bool}
    (h : ValidExports w file fileSize) (hloaded : Loaded file image)
    (h' : ValidExports w' file' fileSize') (hloaded' : Loaded file' image')
    (hsame : List.Forall₂ (SameTurn R inside outside) (walkedTurns w image) (walkedTurns w' image'))
    (hmany : (walkedTurns w image).length < 2 ^ 16) (hloads : inside.Loads testModule host (walkedTurns w image))
    (hinit : outside.Initializes khost (walkedTurns w' image')) (hpool : PoolGives w' image' pool) :
    ∃ (r : LoadedModule PeFixture.Fixture) (a : TestAdapter), loadFixturesFromPeImage w image host = .ok r ∧
      createTestAdapter w' image' pool khost = .ok ⟨statusSuccess, some a.driver, 2⟩ ∧
      ∀ (maximumBufferSize : BitVec 32) (m : Mem) (ioBuffer : Nat), a.size < 2 ^ 32 → a.size ≤ maximumBufferSize.toNat →
        ∃ m₁, a.driver.queryModule (2 ^ 16) maximumBufferSize m ioBuffer = some ⟨statusSuccess, m₁, a.size⟩ ∧
          ∀ (m' : Mem) (ioModule : Nat) (wc : Width) (heap : ClientHeap), Same m₁ ioBuffer m' ioModule a.size →
            heap.Gives a.fixtures.length → SameModule R inside.text a r (initializeModule wc heap m' ioModule) := by
  have hmax : (walkedTurns w image).length ≤ maxFixtures w := by
    refine Nat.le_trans (Nat.le_of_lt hmany) ?_
    cases w <;> decide
  obtain ⟨r, hr, hturns⟩ := loader_spec h hloaded host hmax
  obtain ⟨a, ha, hstands⟩ := createTestAdapter_standsFor h' hloaded' hpool hsame hinit hmany
  refine ⟨r, a, hr, ha, fun maximumBufferSize m ioBuffer hlt hroom => ?_⟩
  have hfit : ∀ f ∈ a.fixtures, NamesFit f.entries := by
    intro f hf e he
    obtain ⟨t, -, t', name, d, d', hexport, hstand⟩ := forall₂_mem hstands hf
    exact (hexport.definition.names e (hstand.entries ▸ he)).2
  obtain ⟨m₁, hquery, hstored, -⟩ := queryModuleTestAdapter_spec m ioBuffer hfit hlt hroom
  refine ⟨m₁, by rw [queryModule_driver, hquery], fun m' ioModule wc heap hcopy hheap => ?_⟩
  have hstored' : ModuleStored m' ioModule a := hstored.congr hcopy
  cases hturns with
  | loaded _ hcreated _ =>
      exact sameModule_loaded wc hstands (createdFrom_forall₂ hcreated fun k t ht f hf => hloads.createdFor ht hf) hstored'
        hheap
  | @failed pre post t fixtures code _ hsplit hcreated _ hfails =>
      have herror : host.create pre.length t.passed = .error code := by
        rcases hfails with ⟨⟨-, hrealloc⟩, -⟩ | ⟨-, herror⟩
        · rw [hloads.realloc] at hrealloc
          cases hrealloc
        · exact herror
      rw [hsplit] at hstands hloads
      exact sameModule_refused wc hstands hloads (createdFrom_forall₂ hcreated fun k t ht f hf =>
        hloads.createdFor (List.mem_append_left _ ht) hf) herror hstored' hheap
  | noMemory hmalloc =>
      rw [hloads.malloc] at hmalloc
      cases hmalloc

end

/-! ## The runners -/

/-- A fixture as the runners see it has these routines. -/
structure Presents (x : Cfix.Fixture) (routine : Special → Nat) (testRoutines : List Nat) : Prop where
  setup     : x.setupRoutine = routine .setup
  teardown  : x.teardownRoutine = routine .teardown
  before    : x.beforeRoutine = routine .before
  after     : x.afterRoutine = routine .after
  testCases : x.testCases.map (·.routine) = testRoutines

/-- **The runners run the same fixture.** -/
theorem SameLoaded.sameFixture {R : Nat → Nat → Prop} {text : Nat → Wstr} {a : TestAdapter} {f : PeFixture.Fixture}
    {g : KernelFixture} (h : SameLoaded R text a f g) {x k : TsexecAction}
    (hx : Presents x.fixture f.routine (f.testCases.map (·.routine)))
    (hk : Presents k.fixture (fun s => g.routine s.entryType) (g.testCases.map (·.routine)))
    (hindex : x.testCaseIndex = k.testCaseIndex) : Cfix.SameFixture x k := by
  have hlengths : x.fixture.testCases.length = k.fixture.testCases.length := by
    have hinside := congrArg List.length hx.testCases
    have houtside := congrArg List.length hk.testCases
    rw [List.length_map, List.length_map] at hinside houtside
    rw [hinside, houtside, h.testCases.length_eq]
  have hspecial : ∀ s : Special, f.routine s ≠ 0 ↔ g.routine s.entryType &&& cfixklpRoutinePresent ≠ 0 := by
    intro s
    refine ⟨fun hne => (h.present s hne).1, fun hpresent hzero => hpresent ?_⟩
    rw [h.absent s hzero, Nat.zero_and]
  refine ⟨hlengths, hindex, ?_, ?_⟩
  · intro r hr
    cases r with
    | setup =>
        -- the client's runner tests the whole value
        show x.fixture.setupRoutine ≠ 0 ↔ (k.fixture.setupRoutine &&& k.fixture.setupRoutine != 0) = true
        rw [hx.setup, hk.setup, Nat.and_self, bne_iff_ne]
        refine ⟨fun hne hzero => (h.present .setup hne).1 ?_, fun hne hzero => hne (h.absent .setup hzero)⟩
        rw [hzero, Nat.zero_and]
    | teardown =>
        show x.fixture.teardownRoutine ≠ 0 ↔ (k.fixture.teardownRoutine &&& cfixklpRoutinePresent != 0) = true
        rw [hx.teardown, hk.teardown, bne_iff_ne]
        exact hspecial .teardown
    | before i =>
        show x.fixture.beforeRoutine ≠ 0 ↔ (k.fixture.beforeRoutine &&& cfixklpRoutinePresent != 0) = true
        rw [hx.before, hk.before, bne_iff_ne]
        exact hspecial .before
    | after i =>
        show x.fixture.afterRoutine ≠ 0 ↔ (k.fixture.afterRoutine &&& cfixklpRoutinePresent != 0) = true
        rw [hx.after, hk.after, bne_iff_ne]
        exact hspecial .after
    | test i => exact absurd rfl (hr i)
  · intro i hi hzero
    have hmem : x.fixture.testCases[i].routine ∈ f.testCases.map (·.routine) := by
      rw [← hx.testCases]
      exact List.mem_map_of_mem (List.getElem_mem hi)
    obtain ⟨tc, htc, hroutine⟩ := List.mem_map.mp hmem
    obtain ⟨tc', -, -, hne, -⟩ := forall₂_mem h.testCases.flip htc
    apply hne
    rw [hroutine]
    rw [Fixture.routine, TestCaseRef.routine, List.getElem?_eq_getElem hi] at hzero
    exact hzero

/-! ## A module with one fixture -/

/-- The module of `forwarderFile`, whose export is at 0x2000. -/
def fixtureFile : Mem := store 4 forwarderFile 288 0x2000

theorem validExports_fixtureFile : ValidExports .w64 fixtureFile 344 where
  dosSignature := by decide +kernel
  ntSignature  := by decide +kernel
  magic        := by decide +kernel
  ntHeaders    := by decide +kernel
  optional     := by decide +kernel
  table        := by decide +kernel
  size         := by decide +kernel
  sections     := by decide +kernel
  ascending    := by decide +kernel
  exports      := by
    right
    refine ⟨by decide +kernel, ?_, ?_, ?_⟩
    · decide +kernel
    · decide +kernel
    · intro i hi
      have hone : (fileExports .w64 fixtureFile).numberOfNames = 1 := by decide +kernel
      have hlt : i < (fileExports .w64 fixtureFile).numberOfNames := hi
      rw [hone] at hlt
      obtain rfl : i = 0 := by omega
      exact ⟨16, by decide +kernel, by decide +kernel⟩
  present      := by decide +kernel
  directory    := by decide +kernel
  ordinalArray := by decide +kernel
  ordinals     := by decide +kernel

theorem walkedTurns_fixtureFile : walkedTurns .w64 (mapImage fixtureFile) = [⟨0, ⟨0x1032, 0x2000⟩⟩] := by
  decide +kernel

/-- A setup routine and a test case. -/
def sampleDefinition : Definition where
  type     := 1#4
  flags    := 0#12
  revision := 0#16
  entries  := [⟨1, 0x100, 0x3000⟩, ⟨3, 0x200, 0x3100⟩]
  ne_end   := by decide

def sampleName : FixtureName where
  chars      := [0x58]
  identifier := ⟨rfl, fun _ h => nomatch h⟩
  length_lt  := by decide

def sampleText (a : Nat) : Wstr := if a = 0x100 then .ofBuffer [0x53#16] else .ofBuffer [0x54#16]

/-- The module, whose routines are moved by this many bytes. -/
def sampleCode : ModuleCode .w64 where
  page       := PeFixture.latin1
  exportName := fun _ => PeFixture.exportName .w64 sampleName
  testDef    := fun _ => some sampleDefinition
  text       := sampleText

theorem sampleDefinition_same : SameDefinition (· = ·) sampleText sampleText sampleDefinition sampleDefinition where
  base       := ⟨rfl, rfl, rfl⟩
  base'      := ⟨rfl, rfl, rfl⟩
  entries    := by
    rw [List.forall₂_same]
    intro e he
    rcases List.mem_pair.mp he with rfl | rfl
    · exact ⟨rfl, by decide, rfl, by decide, by decide, rfl, by decide⟩
    · exact ⟨rfl, by decide, rfl, by decide, by decide, rfl, by decide⟩
  entries_lt := by decide

theorem sampleName_fits : NameFits PeFixture.latin1.decode (PeFixture.exportName .w64 sampleName) :=
  show (PeFixture.latin1.decode [0x58]).length < cfixMaxFixtureNameCch by decide

def sampleFixture : PeFixture.Fixture where
  name            := PeFixture.unmangleName (PeFixture.latin1.decode [0x58])
  setupRoutine    := 0x3000
  teardownRoutine := 0
  beforeRoutine   := 0
  afterRoutine    := 0
  reserved        := 0
  apiType         := 1
  flags           := 0#32
  testModule      := 0
  testCases       := [⟨0x200, 0x3100⟩]

def sampleDriverFixture : DriverFixture where
  fixtureName := ⟨[0x58#16], by decide⟩
  entries     := sampleDefinition.entries.map (definitionEntry sampleText)
  name_lt     := by decide
  entries_lt  := by decide

def sampleHost : LoadHost PeFixture.Fixture where
  dbg           := false
  malloc        := fun _ => true
  realloc       := fun _ => true
  create        := fun _ _ => .ok sampleFixture
  create_failed := fun _ _ _ h => by cases h

def sampleKernelHost : KernelHost DriverFixture where
  initializeFixture        := fun _ _ => .ok sampleDriverFixture
  initializeFixture_failed := fun _ _ _ h => by cases h

theorem sampleCode_loads (turns : List Turn) : sampleCode.Loads 0 sampleHost turns where
  malloc  := fun _ => rfl
  realloc := fun _ => rfl
  create  := by
    intro k t ht fuel r h
    have htype : PeFixture.ApiTypeSupported sampleDefinition := ⟨by decide, by decide⟩
    have hfuel := (PeFixture.createFixture_some htype h).2
    have hcreated : PeFixture.createFixture .w64 PeFixture.latin1.decode (fun _ => true) fuel
        (PeFixture.exportName .w64 sampleName) 0 (some sampleDefinition) = some (.ok ⟨sOk, some sampleFixture, 1⟩) := by
      rw [PeFixture.createFixture_counted _ _ _ _ htype (by decide) hfuel]
      rfl
    obtain rfl := Except.ok.inj (Option.some.inj (hcreated.symm.trans h))
    rfl

theorem sampleCode_initializes (turns : List Turn) : sampleCode.Initializes sampleKernelHost turns := by
  intro k t ht fuel r h
  have hcounted : PeFixture.countEntries sampleDefinition.entries fuel 0#32 = if 2 < fuel then some 2#32 else none :=
    PeFixture.countEntries_eq (by decide) fuel 0 (Nat.zero_le _)
  have hresult : initializeFixture PeFixture.latin1.decode sampleText fuel (PeFixture.exportName .w64 sampleName)
      (some sampleDefinition) = (PeFixture.countEntries sampleDefinition.entries fuel 0#32).map fun n =>
        .ok (driverFixture sampleText ⟨PeFixture.latin1.decode [0x58], by decide⟩ n sampleDefinition) := rfl
  rw [hcounted] at hresult
  split at hresult
  · obtain rfl := Option.some.inj (hresult.symm.trans h)
    rfl
  · cases hresult.symm.trans h

/-- The setup routine and the test case of the DLL are those of the driver. -/
theorem loaders_agree_sample :
    ∃ r a, loadFixturesFromPeImage .w64 (mapImage fixtureFile) sampleHost = .ok r ∧
      createTestAdapter .w64 (mapImage fixtureFile) (fun _ => true) sampleKernelHost =
        .ok ⟨statusSuccess, some (TestAdapter.driver a), 2⟩ ∧ r.testModule = some [sampleFixture] ∧
      ∀ (maximumBufferSize : BitVec 32) (m : Mem) (ioBuffer : Nat), a.size < 2 ^ 32 → a.size ≤ maximumBufferSize.toNat →
        ∃ m₁, a.driver.queryModule (2 ^ 16) maximumBufferSize m ioBuffer = some ⟨statusSuccess, m₁, a.size⟩ ∧
          ∀ heap : ClientHeap, heap.Gives a.fixtures.length →
            SameModule (· = ·) sampleText a r (initializeModule .w64 heap m₁ ioBuffer) := by
  have hturns := walkedTurns_fixtureFile
  have hloaded := loaded_mapImage fixtureFile
  have hexport : List.Forall₂ (SameTurn (· = ·) sampleCode sampleCode) (walkedTurns .w64 (mapImage fixtureFile))
      (walkedTurns .w64 (mapImage fixtureFile)) := by
    rw [List.forall₂_same]
    intro t _
    exact ⟨sampleName, sampleDefinition, sampleDefinition, rfl, rfl, rfl, rfl, sampleName_fits, sampleName_fits,
      sampleDefinition_same⟩
  have hpool : PoolGives .w64 (mapImage fixtureFile) (fun _ => true) := ⟨fun _ => rfl, by decide +kernel⟩
  obtain ⟨r, a, hr, ha, hagree⟩ := loaders_agree validExports_fixtureFile hloaded validExports_fixtureFile hloaded hexport
    (by rw [hturns]; decide) (sampleCode_loads _) (sampleCode_initializes _) hpool
  refine ⟨r, a, hr, ha, ?_, fun maximumBufferSize m ioBuffer hlt hroom => ?_⟩
  · obtain ⟨r', hr', hloads⟩ := loader_spec validExports_fixtureFile hloaded sampleHost (by rw [hturns]; decide)
    obtain rfl := Except.ok.inj (hr.symm.trans hr')
    rw [hturns] at hloads
    cases hloads with
    | loaded _ hcreated _ =>
        cases hcreated with
        | cons hcreate hrest =>
            cases hrest
            cases hcreate
            rfl
    | failed _ _ _ _ hfails =>
        rcases hfails with ⟨⟨-, hrealloc⟩, -⟩ | ⟨-, hcreate⟩
        · cases hrealloc
        · cases hcreate
    | noMemory hmalloc => cases hmalloc
  · obtain ⟨m₁, hquery, hclient⟩ := hagree maximumBufferSize m ioBuffer hlt hroom
    exact ⟨m₁, hquery, fun heap hheap => hclient m₁ ioBuffer .w64 heap (fun _ _ => rfl) hheap⟩

end Cfix.TestModule
