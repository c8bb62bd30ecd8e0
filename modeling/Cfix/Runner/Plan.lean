import Cfix.Cfixutil.FileVisits
import Cfix.Fixture.Policy
import Cfix.Fixture.Sequence
import Cfix.Runner.Selection

/-!
# `Runner.Plan` — what a run consists of (`cfixrun/runtest.c`, `fixturesearch.c`, `dllsearch.c`, `displayaction.c`)

The modules below the input file are loaded one after another, and each of their fixtures that the filter accepts
becomes an action of a sequence, to run the fixture or to display it. Memory may run out at any point. A sequence that
is handed out is determined by the files, the modules and the options: it has exactly what is asked for.
-/

namespace Cfix.Plan

open Cdiag (CString WCHAR wide)
open CommandLine (Options)
open Selection (FilterOptions LoadedFixture ULONG filterCch filterFixtureByName chosen Matches)
open Cfixutil (FileSystem VisitRoutine Quiet Fault cfixutilSearch visitFiles)

/-! ## Modules and actions -/

/-- `CFIXRUN_MODULE_TYPE`. -/
inductive ModuleType where
  | dll
  | sys
  deriving DecidableEq, Repr

/-- `CFIX_TEST_MODULE`. -/
structure TestModule where
  name     : String
  fixtures : List LoadedFixture

/-- The actions of the runner, with the module of the fixture, which they reference. -/
inductive PlannedAction where
  | execution (module : TestModule) (action : TsexecAction)
  | display (module : TestModule) (fixture : Fixture)

/-- What `CfixrunpAssembleExecutionAction` and `CfixrunpAssembleDisplayAction` depend on. -/
structure Setting where
  options    : Options
  /-- The parser does not take empty values. -/
  filled     : ∀ text, options.value .fixturePrefix = some text → text.length ≠ 0
  /-- The case mappings of `_wcsicmp` and `StrStrI`. -/
  lower      : WCHAR → WCHAR
  fold       : WCHAR → WCHAR
  files      : FileSystem
  /-- `CfixCreateTestModuleFromPeImage` and `CfixklCreateTestModuleFromDriver`. -/
  load       : ModuleType → CString → Except HRESULT TestModule
  fails      : ∀ type path hr, load type path = .error hr → failed hr = true
  /-- `CfixCreateTestModule` for the executable. -/
  executable : Except HRESULT TestModule
  execFails  : ∀ hr, executable = .error hr → failed hr = true
  /-- Whether there is memory for an allocation, by its number. -/
  malloc     : Nat → Bool

def Setting.filter (s : Setting) : FilterOptions where
  fixture       := s.options.value .fixture
  fixturePrefix := s.options.value .fixturePrefix
  nonempty      := s.filled

/-- The sequence as far as it has been assembled. -/
structure Assembly where
  entries      : List PlannedAction
  fixtureCount : ULONG
  allocations  : Nat

def Assembly.empty : Assembly where
  entries      := []
  fixtureCount := 0#32
  -- the sequence action has been allocated
  allocations  := 1

/-! ## The actions of fixtures -/

/-- `CFIXRUNP_CREATE_ACTION_ROUTINE`; the last argument says whether there is memory. -/
abbrev CreateActionRoutine := TestModule → LoadedFixture → ULONG → Bool → Except HRESULT PlannedAction

/-- The flags of `CfixrunsCreateTsExecAction`. -/
def executionFlags (o : Options) : BitVec 32 :=
  let flags := if !o.switch .disableStackTraces then fixtureExecutionCaptureStackTraces else 0#32
  let flags := if o.switch .shortCircuitFixtureOnFailure then flags ||| fixtureExecutionShortcircuitFixtureOnFailure
    else flags
  let flags := if o.switch .shortCircuitRunOnFailure then flags ||| fixtureExecutionShortcircuitRunOnFailure else flags
  if o.switch .shortCircuitRunOnSetupFailure then flags ||| fixtureExecutionShortcircuitRunOnSetupFailure else flags

/-- `CfixrunsCreateTsExecAction`. -/
def createTsExecAction (o : Options) : CreateActionRoutine := fun module fixture testCase memory =>
  (createFixtureExecutionAction fixture.toFixture (executionFlags o) (chosen testCase) memory).map (.execution module)

/-- `CfixrunsCreateDisplayAction`, which ignores the test case, and `CfixrunpCreateDisplayAction`. -/
def createDisplayAction : CreateActionRoutine := fun module fixture _ memory =>
  if memory then .ok (.display module fixture.toFixture) else .error eOutofmemory

section

variable (s : Setting) (create : CreateActionRoutine)

/-- An iteration of the loop: the fixture is filtered, and its action is created and added to the sequence. -/
def addFixture (module : TestModule) (fixture : LoadedFixture) (a : Assembly) : HRESULT × Assembly :=
  match filterFixtureByName s.lower s.fold s.filter fixture.toFixture with
  | (false, _)       => (sOk, a)
  | (true, testCase) =>
    match create module fixture testCase (s.malloc a.allocations) with
    | .error hr  => (hr, { a with allocations := a.allocations + 1 })
    | .ok action =>
      let a := { a with fixtureCount := a.fixtureCount + 1, allocations := a.allocations + 1 }
      -- CfixAddEntrySequenceAction
      if s.malloc a.allocations then
        (sOk, { a with entries := a.entries ++ [action], allocations := a.allocations + 1 })
      else (eOutofmemory, { a with allocations := a.allocations + 1 })

/-- `CfixrunsAddFixturesOfModuleToSequenceAction`, from a fixture on. -/
def addFixturesOfModule (module : TestModule) : List LoadedFixture → Assembly → HRESULT × Assembly
  | [],              a => (sOk, a)
  | fixture :: rest, a =>
    match addFixture s create module fixture a with
    | (hr, a) => if failed hr then (hr, a) else addFixturesOfModule module rest a

/-! ## The search -/

/-- `CfixrunsAddFixturesOfDllToSequenceAction`. -/
def addFixturesOfDll (path : CString) (type : ModuleType) (searchPerformed : Bool) (a : Assembly) :
    HRESULT × Assembly :=
  match s.load type path with
  | .error hr  => (if searchPerformed then sOk else hr, a)
  | .ok module => addFixturesOfModule s create module module.fixtures a

/-- `CfixrunpIsDll` and `CfixrunpIsSys`. -/
def hasExtension (extension : String) (path : CString) : Bool :=
  4 < path.length && (path.chars.drop (path.length - 4)).map s.lower == (wide extension).chars.map s.lower

/-- What `CfixrunsVisit` takes a file for. -/
def moduleType (path : CString) : Option ModuleType :=
  if hasExtension s ".dll" path then some .dll
  else if s.options.switch .enableKernelFeatures && hasExtension s ".sys" path then some .sys
  else none

/-- `CfixrunsVisit`. -/
def visit : VisitRoutine Assembly := fun c a =>
  if c.type ≠ .file then (sOk, a)
  else
    match moduleType s c.path with
    | some type => addFixturesOfDll s create c.path type c.searchPerformed a
    | none      => (sOk, a)

/-! ## The sequence -/

/-- What an assembling function returns: its result, the sequence action and `*FixtureCount`. -/
structure Assembled where
  hr           : HRESULT
  action       : Option (List PlannedAction)
  fixtureCount : ULONG

/-- A sequence that could not be completed is given back. -/
def Assembly.finish (hr : HRESULT) (a : Assembly) : Assembled where
  hr           := if failed hr then hr else sOk
  action       := if failed hr then none else some a.entries
  fixtureCount := a.fixtureCount

/-- There is no sequence. -/
def Assembled.none (hr : HRESULT) : Assembled where
  hr           := hr
  action       := Option.none
  fixtureCount := 0#32

/-- `CfixrunpAssembleExecutionAction` and `CfixrunpAssembleDisplayAction`, with
    `CfixrunpSearchFixturesAndCreateSequenceAction` and `CfixrunsCreateSequenceActionForCurrentExecutable`. -/
def assembleAction : Except Fault Assembled :=
  match s.options.inputFileType with
  | .dynamicallyLoadable =>
    if s.options.inputFile = none then .ok (.none eInvalidarg)
    else if !s.malloc 0 then .ok (.none eOutofmemory)
    else
      (cfixutilSearch s.files s.options.inputFile (s.options.switch .recursiveSearch) (some (visit s create))
        .empty).map fun (hr, r) => r.context.finish hr
  | .requiresSpawn       =>
    match s.executable with
    | .error hr  => .ok (.none hr)
    | .ok module =>
      if !s.malloc 0 then .ok (.none eOutofmemory)
      else
        let (hr, a) := addFixturesOfModule s create module module.fixtures .empty
        .ok (a.finish hr)

end

/-- `CfixrunpAssembleExecutionAction`. -/
def assembleExecutionAction (s : Setting) : Except Fault Assembled := assembleAction s (createTsExecAction s.options)

/-- `CfixrunpAssembleDisplayAction`. -/
def assembleDisplayAction (s : Setting) : Except Fault Assembled := assembleAction s createDisplayAction

/-! ## What is asked for -/

/-- A fixture is asked for, with all test cases or one of them, by a value that fits into its buffer. -/
structure AsksFor (s : Setting) (fixture : LoadedFixture) (testCase : Option Nat) : Prop where
  short : ∀ value, s.options.value .fixture = some value → value.length < filterCch
  named : Matches s.lower s.fold s.filter fixture.toFixture testCase

/-- A fixture of a module, and the test cases to run. -/
structure Chosen where
  module   : TestModule
  fixture  : LoadedFixture
  testCase : Option Nat

/-- The fixtures that are asked for, out of a list of fixtures, in its order. -/
inductive Selects (s : Setting) : List (TestModule × LoadedFixture) → List Chosen → Prop where
  | nil : Selects s [] []
  | take {m f testCase l chosen} (h : AsksFor s f testCase) (hrest : Selects s l chosen) :
      Selects s ((m, f) :: l) (⟨m, f, testCase⟩ :: chosen)
  | skip {m f l chosen} (h : ∀ testCase, ¬ AsksFor s f testCase) (hrest : Selects s l chosen) :
      Selects s ((m, f) :: l) chosen

/-- The module of a file. -/
def moduleAt (s : Setting) (path : CString) : Option TestModule :=
  (moduleType s path).bind fun type => (s.load type path).toOption

def fixturesOf (module : TestModule) : List (TestModule × LoadedFixture) := module.fixtures.map fun f => (module, f)

/-- The fixtures of the modules that are found and can be loaded. -/
def available (s : Setting) : List (TestModule × LoadedFixture) :=
  match s.options.inputFileType with
  | .dynamicallyLoadable =>
    (s.options.inputFile.elim [] fun path =>
      ((s.files.found (s.options.switch .recursiveSearch) path).1.filterMap (moduleAt s))).flatMap fixturesOf
  | .requiresSpawn       => s.executable.toOption.elim [] fixturesOf

/-! ## The filter -/

section

variable {s : Setting}

/-- The filter accepts what is asked for. -/
theorem accepted_iff {f : LoadedFixture} {testCase : Option Nat} :
    ((filterFixtureByName s.lower s.fold s.filter f.toFixture).1 = true ∧
        chosen (filterFixtureByName s.lower s.fold s.filter f.toFixture).2 = testCase) ↔ AsksFor s f testCase := by
  constructor
  · rintro ⟨haccepted, rfl⟩
    refine ⟨fun value hvalue => ?_, Selection.matches_of_accepted haccepted⟩
    by_contra hlong
    have hfilter : s.filter.fixture = some value := hvalue
    rw [filterFixtureByName, hfilter] at haccepted
    simp only [if_pos (Nat.not_lt.mp hlong)] at haccepted
    cases haccepted
  · rintro ⟨hshort, hnamed⟩
    exact Selection.accepted_of_matches hshort hnamed

theorem AsksFor.lt {f : LoadedFixture} {testCase : Option Nat} (h : AsksFor s f testCase) :
    ∀ i, testCase = some i → i < f.testCases.length := by
  rintro i rfl
  exact h.named.lt

theorem Selects.append {l l' : List (TestModule × LoadedFixture)} {cs cs' : List Chosen} (h : Selects s l cs)
    (h' : Selects s l' cs') : Selects s (l ++ l') (cs ++ cs') := by
  induction h with
  | nil         => exact h'
  | take h _ ih => exact .take h ih
  | skip h _ ih => exact .skip h ih

/-- What is selected is determined. -/
theorem Selects.unique {l : List (TestModule × LoadedFixture)} {cs cs' : List Chosen} (h : Selects s l cs)
    (h' : Selects s l cs') : cs = cs' := by
  induction h generalizing cs' with
  | nil => cases h'; rfl
  | take h _ ih =>
      cases h' with
      | take h₁ hrest =>
          obtain ⟨-, rfl⟩ := accepted_iff.mpr h
          obtain ⟨-, rfl⟩ := accepted_iff.mpr h₁
          rw [ih hrest]
      | skip h₁ _ => exact absurd h (h₁ _)
  | skip h _ ih =>
      cases h' with
      | take h₁ _    => exact absurd h₁ (h _)
      | skip _ hrest => exact ih hrest

/-- Some fixtures are selected, or none. -/
theorem exists_selects (l : List (TestModule × LoadedFixture)) : ∃ cs, Selects s l cs := by
  induction l with
  | nil => exact ⟨[], .nil⟩
  | cons p l ih =>
      obtain ⟨m, f⟩ := p
      obtain ⟨cs, hcs⟩ := ih
      cases haccepted : (filterFixtureByName s.lower s.fold s.filter f.toFixture).1 with
      | true  => exact ⟨_, .take (accepted_iff.mp ⟨haccepted, rfl⟩) hcs⟩
      | false =>
          refine ⟨cs, .skip (fun testCase h => ?_) hcs⟩
          rw [(accepted_iff.mpr h).1] at haccepted
          cases haccepted

theorem Selects.asked {l : List (TestModule × LoadedFixture)} {cs : List Chosen} (h : Selects s l cs) :
    ∀ c ∈ cs, AsksFor s c.fixture c.testCase := by
  induction h with
  | nil         => exact fun _ hc => absurd hc List.not_mem_nil
  | take h _ ih => exact List.forall_mem_cons.mpr ⟨h, ih⟩
  | skip _ _ ih => exact ih

/-! ## The actions that are created -/

/-- The execution action of a chosen fixture. -/
def IsExecution (o : Options) (c : Chosen) (p : PlannedAction) : Prop :=
  ∃ a : TsexecAction, p = .execution c.module a ∧ a.fixture = c.fixture.toFixture ∧ a.flags = executionFlags o ∧
    a.testCaseIndex = c.testCase

/-- Its display action. -/
def IsDisplay (c : Chosen) (p : PlannedAction) : Prop := p = .display c.module c.fixture.toFixture

/-- Creation only fails for want of memory, if the test case exists. -/
structure Creates (create : CreateActionRoutine) (IsAction : Chosen → PlannedAction → Prop) : Prop where
  created : ∀ {c : Chosen} {testCase : ULONG}, chosen testCase = c.testCase →
    (∀ i, c.testCase = some i → i < c.fixture.testCases.length) →
    ∃ action, create c.module c.fixture testCase true = .ok action ∧ IsAction c action
  refused : ∀ {c : Chosen} {testCase : ULONG}, chosen testCase = c.testCase →
    (∀ i, c.testCase = some i → i < c.fixture.testCases.length) →
    create c.module c.fixture testCase false = .error eOutofmemory

theorem creates_execution (o : Options) : Creates (createTsExecAction o) (IsExecution o) where
  created := by
    intro c testCase htestCase hlt
    refine ⟨.execution c.module ⟨c.fixture.toFixture, executionFlags o, c.testCase, hlt⟩, ?_,
      _, rfl, rfl, rfl, rfl⟩
    rw [createTsExecAction, htestCase, createFixtureExecutionAction, dif_pos hlt]
    rfl
  refused := by
    intro c testCase htestCase hlt
    rw [createTsExecAction, htestCase, createFixtureExecutionAction, dif_pos hlt]
    rfl

theorem creates_display : Creates createDisplayAction IsDisplay where
  created := fun _ _ => ⟨_, rfl, rfl⟩
  refused := fun _ _ => rfl

end

/-! ## Assembling -/

section

variable {s : Setting} {create : CreateActionRoutine} {IsAction : Chosen → PlannedAction → Prop}

/-- A part of the assembling: if it succeeds, the actions of what is selected have been added; and it only fails for
    want of memory. -/
structure Adds (s : Setting) (IsAction : Chosen → PlannedAction → Prop) (l : List (TestModule × LoadedFixture))
    (a : Assembly) (hr : HRESULT) (a' : Assembly) : Prop where
  added  : failed hr = false → ∃ cs actions, Selects s l cs ∧ List.Forall₂ IsAction cs actions ∧
    a'.entries = a.entries ++ actions ∧ a'.fixtureCount = a.fixtureCount + BitVec.ofNat 32 actions.length
  memory : failed hr = true → hr = eOutofmemory ∧ ∃ n, s.malloc n = false

theorem Adds.nothing {l : List (TestModule × LoadedFixture)} (h : Selects s l []) (a : Assembly) :
    Adds s IsAction l a sOk a where
  added _   := ⟨[], [], h, .nil, (List.append_nil _).symm, (BitVec.add_zero _).symm⟩
  memory hf := by rw [failed_sOk] at hf; cases hf

theorem Adds.exhausted {l : List (TestModule × LoadedFixture)} {a a' : Assembly} {n : Nat} (h : s.malloc n = false) :
    Adds s IsAction l a eOutofmemory a' where
  added hf := by rw [failed_eOutofmemory] at hf; cases hf
  memory _ := ⟨rfl, n, h⟩

/-- A part that succeeds, and what follows. -/
theorem Adds.append {l l' : List (TestModule × LoadedFixture)} {a a' a'' : Assembly} {hr hr' : HRESULT}
    (h : Adds s IsAction l a hr a') (hgo : failed hr = false) (h' : Adds s IsAction l' a' hr' a'') :
    Adds s IsAction (l ++ l') a hr' a'' where
  added hf := by
    obtain ⟨cs, actions, hselects, hactions, hentries, hcount⟩ := h.added hgo
    obtain ⟨cs', actions', hselects', hactions', hentries', hcount'⟩ := h'.added hf
    refine ⟨cs ++ cs', actions ++ actions', hselects.append hselects', List.rel_append hactions hactions', ?_, ?_⟩
    · rw [hentries', hentries, List.append_assoc]
    · rw [hcount', hcount, List.length_append, BitVec.ofNat_add, BitVec.add_assoc]
  memory   := h'.memory

/-- A part that fails is the end. -/
theorem Adds.stop {l : List (TestModule × LoadedFixture)} {a a' : Assembly} {hr : HRESULT}
    (h : Adds s IsAction l a hr a') (hf : failed hr = true) (l' : List (TestModule × LoadedFixture)) :
    Adds s IsAction (l ++ l') a hr a' where
  added hok := by rw [hf] at hok; cases hok
  memory    := h.memory

variable (hc : Creates create IsAction)
include hc

theorem addFixture_adds (m : TestModule) (f : LoadedFixture) (a : Assembly) :
    Adds s IsAction [(m, f)] a (addFixture s create m f a).1 (addFixture s create m f a).2 := by
  unfold addFixture
  cases hfilter : filterFixtureByName s.lower s.fold s.filter f.toFixture with
  | mk accepted testCase =>
  cases accepted with
  | false =>
      refine .nothing (.skip (fun testCase' h => ?_) .nil) a
      have haccepted := (accepted_iff.mpr h).1
      rw [hfilter] at haccepted
      cases haccepted
  | true =>
      have hasks : AsksFor s f (chosen testCase) := accepted_iff.mp (by rw [hfilter]; exact ⟨rfl, rfl⟩)
      cases hmalloc : s.malloc a.allocations with
      | false =>
          simp only [hc.refused (c := ⟨m, f, chosen testCase⟩) rfl hasks.lt]
          exact .exhausted hmalloc
      | true =>
          obtain ⟨action, hcreate, haction⟩ := hc.created (c := ⟨m, f, chosen testCase⟩) rfl hasks.lt
          simp only [hcreate]
          cases hentry : s.malloc (a.allocations + 1) with
          | false => exact .exhausted hentry
          | true  =>
              refine ⟨fun _ => ⟨_, [action], .take hasks .nil, .cons haction .nil, rfl, rfl⟩, fun hf => ?_⟩
              rw [if_pos rfl, failed_sOk] at hf
              cases hf

theorem addFixturesOfModule_adds (m : TestModule) (fixtures : List LoadedFixture) (a : Assembly) :
    Adds s IsAction (fixtures.map fun f => (m, f)) a (addFixturesOfModule s create m fixtures a).1
      (addFixturesOfModule s create m fixtures a).2 := by
  induction fixtures generalizing a with
  | nil => exact .nothing .nil a
  | cons f rest ih =>
      have hfirst := addFixture_adds (s := s) hc m f a
      rw [addFixturesOfModule]
      generalize addFixture s create m f a = x at hfirst ⊢
      obtain ⟨hr, a'⟩ := x
      cases hf : failed hr with
      | true =>
          simp only [hf, if_true]
          exact hfirst.stop hf (rest.map fun f => (m, f))
      | false =>
          simp only [hf, Bool.false_eq_true, if_false]
          exact hfirst.append hf (ih a')

theorem addFixturesOfDll_adds {path : CString} {type : ModuleType} (htype : moduleType s path = some type)
    (a : Assembly) :
    Adds s IsAction ((moduleAt s path).toList.flatMap fixturesOf) a (addFixturesOfDll s create path type true a).1
      (addFixturesOfDll s create path type true a).2 := by
  unfold addFixturesOfDll moduleAt
  rw [htype]
  cases hload : s.load type path with
  | error hr =>
      simp only [Option.bind_some, hload]
      exact .nothing .nil a
  | ok m     =>
      simp only [Option.bind_some, hload, Except.toOption, Option.toList_some, List.flatMap_singleton]
      exact addFixturesOfModule_adds hc m m.fixtures a

/-- A file of a search. -/
theorem visit_adds (path : CString) (a : Assembly) :
    Adds s IsAction ((moduleAt s path).toList.flatMap fixturesOf) a (visit s create ⟨path, .file, true⟩ a).1
      (visit s create ⟨path, .file, true⟩ a).2 := by
  unfold visit
  simp only [ne_eq, not_true_eq_false, if_false]
  cases htype : moduleType s path with
  | none =>
      have hnone : moduleAt s path = none := by rw [moduleAt, htype]; rfl
      rw [hnone]
      exact .nothing .nil a
  | some type => exact addFixturesOfDll_adds hc htype a

/-- The files of a search. -/
theorem visitFiles_adds (paths : List CString) (a : Assembly) :
    Adds s IsAction ((paths.filterMap (moduleAt s)).flatMap fixturesOf) a (visitFiles (visit s create) true paths a).1
      (visitFiles (visit s create) true paths a).2 := by
  induction paths generalizing a with
  | nil => exact .nothing .nil a
  | cons path rest ih =>
      have hfirst := visit_adds (s := s) hc path a
      have hmodules : (path :: rest).filterMap (moduleAt s) =
          (moduleAt s path).toList ++ rest.filterMap (moduleAt s) := by
        rw [List.filterMap_cons]
        cases moduleAt s path <;> rfl
      rw [hmodules, List.flatMap_append, visitFiles]
      generalize visit s create ⟨path, .file, true⟩ a = x at hfirst ⊢
      obtain ⟨hr, a'⟩ := x
      cases hf : failed hr with
      | true  => simpa only [hf, if_true] using hfirst.stop hf _
      | false => simpa only [hf, Bool.false_eq_true, if_false] using hfirst.append hf (ih a')

/-- The runner's routine is one for files. -/
theorem quiet_visit : Quiet (visit s create) where
  notified c a h   := if_pos h
  grants path a hd := by
    have hadds := visit_adds (s := s) hc path a
    rw [hd] at hadds
    obtain ⟨hcode, -⟩ := hadds.memory failed_eAccessdenied
    cases hcode

end

/-- A file that is given as such has to be a module, if it is taken for one. -/
theorem visit_explicit {s : Setting} {create : CreateActionRoutine} (path : CString) (a : Assembly) :
    visit s create ⟨path, .file, false⟩ a = visit s create ⟨path, .file, true⟩ a ∨
      ∃ type hr, moduleType s path = some type ∧ s.load type path = .error hr ∧
        visit s create ⟨path, .file, false⟩ a = (hr, a) := by
  unfold visit
  simp only [ne_eq, not_true_eq_false, if_false]
  cases htype : moduleType s path with
  | none      => exact .inl rfl
  | some type =>
      simp only [addFixturesOfDll]
      cases hload : s.load type path with
      | error hr => exact .inr ⟨type, hr, rfl, hload, rfl⟩
      | ok m     => exact .inl rfl

theorem found_cases (fs : FileSystem) (recursive : Bool) (path : CString) :
    (fs.found recursive path).2 = true ∨
      fs.attributes path = .other ∧ fs.found recursive path = ([path], false) := by
  unfold FileSystem.found
  cases fs.attributes path with
  | invalid   => exact .inl rfl
  | directory => exact .inl rfl
  | other     => exact .inr ⟨rfl, rfl⟩

section

variable {s : Setting} {create : CreateActionRoutine} {IsAction : Chosen → PlannedAction → Prop}
variable (hc : Creates create IsAction)
include hc

/-- What is found, if it is taken without a failure. -/
theorem visitFound_adds (recursive : Bool) (path : CString) (a : Assembly)
    (hs : failed (visitFiles (visit s create) (s.files.found recursive path).2 (s.files.found recursive path).1 a).1 =
      false) :
    Adds s IsAction (((s.files.found recursive path).1.filterMap (moduleAt s)).flatMap fixturesOf) a sOk
      (visitFiles (visit s create) (s.files.found recursive path).2 (s.files.found recursive path).1 a).2 := by
  have hadds := visitFiles_adds (s := s) hc (s.files.found recursive path).1 a
  have hsearched : visitFiles (visit s create) (s.files.found recursive path).2 (s.files.found recursive path).1 a =
      visitFiles (visit s create) true (s.files.found recursive path).1 a := by
    rcases found_cases s.files recursive path with htrue | ⟨-, hfound⟩
    · rw [htrue]
    · rw [hfound] at hs ⊢
      rcases visit_explicit path a with hsame | ⟨type, hr, -, hload, hvisit⟩
      · rw [visitFiles, visitFiles, hsame]
        rfl
      · have hfail := s.fails type path hr hload
        rw [visitFiles, hvisit] at hs
        simp only [hfail, if_true] at hs
        cases hs
  rw [hsearched] at hs ⊢
  exact ⟨fun _ => hadds.added hs, fun hf => by rw [failed_sOk] at hf; cases hf⟩

/-- **A sequence that is handed out has the actions of what is asked for.** -/
theorem assembleAction_ok {r : Assembled} (h : assembleAction s create = .ok r) (hs : failed r.hr = false) :
    ∃ cs actions, r.action = some actions ∧ Selects s (available s) cs ∧ List.Forall₂ IsAction cs actions ∧
      r.fixtureCount = BitVec.ofNat 32 actions.length := by
  -- from the assembling of a list of fixtures to its sequence
  have hfinish : ∀ {l hr a}, failed hr = false → Adds s IsAction l .empty hr a → ∃ cs actions,
      (a.finish hr).action = some actions ∧ Selects s l cs ∧ List.Forall₂ IsAction cs actions ∧
        (a.finish hr).fixtureCount = BitVec.ofNat 32 actions.length := by
    intro l hr a hf hadds
    obtain ⟨cs, actions, hselects, hactions, hentries, hcount⟩ := hadds.added hf
    refine ⟨cs, actions, ?_, hselects, hactions, ?_⟩
    · simp only [Assembly.finish, hf, hentries, Bool.false_eq_true, if_false]
      rfl
    · simp only [Assembly.finish, hcount]
      exact BitVec.zero_add _
  unfold assembleAction at h
  unfold available
  cases htype : s.options.inputFileType with
  | dynamicallyLoadable =>
      simp only [htype] at h
      cases hfile : s.options.inputFile with
      | none =>
          simp only [hfile, if_true] at h
          cases h
          cases hs
      | some path =>
          cases hmalloc : s.malloc 0 with
          | false =>
              simp only [hfile, hmalloc, reduceCtorEq, if_false, Bool.not_false, if_true] at h
              cases h
              cases hs
          | true =>
              simp only [hfile, hmalloc, reduceCtorEq, if_false, Bool.not_true, Bool.false_eq_true] at h
              cases hsearch : cfixutilSearch s.files (some path) (s.options.switch .recursiveSearch)
                  (some (visit s create)) .empty with
              | error fault => rw [hsearch] at h; cases h
              | ok result   =>
                  rw [hsearch] at h
                  cases h
                  have hf : failed result.1 = false := by
                    cases hf : failed result.1 with
                    | false => rfl
                    | true  => simp only [Assembly.finish, hf, if_true] at hs; cases hs
                  obtain ⟨hvisited, hcontext⟩ := (quiet_visit hc).search_ok hsearch hf
                  have hadds := visitFound_adds hc _ path .empty hvisited
                  rw [← hcontext] at hadds
                  exact hfinish hf ⟨fun _ => hadds.added failed_sOk, fun hfail => by rw [hf] at hfail; cases hfail⟩
  | requiresSpawn =>
      simp only [htype] at h
      cases hexe : s.executable with
      | error hr =>
          have hfail := s.execFails hr hexe
          rw [hexe] at h
          cases h
          simp only [Assembled.none, hfail] at hs
          cases hs
      | ok m =>
          rw [hexe] at h
          cases hmalloc : s.malloc 0 with
          | false =>
              simp only [hmalloc, Bool.not_false, if_true] at h
              cases h
              cases hs
          | true =>
              simp only [hmalloc, Bool.not_true, Bool.false_eq_true, if_false] at h
              cases h
              have hadds := addFixturesOfModule_adds (s := s) hc m m.fixtures .empty
              refine hfinish ?_ hadds
              cases hf : failed (addFixturesOfModule s create m m.fixtures .empty).1 with
              | false => rfl
              | true  => simp only [Assembly.finish, hf, if_true] at hs; cases hs

/-- The search can be performed, an explicit module can be loaded, and there is memory. -/
structure Possible (s : Setting) : Prop where
  search     : s.options.inputFileType = .dynamicallyLoadable → ∃ path, s.options.inputFile = some path ∧
    s.files.Searchable (s.options.switch .recursiveSearch) path ∧ (s.files.attributes path = .other →
      ∀ type hr, moduleType s path = some type → s.load type path ≠ .error hr)
  executable : s.options.inputFileType = .requiresSpawn → ∃ m, s.executable = .ok m
  memory     : ∀ n, s.malloc n = true

/-- With memory, what is found is taken. -/
theorem visitFound_succeeds (hmemory : ∀ n, s.malloc n = true) (recursive : Bool) (path : CString) (a : Assembly)
    (hload : s.files.attributes path = .other → ∀ type hr, moduleType s path = some type →
      s.load type path ≠ .error hr) :
    failed (visitFiles (visit s create) (s.files.found recursive path).2 (s.files.found recursive path).1 a).1 =
      false := by
  have hsearched : visitFiles (visit s create) (s.files.found recursive path).2 (s.files.found recursive path).1 a =
      visitFiles (visit s create) true (s.files.found recursive path).1 a := by
    rcases found_cases s.files recursive path with htrue | ⟨hother, hfound⟩
    · rw [htrue]
    · rw [hfound]
      rcases visit_explicit path a with hsame | ⟨type, hr, htype, hfailed, -⟩
      · rw [visitFiles, visitFiles, hsame]
        rfl
      · exact absurd hfailed (hload hother type hr htype)
  rw [hsearched]
  have hadds := visitFiles_adds (s := s) hc (s.files.found recursive path).1 a
  cases hf : failed (visitFiles (visit s create) true (s.files.found recursive path).1 a).1 with
  | false => rfl
  | true  =>
      obtain ⟨-, n, hn⟩ := hadds.memory hf
      rw [hmemory n] at hn
      cases hn

/-- **If nothing is in the way there is a sequence.** -/
theorem assembleAction_possible (hs : Possible s) : ∃ r, assembleAction s create = .ok r ∧ r.hr = sOk := by
  have hmalloc := hs.memory 0
  have hfinish : ∀ {hr a}, failed hr = false → (Assembly.finish hr a).hr = sOk := fun hf => by
    simp only [Assembly.finish, hf, Bool.false_eq_true, if_false]
  unfold assembleAction
  cases htype : s.options.inputFileType with
  | dynamicallyLoadable =>
      obtain ⟨path, hfile, hsearchable, hload⟩ := hs.search htype
      have hvisited := visitFound_succeeds hc hs.memory (s.options.switch .recursiveSearch) path .empty hload
      obtain ⟨hr, r, hrun, hfails⟩ :
          ∃ hr r, cfixutilSearch s.files (some path) (s.options.switch .recursiveSearch)
            (some (visit s create)) .empty = .ok (hr, r) ∧ failed hr = _ :=
        (quiet_visit hc).search_fits hsearchable
      simp only [hfile, hmalloc, reduceCtorEq, if_false, Bool.not_true, Bool.false_eq_true]
      rw [hrun]
      exact ⟨_, rfl, hfinish (hfails.trans hvisited)⟩
  | requiresSpawn =>
      obtain ⟨m, hm⟩ := hs.executable htype
      have hadds := addFixturesOfModule_adds (s := s) hc m m.fixtures .empty
      simp only [hm, hmalloc, Bool.not_true, Bool.false_eq_true, if_false]
      refine ⟨_, rfl, hfinish ?_⟩
      cases hf : failed (addFixturesOfModule s create m m.fixtures .empty).1 with
      | false => rfl
      | true  =>
          obtain ⟨-, n, hn⟩ := hadds.memory hf
          rw [hs.memory n] at hn
          cases hn

end

/-- No part of a sequence is handed out. -/
theorem assembleAction_failed {s : Setting} {create : CreateActionRoutine} {r : Assembled}
    (h : assembleAction s create = .ok r) (hf : failed r.hr = true) : r.action = none := by
  have hfinish : ∀ hr a, failed (Assembly.finish hr a).hr = true → (Assembly.finish hr a).action = none := by
    intro hr a hfail
    cases hcode : failed hr with
    | true  => simp only [Assembly.finish, hcode, if_true]
    | false =>
        simp only [Assembly.finish, hcode, Bool.false_eq_true, if_false] at hfail
        cases hfail
  unfold assembleAction at h
  split at h
  · split at h
    · cases h; rfl
    · split at h
      · cases h; rfl
      · cases hsearch : cfixutilSearch s.files s.options.inputFile (s.options.switch .recursiveSearch)
            (some (visit s create)) .empty with
        | error fault => rw [hsearch] at h; cases h
        | ok result   =>
            rw [hsearch] at h
            cases h
            exact hfinish _ _ hf
  · split at h
    · cases h; rfl
    · split at h
      · cases h; rfl
      · cases h
        exact hfinish _ _ hf

/-! ## The run of the sequence -/

section

variable {σ : Type}

/-- `Run` of an execution action in the host of its module; that of a display action prints. -/
def PlannedAction.run (hosts : TestModule → Host σ) : PlannedAction → Run σ → HRESULT × Run σ
  | .execution module action, x => runFixtureExecutionAction (hosts module) action x
  | .display _ _,             x => (sOk, x)

/-- The test cases whose routines are called. -/
def testCaseRefs (calls : List Labelled) : List TestCaseRef :=
  calls.filterMap fun l =>
    match l.1 with
    | .test testCase => some testCase
    | _              => none

/-- The test cases of a chosen fixture. -/
def Chosen.testCases (c : Chosen) : List TestCaseRef :=
  (Selection.selection c.fixture.toFixture c.testCase).map fun i => ⟨c.fixture.toFixture, i⟩

/-- In its turn, a test case is picked at most once; and exactly once if the calls of the turn are all fine, which then
    does not stop the fixture. -/
structure PicksOnce (flags : BitVec 32) (fine : Labelled → Prop) (pick : Labelled → Option TestCaseRef) : Prop where
  outside  : ∀ (f : Fixture) (hr : HRESULT), pick (.beforeFixtureStart f, hr) = none ∧ pick (.setup, hr) = none ∧
    pick (.teardown, hr) = none ∧ pick (.afterFixtureFinish f, hr) = none
  turn     : ∀ (o : Outcomes) (a : TsexecAction) (i : Nat),
    (o.turn a i).filterMap pick = [] ∨ (o.turn a i).filterMap pick = [⟨a.fixture, i⟩]
  opens    : ∀ {f : Fixture} {hr : HRESULT}, fine (.beforeFixtureStart f, hr) → failed hr = false
  setup    : ∀ {hr : HRESULT}, fine (.setup, hr) → failed hr = false
  teardown : ∀ {hr : HRESULT}, fine (.teardown, hr) →
    (failed hr && flagOn flags fixtureExecutionEscalateFixtureFailues) = false
  goesOn   : ∀ {o : Outcomes} {a : TsexecAction} {i : Nat}, a.flags = flags → (∀ l ∈ o.turn a i, fine l) →
    (o.turn a i).filterMap pick = [⟨a.fixture, i⟩] ∧ o.stopsAt a i = false

section PicksOnce

variable {flags : BitVec 32} {fine : Labelled → Prop} {pick : Labelled → Option TestCaseRef}
variable {o : Outcomes} {a : TsexecAction}

theorem PicksOnce.turns (h : PicksOnce flags fine pick) (l : List Nat) :
    ((l.flatMap (o.turn a)).filterMap pick).Sublist (l.map fun i => ⟨a.fixture, i⟩) := by
  induction l with
  | nil => exact .refl _
  | cons i l ih =>
      rw [List.flatMap_cons, List.filterMap_append, List.map_cons]
      rcases h.turn o a i with hnone | hone
      · rw [hnone]
        exact ih.cons _
      · rw [hone]
        exact ih.cons_cons _

/-- The test cases that are picked of an action are selected ones, in their order. -/
theorem PicksOnce.fixtureLabels (h : PicksOnce flags fine pick) :
    ((o.fixtureLabels a).filterMap pick).Sublist (a.selected.map fun i => ⟨a.fixture, i⟩) := by
  have hreached : ((o.reached a).map fun i => (⟨a.fixture, i⟩ : TestCaseRef)).Sublist
      (a.selected.map fun i => ⟨a.fixture, i⟩) := (TakeThrough.takeThrough_prefix_self _ _).sublist.map _
  unfold Outcomes.fixtureLabels
  split
  · exact List.nil_sublist _
  · rw [List.filterMap_cons_none (h.outside a.fixture _).1]
    split
    · exact List.nil_sublist _
    · rw [List.filterMap_cons_none (h.outside a.fixture _).2.1]
      split
      · rw [List.filterMap_cons_none (h.outside a.fixture _).2.2.2]
        exact List.nil_sublist _
      · split
        · exact List.nil_sublist _
        · rw [List.filterMap_append]
          have hend : (if (o.reached a).any o.fatalAt then []
              else [(.teardown, o.teardown), (.afterFixtureFinish a.fixture, sOk)] : List Labelled).filterMap pick =
                [] := by
            split
            · rfl
            · rw [List.filterMap_cons_none (h.outside a.fixture _).2.2.1,
                List.filterMap_cons_none (h.outside a.fixture _).2.2.2]
              rfl
          rw [hend, List.append_nil]
          exact (h.turns _).trans hreached

/-- Where every call is fine, the fixture is opened, no test case stops it, and all of its parts are called. -/
theorem PicksOnce.labels_of_fine (h : PicksOnce flags fine pick) (ha : a.flags = flags) (hv : o.isValidContext = true)
    (hall : ∀ l ∈ o.fixtureLabels a, fine l) :
    o.fixtureFails a = false ∧ (∀ i ∈ a.selected, ∀ l ∈ o.turn a i, fine l) ∧
      o.fixtureLabels a = (.beforeFixtureStart a.fixture, o.beforeFixtureStart) :: (.setup, o.setup) ::
        (a.selected.flatMap (o.turn a) ++ [(.teardown, o.teardown), (.afterFixtureFinish a.fixture, sOk)]) := by
  unfold Outcomes.fixtureLabels at hall ⊢
  simp only [hv, Bool.not_true, Bool.false_eq_true, if_false, List.forall_mem_cons] at hall
  obtain ⟨hopens, hall⟩ := hall
  have hb := h.opens hopens
  simp only [hb, Bool.false_eq_true, if_false, List.forall_mem_cons] at hall
  obtain ⟨hsetup, hall⟩ := hall
  have hs := h.setup hsetup
  simp only [setupFailure_eq_false hs, hs, Bool.false_eq_true, if_false] at hall
  obtain ⟨hturns, hend⟩ := List.forall_mem_append.mp hall
  have hturn : ∀ i ∈ o.reached a, ∀ l ∈ o.turn a i, fine l := fun i hi l hl =>
    hturns l (List.mem_flatMap.mpr ⟨i, hi, hl⟩)
  have hstops : ∀ i ∈ o.reached a, o.stopsAt a i = false := fun i hi => (h.goesOn ha (hturn i hi)).2
  have hreached : o.reached a = a.selected := Selection.reached_eq_selected hstops
  have hfatal : (o.reached a).any o.fatalAt = false := by
    refine List.any_eq_false.mpr fun i hi hfatal => ?_
    have hstop := o.stopsAt_of_fatalAt a hfatal
    rw [hstops i hi] at hstop
    cases hstop
  have hescalates : (o.reached a).any (o.escalatesAt a) = false := by
    refine List.any_eq_false.mpr fun i hi hescalates => ?_
    have hnot := hstops i hi
    unfold Outcomes.stopsAt at hnot
    unfold Outcomes.escalatesAt at hescalates
    grind
  simp only [hfatal, Bool.false_eq_true, if_false, List.forall_mem_cons] at hend
  have ht := h.teardown hend.1
  refine ⟨?_, fun i hi => hturn i (hreached ▸ hi), ?_⟩
  · unfold Outcomes.fixtureFails
    simp only [hv, hb, hs, setupFailure_eq_false hs, hescalates, ha, ht, Bool.not_true, Bool.false_eq_true, if_false,
      Bool.or_false]
  · rw [hreached] at hfatal
    simp only [hv, hb, hs, setupFailure_eq_false hs, hfatal, hreached, Bool.not_true, Bool.false_eq_true, if_false]

/-- Then every selected test case is picked. -/
theorem PicksOnce.of_fine (h : PicksOnce flags fine pick) (ha : a.flags = flags) (hv : o.isValidContext = true)
    (hall : ∀ l ∈ o.fixtureLabels a, fine l) :
    (o.fixtureLabels a).filterMap pick = a.selected.map fun i => ⟨a.fixture, i⟩ := by
  obtain ⟨-, hturn, hlabels⟩ := h.labels_of_fine ha hv hall
  have hturns : ∀ l : List Nat, (∀ i ∈ l, ∀ e ∈ o.turn a i, fine e) →
      (l.flatMap (o.turn a)).filterMap pick = l.map fun i => ⟨a.fixture, i⟩ := by
    intro l
    induction l with
    | nil => exact fun _ => rfl
    | cons i l ih =>
        intro hl
        obtain ⟨hi, hrest⟩ := List.forall_mem_cons.mp hl
        rw [List.flatMap_cons, List.filterMap_append, (h.goesOn ha hi).1, ih hrest]
        rfl
  rw [hlabels, List.filterMap_cons_none (h.outside a.fixture _).1, List.filterMap_cons_none (h.outside a.fixture _).2.1,
    List.filterMap_append, hturns a.selected hturn, List.filterMap_cons_none (h.outside a.fixture _).2.2.1,
    List.filterMap_cons_none (h.outside a.fixture _).2.2.2]
  exact List.append_nil _

end PicksOnce

variable {s : Setting} (hosts : TestModule → Host σ)

/-- What a run does with chosen fixtures: it calls test cases of theirs only, in their order; if no call fails, it
    succeeds and has called all of them. -/
def RunsChosen (hosts : TestModule → Host σ) (cs : List Chosen) (x : Run σ) (result : HRESULT × Run σ) : Prop :=
  ∃ calls, result.2.labels = x.labels ++ calls ∧ (testCaseRefs calls).Sublist (cs.flatMap Chosen.testCases) ∧
    ((∀ m, (hosts m).isValidContext = true) → (∀ l ∈ calls, failed l.2 = false) →
      failed result.1 = false ∧ testCaseRefs calls = cs.flatMap Chosen.testCases)

/-- The same for those calls of a test case that `pick` tells, where calls that are fine do not stop the run. -/
def Covers (fine : Labelled → Prop) (pick : Labelled → Option TestCaseRef) (hosts : TestModule → Host σ)
    (cs : List Chosen) (x : Run σ) (result : HRESULT × Run σ) : Prop :=
  ∃ calls, result.2.labels = x.labels ++ calls ∧ (calls.filterMap pick).Sublist (cs.flatMap Chosen.testCases) ∧
    ((∀ m, (hosts m).isValidContext = true) → (∀ l ∈ calls, fine l) →
      failed result.1 = false ∧ calls.filterMap pick = cs.flatMap Chosen.testCases)

section Covers

variable {fine : Labelled → Prop} {pick : Labelled → Option TestCaseRef} {hosts : TestModule → Host σ}

/-- A run that goes on. -/
theorem Covers.append {cs cs' : List Chosen} {x : Run σ} {y z : HRESULT × Run σ} (h : Covers fine pick hosts cs x y)
    (h' : Covers fine pick hosts cs' y.2 z) : Covers fine pick hosts (cs ++ cs') x z := by
  obtain ⟨calls, hlabels, hsub, hall⟩ := h
  obtain ⟨calls', hlabels', hsub', hall'⟩ := h'
  refine ⟨calls ++ calls', by rw [hlabels', hlabels, List.append_assoc], ?_, fun hvalid hok => ?_⟩
  · rw [List.filterMap_append, List.flatMap_append]
    exact hsub.append hsub'
  · obtain ⟨hok₁, hok₂⟩ := List.forall_mem_append.mp hok
    obtain ⟨hsucceeds, hrefs'⟩ := hall' hvalid hok₂
    rw [List.filterMap_append, List.flatMap_append, (hall hvalid hok₁).2, hrefs']
    exact ⟨hsucceeds, rfl⟩

/-- A run that stops, which it only does after a failure. -/
theorem Covers.stop {cs : List Chosen} {x : Run σ} {y : HRESULT × Run σ} (h : Covers fine pick hosts cs x y)
    (hf : failed y.1 = true) (cs' : List Chosen) : Covers fine pick hosts (cs ++ cs') x y := by
  obtain ⟨calls, hlabels, hsub, hall⟩ := h
  refine ⟨calls, hlabels, ?_, fun hvalid hok => ?_⟩
  · rw [List.flatMap_append]
    exact hsub.trans (List.sublist_append_left _ _)
  · rw [(hall hvalid hok).1] at hf
    cases hf

variable {o : Options}

theorem covers_execution (hpick : PicksOnce (executionFlags o) fine pick) {c : Chosen} {p : PlannedAction}
    (hp : IsExecution o c p) (x : Run σ) : Covers fine pick hosts [c] x (p.run hosts x) := by
  obtain ⟨a, rfl, hfixture, hflags, htestCase⟩ := hp
  obtain ⟨o', ho⟩ := (hosts c.module).exists_follows a x
  obtain ⟨hlabels, hfails⟩ := ho.spec
  have hselected : [c].flatMap Chosen.testCases = a.selected.map fun i => ⟨a.fixture, i⟩ := by
    rw [List.flatMap_singleton, Chosen.testCases, Selection.selected_eq_selection, hfixture, htestCase]
  refine ⟨o'.fixtureLabels a, hlabels, ?_, fun hvalid hall => ?_⟩
  · rw [hselected]
    exact hpick.fixtureLabels
  · obtain ⟨hv, -⟩ := ho
    have hv' := hv.symm.trans (hvalid c.module)
    obtain ⟨hsucceeds, -⟩ := hpick.labels_of_fine hflags hv' hall
    refine ⟨hfails.trans hsucceeds, ?_⟩
    rw [hselected, hpick.of_fine hflags hv' hall]

theorem covers_runActions (hpick : PicksOnce (executionFlags o) fine pick) {cs : List Chosen}
    {actions : List PlannedAction} (h : List.Forall₂ (IsExecution o) cs actions) {hr : HRESULT}
    (hhr : failed hr = false) (x : Run σ) : Covers fine pick hosts cs x (runActions (actions.map (PlannedAction.run hosts)) hr x) := by
  induction h generalizing hr x with
  | nil => exact ⟨[], (List.append_nil _).symm, .refl _, fun _ _ => ⟨hhr, rfl⟩⟩
  | @cons c p cs actions hp _ ih =>
      have hfirst : Covers fine pick hosts [c] x (p.run hosts x) := covers_execution hpick hp x
      rw [List.map_cons, runActions, ← List.singleton_append]
      generalize p.run hosts x = y at hfirst ⊢
      obtain ⟨hr', x'⟩ := y
      cases hf : failed hr' with
      | true =>
          simp only [hf, if_true]
          exact hfirst.stop hf cs
      | false =>
          simp only [hf, Bool.false_eq_true, if_false]
          exact hfirst.append (ih hf x')

/-- The run of a sequence that was handed out. -/
theorem covers_runSequenceAction (hpick : PicksOnce (executionFlags o) fine pick) {cs : List Chosen}
    {actions : List PlannedAction} (h : List.Forall₂ (IsExecution o) cs actions) (x : Run σ) :
    Covers fine pick hosts cs x (runSequenceAction true true (actions.map (PlannedAction.run hosts)) x) := by
  rw [runSequenceAction]
  simp only [Bool.not_true, Bool.false_eq_true, if_false]
  split
  · rename_i hempty
    rw [List.isEmpty_iff, List.map_eq_nil_iff] at hempty
    subst hempty
    cases h
    exact ⟨[], (List.append_nil _).symm, .refl _, fun _ _ => ⟨failed_sOk, rfl⟩⟩
  · exact covers_runActions hpick h failed_sOk x

end Covers

/-- A call that succeeds stops nothing. -/
theorem picksOnce_test (flags : BitVec 32) : PicksOnce flags (fun l => failed l.2 = false) fun l => match l.1 with
    | .test testCase => some testCase
    | _              => none where
  outside _ _ := ⟨rfl, rfl, rfl, rfl⟩
  turn o a i  := by
    unfold Outcomes.turn Outcomes.testCaseLabels
    cases failed (o.beforeTestCaseStart i) <;> cases failed (o.before i) <;> cases fatal (o.testCaseResult i) <;>
      simp
  opens h     := h
  setup h     := h
  teardown h  := by simp only at h; rw [h, Bool.false_and]
  goesOn {o a i} _ hall := by
    obtain ⟨-, hstops⟩ := Selection.testCasesRun_accepted (o := o) (a := a) (l := [i])
      (by rw [List.flatMap_singleton]; exact hall)
    refine ⟨?_, hstops i List.mem_cons_self⟩
    unfold Outcomes.turn Outcomes.testCaseLabels at hall ⊢
    simp only [List.forall_mem_cons] at hall
    obtain ⟨hstart, hall⟩ := hall
    simp only [hstart, Bool.false_eq_true, if_false, List.cons_append, List.forall_mem_cons] at hall ⊢
    obtain ⟨hbefore, -⟩ := hall
    cases hf : fatal (o.testCaseResult i) <;> simp [hbefore]

/-- The test cases that the run of a sequence calls. -/
theorem runSequenceAction_chosen {o : Options} {cs : List Chosen} {actions : List PlannedAction}
    (h : List.Forall₂ (IsExecution o) cs actions) (x : Run σ) :
    RunsChosen hosts cs x (runSequenceAction true true (actions.map (PlannedAction.run hosts)) x) :=
  covers_runSequenceAction (picksOnce_test _) h x

end

/-! ## What is displayed -/

/-- The texts that `CfixrunsRunDisplayAction` prints for a fixture. -/
def displayTexts (module : TestModule) (fixture : Fixture) : List String :=
  ("  Fixture: " ++ module.name ++ "." ++ fixture.name ++ "\n") ::
    fixture.testCases.map (fun testCase => "    " ++ testCase.name ++ "\n") ++ ["\n"]

/-- `Run` of a display action: it prints to the console. -/
def PlannedAction.print : PlannedAction → List String → HRESULT × List String
  | .execution _ _,         console => (sOk, console)
  | .display module fixture, console => (sOk, console ++ displayTexts module fixture)

def Chosen.texts (c : Chosen) : List String := displayTexts c.module c.fixture.toFixture

theorem runActions_print {cs : List Chosen} {actions : List PlannedAction} (h : List.Forall₂ IsDisplay cs actions)
    (console : List String) :
    runActions (actions.map PlannedAction.print) sOk console = (sOk, console ++ cs.flatMap Chosen.texts) := by
  induction h generalizing console with
  | nil => simp [runActions]
  | @cons c p cs actions hp _ ih =>
      obtain rfl : p = .display c.module c.fixture.toFixture := hp
      rw [List.map_cons, runActions]
      simp only [PlannedAction.print, failed_sOk, Bool.false_eq_true, if_false]
      rw [ih, List.flatMap_cons, Chosen.texts, List.append_assoc]

theorem runSequenceAction_print {cs : List Chosen} {actions : List PlannedAction}
    (h : List.Forall₂ IsDisplay cs actions) (console : List String) :
    runSequenceAction true true (actions.map PlannedAction.print) console =
      (sOk, console ++ cs.flatMap Chosen.texts) := by
  rw [← runActions_print h, runSequenceAction]
  cases actions with
  | nil       => rfl
  | cons _ _  => rfl

/-! ## The plan -/

/-- **The plan of a run.** If the assembling fails there is no sequence. Otherwise the sequence has one action, with
    the flags of the command line, for each fixture that is asked for of the modules that are found and can be loaded,
    in their order; and whatever the routines and the context do, its run calls no other test cases than those that
    are asked for, in their order, and all of them if every call succeeds. -/
theorem plan_exact {s : Setting} {r : Assembled} (h : assembleExecutionAction s = .ok r) :
    (failed r.hr = true → r.action = none) ∧
      (failed r.hr = false → ∃ cs actions, r.action = some actions ∧ Selects s (available s) cs ∧
        List.Forall₂ (IsExecution s.options) cs actions ∧ r.fixtureCount = BitVec.ofNat 32 cs.length ∧
        ∀ (σ : Type) (hosts : TestModule → Host σ) (x : Run σ),
          RunsChosen hosts cs x (runSequenceAction true true (actions.map (PlannedAction.run hosts)) x)) := by
  refine ⟨assembleAction_failed h, fun hs => ?_⟩
  obtain ⟨cs, actions, haction, hselects, hactions, hcount⟩ := assembleAction_ok (creates_execution s.options) h hs
  refine ⟨cs, actions, haction, hselects, hactions, ?_, fun σ hosts x => runSequenceAction_chosen hosts hactions x⟩
  rw [hcount, hactions.length_eq]

/-- A module with one fixture. -/
def sampleModule : TestModule where
  name     := "Sample"
  fixtures := [⟨⟨"Suite", 0, 0, 0, 0, 0#32, [⟨"First", 4096⟩, ⟨"Second", 8192⟩]⟩, by decide⟩]

/-- The second of its test cases, of a DLL that is given as such. -/
def sampleSetting : Setting where
  options    :=
    { CommandLine.Options.zeroed with
      inputFile := some (wide "tests.dll")
      value m   := if m = .fixture then some (wide "Suite.Second") else none }
  filled     := fun _ h => nomatch h
  lower      := id
  fold       := id
  files      := ⟨fun _ => .other, .ok, .ok (wide "c:\\"), fun _ => .ok .nil⟩
  load _ _   := .ok sampleModule
  fails      := fun _ _ _ h => nomatch h
  executable := .ok sampleModule
  execFails  := fun _ h => nomatch h
  malloc _   := true

theorem possible_sampleSetting : Possible sampleSetting where
  search _     := ⟨wide "tests.dll", rfl, ⟨(fun h => nomatch h), (fun h => nomatch h)⟩,
    fun _ _ _ _ h => nomatch h⟩
  executable _ := ⟨sampleModule, rfl⟩
  memory _     := rfl

/-- Its plan has one action. -/
theorem plan_exact_sampleSetting :
    ∃ r, assembleExecutionAction sampleSetting = .ok r ∧ failed r.hr = false ∧ ∃ cs, Selects sampleSetting
      (available sampleSetting) cs ∧ cs.length = 1 ∧ r.fixtureCount = 1#32 := by
  have hrun : assembleExecutionAction sampleSetting = .ok ⟨sOk, some [.execution sampleModule
      ⟨⟨"Suite", 0, 0, 0, 0, 0#32, [⟨"First", 4096⟩, ⟨"Second", 8192⟩]⟩, 256#32, some 1, by decide⟩],
      1#32⟩ := by
    rfl
  obtain ⟨cs, actions, haction, hselects, hactions, -⟩ := (plan_exact hrun).2 failed_sOk
  obtain rfl := Option.some.inj haction
  exact ⟨_, hrun, failed_sOk, cs, hselects, hactions.length_eq, rfl⟩

/-- **Display and execution agree.** Where nothing is in the way both sequences are handed out, for the same number of
    fixtures. What is displayed are the chosen fixtures, with all of their test cases; what is run are their chosen
    test cases. -/
theorem display_agrees {s : Setting} (hs : Possible s) :
    ∃ cs r actions r' actions', Selects s (available s) cs ∧ assembleExecutionAction s = .ok r ∧
      r.action = some actions ∧ assembleDisplayAction s = .ok r' ∧ r'.action = some actions' ∧
      r.fixtureCount = r'.fixtureCount ∧
      (∀ console, runSequenceAction true true (actions'.map PlannedAction.print) console =
        (sOk, console ++ cs.flatMap Chosen.texts)) ∧
      ∀ (σ : Type) (hosts : TestModule → Host σ) (x : Run σ),
        RunsChosen hosts cs x (runSequenceAction true true (actions.map (PlannedAction.run hosts)) x) := by
  obtain ⟨r, hr, hcode⟩ := assembleAction_possible (creates_execution s.options) hs
  obtain ⟨r', hr', hcode'⟩ := assembleAction_possible creates_display hs
  obtain ⟨cs, actions, haction, hselects, hactions, hcount⟩ :=
    assembleAction_ok (creates_execution s.options) hr (by rw [hcode]; exact failed_sOk)
  obtain ⟨cs', actions', haction', hselects', hactions', hcount'⟩ :=
    assembleAction_ok creates_display hr' (by rw [hcode']; exact failed_sOk)
  obtain rfl := hselects.unique hselects'
  refine ⟨cs, r, actions, r', actions', hselects, hr, haction, hr', haction', ?_, runSequenceAction_print hactions',
    fun σ hosts x => runSequenceAction_chosen hosts hactions x⟩
  rw [hcount, hcount', ← hactions.length_eq, ← hactions'.length_eq]

/-- The whole fixture is displayed, and its second test case run. -/
theorem display_agrees_sampleSetting :
    ∃ cs, Selects sampleSetting (available sampleSetting) cs ∧
      ∃ r', assembleDisplayAction sampleSetting = .ok r' ∧
      ∀ actions', r'.action = some actions' → ∀ console,
        runSequenceAction true true (actions'.map PlannedAction.print) console =
          (sOk, console ++ cs.flatMap Chosen.texts) := by
  obtain ⟨cs, _, _, r', actions', hselects, -, -, hr', haction', -, hprint, -⟩ :=
    display_agrees possible_sampleSetting
  refine ⟨cs, hselects, r', hr', fun actions'' h => ?_⟩
  rw [haction'] at h
  cases h
  exact hprint

end Cfix.Plan
