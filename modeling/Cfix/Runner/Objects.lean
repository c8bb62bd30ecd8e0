import Cfix.Fixture.Action
import Cfix.Lib.RefCount
import Cfix.Runner.MainWorker

/-!
# `Runner.Objects` — the objects of a run (`cfixrun/main.c`, `runtest.c`, `fixturesearch.c`, `dllsearch.c`)

`CfixrunsMainWorker` searches the test modules, collects an action for each matching fixture in a sequence
action, and runs it with an execution context whose events go to a sink. The model has the reference count of
each object: of the modules, the actions, the sequence action, the two execution contexts and the sink. `none`
stands for the use of an object that was freed, or for a write outside an array. The counters of the source have
32 bits: a module has less than 2^32 fixtures, so none of them gets past 2^32, and none gets to 0 early.
-/

namespace Cfix.Runner

open RefCount

abbrev ULONG := BitVec 32

/-! ## Inputs -/

/-- What the run of an action does: its result, and the calls on the execution context that come with the
    filaments of the tests. -/
structure ActionRun where
  hr    : HRESULT
  calls : List RefCall
  deriving DecidableEq, Repr

/-- A fixture of a test module. -/
structure FixtureInput where
  testCaseCount : ULONG
  /-- The test case that the filter chooses, -1 for all; `none` if the fixture does not match. -/
  filter        : Option ULONG
  /-- There is memory for the action, and for its entry in the sequence. -/
  actionMemory  : Bool
  entryMemory   : Bool
  run           : ActionRun
  deriving DecidableEq, Repr

inductive FileType where
  | dll
  | sys
  | other
  deriving DecidableEq, Repr

/-- A file that is visited. -/
structure FileInput where
  type     : FileType
  /-- The result of `CfixCreateTestModuleFromPeImage` or `CfixklCreateTestModuleFromDriver`. -/
  loadHr   : HRESULT
  fixtures : List FixtureInput
  deriving DecidableEq, Repr

/-- What `FindFirstFile` and `FindNextFile` find in a directory. `combined` says that `PathCombine` succeeded;
    `early` is the result of a traversal that ends before anything is found. -/
inductive Entries where
  | nil
  | dots (rest : Entries)
  | reparsePoint (combined : Bool) (rest : Entries)
  | directory (combined : Bool) (early : Option HRESULT) (inner rest : Entries)
  | file (f : FileInput) (rest : Entries)
  deriving DecidableEq, Repr

/-- What the input file is. -/
inductive Location where
  | missing
  | file (f : FileInput)
  /-- A directory or a filter expression. -/
  | directory (early : Option HRESULT) (entries : Entries)
  deriving DecidableEq, Repr

inductive InputFile where
  | dynamicallyLoadable (location : Location)
  /-- `moduleHr` is the result of `CfixCreateTestModule`. -/
  | currentExecutable (moduleHr : HRESULT) (fixtures : List FixtureInput)
  deriving DecidableEq, Repr

structure SearchOptions where
  displayOnly          : Bool
  recursiveSearch      : Bool
  enableKernelFeatures : Bool
  deriving DecidableEq, Repr

/-- What `CfixrunsMainWorker` finds on its way. -/
structure Environment where
  options        : SearchOptions
  /-- `none` if no input file is given. -/
  inputFile      : Option InputFile
  sequenceMemory : Bool
  contextHr      : HRESULT
  sinkHr         : HRESULT
  proxyMemory    : Bool
  /-- There is memory for the array of actions. -/
  arrayMemory    : Bool
  deriving DecidableEq, Repr

/-! ## Modules and actions -/

/-- Test modules and actions on their fixtures, with the module that each action references and its run. -/
structure Objects where
  modules : Table
  actions : Table
  details : List (Nat × ActionRun)
  deriving DecidableEq, Repr

/-- `Routines.Dereference` of a module. -/
def dereferenceModule (m : Nat) (o : Objects) : Option Objects := do
  let (_, modules) ← dereference o.modules m
  return { o with modules }

/-- `Action->Reference`. -/
def referenceAction (x : Nat) (o : Objects) : Option Objects := do
  let actions ← reference o.actions x
  return { o with actions }

/-- `Action->Dereference`: `CfixsDeleteFixtureExecutionAction` or `CfixrunsDeleteDisplayAction` dereferences the
    module. -/
def dereferenceAction (x : Nat) (o : Objects) : Option Objects := do
  let (last, actions) ← dereference o.actions x
  if last then
    let (m, _) ← o.details[x]?
    dereferenceModule m { o with actions }
  else return { o with actions }

/-- The part that `CfixCreateFixtureExecutionAction` and `CfixrunpCreateDisplayAction` share. The number of the
    new action is the length of the table. -/
def createAction (m : Nat) (run : ActionRun) (memory : Bool) (o : Objects) : Option (HRESULT × Objects) :=
  if !memory then some (eOutofmemory, o)
  else do
    let modules ← reference o.modules m
    return (sOk, { modules, actions := create o.actions, details := o.details ++ [(m, run)] })

/-! ## Search -/

/-- The state of the search; there is one sequence action, and its list has `entries`. -/
structure Search where
  objects      : Objects
  sequences    : Table
  entries      : List Nat
  fixtureCount : ULONG
  deriving DecidableEq, Repr

def Search.empty : Search where
  objects      := { modules := [], actions := [], details := [] }
  sequences    := []
  entries      := []
  fixtureCount := 0#32

/-- `if ( SUCCEEDED( Hr ) )`, or the condition of a loop. -/
def andThen (first second : Search → Option (HRESULT × Search)) (s : Search) : Option (HRESULT × Search) := do
  let (hr, s) ← first s
  if failed hr then return (hr, s) else second s

/-- `CfixrunsRunDisplayAction` makes no call on the context; for other actions the tests make them. -/
def FixtureInput.actionRun (displayOnly : Bool) (f : FixtureInput) : ActionRun :=
  if displayOnly then { hr := sOk, calls := [] } else f.run

/-- `CfixCreateFixtureExecutionAction` rejects the test case that the filter has chosen. -/
def FixtureInput.rejected (displayOnly : Bool) (f : FixtureInput) (testCase : ULONG) : Bool :=
  !displayOnly && testCase != -1 && decide (f.testCaseCount ≤ testCase)

/-- The test case is rejected as it is for the action of `Fixture.Action`. -/
theorem FixtureInput.rejected_iff (f : FixtureInput) (testCase : ULONG) (fixture : Fixture) (flags : BitVec 32)
    (hcount : fixture.testCases.length = f.testCaseCount.toNat) :
    f.rejected false testCase = true ↔
      createFixtureExecutionAction fixture flags (if testCase = -1 then none else some testCase.toNat) true
        = .error eInvalidarg := by
  unfold FixtureInput.rejected createFixtureExecutionAction
  by_cases hall : testCase = -1
  · simp [hall]
  · rw [if_neg hall]
    by_cases hle : f.testCaseCount ≤ testCase
    · have hge : f.testCaseCount.toNat ≤ testCase.toNat := BitVec.le_def.mp hle
      rw [dif_neg (fun h => by have hlt := h _ rfl; omega)]
      have hne : (testCase != -1) = true := bne_iff_ne.mpr hall
      rw [hne]
      simp [hle]
    · have hlt : testCase.toNat < f.testCaseCount.toNat := by simpa [BitVec.le_def] using hle
      rw [dif_pos (fun i hi => by cases hi; omega)]
      simp [hle]

/-- `CfixrunsCreateTsExecAction` and `CfixrunsCreateDisplayAction`. -/
def createFixtureAction (displayOnly : Bool) (m : Nat) (f : FixtureInput) (testCase : ULONG) (s : Search) :
    Option (HRESULT × Search) :=
  if f.rejected displayOnly testCase then some (eInvalidarg, s)
  else do
    let (hr, objects) ← createAction m (f.actionRun displayOnly) f.actionMemory s.objects
    if failed hr then return (hr, { s with objects })
    else return (hr, { s with objects, fixtureCount := s.fixtureCount + 1 })

/-- `CfixAddEntrySequenceAction`. -/
def addEntry (x : Nat) (memory : Bool) (s : Search) : Option (HRESULT × Search) :=
  if !memory then some (eOutofmemory, s)
  else do
    let objects ← referenceAction x s.objects
    return (sOk, { s with objects, entries := s.entries ++ [x] })

/-- The action of a fixture is created and added; then the creator's reference is given back. -/
def addFixture (displayOnly : Bool) (m : Nat) (f : FixtureInput) (testCase : ULONG) (s : Search) :
    Option (HRESULT × Search) :=
  andThen (createFixtureAction displayOnly m f testCase)
    (fun s' => do
      let (hr, s'') ← addEntry s.objects.actions.length f.entryMemory s'
      let objects ← dereferenceAction s.objects.actions.length s''.objects
      return (hr, { s'' with objects })) s

/-- `CfixrunsAddFixturesOfModuleToSequenceAction`. -/
def addFixturesOfModule (displayOnly : Bool) (m : Nat) : List FixtureInput → Search → Option (HRESULT × Search)
  | [], s        => some (sOk, s)
  | f :: rest, s =>
    match f.filter with
    | none          => addFixturesOfModule displayOnly m rest s
    | some testCase => andThen (addFixture displayOnly m f testCase) (addFixturesOfModule displayOnly m rest) s

/-- The number of the new module is the length of the table. -/
def createModule (s : Search) : Search :=
  { s with objects := { s.objects with modules := create s.objects.modules } }

/-- A module is created, used and dereferenced. -/
def withModule (use : Nat → Search → Option (HRESULT × Search)) (s : Search) : Option (HRESULT × Search) := do
  let (hr, s') ← use s.objects.modules.length (createModule s)
  let objects ← dereferenceModule s.objects.modules.length s'.objects
  return (hr, { s' with objects })

/-- `CfixrunsAddFixturesOfDllToSequenceAction`. -/
def addFixturesOfDll (displayOnly : Bool) (f : FileInput) (searchPerformed : Bool) (s : Search) :
    Option (HRESULT × Search) :=
  if failed f.loadHr then some (if searchPerformed then sOk else f.loadHr, s)
  else withModule (fun m => addFixturesOfModule displayOnly m f.fixtures) s

/-- `CfixrunsVisit` calls back for DLLs, and for drivers if they are included. -/
def FileInput.visited (enableKernelFeatures : Bool) (f : FileInput) : Bool :=
  match f.type with
  | .dll   => true
  | .sys   => enableKernelFeatures
  | .other => false

/-- `CfixrunsVisit`. -/
def visit (o : SearchOptions) (f : FileInput) (searchPerformed : Bool) (s : Search) : Option (HRESULT × Search) :=
  if f.visited o.enableKernelFeatures then addFixturesOfDll o.displayOnly f searchPerformed s else some (sOk, s)

/-- A directory that denies access is ignored. -/
def ignoreAccessDenied (hr : HRESULT) : HRESULT := if hr = eAccessdenied then sOk else hr

/-- `CfixutilsTraverseDirectory`, where `loop` goes through what is found. -/
def traverseDirectory (early : Option HRESULT) (loop : Search → Option (HRESULT × Search)) (s : Search) :
    Option (HRESULT × Search) :=
  match early with
  | some hr => some (hr, s)
  | none    => loop s

/-- The loop of `CfixutilsTraverseDirectory`. -/
def traverse (o : SearchOptions) : Entries → Search → Option (HRESULT × Search)
  | .nil, s                                   => some (sOk, s)
  | .dots rest, s                             => traverse o rest s
  | .reparsePoint combined rest, s            =>
    if combined then traverse o rest s else some (eUnexpected, s)
  | .directory combined early inner rest, s   =>
    if o.recursiveSearch then
      -- the result of the inner traversal takes the place of that of PathCombine
      andThen (fun s => (traverseDirectory early (traverse o inner) s).map (Prod.map ignoreAccessDenied id))
        (traverse o rest) s
    else if combined then traverse o rest s
    else some (eUnexpected, s)
  -- here, too, whether PathCombine succeeded plays no part
  | .file f rest, s                           => andThen (visit o f true) (traverse o rest) s

/-- `CfixutilSearch`, as `CfixrunSearchModules` calls it. -/
def search (o : SearchOptions) : Location → Search → Option (HRESULT × Search)
  | .missing, s                 => some (eFileNotFound, s)
  | .file f, s                  => visit o f false s
  | .directory early entries, s => traverseDirectory early (traverse o entries) s

/-- `SequenceAction->Dereference`: `CfixsDeleteSequenceAction` dereferences the entries. -/
def dereferenceSequence (s : Search) : Option Search := do
  let (last, sequences) ← dereference s.sequences 0
  if last then
    let objects ← s.entries.foldlM (fun o x => dereferenceAction x o) s.objects
    return { s with objects, sequences, entries := [] }
  else return { s with sequences }

/-- `CfixrunpSearchFixturesAndCreateSequenceAction` and `CfixrunpCreateSequenceAction`, which differ in how the
    sequence is populated. -/
def createSequenceAction (memory : Bool) (populate : Search → Option (HRESULT × Search)) (s : Search) :
    Option (HRESULT × Search) :=
  if !memory then some (eOutofmemory, s)
  else do
    let (hr, s') ← populate { s with sequences := create s.sequences }
    if failed hr then
      let s'' ← dereferenceSequence s'
      return (hr, s'')
    else return (sOk, s')

/-- `CfixrunpAssembleExecutionAction` and `CfixrunpAssembleDisplayAction`. -/
def assembleAction (o : SearchOptions) (sequenceMemory : Bool) : InputFile → Option (HRESULT × Search)
  | .dynamicallyLoadable location       => createSequenceAction sequenceMemory (search o location) Search.empty
  | .currentExecutable moduleHr fixtures =>
    if failed moduleHr then some (moduleHr, Search.empty)
    else withModule (fun m => createSequenceAction sequenceMemory (addFixturesOfModule o.displayOnly m fixtures))
      Search.empty

/-! ## Contexts and sink -/

/-- The execution contexts of the runner, the sinks, and the proxies of the contexts. At most one of each is
    created, and the proxy has references on the context and the sink. -/
structure Contexts where
  contexts : Table
  sinks    : Table
  proxies  : Table
  deriving DecidableEq, Repr

def Contexts.empty : Contexts where
  contexts := []
  sinks    := []
  proxies  := []

def dereferenceContext (c : Contexts) : Option Contexts := do
  let (_, contexts) ← dereference c.contexts 0
  return { c with contexts }

def dereferenceSink (c : Contexts) : Option Contexts := do
  let (_, sinks) ← dereference c.sinks 0
  return { c with sinks }

def referenceProxy (c : Contexts) : Option Contexts := do
  let proxies ← reference c.proxies 0
  return { c with proxies }

/-- `CfixsEventEmittingProxyDereference`. -/
def dereferenceProxy (c : Contexts) : Option Contexts := do
  let (last, proxies) ← dereference c.proxies 0
  if last then
    let c' ← dereferenceContext { c with proxies }
    dereferenceSink c'
  else return { c with proxies }

/-- `CfixCreateEventEmittingExecutionContextProxy`. -/
def createProxy (memory : Bool) (c : Contexts) : Option (HRESULT × Contexts) :=
  if !memory then some (eOutofmemory, c)
  else do
    let sinks ← reference c.sinks 0
    let contexts ← reference c.contexts 0
    return (sOk, { contexts, sinks, proxies := create c.proxies })

/-- `CfixrunsCreateExecutionContextAndEventSink`. -/
def createExecutionContextAndEventSink (contextHr sinkHr : HRESULT) (proxyMemory : Bool) :
    Option (HRESULT × Contexts) :=
  if failed contextHr then some (contextHr, Contexts.empty)
  else if failed sinkHr then do
    let c ← dereferenceContext { Contexts.empty with contexts := create [] }
    return (sinkHr, c)
  else do
    let (hr, c) ← createProxy proxyMemory { Contexts.empty with contexts := create [], sinks := create [] }
    let c' ← dereferenceContext c
    let c'' ← dereferenceSink c'
    return (hr, c'')

/-! ## Run -/

/-- The object is not freed. -/
def alive (t : Table) (x : Nat) : Bool :=
  match t[x]? with
  | some (_ + 1) => true
  | _            => false

/-- The calls on the execution context that come with a run. -/
def performCalls : List RefCall → Contexts → Option Contexts
  | [], c                    => some c
  | .reference :: calls, c   => (referenceProxy c).bind (performCalls calls)
  | .dereference :: calls, c => (dereferenceProxy c).bind (performCalls calls)

/-- `Run` of an action. -/
def runAction (o : Objects) (x : Nat) (c : Contexts) : Option (HRESULT × Contexts) :=
  match o.details[x]? with
  | none          => none
  | some (_, run) =>
    if alive o.actions x && alive c.proxies 0 then (performCalls run.calls c).map (fun c' => (run.hr, c'))
    else none

/-- The loop of `CfixsRunSequenceAction` that runs the actions; `hr` is the result so far. -/
def runActions (o : Objects) : List Nat → HRESULT → Contexts → Option (HRESULT × Contexts)
  | [], hr, c        => some (hr, c)
  | x :: rest, _, c  => do
    let (hr, c') ← runAction o x c
    if failed hr then return (hr, c') else runActions o rest hr c'

/-- `CfixsRunSequenceAction`. -/
def runSequenceAction (arrayMemory : Bool) (s : Search) (c : Contexts) : Option (HRESULT × Search × Contexts) :=
  -- Entries.Count is a LONG; the entries themselves take more memory than the array, so its size does not wrap
  let count := s.entries.length % 2 ^ 32
  if count = 0 then some (sOk, s, c)
  else if !arrayMemory then some (eOutofmemory, s, c)
  else if count < s.entries.length then none
  else do
    let objects ← s.entries.foldlM (fun o x => referenceAction x o) s.objects
    let (hr, c') ← runActions objects s.entries sOk c
    let objects' ← s.entries.foldlM (fun o x => dereferenceAction x o) objects
    return (hr, { s with objects := objects' }, c')

/-! ## The main worker -/

/-- The objects that were created until `CfixrunsMainWorker` returns. -/
structure Remains where
  objects   : Objects
  sequences : Table
  contexts  : Contexts
  deriving DecidableEq, Repr

/-- The objects of the search, and the contexts. -/
def Search.remains (s : Search) (contexts : Contexts) : Remains where
  objects   := s.objects
  sequences := s.sequences
  contexts  := contexts

/-- What `CfixrunsMainWorker` does after the run. -/
def finishRun (hr : HRESULT) (s : Search) (c : Contexts) : Option (HRESULT × Remains) :=
  -- CfixrunpGetStatisticsExecutionContext reads the inner context, on which only the proxy has a reference
  if !alive c.contexts 0 then none
  else do
    let c' ← dereferenceProxy c
    let s' ← dereferenceSequence s
    return (hr, s'.remains c')

/-- The last branch of `CfixrunsMainWorker`. -/
def runAssembled (env : Environment) (s : Search) : Option (HRESULT × Remains) := do
  let (hr, c) ← createExecutionContextAndEventSink env.contextHr env.sinkHr env.proxyMemory
  if failed hr then
    let s' ← dereferenceSequence s
    return (hr, s'.remains c)
  else
    let (hr', s', c') ← runSequenceAction env.arrayMemory s c
    finishRun hr' s' c'

/-- `CfixrunsMainWorker`: its result, and the objects that it has created. -/
def mainWorkerObjects (env : Environment) : Option (HRESULT × Remains) :=
  match env.inputFile with
  | none           => some (eFileNotFound, Search.empty.remains Contexts.empty)
  | some inputFile => do
    let (hr, s) ← assembleAction env.options env.sequenceMemory inputFile
    if failed hr then return (hr, s.remains Contexts.empty)
    -- there is no fixture: the sequence action is not dereferenced
    else if s.fixtureCount = 0#32 then return (hr, s.remains Contexts.empty)
    else runAssembled env s

end Cfix.Runner
