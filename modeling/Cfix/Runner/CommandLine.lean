import Cfix.Cdiag.Helper
import Mathlib.Data.List.Induction

/-!
# `Runner.CommandLine` — the command line parser (`cfixrun/cmdline.c`)

The arguments are scanned one by one: flags, the values of flags and, as the last argument, the input file. The
grammar that this is to accept is stated apart (`Words`, `Grammar`). An empty last argument is skipped like any
other, and then there is no input file.
-/

namespace Cfix.CommandLine

open Cdiag (CString WCHAR wide)

/-! ## Options -/

/-- The `BOOL` members of `CFIXRUN_OPTIONS`. -/
inductive Switch where
  | recursiveSearch
  | abortOnFirstFailure
  | doNotCatchUnhandledExceptions
  | alwaysBreakOnFailure
  | displayOnly
  | summary
  | pauseAtEnd
  | pauseAtBeginning
  | enableKernelFeatures
  | shortCircuitFixtureOnFailure
  | shortCircuitRunOnFailure
  | shortCircuitRunOnSetupFailure
  | noLogo
  | disableStackTraces
  | omitSourceInfoInStackTrace
  deriving DecidableEq, Repr

/-- The members that are strings, apart from the input file. -/
inductive Member where
  | fixture
  | fixturePrefix
  | eventDll
  | eventDllOptions
  deriving DecidableEq, Repr

/-- `CFIXRUN_INPUT_FILE_TYPE`. -/
inductive InputFileType where
  | dynamicallyLoadable
  | requiresSpawn
  deriving DecidableEq, Repr

/-- `CFIXRUN_OPTIONS`. -/
structure Options where
  inputFileType : InputFileType
  inputFile     : Option CString
  switch        : Switch → Bool
  value         : Member → Option CString

/-- The options as the parser gets them, which its callers have zeroed. -/
def Options.zeroed : Options where
  inputFileType := .dynamicallyLoadable
  inputFile     := none
  switch _      := false
  value _       := none

/-! ## Flags -/

inductive PlainFlag where
  | switch (s : Switch)
  | exe
  deriving DecidableEq, Repr

/-- A flag with a value. That of a flag which has been removed is ignored. -/
inductive ValueFlag where
  | member (m : Member)
  | removed (warning : String)
  deriving DecidableEq, Repr

inductive Flag where
  | plain (p : PlainFlag)
  | valued (v : ValueFlag)
  deriving DecidableEq, Repr

/-- The names that the parser compares with, in its order. -/
def flagTable : List (String × Flag) :=
  [("r",     .plain (.switch .recursiveSearch)),
   ("n",     .valued (.member .fixture)),
   ("p",     .valued (.member .fixturePrefix)),
   ("f",     .plain (.switch .abortOnFirstFailure)),
   ("u",     .plain (.switch .doNotCatchUnhandledExceptions)),
   ("b",     .plain (.switch .alwaysBreakOnFailure)),
   ("d",     .plain (.switch .displayOnly)),
   ("z",     .plain (.switch .summary)),
   ("y",     .plain (.switch .pauseAtEnd)),
   ("Y",     .plain (.switch .pauseAtBeginning)),
   ("kern",  .plain (.switch .enableKernelFeatures)),
   ("exe",   .plain .exe),
   ("fsf",   .plain (.switch .shortCircuitFixtureOnFailure)),
   ("fsr",   .plain (.switch .shortCircuitRunOnFailure)),
   ("fss",   .plain (.switch .shortCircuitRunOnSetupFailure)),
   ("out",   .valued (.removed "Warning: Option -out has been removed and will be ignored.\n")),
   ("log",   .valued (.removed "Warning: Option -log has been removed and will be ignored.\n")),
   ("eventdll",        .valued (.member .eventDll)),
   ("eventdlloptions", .valued (.member .eventDllOptions)),
   ("nologo", .plain (.switch .noLogo)),
   ("ts",     .plain (.switch .omitSourceInfoInStackTrace)),
   ("td",     .plain (.switch .disableStackTraces))]

def flagNamed (flagName : List WCHAR) : Option Flag :=
  (flagTable.find? fun entry => (wide entry.1).chars == flagName).map (·.2)

/-- A dash or a slash. -/
def isFlagChar (ch : WCHAR) : Bool := ch == 0x2D#16 || ch == 0x2F#16

/-! ## The scanner -/

/-- `PARSE_STATE`; a value that is expected goes to a member, or is ignored. -/
inductive ParseState where
  | expectAny
  | expectValue (target : Option Member)
  deriving DecidableEq, Repr

/-- A call of `PrintConsole`: the format and what is inserted. -/
structure Message where
  format    : String
  arguments : List CString
  deriving DecidableEq

structure Scan where
  state   : ParseState
  options : Options
  printed : List Message

def Scan.initial : Scan where
  state   := .expectAny
  options := { Options.zeroed with inputFileType := .dynamicallyLoadable }
  printed := []

def Scan.print (sc : Scan) (format : String) (arguments : List CString) : Scan :=
  { sc with printed := sc.printed ++ [⟨format, arguments⟩] }

def PlainFlag.set : PlainFlag → Options → Options
  | .switch s, o => { o with switch := Function.update o.switch s true }
  | .exe,      o => { o with inputFileType := .requiresSpawn }

/-- What a known flag does. -/
def Flag.take : Flag → Scan → Scan
  | .plain p,                   sc => { sc with state := .expectAny, options := p.set sc.options }
  | .valued (.member m),        sc => { sc with state := .expectValue (some m) }
  | .valued (.removed warning), sc => { sc.print warning [] with state := .expectValue none }

/-- `*Value = Argv[ ArgIndex ]`. -/
def Options.setValue (o : Options) (target : Option Member) (text : CString) : Options :=
  match target with
  | some m => { o with value := Function.update o.value m (some text) }
  | none   => o

/-- Why an argument is refused. -/
inductive Refusal where
  | expectedValue
  | unknownFlag
  | unexpectedValue
  deriving DecidableEq, Repr

def Refusal.message (previous arg : CString) : Refusal → Message
  | .expectedValue   => ⟨"Expected value after '%s'\n", [previous]⟩
  | .unknownFlag     => ⟨"Unknown flag '%s'\n", [arg]⟩
  | .unexpectedValue => ⟨"Unexpected value '%s'\n", [arg]⟩

/-- An argument that is not the last one. -/
def scanArg (arg : CString) (sc : Scan) : Except Refusal Scan :=
  match arg.chars with
  | []             => .ok sc
  | ch :: flagName =>
    match isFlagChar ch, sc.state with
    | true,  .expectValue _      => .error .expectedValue
    | true,  .expectAny          =>
      match flagNamed flagName with
      | none      => .error .unknownFlag
      | some flag => .ok (flag.take sc)
    | false, .expectAny          => .error .unexpectedValue
    | false, .expectValue target =>
      .ok { sc with state := .expectAny, options := sc.options.setValue target arg }

/-- The last argument is the input file. -/
def scanLast (arg : CString) (sc : Scan) : Except Refusal Scan :=
  match sc.state with
  | .expectValue _ => .error .expectedValue
  | .expectAny     => .ok { sc with options := { sc.options with inputFile := some arg } }

/-- The loop, with the argument that was before; an error is the return of `FALSE`. -/
def scanArgs : CString → List CString → Scan → Except Scan Scan
  | _,        [],          sc => .ok sc
  | previous, arg :: rest, sc =>
    if arg.length = 0 then scanArgs arg rest sc
    else
      match if rest.isEmpty then scanLast arg sc else scanArg arg sc with
      | .error refusal => .error { sc with printed := sc.printed ++ [refusal.message previous arg] }
      | .ok sc         => scanArgs arg rest sc

/-! ## The parser -/

/-- An access through a `NULL` pointer. -/
inductive Fault where
  | nullInputFile
  deriving DecidableEq, Repr

/-- `CfixrunpIsExe`, with the case mapping of `_wcsicmp`. -/
def isExe (lower : WCHAR → WCHAR) (path : CString) : Bool :=
  4 < path.length && (path.chars.drop (path.length - 4)).map lower == (wide ".exe").chars.map lower

/-- The checks for `-exe`. -/
def checkExe (lower : WCHAR → WCHAR) (sc : Scan) : Except Fault (Bool × Scan) :=
  if sc.options.inputFileType = .requiresSpawn then
    if sc.options.switch .enableKernelFeatures then
      .ok (false, sc.print "Cannot use -kern and -exe at the same time\n" [])
    else if sc.options.switch .recursiveSearch then
      .ok (false, sc.print "Cannot use -r and -exe at the same time\n" [])
    else if sc.options.switch .pauseAtBeginning || sc.options.switch .pauseAtEnd then
      .ok (false, sc.print "-y and -Y are currently not supported in conjunction with -exe\n" [])
    else
      match sc.options.inputFile with
      | none      => .error .nullInputFile
      | some file =>
        if !isExe lower file then .ok (false, sc.print "-exe is only applicable for .exe files\n" [])
        else .ok (true, sc)
  else .ok (true, sc)

/-- `CfixrunParseCommandLine`: what it returns, with the options and the messages. -/
def parseCommandLine (lower : WCHAR → WCHAR) (argv : List CString) : Except Fault (Bool × Scan) :=
  match argv with
  | []              => checkExe lower .initial
  | program :: args =>
    match scanArgs program args .initial with
    | .error sc => .ok (false, sc)
    | .ok sc    => checkExe lower sc

/-! ## The grammar -/

/-- A flag where it occurs, with its value. -/
inductive Occurrence where
  | plain (p : PlainFlag)
  | valued (v : ValueFlag) (text : CString)
  deriving DecidableEq

def IsFlag (arg : CString) (flag : Flag) : Prop :=
  ∃ ch flagName, arg.chars = ch :: flagName ∧ isFlagChar ch = true ∧ flagNamed flagName = some flag

def IsValue (arg : CString) : Prop := ∃ ch rest, arg.chars = ch :: rest ∧ isFlagChar ch = false

/-- Known flags, each flag with a value before its value. -/
inductive Words : List CString → List Occurrence → Prop where
  | nil : Words [] []
  | plain {arg : CString} {p : PlainFlag} {args : List CString} {occ : List Occurrence} :
      IsFlag arg (.plain p) → Words args occ → Words (arg :: args) (.plain p :: occ)
  | valued {arg text : CString} {v : ValueFlag} {args : List CString} {occ : List Occurrence} :
      IsFlag arg (.valued v) → IsValue text → Words args occ → Words (arg :: text :: args) (.valued v text :: occ)

/-- Flags that `-exe` does not go with. -/
def Conflict (occ : List Occurrence) : Prop :=
  .plain (.switch .enableKernelFeatures) ∈ occ ∨ .plain (.switch .recursiveSearch) ∈ occ ∨
  .plain (.switch .pauseAtBeginning) ∈ occ ∨ .plain (.switch .pauseAtEnd) ∈ occ

/-- The restrictions for `-exe`. -/
def Permitted (lower : WCHAR → WCHAR) (occ : List Occurrence) (file : CString) : Prop :=
  .plain .exe ∈ occ → ¬ Conflict occ ∧ isExe lower file = true

/-- Flags with their values, and an input file. -/
def Grammar (lower : WCHAR → WCHAR) (args : List CString) (occ : List Occurrence) (file : CString) : Prop :=
  ∃ flags, args = flags ++ [file] ∧ Words flags occ ∧ Permitted lower occ file

/-- The value of a member where its flag occurs last. -/
def lastValue (occ : List Occurrence) (m : Member) : Option CString :=
  (occ.filterMap fun
    | .valued (.member m') text => if m' = m then some text else none
    | _                         => none).getLast?

/-- Each flag has set its option, and each value is that of the last occurrence of its flag. -/
structure FlagsOf (occ : List Occurrence) (o : Options) : Prop where
  inputFileType : o.inputFileType = .requiresSpawn ↔ .plain .exe ∈ occ
  switch        : ∀ s, o.switch s = true ↔ .plain (.switch s) ∈ occ
  value         : ∀ m, o.value m = lastValue occ m

structure OptionsOf (occ : List Occurrence) (file : CString) (o : Options) : Prop extends FlagsOf occ o where
  inputFile : o.inputFile = some file

def nonempty (args : List CString) : List CString := args.filter fun arg => arg.length ≠ 0

/-- The parser accepts what the grammar derives from the arguments that are not empty, and then has the options that
    the flags say. -/
def ParsesGrammar (lower : WCHAR → WCHAR) (program : CString) (args : List CString) : Prop :=
  ∃ accepted sc, parseCommandLine lower (program :: args) = .ok (accepted, sc) ∧
    (accepted = true ↔ ∃ occ file, Grammar lower (nonempty args) occ file) ∧
    (accepted = true → ∀ occ file, Grammar lower (nonempty args) occ file → OptionsOf occ file sc.options)

/-! ## One argument -/

theorem scanArg_any {arg : CString} {sc sc' : Scan} (hs : sc.state = .expectAny) (hn : arg.length ≠ 0)
    (h : scanArg arg sc = .ok sc') : ∃ flag, IsFlag arg flag ∧ sc' = flag.take sc := by
  cases ha : arg.chars with
  | nil => exact absurd (by rw [CString.length, ha, List.length_nil]) hn
  | cons ch flagName =>
      simp only [scanArg, ha, hs] at h
      cases hc : isFlagChar ch with
      | false => simp [hc] at h
      | true =>
          simp only [hc] at h
          cases hf : flagNamed flagName with
          | none => simp [hf] at h
          | some flag =>
              simp only [hf, Except.ok.injEq] at h
              exact ⟨flag, ⟨ch, flagName, ha, hc, hf⟩, h.symm⟩

theorem scanArg_value {text : CString} {sc sc' : Scan} {target : Option Member} (hs : sc.state = .expectValue target)
    (hn : text.length ≠ 0) (h : scanArg text sc = .ok sc') :
    IsValue text ∧ sc' = { sc with state := .expectAny, options := sc.options.setValue target text } := by
  cases ha : text.chars with
  | nil => exact absurd (by rw [CString.length, ha, List.length_nil]) hn
  | cons ch rest =>
      simp only [scanArg, ha, hs] at h
      cases hc : isFlagChar ch with
      | true => simp [hc] at h
      | false =>
          simp only [hc, Except.ok.injEq] at h
          exact ⟨⟨ch, rest, ha, hc⟩, h.symm⟩

theorem IsFlag.scanArg {arg : CString} {flag : Flag} (h : IsFlag arg flag) {sc : Scan} (hs : sc.state = .expectAny) :
    scanArg arg sc = .ok (flag.take sc) := by
  obtain ⟨ch, flagName, ha, hc, hf⟩ := h
  simp [CommandLine.scanArg, ha, hc, hs, hf]

theorem IsValue.scanArg {text : CString} (h : IsValue text) {sc : Scan} {target : Option Member}
    (hs : sc.state = .expectValue target) :
    scanArg text sc = .ok { sc with state := .expectAny, options := sc.options.setValue target text } := by
  obtain ⟨ch, rest, ha, hc⟩ := h
  simp [CommandLine.scanArg, ha, hc, hs]

/-! ## The arguments before the last one -/

def scanAll : List CString → Scan → Except Refusal Scan
  | [],          sc => .ok sc
  | arg :: rest, sc => (scanArg arg sc).bind (scanAll rest)

theorem scanAll_cons {arg : CString} {rest : List CString} {sc mid : Scan} (h : scanArg arg sc = .ok mid) :
    scanAll (arg :: rest) sc = scanAll rest mid := by
  rw [scanAll, h]; rfl

theorem scanAll_cons_ok {arg : CString} {rest : List CString} {sc sc' : Scan} :
    scanAll (arg :: rest) sc = .ok sc' ↔ ∃ mid, scanArg arg sc = .ok mid ∧ scanAll rest mid = .ok sc' := by
  rw [scanAll]
  cases scanArg arg sc with
  | error refusal => simp [Except.bind]
  | ok mid => simp [Except.bind]

theorem scanAll_append {init args : List CString} {sc mid : Scan} (h : scanAll init sc = .ok mid) :
    scanAll (init ++ args) sc = scanAll args mid := by
  induction init generalizing sc with
  | nil => cases h; rfl
  | cons arg rest ih =>
      obtain ⟨next, hn, hr⟩ := scanAll_cons_ok.mp h
      rw [List.cons_append, scanAll_cons hn]
      exact ih hr

theorem scanArg_empty {arg : CString} (h : arg.length = 0) (sc : Scan) : scanArg arg sc = .ok sc := by
  have ha : arg.chars = [] := List.length_eq_zero_iff.mp h
  simp [scanArg, ha]

theorem scanAll_nonempty (args : List CString) (sc : Scan) : scanAll (nonempty args) sc = scanAll args sc := by
  induction args generalizing sc with
  | nil => rfl
  | cons arg rest ih =>
      by_cases h : arg.length = 0
      · rw [scanAll_cons (scanArg_empty h sc), ← ih sc]
        simp [nonempty, h]
      · have hc : nonempty (arg :: rest) = arg :: nonempty rest := by simp [nonempty, h]
        rw [hc, scanAll, scanAll]
        exact congrArg _ (funext ih)

/-- The arguments before the last one are scanned by themselves; what the last one adds depends on its being empty. -/
theorem scanArgs_ok {previous last : CString} {init : List CString} {sc sc' : Scan} :
    scanArgs previous (init ++ [last]) sc = .ok sc' ↔
      ∃ mid, scanAll init sc = .ok mid ∧ (if last.length = 0 then .ok mid else scanLast last mid) = Except.ok sc' := by
  induction init generalizing previous sc with
  | nil =>
      simp only [List.nil_append, scanArgs, List.isEmpty_nil, scanAll]
      by_cases hl : last.length = 0
      · simp [hl]
      · cases h : scanLast last sc with
        | error refusal => simp [h, hl]
        | ok sc => simp [h, hl]
  | cons arg rest ih =>
      rw [List.cons_append, scanArgs]
      by_cases h : arg.length = 0
      · rw [if_pos h, ih, scanAll_cons (scanArg_empty h sc)]
      · rw [if_neg h, scanAll]
        cases scanArg arg sc with
        | error refusal => simp [Except.bind]
        | ok mid => simpa [Except.bind] using ih

/-! ## Flags and their effects -/

def Occurrence.take : Occurrence → Scan → Scan
  | .plain p,       sc => (Flag.plain p).take sc
  | .valued v text, sc =>
    let sc := (Flag.valued v).take sc
    match sc.state with
    | .expectValue target => { sc with state := .expectAny, options := sc.options.setValue target text }
    | .expectAny          => sc

def takeAll (occ : List Occurrence) (sc : Scan) : Scan := occ.foldl (fun sc o => o.take sc) sc

@[simp] theorem takeAll_cons (o : Occurrence) (occ : List Occurrence) (sc : Scan) :
    takeAll (o :: occ) sc = takeAll occ (o.take sc) := rfl

theorem takeAll_append_singleton (occ : List Occurrence) (o : Occurrence) (sc : Scan) :
    takeAll (occ ++ [o]) sc = o.take (takeAll occ sc) := by
  rw [takeAll, List.foldl_append]; rfl

theorem Occurrence.take_state (o : Occurrence) (sc : Scan) : (o.take sc).state = .expectAny := by
  cases o with
  | plain p => rfl
  | valued v text => cases v with
    | member m => rfl
    | removed warning => rfl

theorem takeAll_state {sc : Scan} (hs : sc.state = .expectAny) (occ : List Occurrence) :
    (takeAll occ sc).state = .expectAny := by
  induction occ generalizing sc with
  | nil => exact hs
  | cons o occ ih => exact ih (o.take_state sc)

theorem Occurrence.take_valued {v : ValueFlag} {text : CString} {sc : Scan} {target : Option Member}
    (h : ((Flag.valued v).take sc).state = .expectValue target) :
    (Occurrence.valued v text).take sc =
      { (Flag.valued v).take sc with
          state := .expectAny, options := ((Flag.valued v).take sc).options.setValue target text } := by
  simp [Occurrence.take, h]

theorem Occurrence.take_inputFile (o : Occurrence) (sc : Scan) :
    (o.take sc).options.inputFile = sc.options.inputFile := by
  cases o with
  | plain p => cases p <;> rfl
  | valued v text => cases v <;> rfl

theorem takeAll_inputFile (occ : List Occurrence) (sc : Scan) :
    (takeAll occ sc).options.inputFile = sc.options.inputFile := by
  induction occ generalizing sc with
  | nil => rfl
  | cons o occ ih => exact (ih _).trans (o.take_inputFile sc)

/-- A flag with a value leaves the parser waiting for it, and changes no option. -/
theorem valued_take (v : ValueFlag) (sc : Scan) :
    ∃ target, ((Flag.valued v).take sc).state = .expectValue target ∧ ((Flag.valued v).take sc).options = sc.options := by
  cases v with
  | member m => exact ⟨some m, rfl, rfl⟩
  | removed warning => exact ⟨none, rfl, rfl⟩

theorem Words.scanAll {args : List CString} {occ : List Occurrence} (h : Words args occ) {sc : Scan}
    (hs : sc.state = .expectAny) : scanAll args sc = .ok (takeAll occ sc) := by
  induction h generalizing sc with
  | nil => rfl
  | @plain arg p args occ hf hw ih =>
      rw [scanAll_cons (hf.scanArg hs)]
      exact ih rfl
  | @valued arg text v args occ hf ht hw ih =>
      obtain ⟨target, hv, ho⟩ := valued_take v sc
      rw [scanAll_cons (hf.scanArg hs), scanAll_cons (ht.scanArg hv)]
      rw [ih rfl, takeAll_cons, Occurrence.take_valued hv]

/-- Flags with their values; the value of the last flag may be missing. -/
def FlagsOnly (args : List CString) (occ : List Occurrence) : Prop :=
  Words args occ ∨ ∃ init flag v, args = init ++ [flag] ∧ Words init occ ∧ IsFlag flag (.valued v)

/-- Where no argument is empty, the scan gets through flags only. -/
theorem scanAll_flags {args : List CString} {sc sc' : Scan} (hs : sc.state = .expectAny)
    (hn : ∀ arg ∈ args, arg.length ≠ 0) (h : scanAll args sc = .ok sc') :
    ∃ occ, (Words args occ ∧ sc' = takeAll occ sc) ∨
      ∃ init flag v, args = init ++ [flag] ∧ Words init occ ∧ IsFlag flag (.valued v) ∧
        sc' = (Flag.valued v).take (takeAll occ sc) := by
  induction args using List.twoStepInduction generalizing sc with
  | nil => exact ⟨[], .inl ⟨.nil, by cases h; rfl⟩⟩
  | singleton arg =>
      obtain ⟨mid, hm, h⟩ := scanAll_cons_ok.mp h
      obtain ⟨flag, hf, rfl⟩ := scanArg_any hs (hn _ (by simp)) hm
      cases h
      cases flag with
      | plain p => exact ⟨[.plain p], .inl ⟨.plain hf .nil, rfl⟩⟩
      | valued v => exact ⟨[], .inr ⟨[], arg, v, rfl, .nil, hf, rfl⟩⟩
  | cons_cons arg text rest ih ih' =>
      obtain ⟨mid, hm, h⟩ := scanAll_cons_ok.mp h
      obtain ⟨flag, hf, rfl⟩ := scanArg_any hs (hn _ (by simp)) hm
      cases flag with
      | plain p =>
          obtain ⟨occ, ⟨hw, rfl⟩ | ⟨init, flag, v, he, hw, hv, rfl⟩⟩ :=
            ih' text (rfl : ((Flag.plain p).take sc).state = .expectAny) (fun a ha => hn a (List.mem_cons_of_mem _ ha)) h
          · exact ⟨.plain p :: occ, .inl ⟨.plain hf hw, rfl⟩⟩
          · exact ⟨.plain p :: occ, .inr ⟨arg :: init, flag, v, by rw [he]; rfl, .plain hf hw, hv, rfl⟩⟩
      | valued v =>
          obtain ⟨target, hv, ho⟩ := valued_take v sc
          obtain ⟨mid, hm, h⟩ := scanAll_cons_ok.mp h
          obtain ⟨ht, rfl⟩ := scanArg_value hv (hn _ (by simp)) hm
          rw [← Occurrence.take_valued hv] at h
          obtain ⟨occ, ⟨hw, rfl⟩ | ⟨init, flag, w, he, hw, hf', rfl⟩⟩ :=
            ih (Occurrence.take_state _ _) (fun a ha => hn a (by simp [ha])) h
          · exact ⟨.valued v text :: occ, .inl ⟨.valued hf ht hw, rfl⟩⟩
          · exact ⟨.valued v text :: occ, .inr ⟨arg :: text :: init, flag, w, by rw [he]; rfl, .valued hf ht hw, hf', rfl⟩⟩

theorem FlagsOnly.scanAll {args : List CString} {occ : List Occurrence} (h : FlagsOnly args occ) {sc : Scan}
    (hs : sc.state = .expectAny) :
    ∃ sc', scanAll args sc = .ok sc' ∧ sc'.options = (takeAll occ sc).options := by
  rcases h with hw | ⟨init, flag, v, rfl, hw, hf⟩
  · exact ⟨_, hw.scanAll hs, rfl⟩
  · obtain ⟨_, _, ho⟩ := valued_take v (takeAll occ sc)
    refine ⟨_, ?_, ho⟩
    rw [scanAll_append (hw.scanAll hs), scanAll_cons (hf.scanArg (takeAll_state hs occ))]
    rfl

/-! ## What the flags say -/

theorem flagsOf_initial : FlagsOf [] Scan.initial.options where
  inputFileType := by simp [Scan.initial]
  switch s      := by simp [Scan.initial, Options.zeroed]
  value m       := rfl

@[simp] theorem lastValue_append_plain (occ : List Occurrence) (p : PlainFlag) (m : Member) :
    lastValue (occ ++ [.plain p]) m = lastValue occ m := by
  simp [lastValue, List.filterMap_append]

@[simp] theorem lastValue_append_removed (occ : List Occurrence) (warning : String) (text : CString) (m : Member) :
    lastValue (occ ++ [.valued (.removed warning) text]) m = lastValue occ m := by
  simp [lastValue, List.filterMap_append]

@[simp] theorem lastValue_append_member (occ : List Occurrence) (m' : Member) (text : CString) (m : Member) :
    lastValue (occ ++ [.valued (.member m') text]) m = if m' = m then some text else lastValue occ m := by
  by_cases h : m' = m
  · simp [lastValue, List.filterMap_append, h]
  · simp [lastValue, List.filterMap_append, h]

theorem FlagsOf.take {occ : List Occurrence} {sc : Scan} (h : FlagsOf occ sc.options) (o : Occurrence) :
    FlagsOf (occ ++ [o]) (o.take sc).options := by
  cases o with
  | plain p => cases p with
    | switch s =>
        refine ⟨?_, fun s' => ?_, fun m => ?_⟩
        · simpa [Occurrence.take, Flag.take, PlainFlag.set] using h.inputFileType
        · by_cases hs : s' = s
          · simp [Occurrence.take, Flag.take, PlainFlag.set, hs]
          · simpa [Occurrence.take, Flag.take, PlainFlag.set, hs] using h.switch s'
        · simpa [Occurrence.take, Flag.take, PlainFlag.set] using h.value m
    | exe =>
        refine ⟨?_, fun s' => ?_, fun m => ?_⟩
        · simp [Occurrence.take, Flag.take, PlainFlag.set]
        · simpa [Occurrence.take, Flag.take, PlainFlag.set] using h.switch s'
        · simpa [Occurrence.take, Flag.take, PlainFlag.set] using h.value m
  | valued v text => cases v with
    | member m' =>
        refine ⟨?_, fun s' => ?_, fun m => ?_⟩
        · simpa [Occurrence.take, Flag.take, Options.setValue] using h.inputFileType
        · simpa [Occurrence.take, Flag.take, Options.setValue] using h.switch s'
        · by_cases hm : m = m'
          · simp [Occurrence.take, Flag.take, Options.setValue, hm]
          · simpa [Occurrence.take, Flag.take, Options.setValue, hm, Ne.symm hm] using h.value m
    | removed warning =>
        refine ⟨?_, fun s' => ?_, fun m => ?_⟩
        · simpa [Occurrence.take, Flag.take, Options.setValue, Scan.print] using h.inputFileType
        · simpa [Occurrence.take, Flag.take, Options.setValue, Scan.print] using h.switch s'
        · simpa [Occurrence.take, Flag.take, Options.setValue, Scan.print] using h.value m

theorem flagsOf_takeAll (occ : List Occurrence) : FlagsOf occ (takeAll occ .initial).options := by
  induction occ using List.reverseRecOn with
  | nil => exact flagsOf_initial
  | append_singleton occ o ih => rw [takeAll_append_singleton]; exact ih.take o

/-! ## The checks for `-exe` -/

theorem FlagsOf.conflict_iff {occ : List Occurrence} {o : Options} (h : FlagsOf occ o) :
    Conflict occ ↔ o.switch .enableKernelFeatures = true ∨ o.switch .recursiveSearch = true ∨
      o.switch .pauseAtBeginning = true ∨ o.switch .pauseAtEnd = true := by
  rw [Conflict, ← h.switch, ← h.switch, ← h.switch, ← h.switch]

theorem FlagsOf.permitted_congr {lower : WCHAR → WCHAR} {occ occ' : List Occurrence} {o : Options} {file : CString}
    (h : FlagsOf occ o) (h' : FlagsOf occ' o) : Permitted lower occ file ↔ Permitted lower occ' file := by
  rw [Permitted, Permitted, ← h.inputFileType, ← h'.inputFileType, h.conflict_iff, h'.conflict_iff]

theorem checkExe_free (lower : WCHAR → WCHAR) {occ : List Occurrence} {sc : Scan} (h : FlagsOf occ sc.options)
    (he : .plain .exe ∉ occ) : checkExe lower sc = .ok (true, sc) := by
  rw [checkExe, if_neg (mt h.inputFileType.mp he)]

theorem checkExe_conflict (lower : WCHAR → WCHAR) {occ : List Occurrence} {sc : Scan} (h : FlagsOf occ sc.options)
    (he : .plain .exe ∈ occ) (hc : Conflict occ) : ∃ sc', checkExe lower sc = .ok (false, sc') := by
  rw [checkExe, if_pos (h.inputFileType.mpr he)]
  split_ifs with hk hr hp
  · exact ⟨_, rfl⟩
  · exact ⟨_, rfl⟩
  · exact ⟨_, rfl⟩
  · rw [Bool.or_eq_true] at hp
    exact absurd (h.conflict_iff.mp hc) (by tauto)

theorem checkExe_noConflict (lower : WCHAR → WCHAR) {occ : List Occurrence} {sc : Scan} (h : FlagsOf occ sc.options)
    (he : .plain .exe ∈ occ) (hc : ¬ Conflict occ) :
    checkExe lower sc =
      match sc.options.inputFile with
      | none      => .error .nullInputFile
      | some file =>
        if isExe lower file then .ok (true, sc)
        else .ok (false, sc.print "-exe is only applicable for .exe files\n" []) := by
  rw [h.conflict_iff] at hc
  push Not at hc
  obtain ⟨hk, hr, hb, hp⟩ := hc
  rw [checkExe, if_pos (h.inputFileType.mpr he)]
  cases hf : sc.options.inputFile with
  | none => simp [hk, hr, hb, hp]
  | some file =>
      cases hx : isExe lower file with
      | true => simp [hk, hr, hb, hp, hx]
      | false => simp [hk, hr, hb, hp, hx]

/-- With an input file, the checks are the restrictions of the grammar. -/
theorem OptionsOf.checkExe (lower : WCHAR → WCHAR) {occ : List Occurrence} {file : CString} {sc : Scan}
    (h : OptionsOf occ file sc.options) :
    ∃ accepted sc', checkExe lower sc = .ok (accepted, sc') ∧ (accepted = true ↔ Permitted lower occ file) ∧
      (accepted = true → sc' = sc) := by
  by_cases he : .plain .exe ∈ occ
  · by_cases hc : Conflict occ
    · obtain ⟨sc', hr⟩ := checkExe_conflict lower h.toFlagsOf he hc
      exact ⟨false, sc', hr, by simp [Permitted, he, hc], by simp⟩
    · have hr := checkExe_noConflict lower h.toFlagsOf he hc
      rw [h.inputFile] at hr
      cases hx : isExe lower file with
      | true => exact ⟨true, sc, by simpa [hx] using hr, by simp [Permitted, hc, hx], fun _ => rfl⟩
      | false => exact ⟨false, _, by simpa [hx] using hr, by simp [Permitted, he, hx], by simp⟩
  · exact ⟨true, sc, checkExe_free lower h.toFlagsOf he, by simp [Permitted, he], fun _ => rfl⟩

/-! ## What is accepted -/

theorem nonempty_append (args args' : List CString) : nonempty (args ++ args') = nonempty args ++ nonempty args' :=
  List.filter_append ..

theorem nonempty_lengths {args : List CString} : ∀ arg ∈ nonempty args, arg.length ≠ 0 := by
  intro arg h
  simpa using (List.mem_filter.mp h).2

theorem Grammar.words {lower : WCHAR → WCHAR} {flags : List CString} {file file' : CString} {occ : List Occurrence}
    (h : Grammar lower (flags ++ [file]) occ file') : file' = file ∧ Words flags occ ∧ Permitted lower occ file := by
  obtain ⟨flags', he, hw, hp⟩ := h
  obtain ⟨rfl, hf⟩ := List.append_inj' he rfl
  cases hf
  exact ⟨rfl, hw, hp⟩

/-- The options that the flags before the input file lead to. -/
theorem Words.scanArgs_last (program : CString) {init : List CString} {last : CString} {occ : List Occurrence}
    (hl : last.length ≠ 0) (hw : Words (nonempty init) occ) :
    ∃ sc, scanArgs program (init ++ [last]) .initial = .ok sc ∧ OptionsOf occ last sc.options := by
  have hs := hw.scanAll (rfl : Scan.initial.state = .expectAny)
  rw [scanAll_nonempty] at hs
  have hf := flagsOf_takeAll occ
  refine ⟨{ takeAll occ .initial with options := { (takeAll occ .initial).options with inputFile := some last } },
    scanArgs_ok.mpr ⟨_, hs, ?_⟩, ⟨⟨hf.inputFileType, hf.switch, hf.value⟩, rfl⟩⟩
  have hst : (takeAll occ .initial).state = .expectAny := takeAll_state rfl occ
  simp only [if_neg hl, scanLast, hst]

/-- With an input file, the parser accepts its grammar. -/
theorem parses_last (lower : WCHAR → WCHAR) (program : CString) {init : List CString} {last : CString}
    (hl : last.length ≠ 0) : ParsesGrammar lower program (init ++ [last]) := by
  have hn : nonempty (init ++ [last]) = nonempty init ++ [last] := by
    rw [nonempty_append]; simp [nonempty, hl]
  rw [ParsesGrammar, hn]
  have hwords {occ : List Occurrence} (hw : Words (nonempty init) occ) := hw.scanArgs_last program hl
  cases hscan : scanArgs program (init ++ [last]) .initial with
  | error sc =>
      refine ⟨false, sc, by simp [parseCommandLine, hscan], ?_, by simp⟩
      refine iff_of_false (by simp) ?_
      rintro ⟨occ, file, hg⟩
      obtain ⟨_, hs, _⟩ := hwords hg.words.2.1
      rw [hscan] at hs
      cases hs
  | ok sc =>
      obtain ⟨mid, hm, hlast⟩ := scanArgs_ok.mp hscan
      rw [if_neg hl] at hlast
      rw [← scanAll_nonempty] at hm
      obtain ⟨occ, ⟨hw, rfl⟩ | ⟨_, _, v, _, _, _, rfl⟩⟩ := scanAll_flags rfl nonempty_lengths hm
      · obtain ⟨sc₁, hs, ho⟩ := hwords hw
        cases hscan.symm.trans hs
        obtain ⟨accepted, sc', hc, hp, hk⟩ := ho.checkExe lower
        refine ⟨accepted, sc', by simp [parseCommandLine, hscan, hc], ?_, fun ha occ' file hg => ?_⟩
        · rw [hp]
          refine ⟨fun hp => ⟨occ, last, nonempty init, rfl, hw, hp⟩, ?_⟩
          rintro ⟨occ', file, hg⟩
          obtain ⟨_, hw', hp'⟩ := hg.words
          obtain ⟨_, hs', ho'⟩ := hwords hw'
          cases hscan.symm.trans hs'
          exact (ho.permitted_congr ho'.toFlagsOf).mpr hp'
        · obtain ⟨rfl, hw', _⟩ := hg.words
          obtain ⟨_, hs', ho'⟩ := hwords hw'
          cases hscan.symm.trans hs'
          rw [hk ha]
          exact ho'
      · obtain ⟨target, hv, _⟩ := valued_take v (takeAll occ .initial)
        rw [scanLast, hv] at hlast
        cases hlast

/-- `-exe`, if it is given, is not combined with what it does not go with. -/
def Combinable (occ : List Occurrence) : Prop := .plain .exe ∈ occ → ¬ Conflict occ

/-- With an empty last argument, flags lead to their options. -/
theorem FlagsOnly.scanArgs_empty (program : CString) {init : List CString} {last : CString} {occ : List Occurrence}
    (hl : last.length = 0) (hw : FlagsOnly (nonempty init) occ) :
    ∃ sc, scanArgs program (init ++ [last]) .initial = .ok sc ∧ FlagsOf occ sc.options ∧ sc.options.inputFile = none := by
  obtain ⟨sc, hs, ho⟩ := hw.scanAll (rfl : Scan.initial.state = .expectAny)
  rw [scanAll_nonempty] at hs
  refine ⟨sc, scanArgs_ok.mpr ⟨sc, hs, if_pos hl⟩, ?_, ?_⟩
  · rw [ho]
    exact flagsOf_takeAll occ
  · rw [ho, takeAll_inputFile]
    rfl

/-- Nothing but flags gets to the end. -/
theorem flagsOnly_of_scanArgs {program : CString} {init : List CString} {last : CString} {sc : Scan}
    (hl : last.length = 0) (h : scanArgs program (init ++ [last]) .initial = .ok sc) :
    ∃ occ, FlagsOnly (nonempty init) occ := by
  obtain ⟨mid, hm, he⟩ := scanArgs_ok.mp h
  rw [if_pos hl] at he
  cases he
  rw [← scanAll_nonempty] at hm
  obtain ⟨occ, ⟨hw, _⟩ | ⟨init', flag, v, he, hw, hv, _⟩⟩ := scanAll_flags rfl nonempty_lengths hm
  · exact ⟨occ, .inl hw⟩
  · exact ⟨occ, .inr ⟨init', flag, v, he, hw, hv⟩⟩

/-- With an empty last argument there is no input file: the parser must not have been content with the flags, and
    the grammar must not have taken the argument before for the input file. -/
theorem parses_empty (lower : WCHAR → WCHAR) (program : CString) {init : List CString} {last : CString}
    (hl : last.length = 0) :
    ParsesGrammar lower program (init ++ [last]) ↔
      (¬ ∃ occ file, Grammar lower (nonempty init) occ file) ∧
        ¬ ∃ occ, FlagsOnly (nonempty init) occ ∧ Combinable occ := by
  have hn : nonempty (init ++ [last]) = nonempty init := by
    rw [nonempty_append]; simp [nonempty, hl]
  rw [ParsesGrammar, hn]
  have hflags {occ : List Occurrence} (hw : FlagsOnly (nonempty init) occ) := hw.scanArgs_empty program hl
  cases hscan : scanArgs program (init ++ [last]) .initial with
  | error sc =>
      have hnone : ¬ ∃ occ, FlagsOnly (nonempty init) occ ∧ Combinable occ := by
        rintro ⟨occ, hw, _⟩
        obtain ⟨_, hs, _⟩ := hflags hw
        rw [hscan] at hs
        cases hs
      simp [parseCommandLine, hscan, hnone]
  | ok sc =>
      obtain ⟨occ, hw⟩ := flagsOnly_of_scanArgs hl hscan
      obtain ⟨_, hs, hf, hi⟩ := hflags hw
      cases hscan.symm.trans hs
      by_cases hx : .plain .exe ∈ occ
      · by_cases hc : Conflict occ
        · obtain ⟨sc', hr⟩ := checkExe_conflict lower hf hx hc
          have hnone : ¬ ∃ occ, FlagsOnly (nonempty init) occ ∧ Combinable occ := by
            rintro ⟨occ', hw', hcomb⟩
            obtain ⟨_, hs', hf', _⟩ := hflags hw'
            cases hscan.symm.trans hs'
            exact hcomb (hf'.inputFileType.mp (hf.inputFileType.mpr hx)) (hf'.conflict_iff.mpr (hf.conflict_iff.mp hc))
          simp [parseCommandLine, hscan, hr, hnone]
        · -- the extension of no file at all
          have hr := checkExe_noConflict lower hf hx hc
          rw [hi] at hr
          refine iff_of_false ?_ (fun h => h.2 ⟨occ, hw, fun _ => hc⟩)
          rintro ⟨accepted, sc', hp, _⟩
          rw [parseCommandLine, hscan] at hp
          cases hr.symm.trans hp
      · have hr := checkExe_free lower hf hx
        refine iff_of_false ?_ (fun h => h.2 ⟨occ, hw, fun h => absurd h hx⟩)
        rintro ⟨accepted, sc', hp, hg, ho⟩
        rw [parseCommandLine, hscan] at hp
        cases hr.symm.trans hp
        obtain ⟨occ', file, hgram⟩ := hg.mp rfl
        have hfile := (ho rfl occ' file hgram).inputFile
        rw [hi] at hfile
        cases hfile

/-- For at least one argument, the parser accepts its grammar if and only if the last argument is not empty, or if
    those that are not empty are neither in the grammar nor flags, the last one possibly without its value, that go
    together. -/
theorem parses_iff (lower : WCHAR → WCHAR) (program first : CString) (rest : List CString) :
    ParsesGrammar lower program (first :: rest) ↔
      ((first :: rest).getLast (List.cons_ne_nil first rest)).length ≠ 0 ∨
        (¬ ∃ occ file, Grammar lower (nonempty (first :: rest)) occ file) ∧
          ¬ ∃ occ, FlagsOnly (nonempty (first :: rest)) occ ∧ Combinable occ := by
  obtain ⟨init, last, he⟩ : ∃ init last, first :: rest = init ++ [last] :=
    ⟨_, _, (List.dropLast_append_getLast (List.cons_ne_nil first rest)).symm⟩
  simp only [he, List.getLast_append_singleton]
  by_cases hl : last.length = 0
  · have hn : nonempty (init ++ [last]) = nonempty init := by
      rw [nonempty_append]; simp [nonempty, hl]
    rw [hn, parses_empty lower program hl]
    simp [hl]
  · exact iff_of_true (parses_last lower program hl) (.inl hl)

/-- Nothing but an empty argument: `TRUE` without an input file. -/
theorem not_parses_emptyArgument : ¬ ParsesGrammar id (wide "cfix") [wide ""] := by
  rintro ⟨accepted, sc, hp, hg, _⟩
  have hr : parseCommandLine id [wide "cfix", wide ""] = .ok (true, .initial) := rfl
  cases hr.symm.trans hp
  obtain ⟨occ, file, flags, he, _⟩ := hg.mp rfl
  have hn : nonempty [wide ""] = [] := by decide
  rw [hn] at he
  cases flags <;> cases he

-- With `-exe`, a `NULL` pointer gets to the check of the extension.
example : parseCommandLine id [wide "cfix", wide "-exe", wide ""] = .error .nullInputFile := rfl

end Cfix.CommandLine
