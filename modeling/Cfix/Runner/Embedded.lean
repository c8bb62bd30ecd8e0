import Cfix.Cdiag.StripNewlines
import Cfix.Runner.CommandLine
import Cfix.Runner.MainWorker

/-!
# `Runner.Embedded` — running embedded tests (`cfixcmd/main.c`, `cfixemb/embmain.c`)

With `-exe`, the command line tool creates the process of the input file and passes its own command line on to it in
an environment variable. `CfixEmbMain` reads it there, into a buffer of 512 characters, and parses it again.
-/

namespace Cfix.Embedded

open Cdiag (CString WCHAR wide textOf)
open CommandLine
open Runner (DWORD exitUsageFailure)

/-! ## The environment -/

abbrev Environment := String → Option CString

def cfixEmbInitEnvvarName       : String := "CFIX_INIT_ROUTINE"
def cfixrunEmbCmdlineEnvvarName : String := "CFIX_INIT_CMDLINE"

/-- `SetEnvironmentVariable`. -/
def Environment.set (env : Environment) (name : String) (value : CString) : Environment :=
  Function.update env name (some value)

/-- `GetEnvironmentVariable`: what it returns, with the buffer, which is as large as `undefined` and holds that where
    the call does not say what it holds. If the buffer is too small, this is all of it, and the size that is needed
    is returned. -/
def getEnvironmentVariable (env : Environment) (name : String) (undefined : List WCHAR) : Nat × List WCHAR :=
  match env name with
  | none       => (0, undefined)
  | some value =>
    if value.length < undefined.length then (value.length, value.memory ++ undefined.drop (value.length + 1))
    else (value.length + 1, undefined)

/-- The string that a buffer holds, if there is a terminator. -/
def stringIn (buffer : List WCHAR) : Option CString :=
  if 0#16 ∈ buffer then some ⟨textOf buffer, fun _ h => by simpa using List.mem_takeWhile_imp h⟩ else none

/-! ## The command line tool -/

/-- What becomes of a process: it exits, it runs tests in `CfixrunMain`, or it creates the process of the input
    file. -/
inductive Outcome where
  | exits (exitCode : DWORD)
  | runs (options : Options)
  | spawns (options : Options) (env : Environment)

/-- What the command line tool finds. -/
structure Host where
  /-- `GetFileAttributes`. -/
  fileExists    : CString → Bool
  /-- `CfixcmdsGetCfixEmbPath`. -/
  cfixEmbPath   : Option CString
  /-- `CfixcmdsCreatePipe`. -/
  createPipe    : Bool
  /-- `CreateProcess`. -/
  createProcess : CString → Environment → Bool

def maxPath : Nat := 260

/-- `StringCchCat` of the path and the name of the routine, in the buffer for both. -/
def initRoutine (path : CString) : CString where
  chars   := (path.chars ++ (wide "!CfixEmbMain").chars).take (maxPath + 64 - 1)
  nonzero := fun c hc => (List.mem_append.mp (List.mem_of_mem_take hc)).elim (path.nonzero c) ((wide _).nonzero c)

/-- The variables that are set before the process is created. -/
def Environment.forSpawned (env : Environment) (path commandLine : CString) : Environment :=
  (env.set cfixEmbInitEnvvarName (initRoutine path)).set cfixrunEmbCmdlineEnvvarName commandLine

/-- `CfixcmdsSpawnAndRun`, for a command line tool started with `commandLine`. -/
def spawnAndRun (host : Host) (env : Environment) (commandLine : CString) (options : Options) :
    Except Fault Outcome :=
  match options.inputFile with
  | none      => .error .nullInputFile
  | some file =>
    if !host.fileExists file then .ok (.exits exitUsageFailure)
    else
      match host.cfixEmbPath with
      | none      => .ok (.exits exitUsageFailure)
      | some path =>
        if !host.createPipe then .ok (.exits exitUsageFailure)
        else if !host.createProcess file (env.forSpawned path commandLine) then .ok (.exits exitUsageFailure)
        else .ok (.spawns options (env.forSpawned path commandLine))

/-- `wmain`, with the arguments that the C runtime has split the command line into. -/
def wmain (lower : WCHAR → WCHAR) (host : Host) (env : Environment) (commandLine : CString) (argv : List CString) :
    Except Fault Outcome :=
  if argv.length < 2 then .ok (.exits exitUsageFailure)
  else
    match parseCommandLine lower argv with
    | .error fault      => .error fault
    | .ok (false, _)    => .ok (.exits exitUsageFailure)
    | .ok (true, sc)    =>
      if sc.options.inputFileType = .requiresSpawn then spawnAndRun host env commandLine sc.options
      else .ok (.runs sc.options)

/-! ## The embedded run -/

/-- `_countof( CommandLine )`. -/
def commandLineCch : Nat := 512

/-- An access that is not allowed. -/
inductive EmbFault where
  | parser (fault : Fault)
  | unterminated
  deriving DecidableEq, Repr

/-- `CfixEmbMain` from the command line on, where `CommandLineToArgvW` gives the arguments or an error. -/
def runCommandLine (lower : WCHAR → WCHAR) (commandLineToArgv : CString → Except DWORD (List CString))
    (commandLine : CString) : Except EmbFault Outcome :=
  match commandLineToArgv commandLine with
  | .error err => .ok (.exits err)
  | .ok argv   =>
    if argv.isEmpty then .ok (.exits exitUsageFailure)
    else
      match parseCommandLine lower argv with
      | .error fault   => .error (.parser fault)
      | .ok (false, _) => .ok (.exits exitUsageFailure)
      | .ok (true, sc) => .ok (.runs sc.options)

/-- `CfixEmbMain`. -/
def cfixEmbMain (lower : WCHAR → WCHAR) (commandLineToArgv : CString → Except DWORD (List CString)) (env : Environment)
    (undefined : List WCHAR) : Except EmbFault Outcome :=
  match getEnvironmentVariable env cfixrunEmbCmdlineEnvvarName undefined with
  | (0,     _)      => .ok (.exits eInvalidarg)
  | (_ + 1, buffer) =>
    match stringIn buffer with
    | none             => .error .unterminated
    | some commandLine => runCommandLine lower commandLineToArgv commandLine

/-- The embedded run has the given options, or it fails before any test. -/
def Outcome.Agrees (options : Options) : Outcome → Prop
  | .runs o     => o = options
  | .exits code => code ≠ 0#32
  | .spawns ..  => False

/-- Whatever the buffer holds where that is undefined. -/
def SameOptions (lower : WCHAR → WCHAR) (commandLineToArgv : CString → Except DWORD (List CString)) (env : Environment)
    (options : Options) : Prop :=
  ∀ undefined : List WCHAR, undefined.length = commandLineCch →
    ∃ outcome, cfixEmbMain lower commandLineToArgv env undefined = .ok outcome ∧ outcome.Agrees options

/-! ## From the tool to the process -/

variable {lower : WCHAR → WCHAR} {commandLineToArgv : CString → Except DWORD (List CString)} {host : Host}
variable {env childEnv : Environment} {commandLine : CString} {argv : List CString} {options options' : Options}

theorem spawnAndRun_spawns (h : spawnAndRun host env commandLine options = .ok (.spawns options' childEnv)) :
    options' = options ∧ childEnv cfixrunEmbCmdlineEnvvarName = some commandLine := by
  unfold spawnAndRun at h
  split at h
  · cases h
  · split at h
    · cases h
    · split at h
      · cases h
      · split at h
        · cases h
        · split at h
          · cases h
          · cases h
            refine ⟨rfl, ?_⟩
            rw [Environment.forSpawned, Environment.set]
            exact Function.update_self ..

theorem wmain_spawns (h : wmain lower host env commandLine argv = .ok (.spawns options childEnv)) :
    ∃ sc, parseCommandLine lower argv = .ok (true, sc) ∧ sc.options = options ∧ argv ≠ [] ∧
      childEnv cfixrunEmbCmdlineEnvvarName = some commandLine := by
  unfold wmain at h
  split at h
  · cases h
  · rename_i hargv
    split at h
    · cases h
    · cases h
    · rename_i sc hparse
      split at h
      · obtain ⟨rfl, henv⟩ := spawnAndRun_spawns h
        refine ⟨sc, hparse, rfl, ?_, henv⟩
        rintro rfl
        exact hargv (by decide)
      · cases h

/-! ## In the process -/

theorem stringIn_memory (text : CString) (rest : List WCHAR) : stringIn (text.memory ++ rest) = some text := by
  have hterm : 0#16 ∈ text.memory ++ rest := by simp [CString.memory]
  rw [stringIn, if_pos hterm]
  congr 1
  cases text
  simp only [CString.mk.injEq]
  exact Cdiag.textOf_memory _ _

/-- A command line that fits is read as it is. -/
theorem cfixEmbMain_fits {undefined : List WCHAR} (henv : env cfixrunEmbCmdlineEnvvarName = some commandLine)
    (hpos : commandLine.length ≠ 0) (hfits : commandLine.length < undefined.length) :
    cfixEmbMain lower commandLineToArgv env undefined = runCommandLine lower commandLineToArgv commandLine := by
  have hread : getEnvironmentVariable env cfixrunEmbCmdlineEnvvarName undefined =
      (commandLine.length, commandLine.memory ++ undefined.drop (commandLine.length + 1)) := by
    simp only [getEnvironmentVariable, henv, if_pos hfits]
  obtain ⟨n, hn⟩ := Nat.exists_eq_succ_of_ne_zero hpos
  rw [hn] at hread
  simp only [cfixEmbMain, hread, stringIn_memory]

/-- Of one that does not fit, nothing is read: the run depends on what the buffer holds. -/
theorem cfixEmbMain_tooLong {undefined : List WCHAR} (henv : env cfixrunEmbCmdlineEnvvarName = some commandLine)
    (hlong : undefined.length ≤ commandLine.length) :
    cfixEmbMain lower commandLineToArgv env undefined =
      match stringIn undefined with
      | none      => .error .unterminated
      | some text => runCommandLine lower commandLineToArgv text := by
  simp only [cfixEmbMain, getEnvironmentVariable, henv, if_neg (Nat.not_lt.mpr hlong)]

/-- **The embedded run uses the options of the tool if and only if the command line has less than 512 characters.** -/
theorem sameOptions_iff (hsplit : ∀ argv', commandLineToArgv commandLine = .ok argv' → argv' = argv)
    (herror : ∀ text err, commandLineToArgv text = .error err → err ≠ 0#32)
    (htool : wmain lower host env commandLine argv = .ok (.spawns options childEnv)) :
    SameOptions lower commandLineToArgv childEnv options ↔ commandLine.length < commandLineCch := by
  obtain ⟨sc, hparse, rfl, hargv, henv⟩ := wmain_spawns htool
  constructor
  · intro hsame
    by_contra hlong
    obtain ⟨_, hrun, -⟩ := hsame (List.replicate commandLineCch 0x20#16) (List.length_replicate ..)
    have hread : stringIn (List.replicate commandLineCch 0x20#16) = none := by
      rw [stringIn, if_neg]
      simp
    rw [cfixEmbMain_tooLong henv (by simpa using hlong), hread] at hrun
    cases hrun
  · intro hfits undefined hlength
    by_cases hpos : commandLine.length = 0
    · refine ⟨.exits eInvalidarg, ?_, (by decide : eInvalidarg ≠ 0#32)⟩
      simp [cfixEmbMain, getEnvironmentVariable, henv, hpos, hlength, commandLineCch]
    · rw [cfixEmbMain_fits henv hpos (hlength ▸ hfits), runCommandLine]
      cases hcase : commandLineToArgv commandLine with
      | error err => exact ⟨.exits err, rfl, herror _ _ hcase⟩
      | ok argv' =>
          obtain rfl := hsplit _ hcase
          exact ⟨.runs sc.options, by simp [hargv, hparse], rfl⟩

/-! ## A command line that is too long -/

/-- Everything is in place. -/
def Host.ready : Host where
  fileExists _      := true
  cfixEmbPath       := some (wide "c:\\cfix\\cfixemb.dll")
  createPipe        := true
  createProcess _ _ := true

theorem sameOptions_short :
    SameOptions id (fun _ => .ok [wide "cfix", wide "-exe", wide "foo.exe"])
      (Environment.forSpawned (fun _ => none) (wide "c:\\cfix\\cfixemb.dll") (wide "cfix -exe foo.exe"))
      { Options.zeroed with inputFileType := .requiresSpawn, inputFile := some (wide "foo.exe") } ↔
    (wide "cfix -exe foo.exe").length < commandLineCch := by
  have htool : wmain id .ready (fun _ => none) (wide "cfix -exe foo.exe") [wide "cfix", wide "-exe", wide "foo.exe"] =
      .ok (.spawns { Options.zeroed with inputFileType := .requiresSpawn, inputFile := some (wide "foo.exe") }
        (Environment.forSpawned (fun _ => none) (wide "c:\\cfix\\cfixemb.dll") (wide "cfix -exe foo.exe"))) := rfl
  exact sameOptions_iff (fun _ h => (Except.ok.inj h).symm) (fun _ _ h => by cases h) htool

def longFixture : CString where
  chars   := List.replicate 600 0x61#16
  nonzero := fun c hc => by rw [List.eq_of_mem_replicate hc]; decide

theorem isValue_longFixture : IsValue longFixture := ⟨0x61#16, List.replicate 599 0x61#16, rfl, rfl⟩

def longArgv : List CString := [wide "cfix", wide "-exe", wide "-n", longFixture, wide "foo.exe"]

def longCommandLine : CString where
  chars   := (wide "cfix -exe -n ").chars ++ longFixture.chars ++ (wide " foo.exe").chars
  nonzero := by
    intro c hc
    rcases List.mem_append.mp hc with hc | hc
    · exact (List.mem_append.mp hc).elim ((wide _).nonzero c) (longFixture.nonzero c)
    · exact (wide _).nonzero c hc

theorem length_longCommandLine : longCommandLine.length = 621 := by
  show ((wide "cfix -exe -n ").chars ++ List.replicate 600 0x61#16 ++ (wide " foo.exe").chars).length = 621
  rw [List.length_append, List.length_append, List.length_replicate]
  rfl

def otherCommandLine : CString := wide "cfix -n Other bar.dll"

/-- Splitting of the two command lines. -/
def splitTwo (text : CString) : Except DWORD (List CString) :=
  if text = longCommandLine then .ok longArgv
  else if text = otherCommandLine then .ok [wide "cfix", wide "-n", wide "Other", wide "bar.dll"]
  else .error 8#32

theorem wmain_longArgv (env : Environment) :
    wmain id .ready env longCommandLine longArgv =
      .ok (.spawns
        { Options.zeroed with
            inputFileType := .requiresSpawn
            inputFile     := some (wide "foo.exe")
            value         := Function.update Options.zeroed.value .fixture (some longFixture) }
        (env.forSpawned (wide "c:\\cfix\\cfixemb.dll") longCommandLine)) := by
  have hwords : Words [wide "-exe", wide "-n", longFixture] [.plain .exe, .valued (.member .fixture) longFixture] :=
    .plain ⟨_, _, rfl, rfl, rfl⟩ (.valued ⟨_, _, rfl, rfl, rfl⟩ isValue_longFixture .nil)
  have hscan : scanArgs (wide "cfix") ([wide "-exe", wide "-n", longFixture] ++ [wide "foo.exe"]) .initial = .ok _ :=
    scanArgs_ok.mpr ⟨_, hwords.scanAll rfl, rfl⟩
  rw [List.cons_append, List.cons_append, List.cons_append, List.nil_append] at hscan
  simp only [wmain, longArgv, parseCommandLine, hscan]
  rfl

/-- The fixture `Other` is run where that of the long command line was asked for. -/
theorem not_sameOptions_tooLong :
    ∃ options childEnv, wmain id .ready (fun _ => none) longCommandLine longArgv = .ok (.spawns options childEnv) ∧
      ¬ SameOptions id splitTwo childEnv options := by
  refine ⟨_, _, wmain_longArgv _, fun hsame => ?_⟩
  obtain ⟨_, _, _, _, henv⟩ := wmain_spawns (wmain_longArgv fun _ => none)
  -- an earlier command line is still on the stack
  have hlength : (otherCommandLine.memory ++ List.replicate 490 0#16).length = commandLineCch := by
    rw [List.length_append, List.length_replicate]
    rfl
  obtain ⟨outcome, hrun, hagrees⟩ := hsame (otherCommandLine.memory ++ List.replicate 490 0#16) hlength
  rw [cfixEmbMain_tooLong henv (by rw [hlength, length_longCommandLine]; decide), stringIn_memory] at hrun
  have hother : otherCommandLine ≠ longCommandLine := by
    intro h
    have := congrArg CString.length h
    rw [length_longCommandLine] at this
    exact absurd this (by decide)
  simp only [runCommandLine, splitTwo, if_neg hother, if_true] at hrun
  obtain rfl := Except.ok.inj hrun
  have hvalue : some 5 = some longFixture.length :=
    congrArg (fun o : Options => (o.value .fixture).map CString.length) hagrees
  have hlong : longFixture.length = 600 := List.length_replicate
  rw [hlong] at hvalue
  exact absurd hvalue (by decide)

end Cfix.Embedded
