import Cfix.Base.Strsafe
import Cfix.Cdiag.Helper

/-!
# `Cfixutil.Search` — searching directories (`cfixutil/search.c`)

A directory is traversed with `FindFirstFile` and `FindNextFile`; the caller's routine is called for its files and when
the directory is entered and left. All paths are built in buffers of `MAX_PATH` characters.
-/

namespace Cfix.Cfixutil

open Cdiag (CString WCHAR wide)

/-! ## Paths -/

def maxPath : Nat := 260

def backslash : WCHAR := 0x5C#16

/-- The name of a file in its directory. -/
structure FileName extends CString where
  nonempty : chars ≠ []
  plain    : backslash ∉ chars
  deriving DecidableEq

/-- The filter for all files. -/
def allFiles : FileName where
  toCString := wide "*.*"
  nonempty  := by decide
  plain     := by decide

/-- What is between a directory and a name in it. -/
def separator (dir : CString) : List WCHAR := if dir.chars.getLast? = some backslash then [] else [backslash]

/-- The path of a file, of any length. -/
def join (dir : CString) (name : FileName) : CString where
  chars   := dir.chars ++ separator dir ++ name.chars
  nonzero := by
    intro c hc
    rcases List.mem_append.mp hc with hc | hc
    · rcases List.mem_append.mp hc with hc | hc
      · exact dir.nonzero c hc
      · unfold separator at hc
        split at hc
        · cases hc
        · rw [List.mem_singleton.mp hc]
          decide
    · exact name.nonzero c hc

/-- `PathCombine`, for an absolute path and a name. -/
def pathCombine (dir : CString) (name : FileName) : Option CString :=
  if (join dir name).length < maxPath then some (join dir name) else none

/-! ## The file system -/

/-- An error of the system. -/
structure Win32Error where
  code     : BitVec 32
  positive : 0 < code.toInt
  deriving DecidableEq

def errorNoMoreFiles : BitVec 32 := 18#32

/-- What `FindFirstFile` and `FindNextFile` find in a directory. A directory in it is given with what these find there,
    or with the error of `FindFirstFile`. -/
inductive Entries where
  | nil
  /-- `.` or `..` -/
  | dots (rest : Entries)
  | reparsePoint (name : FileName) (rest : Entries)
  | unlistable (name : FileName) (err : Win32Error) (rest : Entries)
  | directory (name : FileName) (inner rest : Entries)
  | file (name : FileName) (rest : Entries)
  deriving DecidableEq

/-- `GetFileAttributes`. -/
inductive Attributes where
  | invalid
  | directory
  | other
  deriving DecidableEq, Repr

structure FileSystem where
  attributes       : CString → Attributes
  /-- `GetFullPathName`; the text may be too long for the buffer. -/
  fullPathName     : CString → Except Win32Error CString
  /-- `GetCurrentDirectory`. -/
  currentDirectory : Except Win32Error CString
  find             : CString → Except Win32Error Entries

/-! ## Visits -/

inductive VisitType where
  | enterDirectory
  | leaveDirectory
  | file
  deriving DecidableEq, Repr

structure Call where
  path            : CString
  type            : VisitType
  searchPerformed : Bool
  deriving DecidableEq

/-- `CFIXUTIL_VISIT_ROUTINE`, with what it keeps in its context. -/
abbrev VisitRoutine (σ : Type) := Call → σ → HRESULT × σ

/-- A call with its result. -/
abbrev Visit := Call × HRESULT

/-- The context, and the calls so far. -/
structure Run (σ : Type) where
  context : σ
  calls   : List Visit

section

variable {σ : Type} (routine : VisitRoutine σ)

def Run.call (c : Call) (r : Run σ) : HRESULT × Run σ :=
  let (hr, context) := routine c r.context
  (hr, { context, calls := r.calls ++ [(c, hr)] })

/-! ## The traversal -/

/-- The use of a buffer that holds no path, or of a pointer that is `NULL`. -/
inductive Fault where
  | undefinedPath
  | nullFilePart
  deriving DecidableEq, Repr

/-- `FindFirstFile` has failed. -/
def findFailed (err : Win32Error) : HRESULT := if err.code = errorNoMoreFiles then sOk else hresultFromWin32 err.code

/-- `E_ACCESSDENIED` is ignored and the search continued. -/
def ignoreAccessDenied (hr : HRESULT) : HRESULT := if hr = eAccessdenied then sOk else hr

/-- The condition of the loop. -/
def continueWith (next : HRESULT → Run σ → Except Fault (HRESULT × Run σ)) (hr : HRESULT) (r : Run σ) :
    Except Fault (HRESULT × Run σ) :=
  if failed hr then .ok (hr, r) else next hr r

/-- The result for an entry that is skipped; its path has been built nevertheless. -/
def skipped (dir : CString) (name : FileName) (hr : HRESULT) : HRESULT :=
  match pathCombine dir name with
  | none   => eUnexpected
  | some _ => hr

/-- From the first entry on: the directory is entered, then comes the loop, and it is left. -/
def enterAndLeave (dir : CString) (loop : HRESULT → Run σ → Except Fault (HRESULT × Run σ)) (r : Run σ) :
    Except Fault (HRESULT × Run σ) :=
  match r.call routine ⟨dir, .enterDirectory, true⟩ with
  | (hr, r) =>
    if failed hr then .ok (hr, r)
    else
      match loop hr r with
      | .error fault => .error fault
      | .ok (hr, r)  =>
        match r.call routine ⟨dir, .leaveDirectory, true⟩ with
        | (hr2, r) => .ok (if succeeded hr && failed hr2 then hr2 else hr, r)

/-- The loop over the entries of a directory. The path of a subdirectory has been combined from that of its parent:
    it is absolute, and `GetFullPathName` leaves it as it is. -/
def traverseEntries (recursive : Bool) : CString → Entries → HRESULT → Run σ → Except Fault (HRESULT × Run σ)
  | _,   .nil,                      hr, r => .ok (hr, r)
  | dir, .dots rest,                hr, r => continueWith (traverseEntries recursive dir rest) hr r
  | dir, .reparsePoint name rest,   hr, r =>
    continueWith (traverseEntries recursive dir rest) (skipped dir name hr) r
  | dir, .unlistable name err rest, hr, r =>
    if recursive then
      match pathCombine dir name with
      | none      => .error .undefinedPath
      | some path =>
        match pathCombine path allFiles with
        | none   => continueWith (traverseEntries recursive dir rest) (ignoreAccessDenied eUnexpected) r
        | some _ => continueWith (traverseEntries recursive dir rest) (ignoreAccessDenied (findFailed err)) r
    else continueWith (traverseEntries recursive dir rest) (skipped dir name hr) r
  | dir, .directory name inner rest, hr, r =>
    if recursive then
      match pathCombine dir name with
      | none      => .error .undefinedPath
      | some path =>
        match pathCombine path allFiles with
        | none   => continueWith (traverseEntries recursive dir rest) (ignoreAccessDenied eUnexpected) r
        | some _ =>
          match enterAndLeave routine path (traverseEntries recursive path inner) r with
          | .error fault => .error fault
          | .ok (hr, r)  => continueWith (traverseEntries recursive dir rest) (ignoreAccessDenied hr) r
    else continueWith (traverseEntries recursive dir rest) (skipped dir name hr) r
  | dir, .file name rest, _, r =>
    match pathCombine dir name with
    | none      => .error .undefinedPath
    | some path =>
      match r.call routine ⟨path, .file, true⟩ with
      | (hr, r) => continueWith (traverseEntries recursive dir rest) hr r

/-- From `FindFirstFile` on. -/
def traverseFound (fs : FileSystem) (recursive : Bool) (dir filter : CString) (r : Run σ) :
    Except Fault (HRESULT × Run σ) :=
  match fs.find filter with
  | .error err  => .ok (findFailed err, r)
  | .ok entries => enterAndLeave routine dir (traverseEntries routine recursive dir entries) r

/-- A path without its file part. -/
def stripFilePart (path : CString) : CString where
  chars   := (path.chars.reverse.dropWhile (· ≠ backslash)).reverse
  nonzero := fun c hc => path.nonzero c (by
    have := (List.dropWhile_sublist _).subset (List.mem_reverse.mp hc)
    simpa using this)

/-- `CfixutilsTraverseDirectory`. -/
def traverseDirectory (fs : FileSystem) (pathExpression : CString) (pathIsFilter recursive : Bool) (r : Run σ) :
    Except Fault (HRESULT × Run σ) :=
  if pathIsFilter then
    if backslash ∈ pathExpression.chars then
      match fs.fullPathName pathExpression with
      | .error err => .ok (hresultFromWin32 err.code, r)
      | .ok path   =>
        if maxPath ≤ path.length then .error .undefinedPath
        else if path.chars.getLast? = some backslash then .error .nullFilePart
        else traverseFound routine fs recursive (stripFilePart path) pathExpression r
    else
      match fs.currentDirectory with
      | .error err => .ok (hresultFromWin32 err.code, r)
      | .ok path   =>
        if maxPath ≤ path.length then .error .undefinedPath
        else traverseFound routine fs recursive path pathExpression r
  else
    match fs.fullPathName pathExpression with
    | .error err => .ok (hresultFromWin32 err.code, r)
    | .ok path   =>
      if maxPath ≤ path.length then .error .undefinedPath
      else
        match pathCombine path allFiles with
        | none        => .ok (eUnexpected, r)
        | some filter => traverseFound routine fs recursive path filter r

end

/-- `HRESULT_FROM_WIN32( ERROR_FILE_NOT_FOUND )`. -/
def fileNotFound : HRESULT := 0x80070002#32

def isFilterExpression (path : CString) : Bool := path.chars.any fun c => c == 0x2A#16 || c == 0x3F#16

/-- `CfixutilSearch`; pointers may be `NULL`. -/
def cfixutilSearch {σ : Type} (fs : FileSystem) (path : Option CString) (recursive : Bool)
    (routine : Option (VisitRoutine σ)) (context : σ) : Except Fault (HRESULT × Run σ) :=
  let r : Run σ := { context, calls := [] }
  match path, routine with
  | some path, some routine =>
    match fs.attributes path with
    | .invalid   =>
      if isFilterExpression path then traverseDirectory routine fs path true recursive r
      else .ok (fileNotFound, r)
    | .directory => traverseDirectory routine fs path false recursive r
    | .other     =>
      match r.call routine ⟨path, .file, false⟩ with
      | (hr, r) => .ok (hr, r)
  | _, _ => .ok (eInvalidarg, r)

end Cfix.Cfixutil
