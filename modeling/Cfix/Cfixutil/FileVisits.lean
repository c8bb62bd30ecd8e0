import Cfix.Cfixutil.Visits

/-!
# `Cfixutil.FileVisits` — searches for files

A routine that ignores the notifications only sees the files. Its context after a search that succeeds is what the
files make of it, one after another, and so is the result of a search whose paths fit.
-/

namespace Cfix.Cfixutil

open Cdiag (CString WCHAR wide)

variable {σ : Type} {routine : VisitRoutine σ}

/-- The calls for files, until one fails. -/
def visitFiles (routine : VisitRoutine σ) (searchPerformed : Bool) : List CString → σ → HRESULT × σ
  | [],           context => (sOk, context)
  | path :: rest, context =>
    match routine ⟨path, .file, searchPerformed⟩ context with
    | (hr, context) => if failed hr then (hr, context) else visitFiles routine searchPerformed rest context

/-- The routine ignores the notifications and does not deny access. -/
structure Quiet (routine : VisitRoutine σ) : Prop where
  notified : ∀ c context, c.type ≠ .file → routine c context = (sOk, context)
  grants   : ∀ path context, (routine ⟨path, .file, true⟩ context).1 ≠ eAccessdenied

/-- Files whose calls succeed, and those that follow. -/
theorem visitFiles_append {searchPerformed : Bool} {files : List CString} (files' : List CString) {context : σ}
    (h : failed (visitFiles routine searchPerformed files context).1 = false) :
    visitFiles routine searchPerformed (files ++ files') context =
      visitFiles routine searchPerformed files' (visitFiles routine searchPerformed files context).2 := by
  induction files generalizing context with
  | nil => rfl
  | cons path rest ih =>
      simp only [List.cons_append, visitFiles] at h ⊢
      cases hf : failed (routine ⟨path, .file, searchPerformed⟩ context).1 with
      | true  => simp [hf] at h
      | false =>
          simp only [hf, Bool.false_eq_true, if_false] at h ⊢
          exact ih h

/-- A call that fails is the last one. -/
theorem visitFiles_append_failed {searchPerformed : Bool} {files : List CString} (files' : List CString) {context : σ}
    (h : failed (visitFiles routine searchPerformed files context).1 = true) :
    visitFiles routine searchPerformed (files ++ files') context =
      visitFiles routine searchPerformed files context := by
  induction files generalizing context with
  | nil => simp [visitFiles] at h
  | cons path rest ih =>
      simp only [List.cons_append, visitFiles] at h ⊢
      cases hf : failed (routine ⟨path, .file, searchPerformed⟩ context).1 with
      | true  => simp
      | false =>
          simp only [hf, Bool.false_eq_true, if_false] at h ⊢
          exact ih h

/-- A single file. -/
theorem visitFiles_singleton (searchPerformed : Bool) (path : CString) (context : σ) :
    (visitFiles routine searchPerformed [path] context).2 = (routine ⟨path, .file, searchPerformed⟩ context).2 ∧
      failed (visitFiles routine searchPerformed [path] context).1 =
        failed (routine ⟨path, .file, searchPerformed⟩ context).1 ∧
      (failed (routine ⟨path, .file, searchPerformed⟩ context).1 = true →
        (routine ⟨path, .file, searchPerformed⟩ context).1 =
          (visitFiles routine searchPerformed [path] context).1) := by
  cases hf : failed (routine ⟨path, .file, searchPerformed⟩ context).1 with
  | true  => simp [visitFiles, hf]
  | false => simp [visitFiles, hf]

/-- A part of the search is its files: it fails with the first file that does, and otherwise succeeds. -/
structure IsFold (routine : VisitRoutine σ) (files : List CString) (r : Run σ) (hr : HRESULT) (r' : Run σ) :
    Prop where
  context : r'.context = (visitFiles routine true files r.context).2
  fails   : failed hr = failed (visitFiles routine true files r.context).1
  result  : failed hr = true → hr = (visitFiles routine true files r.context).1

theorem IsFold.nil {r : Run σ} {hr : HRESULT} (h : failed hr = false) : IsFold routine [] r hr r where
  context := rfl
  fails   := by rw [h, visitFiles, failed_sOk]
  result  := fun hf => by rw [h] at hf; cases hf

theorem IsFold.file (path : CString) (r : Run σ) :
    IsFold routine [path] r (routine ⟨path, .file, true⟩ r.context).1
      (r.after routine ⟨path, .file, true⟩) := by
  obtain ⟨hcontext, hfails, hresult⟩ := visitFiles_singleton true path r.context
  exact ⟨hcontext.symm, hfails.symm, hresult⟩

/-- The context is what counts. -/
theorem IsFold.congr {files : List CString} {r r₁ r' r₁' : Run σ} {hr : HRESULT} (h : IsFold routine files r hr r')
    (hstart : r₁.context = r.context) (hend : r₁'.context = r'.context) : IsFold routine files r₁ hr r₁' where
  context := by rw [hend, hstart]; exact h.context
  fails   := by rw [hstart]; exact h.fails
  result  := by rw [hstart]; exact h.result

/-- A part, and the rest of the loop if its result lets that go on. -/
theorem IsFold.continueWith {files files' : List CString} {r r₁ : Run σ} {hr₁ : HRESULT}
    {next : HRESULT → Run σ → Except Fault (HRESULT × Run σ)} (h : IsFold routine files r hr₁ r₁)
    (hnext : ∀ hr r, failed hr = false → ∃ hr' r', next hr r = .ok (hr', r') ∧ IsFold routine files' r hr' r') :
    ∃ hr' r', continueWith next hr₁ r₁ = .ok (hr', r') ∧ IsFold routine (files ++ files') r hr' r' := by
  cases hf : failed hr₁ with
  | true =>
      have hfold := visitFiles_append_failed files' (h.fails.symm.trans hf)
      exact ⟨hr₁, r₁, if_pos hf, by rw [hfold]; exact h.context, by rw [hfold]; exact h.fails,
        by rw [hfold]; exact h.result⟩
  | false =>
      have hfold := visitFiles_append files' (h.fails.symm.trans hf)
      obtain ⟨hr', r', hrun, h'⟩ := hnext hr₁ r₁ hf
      refine ⟨hr', r', (continueWith_go next hf r₁).trans hrun, ?_, ?_, ?_⟩
      · rw [hfold, ← h.context]
        exact h'.context
      · rw [hfold, ← h.context]
        exact h'.fails
      · rw [hfold, ← h.context]
        exact h'.result

namespace Quiet

variable (hq : Quiet routine)
include hq

theorem after_notified {c : Call} (hc : c.type ≠ .file) (r : Run σ) : (r.after routine c).context = r.context := by
  rw [Run.after, hq.notified c r.context hc]

theorem entering_eq (dir : CString) (r : Run σ) : entering routine dir r = sOk := by
  rw [entering, hq.notified _ _ (by simp)]

theorem leaving_eq (dir : CString) (r : Run σ) : leaving routine dir r = sOk := by
  rw [leaving, hq.notified _ _ (by simp)]

/-- A directory is its entries. -/
theorem enterAndLeave_eq (dir : CString) (loop : HRESULT → Run σ → Except Fault (HRESULT × Run σ)) (r : Run σ) :
    enterAndLeave routine dir loop r =
      (loop sOk (r.after routine ⟨dir, .enterDirectory, true⟩)).map fun (hr, r) =>
        (hr, r.after routine ⟨dir, .leaveDirectory, true⟩) := by
  rw [enterAndLeave_entered loop (by rw [hq.entering_eq]; rfl), hq.entering_eq]
  cases loop sOk (r.after routine ⟨dir, .enterDirectory, true⟩) with
  | error fault => rfl
  | ok result   =>
      simp only [Except.map, hq.leaving_eq]
      rw [failed_sOk, Bool.and_false, if_neg (by simp)]

/-- **A search whose paths fit is its files.** -/
theorem traverseEntries_fold {recursive : Bool} {dir : CString} {entries : Entries} (hfits : Fits recursive dir entries)
    {hr : HRESULT} (hhr : failed hr = false) (r : Run σ) :
    ∃ hr' r', traverseEntries routine recursive dir entries hr r = .ok (hr', r') ∧
      IsFold routine (filesOf recursive dir entries) r hr' r' := by
  induction entries generalizing dir hr r with
  | nil => exact ⟨hr, r, rfl, .nil hhr⟩
  | dots rest ih =>
      rw [traverseEntries, continueWith_go _ hhr]
      exact ih hfits hhr r
  | reparsePoint name rest ih =>
      rw [traverseEntries, skipped_fits hfits.1, continueWith_go _ hhr]
      exact ih hfits.2 hhr r
  | unlistable name err rest ih =>
      obtain ⟨hpath, hlist, hrest⟩ := hfits
      rw [traverseEntries]
      cases recursive with
      | false =>
          rw [if_neg (by simp), skipped_fits hpath, continueWith_go _ hhr]
          exact ih hrest hhr r
      | true =>
          obtain ⟨hfilter, herr⟩ := hlist rfl
          rw [if_pos rfl, pathCombine_fits hpath]
          simp only [pathCombine_fits hfilter]
          have hgo := (findFailed_ignored err).mpr herr
          rw [continueWith_go _ hgo]
          exact ih hrest hgo r
  | directory name inner rest ihinner ih =>
      obtain ⟨hpath, hlist, hrest⟩ := hfits
      rw [traverseEntries]
      cases recursive with
      | false =>
          rw [if_neg (by simp), skipped_fits hpath, continueWith_go _ hhr]
          exact ih hrest hhr r
      | true =>
          obtain ⟨hfilter, hinner⟩ := hlist rfl
          rw [if_pos rfl, pathCombine_fits hpath]
          simp only [pathCombine_fits hfilter]
          obtain ⟨hr₁, r₁, hrun, hfold⟩ :=
            ihinner hinner failed_sOk (r.after routine ⟨join dir name, .enterDirectory, true⟩)
          rw [hq.enterAndLeave_eq, hrun]
          -- the notifications leave the context as it is, and no result of the routine is ignored
          have hblock : IsFold routine (filesOf true (join dir name) inner) r hr₁
              (r₁.after routine ⟨join dir name, .leaveDirectory, true⟩) :=
            hfold.congr (hq.after_notified (by simp) r).symm (hq.after_notified (by simp) r₁)
          have hne : hr₁ ≠ eAccessdenied :=
            traverseEntries_ne_denied hrun (by decide) fun name' context => hq.grants _ context
          simp only [Except.map, ignoreAccessDenied_of_ne hne]
          exact hblock.continueWith fun hr r hhr => ih hrest hhr r
  | file name rest ih =>
      rw [traverseEntries, pathCombine_fits hfits.1]
      exact (IsFold.file (join dir name) r).continueWith fun hr r hhr => ih hfits.2 hhr r

/-- A search that succeeds is its files. -/
theorem traverseEntries_ok_fold {recursive : Bool} {dir : CString} {entries : Entries} {hr hr' : HRESULT}
    {r r' : Run σ} (hhr : failed hr = false)
    (h : traverseEntries routine recursive dir entries hr r = .ok (hr', r')) (hsucceeded : failed hr' = false) :
    IsFold routine (filesOf recursive dir entries) r hr' r' := by
  have hfits : Fits recursive dir entries := by
    refine fits_of_ok h hsucceeded (fun c context _ hc => ?_) fun path context _ => hq.grants path context
    rw [hq.notified c context hc]
    exact failed_sOk
  obtain ⟨_, _, hrun, hfold⟩ := hq.traverseEntries_fold hfits hhr r
  rw [h] at hrun
  cases hrun
  exact hfold

/-- The directory of a search is its files. -/
theorem enterAndLeave_ok_fold {recursive : Bool} {dir : CString} {entries : Entries} {hr : HRESULT} {context : σ}
    {r : Run σ}
    (h : enterAndLeave routine dir (traverseEntries routine recursive dir entries) ⟨context, []⟩ = .ok (hr, r))
    (hsucceeded : failed hr = false) :
    failed (visitFiles routine true (filesOf recursive dir entries) context).1 = false ∧
      r.context = (visitFiles routine true (filesOf recursive dir entries) context).2 := by
  rw [hq.enterAndLeave_eq] at h
  cases hrun : traverseEntries routine recursive dir entries sOk
      (Run.after routine ⟨dir, .enterDirectory, true⟩ ⟨context, []⟩) with
  | error fault => rw [hrun] at h; cases h
  | ok result   =>
      rw [hrun] at h
      cases h
      have hfold := hq.traverseEntries_ok_fold failed_sOk hrun hsucceeded
      have hcontext := hfold.context
      have hfails := hfold.fails
      rw [hq.after_notified (by simp)] at hcontext hfails
      exact ⟨hfails.symm.trans hsucceeded, (hq.after_notified (by simp) _).trans hcontext⟩

/-- If its paths fit, it is searched. -/
theorem enterAndLeave_fits_fold {recursive : Bool} {dir : CString} {entries : Entries}
    (hfits : Fits recursive dir entries) (context : σ) :
    ∃ hr r,
      enterAndLeave routine dir (traverseEntries routine recursive dir entries) ⟨context, []⟩ = .ok (hr, r) ∧
      failed hr = failed (visitFiles routine true (filesOf recursive dir entries) context).1 := by
  obtain ⟨hr, r, hrun, hfold⟩ := hq.traverseEntries_fold hfits failed_sOk
    (Run.after routine ⟨dir, .enterDirectory, true⟩ ⟨context, []⟩)
  have hfails := hfold.fails
  rw [hq.after_notified (by simp)] at hfails
  rw [hq.enterAndLeave_eq, hrun]
  exact ⟨hr, _, rfl, hfails⟩

end Quiet

/-! ## What a search finds -/

namespace FileSystem

variable (fs : FileSystem)

/-- The directory of a filter expression, with what matches. -/
def matching (path : CString) : Option (CString × Entries) :=
  let dir := if path.chars.contains backslash then (fs.fullPathName path).map stripFilePart else fs.currentDirectory
  dir.toOption.bind fun dir => (fs.find path).toOption.map fun entries => (dir, entries)

/-- What is searched. -/
def listing (path : CString) : Option (CString × Entries) :=
  match fs.attributes path with
  | .invalid   => fs.matching path
  | .directory => fs.contents path
  | .other     => none

/-- The files that are visited, and whether that takes a search. -/
def found (recursive : Bool) (path : CString) : List CString × Bool :=
  match fs.attributes path with
  | .other => ([path], false)
  | _      => ((fs.listing path).elim [] fun (dir, entries) => Cfixutil.filesOf recursive dir entries, true)

/-- A path can be searched. -/
structure Searchable (recursive : Bool) (path : CString) : Prop where
  invalid   : fs.attributes path = .invalid → isFilterExpression path = true ∧ ∃ dir entries,
    fs.matching path = some (dir, entries) ∧ Cfixutil.Fits recursive dir entries ∧
    if backslash ∈ path.chars then ∀ full, fs.fullPathName path = .ok full →
      full.length < maxPath ∧ full.chars.getLast? ≠ some backslash
    else dir.length < maxPath
  directory : fs.attributes path = .directory → fs.Fits recursive path ∧ (fs.contents path).isSome = true

end FileSystem

section

variable {fs : FileSystem} {recursive : Bool} {path : CString} {context : σ}

theorem failed_win32Error (err : Win32Error) : failed (hresultFromWin32 err.code) = true := by
  rw [failed_hresultFromWin32, bne_iff_ne]
  intro h
  have hpos := err.positive
  rw [h] at hpos
  exact absurd hpos (by decide)

theorem found_invalid {dir : CString} (hinvalid : fs.attributes path = .invalid)
    (hdir : (if backslash ∈ path.chars then (fs.fullPathName path).map stripFilePart
      else fs.currentDirectory) = .ok dir) :
    fs.found recursive path = ((fs.find path).toOption.elim [] (filesOf recursive dir), true) := by
  simp only [FileSystem.found, FileSystem.listing, FileSystem.matching, List.contains_iff_mem, hinvalid, hdir]
  cases fs.find path <;> rfl

theorem found_directory {full : CString} (hdirectory : fs.attributes path = .directory)
    (hfull : fs.fullPathName path = .ok full) :
    fs.found recursive path = ((fs.find (join full allFiles)).toOption.elim [] (filesOf recursive full), true) := by
  simp only [FileSystem.found, FileSystem.listing, FileSystem.contents, hdirectory, hfull]
  cases fs.find (join full allFiles) <;> rfl

/-- The files of `traverseFound`, if it succeeds. -/
theorem Quiet.traverseFound_ok (hq : Quiet routine) {dir filter : CString} {hr : HRESULT} {r : Run σ}
    (h : traverseFound routine fs recursive dir filter ⟨context, []⟩ = .ok (hr, r))
    (hsucceeded : failed hr = false) :
    failed (visitFiles routine true ((fs.find filter).toOption.elim [] (filesOf recursive dir)) context).1 = false ∧
      r.context = (visitFiles routine true ((fs.find filter).toOption.elim [] (filesOf recursive dir)) context).2 := by
  unfold traverseFound at h
  cases hfind : fs.find filter with
  | error err =>
      rw [hfind] at h
      cases h
      exact ⟨failed_sOk, rfl⟩
  | ok entries =>
      rw [hfind] at h
      exact hq.enterAndLeave_ok_fold h hsucceeded

/-- The traversal of a filter expression has come to `FindFirstFile`. -/
theorem traverseDirectory_filter {r₀ r : Run σ} {hr : HRESULT}
    (h : traverseDirectory routine fs path true recursive r₀ = .ok (hr, r)) (hsucceeded : failed hr = false) :
    ∃ dir,
      (if backslash ∈ path.chars then (fs.fullPathName path).map stripFilePart
        else fs.currentDirectory) = .ok dir ∧
      traverseFound routine fs recursive dir path r₀ = .ok (hr, r) := by
  rw [traverseDirectory, if_pos rfl] at h
  by_cases hslash : backslash ∈ path.chars
  · rw [if_pos hslash] at h ⊢
    cases hfull : fs.fullPathName path with
    | error err =>
        rw [hfull] at h
        cases h
        rw [failed_win32Error] at hsucceeded
        cases hsucceeded
    | ok full =>
        simp only [hfull] at h
        split at h
        · cases h
        · split at h
          · cases h
          · exact ⟨stripFilePart full, rfl, h⟩
  · rw [if_neg hslash] at h ⊢
    cases hcurrent : fs.currentDirectory with
    | error err =>
        rw [hcurrent] at h
        cases h
        rw [failed_win32Error] at hsucceeded
        cases hsucceeded
    | ok dir =>
        simp only [hcurrent] at h
        split at h
        · cases h
        · exact ⟨dir, rfl, h⟩

/-- That of a directory, too. -/
theorem traverseDirectory_all {r₀ r : Run σ} {hr : HRESULT}
    (h : traverseDirectory routine fs path false recursive r₀ = .ok (hr, r)) (hsucceeded : failed hr = false) :
    ∃ full, fs.fullPathName path = .ok full ∧
      traverseFound routine fs recursive full (join full allFiles) r₀ = .ok (hr, r) := by
  rw [traverseDirectory, if_neg (by simp)] at h
  cases hfull : fs.fullPathName path with
  | error err =>
      rw [hfull] at h
      cases h
      rw [failed_win32Error] at hsucceeded
      cases hsucceeded
  | ok full =>
      simp only [hfull] at h
      split at h
      · cases h
      · rcases pathCombine_cases full allFiles with ⟨hp, -⟩ | ⟨hp, -⟩
        · rw [hp] at h
          cases h
          cases hsucceeded
        · rw [hp] at h
          exact ⟨full, rfl, h⟩

/-- **A search that succeeds has visited what there is to find.** -/
theorem Quiet.search_ok (hq : Quiet routine) {hr : HRESULT} {r : Run σ}
    (h : cfixutilSearch fs (some path) recursive (some routine) context = .ok (hr, r))
    (hsucceeded : failed hr = false) :
    failed (visitFiles routine (fs.found recursive path).2 (fs.found recursive path).1 context).1 = false ∧
      r.context = (visitFiles routine (fs.found recursive path).2 (fs.found recursive path).1 context).2 := by
  unfold cfixutilSearch at h
  cases hattributes : fs.attributes path with
  | invalid =>
      simp only [hattributes] at h
      split at h
      · obtain ⟨dir, hdir, hrun⟩ := traverseDirectory_filter h hsucceeded
        rw [found_invalid hattributes hdir]
        exact hq.traverseFound_ok hrun hsucceeded
      · cases h
        cases hsucceeded
  | directory =>
      simp only [hattributes] at h
      obtain ⟨full, hfull, hrun⟩ := traverseDirectory_all h hsucceeded
      rw [found_directory hattributes hfull]
      exact hq.traverseFound_ok hrun hsucceeded
  | other =>
      simp only [hattributes] at h
      have hfound : fs.found recursive path = ([path], false) := by simp only [FileSystem.found, hattributes]
      rw [hfound]
      cases h
      obtain ⟨hcontext, hfails, -⟩ := visitFiles_singleton false path context
      exact ⟨hfails.trans hsucceeded, hcontext.symm⟩

/-- **A path that can be searched is searched**: the search fails exactly if a file does. -/
theorem Quiet.search_fits (hq : Quiet routine) (hsearch : fs.Searchable recursive path) :
    ∃ hr r, cfixutilSearch fs (some path) recursive (some routine) context = .ok (hr, r) ∧
      failed hr = failed (visitFiles routine (fs.found recursive path).2 (fs.found recursive path).1 context).1 := by
  cases hattributes : fs.attributes path with
  | invalid =>
      obtain ⟨hfilter, dir, entries, hmatching, hfits, hlength⟩ := hsearch.invalid hattributes
      obtain ⟨hdir, hfind⟩ : (if backslash ∈ path.chars then (fs.fullPathName path).map stripFilePart
          else fs.currentDirectory) = .ok dir ∧ fs.find path = .ok entries := by
        simp only [FileSystem.matching, List.contains_iff_mem] at hmatching
        generalize (if backslash ∈ path.chars then (fs.fullPathName path).map stripFilePart
          else fs.currentDirectory) = d at hmatching ⊢
        cases d with
        | error err => cases hmatching
        | ok dir'   =>
            cases hfind : fs.find path with
            | error err   => rw [hfind] at hmatching; cases hmatching
            | ok entries' => rw [hfind] at hmatching; cases hmatching; exact ⟨rfl, rfl⟩
      rw [found_invalid hattributes hdir, hfind]
      obtain ⟨hr, r, hrun, hfails⟩ := hq.enterAndLeave_fits_fold hfits context
      refine ⟨hr, r, ?_, hfails⟩
      simp only [cfixutilSearch, hattributes, hfilter, if_true, traverseDirectory]
      by_cases hslash : backslash ∈ path.chars
      · rw [if_pos hslash] at hdir hlength
        cases hfull : fs.fullPathName path with
        | error err => rw [hfull] at hdir; cases hdir
        | ok full =>
            rw [hfull] at hdir
            cases hdir
            obtain ⟨hlt, hlast⟩ := hlength full hfull
            simp only [if_pos hslash, if_neg (Nat.not_le.mpr hlt), if_neg hlast, traverseFound, hfind]
            exact hrun
      · rw [if_neg hslash] at hdir hlength
        simp only [if_neg hslash, hdir, if_neg (Nat.not_le.mpr hlength), traverseFound, hfind]
        exact hrun
  | directory =>
      obtain ⟨hfits, hcontents⟩ := hsearch.directory hattributes
      obtain ⟨⟨full, entries⟩, hcontents⟩ := Option.isSome_iff_exists.mp hcontents
      obtain ⟨hfilter, hentries⟩ := hfits.2 full entries hcontents
      obtain ⟨hfull, hfind⟩ := FileSystem.contents_eq_some.mp hcontents
      obtain ⟨hr, r, hrun, hfails⟩ := hq.enterAndLeave_fits_fold hentries context
      rw [found_directory hattributes hfull, hfind]
      exact ⟨hr, r, (cfixutilSearch_contents routine context hattributes hcontents hfilter).trans hrun, hfails⟩
  | other =>
      have hfound : fs.found recursive path = ([path], false) := by simp only [FileSystem.found, hattributes]
      rw [hfound]
      obtain ⟨-, hfails, -⟩ := visitFiles_singleton false path context
      refine ⟨(routine ⟨path, .file, false⟩ context).1,
        Run.after routine ⟨path, .file, false⟩ ⟨context, []⟩, ?_, hfails.symm⟩
      simp only [cfixutilSearch, hattributes]
      rfl

end

end Cfix.Cfixutil
