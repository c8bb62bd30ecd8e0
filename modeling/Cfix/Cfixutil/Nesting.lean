import Cfix.Cfixutil.Visits

/-!
# `Cfixutil.Nesting` — notifications about directories

Each directory that is entered is left, and the calls in between are those for what is in it. They are nested so for
every routine where all paths fit and a subdirectory that cannot be listed is one that access is denied to.
-/

namespace Cfix.Cfixutil

open Cdiag (CString WCHAR wide)

/-! ## Nested calls -/

mutual

/-- The calls for a directory that is listed, and the result of its traversal. A directory that cannot be entered gets no
    other call. One that is entered is left; if what is in between fails that is the result, and if none of these calls
    fails it is the failure of the last one. -/
inductive DirectoryCalls (recursive : Bool) : CString → Entries → List Visit → HRESULT → Prop where
  | refused {dir entries hr} (h : failed hr = true) :
      DirectoryCalls recursive dir entries [(⟨dir, .enterDirectory, true⟩, hr)] hr
  | entered {dir entries calls hr₀ hr₁ hr₂ hr} (henter : failed hr₁ = false)
      (h : EntryCalls recursive dir entries calls hr₀) (hfailed : failed hr₀ = true → hr = hr₀)
      (hleave : (∀ e ∈ calls, e.Accepted) → failed hr₂ = true → hr = hr₂) :
      DirectoryCalls recursive dir entries
        ((⟨dir, .enterDirectory, true⟩, hr₁) :: calls ++ [(⟨dir, .leaveDirectory, true⟩, hr₂)]) hr

/-- The calls for what is in a directory, in order. They end with a file that is refused or a subdirectory whose
    traversal fails; access that is denied to a subdirectory does not end them. -/
inductive EntryCalls (recursive : Bool) : CString → Entries → List Visit → HRESULT → Prop where
  | nil {dir hr} (h : failed hr = false) : EntryCalls recursive dir .nil [] hr
  | dots {dir rest calls hr} (h : EntryCalls recursive dir rest calls hr) :
      EntryCalls recursive dir (.dots rest) calls hr
  | skip {dir entries name rest calls hr} (hskip : Skips recursive entries name rest)
      (h : EntryCalls recursive dir rest calls hr) : EntryCalls recursive dir entries calls hr
  | unlistable {dir name err rest calls hr} (h : EntryCalls recursive dir rest calls hr) :
      EntryCalls recursive dir (.unlistable name err rest) calls hr
  | refused {dir name rest hr} (h : failed hr = true) :
      EntryCalls recursive dir (.file name rest) [(⟨join dir name, .file, true⟩, hr)] hr
  | file {dir name rest hr₁ calls hr} (haccepted : failed hr₁ = false) (h : EntryCalls recursive dir rest calls hr) :
      EntryCalls recursive dir (.file name rest) ((⟨join dir name, .file, true⟩, hr₁) :: calls) hr
  | stopped {dir name inner rest calls hr} (hrec : recursive = true)
      (h : DirectoryCalls recursive (join dir name) inner calls hr) (hstop : failed (ignoreAccessDenied hr) = true) :
      EntryCalls recursive dir (.directory name inner rest) calls hr
  | directory {dir name inner rest calls calls' hr₁ hr} (hrec : recursive = true)
      (h : DirectoryCalls recursive (join dir name) inner calls hr₁)
      (hgo : failed (ignoreAccessDenied hr₁) = false) (hrest : EntryCalls recursive dir rest calls' hr) :
      EntryCalls recursive dir (.directory name inner rest) (calls ++ calls') hr

end

/-- The search of a directory makes no call, or nested ones. -/
def SearchNests {σ : Type} (fs : FileSystem) (path : CString) (recursive : Bool) (routine : VisitRoutine σ)
    (context : σ) : Prop :=
  ∃ hr r, cfixutilSearch fs (some path) recursive (some routine) context = .ok (hr, r) ∧
    (r.calls = [] ∨ ∃ full entries, fs.contents path = some (full, entries) ∧
      DirectoryCalls recursive full entries r.calls hr)

/-- The full path fits into its buffer and, if the directory is listed, so do the other paths. -/
def FileSystem.FitsInside (fs : FileSystem) (recursive : Bool) (path : CString) : Prop :=
  (∀ full, fs.fullPathName path = .ok full → full.length < maxPath) ∧
    ∀ full entries, fs.contents path = some (full, entries) → (join full allFiles).length < maxPath →
      Cfixutil.Fits recursive full entries

section

variable {σ : Type} {routine : VisitRoutine σ} {recursive : Bool} {dir : CString} {entries : Entries}

/-! ## Loops -/

/-- A loop returns with nested calls; if no call fails, it does not fail. -/
def LoopNests (recursive : Bool) (dir : CString) (entries : Entries) (r : Run σ)
    (result : Except Fault (HRESULT × Run σ)) : Prop :=
  ∃ hr r' calls, result = .ok (hr, r') ∧ r'.calls = r.calls ++ calls ∧ EntryCalls recursive dir entries calls hr ∧
    ((∀ e ∈ calls, e.Accepted) → failed hr = false)

/-- What comes before a loop that nests. -/
theorem LoopNests.prepend {entries' : Entries} {r r₁ : Run σ} {calls : List Visit}
    {result : Except Fault (HRESULT × Run σ)} (h : LoopNests recursive dir entries r₁ result)
    (hcalls : r₁.calls = r.calls ++ calls)
    (himp : ∀ {calls' hr}, EntryCalls recursive dir entries calls' hr → EntryCalls recursive dir entries' (calls ++ calls') hr) :
    LoopNests recursive dir entries' r result := by
  obtain ⟨hr, r', calls', he, hcalls', hnests, hsucceeds⟩ := h
  refine ⟨hr, r', calls ++ calls', he, ?_, himp hnests, fun hall => ?_⟩
  · rw [hcalls', hcalls, List.append_assoc]
  · exact hsucceeds fun e he => hall e (List.mem_append_right _ he)

/-- An entry without calls. -/
theorem LoopNests.imp {entries' : Entries} {r : Run σ} {result : Except Fault (HRESULT × Run σ)}
    (h : LoopNests recursive dir entries r result)
    (himp : ∀ {calls hr}, EntryCalls recursive dir entries calls hr → EntryCalls recursive dir entries' calls hr) :
    LoopNests recursive dir entries' r result :=
  h.prepend (List.append_nil _).symm himp

/-- A directory with a loop that nests. -/
theorem enterAndLeave_nests {loop : HRESULT → Run σ → Except Fault (HRESULT × Run σ)} (r : Run σ)
    (hloop : ∀ hr r, failed hr = false → LoopNests recursive dir entries r (loop hr r)) :
    ∃ hr r' calls, enterAndLeave routine dir loop r = .ok (hr, r') ∧ r'.calls = r.calls ++ calls ∧
      DirectoryCalls recursive dir entries calls hr ∧ ((∀ e ∈ calls, e.Accepted) → failed hr = false) := by
  cases hfail : failed (entering routine dir r) with
  | true =>
      refine ⟨_, _, [(⟨dir, .enterDirectory, true⟩, entering routine dir r)], enterAndLeave_refused loop hfail, rfl,
        .refused hfail, ?_⟩
      exact fun hall => hall (⟨dir, .enterDirectory, true⟩, entering routine dir r) (List.mem_singleton_self _)
  | false =>
      obtain ⟨hr₀, r₁, calls, he, hcalls, hnests, hsucceeds⟩ :=
        hloop (entering routine dir r) (r.after routine ⟨dir, .enterDirectory, true⟩) hfail
      rw [enterAndLeave_entered loop hfail, he]
      refine ⟨_, _, around routine dir r r₁ calls, rfl, calls_around hcalls, .entered hfail hnests ?_ ?_,
        succeeds_around hsucceeds⟩
      · intro hf
        rw [succeeded_eq_not_failed, hf]
        rfl
      · intro hall hf
        rw [succeeded_eq_not_failed, hsucceeds hall, hf]
        rfl

/-- **The calls of a loop whose paths fit are nested.** -/
theorem traverseEntries_nests (hfits : Fits recursive dir entries) {hr : HRESULT} (hhr : failed hr = false) (r : Run σ) :
    LoopNests recursive dir entries r (traverseEntries routine recursive dir entries hr r) := by
  induction entries generalizing dir hr r with
  | nil => exact ⟨hr, r, [], rfl, (List.append_nil _).symm, .nil hhr, fun _ => hhr⟩
  | dots rest ih =>
      rw [traverseEntries, continueWith_go _ hhr]
      exact (ih hfits hhr r).imp .dots
  | reparsePoint name rest ih =>
      rw [traverseEntries, skipped_fits hfits.1, continueWith_go _ hhr]
      exact (ih hfits.2 hhr r).imp (.skip .reparsePoint)
  | unlistable name err rest ih =>
      obtain ⟨hpath, hlist, hrest⟩ := hfits
      rw [traverseEntries]
      cases hrec : recursive with
      | false =>
          subst hrec
          rw [if_neg (by simp), skipped_fits hpath, continueWith_go _ hhr]
          exact (ih hrest hhr r).imp .unlistable
      | true =>
          subst hrec
          obtain ⟨hfilter, herr⟩ := hlist rfl
          rw [if_pos rfl, pathCombine_fits hpath]
          simp only [pathCombine_fits hfilter]
          have hgo := (findFailed_ignored err).mpr herr
          rw [continueWith_go _ hgo]
          exact (ih hrest hgo r).imp .unlistable
  | directory name inner rest ihinner ih =>
      obtain ⟨hpath, hlist, hrest⟩ := hfits
      rw [traverseEntries]
      cases hrec : recursive with
      | false =>
          subst hrec
          rw [if_neg (by simp), skipped_fits hpath, continueWith_go _ hhr]
          exact (ih hrest hhr r).imp (.skip (.directory rfl))
      | true =>
          subst hrec
          obtain ⟨hfilter, hinner⟩ := hlist rfl
          rw [if_pos rfl, pathCombine_fits hpath]
          simp only [pathCombine_fits hfilter]
          have hloop : ∀ hr r, failed hr = false → LoopNests true (join dir name) inner r
              (traverseEntries routine true (join dir name) inner hr r) := fun hr r hhr => ihinner hinner hhr r
          obtain ⟨hr₁, r₁, calls, he, hcalls, hnests, hsucceeds⟩ := enterAndLeave_nests r hloop
          rw [he]
          cases hstop : failed (ignoreAccessDenied hr₁) with
          | true =>
              have hsame := failed_ignoreAccessDenied hstop
              refine ⟨hr₁, r₁, calls, ?_, hcalls, .stopped rfl hnests hstop, hsucceeds⟩
              show continueWith _ (ignoreAccessDenied hr₁) r₁ = _
              rw [continueWith, if_pos hstop, hsame]
          | false =>
              simp only [continueWith_go _ hstop]
              exact (ih hrest hstop r₁).prepend hcalls (.directory rfl hnests hstop)
  | file name rest ih =>
      rw [traverseEntries, pathCombine_fits hfits.1]
      simp only [Run.call_eq]
      generalize hresult : (routine ⟨join dir name, .file, true⟩ r.context).1 = hr₁
      have hafter : (r.after routine ⟨join dir name, .file, true⟩).calls =
          r.calls ++ [(⟨join dir name, .file, true⟩, hr₁)] := by rw [Run.after, hresult]
      cases hfail : failed hr₁ with
      | true =>
          exact ⟨hr₁, _, _, if_pos hfail, hafter, .refused hfail, fun hall => hall (_, hr₁) (List.mem_singleton_self _)⟩
      | false =>
          rw [continueWith_go _ hfail]
          exact (ih hfits.2 hfail (r.after routine ⟨join dir name, .file, true⟩)).prepend hafter (.file hfail)

/-! ## A directory that cannot be left -/

/-- A code that the search itself never has. -/
structure Foreign (hr : HRESULT) : Prop where
  failed     : failed hr = true
  unexpected : hr ≠ eUnexpected
  win32      : ∀ err : Win32Error, hr ≠ findFailed err

theorem Foreign.ignored {hr hr' : HRESULT} (h : Foreign hr) (hne : hr' ≠ hr) : ignoreAccessDenied hr' ≠ hr := by
  unfold ignoreAccessDenied
  split
  · rintro rfl
    exact absurd h.failed (by decide)
  · exact hne

/-- If the routine does not return it either, it is not the result. -/
theorem traverseEntries_ne_foreign {hr₀ hr hr' : HRESULT} {r r' : Run σ} (hforeign : Foreign hr₀)
    (h : traverseEntries routine recursive dir entries hr r = .ok (hr', r')) (hhr : hr ≠ hr₀)
    (hcalls : ∀ c context, Below dir c → (routine c context).1 ≠ hr₀) : hr' ≠ hr₀ := by
  revert hhr hcalls
  refine traverseEntries_induct (P := fun dir _ hr _ hr' _ => hr ≠ hr₀ →
    (∀ c context, Below dir c → (routine c context).1 ≠ hr₀) → hr' ≠ hr₀) (fun _ _ _ hhr _ => hhr) ?_ h
  intro dir entries hr r rest hr₁ r₁ hr' r' hstep hinner hend hhr hcalls
  have hne : hr₁ ≠ hr₀ := by
    cases hstep with
    | dots => exact hhr
    | skip =>
        unfold skipped
        split
        · exact hforeign.unexpected.symm
        · exact hhr
    | tooLong => exact hforeign.unexpected.symm
    | unlistable => exact hforeign.ignored (hforeign.win32 _).symm
    | @directory name inner _ _ _ hr₁ _ hrec hpath hfilter hblock =>
        have hlonger : ∀ type, Below dir ⟨join dir name, type, true⟩ := fun _ => length_lt_join dir name
        refine hforeign.ignored ?_
        rcases enterAndLeave_ok hblock with ⟨-, rfl, -⟩ | ⟨-, hr₂, r₂, hrun, rfl, -⟩
        · exact hcalls _ _ (hlonger _)
        · split
          · exact hcalls _ _ (hlonger _)
          · exact hinner rfl hrun (hcalls _ _ (hlonger _)) fun c context hc => hcalls c context (Below.trans hc)
    | file => exact hcalls _ _ (length_lt_join dir _)
  rcases hend with ⟨-, rfl, -⟩ | ⟨-, hrest⟩
  · exact hne
  · exact hrest hne hcalls

end

/-- `E_FAIL` -/
def eFail : HRESULT := 0x80004005#32

theorem foreign_eFail : Foreign eFail where
  failed     := by decide
  unexpected := by decide
  win32 err  := by
    unfold findFailed
    split
    · decide
    · intro h
      rw [hresultFromWin32, if_neg (Int.not_le.mpr err.positive)] at h
      have hbit := congrArg (fun x : HRESULT => x.getLsbD 16) h
      simp [eFail] at hbit

/-- Does not let a directory be left. -/
def holding (dir : CString) : VisitRoutine Unit := fun c context =>
  (if c.type = .leaveDirectory ∧ c.path = dir then eFail else sOk, context)

theorem holding_fst (dir : CString) (c : Call) (context : Unit) :
    (holding dir c context).1 = if c.type = .leaveDirectory ∧ c.path = dir then eFail else sOk := rfl

theorem holding_below {dir : CString} {c : Call} (h : Below dir c) (context : Unit) :
    (holding dir c context).1 = sOk := by
  rw [holding_fst, if_neg]
  rintro ⟨-, hpath⟩
  rw [Below, hpath] at h
  exact lt_irrefl _ h

theorem enterAndLeave_calls_ne_nil {σ : Type} {routine : VisitRoutine σ} {dir : CString}
    {loop : HRESULT → Run σ → Except Fault (HRESULT × Run σ)} {hr : HRESULT} {r r' : Run σ}
    (h : enterAndLeave routine dir loop r = .ok (hr, r')) : r'.calls ≠ [] := by
  rcases enterAndLeave_ok h with ⟨-, -, rfl⟩ | ⟨-, hr₀, r₀, -, -, rfl⟩
  · exact List.append_ne_nil_of_right_ne_nil _ (List.cons_ne_nil _ _)
  · exact List.append_ne_nil_of_right_ne_nil _ (List.cons_ne_nil _ _)

/-- Where a path does not fit, the failure of the last call is not the result. -/
theorem fits_of_nests {recursive : Bool} {dir : CString} {entries : Entries} {hr : HRESULT} {r : Run Unit}
    (hrun : enterAndLeave (holding dir) dir (traverseEntries (holding dir) recursive dir entries)
      { context := (), calls := [] } = .ok (hr, r))
    (hnests : DirectoryCalls recursive dir entries r.calls hr) : Fits recursive dir entries := by
  have hentering : ∀ r, entering (holding dir) dir r = sOk := fun r => by simp [entering, holding_fst]
  have hleaving : ∀ r, leaving (holding dir) dir r = eFail := fun r => by simp [leaving, holding_fst]
  rcases enterAndLeave_ok hrun with ⟨hrefused, -⟩ | ⟨-, hr₀, r₀, hloop, hres, hafter⟩
  · rw [hentering] at hrefused
    cases hrefused
  · obtain ⟨calls, hcalls, hresults⟩ := traverseEntries_extends hloop
    rw [hentering] at hloop
    cases hfail : failed hr₀ with
    | false => exact fits_of_succeeded hloop hfail fun c context hc => by rw [holding_below hc, failed_sOk]
    | true =>
        exfalso
        have hne : hr₀ ≠ eFail := traverseEntries_ne_foreign foreign_eFail hloop (by decide) fun c context hc => by
          rw [holding_below hc]
          decide
        rw [succeeded_eq_not_failed, hfail] at hres
        have hhr : hr ≠ eFail := by rw [show hr = hr₀ from hres]; exact hne
        have hlist : r.calls =
            (⟨dir, .enterDirectory, true⟩, sOk) :: calls ++ [(⟨dir, .leaveDirectory, true⟩, eFail)] := by
          rw [hafter, Run.after, hcalls, Run.after]
          have h₁ : (holding dir ⟨dir, .enterDirectory, true⟩ ()).1 = sOk := hentering { context := (), calls := [] }
          have h₂ : (holding dir ⟨dir, .leaveDirectory, true⟩ r₀.context).1 = eFail := hleaving r₀
          rw [h₁, h₂]
          rfl
        generalize hl : r.calls = list at hnests
        rw [hlist] at hl
        cases hnests with
        | refused => simp at hl
        | @entered _ _ calls' hr₁' hr₁ hr₂ _ henter hentries hfailed hleave =>
            obtain ⟨hcons, hlast⟩ := List.append_inj' hl rfl
            obtain ⟨-, rfl⟩ := List.cons.inj hcons
            have hcode : eFail = hr₂ := (Prod.mk.inj (List.cons.inj hlast).1).2
            refine hhr ((hleave ?_ ?_).trans hcode.symm)
            · intro e he
              obtain ⟨hbelow, context, hresult⟩ := hresults e he
              rw [Visit.Accepted, hresult, holding_below hbelow, failed_sOk]
            · rw [← hcode]
              rfl

/-! ## The search of a directory -/

section

variable {fs : FileSystem} {path : CString} {recursive : Bool}

theorem searchNests_of_fits {σ : Type} (routine : VisitRoutine σ) (context : σ)
    (hdir : fs.attributes path = .directory) (hfits : fs.FitsInside recursive path) :
    SearchNests fs path recursive routine context := by
  cases hcontents : fs.contents path with
  | none =>
      obtain ⟨hr, hrun⟩ := cfixutilSearch_unlistable routine context hdir hcontents hfits.1
      exact ⟨hr, _, hrun, .inl rfl⟩
  | some found =>
      obtain ⟨full, entries⟩ := found
      obtain ⟨hfull, -⟩ := FileSystem.contents_eq_some.mp hcontents
      by_cases hfilter : (join full allFiles).length < maxPath
      · have hloop : ∀ hr r, failed hr = false →
            LoopNests recursive full entries r (traverseEntries routine recursive full entries hr r) := fun hr r hhr =>
          traverseEntries_nests (hfits.2 full entries hcontents hfilter) hhr r
        obtain ⟨hr, r, calls, hrun, hcalls, hnests, -⟩ :=
          enterAndLeave_nests ({ context, calls := [] } : Run σ) hloop
        rw [← cfixutilSearch_contents routine context hdir hcontents hfilter] at hrun
        rw [List.nil_append] at hcalls
        exact ⟨hr, r, hrun, .inr ⟨full, entries, hcontents, hcalls ▸ hnests⟩⟩
      · have hrun : cfixutilSearch fs (some path) recursive (some routine) context = _ :=
          cfixutilSearch_filter routine context hdir hfull (hfits.1 full hfull) (Nat.not_lt.mp hfilter)
        exact ⟨_, _, hrun, .inl rfl⟩

/-- **The calls of the search of a directory are nested for every routine if and only if all paths fit and a
    subdirectory that cannot be listed is one that access is denied to.** -/
theorem searchNests_iff (hdir : fs.attributes path = .directory) :
    (∀ (σ : Type) (routine : VisitRoutine σ) (context : σ), SearchNests fs path recursive routine context) ↔
      fs.FitsInside recursive path := by
  constructor
  · intro h
    refine ⟨fun full hfull => ?_, fun full entries hcontents hfilter => ?_⟩
    · by_contra hlong
      obtain ⟨hr, r, hrun, -⟩ := h Unit accepting ()
      rw [cfixutilSearch_undefined accepting () hdir hfull (Nat.not_lt.mp hlong)] at hrun
      cases hrun
    · obtain ⟨hr, r, hrun, hcalls⟩ := h Unit (holding full) ()
      rw [cfixutilSearch_contents (holding full) () hdir hcontents hfilter] at hrun
      rcases hcalls with hnone | ⟨full', entries', hcontents', hnests⟩
      · exact absurd hnone (enterAndLeave_calls_ne_nil hrun)
      · cases hcontents.symm.trans hcontents'
        exact fits_of_nests hrun hnests
  · exact fun hfits σ routine context => searchNests_of_fits routine context hdir hfits

end

theorem searchNests_oneSubdirectory :
    (∀ (σ : Type) (routine : VisitRoutine σ) (context : σ),
      SearchNests oneSubdirectory (wide "c:\\t") true routine context) ↔
    oneSubdirectory.FitsInside true (wide "c:\\t") :=
  searchNests_iff (by decide)

/-! ## A file with a long name -/

/-- A name of 255 characters, which is the maximum. -/
def longName : FileName where
  chars    := List.replicate 255 0x78#16
  nonzero  := fun c hc => by rw [List.eq_of_mem_replicate hc]; decide
  nonempty := List.cons_ne_nil _ _
  plain    := fun hc => absurd (List.eq_of_mem_replicate hc) (by decide)

def oneLongName : FileSystem where
  attributes path  := if path = wide "c:\\t" then .directory else .invalid
  fullPathName     := .ok
  currentDirectory := .ok (wide "c:\\")
  find _           := .ok (.dots (.dots (.file longName .nil)))

theorem pathCombine_longName : pathCombine (wide "c:\\t") longName = none := by
  have hlen : (join (wide "c:\\t") longName).length = 260 := by
    show ((wide "c:\\t").chars ++ separator (wide "c:\\t") ++ List.replicate 255 0x78#16).length = 260
    rw [List.length_append, List.length_replicate]
    decide
  rw [pathCombine, hlen]
  decide

/-- The routine is called for a path that has not been built. -/
theorem not_searchNests_longName : ¬ SearchNests oneLongName (wide "c:\\t") false accepting () := by
  rintro ⟨hr, r, hrun, -⟩
  rw [cfixutilSearch_contents accepting () (by decide) rfl (by decide)] at hrun
  rcases enterAndLeave_ok hrun with ⟨hrefused, -⟩ | ⟨hentered, hr₀, r₀, hloop, -⟩
  · simp [entering] at hrefused
  · rw [traverseEntries, continueWith_go _ hentered, traverseEntries, continueWith_go _ hentered, traverseEntries,
      pathCombine_longName] at hloop
    cases hloop

end Cfix.Cfixutil
