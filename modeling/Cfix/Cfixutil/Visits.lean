import Cfix.Cfixutil.Search
import Mathlib.Data.List.TakeWhile

/-!
# `Cfixutil.Visits` — the files that a search visits

The calls of a search are compared with the files of the directory. They agree, for whatever the routine returns,
where each path fits into its buffer, a subdirectory that cannot be listed is one whose access is denied, and the
routine does not itself return `E_ACCESSDENIED` for a file of a subdirectory.
-/

namespace Cfix.Cfixutil

open Cdiag (CString WCHAR wide)

/-! ## What is to be visited -/

/-- The files of a directory and, if the search is recursive, of the subdirectories that can be listed. -/
def filesOf (recursive : Bool) : CString → Entries → List CString
  | _,   .nil                       => []
  | dir, .dots rest                 => filesOf recursive dir rest
  | dir, .reparsePoint _ rest       => filesOf recursive dir rest
  | dir, .unlistable _ _ rest       => filesOf recursive dir rest
  | dir, .directory name inner rest =>
    (if recursive then filesOf recursive (join dir name) inner else []) ++ filesOf recursive dir rest
  | dir, .file name rest            => join dir name :: filesOf recursive dir rest

/-- Those that are not in the directory itself. -/
def filesBelow (recursive : Bool) : CString → Entries → List CString
  | _,   .nil                       => []
  | dir, .dots rest                 => filesBelow recursive dir rest
  | dir, .reparsePoint _ rest       => filesBelow recursive dir rest
  | dir, .unlistable _ _ rest       => filesBelow recursive dir rest
  | dir, .directory name inner rest =>
    (if recursive then filesOf recursive (join dir name) inner else []) ++ filesBelow recursive dir rest
  | dir, .file _ rest               => filesBelow recursive dir rest

theorem filesBelow_subset (recursive : Bool) (dir : CString) (entries : Entries) :
    filesBelow recursive dir entries ⊆ filesOf recursive dir entries := by
  induction entries with
  | nil => exact List.Subset.refl _
  | dots rest ih => exact ih
  | reparsePoint name rest ih => exact ih
  | unlistable name err rest ih => exact ih
  | directory name inner rest _ ih =>
      exact List.append_subset.mpr ⟨List.subset_append_left _ _, List.subset_append_of_subset_right _ ih⟩
  | file name rest ih => exact List.subset_cons_of_subset _ ih

/-! ## Calls -/

def Visit.Accepted (e : Visit) : Prop := failed e.2 = false

instance (e : Visit) : Decidable e.Accepted := inferInstanceAs (Decidable (_ = _))

/-- A call for a file that has failed. -/
def Visit.Refused (e : Visit) : Prop := e.1.type = .file ∧ failed e.2 = true

/-- The files that are visited. -/
def visited (calls : List Visit) : List CString :=
  calls.filterMap fun e => if e.1.type = .file then some e.1.path else none

@[simp] theorem visited_nil : visited [] = [] := rfl

@[simp] theorem visited_append (calls calls' : List Visit) : visited (calls ++ calls') = visited calls ++ visited calls' :=
  List.filterMap_append ..

/-- Up to the first call that fails, the expected files are visited in order; all of them are, if no call fails. When
    a file is refused no other is visited, and this is the result. -/
structure Visits (expected : List CString) (calls : List Visit) (hr : HRESULT) : Prop where
  inOrder   : visited (calls.takeWhile (·.Accepted)) <+: expected
  complete  : (∀ e ∈ calls, e.Accepted) → visited calls = expected
  noneAfter : calls.Pairwise fun e e' => e.Refused → e'.1.type ≠ .file
  returned  : ∀ e ∈ calls, e.Refused → hr = e.2

theorem Visits.nil (hr : HRESULT) : Visits [] [] hr where
  inOrder   := List.nil_prefix
  complete  := fun _ => rfl
  noneAfter := List.Pairwise.nil
  returned  := fun _ h => absurd h List.not_mem_nil

/-- A single file. -/
theorem Visits.file (path : CString) (hr : HRESULT) : Visits [path] [(⟨path, .file, true⟩, hr)] hr where
  inOrder := by
    by_cases h : Visit.Accepted (⟨path, .file, true⟩, hr)
    · rw [List.takeWhile_cons_of_pos (by simpa using h)]
      exact List.prefix_rfl
    · rw [List.takeWhile_cons_of_neg (by simpa using h)]
      exact List.nil_prefix
  complete  := fun _ => rfl
  noneAfter := List.pairwise_singleton _ _
  returned  := fun e he _ => by rw [List.mem_singleton.mp he]

/-- What comes after calls none of which has refused a file. -/
theorem Visits.append {expected expected' : List CString} {calls calls' : List Visit} {hr hr' : HRESULT}
    (h : Visits expected calls hr) (hnone : ∀ e ∈ calls, ¬ e.Refused) (h' : Visits expected' calls' hr') :
    Visits (expected ++ expected') (calls ++ calls') hr' where
  inOrder := by
    rw [List.takeWhile_append]
    split
    · rename_i hall
      have hacc : calls.takeWhile (·.Accepted) = calls := (List.takeWhile_prefix _).eq_of_length hall
      have hcomplete : visited calls = expected :=
        h.complete fun e he => by simpa using List.takeWhile_eq_self_iff.mp hacc e he
      rw [visited_append, hcomplete]
      exact (List.prefix_append_right_inj _).mpr h'.inOrder
    · exact h.inOrder.trans (List.prefix_append _ _)
  complete := by
    intro hall
    rw [visited_append, h.complete fun e he => hall e (List.mem_append_left _ he),
      h'.complete fun e he => hall e (List.mem_append_right _ he)]
  noneAfter := List.pairwise_append.mpr ⟨h.noneAfter, h'.noneAfter, fun e he _ _ hr => absurd hr (hnone e he)⟩
  returned := by
    intro e he hr
    rcases List.mem_append.mp he with he | he
    · exact absurd hr (hnone e he)
    · exact h'.returned e he hr

/-- A search that ends after a failure. -/
theorem Visits.stop {expected calls hr} (h : Visits expected calls hr) (hfailed : ¬ ∀ e ∈ calls, e.Accepted)
    (expected' : List CString) : Visits (expected ++ expected') calls hr where
  inOrder   := h.inOrder.trans (List.prefix_append _ _)
  complete  := fun hall => absurd hall hfailed
  noneAfter := h.noneAfter
  returned  := h.returned

/-- The notification that the directory is entered, if that is refused. -/
theorem Visits.notEntered (expected : List CString) (dir : CString) {hr : HRESULT} (h : failed hr = true) :
    Visits expected [(⟨dir, .enterDirectory, true⟩, hr)] hr where
  inOrder   := by
    rw [List.takeWhile_cons_of_neg (by simp [Visit.Accepted, h])]
    exact List.nil_prefix
  complete  := fun hall => absurd (hall _ (List.mem_singleton_self _)) (by simp [Visit.Accepted, h])
  noneAfter := List.pairwise_singleton _ _
  returned  := fun e he hr => by
    rw [List.mem_singleton.mp he] at hr
    exact absurd hr.1 (by simp)

/-- The notification before the calls for what is in a directory. -/
theorem Visits.enter {expected : List CString} {calls : List Visit} {hr hr₁ : HRESULT} (h : Visits expected calls hr)
    (dir : CString) (henter : failed hr₁ = false) :
    Visits expected ((⟨dir, .enterDirectory, true⟩, hr₁) :: calls) hr where
  inOrder := by
    rw [List.takeWhile_cons_of_pos (by simp [Visit.Accepted, henter])]
    exact h.inOrder
  complete  := fun hall => h.complete fun e he => hall e (List.mem_cons_of_mem _ he)
  noneAfter := List.pairwise_cons.mpr ⟨fun _ _ href => absurd href.1 (by simp), h.noneAfter⟩
  returned  := by
    intro e he href
    rcases List.mem_cons.mp he with rfl | he
    · exact absurd href.1 (by simp)
    · exact h.returned e he href

/-- The notification after them: it is the result if it alone fails. -/
theorem Visits.leave {expected : List CString} {calls : List Visit} {hr : HRESULT} (h : Visits expected calls hr)
    (dir : CString) (hr₂ : HRESULT) :
    Visits expected (calls ++ [(⟨dir, .leaveDirectory, true⟩, hr₂)]) (if succeeded hr && failed hr₂ then hr₂ else hr) where
  inOrder := by
    have hnone : visited ([((⟨dir, .leaveDirectory, true⟩, hr₂) : Visit)].takeWhile (·.Accepted)) = [] := by
      by_cases hacc : Visit.Accepted (⟨dir, .leaveDirectory, true⟩, hr₂)
      · rw [List.takeWhile_cons_of_pos (by simpa using hacc)]; rfl
      · rw [List.takeWhile_cons_of_neg (by simpa using hacc)]; rfl
    have hin := h.inOrder
    rw [List.takeWhile_append]
    split
    · rename_i hall
      rw [(List.takeWhile_prefix _).eq_of_length hall] at hin
      rwa [visited_append, hnone, List.append_nil]
    · exact hin
  complete := by
    intro hall
    rw [visited_append, h.complete fun e he => hall e (List.mem_append_left _ he)]
    exact List.append_nil _
  noneAfter := by
    refine List.pairwise_append.mpr ⟨h.noneAfter, List.pairwise_singleton _ _, ?_⟩
    intro e _ e' he' _
    rw [List.mem_singleton.mp he']
    simp
  returned := by
    intro e he href
    rcases List.mem_append.mp he with he | he
    · have hr := h.returned e he href
      rw [succeeded_eq_not_failed, hr, href.2]
      rfl
    · rw [List.mem_singleton.mp he] at href
      exact absurd href.1 (by simp)

/-! ## The traversal -/

/-- Each path fits into its buffer, and a subdirectory that cannot be listed is one that access is denied to, or where
    there is nothing. -/
def Fits (recursive : Bool) : CString → Entries → Prop
  | _,   .nil                       => True
  | dir, .dots rest                 => Fits recursive dir rest
  | dir, .reparsePoint name rest    => (join dir name).length < maxPath ∧ Fits recursive dir rest
  | dir, .unlistable name err rest  =>
    (join dir name).length < maxPath ∧
      (recursive = true → (join (join dir name) allFiles).length < maxPath ∧
        (findFailed err = eAccessdenied ∨ findFailed err = sOk)) ∧
      Fits recursive dir rest
  | dir, .directory name inner rest =>
    (join dir name).length < maxPath ∧
      (recursive = true → (join (join dir name) allFiles).length < maxPath ∧ Fits recursive (join dir name) inner) ∧
      Fits recursive dir rest
  | dir, .file name rest            => (join dir name).length < maxPath ∧ Fits recursive dir rest

section

variable {σ : Type} {routine : VisitRoutine σ}

/-- What becomes of a part of the search that is to visit the expected files. -/
def Served (routine : VisitRoutine σ) (expected : List CString) (r : Run σ) (result : Except Fault (HRESULT × Run σ)) :
    Prop :=
  ∃ hr r' calls, result = .ok (hr, r') ∧ r'.calls = r.calls ++ calls ∧ Visits expected calls hr ∧
    ((∀ e ∈ calls, e.Accepted) → failed hr = false) ∧
    ∀ e ∈ calls, e.1.type = .file → e.1.path ∈ expected ∧ ∃ context, e.2 = (routine e.1 context).1

/-- The routine does not deny access to any of the files. -/
def NeverDenies (routine : VisitRoutine σ) (files : List CString) : Prop :=
  ∀ c context, c.type = .file → c.path ∈ files → (routine c context).1 ≠ eAccessdenied

theorem served_nil {hr : HRESULT} (h : failed hr = false) (r : Run σ) : Served routine [] r (.ok (hr, r)) :=
  ⟨hr, r, [], rfl, (List.append_nil _).symm, .nil hr, fun _ => h, fun _ h => absurd h List.not_mem_nil⟩

/-- A part and, if its result lets the loop go on, what follows it. -/
theorem Served.continueWith {expected expected' : List CString} {r r₁ : Run σ} {hr₁ hr₁' : HRESULT}
    {next : HRESULT → Run σ → Except Fault (HRESULT × Run σ)} (h : Served routine expected r (.ok (hr₁, r₁)))
    (hstop : failed hr₁' = true → hr₁' = hr₁)
    (hgo : failed hr₁' = false → failed hr₁ = true → hr₁ = eAccessdenied ∧ NeverDenies routine expected)
    (hnext : ∀ hr r, failed hr = false → Served routine expected' r (next hr r)) :
    Served routine (expected ++ expected') r (continueWith next hr₁' r₁) := by
  obtain ⟨hr, r', calls, he, hcalls, hvisits, hsucceeds, hfiles⟩ := h
  cases he
  cases hfail : failed hr₁' with
  | true =>
      obtain rfl := hstop hfail
      refine ⟨hr₁', r₁, calls, if_pos hfail, hcalls, hvisits.stop ?_ _, hsucceeds, ?_⟩
      · intro hall
        exact absurd (hsucceeds hall) (by simp [hfail])
      · intro e he ht
        obtain ⟨hmem, hresult⟩ := hfiles e he ht
        exact ⟨List.mem_append_left _ hmem, hresult⟩
  | false =>
      have hnone : ∀ e ∈ calls, ¬ e.Refused := by
        intro e he href
        have hr := hvisits.returned e he href
        obtain ⟨hdenied, hnever⟩ := hgo hfail (hr ▸ href.2)
        obtain ⟨hmem, context, hresult⟩ := hfiles e he href.1
        exact hnever e.1 context href.1 hmem (by rw [← hresult, ← hr, hdenied])
      obtain ⟨hr₂, r₂, calls₂, he₂, hcalls₂, hvisits₂, hsucceeds₂, hfiles₂⟩ := hnext hr₁' r₁ hfail
      refine ⟨hr₂, r₂, calls ++ calls₂, ?_, ?_, hvisits.append hnone hvisits₂, ?_, ?_⟩
      · rw [← he₂]
        exact if_neg (by simp [hfail])
      · rw [hcalls₂, hcalls, List.append_assoc]
      · exact fun hall => hsucceeds₂ fun e he => hall e (List.mem_append_right _ he)
      · intro e he ht
        rcases List.mem_append.mp he with he | he
        · obtain ⟨hmem, hresult⟩ := hfiles e he ht
          exact ⟨List.mem_append_left _ hmem, hresult⟩
        · obtain ⟨hmem, hresult⟩ := hfiles₂ e he ht
          exact ⟨List.mem_append_right _ hmem, hresult⟩

/-- The run after a call. -/
def Run.after (routine : VisitRoutine σ) (c : Call) (r : Run σ) : Run σ where
  context := (routine c r.context).2
  calls   := r.calls ++ [(c, (routine c r.context).1)]

theorem Run.call_eq (c : Call) (r : Run σ) : r.call routine c = ((routine c r.context).1, r.after routine c) := rfl

theorem served_file (path : CString) (r : Run σ) :
    Served routine [path] r (.ok (r.call routine ⟨path, .file, true⟩)) := by
  generalize hc : (⟨path, .file, true⟩ : Call) = c
  generalize hresult : (routine c r.context).1 = hr
  refine ⟨hr, r.after routine c, [(c, hr)], ?_, ?_, ?_, ?_, ?_⟩
  · rw [Run.call_eq, hresult]
  · rw [Run.after, hresult]
  · subst hc
    exact .file path hr
  · exact fun hall => hall (c, hr) (List.mem_singleton_self _)
  · intro e he _
    obtain rfl := List.mem_singleton.mp he
    exact ⟨by simp [← hc], r.context, hresult.symm⟩

/-- What the routine returns when the directory is entered. -/
def entering (routine : VisitRoutine σ) (dir : CString) (r : Run σ) : HRESULT :=
  (routine ⟨dir, .enterDirectory, true⟩ r.context).1

/-- What it returns when it is left. -/
def leaving (routine : VisitRoutine σ) (dir : CString) (r : Run σ) : HRESULT :=
  (routine ⟨dir, .leaveDirectory, true⟩ r.context).1

theorem enterAndLeave_refused {dir : CString} {r : Run σ} (loop : HRESULT → Run σ → Except Fault (HRESULT × Run σ))
    (h : failed (entering routine dir r) = true) :
    enterAndLeave routine dir loop r = .ok (entering routine dir r, r.after routine ⟨dir, .enterDirectory, true⟩) := by
  rw [enterAndLeave, Run.call_eq]
  exact if_pos h

theorem enterAndLeave_entered {dir : CString} {r : Run σ} (loop : HRESULT → Run σ → Except Fault (HRESULT × Run σ))
    (h : failed (entering routine dir r) = false) :
    enterAndLeave routine dir loop r =
      match loop (entering routine dir r) (r.after routine ⟨dir, .enterDirectory, true⟩) with
      | .error fault => .error fault
      | .ok (hr, r)  =>
        .ok (if succeeded hr && failed (leaving routine dir r) then leaving routine dir r else hr,
          r.after routine ⟨dir, .leaveDirectory, true⟩) := by
  rw [enterAndLeave, Run.call_eq]
  exact if_neg (by rw [entering] at h; simp [h])

/-- The calls for a directory: it is entered, then come those for what is in it, and it is left. -/
def around (routine : VisitRoutine σ) (dir : CString) (r r₁ : Run σ) (calls : List Visit) : List Visit :=
  (⟨dir, .enterDirectory, true⟩, entering routine dir r) :: calls ++
    [(⟨dir, .leaveDirectory, true⟩, leaving routine dir r₁)]

theorem calls_around {dir : CString} {r r₁ : Run σ} {calls : List Visit}
    (h : r₁.calls = (r.after routine ⟨dir, .enterDirectory, true⟩).calls ++ calls) :
    (r₁.after routine ⟨dir, .leaveDirectory, true⟩).calls = r.calls ++ around routine dir r r₁ calls := by
  rw [Run.after, h, Run.after, List.append_assoc, List.append_assoc]
  rfl

/-- If none of them fails, the directory has been traversed. -/
theorem succeeds_around {dir : CString} {r r₁ : Run σ} {calls : List Visit} {hr : HRESULT}
    (hsucceeds : (∀ e ∈ calls, e.Accepted) → failed hr = false)
    (hall : ∀ e ∈ around routine dir r r₁ calls, e.Accepted) :
    failed (if succeeded hr && failed (leaving routine dir r₁) then leaving routine dir r₁ else hr) = false := by
  have hhr : failed hr = false :=
    hsucceeds fun e he => hall e (List.mem_append_left _ (List.mem_cons_of_mem _ he))
  have hleft : failed (leaving routine dir r₁) = false :=
    hall (⟨dir, .leaveDirectory, true⟩, leaving routine dir r₁) (List.mem_append_right _ (List.mem_singleton_self _))
  rw [hleft, Bool.and_false, if_neg Bool.false_ne_true]
  exact hhr

/-- The notifications around a loop. -/
theorem served_enterAndLeave {expected : List CString} {loop : HRESULT → Run σ → Except Fault (HRESULT × Run σ)}
    (dir : CString) (r : Run σ) (hloop : ∀ hr r, failed hr = false → Served routine expected r (loop hr r)) :
    Served routine expected r (enterAndLeave routine dir loop r) := by
  cases hfail : failed (entering routine dir r) with
  | true =>
      refine ⟨_, _, [(⟨dir, .enterDirectory, true⟩, entering routine dir r)], enterAndLeave_refused loop hfail, rfl,
        .notEntered _ dir hfail, ?_, ?_⟩
      · exact fun hall => hall (⟨dir, .enterDirectory, true⟩, entering routine dir r) (List.mem_singleton_self _)
      · intro e he ht
        rw [List.mem_singleton.mp he] at ht
        cases ht
  | false =>
      obtain ⟨hr, r₁, calls, he, hcalls, hvisits, hsucceeds, hfiles⟩ :=
        hloop (entering routine dir r) (r.after routine ⟨dir, .enterDirectory, true⟩) hfail
      rw [enterAndLeave_entered loop hfail, he]
      refine ⟨_, _, around routine dir r r₁ calls, rfl, calls_around hcalls, (hvisits.enter dir hfail).leave dir _,
        succeeds_around hsucceeds, ?_⟩
      intro e he ht
      rcases List.mem_append.mp he with he | he
      · rcases List.mem_cons.mp he with rfl | he
        · cases ht
        · exact hfiles e he ht
      · rw [List.mem_singleton.mp he] at ht
        cases ht

theorem continueWith_go (next : HRESULT → Run σ → Except Fault (HRESULT × Run σ)) {hr : HRESULT} (h : failed hr = false)
    (r : Run σ) : continueWith next hr r = next hr r := if_neg (by simp [h])

theorem pathCombine_fits {dir : CString} {name : FileName} (h : (join dir name).length < maxPath) :
    pathCombine dir name = some (join dir name) := if_pos h

theorem skipped_fits {dir : CString} {name : FileName} (h : (join dir name).length < maxPath) (hr : HRESULT) :
    skipped dir name hr = hr := by
  rw [skipped, pathCombine_fits h]

theorem ignoreAccessDenied_of_ne {hr : HRESULT} (h : hr ≠ eAccessdenied) : ignoreAccessDenied hr = hr := if_neg h

/-- An error is ignored if access is denied or nothing is there. -/
theorem findFailed_ignored (err : Win32Error) :
    failed (ignoreAccessDenied (findFailed err)) = false ↔ findFailed err = eAccessdenied ∨ findFailed err = sOk := by
  constructor
  · intro h
    by_cases hd : findFailed err = eAccessdenied
    · exact .inl hd
    · right
      rw [ignoreAccessDenied_of_ne hd] at h
      unfold findFailed at h ⊢
      split
      · rfl
      · rename_i hne
        rw [if_neg hne, failed_hresultFromWin32] at h
        have hpos := err.positive
        rw [bne_eq_false_iff_eq.mp h] at hpos
        exact absurd hpos (by decide)
  · rintro (h | h)
    · rw [h]; rfl
    · rw [h]; rfl

theorem NeverDenies.mono {files files' : List CString} (h : NeverDenies routine files) (hsub : files' ⊆ files) :
    NeverDenies routine files' := fun c context ht hmem => h c context ht (hsub hmem)

/-- **A search whose paths fit visits what it is to visit.** -/
theorem served_entries {recursive : Bool} {dir : CString} {entries : Entries} (hfits : Fits recursive dir entries)
    (hnever : NeverDenies routine (filesBelow recursive dir entries)) {hr : HRESULT} (hhr : failed hr = false)
    (r : Run σ) :
    Served routine (filesOf recursive dir entries) r (traverseEntries routine recursive dir entries hr r) := by
  induction entries generalizing dir hr r with
  | nil => exact served_nil hhr r
  | dots rest ih =>
      rw [traverseEntries, continueWith_go _ hhr]
      exact ih hfits hnever hhr r
  | reparsePoint name rest ih =>
      rw [traverseEntries, skipped_fits hfits.1, continueWith_go _ hhr]
      exact ih hfits.2 hnever hhr r
  | unlistable name err rest ih =>
      obtain ⟨hpath, hlist, hrest⟩ := hfits
      rw [traverseEntries]
      cases recursive with
      | false =>
          rw [if_neg (by simp), skipped_fits hpath, continueWith_go _ hhr]
          exact ih hrest hnever hhr r
      | true =>
          obtain ⟨hfilter, herr⟩ := hlist rfl
          rw [if_pos rfl, pathCombine_fits hpath]
          simp only [pathCombine_fits hfilter]
          have hgo := (findFailed_ignored err).mpr herr
          rw [continueWith_go _ hgo]
          exact ih hrest hnever hgo r
  | directory name inner rest ihinner ih =>
      obtain ⟨hpath, hlist, hrest⟩ := hfits
      rw [traverseEntries]
      cases recursive with
      | false =>
          rw [if_neg (by simp), skipped_fits hpath, continueWith_go _ hhr]
          exact ih hrest hnever hhr r
      | true =>
          obtain ⟨hfilter, hinner⟩ := hlist rfl
          rw [if_pos rfl, pathCombine_fits hpath]
          simp only [pathCombine_fits hfilter]
          have hin : NeverDenies routine (filesOf true (join dir name) inner) :=
            hnever.mono (List.subset_append_left _ _)
          have hloop : ∀ hr r, failed hr = false → Served routine (filesOf true (join dir name) inner) r
              (traverseEntries routine true (join dir name) inner hr r) := fun hr r hhr =>
            ihinner hinner (hin.mono (filesBelow_subset _ _ _)) hhr r
          obtain ⟨hr₁, r₁, calls, he, hserved⟩ := served_enterAndLeave (join dir name) r hloop
          rw [he]
          refine Served.continueWith ⟨hr₁, r₁, calls, rfl, hserved⟩ ?_ ?_ fun hr r hhr => ih hrest
            (hnever.mono (List.subset_append_right _ _)) hhr r
          · intro hstop
            refine ignoreAccessDenied_of_ne ?_
            rintro rfl
            exact absurd hstop (by decide)
          · intro hgo hfail
            by_cases hd : hr₁ = eAccessdenied
            · exact ⟨hd, hin⟩
            · rw [ignoreAccessDenied_of_ne hd, hfail] at hgo
              cases hgo
  | file name rest ih =>
      rw [traverseEntries, pathCombine_fits hfits.1]
      exact (served_file (join dir name) r).continueWith (fun _ => rfl) (fun hgo hfail => by simp [hfail] at hgo)
        fun hr r hhr => ih hfits.2 hnever hhr r

/-! ## What any search does -/

/-- Calls of the routine, each of them one that `p` holds of. -/
def Extends (routine : VisitRoutine σ) (p : Call → Prop) (r r' : Run σ) : Prop :=
  ∃ calls, r'.calls = r.calls ++ calls ∧ ∀ e ∈ calls, p e.1 ∧ ∃ context, e.2 = (routine e.1 context).1

theorem Extends.refl (p : Call → Prop) (r : Run σ) : Extends routine p r r :=
  ⟨[], (List.append_nil _).symm, fun _ h => absurd h List.not_mem_nil⟩

theorem Extends.trans {p : Call → Prop} {r₁ r₂ r₃ : Run σ} (h : Extends routine p r₁ r₂)
    (h' : Extends routine p r₂ r₃) : Extends routine p r₁ r₃ := by
  obtain ⟨calls, hcalls, hall⟩ := h
  obtain ⟨calls', hcalls', hall'⟩ := h'
  refine ⟨calls ++ calls', by rw [hcalls', hcalls, List.append_assoc], fun e he => ?_⟩
  exact (List.mem_append.mp he).elim (hall e) (hall' e)

theorem Extends.mono {p q : Call → Prop} {r r' : Run σ} (h : Extends routine p r r') (himp : ∀ c, p c → q c) :
    Extends routine q r r' := by
  obtain ⟨calls, hcalls, hall⟩ := h
  exact ⟨calls, hcalls, fun e he => ⟨himp _ (hall e he).1, (hall e he).2⟩⟩

theorem extends_call {p : Call → Prop} {c : Call} (h : p c) (r : Run σ) :
    Extends routine p r (r.after routine c) := by
  refine ⟨[(c, (routine c r.context).1)], rfl, fun e he => ?_⟩
  rw [List.mem_singleton.mp he]
  exact ⟨h, r.context, rfl⟩

theorem length_lt_join (dir : CString) (name : FileName) : dir.length < (join dir name).length := by
  have hpos : 0 < name.chars.length := List.length_pos_iff.mpr name.nonempty
  have hlen : (join dir name).length = (dir.chars ++ separator dir ++ name.chars).length := rfl
  rw [hlen, List.length_append, List.length_append, CString.length]
  omega

theorem continueWith_ok {next : HRESULT → Run σ → Except Fault (HRESULT × Run σ)} {hr hr' : HRESULT} {r r' : Run σ}
    (h : continueWith next hr r = .ok (hr', r')) :
    (failed hr = true ∧ hr' = hr ∧ r' = r) ∨ (failed hr = false ∧ next hr r = .ok (hr', r')) := by
  unfold continueWith at h
  split at h
  · rename_i hf
    cases h
    exact .inl ⟨hf, rfl, rfl⟩
  · rename_i hf
    exact .inr ⟨by simpa using hf, h⟩

/-- The entries whose path is built but which are not searched. -/
inductive Skips (recursive : Bool) : Entries → FileName → Entries → Prop where
  | reparsePoint {name rest} : Skips recursive (.reparsePoint name rest) name rest
  | unlistable {name err rest} (h : recursive = false) : Skips recursive (.unlistable name err rest) name rest
  | directory {name inner rest} (h : recursive = false) : Skips recursive (.directory name inner rest) name rest

/-- The subdirectories that are searched. -/
inductive Searches : Entries → FileName → Entries → Prop where
  | unlistable {name err rest} : Searches (.unlistable name err rest) name rest
  | directory {name inner rest} : Searches (.directory name inner rest) name rest

/-- What the loop does with an entry: the result and the run before, the entries that are left, and the result and the
    run after it. -/
inductive EntryStep (routine : VisitRoutine σ) (recursive : Bool) (dir : CString) :
    Entries → HRESULT → Run σ → Entries → HRESULT → Run σ → Prop where
  | dots {rest hr r} : EntryStep routine recursive dir (.dots rest) hr r rest hr r
  | skip {entries name rest hr r} (h : Skips recursive entries name rest) :
      EntryStep routine recursive dir entries hr r rest (skipped dir name hr) r
  | tooLong {entries name rest hr r} (hrec : recursive = true) (h : Searches entries name rest)
      (hlong : maxPath ≤ (join (join dir name) allFiles).length) :
      EntryStep routine recursive dir entries hr r rest eUnexpected r
  | unlistable {name err rest hr r} (hrec : recursive = true) (hpath : (join dir name).length < maxPath)
      (hfilter : (join (join dir name) allFiles).length < maxPath) :
      EntryStep routine recursive dir (.unlistable name err rest) hr r rest (ignoreAccessDenied (findFailed err)) r
  | directory {name inner rest hr r hr₁ r₁} (hrec : recursive = true) (hpath : (join dir name).length < maxPath)
      (hfilter : (join (join dir name) allFiles).length < maxPath)
      (h : enterAndLeave routine (join dir name) (traverseEntries routine recursive (join dir name) inner) r =
        .ok (hr₁, r₁)) :
      EntryStep routine recursive dir (.directory name inner rest) hr r rest (ignoreAccessDenied hr₁) r₁
  | file {name rest hr r} (hpath : (join dir name).length < maxPath) :
      EntryStep routine recursive dir (.file name rest) hr r rest
        (routine ⟨join dir name, .file, true⟩ r.context).1 (r.after routine ⟨join dir name, .file, true⟩)

theorem pathCombine_cases (dir : CString) (name : FileName) :
    (pathCombine dir name = none ∧ maxPath ≤ (join dir name).length) ∨
      (pathCombine dir name = some (join dir name) ∧ (join dir name).length < maxPath) := by
  by_cases h : (join dir name).length < maxPath
  · exact .inr ⟨if_pos h, h⟩
  · exact .inl ⟨if_neg h, Nat.not_lt.mp h⟩

/-- A loop that returns has ended without an entry or taken a step, and stopped or gone on. -/
theorem traverseEntries_ok {recursive : Bool} {dir : CString} {entries : Entries} {hr hr' : HRESULT} {r r' : Run σ}
    (h : traverseEntries routine recursive dir entries hr r = .ok (hr', r')) :
    (entries = .nil ∧ hr' = hr ∧ r' = r) ∨
      ∃ rest hr₁ r₁, EntryStep routine recursive dir entries hr r rest hr₁ r₁ ∧
        ((failed hr₁ = true ∧ hr' = hr₁ ∧ r' = r₁) ∨
          (failed hr₁ = false ∧ traverseEntries routine recursive dir rest hr₁ r₁ = .ok (hr', r'))) := by
  cases entries with
  | nil =>
      cases h
      exact .inl ⟨rfl, rfl, rfl⟩
  | dots rest => exact .inr ⟨rest, hr, r, .dots, continueWith_ok h⟩
  | reparsePoint name rest => exact .inr ⟨rest, _, r, .skip .reparsePoint, continueWith_ok h⟩
  | unlistable name err rest =>
      rw [traverseEntries] at h
      cases hrec : recursive with
      | false =>
          rw [hrec, if_neg (by simp)] at h
          exact .inr ⟨rest, _, r, .skip (.unlistable rfl), continueWith_ok h⟩
      | true =>
          rw [hrec, if_pos rfl] at h
          rcases pathCombine_cases dir name with ⟨hp, hlong⟩ | ⟨hp, hpath⟩
          · rw [hp] at h
            cases h
          · rw [hp] at h
            rcases pathCombine_cases (join dir name) allFiles with ⟨hf, hlong⟩ | ⟨hf, hfilter⟩
            · simp only [hf] at h
              exact .inr ⟨rest, _, r, .tooLong rfl .unlistable hlong, continueWith_ok h⟩
            · simp only [hf] at h
              exact .inr ⟨rest, _, r, .unlistable rfl hpath hfilter, continueWith_ok h⟩
  | directory name inner rest =>
      rw [traverseEntries] at h
      cases hrec : recursive with
      | false =>
          rw [hrec, if_neg (by simp)] at h
          exact .inr ⟨rest, _, r, .skip (.directory rfl), continueWith_ok h⟩
      | true =>
          rw [hrec, if_pos rfl] at h
          rcases pathCombine_cases dir name with ⟨hp, hlong⟩ | ⟨hp, hpath⟩
          · rw [hp] at h
            cases h
          · rw [hp] at h
            rcases pathCombine_cases (join dir name) allFiles with ⟨hf, hlong⟩ | ⟨hf, hfilter⟩
            · simp only [hf] at h
              exact .inr ⟨rest, _, r, .tooLong rfl .directory hlong, continueWith_ok h⟩
            · simp only [hf] at h
              cases hblock : enterAndLeave routine (join dir name) (traverseEntries routine true (join dir name) inner) r with
              | error fault => simp [hblock] at h
              | ok result =>
                  rw [hblock] at h
                  exact .inr ⟨rest, _, result.2, .directory rfl hpath hfilter hblock, continueWith_ok h⟩
  | file name rest =>
      rw [traverseEntries] at h
      rcases pathCombine_cases dir name with ⟨hp, hlong⟩ | ⟨hp, hpath⟩
      · rw [hp] at h
        cases h
      · rw [hp] at h
        exact .inr ⟨rest, _, _, .file hpath, continueWith_ok h⟩

/-- A directory that is left has been entered. -/
theorem enterAndLeave_ok {dir : CString} {loop : HRESULT → Run σ → Except Fault (HRESULT × Run σ)} {hr : HRESULT}
    {r r' : Run σ} (h : enterAndLeave routine dir loop r = .ok (hr, r')) :
    (failed (entering routine dir r) = true ∧ hr = entering routine dir r ∧
        r' = r.after routine ⟨dir, .enterDirectory, true⟩) ∨
      (failed (entering routine dir r) = false ∧
        ∃ hr₀ r₀, loop (entering routine dir r) (r.after routine ⟨dir, .enterDirectory, true⟩) = .ok (hr₀, r₀) ∧
          hr = (if succeeded hr₀ && failed (leaving routine dir r₀) then leaving routine dir r₀ else hr₀) ∧
          r' = r₀.after routine ⟨dir, .leaveDirectory, true⟩) := by
  cases hfail : failed (entering routine dir r) with
  | true =>
      rw [enterAndLeave_refused loop hfail] at h
      cases h
      exact .inl ⟨rfl, rfl, rfl⟩
  | false =>
      rw [enterAndLeave_entered loop hfail] at h
      split at h
      · cases h
      · rename_i hr₀ r₀ hloop
        cases h
        exact .inr ⟨rfl, hr₀, r₀, hloop, rfl, rfl⟩

theorem EntryStep.sizeOf_lt {recursive : Bool} {dir : CString} {entries rest : Entries} {hr hr₁ : HRESULT} {r r₁ : Run σ}
    (h : EntryStep routine recursive dir entries hr r rest hr₁ r₁) : sizeOf rest < sizeOf entries := by
  cases h with
  | dots => rw [Entries.dots.sizeOf_spec]; omega
  | skip h =>
      cases h with
      | reparsePoint => rw [Entries.reparsePoint.sizeOf_spec]; omega
      | unlistable => rw [Entries.unlistable.sizeOf_spec]; omega
      | directory => rw [Entries.directory.sizeOf_spec]; omega
  | tooLong _ h _ =>
      cases h with
      | unlistable => rw [Entries.unlistable.sizeOf_spec]; omega
      | directory => rw [Entries.directory.sizeOf_spec]; omega
  | unlistable => rw [Entries.unlistable.sizeOf_spec]; omega
  | directory => rw [Entries.directory.sizeOf_spec]; omega
  | file => rw [Entries.file.sizeOf_spec]; omega

/-- Induction on the loops of a search that returns: what holds where there is no entry, and of a loop if it does of the
    loops in the subdirectory and after the step, holds of all of them. -/
theorem traverseEntries_induct {recursive : Bool} {P : CString → Entries → HRESULT → Run σ → HRESULT → Run σ → Prop}
    (hnil : ∀ dir hr r, P dir .nil hr r hr r)
    (hstep : ∀ {dir entries hr r rest hr₁ r₁ hr' r'}, EntryStep routine recursive dir entries hr r rest hr₁ r₁ →
      (∀ {name inner rest}, entries = .directory name inner rest → ∀ {hr r hr' r'},
        traverseEntries routine recursive (join dir name) inner hr r = .ok (hr', r') →
        P (join dir name) inner hr r hr' r') →
      ((failed hr₁ = true ∧ hr' = hr₁ ∧ r' = r₁) ∨ (failed hr₁ = false ∧ P dir rest hr₁ r₁ hr' r')) →
      P dir entries hr r hr' r')
    {dir : CString} {entries : Entries} {hr hr' : HRESULT} {r r' : Run σ}
    (h : traverseEntries routine recursive dir entries hr r = .ok (hr', r')) : P dir entries hr r hr' r' := by
  rcases traverseEntries_ok h with ⟨rfl, rfl, rfl⟩ | ⟨rest, hr₁, r₁, hs, hend⟩
  · exact hnil dir _ _
  · have hlt := hs.sizeOf_lt
    refine hstep hs ?_ (hend.imp id fun ⟨hgo, hrest⟩ => ⟨hgo, traverseEntries_induct hnil hstep hrest⟩)
    intro name inner rest heq hr r hr' r' hinner
    have hsub : sizeOf inner < sizeOf entries := by rw [heq, Entries.directory.sizeOf_spec]; omega
    exact traverseEntries_induct hnil hstep hinner
termination_by sizeOf entries

/-- The path is longer than that of the directory. -/
def Below (dir : CString) (c : Call) : Prop := dir.length < c.path.length

theorem Below.trans {dir : CString} {name : FileName} {c : Call} (h : Below (join dir name) c) : Below dir c :=
  (length_lt_join dir name).trans h

theorem enterAndLeave_extends {dir : CString} {loop : HRESULT → Run σ → Except Fault (HRESULT × Run σ)}
    {p : Call → Prop} {hr : HRESULT} {r r' : Run σ} (hnotify : ∀ type, p ⟨dir, type, true⟩)
    (hbelow : ∀ c, Below dir c → p c) (h : enterAndLeave routine dir loop r = .ok (hr, r'))
    (hloop : ∀ {hr hr' r r'}, loop hr r = .ok (hr', r') → Extends routine (Below dir) r r') :
    Extends routine p r r' := by
  rcases enterAndLeave_ok h with ⟨-, -, rfl⟩ | ⟨-, hr₀, r₀, hrun, -, rfl⟩
  · exact extends_call (hnotify _) r
  · exact (extends_call (hnotify _) r).trans (((hloop hrun).mono hbelow).trans (extends_call (hnotify _) r₀))

/-- The calls for what is in a directory have longer paths. -/
theorem traverseEntries_extends {recursive : Bool} {dir : CString} {entries : Entries} {hr hr' : HRESULT}
    {r r' : Run σ} (h : traverseEntries routine recursive dir entries hr r = .ok (hr', r')) :
    Extends routine (Below dir) r r' := by
  refine traverseEntries_induct (P := fun dir _ _ r _ r' => Extends routine (Below dir) r r') (fun _ _ r => .refl _ r)
    ?_ h
  intro dir entries hr r rest hr₁ r₁ hr' r' hstep hinner hend
  have hextends : Extends routine (Below dir) r r₁ := by
    cases hstep with
    | dots => exact .refl _ r
    | skip => exact .refl _ r
    | tooLong => exact .refl _ r
    | unlistable => exact .refl _ r
    | @directory name _ _ _ _ _ _ hrec hpath hfilter h =>
        exact enterAndLeave_extends (fun _ => length_lt_join dir name) (fun _ hc => Below.trans hc) h (hinner rfl)
    | file => exact extends_call (length_lt_join dir _) r
  rcases hend with ⟨-, -, rfl⟩ | ⟨-, hrest⟩
  · exact hextends
  · exact hextends.trans hrest

theorem failed_ignoreAccessDenied {hr : HRESULT} (h : failed (ignoreAccessDenied hr) = true) :
    ignoreAccessDenied hr = hr := by
  refine ignoreAccessDenied_of_ne ?_
  rintro rfl
  exact absurd h (by decide)

theorem ignoreAccessDenied_ne (hr : HRESULT) : ignoreAccessDenied hr ≠ eAccessdenied := by
  unfold ignoreAccessDenied
  split
  · decide
  · assumption

theorem skipped_ne {dir : CString} {name : FileName} {hr : HRESULT} (h : hr ≠ eAccessdenied) :
    skipped dir name hr ≠ eAccessdenied := by
  unfold skipped
  split
  · decide
  · exact h

/-- A loop only has the result `E_ACCESSDENIED` if the routine has returned it for a file of the directory itself. -/
theorem traverseEntries_ne_denied {recursive : Bool} {dir : CString} {entries : Entries} {hr hr' : HRESULT}
    {r r' : Run σ} (h : traverseEntries routine recursive dir entries hr r = .ok (hr', r')) (hhr : hr ≠ eAccessdenied)
    (hfile : ∀ name context, (routine ⟨join dir name, .file, true⟩ context).1 ≠ eAccessdenied) :
    hr' ≠ eAccessdenied := by
  revert hhr hfile
  refine traverseEntries_induct (P := fun dir _ hr _ hr' _ => hr ≠ eAccessdenied →
    (∀ name context, (routine ⟨join dir name, .file, true⟩ context).1 ≠ eAccessdenied) → hr' ≠ eAccessdenied)
    (fun _ _ _ hhr _ => hhr) ?_ h
  intro dir entries hr r rest hr₁ r₁ hr' r' hstep _ hend hhr hfile
  have hne : hr₁ ≠ eAccessdenied := by
    cases hstep with
    | dots => exact hhr
    | skip => exact skipped_ne hhr
    | tooLong => decide
    | unlistable => exact ignoreAccessDenied_ne _
    | directory => exact ignoreAccessDenied_ne _
    | file => exact hfile _ _
  rcases hend with ⟨-, rfl, -⟩ | ⟨-, hrest⟩
  · exact hne
  · exact hrest hne hfile

theorem skipped_succeeded {dir : CString} {name : FileName} {hr : HRESULT} (h : failed (skipped dir name hr) = false) :
    (join dir name).length < maxPath := by
  unfold skipped at h
  rcases pathCombine_cases dir name with ⟨hp, -⟩ | ⟨-, hpath⟩
  · rw [hp] at h
    exact absurd (show failed eUnexpected = false from h) (by decide)
  · exact hpath

/-- If the routine accepts the notifications for what is in a directory and denies access to nothing, the loop only
    succeeds where the paths fit. -/
theorem fits_of_ok {recursive : Bool} {dir : CString} {entries : Entries} {hr hr' : HRESULT} {r r' : Run σ}
    (h : traverseEntries routine recursive dir entries hr r = .ok (hr', r')) (hsucceeded : failed hr' = false)
    (hnotified : ∀ c context, Below dir c → c.type ≠ .file → failed (routine c context).1 = false)
    (hgrants : ∀ path context, dir.length < path.length → (routine ⟨path, .file, true⟩ context).1 ≠ eAccessdenied) :
    Fits recursive dir entries := by
  revert hsucceeded hnotified hgrants
  refine traverseEntries_induct (P := fun dir entries _ _ hr' _ => failed hr' = false →
    (∀ c context, Below dir c → c.type ≠ .file → failed (routine c context).1 = false) →
    (∀ path context, dir.length < path.length → (routine ⟨path, .file, true⟩ context).1 ≠ eAccessdenied) →
      Fits recursive dir entries)
    (fun _ _ _ _ _ _ => trivial) ?_ h
  intro dir entries hr r rest hr₁ r₁ hr' r' hstep hinner hend hsucceeded hnotified hgrants
  rcases hend with ⟨hfail, rfl, -⟩ | ⟨hgo, hrest⟩
  · rw [hfail] at hsucceeded
    cases hsucceeded
  · have hfits := hrest hsucceeded hnotified hgrants
    cases hstep with
    | dots => exact hfits
    | skip hskip =>
        have hpath := skipped_succeeded hgo
        cases hskip with
        | reparsePoint => exact ⟨hpath, hfits⟩
        | unlistable hrec => exact ⟨hpath, fun h => by simp [hrec] at h, hfits⟩
        | directory hrec => exact ⟨hpath, fun h => by simp [hrec] at h, hfits⟩
    | tooLong => exact absurd hgo (by decide)
    | unlistable hrec hpath hfilter => exact ⟨hpath, fun _ => ⟨hfilter, (findFailed_ignored _).mp hgo⟩, hfits⟩
    | @directory name inner _ _ _ hr₁ _ hrec hpath hfilter hblock =>
        have hlonger : ∀ type, Below dir ⟨join dir name, type, true⟩ := fun _ => length_lt_join dir name
        refine ⟨hpath, fun _ => ⟨hfilter, ?_⟩, hfits⟩
        rcases enterAndLeave_ok hblock with ⟨hrefused, -⟩ | ⟨hentered, hr₀, r₀, hrun, hres, -⟩
        · rw [entering, hnotified _ _ (hlonger _) (by simp)] at hrefused
          cases hrefused
        · have hleft : failed (leaving routine (join dir name) r₀) = false := hnotified _ _ (hlonger _) (by simp)
          rw [hleft, Bool.and_false, if_neg (by simp)] at hres
          subst hres
          have hne : hr₁ ≠ eAccessdenied := by
            refine traverseEntries_ne_denied hrun ?_ fun name' context =>
              hgrants _ _ ((length_lt_join dir name).trans (length_lt_join _ name'))
            intro hd
            rw [hd] at hentered
            exact absurd hentered (by decide)
          rw [ignoreAccessDenied_of_ne hne] at hgo
          exact hinner rfl hrun hgo (fun c context hc => hnotified c context (Below.trans hc))
            fun path context hlt => hgrants path context ((length_lt_join dir name).trans hlt)
    | file hpath => exact ⟨hpath, hfits⟩

/-- **If the routine accepts every call for what is in a directory, the loop only succeeds where the paths fit.** -/
theorem fits_of_succeeded {recursive : Bool} {dir : CString} {entries : Entries} {hr hr' : HRESULT} {r r' : Run σ}
    (h : traverseEntries routine recursive dir entries hr r = .ok (hr', r')) (hsucceeded : failed hr' = false)
    (haccepts : ∀ c context, Below dir c → failed (routine c context).1 = false) :
    Fits recursive dir entries := by
  refine fits_of_ok h hsucceeded (fun c context hc _ => haccepts c context hc) fun path context hc hd => ?_
  have hok := haccepts ⟨path, .file, true⟩ context hc
  rw [hd] at hok
  exact absurd hok (by decide)

/-! ## Paths below a directory -/

/-- The path of a file begins with that of the directory it is searched in. -/
theorem filesOf_starts {recursive : Bool} {dir : CString} {entries : Entries} {path : CString}
    (h : path ∈ filesOf recursive dir entries) : dir.chars ++ separator dir <+: path.chars := by
  induction entries generalizing dir with
  | nil => cases h
  | dots rest ih => exact ih h
  | reparsePoint name rest ih => exact ih h
  | unlistable name err rest ih => exact ih h
  | directory name inner rest ihinner ih =>
      rcases List.mem_append.mp h with h | h
      · cases recursive with
        | false => cases h
        | true =>
            have hjoin : dir.chars ++ separator dir <+: (join dir name).chars := List.prefix_append _ _
            exact hjoin.trans ((List.prefix_append _ _).trans (ihinner h))
      · exact ih h
  | file name rest ih =>
      rcases List.mem_cons.mp h with rfl | h
      · exact List.prefix_append _ _
      · exact ih h

theorem separator_join (dir : CString) (name : FileName) : separator (join dir name) = [backslash] := by
  have hlast : (join dir name).chars.getLast? = name.chars.getLast? := by
    show (dir.chars ++ separator dir ++ name.chars).getLast? = _
    rw [List.getLast?_append]
    cases hn : name.chars.getLast? with
    | none => exact absurd (List.getLast?_eq_none_iff.mp hn) name.nonempty
    | some c => rfl
  rw [separator, hlast, if_neg]
  intro h
  exact name.plain (List.mem_of_getLast? h)

/-- No file of a subdirectory has the path of a file of the directory itself. -/
theorem filesBelow_ne_join {recursive : Bool} {dir : CString} {entries : Entries} {path : CString}
    (h : path ∈ filesBelow recursive dir entries) (name : FileName) : path ≠ join dir name := by
  induction entries with
  | nil => cases h
  | dots rest ih => exact ih h
  | reparsePoint name rest ih => exact ih h
  | unlistable name err rest ih => exact ih h
  | directory sub inner rest _ ih =>
      rcases List.mem_append.mp h with h | h
      · cases recursive with
        | false => cases h
        | true =>
            rintro rfl
            obtain ⟨suffix, hs⟩ := filesOf_starts (show join dir name ∈ filesOf true (join dir sub) inner from h)
            rw [separator_join] at hs
            have hchars : dir.chars ++ separator dir ++ sub.chars ++ [backslash] ++ suffix =
              dir.chars ++ separator dir ++ name.chars := hs
            rw [List.append_assoc, List.append_assoc] at hchars
            have hname := List.append_cancel_left hchars
            apply name.plain
            rw [← hname]
            simp
      · exact ih h
  | file name rest ih => exact ih h

end

/-! ## The search of a directory -/

/-- What a path stands for if it is that of a directory that can be listed: its full path and what is in it. -/
def FileSystem.contents (fs : FileSystem) (path : CString) : Option (CString × Entries) :=
  match fs.fullPathName path with
  | .error _ => none
  | .ok full =>
    match fs.find (join full allFiles) with
    | .error _    => none
    | .ok entries => some (full, entries)

def FileSystem.filesOf (fs : FileSystem) (recursive : Bool) (path : CString) : List CString :=
  (fs.contents path).elim [] fun (full, entries) => Cfixutil.filesOf recursive full entries

def FileSystem.filesBelow (fs : FileSystem) (recursive : Bool) (path : CString) : List CString :=
  (fs.contents path).elim [] fun (full, entries) => Cfixutil.filesBelow recursive full entries

/-- The full path fits into its buffer and, where there is something to search, so do the other paths. -/
def FileSystem.Fits (fs : FileSystem) (recursive : Bool) (path : CString) : Prop :=
  (∀ full, fs.fullPathName path = .ok full → full.length < maxPath) ∧
    ∀ full entries, fs.contents path = some (full, entries) →
      (join full allFiles).length < maxPath ∧ Cfixutil.Fits recursive full entries

/-- The search of a directory visits its files; it does not fail unless the routine does, or there is nothing to
    search. -/
def SearchVisits {σ : Type} (fs : FileSystem) (path : CString) (recursive : Bool) (routine : VisitRoutine σ)
    (context : σ) : Prop :=
  ∃ hr r, cfixutilSearch fs (some path) recursive (some routine) context = .ok (hr, r) ∧
    Visits (fs.filesOf recursive path) r.calls hr ∧
    ((fs.contents path).isSome = true → (∀ e ∈ r.calls, e.Accepted) → failed hr = false)

/-- The failures for files are among those that `may` allows. -/
def RefusesWithin {σ : Type} (may : CString → HRESULT → Prop) (routine : VisitRoutine σ) : Prop :=
  ∀ c context, c.type = .file → failed (routine c context).1 = true → may c.path (routine c context).1

section

variable {σ : Type} {fs : FileSystem} {path full : CString} {entries : Entries} {recursive : Bool}
variable (routine : VisitRoutine σ) (context : σ)

theorem FileSystem.contents_eq_some :
    fs.contents path = some (full, entries) ↔
      fs.fullPathName path = .ok full ∧ fs.find (join full allFiles) = .ok entries := by
  constructor
  · intro h
    unfold FileSystem.contents at h
    split at h
    · cases h
    · rename_i hfull
      split at h
      · cases h
      · rename_i hfind
        cases h
        exact ⟨hfull, hfind⟩
  · rintro ⟨hfull, hfind⟩
    simp only [FileSystem.contents, hfull, hfind]

/-- A directory that can be listed is traversed, if its path fits. -/
theorem cfixutilSearch_contents (hdir : fs.attributes path = .directory)
    (hcontents : fs.contents path = some (full, entries)) (hfilter : (join full allFiles).length < maxPath) :
    cfixutilSearch fs (some path) recursive (some routine) context =
      enterAndLeave routine full (traverseEntries routine recursive full entries) { context, calls := [] } := by
  obtain ⟨hfull, hfind⟩ := FileSystem.contents_eq_some.mp hcontents
  have hlen : ¬ maxPath ≤ full.length := Nat.not_le.mpr ((length_lt_join full allFiles).trans hfilter)
  simp only [cfixutilSearch, hdir, traverseDirectory, hfull, if_neg hlen, pathCombine_fits hfilter, traverseFound, hfind,
    Bool.false_eq_true, if_false]

/-- One that cannot be listed is not visited. -/
theorem cfixutilSearch_unlistable (hdir : fs.attributes path = .directory) (hcontents : fs.contents path = none)
    (hfits : ∀ full, fs.fullPathName path = .ok full → full.length < maxPath) :
    ∃ hr, cfixutilSearch fs (some path) recursive (some routine) context = .ok (hr, { context, calls := [] }) := by
  simp only [cfixutilSearch, hdir, traverseDirectory, Bool.false_eq_true, if_false]
  cases hfull : fs.fullPathName path with
  | error err => exact ⟨_, rfl⟩
  | ok full =>
      have hlen : ¬ maxPath ≤ full.length := Nat.not_le.mpr (hfits full hfull)
      simp only [if_neg hlen]
      rcases pathCombine_cases full allFiles with ⟨hp, -⟩ | ⟨hp, -⟩
      · simp only [hp]
        exact ⟨_, rfl⟩
      · cases hfind : fs.find (join full allFiles) with
        | error err =>
            simp only [hp, traverseFound, hfind]
            exact ⟨_, rfl⟩
        | ok entries =>
            rw [FileSystem.contents_eq_some.mpr ⟨hfull, hfind⟩] at hcontents
            cases hcontents

/-- A full path that is too long leaves the buffer undefined. -/
theorem cfixutilSearch_undefined (hdir : fs.attributes path = .directory) (hfull : fs.fullPathName path = .ok full)
    (hlong : maxPath ≤ full.length) :
    cfixutilSearch fs (some path) recursive (some routine) context = .error .undefinedPath := by
  simp only [cfixutilSearch, hdir, traverseDirectory, hfull, if_pos hlong, Bool.false_eq_true, if_false]

/-- Of a directory whose filter does not fit, nothing is visited. -/
theorem cfixutilSearch_filter (hdir : fs.attributes path = .directory) (hfull : fs.fullPathName path = .ok full)
    (hfits : full.length < maxPath) (hlong : maxPath ≤ (join full allFiles).length) :
    cfixutilSearch fs (some path) recursive (some routine) context = .ok (eUnexpected, { context, calls := [] }) := by
  have hp : pathCombine full allFiles = none := if_neg (Nat.not_lt.mpr hlong)
  simp only [cfixutilSearch, hdir, traverseDirectory, hfull, if_neg (Nat.not_le.mpr hfits), hp, Bool.false_eq_true,
    if_false]

theorem searchVisits_of_fits (hdir : fs.attributes path = .directory) (hfits : fs.Fits recursive path)
    (hnever : NeverDenies routine (fs.filesBelow recursive path)) :
    SearchVisits fs path recursive routine context := by
  cases hcontents : fs.contents path with
  | none =>
      obtain ⟨hr, hrun⟩ := cfixutilSearch_unlistable routine context hdir hcontents hfits.1
      refine ⟨hr, _, hrun, ?_, by simp [hcontents]⟩
      rw [FileSystem.filesOf, hcontents]
      exact .nil hr
  | some found =>
      obtain ⟨full, entries⟩ := found
      obtain ⟨hfilter, hentries⟩ := hfits.2 full entries hcontents
      rw [FileSystem.filesBelow, hcontents] at hnever
      obtain ⟨hr, r, calls, hrun, hcalls, hvisits, hsucceeds, -⟩ := served_enterAndLeave full
        ({ context, calls := [] } : Run σ) fun hr r hhr => served_entries hentries hnever hhr r
      rw [List.nil_append] at hcalls
      rw [← cfixutilSearch_contents routine context hdir hcontents hfilter] at hrun
      refine ⟨hr, r, hrun, ?_, ?_⟩
      · rw [hcalls, FileSystem.filesOf, hcontents]
        exact hvisits
      · rw [hcalls]
        exact fun _ => hsucceeds

end

/-! ## Routines that show what does not fit -/

/-- Accepts everything. -/
def accepting : VisitRoutine Unit := fun _ context => (sOk, context)

@[simp] theorem accepting_fst (c : Call) (context : Unit) : (accepting c context).1 = sOk := rfl

/-- Denies access to one file. -/
def denying (path : CString) : VisitRoutine Unit := fun c context =>
  (if c.type = .file ∧ c.path = path then eAccessdenied else sOk, context)

theorem denying_fst (path : CString) (c : Call) (context : Unit) :
    (denying path c context).1 = if c.type = .file ∧ c.path = path then eAccessdenied else sOk := rfl

section

variable {fs : FileSystem} {path : CString} {recursive : Bool}

theorem fits_of_searchVisits (hdir : fs.attributes path = .directory)
    (h : SearchVisits fs path recursive accepting ()) : fs.Fits recursive path := by
  obtain ⟨hr, r, hrun, -, hsucceeds⟩ := h
  have hfull : ∀ full, fs.fullPathName path = .ok full → full.length < maxPath := by
    intro full hfull
    by_contra hlong
    rw [cfixutilSearch_undefined accepting () hdir hfull (Nat.not_lt.mp hlong)] at hrun
    cases hrun
  refine ⟨hfull, fun full entries hcontents => ?_⟩
  have hfilter : (join full allFiles).length < maxPath := by
    have hname := (FileSystem.contents_eq_some.mp hcontents).1
    by_contra hlong
    rw [cfixutilSearch_filter accepting () hdir hname (hfull full hname) (Nat.not_lt.mp hlong)] at hrun
    cases hrun
    exact absurd (hsucceeds (by rw [hcontents]; rfl) (by simp)) (by decide)
  rw [cfixutilSearch_contents accepting () hdir hcontents hfilter] at hrun
  obtain ⟨calls, hcalls, hresults⟩ := enterAndLeave_extends (p := fun _ => True) (fun _ => trivial)
    (fun _ _ => trivial) hrun traverseEntries_extends
  have haccepted : ∀ e ∈ r.calls, e.Accepted := by
    intro e he
    rw [hcalls, List.nil_append] at he
    obtain ⟨-, context, hresult⟩ := hresults e he
    rw [Visit.Accepted, hresult, accepting_fst, failed_sOk]
  have hr := hsucceeds (by rw [hcontents]; rfl) haccepted
  refine ⟨hfilter, ?_⟩
  rcases enterAndLeave_ok hrun with ⟨hrefused, -⟩ | ⟨-, hr₀, r₀, hloop, hres, -⟩
  · simp [entering] at hrefused
  · rw [leaving, accepting_fst, failed_sOk, Bool.and_false, if_neg (by simp)] at hres
    subst hres
    exact fits_of_succeeded hloop hr fun c context _ => by rw [accepting_fst, failed_sOk]

theorem not_searchVisits_denying (hdir : fs.attributes path = .directory) (hfits : fs.Fits recursive path)
    {file : CString} (hfile : file ∈ fs.filesBelow recursive path) :
    ¬ SearchVisits fs path recursive (denying file) () := by
  rintro ⟨hr, r, hrun, hvisits, -⟩
  cases hcontents : fs.contents path with
  | none =>
      rw [FileSystem.filesBelow, hcontents] at hfile
      cases hfile
  | some found =>
      obtain ⟨full, entries⟩ := found
      obtain ⟨hfilter, hentries⟩ := hfits.2 full entries hcontents
      rw [FileSystem.filesBelow, hcontents] at hfile
      rw [FileSystem.filesOf, hcontents] at hvisits
      rw [cfixutilSearch_contents (denying file) () hdir hcontents hfilter] at hrun
      obtain ⟨calls, hcalls, hresults⟩ := enterAndLeave_extends (p := fun _ => True) (fun _ => trivial)
        (fun _ _ => trivial) hrun traverseEntries_extends
      rw [List.nil_append] at hcalls
      have hdenied : ∀ e ∈ r.calls, e.2 = if e.1.type = .file ∧ e.1.path = file then eAccessdenied else sOk := by
        intro e he
        rw [hcalls] at he
        obtain ⟨-, context, hresult⟩ := hresults e he
        rw [hresult, denying_fst]
      by_cases hall : ∀ e ∈ r.calls, e.Accepted
      · -- then the file has been visited
        have hmem : file ∈ visited r.calls := by
          rw [hvisits.complete hall]
          exact filesBelow_subset _ _ _ hfile
        obtain ⟨e, he, hpath⟩ := List.mem_filterMap.mp hmem
        have ht : e.1.type = .file ∧ e.1.path = file := by
          split at hpath
          · rename_i ht
            exact ⟨ht, Option.some.inj hpath⟩
          · cases hpath
        have hacc := hall e he
        rw [Visit.Accepted, hdenied e he, if_pos ht] at hacc
        exact absurd hacc (by decide)
      · -- then that is the result, but the loop of the directory itself never has it
        obtain ⟨e, he, hnot⟩ : ∃ e ∈ r.calls, ¬ e.Accepted := by
          simpa only [not_forall, exists_prop] using hall
        have ht : e.1.type = .file ∧ e.1.path = file := by
          by_contra ht
          apply hnot
          rw [Visit.Accepted, hdenied e he, if_neg ht, failed_sOk]
        have hresult : e.2 = eAccessdenied := by rw [hdenied e he, if_pos ht]
        have hhr : hr = eAccessdenied := by
          rw [hvisits.returned e he ⟨ht.1, by rw [hresult]; rfl⟩, hresult]
        rcases enterAndLeave_ok hrun with ⟨hrefused, -⟩ | ⟨-, hr₀, r₀, hloop, hres, -⟩
        · simp [entering, denying_fst] at hrefused
        · have hleft : failed (leaving (denying file) full r₀) = false := by simp [leaving, denying_fst]
          rw [hleft, Bool.and_false, if_neg (by simp)] at hres
          refine traverseEntries_ne_denied hloop ?_ ?_ (hres.symm.trans hhr)
          · simp only [entering, denying_fst, reduceCtorEq, false_and, if_false]
            decide
          · intro name context
            have hne : join full name ≠ file := (filesBelow_ne_join hfile name).symm
            simp only [denying_fst, hne, and_false, if_false]
            decide

/-- **For routines with certain failures, the search visits the files of a directory whatever the routine does, if and
    only if the paths fit and access is denied to no file of a subdirectory.** -/
theorem searchVisits_iff (may : CString → HRESULT → Prop) (hdir : fs.attributes path = .directory) :
    (∀ (σ : Type) (routine : VisitRoutine σ) (context : σ), RefusesWithin may routine →
      SearchVisits fs path recursive routine context) ↔
    fs.Fits recursive path ∧ ∀ file ∈ fs.filesBelow recursive path, ¬ may file eAccessdenied := by
  constructor
  · intro h
    have haccepts : RefusesWithin may accepting := fun c context _ hf => by simp at hf
    have hfits := fits_of_searchVisits hdir (h Unit accepting () haccepts)
    refine ⟨hfits, fun file hfile hmay => not_searchVisits_denying hdir hfits hfile (h Unit (denying file) () ?_)⟩
    intro c context _ hf
    rw [denying_fst] at hf ⊢
    split at hf
    · rename_i ht
      rw [if_pos ht, ht.2]
      exact hmay
    · simp at hf
  · rintro ⟨hfits, hmay⟩ σ routine context hwithin
    refine searchVisits_of_fits routine context hdir hfits fun c context ht hmem hd => ?_
    have h := hwithin c context ht (by rw [hd]; rfl)
    rw [hd] at h
    exact hmay _ hmem h

end

/-! ## A file in a subdirectory -/

/-- `c:\t` has one subdirectory, with one file. -/
def oneSubdirectory : FileSystem where
  attributes path  := if path = wide "c:\\t" then .directory else .invalid
  fullPathName     := .ok
  currentDirectory := .ok (wide "c:\\")
  find _           := .ok (.dots (.dots (.directory ⟨wide "d", by decide, by decide⟩
    (.dots (.dots (.file ⟨wide "a.dll", by decide, by decide⟩ .nil))) .nil)))

theorem oneSubdirectory_fits : oneSubdirectory.Fits true (wide "c:\\t") := by
  constructor
  · intro full hfull
    cases hfull
    decide
  · intro full entries hcontents
    cases hcontents
    simp only [Fits]
    decide

theorem searchVisits_oneSubdirectory :
    (∀ (σ : Type) (routine : VisitRoutine σ) (context : σ), RefusesWithin (fun _ hr => hr = eOutofmemory) routine →
      SearchVisits oneSubdirectory (wide "c:\\t") true routine context) ↔
    oneSubdirectory.Fits true (wide "c:\\t") ∧
      ∀ file ∈ oneSubdirectory.filesBelow true (wide "c:\\t"), ¬ eAccessdenied = eOutofmemory :=
  searchVisits_iff (fun _ hr => hr = eOutofmemory) (by decide)

/-- `E_ACCESSDENIED` for the file is lost. -/
theorem not_searchVisits_oneSubdirectory :
    ¬ SearchVisits oneSubdirectory (wide "c:\\t") true (denying (wide "c:\\t\\d\\a.dll")) () :=
  not_searchVisits_denying (by decide) oneSubdirectory_fits (by decide)

end Cfix.Cfixutil
