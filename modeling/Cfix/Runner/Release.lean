import Mathlib.Data.List.Forall2
import Cfix.Lib.TakeThrough
import Cfix.Runner.Objects

/-!
# `Runner.Release` — what is left when the runner returns

While the search goes on, the references on the actions are those of the sequence, and the references on the
modules are those of the actions that are not freed (`Accounted`). The main worker gives back its own references,
except for that on the sequence action if no fixture was found.
-/

namespace Cfix.Runner

open RefCount TakeThrough

/-! ## Modules and actions -/

def Objects.moduleOf (o : Objects) (x : Nat) : Nat := ((o.details[x]?).map Prod.fst).getD 0

/-- The references are those of the owners: the code itself has references on the modules `held`, `owners` are
    those on the actions, and each action that is not freed has one on its module. -/
structure Accounted (o : Objects) (held owners : List Nat) : Prop where
  length_details : o.details.length = o.actions.length
  actions        : Owned o.actions owners
  modules        : Owned o.modules (held ++ owners.dedup.map o.moduleOf)

variable {o o' : Objects} {held owners owners' : List Nat} {m x : Nat} {run : ActionRun}

theorem accounted_empty : Accounted Search.empty.objects [] [] := ⟨rfl, owned_nil, owned_nil⟩

theorem Accounted.perm (h : Accounted o held owners) (hperm : owners.Perm owners') : Accounted o held owners' where
  length_details := h.length_details
  actions := h.actions.perm hperm
  modules := h.modules.perm ((hperm.dedup.map o.moduleOf).append_left held)

/-- Actions have a module and a run. -/
theorem Accounted.exists_details (h : Accounted o held owners) (hx : x ∈ owners) :
    ∃ run, o.details[x]? = some (o.moduleOf x, run) := by
  have hlt : x < o.details.length := h.length_details ▸ h.actions.lt_length hx
  exact ⟨o.details[x].2, by simp [Objects.moduleOf, hlt]⟩

theorem accounted_createModule (h : Accounted o held owners) :
    Accounted { o with modules := create o.modules } (o.modules.length :: held) owners :=
  ⟨h.length_details, h.actions, owned_create h.modules⟩

theorem accounted_dereferenceModule (h : Accounted o (m :: held) owners) :
    ∃ o', dereferenceModule m o = some o' ∧ Accounted o' held owners ∧ o'.details = o.details := by
  obtain ⟨modules, hderef, howned, -⟩ := owned_dereference h.modules
  exact ⟨{ o with modules }, by simp [dereferenceModule, hderef], ⟨h.length_details, h.actions, howned⟩, rfl⟩

theorem accounted_referenceAction (h : Accounted o held owners) (hx : x ∈ owners) :
    ∃ o', referenceAction x o = some o' ∧ Accounted o' held (x :: owners) ∧ o'.details = o.details := by
  obtain ⟨actions, href, howned, hlength⟩ := owned_reference h.actions hx
  refine ⟨{ o with actions }, by simp [referenceAction, href], ⟨h.length_details.trans hlength.symm, howned, ?_⟩, rfl⟩
  rw [List.dedup_cons_of_mem hx]
  exact h.modules

theorem accounted_dereferenceAction (h : Accounted o held (x :: owners)) :
    ∃ o', dereferenceAction x o = some o' ∧ Accounted o' held owners ∧ o'.details = o.details := by
  obtain ⟨actions, hderef, howned, hlength⟩ := owned_dereference h.actions
  have hdetails : o.details.length = actions.length := h.length_details.trans hlength.symm
  have hmodules := h.modules
  by_cases hx : x ∈ owners
  · rw [List.dedup_cons_of_mem hx] at hmodules
    exact ⟨{ o with actions }, by simp [dereferenceAction, hderef, hx], ⟨hdetails, howned, hmodules⟩, rfl⟩
  · rw [List.dedup_cons_of_notMem hx, List.map_cons] at hmodules
    -- the module loses the reference of the action
    obtain ⟨run, hget⟩ := h.exists_details List.mem_cons_self
    have hacc : Accounted { o with actions } (o.moduleOf x :: held) owners :=
      ⟨hdetails, howned, hmodules.perm List.perm_middle⟩
    obtain ⟨o', hmodule, hacc', hsame⟩ := accounted_dereferenceModule hacc
    exact ⟨o', by simp [dereferenceAction, hderef, hx, hget, hmodule], hacc', hsame⟩

theorem accounted_createAction (h : Accounted o held owners) (hm : m ∈ held) (run : ActionRun) :
    ∃ o', createAction m run true o = some (sOk, o') ∧ Accounted o' held (o.actions.length :: owners)
      ∧ o'.details = o.details ++ [(m, run)] := by
  obtain ⟨modules, href, howned, -⟩ := owned_reference h.modules (List.mem_append_left _ hm)
  refine ⟨{ modules, actions := create o.actions, details := o.details ++ [(m, run)] }, by simp [createAction, href],
    ⟨by simp [create, h.length_details], owned_create h.actions, ?_⟩, rfl⟩
  have hnew : Objects.moduleOf ⟨modules, create o.actions, o.details ++ [(m, run)]⟩ o.actions.length = m := by
    simp [Objects.moduleOf, ← h.length_details]
  have hold : ∀ x ∈ owners.dedup,
      Objects.moduleOf ⟨modules, create o.actions, o.details ++ [(m, run)]⟩ x = o.moduleOf x := by
    intro x hx
    have hlt : x < o.details.length := h.length_details ▸ h.actions.lt_length (List.mem_dedup.mp hx)
    simp [Objects.moduleOf, List.getElem?_append_left hlt]
  rw [List.dedup_cons_of_notMem h.actions.length_notMem, List.map_cons, hnew, List.map_congr_left hold]
  exact howned.perm List.perm_middle.symm

/-- An owner of all the actions in a list takes another reference on each. -/
theorem accounted_referenceAll (xs : List Nat) (hxs : ∀ x ∈ xs, x ∈ owners) (h : Accounted o held owners) :
    ∃ o', xs.foldlM (fun o x => referenceAction x o) o = some o' ∧ Accounted o' held (xs ++ owners)
      ∧ o'.details = o.details := by
  induction xs generalizing o owners with
  | nil => exact ⟨o, rfl, h, rfl⟩
  | cons x xs ih =>
      obtain ⟨o₁, href, hacc, hsame⟩ := accounted_referenceAction h (hxs x List.mem_cons_self)
      obtain ⟨o₂, hrest, hacc', hsame'⟩ :=
        ih (fun y hy => List.mem_cons_of_mem x (hxs y (List.mem_cons_of_mem x hy))) hacc
      exact ⟨o₂, by rw [List.foldlM_cons, href]; exact hrest, hacc'.perm List.perm_middle, hsame'.trans hsame⟩

/-- The owner of references on all the actions in a list gives them back. -/
theorem accounted_dereferenceAll (xs : List Nat) (h : Accounted o held (xs ++ owners)) :
    ∃ o', xs.foldlM (fun o x => dereferenceAction x o) o = some o' ∧ Accounted o' held owners
      ∧ o'.details = o.details := by
  induction xs generalizing o with
  | nil => exact ⟨o, rfl, h, rfl⟩
  | cons x xs ih =>
      obtain ⟨o₁, hderef, hacc, hsame⟩ := accounted_dereferenceAction h
      obtain ⟨o₂, hrest, hacc', hsame'⟩ := ih hacc
      exact ⟨o₂, by rw [List.foldlM_cons, hderef]; exact hrest, hacc', hsame'.trans hsame⟩

/-- Nothing is left of the modules and actions without owners. -/
theorem Accounted.allFreed (h : Accounted o [] []) : AllFreed o.modules ∧ AllFreed o.actions :=
  ⟨allFreed_of_owned h.modules, allFreed_of_owned h.actions⟩

/-! ## What a search adds -/

/-- The actions in a list have these runs. -/
def Listed (o : Objects) : List Nat → List ActionRun → Prop :=
  List.Forall₂ (fun x run => ∃ m, o.details[x]? = some (m, run))

theorem Listed.mono {xs : List Nat} {runs : List ActionRun} (h : Listed o xs runs) (hpre : o.details <+: o'.details) :
    Listed o' xs runs := by
  obtain ⟨new, hnew⟩ := hpre
  refine h.imp fun x run => ?_
  rintro ⟨m, hget⟩
  have hlt : x < o.details.length := (List.getElem?_eq_some_iff.mp hget).1
  exact ⟨m, by rw [← hnew, List.getElem?_append_left hlt, hget]⟩

/-- The search from `s` to `s'` with result `hr` leaves no reference behind. It is successful if `ok`, and has
    then added actions with these runs to the sequence. -/
structure Outcome (held : List Nat) (ok : Bool) (runs : List ActionRun) (s : Search) (hr : HRESULT) (s' : Search) :
    Prop where
  failed_eq : failed hr = !ok
  accounted : Accounted s'.objects held s'.entries
  sequences : s'.sequences = s.sequences
  listed    : ok = true → ∀ old, Listed s.objects s.entries old → Listed s'.objects s'.entries (old ++ runs)
  count     : ok = true → s'.fixtureCount = s.fixtureCount + BitVec.ofNat 32 runs.length

/-- The step of a search has such an outcome from every state, and its result is one of `P`. -/
def Adds (P : HRESULT → Prop) (held : List Nat) (ok : Bool) (runs : List ActionRun)
    (step : Search → Option (HRESULT × Search)) : Prop :=
  ∀ s, Accounted s.objects held s.entries → ∃ hr s', step s = some (hr, s') ∧ Outcome held ok runs s hr s' ∧ P hr

variable {P : HRESULT → Prop} {ok ok' : Bool} {runs runs' : List ActionRun} {s s' s'' : Search} {hr hr' : HRESULT}
  {step step' : Search → Option (HRESULT × Search)}

theorem Adds.mono {Q : HRESULT → Prop} (h : Adds P held ok runs step) (hPQ : ∀ hr, P hr → Q hr) :
    Adds Q held ok runs step := by
  intro s hs
  obtain ⟨hr, s', hstep, hout, hP⟩ := h s hs
  exact ⟨hr, s', hstep, hout, hPQ hr hP⟩

/-- Nothing happens. -/
theorem outcome_refl (hs : Accounted s.objects held s.entries) (hr : HRESULT) : Outcome held (!failed hr) [] s hr s :=
  ⟨by rw [Bool.not_not], hs, rfl, fun _ old hold => by rwa [List.append_nil], fun _ => by simp⟩

theorem adds_result (hr : HRESULT) (hP : P hr) : Adds P held (!failed hr) [] (fun s => some (hr, s)) :=
  fun s hs => ⟨hr, s, rfl, outcome_refl hs hr, hP⟩

/-- What a failed step has added does not count. -/
theorem outcome_of_failed (hfailed : failed hr = true) (hacc : Accounted s'.objects held s'.entries)
    (hsequences : s'.sequences = s.sequences) : Outcome held false runs s hr s' where
  failed_eq := hfailed
  accounted := hacc
  sequences := hsequences
  listed hok := by cases hok
  count hok := by cases hok

theorem Outcome.of_failed (h : Outcome held false runs s hr s') : Outcome held false runs' s hr s' :=
  outcome_of_failed h.failed_eq h.accounted h.sequences

theorem Outcome.trans (h : Outcome held true runs s hr s') (h' : Outcome held ok runs' s' hr' s'') :
    Outcome held ok (runs ++ runs') s hr' s'' where
  failed_eq := h'.failed_eq
  accounted := h'.accounted
  sequences := h'.sequences.trans h.sequences
  listed hok old hold := by
    rw [← List.append_assoc]
    exact h'.listed hok _ (h.listed rfl old hold)
  count hok := by
    rw [h'.count hok, h.count rfl, List.length_append, BitVec.ofNat_add, BitVec.add_assoc]

theorem adds_andThen (h : Adds P held ok runs step) (h' : Adds P held ok' runs' step') :
    Adds P held (ok && ok') (runs ++ runs') (andThen step step') := by
  intro s hs
  obtain ⟨hr, s₁, hstep, hout, hP⟩ := h s hs
  cases ok with
  | false => exact ⟨hr, s₁, by simp [andThen, hstep, hout.failed_eq], hout.of_failed, hP⟩
  | true =>
      obtain ⟨hr', s₂, hstep', hout', hP'⟩ := h' s₁ hout.accounted
      exact ⟨hr', s₂, by simpa [andThen, hstep, hout.failed_eq] using hstep', hout.trans hout', hP'⟩

/-! ## Fixtures -/

/-- The fixture's action gets into the sequence. -/
def FixtureInput.isAdded (displayOnly : Bool) (f : FixtureInput) (testCase : ULONG) : Bool :=
  !f.rejected displayOnly testCase && f.actionMemory && f.entryMemory

/-- The matching fixtures of a module all get into the sequence. -/
def allAdded (displayOnly : Bool) (fixtures : List FixtureInput) : Bool :=
  fixtures.all (fun f => f.filter.all (f.isAdded displayOnly))

/-- The runs of the actions for the matching fixtures of a module. -/
def matchingRuns (displayOnly : Bool) (fixtures : List FixtureInput) : List ActionRun :=
  (fixtures.filter (fun f => f.filter.isSome)).map (FixtureInput.actionRun displayOnly)

variable {displayOnly : Bool}

theorem adds_fixture (hm : m ∈ held) (f : FixtureInput) (testCase : ULONG) :
    Adds (· ≠ eAccessdenied) held (f.isAdded displayOnly testCase) [f.actionRun displayOnly]
      (addFixture displayOnly m f testCase) := by
  intro s hs
  cases hrejected : f.rejected displayOnly testCase with
  | true =>
      exact ⟨eInvalidarg, s, by simp [addFixture, andThen, createFixtureAction, hrejected],
        by simpa [FixtureInput.isAdded, hrejected] using (outcome_refl hs eInvalidarg).of_failed, by decide⟩
  | false =>
    cases hmemory : f.actionMemory with
    | false =>
        exact ⟨eOutofmemory, s, by simp [addFixture, andThen, createFixtureAction, createAction, hrejected, hmemory],
          by simpa [FixtureInput.isAdded, hmemory] using (outcome_refl hs eOutofmemory).of_failed, by decide⟩
    | true =>
      obtain ⟨o₁, hcreate, hacc₁, hdetails₁⟩ := accounted_createAction hs hm (f.actionRun displayOnly)
      cases hentry : f.entryMemory with
      | false =>
          -- the reference of the creator was the only one
          obtain ⟨o₂, hderef, hacc₂, -⟩ := accounted_dereferenceAction hacc₁
          refine ⟨eOutofmemory, { s with objects := o₂, fixtureCount := s.fixtureCount + 1 },
            by simp [addFixture, andThen, createFixtureAction, addEntry, hrejected, hmemory, hcreate, hentry, hderef],
            ?_, by decide⟩
          simp only [FixtureInput.isAdded, hentry, Bool.and_false]
          exact outcome_of_failed rfl hacc₂ rfl
      | true =>
          obtain ⟨o₂, href, hacc₂, hdetails₂⟩ := accounted_referenceAction hacc₁ List.mem_cons_self
          obtain ⟨o₃, hderef, hacc₃, hdetails₃⟩ := accounted_dereferenceAction hacc₂
          have hdetails : o₃.details = s.objects.details ++ [(m, f.actionRun displayOnly)] :=
            hdetails₃.trans (hdetails₂.trans hdetails₁)
          refine ⟨sOk, { s with
              objects := o₃, entries := s.entries ++ [s.objects.actions.length]
              fixtureCount := s.fixtureCount + 1 },
            by simp [addFixture, andThen, createFixtureAction, addEntry, hrejected, hmemory, hcreate, hentry, href,
              hderef], ?_, by decide⟩
          simp only [FixtureInput.isAdded, hrejected, hmemory, hentry]
          refine ⟨rfl, hacc₃.perm (List.perm_append_singleton _ _).symm, rfl, fun _ old hold => ?_, fun _ => rfl⟩
          refine List.rel_append (hold.mono ⟨_, hdetails.symm⟩) (List.Forall₂.cons ⟨m, ?_⟩ List.Forall₂.nil)
          simp [hdetails, ← hs.length_details]

theorem adds_fixturesOfModule (displayOnly : Bool) (hm : m ∈ held) (fixtures : List FixtureInput) :
    Adds (· ≠ eAccessdenied) held (allAdded displayOnly fixtures) (matchingRuns displayOnly fixtures)
      (addFixturesOfModule displayOnly m fixtures) := by
  induction fixtures with
  | nil => exact adds_result sOk (by decide)
  | cons f rest ih =>
      intro s hs
      rw [addFixturesOfModule]
      cases hfilter : f.filter with
      | none => simpa [allAdded, matchingRuns, hfilter] using ih s hs
      | some testCase =>
          simpa [allAdded, matchingRuns, hfilter] using adds_andThen (adds_fixture hm f testCase) ih s hs

/-! ## Files and directories -/

/-- A module is freed after its use, unless an action references it. -/
theorem exists_withModule (use : Nat → Search → Option (HRESULT × Search)) {Q : HRESULT → Search → Prop}
    (huse : ∃ hr s', use s.objects.modules.length (createModule s) = some (hr, s')
      ∧ Accounted s'.objects (s.objects.modules.length :: held) s'.entries ∧ Q hr s') :
    ∃ hr s' objects, withModule use s = some (hr, { s' with objects }) ∧ Accounted objects held s'.entries
      ∧ objects.details = s'.objects.details ∧ Q hr s' := by
  obtain ⟨hr, s', hstep, hacc, hQ⟩ := huse
  obtain ⟨objects, hderef, hacc', hdetails⟩ := accounted_dereferenceModule hacc
  exact ⟨hr, s', objects, by simp [withModule, hstep, hderef], hacc', hdetails, hQ⟩

theorem adds_withModule {use : Nat → Search → Option (HRESULT × Search)}
    (huse : ∀ m, Adds P (m :: held) ok runs (use m)) : Adds P held ok runs (withModule use) := by
  intro s hs
  obtain ⟨hr, s', hstep, hout, hP⟩ := huse s.objects.modules.length (createModule s) (accounted_createModule hs)
  obtain ⟨hr₁, s₁, objects, hwith, hacc, hdetails, rfl, rfl⟩ :=
    exists_withModule use (Q := fun hr₁ s₁ => hr₁ = hr ∧ s₁ = s') ⟨hr, s', hstep, hout.accounted, rfl, rfl⟩
  refine ⟨hr₁, _, hwith, ⟨hout.failed_eq, hacc, hout.sequences, fun hok old hold => ?_, hout.count⟩, hP⟩
  apply (hout.listed hok old hold).mono
  show s₁.objects.details <+: objects.details
  rw [hdetails]

/-- The visit of a file succeeds. -/
def FileInput.succeeds (o : SearchOptions) (searchPerformed : Bool) (f : FileInput) : Bool :=
  if f.visited o.enableKernelFeatures then
    if failed f.loadHr then searchPerformed else allAdded o.displayOnly f.fixtures
  else true

/-- The runs of the actions that the visit of a file adds. -/
def FileInput.addedRuns (o : SearchOptions) (f : FileInput) : List ActionRun :=
  if f.visited o.enableKernelFeatures && !failed f.loadHr then matchingRuns o.displayOnly f.fixtures else []

variable {o : SearchOptions}

theorem adds_visit (f : FileInput) (searchPerformed : Bool)
    (hP : ∀ hr, hr ≠ eAccessdenied → P hr) (hload : searchPerformed = false → P f.loadHr) :
    Adds P held (f.succeeds o searchPerformed) (f.addedRuns o) (visit o f searchPerformed) := by
  intro s hs
  have hquiet : P sOk := hP sOk (by decide)
  cases hvisited : f.visited o.enableKernelFeatures with
  | false => simpa [visit, FileInput.succeeds, FileInput.addedRuns, hvisited] using adds_result sOk hquiet s hs
  | true =>
      cases hfailed : failed f.loadHr with
      | true =>
          cases searchPerformed with
          | true =>
              simpa [visit, addFixturesOfDll, FileInput.succeeds, FileInput.addedRuns, hvisited, hfailed]
                using adds_result sOk hquiet s hs
          | false =>
              simpa [visit, addFixturesOfDll, FileInput.succeeds, FileInput.addedRuns, hvisited, hfailed]
                using adds_result f.loadHr (hload rfl) s hs
      | false =>
          have hadds : Adds P held (allAdded o.displayOnly f.fixtures) (matchingRuns o.displayOnly f.fixtures)
              (withModule fun m => addFixturesOfModule o.displayOnly m f.fixtures) :=
            (adds_withModule fun m => adds_fixturesOfModule o.displayOnly List.mem_cons_self f.fixtures).mono hP
          simpa [visit, addFixturesOfDll, FileInput.succeeds, FileInput.addedRuns, hvisited, hfailed] using hadds s hs

/-- The traversal of what is found in a directory succeeds. -/
def Entries.succeeds (o : SearchOptions) : Entries → Bool
  | .nil                                 => true
  | .dots rest                           => rest.succeeds o
  | .reparsePoint combined rest          => combined && rest.succeeds o
  | .directory combined early inner rest =>
    (if o.recursiveSearch then
      match early with
      | some hr => !failed (ignoreAccessDenied hr)
      | none    => inner.succeeds o
    else combined) && rest.succeeds o
  | .file f rest                         => f.succeeds o true && rest.succeeds o

/-- The runs of the actions that the traversal adds. -/
def Entries.addedRuns (o : SearchOptions) : Entries → List ActionRun
  | .nil                          => []
  | .dots rest                    => rest.addedRuns o
  | .reparsePoint _ rest          => rest.addedRuns o
  | .directory _ early inner rest =>
    (if o.recursiveSearch && early.isNone then inner.addedRuns o else []) ++ rest.addedRuns o
  | .file f rest                  => f.addedRuns o ++ rest.addedRuns o

theorem ignoreAccessDenied_of_ne (h : hr ≠ eAccessdenied) : ignoreAccessDenied hr = hr := if_neg h

theorem ignoreAccessDenied_ne (hr : HRESULT) : ignoreAccessDenied hr ≠ eAccessdenied := by
  unfold ignoreAccessDenied
  split
  · decide
  · assumption

theorem adds_traverse (entries : Entries) :
    Adds (· ≠ eAccessdenied) held (entries.succeeds o) (entries.addedRuns o) (traverse o entries) := by
  induction entries with
  | nil => exact adds_result sOk (by decide)
  | dots rest ih => exact ih
  | reparsePoint combined rest ih =>
      intro s hs
      cases combined with
      | true => simpa [traverse, Entries.succeeds, Entries.addedRuns] using ih s hs
      | false =>
          exact ⟨eUnexpected, s, rfl, (outcome_refl hs eUnexpected).of_failed, by decide⟩
  | directory combined early inner rest ihInner ihRest =>
      intro s hs
      cases hrecursive : o.recursiveSearch with
      | true =>
          have hinner : Adds (· ≠ eAccessdenied) held
              (match early with
                | some hr => !failed (ignoreAccessDenied hr)
                | none    => inner.succeeds o)
              (if early.isNone then inner.addedRuns o else [])
              (fun s => (traverseDirectory early (traverse o inner) s).map (Prod.map ignoreAccessDenied id)) := by
            cases early with
            | some hr => exact adds_result (ignoreAccessDenied hr) (ignoreAccessDenied_ne hr)
            | none =>
                intro s hs
                obtain ⟨hr, s', hstep, hout, hne⟩ := ihInner s hs
                exact ⟨hr, s', by simp [traverseDirectory, hstep, ignoreAccessDenied_of_ne hne], hout, hne⟩
          simpa [traverse, Entries.succeeds, Entries.addedRuns, hrecursive] using adds_andThen hinner ihRest s hs
      | false =>
          cases combined with
          | true => simpa [traverse, Entries.succeeds, Entries.addedRuns, hrecursive] using ihRest s hs
          | false =>
              refine ⟨eUnexpected, s, by simp [traverse, hrecursive], ?_, by decide⟩
              simpa [Entries.succeeds, hrecursive] using (outcome_refl hs eUnexpected).of_failed
  | file f rest ih =>
      exact adds_andThen (adds_visit f true (fun _ h => h) (fun h => by cases h)) ih

/-- The search succeeds. -/
def Location.succeeds (o : SearchOptions) : Location → Bool
  | .missing                   => false
  | .file f                    => f.succeeds o false
  | .directory (some hr) _     => !failed hr
  | .directory none entries    => entries.succeeds o

/-- The runs of the actions that the search adds. -/
def Location.addedRuns (o : SearchOptions) : Location → List ActionRun
  | .missing                => []
  | .file f                 => f.addedRuns o
  | .directory (some _) _   => []
  | .directory none entries => entries.addedRuns o

theorem adds_search (location : Location) :
    Adds (fun _ => True) held (location.succeeds o) (location.addedRuns o) (search o location) := by
  cases location with
  | missing => exact adds_result eFileNotFound trivial
  | file f => exact adds_visit f false (fun _ _ => trivial) (fun _ => trivial)
  | directory early entries =>
      cases early with
      | some hr => exact adds_result hr trivial
      | none => exact (adds_traverse entries).mono (fun _ _ => trivial)

/-! ## The sequence action -/

/-- What the creation of the sequence action leaves: nothing of it unless `ok`, else the only reference on it, and
    actions with these runs in it. -/
structure Assembled (ok : Bool) (runs : List ActionRun) (hr : HRESULT) (s : Search) : Prop where
  failed_eq : failed hr = !ok
  freed     : ok = false → s.entries = [] ∧ AllFreed s.sequences
  sequences : ok = true → s.sequences = [1]
  listed    : ok = true → Listed s.objects s.entries runs
  count     : ok = true → s.fixtureCount = BitVec.ofNat 32 runs.length

theorem assembled_of_failed (hfailed : failed hr = true) (hempty : s.entries = []) (hfreed : AllFreed s.sequences) :
    Assembled false runs hr s where
  failed_eq := hfailed
  freed _ := ⟨hempty, hfreed⟩
  sequences hok := by cases hok
  listed hok := by cases hok
  count hok := by cases hok

theorem exists_dereferenceSequence (hs : Accounted s.objects held s.entries) (hone : s.sequences = [1]) :
    ∃ s', dereferenceSequence s = some s' ∧ Accounted s'.objects held [] ∧ s'.entries = [] ∧ s'.sequences = [0] := by
  rw [← List.append_nil s.entries] at hs
  obtain ⟨objects, hfold, hacc, -⟩ := accounted_dereferenceAll s.entries hs
  exact ⟨{ s with objects, sequences := [0], entries := [] },
    by simp [dereferenceSequence, hone, dereference, hfold], hacc, rfl, rfl⟩

theorem exists_createSequenceAction {populate : Search → Option (HRESULT × Search)} (memory : Bool)
    (hadds : Adds P held ok runs populate) (hs : Accounted s.objects held s.entries)
    (hnew : s.entries = [] ∧ s.sequences = [] ∧ s.fixtureCount = 0#32) :
    ∃ hr s', createSequenceAction memory populate s = some (hr, s') ∧ Accounted s'.objects held s'.entries
      ∧ Assembled (memory && ok) runs hr s' := by
  obtain ⟨hentries, hsequences, hzero⟩ := hnew
  cases memory with
  | false =>
      refine ⟨eOutofmemory, s, rfl, hs, ?_⟩
      apply assembled_of_failed rfl hentries
      rw [hsequences]
      decide
  | true =>
      obtain ⟨hr, s₁, hstep, hout, -⟩ := hadds { s with sequences := create s.sequences } hs
      have hone : s₁.sequences = [1] := by rw [hout.sequences, hsequences]; rfl
      cases ok with
      | false =>
          obtain ⟨s₂, hderef, hacc, hempty, hfreed⟩ := exists_dereferenceSequence hout.accounted hone
          refine ⟨hr, s₂, by simp [createSequenceAction, hstep, hout.failed_eq, hderef], by rwa [hempty], ?_⟩
          apply assembled_of_failed hout.failed_eq hempty
          rw [hfreed]
          decide
      | true =>
          refine ⟨sOk, s₁, by simp [createSequenceAction, hstep, hout.failed_eq], hout.accounted, rfl,
            fun hok => (by cases hok), fun _ => hone, fun _ => ?_, fun _ => ?_⟩
          · apply hout.listed rfl []
            show Listed s.objects s.entries []
            rw [hentries]
            exact List.Forall₂.nil
          · rw [hout.count rfl, hzero, BitVec.zero_add]

/-- The assembly of the action succeeds. -/
def InputFile.succeeds (o : SearchOptions) (sequenceMemory : Bool) : InputFile → Bool
  | .dynamicallyLoadable location        => sequenceMemory && location.succeeds o
  | .currentExecutable moduleHr fixtures =>
    !failed moduleHr && (sequenceMemory && allAdded o.displayOnly fixtures)

/-- The runs of the actions for all fixtures that are found. -/
def InputFile.addedRuns (o : SearchOptions) : InputFile → List ActionRun
  | .dynamicallyLoadable location => location.addedRuns o
  | .currentExecutable _ fixtures => matchingRuns o.displayOnly fixtures

theorem exists_assembleAction (sequenceMemory : Bool) (inputFile : InputFile) :
    ∃ hr s, assembleAction o sequenceMemory inputFile = some (hr, s) ∧ Accounted s.objects [] s.entries
      ∧ Assembled (inputFile.succeeds o sequenceMemory) (inputFile.addedRuns o) hr s := by
  cases inputFile with
  | dynamicallyLoadable location =>
      exact exists_createSequenceAction sequenceMemory (adds_search location) accounted_empty ⟨rfl, rfl, rfl⟩
  | currentExecutable moduleHr fixtures =>
      cases hfailed : failed moduleHr with
      | true =>
          refine ⟨moduleHr, Search.empty, by simp [assembleAction, hfailed], accounted_empty, ?_⟩
          simp only [InputFile.succeeds, hfailed, Bool.not_true, Bool.false_and]
          exact assembled_of_failed hfailed rfl (by decide)
      | false =>
          obtain ⟨hr, s, objects, hwith, hacc, hdetails, hassembled⟩ :=
            exists_withModule
              (fun m => createSequenceAction sequenceMemory (addFixturesOfModule o.displayOnly m fixtures))
              (exists_createSequenceAction sequenceMemory
                (adds_fixturesOfModule o.displayOnly List.mem_cons_self fixtures)
                (accounted_createModule accounted_empty) ⟨rfl, rfl, rfl⟩)
          refine ⟨hr, { s with objects }, by simpa [assembleAction, hfailed] using hwith, hacc, ?_⟩
          simp only [InputFile.succeeds, InputFile.addedRuns, hfailed, Bool.not_false, Bool.true_and]
          exact ⟨hassembled.failed_eq, hassembled.freed, hassembled.sequences,
            fun hok => (hassembled.listed hok).mono (by rw [hdetails]), hassembled.count⟩

/-! ## Contexts -/

/-- The contexts and the sink while the main worker has a reference on the proxy and tests have `n`. -/
def Contexts.usedBy (n : Nat) : Contexts where
  contexts := [1]
  sinks    := [1]
  proxies  := [n + 1]

def Contexts.freed : Contexts where
  contexts := [0]
  sinks    := [0]
  proxies  := [0]

/-- The contexts and the sink can be created. -/
def Environment.contextsCreated (env : Environment) : Bool :=
  !failed env.contextHr && !failed env.sinkHr && env.proxyMemory

def Contexts.AllFreed (c : Contexts) : Prop :=
  RefCount.AllFreed c.contexts ∧ RefCount.AllFreed c.sinks ∧ RefCount.AllFreed c.proxies

instance (c : Contexts) : Decidable c.AllFreed :=
  inferInstanceAs (Decidable (RefCount.AllFreed c.contexts ∧ RefCount.AllFreed c.sinks ∧ RefCount.AllFreed c.proxies))

variable {env : Environment} {c : Contexts} {n k : Nat}

/-- If something cannot be created, nothing remains. -/
theorem createExecutionContextAndEventSink_of_not_created (h : env.contextsCreated = false) :
    ∃ hr c, createExecutionContextAndEventSink env.contextHr env.sinkHr env.proxyMemory = some (hr, c)
      ∧ failed hr = true ∧ c.AllFreed := by
  unfold createExecutionContextAndEventSink
  cases hcontext : failed env.contextHr with
  | true => exact ⟨env.contextHr, _, rfl, hcontext, by decide⟩
  | false =>
      cases hsink : failed env.sinkHr with
      | true => exact ⟨env.sinkHr, _, rfl, hsink, by decide⟩
      | false =>
          have hmemory : env.proxyMemory = false := by simpa [Environment.contextsCreated, hcontext, hsink] using h
          exact ⟨eOutofmemory, _, by rw [hmemory]; rfl, rfl, by decide⟩

theorem createExecutionContextAndEventSink_of_created (h : env.contextsCreated = true) :
    createExecutionContextAndEventSink env.contextHr env.sinkHr env.proxyMemory = some (sOk, Contexts.usedBy 0) := by
  simp only [Environment.contextsCreated, Bool.and_eq_true, Bool.not_eq_true'] at h
  obtain ⟨⟨hcontext, hsink⟩, hmemory⟩ := h
  simp only [createExecutionContextAndEventSink, hcontext, hsink, hmemory]
  rfl

theorem dereferenceProxy_usedBy_zero : dereferenceProxy (Contexts.usedBy 0) = some Contexts.freed := rfl

theorem dereferenceProxy_usedBy_succ (n : Nat) :
    dereferenceProxy (Contexts.usedBy (n + 1)) = some (Contexts.usedBy n) := rfl

/-- Once the proxy is freed, no call on it can be made. -/
theorem performCalls_freed {calls : List RefCall} (h : performCalls calls Contexts.freed = some c) :
    c = Contexts.freed := by
  cases calls with
  | nil => exact (Option.some.inj h).symm
  | cons call calls => cases call <;> cases h

/-- The proxy stays alive as long as the tests give back no more references than they have taken. -/
theorem performCalls_usedBy {calls : List RefCall} (h : heldAfter n calls = some k) :
    performCalls calls (Contexts.usedBy n) = some (Contexts.usedBy k) := by
  induction calls generalizing n with
  | nil =>
      cases Option.some.inj h
      rfl
  | cons call calls ih =>
      cases call with
      | reference => exact ih h
      | dereference =>
          cases n with
          | zero => cases h
          | succ n => exact ih h

theorem performCalls_of_none {calls : List RefCall} (h : heldAfter n calls = none)
    (hc : performCalls calls (Contexts.usedBy n) = some c) : c = Contexts.freed := by
  induction calls generalizing n with
  | nil => cases h
  | cons call calls ih =>
      cases call with
      | reference => exact ih h hc
      | dereference =>
          cases n with
          | zero => exact performCalls_freed hc
          | succ n => exact ih h hc

/-! ## The run -/

/-- The calls of the actions that get to run. -/
def performedCalls (runs : List ActionRun) : List RefCall :=
  (takeThrough (fun run => failed run.hr) runs).flatMap ActionRun.calls

theorem performedCalls_of_failed {runs : List ActionRun} (h : failed run.hr = true) :
    performedCalls (run :: runs) = run.calls := by
  simp [performedCalls, takeThrough, h]

theorem performedCalls_of_succeeded {runs : List ActionRun} (h : failed run.hr = false) :
    performedCalls (run :: runs) = run.calls ++ performedCalls runs := by
  simp [performedCalls, takeThrough, h]

theorem alive_of_owned {t : Table} (h : Owned t owners) (hx : x ∈ owners) : alive t x = true := by
  obtain ⟨n, hget, -⟩ := h.exists_count hx
  rw [alive, hget]

theorem runAction_usedBy (halive : alive o'.actions x = true) (hget : o'.details[x]? = some (m, run)) :
    runAction o' x (Contexts.usedBy n) = (performCalls run.calls (Contexts.usedBy n)).map (fun c => (run.hr, c)) := by
  rw [runAction, hget]
  simp only [halive, Bool.true_and]
  rfl

theorem runActions_cons_of_failed {xs : List Nat} {c' : Contexts} (hrun : runAction o' x c = some (hr', c'))
    (hfailed : failed hr' = true) : runActions o' (x :: xs) hr c = some (hr', c') := by
  simp [runActions, hrun, hfailed]

theorem runActions_cons_of_succeeded {xs : List Nat} {c' : Contexts} (hrun : runAction o' x c = some (hr', c'))
    (hfailed : failed hr' = false) : runActions o' (x :: xs) hr c = runActions o' xs hr' c' := by
  simp [runActions, hrun, hfailed]

theorem runActions_usedBy {xs : List Nat} {runs : List ActionRun} (hr : HRESULT) (hlisted : Listed o' xs runs)
    (halive : ∀ x ∈ xs, alive o'.actions x = true) (h : heldAfter n (performedCalls runs) = some k) :
    ∃ hr', runActions o' xs hr (Contexts.usedBy n) = some (hr', Contexts.usedBy k) := by
  induction hlisted generalizing hr n with
  | nil =>
      cases Option.some.inj h
      exact ⟨hr, rfl⟩
  | @cons x run xs runs hget hrest ih =>
      obtain ⟨m, hget⟩ := hget
      have hrun := runAction_usedBy (n := n) (halive x List.mem_cons_self) hget
      cases hfailed : failed run.hr with
      | true =>
          rw [performedCalls_of_failed hfailed] at h
          rw [performCalls_usedBy h] at hrun
          exact ⟨run.hr, runActions_cons_of_failed hrun hfailed⟩
      | false =>
          rw [performedCalls_of_succeeded hfailed, heldAfter_append, Option.bind_eq_some_iff] at h
          obtain ⟨j, hcalls, hcalls'⟩ := h
          obtain ⟨hr', hloop⟩ := ih run.hr (fun y hy => halive y (List.mem_cons_of_mem x hy)) hcalls'
          rw [performCalls_usedBy hcalls] at hrun
          exact ⟨hr', (runActions_cons_of_succeeded hrun hfailed).trans hloop⟩

theorem runActions_freed {xs : List Nat} {hr hr' : HRESULT} (h : runActions o' xs hr Contexts.freed = some (hr', c)) :
    c = Contexts.freed := by
  cases xs with
  | nil => exact (Prod.mk.inj (Option.some.inj h)).2.symm
  | cons x xs =>
      have hdead : runAction o' x Contexts.freed = none := by
        unfold runAction
        split
        · rfl
        · have hfreed : alive Contexts.freed.proxies 0 = false := rfl
          rw [hfreed, Bool.and_false]
          rfl
      rw [runActions, hdead] at h
      cases h

theorem runActions_of_none {xs : List Nat} {runs : List ActionRun} {hr hr' : HRESULT} (hlisted : Listed o' xs runs)
    (halive : ∀ x ∈ xs, alive o'.actions x = true) (h : heldAfter n (performedCalls runs) = none)
    (hc : runActions o' xs hr (Contexts.usedBy n) = some (hr', c)) : c = Contexts.freed := by
  induction hlisted generalizing hr n with
  | nil => cases h
  | @cons x run xs runs hget hrest ih =>
      obtain ⟨m, hget⟩ := hget
      have hrun := runAction_usedBy (n := n) (halive x List.mem_cons_self) hget
      cases hcalls : heldAfter n run.calls with
      | none =>
          -- the run itself gives back too much
          cases hperform : performCalls run.calls (Contexts.usedBy n) with
          | none => simp [runActions, hrun, hperform] at hc
          | some c₁ =>
              cases performCalls_of_none hcalls hperform
              rw [hperform] at hrun
              cases hfailed : failed run.hr with
              | true =>
                  rw [runActions_cons_of_failed hrun hfailed] at hc
                  exact (Prod.mk.inj (Option.some.inj hc)).2.symm
              | false =>
                  rw [runActions_cons_of_succeeded hrun hfailed] at hc
                  exact runActions_freed hc
      | some j =>
          cases hfailed : failed run.hr with
          | true =>
              rw [performedCalls_of_failed hfailed, hcalls] at h
              cases h
          | false =>
              rw [performedCalls_of_succeeded hfailed, heldAfter_append, hcalls] at h
              rw [performCalls_usedBy hcalls] at hrun
              rw [runActions_cons_of_succeeded hrun hfailed] at hc
              exact ih (fun y hy => halive y (List.mem_cons_of_mem x hy)) h hc

/-- The references that the sequence action takes for the run keep the actions alive. -/
theorem runSequenceAction_eq (hs : Accounted s.objects [] s.entries) (hpos : s.entries.length ≠ 0)
    (hlt : s.entries.length < 2 ^ 32) :
    ∃ o₁ o₂, Accounted o₁ [] (s.entries ++ s.entries) ∧ Accounted o₂ [] s.entries ∧ o₁.details = s.objects.details
      ∧ ∀ c, runSequenceAction true s c
        = (runActions o₁ s.entries sOk c).map (fun r => (r.1, { s with objects := o₂ }, r.2)) := by
  obtain ⟨o₁, href, hacc₁, hdetails⟩ := accounted_referenceAll s.entries (fun x hx => hx) hs
  obtain ⟨o₂, hderef, hacc₂, -⟩ := accounted_dereferenceAll s.entries hacc₁
  refine ⟨o₁, o₂, hacc₁, hacc₂, hdetails, fun c => ?_⟩
  rw [runSequenceAction, Nat.mod_eq_of_lt hlt]
  cases hrun : runActions o₁ s.entries sOk c <;> simp [hpos, href, hrun, hderef]

/-! ## The main worker -/

/-- All objects are freed. -/
structure Remains.AllFreed (r : Remains) : Prop where
  modules   : RefCount.AllFreed r.objects.modules
  actions   : RefCount.AllFreed r.objects.actions
  sequences : RefCount.AllFreed r.sequences
  contexts  : r.contexts.AllFreed

/-- The main worker returns, and each object that it has created was released as often as it was referenced. -/
def ReleasesAll (env : Environment) : Prop := ∃ hr r, mainWorkerObjects env = some (hr, r) ∧ r.AllFreed

/-- If the action can be assembled, the number of fixtures that are found is not 0 as a `ULONG`; and if the action
    can be run, this number has 32 bits, and the tests give back exactly the references on the context that they
    have taken. -/
def Environment.Tidy (env : Environment) : Prop :=
  ∀ inputFile, env.inputFile = some inputFile → inputFile.succeeds env.options env.sequenceMemory = true →
    (inputFile.addedRuns env.options).length % 2 ^ 32 ≠ 0 ∧
    (env.contextsCreated = true → env.arrayMemory = true →
      (inputFile.addedRuns env.options).length < 2 ^ 32 ∧
      heldAfter 0 (performedCalls (inputFile.addedRuns env.options)) = some 0)

theorem allFreed_remains (hs : Accounted s.objects [] []) (hsequences : AllFreed s.sequences) (hc : c.AllFreed) :
    (s.remains c).AllFreed :=
  ⟨hs.allFreed.1, hs.allFreed.2, hsequences, hc⟩

/-- After the run, everything is released if the tests hold no reference on the proxy. -/
theorem finishRun_usedBy (hr : HRESULT) (hs : Accounted s.objects [] s.entries) (hone : s.sequences = [1]) :
    (∃ hr' r, finishRun hr s (Contexts.usedBy n) = some (hr', r) ∧ r.AllFreed) ↔ n = 0 := by
  obtain ⟨s', hderef, hacc, -, hzero⟩ := exists_dereferenceSequence hs hone
  cases n with
  | zero =>
      refine ⟨fun _ => rfl, fun _ => ⟨hr, s'.remains Contexts.freed, ?_, ?_⟩⟩
      · simp [finishRun, show alive (Contexts.usedBy 0).contexts 0 = true from rfl, dereferenceProxy_usedBy_zero, hderef]
      · apply allFreed_remains hacc
        · rw [hzero]
          decide
        · show Contexts.freed.AllFreed
          decide
  | succ n =>
      refine ⟨?_, fun h => by cases h⟩
      rintro ⟨hr', r, hfinish, hfreed⟩
      simp only [finishRun, show alive (Contexts.usedBy (n + 1)).contexts 0 = true from rfl,
        dereferenceProxy_usedBy_succ, hderef] at hfinish
      cases hfinish
      -- the inner context is still referenced by the proxy
      exact absurd hfreed.contexts.1 (by decide : ¬ AllFreed [1])

theorem runAssembled_iff {runs : List ActionRun} (hs : Accounted s.objects [] s.entries)
    (hassembled : Assembled true runs hr s) (hcount : runs.length % 2 ^ 32 ≠ 0) :
    (∃ hr r, runAssembled env s = some (hr, r) ∧ r.AllFreed) ↔
      (env.contextsCreated = true → env.arrayMemory = true →
        runs.length < 2 ^ 32 ∧ heldAfter 0 (performedCalls runs) = some 0) := by
  have hlisted := hassembled.listed rfl
  have hlength : s.entries.length = runs.length := hlisted.length_eq
  have hone := hassembled.sequences rfl
  cases hcreated : env.contextsCreated with
  | false =>
      obtain ⟨hr, c, hcreate, hfailed, hfreed⟩ := createExecutionContextAndEventSink_of_not_created hcreated
      obtain ⟨s', hderef, hacc, -, hzero⟩ := exists_dereferenceSequence hs hone
      refine iff_of_true ⟨hr, s'.remains c, by simp [runAssembled, hcreate, hfailed, hderef], ?_⟩ (fun h => by cases h)
      apply allFreed_remains hacc
      · rw [hzero]
        decide
      · exact hfreed
  | true =>
      have hrun : runAssembled env s = (runSequenceAction env.arrayMemory s (Contexts.usedBy 0)).bind
          (fun r => finishRun r.1 r.2.1 r.2.2) := by
        rw [runAssembled, createExecutionContextAndEventSink_of_created hcreated]
        rfl
      rw [hrun]
      cases hmemory : env.arrayMemory with
      | false =>
          have hnoMemory : runSequenceAction false s (Contexts.usedBy 0) = some (eOutofmemory, s, Contexts.usedBy 0) := by
            rw [runSequenceAction, hlength, if_neg hcount]
            rfl
          rw [hnoMemory]
          exact iff_of_true ((finishRun_usedBy eOutofmemory hs hone).mpr rfl) (fun _ h => by cases h)
      | true =>
          simp only [forall_const]
          by_cases hlt : runs.length < 2 ^ 32
          · obtain ⟨o₁, o₂, hacc₁, hacc₂, hdetails, heq⟩ :=
              runSequenceAction_eq hs (by omega) (hlength ▸ hlt)
            have hlisted₁ : Listed o₁ s.entries runs := hlisted.mono (by rw [hdetails])
            have halive : ∀ x ∈ s.entries, alive o₁.actions x = true :=
              fun x hx => alive_of_owned hacc₁.actions (List.mem_append_left _ hx)
            rw [heq]
            cases hheld : heldAfter 0 (performedCalls runs) with
            | none =>
                refine iff_of_false ?_ (fun h => by cases h.2)
                rintro ⟨hr', r, hfinish, -⟩
                obtain ⟨⟨hr₁, s₁, c₁⟩, hloop, hfinish⟩ := Option.bind_eq_some_iff.mp hfinish
                obtain ⟨⟨hr₂, c₂⟩, hactions, hpair⟩ := Option.map_eq_some_iff.mp hloop
                cases hpair
                cases runActions_of_none hlisted₁ halive hheld hactions
                cases hfinish
            | some k =>
                obtain ⟨hr', hloop⟩ := runActions_usedBy sOk hlisted₁ halive hheld
                rw [hloop]
                simp only [hlt, true_and, Option.some.injEq]
                exact finishRun_usedBy (s := { s with objects := o₂ }) hr' hacc₂ hone
          · -- the array has fewer cells than the list has entries
            have hoverrun : runSequenceAction true s (Contexts.usedBy 0) = none := by
              have hless : runs.length % 2 ^ 32 < runs.length := lt_of_lt_of_le (Nat.mod_lt _ (by decide)) (by omega)
              rw [runSequenceAction, hlength, if_neg hcount, if_pos hless]
              rfl
            rw [hoverrun]
            exact iff_of_false (fun ⟨_, _, h, _⟩ => by cases h) (fun h => hlt h.1)

theorem finishRun_result {r : Remains} (h : finishRun hr s c = some (hr', r)) : hr' = hr := by
  unfold finishRun at h
  split at h
  · cases h
  · obtain ⟨c', -, h⟩ := Option.bind_eq_some_iff.mp h
    obtain ⟨s', -, heq⟩ := Option.bind_eq_some_iff.mp h
    cases heq
    rfl

/-- The result is that of `mainWorker` for the results of the parts. -/
theorem mainWorkerObjects_result {inputFile : InputFile} {assembleHr createHr runHr : HRESULT} {r : Remains}
    (hinput : env.inputFile = some inputFile)
    (hassemble : assembleAction env.options env.sequenceMemory inputFile = some (assembleHr, s))
    (hcreate : createExecutionContextAndEventSink env.contextHr env.sinkHr env.proxyMemory = some (createHr, c))
    (hrun : failed createHr = false → ∃ s' c', runSequenceAction env.arrayMemory s c = some (runHr, s', c'))
    (h : mainWorkerObjects env = some (hr, r)) (statistics : Statistics) (exitCode : DWORD) :
    (mainWorker ⟨true, assembleHr, s.fixtureCount, createHr, runHr⟩ statistics exitCode).1 = hr := by
  simp only [mainWorkerObjects, hinput, hassemble, Option.bind_eq_bind, Option.bind_some] at h
  cases hassembled : failed assembleHr with
  | true =>
      simp only [hassembled] at h
      cases h
      simp [mainWorker, hassembled]
  | false =>
      by_cases hzero : s.fixtureCount = 0#32
      · simp only [hassembled, hzero] at h
        cases h
        simp [mainWorker, hassembled, hzero]
      · simp only [hassembled, hzero, runAssembled, hcreate, Option.bind_eq_bind, Option.bind_some] at h
        cases hcreated : failed createHr with
        | true =>
            simp only [hcreated] at h
            obtain ⟨s', -, heq⟩ := Option.bind_eq_some_iff.mp h
            cases heq
            simp [mainWorker, hassembled, hzero, hcreated]
        | false =>
            obtain ⟨s', c', hrun⟩ := hrun hcreated
            simp only [hcreated, hrun, Option.bind_some, Bool.false_eq_true, if_false] at h
            simp [mainWorker, hassembled, hzero, hcreated, finishRun_result h]

/-- **Release.** The main worker releases all that it has created exactly if the environment is tidy. -/
theorem releasesAll_iff (env : Environment) : ReleasesAll env ↔ env.Tidy := by
  unfold ReleasesAll mainWorkerObjects Environment.Tidy
  cases hinput : env.inputFile with
  | none => exact iff_of_true ⟨eFileNotFound, _, rfl, by decide, by decide, by decide, by decide⟩ (fun _ h => by cases h)
  | some inputFile =>
      obtain ⟨hr, s, hassemble, hacc, hassembled⟩ :=
        exists_assembleAction (o := env.options) env.sequenceMemory inputFile
      simp only [hassemble, Option.some.injEq, forall_eq']
      cases hsucceeds : inputFile.succeeds env.options env.sequenceMemory with
      | false =>
          rw [hsucceeds] at hassembled
          obtain ⟨hempty, hsequences⟩ := hassembled.freed rfl
          rw [hempty] at hacc
          refine iff_of_true ⟨hr, s.remains Contexts.empty, by simp [hassembled.failed_eq], ?_⟩ (fun h => by cases h)
          exact allFreed_remains hacc hsequences (by decide)
      | true =>
          rw [hsucceeds] at hassembled
          have hzero : s.fixtureCount = 0#32 ↔ (inputFile.addedRuns env.options).length % 2 ^ 32 = 0 := by
            rw [hassembled.count rfl, ← BitVec.toNat_inj, BitVec.toNat_ofNat, BitVec.toNat_ofNat, Nat.zero_mod]
          by_cases hcount : (inputFile.addedRuns env.options).length % 2 ^ 32 = 0
          · -- nobody gives back the reference on the sequence action
            refine iff_of_false ?_ (fun h => (h rfl).1 hcount)
            rintro ⟨hr', r, hreturn, hfreed⟩
            simp only [Option.bind_eq_bind, Option.bind_some, hassembled.failed_eq, hzero.mpr hcount] at hreturn
            cases hreturn
            have hsequences := hfreed.sequences
            rw [Search.remains, hassembled.sequences rfl] at hsequences
            exact absurd hsequences (by decide : ¬ AllFreed [1])
          · have hne : s.fixtureCount ≠ 0#32 := fun h => hcount (hzero.mp h)
            simp only [Option.bind_eq_bind, Option.bind_some, hassembled.failed_eq, hne, forall_const]
            rw [and_iff_right hcount]
            exact runAssembled_iff hacc hassembled hcount

/-- A directory without test modules. -/
def emptyDirectory : Environment where
  options        := { displayOnly := false, recursiveSearch := false, enableKernelFeatures := false }
  inputFile      := some (.dynamicallyLoadable (.directory none (.dots (.dots .nil))))
  sequenceMemory := true
  contextHr      := sOk
  sinkHr         := sOk
  proxyMemory    := true
  arrayMemory    := true

/-- The sequence action is leaked if no fixture is found. -/
theorem not_releasesAll_emptyDirectory : ¬ ReleasesAll emptyDirectory := by
  rintro ⟨hr, r, hreturn, hfreed⟩
  have hreturn' : mainWorkerObjects emptyDirectory =
      some (sOk, { objects := Search.empty.objects, sequences := [1], contexts := Contexts.empty }) := rfl
  rw [hreturn'] at hreturn
  cases hreturn
  exact absurd hfreed.sequences (by decide : ¬ AllFreed [1])

end Cfix.Runner
