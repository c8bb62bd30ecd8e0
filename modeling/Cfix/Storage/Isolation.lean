import Cfix.Storage.PeModule

/-!
# `Storage.Isolation` — what a routine of a user-mode fixture reads

The routines of a test case share their slots. They see nothing of Setup or of another test case if the
fixture has a Before routine, whose runner is the one that resets the slots. `isolated_iff` says when the
routines are isolated, over every behaviour of the routines on the slots.
-/

namespace Cfix

/-! ## Observations -/

/-- What a routine has read from the slots. -/
structure Observation where
  routine : RoutineId
  reads   : List SlotRead
  deriving DecidableEq, Repr

/-- Routines with this behaviour on the slots, whose reads are recorded. -/
def observe (b : RoutineId → Prog) (r : RoutineId) : Body (List Observation) := fun storage log =>
  let x := (b r).run storage
  (x.completion, x.storage, log ++ [⟨r, x.reads⟩])

namespace PeEnvironment

variable (e : PeEnvironment (List Observation)) (b : RoutineId → Prog) (f : Fixture)

def observing : PeEnvironment (List Observation) := { e with body := observe b }

/-- What the routine leaves in the slots; a routine that is not entered leaves them as they are. -/
def leaves (r : RoutineId) (s : Storage) : Storage :=
  if e.enters f r then ((b r).run s).storage else s

/-- The slots that a routine is to see: empty ones, with what the earlier routines of its own test case
    have written. -/
def ownStorage : RoutineId → Storage
  | .setup | .before _ | .teardown => .zero
  | .test i                        => e.leaves b f (.before i) .zero
  | .after i                       => e.leaves b f (.test i) (e.leaves b f (.before i) .zero)

/-- The routine has read what it would read from its own storage. -/
def OwnReads (x : Observation) : Prop :=
  x.reads = ((b x.routine).run (e.ownStorage b f x.routine)).reads

instance (x : Observation) : Decidable (e.OwnReads b f x) := inferInstanceAs (Decidable (_ = _))

/-- The reads in a run from these values in the TLS slots, which earlier fixtures may have left. -/
def observations (a : TsexecAction) (tls : Storage) : List Observation :=
  ((e.observing b).run a tls []).2.env.user

end PeEnvironment

/-- Two behaviours agree on the routine and on those that run before it in the same test case. -/
def AgreeOn (r : RoutineId) (b b' : RoutineId → Prog) : Prop :=
  b r = b' r ∧ ∀ i ∈ r.testCase, b (.before i) = b' (.before i) ∧ b (.test i) = b' (.test i)

/-- **Isolation of the routines.** What a routine reads is what its own test case has written; hence in two
    runs that differ only in Setup, in other test cases and in the values left by earlier fixtures it reads
    the same. -/
structure TsexecAction.Isolated (a : TsexecAction) : Prop where
  ownReads        : ∀ (e : PeEnvironment (List Observation)) (b : RoutineId → Prog) (tls : Storage),
    ∀ x ∈ e.observations b a tls, e.OwnReads b a.fixture x
  noninterference : ∀ (e : PeEnvironment (List Observation)) (b b' : RoutineId → Prog) (tls tls' : Storage),
    ∀ x ∈ e.observations b a tls, ∀ y ∈ e.observations b' a tls',
      x.routine = y.routine → AgreeOn x.routine b b' → x.reads = y.reads

/-- There is a Before routine, or no routine of a test case is ever called: the first selected test case
    has no test routine, which is fatal, and no After routine. -/
def TsexecAction.ResetsSlots (a : TsexecAction) : Prop :=
  a.fixture.beforeRoutine ≠ 0 ∨
    ∀ i ∈ a.selected.head?, a.fixture.routine (.test i) = 0 ∧ a.fixture.afterRoutine = 0

theorem TsexecAction.head?_selected {a : TsexecAction} {i : Nat} (hlt : i < a.fixture.testCases.length)
    (hsel : a.selects i = true) (hnone : ∀ j < i, a.selects j = false) : a.selected.head? = some i := by
  rw [selected, List.head?_filter, List.find?_range_eq_some]
  refine ⟨hsel, List.mem_range.mpr hlt, ?_⟩
  intro j hj
  simp [hnone j hj]

/-! ## One routine -/

namespace PeEnvironment

variable {e : PeEnvironment (List Observation)} {b b' : RoutineId → Prog} {f : Fixture} {r : RoutineId}
  {s : PeState (List Observation)}

theorem runRoutine_observing (hv : e.isValidContext = true) (h : e.enters f r = true) :
    (e.observing b).runRoutine f s r =
      let x := (b r).run (r.slots s.tls)
      (r.mapHr x.completion.result,
        { s with tls := x.storage, user := s.user ++ [⟨r, x.reads⟩] }) :=
  runRoutine_of_enters (e := e.observing b) hv h

theorem runRoutine_observing_of_not_enters (hv : e.isValidContext = true) (h : e.enters f r = false) :
    (e.observing b).runRoutine f s r =
      if f.routine r = 0 then (r.absentHr, s) else (r.mapHr (e.install r), { s with tls := r.slots s.tls }) :=
  runRoutine_of_not_enters (e := e.observing b) hv h

/-- A routine that restores the slots works on them, also if it is missing. -/
theorem tls_of_restores (hv : e.isValidContext = true) (h : r.restores = true) :
    ((e.observing b).runRoutine f s r).2.tls = e.leaves b f r s.tls := by
  cases hent : e.enters f r with
  | true  =>
      rw [runRoutine_observing hv hent]
      simp [leaves, hent, RoutineId.slots, h]
  | false =>
      rw [runRoutine_observing_of_not_enters hv hent]
      split <;> simp [leaves, hent, RoutineId.slots, h]

/-- A routine that is present leaves its filament's slots. -/
theorem tls_of_present (hv : e.isValidContext = true) (h : f.routine r ≠ 0) :
    ((e.observing b).runRoutine f s r).2.tls = e.leaves b f r (r.slots s.tls) := by
  cases hent : e.enters f r with
  | true  =>
      rw [runRoutine_observing hv hent]
      simp [leaves, hent]
  | false =>
      rw [runRoutine_observing_of_not_enters hv hent]
      simp [leaves, hent, h]

/-- A routine that finds its own storage reads only from there. -/
theorem ownReads_routine (hv : e.isValidContext = true) (h : ∀ x ∈ s.user, e.OwnReads b f x)
    (hslots : e.enters f r = true → r.slots s.tls = e.ownStorage b f r) :
    ∀ x ∈ ((e.observing b).runRoutine f s r).2.user, e.OwnReads b f x := by
  cases hent : e.enters f r with
  | true  =>
      rw [runRoutine_observing hv hent, hslots hent]
      intro x hx
      rcases List.mem_append.mp hx with hx | hx
      · exact h x hx
      · rw [List.mem_singleton] at hx
        subst hx
        rfl
  | false =>
      rw [runRoutine_observing_of_not_enters hv hent]
      split
      · exact h
      · exact h

/-- A routine's own storage depends on the routines of its test case only. -/
theorem ownStorage_congr (h : AgreeOn r b b') : e.ownStorage b f r = e.ownStorage b' f r := by
  cases r with
  | setup    => rfl
  | before i => rfl
  | teardown => rfl
  | test i   =>
      obtain ⟨-, hcase⟩ := h
      obtain ⟨hb, -⟩ := hcase i rfl
      simp only [ownStorage, leaves, hb]
  | after i  =>
      obtain ⟨-, hcase⟩ := h
      obtain ⟨hb, ht⟩ := hcase i rfl
      simp only [ownStorage, leaves, hb, ht]

end PeEnvironment

/-! ## The run -/

namespace PeEnvironment

variable {e : PeEnvironment (List Observation)} {a : TsexecAction}

/-- The proof outline of a fixture that resets the slots: from the Before routine to the After routine of a
    test case, the TLS slots are what this test case has written. -/
def isolation (b : RoutineId → Prog) (hv : e.isValidContext = true) (hreset : a.ResetsSlots) :
    Outline (e.observing b).host a
      (fun s => ∀ x ∈ s.env.user, e.OwnReads b a.fixture x)
      (fun _ s => ∀ x ∈ s.env.user, e.OwnReads b a.fixture x) where
  opened s      := ∀ x ∈ s.env.user, e.OwnReads b a.fixture x
  loop i _ s    := (∀ x ∈ s.env.user, e.OwnReads b a.fixture x) ∧
    (a.fixture.beforeRoutine ≠ 0 ∨ ∀ j < i, a.selects j = false)
  started i s   := (∀ x ∈ s.env.user, e.OwnReads b a.fixture x) ∧ s.env.table.index = i ∧
    (a.fixture.beforeRoutine ≠ 0 ∨ a.fixture.routine (.test i) = 0 ∧ a.fixture.afterRoutine = 0)
  prepared i s  := (∀ x ∈ s.env.user, e.OwnReads b a.fixture x) ∧ s.env.table.index = i ∧
    (a.fixture.beforeRoutine ≠ 0 ∧ s.env.tls = e.ownStorage b a.fixture (.test i) ∨
      a.fixture.routine (.test i) = 0 ∧ a.fixture.afterRoutine = 0)
  tested i hr s := (∀ x ∈ s.env.user, e.OwnReads b a.fixture x) ∧ s.env.table.index = i ∧
    (a.fixture.beforeRoutine ≠ 0 ∧ s.env.tls = e.ownStorage b a.fixture (.after i) ∨
      hr = eUnexpected ∧ a.fixture.afterRoutine = 0)
  ended _ hr s  := (∀ x ∈ s.env.user, e.OwnReads b a.fixture x) ∧
    (a.fixture.beforeRoutine ≠ 0 ∨ fatal hr = true)
  stopped _ _ s := ∀ x ∈ s.env.user, e.OwnReads b a.fixture x
  closing _ _ s := ∀ x ∈ s.env.user, e.OwnReads b a.fixture x
  reject        := fun hs _ => hs
  start         := by
    intro s s' hr hs _ hcall
    obtain ⟨-, henv⟩ := invoke_some hcall
    have hs' : ∀ x ∈ s'.env.user, e.OwnReads b a.fixture x := by
      rw [henv]
      exact hs
    split
    · exact hs'
    · exact hs'
  setup         := by
    intro s s' hr flags hs hcall
    obtain ⟨-, henv⟩ := invoke_routine (r := .setup) hcall rfl
    have hs' : ∀ x ∈ s'.env.user, e.OwnReads b a.fixture x := by
      rw [henv]
      exact ownReads_routine hv hs (fun _ => rfl)
    split
    · exact hs'
    · split
      · exact hs'
      · exact ⟨hs', .inr fun j hj => absurd hj (Nat.not_lt_zero j)⟩
  skip          := by
    intro i hr s _ hskip hs
    refine ⟨hs.1, hs.2.imp_right ?_⟩
    intro hnone j hj
    rcases Nat.lt_succ_iff_lt_or_eq.mp hj with hlt | rfl
    · exact hnone j hlt
    · exact hskip
  announce      := by
    intro i hr₀ s s' hr hlt hsel hs hcall
    obtain ⟨-, henv⟩ := invoke_some hcall
    have hs' : ∀ x ∈ s'.env.user, e.OwnReads b a.fixture x := by
      rw [henv]
      exact hs.1
    split
    · exact hs'
    · refine ⟨hs', by rw [henv]; rfl, ?_⟩
      -- without a Before routine this is the first test case that is selected
      rcases hreset with hbefore | hfirst
      · exact .inl hbefore
      · exact hs.2.imp_right fun hnone => hfirst i (TsexecAction.head?_selected hlt hsel hnone)
  before        := by
    intro i s s' hr flags hs hcall
    obtain ⟨hown, hindex, hcase⟩ := hs
    obtain ⟨hhr, henv⟩ := invoke_routine (r := .before s.env.table.index) hcall rfl
    have hs' : ∀ x ∈ s'.env.user, e.OwnReads b a.fixture x := by
      rw [henv]
      exact ownReads_routine hv hown (fun _ => rfl)
    by_cases hbefore : a.fixture.beforeRoutine = 0
    · have hok : failed hr = false := by
        rw [hhr, runRoutine_of_absent (e := e.observing b) hv (by exact hbefore)]
        simp [RoutineId.absentHr]
      simp only [hok, Bool.false_eq_true, if_false]
      refine ⟨hs', by rw [henv]; exact hindex, .inr ?_⟩
      exact hcase.resolve_left (not_not_intro hbefore)
    · split
      · exact ⟨hs', .inl hbefore⟩
      · refine ⟨hs', by rw [henv]; exact hindex, .inl ⟨hbefore, ?_⟩⟩
        rw [henv, ← hindex]
        exact tls_of_present hv (by exact hbefore)
  test          := by
    intro i s s' hr flags hs hcall
    obtain ⟨hown, hindex, hcase⟩ := hs
    obtain ⟨hhr, henv⟩ := invoke_routine (r := .test i) hcall rfl
    refine ⟨?_, by rw [henv]; exact hindex, ?_⟩
    · rw [henv]
      refine ownReads_routine hv hown ?_
      intro hent
      rcases hcase with ⟨-, htls⟩ | ⟨hmissing, -⟩
      · exact htls
      · simp [enters, hmissing] at hent
    · rcases hcase with ⟨hbefore, htls⟩ | ⟨hmissing, hafter⟩
      · refine .inl ⟨hbefore, ?_⟩
        rw [henv]
        simp only [tls_of_restores hv (r := .test i) rfl, htls]
        rfl
      · refine .inr ⟨?_, hafter⟩
        rw [hhr, runRoutine_of_absent (e := e.observing b) hv hmissing]
        rfl
  after         := by
    intro i s s' hrTestCase hr flags hs hcall
    obtain ⟨hown, hindex, hcase⟩ := hs
    obtain ⟨hhr, henv⟩ := invoke_routine (r := .after s.env.table.index) hcall rfl
    refine ⟨?_, ?_⟩
    · rw [henv]
      refine ownReads_routine hv hown ?_
      intro hent
      rcases hcase with ⟨-, htls⟩ | ⟨-, hafter⟩
      · rw [hindex]
        exact htls
      · simp [enters, Fixture.routine, hafter] at hent
    · rcases hcase with ⟨hbefore, -⟩ | ⟨rfl, hafter⟩
      · exact .inl hbefore
      · refine .inr ?_
        have hok : hr = sOk := by
          rw [hhr, runRoutine_of_absent (e := e.observing b) hv (by exact hafter)]
          rfl
        rw [hok]
        decide
  abandon       := fun hs _ => hs.1
  finish        := by
    intro i s hr hs hfatal
    have hbefore : a.fixture.beforeRoutine ≠ 0 := hs.2.resolve_right (by simp [hfatal])
    split
    · exact hs.1
    · exact ⟨hs.1, .inl hbefore⟩
  leave         := fun hs => hs.1
  teardown      := by
    intro fixtureShortCircuit hr s s' teardownHr flags hs hcall
    obtain ⟨-, henv⟩ := invoke_routine (r := .teardown) hcall rfl
    have hs' : ∀ x ∈ s'.env.user, e.OwnReads b a.fixture x := by
      rw [henv]
      exact ownReads_routine hv hs (fun _ => rfl)
    split
    · exact hs'
    · exact hs'
  close         := fun hs => hs

end PeEnvironment

/-! ## A fixture that does not reset the slots -/

/-- Reads slot 0, overwrites it and returns. -/
def readAndSet (value : Pvoid) : Prog := .getValue 0#32 fun _ => .setValue 0#32 value (.finish .returned)

namespace PeEnvironment

/-- The run in which every routine succeeds, and reads slot 0 and sets it to 1. -/
def stalePe : PeEnvironment (List Observation) := allOk (observe fun _ => readAndSet 1)

/-- Some routine has read what is not its own. -/
def Leaks (f : Fixture) (log : List Observation) : Prop :=
  ∃ x ∈ log, ¬stalePe.OwnReads (fun _ => readAndSet 1) f x

variable {a : TsexecAction} {f : Fixture} {r : RoutineId} {s : PeState (List Observation)}

theorem runRoutine_stalePe : stalePe.runRoutine f s r =
    if f.routine r = 0 then (r.absentHr, s)
    else (sOk, { s with
      tls  := (r.slots s.tls).setValue 0#32 1,
      user := s.user ++ [⟨r, [⟨0#32, (r.slots s.tls).getValue 0#32⟩]⟩] }) := by
  by_cases h : f.routine r = 0
  · rw [runRoutine_of_absent rfl h, if_pos h]
  · have hent : stalePe.enters f r = true := by simp [stalePe, enters_allOk, h]
    rw [runRoutine_of_enters rfl hent, if_neg h]
    simp [stalePe, allOk, observe, Prog.run, readAndSet, Prog.exec, Completion.result]

/-- Only a missing test routine fails. -/
theorem failed_stalePe (h : f.routine r ≠ 0 ∨ ∀ i, r ≠ .test i) :
    failed (stalePe.runRoutine f s r).1 = false := by
  rw [runRoutine_stalePe]
  split
  · rename_i hmissing
    have hr := h.resolve_left (not_not_intro hmissing)
    cases r with
    | test i   => exact absurd rfl (hr i)
    | setup | before i | after i | teardown => exact failed_sOk
  · exact failed_sOk

/-- A value in slot 0 stays there. -/
theorem tls_stalePe (h : s.tls.defaultSlot = 1) : (stalePe.runRoutine f s r).2.tls.defaultSlot = 1 := by
  rw [runRoutine_stalePe]
  split
  · exact h
  · rfl

theorem leaks_runRoutine (h : Leaks f s.user) : Leaks f (stalePe.runRoutine f s r).2.user := by
  obtain ⟨x, hx, hbad⟩ := h
  rw [runRoutine_stalePe]
  split
  · exact ⟨x, hx, hbad⟩
  · exact ⟨x, List.mem_append_left _ hx, hbad⟩

/-- A routine that finds the value, but has an empty storage of its own. -/
theorem leaks_of_stale (hpresent : f.routine r ≠ 0) (hrestores : r.restores = true)
    (hstale : s.tls.defaultSlot = 1) (hown : stalePe.ownStorage (fun _ => readAndSet 1) f r = .zero) :
    Leaks f (stalePe.runRoutine f s r).2.user := by
  rw [runRoutine_stalePe, if_neg hpresent]
  refine ⟨_, List.mem_append_right _ (List.mem_singleton_self _), ?_⟩
  rw [OwnReads, hown]
  simp [RoutineId.slots, hrestores, Prog.run, readAndSet, Prog.exec, Storage.getValue, Storage.zero, hstale,
    cfixTagReservedForCc]

/-- The proof outline of a fixture that does not reset the slots. -/
def leak (hbefore : a.fixture.beforeRoutine = 0) {i₀ : Nat} (hfirst : a.selected.head? = some i₀)
    (hruns : a.fixture.routine (.test i₀) = 0 → a.fixture.afterRoutine ≠ 0) :
    Outline stalePe.host a
      (fun s => s.env.tls.defaultSlot = 1) (fun _ s => Leaks a.fixture s.env.user) where
  opened s      := s.env.tls.defaultSlot = 1
  loop i _ s    := Leaks a.fixture s.env.user ∨
    s.env.tls.defaultSlot = 1 ∧ ∀ j < i, a.selects j = false
  started i s   := Leaks a.fixture s.env.user ∨ s.env.tls.defaultSlot = 1 ∧ s.env.table.index = i ∧ i = i₀
  prepared i s  := Leaks a.fixture s.env.user ∨ s.env.tls.defaultSlot = 1 ∧ s.env.table.index = i ∧ i = i₀
  tested i _ s  := Leaks a.fixture s.env.user ∨
    s.env.tls.defaultSlot = 1 ∧ s.env.table.index = i ∧ i = i₀ ∧ a.fixture.routine (.test i) = 0
  ended _ _ s   := Leaks a.fixture s.env.user
  stopped _ _ s := Leaks a.fixture s.env.user
  closing _ _ s := Leaks a.fixture s.env.user
  reject        := by
    intro s _ hv
    cases hv
  start         := by
    intro s s' hr hs _ hcall
    obtain ⟨hhr, henv⟩ := invoke_some hcall
    have hok : failed hr = false := by
      rw [hhr]
      exact failed_sOk
    simp only [hok, Bool.false_eq_true, if_false]
    rw [henv]
    exact hs
  setup         := by
    intro s s' hr flags hs hcall
    obtain ⟨hhr, henv⟩ := invoke_routine (r := .setup) hcall rfl
    have hok : failed hr = false := by
      rw [hhr]
      exact failed_stalePe (.inr fun i => nofun)
    simp only [setupFailure_eq_false hok, hok, Bool.false_eq_true, if_false]
    refine .inr ⟨?_, fun j hj => absurd hj (Nat.not_lt_zero j)⟩
    rw [henv]
    exact tls_stalePe hs
  skip          := by
    intro i hr s _ hskip hs
    refine hs.imp_right fun hnone => ⟨hnone.1, ?_⟩
    intro j hj
    rcases Nat.lt_succ_iff_lt_or_eq.mp hj with hlt | rfl
    · exact hnone.2 j hlt
    · exact hskip
  announce      := by
    intro i hr₀ s s' hr hlt hsel hs hcall
    obtain ⟨hhr, henv⟩ := invoke_some hcall
    have hok : failed hr = false := by
      rw [hhr]
      exact failed_sOk
    simp only [hok, Bool.false_eq_true, if_false]
    rw [henv]
    refine hs.imp_right fun hnone => ⟨hnone.1, rfl, ?_⟩
    have hhead := TsexecAction.head?_selected hlt hsel hnone.2
    exact Option.some.inj (hhead.symm.trans hfirst)
  before        := by
    intro i s s' hr flags hs hcall
    obtain ⟨hhr, henv⟩ := invoke_routine (r := .before s.env.table.index) hcall rfl
    have hok : failed hr = false := by
      rw [hhr]
      exact failed_stalePe (.inr fun i => nofun)
    simp only [hok, Bool.false_eq_true, if_false]
    rw [henv]
    rcases hs with hleak | ⟨htls, hindex⟩
    · exact .inl (leaks_runRoutine hleak)
    · exact .inr ⟨tls_stalePe htls, hindex⟩
  test          := by
    intro i s s' hr flags hs hcall
    obtain ⟨hhr, henv⟩ := invoke_routine (r := .test i) hcall rfl
    rw [henv]
    rcases hs with hleak | ⟨htls, hindex, hi⟩
    · exact .inl (leaks_runRoutine hleak)
    · by_cases hmissing : a.fixture.routine (.test i) = 0
      · exact .inr ⟨tls_stalePe htls, hindex, hi, hmissing⟩
      · -- no Before routine has reset the slots
        have hown : stalePe.ownStorage (fun _ => readAndSet 1) a.fixture (.test i) = .zero := by
          simp [ownStorage, leaves, enters, Fixture.routine, hbefore]
        exact .inl (leaks_of_stale hmissing rfl htls hown)
  after         := by
    intro i s s' hrTestCase hr flags hs hcall
    obtain ⟨hhr, henv⟩ := invoke_routine (r := .after s.env.table.index) hcall rfl
    rw [henv]
    rcases hs with hleak | ⟨htls, hindex, rfl, hmissing⟩
    · exact leaks_runRoutine hleak
    · have hown : stalePe.ownStorage (fun _ => readAndSet 1) a.fixture (.after s.env.table.index) = .zero := by
        have hbefore' : a.fixture.routine (.before i) = 0 := hbefore
        simp [ownStorage, leaves, enters, hindex, hbefore', hmissing]
      exact leaks_of_stale (by exact hruns hmissing) rfl htls hown
  abandon       := fun hs _ => hs
  finish        := by
    intro i s hr hs _
    split
    · exact hs
    · exact .inl hs
  leave         := by
    rintro hr s (hleak | ⟨-, hnone⟩)
    · exact hleak
    · rw [TsexecAction.selected, List.head?_filter, List.find?_range_eq_some] at hfirst
      obtain ⟨hsel, hmem, -⟩ := hfirst
      rw [hnone i₀ (List.mem_range.mp hmem)] at hsel
      cases hsel
  teardown      := by
    intro fixtureShortCircuit hr s s' teardownHr flags hs hcall
    obtain ⟨-, henv⟩ := invoke_routine (r := .teardown) hcall rfl
    have hs' : Leaks a.fixture s'.env.user := by
      rw [henv]
      exact leaks_runRoutine hs
    split
    · exact hs'
    · exact hs'
  close         := fun hs => hs

end PeEnvironment

/-! ## The characterisation -/

open PeEnvironment

/-- The reads of every run, if the fixture resets the slots. -/
theorem ownReads_of_resets {a : TsexecAction} (hreset : a.ResetsSlots) (e : PeEnvironment (List Observation))
    (b : RoutineId → Prog) (tls : Storage) : ∀ x ∈ e.observations b a tls, e.OwnReads b a.fixture x := by
  have hstart : ∀ x ∈ ([] : List Observation), e.OwnReads b a.fixture x := by simp
  cases hv : e.isValidContext with
  | true  => exact (isolation b hv hreset).run hstart
  | false =>
      have hv' : (e.observing b).host.isValidContext = false := hv
      have hrun : ((e.observing b).run a tls []).2.env.user = [] := by
        simp [PeEnvironment.run, runFixtureExecutionAction, hv']
      rw [observations, hrun]
      exact hstart

/-- **Isolation of the slots**: the routines of a fixture read only what their own test case has written,
    whatever the routines do, iff it has a Before routine or never calls a routine of a test case. -/
theorem isolated_iff (a : TsexecAction) : a.Isolated ↔ a.ResetsSlots := by
  constructor
  · intro h
    by_contra hreset
    simp only [TsexecAction.ResetsSlots, not_or, not_forall, not_and, ne_eq, not_not] at hreset
    obtain ⟨hbefore, i, hfirst, hruns⟩ := hreset
    obtain ⟨x, hx, hbad⟩ := (leak hbefore hfirst hruns).run
      (s := { env := { table := ⟨0, 0⟩, tls := ⟨1, 0⟩, user := [] }, trace := [] }) rfl
    exact hbad (h.ownReads stalePe (fun _ => readAndSet 1) ⟨1, 0⟩ x hx)
  · intro hreset
    refine ⟨ownReads_of_resets hreset, ?_⟩
    intro e b b' tls tls' x hx y hy hroutine hagree
    rw [ownReads_of_resets hreset e b tls x hx, ownReads_of_resets hreset e b' tls' y hy, ← hroutine,
      ownStorage_congr hagree, hagree.1]

/-- A fixture with the other routines, but no Before, and one test case. -/
def withoutBefore : TsexecAction where
  fixture :=
    { name := "Fixture", setupRoutine := 1, teardownRoutine := 2, beforeRoutine := 0, afterRoutine := 4,
      flags := 0#32, testCases := [⟨"Test", 5⟩] }
  flags         := 0#32
  testCaseIndex := none
  index_lt _ h  := nomatch h

/-- The test routine reads what Setup has written. -/
theorem setup_leaks : ¬withoutBefore.Isolated := by
  intro h
  have hx : (⟨.test 0, [⟨0#32, 1⟩]⟩ : Observation) ∈
      stalePe.observations (fun _ => readAndSet 1) withoutBefore .zero := by decide
  exact absurd (h.ownReads stalePe (fun _ => readAndSet 1) .zero _ hx) (by decide)

end Cfix
