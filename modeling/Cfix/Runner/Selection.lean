import Cfix.Fixture.Law
import Cfix.Runner.CommandLine

/-!
# `Runner.Selection` — which test cases are run (`cfixrun/runtest.c`)

`CfixrunsFilterFixtureByName` compares a fixture with the values of `-n` and `-p` and chooses a test case by its index,
or all of them by the index -1. The value of `-n` is copied to a buffer of fixed size, and a value that does not fit
matches nothing.
-/

namespace Cfix.Selection

open Cdiag (CString WCHAR wide)
open CommandLine (Options Occurrence Words FlagsOf lastValue IsValue)

abbrev ULONG := BitVec 32

/-! ## Names -/

/-- `0 == _wcsicmp( Left, Right )`, for a case mapping. -/
def sameName (lower : WCHAR → WCHAR) (left right : CString) : Bool := left.chars.map lower == right.chars.map lower

/-- `StrStrI`: where a string that is not empty occurs for the first time. -/
def strStrI (fold : WCHAR → WCHAR) : List WCHAR → List WCHAR → Option Nat
  | [],      _    => none
  | c :: cs, srch =>
    if (srch.map fold).isPrefixOf ((c :: cs).map fold) then some 0 else (strStrI fold cs srch).map (· + 1)

def dot : WCHAR := 0x2E#16

/-- A filter without the first dot and what follows it, and that without the dot. -/
def splitFilter (text : CString) : CString × Option CString :=
  if text.chars.contains dot then
    (⟨text.chars.takeWhile (· ≠ dot), fun c hc => text.nonzero c ((List.takeWhile_sublist _).subset hc)⟩,
      some ⟨(text.chars.dropWhile (· ≠ dot)).tail,
        fun c hc => text.nonzero c ((List.dropWhile_sublist _).subset (List.mem_of_mem_tail hc))⟩)
  else (text, none)

/-! ## The filter -/

/-- The values of `-n` and `-p`. The parser does not take empty ones. -/
structure FilterOptions where
  fixture       : Option CString
  fixturePrefix : Option CString
  nonempty      : ∀ text, fixturePrefix = some text → text.length ≠ 0

/-- A fixture of a module; `TestCaseCount` is a `ULONG`. -/
structure LoadedFixture extends Fixture where
  testCases_lt : testCases.length < 2 ^ 32

/-- `_countof( Filter )`. -/
def filterCch : Nat := 256

/-- `( ULONG ) -1`. -/
def allTestCases : ULONG := 0xFFFFFFFF#32

/-- The loop over the test cases. -/
def findTestCase (lower : WCHAR → WCHAR) (testCaseName : CString) : List TestCase → ULONG → Option ULONG
  | [],            _     => none
  | testCase :: rest, index =>
    if sameName lower testCaseName (wide testCase.name) then some index
    else findTestCase lower testCaseName rest (index + 1)

/-- `CfixrunsFilterFixtureByName`: what it returns, and `*TestCase`. -/
def filterFixtureByName (lower fold : WCHAR → WCHAR) (o : FilterOptions) (fixture : Fixture) : Bool × ULONG :=
  match o.fixture with
  | some value =>
    if filterCch ≤ value.length then (false, allTestCases)
    else
      match splitFilter value with
      | (filter, testCaseName) =>
        if !sameName lower filter (wide fixture.name) then (false, allTestCases)
        else
          match testCaseName with
          | none              => (true, allTestCases)
          | some testCaseName =>
            match findTestCase lower testCaseName fixture.testCases 0#32 with
            | some index => (true, index)
            | none       => (false, allTestCases)
  | none =>
    match o.fixturePrefix with
    | some text =>
      if strStrI fold (wide fixture.name).chars text.chars ≠ some 0 then (false, allTestCases) else (true, allTestCases)
    | none      => (true, allTestCases)

/-- The test case that an action is created for. -/
def chosen (testCase : ULONG) : Option Nat := if testCase = allTestCases then none else some testCase.toNat

/-! ## What is asked for -/

/-- `F` or `F.t`, where `F` has no dot. -/
inductive Names : CString → CString → Option CString → Prop where
  | fixture {value : CString} (h : dot ∉ value.chars) : Names value value none
  | testCase {value filter testCaseName : CString} (h : dot ∉ filter.chars)
      (hvalue : value.chars = filter.chars ++ dot :: testCaseName.chars) : Names value filter (some testCaseName)

/-- The names are the same, ignoring case. -/
def SameName (lower : WCHAR → WCHAR) (left right : CString) : Prop := left.chars.map lower = right.chars.map lower

/-- The first test case with the name. -/
structure FirstNamed (lower : WCHAR → WCHAR) (fixture : Fixture) (name : CString) (i : Nat) : Prop where
  found : ∃ testCase, fixture.testCases[i]? = some testCase ∧ SameName lower name (wide testCase.name)
  first : ∀ j < i, ∀ testCase, fixture.testCases[j]? = some testCase → ¬ SameName lower name (wide testCase.name)

/-- The fixture is asked for, with all test cases or one of them. -/
def Matches (lower fold : WCHAR → WCHAR) (o : FilterOptions) (fixture : Fixture) (testCase : Option Nat) : Prop :=
  match o.fixture with
  | some value => ∃ filter testCaseName, Names value filter testCaseName ∧ SameName lower filter (wide fixture.name) ∧
    match testCaseName, testCase with
    | none,      none   => True
    | some name, some i => FirstNamed lower fixture name i
    | _,         _      => False
  | none =>
    testCase = none ∧
      ∀ text, o.fixturePrefix = some text → text.chars.map fold <+: (wide fixture.name).chars.map fold

/-- The indices of the selected test cases. -/
def selection (fixture : Fixture) : Option Nat → List Nat
  | none   => List.range fixture.testCases.length
  | some i => [i]

/-- The test cases whose routines are called. -/
def testCasesRun (calls : List Labelled) : List Nat :=
  calls.filterMap fun l =>
    match l.1 with
    | .test testCase => some testCase.index
    | _              => none

/-- On any host, the action runs test cases of the list only, in its order; if no call fails, it runs all of them. -/
def RunsExactly (a : TsexecAction) (testCases : List Nat) : Prop :=
  ∀ (σ : Type) (h : Host σ) (s : Run σ), ∃ calls,
    (runFixtureExecutionAction h a s).2.labels = s.labels ++ calls ∧ (testCasesRun calls).Sublist testCases ∧
    (h.isValidContext = true → (∀ l ∈ calls, failed l.2 = false) → testCasesRun calls = testCases)

/-- A fixture is accepted if and only if it is asked for, and its action runs what is asked for. -/
structure SelectsExactly (lower fold : WCHAR → WCHAR) (o : FilterOptions) (fixture : Fixture) : Prop where
  accepts : (filterFixtureByName lower fold o fixture).1 = true → ∃ testCase, Matches lower fold o fixture testCase
  selects : ∀ testCase, Matches lower fold o fixture testCase →
    (filterFixtureByName lower fold o fixture).1 = true ∧
      chosen (filterFixtureByName lower fold o fixture).2 = testCase ∧
      ∀ flags, ∃ a, createFixtureExecutionAction fixture flags (chosen (filterFixtureByName lower fold o fixture).2) true =
        .ok a ∧ a.fixture = fixture ∧ RunsExactly a (selection fixture testCase)

/-! ## Names and searches -/

section

variable {lower fold : WCHAR → WCHAR}

theorem sameName_iff {left right : CString} : sameName lower left right = true ↔ SameName lower left right := beq_iff_eq

theorem splitFilter_names (value : CString) : Names value (splitFilter value).1 (splitFilter value).2 := by
  unfold splitFilter
  by_cases h : dot ∈ value.chars
  · rw [if_pos (List.contains_iff_mem.mpr h)]
    refine .testCase (fun hmem => by simpa using List.mem_takeWhile_imp hmem) ?_
    have hne : value.chars.dropWhile (· ≠ dot) ≠ [] := by
      intro hnil
      have hall := List.dropWhile_eq_nil_iff.mp hnil dot h
      simp at hall
    have hhead : (value.chars.dropWhile (· ≠ dot)).head hne = dot := by
      have hnot := List.head_dropWhile_not (fun c => decide (c ≠ dot)) hne
      simpa using hnot
    have hcons := List.cons_head_tail hne
    rw [hhead] at hcons
    show value.chars = value.chars.takeWhile _ ++ dot :: (value.chars.dropWhile _).tail
    rw [hcons]
    exact List.takeWhile_append_dropWhile.symm
  · rw [if_neg (mt List.contains_iff_mem.mp h)]
    exact .fixture h

/-- A value is split in one way. -/
theorem Names.eq_splitFilter {value filter : CString} {testCaseName : Option CString}
    (h : Names value filter testCaseName) : splitFilter value = (filter, testCaseName) := by
  cases h with
  | fixture h => exact if_neg (mt List.contains_iff_mem.mp h)
  | @testCase _ name h hvalue =>
      have hmem : dot ∈ value.chars := by rw [hvalue]; simp
      have htake : value.chars.takeWhile (· ≠ dot) = filter.chars := by
        rw [hvalue, List.takeWhile_append_of_pos (fun c hc => by simpa using ne_of_mem_of_not_mem hc h)]
        simp
      have hdrop : (value.chars.dropWhile (· ≠ dot)).tail = name.chars := by
        rw [hvalue, List.dropWhile_append_of_pos (fun c hc => by simpa using ne_of_mem_of_not_mem hc h)]
        simp
      rw [splitFilter, if_pos (List.contains_iff_mem.mpr hmem)]
      cases filter
      cases name
      simp only [Prod.mk.injEq, CString.mk.injEq, Option.some.injEq]
      exact ⟨htake, hdrop⟩

theorem findTestCase_eq (name : CString) (testCases : List TestCase) (k : Nat) :
    findTestCase lower name testCases (BitVec.ofNat 32 k) =
      (testCases.findIdx? fun testCase => sameName lower name (wide testCase.name)).map fun i => BitVec.ofNat 32 (k + i) := by
  induction testCases generalizing k with
  | nil => rfl
  | cons testCase rest ih =>
      rw [findTestCase, List.findIdx?_cons]
      split
      · rfl
      · have hnext : BitVec.ofNat 32 k + 1 = BitVec.ofNat 32 (k + 1) := by rw [BitVec.ofNat_add]; rfl
        rw [hnext, ih, Option.map_map]
        congr 1
        funext i
        rw [Function.comp_apply, Nat.add_assoc, Nat.add_comm 1 i]

theorem firstNamed_iff {fixture : Fixture} {name : CString} {i : Nat} :
    FirstNamed lower fixture name i ↔
      (fixture.testCases.findIdx? fun testCase => sameName lower name (wide testCase.name)) = some i := by
  rw [List.findIdx?_eq_some_iff_getElem]
  constructor
  · rintro ⟨⟨testCase, hget, hsame⟩, hfirst⟩
    obtain ⟨hlt, rfl⟩ := List.getElem?_eq_some_iff.mp hget
    refine ⟨hlt, sameName_iff.mpr hsame, fun j hj => ?_⟩
    rw [sameName_iff]
    exact hfirst j hj _ (List.getElem?_eq_getElem (hj.trans hlt))
  · rintro ⟨hlt, hsame, hfirst⟩
    refine ⟨⟨_, List.getElem?_eq_getElem hlt, sameName_iff.mp hsame⟩, fun j hj testCase hget => ?_⟩
    obtain ⟨hj', rfl⟩ := List.getElem?_eq_some_iff.mp hget
    have hnot := hfirst j hj
    rwa [sameName_iff] at hnot

theorem FirstNamed.lt {fixture : Fixture} {name : CString} {i : Nat} (h : FirstNamed lower fixture name i) :
    i < fixture.testCases.length := by
  obtain ⟨testCase, hget, -⟩ := h.found
  exact (List.getElem?_eq_some_iff.mp hget).1

theorem Matches.lt {o : FilterOptions} {fixture : Fixture} {i : Nat} (h : Matches lower fold o fixture (some i)) :
    i < fixture.testCases.length := by
  unfold Matches at h
  cases hvalue : o.fixture with
  | none =>
      rw [hvalue] at h
      cases h.1
  | some value =>
      rw [hvalue] at h
      obtain ⟨filter, _ | name, -, -, hfirst⟩ := h
      · cases hfirst
      · exact FirstNamed.lt hfirst

/-- A string begins with another if that occurs for the first time at its start. -/
theorem strStrI_eq_zero {text srch : List WCHAR} (h : srch ≠ []) :
    strStrI fold text srch = some 0 ↔ srch.map fold <+: text.map fold := by
  cases text with
  | nil =>
      refine iff_of_false (by simp [strStrI]) fun hp => h ?_
      simpa using hp
  | cons c cs =>
      rw [strStrI, ← List.isPrefixOf_iff_prefix]
      split
      · rename_i hp
        exact iff_of_true rfl hp
      · rename_i hp
        refine iff_of_false ?_ hp
        cases strStrI fold cs srch <;> simp

end

/-! ## The run of an action -/

section

variable {o : Outcomes} {a : TsexecAction}

theorem testCasesRun_append (calls calls' : List Labelled) :
    testCasesRun (calls ++ calls') = testCasesRun calls ++ testCasesRun calls' := List.filterMap_append ..

/-- In its turn a test case is run once or, if the context or Before refuses it, not at all. -/
theorem testCasesRun_turn (i : Nat) :
    testCasesRun (o.turn a i) = if failed (o.beforeTestCaseStart i) || failed (o.before i) then [] else [i] := by
  unfold Outcomes.turn Outcomes.testCaseLabels
  cases hstart : failed (o.beforeTestCaseStart i) with
  | true => simp [testCasesRun]
  | false =>
      cases hbefore : failed (o.before i) with
      | true =>
          cases hf : fatal (o.testCaseResult i) <;> simp [testCasesRun]
      | false =>
          cases hf : fatal (o.testCaseResult i) <;> simp [testCasesRun]

theorem testCasesRun_turns (l : List Nat) : (testCasesRun (l.flatMap (o.turn a))).Sublist l := by
  induction l with
  | nil => exact List.Sublist.refl _
  | cons i l ih =>
      rw [List.flatMap_cons, testCasesRun_append, testCasesRun_turn]
      split
      · exact ih.cons i
      · exact ih.cons_cons i

/-- Where every call of the loop succeeds, no test case stops it. -/
theorem testCasesRun_accepted {l : List Nat} (h : ∀ e ∈ l.flatMap (o.turn a), failed e.2 = false) :
    testCasesRun (l.flatMap (o.turn a)) = l ∧ ∀ i ∈ l, o.stopsAt a i = false := by
  induction l with
  | nil => exact ⟨rfl, fun _ h => absurd h List.not_mem_nil⟩
  | cons i l ih =>
      rw [List.flatMap_cons] at h ⊢
      obtain ⟨hrest, hstops⟩ := ih fun e he => h e (List.mem_append_right _ he)
      have hturn : ∀ e ∈ o.turn a i, failed e.2 = false := fun e he => h e (List.mem_append_left _ he)
      have hstart : failed (o.beforeTestCaseStart i) = false := by
        refine hturn (.beforeTestCaseStart ⟨a.fixture, i⟩, o.beforeTestCaseStart i) ?_
        rw [Outcomes.turn]
        exact List.mem_cons_self
      have hcases : ∀ e ∈ o.testCaseLabels a.fixture i, failed e.2 = false := by
        intro e he
        refine hturn e ?_
        rw [Outcomes.turn, if_neg (by simp [hstart])]
        simp [he]
      have hbefore : failed (o.before i) = false := by
        refine hcases (.before, o.before i) ?_
        rw [Outcomes.testCaseLabels]
        exact List.mem_cons_self
      have htest : failed (o.test i) = false := by
        refine hcases (.test ⟨a.fixture, i⟩, o.test i) ?_
        rw [Outcomes.testCaseLabels, if_neg (by simp [hbefore])]
        simp
      have hafter : failed (o.after i) = false := by
        refine hcases (.after, o.after i) ?_
        rw [Outcomes.testCaseLabels, if_neg (by simp [hbefore])]
        simp
      have hresult : failed (o.testCaseResult i) = false := by simp [Outcomes.testCaseResult, hbefore, htest, hafter]
      refine ⟨?_, fun j hj => ?_⟩
      · rw [testCasesRun_append, testCasesRun_turn, hrest, hstart, hbefore]
        rfl
      · rcases List.mem_cons.mp hj with rfl | hj
        · simp [Outcomes.stopsAt, hstart, hresult]
        · exact hstops j hj

/-- If no turn that comes stops the loop, all turns come. -/
theorem reached_eq_selected (h : ∀ i ∈ o.reached a, o.stopsAt a i = false) : o.reached a = a.selected := by
  cases hany : a.selected.any (o.stopsAt a) with
  | true =>
      obtain ⟨pre, i, htake, -, -, hi⟩ := TakeThrough.takeThrough_of_any hany
      have hmem : i ∈ o.reached a := by
        rw [Outcomes.reached, htake]
        exact List.mem_append_right pre List.mem_cons_self
      rw [h i hmem] at hi
      cases hi
  | false => exact TakeThrough.takeThrough_eq_self fun i hi => by simpa using List.any_eq_false.mp hany i hi

/-- The test cases of a run are those of its turns. -/
theorem testCasesRun_fixtureLabels (o : Outcomes) (a : TsexecAction) :
    (testCasesRun (o.fixtureLabels a)).Sublist a.selected := by
  have hnone : ([] : List Nat).Sublist a.selected := List.nil_sublist _
  unfold Outcomes.fixtureLabels
  cases hv : o.isValidContext with
  | false => exact hnone
  | true =>
      cases hb : failed o.beforeFixtureStart with
      | true => exact hnone
      | false =>
          cases hs : (o.setup == eSetupRoutineFailed || o.setup == eTestrunAborted) with
          | true => exact hnone
          | false =>
              cases hf : failed o.setup with
              | true => exact hnone
              | false =>
                  have hturns : (testCasesRun ((o.reached a).flatMap (o.turn a))).Sublist a.selected :=
                    (testCasesRun_turns _).trans (TakeThrough.takeThrough_prefix_self _ _).sublist
                  cases hany : (o.reached a).any o.fatalAt <;> simpa [testCasesRun] using hturns

/-- Where every call succeeds, the turn of every selected test case comes. -/
theorem testCasesRun_of_succeed (hv : o.isValidContext = true)
    (hall : ∀ l ∈ o.fixtureLabels a, failed l.2 = false) : testCasesRun (o.fixtureLabels a) = a.selected := by
  have hb : failed o.beforeFixtureStart = false := by
    refine hall (.beforeFixtureStart a.fixture, o.beforeFixtureStart) ?_
    simp [Outcomes.fixtureLabels, hv]
  have hs : failed o.setup = false := by
    refine hall (.setup, o.setup) ?_
    simp [Outcomes.fixtureLabels, hv, hb]
  have hcode : (o.setup == eSetupRoutineFailed || o.setup == eTestrunAborted) = false := by
    rw [Bool.or_eq_false_iff, beq_eq_false_iff_ne, beq_eq_false_iff_ne]
    constructor
    · rintro h
      rw [h] at hs
      cases hs
    · rintro h
      rw [h] at hs
      cases hs
  have hlabels : o.fixtureLabels a = (.beforeFixtureStart a.fixture, o.beforeFixtureStart) :: (.setup, o.setup) ::
      ((o.reached a).flatMap (o.turn a) ++ if (o.reached a).any o.fatalAt then []
        else [(.teardown, o.teardown), (.afterFixtureFinish a.fixture, sOk)]) := by
    simp only [Outcomes.fixtureLabels, hv, hb, hs, hcode, Bool.not_true, Bool.false_eq_true, if_false]
  obtain ⟨hruns, hstops⟩ := testCasesRun_accepted (o := o) (a := a) (l := o.reached a) fun e he => by
    refine hall e ?_
    rw [hlabels]
    simp only [List.mem_cons, List.mem_append]
    exact .inr (.inr (.inl he))
  have hreached : o.reached a = a.selected := reached_eq_selected hstops
  rw [hlabels]
  have hend : testCasesRun (if (o.reached a).any o.fatalAt then []
      else [(.teardown, o.teardown), (.afterFixtureFinish a.fixture, sOk)]) = [] := by
    cases (o.reached a).any o.fatalAt <;> rfl
  have hopen : testCasesRun [(.beforeFixtureStart a.fixture, o.beforeFixtureStart), (.setup, o.setup)] = [] := rfl
  calc testCasesRun (_ :: _ :: (_ ++ _))
      = testCasesRun [(.beforeFixtureStart a.fixture, o.beforeFixtureStart), (.setup, o.setup)] ++
          (testCasesRun ((o.reached a).flatMap (o.turn a)) ++ _) := by
        rw [← testCasesRun_append, ← testCasesRun_append]
        rfl
    _ = a.selected := by rw [hopen, hruns, hend, hreached, List.nil_append, List.append_nil]

/-- **The action runs the test cases that its index selects.** -/
theorem runsExactly_selected (a : TsexecAction) : RunsExactly a a.selected := by
  intro σ h s
  obtain ⟨o, ho⟩ := h.exists_follows a s
  refine ⟨o.fixtureLabels a, ho.spec.1, testCasesRun_fixtureLabels o a, ?_⟩
  intro hvalid hall
  obtain ⟨hv, -, -, -, -⟩ := ho
  exact testCasesRun_of_succeed (hv.symm.trans hvalid) hall

theorem selected_eq_selection (a : TsexecAction) : a.selected = selection a.fixture a.testCaseIndex := by
  unfold TsexecAction.selected
  cases h : a.testCaseIndex with
  | none =>
      refine List.filter_eq_self.mpr fun i _ => ?_
      simp [TsexecAction.selects, h]
  | some i =>
      have hsel : ∀ j, a.selects j = (i == j) := fun j => by simp [TsexecAction.selects, h]
      have hnone : ∀ l : List Nat, i ∉ l → l.filter a.selects = [] := by
        intro l hl
        refine List.filter_eq_nil_iff.mpr fun j hj => ?_
        rw [hsel, beq_iff_eq]
        rintro rfl
        exact hl hj
      rw [TakeThrough.filter_range_split (a.index_lt i h) (by simp [hsel]), hnone _ (by simp), hnone _ (by simp)]
      rfl

end

/-! ## The filter and its options -/

section

variable {lower fold : WCHAR → WCHAR} {o : FilterOptions}

/-- No value that the parser takes is empty. -/
def Filled (sc : CommandLine.Scan) : Prop := ∀ m text, sc.options.value m = some text → text.length ≠ 0

theorem Filled.scanArg {arg : CString} {sc sc' : CommandLine.Scan} (h : Filled sc) (hn : arg.length ≠ 0)
    (hok : CommandLine.scanArg arg sc = .ok sc') : Filled sc' := by
  cases hs : sc.state with
  | expectAny =>
      obtain ⟨flag, -, rfl⟩ := CommandLine.scanArg_any hs hn hok
      rcases flag with (_ | _) | (_ | _) <;> exact h
  | expectValue target =>
      obtain ⟨-, rfl⟩ := CommandLine.scanArg_value hs hn hok
      cases target with
      | none => exact h
      | some m =>
          intro m' text hvalue
          by_cases hm : m' = m
          · subst hm
            simp only [CommandLine.Options.setValue, Function.update_self, Option.some.injEq] at hvalue
            exact hvalue ▸ hn
          · simp only [CommandLine.Options.setValue, Function.update_of_ne hm] at hvalue
            exact h m' text hvalue

theorem Filled.scanLast {arg : CString} {sc sc' : CommandLine.Scan} (h : Filled sc)
    (hok : CommandLine.scanLast arg sc = .ok sc') : Filled sc' := by
  unfold CommandLine.scanLast at hok
  split at hok
  · cases hok
  · cases hok
    exact h

theorem Filled.scanArgs {args : List CString} {previous : CString} {sc : CommandLine.Scan} (h : Filled sc) :
    ∀ sc', (CommandLine.scanArgs previous args sc = .ok sc' ∨ CommandLine.scanArgs previous args sc = .error sc') →
      Filled sc' := by
  induction args generalizing previous sc with
  | nil =>
      rintro sc' (hok | hok)
      · cases hok
        exact h
      · cases hok
  | cons arg rest ih =>
      intro sc' hres
      rw [CommandLine.scanArgs] at hres
      by_cases hn : arg.length = 0
      · rw [if_pos hn] at hres
        exact ih h sc' hres
      · rw [if_neg hn] at hres
        cases hstep : (if rest.isEmpty then CommandLine.scanLast arg sc else CommandLine.scanArg arg sc) with
        | error refusal =>
            rw [hstep] at hres
            rcases hres with hres | hres <;> cases hres
            exact h
        | ok mid =>
            rw [hstep] at hres
            refine ih ?_ sc' hres
            split at hstep
            · exact h.scanLast hstep
            · exact h.scanArg hn hstep

theorem checkExe_options {sc sc' : CommandLine.Scan} {accepted : Bool}
    (h : CommandLine.checkExe lower sc = .ok (accepted, sc')) : sc'.options = sc.options := by
  unfold CommandLine.checkExe at h
  repeat' split at h
  all_goals first
    | cases h
      rfl
    | cases h

theorem parseCommandLine_filled {argv : List CString} {accepted : Bool} {sc : CommandLine.Scan}
    (h : CommandLine.parseCommandLine lower argv = .ok (accepted, sc)) : Filled sc := by
  have hinitial : Filled .initial := fun _ _ hvalue => nomatch hvalue
  cases argv with
  | nil =>
      have hcheck : CommandLine.checkExe lower .initial = .ok (accepted, sc) := h
      intro m text
      rw [checkExe_options hcheck]
      exact hinitial m text
  | cons program args =>
      rw [CommandLine.parseCommandLine] at h
      cases hscan : CommandLine.scanArgs program args .initial with
      | error sc' =>
          rw [hscan] at h
          cases h
          exact hinitial.scanArgs sc (.inr hscan)
      | ok sc' =>
          rw [hscan] at h
          intro m text
          rw [checkExe_options h]
          exact hinitial.scanArgs sc' (.inl hscan) m text

/-- The options of a command line. -/
def FilterOptions.ofCommandLine {argv : List CString} {accepted : Bool} {sc : CommandLine.Scan}
    (h : CommandLine.parseCommandLine lower argv = .ok (accepted, sc)) : FilterOptions where
  fixture       := sc.options.value .fixture
  fixturePrefix := sc.options.value .fixturePrefix
  nonempty      := parseCommandLine_filled h .fixturePrefix

@[simp] theorem chosen_allTestCases : chosen allTestCases = none := if_pos rfl

/-- The index of a test case is not taken for all test cases. -/
theorem chosen_ofNat {i n : Nat} (hi : i < n) (hn : n < 2 ^ 32) : chosen (BitVec.ofNat 32 i) = some i := by
  have hto : (BitVec.ofNat 32 i).toNat = i := by
    rw [BitVec.toNat_ofNat]
    omega
  have hne : BitVec.ofNat 32 i ≠ allTestCases := by
    intro h
    have hval : i = allTestCases.toNat := by rw [← h, hto]
    have hall : allTestCases.toNat = 2 ^ 32 - 1 := rfl
    omega
  rw [chosen, if_neg hne, hto]

theorem findTestCase_some {f : LoadedFixture} {name : CString} {index : ULONG}
    (h : findTestCase lower name f.testCases 0#32 = some index) : ∃ i, chosen index = some i ∧ index = BitVec.ofNat 32 i := by
  have hfind : findTestCase lower name f.testCases (BitVec.ofNat 32 0) = _ := findTestCase_eq name f.testCases 0
  rw [show BitVec.ofNat 32 0 = (0#32 : ULONG) from rfl, h] at hfind
  obtain ⟨i, hi, hindex⟩ := Option.map_eq_some_iff.mp hfind.symm
  rw [Nat.zero_add] at hindex
  refine ⟨i, ?_, hindex.symm⟩
  rw [← hindex]
  exact chosen_ofNat (firstNamed_iff.mpr hi).lt f.testCases_lt

/-- The loop finds the first test case with the name. -/
theorem findTestCase_firstNamed {f : LoadedFixture} {name : CString} {i : Nat} :
    (findTestCase lower name f.testCases 0#32).map chosen = some (some i) ↔ FirstNamed lower f.toFixture name i := by
  have hfind : findTestCase lower name f.testCases (BitVec.ofNat 32 0) = _ := findTestCase_eq name f.testCases 0
  rw [firstNamed_iff, show (0#32 : ULONG) = BitVec.ofNat 32 0 from rfl, hfind, Option.map_map]
  constructor
  · intro h
    obtain ⟨j, hj, hchosen⟩ := Option.map_eq_some_iff.mp h
    have hlt := (firstNamed_iff.mpr hj).lt
    rw [Function.comp_apply, Nat.zero_add, chosen_ofNat hlt f.testCases_lt] at hchosen
    rw [hj, Option.some.inj hchosen]
  · intro h
    have hlt := (firstNamed_iff.mpr h).lt
    rw [h, Option.map_some, Function.comp_apply, Nat.zero_add, chosen_ofNat hlt f.testCases_lt]

/-- An accepted fixture is asked for. -/
theorem matches_of_accepted {f : LoadedFixture}
    (h : (filterFixtureByName lower fold o f.toFixture).1 = true) :
    Matches lower fold o f.toFixture (chosen (filterFixtureByName lower fold o f.toFixture).2) := by
  unfold filterFixtureByName at h ⊢
  unfold Matches
  cases hvalue : o.fixture with
  | some value =>
      simp only [hvalue] at h ⊢
      obtain ⟨filter, testCaseName, hsplit⟩ : ∃ filter testCaseName, splitFilter value = (filter, testCaseName) :=
        ⟨_, _, rfl⟩
      have hnames := splitFilter_names value
      rw [hsplit] at hnames h ⊢
      by_cases hlong : filterCch ≤ value.length
      · simp [hlong] at h
      · cases hsame : sameName lower filter (wide f.name) with
        | false => simp [hlong, hsame] at h
        | true =>
            have hsame' := sameName_iff.mp hsame
            refine ⟨filter, testCaseName, hnames, hsame', ?_⟩
            cases testCaseName with
            | none => simp [hlong]
            | some name =>
                cases hfind : findTestCase lower name f.testCases 0#32 with
                | none => simp [hlong, hsame, hfind] at h
                | some index =>
                    obtain ⟨i, hi, rfl⟩ := findTestCase_some hfind
                    simp only [if_neg hlong, hfind, Bool.not_true, Bool.false_eq_true, if_false, hi]
                    exact findTestCase_firstNamed.mp (by rw [hfind, Option.map_some, hi])
  | none =>
      simp only [hvalue] at h ⊢
      cases htext : o.fixturePrefix with
      | none => exact ⟨by simp, fun _ h => nomatch h⟩
      | some text =>
          simp only [htext] at h ⊢
          have hne : text.chars ≠ [] := fun hnil => o.nonempty text htext (by rw [CString.length, hnil]; rfl)
          by_cases hstr : strStrI fold (wide f.name).chars text.chars = some 0
          · refine ⟨by simp [hstr], ?_⟩
            rintro _ ⟨⟩
            exact (strStrI_eq_zero hne).mp hstr
          · simp [hstr] at h

/-- A fixture that is asked for is accepted if the value of `-n` fits. -/
theorem accepted_of_matches {f : LoadedFixture} {testCase : Option Nat}
    (hfits : ∀ value, o.fixture = some value → value.length < filterCch)
    (h : Matches lower fold o f.toFixture testCase) :
    (filterFixtureByName lower fold o f.toFixture).1 = true ∧
      chosen (filterFixtureByName lower fold o f.toFixture).2 = testCase := by
  unfold Matches at h
  unfold filterFixtureByName
  cases hvalue : o.fixture with
  | some value =>
      simp only [hvalue] at h ⊢
      obtain ⟨filter, testCaseName, hnames, hsame, hcase⟩ := h
      rw [hnames.eq_splitFilter, if_neg (Nat.not_le.mpr (hfits value hvalue))]
      have hsame' := sameName_iff.mpr hsame
      cases testCaseName with
      | none =>
          cases testCase with
          | none   => simp [hsame']
          | some i => cases hcase
      | some name =>
          cases testCase with
          | none   => cases hcase
          | some i =>
              obtain ⟨index, hfind, hchosen⟩ := Option.map_eq_some_iff.mp (findTestCase_firstNamed.mpr hcase)
              simp [hsame', hfind, hchosen]
  | none =>
      simp only [hvalue] at h ⊢
      obtain ⟨rfl, hbegins⟩ := h
      cases htext : o.fixturePrefix with
      | none => simp
      | some text =>
          have hne : text.chars ≠ [] := fun hnil => o.nonempty text htext (by rw [CString.length, hnil]; rfl)
          simp [(strStrI_eq_zero hne).mpr (hbegins text htext)]

/-- **Fixture selection.** A fixture is accepted if and only if `-n` or `-p` ask for it, and its action runs exactly
    what is asked for, unless the value of `-n` is too long for the buffer and asks for the fixture. -/
theorem selectsExactly_iff (lower fold : WCHAR → WCHAR) (o : FilterOptions) (f : LoadedFixture) :
    SelectsExactly lower fold o f.toFixture ↔ ∀ value, o.fixture = some value →
      value.length < filterCch ∨ ¬ ∃ testCase, Matches lower fold o f.toFixture testCase := by
  constructor
  · intro h value hvalue
    by_contra hnot
    obtain ⟨hlong, testCase, hmatches⟩ := not_or.mp hnot |>.imp_right not_not.mp
    have haccepted := (h.selects testCase hmatches).1
    rw [filterFixtureByName, hvalue] at haccepted
    simp only [if_pos (Nat.not_lt.mp hlong)] at haccepted
    cases haccepted
  · intro h
    refine ⟨fun haccepted => ⟨_, matches_of_accepted haccepted⟩, fun testCase hmatches => ?_⟩
    have hfits : ∀ value, o.fixture = some value → value.length < filterCch := fun value hvalue =>
      (h value hvalue).resolve_right fun hnone => hnone ⟨testCase, hmatches⟩
    obtain ⟨haccepted, hchosen⟩ := accepted_of_matches hfits hmatches
    refine ⟨haccepted, hchosen, fun flags => ?_⟩
    rw [hchosen]
    have hlt : ∀ i, testCase = some i → i < f.testCases.length := by
      rintro i rfl
      exact hmatches.lt
    refine ⟨⟨f.toFixture, flags, testCase, hlt⟩, ?_, rfl, ?_⟩
    · rw [createFixtureExecutionAction, dif_pos hlt, if_pos rfl]
    · have hruns := runsExactly_selected ⟨f.toFixture, flags, testCase, hlt⟩
      rwa [selected_eq_selection] at hruns

end

/-! ## A test case with a long name -/

def longName : String := String.ofList (List.replicate 300 'a')

theorem wide_replicate (n : Nat) : (wide (String.ofList (List.replicate n 'a'))).chars = List.replicate n 0x61#16 := by
  have hchar : BitVec.ofNat 16 'a'.toNat = 0x61#16 := rfl
  have hne : ((0x61#16 : WCHAR) ≠ 0#16) := by decide
  show ((String.ofList (List.replicate n 'a')).toList.map fun c => BitVec.ofNat 16 c.toNat).takeWhile (· ≠ 0#16) = _
  rw [String.toList_ofList, List.map_replicate, hchar, List.takeWhile_replicate, if_pos (decide_eq_true hne)]

/-- A fixture with one test case, whose name has 300 characters. -/
def longNamed : LoadedFixture where
  name            := "Suite"
  setupRoutine    := 0
  teardownRoutine := 0
  beforeRoutine   := 0
  afterRoutine    := 0
  flags           := 0#32
  testCases       := [⟨longName, 1⟩]
  testCases_lt    := by decide

/-- `Suite.aaa…`. -/
def longNamedValue : CString where
  chars   := (wide "Suite").chars ++ dot :: List.replicate 300 0x61#16
  nonzero := by
    intro c hc
    rcases List.mem_append.mp hc with hc | hc
    · exact (wide "Suite").nonzero c hc
    · rcases List.mem_cons.mp hc with rfl | hc
      · decide
      · rw [List.eq_of_mem_replicate hc]
        decide

theorem longNamedValue_chars : longNamedValue.chars = (wide "Suite").chars ++ dot :: List.replicate 300 0x61#16 := by
  unfold longNamedValue
  exact Eq.refl _

theorem matches_longNamed :
    Matches id id ⟨some longNamedValue, none, fun _ h => nomatch h⟩ longNamed.toFixture (some 0) := by
  have hname : (wide longName).chars = List.replicate 300 0x61#16 := wide_replicate 300
  have hvalue : longNamedValue.chars = (wide "Suite").chars ++ dot :: (wide longName).chars := by
    rw [longNamedValue_chars, hname]
  have hsame : SameName id (wide longName) (wide longName) := Eq.refl _
  have hfirst : FirstNamed id longNamed.toFixture (wide longName) 0 :=
    ⟨⟨⟨longName, 1⟩, List.getElem?_cons_zero, hsame⟩, fun j hj => absurd hj (Nat.not_lt_zero j)⟩
  exact ⟨wide "Suite", some (wide longName), .testCase (by decide) hvalue, rfl, hfirst⟩

/-- The only test case of the fixture cannot be asked for. -/
theorem not_selectsExactly_longNamed :
    ¬ SelectsExactly id id ⟨some longNamedValue, none, fun _ h => nomatch h⟩ longNamed.toFixture := by
  intro h
  have hlong : filterCch ≤ longNamedValue.length := by
    rw [filterCch, CString.length, longNamedValue_chars, List.length_append, List.length_cons, List.length_replicate]
    omega
  have haccepted := (h.selects (some 0) matches_longNamed).1
  simp only [filterFixtureByName, if_pos hlong] at haccepted
  cases haccepted

end Cfix.Selection
