import Cfix.Cdiag.FormatString

/-!
# `Cdiag.FormatSpace` — formatting stays inside of its buffers

What the scanner writes for each character of a template does not depend on the buffer: a step translates
a variable or not, and copies the character or not. `emission` is all that is written, and from its length follows
whether the function succeeds.
-/

namespace Cfix.Cdiag

open Cfix.Events (Width)

variable {β : Type}

/-! ## Accesses -/

@[simp] theorem exit_ok_bind {α γ : Type} (a : α) (f : α → Except Exit γ) : (Except.ok a >>= f) = f a := rfl

@[simp] theorem exit_error_bind {α γ : Type} (e : Exit) (f : α → Except Exit γ) :
    ((Except.error e : Except Exit α) >>= f) = .error e := rfl

@[simp] theorem access_some {α : Type} (f : MemoryFault) (a : α) : access f (some a) = .ok a := rfl

theorem sizeT_sub {w : Width} {hi lo : Nat} (hle : lo ≤ hi) (hlt : hi < 2 ^ w.bits) : sizeT w hi lo = hi - lo := by
  rw [sizeT, show hi + 2 ^ w.bits - lo = hi - lo + 2 ^ w.bits by omega, Nat.add_mod_right, Nat.mod_eq_of_lt (by omega)]

theorem pow_bits_ge (w : Width) : 2 ^ 32 ≤ 2 ^ w.bits := by
  refine Nat.pow_le_pow_right (by decide) ?_
  cases w <;> decide

/-- What is read up to the terminator, and that it is the terminator at the end only. -/
theorem CString.read_of_le {s : CString} {index : Nat} (h : index ≤ s.length) :
    ∃ c, s.read index = some c ∧ (c ≠ 0#16 → index < s.length) := by
  rcases Nat.lt_or_eq_of_le h with hlt | rfl
  · exact ⟨s.chars[index], by rw [read_of_lt s hlt, List.getElem?_eq_getElem hlt], fun _ => hlt⟩
  · exact ⟨0#16, s.read_length, fun hne => absurd rfl hne⟩

/-! ## Comparing and finding names -/

section Names

variable {lib : CLibrary β} {w : Width} {template : CString}

/-- **A comparison stays inside of both strings**, whatever the count is. -/
theorem compareLoop_ok (hzero : lib.towlower 0#16 = 0#16) {dst : List WCHAR} {index : Nat} (maxCch : Nat)
    (h : index ≤ template.length) : ∃ order, compareLoop lib w template (dst ++ [0#16]) index maxCch = .ok order := by
  induction dst generalizing index maxCch with
  | nil =>
      obtain ⟨c, hread, -⟩ := CString.read_of_le h
      exact ⟨_, by simp only [List.nil_append, compareLoop, hread, access_some, exit_ok_bind, hzero, ne_eq,
        not_true_eq_false, false_and, and_false, if_false]; rfl⟩
  | cons d dst ih =>
      obtain ⟨c, hread, hlt⟩ := CString.read_of_le h
      simp only [List.cons_append, compareLoop, hread, access_some, exit_ok_bind]
      split
      · rename_i hcond
        -- the characters are equal and no terminators
        have hc : c ≠ 0#16 := by
          rintro rfl
          rw [hzero] at hcond
          exact hcond.2.1 hcond.2.2
        exact ih _ (hlt hc)
      · exact ⟨_, rfl⟩

theorem getVariableBindingIndex_ok (hzero : lib.towlower 0#16 = 0#16) {variableName : Nat} (cch : Nat)
    (h : variableName ≤ template.length) (vars : List FormatVariable) (index : Nat) :
    ∃ found, getVariableBindingIndex lib w template variableName cch vars index = .ok found ∧
      ∀ i, found = some i → index ≤ i ∧ i < index + vars.length := by
  induction vars generalizing index with
  | nil => exact ⟨none, rfl, fun i hi => by cases hi⟩
  | cons var vars ih =>
      obtain ⟨order, hcompare⟩ : ∃ order, compareString lib w var.name template variableName cch = .ok order :=
        compareLoop_ok hzero cch h
      simp only [getVariableBindingIndex, hcompare, exit_ok_bind]
      split
      · refine ⟨some index, rfl, fun i hi => ?_⟩
        rw [← Option.some.inj hi, List.length_cons]
        omega
      · obtain ⟨found, hfound, hrange⟩ := ih (index + 1)
        refine ⟨found, hfound, fun i hi => ?_⟩
        have hrange := hrange i hi
        rw [List.length_cons]
        omega

end Names

/-! ## The text of a variable -/

section Format

variable (lib : CLibrary β) (w : Width) (vars : List FormatVariable) (bindings : List β) (template : CString)

/-- The formats are suitable for the values. -/
def Printable : Prop :=
  ∀ (i : Nat) (var : FormatVariable) (binding : β), vars[i]? = some var → bindings[i]? = some binding →
    ∃ text, lib.print var.format binding = .ok text

/-- The text of the variable with an index. -/
def textAt (i : Nat) : List WCHAR :=
  match vars[i]?, bindings[i]? with
  | some var, some binding => (lib.print var.format binding).toOption.getD []
  | _, _                   => []

/-- What is written for the name between two indices of the template: nothing if it is not found. -/
def variableText (begin_ end_ : Nat) : List WCHAR :=
  match getVariableBindingIndex lib w template begin_ (sizeT w end_ begin_) vars 0 with
  | .ok (some i)         => textAt lib vars bindings i
  | .ok none | .error _ => []

variable {lib w vars bindings template}

theorem snwprintf_fits (done : List WCHAR) {rest text : List WCHAR} {count : Nat} (hrest : count < rest.length)
    (h : text.length ≤ count) :
    ∃ rest', rest'.length + text.length = rest.length ∧
      snwprintf ⟨done ++ rest, done.length⟩ count text = .ok (text.length, ⟨done ++ text ++ rest', done.length⟩) := by
  have hlength : (text ++ if text.length < count then [0#16] else []).length ≤ rest.length := by
    split <;> simp <;> omega
  refine ⟨(if text.length < count then [0#16] else []) ++
    rest.drop (text ++ if text.length < count then [0#16] else []).length, ?_, ?_⟩
  · rw [List.length_append, List.length_drop]
    rw [List.length_append] at hlength ⊢
    omega
  · simp only [snwprintf, if_pos h]
    rw [Buffer.write_append _ hlength]
    simp

theorem snwprintf_cut (done : List WCHAR) {rest text : List WCHAR} {count : Nat} (hrest : count < rest.length)
    (h : ¬ text.length ≤ count) :
    ∃ out, snwprintf ⟨done ++ rest, done.length⟩ count text = .ok (-1, out) := by
  have hlength : (text.take count).length ≤ rest.length := by
    rw [List.length_take]
    omega
  refine ⟨⟨done ++ text.take count ++ rest.drop (text.take count).length, done.length⟩, ?_⟩
  simp only [snwprintf, if_neg h]
  rw [Buffer.write_append _ hlength]
  rfl

/-- A part of the function writes a text behind what is written already, if there is room for it, and otherwise
    returns. -/
def Writes (bufferEnd : Nat) (done text : List WCHAR) (run : Except Exit Output) : Prop :=
  (done.length + text.length ≤ bufferEnd →
    ∃ rest, (done ++ text).length + rest.length = bufferEnd + 1 ∧
      run = .ok ⟨done ++ text ++ rest, (done ++ text).length⟩) ∧
  (¬ done.length + text.length ≤ bufferEnd → run = .error (.returns eBufferTooSmall))

theorem writes_nil {bufferEnd : Nat} {done rest : List WCHAR} (hsize : done.length + rest.length = bufferEnd + 1)
    (hdone : done.length ≤ bufferEnd) : Writes bufferEnd done [] (.ok ⟨done ++ rest, done.length⟩) := by
  refine ⟨fun _ => ⟨rest, by simpa using hsize, by simp⟩, fun hnot => absurd ?_ hnot⟩
  simpa using hdone

/-- **A variable is written if its text fits**, and otherwise the function returns. -/
theorem writes_handleVariable (hzero : lib.towlower 0#16 = 0#16) (hlength : bindings.length = vars.length)
    (hprint : Printable lib vars bindings) (end_ : Nat)
    {begin_ bufferEnd : Nat} (hbegin : begin_ ≤ template.length) {done rest : List WCHAR}
    (hsize : done.length + rest.length = bufferEnd + 1) (hdone : done.length ≤ bufferEnd)
    (hend : bufferEnd < 2 ^ w.bits) :
    Writes bufferEnd done (variableText lib w vars bindings template begin_ end_)
      (handleVariable lib w vars bindings template (some begin_) end_ ⟨done ++ rest, done.length⟩ bufferEnd) := by
  obtain ⟨found, hfound, hrange⟩ := getVariableBindingIndex_ok (w := w) hzero (sizeT w end_ begin_) hbegin vars 0
  rw [variableText, hfound]
  cases found with
  | none =>
      have hrun : handleVariable lib w vars bindings template (some begin_) end_ ⟨done ++ rest, done.length⟩ bufferEnd =
          .ok ⟨done ++ rest, done.length⟩ := by
        simp only [handleVariable, access_some, exit_ok_bind, hfound]
      rw [hrun]
      exact writes_nil hsize hdone
  | some i =>
      obtain ⟨-, hi⟩ := hrange i rfl
      rw [Nat.zero_add] at hi
      have hvar : vars[i]? = some vars[i] := List.getElem?_eq_getElem hi
      have hi' : i < bindings.length := hlength ▸ hi
      have hbinding : bindings[i]? = some bindings[i] := List.getElem?_eq_getElem hi'
      obtain ⟨text, hprint⟩ := hprint i _ _ hvar hbinding
      have htext : textAt lib vars bindings i = text := by
        rw [textAt, hvar, hbinding]
        simp only [hprint]
        rfl
      have hcount : sizeT w bufferEnd done.length = bufferEnd - done.length := sizeT_sub hdone hend
      have hrest : bufferEnd - done.length < rest.length := by omega
      simp only [handleVariable, access_some, exit_ok_bind, hfound, hvar, hbinding, hprint, hcount, htext]
      constructor
      · intro hfits
        obtain ⟨rest', hrest', hwrite⟩ := snwprintf_fits done hrest (by omega : text.length ≤ bufferEnd - done.length)
        refine ⟨rest', by rw [List.length_append]; omega, ?_⟩
        rw [hwrite]
        simp
      · intro hnot
        obtain ⟨out, hwrite⟩ := snwprintf_cut done hrest (by omega : ¬ text.length ≤ bufferEnd - done.length)
        rw [hwrite]
        rfl

/-! ## Steps of the scanner -/

/-- What the scanner does for a character: the begin of the variable that it translates first, whether it copies
    the character then, and its state for the next one. -/
structure ScanStep where
  variableName : Option Nat
  copied       : Bool
  next         : Scan

variable (lib) in
def Scan.step (s : Scan) (cur : Nat) (c : WCHAR) : ScanStep :=
  if c = 0x25#16 then
    if s.variableName = some cur then
      { variableName := none, copied := true, next := { s with inVariable := false } }
    else
      { variableName := s.variableName, copied := false, next := { inVariable := true, variableName := some (cur + 1) } }
  else if s.inVariable && !lib.iswalnum c then
    { variableName := s.variableName, copied := true, next := { inVariable := false, variableName := none } }
  else { variableName := none, copied := !s.inVariable, next := s }

/-- Inside of a variable there is a name, which begins no later than here. -/
structure Scan.Valid (s : Scan) (cur : Nat) : Prop where
  named  : s.inVariable = true → s.variableName.isSome
  passed : ∀ b, s.variableName = some b → b ≤ cur

variable (lib) in
theorem Scan.Valid.step {s : Scan} {cur : Nat} (h : s.Valid cur) (c : WCHAR) :
    (s.step lib cur c).next.Valid (cur + 1) ∧ ∀ b, (s.step lib cur c).variableName = some b → b ≤ cur := by
  rw [Scan.step]
  have hpassed : ∀ b, s.variableName = some b → b ≤ cur + 1 := fun b hb => Nat.le_succ_of_le (h.passed b hb)
  split
  · split
    · exact ⟨⟨fun hin => (Bool.false_ne_true hin).elim, hpassed⟩, fun b hb => by cases hb⟩
    · exact ⟨⟨fun _ => rfl, fun b hb => by rw [← Option.some.inj hb]⟩, h.passed⟩
  · split
    · exact ⟨⟨fun hin => (Bool.false_ne_true hin).elim, fun b hb => by cases hb⟩, h.passed⟩
    · exact ⟨⟨h.named, hpassed⟩, fun b hb => by cases hb⟩

variable (lib w vars bindings template) in
/-- What is written for a character. -/
def piece (s : Scan) (cur : Nat) (c : WCHAR) : List WCHAR :=
  ((s.step lib cur c).variableName.elim [] fun b => variableText lib w vars bindings template b cur) ++
    if (s.step lib cur c).copied then [c] else []

variable (lib w vars bindings template) in
/-- What is written from a character on. -/
def emission : List WCHAR → Nat → Scan → List WCHAR
  | [],      cur, s =>
    if s.inVariable then s.variableName.elim [] fun b => variableText lib w vars bindings template b cur else []
  | c :: cs, cur, s =>
    piece lib w vars bindings template s cur c ++ emission cs (cur + 1) (s.step lib cur c).next

variable (lib w vars bindings template) in
/-- What is written from a character on, before the last one. -/
def emissionBeforeLast : List WCHAR → Nat → Scan → List WCHAR
  | [],      _,   _ => []
  | [_],     _,   _ => []
  | c :: cs, cur, s =>
    piece lib w vars bindings template s cur c ++ emissionBeforeLast cs (cur + 1) (s.step lib cur c).next

/-- Copying the character, or not. -/
def Output.putIf (copied : Bool) (c : WCHAR) (out : Output) : Except Exit Output := if copied then out.put c else .ok out

/-- **The loop does the step of each character**, if there is still room. -/
theorem formatLoop_cons {bufferEnd cur : Nat} {s : Scan} (h : s.Valid cur) (c : WCHAR) (cs : List WCHAR) (out : Output) :
    formatLoop lib w vars bindings template bufferEnd (c :: cs) cur s out =
      if bufferEnd ≤ out.ptr then .error (.returns eBufferTooSmall)
      else (do
        let out ← (s.step lib cur c).variableName.elim (.ok out) fun b =>
          handleVariable lib w vars bindings template (some b) cur out bufferEnd
        let out ← out.putIf (s.step lib cur c).copied c
        formatLoop lib w vars bindings template bufferEnd cs (cur + 1) (s.step lib cur c).next out) := by
  rw [formatLoop, Scan.step]
  by_cases hfull : bufferEnd ≤ out.ptr
  · rw [if_pos hfull, if_pos hfull]
  · rw [if_neg hfull, if_neg hfull]
    by_cases hpercent : c = 0x25#16
    · by_cases hescape : s.variableName = some cur
      · simp only [if_pos hpercent, if_pos hescape]
        rfl
      · simp only [if_pos hpercent, if_neg hescape]
        cases hname : s.variableName with
        | none   => rfl
        | some b => rfl
    · simp only [if_neg hpercent]
      cases hin : s.inVariable with
      | false => rfl
      | true  =>
          obtain ⟨b, hname⟩ := Option.isSome_iff_exists.mp (h.named hin)
          cases halnum : lib.iswalnum c with
          | false => simp [hname, Output.putIf]
          | true  => simp [Output.putIf]

theorem put_append (done : List WCHAR) {rest : List WCHAR} {ptr : Nat} (hptr : ptr = done.length) (hrest : 0 < rest.length) (c : WCHAR) :
    ∃ rest', rest'.length + 1 = rest.length ∧
      Output.put ⟨done ++ rest, ptr⟩ c = .ok ⟨done ++ c :: rest', (done ++ [c]).length⟩ := by
  obtain ⟨d, rest', rfl⟩ := List.exists_cons_of_length_pos hrest
  refine ⟨rest', rfl, ?_⟩
  rw [Output.put, hptr, Buffer.store_append]
  simp

section Room

variable {bufferEnd cur : Nat} {s : Scan} {done rest : List WCHAR}

/-- What follows fits behind what is written already: all of it, and what is before the last character with a cell
    to spare. -/
def Fits (lib : CLibrary β) (w : Width) (vars : List FormatVariable) (bindings : List β) (template : CString)
    (bufferEnd written : Nat) (cs : List WCHAR) (cur : Nat) (s : Scan) : Prop :=
  written + (emission lib w vars bindings template cs cur s).length ≤ bufferEnd ∧
    (cs ≠ [] → written + (emissionBeforeLast lib w vars bindings template cs cur s).length < bufferEnd)

/-- The character takes its room, and the rest has to fit behind it. -/
theorem fits_cons {written : Nat} {c : WCHAR} {cs : List WCHAR} (hfull : ¬ bufferEnd ≤ written) :
    Fits lib w vars bindings template bufferEnd written (c :: cs) cur s ↔
      Fits lib w vars bindings template bufferEnd (written + (piece lib w vars bindings template s cur c).length) cs
        (cur + 1) (s.step lib cur c).next := by
  rw [Fits, Fits, emission, List.length_append, ← Nat.add_assoc]
  refine and_congr_right (fun _ => ?_)
  cases cs with
  | nil => simpa [emissionBeforeLast] using hfull
  | cons d cs => simp [emissionBeforeLast, Nat.add_assoc]

/-- The step of a character writes its piece, if its variable fits. -/
theorem step_spec (hzero : lib.towlower 0#16 = 0#16) (hlength : bindings.length = vars.length)
    (hprint : Printable lib vars bindings) (hvalid : s.Valid cur)
    (hcur : cur ≤ template.length) (c : WCHAR) (hsize : done.length + rest.length = bufferEnd + 1)
    (hfull : ¬ bufferEnd ≤ done.length) (hend : bufferEnd < 2 ^ w.bits) :
    (∃ rest', (done ++ piece lib w vars bindings template s cur c).length + rest'.length = bufferEnd + 1 ∧
      ((s.step lib cur c).variableName.elim (.ok ⟨done ++ rest, done.length⟩) fun b =>
          handleVariable lib w vars bindings template (some b) cur ⟨done ++ rest, done.length⟩ bufferEnd) >>=
        Output.putIf (s.step lib cur c).copied c =
          .ok ⟨done ++ piece lib w vars bindings template s cur c ++ rest',
            (done ++ piece lib w vars bindings template s cur c).length⟩) ∨
      bufferEnd < done.length + (piece lib w vars bindings template s cur c).length ∧
        ((s.step lib cur c).variableName.elim (.ok ⟨done ++ rest, done.length⟩) fun b =>
          handleVariable lib w vars bindings template (some b) cur ⟨done ++ rest, done.length⟩ bufferEnd) =
          .error (.returns eBufferTooSmall) := by
  obtain ⟨-, hpassed⟩ := hvalid.step lib c
  rw [piece]
  generalize s.step lib cur c = step at *
  have htext : Writes bufferEnd done
      (step.variableName.elim [] fun b => variableText lib w vars bindings template b cur)
      (step.variableName.elim (.ok ⟨done ++ rest, done.length⟩) fun b =>
        handleVariable lib w vars bindings template (some b) cur ⟨done ++ rest, done.length⟩ bufferEnd) := by
    cases hname : step.variableName with
    | none   => exact writes_nil hsize (by omega)
    | some b =>
        have hbegin : b ≤ template.length := Nat.le_trans (hpassed b hname) hcur
        exact writes_handleVariable hzero hlength hprint cur hbegin hsize (by omega) hend
  generalize (step.variableName.elim [] fun b => variableText lib w vars bindings template b cur) = text at *
  by_cases hroom : done.length + text.length ≤ bufferEnd
  · left
    obtain ⟨rest', hrest', hrun⟩ := htext.1 hroom
    rw [hrun, exit_ok_bind]
    cases hcopied : step.copied with
    | false => exact ⟨rest', by simpa using hrest', by simp [Output.putIf]⟩
    | true  =>
        rw [List.length_append] at hrest'
        obtain ⟨rest'', hrest'', hput⟩ := put_append (done ++ text) rfl (by omega : 0 < rest'.length) c
        refine ⟨rest'', by simp; omega, ?_⟩
        rw [Output.putIf, if_pos rfl, hput]
        simp
  · right
    refine ⟨?_, htext.2 hroom⟩
    rw [List.length_append]
    omega

/-- The end of the template: the variable that is left, and the terminator. -/
theorem formatLoop_nil (hzero : lib.towlower 0#16 = 0#16) (hlength : bindings.length = vars.length)
    (hprint : Printable lib vars bindings)
    (hvalid : s.Valid template.length) (hsize : done.length + rest.length = bufferEnd + 1) (hend : bufferEnd < 2 ^ w.bits) :
    (Fits lib w vars bindings template bufferEnd done.length [] template.length s →
      ∃ rest', done.length + (emission lib w vars bindings template [] template.length s).length + 1 + rest'.length =
          bufferEnd + 1 ∧
        formatLoop lib w vars bindings template bufferEnd [] template.length s ⟨done ++ rest, done.length⟩ =
          .ok (done ++ emission lib w vars bindings template [] template.length s ++ 0#16 :: rest')) ∧
    (¬ Fits lib w vars bindings template bufferEnd done.length [] template.length s →
      formatLoop lib w vars bindings template bufferEnd [] template.length s ⟨done ++ rest, done.length⟩ =
        .error (.returns eBufferTooSmall)) := by
  have hloop : formatLoop lib w vars bindings template bufferEnd [] template.length s ⟨done ++ rest, done.length⟩ =
      if done.length ≤ bufferEnd then
        (if s.inVariable then
          handleVariable lib w vars bindings template s.variableName template.length ⟨done ++ rest, done.length⟩ bufferEnd
        else .ok ⟨done ++ rest, done.length⟩) >>= fun out => (out.put 0#16).map Output.buffer
      else .error (.returns eBufferTooSmall) := by
    rw [formatLoop]
    cases s.inVariable <;> rfl
  simp only [hloop, Fits, ne_eq, not_true_eq_false, false_implies, and_true]
  by_cases hdone : done.length ≤ bufferEnd
  · have htext : Writes bufferEnd done (emission lib w vars bindings template [] template.length s)
        (if s.inVariable then
          handleVariable lib w vars bindings template s.variableName template.length ⟨done ++ rest, done.length⟩ bufferEnd
        else .ok ⟨done ++ rest, done.length⟩) := by
      rw [emission]
      cases hin : s.inVariable with
      | false => exact writes_nil hsize hdone
      | true  =>
          obtain ⟨b, hname⟩ := Option.isSome_iff_exists.mp (hvalid.named hin)
          rw [hname]
          exact writes_handleVariable hzero hlength hprint template.length (hvalid.passed b hname) hsize hdone hend
    generalize emission lib w vars bindings template [] template.length s = text at *
    rw [if_pos hdone]
    constructor
    · intro hroom
      obtain ⟨rest', hrest', hrun⟩ := htext.1 hroom
      rw [List.length_append] at hrest'
      obtain ⟨rest'', hrest'', hput⟩ := put_append (done ++ text) rfl (by omega : 0 < rest'.length) 0#16
      refine ⟨rest'', by omega, ?_⟩
      rw [hrun, exit_ok_bind, hput]
      rfl
    · intro hroom
      rw [htext.2 hroom]
      rfl
  · rw [if_neg hdone]
    exact ⟨fun hroom => absurd (Nat.le_trans (Nat.le_add_right _ _) hroom) hdone, fun _ => rfl⟩

/-- **The loop writes what it emits if that fits**, and otherwise the function returns. -/
theorem formatLoop_spec (hzero : lib.towlower 0#16 = 0#16) (hlength : bindings.length = vars.length)
    (hprint : Printable lib vars bindings)
    (hvalid : s.Valid cur) {cs : List WCHAR} (hcur : cur + cs.length = template.length)
    (hsize : done.length + rest.length = bufferEnd + 1) (hend : bufferEnd < 2 ^ w.bits) :
    (Fits lib w vars bindings template bufferEnd done.length cs cur s →
      ∃ rest', done.length + (emission lib w vars bindings template cs cur s).length + 1 + rest'.length = bufferEnd + 1 ∧
        formatLoop lib w vars bindings template bufferEnd cs cur s ⟨done ++ rest, done.length⟩ =
          .ok (done ++ emission lib w vars bindings template cs cur s ++ 0#16 :: rest')) ∧
    (¬ Fits lib w vars bindings template bufferEnd done.length cs cur s →
      formatLoop lib w vars bindings template bufferEnd cs cur s ⟨done ++ rest, done.length⟩ =
        .error (.returns eBufferTooSmall)) := by
  induction cs generalizing cur s done rest with
  | nil =>
      obtain rfl : cur = template.length := by simpa using hcur
      exact formatLoop_nil hzero hlength hprint hvalid hsize hend
  | cons c cs ih =>
      rw [List.length_cons] at hcur
      rw [formatLoop_cons hvalid]
      by_cases hfull : bufferEnd ≤ done.length
      · rw [if_pos hfull]
        refine ⟨fun hroom => ?_, fun _ => rfl⟩
        have hlt := hroom.2 (List.cons_ne_nil c cs)
        omega
      · rw [if_neg hfull, fits_cons hfull]
        obtain ⟨hvalid', -⟩ := hvalid.step lib c
        rcases step_spec hzero hlength hprint hvalid (by omega : cur ≤ template.length) c hsize hfull hend with ⟨rest', hrest', hrun⟩ | ⟨hroom, hrun⟩
        · have hrest := ih hvalid' (by omega) hrest'
          rw [List.length_append] at hrest
          rw [← bind_assoc, hrun, exit_ok_bind, List.length_append, emission, List.length_append, ← Nat.add_assoc,
            ← List.append_assoc]
          exact hrest
        · rw [hrun, exit_error_bind]
          refine ⟨fun hfits => ?_, fun _ => rfl⟩
          have hle := Nat.le_trans (Nat.le_add_right _ _) hfits.1
          omega

end Room

/-! ## The function -/

/-- The state of the scanner before the first character. -/
def Scan.initial : Scan where
  inVariable   := false
  variableName := none

variable (lib w vars bindings template) in
/-- The expansion of the template: what is written if there is room for everything. -/
def expansion : List WCHAR := emission lib w vars bindings template template.chars 0 Scan.initial

variable (lib w vars bindings template) in
/-- The part of the expansion that is written before the last character of the template. -/
def expansionBeforeLast : List WCHAR := emissionBeforeLast lib w vars bindings template template.chars 0 Scan.initial

/-- **`CdiagpFormatString`** for a template that is valid. -/
theorem formatString_spec (hzero : lib.towlower 0#16 = 0#16) (hlength : bindings.length = vars.length)
    (hprint : Printable lib vars bindings)
    (hvars : vars ≠ []) (htemplate : isStringValid template 1 maxword false = true) {buffer : List WCHAR}
    (hbuffer : buffer ≠ []) (hsize : buffer.length < 2 ^ w.bits) :
    (Fits lib w vars bindings template (buffer.length - 1) 0 template.chars 0 Scan.initial →
      ∃ rest, (expansion lib w vars bindings template).length + 1 + rest.length = buffer.length ∧
        formatString lib w vars bindings template buffer =
          .ok (expansion lib w vars bindings template ++ 0#16 :: rest)) ∧
    (¬ Fits lib w vars bindings template (buffer.length - 1) 0 template.chars 0 Scan.initial →
      formatString lib w vars bindings template buffer = .error (.returns eBufferTooSmall)) := by
  have hpos : 0 < buffer.length := List.length_pos_of_ne_nil hbuffer
  have hvalid : Scan.initial.Valid 0 := ⟨fun h => (Bool.false_ne_true h).elim, fun b hb => by cases hb⟩
  have hroom : ([] : List WCHAR).length + buffer.length = buffer.length - 1 + 1 := by
    rw [List.length_nil]
    omega
  have hloop := formatLoop_spec hzero hlength hprint hvalid (Nat.zero_add _ : 0 + template.chars.length = template.length) hroom
    (by omega : buffer.length - 1 < 2 ^ w.bits)
  have hchecks : (vars.isEmpty || !isStringValid template 1 maxword false || buffer.isEmpty) = false := by
    simp [hvars, htemplate, hbuffer]
  have hrun : formatString lib w vars bindings template buffer =
      formatLoop lib w vars bindings template (buffer.length - 1) template.chars 0 Scan.initial
        ⟨[] ++ buffer, ([] : List WCHAR).length⟩ := by
    rw [formatString, if_neg (by rw [hchecks]; exact Bool.false_ne_true)]
    rfl
  rw [hrun, expansion]
  rw [List.length_nil] at hloop
  simp only [Nat.zero_add, List.nil_append] at hloop ⊢
  refine ⟨fun hfits => ?_, hloop.2⟩
  obtain ⟨rest, hrest, hloop⟩ := hloop.1 hfits
  exact ⟨rest, by omega, hloop⟩

/-- Other calls are rejected before anything is read or written. -/
theorem formatString_invalid {buffer : List WCHAR}
    (h : (vars.isEmpty || !isStringValid template 1 maxword false || buffer.isEmpty) = true) :
    formatString lib w vars bindings template buffer = .error (.returns eInvalidarg) := by
  rw [formatString, if_pos h]

/-- Whatever the template is, the function returns a code, or the buffer terminated. -/
theorem formatString_outcome (template : CString) (hzero : lib.towlower 0#16 = 0#16)
    (hlength : bindings.length = vars.length) (hprint : Printable lib vars bindings)
    {buffer : List WCHAR} (hsize : buffer.length < 2 ^ w.bits) :
    (∃ code, formatString lib w vars bindings template buffer = .error (.returns code)) ∨
      ∃ out, formatString lib w vars bindings template buffer = .ok out ∧ out.length = buffer.length ∧ 0#16 ∈ out := by
  cases hchecks : vars.isEmpty || !isStringValid template 1 maxword false || buffer.isEmpty with
  | true =>
      exact .inl ⟨_, formatString_invalid hchecks⟩
  | false =>
      simp only [Bool.or_eq_false_iff, Bool.not_eq_false', List.isEmpty_eq_false_iff] at hchecks
      obtain ⟨⟨hvars, htemplate⟩, hbuffer⟩ := hchecks
      obtain ⟨hfits, hnot⟩ := formatString_spec hzero hlength hprint hvars htemplate hbuffer hsize
      by_cases h : Fits lib w vars bindings template (buffer.length - 1) 0 template.chars 0 Scan.initial
      · obtain ⟨rest, hrest, hrun⟩ := hfits h
        refine .inr ⟨_, hrun, ?_, by simp⟩
        rw [List.length_append, List.length_cons]
        omega
      · exact .inl ⟨_, hnot h⟩

/-- **Formatting is memory safe**: there is no fault, and on success the buffer is terminated. -/
theorem formatString_safe (hzero : lib.towlower 0#16 = 0#16) (hlength : bindings.length = vars.length)
    (hprint : Printable lib vars bindings)
    {buffer : List WCHAR} (hsize : buffer.length < 2 ^ w.bits) :
    (∀ f, formatString lib w vars bindings template buffer ≠ .error (.fault f)) ∧
      ∀ out, formatString lib w vars bindings template buffer = .ok out → out.length = buffer.length ∧ 0#16 ∈ out := by
  obtain ⟨code, hcode⟩ | ⟨out, hout, hterminated⟩ := formatString_outcome template hzero hlength hprint hsize
  · rw [hcode]
    exact ⟨fun f h => (by cases h), fun out h => (by cases h)⟩
  · rw [hout]
    refine ⟨fun f h => (by cases h), fun out' hout' => ?_⟩
    rw [← Except.ok.inj hout']
    exact hterminated

/-! ### Texts of ASCII characters -/

/-- A C library for ASCII characters, where the values are texts for `%s`. -/
def asciiLibrary : CLibrary CString where
  towlower c         := if 0x41 ≤ c.toNat ∧ c.toNat ≤ 0x5A then c + 0x20#16 else c
  iswalnum c         :=
    (0x30 ≤ c.toNat && c.toNat ≤ 0x39) || (0x41 ≤ c.toNat && c.toNat ≤ 0x5A) || (0x61 ≤ c.toNat && c.toNat ≤ 0x7A)
  print format value := .ok (if format = percentS then value.chars else [])

/-- The variable `x`, which is a text. -/
def variableX : FormatVariable where
  name   := { chars := [0x78#16], nonzero := by simp }
  format := percentS

/-- The template `%x%`. -/
def templateX : CString where
  chars   := [0x25#16, 0x78#16, 0x25#16]
  nonzero := by simp

theorem asciiLibrary_printable (vars : List FormatVariable) (bindings : List CString) :
    Printable asciiLibrary vars bindings :=
  fun _ _ _ _ _ => ⟨_, rfl⟩

theorem formatString_safe_zeroLength :
    (∀ f, formatString asciiLibrary .w32 [variableX] [percentS] templateX (List.replicate 4 1#16) ≠ .error (.fault f)) ∧
      ∀ out, formatString asciiLibrary .w32 [variableX] [percentS] templateX (List.replicate 4 1#16) = .ok out →
        out.length = (List.replicate 4 1#16).length ∧ 0#16 ∈ out :=
  formatString_safe (by decide : asciiLibrary.towlower 0#16 = 0#16) (rfl : [percentS].length = [variableX].length)
    (asciiLibrary_printable _ _)
    (by rw [List.length_replicate]; decide : (List.replicate 4 1#16).length < 2 ^ Width.w32.bits)

/-! ## Room for the expansion -/

theorem length_emissionBeforeLast_le (cs : List WCHAR) (cur : Nat) (s : Scan) :
    (emissionBeforeLast lib w vars bindings template cs cur s).length ≤
      (emission lib w vars bindings template cs cur s).length := by
  induction cs generalizing cur s with
  | nil => exact Nat.zero_le _
  | cons c cs ih =>
      cases cs with
      | nil => exact Nat.zero_le _
      | cons d cs =>
          rw [emissionBeforeLast, emission, List.length_append, List.length_append]
          · exact Nat.add_le_add_left (ih _ _) _
          · simp

variable (lib w vars bindings template) in
/-- The function succeeds if the expansion fits with its terminator, and says otherwise that the buffer is too
    small. -/
def SucceedsIfItFits (buffer : List WCHAR) : Prop :=
  ((expansion lib w vars bindings template).length + 1 ≤ buffer.length →
    ∃ out, formatString lib w vars bindings template buffer = .ok out) ∧
  (buffer.length < (expansion lib w vars bindings template).length + 1 →
    formatString lib w vars bindings template buffer = .error (.returns eBufferTooSmall))

/-- **The function succeeds if the expansion fits** exactly if there are variables, and a buffer that is just large
    enough is not full before the last character of the template. -/
theorem succeedsIfItFits_iff (hzero : lib.towlower 0#16 = 0#16) (hlength : bindings.length = vars.length)
    (hprint : Printable lib vars bindings)
    (htemplate : isStringValid template 1 maxword false = true) {buffer : List WCHAR} (hbuffer : 0 < buffer.length)
    (hsize : buffer.length < 2 ^ w.bits) :
    SucceedsIfItFits lib w vars bindings template buffer ↔ vars ≠ [] ∧
      ((expansion lib w vars bindings template).length + 1 = buffer.length →
        (expansionBeforeLast lib w vars bindings template).length < (expansion lib w vars bindings template).length) := by
  by_cases hvars : vars = []
  · have hinvalid : formatString lib w vars bindings template buffer = .error (.returns eInvalidarg) :=
      formatString_invalid (by rw [hvars]; rfl)
    refine iff_of_false ?_ (fun h => h.1 hvars)
    rintro ⟨hok, hsmall⟩
    rw [hinvalid] at hok hsmall
    rcases Nat.lt_or_ge buffer.length ((expansion lib w vars bindings template).length + 1) with hlt | hle
    · exact absurd (hsmall hlt) (by decide)
    · obtain ⟨out, hout⟩ := hok hle
      cases hout
  · obtain ⟨hfits, hnot⟩ := formatString_spec hzero hlength hprint hvars htemplate (List.ne_nil_of_length_pos hbuffer) hsize
    have hchars : template.chars ≠ [] := by
      intro hnil
      simp [isStringValid, isWhitespaceOnly, hnil] at htemplate
    have hle : (expansionBeforeLast lib w vars bindings template).length ≤
        (expansion lib w vars bindings template).length := length_emissionBeforeLast_le _ _ _
    have hiff : Fits lib w vars bindings template (buffer.length - 1) 0 template.chars 0 Scan.initial ↔
        (expansion lib w vars bindings template).length ≤ buffer.length - 1 ∧
          (expansionBeforeLast lib w vars bindings template).length < buffer.length - 1 := by
      rw [Fits, Nat.zero_add, Nat.zero_add]
      exact and_congr_right fun _ => ⟨fun h => h hchars, fun h _ => h⟩
    rw [hiff] at hfits hnot
    rw [SucceedsIfItFits, and_iff_right hvars]
    constructor
    · rintro ⟨hok, -⟩ heq
      by_contra hfull
      have hsmall := hnot (fun h => by omega)
      obtain ⟨out, hout⟩ := hok (by omega)
      rw [hsmall] at hout
      cases hout
    · intro hspare
      refine ⟨fun hroom => ?_, fun hroom => hnot (fun h => by omega)⟩
      obtain ⟨rest, -, hrun⟩ := hfits (by
        rcases Nat.lt_or_eq_of_le hroom with hlt | heq
        · omega
        · have hlt := hspare heq
          omega)
      exact ⟨_, hrun⟩

/-- The value is written by the last character of the template. -/
theorem succeedsIfItFits_percentAtEnd :
    SucceedsIfItFits asciiLibrary .w32 [variableX] [percentS] templateX (List.replicate 3 1#16) :=
  (succeedsIfItFits_iff (by decide : asciiLibrary.towlower 0#16 = 0#16) (rfl : [percentS].length = [variableX].length)
    (asciiLibrary_printable _ _) (by decide) (by decide) (by decide)).mpr (by decide)

/-- The template `a%b`. -/
def templateUnknown : CString where
  chars   := [0x61#16, 0x25#16, 0x62#16]
  nonzero := by simp

/-- The expansion is `a`, but there has to be room in front of each character of the template. -/
theorem not_succeedsIfItFits_unknown :
    ¬ SucceedsIfItFits asciiLibrary .w32 [variableX] [percentS] templateUnknown (List.replicate 2 1#16) := by
  rintro ⟨hok, -⟩
  obtain ⟨out, hout⟩ := hok (by decide)
  have hrun : formatString asciiLibrary .w32 [variableX] [percentS] templateUnknown (List.replicate 2 1#16)
      = .error (.returns eBufferTooSmall) := by rfl
  rw [hrun] at hout
  cases hout

end Format

end Cfix.Cdiag
