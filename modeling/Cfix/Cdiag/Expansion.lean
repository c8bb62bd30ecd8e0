import Cfix.Cdiag.FormatSpace

/-!
# `Cdiag.Expansion` — what a template expands to

The reference splits a template into characters and names, and puts the text of the variable with that name in place
of each name. The scanner does the same, but it looks names up with a comparison that ends with the name in the
template, and so finds variables that the name is only the begin of.
-/

namespace Cfix.Cdiag

open Cfix.Events (Width)

/-! ## Lists -/

section Lists

variable {α β : Type}

/-- The first matches of two predicates, the second of which implies the first, are the same if the first match of
    the first is one of the second. -/
theorem findIdx?_eq_findIdx?_iff {p q : α → Bool} (hqp : ∀ a, q a = true → p a = true) (l : List α) :
    l.findIdx? p = l.findIdx? q ↔ ∀ a, l.find? p = some a → q a = true := by
  induction l with
  | nil => simp
  | cons x l ih =>
      rw [List.findIdx?_cons, List.findIdx?_cons, List.find?_cons]
      cases hp : p x with
      | true =>
          cases hq : q x with
          | true  => simp [hq]
          | false => simp [hq]
      | false =>
          have hq : q x = false := by
            by_contra hq
            rw [hqp x (Bool.not_eq_false _ ▸ hq)] at hp
            cases hp
          rw [hq]
          simpa [Option.map_inj_right] using ih

theorem length_flatMap_le {f g : α → List β} {l : List α} (hle : ∀ a ∈ l, (g a).length ≤ (f a).length) :
    (l.flatMap g).length ≤ (l.flatMap f).length := by
  induction l with
  | nil => exact Nat.le_refl 0
  | cons b l ih =>
      obtain ⟨hb, hl⟩ := List.forall_mem_cons.mp hle
      rw [List.flatMap_cons, List.flatMap_cons, List.length_append, List.length_append]
      exact Nat.add_le_add hb (ih hl)

/-- Concatenations that are equal, where the parts of one are no longer, have equal parts. -/
theorem eq_of_flatMap_eq {f g : α → List β} {l : List α} (hle : ∀ a ∈ l, (g a).length ≤ (f a).length)
    (h : l.flatMap f = l.flatMap g) : ∀ a ∈ l, f a = g a := by
  induction l with
  | nil => exact fun a ha => absurd ha List.not_mem_nil
  | cons b l ih =>
      obtain ⟨hb, hl⟩ := List.forall_mem_cons.mp hle
      rw [List.flatMap_cons, List.flatMap_cons] at h
      have hsum := congrArg List.length h
      rw [List.length_append, List.length_append] at hsum
      have htail := length_flatMap_le hl
      obtain ⟨hhead, htail⟩ := List.append_inj h (by omega)
      exact List.forall_mem_cons.mpr ⟨hhead, ih hl htail⟩

/-- Texts that are followed by an end mark are equal, if the longer one does not contain the mark. -/
theorem eq_of_append_mark_eq {u v r s : List α} {z : α} (hle : u.length ≤ v.length) (hz : z ∉ v)
    (h : u ++ z :: r = v ++ z :: s) : u = v := by
  obtain ⟨t, rfl⟩ : u <+: v :=
    List.prefix_of_prefix_length_le (List.prefix_append u (z :: r)) (h ▸ List.prefix_append v (z :: s)) hle
  cases t with
  | nil => rw [List.append_nil]
  | cons x t =>
      rw [List.append_assoc, List.append_cancel_left_eq, List.cons_append] at h
      exact absurd (by rw [(List.cons.inj h).1]; simp : z ∈ u ++ x :: t) hz

end Lists

/-! ## The reference -/

/-- What a template is made of; the run of characters behind a `%` is the name of a variable. -/
inductive Token where
  | literal (c : WCHAR)
  | name (run : List WCHAR)
  deriving DecidableEq, Repr

/-- The tokens of a template, for the characters that names consist of. -/
def tokens (alnum : WCHAR → Bool) : List WCHAR → List Token
  | []      => []
  | c :: cs =>
    if c = 0x25#16 then
      if cs.head? = some 0x25#16 then .literal 0x25#16 :: tokens alnum cs.tail
      else .name (cs.takeWhile alnum) :: tokens alnum (cs.dropWhile alnum)
    else .literal c :: tokens alnum cs
  termination_by cs => cs.length
  decreasing_by
    · simp only [List.length_cons, List.length_tail]
      omega
    · simp only [List.length_cons]
      exact Nat.lt_succ_of_le (List.length_dropWhile_le _ _)
    · simp

theorem length_tokens_le (alnum : WCHAR → Bool) (cs : List WCHAR) : (tokens alnum cs).length ≤ cs.length := by
  induction cs using tokens.induct alnum with
  | case1 => simp [tokens]
  | case2 cs hescape ih =>
      rw [tokens, if_pos rfl, if_pos hescape]
      simp only [List.length_cons, List.length_tail] at ih ⊢
      omega
  | case3 cs hname ih =>
      rw [tokens, if_pos rfl, if_neg hname]
      have hdrop := List.length_dropWhile_le alnum cs
      simp only [List.length_cons]
      omega
  | case4 c cs hc ih =>
      rw [tokens, if_neg hc]
      exact Nat.succ_le_succ ih

/-- Literals are characters of the template. -/
theorem mem_of_literal_mem_tokens {alnum : WCHAR → Bool} {cs : List WCHAR} {d : WCHAR}
    (h : Token.literal d ∈ tokens alnum cs) : d ∈ cs := by
  induction cs using tokens.induct alnum with
  | case1 => simp [tokens] at h
  | case2 cs hescape ih =>
      rw [tokens, if_pos rfl, if_pos hescape] at h
      rcases List.mem_cons.mp h with heq | htail
      · rw [Token.literal.inj heq]
        exact List.mem_cons_self
      · exact List.mem_cons_of_mem _ (List.mem_of_mem_tail (ih htail))
  | case3 cs hname ih =>
      rw [tokens, if_pos rfl, if_neg hname] at h
      rcases List.mem_cons.mp h with heq | htail
      · cases heq
      · exact List.mem_cons_of_mem _ ((List.dropWhile_sublist alnum).subset (ih htail))
  | case4 c cs hc ih =>
      rw [tokens, if_neg hc] at h
      rcases List.mem_cons.mp h with heq | htail
      · rw [Token.literal.inj heq]
        exact List.mem_cons_self
      · exact List.mem_cons_of_mem _ (ih htail)

section Reference

variable {β : Type} (lib : CLibrary β)

/-- The name equals the run, ignoring case. -/
def equalsRun (run : List WCHAR) (name : CString) : Bool := name.chars.map lib.towlower == run.map lib.towlower

/-- The name begins with the run, ignoring case. -/
def beginsWithRun (run : List WCHAR) (name : CString) : Bool :=
  (run.map lib.towlower).isPrefixOf (name.chars.map lib.towlower)

variable (vars : List FormatVariable) (bindings : List β)

/-- What a token expands to, if names are looked up by `lookup`. -/
def tokenText (lookup : List WCHAR → Option Nat) : Token → List WCHAR
  | .literal c => [c]
  | .name run  => (lookup run).elim [] (textAt lib vars bindings)

def expandWith (lookup : List WCHAR → Option Nat) (cs : List WCHAR) : List WCHAR :=
  (tokens lib.iswalnum cs).flatMap (tokenText lib vars bindings lookup)

/-- The index of the variable with a name. -/
def completeLookup (names : List CString) (run : List WCHAR) : Option Nat := names.findIdx? (equalsRun lib run)

/-- The index of the first variable whose name begins with a run, which is what the scanner finds. -/
def prefixLookup (names : List CString) (run : List WCHAR) : Option Nat :=
  if run = [] then none else names.findIdx? (beginsWithRun lib run)

/-- The expansion of a template as it is documented. -/
def referenceExpansion (template : CString) : List WCHAR :=
  expandWith lib vars bindings (completeLookup lib (vars.map FormatVariable.name)) template.chars

end Reference

/-! ## Finding names -/

/-- What the documentation of the C library says of characters and of `%s`. -/
structure CLibrary.Lawful {β : Type} (lib : CLibrary β) : Prop where
  lower_zero    : lib.towlower 0#16 = 0#16
  lower_ne_zero : ∀ c, c ≠ 0#16 → lib.towlower c ≠ 0#16
  alnum_zero    : lib.iswalnum 0#16 = false
  alnum_percent : lib.iswalnum 0x25#16 = false
  alnum_lower   : ∀ c d, lib.towlower c = lib.towlower d → lib.iswalnum c = lib.iswalnum d
  print_string  : ∀ text : CString, ∃ value, lib.print percentS value = .ok text.chars

section Scanner

variable {β : Type} {lib : CLibrary β} {w : Width}

theorem equalsRun_beginsWithRun {run : List WCHAR} {name : CString} (h : equalsRun lib run name = true) :
    beginsWithRun lib run name = true := by
  rw [beginsWithRun, eq_of_beq h, List.isPrefixOf_iff_prefix]

theorem order_eq_zero_iff (x y : WCHAR) : ((x.toNat : Int) - y.toNat = 0) ↔ x = y := by
  rw [Int.sub_eq_zero, Int.natCast_inj]
  exact ⟨BitVec.eq_of_toNat_eq, fun h => h ▸ rfl⟩

/-- **A run is compared with the begin of a name only.** -/
theorem compareLoop_run (dst : List WCHAR) (hlib : lib.Lawful) {src : CString} {pre run post : List WCHAR}
    (hsrc : src.chars = pre ++ run ++ post) (hrun : run ≠ []) (hlt : run.length < 2 ^ w.bits) :
    ∃ order, compareLoop lib w src (dst ++ [0#16]) pre.length run.length = .ok order ∧
      (order = 0 ↔ (run.map lib.towlower).isPrefixOf (dst.map lib.towlower) = true) := by
  induction run generalizing pre dst with
  | nil => exact absurd rfl hrun
  | cons c run ih =>
      have hread : src.read pre.length = some c := by
        rw [CString.read, CString.memory, hsrc]
        simp
      have hc : lib.towlower c ≠ 0#16 := hlib.lower_ne_zero c (src.nonzero c (by rw [hsrc]; simp))
      have hpow : 0 < 2 ^ w.bits := Nat.two_pow_pos _
      have hcount : sizeT w (c :: run).length 1 = run.length := by
        rw [sizeT_sub (by rw [List.length_cons]; omega) hlt, List.length_cons, Nat.add_sub_cancel]
      cases dst with
      | nil =>
          -- the name is shorter
          refine ⟨_, by
            simp only [List.nil_append, compareLoop, hread, access_some, exit_ok_bind, hlib.lower_zero, ne_eq,
              not_true_eq_false, false_and, and_false, if_false]
            rfl, ?_⟩
          rw [order_eq_zero_iff]
          simpa using Ne.symm hc
      | cons d dst =>
          simp only [List.cons_append, compareLoop, hread, access_some, exit_ok_bind, hcount, List.map_cons,
            List.isPrefixOf_cons_cons, Bool.and_eq_true, beq_iff_eq]
          split
          · rename_i hcond
            obtain ⟨hlong, -, heq⟩ := hcond
            obtain ⟨order, horder, hiff⟩ := ih dst (by rw [hsrc]; simp : src.chars = pre ++ [c] ++ run ++ post)
              (List.ne_nil_of_length_pos hlong) (by rw [List.length_cons] at hlt; omega)
            rw [List.length_append, List.length_singleton] at horder
            exact ⟨order, horder, hiff.trans (and_iff_right heq.symm).symm⟩
          · rename_i hcond
            refine ⟨_, rfl, (order_eq_zero_iff _ _).trans ⟨fun heq => ⟨heq.symm, ?_⟩, fun h => h.1.symm⟩⟩
            have hshort : run = [] := by
              by_contra hne
              exact hcond ⟨List.length_pos_of_ne_nil hne, fun hzero => hc (heq ▸ hzero), heq⟩
            rw [hshort]
            rfl

/-- A name does not compare equal with what no name begins with, whatever the count is. -/
theorem compareString_other (hlib : lib.Lawful) {src name : CString} {index : Nat} {c d : WCHAR} {ds : List WCHAR}
    (hname : name.chars = d :: ds) (hd : lib.iswalnum d = true) (hread : src.read index = some c)
    (hc : lib.iswalnum c = false) (maxCch : Nat) :
    ∃ order, compareString lib w name src index maxCch = .ok order ∧ order ≠ 0 := by
  have hne : lib.towlower d ≠ lib.towlower c := by
    intro heq
    rw [hlib.alnum_lower d c heq, hc] at hd
    cases hd
  refine ⟨_, by
    simp only [compareString, CString.memory, hname, List.cons_append, compareLoop, hread, access_some, exit_ok_bind, hne,
      and_false, if_false]
    rfl, ?_⟩
  rw [ne_eq, order_eq_zero_iff]
  exact hne

/-- The first name that compares equal is found. -/
theorem getVariableBindingIndex_eq {template : CString} {begin_ cch : Nat} (q : CString → Bool)
    {vars : List FormatVariable} (h : ∀ var ∈ vars, ∃ order, compareString lib w var.name template begin_ cch = .ok order ∧
      (order = 0 ↔ q var.name = true)) (index : Nat) :
    getVariableBindingIndex lib w template begin_ cch vars index =
      .ok (((vars.map FormatVariable.name).findIdx? q).map (· + index)) := by
  induction vars generalizing index with
  | nil => rfl
  | cons var vars ih =>
      obtain ⟨⟨order, horder, hiff⟩, htail⟩ := List.forall_mem_cons.mp h
      rw [getVariableBindingIndex, horder, exit_ok_bind, List.map_cons, List.findIdx?_cons]
      cases hq : q var.name with
      | true  => simp [hiff.mpr hq]
      | false =>
          have hne : order ≠ 0 := fun hzero => by
            rw [hiff.mp hzero] at hq
            cases hq
          rw [if_neg hne, ih htail, if_neg Bool.false_ne_true, Option.map_map]
          simp [Function.comp_def, Nat.add_assoc, Nat.add_comm 1 index]

/-- Names are not empty, and made of the characters that the scanner takes for names. -/
def ValidNames (lib : CLibrary β) (names : List CString) : Prop :=
  ∀ name ∈ names, name.chars ≠ [] ∧ ∀ c ∈ name.chars, lib.iswalnum c = true

variable {vars : List FormatVariable} {bindings : List β} {template : CString}

/-- Nothing is written for what no name begins with. -/
theorem variableText_other (hlib : lib.Lawful) (hnames : ValidNames lib (vars.map FormatVariable.name)) {begin_ : Nat}
    {c : WCHAR} (hread : template.read begin_ = some c) (hc : lib.iswalnum c = false) (end_ : Nat) :
    variableText lib w vars bindings template begin_ end_ = [] := by
  have hfound := getVariableBindingIndex_eq (w := w) (fun _ => false)
    (fun var hvar => by
      obtain ⟨hne, halnum⟩ := hnames var.name (List.mem_map_of_mem hvar)
      obtain ⟨d, ds, hname⟩ := List.exists_cons_of_ne_nil hne
      obtain ⟨order, horder, hne⟩ := compareString_other hlib hname (halnum d (by rw [hname]; simp)) hread hc
        (sizeT w end_ begin_)
      exact ⟨order, horder, by simpa using hne⟩) 0
  rw [variableText, hfound, List.findIdx?_eq_none_iff.mpr (fun _ _ => rfl)]
  rfl

/-- **The text for a run** is the one of the first variable whose name begins with it. -/
theorem variableText_run (hlib : lib.Lawful) (hnames : ValidNames lib (vars.map FormatVariable.name))
    (hsize : template.length < 2 ^ w.bits) {pre run post : List WCHAR} (htemplate : template.chars = pre ++ run ++ post)
    (hpost : ∀ c, post.head? = some c → lib.iswalnum c = false) :
    variableText lib w vars bindings template pre.length (pre.length + run.length) =
      tokenText lib vars bindings (prefixLookup lib (vars.map FormatVariable.name)) (.name run) := by
  rw [tokenText, prefixLookup]
  by_cases hrun : run = []
  · obtain ⟨c, hread, hc⟩ : ∃ c, template.read pre.length = some c ∧ lib.iswalnum c = false := by
      rw [CString.read, CString.memory, htemplate, hrun]
      cases post with
      | nil           => exact ⟨0#16, by simp, hlib.alnum_zero⟩
      | cons c post => exact ⟨c, by simp, hpost c rfl⟩
    rw [variableText_other hlib hnames hread hc, if_pos hrun]
    rfl
  · have hlength : template.length = pre.length + run.length + post.length := by
      rw [CString.length, htemplate, List.length_append, List.length_append]
    have hcch : sizeT w (pre.length + run.length) pre.length = run.length := by
      rw [sizeT_sub (Nat.le_add_right _ _) (by omega), Nat.add_sub_cancel_left]
    have hfound := getVariableBindingIndex_eq (w := w) (beginsWithRun lib run)
      (fun var (_ : var ∈ vars) => compareLoop_run var.name.chars hlib htemplate hrun (by omega)) 0
    rw [variableText, hcch, hfound, if_neg hrun]
    cases (vars.map FormatVariable.name).findIdx? (beginsWithRun lib run) <;> rfl

/-! ## The scanner -/

section Expand

variable (lookup : List WCHAR → Option Nat) {c : WCHAR} {cs : List WCHAR}

@[simp] theorem expandWith_nil : expandWith lib vars bindings lookup [] = [] := by
  rw [expandWith, tokens, List.flatMap_nil]

theorem expandWith_literal (hc : c ≠ 0x25#16) :
    expandWith lib vars bindings lookup (c :: cs) = c :: expandWith lib vars bindings lookup cs := by
  rw [expandWith, tokens, if_neg hc, List.flatMap_cons]
  rfl

theorem expandWith_escape :
    expandWith lib vars bindings lookup (0x25#16 :: 0x25#16 :: cs) = 0x25#16 :: expandWith lib vars bindings lookup cs := by
  rw [expandWith, tokens, if_pos rfl, if_pos List.head?_cons, List.flatMap_cons]
  rfl

theorem expandWith_name (hcs : cs.head? ≠ some 0x25#16) :
    expandWith lib vars bindings lookup (0x25#16 :: cs) =
      tokenText lib vars bindings lookup (.name (cs.takeWhile lib.iswalnum)) ++
        expandWith lib vars bindings lookup (cs.dropWhile lib.iswalnum) := by
  rw [expandWith, tokens, if_pos rfl, if_neg hcs, List.flatMap_cons]
  rfl

end Expand

section Scanner

variable (lib w vars bindings template) in
/-- The text that is written for a run of the template is the one of the variable that is looked up. -/
def WritesRuns (lookup : List WCHAR → Option Nat) : Prop :=
  ∀ u run post : List WCHAR, template.chars = u ++ run ++ post →
    (∀ c, post.head? = some c → lib.iswalnum c = false) →
    variableText lib w vars bindings template u.length (u.length + run.length) =
      tokenText lib vars bindings lookup (.name run)

/-- Outside of a variable, a name is kept of an escaped `%` only. -/
def Stale (pre : List WCHAR) (variableName : Option Nat) : Prop :=
  ∀ b, variableName = some b → ∃ u v, pre = u ++ 0x25#16 :: v ∧ b = u.length

variable (lib w vars bindings template) in
/-- What the scanner writes for the rest `cs` of a template, of which it has passed `pre`: outside of a variable,
    right behind a `%`, and inside of a variable, where the run is what was passed since the `%`. -/
structure Emits (lookup : List WCHAR → Option Nat) (pre cs : List WCHAR) : Prop where
  outside : ∀ variableName, Stale pre variableName →
    emission lib w vars bindings template cs pre.length ⟨false, variableName⟩ = expandWith lib vars bindings lookup cs
  percent :
    emission lib w vars bindings template cs pre.length ⟨true, some pre.length⟩ =
      expandWith lib vars bindings lookup (0x25#16 :: cs)
  inside : ∀ u run, pre = u ++ run → run ≠ [] → (∀ c ∈ run, lib.iswalnum c = true) →
    emission lib w vars bindings template cs pre.length ⟨true, some u.length⟩ =
      tokenText lib vars bindings lookup (.name (run ++ cs.takeWhile lib.iswalnum)) ++
        expandWith lib vars bindings lookup (cs.dropWhile lib.iswalnum)

variable {lookup : List WCHAR → Option Nat} {pre cs : List WCHAR} {c : WCHAR}

/-- Where no name can go on, the text of the run is written. -/
theorem WritesRuns.text (h : WritesRuns lib w vars bindings template lookup) {u run : List WCHAR}
    (htemplate : template.chars = u ++ run ++ c :: cs) (hc : lib.iswalnum c = false) :
    variableText lib w vars bindings template u.length (u.length + run.length) =
      tokenText lib vars bindings lookup (.name run) :=
  h u run (c :: cs) htemplate (fun d hd => by rw [← Option.some.inj hd]; exact hc)

/-- At the end of the template, the run before it is the name. -/
theorem emits_nil (htext : WritesRuns lib w vars bindings template lookup) (htemplate : template.chars = pre) :
    Emits lib w vars bindings template lookup pre [] where
  outside variableName _ := by
    rw [expandWith_nil]
    rfl
  percent := by
    rw [expandWith_name lookup (by simp)]
    have hname := htext pre [] [] (by simpa using htemplate) (fun c hc => by cases hc)
    simpa [emission] using hname
  inside u run hpre _ _ := by
    have hname := htext u run [] (by rw [htemplate, hpre, List.append_nil]) (fun c hc => by cases hc)
    simpa [emission, hpre] using hname

theorem Emits.outside_cons (h : Emits lib w vars bindings template lookup (pre ++ [c]) cs) (hlib : lib.Lawful)
    (hnames : ValidNames lib (vars.map FormatVariable.name)) (htemplate : template.chars = pre ++ c :: cs)
    (variableName : Option Nat) (hstale : Stale pre variableName) :
    emission lib w vars bindings template (c :: cs) pre.length ⟨false, variableName⟩ =
      expandWith lib vars bindings lookup (c :: cs) := by
  have hpercent := h.percent
  have houtside := h.outside
  rw [List.length_append, List.length_singleton] at houtside hpercent
  by_cases hc : c = 0x25#16
  · -- the stale name does not name a variable
    have htext : (variableName.elim [] fun b => variableText lib w vars bindings template b pre.length) = [] := by
      cases variableName with
      | none   => rfl
      | some b =>
          obtain ⟨u, v, hpre, rfl⟩ := hstale b rfl
          refine variableText_other hlib hnames (c := 0x25#16) ?_ hlib.alnum_percent _
          rw [CString.read, CString.memory, htemplate, hpre]
          simp
    have hescape : variableName ≠ some pre.length := by
      intro heq
      obtain ⟨u, v, hpre, hlength⟩ := hstale _ heq
      rw [hpre, List.length_append, List.length_cons] at hlength
      omega
    rw [hc]
    simpa [emission, piece, Scan.step, hescape, htext] using hpercent
  · rw [expandWith_literal lookup hc]
    have hrest := houtside variableName (fun b hb => by
      obtain ⟨u, v, hpre, hlength⟩ := hstale b hb
      exact ⟨u, v ++ [c], by rw [hpre]; simp, hlength⟩)
    simpa [emission, piece, Scan.step, hc] using hrest

theorem Emits.percent_cons (h : Emits lib w vars bindings template lookup (pre ++ [c]) cs)
    (htext : WritesRuns lib w vars bindings template lookup) (htemplate : template.chars = pre ++ c :: cs) :
    emission lib w vars bindings template (c :: cs) pre.length ⟨true, some pre.length⟩ =
      expandWith lib vars bindings lookup (0x25#16 :: c :: cs) := by
  have houtside := h.outside
  have hinside := h.inside
  rw [List.length_append, List.length_singleton] at houtside hinside
  by_cases hc : c = 0x25#16
  · rw [hc, expandWith_escape]
    have hrest := houtside (some pre.length) (fun b hb => ⟨pre, [], by rw [hc], (Option.some.inj hb).symm⟩)
    simpa [emission, piece, Scan.step] using hrest
  · rw [expandWith_name lookup (by simpa using hc)]
    cases halnum : lib.iswalnum c with
    | true =>
        have hrest := hinside pre [c] rfl (List.cons_ne_nil c []) (by simpa using halnum)
        simpa [emission, piece, Scan.step, hc, halnum] using hrest
    | false =>
        -- the name is empty
        have hname := htext.text (by simpa using htemplate : template.chars = pre ++ [] ++ c :: cs) halnum
        have hrest := houtside none (fun b hb => by cases hb)
        simp only [List.length_nil, Nat.add_zero] at hname
        simp only [emission, piece, Scan.step, hc, halnum, if_false, Bool.not_false, Bool.and_self, if_true,
          Option.elim_some, hname, hrest, List.takeWhile_cons, List.dropWhile_cons, Bool.false_eq_true,
          expandWith_literal lookup hc]
        simp

theorem Emits.inside_cons (h : Emits lib w vars bindings template lookup (pre ++ [c]) cs) (hlib : lib.Lawful)
    (htext : WritesRuns lib w vars bindings template lookup) (htemplate : template.chars = pre ++ c :: cs)
    (u run : List WCHAR) (hpre : pre = u ++ run) (hne : run ≠ []) (halnum : ∀ c ∈ run, lib.iswalnum c = true) :
    emission lib w vars bindings template (c :: cs) pre.length ⟨true, some u.length⟩ =
      tokenText lib vars bindings lookup (.name (run ++ (c :: cs).takeWhile lib.iswalnum)) ++
        expandWith lib vars bindings lookup ((c :: cs).dropWhile lib.iswalnum) := by
  have hpercent := h.percent
  have houtside := h.outside
  have hinside := h.inside
  rw [List.length_append, List.length_singleton] at houtside hpercent hinside
  cases hcalnum : lib.iswalnum c with
  | true =>
      have hc : c ≠ 0x25#16 := fun hc => by
        rw [hc, hlib.alnum_percent] at hcalnum
        cases hcalnum
      have hrest := hinside u (run ++ [c]) (by rw [hpre, List.append_assoc]) (by simp)
        (fun d hd => by
          rcases List.mem_append.mp hd with hd | hd
          · exact halnum d hd
          · rwa [List.mem_singleton.mp hd])
      rw [List.append_assoc] at hrest
      simpa [emission, piece, Scan.step, hc, hcalnum] using hrest
  | false =>
      -- the run ends here
      have hname := htext.text (by rw [htemplate, hpre]) hcalnum
      rw [← List.length_append, ← hpre] at hname
      rw [List.takeWhile_cons_of_neg (by simp [hcalnum]), List.dropWhile_cons_of_neg (by simp [hcalnum])]
      by_cases hc : c = 0x25#16
      · have hescape : u.length ≠ pre.length := by
          rw [hpre, List.length_append]
          have hpos := List.length_pos_of_ne_nil hne
          omega
        rw [hc, ← hpercent]
        simp [emission, piece, Scan.step, hescape, hname]
      · have hrest := houtside none (fun b hb => by cases hb)
        rw [expandWith_literal lookup hc, List.append_nil, ← hrest]
        simp [emission, piece, Scan.step, hc, hcalnum, hname]

/-- **What the scanner writes is the expansion with the names that it looks up.** -/
theorem emits (hlib : lib.Lawful) (hnames : ValidNames lib (vars.map FormatVariable.name))
    (htext : WritesRuns lib w vars bindings template lookup) (htemplate : template.chars = pre ++ cs) :
    Emits lib w vars bindings template lookup pre cs := by
  induction cs generalizing pre with
  | nil => exact emits_nil htext (by rw [htemplate, List.append_nil])
  | cons c cs ih =>
      have hrest := ih (by rw [htemplate]; simp : template.chars = (pre ++ [c]) ++ cs)
      exact ⟨hrest.outside_cons hlib hnames htemplate, hrest.percent_cons htext htemplate,
        hrest.inside_cons hlib htext htemplate⟩

end Scanner

/-! ## The expansion of a template -/

/-- The function writes the expansion with the names that the scanner finds. -/
theorem expansion_eq (hlib : lib.Lawful) (hnames : ValidNames lib (vars.map FormatVariable.name))
    (hsize : template.length < 2 ^ w.bits) :
    expansion lib w vars bindings template =
      expandWith lib vars bindings (prefixLookup lib (vars.map FormatVariable.name)) template.chars := by
  have htext : WritesRuns lib w vars bindings template (prefixLookup lib (vars.map FormatVariable.name)) :=
    fun u run post => variableText_run hlib hnames hsize
  exact (emits hlib hnames htext (List.nil_append template.chars).symm).outside none (fun b hb => by cases hb)

/-- A large enough buffer holds the reference expansion, whatever the variables are formatted as and bound to. -/
def ExpandsAsDocumented (lib : CLibrary β) (w : Width) (names : List CString) (template : CString) : Prop :=
  ∀ vars : List FormatVariable, vars.map FormatVariable.name = names →
    ∀ bindings : List β, bindings.length = vars.length → Printable lib vars bindings →
      ∀ buffer : List WCHAR, (referenceExpansion lib vars bindings template).length + 2 ≤ buffer.length →
        buffer.length < 2 ^ w.bits →
          ∃ rest, formatString lib w vars bindings template buffer =
            .ok (referenceExpansion lib vars bindings template ++ 0#16 :: rest)

variable {names : List CString}

theorem completeLookup_nil (hnames : ValidNames lib names) : completeLookup lib names [] = none := by
  refine List.findIdx?_eq_none_iff.mpr (fun name hname => ?_)
  rw [equalsRun, List.map_nil, beq_eq_false_iff_ne, ne_eq, List.map_eq_nil_iff]
  exact (hnames name hname).1

/-- The scanner finds the variable that is named, exactly if the first name that begins with the run equals it. -/
theorem prefixLookup_eq_iff (hnames : ValidNames lib names) (run : List WCHAR) :
    prefixLookup lib names run = completeLookup lib names run ↔
      (run ≠ [] → ∀ name, names.find? (beginsWithRun lib run) = some name → equalsRun lib run name = true) := by
  rw [prefixLookup]
  by_cases hrun : run = []
  · rw [if_pos hrun, hrun, completeLookup_nil hnames]
    simp
  · rw [if_neg hrun, completeLookup, findIdx?_eq_findIdx?_iff (fun name => equalsRun_beginsWithRun)]
    simp [hrun]

/-- **The function expands as documented** if each run is looked up as documented. -/
theorem expandsAsDocumented_of_lookup (hlib : lib.Lawful) (hnames : ValidNames lib names)
    (hsize : template.length < 2 ^ w.bits) (hne : names ≠ []) (htemplate : isStringValid template 1 maxword false = true)
    (h : ∀ run, Token.name run ∈ tokens lib.iswalnum template.chars →
      prefixLookup lib names run = completeLookup lib names run) :
    ExpandsAsDocumented lib w names template := by
  rintro vars rfl bindings hlength hprint buffer hroom hbuffer
  have hvars : vars ≠ [] := fun hnil => hne (by rw [hnil]; rfl)
  have hexpansion : expansion lib w vars bindings template = referenceExpansion lib vars bindings template := by
    rw [expansion_eq hlib hnames hsize, referenceExpansion, expandWith, expandWith]
    refine List.flatMap_congr (fun token htoken => ?_)
    cases token with
    | literal c => rfl
    | name run  => rw [tokenText, tokenText, h run htoken]
  obtain ⟨hfits, -⟩ := formatString_spec (w := w) hlib.lower_zero hlength hprint hvars htemplate
    (List.ne_nil_of_length_pos (by omega)) hbuffer
  have hbefore : (expansionBeforeLast lib w vars bindings template).length ≤
      (expansion lib w vars bindings template).length := length_emissionBeforeLast_le _ _ _
  rw [← hexpansion] at hroom ⊢
  have hfit : Fits lib w vars bindings template (buffer.length - 1) 0 template.chars 0 Scan.initial := by
    constructor
    · show 0 + (expansion lib w vars bindings template).length ≤ buffer.length - 1
      omega
    · intro _
      show 0 + (expansionBeforeLast lib w vars bindings template).length < buffer.length - 1
      omega
  obtain ⟨rest, -, hrun⟩ := hfits hfit
  exact ⟨rest, hrun⟩

/-! ### Probes -/

/-- The variables with the names, all of which are texts. -/
def textVariables (names : List CString) : List FormatVariable := names.map fun name => ⟨name, percentS⟩

theorem names_textVariables (names : List CString) : (textVariables names).map FormatVariable.name = names := by
  rw [textVariables, List.map_map]
  exact List.map_id names

/-- A value for the variable with one index, and another value for all the others. -/
def probe (count marked : Nat) (a b : β) : List β := (List.range count).map fun i => if i = marked then b else a

theorem textAt_probe {a b : β} {x y : WCHAR} (ha : lib.print percentS a = .ok [x]) (hb : lib.print percentS b = .ok [y])
    (marked : Nat) {i : Nat} (hi : i < names.length) :
    textAt lib (textVariables names) (probe names.length marked a b) i = if i = marked then [y] else [x] := by
  have hvar : (textVariables names)[i]? = some ⟨names[i], percentS⟩ := by
    rw [textVariables, List.getElem?_map, List.getElem?_eq_getElem hi]
    rfl
  have hbinding : (probe names.length marked a b)[i]? = some (if i = marked then b else a) := by
    rw [probe, List.getElem?_map, List.getElem?_range hi]
    rfl
  rw [textAt, hvar, hbinding]
  by_cases h : i = marked
  · simp [h, hb, Except.toOption]
  · simp [h, ha, Except.toOption]

theorem printable_probe {a b : β} {x y : WCHAR} (ha : lib.print percentS a = .ok [x])
    (hb : lib.print percentS b = .ok [y]) (marked : Nat) :
    Printable lib (textVariables names) (probe names.length marked a b) := by
  intro i var binding hvar hbinding
  obtain ⟨name, -, rfl⟩ := List.mem_map.mp (List.mem_of_getElem? hvar)
  obtain ⟨j, -, rfl⟩ := List.mem_map.mp (List.mem_of_getElem? hbinding)
  by_cases h : j = marked
  · exact ⟨[y], by simpa [h] using hb⟩
  · exact ⟨[x], by simpa [h] using ha⟩

section Probed

variable {a b : β} {x y : WCHAR} {marked : Nat} {lookup : List WCHAR → Option Nat}

/-- The text of a probe is one character. -/
theorem mem_textAt_probe (marked : Nat) (ha : lib.print percentS a = .ok [x]) (hb : lib.print percentS b = .ok [y]) {i : Nat}
    (hi : i < names.length) :
    ∃ c, textAt lib (textVariables names) (probe names.length marked a b) i = [c] ∧ (c = x ∨ c = y) := by
  rw [textAt_probe ha hb marked hi]
  split
  · exact ⟨y, rfl, Or.inr rfl⟩
  · exact ⟨x, rfl, Or.inl rfl⟩

theorem length_expandWith_probe (ha : lib.print percentS a = .ok [x]) (hb : lib.print percentS b = .ok [y])
    (hlookup : ∀ run i, lookup run = some i → i < names.length) (cs : List WCHAR) :
    (expandWith lib (textVariables names) (probe names.length marked a b) lookup cs).length ≤ cs.length := by
  have hone : ∀ token : Token,
      (tokenText lib (textVariables names) (probe names.length marked a b) lookup token).length ≤ 1 := by
    intro token
    cases token with
    | literal c => exact Nat.le_refl 1
    | name run =>
        rw [tokenText]
        cases hfound : lookup run with
        | none   => exact Nat.zero_le 1
        | some i =>
            obtain ⟨c, hc, -⟩ := mem_textAt_probe marked ha hb (hlookup run i hfound)
            rw [Option.elim_some, hc, List.length_singleton]
  refine Nat.le_trans ?_ (length_tokens_le lib.iswalnum cs)
  rw [expandWith]
  induction tokens lib.iswalnum cs with
  | nil => exact Nat.le_refl 0
  | cons token rest ih =>
      rw [List.flatMap_cons, List.length_append, List.length_cons]
      have hhead := hone token
      omega

theorem zero_notMem_expandWith_probe (ha : lib.print percentS a = .ok [x]) (hb : lib.print percentS b = .ok [y])
    (hx : x ≠ 0#16) (hy : y ≠ 0#16) (hlookup : ∀ run i, lookup run = some i → i < names.length) (template : CString) :
    0#16 ∉ expandWith lib (textVariables names) (probe names.length marked a b) lookup template.chars := by
  intro hmem
  obtain ⟨token, htoken, hmem⟩ := List.mem_flatMap.mp hmem
  cases token with
  | literal c =>
      rw [tokenText, List.mem_singleton] at hmem
      exact template.nonzero c (mem_of_literal_mem_tokens htoken) hmem.symm
  | name run =>
      rw [tokenText] at hmem
      cases hfound : lookup run with
      | none =>
          rw [hfound] at hmem
          cases hmem
      | some i =>
          obtain ⟨c, hc, hcxy⟩ := mem_textAt_probe marked ha hb (hlookup run i hfound)
          rw [hfound, Option.elim_some, hc, List.mem_singleton] at hmem
          rcases hcxy with rfl | rfl
          · exact hx hmem.symm
          · exact hy hmem.symm

end Probed

theorem prefixLookup_lt {run : List WCHAR} {i : Nat} (h : prefixLookup lib names run = some i) : i < names.length := by
  rw [prefixLookup] at h
  split at h
  · cases h
  · exact (List.findIdx?_eq_some_iff_findIdx_eq.mp h).1

theorem completeLookup_lt {run : List WCHAR} {i : Nat} (h : completeLookup lib names run = some i) : i < names.length :=
  (List.findIdx?_eq_some_iff_findIdx_eq.mp h).1

/-- What is named is found, though it need not be the same variable. -/
theorem isSome_prefixLookup (hnames : ValidNames lib names) {run : List WCHAR} {i : Nat}
    (h : completeLookup lib names run = some i) : ∃ j, prefixLookup lib names run = some j := by
  have hrun : run ≠ [] := by
    rintro rfl
    rw [completeLookup_nil hnames] at h
    cases h
  rw [prefixLookup, if_neg hrun]
  refine Option.ne_none_iff_exists'.mp (fun hnone => ?_)
  obtain ⟨hi, hequals, -⟩ := List.findIdx?_eq_some_iff_getElem.mp h
  have hbegins := List.findIdx?_eq_none_iff.mp hnone names[i] (List.getElem_mem hi)
  rw [equalsRun_beginsWithRun hequals] at hbegins
  cases hbegins

section Converse

variable {a b : β} {x y : WCHAR}

theorem length_tokenText_probe_le (hnames : ValidNames lib names) (ha : lib.print percentS a = .ok [x])
    (hb : lib.print percentS b = .ok [y]) (marked : Nat) (token : Token) :
    (tokenText lib (textVariables names) (probe names.length marked a b) (completeLookup lib names) token).length ≤
      (tokenText lib (textVariables names) (probe names.length marked a b) (prefixLookup lib names) token).length := by
  cases token with
  | literal c => exact Nat.le_refl 1
  | name run =>
      rw [tokenText, tokenText]
      cases hcomplete : completeLookup lib names run with
      | none   => exact Nat.zero_le _
      | some i =>
          obtain ⟨j, hpre⟩ := isSome_prefixLookup hnames hcomplete
          obtain ⟨c, hc, -⟩ := mem_textAt_probe marked ha hb (completeLookup_lt hcomplete)
          obtain ⟨d, hd, -⟩ := mem_textAt_probe marked ha hb (prefixLookup_lt hpre)
          rw [hpre, Option.elim_some, Option.elim_some, hc, hd]
          exact Nat.le_refl 1

/-- What the function writes for a probe is the reference expansion, if it expands as documented. -/
theorem expandWith_probe_eq (hlib : lib.Lawful) (hnames : ValidNames lib names)
    (hmemory : 2 * (template.length + 1) ≤ 2 ^ w.bits) (ha : lib.print percentS a = .ok [x])
    (hb : lib.print percentS b = .ok [y]) (hx : x ≠ 0#16) (hy : y ≠ 0#16)
    (h : ExpandsAsDocumented lib w names template) (marked : Nat) :
    names ≠ [] ∧ isStringValid template 1 maxword false = true ∧
      expandWith lib (textVariables names) (probe names.length marked a b) (completeLookup lib names) template.chars =
        expandWith lib (textVariables names) (probe names.length marked a b) (prefixLookup lib names) template.chars := by
  have hnames' : ValidNames lib ((textVariables names).map FormatVariable.name) := by
    rwa [names_textVariables]
  have hpow := pow_bits_ge w
  have hsize : template.length + 2 < 2 ^ w.bits := by omega
  have hlength : (probe names.length marked a b).length = (textVariables names).length := by
    simp [probe, textVariables]
  have hreference : (expandWith lib (textVariables names) (probe names.length marked a b) (completeLookup lib names)
      template.chars).length ≤ template.length :=
    length_expandWith_probe ha hb (fun _ _ => completeLookup_lt) template.chars
  -- a buffer that every expansion fits into
  have hprint : Printable lib (textVariables names) (probe names.length marked a b) := printable_probe ha hb marked
  have hok := h (textVariables names) (names_textVariables names) (probe names.length marked a b) hlength hprint
    (List.replicate (template.length + 2) 0#16)
    (by rw [referenceExpansion, names_textVariables, List.length_replicate]; omega)
    (by rw [List.length_replicate]; exact hsize)
  obtain ⟨rest, hok⟩ := hok
  rw [referenceExpansion, names_textVariables] at hok
  cases hchecks : (textVariables names).isEmpty || !isStringValid template 1 maxword false ||
      (List.replicate (template.length + 2) 0#16).isEmpty with
  | true =>
      rw [formatString_invalid hchecks] at hok
      cases hok
  | false =>
      simp only [Bool.or_eq_false_iff, Bool.not_eq_false', List.isEmpty_eq_false_iff] at hchecks
      obtain ⟨⟨hvars, htemplate⟩, hbuffer⟩ := hchecks
      refine ⟨fun hnil => hvars (by rw [hnil]; rfl), htemplate, ?_⟩
      obtain ⟨hfits, hnot⟩ := formatString_spec (w := w) hlib.lower_zero hlength hprint hvars htemplate
        hbuffer (by rw [List.length_replicate]; exact hsize)
      by_cases hfit : Fits lib w (textVariables names) (probe names.length marked a b) template
          ((List.replicate (template.length + 2) 0#16).length - 1) 0 template.chars 0 Scan.initial
      · obtain ⟨rest', -, hrun⟩ := hfits hfit
        rw [hok, expansion_eq hlib hnames' (by omega), names_textVariables] at hrun
        refine eq_of_append_mark_eq ?_
          (zero_notMem_expandWith_probe ha hb hx hy (fun _ _ => prefixLookup_lt) template) (Except.ok.inj hrun)
        exact length_flatMap_le (fun token _ => length_tokenText_probe_le hnames ha hb marked token)
      · rw [hnot hfit] at hok
        cases hok

end Converse

/-- **Expansion is as documented** exactly if the function accepts the call, and for each run in the template
    the first name that begins with the run, if there is one, equals it. -/
theorem expandsAsDocumented_iff (hlib : lib.Lawful) (hnames : ValidNames lib names)
    (hmemory : 2 * (template.length + 1) ≤ 2 ^ w.bits) :
    ExpandsAsDocumented lib w names template ↔ names ≠ [] ∧ isStringValid template 1 maxword false = true ∧
      ∀ run, Token.name run ∈ tokens lib.iswalnum template.chars → run ≠ [] →
        ∀ name, names.find? (beginsWithRun lib run) = some name → equalsRun lib run name = true := by
  have hsize : template.length < 2 ^ w.bits := by omega
  constructor
  · intro h
    obtain ⟨a, ha⟩ := hlib.print_string { chars := [0x61#16], nonzero := by simp }
    obtain ⟨b, hb⟩ := hlib.print_string { chars := [0x62#16], nonzero := by simp }
    have hexpand := expandWith_probe_eq hlib hnames hmemory ha hb (by decide) (by decide) h
    refine ⟨(hexpand 0).1, (hexpand 0).2.1, fun run hrun => (prefixLookup_eq_iff hnames run).mp ?_⟩
    cases hpre : prefixLookup lib names run with
    | none =>
        cases hcomplete : completeLookup lib names run with
        | none   => rfl
        | some i =>
            obtain ⟨j, hj⟩ := isSome_prefixLookup hnames hcomplete
            rw [hpre] at hj
            cases hj
    | some j =>
        -- the variable that is found prints a text that no other prints
        have htext := eq_of_flatMap_eq (fun token _ => length_tokenText_probe_le hnames ha hb j token)
          (hexpand j).2.2.symm (.name run) hrun
        rw [tokenText, tokenText, hpre, Option.elim_some, textAt_probe ha hb j (prefixLookup_lt hpre), if_pos rfl] at htext
        cases hcomplete : completeLookup lib names run with
        | none =>
            rw [hcomplete] at htext
            cases htext
        | some i =>
            rw [hcomplete, Option.elim_some, textAt_probe ha hb j (completeLookup_lt hcomplete)] at htext
            by_cases hij : i = j
            · rw [hij]
            · rw [if_neg hij] at htext
              exact absurd htext (by decide)
  · rintro ⟨hne, htemplate, hfirst⟩
    exact expandsAsDocumented_of_lookup hlib hnames hsize hne htemplate
      (fun run hrun => (prefixLookup_eq_iff hnames run).mpr (hfirst run hrun))

end Scanner

/-! ### A name that begins with another -/

theorem asciiLibrary_lawful : asciiLibrary.Lawful where
  lower_zero    := by decide
  lower_ne_zero := by
    intro c hc
    simp only [asciiLibrary]
    split <;> bv_omega
  alnum_zero    := by decide
  alnum_percent := by decide
  alnum_lower   := by
    intro c d h
    simp only [asciiLibrary] at h ⊢
    rw [Bool.eq_iff_iff]
    simp only [Bool.or_eq_true, Bool.and_eq_true, decide_eq_true_eq]
    split at h <;> split at h <;> bv_omega
  print_string  := fun text => ⟨text, by simp [asciiLibrary]⟩

/-- The name `Str1`. -/
def nameStr1 : CString where
  chars   := [0x53#16, 0x74#16, 0x72#16, 0x31#16]
  nonzero := by simp

/-- The template `%Str`. -/
def templateStr : CString where
  chars   := [0x25#16, 0x53#16, 0x74#16, 0x72#16]
  nonzero := by simp

theorem validNames_nameStr1 : ValidNames asciiLibrary [nameStr1] := by
  intro name hname
  rw [List.mem_singleton.mp hname]
  exact ⟨by decide, List.all_eq_true.mp (by decide : nameStr1.chars.all asciiLibrary.iswalnum = true)⟩

theorem expandsAsDocumented_nameStr1 :
    ExpandsAsDocumented asciiLibrary .w32 [nameStr1] templateStr ↔
      [nameStr1] ≠ [] ∧ isStringValid templateStr 1 maxword false = true ∧
        ∀ run, Token.name run ∈ tokens asciiLibrary.iswalnum templateStr.chars → run ≠ [] →
          ∀ name, [nameStr1].find? (beginsWithRun asciiLibrary run) = some name →
            equalsRun asciiLibrary run name = true :=
  expandsAsDocumented_iff asciiLibrary_lawful validNames_nameStr1 (by decide)

/-- No variable is named `Str`, but the text of `Str1` is written. -/
theorem not_expandsAsDocumented_nameStr1 : ¬ ExpandsAsDocumented asciiLibrary .w32 [nameStr1] templateStr := by
  intro h
  have hreference : referenceExpansion asciiLibrary (textVariables [nameStr1]) [nameStr1] templateStr = [] := by
    have htokens : tokens asciiLibrary.iswalnum templateStr.chars = [.name [0x53#16, 0x74#16, 0x72#16]] := by
      simp [tokens, templateStr, asciiLibrary]
    rw [referenceExpansion, expandWith, htokens]
    decide
  obtain ⟨rest, hrun⟩ := h (textVariables [nameStr1]) (names_textVariables _) [nameStr1] rfl
    (asciiLibrary_printable _ _) (List.replicate 8 0x20#16) (by rw [hreference]; decide) (by decide)
  have hwritten : formatString asciiLibrary .w32 (textVariables [nameStr1]) [nameStr1] templateStr
      (List.replicate 8 0x20#16) = .ok (nameStr1.chars ++ [0#16, 0x20#16, 0x20#16, 0x20#16]) := by decide
  rw [hreference, hwritten] at hrun
  cases hrun

end Cfix.Cdiag
