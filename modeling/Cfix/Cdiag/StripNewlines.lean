import Cfix.Cdiag.Helper
import Mathlib.Data.List.DropRight
import Mathlib.Data.List.Induction

/-!
# `Cdiag.StripNewlines` — line ends in messages (`cdiag/msgresolver.c`)

`CdiagsStripNewlines` replaces line ends by spaces and is to remove the trailing spaces. The loop for these
searches back for a space wherever it is, and cuts the text there.
-/

namespace Cfix.Cdiag

/-! ## Cutting at the last match -/

section CutLast

variable {α : Type} (p : α → Bool)

/-- What is before the last element that `p` holds of; everything if there is none. -/
def cutLast (t : List α) : List α :=
  match t.reverse.dropWhile (fun c => !p c) with
  | []     => t
  | _ :: u => u.reverse

variable {p} {t u v : List α} {c : α}

theorem cutLast_of_none (h : ∀ c ∈ t, p c = false) : cutLast p t = t := by
  have hnil : t.reverse.dropWhile (fun c => !p c) = [] :=
    List.dropWhile_eq_nil_iff.mpr (fun c hc => by simp [h c (List.mem_reverse.mp hc)])
  rw [cutLast, hnil]

theorem cutLast_append (hc : p c = true) (hv : ∀ c ∈ v, p c = false) : cutLast p (u ++ c :: v) = u := by
  have hdrop : (u ++ c :: v).reverse.dropWhile (fun c => !p c) = c :: u.reverse := by
    rw [List.reverse_append, List.reverse_cons, List.append_assoc,
      List.dropWhile_append_of_pos (fun x hx => by simp [hv x (List.mem_reverse.mp hx)])]
    simp [hc]
  rw [cutLast, hdrop]
  exact List.reverse_reverse u

/-- A list without a match, or the last match. -/
theorem none_or_last (p : α → Bool) (t : List α) :
    (∀ c ∈ t, p c = false) ∨ ∃ u c v, t = u ++ c :: v ∧ p c = true ∧ ∀ x ∈ v, p x = false := by
  induction t using List.reverseRecOn with
  | nil => exact Or.inl (fun c hc => absurd hc List.not_mem_nil)
  | append_singleton t c ih =>
      cases hc : p c with
      | true  => exact Or.inr ⟨t, c, [], rfl, hc, fun x hx => absurd hx List.not_mem_nil⟩
      | false =>
          rcases ih with hnone | ⟨u, d, v, rfl, hd, hv⟩
          · left
            intro x hx
            rcases List.mem_append.mp hx with hx | hx
            · exact hnone x hx
            · rwa [List.mem_singleton.mp hx]
          · refine Or.inr ⟨u, d, v ++ [c], by simp, hd, ?_⟩
            intro x hx
            rcases List.mem_append.mp hx with hx | hx
            · exact hv x hx
            · rwa [List.mem_singleton.mp hx]

theorem cutLast_prefix (p : α → Bool) (t : List α) : cutLast p t <+: t := by
  rcases none_or_last p t with hnone | ⟨u, c, v, rfl, hc, hv⟩
  · rw [cutLast_of_none hnone]
  · rw [cutLast_append hc hv]
    exact List.prefix_append u (c :: v)

theorem cutLast_eq_self_iff : cutLast p t = t ↔ ∀ c ∈ t, p c = false := by
  constructor
  · intro h
    rcases none_or_last p t with hnone | ⟨u, c, v, rfl, hc, hv⟩
    · exact hnone
    · rw [cutLast_append hc hv] at h
      have hlength := congrArg List.length h
      simp at hlength
  · exact cutLast_of_none

/-- **Cutting at the last match is dropping the matches at the end**, for good, exactly if there is at most one
    match and that is the last element. -/
theorem cutLast_iff :
    cutLast p t = t.rdropWhile p ∧ cutLast p (cutLast p t) = cutLast p t ↔ ∀ c ∈ t.dropLast, p c = false := by
  induction t using List.reverseRecOn with
  | nil => simp [cutLast]
  | append_singleton t c _ =>
      rw [List.dropLast_concat]
      cases hc : p c with
      | true =>
          rw [cutLast_append hc (fun x hx => absurd hx List.not_mem_nil), List.rdropWhile_concat_pos _ _ _ hc,
            cutLast_eq_self_iff]
          refine and_iff_right_of_imp (fun hnone => ?_)
          refine (List.rdropWhile_eq_self_iff.mpr fun hne => ?_).symm
          rw [hnone _ (List.getLast_mem hne)]
          exact Bool.false_ne_true
      | false =>
          rw [List.rdropWhile_concat_neg _ _ _ (by rw [hc]; exact Bool.false_ne_true)]
          have hself : cutLast p (t ++ [c]) = t ++ [c] ↔ ∀ x ∈ t, p x = false := by
            rw [cutLast_eq_self_iff, List.forall_mem_append, List.forall_mem_singleton]
            exact and_iff_left hc
          constructor
          · exact fun h => hself.mp h.1
          · intro hnone
            have heq := hself.mpr hnone
            exact ⟨heq, by rw [heq, heq]⟩

end CutLast

/-! ## The function -/

/-- The first loop, which ends at the terminator or at the end of the buffer. `Index` is a `ULONG`. -/
def replaceLoop : Nat → DWORD → List WCHAR → Option (DWORD × List WCHAR)
  | 0,        _,     _      => none
  | fuel + 1, index, buffer =>
    match buffer[index.toNat]? with
    | none   => some (index, buffer)
    | some c =>
      if c = 0x0D#16 ∨ c = 0x0A#16 then replaceLoop fuel (index + 1#32) (buffer.set index.toNat 0x20#16)
      else if c = 0#16 then some (index, buffer)
      else replaceLoop fuel (index + 1#32) buffer

/-- The second loop, which ends at the first space that it meets. -/
def stripLoop : Nat → List WCHAR → List WCHAR
  | 0,         buffer => buffer
  | index + 1, buffer =>
    if buffer[index]? = some 0x20#16 then buffer.set index 0#16 else stripLoop index buffer

/-- `CdiagsStripNewlines`, for a buffer of the given size; `none` says that the first loop takes more steps. -/
def stripNewlines (fuel : Nat) (buffer : List WCHAR) : Option (List WCHAR) :=
  (replaceLoop fuel 0#32 buffer).map fun (index, buffer) => stripLoop index.toNat buffer

/-! ## The text that is left -/

def isSpace (c : WCHAR) : Bool := c == 0x20#16

/-- A line end is replaced by a space. -/
def unbreak (c : WCHAR) : WCHAR := if c = 0x0D#16 ∨ c = 0x0A#16 then 0x20#16 else c

/-- The text in a buffer. -/
def textOf (buffer : List WCHAR) : List WCHAR := buffer.takeWhile (fun c => c ≠ 0#16)

theorem unbreak_ne_zero {c : WCHAR} (h : c ≠ 0#16) : unbreak c ≠ 0#16 := by
  rw [unbreak]
  split
  · decide
  · exact h

theorem textOf_memory (t : CString) (rest : List WCHAR) : textOf (t.memory ++ rest) = t.chars := by
  rw [textOf, CString.memory, List.append_assoc,
    List.takeWhile_append_of_pos (fun c hc => by simpa using t.nonzero c hc)]
  simp

theorem unbreak_unbreak (c : WCHAR) : unbreak (unbreak c) = unbreak c := by
  by_cases hc : c = 0x0D#16 ∨ c = 0x0A#16
  · rw [unbreak, unbreak, if_pos hc]
    rfl
  · rw [unbreak, unbreak, if_neg hc, if_neg hc]

/-- The first loop: it needs a step for each character and one for the terminator. -/
theorem replaceLoop_spec {todo : List WCHAR} (done rest : List WCHAR) (h : ∀ c ∈ todo, c ≠ 0#16)
    (hlength : done.length + todo.length < 2 ^ 32) (fuel : Nat) :
    replaceLoop fuel (BitVec.ofNat 32 done.length) (done ++ todo ++ 0#16 :: rest) =
      if todo.length < fuel then
        some (BitVec.ofNat 32 (done.length + todo.length), done ++ todo.map unbreak ++ 0#16 :: rest)
      else none := by
  induction todo generalizing done fuel with
  | nil =>
      cases fuel with
      | zero => rfl
      | succ fuel =>
          have hindex : (BitVec.ofNat 32 done.length).toNat = done.length := by
            rw [BitVec.toNat_ofNat, Nat.mod_eq_of_lt (by simpa using hlength)]
          have hread : (done ++ [] ++ 0#16 :: rest)[done.length]? = some 0#16 := by simp
          simp only [replaceLoop, hindex, hread]
          simp
  | cons c todo ih =>
      cases fuel with
      | zero => rfl
      | succ fuel =>
          rw [List.length_cons] at hlength
          have hindex : (BitVec.ofNat 32 done.length).toNat = done.length := by
            rw [BitVec.toNat_ofNat, Nat.mod_eq_of_lt (by omega)]
          have hnext : BitVec.ofNat 32 done.length + 1#32 = BitVec.ofNat 32 (done ++ [unbreak c]).length := by
            rw [List.length_append, List.length_singleton, BitVec.ofNat_add]
          have hrest := ih (done ++ [unbreak c]) (fun d hd => h d (List.mem_cons_of_mem _ hd))
            (by rw [List.length_append, List.length_singleton]; omega) fuel
          have hread : (done ++ c :: todo ++ 0#16 :: rest)[done.length]? = some c := by simp
          -- the character is replaced, or it stays because it is no line end
          have hbuffer : (if c = 0x0D#16 ∨ c = 0x0A#16 then (done ++ c :: todo ++ 0#16 :: rest).set done.length 0x20#16
              else done ++ c :: todo ++ 0#16 :: rest) = done ++ [unbreak c] ++ todo ++ 0#16 :: rest := by
            rw [unbreak]
            split <;> simp
          have hstep : replaceLoop (fuel + 1) (BitVec.ofNat 32 done.length) (done ++ c :: todo ++ 0#16 :: rest) =
              replaceLoop fuel (BitVec.ofNat 32 (done ++ [unbreak c]).length)
                (done ++ [unbreak c] ++ todo ++ 0#16 :: rest) := by
            rw [← hbuffer, ← hnext]
            simp only [replaceLoop, hindex, hread, if_neg (h c List.mem_cons_self)]
            split <;> rfl
          rw [hstep, hrest]
          simp [Nat.add_assoc, Nat.add_comm 1]

/-- If there is no terminator that `Index` reaches, the first loop does not end. -/
theorem replaceLoop_endless {buffer : List WCHAR} (h : ∀ i < 2 ^ 32, ∃ c, buffer[i]? = some c ∧ c ≠ 0#16) (fuel : Nat)
    (index : DWORD) : replaceLoop fuel index buffer = none := by
  induction fuel generalizing index buffer with
  | zero => rfl
  | succ fuel ih =>
      obtain ⟨c, hread, hc⟩ := h index.toNat index.isLt
      simp only [replaceLoop, hread, if_neg hc]
      split
      · apply ih
        intro i hi
        obtain ⟨d, hd, hne⟩ := h i hi
        by_cases hindex : index.toNat = i
        · subst hindex
          exact ⟨0x20#16, by simp [List.getElem?_set_self (List.getElem?_eq_some_iff.mp hread).1], by decide⟩
        · exact ⟨d, by rw [List.getElem?_set_ne hindex, hd], hne⟩
      · exact ih h _

/-- The second loop passes over what is no space. -/
theorem stripLoop_append (u : List WCHAR) {v : List WCHAR} (rest : List WCHAR) (h : ∀ c ∈ v, isSpace c = false) :
    stripLoop (u ++ v).length (u ++ v ++ rest) = stripLoop u.length (u ++ v ++ rest) := by
  induction v using List.reverseRecOn generalizing rest with
  | nil => simp
  | append_singleton v c ih =>
      have hread : (u ++ (v ++ [c]) ++ rest)[(u ++ v).length]? = some c := by simp
      have hne : c ≠ 0x20#16 := by simpa [isSpace] using h c (by simp)
      have hlength : (u ++ (v ++ [c])).length = (u ++ v).length + 1 := by simp [Nat.add_assoc]
      have hrest := ih (c :: rest) (fun d hd => h d (by simp [hd]))
      rw [hlength, stripLoop, hread, if_neg (by simpa using hne)]
      simpa using hrest

/-- The second loop ends the text at the last space. -/
theorem stripLoop_spec {t : List WCHAR} (rest : List WCHAR) (h : ∀ c ∈ t, c ≠ 0#16) :
    ∃ t' : CString, ∃ rest', stripLoop t.length (t ++ 0#16 :: rest) = t'.memory ++ rest' ∧
      t'.chars = cutLast isSpace t := by
  rcases none_or_last isSpace t with hnone | ⟨u, c, v, rfl, hc, hv⟩
  · have hloop := stripLoop_append [] (0#16 :: rest) hnone
    refine ⟨⟨t, h⟩, rest, ?_, (cutLast_of_none hnone).symm⟩
    rw [List.nil_append] at hloop
    rw [hloop]
    simp [stripLoop, CString.memory]
  · have hspace : c = 0x20#16 := by simpa [isSpace] using hc
    have hloop := stripLoop_append (u ++ [c]) (0#16 :: rest) hv
    have hread : (u ++ c :: v ++ 0#16 :: rest)[u.length]? = some c := by simp
    refine ⟨⟨u, fun d hd => h d (by simp [hd])⟩, v ++ 0#16 :: rest, ?_, (cutLast_append hc hv).symm⟩
    have hlength : (u ++ [c]).length = u.length + 1 := by simp
    rw [List.append_assoc, List.singleton_append, hlength] at hloop
    rw [hloop, stripLoop, hread, if_pos (by rw [hspace])]
    simp [CString.memory]

/-- **The function cuts the text at its last space** once the line ends are spaces, if the text is short enough
    for `Index`. -/
theorem stripNewlines_spec (t : CString) (rest : List WCHAR) (ht : t.length < 2 ^ 32) :
    ∃ t' : CString, ∃ rest', t'.chars = cutLast isSpace (t.chars.map unbreak) ∧
      ∀ fuel, stripNewlines fuel (t.memory ++ rest) = if t.length < fuel then some (t'.memory ++ rest') else none := by
  have hnonzero : ∀ c ∈ t.chars.map unbreak, c ≠ 0#16 := by
    intro c hc
    obtain ⟨d, hd, rfl⟩ := List.mem_map.mp hc
    exact unbreak_ne_zero (t.nonzero d hd)
  obtain ⟨t', rest', hstrip, hchars⟩ := stripLoop_spec rest hnonzero
  refine ⟨t', rest', hchars, fun fuel => ?_⟩
  have hreplace := replaceLoop_spec [] rest t.nonzero (by simpa [CString.length] using ht) fuel
  rw [List.length_map] at hstrip
  simp only [List.nil_append, List.length_nil, Nat.zero_add] at hreplace
  rw [stripNewlines, CString.memory, List.append_assoc, List.singleton_append]
  change (replaceLoop fuel (BitVec.ofNat 32 0) _).map _ = _
  rw [hreplace]
  change (if t.length < fuel then _ else _ : Option _).map _ = _
  by_cases hfuel : t.length < fuel
  · have hindex : (BitVec.ofNat 32 t.chars.length).toNat = t.chars.length := by
      rw [BitVec.toNat_ofNat]
      exact Nat.mod_eq_of_lt ht
    rw [if_pos hfuel, if_pos hfuel, Option.map_some]
    change some (stripLoop (BitVec.ofNat 32 t.chars.length).toNat _) = _
    rw [hindex, hstrip]
  · rw [if_neg hfuel, if_neg hfuel, Option.map_none]

theorem stripNewlines_endless (t : CString) (rest : List WCHAR) (ht : 2 ^ 32 ≤ t.length) (fuel : Nat) :
    stripNewlines fuel (t.memory ++ rest) = none := by
  rw [stripNewlines, replaceLoop_endless, Option.map_none]
  intro i hi
  have hlt : i < t.chars.length := Nat.lt_of_lt_of_le hi ht
  refine ⟨t.chars[i], ?_, t.nonzero _ (List.getElem_mem hlt)⟩
  rw [CString.memory, List.append_assoc, List.getElem?_append_left hlt, List.getElem?_eq_getElem hlt]

/-! ## No text is lost -/

/-- A space or a line end. -/
def isBlank (c : WCHAR) : Bool := isSpace (unbreak c)

/-- The function leaves the text with spaces for its line ends and without the spaces at the end, and leaves that
    as it is when it is called again. -/
def StripsNewlines (t : CString) (rest : List WCHAR) : Prop :=
  ∃ fuel out, stripNewlines fuel (t.memory ++ rest) = some out ∧
    textOf out = (t.chars.map unbreak).rdropWhile isSpace ∧
    ∃ fuel out', stripNewlines fuel out = some out' ∧ textOf out' = textOf out

/-- **Exactly the texts with no blank before their last character lose nothing**, among those that are short enough
    for `Index`. -/
theorem stripsNewlines_iff (t : CString) (rest : List WCHAR) :
    StripsNewlines t rest ↔ t.length < 2 ^ 32 ∧ ∀ c ∈ t.chars.dropLast, isBlank c = false := by
  by_cases ht : t.length < 2 ^ 32
  · obtain ⟨t', rest', hchars, hrun⟩ := stripNewlines_spec t rest ht
    have hpre : t'.chars <+: t.chars.map unbreak := hchars ▸ cutLast_prefix isSpace _
    have ht' : t'.length < 2 ^ 32 := by
      have hle := hpre.length_le
      rw [List.length_map] at hle
      exact Nat.lt_of_le_of_lt hle ht
    obtain ⟨t'', rest'', hchars', hrun'⟩ := stripNewlines_spec t' rest' ht'
    -- the text that is left has no line ends
    have hunbreak : t'.chars.map unbreak = t'.chars := by
      apply List.map_congr_left (g := id) _ |>.trans (List.map_id _)
      intro c hc
      obtain ⟨d, -, rfl⟩ := List.mem_map.mp (hpre.subset hc)
      exact unbreak_unbreak d
    rw [hunbreak, hchars] at hchars'
    have hblank : (∀ c ∈ (t.chars.map unbreak).dropLast, isSpace c = false) ↔
        ∀ c ∈ t.chars.dropLast, isBlank c = false := by
      rw [← List.map_dropLast, List.forall_mem_map]
      rfl
    rw [and_iff_right ht, ← hblank, ← cutLast_iff, StripsNewlines]
    constructor
    · rintro ⟨fuel, out, hout, htext, fuel', out', hout', htext'⟩
      rw [hrun] at hout
      obtain ⟨-, rfl⟩ : _ ∧ t'.memory ++ rest' = out := by simpa using hout
      rw [hrun'] at hout'
      obtain ⟨-, rfl⟩ : _ ∧ t''.memory ++ rest'' = out' := by simpa using hout'
      rw [textOf_memory, hchars] at htext
      rw [textOf_memory, textOf_memory, hchars', hchars] at htext'
      exact ⟨htext, htext'⟩
    · rintro ⟨hright, hagain⟩
      refine ⟨t.length + 1, t'.memory ++ rest', by rw [hrun, if_pos (Nat.lt_succ_self _)], ?_, t'.length + 1,
        t''.memory ++ rest'', by rw [hrun', if_pos (Nat.lt_succ_self _)], ?_⟩
      · rw [textOf_memory, hchars, hright]
      · rw [textOf_memory, textOf_memory, hchars', hchars, hagain]
  · refine iff_of_false ?_ (fun h => ht h.1)
    rintro ⟨fuel, out, hout, -⟩
    rw [stripNewlines_endless t rest (Nat.not_lt.mp ht)] at hout
    cases hout

/-- "A B", whose inner space ends it. -/
theorem not_stripsNewlines_inner : ¬ StripsNewlines ⟨[0x41#16, 0x20#16, 0x42#16], by simp⟩ [] := by
  rintro ⟨fuel, out, hout, htext, -⟩
  obtain ⟨t', rest', hchars, hrun⟩ := stripNewlines_spec ⟨[0x41#16, 0x20#16, 0x42#16], by simp⟩ [] (by decide)
  rw [hrun] at hout
  obtain ⟨-, rfl⟩ : _ ∧ t'.memory ++ rest' = out := by simpa using hout
  rw [textOf_memory, hchars] at htext
  exact absurd htext (by decide)

/-- A line end at the end is removed. -/
example : (stripNewlines 3 [0x41#16, 0x0A#16, 0#16]).map textOf = some [0x41#16] := by decide

end Cfix.Cdiag
