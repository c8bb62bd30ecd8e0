import Mathlib.Data.List.Basic

/-!
# `Lib.Definedness` — computations that access what may not be there

A computation that accesses memory has no result if the memory is not there. `DefinedIff` states when it has one, and
which one; the rules compose the conditions as the computation is composed, so that the condition of a whole function
comes out of those of its accesses.
-/

namespace Definedness

variable {α β : Type}

/-- The computation has a result exactly if `P` holds, and this is `v` then. -/
structure DefinedIff (x : Option α) (P : Prop) (v : α) : Prop where
  eq_some : P → x = some v
  eq_none : ¬ P → x = none

variable {x y : Option α} {P Q : Prop} {u v : α}

theorem DefinedIff.isSome_iff (h : DefinedIff x P v) : x.isSome = true ↔ P := by
  constructor
  · intro hsome
    by_contra hnot
    rw [h.eq_none hnot] at hsome
    cases hsome
  · intro hP
    rw [h.eq_some hP]
    rfl

theorem DefinedIff.congr (h : DefinedIff x P v) (hiff : P ↔ Q) (heq : P → v = u) : DefinedIff x Q u where
  eq_some hQ     := by rw [h.eq_some (hiff.mpr hQ), heq (hiff.mpr hQ)]
  eq_none hnot   := h.eq_none (mt hiff.mp hnot)

theorem definedIff_pure (v : α) : DefinedIff (pure v) True v := ⟨fun _ => rfl, fun hnot => absurd trivial hnot⟩

/-- An access. -/
theorem definedIff_access [Decidable P] (v : α) : DefinedIff (if P then some v else none) P v :=
  ⟨fun hP => if_pos hP, fun hnot => if_neg hnot⟩

/-- What follows needs its own condition only if there is a first result. -/
theorem DefinedIff.bind {k : α → Option β} {w : β} (h : DefinedIff x P v) (hk : P → DefinedIff (k v) Q w) :
    DefinedIff (x >>= k) (P ∧ Q) w where
  eq_some := by
    rintro ⟨hP, hQ⟩
    rw [h.eq_some hP]
    exact (hk hP).eq_some hQ
  eq_none := by
    intro hnot
    by_cases hP : P
    · rw [h.eq_some hP]
      exact (hk hP).eq_none (fun hQ => hnot ⟨hP, hQ⟩)
    · rw [h.eq_none hP]
      rfl

theorem DefinedIff.ite {c : Prop} [Decidable c] (hpos : c → DefinedIff x P u) (hneg : ¬ c → DefinedIff y Q v) :
    DefinedIff (if c then x else y) ((c → P) ∧ (¬ c → Q)) (if c then u else v) := by
  by_cases hc : c
  · rw [if_pos hc, if_pos hc]
    exact (hpos hc).congr (by simp [hc]) (fun _ => rfl)
  · rw [if_neg hc, if_neg hc]
    exact (hneg hc).congr (by simp [hc]) (fun _ => rfl)

/-! ## Linear search -/

/-- A loop that ends early, with a result, when a test has one. -/
def search (test : Nat → Option (Option β)) : Nat → Nat → Option (Option β)
  | 0, _     => some none
  | n + 1, i =>
    match test i with
    | none          => none
    | some (some b) => some (some b)
    | some none     => search test n (i + 1)

variable {test : Nat → Option (Option β)} {holds : Nat → Prop} {value : Nat → Option β}

/-- **The search** needs the conditions of the tests up to the first one with a result. -/
theorem definedIff_search (h : ∀ i, DefinedIff (test i) (holds i) (value i)) (n i : Nat) :
    DefinedIff (search test n i) (∀ j < n, (∀ k < j, value (i + k) = none) → holds (i + j))
      ((List.range' i n).findSome? value) := by
  induction n generalizing i with
  | zero => exact ⟨fun _ => rfl, fun hnot => absurd (fun j hj => absurd hj (Nat.not_lt_zero j)) hnot⟩
  | succ n ih =>
      have hrest := ih (i + 1)
      rw [search, List.range'_succ, List.findSome?_cons]
      by_cases hi : holds i
      · rw [(h i).eq_some hi]
        cases hvalue : value i with
        | some b =>
            refine ⟨fun _ => rfl, fun hnot => absurd ?_ hnot⟩
            intro j _ hbefore
            cases j with
            | zero   => exact hi
            | succ j => exact absurd (hvalue.symm.trans (hbefore 0 (Nat.succ_pos j))) nofun
        | none =>
            apply hrest.congr
            · constructor
              · intro hafter j hj hbefore
                cases j with
                | zero => exact hi
                | succ j =>
                    rw [show i + (j + 1) = i + 1 + j by omega]
                    apply hafter j (by omega)
                    intro k hk
                    rw [show i + 1 + k = i + (k + 1) by omega]
                    exact hbefore (k + 1) (by omega)
              · intro hall j hj hbefore
                rw [show i + 1 + j = i + (j + 1) by omega]
                apply hall (j + 1) (by omega)
                intro k hk
                cases k with
                | zero => exact hvalue
                | succ k =>
                    rw [show i + (k + 1) = i + 1 + k by omega]
                    exact hbefore k (by omega)
            · exact fun _ => rfl
      · rw [(h i).eq_none hi]
        refine ⟨fun hall => absurd (hall 0 (Nat.succ_pos n) ?_) hi, fun _ => rfl⟩
        intro k hk
        exact absurd hk (Nat.not_lt_zero k)

end Definedness
