import Mathlib.Data.List.Basic

/-!
# `Lib.Bracket` — properly nested words of labelled brackets

`Nested w` says that every opening bracket of `w` is closed by exactly one bracket with the same label,
that what stands between the two is nested itself, and that nothing is closed that was not opened. The
closure lemmas build such words from their parts; `Nested.count_eq` refutes nesting.
-/

namespace Bracket

variable {α β : Type}

/-- An opening or a closing bracket with a label. -/
inductive Tok (α : Type) where
  | opn (a : α)
  | cls (a : α)
  deriving DecidableEq, Repr

/-- Properly nested words: a bracket pair around a nested word, followed by a nested word. -/
inductive Nested : List (Tok α) → Prop where
  | nil : Nested []
  | pair {u v : List (Tok α)} (a : α) : Nested u → Nested v → Nested (.opn a :: u ++ .cls a :: v)

/-- Nested words can be put one after the other. -/
theorem Nested.append {u v : List (Tok α)} (hu : Nested u) (hv : Nested v) : Nested (u ++ v) := by
  induction hu with
  | nil => exact hv
  | @pair u w a hu _ _ ihw =>
      have h := Nested.pair a hu ihw
      simpa using h

/-- A bracket pair around a nested word. -/
theorem Nested.wrap {u : List (Tok α)} (a : α) (hu : Nested u) : Nested (.opn a :: u ++ [.cls a]) :=
  .pair a hu .nil

/-- The parts of a list of nested words make a nested word. -/
theorem Nested.flatMap {f : β → List (Tok α)} {bs : List β} (h : ∀ b ∈ bs, Nested (f b)) :
    Nested (bs.flatMap f) := by
  induction bs with
  | nil => exact .nil
  | cons b bs ih =>
      rw [List.flatMap_cons]
      exact (h b (by simp)).append (ih (fun c hc => h c (by simp [hc])))

/-- **A nested word opens and closes each label equally often.** -/
theorem Nested.count_eq [DecidableEq α] {w : List (Tok α)} (h : Nested w) (a : α) :
    w.count (.opn a) = w.count (.cls a) := by
  induction h with
  | nil => rfl
  | pair b _ _ ihu ihv =>
      simp only [List.cons_append, List.count_cons, List.count_append]
      by_cases hb : b = a
      · subst hb
        simp [ihu, ihv]
        omega
      · simp [hb, ihu, ihv]

end Bracket
