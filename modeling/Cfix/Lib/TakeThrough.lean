import Mathlib.Data.List.Basic

/-!
# `Lib.TakeThrough` — a list up to and including the first element with a property

What a loop with a `break` after the loop body visits. `takeThrough p l` is a prefix of `l`; all but its
last element fail `p`.
-/

namespace TakeThrough

variable {α : Type} {p : α → Bool} {l : List α} {x : α}

/-- The elements of the list up to and including the first that satisfies `p`. -/
def takeThrough (p : α → Bool) : List α → List α
  | []      => []
  | x :: xs => if p x then [x] else x :: takeThrough p xs

@[simp] theorem takeThrough_nil : takeThrough p [] = [] := rfl

theorem takeThrough_cons_pos {xs : List α} (h : p x = true) : takeThrough p (x :: xs) = [x] := by
  simp [takeThrough, h]

theorem takeThrough_cons_neg {xs : List α} (h : p x = false) :
    takeThrough p (x :: xs) = x :: takeThrough p xs := by
  simp [takeThrough, h]

theorem takeThrough_prefix_self (p : α → Bool) (l : List α) : takeThrough p l <+: l := by
  induction l with
  | nil => exact List.prefix_rfl
  | cons x xs ih =>
      cases h : p x with
      | true  => simp [takeThrough_cons_pos h]
      | false =>
          rw [takeThrough_cons_neg h]
          exact (List.prefix_cons_inj x).mpr ih

theorem mem_of_mem_takeThrough (h : x ∈ takeThrough p l) : x ∈ l :=
  (takeThrough_prefix_self p l).subset h

/-- Where nothing satisfies `p` the whole list is taken. -/
theorem takeThrough_eq_self (h : ∀ x ∈ l, p x = false) : takeThrough p l = l := by
  induction l with
  | nil => rfl
  | cons x xs ih =>
      rw [takeThrough_cons_neg (h x (by simp)), ih (fun y hy => h y (by simp [hy]))]

theorem takeThrough_congr {q : α → Bool} (h : ∀ x ∈ l, p x = q x) : takeThrough p l = takeThrough q l := by
  induction l with
  | nil => rfl
  | cons x xs ih =>
      rw [takeThrough, takeThrough, h x (by simp), ih (fun y hy => h y (by simp [hy]))]

/-- Elements that fail `p` are taken. -/
theorem takeThrough_append {pre post : List α} (h : ∀ y ∈ pre, p y = false) :
    takeThrough p (pre ++ post) = pre ++ takeThrough p post := by
  induction pre with
  | nil => rfl
  | cons y ys ih =>
      rw [List.cons_append, List.cons_append, takeThrough_cons_neg (h y (by simp)),
        ih (fun z hz => h z (by simp [hz]))]

/-- If some element satisfies `p`, the last one that is taken does, and no other one. -/
theorem takeThrough_of_any (h : l.any p = true) :
    ∃ pre x, takeThrough p l = pre ++ [x] ∧ x ∈ l ∧ (∀ y ∈ pre, p y = false) ∧ p x = true := by
  induction l with
  | nil => simp at h
  | cons y ys ih =>
      cases hy : p y with
      | true  => exact ⟨[], y, takeThrough_cons_pos hy, by simp, by simp, hy⟩
      | false =>
          rw [List.any_cons, hy, Bool.false_or] at h
          obtain ⟨pre, x, htake, hmem, hpre, hx⟩ := ih h
          refine ⟨y :: pre, x, ?_, List.mem_cons_of_mem y hmem, ?_, hx⟩
          · rw [takeThrough_cons_neg hy, htake, List.cons_append]
          · simpa [hy] using hpre

/-- The indices that satisfy `q`, before and after one of them. -/
theorem filter_range_split {q : Nat → Bool} {n i : Nat} (hlt : i < n) (hq : q i = true) :
    (List.range n).filter q =
      (List.range i).filter q ++ i :: (List.range' (i + 1) (n - i - 1)).filter q := by
  have hsplit : List.range n = List.range i ++ i :: List.range' (i + 1) (n - i - 1) := by
    have hn : n = i + (n - i - 1 + 1) := by omega
    conv_lhs => rw [hn]
    rw [List.range_eq_range', List.range_eq_range', ← List.range'_append_1, List.range'_succ, Nat.zero_add]
  rw [hsplit, List.filter_append, List.filter_cons, if_pos hq]

/-- The list of the indices that satisfy `q`, up to the first one that satisfies `p`. -/
theorem takeThrough_filter_range {p q : Nat → Bool} {n i : Nat} (hlt : i < n) (hq : q i = true)
    (hearlier : ∀ j < i, q j = true → p j = false) (hp : p i = true) :
    takeThrough p ((List.range n).filter q) = (List.range i).filter q ++ [i] := by
  have hnone : ∀ j ∈ (List.range i).filter q, p j = false := by
    intro j hj
    simp only [List.mem_filter, List.mem_range] at hj
    exact hearlier j hj.1 hj.2
  rw [filter_range_split hlt hq, takeThrough_append hnone, takeThrough_cons_pos hp]

end TakeThrough
