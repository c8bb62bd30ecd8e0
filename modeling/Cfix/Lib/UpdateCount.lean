import Mathlib.Algebra.BigOperators.Group.Finset.Piecewise
import Mathlib.Data.Set.Card

/-!
# `Lib.UpdateCount` — how many arguments a function maps into a property

Where a function gets a new value at one argument, the number of arguments whose value has a property
changes by what the old and the new value contribute; so does the sum of the weights of its values.
-/

namespace UpdateCount

variable {α β : Type} (P : β → Prop) (f : α → β) (a : α) (b : β)

/-- The arguments, other than `a`, with the property. -/
theorem setOf_update_diff [DecidableEq α] : {x | P (Function.update f a b x)} \ {a} = {x | P (f x)} \ {a} := by
  ext x
  simp only [Set.mem_sdiff, Set.mem_ofPred_eq, Set.mem_singleton_iff]
  constructor
  · rintro ⟨hP, hne⟩
    rw [Function.update_of_ne hne] at hP
    exact ⟨hP, hne⟩
  · rintro ⟨hP, hne⟩
    refine ⟨?_, hne⟩
    rw [Function.update_of_ne hne]
    exact hP

theorem finite_update [DecidableEq α] (h : {x | P (f x)}.Finite) : {x | P (Function.update f a b x)}.Finite := by
  have hdiff : ({x | P (Function.update f a b x)} \ {a}).Finite := by
    rw [setOf_update_diff]
    exact h.subset Set.sdiff_subset
  exact (hdiff.insert a).subset (Set.subset_insert_sdiff_singleton a _)

variable [DecidablePred P]

/-- A finite set, counted without and with one of its possible members. -/
theorem ncard_eq_diff_add {g : α → β} (h : {x | P (g x)}.Finite) :
    {x | P (g x)}.ncard = ({x | P (g x)} \ {a}).ncard + if P (g a) then 1 else 0 := by
  by_cases hP : P (g a)
  · rw [if_pos hP, Set.ncard_sdiff_singleton_add_one (show a ∈ {x | P (g x)} from hP) h]
  · rw [if_neg hP, Set.sdiff_singleton_eq_self (show a ∉ {x | P (g x)} from hP), Nat.add_zero]

/-- **Counting after an update.** -/
theorem ncard_update [DecidableEq α] (h : {x | P (f x)}.Finite) :
    {x | P (Function.update f a b x)}.ncard + (if P (f a) then 1 else 0)
      = {x | P (f x)}.ncard + if P b then 1 else 0 := by
  rw [ncard_eq_diff_add P a (finite_update P f a b h), ncard_eq_diff_add P a h, setOf_update_diff,
    Function.update_self]
  omega

/-- **Summing weights after an update.** -/
theorem sum_update [DecidableEq α] {s : Finset α} (ha : a ∈ s) (w : β → Nat) :
    ∑ x ∈ s, w (Function.update f a b x) + w (f a) = ∑ x ∈ s, w (f x) + w b := by
  have hcomp : ∀ x, w (Function.update f a b x) = Function.update (fun x => w (f x)) a (w b) x := by
    intro x
    by_cases hx : x = a
    · subst hx
      simp
    · simp [hx]
  simp only [hcomp]
  rw [Finset.sum_update_of_mem ha, Finset.sum_eq_add_sum_sdiff_singleton_of_mem ha (fun x => w (f x))]
  omega

end UpdateCount
