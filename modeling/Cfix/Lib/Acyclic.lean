import Mathlib.Algebra.GroupWithZero.Nat
import Mathlib.Order.WellFoundedSet

/-!
# `Lib.Acyclic` — relations without cycles

An edge keeps a relation acyclic exactly if its target does not reach its source. A relation that is acyclic
and has finitely many sources is well founded, so what an element costs can be defined from the costs of its
successors.
-/

namespace Acyclic

open Relation

variable {α : Type} {r r' : α → α → Prop} {a b q x : α}

/-- No element reaches itself. -/
def IsAcyclic (r : α → α → Prop) : Prop := ∀ x, ¬ TransGen r x x

/-- The relation with one more edge. -/
def withEdge (r : α → α → Prop) (q x : α) : α → α → Prop := fun a b => r a b ∨ a = q ∧ b = x

theorem IsAcyclic.mono (h : IsAcyclic r) (hsub : ∀ a b, r' a b → r a b) : IsAcyclic r' :=
  fun x hx => h x (TransGen.mono hsub _ _ hx)

theorem IsAcyclic.swap (h : IsAcyclic r) : IsAcyclic (Function.swap r) :=
  fun x hx => h x (transGen_swap.mp hx)

/-- A path in the larger relation takes the new edge or does not. -/
theorem transGen_withEdge (h : TransGen (withEdge r q x) a b) :
    TransGen r a b ∨ ReflTransGen r a q ∧ ReflTransGen r x b := by
  induction h with
  | single hedge =>
      rcases hedge with hedge | ⟨rfl, rfl⟩
      · exact .inl (.single hedge)
      · exact .inr ⟨.refl, .refl⟩
  | tail _ hedge ih =>
      rcases hedge with hedge | ⟨rfl, rfl⟩
      · rcases ih with hpath | ⟨hto, hfrom⟩
        · exact .inl (hpath.tail hedge)
        · exact .inr ⟨hto, hfrom.tail hedge⟩
      · rcases ih with hpath | ⟨hto, -⟩
        · exact .inr ⟨hpath.to_reflTransGen, .refl⟩
        · exact .inr ⟨hto, .refl⟩

/-- **When an edge closes a cycle.** -/
theorem isAcyclic_withEdge (h : IsAcyclic r) : IsAcyclic (withEdge r q x) ↔ ¬ ReflTransGen r x q := by
  constructor
  · intro hacyclic hpath
    have hedge : withEdge r q x q x := .inr ⟨rfl, rfl⟩
    have hback : ReflTransGen (withEdge r q x) x q := hpath.mono (fun _ _ => Or.inl) _ _
    exact hacyclic q (TransGen.head' hedge hback)
  · intro hpath y hy
    rcases transGen_withEdge hy with hcycle | ⟨hto, hfrom⟩
    · exact h y hcycle
    · exact hpath (hfrom.trans hto)

/-- **Finitely many sources**: without cycles every path ends. -/
theorem IsAcyclic.wellFounded (h : IsAcyclic r) {s : Set α} (hs : s.Finite) (hsources : ∀ a b, r a b → a ∈ s) :
    WellFounded (Function.swap r) := by
  have htrans : IsTrans α (TransGen (Function.swap r)) := ⟨fun _ _ _ => TransGen.trans⟩
  have hirrefl : Std.Irrefl (TransGen (Function.swap r)) := ⟨fun y hy => h y (transGen_swap.mp hy)⟩
  have horder : IsStrictOrder α (TransGen (Function.swap r)) := {}
  have hon : s.WellFoundedOn (TransGen (Function.swap r)) := hs.wellFoundedOn
  -- an element that is no source has no successors
  have hother : ∀ y, y ∉ s → Acc (Function.swap r) y :=
    fun y hy => ⟨y, fun z hz => absurd (hsources y z hz) hy⟩
  refine ⟨fun y => ?_⟩
  by_cases hy : y ∈ s
  · apply hon.induction hy
    intro y _ ih
    refine ⟨y, fun z hz => ?_⟩
    by_cases hzs : z ∈ s
    · exact ih z hzs (.single hz)
    · exact hother z hzs
  · exact hother y hy

/-- **Costs**: an element may cost as much as its successors together, and more. -/
theorem exists_cost {succ : α → List α} (hwf : WellFounded fun y x => y ∈ succ x) (own : α → Nat) :
    ∃ cost : α → Nat, ∀ x, cost x = own x + ((succ x).map cost).sum := by
  refine ⟨hwf.fix fun x ih => own x + ((succ x).attach.map fun y => ih y.1 y.2).sum, ?_⟩
  intro x
  rw [hwf.fix_eq]
  simp only [List.map_attach_eq_pmap, List.pmap_eq_map]

end Acyclic
