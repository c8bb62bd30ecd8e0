import Mathlib.Data.List.Basic

/-!
# `Lib.Tiling` — regions that lie one behind the other

A region is a start and a length. Regions that follow each other without a gap (`Consecutive`) have no byte in common,
and together they are the range from the first to the last (`Tiles`).
-/

namespace Tiling

structure Region where
  start  : Nat
  length : Nat
  deriving DecidableEq, Repr

namespace Region

/-- The address is in the region. -/
def Contains (r : Region) (x : Nat) : Prop := r.start ≤ x ∧ x < r.start + r.length

/-- The regions have no address in common. -/
def Apart (r s : Region) : Prop := r.start + r.length ≤ s.start ∨ s.start + s.length ≤ r.start

end Region

/-- The regions are pairwise disjoint, and together they are the addresses from `a` up to `b`. -/
structure Tiles (rs : List Region) (a b : Nat) : Prop where
  apart  : rs.Pairwise Region.Apart
  covers : ∀ x, (∃ r ∈ rs, r.Contains x) ↔ a ≤ x ∧ x < b

/-- The regions lead from `a` to `b`. -/
def Consecutive : Nat → List Region → Nat → Prop
  | a, [],      b => a = b
  | a, r :: rs, b => r.start = a ∧ Consecutive (a + r.length) rs b

variable {a b c : Nat} {rs ss : List Region}

theorem Consecutive.le (h : Consecutive a rs b) : a ≤ b := by
  induction rs generalizing a with
  | nil => exact Nat.le_of_eq h
  | cons r rs ih => exact Nat.le_trans (Nat.le_add_right a r.length) (ih h.2)

theorem Consecutive.append (h : Consecutive a rs b) (h' : Consecutive b ss c) : Consecutive a (rs ++ ss) c := by
  induction rs generalizing a with
  | nil =>
      obtain rfl : a = b := h
      exact h'
  | cons r rs ih => exact ⟨h.1, ih h.2⟩

/-- What is behind the start lies behind it. -/
theorem Consecutive.start_le (h : Consecutive a rs b) : ∀ r ∈ rs, a ≤ r.start := by
  induction rs generalizing a with
  | nil => simp
  | cons r rs ih =>
      intro s hs
      rcases List.mem_cons.mp hs with rfl | hs
      · exact Nat.le_of_eq h.1.symm
      · exact Nat.le_trans (Nat.le_add_right a r.length) (ih h.2 s hs)

/-- **Consecutive regions are a tiling.** -/
theorem Consecutive.tiles (h : Consecutive a rs b) : Tiles rs a b := by
  induction rs generalizing a with
  | nil =>
      obtain rfl : a = b := h
      refine ⟨List.Pairwise.nil, ?_⟩
      intro x
      constructor
      · rintro ⟨r, hr, -⟩
        cases hr
      · omega
  | cons r rs ih =>
      obtain ⟨rfl, hrest⟩ := h
      obtain ⟨hapart, hcovers⟩ := ih hrest
      have hle := hrest.le
      refine ⟨List.pairwise_cons.mpr ⟨fun s hs => Or.inl (hrest.start_le s hs), hapart⟩, ?_⟩
      intro x
      constructor
      · rintro ⟨s, hs, hx⟩
        rcases List.mem_cons.mp hs with rfl | hs
        · exact ⟨hx.1, Nat.lt_of_lt_of_le hx.2 hle⟩
        · have hin := (hcovers x).mp ⟨s, hs, hx⟩
          omega
      · rintro ⟨hlo, hhi⟩
        by_cases hx : x < r.start + r.length
        · exact ⟨r, List.mem_cons_self, hlo, hx⟩
        · obtain ⟨s, hs, hx⟩ := (hcovers x).mpr ⟨by omega, hhi⟩
          exact ⟨s, List.mem_cons_of_mem _ hs, hx⟩

end Tiling
