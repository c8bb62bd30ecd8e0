import Mathlib.Data.List.Dedup
import Mathlib.Data.List.Perm.Basic

/-!
# `Lib.RefCount` — reference counts and their owners

A table has the reference count of each object that was created. An object whose count has got to zero is freed,
and `none` says that a freed object was used. The counts are owned if they are the numbers of references that the
owners hold, which are listed one by one; then nothing that an owner uses is freed, and what no owner holds is.
-/

namespace RefCount

/-- The reference counts of the objects, in the order they were created in. -/
abbrev Table := List Nat

/-- A new object with one reference; its number is the length of the table. -/
def create (t : Table) : Table := t ++ [1]

/-- One reference more. -/
def reference (t : Table) (x : Nat) : Option Table :=
  match t[x]? with
  | some (n + 1) => some (t.set x (n + 2))
  | _            => none

/-- One reference less, and whether it was the last one. -/
def dereference (t : Table) (x : Nat) : Option (Bool × Table) :=
  match t[x]? with
  | some (n + 1) => some (n == 0, t.set x n)
  | _            => none

/-- All objects are freed. -/
def AllFreed (t : Table) : Prop := ∀ n ∈ t, n = 0

instance (t : Table) : Decidable (AllFreed t) := inferInstanceAs (Decidable (∀ n ∈ t, n = 0))

/-- The count of each object is the number of its owners. -/
def Owned (t : Table) (owners : List Nat) : Prop := ∀ x, (t[x]?).getD 0 = owners.count x

variable {t : Table} {owners owners' : List Nat} {x : Nat}

theorem owned_nil : Owned [] [] := fun _ => rfl

theorem Owned.perm (h : Owned t owners) (hperm : owners.Perm owners') : Owned t owners' :=
  fun x => (h x).trans (hperm.count_eq x)

/-- What an owner holds is not freed. -/
theorem Owned.exists_count (h : Owned t owners) (hx : x ∈ owners) : ∃ n, t[x]? = some (n + 1) ∧ owners.count x = n + 1 := by
  have hcount := h x
  have hpos : 0 < owners.count x := List.count_pos_iff.mpr hx
  cases hget : t[x]? with
  | none =>
      rw [hget, Option.getD_none] at hcount
      omega
  | some m =>
      rw [hget, Option.getD_some] at hcount
      obtain ⟨n, rfl⟩ : ∃ n, m = n + 1 := ⟨m - 1, by omega⟩
      exact ⟨n, rfl, hcount.symm⟩

theorem Owned.lt_length (h : Owned t owners) (hx : x ∈ owners) : x < t.length := by
  obtain ⟨n, hget, -⟩ := h.exists_count hx
  exact (List.getElem?_eq_some_iff.mp hget).1

/-- The next number is not in use. -/
theorem Owned.length_notMem (h : Owned t owners) : t.length ∉ owners := fun hx => absurd (h.lt_length hx) (Nat.lt_irrefl _)

theorem owned_create (h : Owned t owners) : Owned (create t) (t.length :: owners) := by
  intro x
  rcases Nat.lt_trichotomy x t.length with hlt | rfl | hgt
  · rw [create, List.getElem?_append_left hlt, h x, List.count_cons_of_ne (by omega)]
  · have hzero : owners.count t.length = 0 := List.count_eq_zero.mpr h.length_notMem
    simp [create, hzero]
  · rw [create, List.getElem?_eq_none (by simp; omega), List.count_cons_of_ne (by omega), ← h x,
      List.getElem?_eq_none (by omega)]

/-- An owner may take another reference. -/
theorem owned_reference (h : Owned t owners) (hx : x ∈ owners) :
    ∃ t', reference t x = some t' ∧ Owned t' (x :: owners) ∧ t'.length = t.length := by
  obtain ⟨n, hget, hcount⟩ := h.exists_count hx
  refine ⟨t.set x (n + 2), by rw [reference, hget], fun y => ?_, List.length_set⟩
  by_cases hy : x = y
  · subst hy
    simp [h.lt_length hx, hcount]
  · rw [List.getElem?_set_ne hy, h y, List.count_cons_of_ne hy]

/-- An owner may give back a reference; it is the last one if there is no other owner. -/
theorem owned_dereference (h : Owned t (x :: owners)) :
    ∃ t', dereference t x = some (decide (x ∉ owners), t') ∧ Owned t' owners ∧ t'.length = t.length := by
  obtain ⟨n, hget, hcount⟩ := h.exists_count List.mem_cons_self
  rw [List.count_cons_self] at hcount
  have hlast : (n == 0) = decide (x ∉ owners) := by
    rw [← Nat.succ.inj hcount, Bool.eq_iff_iff, beq_iff_eq, decide_eq_true_iff, List.count_eq_zero]
  refine ⟨t.set x n, by rw [dereference, hget, ← hlast], fun y => ?_, List.length_set⟩
  by_cases hy : x = y
  · subst hy
    simp [h.lt_length List.mem_cons_self, Nat.succ.inj hcount]
  · rw [List.getElem?_set_ne hy, h y, List.count_cons_of_ne hy]

/-- **Without owners, everything is freed.** -/
theorem allFreed_of_owned (h : Owned t []) : AllFreed t := by
  intro n hn
  obtain ⟨x, hget⟩ := List.getElem?_of_mem hn
  have hcount := h x
  rw [hget, Option.getD_some, List.count_nil] at hcount
  exact hcount

/-! ## References that others take and give back -/

inductive RefCall where
  | reference
  | dereference
  deriving DecidableEq, Repr

/-- How many references the callers hold, who held `n` before; `none` if they give back one that they do not hold. -/
def heldAfter : Nat → List RefCall → Option Nat
  | n, []                          => some n
  | n, .reference :: calls         => heldAfter (n + 1) calls
  | 0, .dereference :: _           => none
  | n + 1, .dereference :: calls   => heldAfter n calls

theorem heldAfter_append (n : Nat) (calls calls' : List RefCall) :
    heldAfter n (calls ++ calls') = (heldAfter n calls).bind (fun m => heldAfter m calls') := by
  induction calls generalizing n with
  | nil => rfl
  | cons call calls ih =>
      cases call with
      | reference => exact ih (n + 1)
      | dereference =>
          cases n with
          | zero => rfl
          | succ n => exact ih n

end RefCount
