import Mathlib.Data.List.Forall2
import Cfix.Lib.Memory

/-!
# `Lib.Records` — self-delimiting records that stand one behind the other in memory

A `Layout` says how many bytes a record takes and when the bytes at an address are that record; it must be
`local_`, that is decided by these bytes alone, wherever they are. A `Chain` of records is extended at its
end, survives every change behind its end and can be copied as a whole. A reader that finds the next record from the size it reads in the current one visits
exactly the records of the chain (`Chain.forall₂`).
-/

namespace Memory

structure Layout (α : Type) where
  size   : α → Nat
  Stored : Mem → Nat → α → Prop
  local_ : ∀ {m m' : Mem} {a a' : Nat} {e : α}, Stored m a e → Same m a m' a' (size e) → Stored m' a' e

namespace Layout

variable {α β : Type} (L : Layout α)

/-- The bytes that the records take together. -/
def total (es : List α) : Nat := (es.map L.size).sum

/-- The records stand one behind the other from address `a` on. -/
def Chain (m : Mem) : Nat → List α → Prop
  | _, []      => True
  | a, e :: es => L.Stored m a e ∧ Chain m (a + L.size e) es

@[simp] theorem total_nil : L.total [] = 0 := rfl

@[simp] theorem total_cons (e : α) (es : List α) : L.total (e :: es) = L.size e + L.total es := rfl

@[simp] theorem total_append (es fs : List α) : L.total (es ++ fs) = L.total es + L.total fs := by
  simp [total]

/-- Records of at least `k` bytes take at least `k` bytes each. -/
theorem mul_length_le_total {k : Nat} {es : List α} (h : ∀ e ∈ es, k ≤ L.size e) :
    k * es.length ≤ L.total es := by
  induction es with
  | nil => exact Nat.le_refl _
  | cons e es ih =>
      have he := h e List.mem_cons_self
      have hes := ih (fun x hx => h x (List.mem_cons_of_mem _ hx))
      rw [total_cons, List.length_cons, Nat.mul_succ]
      omega

variable {L}

/-- The same bytes are the same chain. -/
theorem Chain.congr {m m' : Mem} {a a' : Nat} {es : List α} (h : L.Chain m a es)
    (hsame : Same m a m' a' (L.total es)) : L.Chain m' a' es := by
  induction es generalizing a a' with
  | nil => exact trivial
  | cons e es ih =>
      rw [total_cons] at hsame
      obtain ⟨he, hes⟩ := h
      refine ⟨L.local_ he (hsame.mono (Nat.le_refl a) (by omega) (by omega)), ih hes (hsame.mono ?_ ?_ ?_)⟩
      · exact Nat.le_add_right a _
      · omega
      · omega

theorem Chain.append {m : Mem} {a : Nat} {es fs : List α} (h : L.Chain m a es)
    (hf : L.Chain m (a + L.total es) fs) : L.Chain m a (es ++ fs) := by
  induction es generalizing a with
  | nil => exact hf
  | cons e es ih =>
      obtain ⟨he, hes⟩ := h
      rw [total_cons, ← Nat.add_assoc] at hf
      exact ⟨he, ih hes hf⟩

/-- One more record at the end. -/
theorem Chain.snoc {m : Mem} {a : Nat} {es : List α} {e : α} (h : L.Chain m a es)
    (he : L.Stored m (a + L.total es) e) : L.Chain m a (es ++ [e]) :=
  h.append ⟨he, trivial⟩

/-- The last record stands behind all others. -/
theorem Chain.last {m : Mem} {a : Nat} {es : List α} {e : α} (h : L.Chain m a (es ++ [e])) :
    L.Stored m (a + L.total es) e := by
  induction es generalizing a with
  | nil => exact h.1
  | cons e' es ih =>
      have hrest := ih h.2
      rwa [total_cons, ← Nat.add_assoc]

/-! ## Readers -/

/-- The addresses of `n` records from `a` on, as a reader finds them that adds the size it reads. -/
def positions (sizeAt : Nat → Nat) : Nat → Nat → List Nat
  | 0, _     => []
  | n + 1, a => a :: positions sizeAt n (a + sizeAt a)

/-- **The reader stays in step.** It finds the records of the chain, each where it is stored. -/
theorem Chain.forall₂ {m : Mem} {sizeAt : Nat → Nat} {a : Nat} {es : List α} (h : L.Chain m a es)
    (hsize : ∀ a e, L.Stored m a e → sizeAt a = L.size e) :
    List.Forall₂ (L.Stored m) (positions sizeAt es.length a) es := by
  induction es generalizing a with
  | nil => exact .nil
  | cons e es ih =>
      obtain ⟨he, hes⟩ := h
      rw [List.length_cons, positions, hsize a e he]
      exact .cons he (ih hes)

/-- What is read from each record is what it holds. -/
theorem Chain.map_positions {m : Mem} {sizeAt : Nat → Nat} {a : Nat} {es : List α} (h : L.Chain m a es)
    (hsize : ∀ a e, L.Stored m a e → sizeAt a = L.size e) {item : Nat → β} {f : α → β}
    (hitem : ∀ a e, L.Stored m a e → item a = f e) :
    (positions sizeAt es.length a).map item = es.map f := by
  rw [← List.forall₂_eq_eq_eq, List.forall₂_map_left_iff, List.forall₂_map_right_iff]
  exact (h.forall₂ hsize).imp hitem

end Layout

end Memory
