import Mathlib.Data.List.Basic

/-!
# `Lib.Buffer` — writing into a buffer of fixed size

A buffer is the list of its cells, and `none` says that a write was outside of it. Where a text is written from
front to back, the buffer is what is written so far and the cells that are left.
-/

namespace Buffer

variable {α : Type}

/-- One cell is written. -/
def store (buffer : List α) (i : Nat) (a : α) : Option (List α) :=
  if i < buffer.length then some (buffer.set i a) else none

/-- The cells from `i` on are written. -/
def write : List α → Nat → List α → Option (List α)
  | buffer, _, []      => some buffer
  | buffer, i, a :: as => (store buffer i a).bind fun buffer => write buffer (i + 1) as

theorem store_append (done rest : List α) (a b : α) :
    store (done ++ b :: rest) done.length a = some (done ++ a :: rest) := by
  simp [store]

/-- **A text that fits** takes the place of the first cells that are left. -/
theorem write_append (done : List α) {as rest : List α} (h : as.length ≤ rest.length) :
    write (done ++ rest) done.length as = some (done ++ as ++ rest.drop as.length) := by
  induction as generalizing done rest with
  | nil => simp [write]
  | cons a as ih =>
      cases rest with
      | nil => simp at h
      | cons b rest =>
          have hrest := ih (done ++ [a]) (Nat.le_of_succ_le_succ h)
          rw [List.length_append, List.length_singleton, List.append_assoc, List.singleton_append] at hrest
          rw [write, store_append, Option.bind_some, hrest]
          simp

end Buffer
