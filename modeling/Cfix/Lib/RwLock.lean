import Mathlib.Data.List.Basic

/-!
# `Lib.RwLock` — a shared/exclusive lock

Any number of parties own the lock shared, or one owns it exclusively. A party that wants it exclusively
first queues up; while someone is queued no new shared ownership is granted. That the two kinds of
ownership exclude each other is a field of the lock.
-/

/-- A shared/exclusive lock between parties `α`. -/
structure RwLock (α : Type) where
  shared    : List α
  exclusive : Option α
  waiting   : List α
  excludes  : exclusive.isSome = true → shared = []

namespace RwLock

variable {α : Type} {l l' : RwLock α} {a b : α}

/-- The lock nobody owns. -/
def free : RwLock α where
  shared        := []
  exclusive     := none
  waiting       := []
  excludes _    := rfl

/-- Shared acquisition; `none` means that the caller blocks. -/
def acquireShared (l : RwLock α) (a : α) : Option (RwLock α) :=
  if h : l.exclusive = none ∧ l.waiting = [] then
    some { l with
      shared   := a :: l.shared
      excludes := by simp [h.1] }
  else none

def releaseShared [DecidableEq α] (l : RwLock α) (a : α) : RwLock α :=
  { l with
    shared   := l.shared.erase a
    excludes := fun h => by simp [l.excludes h] }

/-- The first half of an exclusive acquisition: the caller queues up. -/
def request (l : RwLock α) (a : α) : RwLock α := { l with waiting := a :: l.waiting }

/-- The second half: it is granted once nobody owns the lock. -/
def grant [DecidableEq α] (l : RwLock α) (a : α) : Option (RwLock α) :=
  if l.exclusive = none ∧ l.shared = [] ∧ a ∈ l.waiting then
    some { shared := [], exclusive := some a, waiting := l.waiting.erase a, excludes := fun _ => rfl }
  else none

def releaseExclusive (l : RwLock α) : RwLock α :=
  { l with exclusive := none, excludes := fun h => nomatch h }

@[simp] theorem shared_releaseShared [DecidableEq α] (l : RwLock α) (a : α) :
    (l.releaseShared a).shared = l.shared.erase a := rfl

@[simp] theorem exclusive_releaseShared [DecidableEq α] (l : RwLock α) (a : α) :
    (l.releaseShared a).exclusive = l.exclusive := rfl

@[simp] theorem shared_request (l : RwLock α) (a : α) : (l.request a).shared = l.shared := rfl

@[simp] theorem exclusive_request (l : RwLock α) (a : α) : (l.request a).exclusive = l.exclusive := rfl

@[simp] theorem shared_releaseExclusive (l : RwLock α) : l.releaseExclusive.shared = l.shared := rfl

@[simp] theorem exclusive_releaseExclusive (l : RwLock α) : l.releaseExclusive.exclusive = none := rfl

/-- A granted shared acquisition: nobody owned the lock exclusively. -/
theorem acquireShared_some (h : l.acquireShared a = some l') :
    l.exclusive = none ∧ l'.shared = a :: l.shared ∧ l'.exclusive = none := by
  unfold acquireShared at h
  split at h
  · rename_i hfree
    cases h
    exact ⟨hfree.1, rfl, hfree.1⟩
  · cases h

/-- A granted exclusive acquisition: nobody owned the lock. -/
theorem grant_some [DecidableEq α] (h : l.grant a = some l') :
    l.exclusive = none ∧ l.shared = [] ∧ l'.shared = [] ∧ l'.exclusive = some a := by
  unfold grant at h
  split at h
  · rename_i hfree
    cases h
    exact ⟨hfree.1, hfree.2.1, rfl, rfl⟩
  · cases h

/-- Nobody owns the lock shared while someone owns it exclusively. -/
theorem not_mem_shared (h : l.exclusive = some b) : a ∉ l.shared := by
  rw [l.excludes (by rw [h]; rfl)]
  exact List.not_mem_nil

end RwLock
