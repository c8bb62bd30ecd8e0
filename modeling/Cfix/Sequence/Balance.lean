import Mathlib.Algebra.Order.BigOperators.Group.Finset
import Cfix.Lib.UpdateCount
import Cfix.Sequence.Store

/-!
# `Sequence.Balance` — every reference has one owner

The reference count of an action is the number of its owners: the holders outside, the entries of sequences,
and the activations that are to dereference it. While a function has given up a reference and not yet
dereferenced the action, or has referenced it and not yet stored the pointer, the count owes the difference.
-/

namespace Cfix.Sequence

open UpdateCount

/-! ## Owners -/

/-- How often an action is an entry of this object. -/
def entryCount (x : ActionId) : Option Action → Nat
  | some o => o.entries.count x
  | none   => 0

@[simp] theorem entryCount_some (x : ActionId) (o : Action) : entryCount x (some o) = o.entries.count x := rfl

@[simp] theorem entryCount_none (x : ActionId) : entryCount x none = 0 := rfl

/-- The references that the activation will give back. -/
def Frame.holds (x : ActionId) : Frame → Nat
  | .test _            => 0
  | .running a         => a.actionsArray.count x
  | .releasing a       => (a.actionsArray.drop a.index).count x
  | .deleting _ rest _ => rest.count x

namespace State

variable (s : State)

def refs (x : ActionId) : Nat :=
  match s.heap x with
  | some o => o.referenceCount
  | none   => 0

/-- How often an action is an entry of a sequence. -/
def contained (x : ActionId) : Nat := ∑ t ∈ Finset.range s.next, entryCount x (s.heap t)

def held (x : ActionId) : Nat := (s.stack.map (Frame.holds x)).sum

def owners (x : ActionId) : Nat := s.external x + s.contained x + s.held x

/-- **Every reference has one owner.** -/
def Balanced : Prop := ∀ x, s.refs x = s.owners x

/-- The entries among the first `n` added that were added to a sequence. -/
def addedBefore (n : Nat) (x : ActionId) : List ActionId := ((s.added.take n).filter fun p => p.1 == x).map Prod.snd

/-- The entries that were added to a sequence. -/
def addedTo (x : ActionId) : List ActionId := (s.added.filter fun p => p.1 == x).map Prod.snd

end State

/-- The heap is in order, and the counts exceed the owners by the references in the list. -/
structure Sound (s : State) (owed : List ActionId) : Prop where
  fresh    : ∀ x, s.next ≤ x → s.heap x = none
  positive : ∀ x o, s.heap x = some o → 0 < o.referenceCount
  counted  : ∀ x o, s.heap x = some o → o.count = o.entries.length
  plain    : ∀ x o, s.heap x = some o → o.isSequence = false → o.entries = []
  entries  : ∀ x o, s.heap x = some o → o.entries = s.addedTo x
  known    : ∀ p ∈ s.added, p.1 < s.next
  balance  : ∀ x, s.refs x = s.owners x + owed.count x

namespace Sound

variable {s : State} {owed : List ActionId} {x y : ActionId} {o : Action}

theorem lt_next (h : Sound s owed) (hx : s.heap x = some o) : x < s.next := by
  by_contra hge
  rw [h.fresh x (Nat.le_of_not_lt hge)] at hx
  cases hx

/-- An action with an owner is there. -/
theorem exists_of_refs (h : 0 < s.refs x) : ∃ o, s.heap x = some o := by
  unfold State.refs at h
  cases hx : s.heap x with
  | some o => exact ⟨o, rfl⟩
  | none   => simp [hx] at h

theorem entryCount_le (h : Sound s owed) (hy : s.heap y = some o) (x : ActionId) :
    o.entries.count x ≤ s.contained x := by
  have hle : entryCount x (s.heap y) ≤ s.contained x :=
    Finset.single_le_sum (f := fun t => entryCount x (s.heap t)) (fun _ _ => Nat.zero_le _)
      (Finset.mem_range.mpr (h.lt_next hy))
  rwa [hy, entryCount_some] at hle

/-- The entries of a sequence are there. -/
theorem exists_of_mem_entries (h : Sound s owed) (hy : s.heap y = some o) (hx : x ∈ o.entries) :
    ∃ o', s.heap x = some o' := by
  apply exists_of_refs
  have hcount : 0 < o.entries.count x := List.count_pos_iff.mpr hx
  have hle := h.entryCount_le hy x
  rw [h.balance x, State.owners]
  omega

end Sound

/-! ## Operations -/

namespace State

variable {s : State} {x y : ActionId} {o : Action} {owed : List ActionId}

theorem contained_update (s : State) (hlt : y < s.next) (v : Option Action) (x : ActionId) :
    ∑ t ∈ Finset.range s.next, entryCount x (Function.update s.heap y v t) + entryCount x (s.heap y) =
      s.contained x + entryCount x v :=
  sum_update s.heap y v (Finset.mem_range.mpr hlt) (entryCount x)

/-- The action with another count. -/
def setCount (s : State) (x : ActionId) (o : Action) (n : Nat) : State :=
  { s with heap := Function.update s.heap x (some { o with referenceCount := n }) }

theorem setCount_owners (hx : s.heap x = some o) (hlt : x < s.next) (n : Nat) (y : ActionId) :
    (s.setCount x o n).owners y = s.owners y := by
  have hsum := contained_update s hlt (some { o with referenceCount := n }) y
  have hcontained : (s.setCount x o n).contained y = s.contained y := by
    rw [hx, entryCount_some, entryCount_some] at hsum
    exact Nat.add_right_cancel hsum
  rw [owners, owners, hcontained]
  rfl

/-- Only the balance depends on the counts. -/
theorem setCount_sound {owed' : List ActionId} {n : Nat} (h : Sound s owed) (hx : s.heap x = some o) (hn : 0 < n)
    (hself : n + owed.count x = o.referenceCount + owed'.count x)
    (hother : ∀ y, y ≠ x → owed'.count y = owed.count y) : Sound (s.setCount x o n) owed' := by
  have hheap : ∀ y o', (s.setCount x o n).heap y = some o' → ∃ o, s.heap y = some o ∧
      o'.isSequence = o.isSequence ∧ o'.entries = o.entries ∧ o'.count = o.count ∧ 0 < o'.referenceCount := by
    intro y o' ho'
    by_cases hy : y = x
    · subst hy
      simp only [setCount, Function.update_self, Option.some.injEq] at ho'
      subst ho'
      exact ⟨o, hx, rfl, rfl, rfl, hn⟩
    · simp only [setCount, Function.update_of_ne hy] at ho'
      exact ⟨o', ho', rfl, rfl, rfl, h.positive y o' ho'⟩
  refine ⟨?_, ?_, ?_, ?_, ?_, h.known, ?_⟩
  · intro y hy
    have hne : y ≠ x := by
      rintro rfl
      exact absurd (h.lt_next hx) (not_lt.mpr hy)
    simpa [setCount, hne] using h.fresh y hy
  · intro y o' ho'
    obtain ⟨-, -, -, -, -, hpos⟩ := hheap y o' ho'
    exact hpos
  · intro y o' ho'
    obtain ⟨o, ho, -, hent, hcount, -⟩ := hheap y o' ho'
    rw [hent, hcount]
    exact h.counted y o ho
  · intro y o' ho' hseq
    obtain ⟨o, ho, hseq', hent, -, -⟩ := hheap y o' ho'
    rw [hent]
    exact h.plain y o ho (hseq'.symm.trans hseq)
  · intro y o' ho'
    obtain ⟨o, ho, -, hent, -, -⟩ := hheap y o' ho'
    rw [hent]
    exact h.entries y o ho
  · intro y
    rw [setCount_owners hx (h.lt_next hx)]
    have hbal := h.balance y
    by_cases hy : y = x
    · subst hy
      have hrefs : s.refs y = o.referenceCount := by simp [refs, hx]
      have hrefs' : (s.setCount y o n).refs y = n := by simp [refs, setCount]
      omega
    · have hrefs : (s.setCount x o n).refs y = s.refs y := by simp [refs, setCount, hy]
      rw [hrefs, hother y hy]
      exact hbal

theorem reference_eq (hx : s.heap x = some o) : s.reference x = s.setCount x o (o.referenceCount + 1) := by
  simp [reference, setCount, hx]

/-- A new reference is owed an owner. -/
theorem reference_sound (h : Sound s owed) (hx : s.heap x = some o) : Sound (s.reference x) (x :: owed) := by
  rw [reference_eq hx]
  refine setCount_sound h hx (Nat.succ_pos _) ?_ ?_
  · rw [List.count_cons_self]
    omega
  · exact fun y hy => List.count_cons_of_ne (fun h => hy h.symm)

/-- Referencing does not remove actions. -/
theorem exists_of_reference (hy : ∃ o, s.heap y = some o) : ∃ o, (s.reference x).heap y = some o := by
  obtain ⟨o, ho⟩ := hy
  by_cases h : y = x
  · subst h
    simp [reference, ho]
  · exact ⟨o, by simp [reference, h, ho]⟩

/-- The loop that stabilizes the pointers. -/
theorem references_sound {l : List ActionId} (h : Sound s owed) (hl : ∀ x ∈ l, ∃ o, s.heap x = some o) :
    ∃ owed', Sound (l.foldl reference s) owed' ∧ ∀ x, owed'.count x = l.count x + owed.count x := by
  induction l generalizing s owed with
  | nil => exact ⟨owed, h, fun x => by simp⟩
  | cons y ys ih =>
      obtain ⟨o, ho⟩ := hl y (by simp)
      obtain ⟨owed', hsound, hcount⟩ := ih (reference_sound h ho)
        (fun x hx => exists_of_reference (hl x (by simp [hx])))
      refine ⟨owed', hsound, ?_⟩
      intro x
      rw [hcount, List.count_cons, List.count_cons]
      omega

/-- The fields other than the heap. -/
theorem references_eq (l : List ActionId) : l.foldl reference s = { s with heap := (l.foldl reference s).heap } := by
  induction l generalizing s with
  | nil => rfl
  | cons y ys ih =>
      rw [List.foldl_cons, ih]
      rfl

end State

/-- Owing is a matter of counts. -/
theorem Sound.congr {s : State} {owed owed' : List ActionId} (h : Sound s owed)
    (hcount : ∀ x, owed'.count x = owed.count x) : Sound s owed' :=
  { h with balance := fun x => by rw [hcount]; exact h.balance x }

/-- The heap stays in order when owners change. -/
theorem Sound.withOwners {s s' : State} {owed owed' : List ActionId} (h : Sound s owed)
    (hheap : s'.heap = s.heap) (hnext : s'.next = s.next) (hadded : s'.added = s.added)
    (hbalance : ∀ x, s'.owners x + owed'.count x = s.owners x + owed.count x) : Sound s' owed' := by
  refine ⟨?_, ?_, ?_, ?_, ?_, ?_, ?_⟩
  · rw [hheap, hnext]
    exact h.fresh
  · rw [hheap]
    exact h.positive
  · rw [hheap]
    exact h.counted
  · rw [hheap]
    exact h.plain
  · intro x o hx
    rw [State.addedTo, hadded]
    exact h.entries x o (hheap ▸ hx)
  · rw [hadded, hnext]
    exact h.known
  · intro x
    rw [hbalance, State.refs, hheap]
    exact h.balance x

namespace State

variable {s : State} {x : ActionId} {o : Action} {owed : List ActionId}

/-- **A dereference pays what is owed.** If it deletes a sequence, the activation that deletes it is the new
    owner of the references on its entries. -/
theorem dereference_sound (h : Sound s (x :: owed)) : Sound (s.dereference x) owed := by
  have hbal := h.balance x
  rw [List.count_cons_self] at hbal
  obtain ⟨o, ho⟩ := Sound.exists_of_refs (s := s) (x := x) (by omega)
  have hrefs : s.refs x = o.referenceCount := by simp [refs, ho]
  have hlt := h.lt_next ho
  have hother : ∀ y, y ≠ x → s.refs y = s.owners y + owed.count y := by
    intro y hy
    have hxy : (x == y) = false := by simpa using fun h => hy h.symm
    simpa [List.count_cons, hxy] using h.balance y
  unfold dereference
  simp only [ho]
  split
  · -- nothing refers to the action any more
    rename_i hlast
    have hpos := h.positive x o ho
    have hself := h.entryCount_le ho x
    rw [hrefs, owners] at hbal
    have hheap : ∀ y o', (s.delete x o).heap y = some o' → s.heap y = some o' ∧ y ≠ x := by
      intro y o' ho'
      by_cases hy : y = x
      · subst hy
        simp [delete] at ho'
      · exact ⟨by simpa [delete, hy] using ho', hy⟩
    refine ⟨?_, ?_, ?_, ?_, ?_, h.known, ?_⟩
    · intro y hy
      have hne : y ≠ x := by
        rintro rfl
        exact absurd hlt (not_lt.mpr hy)
      simp [delete, hne, h.fresh y hy]
    · exact fun y o' ho' => h.positive y o' (hheap y o' ho').1
    · exact fun y o' ho' => h.counted y o' (hheap y o' ho').1
    · exact fun y o' ho' => h.plain y o' (hheap y o' ho').1
    · exact fun y o' ho' => h.entries y o' (hheap y o' ho').1
    · intro y
      have hcontained : (s.delete x o).contained y + o.entries.count y = s.contained y := by
        have hsum := contained_update s hlt none y
        rw [ho, entryCount_some, entryCount_none, Nat.add_zero] at hsum
        exact hsum
      have hheld : (s.delete x o).held y = o.entries.count y + s.held y := by
        cases hseq : o.isSequence with
        | true  => simp [delete, held, hseq, Frame.holds]
        | false => simp [delete, held, hseq, h.plain x o ho hseq]
      have hexternal : (s.delete x o).external y = s.external y := rfl
      by_cases hy : y = x
      · subst hy
        have hrefs' : (s.delete y o).refs y = 0 := by simp [refs, delete]
        rw [hrefs', owners, hheld, hexternal]
        omega
      · have hrefs' : (s.delete x o).refs y = s.refs y := by simp [refs, delete, hy]
        rw [hrefs', hother y hy, owners, owners, hheld, hexternal]
        omega
  · rename_i hmore
    refine setCount_sound h ho (Nat.pos_of_ne_zero hmore) ?_ ?_
    · rw [List.count_cons_self]
      have hpos := h.positive x o ho
      omega
    · exact fun y hy => (List.count_cons_of_ne (fun h => hy h.symm)).symm

end State

end Cfix.Sequence
