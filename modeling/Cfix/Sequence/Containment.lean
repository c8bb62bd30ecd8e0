import Cfix.Lib.Acyclic
import Cfix.Sequence.Runs

/-!
# `Sequence.Containment` — which action contains which

Only an accepted call of `CfixAddEntrySequenceAction` adds an edge to the relation; all other steps leave the
entries of the actions alone, or remove an action.
-/

namespace Cfix.Sequence

open Acyclic Relation Transition

/-! ## Containment -/

namespace State

variable (s : State)

/-- The action is an entry of the sequence. -/
def Contains (q x : ActionId) : Prop := ∃ o, s.heap q = some o ∧ x ∈ o.entries

def entriesOf (q : ActionId) : List ActionId :=
  match s.heap q with
  | some o => o.entries
  | none   => []

def IsSequence (q : ActionId) : Prop := ∃ o, s.heap q = some o ∧ o.isSequence = true

end State

/-- No action appears or gets entries. -/
structure State.Shrinks (s s' : State) : Prop where
  next : s'.next = s.next
  heap : ∀ y o', s'.heap y = some o' → ∃ o, s.heap y = some o ∧ o'.entries = o.entries

namespace State

variable {s s' t : State} {q x y : ActionId} {o : Action}

theorem mem_entriesOf : x ∈ s.entriesOf q ↔ s.Contains q x := by
  unfold entriesOf Contains
  cases hq : s.heap q with
  | none   => simp
  | some o => simp

theorem shrinks_refl (s : State) : Shrinks s s := ⟨rfl, fun _ o ho => ⟨o, ho, rfl⟩⟩

theorem Shrinks.trans (h : Shrinks s t) (h' : Shrinks t s') : Shrinks s s' := by
  refine ⟨h'.next.trans h.next, ?_⟩
  intro y o' ho'
  obtain ⟨o, ho, hentries⟩ := h'.heap y o' ho'
  obtain ⟨p, hp, hentries'⟩ := h.heap y o ho
  exact ⟨p, hp, hentries.trans hentries'⟩

theorem shrinks_of_heap (hnext : s'.next = s.next) (hheap : s'.heap = s.heap) : Shrinks s s' :=
  ⟨hnext, fun _ o ho => ⟨o, hheap ▸ ho, rfl⟩⟩

/-- It does not matter what becomes of the other fields. -/
theorem Shrinks.sameHeap (h : Shrinks t s') (hnext : t.next = s.next) (hheap : t.heap = s.heap) : Shrinks s s' :=
  Shrinks.trans (shrinks_of_heap hnext hheap) h

theorem Shrinks.contains (h : Shrinks s s') (hc : s'.Contains q x) : s.Contains q x := by
  obtain ⟨o', ho', hx⟩ := hc
  obtain ⟨o, ho, hentries⟩ := h.heap q o' ho'
  exact ⟨o, ho, hentries ▸ hx⟩

theorem reference_shrinks (s : State) (x : ActionId) : Shrinks s (s.reference x) := by
  refine ⟨rfl, ?_⟩
  intro y o' ho'
  by_cases hy : y = x
  · subst hy
    simp only [reference, Function.update_self, Option.map_eq_some_iff] at ho'
    obtain ⟨o, ho, rfl⟩ := ho'
    exact ⟨o, ho, rfl⟩
  · simp only [reference, Function.update_of_ne hy] at ho'
    exact ⟨o', ho', rfl⟩

theorem references_shrinks (s : State) (l : List ActionId) : Shrinks s (l.foldl reference s) := by
  induction l generalizing s with
  | nil => exact shrinks_refl s
  | cons x xs ih => exact (reference_shrinks s x).trans (ih (s.reference x))

theorem dereference_shrinks (s : State) (x : ActionId) : Shrinks s (s.dereference x) := by
  unfold dereference
  cases hx : s.heap x with
  | none   => exact shrinks_refl s
  | some o =>
      simp only
      split
      · refine ⟨rfl, ?_⟩
        intro y o' ho'
        by_cases hy : y = x
        · subst hy
          simp [delete] at ho'
        · simp only [delete, Function.update_of_ne hy] at ho'
          exact ⟨o', ho', rfl⟩
      · refine ⟨rfl, ?_⟩
        intro y o' ho'
        by_cases hy : y = x
        · subst hy
          simp only [Function.update_self, Option.some.injEq] at ho'
          subst ho'
          exact ⟨o, hx, rfl⟩
        · simp only [Function.update_of_ne hy] at ho'
          exact ⟨o', ho', rfl⟩

theorem returned_shrinks (s : State) (x : ActionId) (hr : HRESULT) : Shrinks s (s.returned x hr) := by
  rcases returned_cases s x hr with heq | ⟨a, rest, -, heq⟩
  · rw [heq]
    exact shrinks_refl s
  · rw [heq]
    exact shrinks_of_heap rfl rfl

theorem ended_shrinks (s : State) (r : RunRecord) : Shrinks s (s.ended r) :=
  (returned_shrinks { s with runs := s.runs ++ [r] } r.this r.hr).sameHeap rfl rfl

theorem call_shrinks (s : State) (x : ActionId) (o : Action) (isValidContext malloc : Bool) :
    Shrinks s (s.call x o isValidContext malloc) := by
  unfold call
  split
  · exact shrinks_of_heap rfl rfl
  split
  · exact ended_shrinks s _
  split
  · exact ended_shrinks s _
  split
  · exact ended_shrinks s _
  exact (references_shrinks s o.entries).trans (shrinks_of_heap rfl rfl)

theorem resume_shrinks {malloc : Bool} (h : s.resume malloc = some s') : Shrinks s s' := by
  unfold resume at h
  split at h
  · split at h
    · cases h
      exact shrinks_of_heap rfl rfl
    · split at h
      · obtain ⟨o, -, rfl⟩ := Option.map_eq_some_iff.mp h
        exact call_shrinks s _ o true malloc
      · cases h
  · rename_i a rest _
    split at h
    · cases h
      exact (ended_shrinks { s with stack := rest } _).sameHeap rfl rfl
    · split at h
      · cases h
        exact (dereference_shrinks _ _).sameHeap rfl rfl
      · cases h
  · cases h
    exact (dereference_shrinks _ _).sameHeap rfl rfl
  · cases h
    exact shrinks_of_heap rfl rfl
  · cases h
  · cases h

end State

/-- It neither creates an action nor adds an entry. -/
def Step.keeps : Step → Bool
  | .create _ | .add _ _ _                                                      => false
  | .reference _ | .dereference _ | .invoke _ _ _ | .finish _ | .resume _       => true

/-- A step of the functions in progress: nothing is called. -/
def Step.internal : Step → Bool
  | .finish _ | .resume _                                                            => true
  | .create _ | .add _ _ _ | .reference _ | .dereference _ | .invoke _ _ _           => false

theorem Step.keeps_of_internal {a : Step} (h : a.internal = true) : a.keeps = true := by
  cases a with
  | finish hr | resume malloc                                               => rfl
  | create b | add q x m | reference x | dereference x | invoke x c m       => cases h

section Steps

variable {s s' : State}

theorem step_shrinks {a : Step} (ha : a.keeps = true) (h : next s a = some s') : s.Shrinks s' := by
  unfold next at h
  cases a with
  | create isSequence => cases ha
  | add q x malloc    => cases ha
  | reference x =>
      simp only [Option.ite_none_right_eq_some, Option.some.injEq] at h
      obtain ⟨-, rfl⟩ := h
      exact (State.reference_shrinks s x).trans (State.shrinks_of_heap rfl rfl)
  | dereference x =>
      simp only [Option.ite_none_right_eq_some, Option.some.injEq] at h
      obtain ⟨-, rfl⟩ := h
      exact (State.dereference_shrinks _ x).sameHeap rfl rfl
  | invoke x isValidContext malloc =>
      simp only [Option.ite_none_right_eq_some, Option.map_eq_some_iff] at h
      obtain ⟨-, o, -, rfl⟩ := h
      exact State.call_shrinks s x o isValidContext malloc
  | finish hr =>
      simp only at h
      split at h
      · cases h
        exact (State.returned_shrinks _ _ hr).sameHeap rfl rfl
      · cases h
  | resume malloc => exact State.resume_shrinks h

/-- A new action contains nothing. -/
theorem create_contains {isSequence : Bool} (h : next s (.create isSequence) = some s') {y z : ActionId}
    (hc : s'.Contains y z) : s.Contains y z := by
  simp only [next, Option.ite_none_right_eq_some, Option.some.injEq] at h
  obtain ⟨-, rfl⟩ := h
  obtain ⟨o, ho, hz⟩ := hc
  rcases Invariant.create_heap s isSequence ho with ⟨-, rfl⟩ | ⟨-, ho⟩
  · cases hz
  · exact ⟨o, ho, hz⟩

theorem reference_entriesOf (s : State) (x y : ActionId) : (s.reference x).entriesOf y = s.entriesOf y := by
  unfold State.entriesOf State.reference
  by_cases hy : y = x
  · subst hy
    cases hheap : s.heap y with
    | none   => simp
    | some o => simp
  · simp [hy]

/-- The entries after an accepted call. -/
theorem addEntry_entriesOf {q x : ActionId} {o : Action} (hq : s.heap q = some o) (hseq : o.isSequence = true)
    (hne : x ≠ q) (y : ActionId) :
    (s.addEntry q x o true).2.entriesOf y = if y = q then s.entriesOf q ++ [x] else s.entriesOf y := by
  have haccept : (x == q || !o.isSequence) = false := by simp [hne, hseq]
  have hold : s.entriesOf q = o.entries := by simp [State.entriesOf, hq]
  simp only [State.addEntry, haccept, hold]
  by_cases hy : y = q
  · subst hy
    simp [State.entriesOf]
  · rw [if_neg hy, ← reference_entriesOf s x y]
    simp [State.entriesOf, hy]

/-- **What an added entry changes**: a call that is accepted adds one edge, another call changes nothing. -/
theorem add_contains {q x : ActionId} {malloc : Bool} (h : next s (.add q x malloc) = some s') :
    (s.IsSequence q ∧ x ≠ q ∧ malloc = true) ∧ (∀ y z, s'.Contains y z ↔ withEdge s.Contains q x y z) ∨
      ¬ (s.IsSequence q ∧ x ≠ q ∧ malloc = true) ∧ s' = s := by
  simp only [next, Option.ite_none_right_eq_some, Option.map_eq_some_iff] at h
  obtain ⟨-, o, hq, rfl⟩ := h
  have hseq : s.IsSequence q ↔ o.isSequence = true := by
    constructor
    · rintro ⟨o', ho', hseq⟩
      rw [hq] at ho'
      cases ho'
      exact hseq
    · exact fun hseq => ⟨o, hq, hseq⟩
  rw [hseq]
  by_cases haccept : o.isSequence = true ∧ x ≠ q ∧ malloc = true
  · refine .inl ⟨haccept, ?_⟩
    obtain ⟨hseq, hne, rfl⟩ := haccept
    intro y z
    rw [← State.mem_entriesOf, addEntry_entriesOf hq hseq hne, withEdge, ← State.mem_entriesOf]
    by_cases hy : y = q
    · subst hy
      simp
    · simp [hy]
  · refine .inr ⟨haccept, ?_⟩
    unfold State.addEntry
    split
    · rfl
    split
    · rfl
    rename_i hreject hmalloc
    simp only [Bool.or_eq_true, beq_iff_eq, Bool.not_eq_true', not_or, Bool.not_eq_false] at hreject hmalloc
    exact absurd ⟨hreject.2, hreject.1, hmalloc⟩ haccept

end Steps

end Cfix.Sequence
