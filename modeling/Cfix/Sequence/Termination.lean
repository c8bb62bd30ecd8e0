import Cfix.Sequence.Containment

/-!
# `Sequence.Termination` — runs and deletions end

As long as no sequence contains itself, directly or indirectly, each action can be given a cost that exceeds
the costs of its entries. Then every step of the functions in progress makes the remaining cost smaller, and
there is a step as long as the stack is not empty.
-/

namespace Cfix.Sequence

open Acyclic Transition

/-! ## Costs -/

/-- What the steps may cost that the activation can still take, with a cost for each call. -/
def Frame.cost (c : ActionId → Nat) : Frame → Nat
  | .test _            => 1
  | .running a         => ((a.actionsArray.drop a.index).map c).sum + a.actionsArray.length + 2
  | .releasing a       => (a.actionsArray.drop a.index).length + 1
  | .deleting _ rest _ => rest.length + 1

/-- The same after the action that it has called returns. -/
def Frame.waiting (c : ActionId → Nat) : Frame → Nat
  | .running a => ((a.actionsArray.drop (a.index + 1)).map c).sum + a.actionsArray.length + 2
  | f          => f.cost c

def stackCost (c : ActionId → Nat) : List Frame → Nat
  | []        => 0
  | f :: rest => f.cost c + (rest.map (Frame.waiting c)).sum

/-- What the deletion of an object costs. -/
def weight : Option Action → Nat
  | some o => o.entries.length + 1
  | none   => 0

namespace State

def weights (s : State) : Nat := ∑ t ∈ Finset.range s.next, weight (s.heap t)

def measure (c : ActionId → Nat) (s : State) : Nat := s.weights + stackCost c s.stack

/-- A call costs more than the calls of the entries and the two loops over them. -/
def Covers (c : ActionId → Nat) (s : State) : Prop :=
  ∀ y o, s.heap y = some o → (o.entries.map c).sum + o.entries.length + 3 ≤ c y

variable {s s' : State} {c : ActionId → Nat} {x y : ActionId} {o : Action} {f : Frame} {rest : List Frame}

theorem Covers.shrinks (hc : s.Covers c) (h : Shrinks s s') : s'.Covers c := by
  intro y o' ho'
  obtain ⟨o, ho, hentries⟩ := h.heap y o' ho'
  rw [hentries]
  exact hc y o ho

theorem Shrinks.weights (h : Shrinks s s') : s'.weights ≤ s.weights := by
  unfold State.weights
  rw [h.next]
  apply Finset.sum_le_sum
  intro t _
  cases ht : s'.heap t with
  | none    => exact Nat.zero_le _
  | some o' =>
      obtain ⟨o, ho, hentries⟩ := h.heap t o' ht
      rw [ho, weight, weight, hentries]

/-- Without cycles there are such costs. -/
theorem exists_covers (h : Sound s []) (hacyclic : IsAcyclic s.Contains) : ∃ c, s.Covers c := by
  have hwf : WellFounded fun y x => y ∈ s.entriesOf x := by
    have hswap := hacyclic.wellFounded (Set.finite_Iio s.next) (fun a b hc => by
      obtain ⟨o, ho, -⟩ := hc
      exact h.lt_next ho)
    refine Subrelation.wf ?_ hswap
    intro y x hy
    exact mem_entriesOf.mp hy
  obtain ⟨c, hc⟩ := exists_cost hwf fun x => (s.entriesOf x).length + 3
  refine ⟨c, ?_⟩
  intro y o ho
  have hentries : s.entriesOf y = o.entries := by simp [entriesOf, ho]
  rw [hc y, hentries]
  omega

theorem waiting_le (c : ActionId → Nat) (f : Frame) : f.waiting c ≤ f.cost c := by
  cases f with
  | running a =>
      simp only [Frame.waiting, Frame.cost]
      by_cases hlt : a.index < a.actionsArray.length
      · rw [List.drop_eq_getElem_cons hlt, List.map_cons, List.sum_cons]
        omega
      · rw [List.drop_eq_nil_of_le (by omega), List.drop_eq_nil_of_le (by omega)]
  | test this | releasing a | deleting this ys done => exact le_rfl

theorem waiting_sum_le (c : ActionId → Nat) (stack : List Frame) :
    (stack.map (Frame.waiting c)).sum ≤ stackCost c stack := by
  cases stack with
  | nil => exact le_rfl
  | cons f rest =>
      rw [List.map_cons, List.sum_cons, stackCost]
      exact Nat.add_le_add_right (waiting_le c f) _

theorem returned_cost (s : State) (x : ActionId) (hr : HRESULT) :
    stackCost c (s.returned x hr).stack = (s.stack.map (Frame.waiting c)).sum := by
  unfold returned
  split
  · rename_i a rest hstack
    rw [hstack, List.map_cons, List.sum_cons]
    rfl
  · rename_i hnot
    cases hstack : s.stack with
    | nil => rfl
    | cons f rest =>
        rw [List.map_cons, List.sum_cons, stackCost]
        cases f with
        | running a => exact absurd hstack (hnot a rest)
        | test this | releasing a | deleting this ys done => rfl

theorem ended_cost (s : State) (r : RunRecord) :
    stackCost c (s.ended r).stack = (s.stack.map (Frame.waiting c)).sum :=
  returned_cost { s with runs := s.runs ++ [r] } r.this r.hr

/-- A call takes less than its cost. -/
theorem call_cost (hc : s.Covers c) (hx : s.heap x = some o) (isValidContext malloc : Bool) :
    stackCost c (s.call x o isValidContext malloc).stack < c x + (s.stack.map (Frame.waiting c)).sum := by
  have hcost := hc x o hx
  unfold call
  split
  · simp only [stackCost, Frame.cost]
    omega
  split
  · rw [ended_cost]
    omega
  split
  · rw [ended_cost]
    omega
  split
  · rw [ended_cost]
    omega
  have hstack : (o.entries.foldl reference s).stack = s.stack := by rw [@references_eq s o.entries]
  simp only [stackCost, Frame.cost, List.drop_zero, hstack]
  omega

/-- A deletion is paid with the weight of the object. -/
theorem dereference_measure (h : ∀ y o, s.heap y = some o → y < s.next) (x : ActionId) :
    (s.dereference x).measure c ≤ s.measure c := by
  have hshrinks := dereference_shrinks s x
  unfold measure
  have hweights := hshrinks.weights
  revert hweights hshrinks
  unfold dereference
  cases hx : s.heap x with
  | none   => exact fun _ _ => le_rfl
  | some o =>
      simp only
      split
      · intro _ _
        have hsum : (s.delete x o).weights + weight (some o) = s.weights + weight none := by
          have hsum := UpdateCount.sum_update s.heap x none (Finset.mem_range.mpr (h x o hx)) weight
          rw [hx] at hsum
          exact hsum
        have hwaiting := waiting_sum_le c s.stack
        cases hseq : o.isSequence with
        | false =>
            have hstack : (s.delete x o).stack = s.stack := by simp [delete, hseq]
            rw [hstack]
            simp only [weight] at hsum
            omega
        | true  =>
            have hstack : (s.delete x o).stack = .deleting x o.entries [] :: s.stack := by simp [delete, hseq]
            rw [hstack, stackCost, Frame.cost]
            simp only [weight] at hsum
            omega
      · intro _ hweights
        exact Nat.add_le_add_right hweights _

end State

/-! ## Activations end -/

namespace Invariant

variable {s s' : State} {c : ActionId → Nat} {f : Frame} {rest : List Frame}

theorem finish_measure {x : ActionId} (hstack : s.stack = .test x :: rest) (hr : HRESULT) :
    (({ s with stack := rest } : State).returned x hr).measure c < s.measure c := by
  have hweights := (State.returned_shrinks { s with stack := rest } x hr).weights
  have hsame : State.weights { s with stack := rest } = s.weights := rfl
  have hcost : stackCost c (({ s with stack := rest } : State).returned x hr).stack =
      (rest.map (Frame.waiting c)).sum := State.returned_cost _ x hr
  rw [State.measure, State.measure, hcost, hstack, stackCost, Frame.cost]
  omega

theorem running_measure (hc : s.Covers c) {a : Activation} (hstack : s.stack = .running a :: rest) {malloc : Bool}
    (hstep : s.resume malloc = some s') : s'.measure c < s.measure c := by
  have hweights := (State.resume_shrinks hstep).weights
  simp only [State.resume, hstack] at hstep
  rw [State.measure, State.measure]
  split at hstep
  · cases hstep
    simp only [stackCost, Frame.cost, hstack, List.drop_zero]
    omega
  · split at hstep
    · rename_i y hy
      obtain ⟨o, ho, rfl⟩ := Option.map_eq_some_iff.mp hstep
      have hcall := State.call_cost hc ho true malloc
      have hwaiting : (s.stack.map (Frame.waiting c)).sum + c y = stackCost c s.stack := by
        obtain ⟨hlt, hy⟩ := List.getElem?_eq_some_iff.mp hy
        rw [hstack, stackCost, List.map_cons, List.sum_cons, Frame.waiting, Frame.cost,
          List.drop_eq_getElem_cons hlt, hy, List.map_cons, List.sum_cons]
        omega
      omega
    · cases hstep

theorem releasing_measure (h : Invariant s) {a : Activation} (hstack : s.stack = .releasing a :: rest)
    {malloc : Bool} (hstep : s.resume malloc = some s') : s'.measure c < s.measure c := by
  have hweights := (State.resume_shrinks hstep).weights
  simp only [State.resume, hstack] at hstep
  split at hstep
  · cases hstep
    have hcost : ∀ r, stackCost c (({ s with stack := rest } : State).ended r).stack =
        (rest.map (Frame.waiting c)).sum := State.ended_cost _
    rw [State.measure, State.measure, hcost, hstack, stackCost, Frame.cost]
    omega
  · split at hstep
    · rename_i y hy
      cases hstep
      refine Nat.lt_of_le_of_lt (State.dereference_measure ?_ y) ?_
      · exact fun _ _ hx => h.sound.lt_next hx
      obtain ⟨hlt, -⟩ := List.getElem?_eq_some_iff.mp hy
      simp only [State.measure, State.weights, stackCost, Frame.cost, hstack, List.drop_eq_getElem_cons hlt,
        List.length_cons]
      omega
    · cases hstep

theorem deleting_measure (h : Invariant s) {this : ActionId} {ys done : List ActionId}
    (hstack : s.stack = .deleting this ys done :: rest) {malloc : Bool} (hstep : s.resume malloc = some s') :
    s'.measure c < s.measure c := by
  simp only [State.resume, hstack] at hstep
  cases ys with
  | cons y ys =>
      cases hstep
      refine Nat.lt_of_le_of_lt (State.dereference_measure ?_ y) ?_
      · exact fun _ _ hx => h.sound.lt_next hx
      simp only [State.measure, State.weights, stackCost, Frame.cost, hstack, List.length_cons]
      omega
  | nil =>
      cases hstep
      -- an activation that has called an action has not called a dereference
      have hrest : stackCost c rest = (rest.map (Frame.waiting c)).sum := by
        have hawaits := State.callerAwaits_rest h.records hstack
        cases rest with
        | nil => rfl
        | cons g rest =>
            cases g with
            | running a =>
                obtain ⟨x, hx, -⟩ := hawaits (.running a) rfl
                cases hx
            | test x | releasing a | deleting x ys done => rfl
      rw [State.measure, State.measure, hstack, stackCost, Frame.cost, hrest, List.length_nil]
      have hsame : ∀ d, State.weights { s with stack := rest, deletions := d } = s.weights := fun _ => rfl
      rw [hsame]
      omega

/-- **Every step of the functions in progress costs.** -/
theorem internal_measure (h : Invariant s) (hc : s.Covers c) {a : Step} (ha : a.internal = true)
    (hstep : next s a = some s') : s'.measure c < s.measure c := by
  cases a with
  | create b | add q x m | reference x | dereference x | invoke x v m => cases ha
  | finish hr =>
      simp only [next] at hstep
      split at hstep
      · rename_i x rest hstack
        cases hstep
        exact finish_measure hstack hr
      · cases hstep
  | resume malloc =>
      have hresume : s.resume malloc = some s' := hstep
      cases hstack : s.stack with
      | nil => simp [State.resume, hstack] at hresume
      | cons f rest =>
          cases f with
          | test this             => simp [State.resume, hstack] at hresume
          | running a             => exact running_measure hc hstack hresume
          | releasing a           => exact h.releasing_measure hstack hresume
          | deleting this ys done => exact h.deleting_measure hstack hresume

/-- What an activation holds is there. -/
theorem exists_of_holds (h : Invariant s) (hf : f ∈ s.stack) {x : ActionId} (hx : 0 < f.holds x) :
    ∃ o, s.heap x = some o := by
  apply Sound.exists_of_refs
  have hbal := h.sound.balance x
  have hheld : f.holds x ≤ s.held x := List.single_le_sum (fun _ _ => Nat.zero_le _) _ (List.mem_map_of_mem hf)
  rw [State.owners] at hbal
  omega

/-- **Some step is possible.** -/
theorem progress (h : Invariant s) (hne : s.stack ≠ []) : ∃ a : Step, a.internal = true ∧ (next s a).isSome := by
  have hok := h.records.stack
  cases hstack : s.stack with
  | nil => exact absurd hstack hne
  | cons f rest =>
      have hmem : f ∈ s.stack := by rw [hstack]; exact List.mem_cons_self
      rw [hstack] at hok
      cases f with
      | test this => exact ⟨.finish sOk, rfl, by simp [next, hstack]⟩
      | deleting this ys done =>
          refine ⟨.resume true, rfl, ?_⟩
          cases ys with
          | nil       => simp [next, State.resume, hstack]
          | cons y ys => simp [next, State.resume, hstack]
      | releasing a =>
          refine ⟨.resume true, rfl, ?_⟩
          have hreleases : a.Releases := hok.1
          by_cases hend : a.actionsCount ≤ a.index
          · simp [next, State.resume, hstack, hend]
          · have hlt : a.index < a.actionsArray.length := by
              have hcount := hreleases.count
              omega
            simp [next, State.resume, hstack, hend, List.getElem?_eq_getElem hlt]
      | running a =>
          refine ⟨.resume true, rfl, ?_⟩
          have hruns : a.Runs := hok.1
          by_cases hend : (failed a.hr || decide (a.actionsCount ≤ a.index)) = true
          · simp only [next, State.resume, hstack, hend, if_true, Option.isSome_some]
          · have hlt : a.index < a.actionsArray.length := by
              have hcount := hruns.count
              simp only [Bool.or_eq_true, decide_eq_true_eq, not_or, not_le] at hend
              omega
            have hholds : 0 < (Frame.running a).holds a.actionsArray[a.index] :=
              List.count_pos_iff.mpr (List.getElem_mem hlt)
            obtain ⟨o, ho⟩ := h.exists_of_holds hmem hholds
            simp only [next, State.resume, hstack, hend, List.getElem?_eq_getElem hlt, ho]
            rfl

end Invariant

/-- However its actions return, the functions in progress take at most so many steps, and until the last of
    them is over there is a step to take. -/
def Terminates (s : State) : Prop := ∃ bound, ∀ as s', (∀ a ∈ as, Step.internal a = true) →
  run next s as = some s' → as.length ≤ bound ∧ (s'.stack ≠ [] → ∃ a : Step, a.internal = true ∧ (next s' a).isSome)

theorem Invariant.terminates {s : State} (h : Invariant s) (hacyclic : IsAcyclic s.Contains) : Terminates s := by
  obtain ⟨c, hc⟩ := State.exists_covers h.sound hacyclic
  refine ⟨s.measure c, ?_⟩
  intro as s' has hrun
  induction as generalizing s with
  | nil =>
      cases hrun
      exact ⟨Nat.zero_le _, h.progress⟩
  | cons a as ih =>
      obtain ⟨t, ht, hrun⟩ := run_cons.mp hrun
      have ha := has a List.mem_cons_self
      have hshrinks := step_shrinks (Step.keeps_of_internal ha) ht
      have hlt := h.internal_measure hc ha ht
      have hih := ih (h.step ht) (hacyclic.mono fun _ _ => hshrinks.contains) (hc.shrinks hshrinks)
        (fun b hb => has b (List.mem_cons_of_mem _ hb)) hrun
      refine ⟨?_, hih.2⟩
      rw [List.length_cons]
      omega

end Cfix.Sequence
