import Cfix.Sequence.Activations

/-!
# `Sequence.Runs` — what a run of a sequence executes, and what becomes of its references

The invariant of the machine: the counts are balanced and every activation is in order. It holds in every
state of every run, whatever test code does while a sequence runs (`run_semantics`).
-/

namespace Cfix.Sequence

open Transition

/-! ## Steps -/

/-- The invariant of the machine. -/
structure Invariant (s : State) : Prop where
  sound   : Sound s []
  records : Records s

namespace Invariant

variable {s s' : State} {x : ActionId} {o : Action}

/-- Test code does not wait. -/
theorem callerAwaits_of_inControl (h : s.inControl = true) (callee : Option ActionId) : s.CallerAwaits callee := by
  intro g hg
  unfold State.inControl at h
  cases hstack : s.stack with
  | nil => simp [hstack] at hg
  | cons f rest =>
      rw [hstack] at hg h
      cases hg
      cases g with
      | running a => cases h
      | test this | releasing a | deleting this rest done => exact trivial

theorem initial : Invariant .initial where
  sound   := by
    refine ⟨fun _ _ => rfl, ?_, ?_, ?_, ?_, ?_, ?_⟩
    · intro x o hx
      cases hx
    · intro x o hx
      cases hx
    · intro x o hx
      cases hx
    · intro x o hx
      cases hx
    · intro p hp
      cases hp
    · intro x
      simp [State.refs, State.owners, State.contained, State.held, State.initial]
  records := by
    refine ⟨trivial, ?_, ?_, ?_, ?_, List.nodup_nil⟩
    · intro f hf
      cases hf
    · intro r hr
      cases hr
    · intro d hd
      cases hd
    · intro x hx
      cases hx

theorem create_heap (s : State) (isSequence : Bool) {x : ActionId} {o : Action}
    (h : (s.create isSequence).heap x = some o) :
    x = s.next ∧ o = ⟨isSequence, 1, [], 0⟩ ∨ x ≠ s.next ∧ s.heap x = some o := by
  by_cases hx : x = s.next
  · subst hx
    simp only [State.create, Function.update_self, Option.some.injEq] at h
    exact .inl ⟨rfl, h.symm⟩
  · simp only [State.create, Function.update_of_ne hx] at h
    exact .inr ⟨hx, h⟩

theorem create_balance (h : Sound s []) (isSequence : Bool) (x : ActionId) :
    (s.create isSequence).refs x = (s.create isSequence).owners x := by
  have hbal := h.balance x
  have hcontained : (s.create isSequence).contained x = s.contained x := by
    simp only [State.contained, State.create, Finset.sum_range_succ, Function.update_self, entryCount_some,
      List.count_nil, Nat.add_zero]
    refine Finset.sum_congr rfl ?_
    intro t ht
    rw [Function.update_of_ne (Nat.ne_of_lt (Finset.mem_range.mp ht))]
  have hheld : (s.create isSequence).held x = s.held x := rfl
  rw [State.owners, List.count_nil] at hbal
  rw [State.owners, hcontained, hheld]
  by_cases hx : x = s.next
  · subst hx
    have hzero : s.refs s.next = 0 := by simp [State.refs, h.fresh s.next le_rfl]
    have hrefs : (s.create isSequence).refs s.next = 1 := by simp [State.refs, State.create]
    have hexternal : (s.create isSequence).external s.next = 1 := by simp [State.create]
    omega
  · have hrefs : (s.create isSequence).refs x = s.refs x := by simp [State.refs, State.create, hx]
    have hexternal : (s.create isSequence).external x = s.external x := by simp [State.create, hx]
    omega

/-- An action is created, with one reference for its creator. -/
theorem create (h : Invariant s) (isSequence : Bool) : Invariant (s.create isSequence) where
  sound   := by
    have hadded : s.addedTo s.next = [] := by
      rw [State.addedTo, List.map_eq_nil_iff, List.filter_eq_nil_iff]
      intro p hp
      simp [Nat.ne_of_lt (h.sound.known p hp)]
    refine ⟨?_, ?_, ?_, ?_, ?_, fun p hp => Nat.lt_succ_of_lt (h.sound.known p hp),
      create_balance h.sound isSequence⟩
    · intro x hx
      have hlt : s.next < x := hx
      simpa [State.create, Nat.ne_of_gt hlt] using h.sound.fresh x (Nat.le_of_lt hlt)
    · intro x o hx
      rcases create_heap s isSequence hx with ⟨-, rfl⟩ | ⟨-, hx⟩
      · exact Nat.one_pos
      · exact h.sound.positive x o hx
    · intro x o hx
      rcases create_heap s isSequence hx with ⟨-, rfl⟩ | ⟨-, hx⟩
      · rfl
      · exact h.sound.counted x o hx
    · intro x o hx hseq
      rcases create_heap s isSequence hx with ⟨-, rfl⟩ | ⟨-, hx⟩
      · rfl
      · exact h.sound.plain x o hx hseq
    · intro x o hx
      rcases create_heap s isSequence hx with ⟨rfl, rfl⟩ | ⟨-, hx⟩
      · exact hadded.symm
      · exact h.sound.entries x o hx
  records := by
    refine ⟨h.records.stack, fun f hf => State.fits_congr (h.records.frames f hf) rfl, h.records.runs,
      h.records.deletions, ?_, h.records.once⟩
    intro x hx
    obtain ⟨hnone, hlt⟩ := h.records.dead x hx
    exact ⟨by simp [State.create, Nat.ne_of_lt hlt, hnone], Nat.lt_succ_of_lt hlt⟩

/-- The holders outside take one more reference. -/
theorem reference (h : Invariant s) (hx : s.heap x = some o) :
    Invariant { s.reference x with external := Function.update s.external x (s.external x + 1) } where
  sound   := by
    refine (State.reference_sound h.sound hx).withOwners rfl rfl rfl ?_
    intro y
    simp only [State.owners, State.contained, State.held, State.reference, List.count_nil]
    by_cases hy : y = x
    · subst hy
      simp
      omega
    · have hxy : (x == y) = false := by simpa using fun heq => hy heq.symm
      simp [hy, List.count_cons, hxy]
  records :=
    have hrecords := State.reference_records h.records x
    ⟨hrecords.stack, fun f hf => State.fits_congr (hrecords.frames f hf) rfl, hrecords.runs, hrecords.deletions,
      hrecords.dead, hrecords.once⟩

/-- They give one back. -/
theorem dereference (h : Invariant s) (hcaller : s.CallerAwaits none) (hx : 0 < s.external x) :
    Invariant ({ s with external := Function.update s.external x (s.external x - 1) }.dereference x) := by
  have hsound : Sound { s with external := Function.update s.external x (s.external x - 1) } [x] := by
    refine h.sound.withOwners rfl rfl rfl ?_
    intro y
    simp only [State.owners, State.contained, State.held, List.count_nil]
    by_cases hy : y = x
    · subst hy
      simp
      omega
    · have hxy : (x == y) = false := by simpa using fun heq => hy heq.symm
      simp [hy, List.count_cons, hxy]
  have hrecords : Records { s with external := Function.update s.external x (s.external x - 1) } :=
    ⟨h.records.stack, fun f hf => State.fits_congr (h.records.frames f hf) rfl, h.records.runs, h.records.deletions,
      h.records.dead, h.records.once⟩
  exact ⟨State.dereference_sound hsound, State.dereference_records hrecords hsound hcaller⟩

/-- A new entry owns the reference on its action. -/
theorem insert (h : Records s) (hs : Sound s [x]) {q : ActionId} (hq : s.heap q = some o)
    (hseq : o.isSequence = true) :
    Invariant { s with
      heap  := Function.update s.heap q (some { o with entries := o.entries ++ [x], count := o.count + 1 })
      added := s.added ++ [(q, x)] } := by
  generalize hs' : ({ s with
      heap  := Function.update s.heap q (some { o with entries := o.entries ++ [x], count := o.count + 1 })
      added := s.added ++ [(q, x)] } : State) = s'
  have hheap : s'.heap = Function.update s.heap q (some { o with entries := o.entries ++ [x], count := o.count + 1 }) := by
    rw [← hs']
  have hnext : s'.next = s.next := by rw [← hs']
  have hstack : s'.stack = s.stack := by rw [← hs']
  have hdeletions : s'.deletions = s.deletions := by rw [← hs']
  have hself : s'.addedTo q = s.addedTo q ++ [x] := by
    rw [← hs']
    simp [State.addedTo, List.filter_append]
  have hother : ∀ y, y ≠ q → s'.addedTo y = s.addedTo y := by
    intro y hy
    have hqy : (q == y) = false := by simpa using fun heq => hy heq.symm
    rw [← hs']
    simp [State.addedTo, List.filter_append, hqy]
  have hcases : ∀ y o', s'.heap y = some o' →
      y = q ∧ o' = { o with entries := o.entries ++ [x], count := o.count + 1 } ∨ y ≠ q ∧ s.heap y = some o' := by
    intro y o' hy
    rw [hheap] at hy
    by_cases hyq : y = q
    · subst hyq
      simp only [Function.update_self, Option.some.injEq] at hy
      exact .inl ⟨rfl, hy.symm⟩
    · rw [Function.update_of_ne hyq] at hy
      exact .inr ⟨hyq, hy⟩
  have hdying : s'.dying = s.dying := by rw [State.dying, State.dying, hstack, hdeletions]
  have hdead : ∀ y ∈ s.dying, y ≠ q := by
    rintro y hy rfl
    rw [(h.dead y hy).1] at hq
    cases hq
  have hadded : s'.added = s.added ++ [(q, x)] := by rw [← hs']
  refine ⟨⟨?_, ?_, ?_, ?_, ?_, ?_, ?_⟩, ⟨hstack ▸ h.stack, ?_, ?_, ?_, ?_, hdying ▸ h.once⟩⟩
  · intro y hy
    have hne : y ≠ q := by
      rintro rfl
      rw [hnext] at hy
      exact absurd (hs.lt_next hq) (not_lt.mpr hy)
    rw [hheap, Function.update_of_ne hne]
    exact hs.fresh y (hnext ▸ hy)
  · intro y o' hy
    rcases hcases y o' hy with ⟨rfl, rfl⟩ | ⟨-, hy⟩
    · exact hs.positive y o hq
    · exact hs.positive y o' hy
  · intro y o' hy
    rcases hcases y o' hy with ⟨rfl, rfl⟩ | ⟨-, hy⟩
    · simp [hs.counted y o hq]
    · exact hs.counted y o' hy
  · intro y o' hy hnot
    rcases hcases y o' hy with ⟨rfl, rfl⟩ | ⟨-, hy⟩
    · rw [hseq] at hnot
      cases hnot
    · exact hs.plain y o' hy hnot
  · intro y o' hy
    rcases hcases y o' hy with ⟨rfl, rfl⟩ | ⟨hyq, hy⟩
    · rw [hself, ← hs.entries y o hq]
    · rw [hother y hyq]
      exact hs.entries y o' hy
  · rw [hnext, ← hs']
    intro p hp
    rcases List.mem_append.mp hp with hp | hp
    · exact hs.known p hp
    · rw [List.mem_singleton] at hp
      subst hp
      exact hs.lt_next hq
  · intro y
    have hbal := hs.balance y
    have hsum := State.contained_update s (hs.lt_next hq)
      (some { o with entries := o.entries ++ [x], count := o.count + 1 }) y
    rw [hq, entryCount_some, entryCount_some, List.count_append] at hsum
    have hcontained : s'.contained y = s.contained y + [x].count y := by
      rw [State.contained, hheap, hnext]
      omega
    have hheld : s'.held y = s.held y := by rw [State.held, State.held, hstack]
    have hexternal : s'.external y = s.external y := by rw [← hs']
    have hrefs : s'.refs y = s.refs y := by
      rw [State.refs, State.refs, hheap]
      by_cases hyq : y = q
      · subst hyq
        simp [hq]
      · rw [Function.update_of_ne hyq]
    rw [State.owners] at hbal
    rw [State.owners, hcontained, hheld, hexternal, hrefs, List.count_nil]
    omega
  · intro f hf
    rw [hstack] at hf
    have hfits := h.frames f hf
    cases f with
    | test this                 => exact trivial
    | running a                 => exact State.Snapshot.mono hfits hadded
    | releasing a               => exact State.Snapshot.mono hfits hadded
    | deleting this rest done   =>
        have hmem : this ∈ s.dying := List.mem_append_right _ (List.mem_filterMap.mpr ⟨_, hf, rfl⟩)
        have hentries : done ++ rest = s.addedTo this := hfits
        exact hentries.trans (hother _ (hdead _ hmem)).symm
  · intro r hr
    have hruns : s'.runs = s.runs := by rw [← hs']
    obtain ⟨hsnapshot, hcorrect⟩ := h.runs r (hruns ▸ hr)
    exact ⟨hsnapshot.mono hadded, hcorrect⟩
  · intro d hd
    rw [hdeletions] at hd
    have hmem : d.this ∈ s.dying := List.mem_append_left _ (List.mem_map_of_mem hd)
    rw [hother _ (hdead _ hmem)]
    exact h.deletions d hd
  · intro y hy
    rw [hdying] at hy
    rw [hheap, hnext, Function.update_of_ne (hdead y hy)]
    exact h.dead y hy

theorem addEntry (h : Invariant s) {q : ActionId} (hq : s.heap q = some o) {o' : Action}
    (hx : s.heap x = some o') (malloc : Bool) : Invariant (s.addEntry q x o malloc).2 := by
  unfold State.addEntry
  split
  · exact h
  split
  · exact h
  rename_i hreject _
  simp only [Bool.or_eq_true, beq_iff_eq, Bool.not_eq_true', not_or, Bool.not_eq_false] at hreject
  obtain ⟨hne, hseq⟩ := hreject
  have hq' : (s.reference x).heap q = some o := by
    have hqx : q ≠ x := fun heq => hne heq.symm
    simp [State.reference, hqx, hq]
  exact insert (State.reference_records h.records x) (State.reference_sound h.sound hx) hq' hseq

variable {f : Frame} {rest : List Frame}

/-- Test code returns. -/
theorem finish (h : Invariant s) {this : ActionId} (hstack : s.stack = .test this :: rest) (hr : HRESULT) :
    Invariant (({ s with stack := rest } : State).returned this hr) := by
  have hsound := State.pop_sound h.sound hstack fun _ => rfl
  have hrecords := State.pop_records h.records hstack rfl
  exact ⟨State.returned_sound hsound this hr,
    State.returned_records hrecords (State.callerAwaits_rest h.records hstack) hr⟩

/-- The loop over the actions. -/
theorem running (h : Invariant s) {a : Activation} (hstack : s.stack = .running a :: rest) {malloc : Bool}
    (hstep : s.resume malloc = some s') : Invariant s' := by
  have hok := h.records.stack
  have hfits : (Frame.running a).Fits s := h.records.frames _ (by rw [hstack]; exact List.mem_cons_self)
  rw [hstack] at hok
  have hruns : a.Runs := hok.1
  simp only [State.resume, hstack] at hstep
  split at hstep
  · rename_i hend
    cases hstep
    have hends := hruns.ends (by simpa using hend)
    refine ⟨State.replace_sound h.sound hstack ?_, State.replace_records h.records hstack hends hfits rfl rfl⟩
    intro x
    simp [Frame.holds]
  · rename_i hgo
    simp only [Bool.or_eq_true, decide_eq_true_eq, not_or, Bool.not_eq_true, not_le] at hgo
    split at hstep
    · rename_i y hy
      obtain ⟨o, ho, rfl⟩ := Option.map_eq_some_iff.mp hstep
      have hcaller : s.CallerAwaits (some y) := by
        intro g hg
        rw [hstack] at hg
        cases hg
        exact ⟨y, rfl, hy, hgo.1⟩
      exact ⟨State.call_sound h.sound ho true malloc, State.call_records h.records h.sound ho hcaller true malloc⟩
    · cases hstep

/-- The loop that releases the references. -/
theorem releasing (h : Invariant s) {a : Activation} (hstack : s.stack = .releasing a :: rest) {malloc : Bool}
    (hstep : s.resume malloc = some s') : Invariant s' := by
  have hok := h.records.stack
  have hfits : (Frame.releasing a).Fits s := h.records.frames _ (by rw [hstack]; exact List.mem_cons_self)
  rw [hstack] at hok
  have hreleases : a.Releases := hok.1
  simp only [State.resume, hstack] at hstep
  split at hstep
  · rename_i hend
    cases hstep
    have hsound : Sound { s with stack := rest } [] := by
      refine State.pop_sound h.sound hstack ?_
      intro x
      have hnil : a.actionsArray.drop a.index = [] := by
        rw [List.drop_eq_nil_iff, ← hreleases.count]
        exact hend
      simp [Frame.holds, hnil]
    have hrecords := State.pop_records h.records hstack rfl
    exact ⟨State.ended_sound hsound _,
      State.ended_records hrecords (State.callerAwaits_rest h.records hstack) hfits (hreleases.correct hend)⟩
  · split at hstep
    · rename_i y hy
      cases hstep
      have hdrop : a.actionsArray.drop a.index = y :: a.actionsArray.drop (a.index + 1) := by
        obtain ⟨hlt, hy⟩ := List.getElem?_eq_some_iff.mp hy
        rw [List.drop_eq_getElem_cons hlt, hy]
      let a' : Activation := { a with index := a.index + 1, released := a.released ++ [y] }
      have hsound : Sound { s with stack := .releasing a' :: rest } [y] := by
        refine State.replace_sound h.sound hstack ?_
        intro x
        simp only [Frame.holds, List.map_cons, List.sum_cons, hdrop, List.count_cons, List.count_nil, a']
        omega
      have hrecords : Records { s with stack := .releasing a' :: rest } :=
        State.replace_records h.records hstack (hreleases.next hy) hfits rfl rfl
      refine ⟨State.dereference_sound hsound, State.dereference_records hrecords hsound ?_⟩
      rintro g ⟨⟩
      exact trivial
    · cases hstep

/-- The loop over the entries of a deleted sequence, and its end. -/
theorem deleting (h : Invariant s) {this : ActionId} {ys done : List ActionId}
    (hstack : s.stack = .deleting this ys done :: rest) {malloc : Bool} (hstep : s.resume malloc = some s') :
    Invariant s' := by
  have hok := h.records.stack
  have hfits : done ++ ys = s.addedTo this :=
    h.records.frames (.deleting this ys done) (by rw [hstack]; exact List.mem_cons_self)
  rw [hstack] at hok
  simp only [State.resume, hstack] at hstep
  cases ys with
  | cons y ys =>
      cases hstep
      have hsound : Sound { s with stack := .deleting this ys (done ++ [y]) :: rest } [y] := by
        refine State.replace_sound h.sound hstack ?_
        intro x
        simp only [Frame.holds, List.map_cons, List.sum_cons, List.count_cons, List.count_nil]
        omega
      have hrecords : Records { s with stack := .deleting this ys (done ++ [y]) :: rest } := by
        refine State.replace_records h.records hstack trivial ?_ rfl rfl
        have hentries : done ++ [y] ++ ys = s.addedTo this := by
          rw [List.append_assoc]
          exact hfits
        exact hentries
      refine ⟨State.dereference_sound hsound, State.dereference_records hrecords hsound ?_⟩
      rintro g ⟨⟩
      exact trivial
  | nil =>
      -- the sequence is freed
      cases hstep
      have hsound := State.pop_sound h.sound hstack fun _ => rfl
      have hdying : State.dying { s with stack := rest, deletions := s.deletions ++ [⟨this, done⟩] } = s.dying := by
        simp [State.dying, hstack, Frame.deletes]
      have hframes : ∀ f ∈ rest, f.Fits s :=
        fun f hf => h.records.frames f (by rw [hstack]; exact List.mem_cons_of_mem _ hf)
      refine ⟨hsound.withOwners rfl rfl rfl fun _ => rfl,
        ⟨hok.2.2, fun f hf => State.fits_congr (hframes f hf) rfl, h.records.runs, ?_, ?_, hdying ▸ h.records.once⟩⟩
      · intro d hd
        rcases List.mem_append.mp hd with hd | hd
        · exact h.records.deletions d hd
        · rw [List.mem_singleton.mp hd]
          have hdone : done = s.addedTo this := by simpa using hfits
          exact hdone
      · exact fun x hx => h.records.dead x (hdying ▸ hx)

theorem resume (h : Invariant s) {malloc : Bool} (hstep : s.resume malloc = some s') : Invariant s' := by
  cases hstack : s.stack with
  | nil => simp [State.resume, hstack] at hstep
  | cons f rest =>
      cases f with
      | test this             => simp [State.resume, hstack] at hstep
      | running a             => exact h.running hstack hstep
      | releasing a           => exact h.releasing hstack hstep
      | deleting this ys done => exact h.deleting hstack hstep

/-- **Every step keeps the invariant.** -/
theorem step (h : Invariant s) {a : Step} (hstep : next s a = some s') : Invariant s' := by
  unfold next at hstep
  cases a with
  | create isSequence =>
      simp only [Option.ite_none_right_eq_some, Option.some.injEq] at hstep
      obtain ⟨-, rfl⟩ := hstep
      exact h.create isSequence
  | reference x =>
      simp only [Option.ite_none_right_eq_some, Bool.and_eq_true, Option.some.injEq] at hstep
      obtain ⟨⟨-, hx⟩, rfl⟩ := hstep
      obtain ⟨o, ho⟩ := Option.isSome_iff_exists.mp hx
      exact h.reference ho
  | dereference x =>
      simp only [Option.ite_none_right_eq_some, Bool.and_eq_true, decide_eq_true_eq, Option.some.injEq] at hstep
      obtain ⟨⟨hcontrol, hx⟩, rfl⟩ := hstep
      exact h.dereference (callerAwaits_of_inControl hcontrol _) hx
  | add q x malloc =>
      simp only [Option.ite_none_right_eq_some, Bool.and_eq_true, Option.map_eq_some_iff] at hstep
      obtain ⟨⟨-, hx⟩, o, hq, rfl⟩ := hstep
      obtain ⟨o', ho'⟩ := Option.isSome_iff_exists.mp hx
      exact h.addEntry hq ho' malloc
  | invoke x isValidContext malloc =>
      simp only [Option.ite_none_right_eq_some, Option.map_eq_some_iff] at hstep
      obtain ⟨hcontrol, o, ho, rfl⟩ := hstep
      exact ⟨State.call_sound h.sound ho isValidContext malloc,
        State.call_records h.records h.sound ho (callerAwaits_of_inControl hcontrol _) isValidContext malloc⟩
  | finish hr =>
      simp only at hstep
      split at hstep
      · rename_i this rest hstack
        cases hstep
        exact h.finish hstack hr
      · cases hstep
  | resume malloc => exact h.resume hstep

theorem reachable {as : List Step} (h : run next .initial as = some s) : Invariant s :=
  run_invariant (fun _ _ _ hI hstep => hI.step hstep) .initial h

end Invariant

/-! ## Every run -/

/-- **What the machine has done so far.** -/
structure Semantics (s : State) : Prop where
  /-- Every finished run has done what its context and memory let it do with the entries at its start. -/
  runs      : ∀ r ∈ s.runs, s.Snapshot r.start r.this r.entries ∧ r.Correct
  /-- A deletion dereferences each entry once, and no sequence is deleted twice. -/
  deletions : ∀ d ∈ s.deletions, d.dereferenced = s.addedTo d.this
  once      : (s.deletions.map Deletion.this).Nodup
  /-- Every reference has one owner. -/
  balanced  : s.Balanced

theorem Invariant.semantics {s : State} (h : Invariant s) : Semantics s where
  runs      := h.records.runs
  deletions := h.records.deletions
  once      := (List.nodup_append.mp h.records.once).1
  balanced  := by
    intro x
    have hbal := h.sound.balance x
    rwa [List.count_nil, Nat.add_zero] at hbal

/-- **Sequence semantics and reference balance.** In every run of the machine, each finished run of a sequence that
    had a valid context, and memory if it needed an array, has executed its entries at the start, in order, up to
    and including the first failing one, and released each of them once; without it has executed nothing. A deletion
    dereferences each added entry once. While the activations on the stack hold the same references, a count changes
    only with the holders outside and the sequences that contain the action. -/
theorem run_semantics {as : List Step} {s : State} (h : run next .initial as = some s) :
    Semantics s ∧ ∀ bs s', run next s bs = some s' → (∀ x, s'.held x = s.held x) →
      ∀ x, s'.refs x + (s.external x + s.contained x) = s.refs x + (s'.external x + s'.contained x) := by
  refine ⟨(Invariant.reachable h).semantics, ?_⟩
  intro bs s' hrun hheld x
  have h' : run next .initial (as ++ bs) = some s' := run_append.mpr ⟨s, h, hrun⟩
  have hbalanced := (Invariant.reachable h).semantics.balanced x
  have hbalanced' := (Invariant.reachable h').semantics.balanced x
  have hheld' := hheld x
  rw [State.owners] at hbalanced hbalanced'
  omega

/-- An action is twice in a sequence; its first run adds it once more, its second run fails. -/
def reentrantAdd : List Step :=
  [.create true, .create false, .add 0 1 true, .add 0 1 true, .invoke 0 true true, .resume true, .add 0 1 true,
    .finish sOk, .resume true, .finish eUnexpected, .resume true, .resume true, .resume true, .resume true,
    .dereference 0, .resume true, .resume true, .resume true, .resume true]

theorem run_semantics_reentrantAdd : ∃ s, run next .initial reentrantAdd = some s ∧
    s.runs = [⟨0, 2, [1, 1], true, true, [(1, sOk), (1, eUnexpected)], eUnexpected, [1, 1]⟩] ∧
    s.deletions = [⟨0, [1, 1, 1]⟩] ∧ s.refs 1 = 1 ∧ Semantics s :=
  ⟨_, rfl, rfl, rfl, rfl, (run_semantics (show run next .initial reentrantAdd = some _ from rfl)).1⟩

/-- A run that executes its entries, up to the first failing one, even if the array cannot be allocated, and
    returns the result of the failing one or `S_OK`. -/
structure RunRecord.Unconditional (r : RunRecord) : Prop where
  actions : r.executed.map Prod.fst = r.entries.take r.executed.length
  ok      : ∀ p ∈ r.executed.dropLast, failed p.2 = false
  stop    : r.executed.length < r.entries.length → ∃ p ∈ r.executed.getLast?, failed p.2 = true
  hr      : r.hr = ((r.executed.map Prod.snd).find? failed).getD sOk

/-- If the array of actions cannot be allocated, no entry is executed. -/
theorem outOfMemory_executes_nothing :
    ∃ s, run next .initial [.create true, .create false, .add 0 1 true, .invoke 0 true false] = some s ∧
      ∃ r ∈ s.runs, ¬ r.Unconditional := by
  refine ⟨_, rfl, ⟨0, 1, [1], true, false, [], eOutofmemory, []⟩, List.mem_singleton.mpr rfl, ?_⟩
  intro h
  obtain ⟨p, hp, -⟩ := h.stop (by decide)
  cases hp

end Cfix.Sequence
