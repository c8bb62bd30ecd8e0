import Cfix.Filament.Aborts

/-!
# `Filament.Dangling` — the filament when it is destroyed

The filament lives on the stack of `CfixsRunTestRoutine`. When it is destroyed, nothing that goes on may
refer to it. That holds in every run in which no anonymous thread registers between the join and the restore,
and the restore revokes the default filament (`Timely`).
-/

namespace Cfix.Routine

open Thread Transition

variable {c : Call}

/-! ## The property -/

/-- **No dangling filament**: when `CfixpDestroyFilament` runs, neither the default filament nor the TLS slot
    of a thread that has not ended is the destroyed filament, and all its child threads were waited for. -/
def NoDangling (c : Call) (s : State) : Prop :=
  (∃ result, s.main = .destroying result) →
    s.world.default_ ≠ some c.this ∧
    (∀ t, (s.world.tls t).filament = some c.this → t ≠ c.mainThread ∧ s.threads t = .exited) ∧
    ∀ t ∈ s.world.childThreads c.this, t ∈ s.waitedFor

/-- The previous filament can be restored such that the filament of the call is the default filament no more:
    not both provide the default filament, and where the main thread is a child thread of the previous
    filament, it can register again. -/
def Restorable (c : Call) (s : State) (handleHr : HRESULT) (p : FilamentId) : Prop :=
  ¬ (c.providesDefault = true ∧ (c.filaments p).providesDefault = true) ∧
  (c.mainThread ≠ (c.filaments p).mainThreadId →
    failed handleHr = false ∧ (s.world.full (some p) = true → c.providesDefault = false))

/-- No thread attaches itself to the filament after the join, and the restore does its work. -/
def Timely (c : Call) (s : State) : Action → Prop
  | .attach _ handleHr => s.main = .joined → failed handleHr = true ∨ s.world.full (some c.this) = true
  | .restore handleHr  => ∀ p, s.prevFilament = some p → Restorable c s handleHr p
  | _                  => True

/-! ## After the join -/

/-- Once the join is over no child thread is active, and once the filament is restored nothing refers to it. -/
structure Quiet (c : Call) (s : State) : Prop where
  idle     : s.main.pastJoin = true → ∀ t, t ≠ c.mainThread → s.threads t = .absent ∨ s.threads t = .exited
  waited   : s.main.pastJoin = true → ∀ t ∈ s.world.childThreads c.this, t ∈ s.waitedFor
  default_ : s.main.pastRestore = true → s.world.default_ ≠ some c.this
  current  : s.main.pastRestore = true → (s.world.tls c.mainThread).filament ≠ some c.this

/-- Before the end of the join there is nothing to show. -/
theorem quiet_of_not_pastJoin {s : State} {main : MainPc} (h : main.pastJoin = false) (hmain : s.main = main) :
    Quiet c s := by
  have hj : s.main.pastJoin ≠ true := by
    rw [hmain, h]
    exact Bool.false_ne_true
  have hr : s.main.pastRestore ≠ true := fun hr => hj (MainPc.pastJoin_of_pastRestore hr)
  exact ⟨fun h' => absurd h' hj, fun h' => absurd h' hj, fun h' => absurd h' hr, fun h' => absurd h' hr⟩

theorem quiet_start : Quiet c c.start := quiet_of_not_pastJoin rfl rfl

/-- While there is test code, the join is not over. -/
theorem Quiet.not_pastJoin {s : State} {t : ThreadId} (hi : Inv c s) (h : Quiet c s)
    (hactive : (s.threads t).active = true) (hrunning : t = c.mainThread → ∃ awaits, s.threads t = .running awaits) :
    s.main.pastJoin = false := by
  by_cases hmain : t = c.mainThread
  · obtain ⟨awaits, ht⟩ := hrunning hmain
    rw [hi.main_routine (hmain ▸ ht)]
    rfl
  · by_contra hj
    have hj' : s.main.pastJoin = true := by simpa using hj
    rcases h.idle hj' t hmain with ht | ht <;> (rw [ht] at hactive; cases hactive)

theorem Quiet.not_pastJoin_of_running {s : State} {t : ThreadId} {awaits : Option ThreadId} (hi : Inv c s)
    (h : Quiet c s) (ht : s.threads t = .running awaits) : s.main.pastJoin = false :=
  h.not_pastJoin hi (by rw [ht]; rfl) (fun _ => ⟨awaits, ht⟩)

/-! ## Attaching and restoring -/

/-- A thread that attaches itself has a handle, and the child thread list has room. -/
theorem attach_room {t : ThreadId} {handleHr hr : HRESULT} {v : TlsValue} {w w' : World}
    (hmain : t ≠ c.mainThread) (htls : (w.tls t).filament = none) (hd : w.default_ = some c.this)
    (h : getCurrentFilament c.filaments t handleHr w = some (hr, v, w')) (hok : failed hr = false) :
    failed handleHr = false ∧ w.full (some c.this) = false := by
  have hreg : registersAsChild c.filaments t (some c.this) = true := by
    have hne : t ≠ (c.filaments c.this).mainThreadId := hmain
    simpa [registersAsChild] using hne
  rcases getCurrentFilament_some c.filaments h with ⟨hsome, -⟩ | ⟨-, hnone, -⟩ | ⟨d, prev, -, hd', hout⟩
  · exact absurd htls hsome
  · rw [hd] at hnone
    cases hnone
  · rw [hd] at hd'
    cases hd'
    cases hout with
    | installed hroom => exact hroom hreg
    | noHandle _ hf =>
        rw [hok] at hf
        cases hf
    | tooMany => cases hok
    | conflict => cases hok

/-- Restoring a restorable filament leaves nothing of the filament of the call. -/
theorem restore_quiet {new prev : Option FilamentId} {s : State} {handleHr hr : HRESULT} {w : World}
    (hnew : new ≠ some c.this) (hcur : (s.world.tls c.mainThread).filament = some c.this)
    (hd : s.world.default_ = if c.providesDefault then some c.this else none)
    (hrest : ∀ p, new = some p → Restorable c s handleHr p)
    (h : setCurrentFilament c.filaments c.mainThread new false handleHr s.world = some (hr, prev, w)) :
    w.default_ ≠ some c.this ∧ (w.tls c.mainThread).filament ≠ some c.this := by
  have hreg : ∀ p, new = some p → registersAsChild c.filaments c.mainThread new = true →
      c.mainThread ≠ (c.filaments p).mainThreadId := by
    intro p hp hr'
    rw [hp] at hr'
    simpa [registersAsChild] using hr'
  cases setCurrentFilament_some c.filaments h with
  | installed _ _ htls hdef _ _ =>
      refine ⟨?_, by rw [htls, Function.update_self]; exact hnew⟩
      rw [hdef, hcur]
      cases new with
      | none =>
          simp only [defaultAfter]
          split
          · simp
          · rename_i hno
            have hprov : c.providesDefault = false := by
              by_contra hp
              exact hno ⟨rfl, by simpa [Call.providesDefault] using hp⟩
            rw [hd, hprov, if_neg Bool.false_ne_true]
            simp
      | some p =>
          obtain ⟨hboth, -⟩ := hrest p rfl
          simp only [defaultAfter]
          split
          · simp
          · rename_i hp
            have hprov : c.providesDefault = false := by
              by_contra hprov
              exact hboth ⟨by simpa using hprov, by simpa using hp⟩
            split
            · exact hnew
            · rw [hd, hprov, if_neg Bool.false_ne_true]
              simp
  | noHandle hr' hf =>
      cases new with
      | none => cases hr'
      | some p =>
          have hok := ((hrest p rfl).2 (hreg p rfl hr')).1
          rw [hok] at hf
          cases hf
  | tooMany hr' _ hfull htls hdef _ _ =>
      cases new with
      | none => cases hr'
      | some p =>
          have hprov := ((hrest p rfl).2 (hreg p rfl hr')).2 hfull
          rw [hdef, hd, hprov, htls, Function.update_self, if_neg Bool.false_ne_true]
          exact ⟨by simp, by simp⟩
  | conflict hc =>
      cases new with
      | none => cases hc
      | some p =>
          simp only [World.conflicts, Bool.and_eq_true] at hc
          obtain ⟨⟨hp, -⟩, hsome⟩ := hc
          have hprov : c.providesDefault = true := by
            by_contra hprov
            rw [hd, if_neg hprov] at hsome
            cases hsome
          exact absurd ⟨hprov, hp⟩ (hrest p rfl).1

/-! ## Runs -/

/-- **The step lemma.** -/
theorem Quiet.step {s s' : State} {a : Action} (hi : Inv c s) (h : Quiet c s) (hc : Timely c s a)
    (hs : Step c s a s') : Quiet c s' := by
  cases hs with
  | installed => exact quiet_of_not_pastJoin rfl rfl
  | notInstalled hmain hset hf =>
      obtain ⟨hworld, habsent⟩ := hi.fresh hmain
      obtain ⟨hch, -, ⟨rfl, -⟩ | ⟨-, htls, hd⟩⟩ := setCurrentFilament_installed hset
      · cases hf
      · refine ⟨fun _ t _ => .inl (habsent t), ?_, fun _ => ?_, fun _ => ?_⟩
        · intro _ t ht
          have hnil : t ∈ c.childThreads c.this := by
            rw [hch, hworld] at ht
            exact ht
          rw [c.childThreads_this] at hnil
          cases hnil
        · rw [hd, hworld]
          exact c.default_ne
        · rw [htls, hworld]
          show (Function.update World.initial.tls c.mainThread c.current c.mainThread).filament ≠ _
          rw [Function.update_self]
          exact c.current_ne
  | stayed => exact h
  | @stopped _ t completed abortRun answered ht _ =>
      have hpc : (if t = c.mainThread then MainPc.routineDone else s.main).pastJoin = false := by
        split
        · rfl
        · exact h.not_pastJoin_of_running hi ht
      exact quiet_of_not_pastJoin hpc rfl
  | abandoned => exact ⟨h.idle, h.waited, h.default_, h.current⟩
  | @attached t handleHr _ _ _ hmain habsent hd hget hok =>
      have htls := hi.detached t hmain (by rw [habsent]; rfl)
      obtain ⟨hhandle, hroom⟩ := attach_room hmain htls hd hget hok
      -- after the join the thread would be late, after the restore there is nothing to attach to
      have hnot : s.main.pastJoin = false := by
        cases hpc : s.main with
        | joined =>
            have hlate : failed handleHr = true ∨ s.world.full (some c.this) = true := hc hpc
            rw [hhandle, hroom] at hlate
            simp at hlate
        | destroying result => exact absurd hd (h.default_ (by rw [hpc]; rfl))
        | returned result => exact absurd hd (h.default_ (by rw [hpc]; rfl))
        | _ => rfl
      exact quiet_of_not_pastJoin hnot rfl
  | @notAttached t _ _ _ _ hmain habsent hd hget hf =>
      have htls := hi.detached t hmain (by rw [habsent]; rfl)
      rcases getCurrentFilament_registered hmain htls hd hget with ⟨hok, -⟩ | ⟨-, hr⟩
      · rw [hok] at hf
        cases hf
      · refine ⟨h.idle, fun hj x hx => h.waited hj x (hr.childThreads ▸ hx), ?_, ?_⟩
        · intro hj
          exact absurd hd (h.default_ hj)
        · intro hj
          exact absurd hd (h.default_ hj)
  | created ht => exact quiet_of_not_pastJoin (h.not_pastJoin_of_running hi ht) rfl
  | started hu =>
      -- the creator is still in test code
      obtain ⟨-, hcreator⟩ := hi.awaited _ _ hu
      exact quiet_of_not_pastJoin (h.not_pastJoin_of_running hi hcreator) rfl
  | notStarted hu =>
      obtain ⟨-, hcreator⟩ := hi.awaited _ _ hu
      exact quiet_of_not_pastJoin (h.not_pastJoin_of_running hi hcreator) rfl
  | resumed ht => exact quiet_of_not_pastJoin (h.not_pastJoin_of_running hi ht) rfl
  | left hmain hu =>
      exact quiet_of_not_pastJoin (h.not_pastJoin hi (by rw [hu]; rfl) (fun h' => absurd h' hmain)) rfl
  | joinBegun => exact quiet_of_not_pastJoin rfl rfl
  | joinEnded hmain hall =>
      have hphase := hi.main_leaving (.inr (.inl hmain))
      -- an active child thread would be listed, and the join has waited for all that are
      have hinactive : ∀ t, t ≠ c.mainThread → (s.threads t).active = true → False := by
        intro t ht hactive
        have hex := hall t (hi.listed t ht hactive)
        rw [hex] at hactive
        cases hactive
      refine ⟨fun _ t ht => ?_, fun _ t ht => ht, by simp [MainPc.pastRestore], by simp [MainPc.pastRestore]⟩
      cases hpc : s.threads t with
      | absent => exact .inl rfl
      | exited => exact .inr rfl
      | running awaits => exact (hinactive t ht (by rw [hpc]; rfl)).elim
      | leaving => exact (hinactive t ht (by rw [hpc]; rfl)).elim
      | starting creator =>
          -- its creator would be active
          obtain ⟨-, hcreator⟩ := hi.awaited t creator hpc
          have hne : creator ≠ c.mainThread := by
            rintro rfl
            rw [hphase] at hcreator
            cases hcreator
          exact (hinactive creator hne (by rw [hcreator]; rfl)).elim
  | restored hmain hset =>
      have hphase := hi.main_leaving (.inr (.inr hmain))
      have hactive : (s.threads c.mainThread).active = true := by rw [hphase]; rfl
      have hj : s.main.pastJoin = true := by rw [hmain]; rfl
      have hnew : s.prevFilament ≠ some c.this := by
        rw [hi.prev hactive]
        exact c.current_ne
      obtain ⟨-, hch, -⟩ := setCurrentFilament_restored hnew hset
      obtain ⟨hd, htls⟩ := restore_quiet hnew (hi.current _ hactive) (hi.default_ hactive) hc hset
      refine ⟨fun _ t ht => ?_, fun _ t ht => h.waited hj t (hch ▸ ht), fun _ => hd, fun _ => htls⟩
      show Function.update s.threads c.mainThread _ t = _ ∨ Function.update s.threads c.mainThread _ t = _
      rw [Function.update_of_ne ht]
      exact h.idle hj t ht
  | destroyed hmain =>
      have hj : s.main.pastJoin = true := by rw [hmain]; rfl
      have hr : s.main.pastRestore = true := by rw [hmain]; rfl
      exact ⟨fun _ => h.idle hj, fun _ => h.waited hj, fun _ => h.default_ hr, fun _ => h.current hr⟩

/-- **No dangling filament** in any run in which every step is timely. -/
theorem noDangling_run {s : State} {as : List Action} (hm : Meets (next c) (Timely c) c.start as)
    (hr : run (next c) c.start as = some s) : NoDangling c s := by
  obtain ⟨hi, h⟩ := run_induction (I := fun s => Inv c s ∧ Quiet c s)
    (fun _ _ _ h hc hnext => ⟨h.1.step (next_step hnext), h.2.step h.1 hc (next_step hnext)⟩)
    ⟨inv_start, quiet_start⟩ hm hr
  rintro ⟨result, hmain⟩
  have hj : s.main.pastJoin = true := by rw [hmain]; rfl
  have hrest : s.main.pastRestore = true := by rw [hmain]; rfl
  refine ⟨h.default_ hrest, ?_, h.waited hj⟩
  intro t ht
  have hne : t ≠ c.mainThread := by
    rintro rfl
    exact h.current hrest ht
  refine ⟨hne, ?_⟩
  rcases h.idle hj t hne with hpc | hpc
  · rw [hi.detached t hne (by rw [hpc]; rfl)] at ht
    cases ht
  · exact hpc

/-! ## Two runs -/

/-- Thread 1 attaches itself while the routine runs. -/
def attachInTime : List Action :=
  [.install sOk, .attach 1 sOk, .finish 1, .leave 1, .finish 0, .beginJoin, .endJoin, .restore sOk]

theorem noDangling_attachInTime : ∃ s, run (next outermost) outermost.start attachInTime = some s ∧
    s.main = .destroying sOk ∧ NoDangling outermost s := by
  have hr : run (next outermost) outermost.start attachInTime = some _ := rfl
  refine ⟨_, hr, rfl, noDangling_run ?_ hr⟩
  refine .cons rfl trivial (.cons rfl (fun h => MainPc.noConfusion h) ?_)
  refine .cons rfl trivial (.cons rfl trivial (.cons rfl trivial (.cons rfl trivial (.cons rfl trivial ?_))))
  exact .cons rfl (fun _ h => nomatch h) trivial

/-- Thread 1 attaches itself when the join is over and the default filament is not revoked yet. -/
def attachLate : List Action :=
  [.install sOk, .finish 0, .beginJoin, .endJoin, .attach 1 sOk, .restore sOk]

/-- Thread 1 then runs on with the destroyed filament, and nobody has waited for it. -/
theorem attachLate_dangles : ∃ s, run (next outermost) outermost.start attachLate = some s ∧
    s.threads 1 = .running none ∧ ¬ NoDangling outermost s := by
  refine ⟨_, rfl, rfl, fun h => ?_⟩
  obtain ⟨-, htls, -⟩ := h ⟨_, rfl⟩
  have hexited := (htls 1 rfl).2
  revert hexited
  decide

end Cfix.Routine
