import Cfix.Filament.Dangling

/-!
# `Filament.Deadlock` — joining while threads are created

The join holds the filament's lock during its wait, and a new thread needs this lock to register while its
creator waits for it. So the join must not meet a creation (`JoinsAlone`); then there is always a thread that
can go on.
-/

namespace Cfix.Routine

open Thread Transition

variable {c : Call}

/-! ## The property -/

/-- The steps by which threads get on with what they do. Their routines terminate (`finish`), and handles can
    be duplicated. -/
def Action.advances : Action → Bool
  | .install handleHr => !failed handleHr
  | .start _ handleHr => !failed handleHr
  | .restore handleHr => !failed handleHr
  | .resume _         => true
  | .finish _         => true
  | .leave _          => true
  | .beginJoin        => true
  | .endJoin          => true
  | .destroy          => true
  | _                 => false

/-- Some thread has an enabled step. -/
def CanStep (c : Call) (s : State) : Prop := ∃ a : Action, a.advances = true ∧ (next c s a).isSome = true

/-- All threads have finished. -/
def Finished (c : Call) (s : State) : Prop :=
  (∃ result, s.main = .returned result) ∧
  ∀ t, t ≠ c.mainThread → s.threads t = .absent ∨ s.threads t = .exited

/-- **No deadlock**: as long as not all threads have finished, one of them has an enabled step. -/
def Progress (c : Call) (s : State) : Prop := s.abandoned = false → ¬ Finished c s → CanStep c s

/-- The join does not meet a thread whose creation is under way. -/
def JoinsAlone (s : State) : Action → Prop
  | .create _ _ => s.main ≠ .waiting
  | .beginJoin  => ∀ u creator, s.threads u ≠ .starting creator
  | _           => True

/-! ## The locks -/

/-- Who holds a lock between two steps: the joining main thread, or nobody. The default filament's lock is
    lost when a conflict is found; but then nobody needs it again. -/
structure Locks (c : Call) (s : State) : Prop where
  child    : ∀ f, s.world.childLock f
    = if s.main = .waiting ∧ f = c.this then ⟨some (c.mainThread, 0)⟩ else ⟨none⟩
  default_ : s.world.defaultLock = ⟨none⟩ ∨
    (s.main.pastRestore = true ∧
      (c.providesDefault = true ∨ ((∀ t, s.threads t = .absent) ∧ s.world.default_ ≠ some c.this)))

theorem locks_start : Locks c c.start := by
  refine ⟨fun f => ?_, .inl rfl⟩
  rw [if_neg (fun h => MainPc.noConfusion h.1)]
  rfl

/-- Steps that leave the locks and the main thread alone, where some thread is at work. -/
theorem Locks.of_same {s s' : State} {t : ThreadId} (h : Locks c s) (hmain : s'.main = s.main)
    (hchild : s'.world.childLock = s.world.childLock) (hlock : s'.world.defaultLock = s.world.defaultLock)
    (ht : s.threads t ≠ .absent) : Locks c s' := by
  refine ⟨fun f => ?_, ?_⟩
  · rw [hchild, hmain]
    exact h.child f
  · rw [hlock, hmain]
    rcases h.default_ with hfree | ⟨hp, hprov | ⟨habsent, -⟩⟩
    · exact .inl hfree
    · exact .inr ⟨hp, .inl hprov⟩
    · exact absurd (habsent t) ht

/-- The same where the default filament is the one of the call. -/
theorem Locks.of_default {s s' : State} (h : Locks c s) (hmain : s'.main = s.main)
    (hchild : s'.world.childLock = s.world.childLock) (hlock : s'.world.defaultLock = s.world.defaultLock)
    (hd : s.world.default_ = some c.this) : Locks c s' := by
  refine ⟨fun f => ?_, ?_⟩
  · rw [hchild, hmain]
    exact h.child f
  · rw [hlock, hmain]
    rcases h.default_ with hfree | ⟨hp, hprov | ⟨-, hne⟩⟩
    · exact .inl hfree
    · exact .inr ⟨hp, .inl hprov⟩
    · exact absurd hd hne

/-- Before the restore the default filament's lock is free. -/
theorem Locks.default_free {s : State} (h : Locks c s) (hp : s.main.pastRestore = false) :
    s.world.defaultLock = ⟨none⟩ := by
  rcases h.default_ with hfree | ⟨hp', -⟩
  · exact hfree
  · rw [hp] at hp'
    cases hp'

/-- Except during the join the child thread locks are free. -/
theorem Locks.child_free {s : State} (h : Locks c s) (hmain : s.main ≠ .waiting) (f : FilamentId) :
    s.world.childLock f = ⟨none⟩ := by
  rw [h.child f, if_neg (fun hw => hmain hw.1)]

theorem Locks.step {s s' : State} {a : Action} (hi : Inv c s) (h : Locks c s) (hs : Step c s a s') :
    Locks c s' := by
  cases hs with
  | installed hmain hset hok =>
      obtain ⟨-, hchild, ⟨-, -, -, -, hlock⟩ | ⟨rfl, -⟩⟩ := setCurrentFilament_installed hset
      · refine ⟨fun f => ?_, .inl ?_⟩
        · rw [if_neg (fun hw => MainPc.noConfusion hw.1)]
          show _ = _
          rw [hchild]
          exact h.child_free (by rw [hmain]; simp) f
        · show _ = _
          rw [hlock]
          exact h.default_free (by rw [hmain]; rfl)
      · cases hok
  | notInstalled hmain hset hf =>
      obtain ⟨hworld, habsent⟩ := hi.fresh hmain
      obtain ⟨-, hchild, ⟨rfl, -⟩ | ⟨-, -, hd⟩⟩ := setCurrentFilament_installed hset
      · cases hf
      · refine ⟨fun f => ?_, .inr ⟨rfl, .inr ⟨habsent, ?_⟩⟩⟩
        · rw [if_neg (fun hw => MainPc.noConfusion hw.1)]
          show _ = _
          rw [hchild]
          exact h.child_free (by rw [hmain]; simp) f
        · show _ ≠ _
          rw [hd, hworld]
          exact c.default_ne
  | stayed => exact h
  | @stopped _ t completed abortRun answered ht _ =>
      by_cases hmain : t = c.mainThread
      · have hpc : s.main = .routine := hi.main_routine (hmain ▸ ht)
        have hdone : (s.stop c t completed abortRun).main ≠ .waiting := by
          rw [State.stop, if_pos hmain]
          simp
        refine ⟨fun f => ?_, .inl (h.default_free (by rw [hpc]; rfl))⟩
        exact (h.child_free (by rw [hpc]; simp) f).trans (if_neg (fun hw => hdone hw.1)).symm
      · exact h.of_same (if_neg hmain) rfl rfl (by rw [ht]; simp)
  | abandoned => exact ⟨h.child, h.default_⟩
  | @attached t _ _ _ _ hmain habsent hd hget _ =>
      obtain ⟨hchild, hlock⟩ := getCurrentFilament_locks hd hmain hget
      exact h.of_default rfl hchild hlock hd
  | @notAttached t _ _ _ _ hmain habsent hd hget _ =>
      obtain ⟨hchild, hlock⟩ := getCurrentFilament_locks hd hmain hget
      exact h.of_default rfl hchild hlock hd
  | created ht => exact h.of_same rfl rfl rfl (by rw [ht]; simp)
  | started hu hset hok =>
      obtain ⟨hmain, -⟩ := hi.awaited _ _ hu
      rcases setCurrentFilament_registered hmain hset with ⟨-, hr⟩ | ⟨hf, -⟩
      · exact h.of_same rfl hr.childLock hr.defaultLock (by rw [hu]; simp)
      · rw [hok] at hf
        cases hf
  | notStarted hu hset hf =>
      obtain ⟨hmain, -⟩ := hi.awaited _ _ hu
      rcases setCurrentFilament_registered hmain hset with ⟨hok, -⟩ | ⟨-, hr⟩
      · rw [hok] at hf
        cases hf
      · exact h.of_same rfl hr.childLock hr.defaultLock (by rw [hu]; simp)
  | resumed ht => exact h.of_same rfl rfl rfl (by rw [ht]; simp)
  | left hmain hu hset =>
      have hcur := hi.current _ (show (s.threads _).active = true by rw [hu]; rfl)
      obtain ⟨-, -, -, hchild, hlock⟩ := setCurrentFilament_left hmain hcur hset
      exact h.of_same rfl hchild hlock (by rw [hu]; simp)
  | joinBegun hmain hlock =>
      refine ⟨fun f => ?_, .inl (h.default_free (by rw [hmain]; rfl))⟩
      have hfree : ∀ g, s.world.childLock g = ⟨none⟩ := h.child_free (by rw [hmain]; simp)
      rw [hfree c.this] at hlock
      cases hlock
      show Function.update s.world.childLock c.this _ f = _
      by_cases hf : f = c.this
      · rw [hf, Function.update_self, if_pos ⟨rfl, rfl⟩]
      · rw [Function.update_of_ne hf, if_neg (fun hw => hf hw.2)]
        exact hfree f
  | joinEnded hmain _ =>
      refine ⟨fun f => ?_, .inl (h.default_free (by rw [hmain]; rfl))⟩
      rw [if_neg (fun hw => MainPc.noConfusion hw.1)]
      show Function.update s.world.childLock c.this _ f = _
      by_cases hf : f = c.this
      · rw [hf, Function.update_self, h.child c.this, if_pos ⟨hmain, rfl⟩]
        rfl
      · rw [Function.update_of_ne hf, h.child f, if_neg (fun hw => hf hw.2)]
  | restored hmain hset =>
      have hactive : (s.threads c.mainThread).active = true := by
        rw [hi.main_leaving (.inr (.inr hmain))]
        rfl
      obtain ⟨hchild, hlock⟩ := setCurrentFilament_locks hset
      refine ⟨fun f => ?_, ?_⟩
      · rw [if_neg (fun hw => MainPc.noConfusion hw.1)]
        show _ = _
        rw [hchild]
        exact h.child_free (by rw [hmain]; simp) f
      · rcases hlock with hlock | hconf
        · refine .inl ?_
          show _ = _
          rw [hlock]
          exact h.default_free (by rw [hmain]; rfl)
        · -- only a provided default filament is in the way
          refine .inr ⟨rfl, .inl ?_⟩
          by_contra hprov
          have hd := hi.default_ hactive
          rw [if_neg hprov] at hd
          cases hnew : s.prevFilament with
          | none =>
              rw [hnew] at hconf
              cases hconf
          | some p =>
              rw [hnew] at hconf
              simp [World.conflicts, hd] at hconf
  | destroyed hmain =>
      refine ⟨fun f => ?_, ?_⟩
      · rw [if_neg (fun hw => MainPc.noConfusion hw.1)]
        exact h.child_free (by rw [hmain]; simp) f
      · rcases h.default_ with hfree | ⟨-, hwhy⟩
        · exact .inl hfree
        · exact .inr ⟨rfl, hwhy⟩

/-- Without a creation under way during the join. -/
def NoneStarting (s : State) : Prop := s.main = .waiting → ∀ u creator, s.threads u ≠ .starting creator

theorem not_starting_update {threads : ThreadId → ThreadPc} {t : ThreadId} {pc : ThreadPc}
    (h : ∀ u creator, threads u ≠ .starting creator) (hpc : ∀ creator, pc ≠ .starting creator) :
    ∀ u creator, Function.update threads t pc u ≠ .starting creator := by
  intro u creator
  by_cases hu : u = t
  · rw [hu, Function.update_self]
    exact hpc creator
  · rw [Function.update_of_ne hu]
    exact h u creator

theorem NoneStarting.step {s s' : State} {a : Action} (h : NoneStarting s) (hc : JoinsAlone s a)
    (hs : Step c s a s') : NoneStarting s' := by
  cases hs with
  | installed => exact fun hm => MainPc.noConfusion hm
  | notInstalled => exact fun hm => MainPc.noConfusion hm
  | stayed => exact h
  | @stopped _ t completed abortRun answered ht _ =>
      intro hm
      have hmain : (if t = c.mainThread then MainPc.routineDone else s.main) = .waiting := hm
      split at hmain
      · cases hmain
      · exact not_starting_update (h hmain) (by simp)
  | abandoned => exact h
  | attached => exact fun hm => not_starting_update (h hm) (by simp)
  | notAttached => exact h
  | created => exact fun hm => absurd hm hc
  | started => exact fun hm => not_starting_update (h hm) (by simp)
  | notStarted => exact fun hm => not_starting_update (h hm) (by simp)
  | resumed => exact fun hm => not_starting_update (h hm) (by simp)
  | left => exact fun hm => not_starting_update (h hm) (by simp)
  | joinBegun => exact fun _ => hc
  | joinEnded => exact fun hm => MainPc.noConfusion hm
  | restored => exact fun hm => MainPc.noConfusion hm
  | destroyed => exact fun hm => MainPc.noConfusion hm

/-! ## Enabled steps -/

section Enabled

variable {s : State} {t u creator : ThreadId} (hab : s.abandoned = false)

include hab

theorem start_enabled (hi : Inv c s) (hl : Locks c s) (hmain : s.main ≠ .waiting)
    (hu : s.threads u = .starting creator) : CanStep c s := by
  obtain ⟨hum, -⟩ := hi.awaited u creator hu
  have hset : (setCurrentFilament c.filaments u (some c.this) false sOk s.world).isSome := by
    apply setCurrentFilament_isSome
    · intro f _ _
      rw [hl.child_free hmain f]
      rfl
    · intro huses
      have hne : (u == (c.filaments c.this).mainThreadId) = false := by
        simpa [Call.mainThread] using hum
      -- only a call that does not provide the default filament revokes one
      have hprov : c.providesDefault = false := by
        simpa [usesDefaultLock, hne, Call.providesDefault] using huses
      rcases hl.default_ with hfree | ⟨-, hprov' | ⟨habsent, -⟩⟩
      · rw [hfree]
        rfl
      · rw [hprov] at hprov'
        cases hprov'
      · rw [habsent u] at hu
        cases hu
  refine ⟨.start u sOk, rfl, ?_⟩
  simp only [next, hab, Bool.false_eq_true, if_false, State.startThread, hu]
  rw [Option.isSome_map]
  exact hset

theorem finish_enabled (ht : s.threads t = .running none) : CanStep c s := by
  refine ⟨.finish t, rfl, ?_⟩
  simp only [next, hab, Bool.false_eq_true, if_false, State.finish, ht, if_true]
  rfl

theorem resume_enabled (ht : s.threads t = .running (some u)) (hu : ∀ creator, s.threads u ≠ .starting creator) :
    CanStep c s := by
  refine ⟨.resume t, rfl, ?_⟩
  simp only [next, hab, Bool.false_eq_true, if_false, State.resume, ht]
  rfl

theorem leave_enabled (hi : Inv c s) (htm : t ≠ c.mainThread) (ht : s.threads t = .leaving) : CanStep c s := by
  have hcur := hi.current t (by rw [ht]; rfl)
  have hset : (setCurrentFilament c.filaments t none false sOk s.world).isSome := by
    apply setCurrentFilament_isSome
    · intro f hf
      cases hf
    · intro huses
      rw [hcur] at huses
      have hne : (t == (c.filaments c.this).mainThreadId) = false := by
        simpa [Call.mainThread] using htm
      simp [usesDefaultLock, hne] at huses
  refine ⟨.leave t, rfl, ?_⟩
  simp only [next, hab, Bool.false_eq_true, if_false, State.leave, ht, htm, ne_eq, not_false_eq_true, and_self,
    if_true]
  rw [Option.isSome_map]
  exact hset

/-- A thread that has not finished goes on, or the thread that it waits for does. -/
theorem thread_enabled (hi : Inv c s) (hl : Locks c s) (hns : NoneStarting s)
    (htm : t = c.mainThread → ∃ awaits, s.threads t = .running awaits)
    (ht : s.threads t ≠ .absent) (ht' : s.threads t ≠ .exited) : CanStep c s := by
  -- a creator waits only for a thread that is starting, and that one finds the locks free
  have hstarting : ∀ u creator, s.threads u = .starting creator → CanStep c s := by
    intro u creator hu
    by_cases hmain : s.main = .waiting
    · exact absurd hu (hns hmain u creator)
    · exact start_enabled hab hi hl hmain hu
  cases hpc : s.threads t with
  | absent => exact absurd hpc ht
  | exited => exact absurd hpc ht'
  | starting creator => exact hstarting t creator hpc
  | leaving =>
      refine leave_enabled hab hi (fun hm => ?_) hpc
      obtain ⟨awaits, hrunning⟩ := htm hm
      rw [hpc] at hrunning
      cases hrunning
  | running awaits =>
      cases awaits with
      | none => exact finish_enabled hab hpc
      | some u =>
          by_cases hu : ∃ creator, s.threads u = .starting creator
          · obtain ⟨creator, hu⟩ := hu
            exact hstarting u creator hu
          · exact resume_enabled hab hpc (fun creator h => hu ⟨creator, h⟩)

/-- The main thread's own steps. -/
theorem main_enabled (hl : Locks c s) (hmain : s.main ≠ .waiting) (hroutine : s.main ≠ .routine)
    (hreturned : ∀ result, s.main ≠ .returned result) : CanStep c s := by
  have hset : ∀ new, s.main.pastRestore = false →
      (setCurrentFilament c.filaments c.mainThread new false sOk s.world).isSome := by
    intro new hp
    apply setCurrentFilament_isSome
    · intro f _ _
      rw [hl.child_free hmain f]
      rfl
    · intro _
      rw [hl.default_free hp]
      rfl
  cases hpc : s.main with
  | entered =>
      refine ⟨.install sOk, rfl, ?_⟩
      simp only [next, hab, Bool.false_eq_true, if_false, State.install, hpc, if_true]
      rw [Option.isSome_map]
      exact hset _ (by rw [hpc]; rfl)
  | routine => exact absurd hpc hroutine
  | routineDone =>
      refine ⟨.beginJoin, rfl, ?_⟩
      simp only [next, hab, Bool.false_eq_true, if_false, State.beginJoin, hpc, if_true]
      rw [Option.isSome_map, hl.child_free hmain]
      rfl
  | waiting => exact absurd hpc hmain
  | joined =>
      refine ⟨.restore sOk, rfl, ?_⟩
      simp only [next, hab, Bool.false_eq_true, if_false, State.restore, hpc, if_true]
      rw [Option.isSome_map]
      exact hset _ (by rw [hpc]; rfl)
  | destroying result =>
      refine ⟨.destroy, rfl, ?_⟩
      simp only [next, hab, Bool.false_eq_true, if_false, State.destroy, hpc]
      rfl
  | returned result => exact absurd hpc (hreturned result)

/-- **Some thread goes on.** -/
theorem canStep_of_not_finished (hi : Inv c s) (hl : Locks c s) (hns : NoneStarting s) (hnot : ¬ Finished c s) :
    CanStep c s := by
  have hphase := hi.phase
  cases hpc : s.main with
  | routine =>
      rw [hpc] at hphase
      obtain ⟨awaits, hrunning⟩ := hphase
      exact thread_enabled hab hi hl hns (fun _ => ⟨awaits, hrunning⟩) (by rw [hrunning]; simp)
        (by rw [hrunning]; simp)
  | waiting =>
      by_cases hall : ∀ t ∈ s.world.childThreads c.this, s.threads t = .exited
      · refine ⟨.endJoin, rfl, ?_⟩
        simp only [next, hab, Bool.false_eq_true, if_false, State.endJoin]
        rw [if_pos ⟨hpc, hall⟩]
        rfl
      · -- a listed thread that has not exited is active
        simp only [not_forall] at hall
        obtain ⟨t, ht, hne⟩ := hall
        obtain ⟨htm, hactive | hexited⟩ := hi.children t ht
        · refine thread_enabled hab hi hl hns (fun h => absurd h htm) (fun h => ?_) hne
          rw [h] at hactive
          cases hactive
        · exact absurd hexited hne
  | returned result =>
      -- child threads may outlive the call
      have hthread : ∃ t, t ≠ c.mainThread ∧ ¬ (s.threads t = .absent ∨ s.threads t = .exited) := by
        by_contra hno
        refine hnot ⟨⟨result, hpc⟩, fun t ht => ?_⟩
        by_contra h
        exact hno ⟨t, ht, h⟩
      obtain ⟨t, htm, hne⟩ := hthread
      exact thread_enabled hab hi hl hns (fun h => absurd h htm) (fun h => hne (.inl h)) (fun h => hne (.inr h))
  | _ => exact main_enabled hab hl (by rw [hpc]; simp) (by rw [hpc]; simp) (by rw [hpc]; simp)

end Enabled

/-- **No deadlock** in any run in which the join does not meet a creation. -/
theorem progress_run {s : State} {as : List Action} (hm : Meets (next c) JoinsAlone c.start as)
    (hr : run (next c) c.start as = some s) : Progress c s := by
  obtain ⟨hi, hl, hns⟩ := run_induction (I := fun s => Inv c s ∧ Locks c s ∧ NoneStarting s)
    (fun _ _ _ h hc hnext => ⟨h.1.step (next_step hnext), h.2.1.step h.1 (next_step hnext),
      h.2.2.step hc (next_step hnext)⟩)
    ⟨inv_start, locks_start, fun hm => MainPc.noConfusion hm⟩ hm hr
  exact fun hab hnot => canStep_of_not_finished hab hi hl hns hnot

/-! ## The deadlock -/

/-- While the main thread joins, every other thread takes part in a creation, or is done or not there. -/
structure Entangled (c : Call) (s : State) : Prop where
  main     : s.main = .waiting
  threads  : ∀ t, t ≠ c.mainThread → s.threads t = .absent ∨ s.threads t = .exited ∨
    (∃ creator, s.threads t = .starting creator) ∨
    ∃ u creator, s.threads t = .running (some u) ∧ s.threads u = .starting creator
  creation : ∃ u creator, s.threads u = .starting creator

/-- Then no thread goes on: the new thread waits for the lock, its creator for the new thread, and the main
    thread, which holds the lock, for the creator. -/
theorem Entangled.not_canStep {s : State} (hi : Inv c s) (hl : Locks c s) (h : Entangled c s) :
    ¬ CanStep c s := by
  have hphase := hi.main_leaving (.inr (.inl h.main))
  have hstate : ∀ t pc, t ≠ c.mainThread → s.threads t = pc → pc ≠ .running none ∧ pc ≠ .leaving := by
    rintro t pc htm rfl
    rcases h.threads t htm with hpc | hpc | ⟨creator, hpc⟩ | ⟨u, creator, hpc, -⟩ <;> simp [hpc]
  have hnot : ∀ t, s.threads t ≠ .running none := by
    intro t ht
    by_cases htm : t = c.mainThread
    · rw [htm, hphase] at ht
      cases ht
    · exact (hstate t _ htm ht).1 rfl
  rintro ⟨a, hadv, hsome⟩
  unfold next at hsome
  split at hsome
  · cases hsome
  · cases a with
    | install handleHr => simp [State.install, h.main] at hsome
    | start u handleHr =>
        simp only [State.startThread] at hsome
        split at hsome
        · rename_i creator hu
          obtain ⟨hum, -⟩ := hi.awaited u creator hu
          have hlock : (s.world.childLock c.this).enter u = none := by
            rw [hl.child, if_pos ⟨h.main, rfl⟩]
            simp [CriticalSection.enter, Ne.symm hum]
          have hhandle : failed handleHr = false := (Bool.not_eq_true' _).mp hadv
          rw [setCurrentFilament_eq_none hum hhandle hlock] at hsome
          cases hsome
        · cases hsome
    | resume t =>
        simp only [State.resume] at hsome
        split at hsome
        · rename_i u ht
          have htm : t ≠ c.mainThread := by
            rintro rfl
            rw [hphase] at ht
            cases ht
          rcases h.threads t htm with hpc | hpc | ⟨creator, hpc⟩ | ⟨v, creator, hpc, hv⟩
          · rw [hpc] at ht
            cases ht
          · rw [hpc] at ht
            cases ht
          · rw [hpc] at ht
            cases ht
          · rw [hpc] at ht
            cases ht
            rw [hv] at hsome
            cases hsome
        · cases hsome
    | finish t => simp [State.finish, hnot t] at hsome
    | leave u =>
        simp only [State.leave] at hsome
        split at hsome
        · rename_i hg
          exact (hstate u _ hg.1 hg.2).2 rfl
        · cases hsome
    | beginJoin => simp [State.beginJoin, h.main] at hsome
    | endJoin =>
        simp only [State.endJoin] at hsome
        split at hsome
        · rename_i hg
          -- the creator is registered and has not exited
          obtain ⟨u, creator, hu⟩ := h.creation
          obtain ⟨-, hcreator⟩ := hi.awaited u creator hu
          have hcm : creator ≠ c.mainThread := by
            rintro rfl
            rw [hphase] at hcreator
            cases hcreator
          have hexited := hg.2 creator (hi.listed creator hcm (by rw [hcreator]; rfl))
          rw [hcreator] at hexited
          cases hexited
        · cases hsome
    | restore handleHr => simp [State.restore, h.main] at hsome
    | destroy => simp [State.destroy, h.main] at hsome
    | report => cases hadv
    | fail => cases hadv
    | raise => cases hadv
    | attach => cases hadv
    | create => cases hadv

/-! ## Two runs -/

/-- Thread 1 creates thread 2 while the main thread is still in the routine, and all are joined. -/
def nestedCreation : List Action :=
  [.install sOk, .create 0 1, .start 1 sOk, .resume 0, .create 1 2, .start 2 sOk, .finish 0, .beginJoin]

theorem progress_nestedCreation : ∃ s, run (next outermost) outermost.start nestedCreation = some s ∧
    s.main = .waiting ∧ Progress outermost s := by
  have hr : run (next outermost) outermost.start nestedCreation = some _ := rfl
  refine ⟨_, hr, rfl, progress_run ?_ hr⟩
  refine .cons rfl trivial (.cons rfl (fun h => MainPc.noConfusion h) ?_)
  refine .cons rfl trivial (.cons rfl trivial (.cons rfl (fun h => MainPc.noConfusion h) ?_))
  refine .cons rfl trivial (.cons rfl trivial (.cons rfl ?_ trivial))
  rintro (_ | _ | _ | u) creator hu
  · exact ThreadPc.noConfusion hu
  · exact ThreadPc.noConfusion hu
  · exact ThreadPc.noConfusion hu
  · exact ThreadPc.noConfusion hu

/-- Thread 1 creates thread 2 while the main thread joins. -/
def creationDuringJoin : List Action :=
  [.install sOk, .create 0 1, .start 1 sOk, .resume 0, .finish 0, .beginJoin, .create 1 2]

theorem creationDuringJoin_deadlocks :
    ∃ s, run (next outermost) outermost.start creationDuringJoin = some s ∧ ¬ Progress outermost s := by
  have hr : run (next outermost) outermost.start creationDuringJoin = some _ := rfl
  have hl := (run_invariant (I := fun s => Inv outermost s ∧ Locks outermost s)
    (fun _ _ _ h hnext => ⟨h.1.step (next_step hnext), h.2.step h.1 (next_step hnext)⟩)
    ⟨inv_start, locks_start⟩ hr).2
  refine ⟨_, hr, fun h => ?_⟩
  refine Entangled.not_canStep (inv_run hr) hl ⟨rfl, ?_, 2, 1, rfl⟩ (h rfl ?_)
  · rintro (_ | _ | _ | t) ht
    · exact absurd rfl ht
    · exact .inr (.inr (.inr ⟨2, 1, rfl, rfl⟩))
    · exact .inr (.inr (.inl ⟨1, rfl⟩))
    · exact .inl rfl
  · rintro ⟨⟨result, hmain⟩, -⟩
    exact MainPc.noConfusion hmain

end Cfix.Routine
