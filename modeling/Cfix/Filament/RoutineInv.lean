import Cfix.Filament.RoutineSteps

/-!
# `Filament.RoutineInv` — what holds in every state of a test routine

`Inv` says how the parts of a state fit together: where a thread stands fits its TLS slot, the child thread
list of the filament and the phase of the call. The steps are sorted by what they change, with one lemma for
each sort; `Inv.step` puts them together and `inv_run` carries the invariant through every run.
-/

namespace Cfix.Routine

open Thread Transition

variable {c : Call}

/-! ## The invariant -/


/-- The thread's TLS slot refers to the filament. -/
def ThreadPc.active : ThreadPc → Bool
  | .running _ => true
  | .leaving   => true
  | _          => false

/-- The states of the main thread's test code in each phase of the call. -/
def MainPc.allows : MainPc → ThreadPc → Prop
  | .entered,      pc => pc = .absent
  | .routine,      pc => ∃ awaits, pc = .running awaits
  | .routineDone,  pc => pc = .leaving
  | .waiting,      pc => pc = .leaving
  | .joined,       pc => pc = .leaving
  | .destroying _, pc => pc = .absent ∨ pc = .exited
  | .returned _,   pc => pc = .absent ∨ pc = .exited

/-- The join is over. -/
def MainPc.pastJoin : MainPc → Bool
  | .joined       => true
  | .destroying _ => true
  | .returned _   => true
  | _             => false

/-- The filament is not the one of the main thread any more. -/
def MainPc.pastRestore : MainPc → Bool
  | .destroying _ => true
  | .returned _   => true
  | _             => false

theorem MainPc.pastJoin_of_pastRestore {main : MainPc} (h : main.pastRestore = true) : main.pastJoin = true := by
  cases main <;> first | rfl | cases h

/-- **The invariant.** -/
structure Inv (c : Call) (s : State) : Prop where
  phase    : s.main.allows (s.threads c.mainThread)
  fresh    : s.main = .entered → s.world = c.world ∧ ∀ t, s.threads t = .absent
  /-- A thread in test code has this filament. -/
  current  : ∀ t, (s.threads t).active = true → (s.world.tls t).filament = some c.this
  /-- The main thread is not anonymous. -/
  explicit : (s.threads c.mainThread).active = true →
    (s.world.tls c.mainThread).derivedFromDefaultFilament = false
  detached : ∀ t, t ≠ c.mainThread → (s.threads t).active = false → (s.world.tls t).filament = none
  listed   : ∀ t, t ≠ c.mainThread → (s.threads t).active = true → t ∈ s.world.childThreads c.this
  children : ∀ t ∈ s.world.childThreads c.this,
    t ≠ c.mainThread ∧ ((s.threads t).active = true ∨ s.threads t = .exited)
  default_ : (s.threads c.mainThread).active = true →
    s.world.default_ = if c.providesDefault then some c.this else none
  prev     : (s.threads c.mainThread).active = true → s.prevFilament = c.current.filament
  /-- The creator of a starting thread waits for it. -/
  awaited  : ∀ u creator, s.threads u = .starting creator →
    u ≠ c.mainThread ∧ s.threads creator = .running (some u)

/-! ## The steps, by what they change -/

section Steps

variable {s s' : State} {t u : ThreadId} {w : World}

theorem inv_start : Inv c c.start where
  phase    := rfl
  fresh    := fun _ => ⟨rfl, fun _ => rfl⟩
  current  := fun t h => nomatch h
  explicit := fun h => nomatch h
  detached := by
    intro t hmain _
    show (Function.update World.initial.tls c.mainThread c.current t).filament = none
    rw [Function.update_of_ne hmain]
    rfl
  listed   := fun t _ h => nomatch h
  children := by
    intro t ht
    have hnil : c.start.world.childThreads c.this = [] := c.childThreads_this
    rw [hnil] at ht
    cases ht
  default_ := fun h => nomatch h
  prev     := fun h => nomatch h
  awaited  := fun u creator h => nomatch h

/-- Steps that change neither the filaments of the threads nor which threads are active. -/
theorem Inv.of_threads (h : Inv c s) (htls : s'.world.tls = s.world.tls)
    (hd : s'.world.default_ = s.world.default_) (hch : s'.world.childThreads = s.world.childThreads)
    (hprev : s'.prevFilament = s.prevFilament) (hactive : ∀ t, (s'.threads t).active = (s.threads t).active)
    (hexited : ∀ t, s.threads t = .exited → s'.threads t = .exited)
    (hphase : s'.main.allows (s'.threads c.mainThread)) (hmain : s'.main ≠ .entered)
    (hawaited : ∀ u creator, s'.threads u = .starting creator →
      u ≠ c.mainThread ∧ s'.threads creator = .running (some u)) : Inv c s' where
  phase    := hphase
  fresh    := fun h => absurd h hmain
  current  := fun t ht => htls ▸ h.current t (hactive t ▸ ht)
  explicit := fun ht => htls ▸ h.explicit (hactive _ ▸ ht)
  detached := fun t hne ht => htls ▸ h.detached t hne (hactive t ▸ ht)
  listed   := fun t hne ht => hch ▸ h.listed t hne (hactive t ▸ ht)
  children := by
    intro t ht
    rw [hch] at ht
    obtain ⟨hne, hpc⟩ := h.children t ht
    refine ⟨hne, ?_⟩
    rcases hpc with hpc | hpc
    · exact .inl ((hactive t).trans hpc)
    · exact .inr (hexited t hpc)
  default_ := fun ht => hd ▸ h.default_ (hactive _ ▸ ht)
  prev     := fun ht => hprev ▸ h.prev (hactive _ ▸ ht)
  awaited  := hawaited

/-- Any thread in test code shows that the filament has been installed. -/
theorem Inv.main_ne_entered (h : Inv c s) (ht : s.threads t ≠ .absent) : s.main ≠ .entered :=
  fun hmain => ht ((h.fresh hmain).2 t)

theorem MainPc.allows_running {main : MainPc} {awaits : Option ThreadId} (h : main.allows (.running awaits)) :
    main = .routine := by
  cases main <;> simp [MainPc.allows] at h ⊢

/-- While the main thread is in test code, the call is in its routine. -/
theorem Inv.main_routine {awaits : Option ThreadId} (h : Inv c s)
    (ht : s.threads c.mainThread = .running awaits) : s.main = .routine := by
  have hp := h.phase
  rw [ht] at hp
  exact MainPc.allows_running hp

/-- From the end of the routine to the restore the main thread still has the filament. -/
theorem Inv.main_leaving (h : Inv c s) (hm : s.main = .routineDone ∨ s.main = .waiting ∨ s.main = .joined) :
    s.threads c.mainThread = .leaving := by
  have hp := h.phase
  rcases hm with hm | hm | hm <;>
    · rw [hm] at hp
      exact hp

/-- Steps that change one child thread: its state, its TLS slot and its entry in the list. -/
theorem Inv.of_child {pc : ThreadPc} (h : Inv c s) (hmain : t ≠ c.mainThread) (hentered : s.main ≠ .entered)
    (hwaits : ∀ u, s.threads t ≠ .running (some u)) (hpc : ∀ creator, pc ≠ .starting creator)
    (hthreads : s'.threads = Function.update s.threads t pc) (hphase : s'.main = s.main)
    (hprev : s'.prevFilament = s.prevFilament)
    (htls : ∀ x, x ≠ t → s'.world.tls x = s.world.tls x)
    (htlst : (s'.world.tls t).filament = if pc.active then some c.this else none)
    (hlist : ∀ x, x ≠ t → (x ∈ s'.world.childThreads c.this ↔ x ∈ s.world.childThreads c.this))
    (hlistt : pc.active = true → t ∈ s'.world.childThreads c.this)
    (hlistt' : t ∈ s'.world.childThreads c.this → pc.active = true ∨ pc = .exited)
    (hd : s.world.default_ = (if c.providesDefault then some c.this else none) →
      s'.world.default_ = if c.providesDefault then some c.this else none) : Inv c s' := by
  have hself : s'.threads t = pc := by rw [hthreads, Function.update_self]
  have hother : ∀ x, x ≠ t → s'.threads x = s.threads x := by
    intro x hx
    rw [hthreads, Function.update_of_ne hx]
  have hm := hother c.mainThread hmain.symm
  refine
    { phase    := by rw [hphase, hm]; exact h.phase
      fresh    := fun he => absurd (hphase ▸ he) hentered
      current  := ?_
      explicit := ?_
      detached := ?_
      listed   := ?_
      children := ?_
      default_ := ?_
      prev     := ?_
      awaited  := ?_ }
  · -- the threads in test code
    intro x ha
    by_cases hx : x = t
    · rw [hx, hself] at ha
      rw [hx, htlst, if_pos ha]
    · rw [htls x hx]
      exact h.current x (hother x hx ▸ ha)
  · intro ha
    rw [htls _ hmain.symm]
    exact h.explicit (hm ▸ ha)
  · intro x hxm ha
    by_cases hx : x = t
    · rw [hx, hself] at ha
      rw [hx, htlst, ha, if_neg Bool.false_ne_true]
    · rw [htls x hx]
      exact h.detached x hxm (hother x hx ▸ ha)
  · -- the child thread list
    intro x hxm ha
    by_cases hx : x = t
    · rw [hx, hself] at ha
      rw [hx]
      exact hlistt ha
    · exact (hlist x hx).mpr (h.listed x hxm (hother x hx ▸ ha))
  · intro x hxl
    by_cases hx : x = t
    · rw [hx] at hxl ⊢
      rw [hself]
      exact ⟨hmain, hlistt' hxl⟩
    · rw [hother x hx]
      exact h.children x ((hlist x hx).mp hxl)
  · intro ha
    exact hd (h.default_ (hm ▸ ha))
  · intro ha
    rw [hprev]
    exact h.prev (hm ▸ ha)
  · -- `t` neither starts nor waits for a thread that does
    intro u creator hu
    have hut : u ≠ t := by
      rintro rfl
      rw [hself] at hu
      exact hpc creator hu
    rw [hother u hut] at hu
    obtain ⟨hum, hcreator⟩ := h.awaited u creator hu
    have hct : creator ≠ t := by
      rintro rfl
      exact hwaits u hcreator
    rw [hother creator hct]
    exact ⟨hum, hcreator⟩

/-- A thread that is not active waits for nothing. -/
theorem waits_of_inactive (h : (s.threads t).active = false) (u : ThreadId) :
    s.threads t ≠ .running (some u) := by
  intro ht
  rw [ht] at h
  cases h

/-- A thread becomes a child thread. -/
theorem Inv.register {derived : Bool} (h : Inv c s) (hmain : t ≠ c.mainThread)
    (hinactive : (s.threads t).active = false) (hentered : s.main ≠ .entered)
    (hr : Registered c t derived s.world w) :
    Inv c { s with world := w, threads := Function.update s.threads t (.running none) } := by
  refine h.of_child hmain hentered (waits_of_inactive hinactive) (by simp) rfl rfl rfl ?_ ?_ ?_ ?_ ?_ ?_
  · intro x hx
    show w.tls x = _
    rw [hr.tls, Function.update_of_ne hx]
  · show (w.tls t).filament = _
    rw [hr.tls, Function.update_self]
    rfl
  · intro x hx
    show x ∈ w.childThreads c.this ↔ _
    rw [hr.childThreads, List.mem_append, List.mem_singleton, or_iff_left hx]
  · intro _
    show t ∈ w.childThreads c.this
    rw [hr.childThreads]
    exact List.mem_append_right _ (List.mem_singleton_self t)
  · exact fun _ => .inl rfl
  · intro hd
    show w.default_ = _
    rw [hr.default_, hd]
    split <;> rfl

/-- A thread stays without filament: `pc` is where it stands then. -/
theorem Inv.unregister {pc : ThreadPc} (h : Inv c s) (hmain : t ≠ c.mainThread)
    (hinactive : (s.threads t).active = false) (hexited : s.threads t ≠ .exited) (hentered : s.main ≠ .entered)
    (hpc : pc.active = false) (hpc' : ∀ creator, pc ≠ .starting creator) (hr : NotRegistered t s.world w) :
    Inv c { s with world := w, threads := Function.update s.threads t pc } := by
  have hnot : t ∉ s.world.childThreads c.this := by
    intro ht
    rcases (h.children t ht).2 with ht | ht
    · rw [hinactive] at ht
      cases ht
    · exact hexited ht
  refine h.of_child hmain hentered (waits_of_inactive hinactive) hpc' rfl rfl rfl ?_ ?_ ?_ ?_ ?_ ?_
  · intro x hx
    show w.tls x = _
    rcases hr.tls with htls | htls
    · rw [htls]
    · rw [htls, Function.update_of_ne hx]
  · show (w.tls t).filament = _
    rw [hpc, if_neg Bool.false_ne_true]
    rcases hr.tls with htls | htls
    · rw [htls]
      exact h.detached t hmain hinactive
    · rw [htls, Function.update_self]
  · intro x _
    show x ∈ w.childThreads c.this ↔ _
    rw [hr.childThreads]
  · intro ha
    rw [hpc] at ha
    cases ha
  · intro ht
    have ht' : t ∈ w.childThreads c.this := ht
    rw [hr.childThreads] at ht'
    exact absurd ht' hnot
  · intro hd
    show w.default_ = _
    rw [hr.default_]
    exact hd

/-- A child thread resets its filament. -/
theorem Inv.left {prev : Option FilamentId} {hr : HRESULT} (h : Inv c s) (hmain : t ≠ c.mainThread)
    (ht : s.threads t = .leaving)
    (hset : setCurrentFilament c.filaments t none false sOk s.world = some (hr, prev, w)) :
    Inv c { s with world := w, threads := Function.update s.threads t .exited } := by
  have hactive : (s.threads t).active = true := by rw [ht]; rfl
  have hentered : s.main ≠ .entered := h.main_ne_entered (by rw [ht]; exact ThreadPc.noConfusion)
  obtain ⟨htls, hd, hch, -, -⟩ := setCurrentFilament_left hmain (h.current t hactive) hset
  refine h.of_child hmain hentered ?_ (by simp) rfl rfl rfl ?_ ?_ ?_ ?_ ?_ ?_
  · intro u h'
    rw [ht] at h'
    cases h'
  · intro x hx
    show w.tls x = _
    rw [htls, Function.update_of_ne hx]
  · show (w.tls t).filament = _
    rw [htls, Function.update_self]
    rfl
  · intro x _
    show x ∈ w.childThreads c.this ↔ _
    rw [hch]
  · exact fun ha => nomatch ha
  · exact fun _ => .inr rfl
  · intro hd'
    show w.default_ = _
    rw [hd]
    exact hd'

/-- A creation only makes the creator wait and the new thread start. -/
theorem Inv.created (h : Inv c s) (ht : s.threads t = .running none) (hu : u ≠ c.mainThread)
    (habsent : s.threads u = .absent)
    (hthreads : s'.threads = Function.update (Function.update s.threads t (.running (some u))) u (.starting t))
    (hworld : s'.world = s.world) (hprev : s'.prevFilament = s.prevFilament) (hphase : s'.main = s.main) :
    Inv c s' := by
  have hut : u ≠ t := by
    rintro rfl
    rw [ht] at habsent
    cases habsent
  have hother : ∀ x, x ≠ u → x ≠ t → s'.threads x = s.threads x := by
    intro x hxu hxt
    rw [hthreads, Function.update_of_ne hxu, Function.update_of_ne hxt]
  have hat : s'.threads t = .running (some u) := by
    rw [hthreads, Function.update_of_ne hut.symm, Function.update_self]
  have hau : s'.threads u = .starting t := by rw [hthreads, Function.update_self]
  have hmain : s'.main ≠ .entered := by
    rw [hphase]
    exact h.main_ne_entered (by rw [ht]; simp)
  refine h.of_threads (by rw [hworld]) (by rw [hworld]) (by rw [hworld]) hprev ?_ ?_ ?_ hmain ?_
  · intro x
    by_cases hxu : x = u
    · rw [hxu, hau, habsent]
      rfl
    · by_cases hxt : x = t
      · rw [hxt, hat, ht]
        rfl
      · rw [hother x hxu hxt]
  · intro x hx
    have hxu : x ≠ u := by
      rintro rfl
      rw [habsent] at hx
      cases hx
    have hxt : x ≠ t := by
      rintro rfl
      rw [ht] at hx
      cases hx
    rw [hother x hxu hxt]
    exact hx
  · rw [hphase]
    by_cases hmt : c.mainThread = t
    · rw [h.main_routine (hmt ▸ ht), hmt, hat]
      exact ⟨some u, rfl⟩
    · rw [hother _ hu.symm hmt]
      exact h.phase
  · intro x creator hx
    by_cases hxu : x = u
    · rw [hxu, hau] at hx
      cases hx
      rw [hxu]
      exact ⟨hu, hat⟩
    · have hxt : x ≠ t := by
        rintro rfl
        rw [hat] at hx
        cases hx
      rw [hother x hxu hxt] at hx
      obtain ⟨hxm, hcreator⟩ := h.awaited x creator hx
      have hcu : creator ≠ u := by
        rintro rfl
        rw [habsent] at hcreator
        cases hcreator
      have hct : creator ≠ t := by
        rintro rfl
        rw [ht] at hcreator
        cases hcreator
      rw [hother creator hcu hct]
      exact ⟨hxm, hcreator⟩

/-- A running thread goes on or ends; no thread that is starting waits for it. -/
theorem Inv.changed {awaits : Option ThreadId} {pc : ThreadPc} (h : Inv c s)
    (ht : s.threads t = .running awaits) (hnot : ∀ u creator, awaits = some u → s.threads u ≠ .starting creator)
    (hpc : pc.active = true) (hthreads : s'.threads = Function.update s.threads t pc)
    (hworld : s'.world = s.world) (hprev : s'.prevFilament = s.prevFilament)
    (hphase : s'.main.allows (s'.threads c.mainThread)) (hmain : s'.main ≠ .entered) : Inv c s' := by
  have hself : s'.threads t = pc := by rw [hthreads, Function.update_self]
  have hother : ∀ x, x ≠ t → s'.threads x = s.threads x := by
    intro x hx
    rw [hthreads, Function.update_of_ne hx]
  refine h.of_threads (by rw [hworld]) (by rw [hworld]) (by rw [hworld]) hprev ?_ ?_ hphase hmain ?_
  · intro x
    by_cases hx : x = t
    · rw [hx, hself, hpc, ht]
      rfl
    · rw [hother x hx]
  · intro x hx
    have hxt : x ≠ t := by
      rintro rfl
      rw [ht] at hx
      cases hx
    exact (hother x hxt).trans hx
  · intro x creator hx
    have hxt : x ≠ t := by
      rintro rfl
      rw [hself] at hx
      rw [hx] at hpc
      cases hpc
    rw [hother x hxt] at hx
    obtain ⟨hxm, hcreator⟩ := h.awaited x creator hx
    refine ⟨hxm, ?_⟩
    have hct : creator ≠ t := by
      rintro rfl
      rw [ht] at hcreator
      cases hcreator
      exact hnot x creator rfl hx
    rw [hother creator hct]
    exact hcreator

/-- The main thread restores the filament, or fails to install its own. -/
theorem Inv.main_detached {pc : ThreadPc} (h : Inv c s)
    (hthreads : s'.threads = Function.update s.threads c.mainThread pc)
    (htls : ∀ u, u ≠ c.mainThread → s'.world.tls u = s.world.tls u)
    (hch : s'.world.childThreads c.this = s.world.childThreads c.this)
    (hpc : pc.active = false) (hpc' : ∀ creator, pc ≠ .starting creator)
    (hphase : s'.main.allows pc) (hmain : s'.main ≠ .entered)
    (hwaits : ∀ u, s.threads c.mainThread ≠ .running (some u)) : Inv c s' := by
  have hself : s'.threads c.mainThread = pc := by rw [hthreads, Function.update_self]
  have hother : ∀ x, x ≠ c.mainThread → s'.threads x = s.threads x := by
    intro x hx
    rw [hthreads, Function.update_of_ne hx]
  have hinactive : (s'.threads c.mainThread).active ≠ true := by
    rw [hself, hpc]
    exact Bool.false_ne_true
  refine
    { phase    := by rw [hself]; exact hphase
      fresh    := fun he => absurd he hmain
      current  := ?_
      explicit := fun ha => absurd ha hinactive
      detached := ?_
      listed   := ?_
      children := ?_
      default_ := fun ha => absurd ha hinactive
      prev     := fun ha => absurd ha hinactive
      awaited  := ?_ }
  · intro x ha
    have hx : x ≠ c.mainThread := by
      rintro rfl
      exact hinactive ha
    rw [htls x hx]
    exact h.current x (hother x hx ▸ ha)
  · intro x hx ha
    rw [htls x hx]
    exact h.detached x hx (hother x hx ▸ ha)
  · intro x hx ha
    rw [hch]
    exact h.listed x hx (hother x hx ▸ ha)
  · intro x hxl
    rw [hch] at hxl
    obtain ⟨hx, hxpc⟩ := h.children x hxl
    rw [hother x hx]
    exact ⟨hx, hxpc⟩
  · intro x creator hx
    have hxm : x ≠ c.mainThread := by
      rintro rfl
      rw [hself] at hx
      exact hpc' creator hx
    rw [hother x hxm] at hx
    obtain ⟨-, hcreator⟩ := h.awaited x creator hx
    have hcm : creator ≠ c.mainThread := by
      rintro rfl
      exact hwaits x hcreator
    rw [hother creator hcm]
    exact ⟨hxm, hcreator⟩

/-- The main thread installs the filament. -/
theorem Inv.installed {prev : Option FilamentId} {handleHr hr : HRESULT} (h : Inv c s) (hmain : s.main = .entered)
    (hset : setCurrentFilament c.filaments c.mainThread (some c.this) false handleHr s.world = some (hr, prev, w))
    (hok : failed hr = false) :
    Inv c { s with
      world := w, main := .routine, prevFilament := prev
      threads := Function.update s.threads c.mainThread (.running none) } := by
  obtain ⟨hworld, habsent⟩ := h.fresh hmain
  obtain ⟨hch, -, ⟨-, hprev, htls, hd, -⟩ | ⟨rfl, -⟩⟩ := setCurrentFilament_installed hset
  · have hself : Function.update s.threads c.mainThread (.running none) c.mainThread = .running none :=
      Function.update_self ..
    have hother : ∀ x, x ≠ c.mainThread →
        Function.update s.threads c.mainThread (.running none) x = .absent := by
      intro x hx
      rw [Function.update_of_ne hx]
      exact habsent x
    have hnil : w.childThreads c.this = [] := by
      rw [hch, hworld]
      exact c.childThreads_this
    refine
      { phase    := ⟨none, hself⟩
        fresh    := fun he => nomatch he
        current  := ?_
        explicit := ?_
        detached := ?_
        listed   := ?_
        children := ?_
        default_ := fun _ => hd
        prev     := ?_
        awaited  := ?_ }
    · intro x ha
      by_cases hx : x = c.mainThread
      · show (w.tls x).filament = _
        rw [hx, htls, Function.update_self]
      · simp only [hother x hx] at ha
        cases ha
    · intro _
      show (w.tls c.mainThread).derivedFromDefaultFilament = false
      rw [htls, Function.update_self]
    · intro x hx _
      show (w.tls x).filament = none
      rw [htls, Function.update_of_ne hx]
      exact h.detached x hx (by rw [habsent x]; rfl)
    · intro x hx ha
      simp only [hother x hx] at ha
      cases ha
    · intro x hx
      have hx' : x ∈ w.childThreads c.this := hx
      rw [hnil] at hx'
      cases hx'
    · intro _
      show prev = _
      rw [hprev, hworld]
      show (Function.update World.initial.tls c.mainThread c.current c.mainThread).filament = _
      rw [Function.update_self]
    · intro u creator hu
      by_cases hx : u = c.mainThread
      · simp only [hx, hself] at hu
        cases hu
      · simp only [hother u hx] at hu
        cases hu
  · cases hok

end Steps

/-- A thread in test code ends it. -/
theorem Inv.stop {t : ThreadId} {s : State} (h : Inv c s) (ht : s.threads t = .running none)
    (completed abortRun : Bool) : Inv c (s.stop c t completed abortRun) := by
  have hentered : s.main ≠ .entered := h.main_ne_entered (by rw [ht]; simp)
  refine h.changed ht (fun _ _ h' => nomatch h') rfl rfl rfl rfl ?_ ?_
  · show (if t = c.mainThread then MainPc.routineDone else s.main).allows
      (Function.update s.threads t .leaving c.mainThread)
    by_cases hmain : t = c.mainThread
    · rw [if_pos hmain, hmain, Function.update_self]
      rfl
    · rw [if_neg hmain, Function.update_of_ne (Ne.symm hmain)]
      exact h.phase
  · show (if t = c.mainThread then MainPc.routineDone else s.main) ≠ .entered
    split
    · simp
    · exact hentered

theorem Inv.resumed {t u : ThreadId} {s : State} (h : Inv c s) (ht : s.threads t = .running (some u))
    (hu : ∀ creator, s.threads u ≠ .starting creator) :
    Inv c { s with threads := Function.update s.threads t (.running none) } := by
  refine h.changed ht ?_ rfl rfl rfl rfl ?_ (h.main_ne_entered (by rw [ht]; simp))
  · intro v creator hv
    cases hv
    exact hu creator
  · show s.main.allows (Function.update s.threads t (.running none) c.mainThread)
    by_cases hmain : c.mainThread = t
    · rw [h.main_routine (hmain ▸ ht), hmain, Function.update_self]
      exact ⟨none, rfl⟩
    · rw [Function.update_of_ne hmain]
      exact h.phase

/-- While the default filament is the one of the call, it is installed. -/
theorem Inv.main_ne_entered_of_default {s : State} (h : Inv c s) (hd : s.world.default_ = some c.this) :
    s.main ≠ .entered := by
  intro hmain
  rw [(h.fresh hmain).1] at hd
  exact c.default_ne hd

/-- Steps of the main thread after its routine. -/
theorem Inv.of_main {s s' : State} (h : Inv c s) (htls : s'.world.tls = s.world.tls)
    (hd : s'.world.default_ = s.world.default_) (hch : s'.world.childThreads = s.world.childThreads)
    (hprev : s'.prevFilament = s.prevFilament) (hthreads : s'.threads = s.threads)
    (hphase : s'.main.allows (s.threads c.mainThread)) (hmain : s'.main ≠ .entered) : Inv c s' := by
  refine h.of_threads htls hd hch hprev (fun t => by rw [hthreads]) (fun t ht => by rw [hthreads, ht]) ?_ hmain ?_
  · rw [hthreads]
    exact hphase
  · rw [hthreads]
    exact h.awaited

/-! ## Runs -/

/-- **The step lemma.** -/
theorem Inv.step {s s' : State} {a : Action} (h : Inv c s) (hs : Step c s a s') : Inv c s' := by
  have hphase := h.phase
  cases hs with
  | installed hmain hset hok => exact h.installed hmain hset hok
  | notInstalled hmain hset hf =>
      obtain ⟨hworld, habsent⟩ := h.fresh hmain
      obtain ⟨hch, -, ⟨rfl, -⟩ | ⟨-, htls, -⟩⟩ := setCurrentFilament_installed hset
      · cases hf
      · have hpc : s.threads c.mainThread = .absent := habsent _
        have hsame : s.threads = Function.update s.threads c.mainThread .absent := by
          rw [← hpc, Function.update_eq_self]
        exact h.main_detached hsame (fun u _ => by rw [htls]) (by rw [hch]) rfl (by simp) (.inl rfl) (by simp)
          (by simp [hpc])
  | stayed => exact h
  | stopped completed abortRun answered ht _ =>
      have h' := h.stop ht completed abortRun
      exact ⟨h'.phase, h'.fresh, h'.current, h'.explicit, h'.detached, h'.listed, h'.children, h'.default_,
        h'.prev, h'.awaited⟩
  | abandoned answered ht _ =>
      exact ⟨h.phase, h.fresh, h.current, h.explicit, h.detached, h.listed, h.children, h.default_, h.prev,
        h.awaited⟩
  | @attached t _ _ _ _ hmain habsent hd hget hok =>
      have hinactive : (s.threads t).active = false := by rw [habsent]; rfl
      rcases getCurrentFilament_registered hmain (h.detached _ hmain hinactive) hd hget with
        ⟨-, hr⟩ | ⟨hf, -⟩
      · exact h.register hmain hinactive (h.main_ne_entered_of_default hd) hr
      · rw [hok] at hf
        cases hf
  | @notAttached t _ _ _ _ hmain habsent hd hget hf =>
      have hinactive : (s.threads t).active = false := by rw [habsent]; rfl
      rcases getCurrentFilament_registered hmain (h.detached _ hmain hinactive) hd hget with
        ⟨hok, -⟩ | ⟨-, hr⟩
      · rw [hok] at hf
        cases hf
      · have h' := h.unregister hmain hinactive (by rw [habsent]; simp) (h.main_ne_entered_of_default hd)
          hinactive (by rw [habsent]; simp) hr
        rw [Function.update_eq_self] at h'
        exact h'
  | created ht hu habsent => exact h.created ht hu habsent rfl rfl rfl rfl
  | started hu hset hok =>
      obtain ⟨hmain, -⟩ := h.awaited _ _ hu
      rcases setCurrentFilament_registered hmain hset with ⟨-, hr⟩ | ⟨hf, -⟩
      · exact h.register hmain (by rw [hu]; rfl) (h.main_ne_entered (by rw [hu]; simp)) hr
      · rw [hok] at hf
        cases hf
  | notStarted hu hset hf =>
      obtain ⟨hmain, -⟩ := h.awaited _ _ hu
      rcases setCurrentFilament_registered hmain hset with ⟨hok, -⟩ | ⟨-, hr⟩
      · rw [hok] at hf
        cases hf
      · exact h.unregister hmain (by rw [hu]; rfl) (by rw [hu]; simp) (h.main_ne_entered (by rw [hu]; simp)) rfl
          (by simp) hr
  | resumed ht hu => exact h.resumed ht hu
  | left hmain hu hset => exact h.left hmain hu hset
  | joinBegun hmain _ =>
      rw [hmain] at hphase
      exact h.of_main rfl rfl rfl rfl rfl hphase (by simp)
  | joinEnded hmain _ =>
      rw [hmain] at hphase
      exact h.of_main rfl rfl rfl rfl rfl hphase (by simp)
  | restored hmain hset =>
      have hpc := h.main_leaving (.inr (.inr hmain))
      have hnew : s.prevFilament ≠ some c.this := by
        rw [h.prev (by rw [hpc]; rfl)]
        exact c.current_ne
      obtain ⟨htls, hch, -⟩ := setCurrentFilament_restored hnew hset
      exact h.main_detached rfl htls hch rfl (by simp) (.inr rfl) (by simp) (by simp [hpc])
  | destroyed hmain =>
      rw [hmain] at hphase
      exact h.of_main rfl rfl rfl rfl rfl hphase (by simp)

/-- **It holds after every run.** -/
theorem inv_run {s : State} {as : List Action} (hr : run (next c) c.start as = some s) : Inv c s :=
  run_invariant (fun _ _ _ h hnext => h.step (next_step hnext)) inv_start hr

/-- A thread in test code gets the filament of the call, without any effect, when it asks for its filament. -/
theorem getCurrentFilament_user {s : State} {t : ThreadId} {awaits : Option ThreadId} (handleHr : HRESULT)
    (h : Inv c s) (ht : s.threads t = .running awaits) :
    (s.world.tls t).filament = some c.this ∧
      getCurrentFilament c.filaments t handleHr s.world = some (sOk, s.world.tls t, s.world) := by
  have htls := h.current t (by rw [ht]; rfl)
  exact ⟨htls, getCurrentFilament_tls c.filaments htls⟩

end Cfix.Routine
