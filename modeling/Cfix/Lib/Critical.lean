import Mathlib.Logic.Function.Basic
import Cfix.Lib.Transition

/-!
# `Lib.Critical` — what a lock protects is used by one party at a time

Threads make calls on an object that is protected by a lock. A call first works without the lock, and may return
there; then it moves on the object, one move at a time, while it holds the lock; then it works without the lock
again and returns. `next` interleaves the threads between any two moves. In an `AtomicStep` there is no lock and a
thread makes all of its moves at once. `Sim` relates the two, so that a client proves its invariants for the second.
-/

namespace Critical

open Transition

/-! ## Calls -/

/-- The calls `ι` of threads `τ` on an object `σ` that is protected by a lock, in a world `ω` that is not. `κ` is what
    a call has in hand while it uses the object, and `ρ` what it returns. -/
structure Guarded (τ ι ω σ κ ρ : Type) where
  /-- Before the lock is taken: the call returns, or goes on. -/
  enter : τ → ι → ω → (ρ ⊕ κ) × ω
  /-- A move on the object; `none` says that the call is done with it. -/
  move  : κ → σ → Option (κ × σ)
  /-- After the lock is released. -/
  leave : κ → ω → ρ × ω

/-- Where a thread stands. -/
inductive Stage (ι κ : Type) where
  | idle
  | waiting (call : ι) (k : κ)
  | inside (call : ι) (k : κ)
  | left (call : ι) (k : κ)
  deriving DecidableEq, Repr

def Stage.isInside {ι κ : Type} : Stage ι κ → Bool
  | .inside _ _                   => true
  | .idle | .waiting _ _ | .left _ _ => false

/-- The object with its lock, the world, the threads, and the calls that have returned. -/
structure State (τ ι ω σ κ ρ : Type) where
  object   : σ
  world    : ω
  lock     : Option τ
  stage    : τ → Stage ι κ
  returned : List (τ × ι × ρ)

/-- A step of a thread. -/
inductive Action (τ ι : Type) where
  | call (t : τ) (i : ι)
  | acquire (t : τ)
  | move (t : τ)
  | release (t : τ)
  | finish (t : τ)
  deriving DecidableEq, Repr

/-- A step of a thread that does not need the lock: it uses the object with so many moves at once. -/
inductive AtomicAction (τ ι : Type) where
  | call (t : τ) (i : ι)
  | use (t : τ) (n : Nat)
  | finish (t : τ)
  deriving DecidableEq, Repr

/-- What a step with the lock stands for. -/
def AtomicAction.IsFor {τ ι : Type} : AtomicAction τ ι → Action τ ι → Prop
  | .call t i, a => a = .call t i
  | .use t _,  a => a = .release t
  | .finish t, a => a = .finish t

/-- A step that begins a call. -/
def Action.isCall {τ ι : Type} : Action τ ι → Bool
  | .call _ _                                      => true
  | .acquire _ | .move _ | .release _ | .finish _ => false

/-- The thread that takes a step. -/
def Action.thread {τ ι : Type} : Action τ ι → τ
  | .call t _ | .acquire t | .move t | .release t | .finish t => t

def AtomicAction.thread {τ ι : Type} : AtomicAction τ ι → τ
  | .call t _ | .use t _ | .finish t => t

theorem AtomicAction.IsFor.thread_eq {τ ι : Type} {b : AtomicAction τ ι} {a : Action τ ι} (h : b.IsFor a) :
    b.thread = a.thread := by
  cases b with
  | call t i => rw [show a = .call t i from h]; rfl
  | use t n  => rw [show a = .release t from h]; rfl
  | finish t => rw [show a = .finish t from h]; rfl

variable {τ ι ω σ κ ρ : Type} [DecidableEq τ]

namespace State

/-- No thread has made a call. -/
def initial (x : σ) (w : ω) : State τ ι ω σ κ ρ where
  object   := x
  world    := w
  lock     := none
  stage _  := .idle
  returned := []

variable (s : State τ ι ω σ κ ρ)

def setStage (t : τ) (stage : Stage ι κ) : State τ ι ω σ κ ρ := { s with stage := Function.update s.stage t stage }

end State

namespace Guarded

variable (o : Guarded τ ι ω σ κ ρ)

/-- So many moves, one after the other. -/
def moves : Nat → κ → σ → Option (κ × σ)
  | 0,     k, x => some (k, x)
  | n + 1, k, x => (moves n k x).bind fun kx => o.move kx.1 kx.2

/-- A step, with the lock. -/
def next (s : State τ ι ω σ κ ρ) : Action τ ι → Option (State τ ι ω σ κ ρ)
  | .call t i  =>
    match s.stage t with
    | .idle =>
      match o.enter t i s.world with
      | (.inl r, w) => some { s with world := w, returned := s.returned ++ [(t, i, r)] }
      | (.inr k, w) => some ({ s with world := w }.setStage t (.waiting i k))
    | .waiting _ _ | .inside _ _ | .left _ _ => none
  | .acquire t =>
    match s.lock, s.stage t with
    | none, .waiting i k => some ({ s with lock := some t }.setStage t (.inside i k))
    | _, _               => none
  | .move t    =>
    match s.stage t with
    | .inside i k =>
      (o.move k s.object).map fun kx => { s with object := kx.2 }.setStage t (.inside i kx.1)
    | .idle | .waiting _ _ | .left _ _ => none
  | .release t =>
    match s.stage t with
    | .inside i k =>
      if (o.move k s.object).isNone then some ({ s with lock := none }.setStage t (.left i k)) else none
    | .idle | .waiting _ _ | .left _ _ => none
  | .finish t  =>
    match s.stage t with
    | .left i k =>
      let (r, w) := o.leave k s.world
      some ({ s with world := w, returned := s.returned ++ [(t, i, r)] }.setStage t .idle)
    | .idle | .waiting _ _ | .inside _ _ => none

/-! ## What a step does -/

/-- A step, with the guards that it has passed. -/
inductive Step (s : State τ ι ω σ κ ρ) : Action τ ι → State τ ι ω σ κ ρ → Prop where
  | rejected {t : τ} {i : ι} {r : ρ} {w : ω} : s.stage t = .idle → o.enter t i s.world = (.inl r, w) →
      Step s (.call t i) { s with world := w, returned := s.returned ++ [(t, i, r)] }
  | called {t : τ} {i : ι} {k : κ} {w : ω} : s.stage t = .idle → o.enter t i s.world = (.inr k, w) →
      Step s (.call t i) ({ s with world := w }.setStage t (.waiting i k))
  | acquired {t : τ} {i : ι} {k : κ} : s.lock = none → s.stage t = .waiting i k →
      Step s (.acquire t) ({ s with lock := some t }.setStage t (.inside i k))
  | moved {t : τ} {i : ι} {k k' : κ} {x : σ} : s.stage t = .inside i k → o.move k s.object = some (k', x) →
      Step s (.move t) ({ s with object := x }.setStage t (.inside i k'))
  | released {t : τ} {i : ι} {k : κ} : s.stage t = .inside i k → o.move k s.object = none →
      Step s (.release t) ({ s with lock := none }.setStage t (.left i k))
  | finished {t : τ} {i : ι} {k : κ} {r : ρ} {w : ω} : s.stage t = .left i k → o.leave k s.world = (r, w) →
      Step s (.finish t) ({ s with world := w, returned := s.returned ++ [(t, i, r)] }.setStage t .idle)

/-- A step where the object is used at once, without a lock, with the guards that it has passed. -/
inductive AtomicStep (s : State τ ι ω σ κ ρ) : AtomicAction τ ι → State τ ι ω σ κ ρ → Prop where
  | rejected {t : τ} {i : ι} {r : ρ} {w : ω} : s.stage t = .idle → o.enter t i s.world = (.inl r, w) →
      AtomicStep s (.call t i) { s with world := w, returned := s.returned ++ [(t, i, r)] }
  | called {t : τ} {i : ι} {k : κ} {w : ω} : s.stage t = .idle → o.enter t i s.world = (.inr k, w) →
      AtomicStep s (.call t i) ({ s with world := w }.setStage t (.waiting i k))
  | used {t : τ} {i : ι} {k k' : κ} {x : σ} {n : Nat} : s.stage t = .waiting i k →
      o.moves n k s.object = some (k', x) → o.move k' x = none →
      AtomicStep s (.use t n) ({ s with object := x }.setStage t (.left i k'))
  | finished {t : τ} {i : ι} {k : κ} {r : ρ} {w : ω} : s.stage t = .left i k → o.leave k s.world = (r, w) →
      AtomicStep s (.finish t) ({ s with world := w, returned := s.returned ++ [(t, i, r)] }.setStage t .idle)

variable {o} {s s' : State τ ι ω σ κ ρ}

/-- **What a step can do.** -/
theorem next_step {a : Action τ ι} (h : o.next s a = some s') : o.Step s a s' := by
  cases a with
  | call t i =>
      simp only [next] at h
      split at h
      · rename_i hidle
        split at h
        · rename_i r w henter
          cases h
          exact .rejected hidle henter
        · rename_i k w henter
          cases h
          exact .called hidle henter
      all_goals cases h
  | acquire t =>
      simp only [next] at h
      split at h
      · rename_i i k hlock hwaiting
        cases h
        exact .acquired hlock hwaiting
      · cases h
  | move t =>
      simp only [next] at h
      split at h
      · rename_i i k hinside
        obtain ⟨kx, hmove, rfl⟩ := Option.map_eq_some_iff.mp h
        exact .moved hinside hmove
      all_goals cases h
  | release t =>
      simp only [next] at h
      split at h
      · rename_i i k hinside
        rw [Option.ite_none_right_eq_some] at h
        obtain ⟨hdone, h⟩ := h
        cases h
        exact .released hinside (Option.isNone_iff_eq_none.mp hdone)
      all_goals cases h
  | finish t =>
      simp only [next] at h
      split at h
      · rename_i i k hleft
        cases h
        exact .finished hleft rfl
      all_goals cases h

/-! ## The lock makes the use of the object atomic -/

/-- `s` looks like `c`, where the holder of the lock has not yet used the object. -/
structure Sim (o : Guarded τ ι ω σ κ ρ) (s c : State τ ι ω σ κ ρ) : Prop where
  world    : c.world = s.world
  returned : c.returned = s.returned
  others   : ∀ u, s.lock ≠ some u → c.stage u = s.stage u ∧ (s.stage u).isInside = false
  free     : s.lock = none → c.object = s.object
  held     : ∀ t, s.lock = some t → ∃ i k₀ k n,
    c.stage t = .waiting i k₀ ∧ s.stage t = .inside i k ∧ o.moves n k₀ c.object = some (k, s.object)

omit [DecidableEq τ] in
theorem sim_initial (o : Guarded τ ι ω σ κ ρ) (x : σ) (w : ω) : Sim o (.initial x w) (.initial x w) where
  world      := rfl
  returned   := rfl
  others _ _ := ⟨rfl, rfl⟩
  free _     := rfl
  held _ h   := nomatch h

/-- A thread that is inside holds the lock. -/
theorem Sim.lock_of_inside {c : State τ ι ω σ κ ρ} (h : Sim o s c) {t : τ} (ht : (s.stage t).isInside = true) :
    s.lock = some t := by
  by_contra hne
  rw [(h.others t hne).2] at ht
  cases ht

omit [DecidableEq τ] in
/-- A thread that is not inside does not hold the lock, and is where it is in `c`. -/
theorem Sim.stage_of_outside {c : State τ ι ω σ κ ρ} (h : Sim o s c) {t : τ} (ht : (s.stage t).isInside = false) :
    s.lock ≠ some t ∧ c.stage t = s.stage t := by
  have hne : s.lock ≠ some t := by
    intro hlock
    obtain ⟨i, k₀, k, n, -, hinside, -⟩ := h.held t hlock
    rw [hinside] at ht
    cases ht
  exact ⟨hne, (h.others t hne).1⟩

/-- A step of a thread outside, which does not touch the lock or the object, is the same step in both. -/
theorem Sim.outside {c s₁ c₁ : State τ ι ω σ κ ρ} (h : Sim o s c) {t : τ} (stage : Stage ι κ)
    (ht : (s.stage t).isInside = false) (hstage : stage.isInside = false)
    (hs : s₁.lock = s.lock ∧ s₁.object = s.object ∧ s₁.stage = Function.update s.stage t stage)
    (hc : c₁.object = c.object ∧ c₁.stage = Function.update c.stage t stage)
    (hworld : c₁.world = s₁.world) (hreturned : c₁.returned = s₁.returned) : Sim o s₁ c₁ := by
  obtain ⟨hlock, hobject, hstages⟩ := hs
  obtain ⟨hobject', hstages'⟩ := hc
  have hnot := (h.stage_of_outside ht).1
  refine ⟨hworld, hreturned, ?_, ?_, ?_⟩
  · intro u hu
    rw [hstages, hstages']
    by_cases hut : u = t
    · subst hut
      rw [Function.update_self, Function.update_self]
      exact ⟨rfl, hstage⟩
    · rw [Function.update_of_ne hut, Function.update_of_ne hut]
      exact h.others u (hlock ▸ hu)
  · intro hfree
    rw [hobject, hobject', h.free (hlock ▸ hfree)]
  · intro u hu
    have hut : u ≠ t := by
      rintro rfl
      exact hnot (hlock ▸ hu)
    rw [hstages, hstages', hobject, hobject', Function.update_of_ne hut, Function.update_of_ne hut]
    exact h.held u (hlock ▸ hu)

/-- **Step lemma**: a step with the lock is a step at once of the same thread, or none. The moves of the holder are
    made up for when it releases the lock. -/
theorem Sim.step {c : State τ ι ω σ κ ρ} (h : Sim o s c) {a : Action τ ι} (hnext : o.next s a = some s') :
    Sim o s' c ∨ ∃ b c', b.IsFor a ∧ o.AtomicStep c b c' ∧ Sim o s' c' := by
  cases next_step hnext with
  | @rejected t i r w hidle henter =>
      obtain ⟨-, hsame⟩ := h.stage_of_outside (t := t) (by rw [hidle]; rfl)
      refine .inr ⟨.call t i, _, rfl, .rejected (hsame.trans hidle) (by rw [h.world]; exact henter), ?_⟩
      exact ⟨rfl, by rw [h.returned], h.others, h.free, h.held⟩
  | @called t i k w hidle henter =>
      obtain ⟨-, hsame⟩ := h.stage_of_outside (t := t) (by rw [hidle]; rfl)
      refine .inr ⟨.call t i, _, rfl, .called (hsame.trans hidle) (by rw [h.world]; exact henter), ?_⟩
      exact h.outside (.waiting i k) (by rw [hidle]; rfl) rfl ⟨rfl, rfl, rfl⟩ ⟨rfl, rfl⟩ rfl h.returned
  | @acquired t i k hlock hwaiting =>
      obtain ⟨-, hsame⟩ := h.stage_of_outside (t := t) (by rw [hwaiting]; rfl)
      refine .inl ⟨h.world, h.returned, ?_, nofun, ?_⟩
      · intro u hu
        have hut : u ≠ t := fun heq => hu (congrArg some heq.symm)
        change c.stage u = Function.update s.stage t _ u ∧ (Function.update s.stage t _ u).isInside = false
        rw [Function.update_of_ne hut]
        exact h.others u (by rw [hlock]; nofun)
      · intro u hu
        obtain rfl := Option.some.inj hu
        refine ⟨i, k, k, 0, hsame.trans hwaiting, Function.update_self .., ?_⟩
        rw [h.free hlock]
        rfl
  | @moved t i k k' x hinside hmove =>
      have hlock := h.lock_of_inside (t := t) (by rw [hinside]; rfl)
      obtain ⟨i', k₀, k₁, n, hwaiting, hinside', hmoves⟩ := h.held t hlock
      rw [hinside] at hinside'
      cases hinside'
      refine .inl ⟨h.world, h.returned, ?_, ?_, ?_⟩
      · intro u hu
        have hut : u ≠ t := by
          rintro rfl
          exact hu hlock
        change c.stage u = Function.update s.stage t _ u ∧ (Function.update s.stage t _ u).isInside = false
        rw [Function.update_of_ne hut]
        exact h.others u hu
      · intro hfree
        rw [show s.lock = none from hfree] at hlock
        cases hlock
      · intro u hu
        obtain rfl : t = u := Option.some.inj (hlock.symm.trans hu)
        refine ⟨i, k₀, k', n + 1, hwaiting, Function.update_self .., ?_⟩
        rw [moves, hmoves]
        exact hmove
  | @released t i k hinside hdone =>
      have hlock := h.lock_of_inside (t := t) (by rw [hinside]; rfl)
      obtain ⟨i', k₀, k₁, n, hwaiting, hinside', hmoves⟩ := h.held t hlock
      rw [hinside] at hinside'
      cases hinside'
      refine .inr ⟨.use t n, _, rfl, .used hwaiting hmoves hdone, h.world, h.returned, ?_, fun _ => rfl, nofun⟩
      intro u _
      change Function.update c.stage t _ u = Function.update s.stage t _ u ∧
        (Function.update s.stage t _ u).isInside = false
      by_cases hut : u = t
      · subst hut
        rw [Function.update_self, Function.update_self]
        exact ⟨rfl, rfl⟩
      · rw [Function.update_of_ne hut, Function.update_of_ne hut]
        refine h.others u ?_
        rw [hlock]
        exact fun heq => hut (Option.some.inj heq).symm
  | @finished t i k r w hleft hleave =>
      obtain ⟨-, hsame⟩ := h.stage_of_outside (t := t) (by rw [hleft]; rfl)
      have hleave' : o.leave k c.world = (r, w) := by rw [h.world, hleave]
      refine .inr ⟨.finish t, _, rfl, .finished (hsame.trans hleft) hleave', ?_⟩
      exact h.outside .idle (by rw [hleft]; rfl) rfl ⟨rfl, rfl, rfl⟩ ⟨rfl, rfl⟩ rfl
        (by simp [h.returned, State.setStage])

/-- **Invariant rule**: what every step at once keeps, if it is for a step that meets the condition, holds of a state
    that the last one of the run looks like. -/
theorem Sim.run_induction {I : State τ ι ω σ κ ρ → Prop} {C : State τ ι ω σ κ ρ → Action τ ι → Prop}
    (hstep : ∀ s c a b c', Sim o s c → I c → C s a → b.IsFor a → o.AtomicStep c b c' → I c')
    {c : State τ ι ω σ κ ρ} (h : Sim o s c) (hI : I c) {as : List (Action τ ι)} (hm : Meets o.next C s as)
    (hr : run o.next s as = some s') : ∃ c', I c' ∧ Sim o s' c' := by
  refine Transition.run_induction (I := fun s => ∃ c, I c ∧ Sim o s c) ?_ ⟨c, hI, h⟩ hm hr
  rintro s a s' ⟨c, hI, h⟩ hC hnext
  rcases h.step hnext with h' | ⟨b, c', hfor, hatomic, h'⟩
  · exact ⟨c, hI, h'⟩
  · exact ⟨c', hstep s c a b c' h hI hC hfor hatomic, h'⟩

/-- The holder of the lock moves, or is done and releases it. -/
theorem Sim.holder_progress {c : State τ ι ω σ κ ρ} (h : Sim o s c) {u : τ} (hlock : s.lock = some u) :
    ∃ a s', o.next s a = some s' ∧ a.isCall = false ∧ a.thread = u := by
  obtain ⟨i, k₀, k, n, -, hinside, -⟩ := h.held u hlock
  cases hmove : o.move k s.object with
  | none    => exact ⟨.release u, _, by rw [next, hinside]; exact if_pos (by rw [hmove]; rfl), rfl, rfl⟩
  | some kx => exact ⟨.move u, _, by simp only [next, hinside, hmove]; rfl, rfl, rfl⟩

/-- **Nobody is stuck**: a thread with a call under way can take a step, unless it waits for the lock; then the holder of
    the lock can take one. -/
theorem Sim.progress {c : State τ ι ω σ κ ρ} (h : Sim o s c) {t : τ} (ht : s.stage t ≠ .idle) :
    ∃ a s', o.next s a = some s' ∧ a.isCall = false ∧
      (a.thread = t ∨ (∃ i k, s.stage t = .waiting i k) ∧ s.lock = some a.thread) := by
  cases hstage : s.stage t with
  | idle        => exact absurd hstage ht
  | left i k    => exact ⟨.finish t, _, by simp only [next, hstage]; rfl, rfl, .inl rfl⟩
  | inside i k  =>
      obtain ⟨a, s', hnext, hcall, hthread⟩ := h.holder_progress (h.lock_of_inside (t := t) (by rw [hstage]; rfl))
      exact ⟨a, s', hnext, hcall, .inl hthread⟩
  | waiting i k =>
      cases hlock : s.lock with
      | none   => exact ⟨.acquire t, _, by simp only [next, hlock, hstage]; rfl, rfl, .inl rfl⟩
      | some u =>
          obtain ⟨a, s', hnext, hcall, hthread⟩ := h.holder_progress hlock
          exact ⟨a, s', hnext, hcall, .inr ⟨⟨i, k, rfl⟩, by rw [hthread]⟩⟩

/-! ## Every interleaving is a sequence of whole calls -/

section Serial

variable {o : Guarded τ ι Unit σ κ ρ} {s : State τ ι Unit σ κ ρ} {x₀ : σ}

/-- The calls are made one after the other, and return this. -/
inductive Serial (o : Guarded τ ι Unit σ κ ρ) (x₀ : σ) : List (τ × ι × ρ) → σ → Prop where
  | nil : Serial o x₀ [] x₀
  | rejected {calls : List (τ × ι × ρ)} {x : σ} {t : τ} {i : ι} {r : ρ} : Serial o x₀ calls x →
      o.enter t i () = (.inl r, ()) → Serial o x₀ (calls ++ [(t, i, r)]) x
  | used {calls : List (τ × ι × ρ)} {x x' : σ} {t : τ} {i : ι} {k k' : κ} {n : Nat} : Serial o x₀ calls x →
      o.enter t i () = (.inr k, ()) → o.moves n k x = some (k', x') → o.move k' x' = none →
      Serial o x₀ (calls ++ [(t, i, (o.leave k' ()).1)]) x'

/-- The calls of one thread. -/
def ofThread (t : τ) (calls : List (τ × ι × ρ)) : List (τ × ι × ρ) := calls.filter fun c => c.1 = t

/-- The call of a thread that has used the object and is about to return. -/
def pending (o : Guarded τ ι Unit σ κ ρ) (t : τ) : Stage ι κ → List (τ × ι × ρ)
  | .left i k                            => [(t, i, (o.leave k ()).1)]
  | .idle | .waiting _ _ | .inside _ _ => []

@[simp] theorem ofThread_append (t : τ) (calls calls' : List (τ × ι × ρ)) :
    ofThread t (calls ++ calls') = ofThread t calls ++ ofThread t calls' := List.filter_append ..

theorem ofThread_singleton_self (t : τ) (i : ι) (r : ρ) : ofThread t [(t, i, r)] = [(t, i, r)] := by simp [ofThread]

theorem ofThread_singleton_of_ne {t u : τ} (h : u ≠ t) (i : ι) (r : ρ) : ofThread u [(t, i, r)] = [] := by
  simp [ofThread, h.symm]

/-- The calls so far, in some order that is that of each thread: made one after the other, they leave the object as
    it is. -/
structure Ordered (o : Guarded τ ι Unit σ κ ρ) (x₀ : σ) (order : List (τ × ι × ρ)) (s : State τ ι Unit σ κ ρ) :
    Prop where
  serial  : Serial o x₀ order s.object
  each    : ∀ t, ofThread t order = ofThread t s.returned ++ pending o t (s.stage t)
  entered : ∀ t i k, s.stage t = .waiting i k → o.enter t i () = (.inr k, ())

theorem Ordered.step {order : List (τ × ι × ρ)} {s' : State τ ι Unit σ κ ρ} {a : AtomicAction τ ι}
    (h : Ordered o x₀ order s) (hstep : o.AtomicStep s a s') : ∃ order', order <+: order' ∧ Ordered o x₀ order' s' := by
  cases hstep with
  | @rejected t i r w hidle henter =>
      refine ⟨order ++ [(t, i, r)], List.prefix_append .., h.serial.rejected henter, ?_, h.entered⟩
      intro u
      rw [ofThread_append, ofThread_append, h.each u]
      by_cases hut : u = t
      · subst hut
        simp [hidle, pending]
      · simp [ofThread_singleton_of_ne hut]
  | @called t i k w hidle henter =>
      refine ⟨order, List.prefix_rfl, h.serial, ?_, ?_⟩
      · intro u
        rw [h.each u]
        by_cases hut : u = t
        · subst hut
          simp [State.setStage, hidle, pending]
        · simp [State.setStage, Function.update_of_ne hut]
      · intro u i' k' hu
        by_cases hut : u = t
        · subst hut
          simp only [State.setStage, Function.update_self, Stage.waiting.injEq] at hu
          obtain ⟨rfl, rfl⟩ := hu
          exact henter
        · simp only [State.setStage, Function.update_of_ne hut] at hu
          exact h.entered u i' k' hu
  | @used t i k k' x n hwaiting hmoves hdone =>
      refine ⟨order ++ [(t, i, (o.leave k' ()).1)], List.prefix_append ..,
        h.serial.used (h.entered t i k hwaiting) hmoves hdone, ?_, ?_⟩
      · intro u
        rw [ofThread_append, h.each u]
        by_cases hut : u = t
        · subst hut
          simp [State.setStage, hwaiting, pending, ofThread_singleton_self]
        · simp [State.setStage, Function.update_of_ne hut, ofThread_singleton_of_ne hut]
      · intro u i' k' hu
        by_cases hut : u = t
        · subst hut
          simp [State.setStage] at hu
        · simp only [State.setStage, Function.update_of_ne hut] at hu
          exact h.entered u i' k' hu
  | @finished t i k r w hleft hleave =>
      refine ⟨order, List.prefix_rfl, h.serial, ?_, ?_⟩
      · intro u
        rw [h.each u]
        by_cases hut : u = t
        · subst hut
          simp [State.setStage, hleft, pending, ofThread_singleton_self, hleave]
        · simp [State.setStage, Function.update_of_ne hut, ofThread_singleton_of_ne hut]
      · intro u i' k' hu
        by_cases hut : u = t
        · subst hut
          simp [State.setStage] at hu
        · simp only [State.setStage, Function.update_of_ne hut] at hu
          exact h.entered u i' k' hu

/-- Further steps add to the order. -/
theorem Ordered.run {order : List (τ × ι × ρ)} {s' c : State τ ι Unit σ κ ρ} {as : List (Action τ ι)}
    (h : Ordered o x₀ order c) (hsim : Sim o s c) (hr : run o.next s as = some s') :
    ∃ order' c', order <+: order' ∧ Ordered o x₀ order' c' ∧ Sim o s' c' := by
  have hkeep : ∀ (s c : State τ ι Unit σ κ ρ) a b c', Sim o s c →
      (∃ order', order <+: order' ∧ Ordered o x₀ order' c) → True → b.IsFor a → o.AtomicStep c b c' →
        ∃ order', order <+: order' ∧ Ordered o x₀ order' c' := by
    rintro s c a b c' - ⟨order₁, hle₁, h₁⟩ - - hatomic
    obtain ⟨order₂, hle₂, h₂⟩ := h₁.step hatomic
    exact ⟨order₂, hle₁.trans hle₂, h₂⟩
  obtain ⟨c', ⟨order', hle, h'⟩, hsim'⟩ := hsim.run_induction hkeep ⟨order, List.prefix_rfl, h⟩
    (meets_of_forall (fun _ _ => trivial) s as) hr
  exact ⟨order', c', hle, h', hsim'⟩

/-- **Linearizability**: whatever the interleaving is, the calls that have returned, or have released the lock, could
    have been made one after the other with the same results. This leaves the object as it is, but for the moves of
    the holder of the lock. The order is that of each thread, and later calls only add to it. -/
theorem linearizable {s' : State τ ι Unit σ κ ρ} {as bs : List (Action τ ι)}
    (hr : Transition.run o.next (.initial x₀ ()) as = some s) (hr' : Transition.run o.next s bs = some s') :
    ∃ order order' c c', order <+: order' ∧ (Ordered o x₀ order c ∧ Sim o s c) ∧
      Ordered o x₀ order' c' ∧ Sim o s' c' := by
  have hinit : Ordered o x₀ [] (.initial x₀ () : State τ ι Unit σ κ ρ) := ⟨.nil, fun _ => rfl, nofun⟩
  obtain ⟨order, c, -, horder, hsim⟩ := hinit.run (sim_initial o x₀ ()) hr
  obtain ⟨order', c', hle, horder', hsim'⟩ := horder.run hsim hr'
  exact ⟨order, order', c, c', hle, ⟨horder, hsim⟩, horder', hsim'⟩

end Serial

end Guarded

end Critical
