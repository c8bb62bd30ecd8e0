import Cfix.Kernel.Registry

/-!
# `Kernel.RegistrySafety` — what the registry guarantees

The invariant says what each point of each function relies on (`PcOk`), that the count of a connection is
the number of its holders, and that a live connection is in the table once its registration is done. It is
kept by every step of an orderly run, so `RegistryOk` holds throughout.
-/

namespace Cfix.Registry

open Transition

/-! ## The invariant -/

/-- The connection that a thread registers or deletes. -/
def Pc.owned : Pc → Option ConnId
  | .registerWaiting c | .registerLocked c | .dying c | .unregisterWaiting c | .unregisterLocked c
  | .unregisterRemoved c | .unregistered c => some c
  | .idle | .lookupLocked _ | .lookupFound _ | .lookupDone | .registerDone => none

/-- The connection that a thread is about to put into the table. -/
def Pc.registering : Pc → Option ConnId
  | .registerWaiting c | .registerLocked c => some c
  | _                                      => none

/-- The thread owns the lock shared. -/
def Pc.shares : Pc → Bool
  | .lookupLocked _ | .lookupFound _ | .lookupDone => true
  | _                                              => false

/-- The thread owns the lock exclusively. -/
def Pc.excludes : Pc → Bool
  | .registerLocked _ | .registerDone | .unregisterLocked _ | .unregisterRemoved _ => true
  | _                                                                              => false

/-- The number of references to `c` that are held. -/
def State.refs (s : State) (c : ConnId) : Nat := s.held.countP (fun p => p.2 == c)

/-- The table leads to `c`. -/
def State.Registered (s : State) (c : ConnId) : Prop :=
  ∃ k, s.conns c = some k ∧ s.table k.driverLoadAddress = some c

def State.Unregistered (s : State) (c : ConnId) : Prop := ∀ address, s.table address ≠ some c

/-- `c` is new: only its creator `t` knows it. -/
def State.Fresh (s : State) (t : ThreadId) (c : ConnId) : Prop :=
  ∃ k, s.conns c = some k ∧ k.freed = false ∧ s.Unregistered c ∧ ∀ t', (t', c) ∈ s.held → t' = t

/-- The count of `c` has dropped to 0, and `c` has not been freed. -/
def State.Dead (s : State) (c : ConnId) : Prop :=
  ∃ k, s.conns c = some k ∧ k.freed = false ∧ k.referenceCount = 0

/-- What a thread relies on at a point. -/
def State.PcOk (s : State) (t : ThreadId) : Pc → Prop
  | .idle | .lookupLocked _ | .lookupDone | .registerDone         => True
  | .lookupFound c                                                => s.Registered c
  | .registerWaiting c | .registerLocked c                        => s.Fresh t c
  | .dying c | .unregisterWaiting c | .unregisterLocked c         => s.Dead c ∧ s.Registered c
  | .unregisterRemoved c | .unregistered c                        => s.Dead c ∧ s.Unregistered c

/-- **The invariant.** -/
structure Inv (s : State) : Prop where
  count      : ∀ c k, s.conns c = some k → k.referenceCount = s.refs c
  held       : ∀ t c, (t, c) ∈ s.held → ∃ k, s.conns c = some k ∧ k.freed = false
  table      : ∀ address c, s.table address = some c →
    ∃ k, s.conns c = some k ∧ k.driverLoadAddress = address ∧ k.freed = false
  shares     : ∀ t, (s.threads t).shares = true → t ∈ s.lock.shared
  excludes   : ∀ t, (s.threads t).excludes = true → s.lock.exclusive = some t
  pcs        : ∀ t, s.PcOk t (s.threads t)
  unique     : ∀ t t' c, (s.threads t).owned = some c → (s.threads t').owned = some c → t = t'
  registered : ∀ c k, s.conns c = some k → 1 ≤ k.referenceCount →
    (∀ t, (s.threads t).registering ≠ some c) → s.table k.driverLoadAddress = some c
  deletions  : ∀ c k, s.conns c = some k → k.deletions = if 1 ≤ k.referenceCount then 0 else 1
  evicted    : s.evicted = []

theorem inv_initialized : Inv .initialized where
  count _ _ h        := nomatch h
  held _ _ h         := nomatch h
  table _ _ h        := nomatch h
  shares _ h         := nomatch h
  excludes _ h       := nomatch h
  pcs _              := trivial
  unique _ _ _ h     := nomatch h
  registered _ _ h   := nomatch h
  deletions _ _ h    := nomatch h
  evicted            := rfl

/-! ## References -/

section Refs

variable {s : State} {t t' : ThreadId} {c c' : ConnId} {k : Connection}

theorem State.refs_pos (h : (t, c) ∈ s.held) : 0 < s.refs c :=
  List.countP_pos_iff.mpr ⟨(t, c), h, by simp⟩

theorem State.refs_eq_zero (h : ∀ t, (t, c) ∉ s.held) : s.refs c = 0 := by
  rw [State.refs, List.countP_eq_zero]
  rintro ⟨t, c'⟩ hmem hc
  rw [beq_iff_eq] at hc
  subst hc
  exact h t hmem

/-- A held connection is alive. -/
theorem Inv.held_live (hI : Inv s) (h : (t, c) ∈ s.held) (hk : s.conns c = some k) :
    1 ≤ k.referenceCount := by
  have hpos := State.refs_pos h
  rw [hI.count c k hk]
  omega

/-- What has been freed is dead. -/
theorem Inv.freed_dead (hI : Inv s) (hk : s.conns c = some k) (hf : k.freed = true) :
    k.referenceCount = 0 := by
  have hnone : ∀ t, (t, c) ∉ s.held := by
    intro t h
    obtain ⟨k', hk', hf'⟩ := hI.held t c h
    rw [hk] at hk'
    cases hk'
    rw [hf] at hf'
    cases hf'
  rw [hI.count c k hk, State.refs_eq_zero hnone]
  rfl

/-- A thread that owns a connection registers it, being its only holder, or deletes it. -/
theorem State.PcOk.owned {pc : Pc} (h : s.PcOk t pc) (ho : pc.owned = some c) :
    s.Fresh t c ∧ pc.registering = some c ∨ s.Dead c ∧ pc.registering = none := by
  cases pc with
  | idle => cases ho
  | lookupLocked address => cases ho
  | lookupFound x => cases ho
  | lookupDone => cases ho
  | registerDone => cases ho
  | registerWaiting x => cases ho; exact .inl ⟨h, rfl⟩
  | registerLocked x => cases ho; exact .inl ⟨h, rfl⟩
  | dying x => cases ho; exact .inr ⟨h.1, rfl⟩
  | unregisterWaiting x => cases ho; exact .inr ⟨h.1, rfl⟩
  | unregisterLocked x => cases ho; exact .inr ⟨h.1, rfl⟩
  | unregisterRemoved x => cases ho; exact .inr ⟨h.1, rfl⟩
  | unregistered x => cases ho; exact .inr ⟨h.1, rfl⟩

theorem Pc.owned_of_registering {pc : Pc} (h : pc.registering = some c) : pc.owned = some c := by
  cases pc <;> first | exact h | cases h

/-- Nobody registers or deletes a connection that an idle thread holds. -/
theorem Inv.not_owned_of_held (hI : Inv s) (ht : s.threads t = .idle) (h : (t, c) ∈ s.held) :
    (s.threads t').owned ≠ some c := by
  intro ho
  rcases (hI.pcs t').owned ho with ⟨⟨k, -, -, -, honly⟩, -⟩ | ⟨⟨k, hk, -, hzero⟩, -⟩
  · have := honly t h
    subst this
    rw [ht] at ho
    cases ho
  · have := hI.held_live h hk
    omega

/-- Nobody registers or deletes a live connection that is in the table. -/
theorem Inv.not_owned_of_registered (hI : Inv s) (hk : s.conns c = some k) (hlive : 1 ≤ k.referenceCount)
    (hr : s.Registered c) : (s.threads t').owned ≠ some c := by
  intro ho
  rcases (hI.pcs t').owned ho with ⟨⟨-, -, -, hun, -⟩, -⟩ | ⟨⟨k', hk', -, hzero⟩, -⟩
  · obtain ⟨k', -, htab⟩ := hr
    exact hun _ htab
  · rw [hk] at hk'
    cases hk'
    omega

end Refs

/-! ## Steps that change the lock and one thread -/

theorem State.threads_setPc (s : State) (t t' : ThreadId) (pc : Pc) :
    (s.setPc t pc).threads t' = if t' = t then pc else s.threads t' := by
  simp [State.setPc, Function.update_apply]

/-- A property of all threads after thread `t` has moved. -/
theorem State.forall_setPc {s : State} {t : ThreadId} {pc : Pc} {P : ThreadId → Pc → Prop}
    (ht : P t pc) (hother : ∀ t', t' ≠ t → P t' (s.threads t')) :
    ∀ t', P t' ((s.setPc t pc).threads t') := by
  intro t'
  rw [State.threads_setPc]
  split
  · rename_i h
    exact h ▸ ht
  · rename_i h
    exact hother t' h

/-- Thread `t` moves to `pc` and the lock to `lock`; it neither takes up a connection nor ends a
    registration. -/
theorem Inv.of_lockStep {s : State} {t : ThreadId} {pc : Pc} {lock : RwLock ThreadId} (hI : Inv s)
    (hpc : s.PcOk t pc) (howned : pc.owned = (s.threads t).owned)
    (hreg : pc.registering = (s.threads t).registering)
    (hshares : ∀ t', ((s.setPc t pc).threads t').shares = true → t' ∈ lock.shared)
    (hexcl : ∀ t', ((s.setPc t pc).threads t').excludes = true → lock.exclusive = some t') :
    Inv ({ s with lock := lock }.setPc t pc) where
  count      := hI.count
  held       := hI.held
  table      := hI.table
  shares     := hshares
  excludes   := hexcl
  pcs        := State.forall_setPc (P := fun t' pc' => s.PcOk t' pc') hpc (fun t' _ => hI.pcs t')
  unique     := by
    have hall : ∀ t', ((s.setPc t pc).threads t').owned = (s.threads t').owned :=
      State.forall_setPc (P := fun t' pc' => pc'.owned = (s.threads t').owned) howned (fun _ _ => rfl)
    intro t₁ t₂ c h₁ h₂
    exact hI.unique t₁ t₂ c ((hall t₁).symm.trans h₁) ((hall t₂).symm.trans h₂)
  registered := by
    have hall : ∀ t', ((s.setPc t pc).threads t').registering = (s.threads t').registering :=
      State.forall_setPc (P := fun t' pc' => pc'.registering = (s.threads t').registering) hreg
        (fun _ _ => rfl)
    intro c k hk hlive hno
    exact hI.registered c k hk hlive (fun t' h => hno t' ((hall t').trans h))
  deletions  := hI.deletions
  evicted    := hI.evicted

section LockSteps

variable {s s' : State} {t : ThreadId}

/-- A shared acquisition: nobody owned the lock exclusively. -/
theorem inv_lookupAcquire {address : LoadAddress} (hI : Inv s)
    (h : next s (.lookupAcquire t address) = some s') : Inv s' := by
  simp only [next] at h
  split at h
  · rename_i ht
    obtain ⟨lock, hlock, rfl⟩ := Option.map_eq_some_iff.mp h
    obtain ⟨hexcl, hshared, -⟩ := RwLock.acquireShared_some hlock
    refine hI.of_lockStep trivial (by rw [ht]; rfl) (by rw [ht]; rfl) ?_ ?_
    · refine State.forall_setPc (P := fun t' pc' => pc'.shares = true → t' ∈ lock.shared) ?_ ?_
      · intro _
        rw [hshared]
        exact List.mem_cons_self
      · intro t' _ h'
        rw [hshared]
        exact List.mem_cons_of_mem _ (hI.shares t' h')
    · refine State.forall_setPc (P := fun t' pc' => pc'.excludes = true → lock.exclusive = some t') ?_ ?_
      · intro h'
        cases h'
      · intro t' _ h'
        have hex := hI.excludes t' h'
        rw [hexcl] at hex
        cases hex
  · cases h

theorem inv_lookupFind (hI : Inv s) (h : next s (.lookupFind t) = some s') : Inv s' := by
  simp only [next] at h
  split at h
  · rename_i address ht
    have hsh : t ∈ s.lock.shared := hI.shares t (by rw [ht]; rfl)
    have hshares : ∀ pc : Pc, ∀ t', ((s.setPc t pc).threads t').shares = true → t' ∈ s.lock.shared :=
      fun pc => State.forall_setPc (P := fun t' pc' => pc'.shares = true → t' ∈ s.lock.shared)
        (fun _ => hsh) (fun t' _ => hI.shares t')
    have hexcl : ∀ pc : Pc, pc.excludes = false →
        ∀ t', ((s.setPc t pc).threads t').excludes = true → s.lock.exclusive = some t' := by
      intro pc hpc
      refine State.forall_setPc (P := fun t' pc' => pc'.excludes = true → s.lock.exclusive = some t')
        ?_ (fun t' _ => hI.excludes t')
      intro h'
      rw [hpc] at h'
      cases h'
    split at h
    · rename_i c htab
      cases h
      have hreg : s.Registered c := by
        obtain ⟨k, hk, haddr, -⟩ := hI.table address c htab
        exact ⟨k, hk, haddr ▸ htab⟩
      have hpc : s.PcOk t (.lookupFound c) := hreg
      exact hI.of_lockStep hpc (by rw [ht]; rfl) (by rw [ht]; rfl) (hshares _) (hexcl _ rfl)
    · cases h
      have hpc : s.PcOk t .lookupDone := trivial
      exact hI.of_lockStep hpc (by rw [ht]; rfl) (by rw [ht]; rfl) (hshares _) (hexcl _ rfl)
  · cases h

theorem inv_lookupRelease (hI : Inv s) (h : next s (.lookupRelease t) = some s') : Inv s' := by
  simp only [next] at h
  split at h
  · rename_i ht
    cases h
    refine hI.of_lockStep trivial (by rw [ht]; rfl) (by rw [ht]; rfl) ?_ ?_
    · refine State.forall_setPc (P := fun t' pc' => pc'.shares = true → t' ∈ s.lock.shared.erase t) ?_ ?_
      · intro h'
        cases h'
      · intro t' hne h'
        exact (List.mem_erase_of_ne hne).mpr (hI.shares t' h')
    · refine State.forall_setPc (P := fun t' pc' => pc'.excludes = true → s.lock.exclusive = some t') ?_ ?_
      · intro h'
        cases h'
      · exact fun t' _ => hI.excludes t'
  · cases h

/-- A thread that starts to wait for the lock. -/
theorem Inv.of_request {pc : Pc} (hI : Inv s) (hpc : s.PcOk t pc)
    (howned : pc.owned = (s.threads t).owned) (hreg : pc.registering = (s.threads t).registering)
    (hsh : pc.shares = false) (hex : pc.excludes = false) :
    Inv ({ s with lock := s.lock.request t }.setPc t pc) := by
  refine hI.of_lockStep hpc howned hreg ?_ ?_
  · refine State.forall_setPc (P := fun t' pc' => pc'.shares = true → t' ∈ s.lock.shared) ?_ ?_
    · intro h'
      rw [hsh] at h'
      cases h'
    · exact fun t' _ => hI.shares t'
  · refine State.forall_setPc (P := fun t' pc' => pc'.excludes = true → s.lock.exclusive = some t') ?_ ?_
    · intro h'
      rw [hex] at h'
      cases h'
    · exact fun t' _ => hI.excludes t'

/-- An exclusive acquisition: nobody owned the lock. -/
theorem Inv.of_grant {pc : Pc} {lock : RwLock ThreadId} (hI : Inv s) (hlock : s.lock.grant t = some lock)
    (hpc : s.PcOk t pc) (howned : pc.owned = (s.threads t).owned)
    (hreg : pc.registering = (s.threads t).registering) (hsh : pc.shares = false) :
    Inv ({ s with lock := lock }.setPc t pc) := by
  obtain ⟨hnone, hshared, -, hexcl⟩ := RwLock.grant_some hlock
  refine hI.of_lockStep hpc howned hreg ?_ ?_
  · refine State.forall_setPc (P := fun t' pc' => pc'.shares = true → t' ∈ lock.shared) ?_ ?_
    · intro h'
      rw [hsh] at h'
      cases h'
    · intro t' _ h'
      have hmem := hI.shares t' h'
      rw [hshared] at hmem
      cases hmem
  · refine State.forall_setPc (P := fun t' pc' => pc'.excludes = true → lock.exclusive = some t') ?_ ?_
    · exact fun _ => hexcl
    · intro t' _ h'
      have hex := hI.excludes t' h'
      rw [hnone] at hex
      cases hex

/-- The exclusive owner releases the lock. -/
theorem Inv.of_releaseExclusive {pc : Pc} (hI : Inv s) (ht : (s.threads t).excludes = true)
    (hpc : s.PcOk t pc) (howned : pc.owned = (s.threads t).owned)
    (hreg : pc.registering = (s.threads t).registering) (hsh : pc.shares = false)
    (hex : pc.excludes = false) : Inv ({ s with lock := s.lock.releaseExclusive }.setPc t pc) := by
  refine hI.of_lockStep hpc howned hreg ?_ ?_
  · refine State.forall_setPc (P := fun t' pc' => pc'.shares = true → t' ∈ s.lock.shared) ?_ ?_
    · intro h'
      rw [hsh] at h'
      cases h'
    · exact fun t' _ => hI.shares t'
  · refine State.forall_setPc
      (P := fun t' pc' => pc'.excludes = true → s.lock.releaseExclusive.exclusive = some t') ?_ ?_
    · intro h'
      rw [hex] at h'
      cases h'
    · intro t' hne h'
      have howner := hI.excludes t' h'
      rw [hI.excludes t ht] at howner
      exact absurd (Option.some.inj howner).symm hne

theorem inv_unregisterRequest (hI : Inv s) (h : next s (.unregisterRequest t) = some s') : Inv s' := by
  simp only [next] at h
  split at h
  · rename_i c ht
    cases h
    have hpc : s.PcOk t (.dying c) := ht ▸ hI.pcs t
    exact hI.of_request hpc (by rw [ht]; rfl) (by rw [ht]; rfl) rfl rfl
  · cases h

theorem inv_unregisterAcquire (hI : Inv s) (h : next s (.unregisterAcquire t) = some s') : Inv s' := by
  simp only [next] at h
  split at h
  · rename_i c ht
    obtain ⟨lock, hlock, rfl⟩ := Option.map_eq_some_iff.mp h
    have hpc : s.PcOk t (.unregisterWaiting c) := ht ▸ hI.pcs t
    exact hI.of_grant hlock hpc (by rw [ht]; rfl) (by rw [ht]; rfl) rfl
  · cases h

theorem inv_unregisterRelease (hI : Inv s) (h : next s (.unregisterRelease t) = some s') : Inv s' := by
  simp only [next] at h
  split at h
  · rename_i c ht
    cases h
    have hpc : s.PcOk t (.unregisterRemoved c) := ht ▸ hI.pcs t
    exact hI.of_releaseExclusive (by rw [ht]; rfl) hpc (by rw [ht]; rfl) (by rw [ht]; rfl) rfl rfl
  · cases h

theorem inv_registerAcquire (hI : Inv s) (h : next s (.registerAcquire t) = some s') : Inv s' := by
  simp only [next] at h
  split at h
  · rename_i c ht
    obtain ⟨lock, hlock, rfl⟩ := Option.map_eq_some_iff.mp h
    have hpc : s.PcOk t (.registerWaiting c) := ht ▸ hI.pcs t
    exact hI.of_grant hlock hpc (by rw [ht]; rfl) (by rw [ht]; rfl) rfl
  · cases h

theorem inv_registerRelease (hI : Inv s) (h : next s (.registerRelease t) = some s') : Inv s' := by
  simp only [next] at h
  split at h
  · rename_i ht
    cases h
    exact hI.of_releaseExclusive (by rw [ht]; rfl) trivial (by rw [ht]; rfl) (by rw [ht]; rfl) rfl rfl
  · cases h

end LockSteps

/-! ## Steps that change one connection -/

/-- From `s` to `s₁` only connection `c`, without its address, and the references to it change. -/
structure TouchesOnly (s s₁ : State) (c : ConnId) : Prop where
  table   : s₁.table = s.table
  lock    : s₁.lock = s.lock
  threads : s₁.threads = s.threads
  evicted : s₁.evicted = s.evicted
  other   : ∀ c', c' ≠ c → s₁.conns c' = s.conns c'
  address : ∀ k, s.conns c = some k →
    ∃ k', s₁.conns c = some k' ∧ k'.driverLoadAddress = k.driverLoadAddress
  held    : ∀ t' c', c' ≠ c → ((t', c') ∈ s₁.held ↔ (t', c') ∈ s.held)
  refs    : ∀ c', c' ≠ c → s₁.refs c' = s.refs c'

section CountSteps

variable {s s₁ : State} {t : ThreadId} {c : ConnId} {k : Connection}

theorem TouchesOnly.registered {x : ConnId} (h : TouchesOnly s s₁ c) (hr : s.Registered x) :
    s₁.Registered x := by
  obtain ⟨k, hk, htab⟩ := hr
  by_cases hx : x = c
  · subst hx
    obtain ⟨k', hk', haddr⟩ := h.address k hk
    exact ⟨k', hk', by rw [h.table, haddr]; exact htab⟩
  · exact ⟨k, (h.other x hx).trans hk, by rw [h.table]; exact htab⟩

theorem TouchesOnly.fresh {x : ConnId} {t' : ThreadId} (h : TouchesOnly s s₁ c) (hx : x ≠ c)
    (hf : s.Fresh t' x) : s₁.Fresh t' x := by
  obtain ⟨k, hk, hfreed, hun, honly⟩ := hf
  refine ⟨k, (h.other x hx).trans hk, hfreed, ?_, ?_⟩
  · intro address
    rw [h.table]
    exact hun address
  · exact fun t'' hmem => honly t'' ((h.held t'' x hx).mp hmem)

theorem TouchesOnly.dead {x : ConnId} (h : TouchesOnly s s₁ c) (hx : x ≠ c) (hd : s.Dead x) : s₁.Dead x := by
  obtain ⟨k, hk, hrest⟩ := hd
  exact ⟨k, (h.other x hx).trans hk, hrest⟩

/-- Threads that do not own `c` keep what they rely on. -/
theorem TouchesOnly.pcOk {t' : ThreadId} {pc : Pc} (h : TouchesOnly s s₁ c) (ho : pc.owned ≠ some c)
    (hpc : s.PcOk t' pc) : s₁.PcOk t' pc := by
  have hne : ∀ x, pc.owned = some x → x ≠ c := fun x hx heq => ho (heq ▸ hx)
  have hun : ∀ x, s.Unregistered x → s₁.Unregistered x := by
    intro x hu address
    rw [h.table]
    exact hu address
  cases pc with
  | idle => trivial
  | lookupLocked address => trivial
  | lookupDone => trivial
  | registerDone => trivial
  | lookupFound x => exact h.registered hpc
  | registerWaiting x => exact h.fresh (hne x rfl) hpc
  | registerLocked x => exact h.fresh (hne x rfl) hpc
  | dying x => exact ⟨h.dead (hne x rfl) hpc.1, h.registered hpc.2⟩
  | unregisterWaiting x => exact ⟨h.dead (hne x rfl) hpc.1, h.registered hpc.2⟩
  | unregisterLocked x => exact ⟨h.dead (hne x rfl) hpc.1, h.registered hpc.2⟩
  | unregisterRemoved x => exact ⟨h.dead (hne x rfl) hpc.1, hun x hpc.2⟩
  | unregistered x => exact ⟨h.dead (hne x rfl) hpc.1, hun x hpc.2⟩

/-- A step of thread `t` that leaves `k` in connection `c`. Nobody else owns `c`, and `t` was not
    registering anything. -/
theorem Inv.of_countStep {pc : Pc} (hI : Inv s) (h : TouchesOnly s s₁ c) (hk : s₁.conns c = some k)
    (hcount : k.referenceCount = s₁.refs c)
    (hfreed : k.freed = true → (∀ t', (t', c) ∉ s₁.held) ∧ s.Unregistered c)
    (hdel : k.deletions = if 1 ≤ k.referenceCount then 0 else 1)
    (hregd : 1 ≤ k.referenceCount → pc.registering ≠ some c → s.table k.driverLoadAddress = some c)
    (hothers : ∀ t', t' ≠ t → (s.threads t').owned ≠ some c)
    (hpc : s₁.PcOk t pc) (howned : ∀ x, pc.owned = some x → x = c)
    (hreg : (s.threads t).registering = none)
    (hsh : pc.shares = true → (s.threads t).shares = true)
    (hex : pc.excludes = true → (s.threads t).excludes = true) : Inv (s₁.setPc t pc) := by
  have hothers₁ : ∀ t', t' ≠ t → s₁.threads t' = s.threads t' := fun t' _ => congrFun h.threads t'
  refine ⟨?_, ?_, ?_, ?_, ?_, ?_, ?_, ?_, ?_, ?_⟩
  · -- count
    intro x kx hx
    by_cases hxc : x = c
    · subst hxc
      have : some k = some kx := hk.symm.trans hx
      cases this
      exact hcount
    · have hx' : s.conns x = some kx := (h.other x hxc).symm.trans hx
      show kx.referenceCount = s₁.refs x
      rw [h.refs x hxc]
      exact hI.count x kx hx'
  · -- held
    intro t' x hmem
    by_cases hxc : x = c
    · subst hxc
      refine ⟨k, hk, ?_⟩
      by_contra hf
      exact (hfreed (by simpa using hf)).1 t' hmem
    · obtain ⟨kx, hx, hf⟩ := hI.held t' x ((h.held t' x hxc).mp hmem)
      exact ⟨kx, (h.other x hxc).trans hx, hf⟩
  · -- table
    intro address x htab
    have htab' : s.table address = some x := by
      rw [← h.table]
      exact htab
    obtain ⟨kx, hx, ha, hf⟩ := hI.table address x htab'
    by_cases hxc : x = c
    · subst hxc
      obtain ⟨k', hk', ha'⟩ := h.address kx hx
      rw [hk] at hk'
      cases hk'
      refine ⟨k, hk, ha'.trans ha, ?_⟩
      by_contra hf'
      exact (hfreed (by simpa using hf')).2 address htab'
    · exact ⟨kx, (h.other x hxc).trans hx, ha, hf⟩
  · -- shares
    refine State.forall_setPc (P := fun t' pc' => pc'.shares = true → t' ∈ s₁.lock.shared) ?_ ?_
    · intro h'
      rw [h.lock]
      exact hI.shares t (hsh h')
    · intro t' hne h'
      rw [h.lock]
      rw [hothers₁ t' hne] at h'
      exact hI.shares t' h'
  · -- excludes
    refine State.forall_setPc (P := fun t' pc' => pc'.excludes = true → s₁.lock.exclusive = some t') ?_ ?_
    · intro h'
      rw [h.lock]
      exact hI.excludes t (hex h')
    · intro t' hne h'
      rw [h.lock]
      rw [hothers₁ t' hne] at h'
      exact hI.excludes t' h'
  · -- what the threads rely on
    refine State.forall_setPc (P := fun t' pc' => s₁.PcOk t' pc') hpc ?_
    intro t' hne
    rw [hothers₁ t' hne]
    exact h.pcOk (hothers t' hne) (hI.pcs t')
  · -- unique
    have hall : ∀ t', t' = t ∨ ((s₁.setPc t pc).threads t' = s.threads t' ∧ t' ≠ t) := by
      intro t'
      by_cases hne : t' = t
      · exact .inl hne
      · exact .inr ⟨by rw [State.threads_setPc, if_neg hne]; exact hothers₁ t' hne, hne⟩
    have hself : (s₁.setPc t pc).threads t = pc := by rw [State.threads_setPc, if_pos rfl]
    intro t₁ t₂ x h₁ h₂
    rcases hall t₁ with rfl | ⟨e₁, n₁⟩ <;> rcases hall t₂ with e₂ | ⟨e₂, n₂⟩
    · exact e₂.symm
    · rw [hself] at h₁
      rw [e₂] at h₂
      exact absurd (howned x h₁ ▸ h₂) (hothers t₂ n₂)
    · subst e₂
      rw [hself] at h₂
      rw [e₁] at h₁
      exact absurd (howned x h₂ ▸ h₁) (hothers t₁ n₁)
    · rw [e₁] at h₁
      rw [e₂] at h₂
      exact hI.unique t₁ t₂ x h₁ h₂
  · -- registered
    intro x kx hx hl hno
    show s₁.table kx.driverLoadAddress = some x
    rw [h.table]
    by_cases hxc : x = c
    · subst hxc
      have : some k = some kx := hk.symm.trans hx
      cases this
      refine hregd hl (fun hr => hno t ?_)
      rw [State.threads_setPc, if_pos rfl]
      exact hr
    · refine hI.registered x kx ((h.other x hxc).symm.trans hx) hl ?_
      intro t' hr
      by_cases hne : t' = t
      · subst hne
        rw [hreg] at hr
        cases hr
      · refine hno t' ?_
        rw [State.threads_setPc, if_neg hne, hothers₁ t' hne]
        exact hr
  · -- deletions
    intro x kx hx
    by_cases hxc : x = c
    · subst hxc
      have : some k = some kx := hk.symm.trans hx
      cases this
      exact hdel
    · exact hI.deletions x kx ((h.other x hxc).symm.trans hx)
  · exact h.evicted.trans hI.evicted

end CountSteps

section Counting

variable {s s' : State} {t : ThreadId} {c : ConnId} {k k' : Connection}

theorem State.conns_setConn_self (s : State) (c : ConnId) (k : Connection) :
    (s.setConn c k).conns c = some k := by
  simp [State.setConn]

/-- The same references. -/
theorem touchesOnly_setConn (hk : s.conns c = some k) (haddr : k'.driverLoadAddress = k.driverLoadAddress) :
    TouchesOnly s (s.setConn c k') c where
  table          := rfl
  lock           := rfl
  threads        := rfl
  evicted        := rfl
  other c' hne   := by simp [State.setConn, hne]
  address k₀ h₀  := by
    rw [hk] at h₀
    cases h₀
    exact ⟨k', by simp [State.setConn], haddr⟩
  held _ _ _     := Iff.rfl
  refs _ _       := rfl

/-- One more reference to `c`. -/
theorem touchesOnly_cons (hk : s.conns c = some k) (haddr : k'.driverLoadAddress = k.driverLoadAddress) :
    TouchesOnly s ({ s with held := (t, c) :: s.held }.setConn c k') c :=
  { touchesOnly_setConn hk haddr with
    held := fun t' c' hne => by simp [State.setConn, hne]
    refs := fun c' hne => by
      have hb : (c == c') = false := beq_eq_false_iff_ne.mpr (Ne.symm hne)
      simp [State.refs, State.setConn, hb] }

/-- What giving back a reference does to the number of references. -/
theorem State.refs_erase (hmem : (t, c) ∈ s.held) (c' : ConnId) :
    s.refs c' = (s.held.erase (t, c)).countP (fun p => p.2 == c') + if c = c' then 1 else 0 := by
  rw [State.refs, (List.perm_cons_erase hmem).countP_eq, List.countP_cons]
  simp only [beq_iff_eq]

/-- One reference to `c` less. -/
theorem touchesOnly_erase (hk : s.conns c = some k) (haddr : k'.driverLoadAddress = k.driverLoadAddress)
    (hmem : (t, c) ∈ s.held) : TouchesOnly s ({ s with held := s.held.erase (t, c) }.setConn c k') c :=
  { touchesOnly_setConn hk haddr with
    held := fun t' c' hne => by
      have hpair : (t', c') ≠ (t, c) := fun h => hne (congrArg Prod.snd h)
      exact List.mem_erase_of_ne hpair
    refs := fun c' hne => by
      have hrefs := State.refs_erase hmem c'
      rw [if_neg (Ne.symm hne)] at hrefs
      exact hrefs.symm }

theorem Inv.not_freed (hI : Inv s) (hk : s.conns c = some k) (hlive : 1 ≤ k.referenceCount) :
    k.freed = false := by
  by_contra hf
  have := hI.freed_dead hk (by simpa using hf)
  omega

/-- Taking a reference to a live connection that no other thread registers or deletes. -/
theorem Inv.of_reference {pc : Pc} (hI : Inv s) (hk : s.conns c = some k) (hlive : 1 ≤ k.referenceCount)
    (hothers : ∀ t', (s.threads t').owned ≠ some c) (hreg : (s.threads t).registering = none)
    (hpc : (s.referenceConnection t c k).PcOk t pc) (howned : pc.owned = none)
    (hsh : pc.shares = true → (s.threads t).shares = true) (hex : pc.excludes = false) :
    Inv ((s.referenceConnection t c k).setPc t pc) := by
  have hcount := hI.count c k hk
  have hnot := hI.not_freed hk hlive
  have hrefs : (s.referenceConnection t c k).refs c = s.refs c + 1 := by
    simp [State.refs, State.referenceConnection, State.setConn]
  refine hI.of_countStep (touchesOnly_cons hk rfl) (State.conns_setConn_self _ _ _) ?_ ?_ ?_ ?_
    (fun t' _ => hothers t') hpc ?_ hreg hsh ?_
  · show k.referenceCount + 1 = ((s.referenceConnection t c k).refs c : Int)
    rw [hrefs, hcount]
    rfl
  · intro hf
    have hf' : k.freed = true := hf
    rw [hnot] at hf'
    cases hf'
  · have hd := hI.deletions c k hk
    rw [if_pos hlive] at hd
    rw [if_pos (by show 1 ≤ k.referenceCount + 1; omega)]
    exact hd
  · intro _ _
    exact hI.registered c k hk hlive (fun t' hr => hothers t' (Pc.owned_of_registering hr))
  · intro x hx
    rw [howned] at hx
    cases hx
  · intro hx
    rw [hex] at hx
    cases hx

theorem inv_lookupReference (hI : Inv s) (hC : Orderly s (.lookupReference t))
    (h : next s (.lookupReference t) = some s') : Inv s' := by
  simp only [next] at h
  split at h
  · rename_i c ht
    obtain ⟨k, hk, rfl⟩ := Option.map_eq_some_iff.mp h
    have hlive : 1 ≤ k.referenceCount := hC c k ht hk
    have hreg : s.Registered c := by
      have hpc := hI.pcs t
      rw [ht] at hpc
      exact hpc
    exact hI.of_reference hk hlive (fun t' => hI.not_owned_of_registered hk hlive hreg) (by rw [ht]; rfl)
      trivial rfl (fun _ => by rw [ht]; rfl) rfl
  · cases h

theorem inv_reference (hI : Inv s) (h : next s (.reference t c) = some s') : Inv s' := by
  simp only [next] at h
  split at h
  · rename_i hcond
    obtain ⟨ht, hmem⟩ := hcond
    obtain ⟨k, hk, rfl⟩ := Option.map_eq_some_iff.mp h
    have hstep : Inv ((s.referenceConnection t c k).setPc t .idle) :=
      hI.of_reference hk (hI.held_live hmem hk) (fun t' => hI.not_owned_of_held ht hmem) (by rw [ht]; rfl)
        trivial rfl (fun hx => nomatch hx) rfl
    have hself : (s.referenceConnection t c k).setPc t .idle = s.referenceConnection t c k := by
      simp [State.setPc, State.referenceConnection, State.setConn, ← ht]
    exact hself ▸ hstep
  · cases h

theorem inv_dereference (hI : Inv s) (h : next s (.dereference t c) = some s') : Inv s' := by
  simp only [next] at h
  split at h
  · rename_i hcond
    obtain ⟨ht, hmem⟩ := hcond
    obtain ⟨k, hk, rfl⟩ := Option.map_eq_some_iff.mp h
    have hlive := hI.held_live hmem hk
    have hcount := hI.count c k hk
    have hnot := hI.not_freed hk hlive
    have hothers : ∀ t', (s.threads t').owned ≠ some c := fun t' => hI.not_owned_of_held ht hmem
    have htab : s.table k.driverLoadAddress = some c :=
      hI.registered c k hk hlive (fun t' hr => hothers t' (Pc.owned_of_registering hr))
    have hrefs := State.refs_erase hmem c
    rw [if_pos rfl] at hrefs
    have hidle : (s.threads t).registering = none := by rw [ht]; rfl
    unfold State.dereferenceConnection
    split
    · -- the last reference
      rename_i hzero
      have htouch : TouchesOnly s ({ s with held := s.held.erase (t, c) }.setConn c
          { k with referenceCount := 0, deletions := k.deletions + 1 }) c := touchesOnly_erase hk rfl hmem
      have hnone : (s.held.erase (t, c)).countP (fun p => p.2 == c) = 0 := by omega
      refine hI.of_countStep htouch (State.conns_setConn_self _ _ _) ?_ ?_ ?_ ?_ (fun t' _ => hothers t')
        ?_ ?_ hidle (fun hx => nomatch hx) (fun hx => nomatch hx)
      · show (0 : Int) = ((s.held.erase (t, c)).countP (fun p => p.2 == c) : Int)
        rw [hnone]
        rfl
      · intro hf
        have hf' : k.freed = true := hf
        rw [hnot] at hf'
        cases hf'
      · have hd := hI.deletions c k hk
        rw [if_pos hlive] at hd
        show k.deletions + 1 = 1
        rw [hd]
      · intro hpos
        cases hpos
      · exact ⟨⟨_, State.conns_setConn_self _ _ _, hnot, rfl⟩, htouch.registered ⟨k, hk, htab⟩⟩
      · intro x hx
        cases hx
        rfl
    · rename_i hpos
      have htouch : TouchesOnly s ({ s with held := s.held.erase (t, c) }.setConn c
          { k with referenceCount := k.referenceCount - 1 }) c := touchesOnly_erase hk rfl hmem
      have hstep : Inv (({ s with held := s.held.erase (t, c) }.setConn c
          { k with referenceCount := k.referenceCount - 1 }).setPc t .idle) := by
        refine hI.of_countStep htouch (State.conns_setConn_self _ _ _) ?_ ?_ ?_ (fun _ _ => htab)
          (fun t' _ => hothers t') trivial (fun x hx => nomatch hx) hidle (fun hx => nomatch hx)
          (fun hx => nomatch hx)
        · show k.referenceCount - 1 = ((s.held.erase (t, c)).countP (fun p => p.2 == c) : Int)
          omega
        · intro hf
          have hf' : k.freed = true := hf
          rw [hnot] at hf'
          cases hf'
        · have hd := hI.deletions c k hk
          rw [if_pos hlive] at hd
          rw [if_pos (by show 1 ≤ k.referenceCount - 1; omega)]
          exact hd
      have hself : ({ s with held := s.held.erase (t, c) }.setConn c
          { k with referenceCount := k.referenceCount - 1 }).setPc t .idle
            = { s with held := s.held.erase (t, c) }.setConn c
                { k with referenceCount := k.referenceCount - 1 } := by
        simp [State.setPc, State.setConn, ← ht]
      exact hself ▸ hstep
  · cases h

/-- A reference that changes hands: nobody registers or deletes the connection. -/
theorem inv_handOver {u : ThreadId} (hI : Inv s) (h : next s (.handOver t u c) = some s') : Inv s' := by
  simp only [next] at h
  split at h
  · rename_i hcond
    obtain ⟨ht, hmem⟩ := hcond
    cases h
    obtain ⟨k, hk, -⟩ := hI.held t c hmem
    have hrefs : ∀ x, State.refs { s with held := (u, c) :: s.held.erase (t, c) } x = s.refs x := by
      intro x
      rw [State.refs_erase hmem x, State.refs, List.countP_cons]
      simp only [beq_iff_eq]
    have htouch : TouchesOnly s { s with held := (u, c) :: s.held.erase (t, c) } c := by
      refine ⟨rfl, rfl, rfl, rfl, fun _ _ => rfl, fun k hk => ⟨k, hk, rfl⟩, ?_, fun x _ => hrefs x⟩
      intro t' x hne
      have h₁ : (t', x) ≠ (u, c) := fun heq => hne (congrArg Prod.snd heq)
      have h₂ : (t', x) ≠ (t, c) := fun heq => hne (congrArg Prod.snd heq)
      rw [List.mem_cons, List.mem_erase_of_ne h₂]
      exact or_iff_right h₁
    refine { hI with count := ?_, held := ?_, pcs := ?_ }
    · intro x kx hx
      rw [hrefs x]
      exact hI.count x kx hx
    · intro t' x hx
      rcases List.mem_cons.mp hx with heq | hx
      · cases heq
        exact hI.held t c hmem
      · exact hI.held t' x (List.mem_of_mem_erase hx)
    · exact fun t' => htouch.pcOk (hI.not_owned_of_held ht hmem) (hI.pcs t')
  · cases h

/-- The end of the deletion code: the memory is freed. -/
theorem inv_free (hI : Inv s) (h : next s (.free t) = some s') : Inv s' := by
  simp only [next] at h
  split at h
  · rename_i c ht
    obtain ⟨k, hk, rfl⟩ := Option.map_eq_some_iff.mp h
    have hpc := hI.pcs t
    rw [ht] at hpc
    obtain ⟨⟨k', hk', -, hzero⟩, hun⟩ := hpc
    rw [hk] at hk'
    cases hk'
    have hcount := hI.count c k hk
    refine hI.of_countStep (touchesOnly_setConn hk rfl) (State.conns_setConn_self _ _ _) hcount ?_ ?_ ?_ ?_
      trivial (fun x hx => nomatch hx) (by rw [ht]; rfl) (fun hx => nomatch hx) (fun hx => nomatch hx)
    · refine fun _ => ⟨?_, hun⟩
      intro t' hmem
      have hpos := State.refs_pos (s := s) hmem
      omega
    · exact hI.deletions c k hk
    · intro hpos
      have hpos' : 1 ≤ k.referenceCount := hpos
      omega
    · intro t' hne ho
      exact hne (hI.unique t' t c ho (by rw [ht]; rfl))
  · cases h

/-- A new connection: its creator holds the only reference and waits for the registry's lock. -/
theorem inv_create {address : LoadAddress} (hI : Inv s) (h : next s (.create t c address) = some s') :
    Inv s' := by
  simp only [next] at h
  split at h
  · rename_i hcond
    obtain ⟨ht, hc⟩ := hcond
    cases h
    have hnoheld : ∀ t', (t', c) ∉ s.held := by
      intro t' hmem
      obtain ⟨k, hk, -⟩ := hI.held t' c hmem
      rw [hc] at hk
      cases hk
    have hun : s.Unregistered c := by
      intro a htab
      obtain ⟨k, hk, -⟩ := hI.table a c htab
      rw [hc] at hk
      cases hk
    have hothers : ∀ t', (s.threads t').owned ≠ some c := by
      intro t' ho
      rcases (hI.pcs t').owned ho with ⟨⟨k, hk, -⟩, -⟩ | ⟨⟨k, hk, -⟩, -⟩ <;>
        · rw [hc] at hk
          cases hk
    let k : Connection :=
      { driverLoadAddress := address, referenceCount := 1, freed := false, deletions := 0 }
    let s₁ : State := { s with held := (t, c) :: s.held }.setConn c k
    have htouch : TouchesOnly s s₁ c := by
      refine ⟨rfl, rfl, rfl, rfl, ?_, ?_, ?_, ?_⟩
      · exact fun c' hne => by simp [s₁, State.setConn, hne]
      · intro k₀ h₀
        rw [hc] at h₀
        cases h₀
      · exact fun t' c' hne => by simp [s₁, State.setConn, hne]
      · intro c' hne
        have hb : (c == c') = false := beq_eq_false_iff_ne.mpr (Ne.symm hne)
        simp [s₁, State.refs, State.setConn, hb]
    have hfresh : s₁.Fresh t c := by
      refine ⟨k, State.conns_setConn_self _ _ _, rfl, hun, ?_⟩
      intro t' hmem
      rcases List.mem_cons.mp hmem with heq | hmem
      · exact congrArg Prod.fst heq
      · exact absurd hmem (hnoheld t')
    have hcount : (1 : Int) = s₁.refs c := by
      have hzero := State.refs_eq_zero hnoheld
      simp only [State.refs] at hzero
      simp [s₁, State.refs, State.setConn, hzero]
    have hstep : Inv (s₁.setPc t (.registerWaiting c)) :=
      hI.of_countStep htouch (State.conns_setConn_self _ _ _) hcount (fun hf => nomatch hf) rfl
        (fun _ hr => absurd rfl hr) (fun t' _ => hothers t') hfresh (fun x hx => by cases hx; rfl)
        (by rw [ht]; rfl) (fun hx => nomatch hx) (fun hx => nomatch hx)
    have hthread : (s₁.setPc t (.registerWaiting c)).threads t = .registerWaiting c := by
      rw [State.threads_setPc, if_pos rfl]
    have hfresh' : (s₁.setPc t (.registerWaiting c)).PcOk t (.registerWaiting c) := hfresh
    have hlock := hstep.of_request hfresh' (by rw [hthread]) (by rw [hthread]) rfl rfl
    have htwice : ({ s₁.setPc t (.registerWaiting c) with
        lock := (s₁.setPc t (.registerWaiting c)).lock.request t }.setPc t (.registerWaiting c))
          = { s₁ with lock := s.lock.request t }.setPc t (.registerWaiting c) := by
      simp [State.setPc, s₁, State.setConn]
    exact htwice ▸ hlock
  · cases h

end Counting

/-! ## Steps that change the table -/

section TableSteps

variable {s s' : State} {t t' : ThreadId} {c : ConnId}

/-- A new table keeps the entries of all connections but `c`, and makes none of them new. -/
structure KeepsOthers (s : State) (table' : LoadAddress → Option ConnId) (c : ConnId) : Prop where
  entries : ∀ address x, x ≠ c → s.table address = some x → table' address = some x
  absent  : ∀ x, x ≠ c → s.Unregistered x → ∀ address, table' address ≠ some x

/-- Threads that do not read the table and do not own `c` keep what they rely on. -/
theorem State.PcOk.of_keepsOthers {table' : LoadAddress → Option ConnId} {pc : Pc} (h : s.PcOk t' pc)
    (hsh : pc.shares = false) (ho : pc.owned ≠ some c) (hkeep : KeepsOthers s table' c) :
    ({ s with table := table' }).PcOk t' pc := by
  have hne : ∀ x, pc.owned = some x → x ≠ c := fun x hx heq => ho (heq ▸ hx)
  have hfresh : ∀ x, x ≠ c → s.Fresh t' x → ({ s with table := table' }).Fresh t' x := by
    rintro x hx ⟨k, hk, hfreed, hun, honly⟩
    exact ⟨k, hk, hfreed, hkeep.absent x hx hun, honly⟩
  have hreg : ∀ x, x ≠ c → s.Registered x → ({ s with table := table' }).Registered x := by
    rintro x hx ⟨k, hk, htab⟩
    exact ⟨k, hk, hkeep.entries _ x hx htab⟩
  cases pc with
  | idle => trivial
  | lookupLocked address => trivial
  | lookupDone => trivial
  | registerDone => trivial
  | lookupFound x => cases hsh
  | registerWaiting x => exact hfresh x (hne x rfl) h
  | registerLocked x => exact hfresh x (hne x rfl) h
  | dying x => exact ⟨h.1, hreg x (hne x rfl) h.2⟩
  | unregisterWaiting x => exact ⟨h.1, hreg x (hne x rfl) h.2⟩
  | unregisterLocked x => exact ⟨h.1, hreg x (hne x rfl) h.2⟩
  | unregisterRemoved x => exact ⟨h.1, hkeep.absent x (hne x rfl) h.2⟩
  | unregistered x => exact ⟨h.1, hkeep.absent x (hne x rfl) h.2⟩

/-- The exclusive owner of the lock changes the table on behalf of its connection `c`, and moves to a point
    where it owns at most `c`. -/
theorem Inv.of_tableStep {pc : Pc} {table' : LoadAddress → Option ConnId} (hI : Inv s)
    (hex : (s.threads t).excludes = true) (ho : (s.threads t).owned = some c) (hkeep : KeepsOthers s table' c)
    (htable : ∀ address x, table' address = some x →
      ∃ k, s.conns x = some k ∧ k.driverLoadAddress = address ∧ k.freed = false)
    (hlive : ∀ k, s.conns c = some k → 1 ≤ k.referenceCount → table' k.driverLoadAddress = some c)
    (hpc : ({ s with table := table' }).PcOk t pc) (hsh : pc.shares = false)
    (howned : ∀ x, pc.owned = some x → x = c) : Inv ({ s with table := table' }.setPc t pc) := by
  have howner := hI.excludes t hex
  have hnoshare : ∀ t', (s.threads t').shares = false := by
    intro t'
    by_contra hs
    exact RwLock.not_mem_shared howner (hI.shares t' (by simpa using hs))
  have hothers : ∀ t', t' ≠ t → (s.threads t').owned ≠ some c :=
    fun t' hne h => hne (hI.unique t' t c h ho)
  refine ⟨hI.count, hI.held, htable, ?_, ?_, ?_, ?_, ?_, hI.deletions, hI.evicted⟩
  · -- shares
    refine State.forall_setPc (P := fun t' pc' => pc'.shares = true → t' ∈ s.lock.shared) ?_ ?_
    · intro hs
      rw [hsh] at hs
      cases hs
    · exact fun t' _ => hI.shares t'
  · -- excludes
    refine State.forall_setPc (P := fun t' pc' => pc'.excludes = true → s.lock.exclusive = some t') ?_ ?_
    · exact fun _ => howner
    · exact fun t' _ => hI.excludes t'
  · -- what the threads rely on
    refine State.forall_setPc (P := fun t' pc' => ({ s with table := table' }).PcOk t' pc') hpc ?_
    exact fun t' hne => (hI.pcs t').of_keepsOthers (hnoshare t') (hothers t' hne) hkeep
  · -- unique
    have hall : ∀ t' x, ((s.setPc t pc).threads t').owned = some x → (s.threads t').owned = some x := by
      refine State.forall_setPc (P := fun t' pc' => ∀ x, pc'.owned = some x → (s.threads t').owned = some x)
        ?_ (fun t' _ x h => h)
      intro x hx
      rw [howned x hx]
      exact ho
    intro t₁ t₂ x h₁ h₂
    exact hI.unique t₁ t₂ x (hall t₁ x h₁) (hall t₂ x h₂)
  · -- registered
    intro x k hx hl hno
    by_cases hxc : x = c
    · subst hxc
      exact hlive k hx hl
    · refine hkeep.entries _ x hxc (hI.registered x k hx hl ?_)
      intro t' hr
      by_cases hne : t' = t
      · subst hne
        rw [Pc.owned_of_registering hr] at ho
        exact hxc (Option.some.inj ho)
      · refine hno t' ?_
        rw [State.threads_setPc, if_neg hne]
        exact hr

/-- The registration of a new connection at an address that is free. -/
theorem inv_registerPut (hI : Inv s) (hC : Orderly s (.registerPut t))
    (h : next s (.registerPut t) = some s') : Inv s' := by
  simp only [next] at h
  split at h
  · rename_i c ht
    obtain ⟨k, hk, rfl⟩ := Option.map_eq_some_iff.mp h
    have hfree : s.table k.driverLoadAddress = none := hC c k ht hk
    have hpc := hI.pcs t
    rw [ht] at hpc
    obtain ⟨k', hk', hnot, -, -⟩ := hpc
    rw [hk] at hk'
    cases hk'
    refine hI.of_tableStep (by rw [ht]; rfl) (by rw [ht]; rfl) ⟨?_, ?_⟩ ?_ ?_ trivial rfl
      (fun x hx => nomatch hx)
    · -- the entry was free, so whatever is in the table stays where it is
      intro a x _ htab
      have hne : a ≠ k.driverLoadAddress := by
        intro ha
        rw [ha, hfree] at htab
        cases htab
      rw [Function.update_of_ne hne]
      exact htab
    · intro x hx hu a
      rw [Function.update_apply]
      split
      · exact fun heq => hx (Option.some.inj heq).symm
      · exact hu a
    · intro a x htab
      rw [Function.update_apply] at htab
      split at htab
      · rename_i ha
        cases htab
        exact ⟨k, hk, ha.symm, hnot⟩
      · exact hI.table a x htab
    · intro k' hk' _
      rw [hk] at hk'
      cases hk'
      exact Function.update_self ..
  · cases h

/-- The unregistration of a dead connection: it is its own entry that is removed. -/
theorem inv_unregisterRemove (hI : Inv s) (h : next s (.unregisterRemove t) = some s') : Inv s' := by
  simp only [next] at h
  split at h
  · rename_i c ht
    obtain ⟨k, hk, rfl⟩ := Option.map_eq_some_iff.mp h
    have hpc := hI.pcs t
    rw [ht] at hpc
    obtain ⟨⟨kd, hkd, hnot, hzero⟩, kr, hkr, htab⟩ := hpc
    rw [hk] at hkd hkr
    cases hkd
    cases hkr
    have hnone : s.evictedBy c k.driverLoadAddress = [] := by
      simp [State.evictedBy, htab, hk]
    rw [hnone, List.nil_append]
    refine hI.of_tableStep (by rw [ht]; rfl) (by rw [ht]; rfl) ⟨?_, ?_⟩ ?_ ?_ ⟨⟨k, hk, hnot, hzero⟩, ?_⟩ rfl
      (fun x hx => (Option.some.inj hx).symm)
    · intro a x hx hax
      have hne : a ≠ k.driverLoadAddress := by
        intro ha
        rw [ha, htab] at hax
        exact hx (Option.some.inj hax).symm
      rw [Function.update_of_ne hne]
      exact hax
    · intro x _ hu a
      rw [Function.update_apply]
      split
      · exact fun heq => nomatch heq
      · exact hu a
    · intro a x hax
      rw [Function.update_apply] at hax
      split at hax
      · cases hax
      · exact hI.table a x hax
    · -- a dead connection need not be in the table
      intro k' hk' hl
      rw [hk] at hk'
      cases hk'
      omega
    · intro a
      show Function.update s.table k.driverLoadAddress none a ≠ some c
      rw [Function.update_apply]
      split
      · exact fun heq => nomatch heq
      · rename_i hne
        intro hac
        obtain ⟨kc, hkc, haddr, -⟩ := hI.table a c hac
        rw [hk] at hkc
        cases hkc
        exact hne haddr.symm
  · cases h

end TableSteps

/-! ## Runs -/

/-- **One step of an orderly run keeps the invariant.** -/
theorem inv_next {s s' : State} {a : Action} (hI : Inv s) (hC : Orderly s a) (h : next s a = some s') :
    Inv s' := by
  cases a with
  | lookupAcquire t address => exact inv_lookupAcquire hI h
  | lookupFind t => exact inv_lookupFind hI h
  | lookupReference t => exact inv_lookupReference hI hC h
  | lookupRelease t => exact inv_lookupRelease hI h
  | reference t c => exact inv_reference hI h
  | dereference t c => exact inv_dereference hI h
  | handOver t u c => exact inv_handOver hI h
  | unregisterRequest t => exact inv_unregisterRequest hI h
  | unregisterAcquire t => exact inv_unregisterAcquire hI h
  | unregisterRemove t => exact inv_unregisterRemove hI h
  | unregisterRelease t => exact inv_unregisterRelease hI h
  | free t => exact inv_free hI h
  | create t c address => exact inv_create hI h
  | registerAcquire t => exact inv_registerAcquire hI h
  | registerPut t => exact inv_registerPut hI hC h
  | registerRelease t => exact inv_registerRelease hI h

theorem registryOk_of_inv {s : State} (hI : Inv s) : RegistryOk s where
  held t c h := by
    obtain ⟨k, hk, hf⟩ := hI.held t c h
    exact ⟨k, hk, hI.held_live h hk, hf⟩
  deletions := hI.deletions
  freed c k hk hf := by
    have hd := hI.deletions c k hk
    rw [hI.freed_dead hk hf] at hd
    exact hd
  evicted := hI.evicted

/-- **The registry keeps its promise in every orderly run.** -/
theorem registryOk_run (as : List Action) {s : State} (hm : Meets next Orderly .initialized as)
    (hr : run next .initialized as = some s) : RegistryOk s :=
  registryOk_of_inv (run_induction (fun _ _ _ hI hC h => inv_next hI hC h) inv_initialized hm hr)

/-- A driver registers, is looked up, unloads on another thread, and is deleted by the last holder. -/
def orderlyLife : List Action :=
  [.create 0 0 16, .registerAcquire 0, .registerPut 0, .registerRelease 0, .lookupAcquire 1 16, .lookupFind 1,
    .lookupReference 1, .lookupRelease 1, .handOver 0 2 0, .dereference 2 0, .dereference 1 0,
    .unregisterRequest 1, .unregisterAcquire 1, .unregisterRemove 1, .unregisterRelease 1, .free 1]

theorem registryOk_orderlyLife : ∃ s, run next .initialized orderlyLife = some s ∧ RegistryOk s := by
  have hm : Meets next Orderly .initialized orderlyLife := by
    -- the registration at a free address
    refine .cons rfl trivial (.cons rfl trivial (.cons rfl ?_ (.cons rfl trivial ?_)))
    · intro c k hp hk
      cases hp
      cases hk
      rfl
    -- the lookup of a live connection
    refine .cons rfl trivial (.cons rfl trivial (.cons rfl ?_ (.cons rfl trivial ?_)))
    · intro c k hp hk
      cases hp
      cases hk
      decide
    refine .cons rfl trivial (.cons rfl trivial (.cons rfl trivial (.cons rfl trivial ?_)))
    exact .cons rfl trivial (.cons rfl trivial (.cons rfl trivial (.cons rfl trivial trivial)))
  exact ⟨_, rfl, registryOk_run orderlyLife hm rfl⟩

/-- A lookup that finds a connection just before its last reference is given back. -/
def lookupOfDying : List Action :=
  [.create 0 0 16, .registerAcquire 0, .registerPut 0, .registerRelease 0, .lookupAcquire 1 16, .lookupFind 1,
    .dereference 0 0, .lookupReference 1, .lookupRelease 1, .unregisterRequest 0, .unregisterAcquire 0,
    .unregisterRemove 0, .unregisterRelease 0, .free 0]

/-- A driver unloads while a request still holds its connection, and another driver is loaded at the same
    address before the request gives the connection back. -/
def reloadAtAddress : List Action :=
  [.create 0 0 16, .registerAcquire 0, .registerPut 0, .registerRelease 0, .lookupAcquire 2 16, .lookupFind 2,
    .lookupReference 2, .lookupRelease 2, .dereference 0 0, .create 1 1 16, .registerAcquire 1, .registerPut 1,
    .registerRelease 1, .dereference 2 0, .unregisterRequest 2, .unregisterAcquire 2, .unregisterRemove 2]

/-- A lookup can hand out a connection that is then freed, and an unregistration can remove the entry of
    another, live connection. -/
theorem registry_broken :
    (∃ s, run next .initialized lookupOfDying = some s ∧ ¬ RegistryOk s) ∧
    ∃ s, run next .initialized reloadAtAddress = some s ∧ ¬ RegistryOk s := by
  constructor
  · refine ⟨_, rfl, fun h => ?_⟩
    obtain ⟨k, hk, -, hf⟩ := h.held 1 0 (by decide)
    cases hk
    cases hf
  · refine ⟨_, rfl, fun h => ?_⟩
    cases h.evicted

end Cfix.Registry
