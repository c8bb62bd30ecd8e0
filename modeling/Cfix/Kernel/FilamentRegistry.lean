import Cfix.Jpht.Refinement
import Cfix.Kernel.FilamentTable
import Cfix.Lib.Critical

/-!
# `Kernel.FilamentRegistry` — the registry of current filaments, in the reflector (`cfixkr/filament.c`)

The registry is a hashtable under a spin lock. A thread allocates its entry before it takes the lock, and reads or
frees the entry that it was given after it has released the lock. Every thread uses the registry like storage of its
own, although all of them share the table and the pool: this is what `Kernel.FilamentTable` takes for granted.
-/

namespace Cfix.FilamentRegistry

open Critical
open Cfix.Events (Width)
open Cfix.Jpht (Hashtable Routines Represents lookup putEntryHashtable getEntryHashtable removeEntryHashtable)
open Cfix.Unload (NTSTATUS statusSuccess cfixMaxThreads)
open Cfix.ThreadObjects (statusNoMemory statusAllottedSpaceExceeded)
open Cfix.FilamentTable (FilamentId)

/-! ## Data -/

/-- A `PRKTHREAD`. -/
abbrev KThread (w : Width) := BitVec w.bits

/-- `CFIXKRP_FILAMENT_ENTRY`, with its address. -/
structure FilamentEntry (w : Width) where
  address  : Nat
  thread   : KThread w
  filament : FilamentId
  deriving DecidableEq, Repr

/-- `CfixkrsHashFilamentEntry` and `CfixkrsEqualsFilamentEntry`. -/
def filamentRoutines (w : Width) : Routines (FilamentEntry w) (KThread w) where
  hash key       := key.setWidth 32
  equals lhs rhs := lhs == rhs
  key e          := e.thread

/-- What is not under the lock: the entries that are allocated, each at a new address, and `ChildThreads.Threads` of
    each filament, which has a mutex of its own. -/
structure Shared (w : Width) where
  pool         : Finset (FilamentEntry w)
  nextAddress  : Nat
  childThreads : FilamentId → List (KThread w)

/-- A call of the current thread. `memory` says whether an entry can be allocated. -/
inductive Call where
  | setCurrentFilament (filament : FilamentId) (memory : Bool)
  | resetCurrentFilament
  | getCurrentFilament
  deriving DecidableEq, Repr

/-- Why the machine stops. -/
inductive Fault where
  | table (f : Jpht.Fault)
  /-- `ExFreePoolWithTag( NULL, … )`. -/
  | nullEntry
  /-- An entry is read or freed that is not allocated. -/
  | freedEntry
  deriving DecidableEq, Repr

/-- What a call returns. -/
inductive Outcome where
  | status (status : NTSTATUS)
  | reset
  | filament (filament : Option FilamentId)
  deriving DecidableEq, Repr

/-- A call of the table. -/
inductive TableCall (w : Width) where
  | put (entry : FilamentEntry w)
  | remove (key : KThread w)
  | get (key : KThread w)
  deriving DecidableEq, Repr

/-- `JphtPutEntryHashtable`, `JphtRemoveEntryHashtable` and `JphtGetEntryHashtable`. -/
def TableCall.run {w : Width} (fuel : Nat) (t : Hashtable (FilamentEntry w)) :
    TableCall w → Except Jpht.Fault (Hashtable (FilamentEntry w) × Option (FilamentEntry w))
  | .put entry  => putEntryHashtable (filamentRoutines w) fuel entry t
  | .remove key => removeEntryHashtable (filamentRoutines w) fuel key t
  | .get key    => (getEntryHashtable (filamentRoutines w) fuel key t).map fun e => (t, e)

/-- Where a thread stands while it holds the lock: the table is read at the beginning, and written at the end. -/
inductive LockPc (w : Width) where
  | locked (op : TableCall w)
  | working (op : TableCall w) (r : Except Jpht.Fault (Hashtable (FilamentEntry w) × Option (FilamentEntry w)))
  | unlocking (op : TableCall w) (r : Except Jpht.Fault (Option (FilamentEntry w)))

/-- `CfixkrpInitializeFilamentRegistry`. -/
def initializeFilamentRegistry (w : Width) (memory : Bool) (links : LinkedList.Links (Jpht.Link (FilamentEntry w)))
    (block : Nat) : Except Jpht.Fault (Except NTSTATUS (Hashtable (FilamentEntry w))) := do
  let table ← Jpht.initializeHashtable w 31#32 memory links block
  match table with
  | none       => .ok (.error statusNoMemory)
  | some table => .ok (.ok table)

/-! ## Calls -/

section Calls

variable {w : Width} (threadId : KThread w → BitVec 32) (mainThreadId : FilamentId → BitVec 32) (fuel : Nat)

/-- `CfixkrpSetCurrentFilament` up to the lock, with `CfixkrsRegisterChildThreadFilament`. -/
def allocateEntry (t : KThread w) (filament : FilamentId) (memory : Bool) (s : Shared w) :
    (Except Fault Outcome ⊕ LockPc w) × Shared w :=
  if !memory then (.inl (.ok (.status statusNoMemory)), s)
  else
    let entry : FilamentEntry w := { address := s.nextAddress, thread := t, filament := filament }
    let s := { s with pool := insert entry s.pool, nextAddress := s.nextAddress + 1 }
    if threadId t ≠ mainThreadId filament then
      if (s.childThreads filament).length = cfixMaxThreads then
        (.inl (.ok (.status statusAllottedSpaceExceeded)), { s with pool := s.pool.erase entry })
      else
        (.inr (.locked (.put entry)),
          { s with childThreads := Function.update s.childThreads filament (s.childThreads filament ++ [t]) })
    else (.inr (.locked (.put entry)), s)

/-- A call up to the lock. -/
def enter (t : KThread w) (c : Call) (s : Shared w) : (Except Fault Outcome ⊕ LockPc w) × Shared w :=
  match c with
  | .setCurrentFilament filament memory => allocateEntry threadId mainThreadId t filament memory s
  | .resetCurrentFilament               => (.inr (.locked (.remove t)), s)
  | .getCurrentFilament                 => (.inr (.locked (.get t)), s)

/-- What a thread does while it holds the lock. -/
def lockMove : LockPc w → Hashtable (FilamentEntry w) → Option (LockPc w × Hashtable (FilamentEntry w))
  | .locked op,     table => some (.working op (op.run fuel table), table)
  | .working op r,  table =>
    match r with
    | .ok (table', e) => some (.unlocking op (.ok e), table')
    | .error f        => some (.unlocking op (.error f), table)
  | .unlocking _ _, _     => none

/-- What a thread does with the entry that it was given. -/
def useEntry (op : TableCall w) (e : Option (FilamentEntry w)) (s : Shared w) : Except Fault Outcome × Shared w :=
  match op, e with
  -- an old entry is dropped
  | .put _,    _      => (.ok (.status statusSuccess), s)
  | .remove _, none   => (.error .nullEntry, s)
  | .remove _, some e => if e ∈ s.pool then (.ok .reset, { s with pool := s.pool.erase e }) else (.error .freedEntry, s)
  | .get _,    none   => (.ok (.filament none), s)
  | .get _,    some e => if e ∈ s.pool then (.ok (.filament (some e.filament)), s) else (.error .freedEntry, s)

/-- A call after the lock. -/
def leave : LockPc w → Shared w → Except Fault Outcome × Shared w
  | .unlocking op (.ok e), s            => useEntry op e s
  | .unlocking _ (.error f), s          => (.error (.table f), s)
  -- the lock is not released there
  | .locked _, s | .working _ _, s      => (.error (.table .wildAccess), s)

/-- **`CfixkrpSetCurrentFilament`, `CfixkrpResetCurrentFilament` and `CfixkrpGetCurrentFilament`**. -/
def registry : Guarded (KThread w) Call (Shared w) (Hashtable (FilamentEntry w)) (LockPc w) (Except Fault Outcome) where
  enter := enter threadId mainThreadId
  move  := lockMove fuel
  leave := leave

end Calls

/-! ## Storage of a thread -/

section Storage

variable {w : Width}

/-- The calls that a thread has made, with their outcomes. -/
abbrev Log := List (Call × Except Fault Outcome)

/-- The current filament after a call. -/
def filamentAfter (current : Option FilamentId) (c : Call) (r : Except Fault Outcome) : Option FilamentId :=
  match c with
  | .setCurrentFilament filament _ => if r = .ok (.status statusSuccess) then some filament else current
  | .resetCurrentFilament          => none
  | .getCurrentFilament            => current

/-- **The current filament of a thread**, which depends on its own calls alone. -/
def currentFilament (log : Log) : Option FilamentId := log.foldl (fun current c => filamentAfter current c.1 c.2) none

/-- What a call returns where this is the current filament of the thread. A child thread is registered with the filament
    that it sets, or refused because the list is full. -/
def Returns (threadId : KThread w → BitVec 32) (mainThreadId : FilamentId → BitVec 32)
    (childThreads : FilamentId → List (KThread w)) (t : KThread w) (current : Option FilamentId)
    (r : Except Fault Outcome) : Call → Prop
  | .setCurrentFilament filament memory =>
    memory = true ∧ (threadId t ≠ mainThreadId filament → t ∈ childThreads filament) ∧
        r = .ok (.status statusSuccess) ∨
      memory = false ∧ r = .ok (.status statusNoMemory) ∨
      memory = true ∧ threadId t ≠ mainThreadId filament ∧ (childThreads filament).length = cfixMaxThreads ∧
        r = .ok (.status statusAllottedSpaceExceeded)
  | .resetCurrentFilament               => r = .ok .reset
  | .getCurrentFilament                 => r = .ok (.filament current)

/-- Each call returns what it has to, with regard to those before it. -/
def Log.IsStorage (threadId : KThread w → BitVec 32) (mainThreadId : FilamentId → BitVec 32)
    (childThreads : FilamentId → List (KThread w)) (t : KThread w) (log : Log) : Prop :=
  ∀ before c r, before ++ [(c, r)] <+: log → Returns threadId mainThreadId childThreads t (currentFilament before) r c

/-- How often this filament has been set. -/
def Log.settings (filament : FilamentId) (log : Log) : Nat :=
  log.count (.setCurrentFilament filament true, .ok (.status statusSuccess))

/-- How often a thread sets this filament where it stands. -/
def settingsUnderWay (filament : FilamentId) : Stage Call (LockPc w) → Nat
  | .idle                                      => 0
  | .waiting c _ | .inside c _ | .left c _ => if c = .setCurrentFilament filament true then 1 else 0

/-- A thread is in the list of a filament as often as it has set it, or is about to, unless it is the main thread. -/
def Registered (threadId : KThread w → BitVec 32) (mainThreadId : FilamentId → BitVec 32)
    (childThreads : FilamentId → List (KThread w)) (t : KThread w) (log : Log) (stage : Stage Call (LockPc w)) : Prop :=
  ∀ f, (childThreads f).count t =
    if threadId t = mainThreadId f then 0 else log.settings f + settingsUnderWay f stage

/-- No filament is set in place of another one. -/
def Log.NoRecursion (log : Log) : Prop :=
  ∀ before filament memory, before ++ [(.setCurrentFilament filament memory, .ok (.status statusSuccess))] <+: log →
    currentFilament before = none

/-- The calls of one thread, among all that have returned. -/
def ownLog (t : KThread w) (returned : List (KThread w × Call × Except Fault Outcome)) : Log :=
  (returned.filter fun c => c.1 = t).map Prod.snd

theorem ownLog_append_self (t : KThread w) (returned : List (KThread w × Call × Except Fault Outcome)) (c : Call)
    (r : Except Fault Outcome) : ownLog t (returned ++ [(t, c, r)]) = ownLog t returned ++ [(c, r)] := by simp [ownLog]

theorem ownLog_append_of_ne {t u : KThread w} (h : u ≠ t) (returned : List (KThread w × Call × Except Fault Outcome))
    (c : Call) (r : Except Fault Outcome) : ownLog u (returned ++ [(t, c, r)]) = ownLog u returned := by
  simp [ownLog, h.symm]

theorem currentFilament_append (log : Log) (c : Call) (r : Except Fault Outcome) :
    currentFilament (log ++ [(c, r)]) = filamentAfter (currentFilament log) c r := by simp [currentFilament]

theorem Log.settings_append (filament : FilamentId) (log : Log) (c : Call) (r : Except Fault Outcome) :
    Log.settings filament (log ++ [(c, r)]) = log.settings filament +
      if c = .setCurrentFilament filament true ∧ r = .ok (.status statusSuccess) then 1 else 0 := by
  simp [Log.settings, List.count_append, List.count_singleton, Prod.ext_iff]

section Growth

variable {threadId : KThread w → BitVec 32} {mainThreadId : FilamentId → BitVec 32}
  {childThreads childThreads' : FilamentId → List (KThread w)} {t : KThread w}

/-- Lists that grow, and do not get too long, keep what a call has to return. -/
theorem Returns.mono (hgrow : ∀ f, childThreads f <+: childThreads' f)
    (hroom : ∀ f, (childThreads' f).length ≤ cfixMaxThreads) {current : Option FilamentId} {r : Except Fault Outcome}
    {c : Call} (h : Returns threadId mainThreadId childThreads t current r c) :
    Returns threadId mainThreadId childThreads' t current r c := by
  cases c with
  | setCurrentFilament filament memory =>
      rcases h with ⟨hmemory, hchild, hr⟩ | h | ⟨hmemory, hchild, hfull, hr⟩
      · exact .inl ⟨hmemory, fun hne => (hgrow filament).subset (hchild hne), hr⟩
      · exact .inr (.inl h)
      · refine .inr (.inr ⟨hmemory, hchild, ?_, hr⟩)
        have hle := (hgrow filament).length_le
        have hmax := hroom filament
        omega
  | resetCurrentFilament => exact h
  | getCurrentFilament   => exact h

theorem Log.IsStorage.mono (hgrow : ∀ f, childThreads f <+: childThreads' f)
    (hroom : ∀ f, (childThreads' f).length ≤ cfixMaxThreads) {log : Log}
    (h : log.IsStorage threadId mainThreadId childThreads t) : log.IsStorage threadId mainThreadId childThreads' t :=
  fun before c r hbefore => (h before c r hbefore).mono hgrow hroom

theorem Log.IsStorage.append {log : Log} (h : log.IsStorage threadId mainThreadId childThreads t) {c : Call}
    {r : Except Fault Outcome} (hreturns : Returns threadId mainThreadId childThreads t (currentFilament log) r c) :
    Log.IsStorage threadId mainThreadId childThreads t (log ++ [(c, r)]) := by
  intro before c' r' hbefore
  rcases List.prefix_concat_iff.mp hbefore with heq | hbefore
  · obtain ⟨hlog, hlast⟩ := List.append_inj' heq rfl
    subst hlog
    cases hlast
    exact hreturns
  · exact h before c' r' hbefore

/-- A registered thread that has set the filament, or is about to, is in its list. -/
theorem Registered.mem {log : Log} {stage : Stage Call (LockPc w)} {filament : FilamentId}
    (h : Registered threadId mainThreadId childThreads t log stage) (hchild : threadId t ≠ mainThreadId filament)
    (hsets : 0 < log.settings filament + settingsUnderWay filament stage) : t ∈ childThreads filament := by
  have hcount := h filament
  rw [if_neg hchild] at hcount
  exact List.count_pos_iff.mp (by omega)

end Growth

theorem Log.NoRecursion.of_append {log : Log} {c : Call} {r : Except Fault Outcome}
    (h : Log.NoRecursion (log ++ [(c, r)])) : log.NoRecursion :=
  fun before filament memory hbefore => h before filament memory (hbefore.trans (List.prefix_append ..))

end Storage

/-! ## The table -/

section Table

variable {w : Width} {fuel : Nat} {t : Hashtable (FilamentEntry w)} {m : KThread w → Option (FilamentEntry w)}

/-- The table holds the entries of these threads. -/
def IsTable (t : Hashtable (FilamentEntry w)) (m : KThread w → Option (FilamentEntry w)) : Prop :=
  ∃ lists, Represents (filamentRoutines w) t lists ∧ lookup (filamentRoutines w) t lists = m

theorem filamentRoutines_lawful : (filamentRoutines w).Lawful where
  refl a          := by simp [filamentRoutines]
  symm a b        := by
    simp only [filamentRoutines, beq_iff_eq]
    exact Eq.symm
  trans a b c     := by
    simp only [filamentRoutines, beq_iff_eq]
    exact Eq.trans
  hash_eq a b h   := by
    simp only [filamentRoutines, beq_iff_eq] at h ⊢
    rw [h]

/-- **There are no more entries than threads**, so the lists are short and the counter does not overflow. -/
theorem total_le_card {lists : Nat → List (FilamentEntry w)} (hrep : Represents (filamentRoutines w) t lists)
    {T : Finset (KThread w)} (hT : ∀ k e, lookup (filamentRoutines w) t lists k = some e → k ∈ T) :
    Jpht.total lists t.bucketCount.toNat ≤ T.card := by
  have hpairwise := hrep.pairwise_entriesBefore filamentRoutines_lawful (le_refl _)
  have hnodup : ((Jpht.entriesBefore lists t.bucketCount.toNat).map FilamentEntry.thread).Nodup := by
    rw [List.Nodup, List.pairwise_map]
    refine hpairwise.imp ?_
    intro a b hdistinct
    simpa [Routines.Distinct, filamentRoutines] using hdistinct
  have hsubset : ((Jpht.entriesBefore lists t.bucketCount.toNat).map FilamentEntry.thread).toFinset ⊆ T := by
    intro k hk
    obtain ⟨e, he, rfl⟩ := List.mem_map.mp (List.mem_toFinset.mp hk)
    refine hT _ e ((Jpht.lookup_eq_some filamentRoutines_lawful hrep).mpr ⟨?_, filamentRoutines_lawful.refl _⟩)
    obtain ⟨i, hi, he⟩ := Jpht.mem_entriesBefore.mp he
    exact ⟨i, hi, he⟩
  rw [← Jpht.length_entriesBefore, ← List.length_map (f := FilamentEntry.thread), ← List.toFinset_card_of_nodup hnodup]
  exact Finset.card_le_card hsubset

/-- The entries after a call of the table, and what it returns. -/
def TableCall.effect (m : KThread w → Option (FilamentEntry w)) : TableCall w → KThread w → Option (FilamentEntry w)
  | .put entry  => Function.update m entry.thread (some entry)
  | .remove key => Function.update m key none
  | .get _      => m

def TableCall.result (m : KThread w → Option (FilamentEntry w)) : TableCall w → Option (FilamentEntry w)
  | .put entry               => m entry.thread
  | .remove key | .get key => m key

/-- **A call of the table** reads or writes the entry of one thread. -/
theorem TableCall.run_spec (h : IsTable t m) {T : Finset (KThread w)} (hT : ∀ k e, m k = some e → k ∈ T)
    (hfuel : T.card < fuel) (op : TableCall w) :
    ∃ t', op.run fuel t = .ok (t', op.result m) ∧ IsTable t' (op.effect m) := by
  obtain ⟨lists, hrep, rfl⟩ := h
  have hfuel : Jpht.total lists t.bucketCount.toNat < fuel := lt_of_le_of_lt (total_le_card hrep hT) hfuel
  cases op with
  | put entry =>
      obtain ⟨links, count, hrun, hput, -⟩ := Jpht.putEntryHashtable_spec filamentRoutines_lawful hrep entry hfuel
      refine ⟨_, hrun, _, hput, ?_⟩
      rw [Jpht.lookup_listsPut filamentRoutines_lawful]
      funext k
      by_cases hk : k = entry.thread
      · simp [Jpht.Contents.put, filamentRoutines, TableCall.effect, hk]
      · simp [Jpht.Contents.put, filamentRoutines, TableCall.effect, hk, Ne.symm hk]
  | remove key =>
      obtain ⟨links, count, hrun, hremove⟩ := Jpht.removeEntryHashtable_spec filamentRoutines_lawful hrep key hfuel
      refine ⟨_, hrun, _, hremove, ?_⟩
      rw [Jpht.lookup_listsRemove filamentRoutines_lawful]
      funext k
      by_cases hk : k = key
      · simp [Jpht.Contents.remove, filamentRoutines, TableCall.effect, hk]
      · simp [Jpht.Contents.remove, filamentRoutines, TableCall.effect, hk, Ne.symm hk]
  | get key =>
      refine ⟨t, ?_, lists, hrep, rfl⟩
      rw [TableCall.run, Jpht.getEntryHashtable_spec hrep key hfuel]
      rfl

/-- A table without entries has counted none. -/
theorem IsTable.entryCount (h : IsTable t m) (hempty : ∀ k, m k = none) : t.entryCount = 0#32 := by
  obtain ⟨lists, hrep, rfl⟩ := h
  have htotal := total_le_card hrep (T := ∅) (fun k e hk => by rw [hempty k] at hk; cases hk)
  rw [hrep.counted, Nat.le_zero.mp htotal]

end Table

/-! ## The invariant -/

section Invariant

variable {w : Width} (threadId : KThread w → BitVec 32) (mainThreadId : FilamentId → BitVec 32) (fuel : Nat)

/-- The registry with its threads. -/
abbrev System (w : Width) :=
  State (KThread w) Call (Shared w) (Hashtable (FilamentEntry w)) (LockPc w) (Except Fault Outcome)

/-- The entry that a thread has in hand, and that is not in the table. -/
def inHand : Stage Call (LockPc w) → Option (FilamentEntry w)
  | .waiting _ (.locked (.put e))               => some e
  | .left _ (.unlocking (.put _) (.ok old))     => old
  | .left _ (.unlocking (.remove _) (.ok e))    => e
  | _                                           => none

/-- Where a thread stands, with its entry in the table and its current filament. -/
inductive Stands (t : KThread w) (entry : Option (FilamentEntry w)) (current : Option FilamentId) :
    Stage Call (LockPc w) → Prop where
  | idle : current = entry.map FilamentEntry.filament → Stands t entry current .idle
  | setting {e : FilamentEntry w} : current = entry.map FilamentEntry.filament → e.thread = t →
      Stands t entry current (.waiting (.setCurrentFilament e.filament true) (.locked (.put e)))
  | resetting : current = entry.map FilamentEntry.filament → current ≠ none →
      Stands t entry current (.waiting .resetCurrentFilament (.locked (.remove t)))
  | getting : current = entry.map FilamentEntry.filament →
      Stands t entry current (.waiting .getCurrentFilament (.locked (.get t)))
  | set {e : FilamentEntry w} {old : Option (FilamentEntry w)} : entry = some e →
      current = old.map FilamentEntry.filament →
      Stands t entry current (.left (.setCurrentFilament e.filament true) (.unlocking (.put e) (.ok old)))
  | reset {e : FilamentEntry w} : entry = none →
      Stands t entry current (.left .resetCurrentFilament (.unlocking (.remove t) (.ok (some e))))
  | got : current = entry.map FilamentEntry.filament →
      Stands t entry current (.left .getCurrentFilament (.unlocking (.get t) (.ok entry)))

/-- **The invariant**: the table has the entry of each thread, and no thread gets at that of another one. -/
structure Inv (T : Finset (KThread w)) (c : System w) (m : KThread w → Option (FilamentEntry w)) : Prop where
  table    : IsTable c.object m
  listed   : ∀ t e, m t = some e → t ∈ T
  active   : ∀ t, c.stage t ≠ .idle → t ∈ T
  stands   : ∀ t, Stands t (m t) (currentFilament (ownLog t c.returned)) (c.stage t)
  storage  : ∀ t, (ownLog t c.returned).IsStorage threadId mainThreadId c.world.childThreads t
  held     : ∀ t e, m t = some e ∨ inHand (c.stage t) = some e → e.thread = t ∧ e ∈ c.world.pool
  fresh    : ∀ e ∈ c.world.pool, e.address < c.world.nextAddress
  /-- Unless a filament was set in place of another one, every entry is somebody's. -/
  owned    : (∀ t, (ownLog t c.returned).NoRecursion) →
    ∀ e ∈ c.world.pool, m e.thread = some e ∨ inHand (c.stage e.thread) = some e
  children : ∀ f, (c.world.childThreads f).length ≤ cfixMaxThreads
  registered : ∀ t, Registered threadId mainThreadId c.world.childThreads t (ownLog t c.returned) (c.stage t)

variable {threadId mainThreadId fuel} {T : Finset (KThread w)} {c c' : System w}
  {m m' : KThread w → Option (FilamentEntry w)}

/-- **Frame rule**: a step of one thread leaves the entries and the calls of the others alone. -/
theorem Inv.frame (h : Inv threadId mainThreadId T c m) {t : KThread w} (ht : t ∈ T) (stage : Stage Call (LockPc w))
    (htable : IsTable c'.object m') (hm : ∀ u, u ≠ t → m' u = m u) (hstage : c'.stage = Function.update c.stage t stage)
    (hlog : ∀ u, u ≠ t → ownLog u c'.returned = ownLog u c.returned)
    (hpool : ∀ e : FilamentEntry w, e.thread ≠ t → (e ∈ c'.world.pool ↔ e ∈ c.world.pool))
    (hstands : Stands t (m' t) (currentFilament (ownLog t c'.returned)) stage)
    (hstorage : (ownLog t c'.returned).IsStorage threadId mainThreadId c'.world.childThreads t)
    (hheld : ∀ e, m' t = some e ∨ inHand stage = some e → e.thread = t ∧ e ∈ c'.world.pool)
    (hfresh : ∀ e ∈ c'.world.pool, e.address < c'.world.nextAddress)
    (hrecursion : (ownLog t c'.returned).NoRecursion → (ownLog t c.returned).NoRecursion)
    (howned : (∀ u, (ownLog u c.returned).NoRecursion) → (ownLog t c'.returned).NoRecursion →
      ∀ e ∈ c'.world.pool, e.thread = t → m' t = some e ∨ inHand stage = some e)
    (hgrow : ∀ f, c.world.childThreads f <+: c'.world.childThreads f)
    (hchildren : ∀ f, (c'.world.childThreads f).length ≤ cfixMaxThreads)
    (hcount : ∀ f u, u ≠ t → (c'.world.childThreads f).count u = (c.world.childThreads f).count u)
    (hregistered : Registered threadId mainThreadId c'.world.childThreads t (ownLog t c'.returned) stage) :
    Inv threadId mainThreadId T c' m' where
  table := htable
  listed u e he := by
    by_cases hut : u = t
    · exact hut ▸ ht
    · exact h.listed u e (by rw [← hm u hut, he])
  active u hu := by
    by_cases hut : u = t
    · exact hut ▸ ht
    · rw [hstage, Function.update_of_ne hut] at hu
      exact h.active u hu
  stands u := by
    rw [hstage]
    by_cases hut : u = t
    · subst hut
      rw [Function.update_self]
      exact hstands
    · rw [Function.update_of_ne hut, hm u hut, hlog u hut]
      exact h.stands u
  storage u := by
    by_cases hut : u = t
    · subst hut
      exact hstorage
    · rw [hlog u hut]
      exact (h.storage u).mono hgrow hchildren
  held u e he := by
    rw [hstage] at he
    by_cases hut : u = t
    · subst hut
      rw [Function.update_self] at he
      exact hheld e he
    · rw [Function.update_of_ne hut, hm u hut] at he
      obtain ⟨hthread, hmem⟩ := h.held u e he
      exact ⟨hthread, (hpool e (hthread ▸ hut)).mpr hmem⟩
  fresh := hfresh
  owned hall e he := by
    have hall' : ∀ u, (ownLog u c.returned).NoRecursion := by
      intro u
      by_cases hut : u = t
      · subst hut
        exact hrecursion (hall u)
      · rw [← hlog u hut]
        exact hall u
    rw [hstage]
    by_cases het : e.thread = t
    · rw [het, Function.update_self]
      exact howned hall' (hall t) e he het
    · rw [Function.update_of_ne het, hm _ het]
      exact h.owned hall' e ((hpool e het).mp he)
  children := hchildren
  registered u := by
    rw [hstage]
    by_cases hut : u = t
    · subst hut
      rw [Function.update_self]
      exact hregistered
    · rw [Function.update_of_ne hut, hlog u hut]
      exact fun f => (hcount f u hut).trans (h.registered u f)

/-- The thread goes on with the entries that it had. -/
theorem Inv.goesOn (h : Inv threadId mainThreadId T c m) {t : KThread w} (ht : t ∈ T) (stage : Stage Call (LockPc w))
    (htable : IsTable c'.object m') (hm : ∀ u, u ≠ t → m' u = m u) (hstage : c'.stage = Function.update c.stage t stage)
    (hworld : c'.world = c.world) (hreturned : c'.returned = c.returned)
    (hstands : Stands t (m' t) (currentFilament (ownLog t c.returned)) stage)
    (hhas : ∀ e, m' t = some e ∨ inHand stage = some e ↔ m t = some e ∨ inHand (c.stage t) = some e)
    (hsets : ∀ f, settingsUnderWay f stage = settingsUnderWay f (c.stage t)) : Inv threadId mainThreadId T c' m' := by
  refine h.frame ht stage htable hm hstage ?_ ?_ ?_ ?_ ?_ ?_ ?_ ?_ ?_ ?_ ?_ ?_
  · exact fun u _ => by rw [hreturned]
  · exact fun e _ => by rw [hworld]
  · rwa [hreturned]
  · rw [hreturned, hworld]
    exact h.storage t
  · intro e he
    rw [hworld]
    exact h.held t e ((hhas e).mp he)
  · rw [hworld]
    exact h.fresh
  · rw [hreturned]
    exact id
  · intro hall _ e he het
    rw [hworld] at he
    subst het
    exact (hhas e).mpr (h.owned hall e he)
  · exact fun f => by rw [hworld]
  · rw [hworld]
    exact h.children
  · exact fun f u _ => by rw [hworld]
  · intro f
    rw [hworld, hreturned, hsets]
    exact h.registered t f

/-- A thread has returned. -/
def finish (c : System w) (s' : Shared w) (t : KThread w) (i : Call) (r : Except Fault Outcome) : System w :=
  { c with world := s', returned := c.returned ++ [(t, i, r)] }.setStage t .idle

/-- The thread returns, and has freed what it does not need any more. -/
theorem Inv.returns (h : Inv threadId mainThreadId T c m) {t : KThread w} (ht : t ∈ T) {i : Call}
    {r : Except Fault Outcome} {s' : Shared w}
    (hreturns : Returns threadId mainThreadId c.world.childThreads t (currentFilament (ownLog t c.returned)) r i)
    (hcurrent : filamentAfter (currentFilament (ownLog t c.returned)) i r = (m t).map FilamentEntry.filament)
    (hsubset : s'.pool ⊆ c.world.pool)
    (hothers : ∀ e ∈ c.world.pool, e.thread ≠ t ∨ m t = some e → e ∈ s'.pool)
    (howned : (∀ u, (ownLog u c.returned).NoRecursion) → Log.NoRecursion (ownLog t c.returned ++ [(i, r)]) →
      ∀ e ∈ s'.pool, e.thread = t → m t = some e)
    (haddress : c.world.nextAddress ≤ s'.nextAddress) (hchildren : s'.childThreads = c.world.childThreads)
    (hsets : ∀ f, settingsUnderWay f (c.stage t) =
      if i = .setCurrentFilament f true ∧ r = .ok (.status statusSuccess) then 1 else 0) :
    Inv threadId mainThreadId T (finish c s' t i r) m := by
  have hlog : ownLog t (c.returned ++ [(t, i, r)]) = ownLog t c.returned ++ [(i, r)] := ownLog_append_self ..
  refine h.frame ht .idle h.table (fun _ _ => rfl) rfl ?_ ?_ ?_ ?_ ?_ ?_ ?_ ?_ ?_ ?_ ?_ ?_
  · exact fun u hu => ownLog_append_of_ne hu ..
  · exact fun e het => ⟨fun he => hsubset he, fun he => hothers e he (.inl het)⟩
  · dsimp only [finish, State.setStage]
    rw [hlog, currentFilament_append]
    exact .idle hcurrent
  · dsimp only [finish, State.setStage]
    rw [hlog, hchildren]
    exact (h.storage t).append hreturns
  · rintro e (he | he)
    · obtain ⟨hthread, hmem⟩ := h.held t e (.inl he)
      exact ⟨hthread, hothers e hmem (.inr he)⟩
    · cases he
  · intro e he
    exact lt_of_lt_of_le (h.fresh e (hsubset he)) haddress
  · dsimp only [finish, State.setStage]
    rw [hlog]
    exact Log.NoRecursion.of_append
  · dsimp only [finish, State.setStage]
    rw [hlog]
    exact fun hall hnew e he het => .inl (howned hall hnew e he het)
  · exact fun f => by dsimp only [finish, State.setStage]; rw [hchildren]
  · dsimp only [finish, State.setStage]
    rw [hchildren]
    exact h.children
  · exact fun f u _ => by dsimp only [finish, State.setStage]; rw [hchildren]
  · intro f
    dsimp only [finish, State.setStage]
    rw [hlog, hchildren, h.registered t f, Log.settings_append, hsets]
    rfl

/-- How a call is rejected before it gets to the lock. -/
theorem enter_inl {t : KThread w} {i : Call} {s s' : Shared w} {r : Except Fault Outcome}
    (hfresh : ∀ e ∈ s.pool, e.address < s.nextAddress) (henter : enter threadId mainThreadId t i s = (.inl r, s')) :
    (∀ current, Returns threadId mainThreadId s.childThreads t current r i ∧ filamentAfter current i r = current) ∧
      r ≠ .ok (.status statusSuccess) ∧ s'.pool = s.pool ∧ s.nextAddress ≤ s'.nextAddress ∧
      s'.childThreads = s.childThreads := by
  cases i with
  | resetCurrentFilament => cases henter
  | getCurrentFilament   => cases henter
  | setCurrentFilament filament memory =>
      simp only [enter, allocateEntry] at henter
      cases memory with
      | false =>
          cases henter
          exact ⟨fun current => ⟨.inr (.inl ⟨rfl, rfl⟩), rfl⟩, by decide, rfl, le_refl _, rfl⟩
      | true =>
          simp only [Bool.not_true, Bool.false_eq_true, if_false] at henter
          split at henter
          · rename_i hchild
            split at henter
            · rename_i hfull
              cases henter
              refine ⟨fun current => ⟨.inr (.inr ⟨rfl, hchild, hfull, rfl⟩), rfl⟩, by decide, ?_, Nat.le_succ _, rfl⟩
              refine Finset.erase_insert ?_
              exact fun hmem => Nat.lt_irrefl _ (hfresh _ hmem)
            · cases henter
          · cases henter

/-- A new entry, and a list of child threads that the thread is added to unless it is the main thread. -/
structure Allocated (threadId : KThread w → BitVec 32) (mainThreadId : FilamentId → BitVec 32) (t : KThread w)
    (filament : FilamentId) (s s' : Shared w) : Prop where
  pool        : s'.pool = insert ⟨s.nextAddress, t, filament⟩ s.pool
  nextAddress : s'.nextAddress = s.nextAddress + 1
  grow        : ∀ f, s.childThreads f <+: s'.childThreads f
  room        : ∀ f, (s'.childThreads f).length ≤ cfixMaxThreads
  others      : ∀ f u, u ≠ t → (s'.childThreads f).count u = (s.childThreads f).count u
  own         : ∀ f, (s'.childThreads f).count t =
    (s.childThreads f).count t + if f = filament ∧ threadId t ≠ mainThreadId f then 1 else 0

/-- How a call gets to the lock. -/
theorem enter_inr {t : KThread w} {i : Call} {s s' : Shared w} {k : LockPc w}
    (hchildren : ∀ f, (s.childThreads f).length ≤ cfixMaxThreads)
    (henter : enter threadId mainThreadId t i s = (.inr k, s')) :
    (∃ filament, i = .setCurrentFilament filament true ∧ k = .locked (.put ⟨s.nextAddress, t, filament⟩) ∧
      Allocated threadId mainThreadId t filament s s') ∨
    i = .resetCurrentFilament ∧ k = .locked (.remove t) ∧ s' = s ∨
    i = .getCurrentFilament ∧ k = .locked (.get t) ∧ s' = s := by
  cases i with
  | resetCurrentFilament =>
      cases henter
      exact .inr (.inl ⟨rfl, rfl, rfl⟩)
  | getCurrentFilament =>
      cases henter
      exact .inr (.inr ⟨rfl, rfl, rfl⟩)
  | setCurrentFilament filament memory =>
      simp only [enter, allocateEntry] at henter
      cases memory with
      | false => cases henter
      | true  =>
          simp only [Bool.not_true, Bool.false_eq_true, if_false] at henter
          split at henter
          · rename_i hchild
            split at henter
            · cases henter
            · rename_i hroom
              cases henter
              refine .inl ⟨filament, rfl, rfl, rfl, rfl, fun f => ?_, fun f => ?_, fun f u hu => ?_, fun f => ?_⟩ <;>
                by_cases hf : f = filament
              · subst hf
                simp only [Function.update_self]
                exact List.prefix_append ..
              · simp only [Function.update_of_ne hf]
                exact List.prefix_rfl
              · subst hf
                have hle := hchildren f
                simp only [Function.update_self, List.length_append, List.length_singleton]
                omega
              · simp only [Function.update_of_ne hf]
                exact hchildren f
              · subst hf
                simp [List.count_append, Ne.symm hu]
              · simp only [Function.update_of_ne hf]
              · subst hf
                simp [List.count_append, hchild]
              · simp [hf]
          · rename_i hmain
            cases henter
            refine .inl
              ⟨filament, rfl, rfl, rfl, rfl, fun _ => List.prefix_rfl, hchildren, fun _ _ _ => rfl, fun f => ?_⟩
            have hnot : ¬ (f = filament ∧ threadId t ≠ mainThreadId f) := by
              rintro ⟨rfl, hne⟩
              exact hmain hne
            show (s.childThreads f).count t = _
            rw [if_neg hnot, Nat.add_zero]

/-- What a thread has done when it is about to release the lock. -/
theorem moves_done {op : TableCall w} {table table' x : Hashtable (FilamentEntry w)} {e : Option (FilamentEntry w)}
    {k : LockPc w} {n : Nat} (hrun : op.run fuel table = .ok (table', e))
    (hmoves : (registry threadId mainThreadId fuel).moves n (.locked op) table = some (k, x))
    (hdone : (registry threadId mainThreadId fuel).move k x = none) : k = .unlocking op (.ok e) ∧ x = table' := by
  have hspec : ∀ n k x, (registry threadId mainThreadId fuel).moves n (.locked op) table = some (k, x) →
      k = .locked op ∧ x = table ∨ k = .working op (.ok (table', e)) ∧ x = table ∨
        k = .unlocking op (.ok e) ∧ x = table' := by
    intro n
    induction n with
    | zero =>
        intro k x h
        cases h
        exact .inl ⟨rfl, rfl⟩
    | succ n ih =>
        intro k x h
        obtain ⟨⟨k₁, x₁⟩, h₁, hmove⟩ := Option.bind_eq_some_iff.mp h
        rcases ih k₁ x₁ h₁ with ⟨rfl, rfl⟩ | ⟨rfl, rfl⟩ | ⟨rfl, rfl⟩
        · simp only [registry, lockMove, hrun, Option.some.injEq, Prod.mk.injEq] at hmove
          exact .inr (.inl ⟨hmove.1.symm, hmove.2.symm⟩)
        · simp only [registry, lockMove, Option.some.injEq, Prod.mk.injEq] at hmove
          exact .inr (.inr ⟨hmove.1.symm, hmove.2.symm⟩)
        · cases hmove
  rcases hspec n k x hmoves with ⟨rfl, rfl⟩ | ⟨rfl, rfl⟩ | hend
  · cases hdone
  · cases hdone
  · exact hend

theorem Stands.of_idle {t : KThread w} {entry : Option (FilamentEntry w)} {current : Option FilamentId}
    (h : Stands t entry current .idle) : current = entry.map FilamentEntry.filament := by
  cases h
  assumption

/-- A thread that stands idle returns at once. -/
theorem Inv.rejected (h : Inv threadId mainThreadId T c m) {t : KThread w} (ht : t ∈ T) (hidle : c.stage t = .idle)
    {i : Call} {r : Except Fault Outcome} {s' : Shared w}
    (henter : enter threadId mainThreadId t i c.world = (.inl r, s')) :
    Inv threadId mainThreadId T { c with world := s', returned := c.returned ++ [(t, i, r)] } m := by
  obtain ⟨hreturns, hfailed, hpool, haddress, hchildren⟩ := enter_inl h.fresh henter
  have hstands := h.stands t
  rw [hidle] at hstands
  have hstage : finish c s' t i r = { c with world := s', returned := c.returned ++ [(t, i, r)] } := by
    simp only [finish, State.setStage, ← hidle, Function.update_eq_self]
  rw [← hstage]
  refine h.returns ht (hreturns _).1 ?_ (by rw [hpool]) (fun e he _ => by rwa [hpool]) ?_ haddress hchildren ?_
  · rw [(hreturns _).2]
    exact hstands.of_idle
  · intro hall _ e he het
    rw [hpool] at he
    subst het
    have howned := h.owned hall e he
    rw [hidle] at howned
    rcases howned with howned | hfinishing
    · exact howned
    · cases hfinishing
  · intro f
    rw [hidle, if_neg fun hset => hfailed hset.2]
    rfl

/-- A thread that sets a filament has allocated its entry, and waits for the lock. -/
theorem Inv.allocated (h : Inv threadId mainThreadId T c m) {t : KThread w} (ht : t ∈ T) (hidle : c.stage t = .idle)
    {filament : FilamentId} {s' : Shared w} (hnew : Allocated threadId mainThreadId t filament c.world s') :
    Inv threadId mainThreadId T ({ c with world := s' }.setStage t
      (.waiting (.setCurrentFilament filament true) (.locked (.put ⟨c.world.nextAddress, t, filament⟩)))) m := by
  have hstands := h.stands t
  rw [hidle] at hstands
  refine h.frame ht _ h.table (fun _ _ => rfl) rfl (fun _ _ => rfl) ?_ ?_ ?_ ?_ ?_ id ?_ hnew.grow hnew.room
    hnew.others ?_
  · intro e het
    dsimp only [State.setStage]
    rw [hnew.pool, Finset.mem_insert]
    refine or_iff_right ?_
    rintro rfl
    exact het rfl
  · exact .setting (e := ⟨c.world.nextAddress, t, filament⟩) hstands.of_idle rfl
  · exact (h.storage t).mono hnew.grow hnew.room
  · rintro e (he | he)
    · obtain ⟨hthread, hmem⟩ := h.held t e (.inl he)
      dsimp only [State.setStage]
      rw [hnew.pool]
      exact ⟨hthread, Finset.mem_insert_of_mem hmem⟩
    · cases he
      dsimp only [State.setStage]
      rw [hnew.pool]
      exact ⟨rfl, Finset.mem_insert_self ..⟩
  · intro e he
    dsimp only [State.setStage] at he ⊢
    rw [hnew.pool, Finset.mem_insert] at he
    rw [hnew.nextAddress]
    rcases he with rfl | he
    · exact Nat.lt_succ_self _
    · exact Nat.lt_succ_of_lt (h.fresh e he)
  · intro hall _ e he het
    dsimp only [State.setStage] at he
    rw [hnew.pool, Finset.mem_insert] at he
    rcases he with rfl | he
    · exact .inr rfl
    · subst het
      have howned := h.owned hall e he
      rw [hidle] at howned
      exact howned.imp_right nofun
  · intro f
    have hregistered := h.registered t f
    rw [hidle] at hregistered
    dsimp only [State.setStage]
    rw [hnew.own, hregistered]
    by_cases hmain : threadId t = mainThreadId f
    · simp [hmain]
    · by_cases hf : f = filament
      · subst hf
        simp [hmain, settingsUnderWay]
      · simp [hmain, hf, Ne.symm hf, settingsUnderWay]

/-- A thread that stands idle begins a call, and waits for the lock. -/
theorem Inv.called (h : Inv threadId mainThreadId T c m) {t : KThread w} (ht : t ∈ T) (hidle : c.stage t = .idle)
    {i : Call} {k : LockPc w} {s' : Shared w}
    (hreset : i = .resetCurrentFilament → currentFilament (ownLog t c.returned) ≠ none)
    (henter : enter threadId mainThreadId t i c.world = (.inr k, s')) :
    Inv threadId mainThreadId T ({ c with world := s' }.setStage t (.waiting i k)) m := by
  have hstands := h.stands t
  rw [hidle] at hstands
  rcases enter_inr h.children henter with ⟨filament, rfl, rfl, hnew⟩ | ⟨rfl, rfl, rfl⟩ | ⟨rfl, rfl, rfl⟩
  · exact h.allocated ht hidle hnew
  · refine h.goesOn ht _ h.table (fun _ _ => rfl) rfl rfl rfl (.resetting hstands.of_idle (hreset rfl)) ?_ ?_
    · rw [hidle]
      exact fun e => Iff.rfl
    · rw [hidle]
      exact fun f => rfl
  · refine h.goesOn ht _ h.table (fun _ _ => rfl) rfl rfl rfl (.getting hstands.of_idle) ?_ ?_
    · rw [hidle]
      exact fun e => Iff.rfl
    · rw [hidle]
      exact fun f => rfl

/-- A thread has used the table: it has read or written its own entry. -/
theorem Inv.used (h : Inv threadId mainThreadId T c m) (hfuel : T.card < fuel) {t : KThread w} (ht : t ∈ T) {i : Call}
    {k k' : LockPc w} {x : Hashtable (FilamentEntry w)} {n : Nat} (hwaiting : c.stage t = .waiting i k)
    (hmoves : (registry threadId mainThreadId fuel).moves n k c.object = some (k', x))
    (hdone : (registry threadId mainThreadId fuel).move k' x = none) :
    ∃ m', Inv threadId mainThreadId T ({ c with object := x }.setStage t (.left i k')) m' := by
  have hstands := h.stands t
  rw [hwaiting] at hstands
  have huse : ∀ op, k = .locked op → (∀ u, u ≠ t → op.effect m u = m u) →
      (∀ e, op.effect m t = some e ∨ inHand (.left i (.unlocking op (.ok (op.result m)))) = some e ↔
        m t = some e ∨ inHand (.waiting i (.locked op)) = some e) →
      Stands t (op.effect m t) (currentFilament (ownLog t c.returned))
        (.left i (.unlocking op (.ok (op.result m)))) →
      ∃ m', Inv threadId mainThreadId T ({ c with object := x }.setStage t (.left i k')) m' := by
    rintro op rfl hm hhas hstands'
    obtain ⟨table', hrun, htable⟩ := TableCall.run_spec h.table h.listed hfuel op
    obtain ⟨rfl, rfl⟩ := moves_done hrun hmoves hdone
    refine ⟨op.effect m, h.goesOn ht _ htable hm rfl rfl rfl hstands' (by rw [hwaiting]; exact hhas) ?_⟩
    exact fun f => by rw [hwaiting]; rfl
  cases hstands with
  | @setting e hcurrent hthread =>
      subst hthread
      refine huse _ rfl (fun u hu => Function.update_of_ne hu ..) ?_ ?_
      · intro e'
        simp only [TableCall.effect, TableCall.result, Function.update_self, inHand]
        exact or_comm
      · exact .set (Function.update_self ..) hcurrent
  | resetting hcurrent hne =>
      refine huse _ rfl (fun u hu => Function.update_of_ne hu ..) ?_ ?_
      · intro e'
        simp only [TableCall.effect, TableCall.result, Function.update_self, inHand]
        exact or_comm
      · cases hentry : m t with
        | none   => exact absurd (by rw [hcurrent, hentry]; rfl) hne
        | some e =>
            rw [TableCall.result, hentry]
            exact .reset (Function.update_self ..)
  | getting hcurrent =>
      exact huse _ rfl (fun _ _ => rfl) (fun e => Iff.rfl) (.got hcurrent)

/-- Without recursion, an entry of a thread is in the table or in its hand. -/
theorem Inv.own_entry (h : Inv threadId mainThreadId T c m) (hall : ∀ u, (ownLog u c.returned).NoRecursion)
    {t : KThread w} {e : FilamentEntry w} (he : e ∈ c.world.pool) (het : e.thread = t) :
    m t = some e ∨ inHand (c.stage t) = some e := het ▸ h.owned hall e he

/-- A thread has set its filament; an old entry is dropped. -/
theorem Inv.finishedSet (h : Inv threadId mainThreadId T c m) {t : KThread w} (ht : t ∈ T) {e : FilamentEntry w}
    {old : Option (FilamentEntry w)}
    (hleft : c.stage t = .left (.setCurrentFilament e.filament true) (.unlocking (.put e) (.ok old)))
    (hentry : m t = some e) (hcurrent : currentFilament (ownLog t c.returned) = old.map FilamentEntry.filament) :
    Inv threadId mainThreadId T
      (finish c c.world t (.setCurrentFilament e.filament true) (.ok (.status statusSuccess))) m := by
  have hregistered := h.registered t
  rw [hleft] at hregistered
  refine h.returns ht ?_ ?_ (fun _ => id) (fun e he _ => he) ?_ (le_refl _) rfl ?_
  · exact .inl ⟨rfl, fun hchild => hregistered.mem hchild (by simp [settingsUnderWay]), rfl⟩
  · rw [hentry]
    simp [filamentAfter]
  · intro hall hnew e' he' het
    have hnone := hnew (ownLog t c.returned) e.filament true List.prefix_rfl
    rw [hcurrent, Option.map_eq_none_iff] at hnone
    refine (h.own_entry hall he' het).resolve_right fun hold => ?_
    rw [hleft, hnone] at hold
    cases hold
  · intro f
    rw [hleft]
    simp [settingsUnderWay]

/-- A thread has reset its filament, and frees the entry. -/
theorem Inv.finishedReset (h : Inv threadId mainThreadId T c m) {t : KThread w} (ht : t ∈ T) {e : FilamentEntry w}
    (hleft : c.stage t = .left .resetCurrentFilament (.unlocking (.remove t) (.ok (some e)))) (hentry : m t = none) :
    e ∈ c.world.pool ∧ Inv threadId mainThreadId T
      (finish c { c.world with pool := c.world.pool.erase e } t .resetCurrentFilament (.ok .reset)) m := by
  obtain ⟨hthread, hmem⟩ := h.held t e (.inr (by rw [hleft]; rfl))
  refine ⟨hmem, h.returns ht rfl ?_ (Finset.erase_subset ..) ?_ ?_ (le_refl _) rfl ?_⟩
  · rw [hentry]
    rfl
  · rintro e' he' (het | hsome)
    · refine Finset.mem_erase.mpr ⟨?_, he'⟩
      rintro rfl
      exact het hthread
    · rw [hentry] at hsome
      cases hsome
  · intro hall _ e' he' het
    obtain ⟨hne, he'⟩ := Finset.mem_erase.mp he'
    refine (h.own_entry hall he' het).resolve_right fun hinHand => ?_
    rw [hleft] at hinHand
    exact hne (Option.some.inj hinHand).symm
  · intro f
    rw [hleft]
    rfl

/-- A thread has read its filament. -/
theorem Inv.finishedGet (h : Inv threadId mainThreadId T c m) {t : KThread w} (ht : t ∈ T)
    (hleft : c.stage t = .left .getCurrentFilament (.unlocking (.get t) (.ok (m t))))
    (hcurrent : currentFilament (ownLog t c.returned) = (m t).map FilamentEntry.filament) :
    Inv threadId mainThreadId T
      (finish c c.world t .getCurrentFilament (.ok (.filament ((m t).map FilamentEntry.filament)))) m := by
  refine h.returns ht ?_ hcurrent (fun _ => id) (fun e he _ => he) ?_ (le_refl _) rfl ?_
  · rw [← hcurrent]
    rfl
  · intro hall _ e he het
    refine (h.own_entry hall he het).resolve_right fun hinHand => ?_
    rw [hleft] at hinHand
    cases hinHand
  · intro f
    rw [hleft]
    rfl

/-- A thread returns after it has released the lock. -/
theorem Inv.finished (h : Inv threadId mainThreadId T c m) {t : KThread w} (ht : t ∈ T) {i : Call} {k : LockPc w}
    {r : Except Fault Outcome} {s' : Shared w} (hleft : c.stage t = .left i k) (hleave : leave k c.world = (r, s')) :
    Inv threadId mainThreadId T (finish c s' t i r) m := by
  have hstands := h.stands t
  rw [hleft] at hstands
  generalize hentry : m t = entry at hstands
  cases hstands with
  | @set e old hsome hcurrent =>
      cases hleave
      exact h.finishedSet ht hleft (hentry.trans hsome) hcurrent
  | @reset e hnone =>
      obtain ⟨hmem, hinv⟩ := h.finishedReset ht hleft (hentry.trans hnone)
      simp only [leave, useEntry, if_pos hmem] at hleave
      cases hleave
      exact hinv
  | got hcurrent =>
      have hresult : (r, s') = (.ok (.filament (entry.map FilamentEntry.filament)), c.world) := by
        rw [← hleave]
        cases hcase : entry with
        | none   => rfl
        | some e =>
            have hmem := (h.held t e (.inl (hentry.trans hcase))).2
            simp only [leave, useEntry, if_pos hmem]
            rfl
      cases hresult
      subst hentry
      exact h.finishedGet ht hleft hcurrent

/-- **Step lemma**: the invariant is kept by every step of a thread, if only a thread with a current filament resets
    it. -/
theorem Inv.step (h : Inv threadId mainThreadId T c m) (hfuel : T.card < fuel) {b : AtomicAction (KThread w) Call}
    (hb : b.thread ∈ T)
    (hreset : ∀ t, b = .call t .resetCurrentFilament → currentFilament (ownLog t c.returned) ≠ none)
    (hstep : (registry threadId mainThreadId fuel).AtomicStep c b c') : ∃ m', Inv threadId mainThreadId T c' m' := by
  cases hstep with
  | @rejected t i r s' hidle henter     => exact ⟨m, h.rejected hb hidle henter⟩
  | @called t i k s' hidle henter       => exact ⟨m, h.called hb hidle (fun hi => hreset t (by rw [hi])) henter⟩
  | @used t i k k' x n hwaiting hmoves hdone => exact h.used hfuel hb hwaiting hmoves hdone
  | @finished t i k r s' hleft hleave   => exact ⟨m, h.finished hb hleft hleave⟩

/-! ## Runs -/

/-- A step of these threads, where only a thread with a current filament resets it. -/
structure Orderly (T : Finset (KThread w)) (s : System w) (a : Action (KThread w) Call) : Prop where
  thread : a.thread ∈ T
  resets : ∀ t, a = .call t .resetCurrentFilament → currentFilament (ownLog t s.returned) ≠ none

/-- A thread that holds the lock sets what it was about to set when it waited. -/
theorem settingsUnderWay_of_sim {s : System w} (hsim : (registry threadId mainThreadId fuel).Sim s c) (f : FilamentId)
    (t : KThread w) : settingsUnderWay f (c.stage t) = settingsUnderWay f (s.stage t) := by
  by_cases hlock : s.lock = some t
  · obtain ⟨i, k₀, k, n, hwaiting, hinside, -⟩ := hsim.held t hlock
    rw [hwaiting, hinside]
    rfl
  · rw [(hsim.others t hlock).1]

/-- A created registry is empty. -/
theorem initializeFilamentRegistry_ok {memory : Bool} {links : LinkedList.Links (Jpht.Link (FilamentEntry w))}
    {block : Nat} {table : Hashtable (FilamentEntry w)}
    (hinit : initializeFilamentRegistry w memory links block = .ok (.ok table)) :
    IsTable table fun _ => none := by
  have hfit : (31#32 : Jpht.ULONG).toNat * Jpht.sizeofBucket w < 2 ^ w.bits := by
    cases w <;> decide
  obtain ⟨table₀, hcreate, hempty⟩ := Jpht.initializeHashtable_spec (filamentRoutines w) (by decide) hfit links block
  cases memory with
  | false =>
      simp [initializeFilamentRegistry, Jpht.initializeHashtable, Jpht.not_overflow] at hinit
  | true =>
      simp only [initializeFilamentRegistry, hcreate, Jpht.ok_bind] at hinit
      cases hinit
      exact ⟨_, hempty.represents, rfl⟩

/-- **The registry is storage of each thread**: in every interleaving of any threads, no entry is read or freed that is
    not allocated, and every call returns what the calls of its own thread say; a child thread is registered with the
    filament that it sets, or refused because the list is full. Nobody is stuck. Once no thread has a current filament,
    the table is empty, and nothing is left of the entries but those that were replaced. -/
theorem registry_isStorage {memory : Bool} {links : LinkedList.Links (Jpht.Link (FilamentEntry w))} {block : Nat}
    {table : Hashtable (FilamentEntry w)} (hinit : initializeFilamentRegistry w memory links block = .ok (.ok table))
    (T : Finset (KThread w)) (hfuel : T.card < fuel) {as : List (Action (KThread w) Call)} {s : System w}
    (hr : Transition.run (registry threadId mainThreadId fuel).next (.initial table ⟨∅, 0, fun _ => []⟩) as = some s)
    (horderly : Transition.Meets (registry threadId mainThreadId fuel).next (Orderly T)
      (.initial table ⟨∅, 0, fun _ => []⟩) as) :
    (∀ t, (ownLog t s.returned).IsStorage threadId mainThreadId s.world.childThreads t) ∧
      (∀ f, (s.world.childThreads f).length ≤ cfixMaxThreads) ∧
      (∀ t, Registered threadId mainThreadId s.world.childThreads t (ownLog t s.returned) (s.stage t)) ∧
      (∀ t, s.stage t ≠ .idle → ∃ a s', (registry threadId mainThreadId fuel).next s a = some s' ∧ a.isCall = false ∧
        (a.thread = t ∨ (∃ i k, s.stage t = .waiting i k) ∧ s.lock = some a.thread)) ∧
      ((∀ t, s.stage t = .idle ∧ currentFilament (ownLog t s.returned) = none) → s.object.entryCount = 0#32 ∧
        ((∀ t, (ownLog t s.returned).NoRecursion) → s.world.pool = ∅)) := by
  have hstart : Inv threadId mainThreadId T (.initial table ⟨∅, 0, fun _ => []⟩) fun _ => none := by
    refine ⟨initializeFilamentRegistry_ok hinit, nofun, ?_, fun t => .idle rfl, ?_, ?_, nofun, nofun, ?_, ?_⟩
    · exact fun t ht => absurd rfl ht
    · intro t before c r hbefore
      simp [ownLog, State.initial] at hbefore
    · rintro t e (he | he)
      · cases he
      · cases he
    · exact fun f => Nat.zero_le _
    · exact fun t f => (by simp [State.initial, ownLog, Log.settings, settingsUnderWay])
  obtain ⟨c, ⟨m, hinv⟩, hsim⟩ := (Guarded.sim_initial (registry threadId mainThreadId fuel) table _).run_induction
    (I := fun c => ∃ m, Inv threadId mainThreadId T c m) (fun s c a b c' hsim ⟨m, hinv⟩ hC hfor hstep => by
      refine hinv.step hfuel (hfor.thread_eq ▸ hC.thread) ?_ hstep
      rintro t rfl
      rw [hsim.returned]
      exact hC.resets t hfor) ⟨_, hstart⟩ horderly hr
  rw [← hsim.returned, ← hsim.world]
  refine ⟨hinv.storage, hinv.children, fun t f => ?_, fun t => hsim.progress, ?_⟩
  · rw [← settingsUnderWay_of_sim hsim]
    exact hinv.registered t f
  intro hidle
  have hlock : s.lock = none := by
    cases hlock : s.lock with
    | none   => rfl
    | some t =>
        obtain ⟨i, k₀, k, n, -, hinside, -⟩ := hsim.held t hlock
        rw [(hidle t).1] at hinside
        cases hinside
  have hempty : ∀ t, c.stage t = .idle ∧ m t = none := by
    intro t
    have hstage : c.stage t = .idle := by rw [(hsim.others t (by rw [hlock]; nofun)).1, (hidle t).1]
    have hstands := hinv.stands t
    rw [hstage] at hstands
    exact ⟨hstage, Option.map_eq_none_iff.mp (hstands.of_idle.symm.trans (hidle t).2)⟩
  refine ⟨?_, ?_⟩
  · rw [← hsim.free hlock]
    exact hinv.table.entryCount fun t => (hempty t).2
  · intro hrecursion
    refine Finset.eq_empty_of_forall_notMem ?_
    intro e he
    obtain ⟨hstage, hnone⟩ := hempty e.thread
    rcases hinv.owned hrecursion e he with hm | hinHand
    · rw [hnone] at hm
      cases hm
    · rw [hstage] at hinHand
      cases hinHand

end Invariant

/-! ### Two threads -/

/-- Thread 16 is the main thread of filament 5, and thread 32 is a child of it. -/
def twoThreads : List (Action (KThread .w32) Call) :=
  [.call 16#32 (.setCurrentFilament 5 true), .acquire 16#32, .move 16#32, .call 32#32 (.setCurrentFilament 5 true),
    .move 16#32, .release 16#32, .acquire 32#32, .finish 16#32, .move 32#32, .call 16#32 .resetCurrentFilament,
    .move 32#32, .release 32#32, .acquire 16#32]

def createdRegistry (w : Width) : Hashtable (FilamentEntry w) :=
  ((initializeFilamentRegistry w true ⟨id, id⟩ 0).toOption.bind Except.toOption).getD ⟨0, 0, 0, 0, ⟨id, id⟩, 0⟩

theorem createdRegistry_eq : initializeFilamentRegistry .w32 true ⟨id, id⟩ 0 = .ok (.ok (createdRegistry .w32)) := rfl

theorem twoThreads_orderly : Transition.Meets (registry (w := .w32) id (fun _ => 16#32) 3).next
    (Orderly {16#32, 32#32}) (.initial (createdRegistry .w32) ⟨∅, 0, fun _ => []⟩) twoThreads := by
  iterate 9 refine .cons rfl ⟨by decide, fun t h => by cases h⟩ ?_
  refine .cons rfl ⟨by decide, fun t h => ?_⟩ ?_
  · cases h
    decide
  iterate 3 refine .cons rfl ⟨by decide, fun t h => by cases h⟩ ?_
  exact trivial

theorem registry_isStorage_twoThreads : ∃ s, Transition.run (registry (w := .w32) id (fun _ => 16#32) 3).next
      (.initial (createdRegistry .w32) ⟨∅, 0, fun _ => []⟩) twoThreads = some s ∧
    (∀ t, (ownLog t s.returned).IsStorage id (fun _ => 16#32) s.world.childThreads t) ∧
    (∀ f, (s.world.childThreads f).length ≤ cfixMaxThreads) ∧
    (∀ t, Registered id (fun _ => 16#32) s.world.childThreads t (ownLog t s.returned) (s.stage t)) ∧
    (∀ t, s.stage t ≠ .idle → ∃ a s', (registry (w := .w32) id (fun _ => 16#32) 3).next s a = some s' ∧
      a.isCall = false ∧ (a.thread = t ∨ (∃ i k, s.stage t = .waiting i k) ∧ s.lock = some a.thread)) ∧
    ((∀ t, s.stage t = .idle ∧ currentFilament (ownLog t s.returned) = none) → s.object.entryCount = 0#32 ∧
      ((∀ t, (ownLog t s.returned).NoRecursion) → s.world.pool = ∅)) :=
  ⟨_, rfl, registry_isStorage createdRegistry_eq {16#32, 32#32} (by decide) rfl twoThreads_orderly⟩

end Cfix.FilamentRegistry
