import Cfix.Jpht.Resize
import Cfix.Lib.Transition

/-!
# `Jpht.Refinement` — the table is a finite map

Abstractly a table maps keys to entries, and equal keys to the same entry. The calls of the table refine the
operations of the map, for any user routines that are lawful, as long as the counter and the size of the first
allocation do not overflow.
-/

namespace Cfix.Jpht

open LinkedList Transition
open Cfix.Events (Width)

variable {ε κ : Type}

/-! ## The map -/

/-- The entry of each key. -/
abbrev Contents (ε κ : Type) := κ → Option ε

namespace Contents

def empty : Contents ε κ := fun _ => none

variable (r : Routines ε κ) (m : Contents ε κ)

def put (entry : ε) : Contents ε κ := fun key => if r.equals (r.key entry) key then some entry else m key

def remove (key : κ) : Contents ε κ := fun key' => if r.equals key key' then none else m key'

/-- What a call does to the map, and what it returns. -/
def call : Operation ε κ → Contents ε κ × Result ε
  | .put entry       => (m.put r entry, .entry (m (r.key entry)))
  | .get key         => (m, .entry (m key))
  | .remove key      => (m.remove r key, .entry (m key))
  | .resize _ memory => (m, .resized memory)

/-- The map after some calls, and their results. -/
def run : Contents ε κ → List (Operation ε κ) → Contents ε κ × List (Result ε)
  | m, []        => (m, [])
  | m, op :: ops =>
    let (m, result) := m.call r op
    let (m, results) := run m ops
    (m, result :: results)

end Contents

/-! ## Lookups -/

section Lookup

variable {r : Routines ε κ} {t : Hashtable ε} {lists : Nat → List ε}

/-- The entry that is found is the stored one with the key. -/
theorem lookup_eq_some (law : r.Lawful) (h : Represents r t lists) {key : κ} {e : ε} :
    lookup r t lists key = some e ↔ t.Stores lists e ∧ r.equals (r.key e) key = true := by
  constructor
  · intro hfind
    have hmem := List.mem_of_find?_eq_some hfind
    have hkey := List.find?_some hfind
    exact ⟨⟨_, h.indexOf_lt key, hmem⟩, hkey⟩
  · rintro ⟨hstores, hkey⟩
    obtain ⟨i, hi, he⟩ := hstores
    have hidx : t.indexOf r key = i := by
      rw [← h.hashed i hi e he]
      exact (Represents.indexOf_eq law hkey).symm
    have hsome : (lookup r t lists key).isSome = true := by
      rw [lookup, List.find?_isSome]
      exact ⟨e, by rwa [hidx], hkey⟩
    obtain ⟨e', he'⟩ := Option.isSome_iff_exists.mp hsome
    by_cases hne : e' = e
    · rw [he', hne]
    · have hmem := List.mem_of_find?_eq_some he'
      have hkey' : r.hasKey key e' = true := List.find?_some he'
      have hdistinct := h.distinct_of_ne law ⟨_, h.indexOf_lt key, hmem⟩ ⟨i, hi, he⟩ hne
      rw [Routines.Distinct, law.equals_of_hasKey hkey' hkey] at hdistinct
      cases hdistinct

/-- Without one key, other keys are still found. -/
theorem find_without (law : r.Lawful) {key key' : κ} (h : r.equals key key' = false) (es : List ε) :
    (r.without key es).find? (r.hasKey key') = es.find? (r.hasKey key') := by
  rw [Routines.without, List.find?_filter]
  congr 1
  funext e
  cases hkey' : r.hasKey key' e with
  | false => simp
  | true  =>
      have hkey : r.hasKey key e = false := by
        by_contra hkey
        have hkey : r.hasKey key e = true := by simpa using hkey
        have hequal := law.trans _ _ _ (law.symm _ _ hkey) hkey'
        rw [h] at hequal
        cases hequal
      simp [hkey]

theorem find_without_self (law : r.Lawful) {key key' : κ} (h : r.equals key key' = true) (es : List ε) :
    (r.without key es).find? (r.hasKey key') = none := by
  rw [List.find?_eq_none]
  intro e he hkey'
  have hkey : r.hasKey key e = true := law.trans _ _ _ hkey' (law.symm _ _ h)
  have hnot := (List.mem_filter.mp he).2
  rw [hkey] at hnot
  cases hnot

theorem lookup_listsPut (law : r.Lawful) (entry : ε) (links : Links (Link ε)) (count : ULONG) :
    lookup r (t.changed links count) (listsPut r t lists entry) = Contents.put r (lookup r t lists) entry := by
  funext key
  have hindex : (t.changed links count).indexOf r key = t.indexOf r key := rfl
  rw [lookup, hindex, listsPut, Contents.put]
  cases hequal : r.equals (r.key entry) key with
  | true =>
      have hkey : r.hasKey key entry = true := hequal
      rw [← Represents.indexOf_eq law hequal, Function.update_self, List.find?_cons, hkey]
      rfl
  | false =>
      have hkey : r.hasKey key entry = false := hequal
      by_cases hidx : t.indexOf r key = t.indexOf r (r.key entry)
      · rw [hidx, Function.update_self, List.find?_cons, hkey, find_without law hequal, lookup, hidx]
        rfl
      · rw [Function.update_of_ne hidx]
        rfl

theorem lookup_listsRemove (law : r.Lawful) (key : κ) (links : Links (Link ε)) (count : ULONG) :
    lookup r (t.changed links count) (listsRemove r t lists key) = Contents.remove r (lookup r t lists) key := by
  funext key'
  have hindex : (t.changed links count).indexOf r key' = t.indexOf r key' := rfl
  rw [lookup, hindex, listsRemove, Contents.remove]
  cases hequal : r.equals key key' with
  | true =>
      rw [← Represents.indexOf_eq law hequal, Function.update_self, find_without_self law hequal]
      rfl
  | false =>
      by_cases hidx : t.indexOf r key' = t.indexOf r key
      · rw [hidx, Function.update_self, find_without law hequal, lookup, hidx]
        rfl
      · rw [Function.update_of_ne hidx]
        rfl

end Lookup

/-! ## Calls -/

/-- A resize is for some buckets, and their size does not overflow. -/
def Operation.Admissible (w : Width) : Operation ε κ → Prop
  | .resize newBucketCount _ => newBucketCount ≠ 0#32 ∧ newBucketCount.toNat * sizeofBucket w < 2 ^ w.bits
  | .put _ | .get _ | .remove _ => True

instance (w : Width) : (op : Operation ε κ) → Decidable (op.Admissible w)
  | .resize newBucketCount _ =>
    inferInstanceAs (Decidable (newBucketCount ≠ 0#32 ∧ newBucketCount.toNat * sizeofBucket w < 2 ^ w.bits))
  | .put _ | .get _ | .remove _ => inferInstanceAs (Decidable True)

section Calls

variable {r : Routines ε κ} {t : Hashtable ε} {lists : Nat → List ε} {w : Width} {fuel : Nat}

/-- The table represents the map `m`, and has counted its entries. -/
structure Refines (r : Routines ε κ) (t : Hashtable ε) (lists : Nat → List ε) (m : Contents ε κ) : Prop where
  represents : Represents r t lists
  lookup_eq  : lookup r t lists = m
  fits       : total lists t.bucketCount.toNat < 2 ^ 32

theorem Refines.toNat_entryCount {m : Contents ε κ} (h : Refines r t lists m) :
    t.entryCount.toNat = total lists t.bucketCount.toNat := by
  rw [h.represents.counted, BitVec.toNat_ofNat, Nat.mod_eq_of_lt h.fits]

variable [DecidableEq ε]

/-- The counter has room for one more entry, or the call does not need it. -/
def Operation.CountFits (r : Routines ε κ) (fuel : Nat) (t : Hashtable ε) : Operation ε κ → Prop
  | .put entry => t.entryCount ≠ 0xFFFFFFFF#32 ∨ ∃ e, getEntryHashtable r fuel (r.key entry) t = .ok (some e)
  | .get _ | .remove _ | .resize _ _ => True

/-- **Each call refines its operation on the map.** -/
theorem Refines.call {m : Contents ε κ} (law : r.Lawful) (h : Refines r t lists m) {op : Operation ε κ}
    (hop : op.Admissible w) (hfits : op.CountFits r fuel t) (hfuel : total lists t.bucketCount.toNat < fuel) :
    ∃ t' lists', Jpht.call r w fuel t op = .ok (t', (m.call r op).2) ∧ Refines r t' lists' (m.call r op).1 ∧
      total lists' t'.bucketCount.toNat ≤ total lists t.bucketCount.toNat + 1 := by
  have hrep := h.represents
  obtain rfl := h.lookup_eq
  have hfit := h.fits
  cases op with
  | put entry =>
      obtain ⟨links, count, hrun, hput, -⟩ := putEntryHashtable_spec law hrep entry hfuel
      have htotal := total_listsPut law hrep entry
      refine ⟨_, _, by simp [Jpht.call, hrun, Except.map, Contents.call], ⟨hput, lookup_listsPut law _ _ _, ?_⟩, ?_⟩
      · change total (listsPut r t lists entry) t.bucketCount.toNat < 2 ^ 32
        rcases hfits with hne | ⟨e, he⟩
        · have hcount := h.toNat_entryCount
          have hne' : t.entryCount.toNat ≠ 0xFFFFFFFF := fun heq => hne (BitVec.eq_of_toNat_eq heq)
          omega
        · rw [getEntryHashtable_spec hrep _ hfuel] at he
          have hsome : (lookup r t lists (r.key entry)).isSome = true := by simp [Except.ok.inj he]
          rw [hsome, if_pos rfl] at htotal
          omega
      · change total (listsPut r t lists entry) t.bucketCount.toNat ≤ _
        omega
  | get key =>
      refine ⟨t, lists, ?_, h, Nat.le_succ _⟩
      simp [Jpht.call, getEntryHashtable_spec hrep key hfuel, Except.map, Contents.call]
  | remove key =>
      obtain ⟨links, count, hrun, hremove⟩ := removeEntryHashtable_spec law hrep key hfuel
      have htotal := total_listsRemove law hrep key
      refine ⟨_, _, by simp [Jpht.call, hrun, Except.map, Contents.call], ⟨hremove, lookup_listsRemove law _ _ _, ?_⟩, ?_⟩
      · change total (listsRemove r t lists key) t.bucketCount.toNat < 2 ^ 32
        omega
      · change total (listsRemove r t lists key) t.bucketCount.toNat ≤ _
        omega
  | resize newBucketCount memory =>
      cases memory with
      | false =>
          refine ⟨t, lists, ?_, h, Nat.le_succ _⟩
          simp [Jpht.call, resize, Except.map, Contents.call, not_overflow]
      | true =>
          obtain ⟨t', lists', hrun, hrep', hstores, htotal⟩ := resize_spec law hrep hop.1 hop.2 hfuel
          refine ⟨t', lists', by simp [Jpht.call, hrun, Except.map, Contents.call], ⟨hrep', ?_, by omega⟩, by omega⟩
          -- the same entries are stored, so the same ones are found
          funext key
          apply Option.ext
          intro e
          change lookup r t' lists' key = some e ↔ lookup r t lists key = some e
          rw [lookup_eq_some law hrep', lookup_eq_some law hrep, hstores]

/-- **A run of calls refines the run on the map.** -/
theorem Refines.run {m : Contents ε κ} {log : List (Result ε)} {ops : List (Operation ε κ)} (law : r.Lawful)
    (h : Refines r t lists m) (hops : ∀ op ∈ ops, op.Admissible w)
    (hmeets : Meets (next r w fuel) (fun s => Operation.CountFits r fuel s.1) (t, log) ops)
    (hfuel : total lists t.bucketCount.toNat + ops.length < fuel) :
    ∃ t' lists', Transition.run (next r w fuel) (t, log) ops = some (t', log ++ (m.run r ops).2) ∧
      Refines r t' lists' (m.run r ops).1 := by
  induction ops generalizing t lists m log with
  | nil => exact ⟨t, lists, by simp [Contents.run], h⟩
  | cons op ops ih =>
      obtain ⟨t₁, lists₁, hcall, h₁, hle⟩ := h.call law (hops op List.mem_cons_self) hmeets.1 (by omega)
      have hnext : next r w fuel (t, log) op = some (t₁, log ++ [(m.call r op).2]) := by simp [next, hcall]
      rw [List.length_cons] at hfuel
      obtain ⟨t', lists', hrun, h'⟩ := ih h₁ (fun op' hop' => hops op' (List.mem_cons_of_mem _ hop'))
        (hmeets.2 _ hnext) (by omega)
      refine ⟨t', lists', ?_, h'⟩
      rw [run_cons.mpr ⟨_, hnext, hrun⟩]
      simp [Contents.run]

/-- So many calls cannot make the counter overflow. -/
theorem Refines.meets {m : Contents ε κ} {log : List (Result ε)} {ops : List (Operation ε κ)} (law : r.Lawful)
    (h : Refines r t lists m) (hops : ∀ op ∈ ops, op.Admissible w)
    (hcount : total lists t.bucketCount.toNat + ops.length < 2 ^ 32)
    (hfuel : total lists t.bucketCount.toNat + ops.length < fuel) :
    Meets (next r w fuel) (fun s => Operation.CountFits r fuel s.1) (t, log) ops := by
  induction ops generalizing t lists m log with
  | nil => exact trivial
  | cons op ops ih =>
      rw [List.length_cons] at hcount hfuel
      have hfits : op.CountFits r fuel t := by
        cases op with
        | put entry =>
            left
            intro hmax
            have hnat := h.toNat_entryCount
            rw [hmax] at hnat
            change 0xFFFFFFFF = _ at hnat
            omega
        | get key | remove key | resize n memory => exact trivial
      obtain ⟨t₁, lists₁, hcall, h₁, hle⟩ := h.call law (hops op List.mem_cons_self) hfits (by omega)
      have hnext : next r w fuel (t, log) op = some (t₁, log ++ [(m.call r op).2]) := by simp [next, hcall]
      exact .cons hnext hfits
        (ih h₁ (fun op' hop' => hops op' (List.mem_cons_of_mem _ hop')) (by omega) (by omega))

end Calls

/-! ## From creation on -/

/-- **A table is the map**: the entries `lists` of its buckets are those of `m`. -/
structure IsMap (r : Routines ε κ) (t : Hashtable ε) (lists : Nat → List ε) (m : Contents ε κ) : Prop where
  /-- The links of each bucket lead through its entries and back. -/
  linked   : ∀ i < t.bucketCount.toNat, Linked t.links (.bucket t.buckets i) ((lists i).map .entry)
  /-- Every entry is in the bucket that its hash selects. -/
  hashed   : ∀ i < t.bucketCount.toNat, ∀ e ∈ lists i, (r.hash (r.key e)).toNat % t.bucketCount.toNat = i
  distinct : ∀ a b, t.Stores lists a → t.Stores lists b → a ≠ b → r.equals (r.key a) (r.key b) = false
  counted  : t.entryCount.toNat = ∑ i ∈ Finset.range t.bucketCount.toNat, (lists i).length
  /-- What is found is the entry that is stored under an equal key. -/
  found    : ∀ key e, m key = some e ↔ t.Stores lists e ∧ r.equals (r.key e) key = true

theorem Refines.isMap {r : Routines ε κ} {t : Hashtable ε} {lists : Nat → List ε} {m : Contents ε κ} (law : r.Lawful)
    (h : Refines r t lists m) : IsMap r t lists m := by
  refine ⟨h.represents.linked, h.represents.hashed, ?_, h.toNat_entryCount, ?_⟩
  · exact fun a b ha hb hne => h.represents.distinct_of_ne law ha hb hne
  · intro key e
    rw [← h.lookup_eq]
    exact lookup_eq_some law h.represents

section Creation

variable [DecidableEq ε] {r : Routines ε κ} {w : Width} {fuel : Nat}

/-- A table is created with this bucket count, if memory is available, and then called: every call returns what
    it does on the map, the table is the map, and a resize without memory leaves it alone. -/
def RefinesMap (r : Routines ε κ) (w : Width) (initialBucketCount : ULONG) (links : Links (Link ε)) (block fuel : Nat)
    (ops : List (Operation ε κ)) : Prop :=
  initializeHashtable w initialBucketCount false links block = .ok none ∧
    ∃ t₀, initializeHashtable w initialBucketCount true links block = .ok (some t₀) ∧
      ∃ t lists, Transition.run (next r w fuel) (t₀, []) ops = some (t, (Contents.empty.run r ops).2) ∧
        IsMap r t lists (Contents.empty.run r ops).1 ∧
        ∀ newBucketCount, resize r w fuel newBucketCount false t = .ok (t, false)

/-- A created table is empty. -/
theorem initializeHashtable_spec (r : Routines ε κ) {n : ULONG} (hn : n ≠ 0#32) (hfit : n.toNat * sizeofBucket w < 2 ^ w.bits)
    (links : Links (Link ε)) (block : Nat) :
    ∃ t₀ : Hashtable ε, initializeHashtable w n true links block = .ok (some t₀) ∧
      Refines r t₀ (fun _ => []) Contents.empty := by
  have hpos : 0 < n.toNat := Nat.pos_of_ne_zero (fun h0 => hn (BitVec.eq_of_toNat_eq h0))
  obtain ⟨links', hinit, hempty, -⟩ := initializeListHeads_represents r
    { entryCount := 0#32, bucketCount := n, buckets := block, capacity := sizeRequired w n / sizeofBucket w
      links := links, nextBlock := block + 1 }
    hpos (by rw [capacity_of_lt hfit]) rfl (Nat.lt_succ_self _)
  refine ⟨_, ?_, hempty, ?_, ?_⟩
  · simp only [initializeHashtable, not_overflow, if_false, Bool.not_true, Bool.false_eq_true, hinit, ok_bind]
  · rfl
  · simp [total]

/-- A size that overflows is too small for the buckets. -/
theorem initializeHashtable_overrun {n : ULONG} (h : 2 ^ w.bits ≤ n.toNat * sizeofBucket w)
    (links : Links (Link ε)) (block : Nat) : initializeHashtable w n true links block = .error .wildAccess := by
  have hlt : sizeRequired w n < 2 ^ w.bits := Nat.mod_lt _ (Nat.two_pow_pos _)
  have hcapacity : sizeRequired w n / sizeofBucket w < n.toNat :=
    Nat.div_lt_of_lt_mul (by rw [Nat.mul_comm]; omega)
  rw [initializeHashtable]
  simp only [not_overflow, if_false, Bool.not_true, Bool.false_eq_true]
  rw [initializeListHeads_error _ hcapacity, error_bind]

/-- **The table refines a finite map** exactly if the byte size of its first buckets does not overflow, in every
    run that puts no new key into a table whose counter is at its maximum. -/
theorem refinesMap_iff (law : r.Lawful) {n : ULONG} (hn : n ≠ 0#32) (links : Links (Link ε)) (block : Nat)
    {ops : List (Operation ε κ)} (hops : ∀ op ∈ ops, op.Admissible w) (hfuel : ops.length < fuel)
    (hmeets : ∀ t₀, initializeHashtable w n true links block = .ok (some t₀) →
      Meets (next r w fuel) (fun s => Operation.CountFits r fuel s.1) (t₀, []) ops) :
    RefinesMap r w n links block fuel ops ↔ n.toNat * sizeofBucket w < 2 ^ w.bits := by
  constructor
  · rintro ⟨-, t₀, hinit, -⟩
    by_contra hover
    rw [initializeHashtable_overrun (Nat.le_of_not_lt hover)] at hinit
    cases hinit
  · intro hfit
    obtain ⟨t₀, hinit, hempty⟩ := initializeHashtable_spec r hn hfit links block
    obtain ⟨t, lists, hrun, h⟩ := hempty.run law hops (hmeets t₀ hinit) (by simpa [total] using hfuel)
    refine ⟨?_, t₀, hinit, t, lists, hrun, h.isMap law, ?_⟩
    · simp [initializeHashtable, not_overflow]
    · intro n'
      simp [resize, not_overflow]

end Creation

/-! ## Examples -/

/-- Entries whose key is half of their number. -/
def halves : Routines Nat Nat where
  hash key    := BitVec.ofNat 32 key
  equals a b  := a == b
  key e       := e / 2

theorem halves_lawful : halves.Lawful := by
  refine ⟨?_, ?_, ?_, ?_⟩
  · simp [halves]
  · simp [halves]
  · intro a b c hab hbc
    simp only [halves, beq_iff_eq] at hab hbc ⊢
    exact hab.trans hbc
  · intro a b h
    simp only [halves, beq_iff_eq] at h ⊢
    rw [h]

/-- Two entries with one key, other buckets and a removal. -/
def halvesRun : List (Operation Nat Nat) :=
  [.put 2, .put 5, .put 3, .get 1, .resize 3#32 true, .remove 2, .get 2, .resize 7#32 false]

theorem refinesMap_halvesRun : RefinesMap halves .w64 2#32 ⟨id, id⟩ 0 9 halvesRun := by
  refine (refinesMap_iff halves_lawful (by decide) ⟨id, id⟩ 0 (by decide) (by decide) ?_).mpr (by decide)
  intro t₀ hinit
  obtain ⟨t₁, hinit₁, hempty⟩ := initializeHashtable_spec halves (by decide : 2#32 ≠ 0#32)
    (by decide : (2#32).toNat * sizeofBucket .w64 < 2 ^ Width.w64.bits) ⟨id, id⟩ 0
  rw [hinit] at hinit₁
  cases hinit₁
  exact hempty.meets halves_lawful (by decide) (by simp [total, halvesRun]) (by simp [total, halvesRun])

/-- On 32 bits the product wraps to 0: the buckets of this table are outside the block. -/
theorem not_refinesMap_overrun : ¬ RefinesMap halves .w32 0x20000000#32 ⟨id, id⟩ 0 1 [] := by
  rintro ⟨-, t₀, hinit, -⟩
  rw [initializeHashtable_overrun (by decide)] at hinit
  cases hinit

end Cfix.Jpht
