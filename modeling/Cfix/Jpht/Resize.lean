import Cfix.Jpht.Buckets

/-!
# `Jpht.Resize` — new buckets, and the entries that move to them

`JphtResize` walks the old buckets while it puts their entries into the new ones, which changes the links of
each entry it has passed. The old lists fall apart behind the walk, but not before it.
-/

namespace Cfix.Jpht

open LinkedList UpdateCount
open Cfix.Events (Width)

variable {ε κ : Type} {r : Routines ε κ} {t : Hashtable ε}

/-! ## New buckets -/

section Creation

variable [DecidableEq ε]

theorem initializeListHeads_spec (t : Hashtable ε) {n : Nat} (h : n ≤ t.capacity) :
    ∃ links, initializeListHeads n t = .ok (t.changed links t.entryCount) ∧
      (∀ i < n, Linked links (.bucket t.buckets i) []) ∧
      ∀ x, (∀ i < n, x ≠ .bucket t.buckets i) →
        links.flink x = t.links.flink x ∧ links.blink x = t.links.blink x := by
  induction n with
  | zero => exact ⟨t.links, rfl, by simp, fun x _ => ⟨rfl, rfl⟩⟩
  | succ n ih =>
      obtain ⟨links, hrun, hlinked, hsame⟩ := ih (Nat.le_of_succ_le h)
      refine ⟨links.initializeListHead (.bucket t.buckets n), ?_, ?_, ?_⟩
      · simp only [initializeListHeads, hrun, ok_bind]
        rw [bucketAt_of_lt (show n < (t.changed links t.entryCount).capacity from h)]
        rfl
      · intro i hi
        by_cases hin : i = n
        · subst hin
          exact initializeListHead_linked _ _
        · apply (hlinked i (by omega)).frame (initializeListHead_unchanged _ _)
          simpa using hin
      · intro x hx
        have hxn : x ∉ [Link.bucket t.buckets n] := by simpa using hx n (Nat.lt_succ_self n)
        obtain ⟨hf, hb⟩ := initializeListHead_unchanged links (.bucket t.buckets n) x hxn
        obtain ⟨hf', hb'⟩ := hsame x (fun i hi => hx i (Nat.lt_succ_of_lt hi))
        exact ⟨hf.trans hf', hb.trans hb'⟩

/-- A block that is too small for the buckets is overrun. -/
theorem initializeListHeads_error (t : Hashtable ε) {n : Nat} (h : t.capacity < n) :
    initializeListHeads n t = .error .wildAccess := by
  induction n with
  | zero => exact absurd h (Nat.not_lt_zero _)
  | succ n ih =>
      rcases Nat.lt_or_ge t.capacity n with hlt | hge
      · simp only [initializeListHeads, ih hlt, error_bind]
      · obtain ⟨links, hrun, -, -⟩ := initializeListHeads_spec t hge
        have hout : ¬ n < (t.changed links t.entryCount).capacity := by
          have hcapacity : (t.changed links t.entryCount).capacity = t.capacity := rfl
          omega
        simp only [initializeListHeads, hrun, ok_bind, bucketAt, if_neg hout, error_bind]

/-- Initialized buckets are an empty table. -/
theorem initializeListHeads_represents (r : Routines ε κ) (t : Hashtable ε) (hpos : 0 < t.bucketCount.toNat)
    (hcapacity : t.bucketCount.toNat ≤ t.capacity) (hcount : t.entryCount = 0#32) (holder : t.buckets < t.nextBlock) :
    ∃ links, initializeListHeads t.bucketCount.toNat t = .ok (t.changed links t.entryCount) ∧
      Represents r (t.changed links t.entryCount) (fun _ => []) ∧
      ∀ x, (∀ i, x ≠ .bucket t.buckets i) → links.flink x = t.links.flink x := by
  obtain ⟨links, hrun, hlinked, hsame⟩ := initializeListHeads_spec t hcapacity
  refine ⟨links, hrun, ⟨hpos, hcapacity, holder, hlinked, ?_, ?_, ?_⟩, ?_⟩
  · simp
  · simp
  · rw [show (t.changed links t.entryCount).entryCount = t.entryCount from rfl, hcount]
    simp [total]
  · exact fun x hx => (hsame x (fun i _ => hx i)).1

end Creation

/-! ## Moving the entries -/

/-- What the moved entries are: those of `moved`, in a table of the same buckets. `links` were the links before. -/
structure Moved (r : Routines ε κ) (t : Hashtable ε) (links : Links (Link ε)) (lists : Nat → List ε)
    (moved : List ε) : Prop where
  represents : Represents r t lists
  stores     : ∀ e, t.Stores lists e ↔ e ∈ moved
  total_eq   : total lists t.bucketCount.toNat = moved.length
  ahead      : ∀ x, (∀ i, x ≠ .bucket t.buckets i) → (∀ e ∈ moved, x ≠ .entry e) →
    t.links.flink x = links.flink x

section Moving

variable [DecidableEq ε] {links : Links (Link ε)} {lists : Nat → List ε} {moved : List ε} {fuel : Nat}

/-- **One entry moves.** Its key is not in the new buckets yet. -/
theorem Moved.put (law : r.Lawful) (h : Moved r t links lists moved) {entry : ε}
    (hfresh : ∀ e ∈ moved, r.Distinct e entry) (hfuel : moved.length < fuel) :
    ∃ links' count, putEntryHashtable r fuel entry t = .ok (t.changed links' count, none) ∧
      Moved r (t.changed links' count) links (listsPut r t lists entry) (entry :: moved) := by
  have hrep := h.represents
  have hi := hrep.indexOf_lt (r.key entry)
  have hnone : ∀ e ∈ lists (t.indexOf r (r.key entry)), r.hasKey (r.key entry) e = false :=
    fun e he => hfresh e ((h.stores e).mp ⟨_, hi, he⟩)
  have hlookup : lookup r t lists (r.key entry) = none :=
    List.find?_eq_none.mpr (fun e he => by simp [hnone e he])
  have htotal := total_listsPut law hrep entry
  obtain ⟨links', count, hrun, hput, hsame⟩ := putEntryHashtable_spec law hrep entry (by rw [h.total_eq]; exact hfuel)
  rw [hlookup] at hrun htotal
  refine ⟨links', count, hrun, hput, ?_, ?_, ?_⟩
  · intro e
    rw [List.mem_cons, ← h.stores e]
    constructor
    · rintro ⟨j, hj, he⟩
      rw [listsPut] at he
      by_cases hji : j = t.indexOf r (r.key entry)
      · subst hji
        rw [Function.update_self, without_eq_self hnone] at he
        rcases List.mem_cons.mp he with rfl | he
        · exact Or.inl rfl
        · exact Or.inr ⟨_, hj, he⟩
      · rw [Function.update_of_ne hji] at he
        exact Or.inr ⟨j, hj, he⟩
    · rintro (rfl | ⟨j, hj, he⟩)
      · exact ⟨_, hi, by simp [listsPut]⟩
      · refine ⟨j, hj, ?_⟩
        rw [listsPut]
        by_cases hji : j = t.indexOf r (r.key entry)
        · subst hji
          rw [Function.update_self, without_eq_self hnone]
          exact List.mem_cons_of_mem _ he
        · rw [Function.update_of_ne hji]
          exact he
  · rw [List.length_cons, ← h.total_eq]
    have hone : total (listsPut r t lists entry) t.bucketCount.toNat = total lists t.bucketCount.toNat + 1 := by
      simpa using htotal
    exact hone
  · intro x hx hmoved
    have hout : x ∉ Link.entry entry :: .bucket t.buckets (t.indexOf r (r.key entry)) ::
        (lists (t.indexOf r (r.key entry))).map .entry := by
      intro hmem
      simp only [List.mem_cons, List.mem_map] at hmem
      rcases hmem with hmem | hmem | ⟨e, he, hmem⟩
      · exact hmoved entry (by simp) hmem
      · exact hx _ hmem
      · exact hmoved e (List.mem_cons_of_mem _ ((h.stores e).mp ⟨_, hi, he⟩)) hmem.symm
    have hstep : (t.changed links' count).links.flink x = t.links.flink x := (hsame x hout).1
    rw [hstep]
    exact h.ahead x hx (fun e he => hmoved e (List.mem_cons_of_mem _ he))

/-- The walk along an old bucket: what is before it is untouched. -/
theorem resizeBucket_spec (law : r.Lawful) {block index steps : Nat} {rest : List ε} {p : Link ε}
    (h : Moved r t links lists moved) (hpath : Path links p (rest.map .entry) (.bucket block index))
    (hdistinct : (rest.reverse ++ moved).Pairwise r.Distinct) (hnodup : (rest.reverse ++ moved).Nodup)
    (hsteps : rest.length < steps) (hfuel : rest.length + moved.length ≤ fuel) :
    ∃ links' count lists', resizeBucket r fuel (.bucket block index) steps p t = .ok (t.changed links' count) ∧
      Moved r (t.changed links' count) links lists' (rest.reverse ++ moved) := by
  induction rest generalizing t lists moved p steps with
  | nil =>
      obtain ⟨steps, rfl⟩ : ∃ n, steps = n + 1 := ⟨steps - 1, by simp at hsteps; omega⟩
      obtain rfl : p = .bucket block index := hpath
      exact ⟨t.links, t.entryCount, lists, by simp [resizeBucket, Hashtable.changed], h⟩
  | cons e rest ih =>
      obtain ⟨steps, rfl⟩ : ∃ n, steps = n + 1 := ⟨steps - 1, by simp at hsteps; omega⟩
      obtain ⟨rfl, hrest⟩ := hpath
      simp only [List.reverse_cons, List.append_assoc, List.singleton_append, List.length_cons] at hdistinct hnodup hsteps hfuel ⊢
      have hfresh : ∀ x ∈ moved, r.Distinct x e := by
        intro x hx
        rw [Routines.Distinct, law.equals_comm]
        exact (List.pairwise_cons.mp (List.pairwise_append.mp hdistinct).2.1).1 x hx
      have he : e ∉ moved := (List.nodup_cons.mp (List.nodup_append.mp hnodup).2.1).1
      -- the next entry is read from links that are still the old ones
      have hnext : t.links.flink (.entry e) = links.flink (.entry e) := by
        apply h.ahead
        · simp
        · rintro x hx heq
          cases heq
          exact he hx
      obtain ⟨links₁, count₁, hput, hmoved⟩ := h.put law hfresh (by omega : moved.length < fuel)
      obtain ⟨links', count', lists', hrun, hdone⟩ := ih hmoved hrest hdistinct hnodup
        (by omega : rest.length < steps) (by rw [List.length_cons]; omega)
      refine ⟨links', count', lists', ?_, hdone⟩
      simp only [resizeBucket, reduceCtorEq, if_false, hput, ok_bind, hnext, hrun]
      rfl

end Moving

/-- The entries of the first buckets, the last first. -/
def entriesBefore (lists : Nat → List ε) : Nat → List ε
  | 0     => []
  | n + 1 => (lists n).reverse ++ entriesBefore lists n

section Rehash

variable {lists : Nat → List ε}

theorem mem_entriesBefore {n : Nat} {e : ε} : e ∈ entriesBefore lists n ↔ ∃ i < n, e ∈ lists i := by
  induction n with
  | zero => simp [entriesBefore]
  | succ n ih =>
      rw [entriesBefore, List.mem_append, List.mem_reverse, ih]
      constructor
      · rintro (he | ⟨i, hi, he⟩)
        · exact ⟨n, Nat.lt_succ_self n, he⟩
        · exact ⟨i, Nat.lt_succ_of_lt hi, he⟩
      · rintro ⟨i, hi, he⟩
        rcases Nat.lt_succ_iff_lt_or_eq.mp hi with hlt | rfl
        · exact Or.inr ⟨i, hlt, he⟩
        · exact Or.inl he

theorem length_entriesBefore (n : Nat) : (entriesBefore lists n).length = total lists n := by
  induction n with
  | zero => rfl
  | succ n ih =>
      rw [entriesBefore, List.length_append, List.length_reverse, ih, total, total, Finset.sum_range_succ]
      omega

theorem Represents.not_mem (h : Represents r t lists) {i j : Nat} (hi : i < t.bucketCount.toNat)
    (hj : j < t.bucketCount.toNat) (hij : i ≠ j) {e : ε} (he : e ∈ lists i) : e ∉ lists j :=
  fun he' => hij ((h.hashed i hi e he).symm.trans (h.hashed j hj e he'))

/-- No entry is stored twice. -/
theorem Represents.nodup_entriesBefore (h : Represents r t lists) {n : Nat} (hn : n ≤ t.bucketCount.toNat) :
    (entriesBefore lists n).Nodup := by
  induction n with
  | zero => simp [entriesBefore]
  | succ n ih =>
      rw [entriesBefore, List.nodup_append]
      refine ⟨?_, ih (Nat.le_of_succ_le hn), ?_⟩
      · rw [List.nodup_reverse]
        exact (List.nodup_cons.mp (h.linked n hn).nodup).2.of_map
      · rintro a ha b hb rfl
        obtain ⟨i, hi, hb⟩ := mem_entriesBefore.mp hb
        exact h.not_mem (by omega) hn (by omega) hb (List.mem_reverse.mp ha)

theorem Represents.pairwise_entriesBefore (law : r.Lawful) (h : Represents r t lists) {n : Nat}
    (hn : n ≤ t.bucketCount.toNat) : (entriesBefore lists n).Pairwise r.Distinct := by
  have hstores : ∀ e ∈ entriesBefore lists n, t.Stores lists e := by
    intro e he
    obtain ⟨i, hi, he⟩ := mem_entriesBefore.mp he
    exact ⟨i, by omega, he⟩
  refine (h.nodup_entriesBefore hn).imp_of_mem ?_
  exact fun ha hb hne => h.distinct_of_ne law (hstores _ ha) (hstores _ hb) hne

variable [DecidableEq ε]

/-- The outer loop: the buckets one after the other. -/
theorem resizeBuckets_spec (law : r.Lawful) {old : Hashtable ε} (hold : Represents r old lists)
    {lists₀ : Nat → List ε} {fuel n : Nat} (h : Moved r t old.links lists₀ []) (hblock : old.buckets ≠ t.buckets)
    (hfuel : total lists old.bucketCount.toNat < fuel) (hn : n ≤ old.bucketCount.toNat) :
    ∃ links count lists', resizeBuckets r fuel old.buckets old.capacity n t = .ok (t.changed links count) ∧
      Moved r (t.changed links count) old.links lists' (entriesBefore lists n) := by
  induction n with
  | zero => exact ⟨t.links, t.entryCount, lists₀, rfl, h⟩
  | succ n ih =>
      obtain ⟨links, count, lists', hrun, hmoved⟩ := ih (Nat.le_of_succ_le hn)
      have hbucket : (bucketAt old.buckets old.capacity n : Except Fault (Link ε)) = .ok (.bucket old.buckets n) :=
        bucketAt_of_lt (lt_of_lt_of_le hn hold.allocated)
      -- the head of an old bucket is not touched
      have hhead : (t.changed links count).links.flink (.bucket old.buckets n) =
          old.links.flink (.bucket old.buckets n) := by
        apply hmoved.ahead
        · exact fun i heq => hblock (Link.bucket.inj heq).1
        · simp
      have hlength : (lists n).length + (entriesBefore lists n).length ≤ total lists old.bucketCount.toNat := by
        rw [length_entriesBefore, total, total, Nat.add_comm, ← Finset.sum_range_succ (fun i => (lists i).length)]
        exact Finset.sum_le_sum_of_subset (Finset.range_subset_range.mpr hn)
      obtain ⟨links', count', lists'', hwalk, hdone⟩ := resizeBucket_spec law hmoved
        (hold.linked n hn).segment.path (hold.pairwise_entriesBefore law hn) (hold.nodup_entriesBefore hn)
        (by omega : (lists n).length < fuel) (by omega : (lists n).length + (entriesBefore lists n).length ≤ fuel)
      refine ⟨links', count', lists'', ?_, hdone⟩
      simp only [resizeBuckets, hrun, ok_bind, hbucket, hhead, hwalk]
      rfl

/-- A size that does not overflow is the size that is meant. -/
theorem sizeRequired_of_lt {w : Width} {n : ULONG} (h : n.toNat * sizeofBucket w < 2 ^ w.bits) :
    sizeRequired w n = n.toNat * sizeofBucket w := Nat.mod_eq_of_lt h

theorem sizeofBucket_pos (w : Width) : 0 < sizeofBucket w := by
  have hbytes := w.bytes_pos
  rw [sizeofBucket]
  omega

theorem capacity_of_lt {w : Width} {n : ULONG} (h : n.toNat * sizeofBucket w < 2 ^ w.bits) :
    sizeRequired w n / sizeofBucket w = n.toNat := by
  rw [sizeRequired_of_lt h, Nat.mul_div_cancel _ (sizeofBucket_pos w)]

/-- A size modulo the width is never too large. -/
theorem not_overflow (w : Width) (n : ULONG) : ¬ 2 ^ w.bits - 1 < sizeRequired w n := by
  have hlt : sizeRequired w n < 2 ^ w.bits := Nat.mod_lt _ (Nat.two_pow_pos _)
  omega

/-- **`JphtResize`** keeps the entries. -/
theorem resize_spec (law : r.Lawful) (h : Represents r t lists) {w : Width} {fuel : Nat} {n : ULONG}
    (hpos : n ≠ 0#32) (hfit : n.toNat * sizeofBucket w < 2 ^ w.bits)
    (hfuel : total lists t.bucketCount.toNat < fuel) :
    ∃ t' lists', resize r w fuel n true t = .ok (t', true) ∧ Represents r t' lists' ∧
      (∀ e, t'.Stores lists' e ↔ t.Stores lists e) ∧
      total lists' t'.bucketCount.toNat = total lists t.bucketCount.toNat := by
  have hn : 0 < n.toNat := Nat.pos_of_ne_zero (fun h0 => hpos (BitVec.eq_of_toNat_eq h0))
  obtain ⟨links, hinit, hempty, hsame⟩ := initializeListHeads_represents r
    { t with
      bucketCount := n, buckets := t.nextBlock, capacity := sizeRequired w n / sizeofBucket w
      entryCount := 0#32, nextBlock := t.nextBlock + 1 }
    hn (by rw [capacity_of_lt hfit]) rfl (Nat.lt_succ_self _)
  have hstart : Moved r _ t.links (fun _ => []) [] :=
    ⟨hempty, by simp [Hashtable.Stores], by simp [total], fun x hx _ => hsame x hx⟩
  obtain ⟨links', count, lists', hrun, hmoved⟩ := resizeBuckets_spec law h hstart (Nat.ne_of_lt h.older) hfuel le_rfl
  refine ⟨_, lists', ?_, hmoved.represents, ?_, ?_⟩
  · simp only [resize, not_overflow, if_false, Bool.not_true, Bool.false_eq_true, hinit, ok_bind, hrun]
  · intro e
    rw [hmoved.stores, mem_entriesBefore]
    rfl
  · rw [hmoved.total_eq, length_entriesBefore]

end Rehash

end Cfix.Jpht
