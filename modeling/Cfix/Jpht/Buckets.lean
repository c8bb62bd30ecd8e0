import Mathlib.Algebra.Order.BigOperators.Group.Finset
import Cfix.Jpht.Hashtable
import Cfix.Lib.UpdateCount

/-!
# `Jpht.Buckets` — what the buckets of a table hold, and what each operation does to them

`Represents r t lists` ties the links, the bucket indices, the keys and the counter together: bucket `i` is the
list of the entries `lists i`. Each operation is then a change of one of these lists, and leaves the links of
everything else alone.
-/

namespace Cfix.Jpht

open LinkedList UpdateCount
open Cfix.Events (Width)

variable {ε κ : Type}

@[simp] theorem ok_bind {α β : Type} (a : α) (f : α → Except Fault β) : (Except.ok a >>= f) = f a := rfl

@[simp] theorem error_bind {α β : Type} (e : Fault) (f : α → Except Fault β) :
    ((Except.error e : Except Fault α) >>= f) = .error e := rfl

theorem bucketAt_of_lt {buckets capacity index : Nat} (h : index < capacity) :
    (bucketAt buckets capacity index : Except Fault (Link ε)) = .ok (.bucket buckets index) := if_pos h

/-! ## User routines -/

/-- `Equals` is an equivalence, and `Hash` is compatible with it. -/
structure Routines.Lawful (r : Routines ε κ) : Prop where
  refl    : ∀ a, r.equals a a = true
  symm    : ∀ a b, r.equals a b = true → r.equals b a = true
  trans   : ∀ a b c, r.equals a b = true → r.equals b c = true → r.equals a c = true
  hash_eq : ∀ a b, r.equals a b = true → r.hash a = r.hash b

namespace Routines

variable (r : Routines ε κ)

/-- The entry's key is equal to this one. -/
def hasKey (key : κ) (e : ε) : Bool := r.equals (r.key e) key

/-- The two entries have inequal keys. -/
def Distinct (a b : ε) : Prop := r.equals (r.key a) (r.key b) = false

variable {r} {key : κ} {a b e : ε}

theorem Lawful.equals_comm (law : r.Lawful) (x y : κ) : r.equals x y = r.equals y x :=
  Bool.eq_iff_iff.mpr ⟨law.symm x y, law.symm y x⟩

theorem Lawful.equals_key (law : r.Lawful) (key : κ) (e : ε) : r.equals key (r.key e) = r.hasKey key e :=
  law.equals_comm key (r.key e)

/-- Two entries with equal keys. -/
theorem Lawful.equals_of_hasKey (law : r.Lawful) (ha : r.hasKey key a = true) (hb : r.hasKey key b = true) :
    r.equals (r.key a) (r.key b) = true :=
  law.trans _ _ _ ha (law.symm _ _ hb)

/-- Among entries with distinct keys at most one has the key. -/
theorem Lawful.hasKey_eq_false (law : r.Lawful) (ha : r.hasKey key a = true) (h : r.Distinct a b) :
    r.hasKey key b = false := by
  cases hb : r.hasKey key b with
  | false => rfl
  | true  => exact absurd (law.equals_of_hasKey ha hb) (by rw [h]; exact Bool.false_ne_true)

end Routines

/-- The entries without the one that has the key. -/
def Routines.without (r : Routines ε κ) (key : κ) (es : List ε) : List ε := es.filter fun e => !r.hasKey key e

section Without

variable {r : Routines ε κ} {key : κ} {e : ε} {es : List ε}

theorem without_cons_of_pos (h : r.hasKey key e = true) : r.without key (e :: es) = r.without key es := by
  simp [Routines.without, h]

theorem without_cons_of_neg (h : r.hasKey key e = false) :
    r.without key (e :: es) = e :: r.without key es := by
  simp [Routines.without, h]

theorem without_eq_self (h : ∀ e ∈ es, r.hasKey key e = false) : r.without key es = es := by
  simpa [Routines.without, List.filter_eq_self] using h

/-- The entries behind the one with the key. -/
theorem Routines.Lawful.tail_hasKey (law : r.Lawful) (hd : (e :: es).Pairwise r.Distinct)
    (h : r.hasKey key e = true) : ∀ e' ∈ es, r.hasKey key e' = false :=
  fun e' he' => law.hasKey_eq_false h ((List.pairwise_cons.mp hd).1 e' he')

/-- The length that is lost. -/
theorem Routines.Lawful.length_without (law : r.Lawful) (key : κ) (hd : es.Pairwise r.Distinct) :
    (r.without key es).length + (if (es.find? (r.hasKey key)).isSome then 1 else 0) = es.length := by
  induction es with
  | nil => rfl
  | cons e es ih =>
      cases h : r.hasKey key e with
      | true  =>
          rw [without_cons_of_pos h, without_eq_self (law.tail_hasKey hd h)]
          simp [h]
      | false =>
          have ih := ih (List.pairwise_cons.mp hd).2
          rw [without_cons_of_neg h]
          simp only [List.find?_cons, h, List.length_cons]
          omega

end Without

/-! ## Walks -/

section Walks

variable [DecidableEq ε] {r : Routines ε κ} {block index fuel : Nat} {rest : List ε}

/-- The counter after the entry with the key has been removed. -/
def countWithout (r : Routines ε κ) (key : κ) (es : List ε) (count : ULONG) : ULONG :=
  if (es.find? (r.hasKey key)).isSome then count - 1#32 else count

/-- An entry is taken out of the list of its bucket; its own links stay. -/
theorem takeOut {links : Links (Link ε)} {done : List ε} {e : ε}
    (h : Linked links (.bucket block index) (done.map .entry ++ .entry e :: rest.map .entry)) :
    Linked (links.removeEntryList (.entry e)) (.bucket block index) ((done ++ rest).map .entry) ∧
      Unchanged links (links.removeEntryList (.entry e)) (.bucket block index :: (done ++ rest).map .entry) ∧
      Link.entry e ∉ .bucket block index :: (done ++ rest).map .entry := by
  rw [List.map_append]
  exact ⟨removeEntryList_linked h, removeEntryList_unchanged h, h.notMem⟩

omit [DecidableEq ε] in
theorem takeOut_subset (done rest : List ε) (e : ε) :
    (.bucket block index :: (done ++ rest).map .entry : List (Link ε)) ⊆
      .bucket block index :: (done ++ e :: rest).map .entry := by
  intro x hx
  simp only [List.mem_cons, List.map_append, List.mem_append, List.map_cons] at hx ⊢
  tauto


theorem putLoop_spec (law : r.Lawful) (done : List ε) (entry : ε) (t : Hashtable ε) (oldEntry : Option ε)
    (hlinked : Linked t.links (.bucket block index) ((done ++ rest).map .entry))
    (hdistinct : rest.Pairwise r.Distinct) (hfuel : rest.length < fuel) :
    ∃ links, putLoop r (.bucket block index) entry fuel ((rest.map .entry).headD (.bucket block index)) t oldEntry =
        .ok ({ t with links := links, entryCount := countWithout r (r.key entry) rest t.entryCount },
          (rest.find? (r.hasKey (r.key entry))).or oldEntry) ∧
      Linked links (.bucket block index) ((done ++ r.without (r.key entry) rest).map .entry) ∧
      Unchanged t.links links (.bucket block index :: (done ++ rest).map .entry) := by
  induction rest generalizing done t oldEntry fuel with
  | nil =>
      obtain ⟨fuel, rfl⟩ : ∃ n, fuel = n + 1 := ⟨fuel - 1, by simp at hfuel; omega⟩
      exact ⟨t.links, by simp [putLoop, countWithout], hlinked, .refl _ _⟩
  | cons e rest ih =>
      obtain ⟨fuel, rfl⟩ : ∃ n, fuel = n + 1 := ⟨fuel - 1, by simp at hfuel; omega⟩
      have hfuel : rest.length < fuel := by simpa using hfuel
      obtain ⟨-, hrest⟩ := List.pairwise_cons.mp hdistinct
      rw [List.map_append, List.map_cons] at hlinked
      have hnext : t.links.flink (.entry e) = (rest.map .entry).headD (.bucket block index) :=
        (segment_append.mp hlinked.segment).2.flink_eq
      cases h : r.hasKey (r.key entry) e with
      | true =>
          -- the entry is taken out of the list, and the walk goes on behind it
          have hnone : rest.find? (r.hasKey (r.key entry)) = none :=
            List.find?_eq_none.mpr (fun e' he' => by simp [law.tail_hasKey hdistinct h e' he'])
          obtain ⟨hremoved, hsame, he⟩ := takeOut hlinked
          obtain ⟨links, hrun, hlinks, hunchanged⟩ := ih done
            { t with links := t.links.removeEntryList (.entry e), entryCount := t.entryCount - 1#32 } (some e)
            hremoved hrest hfuel
          refine ⟨links, ?_, ?_, ?_⟩
          · simp only [List.map_cons, List.headD_cons, putLoop, reduceCtorEq, if_false, law.equals_key, h, if_true]
            rw [(hsame _ he).1, hnext, hrun]
            simp [countWithout, hnone, h]
          · rwa [without_cons_of_pos h]
          · exact (hsame.trans hunchanged).mono (takeOut_subset done rest e)
      | false =>
          have hshift : (done ++ [e] ++ rest).map Link.entry = done.map .entry ++ .entry e :: rest.map .entry := by simp
          obtain ⟨links, hrun, hlinks, hunchanged⟩ := ih (done ++ [e]) t oldEntry
            (by rw [hshift]; exact hlinked) hrest hfuel
          refine ⟨links, ?_, ?_, ?_⟩
          · simp only [List.map_cons, List.headD_cons, putLoop, reduceCtorEq, if_false, law.equals_key, h,
              Bool.false_eq_true]
            rw [hnext, hrun]
            simp [countWithout, h]
          · rw [without_cons_of_neg h]
            simpa using hlinks
          · simpa using hunchanged

theorem getLoop_spec (r : Routines ε κ) (done : List ε) (key : κ) {links : Links (Link ε)}
    (hlinked : Linked links (.bucket block index) ((done ++ rest).map .entry)) (hfuel : rest.length < fuel) :
    getLoop r links (.bucket block index) key fuel ((rest.map .entry).headD (.bucket block index)) =
      .ok (rest.find? (r.hasKey key)) := by
  induction rest generalizing done fuel with
  | nil =>
      obtain ⟨fuel, rfl⟩ : ∃ n, fuel = n + 1 := ⟨fuel - 1, by simp at hfuel; omega⟩
      simp [getLoop]
  | cons e rest ih =>
      obtain ⟨fuel, rfl⟩ : ∃ n, fuel = n + 1 := ⟨fuel - 1, by simp at hfuel; omega⟩
      have hfuel : rest.length < fuel := by simpa using hfuel
      have hshift : (done ++ [e] ++ rest).map Link.entry = (done ++ e :: rest).map .entry := by simp
      have hrest := ih (done ++ [e]) (by rw [hshift]; exact hlinked) hfuel
      rw [List.map_append, List.map_cons] at hlinked
      have hnext := (segment_append.mp hlinked.segment).2.flink_eq
      simp only [List.map_cons, List.headD_cons, getLoop, reduceCtorEq, if_false, List.find?_cons]
      cases h : r.hasKey key e with
      | true  => exact if_pos h
      | false =>
          have heq : r.equals (r.key e) key = false := h
          rw [heq, if_neg Bool.false_ne_true, hnext]
          exact hrest

theorem removeLoop_spec (law : r.Lawful) (done : List ε) (key : κ) (t : Hashtable ε)
    (hlinked : Linked t.links (.bucket block index) ((done ++ rest).map .entry))
    (hdistinct : rest.Pairwise r.Distinct) (hfuel : rest.length < fuel) :
    ∃ links, removeLoop r (.bucket block index) key fuel ((rest.map .entry).headD (.bucket block index)) t =
        .ok ({ t with links := links, entryCount := countWithout r key rest t.entryCount },
          rest.find? (r.hasKey key)) ∧
      Linked links (.bucket block index) ((done ++ r.without key rest).map .entry) ∧
      Unchanged t.links links (.bucket block index :: (done ++ rest).map .entry) := by
  induction rest generalizing done fuel with
  | nil =>
      obtain ⟨fuel, rfl⟩ : ∃ n, fuel = n + 1 := ⟨fuel - 1, by simp at hfuel; omega⟩
      exact ⟨t.links, by simp [removeLoop, countWithout], hlinked, .refl _ _⟩
  | cons e rest ih =>
      obtain ⟨fuel, rfl⟩ : ∃ n, fuel = n + 1 := ⟨fuel - 1, by simp at hfuel; omega⟩
      have hfuel : rest.length < fuel := by simpa using hfuel
      obtain ⟨-, hrest⟩ := List.pairwise_cons.mp hdistinct
      rw [List.map_append, List.map_cons] at hlinked
      have hnext : t.links.flink (.entry e) = (rest.map .entry).headD (.bucket block index) :=
        (segment_append.mp hlinked.segment).2.flink_eq
      cases h : r.hasKey key e with
      | true =>
          obtain ⟨hremoved, hsame, -⟩ := takeOut hlinked
          refine ⟨t.links.removeEntryList (.entry e), ?_, ?_, ?_⟩
          · have heq : r.equals (r.key e) key = true := h
            simp [removeLoop, heq, countWithout, h]
          · rwa [without_cons_of_pos h, without_eq_self (law.tail_hasKey hdistinct h)]
          · exact hsame.mono (takeOut_subset done rest e)
      | false =>
          have hshift : (done ++ [e] ++ rest).map Link.entry = done.map .entry ++ .entry e :: rest.map .entry := by simp
          obtain ⟨links, hrun, hlinks, hunchanged⟩ := ih (done ++ [e]) (by rw [hshift]; exact hlinked) hrest hfuel
          have heq : r.equals (r.key e) key = false := h
          refine ⟨links, ?_, ?_, ?_⟩
          · simp only [List.map_cons, List.headD_cons, removeLoop, reduceCtorEq, if_false, heq, Bool.false_eq_true]
            rw [hnext, hrun]
            simp [countWithout, h]
          · rw [without_cons_of_neg h]
            simpa using hlinks
          · simpa using hunchanged

end Walks

/-! ## The table -/

/-- The number of entries in the first `n` buckets. -/
def total (lists : Nat → List ε) (n : Nat) : Nat := ∑ i ∈ Finset.range n, (lists i).length

/-- The bucket for a key. -/
def Hashtable.indexOf (t : Hashtable ε) (r : Routines ε κ) (key : κ) : Nat := t.bucketIndex (r.hash key)

/-- Bucket `i` of the table is the list of the entries `lists i`. -/
structure Represents (r : Routines ε κ) (t : Hashtable ε) (lists : Nat → List ε) : Prop where
  positive  : 0 < t.bucketCount.toNat
  allocated : t.bucketCount.toNat ≤ t.capacity
  older     : t.buckets < t.nextBlock
  linked    : ∀ i < t.bucketCount.toNat, Linked t.links (.bucket t.buckets i) ((lists i).map .entry)
  hashed    : ∀ i < t.bucketCount.toNat, ∀ e ∈ lists i, t.indexOf r (r.key e) = i
  distinct  : ∀ i < t.bucketCount.toNat, (lists i).Pairwise r.Distinct
  counted   : t.entryCount = BitVec.ofNat 32 (total lists t.bucketCount.toNat)

/-- The entry is in one of the buckets. -/
def Hashtable.Stores (t : Hashtable ε) (lists : Nat → List ε) (e : ε) : Prop :=
  ∃ i < t.bucketCount.toNat, e ∈ lists i

/-- The table after links and the counter have changed. -/
def Hashtable.changed (t : Hashtable ε) (links : Links (Link ε)) (entryCount : ULONG) : Hashtable ε :=
  { t with links := links, entryCount := entryCount }

section Table

variable {r : Routines ε κ} {t : Hashtable ε} {lists : Nat → List ε} {key : κ} {e : ε} {i n : Nat}

theorem total_update (lists : Nat → List ε) (h : i < n) (es : List ε) :
    total (Function.update lists i es) n + (lists i).length = total lists n + es.length :=
  sum_update lists i es (Finset.mem_range.mpr h) List.length

theorem length_le_total (lists : Nat → List ε) (h : i < n) : (lists i).length ≤ total lists n :=
  Finset.single_le_sum (f := fun j => (lists j).length) (fun _ _ => Nat.zero_le _) (Finset.mem_range.mpr h)

namespace Represents

theorem indexOf_lt (h : Represents r t lists) (key : κ) : t.indexOf r key < t.bucketCount.toNat :=
  Nat.mod_lt _ h.positive

theorem bucketAt_eq (h : Represents r t lists) (key : κ) :
    (bucketAt t.buckets t.capacity (t.bucketIndex (r.hash key)) : Except Fault (Link ε)) =
      .ok (.bucket t.buckets (t.indexOf r key)) :=
  bucketAt_of_lt (lt_of_lt_of_le (h.indexOf_lt key) h.allocated)

theorem flink_eq (h : Represents r t lists) (hi : i < t.bucketCount.toNat) :
    t.links.flink (.bucket t.buckets i) = ((lists i).map .entry).headD (.bucket t.buckets i) :=
  (h.linked i hi).segment.flink_eq

/-- Equal keys are in one bucket. -/
theorem indexOf_eq (law : r.Lawful) {a b : κ} (h : r.equals a b = true) : t.indexOf r a = t.indexOf r b := by
  rw [Hashtable.indexOf, Hashtable.indexOf, law.hash_eq a b h]

/-- The keys of any two entries are inequal. -/
theorem distinct_of_ne (law : r.Lawful) (h : Represents r t lists) {a b : ε} (ha : t.Stores lists a)
    (hb : t.Stores lists b) (hne : a ≠ b) : r.Distinct a b := by
  obtain ⟨i, hi, ha⟩ := ha
  obtain ⟨j, hj, hb⟩ := hb
  by_contra hequal
  have hequal : r.equals (r.key a) (r.key b) = true := by simpa [Routines.Distinct] using hequal
  have hij : i = j := by rw [← h.hashed i hi a ha, ← h.hashed j hj b hb, indexOf_eq law hequal]
  subst hij
  have : Std.Symm r.Distinct := ⟨fun x y hxy => by rwa [Routines.Distinct, law.equals_comm]⟩
  have hdistinct : r.Distinct a b := (h.distinct i hi).forall ha hb hne
  rw [Routines.Distinct, hequal] at hdistinct
  cases hdistinct

/-- **One bucket changes.** -/
theorem changed (h : Represents r t lists) (hi : i < t.bucketCount.toNat) {es : List ε} {links : Links (Link ε)}
    {nodes : List (Link ε)} (hlinked : Linked links (.bucket t.buckets i) (es.map .entry))
    (hunchanged : Unchanged t.links links nodes)
    (hnodes : ∀ x ∈ nodes, x = .bucket t.buckets i ∨ ∃ e, x = .entry e ∧ t.indexOf r (r.key e) = i)
    (hhashed : ∀ e ∈ es, t.indexOf r (r.key e) = i) (hdistinct : es.Pairwise r.Distinct) {count : ULONG}
    (hcount : count = BitVec.ofNat 32 (total (Function.update lists i es) t.bucketCount.toNat)) :
    Represents r (t.changed links count) (Function.update lists i es) := by
  refine ⟨h.positive, h.allocated, h.older, ?_, ?_, ?_, hcount⟩
  · intro j hj
    by_cases hji : j = i
    · subst hji
      rw [Function.update_self]
      exact hlinked
    · rw [Function.update_of_ne hji]
      apply (h.linked j hj).frame hunchanged
      intro x hx hmem
      rcases hnodes x hmem with rfl | ⟨e, rfl, he⟩
      · simp [Ne.symm hji] at hx
      · have hej : e ∈ lists j := by simpa using hx
        exact hji ((h.hashed j hj e hej).symm.trans he)
  · intro j hj e he
    by_cases hji : j = i
    · subst hji
      rw [Function.update_self] at he
      exact hhashed e he
    · rw [Function.update_of_ne hji] at he
      exact h.hashed j hj e he
  · intro j hj
    by_cases hji : j = i
    · subst hji
      rw [Function.update_self]
      exact hdistinct
    · rw [Function.update_of_ne hji]
      exact h.distinct j hj

end Represents

end Table

/-! ## Operations on entries -/

section Entries

variable {r : Routines ε κ} {t : Hashtable ε} {lists : Nat → List ε} {fuel : Nat}

/-- The lists after an entry was put, and after an entry was removed. -/
def listsPut (r : Routines ε κ) (t : Hashtable ε) (lists : Nat → List ε) (entry : ε) : Nat → List ε :=
  let i := t.indexOf r (r.key entry)
  Function.update lists i (entry :: r.without (r.key entry) (lists i))

def listsRemove (r : Routines ε κ) (t : Hashtable ε) (lists : Nat → List ε) (key : κ) : Nat → List ε :=
  let i := t.indexOf r key
  Function.update lists i (r.without key (lists i))

/-- The entry with the key, if there is one. -/
def lookup (r : Routines ε κ) (t : Hashtable ε) (lists : Nat → List ε) (key : κ) : Option ε :=
  (lists (t.indexOf r key)).find? (r.hasKey key)

theorem total_listsPut (law : r.Lawful) (h : Represents r t lists) (entry : ε) :
    total (listsPut r t lists entry) t.bucketCount.toNat + (if (lookup r t lists (r.key entry)).isSome then 1 else 0) =
      total lists t.bucketCount.toNat + 1 := by
  have hi := h.indexOf_lt (r.key entry)
  have hsum := total_update lists hi
    (entry :: r.without (r.key entry) (lists (t.indexOf r (r.key entry))))
  have hlength := law.length_without (r.key entry) (h.distinct _ hi)
  rw [List.length_cons] at hsum
  rw [listsPut, lookup]
  omega

theorem total_listsRemove (law : r.Lawful) (h : Represents r t lists) (key : κ) :
    total (listsRemove r t lists key) t.bucketCount.toNat + (if (lookup r t lists key).isSome then 1 else 0) =
      total lists t.bucketCount.toNat := by
  have hi := h.indexOf_lt key
  have hsum := total_update lists hi (r.without key (lists (t.indexOf r key)))
  have hlength := law.length_without key (h.distinct _ hi)
  rw [listsRemove, lookup]
  omega

theorem without_subset {key : κ} {es : List ε} : ∀ e ∈ r.without key es, e ∈ es :=
  fun _ he => (List.mem_filter.mp he).1

variable [DecidableEq ε]

/-- **`JphtPutEntryHashtable`** returns the entry that it replaces. -/
theorem putEntryHashtable_spec (law : r.Lawful) (h : Represents r t lists) (entry : ε)
    (hfuel : total lists t.bucketCount.toNat < fuel) :
    ∃ links count, putEntryHashtable r fuel entry t = .ok (t.changed links count, lookup r t lists (r.key entry)) ∧
      Represents r (t.changed links count) (listsPut r t lists entry) ∧
      Unchanged t.links links (.entry entry :: .bucket t.buckets (t.indexOf r (r.key entry)) ::
        (lists (t.indexOf r (r.key entry))).map .entry) := by
  have hi := h.indexOf_lt (r.key entry)
  have hlookup : (lists (t.indexOf r (r.key entry))).find? (r.hasKey (r.key entry)) =
    lookup r t lists (r.key entry) := rfl
  have hcount := total_listsPut law h entry
  have hput : listsPut r t lists entry = Function.update lists (t.indexOf r (r.key entry))
    (entry :: r.without (r.key entry) (lists (t.indexOf r (r.key entry)))) := rfl
  generalize hidx : t.indexOf r (r.key entry) = i at hi hlookup hput ⊢
  have hlength := length_le_total lists hi
  obtain ⟨links, hrun, hlinked, hunchanged⟩ := putLoop_spec law [] entry t none
    (h.linked i hi) (h.distinct i hi) (lt_of_le_of_lt hlength hfuel)
  rw [List.nil_append] at hlinked hunchanged
  have hfresh : (Link.entry entry : Link ε) ∉
      .bucket t.buckets i :: (r.without (r.key entry) (lists i)).map .entry := by
    have hkey : r.hasKey (r.key entry) entry = true := law.refl _
    simp [Routines.without, hkey]
  have hsame : Unchanged t.links (links.insertHeadList (.bucket t.buckets i) (.entry entry))
      (.entry entry :: .bucket t.buckets i :: (lists i).map .entry) := by
    apply (hunchanged.mono (by simp)).trans
    apply (insertHeadList_unchanged hlinked (.entry entry)).mono
    intro x hx
    simp only [List.mem_cons, List.mem_map] at hx ⊢
    rcases hx with hx | hx | ⟨e, he, hx⟩
    · exact Or.inl hx
    · exact Or.inr (Or.inl hx)
    · exact Or.inr (Or.inr ⟨e, without_subset e he, hx⟩)
  refine ⟨links.insertHeadList (.bucket t.buckets i) (.entry entry),
    countWithout r (r.key entry) (lists i) t.entryCount + 1#32, ?_, ?_, hsame⟩
  · simp only [putEntryHashtable, h.bucketAt_eq, ok_bind, hidx, h.flink_eq hi, hrun, hlookup, Option.or_none]
    rfl
  · rw [hput]
    refine h.changed hi (insertHeadList_linked hlinked hfresh) hsame ?_ ?_ ?_ ?_
    · intro x hx
      simp only [List.mem_cons, List.mem_map] at hx
      rcases hx with rfl | rfl | ⟨e, he, rfl⟩
      · exact Or.inr ⟨entry, rfl, hidx⟩
      · exact Or.inl rfl
      · exact Or.inr ⟨e, rfl, h.hashed i hi e he⟩
    · intro e he
      rcases List.mem_cons.mp he with rfl | he
      · exact hidx
      · exact h.hashed i hi e (without_subset e he)
    · refine List.pairwise_cons.mpr ⟨?_, (h.distinct i hi).filter _⟩
      intro e he
      have hkey : r.hasKey (r.key entry) e = false := by simpa using (List.mem_filter.mp he).2
      rw [Routines.Distinct, law.equals_key]
      exact hkey
    · rw [← hput, countWithout, hlookup, h.counted]
      cases hfound : (lookup r t lists (r.key entry)).isSome with
      | true =>
          rw [if_pos rfl, BitVec.sub_add_cancel]
          rw [hfound, if_pos rfl] at hcount
          rw [Nat.add_right_cancel hcount]
      | false =>
          rw [hfound, if_neg (by simp), Nat.add_zero] at hcount
          rw [if_neg (by simp), hcount, BitVec.ofNat_add]

/-- **`JphtGetEntryHashtable`** finds the entry with the key. -/
theorem getEntryHashtable_spec (h : Represents r t lists) (key : κ)
    (hfuel : total lists t.bucketCount.toNat < fuel) :
    getEntryHashtable r fuel key t = .ok (lookup r t lists key) := by
  have hi := h.indexOf_lt key
  have hlength := length_le_total lists hi
  have hget := getLoop_spec r [] key (h.linked _ hi) (lt_of_le_of_lt hlength hfuel)
  simp only [getEntryHashtable, h.bucketAt_eq, ok_bind, h.flink_eq hi]
  exact hget

/-- **`JphtRemoveEntryHashtable`** returns the entry that it removes. -/
theorem removeEntryHashtable_spec (law : r.Lawful) (h : Represents r t lists) (key : κ)
    (hfuel : total lists t.bucketCount.toNat < fuel) :
    ∃ links count, removeEntryHashtable r fuel key t = .ok (t.changed links count, lookup r t lists key) ∧
      Represents r (t.changed links count) (listsRemove r t lists key) := by
  have hi := h.indexOf_lt key
  have hlength := length_le_total lists hi
  have hcount := total_listsRemove law h key
  obtain ⟨links, hrun, hlinked, hunchanged⟩ := removeLoop_spec law [] key t
    (h.linked _ hi) (h.distinct _ hi) (lt_of_le_of_lt hlength hfuel)
  rw [List.nil_append] at hlinked hunchanged
  refine ⟨links, countWithout r key (lists (t.indexOf r key)) t.entryCount, ?_, h.changed hi hlinked hunchanged ?_ ?_ ?_ ?_⟩
  · simp only [removeEntryHashtable, h.bucketAt_eq, ok_bind, h.flink_eq hi, hrun]
    rfl
  · intro x hx
    simp only [List.mem_cons, List.mem_map] at hx
    rcases hx with rfl | ⟨e, he, rfl⟩
    · exact Or.inl rfl
    · exact Or.inr ⟨e, rfl, h.hashed _ hi e he⟩
  · exact fun e he => h.hashed _ hi e (without_subset e he)
  · exact (h.distinct _ hi).filter _
  · rw [countWithout, ← lookup, ← listsRemove, h.counted]
    cases hfound : (lookup r t lists key).isSome with
    | true =>
        rw [hfound, if_pos rfl] at hcount
        rw [if_pos rfl, ← hcount, BitVec.ofNat_add]
        exact BitVec.add_sub_cancel _ _
    | false =>
        rw [hfound, if_neg (by simp), Nat.add_zero] at hcount
        rw [if_neg (by simp), hcount]

end Entries

end Cfix.Jpht
