import Cfix.Jpht.Buckets

/-!
# `Jpht.Enumerate` — enumeration of the entries (`jpht/hashtable.c`)

`JphtEnumerateEntries` reads the next entry before it calls the callback, which may take the entry out of the table.
The state of the callback is arbitrary; it contains the table.
-/

namespace Cfix.Jpht

open LinkedList

variable {ε κ σ : Type} [DecidableEq ε]

/-- The inner loop of `JphtEnumerateEntries`, from `listEntry` on. -/
def enumerateBucket (table : σ → Hashtable ε) (callback : ε → σ → Except Fault σ) (listHead : Link ε) :
    Nat → Link ε → σ → Except Fault σ
  | 0,         _,         _ => .error .outOfFuel
  | steps + 1, listEntry, s =>
    if listEntry = listHead then .ok s
    else
      match listEntry with
      | .bucket _ _  => .error .wildAccess
      | .entry entry => do
        let nextEntry := (table s).links.flink listEntry
        let s ← callback entry s
        enumerateBucket table callback listHead steps nextEntry s

/-- The outer loop, from the index on. -/
def enumerateFrom (table : σ → Hashtable ε) (callback : ε → σ → Except Fault σ) (fuel : Nat) :
    Nat → Nat → σ → Except Fault σ
  | 0,         _,           _ => .error .outOfFuel
  | steps + 1, bucketIndex, s =>
    if bucketIndex < (table s).bucketCount.toNat then do
      let listHead ← bucketAt (table s).buckets (table s).capacity bucketIndex
      let s ← enumerateBucket table callback listHead fuel ((table s).links.flink listHead) s
      enumerateFrom table callback fuel steps (bucketIndex + 1) s
    else .ok s

/-- `JphtEnumerateEntries`. The outer loop takes no more than 2^32 steps. -/
def enumerateEntries (table : σ → Hashtable ε) (callback : ε → σ → Except Fault σ) (fuel : Nat) (s : σ) :
    Except Fault σ :=
  enumerateFrom table callback fuel (2 ^ 32) 0 s

/-- A computation that ends had a first step that ended. -/
theorem bind_eq_ok {α β : Type} {x : Except Fault α} {f : α → Except Fault β} {b : β} (h : (x >>= f) = .ok b) :
    ∃ a, x = .ok a ∧ f a = .ok b := by
  cases x with
  | error fault => cases h
  | ok a => exact ⟨a, rfl, h⟩

/-! ## Callbacks that take their entry out -/

variable {r : Routines ε κ} {table : σ → Hashtable ε} {callback : ε → σ → Except Fault σ} {fuel : Nat}
  {P : (Nat → List ε) → σ → Prop}

/-- From a state in which `P` holds, the callback takes the first entry of a bucket out of the table, and `P` holds
    again. -/
def TakesOut (r : Routines ε κ) (table : σ → Hashtable ε) (callback : ε → σ → Except Fault σ)
    (P : (Nat → List ε) → σ → Prop) (fuel : Nat) : Prop :=
  ∀ (lists : Nat → List ε) (s : σ) (i : Nat) (e : ε) (rest : List ε),
    Represents r (table s) lists → P lists s → i < (table s).bucketCount.toNat → lists i = e :: rest →
    total lists (table s).bucketCount.toNat < fuel →
    ∃ s' links count, callback e s = .ok s' ∧ table s' = (table s).changed links count ∧
      Represents r (table s') (Function.update lists i rest) ∧ P (Function.update lists i rest) s'

/-- The entries of one bucket are taken out one after the other. -/
theorem enumerateBucket_spec (htakes : TakesOut r table callback P fuel) {i steps : Nat} {es : List ε}
    {lists : Nat → List ε} {s : σ} (h : Represents r (table s) lists) (hP : P lists s)
    (hi : i < (table s).bucketCount.toNat) (hes : lists i = es)
    (hfuel : total lists (table s).bucketCount.toNat < fuel) (hsteps : es.length < steps) :
    ∃ s' links count, enumerateBucket table callback (.bucket (table s).buckets i) steps
        ((es.map .entry).headD (.bucket (table s).buckets i)) s = .ok s' ∧
      table s' = (table s).changed links count ∧ Represents r (table s') (Function.update lists i []) ∧
      P (Function.update lists i []) s' := by
  induction es generalizing lists s steps with
  | nil =>
      obtain ⟨steps, rfl⟩ : ∃ n, steps = n + 1 := ⟨steps - 1, by simp at hsteps; omega⟩
      have hsame : Function.update lists i [] = lists := by
        rw [← hes]
        exact Function.update_eq_self i lists
      refine ⟨s, (table s).links, (table s).entryCount, by simp [enumerateBucket], rfl, ?_, ?_⟩
      · rw [hsame]
        exact h
      · rw [hsame]
        exact hP
  | cons e rest ih =>
      obtain ⟨steps, rfl⟩ : ∃ n, steps = n + 1 := ⟨steps - 1, by simp at hsteps; omega⟩
      -- the next entry, read before the call, is the first of those that are left
      have hsegment := (h.linked i hi).segment
      rw [hes, List.map_cons] at hsegment
      have hnext : (table s).links.flink (.entry e) = (rest.map .entry).headD (.bucket (table s).buckets i) :=
        hsegment.2.flink_eq
      obtain ⟨s₁, links₁, count₁, hcall, htable, hrep, hP₁⟩ := htakes lists s i e rest h hP hi hes hfuel
      have hbuckets : (table s₁).buckets = (table s).buckets := by rw [htable]; rfl
      have hcount : (table s₁).bucketCount = (table s).bucketCount := by rw [htable]; rfl
      have hsum := total_update lists hi rest
      rw [hes, List.length_cons] at hsum
      obtain ⟨s', links, count, hrun, htable', hrep', hP'⟩ := ih hrep hP₁ (by rw [hcount]; exact hi)
        (Function.update_self i rest lists) (by rw [hcount]; omega)
        (by simp at hsteps; omega : rest.length < steps)
      refine ⟨s', links, count, ?_, ?_, ?_, ?_⟩
      · rw [hbuckets] at hrun
        simp only [enumerateBucket, List.map_cons, List.headD_cons, reduceCtorEq, if_false, hnext, hcall, ok_bind]
        exact hrun
      · rw [htable', htable]
        rfl
      · rwa [Function.update_idem] at hrep'
      · rwa [Function.update_idem] at hP'

/-- The buckets from the index on are emptied. -/
theorem enumerateFrom_spec (htakes : TakesOut r table callback P fuel) {steps index : Nat} {lists : Nat → List ε} {s : σ}
    (h : Represents r (table s) lists) (hP : P lists s) (hdone : ∀ i < index, lists i = [])
    (hindex : index ≤ (table s).bucketCount.toNat) (hfuel : total lists (table s).bucketCount.toNat < fuel)
    (hsteps : (table s).bucketCount.toNat < index + steps) :
    ∃ s' links count lists', enumerateFrom table callback fuel steps index s = .ok s' ∧
      table s' = (table s).changed links count ∧ Represents r (table s') lists' ∧ P lists' s' ∧
      ∀ i < (table s).bucketCount.toNat, lists' i = [] := by
  induction steps generalizing index lists s with
  | zero => omega
  | succ steps ih =>
      by_cases hlt : index < (table s).bucketCount.toNat
      · have hlength := length_le_total lists hlt
        obtain ⟨s₁, links₁, count₁, hbucket, htable, hrep, hP₁⟩ := enumerateBucket_spec htakes h hP hlt rfl hfuel
          (by omega : (lists index).length < fuel)
        have hcount : (table s₁).bucketCount = (table s).bucketCount := by rw [htable]; rfl
        have hsum := total_update lists hlt []
        rw [List.length_nil, Nat.add_zero] at hsum
        have hdone₁ : ∀ i < index + 1, Function.update lists index [] i = [] := by
          intro i hi
          by_cases hlast : i = index
          · subst hlast
            exact Function.update_self i [] lists
          · rw [Function.update_of_ne hlast]
            exact hdone i (by omega)
        obtain ⟨s', links, count, lists', hrun, htable', hrep', hP', hempty⟩ := ih hrep hP₁ hdone₁
          (by rw [hcount]; omega) (by rw [hcount]; omega) (by rw [hcount]; omega)
        refine ⟨s', links, count, lists', ?_, ?_, hrep', hP', ?_⟩
        · simp only [enumerateFrom, if_pos hlt, bucketAt_of_lt (lt_of_lt_of_le hlt h.allocated), ok_bind,
            h.flink_eq hlt, hbucket, hrun]
        · rw [htable', htable]
          rfl
        · rwa [hcount] at hempty
      · refine ⟨s, (table s).links, (table s).entryCount, lists, by simp [enumerateFrom, hlt], rfl, h, hP, ?_⟩
        intro i hi
        exact hdone i (by omega)

/-- **If the callback takes out its entry, the enumeration empties the table.** -/
theorem enumerateEntries_empties (htakes : TakesOut r table callback P fuel) {lists : Nat → List ε} {s : σ}
    (h : Represents r (table s) lists) (hP : P lists s) (hfuel : total lists (table s).bucketCount.toNat < fuel) :
    ∃ s' links count lists', enumerateEntries table callback fuel s = .ok s' ∧
      table s' = (table s).changed links count ∧ Represents r (table s') lists' ∧ P lists' s' ∧
      ∀ i < (table s).bucketCount.toNat, lists' i = [] :=
  enumerateFrom_spec htakes h hP (fun _ hi => absurd hi (Nat.not_lt_zero _)) (Nat.zero_le _) hfuel
    (by rw [Nat.zero_add]; exact (table s).bucketCount.isLt)

omit [DecidableEq ε] in
/-- An empty table has no entries to count. -/
theorem Represents.entryCount_of_empty {t : Hashtable ε} {lists : Nat → List ε} (h : Represents r t lists)
    (hempty : ∀ i < t.bucketCount.toNat, lists i = []) : t.entryCount = 0#32 := by
  have hzero : total lists t.bucketCount.toNat = 0 := by
    rw [total]
    apply Finset.sum_eq_zero
    intro i hi
    rw [hempty i (Finset.mem_range.mp hi), List.length_nil]
  rw [h.counted, hzero]

end Cfix.Jpht
