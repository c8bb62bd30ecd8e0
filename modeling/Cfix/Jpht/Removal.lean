import Cfix.Jpht.Enumerate
import Cfix.Jpht.Refinement

/-!
# `Jpht.Removal` — callbacks that take entries out of the table they enumerate (`jpht/hashtable.c`)

A callback may remove the entry it is called with, and free it; the links of the entry are then whatever the memory
holds. The enumeration here is the one of `Jpht.Enumerate` and returns in addition what it has read and which calls
have returned, so that both can be compared.
-/

namespace Cfix.Jpht

open LinkedList

variable {ε κ σ γ : Type} [DecidableEq ε]

/-! ## Accesses -/

/-- What the enumeration does: it reads the forward link of a bucket or of an entry, and the call of the callback for
    an entry, made in a state, returns. -/
inductive Access (ε σ : Type) where
  | read (x : Link ε)
  | returned (e : ε) (s : σ)

section Traced

variable (table : σ → Hashtable ε) (callback : ε → σ → Except Fault σ)

/-- The inner loop, with its accesses. -/
def enumerateBucketTraced (listHead : Link ε) : Nat → Link ε → σ → Except Fault (σ × List (Access ε σ))
  | 0,         _,         _ => .error .outOfFuel
  | steps + 1, listEntry, s =>
    if listEntry = listHead then .ok (s, [])
    else
      match listEntry with
      | .bucket _ _  => .error .wildAccess
      | .entry entry => do
        let nextEntry := (table s).links.flink listEntry
        let s' ← callback entry s
        let (s'', accesses) ← enumerateBucketTraced listHead steps nextEntry s'
        .ok (s'', .read listEntry :: .returned entry s :: accesses)

/-- The outer loop, with its accesses. -/
def enumerateFromTraced (fuel : Nat) : Nat → Nat → σ → Except Fault (σ × List (Access ε σ))
  | 0,         _,           _ => .error .outOfFuel
  | steps + 1, bucketIndex, s =>
    if bucketIndex < (table s).bucketCount.toNat then do
      let listHead ← bucketAt (table s).buckets (table s).capacity bucketIndex
      let (s, accesses) ← enumerateBucketTraced table callback listHead fuel ((table s).links.flink listHead) s
      let (s, rest) ← enumerateFromTraced fuel steps (bucketIndex + 1) s
      .ok (s, .read listHead :: accesses ++ rest)
    else .ok (s, [])

/-- `JphtEnumerateEntries`, with its accesses. -/
def enumerateEntriesTraced (fuel : Nat) (s : σ) : Except Fault (σ × List (Access ε σ)) :=
  enumerateFromTraced table callback fuel (2 ^ 32) 0 s

variable {table callback}

theorem enumerateBucket_of_traced {listHead listEntry : Link ε} {steps : Nat} {s s' : σ} {accesses : List (Access ε σ)}
    (h : enumerateBucketTraced table callback listHead steps listEntry s = .ok (s', accesses)) :
    enumerateBucket table callback listHead steps listEntry s = .ok s' := by
  induction steps generalizing listEntry s accesses with
  | zero => cases h
  | succ steps ih =>
      unfold enumerateBucketTraced at h
      unfold enumerateBucket
      split at h
      · next heq =>
          cases h
          rw [if_pos heq]
      · next hne =>
          rw [if_neg hne]
          cases listEntry with
          | bucket block index => cases h
          | entry entry =>
              obtain ⟨s₁, hcall, h⟩ := bind_eq_ok h
              obtain ⟨⟨s₂, rest⟩, hrest, h⟩ := bind_eq_ok h
              cases h
              simp only [hcall, ok_bind]
              exact ih hrest

theorem enumerateFrom_of_traced {fuel steps bucketIndex : Nat} {s s' : σ} {accesses : List (Access ε σ)}
    (h : enumerateFromTraced table callback fuel steps bucketIndex s = .ok (s', accesses)) :
    enumerateFrom table callback fuel steps bucketIndex s = .ok s' := by
  induction steps generalizing bucketIndex s accesses with
  | zero => cases h
  | succ steps ih =>
      unfold enumerateFromTraced at h
      unfold enumerateFrom
      split at h
      · next hlt =>
          obtain ⟨listHead, hbucket, h⟩ := bind_eq_ok h
          obtain ⟨⟨s₁, first⟩, hfirst, h⟩ := bind_eq_ok h
          obtain ⟨⟨s₂, rest⟩, hrest, h⟩ := bind_eq_ok h
          cases h
          simp only [if_pos hlt, hbucket, ok_bind, enumerateBucket_of_traced hfirst]
          exact ih hrest
      · next hge =>
          cases h
          rw [if_neg hge]

/-- **The accesses are those of the enumeration.** -/
theorem enumerateEntries_of_traced {fuel : Nat} {s s' : σ} {accesses : List (Access ε σ)}
    (h : enumerateEntriesTraced table callback fuel s = .ok (s', accesses)) :
    enumerateEntries table callback fuel s = .ok s' :=
  enumerateFrom_of_traced h

end Traced

/-- The entries for which the callback was called, in this order. -/
def called : List (Access ε σ) → List ε
  | []                      => []
  | .read _ :: rest       => called rest
  | .returned e _ :: rest => e :: called rest

/-- The later access does not read an entry whose call has returned. -/
def Access.Before (a b : Access ε σ) : Prop := ∀ e s, a = .returned e s → b ≠ .read (.entry e)

/-- No entry is read after the call for it has returned. -/
def NoReadAfterReturn (accesses : List (Access ε σ)) : Prop := accesses.Pairwise Access.Before

omit [DecidableEq ε] in
@[simp] theorem called_append (as bs : List (Access ε σ)) : called (as ++ bs) = called as ++ called bs := by
  induction as with
  | nil => rfl
  | cons a as ih =>
      cases a with
      | read x => exact ih
      | returned e s =>
          show e :: called (as ++ bs) = e :: (called as ++ called bs)
          rw [ih]

omit [DecidableEq ε] in
theorem mem_called {accesses : List (Access ε σ)} {e : ε} {s : σ} (h : .returned e s ∈ accesses) :
    e ∈ called accesses := by
  induction accesses with
  | nil => cases h
  | cons a rest ih =>
      cases a with
      | read x =>
          apply ih
          simpa using h
      | returned e' s' =>
          rcases List.mem_cons.mp h with heq | h
          · cases heq
            exact List.mem_cons_self
          · exact List.mem_cons_of_mem _ (ih h)

omit [DecidableEq ε] in
/-- Traces follow each other if the later one reads no entry that the earlier one has called for. -/
theorem NoReadAfterReturn.append {as bs : List (Access ε σ)} (has : NoReadAfterReturn as) (hbs : NoReadAfterReturn bs)
    (h : ∀ e ∈ called as, .read (.entry e) ∉ bs) : NoReadAfterReturn (as ++ bs) := by
  refine List.pairwise_append.mpr ⟨has, hbs, ?_⟩
  rintro a ha b hb e s rfl rfl
  exact h e (mem_called ha) hb

omit [DecidableEq ε] in
theorem NoReadAfterReturn.cons_read {accesses : List (Access ε σ)} (h : NoReadAfterReturn accesses) (x : Link ε) :
    NoReadAfterReturn (.read x :: accesses) := by
  refine List.pairwise_cons.mpr ⟨?_, h⟩
  intro b _ e s heq
  cases heq

/-! ## Callbacks -/

/-- What a callback does with its entry. A removed entry is freed, and its memory then holds these links. -/
inductive Decision (ε : Type) where
  | keep
  | remove (flink blink : Link ε)

def Decision.keeps : Decision ε → Bool
  | .keep       => true
  | .remove _ _ => false

/-- A callback that touches no entry but its own: it decides from the entry, the table and its context. -/
abbrev Callback (ε γ : Type) := ε → Hashtable ε → γ → Decision ε × γ

/-- The memory of an entry is overwritten. -/
def Hashtable.overwrite (t : Hashtable ε) (e : ε) (flink blink : Link ε) : Hashtable ε :=
  { t with
    links :=
      { flink := Function.update t.links.flink (.entry e) flink
        blink := Function.update t.links.blink (.entry e) blink } }

/-- The call: the entry is removed by its key. -/
def Callback.run (r : Routines ε κ) (fuel : Nat) (callback : Callback ε γ) (e : ε) (s : Hashtable ε × γ) :
    Except Fault (Hashtable ε × γ) :=
  match callback e s.1 s.2 with
  | (.keep, context)               => .ok (s.1, context)
  | (.remove flink blink, context) => do
    let (t, _) ← removeEntryHashtable r fuel (r.key e) s.1
    .ok (t.overwrite e flink blink, context)

/-- The entries that the callback did not remove. -/
def kept (callback : Callback ε γ) : List (Access ε (Hashtable ε × γ)) → List ε
  | []                      => []
  | .read _ :: rest       => kept callback rest
  | .returned e s :: rest => if (callback e s.1 s.2).1.keeps then e :: kept callback rest else kept callback rest

omit [DecidableEq ε] in
@[simp] theorem kept_append (callback : Callback ε γ) (as bs : List (Access ε (Hashtable ε × γ))) :
    kept callback (as ++ bs) = kept callback as ++ kept callback bs := by
  induction as with
  | nil => rfl
  | cons a as ih =>
      cases a with
      | read x => exact ih
      | returned e s =>
          simp only [List.cons_append, kept, ih]
          split <;> rfl

omit [DecidableEq ε] in
/-- A callback that always removes its entry keeps none. -/
theorem kept_eq_nil {callback : Callback ε γ} (h : ∀ e t context, (callback e t context).1.keeps = false)
    (accesses : List (Access ε (Hashtable ε × γ))) : kept callback accesses = [] := by
  induction accesses with
  | nil => rfl
  | cons a rest ih =>
      cases a with
      | read x => exact ih
      | returned e s => rw [kept, h, if_neg Bool.false_ne_true, ih]

omit [DecidableEq ε] in
theorem length_kept_le (callback : Callback ε γ) (accesses : List (Access ε (Hashtable ε × γ))) :
    (kept callback accesses).length ≤ (called accesses).length := by
  induction accesses with
  | nil => exact Nat.le_refl 0
  | cons a rest ih =>
      cases a with
      | read x => exact ih
      | returned e s =>
          simp only [kept, called]
          split
          · exact Nat.succ_le_succ ih
          · exact Nat.le_succ_of_le ih

/-- What `CfixkrsDeleteRegistrationHashtableCallback` and `CdiagsTearDownHandlerFromHashtableCallback` do to the table:
    every entry is removed and freed. `memory` is what its links then hold. -/
def deleteEntry (memory : ε → Link ε) : Callback ε γ := fun e _ context => (.remove (memory e) (memory e), context)

/-! ## One call -/

section Call

variable {r : Routines ε κ} {t : Hashtable ε} {lists : Nat → List ε} {done rest : List ε} {e : ε} {i : Nat}

/-- The memory of an entry that is not in the table does not matter. -/
theorem Represents.overwrite (h : Represents r t lists) (hout : ¬ t.Stores lists e) (flink blink : Link ε) :
    Represents r (t.overwrite e flink blink) lists := by
  refine ⟨h.positive, h.allocated, h.older, ?_, h.hashed, h.distinct, h.counted⟩
  intro i hi
  have hunchanged : Unchanged t.links (t.overwrite e flink blink).links [.entry e] := by
    intro x hx
    have hne : x ≠ .entry e := by simpa using hx
    exact ⟨Function.update_of_ne hne _ _, Function.update_of_ne hne _ _⟩
  apply (h.linked i hi).frame hunchanged
  intro x hx hmem
  obtain rfl : x = .entry e := by simpa using hmem
  apply hout
  exact ⟨i, hi, by simpa using hx⟩

omit [DecidableEq ε] in
/-- The key of an entry selects this entry only. -/
theorem Routines.Lawful.without_key (law : r.Lawful) (h : (done ++ e :: rest).Pairwise r.Distinct) :
    r.without (r.key e) (done ++ e :: rest) = done ++ rest := by
  obtain ⟨-, hrest, hcross⟩ := List.pairwise_append.mp h
  have hself : r.hasKey (r.key e) e = true := law.refl _
  have hdone : ∀ x ∈ done, r.hasKey (r.key e) x = false := fun x hx => hcross x hx e (by simp)
  have hbehind : ∀ x ∈ rest, r.hasKey (r.key e) x = false := law.tail_hasKey hrest hself
  show (done ++ e :: rest).filter _ = done ++ rest
  rw [List.filter_append]
  have hleft := without_eq_self hdone
  have hright := (without_cons_of_pos hself).trans (without_eq_self hbehind)
  rw [Routines.without] at hleft hright
  rw [hleft, hright]

/-- **The call for an entry** takes it out of its bucket, or leaves the table alone. -/
theorem Callback.run_spec (law : r.Lawful) (h : Represents r t lists) (callback : Callback ε γ) (context : γ)
    {fuel : Nat} (hi : i < t.bucketCount.toNat) (hes : lists i = done ++ e :: rest)
    (hfuel : total lists t.bucketCount.toNat < fuel) :
    ∃ links count, callback.run r fuel e (t, context) = .ok (t.changed links count, (callback e t context).2) ∧
      Represents r (t.changed links count) (Function.update lists i
        (if (callback e t context).1.keeps then done ++ e :: rest else done ++ rest)) := by
  cases hdecision : callback e t context with
  | mk decision context' =>
      cases decision with
      | keep =>
          refine ⟨t.links, t.entryCount, ?_, ?_⟩
          · simp only [Callback.run, hdecision]
            rfl
          · have hsame : Function.update lists i (done ++ e :: rest) = lists := by
              rw [← hes]
              exact Function.update_eq_self i lists
            show Represents r t (Function.update lists i (done ++ e :: rest))
            rw [hsame]
            exact h
      | remove flink blink =>
          have hidx : t.indexOf r (r.key e) = i := h.hashed i hi e (by rw [hes]; simp)
          have hlists : listsRemove r t lists (r.key e) = Function.update lists i (done ++ rest) := by
            have hdistinct := h.distinct i hi
            rw [hes] at hdistinct
            rw [listsRemove, hidx, hes, law.without_key hdistinct]
          obtain ⟨links, count, hrun, hrep⟩ := removeEntryHashtable_spec law h (r.key e) hfuel
          rw [hlists] at hrep
          have hout : ¬ (t.changed links count).Stores (Function.update lists i (done ++ rest)) e := by
            rintro ⟨j, hj, he⟩
            by_cases hji : j = i
            · subst hji
              rw [Function.update_self] at he
              have hlinked := h.linked j hi
              rw [hes, List.map_append, List.map_cons] at hlinked
              apply hlinked.notMem
              rw [← List.map_append]
              exact List.mem_cons_of_mem _ (List.mem_map.mpr ⟨e, he, rfl⟩)
            · rw [Function.update_of_ne hji] at he
              exact hji ((h.hashed j hj e he).symm.trans hidx)
          refine ⟨_, _, ?_, hrep.overwrite hout flink blink⟩
          simp only [Callback.run, hdecision, hrun, ok_bind]
          rfl

end Call

/-! ## The walk -/

section Walk

variable {r : Routines ε κ} {t : Hashtable ε} {lists : Nat → List ε} {fuel : Nat}

/-- The calls one after the other. -/
def Callback.runAll (r : Routines ε κ) (fuel : Nat) (callback : Callback ε γ) (es : List ε) (s : Hashtable ε × γ) :
    Except Fault (Hashtable ε × γ) :=
  es.foldlM (fun s e => callback.run r fuel e s) s

theorem Callback.runAll_append {callback : Callback ε γ} {es es' : List ε} {s s₁ : Hashtable ε × γ}
    (h : callback.runAll r fuel es s = .ok s₁) :
    callback.runAll r fuel (es ++ es') s = callback.runAll r fuel es' s₁ := by
  unfold Callback.runAll at h ⊢
  rw [List.foldlM_append, h, ok_bind]

/-- The walk along a bucket, from behind the entries `done` on. -/
theorem enumerateBucketTraced_spec (law : r.Lawful) (callback : Callback ε γ) {i steps : Nat} (done : List ε)
    {rest : List ε} (context : γ) (h : Represents r t lists) (hi : i < t.bucketCount.toNat) (hes : lists i = done ++ rest)
    (hfuel : total lists t.bucketCount.toNat < fuel) (hsteps : rest.length < steps) :
    ∃ links count context' accesses,
      enumerateBucketTraced Prod.fst (callback.run r fuel) (.bucket t.buckets i) steps
        ((rest.map .entry).headD (.bucket t.buckets i)) (t, context) =
          .ok ((t.changed links count, context'), accesses) ∧
      Represents r (t.changed links count) (Function.update lists i (done ++ kept callback accesses)) ∧
      called accesses = rest ∧
      (∀ e, .read (.entry e) ∈ accesses → e ∈ rest) ∧
      NoReadAfterReturn accesses ∧
      callback.runAll r fuel rest (t, context) = .ok (t.changed links count, context') := by
  induction rest generalizing t lists done steps context with
  | nil =>
      obtain ⟨steps, rfl⟩ : ∃ n, steps = n + 1 := ⟨steps - 1, by simp at hsteps; omega⟩
      refine ⟨t.links, t.entryCount, context, [], ?_, ?_, rfl, by simp, List.Pairwise.nil, rfl⟩
      · show enumerateBucketTraced _ _ _ (steps + 1) (.bucket t.buckets i) _ = _
        rw [enumerateBucketTraced, if_pos rfl]
        rfl
      · have hsame : Function.update lists i (done ++ []) = lists := by
          rw [← hes]
          exact Function.update_eq_self i lists
        show Represents r t (Function.update lists i (done ++ []))
        rw [hsame]
        exact h
  | cons e rest ih =>
      obtain ⟨steps, rfl⟩ : ∃ n, steps = n + 1 := ⟨steps - 1, by simp at hsteps; omega⟩
      have hlinked := h.linked i hi
      rw [hes, List.map_append, List.map_cons] at hlinked
      -- the next entry is read before the call
      have hnext : t.links.flink (.entry e) = (rest.map .entry).headD (.bucket t.buckets i) :=
        (segment_append.mp hlinked.segment).2.flink_eq
      have hfresh : e ∉ rest := by
        intro he
        apply hlinked.notMem
        exact List.mem_cons_of_mem _ (List.mem_append_right _ (List.mem_map.mpr ⟨e, he, rfl⟩))
      obtain ⟨links₁, count₁, hcall, hrep₁⟩ := callback.run_spec law h context hi hes hfuel
      -- what is in front of the next entry: the entry, if it was kept
      obtain ⟨done₁, hdone₁⟩ : ∃ done₁, done₁ = done ++ if (callback e t context).1.keeps then [e] else [] := ⟨_, rfl⟩
      have hlists₁ : (if (callback e t context).1.keeps then done ++ e :: rest else done ++ rest) = done₁ ++ rest := by
        rw [hdone₁]
        split <;> simp
      rw [hlists₁] at hrep₁
      have hsum := total_update lists hi (done₁ ++ rest)
      have hlength : (done₁ ++ rest).length ≤ (lists i).length := by
        rw [hes, hdone₁]
        split <;> simp
      obtain ⟨links, count, context', accesses, hrun, hrep, hcalled, hread, hclosed, hfold⟩ :=
        ih (t := t.changed links₁ count₁) done₁ (callback e t context).2 hrep₁ hi
          (Function.update_self i _ lists) (by show total _ t.bucketCount.toNat < fuel; omega)
          (by simpa using hsteps)
      refine ⟨links, count, context', .read (.entry e) :: .returned e (t, context) :: accesses, ?_, ?_, ?_, ?_, ?_, ?_⟩
      · simp only [List.map_cons, List.headD_cons, enumerateBucketTraced, reduceCtorEq, if_false, hcall, ok_bind, hnext]
        have hrun' : enumerateBucketTraced Prod.fst (callback.run r fuel) (.bucket t.buckets i) steps
            ((rest.map .entry).headD (.bucket t.buckets i)) (t.changed links₁ count₁, (callback e t context).2) =
              .ok ((t.changed links count, context'), accesses) := hrun
        rw [hrun', ok_bind]
      · rw [Function.update_idem, hdone₁] at hrep
        have hkept : done ++ kept callback (.read (.entry e) :: .returned e (t, context) :: accesses) =
            (done ++ if (callback e t context).1.keeps then [e] else []) ++ kept callback accesses := by
          simp only [kept]
          split <;> simp
        rw [hkept]
        exact hrep
      · show e :: called accesses = e :: rest
        rw [hcalled]
      · intro e' he'
        rcases List.mem_cons.mp he' with heq | he'
        · cases heq
          exact List.mem_cons_self
        · rcases List.mem_cons.mp he' with heq | he'
          · cases heq
          · exact List.mem_cons_of_mem _ (hread e' he')
      · apply NoReadAfterReturn.cons_read
        refine List.pairwise_cons.mpr ⟨?_, hclosed⟩
        rintro b hb e' s' heq rfl
        cases heq
        exact hfresh (hread e hb)
      · show ((callback.run r fuel e (t, context)) >>= fun s => callback.runAll r fuel rest s) = _
        rw [hcall, ok_bind]
        exact hfold

omit [DecidableEq ε] in
/-- The buckets up to an index, of which the last one has been enumerated. -/
theorem exists_before_succ {lists : Nat → List ε} {index : Nat} {l : List ε} {e : ε} :
    (∃ i < index + 1, e ∈ Function.update lists index l i) ↔ (∃ i < index, e ∈ lists i) ∨ e ∈ l := by
  constructor
  · rintro ⟨i, hi, he⟩
    by_cases hlast : i = index
    · rw [hlast, Function.update_self] at he
      exact Or.inr he
    · rw [Function.update_of_ne hlast] at he
      exact Or.inl ⟨i, by omega, he⟩
  · rintro (⟨i, hi, he⟩ | he)
    · refine ⟨i, by omega, ?_⟩
      rw [Function.update_of_ne (Nat.ne_of_lt hi)]
      exact he
    · refine ⟨index, Nat.lt_succ_self index, ?_⟩
      rw [Function.update_self]
      exact he

/-- The buckets from the index on: those before it hold what was kept of them. -/
theorem enumerateFromTraced_spec (law : r.Lawful) (callback : Callback ε γ) {steps index : Nat} (context : γ)
    (h : Represents r t lists) (hindex : index ≤ t.bucketCount.toNat)
    (hfuel : total lists t.bucketCount.toNat < fuel) (hsteps : t.bucketCount.toNat < index + steps) :
    ∃ links count context' accesses lists',
      enumerateFromTraced Prod.fst (callback.run r fuel) fuel steps index (t, context) =
          .ok ((t.changed links count, context'), accesses) ∧
      Represents r (t.changed links count) lists' ∧
      called accesses = (List.range' index (t.bucketCount.toNat - index)).flatMap lists ∧
      (∀ e, .read (.entry e) ∈ accesses → e ∈ called accesses) ∧
      NoReadAfterReturn accesses ∧
      callback.runAll r fuel (called accesses) (t, context) = .ok (t.changed links count, context') ∧
      (∀ e, t.Stores lists' e ↔ (∃ i < index, e ∈ lists i) ∨ e ∈ kept callback accesses) ∧
      total lists' t.bucketCount.toNat + (called accesses).length =
        total lists t.bucketCount.toNat + (kept callback accesses).length := by
  induction steps generalizing index t lists context with
  | zero => omega
  | succ steps ih =>
      by_cases hlt : index < t.bucketCount.toNat
      · have hlength := length_le_total lists hlt
        obtain ⟨links₁, count₁, context₁, accesses₁, hrun₁, hrep₁, hcalled₁, hread₁, hclosed₁, hfold₁⟩ :=
          enumerateBucketTraced_spec law callback [] context h hlt rfl hfuel
            (by omega : (lists index).length < fuel)
        rw [List.nil_append] at hrep₁
        have hle := length_kept_le callback accesses₁
        rw [hcalled₁] at hle
        have hsum := total_update lists hlt (kept callback accesses₁)
        -- the buckets ahead are as they were
        have hahead : (List.range' (index + 1) (t.bucketCount.toNat - (index + 1))).flatMap
            (Function.update lists index (kept callback accesses₁)) =
              (List.range' (index + 1) (t.bucketCount.toNat - (index + 1))).flatMap lists := by
          apply List.flatMap_congr
          intro i hi
          apply Function.update_of_ne
          have hge := (List.mem_range'_1.mp hi).1
          omega
        obtain ⟨links, count, context', accesses, lists', hrun, hrep, hcalled, hread, hclosed, hfold, hstores, htotal⟩ :=
          ih (t := t.changed links₁ count₁) context₁ hrep₁ (show index + 1 ≤ t.bucketCount.toNat from hlt)
            (by show total _ t.bucketCount.toNat < fuel; omega)
            (by show t.bucketCount.toNat < index + 1 + steps; omega)
        have hcalled' : called accesses =
            (List.range' (index + 1) (t.bucketCount.toNat - (index + 1))).flatMap lists := hcalled.trans hahead
        have htotal' : total lists' t.bucketCount.toNat + (called accesses).length =
          total (Function.update lists index (kept callback accesses₁)) t.bucketCount.toNat +
            (kept callback accesses).length := htotal
        refine ⟨links, count, context', .read (.bucket t.buckets index) :: accesses₁ ++ accesses, lists', ?_, hrep, ?_, ?_,
          ?_, ?_, ?_, ?_⟩
        · have hrun' : enumerateFromTraced Prod.fst (callback.run r fuel) fuel steps (index + 1)
            (t.changed links₁ count₁, context₁) = .ok ((t.changed links count, context'), accesses) := hrun
          simp only [enumerateFromTraced, if_pos hlt, bucketAt_of_lt (lt_of_lt_of_le hlt h.allocated), ok_bind,
            h.flink_eq hlt, hrun₁, hrun']
        · have hrange : t.bucketCount.toNat - index = t.bucketCount.toNat - (index + 1) + 1 := by omega
          rw [hrange, List.range'_succ, List.flatMap_cons, ← hcalled', ← hcalled₁]
          exact called_append accesses₁ accesses
        · intro e he
          show e ∈ called (accesses₁ ++ accesses)
          rw [called_append]
          rcases List.mem_append.mp he with he | he
          · apply List.mem_append_left
            rw [hcalled₁]
            apply hread₁
            simpa using he
          · exact List.mem_append_right _ (hread e he)
        · apply (hclosed₁.cons_read _).append hclosed
          intro e hfirst hlater
          have hfirst' : e ∈ lists index := by
            rw [← hcalled₁]
            exact hfirst
          have hlater' := hread e hlater
          rw [hcalled'] at hlater'
          obtain ⟨j, hj, he⟩ := List.mem_flatMap.mp hlater'
          have hrange := List.mem_range'_1.mp hj
          exact h.not_mem hlt (by omega) (by omega) hfirst' he
        · show callback.runAll r fuel (called (accesses₁ ++ accesses)) _ = _
          rw [called_append, hcalled₁, Callback.runAll_append hfold₁]
          exact hfold
        · intro e
          have hstep : t.Stores lists' e ↔
            (∃ i < index + 1, e ∈ Function.update lists index (kept callback accesses₁) i) ∨ e ∈ kept callback accesses :=
              hstores e
          show _ ↔ _ ∨ e ∈ kept callback (accesses₁ ++ accesses)
          rw [hstep, kept_append, List.mem_append, ← or_assoc]
          exact or_congr_left exists_before_succ
        · show total lists' t.bucketCount.toNat + (called (accesses₁ ++ accesses)).length =
            total lists t.bucketCount.toNat + (kept callback (accesses₁ ++ accesses)).length
          rw [called_append, kept_append, List.length_append, List.length_append, hcalled₁]
          omega
      · have hzero : t.bucketCount.toNat - index = 0 := by omega
        refine ⟨t.links, t.entryCount, context, [], lists, by simp [enumerateFromTraced, hlt, Hashtable.changed], h, ?_,
          by simp, List.Pairwise.nil, rfl, ?_, rfl⟩
        · rw [hzero]
          rfl
        · intro e
          have hend : index = t.bucketCount.toNat := by omega
          rw [hend]
          constructor
          · exact Or.inl
          · rintro (he | he)
            · exact he
            · cases he

omit [DecidableEq ε] in
/-- The entries in the order of the enumeration. -/
theorem called_entries (lists : Nat → List ε) (n : Nat) :
    (List.range n).flatMap lists = (entriesBefore lists n).reverse := by
  induction n with
  | zero => rfl
  | succ n ih => simp [List.range_succ, List.flatMap_append, entriesBefore, ih]

/-- **The enumeration is the calls for the entries**, in the order of the buckets. -/
theorem enumerateEntriesTraced_spec (law : r.Lawful) (callback : Callback ε γ) (context : γ) (h : Represents r t lists)
    (hfuel : total lists t.bucketCount.toNat < fuel) :
    ∃ links count context' accesses lists',
      enumerateEntriesTraced Prod.fst (callback.run r fuel) fuel (t, context) =
          .ok ((t.changed links count, context'), accesses) ∧
      Represents r (t.changed links count) lists' ∧
      called accesses = (entriesBefore lists t.bucketCount.toNat).reverse ∧
      NoReadAfterReturn accesses ∧
      callback.runAll r fuel (called accesses) (t, context) = .ok (t.changed links count, context') ∧
      (∀ e, t.Stores lists' e ↔ e ∈ kept callback accesses) ∧
      total lists' t.bucketCount.toNat = (kept callback accesses).length := by
  obtain ⟨links, count, context', accesses, lists', hrun, hrep, hcalled, -, hclosed, hfold, hstores, htotal⟩ :=
    enumerateFromTraced_spec law callback context h (Nat.zero_le _) hfuel
      (by rw [Nat.zero_add]; exact t.bucketCount.isLt : t.bucketCount.toNat < 0 + 2 ^ 32)
  rw [Nat.sub_zero, ← List.range_eq_range', called_entries] at hcalled
  refine ⟨links, count, context', accesses, lists', hrun, hrep, hcalled, hclosed, hfold, ?_, ?_⟩
  · intro e
    rw [hstores e]
    simp
  · rw [hcalled, List.length_reverse, length_entriesBefore] at htotal
    omega

end Walk

section Keeps

variable {r : Routines ε κ} {t : Hashtable ε} {lists : Nat → List ε} {fuel : Nat}

theorem Callback.runAll_of_keeps {callback : Callback ε γ} (hkeeps : ∀ e t context, (callback e t context).1 = .keep)
    (r : Routines ε κ) (fuel : Nat) (t : Hashtable ε) (es : List ε) (context : γ) :
    callback.runAll r fuel es (t, context) = .ok (t, es.foldl (fun context e => (callback e t context).2) context) := by
  induction es generalizing context with
  | nil => rfl
  | cons e es ih =>
      have hcall : callback.run r fuel e (t, context) = .ok (t, (callback e t context).2) := by
        cases hdecision : callback e t context with
        | mk decision context' =>
            have hkeep := hkeeps e t context
            rw [hdecision] at hkeep
            obtain rfl : decision = .keep := hkeep
            simp only [Callback.run, hdecision]
      show (callback.run r fuel e (t, context) >>= fun s => callback.runAll r fuel es s) = _
      rw [hcall, ok_bind]
      exact ih _

/-- **A callback that keeps every entry** is folded over the entries. -/
theorem enumerateEntries_keeps (law : r.Lawful) {callback : Callback ε γ}
    (hkeeps : ∀ e t context, (callback e t context).1 = .keep) (h : Represents r t lists) (context : γ)
    (hfuel : total lists t.bucketCount.toNat < fuel) :
    enumerateEntries Prod.fst (callback.run r fuel) fuel (t, context) =
      .ok (t, (entriesBefore lists t.bucketCount.toNat).reverse.foldl (fun context e => (callback e t context).2)
        context) := by
  obtain ⟨links, count, context', accesses, lists', hrun, -, hcalled, -, hfold, -, -⟩ :=
    enumerateEntriesTraced_spec law callback context h hfuel
  rw [enumerateEntries_of_traced hrun, ← hfold, hcalled, Callback.runAll_of_keeps hkeeps]

end Keeps

/-! ## Removal during enumeration -/

section Enumeration

variable {r : Routines ε κ} {t : Hashtable ε} {lists : Nat → List ε} {fuel : Nat}

/-- **A callback may remove its entry.** It is called once for each entry, no entry is read once its call has returned,
    and the table then holds the entries that were kept. -/
theorem enumerateEntries_tolerates_removal (law : r.Lawful) (h : Represents r t lists) (callback : Callback ε γ)
    (context : γ) (hfuel : total lists t.bucketCount.toNat < fuel) :
    ∃ t' context' accesses lists',
      enumerateEntriesTraced Prod.fst (callback.run r fuel) fuel (t, context) = .ok ((t', context'), accesses) ∧
      enumerateEntries Prod.fst (callback.run r fuel) fuel (t, context) = .ok (t', context') ∧
      (called accesses).Nodup ∧ (∀ e, e ∈ called accesses ↔ t.Stores lists e) ∧
      NoReadAfterReturn accesses ∧
      Represents r t' lists' ∧ (∀ e, t'.Stores lists' e ↔ e ∈ kept callback accesses) ∧
      t'.entryCount = BitVec.ofNat 32 (kept callback accesses).length ∧
      ((∀ e t context, (callback e t context).1.keeps = false) → t'.entryCount = 0#32) := by
  obtain ⟨links, count, context', accesses, lists', hrun, hrep, hcalled, hclosed, -, hstores, htotal⟩ :=
    enumerateEntriesTraced_spec law callback context h hfuel
  have hcounted : (t.changed links count).entryCount = BitVec.ofNat 32 (kept callback accesses).length := by
    rw [hrep.counted, ← htotal]
    rfl
  refine ⟨t.changed links count, context', accesses, lists', hrun, enumerateEntries_of_traced hrun, ?_, ?_, hclosed, hrep,
    hstores, hcounted, ?_⟩
  · rw [hcalled, List.nodup_reverse]
    exact h.nodup_entriesBefore le_rfl
  · intro e
    rw [hcalled, List.mem_reverse]
    exact mem_entriesBefore
  · intro hremoves
    rw [hcounted, kept_eq_nil hremoves]
    rfl

/-- A bucket with the entries 2 and 5. -/
def twoEntries : Hashtable Nat where
  entryCount  := 2#32
  bucketCount := 1#32
  buckets     := 0
  capacity    := 1
  nextBlock   := 1
  links       :=
    { flink := fun x => if x = .bucket 0 0 then .entry 2 else if x = .entry 2 then .entry 5 else .bucket 0 0
      blink := fun x => if x = .bucket 0 0 then .entry 5 else if x = .entry 5 then .entry 2 else .bucket 0 0 }

theorem twoEntries_represents : Represents halves twoEntries (fun _ => [2, 5]) := by
  refine ⟨by decide, by decide, by decide, ?_, ?_, ?_, by decide⟩
  · intro i hi
    obtain rfl : i = 0 := by
      have hlt : i < 1 := hi
      omega
    refine ⟨?_, by decide⟩
    simp [Segment, twoEntries]
  · intro i hi e _
    have hlt : i < 1 := hi
    have hmod : twoEntries.indexOf halves (halves.key e) < 1 := Nat.mod_lt _ (by decide)
    omega
  · intro i hi
    exact List.pairwise_cons.mpr ⟨by simp [Routines.Distinct, halves], List.pairwise_singleton _ _⟩

/-- Both entries are removed, and their links overwritten by links to themselves. -/
theorem enumerateEntries_tolerates_removal_twoEntries :
    ∃ t' context', enumerateEntries Prod.fst ((deleteEntry Link.entry).run halves 3) 3 (twoEntries, ()) =
        .ok (t', context') ∧ t'.entryCount = 0#32 := by
  obtain ⟨t', context', -, -, -, hrun, -, -, -, -, -, -, hempty⟩ :=
    enumerateEntries_tolerates_removal halves_lawful twoEntries_represents (deleteEntry Link.entry) ()
      (by decide : _ < 3)
  exact ⟨t', context', hrun, hempty (fun _ _ _ => rfl)⟩

end Enumeration

end Cfix.Jpht
