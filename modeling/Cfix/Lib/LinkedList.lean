import Mathlib.Data.List.Nodup
import Mathlib.Logic.Function.Basic

/-!
# `Lib.LinkedList` — circular doubly linked lists whose links are part of the objects

Every object, and the head of every list, has a forward and a backward link; all lists live in one store of
links. A list is known by its head: `Linked m head xs` says that the links lead from the head through `xs` and
back, in both directions. An operation on one list changes links of its own objects only (`Unchanged`), so the
other lists stay what they are.
-/

namespace LinkedList

/-- The links of all objects. -/
structure Links (α : Type) where
  flink : α → α
  blink : α → α

variable {α : Type}

/-! ## Lists in a store of links -/

/-- The links lead from `a` through `xs` to `b`, and back. -/
def Segment (m : Links α) : α → List α → α → Prop
  | a, [],      b => m.flink a = b ∧ m.blink b = a
  | a, x :: xs, b => (m.flink a = x ∧ m.blink x = a) ∧ Segment m x xs b

/-- The forward links lead from `p` along `xs` to `b`, where `p` is the first of them. -/
def Path (m : Links α) : α → List α → α → Prop
  | p, [],      b => p = b
  | p, x :: xs, b => p = x ∧ Path m (m.flink x) xs b

/-- The list with this head. -/
structure Linked (m : Links α) (head : α) (xs : List α) : Prop where
  segment : Segment m head xs head
  nodup   : (head :: xs).Nodup

/-- Only links of these objects differ. -/
def Unchanged (m m' : Links α) (xs : List α) : Prop :=
  ∀ x, x ∉ xs → m'.flink x = m.flink x ∧ m'.blink x = m.blink x

theorem Unchanged.refl (m : Links α) (xs : List α) : Unchanged m m xs := fun _ _ => ⟨rfl, rfl⟩

theorem Unchanged.trans {m m' m'' : Links α} {xs : List α} (h : Unchanged m m' xs) (h' : Unchanged m' m'' xs) :
    Unchanged m m'' xs := by
  intro x hx
  obtain ⟨hf, hb⟩ := h x hx
  obtain ⟨hf', hb'⟩ := h' x hx
  exact ⟨hf'.trans hf, hb'.trans hb⟩

theorem Unchanged.mono {m m' : Links α} {xs ys : List α} (h : Unchanged m m' xs) (hsub : xs ⊆ ys) :
    Unchanged m m' ys :=
  fun x hx => h x (fun hmem => hx (hsub hmem))

theorem Segment.congr {m m' : Links α} {a b : α} {xs : List α} (h : Segment m a xs b)
    (hf : ∀ x ∈ a :: xs, m'.flink x = m.flink x) (hb : ∀ x ∈ b :: xs, m'.blink x = m.blink x) :
    Segment m' a xs b := by
  induction xs generalizing a with
  | nil =>
      obtain ⟨h1, h2⟩ := h
      exact ⟨by rw [hf a (by simp), h1], by rw [hb b (by simp), h2]⟩
  | cons x xs ih =>
      obtain ⟨⟨h1, h2⟩, hrest⟩ := h
      refine ⟨⟨by rw [hf a (by simp), h1], by rw [hb x (by simp), h2]⟩, ih hrest ?_ ?_⟩
      · exact fun y hy => hf y (List.mem_cons_of_mem _ hy)
      · intro y hy
        apply hb y
        rcases List.mem_cons.mp hy with rfl | hy
        · simp
        · simp [hy]

theorem segment_append {m : Links α} {a y b : α} {xs ys : List α} :
    Segment m a (xs ++ y :: ys) b ↔ Segment m a xs y ∧ Segment m y ys b := by
  induction xs generalizing a with
  | nil => exact Iff.rfl
  | cons x xs ih =>
      rw [List.cons_append]
      simp only [Segment, ih, and_assoc]

/-- The object before the end of a segment. -/
theorem Segment.blink_mem {m : Links α} {a b : α} {xs : List α} (h : Segment m a xs b) : m.blink b ∈ a :: xs := by
  induction xs generalizing a with
  | nil => simp [h.2]
  | cons x xs ih => exact List.mem_cons_of_mem _ (ih h.2)

/-- The object behind the start of a segment. -/
theorem Segment.flink_mem {m : Links α} {a b : α} {xs : List α} (h : Segment m a xs b) : m.flink a ∈ b :: xs := by
  cases xs with
  | nil => simp [h.1]
  | cons x xs => simp [h.1.1]

theorem Segment.flink_eq {m : Links α} {a b : α} {xs : List α} (h : Segment m a xs b) : m.flink a = xs.headD b := by
  cases xs with
  | nil => exact h.1
  | cons x xs => exact h.1.1

theorem Segment.path {m : Links α} {a b : α} {xs : List α} (h : Segment m a xs b) : Path m (m.flink a) xs b := by
  induction xs generalizing a with
  | nil => exact h.1
  | cons x xs ih => exact ⟨h.1.1, ih h.2⟩

theorem Path.congr {m m' : Links α} {p b : α} {xs : List α} (h : Path m p xs b)
    (hf : ∀ x ∈ xs, m'.flink x = m.flink x) : Path m' p xs b := by
  induction xs generalizing p with
  | nil => exact h
  | cons x xs ih =>
      obtain ⟨rfl, hrest⟩ := h
      refine ⟨rfl, ?_⟩
      rw [hf p (by simp)]
      exact ih hrest (fun y hy => hf y (List.mem_cons_of_mem _ hy))

/-- **Frame.** A list is not affected by changes to other objects. -/
theorem Linked.frame {m m' : Links α} {head : α} {xs ys : List α} (h : Linked m head xs) (hu : Unchanged m m' ys)
    (hdisjoint : ∀ x ∈ head :: xs, x ∉ ys) : Linked m' head xs :=
  ⟨h.segment.congr (fun x hx => (hu x (hdisjoint x hx)).1) (fun x hx => (hu x (hdisjoint x hx)).2), h.nodup⟩

/-! ## Operations -/

namespace Links

variable [DecidableEq α] (m : Links α)

def initializeListHead (listHead : α) : Links α where
  flink := Function.update m.flink listHead listHead
  blink := Function.update m.blink listHead listHead

def insertHeadList (listHead entry : α) : Links α :=
  let oldFlink := m.flink listHead
  { flink := Function.update (Function.update m.flink entry oldFlink) listHead entry
    blink := Function.update (Function.update m.blink entry listHead) oldFlink entry }

def removeEntryList (entry : α) : Links α :=
  let oldFlink := m.flink entry
  let oldBlink := m.blink entry
  { flink := Function.update m.flink oldBlink oldFlink
    blink := Function.update m.blink oldFlink oldBlink }

end Links

section Operations

variable [DecidableEq α] {m : Links α} {head x : α} {xs ys : List α}

theorem initializeListHead_linked (m : Links α) (head : α) : Linked (m.initializeListHead head) head [] := by
  refine ⟨?_, by simp⟩
  simp [Segment, Links.initializeListHead]

theorem initializeListHead_unchanged (m : Links α) (head : α) :
    Unchanged m (m.initializeListHead head) [head] := by
  intro y hy
  have hne : y ≠ head := by simpa using hy
  simp [Links.initializeListHead, hne]

theorem insertHeadList_linked (h : Linked m head xs) (hx : x ∉ head :: xs) :
    Linked (m.insertHeadList head x) head (x :: xs) := by
  obtain ⟨hne, hxs⟩ : x ≠ head ∧ x ∉ xs := by simpa using hx
  have hhead : head ∉ xs := (List.nodup_cons.mp h.nodup).1
  refine ⟨?_, ?_⟩
  · cases xs with
    | nil =>
        obtain ⟨hf, -⟩ := h.segment
        simp [Segment, Links.insertHeadList, hf, hne]
    | cons y ys =>
        obtain ⟨⟨hf, -⟩, hrest⟩ := h.segment
        obtain ⟨hxy, hxys⟩ : x ≠ y ∧ x ∉ ys := by simpa using hxs
        obtain ⟨hy, hys⟩ : head ≠ y ∧ head ∉ ys := by simpa using hhead
        have hnodup : y ∉ ys := (List.nodup_cons.mp (List.nodup_cons.mp h.nodup).2).1
        refine ⟨?_, ?_, hrest.congr ?_ ?_⟩
        · simp [Links.insertHeadList, hf, hxy]
        · simp [Links.insertHeadList, hf, hne]
        · intro z hz
          rcases List.mem_cons.mp hz with rfl | hz
          · simp [Links.insertHeadList, hy.symm, hxy.symm]
          · have hzh : z ≠ head := fun h => hys (h ▸ hz)
            have hzx : z ≠ x := fun h => hxys (h ▸ hz)
            simp [Links.insertHeadList, hzh, hzx]
        · intro z hz
          rcases List.mem_cons.mp hz with rfl | hz
          · simp [Links.insertHeadList, hf, hy, hne.symm]
          · have hzy : z ≠ y := fun h => hnodup (h ▸ hz)
            have hzx : z ≠ x := fun h => hxys (h ▸ hz)
            simp [Links.insertHeadList, hf, hzy, hzx]
  · simp only [List.nodup_cons, List.mem_cons, not_or]
    exact ⟨⟨hne.symm, hhead⟩, hxs, (List.nodup_cons.mp h.nodup).2⟩

theorem insertHeadList_unchanged (h : Linked m head xs) (x : α) :
    Unchanged m (m.insertHeadList head x) (x :: head :: xs) := by
  intro y hy
  obtain ⟨hyx, hyh, hyxs⟩ : y ≠ x ∧ y ≠ head ∧ y ∉ xs := by simpa using hy
  have hyf : y ≠ m.flink head := by
    rintro rfl
    have hmem := h.segment.flink_mem
    simp [hyh, hyxs] at hmem
  simp [Links.insertHeadList, hyx, hyh, hyf]

/-- The neighbours of a removed object are linked to each other. -/
theorem removeEntryList_segment {a b : α} (hxs : Segment m a xs x) (hys : Segment m x ys b) (hnodup : (a :: xs).Nodup)
    (hnodup' : (b :: ys).Nodup) (hdisjoint : ∀ y ∈ xs, y ∉ b :: ys) (ha : a ∉ ys) :
    Segment (m.removeEntryList x) a (xs ++ ys) b := by
  induction xs generalizing a with
  | nil =>
      obtain ⟨hfa, hbx⟩ := hxs
      cases ys with
      | nil =>
          obtain ⟨hfx, -⟩ := hys
          simp [Segment, Links.removeEntryList, hbx, hfx]
      | cons y ys =>
          obtain ⟨⟨hfx, -⟩, hrest⟩ := hys
          obtain ⟨hb, hy⟩ := List.nodup_cons.mp hnodup'
          have hyys : y ∉ ys := (List.nodup_cons.mp hy).1
          refine ⟨?_, hrest.congr ?_ ?_⟩
          · simp [Links.removeEntryList, hbx, hfx]
          · intro z hz
            have hza : z ≠ a := fun h => ha (h ▸ hz)
            simp [Links.removeEntryList, hbx, hza]
          · intro z hz
            have hzy : z ≠ y := by
              rintro rfl
              rcases List.mem_cons.mp hz with rfl | hz
              · simp at hb
              · exact hyys hz
            simp [Links.removeEntryList, hfx, hzy]
  | cons y xs ih =>
      obtain ⟨⟨hfa, hby⟩, hrest⟩ := hxs
      obtain ⟨hay, hnodup⟩ := List.nodup_cons.mp hnodup
      have hprev : a ≠ m.blink x := fun h => hay (h ▸ hrest.blink_mem)
      have hnext : y ≠ m.flink x := fun h => hdisjoint y (by simp) (h ▸ hys.flink_mem)
      have hy : y ∉ ys := fun h => hdisjoint y (by simp) (List.mem_cons_of_mem _ h)
      refine ⟨?_, ih hrest hnodup (fun z hz => hdisjoint z (List.mem_cons_of_mem _ hz)) hy⟩
      simp [Links.removeEntryList, hprev, hnext, hfa, hby]

theorem removeEntryList_linked (h : Linked m head (xs ++ x :: ys)) :
    Linked (m.removeEntryList x) head (xs ++ ys) := by
  obtain ⟨hsxs, hsys⟩ := segment_append.mp h.segment
  have hnodup : (head :: (xs ++ ys)).Nodup := by
    have hsub : (xs ++ ys).Sublist (xs ++ x :: ys) := (List.sublist_cons_self x ys).append_left xs
    exact List.Nodup.sublist (hsub.cons_cons head) h.nodup
  simp only [List.nodup_cons, List.mem_append, List.nodup_append] at hnodup
  obtain ⟨hhead, hxs, hys, hne⟩ := hnodup
  push Not at hhead
  refine ⟨removeEntryList_segment hsxs hsys ?_ ?_ ?_ hhead.2, ?_⟩
  · exact List.nodup_cons.mpr ⟨hhead.1, hxs⟩
  · exact List.nodup_cons.mpr ⟨hhead.2, hys⟩
  · intro y hy hmem
    rcases List.mem_cons.mp hmem with rfl | hmem
    · exact hhead.1 hy
    · exact hne y hy y hmem rfl
  · simp only [List.nodup_cons, List.mem_append, List.nodup_append]
    exact ⟨by simp [hhead], hxs, hys, hne⟩

omit [DecidableEq α] in
/-- An object is in the list once. -/
theorem Linked.notMem (h : Linked m head (xs ++ x :: ys)) : x ∉ head :: (xs ++ ys) := by
  have hnodup := h.nodup
  simp only [List.nodup_cons, List.nodup_append, List.mem_append, List.mem_cons, not_or] at hnodup
  obtain ⟨⟨-, hhead, -⟩, -, ⟨hys, -⟩, hxs⟩ := hnodup
  simp only [List.mem_cons, List.mem_append, not_or]
  exact ⟨fun heq => hhead heq.symm, fun hx => hxs x hx x (Or.inl rfl) rfl, hys⟩

/-- The removed object keeps its own links, so a walk can go on from it. -/
theorem removeEntryList_unchanged (h : Linked m head (xs ++ x :: ys)) :
    Unchanged m (m.removeEntryList x) (head :: (xs ++ ys)) := by
  obtain ⟨hsxs, hsys⟩ := segment_append.mp h.segment
  intro y hy
  simp only [List.mem_cons, List.mem_append, not_or] at hy
  obtain ⟨hyh, hyxs, hyys⟩ := hy
  have hyb : y ≠ m.blink x := by
    rintro rfl
    have hmem := hsxs.blink_mem
    simp [hyh, hyxs] at hmem
  have hyf : y ≠ m.flink x := by
    rintro rfl
    have hmem := hsys.flink_mem
    simp [hyh, hyys] at hmem
  simp [Links.removeEntryList, hyb, hyf]

end Operations

end LinkedList
