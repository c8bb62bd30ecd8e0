import Cfix.Storage.Slots
import Mathlib.Tactic.Tauto
import Mathlib.Order.Basic

/-!
# `Storage.ObjectHistory` — histories of test objects

What a run does to the objects of a C++ fixture is a list of events. `Lifecycle` is the rule for it; the
history of a run obeys it iff those of its test cases do (`Lifecycle.append_iff`).
-/

namespace Cfix

/-! ## Object histories -/

/-- What happens to the objects of a fixture. -/
inductive ObjectEvent where
  | beforeStarted (testCase : Nat)
  | constructed (testCase : Nat) (object : Pvoid)
  | methodRan (testCase : Nat) (object : Pvoid)
  | destroyed (object : Pvoid)
  | teardownStarted
  deriving DecidableEq, Repr

/-- The next Before or the Teardown routine starts. -/
def ObjectEvent.starts : ObjectEvent → Bool
  | .beforeStarted _ | .teardownStarted                  => true
  | .constructed _ _ | .methodRan _ _ | .destroyed _     => false

def ObjectEvent.object : ObjectEvent → Option Pvoid
  | .constructed _ object | .methodRan _ object | .destroyed object => some object
  | .beforeStarted _ | .teardownStarted                             => none

/-- **The lifecycle of test objects.** A test method runs on a living object of its own test case; an object
    is destroyed before the next Before or the Teardown routine starts, and only once. -/
structure Lifecycle (log : List ObjectEvent) : Prop where
  method    : ∀ {pre i object post}, log = pre ++ .methodRan i object :: post →
    .constructed i object ∈ pre ∧ .destroyed object ∉ pre
  destroyed : ∀ {pre i object post}, log = pre ++ .constructed i object :: post →
    .destroyed object ∈ post.takeWhile (fun e => !e.starts)
  once      : ∀ object, log.count (.destroyed object) ≤ 1

namespace Lifecycle

variable {l t : List ObjectEvent} {n : Pvoid} {i : Nat}

/-- Where an element of an appended list is. -/
theorem append_eq_append_cons {α : Type} {l t pre post : List α} {x : α} (h : l ++ t = pre ++ x :: post) :
    (∃ pre', pre = l ++ pre' ∧ t = pre' ++ x :: post) ∨ ∃ post', post = post' ++ t ∧ l = pre ++ x :: post' := by
  rcases List.append_eq_append_iff.mp h with ⟨pre', hpre, ht⟩ | ⟨rest, hl, hrest⟩
  · exact .inl ⟨pre', hpre, ht⟩
  · rcases List.cons_eq_append_iff.mp hrest with ⟨rfl, ht⟩ | ⟨post', rfl, hpost⟩
    · exact .inl ⟨[], by simpa using hl.symm, ht⟩
    · exact .inr ⟨post', hpost, hl⟩

theorem takeWhile_append_starts (hstart : ∀ e ∈ t.head?, e.starts = true) (post : List ObjectEvent) :
    (post ++ t).takeWhile (fun e => !e.starts) = post.takeWhile (fun e => !e.starts) := by
  induction post with
  | nil =>
      cases t with
      | nil      => rfl
      | cons e t => simp [hstart e rfl]
  | cons e post ih =>
      cases he : e.starts <;> simp [he, ih]

/-- **The histories of two stretches of a run** can be judged separately, if the second one begins with the
    start of a routine and is about other objects. -/
theorem append_iff (hold : ∀ e ∈ l, ∀ p ∈ e.object, p < n) (hnew : ∀ e ∈ t, ∀ p ∈ e.object, n ≤ p)
    (hstart : ∀ e ∈ t.head?, e.starts = true) : Lifecycle (l ++ t) ↔ Lifecycle l ∧ Lifecycle t := by
  have hdisjoint : ∀ e ∈ l, ∀ e' ∈ t, ∀ p ∈ e.object, p ∉ e'.object := by
    intro e he e' he' p hp hp'
    have hlt := hold e he p hp
    have hle := hnew e' he' p hp'
    exact absurd hlt (not_lt.mpr hle)
  constructor
  · intro h
    refine ⟨⟨?_, ?_, ?_⟩, ⟨?_, ?_, ?_⟩⟩
    · intro pre i object post heq
      have hall : l ++ t = pre ++ .methodRan i object :: (post ++ t) := by simp [heq]
      exact h.method hall
    · intro pre i object post heq
      have hall : l ++ t = pre ++ .constructed i object :: (post ++ t) := by simp [heq]
      have hmem := h.destroyed hall
      rwa [takeWhile_append_starts hstart] at hmem
    · intro object
      have hcount := h.once object
      rw [List.count_append] at hcount
      omega
    · intro pre i object post heq
      have hall : l ++ t = l ++ pre ++ .methodRan i object :: post := by simp [heq]
      obtain ⟨hconstructed, halive⟩ := h.method hall
      rw [List.mem_append, not_or] at halive
      refine ⟨(List.mem_append.mp hconstructed).resolve_left ?_, halive.2⟩
      intro hmem
      exact hdisjoint _ hmem (.methodRan i object) (by simp [heq]) object rfl rfl
    · intro pre i object post heq
      have hall : l ++ t = l ++ pre ++ .constructed i object :: post := by simp [heq]
      exact h.destroyed hall
    · intro object
      have hcount := h.once object
      rw [List.count_append] at hcount
      omega
  · rintro ⟨hl, ht⟩
    refine ⟨?_, ?_, ?_⟩
    · intro pre i object post heq
      rcases append_eq_append_cons heq with ⟨pre', rfl, heq'⟩ | ⟨post', rfl, heq'⟩
      · obtain ⟨hconstructed, halive⟩ := ht.method heq'
        refine ⟨List.mem_append_right l hconstructed, ?_⟩
        rw [List.mem_append, not_or]
        refine ⟨?_, halive⟩
        intro hmem
        exact hdisjoint _ hmem (.methodRan i object) (by simp [heq']) object rfl rfl
      · exact hl.method heq'
    · intro pre i object post heq
      rcases append_eq_append_cons heq with ⟨pre', rfl, heq'⟩ | ⟨post', rfl, heq'⟩
      · exact ht.destroyed heq'
      · rw [takeWhile_append_starts hstart]
        exact hl.destroyed heq'
    · intro object
      rw [List.count_append]
      by_cases hmem : .destroyed object ∈ l
      · have hnone : .destroyed object ∉ t := fun hmem' => hdisjoint _ hmem _ hmem' object rfl rfl
        rw [List.count_eq_zero_of_not_mem hnone]
        exact hl.once object
      · rw [List.count_eq_zero_of_not_mem hmem, Nat.zero_add]
        exact ht.once object

/-- A stretch in which no object is constructed or used. -/
theorem of_none (h : ∀ e ∈ l, e.object = none) : Lifecycle l := by
  have hnot : ∀ e ∈ l, ∀ p, p ∉ e.object := by
    intro e he p hp
    rw [h e he] at hp
    cases hp
  refine ⟨?_, ?_, ?_⟩
  · intro pre i object post heq
    exact absurd rfl (hnot (.methodRan i object) (by simp [heq]) object)
  · intro pre i object post heq
    exact absurd rfl (hnot (.constructed i object) (by simp [heq]) object)
  · intro object
    rw [List.count_eq_zero_of_not_mem]
    · exact Nat.zero_le 1
    · exact fun hmem => hnot _ hmem object rfl

/-- The history of a test case whose object is constructed. -/
def turn (i : Nat) (object : Pvoid) (ran destroyed : Bool) : List ObjectEvent :=
  [.beforeStarted i, .constructed i object] ++ (if ran then [.methodRan i object] else []) ++
    if destroyed then [.destroyed object] else []

theorem object_turn {object : Pvoid} {ran destroyed : Bool} {x : ObjectEvent}
    (hx : x ∈ turn i object ran destroyed) {p : Pvoid} (hp : p ∈ x.object) : p = object := by
  have hcases : x = .beforeStarted i ∨ x = .constructed i object ∨ x = .methodRan i object ∨
      x = .destroyed object := by
    cases ran <;> cases destroyed <;> simp [turn] at hx <;> tauto
  rcases hcases with rfl | rfl | rfl | rfl
  · cases hp
  · exact (Option.some.inj hp).symm
  · exact (Option.some.inj hp).symm
  · exact (Option.some.inj hp).symm

theorem turn_iff (i : Nat) (object : Pvoid) (ran destroyed : Bool) :
    Lifecycle (turn i object ran destroyed) ↔ destroyed = true := by
  constructor
  · intro h
    by_contra hnot
    rw [Bool.not_eq_true] at hnot
    have hall : turn i object ran destroyed = [.beforeStarted i] ++ .constructed i object ::
        if ran then [.methodRan i object] else [] := by simp [turn, hnot]
    have hmem := h.destroyed hall
    cases ran <;> simp [ObjectEvent.starts] at hmem
  · rintro rfl
    refine ⟨?_, ?_, ?_⟩
    · intro pre j object' post heq
      cases ran with
      | false => simp [turn, List.cons_eq_append_iff] at heq
      | true  =>
          simp only [turn, List.cons_eq_append_iff, if_true, List.cons_append, List.nil_append] at heq
          simp at heq
          obtain ⟨rfl, ⟨rfl, rfl⟩, -⟩ := heq
          simp
    · intro pre j object' post heq
      cases ran <;> simp [turn, List.cons_eq_append_iff] at heq
      all_goals
        obtain ⟨-, ⟨rfl, rfl⟩, rfl⟩ := heq
        simp [ObjectEvent.starts]
    · intro object'
      cases ran <;> simp [turn, List.count_cons]
      all_goals split <;> omega

end Lifecycle

end Cfix
