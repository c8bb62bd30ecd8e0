import Cfix.Filament.Outcome
import Cfix.Lib.Transition
import Cfix.Lib.UpdateCount

/-!
# `Filament.Conservation` — references on execution contexts

Every thread whose current filament belongs to an execution context accounts for one reference on that
context. The calls conserve this, and leave the state alone when they fail, exactly when a failure does not
come after the old reference was dropped (`CleanSet`).
-/

namespace Cfix.Thread

open Transition UpdateCount

variable (F : FilamentId → Filament)

/-! ## Calls -/

/-- A call that changes the current filament of a thread. -/
inductive FilamentCall where
  /-- `CfixpSetCurrentFilament`, to set, reset or restore a filament. -/
  | set (t : ThreadId) (new : Option FilamentId) (handleHr : HRESULT)
  /-- `CfixpGetCurrentFilament`, which attaches a thread without filament to the default filament. -/
  | get (t : ThreadId) (handleHr : HRESULT)
  deriving DecidableEq, Repr

def FilamentCall.thread : FilamentCall → ThreadId
  | .set t _ _ => t
  | .get t _   => t

/-- The result of a call; `none` if it blocks. -/
def FilamentCall.result (w : World) : FilamentCall → Option (HRESULT × World)
  | .set t new handleHr => (setCurrentFilament F t new false handleHr w).map (fun r => (r.1, r.2.2))
  | .get t handleHr     => (getCurrentFilament F t handleHr w).map (fun r => (r.1, r.2.2))

/-- The state after a call that completes. -/
def nextWorld (w : World) (call : FilamentCall) : Option World := (call.result F w).map Prod.snd

/-! ## The property -/

/-- **Conservation**: the references on each context are as many as the threads whose current filament
    belongs to it. -/
def Conserved (w : World) : Prop :=
  ∀ c, {t | contextOf F (w.tls t).filament = some c}.Finite ∧
    w.contextRefs c = {t | contextOf F (w.tls t).filament = some c}.ncard

/-- What a failed call of thread `t` must not change. -/
structure Unchanged (t : ThreadId) (w w' : World) : Prop where
  current     : (w'.tls t).filament = (w.tls t).filament
  default_    : w'.default_ = w.default_
  contextRefs : w'.contextRefs = w.contextRefs

/-- The call conserves the references and, if it fails, changes nothing. -/
def CallOk (w : World) (call : FilamentCall) : Prop :=
  ∀ hr w', call.result F w = some (hr, w') →
    Conserved F w' ∧ (failed hr = true → Unchanged call.thread w w')

/-- A thread that has a filament does not fail to register as child thread, and a main thread does not
    meet another default filament, unless the two filaments have one context. -/
def CleanSet (w : World) (t : ThreadId) (new : Option FilamentId) (handleHr : HRESULT) : Prop :=
  (registersAsChild F t new = true → failed handleHr = true ∨ w.full new = true →
    (w.tls t).filament = none) ∧
  (w.conflicts F t new = true → contextOf F (w.tls t).filament = contextOf F new)

def Clean (w : World) : FilamentCall → Prop
  | .set t new handleHr => CleanSet F w t new handleHr
  | .get t handleHr     =>
    (w.tls t).filament = none → ∀ d, w.default_ = some d → CleanSet F w t (some d) handleHr

/-! ## One call -/

section Calls

variable {F} {t : ThreadId} {new prev : Option FilamentId} {derived : Bool} {handleHr hr : HRESULT}
  {w w' : World}

/-- Conservation when the TLS slot of one thread changes along with the references. -/
theorem conserved_update {v : TlsValue} (hw : Conserved F w) (htls : w'.tls = Function.update w.tls t v)
    (hctx : ∀ c, w'.contextRefs c
      = w.contextRefs c - refsOf F (w.tls t).filament c + refsOf F v.filament c) : Conserved F w' := by
  intro c
  obtain ⟨hfin, hcount⟩ := hw c
  have hn := ncard_update (fun v : TlsValue => contextOf F v.filament = some c) w.tls t v hfin
  rw [htls]
  refine ⟨finite_update (fun v : TlsValue => contextOf F v.filament = some c) w.tls t v hfin, ?_⟩
  rw [hctx c, hcount]
  unfold refsOf
  split at hn <;> split at hn <;> simp_all
  omega

/-- Conservation when nothing changes. -/
theorem conserved_same (hw : Conserved F w) (htls : w'.tls = w.tls) (hctx : w'.contextRefs = w.contextRefs) :
    Conserved F w' := by
  intro c
  rw [htls, hctx]
  exact hw c

theorem refsOf_none (c : ContextId) : refsOf F none c = 0 := by
  simp [refsOf, contextOf]

/-- A registering thread is not the main thread, so it does not conflict. -/
theorem conflicts_eq_false_of_registers (h : registersAsChild F t new = true) :
    w.conflicts F t new = false := by
  cases new with
  | none => rfl
  | some f =>
      have hne : t ≠ (F f).mainThreadId := by simpa [registersAsChild] using h
      simp [World.conflicts, hne]

/-- **A clean call is fine.** -/
theorem SetOutcome.ok (hw : Conserved F w) (hclean : CleanSet F w t new handleHr)
    (h : SetOutcome F t new derived handleHr w hr prev w') :
    Conserved F w' ∧ (failed hr = true → Unchanged t w w') := by
  cases h with
  | installed _ _ htls _ _ hctx =>
      refine ⟨conserved_update hw htls hctx, ?_⟩
      intro hf
      rw [failed_sOk] at hf
      cases hf
  | noHandle hreg hf htls hd _ hctx =>
      -- there was no old reference to drop
      have hnone := hclean.1 hreg (.inl hf)
      have hsame : w'.contextRefs = w.contextRefs := by
        funext c
        rw [hctx c, hnone, refsOf_none, Int.sub_zero]
      exact ⟨conserved_same hw htls hsame, fun _ => ⟨by rw [htls], hd, hsame⟩⟩
  | tooMany hreg _ hfull htls hd _ hctx =>
      have hnone := hclean.1 hreg (.inr hfull)
      have hsame : w'.contextRefs = w.contextRefs := by
        funext c
        rw [hctx c, hnone, refsOf_none, Int.sub_zero]
      refine ⟨conserved_update hw htls ?_, fun _ => ⟨?_, hd, hsame⟩⟩
      · intro c
        rw [hctx c, refsOf_none, Int.add_zero]
      · rw [htls, Function.update_self, hnone]
  | conflict hc htls hd _ hctx =>
      -- the new reference stands in for the old one, which was on the same context
      have hctxs := hclean.2 hc
      have hsame : w'.contextRefs = w.contextRefs := by
        funext c
        rw [hctx c]
        simp only [refsOf, hctxs]
        omega
      exact ⟨conserved_same hw htls hsame, fun _ => ⟨by rw [htls], hd, hsame⟩⟩

/-- A dropped reference shows. -/
theorem not_unchanged_of_drop {x : FilamentId} (hx : (w.tls t).filament = some x)
    (hctx : ∀ c, w'.contextRefs c = w.contextRefs c - refsOf F (w.tls t).filament c) :
    ¬ Unchanged t w w' := by
  intro h
  have hc := hctx (F x).executionContext
  rw [h.contextRefs, hx] at hc
  simp only [refsOf, contextOf, Option.map_some, if_true] at hc
  omega

/-- **A call that is not clean fails and changes something.** -/
theorem SetOutcome.bad (hclean : ¬ CleanSet F w t new handleHr)
    (h : SetOutcome F t new derived handleHr w hr prev w') : failed hr = true ∧ ¬ Unchanged t w w' := by
  have hcases : (registersAsChild F t new = true ∧ (failed handleHr = true ∨ w.full new = true) ∧
      (w.tls t).filament ≠ none) ∨
      (w.conflicts F t new = true ∧ contextOf F (w.tls t).filament ≠ contextOf F new) := by
    unfold CleanSet at hclean
    rw [not_and_or] at hclean
    rcases hclean with hc | hc
    · rw [Classical.not_imp, Classical.not_imp] at hc
      exact .inl hc
    · rw [Classical.not_imp] at hc
      exact .inr hc
  cases h with
  | installed hreg hc _ _ _ _ =>
      rcases hcases with ⟨hr, hbad, -⟩ | ⟨hconf, -⟩
      · obtain ⟨h₁, h₂⟩ := hreg hr
        rw [h₁, h₂] at hbad
        simp at hbad
      · rw [hc] at hconf
        cases hconf
  | noHandle hreg hf htls _ _ hctx =>
      refine ⟨hf, ?_⟩
      rcases hcases with ⟨-, -, hold⟩ | ⟨hconf, -⟩
      · obtain ⟨x, hx⟩ := Option.ne_none_iff_exists'.mp hold
        exact not_unchanged_of_drop hx hctx
      · rw [conflicts_eq_false_of_registers hreg] at hconf
        cases hconf
  | tooMany hreg _ _ htls _ _ hctx =>
      refine ⟨failed_eTooManyChildThreads, ?_⟩
      rcases hcases with ⟨-, -, hold⟩ | ⟨hconf, -⟩
      · obtain ⟨x, hx⟩ := Option.ne_none_iff_exists'.mp hold
        exact not_unchanged_of_drop hx hctx
      · rw [conflicts_eq_false_of_registers hreg] at hconf
        cases hconf
  | conflict hc htls _ _ hctx =>
      refine ⟨failed_eDefaultFilamentConflict, ?_⟩
      rcases hcases with ⟨hreg, -⟩ | ⟨-, hne⟩
      · rw [conflicts_eq_false_of_registers hreg] at hc
        cases hc
      · intro h
        cases new with
        | none => cases hc
        | some f =>
            -- the new context has one reference more
            have hcf := hctx (F f).executionContext
            rw [h.contextRefs] at hcf
            have hold : refsOf F (w.tls t).filament (F f).executionContext = 0 := by
              exact if_neg hne
            have hnew : refsOf F (some f) (F f).executionContext = 1 := by
              exact if_pos rfl
            omega

end Calls

/-! ## Runs of calls -/

theorem conserved_initial : Conserved F .initial := by
  intro c
  have hempty : {t | contextOf F (World.initial.tls t).filament = some c} = ∅ := by
    ext t
    simp [World.initial, contextOf]
  rw [hempty]
  exact ⟨Set.finite_empty, by rw [Set.ncard_empty]; rfl⟩

/-- For a call that completes, being fine and being clean are the same. -/
theorem callOk_iff {w w₁ : World} {call : FilamentCall} (hw : Conserved F w)
    (h : nextWorld F w call = some w₁) : CallOk F w call ↔ Clean F w call := by
  obtain ⟨⟨hr, w'⟩, hres, -⟩ := Option.map_eq_some_iff.mp h
  cases call with
  | set t new handleHr =>
      obtain ⟨⟨hr', prev, w''⟩, hset, heq⟩ := Option.map_eq_some_iff.mp hres
      cases heq
      constructor
      · intro hok
        by_contra hclean
        obtain ⟨hf, hne⟩ := (setCurrentFilament_some F hset).bad hclean
        exact hne ((hok _ _ hres).2 hf)
      · intro hclean hr₂ w₂ hres₂
        obtain ⟨⟨_, prev₂, _⟩, hset₂, heq₂⟩ := Option.map_eq_some_iff.mp hres₂
        cases heq₂
        exact (setCurrentFilament_some F hset₂).ok hw hclean
  | get t handleHr =>
      obtain ⟨⟨hr', v, w''⟩, hget, heq⟩ := Option.map_eq_some_iff.mp hres
      cases heq
      constructor
      · intro hok hnone d hd
        by_contra hclean
        rcases getCurrentFilament_some F hget with ⟨hsome, -⟩ | ⟨-, hd', -⟩ | ⟨d', prev, -, hd', hout⟩
        · exact hsome hnone
        · rw [hd] at hd'
          cases hd'
        · rw [hd] at hd'
          cases hd'
          obtain ⟨hf, hne⟩ := hout.bad hclean
          exact hne ((hok _ _ hres).2 hf)
      · intro hclean hr₂ w₂ hres₂
        obtain ⟨⟨_, v₂, _⟩, hget₂, heq₂⟩ := Option.map_eq_some_iff.mp hres₂
        cases heq₂
        rcases getCurrentFilament_some F hget₂ with ⟨-, rfl, rfl⟩ | ⟨-, -, -, rfl⟩ | ⟨d, prev, hnone, hd, hout⟩
        · refine ⟨hw, fun hf => ?_⟩
          rw [failed_sOk] at hf
          cases hf
        · exact ⟨hw, fun _ => ⟨rfl, rfl, rfl⟩⟩
        · exact hout.ok hw (hclean hnone d hd)

/-- **Conservation over a run of calls**: all calls of the run conserve the references and change nothing
    when they fail iff all calls are clean. -/
theorem callsOk_iff (calls : List FilamentCall) {w : World}
    (hr : run (nextWorld F) .initial calls = some w) :
    Meets (nextWorld F) (CallOk F) .initial calls ↔ Meets (nextWorld F) (Clean F) .initial calls := by
  refine meets_congr (I := Conserved F) (fun w call w₁ hw h => callOk_iff F hw h) ?_ (conserved_initial F) hr
  intro w call w₁ _ hok h
  obtain ⟨⟨hr, w'⟩, hres, rfl⟩ := Option.map_eq_some_iff.mp h
  exact (hok hr w' hres).1

/-! ## Two runs -/

/-- Filament `i` belongs to context `i`; its main thread is thread `i`, and it provides the default filament
    iff `i` is even. -/
def filamentsByThread (i : FilamentId) : Filament :=
  { executionContext := i
    mainThreadId     := i
    flags            := if i % 2 = 0 then filamentFlagDefaultFilament else 0#32 }

/-- Main thread 0 installs and restores its filament; thread 1 attaches itself and detaches. -/
def attachAndDetach : List FilamentCall :=
  [.set 0 (some 0) sOk, .get 1 sOk, .set 1 none sOk, .set 0 none sOk]

theorem callsOk_attachAndDetach :
    Meets (nextWorld filamentsByThread) (CallOk filamentsByThread) .initial attachAndDetach := by
  refine (callsOk_iff filamentsByThread attachAndDetach rfl).mpr ?_
  refine .cons rfl ⟨by decide, by decide⟩ (.cons rfl ?_ ?_)
  · intro _ d hd
    cases hd
    exact ⟨by decide, by decide⟩
  · refine .cons rfl ⟨by decide, by decide⟩ (.cons rfl ⟨by decide, by decide⟩ trivial)

/-- The error of a failed `DuplicateHandle`: `ERROR_NOT_ENOUGH_MEMORY`. -/
def eNotEnoughMemory : HRESULT := 0x80070008#32

/-- A child thread of filament 0 runs a nested test on filament 1 and restores filament 0, for which no
    handle can be duplicated. -/
def failedRestore : List FilamentCall :=
  [.set 1 (some 0) sOk, .set 1 (some 1) sOk, .set 1 (some 0) eNotEnoughMemory]

/-- The failed restore drops the reference on the context of the filament that stays current. -/
theorem failedRestore_leaks :
    (∃ w, run (nextWorld filamentsByThread) .initial failedRestore = some w) ∧
    ¬ Meets (nextWorld filamentsByThread) (CallOk filamentsByThread) .initial failedRestore := by
  refine ⟨⟨_, rfl⟩, fun h => ?_⟩
  have hlast := ((h.2 _ rfl).2 _ rfl).1 _ _ rfl
  have hrefs := congrFun (hlast.2 (by decide)).contextRefs 1
  revert hrefs
  decide

end Cfix.Thread
