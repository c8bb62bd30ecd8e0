import Cfix.Sequence.Balance

/-!
# `Sequence.Activations` — the functions in progress

What holds of every activation on the stack and of every finished run and deletion, and that each operation
keeps it. An activation that has called an action waits for it: the next to return is that action.
-/

namespace Cfix.Sequence

/-! ## Finished runs -/

/-- These actions were executed: the entries in order, up to and including the first that failed; the last
    result is returned. -/
structure Executed (entries : List ActionId) (executed : List (ActionId × HRESULT)) (hr : HRESULT) : Prop where
  actions : executed.map Prod.fst = entries.take executed.length
  ok      : ∀ p ∈ executed.dropLast, failed p.2 = false
  stop    : executed.length < entries.length → ∃ p ∈ executed.getLast?, failed p.2 = true
  hr      : hr = (executed.getLast?.map Prod.snd).getD sOk

/-- **What a run of a sequence does**: it executes the entries that were there when it started, in order, up
    to and including the first failing one, and releases each of them once. It executes nothing if the
    context is invalid, or if there are entries and their array cannot be allocated. -/
structure RunRecord.Correct (r : RunRecord) : Prop where
  invalid     : r.isValidContext = false → r.executed = [] ∧ r.released = [] ∧ r.hr = eInvalidarg
  outOfMemory : r.isValidContext = true → r.malloc = false → r.entries ≠ [] →
    r.executed = [] ∧ r.released = [] ∧ r.hr = eOutofmemory
  ran         : r.isValidContext = true → r.malloc = true ∨ r.entries = [] →
    Executed r.entries r.executed r.hr ∧ r.released = r.entries

/-! ## Activations -/

namespace Activation

/-- In the loop over the collected actions. -/
structure Runs (a : Activation) : Prop where
  count    : a.actionsCount = a.actionsArray.length
  index    : a.index ≤ a.actionsCount
  executed : a.executed.map Prod.fst = a.actionsArray.take a.index
  ok       : ∀ p ∈ a.executed.dropLast, failed p.2 = false
  hr       : a.hr = (a.executed.getLast?.map Prod.snd).getD sOk
  released : a.released = []

/-- The action has been called and has not returned. -/
structure Awaits (a : Activation) (x : ActionId) : Prop where
  called  : a.actionsArray[a.index]? = some x
  noError : failed a.hr = false

/-- In the loop that releases the references. -/
structure Releases (a : Activation) : Prop where
  count    : a.actionsCount = a.actionsArray.length
  index    : a.index ≤ a.actionsCount
  executed : Executed a.actionsArray a.executed a.hr
  released : a.released = a.actionsArray.take a.index

variable {a : Activation} {x : ActionId}

theorem Runs.length (h : a.Runs) : a.executed.length = a.index := by
  have hlen := congrArg List.length h.executed
  have hcount := h.count
  have hindex := h.index
  rw [List.length_map, List.length_take] at hlen
  omega

/-- While the loop goes on no action has failed. -/
theorem Runs.allOk (h : a.Runs) (hok : failed a.hr = false) : ∀ p ∈ a.executed, failed p.2 = false := by
  intro p hmem
  have hlast := h.hr
  rcases List.eq_nil_or_concat' a.executed with hnil | ⟨init, last, hexecuted⟩
  · rw [hnil] at hmem
    cases hmem
  · have hinit := h.ok
    rw [hexecuted] at hmem hinit hlast
    rw [List.dropLast_concat] at hinit
    rw [List.getLast?_concat] at hlast
    rcases List.mem_append.mp hmem with hmem | hmem
    · exact hinit p hmem
    · rw [List.mem_singleton.mp hmem, ← hok, hlast]
      rfl

/-- The called action returns. -/
theorem Runs.returned (h : a.Runs) (ha : a.Awaits x) (hr : HRESULT) :
    Runs { a with index := a.index + 1, hr := hr, executed := a.executed ++ [(x, hr)] } := by
  obtain ⟨hlt, hx⟩ := List.getElem?_eq_some_iff.mp ha.called
  refine ⟨h.count, ?_, ?_, ?_, ?_, h.released⟩
  · rw [h.count]
    exact hlt
  · rw [List.map_append, h.executed, List.take_succ_eq_append_getElem hlt, hx]
    rfl
  · rw [List.dropLast_concat]
    exact h.allOk ha.noError
  · simp

/-- The loop ends. -/
theorem Runs.ends (h : a.Runs) (hend : failed a.hr = true ∨ a.actionsCount ≤ a.index) :
    Releases { a with index := 0 } := by
  refine ⟨h.count, Nat.zero_le _, ⟨?_, h.ok, ?_, h.hr⟩, ?_⟩
  · rw [h.length]
    exact h.executed
  · intro hlt
    rw [h.length, ← h.count] at hlt
    have hfail := hend.resolve_right (not_le.mpr hlt)
    rw [h.hr] at hfail
    cases hlast : a.executed.getLast? with
    | none   => simp [hlast] at hfail
    | some p => exact ⟨p, rfl, by simpa [hlast] using hfail⟩
  · simp [h.released]

/-- One reference is given back. -/
theorem Releases.next (h : a.Releases) (hx : a.actionsArray[a.index]? = some x) :
    Releases { a with index := a.index + 1, released := a.released ++ [x] } := by
  obtain ⟨hlt, hx⟩ := List.getElem?_eq_some_iff.mp hx
  refine ⟨h.count, ?_, h.executed, ?_⟩
  · rw [h.count]
    exact hlt
  · rw [List.take_succ_eq_append_getElem hlt, hx, ← h.released]

/-- What the finished activation has done. -/
theorem Releases.correct (h : a.Releases) (hend : a.actionsCount ≤ a.index) :
    RunRecord.Correct ⟨a.this, a.start, a.actionsArray, true, true, a.executed, a.hr, a.released⟩ := by
  refine ⟨fun hinvalid => absurd hinvalid.symm Bool.false_ne_true,
    fun _ hmemory => absurd hmemory.symm Bool.false_ne_true, fun _ _ => ⟨h.executed, ?_⟩⟩
  rw [h.released, List.take_of_length_le]
  rw [← h.count]
  exact hend

end Activation

/-! ## The stack -/

namespace Frame

def Ok : Frame → Prop
  | .running a                => a.Runs
  | .releasing a              => a.Releases
  | .test _ | .deleting _ _ _ => True

/-- The action whose Run method this is. -/
def callee : Frame → Option ActionId
  | .test this                  => some this
  | .running a | .releasing a   => some a.this
  | .deleting _ _ _             => none

/-- What it has called is this action, or a dereference. -/
def Awaits (callee : Option ActionId) : Frame → Prop
  | .running a                               => ∃ x ∈ callee, a.Awaits x
  | .releasing _ | .test _ | .deleting _ _ _ => True

def deletes : Frame → Option ActionId
  | .deleting this _ _                  => some this
  | .test _ | .running _ | .releasing _ => none

end Frame

/-- Every activation is in order, and those that have called another one wait for it. -/
def StackOk : List Frame → Prop
  | []        => True
  | f :: rest => f.Ok ∧ (∀ g ∈ rest.head?, g.Awaits f.callee) ∧ StackOk rest

namespace State

variable (s : State)

/-- These were the entries of the sequence when `n` entries had been added. -/
def Snapshot (n : Nat) (x : ActionId) (entries : List ActionId) : Prop :=
  n ≤ s.added.length ∧ entries = s.addedBefore n x

/-- The sequences that have been or are being deleted. -/
def dying : List ActionId := s.deletions.map Deletion.this ++ s.stack.filterMap Frame.deletes

/-- The caller on top of the stack, if there is one, waits. -/
def CallerAwaits (callee : Option ActionId) : Prop := ∀ g ∈ s.stack.head?, g.Awaits callee

end State

/-- The entries that the activation works on are those of its sequence. -/
def Frame.Fits (s : State) : Frame → Prop
  | .running a | .releasing a => s.Snapshot a.start a.this a.actionsArray
  | .deleting this rest done  => done ++ rest = s.addedTo this
  | .test _                   => True

structure Records (s : State) : Prop where
  stack     : StackOk s.stack
  frames    : ∀ f ∈ s.stack, f.Fits s
  runs      : ∀ r ∈ s.runs, s.Snapshot r.start r.this r.entries ∧ r.Correct
  deletions : ∀ d ∈ s.deletions, d.dereferenced = s.addedTo d.this
  dead      : ∀ x ∈ s.dying, s.heap x = none ∧ x < s.next
  once      : s.dying.Nodup

namespace State

variable {s s' : State} {x : ActionId} {o : Action} {owed : List ActionId} {hr : HRESULT}

theorem addedTo_congr (hadded : s'.added = s.added) (x : ActionId) : s'.addedTo x = s.addedTo x := by
  rw [addedTo, addedTo, hadded]

/-- Later additions do not change what had been added. -/
theorem Snapshot.mono {n : Nat} {entries : List ActionId} {extra : List (ActionId × ActionId)}
    (h : s.Snapshot n x entries) (hadded : s'.added = s.added ++ extra) : s'.Snapshot n x entries := by
  obtain ⟨hn, rfl⟩ := h
  refine ⟨?_, ?_⟩
  · rw [hadded, List.length_append]
    omega
  · rw [addedBefore, addedBefore, hadded, List.take_append_of_le_length hn]

theorem Snapshot.congr {n : Nat} {entries : List ActionId} (h : s.Snapshot n x entries)
    (hadded : s'.added = s.added) : s'.Snapshot n x entries :=
  h.mono (by rw [hadded, List.append_nil])

theorem snapshot_now (h : Sound s owed) (hx : s.heap x = some o) : s.Snapshot s.added.length x o.entries := by
  refine ⟨le_rfl, ?_⟩
  rw [addedBefore, List.take_length]
  exact h.entries x o hx

theorem fits_congr {f : Frame} (h : f.Fits s) (hadded : s'.added = s.added) : f.Fits s' := by
  cases f with
  | test this                 => exact trivial
  | running a                 => exact Snapshot.congr h hadded
  | releasing a               => exact Snapshot.congr h hadded
  | deleting this rest done   =>
      have hfits : done ++ rest = s.addedTo this := h
      exact hfits.trans (addedTo_congr hadded this).symm

/-- Only the heap changes, and no action appears at an old address. -/
theorem records_of_heap (h : Records s) (hs : s' = { s with heap := s'.heap })
    (hheap : ∀ y, s.heap y = none → s'.heap y = none) : Records s' := by
  have hstack : s'.stack = s.stack := by rw [hs]
  have hruns : s'.runs = s.runs := by rw [hs]
  have hdeletions : s'.deletions = s.deletions := by rw [hs]
  have hadded : s'.added = s.added := by rw [hs]
  have hnext : s'.next = s.next := by rw [hs]
  have hdying : s'.dying = s.dying := by rw [dying, dying, hstack, hdeletions]
  refine ⟨hstack ▸ h.stack, ?_, ?_, ?_, ?_, hdying ▸ h.once⟩
  · intro f hf
    exact fits_congr (h.frames f (hstack ▸ hf)) hadded
  · intro r hr
    obtain ⟨hsnapshot, hcorrect⟩ := h.runs r (hruns ▸ hr)
    exact ⟨hsnapshot.congr hadded, hcorrect⟩
  · intro d hd
    rw [addedTo_congr hadded]
    exact h.deletions d (hdeletions ▸ hd)
  · intro y hy
    rw [hdying] at hy
    rw [hnext]
    exact ⟨hheap y (h.dead y hy).1, (h.dead y hy).2⟩

/-! ## Counting -/

theorem reference_records (h : Records s) (x : ActionId) : Records (s.reference x) := by
  refine records_of_heap h rfl ?_
  intro y hy
  by_cases hyx : y = x
  · subst hyx
    simp [reference, hy]
  · simp [reference, hyx, hy]

theorem references_records {l : List ActionId} (h : Records s) : Records (l.foldl reference s) := by
  induction l generalizing s with
  | nil => exact h
  | cons y ys ih => exact ih (reference_records h y)

/-- The activation that deletes a sequence is new on the stack. -/
theorem delete_records (h : Records s) (hsound : Sound s owed) (hcaller : s.CallerAwaits none)
    (hx : s.heap x = some o) (hseq : o.isSequence = true) : Records (s.delete x o) := by
  have hnot : x ∉ s.dying := by
    intro hmem
    rw [(h.dead x hmem).1] at hx
    cases hx
  have hstack : (s.delete x o).stack = .deleting x o.entries [] :: s.stack := by simp [delete, hseq]
  have hperm : ((s.delete x o).dying).Perm (x :: s.dying) := by
    rw [dying, hstack]
    exact List.perm_middle
  refine ⟨?_, ?_, h.runs, h.deletions, ?_, ?_⟩
  · rw [hstack]
    exact ⟨trivial, hcaller, h.stack⟩
  · intro f hf
    rw [hstack] at hf
    rcases List.mem_cons.mp hf with rfl | hf
    · exact hsound.entries x o hx
    · exact fits_congr (h.frames f hf) rfl
  · intro y hy
    rcases List.mem_cons.mp (hperm.mem_iff.mp hy) with rfl | hy
    · exact ⟨by simp [delete], hsound.lt_next hx⟩
    · have hyx : y ≠ x := fun heq => hnot (heq ▸ hy)
      exact ⟨by simp [delete, hyx, (h.dead y hy).1], (h.dead y hy).2⟩
  · exact hperm.nodup_iff.mpr (List.nodup_cons.mpr ⟨hnot, h.once⟩)

/-- A dereference may start a deletion. -/
theorem dereference_records (h : Records s) (hsound : Sound s owed) (hcaller : s.CallerAwaits none) :
    Records (s.dereference x) := by
  unfold dereference
  cases hx : s.heap x with
  | none   => simpa [hx] using h
  | some o =>
      simp only
      split
      · cases hseq : o.isSequence with
        | true  => exact delete_records h hsound hcaller hx hseq
        | false =>
            refine records_of_heap h (by simp [delete, hseq]) ?_
            intro y hy
            by_cases hyx : y = x
            · subst hyx
              simp [delete]
            · simpa [delete, hyx] using hy
      · refine records_of_heap h rfl ?_
        intro y hy
        have hyx : y ≠ x := by
          rintro rfl
          rw [hx] at hy
          cases hy
        simpa [hyx] using hy

/-! ## Activations that go on -/

variable {f f' : Frame} {rest : List Frame}

theorem callerAwaits_rest (h : Records s) (hstack : s.stack = f :: rest) : ∀ g ∈ rest.head?, g.Awaits f.callee := by
  have hok := h.stack
  rw [hstack] at hok
  exact hok.2.1

/-- The top activation changes its own variables. -/
theorem replace_records (h : Records s) (hstack : s.stack = f :: rest) (hf : f'.Ok) (hfits : f'.Fits s)
    (hcallee : f'.callee = f.callee) (hdeletes : f'.deletes = f.deletes) :
    Records { s with stack := f' :: rest } := by
  have hok := h.stack
  rw [hstack] at hok
  have hdying : State.dying { s with stack := f' :: rest } = s.dying := by
    simp only [State.dying, hstack, List.filterMap_cons, hdeletes]
  refine ⟨⟨hf, hcallee ▸ hok.2.1, hok.2.2⟩, ?_, h.runs, h.deletions, ?_, hdying ▸ h.once⟩
  · intro g hg
    rcases List.mem_cons.mp hg with rfl | hg
    · exact fits_congr hfits rfl
    · exact fits_congr (h.frames g (by rw [hstack]; exact List.mem_cons_of_mem _ hg)) rfl
  · exact fun x hx => h.dead x (hdying ▸ hx)

/-- The top activation is over. -/
theorem pop_records (h : Records s) (hstack : s.stack = f :: rest) (hdeletes : f.deletes = none) :
    Records { s with stack := rest } := by
  have hok := h.stack
  rw [hstack] at hok
  have hdying : State.dying { s with stack := rest } = s.dying := by
    simp [State.dying, hstack, hdeletes]
  refine ⟨hok.2.2, ?_, h.runs, h.deletions, ?_, hdying ▸ h.once⟩
  · exact fun g hg => fits_congr (h.frames g (by rw [hstack]; exact List.mem_cons_of_mem _ hg)) rfl
  · exact fun x hx => h.dead x (hdying ▸ hx)

theorem replace_sound (h : Sound s owed) (hstack : s.stack = f :: rest) {stack : List Frame} {owed' : List ActionId}
    (hheld : ∀ x, (stack.map (Frame.holds x)).sum + owed'.count x = f.holds x + (rest.map (Frame.holds x)).sum +
      owed.count x) : Sound { s with stack := stack } owed' := by
  refine h.withOwners rfl rfl rfl ?_
  intro x
  have hx := hheld x
  simp only [State.owners, State.contained, State.held, hstack, List.map_cons, List.sum_cons]
  omega

theorem pop_sound (h : Sound s owed) (hstack : s.stack = f :: rest) (hheld : ∀ x, f.holds x = 0) :
    Sound { s with stack := rest } owed := by
  refine replace_sound h hstack ?_
  intro x
  rw [hheld x, Nat.zero_add]

/-! ## Returning -/

/-- What becomes of the stack when an action returns. -/
theorem returned_cases (s : State) (x : ActionId) (hr : HRESULT) : s.returned x hr = s ∨
    ∃ a rest, s.stack = .running a :: rest ∧ s.returned x hr = { s with
      stack := .running { a with index := a.index + 1, hr := hr, executed := a.executed ++ [(x, hr)] } :: rest } := by
  unfold returned
  split
  · rename_i a rest hstack
    exact .inr ⟨a, rest, hstack, rfl⟩
  · exact .inl rfl

theorem returned_sound (h : Sound s owed) (x : ActionId) (hr : HRESULT) : Sound (s.returned x hr) owed := by
  rcases returned_cases s x hr with heq | ⟨a, rest, hstack, heq⟩
  · rw [heq]
    exact h
  · rw [heq]
    exact replace_sound h hstack fun _ => rfl

theorem returned_records (h : Records s) (hcaller : s.CallerAwaits (some x)) (hr : HRESULT) :
    Records (s.returned x hr) := by
  rcases returned_cases s x hr with heq | ⟨a, rest, hstack, heq⟩
  · rw [heq]
    exact h
  · have hok := h.stack
    rw [hstack] at hok
    obtain ⟨y, hy, hawaits⟩ : (Frame.running a).Awaits (some x) := hcaller (.running a) (by rw [hstack]; rfl)
    cases hy
    have hfits : (Frame.running a).Fits s := h.frames _ (by rw [hstack]; exact List.mem_cons_self)
    rw [heq]
    exact replace_records h hstack (Activation.Runs.returned hok.1 hawaits hr) hfits rfl rfl

theorem ended_sound (h : Sound s owed) (r : RunRecord) : Sound (s.ended r) owed := by
  have hsound : Sound { s with runs := s.runs ++ [r] } owed := h.withOwners rfl rfl rfl fun _ => rfl
  exact returned_sound hsound r.this r.hr

theorem ended_records {r : RunRecord} (h : Records s) (hcaller : s.CallerAwaits (some r.this))
    (hsnapshot : s.Snapshot r.start r.this r.entries) (hr : r.Correct) : Records (s.ended r) := by
  have hrecords : Records { s with runs := s.runs ++ [r] } := by
    refine ⟨h.stack, fun f hf => fits_congr (h.frames f hf) rfl, ?_, h.deletions, h.dead, h.once⟩
    intro r' hr'
    rcases List.mem_append.mp hr' with hr' | hr'
    · exact h.runs r' hr'
    · rw [List.mem_singleton.mp hr']
      exact ⟨hsnapshot, hr⟩
  exact returned_records hrecords hcaller r.hr

/-! ## Calling -/

/-- A new activation on the stack. -/
theorem push_records (h : Records s) (hcaller : s.CallerAwaits f.callee) (hf : f.Ok) (hfits : f.Fits s)
    (hdeletes : f.deletes = none) : Records { s with stack := f :: s.stack } := by
  refine ⟨⟨hf, hcaller, h.stack⟩, ?_, h.runs, h.deletions, ?_, ?_⟩
  · intro g hg
    rcases List.mem_cons.mp hg with rfl | hg
    · exact fits_congr hfits rfl
    · exact fits_congr (h.frames g hg) rfl
  · intro x hx
    refine h.dead x ?_
    simpa [dying, hdeletes] using hx
  · simpa [dying, hdeletes] using h.once

theorem call_sound (h : Sound s []) (hx : s.heap x = some o) (isValidContext malloc : Bool) :
    Sound (s.call x o isValidContext malloc) [] := by
  unfold call
  split
  · refine h.withOwners rfl rfl rfl ?_
    intro y
    simp [owners, held, contained, Frame.holds]
  split
  · exact ended_sound h _
  split
  · exact ended_sound h _
  split
  · exact ended_sound h _
  -- the array owns the new references
  obtain ⟨owed', hsound, hcount⟩ := references_sound h (fun y hy => h.exists_of_mem_entries hx hy)
  refine hsound.withOwners rfl rfl rfl ?_
  intro y
  rw [hcount]
  simp [owners, held, contained, Frame.holds]
  omega

theorem call_records (h : Records s) (hsound : Sound s []) (hx : s.heap x = some o)
    (hcaller : s.CallerAwaits (some x)) (isValidContext malloc : Bool) :
    Records (s.call x o isValidContext malloc) := by
  have hnow := snapshot_now hsound hx
  have hlen := hsound.counted x o hx
  unfold call
  split
  · exact push_records h hcaller trivial trivial rfl
  split
  · rename_i hinvalid
    obtain rfl : isValidContext = false := by simpa using hinvalid
    exact ended_records h hcaller hnow ⟨fun _ => ⟨rfl, rfl, rfl⟩, fun hvalid => absurd hvalid Bool.false_ne_true,
      fun hvalid => absurd hvalid Bool.false_ne_true⟩
  rename_i hvalid
  obtain rfl : isValidContext = true := by simpa using hvalid
  split
  · rename_i hcount
    have hempty : o.entries = [] := by
      rw [eq_of_beq hcount] at hlen
      exact List.length_eq_zero_iff.mp hlen.symm
    refine ended_records h hcaller hnow ⟨fun hinvalid => absurd hinvalid.symm Bool.false_ne_true,
      fun _ _ hne => absurd hempty hne, fun _ _ => ⟨⟨?_, nofun, ?_, rfl⟩, hempty.symm⟩⟩
    · rfl
    · simp [hempty]
  split
  · rename_i hcount hmemory
    obtain rfl : malloc = false := by simpa using hmemory
    have hne : o.entries ≠ [] := by
      intro hempty
      rw [hempty, List.length_nil] at hlen
      simp [hlen] at hcount
    refine ended_records h hcaller hnow ⟨fun hinvalid => absurd hinvalid.symm Bool.false_ne_true,
      fun _ _ _ => ⟨rfl, rfl, rfl⟩, ?_⟩
    rintro - (hgiven | hempty)
    · exact absurd hgiven Bool.false_ne_true
    · exact absurd hempty hne
  have hrefs := @references_eq s o.entries
  have hstack : (o.entries.foldl reference s).stack = s.stack := by rw [hrefs]
  have hadded : (o.entries.foldl reference s).added = s.added := by rw [hrefs]
  refine push_records (references_records h) ?_ ⟨hlen, Nat.zero_le _, rfl, nofun, rfl, rfl⟩ ?_ rfl
  · rw [CallerAwaits, hstack]
    exact hcaller
  · rw [hadded]
    exact hnow.congr hadded

end State

end Cfix.Sequence
