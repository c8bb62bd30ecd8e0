import Cfix.Cdiag.FormatSpace
import Cfix.Cdiag.Formatter

/-!
# `Cdiag.FormatterReads` — which packets the formatter reads beyond

The formatter follows every offset of a packet that it accepts. A packet is self-contained if what its offsets lead to
is inside of it; these are the packets that no template and no buffer make the formatter read beyond.
-/

namespace Cfix.Cdiag

open Cfix.Events (Width)
open Memory

/-! ## Faults -/

section Faults

variable {α γ : Type}

/-- A computation that does not end with a stray access. It may end at a block of the heap that is too small, which is
    not a matter of what is accessed in the packet. -/
def NoStray (x : Except Exit α) : Prop := ∀ f, x = .error (.fault f) → f = .blockOverrun

/-- A computation that does not end early but with a stray access. -/
def OnlyStray (x : Except Exit α) : Prop := ∀ e, x = .error e → ∃ f, e = .fault f ∧ f ≠ .blockOverrun

theorem onlyStray_ok (a : α) : OnlyStray (.ok a : Except Exit α) := fun _ h => by cases h

theorem onlyStray_fault {f : MemoryFault} (hf : f ≠ .blockOverrun) : OnlyStray (.error (.fault f) : Except Exit α) :=
  fun _ h => ⟨f, (Except.error.inj h).symm, hf⟩

theorem onlyStray_access {f : MemoryFault} (hf : f ≠ .blockOverrun) (x : Option α) : OnlyStray (access f x) := by
  cases x with
  | none   => exact onlyStray_fault hf
  | some a => exact onlyStray_ok a

theorem OnlyStray.bind {x : Except Exit α} {g : α → Except Exit γ} (hx : OnlyStray x) (hg : ∀ a, OnlyStray (g a)) :
    OnlyStray (x >>= g) := by
  cases x with
  | ok a    => exact hg a
  | error e => exact fun _ h => hx _ (by cases h; rfl)

theorem OnlyStray.ite {c : Prop} [Decidable c] {x y : Except Exit α} (hx : OnlyStray x) (hy : OnlyStray y) :
    OnlyStray (if c then x else y) := by
  split
  · exact hx
  · exact hy

theorem ok_of_bind {x : Except Exit α} {g : α → Except Exit γ} {c : γ} (h : (x >>= g) = .ok c) :
    ∃ a, x = .ok a ∧ g a = .ok c := by
  cases x with
  | ok a    => exact ⟨a, rfl, h⟩
  | error e => cases h

theorem access_ok {f : MemoryFault} {x : Option α} {a : α} (h : access f x = .ok a) : x = some a := by
  cases x with
  | none   => cases h
  | some b => rw [Except.ok.inj h]

/-- Without a stray access, such a computation has a result. -/
theorem OnlyStray.exists_ok {x : Except Exit α} (hx : OnlyStray x) (h : NoStray x) : ∃ a, x = .ok a := by
  cases x with
  | ok a    => exact ⟨a, rfl⟩
  | error e =>
      obtain ⟨f, rfl, hf⟩ := hx e rfl
      exact absurd (h f rfl) hf

theorem NoStray.of_bind {x : Except Exit α} {g : α → Except Exit γ} (h : NoStray (x >>= g)) : NoStray x := by
  intro f hf
  rw [hf] at h
  exact h f rfl

/-- The result of the first part of a computation that ends without a stray access. -/
theorem NoStray.bind_ok {x : Except Exit α} {g : α → Except Exit γ} (h : NoStray (x >>= g)) (hx : OnlyStray x) :
    ∃ a, x = .ok a ∧ NoStray (g a) := by
  obtain ⟨a, ha⟩ := hx.exists_ok h.of_bind
  rw [ha] at h
  exact ⟨a, ha, h⟩

end Faults

variable {w : Width}

/-! ## Reads -/

namespace RawEventPacket

variable (pkt : RawEventPacket w)

/-- The value of a header field. -/
def header (n : Nat) (f : PacketField) : Nat := load n pkt.mem (pkt.address + f.offset)

/-- A string with a terminator inside of the packet. -/
def Terminated (p : Nat) : Prop := ∃ n, pkt.Inside p (2 * (n + 1)) ∧ load 2 pkt.mem (p + 2 * n) = 0

theorem onlyStray_read (n p : Nat) : OnlyStray (pkt.read n p) :=
  .ite (onlyStray_ok _) (onlyStray_fault (by decide))

variable {pkt}

theorem read_of_inside {n p : Nat} (h : pkt.Inside p n) : pkt.read n p = .ok (load n pkt.mem p) := if_pos h

theorem inside_of_read {n p v : Nat} (h : pkt.read n p = .ok v) : pkt.Inside p n ∧ v = load n pkt.mem p := by
  rw [read] at h
  split at h
  · rename_i hinside
    exact ⟨hinside, (Except.ok.inj h).symm⟩
  · cases h

/-- A field that is reached from the begin of the packet is inside if its offset is. -/
theorem inside_fieldViaOffset {o n : Nat} (ho : o < 2 ^ w.bits) (hn : 0 < n) :
    pkt.Inside (fieldViaOffset w pkt.address o) n ↔ o + n ≤ pkt.totalSize := by
  have hspace : pkt.address + pkt.totalSize ≤ 2 ^ w.bits := pkt.inSpace
  have hpos := pkt.nonnull
  rw [Inside, fieldViaOffset]
  rcases Nat.lt_or_ge (pkt.address + o) (2 ^ w.bits) with hlt | hge
  · rw [Nat.mod_eq_of_lt hlt]
    omega
  · -- the address wraps, and is below the packet
    rw [Nat.mod_eq_sub_mod hge, Nat.mod_eq_of_lt (by omega)]
    omega

/-- The header of a valid packet is inside of it. -/
theorem header_inside (hvalid : pkt.isValid = true) {n : Nat} (f : PacketField) (hn : 0 < n)
    (hf : f.offset + n ≤ sizeofEventPacket) :
    fieldViaOffset w pkt.address f.offset = pkt.address + f.offset ∧
      pkt.Inside (fieldViaOffset w pkt.address f.offset) n := by
  rw [isValid, Bool.and_eq_true, decide_eq_true_eq] at hvalid
  have hpow := pow_bits_ge w
  have hspace : pkt.address + pkt.totalSize ≤ 2 ^ w.bits := pkt.inSpace
  have hsize : sizeofEventPacket = 64 := rfl
  refine ⟨Nat.mod_eq_of_lt (by omega), (inside_fieldViaOffset (by omega) hn).mpr (by omega)⟩

theorem read_header (hvalid : pkt.isValid = true) {n : Nat} (f : PacketField) (hn : 0 < n)
    (hf : f.offset + n ≤ sizeofEventPacket) : pkt.read n (fieldViaOffset w pkt.address f.offset) = .ok (pkt.header n f) := by
  obtain ⟨haddress, hinside⟩ := header_inside hvalid f hn hf
  rw [read_of_inside hinside, haddress]
  rfl

/-! ### Strings -/

theorem onlyStray_readString (p : Nat) : OnlyStray (pkt.readString p) := by
  induction p using readString.induct pkt with
  | case1 p hinside hzero =>
      rw [readString, dif_pos hinside, if_pos hzero]
      exact onlyStray_ok _
  | case2 p hinside hzero ih =>
      rw [readString, dif_pos hinside, if_neg hzero]
      exact ih.bind fun _ => onlyStray_ok _
  | case3 p hinside =>
      rw [readString, dif_neg hinside]
      exact onlyStray_fault (by decide)

theorem exists_readString {p : Nat} (h : pkt.Terminated p) : ∃ chars, pkt.readString p = .ok chars := by
  obtain ⟨n, hinside, hzero⟩ := h
  induction n generalizing p with
  | zero => exact ⟨[], by rw [readString, dif_pos hinside, if_pos (by simpa using hzero)]⟩
  | succ n ih =>
      have hhead : pkt.Inside p 2 := ⟨hinside.1, by have hend := hinside.2; omega⟩
      rw [readString, dif_pos hhead]
      split
      · exact ⟨[], rfl⟩
      · obtain ⟨chars, hchars⟩ := ih (p := p + 2) ⟨by have hbegin := hinside.1; omega, by have hend := hinside.2; omega⟩
          (by rw [show p + 2 + 2 * n = p + 2 * (n + 1) by omega]; exact hzero)
        rw [hchars]
        exact ⟨_, rfl⟩

theorem terminated_of_readString {p : Nat} {chars : List WCHAR} (h : pkt.readString p = .ok chars) : pkt.Terminated p := by
  induction p using readString.induct pkt generalizing chars with
  | case1 p hinside hzero => exact ⟨0, hinside, hzero⟩
  | case2 p hinside hzero ih =>
      rw [readString, dif_pos hinside, if_neg hzero] at h
      cases htail : pkt.readString (p + 2) with
      | error e =>
          rw [htail] at h
          cases h
      | ok tail =>
          obtain ⟨n, htail, hend⟩ := ih htail
          refine ⟨n + 1, ⟨hinside.1, ?_⟩, ?_⟩
          · have hlast := htail.2
            omega
          · rw [show p + 2 * (n + 1) = p + 2 + 2 * n by omega]
            exact hend
  | case3 p hinside =>
      rw [readString, dif_neg hinside] at h
      cases h

/-- **A string can be read** if it has a terminator inside of the packet. -/
theorem readString_ok_iff (p : Nat) : (∃ chars, pkt.readString p = .ok chars) ↔ pkt.Terminated p :=
  ⟨fun ⟨_, h⟩ => terminated_of_readString h, exists_readString⟩

theorem onlyStray_readInserted (insertionStrings : Option (List (Option Nat))) (is : List Nat) :
    OnlyStray (pkt.readInserted insertionStrings is) := by
  induction is with
  | nil => exact onlyStray_ok ()
  | cons i is ih =>
      refine (onlyStray_access (by decide) _).bind fun strings => (onlyStray_access (by decide) _).bind fun entry => ?_
      exact (onlyStray_access (by decide) _).bind fun p => (onlyStray_readString p).bind fun _ => ih

/-- **The entries can be read** if they were set to strings inside of the packet. -/
theorem readInserted_ok_iff (insertionStrings : Option (List (Option Nat))) (is : List Nat) :
    pkt.readInserted insertionStrings is = .ok () ↔
      ∀ i ∈ is, ∃ strings p, insertionStrings = some strings ∧ strings[i]? = some (some p) ∧ pkt.Terminated p := by
  induction is with
  | nil => simp [readInserted]
  | cons i is ih =>
      rw [readInserted, List.forall_mem_cons, ← ih]
      constructor
      · intro h
        obtain ⟨strings, hstrings, h⟩ := ok_of_bind h
        obtain ⟨entry, hentry, h⟩ := ok_of_bind h
        obtain ⟨p, hp, h⟩ := ok_of_bind h
        obtain ⟨chars, hchars, h⟩ := ok_of_bind h
        have hset : strings[i]? = some (some p) := by rw [access_ok hentry, access_ok hp]
        exact ⟨⟨strings, p, access_ok hstrings, hset, terminated_of_readString hchars⟩, h⟩
      · rintro ⟨⟨strings, p, rfl, hentry, hp⟩, h⟩
        obtain ⟨chars, hchars⟩ := exists_readString hp
        simp only [access_some, exit_ok_bind, hentry, hchars, h]

end RawEventPacket

/-! ## Bindings -/

section Bindings

variable {env : Environment} {pkt : RawEventPacket w}

theorem onlyStray_fieldPtr (d : BindingDefinition) : OnlyStray (fieldPtr pkt d) := by
  refine .ite (.bind (pkt.onlyStray_read 4 _) fun offset => .ite (.ite (.ite (.ite ?_ (onlyStray_ok _)) (onlyStray_ok _))
    (onlyStray_ok _)) (onlyStray_ok _)) (onlyStray_ok _)
  exact .bind (pkt.onlyStray_read 4 _) fun offset => .ite (onlyStray_ok _) (onlyStray_ok _)

/-- The text of a time does not overrun its block. -/
def Environment.TimeFits (env : Environment) (utcTime : Nat) : Prop :=
  ∀ text, env.timeText utcTime = some text → text.length < 50

/-- The time is translated, or the block is overrun. -/
theorem translateTimestamp_cases (env : Environment) (utcTime : Nat) :
    (env.TimeFits utcTime ∧ (translateTimestamp env utcTime = .ok (.value 0) ∨
      ∃ text, translateTimestamp env utcTime = .ok (.text text))) ∨
    (¬ env.TimeFits utcTime ∧ translateTimestamp env utcTime = .error (.fault .blockOverrun)) := by
  rw [translateTimestamp, Environment.TimeFits]
  cases env.timeText utcTime with
  | none      => exact .inl ⟨fun text h => (by cases h), .inl rfl⟩
  | some text =>
      simp only [Option.some.injEq, forall_eq']
      by_cases hfits : text.length < 50
      · exact .inl ⟨hfits, .inr ⟨text, if_pos (by omega)⟩⟩
      · exact .inr ⟨hfits, if_neg (by omega)⟩

theorem onlyStray_translate {routine : TranslateRoutine}
    (hfits : routine = .timestamp → ∀ utcTime, env.TimeFits utcTime) (p : Nat) :
    OnlyStray (translate env pkt p routine) := by
  cases routine with
  | timestamp =>
      refine .bind (pkt.onlyStray_read _ p) fun utcTime => ?_
      rcases translateTimestamp_cases env utcTime with ⟨-, h | ⟨text, h⟩⟩ | ⟨h, -⟩
      · exact h ▸ onlyStray_ok _
      · exact h ▸ onlyStray_ok _
      · exact absurd (hfits rfl utcTime) h
  | _ => exact .bind (pkt.onlyStray_read _ p) fun _ => onlyStray_ok _

theorem onlyStray_binding (d : BindingDefinition)
    (hfits : d.type = .special .timestamp → ∀ utcTime, env.TimeFits utcTime) : OnlyStray (binding env pkt d) := by
  refine (onlyStray_fieldPtr d).bind fun p => ?_
  cases htype : d.type with
  | pwstr           => exact onlyStray_ok _
  | word            => exact .ite (onlyStray_ok _) ((pkt.onlyStray_read 2 p).bind fun _ => onlyStray_ok _)
  | dword           => exact .ite (onlyStray_ok _) ((pkt.onlyStray_read 4 p).bind fun _ => onlyStray_ok _)
  | special routine => exact onlyStray_translate (fun h => hfits (by rw [htype, h])) p

theorem onlyStray_prepareBindings (hfits : ∀ utcTime, env.TimeFits utcTime) (ds : List BindingDefinition) :
    OnlyStray (prepareBindings env pkt ds) := by
  induction ds with
  | nil => exact onlyStray_ok []
  | cons d ds ih => exact (onlyStray_binding d fun _ => hfits).bind fun _ => ih.bind fun _ => onlyStray_ok _

theorem onlyStray_printBinding (format : CString) (b : Binding) : OnlyStray (printBinding env pkt format b) := by
  cases b with
  | text s  => exact onlyStray_ok _
  | value v => exact .ite (.ite (onlyStray_ok _) (RawEventPacket.onlyStray_readString v)) (onlyStray_ok _)

/-- Each definition gives its binding. -/
theorem prepareBindings_ok_iff {ds : List BindingDefinition} {bs : List Binding} :
    prepareBindings env pkt ds = .ok bs ↔ List.Forall₂ (fun d b => binding env pkt d = .ok b) ds bs := by
  induction ds generalizing bs with
  | nil =>
      rw [prepareBindings, List.forall₂_nil_left_iff, Except.ok.injEq]
      exact eq_comm
  | cons d ds ih =>
      rw [prepareBindings, List.forall₂_cons_left_iff]
      constructor
      · intro h
        obtain ⟨b, hb, h⟩ := ok_of_bind h
        obtain ⟨bs', hbs, h⟩ := ok_of_bind h
        exact ⟨b, bs', hb, ih.mp hbs, (Except.ok.inj h).symm⟩
      · rintro ⟨b, bs', hb, hbs, rfl⟩
        rw [hb, ih.mpr hbs]
        rfl

variable (env pkt) in
/-- The binding for a definition is read, and printed with a format. -/
def Printed (format : CString) (d : BindingDefinition) : Prop :=
  ∃ b, binding env pkt d = .ok b ∧ ∃ text, printBinding env pkt format b = .ok text

variable (env pkt) in
/-- This is done without a stray access. -/
def Legible (format : CString) (d : BindingDefinition) : Prop :=
  binding env pkt d = .error (.fault .blockOverrun) ∨ Printed env pkt format d

/-- Only times overrun a block. -/
theorem legible_iff_printed {format : CString} {d : BindingDefinition} (h : d.type ≠ .special .timestamp) :
    Legible env pkt format d ↔ Printed env pkt format d := by
  refine or_iff_right fun hoverrun => ?_
  obtain ⟨f, hf, hne⟩ := onlyStray_binding d (fun htime => absurd htime h) _ hoverrun
  exact hne (by cases hf; rfl)

/-! ### What the offsets lead to -/

namespace RawEventPacket

variable (pkt)

/-- A pointer that is null, or leads to a string inside of the packet. -/
def StringInside (p : Nat) : Prop := p ≠ 0 → pkt.Terminated p

/-- A field with the offset of a string. -/
def OffsetInside (f : PacketField) : Prop :=
  pkt.header 4 f ≠ 0 → pkt.StringInside (fieldViaOffset w pkt.address (pkt.header 4 f))

/-- The address of the debugging information. -/
def debugInfo : Nat := fieldViaOffset w pkt.address (pkt.header 4 .debugInfoOffset)

/-- The address of a field of the debugging information. -/
def debugField (f : DebugField) : Nat := fieldViaOffset w pkt.debugInfo f.offset

def HasDebugInfo : Prop := pkt.header 4 .debugInfoOffset ≠ 0 ∧ pkt.debugInfo ≠ 0

/-- A field of the debugging information with the offset of a string. -/
def DebugOffsetInside (f : DebugField) : Prop :=
  pkt.HasDebugInfo → pkt.Inside (pkt.debugField f) 4 ∧
    (load 4 pkt.mem (pkt.debugField f) ≠ 0 →
      pkt.StringInside (fieldViaOffset w pkt.debugInfo (load 4 pkt.mem (pkt.debugField f))))

/-- A field of the debugging information that is the value. -/
def DebugValueInside (f : DebugField) : Prop :=
  pkt.HasDebugInfo → pkt.debugField f ≠ 0 → pkt.Inside (pkt.debugField f) 4

end RawEventPacket

theorem printBinding_pointer_iff (p : Nat) :
    (∃ text, printBinding env pkt percentS (.value p) = .ok text) ↔ pkt.StringInside p := by
  rw [printBinding, if_pos rfl, RawEventPacket.StringInside, ← RawEventPacket.readString_ok_iff]
  by_cases hp : p = 0
  · simp [hp]
  · simp [hp]

theorem printBinding_number {format : CString} (h : format ≠ percentS) (v : Nat) :
    ∃ text, printBinding env pkt format (.value v) = .ok text :=
  ⟨_, by rw [printBinding, if_neg h]⟩

/-- A translated field is printed without a look at the packet. -/
theorem translate_legible {p : Nat} (h : pkt.Inside p 8) (routine : TranslateRoutine) (format : CString) :
    translate env pkt p routine = .error (.fault .blockOverrun) ∨
      ∃ b, translate env pkt p routine = .ok b ∧ ∃ text, printBinding env pkt format b = .ok text := by
  have hread : ∀ n ≤ 8, ∃ v, pkt.read n p = .ok v := fun n hn =>
    ⟨_, RawEventPacket.read_of_inside ⟨h.1, by have hend := h.2; omega⟩⟩
  have hnull : ∃ text, printBinding env pkt format (.value 0) = .ok text := by
    by_cases hformat : format = percentS
    · rw [hformat, printBinding_pointer_iff]
      exact fun hne => absurd rfl hne
    · exact printBinding_number hformat 0
  have hcaption : ∀ (captions : Nat → CString) (max v : Nat),
      ∃ text, printBinding env pkt format (caption captions max v) = .ok text := by
    intro captions max v
    rw [caption]
    split
    · exact ⟨_, rfl⟩
    · exact hnull
  cases routine with
  | eventType =>
      obtain ⟨v, hv⟩ := hread 4 (by decide)
      rw [translate, hv]
      exact .inr ⟨_, rfl, hcaption _ _ v⟩
  | severity | processorMode =>
      obtain ⟨v, hv⟩ := hread 1 (by decide)
      rw [translate, hv]
      exact .inr ⟨_, rfl, hcaption _ _ v⟩
  | timestamp =>
      obtain ⟨v, hv⟩ := hread 8 (Nat.le_refl 8)
      rw [translate, hv, exit_ok_bind]
      rcases translateTimestamp_cases env v with ⟨-, htime | ⟨text, htime⟩⟩ | ⟨-, htime⟩
      · exact .inr ⟨_, htime, hnull⟩
      · exact .inr ⟨_, htime, _, rfl⟩
      · exact .inl htime

/-- A field that is the value is always legible, if it is not printed as a string. -/
theorem legible_direct (hvalid : pkt.isValid = true) {f : PacketField} {type : BindingFieldType} {format : CString}
    (hf : f.offset + 8 ≤ sizeofEventPacket)
    (htype : (∃ routine, type = .special routine) ∨ (type = .word ∨ type = .dword) ∧ format ≠ percentS) :
    Legible env pkt format (direct f type) := by
  obtain ⟨haddress, hinside⟩ := RawEventPacket.header_inside hvalid f (by decide : 0 < 8) hf
  have hptr : fieldPtr pkt (direct f type) = .ok (fieldViaOffset w pkt.address f.offset) := rfl
  have hnonnull : fieldViaOffset w pkt.address f.offset ≠ 0 := by
    have hpos := pkt.nonnull
    omega
  rw [Legible, Printed, binding, hptr, exit_ok_bind]
  rcases htype with ⟨routine, rfl⟩ | ⟨htype, hformat⟩
  · exact translate_legible hinside routine format
  · have hread : ∀ n ≤ 8, ∃ v, pkt.read n (fieldViaOffset w pkt.address f.offset) = .ok v := fun n hn =>
      ⟨_, RawEventPacket.read_of_inside ⟨hinside.1, by have hend := hinside.2; omega⟩⟩
    rcases htype with rfl | rfl
    · obtain ⟨v, hv⟩ := hread 2 (by decide)
      exact .inr ⟨.value v, by simp only [direct, if_neg hnonnull, hv, exit_ok_bind], printBinding_number hformat v⟩
    · obtain ⟨v, hv⟩ := hread 4 (by decide)
      exact .inr ⟨.value v, by simp only [direct, if_neg hnonnull, hv, exit_ok_bind], printBinding_number hformat v⟩

/-- A string is legible if the offset leads to one. -/
theorem legible_viaOffset_iff (hvalid : pkt.isValid = true) {f : PacketField} (hf : f.offset + 4 ≤ sizeofEventPacket) :
    Legible env pkt percentS (viaOffset f) ↔ pkt.OffsetInside f := by
  have hptr : fieldPtr pkt (viaOffset f) =
      .ok (if pkt.header 4 f ≠ 0 then fieldViaOffset w pkt.address (pkt.header 4 f) else 0) := by
    simp only [fieldPtr, viaOffset, if_true, RawEventPacket.read_header hvalid f (by decide : 0 < 4) hf, exit_ok_bind]
    split <;> rfl
  have hbinding : binding env pkt (viaOffset f) =
      .ok (.value (if pkt.header 4 f ≠ 0 then fieldViaOffset w pkt.address (pkt.header 4 f) else 0)) := by
    rw [binding, hptr]
    rfl
  rw [legible_iff_printed (fun h => (by cases h)), Printed, hbinding, RawEventPacket.OffsetInside]
  simp only [Except.ok.injEq, exists_eq_left', printBinding_pointer_iff]
  by_cases hzero : pkt.header 4 f = 0
  · simp [hzero, RawEventPacket.StringInside]
  · simp [hzero]

/-- The pointer to a field of the debugging information, if there is any. -/
theorem fieldPtr_viaDebugInfo (hvalid : pkt.isValid = true) (f : DebugField) (type : BindingFieldType) (isOffset : Bool) :
    fieldPtr pkt (viaDebugInfo f type isOffset) =
      if pkt.header 4 .debugInfoOffset ≠ 0 ∧ pkt.debugInfo ≠ 0 then
        if isOffset then do
          let offset ← pkt.read 4 (pkt.debugField f)
          if offset ≠ 0 then .ok (fieldViaOffset w pkt.debugInfo offset) else .ok 0
        else .ok (pkt.debugField f)
      else .ok 0 := by
  have hoffset : f.offset ≠ 0 := by cases f <;> decide
  have hread := RawEventPacket.read_header hvalid .debugInfoOffset (by decide : 0 < 4) (by decide)
  simp only [fieldPtr, viaDebugInfo, if_true, hread, exit_ok_bind, RawEventPacket.debugField, RawEventPacket.debugInfo]
  by_cases hzero : pkt.header 4 .debugInfoOffset = 0
  · simp [hzero]
  · by_cases hnull : fieldViaOffset w pkt.address (pkt.header 4 .debugInfoOffset) = 0
    · simp [hzero, hnull]
    · simp [hzero, hnull, hoffset]

theorem legible_debugOffset_iff (hvalid : pkt.isValid = true) (f : DebugField) :
    Legible env pkt percentS (viaDebugInfo f .pwstr true) ↔ pkt.DebugOffsetInside f := by
  rw [legible_iff_printed (fun h => (by cases h)), Printed, binding, fieldPtr_viaDebugInfo hvalid,
    RawEventPacket.DebugOffsetInside, RawEventPacket.HasDebugInfo]
  split
  · rename_i hinfo
    rw [if_pos rfl, imp_iff_right hinfo]
    by_cases hinside : pkt.Inside (pkt.debugField f) 4
    · rw [RawEventPacket.read_of_inside hinside, exit_ok_bind, and_iff_right hinside]
      by_cases hzero : load 4 pkt.mem (pkt.debugField f) = 0
      · simp [hzero, viaDebugInfo, printBinding_pointer_iff, RawEventPacket.StringInside]
      · simp [hzero, viaDebugInfo, printBinding_pointer_iff]
    · have hread : pkt.read 4 (pkt.debugField f) = .error (.fault .wildRead) := if_neg hinside
      rw [hread]
      simp [hinside]
  · rename_i hinfo
    refine iff_of_true ?_ (fun h => absurd h hinfo)
    exact ⟨.value 0, rfl, (printBinding_pointer_iff 0).mpr (fun hne => absurd rfl hne)⟩

theorem legible_debugValue_iff (hvalid : pkt.isValid = true) (f : DebugField) {format : CString} (hformat : format ≠ percentS) :
    Legible env pkt format (viaDebugInfo f .dword false) ↔ pkt.DebugValueInside f := by
  rw [legible_iff_printed (fun h => (by cases h)), Printed, binding, fieldPtr_viaDebugInfo hvalid,
    RawEventPacket.DebugValueInside, RawEventPacket.HasDebugInfo]
  split
  · rename_i hinfo
    rw [if_neg Bool.false_ne_true, imp_iff_right hinfo, exit_ok_bind]
    by_cases hnull : pkt.debugField f = 0
    · refine iff_of_true ⟨.value 0, by simp [hnull, viaDebugInfo], printBinding_number hformat 0⟩ (fun h => absurd hnull h)
    · rw [imp_iff_right hnull]
      by_cases hinside : pkt.Inside (pkt.debugField f) 4
      · refine iff_of_true ⟨.value (load 4 pkt.mem (pkt.debugField f)), ?_, printBinding_number hformat _⟩ hinside
        simp [hnull, viaDebugInfo, RawEventPacket.read_of_inside hinside]
      · have hread : pkt.read 4 (pkt.debugField f) = .error (.fault .wildRead) := if_neg hinside
        refine iff_of_false ?_ hinside
        rintro ⟨b, hb, -⟩
        simp [hnull, viaDebugInfo, hread] at hb
  · rename_i hinfo
    refine iff_of_true ⟨.value 0, rfl, printBinding_number hformat 0⟩ (fun h => absurd h hinfo)

end Bindings

/-! ## Insertion strings -/

section Insertion

variable {pkt : RawEventPacket w}

theorem onlyStray_fillInsertionStrings (n index : Nat) (strings : List (Option Nat)) :
    OnlyStray (fillInsertionStrings pkt n index strings) := by
  induction n generalizing index strings with
  | zero => exact onlyStray_ok _
  | succ n ih =>
      exact (pkt.onlyStray_read 4 _).bind fun _ =>
        (onlyStray_access (by decide) _).bind fun strings => ih (index + 1) strings

/-- The addresses of so many insertion strings, from an index on, as entries of the array. -/
def RawEventPacket.insertionPointers (pkt : RawEventPacket w) (index n : Nat) : List (Option Nat) :=
  (loadArray 4 pkt.mem (pkt.address + (PacketField.insertionOffset.offset + 4 * index)) n).map fun offset =>
    some (fieldViaOffset w pkt.address offset)

/-- An offset of an insertion string that can be reached with the array. -/
theorem inside_insertionOffset {index : Nat} (h : index < maxInsertionStrings) :
    pkt.Inside (fieldViaOffset w pkt.address (PacketField.insertionOffset.offset + 4 * index)) 4 ↔
      PacketField.insertionOffset.offset + 4 * (index + 1) ≤ pkt.totalSize := by
  have hpow := pow_bits_ge w
  have hoffset : PacketField.insertionOffset.offset = 60 := rfl
  have hmax : maxInsertionStrings = 16 := rfl
  rw [RawEventPacket.inside_fieldViaOffset (by omega) (by decide)]
  omega

/-- The array is filled as far as there are offsets inside of the packet. -/
theorem fillInsertionStrings_of_inside {n : Nat} {done rest : List (Option Nat)}
    (hroom : done.length + rest.length = maxInsertionStrings) (hn : n ≤ rest.length)
    (hinside : PacketField.insertionOffset.offset + 4 * (done.length + n) ≤ pkt.totalSize) :
    fillInsertionStrings pkt n done.length (done ++ rest) =
      .ok (done ++ pkt.insertionPointers done.length n ++ rest.drop n) := by
  induction n generalizing done rest with
  | zero => simp [fillInsertionStrings, RawEventPacket.insertionPointers, loadArray]
  | succ n ih =>
      cases rest with
      | nil => exact absurd hn (Nat.not_succ_le_zero n)
      | cons r rest =>
          rw [List.length_cons] at hroom hn
          have hinside' : pkt.Inside (fieldViaOffset w pkt.address
              (PacketField.insertionOffset.offset + 4 * done.length)) 4 :=
            (inside_insertionOffset (by omega : done.length < maxInsertionStrings)).mpr (by omega)
          have hread := RawEventPacket.read_of_inside hinside'
          have haddress : fieldViaOffset w pkt.address (PacketField.insertionOffset.offset + 4 * done.length) =
              pkt.address + (PacketField.insertionOffset.offset + 4 * done.length) := by
            have hspace : pkt.address + pkt.totalSize ≤ 2 ^ w.bits := pkt.inSpace
            exact Nat.mod_eq_of_lt (by omega)
          have hrest := @ih (done ++ [some (fieldViaOffset w pkt.address
              (load 4 pkt.mem (pkt.address + (PacketField.insertionOffset.offset + 4 * done.length))))])
            rest (by rw [List.length_append, List.length_singleton]; omega) (by omega)
            (by rw [List.length_append, List.length_singleton]; omega)
          rw [List.length_append, List.length_singleton, List.append_assoc, List.singleton_append] at hrest
          rw [fillInsertionStrings, hread, exit_ok_bind, haddress, Buffer.store_append, access_some, exit_ok_bind, hrest,
            RawEventPacket.insertionPointers, RawEventPacket.insertionPointers, loadArray, List.map_cons, List.drop_succ_cons,
            Nat.mul_add, Nat.mul_one, ← Nat.add_assoc, ← Nat.add_assoc, ← Nat.add_assoc]
          simp

/-- Without a fault, there is room for the insertion strings, and their offsets are inside of the packet. -/
theorem inside_of_fillInsertionStrings {n index : Nat} {strings out : List (Option Nat)}
    (hroom : strings.length = maxInsertionStrings) (h : fillInsertionStrings pkt n index strings = .ok out) :
    n = 0 ∨ index + n ≤ maxInsertionStrings ∧
      PacketField.insertionOffset.offset + 4 * (index + n) ≤ pkt.totalSize := by
  induction n generalizing index strings with
  | zero => exact Or.inl rfl
  | succ n ih =>
      right
      rw [fillInsertionStrings] at h
      cases hread : pkt.read 4 (fieldViaOffset w pkt.address (PacketField.insertionOffset.offset + 4 * index)) with
      | error e =>
          rw [hread] at h
          cases h
      | ok offset =>
          rw [hread, exit_ok_bind, Buffer.store] at h
          split at h
          · rename_i hindex
            rw [hroom] at hindex
            rw [access_some, exit_ok_bind] at h
            have hinside := (inside_insertionOffset hindex).mp (RawEventPacket.inside_of_read hread).1
            rcases ih (by rw [List.length_set, hroom]) h with rfl | ⟨hmax, hsize⟩
            · exact ⟨hindex, hinside⟩
            · exact ⟨by omega, by omega⟩
          · cases h

/-- The array of insertion strings, filled as far as there are any. -/
def RawEventPacket.insertionArray (pkt : RawEventPacket w) : List (Option Nat) :=
  pkt.insertionPointers 0 (pkt.header 4 .insertionCount) ++
    List.replicate (maxInsertionStrings - pkt.header 4 .insertionCount) none

variable (pkt) in
/-- What the resolver is called for: there are not too many insertion strings, their offsets are inside, and the entries
    that it reads are among those that were filled, with strings inside. -/
def RawEventPacket.Inserted (resolver : Option Resolver) (resolvingFlags : Nat) : Prop :=
  pkt.header 4 .messageOffset = 0 → ∀ r, resolver = some r →
    pkt.header 4 .insertionCount ≤ maxInsertionStrings ∧
    PacketField.insertionOffset.offset + 4 * pkt.header 4 .insertionCount ≤ pkt.totalSize ∧
    ∀ i ∈ (r.resolveMessage (pkt.header 4 .code) resolvingFlags
      (if 0 < pkt.header 4 .insertionCount then some pkt.insertionArray else none)).1,
      i < pkt.header 4 .insertionCount ∧ ∃ p, pkt.insertionArray[i]? = some (some p) ∧ pkt.Terminated p

theorem onlyStray_resolve (resolver : Option Resolver) (resolvingFlags : Nat) (bs : List Binding) :
    OnlyStray (resolve pkt resolver resolvingFlags bs) := by
  refine (pkt.onlyStray_read 4 _).bind fun messageOffset => ?_
  cases resolver with
  | none   => exact onlyStray_ok _
  | some r =>
      refine .ite ?_ (onlyStray_ok _)
      refine (pkt.onlyStray_read 4 _).bind fun count => (onlyStray_fillInsertionStrings count 0 _).bind fun strings => ?_
      exact (pkt.onlyStray_read 4 _).bind fun code =>
        (RawEventPacket.onlyStray_readInserted _ _).bind fun _ => onlyStray_ok _

theorem length_insertionPointers (index n : Nat) : (pkt.insertionPointers index n).length = n := by
  rw [RawEventPacket.insertionPointers, List.length_map, length_loadArray]

/-- The array for the resolver, if there are not too many insertion strings. -/
theorem fillInsertionStrings_header (hmax : pkt.header 4 .insertionCount ≤ maxInsertionStrings)
    (hinside : PacketField.insertionOffset.offset + 4 * pkt.header 4 .insertionCount ≤ pkt.totalSize) :
    fillInsertionStrings pkt (pkt.header 4 .insertionCount) 0 (List.replicate maxInsertionStrings none) =
      .ok pkt.insertionArray := by
  have hfill : fillInsertionStrings pkt (pkt.header 4 .insertionCount) ([] : List (Option Nat)).length
      ([] ++ List.replicate maxInsertionStrings none) =
        .ok ([] ++ pkt.insertionPointers ([] : List (Option Nat)).length (pkt.header 4 .insertionCount) ++
          (List.replicate maxInsertionStrings none).drop (pkt.header 4 .insertionCount)) :=
    fillInsertionStrings_of_inside (by simp) (by rwa [List.length_replicate]) (by simpa using hinside)
  rw [List.drop_replicate] at hfill
  exact hfill

/-- The entries that were set are those that were filled. -/
theorem insertionArray_set {i p : Nat} (h : pkt.insertionArray[i]? = some (some p)) :
    i < pkt.header 4 .insertionCount := by
  by_contra hge
  rw [RawEventPacket.insertionArray, List.getElem?_append_right (by rw [length_insertionPointers]; omega),
    List.getElem?_replicate] at h
  split at h <;> cases h

/-- What the resolver reads of its array. -/
theorem readInserted_array_iff (is : List Nat) :
    pkt.readInserted (if 0 < pkt.header 4 .insertionCount then some pkt.insertionArray else none) is = .ok () ↔
      ∀ i ∈ is, i < pkt.header 4 .insertionCount ∧ ∃ p, pkt.insertionArray[i]? = some (some p) ∧ pkt.Terminated p := by
  rw [RawEventPacket.readInserted_ok_iff]
  refine forall₂_congr fun i _ => ⟨?_, ?_⟩
  · rintro ⟨strings, p, hstrings, hentry, hp⟩
    obtain ⟨-, rfl⟩ := Option.ite_none_right_eq_some.mp hstrings |>.imp_right Option.some.inj
    exact ⟨insertionArray_set hentry, p, hentry, hp⟩
  · rintro ⟨hi, p, hentry, hp⟩
    exact ⟨pkt.insertionArray, p, if_pos (by omega), hentry, hp⟩

/-- **The message is resolved without a fault** exactly for what the resolver may be called for. -/
theorem resolve_ok_iff (hvalid : pkt.isValid = true) (resolver : Option Resolver) (resolvingFlags : Nat)
    (bs : List Binding) :
    (∃ bs', resolve pkt resolver resolvingFlags bs = .ok bs') ↔ pkt.Inserted resolver resolvingFlags := by
  have hfield : ∀ f : PacketField, f.offset + 4 ≤ sizeofEventPacket → pkt.field 4 f = .ok (pkt.header 4 f) :=
    fun f hf => RawEventPacket.read_header hvalid f (by decide) hf
  rw [resolve, hfield .messageOffset (by decide), exit_ok_bind, RawEventPacket.Inserted]
  cases resolver with
  | none   => simp
  | some r =>
      by_cases hzero : pkt.header 4 .messageOffset = 0
      · simp only [if_pos hzero, imp_iff_right hzero, hfield .insertionCount (by decide), hfield .code (by decide),
          exit_ok_bind, Option.some.injEq, forall_eq']
        constructor
        · rintro ⟨bs', h⟩
          obtain ⟨strings, hfill, h⟩ := ok_of_bind h
          obtain ⟨_, hread, -⟩ := ok_of_bind h
          have hroom : pkt.header 4 .insertionCount ≤ maxInsertionStrings ∧
              PacketField.insertionOffset.offset + 4 * pkt.header 4 .insertionCount ≤ pkt.totalSize := by
            rcases inside_of_fillInsertionStrings (by rw [List.length_replicate]) hfill with hnone | hsome
            · rw [RawEventPacket.isValid, Bool.and_eq_true, decide_eq_true_eq] at hvalid
              have hsize : sizeofEventPacket = 64 := rfl
              have hoffset : PacketField.insertionOffset.offset = 60 := rfl
              exact ⟨by omega, by omega⟩
            · rwa [Nat.zero_add] at hsome
          rw [fillInsertionStrings_header hroom.1 hroom.2] at hfill
          obtain rfl := Except.ok.inj hfill
          exact ⟨hroom.1, hroom.2, (readInserted_array_iff _).mp hread⟩
        · rintro ⟨hmax, hinside, hread⟩
          rw [fillInsertionStrings_header hmax hinside, exit_ok_bind, (readInserted_array_iff _).mpr hread]
          exact ⟨_, rfl⟩
      · simp [hzero]

/-- The bindings after that: a message takes the first one, if there was no offset of a message. -/
theorem resolve_bindings {resolver : Option Resolver} {resolvingFlags : Nat} {bs bs' : List Binding}
    (hvalid : pkt.isValid = true) (h : resolve pkt resolver resolvingFlags bs = .ok bs') :
    bs' = bs ∨ pkt.header 4 .messageOffset = 0 ∧ ∃ message, bs' = bs.set 0 (.text message) := by
  have hfield : pkt.field 4 .messageOffset = .ok (pkt.header 4 .messageOffset) :=
    RawEventPacket.read_header hvalid .messageOffset (by decide) (by decide)
  rw [resolve, hfield, exit_ok_bind] at h
  cases resolver with
  | none   => exact Or.inl (Except.ok.inj h).symm
  | some r =>
      dsimp only at h
      by_cases hzero : pkt.header 4 .messageOffset = 0
      · rw [if_pos hzero] at h
        obtain ⟨count, -, h⟩ := ok_of_bind h
        obtain ⟨strings, -, h⟩ := ok_of_bind h
        obtain ⟨code, -, h⟩ := ok_of_bind h
        obtain ⟨_, -, h⟩ := ok_of_bind h
        have hbs := (Except.ok.inj h).symm
        cases hmessage : (r.resolveMessage code resolvingFlags (if 0 < count then some strings else none)).2 with
        | none =>
            rw [hmessage] at hbs
            exact Or.inl hbs
        | some message =>
            rw [hmessage] at hbs
            exact Or.inr ⟨hzero, message, hbs⟩
      · rw [if_neg hzero] at h
        exact Or.inl (Except.ok.inj h).symm

end Insertion

/-! ## Templates of one variable -/

/-- The template of a variable. -/
def templateOf (name : CString) : CString where
  chars   := 0x25#16 :: name.chars
  nonzero := List.forall_mem_cons.mpr ⟨by decide, name.nonzero⟩

section Template

variable {β : Type} {lib : CLibrary β} {vars : List FormatVariable} {bindings : List β} {template : CString}

/-- The characters of a name are passed. -/
theorem formatLoop_name {bufferEnd : Nat} {cs : List WCHAR} (h : ∀ c ∈ cs, c ≠ 0x25#16 ∧ lib.iswalnum c = true)
    (cur : Nat) {variableName : Option Nat} {out : Output} (hroom : ¬ bufferEnd ≤ out.ptr) :
    formatLoop lib w vars bindings template bufferEnd cs cur ⟨true, variableName⟩ out =
      formatLoop lib w vars bindings template bufferEnd [] (cur + cs.length) ⟨true, variableName⟩ out := by
  induction cs generalizing cur with
  | nil => rfl
  | cons c cs ih =>
      obtain ⟨⟨hpercent, halnum⟩, hcs⟩ := List.forall_mem_cons.mp h
      have hstep : formatLoop lib w vars bindings template bufferEnd (c :: cs) cur ⟨true, variableName⟩ out =
          formatLoop lib w vars bindings template bufferEnd cs (cur + 1) ⟨true, variableName⟩ out := by
        rw [formatLoop, if_neg hroom, if_neg hpercent]
        simp [halnum]
      rw [hstep, ih hcs, List.length_cons, Nat.add_right_comm, Nat.add_assoc]

/-- **The template of a variable prints its value**, so that a fault of that is one of the function. -/
theorem formatString_templateOf {name : CString} {i : Nat} {var : FormatVariable} {value : β} {e : Exit}
    (hvalid : isStringValid (templateOf name) 1 maxword false = true)
    (halnum : ∀ c ∈ name.chars, c ≠ 0x25#16 ∧ lib.iswalnum c = true)
    (hfound : getVariableBindingIndex lib w (templateOf name) 1 name.length vars 0 = .ok (some i))
    (hlength : 1 + name.length < 2 ^ w.bits) (hvar : vars[i]? = some var) (hvalue : bindings[i]? = some value)
    (hprint : lib.print var.format value = .error e) :
    formatString lib w vars bindings (templateOf name) [0#16, 0#16] = .error e := by
  have hvars : vars ≠ [] := by
    rintro rfl
    cases hvar
  have hcch : sizeT w (1 + name.length) 1 = name.length := by
    rw [sizeT_sub (Nat.le_add_right _ _) hlength, Nat.add_sub_cancel_left]
  have hhandle : ∀ bufferEnd, handleVariable lib w vars bindings (templateOf name) (some 1) (1 + name.length)
      ⟨[0#16, 0#16], 0⟩ bufferEnd = .error e := by
    intro bufferEnd
    simp only [handleVariable, access_some, exit_ok_bind, hcch, hfound, hvar, hvalue, hprint, exit_error_bind]
  have hchecks : (vars.isEmpty || !isStringValid (templateOf name) 1 maxword false ||
      ([0#16, 0#16] : List WCHAR).isEmpty) = false := by
    simp [hvars, hvalid]
  rw [formatString, if_neg (by rw [hchecks]; exact Bool.false_ne_true)]
  show formatLoop lib w vars bindings (templateOf name) 1 (0x25#16 :: name.chars) 0 ⟨false, none⟩ ⟨[0#16, 0#16], 0⟩ = _
  rw [formatLoop, if_neg (by decide), if_pos rfl, if_neg (by simp)]
  simp only [Option.isSome_none, Bool.false_eq_true, if_false, exit_ok_bind]
  rw [formatLoop_name halnum _ (by decide), formatLoop, if_pos (Nat.zero_le _)]
  simp only [if_true, Nat.zero_add]
  have hhandle := hhandle 1
  rw [CString.length] at hhandle
  rw [hhandle]
  rfl

end Template

/-! ### Characters of names -/

/-- What the documentation of the C library says of ASCII characters. -/
structure Environment.Ascii (env : Environment) : Prop where
  towlower : ∀ c : WCHAR, c.toNat < 0x80 → env.towlower c = asciiLibrary.towlower c
  iswalnum : ∀ c : WCHAR, c.toNat < 0x80 → env.iswalnum c = asciiLibrary.iswalnum c

section Ascii

variable {env : Environment} {pkt : RawEventPacket w}

theorem compareLoop_ascii (hascii : env.Ascii) {src : CString} (hsrc : ∀ c ∈ src.memory, c.toNat < 0x80) {dst : List WCHAR}
    (hdst : ∀ c ∈ dst, c.toNat < 0x80) (index maxCch : Nat) :
    compareLoop (env.library pkt) w src dst index maxCch = compareLoop asciiLibrary w src dst index maxCch := by
  induction dst generalizing index maxCch with
  | nil => rfl
  | cons d dst ih =>
      obtain ⟨hd, hdst⟩ := List.forall_mem_cons.mp hdst
      have hlower : (env.library pkt).towlower d = asciiLibrary.towlower d := hascii.towlower d hd
      rw [compareLoop, compareLoop, hlower]
      cases hread : src.read index with
      | none   => rfl
      | some c =>
          have hc : (env.library pkt).towlower c = asciiLibrary.towlower c :=
            hascii.towlower c (hsrc c (List.mem_of_getElem? hread))
          simp only [access_some, exit_ok_bind, hc, ih hdst]

theorem getVariableBindingIndex_ascii (hascii : env.Ascii) {template : CString}
    (htemplate : ∀ c ∈ template.memory, c.toNat < 0x80) {vars : List FormatVariable}
    (hvars : ∀ var ∈ vars, ∀ c ∈ var.name.memory, c.toNat < 0x80) (begin_ cch index : Nat) :
    getVariableBindingIndex (env.library pkt) w template begin_ cch vars index =
      getVariableBindingIndex asciiLibrary w template begin_ cch vars index := by
  induction vars generalizing index with
  | nil => rfl
  | cons var vars ih =>
      obtain ⟨hvar, hvars⟩ := List.forall_mem_cons.mp hvars
      rw [getVariableBindingIndex, getVariableBindingIndex, compareString, compareString,
        compareLoop_ascii hascii htemplate hvar]
      simp only [ih hvars]

/-- The names of the variables are ASCII texts of letters. -/
theorem eventPacketVariables_ascii : ∀ var ∈ eventPacketVariables, ∀ c ∈ var.name.chars,
    c.toNat < 0x80 ∧ c ≠ 0x25#16 ∧ asciiLibrary.iswalnum c = true := by
  have hall : (eventPacketVariables.all fun var => var.name.chars.all fun c =>
      decide (c.toNat < 0x80) && (c != 0x25#16 && asciiLibrary.iswalnum c)) = true := by decide
  intro var hvar c hc
  simpa using List.all_eq_true.mp (List.all_eq_true.mp hall var hvar) c hc

theorem memory_ascii {s : CString} (h : ∀ c ∈ s.chars, c.toNat < 0x80) : ∀ c ∈ s.memory, c.toNat < 0x80 := by
  intro c hc
  rcases List.mem_append.mp hc with hc | hc
  · exact h c hc
  · rw [List.mem_singleton.mp hc]
    decide

theorem templateOf_memory_ascii {name : CString} (h : ∀ c ∈ name.chars, c.toNat < 0x80) :
    ∀ c ∈ (templateOf name).memory, c.toNat < 0x80 :=
  memory_ascii (List.forall_mem_cons.mpr ⟨by decide, h⟩)

theorem eventPacketVariables_valid : ∀ i : Fin 14,
    isStringValid (templateOf eventPacketVariables[i].name) 1 maxword false = true ∧
      eventPacketVariables[i].name.length < 16 := by
  decide

/-- Each variable is found by its name. -/
theorem eventPacketVariables_found (w : Width) : ∀ i : Fin 14,
    getVariableBindingIndex asciiLibrary w (templateOf eventPacketVariables[i].name) 1
      eventPacketVariables[i].name.length eventPacketVariables 0 = .ok (some i) := by
  cases w <;> decide

end Ascii

/-! ## Self-contained packets -/

/-- A packet that is self-contained for a resolver: what its offsets lead to is inside of it. -/
structure SelfContained (pkt : RawEventPacket w) (resolver : Option Resolver) (resolvingFlags : Nat) : Prop where
  message    : pkt.OffsetInside .messageOffset
  machine    : pkt.OffsetInside .machineOffset
  moduleName : pkt.DebugOffsetInside .moduleOffset
  function   : pkt.DebugOffsetInside .functionNameOffset
  sourceFile : pkt.DebugOffsetInside .sourceFileOffset
  sourceLine : pkt.DebugValueInside .sourceLine
  inserted   : pkt.Inserted resolver resolvingFlags

/-- Whatever the template, the buffer and the texts of the system are, the formatter reads only the packet, and fills no
    more insertion strings than there is room for. -/
def ReadsOnlyInside (pkt : RawEventPacket w) (resolver : Option Resolver) (resolvingFlags : Nat) : Prop :=
  ∀ env : Environment, env.Ascii → ∀ (template : CString) (buffer : List WCHAR), buffer.length < 2 ^ w.bits →
    NoStray (format env pkt ⟨sizeofFormatter w, template, resolver, resolvingFlags⟩ buffer)

section SelfContained

variable {env : Environment} {pkt : RawEventPacket w} {resolver : Option Resolver} {resolvingFlags : Nat}

/-- All variables of an event packet are legible. -/
def AllLegible (env : Environment) (pkt : RawEventPacket w) : Prop :=
  ∀ v ∈ eventPacketVariables.zip eventPacketBindings, Legible env pkt v.1.format v.2

theorem allLegible_iff (hvalid : pkt.isValid = true) :
    AllLegible env pkt ↔ pkt.OffsetInside .messageOffset ∧ pkt.OffsetInside .machineOffset ∧
      pkt.DebugOffsetInside .moduleOffset ∧ pkt.DebugOffsetInside .functionNameOffset ∧
      pkt.DebugOffsetInside .sourceFileOffset ∧ pkt.DebugValueInside .sourceLine := by
  have hspecial : ∀ {f : PacketField} (routine : TranslateRoutine), f.offset + 8 ≤ sizeofEventPacket →
      Legible env pkt percentS (direct f (.special routine)) :=
    fun routine hf => legible_direct hvalid hf (Or.inl ⟨routine, rfl⟩)
  have hword : Legible env pkt (wide "0x%04X") (direct .flags .word) :=
    legible_direct hvalid (by decide) (Or.inr ⟨Or.inl rfl, by decide⟩)
  have hdword : ∀ {f : PacketField} {format : CString}, f.offset + 8 ≤ sizeofEventPacket → format ≠ percentS →
      Legible env pkt format (direct f .dword) :=
    fun hf hformat => legible_direct hvalid hf (Or.inr ⟨Or.inr rfl, hformat⟩)
  simp only [AllLegible, eventPacketVariables, eventPacketBindings, List.zip_cons_cons, List.zip_nil_left,
    List.forall_mem_cons, List.not_mem_nil, false_implies, implies_true, and_true]
  rw [legible_viaOffset_iff hvalid (by decide), legible_viaOffset_iff hvalid (by decide), legible_debugOffset_iff hvalid,
    legible_debugOffset_iff hvalid, legible_debugOffset_iff hvalid, legible_debugValue_iff hvalid _ (by decide),
    and_iff_right (hspecial _ (by decide)), and_iff_right hword, and_iff_right (hspecial _ (by decide)),
    and_iff_right (hspecial _ (by decide)), and_iff_right (hdword (by decide) (by decide)),
    and_iff_right (hdword (by decide) (by decide)), and_iff_right (hspecial _ (by decide)),
    and_iff_right (hdword (by decide) (by decide))]

/-- Bindings of legible variables are prepared, and each of them is printed; unless a block is overrun. -/
theorem prepareBindings_of_legible {vars : List FormatVariable} {ds : List BindingDefinition}
    (hlength : vars.length = ds.length) (h : ∀ v ∈ vars.zip ds, Legible env pkt v.1.format v.2) :
    prepareBindings env pkt ds = .error (.fault .blockOverrun) ∨
      ∃ bs, prepareBindings env pkt ds = .ok bs ∧ bs.length = vars.length ∧ Printable (env.library pkt) vars bs := by
  induction vars generalizing ds with
  | nil =>
      obtain rfl := List.length_eq_zero_iff.mp hlength.symm
      exact .inr ⟨[], rfl, rfl, fun i var b hvar => by cases hvar⟩
  | cons var vars ih =>
      cases ds with
      | nil => cases hlength
      | cons d ds =>
          obtain ⟨hoverrun | ⟨b, hb, hprint⟩, htail⟩ := List.forall_mem_cons.mp h
          · exact .inl (by rw [prepareBindings, hoverrun, exit_error_bind])
          obtain hoverrun | ⟨bs, hbs, hlength', hprints⟩ := ih (Nat.succ.inj hlength) htail
          · exact .inl (by rw [prepareBindings, hb, hoverrun]; rfl)
          have hlength'' : (b :: bs).length = (var :: vars).length := by
            rw [List.length_cons, hlength', List.length_cons]
          refine .inr ⟨b :: bs, by rw [prepareBindings, hb, hbs]; rfl, hlength'', ?_⟩
          intro i var' b' hvar hb'
          cases i with
          | zero =>
              obtain rfl := Option.some.inj hvar
              obtain rfl := Option.some.inj hb'
              exact hprint
          | succ i => exact hprints i var' b' hvar hb'

/-- A message is printed, too. -/
theorem printable_set {vars : List FormatVariable} {bs : List Binding} (h : Printable (env.library pkt) vars bs)
    (message : CString) : Printable (env.library pkt) vars (bs.set 0 (.text message)) := by
  intro i var b hvar hb
  cases bs with
  | nil => cases hb
  | cons b' bs =>
      cases i with
      | zero =>
          obtain rfl := Option.some.inj hb
          exact ⟨message.chars, rfl⟩
      | succ i => exact h (i + 1) var b hvar hb

/-- What goes wrong with the bindings goes wrong with one of them. -/
theorem exists_binding_error {ds : List BindingDefinition} {e : Exit} (h : prepareBindings env pkt ds = .error e) :
    ∃ d ∈ ds, binding env pkt d = .error e := by
  induction ds with
  | nil => cases h
  | cons d ds ih =>
      rw [prepareBindings] at h
      cases hb : binding env pkt d with
      | error e' =>
          rw [hb] at h
          exact ⟨d, List.mem_cons_self, by rw [hb, Except.error.inj h]⟩
      | ok b =>
          rw [hb, exit_ok_bind] at h
          cases hbs : prepareBindings env pkt ds with
          | error e' =>
              rw [hbs] at h
              obtain ⟨d', hd', he⟩ := ih (hbs.trans (congrArg _ (Except.error.inj h)))
              exact ⟨d', List.mem_cons_of_mem _ hd', he⟩
          | ok bs =>
              rw [hbs] at h
              cases h

/-- The block that is overrun is that of the packet's time. -/
theorem not_timeFits_of_overrun (hvalid : pkt.isValid = true)
    (h : prepareBindings env pkt eventPacketBindings = .error (.fault .blockOverrun)) :
    ¬ env.TimeFits (pkt.header 8 .timestamp) := by
  obtain ⟨d, hd, hoverrun⟩ := exists_binding_error h
  have htype : d.type = .special .timestamp := by
    by_contra hne
    obtain ⟨f, hf, hstray⟩ := onlyStray_binding d (fun htime => absurd htime hne) _ hoverrun
    exact hstray (by cases hf; rfl)
  have honly : ∀ d ∈ eventPacketBindings,
      d.type = .special .timestamp → d = direct .timestamp (.special .timestamp) := by
    decide
  obtain rfl := honly d hd htype
  have hread := RawEventPacket.read_header hvalid .timestamp (by decide : 0 < 8) (by decide)
  have htranslate : binding env pkt (direct .timestamp (.special .timestamp)) =
      translateTimestamp env (pkt.header 8 .timestamp) := by
    show translate env pkt (fieldViaOffset w pkt.address PacketField.timestamp.offset) .timestamp = _
    rw [translate, hread, exit_ok_bind]
  rw [htranslate] at hoverrun
  rcases translateTimestamp_cases env (pkt.header 8 .timestamp) with ⟨-, htime | ⟨text, htime⟩⟩ | ⟨hnot, -⟩
  · rw [htime] at hoverrun
    cases hoverrun
  · rw [htime] at hoverrun
    cases hoverrun
  · exact hnot

/-- **What the formatter does with a self-contained packet**: it overruns the block of the time, or it expands the
    template with bindings that can be printed. -/
theorem format_of_selfContained (env : Environment) (hvalid : pkt.isValid = true)
    (h : SelfContained pkt resolver resolvingFlags) (template : CString) {buffer : List WCHAR} (hbuffer : buffer ≠ []) :
    (¬ env.TimeFits (pkt.header 8 .timestamp) ∧
      format env pkt ⟨sizeofFormatter w, template, resolver, resolvingFlags⟩ buffer = .error (.fault .blockOverrun)) ∨
      ∃ bs, bs.length = eventPacketVariables.length ∧ Printable (env.library pkt) eventPacketVariables bs ∧
        format env pkt ⟨sizeofFormatter w, template, resolver, resolvingFlags⟩ buffer =
          formatString (env.library pkt) w eventPacketVariables bs template buffer := by
  have hlegible : AllLegible env pkt := (allLegible_iff hvalid).mpr
    ⟨h.message, h.machine, h.moduleName, h.function, h.sourceFile, h.sourceLine⟩
  rw [format, if_neg (by simp [hvalid, hbuffer])]
  obtain hoverrun | ⟨bs, hbs, hlength, hprint⟩ := prepareBindings_of_legible rfl hlegible
  · exact .inl ⟨not_timeFits_of_overrun hvalid hoverrun, by rw [hoverrun, exit_error_bind]⟩
  · obtain ⟨bs', hbs'⟩ := (resolve_ok_iff hvalid resolver resolvingFlags bs).mpr h.inserted
    refine .inr ⟨bs', ?_, ?_, by rw [hbs, exit_ok_bind, hbs', exit_ok_bind]⟩
    · rcases resolve_bindings hvalid hbs' with rfl | ⟨-, message, rfl⟩
      · exact hlength
      · rw [List.length_set, hlength]
    · rcases resolve_bindings hvalid hbs' with rfl | ⟨-, message, rfl⟩
      · exact hprint
      · exact printable_set hprint message

/-- **A self-contained packet is not read beyond.** -/
theorem readsOnlyInside_of_selfContained (hvalid : pkt.isValid = true) (h : SelfContained pkt resolver resolvingFlags) :
    ReadsOnlyInside pkt resolver resolvingFlags := by
  intro env hascii template buffer hbuffer
  have hzero : (env.library pkt).towlower 0#16 = 0#16 := hascii.towlower 0#16 (by decide)
  by_cases hempty : buffer = []
  · rw [format, if_pos (by simp [hempty])]
    exact fun f hf => by cases hf
  · obtain ⟨-, hoverrun⟩ | ⟨bs, hlength, hprint, hrun⟩ := format_of_selfContained env hvalid h template hempty
    · rw [hoverrun]
      exact fun f hf => by cases hf; rfl
    · rw [hrun]
      intro f hf
      obtain ⟨code, hcode⟩ | ⟨out, hout, -⟩ := formatString_outcome template hzero hlength hprint hbuffer
      · rw [hcode] at hf
        cases hf
      · rw [hout] at hf
        cases hf

/-- **A packet that is not read beyond has legible variables**: the template of a variable prints it. -/
theorem legible_of_readsOnlyInside (hascii : env.Ascii) (hfits : ∀ utcTime, env.TimeFits utcTime)
    (hvalid : pkt.isValid = true) (h : ReadsOnlyInside pkt resolver resolvingFlags) (i : Fin 14) :
    Legible env pkt eventPacketVariables[i].format eventPacketBindings[i] := by
  have hpow := pow_bits_ge w
  have hrun := h env hascii (templateOf eventPacketVariables[i].name) [0#16, 0#16] (by show 2 < 2 ^ w.bits; omega)
  rw [format, if_neg (by simp [hvalid])] at hrun
  obtain ⟨bs, hbs, hrun⟩ := hrun.bind_ok (onlyStray_prepareBindings hfits _)
  obtain ⟨bs', hbs', hrun⟩ := hrun.bind_ok (onlyStray_resolve _ _ _)
  have hall := prepareBindings_ok_iff.mp hbs
  have hlength : bs.length = 14 := hall.length_eq.symm
  have hi : i.val < bs.length := by rw [hlength]; exact i.isLt
  have hbinding : binding env pkt eventPacketBindings[i] = .ok bs[i.val] := hall.get i.isLt hi
  refine .inr ⟨bs[i.val], hbinding, (onlyStray_printBinding _ _).exists_ok (fun f hf => ?_)⟩
  have hvalue : bs'[i.val]? = some bs[i.val] := by
    rcases resolve_bindings hvalid hbs' with rfl | ⟨hzero, message, rfl⟩
    · exact List.getElem?_eq_getElem hi
    · by_cases hfirst : i = 0
      · -- without an offset of a message, its binding is null
        subst hfirst
        have hlegible : Legible env pkt percentS (viaOffset .messageOffset) :=
          (legible_viaOffset_iff hvalid (by decide)).mpr (fun hne => absurd hzero hne)
        obtain ⟨b, hb, text, htext⟩ := (legible_iff_printed (fun htype => (by cases htype))).mp hlegible
        have hsame : b = bs[0] := Except.ok.inj (hb.symm.trans hbinding)
        rw [hsame] at htext
        exact absurd (hf.symm.trans htext) (by simp)
      · have hne : 0 ≠ i.val := fun heq => hfirst (Fin.ext heq.symm)
        rw [List.getElem?_set_ne hne, List.getElem?_eq_getElem hi]
  have hnames := eventPacketVariables_ascii eventPacketVariables[i] (List.getElem_mem i.isLt)
  obtain ⟨htemplate, hshort⟩ := eventPacketVariables_valid i
  have hfound : getVariableBindingIndex (env.library pkt) w (templateOf eventPacketVariables[i].name) 1
      eventPacketVariables[i].name.length eventPacketVariables 0 = .ok (some i.val) := by
    rw [getVariableBindingIndex_ascii hascii (templateOf_memory_ascii fun c hc => (hnames c hc).1)
      (fun var hvar => memory_ascii fun c hc => (eventPacketVariables_ascii var hvar c hc).1)]
    exact eventPacketVariables_found w i
  have halnum : ∀ c ∈ eventPacketVariables[i].name.chars, c ≠ 0x25#16 ∧ (env.library pkt).iswalnum c = true := by
    intro c hc
    obtain ⟨hc, hpercent, halnum⟩ := hnames c hc
    exact ⟨hpercent, (hascii.iswalnum c hc).trans halnum⟩
  exact hrun f (formatString_templateOf htemplate halnum hfound (by omega) (List.getElem?_eq_getElem i.isLt) hvalue hf)

/-- A system for ASCII texts, with the captions of the resources, where it is always midnight. -/
def asciiEnvironment : Environment where
  towlower                  := asciiLibrary.towlower
  iswalnum                  := asciiLibrary.iswalnum
  printNumber _ v           := (Nat.toDigits 10 v).map fun c => BitVec.ofNat 16 c.toNat
  eventTypeCaptions i       :=
    wide (["Log", "Assertion", "Trace", "Trace Procedure Entry", "Trace Procedure Exit", "Custom"].getD i "")
  severityCaptions i        := wide (["Trace", "Debug", "Info", "Warning", "Error", "Fatal"].getD i "")
  procModeCaptions i        := wide (["Kernel", "User"].getD i "")
  fileTimeToLocalFileTime t := some t
  fileTimeToSystemTime _    := some 0#128
  staleLocalTime            := 0
  staleLocalSystemTime      := 0#128
  malloc                    := true
  getTimeFormat _           := some (wide "12:00:00 AM")

theorem asciiEnvironment_ascii : asciiEnvironment.Ascii := ⟨fun _ _ => rfl, fun _ _ => rfl⟩

theorem asciiEnvironment_timeFits (utcTime : Nat) : asciiEnvironment.TimeFits utcTime := by
  intro text h
  have hmidnight : asciiEnvironment.timeText utcTime = some (wide "12:00:00 AM") := rfl
  rw [hmidnight] at h
  obtain rfl := Option.some.inj h
  decide

/-- **The formatter reads only the packet** exactly if the packet is self-contained. -/
theorem readsOnlyInside_iff (hvalid : pkt.isValid = true) :
    ReadsOnlyInside pkt resolver resolvingFlags ↔ SelfContained pkt resolver resolvingFlags := by
  refine ⟨fun h => ?_, readsOnlyInside_of_selfContained hvalid⟩
  have hlegible : AllLegible asciiEnvironment pkt := by
    intro v hv
    obtain ⟨i, hi, rfl⟩ := List.mem_iff_getElem.mp hv
    rw [List.getElem_zip]
    exact legible_of_readsOnlyInside asciiEnvironment_ascii asciiEnvironment_timeFits hvalid h ⟨i, hi⟩
  obtain ⟨message, machine, moduleName, function, sourceFile, sourceLine⟩ := (allLegible_iff hvalid).mp hlegible
  refine ⟨message, machine, moduleName, function, sourceFile, sourceLine, ?_⟩
  -- any template that is valid gets as far as the resolver
  have hpow := pow_bits_ge w
  have hrun := h asciiEnvironment asciiEnvironment_ascii (templateOf (wide "Type")) [0#16, 0#16]
    (by show 2 < 2 ^ w.bits; omega)
  rw [format, if_neg (by simp [hvalid])] at hrun
  obtain ⟨bs, hbs, hrun⟩ := hrun.bind_ok (onlyStray_prepareBindings asciiEnvironment_timeFits _)
  obtain ⟨bs', hbs', -⟩ := hrun.bind_ok (onlyStray_resolve _ _ _)
  exact (resolve_ok_iff hvalid resolver resolvingFlags bs).mp ⟨bs', hbs'⟩

end SelfContained

/-! ### Messages with inserts -/

/-- A resolver with a table of messages, each with its text and the entries that its inserts name. They are not read if
    `CDIAG_MSGRES_RESOLVE_IGNORE_INSERTS` is set. -/
def tableResolver (messages : Nat → Option (CString × List Nat)) : Resolver where
  resolveMessage messageId flags _ :=
    match messages messageId with
    | none                 => ([], none)
    | some (text, inserts) => (if flags % 2 = 1 then [] else inserts, some text)

/-- **The number of insertion strings is not checked against the message**: one that names more of them than the packet
    has makes the formatter hand out, and the resolver read, what was on the stack. -/
theorem not_readsOnlyInside_missingInsert {pkt : RawEventPacket w} {messages : Nat → Option (CString × List Nat)}
    {text : CString} {inserts : List Nat} {i : Nat} (hvalid : pkt.isValid = true)
    (hoffset : pkt.header 4 .messageOffset = 0) (hmessage : messages (pkt.header 4 .code) = some (text, inserts))
    (hi : i ∈ inserts) (hcount : pkt.header 4 .insertionCount ≤ i) :
    ¬ ReadsOnlyInside pkt (some (tableResolver messages)) 0 := by
  intro h
  obtain ⟨-, -, hread⟩ := (readsOnlyInside_iff hvalid).mp h |>.inserted hoffset _ rfl
  have hlt := (hread i (by simp [tableResolver, hmessage, hi])).1
  omega

/-! ### Debugging information behind the end -/

/-- A packet that consists of its header, with an offset of debugging information behind it. -/
def strayPacket : RawEventPacket .w32 where
  mem     := store 4 (store 2 (store 2 (fun _ => 0) 0x1000 64) 0x1002 64) 0x102C 1000
  address := 0x1000
  nonnull := by decide
  inSpace := by decide

theorem readsOnlyInside_strayPacket : ReadsOnlyInside strayPacket none 0 ↔ SelfContained strayPacket none 0 :=
  readsOnlyInside_iff (by decide)

/-- The packet is accepted, and the debugging information is read at the offset. -/
theorem not_readsOnlyInside_strayPacket : strayPacket.isValid = true ∧ ¬ ReadsOnlyInside strayPacket none 0 := by
  refine ⟨by decide, fun h => ?_⟩
  exact absurd (h asciiEnvironment asciiEnvironment_ascii (templateOf (wide "Type")) [0#16, 0#16] (by decide) .wildRead
    (by decide)) (by decide)

end Cfix.Cdiag
