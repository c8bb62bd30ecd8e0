import Mathlib.Data.List.TakeWhile
import Cfix.Base.Hresult
import Cfix.Lib.Records

/-!
# `Kernel.EventLayout` — `CFIXKR_EXECUTION_EVENT` and the structures inside of it (`cfixkrio.h`, `cfixaux.h`)

The offsets of the fields under natural alignment, for both pointer widths: the embedded stack trace holds
a pointer in front of its frames, so its frames do not start at the same place in both. Exception records
are laid out per width as well.
-/

namespace Cfix.Events

open Memory

/-! ## Pointer widths -/

/-- The pointer width of a build. -/
inductive Width where
  | w32
  | w64
  deriving DecidableEq, Repr

/-- The bytes of a pointer. -/
def Width.bytes : Width → Nat
  | .w32 => 4
  | .w64 => 8

def Width.bits (w : Width) : Nat := 8 * w.bytes

theorem Width.bytes_pos (w : Width) : 4 ≤ w.bytes ∧ w.bytes ≤ 8 := by
  cases w with
  | w32 => exact ⟨Nat.le_refl 4, by decide⟩
  | w64 => exact ⟨by decide, Nat.le_refl 8⟩

/-- A value survives a field that is wide enough for it. -/
theorem ofNat_toNat_mod {w n : Nat} (h : w ≤ 8 * n) (v : BitVec w) :
    BitVec.ofNat w (v.toNat % 256 ^ n) = v := by
  have hcap : 2 ^ w ≤ 256 ^ n := by
    calc 2 ^ w ≤ 2 ^ (8 * n) := Nat.pow_le_pow_right (by decide) h
      _ = 256 ^ n := by rw [Nat.pow_mul]
  have hv : v.toNat < 256 ^ n := Nat.lt_of_lt_of_le v.isLt hcap
  rw [Nat.mod_eq_of_lt hv, BitVec.ofNat_toNat, BitVec.setWidth_eq]

/-- Numbers that were stored as such are read back as vectors. -/
theorem map_ofNat_map_toNat {w : Nat} (l : List (BitVec w)) : (l.map BitVec.toNat).map (BitVec.ofNat w) = l := by
  rw [List.map_map]
  conv_rhs => rw [← List.map_id l]
  apply List.map_congr_left
  intro x _
  simp

/-! ## Strings -/

/-- A zero-terminated string, without its terminator. -/
structure Wstr where
  chars   : List (BitVec 16)
  nulFree : 0#16 ∉ chars

/-- The string in a zero-terminated buffer. -/
def Wstr.ofBuffer (buffer : List (BitVec 16)) : Wstr where
  chars := buffer.takeWhile (· ≠ 0#16)
  nulFree h := by simpa using List.mem_takeWhile_imp h

theorem Wstr.ext {s t : Wstr} (h : s.chars = t.chars) : s = t := by
  cases s with
  | mk chars _ => cases h; rfl

/-- A string is read back from a buffer that holds it, whatever stands behind the terminator. -/
theorem Wstr.ofBuffer_chars (s : Wstr) (rest : List (BitVec 16)) : Wstr.ofBuffer (s.chars ++ 0#16 :: rest) = s := by
  apply Wstr.ext
  have hall : ∀ x ∈ s.chars, (decide (x ≠ 0#16)) = true := by
    intro x hx
    rw [decide_eq_true_iff]
    rintro rfl
    exact s.nulFree hx
  show (s.chars ++ 0#16 :: rest).takeWhile _ = s.chars
  rw [List.takeWhile_append_of_pos hall]
  simp

/-- The empty string. -/
def Wstr.empty : Wstr := ⟨[], List.not_mem_nil⟩

/-- The characters of an optional string; an absent one has none. -/
def charsOf (s : Option Wstr) : List (BitVec 16) := (s.getD .empty).chars

/-! ## Exception records -/

/-- `EXCEPTION_MAXIMUM_PARAMETERS`. -/
def exceptionMaximumParameters : Nat := 15

/-- `EXCEPTION_RECORD32` and `EXCEPTION_RECORD64`. -/
structure ExceptionRecord (w : Width) where
  exceptionCode        : BitVec 32
  exceptionFlags       : BitVec 32
  exceptionRecord      : BitVec w.bits
  exceptionAddress     : BitVec w.bits
  numberParameters     : BitVec 32
  exceptionInformation : List (BitVec w.bits)
  length_information   : exceptionInformation.length = exceptionMaximumParameters
  deriving DecidableEq

/-- The offset of `ExceptionInformation`, an array of pointers behind the number of parameters. -/
def informationOffset (w : Width) : Nat := 8 + 3 * w.bytes

/-- `sizeof( EXCEPTION_RECORD32 )` and `sizeof( EXCEPTION_RECORD64 )`. -/
def sizeofExceptionRecord (w : Width) : Nat := informationOffset w + w.bytes * exceptionMaximumParameters

namespace ExceptionRecord

variable {w : Width}

/-- The record in the memory at address `a`. -/
def load (w : Width) (m : Mem) (a : Nat) : ExceptionRecord w where
  exceptionCode        := .ofNat 32 (Memory.load 4 m a)
  exceptionFlags       := .ofNat 32 (Memory.load 4 m (a + 4))
  exceptionRecord      := .ofNat w.bits (Memory.load w.bytes m (a + 8))
  exceptionAddress     := .ofNat w.bits (Memory.load w.bytes m (a + 8 + w.bytes))
  numberParameters     := .ofNat 32 (Memory.load 4 m (a + 8 + 2 * w.bytes))
  exceptionInformation :=
    (loadArray w.bytes m (a + informationOffset w) exceptionMaximumParameters).map (BitVec.ofNat w.bits)
  length_information   := by rw [List.length_map, length_loadArray]

/-- The memory after the record was copied to address `a`, field by field. -/
def store (m : Mem) (a : Nat) (r : ExceptionRecord w) : Mem :=
  let m := Memory.store 4 m a r.exceptionCode.toNat
  let m := Memory.store 4 m (a + 4) r.exceptionFlags.toNat
  let m := Memory.store w.bytes m (a + 8) r.exceptionRecord.toNat
  let m := Memory.store w.bytes m (a + 8 + w.bytes) r.exceptionAddress.toNat
  let m := Memory.store 4 m (a + 8 + 2 * w.bytes) r.numberParameters.toNat
  storeArray w.bytes m (a + informationOffset w) (r.exceptionInformation.map BitVec.toNat)

@[ext] theorem ext {r s : ExceptionRecord w} (hcode : r.exceptionCode = s.exceptionCode)
    (hflags : r.exceptionFlags = s.exceptionFlags) (hrecord : r.exceptionRecord = s.exceptionRecord)
    (haddress : r.exceptionAddress = s.exceptionAddress) (hnumber : r.numberParameters = s.numberParameters)
    (hinfo : r.exceptionInformation = s.exceptionInformation) : r = s := by
  cases r
  cases s
  simp only at hcode hflags hrecord haddress hnumber hinfo
  subst hcode hflags hrecord haddress hnumber hinfo
  rfl

/-- The record depends on its own bytes only. -/
theorem load_congr {m m' : Mem} {a a' : Nat} (h : Same m a m' a' (sizeofExceptionRecord w)) :
    load w m a = load w m' a' := by
  unfold sizeofExceptionRecord informationOffset at h
  have hw := w.bytes_pos
  have hnum (n d : Nat) (hd : d + n ≤ 8 + 3 * w.bytes) : Memory.load n m (a + d) = Memory.load n m' (a' + d) :=
    (h.mono (by omega) (by omega) (by omega)).load_eq
  have harray : loadArray w.bytes m (a + (8 + 3 * w.bytes)) exceptionMaximumParameters
      = loadArray w.bytes m' (a' + (8 + 3 * w.bytes)) exceptionMaximumParameters :=
    (h.mono (by omega) (by omega) (by omega)).loadArray_eq
  unfold load informationOffset
  simp only [Nat.add_assoc]
  ext1
  all_goals simp only
  · exact congrArg (BitVec.ofNat 32) (hnum 4 0 (by omega))
  · rw [hnum 4 4 (by omega)]
  · rw [hnum w.bytes 8 (by omega)]
  · rw [hnum w.bytes (8 + w.bytes) (by omega)]
  · rw [hnum 4 (8 + 2 * w.bytes) (by omega)]
  · rw [harray]

/-- **A stored record is read back**, in all its fields. -/
theorem load_store (m : Mem) (a : Nat) (r : ExceptionRecord w) : load w (r.store m a) a = r := by
  have hw := w.bytes_pos
  have hlen : (r.exceptionInformation.map BitVec.toNat).length = exceptionMaximumParameters := by
    rw [List.length_map, r.length_information]
  have h32 (v : BitVec 32) : BitVec.ofNat 32 (v.toNat % 256 ^ 4) = v := ofNat_toNat_mod (by decide) v
  have hptr (v : BitVec w.bits) : BitVec.ofNat w.bits (v.toNat % 256 ^ w.bytes) = v :=
    ofNat_toNat_mod (Nat.le_refl _) v
  unfold load store informationOffset
  ext1
  all_goals simp only
  · simp (disch := omega) only [load_storeArray_disjoint, load_store_disjoint, Memory.load_store, h32]
  · simp (disch := omega) only [load_storeArray_disjoint, load_store_disjoint, Memory.load_store, h32]
  · simp (disch := omega) only [load_storeArray_disjoint, load_store_disjoint, Memory.load_store, hptr]
  · simp (disch := omega) only [load_storeArray_disjoint, load_store_disjoint, Memory.load_store, hptr]
  · simp (disch := omega) only [load_storeArray_disjoint, Memory.load_store, h32]
  · rw [← hlen, loadArray_storeArray, List.map_map, List.map_map]
    conv_rhs => rw [← List.map_id r.exceptionInformation]
    exact List.map_congr_left fun v _ => hptr v

/-- Copying a record changes no byte outside of it. -/
theorem store_outside (m : Mem) {a x : Nat} (r : ExceptionRecord w)
    (h : x < a ∨ a + sizeofExceptionRecord w ≤ x) : r.store m a x = m x := by
  have hw := w.bytes_pos
  unfold sizeofExceptionRecord informationOffset at h
  unfold store informationOffset
  rw [storeArray_outside _ _ (by rw [List.length_map, r.length_information]; omega)]
  simp (disch := omega) only [Memory.store_outside]

end ExceptionRecord

/-! ## Fields of an event -/

/-- The value of `CFIX_EVENT_TYPE`. -/
def eventTypeCode : EventType → Nat
  | .failedAssertion   => 0
  | .uncaughtException => 1
  | .inconclusiveness  => 2
  | .log               => 3

/-- `FIELD_OFFSET( CFIXKR_EXECUTION_EVENT, StackTrace )`; it is also the offset of `FrameCount`. -/
def stackTraceOffset : Nat := 176

/-- `FIELD_OFFSET( CFIXKR_EXECUTION_EVENT, StackTrace.GetInformationStackFrame )`. -/
def getInformationOffset (w : Width) : Nat := 176 + w.bytes

/-- `FIELD_OFFSET( CFIXKR_EXECUTION_EVENT, StackTrace.Frames )`. -/
def framesOffset (w : Width) : Nat := 176 + 2 * w.bytes

/-- `sizeof( CFIXKR_EXECUTION_EVENT )`, which holds one frame. -/
def sizeofExecutionEvent (w : Width) : Nat := framesOffset w + 8

/-- `CFIXKRP_MAX_STACKFRAMES`. -/
def cfixkrpMaxStackframes : Nat := 32

/-- `sizeof( CFIXKR_IOCTL_CALL_ROUTINE_RESPONSE )`. -/
def sizeofCallRoutineResponse : Nat := 24

end Cfix.Events
