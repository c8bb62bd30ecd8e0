import Cfix.Base.Strsafe
import Mathlib.Data.List.TakeWhile

/-!
# `Cdiag.Helper` — result codes, zero-terminated strings and the checks of `cdiag/helper.c`

A string in memory is the characters before its terminating zero. `read` is an access through a pointer to it:
the terminator can be read, what is behind it cannot.
-/

namespace Cfix.Cdiag

abbrev DWORD := BitVec 32

def eSettingNotFound : HRESULT := 0x80048100#32
def eBufferTooSmall  : HRESULT := 0x80048101#32
def eSettingMismatch : HRESULT := 0x80048102#32

@[simp] theorem failed_eSettingNotFound : failed eSettingNotFound = true := rfl
@[simp] theorem failed_eBufferTooSmall : failed eBufferTooSmall = true := rfl
@[simp] theorem failed_eSettingMismatch : failed eSettingMismatch = true := rfl

/-- The last types, severities and processor modes of events. -/
def cdiagMaxEvent    : Nat := 5
def cdiagMaxSeverity : Nat := 5
def cdiagMaxMode     : Nat := 1

abbrev WCHAR := BitVec 16

/-- A zero-terminated string. -/
structure CString where
  chars   : List WCHAR
  nonzero : ∀ c ∈ chars, c ≠ 0#16
  deriving DecidableEq

namespace CString

variable (s : CString)

def length : Nat := s.chars.length

/-- The characters with the terminator. -/
def memory : List WCHAR := s.chars ++ [0#16]

/-- `String[ Index ]`. -/
def read (index : Nat) : Option WCHAR := s.memory[index]?

@[simp] theorem length_memory : s.memory.length = s.length + 1 := by simp [memory, length]

theorem read_of_lt {index : Nat} (h : index < s.length) : s.read index = s.chars[index]? := by
  rw [read, memory, List.getElem?_append_left h]

@[simp] theorem read_length : s.read s.length = some 0#16 := by simp [read, memory, length]

end CString

/-- A string literal. -/
def wide (s : String) : CString where
  chars   := (s.toList.map fun c => BitVec.ofNat 16 c.toNat).takeWhile (· ≠ 0#16)
  nonzero := fun _ hc => by simpa using List.mem_takeWhile_imp hc

/-- `StringCchLength`: the length, if the terminator is among the first `max` characters. -/
def stringCchLength (s : CString) (max : Nat) : Option Nat := if s.length < max then some s.length else none

/-- `CdiagpIsWhitespaceOnly`. -/
def isWhitespaceOnly (s : CString) : Bool :=
  s.chars.all fun ch => ch == 0x20#16 || ch == 0x09#16 || ch == 0x0A#16 || ch == 0x0D#16

/-- `CdiagpIsStringValid`. -/
def isStringValid (s : CString) (minLengthInclusive maxLengthInclusive : Nat) (allowWhitespaceOnly : Bool) : Bool :=
  (allowWhitespaceOnly || !isWhitespaceOnly s) &&
    match stringCchLength s (maxLengthInclusive + 1) with
    | some size => minLengthInclusive ≤ size
    | none      => false

end Cfix.Cdiag
