import Cfix.Base.Hresult

/-!
# `Base.Strsafe` — error codes of the system and strings in buffers

`HRESULT_FROM_WIN32` and the two functions of `strsafe.h` that the modelled code uses. A buffer is the text
that it holds, and its size counts characters with the terminating zero.
-/

namespace Cfix

def strsafeEInsufficientBuffer : HRESULT := 0x8007007A#32

/-- `HRESULT_FROM_WIN32`. -/
def hresultFromWin32 (x : BitVec 32) : HRESULT :=
  if x.toInt ≤ 0 then x else (x &&& 0x0000FFFF#32) ||| 0x80070000#32

/-- Every error is converted to a failure. -/
theorem failed_hresultFromWin32 (x : BitVec 32) : failed (hresultFromWin32 x) = (x != 0#32) := by
  unfold hresultFromWin32 failed
  split
  · rename_i hle
    rw [BitVec.msb_eq_toInt]
    by_cases hx : x = 0#32
    · simp [hx]
    · have hne : x.toInt ≠ 0 := fun h => hx (BitVec.eq_of_toInt_eq h)
      have hlt : x.toInt < 0 := by omega
      simp [hlt, hx]
  · rename_i hgt
    have hx : (x != 0#32) = true := by
      rw [bne_iff_ne]
      rintro rfl
      exact hgt (by decide)
    rw [BitVec.msb_or, hx, show (0x80070000#32 : BitVec 32).msb = true by decide, Bool.or_true]

/-- `StringCchCopy`, and `StringCchPrintf` once the text is formatted: what does not fit is cut off. -/
def stringCchCopy (bufferSize : Nat) (text : String) : HRESULT × String :=
  if text.length < bufferSize then (sOk, text)
  else (strsafeEInsufficientBuffer, String.ofList (text.toList.take (bufferSize - 1)))

/-- `StringCchCat`. -/
def stringCchCat (bufferSize : Nat) (buffer text : String) : HRESULT × String :=
  stringCchCopy bufferSize (buffer ++ text)

end Cfix
