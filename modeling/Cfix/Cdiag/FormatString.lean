import Cfix.Cdiag.Helper
import Cfix.Kernel.EventLayout
import Cfix.Lib.Buffer

/-!
# `Cdiag.FormatString` — expansion of templates (`cdiag/formatstr.c`)

A template contains variables, which are names behind a `%`. The scanner goes through it once and writes the text
of the variables and the other characters into a buffer. Reads behind the terminator of a string and writes outside
of the buffer are faults. The functions of the C library that depend on the locale or on formats are parameters.
-/

namespace Cfix.Cdiag

open Cfix.Events (Width)

/-! ## Data -/

inductive MemoryFault where
  | wildRead
  | wildWrite
  /-- More is written to a block of the heap than was allocated. -/
  | blockOverrun
  deriving DecidableEq, Repr

/-- How a function ends early. -/
inductive Exit where
  | returns (hr : HRESULT)
  | fault (f : MemoryFault)
  deriving DecidableEq, Repr

/-- The format `%s`. -/
def percentS : CString where
  chars   := [0x25#16, 0x73#16]
  nonzero := by simp

/-- `FORMAT_VARIABLE`. -/
structure FormatVariable where
  name   : CString
  format : CString
  deriving DecidableEq

/-- The C library; `β` are the values that are formatted. -/
structure CLibrary (β : Type) where
  towlower : WCHAR → WCHAR
  iswalnum : WCHAR → Bool
  /-- What `printf` makes of a format and a value, which it may read a string through. -/
  print    : CString → β → Except Exit (List WCHAR)

/-- The buffer, and the index that `BufferPtr` points to. -/
structure Output where
  buffer : List WCHAR
  ptr    : Nat
  deriving DecidableEq, Repr

/-- `InVariable`, and the index in the template that `VariableName` points to, if it is not `NULL`. -/
structure Scan where
  inVariable   : Bool
  variableName : Option Nat
  deriving DecidableEq, Repr

/-- An access that is a fault unless it succeeds. -/
def access {α : Type} (f : MemoryFault) : Option α → Except Exit α
  | some a => .ok a
  | none   => .error (.fault f)

/-- `*BufferPtr++ = Char`. -/
def Output.put (out : Output) (c : WCHAR) : Except Exit Output := do
  let buffer ← access .wildWrite (Buffer.store out.buffer out.ptr c)
  .ok { buffer := buffer, ptr := out.ptr + 1 }

/-- A difference of pointers as a `SIZE_T`. -/
def sizeT (w : Width) (hi lo : Nat) : Nat := (hi + 2 ^ w.bits - lo) % 2 ^ w.bits

variable {β : Type} (lib : CLibrary β) (w : Width)

/-! ## Variables -/

/-- The loop of `CdiagsCompareString`, from a place in the memory of `Dst` and an index of `Src` on. A count of 0
    wraps. -/
def compareLoop (src : CString) : List WCHAR → Nat → Nat → Except Exit Int
  | [],         _,     _      => .error (.fault .wildRead)
  | dst :: dsts, index, maxCch => do
    let srcChar ← access .wildRead (src.read index)
    let dstChar := lib.towlower dst
    let srcChar := lib.towlower srcChar
    let maxCch := sizeT w maxCch 1
    if 0 < maxCch ∧ dstChar ≠ 0#16 ∧ dstChar = srcChar then compareLoop src dsts (index + 1) maxCch
    else .ok (dstChar.toNat - srcChar.toNat)

/-- `CdiagsCompareString`, of a name with what is at an index of the template. -/
def compareString (dst src : CString) (index maxCch : Nat) : Except Exit Int :=
  compareLoop lib w src dst.memory index maxCch

/-- `CdiagsGetVariableBindingIndex`, from an index on: the first name that compares equal. -/
def getVariableBindingIndex (template : CString) (variableName variableNameCch : Nat) :
    List FormatVariable → Nat → Except Exit (Option Nat)
  | [],                    _     => .ok none
  | var :: vars, index => do
    let order ← compareString lib w var.name template variableName variableNameCch
    if order = 0 then .ok (some index)
    else getVariableBindingIndex template variableName variableNameCch vars (index + 1)

/-- `_snwprintf`: the number of characters, or a negative one if there is no room for them. The terminator is
    written if there is room for it. -/
def snwprintf (out : Output) (count : Nat) (text : List WCHAR) : Except Exit (Int × Output) :=
  if text.length ≤ count then do
    let terminator := if text.length < count then [0#16] else []
    let buffer ← access .wildWrite (Buffer.write out.buffer out.ptr (text ++ terminator))
    .ok (text.length, { out with buffer := buffer })
  else do
    let buffer ← access .wildWrite (Buffer.write out.buffer out.ptr (text.take count))
    .ok (-1, { out with buffer := buffer })

variable (vars : List FormatVariable) (bindings : List β) (template : CString)

/-- `CdiagsHandleVariable`, for the name from `VariableNameBegin` up to the index `VariableNameEndExcl`. -/
def handleVariable (variableNameBegin : Option Nat) (variableNameEndExcl : Nat) (out : Output) (bufferEnd : Nat) :
    Except Exit Output := do
  let begin_ ← access .wildRead variableNameBegin
  let index ← getVariableBindingIndex lib w template begin_ (sizeT w variableNameEndExcl begin_) vars 0
  match index with
  | none   => .ok out
  | some i => do
    let var ← access .wildRead vars[i]?
    let binding ← access .wildRead bindings[i]?
    let text ← lib.print var.format binding
    let (charsWritten, out) ← snwprintf out (sizeT w bufferEnd out.ptr) text
    if 0 ≤ charsWritten then .ok { out with ptr := out.ptr + charsWritten.toNat }
    else .error (.returns eBufferTooSmall)

/-! ## Templates -/

/-- The loop of `CdiagpFormatString` over the characters from `Cur` on, and what follows the loop. -/
def formatLoop (bufferEnd : Nat) : List WCHAR → Nat → Scan → Output → Except Exit (List WCHAR)
  | [], cur, s, out =>
    if out.ptr ≤ bufferEnd then do
      let out ←
        if s.inVariable then handleVariable lib w vars bindings template s.variableName cur out bufferEnd
        else .ok out
      let out ← out.put 0#16
      .ok out.buffer
    else .error (.returns eBufferTooSmall)
  | c :: cs, cur, s, out =>
    if bufferEnd ≤ out.ptr then .error (.returns eBufferTooSmall)
    else if c = 0x25#16 then
      if s.variableName = some cur then do
        -- that was a %%; `VariableName` still points to the second one
        let out ← out.put c
        formatLoop bufferEnd cs (cur + 1) { s with inVariable := false } out
      else do
        let out ←
          if s.variableName.isSome then
            handleVariable lib w vars bindings template s.variableName cur out bufferEnd
          else .ok out
        formatLoop bufferEnd cs (cur + 1) { inVariable := true, variableName := some (cur + 1) } out
    else if s.inVariable && !lib.iswalnum c then do
      let out ← handleVariable lib w vars bindings template s.variableName cur out bufferEnd
      let out ← out.put c
      formatLoop bufferEnd cs (cur + 1) { inVariable := false, variableName := none } out
    else if !s.inVariable then do
      let out ← out.put c
      formatLoop bufferEnd cs (cur + 1) s out
    else formatLoop bufferEnd cs (cur + 1) s out

/-- `MAXWORD`. -/
def maxword : Nat := 0xFFFF

/-- `CdiagpFormatString`: the buffer, if it returns `S_OK`. -/
def formatString (buffer : List WCHAR) : Except Exit (List WCHAR) :=
  if vars.isEmpty || !isStringValid template 1 maxword false || buffer.isEmpty then
    .error (.returns eInvalidarg)
  else
    formatLoop lib w vars bindings template (buffer.length - 1) template.chars 0
      { inVariable := false, variableName := none } { buffer := buffer, ptr := 0 }

end Cfix.Cdiag
