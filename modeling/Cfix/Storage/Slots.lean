import Cfix.Base.Hresult

/-!
# `Storage.Slots` — the value slots of a filament (`cfix/tls.c`)

A filament has two slots, which a routine reads and writes by tag. The behaviour of a routine on the slots is
a `Prog`: what it does next may depend on what it has read.
-/

namespace Cfix

/-! ## Slots -/

/-- A `PVOID`; 0 is `NULL`. -/
abbrev Pvoid := Nat

def cfixTagReservedForCc : BitVec 32 := 0xFFFFFFFF#32

/-- `CFIXP_FILAMENT_STORAGE`; also the two TLS slots that keep the values between filaments. -/
structure Storage where
  defaultSlot : Pvoid
  ccSlot      : Pvoid
  deriving DecidableEq, Repr

def Storage.zero : Storage := ⟨0, 0⟩

/-- `CfixPeSetValue`; another tag is ignored. -/
def Storage.setValue (s : Storage) (tag : BitVec 32) (value : Pvoid) : Storage :=
  if tag == cfixTagReservedForCc then { s with ccSlot := value }
  else if tag == 0#32 then { s with defaultSlot := value }
  else s

/-- `CfixPeGetValue`. -/
def Storage.getValue (s : Storage) (tag : BitVec 32) : Pvoid :=
  if tag == cfixTagReservedForCc then s.ccSlot
  else if tag == 0#32 then s.defaultSlot
  else 0

/-! ## Routines -/

/-- How a routine ends: it returns, or an exception is caught, with the disposition to abort or not. -/
inductive Completion where
  | returned
  | raised (abortRun : Bool)
  deriving DecidableEq, Repr

/-- What a routine does on the slots. -/
inductive Prog where
  | finish (completion : Completion)
  | setValue (tag : BitVec 32) (value : Pvoid) (next : Prog)
  | getValue (tag : BitVec 32) (next : Pvoid → Prog)

/-- A value that was read. -/
structure SlotRead where
  tag   : BitVec 32
  value : Pvoid
  deriving DecidableEq, Repr

/-- The end of a routine, with the slots as it leaves them and the values that it has read. -/
structure ProgResult (σ : Type) where
  completion : Completion
  storage    : σ
  reads      : List SlotRead

/-- Runs the routine on a storage that is accessed by `get` and `set`. -/
def Prog.exec {σ : Type} (get : σ → BitVec 32 → Pvoid) (set : σ → BitVec 32 → Pvoid → σ) :
    Prog → σ → ProgResult σ
  | .finish completion, s       => ⟨completion, s, []⟩
  | .setValue tag value next, s => next.exec get set (set s tag value)
  | .getValue tag next, s       =>
    let value := get s tag
    let r := (next value).exec get set s
    { r with reads := ⟨tag, value⟩ :: r.reads }

/-- The routine in a user-mode filament. -/
def Prog.run (p : Prog) (s : Storage) : ProgResult Storage := p.exec Storage.getValue Storage.setValue s

end Cfix
