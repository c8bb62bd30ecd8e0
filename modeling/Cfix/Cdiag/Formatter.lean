import Cfix.Cdiag.FormatString
import Cfix.Lib.Memory

/-!
# `Cdiag.Formatter` — formatting of event packets (`cdiag/formatter.c`, `cdiag.h`)

A packet is a header, and data behind it that the header refers to by offsets. The formatter follows the offsets,
as a table of bindings says, to get the values of the variables, and expands its template with them. Every access to
the packet is checked here against its total size; the source checks the header only.
-/

namespace Cfix.Cdiag

open Cfix.Events (Width)
open Memory

/-! ## Event packets -/

/-- The fields of `CDIAG_EVENT_PACKET` that are read. -/
inductive PacketField where
  | size
  | totalSize
  | type
  | flags
  | severity
  | processorMode
  | machineOffset
  | processId
  | threadId
  | timestamp
  | code
  | messageOffset
  | debugInfoOffset
  | insertionCount
  | insertionOffset
  deriving DecidableEq, Repr

/-- `FIELD_OFFSET( CDIAG_EVENT_PACKET, … )`. -/
def PacketField.offset : PacketField → Nat
  | .size            => 0
  | .totalSize       => 2
  | .type            => 4
  | .flags           => 12
  | .severity        => 14
  | .processorMode   => 15
  | .machineOffset   => 16
  | .processId       => 20
  | .threadId        => 24
  | .timestamp       => 28
  | .code            => 36
  | .messageOffset   => 40
  | .debugInfoOffset => 44
  | .insertionCount  => 56
  | .insertionOffset => 60

/-- `sizeof( CDIAG_EVENT_PACKET )`, with one insertion string. -/
def sizeofEventPacket : Nat := 64

/-- `CDIAG_EVENT_PACKET_MAX_INSERTION_STRINGS`. -/
def maxInsertionStrings : Nat := 16

/-- The fields of `CDIAG_DEBUG_INFO` that are read. -/
inductive DebugField where
  | moduleOffset
  | functionNameOffset
  | sourceFileOffset
  | sourceLine
  deriving DecidableEq, Repr

/-- `FIELD_OFFSET( CDIAG_DEBUG_INFO, … )`. -/
def DebugField.offset : DebugField → Nat
  | .moduleOffset       => 4
  | .functionNameOffset => 8
  | .sourceFileOffset   => 12
  | .sourceLine         => 16

/-- An event packet in memory, which ends before the address space does. -/
structure RawEventPacket (w : Width) where
  mem     : Mem
  address : Nat
  nonnull : 0 < address
  inSpace : address + load 2 mem (address + PacketField.totalSize.offset) ≤ 2 ^ w.bits

/-- `CdiagsGetFieldViaOffset`. -/
def fieldViaOffset (w : Width) (struct offset : Nat) : Nat := (struct + offset) % 2 ^ w.bits

namespace RawEventPacket

variable {w : Width} (pkt : RawEventPacket w)

def totalSize : Nat := load 2 pkt.mem (pkt.address + PacketField.totalSize.offset)

/-- `CdiagsIsValidEventPacket`. -/
def isValid : Bool :=
  load 2 pkt.mem (pkt.address + PacketField.size.offset) == sizeofEventPacket && sizeofEventPacket ≤ pkt.totalSize

/-- The bytes belong to the packet. -/
def Inside (p n : Nat) : Prop := pkt.address ≤ p ∧ p + n ≤ pkt.address + pkt.totalSize

instance (p n : Nat) : Decidable (pkt.Inside p n) := inferInstanceAs (Decidable (_ ∧ _))

/-- A number that is read from memory. -/
def read (n p : Nat) : Except Exit Nat :=
  if pkt.Inside p n then .ok (load n pkt.mem p) else .error (.fault .wildRead)

/-- A field of the header. -/
def field (n : Nat) (f : PacketField) : Except Exit Nat := pkt.read n (fieldViaOffset w pkt.address f.offset)

/-- A string that is read up to its terminator. -/
def readString (p : Nat) : Except Exit (List WCHAR) :=
  if _h : pkt.Inside p 2 then
    if load 2 pkt.mem p = 0 then .ok []
    else do
      let chars ← readString (p + 2)
      .ok (BitVec.ofNat 16 (load 2 pkt.mem p) :: chars)
  else .error (.fault .wildRead)
  termination_by pkt.address + pkt.totalSize - p
  decreasing_by
    have hend := _h.2
    omega

/-- Entries of an array of strings that are read one after the other. The array may be `NULL`, and entries that were
    not set are whatever was on the stack. -/
def readInserted (insertionStrings : Option (List (Option Nat))) : List Nat → Except Exit Unit
  | []      => .ok ()
  | i :: is => do
    let strings ← access .wildRead insertionStrings
    let entry ← access .wildRead strings[i]?
    let p ← access .wildRead entry
    let _ ← pkt.readString p
    readInserted insertionStrings is

end RawEventPacket

/-! ## Bindings -/

/-- A value for a variable: a `DWORD_PTR`, or a pointer to a string outside of the packet. -/
inductive Binding where
  | value (v : Nat)
  | text (s : CString)
  deriving DecidableEq

/-- `TRANSLATE_ROUTINE`. -/
inductive TranslateRoutine where
  | eventType
  | severity
  | processorMode
  | timestamp
  deriving DecidableEq, Repr

/-- `BINDING_FIELD_TYPE`; special fields have a translation routine. -/
inductive BindingFieldType where
  | pwstr
  | word
  | dword
  | special (routine : TranslateRoutine)
  deriving DecidableEq, Repr

/-- `BINDING_DEFINITION`. -/
structure BindingDefinition where
  structOffset               : Nat
  type                       : BindingFieldType
  isOffset                   : Bool
  offsetWithinStruct         : Nat
  offsetWithinStructIsOffset : Bool
  deriving DecidableEq, Repr

/-- `SYSTEMTIME`. -/
abbrev SystemTime := BitVec 128

/-- The C library and the system: characters, numbers that are printed, times, and the captions that were loaded
    from the resources. -/
structure Environment where
  towlower                : WCHAR → WCHAR
  iswalnum                : WCHAR → Bool
  printNumber             : CString → Nat → List WCHAR
  eventTypeCaptions       : Nat → CString
  severityCaptions        : Nat → CString
  procModeCaptions        : Nat → CString
  fileTimeToLocalFileTime : Nat → Option Nat
  fileTimeToSystemTime    : Nat → Option SystemTime
  /-- What is on the stack in place of `LocalTime` and `LocalSystemTime`. -/
  staleLocalTime          : Nat
  staleLocalSystemTime    : SystemTime
  /-- `CdiagpMalloc` has memory for the text of a time. -/
  malloc                  : Bool
  /-- `GetTimeFormat`, given room for the text. -/
  getTimeFormat           : SystemTime → Option CString

section Bindings

variable {w : Width} (env : Environment) (pkt : RawEventPacket w)

/-- The caption of a value, if it is not too large. -/
def caption (captions : Nat → CString) (max v : Nat) : Binding := if v ≤ max then .text (captions v) else .value 0

/-- What `GetTimeFormat` writes for `CdiagsTranslateTimestamp`. The branches for errors do not return: a time that
    could not be converted is what was on the stack, and without memory the text is to go to `NULL`, which
    `GetTimeFormat` rejects. It is told that there is room for 100 characters. -/
def Environment.timeText (utcTime : Nat) : Option CString :=
  let localTime := (env.fileTimeToLocalFileTime utcTime).getD env.staleLocalTime
  let localSystemTime := (env.fileTimeToSystemTime localTime).getD env.staleLocalSystemTime
  if env.malloc then (env.getTimeFormat localSystemTime).filter fun text => text.length < 100 else none

/-- `CdiagsTranslateTimestamp`. The block has 100 bytes. -/
def translateTimestamp (utcTime : Nat) : Except Exit Binding :=
  match env.timeText utcTime with
  | none      => .ok (.value 0)
  | some text => if 2 * (text.length + 1) ≤ 100 then .ok (.text text) else .error (.fault .blockOverrun)

/-- `CdiagsTranslateEventType`, `CdiagsTranslateSeverity`, `CdiagsTranslateProcessorMode` and
    `CdiagsTranslateTimestamp`. -/
def translate (p : Nat) : TranslateRoutine → Except Exit Binding
  | .eventType     => do
    let type ← pkt.read 4 p
    .ok (caption env.eventTypeCaptions cdiagMaxEvent type)
  | .severity      => do
    let sev ← pkt.read 1 p
    .ok (caption env.severityCaptions cdiagMaxSeverity sev)
  | .processorMode => do
    let mode ← pkt.read 1 p
    .ok (caption env.procModeCaptions cdiagMaxMode mode)
  | .timestamp     => do
    let utcTime ← pkt.read 8 p
    translateTimestamp env utcTime

/-- `FieldPtr`, after the offsets were followed. -/
def fieldPtr (d : BindingDefinition) : Except Exit Nat := do
  let fieldPtr := fieldViaOffset w pkt.address d.structOffset
  if d.isOffset then do
    let offset ← pkt.read 4 fieldPtr
    if offset ≠ 0 then
      let structPtr := fieldViaOffset w pkt.address offset
      if d.offsetWithinStruct ≠ 0 then
        if structPtr ≠ 0 then
          let fieldPtr := fieldViaOffset w structPtr d.offsetWithinStruct
          if d.offsetWithinStructIsOffset then do
            let offset ← pkt.read 4 fieldPtr
            if offset ≠ 0 then .ok (fieldViaOffset w structPtr offset) else .ok 0
          else .ok fieldPtr
        else .ok 0
      else .ok structPtr
    else .ok 0
  else .ok fieldPtr

/-- The binding for a definition. -/
def binding (d : BindingDefinition) : Except Exit Binding := do
  let p ← fieldPtr pkt d
  match d.type with
  | .special routine => translate env pkt p routine
  | .dword => if p = 0 then .ok (.value 0) else do let v ← pkt.read 4 p; .ok (.value v)
  | .word  => if p = 0 then .ok (.value 0) else do let v ← pkt.read 2 p; .ok (.value v)
  | .pwstr => .ok (.value p)

/-- The loop that prepares the bindings. -/
def prepareBindings : List BindingDefinition → Except Exit (List Binding)
  | []      => .ok []
  | d :: ds => do
    let b ← binding env pkt d
    let bs ← prepareBindings ds
    .ok (b :: bs)

/-- What `printf` makes of a binding; `%s` prints no null pointers. -/
def printBinding (format : CString) : Binding → Except Exit (List WCHAR)
  | .text s  => .ok s.chars
  | .value v =>
    if format = percentS then
      if v = 0 then .ok (wide "(null)").chars else pkt.readString v
    else .ok (env.printNumber format v)

/-- The C library, for values that may be pointers into the packet. -/
def Environment.library : CLibrary Binding where
  towlower := env.towlower
  iswalnum := env.iswalnum
  print    := printBinding env pkt

end Bindings

/-- `CdiagsEventPacketVariables`. -/
def eventPacketVariables : List FormatVariable :=
  [⟨wide "Message",       percentS⟩,
   ⟨wide "Type",          percentS⟩,
   ⟨wide "Flags",         wide "0x%04X"⟩,
   ⟨wide "Severity",      percentS⟩,
   ⟨wide "ProcessorMode", percentS⟩,
   ⟨wide "Machine",       percentS⟩,
   ⟨wide "ProcessId",     wide "%u"⟩,
   ⟨wide "ThreadId",      wide "%u"⟩,
   ⟨wide "Timestamp",     percentS⟩,
   ⟨wide "Code",          wide "0x%08X"⟩,
   ⟨wide "Module",        percentS⟩,
   ⟨wide "Function",      percentS⟩,
   ⟨wide "File",          percentS⟩,
   ⟨wide "Line",          wide "%u"⟩]

/-- A field that is the value. -/
def direct (f : PacketField) (type : BindingFieldType) : BindingDefinition := ⟨f.offset, type, false, 0, false⟩

/-- A field that is the offset of a string. -/
def viaOffset (f : PacketField) : BindingDefinition := ⟨f.offset, .pwstr, true, 0, false⟩

/-- A field of the debugging information. -/
def viaDebugInfo (f : DebugField) (type : BindingFieldType) (isOffset : Bool) : BindingDefinition :=
  ⟨PacketField.debugInfoOffset.offset, type, true, f.offset, isOffset⟩

/-- `CdiagsEventPacketBindings`. -/
def eventPacketBindings : List BindingDefinition :=
  [viaOffset .messageOffset,
   direct .type          (.special .eventType),
   direct .flags         .word,
   direct .severity      (.special .severity),
   direct .processorMode (.special .processorMode),
   viaOffset .machineOffset,
   direct .processId     .dword,
   direct .threadId      .dword,
   direct .timestamp     (.special .timestamp),
   direct .code          .dword,
   viaDebugInfo .moduleOffset       .pwstr true,
   viaDebugInfo .functionNameOffset .pwstr true,
   viaDebugInfo .sourceFileOffset   .pwstr true,
   viaDebugInfo .sourceLine         .dword false]

/-! ## The formatter -/

/-- A message resolver. It is called with a message and the array of insertion strings, but not with their number: it
    reads the entries that the message names. -/
structure Resolver where
  /-- `ResolveMessage`: the entries that are read as strings, and the message if there is one. -/
  resolveMessage : (messageId flags : Nat) → (insertionStrings : Option (List (Option Nat))) → List Nat × Option CString

/-- `CDIAGP_FORMATTER`. -/
structure Formatter where
  size           : Nat
  formatTemplate : CString
  resolver       : Option Resolver
  resolvingFlags : Nat

/-- `sizeof( CDIAGP_FORMATTER )`. -/
def sizeofFormatter (w : Width) : Nat := 8 * w.bytes

section Format

variable {w : Width} (env : Environment) (pkt : RawEventPacket w)

/-- The loop that fills `InsertionStrings`, from an index on for a number of strings. -/
def fillInsertionStrings : Nat → Nat → List (Option Nat) → Except Exit (List (Option Nat))
  | 0,     _,     strings => .ok strings
  | n + 1, index, strings => do
    let offset ← pkt.read 4 (fieldViaOffset w pkt.address (PacketField.insertionOffset.offset + 4 * index))
    let strings ← access .wildWrite (Buffer.store strings index (some (fieldViaOffset w pkt.address offset)))
    fillInsertionStrings n (index + 1) strings

/-- The message is resolved if there is none, and takes the first binding. -/
def resolve (resolver : Option Resolver) (resolvingFlags : Nat) (bindings : List Binding) :
    Except Exit (List Binding) := do
  let messageOffset ← pkt.field 4 .messageOffset
  match resolver with
  | none   => .ok bindings
  | some r =>
    if messageOffset = 0 then do
      let count ← pkt.field 4 .insertionCount
      let strings ← fillInsertionStrings pkt count 0 (List.replicate maxInsertionStrings none)
      let code ← pkt.field 4 .code
      let insertionStrings := if 0 < count then some strings else none
      let resolved := r.resolveMessage code resolvingFlags insertionStrings
      pkt.readInserted insertionStrings resolved.1
      .ok (resolved.2.elim bindings fun message => bindings.set 0 (.text message))
    else .ok bindings

/-- `CdiagsFormat`. -/
def format (formatter : Formatter) (buffer : List WCHAR) : Except Exit (List WCHAR) :=
  if formatter.size ≠ sizeofFormatter w ∨ pkt.isValid = false ∨ buffer = [] then .error (.returns eInvalidarg)
  else do
    let bindings ← prepareBindings env pkt eventPacketBindings
    let bindings ← resolve pkt formatter.resolver formatter.resolvingFlags bindings
    formatString (env.library pkt) w eventPacketVariables bindings formatter.formatTemplate buffer

end Format

end Cfix.Cdiag
