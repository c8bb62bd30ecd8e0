import Cfix.Cdiag.FormatterReads
import Cfix.Lib.Critical

/-!
# `Cdiag.TextFile` — the log of a text file handler (`cdiag/textfilehandler.c`)

Threads have packets handled by one handler. Each formats its packet into a buffer of its own, and appends the text
to the file while it holds the lock. `WriteFile` is taken apart into its bytes here: the lock is what keeps the
records of two threads from being mixed.
-/

namespace Cfix.Cdiag

open Cfix.Events (Width)
open Critical Memory

/-! ## Encodings -/

abbrev Byte := BitVec 8

/-- `CDIAG_TEXTFILE_ENCODING`. -/
inductive TextFileEncoding where
  | utf16
  | utf8
  deriving DecidableEq, Repr

/-- The bytes of characters in memory. -/
def utf16Bytes (text : List WCHAR) : List Byte := text.flatMap fun (c : WCHAR) => [c.setWidth 8, (c >>> 8).setWidth 8]

def isHighSurrogate (c : WCHAR) : Bool := 0xD800 ≤ c.toNat && c.toNat < 0xDC00
def isLowSurrogate (c : WCHAR) : Bool := 0xDC00 ≤ c.toNat && c.toNat < 0xE000

/-- A character that is not half of a pair; surrogates are replaced. -/
def codePoint (c : WCHAR) : Nat := if isHighSurrogate c || isLowSurrogate c then 0xFFFD else c.toNat

/-- The code points of a text. -/
def codePoints : List WCHAR → List Nat
  | []           => []
  | [c]          => [codePoint c]
  | c :: d :: cs =>
    if isHighSurrogate c && isLowSurrogate d then
      (0x10000 + (c.toNat - 0xD800) * 0x400 + (d.toNat - 0xDC00)) :: codePoints cs
    else codePoint c :: codePoints (d :: cs)

/-- The bytes of a code point in UTF-8, as numbers. -/
def utf8Units (c : Nat) : List Nat :=
  if c < 0x80 then [c]
  else if c < 0x800 then [0xC0 + c / 0x40, 0x80 + c % 0x40]
  else if c < 0x10000 then [0xE0 + c / 0x1000, 0x80 + c / 0x40 % 0x40, 0x80 + c % 0x40]
  else [0xF0 + c / 0x40000, 0x80 + c / 0x1000 % 0x40, 0x80 + c / 0x40 % 0x40, 0x80 + c % 0x40]

def utf8Bytes (text : List WCHAR) : List Byte := ((codePoints text).flatMap utf8Units).map (BitVec.ofNat 8)

/-- A text as it should be in the file. -/
def TextFileEncoding.encode : TextFileEncoding → List WCHAR → List Byte
  | .utf16 => utf16Bytes
  | .utf8  => utf8Bytes

theorem codePoint_ne_zero {c : WCHAR} (h : c ≠ 0#16) : codePoint c ≠ 0 := by
  unfold codePoint
  split
  · decide
  · exact fun hzero => h (BitVec.eq_of_toNat_eq hzero)

theorem codePoints_ne_zero {text : List WCHAR} (h : ∀ c ∈ text, c ≠ 0#16) :
    ∀ p ∈ codePoints text, p ≠ 0 ∧ p < 0x110000 := by
  have hsingle : ∀ c : WCHAR, c ≠ 0#16 → codePoint c ≠ 0 ∧ codePoint c < 0x110000 := by
    intro c hc
    refine ⟨codePoint_ne_zero hc, ?_⟩
    have hlt := c.isLt
    unfold codePoint
    split <;> omega
  fun_induction codePoints text with
  | case1 => nofun
  | case2 c => simpa using hsingle c (h c List.mem_cons_self)
  | case3 c d cs hpair ih =>
      refine List.forall_mem_cons.mpr ⟨?_, ih fun c hc => h c (List.mem_cons_of_mem _ (List.mem_cons_of_mem _ hc))⟩
      simp only [isHighSurrogate, isLowSurrogate, Bool.and_eq_true, decide_eq_true_eq] at hpair
      omega
  | case4 c d cs hpair ih =>
      exact List.forall_mem_cons.mpr
        ⟨hsingle c (h c List.mem_cons_self), ih fun c hc => h c (List.mem_cons_of_mem _ hc)⟩

/-- **A text without zeros has none in UTF-8**, so that `strlen` finds its end. -/
theorem utf8Bytes_ne_zero {text : List WCHAR} (h : ∀ c ∈ text, c ≠ 0#16) : ∀ b ∈ utf8Bytes text, b ≠ 0#8 := by
  intro b hb
  obtain ⟨n, hn, rfl⟩ := List.mem_map.mp hb
  obtain ⟨p, hp, hn⟩ := List.mem_flatMap.mp hn
  obtain ⟨hne, hlt⟩ := codePoints_ne_zero h p hp
  have hunit : n ≠ 0 ∧ n < 0x100 := by
    unfold utf8Units at hn
    split at hn
    · obtain rfl := List.mem_singleton.mp hn
      omega
    · split at hn
      · simp only [List.mem_cons, List.not_mem_nil, or_false] at hn
        omega
      · split at hn
        · simp only [List.mem_cons, List.not_mem_nil, or_false] at hn
          omega
        · simp only [List.mem_cons, List.not_mem_nil, or_false] at hn
          omega
  intro hzero
  have hmod : n % 2 ^ 8 = 0 := by simpa using congrArg BitVec.toNat hzero
  omega

/-! ## Writing -/

/-- How `WriteFile` ends: with all bytes, or with an error after some of them. -/
inductive WriteOutcome where
  | written
  | failed (error : DWORD) (count : Nat) (nonzero : error ≠ 0#32)
  deriving DecidableEq, Repr

def errorInsufficientBuffer : DWORD := 122#32

/-- `CdiagsAppendToFile`: the bytes that get into the file. -/
def appendToFile (write : WriteOutcome) (bytes : List Byte) : List Byte × HRESULT :=
  match write with
  | .written              => (bytes, sOk)
  | .failed error count _ => (bytes.take count, hresultFromWin32 error)

/-- `WideCharToMultiByte` with `CP_UTF8`, for a text with its terminator. -/
def wideCharToMultiByte (text : List WCHAR) (size : Nat) : Option (List Byte) :=
  let bytes := utf8Bytes text ++ [0#8]
  if bytes.length ≤ size then some bytes else none

/-- `CdiagsConvertToUtf8AndAppendToFile`. -/
def convertToUtf8AndAppendToFile (write : WriteOutcome) (text : List WCHAR) : List Byte × HRESULT :=
  match wideCharToMultiByte text 2048 with
  | none            => ([], hresultFromWin32 errorInsufficientBuffer)
  | some utf8Buffer => appendToFile write (utf8Buffer.takeWhile (· ≠ 0#8))

/-- `AppendRoutine`. -/
def TextFileEncoding.append : TextFileEncoding → WriteOutcome → List WCHAR → List Byte × HRESULT
  | .utf16, write, text => appendToFile write (utf16Bytes text)
  | .utf8,  write, text => convertToUtf8AndAppendToFile write text

/-- A routine that succeeds appends the text, and one that fails appends less than all or nothing of it. -/
theorem append_spec (encoding : TextFileEncoding) (write : WriteOutcome) {text : List WCHAR}
    (h : ∀ c ∈ text, c ≠ 0#16) :
    (encoding.append write text).1 <+: encoding.encode text ∧
      ((encoding.append write text).2 = sOk → (encoding.append write text).1 = encoding.encode text) := by
  have hwrite : ∀ bytes, (appendToFile write bytes).1 <+: bytes ∧
      ((appendToFile write bytes).2 = sOk → (appendToFile write bytes).1 = bytes) := by
    intro bytes
    cases write with
    | written => exact ⟨List.prefix_rfl, fun _ => rfl⟩
    | failed error count hne =>
        refine ⟨List.take_prefix .., ?_⟩
        intro hok
        have hfailed := failed_hresultFromWin32 error
        rw [show hresultFromWin32 error = sOk from hok, bne_iff_ne.mpr hne] at hfailed
        cases hfailed
  cases encoding with
  | utf16 => exact hwrite _
  | utf8  =>
      have hstrlen : (utf8Bytes text ++ [0#8]).takeWhile (· ≠ 0#8) = utf8Bytes text := by
        rw [List.takeWhile_append_of_pos]
        · simp
        · simpa using utf8Bytes_ne_zero h
      simp only [TextFileEncoding.append, TextFileEncoding.encode, convertToUtf8AndAppendToFile, wideCharToMultiByte]
      split
      · exact ⟨List.nil_prefix, fun hok => (by cases hok)⟩
      · rename_i bytes hbytes
        obtain ⟨-, rfl⟩ := Option.ite_none_right_eq_some.mp hbytes |>.imp_right Option.some.inj
        rw [hstrlen]
        exact hwrite _

/-! ## The handler -/

/-- `CDIAGP_TEXTFILE_HANDLER`; the file and its lock are in the state that is shared. -/
structure TextFileHandler where
  size          : Nat
  formatter     : Formatter
  appendRoutine : TextFileEncoding

/-- `sizeof( CDIAG_HANDLER )`. -/
def sizeofHandler (w : Width) : Nat := 6 * w.bytes

/-- `CdiagCreateTextFileHandler`: the handler, and what is in the file before the end. `filePath` says that the path
    and `Handler` are given; the encoding may be none of the two. -/
def createTextFileHandler (w : Width) (session : Option (Except HRESULT Formatter)) (filePath : Bool)
    (encoding : Option TextFileEncoding) (createFile : Except DWORD (List Byte)) (setFilePointer : Except DWORD Unit)
    (memory : Bool) : Except HRESULT (TextFileHandler × List Byte) :=
  match session, encoding with
  | some formatter, some encoding =>
    if !filePath then .error eInvalidarg
    else do
      let file ← createFile.mapError hresultFromWin32
      let _ ← setFilePointer.mapError hresultFromWin32
      if !memory then .error eOutofmemory
      else do
        let formatter ← formatter
        .ok ({ size := sizeofHandler w, formatter := formatter, appendRoutine := encoding }, file)
  | _, _ => .error eInvalidarg

/-- A packet that is to be handled, with the buffer on the stack of its thread. -/
structure HandleCall (w : Width) where
  packet : RawEventPacket w
  buffer : List WCHAR
  length : buffer.length = 2048
  write  : WriteOutcome

variable {w : Width}

/-- `wcslen`. -/
def wcslen (buffer : List WCHAR) : Except Exit Nat := access .wildRead (buffer.findIdx? (· == 0#16))

variable (env : Environment) (h : TextFileHandler)

/-- `CdiagsTextFileHandle` up to the lock: the text. -/
def formatText (c : HandleCall w) : Except Exit (List WCHAR) :=
  if h.size ≠ sizeofHandler w then .error (.returns eInvalidarg)
  else do
    -- the format is not to use the last two characters of the buffer
    let buffer ← format env c.packet h.formatter (c.buffer.take (2048 - 2))
    let buffer := buffer ++ c.buffer.drop (2048 - 2)
    let bufferCch ← wcslen buffer
    .ok (buffer.take bufferCch)

/-- Where a thread stands in the append routine, while it holds the lock. -/
inductive AppendPc where
  | routine (text : List WCHAR) (write : WriteOutcome)
  | writing (rest : List Byte) (hr : HRESULT)
  deriving DecidableEq, Repr

/-- **`CdiagsTextFileHandle`** on the file. The result is a fault if the thread makes one. -/
def textFile (τ : Type) (w : Width) :
    Guarded τ (HandleCall w) Unit (List Byte) AppendPc (Except MemoryFault HRESULT) where
  enter _ c _ :=
    match formatText env h c with
    | .error (.returns hr) => (.inl (.ok hr), ())
    | .error (.fault f)    => (.inl (.error f), ())
    | .ok text             => (.inr (.routine text c.write), ())
  move
    | .routine text write,      file =>
      let (bytes, hr) := h.appendRoutine.append write text
      some (.writing bytes hr, file)
    | .writing (b :: rest) hr, file => some (.writing rest hr, file ++ [b])
    | .writing [] _,           _    => none
  leave
    | .routine _ _, _ => (.ok sOk, ())
    | .writing _ hr, _ => (.ok hr, ())

/-- What a call returns, and what it appends. -/
def handleResult (c : HandleCall w) : Except MemoryFault HRESULT :=
  match formatText env h c with
  | .error (.returns hr) => .ok hr
  | .error (.fault f)    => .error f
  | .ok text             => .ok (h.appendRoutine.append c.write text).2

def appended (c : HandleCall w) : List Byte :=
  match formatText env h c with
  | .error _ => []
  | .ok text => (h.appendRoutine.append c.write text).1

/-! ## A call -/

section Call

variable {env h}

/-- The length of a text that is terminated. -/
theorem wcslen_terminated {text : List WCHAR} (h : ∀ c ∈ text, c ≠ 0#16) (rest : List WCHAR) :
    wcslen (text ++ 0#16 :: rest) = .ok text.length := by
  have hnone : text.findIdx? (· == 0#16) = none := by
    rw [List.findIdx?_eq_none_iff]
    exact fun c hc => beq_eq_false_iff_ne.mpr (h c hc)
  simp [wcslen, List.findIdx?_append, hnone, List.findIdx?_cons]

/-- The text that was formatted ends with the first zero of the buffer. -/
theorem formatText_ok {c : HandleCall w} {text : List WCHAR} (htext : formatText env h c = .ok text) :
    (∀ x ∈ text, x ≠ 0#16) ∧ ∃ out, format env c.packet h.formatter (c.buffer.take (2048 - 2)) = .ok out ∧
      text = (out ++ c.buffer.drop (2048 - 2)).takeWhile (· ≠ 0#16) := by
  unfold formatText at htext
  split at htext
  · cases htext
  · obtain ⟨out, hout, htext⟩ := ok_of_bind htext
    obtain ⟨n, hn, htext⟩ := ok_of_bind htext
    cases htext
    have hfind : (out ++ c.buffer.drop (2048 - 2)).findIdx? (· == 0#16) = some n := by
      unfold wcslen at hn
      cases hfind : (out ++ c.buffer.drop (2048 - 2)).findIdx? (· == 0#16) with
      | none   => rw [hfind] at hn; cases hn
      | some m => rw [hfind] at hn; cases hn; rfl
    have htake : (out ++ c.buffer.drop (2048 - 2)).take n = (out ++ c.buffer.drop (2048 - 2)).takeWhile (· ≠ 0#16) := by
      rw [List.takeWhile_eq_take_findIdx_not]
      simp only [decide_not, Bool.not_not]
      exact congrArg (fun m => List.take m _) (List.findIdx?_eq_some_iff_findIdx_eq.mp hfind).2.symm
    refine ⟨?_, out, hout, htake⟩
    intro x hx
    rw [htake] at hx
    simpa using List.mem_takeWhile_imp hx

/-- **The formatter neither reads nor writes outside**, for a self-contained packet whose time fits its block; what it
    writes is terminated. -/
theorem format_terminated (hascii : env.Ascii) {pkt : RawEventPacket w} {formatter : Formatter}
    (hself : SelfContained pkt formatter.resolver formatter.resolvingFlags) {buffer : List WCHAR}
    (hbuffer : buffer.length < 2 ^ w.bits) :
    (env.TimeFits (pkt.header 8 .timestamp) → ∀ f, format env pkt formatter buffer ≠ .error (.fault f)) ∧
      ∀ out, format env pkt formatter buffer = .ok out → 0#16 ∈ out := by
  by_cases hchecks : formatter.size ≠ sizeofFormatter w ∨ pkt.isValid = false ∨ buffer = []
  · rw [format, if_pos hchecks]
    exact ⟨fun _ f h => (by cases h), fun out h => (by cases h)⟩
  · simp only [not_or, ne_eq, not_not, Bool.not_eq_false] at hchecks
    obtain ⟨hsize, hvalid, hempty⟩ := hchecks
    obtain ⟨size, template, resolver, resolvingFlags⟩ := formatter
    obtain rfl : size = sizeofFormatter w := hsize
    have hzero : (env.library pkt).towlower 0#16 = 0#16 := hascii.towlower 0#16 (by decide)
    obtain ⟨hnot, hoverrun⟩ | ⟨bs, hlength, hprint, hrun⟩ :=
      format_of_selfContained env hvalid hself template hempty
    · rw [hoverrun]
      exact ⟨fun hfits => absurd hfits hnot, fun out h => (by cases h)⟩
    · rw [hrun]
      obtain ⟨code, hcode⟩ | ⟨out, hout, -, hterminated⟩ :=
        formatString_outcome template hzero hlength hprint hbuffer
      · rw [hcode]
        exact ⟨fun _ f h => (by cases h), fun out h => (by cases h)⟩
      · rw [hout]
        refine ⟨fun _ f h => (by cases h), fun out' hout' => ?_⟩
        rw [← Except.ok.inj hout']
        exact hterminated

/-- **The text of a self-contained packet** is what the formatter has written, up to its terminator. -/
theorem formatText_selfContained (hascii : env.Ascii) (hsize : h.size = sizeofHandler w) {c : HandleCall w}
    (hself : SelfContained c.packet h.formatter.resolver h.formatter.resolvingFlags) :
    formatText env h c = (format env c.packet h.formatter (c.buffer.take (2048 - 2))).map (·.takeWhile (· ≠ 0#16)) := by
  have hbuffer : (c.buffer.take (2048 - 2)).length < 2 ^ w.bits := by
    have hpow := pow_bits_ge w
    rw [List.length_take, c.length]
    omega
  have hterminated := (format_terminated hascii hself hbuffer).2
  rw [formatText, if_neg (not_not.mpr hsize)]
  cases hformat : format env c.packet h.formatter (c.buffer.take (2048 - 2)) with
  | error e => rfl
  | ok out  =>
      obtain ⟨text, rest, rfl, hzero⟩ := List.eq_append_cons_of_mem (hterminated out hformat)
      have htext : ∀ x ∈ text, x ≠ 0#16 := fun x hx heq => hzero (heq ▸ hx)
      have hwhile : (text ++ 0#16 :: rest).takeWhile (· ≠ 0#16) = text := by
        rw [List.takeWhile_append_of_pos (by simpa using htext)]
        simp
      simp only [exit_ok_bind, List.append_assoc, List.cons_append, wcslen_terminated htext, Except.map, hwhile,
        List.take_left']

/-- **A self-contained packet does not make a fault**, with any template, if its time fits its block. -/
theorem handleResult_safe (hascii : env.Ascii) (hsize : h.size = sizeofHandler w) {c : HandleCall w}
    (hself : SelfContained c.packet h.formatter.resolver h.formatter.resolvingFlags)
    (hfits : env.TimeFits (c.packet.header 8 .timestamp)) :
    ∃ hr, handleResult env h c = .ok hr := by
  have hbuffer : (c.buffer.take (2048 - 2)).length < 2 ^ w.bits := by
    have hpow := pow_bits_ge w
    rw [List.length_take, c.length]
    omega
  have hsafe := (format_terminated hascii hself hbuffer).1 hfits
  rw [handleResult, formatText_selfContained hascii hsize hself]
  cases hformat : format env c.packet h.formatter (c.buffer.take (2048 - 2)) with
  | ok out => exact ⟨_, rfl⟩
  | error e =>
      cases e with
      | returns hr => exact ⟨hr, rfl⟩
      | fault f    => exact absurd hformat (hsafe f)

variable {τ : Type}

/-- The moves of a thread in the append routine write the record, byte by byte. -/
theorem moves_spec {text : List WCHAR} {write : WriteOutcome} {file x : List Byte} {k : AppendPc} {n : Nat}
    (hmoves : (textFile env h τ w).moves n (.routine text write) file = some (k, x)) :
    k = .routine text write ∧ x = file ∨ ∃ done rest, (h.appendRoutine.append write text).1 = done ++ rest ∧
      k = .writing rest (h.appendRoutine.append write text).2 ∧ x = file ++ done := by
  induction n generalizing k x with
  | zero =>
      cases hmoves
      exact .inl ⟨rfl, rfl⟩
  | succ n ih =>
      obtain ⟨⟨k₁, x₁⟩, hmoves₁, hmove⟩ := Option.bind_eq_some_iff.mp hmoves
      rcases ih hmoves₁ with ⟨rfl, rfl⟩ | ⟨done, rest, hsplit, rfl, rfl⟩
      · cases hmove
        exact .inr ⟨[], _, rfl, rfl, (List.append_nil _).symm⟩
      · cases rest with
        | nil         => cases hmove
        | cons b rest =>
            cases hmove
            exact .inr ⟨done ++ [b], rest, by simp [hsplit], rfl, by simp⟩

/-- A thread that is done has written all of it. -/
theorem moves_done {text : List WCHAR} {write : WriteOutcome} {file x : List Byte} {k : AppendPc} {n : Nat}
    (hmoves : (textFile env h τ w).moves n (.routine text write) file = some (k, x))
    (hdone : (textFile env h τ w).move k x = none) :
    k = .writing [] (h.appendRoutine.append write text).2 ∧ x = file ++ (h.appendRoutine.append write text).1 := by
  rcases moves_spec hmoves with ⟨rfl, rfl⟩ | ⟨done, rest, hsplit, rfl, rfl⟩
  · cases hdone
  · cases rest with
    | nil         => exact ⟨rfl, by rw [hsplit, List.append_nil]⟩
    | cons b rest => cases hdone

/-- How a call begins. -/
theorem enter_inl {t : τ} {c : HandleCall w} {r : Except MemoryFault HRESULT}
    (henter : (textFile env h τ w).enter t c () = (.inl r, ())) : handleResult env h c = r ∧ appended env h c = [] := by
  simp only [textFile] at henter
  split at henter
  · rename_i heq
    cases henter
    exact ⟨by rw [handleResult, heq], by rw [appended, heq]⟩
  · rename_i heq
    cases henter
    exact ⟨by rw [handleResult, heq], by rw [appended, heq]⟩
  · cases henter

theorem enter_inr {t : τ} {c : HandleCall w} {k : AppendPc}
    (henter : (textFile env h τ w).enter t c () = (.inr k, ())) :
    ∃ text, formatText env h c = .ok text ∧ k = .routine text c.write := by
  simp only [textFile] at henter
  split at henter
  · cases henter
  · cases henter
  · rename_i text heq
    cases henter
    exact ⟨text, heq, rfl⟩

end Call

/-! ## The log -/

section Log

variable {τ : Type} [DecidableEq τ]

/-- The records of some calls. -/
def records (order : List (τ × HandleCall w × Except MemoryFault HRESULT)) : List Byte :=
  order.flatMap fun e => appended env h e.2.1

/-- **What a log is**, for an order of the calls that have returned or released the lock. -/
structure IsLog (file₀ : List Byte) (order : List (τ × HandleCall w × Except MemoryFault HRESULT))
    (s : State τ (HandleCall w) Unit (List Byte) AppendPc (Except MemoryFault HRESULT)) : Prop where
  /-- The order is that of each thread. -/
  each    : ∀ t, Guarded.ofThread t order = Guarded.ofThread t s.returned ++ (textFile env h τ w).pending t (s.stage t)
  /-- The file is the old one, the records one after the other, and what the holder of the lock has written. -/
  file    : ∃ part, s.object = file₀ ++ records env h order ++ part ∧ (s.lock = none → part = []) ∧
    ∀ t, s.lock = some t → ∃ c k, s.stage t = .inside c k ∧ part <+: appended env h c
  /-- Every call returns what it would return if there were no others. -/
  results : ∀ e ∈ order, e.2.2 = handleResult env h e.2.1
  /-- Nobody is stuck: a thread in a call can take a step, or waits for the lock, and its holder can take one. -/
  runs    : ∀ t, s.stage t ≠ .idle → ∃ a s', (textFile env h τ w).next s a = some s' ∧ a.isCall = false ∧
    (a.thread = t ∨ (∃ c k, s.stage t = .waiting c k) ∧ s.lock = some a.thread)

/-- A record is the text that the formatter has made of the packet, whole if the call succeeds. -/
structure IsRecord (c : HandleCall w) : Prop where
  /-- A self-contained packet makes no fault, unless the text of its time overruns the block for it. -/
  safe   : SelfContained c.packet h.formatter.resolver h.formatter.resolvingFlags →
    env.TimeFits (c.packet.header 8 .timestamp) → ∃ hr, handleResult env h c = .ok hr
  /-- On success, the record is the text; otherwise it is the beginning of it. -/
  record : ∀ text, formatText env h c = .ok text →
    appended env h c <+: h.appendRoutine.encode text ∧
      (handleResult env h c = .ok sOk → appended env h c = h.appendRoutine.encode text)
  /-- What cannot be formatted leaves no trace. -/
  absent : ∀ e, formatText env h c = .error e → appended env h c = []
  /-- The text is what the formatter makes of a self-contained packet in all but two characters of the buffer. -/
  text   : SelfContained c.packet h.formatter.resolver h.formatter.resolvingFlags →
    formatText env h c = (format env c.packet h.formatter (c.buffer.take (2048 - 2))).map (·.takeWhile (· ≠ 0#16))
  /-- A text that was formatted is recorded, unless `WriteFile` fails or it is too long for the buffer. -/
  kept   : ∀ text, formatText env h c = .ok text → c.write = .written →
    (h.appendRoutine = .utf8 → (utf8Bytes text).length < 2048) → handleResult env h c = .ok sOk

variable {env h}

omit [DecidableEq τ] in
/-- Calls that are made one after the other leave their records. -/
theorem serial_records {file₀ file : List Byte} {order : List (τ × HandleCall w × Except MemoryFault HRESULT)}
    (hserial : (textFile env h τ w).Serial file₀ order file) :
    file = file₀ ++ records env h order ∧ ∀ e ∈ order, e.2.2 = handleResult env h e.2.1 := by
  induction hserial with
  | nil => exact ⟨by simp [records], nofun⟩
  | rejected _ henter ih =>
      obtain ⟨hfile, hresults⟩ := ih
      obtain ⟨hresult, hempty⟩ := enter_inl henter
      refine ⟨by simp [records, hfile, hempty], ?_⟩
      intro e he
      rcases List.mem_append.mp he with he | he
      · exact hresults e he
      · rw [List.mem_singleton.mp he]
        exact hresult.symm
  | used _ henter hmoves hdone ih =>
      obtain ⟨hfile, hresults⟩ := ih
      obtain ⟨text, htext, rfl⟩ := enter_inr henter
      obtain ⟨rfl, rfl⟩ := moves_done hmoves hdone
      refine ⟨by simp [records, hfile, appended, htext], ?_⟩
      intro e he
      rcases List.mem_append.mp he with he | he
      · exact hresults e he
      · rw [List.mem_singleton.mp he, handleResult, htext]
        rfl

/-- **From the library's order to the log.** -/
theorem isLog_of_ordered {file₀ : List Byte} {order : List (τ × HandleCall w × Except MemoryFault HRESULT)}
    {s c : State τ (HandleCall w) Unit (List Byte) AppendPc (Except MemoryFault HRESULT)}
    (horder : (textFile env h τ w).Ordered file₀ order c) (hsim : (textFile env h τ w).Sim s c) :
    IsLog env h file₀ order s := by
  obtain ⟨hfile, hresults⟩ := serial_records horder.serial
  refine ⟨?_, ?_, hresults, fun t ht => hsim.progress ht⟩
  · intro t
    rw [horder.each t, hsim.returned]
    by_cases hlock : s.lock = some t
    · obtain ⟨i, k₀, k, n, hwaiting, hinside, -⟩ := hsim.held t hlock
      rw [hwaiting, hinside]
      rfl
    · rw [(hsim.others t hlock).1]
  · cases hlock : s.lock with
    | none => exact ⟨[], by rw [← hsim.free hlock, hfile, List.append_nil], fun _ => rfl, nofun⟩
    | some t =>
        obtain ⟨i, k₀, k, n, hwaiting, hinside, hmoves⟩ := hsim.held t hlock
        obtain ⟨text, htext, rfl⟩ := enter_inr (horder.entered t i k₀ hwaiting)
        have happended : appended env h i = (h.appendRoutine.append i.write text).1 := by rw [appended, htext]
        rcases moves_spec hmoves with ⟨rfl, hobject⟩ | ⟨done, rest, hsplit, rfl, hobject⟩
        · refine ⟨[], by rw [hobject, hfile, List.append_nil], fun _ => rfl, ?_⟩
          rintro u ⟨⟩
          exact ⟨i, _, hinside, List.nil_prefix⟩
        · refine ⟨done, by rw [hobject, hfile], nofun, ?_⟩
          rintro u ⟨⟩
          exact ⟨i, _, hinside, by rw [happended, hsplit]; exact List.prefix_append ..⟩

theorem isRecord (hascii : env.Ascii) (hsize : h.size = sizeofHandler w) (c : HandleCall w) : IsRecord env h c where
  safe hself hfits := handleResult_safe hascii hsize hself hfits
  text hself       := formatText_selfContained hascii hsize hself
  record text htext := by
    obtain ⟨hbegins, hwhole⟩ := append_spec h.appendRoutine c.write (formatText_ok htext).1
    rw [appended, handleResult, htext]
    exact ⟨hbegins, fun hok => hwhole (Except.ok.inj hok)⟩
  absent e he := by rw [appended, he]
  kept text htext hwrite hlength := by
    rw [handleResult, htext, hwrite]
    cases hencoding : h.appendRoutine with
    | utf16 => rfl
    | utf8  =>
        have hfits : (utf8Bytes text ++ [0#8]).length ≤ 2048 := by
          have hlt := hlength hencoding
          rw [List.length_append, List.length_singleton]
          omega
        simp only [TextFileEncoding.append, convertToUtf8AndAppendToFile, wideCharToMultiByte, if_pos hfits]
        rfl

/-- What it takes to create a handler. -/
theorem createTextFileHandler_ok {session : Option (Except HRESULT Formatter)} {filePath memory : Bool}
    {encoding : Option TextFileEncoding} {createFile : Except DWORD (List Byte)} {setFilePointer : Except DWORD Unit}
    {file₀ : List Byte}
    (hcreate : createTextFileHandler w session filePath encoding createFile setFilePointer memory = .ok (h, file₀)) :
    h.size = sizeofHandler w ∧ session = some (.ok h.formatter) ∧ encoding = some h.appendRoutine ∧
      createFile = .ok file₀ := by
  unfold createTextFileHandler at hcreate
  split at hcreate
  · rename_i formatter encoding
    split at hcreate
    · cases hcreate
    · cases hopen : createFile <;> cases hend : setFilePointer <;> cases hmemory : memory <;>
        cases hformatter : formatter <;> simp_all [Except.mapError, bind, Except.bind]
      obtain ⟨rfl, rfl⟩ := hcreate
      exact ⟨rfl, rfl, rfl⟩
  · cases hcreate

/-- **The log of a text file handler**: in every interleaving of threads that have packets handled, the file is the
    old one with whole records behind it, in an order that is that of each thread and that later calls only add to,
    and with what the thread that holds the lock has written of its own. Each record is the text of its packet. -/
theorem textFile_log (hascii : env.Ascii) (session : Option (Except HRESULT Formatter)) (filePath memory : Bool)
    (encoding : Option TextFileEncoding) (createFile : Except DWORD (List Byte)) (setFilePointer : Except DWORD Unit)
    {file₀ : List Byte}
    (hcreate : createTextFileHandler w session filePath encoding createFile setFilePointer memory = .ok (h, file₀))
    {as bs : List (Action τ (HandleCall w))}
    {s s' : State τ (HandleCall w) Unit (List Byte) AppendPc (Except MemoryFault HRESULT)}
    (hr : Transition.run (textFile env h τ w).next (.initial file₀ ()) as = some s)
    (hr' : Transition.run (textFile env h τ w).next s bs = some s') :
    (∃ order order', order <+: order' ∧ IsLog env h file₀ order s ∧ IsLog env h file₀ order' s') ∧
      ∀ c : HandleCall w, IsRecord env h c := by
  obtain ⟨hsize, -⟩ := createTextFileHandler_ok hcreate
  obtain ⟨order, order', c, c', hle, ⟨horder, hsim⟩, horder', hsim'⟩ := Guarded.linearizable hr hr'
  exact ⟨⟨order, order', hle, isLog_of_ordered horder hsim, isLog_of_ordered horder' hsim'⟩,
    fun c => isRecord hascii hsize c⟩

end Log

/-! ### Two threads -/

/-- A packet that consists of its header. -/
def headerPacket : RawEventPacket .w32 where
  mem     := store 2 (store 2 (fun _ => 0) 0x5A00 64) 0x5A02 64
  address := 0x5A00
  nonnull := by decide
  inSpace := by decide

/-- It is handled with the template `a`, and appended in UTF-8. -/
def headerHandler : TextFileHandler where
  size          := sizeofHandler .w32
  formatter     := ⟨sizeofFormatter .w32, wide "a", none, 0⟩
  appendRoutine := .utf8

def headerCall : HandleCall .w32 where
  packet := headerPacket
  buffer := 0#16 :: 0#16 :: List.replicate 2046 0#16
  length := by rw [List.length_cons, List.length_cons, List.length_replicate]
  write  := .written

theorem headerPacket_selfContained (resolvingFlags : Nat) : SelfContained headerPacket none resolvingFlags where
  message          := fun h => absurd (by decide) h
  machine          := fun h => absurd (by decide) h
  moduleName h     := absurd (by decide) h.1
  function h       := absurd (by decide) h.1
  sourceFile h     := absurd (by decide) h.1
  sourceLine h     := absurd (by decide) h.1
  inserted _ r hr  := nomatch hr

theorem format_header (rest : List WCHAR) :
    format asciiEnvironment headerPacket headerHandler.formatter (0#16 :: 0#16 :: rest) =
      .ok (0x61#16 :: 0#16 :: rest) := rfl

theorem formatText_header : formatText asciiEnvironment headerHandler headerCall = .ok [0x61#16] := by
  rw [formatText_selfContained asciiEnvironment_ascii rfl (headerPacket_selfContained 0)]
  exact congrArg (Except.map _) (format_header ((List.replicate 2046 0#16).take 2044))

theorem enter_header (t : Nat) : (textFile asciiEnvironment headerHandler Nat .w32).enter t headerCall () =
    (.inr (.routine [0x61#16] .written), ()) := by
  simp only [textFile, formatText_header]
  rfl

/-- Threads 1 and 2 handle the packet; thread 1 appends first. -/
theorem run_twoThreads {c : HandleCall .w32}
    (henter : ∀ t, (textFile asciiEnvironment headerHandler Nat .w32).enter t c () =
      (.inr (.routine [0x61#16] .written), ())) :
    ∃ s s', Transition.run (textFile asciiEnvironment headerHandler Nat .w32).next (.initial [0x78#8] ())
        [.call 1 c, .call 2 c, .acquire 1, .move 1, .move 1] = some s ∧
      Transition.run (textFile asciiEnvironment headerHandler Nat .w32).next s
        [.release 1, .acquire 2, .move 2, .move 2, .release 2, .finish 1, .finish 2] = some s' := by
  simp only [Transition.run, Guarded.next, State.initial, henter]
  exact ⟨_, _, rfl, rfl⟩

/-- In between, thread 1 has written its record, and holds the lock that thread 2 waits for. -/
theorem textFile_log_twoThreads : ∃ s s', Transition.run (textFile asciiEnvironment headerHandler Nat .w32).next
      (.initial [0x78#8] ()) [.call 1 headerCall, .call 2 headerCall, .acquire 1, .move 1, .move 1] = some s ∧
    Transition.run (textFile asciiEnvironment headerHandler Nat .w32).next s
      [.release 1, .acquire 2, .move 2, .move 2, .release 2, .finish 1, .finish 2] = some s' ∧
    (∃ order order', order <+: order' ∧ IsLog asciiEnvironment headerHandler [0x78#8] order s ∧
      IsLog asciiEnvironment headerHandler [0x78#8] order' s') ∧
    ∀ c : HandleCall .w32, IsRecord asciiEnvironment headerHandler c := by
  obtain ⟨s, s', hr, hr'⟩ := run_twoThreads enter_header
  exact ⟨s, s', hr, hr', textFile_log asciiEnvironment_ascii (some (.ok headerHandler.formatter)) true true (some .utf8)
    (.ok [0x78#8]) (.ok ()) rfl hr hr'⟩

end Cfix.Cdiag
