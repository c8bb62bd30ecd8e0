import Cfix.Cdiag.MessageDlls
import Cfix.Cdiag.StripNewlines

/-!
# `Cdiag.ResolveMessage` — resolving a message (`cdiag/msgresolver.c`)

The sources of messages are the system and the registered DLLs. What `CdiagsResolveMessage` returns is decided by
the first source that has the message or has no room for it, and by the default text if there is none.
-/

namespace Cfix.Cdiag.MsgResolver

def errorInsufficientBuffer : DWORD := 122#32
def errorMoreData           : DWORD := 234#32

def maxMessageCch : Nat := 0xFFFF

def resolveIgnoreInserts : DWORD := 1#32
def noSystem             : DWORD := 2#32
def fallbackToDefault    : DWORD := 4#32
def stripNewlinesFlag    : DWORD := 8#32

/-- `CDIAGP_RESOLVER_ALL_FLAGS`. -/
def resolverAllFlags : DWORD := resolveIgnoreInserts ||| noSystem ||| fallbackToDefault ||| stripNewlinesFlag

/-- `MessageId`, `Flags` and `InsertionStrings`. -/
structure Request where
  messageId        : DWORD
  flags            : DWORD
  insertionStrings : List CString

def Request.useInsertionStrings (q : Request) : Bool := q.flags &&& resolveIgnoreInserts == 0#32

/-! ## One source -/

/-- `FormatMessage` from a module or from the system: the text, or what `GetLastError` reports. -/
structure Tables where
  formatMessage (module : Option HMODULE) (useInsertionStrings : Bool) (messageId : DWORD)
    (insertionStrings : List CString) (size : Nat) : Except DWORD CString

/-- What is documented: the text and its terminator are in the buffer, and error codes are positive. -/
structure Tables.Documented (tables : Tables) : Prop where
  fits   : ∀ {module use messageId insertionStrings size text},
    tables.formatMessage module use messageId insertionStrings size = .ok text → text.length < size
  errors : ∀ {module use messageId insertionStrings size err},
    tables.formatMessage module use messageId insertionStrings size = .error err → 0 < err.toInt

/-- A text is written to the start of a buffer. -/
def overwrite (buffer : List WCHAR) (text : CString) : List WCHAR := text.memory ++ buffer.drop (text.length + 1)

/-- `CdiagsFormatMessage`. -/
def formatMessage (tables : Tables) (q : Request) (module : Option HMODULE) (buffer : List WCHAR) :
    HRESULT × List WCHAR :=
  match tables.formatMessage module q.useInsertionStrings q.messageId q.insertionStrings buffer.length with
  | .ok text   => (sOk, overwrite buffer text)
  | .error err =>
    if err = errorInsufficientBuffer ∨ err = errorMoreData then (eBufferTooSmall, buffer)
    else (hresultFromWin32 err, buffer)

/-! ## The default text -/

/-- A digit of `%X`. -/
def hexDigit (n : Nat) : WCHAR := if n < 10 then BitVec.ofNat 16 (0x30 + n) else BitVec.ofNat 16 (0x37 + n)

theorem hexDigit_ne_zero : ∀ n < 16, hexDigit n ≠ 0#16 := by decide

/-- `0x%08X`. -/
def defaultText (messageId : DWORD) : CString where
  chars   := 0x30#16 :: 0x78#16 :: (List.range 8).map fun i => hexDigit (messageId.toNat / 16 ^ (7 - i) % 16)
  nonzero := by
    intro c hc
    rcases List.mem_cons.mp hc with rfl | hc
    · decide
    · rcases List.mem_cons.mp hc with rfl | hc
      · decide
      · obtain ⟨i, -, rfl⟩ := List.mem_map.mp hc
        exact hexDigit_ne_zero _ (Nat.mod_lt _ (by decide))

@[simp] theorem length_defaultText (messageId : DWORD) : (defaultText messageId).length = 10 := by
  simp [defaultText, CString.length]

/-- `StringCchPrintf` of a text that is formatted: what does not fit is cut off. -/
def stringCchPrintf (buffer : List WCHAR) (text : CString) : HRESULT × List WCHAR :=
  if text.length < buffer.length then (sOk, overwrite buffer text)
  else (strsafeEInsufficientBuffer, text.chars.take (buffer.length - 1) ++ [0#16])

/-! ## The search -/

/-- The walk over the DLLs: whether the message is resolved, the last result code, and the buffer. -/
def searchDlls (tables : Tables) (q : Request) : List RegisteredDll → HRESULT → List WCHAR → Bool × HRESULT × List WCHAR
  | [],             hr, buffer => (false, hr, buffer)
  | regDll :: rest, _,  buffer =>
    let (hr, buffer) := formatMessage tables q regDll.module buffer
    if hr = sOk then (true, hr, buffer)
    else if hr = eBufferTooSmall then (false, hr, buffer)
    else searchDlls tables q rest hr buffer

/-- The parameters that `CdiagsResolveMessage` accepts. -/
def isRequestValid (q : Request) (buffer : List WCHAR) : Bool :=
  q.flags &&& ~~~resolverAllFlags == 0#32 && buffer.length != 0 && buffer.length ≤ maxMessageCch

/-- The end of `CdiagsResolveMessage`, with what the search has found. -/
def conclude (q : Request) : Bool × HRESULT × List WCHAR → HRESULT × List WCHAR
  | (true, _, buffer) =>
    (sOk, if flagOn q.flags stripNewlinesFlag then (stripNewlines (buffer.length + 1) buffer).getD buffer else buffer)
  | (false, hr, buffer) =>
    if hr = eBufferTooSmall then (hr, buffer)
    else if flagOn q.flags fallbackToDefault then
      let (hr, buffer) := stringCchPrintf buffer (defaultText q.messageId)
      if hr = strsafeEInsufficientBuffer then (eBufferTooSmall, buffer) else (sOk, buffer)
    else (eUnknownMessage, buffer)

/-- The lookup in the system: whether the message is resolved, the result code, and the buffer. -/
def searchSystem (tables : Tables) (q : Request) (buffer : List WCHAR) : Bool × HRESULT × List WCHAR :=
  if flagOn q.flags noSystem then (false, sOk, buffer)
  else
    let (hr, buffer) := formatMessage tables q none buffer
    (hr == sOk, hr, buffer)

/-- `CdiagsResolveMessage`, for a buffer of `BufferSizeInChars` characters. -/
def resolveMessage (tables : Tables) (r : Resolver) (q : Request) (buffer : List WCHAR) :
    HRESULT × Resolver × List WCHAR :=
  if !isRequestValid q buffer then (eInvalidarg, r, buffer)
  else
    match searchSystem tables q buffer with
    | (true, hr, buffer)  => ((conclude q (true, hr, buffer)).1, r, (conclude q (true, hr, buffer)).2)
    | (false, hr, buffer) =>
      if hr = eBufferTooSmall then (hr, r, buffer)
      else
        let found := searchDlls tables q r.registeredDlls hr buffer
        ((conclude q found).1, (r.emit .enterCriticalSection).emit .leaveCriticalSection, (conclude q found).2)

/-! ## What decides -/

/-- What a source says that ends the search. -/
inductive Answer where
  | found (text : CString)
  | tooSmall

/-- What a source says about the message; `none` is any other failure. -/
def Tables.answer (tables : Tables) (q : Request) (size : Nat) (source : Option HMODULE) : Option Answer :=
  match tables.formatMessage source q.useInsertionStrings q.messageId q.insertionStrings size with
  | .ok text   => some (.found text)
  | .error err => if err = errorInsufficientBuffer ∨ err = errorMoreData then some .tooSmall else none

/-- The sources in the order of the search. -/
def sources (r : Resolver) (q : Request) : List (Option HMODULE) :=
  (if flagOn q.flags noSystem then [] else [none]) ++ r.registeredDlls.map (·.module)

/-- The text was in the buffer, and its line ends were stripped if the flags ask for that. -/
def Delivered (q : Request) (text : CString) (buffer : List WCHAR) : Prop :=
  ∃ filled, textOf filled = text.chars ∧
    if flagOn q.flags stripNewlinesFlag then stripNewlines (filled.length + 1) filled = some buffer else buffer = filled

/-- The outcome of a resolution by what the sources say. -/
structure InOrder (tables : Tables) (r : Resolver) (q : Request) (buffer : List WCHAR)
    (result : HRESULT × Resolver × List WCHAR) : Prop where
  found    : ∀ before s after text, sources r q = before ++ s :: after →
    (∀ x ∈ before, tables.answer q buffer.length x = none) → tables.answer q buffer.length s = some (.found text) →
    result.1 = sOk ∧ Delivered q text result.2.2
  tooSmall : result.1 = eBufferTooSmall ↔
    (∃ before s after, sources r q = before ++ s :: after ∧
      (∀ x ∈ before, ∀ text, tables.answer q buffer.length x ≠ some (.found text)) ∧
      tables.answer q buffer.length s = some .tooSmall) ∨
    (∀ x ∈ sources r q, tables.answer q buffer.length x = none) ∧ flagOn q.flags fallbackToDefault = true ∧
      buffer.length ≤ (defaultText q.messageId).length
  default  : (∀ x ∈ sources r q, tables.answer q buffer.length x = none) → flagOn q.flags fallbackToDefault = true →
    (defaultText q.messageId).length < buffer.length →
    result.1 = sOk ∧ textOf result.2.2 = (defaultText q.messageId).chars
  unknown  : (∀ x ∈ sources r q, tables.answer q buffer.length x = none) → flagOn q.flags fallbackToDefault = false →
    result.1 = eUnknownMessage
  unlocked : ∃ calls, result.2.1 = { r with log := r.log ++ calls } ∧
    (calls = [] ∨ calls = [.enterCriticalSection, .leaveCriticalSection])

variable {tables : Tables} {r : Resolver} {q : Request} {buffer : List WCHAR}

/-! ## One lookup -/

/-- A positive error code does not look like a code of the resolver. -/
theorem hresultFromWin32_ne {err : DWORD} (h : 0 < err.toInt) :
    hresultFromWin32 err ≠ sOk ∧ hresultFromWin32 err ≠ eBufferTooSmall := by
  have hcode : hresultFromWin32 err = (err &&& 0x0000FFFF#32) ||| 0x80070000#32 := if_neg (by omega)
  rw [hcode]
  constructor
  · intro heq
    have hbit := congrArg (·.getLsbD 16) heq
    simp [sOk] at hbit
  · intro heq
    have hbit := congrArg (·.getLsbD 16) heq
    simp [eBufferTooSmall] at hbit

theorem formatMessage_found {source : Option HMODULE} {text : CString}
    (h : tables.answer q buffer.length source = some (.found text)) :
    formatMessage tables q source buffer = (sOk, overwrite buffer text) := by
  unfold Tables.answer at h
  unfold formatMessage
  split at h
  · cases h
    rfl
  · split at h <;> cases h

theorem formatMessage_tooSmall {source : Option HMODULE}
    (h : tables.answer q buffer.length source = some .tooSmall) :
    formatMessage tables q source buffer = (eBufferTooSmall, buffer) := by
  unfold Tables.answer at h
  unfold formatMessage
  split at h
  · cases h
  · split at h
    · rename_i herr
      exact if_pos herr
    · cases h

/-- Any other failure is none of the codes that end the search. -/
theorem formatMessage_failed (hdoc : tables.Documented) {source : Option HMODULE}
    (h : tables.answer q buffer.length source = none) :
    ∃ hr, formatMessage tables q source buffer = (hr, buffer) ∧ hr ≠ sOk ∧ hr ≠ eBufferTooSmall := by
  unfold Tables.answer at h
  unfold formatMessage
  split at h
  · cases h
  · rename_i err heq
    split at h
    · cases h
    · rename_i herr
      exact ⟨hresultFromWin32 err, if_neg herr, hresultFromWin32_ne (hdoc.errors heq)⟩

/-! ## The search -/

variable (q buffer) in
/-- The DLLs are searched up to the first that decides. -/
theorem searchDlls_spec (hdoc : tables.Documented) (dlls : List RegisteredDll) {hr : HRESULT} (hhr : hr ≠ eBufferTooSmall) :
    match (dlls.map (·.module)).findSome? (tables.answer q buffer.length) with
    | some (.found text) => searchDlls tables q dlls hr buffer = (true, sOk, overwrite buffer text)
    | some .tooSmall     => searchDlls tables q dlls hr buffer = (false, eBufferTooSmall, buffer)
    | none               => ∃ hr', searchDlls tables q dlls hr buffer = (false, hr', buffer) ∧ hr' ≠ eBufferTooSmall := by
  induction dlls generalizing hr with
  | nil => exact ⟨hr, rfl, hhr⟩
  | cons d dlls ih =>
      rw [List.map_cons, List.findSome?_cons]
      cases hanswer : tables.answer q buffer.length d.module with
      | none =>
          obtain ⟨hr', hformat, hne, hne'⟩ := formatMessage_failed hdoc hanswer
          simp only [searchDlls, hformat, if_neg hne, if_neg hne']
          exact ih hne'
      | some answer =>
          cases answer with
          | found text => simp [searchDlls, formatMessage_found hanswer]
          | tooSmall =>
              have hne : eBufferTooSmall ≠ sOk := by decide
              simp [searchDlls, formatMessage_tooSmall hanswer, hne]

/-- The locks that a resolution has taken are released. -/
theorem unlocked_entered : (r.emit .enterCriticalSection).emit .leaveCriticalSection =
    { r with log := r.log ++ [.enterCriticalSection, .leaveCriticalSection] } := by
  simp [Resolver.emit]

/-! ## The result -/

theorem conclude_found (q : Request) (text : CString) (hfits : text.length < buffer.length)
    (hsize : buffer.length ≤ maxMessageCch) (hr : HRESULT) :
    (conclude q (true, hr, overwrite buffer text)).1 = sOk ∧
    Delivered q text (conclude q (true, hr, overwrite buffer text)).2 := by
  refine ⟨rfl, overwrite buffer text, textOf_memory text _, ?_⟩
  have hshort : text.length < 2 ^ 32 := by
    have hmax : maxMessageCch < 2 ^ 32 := by decide
    omega
  obtain ⟨t', rest', -, hstrip⟩ := stripNewlines_spec text (buffer.drop (text.length + 1)) hshort
  have hfuel : text.length < (overwrite buffer text).length + 1 := by
    simp [overwrite]
    omega
  have hstripped := hstrip ((overwrite buffer text).length + 1)
  rw [if_pos hfuel] at hstripped
  cases hflag : flagOn q.flags stripNewlinesFlag with
  | false =>
      show (if flagOn q.flags stripNewlinesFlag then _ else _) = _
      rw [hflag]
      rfl
  | true =>
      show stripNewlines _ _ = some (if flagOn q.flags stripNewlinesFlag then _ else _)
      rw [hflag, if_pos rfl]
      rw [show stripNewlines ((overwrite buffer text).length + 1) (overwrite buffer text) = _ from hstripped]
      rfl

theorem conclude_tooSmall (q : Request) :
    conclude q (false, eBufferTooSmall, buffer) = (eBufferTooSmall, buffer) := by simp [conclude]

theorem conclude_default {hr : HRESULT} (hhr : hr ≠ eBufferTooSmall) (hflag : flagOn q.flags fallbackToDefault = true) :
    conclude q (false, hr, buffer) =
      if (defaultText q.messageId).length < buffer.length then (sOk, overwrite buffer (defaultText q.messageId))
      else (eBufferTooSmall, (defaultText q.messageId).chars.take (buffer.length - 1) ++ [0#16]) := by
  simp only [conclude, if_neg hhr, hflag, if_true, stringCchPrintf]
  split
  · have hne : ¬ sOk = strsafeEInsufficientBuffer := by decide
    exact if_neg hne
  · exact if_pos rfl

theorem conclude_unknown {hr : HRESULT} (hhr : hr ≠ eBufferTooSmall) (hflag : flagOn q.flags fallbackToDefault = false) :
    conclude q (false, hr, buffer) = (eUnknownMessage, buffer) := by
  simp [conclude, hhr, hflag]

/-- What the search over all sources ends with. -/
def Ends (tables : Tables) (r : Resolver) (q : Request) (buffer : List WCHAR) (found : Bool × HRESULT × List WCHAR) : Prop :=
  (resolveMessage tables r q buffer).1 = (conclude q found).1 ∧
  (resolveMessage tables r q buffer).2.2 = (conclude q found).2

theorem resolveMessage_unlocked (tables : Tables) (r : Resolver) (q : Request) (buffer : List WCHAR) :
    ∃ calls, (resolveMessage tables r q buffer).2.1 = { r with log := r.log ++ calls } ∧
      (calls = [] ∨ calls = [.enterCriticalSection, .leaveCriticalSection]) := by
  have hnone : r = { r with log := r.log ++ [] } := by rw [List.append_nil]
  unfold resolveMessage
  split
  · exact ⟨[], hnone, .inl rfl⟩
  · split
    · exact ⟨[], hnone, .inl rfl⟩
    · split
      · exact ⟨[], hnone, .inl rfl⟩
      · exact ⟨_, unlocked_entered, .inr rfl⟩

/-- The DLLs are searched if the system does not decide. -/
theorem resolveMessage_dlls {hr : HRESULT} (hvalid : isRequestValid q buffer = true)
    (hsystem : searchSystem tables q buffer = (false, hr, buffer)) (hhr : hr ≠ eBufferTooSmall) :
    Ends tables r q buffer (searchDlls tables q r.registeredDlls hr buffer) := by
  simp [Ends, resolveMessage, hvalid, hsystem, hhr]

/-- **The first source that decides determines the end of the search.** -/
theorem resolveMessage_ends (hdoc : tables.Documented) (hvalid : isRequestValid q buffer = true) :
    match (sources r q).findSome? (tables.answer q buffer.length) with
    | some (.found text) => Ends tables r q buffer (true, sOk, overwrite buffer text)
    | some .tooSmall     => Ends tables r q buffer (false, eBufferTooSmall, buffer)
    | none               => ∃ hr, Ends tables r q buffer (false, hr, buffer) ∧ hr ≠ eBufferTooSmall := by
  have hdlls : ∀ hr, searchSystem tables q buffer = (false, hr, buffer) → hr ≠ eBufferTooSmall →
      match (r.registeredDlls.map (·.module)).findSome? (tables.answer q buffer.length) with
      | some (.found text) => Ends tables r q buffer (true, sOk, overwrite buffer text)
      | some .tooSmall     => Ends tables r q buffer (false, eBufferTooSmall, buffer)
      | none               => ∃ hr, Ends tables r q buffer (false, hr, buffer) ∧ hr ≠ eBufferTooSmall := by
    intro hr hsystem hhr
    have hends := resolveMessage_dlls (r := r) hvalid hsystem hhr
    have hsearch := searchDlls_spec q buffer hdoc r.registeredDlls hhr
    split at hsearch
    · rwa [hsearch] at hends
    · rwa [hsearch] at hends
    · obtain ⟨hr', hsearch, hne⟩ := hsearch
      rw [hsearch] at hends
      exact ⟨hr', hends, hne⟩
  cases hflag : flagOn q.flags noSystem with
  | true =>
      have hsystem : searchSystem tables q buffer = (false, sOk, buffer) := by simp [searchSystem, hflag]
      have hsources : sources r q = r.registeredDlls.map (·.module) := by simp [sources, hflag]
      rw [hsources]
      exact hdlls sOk hsystem (by decide)
  | false =>
      have hsources : sources r q = none :: r.registeredDlls.map (·.module) := by simp [sources, hflag]
      rw [hsources, List.findSome?_cons]
      cases hanswer : tables.answer q buffer.length none with
      | none =>
          obtain ⟨hr, hformat, hne, hne'⟩ := formatMessage_failed hdoc hanswer
          have hsystem : searchSystem tables q buffer = (false, hr, buffer) := by
            simp [searchSystem, hflag, hformat, hne]
          exact hdlls hr hsystem hne'
      | some answer =>
          cases answer with
          | found text =>
              have hsystem : searchSystem tables q buffer = (true, sOk, overwrite buffer text) := by
                simp [searchSystem, hflag, formatMessage_found hanswer]
              simp [Ends, resolveMessage, hvalid, hsystem]
          | tooSmall =>
              have hsystem : searchSystem tables q buffer = (false, eBufferTooSmall, buffer) := by
                simp [searchSystem, hflag, formatMessage_tooSmall hanswer, eBufferTooSmall, sOk]
              simp [Ends, resolveMessage, hvalid, hsystem, conclude_tooSmall]

/-! ## Positions -/

section FindSome

variable {α β : Type} {f : α → Option β} {l : List α}

/-- An element that says `b`, with no other kind of answer before it, means that the first answer is `b`. -/
theorem findSome?_eq_iff {b : β} : l.findSome? f = some b ↔
    ∃ before s after, l = before ++ s :: after ∧ (∀ x ∈ before, ∀ c, c ≠ b → f x ≠ some c) ∧ f s = some b := by
  constructor
  · intro h
    obtain ⟨before, s, after, hl, hs, hbefore⟩ := List.findSome?_eq_some_iff.mp h
    refine ⟨before, s, after, hl, fun x hx c _ => ?_, hs⟩
    rw [hbefore x hx]
    exact Option.some_ne_none c |>.symm
  · rintro ⟨before, s, after, rfl, hbefore, hs⟩
    rw [List.findSome?_append]
    cases hfirst : before.findSome? f with
    | none => simp [hs]
    | some c =>
        obtain ⟨x, hx, hfx⟩ := List.exists_of_findSome?_eq_some hfirst
        have hc : c = b := by
          by_contra hne
          exact hbefore x hx c hne hfx
        rw [hc]
        rfl

end FindSome

theorem answer_ne_found_iff {a : Option Answer} :
    (∀ c, c ≠ Answer.tooSmall → a ≠ some c) ↔ ∀ text, a ≠ some (.found text) := by
  constructor
  · exact fun h text => h (.found text) (by simp)
  · intro h c hc
    cases c with
    | found text => exact h text
    | tooSmall => exact absurd rfl hc

/-- The search ends with a full buffer exactly if a source says so that no hit is in front of. -/
theorem tooSmall_iff : (sources r q).findSome? (tables.answer q buffer.length) = some .tooSmall ↔
    ∃ before s after, sources r q = before ++ s :: after ∧
      (∀ x ∈ before, ∀ text, tables.answer q buffer.length x ≠ some (.found text)) ∧
      tables.answer q buffer.length s = some .tooSmall := by
  rw [findSome?_eq_iff]
  simp only [answer_ne_found_iff]

/-! ## The order of the resolution -/

theorem inOrder_of_found {text : CString} (hdoc : tables.Documented) (hvalid : isRequestValid q buffer = true)
    (hfirst : (sources r q).findSome? (tables.answer q buffer.length) = some (.found text)) :
    InOrder tables r q buffer (resolveMessage tables r q buffer) := by
  have hends := resolveMessage_ends (r := r) hdoc hvalid
  rw [hfirst] at hends
  have hsize : buffer.length ≤ maxMessageCch := by
    simp only [isRequestValid, Bool.and_eq_true, decide_eq_true_iff] at hvalid
    exact hvalid.2
  have hfits : text.length < buffer.length := by
    obtain ⟨s, -, hs⟩ := List.exists_of_findSome?_eq_some hfirst
    unfold Tables.answer at hs
    split at hs
    · rename_i heq
      cases hs
      exact hdoc.fits heq
    · split at hs <;> cases hs
  obtain ⟨hok, hdelivered⟩ := conclude_found q text hfits hsize sOk
  have hnot : ¬ ∀ x ∈ sources r q, tables.answer q buffer.length x = none := by
    intro hnone
    rw [List.findSome?_eq_none_iff.mpr hnone] at hfirst
    cases hfirst
  refine ⟨?_, ?_, fun h => absurd h hnot, fun h => absurd h hnot, resolveMessage_unlocked tables r q buffer⟩
  · intro before s after text' hsplit hbefore hs
    have hsame := List.findSome?_eq_some_iff.mpr ⟨before, s, after, hsplit, hs, hbefore⟩
    rw [hfirst] at hsame
    cases hsame
    rw [hends.1, hends.2]
    exact ⟨hok, hdelivered⟩
  · rw [hends.1, hok, ← tooSmall_iff, hfirst]
    constructor
    · exact fun h => absurd h (by decide)
    · rintro (h | ⟨h, -⟩)
      · cases h
      · exact absurd h hnot

theorem inOrder_of_tooSmall (hdoc : tables.Documented) (hvalid : isRequestValid q buffer = true)
    (hfirst : (sources r q).findSome? (tables.answer q buffer.length) = some .tooSmall) :
    InOrder tables r q buffer (resolveMessage tables r q buffer) := by
  have hends := resolveMessage_ends (r := r) hdoc hvalid
  rw [hfirst] at hends
  have hnot : ¬ ∀ x ∈ sources r q, tables.answer q buffer.length x = none := by
    intro hnone
    rw [List.findSome?_eq_none_iff.mpr hnone] at hfirst
    cases hfirst
  refine ⟨?_, ?_, fun h => absurd h hnot, fun h => absurd h hnot, resolveMessage_unlocked tables r q buffer⟩
  · intro before s after text hsplit hbefore hs
    have hsame := List.findSome?_eq_some_iff.mpr ⟨before, s, after, hsplit, hs, hbefore⟩
    rw [hfirst] at hsame
    cases hsame
  · rw [hends.1, conclude_tooSmall, ← tooSmall_iff, hfirst]
    exact iff_of_true rfl (.inl rfl)

theorem inOrder_of_none (hdoc : tables.Documented) (hvalid : isRequestValid q buffer = true)
    (hfirst : (sources r q).findSome? (tables.answer q buffer.length) = none) :
    InOrder tables r q buffer (resolveMessage tables r q buffer) := by
  have hends := resolveMessage_ends (r := r) hdoc hvalid
  rw [hfirst] at hends
  obtain ⟨hr, ⟨hcode, hbuffer⟩, hne⟩ := hends
  have hnone := List.findSome?_eq_none_iff.mp hfirst
  refine ⟨?_, ?_, ?_, ?_, resolveMessage_unlocked tables r q buffer⟩
  · intro before s after text hsplit hbefore hs
    have hsame := List.findSome?_eq_some_iff.mpr ⟨before, s, after, hsplit, hs, hbefore⟩
    rw [hfirst] at hsame
    cases hsame
  · rw [← tooSmall_iff, hfirst, hcode, and_iff_right hnone]
    cases hflag : flagOn q.flags fallbackToDefault with
    | false =>
        rw [conclude_unknown hne hflag]
        have hother : ¬ eUnknownMessage = eBufferTooSmall := by decide
        exact iff_of_false hother (by simp)
    | true =>
        rw [conclude_default hne hflag]
        by_cases hroom : (defaultText q.messageId).length < buffer.length
        · rw [if_pos hroom]
          have hother : ¬ sOk = eBufferTooSmall := by decide
          refine iff_of_false hother ?_
          rintro (h | ⟨-, hle⟩)
          · cases h
          · omega
        · rw [if_neg hroom]
          exact iff_of_true rfl (.inr ⟨rfl, Nat.not_lt.mp hroom⟩)
  · intro _ hflag hroom
    rw [hcode, hbuffer, conclude_default hne hflag, if_pos hroom]
    exact ⟨rfl, textOf_memory _ _⟩
  · intro _ hflag
    rw [hcode, conclude_unknown hne hflag]

/-- **Messages are resolved in the order of their sources**, for parameters that are valid. -/
theorem resolveMessage_inOrder (hdoc : tables.Documented) (r : Resolver) (q : Request) (buffer : List WCHAR) :
    (isRequestValid q buffer = false → resolveMessage tables r q buffer = (eInvalidarg, r, buffer)) ∧
    (isRequestValid q buffer = true → InOrder tables r q buffer (resolveMessage tables r q buffer)) := by
  constructor
  · intro hvalid
    simp [resolveMessage, hvalid]
  · intro hvalid
    cases hfirst : (sources r q).findSome? (tables.answer q buffer.length) with
    | none => exact inOrder_of_none hdoc hvalid hfirst
    | some answer =>
        cases answer with
        | found text => exact inOrder_of_found hdoc hvalid hfirst
        | tooSmall => exact inOrder_of_tooSmall hdoc hvalid hfirst

/-! ## A message with a line end -/

def errorMrMidNotFound : DWORD := 317#32

/-- A system that has the message 2, with the text "A" and a line end. -/
def oneMessage : Tables where
  formatMessage module _ messageId _ size :=
    if module = none ∧ messageId = 2#32 then
      if 3 < size then .ok ⟨[0x41#16, 0x0D#16, 0x0A#16], by simp⟩ else .error errorInsufficientBuffer
    else .error errorMrMidNotFound

theorem oneMessage_documented : oneMessage.Documented where
  fits := by
    intro module use messageId insertionStrings size text h
    simp only [oneMessage] at h
    split at h
    · split at h
      · cases h
        assumption
      · cases h
    · cases h
  errors := by
    intro module use messageId insertionStrings size err h
    simp only [oneMessage] at h
    split at h
    · split at h
      · cases h
      · cases h
        decide
    · cases h
      decide

theorem resolveMessage_inOrder_oneMessage :
    oneMessage.Documented ∧
    InOrder oneMessage .created ⟨2#32, 0#32, []⟩ (List.replicate 8 0#16)
      (resolveMessage oneMessage .created ⟨2#32, 0#32, []⟩ (List.replicate 8 0#16)) :=
  ⟨oneMessage_documented,
    (resolveMessage_inOrder oneMessage_documented .created ⟨2#32, 0#32, []⟩ (List.replicate 8 0#16)).2 (by decide)⟩

/-- With `CDIAG_MSGRES_STRIP_NEWLINES` the line end becomes spaces, the last of which is cut off. -/
example : textOf (resolveMessage oneMessage .created ⟨2#32, stripNewlinesFlag, []⟩ (List.replicate 8 0#16)).2.2 =
    [0x41#16, 0x20#16] := by decide

end Cfix.Cdiag.MsgResolver
