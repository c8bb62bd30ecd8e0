import Cfix.Cdiag.ConfigStore
import Cfix.Lib.Transition

/-!
# `Cdiag.TwoLevels` — the store is a map of settings with two levels

Abstractly there is a setting or none in each cell, that is for each scope, group and name, and the user's
settings hide the global ones. The methods of a store refine the reads and updates of this map, as long as the
keys that a read needs were opened for it and no value of another type is too large for the buffer.
-/

namespace Cfix.Cdiag

open Transition

variable {ν : Type} [DecidableEq ν]

/-! ## The map of settings -/

/-- The setting in each cell. -/
abbrev Settings (ν : Type) := Scope → ν → ν → Option Value

/-- What a call that succeeds changes: the cell and its new setting. -/
structure Update (ν : Type) where
  scope : Scope
  group : ν
  name  : ν
  value : Option Value

namespace Settings

variable (m : Settings ν)

/-- The user's setting if there is one, and otherwise the global one, among the scopes that are asked for. -/
def effective (scope : DWORD) (group name : ν) : Option Value :=
  (if scopeHas scope .user then m .user group name else none).or
    (if scopeHas scope .global then m .global group name else none)

def set (u : Update ν) : Settings ν := fun scope group name =>
  if scope = u.scope ∧ group = u.group ∧ name = u.name then u.value else m scope group name

/-- What a read returns for a setting: its value if it has the type and fits. -/
def answer (expected : DataType) (bufferLen : Nat) : Option Value → Response
  | none       => { hr := eSettingNotFound }
  | some value =>
    if value.type ≠ expected then { hr := eSettingMismatch }
    else if value.size ≤ bufferLen then { hr := sOk, value := some value, actualLen := some value.size }
    else { hr := eBufferTooSmall, actualLen := some value.size }

/-- The response to a read of text. -/
def answerText (expected : DataType) (group name : ν) (scope : DWORD) (bufferSizeInChars : Nat) : Response :=
  if !isValidScope scope || bufferSizeInChars == 0 || maxRegValueCch < bufferSizeInChars then { hr := eInvalidarg }
  else answer expected (bufferSizeInChars * 2) (m.effective scope group name)

/-- The response to a read, and `none` for the other calls. -/
def response (fold : CString → ν) : Request → Option Response
  | .readDword group name scope =>
    some <| match cell fold group name with
    | none               => { hr := eInvalidarg }
    | some (group, name) =>
      if !isValidScope scope then { hr := eInvalidarg }
      else { answer .regDword 4 (m.effective scope group name) with actualLen := none }
  | .readString group name scope size =>
    some <| match cell fold group name with
    | none               => { hr := eInvalidarg }
    | some (group, name) => m.answerText .regSz group name scope size
  | .readMultiString group name scope size =>
    some <| match cell fold group name with
    | none               => { hr := eInvalidarg }
    | some (group, name) => m.answerText .regMultiSz group name scope size
  | .writeDword _ _ _ _ | .writeString _ _ _ _ | .writeMultiString _ _ _ _ | .delete _ _ _ => none

end Settings

/-- The text of a multistring: its strings up to the first empty one, which ends it. -/
def multiText : List CString → List WCHAR
  | []                  => [0#16]
  | element :: elements => if element.length = 0 then [0#16] else element.memory ++ multiText elements

/-- The cell that a call is to change, and the setting that is passed for it. -/
def Request.update (fold : CString → ν) : Request → Option (Update ν)
  | .writeDword group name scope value =>
    updateFor group name scope (some (.dword value))
  | .writeString group name scope value =>
    updateFor group name scope (some (.sz value.memory))
  | .writeMultiString group name scope value =>
    updateFor group name scope (some (.multiSz (multiText value)))
  | .delete group name scope => updateFor group name scope none
  | .readDword _ _ _ | .readString _ _ _ _ | .readMultiString _ _ _ _ => none
where
  updateFor (group name : CString) (scope : DWORD) (value : Option Value) : Option (Update ν) :=
    match cell fold group name, singleScope scope with
    | some (group, name), some scope => some { scope := scope, group := group, name := name, value := value }
    | _, _                           => none

/-- The settings after a call: only a call that succeeds changes them. -/
def Settings.after (m : Settings ν) (fold : CString → ν) (req : Request) (hr : HRESULT) : Settings ν :=
  match req.update fold with
  | some u => if hr = sOk then m.set u else m
  | none   => m

/-- The calls with their responses are those of the map: every read returns what the last successful calls left
    in its cell. -/
def Settings.Explains (fold : CString → ν) : Settings ν → List (Request × Response) → Prop
  | _, []                    => True
  | m, (req, response) :: es =>
    (∀ expected, m.response fold req = some expected → response = expected) ∧
      Explains fold (m.after fold req response.hr) es

/-! ## The settings of a registry -/

def Registry.settings (registry : Registry ν) : Settings ν := registry.value

section Store

variable {store : RegConfigStore} {registry : Registry ν} {scope : Scope} {group name : ν}

theorem Registry.settings_set (u : Update ν) (h : (registry u.scope u.group).isSome) :
    (registry.set u.scope u.group u.name u.value).settings = registry.settings.set u := by
  obtain ⟨values, hvalues⟩ := Option.isSome_iff_exists.mp h
  funext scope group name
  rw [Settings.set, Registry.settings, Registry.settings, Registry.value, Registry.value, Registry.set]
  by_cases hscope : scope = u.scope
  · subst hscope
    by_cases hgroup : group = u.group
    · subst hgroup
      by_cases hname : name = u.name
      · subst hname
        simp [hvalues]
      · simp [hvalues, hname]
    · simp [hgroup]
  · simp [hscope]

/-- A group that is created is empty. -/
theorem Registry.settings_create (h : registry scope group = none) :
    Registry.settings (Function.update registry scope (Function.update (registry scope) group (some fun _ => none))) =
      registry.settings := by
  funext scope' group' name'
  rw [Registry.settings, Registry.settings, Registry.value, Registry.value]
  by_cases hscope : scope' = scope
  · subst hscope
    by_cases hgroup : group' = group
    · subst hgroup
      simp [h]
    · simp [hgroup]
  · simp [hscope]

theorem hresultFromWin32_accessDenied : hresultFromWin32 errorAccessDenied = eAccessdenied := by decide

theorem eAccessdenied_ne_sOk : eAccessdenied ≠ sOk := by decide

theorem errorAccessDenied_ne_zero : errorAccessDenied ≠ 0#32 := by decide

theorem errorAccessDenied_ne_fileNotFound : errorAccessDenied ≠ errorFileNotFound := by decide

/-! ## Writes and deletions -/

/-- A group that is opened or created changes no setting. -/
theorem regCreateKeyEx_cases (registry : Registry ν) (scope : Scope) (baseAccess : DWORD) (group : ν)
    (access : DWORD) :
    regCreateKeyEx registry scope baseAccess group access = (.error errorAccessDenied, registry) ∨
      ∃ registry', regCreateKeyEx registry scope baseAccess group access = (.ok ⟨scope, group, access⟩, registry') ∧
        registry'.settings = registry.settings ∧ (registry' scope group).isSome := by
  rw [regCreateKeyEx, regOpenKeyEx]
  cases hgroup : registry scope group with
  | none =>
      by_cases hright : (access = 0#32 || !flagOn baseAccess keyCreateSubKey) = true
      · exact Or.inl (by simp [hright])
      · exact Or.inr ⟨_, by simp [hright], Registry.settings_create hgroup, by simp⟩
  | some values =>
      by_cases haccess : access = 0#32
      · exact Or.inl (by simp [haccess])
      · exact Or.inr ⟨registry, by simp [haccess], rfl, by simp [hgroup]⟩

theorem regSetValueEx_cases (key : SubKey ν) (h : (registry key.scope key.group).isSome) (name : ν) (value : Value) :
    regSetValueEx registry key name value = (errorAccessDenied, registry) ∨
      ∃ registry', regSetValueEx registry key name value = (0#32, registry') ∧
        registry'.settings = registry.settings.set ⟨key.scope, key.group, name, some value⟩ := by
  rw [regSetValueEx]
  cases flagOn key.access keySetValue with
  | false => exact Or.inl rfl
  | true  => exact Or.inr ⟨_, rfl, Registry.settings_set ⟨key.scope, key.group, name, some value⟩ h⟩

/-- **A write changes its cell, or nothing.** -/
theorem writeSettingInSingleScope_settings (store : RegConfigStore) (registry : Registry ν) (u : Update ν)
    {value : Value} (hvalue : u.value = some value) :
    (writeSettingInSingleScope store registry u.group u.name u.scope value).2.settings =
      if (writeSettingInSingleScope store registry u.group u.name u.scope value).1 = sOk then registry.settings.set u
      else registry.settings := by
  rw [writeSettingInSingleScope]
  cases store.keyOpen u.scope with
  | false => rfl
  | true  =>
      rcases regCreateKeyEx_cases registry u.scope (store.keyAccessMask u.scope) u.group
        (store.keyAccessMask u.scope &&& keyWrite) with hcreate | ⟨registry₁, hcreate, hsettings, hgroup⟩
      · simp [hcreate, hresultFromWin32_accessDenied, eAccessdenied_ne_sOk]
      · rcases regSetValueEx_cases ⟨u.scope, u.group, store.keyAccessMask u.scope &&& keyWrite⟩ hgroup u.name
          value with hset | ⟨registry₂, hset, hsettings₂⟩
        · simp only [hcreate, hset, Bool.not_true, Bool.false_eq_true, if_false, if_pos errorAccessDenied_ne_zero,
            hresultFromWin32_accessDenied, if_neg eAccessdenied_ne_sOk, hsettings]
        · simp only [hcreate, hset, Bool.not_true, Bool.false_eq_true, if_false, ne_eq, not_true_eq_false, if_true,
            hsettings₂, hsettings, ← hvalue]

theorem regDeleteValue_cases (key : SubKey ν) (h : (registry key.scope key.group).isSome) (name : ν) :
    (∃ res, regDeleteValue registry key name = (res, registry) ∧ (res = errorAccessDenied ∨ res = errorFileNotFound)) ∨
      ∃ registry', regDeleteValue registry key name = (0#32, registry') ∧
        registry'.settings = registry.settings.set ⟨key.scope, key.group, name, none⟩ := by
  rw [regDeleteValue]
  cases flagOn key.access keySetValue with
  | false => exact Or.inl ⟨_, rfl, Or.inl rfl⟩
  | true  =>
      cases hvalue : registry.value key.scope key.group name with
      | none       => exact Or.inl ⟨_, rfl, Or.inr rfl⟩
      | some value => exact Or.inr ⟨_, rfl, Registry.settings_set ⟨key.scope, key.group, name, none⟩ h⟩

/-- **A deletion empties its cell, or changes nothing.** -/
theorem deleteSettingInSingleScope_settings (store : RegConfigStore) (registry : Registry ν) (u : Update ν)
    (hvalue : u.value = none) :
    (deleteSettingInSingleScope store registry u.group u.name u.scope).2.settings =
      if (deleteSettingInSingleScope store registry u.group u.name u.scope).1 = sOk then registry.settings.set u
      else registry.settings := by
  have hnotFound : eSettingNotFound ≠ sOk := by decide
  rw [deleteSettingInSingleScope, regOpenKeyEx]
  cases store.keyOpen u.scope with
  | false => rfl
  | true  =>
      cases hgroup : registry u.scope u.group with
      | none        => simp [hnotFound]
      | some values =>
          by_cases haccess : store.keyAccessMask u.scope &&& keySetValue = 0#32
          · simp [haccess, errorAccessDenied_ne_fileNotFound, hresultFromWin32_accessDenied, eAccessdenied_ne_sOk]
          · rcases regDeleteValue_cases ⟨u.scope, u.group, store.keyAccessMask u.scope &&& keySetValue⟩
              (by simp [hgroup] : (registry u.scope u.group).isSome) u.name with
              ⟨res, hdelete, hres⟩ | ⟨registry', hdelete, hsettings⟩
            · rcases hres with rfl | rfl
              · simp [haccess, hdelete, errorAccessDenied_ne_fileNotFound, errorAccessDenied_ne_zero,
                  hresultFromWin32_accessDenied, eAccessdenied_ne_sOk]
              · simp [haccess, hdelete, hnotFound]
            · have hzero : 0#32 ≠ errorFileNotFound := by decide
              simp [haccess, hdelete, hsettings, hzero, ← hvalue]

/-! ## Reads -/

/-- A read of the group's settings in a scope is possible: the key was opened, and for reading if there is
    a group. -/
def RegConfigStore.Reads (store : RegConfigStore) (registry : Registry ν) (group : ν) (scope : Scope) : Prop :=
  store.keyOpen scope = true ∧
    ((registry scope group).isSome → flagOn (store.keyAccessMask scope) keyQueryValue = true)

instance (store : RegConfigStore) (registry : Registry ν) (group : ν) (scope : Scope) :
    Decidable (store.Reads registry group scope) :=
  inferInstanceAs (Decidable (_ ∧ (_ → _)))

/-- What a lookup in a scope that can be read returns: the size is compared before the type. -/
def lookupValue (expected : DataType) (bufferLen : Nat) : Option Value → Response
  | none       => { hr := eSettingNotFound }
  | some value =>
    if bufferLen < value.size then { hr := eBufferTooSmall, actualLen := some value.size }
    else if value.type ≠ expected then { hr := eSettingMismatch }
    else { hr := sOk, value := some value, actualLen := some value.size }

theorem flagOn_keyRead (mask : DWORD) : flagOn (mask &&& keyRead) keyQueryValue = flagOn mask keyQueryValue := by
  rw [flagOn, flagOn, BitVec.and_assoc]
  rfl

omit [DecidableEq ν] in
theorem readSettingInSingleScope_eq (store : RegConfigStore) (registry : Registry ν) (group name : ν) (scope : Scope)
    (expected : DataType) (bufferLen : Nat) :
    readSettingInSingleScope store registry group name scope expected bufferLen =
      if store.Reads registry group scope then lookupValue expected bufferLen (registry.settings scope group name)
      else { hr := eAccessdenied } := by
  rw [readSettingInSingleScope, regOpenKeyEx, Registry.settings]
  cases hopen : store.keyOpen scope with
  | false => simp [RegConfigStore.Reads, hopen]
  | true  =>
      cases hgroup : registry scope group with
      | none        => simp [RegConfigStore.Reads, hopen, Registry.value, hgroup, lookupValue]
      | some values =>
          cases hquery : flagOn (store.keyAccessMask scope) keyQueryValue with
          | false =>
              have hreads : ¬ store.Reads registry group scope := by simp [RegConfigStore.Reads, hgroup, hquery]
              by_cases haccess : store.keyAccessMask scope &&& keyRead = 0#32
              · simp [hreads, haccess, errorAccessDenied_ne_fileNotFound, hresultFromWin32_accessDenied]
              · simp [hreads, haccess, regQueryValueEx, flagOn_keyRead, hquery, errorAccessDenied_ne_fileNotFound,
                  hresultFromWin32_accessDenied]
          | true =>
              have hreads : store.Reads registry group scope := by simp [RegConfigStore.Reads, hopen, hquery]
              have haccess : store.keyAccessMask scope &&& keyRead ≠ 0#32 := by
                intro hzero
                have hfalse := flagOn_keyRead (store.keyAccessMask scope)
                rw [hzero, hquery] at hfalse
                cases hfalse
              cases hvalue : registry.value scope group name with
              | none => simp [hreads, haccess, regQueryValueEx, flagOn_keyRead, hquery, hvalue, lookupValue]
              | some value =>
                  by_cases hsize : bufferLen < value.size
                  · simp [hreads, haccess, regQueryValueEx, flagOn_keyRead, hquery, hvalue, lookupValue, hsize]
                  · simp [hreads, haccess, regQueryValueEx, flagOn_keyRead, hquery, hvalue, lookupValue, hsize]

/-- The scope is looked at: the global one only if the user's is not asked for, or has no setting. -/
def Settings.Consults (m : Settings ν) (scope : DWORD) (group name : ν) : Scope → Prop
  | .user   => scopeHas scope .user = true
  | .global => scopeHas scope .global = true ∧ (scopeHas scope .user = true → m .user group name = none)

/-- Every scope that is looked at can be read. -/
def RegConfigStore.Readable (store : RegConfigStore) (registry : Registry ν) (scope : DWORD) (group name : ν) : Prop :=
  ∀ s, registry.settings.Consults scope group name s → store.Reads registry group s

/-- The lookup of a setting that is there is never the reason to look elsewhere. -/
theorem lookupValue_some (expected : DataType) (bufferLen : Nat) (value : Value) :
    (lookupValue expected bufferLen (some value)).hr ≠ eSettingNotFound ∧
      (failed (lookupValue expected bufferLen (some value)).hr = true ∨
        (lookupValue expected bufferLen (some value)).hr = sOk) := by
  rw [lookupValue]
  split
  · exact ⟨(by decide : eBufferTooSmall ≠ eSettingNotFound), Or.inl failed_eBufferTooSmall⟩
  · split
    · exact ⟨(by decide : eSettingMismatch ≠ eSettingNotFound), Or.inl failed_eSettingMismatch⟩
    · exact ⟨(by decide : sOk ≠ eSettingNotFound), Or.inr rfl⟩

/-- A read that is right never denies access. -/
theorem answer_ne_accessDenied (expected : DataType) (bufferLen : Nat) (value : Option Value) :
    (Settings.answer expected bufferLen value).hr ≠ eAccessdenied := by
  cases value with
  | none       => exact (by decide : eSettingNotFound ≠ eAccessdenied)
  | some value =>
      rw [Settings.answer]
      split
      · exact (by decide : eSettingMismatch ≠ eAccessdenied)
      · split
        · exact (by decide : sOk ≠ eAccessdenied)
        · exact (by decide : eBufferTooSmall ≠ eAccessdenied)

section Effective

variable {scope : DWORD} {expected : DataType} {bufferLen : Nat}

omit [DecidableEq ν] in
/-- **A read finds the effective setting**, if the scopes that it looks at can be read. -/
theorem readSetting_of_readable (h : store.Readable registry scope group name) :
    readSetting store registry group name scope expected bufferLen =
      lookupValue expected bufferLen (registry.settings.effective scope group name) := by
  rw [readSetting, Settings.effective]
  cases huser : scopeHas scope .user with
  | false =>
      cases hglobal : scopeHas scope .global with
      | false => simp [lookupValue]
      | true  =>
          have hreads := h .global ⟨hglobal, by simp [huser]⟩
          simp [readSettingInSingleScope_eq, hreads]
  | true =>
      have hreads := h .user huser
      simp only [readSettingInSingleScope_eq, if_pos hreads, if_true]
      cases hvalue : registry.settings .user group name with
      | none =>
          have hfailed : failed (lookupValue expected bufferLen none).hr = true := failed_eSettingNotFound
          simp only [succeeded_eq_not_failed, hfailed, Bool.not_true, Bool.false_eq_true, if_false, Option.none_or]
          rw [if_pos (by rfl : (lookupValue expected bufferLen none).hr = eSettingNotFound)]
          cases hglobal : scopeHas scope .global with
          | false => simp [lookupValue]
          | true  => simp [h .global ⟨hglobal, fun _ => hvalue⟩]
      | some value =>
          obtain ⟨hne, hresult⟩ := lookupValue_some expected bufferLen value
          rw [Option.some_or]
          rcases hresult with hfailed | hok
          · simp [hfailed, hne]
          · rw [hok, if_pos (by rfl), ← hok]

omit [DecidableEq ν] in
/-- Otherwise access is denied. -/
theorem readSetting_of_not_readable (h : ¬ store.Readable registry scope group name) :
    readSetting store registry group name scope expected bufferLen = { hr := eAccessdenied } := by
  have hdenied : eAccessdenied ≠ eSettingNotFound := by decide
  obtain ⟨s, hconsults, hreads⟩ : ∃ s, registry.settings.Consults scope group name s ∧ ¬ store.Reads registry group s := by
    simpa [RegConfigStore.Readable] using h
  rw [readSetting]
  cases s with
  | user => simp [show scopeHas scope .user = true from hconsults, readSettingInSingleScope_eq, hreads, hdenied]
  | global =>
      obtain ⟨hglobal, huser⟩ := hconsults
      cases hhas : scopeHas scope .user with
      | false => simp [hglobal, readSettingInSingleScope_eq, hreads]
      | true  =>
          by_cases huserReads : store.Reads registry group .user
          · simp [hglobal, readSettingInSingleScope_eq, hreads, huserReads, huser hhas, lookupValue]
          · simp [readSettingInSingleScope_eq, huserReads, hdenied]

/-- The size does not matter for a value of another type exactly if the value fits. -/
theorem lookupValue_eq_answer_iff (value : Option Value) :
    lookupValue expected bufferLen value = Settings.answer expected bufferLen value ↔
      ∀ v, value = some v → v.type ≠ expected → v.size ≤ bufferLen := by
  have hcodes : eBufferTooSmall ≠ eSettingMismatch := by decide
  cases value with
  | none       => simp [lookupValue, Settings.answer]
  | some value =>
      rw [lookupValue, Settings.answer]
      by_cases htype : value.type = expected
      · by_cases hsize : bufferLen < value.size
        · simp [htype, hsize, Nat.not_le.mpr hsize]
        · simp [htype, hsize, Nat.not_lt.mp hsize]
      · by_cases hsize : bufferLen < value.size
        · simp [htype, hsize, hcodes, Nat.not_le.mpr hsize]
        · simp [htype, hsize, Nat.not_lt.mp hsize]

/-- The size of a `DWORD` is compared to find other types. -/
theorem lookupValue_dword (value : Option Value) :
    (if (lookupValue .regDword 4 value).hr = eBufferTooSmall then { hr := eSettingMismatch }
     else { lookupValue .regDword 4 value with actualLen := none }) =
      { Settings.answer .regDword 4 value with actualLen := none } := by
  have hcodes : eSettingNotFound ≠ eBufferTooSmall ∧ eSettingMismatch ≠ eBufferTooSmall ∧ sOk ≠ eBufferTooSmall := by
    decide
  obtain ⟨h1, h2, h3⟩ := hcodes
  cases value with
  | none       => simp [lookupValue, Settings.answer, h1]
  | some value =>
      by_cases htype : value.type = .regDword
      · have hsize : value.size = 4 := by
          cases value with
          | dword value => rfl
          | sz chars | multiSz chars | other type bytes => cases htype
        simp [lookupValue, Settings.answer, htype, hsize, h3]
      · by_cases hsize : 4 < value.size
        · simp [lookupValue, Settings.answer, htype, hsize]
        · simp [lookupValue, Settings.answer, htype, hsize, h2]

end Effective

/-! ## Calls -/

/-- A read of text is clear: the scopes that it looks at can be read, and a value of another type fits. -/
def Settings.ClearText (store : RegConfigStore) (registry : Registry ν) (fold : CString → ν) (expected : DataType)
    (group name : CString) (scope : DWORD) (size : Nat) : Prop :=
  ∀ c, cell fold group name = some c →
    (!isValidScope scope || size == 0 || maxRegValueCch < size) = false →
    store.Readable registry scope c.1 c.2 ∧
      ∀ v, registry.settings.effective scope c.1 c.2 = some v → v.type ≠ expected → v.size ≤ size * 2

/-- **When a call does what it does on the map.** A multistring has to be small enough for its size in bytes to be
    a `DWORD`. -/
def Request.Clear (store : RegConfigStore) (fold : CString → ν) (registry : Registry ν) : Request → Prop
  | .readDword group name scope =>
    ∀ c, cell fold group name = some c → isValidScope scope = true → store.Readable registry scope c.1 c.2
  | .readString group name scope size      => Settings.ClearText store registry fold .regSz group name scope size
  | .readMultiString group name scope size => Settings.ClearText store registry fold .regMultiSz group name scope size
  | .writeMultiString _ _ _ value          => 2 * (multiText value).length < 2 ^ 32
  | .writeDword _ _ _ _ | .writeString _ _ _ _ | .delete _ _ _ => True

omit [DecidableEq ν] in
theorem readTextSetting_iff (store : RegConfigStore) (registry : Registry ν) (fold : CString → ν) (expected : DataType)
    (group name : CString) (scope : DWORD) (size : Nat) :
    (readTextSetting store registry fold expected group name scope size =
      match cell fold group name with
      | none               => { hr := eInvalidarg }
      | some (group, name) => registry.settings.answerText expected group name scope size) ↔
      Settings.ClearText store registry fold expected group name scope size := by
  rw [readTextSetting, Settings.ClearText]
  cases hcell : cell fold group name with
  | none   => simp
  | some c =>
      obtain ⟨g, n⟩ := c
      cases hvalid : (!isValidScope scope || size == 0 || decide (maxRegValueCch < size)) with
      | true  => simp [Settings.answerText, hvalid]
      | false =>
          simp only [Settings.answerText, hvalid, Bool.false_eq_true, if_false, Option.some.injEq, forall_eq', forall_true_left]
          by_cases hreadable : store.Readable registry scope g n
          · rw [readSetting_of_readable hreadable, lookupValue_eq_answer_iff]
            exact (and_iff_right hreadable).symm
          · rw [readSetting_of_not_readable hreadable]
            refine iff_of_false ?_ (fun h => hreadable h.1)
            intro heq
            exact answer_ne_accessDenied _ _ _ (congrArg Response.hr heq).symm

omit [DecidableEq ν] in
theorem readDwordSetting_iff (store : RegConfigStore) (registry : Registry ν) (fold : CString → ν)
    (group name : CString) (scope : DWORD) :
    (some (readDwordSetting store registry fold group name scope) =
      registry.settings.response fold (.readDword group name scope)) ↔
      Request.Clear store fold registry (.readDword group name scope) := by
  have hcodes : eAccessdenied ≠ eBufferTooSmall := by decide
  rw [readDwordSetting, Settings.response, Request.Clear, Option.some.injEq]
  cases hcell : cell fold group name with
  | none   => simp
  | some c =>
      obtain ⟨g, n⟩ := c
      cases hvalid : isValidScope scope with
      | false => simp
      | true  =>
          simp only [Bool.not_true, Bool.false_eq_true, if_false, Option.some.injEq, forall_eq', forall_true_left]
          by_cases hreadable : store.Readable registry scope g n
          · rw [readSetting_of_readable hreadable, lookupValue_dword]
            exact iff_of_true rfl hreadable
          · rw [readSetting_of_not_readable hreadable, if_neg hcodes]
            refine iff_of_false ?_ hreadable
            intro heq
            exact answer_ne_accessDenied _ _ _ (congrArg Response.hr heq).symm

/-- **A read returns what it does on the map** exactly if it is clear. -/
theorem response_iff (store : RegConfigStore) (registry : Registry ν) (fold : CString → ν) {req : Request}
    {expected : Response} (h : registry.settings.response fold req = some expected) :
    (request store registry fold req).1 = expected ↔ req.Clear store fold registry := by
  cases req with
  | readDword group name scope =>
      rw [← readDwordSetting_iff, h, Option.some.injEq]
      rfl
  | readString group name scope size =>
      rw [Request.Clear, ← readTextSetting_iff, ← Option.some.inj h]
      rfl
  | readMultiString group name scope size =>
      rw [Request.Clear, ← readTextSetting_iff, ← Option.some.inj h]
      rfl
  | writeDword group name scope value | writeString group name scope value | writeMultiString group name scope value
  | delete group name scope => cases h

/-- All of a text that is small enough is stored. -/
theorem cutAt_eq {data : List WCHAR} (more : List WCHAR) (h : 2 * data.length < 2 ^ 32) :
    cutAt (data.length * 2) (data ++ more) = data := by
  rw [cutAt, Nat.mod_eq_of_lt (by omega), Nat.mul_div_cancel _ (by decide), List.take_left']
  rfl

/-- The loop over a multistring finds the end of its text. -/
theorem multiStringLength_spec {value : List CString} {total : Nat} (h : multiStringLength value = some total) :
    total = (multiText value).length ∧ ∃ more, multiMemory value = multiText value ++ more := by
  induction value generalizing total with
  | nil =>
      obtain rfl : 1 = total := Option.some.inj h
      exact ⟨rfl, [], rfl⟩
  | cons element elements ih =>
      have hmemory : multiMemory (element :: elements) = element.memory ++ multiMemory elements := by
        simp [multiMemory]
      rw [multiStringLength, stringCchLength] at h
      by_cases hlength : element.length < maxRegValueCch
      · rw [if_pos hlength] at h
        cases hzero : element.length with
        | zero =>
            simp only [hzero, Option.some.injEq] at h
            have hnil : element.chars = [] := List.eq_nil_of_length_eq_zero hzero
            refine ⟨by simp [multiText, hzero, ← h], multiMemory elements, ?_⟩
            rw [hmemory, multiText, if_pos hzero, CString.memory, hnil, List.nil_append]
        | succ n =>
            simp only [hzero] at h
            obtain ⟨rest, hrest, rfl⟩ := Option.map_eq_some_iff.mp h
            obtain ⟨hrest, more, hmore⟩ := ih hrest
            rw [multiText, if_neg (by omega), List.length_append, CString.length_memory, hmemory, hmore]
            exact ⟨by omega, more, by rw [List.append_assoc]⟩
      · rw [if_neg hlength] at h
        cases h

/-- **A call that is clear changes the settings as it does on the map.** -/
theorem request_settings (store : RegConfigStore) (registry : Registry ν) (fold : CString → ν) {req : Request}
    (h : req.Clear store fold registry) :
    (request store registry fold req).2.settings =
      registry.settings.after fold req (request store registry fold req).1.hr := by
  have hinvalid : eInvalidarg ≠ sOk := by decide
  cases req with
  | readDword group name scope | readString group name scope size | readMultiString group name scope size => rfl
  | writeDword group name scope value =>
      rw [Settings.after, Request.update, Request.update.updateFor, request, writeDwordSetting]
      cases cell fold group name with
      | none   => rfl
      | some c =>
          cases singleScope scope with
          | none   => rfl
          | some s => exact writeSettingInSingleScope_settings store registry ⟨s, c.1, c.2, _⟩ rfl
  | writeString group name scope value =>
      rw [Settings.after, Request.update, Request.update.updateFor, request, writeStringSetting]
      cases cell fold group name with
      | none   => rfl
      | some c =>
          cases singleScope scope with
          | none   => rfl
          | some s =>
              by_cases hlength : value.length < maxRegValueCch
              · have hfits : 2 * value.memory.length < 2 ^ 32 := by
                  rw [CString.length_memory]
                  simp only [maxRegValueCch] at hlength
                  omega
                have hcut := cutAt_eq [] hfits
                rw [List.append_nil, CString.length_memory] at hcut
                simp only [stringCchLength, if_pos hlength, hcut]
                exact writeSettingInSingleScope_settings store registry ⟨s, c.1, c.2, _⟩ rfl
              · simp [stringCchLength, if_neg hlength, hinvalid]
  | writeMultiString group name scope value =>
      rw [Settings.after, Request.update, Request.update.updateFor, request, writeMultiStringSetting]
      cases cell fold group name with
      | none   => rfl
      | some c =>
          cases singleScope scope with
          | none   => rfl
          | some s =>
              cases hlength : multiStringLength value with
              | none       => simp [hinvalid]
              | some total =>
                  obtain ⟨rfl, more, hmore⟩ := multiStringLength_spec hlength
                  simp only [hmore, cutAt_eq more h]
                  exact writeSettingInSingleScope_settings store registry ⟨s, c.1, c.2, _⟩ rfl
  | delete group name scope =>
      rw [Settings.after, Request.update, Request.update.updateFor, request, deleteSetting]
      cases cell fold group name with
      | none   => rfl
      | some c =>
          cases singleScope scope with
          | none   => rfl
          | some s => exact deleteSettingInSingleScope_settings store registry ⟨s, c.1, c.2, _⟩ rfl

/-! ## Runs -/

/-- A call as a step of the registry. -/
def nextRegistry (store : RegConfigStore) (fold : CString → ν) (registry : Registry ν) (req : Request) :
    Option (Registry ν) :=
  some (request store registry fold req).2

/-- A sequence of calls with their responses. -/
def trace (store : RegConfigStore) (fold : CString → ν) : Registry ν → List Request → List (Request × Response)
  | _,        []          => []
  | registry, req :: reqs =>
    (req, (request store registry fold req).1) :: trace store fold (request store registry fold req).2 reqs

/-- **The store is a map with two levels** in every run of calls that are clear. -/
theorem explains_trace (store : RegConfigStore) (fold : CString → ν) (registry : Registry ν) (reqs : List Request)
    (h : Meets (nextRegistry store fold) (fun registry req => req.Clear store fold registry) registry reqs) :
    registry.settings.Explains fold (trace store fold registry reqs) := by
  induction reqs generalizing registry with
  | nil => exact trivial
  | cons req reqs ih =>
      refine ⟨fun expected hexpected => (response_iff store registry fold hexpected).mpr h.1, ?_⟩
      rw [← request_settings store registry fold h.1]
      exact ih _ (h.2 _ rfl)

omit [DecidableEq ν] in
/-- A store whose keys were both opened for reading can read everything. -/
theorem RegConfigStore.readable_of_opened (store : RegConfigStore) (hopen : ∀ s, store.keyOpen s = true)
    (hquery : ∀ s, flagOn (store.keyAccessMask s) keyQueryValue = true) (registry : Registry ν) (scope : DWORD)
    (group name : ν) : store.Readable registry scope group name :=
  fun s _ => ⟨hopen s, fun _ => hquery s⟩

end Store

/-! ## Created stores -/

/-- The store with the keys and rights for an access mode. -/
def storeFor (accessMode : DWORD) : RegConfigStore where
  keyOpen scope := accessMaskFor accessMode scope ≠ 0#32
  keyAccessMask := accessMaskFor accessMode

theorem createRegistryStore_ok {baseKeyName : CString} {accessMode : DWORD}
    (hname : isStringValid baseKeyName 1 maxRegNameCch false = true) (hzero : accessMode ≠ 0#32)
    (hmode : accessMode ≤ accessAll) :
    createRegistryStore baseKeyName accessMode true (fun _ => 0#32) = .ok (storeFor accessMode) := by
  have hnot : ¬ accessAll < accessMode := by
    rw [BitVec.lt_def, BitVec.le_def] at *
    omega
  simp [createRegistryStore, hname, hzero, hnot, storeFor]

def exampleName : CString := ⟨[0x41#16], by simp⟩

def noSettings : Registry CString := fun _ _ => none

/-- A store with all rights: the user's setting hides the global one until it is deleted. -/
theorem explains_allAccess :
    noSettings.settings.Explains id (trace (storeFor accessAll) id noSettings
      [.writeDword exampleName exampleName 1#32 7#32, .writeString exampleName exampleName 2#32 exampleName,
        .readDword exampleName exampleName 3#32, .delete exampleName exampleName 2#32,
        .readDword exampleName exampleName 3#32]) := by
  have hopened : ∀ s, (storeFor accessAll).keyOpen s = true := by
    intro s
    cases s <;> decide
  have hquery : ∀ s, flagOn ((storeFor accessAll).keyAccessMask s) keyQueryValue = true := by
    intro s
    cases s <;> decide
  have hreadable := RegConfigStore.readable_of_opened (ν := CString) (storeFor accessAll) hopened hquery
  apply explains_trace
  refine .cons rfl trivial (.cons rfl trivial (.cons rfl ?_ (.cons rfl trivial (.cons rfl ?_ trivial))))
  · exact fun c _ _ => hreadable _ _ _ _
  · exact fun c _ _ => hreadable _ _ _ _

/-- Only the machine's key was opened: the effective scope has no access to the setting that is there. -/
theorem not_explains_machineAccess :
    createRegistryStore exampleName (accessReadMachine ||| accessWriteMachine) true (fun _ => 0#32) =
      .ok (storeFor (accessReadMachine ||| accessWriteMachine)) ∧
    ¬ noSettings.settings.Explains id (trace (storeFor (accessReadMachine ||| accessWriteMachine)) id noSettings
      [.writeDword exampleName exampleName 1#32 7#32, .readDword exampleName exampleName 3#32]) := by
  refine ⟨createRegistryStore_ok (by decide) (by decide) (by decide), fun h => ?_⟩
  have hread := h.2.1 _ rfl
  exact absurd hread (by decide)

end Cfix.Cdiag
