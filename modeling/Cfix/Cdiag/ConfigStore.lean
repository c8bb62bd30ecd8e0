import Cfix.Cdiag.Helper

/-!
# `Cdiag.ConfigStore` — settings in the registry (`cdiag/regconfigstore.c`)

A store has a key for each of two scopes, and settings are values below a subkey for their group. The registry
is a map of the values; it compares names in the way that `fold` says. A key gives the rights it was opened with.
-/

namespace Cfix.Cdiag

/-! ## Codes -/

def errorFileNotFound : DWORD := 2#32
def errorAccessDenied : DWORD := 5#32

def keyQueryValue   : DWORD := 0x00001#32
def keySetValue     : DWORD := 0x00002#32
def keyCreateSubKey : DWORD := 0x00004#32
def keyNotify       : DWORD := 0x00010#32
def keyRead         : DWORD := 0x20019#32
def keyWrite        : DWORD := 0x20006#32

def maxSettinggroupnameCch : Nat := 32
def maxSettingnameCch      : Nat := 32

/-- `MAX_REG_VALUE_CCH`. -/
def maxRegValueCch : Nat := 1024 * 1024 / 2

def maxRegNameCch : Nat := 100

/-! ## The registry -/

/-- `CdiagGlobalScope` and `CdiagUserScope`. -/
inductive Scope where
  | global
  | user
  deriving DecidableEq, Repr

/-- The types of values. -/
inductive DataType where
  | regSz
  | regDword
  | regMultiSz
  | other (type : Nat)
  deriving DecidableEq, Repr

/-- A typed value. -/
inductive Value where
  | dword (value : DWORD)
  | sz (chars : List WCHAR)
  | multiSz (chars : List WCHAR)
  | other (type : Nat) (bytes : List (BitVec 8))
  deriving DecidableEq, Repr

def Value.type : Value → DataType
  | .dword _      => .regDword
  | .sz _         => .regSz
  | .multiSz _    => .regMultiSz
  | .other type _ => .other type

/-- The size in bytes. -/
def Value.size : Value → Nat
  | .dword _       => 4
  | .sz chars      => 2 * chars.length
  | .multiSz chars => 2 * chars.length
  | .other _ bytes => bytes.length

/-- The subkeys of the base key in each scope, with their values. `ν` are names as they are compared. -/
abbrev Registry (ν : Type) := Scope → ν → Option (ν → Option Value)

/-- `CDIAGP_REG_CONFIG_STORE`: which of `Key` are opened, and `KeyAccessMask`. -/
structure RegConfigStore where
  keyOpen       : Scope → Bool
  keyAccessMask : Scope → DWORD

/-- An opened subkey, with the rights that it gives. -/
structure SubKey (ν : Type) where
  scope  : Scope
  group  : ν
  access : DWORD

variable {ν : Type} [DecidableEq ν]

/-- `RegOpenKeyEx`, on a group. -/
def regOpenKeyEx (registry : Registry ν) (scope : Scope) (group : ν) (access : DWORD) : Except DWORD (SubKey ν) :=
  if (registry scope group).isNone then .error errorFileNotFound
  else if access = 0#32 then .error errorAccessDenied
  else .ok { scope := scope, group := group, access := access }

/-- `RegCreateKeyEx`: a group that is missing is created, if the base key gives the right to. -/
def regCreateKeyEx (registry : Registry ν) (scope : Scope) (baseAccess : DWORD) (group : ν) (access : DWORD) :
    Except DWORD (SubKey ν) × Registry ν :=
  if (registry scope group).isSome then (regOpenKeyEx registry scope group access, registry)
  else if access = 0#32 || !flagOn baseAccess keyCreateSubKey then (.error errorAccessDenied, registry)
  else
    (.ok { scope := scope, group := group, access := access },
      Function.update registry scope (Function.update (registry scope) group (some fun _ => none)))

/-- What `RegQueryValueEx` does with a buffer. -/
inductive QueryResult where
  | success (value : Value)
  | moreData (size : Nat)
  | error (code : DWORD)
  deriving DecidableEq, Repr

def Registry.value (registry : Registry ν) (scope : Scope) (group name : ν) : Option Value :=
  (registry scope group).bind fun values => values name

/-- `RegQueryValueEx`. -/
def regQueryValueEx (registry : Registry ν) (key : SubKey ν) (name : ν) (bufferLen : Nat) : QueryResult :=
  if !flagOn key.access keyQueryValue then .error errorAccessDenied
  else
    match registry.value key.scope key.group name with
    | none       => .error errorFileNotFound
    | some value => if bufferLen < value.size then .moreData value.size else .success value

/-- The registry with another value, in a group that exists. -/
def Registry.set (registry : Registry ν) (scope : Scope) (group name : ν) (value : Option Value) : Registry ν :=
  Function.update registry scope
    (Function.update (registry scope) group ((registry scope group).map fun values => Function.update values name value))

/-- `RegSetValueEx`. -/
def regSetValueEx (registry : Registry ν) (key : SubKey ν) (name : ν) (value : Value) : DWORD × Registry ν :=
  if !flagOn key.access keySetValue then (errorAccessDenied, registry)
  else (0#32, registry.set key.scope key.group name (some value))

/-- `RegDeleteValue`. -/
def regDeleteValue (registry : Registry ν) (key : SubKey ν) (name : ν) : DWORD × Registry ν :=
  if !flagOn key.access keySetValue then (errorAccessDenied, registry)
  else if (registry.value key.scope key.group name).isNone then (errorFileNotFound, registry)
  else (0#32, registry.set key.scope key.group name none)

/-! ## Single scopes -/

/-- What a method returns, with the value that is in the buffer on success and `*ActualLen` where it is set. -/
structure Response where
  hr        : HRESULT
  value     : Option Value := none
  actualLen : Option Nat := none
  deriving DecidableEq, Repr

variable (store : RegConfigStore) (registry : Registry ν)

/-- `CdiagsDeleteSettingInSingleScope`. -/
def deleteSettingInSingleScope (group name : ν) (scope : Scope) : HRESULT × Registry ν :=
  if !store.keyOpen scope then (eAccessdenied, registry)
  else
    match regOpenKeyEx registry scope group (store.keyAccessMask scope &&& keySetValue) with
    | .error res =>
      (if res = errorFileNotFound then eSettingNotFound else hresultFromWin32 res, registry)
    | .ok key =>
      let (res, registry) := regDeleteValue registry key name
      (if res = errorFileNotFound then eSettingNotFound
       else if res ≠ 0#32 then hresultFromWin32 res
       else sOk, registry)

/-- `CdiagsWriteSettingInSingleScope`. -/
def writeSettingInSingleScope (group name : ν) (scope : Scope) (value : Value) : HRESULT × Registry ν :=
  if !store.keyOpen scope then (eAccessdenied, registry)
  else
    match regCreateKeyEx registry scope (store.keyAccessMask scope) group (store.keyAccessMask scope &&& keyWrite) with
    | (.error res, registry) => (hresultFromWin32 res, registry)
    | (.ok key, registry)    =>
      let (res, registry) := regSetValueEx registry key name value
      (if res ≠ 0#32 then hresultFromWin32 res else sOk, registry)

/-- `CdiagsReadSettingInSingleScope`. -/
def readSettingInSingleScope (group name : ν) (scope : Scope) (expectedDataType : DataType) (bufferLen : Nat) :
    Response :=
  if !store.keyOpen scope then { hr := eAccessdenied }
  else
    match regOpenKeyEx registry scope group (store.keyAccessMask scope &&& keyRead) with
    | .error res =>
      { hr := if res = errorFileNotFound then eSettingNotFound else hresultFromWin32 res }
    | .ok key =>
      match regQueryValueEx registry key name bufferLen with
      | .error res     => { hr := if res = errorFileNotFound then eSettingNotFound else hresultFromWin32 res }
      | .moreData size => { hr := eBufferTooSmall, actualLen := some size }
      | .success value =>
        if value.type ≠ expectedDataType then { hr := eSettingMismatch }
        else { hr := sOk, value := some value, actualLen := some value.size }

/-! ## Scopes that are passed -/

/-- `CdiagsIsValidScope`. -/
def isValidScope (scope : DWORD) : Bool := 1#32 ≤ scope && scope ≤ 3#32

/-- `Scope & CdiagUserScope` and `Scope & CdiagGlobalScope`. -/
def scopeHas (scope : DWORD) : Scope → Bool
  | .global => flagOn scope 1#32
  | .user   => flagOn scope 2#32

/-- The scope for a write or a deletion: one of the two. -/
def singleScope (scope : DWORD) : Option Scope :=
  if scope = 2#32 then some .user else if scope = 1#32 then some .global else none

/-- `CdiagsReadSetting`. -/
def readSetting (group name : ν) (scope : DWORD) (expectedDataType : DataType) (bufferLen : Nat) : Response :=
  let global :=
    if scopeHas scope .global then readSettingInSingleScope store registry group name .global expectedDataType bufferLen
    else { hr := eSettingNotFound }
  if scopeHas scope .user then
    let response := readSettingInSingleScope store registry group name .user expectedDataType bufferLen
    -- only a setting that is not found is looked for in the global scope
    if succeeded response.hr then { response with hr := sOk }
    else if response.hr = eSettingNotFound then global
    else response
  else global

/-! ## Methods -/

/-- `CdiagsIsValidRegistryName`. -/
def isValidRegistryName (name : CString) (maxLen : Nat) : Bool :=
  !name.chars.contains 0x5C#16 && isStringValid name 1 maxLen false

/-- The names of a group and of a setting that are valid, as the registry compares them. -/
def cell (fold : CString → ν) (group name : CString) : Option (ν × ν) :=
  if isValidRegistryName group maxSettinggroupnameCch && isValidRegistryName name maxSettingnameCch then
    some (fold group, fold name)
  else none

variable (fold : CString → ν)

/-- `CdiagsReadDwordSetting`. -/
def readDwordSetting (group name : CString) (scope : DWORD) : Response :=
  match cell fold group name with
  | none               => { hr := eInvalidarg }
  | some (group, name) =>
    if !isValidScope scope then { hr := eInvalidarg }
    else
      let response := readSetting store registry group name scope .regDword 4
      -- a wrong size can only be due to a mismatched type
      if response.hr = eBufferTooSmall then { hr := eSettingMismatch } else { response with actualLen := none }

/-- `CdiagsReadStringSetting` and `CdiagsReadMultiStringSetting`, which differ in the type. -/
def readTextSetting (expectedDataType : DataType) (group name : CString) (scope : DWORD) (bufferSizeInChars : Nat) :
    Response :=
  match cell fold group name with
  | none               => { hr := eInvalidarg }
  | some (group, name) =>
    if !isValidScope scope || bufferSizeInChars == 0 || maxRegValueCch < bufferSizeInChars then { hr := eInvalidarg }
    else readSetting store registry group name scope expectedDataType (bufferSizeInChars * 2)

def readStringSetting : CString → CString → DWORD → Nat → Response :=
  readTextSetting store registry fold .regSz

def readMultiStringSetting : CString → CString → DWORD → Nat → Response :=
  readTextSetting store registry fold .regMultiSz

/-- The value that is stored from `Data`: the first `DataLen` bytes, and `DataLen` is a `DWORD`. -/
def cutAt (dataLen : Nat) (data : List WCHAR) : List WCHAR := data.take (dataLen % 2 ^ 32 / 2)

/-- `CdiagsWriteDwordSetting`. -/
def writeDwordSetting (group name : CString) (scope value : DWORD) : HRESULT × Registry ν :=
  match cell fold group name, singleScope scope with
  | some (group, name), some scope => writeSettingInSingleScope store registry group name scope (.dword value)
  | _, _                           => (eInvalidarg, registry)

/-- `CdiagsWriteStringSetting`. -/
def writeStringSetting (group name : CString) (scope : DWORD) (value : CString) : HRESULT × Registry ν :=
  match cell fold group name, singleScope scope with
  | some (group, name), some scope =>
    match stringCchLength value maxRegValueCch with
    | none     => (eInvalidarg, registry)
    | some cch => writeSettingInSingleScope store registry group name scope (.sz (cutAt ((cch + 1) * 2) value.memory))
  | _, _ => (eInvalidarg, registry)

/-- The strings of a multistring in memory; an empty one ends it. -/
def multiMemory (strings : List CString) : List WCHAR := strings.flatMap CString.memory ++ [0#16]

/-- The loop over the elements of a multistring: the total length, or `none` if an element is too long. -/
def multiStringLength : List CString → Option Nat
  | []                  => some 1
  | element :: elements =>
    match stringCchLength element maxRegValueCch with
    | none        => none
    | some 0      => some 1
    | some length => (multiStringLength elements).map (length + 1 + ·)

/-- `CdiagsWriteMultiStringSetting`. -/
def writeMultiStringSetting (group name : CString) (scope : DWORD) (value : List CString) : HRESULT × Registry ν :=
  match cell fold group name, singleScope scope with
  | some (group, name), some scope =>
    match multiStringLength value with
    | none       => (eInvalidarg, registry)
    | some total =>
      writeSettingInSingleScope store registry group name scope (.multiSz (cutAt (total * 2) (multiMemory value)))
  | _, _ => (eInvalidarg, registry)

/-- `CdiagsDeleteSetting`. -/
def deleteSetting (group name : CString) (scope : DWORD) : HRESULT × Registry ν :=
  match cell fold group name, singleScope scope with
  | some (group, name), some scope => deleteSettingInSingleScope store registry group name scope
  | _, _                           => (eInvalidarg, registry)

/-! ## Creation -/

def accessReadUser     : DWORD := 0x1#32
def accessWriteUser    : DWORD := 0x2#32
def accessReadMachine  : DWORD := 0x4#32
def accessWriteMachine : DWORD := 0x8#32
def accessAll          : DWORD := 0xF#32

/-- The rights that a base key is opened with. -/
def accessMaskFor (accessMode : DWORD) : Scope → DWORD
  | .user =>
    (if flagOn accessMode accessReadUser then keyRead else 0#32) |||
      if flagOn accessMode accessWriteUser then keyWrite ||| keyNotify else 0#32
  | .global =>
    (if flagOn accessMode accessReadMachine then keyRead else 0#32) |||
      if flagOn accessMode accessWriteMachine then keyWrite ||| keyNotify else 0#32

/-- `CdiagCreateRegistryStore`: `create` is what `RegCreateKeyEx` returns for the base key of a scope. -/
def createRegistryStore (baseKeyName : CString) (accessMode : DWORD) (memory : Bool) (create : Scope → DWORD) :
    Except HRESULT RegConfigStore :=
  if !isStringValid baseKeyName 1 maxRegNameCch false || accessMode = 0#32 || accessAll < accessMode then
    .error eInvalidarg
  else if !memory then .error eOutofmemory
  else
    let mask := accessMaskFor accessMode
    -- a key that nothing is to be done with is not opened
    if mask .global ≠ 0#32 ∧ create .global ≠ 0#32 then .error (hresultFromWin32 (create .global))
    else if mask .user ≠ 0#32 ∧ create .user ≠ 0#32 then .error (hresultFromWin32 (create .user))
    else .ok { keyOpen := fun scope => mask scope ≠ 0#32, keyAccessMask := mask }

/-! ## Calls -/

/-- A call of a method, with its arguments. -/
inductive Request where
  | readDword (group name : CString) (scope : DWORD)
  | readString (group name : CString) (scope : DWORD) (bufferSizeInChars : Nat)
  | readMultiString (group name : CString) (scope : DWORD) (bufferSizeInChars : Nat)
  | writeDword (group name : CString) (scope value : DWORD)
  | writeString (group name : CString) (scope : DWORD) (value : CString)
  | writeMultiString (group name : CString) (scope : DWORD) (value : List CString)
  | delete (group name : CString) (scope : DWORD)
  deriving DecidableEq

/-- A call, and the registry after it. -/
def request : Request → Response × Registry ν
  | .readDword group name scope => (readDwordSetting store registry fold group name scope, registry)
  | .readString group name scope size => (readStringSetting store registry fold group name scope size, registry)
  | .readMultiString group name scope size =>
    (readMultiStringSetting store registry fold group name scope size, registry)
  | .writeDword group name scope value =>
    let (hr, registry) := writeDwordSetting store registry fold group name scope value
    ({ hr := hr }, registry)
  | .writeString group name scope value =>
    let (hr, registry) := writeStringSetting store registry fold group name scope value
    ({ hr := hr }, registry)
  | .writeMultiString group name scope value =>
    let (hr, registry) := writeMultiStringSetting store registry fold group name scope value
    ({ hr := hr }, registry)
  | .delete group name scope =>
    let (hr, registry) := deleteSetting store registry fold group name scope
    ({ hr := hr }, registry)

end Cfix.Cdiag
