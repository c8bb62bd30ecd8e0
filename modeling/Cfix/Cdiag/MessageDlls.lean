import Cfix.Cdiag.Helper
import Cfix.Lib.Transition

/-!
# `Cdiag.MessageDlls` — the registered DLLs of a message resolver (`cdiag/msgresolver.c`)

A resolver keeps a list of DLLs that it loaded, under their names. A DLL that is registered by its path is stored
under the base name, but it is looked up under the path: only where the two lookups agree are the names distinct.
-/

namespace Cfix.Cdiag.MsgResolver

open Transition

def eDllNotRegistered  : HRESULT := 0x80048103#32
def eUnknownMessage    : HRESULT := 0x80048104#32
def eAlreadyRegistered : HRESULT := 0x80048105#32

def maxPath    : Nat := 260
def maxDllname : Nat := 64

/-- `CDIAG_MSGRES_REGISTER_EXPLICIT_PATH`. -/
def registerExplicitPath : DWORD := 1#32

/-! ## The C runtime and the shell -/

/-- What the functions use of the system: the case mapping of `_wcsicmp`, and `PathStripPath`. -/
structure System where
  lower         : WCHAR → WCHAR
  pathStripPath : CString → CString

/-- `0 == _wcsicmp( … )`. -/
def System.wcsicmp (sys : System) (a b : CString) : Bool := a.chars.map sys.lower == b.chars.map sys.lower

/-- `StringCchCopy` into a buffer of `size` characters. -/
def copyString (size : Nat) (s : CString) : Except HRESULT CString :=
  if s.length < size then .ok s else .error strsafeEInsufficientBuffer

/-! ## The list -/

abbrev HMODULE := Nat

/-- `REGISTERED_DLL`. `linked` says that both of its links are set. -/
structure RegisteredDll where
  name   : CString
  module : Option HMODULE
  linked : Bool
  deriving DecidableEq

/-- Calls to the system. -/
inductive SystemCall where
  | loadLibrary (m : HMODULE)
  | freeLibrary (m : HMODULE)
  | enterCriticalSection
  | leaveCriticalSection
  deriving DecidableEq, Repr

/-- `CDIAGP_RESOLVER`, and the calls that it has made. -/
structure Resolver where
  registeredDlls : List RegisteredDll
  log            : List SystemCall
  deriving DecidableEq

/-- `CdiagCreateMessageResolver`. -/
def Resolver.created : Resolver where
  registeredDlls := []
  log            := []

def Resolver.emit (r : Resolver) (call : SystemCall) : Resolver := { r with log := r.log ++ [call] }

@[simp] theorem Resolver.registeredDlls_emit (r : Resolver) (call : SystemCall) :
    (r.emit call).registeredDlls = r.registeredDlls := rfl

@[simp] theorem Resolver.log_emit (r : Resolver) (call : SystemCall) : (r.emit call).log = r.log ++ [call] := rfl

/-- The load count that the resolver has added to a module. -/
def Resolver.loadCount (r : Resolver) (m : HMODULE) : Int :=
  r.log.count (.loadLibrary m) - r.log.count (.freeLibrary m)

/-- `CdiagsFindRegisteredDll`. -/
def findRegisteredDll (sys : System) (name : CString) (registeredDlls : List RegisteredDll) : Option RegisteredDll :=
  registeredDlls.find? fun regDll => sys.wcsicmp name regDll.name

/-- `CdiagsDeleteRegisteredDllEntry`. -/
def deleteRegisteredDllEntry (r : Resolver) (regDll : RegisteredDll) : Resolver :=
  let r := match regDll.module with
    | some m => r.emit (.freeLibrary m)
    | none   => r
  if regDll.linked then { r with registeredDlls := r.registeredDlls.erase regDll } else r

/-! ## Registering and unregistering -/

/-- The parameters of `CdiagsRegisterMessageDll`, and how the allocation and the load that it does come out. -/
structure Registration where
  name     : Option CString
  flags    : DWORD
  priority : DWORD
  malloc   : Bool
  load     : Except DWORD HMODULE

/-- `CdiagpIsStringValid` of a pointer. -/
def isNameValid (name : Option CString) (minLengthInclusive maxLengthInclusive : Nat) : Bool :=
  match name with
  | some s => isStringValid s minLengthInclusive maxLengthInclusive false
  | none   => false

def Registration.isValid (g : Registration) : Bool :=
  isNameValid g.name 5 maxPath && (g.flags == 0#32 || g.flags == registerExplicitPath) && g.priority == 0#32

/-- The name under which the DLL is going to be stored. -/
def storedName (sys : System) (name : CString) (flags : DWORD) : Except HRESULT CString :=
  if flagOn flags registerExplicitPath then
    match copyString maxPath name with
    | .error hr    => .error hr
    | .ok tmpName  => copyString maxDllname (sys.pathStripPath tmpName)
  else copyString maxDllname name

/-- `CdiagsRegisterMessageDll`. -/
def registerMessageDll (sys : System) (r : Resolver) (g : Registration) : HRESULT × Resolver :=
  match g.name with
  | none      => (eInvalidarg, r)
  | some name =>
    if !g.isValid then (eInvalidarg, r)
    else if !g.malloc then (eOutofmemory, r)
    else
      match storedName sys name g.flags with
      | .error hr => (hr, deleteRegisteredDllEntry r ⟨name, none, false⟩)
      | .ok stored =>
        match g.load with
        | .error err =>
          let hr := hresultFromWin32 err
          (hr, if failed hr then deleteRegisteredDllEntry r ⟨stored, none, false⟩ else r)
        | .ok m =>
          let r := (r.emit (.loadLibrary m)).emit .enterCriticalSection
          -- the search is for the name of the call, not for the stored one
          match findRegisteredDll sys name r.registeredDlls with
          | some _ => (eAlreadyRegistered, deleteRegisteredDllEntry (r.emit .leaveCriticalSection) ⟨stored, some m, false⟩)
          | none   =>
            let r := { r with registeredDlls := r.registeredDlls ++ [RegisteredDll.mk stored (some m) true] }
            (sOk, r.emit .leaveCriticalSection)

/-- `CdiagsUnregisterMessageDll`. -/
def unregisterMessageDll (sys : System) (r : Resolver) (name : Option CString) : HRESULT × Resolver :=
  match name with
  | none   => (eInvalidarg, r)
  | some s =>
    if !isNameValid name 5 (maxDllname - 1) then (eInvalidarg, r)
    else
      let r := r.emit .enterCriticalSection
      match findRegisteredDll sys s r.registeredDlls with
      | none        => (eDllNotRegistered, r.emit .leaveCriticalSection)
      | some regDll => (sOk, (deleteRegisteredDllEntry r regDll).emit .leaveCriticalSection)

/-- `CdiagsDeleteResolver`, up to the memory of the resolver itself. -/
def deleteResolver (r : Resolver) : Resolver :=
  (r.registeredDlls.foldl deleteRegisteredDllEntry (r.emit .enterCriticalSection)).emit .leaveCriticalSection

inductive Call where
  | register (g : Registration)
  | unregister (name : Option CString)

def step (sys : System) (r : Resolver) : Call → HRESULT × Resolver
  | .register g      => registerMessageDll sys r g
  | .unregister name => unregisterMessageDll sys r name

def next (sys : System) (r : Resolver) (c : Call) : Option Resolver := some (step sys r c).2

/-! ## What is expected of the registry -/

section

variable (sys : System) (r : Resolver)

/-- A DLL is stored under the name, ignoring case. -/
def IsStored (name : CString) : Prop := ∃ d ∈ r.registeredDlls, sys.wcsicmp name d.name = true

/-- The call gets to the list: its parameters are valid, the names fit and the DLL is loaded. -/
structure Loaded (g : Registration) (name stored : CString) (m : HMODULE) : Prop where
  given  : g.name = some name
  valid  : g.isValid = true
  malloc : g.malloc = true
  fits   : storedName sys name g.flags = .ok stored
  load   : g.load = .ok m

/-- The stored names are distinct, each is good for unregistering its DLL, and every module that was loaded was
    freed once or is still stored. -/
structure Registry : Prop where
  distinct     : r.registeredDlls.Pairwise fun a b => sys.wcsicmp a.name b.name = false
  unregistered : ∀ d ∈ r.registeredDlls, ∃ m, d.module = some m ∧
    unregisterMessageDll sys r (some d.name) =
      (sOk, { registeredDlls := r.registeredDlls.erase d,
              log := r.log ++ [.enterCriticalSection, .freeLibrary m, .leaveCriticalSection] })
  matched      : ∀ m, r.log.count (.loadLibrary m) =
    r.log.count (.freeLibrary m) + r.registeredDlls.countP (·.module == some m)

/-- `CDIAG_E_ALREADY_REGISTERED` for a name that is stored; list and load counts stay in any case. -/
def Refuses : Call → Prop
  | .register g      => ∀ name, g.name = some name →
      IsStored sys r (if flagOn g.flags registerExplicitPath then sys.pathStripPath name else name) →
      (registerMessageDll sys r g).2.registeredDlls = r.registeredDlls ∧
      (∀ m, (registerMessageDll sys r g).2.loadCount m = r.loadCount m) ∧
      ∀ stored m, Loaded sys g name stored m → (registerMessageDll sys r g).1 = eAlreadyRegistered
  | .unregister _    => True

/-- The registry after the call, and the call itself, are as expected. -/
def Kept (c : Call) : Prop := Registry sys (step sys r c).2 ∧ Refuses sys r c

/-- A DLL whose base name is stored is stored under the name of the call, too, and the base name of one that is not
    can be passed to `CdiagsUnregisterMessageDll`. -/
def BaseNameServes : Call → Prop
  | .register g      => ∀ name stored m, Loaded sys g name stored m →
      (IsStored sys r stored → IsStored sys r name) ∧
      (¬ IsStored sys r name → 5 ≤ stored.length ∧ isWhitespaceOnly stored = false)
  | .unregister _    => True

end

variable {sys : System} {r : Resolver}

/-! ## Names -/

theorem System.wcsicmp_iff {a b : CString} : sys.wcsicmp a b = true ↔ a.chars.map sys.lower = b.chars.map sys.lower :=
  beq_iff_eq

@[simp] theorem System.wcsicmp_self (a : CString) : sys.wcsicmp a a = true := wcsicmp_iff.mpr rfl

theorem System.wcsicmp_comm (a b : CString) : sys.wcsicmp a b = sys.wcsicmp b a := by
  rw [Bool.eq_iff_iff, wcsicmp_iff, wcsicmp_iff]
  exact eq_comm

theorem copyString_eq_ok {size : Nat} {s t : CString} (h : copyString size s = .ok t) : t = s ∧ s.length < size := by
  unfold copyString at h
  split at h
  · rename_i hlt
    exact ⟨(Except.ok.inj h).symm, hlt⟩
  · cases h

/-- What is stored is the name, or the base name of a path, and it fits. -/
theorem storedName_eq_ok {name stored : CString} {flags : DWORD} (h : storedName sys name flags = .ok stored) :
    stored = (if flagOn flags registerExplicitPath then sys.pathStripPath name else name) ∧ stored.length < maxDllname := by
  unfold storedName at h
  split at h
  · rename_i hflag
    rw [if_pos hflag]
    cases htmp : copyString maxPath name with
    | error hr =>
        rw [htmp] at h
        cases h
    | ok tmpName =>
        rw [htmp] at h
        obtain ⟨rfl, hlt⟩ := copyString_eq_ok h
        obtain ⟨rfl, -⟩ := copyString_eq_ok htmp
        exact ⟨rfl, hlt⟩
  · rename_i hflag
    rw [if_neg hflag]
    obtain ⟨rfl, hlt⟩ := copyString_eq_ok h
    exact ⟨rfl, hlt⟩

/-- A name that fits into an entry is good for unregistering if it is long enough and not blank. -/
theorem isNameValid_iff {s : CString} (hlt : s.length < maxDllname) :
    isNameValid (some s) 5 (maxDllname - 1) = true ↔ 5 ≤ s.length ∧ isWhitespaceOnly s = false := by
  have hfits : stringCchLength s (maxDllname - 1 + 1) = some s.length := if_pos hlt
  simp [isNameValid, isStringValid, hfits, and_comm]

/-! ## Lookups -/

theorem findRegisteredDll_isSome {name : CString} : (findRegisteredDll sys name r.registeredDlls).isSome ↔ IsStored sys r name := by
  rw [findRegisteredDll, List.find?_isSome]
  rfl

theorem findRegisteredDll_eq_none {name : CString} :
    findRegisteredDll sys name r.registeredDlls = none ↔ ¬ IsStored sys r name := by
  rw [← findRegisteredDll_isSome, Option.not_isSome_iff_eq_none]

/-- Among distinct names, each entry is found under its own. -/
theorem findRegisteredDll_self {l : List RegisteredDll} (hl : l.Pairwise fun a b => sys.wcsicmp a.name b.name = false)
    {d : RegisteredDll} (hd : d ∈ l) : findRegisteredDll sys d.name l = some d := by
  induction hl with
  | nil => cases hd
  | @cons a l ha _ ih =>
      rcases List.mem_cons.mp hd with rfl | hd
      · exact List.find?_cons_of_pos (sys.wcsicmp_self d.name)
      · have hne : ¬ sys.wcsicmp d.name a.name = true := by
          rw [sys.wcsicmp_comm, ha d hd]
          exact Bool.false_ne_true
        rw [findRegisteredDll, List.find?_cons, Bool.eq_false_of_not_eq_true hne]
        exact ih hd

/-! ## What the calls do -/

/-- An entry that was not loaded and not inserted is only freed. -/
@[simp] theorem deleteRegisteredDllEntry_new (name : CString) :
    deleteRegisteredDllEntry r ⟨name, none, false⟩ = r := rfl

/-- A call that does not get to the list changes nothing. -/
theorem registerMessageDll_of_not_loaded {g : Registration} (h : ∀ name stored m, ¬ Loaded sys g name stored m) :
    (registerMessageDll sys r g).2 = r := by
  unfold registerMessageDll
  cases hname : g.name with
  | none => rfl
  | some name =>
      cases hvalid : g.isValid with
      | false => rfl
      | true =>
          cases hmalloc : g.malloc with
          | false => rfl
          | true =>
              cases hstored : storedName sys name g.flags with
              | error hr => simp [hstored]
              | ok stored =>
                  cases hload : g.load with
                  | error err =>
                      simp [hstored]
                  | ok m => exact absurd ⟨hname, hvalid, hmalloc, hstored, hload⟩ (h name stored m)

/-- **The call is refused if its name is stored**: the module is freed again. -/
theorem registerMessageDll_of_stored {g : Registration} {name stored : CString} {m : HMODULE}
    (h : Loaded sys g name stored m) (hstored : IsStored sys r name) :
    registerMessageDll sys r g = (eAlreadyRegistered,
      { r with log := r.log ++ [.loadLibrary m, .enterCriticalSection, .leaveCriticalSection, .freeLibrary m] }) := by
  obtain ⟨d, hd⟩ := Option.isSome_iff_exists.mp (findRegisteredDll_isSome.mpr hstored)
  simp [registerMessageDll, h.given, h.valid, h.malloc, h.fits, h.load, hd, deleteRegisteredDllEntry, Resolver.emit]

/-- **It is accepted if its name is not stored.** -/
theorem registerMessageDll_of_not_stored {g : Registration} {name stored : CString} {m : HMODULE}
    (h : Loaded sys g name stored m) (hstored : ¬ IsStored sys r name) :
    registerMessageDll sys r g = (sOk,
      { registeredDlls := r.registeredDlls ++ [⟨stored, some m, true⟩],
        log := r.log ++ [.loadLibrary m, .enterCriticalSection, .leaveCriticalSection] }) := by
  have hnone := findRegisteredDll_eq_none.mpr hstored
  simp [registerMessageDll, h.given, h.valid, h.malloc, h.fits, h.load, hnone, Resolver.emit]

/-- Unregistering takes out the first entry under the name, or nothing. -/
theorem unregisterMessageDll_cases (name : Option CString) :
    (unregisterMessageDll sys r name).2 = r ∨
    (unregisterMessageDll sys r name).2 = (r.emit .enterCriticalSection).emit .leaveCriticalSection ∨
    ∃ d ∈ r.registeredDlls, (unregisterMessageDll sys r name).2 =
      (deleteRegisteredDllEntry (r.emit .enterCriticalSection) d).emit .leaveCriticalSection := by
  unfold unregisterMessageDll
  cases name with
  | none => exact .inl rfl
  | some s =>
      cases hvalid : isNameValid (some s) 5 (maxDllname - 1) with
      | false => exact .inl rfl
      | true =>
          cases hfind : findRegisteredDll sys s r.registeredDlls with
          | none =>
              apply Or.inr
              apply Or.inl
              simp [hfind]
          | some d =>
              apply Or.inr
              apply Or.inr
              refine ⟨d, List.mem_of_find?_eq_some hfind, ?_⟩
              simp [hfind]

/-! ## The invariant -/

/-- An entry as the list has it: inserted, loaded, and under a name that is good for unregistering it. -/
structure RegisteredDll.Ok (d : RegisteredDll) : Prop where
  linked : d.linked = true
  loaded : ∃ m, d.module = some m
  named  : isNameValid (some d.name) 5 (maxDllname - 1) = true

structure Inv (sys : System) (r : Resolver) : Prop where
  distinct : r.registeredDlls.Pairwise fun a b => sys.wcsicmp a.name b.name = false
  entries  : ∀ d ∈ r.registeredDlls, d.Ok
  matched  : ∀ m, r.log.count (.loadLibrary m) =
    r.log.count (.freeLibrary m) + r.registeredDlls.countP (·.module == some m)

theorem inv_created : Inv sys .created where
  distinct    := .nil
  entries _ h := nomatch h
  matched _   := rfl

/-- Taking out an entry of the list frees its module. -/
theorem delete_stored (r : Resolver) {d : RegisteredDll} (hok : d.Ok) :
    ∃ m, d.module = some m ∧ (deleteRegisteredDllEntry (r.emit .enterCriticalSection) d).emit .leaveCriticalSection =
      { registeredDlls := r.registeredDlls.erase d,
        log := r.log ++ [.enterCriticalSection, .freeLibrary m, .leaveCriticalSection] } := by
  obtain ⟨m, hm⟩ := hok.loaded
  refine ⟨m, hm, ?_⟩
  simp [deleteRegisteredDllEntry, hm, hok.linked, Resolver.emit]

theorem registry_of_inv (h : Inv sys r) : Registry sys r where
  distinct := h.distinct
  matched  := h.matched
  unregistered := by
    intro d hd
    obtain ⟨m, hm, hdelete⟩ := delete_stored r (h.entries d hd)
    refine ⟨m, hm, ?_⟩
    have hfind := findRegisteredDll_self h.distinct hd
    simp [unregisterMessageDll, (h.entries d hd).named, hfind, hdelete]

/-- Calls that neither load nor free anything do not matter. -/
theorem inv_emit {call : SystemCall} (h : Inv sys r) (hload : ∀ m, call ≠ .loadLibrary m)
    (hfree : ∀ m, call ≠ .freeLibrary m) : Inv sys (r.emit call) where
  distinct := h.distinct
  entries  := h.entries
  matched m := by
    have hcounts := h.matched m
    have hl : [call].count (.loadLibrary m) = 0 := List.count_singleton.trans (if_neg (by simpa using (hload m)))
    have hf : [call].count (.freeLibrary m) = 0 := List.count_singleton.trans (if_neg (by simpa using (hfree m)))
    simp only [Resolver.log_emit, List.count_append, hl, hf, Nat.add_zero]
    exact hcounts

/-- Neither does the deletion of an entry. -/
theorem inv_delete {d : RegisteredDll} (h : Inv sys r) (hd : d ∈ r.registeredDlls) :
    Inv sys (deleteRegisteredDllEntry r d) := by
  obtain ⟨m, hm⟩ := (h.entries d hd).loaded
  have hdelete : deleteRegisteredDllEntry r d =
      { registeredDlls := r.registeredDlls.erase d, log := r.log ++ [.freeLibrary m] } := by
    simp [deleteRegisteredDllEntry, hm, (h.entries d hd).linked, Resolver.emit]
  rw [hdelete]
  refine ⟨h.distinct.sublist List.erase_sublist, fun e he => h.entries e (List.mem_of_mem_erase he), fun m' => ?_⟩
  have hcounts := h.matched m'
  have hperm := (List.perm_cons_erase hd).countP_eq (·.module == some m')
  rw [List.countP_cons, hm] at hperm
  simp only [List.count_append, List.count_cons, List.count_nil]
  by_cases heq : m = m'
  · subst heq
    simp at hperm ⊢
    omega
  · have hne : (some m == some m') = false := by simpa using heq
    rw [hne, if_neg Bool.false_ne_true] at hperm
    simp [heq]
    omega

/-- Unregistering keeps the invariant, whatever the name is. -/
theorem inv_unregister (h : Inv sys r) (name : Option CString) : Inv sys (unregisterMessageDll sys r name).2 := by
  rcases unregisterMessageDll_cases name with heq | heq | ⟨d, hd, heq⟩
  · rw [heq]
    exact h
  · rw [heq]
    exact inv_emit (inv_emit h (by simp) (by simp)) (by simp) (by simp)
  · rw [heq]
    have hentered : Inv sys (r.emit .enterCriticalSection) := inv_emit h (by simp) (by simp)
    exact inv_emit (inv_delete hentered hd) (by simp) (by simp)

/-- So does a call that is refused. -/
theorem inv_refused {m : HMODULE} (h : Inv sys r) :
    Inv sys { r with log := r.log ++ [.loadLibrary m, .enterCriticalSection, .leaveCriticalSection, .freeLibrary m] } where
  distinct := h.distinct
  entries  := h.entries
  matched m' := by
    have hcounts := h.matched m'
    simp only [List.count_append, List.count_cons, List.count_nil]
    by_cases heq : m = m'
    · subst heq
      simp
      omega
    · simp [heq]
      omega

/-- A new entry needs a name that is not stored and is good for unregistering. -/
theorem inv_inserted {stored : CString} {m : HMODULE} (h : Inv sys r) (hnew : ¬ IsStored sys r stored)
    (hnamed : isNameValid (some stored) 5 (maxDllname - 1) = true) :
    Inv sys { registeredDlls := r.registeredDlls ++ [⟨stored, some m, true⟩],
              log := r.log ++ [.loadLibrary m, .enterCriticalSection, .leaveCriticalSection] } where
  distinct := by
    refine List.pairwise_append.mpr ⟨h.distinct, List.pairwise_singleton _ _, ?_⟩
    intro a ha b hb
    rw [List.mem_singleton.mp hb, System.wcsicmp_comm]
    apply Bool.eq_false_of_not_eq_true
    intro hsame
    exact hnew ⟨a, ha, hsame⟩
  entries d hd := by
    rcases List.mem_append.mp hd with hold | hlast
    · exact h.entries d hold
    · rw [List.mem_singleton.mp hlast]
      exact ⟨rfl, ⟨m, rfl⟩, hnamed⟩
  matched m' := by
    have hcounts := h.matched m'
    simp only [List.count_append, List.count_cons, List.count_nil, List.countP_append, List.countP_cons, List.countP_nil]
    by_cases heq : m = m'
    · subst heq
      simp
      omega
    · simp [heq]
      omega

/-! ## When the registry is kept -/

/-- A refused call leaves the list and the load counts as they are. -/
theorem loadCount_refused (m m' : HMODULE) : Resolver.loadCount
    { r with log := r.log ++ [.loadLibrary m, .enterCriticalSection, .leaveCriticalSection, .freeLibrary m] } m' =
      r.loadCount m' := by
  unfold Resolver.loadCount
  simp only [List.count_append, List.count_cons, List.count_nil]
  by_cases heq : m = m'
  · subst heq
    simp
  · simp [heq]

/-- Every call that meets the condition keeps the invariant. -/
theorem inv_step (h : Inv sys r) {c : Call} (hc : BaseNameServes sys r c) : Inv sys (step sys r c).2 := by
  cases c with
  | unregister name => exact inv_unregister h name
  | register g =>
      show Inv sys (registerMessageDll sys r g).2
      by_cases hloaded : ∃ name stored m, Loaded sys g name stored m
      · obtain ⟨name, stored, m, hl⟩ := hloaded
        obtain ⟨hagree, hnamed⟩ := hc name stored m hl
        by_cases hname : IsStored sys r name
        · rw [registerMessageDll_of_stored hl hname]
          exact inv_refused h
        · rw [registerMessageDll_of_not_stored hl hname]
          apply inv_inserted h (fun hs => hname (hagree hs))
          exact (isNameValid_iff (storedName_eq_ok hl.fits).2).mpr (hnamed hname)
      · rw [registerMessageDll_of_not_loaded fun name stored m hl => hloaded ⟨name, stored, m, hl⟩]
        exact h

theorem refuses_of_serves {c : Call} (hc : BaseNameServes sys r c) : Refuses sys r c := by
  cases c with
  | unregister name => exact trivial
  | register g =>
      intro name hgiven hbase
      by_cases hloaded : ∃ stored m, Loaded sys g name stored m
      · obtain ⟨stored, m, hl⟩ := hloaded
        rw [← (storedName_eq_ok hl.fits).1] at hbase
        have hname : IsStored sys r name := (hc name stored m hl).1 hbase
        rw [registerMessageDll_of_stored hl hname]
        exact ⟨rfl, loadCount_refused m, fun _ _ _ => rfl⟩
      · have hnot : ∀ name' stored m, ¬ Loaded sys g name' stored m := by
          intro name' stored m hl
          obtain rfl : name = name' := Option.some.inj (hgiven.symm.trans hl.given)
          exact hloaded ⟨stored, m, hl⟩
        rw [registerMessageDll_of_not_loaded hnot]
        exact ⟨rfl, fun _ => rfl, fun stored m hl => absurd hl (hnot name stored m)⟩

/-- A call that does not meet the condition stores a name twice, or a name that cannot be passed on. -/
theorem serves_of_kept {c : Call} (h : Kept sys r c) : BaseNameServes sys r c := by
  cases c with
  | unregister name => exact trivial
  | register g =>
      intro name stored m hl
      obtain ⟨hregistry, hrefuses⟩ := h
      obtain ⟨hbase, hlt⟩ := storedName_eq_ok hl.fits
      constructor
      · intro hstored
        by_contra hname
        rw [hbase] at hstored
        have hcode := (hrefuses name hl.given hstored).2.2 stored m hl
        rw [registerMessageDll_of_not_stored hl hname] at hcode
        cases hcode
      · intro hname
        rw [step, registerMessageDll_of_not_stored hl hname] at hregistry
        obtain ⟨m', -, hok⟩ := hregistry.unregistered ⟨stored, some m, true⟩ (List.mem_append_right _ List.mem_cons_self)
        apply (isNameValid_iff hlt).mp
        cases hvalid : isNameValid (some stored) 5 (maxDllname - 1) with
        | true => rfl
        | false =>
            simp only [unregisterMessageDll, hvalid, Bool.not_false, if_true] at hok
            cases hok

theorem kept_iff (h : Inv sys r) (c : Call) : Kept sys r c ↔ BaseNameServes sys r c :=
  ⟨serves_of_kept, fun hc => ⟨registry_of_inv (inv_step h hc), refuses_of_serves hc⟩⟩

theorem run_next (sys : System) (r : Resolver) (calls : List Call) : ∃ r', run (next sys) r calls = some r' := by
  induction calls generalizing r with
  | nil => exact ⟨r, rfl⟩
  | cons c calls ih =>
      obtain ⟨r', h⟩ := ih (step sys r c).2
      exact ⟨r', run_cons.mpr ⟨_, rfl, h⟩⟩

/-- **The registry is kept throughout a run exactly if base names serve in all of its registrations.** -/
theorem meets_kept_iff (sys : System) (calls : List Call) :
    Meets (next sys) (Kept sys) .created calls ↔ Meets (next sys) (BaseNameServes sys) .created calls := by
  obtain ⟨r', hrun⟩ := run_next sys .created calls
  refine (meets_congr (I := Inv sys) ?_ ?_ inv_created hrun).symm
  · intro s c s' hs _
    exact (kept_iff hs c).symm
  · intro s c s' hs hc hnext
    cases hnext
    exact inv_step hs hc

theorem inv_deleteAll {l : List RegisteredDll} (h : Inv sys r) (hl : r.registeredDlls = l) :
    Inv sys (l.foldl deleteRegisteredDllEntry r) ∧ (l.foldl deleteRegisteredDllEntry r).registeredDlls = [] := by
  induction l generalizing r with
  | nil => exact ⟨h, hl⟩
  | cons d l ih =>
      have hd : d ∈ r.registeredDlls := by
        rw [hl]
        exact List.mem_cons_self
      apply ih (inv_delete h hd)
      show (deleteRegisteredDllEntry r d).registeredDlls = l
      obtain ⟨m, hm⟩ := (h.entries d hd).loaded
      simp [deleteRegisteredDllEntry, hm, (h.entries d hd).linked, hl]

/-- Deleting the resolver leaves no DLL and no load count behind. -/
theorem deleteResolver_released (h : Inv sys r) :
    (deleteResolver r).registeredDlls = [] ∧ ∀ m, (deleteResolver r).loadCount m = 0 := by
  have hentered : Inv sys (r.emit .enterCriticalSection) := inv_emit h (by simp) (by simp)
  obtain ⟨hinv, hempty⟩ := inv_deleteAll hentered rfl
  have hleft : Inv sys (deleteResolver r) := inv_emit hinv (by simp) (by simp)
  refine ⟨hempty, fun m => ?_⟩
  have hcounts := hleft.matched m
  rw [show (deleteResolver r).registeredDlls = [] from hempty, List.countP_nil, Nat.add_zero] at hcounts
  rw [Resolver.loadCount, hcounts, Int.sub_self]

/-! ## A path and a name -/

/-- `_wcsicmp` in the locale a program starts with. -/
def toLower (ch : WCHAR) : WCHAR := if 0x41#16 ≤ ch ∧ ch ≤ 0x5A#16 then ch + 0x20#16 else ch

def isSeparator (ch : WCHAR) : Bool := ch == 0x5C#16 || ch == 0x2F#16

/-- What follows the last backslash, slash or colon that has a name behind it. -/
def fileName (name : List WCHAR) : List WCHAR → List WCHAR
  | ch :: next :: rest =>
    if (isSeparator ch || ch == 0x3A#16) && !isSeparator next then fileName (next :: rest) (next :: rest)
    else fileName name (next :: rest)
  | _ => name

theorem fileName_subset (rest : List WCHAR) : ∀ {name : List WCHAR}, rest ⊆ name → fileName name rest ⊆ name := by
  induction rest with
  | nil => exact fun _ => List.Subset.refl _
  | cons ch rest ih =>
      intro name hsub
      cases rest with
      | nil => exact List.Subset.refl _
      | cons next rest =>
          have htail : next :: rest ⊆ name := fun c hc => hsub (List.mem_cons_of_mem _ hc)
          rw [fileName]
          split
          · exact List.Subset.trans (ih (List.Subset.refl _)) htail
          · exact ih htail

/-- The system with the C locale. -/
def windows : System where
  lower := toLower
  pathStripPath s :=
    { chars   := fileName s.chars s.chars
      nonzero := fun c hc => s.nonzero c (fileName_subset _ (List.Subset.refl _) hc) }

/-- A registration without trouble. -/
def registration (name : String) (flags : DWORD) (m : HMODULE) : Call :=
  .register { name := some (wide name), flags := flags, priority := 0, malloc := true, load := .ok m }

/-- **`ntdll.dll` by its name and then by its path is stored twice.** -/
theorem registered_twice : ¬ Meets (next windows) (Kept windows) .created
    [registration "ntdll.dll" 0#32 1, registration "c:\\ntdll.dll" registerExplicitPath 1] := by
  intro h
  have hregistry := ((h.2 _ rfl).1).1
  exact absurd hregistry.distinct (by decide)

end Cfix.Cdiag.MsgResolver
