import Cfix.Kernel.EventDelivery
import Cfix.Lib.RefCount
import Cfix.Lib.Transition

/-!
# `Kernel.DriverService` — the services of the drivers (`cfixkl/load.c`, `cfixkl/module.c`)

`CfixklCreateTestModuleFromDriver` installs a service for the driver under test and starts it, if it has to, and
`CfixklsDeleteModule` is to undo what it has done. The service control manager keeps its database of services; each of
its calls may also fail for a reason of its own, which is the outcome of the call.
-/

namespace Cfix.DriverService

open Cfix.Events (Win32Error)
open RefCount (RefCall)
open Transition

def eFixtureNameTooLong        : HRESULT := 0x80048005#32
def cfixklECfixkrStartDenied   : HRESULT := 0x8004A002#32

def errorModNotFound             : BitVec 32 := 126#32
def errorFileNotFound            : BitVec 32 := 2#32
def errorMoreData                : BitVec 32 := 234#32
def errorInvalidHandle           : Win32Error := ⟨6#32, by decide⟩
def errorServiceAlreadyRunning   : Win32Error := ⟨1056#32, by decide⟩
def errorServiceDoesNotExist     : Win32Error := ⟨1060#32, by decide⟩
def errorServiceNotActive        : Win32Error := ⟨1062#32, by decide⟩
def errorServiceMarkedForDelete  : Win32Error := ⟨1072#32, by decide⟩
def errorServiceExists           : Win32Error := ⟨1073#32, by decide⟩

/-! ## The service control manager -/

/-- A service that is installed. One that is marked for deletion stays so while it runs or a handle to it is open. -/
structure Service where
  running : Bool
  marked  : Bool
  handles : Nat
  kept    : marked = true → running = true ∨ 0 < handles

/-- The installed services by their names. -/
abbrev Database := String → Option Service

def Database.Installed (db : Database) (name : String) : Bool := (db name).isSome

def Database.Running (db : Database) (name : String) : Bool := (db name).any Service.running

def Database.set (db : Database) (name : String) (entry : Option Service) : Database := Function.update db name entry

/-- A service that has been created and not been started. -/
def Service.stopped (handles : Nat) : Service := ⟨false, false, handles, nofun⟩

def Service.opened (s : Service) : Service :=
  { s with handles := s.handles + 1, kept := fun _ => .inr (Nat.succ_pos _) }

def Service.started (s : Service) : Service := { s with running := true, kept := fun _ => .inl rfl }

/-- A service after it has been stopped, marked or closed: it may be removed then. -/
def settle (running marked : Bool) (handles : Nat) : Option Service :=
  if h : marked = true → running = true ∨ 0 < handles then some ⟨running, marked, handles, h⟩ else none

/-- `CreateService`, which returns a handle. -/
def createService (outcome : Option Win32Error) (name : String) (db : Database) : Except Win32Error Database :=
  match db name, outcome with
  | _, some e      => .error e
  | some s, none   => .error (if s.marked then errorServiceMarkedForDelete else errorServiceExists)
  | none, none     => .ok (db.set name (some (.stopped 1)))

/-- `OpenService`. -/
def openService (outcome : Option Win32Error) (name : String) (db : Database) : Except Win32Error Database :=
  match db name, outcome with
  | _, some e      => .error e
  | some s, none   => .ok (db.set name (some s.opened))
  | none, none     => .error errorServiceDoesNotExist

/-- `StartService`. -/
def startService (outcome : Option Win32Error) (name : String) (db : Database) : Except Win32Error Database :=
  match db name, outcome with
  | _, some e      => .error e
  | some s, none   =>
    if s.running then .error errorServiceAlreadyRunning
    else if s.marked then .error errorServiceMarkedForDelete
    else .ok (db.set name (some s.started))
  | none, none     => .error errorInvalidHandle

/-- `ControlService` with `SERVICE_CONTROL_STOP`. -/
def stopService (outcome : Option Win32Error) (name : String) (db : Database) : Except Win32Error Database :=
  match db name, outcome with
  | _, some e      => .error e
  | some s, none   =>
    if s.running then .ok (db.set name (settle false s.marked s.handles)) else .error errorServiceNotActive
  | none, none     => .error errorInvalidHandle

/-- `DeleteService`. -/
def deleteService (outcome : Option Win32Error) (name : String) (db : Database) : Except Win32Error Database :=
  match db name, outcome with
  | _, some e      => .error e
  | some s, none   =>
    if s.marked then .error errorServiceMarkedForDelete
    else .ok (db.set name (settle s.running true s.handles))
  | none, none     => .error errorInvalidHandle

/-- `CloseServiceHandle`. -/
def closeServiceHandle (name : String) (db : Database) : Database :=
  match db name with
  | some s => db.set name (settle s.running s.marked (s.handles - 1))
  | none   => db

/-! ## Starting and stopping drivers -/

/-- The outcomes of the calls that start one driver. -/
structure StartCalls where
  getFullPathName : Option Win32Error
  /-- `GetFileAttributes` finds the file. -/
  fileExists      : Bool
  openSCManager   : Option Win32Error
  createService   : Option Win32Error
  openService     : Option Win32Error
  startService    : Option Win32Error

/-- The outcomes of the calls that stop one driver. -/
structure StopCalls where
  controlService : Option Win32Error
  deleteService  : Option Win32Error

/-- The result of `CfixklpStartDriver` and its output parameters; a handle is given by the name of its service. -/
structure DriverStart where
  hr           : HRESULT
  installed    : Bool
  loaded       : Bool
  driverHandle : Option String
  database     : Database

/-- `CfixklsOpenDriver`. -/
def openDriver (c : StartCalls) (name : String) (db : Database) : DriverStart :=
  let fails (hr : HRESULT) : DriverStart := ⟨hr, false, false, none, db⟩
  match c.getFullPathName with
  | some e => fails (hresultFromWin32 e.code)
  | none   =>
    if !c.fileExists then fails (hresultFromWin32 errorModNotFound)
    else
      match c.openSCManager with
      | some e => fails (hresultFromWin32 e.code)
      | none   =>
        match DriverService.createService c.createService name db with
        | .ok db   => ⟨sOk, true, false, some name, db⟩
        | .error e =>
          if e.code = errorServiceExists.code then
            match DriverService.openService c.openService name db with
            | .ok db   => ⟨sOk, false, false, some name, db⟩
            | .error e => fails (hresultFromWin32 e.code)
          else fails (hresultFromWin32 e.code)

/-- `CfixklpStartDriver`. -/
def startDriver (c : StartCalls) (name : String) (db : Database) : DriverStart :=
  let opened := openDriver c name db
  if failed opened.hr then opened
  else
    match DriverService.startService c.startService name opened.database with
    | .ok db   => { opened with hr := sOk, loaded := true, database := db }
    | .error e =>
      -- the driver may have been started and be in use
      if e.code = errorServiceAlreadyRunning.code ∨ e.code = errorFileNotFound then { opened with hr := sOk }
      else
        { opened with
          hr           := if e.code = errorMoreData then eFixtureNameTooLong else hresultFromWin32 e.code
          driverHandle := none
          database     := closeServiceHandle name opened.database }

/-- `CfixklpStopDriverAndCloseHandle`. -/
def stopDriverAndCloseHandle (c : StopCalls) (name : String) (uninstall : Bool) (db : Database) : HRESULT × Database :=
  let stopped : HRESULT × Database :=
    match stopService c.controlService name db with
    | .ok db   => (sOk, db)
    | .error e => (if e.code = errorServiceNotActive.code then sOk else hresultFromWin32 e.code, db)
  let deleted : HRESULT × Database :=
    if succeeded stopped.1 && uninstall then
      match DriverService.deleteService c.deleteService name stopped.2 with
      | .ok db   => (stopped.1, db)
      | .error e => (hresultFromWin32 e.code, stopped.2)
    else stopped
  (deleted.1, closeServiceHandle name deleted.2)

/-- `CfixklpStartCfixKernelReflector`; `image` is the result of `CfixklsFindReflectorImage`. -/
def startCfixKernelReflector (image : HRESULT) (c : StartCalls) (db : Database) : HRESULT × Database :=
  if failed image then (image, db)
  else
    let started := startDriver c "cfixkr" db
    if succeeded started.hr then (started.hr, closeServiceHandle "cfixkr" started.database)
    else (if started.hr = eAccessdenied then cfixklECfixkrStartDenied else started.hr, started.database)

/-! ## Test modules -/

/-- What `CFIXKLP_TEST_MODULE` keeps of the driver. -/
structure TestModule where
  references      : Nat
  driverHandle    : Option String
  driverInstalled : Bool
  driverLoaded    : Bool
  driverName      : String

/-- A call of `CfixklCreateTestModuleFromDriver`, with the outcomes of what it and the module call. -/
structure Call where
  /-- `none` is `NULL`. -/
  driverPath         : Option String
  /-- The output parameter is not `NULL`. -/
  testModule         : Bool
  malloc             : Bool
  /-- `PathStripPath` and `PathRemoveExtension`. -/
  baseName           : String → String
  findReflectorImage : HRESULT
  reflector          : StartCalls
  driver             : StartCalls
  /-- The result of `CfixklsInitializeModule`. -/
  initializeModule   : HRESULT
  stop               : StopCalls

/-- The result of `CfixklCreateTestModuleFromDriver` and its output parameters. -/
structure Created where
  hr         : HRESULT
  testModule : Option TestModule
  installed  : Option Bool
  loaded     : Option Bool
  database   : Database

def maxPath : Nat := 260

/-- `CfixklsGetDriverNameFromPath`, with a buffer of 100 characters. -/
def getDriverNameFromPath (baseName : String → String) (driverPath : String) : HRESULT × String :=
  let copied := stringCchCopy maxPath driverPath
  if failed copied.1 then (copied.1, "") else stringCchCopy 100 ("cfixkr_" ++ baseName copied.2)

/-- `CfixklsDeleteModule`. -/
def deleteModule (c : StopCalls) (m : TestModule) (db : Database) : Database :=
  match m.driverHandle with
  | none      => db
  | some name =>
    if m.driverLoaded then (stopDriverAndCloseHandle c name m.driverInstalled db).2 else closeServiceHandle name db

/-- The module, once its driver has been started. -/
def DriverStart.module (r : DriverStart) (driverName : String) (references : Nat) : TestModule where
  references      := references
  driverHandle    := r.driverHandle
  driverInstalled := r.installed
  driverLoaded    := r.loaded
  driverName      := driverName

/-- The result of `CfixklpStartCfixKernelReflector` lets the call go on. -/
def reflectorStarted (hr : HRESULT) : Bool := hr == hresultFromWin32 errorServiceAlreadyRunning.code || succeeded hr

/-- `CfixklCreateTestModuleFromDriver`. -/
def createTestModuleFromDriver (c : Call) (db : Database) : Created :=
  let fails (hr : HRESULT) (db : Database) : Created := ⟨hr, none, none, none, db⟩
  match c.driverPath with
  | none            => fails eInvalidarg db
  | some driverPath =>
    if !c.testModule then fails eInvalidarg db
    else if !c.malloc then fails eOutofmemory db
    else
      let named := getDriverNameFromPath c.baseName driverPath
      if failed named.1 then fails named.1 db
      else
        let reflector := startCfixKernelReflector c.findReflectorImage c.reflector db
        -- the module has no handle yet
        if !reflectorStarted reflector.1 then fails reflector.1 reflector.2
        else
          let started := startDriver c.driver named.2 reflector.2
          let hr := if failed started.hr then started.hr else c.initializeModule
          if failed hr then fails hr (deleteModule c.stop (started.module named.2 0) started.database)
          else ⟨sOk, some (started.module named.2 1), some started.installed, some started.loaded, started.database⟩

/-- The module, until it is freed, and the services. -/
structure State where
  module   : Option TestModule
  database : Database

/-- `CfixklsReferenceModule` and `CfixklsDereferenceModule`. -/
def next (c : StopCalls) (s : State) : RefCall → Option State
  | .reference   => s.module.map (fun m => { s with module := some { m with references := m.references + 1 } })
  | .dereference =>
    s.module.map (fun m =>
      if m.references - 1 = 0 then ⟨none, deleteModule c m s.database⟩
      else { s with module := some { m with references := m.references - 1 } })

/-! ## Entries of the database -/

section Entries

variable {db : Database} {name other : String} {entry entry' : Option Service} {s : Service}

@[simp] theorem Database.set_self : db.set name entry name = entry := Function.update_self ..

theorem Database.set_other (h : other ≠ name) : db.set name entry other = db other := Function.update_of_ne h ..

@[simp] theorem Database.set_set : (db.set name entry).set name entry' = db.set name entry' := Function.update_idem ..

theorem failed_win32 (e : Win32Error) : failed (hresultFromWin32 e.code) = true := by
  rw [failed_hresultFromWin32, bne_iff_ne]
  exact e.ne_zero

/-- A service stays installed if nothing has happened to it. -/
theorem settle_self (s : Service) : settle s.running s.marked s.handles = some s := dif_pos s.kept

/-- A handle that has been opened and is closed again leaves no trace. -/
theorem closeServiceHandle_opened : closeServiceHandle name (db.set name (some s.opened)) = db.set name (some s) := by
  unfold closeServiceHandle
  rw [Database.set_self]
  show (db.set name _).set name (settle s.running s.marked s.handles) = _
  rw [settle_self, Database.set_set]

theorem closeServiceHandle_other (h : other ≠ name) : closeServiceHandle name db other = db other := by
  unfold closeServiceHandle
  cases db name with
  | none   => rfl
  | some s => exact Database.set_other h

end Entries

/-! ## What it takes to start a driver -/

/-- The calls up to `CreateService` succeed, and so does this one for a service that is not installed. -/
structure StartCalls.Create (c : StartCalls) : Prop where
  getFullPathName : c.getFullPathName = none
  fileExists      : c.fileExists = true
  openSCManager   : c.openSCManager = none
  createService   : c.createService = none

/-- The service is created, and the driver cannot be started then. -/
structure StartCalls.Leave (c : StartCalls) (name : String) (db : Database) : Prop where
  create       : c.Create
  notInstalled : db name = none
  notStarted   : c.startService ≠ none

/-- What `CfixklsOpenDriver` can do. -/
inductive Opened (c : StartCalls) (name : String) (db : Database) : DriverStart → Prop
  | refused {hr : HRESULT} (hr_failed : failed hr = true) (hnot : ¬ (c.Create ∧ db name = none)) :
      Opened c name db ⟨hr, false, false, none, db⟩
  | opened {s : Service} (hs : db name = some s) :
      Opened c name db ⟨sOk, false, false, some name, db.set name (some s.opened)⟩
  | created (hc : c.Create) (hnone : db name = none) :
      Opened c name db ⟨sOk, true, false, some name, db.set name (some (.stopped 1))⟩

/-- What `CfixklpStartDriver` can do. -/
inductive Started (c : StartCalls) (name : String) (db : Database) : DriverStart → Prop
  | refused {hr : HRESULT} (hr_failed : failed hr = true) (hnot : ¬ c.Leave name db) :
      Started c name db ⟨hr, false, false, none, db⟩
  | opened {s : Service} (hs : db name = some s) :
      Started c name db ⟨sOk, false, false, some name, db.set name (some s.opened)⟩
  | started {s : Service} (hs : db name = some s) (hstopped : s.running = false) :
      Started c name db ⟨sOk, false, true, some name, db.set name (some s.opened.started)⟩
  | created (hnone : db name = none) (hstart : c.startService = none) :
      Started c name db ⟨sOk, true, true, some name, db.set name (some (Service.stopped 1).started)⟩
  | leftOpen (hleave : c.Leave name db) :
      Started c name db ⟨sOk, true, false, some name, db.set name (some (.stopped 1))⟩
  | leftClosed {hr : HRESULT} (hr_failed : failed hr = true) (hleave : c.Leave name db) :
      Started c name db ⟨hr, true, false, none, db.set name (some (.stopped 0))⟩

section Start

variable {c : StartCalls} {name other : String} {db db' : Database} {e : Win32Error}

theorem createService_ok (h : createService c.createService name db = .ok db') :
    c.createService = none ∧ db name = none ∧ db' = db.set name (some (.stopped 1)) := by
  unfold createService at h
  split at h
  · cases h
  · cases h
  · rename_i hdb hc
    exact ⟨hc, hdb, (Except.ok.inj h).symm⟩

theorem createService_of_not_installed (hc : c.createService = none) (hdb : db name = none) :
    createService c.createService name db = .ok (db.set name (some (.stopped 1))) := by
  unfold createService
  rw [hc, hdb]

theorem openService_ok (h : openService c.openService name db = .ok db') :
    ∃ s, db name = some s ∧ db' = db.set name (some s.opened) := by
  unfold openService at h
  split at h
  · cases h
  · rename_i s hdb _
    exact ⟨s, hdb, (Except.ok.inj h).symm⟩
  · cases h

theorem openDriver_spec (c : StartCalls) (name : String) (db : Database) : Opened c name db (openDriver c name db) := by
  unfold openDriver
  cases hpath : c.getFullPathName with
  | some e => exact .refused (failed_win32 e) (fun h => absurd (hpath.symm.trans h.1.getFullPathName) nofun)
  | none =>
      cases hfile : c.fileExists with
      | false => exact .refused (by decide) (fun h => absurd (hfile.symm.trans h.1.fileExists) nofun)
      | true =>
          cases hscm : c.openSCManager with
          | some e => exact .refused (failed_win32 e) (fun h => absurd (hscm.symm.trans h.1.openSCManager) nofun)
          | none =>
              cases hcreate : createService c.createService name db with
              | ok db' =>
                  obtain ⟨hnone, hdb, rfl⟩ := createService_ok hcreate
                  exact .created ⟨hpath, hfile, hscm, hnone⟩ hdb
              | error e =>
                  have hnot : ¬ (c.Create ∧ db name = none) := by
                    rintro ⟨hc, hdb⟩
                    rw [createService_of_not_installed hc.createService hdb] at hcreate
                    cases hcreate
                  show Opened c name db (if e.code = errorServiceExists.code then _ else _)
                  split
                  · cases hopen : openService c.openService name db with
                    | ok db' =>
                        obtain ⟨s, hs, rfl⟩ := openService_ok hopen
                        exact .opened hs
                    | error e => exact .refused (failed_win32 e) hnot
                  · exact .refused (failed_win32 e) hnot

theorem startService_ok (h : startService c.startService name db = .ok db') :
    c.startService = none ∧ ∃ s, db name = some s ∧ s.running = false ∧ db' = db.set name (some s.started) := by
  unfold startService at h
  split at h
  · cases h
  · rename_i s hdb hc
    split at h
    · cases h
    · rename_i hrunning
      split at h
      · cases h
      · exact ⟨hc, s, hdb, Bool.eq_false_iff.mpr hrunning, (Except.ok.inj h).symm⟩
  · cases h

theorem startService_of_stopped (n : Nat) (hdb : db name = some (.stopped n)) (hc : c.startService = none) :
    startService c.startService name db = .ok (db.set name (some (Service.stopped n).started)) := by
  unfold startService
  rw [hc, hdb]
  rfl

theorem failed_startError (e : Win32Error) :
    failed (if e.code = errorMoreData then eFixtureNameTooLong else hresultFromWin32 e.code) = true := by
  split
  · decide
  · exact failed_win32 e

theorem startDriver_spec (c : StartCalls) (name : String) (db : Database) :
    Started c name db (startDriver c name db) := by
  have hopened := openDriver_spec c name db
  unfold startDriver
  generalize openDriver c name db = r at hopened ⊢
  cases hopened with
  | @refused hr hfailed hnot =>
      have hleave : ¬ c.Leave name db := fun h => hnot ⟨h.create, h.notInstalled⟩
      show Started c name db (if failed hr = true then _ else _)
      rw [if_pos hfailed]
      exact .refused hfailed hleave
  | @opened s hs =>
      simp only [failed_sOk, Bool.false_eq_true, if_false]
      cases hstart : startService c.startService name (db.set name (some s.opened)) with
      | ok db' =>
          obtain ⟨-, t, ht, hstopped, rfl⟩ := startService_ok hstart
          obtain rfl : s.opened = t := Option.some.inj (Database.set_self.symm.trans ht)
          rw [Database.set_set]
          exact .started hs hstopped
      | error e =>
          show Started c name db (if _ then _ else _)
          split
          · exact .opened hs
          · have hsame : closeServiceHandle name (db.set name (some s.opened)) = db := by
              rw [closeServiceHandle_opened, ← hs, Database.set, Function.update_eq_self]
            show Started c name db ⟨_, false, false, none, closeServiceHandle name (db.set name (some s.opened))⟩
            rw [hsame]
            exact .refused (failed_startError e) (fun h => absurd (hs.symm.trans h.notInstalled) nofun)
  | created hc hnone =>
      simp only [failed_sOk, Bool.false_eq_true, if_false]
      cases hstart : startService c.startService name (db.set name (some (.stopped 1))) with
      | ok db' =>
          obtain ⟨hcalls, t, ht, -, rfl⟩ := startService_ok hstart
          obtain rfl : Service.stopped 1 = t := Option.some.inj (Database.set_self.symm.trans ht)
          rw [Database.set_set]
          exact .created hnone hcalls
      | error e =>
          have hleave : c.Leave name db := by
            refine ⟨hc, hnone, fun hcalls => ?_⟩
            rw [startService_of_stopped 1 Database.set_self hcalls] at hstart
            cases hstart
          show Started c name db (if _ then _ else _)
          split
          · exact .leftOpen hleave
          · have hsame : closeServiceHandle name (db.set name (some (.stopped 1))) = db.set name (some (.stopped 0)) :=
              closeServiceHandle_opened (s := .stopped 0)
            show Started c name db ⟨_, true, false, none, closeServiceHandle name (db.set name (some (.stopped 1)))⟩
            rw [hsame]
            exact .leftClosed (failed_startError e) hleave

end Start

/-! ## What deleting the module leaves -/

/-- The calls that stop and delete a service succeed where the service can be stopped and deleted. -/
structure StopCalls.Succeed (c : StopCalls) : Prop where
  controlService : c.controlService = none
  deleteService  : c.deleteService = none

section Delete

variable {stop : StopCalls} {c : StartCalls} {name other driverName : String} {db : Database} {s : Service}
  {r : DriverStart} {references : Nat}

theorem stopService_started (hc : stop.Succeed) (hstopped : s.running = false) :
    stopService stop.controlService name (db.set name (some s.started)) = .ok (db.set name (some s)) := by
  have hsettle : settle false s.marked s.handles = some s := hstopped ▸ settle_self s
  unfold stopService
  rw [hc.controlService, Database.set_self]
  show Except.ok ((db.set name _).set name (settle false s.marked s.handles)) = _
  rw [hsettle, Database.set_set]

/-- A service that was installed before is only stopped. -/
theorem stopDriver_installed (hc : stop.Succeed) (hstopped : s.running = false) :
    (stopDriverAndCloseHandle stop name false (db.set name (some s.opened.started))).2 = db.set name (some s) := by
  unfold stopDriverAndCloseHandle
  rw [stopService_started (s := s.opened) hc hstopped]
  simp only [Bool.and_false, Bool.false_eq_true, if_false]
  exact closeServiceHandle_opened

/-- A service that was created for the module is deleted with its handle. -/
theorem stopDriver_created (hc : stop.Succeed) :
    (stopDriverAndCloseHandle stop name true (db.set name (some (Service.stopped 1).started))).2
      = db.set name none := by
  have hdelete : deleteService stop.deleteService name (db.set name (some (.stopped 1)))
      = .ok (db.set name (some ⟨false, true, 1, fun _ => .inr Nat.one_pos⟩)) := by
    unfold deleteService
    rw [hc.deleteService, Database.set_self]
    show Except.ok ((db.set name _).set name _) = _
    rw [Database.set_set]
    rfl
  unfold stopDriverAndCloseHandle
  rw [stopService_started hc rfl]
  simp only [succeeded_eq_not_failed, failed_sOk, Bool.not_false, Bool.and_true, if_true, hdelete]
  unfold closeServiceHandle
  rw [Database.set_self]
  show (db.set name _).set name _ = _
  rw [Database.set_set]
  rfl

/-- Unless the driver could not be started under a service of its own, deleting the module undoes the start. -/
theorem deleteModule_of_started (hc : stop.Succeed) (h : Started c name db r) (hleave : ¬ c.Leave name db) :
    deleteModule stop (r.module driverName references) r.database name = db name := by
  cases h with
  | refused _ _ => rfl
  | @opened s hs =>
      show closeServiceHandle name (db.set name (some s.opened)) name = db name
      rw [closeServiceHandle_opened, Database.set_self, hs]
  | @started s hs hstopped =>
      show (stopDriverAndCloseHandle stop name false (db.set name (some s.opened.started))).2 name = db name
      rw [stopDriver_installed hc hstopped, Database.set_self, hs]
  | created hnone _ =>
      show (stopDriverAndCloseHandle stop name true (db.set name (some (Service.stopped 1).started))).2 name = db name
      rw [stopDriver_created hc, Database.set_self, hnone]
  | leftOpen h     => exact absurd h hleave
  | leftClosed _ h => exact absurd h hleave

/-- Otherwise the service stays behind. -/
theorem deleteModule_of_leave (h : Started c name db r) (hleave : c.Leave name db) :
    deleteModule stop (r.module driverName references) r.database name = some (.stopped 0) := by
  cases h with
  | refused _ hnot     => exact absurd hleave hnot
  | opened hs          => exact absurd (hs.symm.trans hleave.notInstalled) nofun
  | started hs _       => exact absurd (hs.symm.trans hleave.notInstalled) nofun
  | created _ hstart   => exact absurd hstart hleave.notStarted
  | leftClosed _ _     => exact Database.set_self
  | leftOpen _         =>
      show closeServiceHandle name (db.set name (some (Service.stopped 0).opened)) name = _
      rw [closeServiceHandle_opened, Database.set_self]

theorem database_other (h : Started c name db r) (hother : other ≠ name) : r.database other = db other := by
  cases h with
  | refused _ _ => rfl
  | _           => exact Database.set_other hother

/-- Starting the reflector leaves the other services alone. -/
theorem startCfixKernelReflector_other (image : HRESULT) (hother : other ≠ "cfixkr") :
    (startCfixKernelReflector image c db).2 other = db other := by
  have hstarted := database_other (startDriver_spec c "cfixkr" db) hother
  unfold startCfixKernelReflector
  split
  · rfl
  · show (if _ then _ else _ : HRESULT × Database).2 other = db other
    split
    · exact (closeServiceHandle_other hother).trans hstarted
    · exact hstarted

end Delete

/-! ## Whether the installation is undone -/

/-- The name of the driver's service. -/
def Call.driverName (c : Call) : String := "cfixkr_" ++ c.baseName (c.driverPath.getD "")

/-- The service is installed and running as it was before. -/
structure Undone (name : String) (before after : Database) : Prop where
  installed : after.Installed name = before.Installed name
  running   : after.Running name = before.Running name

/-- A failing call undoes what it has done, and a successful one returns a module that does when it is freed. -/
structure Call.InstallationUndone (c : Call) (db : Database) : Prop where
  failure : failed (createTestModuleFromDriver c db).hr = true →
    Undone c.driverName db (createTestModuleFromDriver c db).database
  success : failed (createTestModuleFromDriver c db).hr = false →
    ∃ m, (createTestModuleFromDriver c db).testModule = some m ∧
      ∀ calls db', run (next c.stop) ⟨some m, (createTestModuleFromDriver c db).database⟩ calls = some ⟨none, db'⟩ →
        Undone c.driverName db db'

/-- The call gets as far as starting the driver. -/
structure Call.Reaches (c : Call) (db : Database) (path : String) : Prop where
  driverPath : c.driverPath = some path
  testModule : c.testModule = true
  malloc     : c.malloc = true
  name       : failed (getDriverNameFromPath c.baseName path).1 = false
  reflector  : reflectorStarted (startCfixKernelReflector c.findReflectorImage c.reflector db).1 = true

/-- The call creates a service for the driver, which it cannot start. -/
def Call.LeavesService (c : Call) (db : Database) : Prop :=
  (∃ path, c.Reaches db path) ∧ c.driver.Leave c.driverName db

section Undone

variable {c : Call} {db db' : Database} {name path : String} {m : TestModule} {calls : List RefCall}

theorem undone_of_eq (h : db' name = db name) : Undone name db db' := by
  constructor
  · rw [Database.Installed, Database.Installed, h]
  · rw [Database.Running, Database.Running, h]

/-- A service that was not installed before and is left behind is not undone. -/
theorem not_undone (hbefore : db name = none) (hafter : db' name = some (.stopped 0)) : ¬ Undone name db db' := by
  intro h
  have hinstalled := h.installed
  rw [Database.Installed, Database.Installed, hbefore, hafter] at hinstalled
  cases hinstalled

/-- The driver has a service of its own, not that of the reflector. -/
theorem driverName_ne (c : Call) : c.driverName ≠ "cfixkr" := by
  intro h
  have hlength := congrArg String.length h
  rw [Call.driverName, String.length_append] at hlength
  have hprefix : "cfixkr_".length = 7 := by decide
  have hreflector : "cfixkr".length = 6 := by decide
  omega

/-- A text that is copied successfully is copied as a whole. -/
theorem stringCchCopy_snd {size : Nat} {text : String} (h : failed (stringCchCopy size text).1 = false) :
    (stringCchCopy size text).2 = text := by
  unfold stringCchCopy at h ⊢
  split at h
  · rename_i hlt
    rw [if_pos hlt]
  · have hfailed : failed strsafeEInsufficientBuffer = true := by decide
    exact absurd (hfailed.symm.trans h) nofun

/-- The result of `CfixklsGetDriverNameFromPath`, if it succeeds. -/
theorem getDriverNameFromPath_snd (hpath : c.driverPath = some path)
    (h : failed (getDriverNameFromPath c.baseName path).1 = false) :
    (getDriverNameFromPath c.baseName path).2 = c.driverName := by
  unfold getDriverNameFromPath at h ⊢
  cases hcopied : failed (stringCchCopy maxPath path).1 with
  | true =>
      simp only [hcopied, if_true] at h
      exact absurd h nofun
  | false =>
      simp only [hcopied, Bool.false_eq_true, if_false] at h ⊢
      rw [stringCchCopy_snd h, stringCchCopy_snd hcopied, Call.driverName, hpath]
      rfl

/-- Until it is freed, the module and the services stay as they are, and then the module is deleted. -/
theorem freed_of_run (hrun : run (next c.stop) ⟨some m, db⟩ calls = some ⟨none, db'⟩) :
    ∃ references, db' = deleteModule c.stop { m with references := references } db := by
  induction calls generalizing m with
  | nil => cases hrun
  | cons call calls ih =>
      obtain ⟨s, hnext, hrun⟩ := run_cons.mp hrun
      cases call with
      | reference =>
          obtain rfl := Option.some.inj hnext
          exact ih (m := { m with references := m.references + 1 }) hrun
      | dereference =>
          obtain rfl := Option.some.inj hnext
          change run (next c.stop) (if m.references - 1 = 0 then ⟨none, deleteModule c.stop m db⟩
            else ⟨some { m with references := m.references - 1 }, db⟩) calls = _ at hrun
          by_cases hlast : m.references - 1 = 0
          · rw [if_pos hlast] at hrun
            refine ⟨m.references, ?_⟩
            cases calls with
            | nil => exact (congrArg State.database (Option.some.inj hrun)).symm
            | cons call calls =>
                obtain ⟨s, hnext, -⟩ := run_cons.mp hrun
                cases call with
                | reference   => cases hnext
                | dereference => cases hnext
          · rw [if_neg hlast] at hrun
            exact ih (m := { m with references := m.references - 1 }) hrun

/-! ### The call -/

/-- The driver as the call starts it. -/
def Call.started (c : Call) (db : Database) : DriverStart :=
  startDriver c.driver c.driverName (startCfixKernelReflector c.findReflectorImage c.reflector db).2

/-- The result once the driver has been started. -/
def Call.result (c : Call) (db : Database) : HRESULT :=
  if failed (c.started db).hr then (c.started db).hr else c.initializeModule

theorem createTestModuleFromDriver_of_reaches (h : c.Reaches db path) :
    createTestModuleFromDriver c db =
      if failed (c.result db) then
        ⟨c.result db, none, none, none,
          deleteModule c.stop ((c.started db).module c.driverName 0) (c.started db).database⟩
      else
        ⟨sOk, some ((c.started db).module c.driverName 1), some (c.started db).installed, some (c.started db).loaded,
          (c.started db).database⟩ := by
  unfold createTestModuleFromDriver Call.result Call.started
  simp only [h.driverPath, h.testModule, h.malloc, h.name, h.reflector, Bool.not_true, Bool.false_eq_true, if_false]
  rw [getDriverNameFromPath_snd h.driverPath h.name]

theorem failed_of_not_reflectorStarted {hr : HRESULT} (h : reflectorStarted hr = false) : failed hr = true := by
  rw [reflectorStarted, Bool.or_eq_false_iff, succeeded_eq_not_failed, Bool.not_eq_false'] at h
  exact h.2

theorem createTestModuleFromDriver_of_not_reaches (h : ∀ path, ¬ c.Reaches db path) :
    failed (createTestModuleFromDriver c db).hr = true ∧
      (createTestModuleFromDriver c db).database c.driverName = db c.driverName := by
  unfold createTestModuleFromDriver
  cases hpath : c.driverPath with
  | none => exact ⟨failed_eInvalidarg, rfl⟩
  | some path =>
      cases hmodule : c.testModule with
      | false => exact ⟨failed_eInvalidarg, rfl⟩
      | true =>
          cases hmalloc : c.malloc with
          | false => exact ⟨failed_eOutofmemory, rfl⟩
          | true =>
              simp only [Bool.not_true, Bool.false_eq_true, if_false]
              cases hname : failed (getDriverNameFromPath c.baseName path).1 with
              | true => exact ⟨hname, rfl⟩
              | false =>
                  have hnot : reflectorStarted (startCfixKernelReflector c.findReflectorImage c.reflector db).1 = false :=
                    Bool.eq_false_iff.mpr (fun hstarted => h path ⟨hpath, hmodule, hmalloc, hname, hstarted⟩)
                  simp only [hnot, Bool.not_false, Bool.false_eq_true, if_true, if_false]
                  exact ⟨failed_of_not_reflectorStarted hnot, startCfixKernelReflector_other _ (driverName_ne c)⟩

/-- How the driver's service is found when the driver is started: the reflector has another one. -/
theorem started_spec (c : Call) (db : Database) :
    Started c.driver c.driverName (startCfixKernelReflector c.findReflectorImage c.reflector db).2 (c.started db) :=
  startDriver_spec ..

theorem leave_iff (c : Call) (db : Database) :
    c.driver.Leave c.driverName (startCfixKernelReflector c.findReflectorImage c.reflector db).2
      ↔ c.driver.Leave c.driverName db := by
  have hother : (startCfixKernelReflector c.findReflectorImage c.reflector db).2 c.driverName = db c.driverName :=
    startCfixKernelReflector_other _ (driverName_ne c)
  constructor
  · intro h
    exact ⟨h.create, hother.symm.trans h.notInstalled, h.notStarted⟩
  · intro h
    exact ⟨h.create, hother.trans h.notInstalled, h.notStarted⟩

/-- Where the driver's service is found after the module has been deleted. -/
theorem deleteModule_started (db : Database) (hstop : c.stop.Succeed) (hleave : ¬ c.driver.Leave c.driverName db)
    (references : Nat) :
    deleteModule c.stop ((c.started db).module c.driverName references) (c.started db).database c.driverName
      = db c.driverName := by
  rw [deleteModule_of_started hstop (started_spec c db) (mt (leave_iff c db).mp hleave)]
  exact startCfixKernelReflector_other _ (driverName_ne c)

theorem not_installationUndone (h : c.LeavesService db) : ¬ c.InstallationUndone db := by
  obtain ⟨⟨path, hreaches⟩, hleave⟩ := h
  intro hundone
  have heq := createTestModuleFromDriver_of_reaches hreaches
  have hleft : ∀ references, deleteModule c.stop ((c.started db).module c.driverName references)
      (c.started db).database c.driverName = some (.stopped 0) := fun references =>
    deleteModule_of_leave (started_spec c db) ((leave_iff c db).mpr hleave)
  cases hresult : failed (c.result db) with
  | true =>
      rw [hresult, if_pos rfl] at heq
      have hfailure := hundone.failure (by rw [heq]; exact hresult)
      rw [heq] at hfailure
      exact not_undone hleave.notInstalled (hleft 0) hfailure
  | false =>
      -- the last reference is given back at once
      rw [hresult, if_neg Bool.false_ne_true] at heq
      obtain ⟨m, hm, hfreed⟩ := hundone.success (by rw [heq]; exact failed_sOk)
      rw [heq] at hm hfreed
      obtain rfl := Option.some.inj hm
      exact not_undone hleave.notInstalled (hleft 1) (hfreed [.dereference] _ rfl)

theorem installationUndone_of_reaches (hstop : c.stop.Succeed) (hreaches : c.Reaches db path)
    (hleave : ¬ c.driver.Leave c.driverName db) : c.InstallationUndone db := by
  have heq := createTestModuleFromDriver_of_reaches hreaches
  have hkept := deleteModule_started db hstop hleave
  cases hresult : failed (c.result db) with
  | true =>
      rw [hresult, if_pos rfl] at heq
      refine ⟨fun _ => ?_, fun hok => ?_⟩
      · rw [heq]
        exact undone_of_eq (hkept 0)
      · rw [heq] at hok
        exact absurd (hresult.symm.trans hok) nofun
  | false =>
      rw [hresult, if_neg Bool.false_ne_true] at heq
      refine ⟨fun hfailed => ?_, fun _ => ⟨(c.started db).module c.driverName 1, by rw [heq], ?_⟩⟩
      · rw [heq] at hfailed
        exact absurd (hfailed.symm.trans failed_sOk) nofun
      · intro calls db' hrun
        rw [heq] at hrun
        obtain ⟨references, rfl⟩ := freed_of_run hrun
        exact undone_of_eq (hkept references)

/-- **A driver's installation is undone, unless the call has created its service and cannot start it.** -/
theorem installationUndone_iff (c : Call) (db : Database) (hstop : c.stop.Succeed) :
    c.InstallationUndone db ↔ ¬ c.LeavesService db := by
  constructor
  · intro hundone hleaves
    exact not_installationUndone hleaves hundone
  · intro hnot
    by_cases hreaches : ∃ path, c.Reaches db path
    · obtain ⟨path, hpath⟩ := hreaches
      exact installationUndone_of_reaches hstop hpath (fun hleave => hnot ⟨⟨path, hpath⟩, hleave⟩)
    · obtain ⟨hfailed, hsame⟩ := createTestModuleFromDriver_of_not_reaches (not_exists.mp hreaches)
      exact ⟨fun _ => undone_of_eq hsame, fun hok => absurd (hfailed.symm.trans hok) nofun⟩

end Undone

/-! ### A driver that fails to start -/

def succeedingCalls : StartCalls := ⟨none, true, none, none, none, none⟩

/-- The reflector is running, the driver has no service. -/
def reflectorOnly : Database := fun name => if name = "cfixkr" then some ((Service.stopped 0).started) else none

/-- A call for `testklib1.sys`, which can be started. -/
def validDriver : Call where
  driverPath         := some "testklib1.sys"
  testModule         := true
  malloc             := true
  baseName           := fun path => String.ofList (path.toList.takeWhile (· ≠ '.'))
  findReflectorImage := sOk
  reflector          := succeedingCalls
  driver             := succeedingCalls
  initializeModule   := sOk
  stop               := ⟨none, none⟩

theorem installationUndone_validDriver : validDriver.InstallationUndone reflectorOnly :=
  (installationUndone_iff validDriver reflectorOnly ⟨rfl, rfl⟩).mpr (fun h => h.2.notStarted rfl)

/-- A call for `testklib6.sys`: a name in it is too long, so that its `DriverEntry` fails. -/
def overlongDriver : Call :=
  { validDriver with
    driverPath := some "testklib6.sys"
    driver     := { succeedingCalls with startService := some ⟨errorMoreData, by decide⟩ } }

theorem leavesService_overlongDriver : overlongDriver.LeavesService reflectorOnly := by
  refine ⟨⟨"testklib6.sys", rfl, rfl, rfl, by decide, by decide⟩, ⟨rfl, rfl, rfl, rfl⟩, ?_, nofun⟩
  exact if_neg (driverName_ne overlongDriver)

/-- The service stays installed, although the call fails. -/
theorem not_installationUndone_overlongDriver :
    ¬ ∀ (c : Call) (db : Database), c.stop.Succeed → c.InstallationUndone db := fun hall =>
  not_installationUndone leavesService_overlongDriver (hall overlongDriver reflectorOnly ⟨rfl, rfl⟩)

end Cfix.DriverService
