import LayoutAdblock.Config.Recorded
import LayoutAdblock.Data.Utf16

namespace LayoutAdblock.Config

open Data Interaction

/-! # Starting with Windows

Whether the program starts with Windows is told by two registry values, the
command under `Run` and what the user has decided about it under
`StartupApproved`, and by a field of the settings.  A toggle changes all three.
-/

/-- What a registry function returns. The code only tells a missing key or value from any
other failure. -/
inductive Status where
  | success
  | fileNotFound
  | refused
deriving DecidableEq, Repr

/-- A key and the one value of it that matters; either may be missing. -/
abbrev RegKey (α : Type) := Option (Option α)

section Calls

variable {α : Type} (granted : Bool)

/-- `RegOpenKeyExW` -/
def regOpenKey (key : RegKey α) : Status :=
  if !granted then .refused else if key.isSome then .success else .fileNotFound

/-- `RegCreateKeyExW` -/
def regCreateKey (key : RegKey α) : Status × RegKey α :=
  if granted then (.success, some key.join) else (.refused, key)

/-- `RegQueryValueExW` -/
def regQueryValue (key : RegKey α) : Status :=
  if !granted then .refused else if key.join.isSome then .success else .fileNotFound

/-- `RegSetValueExW` -/
def regSetValue (data : α) (key : RegKey α) : Status × RegKey α :=
  if granted then (.success, some (some data)) else (.refused, key)

/-- `RegDeleteValueW` -/
def regDeleteValue (key : RegKey α) : Status × RegKey α :=
  if !granted then (.refused, key)
  else if key.join.isSome then (.success, some none) else (.fileNotFound, key)

end Calls

/-- `REG_SZ` -/
def regSz : UInt32 := 1

/-- A value of the `Run` key, of whatever type and with whatever data. -/
structure RunValue where
  kind : UInt32
  data : Bytes
deriving DecidableEq, Repr

/-- The two values of this program; only the data of the approval matters. -/
structure Registry where
  run : RegKey RunValue
  approved : RegKey Bytes
deriving DecidableEq, Repr

/-- Which calls of a reader the registry grants. -/
structure ReadGrants where
  openRun : Bool := true
  querySize : Bool := true
  queryData : Bool := true

/-- Which calls of a writer the registry grants. -/
structure WriteGrants where
  openRun : Bool := true
  writeRun : Bool := true
  openApproved : Bool := true
  writeApproved : Bool := true

/-- `startup_approved_is_enabled` -/
def startupApprovedIsEnabled (data : Bytes) : Bool :=
  match data.head? with
  | some flag => flag &&& 1 == 0
  | none => true

/-- `startup_approved_enable_blob` -/
def startupApprovedEnableBlob : Bytes := 2 :: List.replicate 11 0

/-- The text of a value ends at its first zero. What stands behind it is neither read nor
written again. -/
def commandUnits (data : List UInt16) : List UInt16 := data.takeWhile fun unit => unit != 0

def RunValue.command (value : RunValue) : String :=
  String.ofList (utf16Lossy (commandUnits (byteUnits value.data)))

/-- What is written for a command: its units, a zero behind them, and the type of a plain
string. -/
def commandValue (command : String) : RunValue where
  kind := regSz
  data := unitBytes (utf16 command.toList ++ [0])

/-- The command that starts the program with Windows, as far as it can be read. A failure
looks the same as an entry that is not there. -/
def getRunCommand (granted : ReadGrants) (registry : Registry) : Option String :=
  if regOpenKey granted.openRun registry.run != .success then none
  else if regQueryValue granted.querySize registry.run != .success then none
  else if regQueryValue granted.queryData registry.run != .success then none
  else registry.run.join.map RunValue.command

/-- The entry of the task manager is set to enabled as well, since it would keep the command
from being run. -/
def setStartupApprovedEnabled (granted : WriteGrants) (registry : Registry) : Registry × Bool :=
  let (created, key) := regCreateKey granted.openApproved registry.approved
  if created != .success then ({ registry with approved := key }, false)
  else
    let (written, key) := regSetValue granted.writeApproved startupApprovedEnableBlob key
    ({ registry with approved := key }, written == .success)

/-- The command is written as a plain string, whatever type the value had before. A failure
at any of the steps keeps what the earlier ones wrote. -/
def setRunCommand (granted : WriteGrants) (command : String) (registry : Registry) :
    Registry × Bool :=
  let (created, key) := regCreateKey granted.openRun registry.run
  if created != .success then ({ registry with run := key }, false)
  else
    let (written, key) := regSetValue granted.writeRun (commandValue command) key
    if written != .success then ({ registry with run := key }, false)
    else setStartupApprovedEnabled granted { registry with run := key }

/-- A key that does not open counts as one without the value. -/
def deleteStartupApproved (granted : WriteGrants) (registry : Registry) : Registry × Bool :=
  if regOpenKey granted.openApproved registry.approved != .success then (registry, true)
  else
    let (deleted, key) := regDeleteValue granted.writeApproved registry.approved
    ({ registry with approved := key }, deleted == .success || deleted == .fileNotFound)

/-- Both entries are removed, and it is no failure when one of them is missing. The second
is removed even if the first could not be. -/
def deleteRunCommand (granted : WriteGrants) (registry : Registry) : Registry × Bool :=
  let opened := regOpenKey granted.openRun registry.run
  if opened == .fileNotFound then deleteStartupApproved granted registry
  else if opened != .success then (registry, false)
  else
    let (deleted, key) := regDeleteValue granted.writeRun registry.run
    let (after, approved) := deleteStartupApproved granted { registry with run := key }
    (after, (deleted == .success || deleted == .fileNotFound) && approved)

/-- The start with Windows is switched on or off. -/
def setEnabled (granted : WriteGrants) (command : String) (enabled : Bool) (registry : Registry) :
    Registry × Bool :=
  if enabled then setRunCommand granted command registry else deleteRunCommand granted registry

/-- The way back after a failed save: the old command is written again, or the entry removed
where there was none. -/
def restoreCommand (granted : WriteGrants) (command : Option String) (registry : Registry) :
    Registry × Bool :=
  match command with
  | some command => setRunCommand granted command registry
  | none => deleteRunCommand granted registry

/-- What is said of a toggle that failed, with what has become of the rollback. -/
def toggleError (error : String) (restored : Bool) : String :=
  let report := if restored then "성공" else "실패: 시작 앱 상태를 확인하세요"
  s!"{error}; 이전 등록 복구 {report}"

/-- Change, then save, and take the change back if either fails. A change that has failed is
not saved. -/
def commitToggle {σ α : Type} (change : σ → σ × Bool) (save : σ → σ × Except IoError α)
    (rollback : σ → σ × Bool) (state : σ) : σ × Except String α :=
  let (changed, committed) := change state
  let (saved, result) :=
    if committed then
      let (saved, result) := save changed
      (saved, result.mapError fun error => s!"설정 저장 실패: {error.text}")
    else (changed, .error "시작프로그램 변경 실패")
  match result with
  | .ok value => (saved, .ok value)
  | .error error =>
      let (restored, done) := rollback saved
      (restored, .error (toggleError error done))

/-- What a toggle of the start with Windows changes: the registry and the settings on disk. -/
structure Startup where
  registry : Registry
  store : Store

/-- What the registry lets a toggle do. Reading, changing and undoing the change are granted
apart, for a policy may come in between. -/
structure ToggleGrants where
  read : ReadGrants := {}
  change : WriteGrants := {}
  rollback : WriteGrants := {}

/-- A change of the registry, as a step of the toggle. -/
def onRegistry (write : Registry → Registry × Bool) (state : Startup) : Startup × Bool :=
  ({ state with registry := (write state.registry).1 }, (write state.registry).2)

/-- The settings with the switch as it is meant to be. -/
def withStartup (next : Bool) (settings : AppSettings) : AppSettings :=
  { settings with runOnStartup := next }

/-- The command `ToggleStartup` of the tray, with the update of the settings that
is made when the toggle gets to it. -/
def toggleStartup {host : Host} {path : String} {fallback : AppSettings}
    (granted : ToggleGrants) (command : String) (next : Bool) (before : Startup)
    (run : UpdateRun host path fallback (withStartup next) before.store) :
    Startup × Except String AppSettings :=
  let previous := getRunCommand granted.read before.registry
  commitToggle (onRegistry (setEnabled granted.change command next))
    (fun state => ({ state with store := run.after }, run.result))
    (onRegistry (restoreCommand granted.rollback previous)) before

end LayoutAdblock.Config
