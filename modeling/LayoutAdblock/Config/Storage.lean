import Mathlib.Data.List.Sort
import Mathlib.Order.WithBot
import LayoutAdblock.Config.Model
import LayoutAdblock.Data.Digits

namespace LayoutAdblock.Config

open LayoutAdblock.Core Data Interaction Interaction.Fallible

def brokenBackupMaxAgeSecs : Nat := 30 * 24 * 60 * 60

/-- The number after the last hyphen of a name. -/
def stampOf (name : String) : Option Nat :=
  parseUnsigned (2 ^ 64) (name.toList.reverse.takeWhile fun ch => ch != '-').reverse

/-- The stamp in the name of a backup is older than a month. A name without a stamp never
expires. -/
def expired (instant : Nat) (name : String) : Bool :=
  (stampOf name).any fun secs => decide (brokenBackupMaxAgeSecs < instant - secs)

/-- `let _ = fs::remove_file(path)` -/
def removeQuietly (path : String) : ConfigM Unit := do
  let _ ← fileCall (.removeFile path)
  return ()

/-- Expired backups are removed and the others returned. A removal that fails is not
noticed, and its backup is left for the next time. -/
def dropExpired (instant : Nat) : List String → ConfigM (List String)
  | [] => return []
  | name :: rest =>
      if expired instant name then do
        removeQuietly name
        dropExpired instant rest
      else do
        let others ← dropExpired instant rest
        return name :: others

/-- Each backup with the time of its last change, which may be unknown. -/
def dateBackups : List String → ConfigM (List (WithBot Nat × String))
  | [] => return []
  | name :: rest => do
      let modified ← ask (.modified name)
      let others ← dateBackups rest
      return (modified, name) :: others

def backupPrefix (path : String) : String := path ++ ".broken-"

/-- Remove the backups of the file that are too old, and all but the last ten. -/
def cleanupBrokenBackups (path : String) : ConfigM Unit := do
  let instant ← ask .systemSecs
  let entries ← ask .readDir
  let backups ← dropExpired instant (entries.filter fun name => startsWith name (backupPrefix path))
  let dated ← dateBackups backups
  let sorted := dated.insertionSort fun first second => first.1 ≤ second.1
  Program.forEach (fun backup => removeQuietly backup.2) (sorted.take (sorted.length - 10))

/-- Process, counter and time make a name that no other backup of the file has. -/
def backupName (path : String) (pid : UInt32) (sequence : UInt64) (stamp : Nat) : String :=
  s!"{backupPrefix path}{pid}-{sequence}-{stamp}"

/-- The broken file is copied into a new file and synced. Nothing existing is overwritten,
since the file must not have been there. -/
def copyBackup (path backup : String) : ConfigE Unit := do
  attempt (fileCall (.openRead path))
  attempt (fileCall (.createNew backup))
  attempt (fileCall (.copy path backup))
  attempt (fileCall (.syncAll backup))

/-- Says whether the backup is complete, with the warning about it. What an incomplete one
has left is not removed here. -/
def backupBroken (host : Host) (path label reason : String) : ConfigM (Bool × String) := do
  let stamp ← ask .systemSecs
  let pid ← ask .processId
  let sequence ← ask .fetchSequence
  let backup := backupName path pid sequence stamp
  match ← (copyBackup path backup).run with
  | .ok () =>
      return (true, s!"{label} 손상 감지: {reason}. 백업 생성: {host.display backup}.")
  | .error error =>
      return (false, s!"{label} 손상 감지: {reason}. 백업 실패({error.text}). 원본 보존: 자동 복구/저장을 중단합니다.")

/-- The name a file is written under before it is renamed to its own. -/
def temporaryName (path : String) (pid : UInt32) (sequence : UInt64) : String :=
  s!"{path}.{pid}.{sequence}.tmp"

theorem temporary_apart (path : String) (pid : UInt32) (sequence : UInt64) :
    temporaryName path pid sequence ≠ path := by
  intro same
  have lengths := congrArg (fun text => text.toList.length) same
  simp [temporaryName, String.toList_append, toString] at lengths

/-- The text is written into a new file and synced before anything refers to it. -/
def writeTemporary (temporary text : String) : ConfigE Unit := do
  attempt (fileCall (.createNew temporary))
  attempt (ask (.writeAll temporary (encode text)))
  attempt (fileCall (.syncAll temporary))

/-- A file is written under a name of its own and renamed over the old one. A failure of
either removes the temporary file and leaves the old one as it was. -/
def atomicWrite (path text : String) : ConfigE Unit := do
  attempt (ask .createDirAll)
  let pid ← always (ask .processId)
  let sequence ← always (ask .fetchSequence)
  let temporary := temporaryName path pid sequence
  (writeTemporary temporary text).onError (removeQuietly temporary)
  (attempt (fileCall (.rename temporary path))).onError (removeQuietly temporary)

/-- The defaults a broken file is replaced by. Which file it is can only be told by its
label. -/
def defaultText (host : Host) (label : String) : String :=
  if containsText label "settings" then host.printSettings {} else host.defaultRules

/-- The broken file is replaced by the defaults, and a message says whether that worked.
Either way the program goes on with the defaults. -/
def healDefault (host : Host) (path label : String) : ConfigM String := do
  match ← (atomicWrite path (defaultText host label ++ "\n")).run with
  | .ok () => return s!"{label} 자동 복구 성공: 기본값 JSON으로 재생성했습니다."
  | .error error => return s!"{label} 자동 복구 실패({error.text}). 기본값으로 동작합니다."

/-- Back a broken file up, and only then put the default in its place. Without a backup the
file stays as it is and nothing is healed. -/
def healBroken (host : Host) (path label reason : String) : ConfigM (Json × List String) := do
  let (backedUp, warning) ← backupBroken host path label reason
  if backedUp then
    let healed ← healDefault host path label
    return (.object [], [warning, healed])
  else return (.object [], [warning])

/-- A file that is not UTF-8 is an error like any other of the system, without an error
code. -/
def readToString (path : String) : ConfigM (Except IoError String) := do
  let answer : Except IoError Bytes ← fileCall (.read path)
  match answer with
  | .error error => return .error error
  | .ok bytes =>
      match decode bytes with
      | some text => return .ok text
      | none => return .error { rawOsError := none, text := "stream did not contain valid UTF-8" }

/-- The object in a file with what there is to say about it. A file that is missing is an
empty object without a warning; one that holds no object is backed up and replaced by the
defaults. -/
def loadJsonValueUnlocked (host : Host) (path label : String) : ConfigM (Json × List String) := do
  cleanupBrokenBackups path
  let regular ← fileCall (.isFile path)
  if !regular then return (.object [], [])
  else
    match ← readToString path with
    | .error error => return (.object [], [s!"{label} 읽기 실패: {error.text}"])
    | .ok text =>
        match host.parse (stripBom text) with
        | some (.object fields) => return (.object fields, [])
        | some _ => healBroken host path label "최상위 타입이 object가 아님"
        | none => healBroken host path label "JSON 파싱 실패"

/-- The same under the mutex, with the refusal of the mutex as a warning. -/
def loadJsonValue (host : Host) (path label : String) : SharedM (Json × List String) :=
  critical (fun refusal => (.object [], [s!"{label} 설정 잠금 실패: {refusal.text}"]))
    (loadJsonValueUnlocked host path label)

/-- The name of the settings file, as its messages give it. -/
def settingsLabel : String := "layout_settings_v11.json"

/-- The name of the rules file, as its messages give it. -/
def rulesLabel : String := "layout_rules_v11.json"

/-- An empty object stands for a missing file if the file is still missing. A file with
nothing in its object is told from none that way. -/
def settingsAbsent (path : String) : Json → ConfigM Bool
  | .null => return true
  | .object [] => do
      let regular ← fileCall (.isFile path)
      return !regular
  | _ => return false

/-- A file that is not there gives the defaults; any other is laid over them field by field. -/
def finishSettings (path : String) (value : Json) (warnings : List String) :
    ConfigM (AppSettings × List String) := do
  let absent ← settingsAbsent path value
  if absent then return ({}, warnings)
  else
    let (settings, mergeWarnings) := mergeTypedSettings {} value settingsLabel
    return (settings, warnings ++ mergeWarnings)

/-- The settings at the start of the program with the warnings for the log. -/
def loadSettings (host : Host) (path : String) : SharedM (AppSettings × List String) := do
  let (value, warnings) ← loadJsonValue host path settingsLabel
  inLock (finishSettings path value warnings)

/-- What `load_rules` makes of the value touches no file. -/
def loadRules {α : Type} (host : Host) (path : String) (finish : Json → List String → α) :
    SharedM α := do
  let (value, warnings) ← loadJsonValue host path rulesLabel
  return finish value warnings

/-- The settings are written whole, with a line break at the end. -/
def saveSettingsUnlocked (host : Host) (path : String) (settings : AppSettings) : ConfigE Unit :=
  atomicWrite path (host.printSettings settings ++ "\n")

/-- The warning is of a file that could not be read, or not be backed up and so was left in
place. No change is written over such a file, for it would take what the user had with it. -/
def alarming (warning : String) : Bool :=
  containsText warning "원본 보존" || containsText warning "읽기 실패"

/-- A change from the tray is applied to the file as it is now, so that edits of the user
are kept. It is refused where reading the file raised an alarm. -/
def updateSettingsUnlocked (host : Host) (path : String) (fallback : AppSettings)
    (change : AppSettings → AppSettings) : ConfigE AppSettings := do
  let (value, warnings) ← always (loadJsonValueUnlocked host path settingsLabel)
  require (!warnings.any alarming)
    { rawOsError := none, text := "; ".intercalate warnings }
  let next := change (mergeTypedSettings fallback value settingsLabel).1
  saveSettingsUnlocked host path next
  return next

/-- Read, change and write under the lock. The change is a function of what is read, so that
no other process can come in between. -/
def updateSettings (host : Host) (path : String) (fallback : AppSettings)
    (change : AppSettings → AppSettings) : SharedM (Except IoError AppSettings) :=
  critical Except.error (updateSettingsUnlocked host path fallback change).run

end LayoutAdblock.Config
