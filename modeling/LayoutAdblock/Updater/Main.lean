import LayoutAdblock.Updater.Child

namespace LayoutAdblock.Updater

open Interaction Interaction.Fallible Interaction.Environment

/-! # The process of the helper

What `main` does with the result of an update or of a recovery, up to the exit code
and the text that is shown at the end.
-/

/-- The command line.  The two paths on it are the files `current` and
`replacement`. -/
structure Cli where
  protocolVersion : Bool := false
  recover : Bool := false
  pid : UInt32 := 0
  timeoutSecs : Nat := 30
  noRelaunch : Bool := false
  relaunchArg : List String := []
  sha256 : Option String := none

/-- How the helper ends: its exit code, and what it shows or prints. -/
structure Ended where
  code : UInt32
  shown : Option String := none

/-- What the helper answers to a probe. An app that expects another text does not use it. -/
def helperProtocol : String := "kakao-updater-protocol-2"

/-- `HelperError::to_string` -/
def HelperError.text (host : Host) : HelperError → String
  | currentMissing path => s!"현재 실행 파일이 존재하지 않습니다: {host.display path}"
  | replacementMissing path => s!"새 업데이트 파일이 존재하지 않습니다: {host.display path}"
  | replacementEmpty path => s!"새 업데이트 파일 크기가 0입니다: {host.display path}"
  | waitTimeout pid => s!"상위 프로세스({pid}) 대기 시간 초과"
  | backupFailed text => s!"백업 생성 실패: {text}"
  | replaceFailed text => s!"실행 파일 교체 실패: {text}"
  | relaunchFailed text => s!"새 버전 실행 실패: {text}"
  | rollbackFailed text => s!"롤백 실패: {text}"
  | replacementHashMismatch text => s!"새 업데이트 파일 해시가 일치하지 않습니다: {text}"

/-- Whether the previous version may be started again. After a wait that timed out the app
still runs. -/
def shouldRelaunchPrevious : HelperError → Bool
  | .waitTimeout _ => false
  | _ => true

/-- The previous version is started again, if it is there. Its start is not watched. -/
def relaunchPrevious (args : List String) : HelperM Bool := do
  let regular ← fileCall (.isFile .current)
  if !regular then return false
  else
    match ← ask (.spawn args none) with
    | .ok _ => return true
    | .error _ => return false

/-- A download that is not installed is removed. -/
def discardReplacement : HelperM Unit := do
  let regular ← fileCall (.isFile .replacement)
  if regular then removeQuietly .replacement else return ()

/-- Is the staged path another file than the installed one and its backup? -/
def separateDownload : HelperM Bool := do
  let source ← canonical .replacement
  let installed ← canonical .current
  if source = installed then return false
  else
    let again ← canonical .replacement
    let backup ← canonical .backup
    return again ≠ backup

theorem separateDownload_looks : separateDownload.Only Looking := by
  apply (canonical_looks .replacement).bind
  intro source
  apply (canonical_looks .current).bind
  intro installed
  split
  · trivial
  · exact (canonical_looks .replacement).bind fun _ =>
      (canonical_looks .backup).bind fun _ => trivial

/-- How long the helper waits for the app to end. -/
def timeoutOf (cli : Cli) : Nanos := milliseconds (cli.timeoutSecs * 1000)

/-- What the command line says about the launch after the update. There is a time to get
ready exactly where there is a digest. -/
def optionsOf (cli : Cli) : UpdateOptions where
  relaunch := !cli.noRelaunch
  relaunchArgs := cli.relaunchArg
  expectedSha256 := cli.sha256
  readinessTimeout := cli.sha256.map fun _ => milliseconds 60000

/-- A malformed invocation must not remove the installed file. -/
def discardSeparate : HelperM Unit := do
  let separate ← separateDownload
  if separate then discardReplacement else return ()

/-- After a failed update the previous version is started again, unless the command line or
the error forbids it. -/
def restartPrevious (cli : Cli) (error : HelperError) : HelperM Bool :=
  if !cli.noRelaunch && shouldRelaunchPrevious error then relaunchPrevious cli.relaunchArg
  else return false

/-- The update has failed: the download is removed, unless it is an installed file, and the
previous version is started again where the error allows it. -/
def cleanUpUpdate (host : Host) (cli : Cli) (error : HelperError) : HelperM Ended := do
  discardSeparate
  let relaunched ← restartPrevious cli error
  return {
    code := 1
    shown := some (if relaunched then
        s!"{error.text host}\n\n이전 버전으로 다시 실행했습니다."
      else error.text host) }

/-- The run of an update. It shows something only where it has failed. -/
def updateMain (host : Host) (cli : Cli) : HelperM Ended := do
  match ← (updateExecutableWith host cli.pid (timeoutOf cli) (optionsOf cli)).run with
  | .ok () => return { code := 0 }
  | .error error => cleanUpUpdate host cli error

/-- The run of a recovery, which puts the backup back in place of the installed file and
starts it. Where it fails, the user is told that the backups are kept. -/
def recoverMain (host : Host) (cli : Cli) : HelperM Ended := do
  match ← (do
      waitForProcessExit cli.pid (timeoutOf cli)
      restorePreviousVersion host : HelperE HelperError Unit).run with
  | .error error =>
      return {
        code := 1
        shown := some s!"{error.text host}\n차단기를 종료한 뒤 다시 시도하세요. 백업은 보존됩니다." }
  | .ok () =>
      if cli.noRelaunch then return { code := 0 }
      else
        let relaunched ← relaunchPrevious cli.relaunchArg
        if relaunched then return { code := 0 }
        else
          return {
            code := 1
            shown := some "이전 버전을 복원했지만 실행하지 못했습니다. 백업은 보존됩니다." }

/-- The helper answers a probe, recovers or updates, as its command line says. A probe
touches no file. -/
def helperMain (host : Host) (cli : Cli) : HelperM Ended :=
  if cli.protocolVersion then return { code := 0, shown := some helperProtocol }
  else if cli.recover then recoverMain host cli
  else updateMain host cli

end LayoutAdblock.Updater
