import LayoutAdblock.Updater.Transaction

namespace LayoutAdblock.Updater

open Interaction Interaction.Fallible

/-! # The update helper -/

/-- A process that cannot be opened has exited already, as the program sees it. Any end of
the wait but a time-out counts as well. -/
def waitForProcessExit (pid : UInt32) (timeout : Nanos) : HelperE HelperError Unit :=
  if pid = 0 then pure () else do
    let opened ← always (ask (.openProcess pid))
    if opened then
      let result ← always (ask (.waitForSingleObject (min (timeout / milliseconds 1) 4294967295)))
      always (ask .closeHandle)
      require (result ≠ .timeout) (.waitTimeout pid)
    else pure ()

/-- The error of a recovery at the start of the helper, with both paths in its text. -/
def recoveryFailed (host : Host) (error : IoError) : HelperError :=
  .rollbackFailed
    s!"interrupted update recovery failed ({host.display .backup} -> {host.display .current}): {error.text}"

/-- Whether the installed file counts as missing with its backup still there. -/
def interrupted : HelperM Bool := do
  let installed ← pathExists .current
  if installed then return false else pathExists .backup

/-- A previous run that stopped between its two renames left the installed
executable in the backup only. -/
def recoverInterruptedSwap (host : Host) : HelperE HelperError Bool := do
  let recover ← always interrupted
  if recover then
    (attempt (rename .backup .current)).mapError (recoveryFailed host)
    return true
  else return false

/-- What one look at the child has shown: when it first acknowledged, and whether it is
ready now. -/
structure Poll where
  acknowledged : Option Nanos
  ready : Bool

def pollExit : HelperE String Unit := do
  match ← always (ask .tryWait) with
  | .ok none => pure ()
  | .ok (some status) => throw s!"app exited before readiness: {status}"
  | .error error =>
      always (ask .kill)
      always (ask .waitChild)
      throw error

/-- The first acknowledgment counts, and the child has to survive it by 250 ms. -/
def pollReady (child : UInt32) (stamp : Nat) (acknowledged : Option Nanos) : HelperM Poll := do
  let content ← ask (.readReady stamp)
  if content = some (toString child) then
    let first ← match acknowledged with
      | some first => pure first
      | none => ask .now
    let time ← ask .now
    return { acknowledged := some first, ready := milliseconds 250 ≤ time - first }
  else return { acknowledged := acknowledged, ready := false }

/-- One look at the child. It has to be running still, and only then is its ready file
looked at. -/
def pollChild (child : UInt32) (stamp : Nat) (acknowledged : Option Nanos) :
    HelperE String Poll := do
  pollExit
  always (pollReady child stamp acknowledged)

/-- A child that does not get ready is ended and waited for, so that it is gone before
anything is put back. -/
def giveUpOnChild : HelperE String Unit := do
  always (ask .kill)
  always (ask .waitChild)
  throw "app readiness timed out"

/-- The rounds until the child is ready. When `polls` runs out the deadline counts as
passed, so that the loop ends in the model as it does by the clock. -/
def awaitReady (child : UInt32) (stamp : Nat) (deadline : Nanos) :
    Nat → Option Nanos → HelperE String Unit
  | 0, acknowledged => do
      let poll ← pollChild child stamp acknowledged
      if poll.ready then pure () else giveUpOnChild
  | polls + 1, acknowledged => do
      let poll ← pollChild child stamp acknowledged
      if poll.ready then pure () else do
        let time ← always (ask .now)
        if deadline ≤ time then giveUpOnChild else do
          always (ask (.sleep (milliseconds 20)))
          awaitReady child stamp deadline polls poll.acknowledged

/-- The app is started and watched until it is ready or its time has run out. The time
counts from its start. -/
def launchAcknowledged (host : Host) (args : List String) (stamp : Nat) (timeout : Nanos) :
    HelperE String Unit := do
  let child ← attempt (ask (.spawn args (some stamp)))
  let start ← always (ask .now)
  awaitReady child stamp (start + timeout) host.polls none

/-- The new version is started. Without a time to get ready it is not watched at all;
otherwise its ready file is removed again, whatever has come of it. -/
def launchVerified (host : Host) (args : List String) : Option Nanos → HelperE String Unit
  | none => do
      let _ ← attempt (ask (.spawn args none))
      return ()
  | some timeout => do
      let stamp ← attempt (ask .systemTime)
      attempt (ask (.createReadyDir stamp))
      Fallible.afterwards (launchAcknowledged host args stamp timeout) do
        ask (.removeReady stamp)
        ask (.removeReadyDir stamp)

/-- Both executables have to be there, and the installed one is asked for first. -/
def checkPaths : HelperE HelperError Unit := do
  let installed ← always (pathExists .current)
  require installed (.currentMissing .current)
  let staged ← always (pathExists .replacement)
  require staged (.replacementMissing .replacement)

/-- Does the staged path lead to one of the files the swap replaces? Links are followed, and
a path that leads nowhere aliases none. -/
def aliasesInstalled : HelperM Bool := do
  let source ← canonical .replacement
  if source.isSome then
    let installed ← canonical .current
    if source = installed then return true else
      let backup ← canonical .backup
      return source = backup
  else return false

/-- The download has to be a file of its own, under no name of the installed files, and must
not be empty. -/
def checkReplacement : HelperE HelperError Unit := do
  let aliased ← always aliasesInstalled
  require (!aliased) (.replaceFailed "replacement must be a separate download")
  let length ← (attempt (metadataLen .replacement)).mapError fun _ =>
    .replacementMissing .replacement
  require (length != 0) (.replacementEmpty .replacement)

/-- A staged file with the wrong digest is removed. -/
def verifyStaged (host : Host) : Option String → HelperE HelperError Unit
  | none => pure ()
  | some expected => do
      let actual ← (sha256File host .replacement).mapError fun error =>
        .replacementHashMismatch error.text
      if eqIgnoreAsciiCase actual expected then pure () else do
        always (removeQuietly .replacement)
        throw (.replacementHashMismatch s!"expected {expected}, got {actual}")

/-- A new version that does not come up is rolled back, and the error says whether that has
worked. -/
def relaunchUpdated (host : Host) (options : UpdateOptions) : HelperE HelperError Unit :=
  if options.relaunch then ExceptT.mk do
    match ← (launchVerified host options.relaunchArgs options.readinessTimeout).run with
    | .ok () => return .ok ()
    | .error error =>
        (do
          restorePreviousVersion host
          throw (.relaunchFailed error) : HelperE HelperError Unit).run
  else pure ()

/-- `update_executable_with`, from the recovered installation on: the checks, the swap, the
launch, and the backup that is then removed. -/
def installReplacement (host : Host) (options : UpdateOptions) : HelperE HelperError Unit := do
  checkPaths
  checkReplacement
  verifyStaged host options.expectedSha256
  let prepared ← PreparedInstall.prepare host options.expectedSha256
  prepared.commit host
  always (removeQuietly .replacement)
  relaunchUpdated host options
  always (removeQuietly .backup)

/-- The update itself: once the app has ended, an interrupted swap is undone, and then the
download is installed. -/
def updateExecutableWith (host : Host) (pid : UInt32) (timeout : Nanos)
    (options : UpdateOptions) : HelperE HelperError Unit := do
  waitForProcessExit pid timeout
  let _ ← recoverInterruptedSwap host
  installReplacement host options

end LayoutAdblock.Updater
