import LayoutAdblock.Updater.Model

namespace LayoutAdblock.Updater

open Interaction Interaction.Fallible

/-! # The swap of the installed executable -/

/-- Sharing violations of a lingering image mapping or a virus scanner, which are over in a
moment. -/
def transient (error : IoError) : Bool :=
  error.rawOsError ∈ [some 5, some 32, some 33]

/-- One file of the update is renamed over another. -/
def rename (source destination : FileName) : HelperM (Except IoError Unit) :=
  fileCall (.rename source destination)

/-- A rename that fails for a while, because another program has the file open, is tried
again until the deadline. Any other error is final. -/
def retryRename (source destination : FileName) (deadline : Nanos) : Nat → HelperE IoError Unit
  | 0 => attempt (rename source destination)
  | retries + 1 => ExceptT.mk do
      match ← rename source destination with
      | .ok () => return .ok ()
      | .error error =>
          if transient error then
            let time ← ask .now
            if time < deadline then
              ask (.sleep (milliseconds 20))
              (retryRename source destination deadline retries).run
            else return .error error
          else return .error error

def replaceFile (host : Host) (source destination : FileName) : HelperE IoError Unit := do
  let start ← always (ask .now)
  retryRename source destination (start + milliseconds 2000) host.retries

/-- A new file is filled with a copy and synced, before it is renamed to where it belongs. -/
def fillCopy (source destination : FileName) : HelperE IoError Unit := do
  attempt (fileCall (.copy source destination))
  attempt (fileCall (.syncAll destination))

/-- A copy under a name of its own. The `PendingFile` of it is the caller's to remove, and a
copy that fails removes itself. -/
def syncedCopy (source : FileName) : HelperE IoError FileName := do
  attempt (fileCall (.openRead source))
  let stamp ← (attempt (ask .systemTime)).mapError fun text =>
    { rawOsError := none, text := text : IoError }
  let sequence ← always (ask .fetchSequence)
  attempt (fileCall (.createNew (.temporary stamp sequence)))
  (fillCopy source (.temporary stamp sequence)).onError
    (removeQuietly (.temporary stamp sequence))
  return .temporary stamp sequence

/-- The copies an installation has made next to the installed file, of the download and of
that file. -/
structure PreparedInstall where
  replacement : FileName
  backup : FileName

/-- The digest is that of the copy which is going to be installed, not of the download it
was made of. -/
def verifyCopy (host : Host) (copy : FileName) : Option String → HelperE HelperError Unit
  | none => pure ()
  | some expected => do
      let actual ← (sha256File host copy).mapError fun error => .replacementHashMismatch error.text
      require (eqIgnoreAsciiCase actual expected) (.replacementHashMismatch actual)

/-- `metadata` succeeds with a positive length. -/
def hasContents (path : FileName) : HelperM Bool := do
  let length ← metadataLen path
  match length with
  | .ok length => return length != 0
  | .error _ => return false

namespace PreparedInstall

/-- Everything that can fail before the installed file is touched: both copies are made,
synced and checked. -/
def prepare (host : Host) (expected : Option String) : HelperE HelperError PreparedInstall := do
  let installed ← always (canonical .current)
  let staged ← always (canonical .replacement)
  require (!(FileName.current == .replacement || installed == staged))
    (.replaceFailed "replacement equals current")
  let filled ← always (hasContents .replacement)
  require filled (.replacementEmpty .replacement)
  let copy ← (syncedCopy .replacement).mapError fun error => .replaceFailed error.text
  (verifyCopy host copy expected).onError (removeQuietly copy)
  let original ← ((syncedCopy .current).mapError fun error => .backupFailed error.text).onError
    (removeQuietly copy)
  return { replacement := copy, backup := original }

/-- Both pending files are dropped at the end, also those a rename consumed. -/
def commit (host : Host) (prepared : PreparedInstall) : HelperE HelperError Unit :=
  Fallible.afterwards
    (do
      (replaceFile host prepared.backup .backup).mapError fun error => .backupFailed error.text
      (replaceFile host prepared.replacement .current).mapError fun error =>
        .replaceFailed error.text)
    (do
      removeQuietly prepared.replacement
      removeQuietly prepared.backup)

end PreparedInstall

def usableBackup : HelperM Bool := do
  let regular ← fileCall (.isFile .backup)
  if regular then hasContents .backup else return false

/-- The backup is copied and the copy renamed over the installed file, so the backup is
still there when that fails. -/
def restorePreviousVersion (host : Host) : HelperE HelperError Unit := do
  let usable ← always usableBackup
  require usable (.rollbackFailed "usable backup missing")
  let copy ← (syncedCopy .backup).mapError fun error => .rollbackFailed error.text
  Fallible.afterwards
    ((replaceFile host copy .current).mapError fun error => .rollbackFailed error.text)
    (removeQuietly copy)

end LayoutAdblock.Updater
