import LayoutAdblock.Interaction.Files

namespace LayoutAdblock.Updater

open Interaction Interaction.Fallible

/-! # What the update helper sees

The helper is called for one installed executable and one staged download.  The
backup is `backup_path_for` the executable, and temporaries are the siblings
that `synced_copy` creates.
-/

/-- The files the helper works on, by what they are to it. The names of temporary files have
a time and a counter in them. -/
inductive FileName where
  | current
  | backup
  | replacement
  | temporary (stamp : Nat) (sequence : UInt64)
deriving DecidableEq, Repr

/-- Why the helper has failed, which decides whether the previous version may be started
again. -/
inductive HelperError where
  | currentMissing (path : FileName)
  | replacementMissing (path : FileName)
  | replacementEmpty (path : FileName)
  | waitTimeout (pid : UInt32)
  | backupFailed (text : String)
  | replaceFailed (text : String)
  | relaunchFailed (text : String)
  | rollbackFailed (text : String)
  | replacementHashMismatch (text : String)
deriving DecidableEq, Repr

/-- The one error after which the installed file need not be what it was. -/
def HelperError.isRollbackFailed : HelperError → Bool
  | rollbackFailed _ => true
  | _ => false

abbrev Nanos := Nat

def milliseconds (count : Nat) : Nanos := count * 1000000

/-- What an update is to do besides the swap. By default it starts nothing and checks no
digest. -/
structure UpdateOptions where
  relaunch : Bool := false
  relaunchArgs : List String := []
  expectedSha256 : Option String := none
  readinessTimeout : Option Nanos := none

/-- The hex digest of the `sha2` and `hex` crates, how a path is displayed, and
how often the two loops that watch the clock go round at most. -/
structure Host where
  sha256 : Bytes → String
  display : FileName → String
  retries : Nat
  polls : Nat

/-- What waiting for the app has come to: it has ended, the time has run out, or the wait
itself failed. -/
inductive WaitResult where
  | object0
  | timeout
  | other
deriving DecidableEq, Repr

/-- What the helper asks of the system: calls about files, about the app it waits for and
about the app it starts. A ready file belongs to one start and is named by its time. -/
inductive Call where
  | file (call : FileCall FileName)
  | openProcess (pid : UInt32)
  | waitForSingleObject (timeoutMs : Nat)
  | closeHandle
  | systemTime
  | fetchSequence
  | now
  | sleep (duration : Nanos)
  | createReadyDir (stamp : Nat)
  | spawn (args : List String) (ready : Option Nat)
  | tryWait
  | kill
  | waitChild
  | readReady (stamp : Nat)
  | removeReady (stamp : Nat)
  | removeReadyDir (stamp : Nat)

/-- What these calls answer. Calls whose failure the code does not look at answer nothing. -/
@[reducible] def Call.Answer : Call → Type
  | .file call => FileAnswer call
  | .openProcess _ => Bool
  | .waitForSingleObject _ => WaitResult
  | .systemTime => Except String Nat
  | .fetchSequence => UInt64
  | .now => Nanos
  | .createReadyDir _ => Except String Unit
  | .spawn _ _ => Except String UInt32
  | .tryWait => Except String (Option String)
  | .readReady _ => Option String
  | .closeHandle | .sleep _ | .kill | .waitChild | .removeReady _ | .removeReadyDir _ => Unit

abbrev HelperM := Program Call Call.Answer

/-- A part of the helper that may end with an error. -/
abbrev HelperE (ε : Type) := Fallible Call Call.Answer ε

def ask (call : Call) : HelperM call.Answer := Program.ask call

def fileCall (call : FileCall FileName) : HelperM (FileAnswer call) := ask (.file call)

/-- Whether something is under the path. A failed look answers that nothing is. -/
def pathExists (path : FileName) : HelperM Bool := fileCall (.pathExists path)

def metadataLen (path : FileName) : HelperM (Except IoError Nat) := fileCall (.metadata path)

/-- `canonicalize().ok()` -/
def canonical (path : FileName) : HelperM (Option String) := do
  let answer : Except IoError String ← fileCall (.canonicalize path)
  return answer.toOption

/-- `let _ = fs::remove_file(path)` -/
def removeQuietly (path : FileName) : HelperM Unit := do
  let _ ← fileCall (.removeFile path)
  return ()

/-- The digest of a file, which is read whole for it. -/
def sha256File (host : Host) (path : FileName) : HelperE IoError String := do
  let bytes ← attempt (fileCall (.read path))
  return host.sha256 bytes

/-- Digests are compared whatever the case of their letters. -/
def eqIgnoreAsciiCase (first second : String) : Bool :=
  first.toList.map Char.toLower == second.toList.map Char.toLower

end LayoutAdblock.Updater
