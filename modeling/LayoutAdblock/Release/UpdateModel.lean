import LayoutAdblock.Interaction.Files
import LayoutAdblock.Release.Manifest

namespace LayoutAdblock.Release

open LayoutAdblock.Core Data Interaction Interaction.Fallible

/-! # What the updater of the app sees

The updater asks for the manifest, and after a confirmation for the executable
that it describes.  Both answers come from the network and can be anything.
-/

/-- The kinds of `std::io::ErrorKind` that a request is repeated for, and all
others. -/
inductive IoErrorKind where
  | timedOut
  | interrupted
  | wouldBlock
  | connectionReset
  | connectionRefused
  | connectionAborted
  | unexpectedEof
  | notConnected
  | other (text : String)
deriving DecidableEq, Repr

/-- `ureq::Error` -/
inductive HttpError where
  | statusCode (code : UInt16)
  | timeout (text : String)
  | hostNotFound
  | connectionFailed
  | io (kind : IoErrorKind)
  | other (text : String)
deriving DecidableEq, Repr

/-- The arguments of a child process and the variables that it does not inherit. -/
structure Command where
  program : String
  args : List String
  removed : List String
deriving DecidableEq, Repr

/-- What waits for the restart: the helper to start, the file it replaces, the new file with
its digest, and the arguments the new version is started with. -/
structure StagedUpdate where
  helper : String
  currentExe : String
  replacement : String
  sha256 : String
  relaunchArgs : List String
deriving DecidableEq, Repr

/-- Paths are texts.  Instants count nanoseconds from 1970, and intervals
milliseconds. -/
inductive UpdateCall where
  | get (url : String)
  /-- The rest of the body, up to a number of bytes. -/
  | readBody (most : Nat)
  | sleep (ms : Nat)
  | clock
  /-- The clock as the check of a document reads it. -/
  | manifestClock (document : Bytes)
  | elapsed
  | currentExe
  | tempDir
  | arguments
  | environment
  | processId
  | fetchSequence
  | read (path : String)
  | copy (source destination : String)
  | write (path : String) (bytes : Bytes)
  | createDirAll (path : String)
  | removeFile (path : String)
  | spawn (command : Command)
  | tryWait
  | kill
  | wait
  | waitWithOutput
  | askYesNo (title message : String)
  | showBox (title message : String)
  -- the flag `UPDATE_IN_PROGRESS` and the update that waits for the exit
  | tryBeginUpdate
  | endUpdate
  | setPending (staged : StagedUpdate)
  | takePending
  | requestExit

/-- What these calls answer. Every call about the network or a file may be refused. -/
@[reducible] def UpdateCall.Answer : UpdateCall → Type
  | .get _ => Except HttpError Unit
  | .readBody _ => Except IoErrorKind Bytes
  | .clock | .manifestClock _ => Int
  | .elapsed => Nat
  | .currentExe => Except String String
  | .tempDir => String
  | .arguments | .environment => List String
  | .processId => UInt32
  | .fetchSequence => UInt64
  | .read _ => Except IoError Bytes
  | .copy _ _ | .write _ _ | .createDirAll _ | .removeFile _ => Except IoError Unit
  | .spawn _ => Except String Unit
  -- whether the child has exited
  | .tryWait => Except String Bool
  -- whether it succeeded, and what it printed
  | .waitWithOutput => Except String (Bool × Bytes)
  | .askYesNo _ _ | .tryBeginUpdate => Bool
  | .takePending => Option StagedUpdate
  | .sleep _ | .kill | .wait | .showBox _ _ | .endUpdate | .setPending _ | .requestExit => Unit

abbrev UpdateM := Program UpdateCall UpdateCall.Answer

/-- A part of the session that may end with an error. -/
abbrev UpdateE := Fallible UpdateCall UpdateCall.Answer UpdateError

def askUpdate (call : UpdateCall) : UpdateM call.Answer := Program.ask call

/-- What the app is built on: the crates of the manifest, the hex digest of `sha2`
and `hex`, how errors are displayed, and how often the loop that watches the clock
goes round at most. -/
structure UpdateHost where
  crates : Crates
  sha256Hex : Bytes → String
  displayHttp : HttpError → String
  polls : Nat

def version : String := "11.1.14"

/-- Where the manifest of the latest release is. -/
def manifestUrl : String :=
  "https://github.com/twbeatles/kakaotalk-layout-adblocker/releases/latest/download/update.json"

end LayoutAdblock.Release
