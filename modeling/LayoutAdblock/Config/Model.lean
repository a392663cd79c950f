import LayoutAdblock.Config.Settings
import LayoutAdblock.Core.Text
import LayoutAdblock.Interaction.Files
import LayoutAdblock.Interaction.Locked

namespace LayoutAdblock.Config

open LayoutAdblock.Core Data Interaction Interaction.Fallible

/-! # What the configuration sees

The configuration files, their backups and their temporaries are siblings in one
directory, so a path is a name in it.
-/

/-- `serde_json` as a reader of any text and a printer of settings, and how a path is
displayed in a warning. -/
structure Host where
  parse : String → Option Json
  printSettings : AppSettings → String
  defaultRules : String
  display : String → String

/-- What the storage of the settings asks of the system. Besides the calls about one file it
lists the directory, and it makes its names from the clock, the process and a counter. -/
inductive Call where
  | file (call : FileCall String)
  | writeAll (path : String) (bytes : Bytes)
  | createDirAll
  | readDir
  | modified (path : String)
  | systemSecs
  | processId
  | fetchSequence
deriving DecidableEq

/-- What each of these calls answers. A time that cannot be read is none, and a directory
that cannot be read lists nothing. -/
@[reducible] def Call.Answer : Call → Type
  | .file call => FileAnswer call
  | .writeAll _ _ | .createDirAll => Except IoError Unit
  | .readDir => List String
  | .modified _ => Option Nat
  | .systemSecs => Nat
  | .processId => UInt32
  | .fetchSequence => UInt64

/-- A program that asks for these calls and cannot fail. -/
abbrev ConfigM := Program Call Call.Answer

/-- A program that may end with the error of a call. -/
abbrev ConfigE (α : Type) := Fallible Call Call.Answer IoError α

/-- Programs of several processes, which share the configuration lock. -/
abbrev SharedM (α : Type) := Locked Call Call.Answer IoError α

def ask (call : Call) : ConfigM call.Answer := Program.ask call

def fileCall (call : FileCall String) : ConfigM (FileAnswer call) := ask (.file call)

def encode (text : String) : Bytes := text.toByteArray.data.toList

def decode (bytes : Bytes) : Option String := String.fromUTF8? ⟨bytes.toArray⟩

@[simp] theorem decode_encode (text : String) : decode (encode text) = some text := by
  have same : (⟨(encode text).toArray⟩ : ByteArray) = text.toByteArray := by
    simp [encode]
  simp only [decode, same, String.fromUTF8?, dif_pos text.isValidUTF8]
  rfl

def stripBom (text : String) : String :=
  match text.toList with
  | '\uFEFF' :: rest => String.ofList rest
  | _ => text

/-- Bytes that are the text of a JSON object, after an optional byte order mark. -/
def readObject (host : Host) (bytes : Bytes) : Option (List (String × Json)) :=
  match (decode bytes).bind fun text => host.parse (stripBom text) with
  | some (.object fields) => some fields
  | _ => none

/-- The directory of the settings. What was synced is only kept for the proofs; no call can
see it. -/
structure Store where
  files : Files String
  /-- Ghost: the file was synced by this process after its last change. -/
  synced : String → Prop

/-- The file the call may change, which is the target of a rename as well. -/
def Call.Writes : Call → String → Prop
  | .file call, name => call.Writes name
  | .writeAll path _, name => name = path
  | _, _ => False

def syncedAfter (synced : String → Prop) : (op : Call) → op.Answer → String → Prop
  | .file (.syncAll path), .ok () => fun name => synced name ∨ name = path
  | .file (.rename source destination), .ok () => fun name =>
      name ≠ source ∧ (name = destination ∧ synced source ∨ name ≠ destination ∧ synced name)
  | op, _ => fun name => synced name ∧ ¬ op.Writes name

/-- Any call may fail.  A write is not atomic, and appends when it succeeds. -/
def directory : Environment Call Call.Answer Store where
  step op before answer after :=
    after.synced = syncedAfter before.synced op answer ∧
      match op, answer with
      | .file call, answer => fileStep (fun _ => False) call before.files answer after.files
      | .writeAll path bytes, .ok () =>
          after.files = Function.update before.files path
            (some ((before.files path).getD [] ++ bytes))
      | .writeAll path _, .error _ =>
          ∃ written, after.files = Function.update before.files path (some written)
      | _, _ => after.files = before.files
  torn op before seen :=
    (seen.synced = fun name => before.synced name ∧ ¬ op.Writes name) ∧
      match op with
      | .file call => fileTorn (fun _ => False) call before.files seen.files
      | .writeAll path _ =>
          ∃ written, seen.files = Function.update before.files path (some written)
      | _ => False

section Frame

variable {before after : Store} {op : Call} {answer : op.Answer} {name : String}

theorem step_files (step : directory.step op before answer after) (untouched : ¬ op.Writes name) :
    after.files name = before.files name := by
  cases op with
  | file call => exact fileStep_frame step.2 id untouched
  | writeAll path bytes =>
      have different : name ≠ path := untouched
      cases answer with
      | ok value => rw [step.2, Function.update_of_ne different]
      | error error =>
          obtain ⟨written, changed⟩ := step.2
          rw [changed, Function.update_of_ne different]
  | _ => rw [step.2]

theorem torn_files (torn : directory.torn op before after) (untouched : ¬ op.Writes name) :
    after.files name = before.files name := by
  cases op with
  | file call => exact fileTorn_frame torn.2 id untouched
  | writeAll path bytes =>
      obtain ⟨written, changed⟩ := torn.2
      have different : name ≠ path := untouched
      rw [changed, Function.update_of_ne different]
  | _ => exact torn.2.elim

theorem step_synced (step : directory.step op before answer after) (untouched : ¬ op.Writes name)
    (synced : before.synced name) : after.synced name := by
  rw [step.1]
  unfold syncedAfter
  split
  · exact Or.inl synced
  · refine ⟨fun same => untouched (Or.inl same), Or.inr ⟨?_, synced⟩⟩
    exact fun same => untouched (Or.inr same)
  · exact ⟨synced, untouched⟩

theorem torn_synced (torn : directory.torn op before after) (untouched : ¬ op.Writes name)
    (synced : before.synced name) : after.synced name := by
  rw [torn.1]
  exact ⟨synced, untouched⟩

end Frame

end LayoutAdblock.Config
