import Mathlib.Logic.Function.Basic
import LayoutAdblock.Interaction.Fallible

namespace LayoutAdblock.Interaction

/-! # Files

Every call may fail.  Renaming and removing are atomic and change nothing when
they fail; a copy is not, and what it was writing can be seen half done.  Some
files are shared: other processes may write, create or remove them at any time.
-/

abbrev Bytes := List UInt8

/-- The files a program can reach by their paths, and none where there is no file. -/
abbrev Files (Path : Type) := Path → Option Bytes

/-- An error of the system: its number, if it has one, and the text a message quotes. -/
structure IoError where
  rawOsError : Option Int
  text : String
deriving DecidableEq, Repr

/-- A call of the standard library about files. Its answer may always be an error, even of a
file that is there. -/
inductive FileCall (Path : Type) where
  | pathExists (path : Path)
  | isFile (path : Path)
  | metadata (path : Path)
  | canonicalize (path : Path)
  | openRead (path : Path)
  | read (path : Path)
  | createNew (path : Path)
  | copy (source destination : Path)
  | syncAll (path : Path)
  | rename (source destination : Path)
  | removeFile (path : Path)
deriving DecidableEq

/-- A probe answers `false` also when it cannot tell; `metadata` answers a length. -/
abbrev FileAnswer {Path : Type} : FileCall Path → Type
  | .pathExists _ | .isFile _ => Bool
  | .metadata _ => Except IoError Nat
  | .canonicalize _ => Except IoError String
  | .read _ => Except IoError Bytes
  | _ => Except IoError Unit

namespace FileCall

variable {Path : Type}

def Writes : FileCall Path → Path → Prop
  | .createNew path, name | .removeFile path, name => name = path
  | .copy _ destination, name => name = destination
  | .rename source destination, name => name = source ∨ name = destination
  | _, _ => False

end FileCall

section Steps

variable {Path : Type} {shared : Path → Prop} {before after : Files Path}

/-- Something is under this path. Nobody knows what holds for a path that others use as
well. -/
def Present (shared : Path → Prop) (files : Files Path) (path : Path) : Prop :=
  shared path ∨ files path ≠ none

/-- What a reader of a file may get: of a shared file, anything. -/
def Reads (shared : Path → Prop) (files : Files Path) (path : Path) (bytes : Bytes) : Prop :=
  shared path ∨ files path = some bytes

/-- The same files, but for what other processes do to the shared ones. -/
def Unshared (shared : Path → Prop) (before after : Files Path) : Prop :=
  ∀ path, ¬ shared path → after path = before path

variable [DecidableEq Path]

/-- What a call may answer, and the files it leaves. A call that fails leaves them alone,
except for a copy, after which the destination may hold anything. -/
def FileCall.effect (shared : Path → Prop) :
    (call : FileCall Path) → Files Path → FileAnswer call → Files Path → Prop
  | .pathExists path, before, answer, after | .isFile path, before, answer, after =>
      (answer = true → Present shared before path) ∧ after = before
  | .metadata path, before, answer, after =>
      (∀ length, answer = .ok length → ∃ bytes, Reads shared before path bytes ∧
        bytes.length = length) ∧ after = before
  | .canonicalize _, before, _, after => after = before
  | .openRead path, before, answer, after =>
      (answer = .ok () → Present shared before path) ∧ after = before
  | .read path, before, answer, after =>
      (∀ bytes, answer = .ok bytes → Reads shared before path bytes) ∧ after = before
  | .createNew path, before, .ok (), after =>
      before path = none ∧ after = Function.update before path (some [])
  | .createNew _, before, .error _, after => after = before
  | .copy source destination, before, .ok (), after =>
      ∃ bytes, Reads shared before source bytes ∧
        after = Function.update before destination (some bytes)
  | .copy _ destination, before, .error _, after =>
      ∃ bytes, after = Function.update before destination (some bytes)
  | .syncAll _, before, _, after => after = before
  | .rename source destination, before, .ok (), after =>
      before source ≠ none ∧
        after = Function.update (Function.update before destination (before source)) source none
  | .rename _ _, before, .error _, after => after = before
  | .removeFile path, before, .ok (), after =>
      before path ≠ none ∧ after = Function.update before path none
  | .removeFile _, before, .error _, after => after = before

/-- A call and whatever others do meanwhile to the paths they share. -/
def fileStep (shared : Path → Prop) (call : FileCall Path) (before : Files Path)
    (answer : FileAnswer call) (after : Files Path) : Prop :=
  ∃ files, call.effect shared before answer files ∧ Unshared shared files after

/-- The files that can be seen while a call is in progress. A copy is torn all along, and a
rename is not at any time. -/
def fileTorn (shared : Path → Prop) (call : FileCall Path) (before seen : Files Path) : Prop :=
  match call with
  | .copy _ destination =>
      ∃ bytes, Unshared shared (Function.update before destination (some bytes)) seen
  | _ => False

theorem fileStep_of_effect {call : FileCall Path} {answer : FileAnswer call}
    (effect : call.effect shared before answer after) :
    fileStep shared call before answer after :=
  ⟨after, effect, fun _ _ => rfl⟩

theorem fileStep_frame {call : FileCall Path} {answer : FileAnswer call} {path : Path}
    (step : fileStep shared call before answer after) (unshared : ¬ shared path)
    (untouched : ¬ call.Writes path) : after path = before path := by
  obtain ⟨files, effect, others⟩ := step
  rw [others path unshared]
  cases call with
  | pathExists name | isFile name | metadata name | openRead name | read name => rw [effect.2]
  | canonicalize name | syncAll name => rw [effect]
  | createNew name =>
      cases answer with
      | ok value => rw [effect.2, Function.update_of_ne untouched]
      | error error => rw [effect]
  | copy source destination =>
      cases answer with
      | ok value =>
          obtain ⟨bytes, _, changed⟩ := effect
          rw [changed, Function.update_of_ne untouched]
      | error error =>
          obtain ⟨bytes, changed⟩ := effect
          rw [changed, Function.update_of_ne untouched]
  | rename source destination =>
      cases answer with
      | ok value =>
          rw [effect.2, Function.update_of_ne fun same => untouched (.inl same),
            Function.update_of_ne fun same => untouched (.inr same)]
      | error error => rw [effect]
  | removeFile name =>
      cases answer with
      | ok value => rw [effect.2, Function.update_of_ne untouched]
      | error error => rw [effect]

theorem fileTorn_frame {call : FileCall Path} {path : Path}
    (torn : fileTorn shared call before after) (unshared : ¬ shared path)
    (untouched : ¬ call.Writes path) : after path = before path := by
  cases call with
  | copy source destination =>
      obtain ⟨bytes, others⟩ := torn
      rw [others path unshared, Function.update_of_ne untouched]
  | _ => exact torn.elim

theorem fileStep_pathExists {path : Path}
    (step : fileStep shared (.pathExists path) before true after) : Present shared before path := by
  obtain ⟨_, effect, _⟩ := step
  exact effect.1 rfl

theorem fileStep_read {path : Path} {bytes : Bytes}
    (step : fileStep shared (.read path) before (.ok bytes) after) :
    Reads shared before path bytes := by
  obtain ⟨_, effect, _⟩ := step
  exact effect.1 bytes rfl

theorem fileStep_createNew {path : Path}
    (step : fileStep shared (.createNew path) before (.ok ()) after) : before path = none := by
  obtain ⟨_, effect, _⟩ := step
  exact effect.1

theorem fileStep_createNew_error {name path : Path} {error : IoError}
    (step : fileStep shared (.createNew name) before (.error error) after)
    (unshared : ¬ shared path) : after path = before path := by
  obtain ⟨_, rfl, others⟩ := step
  exact others path unshared

theorem fileStep_copy {source destination : Path}
    (step : fileStep shared (.copy source destination) before (.ok ()) after)
    (unshared : ¬ shared destination) :
    ∃ bytes, Reads shared before source bytes ∧ after destination = some bytes := by
  obtain ⟨_, ⟨bytes, reads, rfl⟩, others⟩ := step
  refine ⟨bytes, reads, ?_⟩
  rw [others destination unshared, Function.update_self]

theorem fileStep_rename {source destination : Path}
    (step : fileStep shared (.rename source destination) before (.ok ()) after)
    (unshared : ¬ shared destination) (distinct : destination ≠ source) :
    after destination = before source := by
  obtain ⟨_, ⟨_, rfl⟩, others⟩ := step
  rw [others destination unshared, Function.update_of_ne distinct, Function.update_self]

theorem fileStep_rename_source {source destination : Path}
    (step : fileStep shared (.rename source destination) before (.ok ()) after) :
    before source ≠ none := by
  obtain ⟨_, effect, _⟩ := step
  exact effect.1

/-- A rename that fails leaves every file. -/
theorem fileStep_rename_error {source destination path : Path} {error : IoError}
    (step : fileStep shared (.rename source destination) before (.error error) after)
    (unshared : ¬ shared path) : after path = before path := by
  obtain ⟨_, rfl, others⟩ := step
  exact others path unshared

theorem fileStep_removeFile_error {name path : Path} {error : IoError}
    (step : fileStep shared (.removeFile name) before (.error error) after)
    (unshared : ¬ shared path) : after path = before path := by
  obtain ⟨_, rfl, others⟩ := step
  exact others path unshared

end Steps

end LayoutAdblock.Interaction
