import Mathlib.Algebra.Ring.Nat
import LayoutAdblock.Data.Flow
import LayoutAdblock.Interaction.Files

namespace LayoutAdblock.Config

open Data
open Interaction (Bytes)

/-! # The rotating log

Every call on the files may fail, each time it is made.
-/

/-- The bound at which the length of a log saturates. -/
def u64Max : Nat := 2 ^ 64 - 1

/-- Five mebibytes. A log may be that long; it is rotated when it would be longer. -/
def logRotateBytes : Nat := 5 * 1024 * 1024

/-- The log and what the last rotation has left of the one before.  No file is longer
than its length can say. -/
structure LogFiles where
  log : Option Bytes
  rotated : Option Bytes
  sized : (log.getD []).length ≤ u64Max

/-- Whether the calls that are made for a record succeed; a write that does says how
many bytes it has taken. -/
structure LogAnswers where
  remove : Bool
  rename : Bool
  opens : Bool
  write : Option Nat

namespace LogFiles

/-- The length of the log, which is zero where there is none. -/
def size (files : LogFiles) : Nat := (files.log.getD []).length

/-- What the pair of files holds, the older bytes first. -/
def held (files : LogFiles) : Bytes := files.rotated.getD [] ++ files.log.getD []

end LogFiles

/-- The rotated log is removed and the log renamed to it. Neither answer is looked at, so a
failed rename after a removal leaves the log as it is and nothing rotated. -/
def rotateLogNow (answers : LogAnswers) (files : LogFiles) : LogFiles :=
  let removed := if answers.remove then { files with rotated := none } else files
  if answers.rename then
    match removed.log with
    | none => removed
    | some log => { log := none, rotated := some log, sized := Nat.zero_le _ }
  else removed

/-- The check at the start of the program, of a log that an earlier one left. -/
def rotateLogIfNeeded (answers : LogAnswers) (files : LogFiles) : LogFiles :=
  if files.size ≤ logRotateBytes then files else rotateLogNow answers files

/-- A log that is opened for appending is created where it is missing, and is otherwise as
it was. -/
def openAppend (files : LogFiles) : LogFiles :=
  { files with log := some (files.log.getD []), sized := files.sized }

/-- The bytes that a write takes: no more than the record has and the file can hold. -/
def taken (files : LogFiles) (count : Nat) (record : Bytes) : Bytes :=
  record.take (min count (u64Max - files.size))

/-- As much of a record as the write took is added at the end of the log. -/
def append (files : LogFiles) (count : Nat) (record : Bytes) : LogFiles where
  log := some (files.log.getD [] ++ taken files count record)
  rotated := files.rotated
  sized := by
    have sized := files.sized
    simp only [Option.getD_some, List.length_append, taken, List.length_take, LogFiles.size]
    omega

/-- The log with its rotated predecessor. The handle is the length that `RotatingLog` tracks
for the open file; a rotation closes it, and so does a write that fails. -/
structure RotatingLog where
  files : LogFiles
  maxBytes : Nat
  handle : Option Nat

/-- A record with the answers it meets, which nothing about the record decides. -/
structure LogStep where
  answers : LogAnswers
  record : Bytes

namespace RotatingLog

/-- `RotatingLog::open` -/
def openLog (answers : LogAnswers) (maxBytes : Nat) (files : LogFiles) : Option RotatingLog :=
  if answers.opens then
    let files := openAppend (rotateLogIfNeeded answers files)
    some { files := files, maxBytes := max maxBytes (64 * 1024), handle := some files.size }
  else none

/-- A handle is open and the record would make the log too long. Without a handle the length
is not known, and nothing is rotated. -/
def needsRotate (log : RotatingLog) (record : Bytes) : Bool :=
  log.handle.any fun len => decide (log.maxBytes < min (len + record.length) u64Max)

/-- The first half of a record: rotating, and opening the file when it is not open. -/
def prepared (log : RotatingLog) (step : LogStep) : RotatingLog :=
  let rotated :=
    if log.needsRotate step.record then
      { log with handle := none, files := rotateLogNow step.answers log.files }
    else log
  match rotated.handle with
  | some _ => rotated
  | none =>
      if step.answers.opens then
        { rotated with
          files := openAppend rotated.files, handle := some (openAppend rotated.files).size }
      else rotated

/-- The log after a record, and how many of its bytes are reported written. It is rotated
and opened first where that is due; without a handle all bytes count as written, and none
is. -/
def writeRecord (log : RotatingLog) (step : LogStep) : RotatingLog × Except Unit Nat :=
  let ready := log.prepared step
  match ready.handle with
  | none => (ready, .ok step.record.length)
  | some len =>
      match step.answers.write with
      | some count =>
          let written := (taken ready.files count step.record).length
          ({ ready with
              files := append ready.files count step.record
              handle := some (min (len + written) u64Max) }, .ok written)
      | none => ({ ready with handle := none }, .error ())

def next (log : RotatingLog) (step : LogStep) : RotatingLog := (log.writeRecord step).1

def held (log : RotatingLog) : Bytes := log.files.held

/-- The bytes of a record that a write has taken. Without a handle, or where the write
fails, it takes none. -/
def wrote (log : RotatingLog) (step : LogStep) : Bytes :=
  match (log.prepared step).handle, step.answers.write with
  | some _, some count => taken (log.prepared step).files count step.record
  | _, _ => []

end RotatingLog

/-- A rotation that succeeds displaces the last one's file. These are the only bytes a log
may lose by design. -/
def displacedBy (answers : LogAnswers) (files : LogFiles) : Bytes :=
  if answers.rename && files.log.isSome then files.rotated.getD [] else []

/-- A rotation whose file is not renamed has removed the last one's for nothing. -/
def lostBy (answers : LogAnswers) (files : LogFiles) : Bytes :=
  if answers.remove && !(answers.rename && files.log.isSome) then files.rotated.getD [] else []

theorem rotateLogNow_balance (answers : LogAnswers) (files : LogFiles) :
    (displacedBy answers files).length + (rotateLogNow answers files).held.length +
      (lostBy answers files).length = files.held.length := by
  obtain ⟨log, rotated, sized⟩ := files
  cases removes : answers.remove <;> cases renames : answers.rename <;> cases log <;>
    simp [displacedBy, lostBy, rotateLogNow, LogFiles.held, removes, renames, Nat.add_comm]

theorem rotateLogNow_whole {answers : LogAnswers} {files : LogFiles}
    (kept : lostBy answers files = []) :
    displacedBy answers files ++ (rotateLogNow answers files).held = files.held := by
  obtain ⟨log, rotated, sized⟩ := files
  cases removes : answers.remove <;> cases renames : answers.rename <;> cases log <;>
    simp_all [displacedBy, lostBy, rotateLogNow, LogFiles.held]

@[simp] theorem held_openAppend (files : LogFiles) : (openAppend files).held = files.held := rfl

@[simp] theorem size_openAppend (files : LogFiles) : (openAppend files).size = files.size := rfl

theorem held_append (files : LogFiles) (count : Nat) (record : Bytes) :
    (append files count record).held = files.held ++ taken files count record := by
  simp [LogFiles.held, append]

theorem size_append (files : LogFiles) (count : Nat) (record : Bytes) :
    (append files count record).size = files.size + (taken files count record).length := by
  simp [LogFiles.size, append]

theorem size_rotateLogNow {answers : LogAnswers} (files : LogFiles)
    (renames : answers.rename = true) : (rotateLogNow answers files).size = 0 := by
  obtain ⟨log, rotated, sized⟩ := files
  cases removes : answers.remove <;> cases log <;>
    simp [rotateLogNow, LogFiles.size, removes, renames]

theorem length_taken_le (files : LogFiles) (count : Nat) (record : Bytes) :
    (taken files count record).length ≤ record.length :=
  List.length_take_le' _ _

theorem size_taken_le (files : LogFiles) (count : Nat) (record : Bytes) :
    files.size + (taken files count record).length ≤ u64Max := by
  have sized : files.size ≤ u64Max := files.sized
  simp only [taken, List.length_take]
  omega

end LayoutAdblock.Config
