import LayoutAdblock.Config.Log

namespace LayoutAdblock.Config

open Data
open Interaction (Bytes)

/-! # Runs of the rotating log -/

namespace RotatingLog

variable {log : RotatingLog} {step : LogStep}

/-- The tracked length is that of the open file. -/
def Tracked (log : RotatingLog) : Prop :=
  ∀ len, log.handle = some len → log.files.log.isSome = true ∧ len = log.files.size

theorem prepared_of_fits (fits : log.needsRotate step.record = false) :
    log.prepared step =
      if log.handle = none ∧ step.answers.opens = true then
        { log with files := openAppend log.files, handle := some log.files.size }
      else log := by
  obtain ⟨files, maxBytes, handle⟩ := log
  cases handle <;> cases opens : step.answers.opens <;> simp [prepared, fits, opens]

theorem prepared_of_rotates (rotates : log.needsRotate step.record = true) :
    log.prepared step =
      if step.answers.opens = true then
        { log with
          files := openAppend (rotateLogNow step.answers log.files)
          handle := some (rotateLogNow step.answers log.files).size }
      else { log with handle := none, files := rotateLogNow step.answers log.files } := by
  cases opens : step.answers.opens <;> simp [prepared, rotates, opens]

theorem tracked_prepared (tracked : log.Tracked) (step : LogStep) :
    (log.prepared step).Tracked := by
  intro len
  cases rotates : log.needsRotate step.record with
  | false =>
      rw [prepared_of_fits rotates]
      split
      · intro same
        exact ⟨rfl, (Option.some.inj same).symm⟩
      · exact tracked len
  | true =>
      rw [prepared_of_rotates rotates]
      split
      · intro same
        exact ⟨rfl, (Option.some.inj same).symm⟩
      · intro same
        cases same

/-- What a record does once the file is ready. -/
theorem next_eq (log : RotatingLog) (step : LogStep) :
    log.next step =
      match (log.prepared step).handle, step.answers.write with
      | none, _ => log.prepared step
      | some _, none => { log.prepared step with handle := none }
      | some len, some count =>
          { log.prepared step with
            files := append (log.prepared step).files count step.record
            handle := some (min (len +
              (taken (log.prepared step).files count step.record).length) u64Max) } := by
  unfold next writeRecord
  dsimp only
  split <;> rename_i ready
  · simp [ready]
  · cases writes : step.answers.write <;> simp [ready]

theorem tracked_next (log : RotatingLog) (step : LogStep) (tracked : log.Tracked) :
    (log.next step).Tracked := by
  have ready := tracked_prepared tracked step
  rw [next_eq]
  split
  · exact ready
  · intro len same
    cases same
  · rename_i len count opened _
    intro total same
    refine ⟨rfl, ?_⟩
    have whole := size_taken_le (log.prepared step).files count step.record
    rw [← Option.some.inj same, (ready len opened).2, size_append, Nat.min_eq_left whole]

def displaced (log : RotatingLog) (step : LogStep) : Bytes :=
  if log.needsRotate step.record then displacedBy step.answers log.files else []

/-- What a record's rotation removes for nothing. -/
def lost (log : RotatingLog) (step : LogStep) : Bytes :=
  if log.needsRotate step.record then lostBy step.answers log.files else []

theorem held_prepared_of_fits (fits : log.needsRotate step.record = false) :
    (log.prepared step).held = log.held := by
  rw [prepared_of_fits fits]
  split <;> rfl

theorem held_prepared_of_rotates (rotates : log.needsRotate step.record = true) :
    (log.prepared step).held = (rotateLogNow step.answers log.files).held := by
  rw [prepared_of_rotates rotates]
  split <;> rfl

theorem held_next (log : RotatingLog) (step : LogStep) :
    (log.next step).held = (log.prepared step).held ++ log.wrote step := by
  rw [next_eq]
  unfold wrote
  cases opened : (log.prepared step).handle with
  | none => simp only [List.append_nil]
  | some len =>
      cases writes : step.answers.write with
      | none =>
          simp only [List.append_nil]
          rfl
      | some count => exact held_append _ _ _

theorem balance (log : RotatingLog) (step : LogStep) :
    (log.displaced step).length + (log.next step).held.length + (log.lost step).length =
      log.held.length + (log.wrote step).length := by
  rw [held_next, List.length_append, displaced, lost]
  cases rotates : log.needsRotate step.record with
  | false => simp [held_prepared_of_fits rotates]
  | true =>
      have rotated := rotateLogNow_balance step.answers log.files
      have same : log.held.length = log.files.held.length := rfl
      rw [held_prepared_of_rotates rotates]
      simp only [if_true]
      omega

theorem whole (log : RotatingLog) (step : LogStep) (kept : log.lost step = []) :
    log.displaced step ++ (log.next step).held = log.held ++ log.wrote step := by
  rw [held_next, ← List.append_assoc, displaced]
  rw [lost] at kept
  cases rotates : log.needsRotate step.record with
  | false => simp [held_prepared_of_fits rotates]
  | true =>
      simp only [rotates, if_true] at kept ⊢
      rw [held_prepared_of_rotates rotates, rotateLogNow_whole kept]
      rfl

theorem lostBy_eq_nil_iff (answers : LogAnswers) {files : LogFiles}
    (present : files.log.isSome = true) :
    lostBy answers files = [] ↔
      ¬ (answers.remove = true ∧ answers.rename = false ∧ files.rotated.getD [] ≠ []) := by
  cases removes : answers.remove <;> cases renames : answers.rename <;>
    simp [lostBy, removes, renames, present]

/-- A record whose rotation removes a file that it then fails to replace. What was in that
file is lost, and the log has not become any shorter. -/
def Destroys (log : RotatingLog) (step : LogStep) : Prop :=
  log.needsRotate step.record = true ∧ step.answers.remove = true ∧
    step.answers.rename = false ∧ log.files.rotated.getD [] ≠ []

theorem lost_eq_nil_iff (log : RotatingLog) (step : LogStep) (tracked : log.Tracked) :
    log.lost step = [] ↔ ¬ log.Destroys step := by
  unfold lost Destroys
  cases rotates : log.needsRotate step.record with
  | false => simp
  | true =>
      have opened : ∃ len, log.handle = some len := by
        cases opened : log.handle with
        | none => simp [needsRotate, opened] at rotates
        | some len => exact ⟨len, rfl⟩
      obtain ⟨len, opened⟩ := opened
      simpa using lostBy_eq_nil_iff step.answers (tracked len opened).1

theorem kept_iff (tracked : log.Tracked) (steps : List LogStep) :
    along next displaced log steps ++ (steps.foldl next log).held =
        log.held ++ along next wrote log steps ↔
      Throughout next (fun log step => ¬ log.Destroys step) log steps := by
  rw [along_conserved_iff tracked_next (fun log step _ => balance log step)
    (fun log step _ => whole log step) tracked steps]
  constructor
  · exact Throughout.imp tracked_next
      (fun log step held => (lost_eq_nil_iff log step held).mp) tracked
  · exact Throughout.imp tracked_next
      (fun log step held => (lost_eq_nil_iff log step held).mpr) tracked

/-- A record that comes while no file is open fits into the log, or finds it empty. -/
def Fits (log : RotatingLog) (step : LogStep) : Prop :=
  log.handle = none →
    log.files.size = 0 ∨ log.files.size + step.record.length ≤ log.maxBytes

/-- Where the record needs a rotation, the rename that makes it succeeds. -/
def RotationSucceeds (log : RotatingLog) (step : LogStep) : Prop :=
  log.needsRotate step.record = true → step.answers.rename = true

theorem size_prepared (tracked : log.Tracked) (fits : log.Fits step)
    (succeeds : log.RotationSucceeds step) :
    (log.prepared step).files.size = 0 ∨
      ((log.prepared step).files.size = log.files.size ∧
        min (log.files.size + step.record.length) u64Max ≤ log.maxBytes) := by
  cases rotates : log.needsRotate step.record with
  | true =>
      have emptied := size_rotateLogNow log.files (succeeds rotates)
      refine Or.inl ?_
      rw [prepared_of_rotates rotates]
      split
      · exact emptied
      · exact emptied
  | false =>
      have same : (log.prepared step).files.size = log.files.size := by
        rw [prepared_of_fits rotates]
        split <;> rfl
      rw [same]
      cases opened : log.handle with
      | none =>
          cases fits opened with
          | inl empty => exact Or.inl empty
          | inr within => exact Or.inr ⟨rfl, Nat.le_trans (Nat.min_le_left _ _) within⟩
      | some len =>
          have length := (tracked len opened).2
          simp only [needsRotate, opened, Option.any_some, decide_eq_false_iff_not,
            Nat.not_lt, length] at rotates
          exact Or.inr ⟨rfl, rotates⟩

theorem size_next_le (log : RotatingLog) (step : LogStep) :
    (log.next step).files.size ≤
      min ((log.prepared step).files.size + step.record.length) u64Max := by
  have sized : (log.next step).files.size ≤ u64Max := (log.next step).files.sized
  refine Nat.le_min.mpr ⟨?_, sized⟩
  rw [next_eq]
  split
  · exact Nat.le_add_right _ _
  · exact Nat.le_add_right _ _
  · rw [size_append]
    exact Nat.add_le_add_left (length_taken_le _ _ _) _

/-- After a record the log is no longer than the limit or the record. -/
theorem size_next (tracked : log.Tracked) (fits : log.Fits step)
    (succeeds : log.RotationSucceeds step) :
    (log.next step).files.size ≤ max log.maxBytes step.record.length := by
  have grown := size_next_le log step
  cases size_prepared tracked fits succeeds with
  | inl empty =>
      rw [empty] at grown
      omega
  | inr kept =>
      obtain ⟨same, within⟩ := kept
      rw [same] at grown
      omega

theorem maxBytes_next (log : RotatingLog) (step : LogStep) :
    (log.next step).maxBytes = log.maxBytes := by
  have ready : (log.prepared step).maxBytes = log.maxBytes := by
    cases rotates : log.needsRotate step.record with
    | false => rw [prepared_of_fits rotates]; split <;> rfl
    | true => rw [prepared_of_rotates rotates]; split <;> rfl
  rw [next_eq]
  split <;> exact ready

/-- The length of the longest record of a run. -/
def longest (steps : List LogStep) : Nat :=
  (steps.map fun step => step.record.length).foldr max 0

theorem size_run {steps : List LogStep} (tracked : log.Tracked) {bound : Nat}
    (limit : log.maxBytes ≤ bound) (records : longest steps ≤ bound)
    (start : log.files.size ≤ bound)
    (fits : Throughout next Fits log steps)
    (succeeds : Throughout next RotationSucceeds log steps) :
    (steps.foldl next log).files.size ≤ bound := by
  induction steps generalizing log with
  | nil => exact start
  | cons step rest ih =>
      simp only [longest, List.map_cons, List.foldr_cons] at records
      have grown := size_next tracked fits.1 succeeds.1
      refine ih (tracked_next log step tracked) ?_ ?_ ?_ fits.2 succeeds.2
      · rw [maxBytes_next]
        exact limit
      · exact Nat.le_trans (Nat.le_max_right _ _) records
      · omega

/-- What the check at the start removes of an older rotated log. -/
def displacedOnOpen (answers : LogAnswers) (files : LogFiles) : Bytes :=
  if files.size ≤ logRotateBytes then [] else displacedBy answers files

/-- The check at the start removes the rotated log and then fails to rename the log to it,
so what was rotated before is gone and nothing took its place. -/
def DestroysOnOpen (answers : LogAnswers) (files : LogFiles) : Prop :=
  logRotateBytes < files.size ∧ answers.remove = true ∧ answers.rename = false ∧
    files.rotated.getD [] ≠ []

/-- The log that is found fits, or is so long that opening rotates it. -/
def FitsOnOpen (answers : LogAnswers) (maxBytes : Nat) (files : LogFiles) : Prop :=
  files.size ≤ maxBytes ∨ (logRotateBytes < files.size ∧ answers.rename = true)

theorem keptOnOpen_iff (answers : LogAnswers) (files : LogFiles) :
    displacedOnOpen answers files ++ (rotateLogIfNeeded answers files).held = files.held ↔
      ¬ DestroysOnOpen answers files := by
  unfold displacedOnOpen DestroysOnOpen rotateLogIfNeeded
  by_cases short : files.size ≤ logRotateBytes
  · simp [short, Nat.not_lt.mpr short]
  · have long : logRotateBytes < files.size := Nat.lt_of_not_le short
    have present : files.log.isSome = true := by
      cases found : files.log with
      | none => simp [LogFiles.size, found] at long
      | some bytes => rfl
    simp only [short, if_false, long, true_and]
    rw [← lostBy_eq_nil_iff answers present]
    constructor
    · intro same
      have lengths := congrArg List.length same
      have total := rotateLogNow_balance answers files
      rw [List.length_append] at lengths
      exact List.eq_nil_of_length_eq_zero (by omega)
    · exact rotateLogNow_whole

theorem size_rotateLogIfNeeded {answers : LogAnswers} {maxBytes : Nat} {files : LogFiles}
    (fits : FitsOnOpen answers maxBytes files) :
    (rotateLogIfNeeded answers files).size ≤ maxBytes := by
  unfold rotateLogIfNeeded
  cases fits with
  | inl small =>
      split
      · exact small
      · cases renames : answers.rename with
        | true => rw [size_rotateLogNow files renames]; exact Nat.zero_le _
        | false =>
            have same : (rotateLogNow answers files).size = files.size := by
              cases removes : answers.remove <;> simp [rotateLogNow, removes, renames, LogFiles.size]
            exact same ▸ small
  | inr rotates =>
      rw [if_neg (Nat.not_le.mpr rotates.1), size_rotateLogNow files rotates.2]
      exact Nat.zero_le _

theorem openLog_eq_some {answers : LogAnswers} {maxBytes : Nat} {files : LogFiles}
    (opened : openLog answers maxBytes files = some log) :
    log = { files := openAppend (rotateLogIfNeeded answers files)
            maxBytes := max maxBytes (64 * 1024)
            handle := some (rotateLogIfNeeded answers files).size } := by
  unfold openLog at opened
  split at opened
  · exact (Option.some.inj opened).symm
  · cases opened

/-- From any files and for any records: what is written stays in the two files, or is
displaced by a rotation that succeeds, exactly when no rotation removes a file that it
then fails to replace; the tracked length is always that of the open file; and while
rotations succeed, the log keeps within the limit or the longest record, when the log
that is found fits and so does every record that comes while no file is open. -/
theorem records_kept {opening : LogAnswers} {maxBytes : Nat} {files : LogFiles}
    (opened : openLog opening maxBytes files = some log) (steps : List LogStep) :
    (displacedOnOpen opening files ++ log.held = files.held ↔ ¬ DestroysOnOpen opening files) ∧
    (along next displaced log steps ++ (steps.foldl next log).held =
        log.held ++ along next wrote log steps ↔
      Throughout next (fun log step => ¬ log.Destroys step) log steps) ∧
    (∀ len, (steps.foldl next log).handle = some len →
      len = (steps.foldl next log).files.size) ∧
    (FitsOnOpen opening log.maxBytes files → Throughout next Fits log steps →
      Throughout next RotationSucceeds log steps →
      (steps.foldl next log).files.size ≤ max log.maxBytes (longest steps)) := by
  have start := openLog_eq_some opened
  have tracked : log.Tracked := by
    intro len same
    rw [start] at same ⊢
    exact ⟨rfl, (Option.some.inj same).symm⟩
  refine ⟨?_, kept_iff tracked steps, ?_, ?_⟩
  · have same : log.held = (rotateLogIfNeeded opening files).held := by
      rw [start]
      rfl
    rw [same]
    exact keptOnOpen_iff opening files
  · intro len same
    exact (foldl_invariant tracked_next tracked steps len same).2
  · intro fitsOnOpen fits succeeds
    have size : log.files.size = (rotateLogIfNeeded opening files).size := by
      rw [start]
      rfl
    have within := size_rotateLogIfNeeded fitsOnOpen
    exact size_run tracked (Nat.le_max_left _ _) (Nat.le_max_right _ _) (by omega) fits succeeds

/-- Every call about the log succeeds, and a write takes so many bytes. -/
def allowing (count : Nat) : LogAnswers where
  remove := true
  rename := true
  opens := true
  write := some count

def noFiles : LogFiles where
  log := none
  rotated := none
  sized := Nat.zero_le _

def fresh : RotatingLog where
  files := openAppend noFiles
  maxBytes := 64 * 1024
  handle := some 0

theorem openLog_fresh : openLog (allowing 0) (64 * 1024) noFiles = some fresh := rfl

/-- The second record's rotation makes the first one's file `log.1`, and the third record's
displaces that file. -/
def rotatingRecords (big : Bytes) : List LogStep :=
  [{ answers := allowing 65536, record := big }, { answers := allowing 1, record := [1] },
   { answers := allowing 65536, record := big }]

theorem displaced_rotatingRecords {big : Bytes} (long : big.length = 65536) :
    along next displaced fresh (rotatingRecords big) = big := by
  have whole : big.take 65536 = big := List.take_of_length_le (by omega)
  simp [rotatingRecords, along, displaced, displacedBy, next, writeRecord, prepared, needsRotate,
    fresh, noFiles, openAppend, append, taken, rotateLogNow, LogFiles.size, allowing, u64Max, long,
    whole]

theorem longest_rotatingRecords {big : Bytes} (long : big.length = 65536) :
    longest (rotatingRecords big) = 65536 := by
  simp [longest, rotatingRecords, long]

theorem fits_rotatingRecords {big : Bytes} (long : big.length = 65536) :
    Throughout next Fits fresh (rotatingRecords big) := by
  have whole : big.take 65536 = big := List.take_of_length_le (by omega)
  simp [Throughout, Fits, rotatingRecords, next, writeRecord, prepared, needsRotate, fresh, noFiles,
    openAppend, append, taken, rotateLogNow, LogFiles.size, allowing, u64Max, long, whole]

/-- Two rotations succeed, the second over a `log.1` that holds the first record: that record is
what they displace, the other two stay, and the log keeps within its limit. -/
theorem records_kept_rotating :
    let big : Bytes := List.replicate 65536 0
    let steps := rotatingRecords big
    along next displaced fresh steps = big ∧
      big ++ (steps.foldl next fresh).held = fresh.held ++ along next wrote fresh steps ∧
      (steps.foldl next fresh).files.size ≤ 65536 := by
  intro big steps
  have long : big.length = 65536 := List.length_replicate
  have displacing : along next displaced fresh steps = big := displaced_rotatingRecords long
  obtain ⟨_, kept, _, bounded⟩ := records_kept openLog_fresh steps
  have safe : Throughout next (fun log step => ¬ log.Destroys step) fresh steps := by
    refine ⟨?_, ?_, ?_, trivial⟩ <;>
    · intro destroys
      cases destroys.2.2.1
  have same := kept.mpr safe
  rw [displacing] at same
  have within := bounded (Or.inl (Nat.zero_le _)) (fits_rotatingRecords long)
    ⟨fun _ => rfl, fun _ => rfl, fun _ => rfl, trivial⟩
  rw [longest_rotatingRecords long] at within
  exact ⟨displacing, same, within⟩

/-- The third record's rotation removes the first one's file and does not rename. -/
def lossyRecords (big : Bytes) : List LogStep :=
  [{ answers := allowing 65536, record := big }, { answers := allowing 1, record := [1] },
   { answers := { allowing 65536 with rename := false }, record := big }]

/-- The second record is refused, and the third is not held against the limit. -/
def oversizedRecords (big : Bytes) : List LogStep :=
  [{ answers := allowing 65535, record := big },
   { answers := { allowing 0 with write := none }, record := [1] },
   { answers := allowing 2, record := [1, 2] }]

theorem lossyRecords_destroy {big : Bytes} (long : big.length = 65536) :
    ¬ Throughout next (fun log step => ¬ log.Destroys step) fresh (lossyRecords big) := by
  have nonempty : big ≠ [] := by
    intro empty
    rw [empty] at long
    cases long
  have whole : big.take 65536 = big := List.take_of_length_le (by omega)
  intro kept
  refine kept.2.2.1 ?_
  simp [Destroys, next, writeRecord, prepared, needsRotate, fresh, noFiles, openAppend, append,
    taken, rotateLogNow, LogFiles.size, allowing, u64Max, long, whole, nonempty]

theorem size_oversizedRecords {big : Bytes} (long : big.length = 65535) :
    ((oversizedRecords big).foldl next fresh).files.size = 65537 := by
  have whole : big.take 65535 = big := List.take_of_length_le (by omega)
  simp [oversizedRecords, next, writeRecord, prepared, needsRotate, fresh, noFiles, openAppend,
    append, taken, LogFiles.size, allowing, u64Max, long, whole]

/-- A rename that fails costs the bytes of a record that was reported written, and the
log outgrows its limit while rotations succeed. -/
theorem records_lost :
    let lossy := lossyRecords (List.replicate 65536 0)
    let oversized := oversizedRecords (List.replicate 65535 0)
    openLog (allowing 0) (64 * 1024) noFiles = some fresh ∧
    along next displaced fresh lossy ++ (lossy.foldl next fresh).held ≠
      fresh.held ++ along next wrote fresh lossy ∧
    Throughout next RotationSucceeds fresh oversized ∧
    max fresh.maxBytes (longest oversized) < (oversized.foldl next fresh).files.size := by
  intro lossy oversized
  have tracked : fresh.Tracked := by
    intro len same
    exact ⟨rfl, (Option.some.inj same).symm⟩
  refine ⟨openLog_fresh, ?_, ⟨fun _ => rfl, fun _ => rfl, fun _ => rfl, trivial⟩, ?_⟩
  · intro same
    exact lossyRecords_destroy List.length_replicate ((kept_iff tracked lossy).mp same)
  · have records : ∀ {big : Bytes}, big.length = 65535 →
        longest (oversizedRecords big) = 65535 := by
      intro big long
      simp [longest, oversizedRecords, long]
    rw [size_oversizedRecords List.length_replicate, records List.length_replicate]
    decide

end RotatingLog

end LayoutAdblock.Config
