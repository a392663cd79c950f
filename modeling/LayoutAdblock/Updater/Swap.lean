import LayoutAdblock.Updater.Quiet

namespace LayoutAdblock.Updater

open Interaction Interaction.Environment

/-! # The swap keeps complete files -/

section Pending

variable {shared : FileName → Prop} {allowed yields : Bytes → Prop} {invariant : Disk → Prop}
  {facts : List (FileName × Bytes)} {before : Disk} {path source : FileName}

theorem wp_looking {ε α : Type} {program : HelperE ε α} (quiet : program.run.Only Call.Quiet)
    (safe : ∀ seen, Knows shared allowed facts seen → invariant seen)
    (knows : Knows shared allowed facts before) :
    (fileSystem shared).wp invariant program.run
      (outcome (fun _ => Knows shared allowed facts) fun _ => Knows shared allowed facts)
      before := by
  apply wp_mono (wp_quiet quiet safe knows)
  intro result after held
  cases result with
  | ok value => exact held
  | error error => exact held

/-- A temporary of which nothing is known. -/
structure Pending (facts : List (FileName × Bytes)) (path : FileName) : Prop where
  temporary : ∃ stamp sequence, path = .temporary stamp sequence
  fresh : ∀ fact ∈ facts, fact.1 ≠ path

theorem Pending.ne_current (pending : Pending facts path) : path ≠ .current := by
  obtain ⟨stamp, sequence, rfl⟩ := pending.temporary
  simp

theorem Pending.ne_backup (pending : Pending facts path) : path ≠ .backup := by
  obtain ⟨stamp, sequence, rfl⟩ := pending.temporary
  simp

theorem Pending.ne_replacement (pending : Pending facts path) : path ≠ .replacement := by
  obtain ⟨stamp, sequence, rfl⟩ := pending.temporary
  simp

/-- A pending file is none of the installed ones. -/
theorem Pending.of_installed {installed : List (FileName × Bytes)} (pending : Pending facts path)
    (names : ∀ fact ∈ installed, fact.1 = .current ∨ fact.1 = .backup) :
    Pending installed path := by
  refine ⟨pending.temporary, ?_⟩
  intro fact member same
  cases names fact member with
  | inl current => exact pending.ne_current (same.symm.trans current)
  | inr backup => exact pending.ne_backup (same.symm.trans backup)

/-- A call that writes only to a pending file. -/
theorem Pending.leaves {op : Call} (pending : Pending facts path)
    (only : ∀ name, op.Writes name → name = path) : op.Leaves allowed facts where
  file fact member writes := pending.fresh fact member (only fact.1 writes)
  backup writes := pending.ne_backup (only .backup writes).symm
  staged writes := absurd (only .replacement writes).symm pending.ne_replacement

theorem removePending_only (pending : Pending facts path) :
    (removeQuietly path).Only fun op => op.Leaves allowed facts :=
  ⟨pending.leaves fun _ same => same, fun _ => trivial⟩

theorem wp_removePending (pending : Pending facts path)
    (safe : ∀ seen, Knows shared allowed facts seen → invariant seen)
    (knows : Knows shared allowed facts before) :
    (fileSystem shared).wp invariant (removeQuietly path)
      (fun _ => Knows shared allowed facts) before :=
  wp_only (removePending_only pending) safe knows

/-- The pending file holds a complete copy of what was to be copied. -/
def Copied (shared : FileName → Prop) (allowed yields : Bytes → Prop)
    (facts : List (FileName × Bytes)) (copy : FileName) (disk : Disk) : Prop :=
  Pending facts copy ∧
    ∃ bytes, yields bytes ∧ Knows shared allowed ((copy, bytes) :: facts) disk

theorem Knows.cons {bytes : Bytes} {disk : Disk} (knows : Knows shared allowed facts disk)
    (own : ¬ shared path) (holds : disk.files path = some bytes) :
    Knows shared allowed ((path, bytes) :: facts) disk where
  uncleaned := knows.uncleaned
  own fact member := by
    cases List.mem_cons.mp member with
    | inl first => rw [first]; exact own
    | inr rest => exact knows.own fact rest
  file fact member := by
    cases List.mem_cons.mp member with
    | inl first => rw [first]; exact holds
    | inr rest => exact knows.file fact rest
  offered := knows.offered

theorem Knows.tail {fact : FileName × Bytes} {disk : Disk}
    (knows : Knows shared allowed (fact :: facts) disk) : Knows shared allowed facts disk :=
  knows.fewer (List.subset_cons_self fact facts)

variable (staged : OnlyStaged shared)
include staged

theorem Pending.own (pending : Pending facts path) : ¬ shared path :=
  fun written => pending.ne_replacement (staged path written)

theorem wp_fillCopy (pending : Pending facts path)
    (reads : ∀ disk, Knows shared allowed facts disk → ∀ bytes,
      Reads shared disk.files source bytes → yields bytes)
    (safe : ∀ seen, Knows shared allowed facts seen → invariant seen)
    (knows : Knows shared allowed facts before) :
    (fileSystem shared).wp invariant (fillCopy source path).run
      (outcome (fun _ => Copied shared allowed yields facts path)
        fun _ => Knows shared allowed facts) before := by
  have copying : (Call.file (.copy source path)).Leaves allowed facts :=
    pending.leaves fun _ same => same
  have copied : (fileSystem shared).wp invariant
      (Fallible.attempt (fileCall (.copy source path))).run
      (outcome (fun _ => Copied shared allowed yields facts path)
        fun _ => Knows shared allowed facts) before := by
    apply wp_attempt
    apply wp_leaves knows copying safe
    intro answer after step known
    cases answer with
    | ok value =>
        obtain ⟨bytes, read, holds⟩ := fileStep_copy step.2 (pending.own staged)
        exact ⟨pending, bytes, reads before knows bytes read,
          known.cons (pending.own staged) holds⟩
    | error error => exact known
  apply wp_try copied
  intro _ after held
  obtain ⟨_, bytes, yielded, known⟩ := held
  apply wp_attempt
  have syncing : (Call.file (.syncAll path)).Quiet := fun _ writes => writes
  apply wp_leaves known syncing.leaves fun seen knowing => safe seen knowing.tail
  intro answer last step synced
  cases answer with
  | ok value => exact ⟨pending, bytes, yielded, synced⟩
  | error error => exact synced.tail

/-- A copy that fails leaves nothing behind that is known; one that succeeds is
a new pending file with everything its source can have held. -/
theorem wp_syncedCopy
    (reads : ∀ disk, Knows shared allowed facts disk → ∀ bytes,
      Reads shared disk.files source bytes → yields bytes)
    (safe : ∀ seen, Knows shared allowed facts seen → invariant seen)
    (knows : Knows shared allowed facts before) :
    (fileSystem shared).wp invariant (syncedCopy source).run
      (outcome (Copied shared allowed yields facts) fun _ => Knows shared allowed facts)
      before := by
  have opens : (Fallible.attempt (fileCall (.openRead source))).run.Only Call.Quiet :=
    quiet_of_looks (looks_ask (.file (.openRead source)) rfl)
  apply wp_try (wp_looking opens safe knows)
  intro _ opened known
  have looksAtClock : (Fallible.attempt (ask .systemTime)).run.Only Call.Quiet :=
    quiet_of_looks (looks_ask .systemTime rfl)
  apply wp_try (wp_looking (only_mapError looksAtClock) safe known)
  intro stamp timed known
  have countsUp : (ask .fetchSequence).Only Call.Quiet :=
    quiet_of_looks (looks_ask .fetchSequence rfl)
  apply wp_try (wp_looking (only_always countsUp) safe known)
  intro sequence counted known
  have created : (fileSystem shared).wp invariant
      (Fallible.attempt (fileCall (.createNew (.temporary stamp sequence)))).run
      (outcome (fun _ disk => Pending facts (.temporary stamp sequence) ∧
        Knows shared allowed facts disk) fun _ => Knows shared allowed facts) counted := by
    apply wp_attempt
    apply wp_createNew known (by simp) safe
    · intro after fresh held
      exact ⟨⟨⟨stamp, sequence, rfl⟩, fresh⟩, held⟩
    · intro error after held
      exact held
  apply wp_try created
  intro _ empty held
  obtain ⟨pending, known⟩ := held
  have filled := wp_onError (wp_fillCopy staged pending reads safe known)
    fun _ after held => wp_removePending pending safe held
  apply wp_try filled
  intro _ after copied
  exact wp_done copied

end Pending

section Replace

variable {shared : FileName → Prop} {allowed : Bytes → Prop} {invariant : Disk → Prop}
  {facts later : List (FileName × Bytes)} {before after : Disk} {source destination : FileName}
  {bytes : Bytes}

/-- What is known after a pending file was renamed over an installed one: the destination
holds its bytes, and nothing is known of the source any more. -/
structure Moves (source destination : FileName) (bytes : Bytes)
    (facts later : List (FileName × Bytes)) : Prop where
  filled : (source, bytes) ∈ facts
  known : ∀ fact ∈ later, fact = (destination, bytes) ∨
    fact ∈ facts ∧ fact.1 ≠ source ∧ fact.1 ≠ destination
  temporary : ∃ stamp sequence, source = .temporary stamp sequence
  installed : destination = .current ∨ destination = .backup

theorem Moves.distinct (moves : Moves source destination bytes facts later) :
    destination ≠ source := by
  obtain ⟨stamp, sequence, rfl⟩ := moves.temporary
  cases moves.installed with
  | inl current => rw [current]; simp
  | inr backup => rw [backup]; simp

theorem Moves.staged_untouched (moves : Moves source destination bytes facts later) :
    ¬ (Call.file (.rename source destination)).Writes .replacement := by
  intro writes
  obtain ⟨stamp, sequence, rfl⟩ := moves.temporary
  cases writes with
  | inl same => simp at same
  | inr same =>
      cases moves.installed with
      | inl current => simp [current] at same
      | inr backup => simp [backup] at same

theorem Moves.destination_own (moves : Moves source destination bytes facts later)
    (staged : OnlyStaged shared) : ¬ shared destination := by
  intro written
  have same := staged destination written
  cases moves.installed with
  | inl current => simp [current] at same
  | inr backup => simp [backup] at same

variable (staged : OnlyStaged shared)
include staged

theorem Knows.renamed (knows : Knows shared allowed facts before)
    (moves : Moves source destination bytes facts later)
    (step : (fileSystem shared).step (.file (.rename source destination)) before (.ok ()) after) :
    Knows shared allowed later after where
  uncleaned := by
    rw [step.1, knows.uncleaned]
    rfl
  own fact member := by
    cases moves.known fact member with
    | inl moved =>
        rw [moved]
        exact moves.destination_own staged
    | inr kept => exact knows.own fact kept.1
  file fact member := by
    cases moves.known fact member with
    | inl moved =>
        rw [moved, fileStep_rename step.2 (moves.destination_own staged) moves.distinct]
        exact knows.file _ moves.filled
    | inr kept =>
        rw [step_frame step (knows.own fact kept.1)]
        · exact knows.file fact kept.1
        · intro writes
          cases writes with
          | inl same => exact kept.2.1 same
          | inr same => exact kept.2.2 same
  offered bytes reads := by
    by_cases written : shared .replacement
    · exact knows.offered bytes (.inl written)
    · rw [Reads, step_frame step written moves.staged_untouched] at reads
      exact knows.offered bytes reads

theorem wp_rename (moves : Moves source destination bytes facts later)
    (safe : ∀ seen, Knows shared allowed facts seen → invariant seen)
    (safeLater : ∀ seen, Knows shared allowed later seen → invariant seen)
    (knows : Knows shared allowed facts before) :
    (fileSystem shared).wp invariant (rename source destination)
      (outcome (fun _ => Knows shared allowed later) fun _ => Knows shared allowed facts)
      before := by
  apply wp_ask
  · intro seen torn
    exact torn.2.elim
  · intro answer after step
    cases answer with
    | ok value =>
        have moved := knows.renamed staged moves step
        exact ⟨safeLater after moved, moved⟩
    | error error =>
        have cleaned : after.cleaned = before.cleaned := by
          rw [step.1]
          exact Bool.or_false _
        have known := knows.unchanged cleaned fun path unshared =>
          fileStep_rename_error step.2 unshared
        exact ⟨safe after known, known⟩

/-- However often it is retried, the rename happens at once or not at all. -/
theorem wp_retryRename (moves : Moves source destination bytes facts later)
    (safe : ∀ seen, Knows shared allowed facts seen → invariant seen)
    (safeLater : ∀ seen, Knows shared allowed later seen → invariant seen)
    (deadline : Nanos) (retries : Nat) (knows : Knows shared allowed facts before) :
    (fileSystem shared).wp invariant (retryRename source destination deadline retries).run
      (outcome (fun _ => Knows shared allowed later) fun _ => Knows shared allowed facts)
      before := by
  induction retries generalizing before with
  | zero => exact wp_rename staged moves safe safeLater knows
  | succ retries ih =>
      apply wp_seq (wp_rename staged moves safe safeLater knows)
      intro result attempted held
      cases result with
      | ok value => exact held
      | error error =>
          have waits : (ask .now).Only Call.Quiet := quiet_of_looks (looks_ask .now rfl)
          by_cases again : transient error = true
          · simp only [again, if_true]
            apply wp_seq (wp_quiet waits safe held)
            intro time looked known
            by_cases early : time < deadline
            · simp only [early, if_true]
              have sleeps : (ask (.sleep (milliseconds 20))).Only Call.Quiet :=
                quiet_of_looks (looks_ask (.sleep (milliseconds 20)) rfl)
              apply wp_seq (wp_quiet sleeps safe known)
              intro _ rested rests
              exact ih rests
            · simp only [early, if_false]
              exact known
          · simp only [again]
            exact held

theorem wp_replaceFile (host : Host) (moves : Moves source destination bytes facts later)
    (safe : ∀ seen, Knows shared allowed facts seen → invariant seen)
    (safeLater : ∀ seen, Knows shared allowed later seen → invariant seen)
    (knows : Knows shared allowed facts before) :
    (fileSystem shared).wp invariant (replaceFile host source destination).run
      (outcome (fun _ => Knows shared allowed later) fun _ => Knows shared allowed facts)
      before := by
  have looks := quiet_of_looks (looks_ask .now rfl)
  apply wp_try (wp_looking (only_always looks) safe knows)
  intro start after known
  exact wp_retryRename staged moves safe safeLater _ host.retries known

end Replace

end LayoutAdblock.Updater
