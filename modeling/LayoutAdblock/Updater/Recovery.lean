import LayoutAdblock.Updater.Install

namespace LayoutAdblock.Updater

open Interaction Interaction.Environment

/-! # Recovery of an interrupted swap, and the update after it -/

/-- The condition on a call: the backup is renamed over the installed file only
where that is missing. -/
def RecoversMissing (op : Call) (before : Disk) : Prop :=
  op = .file (.rename .backup .current) → before.files .current = none

section Recover

variable {shared : FileName → Prop} {allowed offered : Bytes → Prop} {before after : Disk}
  {original old : Bytes} {host : Host} {options : UpdateOptions} {pid : UInt32} {timeout : Nanos}
  {invariant : Disk → Prop}

/-- The call sites of `recover_interrupted_swap`, once it is decided. -/
theorem wp_recover {held recovered : Disk → Prop} {failed : HelperError → Disk → Prop}
    {env : Environment Call Call.Answer Disk}
    (decides : env.wp invariant interrupted (fun _ => held) before)
    (keeps : ∀ disk, held disk → recovered disk)
    (renames : ∀ disk, held disk → env.wp invariant (rename .backup .current)
      (outcome (fun _ => recovered) fun error => failed (recoveryFailed host error)) disk) :
    env.wp invariant (recoverInterruptedSwap host).run (outcome (fun _ => recovered) failed)
      before := by
  apply wp_try (wp_always decides)
  intro recover after known
  by_cases missing : recover = true
  · rw [if_pos missing]
    have renamed : env.wp invariant
        ((Fallible.attempt (rename .backup .current)).mapError (recoveryFailed host)).run
        (outcome (fun _ => recovered) failed) after :=
      wp_mapError (wp_attempt (renames after known)) fun _ _ failing => failing
    exact wp_try renamed fun _ _ done => wp_done done
  · rw [if_neg missing]
    exact wp_done (keeps after known)

/-- With the installed file in place, recovery does nothing where it only
recovers missing files. -/
theorem wp_recover_present (knows : Knows shared offered [(.current, original)] before) :
    ((fileSystem shared).restrict RecoversMissing).wp (Intact allowed original)
      (recoverInterruptedSwap host).run
      (outcome (fun _ => Knows shared offered [(.current, original)]) (NotUpdated original))
      before := by
  apply wp_recover
    (wp_restrict (wp_quiet (quiet_of_looks interrupted_looks) (fun _ knowing => knowing.intact) knows))
    fun _ held => held
  intro disk known
  have installed := known.file (.current, original) (by simp)
  apply wp_ask
  · intro seen torn
    exact torn.2.2.elim
  · intro answer after step
    have missing := step.1 rfl
    rw [missing] at installed
    contradiction

/-- The backup is gone or holds what is installed. -/
def BackupAgrees (original : Bytes) (disk : Disk) : Prop :=
  disk.files .backup = none ∨ disk.files .backup = some original

theorem rename_backup_frame {answer : Except IoError Unit} (staged : OnlyStaged shared)
    (step : (fileSystem shared).step (.file (.rename .backup .current)) before answer after) :
    after.cleaned = before.cleaned ∧
      (¬ shared .replacement → after.files .replacement = before.files .replacement) ∧
      match answer with
      | .ok () => before.files .backup ≠ none ∧ after.files .current = before.files .backup
      | .error _ => after.files .current = before.files .current ∧
          after.files .backup = before.files .backup := by
  have own : ∀ path, path ≠ .replacement → ¬ shared path :=
    fun path different written => different (staged path written)
  have cleaned : after.cleaned = before.cleaned := by
    rw [step.1]
    exact Bool.or_false _
  refine ⟨cleaned, ?_, ?_⟩
  · intro unshared
    exact step_frame step unshared (by simp [Call.Writes, FileCall.Writes])
  · cases answer with
    | ok value =>
        exact ⟨fileStep_rename_source step.2, fileStep_rename step.2 (own _ (by simp)) (by simp)⟩
    | error error =>
        exact ⟨fileStep_rename_error step.2 (own _ (by simp)),
          fileStep_rename_error step.2 (own _ (by simp))⟩

theorem OnlyStaged.own {path : FileName} (staged : OnlyStaged shared)
    (different : path ≠ .replacement) : ¬ shared path :=
  fun written => different (staged path written)

theorem Knows.same {facts : List (FileName × Bytes)} (knows : Knows shared allowed facts before)
    (same : SameDisk shared before after) : Knows shared allowed facts after :=
  knows.unchanged same.1 same.2

theorem agreeing_same (staged : OnlyStaged shared) (same : SameDisk shared before after)
    (held : Knows shared allowed [(.current, original)] before ∧ BackupAgrees original before) :
    Knows shared allowed [(.current, original)] after ∧ BackupAgrees original after := by
  refine ⟨held.1.same same, ?_⟩
  rw [BackupAgrees, same.2 .backup (staged.own (by simp))]
  exact held.2

/-- A backup that is gone or agrees cannot harm. -/
theorem wp_recover_agreeing (staged : OnlyStaged shared)
    (knows : Knows shared allowed [(.current, original)] before)
    (agrees : BackupAgrees original before) :
    (fileSystem shared).wp (Intact allowed original) (recoverInterruptedSwap host).run
      (outcome (fun _ => Knows shared allowed [(.current, original)]) (NotUpdated original))
      before := by
  apply wp_recover (wp_quiet_same (quiet_of_looks interrupted_looks) (fun _ _ => agreeing_same staged)
    (fun _ held => held.1.intact) ⟨knows, agrees⟩) fun _ held => held.1
  intro disk held
  obtain ⟨known, agreeing⟩ := held
  apply wp_ask
  · intro seen torn
    exact torn.2.elim
  · intro answer last step
    obtain ⟨cleaned, offers, effect⟩ := rename_backup_frame staged step
    have installed : last.files .current = disk.files .current := by
      cases answer with
      | ok value =>
          obtain ⟨found, moved⟩ := effect
          cases agreeing with
          | inl gone => exact absurd gone found
          | inr same =>
              rw [moved, same]
              exact (known.file (.current, original) (by simp)).symm
      | error error => exact effect.1
    have still : Knows shared allowed [(.current, original)] last := by
      apply known.transfer cleaned
      · intro fact member
        obtain rfl : fact = (.current, original) := by simpa using member
        exact installed
      · intro unshared
        exact .inl (offers unshared)
    cases answer with
    | ok value => exact ⟨still.intact, still⟩
    | error error => exact ⟨still.intact, still.notUpdated _⟩

/-- The installed file is not there, the backup is what it was, and no download is there but
what was offered. -/
structure Missing (shared : FileName → Prop) (allowed : Bytes → Prop) (kept : Option Bytes)
    (disk : Disk) : Prop where
  uncleaned : disk.cleaned = false
  current : disk.files .current = none
  backup : disk.files .backup = kept
  offered : ∀ bytes, Reads shared disk.files .replacement bytes → allowed bytes

variable {kept : Option Bytes}

theorem reads_same (same : ¬ shared .replacement →
      after.files .replacement = before.files .replacement) {bytes : Bytes}
    (reads : Reads shared after.files .replacement bytes) :
    Reads shared before.files .replacement bytes := by
  cases reads with
  | inl written => exact .inl written
  | inr holds =>
      by_cases written : shared .replacement
      · exact .inl written
      · right
        rw [← same written]
        exact holds

theorem Missing.same (missing : Missing shared allowed kept before) (staged : OnlyStaged shared)
    (same : SameDisk shared before after) : Missing shared allowed kept after where
  uncleaned := same.1.trans missing.uncleaned
  current := (same.2 .current (staged.own (by simp))).trans missing.current
  backup := (same.2 .backup (staged.own (by simp))).trans missing.backup
  offered bytes reads := missing.offered bytes (reads_same (same.2 .replacement) reads)

/-- Without an installed file nothing is installed. -/
theorem wp_installReplacement_missing (staged : OnlyStaged shared)
    (safe : ∀ seen, Missing shared allowed kept seen → invariant seen)
    (missing : Missing shared allowed kept before) :
    (fileSystem shared).wp invariant (installReplacement host options).run
      (outcome (fun _ _ => False) fun _ => Missing shared allowed kept) before := by
  have looking : (fileSystem shared).wp invariant (pathExists .current)
      (fun found after => found = false ∧ Missing shared allowed kept after) before := by
    apply wp_ask
    · intro seen torn
      exact torn.2.elim
    · intro found last step
      have known : Missing shared allowed kept last := by
        apply missing.same staged
        refine ⟨step_cleaned step fun writes => writes, ?_⟩
        intro path unshared
        exact step_frame step unshared fun writes => writes
      refine ⟨safe last known, ?_, known⟩
      cases found with
      | false => rfl
      | true =>
          cases fileStep_pathExists step.2 with
          | inl written => exact absurd written (staged.own (by simp))
          | inr present => exact absurd missing.current present
  have checks : (fileSystem shared).wp invariant checkPaths.run
      (outcome (fun _ _ => False) fun _ => Missing shared allowed kept) before := by
    apply wp_try (wp_always looking)
    intro found last held
    obtain ⟨rfl, known⟩ := held
    have refuses : (fileSystem shared).wp invariant
        (Fallible.require false (HelperError.currentMissing .current)).run
        (outcome (fun _ _ => False) fun _ => Missing shared allowed kept) last :=
      wp_done known
    apply wp_try refuses
    intro _ _ impossible
    exact impossible.elim
  apply wp_try checks
  intro _ _ impossible
  exact impossible.elim

theorem wp_recover_missing (staged : OnlyStaged shared)
    (safe : ∀ seen, Missing shared allowed (some old) seen → invariant seen)
    (safeOld : ∀ seen, Knows shared allowed [(.current, old)] seen → invariant seen)
    (missing : Missing shared allowed (some old) before) :
    (fileSystem shared).wp invariant (recoverInterruptedSwap host).run
      (outcome
        (fun _ disk => Missing shared allowed (some old) disk ∨
          Knows shared allowed [(.current, old)] disk)
        fun _ => Missing shared allowed (some old)) before := by
  apply wp_recover (wp_quiet_same (quiet_of_looks interrupted_looks)
    (fun _ _ same held => Missing.same held staged same) safe missing) fun _ held => .inl held
  intro disk held
  apply wp_ask
  · intro seen torn
    exact torn.2.elim
  · intro answer last step
    obtain ⟨cleaned, offers, effect⟩ := rename_backup_frame staged step
    have offered : ∀ bytes, Reads shared last.files .replacement bytes → allowed bytes :=
      fun bytes reads => held.offered bytes (reads_same offers reads)
    cases answer with
    | ok value =>
        have restored : Knows shared allowed [(.current, old)] last := by
          refine ⟨cleaned.trans held.uncleaned, ?_, ?_, offered⟩
          · intro fact member
            obtain rfl : fact = (.current, old) := by simpa using member
            exact staged.own (by simp)
          · intro fact member
            obtain rfl : fact = (.current, old) := by simpa using member
            exact effect.2.trans held.backup
        exact ⟨safeOld last restored, .inr restored⟩
    | error error =>
        have still : Missing shared allowed (some old) last :=
          ⟨cleaned.trans held.uncleaned, effect.1.trans held.current,
            effect.2.trans held.backup, offered⟩
        exact ⟨safe last still, still⟩

end Recover

end LayoutAdblock.Updater
