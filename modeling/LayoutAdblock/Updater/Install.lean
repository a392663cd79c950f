import LayoutAdblock.Updater.Swap

namespace LayoutAdblock.Updater

open Interaction Interaction.Environment

/-! # What an update keeps

`original` is what the installed file held when the update began, and `allowed`
says which contents a copy of the staged download can have.
-/

section Install

variable {shared : FileName → Prop} {allowed : Bytes → Prop} {invariant : Disk → Prop}
  {before : Disk} {original new : Bytes} {host : Host} {expected : Option String}

/-- The digest that the caller expects, if it expects one. -/
def Verified (host : Host) (expected : Option String) (bytes : Bytes) : Prop :=
  ∀ digest, expected = some digest → eqIgnoreAsciiCase (host.sha256 bytes) digest = true

/-- Both siblings are complete: one temporary holds the new file, verified, and another a
copy of the installed one, which is still in its place. -/
structure Prepared (shared : FileName → Prop) (allowed : Bytes → Prop) (host : Host)
    (expected : Option String) (original : Bytes) (prepared : PreparedInstall) (new : Bytes)
    (disk : Disk) : Prop where
  allows : allowed new
  verified : Verified host expected new
  replacement : Pending [(.current, original)] prepared.replacement
  backup : Pending [(prepared.replacement, new), (.current, original)] prepared.backup
  knows : Knows shared allowed
    [(prepared.backup, original), (prepared.replacement, new), (.current, original)] disk

theorem reads_fact {facts : List (FileName × Bytes)} {path : FileName} {bytes found : Bytes}
    {disk : Disk} (knows : Knows shared allowed facts disk) (fact : (path, bytes) ∈ facts)
    (reads : Reads shared disk.files path found) : found = bytes := by
  cases reads with
  | inl written => exact absurd written (knows.own _ fact)
  | inr holds =>
      rw [knows.file _ fact] at holds
      exact (Option.some.inj holds).symm

theorem wp_sha256File {facts : List (FileName × Bytes)} {path : FileName} {bytes : Bytes}
    (fact : (path, bytes) ∈ facts)
    (safe : ∀ seen, Knows shared allowed facts seen → invariant seen)
    (knows : Knows shared allowed facts before) :
    (fileSystem shared).wp invariant (sha256File host path).run
      (outcome (fun actual after => actual = host.sha256 bytes ∧ Knows shared allowed facts after)
        fun _ => Knows shared allowed facts) before := by
  have reading : (Call.file (.read path)).Quiet := fun _ writes => writes
  have found : (fileSystem shared).wp invariant (Fallible.attempt (fileCall (.read path))).run
      (outcome (fun found after => found = bytes ∧ Knows shared allowed facts after)
        fun _ => Knows shared allowed facts) before := by
    apply wp_attempt
    apply wp_leaves knows reading.leaves safe
    intro answer after step known
    cases answer with
    | ok found => exact ⟨reads_fact knows fact (fileStep_read step.2), known⟩
    | error error => exact known
  apply wp_try found
  intro value after held
  obtain ⟨rfl, known⟩ := held
  exact wp_done ⟨rfl, known⟩

theorem wp_verifyCopy {facts : List (FileName × Bytes)} {copy : FileName}
    (fact : (copy, new) ∈ facts)
    (safe : ∀ seen, Knows shared allowed facts seen → invariant seen)
    (knows : Knows shared allowed facts before) :
    (fileSystem shared).wp invariant (verifyCopy host copy expected).run
      (outcome (fun _ after => Verified host expected new ∧ Knows shared allowed facts after)
        fun _ => Knows shared allowed facts) before := by
  cases expected with
  | none => exact ⟨fun digest required => by contradiction, knows⟩
  | some digest =>
      apply wp_try (wp_mapError_same (wp_sha256File fact safe knows))
      intro actual after held
      obtain ⟨rfl, known⟩ := held
      apply wp_require
      · intro matching
        refine ⟨?_, known⟩
        intro required same
        cases same
        exact matching
      · intro _
        exact known

theorem Prepared.movesBackup {prepared : PreparedInstall} {disk : Disk}
    (ready : Prepared shared allowed host expected original prepared new disk) :
    Moves prepared.backup .backup original
      [(prepared.backup, original), (prepared.replacement, new), (.current, original)]
      [(.backup, original), (prepared.replacement, new), (.current, original)] where
  filled := by simp
  known := by
    have different : prepared.replacement ≠ prepared.backup := 
      ready.backup.fresh (prepared.replacement, new) (by simp)
    have apart := ready.backup.ne_current.symm
    have still := ready.replacement.ne_backup
    simp [different, apart, still]
  temporary := ready.backup.temporary
  installed := .inr rfl

theorem Pending.movesCurrent {others facts : List (FileName × Bytes)} {path : FileName}
    (pending : Pending others path) (filled : (path, new) ∈ facts)
    (kept : (.backup, original) ∈ facts) :
    Moves path .current new facts [(.current, new), (.backup, original)] where
  filled := filled
  known := by
    have apart := pending.ne_backup.symm
    simp [kept, apart]
  temporary := pending.temporary
  installed := .inl rfl

theorem wp_dropBoth {facts : List (FileName × Bytes)} {first second : FileName}
    (pending : Pending facts first) (another : Pending facts second)
    (safe : ∀ seen, Knows shared allowed facts seen → invariant seen)
    (knows : Knows shared allowed facts before) :
    (fileSystem shared).wp invariant
      (do
        removeQuietly first
        removeQuietly second)
      (fun _ => Knows shared allowed facts) before :=
  wp_seq (wp_removePending pending safe knows)
    fun _ _ held => wp_removePending another safe held

variable (staged : OnlyStaged shared)
include staged

theorem wp_prepare
    (safe : ∀ seen, Knows shared allowed [(.current, original)] seen → invariant seen)
    (knows : Knows shared allowed [(.current, original)] before) :
    (fileSystem shared).wp invariant (PreparedInstall.prepare host expected).run
      (outcome
        (fun prepared after =>
          ∃ new, Prepared shared allowed host expected original prepared new after)
        fun _ => Knows shared allowed [(.current, original)]) before := by
  apply wp_try (wp_looking (only_always (quiet_of_looks (canonical_looks .current))) safe knows)
  intro installed _ known
  apply wp_try (wp_looking (only_always (quiet_of_looks (canonical_looks .replacement))) safe known)
  intro source _ known
  apply wp_try (wp_looking only_require safe known)
  intro _ _ known
  apply wp_try (wp_looking (only_always (quiet_of_looks (hasContents_looks .replacement))) safe known)
  intro filled _ known
  apply wp_try (wp_looking only_require safe known)
  intro _ checked known
  have offered : ∀ disk, Knows shared allowed [(.current, original)] disk → ∀ bytes,
      Reads shared disk.files .replacement bytes → allowed bytes :=
    fun disk knowing => knowing.offered
  apply wp_try (wp_mapError_same (wp_syncedCopy staged offered safe known))
  intro copy copied held
  obtain ⟨pending, new, allows, known⟩ := held
  have safeCopy : ∀ seen, Knows shared allowed [(copy, new), (.current, original)] seen →
      invariant seen := fun seen knowing => safe seen knowing.tail
  have member : (copy, new) ∈ [(copy, new), (.current, original)] := List.mem_cons_self
  apply wp_try (wp_onError (wp_verifyCopy member safeCopy known)
    fun _ _ held => wp_removePending pending safe held.tail)
  intro _ checked held
  obtain ⟨verified, known⟩ := held
  have same : ∀ disk, Knows shared allowed [(copy, new), (.current, original)] disk → ∀ bytes,
      Reads shared disk.files .current bytes → bytes = original :=
    fun disk knowing bytes => reads_fact knowing (by simp)
  apply wp_try (wp_onError (wp_mapError_same (wp_syncedCopy staged same safeCopy known))
    fun _ _ held => wp_removePending pending safe held.tail)
  intro _ after held
  obtain ⟨fresh, bytes, rfl, known⟩ := held
  exact wp_done ⟨new, allows, verified, pending, fresh, known⟩

/-- A commit that fails leaves the original installed, and one that succeeds
leaves it as the backup. -/
theorem wp_commit {prepared : PreparedInstall}
    (safe : ∀ seen, Knows shared allowed [(.current, original)] seen → invariant seen)
    (safeNew : ∀ seen, Knows shared allowed [(.current, new), (.backup, original)] seen →
      invariant seen)
    (ready : Prepared shared allowed host expected original prepared new before) :
    (fileSystem shared).wp invariant (prepared.commit host).run
      (outcome (fun _ => Knows shared allowed [(.current, new), (.backup, original)])
        fun _ => Knows shared allowed [(.current, original)]) before := by
  have original_kept : ∀ {facts : List (FileName × Bytes)}, (.current, original) ∈ facts →
      ∀ seen, Knows shared allowed facts seen →
        Knows shared allowed [(.current, original)] seen := by
    intro facts member seen knowing
    exact knowing.fewer (by simpa using member)
  have backedUp := wp_replaceFile staged host ready.movesBackup
    (fun seen knowing => safe seen (original_kept (by simp) seen knowing))
    (fun seen knowing => safe seen (original_kept (by simp) seen knowing)) ready.knows
  have renames : (fileSystem shared).wp invariant
      (do
        (replaceFile host prepared.backup .backup).mapError fun error => .backupFailed error.text
        (replaceFile host prepared.replacement .current).mapError fun error =>
          .replaceFailed error.text : HelperE HelperError Unit).run
      (outcome (fun _ => Knows shared allowed [(.current, new), (.backup, original)])
        fun _ => Knows shared allowed [(.current, original)]) before := by
    apply wp_try (wp_mapError_same (wp_outcome_mono backedUp (fun _ _ held => held)
      fun _ after held => original_kept (by simp) after held))
    intro _ after known
    have installed := wp_replaceFile staged host
      (ready.replacement.movesCurrent (by simp) (by simp))
      (fun seen knowing => safe seen (original_kept (by simp) seen knowing)) safeNew known
    exact wp_mapError_same (wp_outcome_mono installed (fun _ _ held => held)
      fun _ after held => original_kept (by simp) after held)
  apply wp_afterwards renames
  intro result after held
  cases result with
  | ok value =>
      exact wp_dropBoth (ready.replacement.of_installed (by simp))
        (ready.backup.of_installed (by simp)) safeNew held
  | error error =>
      exact wp_dropBoth (ready.replacement.of_installed (by simp))
        (ready.backup.of_installed (by simp)) safe held

/-- Only a failed roll-back leaves the new version installed. -/
theorem wp_restorePreviousVersion
    (safe : ∀ seen, Knows shared allowed [(.current, original)] seen → invariant seen)
    (safeNew : ∀ seen, Knows shared allowed [(.current, new), (.backup, original)] seen →
      invariant seen)
    (knows : Knows shared allowed [(.current, new), (.backup, original)] before) :
    (fileSystem shared).wp invariant (restorePreviousVersion host).run
      (outcome (fun _ => Knows shared allowed [(.current, original)])
        fun error after => error.isRollbackFailed = true ∧
          Knows shared allowed [(.current, new), (.backup, original)] after) before := by
  apply wp_try (wp_always (wp_quiet (quiet_of_looks usableBackup_looks) safeNew knows))
  intro usable checked known
  have refuses : (fileSystem shared).wp invariant
      (Fallible.require usable (HelperError.rollbackFailed "usable backup missing")).run
      (outcome (fun _ => Knows shared allowed [(.current, new), (.backup, original)])
        fun error after => error.isRollbackFailed = true ∧
          Knows shared allowed [(.current, new), (.backup, original)] after) checked :=
    wp_require (fun _ => known) fun _ => ⟨rfl, known⟩
  apply wp_try refuses
  intro _ accepted known
  have same : ∀ disk, Knows shared allowed [(.current, new), (.backup, original)] disk →
      ∀ bytes, Reads shared disk.files .backup bytes → bytes = original :=
    fun disk knowing bytes => reads_fact knowing (by simp)
  apply wp_try (wp_mapError (wp_syncedCopy staged same safeNew known)
    fun _ _ held => ⟨rfl, held⟩)
  intro copy copied held
  obtain ⟨pending, bytes, rfl, known⟩ := held
  have moves : Moves copy .current bytes [(copy, bytes), (.current, new), (.backup, bytes)]
      [(.current, bytes), (.backup, bytes)] := pending.movesCurrent (by simp) (by simp)
  have safeRestored : ∀ seen, Knows shared allowed [(.current, bytes), (.backup, bytes)] seen →
      invariant seen := fun seen knowing => safe seen (knowing.fewer (by simp))
  have restored := wp_replaceFile staged host moves
    (fun seen knowing => safeNew seen knowing.tail) safeRestored known
  have ends : (fileSystem shared).wp invariant
      ((replaceFile host copy .current).mapError fun error =>
        HelperError.rollbackFailed error.text).run
      (outcome (fun _ => Knows shared allowed [(.current, bytes)])
        fun error after => error.isRollbackFailed = true ∧
          Knows shared allowed [(.current, new), (.backup, bytes)] after) copied := by
    apply wp_mapError (wp_outcome_mono restored (fun _ _ held => held.fewer (by simp))
      fun _ _ held => held.tail)
    intro error after held
    exact ⟨rfl, held⟩
  apply wp_afterwards ends
  intro result after held
  cases result with
  | ok value => exact wp_removePending (pending.of_installed (by simp)) safe held
  | error error =>
      apply wp_mono (wp_removePending (pending.of_installed (by simp)) safeNew held.2)
      intro _ last known
      exact ⟨held.1, known⟩

end Install

/-- The original is installed, or a complete new version is, and then the
original is the backup until the last clean-up. -/
def Intact (allowed : Bytes → Prop) (original : Bytes) (disk : Disk) : Prop :=
  disk.files .current = some original ∨
    ∃ new, allowed new ∧ disk.files .current = some new ∧
      (disk.files .backup = some original ∨ disk.cleaned = true)

/-- A file the download was allowed to be is installed, with the digest that was expected. -/
def Updated (host : Host) (allowed : Bytes → Prop) (expected : Option String) (disk : Disk) :
    Prop :=
  ∃ new, allowed new ∧ Verified host expected new ∧ disk.files .current = some new

/-- The original is installed as it was, or the error says that putting it back has failed.
In either case its backup has not been removed. -/
def NotUpdated (original : Bytes) (error : HelperError) (disk : Disk) : Prop :=
  disk.cleaned = false ∧ (error.isRollbackFailed = true ∨ disk.files .current = some original)

section Update

variable {shared : FileName → Prop} {allowed offered : Bytes → Prop} {before : Disk}
  {original new : Bytes} {host : Host} {options : UpdateOptions} {disk : Disk}

theorem Knows.intact (knows : Knows shared offered [(.current, original)] disk) :
    Intact allowed original disk :=
  .inl (knows.file (.current, original) (by simp))

theorem Knows.intact_new (knows : Knows shared offered [(.current, new), (.backup, original)] disk)
    (allows : allowed new) : Intact allowed original disk :=
  .inr ⟨new, allows, knows.file (.current, new) (by simp),
    .inl (knows.file (.backup, original) (by simp))⟩

theorem Knows.notUpdated (knows : Knows shared offered [(.current, original)] disk)
    (error : HelperError) : NotUpdated original error disk :=
  ⟨knows.uncleaned, .inr (knows.file (.current, original) (by simp))⟩

theorem removeReplacement_leaves {facts : List (FileName × Bytes)}
    (own : ∀ fact ∈ facts, fact.1 ≠ .replacement) :
    (removeQuietly .replacement).Only fun op => op.Leaves (fun _ => True) facts := by
  refine ⟨⟨own, ?_, ?_⟩, fun _ => trivial⟩
  · intro writes
    simp [Call.Writes, FileCall.Writes] at writes
  · intro _ _
    trivial

theorem wp_verifyStaged {expected : Option String}
    (knows : Knows shared offered [(.current, original)] before) :
    (fileSystem shared).wp (Intact allowed original) (verifyStaged host expected).run
      (outcome (fun _ => Knows shared offered [(.current, original)]) (NotUpdated original))
      before := by
  cases expected with
  | none => exact knows
  | some digest =>
      have reading := quiet_of_looks (sha256File_looks host .replacement)
      apply wp_try (wp_mapError (wp_looking reading (fun _ knowing => knowing.intact) knows)
        fun _ _ held => held.notUpdated _)
      intro actual after known
      by_cases matching : eqIgnoreAsciiCase actual digest = true
      · rw [if_pos matching]
        exact wp_done known
      · rw [if_neg matching]
        apply wp_try (wp_always (wp_only (removeReplacement_leaves (by simp))
          (fun _ knowing => knowing.intact) known.anyOffer))
        intro _ _ held
        exact wp_done (held.notUpdated _)

/-- The last clean-up: the backup goes, or stays. -/
theorem wp_removeBackup (allows : allowed new)
    (knows : Knows shared offered [(.current, new), (.backup, original)] before) :
    (fileSystem shared).wp (Intact allowed original) (removeQuietly .backup)
      (fun _ after => after.files .current = some new) before := by
  have own : ¬ shared .current := knows.own (.current, new) (by simp)
  have removes : (fileSystem shared).wp (Intact allowed original)
      (fileCall (.removeFile .backup)) (fun _ after => after.files .current = some new)
      before := by
    apply wp_ask
    · intro seen torn
      exact torn.2.elim
    · intro answer after step
      have installed : after.files .current = some new := by
        rw [step_frame step own (by simp [Call.Writes, FileCall.Writes])]
        exact knows.file (.current, new) (by simp)
      refine ⟨.inr ⟨new, allows, installed, ?_⟩, installed⟩
      cases answer with
      | ok value =>
          right
          rw [step.1]
          exact Bool.or_true _
      | error error =>
          left
          rw [fileStep_removeFile_error step.2 (knows.own (.backup, original) (by simp))]
          exact knows.file (.backup, original) (by simp)
  exact wp_seq removes fun _ _ held => held

variable (staged : OnlyStaged shared)
include staged

theorem wp_relaunchUpdated (allows : allowed new)
    (knows : Knows shared offered [(.current, new), (.backup, original)] before) :
    (fileSystem shared).wp (Intact allowed original) (relaunchUpdated host options).run
      (outcome (fun _ => Knows shared offered [(.current, new), (.backup, original)])
        (NotUpdated original)) before := by
  unfold relaunchUpdated
  by_cases relaunches : options.relaunch = true
  · rw [if_pos relaunches]
    have safe : ∀ seen, Knows shared offered [(.current, new), (.backup, original)] seen →
        Intact allowed original seen := fun _ knowing => knowing.intact_new allows
    apply wp_seq (wp_looking (quiet_of_starts (launchVerified_starts host _ _)) safe knows)
    intro result launched held
    cases result with
    | ok value => exact held
    | error error =>
        have restored : (fileSystem shared).wp (Intact allowed original)
            (restorePreviousVersion host).run
            (outcome (fun _ => Knows shared offered [(.current, original)])
              fun failure after => failure.isRollbackFailed = true ∧
                Knows shared offered [(.current, new), (.backup, original)] after) launched :=
          wp_restorePreviousVersion staged (fun _ knowing => knowing.intact) safe held
        apply wp_try (wp_outcome_mono restored (fun _ _ held => held)
          fun _ _ failed => ⟨failed.2.uncleaned, .inl failed.1⟩)
        intro _ after known
        exact wp_done (known.notUpdated _)
  · rw [if_neg relaunches]
    exact knows

/-- From a complete installed file on, every instant is intact, and the end is
the new version with the expected digest or the original.  A copy can be installed
that was offered and has the digest. -/
theorem wp_installReplacement_verified
    (allows : ∀ bytes, offered bytes → Verified host options.expectedSha256 bytes → allowed bytes)
    (knows : Knows shared offered [(.current, original)] before) :
    (fileSystem shared).wp (Intact allowed original) (installReplacement host options).run
      (outcome (fun _ => Updated host allowed options.expectedSha256) (NotUpdated original))
      before := by
  have safe : ∀ seen, Knows shared offered [(.current, original)] seen →
      Intact allowed original seen := fun _ knowing => knowing.intact
  have fails : ∀ (error : HelperError) (after : Disk),
      Knows shared offered [(.current, original)] after → NotUpdated original error after :=
    fun error _ knowing => knowing.notUpdated error
  apply wp_try (wp_outcome_mono (wp_looking (quiet_of_looks checkPaths_looks) safe knows) (fun _ _ held => held)
    fails)
  intro _ _ known
  apply wp_try (wp_outcome_mono (wp_looking (quiet_of_looks checkReplacement_looks) safe known)
    (fun _ _ held => held) fails)
  intro _ _ known
  apply wp_try (wp_verifyStaged known)
  intro _ _ known
  apply wp_try (wp_outcome_mono (wp_prepare staged safe known) (fun _ _ held => held) fails)
  intro prepared after held
  obtain ⟨new, ready⟩ := held
  have allowing := allows new ready.allows ready.verified
  have safeNew : ∀ seen, Knows shared offered [(.current, new), (.backup, original)] seen →
      Intact allowed original seen := fun _ knowing => knowing.intact_new allowing
  apply wp_try (wp_outcome_mono (wp_commit staged safe safeNew ready) (fun _ _ held => held) fails)
  intro _ _ known
  have removes : (removeQuietly .replacement).Only fun op =>
      op.Leaves (fun _ => True) [(.current, new), (.backup, original)] :=
    removeReplacement_leaves (by simp)
  apply wp_try (wp_always (wp_only removes (fun _ knowing => knowing.intact_new allowing)
    known.anyOffer))
  intro _ _ known
  apply wp_try (wp_relaunchUpdated staged allowing known)
  intro _ _ known
  apply wp_always
  apply wp_mono (wp_removeBackup allowing known)
  intro _ after installed
  exact ⟨new, allowing, ready.verified, installed⟩

theorem wp_installReplacement
    (knows : Knows shared allowed [(.current, original)] before) :
    (fileSystem shared).wp (Intact allowed original) (installReplacement host options).run
      (outcome (fun _ => Updated host allowed options.expectedSha256) (NotUpdated original))
      before :=
  wp_installReplacement_verified staged (fun _ offers _ => offers) knows

end Update

end LayoutAdblock.Updater
