import LayoutAdblock.Updater.Recovery

namespace LayoutAdblock.Updater

open Interaction Interaction.Environment

/-! # What an update leaves, at every instant and at its end -/

/-- The disk at the start of the helper, which has not removed anything yet. -/
def started (files : Files FileName) : Disk := { files := files }

def nothing (_ : FileName) : Prop := False

/-- Another process writes to the staged download. -/
def theDownload (path : FileName) : Prop := path = .replacement

section Update

variable {shared : FileName → Prop} {allowed : Bytes → Prop} {before after : Disk}
  {original old : Bytes} {files : Files FileName} (host : Host) (pid : UInt32) (timeout : Nanos)
  (options : UpdateOptions)

theorem knows_current (staged : OnlyStaged shared) (uncleaned : before.cleaned = false)
    (installed : before.files .current = some original)
    (offered : ∀ bytes, Reads shared before.files .replacement bytes → allowed bytes) :
    Knows shared allowed [(.current, original)] before := by
  refine ⟨uncleaned, ?_, ?_, offered⟩
  · intro fact member
    obtain rfl : fact = (.current, original) := by simpa using member
    exact staged.own (by simp)
  · intro fact member
    obtain rfl : fact = (.current, original) := by simpa using member
    exact installed

/-- The update, from what its recovery leaves. -/
theorem wp_update {env : Environment Call Call.Answer Disk} {invariant : Disk → Prop}
    {kept recovered : Disk → Prop} {succeeded : Unit → Disk → Prop}
    {failed : HelperError → Disk → Prop}
    (waits : env.wp invariant (waitForProcessExit pid timeout).run
      (outcome (fun _ => kept) failed) before)
    (recovers : ∀ disk, kept disk → env.wp invariant (recoverInterruptedSwap host).run
      (outcome (fun _ => recovered) failed) disk)
    (installs : ∀ disk, recovered disk → env.wp invariant (installReplacement host options).run
      (outcome succeeded failed) disk) :
    env.wp invariant (updateExecutableWith host pid timeout options).run
      (outcome succeeded failed) before := by
  apply wp_try waits
  intro _ waited held
  apply wp_try (recovers waited held)
  intro _ ready held
  exact installs ready held

theorem wp_update_present (staged : OnlyStaged shared)
    (knows : Knows shared allowed [(.current, original)] before) :
    ((fileSystem shared).restrict RecoversMissing).wp (Intact allowed original)
      (updateExecutableWith host pid timeout options).run
      (outcome (fun _ => Updated host allowed options.expectedSha256) (NotUpdated original))
      before := by
  apply wp_update
  · exact wp_restrict (wp_outcome_mono (wp_looking (quiet_of_looks (waitForProcessExit_looks pid timeout))
      (fun _ knowing => knowing.intact) knows) (fun _ _ held => held)
      fun error _ held => held.notUpdated error)
  · intro disk held
    exact wp_recover_present held
  · intro disk held
    exact wp_restrict (wp_installReplacement staged held)

theorem wp_update_agreeing (staged : OnlyStaged shared)
    (knows : Knows shared allowed [(.current, original)] before)
    (agrees : BackupAgrees original before) :
    (fileSystem shared).wp (Intact allowed original)
      (updateExecutableWith host pid timeout options).run
      (outcome (fun _ => Updated host allowed options.expectedSha256) (NotUpdated original))
      before := by
  apply wp_update
  · exact wp_outcome_mono (wp_looking_same (quiet_of_looks (waitForProcessExit_looks pid timeout))
      (fun _ _ => agreeing_same staged) (fun _ held => held.1.intact) ⟨knows, agrees⟩)
      (fun _ _ held => held) fun error _ held => held.1.notUpdated error
  · intro disk held
    exact wp_recover_agreeing staged held.1 held.2
  · intro disk held
    exact wp_installReplacement staged held

/-- The backup is removed by updates that succeed. -/
theorem wp_update_cleans (staged : OnlyStaged shared) (uncleaned : before.cleaned = false) :
    (fileSystem shared).wp (fun _ => True) (updateExecutableWith host pid timeout options).run
      (outcome (fun _ _ => True) fun _ disk => disk.cleaned = false) before := by
  apply wp_update
  · exact wp_looking_same (quiet_of_looks (waitForProcessExit_looks pid timeout))
      (fun _ _ same held => same.1.trans held) (fun _ _ => trivial) uncleaned
  · intro disk held
    apply wp_recover (wp_quiet_same (quiet_of_looks interrupted_looks) (fun _ _ same held => same.1.trans held)
      (fun _ _ => trivial) held) fun _ kept => kept
    intro decided kept
    apply wp_ask
    · intro seen torn
      trivial
    · intro answer last step
      have cleaned := (rename_backup_frame staged step).1.trans kept
      cases answer with
      | ok value => exact ⟨trivial, cleaned⟩
      | error error => exact ⟨trivial, cleaned⟩
  · intro disk held
    cases installed : disk.files .current with
    | none =>
        have missing : Missing shared (fun _ => True) (disk.files .backup) disk :=
          ⟨held, installed, rfl, fun _ _ => trivial⟩
        exact wp_outcome_mono (wp_installReplacement_missing staged (fun _ _ => trivial) missing)
          (fun _ _ impossible => impossible.elim) fun _ _ kept => kept.uncleaned
    | some bytes =>
        have knows : Knows shared (fun _ => True) [(.current, bytes)] disk :=
          knows_current staged held installed fun _ _ => trivial
        have installs : (fileSystem shared).wp (fun _ => True)
            (installReplacement host options).run
            (outcome (fun _ => Updated host (fun _ => True) options.expectedSha256)
              (NotUpdated bytes)) disk :=
          wp_weaken (wp_installReplacement staged knows) fun _ _ => trivial
        exact wp_outcome_mono installs (fun _ _ _ => trivial) fun _ _ failing => failing.1

end Update

section Stale

variable {shared : FileName → Prop} {files : Files FileName} {old : Bytes}

theorem unchanged_step {op : Call} {answer : op.Answer} {disk : Disk}
    (cleans : op.cleans answer = false)
    (step : match op, answer with
      | .file call, answer => call.effect shared disk.files answer disk.files
      | _, _ => True) : (fileSystem shared).step op disk answer disk := by
  refine ⟨by rw [cleans, Bool.or_false], ?_⟩
  cases op with
  | file call => exact fileStep_of_effect step
  | _ => exact fun _ _ => rfl

theorem waitForProcessExit_run (pid : UInt32) (timeout : Nanos) (disk : Disk) :
    (fileSystem shared).Runs (waitForProcessExit pid timeout).run disk (.ok ()) disk := by
  unfold waitForProcessExit
  by_cases none : pid = 0
  · rw [if_pos none]
    exact Runs.done
  · rw [if_neg none]
    have closed : (fileSystem shared).step (.openProcess pid) disk false disk :=
      unchanged_step rfl trivial
    exact Runs.call closed Runs.done

/-- The disk after a stale backup was renamed over the installed file. -/
def overwritten (files : Files FileName) (old : Bytes) : Disk where
  files := Function.update (Function.update files .current (some old)) .backup none

theorem recover_run (host : Host) (stale : files .backup = some old) :
    (fileSystem shared).Runs (recoverInterruptedSwap host).run (started files) (.ok true)
      (overwritten files old) := by
  have found : (started files).files .backup = some old := stale
  have unseen : (fileSystem shared).step (.file (.pathExists .current)) (started files) false
      (started files) := unchanged_step rfl ⟨fun impossible => by contradiction, rfl⟩
  have seen : (fileSystem shared).step (.file (.pathExists .backup)) (started files) true
      (started files) := by
    apply unchanged_step rfl
    refine ⟨fun _ => .inr ?_, rfl⟩
    rw [found]
    simp
  have moved : (fileSystem shared).step (.file (.rename .backup .current)) (started files)
      (.ok ()) (overwritten files old) := by
    refine ⟨rfl, fileStep_of_effect ⟨?_, ?_⟩⟩
    · rw [found]
      simp
    · rw [found]
      rfl
  exact Runs.call unseen (Runs.call seen (Runs.call moved Runs.done))

/-- When the installed file cannot be probed, the older version takes its place
and the update fails with another error than that of a failed roll-back. -/
theorem stale_backup_run (host : Host) (pid : UInt32) (timeout : Nanos) (options : UpdateOptions)
    (stale : files .backup = some old) :
    (fileSystem shared).Runs (updateExecutableWith host pid timeout options).run (started files)
      (.error (.currentMissing .current)) (overwritten files old) := by
  apply runs_try (waitForProcessExit_run pid timeout (started files))
  apply runs_try (recover_run host stale)
  have unseen : (fileSystem shared).step (.file (.pathExists .current)) (overwritten files old)
      false (overwritten files old) := unchanged_step rfl ⟨fun impossible => by contradiction, rfl⟩
  exact Runs.call unseen Runs.done

end Stale

/-- The installed file is the original or the complete download, and from then
on the original is the backup until the last clean-up. -/
def Complete (files : Files FileName) (seen : Disk) : Prop :=
  seen.files .current ≠ none ∧
    (seen.files .current = files .current ∨
      seen.files .current = files .replacement ∧
        (seen.files .backup = files .current ∨ seen.cleaned = true))

/-- The previous version is installed or kept as the backup, or the complete
download is installed. -/
def Recoverable (files : Files FileName) (seen : Disk) : Prop :=
  seen.files .current = files .backup ∨ seen.files .backup = files .backup ∨
    seen.files .current ≠ none ∧ seen.files .current = files .replacement

/-- Success means the expected digest, and an error the original file, but for
a failed roll-back. -/
def Settled (host : Host) (options : UpdateOptions) (files : Files FileName) :
    Except HelperError Unit → Disk → Prop
  | .ok (), disk => ∀ digest, options.expectedSha256 = some digest →
      ∃ bytes, disk.files .current = some bytes ∧
        eqIgnoreAsciiCase (host.sha256 bytes) digest = true
  | .error error, disk =>
      error.isRollbackFailed = false → disk.files .current = files .current

section Results

variable {files : Files FileName} {original old : Bytes} {disk : Disk}

theorem nothing_staged : OnlyStaged nothing := fun _ written => written.elim

theorem theDownload_staged : OnlyStaged theDownload := fun _ written => written

theorem Intact.complete (installed : files .current = some original)
    (intact : Intact (fun bytes => files .replacement = some bytes) original disk) :
    Complete files disk := by
  cases intact with
  | inl kept =>
      rw [Complete, kept, installed]
      simp
  | inr replaced =>
      obtain ⟨new, offered, current, backup⟩ := replaced
      rw [Complete, current, installed, offered]
      exact ⟨by simp, .inr ⟨rfl, backup⟩⟩

theorem offered_unshared {bytes : Bytes} (reads : Reads nothing files .replacement bytes) :
    files .replacement = some bytes := by
  cases reads with
  | inl written => exact written.elim
  | inr holds => exact holds

theorem overwritten_incomplete (installed : files .current = some original)
    (different : old ≠ original) : ¬ Complete files (overwritten files old) := by
  intro complete
  have current : (overwritten files old).files .current = some old := by
    simp [overwritten]
  have backup : (overwritten files old).files .backup = none := by
    simp [overwritten]
  obtain ⟨_, same⟩ := complete
  rw [current, backup, installed] at same
  cases same with
  | inl same => exact different (Option.some.inj same)
  | inr replaced =>
      cases replaced.2 with
      | inl same => contradiction
      | inr cleaned => contradiction

theorem agrees_or_stale (files : Files FileName) (original : Bytes) :
    BackupAgrees original (started files) ∨ ∃ old, files .backup = some old ∧ old ≠ original := by
  cases found : files .backup with
  | none => exact .inl (.inl found)
  | some old =>
      by_cases same : old = original
      · rw [same] at found
        exact .inl (.inr found)
      · exact .inr ⟨old, rfl, same⟩

theorem agrees_iff (installed : files .current = some original) :
    BackupAgrees original (started files) ↔
      files .backup = none ∨ files .backup = files .current := by
  rw [installed]
  rfl

theorem started_recoverable (host : Host) (pid : UInt32) (timeout : Nanos)
    (options : UpdateOptions) (absent : files .current = none) (found : files .backup = some old) :
    (fileSystem nothing).wp (Recoverable files)
      (updateExecutableWith host pid timeout options).run (fun _ _ => True) (started files) := by
  let offers := fun bytes => files .replacement = some bytes
  have missing : Missing nothing offers (some old) (started files) :=
    ⟨rfl, absent, found, fun _ reads => offered_unshared reads⟩
  have safe : ∀ seen, Missing nothing offers (some old) seen → Recoverable files seen :=
    fun _ held => .inr (.inl (held.backup.trans found.symm))
  have safeOld : ∀ seen, Intact offers old seen → Recoverable files seen := by
    intro seen intact
    cases intact with
    | inl kept => exact .inl (kept.trans found.symm)
    | inr replaced =>
        obtain ⟨new, offered, current, _⟩ := replaced
        refine .inr (.inr ⟨?_, current.trans offered.symm⟩)
        rw [current]
        simp
  have update : (fileSystem nothing).wp (Recoverable files)
      (updateExecutableWith host pid timeout options).run
      (outcome (fun _ _ => True) fun _ _ => True) (started files) := by
    apply wp_update
    · exact wp_outcome_mono (wp_looking_same (quiet_of_looks (waitForProcessExit_looks pid timeout))
        (fun _ _ same held => Missing.same held nothing_staged same) safe missing)
        (fun _ _ held => held) fun _ _ _ => trivial
    · intro waited held
      exact wp_outcome_mono (wp_recover_missing nothing_staged safe
        (fun _ knowing => safeOld _ knowing.intact) held) (fun _ _ kept => kept)
        fun _ _ _ => trivial
    · intro ready held
      cases held with
      | inl still =>
          exact wp_outcome_mono (wp_installReplacement_missing nothing_staged safe still)
            (fun _ _ _ => trivial) fun _ _ _ => trivial
      | inr knows =>
          exact wp_outcome_mono (wp_weaken (wp_installReplacement nothing_staged knows) safeOld)
            (fun _ _ _ => trivial) fun _ _ _ => trivial
  exact wp_mono update fun _ _ _ => trivial

/-- Killed at any instant, with any call failing, the update has a complete
executable installed; only a recovery that takes an installed file for missing
can put a stale backup in its place. -/
theorem installed_file_complete (host : Host) (pid : UInt32) (timeout : Nanos)
    (options : UpdateOptions) (files : Files FileName) :
    (files .current ≠ none →
      (∀ seen, ((fileSystem nothing).restrict RecoversMissing).Observes
          (updateExecutableWith host pid timeout options).run (started files) seen →
        Complete files seen) ∧
      ((∀ seen, (fileSystem nothing).Observes
          (updateExecutableWith host pid timeout options).run (started files) seen →
        Complete files seen) ↔ files .backup = none ∨ files .backup = files .current)) ∧
    (files .current = none → files .backup ≠ none →
      ∀ seen, (fileSystem nothing).Observes
          (updateExecutableWith host pid timeout options).run (started files) seen →
        Recoverable files seen) ∧
    ∀ result after, (fileSystem nothing).Runs
        (updateExecutableWith host pid timeout options).run (started files) result after →
      after.cleaned = true → result = .ok () := by
  refine ⟨?_, ?_, ?_⟩
  · intro existed
    obtain ⟨original, installed⟩ := Option.ne_none_iff_exists'.mp existed
    have knows : Knows nothing (fun bytes => files .replacement = some bytes)
        [(.current, original)] (started files) :=
      knows_current nothing_staged rfl installed fun _ reads => offered_unshared reads
    constructor
    · intro seen observed
      have holds := wp_update_present host pid timeout options nothing_staged knows
      exact (wp_observes holds knows.intact observed).complete installed
    · rw [← agrees_iff installed]
      constructor
      · intro complete
        cases agrees_or_stale files original with
        | inl agrees => exact agrees
        | inr stale =>
            obtain ⟨old, found, different⟩ := stale
            have run : (fileSystem nothing).Runs (updateExecutableWith host pid timeout options).run
                (started files) (.error (.currentMissing .current)) (overwritten files old) :=
              stale_backup_run host pid timeout options found
            exact absurd (complete _ run.observes) (overwritten_incomplete installed different)
      · intro agrees seen observed
        have holds := wp_update_agreeing host pid timeout options nothing_staged knows agrees
        exact (wp_observes holds knows.intact observed).complete installed
  · intro absent kept seen observed
    obtain ⟨old, found⟩ := Option.ne_none_iff_exists'.mp kept
    have holds := started_recoverable host pid timeout options absent found
    exact wp_observes holds (.inr (.inl rfl)) observed
  · intro result after run cleaned
    have holds := wp_runs (wp_update_cleans host pid timeout options nothing_staged rfl) run
    cases result with
    | ok value => rfl
    | error error =>
        rw [show after.cleaned = false from holds] at cleaned
        contradiction

theorem settled_of_outcome {host : Host} {options : UpdateOptions}
    (installed : files .current = some original) {result : Except HelperError Unit}
    (ends : outcome (fun _ => Updated host (fun _ => True) options.expectedSha256)
      (NotUpdated original) result disk) : Settled host options files result disk := by
  cases result with
  | ok value =>
      obtain ⟨new, _, verified, current⟩ := ends
      intro digest expected
      exact ⟨new, current, verified digest expected⟩
  | error error =>
      intro another
      cases ends.2 with
      | inl failed =>
          rw [failed] at another
          contradiction
      | inr kept => exact kept.trans installed.symm

/-- Whatever another process does to the download, success installs the expected
digest and an error keeps the original, unless the roll-back failed or a
recovery put a stale backup in its place. -/
theorem update_settles (host : Host) (pid : UInt32) (timeout : Nanos) (options : UpdateOptions)
    (files : Files FileName) (existed : files .current ≠ none) :
    (∀ result after, ((fileSystem theDownload).restrict RecoversMissing).Runs
        (updateExecutableWith host pid timeout options).run (started files) result after →
      Settled host options files result after) ∧
    ((∀ result after, (fileSystem theDownload).Runs
        (updateExecutableWith host pid timeout options).run (started files) result after →
      Settled host options files result after) ↔
        files .backup = none ∨ files .backup = files .current) := by
  obtain ⟨original, installed⟩ := Option.ne_none_iff_exists'.mp existed
  have knows : Knows theDownload (fun _ => True) [(.current, original)] (started files) :=
    knows_current theDownload_staged rfl installed fun _ _ => trivial
  constructor
  · intro result after run
    have holds := wp_update_present host pid timeout options theDownload_staged knows
    exact settled_of_outcome installed (wp_runs holds run)
  · rw [← agrees_iff installed]
    constructor
    · intro settled
      cases agrees_or_stale files original with
      | inl agrees => exact agrees
      | inr stale =>
          obtain ⟨old, found, different⟩ := stale
          have kept := settled _ _ (stale_backup_run host pid timeout options found) rfl
          have current : (overwritten files old).files .current = some old := by
            simp [overwritten]
          rw [current, installed] at kept
          exact absurd (Option.some.inj kept) different
    · intro agrees result after run
      have holds := wp_update_agreeing host pid timeout options theDownload_staged knows agrees
      exact settled_of_outcome installed (wp_runs holds run)

end Results

/-- A host whose digest of a file is its length. -/
def plainHost : Host where
  sha256 bytes := toString bytes.length
  display _ := ""
  retries := 100
  polls := 3000

/-- An installed version, a download, and a backup that an earlier update has left behind. -/
def staleFiles : Files FileName
  | .current => some [1, 1]
  | .backup => some [0]
  | .replacement => some [2, 2, 2]
  | .temporary _ _ => none

theorem staleFiles_overwritten :
    staleFiles .current ≠ none ∧
      ∃ seen, (fileSystem nothing).Observes (updateExecutableWith plainHost 0 0 {}).run
          (started staleFiles) seen ∧ ¬ Complete staleFiles seen := by
  refine ⟨by simp [staleFiles], overwritten staleFiles [0], ?_, ?_⟩
  · have run : (fileSystem nothing).Runs (updateExecutableWith plainHost 0 0 {}).run
        (started staleFiles) (.error (.currentMissing .current)) (overwritten staleFiles [0]) :=
      stale_backup_run plainHost 0 0 {} rfl
    exact run.observes
  · have installed : staleFiles .current = some [1, 1] := rfl
    exact overwritten_incomplete installed (by decide)

theorem staleFiles_not_settled :
    staleFiles .current ≠ none ∧
      ∃ result after, (fileSystem theDownload).Runs
          (updateExecutableWith plainHost 0 0 { expectedSha256 := some "3" }).run
          (started staleFiles) result after ∧
        ¬ Settled plainHost { expectedSha256 := some "3" } staleFiles result after := by
  refine ⟨by simp [staleFiles], _, _, stale_backup_run plainHost 0 0 _ rfl, ?_⟩
  intro settled
  have kept := settled rfl
  simp [overwritten, staleFiles] at kept

def freshFiles : Files FileName
  | .current => some [1, 1]
  | .replacement => some [2, 2, 2]
  | _ => none

def workingFile : (call : FileCall FileName) → Files FileName → FileAnswer call × Files FileName
  | .pathExists path, files | .isFile path, files => ((files path).isSome, files)
  | .metadata path, files =>
      match files path with
      | some bytes => (.ok bytes.length, files)
      | none => (.error { rawOsError := some 2, text := "" }, files)
  | .canonicalize path, files => (.ok (if path = .replacement then "new" else "old"), files)
  | .openRead path, files =>
      (if (files path).isSome then .ok () else .error { rawOsError := some 2, text := "" }, files)
  | .read path, files =>
      match files path with
      | some bytes => (.ok bytes, files)
      | none => (.error { rawOsError := some 2, text := "" }, files)
  | .createNew path, files =>
      match files path with
      | some _ => (.error { rawOsError := some 80, text := "" }, files)
      | none => (.ok (), Function.update files path (some []))
  | .copy source destination, files =>
      match files source with
      | some bytes => (.ok (), Function.update files destination (some bytes))
      | none =>
          (.error { rawOsError := some 2, text := "" }, Function.update files destination (some []))
  | .syncAll _, files => (.ok (), files)
  | .rename source destination, files =>
      match files source with
      | some bytes =>
          (.ok (), Function.update (Function.update files destination (some bytes)) source none)
      | none => (.error { rawOsError := some 2, text := "" }, files)
  | .removeFile path, files =>
      match files path with
      | some _ => (.ok (), Function.update files path none)
      | none => (.error { rawOsError := some 2, text := "" }, files)

theorem workingFile_realizes (call : FileCall FileName) (files : Files FileName) :
    call.effect theDownload files (workingFile call files).1 (workingFile call files).2 := by
  cases call with
  | pathExists path | isFile path =>
      refine ⟨fun found => .inr ?_, rfl⟩
      exact Option.isSome_iff_ne_none.mp found
  | canonicalize path | syncAll path => rfl
  | openRead path =>
      refine ⟨fun opened => .inr ?_, rfl⟩
      cases found : files path with
      | none => simp [workingFile, found] at opened
      | some bytes => simp
  | metadata path | read path | createNew path | removeFile path =>
      cases found : files path with
      | none => simp [workingFile, FileCall.effect, found]
      | some bytes => simp [workingFile, FileCall.effect, Reads, found]
  | copy source destination =>
      cases found : files source with
      | none =>
          simp only [workingFile, FileCall.effect, found]
          exact ⟨[], rfl⟩
      | some bytes => simp [workingFile, FileCall.effect, Reads, found]
  | rename source destination =>
      cases found : files source with
      | none => simp [workingFile, FileCall.effect, found]
      | some bytes => simp [workingFile, FileCall.effect, found]

/-- A system on which every call succeeds and every file is what it seems. -/
def working : (op : Call) → Disk → op.Answer × Disk
  | .file call, disk =>
      let result := workingFile call disk.files
      (result.1,
        { files := result.2
          cleaned := disk.cleaned || Call.cleans (.file call) result.1 })
  | .openProcess _, disk => (false, disk)
  | .waitForSingleObject _, disk => (.object0, disk)
  | .systemTime, disk => (.ok 0, disk)
  | .fetchSequence, disk => (if (disk.files (.temporary 0 0)).isSome then 1 else 0, disk)
  | .now, disk => (0, disk)
  | .createReadyDir _, disk => (.ok (), disk)
  | .spawn _ _, disk => (.ok 7, disk)
  | .tryWait, disk => (.ok none, disk)
  | .readReady _, disk => (none, disk)
  | .closeHandle, disk | .sleep _, disk | .kill, disk | .waitChild, disk | .removeReady _, disk
  | .removeReadyDir _, disk => ((), disk)

theorem working_realizes (op : Call) (disk : Disk) :
    (fileSystem theDownload).step op disk (working op disk).1 (working op disk).2 := by
  cases op with
  | file call => exact ⟨rfl, fileStep_of_effect (workingFile_realizes call disk.files)⟩
  | _ => exact ⟨(Bool.or_false _).symm, fun _ _ => rfl⟩

/-- An update whose download is expected to have a digest, without a launch. -/
def verifiedUpdate : HelperE HelperError Unit :=
  updateExecutableWith plainHost 0 0 { expectedSha256 := some "3" }

/-- A run that succeeds installs a download with the expected digest. -/
theorem freshFiles_verified :
    (verifiedUpdate.run.exec working (started freshFiles)).1 = .ok () ∧
      Settled plainHost { expectedSha256 := some "3" } freshFiles (.ok ())
        (verifiedUpdate.run.exec working (started freshFiles)).2 := by
  have ran := runs_exec working_realizes verifiedUpdate.run (started freshFiles)
  have succeeded : (verifiedUpdate.run.exec working (started freshFiles)).1 = .ok () := rfl
  rw [succeeded] at ran
  have settles := (update_settles plainHost 0 0 { expectedSha256 := some "3" } freshFiles
    (by simp [freshFiles])).2.mpr (.inl rfl)
  exact ⟨succeeded, settles _ _ ran⟩

end LayoutAdblock.Updater
