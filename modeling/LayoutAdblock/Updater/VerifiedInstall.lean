import LayoutAdblock.Updater.Outcome
import LayoutAdblock.Updater.Main

namespace LayoutAdblock.Updater

open Interaction Interaction.Fallible Interaction.Environment

/-! # What the process of the helper installs -/

variable {host : Host} {cli : Cli} {original : Bytes} {before after : Disk}

/-- A file system in which a missing installed file can be recovered. -/
abbrev Present : Environment Call Call.Answer Disk :=
  (fileSystem theDownload).restrict RecoversMissing

/-- The call writes to the staged download at most. -/
def Spares (op : Call) : Prop := ∀ path, op.Writes path → path = .replacement

theorem spares_of_quiet {α : Type} {program : HelperM α} (only : program.Only Call.Quiet) :
    program.Only Spares :=
  only.mono fun _ quiet path writes => absurd writes (quiet path)

theorem Intact.same {allowed : Bytes → Prop} (intact : Intact allowed original before)
    (current : after.files .current = before.files .current)
    (backup : after.files .backup = before.files .backup) (cleaned : after.cleaned = before.cleaned) :
    Intact allowed original after := by
  rw [Intact, current, backup, cleaned]
  exact intact

theorem spares_intact {α : Type} {program : HelperM α} {allowed : Bytes → Prop}
    (only : program.Only Spares) (intact : Intact allowed original before) :
    Present.wp (Intact allowed original) program (fun _ => Intact allowed original) before := by
  have own : ∀ path, path ≠ FileName.replacement → ¬ theDownload path :=
    fun path different same => different same
  apply wp_restrict
  apply wp_of_step only
  · intro op seen torn spares held tears
    have untouched : ∀ path, path ≠ .replacement → ¬ op.Writes path :=
      fun path different writes => different (spares path writes)
    exact held.same (torn_frame tears (own _ nofun) (untouched _ nofun))
      (torn_frame tears (own _ nofun) (untouched _ nofun)) tears.1
  · intro op seen answer last spares held step
    have untouched : ∀ path, path ≠ .replacement → ¬ op.Writes path :=
      fun path different writes => different (spares path writes)
    exact held.same (step_frame step (own _ nofun) (untouched _ nofun))
      (step_frame step (own _ nofun) (untouched _ nofun))
      (step_cleaned step (untouched _ nofun))
  · exact fun _ held => held
  · exact intact

theorem discardSeparate_spares : discardSeparate.Only Spares := by
  apply (spares_of_quiet (quiet_of_looks separateDownload_looks)).bind
  intro separate
  cases separate with
  | false => trivial
  | true =>
      refine ⟨fun path writes => writes.elim, fun regular => ?_⟩
      cases regular with
      | false => trivial
      | true => exact ⟨fun path same => same, fun _ => trivial⟩

theorem restartPrevious_spares (cli : Cli) (error : HelperError) :
    (restartPrevious cli error).Only Spares := by
  have relaunches : (relaunchPrevious cli.relaunchArg).Only Spares := by
    refine ⟨fun path writes => writes.elim, fun regular => ?_⟩
    cases regular with
    | false => trivial
    | true =>
        refine ⟨fun path writes => writes.elim, fun started => ?_⟩
        cases started <;> trivial
  change Program.Only _ (if _ then _ else _)
  split
  · exact relaunches
  · trivial

theorem wp_cleanUpUpdate {error : HelperError} {allowed : Bytes → Prop}
    (intact : Intact allowed original before) :
    Present.wp (Intact allowed original) (cleanUpUpdate host cli error)
      (fun ended _ => ended.code = 1) before := by
  apply wp_seq (spares_intact discardSeparate_spares intact)
  intro _ discarded held
  apply wp_seq (spares_intact (restartPrevious_spares cli error) held)
  intro _ _ _
  exact wp_done rfl

/-- Whatever other processes do to the download, the helper installs what it verified. -/
theorem wp_update_verified (host : Host) (pid : UInt32) (timeout : Nanos)
    (options : UpdateOptions) (uncleaned : before.cleaned = false)
    (installed : before.files .current = some original) :
    Present.wp (Intact (Verified host options.expectedSha256) original)
      (updateExecutableWith host pid timeout options).run
      (outcome (fun _ => Updated host (Verified host options.expectedSha256)
        options.expectedSha256) (NotUpdated original)) before := by
  have knows : Knows theDownload (fun _ => True) [(.current, original)] before :=
    knows_current theDownload_staged uncleaned installed fun _ _ => trivial
  apply wp_update
  · exact wp_restrict (wp_outcome_mono (wp_looking (quiet_of_looks (waitForProcessExit_looks pid timeout))
      (fun _ knowing => knowing.intact) knows) (fun _ _ held => held)
      fun error _ held => held.notUpdated error)
  · intro disk held
    exact wp_recover_present held
  · intro disk held
    exact wp_restrict (wp_installReplacement_verified theDownload_staged
      (fun _ _ verified => verified) held)

theorem wp_updateMain (host : Host) (cli : Cli) (uncleaned : before.cleaned = false)
    (installed : before.files .current = some original) :
    Present.wp (Intact (Verified host cli.sha256) original) (updateMain host cli)
      (fun ended disk => ended.code = 0 →
        ∃ bytes, Verified host cli.sha256 bytes ∧ disk.files .current = some bytes) before := by
  apply wp_seq (wp_kept (wp_update_verified host cli.pid (timeoutOf cli) (optionsOf cli)
    uncleaned installed) (Or.inl installed))
  rintro result disk ⟨ends, intact⟩
  cases result with
  | ok value =>
      obtain ⟨bytes, verified, _, current⟩ := ends
      exact wp_done fun _ => ⟨bytes, verified, current⟩
  | error error =>
      apply wp_mono (wp_cleanUpUpdate intact)
      intro ended _ failed succeeded
      rw [failed] at succeeded
      cases succeeded

end LayoutAdblock.Updater
