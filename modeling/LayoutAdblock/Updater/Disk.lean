import LayoutAdblock.Updater.Helper

namespace LayoutAdblock.Updater

open Interaction Interaction.Environment

/-! # The disk under the helper -/

/-- The files the helper works on. Whether it has removed a backup is kept for the proofs,
since no file tells of it. -/
structure Disk where
  files : Files FileName
  /-- Ghost: a removal of the backup has succeeded. -/
  cleaned : Bool := false

def Call.Writes : Call → FileName → Prop
  | .file call, name => call.Writes name
  | _, _ => False

/-- Only the last call of a successful update removes the backup. -/
def Call.cleans : (op : Call) → op.Answer → Bool
  | .file (.removeFile .backup), .ok () => true
  | _, _ => false

/-- Any call may fail, a clock or a process may answer anything, and other
processes write to the shared files. -/
def fileSystem (shared : FileName → Prop) : Environment Call Call.Answer Disk where
  step op before answer after :=
    after.cleaned = (before.cleaned || op.cleans answer) ∧
      match op, answer with
      | .file call, answer => fileStep shared call before.files answer after.files
      | _, _ => Unshared shared before.files after.files
  torn op before seen :=
    seen.cleaned = before.cleaned ∧
      match op with
      | .file call => fileTorn shared call before.files seen.files
      | _ => False

section Knowledge

variable {shared : FileName → Prop} {before after : Disk} {op : Call} {answer : op.Answer}

theorem step_frame {path : FileName} (step : (fileSystem shared).step op before answer after)
    (unshared : ¬ shared path) (untouched : ¬ op.Writes path) :
    after.files path = before.files path := by
  cases op with
  | file call => exact fileStep_frame step.2 unshared untouched
  | _ => exact step.2 path unshared

theorem torn_frame {path : FileName} (torn : (fileSystem shared).torn op before after)
    (unshared : ¬ shared path) (untouched : ¬ op.Writes path) :
    after.files path = before.files path := by
  cases op with
  | file call => exact fileTorn_frame torn.2 unshared untouched
  | _ => exact torn.2.elim

/-- Other processes write at most to the staged download. -/
def OnlyStaged (shared : FileName → Prop) : Prop := ∀ path, shared path → path = .replacement

/-- What is known of the disk at one point of the update: the complete contents
of some files of the install directory, and what a copy of the staged download
can hold. -/
structure Knows (shared : FileName → Prop) (allowed : Bytes → Prop)
    (facts : List (FileName × Bytes)) (disk : Disk) : Prop where
  uncleaned : disk.cleaned = false
  own : ∀ fact ∈ facts, ¬ shared fact.1
  file : ∀ fact ∈ facts, disk.files fact.1 = some fact.2
  offered : ∀ bytes, Reads shared disk.files .replacement bytes → allowed bytes

variable {allowed : Bytes → Prop} {facts : List (FileName × Bytes)}

theorem Knows.fewer {fewer : List (FileName × Bytes)} (knows : Knows shared allowed facts before)
    (subset : fewer ⊆ facts) : Knows shared allowed fewer before where
  uncleaned := knows.uncleaned
  own fact member := knows.own fact (subset member)
  file fact member := knows.file fact (subset member)
  offered := knows.offered

theorem Knows.anyOffer (knows : Knows shared allowed facts before) :
    Knows shared (fun _ => True) facts before where
  uncleaned := knows.uncleaned
  own := knows.own
  file := knows.file
  offered _ _ := trivial

theorem Knows.transfer (knows : Knows shared allowed facts before)
    (cleaned : after.cleaned = before.cleaned)
    (same : ∀ fact ∈ facts, after.files fact.1 = before.files fact.1)
    (staged : ¬ shared .replacement → after.files .replacement = before.files .replacement ∨
      ∀ bytes, allowed bytes) : Knows shared allowed facts after where
  uncleaned := cleaned.trans knows.uncleaned
  own := knows.own
  file fact member := (same fact member).trans (knows.file fact member)
  offered bytes reads := by
    by_cases written : shared .replacement
    · exact knows.offered bytes (.inl written)
    · cases staged written with
      | inl unchanged =>
          apply knows.offered bytes
          rw [Reads, ← unchanged]
          exact reads
      | inr any => exact any bytes

/-- The call leaves alone what is known: no file with known bytes and no backup is written,
and the replacement only when any bytes may be there. -/
structure Call.Leaves (op : Call) (allowed : Bytes → Prop) (facts : List (FileName × Bytes)) :
    Prop where
  file : ∀ fact ∈ facts, ¬ op.Writes fact.1
  backup : ¬ op.Writes .backup
  staged : op.Writes .replacement → ∀ bytes, allowed bytes

theorem Call.cleans_writes (cleans : op.cleans answer = true) : op.Writes .backup := by
  cases op with
  | file call =>
      cases call with
      | removeFile path =>
          cases path with
          | backup => rfl
          | _ => simp [Call.cleans] at cleans
      | _ => simp [Call.cleans] at cleans
  | _ => simp [Call.cleans] at cleans

theorem step_cleaned (step : (fileSystem shared).step op before answer after)
    (leaves : ¬ op.Writes .backup) : after.cleaned = before.cleaned := by
  have cleans : op.cleans answer = false := by
    cases cleans : op.cleans answer with
    | false => rfl
    | true => exact absurd (Call.cleans_writes cleans) leaves
  rw [step.1, cleans, Bool.or_false]

theorem Knows.step (knows : Knows shared allowed facts before) (leaves : op.Leaves allowed facts)
    (step : (fileSystem shared).step op before answer after) :
    Knows shared allowed facts after := by
  apply knows.transfer (step_cleaned step leaves.backup)
  · intro fact member
    exact step_frame step (knows.own fact member) (leaves.file fact member)
  · intro unshared
    by_cases writes : op.Writes .replacement
    · exact .inr (leaves.staged writes)
    · exact .inl (step_frame step unshared writes)

theorem Knows.torn (knows : Knows shared allowed facts before) (leaves : op.Leaves allowed facts)
    (torn : (fileSystem shared).torn op before after) : Knows shared allowed facts after := by
  apply knows.transfer torn.1
  · intro fact member
    exact torn_frame torn (knows.own fact member) (leaves.file fact member)
  · intro unshared
    by_cases writes : op.Writes .replacement
    · exact .inr (leaves.staged writes)
    · exact .inl (torn_frame torn unshared writes)

/-- A call that fails without effect. -/
theorem Knows.unchanged (knows : Knows shared allowed facts before)
    (cleaned : after.cleaned = before.cleaned)
    (same : ∀ path, ¬ shared path → after.files path = before.files path) :
    Knows shared allowed facts after := by
  apply knows.transfer cleaned
  · intro fact member
    exact same fact.1 (knows.own fact member)
  · intro unshared
    exact .inl (same .replacement unshared)

variable {invariant : Disk → Prop} {α : Type}

/-- The rule of a call that leaves alone what is known. -/
theorem wp_leaves {post : op.Answer → Disk → Prop} (knows : Knows shared allowed facts before)
    (leaves : op.Leaves allowed facts)
    (safe : ∀ seen, Knows shared allowed facts seen → invariant seen)
    (holds : ∀ answer after, (fileSystem shared).step op before answer after →
      Knows shared allowed facts after → post answer after) :
    (fileSystem shared).wp invariant (ask op) post before := by
  apply wp_ask
  · intro seen torn
    exact safe seen (knows.torn leaves torn)
  · intro answer after step
    have known := knows.step leaves step
    exact ⟨safe after known, holds answer after step known⟩

/-- A program of such calls. -/
theorem wp_only {program : HelperM α}
    (only : program.Only fun op => op.Leaves allowed facts)
    (safe : ∀ seen, Knows shared allowed facts seen → invariant seen)
    (knows : Knows shared allowed facts before) :
    (fileSystem shared).wp invariant program (fun _ => Knows shared allowed facts) before := by
  induction program generalizing before with
  | done value => exact knows
  | call op next ih =>
      refine ⟨fun seen torn => safe seen (knows.torn only.1 torn), ?_⟩
      intro answer after step
      have known := knows.step only.1 step
      exact ⟨safe after known, ih answer (only.2 answer) known⟩

/-- The call changes no file, whatever else it does. -/
def Call.Quiet (op : Call) : Prop := ∀ path, ¬ op.Writes path

theorem Call.Quiet.leaves (quiet : op.Quiet) : op.Leaves allowed facts where
  file fact _ := quiet fact.1
  backup := quiet .backup
  staged writes := absurd writes (quiet .replacement)

/-- The same disk, but for what other processes do to the shared files. -/
def SameDisk (shared : FileName → Prop) (before after : Disk) : Prop :=
  after.cleaned = before.cleaned ∧ Unshared shared before.files after.files

/-- Programs that only look leave the disk as it is. -/
theorem wp_quiet_same {program : HelperM α} {kept : Disk → Prop}
    (quiet : program.Only Call.Quiet)
    (stable : ∀ before after, SameDisk shared before after → kept before → kept after)
    (safe : ∀ seen, kept seen → invariant seen) (initially : kept before) :
    (fileSystem shared).wp invariant program (fun _ => kept) before := by
  induction program generalizing before with
  | done value => exact initially
  | call op next ih =>
      constructor
      · intro seen torn
        apply safe seen (stable before seen ⟨torn.1, ?_⟩ initially)
        intro path unshared
        exact torn_frame torn unshared (quiet.1 path)
      · intro answer after step
        have held : kept after := by
          apply stable before after ⟨step_cleaned step (quiet.1 .backup), ?_⟩ initially
          intro path unshared
          exact step_frame step unshared (quiet.1 path)
        exact ⟨safe after held, ih answer (quiet.2 answer) held⟩

theorem wp_looking_same {ε : Type} {program : HelperE ε α} {kept : Disk → Prop}
    (quiet : program.run.Only Call.Quiet)
    (stable : ∀ before after, SameDisk shared before after → kept before → kept after)
    (safe : ∀ seen, kept seen → invariant seen) (initially : kept before) :
    (fileSystem shared).wp invariant program.run (outcome (fun _ => kept) fun _ => kept)
      before := by
  apply wp_mono (wp_quiet_same quiet stable safe initially)
  intro result after held
  cases result with
  | ok value => exact held
  | error error => exact held

/-- Programs that only look leave alone whatever is known. -/
theorem wp_quiet {program : HelperM α} (quiet : program.Only Call.Quiet)
    (safe : ∀ seen, Knows shared allowed facts seen → invariant seen)
    (knows : Knows shared allowed facts before) :
    (fileSystem shared).wp invariant program (fun _ => Knows shared allowed facts) before :=
  wp_only (quiet.mono fun _ looks => looks.leaves) safe knows

theorem wp_createNew {path : FileName} {post : Except IoError Unit → Disk → Prop}
    (knows : Knows shared allowed facts before) (pending : path ≠ .backup ∧ path ≠ .replacement)
    (safe : ∀ seen, Knows shared allowed facts seen → invariant seen)
    (created : ∀ after, (∀ fact ∈ facts, fact.1 ≠ path) → Knows shared allowed facts after →
      post (.ok ()) after)
    (failed : ∀ error after, Knows shared allowed facts after → post (.error error) after) :
    (fileSystem shared).wp invariant (fileCall (.createNew path)) post before := by
  apply wp_ask
  · intro seen torn
    exact torn.2.elim
  · intro answer after step
    have cleaned := step_cleaned step fun same => pending.1 same.symm
    cases answer with
    | ok value =>
        have missing : before.files path = none := fileStep_createNew step.2
        have fresh : ∀ fact ∈ facts, fact.1 ≠ path := by
          intro fact member same
          have present := knows.file fact member
          rw [same, missing] at present
          contradiction
        have leaves : (Call.file (.createNew path)).Leaves allowed facts :=
          ⟨fresh, fun same => pending.1 same.symm, fun same => absurd same.symm pending.2⟩
        have known := knows.step leaves step
        exact ⟨safe after known, created after fresh known⟩
    | error error =>
        have known := knows.unchanged cleaned fun path unshared =>
          fileStep_createNew_error step.2 unshared
        exact ⟨safe after known, failed error after known⟩

end Knowledge

end LayoutAdblock.Updater
