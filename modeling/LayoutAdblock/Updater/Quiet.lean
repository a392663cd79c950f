import LayoutAdblock.Updater.Disk

namespace LayoutAdblock.Updater

open Interaction Interaction.Fallible Interaction.Environment

/-! # What the programs of the helper do besides looking around

Some write no file that the update is about, and most start no process.
-/

def Call.Starts : (op : Call) → op.Answer → Prop
  | .spawn _ _, .ok _ => True
  | _, _ => False

def Call.Spawnless (op : Call) : Prop := ∀ answer : op.Answer, ¬ op.Starts answer

/-- What a call does besides looking around: it writes a file that the update is about,
or it starts a process.  No call does both. -/
inductive Errand where
  | looks | writes | starts
deriving DecidableEq

/-- What the call is for. Removing a ready file counts as looking, since that is no file of
the update. -/
def Call.errand : Call → Errand
  | .spawn _ _ => .starts
  | .file (.createNew _) | .file (.copy _ _) | .file (.rename _ _) | .file (.removeFile _) =>
      .writes
  | _ => .looks

/-- The calls of some errands.  Which of them a program makes is found out once; what it
leaves alone follows from the errands that are not among them. -/
def Call.Within (errands : List Errand) (op : Call) : Prop := errands.contains op.errand = true

/-- A call that changes no file of the update and starts no app. -/
abbrev Looking := Call.Within [.looks]

abbrev Writing := Call.Within [.looks, .writes]

/-- A call that changes no file of the update. -/
abbrev Starting := Call.Within [.looks, .starts]

theorem Call.Writes.errand {op : Call} {path : FileName} (writes : op.Writes path) :
    op.errand = .writes := by
  cases op with
  | file call =>
      cases call with
      | createNew | copy | rename | removeFile => rfl
      | _ => exact writes.elim
  | _ => exact writes.elim

theorem Call.Starts.errand {op : Call} {answer : op.Answer} (starts : op.Starts answer) :
    op.errand = .starts := by
  cases op with
  | spawn args ready => rfl
  | _ => exact starts.elim

section Within

variable {α : Type} {program : HelperM α} {errands : List Errand} {op : Call}

theorem within_ask (op : Call) (within : op.Within errands) : (ask op).Only (Call.Within errands) :=
  ⟨within, fun _ => trivial⟩

theorem looks_ask (op : Call) (within : Looking op) : (ask op).Only Looking :=
  within_ask op within

theorem writes_ask (op : Call) (within : Writing op) : (ask op).Only Writing :=
  within_ask op within

theorem starts_ask (op : Call) (within : Starting op) : (ask op).Only Starting :=
  within_ask op within

theorem writes_file (call : FileCall FileName) (within : Writing (.file call)) :
    (fileCall call).Only Writing :=
  within_ask (.file call) within

theorem Call.Within.quiet (within : op.Within errands) (free : errands.contains .writes = false) :
    op.Quiet := by
  intro path writes
  rw [Call.Within, writes.errand, free] at within
  cases within

theorem Call.Within.spawnless (within : op.Within errands)
    (free : errands.contains .starts = false) : op.Spawnless := by
  intro answer starts
  rw [Call.Within, starts.errand, free] at within
  cases within

theorem quiet_of_looks (only : program.Only Looking) : program.Only Call.Quiet :=
  only.mono fun _ within => within.quiet rfl

theorem quiet_of_starts (only : program.Only Starting) : program.Only Call.Quiet :=
  only.mono fun _ within => within.quiet rfl

theorem spawnless_of_writes (only : program.Only Writing) : program.Only Call.Spawnless :=
  only.mono fun _ within => within.spawnless rfl

theorem writes_of_looks (only : program.Only Looking) : program.Only Writing := by
  apply only.mono
  intro op within
  simp only [Call.Within, List.contains_cons, List.contains_nil, Bool.or_false] at within ⊢
  rw [within, Bool.true_or]

theorem starts_of_looks (only : program.Only Looking) : program.Only Starting := by
  apply only.mono
  intro op within
  simp only [Call.Within, List.contains_cons, List.contains_nil, Bool.or_false] at within ⊢
  rw [within, Bool.true_or]

end Within

theorem pathExists_looks (path : FileName) : (pathExists path).Only Looking :=
  looks_ask (.file (.pathExists path)) rfl

theorem metadataLen_looks (path : FileName) : (metadataLen path).Only Looking :=
  looks_ask (.file (.metadata path)) rfl

theorem canonical_looks (path : FileName) : (canonical path).Only Looking :=
  Program.Only.bind (looks_ask (.file (.canonicalize path)) rfl)
    fun _ => trivial

theorem hasContents_looks (path : FileName) : (hasContents path).Only Looking := by
  apply Program.Only.bind (metadataLen_looks path)
  intro length
  cases length with
  | ok length => trivial
  | error error => trivial

theorem usableBackup_looks : usableBackup.Only Looking := by
  apply Program.Only.bind (looks_ask (.file (.isFile .backup)) rfl)
  intro regular
  cases regular with
  | true => exact hasContents_looks .backup
  | false => trivial

theorem aliasesInstalled_looks : aliasesInstalled.Only Looking := by
  apply Program.Only.bind (canonical_looks .replacement)
  intro source
  by_cases found : source.isSome = true
  · rw [if_pos found]
    apply Program.Only.bind (canonical_looks .current)
    intro installed
    by_cases same : source = installed
    · rw [if_pos same]
      trivial
    · rw [if_neg same]
      exact Program.Only.bind (canonical_looks .backup) fun _ => trivial
  · rw [if_neg found]
    trivial

theorem interrupted_looks : interrupted.Only Looking := by
  apply Program.Only.bind (pathExists_looks .current)
  intro installed
  by_cases found : installed = true
  · rw [if_pos found]
    trivial
  · rw [if_neg found]
    exact pathExists_looks .backup

theorem sha256File_looks (host : Host) (path : FileName) :
    (sha256File host path).run.Only Looking := by
  have reads : (Fallible.attempt (fileCall (.read path))).run.Only Looking :=
    looks_ask (.file (.read path)) rfl
  exact only_try reads fun _ => trivial

theorem pollExit_looks : pollExit.run.Only Looking := by
  apply only_try (only_always (looks_ask .tryWait rfl))
  intro status
  cases status with
  | ok running =>
      cases running with
      | none => trivial
      | some status => trivial
  | error error =>
      apply only_try (only_always (looks_ask .kill rfl))
      intro _
      apply only_try (only_always (looks_ask .waitChild rfl))
      intro _
      trivial

theorem pollReady_looks (child : UInt32) (stamp : Nat) (acknowledged : Option Nanos) :
    (pollReady child stamp acknowledged).Only Looking := by
  have looks : (ask .now).Only Looking := looks_ask .now rfl
  apply Program.Only.bind (looks_ask (.readReady stamp) rfl)
  intro content
  by_cases acknowledges : content = some (toString child)
  · rw [if_pos acknowledges]
    cases acknowledged with
    | none => exact looks.bind fun _ => looks.bind fun _ => trivial
    | some first => exact looks.bind fun _ => trivial
  · rw [if_neg acknowledges]
    trivial

theorem pollChild_looks (child : UInt32) (stamp : Nat) (acknowledged : Option Nanos) :
    (pollChild child stamp acknowledged).run.Only Looking :=
  only_try pollExit_looks fun _ => only_always (pollReady_looks child stamp acknowledged)

theorem giveUpOnChild_looks : giveUpOnChild.run.Only Looking := by
  apply only_try (only_always (looks_ask .kill rfl))
  intro _
  apply only_try (only_always (looks_ask .waitChild rfl))
  intro _
  trivial

theorem awaitReady_looks (child : UInt32) (stamp : Nat) (deadline : Nanos) (polls : Nat)
    (acknowledged : Option Nanos) :
    (awaitReady child stamp deadline polls acknowledged).run.Only Looking := by
  induction polls generalizing acknowledged with
  | zero =>
      apply only_try (pollChild_looks child stamp acknowledged)
      intro poll
      cases poll.ready with
      | true => trivial
      | false => exact giveUpOnChild_looks
  | succ polls ih =>
      apply only_try (pollChild_looks child stamp acknowledged)
      intro poll
      cases poll.ready with
      | true => trivial
      | false =>
          apply only_try (only_always (looks_ask .now rfl))
          intro time
          by_cases late : deadline ≤ time
          · rw [if_pos late]
            exact giveUpOnChild_looks
          · rw [if_neg late]
            apply only_try (only_always
              (looks_ask (.sleep (milliseconds 20)) rfl))
            intro _
            exact ih poll.acknowledged

theorem launchAcknowledged_starts (host : Host) (args : List String) (stamp : Nat)
    (timeout : Nanos) : (launchAcknowledged host args stamp timeout).run.Only Starting := by
  have spawns : (Fallible.attempt (ask (.spawn args (some stamp)))).run.Only Starting :=
    starts_ask (.spawn args (some stamp)) rfl
  apply only_try spawns
  intro child
  apply only_try (only_always (starts_ask .now rfl))
  intro start
  exact starts_of_looks (awaitReady_looks child stamp (start + timeout) host.polls none)

theorem launchVerified_starts (host : Host) (args : List String) (timeout : Option Nanos) :
    (launchVerified host args timeout).run.Only Starting := by
  cases timeout with
  | none =>
      have spawns : (Fallible.attempt (ask (.spawn args none))).run.Only Starting :=
        starts_ask (.spawn args none) rfl
      exact only_try spawns fun _ => trivial
  | some timeout =>
      have looks : (Fallible.attempt (ask .systemTime)).run.Only Starting :=
        starts_ask .systemTime rfl
      apply only_try looks
      intro stamp
      have creates : (Fallible.attempt (ask (.createReadyDir stamp))).run.Only Starting :=
        starts_ask (.createReadyDir stamp) rfl
      apply only_try creates
      intro _
      apply only_afterwards (launchAcknowledged_starts host args stamp timeout)
      exact Program.Only.bind (starts_ask (.removeReady stamp) rfl)
        fun _ => starts_ask (.removeReadyDir stamp) rfl

theorem waitForProcessExit_looks (pid : UInt32) (timeout : Nanos) :
    (waitForProcessExit pid timeout).run.Only Looking := by
  unfold waitForProcessExit
  by_cases none : pid = 0
  · rw [if_pos none]
    trivial
  · rw [if_neg none]
    apply only_try (only_always (looks_ask (.openProcess pid) rfl))
    intro opened
    by_cases running : opened = true
    · rw [if_pos running]
      apply only_try (only_always (looks_ask (.waitForSingleObject _) rfl))
      intro result
      apply only_try (only_always (looks_ask .closeHandle rfl))
      intro _
      exact only_require
    · rw [if_neg running]
      trivial

theorem checkPaths_looks : checkPaths.run.Only Looking := by
  apply only_try (only_always (pathExists_looks .current))
  intro installed
  apply only_try only_require
  intro _
  apply only_try (only_always (pathExists_looks .replacement))
  intro found
  exact only_require

theorem checkReplacement_looks : checkReplacement.run.Only Looking := by
  apply only_try (only_always aliasesInstalled_looks)
  intro aliased
  apply only_try only_require
  intro _
  have looks : (Fallible.attempt (metadataLen .replacement)).run.Only Looking :=
    metadataLen_looks .replacement
  apply only_try (only_mapError looks)
  intro length
  exact only_require

theorem removeQuietly_writes (path : FileName) : (removeQuietly path).Only Writing :=
  (writes_file (.removeFile path) rfl).bind fun _ => trivial

theorem syncedCopy_writes (source : FileName) : (syncedCopy source).run.Only Writing := by
  have opens : (attempt (fileCall (.openRead source))).run.Only Writing :=
    writes_file (.openRead source) rfl
  apply only_try opens
  intro _
  apply only_try (only_mapError (writes_ask .systemTime rfl))
  intro stamp
  apply only_try (only_always (writes_ask .fetchSequence rfl))
  intro sequence
  have creates : (attempt (fileCall (.createNew (.temporary stamp sequence)))).run.Only Writing :=
    writes_file (.createNew (.temporary stamp sequence)) rfl
  apply only_try creates
  intro _
  have fills : (fillCopy source (.temporary stamp sequence)).run.Only Writing := by
    have copies : (attempt (fileCall (.copy source (.temporary stamp sequence)))).run.Only
        Writing :=
      writes_file (.copy source (.temporary stamp sequence)) rfl
    apply only_try copies
    intro _
    exact writes_file (.syncAll (.temporary stamp sequence)) rfl
  exact only_try (only_onError fills (removeQuietly_writes _)) fun _ => trivial

theorem retryRename_writes (source destination : FileName) (deadline : Nanos) (retries : Nat) :
    (retryRename source destination deadline retries).run.Only Writing := by
  induction retries with
  | zero => exact writes_file (.rename source destination) rfl
  | succ retries ih =>
      apply Program.Only.bind (writes_file (.rename source destination) rfl)
      intro result
      cases result with
      | ok _ => trivial
      | error error =>
          dsimp only
          by_cases lingers : transient error = true
          · rw [if_pos lingers]
            apply (writes_ask .now rfl).bind
            intro time
            by_cases early : time < deadline
            · rw [if_pos early]
              exact ⟨rfl, fun _ => ih⟩
            · rw [if_neg early]
              trivial
          · rw [if_neg lingers]
            trivial

theorem replaceFile_writes (host : Host) (source destination : FileName) :
    (replaceFile host source destination).run.Only Writing :=
  only_try (only_always (writes_ask .now rfl)) fun start =>
    retryRename_writes source destination (start + milliseconds 2000) host.retries

theorem restorePreviousVersion_writes (host : Host) :
    (restorePreviousVersion host).run.Only Writing := by
  apply only_try (only_always (writes_of_looks usableBackup_looks))
  intro usable
  apply only_try only_require
  intro _
  apply only_try (only_mapError (syncedCopy_writes .backup))
  intro copy
  exact only_afterwards (only_mapError (replaceFile_writes host copy .current))
    (removeQuietly_writes copy)

theorem recoverInterruptedSwap_writes (host : Host) :
    (recoverInterruptedSwap host).run.Only Writing := by
  apply only_try (only_always (writes_of_looks interrupted_looks))
  intro recover
  cases recover with
  | false => trivial
  | true =>
      have moves : (attempt (rename .backup .current)).run.Only Writing :=
        writes_file (.rename .backup .current) rfl
      exact only_try (only_mapError moves) fun _ => trivial

theorem verifyStaged_writes (host : Host) (expected : Option String) :
    (verifyStaged host expected).run.Only Writing := by
  cases expected with
  | none => trivial
  | some digest =>
      apply only_try (only_mapError (writes_of_looks (sha256File_looks host .replacement)))
      intro actual
      split
      · trivial
      · exact only_try (only_always (removeQuietly_writes .replacement)) fun _ => trivial

theorem verifyCopy_writes (host : Host) (copy : FileName) (expected : Option String) :
    (verifyCopy host copy expected).run.Only Writing := by
  cases expected with
  | none => trivial
  | some digest =>
      apply only_try (only_mapError (writes_of_looks (sha256File_looks host copy)))
      intro actual
      exact only_require

theorem prepare_writes (host : Host) (expected : Option String) :
    (PreparedInstall.prepare host expected).run.Only Writing := by
  apply only_try (only_always (writes_of_looks (canonical_looks .current)))
  intro installed
  apply only_try (only_always (writes_of_looks (canonical_looks .replacement)))
  intro staged
  apply only_try only_require
  intro _
  apply only_try (only_always (writes_of_looks (hasContents_looks .replacement)))
  intro filled
  apply only_try only_require
  intro _
  apply only_try (only_mapError (syncedCopy_writes .replacement))
  intro copy
  apply only_try (only_onError (verifyCopy_writes host copy expected)
    (removeQuietly_writes copy))
  intro _
  apply only_try (only_onError (only_mapError (syncedCopy_writes .current))
    (removeQuietly_writes copy))
  intro original
  trivial

theorem commit_writes (host : Host) (prepared : PreparedInstall) :
    (prepared.commit host).run.Only Writing := by
  apply only_afterwards
  · apply only_try (only_mapError (replaceFile_writes host prepared.backup .backup))
    intro _
    exact only_mapError (replaceFile_writes host prepared.replacement .current)
  · exact (removeQuietly_writes prepared.replacement).bind fun _ =>
      removeQuietly_writes prepared.backup

end LayoutAdblock.Updater
