import LayoutAdblock.Updater.Main

namespace LayoutAdblock.Updater

open Interaction Interaction.Fallible Interaction.Environment

/-! # Never two instances

The app that hands over an update, the new version and the relaunched previous one
take turns: the helper starts none of them beside another.
-/

theorem discardReplacement_writes : discardReplacement.Only Writing := by
  apply (writes_file (.isFile .replacement) rfl).bind
  intro regular
  cases regular with
  | true => exact removeQuietly_writes .replacement
  | false => trivial

/-- Which apps run while the helper does. Two marks are kept for the proofs: that one was
started beside another, and that one was missed. -/
structure Instances where
  /-- The app that started the helper runs. -/
  parent : Bool
  /-- An app that the helper started runs. -/
  child : Bool := false
  /-- Ghost: an app was started beside one that ran. -/
  second : Bool := false
  /-- Ghost: an app that ran was taken for one that had ended, since it could not be opened or
  the wait for it failed. -/
  missed : Bool := false

/-- From this answer on the helper takes the app that started it for ended. -/
def Call.takesParent : (op : Call) → op.Answer → Bool
  | .openProcess _, opened => !opened
  | .waitForSingleObject _, result => decide (result ≠ .timeout)
  | _, _ => false

/-- From this call on the helper takes its child for ended. -/
def Call.takesChild : Call → Bool
  | .waitChild => true
  | _ => false

/-- The app that started the helper is signalled once it has ended. -/
def Call.Signalled : (op : Call) → op.Answer → Prop
  | .waitForSingleObject _, result => result = .object0
  | _, _ => False

/-- An exit status is that of a child that has ended. -/
def Call.Exited : (op : Call) → op.Answer → Prop
  | .tryWait, .ok (some _) => True
  | _, _ => False

/-- The call is the start of an app, whether or not it succeeds. -/
def Call.isSpawn : Call → Bool
  | .spawn _ _ => true
  | _ => false

/-- An app ends at any time, and only a spawn starts one.  The system says of no running app that
it has ended, but opening it, or waiting for it or for the child, can fail. -/
structure Instances.Step (op : Call) (before : Instances) (answer : op.Answer)
    (after : Instances) : Prop where
  parent : after.parent = true → before.parent = true
  child : after.child = true → before.child = true ∨ op.Starts answer
  signalled : op.Signalled answer → after.parent = false
  exited : op.Exited answer → after.child = false
  second : after.second = (before.second || op.isSpawn && (before.parent || before.child))
  missed : after.missed =
    (before.missed || op.takesParent answer && after.parent || op.takesChild && after.child)

/-- Windows, as far as apps start and end. What the helper finds out about them it is told
by these steps only. -/
def instances : Environment Call Call.Answer Instances where
  step op before answer after := Instances.Step op before answer after

section Steps

variable {op : Call} {answer : op.Answer} {before after : Instances}

theorem Instances.Step.sure (step : Instances.Step op before answer after)
    (sure : after.missed = false) : before.missed = false ∧
      (op.takesParent answer = true → after.parent = false) ∧
      (op.takesChild = true → after.child = false) := by
  have missed := step.missed.symm
  rw [sure, Bool.or_eq_false_iff, Bool.or_eq_false_iff, Bool.and_eq_false_imp,
    Bool.and_eq_false_imp] at missed
  exact ⟨missed.1.1, missed.1.2, missed.2⟩

theorem Instances.Step.childless (step : Instances.Step op before answer after)
    (spawnless : op.Spawnless) (childless : before.child = false) : after.child = false := by
  cases runs : after.child with
  | false => rfl
  | true =>
      rcases step.child runs with ran | starts
      · rw [childless] at ran
        cases ran
      · exact absurd starts (spawnless answer)

theorem Instances.Step.parted (step : Instances.Step op before answer after)
    (parted : before.parent = false) : after.parent = false := by
  cases parts : after.parent with
  | false => rfl
  | true => exact (step.parent parts).symm.trans parted

theorem Instances.Step.alone (step : Instances.Step op before answer after)
    (spawnless : op.Spawnless) (alone : before.second = false) : after.second = false := by
  have second := step.second
  cases op with
  | spawn args ready => exact absurd trivial (spawnless (.ok 0))
  | _ => simpa [alone, Call.isSpawn] using second

/-- Where no app was missed, the child is as the calls show it. -/
theorem Instances.Step.process (step : Instances.Step op before answer after)
    (sure : after.missed = false) : process.step op before.child answer after.child := by
  refine ⟨fun ends => ?_, step.child⟩
  cases op with
  | tryWait => exact step.exited (by
      match answer, ends with
      | .ok (some status), _ => trivial)
  | waitChild => exact (step.sure sure).2.2 rfl
  | _ => exact ends.elim

end Steps

/-- What is ensured of the child alone. -/
theorem ensures_child {α : Type} {program : HelperM α} {post : α → Bool → Prop}
    {before : Instances}
    (holds : before.missed = false → process.ensures program post before.child) :
    instances.ensures program (fun value after => after.missed = false → post value after.child)
      before := by
  induction program generalizing before with
  | done value => exact holds
  | call op next ih =>
      refine ⟨fun _ _ => trivial, fun answer after step => ⟨trivial, ?_⟩⟩
      have taken : Instances.Step op before answer after := step
      refine ih answer fun sure => ?_
      exact ((holds (taken.sure sure).1).2 answer after.child (taken.process sure)).2

/-- No app is left that ran when the helper started, and none was started beside it, unless one
was missed. -/
def Instances.Gone (now : Instances) : Prop :=
  now.missed = false → now.parent = false ∧ now.second = false

theorem gone_kept {α : Type} {program : HelperM α} {before : Instances}
    (only : program.Only Writing) (gone : before.Gone) :
    instances.ensures program (fun _ => Instances.Gone) before := by
  refine ensures_of_step Instances.Gone (spawnless_of_writes only) ?_ gone
  intro op now answer after spawnless gone step sure
  have taken : Instances.Step op now answer after := step
  obtain ⟨parted, alone⟩ := gone (taken.sure sure).1
  exact ⟨taken.parted parted, taken.alone spawnless alone⟩

def Instances.Clear (now : Instances) : Prop :=
  now.Gone ∧ (now.missed = false → now.child = false)

theorem clear_kept {α : Type} {program : HelperM α} {before : Instances}
    (only : program.Only Writing) (clear : before.Clear) :
    instances.ensures program (fun _ => Instances.Clear) before := by
  have childless : before.missed = false →
      process.ensures program (fun _ running => running = false) before.child := by
    intro sure
    rw [clear.2 sure]
    exact wp_weaken (wp_gone only) fun _ _ => trivial
  exact ensures_and (gone_kept only clear.1) (ensures_child childless)

/-- A program that can fail, and starts no process. -/
theorem clear_try {ε α : Type} {program : HelperE ε α} {before : Instances}
    (only : program.run.Only Writing) (clear : before.Clear) :
    instances.ensures program.run (outcome (fun _ => Instances.Clear) fun _ => Instances.Clear)
      before := by
  apply ensures_mono (clear_kept only clear)
  intro result after held
  cases result with
  | ok value => exact held
  | error error => exact held

theorem spawn_gone {args : List String} {ready : Option Nat} {before : Instances}
    (clear : before.Clear) :
    instances.ensures (ask (.spawn args ready)) (fun _ => Instances.Gone) before := by
  apply ensures_ask.mpr
  intro answer after step sure
  have taken : Instances.Step (.spawn args ready) before answer after := step
  have known := (taken.sure sure).1
  obtain ⟨parted, alone⟩ := clear.1 known
  have second := taken.second
  simp only [Call.isSpawn, parted, alone, clear.2 known, Bool.or_false, Bool.and_false] at second
  exact ⟨taken.parted parted, second⟩

theorem launchAcknowledged_gone {host : Host} {args : List String} {stamp : Nat} {timeout : Nanos}
    {before : Instances} (clear : before.Clear) :
    instances.ensures (launchAcknowledged host args stamp timeout).run (fun _ => Instances.Gone)
      before := by
  apply ensures_seq (spawn_gone clear)
  intro spawned after gone
  cases spawned with
  | error error => exact gone
  | ok child =>
      apply gone_kept _ gone
      have looks : (ask .now).Only Writing := writes_ask _ rfl
      exact only_try (only_always looks) fun start =>
        writes_of_looks (awaitReady_looks child stamp (start + timeout) host.polls none)

theorem launchVerified_gone {host : Host} {args : List String} {timeout : Option Nanos}
    {before : Instances} (clear : before.Clear) :
    instances.ensures (launchVerified host args timeout).run (fun _ => Instances.Gone) before := by
  cases timeout with
  | none =>
      apply ensures_seq (spawn_gone clear)
      intro spawned after gone
      cases spawned with
      | ok child => exact gone
      | error error => exact gone
  | some timeout =>
      have dates : (ask .systemTime).Only Writing := writes_ask _ rfl
      apply ensures_seq (clear_kept dates clear)
      intro dated after held
      cases dated with
      | error error => exact held.1
      | ok stamp =>
          have creates : (ask (.createReadyDir stamp)).Only Writing :=
            writes_ask _ rfl
          apply ensures_seq (clear_kept creates held)
          intro created later clear
          cases created with
          | error error => exact clear.1
          | ok value =>
              apply ensures_seq (launchAcknowledged_gone clear)
              intro result last gone
              apply gone_kept _ gone
              exact ⟨rfl, fun _ => writes_ask _ rfl⟩

theorem launchVerified_clear {host : Host} {args : List String} {timeout : Option Nanos}
    {before : Instances} (clear : before.Clear) :
    instances.ensures (launchVerified host args timeout).run
      (outcome (fun _ => Instances.Gone) fun _ => Instances.Clear) before := by
  have ends : before.missed = false → process.ensures (launchVerified host args timeout).run
      (outcome (fun _ _ => True) fun _ running => running = false) before.child := by
    intro sure
    rw [clear.2 sure]
    exact launchVerified_ends host args timeout
  apply ensures_mono (ensures_and (launchVerified_gone clear) (ensures_child ends))
  rintro result after ⟨gone, childless⟩
  cases result with
  | ok value => exact gone
  | error error => exact ⟨gone, childless⟩

theorem relaunchUpdated_clear {host : Host} {options : UpdateOptions} {before : Instances}
    (clear : before.Clear) :
    instances.ensures (relaunchUpdated host options).run
      (outcome (fun _ => Instances.Gone) fun _ => Instances.Clear) before := by
  rw [relaunchUpdated]
  split
  · apply ensures_seq (launchVerified_clear clear)
    intro launched after held
    cases launched with
    | ok value => exact held
    | error error =>
        have restores : (do
            restorePreviousVersion host
            throw (.relaunchFailed error) : HelperE HelperError Unit).run.Only Writing :=
          only_try (restorePreviousVersion_writes host) fun _ => trivial
        have rolledBack := clear_try restores held
        exact wp_outcome_mono rolledBack (fun _ _ clear => clear.1) fun _ _ clear => clear
  · exact clear.1

theorem installReplacement_clear {host : Host} {options : UpdateOptions} {before : Instances}
    (clear : before.Clear) :
    instances.ensures (installReplacement host options).run
      (outcome (fun _ => Instances.Gone) fun _ => Instances.Clear) before := by
  apply wp_try (clear_try (writes_of_looks checkPaths_looks) clear)
  intro _ _ clear
  apply wp_try (clear_try (writes_of_looks checkReplacement_looks) clear)
  intro _ _ clear
  apply wp_try (clear_try (verifyStaged_writes host options.expectedSha256) clear)
  intro _ _ clear
  apply wp_try (clear_try (prepare_writes host options.expectedSha256) clear)
  intro prepared _ clear
  apply wp_try (clear_try (commit_writes host prepared) clear)
  intro _ _ clear
  apply wp_try (clear_try (only_always (removeQuietly_writes .replacement)) clear)
  intro _ _ clear
  apply wp_try (relaunchUpdated_clear clear)
  intro _ _ gone
  exact wp_always (gone_kept (removeQuietly_writes .backup) gone)

/-- Nothing was started yet, and an app to wait for is named. -/
structure Instances.Fresh (pid : UInt32) (now : Instances) : Prop where
  named : pid = 0 → now.parent = false
  childless : now.child = false
  alone : now.second = false

/-- An error after which the previous version is not to be started, or no app runs, unless one was
missed. -/
def Instances.Failed (error : HelperError) (now : Instances) : Prop :=
  now.missed = false → now.second = false ∧ now.child = false ∧
    (shouldRelaunchPrevious error = true → now.parent = false)

theorem waitForProcessExit_clear {pid : UInt32} {timeout : Nanos} {before : Instances}
    (fresh : before.Fresh pid) :
    instances.ensures (waitForProcessExit pid timeout).run
      (outcome (fun _ => Instances.Clear) Instances.Failed) before := by
  unfold waitForProcessExit
  split
  · rename_i none
    exact ⟨fun _ => ⟨fresh.named none, fresh.alone⟩, fun _ => fresh.childless⟩
  · refine ⟨fun _ _ => trivial, fun opened after step => ⟨trivial, ?_⟩⟩
    have opening : Instances.Step (.openProcess pid) before opened after := step
    have childless := opening.childless (fun _ starts => starts) fresh.childless
    have alone := opening.alone (fun _ starts => starts) fresh.alone
    cases opened with
    | false => exact ⟨fun sure => ⟨(opening.sure sure).2.1 rfl, alone⟩, fun _ => childless⟩
    | true =>
        refine ⟨fun _ _ => trivial, fun result waited step => ⟨trivial, ?_⟩⟩
        have waiting : Instances.Step (.waitForSingleObject _) after result waited := step
        have childless := waiting.childless (fun _ starts => starts) childless
        have alone := waiting.alone (fun _ starts => starts) alone
        refine ⟨fun _ _ => trivial, fun _ closed step => ⟨trivial, ?_⟩⟩
        have closing : Instances.Step .closeHandle waited _ closed := step
        have childless := closing.childless (fun _ starts => starts) childless
        have alone := closing.alone (fun _ starts => starts) alone
        cases result with
        | timeout => exact fun _ => ⟨alone, childless, nofun⟩
        | object0 | other =>
            refine ⟨fun sure => ⟨closing.parted ?_, alone⟩, fun _ => childless⟩
            exact (waiting.sure (closing.sure sure).1).2.1 rfl

theorem updateExecutableWith_clear {host : Host} {pid : UInt32} {timeout : Nanos}
    {options : UpdateOptions} {before : Instances} (fresh : before.Fresh pid) :
    instances.ensures (updateExecutableWith host pid timeout options).run
      (outcome (fun _ => Instances.Gone) Instances.Failed) before := by
  have failed : ∀ (error : HelperError) (now : Instances), now.Clear → now.Failed error :=
    fun _ _ clear sure => ⟨(clear.1 sure).2, clear.2 sure, fun _ => (clear.1 sure).1⟩
  apply wp_try (waitForProcessExit_clear fresh)
  intro _ _ clear
  apply wp_try (wp_outcome_mono (clear_try (recoverInterruptedSwap_writes host) clear)
    (fun _ _ clear => clear) fun error now clear => failed error now clear)
  intro _ _ clear
  exact wp_outcome_mono (installReplacement_clear clear) (fun _ _ gone => gone) failed

theorem relaunchPrevious_gone {args : List String} {before : Instances} (clear : before.Clear) :
    instances.ensures (relaunchPrevious args) (fun _ => Instances.Gone) before := by
  apply ensures_seq (clear_kept (writes_file (.isFile .current) rfl) clear)
  intro regular after held
  cases regular with
  | false => exact held.1
  | true =>
      apply ensures_seq (spawn_gone held)
      intro spawned last gone
      cases spawned with
      | ok child => exact gone
      | error error => exact gone

/-- The helper has started no app beside another, unless one was missed. -/
def Instances.Apart (now : Instances) : Prop :=
  now.missed = false → now.second = false ∧ (now.child = true → now.parent = false)

theorem Instances.Gone.apart {now : Instances} (gone : now.Gone) : now.Apart :=
  fun sure => ⟨(gone sure).2, fun _ => (gone sure).1⟩

theorem Instances.Failed.apart {error : HelperError} {now : Instances} (failed : now.Failed error) :
    now.Apart := by
  intro sure
  obtain ⟨alone, childless, _⟩ := failed sure
  refine ⟨alone, fun runs => ?_⟩
  rw [childless] at runs
  cases runs

/-- An app that timed out is left alone. -/
theorem failed_kept {α : Type} {program : HelperM α} {error : HelperError} {before : Instances}
    (only : program.Only Writing) (failed : before.Failed error) :
    instances.ensures program (fun _ => Instances.Failed error) before := by
  refine ensures_of_step (Instances.Failed error) (spawnless_of_writes only) ?_ failed
  intro op now answer after spawnless failed step sure
  have taken : Instances.Step op now answer after := step
  obtain ⟨alone, childless, parted⟩ := failed (taken.sure sure).1
  exact ⟨taken.alone spawnless alone, taken.childless spawnless childless,
    fun restarts => taken.parted (parted restarts)⟩

theorem discardSeparate_writes : discardSeparate.Only Writing := by
  apply (writes_of_looks separateDownload_looks).bind
  intro separate
  split
  · exact discardReplacement_writes
  · trivial

theorem restartPrevious_apart {cli : Cli} {error : HelperError} {before : Instances}
    (failed : before.Failed error) :
    instances.ensures (restartPrevious cli error) (fun _ => Instances.Apart) before := by
  unfold restartPrevious
  split
  · rename_i restarts
    rw [Bool.and_eq_true] at restarts
    have clear : before.Clear :=
      ⟨fun sure => ⟨(failed sure).2.2 restarts.2, (failed sure).1⟩, fun sure => (failed sure).2.1⟩
    exact ensures_mono (relaunchPrevious_gone clear) fun _ _ gone => gone.apart
  · exact failed.apart

theorem cleanUpUpdate_apart {host : Host} {cli : Cli} {error : HelperError} {before : Instances}
    (failed : before.Failed error) :
    instances.ensures (cleanUpUpdate host cli error) (fun _ => Instances.Apart) before := by
  apply ensures_seq (failed_kept discardSeparate_writes failed)
  intro _ discarded failed
  apply ensures_seq (restartPrevious_apart failed)
  intro relaunched last apart
  exact apart

theorem helperMain_apart {host : Host} {cli : Cli} {before : Instances}
    (fresh : before.Fresh cli.pid) :
    instances.ensures (helperMain host cli) (fun _ => Instances.Apart) before := by
  unfold helperMain
  split
  · refine fun _ => ⟨fresh.alone, fun runs => ?_⟩
    rw [fresh.childless] at runs
    cases runs
  · split
    · have recovers : instances.ensures (do
          waitForProcessExit cli.pid (timeoutOf cli)
          restorePreviousVersion host : HelperE HelperError Unit).run
          (outcome (fun _ => Instances.Clear) fun _ => Instances.Apart) before := by
        apply wp_try (wp_outcome_mono (waitForProcessExit_clear fresh) (fun _ _ clear => clear)
          fun _ _ failed => failed.apart)
        intro _ _ clear
        exact wp_outcome_mono (clear_try (restorePreviousVersion_writes host) clear)
          (fun _ _ clear => clear) fun _ _ clear => clear.1.apart
      apply ensures_seq recovers
      intro result after held
      cases result with
      | error error => exact held
      | ok value =>
          change instances.ensures (if cli.noRelaunch then _ else _) _ _
          split
          · exact held.1.apart
          · apply ensures_seq (relaunchPrevious_gone held)
            intro relaunched last gone
            cases relaunched with
            | true => exact gone.apart
            | false => exact gone.apart
    · apply ensures_seq (updateExecutableWith_clear fresh)
      intro result after held
      cases result with
      | ok value => exact held.apart
      | error error => exact cleanUpUpdate_apart held

/-- However the calls of the helper end, in an update or a recovery: it starts no app while the
one that called it, or one that it started before, still runs, unless it took that one for ended
when it could not be opened or the wait for it failed. -/
theorem no_second_instance {host : Host} {cli : Cli} {start finish : Instances} {ended : Ended}
    (fresh : start.Fresh cli.pid)
    (ran : instances.Runs (helperMain host cli) start ended finish) (sure : finish.missed = false) :
    finish.second = false ∧ (finish.child = true → finish.parent = false) := by
  have apart := ensures_runs (helperMain_apart fresh) ran
  exact apart sure

/-- The app exits while the helper waits for it, and every other call succeeds. -/
def takingTurns (opens : Bool) : (op : Call) → Instances → op.Answer × Instances
  | .openProcess _, now => (opens, { now with missed := now.missed || !opens && now.parent })
  | .waitForSingleObject _, now => (.object0, { now with parent := false })
  | .file (.canonicalize path), now => (.ok (if path = .replacement then "new" else "old"), now)
  | .spawn _ _, now =>
      (.ok 7, { now with child := true, second := now.second || (now.parent || now.child) })
  | .waitChild, now => ((), { now with child := false })
  | op, now => (obliging none op, now)

theorem takingTurns_realizes (opens : Bool) (op : Call) (now : Instances) :
    instances.step op now (takingTurns opens op now).1 (takingTurns opens op now).2 := by
  have same : ∀ other : Bool, other = (other || false) := fun other => (Bool.or_false other).symm
  cases op with
  | spawn args ready =>
      exact { parent := id, child := fun _ => Or.inr trivial, signalled := nofun, exited := nofun,
              second := rfl, missed := by simp [takingTurns, Call.takesParent, Call.takesChild] }
  | openProcess pid =>
      exact { parent := id, child := Or.inl, signalled := nofun, exited := nofun,
              second := same _
              missed := by simp [takingTurns, Call.takesParent, Call.takesChild] }
  | waitForSingleObject ms =>
      exact { parent := nofun, child := Or.inl, signalled := fun _ => rfl, exited := nofun,
              second := same _
              missed := by simp [takingTurns, Call.takesChild] }
  | waitChild =>
      exact { parent := id, child := nofun, signalled := nofun, exited := nofun,
              second := same _
              missed := by simp [takingTurns, Call.takesParent] }
  | file call =>
      cases call <;>
        exact { parent := id, child := Or.inl, signalled := nofun, exited := nofun,
                second := same _
                missed := by simp [takingTurns, Call.takesParent, Call.takesChild] }
  | _ =>
      exact { parent := id, child := Or.inl, signalled := nofun, exited := nofun,
              second := same _
              missed := by simp [takingTurns, Call.takesParent, Call.takesChild] }

/-- The command line of an update that an app has handed over. -/
def handedOver : Cli := { pid := 7, sha256 := some "" }

/-- The whole run, where the app can be opened or not. -/
def takenTurns (opens : Bool) : Ended × Instances :=
  (helperMain patientHost handedOver).exec (takingTurns opens) { parent := true }

theorem rolledBack_alone :
    (takenTurns true).1.code = 1 ∧ (takenTurns true).2.child = true ∧
      (takenTurns true).2.second = false := by
  have ran := runs_exec (takingTurns_realizes true) (helperMain patientHost handedOver)
    { parent := true }
  have fresh : ({ parent := true } : Instances).Fresh handedOver.pid :=
    ⟨fun none => absurd none (by decide), rfl, rfl⟩
  exact ⟨rfl, rfl, (no_second_instance fresh ran rfl).1⟩

/-- An app that cannot be opened is taken for ended, and the new one is started beside it. -/
example : (takenTurns false).2.missed = true ∧ (takenTurns false).2.second = true := ⟨rfl, rfl⟩

end LayoutAdblock.Updater
