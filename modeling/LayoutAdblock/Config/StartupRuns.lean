import LayoutAdblock.Config.Serial
import LayoutAdblock.Config.Startup

namespace LayoutAdblock.Config

open Data Interaction Environment

/-! # Toggles that fail

A toggle that succeeds leaves the registry and the settings in agreement.  One
that fails takes the change back from the text of the command alone, and so the
entry comes back as it was only under a condition.
-/

namespace Registry

/-- The `Run` value. -/
def command (registry : Registry) : Option RunValue := registry.run.join

/-- Windows starts an entry unless its approval says otherwise. A program without an
approval is started. -/
def enabled (registry : Registry) : Bool :=
  startupApprovedIsEnabled (registry.approved.join.getD [])

theorem enabled_of_join {registry : Registry} (missing : registry.approved.join = none) :
    registry.enabled = true := by
  simp [enabled, missing, startupApprovedIsEnabled]

/-- The command has no part in it. -/
theorem enabled_congr {first second : Registry} (same : first.approved = second.approved) :
    first.enabled = second.enabled := by
  rw [enabled, enabled, same]

end Registry

/-- The blob that enables the entry does. -/
theorem enableBlob_enabled : startupApprovedIsEnabled startupApprovedEnableBlob = true := by
  decide

variable {granted : WriteGrants} {registry : Registry} {command : String} {next : Bool}

theorem setStartupApprovedEnabled_run :
    (setStartupApprovedEnabled granted registry).1.run = registry.run := by
  simp only [setStartupApprovedEnabled, regCreateKey, regSetValue]
  split <;> split <;> rfl

theorem setStartupApprovedEnabled_done :
    (setStartupApprovedEnabled granted registry).2 =
      (granted.openApproved && granted.writeApproved) := by
  cases opened : granted.openApproved <;> cases written : granted.writeApproved <;>
    simp [setStartupApprovedEnabled, regCreateKey, regSetValue, opened, written]

theorem setStartupApprovedEnabled_enabled :
    (setStartupApprovedEnabled granted registry).1.enabled =
      (granted.openApproved && granted.writeApproved || registry.enabled) := by
  cases opened : granted.openApproved <;> cases written : granted.writeApproved <;>
    simp [setStartupApprovedEnabled, regCreateKey, regSetValue, opened, written, Registry.enabled,
      enableBlob_enabled]

theorem deleteStartupApproved_run :
    (deleteStartupApproved granted registry).1.run = registry.run := by
  simp only [deleteStartupApproved]
  split <;> rfl

theorem deleteStartupApproved_done :
    (deleteStartupApproved granted registry).2 =
      (!granted.openApproved || registry.approved.isNone || granted.writeApproved) := by
  obtain ⟨run, approved⟩ := registry
  cases opened : granted.openApproved <;> cases written : granted.writeApproved <;>
    rcases approved with _ | _ | data <;>
    simp [deleteStartupApproved, regOpenKey, regDeleteValue, opened, written]

theorem deleteStartupApproved_enabled :
    (deleteStartupApproved granted registry).1.enabled =
      (granted.openApproved && granted.writeApproved || registry.enabled) := by
  obtain ⟨run, approved⟩ := registry
  cases opened : granted.openApproved <;> cases written : granted.writeApproved <;>
    rcases approved with _ | _ | data <;>
    simp [deleteStartupApproved, regOpenKey, regDeleteValue, opened, written, Registry.enabled,
      startupApprovedIsEnabled]

theorem setRunCommand_done : (setRunCommand granted command registry).2 =
    (granted.openRun && granted.writeRun && granted.openApproved && granted.writeApproved) := by
  cases opened : granted.openRun <;> cases written : granted.writeRun <;>
    simp [setRunCommand, regCreateKey, regSetValue, opened, written,
      setStartupApprovedEnabled_done]

theorem setRunCommand_run (done : (setRunCommand granted command registry).2 = true) :
    (setRunCommand granted command registry).1.run = some (some (commandValue command)) := by
  simp only [setRunCommand_done, Bool.and_eq_true] at done
  obtain ⟨⟨⟨opened, written⟩, _⟩, _⟩ := done
  simp [setRunCommand, regCreateKey, regSetValue, opened, written, setStartupApprovedEnabled_run]

theorem setRunCommand_enabled : (setRunCommand granted command registry).1.enabled =
    (granted.openRun && granted.writeRun && granted.openApproved && granted.writeApproved ||
      registry.enabled) := by
  have same : ∀ run, Registry.enabled ⟨run, registry.approved⟩ = registry.enabled :=
    fun _ => Registry.enabled_congr rfl
  cases opened : granted.openRun <;> cases written : granted.writeRun <;>
    simp [setRunCommand, regCreateKey, regSetValue, opened, written,
      setStartupApprovedEnabled_enabled, same]

theorem deleteRunCommand_done : (deleteRunCommand granted registry).2 =
    (granted.openRun && (registry.run.isNone || granted.writeRun) &&
      (!granted.openApproved || registry.approved.isNone || granted.writeApproved)) := by
  obtain ⟨run, approved⟩ := registry
  cases opened : granted.openRun <;> cases written : granted.writeRun <;>
    rcases run with _ | _ | data <;>
    simp [deleteRunCommand, regOpenKey, regDeleteValue, opened, written,
      deleteStartupApproved_done]

theorem deleteRunCommand_run (done : (deleteRunCommand granted registry).2 = true) :
    (deleteRunCommand granted registry).1.run.join = none := by
  obtain ⟨run, approved⟩ := registry
  simp only [deleteRunCommand_done, Bool.and_eq_true, Bool.or_eq_true] at done
  obtain ⟨⟨opened, deleted⟩, _⟩ := done
  rcases run with _ | _ | data
  · simp [deleteRunCommand, regOpenKey, opened, deleteStartupApproved_run]
  · cases written : granted.writeRun <;>
      simp [deleteRunCommand, regOpenKey, regDeleteValue, opened, written,
        deleteStartupApproved_run]
  · have written : granted.writeRun = true := by simpa using deleted
    simp [deleteRunCommand, regOpenKey, regDeleteValue, opened, written, deleteStartupApproved_run]

theorem deleteRunCommand_enabled : (deleteRunCommand granted registry).1.enabled =
    (granted.openRun && granted.openApproved && granted.writeApproved || registry.enabled) := by
  have same : ∀ run, Registry.enabled ⟨run, registry.approved⟩ = registry.enabled :=
    fun _ => Registry.enabled_congr rfl
  obtain ⟨run, approved⟩ := registry
  cases opened : granted.openRun <;> cases written : granted.writeRun <;>
    rcases run with _ | _ | data <;>
    simp [deleteRunCommand, regOpenKey, regDeleteValue, opened, written,
      deleteStartupApproved_enabled, same]

/-- A deletion that reports success leaves an entry that counts as enabled, unless
it did not get to the approval. -/
theorem deleteRunCommand_approval (done : (deleteRunCommand granted registry).2 = true) :
    (deleteRunCommand granted registry).1.enabled = (granted.openApproved || registry.enabled) := by
  rw [deleteRunCommand_enabled]
  simp only [deleteRunCommand_done, Bool.and_eq_true, Bool.or_eq_true, Bool.not_eq_true'] at done
  obtain ⟨⟨opened, _⟩, reached⟩ := done
  rcases reached with (shut | missing) | written
  · simp [shut]
  · have enabled : registry.enabled = true :=
      Registry.enabled_of_join (by simp [Option.isNone_iff_eq_none.mp missing])
    simp [enabled]
  · simp [opened, written]

namespace WriteGrants

def approves (granted : WriteGrants) (next : Bool) : Bool :=
  granted.openRun && (!next || granted.writeRun) && granted.openApproved && granted.writeApproved

/-- The change succeeds: what is missing need not be deleted, and an approval key
that does not open counts as missing. -/
def changes (granted : WriteGrants) (next : Bool) (registry : Registry) : Bool :=
  if next then
    granted.openRun && granted.writeRun && granted.openApproved && granted.writeApproved
  else
    granted.openRun && (registry.run.isNone || granted.writeRun) &&
      (!granted.openApproved || registry.approved.isNone || granted.writeApproved)

end WriteGrants

theorem setEnabled_done :
    (setEnabled granted command next registry).2 = granted.changes next registry := by
  cases next with
  | true => exact setRunCommand_done
  | false => exact deleteRunCommand_done

theorem setEnabled_enabled : (setEnabled granted command next registry).1.enabled =
    (granted.approves next || registry.enabled) := by
  cases next with
  | true =>
      refine setRunCommand_enabled.trans ?_
      simp [WriteGrants.approves]
  | false =>
      refine deleteRunCommand_enabled.trans ?_
      simp [WriteGrants.approves]

/-- A change that succeeds leaves a command exactly when it enables the entry. -/
theorem setEnabled_command (done : (setEnabled granted command next registry).2 = true) :
    (setEnabled granted command next registry).1.command.isSome = next := by
  cases next with
  | true =>
      have run : (setEnabled granted command true registry).1.run =
        some (some (commandValue command)) := setRunCommand_run done
      simp [Registry.command, run]
  | false =>
      have run : (setEnabled granted command false registry).1.run.join = none :=
        deleteRunCommand_run done
      simp [Registry.command, run]

/-- Every step of reading the command is allowed. -/
def ReadGrants.all (granted : ReadGrants) : Bool :=
  granted.openRun && granted.querySize && granted.queryData

/-- A command that cannot be read looks like one that is missing. -/
theorem getRunCommand_eq (granted : ReadGrants) (registry : Registry) :
    getRunCommand granted registry =
      if granted.all then registry.command.map RunValue.command else none := by
  obtain ⟨run, approved⟩ := registry
  cases opened : granted.openRun <;> cases sized : granted.querySize <;>
    cases read : granted.queryData <;> rcases run with _ | _ | data <;>
    simp [getRunCommand, regOpenKey, regQueryValue, ReadGrants.all, Registry.command, opened,
      sized, read]

theorem commandUnits_ne_zero (data : List UInt16) : ∀ unit ∈ commandUnits data, unit ≠ 0 := by
  intro unit member
  simpa using List.mem_takeWhile_imp member

/-- The text that is written is the text that is read back, when it has no zero. -/
theorem commandUnits_written {units : List UInt16} (nonzero : ∀ unit ∈ units, unit ≠ 0) :
    commandUnits (units ++ [0]) = units := by
  rw [commandUnits, List.takeWhile_append_of_pos (by simpa using nonzero)]
  simp

/-- A `REG_SZ` value with a well-formed text and one zero, at its end. -/
structure RunValue.Terminated (value : RunValue) : Prop where
  kind : value.kind = regSz
  data : ∃ units, WellFormed units ∧ (∀ unit ∈ units, unit ≠ 0) ∧
    value.data = unitBytes (units ++ [0])

/-- Writing back what was read from a value changes it unless it is a text with one
terminator. -/
theorem commandValue_command_iff {value : RunValue} :
    commandValue value.command = value ↔ value.Terminated := by
  obtain ⟨kind, data⟩ := value
  constructor
  · intro same
    obtain ⟨isText, written⟩ := RunValue.mk.inj same
    rw [RunValue.command, String.toList_ofList] at written
    exact ⟨isText.symm, _, ⟨_, rfl⟩,
      utf16_ne_zero (utf16Lossy_ne_zero (commandUnits_ne_zero _)), written.symm⟩
  · intro terminated
    obtain ⟨units, formed, nonzero, rfl⟩ : ∃ units, WellFormed units ∧ (∀ unit ∈ units, unit ≠ 0) ∧
      data = unitBytes (units ++ [0]) := terminated.data
    have isText : kind = regSz := terminated.kind
    rw [commandValue, RunValue.command, String.toList_ofList, byteUnits_unitBytes,
      commandUnits_written nonzero, wellFormed_iff.mp formed, isText]

/-- The condition under which a rollback that reports success has put the entry
back: a value was read and is a text with one terminator, and an entry that was
disabled has neither value nor an approval that anything got to. -/
structure Restorable (granted : ToggleGrants) (next : Bool) (registry : Registry) : Prop where
  readBack : ∀ value, registry.command = some value →
    granted.read.all = true ∧ value.Terminated
  approval : registry.enabled = true ∨ registry.command = none ∧
    granted.rollback.openApproved = false ∧ granted.change.approves next = false

section Restoring

variable {granted : ToggleGrants} {changed : Registry}

/-- A rollback that writes a command writes the text it was given, and enables it. -/
theorem restoreCommand_written
    (done : (restoreCommand granted.rollback (some command) changed).2 = true) :
    (restoreCommand granted.rollback (some command) changed).1.command =
        some (commandValue command) ∧
      (restoreCommand granted.rollback (some command) changed).1.enabled = true := by
  have written : (setRunCommand granted.rollback command changed).2 = true := done
  have enabled : (setRunCommand granted.rollback command changed).1.enabled = true := by
    rw [setRunCommand_enabled, ← setRunCommand_done, written, Bool.true_or]
  refine ⟨?_, enabled⟩
  rw [Registry.command, restoreCommand, setRunCommand_run written]
  rfl

theorem restoreCommand_deleted (done : (restoreCommand granted.rollback none changed).2 = true) :
    (restoreCommand granted.rollback none changed).1.command = none ∧
      (restoreCommand granted.rollback none changed).1.enabled =
        (granted.rollback.openApproved || changed.enabled) := by
  have run := deleteRunCommand_run done
  exact ⟨run, deleteRunCommand_approval done⟩

theorem restorable_iff_of_missing (missing : registry.command = none) :
    Restorable granted next registry ↔
      (granted.rollback.openApproved || (granted.change.approves next || registry.enabled)) =
        registry.enabled := by
  constructor
  · intro restorable
    cases restorable.approval with
    | inl was => simp [was]
    | inr untouched => simp [untouched.2.1, untouched.2.2]
  · intro same
    refine ⟨fun value found => (nomatch missing.symm.trans found), ?_⟩
    cases was : registry.enabled with
    | true => exact Or.inl rfl
    | false =>
        simp only [was, Bool.or_false, Bool.or_eq_false_iff] at same
        exact Or.inr ⟨missing, same⟩

theorem restorable_iff_of_read {value : RunValue} (found : registry.command = some value) :
    Restorable granted next registry ↔
      granted.read.all = true ∧ value.Terminated ∧ registry.enabled = true := by
  constructor
  · intro restorable
    obtain ⟨read, terminated⟩ := restorable.readBack value found
    refine ⟨read, terminated, ?_⟩
    cases restorable.approval with
    | inl was => exact was
    | inr none => exact nomatch found.symm.trans none.1
  · intro facts
    obtain ⟨read, terminated, was⟩ := facts
    refine ⟨fun other isOther => ⟨read, ?_⟩, Or.inl was⟩
    rw [← Option.some.inj (found.symm.trans isOther)]
    exact terminated

/-- What a rollback that reports success has put back. -/
theorem restorable_iff (registry : Registry)
    (approval : changed.enabled = (granted.change.approves next || registry.enabled))
    (done : (restoreCommand granted.rollback (getRunCommand granted.read registry) changed).2 =
      true) :
    ((restoreCommand granted.rollback (getRunCommand granted.read registry) changed).1.command =
        registry.command ∧
      (restoreCommand granted.rollback (getRunCommand granted.read registry) changed).1.enabled =
        registry.enabled) ↔ Restorable granted next registry := by
  rw [getRunCommand_eq] at done ⊢
  cases found : registry.command with
  | none =>
      rw [found] at done
      simp only [Option.map_none, ite_self] at done ⊢
      obtain ⟨deleted, enabled⟩ := restoreCommand_deleted done
      rw [deleted, enabled, approval, restorable_iff_of_missing found]
      exact and_iff_right rfl
  | some value =>
      rw [found] at done
      rw [restorable_iff_of_read found]
      cases read : granted.read.all with
      | false =>
          simp only [read, Bool.false_eq_true, if_false] at done ⊢
          obtain ⟨deleted, _⟩ := restoreCommand_deleted done
          simp [deleted]
      | true =>
          simp only [read, if_true, Option.map_some] at done ⊢
          obtain ⟨written, enabled⟩ := restoreCommand_written done
          rw [written, enabled, Option.some_inj, commandValue_command_iff, true_and]
          exact and_congr_right fun _ => eq_comm

end Restoring

/-- The error says that the rollback succeeded. -/
def ReportsRestored (error : String) : Prop := ∃ reason, error = toggleError reason true

/-- The last character of the error tells whether the rollback succeeded. -/
theorem reportsRestored_iff {reason : String} {restored : Bool} :
    ReportsRestored (toggleError reason restored) ↔ restored = true := by
  cases restored with
  | true => exact ⟨fun _ => rfl, fun _ => ⟨reason, rfl⟩⟩
  | false =>
      refine ⟨fun reports => ?_, fun impossible => nomatch impossible⟩
      obtain ⟨other, same⟩ := reports
      have last := congrArg (fun text => text.toList.getLast?) same
      simp [toggleError, String.toList_append, toString] at last

section Commit

variable {σ α : Type} {change rollback : σ → σ × Bool} {save : σ → σ × Except IoError α}
  {state : σ}

theorem commitToggle_ok {value : α}
    (succeeds : (commitToggle change save rollback state).2 = .ok value) :
    (change state).2 = true ∧
      save (change state).1 = ((commitToggle change save rollback state).1, .ok value) := by
  simp only [commitToggle] at succeeds ⊢
  cases committed : (change state).2 with
  | false => simp [committed] at succeeds
  | true =>
      simp only [committed, if_true] at succeeds ⊢
      cases result : (save (change state).1).2 with
      | error error => simp [result, Except.mapError] at succeeds
      | ok other =>
          simp only [result, Except.mapError, Except.ok.injEq] at succeeds ⊢
          rw [← succeeds, ← result]
          exact ⟨trivial, rfl⟩

theorem commitToggle_error {error : String}
    (fails : (commitToggle change save rollback state).2 = .error error) :
    ∃ saved, ((change state).2 = false ∧ saved = (change state).1 ∨
        (change state).2 = true ∧ ∃ reason, save (change state).1 = (saved, .error reason)) ∧
      (commitToggle change save rollback state).1 = (rollback saved).1 ∧
      ∃ reason, error = toggleError reason (rollback saved).2 := by
  simp only [commitToggle] at fails ⊢
  cases committed : (change state).2 with
  | false =>
      simp only [committed, Bool.false_eq_true, if_false, Except.error.injEq] at fails ⊢
      exact ⟨_, Or.inl ⟨trivial, rfl⟩, rfl, _, fails.symm⟩
  | true =>
      simp only [committed, if_true] at fails ⊢
      cases result : (save (change state).1).2 with
      | ok value => simp [result, Except.mapError] at fails
      | error reason =>
          simp only [result, Except.mapError, Except.error.injEq] at fails ⊢
          exact ⟨_, Or.inr ⟨trivial, reason, by rw [← result]⟩, rfl, _, fails.symm⟩

end Commit

section Toggle

variable {host : Host} {path : String} {fallback : AppSettings} {granted : ToggleGrants}
  {before : Startup} {run : UpdateRun host path fallback (withStartup next) before.store}

theorem toggleStartup_ok {settings : AppSettings}
    (succeeds : (toggleStartup granted command next before run).2 = .ok settings) :
    (setEnabled granted.change command next before.registry).2 = true ∧
      run.result = .ok settings ∧
      (toggleStartup granted command next before run).1 =
        ⟨(setEnabled granted.change command next before.registry).1, run.after⟩ := by
  obtain ⟨changed, saving⟩ := commitToggle_ok succeeds
  obtain ⟨ends, result⟩ := Prod.mk.inj saving
  exact ⟨changed, result, ends.symm⟩

/-- The store a toggle leaves is the one from before when the change failed, and
else what the update left. -/
theorem toggleStartup_error {error : String}
    (fails : (toggleStartup granted command next before run).2 = .error error)
    (reports : ReportsRestored error) :
    ∃ store, ((setEnabled granted.change command next before.registry).2 = false ∧
          store = before.store ∨
        (setEnabled granted.change command next before.registry).2 = true ∧
          store = run.after ∧ ∃ reason, run.result = .error reason) ∧
      (restoreCommand granted.rollback (getRunCommand granted.read before.registry)
        (setEnabled granted.change command next before.registry).1).2 = true ∧
      (toggleStartup granted command next before run).1 =
        ⟨(restoreCommand granted.rollback (getRunCommand granted.read before.registry)
          (setEnabled granted.change command next before.registry).1).1, store⟩ := by
  obtain ⟨saved, reached, restored, reason, rfl⟩ := commitToggle_error fails
  have done := reportsRestored_iff.mp reports
  cases reached with
  | inl failed =>
      obtain ⟨unchanged, rfl⟩ := failed
      exact ⟨before.store, Or.inl ⟨unchanged, rfl⟩, done, restored⟩
  | inr failed =>
      obtain ⟨changed, reason, saving⟩ := failed
      obtain ⟨ends, result⟩ := Prod.mk.inj saving
      subst ends
      exact ⟨run.after, Or.inr ⟨changed, rfl, reason, result⟩, done, restored⟩

end Toggle

/-- The `Run` value with its type, whether Windows takes the entry as enabled, and
the settings file are what they were. -/
structure Undone (path : String) (before after : Startup) : Prop where
  command : after.registry.command = before.registry.command
  enabled : after.registry.enabled = before.registry.enabled
  settings : after.store.files path = before.store.files path

variable {host : Host} {path : String} {fallback : AppSettings}

/-- A toggle that succeeds leaves a command exactly when the saved settings ask for
one.  One that fails and reports that it has restored the entry has undone the
toggle if and only if the entry was restorable and no defaults were put in the
place of other settings. -/
theorem startup_toggle_undone (granted : ToggleGrants) (command : String) (next : Bool)
    (before : Startup) (run : UpdateRun host path fallback (withStartup next) before.store) :
    (∀ settings, (toggleStartup granted command next before run).2 = .ok settings →
      ((toggleStartup granted command next before run).1.registry.command.isSome = true ↔
        settings.runOnStartup = true) ∧
      (toggleStartup granted command next before run).1.store.files path =
        some (encode (host.printSettings settings ++ "\n"))) ∧
    ∀ error, (toggleStartup granted command next before run).2 = .error error →
      ReportsRestored error →
      (Undone path before (toggleStartup granted command next before run).1 ↔
        Restorable granted next before.registry ∧
          (granted.change.changes next before.registry = true → ¬ run.Replaced ∨
            before.store.files path =
              some (encode (defaultText host settingsLabel ++ "\n")))) := by
  constructor
  · intro settings succeeds
    obtain ⟨changed, result, ends⟩ := toggleStartup_ok succeeds
    obtain ⟨⟨current, isChange⟩, file⟩ := run.saved result
    rw [ends]
    refine ⟨?_, file⟩
    rw [setEnabled_command changed, isChange]
    rfl
  · intro error fails reports
    obtain ⟨store, reached, done, ends⟩ := toggleStartup_error fails reports
    have changes : (setEnabled granted.change command next before.registry).2 =
      granted.change.changes next before.registry := setEnabled_done
    have settings : store.files path = before.store.files path ↔
        (granted.change.changes next before.registry = true → ¬ run.Replaced ∨
          before.store.files path =
            some (encode (defaultText host settingsLabel ++ "\n"))) := by
      rw [← changes]
      cases reached with
      | inl failed => simp [failed.1, failed.2]
      | inr failed =>
          obtain ⟨changed, rfl, reason, result⟩ := failed
          simp only [changed, true_implies]
          exact run.unchanged_iff result
    rw [ends, ← settings, ← restorable_iff before.registry setEnabled_enabled done]
    constructor
    · exact fun undone => ⟨⟨undone.command, undone.enabled⟩, undone.settings⟩
    · exact fun same => ⟨same.1.1, same.1.2, same.2⟩

-- Toggles of an entry with a command of the user's own.

/-- A command of the user's own making under the name of the program, with or without an
entry of the task manager. -/
def customEntry (approval : Option Bytes) : Registry where
  run := some (some (commandValue "custom.exe --custom"))
  approved := some approval

/-- The settings file is held by another process. -/
def refusal : IoError := { rawOsError := some 33, text := "locked" }

def refusedUpdate (host : Host) (path : String) (fallback : AppSettings)
    (change : AppSettings → AppSettings) (store : Store) :
    UpdateRun host path fallback change store where
  result := .error refusal
  after := store
  trace := []
  runs := by
    have refuses : (alone IoError directory.recorded).step .acquire ⟨store, []⟩ (some refusal)
      ⟨store, []⟩ := rfl
    exact Runs.call refuses Runs.done

theorem customEntry_terminated : (commandValue "custom.exe --custom").Terminated := by
  have letters : ("custom.exe --custom".toList.all fun letter => letter.toNat != 0) = true := by
    decide
  refine ⟨rfl, _, ⟨_, rfl⟩, utf16_ne_zero fun letter member => ?_, rfl⟩
  simpa using List.all_eq_true.mp letters letter member

/-- What is left of an entry that is switched off while the settings are locked. -/
def refusedToggle (approval : Option Bytes) : Startup × Except String AppSettings :=
  toggleStartup {} "app.exe" false ⟨customEntry approval, .unsynced defaultFiles⟩
    (refusedUpdate toggleHost "settings.json" {} (withStartup false) (.unsynced defaultFiles))

/-- An enabled entry comes back as it was, and one that is switched on stays. -/
theorem startup_toggle_undone_entry :
    (∃ run : UpdateRun toggleHost "settings.json" {} (withStartup true) (.unsynced defaultFiles),
      (toggleStartup {} "app.exe" true ⟨customEntry none, .unsynced defaultFiles⟩
        run).1.registry.command.isSome = true ∧
      (toggleStartup {} "app.exe" true ⟨customEntry none, .unsynced defaultFiles⟩
        run).1.store.files "settings.json" =
          some (encode (toggleHost.printSettings { runOnStartup := true } ++ "\n"))) ∧
    Undone "settings.json" ⟨customEntry none, .unsynced defaultFiles⟩ (refusedToggle none).1 := by
  constructor
  · have holds : (Store.unsynced defaultFiles).files "settings.json" =
        some (encode (toggleHost.printSettings {} ++ "\n")) := rfl
    obtain ⟨after, updates, _⟩ := update_saved_runs {} (withStartup true) toggleHost_trips.1 holds
      defaultFiles_unused
    obtain ⟨trace, recorded⟩ := (runs_of_answering updates).recorded []
    let run : UpdateRun toggleHost "settings.json" {} (withStartup true)
        (.unsynced defaultFiles) := ⟨_, after, trace, runs_critical recorded⟩
    have ends := (startup_toggle_undone {} "app.exe" true
      ⟨customEntry none, .unsynced defaultFiles⟩ run).1 _ rfl
    exact ⟨run, ends.1.mpr rfl, ends.2⟩
  · have restorable : Restorable {} false (customEntry none) := by
      refine ⟨fun value found => ⟨rfl, ?_⟩, Or.inl rfl⟩
      rw [← Option.some.inj found]
      exact customEntry_terminated
    have quiet : ¬ (refusedUpdate toggleHost "settings.json" {} (withStartup false)
        (.unsynced defaultFiles)).Replaced := by
      intro replaced
      obtain ⟨event, member, _⟩ := replaced
      exact List.not_mem_nil member
    refine ((startup_toggle_undone {} "app.exe" false ⟨customEntry none, .unsynced defaultFiles⟩
      (refusedUpdate _ _ _ _ _)).2 _ rfl ⟨_, rfl⟩).mpr ⟨restorable, fun _ => Or.inl quiet⟩

/-- An entry that the user has disabled comes back enabled. -/
theorem disabled_entry_enabled : ∃ error, (refusedToggle (some [3])).2 = .error error ∧
    ReportsRestored error ∧
    ¬ Undone "settings.json" ⟨customEntry (some [3]), .unsynced defaultFiles⟩
      (refusedToggle (some [3])).1 := by
  refine ⟨_, rfl, ⟨_, rfl⟩, fun undone => ?_⟩
  have enabled : (refusedToggle (some [3])).1.registry.enabled = true := rfl
  have disabled : (customEntry (some [3])).enabled = false := rfl
  have same : (refusedToggle (some [3])).1.registry.enabled = (customEntry (some [3])).enabled :=
    undone.enabled
  rw [enabled, disabled] at same
  cases same

end LayoutAdblock.Config
