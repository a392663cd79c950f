import LayoutAdblock.Config.NeverLost

namespace LayoutAdblock.Config

open LayoutAdblock.Core Data Interaction Interaction.Fallible Environment

/-! # Updates on record

With its calls on record an update shows what it did to the file.  One that
succeeds has saved the changed settings.  One that fails has left the file alone,
unless it had already put the defaults in the place of a broken file.
-/

variable {host : Host} {path : String} {before after : Recorded Call Call.Answer Store} {α : Type}

/-- The event puts another file in the place of this one. -/
def Replaces (path : String) : Event Call Call.Answer → Prop
  | ⟨.file (.rename _ destination), .ok ()⟩ => destination = path
  | _ => False

/-- Some rename onto the file has succeeded so far. -/
def Replaced (path : String) (state : Recorded Call Call.Answer Store) : Prop :=
  ∃ event ∈ state.trace, Replaces path event

/-- Nothing has happened to the file in between. -/
structure Alike (path : String) (before after : Recorded Call Call.Answer Store) : Prop where
  files : after.state.files path = before.state.files path
  replaced : Replaced path after ↔ Replaced path before

theorem Alike.refl (state : Recorded Call Call.Answer Store) : Alike path state state :=
  ⟨rfl, Iff.rfl⟩

theorem Alike.trans {middle : Recorded Call Call.Answer Store} (first : Alike path before middle)
    (second : Alike path middle after) : Alike path before after :=
  ⟨second.files.trans first.files, second.replaced.trans first.replaced⟩

theorem replaced_snoc {state : Store} {event : Event Call Call.Answer} :
    Replaced path ⟨state, before.trace ++ [event]⟩ ↔
      Replaced path before ∨ Replaces path event := by
  simp [Replaced, or_and_right, exists_or]

theorem Replaces.writes {event : Event Call Call.Answer} (replaces : Replaces path event) :
    event.op.Writes path := by
  unfold Replaces at replaces
  split at replaces
  · exact Or.inr replaces.symm
  · exact replaces.elim

theorem Alike.step {op : Call} {answer : op.Answer} (alike : Alike path before after)
    {last : Recorded Call Call.Answer Store} (step : directory.recorded.step op after answer last)
    (same : last.state.files path = after.state.files path)
    (quiet : ¬ Replaces path ⟨op, answer⟩) : Alike path before last := by
  refine alike.trans ⟨same, ?_⟩
  obtain ⟨state, trace⟩ := last
  obtain rfl : trace = after.trace ++ [⟨op, answer⟩] := step.2
  rw [replaced_snoc]
  exact or_iff_left quiet

/-- Programs that do not write the file. -/
theorem ensures_alike {program : ConfigM α} (only : program.Only fun op => ¬ op.Writes path) :
    directory.recorded.ensures program (fun _ after => Alike path before after) before := by
  refine ensures_of_step (Alike path before) only ?_ (Alike.refl before)
  intro op state answer next untouched alike step
  exact alike.step step (step_files step.1 untouched) fun replaces => untouched replaces.writes

/-- Programs that rename nothing, when they are known to leave the file alone. -/
theorem ensures_alike_of {program : ConfigM α}
    (only : program.Only fun op => ∀ source, op ≠ .file (.rename source path))
    (same : directory.ensures program
      (fun _ after => after.files path = before.state.files path) before.state) :
    directory.recorded.ensures program (fun _ after => Alike path before after) before := by
  have quiet : directory.recorded.ensures program
      (fun _ after => Replaced path after ↔ Replaced path before) before := by
    refine ensures_of_step (fun state => Replaced path state ↔ Replaced path before) only ?_ Iff.rfl
    intro op state answer next never held step
    obtain ⟨store, trace⟩ := next
    obtain rfl : trace = state.trace ++ [⟨op, answer⟩] := step.2
    rw [replaced_snoc, held]
    refine or_iff_left fun replaces => ?_
    unfold Replaces at replaces
    split at replaces
    · rename_i source destination renamed
      cases renamed
      exact never source (replaces ▸ rfl)
    · exact replaces.elim
  exact ensures_mono (ensures_and (ensures_recorded.mpr same) quiet) fun _ _ held => ⟨held.1, held.2⟩

theorem removeQuietly_apart {name : String} (apart : name ≠ path) :
    (removeQuietly name).Only fun op => ¬ op.Writes path := by
  have untouched : (fileCall (.removeFile name)).Only fun op => ¬ op.Writes path :=
    Program.only_ask.mpr fun same => apart same.symm
  exact untouched.bind fun _ => trivial

theorem writeTemporary_apart {temporary : String} (text : String) (apart : temporary ≠ path) :
    (writeTemporary temporary text).run.Only fun op => ¬ op.Writes path := by
  have created : ¬ (Call.file (.createNew temporary)).Writes path := fun same => apart same.symm
  have written : ¬ (Call.writeAll temporary (encode text)).Writes path :=
    fun same => apart same.symm
  have synced : ¬ (Call.file (.syncAll temporary)).Writes path := id
  refine only_try (Program.only_ask.mpr created) fun _ => ?_
  exact only_try (Program.only_ask.mpr written) fun _ => Program.only_ask.mpr synced

/-- A temporary that is complete holds the whole text. -/
theorem writeTemporary_ensures (temporary text : String) (store : Store) :
    directory.ensures (writeTemporary temporary text).run
      (outcome (fun _ after => after.files temporary = some (encode text)) fun _ _ => True)
      store := by
  have creating : directory.ensures (attempt (fileCall (.createNew temporary))).run
      (outcome (fun _ after => after.files temporary = some []) fun _ _ => True) store := by
    refine wp_attempt (ensures_ask.mpr fun answer after step => ?_)
    cases answer with
    | ok value => exact step_created step
    | error error => trivial
  refine wp_try creating fun _ created empty => ?_
  have writing : directory.ensures (attempt (ask (.writeAll temporary (encode text)))).run
      (outcome (fun _ after => after.files temporary = some (encode text)) fun _ _ => True)
      created := by
    refine wp_attempt (ensures_ask.mpr fun answer after step => ?_)
    cases answer with
    | ok value =>
        have full := step_written step
        rw [empty] at full
        exact full
    | error error => trivial
  refine wp_try writing fun _ written full => ?_
  refine wp_attempt (ensures_ask.mpr fun answer after step => ?_)
  cases answer with
  | ok value => exact (step_files step id).trans full
  | error error => trivial

theorem rename_recorded {temporary text : String} (apart : temporary ≠ path)
    (complete : before.state.files temporary = some (encode text)) :
    directory.recorded.ensures (attempt (fileCall (.rename temporary path))).run
      (outcome
        (fun _ after => after.state.files path = some (encode text) ∧ Replaced path after)
        (fun _ after => Alike path before after)) before := by
  refine wp_attempt (ensures_ask.mpr fun answer after step => ?_)
  cases answer with
  | ok value =>
      refine ⟨(fileStep_rename step.1.2 id apart.symm).trans complete, ?_⟩
      obtain ⟨store, trace⟩ := after
      obtain rfl : trace = _ := step.2
      exact replaced_snoc.mpr (Or.inr rfl)
  | error error =>
      have same : after.state.files path = before.state.files path :=
        fileStep_rename_error step.1.2 id
      exact (Alike.refl before).step step same id

/-- A write that succeeds has replaced the file, and one that fails has not. -/
theorem atomicWrite_recorded (path text : String) (before : Recorded Call Call.Answer Store) :
    directory.recorded.ensures (atomicWrite path text).run
      (outcome
        (fun _ after => after.state.files path = some (encode text) ∧ Replaced path after)
        (fun _ after => Alike path before after)) before := by
  have look : ∀ op : Call, ¬ op.Writes path → ∀ state, Alike path before state →
      directory.recorded.ensures (ask op) (fun _ after => Alike path before after) state :=
    fun op quiet state alike => ensures_mono (ensures_alike (Program.only_ask.mpr quiet))
      fun _ _ held => alike.trans held
  have directories : directory.recorded.ensures (attempt (ask .createDirAll)).run
      (outcome (fun _ after => Alike path before after) (fun _ after => Alike path before after))
      before := by
    refine wp_mono (look .createDirAll id before (Alike.refl before)) fun result after held => ?_
    cases result <;> exact held
  refine wp_try directories fun _ created alike => ?_
  refine wp_try (wp_always (look .processId id created alike)) fun pid state alike => ?_
  refine wp_try (wp_always (look .fetchSequence id state alike)) fun sequence state alike => ?_
  have apart := temporary_apart path pid sequence
  have cleaning : ∀ last, Alike path before last →
      directory.recorded.ensures (removeQuietly (temporaryName path pid sequence))
        (fun _ after => Alike path before after) last :=
    fun last alike => ensures_mono (ensures_alike (removeQuietly_apart apart))
      fun _ _ held => alike.trans held
  have writing : directory.recorded.ensures
      (writeTemporary (temporaryName path pid sequence) text).run
      (outcome
        (fun _ after => Alike path before after ∧
          after.state.files (temporaryName path pid sequence) = some (encode text))
        (fun _ after => Alike path before after)) state := by
    refine ensures_mono (ensures_and (ensures_alike (writeTemporary_apart text apart))
      (ensures_recorded.mpr (writeTemporary_ensures _ text state.state))) fun result after held => ?_
    cases result with
    | ok value => exact ⟨alike.trans held.1, held.2⟩
    | error error => exact alike.trans held.1
  refine wp_try (wp_onError writing fun _ last held => cleaning last held) fun _ last facts => ?_
  refine wp_onError (wp_outcome_mono (rename_recorded apart facts.2) (fun _ _ held => held)
    fun _ _ held => facts.1.trans held) fun _ last held => cleaning last held

abbrev NoRename (path : String) (op : Call) : Prop := ∀ source, op ≠ .file (.rename source path)

theorem removeQuietly_noRename (name : String) : (removeQuietly name).Only (NoRename path) := by
  have removing : (fileCall (.removeFile name)).Only (NoRename path) :=
    Program.only_ask.mpr fun _ same => nomatch same
  exact removing.bind fun _ => trivial

theorem dropExpired_noRename (instant : Nat) (names : List String) :
    (dropExpired instant names).Only (NoRename path) := by
  induction names with
  | nil => trivial
  | cons name rest ih =>
      simp only [dropExpired]
      split
      · exact (removeQuietly_noRename name).bind fun _ => ih
      · exact ih.bind fun _ => trivial

theorem dateBackups_noRename (names : List String) :
    (dateBackups names).Only (NoRename path) := by
  induction names with
  | nil => trivial
  | cons name rest ih =>
      have dating : (ask (.modified name)).Only (NoRename path) :=
        Program.only_ask.mpr fun _ same => nomatch same
      exact dating.bind fun _ => ih.bind fun _ => trivial

theorem cleanupBrokenBackups_noRename (path : String) :
    (cleanupBrokenBackups path).Only (NoRename path) := by
  have timing : (ask .systemSecs).Only (NoRename path) :=
    Program.only_ask.mpr fun _ same => nomatch same
  have listing : (ask .readDir).Only (NoRename path) :=
    Program.only_ask.mpr fun _ same => nomatch same
  refine timing.bind fun instant => listing.bind fun entries => ?_
  refine (dropExpired_noRename instant _).bind fun kept => ?_
  refine (dateBackups_noRename kept).bind fun dated => ?_
  exact Program.Only.forEach (fun _ => removeQuietly_noRename _) _

theorem cleanupBrokenBackups_recorded (path : String)
    (before : Recorded Call Call.Answer Store) :
    directory.recorded.ensures (cleanupBrokenBackups path)
      (fun _ after => Alike path before after) before := by
  refine ensures_alike_of (cleanupBrokenBackups_noRename path) ?_
  have kept : (admitted fun _ _ _ => True).wp
      (Kept ⟨fun _ => none, fun _ => "", "", id⟩ path (before.state.files path) fun _ => False)
      (cleanupBrokenBackups path)
      (fun _ after => after.files path = before.state.files path) before.state :=
    cleanupBrokenBackups_wp rfl
  exact wp_weaken (wp_of_answering (fun _ _ _ => trivial) kept) fun _ _ => trivial

theorem readToString_apart (path : String) :
    (readToString path).Only fun op => ¬ op.Writes path := by
  have reading : (fileCall (.read path)).Only fun op => ¬ op.Writes path :=
    Program.only_ask.mpr id
  refine reading.bind fun answer => ?_
  cases answer with
  | error error => trivial
  | ok bytes =>
      dsimp only
      split <;> trivial

theorem backupBroken_apart (host : Host) (path label reason : String) :
    (backupBroken host path label reason).Only fun op => ¬ op.Writes path := by
  have quiet : ∀ op : Call, ¬ op.Writes path → (ask op).Only fun op => ¬ op.Writes path :=
    fun op untouched => Program.only_ask.mpr untouched
  refine (quiet .systemSecs id).bind fun stamp => (quiet .processId id).bind fun pid => ?_
  refine (quiet .fetchSequence id).bind fun sequence => ?_
  have apart := (backup_apart (backupName_is_backup path pid sequence stamp)).symm
  have copying : (copyBackup path (backupName path pid sequence stamp)).run.Only
      fun op => ¬ op.Writes path := by
    refine only_try (quiet (.file (.openRead path)) id) fun _ => ?_
    refine only_try (quiet (.file (.createNew _)) apart) fun _ => ?_
    refine only_try (quiet (.file (.copy path _)) apart) fun _ => ?_
    exact quiet (.file (.syncAll _)) id
  refine copying.bind fun result => ?_
  cases result <;> trivial

/-- Nothing has happened to the file, or the defaults have taken its place. -/
def AlikeOrHealed (host : Host) (path label : String)
    (before after : Recorded Call Call.Answer Store) : Prop :=
  Alike path before after ∨
    after.state.files path = some (encode (defaultText host label ++ "\n")) ∧ Replaced path after

theorem AlikeOrHealed.alike {label : String} {middle : Recorded Call Call.Answer Store}
    (first : AlikeOrHealed host path label before middle) (second : Alike path middle after) :
    AlikeOrHealed host path label before after := by
  cases first with
  | inl alike => exact Or.inl (alike.trans second)
  | inr healed => exact Or.inr ⟨second.files.trans healed.1, second.replaced.mpr healed.2⟩

theorem healBroken_recorded (host : Host) (path label reason : String)
    (before : Recorded Call Call.Answer Store) :
    directory.recorded.ensures (healBroken host path label reason)
      (fun _ after => AlikeOrHealed host path label before after) before := by
  refine wp_seq (ensures_alike (backupBroken_apart host path label reason))
    fun result state alike => ?_
  obtain ⟨backedUp, warning⟩ := result
  cases backedUp with
  | false => exact Or.inl alike
  | true =>
      have healing : directory.recorded.ensures (healDefault host path label)
          (fun _ after => AlikeOrHealed host path label before after) state := by
        refine wp_seq (atomicWrite_recorded path _ state) fun result after held => ?_
        cases result with
        | ok value => exact Or.inr held
        | error error => exact Or.inl (alike.trans held)
      exact wp_seq healing fun _ _ held => held

theorem loadJsonValueUnlocked_recorded (host : Host) (path label : String)
    (before : Recorded Call Call.Answer Store) :
    directory.recorded.ensures (loadJsonValueUnlocked host path label)
      (fun _ after => AlikeOrHealed host path label before after) before := by
  refine wp_seq (cleanupBrokenBackups_recorded path before) fun _ state alike => ?_
  have probing : directory.recorded.ensures (fileCall (.isFile path))
      (fun _ after => Alike path before after) state :=
    ensures_mono (ensures_alike (Program.only_ask.mpr id)) fun _ _ held => alike.trans held
  refine wp_seq probing fun regular state alike => ?_
  cases regular with
  | false => exact Or.inl alike
  | true =>
      refine wp_seq (ensures_alike (readToString_apart path)) fun result last held => ?_
      have read := alike.trans held
      cases result with
      | error error => exact Or.inl read
      | ok text =>
          have heals : ∀ reason, directory.recorded.ensures (healBroken host path label reason)
              (fun _ after => AlikeOrHealed host path label before after) last := by
            intro reason
            refine ensures_mono (healBroken_recorded host path label reason last) ?_
            intro _ after healed
            cases healed with
            | inl same => exact Or.inl (read.trans same)
            | inr replaced => exact Or.inr replaced
          dsimp only
          split
          · exact Or.inl read
          · exact heals _
          · exact heals _

theorem updateSettingsUnlocked_recorded (host : Host) (path : String) (fallback : AppSettings)
    (change : AppSettings → AppSettings) (before : Recorded Call Call.Answer Store) :
    directory.recorded.ensures (updateSettingsUnlocked host path fallback change).run
      (outcome
        (fun settings after => (∃ current, settings = change current) ∧
          after.state.files path = some (encode (host.printSettings settings ++ "\n")))
        (fun _ after => AlikeOrHealed host path settingsLabel before after)) before := by
  refine wp_try (wp_always (loadJsonValueUnlocked_recorded host path settingsLabel before))
    fun loaded state held => ?_
  have checking : directory.recorded.ensures
      (require (!loaded.2.any alarming)
        { rawOsError := none, text := "; ".intercalate loaded.2 } : ConfigE Unit).run
      (outcome (fun _ after => AlikeOrHealed host path settingsLabel before after)
        (fun _ after => AlikeOrHealed host path settingsLabel before after)) state :=
    wp_require (fun _ => held) fun _ => held
  refine wp_try checking fun _ state held => ?_
  have saving := atomicWrite_recorded path (host.printSettings
    (change (mergeTypedSettings fallback loaded.1 settingsLabel).1) ++ "\n") state
  refine wp_try (wp_outcome_mono saving (fun _ _ saved => saved.1)
    fun _ _ same => held.alike same) fun _ after saved => ?_
  exact ⟨⟨_, rfl⟩, saved⟩

/-- A run of an update from this store to its end, with the answers to its calls and with
the settings or the error that it returns. -/
structure UpdateRun (host : Host) (path : String) (fallback : AppSettings)
    (change : AppSettings → AppSettings) (store : Store) where
  result : Except IoError AppSettings
  after : Store
  trace : List (Event Call Call.Answer)
  runs : (alone IoError directory.recorded).Runs (updateSettings host path fallback change)
    ⟨store, []⟩ result ⟨after, trace⟩

namespace UpdateRun

variable {fallback : AppSettings} {change : AppSettings → AppSettings} {store : Store}

theorem ends (run : UpdateRun host path fallback change store) :
    outcome
      (fun settings after => (∃ current, settings = change current) ∧
        after.state.files path = some (encode (host.printSettings settings ++ "\n")))
      (fun _ after => AlikeOrHealed host path settingsLabel ⟨store, []⟩ after)
      run.result ⟨run.after, run.trace⟩ := by
  have unlocked := updateSettingsUnlocked_recorded host path fallback change ⟨store, []⟩
  refine ensures_runs (wp_critical trivial (fun _ _ _ => trivial) (fun refusal => ?_) unlocked)
    run.runs
  exact Or.inl (Alike.refl _)

def Replaced (run : UpdateRun host path fallback change store) : Prop :=
  ∃ event ∈ run.trace, Replaces path event

theorem saved (run : UpdateRun host path fallback change store) {settings : AppSettings}
    (succeeds : run.result = .ok settings) : (∃ current, settings = change current) ∧
      run.after.files path = some (encode (host.printSettings settings ++ "\n")) := by
  have ends := run.ends
  rw [succeeds] at ends
  exact ends

/-- A run that fails has changed the file only by putting the defaults there. -/
theorem unchanged_iff (run : UpdateRun host path fallback change store) {error : IoError}
    (fails : run.result = .error error) : run.after.files path = store.files path ↔
      ¬ run.Replaced ∨
        store.files path = some (encode (defaultText host settingsLabel ++ "\n")) := by
  have ends := run.ends
  rw [fails] at ends
  cases ends with
  | inl alike =>
      have quiet : ¬ run.Replaced := by
        intro replaced
        obtain ⟨event, member, _⟩ := alike.replaced.mp replaced
        exact List.not_mem_nil member
      exact ⟨fun _ => Or.inl quiet, fun _ => alike.files⟩
  | inr healed =>
      obtain ⟨files, replaced⟩ := healed
      constructor
      · intro same
        exact Or.inr (same.symm.trans files)
      · intro either
        cases either with
        | inl quiet => exact absurd replaced quiet
        | inr default => exact files.trans default.symm

end UpdateRun

end LayoutAdblock.Config
