import LayoutAdblock.Config.Storage

namespace LayoutAdblock.Config

open LayoutAdblock.Core Data Interaction Interaction.Fallible Environment

/-! # Runs in which every write succeeds -/

variable {host : Host} {path : String} {before : Store}
  {allowed : (op : Call) → Store → op.Answer → Prop}

/-- The probe of a file tells the truth, and a file can be read. -/
def Healthy : (op : Call) → Store → op.Answer → Prop
  | .file (.isFile name), before, answer => answer = (before.files name).isSome
  | .file (.read _), _, answer => ∃ bytes, answer = Except.ok bytes
  | _, _, _ => True

theorem quiet_step {op : Call} {answer : op.Answer}
    (quiet : directory.step op before answer ⟨before.files, syncedAfter before.synced op answer⟩) :
    ∃ after, directory.step op before answer after ∧ after.files = before.files :=
  ⟨_, quiet, rfl⟩

theorem file_step {call : FileCall String} {answer : FileAnswer call} {files : Files String}
    (effect : call.effect (fun _ => False) before.files answer files) :
    ∃ after, directory.step (.file call) before answer after ∧ after.files = files :=
  ⟨⟨files, syncedAfter before.synced (.file call) answer⟩,
    ⟨rfl, fileStep_of_effect effect⟩, rfl⟩

theorem writeTemporary_runs (temporary text : String) (unused : before.files temporary = none) :
    ∃ after, (directory.answering Healthy).Runs (writeTemporary temporary text).run before
        (.ok ()) after ∧
      after.files = Function.update before.files temporary (some (encode text)) := by
  obtain ⟨created, creates, empty⟩ :
      ∃ after, directory.step (.file (.createNew temporary)) before (.ok ()) after ∧
        after.files = Function.update before.files temporary (some []) :=
    file_step ⟨unused, rfl⟩
  obtain ⟨written, writes, full⟩ :
      ∃ after, directory.step (.writeAll temporary (encode text)) created (.ok ()) after ∧
        after.files = Function.update created.files temporary
          (some ((created.files temporary).getD [] ++ encode text)) :=
    ⟨⟨_, _⟩, ⟨rfl, rfl⟩, rfl⟩
  obtain ⟨synced, syncs, same⟩ :
      ∃ after, directory.step (.file (.syncAll temporary)) written (.ok ()) after ∧
        after.files = written.files := file_step rfl
  refine ⟨synced, ?_, ?_⟩
  · exact Runs.call ⟨trivial, creates⟩ (Runs.call ⟨trivial, writes⟩
      (Runs.call ⟨trivial, syncs⟩ Runs.done))
  · rw [same, full, empty]
    simp

theorem atomicWrite_runs (path text : String) (before : Store)
    (unused : before.files (temporaryName path 0 0) = none) :
    ∃ after, (directory.answering Healthy).Runs (atomicWrite path text).run before (.ok ()) after ∧
      after.files = Function.update before.files path (some (encode text)) := by
  obtain ⟨made, makes, sameMade⟩ :
      ∃ after, directory.step .createDirAll before (.ok ()) after ∧ after.files = before.files :=
    quiet_step ⟨rfl, rfl⟩
  obtain ⟨known, knows, sameKnown⟩ :
      ∃ after, directory.step .processId made (0 : UInt32) after ∧ after.files = made.files :=
    quiet_step ⟨rfl, rfl⟩
  obtain ⟨counted, counts, sameCounted⟩ :
      ∃ after, directory.step .fetchSequence known (0 : UInt64) after ∧
        after.files = known.files := quiet_step ⟨rfl, rfl⟩
  have same : counted.files = before.files := sameCounted.trans (sameKnown.trans sameMade)
  obtain ⟨written, writes, full⟩ :=
    writeTemporary_runs (temporaryName path 0 0) text (same ▸ unused)
  obtain ⟨moved, moves, replaced⟩ :
      ∃ after, directory.step (.file (.rename (temporaryName path 0 0) path)) written
          (Except.ok () : Except IoError Unit) after ∧
        after.files = Function.update (Function.update written.files path
          (written.files (temporaryName path 0 0))) (temporaryName path 0 0) none :=
    file_step ⟨by simp [full], rfl⟩
  refine ⟨moved, ?_, ?_⟩
  · have writing : (directory.answering Healthy).Runs
        ((writeTemporary (temporaryName path 0 0) text).onError
          (removeQuietly (temporaryName path 0 0))).run counted (.ok ()) written :=
      writes.bind Runs.done
    refine Runs.call ⟨trivial, makes⟩ (Runs.call ⟨trivial, knows⟩ (Runs.call ⟨trivial, counts⟩ ?_))
    exact runs_try writing (Runs.call ⟨trivial, moves⟩ Runs.done)
  · rw [replaced, full, same]
    funext name
    by_cases temporary : name = temporaryName path 0 0
    · subst temporary
      simp [unused, temporary_apart path 0 0]
    · simp [Function.update_apply, temporary]

theorem cleanupBrokenBackups_runs (path : String) (before : Store) :
    ∃ after, (directory.answering Healthy).Runs (cleanupBrokenBackups path) before () after ∧
      after.files = before.files := by
  obtain ⟨timed, times, sameTimed⟩ :
      ∃ after, directory.step .systemSecs before (0 : Nat) after ∧ after.files = before.files :=
    quiet_step ⟨rfl, rfl⟩
  obtain ⟨listed, lists, sameListed⟩ :
      ∃ after, directory.step .readDir timed ([] : List String) after ∧
        after.files = timed.files := quiet_step ⟨rfl, rfl⟩
  exact ⟨listed, Runs.call ⟨trivial, times⟩ (Runs.call ⟨trivial, lists⟩ Runs.done),
    sameListed.trans sameTimed⟩

/-- A load that takes the file for missing. -/
theorem load_missing_runs (host : Host) (before : Store) (path label : String) :
    ∃ after, (directory.answering fun _ _ _ => True).Runs (loadJsonValueUnlocked host path label)
        before (.object [], []) after ∧
      after.files = before.files := by
  obtain ⟨cleaned, cleans, sameCleaned⟩ := cleanupBrokenBackups_runs path before
  obtain ⟨probed, probes, sameProbed⟩ :
      ∃ after, directory.step (.file (.isFile path)) cleaned false after ∧
        after.files = cleaned.files := file_step ⟨fun found => (nomatch found), rfl⟩
  exact ⟨probed, (runs_answering_mono (fun _ _ _ _ => trivial) cleans).bind
    (Runs.call ⟨trivial, probes⟩ Runs.done), sameProbed.trans sameCleaned⟩

theorem load_object_runs {text label : String} {entries : List (String × Json)}
    (holds : before.files path = some (encode text))
    (parses : host.parse (stripBom text) = some (.object entries)) :
    ∃ after, (directory.answering Healthy).Runs (loadJsonValueUnlocked host path label) before
      (.object entries, []) after ∧ after.files = before.files := by
  obtain ⟨cleaned, cleans, sameCleaned⟩ := cleanupBrokenBackups_runs path before
  have present : cleaned.files path = some (encode text) := sameCleaned ▸ holds
  obtain ⟨probed, probes, sameProbed⟩ :
      ∃ after, directory.step (.file (.isFile path)) cleaned true after ∧
        after.files = cleaned.files := file_step ⟨fun _ => Or.inr (by simp [present]), rfl⟩
  obtain ⟨read, reads, sameRead⟩ :
      ∃ after, directory.step (.file (.read path)) probed
        (Except.ok (encode text) : Except IoError Bytes) after ∧ after.files = probed.files := by
    refine file_step ⟨fun bytes same => Or.inr ?_, rfl⟩
    rw [sameProbed, present, Except.ok.inj same]
  refine ⟨read, cleans.bind (Runs.call ⟨by simp [Healthy, present], probes⟩ ?_),
    sameRead.trans (sameProbed.trans sameCleaned)⟩
  have reading : (directory.answering Healthy).Runs (readToString path) probed (.ok text) read := by
    refine Runs.call ⟨⟨_, rfl⟩, reads⟩ ?_
    simp only [Program.bind, decode_encode]
    exact Runs.done
  refine reading.bind ?_
  dsimp only
  rw [parses]
  exact Runs.done

theorem update_runs {loaded : Store} {value : Json} (fallback : AppSettings)
    (change : AppSettings → AppSettings)
    (admits : ∀ op state answer, Healthy op state answer → allowed op state answer)
    (loads : (directory.answering allowed).Runs (loadJsonValueUnlocked host path settingsLabel)
      before (value, []) loaded)
    (same : loaded.files = before.files)
    (unused : before.files (temporaryName path 0 0) = none) :
    ∃ after, (directory.answering allowed).Runs
        (updateSettingsUnlocked host path fallback change).run before
        (.ok (change (mergeTypedSettings fallback value settingsLabel).1)) after ∧
      after.files = Function.update before.files path (some (encode (host.printSettings
        (change (mergeTypedSettings fallback value settingsLabel).1) ++ "\n"))) := by
  obtain ⟨saved, saves, replaced⟩ := atomicWrite_runs path
    (host.printSettings (change (mergeTypedSettings fallback value settingsLabel).1) ++ "\n")
    loaded (same ▸ unused)
  have loading : (directory.answering allowed).Runs
      (always (loadJsonValueUnlocked host path settingsLabel) :
        ConfigE (Json × List String)).run before (.ok (value, [])) loaded :=
    loads.bind Runs.done
  refine ⟨saved, runs_try loading ?_, same ▸ replaced⟩
  exact runs_try Runs.done (runs_try (runs_answering_mono admits saves) Runs.done)

end LayoutAdblock.Config
