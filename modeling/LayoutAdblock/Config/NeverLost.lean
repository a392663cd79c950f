import LayoutAdblock.Config.Runs

namespace LayoutAdblock.Config

open LayoutAdblock.Core Data Interaction Interaction.Fallible Environment

/-! # Configuration text is never lost

At every instant of a load or an update the file holds what it held before, or
the complete text that replaces it; and text that cannot be read as an object is
replaced only when a synced backup holds it.
-/

theorem startsWith_append (first rest : String) : startsWith (first ++ rest) first = true := by
  rw [startsWith, String.toList_append]
  exact List.isPrefixOf_iff_prefix.mpr (List.prefix_append _ _)

theorem containsText_append {second needle : String} (first : String)
    (contains : containsText second needle = true) :
    containsText (first ++ second) needle = true := by
  simp only [containsText, decide_eq_true_eq, String.toList_append] at contains ⊢
  exact contains.trans (List.suffix_append _ _).isInfix

theorem containsText_append_left {first needle : String} (second : String)
    (contains : containsText first needle = true) :
    containsText (first ++ second) needle = true := by
  simp only [containsText, decide_eq_true_eq, String.toList_append] at contains ⊢
  exact contains.trans (List.prefix_append _ _).isInfix

/-- A file is no backup of itself. -/
theorem backup_apart {path name : String} (isBackup : startsWith name (backupPrefix path) = true) :
    name ≠ path := by
  rintro rfl
  have longer := (List.isPrefixOf_iff_prefix.mp isBackup).length_le
  simp only [backupPrefix, String.toList_append, List.length_append] at longer
  have dots : ".broken-".toList.length = 8 := rfl
  omega

theorem first_digit (number : Nat) : ∃ digit rest, number.repr.toList = digit :: rest ∧
    digit.isDigit = true := by
  cases digits : number.repr.toList with
  | nil =>
      rw [Nat.toList_repr] at digits
      exact absurd digits Nat.toDigits_ne_nil
  | cons digit rest =>
      rw [Nat.toList_repr] at digits
      have member : digit ∈ Nat.toDigits 10 number := digits ▸ List.mem_cons_self
      exact ⟨digit, rest, rfl, Nat.isDigit_of_mem_toDigits (by decide) (by decide) member⟩

/-- A temporary is no backup: a digit comes where its name would say so. -/
theorem temporary_no_backup (path : String) (pid : UInt32) (sequence : UInt64) :
    startsWith (temporaryName path pid sequence) (backupPrefix path) = false := by
  obtain ⟨digit, rest, digits, isDigit⟩ := first_digit pid.toNat
  by_contra begins
  have pre := List.isPrefixOf_iff_prefix.mp (Bool.eq_true_of_not_eq_false begins)
  simp only [backupPrefix, temporaryName, String.toList_append, toString, digits,
    List.append_assoc, List.prefix_append_right_inj] at pre
  have same : digit = 'b' := by
    obtain ⟨_, letters⟩ := List.cons_prefix_cons.mp pre
    exact (List.cons_prefix_cons.mp letters).1.symm
  subst same
  cases isDigit

theorem backupName_is_backup (path : String) (pid : UInt32) (sequence : UInt64) (stamp : Nat) :
    startsWith (backupName path pid sequence stamp) (backupPrefix path) = true := by
  simp only [backupName, toString, String.append_assoc]
  exact startsWith_append _ _

section Invariants

variable (host : Host) (path : String) (original : Option Bytes) (fresh : String → Prop)

/-- The file holds its old bytes or one of the texts that may replace them. -/
def Whole (store : Store) : Prop :=
  store.files path = original ∨ ∃ text, fresh text ∧ store.files path = some (encode text)

/-- Old bytes that are no object are still there, in a backup of their own, which was synced
before anything took their place. -/
def Backed (store : Store) : Prop :=
  ∀ bytes, original = some bytes → readObject host bytes = none → decode bytes ≠ none ∧
    ∃ backup, startsWith backup (backupPrefix path) = true ∧ store.files backup = some bytes ∧
      store.synced backup

/-- The file is never found torn. Once it has changed, what was in it is still there in a
backup, unless that was an object and so could be read. -/
structure Kept (store : Store) : Prop where
  whole : Whole path original fresh store
  backed : store.files path ≠ original → Backed host path original store

/-- The file may be replaced. -/
structure Replaceable (store : Store) : Prop where
  whole : Whole path original fresh store
  backed : Backed host path original store

end Invariants

variable {host : Host} {path : String} {original : Option Bytes} {fresh : String → Prop}
  {allowed : (op : Call) → Store → op.Answer → Prop} {before after : Store} {α : Type}

theorem Kept.untouched (same : before.files path = original) :
    Kept host path original fresh before where
  whole := Or.inl same
  backed changed := absurd same changed

theorem Replaceable.kept (held : Replaceable host path original fresh before) :
    Kept host path original fresh before where
  whole := held.whole
  backed _ := held.backed

theorem Backed.transfer (held : Backed host path original before)
    (files : ∀ name, startsWith name (backupPrefix path) = true →
      after.files name = before.files name)
    (synced : ∀ name, startsWith name (backupPrefix path) = true →
      before.synced name → after.synced name) : Backed host path original after := by
  intro bytes isOriginal unread
  obtain ⟨decodes, backup, isBackup, holds, isSynced⟩ := held bytes isOriginal unread
  exact ⟨decodes, backup, isBackup, (files backup isBackup).trans holds,
    synced backup isBackup isSynced⟩

/-- The call writes neither the file nor a backup of it. -/
def Call.Spares (path : String) (op : Call) : Prop :=
  ∀ name, op.Writes name → name ≠ path ∧ startsWith name (backupPrefix path) = false

theorem Call.Spares.own {op : Call} (spares : op.Spares path) : ¬ op.Writes path :=
  fun writes => (spares path writes).1 rfl

theorem Call.Spares.backup {op : Call} (spares : op.Spares path) {name : String}
    (isBackup : startsWith name (backupPrefix path) = true) : ¬ op.Writes name := by
  intro writes
  rw [(spares name writes).2] at isBackup
  cases isBackup

theorem Call.Quiet.spares {op : Call} (quiet : ∀ name, ¬ op.Writes name) : op.Spares path :=
  fun name writes => absurd writes (quiet name)

theorem Replaceable.step {op : Call} {answer : op.Answer}
    (held : Replaceable host path original fresh before) (spares : op.Spares path)
    (step : directory.step op before answer after) :
    Replaceable host path original fresh after where
  whole := by
    rw [Whole, step_files step spares.own]
    exact held.whole
  backed := held.backed.transfer
    (fun _ isBackup => step_files step (spares.backup isBackup))
    (fun _ isBackup => step_synced step (spares.backup isBackup))

theorem Replaceable.torn {op : Call} (held : Replaceable host path original fresh before)
    (spares : op.Spares path) (torn : directory.torn op before after) :
    Replaceable host path original fresh after where
  whole := by
    rw [Whole, torn_files torn spares.own]
    exact held.whole
  backed := held.backed.transfer
    (fun _ isBackup => torn_files torn (spares.backup isBackup))
    (fun _ isBackup => torn_synced torn (spares.backup isBackup))

/-- The runs of one process whose calls get admitted answers. -/
abbrev admitted (allowed : (op : Call) → Store → op.Answer → Prop) :
    Environment Call Call.Answer Store :=
  directory.answering allowed

/-- Programs that write other files only. -/
theorem wp_untouched {program : ConfigM α} (only : program.Only fun op => ¬ op.Writes path)
    (same : before.files path = original) :
    (admitted allowed).wp (Kept host path original fresh) program
      (fun _ after => after.files path = original) before := by
  refine wp_of_step only ?_ ?_
    (fun _ same => Kept.untouched same) same
  · intro op state seen untouched held torn
    exact Kept.untouched ((torn_files torn untouched).trans held)
  · intro op state answer next untouched held step
    exact (step_files step.2 untouched).trans held

theorem wp_replaceable {program : ConfigM α} (only : program.Only fun op => op.Spares path)
    (held : Replaceable host path original fresh before) :
    (admitted allowed).wp (Kept host path original fresh) program
      (fun _ => Replaceable host path original fresh) before := by
  refine wp_of_step only ?_ ?_ (fun _ held => held.kept)
    held
  · intro op state seen spares held torn
    exact (held.torn spares torn).kept
  · intro op state answer next spares held step
    exact held.step spares step.2

/-- One call that spares the file and its backups. -/
theorem wp_spared {op : Call} {post : op.Answer → Store → Prop} (spares : op.Spares path)
    (held : Replaceable host path original fresh before)
    (holds : ∀ answer after, directory.step op before answer after →
      Replaceable host path original fresh after → post answer after) :
    (admitted allowed).wp (Kept host path original fresh) (ask op) post before := by
  refine wp_ask (fun seen torn => (held.torn spares torn).kept) fun answer after step => ?_
  have next := held.step spares step.2
  exact ⟨next.kept, holds answer after step.2 next⟩

theorem spares_temporary {op : Call} (pid : UInt32) (sequence : UInt64)
    (only : ∀ name, op.Writes name → name = temporaryName path pid sequence) :
    op.Spares path := by
  intro name writes
  rw [only name writes]
  exact ⟨temporary_apart path pid sequence, temporary_no_backup path pid sequence⟩

theorem step_created {name : String}
    (step : directory.step (.file (.createNew name)) before (.ok ()) after) :
    after.files name = some [] := by
  obtain ⟨_, files, effect, others⟩ := step
  rw [others name id, effect.2, Function.update_self]

theorem step_written {name : String} {bytes : Bytes}
    (step : directory.step (.writeAll name bytes) before (.ok ()) after) :
    after.files name = some ((before.files name).getD [] ++ bytes) := by
  rw [step.2, Function.update_self]

/-- A temporary that is complete holds the whole text. -/
theorem writeTemporary_wp (pid : UInt32) (sequence : UInt64) (text : String)
    (held : Replaceable host path original fresh before) :
    (admitted allowed).wp (Kept host path original fresh)
      (writeTemporary (temporaryName path pid sequence) text).run
      (outcome
        (fun _ after => Replaceable host path original fresh after ∧
          after.files (temporaryName path pid sequence) = some (encode text))
        (fun _ => Replaceable host path original fresh)) before := by
  have spares : ∀ op : Call, (∀ name, op.Writes name → name = temporaryName path pid sequence) →
      op.Spares path := fun _ only => spares_temporary pid sequence only
  have creating : (admitted allowed).wp (Kept host path original fresh)
      (attempt (fileCall (.createNew (temporaryName path pid sequence)))).run
      (outcome
        (fun _ after => Replaceable host path original fresh after ∧
          after.files (temporaryName path pid sequence) = some [])
        (fun _ => Replaceable host path original fresh)) before := by
    refine wp_attempt (wp_spared (spares _ fun _ writes => writes) held ?_)
    intro answer after step next
    cases answer with
    | error error => exact next
    | ok value => exact ⟨next, step_created step⟩
  have writing : ∀ state, Replaceable host path original fresh state →
      state.files (temporaryName path pid sequence) = some [] →
      (admitted allowed).wp (Kept host path original fresh)
        (attempt (ask (.writeAll (temporaryName path pid sequence) (encode text)))).run
        (outcome
          (fun _ after => Replaceable host path original fresh after ∧
            after.files (temporaryName path pid sequence) = some (encode text))
          (fun _ => Replaceable host path original fresh)) state := by
    intro state held empty
    refine wp_attempt (wp_spared (spares _ fun _ writes => writes) held ?_)
    intro answer after step next
    cases answer with
    | error error => exact next
    | ok value =>
        refine ⟨next, ?_⟩
        rw [step_written step, empty]
        rfl
  refine wp_try creating fun _ created facts => ?_
  refine wp_try (writing created facts.1 facts.2) fun _ written facts => ?_
  refine wp_attempt (wp_spared (spares _ fun _ writes => writes.elim) facts.1 ?_)
  intro answer after step next
  cases answer with
  | error error => exact next
  | ok value => exact ⟨next, (step_files step id).trans facts.2⟩

theorem renameTemporary_wp (pid : UInt32) (sequence : UInt64) {text : String}
    (isFresh : fresh text) (held : Replaceable host path original fresh before)
    (complete : before.files (temporaryName path pid sequence) = some (encode text)) :
    (admitted allowed).wp (Kept host path original fresh)
      (fileCall (.rename (temporaryName path pid sequence) path))
      (fun _ => Replaceable host path original fresh) before := by
  have apart := (temporary_apart path pid sequence).symm
  have noBackup : ∀ name, startsWith name (backupPrefix path) = true →
      ¬ (Call.file (.rename (temporaryName path pid sequence) path)).Writes name := by
    intro name isBackup writes
    cases writes with
    | inl same =>
        rw [same, temporary_no_backup] at isBackup
        cases isBackup
    | inr same => exact backup_apart isBackup same
  refine wp_ask (fun seen torn => torn.2.elim) fun answer after step => ?_
  have moved : Replaceable host path original fresh after := by
    refine ⟨?_, held.backed.transfer
      (fun name isBackup => step_files step.2 (noBackup name isBackup))
      (fun name isBackup => step_synced step.2 (noBackup name isBackup))⟩
    cases answer with
    | ok value =>
        have replaced := fileStep_rename step.2.2 id apart
        exact Or.inr ⟨text, isFresh, replaced.trans complete⟩
    | error error =>
        have same : after.files path = before.files path := fileStep_rename_error step.2.2 id
        rw [Whole, same]
        exact held.whole
  exact ⟨moved.kept, moved⟩

theorem removeQuietly_spares (pid : UInt32) (sequence : UInt64) :
    (removeQuietly (temporaryName path pid sequence)).Only fun op => op.Spares path := by
  have spares : (Call.file (.removeFile (temporaryName path pid sequence))).Spares path :=
    spares_temporary pid sequence fun _ writes => writes
  exact (Program.only_ask.mpr spares).bind fun _ => trivial

/-- A postcondition that does not look at the result. -/
theorem wp_either {program : ConfigE α} {post : Store → Prop}
    (holds : (admitted allowed).wp (Kept host path original fresh) program.run (fun _ => post)
      before) :
    (admitted allowed).wp (Kept host path original fresh) program.run
      (outcome (fun _ => post) (fun _ => post)) before := by
  refine wp_mono holds fun result after held => ?_
  cases result <;> exact held

theorem atomicWrite_wp {text : String} (isFresh : fresh text)
    (held : Replaceable host path original fresh before) :
    (admitted allowed).wp (Kept host path original fresh) (atomicWrite path text).run
      (outcome (fun _ => Replaceable host path original fresh)
        (fun _ => Replaceable host path original fresh)) before := by
  have quiet : ∀ op : Call, (∀ name, ¬ op.Writes name) → ∀ state,
      Replaceable host path original fresh state →
      (admitted allowed).wp (Kept host path original fresh) (ask op)
        (fun _ => Replaceable host path original fresh) state :=
    fun op quiet state held => wp_spared (Call.Quiet.spares quiet) held fun _ _ _ next => next
  have directories : (admitted allowed).wp (Kept host path original fresh)
      (attempt (ask .createDirAll)).run
      (outcome (fun _ => Replaceable host path original fresh)
        (fun _ => Replaceable host path original fresh)) before :=
    wp_either (wp_attempt (quiet .createDirAll (fun _ => id) before held))
  refine wp_try directories fun _ created held => ?_
  refine wp_try (wp_always (quiet .processId (fun _ => id) created held)) fun pid state held => ?_
  refine wp_try (wp_always (quiet .fetchSequence (fun _ => id) state held))
    fun sequence state held => ?_
  refine wp_try (wp_onError (writeTemporary_wp pid sequence text held) fun error state held =>
    wp_replaceable (removeQuietly_spares pid sequence) held) fun _ state facts => ?_
  have moving : (admitted allowed).wp (Kept host path original fresh)
      (attempt (fileCall (.rename (temporaryName path pid sequence) path))).run
      (outcome (fun _ => Replaceable host path original fresh)
        (fun _ => Replaceable host path original fresh)) state :=
    wp_either (wp_attempt (renameTemporary_wp pid sequence isFresh facts.1 facts.2))
  exact wp_onError moving fun error state held =>
    wp_replaceable (removeQuietly_spares pid sequence) held

/-- A call that writes no file. -/
theorem wp_look {op : Call} (quiet : ∀ name, ¬ op.Writes name)
    (same : before.files path = original) :
    (admitted allowed).wp (Kept host path original fresh) (ask op)
      (fun _ after => after.files path = original) before :=
  wp_untouched (Program.only_ask.mpr (quiet path)) same

theorem removeBackup_wp {name : String} (isBackup : startsWith name (backupPrefix path) = true)
    (same : before.files path = original) :
    (admitted allowed).wp (Kept host path original fresh) (removeQuietly name)
      (fun _ after => after.files path = original) before := by
  have apart : ¬ (Call.file (.removeFile name)).Writes path :=
    fun same => backup_apart isBackup same.symm
  exact wp_seq (wp_untouched (Program.only_ask.mpr apart) same) fun _ _ held => held

/-- The file was not touched, and these are names of backups. -/
def BackupsOf (path : String) (original : Option Bytes) (names : List String) (store : Store) :
    Prop :=
  store.files path = original ∧ ∀ name ∈ names, startsWith name (backupPrefix path) = true

theorem backupsOf_cons {name : String} {rest : List String} {store : Store} :
    BackupsOf path original (name :: rest) store ↔
      startsWith name (backupPrefix path) = true ∧ BackupsOf path original rest store := by
  simp only [BackupsOf, List.forall_mem_cons]
  exact and_left_comm

theorem dropExpired_wp (instant : Nat) {names : List String}
    (backups : BackupsOf path original names before) :
    (admitted allowed).wp (Kept host path original fresh) (dropExpired instant names)
      (BackupsOf path original) before := by
  induction names generalizing before with
  | nil => exact backups
  | cons name rest ih =>
      obtain ⟨isBackup, others⟩ := backupsOf_cons.mp backups
      simp only [dropExpired]
      split
      · exact wp_seq (removeBackup_wp isBackup backups.1) fun _ after same => ih ⟨same, others.2⟩
      · exact wp_seq (ih others) fun kept after held => backupsOf_cons.mpr ⟨isBackup, held⟩

theorem dateBackups_wp {names : List String} (backups : BackupsOf path original names before) :
    (admitted allowed).wp (Kept host path original fresh) (dateBackups names)
      (fun dated => BackupsOf path original (dated.map Prod.snd)) before := by
  induction names generalizing before with
  | nil => exact backups
  | cons name rest ih =>
      obtain ⟨isBackup, others⟩ := backupsOf_cons.mp backups
      refine wp_seq (wp_look (fun _ => id) backups.1) fun modified after same => ?_
      exact wp_seq (ih ⟨same, others.2⟩) fun dated after held =>
        backupsOf_cons.mpr ⟨isBackup, held⟩

theorem removeBackups_wp {dated : List (WithBot Nat × String)}
    (backups : BackupsOf path original (dated.map Prod.snd) before) :
    (admitted allowed).wp (Kept host path original fresh)
      (Program.forEach (fun backup => removeQuietly backup.2) dated)
      (fun _ after => after.files path = original) before := by
  induction dated generalizing before with
  | nil => exact backups.1
  | cons backup rest ih =>
      obtain ⟨isBackup, others⟩ := backupsOf_cons.mp backups
      exact wp_seq (removeBackup_wp isBackup backups.1) fun _ after same => ih ⟨same, others.2⟩

/-- The clean-up only removes backups. -/
theorem cleanupBrokenBackups_wp (same : before.files path = original) :
    (admitted allowed).wp (Kept host path original fresh) (cleanupBrokenBackups path)
      (fun _ after => after.files path = original) before := by
  refine wp_seq (wp_look (fun _ => id) same) fun instant state same => ?_
  refine wp_seq (wp_look (fun _ => id) same) fun entries state same => ?_
  have backups : BackupsOf path original
      (entries.filter fun name => startsWith name (backupPrefix path)) state :=
    ⟨same, fun name member => (List.mem_filter.mp member).2⟩
  refine wp_seq (dropExpired_wp instant backups) fun kept state held => ?_
  refine wp_seq (dateBackups_wp held) fun dated state held => ?_
  refine removeBackups_wp ⟨held.1, fun name member => held.2 name ?_⟩
  obtain ⟨backup, taken, rfl⟩ := List.mem_map.mp member
  exact List.mem_map_of_mem ((List.mem_insertionSort _).mp (List.mem_of_mem_take taken))

theorem copyBackup_wp {backup : String} {bytes : Bytes} (isOriginal : original = some bytes)
    (isBackup : startsWith backup (backupPrefix path) = true)
    (same : before.files path = original) :
    (admitted allowed).wp (Kept host path original fresh) (copyBackup path backup).run
      (outcome
        (fun _ after => after.files path = original ∧ after.files backup = some bytes ∧
          after.synced backup)
        (fun _ after => after.files path = original)) before := by
  have apart : ¬ path = backup := (backup_apart isBackup).symm
  have single : ∀ op : Call, (¬ op.Writes path) → ∀ post : op.Answer → Store → Prop,
      ∀ state, state.files path = original →
      (∀ answer after, directory.step op state answer after → after.files path = original →
        post answer after) →
      (admitted allowed).wp (Kept host path original fresh) (ask op) post state := by
    intro op untouched post state same holds
    refine wp_ask (fun seen torn => Kept.untouched ((torn_files torn untouched).trans same)) ?_
    intro answer after step
    have still := (step_files step.2 untouched).trans same
    exact ⟨Kept.untouched still, holds answer after step.2 still⟩
  have opening : (admitted allowed).wp (Kept host path original fresh)
      (attempt (fileCall (.openRead path))).run
      (outcome (fun _ after => after.files path = original)
        (fun _ after => after.files path = original)) before :=
    wp_either (wp_attempt (wp_look (fun _ => id) same))
  have creating : ∀ state, state.files path = original →
      (admitted allowed).wp (Kept host path original fresh)
        (attempt (fileCall (.createNew backup))).run
        (outcome (fun _ after => after.files path = original)
          (fun _ after => after.files path = original)) state := by
    intro state same
    exact wp_either (wp_attempt
      (single (.file (.createNew backup)) apart _ state same fun _ _ _ still => still))
  have copying : ∀ state, state.files path = original →
      (admitted allowed).wp (Kept host path original fresh)
        (attempt (fileCall (.copy path backup))).run
        (outcome (fun _ after => after.files path = original ∧ after.files backup = some bytes)
          (fun _ after => after.files path = original)) state := by
    intro state same
    refine wp_attempt (single (.file (.copy path backup)) apart _ state same
      fun answer after step still => ?_)
    cases answer with
    | error error => exact still
    | ok value =>
        obtain ⟨copied, reads, holds⟩ := fileStep_copy step.2 id
        have source : state.files path = some copied := reads.resolve_left id
        rw [same, isOriginal] at source
        exact ⟨still, Option.some.inj source ▸ holds⟩
  refine wp_try opening fun _ state same => ?_
  refine wp_try (creating state same) fun _ state same => ?_
  refine wp_try (copying state same) fun _ state facts => ?_
  refine wp_attempt (single _ id _ state facts.1 fun answer after step still => ?_)
  cases answer with
  | error error => exact still
  | ok value =>
      refine ⟨still, (step_files step id).trans facts.2, ?_⟩
      rw [step.1]
      exact Or.inr rfl

/-- Either the backup is complete, or the warning says that the original stays. -/
theorem backupBroken_wp {bytes : Bytes} (label reason : String) (isOriginal : original = some bytes)
    (decodes : decode bytes ≠ none) (same : before.files path = original) :
    (admitted allowed).wp (Kept host path original fresh) (backupBroken host path label reason)
      (fun result after => after.files path = original ∧
        (result.1 = true → Backed host path original after) ∧
        (result.1 = false → alarming result.2 = true)) before := by
  refine wp_seq (wp_look (fun _ => id) same) fun stamp state same => ?_
  refine wp_seq (wp_look (fun _ => id) same) fun pid state same => ?_
  refine wp_seq (wp_look (fun _ => id) same) fun sequence state same => ?_
  have isBackup := backupName_is_backup path pid sequence stamp
  refine wp_seq (copyBackup_wp isOriginal isBackup same) fun result after facts => ?_
  cases result with
  | ok value =>
      refine ⟨facts.1, fun _ held isHeld unread => ?_, fun failed => (nomatch failed)⟩
      obtain rfl := Option.some.inj (isOriginal.symm.trans isHeld)
      exact ⟨decodes, _, isBackup, facts.2⟩
  | error error =>
      refine ⟨facts, fun done => (nomatch done), fun _ => ?_⟩
      rw [alarming, Bool.or_eq_true]
      exact Or.inl (containsText_append _ (by decide))

/-- What a load leaves: without an alarming warning, a file that may be replaced. -/
def Loaded (host : Host) (path : String) (original : Option Bytes) (fresh : String → Prop)
    (warnings : List String) (store : Store) : Prop :=
  Kept host path original fresh store ∧
    (warnings.any alarming = false → Replaceable host path original fresh store)

theorem healBroken_wp {bytes : Bytes} {label : String} (reason : String)
    (isOriginal : original = some bytes) (decodes : decode bytes ≠ none)
    (isFresh : fresh (defaultText host label ++ "\n")) (same : before.files path = original) :
    (admitted allowed).wp (Kept host path original fresh) (healBroken host path label reason)
      (fun result => Loaded host path original fresh result.2) before := by
  refine wp_seq (backupBroken_wp label reason isOriginal decodes same) fun result state facts => ?_
  obtain ⟨backedUp, warning⟩ := result
  obtain ⟨same, backed, alarmed⟩ := facts
  cases backedUp with
  | false =>
      have alarm : alarming warning = true := alarmed rfl
      exact ⟨Kept.untouched same, fun quiet => by simp [alarm] at quiet⟩
  | true =>
      have held : Replaceable host path original fresh state := ⟨Or.inl same, backed rfl⟩
      have healing : (admitted allowed).wp (Kept host path original fresh)
          (healDefault host path label) (fun _ => Replaceable host path original fresh) state := by
        refine wp_seq (atomicWrite_wp isFresh held) fun result after held => ?_
        cases result <;> exact held
      exact wp_seq healing fun healed after held => ⟨held.kept, fun _ => held⟩

theorem readToString_wp (same : before.files path = original) :
    (admitted allowed).wp (Kept host path original fresh) (readToString path)
      (fun result after => after.files path = original ∧ ∀ text, result = .ok text →
        ∃ bytes, original = some bytes ∧ decode bytes = some text) before := by
  have reading : (admitted allowed).wp (Kept host path original fresh) (fileCall (.read path))
      (fun answer after => after.files path = original ∧ ∀ bytes, answer = Except.ok bytes →
        original = some bytes) before := by
    refine wp_ask (fun seen torn => torn.2.elim) fun answer after step => ?_
    have still : after.files path = original := (step_files step.2 id).trans same
    refine ⟨Kept.untouched still, still, ?_⟩
    rintro bytes rfl
    have source : before.files path = some bytes := (fileStep_read step.2.2).resolve_left id
    rw [← source, same]
  refine wp_seq reading fun answer after facts => ?_
  cases answer with
  | error error => exact ⟨facts.1, fun _ failed => (nomatch failed)⟩
  | ok bytes =>
      cases decodes : decode bytes with
      | none =>
          simp only [decodes]
          exact ⟨facts.1, fun _ failed => (nomatch failed)⟩
      | some text =>
          simp only [decodes]
          refine ⟨facts.1, fun other same => ⟨bytes, facts.2 bytes rfl, ?_⟩⟩
          rw [decodes, Except.ok.inj same]

/-- The probe for the file says no only when nothing unreadable is there. A probe that is
refused would be taken for a missing file. -/
def HonestProbe (host : Host) (path : String) (op : Call) (before : Store) (answer : op.Answer) :
    Prop :=
  match op, answer with
  | .file (.isFile name), false => name = path →
      ∀ bytes, before.files path = some bytes → readObject host bytes ≠ none
  | _, _ => True

theorem replaceable_of_read (same : before.files path = original)
    (read : ∀ bytes, original = some bytes → readObject host bytes ≠ none) :
    Replaceable host path original fresh before where
  whole := Or.inl same
  backed bytes isOriginal unread := absurd unread (read bytes isOriginal)

theorem loadJsonValueUnlocked_wp {label : String}
    (isFresh : fresh (defaultText host label ++ "\n")) (same : before.files path = original) :
    (admitted allowed).wp (Kept host path original fresh) (loadJsonValueUnlocked host path label)
      (fun result after => Kept host path original fresh after ∧
        ((∀ op state answer, allowed op state answer → HonestProbe host path op state answer) →
          Loaded host path original fresh result.2 after)) before := by
  refine wp_seq (cleanupBrokenBackups_wp same) fun _ state same => ?_
  have probing : (admitted allowed).wp (Kept host path original fresh) (fileCall (.isFile path))
      (fun answer after => after.files path = original ∧
        allowed (.file (.isFile path)) state answer) state := by
    refine wp_ask (fun seen torn => torn.2.elim) fun answer after step => ?_
    have still : after.files path = original := (step_files step.2 id).trans same
    exact ⟨Kept.untouched still, still, step.1⟩
  refine wp_seq probing fun regular after facts => ?_
  obtain ⟨still, admits⟩ := facts
  cases regular with
  | false =>
      refine ⟨Kept.untouched still, fun honest => ⟨Kept.untouched still, fun _ => ?_⟩⟩
      exact replaceable_of_read still (same ▸ honest _ _ _ admits rfl)
  | true =>
      refine wp_seq (readToString_wp still) fun result after facts => ?_
      obtain ⟨still, texts⟩ := facts
      cases result with
      | error error =>
          have alarm : alarming s!"{label} 읽기 실패: {error.text}" = true := by
            rw [alarming, Bool.or_eq_true]
            exact Or.inr (containsText_append_left _ (containsText_append _ (by decide)))
          refine ⟨Kept.untouched still, fun _ => ⟨Kept.untouched still, fun quiet => ?_⟩⟩
          simp [alarm] at quiet
      | ok text =>
          obtain ⟨bytes, isOriginal, decodes⟩ := texts text rfl
          have heals : ∀ reason, (admitted allowed).wp (Kept host path original fresh)
              (healBroken host path label reason)
              (fun result after => Kept host path original fresh after ∧
                ((∀ op state answer, allowed op state answer →
                    HonestProbe host path op state answer) →
                  Loaded host path original fresh result.2 after)) after := by
            intro reason
            have decoded : decode bytes ≠ none := by simp [decodes]
            exact wp_mono (healBroken_wp reason isOriginal decoded isFresh still)
              fun _ _ held => ⟨held.1, fun _ => held⟩
          dsimp only
          split
          · rename_i fields parsed
            have read : readObject host bytes = some fields := by
              simp only [readObject, decodes, Option.bind_some, parsed]
            refine ⟨Kept.untouched still, fun _ => ⟨Kept.untouched still, fun _ => ?_⟩⟩
            refine replaceable_of_read still fun other isOther => ?_
            obtain rfl := Option.some.inj (isOriginal.symm.trans isOther)
            rw [read]
            exact Option.some_ne_none fields
          · exact heals _
          · exact heals _

theorem updateSettingsUnlocked_wp {fallback : AppSettings} {change : AppSettings → AppSettings}
    (honest : ∀ op state answer, allowed op state answer → HonestProbe host path op state answer)
    (isDefault : fresh (defaultText host settingsLabel ++ "\n"))
    (isFresh : ∀ settings, fresh (host.printSettings (change settings) ++ "\n"))
    (same : before.files path = original) :
    (admitted allowed).wp (Kept host path original fresh)
      (updateSettingsUnlocked host path fallback change).run
      (fun _ => Kept host path original fresh) before := by
  have whole : (admitted allowed).wp (Kept host path original fresh)
      (updateSettingsUnlocked host path fallback change).run
      (outcome (fun _ => Kept host path original fresh) (fun _ => Kept host path original fresh))
      before := by
    refine wp_try (wp_always (loadJsonValueUnlocked_wp isDefault same)) fun loaded state facts => ?_
    obtain ⟨value, warnings⟩ := loaded
    obtain ⟨kept, replaceable⟩ := facts.2 honest
    have checking : (admitted allowed).wp (Kept host path original fresh)
        (require (!warnings.any alarming)
          { rawOsError := none, text := "; ".intercalate warnings } : ConfigE Unit).run
        (outcome (fun _ => Replaceable host path original fresh)
          (fun _ => Kept host path original fresh)) state :=
      wp_require (fun quiet => replaceable (by simpa using quiet)) fun _ => kept
    refine wp_try checking fun _ state held => ?_
    have saving : (admitted allowed).wp (Kept host path original fresh)
        (saveSettingsUnlocked host path
          (change (mergeTypedSettings fallback value settingsLabel).1)).run
        (outcome (fun _ => Kept host path original fresh)
          (fun _ => Kept host path original fresh)) state := by
      refine wp_mono (atomicWrite_wp (isFresh _) held) fun result after held => ?_
      cases result <;> exact held.kept
    exact wp_try saving fun _ after held => held
  refine wp_mono whole fun result after held => ?_
  cases result <;> exact held

/-- What the file and its backups must be at every instant: the file is whole, and bytes
that cannot be read as an object are never gone without a synced copy of them. -/
structure NeverLost (host : Host) (path : String) (start : Store) (fresh : String → Prop)
    (seen : Store) : Prop where
  /-- The old bytes, or a complete text that replaces them. -/
  whole : seen.files path = start.files path ∨
    ∃ text, fresh text ∧ seen.files path = some (encode text)
  /-- Bytes that are no object only go when a synced backup holds them. -/
  backed : ∀ bytes, start.files path = some bytes → readObject host bytes = none →
    seen.files path ≠ some bytes → ∃ backup, backup ≠ path ∧
      startsWith backup (backupPrefix path) = true ∧ seen.files backup = some bytes ∧
      seen.synced backup
  /-- Bytes that are no text stay. -/
  unreadable : ∀ bytes, start.files path = some bytes → decode bytes = none →
    seen.files path = some bytes

theorem Kept.neverLost {start seen : Store}
    (kept : Kept host path (start.files path) fresh seen) :
    NeverLost host path start fresh seen where
  whole := kept.whole
  backed := by
    intro bytes isOriginal unread changed
    obtain ⟨_, backup, isBackup, facts⟩ :=
      kept.backed (isOriginal ▸ changed) bytes isOriginal unread
    exact ⟨backup, backup_apart isBackup, isBackup, facts⟩
  unreadable := by
    intro bytes isOriginal undecoded
    by_contra changed
    have unread : readObject host bytes = none := by
      simp [readObject, undecoded]
    exact (kept.backed (isOriginal ▸ changed) bytes isOriginal unread).1 undecoded

theorem Kept.step {op : Call} {answer : op.Answer} (kept : Kept host path original fresh before)
    (quiet : ∀ name, ¬ op.Writes name) (step : directory.step op before answer after) :
    Kept host path original fresh after where
  whole := by
    rw [Whole, step_files step (quiet path)]
    exact kept.whole
  backed changed := by
    rw [step_files step (quiet path)] at changed
    exact (kept.backed changed).transfer (fun name _ => step_files step (quiet name))
      (fun name _ => step_synced step (quiet name))

theorem Kept.torn {op : Call} (kept : Kept host path original fresh before)
    (quiet : ∀ name, ¬ op.Writes name) (torn : directory.torn op before after) :
    Kept host path original fresh after where
  whole := by
    rw [Whole, torn_files torn (quiet path)]
    exact kept.whole
  backed changed := by
    rw [torn_files torn (quiet path)] at changed
    exact (kept.backed changed).transfer (fun name _ => torn_files torn (quiet name))
      (fun name _ => torn_synced torn (quiet name))

theorem finishSettings_quiet (path : String) (value : Json) (warnings : List String) :
    (finishSettings path value warnings).Only fun op => ∀ name, ¬ op.Writes name := by
  have probing : (settingsAbsent path value).Only fun op => ∀ name, ¬ op.Writes name := by
    unfold settingsAbsent
    split
    · trivial
    · exact (Program.only_ask.mpr fun _ => id).bind fun _ => trivial
    · trivial
  refine probing.bind fun absent => ?_
  cases absent <;> trivial

/-- A load without the lock reads nothing, and one under the lock keeps the file. -/
theorem loadJsonValue_wp {label : String} (isFresh : fresh (defaultText host label ++ "\n"))
    (same : before.files path = original) :
    (alone IoError directory).wp (Kept host path original fresh) (loadJsonValue host path label)
      (fun _ => Kept host path original fresh) before := by
  refine wp_critical (Kept.untouched same) (fun _ _ held => held)
    (fun _ => Kept.untouched same) ?_
  have holds : (admitted fun _ _ _ => True).wp (Kept host path original fresh)
      (loadJsonValueUnlocked host path label) (fun _ => Kept host path original fresh) before :=
    wp_mono (loadJsonValueUnlocked_wp isFresh same) fun _ _ held => held.1
  exact wp_of_answering (fun _ _ _ => trivial) holds

def DefaultText (host : Host) (label text : String) : Prop := text = defaultText host label ++ "\n"

/-- What an update may put in the place of the file. -/
def SavedText (host : Host) (change : AppSettings → AppSettings) (text : String) : Prop :=
  DefaultText host settingsLabel text ∨
    ∃ settings, text = host.printSettings (change settings) ++ "\n"

/-- A store in which this process has synced nothing yet. -/
def Store.unsynced (files : Files String) : Store := ⟨files, fun _ => False⟩

/-- Loads and updates never lose the text of the file; an update does so as long as
the probe before it is honest. -/
theorem configuration_never_lost (host : Host) (path : String) (files : Files String) :
    (∀ seen, (alone IoError directory).Observes (loadSettings host path) (.unsynced files) seen →
      NeverLost host path (.unsynced files) (DefaultText host settingsLabel) seen) ∧
    (∀ (α : Type) (finish : Json → List String → α) (seen : Store),
      (alone IoError directory).Observes (loadRules host path finish) (.unsynced files) seen →
        NeverLost host path (.unsynced files) (DefaultText host rulesLabel) seen) ∧
    ∀ (fallback : AppSettings) (change : AppSettings → AppSettings) (seen : Store),
      (alone IoError (directory.answering (HonestProbe host path))).Observes
          (updateSettings host path fallback change) (.unsynced files) seen →
        NeverLost host path (.unsynced files) (SavedText host change) seen := by
  have initially : ∀ fresh, Kept host path (files path) fresh (.unsynced files) :=
    fun _ => Kept.untouched rfl
  refine ⟨?_, ?_, ?_⟩
  · intro seen observed
    have holds : (alone IoError directory).wp
        (Kept host path (files path) (DefaultText host settingsLabel)) (loadSettings host path)
        (fun _ _ => True) (.unsynced files) := by
      refine wp_seq (loadJsonValue_wp rfl rfl) fun loaded after kept => ?_
      have finishing : directory.wp (Kept host path (files path) (DefaultText host settingsLabel))
          (finishSettings path loaded.1 loaded.2)
          (fun _ => Kept host path (files path) (DefaultText host settingsLabel)) after :=
        wp_of_step (finishSettings_quiet path loaded.1 loaded.2)
          (fun _ _ _ quiet held torn => held.torn quiet torn)
          (fun _ _ _ _ quiet held step => held.step quiet step) (fun _ held => held) kept
      exact wp_inLock (wp_mono finishing fun _ _ _ => trivial)
    exact Kept.neverLost (wp_observes holds (initially _) observed)
  · intro α finish seen observed
    have holds : (alone IoError directory).wp
        (Kept host path (files path) (DefaultText host rulesLabel)) (loadRules host path finish)
        (fun _ _ => True) (.unsynced files) :=
      wp_seq (loadJsonValue_wp rfl rfl) fun _ _ _ => trivial
    exact Kept.neverLost (wp_observes holds (initially _) observed)
  · intro fallback change seen observed
    have holds : (alone IoError (directory.answering (HonestProbe host path))).wp
        (Kept host path (files path) (SavedText host change))
        (updateSettings host path fallback change)
        (fun _ => Kept host path (files path) (SavedText host change)) (.unsynced files) :=
      wp_critical (initially _) (fun _ _ held => held) (fun _ => initially _)
        (updateSettingsUnlocked_wp (fun _ _ _ honest => honest) (Or.inl rfl)
          (fun settings => Or.inr ⟨settings, rfl⟩) rfl)
    exact Kept.neverLost (wp_observes holds (initially _) observed)

-- A probe that fails makes an update write over a file it has not read.

/-- A value as the text of a settings file has it. -/
def printValue : Json → String
  | .bool value => toString value
  | .number value => toString value
  | .string text => s!"\"{text}\""
  | _ => "null"

/-- `serde_json::to_string_pretty` of settings whose text needs no escapes. -/
def printPretty (settings : AppSettings) : String :=
  "\x7b\n" ++ ",\n".intercalate
    (settings.fields.map fun entry => s!"  \"{entry.1}\": {printValue entry.2}") ++ "\n\x7d"

/-- A parser that reads what was printed of some settings. -/
def readingHost (known : List AppSettings) : Host where
  parse text := (known.find? fun settings => text == printPretty settings ++ "\n").map
    fun settings => .object settings.fields
  printSettings := printPretty
  defaultRules := "\x7b\x7d"
  display path := path

/-- `settings.json` holds an opening brace and nothing more. -/
def brokenFiles : Files String := fun name => if name = "settings.json" then some [0x7B] else none

theorem brokenFiles_overwritten :
    ∃ seen, (alone IoError directory).Observes
        (updateSettings (readingHost [{}]) "settings.json" {} id) (.unsynced brokenFiles) seen ∧
      ¬ NeverLost (readingHost [{}]) "settings.json" (.unsynced brokenFiles)
        (SavedText (readingHost [{}]) id) seen := by
  have unused : brokenFiles (temporaryName "settings.json" 0 0) = none :=
    if_neg (temporary_apart "settings.json" 0 0)
  obtain ⟨loaded, loads, same⟩ := load_missing_runs (readingHost [{}]) (.unsynced brokenFiles)
    "settings.json" settingsLabel
  obtain ⟨saved, saves, replaced⟩ := update_runs {} id (fun _ _ _ _ => trivial) loads same unused
  refine ⟨saved, (runs_critical (runs_of_answering saves)).observes, fun kept => ?_⟩
  have changed : saved.files "settings.json" ≠ some [0x7B] := by
    rw [replaced, Function.update_self]
    decide +kernel
  have unread : readObject (readingHost [{}]) [0x7B] = none := by decide +kernel
  obtain ⟨backup, apart, _, holds, _⟩ := kept.backed [0x7B] rfl unread changed
  rw [replaced, Function.update_of_ne apart] at holds
  have absent : brokenFiles backup = none := if_neg apart
  exact Option.some_ne_none _ (holds.symm.trans absent)

end LayoutAdblock.Config
