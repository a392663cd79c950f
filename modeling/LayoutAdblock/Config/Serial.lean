import LayoutAdblock.Config.Recorded

namespace LayoutAdblock.Config

open LayoutAdblock.Core Data Interaction Interaction.Fallible Environment

/-! # Updates from several processes

Every update takes the settings from the file under the lock, so whatever order
the processes come in, none works on a copy that another has made stale.
-/

variable {host : Host} {path : String} {allowed : (op : Call) → Store → op.Answer → Prop}
  {before : Store} {bytes : Bytes} {entries : List (String × Json)}

/-- The probe for the file says no only when the file is missing. -/
def FindsFile (path : String) (op : Call) (before : Store) (answer : op.Answer) : Prop :=
  match op, answer with
  | .file (.isFile name), false => name = path → before.files path = none
  | _, _ => True

theorem Healthy.findsFile {op : Call} {answer : op.Answer} (healthy : Healthy op before answer) :
    FindsFile path op before answer := by
  unfold FindsFile
  split
  · rename_i name
    have probed : false = (before.files name).isSome := healthy
    rintro rfl
    exact Option.isNone_iff_eq_none.mp (Option.isSome_eq_false_iff.mp probed.symm)
  · trivial

/-- Nothing has touched the file, whose bytes can be read. -/
abbrev Untouched (host : Host) (path : String) (original : Option Bytes) : Store → Prop :=
  Replaceable host path original fun _ => False

theorem Replaceable.untouched {original : Option Bytes}
    (held : Untouched host path original before) : before.files path = original := by
  cases held.whole with
  | inl same => exact same
  | inr fresh =>
      obtain ⟨text, impossible, _⟩ := fresh
      exact impossible.elim

theorem untouched_of_read (holds : before.files path = some bytes)
    (reads : readObject host bytes = some entries) : Untouched host path (some bytes) before := by
  refine replaceable_of_read holds fun other same => ?_
  rw [← Option.some.inj same, reads]
  exact Option.some_ne_none entries

theorem atomicWrite_ensures {original : Option Bytes} (text : String)
    (held : Untouched host path original before) :
    (admitted allowed).ensures (atomicWrite path text).run
      (outcome (fun _ after => after.files path = some (encode text))
        (fun _ after => after.files path = original)) before := by
  have onRecord := atomicWrite_recorded path text ⟨before, []⟩
  refine wp_answering (ensures_recorded.mp (ensures_mono onRecord fun result after ends => ?_))
  cases result with
  | ok value => exact ends.1
  | error error => exact ends.files.trans held.untouched

def ReadFails (path : String) (allowed : (op : Call) → Store → op.Answer → Prop) : Prop :=
  ∃ (state : Store) (error : IoError),
    allowed (.file (.read path)) state (Except.error error : Except IoError Bytes)

theorem readToString_ensures {text : String} (holds : before.files path = some bytes)
    (decodes : decode bytes = some text) :
    (admitted allowed).ensures (readToString path)
      (fun result after => after.files path = some bytes ∧
        (result = .ok text ∨ ∃ error, result = .error error ∧ ReadFails path allowed)) before := by
  have reading : (admitted allowed).ensures (fileCall (.read path))
      (fun answer after => after.files path = some bytes ∧
        (answer = Except.ok bytes ∨ ∃ error, answer = Except.error error ∧
          ReadFails path allowed)) before := by
    refine wp_ask (fun _ _ => trivial) fun answer after step => ⟨trivial, ?_, ?_⟩
    · exact (step_files step.2 id).trans holds
    · cases answer with
      | error error => exact Or.inr ⟨error, rfl, before, error, step.1⟩
      | ok read =>
          have source : before.files path = some read :=
            (fileStep_read step.2.2).resolve_left id
          exact Or.inl (congrArg Except.ok (Option.some.inj (source.symm.trans holds)))
  refine wp_seq reading fun answer after facts => ?_
  obtain ⟨same, answers⟩ := facts
  cases answers with
  | inl read =>
      subst read
      simp only [decodes]
      exact ⟨same, Or.inl rfl⟩
  | inr failed =>
      obtain ⟨error, rfl, fails⟩ := failed
      exact ⟨same, Or.inr ⟨error, rfl, fails⟩⟩

/-- A load that finds an object returns it, or warns that it could not read. -/
theorem loadJsonValueUnlocked_ensures (label : String)
    (finds : ∀ op state answer, allowed op state answer → FindsFile path op state answer)
    (holds : before.files path = some bytes) (reads : readObject host bytes = some entries) :
    (admitted allowed).ensures (loadJsonValueUnlocked host path label)
      (fun result after => after.files path = some bytes ∧
        (result = (.object entries, []) ∨
          result.2.any alarming = true ∧ ReadFails path allowed)) before := by
  obtain ⟨text, decodes, parses⟩ : ∃ text, decode bytes = some text ∧
      host.parse (stripBom text) = some (.object entries) := by
    simp only [readObject] at reads
    split at reads
    · rename_i fields found
      obtain ⟨text, decodes, parses⟩ := Option.bind_eq_some_iff.mp found
      exact ⟨text, decodes, by rw [parses, Option.some.inj reads]⟩
    · cases reads
  have cleaning : (admitted allowed).ensures (cleanupBrokenBackups path)
      (fun _ after => after.files path = some bytes) before := by
    have kept : (admitted allowed).wp (Kept host path (some bytes) fun _ => False)
        (cleanupBrokenBackups path) (fun _ after => after.files path = some bytes) before :=
      cleanupBrokenBackups_wp holds
    exact wp_weaken kept fun _ _ => trivial
  refine wp_seq cleaning fun _ state same => ?_
  have probing : (admitted allowed).ensures (fileCall (.isFile path))
      (fun answer after => after.files path = some bytes ∧ answer = true) state := by
    refine wp_ask (fun _ _ => trivial) fun answer after step => ⟨trivial, ?_, ?_⟩
    · exact (step_files step.2 id).trans same
    · cases answer with
      | true => rfl
      | false =>
          have missing := finds _ _ _ step.1 rfl
          rw [same] at missing
          cases missing
  refine wp_seq probing fun regular after facts => ?_
  obtain ⟨still, rfl⟩ := facts
  refine wp_seq (readToString_ensures still decodes) fun result last facts => ?_
  obtain ⟨still, ends⟩ := facts
  cases ends with
  | inl read =>
      subst read
      dsimp only
      rw [parses]
      exact ⟨still, Or.inl rfl⟩
  | inr failed =>
      obtain ⟨error, rfl, fails⟩ := failed
      have alarm : alarming s!"{label} 읽기 실패: {error.text}" = true := by
        rw [alarming, Bool.or_eq_true]
        exact Or.inr (containsText_append_left _ (containsText_append _ (by decide)))
      exact ⟨still, Or.inr ⟨by simp [alarm], fails⟩⟩

/-- An update that succeeds has saved the changed settings of the file; one that
fails has left the file alone. -/
theorem updateSettingsUnlocked_ensures (fallback : AppSettings)
    (change : AppSettings → AppSettings)
    (finds : ∀ op state answer, allowed op state answer → FindsFile path op state answer)
    (holds : before.files path = some bytes) (reads : readObject host bytes = some entries) :
    (admitted allowed).ensures (updateSettingsUnlocked host path fallback change).run
      (outcome
        (fun settings after =>
          settings = change (mergeTypedSettings fallback (.object entries) settingsLabel).1 ∧
            after.files path = some (encode (host.printSettings settings ++ "\n")))
        (fun _ after => after.files path = some bytes)) before := by
  refine wp_try (wp_always (loadJsonValueUnlocked_ensures settingsLabel finds holds reads))
    fun loaded state facts => ?_
  obtain ⟨value, warnings⟩ := loaded
  obtain ⟨same, loads⟩ := facts
  have checking : (admitted allowed).ensures
      (require (!warnings.any alarming)
        { rawOsError := none, text := "; ".intercalate warnings } : ConfigE Unit).run
      (outcome (fun _ after => after.files path = some bytes ∧ value = .object entries)
        (fun _ after => after.files path = some bytes)) state := by
    refine wp_require (fun calm => ⟨same, ?_⟩) fun _ => same
    cases loads with
    | inl both => exact congrArg Prod.fst both
    | inr alarm => simp [alarm.1] at calm
  refine wp_try checking fun _ state facts => ?_
  obtain ⟨same, rfl⟩ := facts
  exact wp_try (atomicWrite_ensures _ (untouched_of_read same reads))
    fun _ after saved => ⟨rfl, saved⟩

/-- The lock is free, and the file can be read. -/
def Undisturbed : (op : LockCall Call) → Store → LockAnswer IoError Call.Answer op → Prop
  | .acquire, _, answer => answer = none
  | .release, _, _ => True
  | .inner op, before, answer => Healthy op before answer

/-- `load_settings`, when it can read the file, returns the settings and no
warnings. -/
def LoadsAs (host : Host) (path : String) (store : Store) (settings : AppSettings) : Prop :=
  (∃ after, ((alone IoError directory).answering Undisturbed).Runs (loadSettings host path) store
    (settings, []) after) ∧
  ∀ result after, ((alone IoError directory).answering Undisturbed).Runs (loadSettings host path)
    store result after → result = (settings, [])

theorem LoadsAs.unique {first second : AppSettings} (loads : LoadsAs host path before first)
    (others : LoadsAs host path before second) : first = second := by
  obtain ⟨after, run⟩ := loads.1
  exact congrArg Prod.fst (others.2 _ after run)

/-- `serde_json` reads back the settings it has written. -/
def RoundTrips (host : Host) (settings : AppSettings) : Prop :=
  host.parse (stripBom (host.printSettings settings ++ "\n")) = some (.object settings.fields)

theorem RoundTrips.reads {settings : AppSettings} (trips : RoundTrips host settings) :
    readObject host (encode (host.printSettings settings ++ "\n")) = some settings.fields := by
  have parses : host.parse (stripBom (host.printSettings settings ++ "\n")) =
      some (.object settings.fields) := trips
  simp only [readObject, decode_encode, Option.bind_some, parses]

theorem finishSettings_fields (path : String) (settings : AppSettings) :
    finishSettings path (.object settings.fields) [] = .done (settings, []) := by
  have merged := mergeTypedSettings_fields {} settings settingsLabel
  have present : settingsAbsent path (.object settings.fields) = .done false := rfl
  simp only [finishSettings, present, Program.done_bind, Bool.false_eq_true, if_false, merged]
  rfl

theorem loadsAs_saved {settings : AppSettings} (trips : RoundTrips host settings)
    (saved : before.files path = some (encode (host.printSettings settings ++ "\n"))) :
    LoadsAs host path before settings := by
  refine ⟨?_, fun result after run => ?_⟩
  · obtain ⟨loaded, loads, _⟩ := load_object_runs saved trips
    have locked : ((alone IoError directory).answering Undisturbed).Runs
        (loadJsonValue host path settingsLabel) before (.object settings.fields, []) loaded :=
      runs_critical_of (fun _ _ _ _ step => step) ⟨rfl, rfl⟩ ⟨trivial, rfl⟩ loads
    refine ⟨loaded, locked.bind ?_⟩
    simp only [finishSettings_fields]
    exact Runs.done
  have loading : (admitted Healthy).ensures
      (loadJsonValueUnlocked host path settingsLabel)
      (fun loaded _ => loaded = (.object settings.fields, [])) before := by
    refine wp_mono (loadJsonValueUnlocked_ensures settingsLabel
      (fun _ _ _ => Healthy.findsFile) saved trips.reads) ?_
    intro loaded last facts
    refine facts.2.resolve_right fun failed => ?_
    obtain ⟨_, _, _, bytes, impossible⟩ := failed
    cases impossible
  have locked : ((alone IoError directory).answering Undisturbed).ensures
      (loadJsonValue host path settingsLabel)
      (fun loaded _ => loaded = (.object settings.fields, [])) before := by
    refine ⟨fun _ _ => trivial, fun answer after step => ⟨trivial, ?_⟩⟩
    obtain ⟨free, same⟩ := step
    obtain rfl : answer = none := free
    obtain rfl : after = before := same
    have body : ((alone IoError directory).answering Undisturbed).ensures
        (inLock (loadJsonValueUnlocked host path settingsLabel))
        (fun loaded _ => loaded = (.object settings.fields, [])) after :=
      wp_inLock_of (fun _ _ _ _ step => step) (fun _ _ _ tears => tears) loading
    exact wp_seq body fun loaded last isLoaded =>
      ⟨fun _ _ => trivial, fun _ _ _ => ⟨trivial, isLoaded⟩⟩
  have holds : ((alone IoError directory).answering Undisturbed).ensures (loadSettings host path)
      (fun result _ => result = (settings, [])) before := by
    refine wp_seq locked fun loaded last isLoaded => ?_
    subst isLoaded
    simp only [finishSettings_fields]
    exact rfl
  have held := ensures_runs holds run
  exact held

/-- The settings of a file, with the fallback where a field is missing or has
the wrong type. -/
def wellTyped (entries : List (String × Json)) (fallback : AppSettings) : AppSettings :=
  AppSettings.withFields {} fun key =>
    match entries.lookup key with
    | some value =>
        if AppSettings.accepts key value then some value else fallback.fields.lookup key
    | none => fallback.fields.lookup key

theorem mergeTypedSettings_wellTyped (fallback : AppSettings) (label : String)
    (distinct : (entries.map Prod.fst).Nodup) :
    (mergeTypedSettings fallback (.object entries) label).1 = wellTyped entries fallback :=
  congrArg Prod.fst (RecordType.overlay_object _ fallback distinct)

section Order

variable {ι : Type} {start : ι → AppSettings} {change : ι → AppSettings → AppSettings}

/-- The settings after some changes, of which the first found the file as it was. -/
def applied (start : ι → AppSettings) (change : ι → AppSettings → AppSettings) :
    List ι → AppSettings
  | [] => {}
  | first :: rest =>
      (first :: rest).foldl (fun settings party => change party settings) (start first)

theorem applied_snoc {parties : List ι} (party : ι) (nonempty : parties ≠ []) :
    applied start change (parties ++ [party]) = change party (applied start change parties) := by
  cases parties with
  | nil => exact absurd rfl nonempty
  | cons first rest => simp [applied, List.foldl_append]

/-- The updates that succeeded, in their order, which is the order in which they held the
lock. -/
def commits : Crowd.History ι (Except IoError AppSettings) → List (ι × AppSettings)
  | [] => []
  | (party, .ok settings) :: rest => (party, settings) :: commits rest
  | (_, .error _) :: rest => commits rest

theorem commits_append (first second : Crowd.History ι (Except IoError AppSettings)) :
    commits (first ++ second) = commits first ++ commits second := by
  induction first with
  | nil => rfl
  | cons entry rest ih =>
      obtain ⟨party, result⟩ := entry
      cases result with
      | ok settings => simp only [List.cons_append, commits, ih]
      | error error => simp only [List.cons_append, commits, ih]

theorem mem_commits {history : Crowd.History ι (Except IoError AppSettings)} {party : ι}
    {settings : AppSettings} :
    (party, settings) ∈ commits history ↔ (party, Except.ok settings) ∈ history := by
  induction history with
  | nil => simp [commits]
  | cons entry rest ih =>
      obtain ⟨other, result⟩ := entry
      cases result with
      | ok value => simp [commits, ih]
      | error error => simp [commits, ih]

theorem commits_sublist (history : Crowd.History ι (Except IoError AppSettings)) :
    ((commits history).map Prod.fst).Sublist (history.map Prod.fst) := by
  induction history with
  | nil => exact List.Sublist.refl _
  | cons entry rest ih =>
      obtain ⟨party, result⟩ := entry
      cases result with
      | ok settings => exact ih.cons_cons party
      | error error => exact ih.cons party

/-- Every update has saved its change of what the one before it had saved. The first of them
starts from what was on the disk. -/
def Chained (start : ι → AppSettings) (change : ι → AppSettings → AppSettings)
    (committed : List (ι × AppSettings)) : Prop :=
  ∀ earlier commit later, committed = earlier ++ commit :: later →
    commit.2 = applied start change (earlier.map Prod.fst ++ [commit.1])

theorem Chained.snoc {committed : List (ι × AppSettings)} {party : ι} {settings : AppSettings}
    (chained : Chained start change committed)
    (last : settings = applied start change (committed.map Prod.fst ++ [party])) :
    Chained start change (committed ++ [(party, settings)]) := by
  intro earlier commit later split
  cases List.eq_nil_or_concat later with
  | inl none =>
      subst none
      obtain ⟨same, single⟩ := List.append_inj' split rfl
      obtain rfl := same
      rw [← List.singleton_inj.mp single]
      exact last
  | inr more =>
      obtain ⟨others, final, rfl⟩ := more
      rw [List.concat_eq_append, ← List.cons_append, ← List.append_assoc] at split
      exact chained earlier commit others (List.append_inj' split rfl).1

/-- What the last of some updates has saved. -/
theorem Chained.applied {committed : List (ι × AppSettings)}
    (chained : Chained start change committed) {last : ι × AppSettings}
    (isLast : committed.getLast? = some last) :
    last.2 = applied start change (committed.map Prod.fst) := by
  obtain ⟨earlier, rfl⟩ := List.getLast?_eq_some_iff.mp isLast
  have held := chained earlier last [] rfl
  simpa using held

end Order

section Updates

variable {ι : Type} {fallback : ι → AppSettings} {change : ι → AppSettings → AppSettings}
  {committed : List (ι × AppSettings)}

/-- What the file holds while no update is under way: its first bytes, or the settings that
the last committed update has saved, each update applied to those before it. -/
structure Settled (host : Host) (path : String) (bytes : Bytes) (start : ι → AppSettings)
    (change : ι → AppSettings → AppSettings) (committed : List (ι × AppSettings))
    (store : Store) : Prop where
  chained : Chained start change committed
  untouched : committed = [] → store.files path = some bytes
  saved : ∀ last, committed.getLast? = some last →
    store.files path = some (encode (host.printSettings last.2 ++ "\n"))

theorem Settled.transfer {start : ι → AppSettings} {after : Store}
    (settled : Settled host path bytes start change committed before)
    (same : after.files path = before.files path) :
    Settled host path bytes start change committed after where
  chained := settled.chained
  untouched none := same.trans (settled.untouched none)
  saved last isLast := same.trans (settled.saved last isLast)

/-- One more update, after those that were committed. -/
theorem update_settled (finds : ∀ op state answer, allowed op state answer →
      FindsFile path op state answer)
    (reads : readObject host bytes = some entries) (distinct : (entries.map Prod.fst).Nodup)
    (trips : ∀ commit ∈ committed, RoundTrips host commit.2) (party : ι)
    (settled : Settled host path bytes (fun party => wellTyped entries (fallback party)) change
      committed before) :
    (admitted allowed).ensures
      (updateSettingsUnlocked host path (fallback party) (change party)).run
      (outcome
        (fun settings => Settled host path bytes
          (fun party => wellTyped entries (fallback party)) change
          (committed ++ [(party, settings)]))
        (fun _ => Settled host path bytes (fun party => wellTyped entries (fallback party)) change
          committed)) before := by
  cases isLast : committed.getLast? with
  | none =>
      obtain rfl := List.getLast?_eq_none_iff.mp isLast
      have holds := settled.untouched rfl
      refine wp_outcome_mono (updateSettingsUnlocked_ensures (fallback party) (change party) finds
        holds reads) ?_ fun _ after same => settled.transfer (same.trans holds.symm)
      intro settings after facts
      obtain ⟨changed, saved⟩ := facts
      rw [mergeTypedSettings_wellTyped _ _ distinct] at changed
      refine ⟨settled.chained.snoc changed, fun none => by simp at none, fun last same => ?_⟩
      rw [List.getLast?_concat] at same
      rw [← Option.some.inj same]
      exact saved
  | some last =>
      have holds := settled.saved last isLast
      have trip := trips last (List.mem_of_getLast? isLast)
      refine wp_outcome_mono (updateSettingsUnlocked_ensures (fallback party) (change party) finds
        holds trip.reads) ?_ fun _ after same => settled.transfer (same.trans holds.symm)
      intro settings after facts
      obtain ⟨changed, saved⟩ := facts
      have nonempty : committed.map Prod.fst ≠ [] := by
        intro none
        simp [List.map_eq_nil_iff.mp none] at isLast
      have next : applied (fun party => wellTyped entries (fallback party)) change
          (committed.map Prod.fst ++ [party]) = change party last.2 := by
        rw [applied_snoc party nonempty, settled.chained.applied isLast]
      rw [mergeTypedSettings_fields] at changed
      refine ⟨settled.chained.snoc (changed.trans next.symm), fun none => by simp at none,
        fun final same => ?_⟩
      rw [List.getLast?_concat] at same
      rw [← Option.some.inj same]
      exact saved

variable [DecidableEq ι]

/-- All calls of several processes, each about to ask for the lock. -/
def callers (host : Host) (path : String) (fallback : ι → AppSettings)
    (change : ι → AppSettings → AppSettings) (store : Store) :
    Crowd Call Call.Answer IoError Store (Except IoError AppSettings) ι :=
  Crowd.opening store (fun _ => Except.error) fun party =>
    (updateSettingsUnlocked host path (fallback party) (change party)).run

def settledAfter (host : Host) (path : String) (bytes : Bytes) (start : ι → AppSettings)
    (change : ι → AppSettings → AppSettings)
    (history : Crowd.History ι (Except IoError AppSettings)) (store : Store) : Prop :=
  (∀ commit ∈ commits history, RoundTrips host commit.2) →
    Settled host path bytes start change (commits history) store

omit [DecidableEq ι] in
theorem settledAfter_nil {start : ι → AppSettings} (holds : before.files path = some bytes) :
    settledAfter host path bytes start change [] before := by
  intro _
  refine ⟨fun earlier commit later split => ?_, fun _ => holds, fun last none => (nomatch none)⟩
  exact absurd split (by simp [commits])

omit [DecidableEq ι] in
theorem update_settledAfter {history : Crowd.History ι (Except IoError AppSettings)}
    (reads : readObject host bytes = some entries) (distinct : (entries.map Prod.fst).Nodup)
    (party : ι)
    (settled : settledAfter host path bytes (fun party => wellTyped entries (fallback party)) change
      history before) :
    (directory.answering (FindsFile path)).ensures
      (updateSettingsUnlocked host path (fallback party) (change party)).run
      (fun value => settledAfter host path bytes
        (fun party => wellTyped entries (fallback party)) change (history ++ [(party, value)]))
      before := by
  by_cases trips : ∀ commit ∈ commits history, RoundTrips host commit.2
  · refine wp_mono (update_settled (fun _ _ _ finds => finds) reads distinct trips party
      (settled trips)) ?_
    intro result after facts _
    rw [commits_append]
    cases result with
    | ok settings => exact facts
    | error error =>
        have none : commits [(party, (Except.error error : Except IoError AppSettings))] = [] := rfl
        rw [none, List.append_nil]
        exact facts
  · refine ensures_mono ensures_trivial fun result after _ all => absurd ?_ trips
    intro commit member
    exact all commit (by rw [commits_append]; exact List.mem_append_left _ member)

/-- However the calls interleave, those that succeed come one after the other. -/
theorem updates_serializable {files : Files String}
    {crowd : Crowd Call Call.Answer IoError Store (Except IoError AppSettings) ι}
    (holds : files path = some bytes) (reads : readObject host bytes = some entries)
    (distinct : (entries.map Prod.fst).Nodup)
    (reach : Crowd.Reach (directory.answering (FindsFile path))
      (callers host path fallback change (.unsynced files)) crowd)
    (returned : ∀ party, ∃ result, crowd.parties party = .done result)
    (trips : ∀ party settings, crowd.parties party = .done (.ok settings) →
      RoundTrips host settings) :
    ∃ order : List ι, order.Nodup ∧
      (∀ party, party ∈ order ↔ ∃ settings, crowd.parties party = .done (.ok settings)) ∧
      (∀ earlier party later, order = earlier ++ party :: later →
        crowd.parties party = .done (.ok (applied
          (fun party => wellTyped entries (fallback party)) change (earlier ++ [party])))) ∧
      (order ≠ [] → LoadsAs host path crowd.state
        (applied (fun party => wellTyped entries (fallback party)) change order)) := by
  have initially : settledAfter host path bytes (fun party => wellTyped entries (fallback party))
      change [] (.unsynced files) := settledAfter_nil holds
  obtain ⟨history, serial⟩ := Crowd.reach_serial initially
    (fun party _ _ settled _ => update_settledAfter reads distinct party settled) reach
  have free := serial.free_of_done returned
  have done : ∀ party settings, (party, settings) ∈ commits history ↔
      crowd.parties party = .done (.ok settings) := by
    intro party settings
    rw [mem_commits]
    refine ⟨serial.done_of_mem free, fun done => ?_⟩
    refine (serial.mem_of_done free done).resolve_right fun refused => ?_
    obtain ⟨refusal, impossible⟩ := refused
    cases impossible
  have final := serial.free free fun commit member =>
    trips commit.1 commit.2 ((done commit.1 commit.2).mp member)
  refine ⟨(commits history).map Prod.fst, serial.distinct.sublist (commits_sublist history),
    ?_, ?_, ?_⟩
  · intro party
    simp only [List.mem_map, Prod.exists, exists_and_right, exists_eq_right, done]
  · intro earlier party later split
    obtain ⟨first, rest, whole, isFirst, isRest⟩ := List.map_eq_append_iff.mp split
    obtain ⟨commit, others, isCons, isParty, _⟩ := List.map_eq_cons_iff.mp isRest
    subst isCons isFirst isParty
    have chain := final.chained first commit others whole
    rw [← chain]
    refine (done commit.1 commit.2).mp ?_
    rw [whole]
    exact List.mem_append_right _ List.mem_cons_self
  · intro nonempty
    cases isLast : (commits history).getLast? with
    | none => exact absurd (by rw [List.getLast?_eq_none_iff.mp isLast]; rfl) nonempty
    | some last =>
        have member := List.mem_of_getLast? isLast
        have trip := trips last.1 last.2 ((done last.1 last.2).mp member)
        rw [← final.chained.applied isLast]
        exact loadsAs_saved trip (final.saved last isLast)

end Updates

-- Two callers, each with a toggle and a copy of the settings from its start.

/-- One of the callers switches the blocker off, the other one the aggressive mode. -/
def toggle : Bool → AppSettings → AppSettings
  | true, settings => { settings with enabled := false }
  | false, settings => { settings with aggressiveMode := false }

/-- A host that reads the settings the toggles lead to. -/
def toggleHost : Host :=
  readingHost [{}, { enabled := false }, { aggressiveMode := false },
    { enabled := false, aggressiveMode := false }]

/-- A directory with the default settings and nothing else. -/
def defaultFiles : Files String := fun name =>
  if name = "settings.json" then some (encode (printPretty {} ++ "\n")) else none

theorem stripBom_printPretty (settings : AppSettings) :
    stripBom (printPretty settings ++ "\n") = printPretty settings ++ "\n" := by
  have brace : ∃ rest, (printPretty settings ++ "\n").toList = '\x7b' :: rest := by
    simp only [printPretty, String.append_assoc, String.toList_append]
    exact ⟨_, rfl⟩
  obtain ⟨rest, same⟩ := brace
  simp [stripBom, same]

theorem readingHost_trips {known : List AppSettings} {settings : AppSettings}
    (found : known.find? (fun other => printPretty settings ++ "\n" == printPretty other ++ "\n") =
      some settings) : RoundTrips (readingHost known) settings := by
  simp [RoundTrips, readingHost, stripBom_printPretty, found]

theorem toggleHost_trips : RoundTrips toggleHost {} ∧
    RoundTrips toggleHost { enabled := false } ∧
    RoundTrips toggleHost { aggressiveMode := false } ∧
    RoundTrips toggleHost { enabled := false, aggressiveMode := false } :=
  ⟨readingHost_trips (by decide +kernel), readingHost_trips (by decide +kernel),
    readingHost_trips (by decide +kernel), readingHost_trips (by decide +kernel)⟩

/-- An update of a file that holds saved settings. -/
theorem update_saved_runs {settings : AppSettings} (fallback : AppSettings)
    (change : AppSettings → AppSettings) (trips : RoundTrips host settings)
    (saved : before.files path = some (encode (host.printSettings settings ++ "\n")))
    (unused : before.files (temporaryName path 0 0) = none) :
    ∃ after, (directory.answering (FindsFile path)).Runs
        (updateSettingsUnlocked host path fallback change).run before
        (.ok (change settings)) after ∧
      after.files = Function.update before.files path
        (some (encode (host.printSettings (change settings) ++ "\n"))) := by
  have admits : ∀ (op : Call) (state : Store) (answer : op.Answer),
      Healthy op state answer → FindsFile path op state answer :=
    fun op state answer => Healthy.findsFile
  obtain ⟨loaded, loads, same⟩ := load_object_runs saved trips
  obtain ⟨after, run, files⟩ := update_runs fallback change admits
    (runs_answering_mono admits loads) same unused
  rw [mergeTypedSettings_fields] at run files
  exact ⟨after, run, files⟩

theorem defaultFiles_unused :
    (Store.unsynced defaultFiles).files (temporaryName "settings.json" 0 0) = none := by
  simp [Store.unsynced, defaultFiles, temporary_apart]

/-- The callers of the toggles, when some of them have returned. -/
def toggled (store : Store) (results : Bool → Option AppSettings) :
    Crowd Call Call.Answer IoError Store (Except IoError AppSettings) Bool :=
  ⟨store, none, fun party =>
    match results party with
    | some settings => .done (.ok settings)
    | none => critical Except.error
        (updateSettingsUnlocked toggleHost "settings.json" {} (toggle party)).run⟩

/-- One of the toggles, while no other is under way. -/
theorem Reach.toggle {env : Environment Call Call.Answer Store}
    {start : Crowd Call Call.Answer IoError Store (Except IoError AppSettings) Bool}
    {before after : Store} {results : Bool → Option AppSettings} {party : Bool}
    {settings : AppSettings} (reach : Crowd.Reach env start (toggled before results))
    (pending : results party = none)
    (run : env.Runs (updateSettingsUnlocked toggleHost "settings.json" {} (toggle party)).run
      before (.ok settings) after) :
    Crowd.Reach env start (toggled after (Function.update results party (some settings))) := by
  have waits : (toggled before results).parties party = critical Except.error
      (updateSettingsUnlocked toggleHost "settings.json" {} (Config.toggle party)).run := by
    simp only [toggled, pending]
  have finished := Crowd.Reach.undisturbed reach waits run
  have same : toggled after (Function.update results party (some settings)) =
      ⟨after, none, Function.update (toggled before results).parties party
        (.done (.ok settings))⟩ := by
    refine congrArg (Crowd.mk after none) (funext fun other => ?_)
    by_cases here : other = party
    · subst here
      simp
    · simp [toggled, here]
  rw [same]
  exact finished

theorem toggled_first : ∃ store, Crowd.Reach (directory.answering (FindsFile "settings.json"))
      (toggled (.unsynced defaultFiles) fun _ => none)
      (toggled store (Function.update (fun _ => none) true (some { enabled := false }))) ∧
    store.files "settings.json" =
      some (encode (toggleHost.printSettings { enabled := false } ++ "\n")) ∧
    store.files (temporaryName "settings.json" 0 0) = none := by
  have holds : (Store.unsynced defaultFiles).files "settings.json" =
      some (encode (toggleHost.printSettings {} ++ "\n")) := rfl
  obtain ⟨after, run, changed⟩ := update_saved_runs {} (toggle true) toggleHost_trips.1 holds
    defaultFiles_unused
  refine ⟨after, Reach.toggle .start rfl run, ?_, ?_⟩
  · rw [changed, Function.update_self]
    rfl
  · rw [changed, Function.update_of_ne (temporary_apart _ 0 0)]
    exact defaultFiles_unused

/-- Both callers succeed, and both changes are in the file. -/
theorem toggles_serialized :
    ∃ crowd, Crowd.Reach (directory.answering (FindsFile "settings.json"))
        (callers toggleHost "settings.json" (fun _ => {}) toggle (.unsynced defaultFiles)) crowd ∧
      ∃ order : List Bool, order.Nodup ∧ (∀ party, party ∈ order) ∧
        LoadsAs toggleHost "settings.json" crowd.state
          (applied (fun _ => wellTyped (AppSettings.fields {}) {}) toggle order) := by
  obtain ⟨middle, reach, saved, unused⟩ := toggled_first
  obtain ⟨after, run, _⟩ := update_saved_runs {} (toggle false) toggleHost_trips.2.1 saved unused
  have reached := Reach.toggle reach rfl run
  refine ⟨_, reached, ?_⟩
  have read : readObject toggleHost (encode (printPretty {} ++ "\n")) =
      some (AppSettings.fields {}) := toggleHost_trips.1.reads
  have returned : ∀ party, ∃ result, (toggled after (Function.update
      (Function.update (fun _ => none) true (some { enabled := false })) false
      (some (toggle false { enabled := false })))).parties party = .done result := by
    intro party
    cases party <;> exact ⟨_, rfl⟩
  have trips : ∀ party settings, (toggled after (Function.update
      (Function.update (fun _ => none) true (some { enabled := false })) false
      (some (toggle false { enabled := false })))).parties party = .done (.ok settings) →
      RoundTrips toggleHost settings := by
    intro party settings done
    cases party <;> cases done
    · exact toggleHost_trips.2.2.2
    · exact toggleHost_trips.2.1
  have serial := updates_serializable rfl read (by decide) reached returned trips
  obtain ⟨order, distinct, members, _, final⟩ := serial
  have all : ∀ party, party ∈ order := by
    intro party
    cases party <;> exact (members _).mpr ⟨_, rfl⟩
  exact ⟨order, distinct, all, final (List.ne_nil_of_mem (all true))⟩

/-- Both toggles lead to the same settings in either order. -/
theorem applied_toggles (order : List Bool) (distinct : order.Nodup)
    (all : ∀ party, party ∈ order) :
    applied (fun _ => wellTyped (AppSettings.fields {}) {}) toggle order =
      { enabled := false, aggressiveMode := false } := by
  have perm : order.Perm [true, false] :=
    (List.perm_ext_iff_of_nodup distinct (by decide)).mpr fun party => by simp [all party]
  have size : order.length = 2 := perm.length_eq
  match order, size with
  | [true, false], _ => decide
  | [false, true], _ => decide
  | [true, true], _ => cases distinct with | cons apart _ => simp at apart
  | [false, false], _ => cases distinct with | cons apart _ => simp at apart

/-- A caller that takes the file for missing saves over the change of another. -/
theorem toggles_lost :
    ∃ crowd, Crowd.Reach directory
        (callers toggleHost "settings.json" (fun _ => {}) toggle (.unsynced defaultFiles)) crowd ∧
      (∀ party, ∃ settings, crowd.parties party = .done (.ok settings) ∧
        RoundTrips toggleHost settings) ∧
      ∀ order : List Bool, order.Nodup → (∀ party, party ∈ order) →
        ¬ LoadsAs toggleHost "settings.json" crowd.state
          (applied (fun _ => wellTyped (AppSettings.fields {}) {}) toggle order) := by
  obtain ⟨middle, reach, saved, unused⟩ := toggled_first
  obtain ⟨loaded, loads, same⟩ := load_missing_runs toggleHost middle "settings.json" settingsLabel
  obtain ⟨after, run, changed⟩ := update_runs {} (toggle false) (fun _ _ _ _ => trivial) loads same
    unused
  have reached := Reach.toggle (reach.of_answering) rfl (runs_of_answering run)
  refine ⟨_, reached, ?_, ?_⟩
  · intro party
    cases party
    · exact ⟨_, rfl, toggleHost_trips.2.2.1⟩
    · exact ⟨_, rfl, toggleHost_trips.2.1⟩
  · intro order distinct all both
    have lost : LoadsAs toggleHost "settings.json" after { aggressiveMode := false } := by
      refine loadsAs_saved toggleHost_trips.2.2.1 ?_
      rw [changed, Function.update_self]
      rfl
    have ends := applied_toggles order distinct all
    rw [ends] at both
    exact absurd (lost.unique both) (by decide)

end LayoutAdblock.Config
