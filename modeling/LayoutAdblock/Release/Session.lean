import LayoutAdblock.Release.Accepted
import LayoutAdblock.Release.Machine

namespace LayoutAdblock.Release

open LayoutAdblock.Core Data Interaction Interaction.Fallible Interaction.Environment

/-! # What one update session does -/

/-- The name stays in the directory it is joined to. -/
def Plain (name : String) : Prop := ∀ ch ∈ name.toList, isSeparator ch = false

/-- A path of the session's own making in the temporary directory. -/
def Staging (temp path : String) : Prop := ∃ name, Plain name ∧ path = joinPath temp name

theorem Plain.append {first second : String} (left : Plain first) (right : Plain second) :
    Plain (first ++ second) := by
  intro ch member
  rw [String.toList_append, List.mem_append] at member
  rcases member with here | there
  · exact left ch here
  · exact right ch there

theorem isSeparator_of_isDigit {ch : Char} (digit : ch.isDigit = true) :
    isSeparator ch = false := by
  cases found : isSeparator ch with
  | false => rfl
  | true =>
      rw [isSeparator, Bool.or_eq_true, beq_iff_eq, beq_iff_eq] at found
      rcases found with rfl | rfl
      · exact absurd digit (by decide)
      · exact absurd digit (by decide)

theorem plain_number (number : Nat) : Plain (toString number) := by
  intro ch member
  have digits : (toString number).toList = Nat.toDigits 10 number := by
    simp [toString, Nat.repr]
  rw [digits] at member
  exact isSeparator_of_isDigit (Nat.isDigit_of_mem_toDigits (by decide) (by decide) member)

/-- A version that was compared holds digits, dots and white space only. -/
theorem plain_version {value : String} {numbers : List Nat}
    (reads : versionTuple value = .ok numbers) : Plain value := by
  intro ch member
  cases blank : isWhitespace ch with
  | true =>
      cases found : isSeparator ch with
      | false => rfl
      | true =>
          rw [isSeparator, Bool.or_eq_true, beq_iff_eq, beq_iff_eq] at found
          rcases found with rfl | rfl
          · exact absurd blank (by decide)
          · exact absurd blank (by decide)
  | false =>
      have left := mem_dropWhile_of_refused member blank
      have right := mem_dropWhile_of_refused (List.mem_reverse.mpr left) blank
      have inside : ch ∈ (trim value).toList := by
        rw [trim, String.toList_ofList]
        exact List.mem_reverse.mpr right
      have joined : ['.'].intercalate ((trim value).toList.splitOn '.') = (trim value).toList :=
        List.intercalate_splitOn '.'
      rw [← joined] at inside
      rcases mem_intercalate inside with rfl | ⟨part, isPart, inPart⟩
      · decide
      · simp only [versionTuple] at reads
        split at reads
        · cases reads
        · rename_i regular
          rw [Bool.or_eq_true, not_or, Bool.not_eq_true, Bool.not_eq_true] at regular
          have digits := List.any_eq_false.mp regular.2 part isPart
          rw [Bool.or_eq_true, not_or] at digits
          have all : part.all Char.isDigit = true := by simpa using digits.2
          exact isSeparator_of_isDigit (List.all_eq_true.mp all ch inPart)

theorem plain_stagingName {stem version : String} (stemPlain : Plain stem)
    (versionPlain : Plain version) (pid : UInt32) (now : Nat) (seq : UInt64) :
    Plain (stagingName stem version pid now seq) := by
  have bar : Plain "_" := by
    intro ch member
    obtain rfl : ch = '_' := by simpa using member
    decide
  have ending : Plain ".exe" := by
    intro ch member
    have cases : ch = '.' ∨ ch = 'e' ∨ ch = 'x' ∨ ch = 'e' := by simpa using member
    rcases cases with rfl | rfl | rfl | rfl <;> decide
  have isPid : Plain (toString pid) := plain_number pid.toNat
  have isSeq : Plain (toString seq) := plain_number seq.toNat
  exact ((((((((stemPlain.append bar).append versionPlain).append bar).append isPid).append
    bar).append (plain_number now)).append bar).append isSeq).append ending

/-- Nothing is left behind but these files, and those whose removal was refused since. -/
def Tidy (start finish : Machine) (kept : List String) : Prop :=
  ∃ refused, finish.refused = start.refused ++ refused ∧ ∀ path, path ∉ kept →
    finish.files path = start.files path ∨ finish.files path = none ∨ path ∈ refused

def Fetched (start now : Machine) (body : Bytes) : Prop :=
  ∃ bodies, now.bodies = start.bodies ++ bodies ∧ body ∈ bodies

/-- What is known of the machine in the middle of a session: what it asked the
network for and which documents it checked, where copies failed, and which staged
files are to be removed or handed over. -/
structure Session (temp : String) (start : Machine) (urls : List String)
    (checks : List (Bytes × Int)) (unfinished staged : List String) (now : Machine) : Prop where
  frame : ∀ path, ¬ Staging temp path → now.files path = start.files path
  left : Tidy start now (staged ++ unfinished)
  flag : now.inProgress = start.inProgress
  slot : now.pending = start.pending
  requested : now.requests = start.requests ++ urls
  read : ∃ bodies, now.bodies = start.bodies ++ bodies
  checked : now.checks = start.checks ++ checks
  fetched : ∀ check ∈ checks, Fetched start now check.1
  copies : now.unfinished = start.unfinished ++ unfinished

variable {temp : String} {start before after : Machine} {urls unfinished staged kept : List String}
  {checks : List (Bytes × Int)} {path : String} {content : Option Bytes} {body : Bytes}

theorem Fetched.more {bodies : List Bytes} (fetched : Fetched start before body)
    (more : after.bodies = before.bodies ++ bodies) : Fetched start after body := by
  obtain ⟨earlier, same, member⟩ := fetched
  exact ⟨earlier ++ bodies, by rw [more, same, List.append_assoc], List.mem_append_left _ member⟩

theorem Fetched.same (fetched : Fetched start before body) (same : after.bodies = before.bodies) :
    Fetched start after body :=
  have more : after.bodies = before.bodies ++ [] := by rw [same, List.append_nil]
  fetched.more more

theorem Tidy.widen {wider : List String} (tidy : Tidy start before kept)
    (within : ∀ path ∈ kept, path ∈ wider) : Tidy start before wider := by
  obtain ⟨refused, same, left⟩ := tidy
  exact ⟨refused, same, fun path outside => left path fun member => outside (within path member)⟩

theorem Tidy.store (tidy : Tidy start before kept) :
    Tidy start (before.store path content) (path :: kept) := by
  obtain ⟨refused, same, left⟩ := tidy
  refine ⟨refused, same, fun other outside => ?_⟩
  rw [List.mem_cons, not_or] at outside
  rw [Machine.store_files, Function.update_of_ne outside.1]
  exact left other outside.2

/-- A file that was to be removed is gone. -/
theorem Tidy.gone (tidy : Tidy start before (path :: kept)) :
    Tidy start (before.store path none) kept := by
  obtain ⟨refused, same, left⟩ := tidy
  refine ⟨refused, same, fun other outside => ?_⟩
  rw [Machine.store_files]
  by_cases removed : other = path
  · rw [removed, Function.update_self]
    exact Or.inr (Or.inl rfl)
  · rw [Function.update_of_ne removed]
    exact left other (by simp [removed, outside])

theorem Tidy.refuse (tidy : Tidy start before (path :: kept)) :
    Tidy start { before with refused := before.refused ++ [path] } kept := by
  obtain ⟨refused, same, left⟩ := tidy
  refine ⟨refused ++ [path], by rw [same, List.append_assoc], fun other outside => ?_⟩
  by_cases stays : other = path
  · rw [stays]
    exact Or.inr (Or.inr (List.mem_append_right _ (List.mem_singleton_self path)))
  · have known := left other (by simp [stays, outside])
    exact known.imp_right fun rest => rest.imp_right fun listed => List.mem_append_left _ listed

theorem Session.begins : Session temp start [] [] [] [] start where
  frame _ _ := rfl
  left := ⟨[], (List.append_nil _).symm, fun _ _ => Or.inl rfl⟩
  flag := rfl
  slot := rfl
  requested := (List.append_nil _).symm
  read := ⟨[], (List.append_nil _).symm⟩
  checked := (List.append_nil _).symm
  fetched := nofun
  copies := (List.append_nil _).symm

theorem Session.quiet {op : UpdateCall} {answer : op.Answer}
    (session : Session temp start urls checks unfinished staged before) (quiet : op.Quiet)
    (step : (machine temp).step op before answer after) :
    Session temp start urls checks unfinished staged after := by
  cases op with
  | get | readBody | manifestClock | copy | write | removeFile | tryBeginUpdate | endUpdate
  | setPending | takePending | showBox | requestExit => exact quiet.elim
  | spawn command =>
      cases answer with
      | ok value =>
          obtain rfl : after = _ := step
          exact { session with }
      | error error =>
          obtain rfl : after = _ := step
          exact session
  | tempDir | read path =>
      obtain ⟨_, rfl⟩ := step
      exact session
  | _ =>
      obtain rfl : after = _ := step
      exact session

theorem quiet_ensures {α : Type} {program : UpdateM α}
    (session : Session temp start urls checks unfinished staged before)
    (only : program.Only UpdateCall.Quiet) :
    (machine temp).ensures program
      (fun _ => Session temp start urls checks unfinished staged) before :=
  ensures_of_step _ only (fun _ _ _ _ quiet held step => held.quiet quiet step) session

theorem Session.frame_store (session : Session temp start urls checks unfinished staged before)
    (staging : Staging temp path) (other : String) (outside : ¬ Staging temp other) :
    (before.store path content).files other = start.files other := by
  have different : other ≠ path := fun same => outside (same ▸ staging)
  rw [Machine.store_files, Function.update_of_ne different]
  exact session.frame other outside

/-- A file is stored under a staging path that is kept in mind. -/
theorem Session.store (session : Session temp start urls checks unfinished staged before)
    (staging : Staging temp path) :
    Session temp start urls checks unfinished (path :: staged) (before.store path content) :=
  { session with
    frame := session.frame_store staging
    left := session.left.store }

theorem copy_ensures {source : String} (session : Session temp start urls checks [] [] before)
    (staging : Staging temp path) :
    (machine temp).ensures (attempt (askUpdate (.copy source path)) : Fallible _ _ IoError _).run
      (outcome (fun _ => Session temp start urls checks [] [path])
        fun _ => Session temp start urls checks [path] []) before := by
  apply ensures_ask.mpr
  intro answer after step
  cases answer with
  | ok value =>
      obtain ⟨_, rfl⟩ := step
      exact session.store staging
  | error error =>
      obtain ⟨part, rfl⟩ := step
      have stored : Session temp start urls checks [] [path] (before.store path part) :=
        session.store staging
      have copies : before.unfinished ++ [path] = start.unfinished ++ [path] := by
        rw [session.copies, List.append_nil]
      exact { stored with copies }

theorem removeStaged_ensures
    (session : Session temp start urls checks unfinished (path :: staged) before)
    (staging : Staging temp path) :
    (machine temp).ensures (removeStaged path)
      (fun _ => Session temp start urls checks unfinished staged) before := by
  refine ⟨fun _ _ => trivial, fun answer after step => ⟨trivial, ?_⟩⟩
  cases answer with
  | ok value =>
      obtain rfl : after = _ := step
      exact { session with
        frame := session.frame_store staging
        left := session.left.gone }
  | error error =>
      obtain rfl : after = _ := step
      exact { session with left := session.left.refuse }

theorem Session.request (session : Session temp start urls checks unfinished staged before)
    (url : String) :
    Session temp start (urls ++ [url]) checks unfinished staged
      { before with requests := before.requests ++ [url] } :=
  { session with requested := by rw [session.requested, List.append_assoc] }

theorem Session.receive (session : Session temp start urls checks unfinished staged before)
    (body : Bytes) :
    Session temp start urls checks unfinished staged
      { before with bodies := before.bodies ++ [body] } := by
  obtain ⟨bodies, known⟩ := session.read
  exact { session with
    read := ⟨bodies ++ [body], by rw [known, List.append_assoc]⟩
    fetched := fun check member => (session.fetched check member).more rfl }

theorem Session.received (session : Session temp start urls checks unfinished staged before)
    (body : Bytes) : Fetched start { before with bodies := before.bodies ++ [body] } body := by
  obtain ⟨bodies, known⟩ := session.read
  exact ⟨bodies ++ [body], by rw [known, List.append_assoc],
    List.mem_append_right _ (List.mem_singleton_self body)⟩

/-- A body that was read is one that came from the network. -/
def Answered {ε : Type} (start now : Machine) (answer : Except ε Bytes) : Prop :=
  ∀ body, answer = .ok body → Fetched start now body

theorem request_ensures (url : String) (limit : Nat)
    (session : Session temp start urls checks unfinished staged before) :
    (machine temp).ensures (request url limit)
      (fun answer now => Answered start now answer ∧
        Session temp start (urls ++ [url]) checks unfinished staged now) before := by
  refine ⟨fun _ _ => trivial, fun response after step => ⟨trivial, ?_⟩⟩
  obtain rfl : after = _ := step
  have asked := session.request url
  cases response with
  | error error => exact ⟨nofun, asked⟩
  | ok value =>
      refine ⟨fun _ _ => trivial, fun body later step => ⟨trivial, ?_⟩⟩
      cases body with
      | error error =>
          obtain rfl : later = _ := step
          exact ⟨nofun, asked⟩
      | ok bytes =>
          obtain ⟨_, rfl⟩ := step
          refine ⟨fun body same => ?_, asked.receive bytes⟩
          cases same
          exact asked.received bytes

/-- A request is made once, and once more for each pause at most. -/
theorem retry_ensures {url : String} {limit : Nat} (delays : List Nat)
    (session : Session temp start urls checks unfinished staged before) :
    (machine temp).ensures (retry (request url limit) delays)
      (fun answer now => Answered start now answer ∧
        ∃ count, 1 ≤ count ∧ count ≤ delays.length + 1 ∧
          Session temp start (urls ++ List.replicate count url) checks unfinished staged now)
      before := by
  induction delays generalizing before urls with
  | nil =>
      apply ensures_mono (request_ensures url limit session)
      rintro _ now ⟨read, asked⟩
      exact ⟨read, 1, le_refl 1, le_refl 1, asked⟩
  | cons delay delays ih =>
      apply ensures_seq (request_ensures url limit session)
      rintro answer now ⟨read, asked⟩
      have once : ∃ count, 1 ≤ count ∧ count ≤ (delay :: delays).length + 1 ∧
          Session temp start (urls ++ List.replicate count url) checks unfinished staged now :=
        ⟨1, le_refl 1, by simp, asked⟩
      cases answer with
      | ok value => exact ⟨read, once⟩
      | error error =>
          change (machine temp).ensures (if transientError error then _ else _) _ _
          split
          · have pauses : (UpdateCall.sleep delay).Quiet := trivial
            refine ⟨fun _ _ => trivial, fun _ slept step => ⟨trivial, ?_⟩⟩
            apply ensures_mono (ih (asked.quiet pauses step))
            rintro _ last ⟨known, count, least, most, again⟩
            refine ⟨known, count + 1, by omega, by simpa using most, ?_⟩
            rw [List.append_assoc] at again
            exact again
          · exact ⟨nofun, once⟩

theorem fetch_ensures {host : UpdateHost} {url : String} {limit : Nat}
    (session : Session temp start urls checks unfinished staged before) :
    (machine temp).ensures (fetch host url limit).run
      (fun answer now => Answered start now answer ∧ ∃ count, 1 ≤ count ∧ count ≤ 3 ∧
        Session temp start (urls ++ List.replicate count url) checks unfinished staged now)
      before := by
  apply ensures_seq (retry_ensures [200, 500] session)
  rintro answer now ⟨read, asked⟩
  refine ⟨fun body same => ?_, asked⟩
  cases answer with
  | error error => cases same
  | ok value =>
      cases same
      exact read body rfl

/-- The manifest was accepted, when one of the checks was made, from the document checked. -/
def Offered [Unicode] (host : UpdateHost) (checks : List (Bytes × Int))
    (manifest : UpdateManifest) : Prop :=
  ∃ document instant payload, (document, instant) ∈ checks ∧
    Accepted host.crates instant document version payload manifest

def Checked [Unicode] (host : UpdateHost) (checks : List (Bytes × Int)) :
    Except Panic (Except UpdateError UpdateManifest) → Prop
  | .ok (.ok manifest) => Offered host checks manifest
  | .error panic => ∃ document instant, (document, instant) ∈ checks ∧
      parseAndVerifyManifest host.crates instant document version = .error panic
  | .ok (.error _) => True

theorem checked_of_parse [Unicode] {host : UpdateHost} {instant : Int} {body : Bytes}
    (member : (body, instant) ∈ checks) :
    Checked host checks (parseAndVerifyManifest host.crates instant body version) := by
  cases checked : parseAndVerifyManifest host.crates instant body version with
  | error panic => exact ⟨body, instant, member, checked⟩
  | ok verdict =>
      cases verdict with
      | error error => trivial
      | ok manifest =>
          obtain ⟨payload, accepted⟩ := parseAndVerifyManifest_ok.mp checked
          exact ⟨body, instant, payload, member, accepted⟩

theorem Session.check {instant : Int}
    (session : Session temp start urls [] unfinished staged before)
    (fetched : Fetched start before body) :
    Session temp start urls [(body, instant)] unfinished staged
      { before with checks := before.checks ++ [(body, instant)] } :=
  { session with
    checked := by rw [session.checked, List.append_nil]
    fetched := by
      intro check member
      rw [List.mem_singleton.mp member]
      exact fetched.same rfl }

theorem checkForUpdate_ensures [Unicode] {host : UpdateHost}
    (session : Session temp start urls [] unfinished staged before) :
    (machine temp).ensures (checkForUpdate host)
      (fun checked now => ∃ checks count, Checked host checks checked ∧ checks.length ≤ 1 ∧
        1 ≤ count ∧ count ≤ 3 ∧
        Session temp start (urls ++ List.replicate count manifestUrl) checks unfinished staged now)
      before := by
  apply ensures_seq (fetch_ensures session)
  rintro answer now ⟨read, count, least, most, asked⟩
  cases answer with
  | error error => exact ⟨[], count, trivial, Nat.zero_le 1, least, most, asked⟩
  | ok body =>
      refine ⟨fun _ _ => trivial, fun instant later step => ⟨trivial, ?_⟩⟩
      obtain rfl : later = _ := step
      exact ⟨[(body, instant)], count, checked_of_parse (List.mem_singleton_self _), le_refl 1,
        least, most, asked.check (read body rfl)⟩

theorem Offered.plain [Unicode] {host : UpdateHost} {manifest : UpdateManifest}
    (offered : Offered host checks manifest) : Plain manifest.version := by
  obtain ⟨document, instant, payload, _, accepted⟩ := offered
  have newer := accepted.newer
  rw [isNewer, except_bind_ok] at newer
  obtain ⟨numbers, reads, _⟩ := newer
  exact plain_version reads

/-- The file is the download that the manifest describes. -/
def Downloaded (host : UpdateHost) (manifest : UpdateManifest) (path : String) (now : Machine) :
    Prop :=
  ∃ bytes, now.files path = some bytes ∧ host.sha256Hex bytes = manifest.sha256 ∧
    bytes.length = manifest.size

theorem createParent_quiet (path : String) : (createParent path).run.Only UpdateCall.Quiet := by
  unfold createParent
  cases parentPath path with
  | none => trivial
  | some parent => exact only_mapError ⟨trivial, fun _ => trivial⟩

theorem write_ensures {bytes : Bytes}
    (session : Session temp start urls checks unfinished staged before)
    (staging : Staging temp path) :
    (machine temp).ensures (attempt (askUpdate (.write path bytes)) : Fallible _ _ IoError _).run
      (outcome (fun _ now => Session temp start urls checks unfinished (path :: staged) now ∧
          now.files path = some bytes)
        fun _ => Session temp start urls checks unfinished (path :: staged)) before := by
  apply ensures_ask.mpr
  intro answer after step
  cases answer with
  | ok value =>
      obtain rfl : after = _ := step
      exact ⟨session.store staging, Function.update_self ..⟩
  | error error =>
      obtain ⟨part, rfl⟩ := step
      exact session.store staging

/-- A file that is kept in mind without having been touched. -/
theorem Session.remember (session : Session temp start urls checks unfinished staged before)
    (path : String) : Session temp start urls checks unfinished (path :: staged) before :=
  { session with left := session.left.widen fun _ member => List.mem_cons_of_mem _ member }

theorem quiet_try {ε α : Type} {program : Fallible UpdateCall UpdateCall.Answer ε α}
    (session : Session temp start urls checks unfinished staged before)
    (only : program.run.Only UpdateCall.Quiet) :
    (machine temp).ensures program.run
      (outcome (fun _ => Session temp start urls checks unfinished staged) fun _ =>
        Session temp start urls checks unfinished staged) before := by
  apply ensures_mono (quiet_ensures session only)
  intro result now held
  cases result with
  | ok value => exact held
  | error error => exact held

theorem downloadAndVerify_ensures {host : UpdateHost} {manifest : UpdateManifest} {dest : String}
    (session : Session temp start urls checks unfinished staged before)
    (staging : Staging temp dest) :
    (machine temp).ensures (downloadAndVerify host manifest dest).run
      (fun result now =>
        (∃ count, 1 ≤ count ∧ count ≤ 3 ∧ Session temp start
          (urls ++ List.replicate count manifest.artifactUrl) checks unfinished (dest :: staged)
          now) ∧
        (result = .ok () → Downloaded host manifest dest now)) before := by
  rw [downloadAndVerify, ExceptT.run_bind]
  apply ensures_seq (fetch_ensures session)
  rintro answer now ⟨_, count, least, most, asked⟩
  have remembered := asked.remember dest
  cases answer with
  | error error => exact ⟨⟨count, least, most, remembered⟩, nofun⟩
  | ok bytes =>
      by_cases size : bytes.length = manifest.size
      · by_cases digest : host.sha256Hex bytes = manifest.sha256
        · simp only [require, size, digest, BEq.rfl, if_true]
          change (machine temp).ensures (createParent dest >>= _).run _ _
          rw [ExceptT.run_bind]
          apply ensures_seq (quiet_ensures asked (createParent_quiet dest))
          intro created later made
          cases created with
          | error error => exact ⟨⟨count, least, most, made.remember dest⟩, nofun⟩
          | ok value =>
              have writes : (machine temp).ensures (attempt (askUpdate (.write dest bytes)) :
                  Fallible _ _ IoError _).run _ later := write_ensures made staging
              apply ensures_seq writes
              intro result last written
              cases result with
              | error error => exact ⟨⟨count, least, most, written⟩, nofun⟩
              | ok value =>
                  exact ⟨⟨count, least, most, written.1⟩, fun _ => ⟨bytes, written.2, digest, size⟩⟩
        · simp only [require, size, digest, BEq.rfl, if_true, beq_iff_eq, if_false]
          exact ⟨⟨count, least, most, remembered⟩, nofun⟩
      · simp only [require, size, beq_iff_eq, if_false]
        exact ⟨⟨count, least, most, remembered⟩, nofun⟩

theorem uniqueStagingPath_ensures {stem version : String}
    (session : Session temp start urls checks unfinished staged before) (stemPlain : Plain stem)
    (versionPlain : Plain version) :
    (machine temp).ensures (uniqueStagingPath stem version)
      (fun path now => Staging temp path ∧
        Session temp start urls checks unfinished staged now) before := by
  refine ⟨fun _ _ => trivial, fun seq _ step => ⟨trivial, ?_⟩⟩
  obtain rfl := step
  refine ⟨fun _ _ => trivial, fun directory _ step => ⟨trivial, ?_⟩⟩
  obtain ⟨rfl, rfl⟩ := step
  refine ⟨fun _ _ => trivial, fun pid _ step => ⟨trivial, ?_⟩⟩
  obtain rfl := step
  refine ⟨fun _ _ => trivial, fun instant _ step => ⟨trivial, ?_⟩⟩
  obtain rfl := step
  exact ⟨⟨_, plain_stagingName stemPlain versionPlain pid (nowTs instant) seq, rfl⟩, session⟩

theorem plain_literals :
    Plain "kakao-updater" ∧ Plain "helper" ∧ Plain downloadStem := by
  have all : ∀ text : String, (text.toList.all fun ch => !isSeparator ch) = true → Plain text := by
    intro text checked ch member
    simpa using List.all_eq_true.mp checked ch member
  exact ⟨all _ (by decide), all _ (by decide), all _ (by decide)⟩

/-- The helper is staged, or a copy that failed is on record. -/
theorem stageHelper_ensures {source : String}
    (session : Session temp start urls checks [] [] before) :
    (machine temp).ensures (stageHelper source).run
      (outcome
        (fun helper now => Staging temp helper ∧ Session temp start urls checks [] [helper] now)
        fun _ now => ∃ dest, Session temp start urls checks [dest] [] now) before := by
  have names := uniqueStagingPath_ensures session plain_literals.1 plain_literals.2.1
  apply wp_try (wp_always names)
  rintro dest now ⟨staging, named⟩
  have copies : (machine temp).wp (fun _ => True) (attempt (askUpdate (.copy source dest)) :
      Fallible _ _ IoError _).run _ now := copy_ensures named staging
  apply wp_try (wp_outcome_mono (wp_mapError_same copies) (fun _ _ held => held)
    fun _ _ held => ⟨dest, held⟩)
  intro _ copied held
  exact ⟨staging, held⟩

/-- What the staged update is known to be: both files have names of the session's own in the
temporary directory, and the replacement is the download that the manifest describes. -/
structure Prepared (host : UpdateHost) (temp : String) (manifest : UpdateManifest)
    (update : StagedUpdate) (now : Machine) : Prop where
  helper : Staging temp update.helper
  replacement : Staging temp update.replacement
  digest : update.sha256 = manifest.sha256
  downloaded : Downloaded host manifest update.replacement now

/-- The requests of a session: for the manifest, and then for what it describes. -/
def Requests (url : String) (urls : List String) : Prop :=
  ∃ first second, 1 ≤ first ∧ first ≤ 3 ∧ second ≤ 3 ∧
    urls = List.replicate first manifestUrl ++ List.replicate second url

theorem prepareUpdate_ensures {host : UpdateHost} {manifest : UpdateManifest} {count : Nat}
    (plain : Plain manifest.version) (least : 1 ≤ count) (most : count ≤ 3)
    (session : Session temp start (List.replicate count manifestUrl) checks [] [] before) :
    (machine temp).ensures (prepareUpdate host manifest).run
      (outcome
        (fun update now => Prepared host temp manifest update now ∧
          ∃ urls, Requests manifest.artifactUrl urls ∧
            Session temp start urls checks [] [update.replacement, update.helper] now)
        fun _ now => ∃ urls unfinished, Requests manifest.artifactUrl urls ∧
          unfinished.length ≤ 1 ∧ Session temp start urls checks unfinished [] now) before := by
  have once : Requests manifest.artifactUrl (List.replicate count manifestUrl) :=
    ⟨count, 0, least, most, by omega, by simp⟩
  have failing : ∀ now, Session temp start (List.replicate count manifestUrl) checks [] [] now →
      ∃ urls unfinished, Requests manifest.artifactUrl urls ∧ unfinished.length ≤ 1 ∧
        Session temp start urls checks unfinished [] now :=
    fun now held => ⟨_, [], once, Nat.zero_le 1, held⟩
  have finds : (mapError (fun error => UpdateError.message s!"현재 실행 파일 경로 확인 실패: {error}")
      (attempt (askUpdate .currentExe))).run.Only UpdateCall.Quiet :=
    only_mapError ⟨trivial, fun _ => trivial⟩
  apply wp_try (wp_outcome_mono (quiet_try session finds) (fun _ _ held => held)
    fun _ now held => failing now held)
  intro currentExe located held
  apply wp_try (wp_outcome_mono (quiet_try held (resolveHelper_quiet currentExe))
    (fun _ _ held => held) fun _ now held => failing now held)
  intro helperSrc resolved held
  apply wp_try (wp_outcome_mono (stageHelper_ensures held) (fun _ _ held => held)
    fun _ now ⟨dest, held⟩ => ⟨_, [dest], once, le_refl 1, held⟩)
  rintro helper copied ⟨helperStaging, held⟩
  apply wp_try (wp_onError (quiet_try held (verifyHelperProtocol_quiet host helper))
    fun error now held => ensures_mono (removeStaged_ensures held helperStaging)
      fun _ last kept => failing last kept)
  intro _ verified held
  apply wp_try (wp_always (uniqueStagingPath_ensures held plain_literals.2.2 plain))
  rintro replacement named ⟨staging, held⟩
  have downloads : (machine temp).wp (fun _ => True) (downloadAndVerify host manifest replacement).run
      (outcome
        (fun _ now => (∃ urls, Requests manifest.artifactUrl urls ∧
            Session temp start urls checks [] [replacement, helper] now) ∧
          Downloaded host manifest replacement now)
        fun _ now => ∃ urls, Requests manifest.artifactUrl urls ∧
            Session temp start urls checks [] [replacement, helper] now) named := by
    apply ensures_mono (downloadAndVerify_ensures held staging)
    rintro result now ⟨⟨second, _, most', session⟩, complete⟩
    have known : ∃ urls, Requests manifest.artifactUrl urls ∧
        Session temp start urls checks [] [replacement, helper] now :=
      ⟨_, ⟨count, second, least, most, most', rfl⟩, session⟩
    cases result with
    | ok value => exact ⟨known, complete rfl⟩
    | error error => exact known
  apply wp_try (wp_onError downloads ?_)
  · rintro _ saved ⟨⟨urls, requests, session⟩, downloaded⟩
    refine ⟨fun _ _ => trivial, fun arguments last step => ⟨trivial, ?_⟩⟩
    obtain rfl : last = saved := step
    exact ⟨⟨helperStaging, staging, rfl, downloaded⟩, urls, requests, session⟩
  · rintro error now ⟨urls, requests, session⟩
    have swapped : Session temp start urls checks [] [helper, replacement] now :=
      { session with left := session.left.widen (by simp) }
    apply ensures_seq (removeStaged_ensures swapped helperStaging)
    intro _ later held
    apply ensures_mono (removeStaged_ensures held staging)
    intro _ last kept
    exact ⟨urls, [], requests, Nat.zero_le 1, kept⟩

/-- At most three requests for the manifest, and three for the release that an
accepted manifest describes. -/
def Asked [Unicode] (host : UpdateHost) (checks : List (Bytes × Int)) (urls : List String) :
    Prop :=
  ∃ first second url, 1 ≤ first ∧ first ≤ 3 ∧ second ≤ 3 ∧
    urls = List.replicate first manifestUrl ++ List.replicate second url ∧
    (0 < second → ∃ manifest, Offered host checks manifest ∧ url = manifest.artifactUrl)

theorem Offered.asked [Unicode] {host : UpdateHost} {manifest : UpdateManifest}
    (offered : Offered host checks manifest) (requests : Requests manifest.artifactUrl urls) :
    Asked host checks urls := by
  obtain ⟨first, second, least, most, most', rfl⟩ := requests
  exact ⟨first, second, _, least, most, most', rfl, fun _ => ⟨manifest, offered, rfl⟩⟩

theorem asked_once [Unicode] {host : UpdateHost} {count : Nat} (least : 1 ≤ count)
    (most : count ≤ 3) : Asked host checks (List.replicate count manifestUrl) :=
  ⟨count, 0, "", least, most, by omega, by simp, by omega⟩

/-- Either a verified update waits, or nothing does.  A copy of the helper that failed is not
removed; the flag stays set without an update when the check of this session's manifest, at the
time that this session read, panicked. -/
inductive Concluded [Unicode] (host : UpdateHost) (temp : String) (checks : List (Bytes × Int))
    (start finish : Machine) : Prop where
  | staged (update : StagedUpdate) (manifest : UpdateManifest)
      (waits : finish.pending = some update) (offered : Offered host checks manifest)
      (prepared : Prepared host temp manifest update finish)
      (tidy : Tidy start finish [update.replacement, update.helper])
  | nothing (unfinished : List String) (empty : finish.pending = none)
      (copies : finish.unfinished = start.unfinished ++ unfinished)
      (single : unfinished.length ≤ 1) (tidy : Tidy start finish unfinished)
      (ended : finish.inProgress = false ∨ ∃ document instant panic, (document, instant) ∈ checks ∧
        parseAndVerifyManifest host.crates instant document version = .error panic)

/-- What holds at the end of a session, of the requests it made and the document it checked. -/
structure Effects [Unicode] (host : UpdateHost) (temp : String) (start finish : Machine)
    (urls : List String) (checks : List (Bytes × Int)) : Prop where
  requested : finish.requests = start.requests ++ urls
  asked : Asked host checks urls
  checked : finish.checks = start.checks ++ checks
  once : checks.length ≤ 1
  fetched : ∀ check ∈ checks, Fetched start finish check.1
  frame : ∀ path, ¬ Staging temp path → finish.files path = start.files path
  concluded : Concluded host temp checks start finish

theorem Session.effects [Unicode] {host : UpdateHost} {finish : Machine}
    (session : Session temp start urls checks unfinished staged finish)
    (asked : Asked host checks urls) (once : checks.length ≤ 1)
    (concluded : Concluded host temp checks start finish) :
    Effects host temp start finish urls checks where
  requested := session.requested
  asked := asked
  checked := session.checked
  once := once
  fetched := session.fetched
  frame := session.frame
  concluded := concluded

/-- The update is given up, and the flag is cleared. -/
theorem Session.giveUp [Unicode] {host : UpdateHost} (empty : start.pending = none)
    (asked : Asked host checks urls) (once : checks.length ≤ 1) (single : unfinished.length ≤ 1)
    (session : Session temp start urls checks unfinished [] before) :
    ∃ urls checks, Effects host temp start { before with inProgress := false } urls checks := by
  have left : Tidy start before unfinished := session.left
  exact ⟨urls, checks, session.requested, asked, session.checked, once,
    fun check member => (session.fetched check member).same rfl, session.frame,
    .nothing unfinished (session.slot.trans empty) session.copies single left (Or.inl rfl)⟩

theorem endUpdate_ensures [Unicode] {host : UpdateHost} {title message : String}
    (empty : start.pending = none) (asked : Asked host checks urls) (once : checks.length ≤ 1)
    (single : unfinished.length ≤ 1)
    (session : Session temp start urls checks unfinished [] before) :
    (machine temp).ensures (do
      askUpdate .endUpdate
      askUpdate (.showBox title message))
      (fun _ finish => ∃ urls checks, Effects host temp start finish urls checks) before := by
  refine ⟨fun _ _ => trivial, fun _ ended step => ⟨trivial, ?_⟩⟩
  obtain rfl : ended = _ := step
  refine ⟨fun _ _ => trivial, fun _ last step => ⟨trivial, ?_⟩⟩
  obtain rfl : last = _ := step
  exact session.giveUp empty asked once single

theorem offerUpdate_ensures [Unicode] {host : UpdateHost} {manifest : UpdateManifest} {count : Nat}
    (empty : start.pending = none) (offered : Offered host checks manifest)
    (once : checks.length ≤ 1) (least : 1 ≤ count) (most : count ≤ 3)
    (session : Session temp start (List.replicate count manifestUrl) checks [] [] before) :
    (machine temp).ensures (offerUpdate host manifest)
      (fun _ finish => ∃ urls checks, Effects host temp start finish urls checks) before := by
  refine ⟨fun _ _ => trivial, fun accepted answered step => ⟨trivial, ?_⟩⟩
  obtain rfl : answered = before := step
  cases accepted with
  | false =>
      refine ⟨fun _ _ => trivial, fun _ ended step => ⟨trivial, ?_⟩⟩
      obtain rfl : ended = _ := step
      have single : ([] : List String).length ≤ 1 := Nat.zero_le 1
      exact session.giveUp empty (asked_once least most) once single
  | true =>
      apply ensures_seq (prepareUpdate_ensures offered.plain least most session)
      intro prepared now held
      cases prepared with
      | error error =>
          obtain ⟨urls, unfinished, requests, single, session⟩ := held
          exact endUpdate_ensures empty (offered.asked requests) once single session
      | ok update =>
          obtain ⟨prepared, urls, requests, session⟩ := held
          refine ⟨fun _ _ => trivial, fun _ waiting step => ⟨trivial, ?_⟩⟩
          obtain rfl : waiting = _ := step
          refine ⟨fun _ _ => trivial, fun _ last step => ⟨trivial, ?_⟩⟩
          obtain rfl : last = _ := step
          refine ⟨urls, checks, session.requested, offered.asked requests, session.checked, once,
            fun check member => (session.fetched check member).same rfl, session.frame, ?_⟩
          refine .staged update manifest rfl offered ?_ session.left
          exact ⟨prepared.helper, prepared.replacement, prepared.digest, prepared.downloaded⟩

theorem updateThread_ensures [Unicode] {host : UpdateHost} (empty : start.pending = none) :
    (machine temp).ensures (updateThread host)
      (fun _ finish => ∃ urls checks, Effects host temp start finish urls checks) start := by
  apply ensures_seq (checkForUpdate_ensures Session.begins)
  rintro checked now ⟨checks, count, verdict, once, least, most, session⟩
  rw [List.nil_append] at session
  have asked : Asked host checks (List.replicate count manifestUrl) := asked_once least most
  have single : ([] : List String).length ≤ 1 := Nat.zero_le 1
  match checked with
  | .error panic =>
      obtain ⟨document, instant, member, panics⟩ := verdict
      exact ⟨_, checks, session.effects asked once
        (.nothing [] (session.slot.trans empty) session.copies single session.left
          (Or.inr ⟨document, instant, panic, member, panics⟩))⟩
  | .ok (.ok manifest) => exact offerUpdate_ensures empty verdict once least most session
  | .ok (.error .noUpdate) => exact endUpdate_ensures empty asked once single session
  | .ok (.error (.message _)) => exact endUpdate_ensures empty asked once single session

/-- Whatever the network, the clock, the user and the disk do, a session checks one document at
most, that came from the network, asks at most three times for it and for the release it describes
if it is accepted, touches no file but those staged under plain names, and leaves a verified
download waiting, or no staged file but the part of a copy that failed and what it was refused to
remove; the flag stays set without an update only after a panic in that check. -/
theorem session_effects [Unicode] {host : UpdateHost} {finish : Machine}
    (empty : start.pending = none)
    (ran : (machine temp).Runs (updateThread host) start () finish) :
    ∃ urls checks, Effects host temp start finish urls checks := by
  have ends : (machine temp).ensures (updateThread host)
      (fun _ finish => ∃ urls checks, Effects host temp start finish urls checks) start :=
    updateThread_ensures empty
  have holds := ensures_runs ends ran
  exact holds

def smallPayload : Json :=
  .object [("artifact_url", .string (expectedArtifactUrl "v11.2.0")),
    ("sha256", .string (String.ofList (List.replicate 64 '0'))), ("size", .number 3),
    ("tag", .string "v11.2.0"), ("version", .string "11.2.0")]

def smallManifest : UpdateManifest where
  version := "11.2.0"
  tag := "v11.2.0"
  artifactUrl := expectedArtifactUrl "v11.2.0"
  sha256 := String.ofList (List.replicate 64 '0')
  size := 3

/-- The one document that this host can read is signed. -/
def smallHost : UpdateHost where
  crates :=
    { parseJson := fun document =>
        if document = [0] then
          some (.object [("payload", smallPayload), ("signature", .string "signature")])
        else none
      printFloat := fun _ => []
      decodeBase64 := fun text =>
        some (List.replicate (if text = updatePublicKeyB64 then 32 else 64) 0)
      Key := Unit
      verifyingKey := fun _ => some ()
      verifies := fun _ _ _ => true }
  sha256Hex _ := String.ofList (List.replicate 64 '0')
  displayHttp _ := ""
  polls := 0

/-- A machine on which nothing fails, with a helper next to the app. -/
def obligingMachine : (op : UpdateCall) → Machine → op.Answer × Machine
  | .get url, now => (.ok (), { now with requests := now.requests ++ [url] })
  | .readBody most, now =>
      let body := (if now.requests = [manifestUrl] then [0] else [1, 2, 3]).take most
      (.ok body, { now with bodies := now.bodies ++ [body] })
  | .manifestClock document, now => (0, { now with checks := now.checks ++ [(document, 0)] })
  | .clock, now | .elapsed, now => (0, now)
  | .currentExe, now => (.ok "C:\\App\\app.exe", now)
  | .tempDir, now => ("C:\\Temp", now)
  | .arguments, now => (["app.exe"], now)
  | .environment, now => ([], now)
  | .processId, now => (7, now)
  | .fetchSequence, now => (0, now)
  | .read path, now =>
      (match now.files path with
        | some bytes => .ok bytes
        | none => .error { rawOsError := some 2, text := "" }, now)
  | .copy source destination, now =>
      match now.files source with
      | some bytes => (.ok (), now.store destination (some bytes))
      | none =>
          (.error { rawOsError := some 2, text := "" },
            { now.store destination none with unfinished := now.unfinished ++ [destination] })
  | .write path bytes, now => (.ok (), now.store path (some bytes))
  | .createDirAll _, now => (.ok (), now)
  | .removeFile path, now => (.ok (), now.store path none)
  | .spawn command, now => (.ok (), { now with spawned := now.spawned ++ [command] })
  | .tryWait, now => (.ok true, now)
  | .waitWithOutput, now => (.ok (true, utf8 helperProtocol.toList), now)
  | .askYesNo _ _, now => (true, now)
  | .tryBeginUpdate, now => (!now.inProgress, { now with inProgress := true })
  | .endUpdate, now => ((), { now with inProgress := false })
  | .setPending staged, now => ((), { now with pending := some staged })
  | .takePending, now => (now.pending, { now with pending := none })
  | .sleep _, now | .kill, now | .wait, now | .showBox _ _, now | .requestExit, now => ((), now)

theorem obligingMachine_realizes (op : UpdateCall) (now : Machine) :
    (machine "C:\\Temp").step op now (obligingMachine op now).1 (obligingMachine op now).2 := by
  cases op with
  | readBody most => exact ⟨List.length_take_le .., rfl⟩
  | read path =>
      refine ⟨fun bytes same => ?_, rfl⟩
      simp only [obligingMachine] at same
      cases found : now.files path with
      | none =>
          rw [found] at same
          cases same
      | some content =>
          rw [found] at same
          cases same
          rfl
  | copy source destination =>
      cases found : now.files source with
      | none =>
          simp only [obligingMachine, found]
          exact ⟨none, rfl⟩
      | some bytes =>
          simp only [obligingMachine, found]
          exact ⟨by rw [found]; exact nofun, by rw [found]⟩
  | tempDir | tryBeginUpdate | takePending => exact ⟨rfl, rfl⟩
  | _ => rfl

/-- An installed app whose user has asked for an update. -/
def installedApp : Machine where
  files path := if path = "C:\\App\\kakao-updater.exe" then some [77, 90] else none
  inProgress := true

def stagedSession : Unit × Machine :=
  (@updateThread asciiLowercase smallHost).exec obligingMachine installedApp

set_option maxRecDepth 8000 in
theorem stagedSession_waits : stagedSession.2.pending = some
    { helper := "C:\\Temp\\kakao-updater_helper_7_0_0.exe"
      currentExe := "C:\\App\\app.exe"
      replacement := "C:\\Temp\\KakaoTalkLayoutAdBlocker_v11_update_11.2.0_7_0_0.exe"
      sha256 := String.ofList (List.replicate 64 '0')
      relaunchArgs := [] } := by
  decide +kernel

theorem stagedSession_runs : (machine "C:\\Temp").Runs (@updateThread asciiLowercase smallHost)
    installedApp () stagedSession.2 := by
  have ran := runs_exec obligingMachine_realizes (@updateThread asciiLowercase smallHost)
    installedApp
  rw [← stagedSession, Subsingleton.elim stagedSession.1 ()] at ran
  exact ran

theorem stagedSession_effects :
    (∃ urls checks, @Effects asciiLowercase smallHost "C:\\Temp" installedApp stagedSession.2 urls
      checks) ∧ stagedSession.2.pending ≠ none := by
  have waits := stagedSession_waits
  have ran := stagedSession_runs
  generalize stagedSession.2 = finish at waits ran
  refine ⟨@session_effects _ _ asciiLowercase _ _ rfl ran, ?_⟩
  rw [waits]
  exact nofun

end LayoutAdblock.Release
