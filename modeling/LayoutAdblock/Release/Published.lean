import Mathlib.Data.Bool.AllAny
import LayoutAdblock.Release.Accepted
import LayoutAdblock.Release.Builder
import LayoutAdblock.Release.Signing

namespace LayoutAdblock.Release

open LayoutAdblock.Core Data Data.Json Interaction

/-! # From the release script to the updater

What the script signs and writes, read by the app.
-/

mutual

/-- `serde_json` keeps the entries of an object in the order of their keys. -/
def keyed : Json → Json
  | .array items => .array (keyedItems items)
  | .object fields => .object ((keyedFields fields).insertionSort byBytes)
  | value => value

/-- The items of an array with their keys in order. -/
def keyedItems : List Json → List Json
  | [] => []
  | item :: rest => keyed item :: keyedItems rest

/-- The fields of an object with the keys inside them in order. -/
def keyedFields : List (String × Json) → List (String × Json)
  | [] => []
  | (key, value) :: rest => (key, keyed value) :: keyedFields rest

end

theorem keyedItems_eq_map (items : List Json) : keyedItems items = items.map keyed := by
  induction items with
  | nil => rfl
  | cons item rest ih => rw [keyedItems, ih, List.map_cons]

theorem keyedFields_eq_map (fields : List (String × Json)) :
    keyedFields fields = fields.map fun entry => (entry.1, keyed entry.2) := by
  induction fields with
  | nil => rfl
  | cons entry rest ih => rw [keyedFields, ih, List.map_cons]

theorem keys_keyed (fields : List (String × Json)) :
    (keyedFields fields).map Prod.fst = fields.map Prod.fst := by
  rw [keyedFields_eq_map, List.map_map]
  rfl

theorem lookup_keyedFields (fields : List (String × Json)) (key : String) :
    (keyedFields fields).lookup key = (fields.lookup key).map keyed := by
  induction fields with
  | nil => rfl
  | cons entry rest ih =>
      rw [keyedFields, lookup_entry, ih, lookup_entry]
      split <;> rfl

/-- Sorting the entries changes nothing for who looks them up. -/
theorem get_keyed {fields : List (String × Json)} (distinct : (fields.map Prod.fst).Nodup)
    (key : String) : get (keyed (.object fields)) key = (get (.object fields) key).map keyed := by
  have distinctKeyed : ((keyedFields fields).map Prod.fst).Nodup := by
    rw [keys_keyed]
    exact distinct
  rw [keyed, get, get, ← lookup_keyedFields]
  exact (lookup_perm distinctKeyed (List.perm_insertionSort byBytes _).symm key).symm

theorem byBytes_total {α : Type} (first second : String × α) :
    byBytes first second ∨ byBytes second first := List.le_total _ _

theorem byBytes_trans {α : Type} (first second third : String × α) (left : byBytes first second)
    (right : byBytes second third) : byBytes first third := List.le_trans left right

/-- The printer sorts the entries anyway. -/
theorem pythonishDumps_keyed (printFloat : Float → List Char) (value : Json) :
    pythonishDumps printFloat (keyed value) = pythonishDumps printFloat value := by
  induction value using Json.induct with
  | array items ih =>
      rw [keyed, keyedItems_eq_map, pythonishDumps_array, pythonishDumps_array, List.map_map]
      congr 3
      exact List.map_congr_left ih
  | object fields ih =>
      have : Std.Total (byBytes (α := Json)) := ⟨byBytes_total⟩
      have : IsTrans (String × Json) byBytes := ⟨byBytes_trans⟩
      have sorted := (List.pairwise_insertionSort byBytes (keyedFields fields)).insertionSort_eq
      have order := List.map_insertionSort byBytes byBytes
        (fun entry : String × Json => (entry.1, keyed entry.2)) fields fun _ _ _ _ => Iff.rfl
      rw [keyed, pythonishDumps_object, sorted, keyedFields_eq_map, ← order, pythonishDumps_object,
        List.map_map]
      congr 3
      apply List.map_congr_left
      intro entry member
      have same := ih entry ((List.mem_insertionSort byBytes).mp member)
      simp only [Function.comp, same]
  | _ => rfl

def Clock.seconds (now : Clock) : Int :=
  now.dayNumber * 86400 + (now.hour * 3600 + now.minute * 60 + now.second : Nat)

theorem dayNumber_iterate (date : Date) (days : Nat) :
    (Date.next^[days] date).dayNumber = date.dayNumber + days := by
  induction days with
  | zero => simp
  | succ days ih =>
      rw [Function.iterate_succ_apply', Date.dayNumber_next, ih]
      omega

theorem year_next (date : Date) : date.year ≤ date.next.year := by
  simp only [Date.next]
  split
  · exact le_rfl
  · split
    · exact le_rfl
    · exact Nat.le_succ _

theorem year_iterate (date : Date) (days : Nat) : date.year ≤ (Date.next^[days] date).year := by
  induction days with
  | zero => exact le_rfl
  | succ days ih =>
      rw [Function.iterate_succ_apply']
      exact ih.trans (year_next _)

theorem utcReading_recent {moment : DateTime} (recent : 1970 ≤ moment.year) :
    (utcReading moment : Int) = moment.localSeconds := by
  have later : daysBeforeYear 1970 ≤ daysBeforeYear moment.year := by
    have years := foldl_years (moment.year - 1970)
    rw [show 1970 + (moment.year - 1970) = moment.year by omega] at years
    omega
  simp only [utcReading, DateTime.localSeconds, Date.dayNumber, max_eq_left recent]
  omega

/-- The date-time that the script writes is the one that the app reads. -/
theorem expiresAt_reading {now : Clock} {days : Nat} {expiry : DateTime}
    (recent : 1970 ≤ now.year) (stated : expiresAt now days = some expiry) :
    parseRfc3339Timestamp (String.ofList expiry.text) = .ok (some (utcReading expiry)) ∧
      (utcReading expiry : Int) = now.seconds + days * 86400 := by
  refine ⟨parseRfc3339Timestamp_moment expiry, ?_⟩
  have later := year_iterate now.toDate days
  have number := dayNumber_iterate now.toDate days
  simp only [expiresAt] at stated
  split at stated
  · cases stated
    rw [utcReading_recent (le_trans recent later)]
    simp only [DateTime.localSeconds, DateTime.secondsOfDay, number, Clock.seconds]
    push_cast
    omega
  · cases stated

theorem agrees_printable {ch : Char} (low : 0x20 ≤ ch.toNat) (high : ch.toNat < 0x7f) :
    ¬ Diverges ch := by
  rintro (rfl | rfl | ⟨other, _⟩)
  · exact absurd low (by decide)
  · exact absurd low (by decide)
  · omega

/-- A digit of `hexdigest`. -/
def isLowerHex (ch : Char) : Bool := ch.isDigit || 'a' ≤ ch && ch ≤ 'f'

theorem isLowerHex_small {ch : Char} (hex : isLowerHex ch = true) :
    48 ≤ ch.toNat ∧ ch.toNat ≤ 102 := by
  simp only [isLowerHex, Char.isDigit, Bool.or_eq_true, Bool.and_eq_true, decide_eq_true_eq,
    Char.le_def, UInt32.le_iff_toNat_le] at hex
  rcases hex with ⟨low, high⟩ | ⟨low, high⟩
  · exact ⟨low, le_trans high (by decide)⟩
  · exact ⟨le_trans (by decide) low, high⟩

theorem agrees_digit {ch : Char} (digit : ch.isDigit = true) : ¬ Diverges ch := by
  have bounds : 48 ≤ ch.toNat ∧ ch.toNat ≤ 57 := by
    simpa [Char.isDigit, UInt32.le_iff_toNat_le] using digit
  exact agrees_printable (by omega) (by omega)

theorem agrees_of_all {text : String}
    (all : text.toList.all (fun ch => decide (¬ Diverges ch)) = true) : Agrees text :=
  List.all_iff_forall_prop.mp all

theorem Agrees.append {first second : String} (left : Agrees first) (right : Agrees second) :
    Agrees (first ++ second) := by
  intro ch member
  rw [String.toList_append, List.mem_append] at member
  exact member.elim (left ch) (right ch)

theorem agrees_expiry {now : Clock} {days : Nat} {expiry : DateTime}
    (stated : expiresAt now days = some expiry) : Agrees (String.ofList expiry.text) := by
  have marks : ∀ ch ∈ ['-', ':', 'T', 'Z'], ¬ Diverges ch :=
    List.all_iff_forall_prop.mp (by decide)
  have digits : ∀ width number, ∀ ch ∈ decimal width number, ¬ Diverges ch :=
    fun width number ch member => agrees_digit (isDigit_of_mem_decimal member)
  simp only [expiresAt] at stated
  split at stated
  · cases stated
    intro ch member
    simp only [String.toList_ofList, DateTime.text, DateTime.fractionText, UtcOffset.text,
      List.mem_append, List.mem_cons, List.not_mem_nil, or_false, or_assoc] at member
    rcases member with here | rfl | here | rfl | here | rfl | here | rfl | here | rfl | here | rfl
    all_goals first
      | exact digits _ _ _ here
      | exact marks _ (by simp)
  · cases stated

theorem bareVersion_agrees {version : String} (agrees : Agrees version) :
    Agrees (bareVersion version) := by
  unfold bareVersion
  split
  · rename_i rest split
    intro ch member
    rw [String.toList_ofList] at member
    exact agrees ch (split ▸ List.mem_cons_of_mem _ member)
  · exact agrees

theorem agrees_hex {text : String} (digits : text.toList.all isLowerHex = true) : Agrees text := by
  intro ch member
  have small := isLowerHex_small (List.all_eq_true.mp digits ch member)
  exact agrees_printable (by omega) (by omega)

section Payload

variable {builder : Builder} {args : BuildArgs} {artifact : Artifact} {expiry : DateTime}

theorem builtFields_distinct :
    ((builtFields builder args artifact expiry).map Prod.fst).Nodup := by
  change ["version", "tag", "artifact_url", "sha256", "size", "expires_at"].Nodup
  decide

theorem builtPayload_get (key : String) :
    get (keyed (builtPayload builder args artifact expiry)) key =
      (get (builtPayload builder args artifact expiry) key).map keyed :=
  get_keyed builtFields_distinct key

theorem builtPayload_plain : (builtPayload builder args artifact expiry).Plain := by
  refine .object builtFields_distinct fun entry member => ?_
  simp only [builtFields, List.mem_cons, List.not_mem_nil, or_false] at member
  rcases member with rfl | rfl | rfl | rfl | rfl | rfl
  all_goals first
    | exact .string _
    | exact .number _

/-- The manifest an app makes of what was published. -/
def publishedManifest (builder : Builder) (args : BuildArgs) (artifact : Artifact) :
    UpdateManifest where
  version := bareVersion args.version
  tag := args.tag
  artifactUrl := args.artifactUrl
  sha256 := builder.sha256Hex artifact.contents
  size := artifact.size

/-- What the updater reads of the payload. -/
theorem payload_version : getString (keyed (builtPayload builder args artifact expiry)) "version" =
    some (bareVersion args.version) := by
  rw [getString, builtPayload_get]
  rfl

theorem payload_tag : getString (keyed (builtPayload builder args artifact expiry)) "tag" =
    some args.tag := by
  rw [getString, builtPayload_get]
  rfl

theorem payload_artifactUrl :
    getString (keyed (builtPayload builder args artifact expiry)) "artifact_url" =
      some args.artifactUrl := by
  rw [getString, builtPayload_get]
  rfl

theorem payload_sha256 : getString (keyed (builtPayload builder args artifact expiry)) "sha256" =
    some (builder.sha256Hex artifact.contents) := by
  rw [getString, builtPayload_get]
  rfl

theorem payload_expiresAt :
    getString (keyed (builtPayload builder args artifact expiry)) "expires_at" =
      some (String.ofList expiry.text) := by
  rw [getString, builtPayload_get]
  rfl

theorem payload_size :
    (get (keyed (builtPayload builder args artifact expiry)) "size").bind readU64 =
      some artifact.size := by
  have fits := artifact.sizeFits
  have found : get (builtPayload builder args artifact expiry) "size" =
      some (.number artifact.size) := rfl
  have same : keyed (.number artifact.size) = .number artifact.size := by simp only [keyed]
  rw [builtPayload_get, found, Option.map_some, same, Option.bind_some, readU64,
    if_pos (by omega), Int.toNat_natCast]

/-- The manifest of the release, in the ranges that the updater checks. -/
theorem describes_iff [Unicode] {manifest : UpdateManifest}
    (tagged : args.tag = "v" ++ bareVersion args.version)
    (hex : (builder.sha256Hex artifact.contents).toList.all isLowerHex = true)
    (long : (builder.sha256Hex artifact.contents).toList.length = 64)
    (lower : Unicode.toLowercase (builder.sha256Hex artifact.contents) =
      builder.sha256Hex artifact.contents) :
    Describes (keyed (builtPayload builder args artifact expiry)) manifest ↔
      manifest = publishedManifest builder args artifact ∧
        isValidArtifactUrl args.artifactUrl args.tag = true ∧
        0 < artifact.size ∧ artifact.size ≤ maxArtifactBytes := by
  constructor
  · intro describes
    have version := describes.version
    have tag := describes.tag
    have url := describes.artifactUrl
    have sha := describes.sha256
    have size := describes.size
    rw [payload_version, Option.some.injEq] at version
    rw [payload_tag, Option.some.injEq] at tag
    rw [payload_artifactUrl, Option.some.injEq] at url
    rw [payload_sha256, Option.map_some, lower, Option.some.injEq] at sha
    rw [payload_size, Option.some.injEq] at size
    have located := describes.located
    have sized := describes.sized
    obtain ⟨v, t, u, h, n⟩ := manifest
    subst version tag url sha size
    exact ⟨rfl, located, sized⟩
  · rintro ⟨rfl, located, sized⟩
    refine ⟨payload_version, payload_tag, payload_artifactUrl, ?_, payload_size, ?_, located, ?_,
      sized⟩
    · rw [payload_sha256, Option.map_some, lower]
      rfl
    · rw [publishedManifest, isTagOf, tagged]
      simp
    · have ascii : ∀ ch ∈ (builder.sha256Hex artifact.contents).toList, ch.utf8Size = 1 := by
        intro ch member
        have small := isLowerHex_small (List.all_eq_true.mp hex ch member)
        rw [Char.utf8Size_eq_one_iff, UInt32.le_iff_toNat_le]
        exact small.2.trans (by decide)
      refine ⟨(byteLen_ascii ascii).trans long, ?_⟩
      apply List.all_eq_true.mpr
      intro ch member
      have digit := List.all_eq_true.mp hex ch member
      simp only [isLowerHex, Bool.or_eq_true] at digit
      simp only [isAsciiHexdigit, Bool.or_eq_true]
      exact Or.inl digit

/-- The manifest expires when its days have passed since the script ran. -/
theorem checkExpiry_iff {clock : Clock} {days : Nat} {now : Int} (recent : 1970 ≤ clock.year)
    (positive : 0 < days) (stated : expiresAt clock days = some expiry) :
    checkExpiry now (keyed (builtPayload builder args artifact expiry)) = .ok (.ok ()) ↔
      now / 1000000000 < clock.seconds + days * 86400 := by
  obtain ⟨reads, reading⟩ := expiresAt_reading recent stated
  have started : 0 ≤ clock.seconds := by
    have later : daysBeforeYear 1970 ≤ daysBeforeYear clock.year := by
      have years := foldl_years (clock.year - 1970)
      rw [show 1970 + (clock.year - 1970) = clock.year by omega] at years
      omega
    simp only [Clock.seconds, Date.dayNumber]
    omega
  rw [checkExpiry_some payload_expiresAt, reads]
  simp only [← reading]
  split
  · rename_i late
    have passed := le_nowTs_iff.mp late
    constructor
    · intro same
      cases same
    · omega
  · rename_i early
    have ahead : nowTs now < utcReading expiry := Nat.lt_of_not_le early
    refine ⟨fun _ => ?_, fun _ => rfl⟩
    rw [nowTs] at ahead
    omega

theorem located_agrees {artifactUrl tag : String} (located : isValidArtifactUrl artifactUrl tag = true)
    (agrees : Agrees tag) : Agrees artifactUrl := by
  have current : Agrees releaseDownloadPrefix := agrees_of_all (by decide)
  have legacy : Agrees legacyReleaseDownloadPrefix := agrees_of_all (by decide)
  have file : Agrees "/KakaoTalkLayoutAdBlocker_v11.exe" := agrees_of_all (by decide)
  simp only [isValidArtifactUrl] at located
  split at located
  · cases located
  · rw [Bool.or_eq_true, beq_iff_eq, beq_iff_eq] at located
    rcases located with rfl | rfl
    · exact (current.append agrees).append file
    · exact (legacy.append agrees).append file

theorem builtPayload_agrees {clock : Clock} {days : Nat} (version : Agrees args.version)
    (tagged : args.tag = "v" ++ bareVersion args.version)
    (located : isValidArtifactUrl args.artifactUrl args.tag = true)
    (hex : (builder.sha256Hex artifact.contents).toList.all isLowerHex = true)
    (stated : expiresAt clock days = some expiry) :
    ∀ text ∈ texts (builtPayload builder args artifact expiry), Agrees text := by
  have keys : ∀ text ∈ ["version", "tag", "artifact_url", "sha256", "size", "expires_at"],
      Agrees text := by
    have checked : ["version", "tag", "artifact_url", "sha256", "size", "expires_at"].all
        (fun text => text.toList.all fun ch => decide (¬ Diverges ch)) = true := by decide
    intro text member
    exact agrees_of_all (List.all_eq_true.mp checked text member)
  have bare := bareVersion_agrees version
  have tag : Agrees args.tag := by
    rw [tagged]
    exact Agrees.append (agrees_of_all (by decide)) bare
  intro text member
  simp only [builtPayload, builtFields, texts, fieldTexts, List.mem_cons, List.cons_append,
    List.nil_append, List.not_mem_nil, or_false] at member
  rcases member with rfl | rfl | rfl | rfl | rfl | rfl | rfl | rfl | rfl | rfl | rfl
  · exact keys _ (by simp)
  · exact bare
  · exact keys _ (by simp)
  · exact tag
  · exact keys _ (by simp)
  · exact located_agrees located tag
  · exact keys _ (by simp)
  · exact agrees_hex hex
  · exact keys _ (by simp)
  · exact keys _ (by simp)
  · exact agrees_expiry stated

end Payload

/-- What the script and the updater take from others: digests in lower case, a parser and a
decoder that undo the printing, and a private key that belongs to the public one. -/
structure Interoperates [Unicode] (crates : Crates) (builder : Builder) (args : BuildArgs)
    (env : BuildEnv) : Prop where
  hex : ∀ contents, (builder.sha256Hex contents).toList.all isLowerHex = true
  long : ∀ contents, (builder.sha256Hex contents).toList.length = 64
  lower : ∀ contents,
    Unicode.toLowercase (builder.sha256Hex contents) = builder.sha256Hex contents
  reads : ∀ key artifact expiry, signingKey builder env = .ok key →
    findArtifact args env = some artifact →
    expiresAt env.now args.expiresInDays.toNat = some expiry →
    let document := builtDocument builder key (builtPayload builder args artifact expiry)
    crates.parseJson (publishedBytes builder document) = some (keyed document)
  signs : ∀ key, signingKey builder env = .ok key → ∃ publicBytes publicKey,
    crates.decodeBase64 updatePublicKeyB64 = some publicBytes ∧ publicBytes.length = 32 ∧
    crates.verifyingKey publicBytes = some publicKey ∧
    ∀ bytes, (builder.sign key bytes).length = 64 ∧
      crates.decodeBase64 (builder.b64encode (builder.sign key bytes)) =
        some (builder.sign key bytes) ∧
      crates.verifies publicKey bytes (builder.sign key bytes) = true

section Document

variable [Unicode] {crates : Crates} {builder : Builder} {args : BuildArgs} {env : BuildEnv}
  {document : Bytes} {artifact : Artifact} {expiry : DateTime} {key : builder.Key} {payload : Json}

omit [Unicode] in
theorem builtDocument_payload : get (keyed (builtDocument builder key payload)) "payload" =
    some (keyed payload) := by
  rw [builtDocument, get_keyed (by change ["payload", "signature"].Nodup; decide)]
  rfl

omit [Unicode] in
theorem builtDocument_signature : getString (keyed (builtDocument builder key payload)) "signature" =
    some (builder.b64encode (builder.sign key (canonicalPayload builder.floatRepr payload))) := by
  rw [builtDocument, getString, get_keyed (by change ["payload", "signature"].Nodup; decide)]
  rfl

/-- The signature covers what the updater prints of the payload. -/
theorem signed_published (interoperates : Interoperates crates builder args env)
    (signing : signingKey builder env = .ok key) (found : findArtifact args env = some artifact)
    (stated : expiresAt env.now args.expiresInDays.toNat = some expiry)
    (small : (publishedBytes builder
      (builtDocument builder key (builtPayload builder args artifact expiry))).length ≤
        maxManifestBytes)
    (agrees : ∀ text ∈ texts (builtPayload builder args artifact expiry), Agrees text) :
    Signed crates (publishedBytes builder
        (builtDocument builder key (builtPayload builder args artifact expiry)))
      (keyed (builtPayload builder args artifact expiry)) := by
  obtain ⟨publicBytes, publicKey, decoded, size, valid, holds⟩ := interoperates.signs key signing
  have printed : canonicalPayloadPython crates.printFloat
      (keyed (builtPayload builder args artifact expiry)) =
        .ok (canonicalPayload builder.floatRepr (builtPayload builder args artifact expiry)) := by
    rw [canonicalPayloadPython, pythonishDumps_keyed, canonicalPayload,
      pythonishDumps_of_agrees builtPayload_plain agrees]
  refine ⟨small, _, _, _, publicBytes, publicKey, _,
    interoperates.reads key artifact expiry signing found stated, builtDocument_payload,
    builtDocument_signature, (holds _).2.1, (holds _).1, decoded, size, valid, printed,
    (holds _).2.2⟩

omit [Unicode] in
/-- What a script that ends without an error has checked. -/
theorem buildUpdateManifest_ok (built : buildUpdateManifest builder args env = .ok document) :
    ∃ artifact key expiry, findArtifact args env = some artifact ∧
      args.tag = "v" ++ bareVersion args.version ∧ 0 < args.expiresInDays ∧
      signingKey builder env = .ok key ∧
      expiresAt env.now args.expiresInDays.toNat = some expiry ∧
      document = publishedBytes builder
        (builtDocument builder key (builtPayload builder args artifact expiry)) := by
  unfold buildUpdateManifest at built
  split at built
  · cases built
  · rename_i artifact found
    simp only [throw_if_ok, except_bind_ok] at built
    obtain ⟨_, tagged, positive, key, signing, rest⟩ := built
    split at rest
    · cases rest
    · rename_i expiry stated
      cases rest
      exact ⟨artifact, key, expiry, found, not_not.mp tagged, not_le.mp positive, signing, stated,
        rfl⟩

/-- When the updater accepts what the script has published: the document and the file are of
a size it takes, the address is the expected one, the release has not expired, and its
version is newer. -/
structure Acceptable (args : BuildArgs) (env : BuildEnv) (artifact : Artifact) (document : Bytes)
    (now : Int) (currentVersion : String) : Prop where
  small : document.length ≤ maxManifestBytes
  located : isValidArtifactUrl args.artifactUrl args.tag = true
  sized : 0 < artifact.size ∧ artifact.size ≤ maxArtifactBytes
  unexpired : now / 1000000000 < env.now.seconds + args.expiresInDays * 86400
  newer : isNewer (bareVersion args.version) currentVersion = .ok true

/-- The updater accepts the published document exactly when it is small, the artifact has its
place and a size in range, fewer days have passed than the script was told, and the release is
newer; and then it reads the release as it was described. -/
theorem published_accepted_iff (interoperates : Interoperates crates builder args env)
    (agrees : Agrees args.version) (recent : 1970 ≤ env.now.year)
    (built : buildUpdateManifest builder args env = .ok document) :
    ∃ artifact, findArtifact args env = some artifact ∧ ∀ now currentVersion manifest,
      parseAndVerifyManifest crates now document currentVersion = .ok (.ok manifest) ↔
        manifest = publishedManifest builder args artifact ∧
          Acceptable args env artifact document now currentVersion := by
  obtain ⟨artifact, key, expiry, found, tagged, positive, signing, stated, rfl⟩ :=
    buildUpdateManifest_ok built
  refine ⟨artifact, found, fun now currentVersion manifest => ?_⟩
  have days : 0 < args.expiresInDays.toNat := by omega
  have span : (args.expiresInDays.toNat : Int) = args.expiresInDays := by omega
  have describes : Describes (keyed (builtPayload builder args artifact expiry)) manifest ↔ _ :=
    describes_iff tagged (interoperates.hex _) (interoperates.long _) (interoperates.lower _)
  have expires : checkExpiry now (keyed (builtPayload builder args artifact expiry)) =
      .ok (.ok ()) ↔ _ := checkExpiry_iff recent days stated
  rw [span] at expires
  rw [parseAndVerifyManifest_ok]
  constructor
  · rintro ⟨payload, accepted⟩
    obtain ⟨parsed, _, _, _, _, _, parses, isPayload, _⟩ := accepted.signed.verified
    rw [interoperates.reads key artifact expiry signing found stated] at parses
    cases parses
    rw [builtDocument_payload] at isPayload
    cases isPayload
    obtain ⟨rfl, located, sized⟩ := describes.mp accepted.describes
    exact ⟨rfl, accepted.signed.small, located, sized, expires.mp accepted.unexpired,
      accepted.newer⟩
  · rintro ⟨rfl, acceptable⟩
    have signed := signed_published interoperates signing found stated acceptable.small
      (builtPayload_agrees agrees tagged acceptable.located (interoperates.hex _) stated)
    exact ⟨_, signed, describes.mpr ⟨rfl, acceptable.located, acceptable.sized⟩,
      expires.mpr acceptable.unexpired, acceptable.newer⟩

end Document

/-- The digest of the artifact of that release. -/
def releaseDigest : String := "d14214e95c9d1ea850e508dfe27928494f2155a7597e4ea0bad9f70690abb397"

theorem releaseDigest_hex : releaseDigest.toList.all isLowerHex = true ∧
    releaseDigest.toList.length = 64 ∧ asciiLowercase.toLowercase releaseDigest = releaseDigest := by
  decide +kernel

/-- A builder whose digests and signatures are fixed. -/
def releaseBuilder : Builder where
  floatRepr _ := []
  linesep := ['\r', '\n']
  sha256Hex _ := releaseDigest
  b64encode _ := sampleSignature
  Key := Unit
  privateKey _ := some ()
  sign _ _ := List.replicate 64 0

def releaseArgs : BuildArgs where
  version := "v11.2.0"
  tag := "v11.2.0"
  artifact := "dist/KakaoTalkLayoutAdBlocker_v11.exe"
  artifactUrl := expectedArtifactUrl "v11.2.0"

def releaseArtifact : Artifact where
  contents := [77, 90, 144]
  size := 3
  sizeFits := by decide

/-- The clock, the key and the artifact of that release. -/
def releaseEnv : BuildEnv where
  artifact := some releaseArtifact
  privateKeyB64 := some "key\n"
  now :=
    { year := 2026, month := 10, day := 4, monthValid := by decide, dayValid := by decide
      hour := 12, hourValid := by decide, minute := 30, minuteValid := by decide
      second := 15, secondValid := by decide }

def releaseDocument : Option Json :=
  (expiresAt releaseEnv.now 365).map fun expiry =>
    builtDocument releaseBuilder () (builtPayload releaseBuilder releaseArgs releaseArtifact expiry)

def releaseCrates : Crates where
  parseJson document :=
    releaseDocument.bind fun built =>
      if document = publishedBytes releaseBuilder built then some (keyed built) else none
  printFloat _ := []
  decodeBase64 := (sampleCrates "").decodeBase64
  Key := Bytes
  verifyingKey bytes := some bytes
  verifies _ _ _ := true

theorem release_interoperates :
    @Interoperates asciiLowercase releaseCrates releaseBuilder releaseArgs releaseEnv := by
  refine @Interoperates.mk asciiLowercase _ _ _ _ (fun _ => releaseDigest_hex.1)
    (fun _ => releaseDigest_hex.2.1) (fun _ => releaseDigest_hex.2.2) ?_ ?_
  · intro key artifact expiry _ found stated
    cases key
    have same : releaseArtifact = artifact := Option.some.inj found
    subst same
    have listed : releaseDocument = some (builtDocument releaseBuilder ()
        (builtPayload releaseBuilder releaseArgs releaseArtifact expiry)) := by
      rw [releaseDocument]
      exact congrArg (Option.map _) stated
    simp only [releaseCrates, listed, Option.bind_some]
    exact if_pos trivial
  · intro key _
    have decoded : releaseCrates.decodeBase64 sampleSignature = some (List.replicate 64 0) := by
      decide
    exact ⟨_, _, rfl, by decide, rfl, fun _ => ⟨List.length_replicate, decoded, rfl⟩⟩

theorem release_built : (buildUpdateManifest releaseBuilder releaseArgs releaseEnv).toOption.any
    (fun document => document.length ≤ maxManifestBytes) = true := by
  decide +kernel

/-- The release is accepted within the year. -/
theorem release_accepted :
    ∃ document, buildUpdateManifest releaseBuilder releaseArgs releaseEnv = .ok document ∧
      @parseAndVerifyManifest asciiLowercase releaseCrates 1800000000000000000 document "11.1.14" =
        .ok (.ok (publishedManifest releaseBuilder releaseArgs releaseArtifact)) := by
  have small := release_built
  cases built : buildUpdateManifest releaseBuilder releaseArgs releaseEnv with
  | error error =>
      rw [built] at small
      cases small
  | ok document =>
      rw [built] at small
      have agrees : Agrees releaseArgs.version := agrees_of_all (by decide)
      have recent : 1970 ≤ releaseEnv.now.year := by decide
      obtain ⟨artifact, found, accepts⟩ := @published_accepted_iff asciiLowercase _ _ _ _ _
        release_interoperates agrees recent built
      have same : releaseArtifact = artifact := Option.some.inj found
      subst same
      refine ⟨document, rfl, (accepts _ _ _).mpr ⟨rfl, ?_⟩⟩
      have located : isValidArtifactUrl releaseArgs.artifactUrl releaseArgs.tag = true := by
        decide +kernel
      exact ⟨of_decide_eq_true small, located, by decide, by decide, by decide⟩

end LayoutAdblock.Release
