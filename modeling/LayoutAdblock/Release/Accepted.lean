import LayoutAdblock.Release.Manifest

namespace LayoutAdblock.Release

open LayoutAdblock.Core Data Interaction

/-! # What an accepted manifest says

The checks of `parse_and_verify_manifest`, taken apart.
-/

variable {crates : Crates} {now : Int} {document : Bytes} {currentVersion : String}
  {payload : Json} {manifest : UpdateManifest}

/-- The payload of the document bears a signature that holds under the key of this
program. -/
structure Signed (crates : Crates) (document : Bytes) (payload : Json) : Prop where
  small : document.length ≤ maxManifestBytes
  verified : ∃ parsed signatureB64 signature publicBytes key canonical,
    crates.parseJson document = some parsed ∧ get parsed "payload" = some payload ∧
    getString parsed "signature" = some signatureB64 ∧
    crates.decodeBase64 signatureB64 = some signature ∧ signature.length = 64 ∧
    crates.decodeBase64 updatePublicKeyB64 = some publicBytes ∧ publicBytes.length = 32 ∧
    crates.verifyingKey publicBytes = some key ∧
    canonicalPayloadPython crates.printFloat payload = .ok canonical ∧
    crates.verifies key canonical signature = true

/-- The release that the payload describes, with every field in its range: the tag belongs
to the version, the address to the tag, and the digest and the size are those of a file that
may be downloaded. -/
structure Describes [Unicode] (payload : Json) (manifest : UpdateManifest) : Prop where
  version : getString payload "version" = some manifest.version
  tag : getString payload "tag" = some manifest.tag
  artifactUrl : getString payload "artifact_url" = some manifest.artifactUrl
  sha256 : (getString payload "sha256").map Unicode.toLowercase = some manifest.sha256
  size : (get payload "size").bind readU64 = some manifest.size
  tagged : isTagOf manifest.tag manifest.version = true
  located : isValidArtifactUrl manifest.artifactUrl manifest.tag = true
  hexadecimal : byteLen manifest.sha256.toList = 64 ∧ manifest.sha256.toList.all isAsciiHexdigit
  sized : 0 < manifest.size ∧ manifest.size ≤ maxArtifactBytes

/-- All that a manifest has to be before the app takes it: signed with the key of the
project, well formed, not expired, and of a newer version than the one that runs. -/
structure Accepted [Unicode] (crates : Crates) (now : Int) (document : Bytes)
    (currentVersion : String) (payload : Json) (manifest : UpdateManifest) : Prop where
  signed : Signed crates document payload
  describes : Describes payload manifest
  unexpired : checkExpiry now payload = .ok (.ok ())
  newer : isNewer manifest.version currentVersion = .ok true

theorem orError_ok {α : Type} {error : UpdateError} {value : α} {found : Option α} :
    orError error found = .ok value ↔ found = some value := by
  cases found with
  | none => simp [orError]
  | some other => simp [orError]

theorem except_bind_ok {ε α β : Type} {first : Except ε α} {next : α → Except ε β} {last : β} :
    (first >>= next) = .ok last ↔ ∃ value, first = .ok value ∧ next value = .ok last := by
  cases first with
  | error error => simp [bind, Except.bind]
  | ok value => simp [bind, Except.bind]

/-- A check that throws when it fails. -/
theorem throw_if_ok {ε α : Type} {condition : Prop} [Decidable condition] {error : ε}
    {next : PUnit → Except ε α} {rest : Except ε α} {last : α} :
    (if condition then throw error >>= next else rest) = .ok last ↔
      ¬ condition ∧ rest = .ok last := by
  by_cases held : condition
  · simp [held, throw, throwThe, MonadExceptOf.throw, bind, Except.bind]
  · simp [held]

theorem signedPayload_ok : signedPayload crates document = .ok payload ↔
    Signed crates document payload := by
  simp only [signedPayload, except_bind_ok, throw_if_ok, orError_ok]
  constructor
  · rintro ⟨small, parsed, parses, value, found, signatureB64, text, signature, decoded,
      publicBytes, encoded, long, key, valid, size, canonical, prints, holds, same⟩
    cases same
    exact ⟨not_lt.mp small, parsed, signatureB64, signature, publicBytes, key, canonical, parses,
      found, text, decoded, not_not.mp size, encoded, not_not.mp long, valid, prints,
      by simpa using holds⟩
  · rintro ⟨small, parsed, signatureB64, signature, publicBytes, key, canonical, parses, found,
      text, decoded, size, encoded, long, valid, prints, holds⟩
    exact ⟨not_lt.mpr small, parsed, parses, payload, found, signatureB64, text, signature, decoded,
      publicBytes, encoded, not_not.mpr long, key, valid, not_not.mpr size, canonical, prints,
      by simpa using holds, rfl⟩

theorem describe_ok [Unicode] : describe payload = .ok manifest ↔ Describes payload manifest := by
  simp only [describe, except_bind_ok, throw_if_ok, orError_ok]
  constructor
  · rintro ⟨version, isVersion, tag, isTag, url, isUrl, sha, isSha, size, isSize, tagged, located,
      hexadecimal, sized, same⟩
    cases same
    simp only [Bool.or_eq_true, decide_eq_true_eq, not_or] at hexadecimal sized
    refine ⟨isVersion, isTag, isUrl, ?_, isSize, ?_, ?_, ?_, ?_⟩
    · rw [isSha]
      rfl
    · simpa using tagged
    · simpa using located
    · exact ⟨not_not.mp hexadecimal.1, by simpa using hexadecimal.2⟩
    · change 0 < size ∧ size ≤ maxArtifactBytes
      omega
  · rintro ⟨isVersion, isTag, isUrl, isSha, isSize, tagged, located, hexadecimal, sized⟩
    obtain ⟨sha, found, lower⟩ := Option.map_eq_some_iff.mp isSha
    refine ⟨_, isVersion, _, isTag, _, isUrl, sha, found, _, isSize, ?_, ?_, ?_, ?_, ?_⟩
    · simp [tagged]
    · simp [located]
    · simp [lower, hexadecimal.1, hexadecimal.2]
    · simp only [Bool.or_eq_true, decide_eq_true_eq]
      omega
    · rw [lower]
      rfl

theorem parseAndVerifyManifest_ok [Unicode] :
    parseAndVerifyManifest crates now document currentVersion = .ok (.ok manifest) ↔
      ∃ payload, Accepted crates now document currentVersion payload manifest := by
  unfold parseAndVerifyManifest
  constructor
  · intro accepts
    split at accepts
    · cases accepts
    · rename_i payload signed
      split at accepts
      · cases accepts
      · rename_i described isManifest
        obtain ⟨verdict, checked, rest⟩ := except_bind_ok.mp accepts
        cases verdict with
        | error error => cases rest
        | ok value =>
            cases newer : isNewer described.version currentVersion with
            | error error =>
                rw [newer] at rest
                cases rest
            | ok decided =>
                rw [newer] at rest
                cases decided with
                | false => cases rest
                | true =>
                    cases rest
                    exact ⟨payload, signedPayload_ok.mp signed, describe_ok.mp isManifest, checked,
                      newer⟩
  · rintro ⟨payload, accepted⟩
    rw [signedPayload_ok.mpr accepted.signed]
    simp only [describe_ok.mpr accepted.describes, accepted.unexpired, accepted.newer, bind,
      Except.bind]
    rfl

end LayoutAdblock.Release
