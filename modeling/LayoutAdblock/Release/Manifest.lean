import Mathlib.Algebra.Ring.Int.Defs
import LayoutAdblock.Data.ByteSlice
import LayoutAdblock.Release.Version

namespace LayoutAdblock.Release

open LayoutAdblock.Core Data Interaction

/-! # The update manifest

A manifest is accepted when its signature holds over the canonical payload, the
payload describes a release of this program, it has not expired, and the release
is newer.  Reading a document, base64 and the signature are left to the crates.
-/

/-- What an update is described by. All of it is checked before a manifest is made. -/
structure UpdateManifest where
  version : String
  tag : String
  artifactUrl : String
  sha256 : String
  size : Nat
deriving DecidableEq, Repr

/-- The crates `serde_json`, `base64` and `ed25519_dalek`, as the updater uses them: how
they read and print a document, decode a text, read a key and verify a signature. -/
structure Crates where
  parseJson : Bytes → Option Json
  printFloat : Float → List Char
  decodeBase64 : String → Option Bytes
  Key : Type
  verifyingKey : Bytes → Option Key
  verifies : Key → Bytes → Bytes → Bool

/-- A text is cut between the bytes of a character. -/
inductive Panic where
  | charBoundary
deriving DecidableEq, Repr

/-- Where the releases of the project are downloaded from. -/
def releaseDownloadPrefix : String :=
  "https://github.com/twbeatles/kakaotalk-layout-adblocker/releases/download/"

/-- Where they were before the project was renamed, for manifests that still say so. -/
def legacyReleaseDownloadPrefix : String :=
  "https://github.com/twbeatles/kakaotalk-pc-adblock-py/releases/download/"

def maxManifestBytes : Nat := 64 * 1024

def maxArtifactBytes : Nat := 512 * 1024 * 1024

/-- The key of the project, which is built into the app. -/
def updatePublicKeyB64 : String := "Cix9d2r5UZxpDL4Bp9CWNrjMDRTQHF5Y1snTMYnMQ2U="

/-- The one address an artifact of that tag has. -/
def expectedArtifactUrl (tag : String) : String :=
  releaseDownloadPrefix ++ tag ++ "/KakaoTalkLayoutAdBlocker_v11.exe"

/-- The address is the expected one, before or after the project was renamed. -/
def isValidArtifactUrl (artifactUrl tag : String) : Bool :=
  if !startsWith artifactUrl "https://" then false
  else
    artifactUrl == expectedArtifactUrl tag ||
      artifactUrl == legacyReleaseDownloadPrefix ++ tag ++ "/KakaoTalkLayoutAdBlocker_v11.exe"

/-- `Value::get` -/
def get (value : Json) (key : String) : Option Json :=
  match value with
  | .object fields => fields.lookup key
  | _ => none

def getString (value : Json) (key : String) : Option String :=
  (get value key).bind Json.readString

/-- `Value::as_u64` -/
def readU64 : Json → Option Nat
  | .number value => if 0 ≤ value ∧ value < 2 ^ 64 then some value.toNat else none
  | _ => none

def orError {α : Type} (error : UpdateError) : Option α → Except UpdateError α
  | some value => .ok value
  | none => .error error

/-- The one error of everything that is wrong with the signature or the form of a document. -/
def unverified : UpdateError := .message "업데이트 서명 또는 형식 검증에 실패했습니다."

/-- The payload of a document whose signature holds. A document that is too long is not even
parsed. -/
def signedPayload (crates : Crates) (document : Bytes) : Except UpdateError Json := do
  if document.length > maxManifestBytes then
    throw (.message "업데이트 매니페스트가 올바르지 않습니다.")
  let parsed ← orError unverified (crates.parseJson document)
  let payload ← orError unverified (get parsed "payload")
  let signatureB64 ← orError unverified (getString parsed "signature")
  let signature ← orError unverified (crates.decodeBase64 signatureB64)
  let publicBytes ← orError unverified (crates.decodeBase64 updatePublicKeyB64)
  if publicBytes.length ≠ 32 then throw unverified
  let key ← orError unverified (crates.verifyingKey publicBytes)
  if signature.length ≠ 64 then throw unverified
  let canonical ← canonicalPayloadPython crates.printFloat payload
  if !crates.verifies key canonical signature then throw unverified
  return payload

/-- The one error of everything that is wrong with the description of the file. -/
def wrongFile : UpdateError := .message "업데이트 파일 정보가 올바르지 않습니다."

def isAsciiHexdigit (ch : Char) : Bool :=
  ch.isDigit || 'a' ≤ ch && ch ≤ 'f' || 'A' ≤ ch && ch ≤ 'F'

/-- `tag.starts_with('v')` and `tag[1..] == version` -/
def isTagOf (tag version : String) : Bool :=
  match tag.toList with
  | 'v' :: rest => rest == version.toList
  | _ => false

/-- The release that a payload describes. Tag, address, digest and size have to be well
formed and to fit each other. -/
def describe [Unicode] (payload : Json) : Except UpdateError UpdateManifest := do
  let version ← orError unverified (getString payload "version")
  let tag ← orError unverified (getString payload "tag")
  let artifactUrl ← orError unverified (getString payload "artifact_url")
  let sha256 := Unicode.toLowercase (← orError wrongFile (getString payload "sha256"))
  let size ← orError wrongFile ((get payload "size").bind readU64)
  if !isTagOf tag version then throw (.message "업데이트 태그 정보가 올바르지 않습니다.")
  if !isValidArtifactUrl artifactUrl tag then
    throw (.message "업데이트 파일 위치가 올바르지 않습니다.")
  if byteLen sha256.toList ≠ 64 || !sha256.toList.all isAsciiHexdigit then throw wrongFile
  if size = 0 || size > maxArtifactBytes then
    throw (.message "업데이트 파일 크기가 허용 범위를 벗어났습니다.")
  return { version, tag, artifactUrl, sha256, size }

def isLeapYear (y : Nat) : Bool := y % 4 == 0 && !(y % 100 == 0) || y % 400 == 0

/-- Where year, month, day, hour, minute and second are cut out. -/
def timestampCuts : List (Nat × Nat) :=
  [(0, 4), (5, 7), (8, 10), (11, 13), (14, 16), (17, 19)]

/-- `s[start..stop].parse().ok()?` for one cut after the other. A cut within a character
panics, and only a cut that was reached does. -/
def readFields (s : List Char) : List (Nat × Nat) → Except Panic (Option (List Nat))
  | [] => .ok (some [])
  | (start, stop) :: rest =>
      match slice s start stop with
      | none => .error .charBoundary
      | some piece =>
          match parseUnsigned (2 ^ 64) piece with
          | none => .ok none
          | some value => (readFields s rest).map (Option.map (value :: ·))

/-- The seconds since 1970 of a date and a time of day. A day up to the 31st is taken in
every month, and counted on into the next one. -/
def timestamp (year month day hour min sec : Nat) : Option Nat :=
  if !(1 ≤ month && month ≤ 12) || !(1 ≤ day && day ≤ 31) || hour > 23 || min > 59 || sec > 60 then
    none
  else
    let days := (List.range' 1970 (year - 1970)).foldl
      (fun days y => days + if isLeapYear y then 366 else 365) 0
    let daysInMonths :=
      if isLeapYear year then [0, 31, 29, 31, 30, 31, 30, 31, 31, 30, 31, 30, 31]
      else [0, 31, 28, 31, 30, 31, 30, 31, 31, 30, 31, 30, 31]
    let days := (List.range' 1 (month - 1)).foldl
      (fun days m => days + daysInMonths.getD m 0) days
    let days := days + (day - 1)
    some (days * 86400 + hour * 3600 + min * 60 + sec)

/-- The time of expiry in seconds, or none where the text is no time. The offset is not
looked at, and a text that is cut within a character makes the slicing panic. -/
def parseRfc3339Timestamp (s : String) : Except Panic (Option Nat) :=
  let s := (trim s).toList
  if byteLen s < 19 then .ok none
  else do
    match ← readFields s timestampCuts with
    | some [year, month, day, hour, min, sec] => return timestamp year month day hour min sec
    | _ => return none

/-- Whole seconds since 1970; the clock counts nanoseconds from there and may stand
before. -/
def nowTs (now : Int) : Nat := (now / 1000000000).toNat

def expired : UpdateError := .message "업데이트 매니페스트가 만료되었습니다."

/-- A manifest without a time of expiry never expires, and neither does one whose time
cannot be read. -/
def checkExpiry (now : Int) (payload : Json) : Except Panic (Except UpdateError Unit) :=
  match getString payload "expires_at" with
  | none => .ok (.ok ())
  | some expiresAt => do
      match ← parseRfc3339Timestamp expiresAt with
      | some expTs =>
          if expTs ≤ nowTs now then return .error expired else return .ok ()
      -- a timestamp that cannot be read is accepted with a warning
      | none => return .ok ()

/-- A document becomes a manifest in four steps: its signature, its description, its time of
expiry and its version. -/
def parseAndVerifyManifest [Unicode] (crates : Crates) (now : Int) (document : Bytes)
    (currentVersion : String) : Except Panic (Except UpdateError UpdateManifest) :=
  match signedPayload crates document with
  | .error error => .ok (.error error)
  | .ok payload =>
      match describe payload with
      | .error error => .ok (.error error)
      | .ok manifest => do
          match ← checkExpiry now payload with
          | .error error => return .error error
          | .ok () =>
              match isNewer manifest.version currentVersion with
              | .error error => return .error error
              | .ok newer => return if newer then .ok manifest else .error .noUpdate

end LayoutAdblock.Release
