import LayoutAdblock.Data.Overlay
import LayoutAdblock.Release.Expiry
import LayoutAdblock.Release.Http

namespace LayoutAdblock.Release

open LayoutAdblock.Core Data Interaction

/-! # The release script

`build_update_manifest.py` describes an artifact, signs the description, and writes
both with a line for each item.
-/

/-- A line break with the indentation of that level. -/
def newLine (level : Nat) : List Char := '\n' :: List.replicate (2 * level) ' '

section Printer

variable (floatRepr : Float → List Char)

mutual

/-- `json.dumps(…, ensure_ascii=False, sort_keys=True, indent=2)` -/
def indentedDumps (level : Nat) : Json → List Char
  | .null => "null".toList
  | .bool true => "true".toList
  | .bool false => "false".toList
  | .number value => (toString value).toList
  | .decimal value => floatRepr value
  | .string text => pythonString text
  | .array [] => "[]".toList
  | .array items =>
      '[' :: newLine (level + 1) ++
        (',' :: newLine (level + 1)).intercalate (indentedItems (level + 1) items) ++
          newLine level ++ [']']
  | .object [] => "\x7b\x7d".toList
  | .object fields =>
      '{' :: newLine (level + 1) ++
        (',' :: newLine (level + 1)).intercalate
          (((indentedFields (level + 1) fields).insertionSort byCharacters).map fun entry =>
            pythonString entry.1 ++ ':' :: ' ' :: entry.2) ++
          newLine level ++ ['}']

/-- The items of an array, each on a line of its own. -/
def indentedItems (level : Nat) : List Json → List (List Char)
  | [] => []
  | item :: rest => indentedDumps level item :: indentedItems level rest

/-- The fields of an object, each on a line of its own. -/
def indentedFields (level : Nat) : List (String × Json) → List (String × List Char)
  | [] => []
  | (key, value) :: rest => (key, indentedDumps level value) :: indentedFields level rest

end

/-- A text file, with its lines ended the way of the platform. -/
def writtenText (linesep text : List Char) : Bytes :=
  utf8 (text.flatMap fun ch => if ch = '\n' then linesep else [ch])

end Printer

/-- The standard library and the `cryptography` package, as the build script uses them: how
they print floats and lines, digest and encode bytes, and sign with a key. -/
structure Builder where
  floatRepr : Float → List Char
  linesep : List Char
  sha256Hex : Bytes → String
  b64encode : Bytes → String
  Key : Type
  /-- `from_private_bytes(b64decode(…))` -/
  privateKey : String → Option Key
  sign : Key → Bytes → Bytes

/-- The arguments of the build script. A manifest is valid for a year by default. -/
structure BuildArgs where
  version : String
  tag : String
  artifact : String
  artifactUrl : String
  expiresInDays : Int := 365

/-- A reading of the clock, in universal time. -/
structure Clock extends Date where
  hour : Nat
  hourValid : hour ≤ 23
  minute : Nat
  minuteValid : minute ≤ 59
  second : Nat
  secondValid : second ≤ 59

/-- A file, and the size that `stat` states. -/
structure Artifact where
  contents : Bytes
  size : Nat
  sizeFits : size < 2 ^ 63

/-- What the script finds: the artifact, if it is a file, and the variable that holds
the private key. -/
structure BuildEnv where
  artifact : Option Artifact
  privateKeyB64 : Option String
  now : Clock

/-- Why the script has stopped. A date outside the calendar is an error of its own in
Python. -/
inductive BuildError where
  | valueError (text : String)
  | overflowError
deriving DecidableEq, Repr

def fileName (path : String) : List Char :=
  ((path.toList.reverse.dropWhile isSeparator).takeWhile fun ch => !isSeparator ch).reverse

/-- `Path.suffix` -/
def suffix (path : String) : List Char :=
  let name := fileName path
  let ending := (name.reverse.takeWhile fun ch => ch != '.').reverse
  if ending ≠ [] ∧ ending.length + 1 < name.length then '.' :: ending else []

/-- `str.removeprefix('v')` -/
def bareVersion (version : String) : String :=
  match version.toList with
  | 'v' :: rest => String.ofList rest
  | _ => version

/-- `str.isspace` -/
def isSpace (ch : Char) : Bool := isWhitespace ch || 0x1c ≤ ch.toNat && ch.toNat ≤ 0x1f

/-- `str.strip` -/
def strip (text : String) : String :=
  String.ofList ((text.toList.dropWhile isSpace).reverse.dropWhile isSpace).reverse

theorem isoSeparator_valid : 'T' = 'T' ∨ 'T' = 't' ∨ 'T' = ' ' := Or.inl rfl

/-- `now + timedelta(days=…)` without its fraction of a second; years have four digits. -/
def expiresAt (now : Clock) (days : Nat) : Option DateTime :=
  let date := Date.next^[days] now.toDate
  if fits : date.year ≤ 9999 then
    some
      { date with
        yearValid := fits
        separator := 'T'
        separatorValid := isoSeparator_valid
        hour := now.hour
        hourValid := now.hourValid
        minute := now.minute
        minuteValid := now.minuteValid
        second := now.second
        secondValid := Nat.le_succ_of_le now.secondValid
        fraction := none
        offset := .zulu 'Z' (Or.inl rfl) }
  else none

/-- The fields of the payload in the order in which the script writes them. -/
def builtFields (builder : Builder) (args : BuildArgs) (artifact : Artifact)
    (expiry : DateTime) : List (String × Json) :=
  [("version", .string (bareVersion args.version)), ("tag", .string args.tag),
    ("artifact_url", .string args.artifactUrl),
    ("sha256", .string (builder.sha256Hex artifact.contents)), ("size", .number artifact.size),
    ("expires_at", .string (String.ofList expiry.text))]

/-- What is signed: where the artifact is, what it is, and until when that holds. -/
def builtPayload (builder : Builder) (args : BuildArgs) (artifact : Artifact)
    (expiry : DateTime) : Json :=
  .object (builtFields builder args artifact expiry)

/-- The file that is published. The signature is over the canonical text of the payload, not
over the one in the file. -/
def builtDocument (builder : Builder) (key : builder.Key) (payload : Json) : Json :=
  .object [("payload", payload), ("signature",
    .string (builder.b64encode (builder.sign key (canonicalPayload builder.floatRepr payload))))]

/-- The bytes of `update.json`. -/
def publishedBytes (builder : Builder) (document : Json) : Bytes :=
  writtenText builder.linesep (indentedDumps builder.floatRepr 0 document ++ ['\n'])

/-- The artifact, if the path names an executable and there is a file. -/
def findArtifact (args : BuildArgs) (env : BuildEnv) : Option Artifact :=
  if (suffix args.artifact).map Char.toLower = ".exe".toList then env.artifact else none

/-- The key in the environment, which is base64 with blanks around it allowed. -/
def signingKey (builder : Builder) (env : BuildEnv) : Except BuildError builder.Key :=
  let privateB64 := strip (env.privateKeyB64.getD "")
  if privateB64.isEmpty then .error (.valueError "KAKAO_UPDATE_PRIVATE_KEY_B64 is not set")
  else
    match builder.privateKey privateB64 with
    | some key => .ok key
    | none => .error (.valueError "KAKAO_UPDATE_PRIVATE_KEY_B64 is not a private key")

/-- `main`, up to the file that it writes. It ends with an error before anything is signed
where an argument is not as it should be. -/
def buildUpdateManifest (builder : Builder) (args : BuildArgs) (env : BuildEnv) :
    Except BuildError Bytes :=
  match findArtifact args env with
  | none => .error (.valueError "--artifact must be an existing .exe")
  | some artifact => do
      if !startsWith args.artifactUrl "https://" then
        throw (.valueError "--artifact-url must use HTTPS")
      if args.tag ≠ "v" ++ bareVersion args.version then
        throw (.valueError "--tag must be v followed by --version")
      if args.expiresInDays ≤ 0 then
        throw (.valueError "--expires-in-days must be positive")
      let key ← signingKey builder env
      match expiresAt env.now args.expiresInDays.toNat with
      | none => throw .overflowError
      | some expiry =>
          return publishedBytes builder
            (builtDocument builder key (builtPayload builder args artifact expiry))

end LayoutAdblock.Release
