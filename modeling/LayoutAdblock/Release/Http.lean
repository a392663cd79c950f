import LayoutAdblock.Release.UpdateModel

namespace LayoutAdblock.Release

open LayoutAdblock.Core Data Interaction Interaction.Fallible

/-! # Requests -/

/-- A broken connection may work at the next attempt. -/
def transientKind : IoErrorKind → Bool
  | .other _ => false
  | _ => true

/-- Errors after which the request is made once more: those of a busy server and those of
the connection. -/
def transientError : HttpError → Bool
  | .statusCode code => code ∈ [408, 429, 500, 502, 503, 504]
  | .timeout _ | .hostNotFound | .connectionFailed => true
  | .io kind => transientKind kind
  | .other _ => false

/-- A request is repeated after each of the pauses while its error may pass. -/
def retry {α : Type} (request : UpdateM (Except HttpError α)) :
    List Nat → UpdateM (Except HttpError α)
  | [] => request
  | delay :: delays => do
      match ← request with
      | .ok value => return .ok value
      | .error error =>
          if transientError error then do
            askUpdate (.sleep delay)
            retry request delays
          else return .error error

/-- One more byte than the limit, so that a longer body shows. -/
def readLimit (limit : Nat) : Nat := min (limit + 1) (2 ^ 64 - 1)

/-- One request with its body, which is read up to a bound, so that no server can fill the
memory. -/
def request (url : String) (limit : Nat) : UpdateM (Except HttpError Bytes) := do
  let response : Except HttpError Unit ← askUpdate (.get url)
  match response with
  | .error error => return .error error
  | .ok () =>
      let body : Except IoErrorKind Bytes ← askUpdate (.readBody (readLimit limit))
      return body.mapError HttpError.io

/-- A request with two more attempts, and the error of the last of them. -/
def fetch (host : UpdateHost) (url : String) (limit : Nat) : UpdateE Bytes :=
  (attempt (retry (request url limit) [200, 500])).mapError fun error =>
    .message s!"업데이트 다운로드 실패: {host.displayHttp error}"

/-- The manifest is fetched and checked. A panic in the check ends the thread, and with it
the flag stays set. -/
def checkForUpdate [Unicode] (host : UpdateHost) :
    UpdateM (Except Panic (Except UpdateError UpdateManifest)) := do
  match ← (fetch host manifestUrl maxManifestBytes).run with
  | .error error => return .ok (.error error)
  | .ok body =>
      let now ← askUpdate (.manifestClock body)
      return parseAndVerifyManifest host.crates now body version

/-- Both separators count, as they do for Windows. -/
def isSeparator (ch : Char) : Bool := ch == '\\' || ch == '/'

/-- `Path::join` with a relative name. -/
def joinPath (directory name : String) : String :=
  if directory.toList.getLast?.any isSeparator || directory.isEmpty then directory ++ name
  else directory ++ "\\" ++ name

/-- `Path::parent` of an absolute path to a file. -/
def parentPath (path : String) : Option String :=
  match path.toList.reverse.dropWhile fun ch => !isSeparator ch with
  | [] => none
  | separators =>
      match separators.dropWhile isSeparator with
      | [] => some (String.ofList separators.reverse)
      | ':' :: rest => some (String.ofList (('\\' :: ':' :: rest).reverse))
      | rest => some (String.ofList rest.reverse)

def saveFailed (error : IoError) : UpdateError := .message s!"업데이트 저장 실패: {error.text}"

/-- The directory of the download is made where it is missing. -/
def createParent (path : String) : UpdateE Unit :=
  match parentPath path with
  | none => pure ()
  | some parent => (attempt (askUpdate (.createDirAll parent))).mapError saveFailed

/-- The artifact is fetched and compared with the manifest before any of it is written. -/
def downloadAndVerify (host : UpdateHost) (manifest : UpdateManifest) (dest : String) :
    UpdateE Unit := do
  let bytes ← fetch host manifest.artifactUrl manifest.size
  require (bytes.length == manifest.size)
    (.message "업데이트 파일 크기가 허용 범위를 벗어났습니다.")
  require (host.sha256Hex bytes == manifest.sha256)
    (.message "업데이트 파일 해시가 일치하지 않습니다.")
  createParent dest
  (attempt (askUpdate (.write dest bytes))).mapError saveFailed

end LayoutAdblock.Release
