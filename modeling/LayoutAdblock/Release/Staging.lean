import LayoutAdblock.Release.Http

namespace LayoutAdblock.Release

open LayoutAdblock.Core Data Interaction Interaction.Fallible

/-! # Staging an update

The helper and the verified download are put next to each other into the
directory of temporary files, where they wait until the app has exited.
-/

/-- The arguments the new version is started with, which are those of this one that it
knows. -/
def relaunchArgsFrom (args : List String) : List String :=
  args.filter fun arg => arg ∈ ["--startup-launch", "--minimized"]

/-- The two letters an executable begins with. -/
def startsWithMz : Bytes → Bool
  | first :: second :: _ => first == 77 && second == 90
  | _ => false

/-- There is an executable under the path. A file that cannot be read is none. -/
def helperLooksValid (path : String) : UpdateM Bool := do
  let answer : Except IoError Bytes ← askUpdate (.read path)
  match answer with
  | .ok bytes => return startsWithMz bytes
  | .error _ => return false

/-- Where the helper may be, relative to the app; the other places are those of a build. -/
def helperNames : List String :=
  ["kakao-updater.exe", "target/release/kakao-updater.exe", "target/debug/kakao-updater.exe",
    "../target/release/kakao-updater.exe", "../target/debug/kakao-updater.exe",
    "../../target/release/kakao-updater.exe", "../../target/debug/kakao-updater.exe"]

/-- The first of the candidates that is an executable. -/
def firstValid : List String → UpdateM (Option String)
  | [] => return none
  | candidate :: candidates => do
      if ← helperLooksValid candidate then return some candidate
      else firstValid candidates

def helperMissing : UpdateError :=
  .message "kakao-updater.exe 헬퍼 바이너리를 찾을 수 없습니다. 앱과 같은 폴더에 함께 두세요."

def resolveHelper (currentExe : String) : UpdateE String := do
  let currentDir := (parentPath currentExe).getD "."
  match ← always (firstValid (helperNames.map (joinPath currentDir))) with
  | some helper => return helper
  | none => throw helperMissing

/-- A name that no other session and no other attempt uses. -/
def stagingName (stem version : String) (pid : UInt32) (now : Nat) (seq : UInt64) : String :=
  s!"{stem}_{version}_{pid}_{now}_{seq}.exe"

/-- A path of the session's own in the temporary directory. -/
def uniqueStagingPath (stem version : String) : UpdateM String := do
  let seq ← askUpdate .fetchSequence
  let directory ← askUpdate .tempDir
  let pid ← askUpdate .processId
  let now ← askUpdate .clock
  return joinPath directory (stagingName stem version pid (nowTs now) seq)

/-- The helper is run from a copy in the temporary directory, under a name of this session's
own. -/
def stageHelper (source : String) : UpdateE String := do
  let dest ← always (uniqueStagingPath "kakao-updater" "helper")
  (attempt (askUpdate (.copy source dest))).mapError fun error =>
    .message s!"업데이트 헬퍼 준비 실패: {error.text}"
  return dest

/-- A variable of the environment that belongs to this process and would mislead another
one. -/
def shouldStripChildEnvVar (name : String) : Bool :=
  name == "KAKAO_UPDATE_READY_FILE" || name == "_MEIPASS" || startsWith name "_PYI_" ||
    startsWith name "_MEI_"

/-- Variables that are removed even where they are not set. -/
def knownStripKeys : List String :=
  ["KAKAO_UPDATE_READY_FILE", "_MEIPASS", "_MEIPASS2", "_PYI_APPLICATION_HOME_DIR",
    "_PYI_ARCHIVE_FILE", "_PYI_PARENT_PROCESS_LEVEL", "_MEI_TMPDIR"]

/-- `sanitize_child_command` for a command that has its arguments. -/
def sanitizedCommand (program : String) (args : List String) : UpdateM Command := do
  let names ← askUpdate .environment
  return { program, args, removed := names.filter shouldStripChildEnvVar ++ knownStripKeys }

/-- A probe that does not answer in time is ended. -/
def killProbe : UpdateM Bool := do
  askUpdate .kill
  askUpdate .wait
  return false

/-- Says whether the probe has exited.  When `polls` runs out the deadline counts
as passed. -/
def awaitProbe (deadline : Nat) : Nat → UpdateM Bool
  | 0 => do
      match ← askUpdate .tryWait with
      | .ok true => return true
      | _ => killProbe
  | polls + 1 => do
      match ← askUpdate .tryWait with
      | .ok true => return true
      | .ok false => do
          let time ← askUpdate .elapsed
          if time < deadline then do
            askUpdate (.sleep 20)
            awaitProbe deadline polls
          else killProbe
      | .error _ => killProbe

def helperProtocol : String := "kakao-updater-protocol-2"

/-- Replaced bytes are never part of the protocol's name, so a text that is not
UTF-8 cannot match. -/
def printsProtocol (stdout : Bytes) : Bool :=
  (String.fromUTF8? ⟨stdout.toArray⟩).any fun text => trim text == helperProtocol

/-- The helper next to the app is of another version. -/
def incompatible : UpdateError :=
  .message "업데이트 헬퍼가 호환되지 않습니다. 최신 ZIP의 앱과 kakao-updater.exe를 함께 설치하세요."

/-- The copy of the helper is started to see whether it speaks the protocol. It has two
seconds to answer. -/
def verifyHelperProtocol (host : UpdateHost) (helper : String) : UpdateE Unit := do
  let command ← always (sanitizedCommand helper ["--protocol-version"])
  (attempt (askUpdate (.spawn command))).mapError fun _ => incompatible
  let start ← always (askUpdate .elapsed)
  let exited ← always (awaitProbe (start + 2000) host.polls)
  require exited incompatible
  let (success, stdout) ← (attempt (askUpdate .waitWithOutput)).mapError fun _ => incompatible
  require (success && printsProtocol stdout) incompatible

/-- A staged file is removed, if that is possible. -/
def removeStaged (path : String) : UpdateM Unit := do
  let _ : Except IoError Unit ← askUpdate (.removeFile path)
  return ()

def downloadStem : String := "KakaoTalkLayoutAdBlocker_v11_update"

/-- The helper is copied and tried, then the artifact is fetched. What was staged is removed
again where a later step fails. -/
def prepareUpdate (host : UpdateHost) (manifest : UpdateManifest) : UpdateE StagedUpdate := do
  let currentExe ← (attempt (askUpdate .currentExe)).mapError fun error =>
    .message s!"현재 실행 파일 경로 확인 실패: {error}"
  let helperSrc ← resolveHelper currentExe
  let helper ← stageHelper helperSrc
  (verifyHelperProtocol host helper).onError (removeStaged helper)
  let replacement ← always (uniqueStagingPath downloadStem manifest.version)
  (downloadAndVerify host manifest replacement).onError do
    removeStaged helper
    removeStaged replacement
  let arguments ← always (askUpdate .arguments)
  return { helper, currentExe, replacement, sha256 := manifest.sha256,
           relaunchArgs := relaunchArgsFrom (arguments.drop 1) }

/-- Both files of a staged update are removed. -/
def discardStaged (staged : StagedUpdate) : UpdateM Unit := do
  removeStaged staged.helper
  removeStaged staged.replacement

/-- The command line of the helper. The digest is left out where there is none. -/
def launchArgs (pid : UInt32) (staged : StagedUpdate) : List String :=
  ["--pid", s!"{pid}", "--current", staged.currentExe, "--replacement", staged.replacement] ++
    (if staged.sha256.isEmpty then [] else ["--sha256", staged.sha256]) ++
    staged.relaunchArgs.flatMap fun arg => ["--relaunch-arg", arg]

/-- The helper is started with the update that was staged. -/
def launchHelper (staged : StagedUpdate) : UpdateE Unit := do
  let pid ← always (askUpdate .processId)
  let command ← always (sanitizedCommand staged.helper (launchArgs pid staged))
  (attempt (askUpdate (.spawn command))).mapError fun error =>
    .message s!"업데이트 헬퍼 실행 실패: {error}"

def errorText : UpdateError → String
  | .message text => text
  | .noUpdate => "현재 최신 버전을 사용 중입니다."

/-- The manifest was accepted; the user decides. An update that is wanted is staged, and the
app asked to exit for it. -/
def offerUpdate (host : UpdateHost) (manifest : UpdateManifest) : UpdateM Unit := do
  let accepted ← askUpdate (.askYesNo "업데이트 확인"
    s!"새 버전 v{manifest.version}가 출시되었습니다.\n\n지금 업데이트를 다운로드하고 프로그램을 재시작하시겠습니까?")
  if accepted then
    match ← (prepareUpdate host manifest).run with
    | .ok staged =>
        askUpdate (.setPending staged)
        askUpdate .requestExit
    | .error error =>
        askUpdate .endUpdate
        askUpdate (.showBox "업데이트 실패" s!"업데이트 적용 중 오류가 발생했습니다:\n{errorText error}")
  else askUpdate .endUpdate

/-- The background thread of one click: it checks, and offers what it has found. Where there
is nothing to offer it clears the flag and says why. -/
def updateThread [Unicode] (host : UpdateHost) : UpdateM Unit := do
  match ← checkForUpdate host with
  -- a panic ends the thread as it is
  | .error _ => return ()
  | .ok (.ok manifest) => offerUpdate host manifest
  | .ok (.error .noUpdate) =>
      askUpdate .endUpdate
      askUpdate (.showBox "업데이트 확인" s!"현재 최신 버전(v{version})을 사용 중입니다.")
  | .ok (.error error) =>
      askUpdate .endUpdate
      askUpdate (.showBox "업데이트 확인 실패" s!"업데이트 정보를 확인하지 못했습니다:\n{errorText error}")

/-- `TrayCommand::CheckUpdate`. A click while an update is under way only tells the user so,
and starts no thread. -/
def checkUpdateCommand [Unicode] (host : UpdateHost) : UpdateM Unit := do
  let begun ← askUpdate .tryBeginUpdate
  if begun then updateThread host
  else askUpdate (.showBox "업데이트 확인" "업데이트 작업이 이미 진행 중입니다.")

/-- The end of `run_with_args`: the exit code, when the worker did or did not end. -/
def exitWithPending (joinOk : Bool) : UpdateM UInt32 := do
  match ← askUpdate .takePending with
  | none => return if joinOk then 0 else 1
  | some staged =>
      match ← (launchHelper staged).run with
      | .ok () =>
          askUpdate .endUpdate
          return if joinOk then 0 else 1
      | .error _ =>
          discardStaged staged
          askUpdate .endUpdate
          return 1

end LayoutAdblock.Release
