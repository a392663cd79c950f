import LayoutAdblock.Release.Handover
import LayoutAdblock.Updater.VerifiedInstall

namespace LayoutAdblock.App

open LayoutAdblock.Core Data Interaction Interaction.Fallible Interaction.Environment
open Release Updater

/-! # Only signed versions are installed

From the manifest to the installed file, through two processes: the app hands the
digest of an accepted manifest to the helper, and the helper installs nothing else.
-/

/-- How the helper's two command lines are read, where they are accepted. -/
structure Clap (clap : List String → Option Cli) : Prop where
  probe : ∀ cli, clap ["--protocol-version"] = some cli → cli.protocolVersion = true
  update : ∀ pid staged cli, clap (launchArgs pid staged) = some cli →
    cli.protocolVersion = false ∧ cli.recover = false ∧
      cli.sha256 = if staged.sha256.isEmpty then none else some staged.sha256

/-- The bytes have the digest of a manifest that the app accepted: it read the document from the
network, and the clock in the check of it. -/
def Genuine [Unicode] (host : UpdateHost) (helper : Updater.Host) (app : Machine)
    (bytes : Bytes) : Prop :=
  ∃ document instant payload manifest, document ∈ app.bodies ∧ (document, instant) ∈ app.checks ∧
    Accepted host.crates instant document version payload manifest ∧
    eqIgnoreAsciiCase (helper.sha256 bytes) manifest.sha256 = true

theorem genuine_of_vouched [Unicode] {host : UpdateHost} {helper : Updater.Host} {app : Machine}
    {staged : StagedUpdate} {cli : Cli} {bytes : Bytes} (vouched : Vouched host app.checks staged)
    (fetched : ∀ check ∈ app.checks, check.1 ∈ app.bodies)
    (digest : cli.sha256 = if staged.sha256.isEmpty then none else some staged.sha256)
    (verified : Verified helper cli.sha256 bytes) : Genuine host helper app bytes := by
  obtain ⟨manifest, ⟨document, instant, payload, member, accepted⟩, same⟩ := vouched
  have long := accepted.describes.hexadecimal.1
  have filled : staged.sha256.isEmpty = false := by
    rw [same]
    cases empty : manifest.sha256.isEmpty with
    | false => rfl
    | true =>
        rw [String.isEmpty_iff.mp empty] at long
        cases long
  rw [filled, same] at digest
  exact ⟨document, instant, payload, manifest, fetched _ member, member, accepted,
    verified _ digest⟩

variable {ι : Type} [DecidableEq ι] {temp : String}

/-- However the threads of the app interleave, and whatever the network and other processes do,
a helper that the app started has the original or a version of a signed manifest installed at
every instant, the original as the backup until the last clean-up, and such a version at its
end if its exit code is 0 and it was not just asked for its protocol. -/
theorem only_signed_installed [Unicode] {host : UpdateHost} {helper : Updater.Host}
    {clap : List String → Option Cli} {joinOk : Bool} {start : Machine}
    {threads : Threads UpdateCall UpdateCall.Answer Machine Unit (Option ι)} {command : Command}
    {cli : Cli} {files : Files FileName} {original : Bytes} (reads : Clap clap)
    (empty : start.pending = none) (unspawned : start.spawned = [])
    (unchecked : start.checks = [])
    (reach : Threads.Reach (machine temp) (updateThreads host joinOk start) threads)
    (started : command ∈ threads.state.spawned) (read : clap command.args = some cli)
    (installed : files .current = some original) :
    (∀ seen, Present.Observes (helperMain helper cli) (Updater.started files) seen →
      Intact (Genuine host helper threads.state) original seen) ∧
    (∀ ended after, Present.Runs (helperMain helper cli) (Updater.started files) ended after →
      cli.protocolVersion = false → ended.code = 0 →
        ∃ bytes, Genuine host helper threads.state bytes ∧
          after.files .current = some bytes) := by
  obtain ⟨commands, fetched⟩ := updateThreads_hand empty unspawned unchecked reach
  rcases commands command started with probe | called
  · rw [probe] at read
    have probes := reads.probe cli read
    rw [helperMain, if_pos probes]
    refine ⟨fun seen observed => ?_, fun _ _ _ updates => ?_⟩
    · cases observed with
      | now => exact Or.inl installed
    · rw [probes] at updates
      cases updates
  · obtain ⟨pid, staged, vouched, args⟩ := called
    rw [args] at read
    obtain ⟨updates, recovers, digest⟩ := reads.update pid staged cli read
    have main : helperMain helper cli = updateMain helper cli := by
      simp [helperMain, updates, recovers]
    have genuine : ∀ bytes, Verified helper cli.sha256 bytes →
        Genuine host helper threads.state bytes :=
      fun _ verified => genuine_of_vouched vouched fetched digest verified
    have holds : Present.wp _ (updateMain helper cli) _ (Updater.started files) :=
      wp_updateMain helper cli rfl installed
    rw [main]
    refine ⟨fun seen observed => ?_, fun ended after ran _ succeeded => ?_⟩
    · rcases wp_observes holds (Or.inl installed) observed with kept | ⟨new, verified, rest⟩
      · exact Or.inl kept
      · exact Or.inr ⟨new, genuine new verified, rest⟩
    · obtain ⟨bytes, verified, current⟩ := wp_runs holds ran succeeded
      exact ⟨bytes, genuine bytes verified, current⟩

/-- The installed version before its user asks for an update. -/
def idleApp : Machine := { installedApp with inProgress := false }

/-- The update that version stages: the copy of the helper, the download next to the
executable and the digest of the manifest. -/
def signedUpdate : StagedUpdate where
  helper := "C:\\Temp\\kakao-updater_helper_7_0_0.exe"
  currentExe := "C:\\App\\app.exe"
  replacement := "C:\\Temp\\KakaoTalkLayoutAdBlocker_v11_update_11.2.0_7_0_0.exe"
  sha256 := smallManifest.sha256
  relaunchArgs := []

/-- The exit after the session that staged it. -/
def signedExit : UInt32 × Machine := (exitWithPending true).exec obligingMachine stagedSession.2

/-- The command line of that helper, as far as it is looked at here. -/
def signedCli : Cli where
  pid := 7
  sha256 := some smallManifest.sha256

def readSigned (args : List String) : Option Cli :=
  if args = ["--protocol-version"] then some { protocolVersion := true }
  else if args = launchArgs 7 signedUpdate then some signedCli
  else none

theorem readSigned_clap : Clap readSigned where
  probe cli read := by
    cases read
    rfl
  update pid staged cli read := by
    have calls : launchArgs pid staged ≠ ["--protocol-version"] := by simp [launchArgs]
    rw [readSigned, if_neg calls] at read
    by_cases same : launchArgs pid staged = launchArgs 7 signedUpdate
    · rw [if_pos same] at read
      cases read
      refine ⟨rfl, rfl, ?_⟩
      have filled : signedUpdate.sha256.isEmpty = false := by decide
      cases empty : staged.sha256.isEmpty with
      | false =>
          simp [launchArgs, empty, filled] at same
          simp [signedCli, same.2.2.2.1, signedUpdate]
      | true =>
          have unlike : smallManifest.sha256 ≠ "" := by decide
          simp only [launchArgs, empty, signedUpdate] at same
          cases relaunch : staged.relaunchArgs <;> simp [relaunch, unlike] at same
    · rw [if_neg same] at read
      cases read

set_option maxRecDepth 8000 in
theorem signedExit_spawned : signedExit.2.spawned.map Command.args =
    [["--protocol-version"], launchArgs 7 signedUpdate] := by
  decide +kernel

/-- The session of that version, before any of its threads has made a call. -/
def signedThreads : Threads UpdateCall UpdateCall.Answer Machine Unit (Option Unit) :=
  @updateThreads Unit asciiLowercase smallHost true idleApp

theorem signedExit_reached :
    ∃ threads, Threads.Reach (machine "C:\\Temp") signedThreads threads ∧
      threads.state = signedExit.2 := by
  have begins : (machine "C:\\Temp").step .tryBeginUpdate idleApp true installedApp := ⟨rfl, rfl⟩
  have clicked : (machine "C:\\Temp").Runs (@checkUpdateCommand asciiLowercase smallHost) idleApp ()
      stagedSession.2 := Runs.call begins stagedSession_runs
  have exits : (machine "C:\\Temp").Runs (exitWithPending true) stagedSession.2 signedExit.1
      signedExit.2 := runs_exec obligingMachine_realizes _ _
  have ended : (machine "C:\\Temp").Runs (do
      let _ ← exitWithPending true
      return ()) stagedSession.2 () signedExit.2 := exits.bind Runs.done
  have first : Threads.Reach (machine "C:\\Temp") signedThreads
      ⟨stagedSession.2, Function.update signedThreads.programs (some ()) (.done ())⟩ :=
    Threads.Reach.runs rfl clicked
  let exiting := Function.update signedThreads.programs (some ()) (.done ())
  have waits : exiting none = (do
      let _ ← exitWithPending true
      return ()) := rfl
  clear exits
  generalize signedExit.2 = last at ended
  exact ⟨_, first.trans (Threads.Reach.runs waits ended), rfl⟩

/-- A host of the helper on which every file has the digest of the manifest. -/
def signedHelper : Updater.Host := { plainHost with sha256 := fun _ => smallManifest.sha256 }

theorem signedUpdate_installs :
    ∃ command ∈ signedExit.2.spawned, readSigned command.args = some signedCli ∧
      ∀ seen, Present.Observes (helperMain signedHelper signedCli) (Updater.started freshFiles) seen →
        Intact (@Genuine asciiLowercase smallHost signedHelper signedExit.2) [1, 1] seen := by
  have listed : launchArgs 7 signedUpdate ∈ signedExit.2.spawned.map Command.args := by
    rw [signedExit_spawned]
    simp
  obtain ⟨command, member, args⟩ := List.mem_map.mp listed
  have read : readSigned command.args = some signedCli := by
    rw [args, readSigned, if_neg (by simp [launchArgs]), if_pos rfl]
  refine ⟨command, member, read, ?_⟩
  obtain ⟨threads, reach, last⟩ := signedExit_reached
  rw [← last] at member ⊢
  have empty : idleApp.pending = none := rfl
  have unspawned : idleApp.spawned = [] := rfl
  have unchecked : idleApp.checks = [] := rfl
  have installed : freshFiles .current = some [1, 1] := rfl
  have holds := @only_signed_installed Unit _ _ asciiLowercase smallHost signedHelper readSigned true
    idleApp threads command signedCli freshFiles [1, 1] readSigned_clap empty unspawned unchecked
    reach member read installed
  exact holds.1

end LayoutAdblock.App
