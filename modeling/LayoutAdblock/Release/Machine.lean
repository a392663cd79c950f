import LayoutAdblock.Interaction.Protocol
import LayoutAdblock.Release.Staging

namespace LayoutAdblock.Release

open LayoutAdblock.Core Data Interaction Interaction.Fallible

/-! # The machine under the updater

The network and the clock answer anything, and every call may fail.  A copy or a
write that fails can leave a part, or what was there.
-/

/-- What a session of the app works on: files, the flag and the staged update its threads
share, and for the proofs a record of what it asked for, read and checked. -/
structure Machine where
  files : Files String
  /-- `UPDATE_IN_PROGRESS` -/
  inProgress : Bool := false
  pending : Option StagedUpdate := none
  /-- Ghost: what was asked for on the network. -/
  requests : List String := []
  /-- Ghost: the bodies that came from the network. -/
  bodies : List Bytes := []
  /-- Ghost: the documents that were checked, each with the clock of its check. -/
  checks : List (Bytes × Int) := []
  /-- Ghost: the files that could not be removed. -/
  refused : List String := []
  /-- Ghost: where copies failed, that may have left a part. -/
  unfinished : List String := []
  /-- Ghost: the processes that were started. -/
  spawned : List Command := []

namespace Machine

/-- One file is changed, or removed where there is no content. -/
def store (before : Machine) (path : String) (content : Option Bytes) : Machine :=
  { before with files := Function.update before.files path content }

section

variable (before : Machine) (path : String) (content : Option Bytes)

@[simp] theorem store_files :
    (before.store path content).files = Function.update before.files path content := rfl

@[simp] theorem store_inProgress : (before.store path content).inProgress = before.inProgress := rfl

@[simp] theorem store_pending : (before.store path content).pending = before.pending := rfl

@[simp] theorem store_requests : (before.store path content).requests = before.requests := rfl

@[simp] theorem store_bodies : (before.store path content).bodies = before.bodies := rfl

@[simp] theorem store_checks : (before.store path content).checks = before.checks := rfl

@[simp] theorem store_refused : (before.store path content).refused = before.refused := rfl

@[simp] theorem store_unfinished :
    (before.store path content).unfinished = before.unfinished := rfl

@[simp] theorem store_spawned : (before.store path content).spawned = before.spawned := rfl

end

end Machine

/-- One machine, whose directory of temporary files does not move. -/
def machine (temp : String) : Environment UpdateCall UpdateCall.Answer Machine where
  step op before answer after :=
    match op, answer with
    | .get url, _ => after = { before with requests := before.requests ++ [url] }
    | .readBody most, .ok bytes =>
        bytes.length ≤ most ∧ after = { before with bodies := before.bodies ++ [bytes] }
    | .manifestClock document, instant =>
        after = { before with checks := before.checks ++ [(document, instant)] }
    | .tempDir, directory => directory = temp ∧ after = before
    | .read path, content =>
        (∀ bytes, content = .ok bytes → before.files path = some bytes) ∧ after = before
    | .copy source destination, .ok () =>
        before.files source ≠ none ∧ after = before.store destination (before.files source)
    | .copy _ destination, .error _ =>
        ∃ part, after =
          { before.store destination part with unfinished := before.unfinished ++ [destination] }
    | .write path bytes, .ok () => after = before.store path (some bytes)
    | .write path _, .error _ => ∃ part, after = before.store path part
    | .removeFile path, .ok () => after = before.store path none
    | .removeFile path, .error _ => after = { before with refused := before.refused ++ [path] }
    | .spawn command, .ok () => after = { before with spawned := before.spawned ++ [command] }
    | .tryBeginUpdate, begun =>
        begun = !before.inProgress ∧ after = { before with inProgress := true }
    | .endUpdate, _ => after = { before with inProgress := false }
    | .setPending staged, _ => after = { before with pending := some staged }
    | .takePending, taken => taken = before.pending ∧ after = { before with pending := none }
    | _, _ => after = before
  torn op before seen :=
    match op with
    | .copy _ path | .write path _ => ∃ part, seen = before.store path part
    | _ => False

namespace UpdateCall

/-- The call neither takes up an update nor gives one away. -/
def KeepsUpdate : UpdateCall → Prop
  | .tryBeginUpdate | .endUpdate | .setPending _ | .takePending => False
  | _ => True

/-- The call reads nothing from the network, checks nothing and starts no process. -/
def KeepsRecord : UpdateCall → Prop
  | .readBody _ | .manifestClock _ | .spawn _ => False
  | _ => True

end UpdateCall

/-- What a step of the machine leaves alone, by the kind of its call. -/
structure Machine.Framed (op : UpdateCall) (before after : Machine) : Prop where
  update : op.KeepsUpdate →
    after.inProgress = before.inProgress ∧ after.pending = before.pending
  record : op.KeepsRecord →
    after.bodies = before.bodies ∧ after.checks = before.checks ∧
      after.spawned = before.spawned

theorem framed_of_step {temp : String} {op : UpdateCall} {before after : Machine}
    {answer : op.Answer} (step : (machine temp).step op before answer after) :
    before.Framed op after := by
  cases op with
  | tryBeginUpdate | takePending =>
      obtain ⟨_, rfl⟩ := step
      exact ⟨nofun, fun _ => ⟨rfl, rfl, rfl⟩⟩
  | endUpdate | setPending staged =>
      obtain rfl : after = _ := step
      exact ⟨nofun, fun _ => ⟨rfl, rfl, rfl⟩⟩
  | manifestClock document =>
      obtain rfl : after = _ := step
      exact ⟨fun _ => ⟨rfl, rfl⟩, nofun⟩
  | readBody most =>
      cases answer with
      | ok bytes =>
          obtain ⟨_, rfl⟩ := step
          exact ⟨fun _ => ⟨rfl, rfl⟩, nofun⟩
      | error error =>
          obtain rfl : after = _ := step
          exact ⟨fun _ => ⟨rfl, rfl⟩, nofun⟩
  | spawn command =>
      cases answer with
      | ok value =>
          obtain rfl : after = _ := step
          exact ⟨fun _ => ⟨rfl, rfl⟩, nofun⟩
      | error error =>
          obtain rfl : after = _ := step
          exact ⟨fun _ => ⟨rfl, rfl⟩, nofun⟩
  | copy source destination =>
      cases answer with
      | ok value =>
          obtain ⟨_, rfl⟩ := step
          exact ⟨fun _ => ⟨rfl, rfl⟩, fun _ => ⟨rfl, rfl, rfl⟩⟩
      | error error =>
          obtain ⟨part, rfl⟩ := step
          exact ⟨fun _ => ⟨rfl, rfl⟩, fun _ => ⟨rfl, rfl, rfl⟩⟩
  | write path bytes =>
      cases answer with
      | ok value =>
          obtain rfl : after = _ := step
          exact ⟨fun _ => ⟨rfl, rfl⟩, fun _ => ⟨rfl, rfl, rfl⟩⟩
      | error error =>
          obtain ⟨part, rfl⟩ := step
          exact ⟨fun _ => ⟨rfl, rfl⟩, fun _ => ⟨rfl, rfl, rfl⟩⟩
  | removeFile path =>
      cases answer with
      | ok value | error error =>
          obtain rfl : after = _ := step
          exact ⟨fun _ => ⟨rfl, rfl⟩, fun _ => ⟨rfl, rfl, rfl⟩⟩
  | tempDir | read path =>
      obtain ⟨_, rfl⟩ := step
      exact ⟨fun _ => ⟨rfl, rfl⟩, fun _ => ⟨rfl, rfl, rfl⟩⟩
  | _ =>
      obtain rfl : after = _ := step
      exact ⟨fun _ => ⟨rfl, rfl⟩, fun _ => ⟨rfl, rfl, rfl⟩⟩

def UpdateCall.Quiet : UpdateCall → Prop
  | .get _ | .readBody _ | .manifestClock _ | .copy _ _ | .write _ _ | .removeFile _
  | .tryBeginUpdate | .endUpdate | .setPending _ | .takePending | .showBox _ _ | .requestExit =>
      False
  -- the only process started before the exit
  | .spawn command => command.args = ["--protocol-version"]
  | _ => True

theorem firstValid_quiet (candidates : List String) :
    (firstValid candidates).Only UpdateCall.Quiet := by
  induction candidates with
  | nil => trivial
  | cons candidate candidates ih =>
      have looks : (helperLooksValid candidate).Only UpdateCall.Quiet := by
        refine ⟨trivial, fun answer => ?_⟩
        cases answer <;> trivial
      refine looks.bind fun valid => ?_
      cases valid with
      | true => trivial
      | false => exact ih

theorem resolveHelper_quiet (currentExe : String) :
    (resolveHelper currentExe).run.Only UpdateCall.Quiet := by
  refine only_try (only_always (firstValid_quiet _)) fun found => ?_
  cases found <;> trivial

theorem uniqueStagingPath_quiet (stem version : String) :
    (uniqueStagingPath stem version).Only UpdateCall.Quiet :=
  ⟨trivial, fun _ => ⟨trivial, fun _ => ⟨trivial, fun _ => ⟨trivial, fun _ => trivial⟩⟩⟩⟩

theorem awaitProbe_quiet (deadline polls : Nat) :
    (awaitProbe deadline polls).Only UpdateCall.Quiet := by
  have kills : killProbe.Only UpdateCall.Quiet :=
    ⟨trivial, fun _ => ⟨trivial, fun _ => trivial⟩⟩
  induction polls with
  | zero =>
      refine ⟨trivial, fun answer => ?_⟩
      match answer with
      | .ok true => trivial
      | .ok false => exact kills
      | .error _ => exact kills
  | succ polls ih =>
      refine ⟨trivial, fun answer => ?_⟩
      match answer with
      | .ok true => trivial
      | .error _ => exact kills
      | .ok false =>
          refine ⟨trivial, fun time => ?_⟩
          change Program.Only _ (if time < deadline then _ else _)
          split
          · exact ⟨trivial, fun _ => ih⟩
          · exact kills

theorem verifyHelperProtocol_quiet (host : UpdateHost) (helper : String) :
    (verifyHelperProtocol host helper).run.Only UpdateCall.Quiet := by
  refine ⟨trivial, fun names => ?_⟩
  refine only_try (only_mapError ⟨rfl, fun _ => trivial⟩) fun _ => ?_
  refine only_try (only_always ⟨trivial, fun _ => trivial⟩) fun start => ?_
  refine only_try (only_always (awaitProbe_quiet _ _)) fun exited => ?_
  refine only_try only_require fun _ => ?_
  refine only_try (only_mapError ⟨trivial, fun _ => trivial⟩) fun output => ?_
  exact only_require

end LayoutAdblock.Release
