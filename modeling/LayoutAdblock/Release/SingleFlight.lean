import LayoutAdblock.Release.Machine

namespace LayoutAdblock.Release

open LayoutAdblock.Core Data Interaction Interaction.Fallible

/-! # One update at a time

Whoever sets `UPDATE_IN_PROGRESS` owns the update.  The background thread gives it
up, or hands it to the slot that the end of the program empties.
-/

/-- What a thread only does while it owns the update. -/
def UpdateCall.Steady : UpdateCall → Prop
  | .tryBeginUpdate | .takePending | .endUpdate | .setPending _ | .showBox _ _ | .requestExit =>
      False
  | _ => True

/-- What it does before and after the check of the manifest: it starts no process but the
probe. -/
def UpdateCall.Prepares (op : UpdateCall) : Prop :=
  op.Steady ∧ (∀ command, op = .spawn command → command.args = ["--protocol-version"]) ∧
    ∀ document, op ≠ .manifestClock document

theorem UpdateCall.Quiet.prepares {op : UpdateCall} (quiet : op.Quiet) : op.Prepares := by
  cases op with
  | get | readBody | manifestClock | copy | write | removeFile | tryBeginUpdate | endUpdate
  | setPending | takePending | showBox | requestExit => exact quiet.elim
  | spawn command =>
      refine ⟨trivial, fun other same => ?_, nofun⟩
      cases same
      exact quiet
  | _ => exact ⟨trivial, nofun, nofun⟩

theorem prepares_of_quiet {α : Type} {program : UpdateM α} (only : program.Only UpdateCall.Quiet) :
    program.Only UpdateCall.Prepares :=
  only.mono fun _ quiet => quiet.prepares

theorem steady_of_prepares {α : Type} {program : UpdateM α}
    (only : program.Only UpdateCall.Prepares) : program.Only UpdateCall.Steady :=
  only.mono fun _ prepares => prepares.1

/-- The phase says whether the thread owns the update. -/
def flight : Protocol UpdateCall UpdateCall.Answer Bool where
  allows owns
    | .tryBeginUpdate | .takePending => owns = false
    | .showBox _ _ | .requestExit => True
    | _ => owns = true
  moves owns
    | .tryBeginUpdate, begun => begun
    | .takePending, taken => taken.isSome
    | .endUpdate, _ | .setPending _, _ => false
    | _, _ => owns

theorem UpdateCall.Steady.allowed {op : UpdateCall} (steady : op.Steady) :
    flight.allows true op ∧ ∀ answer, flight.moves true op answer = true := by
  cases op with
  | tryBeginUpdate | takePending | endUpdate | setPending | showBox | requestExit =>
      exact steady.elim
  | _ => exact ⟨rfl, fun _ => rfl⟩

theorem steady_follows {α : Type} {program : UpdateM α} (only : program.Only UpdateCall.Steady) :
    flight.Follows true program fun _ owns => owns = true :=
  Protocol.Follows.of_only (only.mono fun _ steady _ same => same ▸ steady.allowed) rfl

theorem retry_prepares {α : Type} {request : UpdateM (Except HttpError α)}
    (only : request.Only UpdateCall.Prepares) (delays : List Nat) :
    (retry request delays).Only UpdateCall.Prepares := by
  induction delays with
  | nil => exact only
  | cons delay delays ih =>
      refine only.bind fun answer => ?_
      cases answer with
      | ok value => trivial
      | error error =>
          cases passes : transientError error with
          | true =>
              simp only [passes, if_true]
              exact ⟨⟨trivial, nofun, nofun⟩, fun _ => ih⟩
          | false =>
              simp only [passes, Bool.false_eq_true, if_false]
              trivial

theorem request_prepares (url : String) (limit : Nat) :
    (request url limit).Only UpdateCall.Prepares := by
  refine ⟨⟨trivial, nofun, nofun⟩, fun response => ?_⟩
  cases response with
  | ok value => exact ⟨⟨trivial, nofun, nofun⟩, fun _ => trivial⟩
  | error error => trivial

theorem fetch_prepares (host : UpdateHost) (url : String) (limit : Nat) :
    (fetch host url limit).run.Only UpdateCall.Prepares :=
  only_mapError (retry_prepares (request_prepares url limit) _)

theorem checkForUpdate_steady [Unicode] (host : UpdateHost) :
    (checkForUpdate host).Only UpdateCall.Steady := by
  refine (steady_of_prepares (fetch_prepares host _ _)).bind fun answer => ?_
  cases answer with
  | ok body => exact ⟨trivial, fun _ => trivial⟩
  | error error => trivial

theorem stageHelper_prepares (source : String) :
    (stageHelper source).run.Only UpdateCall.Prepares := by
  refine only_try (only_always (prepares_of_quiet (uniqueStagingPath_quiet _ _))) fun dest => ?_
  refine only_try (only_mapError ⟨⟨trivial, nofun, nofun⟩, fun _ => trivial⟩) fun _ => ?_
  trivial

theorem removeStaged_prepares (path : String) : (removeStaged path).Only UpdateCall.Prepares :=
  ⟨⟨trivial, nofun, nofun⟩, fun _ => trivial⟩

theorem downloadAndVerify_prepares (host : UpdateHost) (manifest : UpdateManifest) (dest : String) :
    (downloadAndVerify host manifest dest).run.Only UpdateCall.Prepares := by
  have creates : (createParent dest).run.Only UpdateCall.Prepares := by
    unfold createParent
    cases parentPath dest with
    | none => trivial
    | some parent => exact only_mapError ⟨⟨trivial, nofun, nofun⟩, fun _ => trivial⟩
  refine only_try (fetch_prepares host _ _) fun bytes => ?_
  refine only_try only_require fun _ => ?_
  refine only_try only_require fun _ => ?_
  refine only_try creates fun _ => ?_
  exact only_mapError ⟨⟨trivial, nofun, nofun⟩, fun _ => trivial⟩

theorem prepareUpdate_prepares (host : UpdateHost) (manifest : UpdateManifest) :
    (prepareUpdate host manifest).run.Only UpdateCall.Prepares := by
  refine only_try (only_mapError ⟨⟨trivial, nofun, nofun⟩, fun _ => trivial⟩) fun currentExe => ?_
  refine only_try (prepares_of_quiet (resolveHelper_quiet currentExe)) fun helperSrc => ?_
  refine only_try (stageHelper_prepares helperSrc) fun helper => ?_
  refine only_try (only_onError (prepares_of_quiet (verifyHelperProtocol_quiet host helper))
    (removeStaged_prepares helper)) fun _ => ?_
  refine only_try (only_always (prepares_of_quiet (uniqueStagingPath_quiet _ _))) fun replacement => ?_
  refine only_try (only_onError (downloadAndVerify_prepares host manifest replacement) ?_)
    fun _ => ?_
  · exact (removeStaged_prepares helper).bind fun _ => removeStaged_prepares replacement
  · exact only_try (only_always ⟨⟨trivial, nofun, nofun⟩, fun _ => trivial⟩) fun _ => trivial

theorem launchHelper_steady (staged : StagedUpdate) :
    (launchHelper staged).run.Only UpdateCall.Steady := by
  refine only_try (only_always ⟨trivial, fun _ => trivial⟩) fun pid => ?_
  refine only_try (only_always ⟨trivial, fun _ => trivial⟩) fun command => ?_
  exact only_mapError ⟨trivial, fun _ => trivial⟩

/-- A thread that owns the update ends without it, or in a panic. -/
theorem updateThread_follows [Unicode] (host : UpdateHost) :
    flight.Follows true (updateThread host) fun _ _ => True := by
  apply (steady_follows (checkForUpdate_steady host)).bind
  rintro checked owns rfl
  match checked with
  | .error _ => trivial
  | .ok (.ok manifest) =>
      refine ⟨rfl, fun accepted => ?_⟩
      cases accepted with
      | false => exact ⟨rfl, fun _ => trivial⟩
      | true =>
          apply (steady_follows (steady_of_prepares (prepareUpdate_prepares host manifest))).bind
          rintro prepared owns rfl
          cases prepared with
          | ok staged => exact ⟨rfl, fun _ => ⟨trivial, fun _ => trivial⟩⟩
          | error error => exact ⟨rfl, fun _ => ⟨trivial, fun _ => trivial⟩⟩
  | .ok (.error .noUpdate) => exact ⟨rfl, fun _ => ⟨trivial, fun _ => trivial⟩⟩
  | .ok (.error (.message _)) => exact ⟨rfl, fun _ => ⟨trivial, fun _ => trivial⟩⟩

theorem checkUpdateCommand_follows [Unicode] (host : UpdateHost) :
    flight.Follows false (checkUpdateCommand host) fun _ _ => True := by
  refine ⟨rfl, fun begun => ?_⟩
  cases begun with
  | true => exact updateThread_follows host
  | false => exact ⟨trivial, fun _ => trivial⟩

theorem exitWithPending_follows (joinOk : Bool) :
    flight.Follows false (exitWithPending joinOk) fun _ _ => True := by
  refine ⟨rfl, fun taken => ?_⟩
  cases taken with
  | none => trivial
  | some staged =>
      apply (steady_follows (launchHelper_steady staged)).bind
      rintro launched owns rfl
      cases launched with
      | ok value => exact ⟨rfl, fun _ => trivial⟩
      | error error =>
          have discards : (discardStaged staged).Only UpdateCall.Prepares :=
            (removeStaged_prepares _).bind fun _ => removeStaged_prepares _
          apply (steady_follows (steady_of_prepares discards)).bind
          rintro _ owns rfl
          exact ⟨rfl, fun _ => trivial⟩

variable {ι : Type} [DecidableEq ι]

/-- At most one thread owns the update, and none while it waits in the slot. The flag is set
as long as one owns it or it waits. -/
structure OneOwner (before : Machine) (owns : ι → Bool) : Prop where
  unique : ∀ first second, owns first = true → owns second = true → first = second
  owned : ∀ thread, owns thread = true → before.inProgress = true ∧ before.pending = none
  waits : before.pending ≠ none → before.inProgress = true

variable {temp : String} {before after : Machine} {owns : ι → Bool} {thread : ι}

/-- Nothing happened to the flag or the slot. -/
theorem OneOwner.same (one : OneOwner before owns) (flag : after.inProgress = before.inProgress)
    (slot : after.pending = before.pending) :
    OneOwner after (Function.update owns thread (owns thread)) := by
  rw [Function.update_eq_self]
  exact ⟨one.unique, fun other owning => by rw [flag, slot]; exact one.owned other owning,
    by rw [flag, slot]; exact one.waits⟩

theorem OneOwner.leave (one : OneOwner before owns) (owning : owns thread = true)
    (waits : after.pending ≠ none → after.inProgress = true) :
    OneOwner after (Function.update owns thread false) := by
  have others : ∀ other, Function.update owns thread false other = false := by
    intro other
    by_cases same : other = thread
    · rw [same, Function.update_self]
    · rw [Function.update_of_ne same]
      cases owned : owns other with
      | false => rfl
      | true => exact absurd (one.unique other thread owned owning) same
  refine ⟨fun first _ left _ => ?_, fun other left => ?_, waits⟩
  · rw [others first] at left
    cases left
  · rw [others other] at left
    cases left

omit [DecidableEq ι] in
theorem OneOwner.free (one : OneOwner before owns)
    (unset : before.inProgress = false ∨ before.pending ≠ none) (other : ι) :
    owns other = false := by
  cases owned : owns other with
  | false => rfl
  | true =>
      obtain ⟨flag, slot⟩ := one.owned other owned
      rcases unset with clear | filled
      · rw [clear] at flag
        cases flag
      · exact absurd slot filled

theorem owner_alone (free : ∀ other, owns other = false)
    (flag : after.inProgress = true) (slot : after.pending = none) :
    OneOwner after (Function.update owns thread true) := by
  have only : ∀ other, Function.update owns thread true other = true → other = thread := by
    intro other owned
    by_contra different
    rw [Function.update_of_ne different, free other] at owned
    cases owned
  exact ⟨fun first second left right => (only first left).trans (only second right).symm,
    fun _ _ => ⟨flag, slot⟩, fun _ => flag⟩

theorem oneOwner_preserved (before : Machine) (owns : ι → Bool) (thread : ι) (op : UpdateCall)
    (answer : op.Answer) (after : Machine) (one : OneOwner before owns)
    (allowed : flight.allows (owns thread) op)
    (step : (machine temp).step op before answer after) :
    OneOwner after (Function.update owns thread (flight.moves (owns thread) op answer)) := by
  cases op with
  | tryBeginUpdate =>
      obtain ⟨begun, rfl⟩ := step
      have idle : owns thread = false := allowed
      cases flag : before.inProgress with
      | false =>
          have free := one.free (Or.inl flag)
          have slot : before.pending = none := by
            by_contra filled
            rw [one.waits filled] at flag
            cases flag
          rw [flag] at begun
          subst begun
          exact owner_alone free rfl slot
      | true =>
          rw [flag] at begun
          subst begun
          have stays : OneOwner { before with inProgress := true }
              (Function.update owns thread (owns thread)) := one.same flag.symm rfl
          rw [idle] at stays
          exact stays
  | takePending =>
      obtain ⟨taken, rfl⟩ := step
      subst taken
      have idle : owns thread = false := allowed
      cases slot : before.pending with
      | none =>
          have stays : OneOwner { before with pending := none }
              (Function.update owns thread (owns thread)) := one.same rfl slot.symm
          rw [idle] at stays
          exact stays
      | some staged =>
          have filled : before.pending ≠ none := by
            rw [slot]
            exact nofun
          exact owner_alone (one.free (Or.inr filled)) (one.waits filled) rfl
  | endUpdate =>
      obtain rfl : after = _ := step
      have owning : owns thread = true := allowed
      exact one.leave owning fun filled => absurd (one.owned thread owning).2 filled
  | setPending staged =>
      obtain rfl : after = _ := step
      have owning : owns thread = true := allowed
      exact one.leave owning fun _ => (one.owned thread owning).1
  | _ =>
      obtain ⟨flag, slot⟩ := (framed_of_step step).update trivial
      exact one.same flag slot

/-- Every click has a thread of its own, and so has the end of the program. They share one
machine and the flag in it. -/
def updateThreads [Unicode] (host : UpdateHost) (joinOk : Bool) (start : Machine) :
    Threads UpdateCall UpdateCall.Answer Machine Unit (Option ι) where
  state := start
  programs
    | some _ => checkUpdateCommand host
    | none => do
        let _ ← exitWithPending joinOk
        return ()

/-- The thread is about to do something that belongs to an update, which only the owner of
the flag may. -/
def Updating (program : UpdateM Unit) : Prop :=
  ∃ op next, program = .call op next ∧
    (op.Steady ∨ op = .endUpdate ∨ ∃ staged, op = .setPending staged)

theorem owns_of_updating {program : UpdateM Unit} {phase : Bool} (updating : Updating program)
    (follows : flight.Follows phase program fun _ _ => True) : phase = true := by
  obtain ⟨op, next, rfl, steady | rfl | ⟨staged, rfl⟩⟩ := updating
  · have allowed : flight.allows phase op := follows.1
    cases op with
    | tryBeginUpdate | takePending | endUpdate | setPending | showBox | requestExit =>
        exact steady.elim
    | _ => exact allowed
  · exact follows.1
  · exact follows.1

/-- However the threads of the clicks and the end of the program interleave, one of them works on
an update at most, with the flag set and nothing in the slot: nothing is staged over an update
that waits. -/
theorem single_flight [Unicode] {host : UpdateHost} {joinOk : Bool} {start : Machine}
    {threads : Threads UpdateCall UpdateCall.Answer Machine Unit (Option ι)}
    (empty : start.pending = none)
    (reach : Threads.Reach (machine temp) (updateThreads host joinOk start) threads) :
    (∀ first second, Updating (threads.programs first) → Updating (threads.programs second) →
      first = second) ∧
    (∀ thread, Updating (threads.programs thread) →
      threads.state.inProgress = true ∧ threads.state.pending = none) ∧
    (threads.state.pending ≠ none → threads.state.inProgress = true) := by
  have initially : (updateThreads (ι := ι) host joinOk start).Keeps flight OneOwner := by
    refine ⟨fun _ => false, ⟨nofun, nofun, fun filled => absurd empty filled⟩, fun thread => ?_⟩
    cases thread with
    | some click => exact checkUpdateCommand_follows host
    | none => exact (exitWithPending_follows joinOk).bind fun _ _ _ => trivial
  obtain ⟨owns, one, follow⟩ := initially.reach oneOwner_preserved reach
  refine ⟨fun first second left right => ?_, fun thread updating => ?_, one.waits⟩
  · exact one.unique first second (owns_of_updating left (follow first))
      (owns_of_updating right (follow second))
  · exact one.owned thread (owns_of_updating updating (follow thread))

def offlineHost : UpdateHost where
  crates :=
    { parseJson := fun _ => none, printFloat := fun _ => [], decodeBase64 := fun _ => none,
      Key := Unit, verifyingKey := fun _ => none, verifies := fun _ _ _ => false }
  sha256Hex _ := ""
  displayHttp _ := ""
  polls := 0

/-- A machine without files, before any click. -/
def emptyMachine : Machine := { files := fun _ => none }

/-- Two clicks on the update, without a network. -/
abbrev clicks : Threads UpdateCall UpdateCall.Answer Machine Unit (Option Bool) :=
  @updateThreads Bool asciiLowercase offlineHost true emptyMachine

/-- One click has begun an update, and the other was told so. -/
def oneClickBegun : Threads UpdateCall UpdateCall.Answer Machine Unit (Option Bool) where
  state := { emptyMachine with inProgress := true }
  programs := Function.update
    (Function.update clicks.programs (some true) (@updateThread asciiLowercase offlineHost))
    (some false) (askUpdate (.showBox "업데이트 확인" "업데이트 작업이 이미 진행 중입니다."))

theorem oneClickBegun_reach : Threads.Reach (machine "C:\\Temp") clicks oneClickBegun := by
  have begins : (machine "C:\\Temp").step .tryBeginUpdate clicks.state true
      { emptyMachine with inProgress := true } := ⟨rfl, rfl⟩
  have asks : clicks.programs (some true) =
      @checkUpdateCommand asciiLowercase offlineHost := rfl
  have first : Threads.Step (machine "C:\\Temp") clicks _ := .calls asks begins
  have refuses : (machine "C:\\Temp").step .tryBeginUpdate { emptyMachine with inProgress := true }
      false { emptyMachine with inProgress := true } := ⟨rfl, rfl⟩
  let begun : Threads UpdateCall UpdateCall.Answer Machine Unit (Option Bool) :=
    ⟨{ emptyMachine with inProgress := true }, Function.update clicks.programs (some true)
      (@updateThread asciiLowercase offlineHost)⟩
  have asksToo : begun.programs (some false) =
      @checkUpdateCommand asciiLowercase offlineHost := rfl
  have second : Threads.Step (machine "C:\\Temp") begun _ := .calls asksToo refuses
  exact (Relation.ReflTransGen.single first).tail second

theorem oneClickBegun_alone :
    Updating (oneClickBegun.programs (some true)) ∧
      ¬ Updating (oneClickBegun.programs (some false)) ∧
      oneClickBegun.state.pending = none := by
  have works : Updating (oneClickBegun.programs (some true)) :=
    ⟨.get manifestUrl, _, rfl, Or.inl trivial⟩
  have flies := @single_flight Bool _ "C:\\Temp" asciiLowercase _ _ _ _ rfl oneClickBegun_reach
  refine ⟨works, fun other => ?_, (flies.2.1 _ works).2⟩
  have same := flies.1 _ _ works other
  cases same

end LayoutAdblock.Release
