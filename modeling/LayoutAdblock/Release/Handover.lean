import LayoutAdblock.Release.Session
import LayoutAdblock.Release.SingleFlight

namespace LayoutAdblock.Release

open LayoutAdblock.Core Data Interaction Interaction.Fallible

/-! # What the threads of an update hand over

Besides the probe of a helper the app starts the helper of an update only, and that
update has the digest of a manifest that was accepted.
-/

/-- The digest is that of a manifest which one of the checks accepted, so nothing else can
be handed over. -/
def Vouched [Unicode] (host : UpdateHost) (checks : List (Bytes × Int)) (staged : StagedUpdate) :
    Prop :=
  ∃ manifest, Offered host checks manifest ∧ staged.sha256 = manifest.sha256

/-- A process the app starts is either a probe of the helper or the helper itself, with an
update the app has checked. -/
def Handover [Unicode] (host : UpdateHost) (checks : List (Bytes × Int)) (command : Command) :
    Prop :=
  command.args = ["--protocol-version"] ∨
    ∃ pid staged, Vouched host checks staged ∧ command.args = launchArgs pid staged

/-- Where a thread is: the update that it has taken out of the slot, the bodies that it has
read, and the documents that it has checked, each with the clock of the check. -/
structure Hand where
  taken : Option StagedUpdate := none
  bodies : List Bytes := []
  checks : List (Bytes × Int) := []

/-- What the session may do with what it has: it only checks documents it has read, only
stages an update it has checked, and only hands over the one it has taken. -/
def handover [Unicode] (host : UpdateHost) : Protocol UpdateCall UpdateCall.Answer Hand where
  allows hand
    | .setPending staged => Vouched host hand.checks staged
    | .spawn command => command.args = ["--protocol-version"] ∨
        ∃ pid staged, hand.taken = some staged ∧ command.args = launchArgs pid staged
    | .manifestClock document => document ∈ hand.bodies
    | _ => True
  moves hand
    | .takePending, slot => { hand with taken := slot }
    | .readBody _, .ok bytes => { hand with bodies := hand.bodies ++ [bytes] }
    | .manifestClock document, instant =>
        { hand with checks := hand.checks ++ [(document, instant)] }
    | _, _ => hand

/-- Bodies may have been read in between, and nothing was taken or checked. -/
structure Hand.Same (hand reached : Hand) : Prop where
  taken : reached.taken = hand.taken
  checks : reached.checks = hand.checks

variable [Unicode] {host : UpdateHost} {hand middle reached : Hand}

omit [Unicode] in
theorem Hand.Same.refl (hand : Hand) : hand.Same hand := ⟨rfl, rfl⟩

omit [Unicode] in
theorem Hand.Same.trans (first : hand.Same middle) (second : middle.Same reached) :
    hand.Same reached :=
  ⟨second.taken.trans first.taken, second.checks.trans first.checks⟩

theorem Offered.mono {checks more : List (Bytes × Int)} {manifest : UpdateManifest}
    (offered : Offered host checks manifest) (within : checks ⊆ more) :
    Offered host more manifest := by
  obtain ⟨document, instant, payload, member, accepted⟩ := offered
  exact ⟨document, instant, payload, within member, accepted⟩

theorem Vouched.mono {checks more : List (Bytes × Int)} {staged : StagedUpdate}
    (vouched : Vouched host checks staged) (within : checks ⊆ more) :
    Vouched host more staged := by
  obtain ⟨manifest, offered, digest⟩ := vouched
  exact ⟨manifest, offered.mono within, digest⟩

theorem Handover.mono {checks more : List (Bytes × Int)} {command : Command}
    (known : Handover host checks command) (within : checks ⊆ more) :
    Handover host more command := by
  rcases known with probe | ⟨pid, staged, vouched, args⟩
  · exact Or.inl probe
  · exact Or.inr ⟨pid, staged, vouched.mono within, args⟩

theorem UpdateCall.Prepares.handover {op : UpdateCall} (prepares : op.Prepares) (middle : Hand)
    (held : hand.Same middle) :
    (handover host).allows middle op ∧
      ∀ answer, hand.Same ((handover host).moves middle op answer) := by
  cases op with
  | tryBeginUpdate | takePending | endUpdate | setPending | showBox | requestExit =>
      exact prepares.1.elim
  | manifestClock document => exact absurd rfl (prepares.2.2 document)
  | spawn command => exact ⟨Or.inl (prepares.2.1 command rfl), fun _ => held⟩
  | readBody most =>
      refine ⟨trivial, fun body => ?_⟩
      cases body with
      | ok bytes => exact ⟨held.taken, held.checks⟩
      | error error => exact held
  | _ => exact ⟨trivial, fun _ => held⟩

theorem prepares_follows {α : Type} {program : UpdateM α} (only : program.Only UpdateCall.Prepares)
    (held : hand.Same middle) :
    (handover host).Follows middle program fun _ => hand.Same :=
  Protocol.Follows.of_only (only.mono fun _ prepares => prepares.handover) held

/-- What a request leads to: a body that was read is in hand. -/
def Hand.Read {ε : Type} (hand : Hand) (answer : Except ε Bytes) (reached : Hand) : Prop :=
  hand.Same reached ∧ ∀ body, answer = .ok body → body ∈ reached.bodies

theorem request_hands (url : String) (limit : Nat) (hand : Hand) :
    (handover host).Follows hand (request url limit) hand.Read := by
  refine ⟨trivial, fun response => ?_⟩
  cases response with
  | error error => exact ⟨.refl hand, nofun⟩
  | ok value =>
      refine ⟨trivial, fun body => ?_⟩
      cases body with
      | error error => exact ⟨.refl hand, nofun⟩
      | ok bytes =>
          refine ⟨⟨rfl, rfl⟩, fun body same => ?_⟩
          cases same
          exact List.mem_append_right _ (List.mem_singleton_self bytes)

theorem retry_hands (url : String) (limit : Nat) (delays : List Nat) (hand : Hand) :
    (handover host).Follows hand (retry (request url limit) delays) hand.Read := by
  induction delays generalizing hand with
  | nil => exact request_hands url limit hand
  | cons delay delays ih =>
      apply (request_hands url limit hand).bind
      intro answer reached read
      cases answer with
      | ok body => exact read
      | error error =>
          change (handover host).Follows reached (if transientError error then _ else _) _
          split
          · refine ⟨trivial, fun _ => (ih reached).mono fun answer last again => ?_⟩
            exact ⟨read.1.trans again.1, again.2⟩
          · exact ⟨read.1, nofun⟩

theorem fetch_hands (host : UpdateHost) (url : String) (limit : Nat) (hand : Hand) :
    (handover host).Follows hand (fetch host url limit).run hand.Read := by
  apply (retry_hands url limit [200, 500] hand).bind
  intro answer reached read
  cases answer with
  | error error => exact ⟨read.1, nofun⟩
  | ok body =>
      refine ⟨read.1, fun other same => ?_⟩
      cases same
      exact read.2 body rfl

theorem checkForUpdate_offers (host : UpdateHost) (hand : Hand) :
    (handover host).Follows hand (checkForUpdate host) fun checked reached =>
      Checked host reached.checks checked := by
  apply (fetch_hands host _ _ hand).bind
  intro answer reached read
  cases answer with
  | error error => exact trivial
  | ok body =>
      refine ⟨read.2 body rfl, fun instant => ?_⟩
      exact checked_of_parse (List.mem_append_right _ (List.mem_singleton_self _))

theorem prepareUpdate_hands (host : UpdateHost) (manifest : UpdateManifest) (hand : Hand) :
    (handover host).Follows hand (prepareUpdate host manifest).run fun prepared reached =>
      (∀ staged, prepared = .ok staged → staged.sha256 = manifest.sha256) ∧
        hand.Same reached := by
  have steps : ∀ {α : Type} {program : UpdateE α} {middle : Hand},
      program.run.Only UpdateCall.Prepares → hand.Same middle →
        (handover host).Follows middle program.run fun _ => hand.Same :=
    fun only held => prepares_follows only held
  have names : ∀ stem version, (always (ε := UpdateError) (uniqueStagingPath stem version)).run.Only
      UpdateCall.Prepares :=
    fun stem version => only_always (prepares_of_quiet (uniqueStagingPath_quiet stem version))
  have fails : ∀ (error : UpdateError) (reached : Hand), hand.Same reached →
      (∀ staged : StagedUpdate, Except.error error = .ok staged →
        staged.sha256 = manifest.sha256) ∧
        hand.Same reached := fun _ _ held => ⟨nofun, held⟩
  refine .tries (steps (only_mapError ⟨⟨trivial, nofun, nofun⟩, fun _ => trivial⟩)
    (.refl hand)) fails fun currentExe _ held => ?_
  refine .tries (steps (prepares_of_quiet (resolveHelper_quiet currentExe)) held) fails
    fun helperSrc _ held => ?_
  refine .tries (steps (stageHelper_prepares helperSrc) held) fails fun helper _ held => ?_
  refine .tries (steps (only_onError (prepares_of_quiet (verifyHelperProtocol_quiet host helper))
    (removeStaged_prepares helper)) held) fails fun _ _ held => ?_
  refine .tries (steps (names _ _) held) fails fun replacement _ held => ?_
  refine .tries (steps (only_onError (downloadAndVerify_prepares host manifest replacement)
    ((removeStaged_prepares helper).bind fun _ => removeStaged_prepares replacement)) held)
    fails fun _ _ held => ?_
  refine ⟨trivial, fun arguments => ⟨fun staged same => ?_, held⟩⟩
  cases same
  rfl

theorem updateThread_hands (host : UpdateHost) (hand : Hand) :
    (handover host).Follows hand (updateThread host) fun _ _ => True := by
  apply (checkForUpdate_offers host hand).bind
  intro checked reached verdict
  match checked with
  | .error _ => trivial
  | .ok (.error .noUpdate) => exact ⟨trivial, fun _ => ⟨trivial, fun _ => trivial⟩⟩
  | .ok (.error (.message _)) => exact ⟨trivial, fun _ => ⟨trivial, fun _ => trivial⟩⟩
  | .ok (.ok manifest) =>
      refine ⟨trivial, fun accepted => ?_⟩
      cases accepted with
      | false => exact ⟨trivial, fun _ => trivial⟩
      | true =>
          apply (prepareUpdate_hands host manifest reached).bind
          rintro prepared later ⟨digest, same⟩
          cases prepared with
          | error error => exact ⟨trivial, fun _ => ⟨trivial, fun _ => trivial⟩⟩
          | ok staged =>
              have vouched : Vouched host later.checks staged := by
                rw [same.checks]
                exact ⟨manifest, verdict, digest staged rfl⟩
              exact ⟨vouched, fun _ => ⟨trivial, fun _ => trivial⟩⟩

theorem checkUpdateCommand_hands (host : UpdateHost) (hand : Hand) :
    (handover host).Follows hand (checkUpdateCommand host) fun _ _ => True := by
  refine ⟨trivial, fun begun => ?_⟩
  cases begun with
  | true => exact updateThread_hands host hand
  | false => exact ⟨trivial, fun _ => trivial⟩

/-- What was taken out of the slot is what the helper is called for. -/
theorem exitWithPending_hands (host : UpdateHost) (joinOk : Bool) (hand : Hand) :
    (handover host).Follows hand (exitWithPending joinOk) fun _ _ => True := by
  refine ⟨trivial, fun slot => ?_⟩
  cases slot with
  | none => trivial
  | some staged =>
      refine ⟨trivial, fun pid => ⟨trivial, fun names => ⟨?_, fun started => ?_⟩⟩⟩
      · exact Or.inr ⟨pid, staged, rfl, rfl⟩
      · cases started with
        | ok value => exact ⟨trivial, fun _ => trivial⟩
        | error error =>
            exact ⟨trivial, fun _ => ⟨trivial, fun _ => ⟨trivial, fun _ => trivial⟩⟩⟩

variable {ι : Type} [DecidableEq ι]

/-- What the machine has on record covers what the threads have in hand: an update in the
slot, in a thread's hand or in a helper's command line belongs to a check that succeeded. -/
structure Handed (host : UpdateHost) (now : Machine) (hands : ι → Hand) : Prop where
  slot : ∀ staged, now.pending = some staged → Vouched host now.checks staged
  taken : ∀ thread staged, (hands thread).taken = some staged → Vouched host now.checks staged
  spawned : ∀ command ∈ now.spawned, Handover host now.checks command
  bodies : ∀ thread, (hands thread).bodies ⊆ now.bodies
  checks : ∀ thread, (hands thread).checks ⊆ now.checks
  fetched : ∀ check ∈ now.checks, check.1 ∈ now.bodies

variable {temp : String} {before after : Machine} {hands : ι → Hand} {thread : ι}

theorem Handed.same (handed : Handed host before hands) (slot : after.pending = before.pending)
    (spawned : after.spawned = before.spawned) (bodies : after.bodies = before.bodies)
    (checks : after.checks = before.checks) :
    Handed host after (Function.update hands thread (hands thread)) := by
  rw [Function.update_eq_self]
  exact {
    slot := by rw [slot, checks]; exact handed.slot
    taken := by rw [checks]; exact handed.taken
    spawned := by rw [spawned, checks]; exact handed.spawned
    bodies := by rw [bodies]; exact handed.bodies
    checks := by rw [checks]; exact handed.checks
    fetched := by rw [checks, bodies]; exact handed.fetched }

omit [Unicode] in
/-- A list that grows with the machine's. -/
theorem update_subset {α β : Type} (of : α → List β) {values : ι → α} {whole : List β}
    {value : α} (within : ∀ thread, of (values thread) ⊆ whole) (now : of value ⊆ whole)
    (other : ι) : of (Function.update values thread value other) ⊆ whole := by
  by_cases same : other = thread
  · rw [same, Function.update_self]
    exact now
  · rw [Function.update_of_ne same]
    exact within other

/-- What a thread has taken, after a call that takes nothing. -/
theorem Handed.keeps {hand : Hand} {other : ι} {staged : StagedUpdate}
    (handed : Handed host before hands)
    (filled : (Function.update hands thread hand other).taken = some staged)
    (same : hand.taken = (hands thread).taken) : Vouched host before.checks staged := by
  by_cases here : other = thread
  · rw [here, Function.update_self, same] at filled
    exact handed.taken thread staged filled
  · rw [Function.update_of_ne here] at filled
    exact handed.taken other staged filled

theorem Handed.read (handed : Handed host before hands) (thread : ι) (bytes : Bytes) :
    Handed host { before with bodies := before.bodies ++ [bytes] }
      (Function.update hands thread
        { hands thread with bodies := (hands thread).bodies ++ [bytes] }) where
  slot := handed.slot
  taken _ _ filled := handed.keeps filled rfl
  spawned := handed.spawned
  bodies := update_subset Hand.bodies
    (fun other => List.Subset.trans (handed.bodies other) (List.subset_append_left _ _))
    (List.append_subset.mpr ⟨List.Subset.trans (handed.bodies thread) (List.subset_append_left _ _),
      List.subset_append_right _ _⟩)
  checks := update_subset Hand.checks handed.checks (handed.checks thread)
  fetched check member := List.mem_append_left _ (handed.fetched check member)

theorem Handed.check {document : Bytes} (handed : Handed host before hands)
    (inHand : document ∈ (hands thread).bodies) (instant : Int) :
    Handed host { before with checks := before.checks ++ [(document, instant)] }
      (Function.update hands thread
        { hands thread with checks := (hands thread).checks ++ [(document, instant)] }) where
  slot staged filled := (handed.slot staged filled).mono (List.subset_append_left _ _)
  taken _ _ filled := (handed.keeps filled rfl).mono (List.subset_append_left _ _)
  spawned command member := (handed.spawned command member).mono (List.subset_append_left _ _)
  bodies := update_subset Hand.bodies handed.bodies (handed.bodies thread)
  checks := update_subset Hand.checks
    (fun other => List.Subset.trans (handed.checks other) (List.subset_append_left _ _))
    (List.append_subset.mpr ⟨List.Subset.trans (handed.checks thread) (List.subset_append_left _ _),
      List.subset_append_right _ _⟩)
  fetched check member := by
    rcases List.mem_append.mp member with earlier | last
    · exact handed.fetched check earlier
    · rw [List.mem_singleton.mp last]
      exact handed.bodies thread inHand

theorem Handed.take (handed : Handed host before hands) (thread : ι) :
    Handed host { before with pending := none }
      (Function.update hands thread { hands thread with taken := before.pending }) where
  slot := nofun
  taken other staged filled := by
    by_cases same : other = thread
    · rw [same, Function.update_self] at filled
      exact handed.slot staged filled
    · rw [Function.update_of_ne same] at filled
      exact handed.taken other staged filled
  spawned := handed.spawned
  bodies := update_subset Hand.bodies handed.bodies (handed.bodies thread)
  checks := update_subset Hand.checks handed.checks (handed.checks thread)
  fetched := handed.fetched

theorem handed_preserved (before : Machine) (hands : ι → Hand) (thread : ι) (op : UpdateCall)
    (answer : op.Answer) (after : Machine) (handed : Handed host before hands)
    (allowed : (handover host).allows (hands thread) op)
    (step : (machine temp).step op before answer after) :
    Handed host after
      (Function.update hands thread ((handover host).moves (hands thread) op answer)) := by
  cases op with
  | setPending staged =>
      obtain rfl : after = _ := step
      have stays : Handed host before (Function.update hands thread (hands thread)) :=
        handed.same rfl rfl rfl rfl
      have vouched : Vouched host (hands thread).checks staged := allowed
      refine { stays with slot := fun other filled => ?_ }
      obtain rfl := Option.some.inj filled
      exact vouched.mono (handed.checks thread)
  | takePending =>
      obtain ⟨slot, rfl⟩ := step
      subst slot
      exact handed.take thread
  | readBody most =>
      cases answer with
      | ok bytes =>
          obtain ⟨_, rfl⟩ := step
          exact handed.read thread bytes
      | error error =>
          obtain rfl : after = _ := step
          exact handed.same rfl rfl rfl rfl
  | manifestClock document =>
      obtain rfl : after = _ := step
      exact handed.check allowed answer
  | spawn command =>
      have known : Handover host before.checks command := by
        rcases allowed with probe | ⟨pid, staged, mine, args⟩
        · exact Or.inl probe
        · exact Or.inr ⟨pid, staged, handed.taken thread staged mine, args⟩
      cases answer with
      | error error =>
          obtain rfl : after = _ := step
          exact handed.same rfl rfl rfl rfl
      | ok value =>
          obtain rfl : after = _ := step
          have stays : Handed host before (Function.update hands thread (hands thread)) :=
            handed.same rfl rfl rfl rfl
          refine { stays with spawned := fun other member => ?_ }
          rcases List.mem_append.mp member with earlier | last
          · exact handed.spawned other earlier
          · rw [List.mem_singleton.mp last]
            exact known
  | tryBeginUpdate =>
      obtain ⟨_, rfl⟩ := step
      exact handed.same rfl rfl rfl rfl
  | endUpdate =>
      obtain rfl : after = _ := step
      exact handed.same rfl rfl rfl rfl
  | _ =>
      obtain ⟨_, slot⟩ := (framed_of_step step).update trivial
      obtain ⟨bodies, checks, spawned⟩ := (framed_of_step step).record trivial
      exact handed.same slot spawned bodies checks

/-- Whatever is started while the clicks and the exit interleave, and the documents that were
checked until then. -/
theorem updateThreads_hand {joinOk : Bool} {start : Machine}
    {threads : Threads UpdateCall UpdateCall.Answer Machine Unit (Option ι)}
    (empty : start.pending = none) (unspawned : start.spawned = [])
    (unchecked : start.checks = [])
    (reach : Threads.Reach (machine temp) (updateThreads host joinOk start) threads) :
    (∀ command ∈ threads.state.spawned, Handover host threads.state.checks command) ∧
      ∀ check ∈ threads.state.checks, check.1 ∈ threads.state.bodies := by
  have initially : (updateThreads (ι := ι) host joinOk start).Keeps (handover host)
      (Handed host) := by
    refine ⟨fun _ => {}, ?_, fun thread => ?_⟩
    · have state : (updateThreads (ι := ι) host joinOk start).state = start := rfl
      rw [state]
      exact {
        slot := by rw [empty]; exact nofun
        taken := nofun
        spawned := by rw [unspawned]; exact nofun
        bodies := fun _ => List.nil_subset _
        checks := fun _ => List.nil_subset _
        fetched := by rw [unchecked]; exact nofun }
    · cases thread with
      | some click => exact checkUpdateCommand_hands host {}
      | none => exact (exitWithPending_hands host joinOk {}).bind fun _ _ _ => trivial
  obtain ⟨hands, handed, _⟩ := initially.reach handed_preserved reach
  exact ⟨handed.spawned, handed.fetched⟩

end LayoutAdblock.Release
