import LayoutAdblock.Engine.Guards
import LayoutAdblock.Engine.Ledger

namespace LayoutAdblock.Engine

open LayoutAdblock.Core Interaction Environment

/-! # The account of a drain

Every snapshot of a drained map is attempted once.  The calls to windows are
those of the attempts, one attempt after the other.
-/

def Call.external : Call → Bool
  | .readCaches | .writeCaches _ | .iterateSnapshots => false
  | _ => true

/-- A window gets its place and size back, where the snapshot has one that is not empty. One
that is not on the top level keeps its place, for its parent may have moved. -/
def positionCalls (snap : RestoreSnapshot) : List Call :=
  match snap.rect with
  | none => []
  | some rect =>
      if 0 < rect.width && 0 < rect.height then
        [.setWindowPos snap.identity.hwnd rect.left rect.top rect.width rect.height
          (if snap.topLevel then [.noZOrder, .noActivate] else [.noZOrder, .noActivate, .noMove])]
      else []

/-- A window that was visible is shown, and asked afterwards whether it is. One that was not
visible is left as it is. -/
def visibilityCalls (snap : RestoreSnapshot) : List Call :=
  if snap.wasVisible then
    [.showWindow snap.identity.hwnd .show, .hasVisibleStyle snap.identity.hwnd]
  else []

/-- What it takes to restore a window that is not hung. A window that hangs is not touched
at all, since a call to it might not return. -/
def restoreCalls (snap : RestoreSnapshot) : List Call :=
  .isHungAppWindow snap.identity.hwnd :: (positionCalls snap ++ visibilityCalls snap)

def refuses : Event Call Call.Answer → Bool
  | { op := .isHungAppWindow _, answer := hung } => hung
  | { op := .setWindowPos _ _ _ _ _ _, answer := positioned } => !positioned
  | { op := .hasVisibleStyle _, answer := shown } => !shown
  | _ => false

/-- The check of an identity that no longer matches, up to the call that shows it: the
window is dead, or its process or its class is another one. -/
inductive Mismatch (identity : WindowIdentity) : Trace → Prop where
  | dead : Mismatch identity [{ op := .isWindow identity.hwnd, answer := false }]
  | process {pid : Pid} (other : pid ≠ identity.pid) :
      Mismatch identity
        [{ op := .isWindow identity.hwnd, answer := true },
          { op := .getWindowThreadProcessId identity.hwnd, answer := pid }]
  | class {className : String} (other : className ≠ identity.className) :
      Mismatch identity
        [{ op := .isWindow identity.hwnd, answer := true },
          { op := .getWindowThreadProcessId identity.hwnd, answer := identity.pid },
          { op := .getClassName identity.hwnd, answer := className }]

/-- The attempt at one snapshot: its identity check and the calls of its restore. -/
structure Attempt where
  snap : RestoreSnapshot
  result : Attempted
  checks : Trace
  calls : Trace

/-- The calls of an attempt, the checks before the others. -/
def Attempt.events (attempt : Attempt) : Trace := attempt.checks ++ attempt.calls

/-- How each result comes about: a window is gone when the check fails, restored when every
call of the restore is obeyed, and failed when a call is refused. -/
inductive Attempt.Took : Attempt → Prop where
  | gone {snap : RestoreSnapshot} {checks : Trace} (mismatch : Mismatch snap.identity checks) :
      Took { snap := snap, result := .gone, checks := checks, calls := [] }
  | restored {snap : RestoreSnapshot} {calls : Trace}
      (made : calls.map Event.op = restoreCalls snap)
      (obeyed : ∀ event ∈ calls, refuses event = false) :
      Took { snap := snap, result := .restored, checks := identityEvents snap.identity,
             calls := calls }
  | failed {snap : RestoreSnapshot} {calls : Trace}
      (made : calls.map Event.op <+: restoreCalls snap)
      (refused : ∃ event ∈ calls, refuses event = true) :
      Took { snap := snap, result := .failed, checks := identityEvents snap.identity,
             calls := calls }

/-- Some calls were made, and all of them were obeyed or not. -/
def Made (calls : List Call) (before : Recording) (obeyed : Bool) (after : Recording) : Prop :=
  after.state = before.state ∧
    ∃ events, after.trace = before.trace ++ events ∧ events.map Event.op = calls ∧
      (obeyed = true ↔ ∀ event ∈ events, refuses event = false)

theorem restorePosition_made (snap : RestoreSnapshot) (before : Recording) :
    adversary.recorded.ensures (restoreSnapshot.restorePosition snap)
      (Made (positionCalls snap) before) before := by
  have nothing : Made [] before true before := ⟨rfl, [], by simp, rfl, by simp⟩
  rw [restoreSnapshot.restorePosition, positionCalls]
  cases snap.rect with
  | none => exact nothing
  | some rect =>
      dsimp only
      cases 0 < rect.width && 0 < rect.height with
      | false => exact nothing
      | true =>
          simp only [ask, if_true, ensures_recorded_ask]
          intro positioned after stepped
          obtain rfl : after = before.state := stepped
          exact ⟨rfl, _, rfl, rfl, by cases positioned <;> simp [refuses]⟩

theorem restoreVisibility_made (snap : RestoreSnapshot) (before : Recording) :
    adversary.recorded.ensures (restoreSnapshot.restoreVisibility snap)
      (Made (visibilityCalls snap) before) before := by
  rw [restoreSnapshot.restoreVisibility, visibilityCalls]
  cases snap.wasVisible with
  | false => exact ⟨rfl, [], by simp, rfl, by simp⟩
  | true =>
      simp only [ask, if_true, ensures_bind, ensures_recorded_ask]
      intro accepted afterShow stepped
      obtain rfl : afterShow = before.state := stepped
      intro shown afterStyle stepped
      obtain rfl : afterStyle = before.state := stepped
      exact ⟨rfl, [{ op := .showWindow snap.identity.hwnd .show, answer := accepted },
        { op := .hasVisibleStyle snap.identity.hwnd, answer := shown }], by simp, rfl,
        by cases shown <;> simp [refuses]⟩

/-- How a restore that follows a passed identity check ends. -/
def Attempts (snap : RestoreSnapshot) (before : Recording) (restored : Bool)
    (after : Recording) : Prop :=
  after.state = before.state ∧
    ∃ calls, after.trace = before.trace ++ calls ∧
      Attempt.Took
        { snap := snap
          result := if restored then .restored else .failed
          checks := identityEvents snap.identity
          calls := calls }

theorem restoreSnapshot_attempts (snap : RestoreSnapshot) (lastError : String)
    (before : Recording) :
    adversary.recorded.ensures (restoreSnapshot snap lastError)
      (fun result after => Attempts snap before result.1 after) before := by
  simp only [restoreSnapshot, ask, ensures_bind, ensures_recorded_ask]
  intro hung checked stepped
  obtain rfl : checked = before.state := stepped
  cases hung with
  | true =>
      refine ⟨rfl, _, rfl, .failed ?_ ⟨_, List.mem_cons_self, rfl⟩⟩
      exact ⟨positionCalls snap ++ visibilityCalls snap, rfl⟩
  | false =>
      simp only [Bool.false_eq_true, if_false]
      refine ensures_seq (restorePosition_made snap _) fun positioned placed moved => ?_
      obtain ⟨placedSame, moves, placedTrace, placing, positions⟩ := moved
      refine ensures_seq (restoreVisibility_made snap placed) fun shown after showed => ?_
      obtain ⟨afterSame, shows, afterTrace, showing, visible⟩ := showed
      let healthy : Event Call Call.Answer :=
        { op := .isHungAppWindow snap.identity.hwnd, answer := false }
      have made : (healthy :: (moves ++ shows)).map Event.op = restoreCalls snap := by
        rw [List.map_cons, List.map_append, placing, showing, restoreCalls]
      have ends : (positioned && shown) = true ↔
          ∀ event ∈ healthy :: (moves ++ shows), refuses event = false := by
        rw [Bool.and_eq_true, positions, visible, List.forall_mem_cons, List.forall_mem_append]
        exact (and_iff_right rfl).symm
      refine ⟨afterSame.trans placedSame, healthy :: (moves ++ shows), ?_, ?_⟩
      · simp [afterTrace, placedTrace, healthy]
      · cases restored : positioned && shown with
        | true => exact .restored made (ends.mp restored)
        | false =>
            refine .failed ⟨[], by rw [made, List.append_nil]⟩ ?_
            by_contra obeyed
            push Not at obeyed
            have all := ends.mpr fun event member => Bool.eq_false_iff.mpr (obeyed event member)
            cases restored.symm.trans all

theorem identityMatches_mismatch (identity : WindowIdentity) (before : Recording) :
    adversary.recorded.ensures (identityMatches identity)
      (fun same after => same = false →
        ∃ checks, after.trace = before.trace ++ checks ∧ Mismatch identity checks) before := by
  simp only [identityMatches, ask, ensures_bind, ensures_recorded_ask]
  intro alive afterAlive stepped
  cases alive with
  | false => exact fun _ => ⟨_, rfl, .dead⟩
  | true =>
      simp only [Bool.not_true, Bool.false_eq_true, if_false, ensures_bind, ensures_recorded_ask]
      intro pid afterPid stepped
      by_cases samePid : pid = identity.pid
      · simp only [samePid, ne_eq, not_true_eq_false, if_false, ensures_bind, ensures_recorded_ask]
        intro className afterClass stepped different
        refine ⟨_, by simp, .class (of_decide_eq_false different)⟩
      · rw [if_pos samePid]
        exact fun _ => ⟨_, by simp, .process samePid⟩

/-- The calls of the run to anything but the caches. -/
def externalCalls (trace : Trace) : Trace := trace.filter fun event => event.op.external

@[simp] theorem externalCalls_append (first second : Trace) :
    externalCalls (first ++ second) = externalCalls first ++ externalCalls second :=
  List.filter_append ..

theorem restoreCalls_external {snap : RestoreSnapshot} {call : Call}
    (member : call ∈ restoreCalls snap) :
    call.external = true ∧ ∀ hwnd, call.mutates = some hwnd → hwnd = snap.identity.hwnd := by
  rcases List.mem_cons.mp member with rfl | member
  · exact ⟨rfl, fun _ mutates => by cases mutates⟩
  rcases List.mem_append.mp member with positions | shows
  · rw [positionCalls] at positions
    cases stored : snap.rect with
    | none =>
        rw [stored] at positions
        cases positions
    | some rect =>
        rw [stored] at positions
        dsimp only at positions
        cases sized : 0 < rect.width && 0 < rect.height with
        | false =>
            rw [sized] at positions
            cases positions
        | true =>
            rw [sized, if_pos rfl] at positions
            rw [List.mem_singleton.mp positions]
            exact ⟨rfl, fun _ mutates => (Option.some.inj mutates).symm⟩
  · rw [visibilityCalls] at shows
    split_ifs at shows
    · rcases List.mem_pair.mp shows with rfl | rfl
      · exact ⟨rfl, fun _ mutates => (Option.some.inj mutates).symm⟩
      · exact ⟨rfl, fun _ mutates => by cases mutates⟩
    · cases shows

/-- A call of a restore, whichever way it ended. -/
theorem Attempt.Took.mem_restoreCalls {attempt : Attempt} (took : attempt.Took)
    {event : Event Call Call.Answer} (member : event ∈ attempt.calls) :
    event.op ∈ restoreCalls attempt.snap := by
  have listed : event.op ∈ attempt.calls.map Event.op := List.mem_map_of_mem member
  cases took with
  | gone => cases member
  | restored made => exact made ▸ listed
  | failed made => exact made.subset listed

theorem Attempt.Took.checks_read {attempt : Attempt} (took : attempt.Took)
    {event : Event Call Call.Answer} (member : event ∈ attempt.checks) :
    event.op.external = true ∧ event.op.mutates = none := by
  have passed : event ∈ identityEvents attempt.snap.identity →
      event.op.external = true ∧ event.op.mutates = none := by
    intro member
    rcases List.mem_cons.mp member with rfl | member
    · exact ⟨rfl, rfl⟩
    · rcases List.mem_pair.mp member with rfl | rfl
      · exact ⟨rfl, rfl⟩
      · exact ⟨rfl, rfl⟩
  cases took with
  | gone mismatch =>
      cases mismatch with
      | dead =>
          rw [List.mem_singleton.mp member]
          exact ⟨rfl, rfl⟩
      | process =>
          rcases List.mem_pair.mp member with rfl | rfl
          · exact ⟨rfl, rfl⟩
          · exact ⟨rfl, rfl⟩
      | «class» =>
          rcases List.mem_cons.mp member with rfl | member
          · exact ⟨rfl, rfl⟩
          · rcases List.mem_pair.mp member with rfl | rfl
            · exact ⟨rfl, rfl⟩
            · exact ⟨rfl, rfl⟩
  | restored => exact passed member
  | failed => exact passed member

theorem Attempt.Took.external {attempt : Attempt} (took : attempt.Took) :
    externalCalls attempt.events = attempt.events := by
  apply List.filter_eq_self.mpr
  intro event member
  rcases List.mem_append.mp member with checks | calls
  · exact (took.checks_read checks).1
  · exact (restoreCalls_external (took.mem_restoreCalls calls)).1

/-- The map once these attempts have stored what they could not restore. Every other
snapshot is gone for good. -/
def keepFailed (snapshots : Snapshots) : List Attempt → Snapshots
  | [] => snapshots
  | attempt :: rest =>
      keepFailed
        (if attempt.result = .failed then snapshots.insert attempt.snap.identity attempt.snap
        else snapshots) rest

/-- The attempts that a run made between two points: one for each of the pending snapshots,
in this order, with every Win32 call of the run, and only failed snapshots put back. -/
structure Account (pending : List RestoreSnapshot) (attempts : List Attempt)
    (before after : Recording) : Prop where
  snaps : attempts.map Attempt.snap = pending
  took : ∀ attempt ∈ attempts, attempt.Took
  calls : externalCalls after.trace = externalCalls before.trace ++ attempts.flatMap Attempt.events
  state : after.state =
    { before.state with snapshots := keepFailed before.state.snapshots attempts }

theorem Account.cons {pending : List RestoreSnapshot} {attempt : Attempt} {rest : List Attempt}
    {before middle after : Recording} (took : attempt.Took)
    (calls : externalCalls middle.trace = externalCalls before.trace ++ attempt.events)
    (state : middle.state =
      { before.state with snapshots := keepFailed before.state.snapshots [attempt] })
    (later : Account pending rest middle after) :
    Account (attempt.snap :: pending) (attempt :: rest) before after where
  snaps := congrArg (attempt.snap :: ·) later.snaps
  took := List.forall_mem_cons.mpr ⟨took, later.took⟩
  calls := by rw [later.calls, calls, List.flatMap_cons, List.append_assoc]
  state := by rw [later.state, state]; rfl

theorem modifySnapshots_records (change : Snapshots → Snapshots) (before : Recording) :
    adversary.recorded.ensures (modifySnapshots change)
      (fun _ after =>
        after.state = { before.state with snapshots := change before.state.snapshots } ∧
        externalCalls after.trace = externalCalls before.trace) before := by
  simp only [modifySnapshots, ask, ensures_bind, ensures_recorded_ask]
  rintro caches afterRead ⟨rfl, rfl⟩ _ afterWrite stepped
  exact ⟨stepped, by simp [externalCalls, Call.external]⟩

/-- The loop attempts each snapshot in turn. -/
theorem restorePending_attempts (pending : List RestoreSnapshot) (failures : Nat)
    (lastError : String) (before : Recording) :
    adversary.recorded.ensures (restorePending pending failures lastError)
      (fun result after => ∃ attempts, Account pending attempts before after ∧
        result.1 = failures + attempts.countP fun attempt => attempt.result = .failed)
      before := by
  induction pending generalizing failures lastError before with
  | nil => exact ⟨[], ⟨rfl, by simp, by simp, rfl⟩, rfl⟩
  | cons snap rest ih =>
      have checks := ensures_and (identityMatches_records snap.identity before)
        (identityMatches_mismatch snap.identity before)
      refine ensures_seq checks fun same checked facts => ?_
      obtain ⟨⟨unchanged, matched⟩, mismatched⟩ := facts
      cases same with
      | false =>
          obtain ⟨checks, told, mismatch⟩ := mismatched rfl
          refine ensures_mono (ih failures lastError checked) fun result after went => ?_
          obtain ⟨attempts, account, counted⟩ := went
          have took : Attempt.Took
              { snap := snap, result := .gone, checks := checks, calls := [] } := .gone mismatch
          refine ⟨_ :: attempts, account.cons took ?_ unchanged, ?_⟩
          · rw [told, externalCalls_append, ← took.external, Attempt.events, List.append_nil]
          · rw [counted, List.countP_cons_of_neg (by simp)]
      | true =>
          simp only [Bool.not_true, Bool.false_eq_true, if_false]
          refine ensures_seq (restoreSnapshot_attempts snap lastError checked)
            fun result tried attempted => ?_
          obtain ⟨restored, lastError⟩ := result
          obtain ⟨same, calls, told, took⟩ := attempted
          have triedCalls : externalCalls tried.trace = externalCalls before.trace ++
              (identityEvents snap.identity ++ calls) := by
            rw [told, matched rfl, List.append_assoc, externalCalls_append]
            exact congrArg _ took.external
          cases restored with
          | true =>
              refine ensures_mono (ih failures lastError tried) fun result after went => ?_
              obtain ⟨attempts, account, counted⟩ := went
              refine ⟨_ :: attempts, account.cons took triedCalls (same.trans unchanged), ?_⟩
              rw [counted, List.countP_cons_of_neg (by simp)]
          | false =>
              simp only [Bool.false_eq_true, if_false]
              refine ensures_seq (modifySnapshots_records _ tried) fun _ stored facts => ?_
              obtain ⟨storedState, storedCalls⟩ := facts
              refine ensures_mono (ih (failures + 1) lastError stored) fun result after went => ?_
              obtain ⟨attempts, account, counted⟩ := went
              refine ⟨_ :: attempts, account.cons took (storedCalls.trans triedCalls) ?_, ?_⟩
              · rw [storedState, same, unchanged]
                rfl
              · rw [counted, List.countP_cons_of_pos (by simp)]
                omega

section Stored

variable {snapshots : Snapshots} {attempts : List Attempt}

abbrev Attempt.identity (attempt : Attempt) : WindowIdentity := attempt.snap.identity

theorem lookup_keepFailed_other {identity : WindowIdentity}
    (other : identity ∉ attempts.map Attempt.identity) :
    (keepFailed snapshots attempts).lookup identity = snapshots.lookup identity := by
  induction attempts generalizing snapshots with
  | nil => rfl
  | cons attempt rest ih =>
      rw [List.map_cons, List.mem_cons, not_or] at other
      rw [keepFailed, ih other.2]
      split_ifs
      · exact AList.lookup_insert_ne other.1
      · rfl

theorem lookup_keepFailed (distinct : (attempts.map Attempt.identity).Nodup) {attempt : Attempt}
    (member : attempt ∈ attempts) :
    (keepFailed snapshots attempts).lookup attempt.identity =
      if attempt.result = .failed then some attempt.snap
      else snapshots.lookup attempt.identity := by
  induction attempts generalizing snapshots with
  | nil => cases member
  | cons head rest ih =>
      rw [List.map_cons, List.nodup_cons] at distinct
      rw [keepFailed]
      rcases List.mem_cons.mp member with rfl | member
      · rw [lookup_keepFailed_other distinct.1]
        split_ifs
        · exact AList.lookup_insert _
        · rfl
      · have differs : attempt.identity ≠ head.identity := fun same =>
          distinct.1 (same ▸ List.mem_map_of_mem member)
        have unchanged : (if head.result = .failed then
            snapshots.insert head.snap.identity head.snap else snapshots).lookup attempt.identity =
              snapshots.lookup attempt.identity := by
          split_ifs
          · exact AList.lookup_insert_ne differs
          · rfl
        rw [ih distinct.2 member, unchanged]

theorem length_keepFailed (distinct : (attempts.map Attempt.identity).Nodup)
    (absent : ∀ attempt ∈ attempts, attempt.identity ∉ snapshots) :
    (keepFailed snapshots attempts).keys.length =
      snapshots.keys.length + attempts.countP fun attempt => attempt.result = .failed := by
  induction attempts generalizing snapshots with
  | nil => rfl
  | cons head rest ih =>
      rw [List.map_cons, List.nodup_cons] at distinct
      rw [List.forall_mem_cons] at absent
      rw [keepFailed]
      split_ifs with failed
      · rw [ih distinct.2, AList.keys_insert, List.length_cons,
          List.erase_of_not_mem fun listed => absent.1 (AList.mem_keys.mpr listed),
          List.countP_cons_of_pos (by simpa using failed)]
        · omega
        · intro attempt member inserted
          rcases (AList.mem_insert _).mp inserted with same | earlier
          · have listed : attempt.identity ∈ rest.map Attempt.identity :=
              List.mem_map_of_mem member
            rw [same] at listed
            exact distinct.1 listed
          · exact absent.2 attempt member earlier
      · rw [ih distinct.2 absent.2, List.countP_cons_of_neg (by simpa using failed)]

end Stored

/-- What a drain leaves behind, and in which order it made its attempts: every snapshot is
tried once, each mutation belongs to one attempt, and only failed snapshots stay, with their
stale states. -/
structure Accounted (caches : EngineCaches) (ordered : RestoreSnapshot → RestoreSnapshot → Prop)
    (failures : Nat) (after : Recording) (attempts : List Attempt) : Prop where
  each : (attempts.map Attempt.snap).Perm (caches.snapshots.pairs.map Prod.snd)
  took : ∀ attempt ∈ attempts, attempt.Took
  calls : externalCalls after.trace = attempts.flatMap Attempt.events
  mutations : ∀ event ∈ after.trace, ∀ hwnd, event.op.mutates = some hwnd →
    ∃ attempt ∈ attempts, attempt.result ≠ .gone ∧ attempt.identity.hwnd = hwnd ∧
      event ∈ attempt.calls
  stored : ∀ attempt ∈ attempts, after.state.snapshots.lookup attempt.identity =
    if attempt.result = .failed then some attempt.snap else none
  former : ∀ identity ∈ after.state.snapshots, identity ∈ caches.snapshots
  failures : failures = after.state.snapshots.keys.length
  stale : ∀ identity, after.state.stale.lookup identity =
    if identity ∈ after.state.snapshots then caches.stale.lookup identity else none
  order : (attempts.map Attempt.snap).Pairwise ordered

theorem mutates_external {call : Call} {hwnd : Hwnd} (mutates : call.mutates = some hwnd) :
    call.external = true := by
  cases call <;> first | rfl | cases mutates

theorem drainSnapshots_records (before : Recording) :
    adversary.recorded.ensures drainSnapshots
      (fun pending after => pending.Perm (before.state.snapshots.pairs.map Prod.snd) ∧
        after.state = { before.state with snapshots := ∅ } ∧
        externalCalls after.trace = externalCalls before.trace) before := by
  simp only [drainSnapshots, ask, ensures_bind, ensures_recorded_ask]
  rintro entries afterOrder ⟨order, rfl⟩
  refine ensures_mono (modifySnapshots_records _ _) fun _ after facts => ?_
  exact ⟨order.map Prod.snd, facts.1, facts.2.trans (by simp [externalCalls, Call.external])⟩

theorem dropRestored_records (before : Recording) :
    adversary.recorded.ensures dropRestored
      (fun _ after => after.state =
          before.state.retainStale (fun identity => decide (identity ∈ before.state.snapshots)) ∧
        externalCalls after.trace = externalCalls before.trace) before := by
  simp only [dropRestored, ask, ensures_bind, ensures_recorded_ask]
  rintro caches afterRead ⟨rfl, rfl⟩ _ afterWrite stepped
  exact ⟨stepped, by simp [externalCalls, Call.external]⟩

/-- Snapshots stored under their own identities have different ones. -/
theorem Keyed.identities_nodup {snapshots : Snapshots} (keyed : Keyed snapshots) :
    (snapshots.pairs.map fun entry => entry.2.identity).Nodup := by
  have same : snapshots.pairs.map (fun entry => entry.2.identity) =
      snapshots.pairs.map Prod.fst := by
    apply List.map_congr_left
    intro entry member
    exact keyed entry.1 entry.2 (pairs_lookup.mp member)
  rw [same]
  exact pairs_keys snapshots

/-- A call that changes a window belongs to the restore of an attempt on that window. -/
theorem Attempt.Took.mutates {attempt : Attempt} {event : Event Call Call.Answer} {hwnd : Hwnd}
    (took : attempt.Took) (listed : event ∈ attempt.events)
    (mutates : event.op.mutates = some hwnd) :
    attempt.result ≠ .gone ∧ attempt.identity.hwnd = hwnd ∧ event ∈ attempt.calls := by
  rcases List.mem_append.mp listed with checks | calls
  · cases mutates.symm.trans (took.checks_read checks).2
  · refine ⟨?_, ?_, calls⟩
    · intro gone
      cases took with
      | gone => cases calls
      | _ => cases gone
    · exact ((restoreCalls_external (took.mem_restoreCalls calls)).2 hwnd mutates).symm

/-- Only identities that had a snapshot are kept. -/
theorem mem_of_keepFailed {snapshots : Snapshots} {pending : List RestoreSnapshot}
    {attempts : List Attempt} {identity : WindowIdentity} (keyed : Keyed snapshots)
    (listed : pending.Perm (snapshots.pairs.map Prod.snd))
    (snaps : attempts.map Attempt.snap = pending) (member : identity ∈ keepFailed ∅ attempts) :
    identity ∈ snapshots := by
  by_cases attempted : identity ∈ attempts.map Attempt.identity
  · obtain ⟨attempt, inAttempts, rfl⟩ := List.mem_map.mp attempted
    have inPending : attempt.snap ∈ pending := snaps ▸ List.mem_map_of_mem inAttempts
    obtain ⟨entry, inPairs, same⟩ := List.mem_map.mp (listed.mem_iff.mp inPending)
    have found := pairs_lookup.mp inPairs
    have own : attempt.identity = entry.1 := by
      rw [Attempt.identity, ← same]
      exact keyed entry.1 entry.2 found
    rw [own, ← AList.lookup_isSome, found]
    rfl
  · rw [← AList.lookup_isSome, lookup_keepFailed_other attempted] at member
    cases member

theorem Account.accounted {caches : EngineCaches} {pending : List RestoreSnapshot}
    {ordered : RestoreSnapshot → RestoreSnapshot → Prop} {attempts : List Attempt}
    {start finish after : Recording} (account : Account pending attempts start finish)
    (keyed : Keyed caches.snapshots)
    (listed : pending.Perm (caches.snapshots.pairs.map Prod.snd))
    (drained : start.state = { caches with snapshots := ∅ })
    (quiet : externalCalls start.trace = [])
    (dropped : after.state =
      finish.state.retainStale fun identity => decide (identity ∈ finish.state.snapshots))
    (calls : externalCalls after.trace = externalCalls finish.trace)
    (order : pending.Pairwise ordered) :
    Accounted caches ordered (attempts.countP fun attempt => attempt.result = .failed) after
      attempts := by
  have distinct : (attempts.map Attempt.identity).Nodup := by
    have identities : attempts.map Attempt.identity = pending.map RestoreSnapshot.identity := by
      rw [← account.snaps, List.map_map]
      rfl
    rw [identities, (listed.map RestoreSnapshot.identity).nodup_iff, List.map_map]
    exact keyed.identities_nodup
  have kept : after.state.snapshots = keepFailed ∅ attempts := by
    rw [dropped, EngineCaches.retainStale, account.state, drained]
  have external : externalCalls after.trace = attempts.flatMap Attempt.events := by
    rw [calls, account.calls, quiet, List.nil_append]
  refine ⟨account.snaps ▸ listed, account.took, external, ?_, ?_, ?_, ?_, ?_, account.snaps ▸ order⟩
  · intro event member hwnd mutates
    have listed : event ∈ attempts.flatMap Attempt.events :=
      external ▸ List.mem_filter.mpr ⟨member, mutates_external mutates⟩
    obtain ⟨attempt, inAttempts, inEvents⟩ := List.mem_flatMap.mp listed
    exact ⟨attempt, inAttempts, (account.took attempt inAttempts).mutates inEvents mutates⟩
  · intro attempt member
    rw [kept, lookup_keepFailed distinct member]
    rfl
  · intro identity member
    rw [kept] at member
    exact mem_of_keepFailed keyed listed account.snaps member
  · rw [kept, length_keepFailed distinct fun _ _ => AList.notMem_empty _]
    exact (Nat.zero_add _).symm
  · intro identity
    have books : after.state.stale.lookup identity =
        if decide (identity ∈ finish.state.snapshots) then finish.state.stale.lookup identity
        else none := by
      rw [dropped, EngineCaches.retainStale]
      exact Data.lookup_filter_keys _ (fun identity => decide (identity ∈ finish.state.snapshots))
        _ identity
    have same : finish.state.snapshots = after.state.snapshots := by
      rw [dropped]
      rfl
    rw [books, same, account.state, drained]
    simp only [decide_eq_true_eq]

/-- Top-level windows come before child windows. -/
def ParentsFirst (first second : RestoreSnapshot) : Prop :=
  first.topLevel = false → second.topLevel = false

/-- Windows without a failed attempt on record come before those with one, and in each of the
two groups top-level windows come first. -/
def HealthyFirst (caches : EngineCaches) (first second : RestoreSnapshot) : Prop :=
  (caches.recorded first.identity = true → caches.recorded second.identity = true) ∧
    (caches.recorded first.identity = caches.recorded second.identity → ParentsFirst first second)

theorem parentsFirst_of_le {first second : RestoreSnapshot}
    (ordered : restoreKey first ≤ restoreKey second) : ParentsFirst first second := by
  intro child
  have flags : (!first.topLevel) ≤ !second.topLevel := Prod.Lex.monotone_fst _ _ ordered
  rw [child] at flags
  cases top : second.topLevel with
  | false => rfl
  | true =>
      rw [top] at flags
      exact absurd flags (by decide)

theorem min_attempts (caches : EngineCaches) (identity : WindowIdentity) :
    min (((caches.stale.lookup identity).map StaleState.attempts).getD 0) 1 =
      (caches.recorded identity).toNat := by
  rw [EngineCaches.recorded]
  cases caches.stale.lookup identity with
  | none => rfl
  | some state =>
      simp only [Option.map_some, Option.getD_some, Option.any_some]
      by_cases failed : 0 < state.attempts
      · rw [decide_eq_true failed]
        exact min_eq_right failed
      · rw [decide_eq_false failed]
        simp only [Bool.toNat_false]
        omega

theorem healthyFirst_of_le {caches : EngineCaches} {first second : RestoreSnapshot}
    (ordered : finalRestoreKey caches.stale first ≤ finalRestoreKey caches.stale second) :
    HealthyFirst caches first second := by
  rw [finalRestoreKey, finalRestoreKey, Prod.Lex.toLex_le_toLex, min_attempts, min_attempts]
    at ordered
  rw [HealthyFirst]
  rcases ordered with less | ⟨same, keys⟩
  · cases firstFailed : caches.recorded first.identity with
    | true =>
        rw [firstFailed] at less
        exact absurd less (Bool.toNat_le _).not_gt
    | false =>
        refine ⟨fun failed => Bool.noConfusion failed, fun same => ?_⟩
        rw [firstFailed, ← same] at less
        exact absurd less (lt_irrefl _)
  · have groups : caches.recorded first.identity = caches.recorded second.identity := by
      cases firstFailed : caches.recorded first.identity with
      | true =>
          cases secondFailed : caches.recorded second.identity with
          | true => rfl
          | false => simp [firstFailed, secondFailed] at same
      | false =>
          cases secondFailed : caches.recorded second.identity with
          | true => simp [firstFailed, secondFailed] at same
          | false => rfl
    exact ⟨fun failed => groups ▸ failed, fun _ => parentsFirst_of_le keys⟩

theorem pairwise_sorted {κ : Type} [LinearOrder κ] (key : RestoreSnapshot → κ)
    (pending : List RestoreSnapshot) :
    (pending.insertionSort fun first second => key first ≤ key second).Pairwise
      fun first second => key first ≤ key second := by
  have total : Std.Total fun first second : RestoreSnapshot => key first ≤ key second :=
    ⟨fun first second => le_total (key first) (key second)⟩
  have transitive : IsTrans RestoreSnapshot fun first second => key first ≤ key second :=
    ⟨fun _ _ _ => le_trans⟩
  exact List.pairwise_insertionSort _ pending

/-- A drained map that is attempted in the order of some key. -/
theorem drain_accounted {κ : Type} [LinearOrder κ] (key : RestoreSnapshot → κ)
    {ordered : RestoreSnapshot → RestoreSnapshot → Prop} {caches : EngineCaches}
    {before : Recording} (keyed : Keyed caches.snapshots) (start : before.state = caches)
    (quiet : externalCalls before.trace = [])
    (refines : ∀ first second, key first ≤ key second → ordered first second) :
    adversary.recorded.ensures
      (do
        let pending ← drainSnapshots
        let result ← restorePending
          (pending.insertionSort fun first second => key first ≤ key second) 0 ""
        dropRestored
        return result)
      (fun result after => ∃ attempts, Accounted caches ordered result.1 after attempts)
      before := by
  refine ensures_seq (drainSnapshots_records before) fun pending drained facts => ?_
  obtain ⟨listed, state, drainedCalls⟩ := facts
  refine ensures_seq (restorePending_attempts _ 0 "" drained) fun result finish went => ?_
  obtain ⟨attempts, account, counted⟩ := went
  refine ensures_seq (dropRestored_records finish) fun _ after dropped => ?_
  refine ⟨attempts, ?_⟩
  rw [counted, Nat.zero_add]
  have order := (pairwise_sorted key pending).imp fun {_ _} => refines _ _
  have sorted := (List.perm_insertionSort (fun first second => key first ≤ key second)
    pending).trans listed
  exact account.accounted keyed (start ▸ sorted) (start ▸ state) (drainedCalls.trans quiet)
    dropped.1 dropped.2 order

theorem drainRestoreAll_accounted {caches : EngineCaches} (keyed : Keyed caches.snapshots) :
    adversary.recorded.ensures drainRestoreAll
      (fun result after => ∃ attempts, Accounted caches ParentsFirst result.1 after attempts)
      { state := caches } := by
  simp only [drainRestoreAll, restoreAll, bind_assoc]
  exact drain_accounted restoreKey keyed rfl rfl fun _ _ => parentsFirst_of_le

theorem drainRestoreAllFinal_accounted {caches : EngineCaches} (keyed : Keyed caches.snapshots) :
    adversary.recorded.ensures drainRestoreAllFinal
      (fun result after =>
        ∃ attempts, Accounted caches (HealthyFirst caches) result.1 after attempts)
      { state := caches } := by
  simp only [drainRestoreAllFinal, restoreAllFinal, bind_assoc]
  have reads : adversary.recorded.ensures (ask .readCaches)
      (fun read after => read = caches ∧ after.state = caches ∧ externalCalls after.trace = [])
      { state := caches } := by
    simp only [ask, ensures_recorded_ask]
    rintro _ _ ⟨rfl, rfl⟩
    exact ⟨rfl, rfl, rfl⟩
  refine ensures_seq reads fun read after facts => ?_
  obtain ⟨rfl, state, quiet⟩ := facts
  exact drain_accounted (finalRestoreKey read.stale) keyed state quiet
    fun _ _ => healthyFirst_of_le

/-- After either drain each former snapshot is accounted for. -/
theorem drains_accounted (caches : EngineCaches) (keyed : Keyed caches.snapshots) :
    (∀ result after,
      adversary.recorded.Runs drainRestoreAll { state := caches } result after →
        ∃ attempts, Accounted caches ParentsFirst result.1 after attempts) ∧
    ∀ result after,
      adversary.recorded.Runs drainRestoreAllFinal { state := caches } result after →
        ∃ attempts, Accounted caches (HealthyFirst caches) result.1 after attempts := by
  constructor
  · intro result after run
    have accounted := ensures_runs (drainRestoreAll_accounted keyed) run
    exact accounted
  · intro result after run
    have accounted := ensures_runs (drainRestoreAllFinal_accounted keyed) run
    exact accounted

def popupWindow : WindowIdentity := { hwnd := 1, pid := 5, className := "AdFitWebView" }

def goneWindow : WindowIdentity := { hwnd := 1, pid := 5, className := "EVA_Window" }

def popupSnapshot (identity : WindowIdentity) : RestoreSnapshot :=
  { identity := identity, wasVisible := true, rect := some ⟨0, 0, 300, 200⟩, topLevel := true }

/-- Two snapshots under one handle: that of a window that is gone and that of the one which
has its handle now. -/
def reusedCaches : EngineCaches where
  snapshots := ((∅ : Snapshots).insert goneWindow (popupSnapshot goneWindow)).insert popupWindow
    (popupSnapshot popupWindow)
  stale := (∅ : AList fun _ : WindowIdentity => StaleState).insert popupWindow { attempts := 1 }

theorem reusedCaches_keyed : Keyed reusedCaches.snapshots := by
  have empty : Keyed ∅ := fun _ _ looked => by cases looked
  exact (empty.insert (popupSnapshot goneWindow)).insert (popupSnapshot popupWindow)

/-- Both drains of a map with two snapshots of one handle. -/
theorem reusedCaches_accounted :
    (∃ result after attempts,
      adversary.recorded.Runs drainRestoreAll { state := reusedCaches } result after ∧
        Accounted reusedCaches ParentsFirst result.1 after attempts) ∧
    ∃ result after attempts,
      adversary.recorded.Runs drainRestoreAllFinal { state := reusedCaches } result after ∧
        Accounted reusedCaches (HealthyFirst reusedCaches) result.1 after attempts := by
  have accounted := drains_accounted reusedCaches reusedCaches_keyed
  have run := runs_exec (recordingHandler_realizes obliging_realizes) drainRestoreAll
    { state := reusedCaches }
  have finalRun := runs_exec (recordingHandler_realizes obliging_realizes) drainRestoreAllFinal
    { state := reusedCaches }
  obtain ⟨attempts, account⟩ := accounted.1 _ _ run
  obtain ⟨finalAttempts, finalAccount⟩ := accounted.2 _ _ finalRun
  exact ⟨⟨_, _, attempts, run, account⟩, _, _, finalAttempts, finalRun, finalAccount⟩

def classRead : Event Call Call.Answer → Option String
  | { op := .getClassName _, answer := className } => some className
  | _ => none

/-- Windows that hang, whatever their handles. -/
def hanging : (call : Call) → EngineCaches → call.Answer × EngineCaches
  | .isHungAppWindow _, caches => (true, caches)
  | call, caches => obliging call caches

theorem hanging_realizes (call : Call) (caches : EngineCaches) :
    adversary.step call caches (hanging call caches).1 (hanging call caches).2 := by
  cases call with
  | isHungAppWindow => rfl
  | _ => exact obliging_realizes _ caches

/-- Two snapshots of one window, one of them stored under another identity. -/
def misfiledCaches : EngineCaches where
  snapshots := ((∅ : Snapshots).insert goneWindow (popupSnapshot popupWindow)).insert popupWindow
    (popupSnapshot popupWindow)

/-- A window that is gone and no longer matches sees the calls made for the window that has
its handle now.  A map that files a snapshot under another identity can lose it. -/
theorem reused_handle_changed :
    (∃ after, adversary.recorded.Runs drainRestoreAll { state := reusedCaches } (0, "") after ∧
      goneWindow ∈ reusedCaches.snapshots ∧ goneWindow ∉ after.state.snapshots ∧
      (∀ event ∈ after.trace, classRead event ≠ some goneWindow.className) ∧
      ∃ event ∈ after.trace, event.op.mutates = some goneWindow.hwnd) ∧
    ∃ result after,
      adversary.recorded.Runs drainRestoreAll { state := misfiledCaches } result after ∧
        result.1 = 2 ∧ after.state.snapshots.keys.length = 1 := by
  have run := runs_exec (recordingHandler_realizes obliging_realizes) drainRestoreAll
    { state := reusedCaches }
  have misfiledRun := runs_exec (recordingHandler_realizes hanging_realizes) drainRestoreAll
    { state := misfiledCaches }
  exact ⟨⟨_, run, by decide, by decide, by decide, by decide⟩, _, _, misfiledRun, by decide,
    by decide⟩

end LayoutAdblock.Engine
