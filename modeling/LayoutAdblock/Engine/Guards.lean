import LayoutAdblock.Engine.Calls
import LayoutAdblock.Engine.MarkedTick

namespace LayoutAdblock.Engine

open LayoutAdblock.Core Interaction Environment
open Marked (plain mark erase)

/-! # The guards of the engine

Every call that changes a window comes after a check of that window, in any
environment: windows may die, be reused, hang or change between any two calls.
-/

/-- An environment that answers every call as it likes.  Only the caches are
the engine's own. -/
def adversary : Environment Call Call.Answer EngineCaches where
  step call before answer after := CachesStep before after call answer

/-- The calls of the engine with what they were answered, in order. -/
abbrev Trace := List (Event Call Call.Answer)

/-- The three flags were looked at, and each of them lets the engine act. -/
def flagEvents : Trace :=
  [{ op := .load .stopping, answer := false }, { op := .load .enabled, answer := true },
    { op := .load .apply, answer := true }]

/-- The window was checked and is the one that was seen. -/
def identityEvents (identity : WindowIdentity) : Trace :=
  [{ op := .isWindow identity.hwnd, answer := true },
    { op := .getWindowThreadProcessId identity.hwnd, answer := identity.pid },
    { op := .getClassName identity.hwnd, answer := identity.className }]

/-- The window was found alive, with this process and class, and not hung. -/
def aliveEvents (identity : WindowIdentity) : Trace :=
  identityEvents identity ++ [{ op := .isHungAppWindow identity.hwnd, answer := false }]

/-- The check of `apply_evaluation`: the flags, then the window of the node. -/
def NodeCheck (graph : WindowGraph) (pids : List Pid) (hwnd : Hwnd) (check : Trace) : Prop :=
  ∃ node, graph.get hwnd = some node ∧ node.pid ∈ pids ∧ node.identity.hwnd = hwnd ∧
    check = flagEvents ++ aliveEvents node.identity

/-- The calls and the marks that say for which snapshot they are made. -/
abbrev MarkedTrace := List (Event (MarkedOp Call Mark) (MarkedAnswer Call.Answer))

/-- The check of a restore: it takes up one of the snapshots, and then the window
of that snapshot is checked. -/
def SnapshotCheck (snapshots : List RestoreSnapshot) (hwnd : Hwnd) (check : MarkedTrace) : Prop :=
  ∃ snap ∈ snapshots, snap.identity.hwnd = hwnd ∧
    check = Marked.noted (.acting snap) :: (aliveEvents snap.identity).map Marked.called

/-- The window a call changes; a mark changes none. -/
def markedMutates : MarkedOp Call Mark → Option Hwnd
  | .call call => call.mutates
  | .mark _ => none

/-- What may stand between the check of a snapshot's window and a change of it:
no other window is changed, and no other snapshot is taken up. -/
def Undisturbed (hwnd : Hwnd) : MarkedOp Call Mark → Prop
  | .call call => TouchesOnly hwnd call
  | .mark (.acting _) => False
  | .mark _ => True

theorem Undisturbed.touches {hwnd : Hwnd} (op : MarkedOp Call Mark)
    (undisturbed : Undisturbed hwnd op) : Touches markedMutates hwnd op := by
  cases op with
  | call call => exact undisturbed
  | mark what => exact fun _ mutates => nomatch mutates

/-- The caches of the engine with a record of its calls. -/
abbrev Recording := Recorded Call Call.Answer EngineCaches

theorem flagsAllow_records (before : Recording) :
    adversary.recorded.ensures flagsAllow
      (fun allowed after => after.state = before.state ∧
        (allowed = true → after.trace = before.trace ++ flagEvents)) before := by
  simp only [flagsAllow, ask, ensures_bind, ensures_recorded_ask]
  intro stopping afterStopping stepped
  obtain rfl : afterStopping = before.state := stepped
  cases stopping with
  | true => simp
  | false =>
      simp only [Bool.false_eq_true, if_false, ensures_bind, ensures_recorded_ask]
      intro enabled afterEnabled stepped
      obtain rfl : afterEnabled = before.state := stepped
      cases enabled with
      | false => simp
      | true =>
          simp only [Bool.not_true, Bool.false_eq_true, if_false, ensures_recorded_ask]
          intro apply afterApply stepped
          obtain rfl : afterApply = before.state := stepped
          simp only [true_and]
          intro applies
          simp [flagEvents, applies]

theorem identityMatches_records (identity : WindowIdentity) (before : Recording) :
    adversary.recorded.ensures (identityMatches identity)
      (fun same after => after.state = before.state ∧
        (same = true → after.trace = before.trace ++ identityEvents identity)) before := by
  simp only [identityMatches, ask, ensures_bind, ensures_recorded_ask]
  intro alive afterAlive stepped
  obtain rfl : afterAlive = before.state := stepped
  cases alive with
  | false => simp
  | true =>
      simp only [Bool.not_true, Bool.false_eq_true, if_false, ensures_bind,
        ensures_recorded_ask]
      intro pid afterPid stepped
      obtain rfl : afterPid = before.state := stepped
      by_cases samePid : pid = identity.pid
      · simp only [samePid, ne_eq, not_true_eq_false, if_false, ensures_bind,
          ensures_recorded_ask]
        intro className afterClass stepped
        obtain rfl : afterClass = before.state := stepped
        simp only [Program.pure_eq, ensures_done, true_and, decide_eq_true_eq]
        intro sameClass
        simp [identityEvents, sameClass]
      · simp [samePid]

theorem hungCheck_records {hwnd : Hwnd} {identity : WindowIdentity} {before : Recording}
    (start : Recording) (earlier : Trace) (own : identity.hwnd = hwnd)
    (state : before.state = start.state)
    (trace : before.trace = start.trace ++ (earlier ++ identityEvents identity)) :
    adversary.recorded.ensures (ask (.isHungAppWindow hwnd))
      (fun hung after => after.state = start.state ∧
        (hung = false → after.trace = start.trace ++ (earlier ++ aliveEvents identity)))
      before := by
  simp only [ask, ensures_recorded_ask]
  intro hung after stepped
  obtain rfl : after = before.state := stepped
  refine ⟨state, ?_⟩
  intro healthy
  simp [trace, aliveEvents, own, healthy]

theorem precheck_records (graph : WindowGraph) (pids : List Pid) (hwnd : Hwnd)
    (before : Recording) :
    adversary.recorded.ensures (precheck graph pids hwnd)
      (fun checked after => after.state = before.state ∧ (checked = true →
        ∃ check, NodeCheck graph pids hwnd check ∧ after.trace = before.trace ++ check))
      before := by
  apply ensures_seq (flagsAllow_records before)
  intro allowed afterFlags flags
  cases allowed with
  | false => simpa using flags.1
  | true =>
      simp only [Bool.not_true, Bool.false_eq_true, if_false]
      cases found : graph.get hwnd with
      | none => simpa using flags.1
      | some node =>
          have own : node.identity.hwnd = hwnd := WindowGraph.get_hwnd found
          by_cases wanted : pids.contains node.pid = true
          · simp only [wanted, Bool.not_true, Bool.false_eq_true, if_false]
            apply ensures_seq (identityMatches_records node.identity afterFlags)
            intro same afterIdentity identity
            cases same with
            | false => simpa using identity.1.trans flags.1
            | true =>
                simp only [Bool.not_true, Bool.false_eq_true, if_false]
                have trace : afterIdentity.trace =
                    before.trace ++ (flagEvents ++ identityEvents node.identity) := by
                  rw [identity.2 rfl, flags.2 rfl, List.append_assoc]
                apply ensures_seq
                  (hungCheck_records before flagEvents own (identity.1.trans flags.1) trace)
                intro hung after healthy
                refine ⟨healthy.1, ?_⟩
                intro passed
                refine ⟨_, ⟨node, found, by simpa using wanted, own, rfl⟩, ?_⟩
                exact healthy.2 (by simpa using passed)
          · simp only [wanted, Bool.not_false, if_true]
            simpa using flags.1

section Apply

variable (graph : WindowGraph) (pids : List Pid)

/-- The trace of a run in which every change was made after the check of
`apply_evaluation`. -/
abbrev NodeGuarded (trace : Trace) : Prop :=
  Guarded Call.mutates TouchesOnly (NodeCheck graph pids) trace

variable {graph pids}

/-- What follows a passed check may change the window that was checked. -/
theorem precheck_guards {hwnd : Hwnd} {before : Recording}
    (guarded : NodeGuarded graph pids before.trace) :
    adversary.recorded.ensures (precheck graph pids hwnd)
      (fun checked after => NodeGuarded graph pids after.trace ∧
        (checked = true → Checked TouchesOnly (NodeCheck graph pids) hwnd after.trace))
      before := by
  apply ensures_mono (ensures_and
    (ensures_guarded_of_quiet
      ((precheck_reads graph pids hwnd).mono fun _ => Reads.quiet) guarded)
    (precheck_records graph pids hwnd before))
  intro checked after held
  refine ⟨held.1, ?_⟩
  intro passed
  obtain ⟨check, holds, trace⟩ := held.2.2 passed
  exact ⟨before.trace, check, [], by simp [trace], holds, by simp⟩

theorem prechecked_guarded {hwnd : Hwnd} {body : EngineM Unit} {before : Recording}
    (touches : body.Only (TouchesOnly hwnd)) (guarded : NodeGuarded graph pids before.trace) :
    adversary.recorded.ensures (prechecked graph pids hwnd body)
      (fun _ after => NodeGuarded graph pids after.trace) before := by
  apply ensures_seq (precheck_guards guarded)
  intro checked after held
  cases checked with
  | false => exact held.1
  | true => exact ensures_guarded_of_checked touches (fun _ own => own) held.1 (held.2 rfl)

theorem positionChecked_touches (hwnd : Hwnd) (pos : List Int) :
    (positionChecked graph hwnd pos).Only (TouchesOnly hwnd) := by
  unfold positionChecked
  split
  · exact (resizeWindow_calls graph hwnd pos true).mono fun _ => PlaceCall.touches
  · split
    · trivial
    · apply Program.Only.bind
      · exact (rememberSnapshot_quiet graph hwnd).mono fun _ => touches_of_quiet
      · intro _
        exact (resizeWindow_calls graph hwnd pos false).mono fun _ => PlaceCall.touches

theorem positionWindow_guarded {pos : List Int} {before : Recording}
    (guarded : NodeGuarded graph pids before.trace) :
    adversary.recorded.ensures (positionWindow graph pids pos)
      (fun _ after => NodeGuarded graph pids after.trace) before := by
  unfold positionWindow
  split
  · exact guarded
  · exact prechecked_guarded (positionChecked_touches _ _) guarded

theorem closeWindows_guarded {deadline : Instant} {hwnds : List Hwnd} {before : Recording}
    (guarded : NodeGuarded graph pids before.trace) :
    adversary.recorded.ensures (closeWindows graph pids deadline hwnds)
      (fun _ after => NodeGuarded graph pids after.trace) before := by
  induction hwnds generalizing before with
  | nil => exact guarded
  | cons hwnd rest ih =>
      apply ensures_seq (precheck_guards guarded)
      intro checked afterCheck held
      cases checked with
      | false => exact ih held.1
      | true =>
          simp only [Bool.not_true, Bool.false_eq_true, if_false]
          apply ensures_seq (ensures_checked (Program.only_ask.mpr (touches_of_quiet rfl))
            (fun _ own => own) held.1 (held.2 rfl))
          intro instant afterClock held
          split
          · exact held.1
          · apply ensures_seq (ensures_guarded_of_checked
              ((requestClose_calls hwnd _).mono fun _ => CloseCall.touches) (fun _ own => own)
              held.1 held.2)
            intro _ afterClose guarded
            exact ih guarded

theorem applyEvaluation_guarded {before : Recording} (evaluation : Evaluation)
    (guarded : NodeGuarded graph pids before.trace) :
    adversary.recorded.ensures (applyEvaluation graph evaluation pids)
      (fun _ after => NodeGuarded graph pids after.trace) before := by
  apply ensures_seq (ensures_guarded_of_quiet
    (flagsAllow_reads.mono fun _ => Reads.quiet) guarded)
  intro allowed afterFlags guarded
  split
  · exact guarded
  · apply ensures_seq (ensures_guarded_of_quiet
      (Program.Only.forEach (captureWindow_quiet graph pids) _) guarded)
    intro _ afterCapture guarded
    apply ensures_seq (ensures_loop (fun hwnd _ _ => prechecked_guarded
      ((hideVisible_calls hwnd).mono fun _ => PlaceCall.touches)) guarded)
    intro _ afterHide guarded
    apply ensures_seq (ensures_loop (fun _ _ _ => positionWindow_guarded) guarded)
    intro _ afterPosition guarded
    apply ensures_seq (ensures_guarded_of_quiet (ask_quiet rfl) guarded)
    intro started afterClock guarded
    apply ensures_seq (closeWindows_guarded guarded)
    intro _ afterClose guarded
    split
    · exact guarded
    · exact ensures_guarded_of_quiet retainMatching_quiet guarded

end Apply

section Restore

variable {snapshots : List RestoreSnapshot} {α : Type}

/-- The adversary, with the calls and the marks on record. -/
abbrev watched : Environment (MarkedOp Call Mark) (MarkedAnswer Call.Answer)
    (Recorded (MarkedOp Call Mark) (MarkedAnswer Call.Answer) EngineCaches) :=
  (adversary.marked fun (_ : Mark) caches => caches).recorded

abbrev Watching := Recorded (MarkedOp Call Mark) (MarkedAnswer Call.Answer) EngineCaches

/-- Every change was made for a snapshot, after the check of its window. The check is of the
process and class of that very snapshot, not of the handle alone. -/
abbrev SnapshotGuarded (snapshots : List RestoreSnapshot) (trace : MarkedTrace) : Prop :=
  Guarded markedMutates Undisturbed (SnapshotCheck snapshots) trace

def HoldsOnly (snapshots : List RestoreSnapshot) (caches : EngineCaches) : Prop :=
  ∀ identity snap, caches.snapshots.lookup identity = some snap → snap ∈ snapshots

theorem HoldsOnly.erase {caches : EngineCaches} (holds : HoldsOnly snapshots caches)
    (identity : WindowIdentity) :
    HoldsOnly snapshots { caches with snapshots := caches.snapshots.erase identity } := by
  intro other snap found
  by_cases same : other = identity
  · subst same
    simp [AList.lookup_erase] at found
  · rw [AList.lookup_erase_ne same] at found
    exact holds other snap found

theorem HoldsOnly.insert {caches : EngineCaches} {snap : RestoreSnapshot}
    (holds : HoldsOnly snapshots caches) (identity : WindowIdentity) (listed : snap ∈ snapshots) :
    HoldsOnly snapshots { caches with snapshots := caches.snapshots.insert identity snap } := by
  intro other found looked
  by_cases same : other = identity
  · subst same
    rw [AList.lookup_insert] at looked
    exact Option.some.inj looked ▸ listed
  · rw [AList.lookup_insert_ne same] at looked
    exact holds other found looked

/-- What the restores keep. -/
structure Restoring (snapshots : List RestoreSnapshot) (watching : Watching) : Prop where
  guarded : SnapshotGuarded snapshots watching.trace
  holds : HoldsOnly snapshots watching.state

theorem mark_restoring {what : Mark} {before : Watching} (kept : Restoring snapshots before) :
    watched.ensures (mark what)
      (fun _ after => Restoring snapshots after ∧ after.state = before.state ∧
        after.trace = before.trace ++ [Marked.noted what]) before :=
  ensures_recorded_mark ⟨⟨kept.guarded.quiet rfl, kept.holds⟩, rfl, rfl⟩

/-- A program that changes no window, with what it does to the caches. -/
theorem plain_quiet {program : EngineM α} {post : α → EngineCaches → Prop} {before : Watching}
    (quiet : program.Only Quiet) (holds : adversary.ensures program post before.state)
    (kept : Restoring snapshots before) :
    watched.ensures (plain program)
      (fun value after => SnapshotGuarded snapshots after.trace ∧ post value after.state)
      before := by
  apply ensures_and
  · exact ensures_guarded_of_quiet (Marked.only_plain quiet fun _ quietly => quietly) kept.guarded
  · exact ensures_recorded.mpr (wp_plain holds)

/-- One that also holds on to the snapshots. -/
theorem plain_restoring {program : EngineM α} {before : Watching}
    (quiet : program.Only Quiet)
    (holds : adversary.ensures program (fun _ => HoldsOnly snapshots) before.state)
    (kept : Restoring snapshots before) :
    watched.ensures (plain program) (fun _ => Restoring snapshots) before :=
  ensures_mono (plain_quiet quiet holds kept) fun _ _ held => ⟨held.1, held.2⟩

theorem ensures_readCaches_adversary (caches : EngineCaches) :
    adversary.ensures (ask .readCaches) (fun read after => read = caches ∧ after = caches)
      caches :=
  ensures_ask.mpr fun _ _ step => step

/-- Reading the caches and writing them back. -/
theorem ensures_update_adversary {change : EngineCaches → EngineCaches} (caches : EngineCaches) :
    adversary.ensures
      (do
        let caches ← ask .readCaches
        ask (.writeCaches (change caches)))
      (fun _ after => after = change caches) caches := by
  refine ensures_seq (ensures_readCaches_adversary caches) fun read middle same => ?_
  obtain ⟨rfl, rfl⟩ := same
  exact ensures_ask.mpr fun _ _ step => step

theorem update_restoring {change : EngineCaches → EngineCaches} {before : Watching}
    (holds : HoldsOnly snapshots (change before.state)) (kept : Restoring snapshots before) :
    watched.ensures
      (plain do
        let caches ← ask .readCaches
        ask (.writeCaches (change caches)))
      (fun _ => Restoring snapshots) before := by
  refine plain_restoring ((ask_quiet rfl).bind fun _ => ask_quiet rfl) ?_ kept
  refine ensures_mono (ensures_update_adversary before.state) fun _ after written => ?_
  rw [written]
  exact holds

theorem removeStale_restoring {identity : WindowIdentity} {before : Watching}
    (kept : Restoring snapshots before) :
    watched.ensures (plain (removeStale identity)) (fun _ => Restoring snapshots) before :=
  update_restoring kept.holds kept

/-- The window of the snapshot in hand matches, and the change still to come is
covered by this much of its check. -/
theorem identityMatches_restoring {snap : RestoreSnapshot} {older : MarkedTrace}
    {before : Watching} (acting : before.trace = older ++ [Marked.noted (.acting snap)])
    (kept : Restoring snapshots before) :
    watched.ensures (plain (identityMatches snap.identity))
      (fun same after => Restoring snapshots after ∧ (same = true →
        after.trace = older ++
          (Marked.noted (.acting snap) :: (identityEvents snap.identity).map Marked.called)))
      before := by
  have quiet := (identityMatches_reads snap.identity).mono fun _ => Reads.quiet
  have records : watched.ensures (plain (identityMatches snap.identity))
      (fun same after => after.state = before.state ∧ (same = true → after.trace =
        before.trace ++ (identityEvents snap.identity).map Marked.called)) before :=
    ensures_recorded_plain (ensures_mono (identityMatches_records snap.identity ⟨before.state, []⟩)
      fun same after recorded => ⟨recorded.1, fun matched => by rw [recorded.2 matched]; rfl⟩)
  have guards : watched.ensures (plain (identityMatches snap.identity))
      (fun _ after => SnapshotGuarded snapshots after.trace) before :=
    ensures_guarded_of_quiet (Marked.only_plain quiet fun _ quietly => quietly) kept.guarded
  refine ensures_mono (ensures_and guards records) fun same after held => ?_
  refine ⟨⟨held.1, ?_⟩, fun matched => ?_⟩
  · rw [held.2.1]
    exact kept.holds
  · rw [held.2.2 matched, acting, List.append_assoc, List.singleton_append]

/-- A restore that follows the identity check of its snapshot. -/
theorem restoreSnapshot_restoring {snap : RestoreSnapshot} {lastError : String}
    {older : MarkedTrace} {before : Watching} (listed : snap ∈ snapshots)
    (matched : before.trace = older ++
      (Marked.noted (.acting snap) :: (identityEvents snap.identity).map Marked.called))
    (kept : Restoring snapshots before) :
    watched.ensures (plain (restoreSnapshot snap lastError)) (fun _ => Restoring snapshots)
      before := by
  have steady : watched.ensures (plain (restoreSnapshot snap lastError))
      (fun _ after => HoldsOnly snapshots after.state) before := by
    refine ensures_recorded.mpr (wp_plain ?_)
    refine ensures_of_step (HoldsOnly snapshots) (restoreSnapshot_calls snap lastError)
      (fun call state answer after restores holds step => ?_) kept.holds
    rw [CachesStep.unchanged restores.offCaches step]
    exact holds
  have changes : ∀ {β : Type} {program : EngineM β},
      program.Only (RestoreCall snap.identity.hwnd) →
      (plain program : MarkedM β).Only (Undisturbed snap.identity.hwnd) :=
    fun only => Marked.only_plain only fun _ => RestoreCall.touches
  refine ensures_mono (ensures_and ?_ steady) fun _ _ held => ⟨held.1, held.2⟩
  rw [restoreSnapshot, Marked.plain_bind]
  have asking : watched.ensures (plain (ask (.isHungAppWindow snap.identity.hwnd)))
      (fun hung after => SnapshotGuarded snapshots after.trace ∧ (hung = false →
        Checked Undisturbed (SnapshotCheck snapshots) snap.identity.hwnd after.trace)) before := by
    refine ensures_recorded_ask.mpr fun hung after _ => ⟨kept.guarded.quiet rfl, fun healthy => ?_⟩
    refine ⟨older, _, [], ?_, ⟨snap, listed, rfl, rfl⟩, by simp⟩
    have answered : hung = false := healthy
    simp [matched, aliveEvents, Marked.called, answered]
  refine ensures_seq asking fun hung afterCheck held => ?_
  cases hung with
  | true => exact held.1
  | false =>
      refine ensures_guarded_of_checked (changes ?_) Undisturbed.touches held.1 (held.2 rfl)
      apply (restorePosition_calls snap).bind
      intro positioned
      apply (restoreVisibility_calls snap).bind
      intro shown
      trivial

theorem markedPending_restoring {pending : List RestoreSnapshot} {failures : Nat}
    {lastError : String} {before : Watching} (listed : ∀ snap ∈ pending, snap ∈ snapshots)
    (kept : Restoring snapshots before) :
    watched.ensures (markedPending pending failures lastError)
      (fun _ => Restoring snapshots) before := by
  induction pending generalizing failures lastError before with
  | nil => exact kept
  | cons snap rest ih =>
      have later : ∀ other ∈ rest, other ∈ snapshots :=
        fun other member => listed other (List.mem_cons_of_mem snap member)
      have own : snap ∈ snapshots := listed snap List.mem_cons_self
      refine ensures_seq (mark_restoring kept) fun _ acting taken => ?_
      refine ensures_seq (identityMatches_restoring taken.2.2 taken.1) fun same checked held => ?_
      cases same with
      | false =>
          exact ensures_seq (mark_restoring held.1) fun _ _ marked => ih later marked.1
      | true =>
          refine ensures_seq (restoreSnapshot_restoring own (held.2 rfl) held.1)
            fun result after kept => ?_
          obtain ⟨restored, error⟩ := result
          cases restored with
          | true => exact ensures_seq (mark_restoring kept) fun _ _ marked => ih later marked.1
          | false =>
              refine ensures_seq (mark_restoring kept) fun _ drained marked => ?_
              refine ensures_seq (update_restoring (marked.1.holds.insert snap.identity own)
                marked.1) fun _ inserted kept => ?_
              exact ih later kept

/-- The snapshots that a drain returns are those of the caches. -/
theorem drainSnapshots_restoring {before : Watching}
    (listed : ∀ snap ∈ before.state.snapshots.pairs.map Prod.snd, snap ∈ snapshots)
    (kept : Restoring snapshots before) :
    watched.ensures (plain drainSnapshots)
      (fun pending after => Restoring snapshots after ∧ ∀ snap ∈ pending, snap ∈ snapshots)
      before := by
  have quiet : drainSnapshots.Only Quiet :=
    (ask_quiet rfl).bind fun _ => (modifySnapshots_quiet _).bind fun _ => trivial
  have drains : adversary.ensures drainSnapshots
      (fun (pending : List RestoreSnapshot) after => HoldsOnly snapshots after ∧ ∀ snap ∈ pending, snap ∈ snapshots)
      before.state := by
    have orders : adversary.ensures (ask .iterateSnapshots)
        (fun entries after => entries.Perm before.state.snapshots.pairs ∧ after = before.state)
        before.state := ensures_ask.mpr fun _ _ step => step
    refine ensures_seq orders fun entries middle ordered => ?_
    obtain ⟨order, rfl⟩ := ordered
    refine ensures_seq (ensures_update_adversary before.state) fun _ after written => ?_
    subst written
    have empty : HoldsOnly snapshots { before.state with snapshots := ∅ } :=
      fun _ _ found => nomatch found
    exact ⟨empty, fun snap member => listed snap ((order.map Prod.snd).mem_iff.mp member)⟩
  exact ensures_mono (plain_quiet quiet drains kept) fun _ _ held => ⟨⟨held.1, held.2.1⟩, held.2.2⟩

theorem markedAll_restoring {before : Watching}
    (listed : ∀ snap ∈ before.state.snapshots.pairs.map Prod.snd, snap ∈ snapshots)
    (kept : Restoring snapshots before) :
    watched.ensures markedAll (fun _ => Restoring snapshots) before := by
  refine ensures_seq (drainSnapshots_restoring listed kept) fun pending drained held => ?_
  exact markedPending_restoring (fun snap member =>
    held.2 snap ((List.mem_insertionSort _).mp member)) held.1

theorem markedAllFinal_restoring {before : Watching}
    (listed : ∀ snap ∈ before.state.snapshots.pairs.map Prod.snd, snap ∈ snapshots)
    (kept : Restoring snapshots before) :
    watched.ensures markedAllFinal (fun _ => Restoring snapshots) before := by
  refine ensures_seq (plain_quiet (ask_quiet rfl) (ensures_readCaches_adversary _) kept)
    fun caches read held => ?_
  obtain ⟨guarded, _, same⟩ := held
  have kept : Restoring snapshots read := ⟨guarded, same ▸ kept.holds⟩
  refine ensures_seq (drainSnapshots_restoring (same ▸ listed) kept) fun pending drained held => ?_
  exact markedPending_restoring (fun snap member =>
    held.2 snap ((List.mem_insertionSort _).mp member)) held.1

theorem setStale_quiet (identity : WindowIdentity) (state : StaleState) :
    (setStale identity state).Only Quiet :=
  (ask_quiet rfl).bind fun _ => ask_quiet rfl

theorem recordFailure_restoring {identity : WindowIdentity} {lastError : String}
    {before : Watching} (kept : Restoring snapshots before) :
    watched.ensures (plain (markedDue.recordFailure identity lastError))
      (fun _ => Restoring snapshots) before := by
  have noting : ∀ (what : Note) caches, HoldsOnly snapshots caches →
      adversary.ensures (ask (.note what)) (fun _ => HoldsOnly snapshots) caches := by
    intro what caches holds
    refine ensures_ask.mpr fun _ after step => ?_
    obtain rfl : after = caches := step
    exact holds
  have quiet : (markedDue.recordFailure identity lastError).Only Quiet := by
    refine (ask_quiet rfl).bind fun caches => ?_
    refine (setStale_quiet identity _).bind fun _ => ?_
    split
    · trivial
    · exact (ask_quiet rfl).bind fun _ => trivial
  refine plain_restoring quiet ?_ kept
  refine ensures_seq (ensures_readCaches_adversary before.state) fun caches middle read => ?_
  obtain ⟨rfl, rfl⟩ := read
  refine ensures_seq (ensures_update_adversary _) fun _ after written => ?_
  have holds : HoldsOnly snapshots after := by
    rw [written]
    exact kept.holds
  split
  · exact holds
  · exact ensures_seq (noting _ after holds) fun _ _ held => held

theorem markedDue_restoring {identity : WindowIdentity} {lastError : String} {before : Watching}
    (kept : Restoring snapshots before) :
    watched.ensures (markedDue identity lastError) (fun _ => Restoring snapshots) before := by
  refine ensures_seq (plain_quiet (ask_quiet rfl) (ensures_readCaches_adversary _) kept)
    fun caches read held => ?_
  obtain ⟨guarded, rfl, same⟩ := held
  have kept : Restoring snapshots read := ⟨guarded, same ▸ kept.holds⟩
  cases found : before.state.snapshots.lookup identity with
  | none => exact ensures_seq (removeStale_restoring kept) fun _ _ kept => kept
  | some snap =>
      have own : snap ∈ snapshots := kept.holds identity snap (same ▸ found)
      refine ensures_seq (mark_restoring kept) fun _ started marked => ?_
      refine ensures_seq (update_restoring (marked.1.holds.erase identity) marked.1)
        fun _ erased kept => ?_
      refine ensures_seq (mark_restoring kept) fun _ acting taken => ?_
      refine ensures_seq (identityMatches_restoring taken.2.2 taken.1) fun same checked held => ?_
      have removing : ∀ result watching, Restoring snapshots watching →
          watched.ensures
            (do
              mark (.ended identity result)
              plain (removeStale identity)
              return lastError) (fun _ => Restoring snapshots) watching := by
        intro result watching kept
        refine ensures_seq (mark_restoring kept) fun _ ended marked => ?_
        exact ensures_seq (removeStale_restoring marked.1) fun _ _ kept => kept
      cases same with
      | false => exact removing .gone checked held.1
      | true =>
          refine ensures_seq (restoreSnapshot_restoring own (held.2 rfl) held.1)
            fun result restored kept => ?_
          obtain ⟨isRestored, error⟩ := result
          cases isRestored with
          | true =>
              refine ensures_seq (mark_restoring kept) fun _ ended marked => ?_
              exact ensures_seq (removeStale_restoring marked.1) fun _ _ kept => kept
          | false =>
              refine ensures_seq (update_restoring (kept.holds.insert identity own) kept)
                fun _ inserted kept => ?_
              refine ensures_seq (mark_restoring kept) fun _ ended marked => ?_
              exact recordFailure_restoring marked.1

theorem markedStaleWindow_restoring {matched : WindowIdentity → Bool} {identity : WindowIdentity}
    {lastError : String} {before : Watching} (kept : Restoring snapshots before) :
    watched.ensures (markedStaleWindow matched identity lastError)
      (fun _ => Restoring snapshots) before := by
  unfold markedStaleWindow
  split
  · refine ensures_seq (mark_restoring kept) fun _ matched marked => ?_
    exact ensures_seq (removeStale_restoring marked.1) fun _ _ kept => kept
  · refine ensures_seq (mark_restoring kept) fun _ missed marked => ?_
    have counts : adversary.ensures (markedStaleWindow.countMiss identity)
        (fun _ => HoldsOnly snapshots) missed.state := by
      refine ensures_seq (ensures_readCaches_adversary missed.state) fun caches middle read => ?_
      obtain ⟨rfl, rfl⟩ := read
      refine ensures_seq (ensures_update_adversary _) fun _ after written => ?_
      rw [written]
      exact marked.1.holds
    have quiet : (markedStaleWindow.countMiss identity).Only Quiet :=
      (ask_quiet rfl).bind fun _ => (setStale_quiet identity _).bind fun _ => trivial
    refine ensures_seq (plain_restoring quiet counts marked.1) fun due counted kept => ?_
    split
    · exact markedDue_restoring kept
    · exact kept

theorem markedStaleWindows_restoring {matched : WindowIdentity → Bool}
    {pending : List WindowIdentity} {lastError : String} {before : Watching}
    (kept : Restoring snapshots before) :
    watched.ensures (markedStaleWindows matched pending lastError)
      (fun _ => Restoring snapshots) before := by
  induction pending generalizing lastError before with
  | nil => exact kept
  | cons identity rest ih =>
      exact ensures_seq (markedStaleWindow_restoring kept) fun lastError after kept => ih kept

theorem markedStaleHidden_restoring {matched : WindowIdentity → Bool} {before : Watching}
    (kept : Restoring snapshots before) :
    watched.ensures (markedStaleHidden matched) (fun _ => Restoring snapshots) before := by
  have orders : adversary.ensures (ask .iterateSnapshots) (fun _ => HoldsOnly snapshots)
      before.state := by
    refine ensures_ask.mpr fun _ after step => ?_
    obtain ⟨_, rfl⟩ := step
    exact kept.holds
  refine ensures_seq (plain_restoring (ask_quiet rfl) orders kept) fun entries ordered kept => ?_
  refine ensures_seq (markedStaleWindows_restoring kept) fun lastError restored kept => ?_
  have reads : adversary.ensures (ask .readCaches) (fun _ => HoldsOnly snapshots)
      restored.state := by
    refine ensures_mono (ensures_readCaches_adversary restored.state) fun _ after read => ?_
    rw [read.2]
    exact kept.holds
  exact ensures_seq (plain_restoring (ask_quiet rfl) reads kept) fun _ _ kept => kept

end Restore

/-- No window is hidden or positioned once a close was requested. -/
def ClosesLast (trace : Trace) : Prop :=
  ∀ earlier event later, trace = earlier ++ event :: later → event.op.closes = true →
    ∀ other ∈ later, other.op.places = false

def BeforeCloses (trace : Trace) : Prop := ∀ event ∈ trace, event.op.closes = false

theorem BeforeCloses.closesLast {trace : Trace} (before : BeforeCloses trace) :
    ClosesLast trace := by
  intro earlier event later split closes
  have member : event ∈ trace := by simp [split]
  rw [before event member] at closes
  contradiction

theorem ClosesLast.snoc {trace : Trace} {event : Event Call Call.Answer}
    (ordered : ClosesLast trace) (places : event.op.places = false) :
    ClosesLast (trace ++ [event]) := by
  intro earlier found later split closes other member
  rcases List.eq_nil_or_concat later with rfl | ⟨later, last, rfl⟩
  · contradiction
  · rw [List.concat_eq_append, ← List.cons_append, ← List.append_assoc] at split
    obtain ⟨same, lastSame⟩ := List.append_inj' split rfl
    rw [List.concat_eq_append, List.mem_append, List.mem_singleton] at member
    cases member with
    | inl within => exact ordered earlier found later same closes other within
    | inr isLast =>
        obtain rfl : event = last := by simpa using lastSame
        rw [isLast]
        exact places

theorem ensures_beforeCloses {α : Type} {program : EngineM α} {before : Recording}
    (only : program.Only fun call => call.closes = false) (held : BeforeCloses before.trace) :
    adversary.recorded.ensures program (fun _ after => BeforeCloses after.trace) before := by
  apply ensures_of_step (fun state : Recording => BeforeCloses state.trace) only _ held
  intro call state answer after opens held stepped event member
  rw [stepped.2] at member
  rcases List.mem_append.mp member with earlier | last
  · exact held event earlier
  · rw [List.mem_singleton.mp last]
    exact opens

theorem ensures_closesLast {α : Type} {program : EngineM α} {before : Recording}
    (only : program.Only fun call => call.places = false) (held : ClosesLast before.trace) :
    adversary.recorded.ensures program (fun _ after => ClosesLast after.trace) before := by
  apply ensures_of_step (fun state : Recording => ClosesLast state.trace) only _ held
  intro call state answer after stays held stepped
  rw [stepped.2]
  exact held.snoc stays

section Order

variable (graph : WindowGraph) (pids : List Pid)

theorem positionWindow_opens (pos : List Int) : (positionWindow graph pids pos).Only Opens := by
  unfold positionWindow
  split
  · trivial
  · apply prechecked_only fun _ reads => opens_of_quiet reads.quiet
    unfold positionChecked
    split
    · exact (resizeWindow_calls graph _ pos true).mono fun _ => PlaceCall.opens
    · split
      · trivial
      · apply ((rememberSnapshot_quiet graph _).mono fun _ => opens_of_quiet).bind
        intro _
        exact (resizeWindow_calls graph _ pos false).mono fun _ => PlaceCall.opens

theorem closeWindows_stays (deadline : Instant) (hwnds : List Hwnd) :
    (closeWindows graph pids deadline hwnds).Only Stays := by
  induction hwnds with
  | nil => trivial
  | cons hwnd rest ih =>
      apply ((precheck_reads graph pids hwnd).mono fun _ reads =>
        stays_of_quiet reads.quiet).bind
      intro checked
      split
      · exact ih
      · apply (Program.only_ask.mpr (stays_of_quiet rfl)).bind
        intro instant
        dsimp only
        split
        · trivial
        · apply ((requestClose_calls hwnd _).mono fun _ => CloseCall.stays).bind
          intro _
          exact ih

theorem applyEvaluation_closesLast {evaluation : Evaluation} {before : Recording}
    (held : BeforeCloses before.trace) :
    adversary.recorded.ensures (applyEvaluation graph evaluation pids)
      (fun _ after => ClosesLast after.trace) before := by
  apply ensures_seq (ensures_beforeCloses
    (flagsAllow_reads.mono fun _ reads => opens_of_quiet reads.quiet) held)
  intro allowed afterFlags held
  split
  · exact held.closesLast
  · apply ensures_seq (ensures_beforeCloses (Program.Only.forEach
      (fun hwnd => (captureWindow_quiet graph pids hwnd).mono fun _ => opens_of_quiet) _)
      held)
    intro _ afterCapture held
    apply ensures_seq (ensures_beforeCloses (Program.Only.forEach
      (fun hwnd => prechecked_only (fun _ reads => opens_of_quiet reads.quiet)
        ((hideVisible_calls hwnd).mono fun _ => PlaceCall.opens)) _) held)
    intro _ afterHide held
    apply ensures_seq (ensures_beforeCloses
      (Program.Only.forEach (positionWindow_opens graph pids) _) held)
    intro _ afterPosition held
    apply ensures_seq (ensures_beforeCloses
      (Program.only_ask.mpr (opens_of_quiet rfl)) held)
    intro started afterClock held
    apply ensures_seq (ensures_closesLast (closeWindows_stays graph pids _ _) held.closesLast)
    intro _ afterClose ordered
    split
    · exact ordered
    · exact ensures_closesLast (retainMatching_quiet.mono fun _ => stays_of_quiet) ordered

end Order

theorem listed_pairs {caches : EngineCaches} :
    HoldsOnly (caches.snapshots.pairs.map Prod.snd) caches := by
  intro identity snap found
  have member := AList.mem_lookup_iff.mp found
  simp only [Snapshots.pairs, List.map_map, List.mem_map]
  exact ⟨_, member, rfl⟩

/-- Every run of a restore, with marks that say for which snapshot its calls are
made, changes a window only after the check of the window of that snapshot. -/
def RestoresGuarded (restore : EngineM (Nat × String)) (marked : MarkedM (Nat × String)) : Prop :=
  erase marked = restore ∧
    ∀ caches result after, adversary.recorded.Runs restore { state := caches } result after →
      ∃ trace, Marked.calls trace = after.trace ∧
        watched.Runs marked { state := caches } result { state := after.state, trace := trace } ∧
        SnapshotGuarded (caches.snapshots.pairs.map Prod.snd) trace

theorem restoresGuarded {restore : EngineM (Nat × String)} {marked : MarkedM (Nat × String)}
    (erases : erase marked = restore)
    (keeps : ∀ caches, watched.ensures marked
      (fun _ => Restoring (caches.snapshots.pairs.map Prod.snd)) { state := caches }) :
    RestoresGuarded restore marked := by
  refine ⟨erases, fun caches result after run => ?_⟩
  rw [← erases] at run
  have nothing : Marked.calls ([] : MarkedTrace) = ({ state := caches } : Recording).trace := rfl
  obtain ⟨trace, same, ran⟩ := runs_recorded_marks run nothing
  have kept := ensures_runs (keeps caches) ran
  exact ⟨trace, same, ran, kept.guarded⟩

/-- In every environment: each call of `apply_evaluation` that changes a window
follows a check of the flags and of the window of its graph node, each call of
a restore that changes a window follows a check of the window of the snapshot
for which it is made, and no other window is changed in between.  No window is
hidden or positioned after a close request of the same evaluation. -/
theorem mutations_guarded :
    (∀ graph evaluation pids caches after,
      adversary.recorded.Runs (applyEvaluation graph evaluation pids)
        { state := caches } () after →
      Guarded Call.mutates TouchesOnly (NodeCheck graph pids) after.trace ∧
        ClosesLast after.trace) ∧
    (∀ matched, RestoresGuarded (restoreStaleHidden matched) (markedStaleHidden matched)) ∧
    RestoresGuarded restoreAll markedAll ∧
    RestoresGuarded restoreAllFinal markedAllFinal := by
  have starts : ∀ caches : EngineCaches, Restoring (caches.snapshots.pairs.map Prod.snd)
      ({ state := caches } : Watching) := fun caches => ⟨guarded_nil, listed_pairs⟩
  refine ⟨?_, fun matched => ?_, ?_, ?_⟩
  · intro graph evaluation pids caches after run
    have guarded : NodeGuarded graph pids ({ state := caches } : Recording).trace := guarded_nil
    have opens : BeforeCloses ({ state := caches } : Recording).trace := by simp [BeforeCloses]
    have both := ensures_and (applyEvaluation_guarded evaluation guarded)
      (applyEvaluation_closesLast graph pids opens)
    have held := ensures_runs both run
    exact held
  · exact restoresGuarded (erase_markedStaleHidden matched) fun caches =>
      markedStaleHidden_restoring (starts caches)
  · exact restoresGuarded erase_markedAll fun caches =>
      markedAll_restoring (fun _ member => member) (starts caches)
  · exact restoresGuarded erase_markedAllFinal fun caches =>
      markedAllFinal_restoring (fun _ member => member) (starts caches)

/-- An environment in which every window is a healthy popup of process 5. -/
def obliging : (call : Call) → EngineCaches → call.Answer × EngineCaches
  | .enumWindows, caches | .enumDescendantWindows _, caches => ([], caches)
  | .getWindowThreadProcessId _, caches => ((5 : Int), caches)
  | .getClassName _, caches => ("AdFitWebView", caches)
  | .getWindowTextResult _, caches => (.known "", caches)
  | .getParent _, caches => ((0 : Int), caches)
  | .getWindowRect _, caches => (some ⟨0, 0, 300, 200⟩, caches)
  | .isWindow _, caches | .isWindowVisible _, caches | .hasVisibleStyle _, caches =>
      (true, caches)
  | .isHungAppWindow _, caches => (false, caches)
  | .showWindow _ _, caches | .setWindowPos _ _ _ _ _ _, caches => (true, caches)
  | .sendMessageTimeout _ _ _ _ _, caches => ((true, 1), caches)
  | .load flag, caches => (decide (flag ≠ .stopping), caches)
  | .now, caches => ((0 : Nat), caches)
  | .note _, caches => ((), caches)
  | .readCaches, caches => (caches, caches)
  | .writeCaches written, _ => ((), written)
  | .iterateSnapshots, caches => (caches.snapshots.pairs, caches)

theorem obliging_realizes (call : Call) (caches : EngineCaches) :
    adversary.step call caches (obliging call caches).1 (obliging call caches).2 := by
  cases call with
  | readCaches => exact ⟨rfl, rfl⟩
  | iterateSnapshots => exact ⟨List.Perm.refl _, rfl⟩
  | _ => rfl

/-- An advertisement on the top level, of a class the rules name. -/
def popupNode : WindowNode where
  hwnd := 1
  pid := 5
  className := "AdFitWebView"
  title := .known ""
  structuralParent := none
  owner := none
  rect := some ⟨0, 0, 300, 200⟩
  visible := true

def popupGraph : WindowGraph := (WindowGraph.empty [5]).insertNode popupNode

def popupDismissal : Evaluation where
  actions := { hide := [1], close := [1], setPos := [[1, 0, 0, 0, 0]] }

/-- The snapshots of the popup and of a window of process 6 that had its handle
before. -/
def reusedHandle : EngineCaches :=
  let snap : RestoreSnapshot :=
    { identity := popupNode.identity, wasVisible := true, rect := popupNode.rect, topLevel := true }
  let older : RestoreSnapshot := { snap with identity := { popupNode.identity with pid := 6 } }
  { snapshots := ((∅ : Snapshots).insert snap.identity snap).insert older.identity older }

/-- The three calls that dismiss a popup, each after its own check, and the two
calls that restore it for the one snapshot that is the popup's. -/
theorem popupGraph_mutations_guarded :
    (∃ after, adversary.recorded.Runs (applyEvaluation popupGraph popupDismissal [5])
        { state := {} } () after ∧
      after.trace.filterMap (fun event => event.op.mutates) = [1, 1, 1] ∧
      Guarded Call.mutates TouchesOnly (NodeCheck popupGraph [5]) after.trace ∧
      ClosesLast after.trace) ∧
    ∃ trace, (Marked.calls trace).filterMap (fun event => event.op.mutates) = [1, 1] ∧
      SnapshotGuarded (reusedHandle.snapshots.pairs.map Prod.snd) trace := by
  constructor
  · have run := runs_exec (recordingHandler_realizes obliging_realizes)
      (applyEvaluation popupGraph popupDismissal [5]) { state := {} }
    exact ⟨_, run, by decide, mutations_guarded.1 _ _ _ _ _ run⟩
  · have run := runs_exec (recordingHandler_realizes obliging_realizes) restoreAll
      { state := reusedHandle }
    obtain ⟨_, restores⟩ := mutations_guarded.2.2.1
    obtain ⟨trace, calls, _, guarded⟩ := restores _ _ _ run
    refine ⟨trace, ?_, guarded⟩
    rw [calls]
    decide

end LayoutAdblock.Engine
