import LayoutAdblock.Data.Tally
import LayoutAdblock.Engine.SharedDesktop
import LayoutAdblock.Engine.MarkedTick

namespace LayoutAdblock.Engine

open LayoutAdblock.Core Interaction Environment
open Marked (plain mark)

/-! # The gauge of restore failures

What `restore_failures` and `last_error` show after any run, whatever Win32
answers.  Only the caches and the published flags have a state here.
-/

/-- The part of `SharedFlags` that shows restore failures: the gauge, the error text, and
whether that text is about a restore. -/
structure RestoreFlags where
  restoreFailures : Nat := 0
  lastError : String := ""
  restoreErrorActive : Bool := false

namespace RestoreFlags

/-- An error of another kind takes the place of whatever was shown. -/
def setLastError (flags : RestoreFlags) (message : String) : RestoreFlags :=
  { flags with lastError := message, restoreErrorActive := false }

/-- An error of a restore is marked as one, so that it can be cleared when the restores
succeed again. -/
def setRestoreError (flags : RestoreFlags) (message : String) : RestoreFlags :=
  { flags.setLastError message with restoreErrorActive := true }

/-- An error of a restore is cleared, one of another kind is left. -/
def clearRestoreError (flags : RestoreFlags) : RestoreFlags :=
  if flags.restoreErrorActive then { flags with lastError := "", restoreErrorActive := false }
  else flags

/-- The figure is stored, and the text follows it: no failure clears the error of a restore,
and a failure without a text leaves what is shown. -/
def reportRestoreFailures (flags : RestoreFlags) (failures : Nat) (error : String) :
    RestoreFlags :=
  let stored := { flags with restoreFailures := failures }
  if failures = 0 then stored.clearRestoreError
  else if error ≠ "" then stored.setRestoreError error
  else stored

/-- An error is only cleared by whom it is from. -/
def clearErrorIf (flags : RestoreFlags) (expected : String) : RestoreFlags :=
  if flags.lastError = expected then { flags with lastError := "" } else flags

end RestoreFlags

/-- `clear_transient`. -/
def EngineCaches.clearTransient (caches : EngineCaches) : EngineCaches :=
  { caches with states := StateMap.empty, stale := ∅, lastCleanup := none }

/-- The books have a failed attempt to restore this window. -/
def EngineCaches.recorded (caches : EngineCaches) (identity : WindowIdentity) : Bool :=
  (caches.stale.lookup identity).any fun state => decide (0 < state.attempts)

/-- The caches and the flags, with a record of how the attempts ended. -/
structure Ledger where
  caches : EngineCaches := {}
  flags : RestoreFlags := {}
  /-- What the rest of the engine last put into `last_error`. -/
  others : String := ""
  /-- The most recent attempt to restore the window failed. -/
  lastFailed : WindowIdentity → Bool := fun _ => false
  /-- A tick tried and failed, and nothing has settled the matter since. -/
  tickFailed : WindowIdentity → Bool := fun _ => false
  /-- The window counts as one that cannot be restored. -/
  counted : WindowIdentity → Bool := fun _ => false

namespace Ledger

/-- The snapshots of the engine, as the books have them. -/
abbrev snapshots (ledger : Ledger) : Snapshots := ledger.caches.snapshots

/-- The windows in the snapshot map that count, because the last attempt to restore them has
failed. -/
def stuck (ledger : Ledger) : Nat := ledger.snapshots.keys.countP ledger.counted

/-- What a call does to the figure the tray shows, which only a report changes. -/
def noted (ledger : Ledger) : Call → RestoreFlags
  | .note (.restoreFailures failures error) => ledger.flags.reportRestoreFailures failures error
  | _ => ledger.flags

def settle (ledger : Ledger) (identity : WindowIdentity) (failed : Bool) : Ledger :=
  { ledger with
    lastFailed := Function.update ledger.lastFailed identity failed
    tickFailed := Function.update ledger.tickFailed identity failed
    counted := Function.update ledger.counted identity failed }

/-- A match settles a failure.  A tick that misses a window counts only the
failures of ticks, a retry while the engine is off only adds to them. -/
def see : Mark → Ledger → Ledger
  | .matched identity, ledger =>
      { ledger with
        tickFailed := Function.update ledger.tickFailed identity false
        counted := Function.update ledger.counted identity false }
  | .missed identity, ledger =>
      { ledger with
        counted := Function.update ledger.counted identity (ledger.tickFailed identity) }
  | .ended identity result, ledger => ledger.settle identity (decide (result = .failed))
  | .drained identity .failed, ledger =>
      { ledger with
        lastFailed := Function.update ledger.lastFailed identity true
        counted := Function.update ledger.counted identity true }
  | .drained identity _, ledger => ledger.settle identity false
  | _, ledger => ledger

end Ledger

open Ledger

/-- Win32, the flags and the clock may answer anything. Only the caches and the figure are
kept as the engine writes them. -/
def bookkeeping : Environment Call Call.Answer Ledger where
  step call before answer after :=
    ∃ caches, CachesStep before.caches caches call answer ∧
      after = { before with caches := caches, flags := before.noted call }

/-- The retain after a close drops no window that counts. -/
def dropsUncounted : MarkedOp Call Mark → Ledger → Bool
  | .mark (.dropped identity), ledger => !ledger.counted identity
  | _, _ => true

/-- The system under which the books are kept. A snapshot is dropped after a close only
where no failure is counted for its window. -/
abbrev books : Environment (MarkedOp Call Mark) (MarkedAnswer Call.Answer) Ledger :=
  (bookkeeping.marked Ledger.see).restrict fun op ledger => dropsUncounted op ledger = true

/-- What the records say of a window is what the caches say: a counted window is stored and
its last attempt failed, and a failure of a tick is counted and has its stale state. -/
structure Consistent (ledger : Ledger) (identity : WindowIdentity) : Prop where
  keyed : ∀ snap, ledger.snapshots.lookup identity = some snap → snap.identity = identity
  held : ledger.counted identity = true → identity ∈ ledger.snapshots
  recorded : ledger.tickFailed identity = ledger.caches.recorded identity
  tick : ledger.tickFailed identity = true → ledger.counted identity = true
  failed : ledger.counted identity = true → ledger.lastFailed identity = true

/-- `last_error` shows a restore failure only beside a gauge above zero. -/
structure Shows (flags : RestoreFlags) (others : String) : Prop where
  quiet : flags.restoreFailures = 0 → flags.restoreErrorActive = false
  shown : flags.restoreErrorActive = false → flags.lastError = "" ∨ flags.lastError = others

/-- The books are in order: each window's failures are counted once, and the figure shown is
the number of windows with some. -/
structure Booked (ledger : Ledger) : Prop where
  consistent : ∀ identity, Consistent ledger identity
  shows : Shows ledger.flags ledger.others

/-- The gauge is the number of counted windows. Counters that saturate are compared as far
as they reach. -/
structure Balanced (ledger : Ledger) : Prop where
  booked : Booked ledger
  gauge : min ledger.flags.restoreFailures u32Max = min ledger.stuck u32Max

/-- Nothing about another window has changed. -/
structure Apart (identity : WindowIdentity) (before after : Ledger) : Prop where
  snapshots : ∀ other, other ≠ identity →
    after.snapshots.lookup other = before.snapshots.lookup other
  recorded : ∀ other, other ≠ identity →
    after.caches.recorded other = before.caches.recorded other
  lastFailed : ∀ other, other ≠ identity → after.lastFailed other = before.lastFailed other
  tickFailed : ∀ other, other ≠ identity → after.tickFailed other = before.tickFailed other
  counted : ∀ other, other ≠ identity → after.counted other = before.counted other
  flags : after.flags = before.flags
  others : after.others = before.others

variable {α : Type} {before after ledger : Ledger} {identity : WindowIdentity}

theorem Consistent.of_same (consistent : Consistent before identity)
    (snapshots : after.snapshots.lookup identity = before.snapshots.lookup identity)
    (recorded : after.caches.recorded identity = before.caches.recorded identity)
    (lastFailed : after.lastFailed identity = before.lastFailed identity)
    (tickFailed : after.tickFailed identity = before.tickFailed identity)
    (counted : after.counted identity = before.counted identity) : Consistent after identity where
  keyed := snapshots ▸ consistent.keyed
  held := by
    rw [counted, ← AList.lookup_isSome, snapshots, AList.lookup_isSome]
    exact consistent.held
  recorded := by rw [tickFailed, recorded, consistent.recorded]
  tick := by rw [tickFailed, counted]; exact consistent.tick
  failed := by rw [counted, lastFailed]; exact consistent.failed

theorem Booked.of_apart (booked : Booked before) (apart : Apart identity before after)
    (own : Consistent after identity) : Booked after where
  consistent other := by
    by_cases same : other = identity
    · subst same
      exact own
    · exact (booked.consistent other).of_same (apart.snapshots other same)
        (apart.recorded other same) (apart.lastFailed other same) (apart.tickFailed other same)
        (apart.counted other same)
  shows := by
    rw [apart.flags, apart.others]
    exact booked.shows

/-- The gauge needs no change when the same windows count. -/
theorem Booked.stuck_eq (first : Booked before) (second : Booked after)
    (same : after.counted = before.counted) : after.stuck = before.stuck := by
  apply Data.countP_eq_of_mem_iff after.snapshots.keys_nodup before.snapshots.keys_nodup
  intro identity
  have left := (second.consistent identity).held
  have right := (first.consistent identity).held
  rw [same] at left ⊢
  rw [← AList.mem_keys, ← AList.mem_keys]
  exact ⟨fun member => ⟨right member.2, member.2⟩, fun member => ⟨left member.2, member.2⟩⟩

theorem restoreFailureCount_eq (caches : EngineCaches) :
    caches.restoreFailureCount = min (caches.stale.keys.countP caches.recorded) u32Max := by
  rw [EngineCaches.restoreFailureCount,
    Data.countP_entries caches.stale fun _ state => decide (0 < state.attempts)]
  rfl

/-- Once every window of the map has been looked at, the books count it. -/
theorem Booked.stuck_recorded (booked : Booked ledger)
    (seen : ∀ identity, identity ∈ ledger.snapshots →
      ledger.counted identity = ledger.tickFailed identity) :
    ledger.caches.restoreFailureCount = min ledger.stuck u32Max := by
  rw [restoreFailureCount_eq]
  congr 1
  apply Data.countP_eq_of_mem_iff ledger.caches.stale.keys_nodup ledger.snapshots.keys_nodup
  intro identity
  have consistent := booked.consistent identity
  rw [← AList.mem_keys, ← AList.mem_keys]
  constructor
  · intro found
    have counted := consistent.tick (consistent.recorded.trans found.2)
    exact ⟨consistent.held counted, counted⟩
  · intro found
    have failed := consistent.recorded.symm.trans ((seen identity found.1).symm.trans found.2)
    refine ⟨?_, failed⟩
    obtain ⟨state, listed, _⟩ := (Option.any_eq_true _ _).mp failed
    exact AList.lookup_isSome.mp (by rw [listed]; rfl)

theorem Shows.report {flags : RestoreFlags} {others : String} (shows : Shows flags others)
    (failures : Nat) (error : String) :
    Shows (flags.reportRestoreFailures failures error) others := by
  unfold RestoreFlags.reportRestoreFailures RestoreFlags.clearRestoreError
  by_cases none : failures = 0
  · subst none
    cases active : flags.restoreErrorActive with
    | true => exact ⟨fun _ => by simp, fun _ => by simp⟩
    | false =>
        simp only [if_true, Bool.false_eq_true, if_false]
        exact ⟨fun _ => rfl, fun _ => shows.shown active⟩
  · by_cases empty : error = ""
    · subst empty
      simp only [none, if_false, ne_eq, not_true_eq_false]
      exact ⟨fun zero => absurd zero none, shows.shown⟩
    · simp only [none, if_false, ne_eq, empty, not_false_eq_true, if_true,
        RestoreFlags.setRestoreError]
      exact ⟨fun zero => absurd zero none, fun idle => by cases idle⟩

@[simp] theorem report_gauge (flags : RestoreFlags) (failures : Nat) (error : String) :
    (flags.reportRestoreFailures failures error).restoreFailures = failures := by
  unfold RestoreFlags.reportRestoreFailures RestoreFlags.clearRestoreError
  dsimp only
  split
  · split
    · rfl
    · rfl
  · split
    · rfl
    · rfl

/-- A report of the right number balances the books. -/
theorem Booked.report (booked : Booked ledger) {failures : Nat} (error : String)
    (right : min failures u32Max = min ledger.stuck u32Max) :
    Balanced { ledger with flags := ledger.flags.reportRestoreFailures failures error } where
  booked :=
    { consistent := fun identity =>
        (booked.consistent identity).of_same rfl rfl rfl rfl rfl
      shows := booked.shows.report failures error }
  gauge := by rw [report_gauge]; exact right

/-- The call changes neither the caches nor the figure. -/
structure Still (call : Call) : Prop where
  off : OffCaches call
  unreported : ∀ failures error, call ≠ .note (.restoreFailures failures error)

theorem Still.noted {call : Call} (still : Still call) : ledger.noted call = ledger.flags := by
  unfold Ledger.noted
  split
  · exact absurd rfl (still.unreported _ _)
  · rfl

theorem Still.unchanged {call : Call} {answer : call.Answer} (still : Still call)
    (step : bookkeeping.step call before answer after) : after = before := by
  obtain ⟨caches, taken, rfl⟩ := step
  rw [taken.unchanged still.off, still.noted]

theorem Reads.still {call : Call} (reads : Reads call) : Still call where
  off := reads.offCaches
  unreported := by
    intro failures error same
    subst same
    contradiction

theorem RestoreCall.still {hwnd : Hwnd} {call : Call} (restores : RestoreCall hwnd call) :
    Still call where
  off := restores.offCaches
  unreported := by
    intro failures error same
    subst same
    cases restores

theorem still_ask {call : Call} (still : Still call) : (ask call).Only Still :=
  Program.only_ask.mpr still

theorem ensures_still {program : EngineM α} (only : program.Only Still) :
    bookkeeping.ensures program (fun _ after => after = ledger) ledger :=
  ensures_of_step (fun after => after = ledger) only
    (fun _ _ _ _ still same step => (still.unchanged step).trans same) rfl

theorem ensures_kept {program : EngineM α} {post : Ledger → Prop} (only : program.Only Still)
    (held : post ledger) : bookkeeping.ensures program (fun _ => post) ledger :=
  ensures_mono (ensures_still only) fun _ _ same => same ▸ held

theorem hideVisible_still (hwnd : Hwnd) : (hideVisible hwnd).Only Still := by
  apply (still_ask (Reads.still rfl)).bind
  intro visible
  split
  · trivial
  · apply (still_ask ⟨by simp [OffCaches], by simp⟩).bind
    intro hidden
    split
    · exact still_ask ⟨by simp [OffCaches], by simp⟩
    · trivial

theorem resizeWindow_still (graph : WindowGraph) (hwnd : Hwnd) (pos : List Int)
    (isViewResize : Bool) : (resizeWindow graph hwnd pos isViewResize).Only Still := by
  apply (still_ask ⟨by simp [OffCaches], by simp⟩).bind
  intro applied
  split
  · exact still_ask ⟨by simp [OffCaches], by simp⟩
  · trivial

theorem closeWindows_still (graph : WindowGraph) (pids : List Pid) (deadline : Instant)
    (hwnds : List Hwnd) : (closeWindows graph pids deadline hwnds).Only Still := by
  induction hwnds with
  | nil => trivial
  | cons hwnd rest ih =>
      apply ((precheck_reads graph pids hwnd).mono fun _ => Reads.still).bind
      intro checked
      split
      · exact ih
      · apply (still_ask ⟨by simp [OffCaches], by simp⟩).bind
        intro instant
        dsimp only
        split
        · trivial
        · refine Program.Only.bind ?_ fun _ => ih
          apply (still_ask ⟨by simp [OffCaches], by simp⟩).bind
          intro delivered
          apply (still_ask (Reads.still rfl)).bind
          intro alive
          split
          · exact still_ask ⟨by simp [OffCaches], by simp⟩
          · trivial

theorem ensures_read :
    bookkeeping.ensures (ask .readCaches)
      (fun caches after => caches = ledger.caches ∧ after = ledger) ledger := by
  rw [ask, ensures_ask]
  intro caches after step
  have same : after = ledger := (Reads.still rfl).unchanged step
  obtain ⟨_, taken, _⟩ := step
  exact ⟨taken.1, same⟩

theorem ensures_write {caches : EngineCaches} :
    bookkeeping.ensures (ask (.writeCaches caches))
      (fun _ after => after = { ledger with caches := caches }) ledger := by
  rw [ask, ensures_ask]
  intro _ after step
  obtain ⟨written, taken, rfl⟩ := step
  have same : written = caches := taken
  rw [same]
  rfl

theorem ensures_update {change : EngineCaches → EngineCaches} :
    bookkeeping.ensures
      (do
        let caches ← ask .readCaches
        ask (.writeCaches (change caches)))
      (fun _ after => after = { ledger with caches := change ledger.caches }) ledger :=
  ensures_seq ensures_read fun _ _ read => by
    obtain ⟨rfl, rfl⟩ := read
    exact ensures_write

/-- A change of the caches that no window that counts can notice. -/
theorem Balanced.write {caches : EngineCaches} (balanced : Balanced ledger)
    (snapshots : caches.snapshots = ledger.snapshots)
    (recorded : ∀ identity, caches.recorded identity = ledger.caches.recorded identity) :
    Balanced { ledger with caches := caches } := by
  have booked : Booked { ledger with caches := caches } :=
    { consistent := fun identity =>
        (balanced.booked.consistent identity).of_same (by rw [Ledger.snapshots, snapshots])
          (recorded identity) rfl rfl rfl
      shows := balanced.booked.shows }
  refine ⟨booked, ?_⟩
  rw [balanced.booked.stuck_eq booked rfl]
  exact balanced.gauge

theorem recorded_retainStale (caches : EngineCaches) (kept : WindowIdentity → Bool)
    (identity : WindowIdentity) :
    (caches.retainStale kept).recorded identity =
      (kept identity && caches.recorded identity) := by
  rw [EngineCaches.recorded, EngineCaches.retainStale, Data.lookup_filter_keys]
  cases kept identity with
  | true => rfl
  | false => rfl

theorem Booked.held_of_recorded (booked : Booked ledger)
    (recorded : ledger.caches.recorded identity = true) : identity ∈ ledger.snapshots := by
  have consistent := booked.consistent identity
  exact consistent.held (consistent.tick (consistent.recorded.trans recorded))

/-- The prune keeps the books of every window with a snapshot. -/
theorem Balanced.prune (balanced : Balanced ledger) (graph : WindowGraph) :
    Balanced { ledger with caches := ledger.caches.prune graph } := by
  apply balanced.write
  · rfl
  · intro identity
    have filtered := recorded_retainStale ledger.caches (fun identity =>
      (graph.nodes.any fun node => decide (node.identity = identity)) ||
        decide (identity ∈ ledger.caches.snapshots)) identity
    refine Eq.trans filtered ?_
    cases recorded : ledger.caches.recorded identity with
    | false => simp
    | true => simp [balanced.booked.held_of_recorded recorded]

theorem cleanUp_balanced {interval : Nat} {graph : WindowGraph} (balanced : Balanced ledger) :
    bookkeeping.ensures (cleanUp interval graph) (fun _ => Balanced) ledger := by
  have restart : ∀ before, Balanced before →
      bookkeeping.ensures (cleanupDue.restart before.caches) (fun _ => Balanced) before := by
    intro before held
    refine ensures_seq (ensures_still (still_ask ⟨by simp [OffCaches], by simp⟩))
      fun instant _ same => ?_
    subst same
    refine ensures_seq ensures_write fun _ after written => ?_
    subst written
    exact held.write rfl fun _ => rfl
  have checking : bookkeeping.ensures (cleanupDue interval) (fun _ => Balanced) ledger := by
    refine ensures_seq ensures_read fun caches middle read => ?_
    obtain ⟨rfl, rfl⟩ := read
    cases last : middle.caches.lastCleanup with
    | none => exact restart middle balanced
    | some instant =>
        refine ensures_seq (ensures_still (still_ask ⟨by simp [OffCaches], by simp⟩))
          fun _ _ same => ?_
        subst same
        split
        · exact balanced
        · exact restart _ balanced
  refine ensures_seq checking fun due after held => ?_
  cases due with
  | false => exact held
  | true =>
      refine ensures_mono ensures_update fun _ _ written => ?_
      subst written
      exact held.prune graph

theorem evaluateTick_balanced [Unicode] {graph : WindowGraph} {core : LayoutSettings}
    {rules : LayoutRules} {applyMode : Bool} (balanced : Balanced ledger) :
    bookkeeping.ensures (evaluateTick graph core rules applyMode) (fun _ => Balanced) ledger := by
  refine ensures_seq ensures_read fun caches middle read => ?_
  obtain ⟨rfl, rfl⟩ := read
  refine ensures_seq ensures_write fun _ after written => ?_
  subst written
  exact balanced.write rfl fun _ => rfl

theorem observeTick_balanced [Unicode] {pids : List Pid} {settings : AppSettings}
    {rules : LayoutRules} (balanced : Balanced ledger) :
    bookkeeping.ensures (observeTick pids settings rules) (fun _ => Balanced) ledger := by
  have asking : ∀ (call : Call) before, Still call → Balanced before →
      bookkeeping.ensures (ask call) (fun _ => Balanced) before :=
    fun call before still held => ensures_kept (still_ask still) held
  refine ensures_seq (asking _ _ (Reads.still rfl) balanced) fun enabled state held => ?_
  refine ensures_seq (asking _ _ (Reads.still rfl) held) fun aggressive state held => ?_
  refine ensures_seq (asking _ _ (Reads.still rfl) held) fun caches state held => ?_
  split
  · exact held
  · refine ensures_seq (ensures_kept ((buildGraph_reads pids).mono fun _ => Reads.still) held)
      fun graph state held => ?_
    refine ensures_seq (asking _ _ (Reads.still rfl) held) fun apply state held => ?_
    refine ensures_seq (evaluateTick_balanced held) fun evaluation state held => ?_
    refine ensures_seq (asking _ _ ⟨by simp [OffCaches], by simp⟩ held) fun _ state held => ?_
    exact ensures_seq (cleanUp_balanced held) fun _ _ held => held

/-- A window that does not count gets or loses its snapshot. -/
theorem Balanced.replace {snapshots : Snapshots} (balanced : Balanced ledger)
    (uncounted : ledger.counted identity = false)
    (elsewhere : ∀ other, other ≠ identity →
      snapshots.lookup other = ledger.snapshots.lookup other)
    (keyed : ∀ snap, snapshots.lookup identity = some snap → snap.identity = identity) :
    Balanced { ledger with caches := { ledger.caches with snapshots := snapshots } } := by
  have apart : Apart identity ledger
      { ledger with caches := { ledger.caches with snapshots := snapshots } } :=
    { snapshots := elsewhere
      recorded := fun _ _ => rfl
      lastFailed := fun _ _ => rfl
      tickFailed := fun _ _ => rfl
      counted := fun _ _ => rfl
      flags := rfl
      others := rfl }
  have own := balanced.booked.consistent identity
  have booked := balanced.booked.of_apart apart
    { keyed := keyed
      held := fun counted => absurd (counted.symm.trans uncounted) (by simp)
      recorded := own.recorded
      tick := own.tick
      failed := own.failed }
  refine ⟨booked, ?_⟩
  rw [balanced.booked.stuck_eq booked rfl]
  exact balanced.gauge

/-- The first snapshot of a window. -/
theorem Balanced.remember {snap : RestoreSnapshot} (balanced : Balanced ledger)
    (absent : snap.identity ∉ ledger.snapshots) :
    Balanced { ledger with
      caches := { ledger.caches with
        snapshots := ledger.snapshots.insert snap.identity snap } } := by
  have own := balanced.booked.consistent snap.identity
  apply balanced.replace (Bool.eq_false_iff.mpr fun counted => absent (own.held counted))
  · intro other differs
    exact AList.lookup_insert_ne differs
  · intro found looked
    rw [AList.lookup_insert] at looked
    rw [← Option.some.inj looked]

theorem Balanced.drop (balanced : Balanced ledger) (uncounted : ledger.counted identity = false) :
    Balanced { ledger with
      caches := { ledger.caches with snapshots := ledger.snapshots.erase identity } } := by
  apply balanced.replace uncounted
  · intro other differs
    exact AList.lookup_erase_ne differs
  · intro snap looked
    rw [AList.lookup_erase] at looked
    cases looked

theorem captureSnapshot_identity {σ : Type} {env : Environment Call Call.Answer σ}
    {graph : WindowGraph} {hwnd : Hwnd} {node : WindowNode} (found : graph.get hwnd = some node)
    (before : σ) :
    env.ensures (captureSnapshot graph hwnd)
      (fun captured _ => ∀ snap, captured = some snap → snap.identity = node.identity)
      before := by
  simp only [captureSnapshot, found, ask, ensures_bind, ensures_ask]
  intro wasVisible _ _ rect _ _ snap captured
  rw [← Option.some.inj captured]

theorem rememberSnapshot_balanced {graph : WindowGraph} {hwnd : Hwnd}
    (balanced : Balanced ledger) :
    bookkeeping.ensures (rememberSnapshot graph hwnd) (fun _ => Balanced) ledger := by
  unfold rememberSnapshot
  cases found : graph.get hwnd with
  | none => exact balanced
  | some node =>
      refine ensures_seq ensures_read fun caches middle read => ?_
      obtain ⟨rfl, rfl⟩ := read
      split
      · exact balanced
      · rename_i absent
        have keeps : bookkeeping.ensures (captureSnapshot graph hwnd)
            (fun _ after => after = middle) middle :=
          ensures_still ((captureSnapshot_reads graph hwnd).mono fun _ => Reads.still)
        have capturing := wp_and keeps (captureSnapshot_identity found middle)
        refine ensures_seq capturing fun captured later facts => ?_
        obtain ⟨rfl, identity⟩ := facts
        cases captured with
        | none => exact balanced
        | some snap =>
            refine ensures_mono ensures_update fun _ _ written => ?_
            subst written
            exact balanced.remember (by rw [identity snap rfl]; exact absent)

theorem prechecked_balanced {graph : WindowGraph} {pids : List Pid} {hwnd : Hwnd}
    {body : EngineM Unit}
    (each : ∀ before, Balanced before →
      bookkeeping.ensures body (fun _ => Balanced) before)
    (balanced : Balanced ledger) :
    bookkeeping.ensures (prechecked graph pids hwnd body) (fun _ => Balanced) ledger := by
  refine ensures_seq (ensures_kept ((precheck_reads graph pids hwnd).mono fun _ => Reads.still)
    balanced) fun checked after held => ?_
  cases checked with
  | true => exact each after held
  | false => exact held

theorem positionWindow_balanced {graph : WindowGraph} {pids : List Pid} {pos : List Int}
    (balanced : Balanced ledger) :
    bookkeeping.ensures (positionWindow graph pids pos) (fun _ => Balanced) ledger := by
  unfold positionWindow
  split
  · exact balanced
  · refine prechecked_balanced (fun before held => ?_) balanced
    unfold positionChecked
    split
    · exact ensures_kept (resizeWindow_still ..) held
    · split
      · exact held
      · exact ensures_seq (rememberSnapshot_balanced held) fun _ _ held =>
          ensures_kept (resizeWindow_still ..) held

theorem applyPasses_balanced {graph : WindowGraph} {evaluation : Evaluation} {pids : List Pid}
    (balanced : Balanced ledger) :
    bookkeeping.ensures (applyPasses graph evaluation pids) (fun _ => Balanced) ledger := by
  refine ensures_seq (ensures_loop (fun hwnd _ before held => prechecked_balanced
    (fun _ held => ensures_kept (hideVisible_still hwnd) held) held) balanced)
    fun _ state held => ?_
  refine ensures_seq (ensures_loop (fun pos _ before held => positionWindow_balanced held) held)
    fun _ state held => ?_
  refine ensures_seq (ensures_kept (still_ask ⟨by simp [OffCaches], by simp⟩) held)
    fun started state held => ?_
  exact ensures_kept (closeWindows_still graph pids _ _) held

theorem books_plain {program : EngineM α} {post : α → Ledger → Prop}
    (holds : bookkeeping.ensures program post ledger) :
    books.ensures (plain program) post ledger :=
  wp_restrict (wp_plain holds)

theorem books_mark {what : Mark} {post : Unit → Ledger → Prop}
    (holds : dropsUncounted (.mark what) ledger = true → post () (Ledger.see what ledger)) :
    books.ensures (mark what) post ledger := by
  refine ⟨fun _ torn => torn.2.elim, ?_⟩
  intro _ after step
  obtain ⟨allowed, marked⟩ := step
  obtain rfl : after = Ledger.see what ledger := marked
  exact ⟨trivial, holds allowed⟩

theorem markedCapture_balanced {graph : WindowGraph} {pids : List Pid} {hwnd : Hwnd}
    (balanced : Balanced ledger) :
    books.ensures (markedCapture graph pids hwnd) (fun _ => Balanced) ledger := by
  have captures : ∀ before, Balanced before →
      books.ensures (plain (captureWindow graph pids hwnd)) (fun _ => Balanced) before :=
    fun before held => books_plain (prechecked_balanced
      (fun _ held => rememberSnapshot_balanced held) held)
  unfold markedCapture
  split
  · exact captures ledger balanced
  · rename_i identity _
    have marking : books.ensures (mark (.looking identity)) (fun _ => Balanced) ledger :=
      books_mark fun _ => balanced
    refine ensures_seq marking fun _ looking held => ?_
    refine ensures_seq (captures looking held) fun _ captured held => ?_
    exact books_mark fun _ => held

theorem ensures_iterate :
    bookkeeping.ensures (ask .iterateSnapshots)
      (fun entries after => entries.Perm ledger.snapshots.pairs ∧ after = ledger) ledger := by
  rw [ask, ensures_ask]
  intro entries after step
  have same : after = ledger := Still.unchanged ⟨by simp [OffCaches], by simp⟩ step
  obtain ⟨_, taken, _⟩ := step
  exact ⟨taken.1, same⟩

theorem markedRetain_balanced (balanced : Balanced ledger) :
    books.ensures markedRetain (fun _ => Balanced) ledger := by
  refine ensures_seq (books_plain ensures_iterate) fun entries middle listed => ?_
  obtain ⟨_, rfl⟩ := listed
  refine ensures_loop (fun entry _ before held => ?_) balanced
  refine ensures_seq (books_plain (ensures_still ((identityMatches_reads entry.1).mono fun _ =>
    Reads.still))) fun same after kept => ?_
  subst kept
  cases same with
  | true => exact held
  | false =>
      have marking : books.ensures (mark (.dropped entry.1))
          (fun _ marked => marked = after ∧ after.counted entry.1 = false) after :=
        books_mark fun uncounted => ⟨rfl, (Bool.not_eq_true' _).mp uncounted⟩
      refine ensures_seq marking fun _ marked facts => ?_
      obtain ⟨rfl, uncounted⟩ := facts
      refine books_plain (ensures_mono ensures_update fun _ _ written => ?_)
      subst written
      exact held.drop uncounted

theorem markedApply_balanced {graph : WindowGraph} {evaluation : Evaluation} {pids : List Pid}
    (balanced : Balanced ledger) :
    books.ensures (markedApply graph evaluation pids) (fun _ => Balanced) ledger := by
  refine ensures_seq (books_plain (ensures_kept (flagsAllow_reads.mono fun _ => Reads.still)
    balanced)) fun allowed state held => ?_
  cases allowed with
  | false => exact held
  | true =>
      refine ensures_seq (ensures_loop (fun hwnd _ _ held => markedCapture_balanced held) held)
        fun _ state held => ?_
      refine ensures_seq (books_plain (applyPasses_balanced held)) fun _ state held => ?_
      split
      · exact held
      · exact markedRetain_balanced held

end LayoutAdblock.Engine
