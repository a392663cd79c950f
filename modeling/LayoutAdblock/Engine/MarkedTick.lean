import LayoutAdblock.Engine.Tick
import LayoutAdblock.Interaction.Marked

namespace LayoutAdblock.Engine

open LayoutAdblock.Core Interaction
open Marked (plain mark erase)

/-! # The engine with marks

The same programs, which also say when the capture pass looks at a window, when
a window is matched or missed, for which snapshot a restore acts, when it is
under way and how it ended.
-/

/-- How an attempt to restore a window ends: the window is gone, it is restored, or a call
failed and its snapshot is put back. -/
inductive Attempted where
  | gone | restored | failed
deriving DecidableEq, Repr

/-- A place in the engine's programs that no call shows: where a snapshot is taken up,
dropped, or done with. Marks are read by the proofs alone. -/
inductive Mark where
  /-- The capture pass starts and ends its look at a window. -/
  | looking (identity : WindowIdentity)
  | looked (identity : WindowIdentity)
  /-- A snapshot is dropped because a close may have destroyed its window. -/
  | dropped (identity : WindowIdentity)
  | matched (identity : WindowIdentity)
  | missed (identity : WindowIdentity)
  /-- A restore takes up a snapshot, and acts for it until it takes up the next. -/
  | acting (snap : RestoreSnapshot)
  /-- A tick holds the snapshot of a window that it tries to restore. -/
  | started (identity : WindowIdentity)
  | ended (identity : WindowIdentity) (result : Attempted)
  /-- An attempt while the layout engine is off. -/
  | drained (identity : WindowIdentity) (result : Attempted)
deriving DecidableEq, Repr

abbrev MarkedM := Marked Call Call.Answer Mark

/-- The window of KakaoTalk that a handle of the graph names. -/
def targetIdentity (graph : WindowGraph) (pids : List Pid) (hwnd : Hwnd) :
    Option WindowIdentity :=
  ((graph.get hwnd).filter fun node => pids.contains node.pid).map WindowNode.identity

/-- The look at one window in the capture pass, between its two marks. -/
def markedCapture (graph : WindowGraph) (pids : List Pid) (hwnd : Hwnd) : MarkedM Unit :=
  match targetIdentity graph pids hwnd with
  | none => plain (captureWindow graph pids hwnd)
  | some identity => do
      mark (.looking identity)
      plain (captureWindow graph pids hwnd)
      mark (.looked identity)

/-- The snapshots are looked through after a close, and the mark says which of them is
dropped. -/
def markedRetain : MarkedM Unit := do
  let entries ← plain (ask .iterateSnapshots)
  Program.forEach (fun entry => do
    let same ← plain (identityMatches entry.1)
    if same then return ()
    else
      mark (.dropped entry.1)
      plain (modifySnapshots fun snapshots => snapshots.erase entry.1)) entries

/-- Everything between the captures and the retain. -/
def applyPasses (graph : WindowGraph) (evaluation : Evaluation) (pids : List Pid) :
    EngineM Unit := do
  Program.forEach (hideWindow graph pids) evaluation.actions.hide
  Program.forEach (positionWindow graph pids) evaluation.actions.setPos
  let started ← ask .now
  closeWindows graph pids (started + 100000000) evaluation.actions.close

/-- What the evaluation wants, with the marks of its first and its last round. -/
def markedApply (graph : WindowGraph) (evaluation : Evaluation) (pids : List Pid) :
    MarkedM Unit := do
  let allowed ← plain flagsAllow
  if !allowed then return ()
  else
    Program.forEach (markedCapture graph pids) (captureTargets evaluation)
    plain (applyPasses graph evaluation pids)
    if evaluation.actions.close.isEmpty then return () else markedRetain

theorem erase_markedCapture (graph : WindowGraph) (pids : List Pid) (hwnd : Hwnd) :
    erase (markedCapture graph pids hwnd) = captureWindow graph pids hwnd := by
  unfold markedCapture
  split
  · exact Marked.erase_plain _
  · simp only [Marked.erase_bind, Marked.erase_mark, Marked.erase_plain, Program.done_bind]
    exact Program.bind_done _

theorem erase_markedRetain : erase markedRetain = retainMatching := by
  simp only [markedRetain, retainMatching, Marked.erase_bind, Marked.erase_plain,
    Marked.erase_forEach]
  congr
  funext entries
  congr
  funext entry
  congr
  funext same
  cases same with
  | true => rfl
  | false =>
      simp only [Bool.false_eq_true, if_false, Marked.erase_bind, Marked.erase_mark,
        Marked.erase_plain]
      rfl

theorem erase_markedApply (graph : WindowGraph) (evaluation : Evaluation) (pids : List Pid) :
    erase (markedApply graph evaluation pids) = applyEvaluation graph evaluation pids := by
  simp only [markedApply, applyEvaluation, applyPasses, Marked.erase_bind, Marked.erase_plain]
  congr
  funext allowed
  cases allowed with
  | false => rfl
  | true =>
      cases empty : evaluation.actions.close.isEmpty with
      | true => simp [erase_markedCapture]
      | false => simp [erase_markedCapture, erase_markedRetain]

/-- The restore of a window that is due. The snapshot is out of the caches from its first
mark to its last, which says what has become of it. -/
def markedDue (identity : WindowIdentity) (lastError : String) : MarkedM String := do
  let caches ← plain (ask .readCaches)
  match caches.snapshots.lookup identity with
  | none =>
      plain (removeStale identity)
      return lastError
  | some snap =>
      mark (.started identity)
      plain (modifySnapshots fun snapshots => snapshots.erase identity)
      mark (.acting snap)
      let same ← plain (identityMatches snap.identity)
      if !same then
        mark (.ended identity .gone)
        plain (removeStale identity)
        return lastError
      else
        let (restored, lastError) ← plain (restoreSnapshot snap lastError)
        if restored then
          mark (.ended identity .restored)
          plain (removeStale identity)
          return lastError
        else
          plain (modifySnapshots fun snapshots => snapshots.insert identity snap)
          mark (.ended identity .failed)
          plain (recordFailure identity lastError)
where
  recordFailure (identity : WindowIdentity) (lastError : String) : EngineM String := do
    let caches ← ask .readCaches
    let before := staleOf caches identity
    let failed := before.fail
    setStale identity failed
    if before.warned then return lastError
    else
      ask (.note (.staleRestoreFailed identity.hwnd failed.attempts failed.cooldown lastError))
      return lastError

/-- One window with a snapshot, which is either matched again or missed. -/
def markedStaleWindow (matched : WindowIdentity → Bool) (identity : WindowIdentity)
    (lastError : String) : MarkedM String :=
  if matched identity then do
    mark (.matched identity)
    plain (removeStale identity)
    return lastError
  else do
    mark (.missed identity)
    let missed ← plain (countMiss identity)
    if missed then markedDue identity lastError else return lastError
where
  countMiss (identity : WindowIdentity) : EngineM Bool := do
    let caches ← ask .readCaches
    let missed := (staleOf caches identity).miss
    setStale identity missed.1
    return missed.2

/-- The windows with a snapshot, one after the other, with the error to report so far. -/
def markedStaleWindows (matched : WindowIdentity → Bool) :
    List WindowIdentity → String → MarkedM String
  | [], lastError => return lastError
  | identity :: rest, lastError => do
      let lastError ← markedStaleWindow matched identity lastError
      markedStaleWindows matched rest lastError

/-- The restore at the end of a tick, in its order, with the number of failures it reports. -/
def markedStaleHidden (matched : WindowIdentity → Bool) : MarkedM (Nat × String) := do
  let entries ← plain (ask .iterateSnapshots)
  let pending := (entries.map Prod.snd).insertionSort fun first second =>
    restoreKey first ≤ restoreKey second
  let lastError ← markedStaleWindows matched (pending.map RestoreSnapshot.identity) ""
  let caches ← plain (ask .readCaches)
  return (caches.restoreFailureCount, lastError)

theorem erase_markedDue (identity : WindowIdentity) (lastError : String) :
    erase (markedDue identity lastError) = restoreDue identity lastError := by
  simp only [markedDue, restoreDue, Marked.erase_bind, Marked.erase_plain]
  congr
  funext caches
  cases caches.snapshots.lookup identity with
  | none => simp
  | some snap =>
      simp only [Marked.erase_bind, Marked.erase_plain, Marked.erase_mark, Program.done_bind]
      congr
      funext _
      congr
      funext same
      cases same with
      | false => simp
      | true =>
          simp only [Marked.erase_bind, Marked.erase_plain, Bool.not_true, Bool.false_eq_true,
            if_false]
          congr
          funext result
          cases restored : result.1 with
          | true => simp
          | false => simp [markedDue.recordFailure]

theorem erase_markedStaleWindow (matched : WindowIdentity → Bool) (identity : WindowIdentity)
    (lastError : String) :
    erase (markedStaleWindow matched identity lastError) =
      restoreStaleWindow matched identity lastError := by
  unfold markedStaleWindow restoreStaleWindow
  split
  · simp
  · simp only [Marked.erase_bind, Marked.erase_plain, Marked.erase_mark, Program.done_bind,
      markedStaleWindow.countMiss, bind_assoc, pure_bind]
    congr
    funext caches
    congr
    funext _
    cases (staleOf caches identity).miss.2 with
    | true => exact erase_markedDue identity lastError
    | false => rfl

theorem erase_markedStaleHidden (matched : WindowIdentity → Bool) :
    erase (markedStaleHidden matched) = restoreStaleHidden matched := by
  have windows : ∀ pending lastError, erase (markedStaleWindows matched pending lastError) =
      restoreStaleWindows matched pending lastError := by
    intro pending
    induction pending with
    | nil => intro _; rfl
    | cons identity rest ih =>
        intro lastError
        simp only [markedStaleWindows, restoreStaleWindows, Marked.erase_bind,
          erase_markedStaleWindow, ih]
  simp [markedStaleHidden, restoreStaleHidden, windows]

/-- What the evaluation wants, and then the windows it no longer wants hidden. While nothing
is hidden the second part is left out, report and all. -/
def markedApplyAndRestore (graph : WindowGraph) (evaluation : Evaluation) (pids : List Pid) :
    MarkedM Unit := do
  markedApply graph evaluation pids
  let caches ← plain (ask .readCaches)
  if caches.snapshots.entries.isEmpty then return ()
  else
    let (failures, lastError) ← markedStaleHidden (matchedIdentity graph evaluation)
    plain (ask (.note (.restoreFailures failures lastError)))

/-- In the shadow mode nothing is done but to say what would be. -/
def markedActOn (applyMode : Bool) (graph : WindowGraph) (evaluation : Evaluation)
    (pids : List Pid) : MarkedM Unit :=
  if applyMode then markedApplyAndRestore graph evaluation pids
  else plain (Program.forEach (fun candidate => ask (.note (.shadow candidate)))
    evaluation.candidates)

theorem erase_markedActOn (applyMode : Bool) (graph : WindowGraph) (evaluation : Evaluation)
    (pids : List Pid) :
    erase (markedActOn applyMode graph evaluation pids) =
      actOn applyMode graph evaluation pids := by
  cases applyMode with
  | false => exact Marked.erase_plain _
  | true =>
      simp only [markedActOn, actOn, if_true, markedApplyAndRestore, applyAndRestore,
        Marked.erase_bind, Marked.erase_plain, erase_markedApply]
      congr
      funext _
      congr
      funext caches
      split
      · rfl
      · simp [erase_markedStaleHidden]

section Tick

variable [Unicode]

/-- What a tick finds out before it acts: the graph of the windows, the verdict about them,
and whether it may apply that verdict. -/
structure Finding where
  applyMode : Bool
  graph : WindowGraph
  evaluation : Evaluation

/-- The part of a tick before it acts; nothing is returned when there is nothing
to look at. -/
def observeTick (pids : List Pid) (settings : AppSettings) (rules : LayoutRules) :
    EngineM (Option Finding) := do
  let enabled ← ask (.load .enabled)
  let aggressive ← ask (.load .aggressive)
  let core : LayoutSettings := { enabled := enabled, aggressiveMode := aggressive }
  let caches ← ask .readCaches
  if pids.isEmpty && caches.snapshots.entries.isEmpty then return none
  else
    let graph ← buildGraph pids
    let apply ← ask (.load .apply)
    let applyMode := apply && enabled
    let evaluation ← evaluateTick graph core rules applyMode
    ask (.note (.mainWindows evaluation.state.mainWindowCount))
    cleanUp settings.cleanupInterval graph
    return some { applyMode := applyMode, graph := graph, evaluation := evaluation }

/-- A tick: it observes, evaluates, and acts on what it found. -/
def markedTick (pids : List Pid) (settings : AppSettings) (rules : LayoutRules) :
    MarkedM Evaluation := do
  match ← plain (observeTick pids settings rules) with
  | none => return {}
  | some finding =>
      markedActOn finding.applyMode finding.graph finding.evaluation pids
      return finding.evaluation

/-- Without its marks it is the tick. -/
theorem erase_markedTick (pids : List Pid) (settings : AppSettings) (rules : LayoutRules) :
    erase (markedTick pids settings rules) = tick pids settings rules := by
  simp only [markedTick, tick, observeTick, Marked.erase_bind, Marked.erase_plain, bind_assoc]
  congr
  funext enabled
  congr
  funext aggressive
  congr
  funext caches
  split
  · rfl
  · simp only [bind_assoc, pure_bind, Marked.erase_bind, erase_markedActOn]
    rfl

end Tick

/-- The last restore, window by window. A failed one goes back into the caches and is
counted. -/
def markedPending : List RestoreSnapshot → Nat → String → MarkedM (Nat × String)
  | [], failures, lastError => return (failures, lastError)
  | snap :: rest, failures, lastError => do
      mark (.acting snap)
      let same ← plain (identityMatches snap.identity)
      if !same then
        mark (.drained snap.identity .gone)
        markedPending rest failures lastError
      else
        let (restored, lastError) ← plain (restoreSnapshot snap lastError)
        if restored then
          mark (.drained snap.identity .restored)
          markedPending rest failures lastError
        else
          mark (.drained snap.identity .failed)
          plain (modifySnapshots fun snapshots => snapshots.insert snap.identity snap)
          markedPending rest (failures + 1) lastError

/-- The restore of everything, in the order of a tick. -/
def markedAll : MarkedM (Nat × String) := do
  let pending ← plain drainSnapshots
  markedPending
    (pending.insertionSort fun first second => restoreKey first ≤ restoreKey second) 0 ""

/-- The restore at the end of the program, which tries the windows that failed before last. -/
def markedAllFinal : MarkedM (Nat × String) := do
  let caches ← plain (ask .readCaches)
  let pending ← plain drainSnapshots
  markedPending
    (pending.insertionSort fun first second =>
      finalRestoreKey caches.stale first ≤ finalRestoreKey caches.stale second)
    0 ""

/-- The restore of everything, with what was counted of windows that are done with taken
out. -/
def markedDrain : MarkedM (Nat × String) := do
  let result ← markedAll
  plain dropRestored
  return result

/-- The restore while the engine is switched off, which is tried again after a while as long
as a window is left. -/
def markedRetry (state : OffRestore) (instant : Instant) : MarkedM OffRestore := do
  let apply ← plain (ask (.load .apply))
  if !apply then return state
  else
    let caches ← plain (ask .readCaches)
    if caches.snapshots.entries.isEmpty then
      plain (ask (.note (.restoreFailures 0 "")))
      return {}
    else if state.next.any (fun next => instant < next) then return state
    else
      let (failures, lastError) ← markedDrain
      plain (ask (.note (.restoreFailures failures lastError)))
      if failures = 0 then return {}
      else
        let failed := saturatingSucc state.failures
        return { next := some (instant + offDelay failed), failures := failed }

theorem erase_markedPending (pending : List RestoreSnapshot) (failures : Nat)
    (lastError : String) :
    erase (markedPending pending failures lastError) =
      restorePending pending failures lastError := by
  induction pending generalizing failures lastError with
  | nil => rfl
  | cons snap rest ih =>
      simp only [markedPending, restorePending, Marked.erase_bind, Marked.erase_plain,
        Marked.erase_mark, Program.done_bind]
      congr
      funext same
      cases same with
      | false => simp [ih]
      | true =>
          simp only [Marked.erase_bind, Marked.erase_plain, Bool.not_true, Bool.false_eq_true,
            if_false]
          congr
          funext result
          cases restored : result.1 with
          | true => simp [ih]
          | false => simp [ih]

theorem erase_markedAll : erase markedAll = restoreAll := by
  simp only [markedAll, restoreAll, Marked.erase_bind, Marked.erase_plain, erase_markedPending]

theorem erase_markedAllFinal : erase markedAllFinal = restoreAllFinal := by
  simp only [markedAllFinal, restoreAllFinal, Marked.erase_bind, Marked.erase_plain,
    erase_markedPending]

/-- Without its marks it is the retry. -/
theorem erase_markedRetry (state : OffRestore) (instant : Instant) :
    erase (markedRetry state instant) = state.retry instant := by
  simp only [markedRetry, OffRestore.retry, Marked.erase_bind, Marked.erase_plain]
  congr
  funext apply
  cases apply with
  | false => rfl
  | true =>
      simp only [Marked.erase_bind, Marked.erase_plain, Bool.not_true, Bool.false_eq_true,
        if_false]
      congr
      funext caches
      split
      · simp
      · split
        · rfl
        · simp only [markedDrain, drainRestoreAll, Marked.erase_bind, Marked.erase_plain,
            erase_markedAll, bind_assoc]
          congr
          funext result
          simp only [Program.done_bind, Marked.erase_done, Program.pure_eq]
          congr
          funext _
          congr
          funext _
          split
          · rfl
          · rfl

end LayoutAdblock.Engine
