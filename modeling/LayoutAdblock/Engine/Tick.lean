import LayoutAdblock.Engine.GraphBuild
import LayoutAdblock.Engine.Restore

namespace LayoutAdblock.Engine

open LayoutAdblock.Core Interaction

/-- Whether a cleanup is due; a due cleanup restarts the clock. -/
def cleanupDue (interval : Nat) : EngineM Bool := do
  let caches ← ask .readCaches
  match caches.lastCleanup with
  | none => restart caches
  | some last =>
      let instant ← ask .now
      if instant - last < interval then return false else restart caches
where
  restart (caches : EngineCaches) : EngineM Bool := do
    let instant ← ask .now
    ask (.writeCaches { caches with lastCleanup := some instant })
    return true

/-- Keep the bookkeeping of windows in the graph and of windows with a
snapshot. -/
def EngineCaches.prune (caches : EngineCaches) (graph : WindowGraph) : EngineCaches :=
  let kept : WindowIdentity → Bool := fun identity =>
    (graph.nodes.any fun node => decide (node.identity = identity)) ||
      decide (identity ∈ caches.snapshots)
  { caches.retainStale kept with
    states := fun identity => if kept identity then caches.states identity else none }

/-- What is kept of windows that are no longer in the graph is dropped, except for those
that wait to be restored. -/
def pruneGoneIdentities (graph : WindowGraph) : EngineM Unit := do
  let caches ← ask .readCaches
  ask (.writeCaches (caches.prune graph))

/-- The caches are cleaned up now and then, as the settings say. -/
def cleanUp (interval : Nat) (graph : WindowGraph) : EngineM Unit := do
  let due ← cleanupDue interval
  if due then pruneGoneIdentities graph else return ()

/-- The evaluation wants something hidden, closed or made zero-sized, and that is this very
window. -/
def matchedIdentity (graph : WindowGraph) (evaluation : Evaluation) (identity : WindowIdentity) :
    Bool :=
  (evaluation.actions.hide ++ evaluation.actions.close ++
      (evaluation.actions.setPos.filter zeroSizes).map fun pos => pos.getD 0 0).any fun hwnd =>
    (graph.get hwnd).any fun node => decide (node.identity = identity)

/-- The settings a tick reads besides the shared flags. -/
structure AppSettings where
  cacheCleanupIntervalMs : Nat

/-- The time between two of these, in nanoseconds, and no less than a tenth of a second. -/
def AppSettings.cleanupInterval (settings : AppSettings) : Nat :=
  max settings.cacheCleanupIntervalMs 100 * 1000000

/-- Apply an evaluation, then give back what it no longer matches. The report follows, with
the failures of this and of earlier ticks. -/
def applyAndRestore (graph : WindowGraph) (evaluation : Evaluation) (pids : List Pid) :
    EngineM Unit := do
  applyEvaluation graph evaluation pids
  let caches ← ask .readCaches
  if caches.snapshots.entries.isEmpty then return ()
  else
    let (failures, lastError) ← restoreStaleHidden (matchedIdentity graph evaluation)
    ask (.note (.restoreFailures failures lastError))

/-- Act on an evaluation, or only log what would be done. The restore belongs to acting, so
the shadow mode never undoes anything either. -/
def actOn (applyMode : Bool) (graph : WindowGraph) (evaluation : Evaluation)
    (pids : List Pid) : EngineM Unit :=
  if applyMode then applyAndRestore graph evaluation pids
  else Program.forEach (fun candidate => ask (.note (.shadow candidate))) evaluation.candidates

variable [Unicode]

/-- Evaluate the graph and keep the candidate states, which are the only thing an evaluation
changes. -/
def evaluateTick (graph : WindowGraph) (core : LayoutSettings) (rules : LayoutRules)
    (applyMode : Bool) : EngineM Evaluation := do
  let caches ← ask .readCaches
  let (evaluation, states) :=
    if applyMode then evaluateGraphForApply graph core rules caches.states
    else evaluateGraphWithStates graph core rules caches.states
  ask (.writeCaches { caches with states := states })
  return evaluation

/-- One look at KakaoTalk: the graph is built and evaluated, and what follows is done or
reported. Without a process there is nothing to do, unless a window is still to be put back. -/
def tick (pids : List Pid) (settings : AppSettings) (rules : LayoutRules) :
    EngineM Evaluation := do
  let enabled ← ask (.load .enabled)
  let aggressive ← ask (.load .aggressive)
  let core : LayoutSettings := { enabled := enabled, aggressiveMode := aggressive }
  let caches ← ask .readCaches
  if pids.isEmpty && caches.snapshots.entries.isEmpty then return {}
  else
    let graph ← buildGraph pids
    let apply ← ask (.load .apply)
    let applyMode := apply && enabled
    let evaluation ← evaluateTick graph core rules applyMode
    ask (.note (.mainWindows evaluation.state.mainWindowCount))
    cleanUp settings.cleanupInterval graph
    actOn applyMode graph evaluation pids
    return evaluation

/-- When the restore is tried again while the engine is switched off, and how often that has
failed. -/
structure OffRestore where
  next : Option Instant := none
  failures : Nat := 0

/-- The delay before the next attempt, in nanoseconds. -/
def offDelay (failures : Nat) : Nat :=
  min (200 * 2 ^ min (failures - 1) 5) 5000 * 1000000

/-- Everything is put back. Where something fails it is tried again later, and later each
time. -/
def OffRestore.retry (state : OffRestore) (instant : Instant) : EngineM OffRestore := do
  let apply ← ask (.load .apply)
  if !apply then return state
  else
    let caches ← ask .readCaches
    if caches.snapshots.entries.isEmpty then
      ask (.note (.restoreFailures 0 ""))
      return {}
    else if state.next.any (fun next => instant < next) then return state
    else
      let (failures, lastError) ← drainRestoreAll
      ask (.note (.restoreFailures failures lastError))
      if failures = 0 then return {}
      else
        let failed := saturatingSucc state.failures
        return { next := some (instant + offDelay failed), failures := failed }

end LayoutAdblock.Engine
