import Mathlib.Algebra.Ring.Nat
import LayoutAdblock.Engine.Apply

namespace LayoutAdblock.Engine

open LayoutAdblock.Core Interaction

/-- Restore a window; returns success and the last error.  A failure of the
position is overwritten by one of the visibility. -/
def restoreSnapshot (snap : RestoreSnapshot) (lastError : String) : EngineM (Bool × String) := do
  let hwnd := snap.identity.hwnd
  let hung ← ask (.isHungAppWindow hwnd)
  if hung then
    return (false, s!"restore skipped: window not responding hwnd={hwnd}")
  else
    let positioned ← restorePosition snap
    let lastError := if positioned then lastError else s!"restore pos failed hwnd={hwnd}"
    let shown ← restoreVisibility snap
    let lastError := if shown then lastError else s!"restore show failed hwnd={hwnd}"
    return (positioned && shown, lastError)
where
  restorePosition (snap : RestoreSnapshot) : EngineM Bool :=
    match snap.rect with
    | none => return true
    | some rect =>
        if 0 < rect.width && 0 < rect.height then
          ask (.setWindowPos snap.identity.hwnd rect.left rect.top rect.width rect.height
            (if snap.topLevel then [.noZOrder, .noActivate]
              else [.noZOrder, .noActivate, .noMove]))
        else return true
  restoreVisibility (snap : RestoreSnapshot) : EngineM Bool :=
    if snap.wasVisible then do
      let _ ← ask (.showWindow snap.identity.hwnd .show)
      ask (.hasVisibleStyle snap.identity.hwnd)
    else return true

/-- Parents come before children, and among equals the handle decides, so that the order is
the same in every run. -/
def restoreKey (snap : RestoreSnapshot) : Bool ×ₗ Hwnd :=
  toLex (!snap.topLevel, snap.identity.hwnd)

/-- The windows are put back one after the other. A handle that has another window now is
passed over, and a window that could not be put back keeps its snapshot and is counted. -/
def restorePending : List RestoreSnapshot → Nat → String → EngineM (Nat × String)
  | [], failures, lastError => return (failures, lastError)
  | snap :: rest, failures, lastError => do
      let same ← identityMatches snap.identity
      if !same then restorePending rest failures lastError
      else
        let (restored, lastError) ← restoreSnapshot snap lastError
        if restored then restorePending rest failures lastError
        else
          modifySnapshots fun snapshots => snapshots.insert snap.identity snap
          restorePending rest (failures + 1) lastError

/-- `snapshots.drain()`, without the keys. -/
def drainSnapshots : EngineM (List RestoreSnapshot) := do
  let entries ← ask .iterateSnapshots
  modifySnapshots fun _ => ∅
  return entries.map Prod.snd

/-- The caches are emptied of snapshots first, and only failures come back into them. -/
def restoreAll : EngineM (Nat × String) := do
  let pending ← drainSnapshots
  restorePending (pending.insertionSort fun first second => restoreKey first ≤ restoreKey second)
    0 ""

/-- Windows that already failed a restore come last, so that one that hangs cannot keep the
others from being put back. -/
def finalRestoreKey (stale : AList fun _ : WindowIdentity => StaleState)
    (snap : RestoreSnapshot) : Nat ×ₗ (Bool ×ₗ Hwnd) :=
  toLex (min (((stale.lookup snap.identity).map StaleState.attempts).getD 0) 1, restoreKey snap)

/-- The same at the end of the program, with the windows that failed before tried last. -/
def restoreAllFinal : EngineM (Nat × String) := do
  let caches ← ask .readCaches
  let pending ← drainSnapshots
  restorePending
    (pending.insertionSort fun first second =>
      finalRestoreKey caches.stale first ≤ finalRestoreKey caches.stale second)
    0 ""

/-- Drop the bookkeeping of whatever came back. -/
def EngineCaches.retainStale (caches : EngineCaches) (kept : WindowIdentity → Bool) :
    EngineCaches :=
  { caches with
    stale :=
      { entries := caches.stale.entries.filter fun entry => kept entry.1
        nodupKeys := caches.stale.nodupKeys.sublist List.filter_sublist } }

/-- What was counted of windows without a snapshot is dropped. -/
def dropRestored : EngineM Unit := do
  let caches ← ask .readCaches
  ask (.writeCaches (caches.retainStale fun identity => decide (identity ∈ caches.snapshots)))

/-- Everything is put back, when the engine is switched off or KakaoTalk is gone. -/
def drainRestoreAll : EngineM (Nat × String) := do
  let result ← restoreAll
  dropRestored
  return result

def drainRestoreAllFinal : EngineM (Nat × String) := do
  let result ← restoreAllFinal
  dropRestored
  return result

/-- How long a window is left alone after a failure: twice as long each time, and much
longer once the engine has given up. -/
def retryCooldownTicks (attempts : Nat) : Nat :=
  if restoreMaxAttempts ≤ attempts then restoreGiveupCooldownTicks
  else 2 ^ min (attempts - 1) 4

/-- What has been counted of a window; nothing, where it has not been missed. -/
def staleOf (caches : EngineCaches) (identity : WindowIdentity) : StaleState :=
  (caches.stale.lookup identity).getD {}

/-- What has been counted of a window is written back. -/
def setStale (identity : WindowIdentity) (state : StaleState) : EngineM Unit := do
  let caches ← ask .readCaches
  ask (.writeCaches { caches with stale := caches.stale.insert identity state })

/-- Nothing is counted of the window any more. -/
def removeStale (identity : WindowIdentity) : EngineM Unit := do
  let caches ← ask .readCaches
  ask (.writeCaches { caches with stale := caches.stale.erase identity })

/-- Count one more unmatched tick, and say whether a restore is due. None is during a
cooldown, of which a tick is counted instead. -/
def StaleState.miss (state : StaleState) : StaleState × Bool :=
  let counted := { state with missStreak := saturatingSucc state.missStreak }
  if counted.missStreak < restoreMissThreshold then (counted, false)
  else if 0 < counted.cooldown then ({ counted with cooldown := counted.cooldown - 1 }, false)
  else (counted, true)

/-- Back off after a failed attempt. The count of attempts decides how long, and stays where
it is once it is saturated. -/
def StaleState.fail (state : StaleState) : StaleState :=
  let attempts := saturatingSucc state.attempts
  { state with
    attempts := attempts
    cooldown := retryCooldownTicks attempts
    warned := true }

/-- The restore of a window that has been missed often enough. Its snapshot is taken out
first and put back where the restore fails, which counts as one more failure. -/
def restoreDue (identity : WindowIdentity) (lastError : String) : EngineM String := do
  let caches ← ask .readCaches
  match caches.snapshots.lookup identity with
  | none =>
      removeStale identity
      return lastError
  | some snap =>
      modifySnapshots fun snapshots => snapshots.erase identity
      let same ← identityMatches snap.identity
      if !same then
        removeStale identity
        return lastError
      else
        let (restored, lastError) ← restoreSnapshot snap lastError
        if restored then
          removeStale identity
          return lastError
        else
          modifySnapshots fun snapshots => snapshots.insert identity snap
          let caches ← ask .readCaches
          let before := staleOf caches identity
          let failed := before.fail
          setStale identity failed
          if before.warned then return lastError
          else
            ask (.note (.staleRestoreFailed identity.hwnd failed.attempts failed.cooldown
              lastError))
            return lastError

/-- A window with a snapshot. Where the evaluation matched it again its misses are
forgotten, and otherwise there is one more. -/
def restoreStaleWindow (matched : WindowIdentity → Bool) (identity : WindowIdentity)
    (lastError : String) : EngineM String :=
  if matched identity then do
    removeStale identity
    return lastError
  else do
    let caches ← ask .readCaches
    let missed := (staleOf caches identity).miss
    setStale identity missed.1
    if missed.2 then restoreDue identity lastError else return lastError

/-- Those windows in order, with the last error to report. -/
def restoreStaleWindows (matched : WindowIdentity → Bool) :
    List WindowIdentity → String → EngineM String
  | [], lastError => return lastError
  | identity :: rest, lastError => do
      let lastError ← restoreStaleWindow matched identity lastError
      restoreStaleWindows matched rest lastError

/-- Restore the hidden windows that no longer look like ads, parents first. The number it
returns is that of all windows with a failure, not only of this tick. -/
def restoreStaleHidden (matched : WindowIdentity → Bool) : EngineM (Nat × String) := do
  let entries ← ask .iterateSnapshots
  let pending := (entries.map Prod.snd).insertionSort fun first second =>
    restoreKey first ≤ restoreKey second
  let lastError ← restoreStaleWindows matched (pending.map RestoreSnapshot.identity) ""
  let caches ← ask .readCaches
  return (caches.restoreFailureCount, lastError)

end LayoutAdblock.Engine
