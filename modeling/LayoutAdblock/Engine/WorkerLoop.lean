import Mathlib.Data.Finset.Basic
import LayoutAdblock.Engine.Schedule

namespace LayoutAdblock.Engine

open LayoutAdblock.Core Interaction

/-! # The loop of the worker

`run_worker` without its logging.  A tick, a restore while the engine is off and
the Win32 event hook are calls here.
-/

/-- An event the hook has reported, and whether more are to be expected after it. -/
structure WindowEvent where
  hwnd : Hwnd
  followUp : Bool
deriving DecidableEq, Repr

/-- What the loop writes into the shared flags: whether the hook works, that the worker is
ready, that a tick is complete, and the text of the last error. -/
inductive Published where
  | hookDegraded (degraded : Bool)
  | workerReady
  | tickCompleted
  | lastError (message : String)
  | clearErrorIf (expected : String)

/-- What the loop asks for: the flags, the clock, the processes, the hook and its events,
the sleep, and the ticks and restores, which are programs of their own. -/
inductive LoopCall where
  | load (flag : Flag)
  /-- `reset_restore.swap(false)` -/
  | takeReset
  | publish (what : Published)
  | now
  | alive
  | scan
  | watch (pids : List Pid)
  | hooked
  | install (pids : List Pid)
  | remove
  | events
  | windowPid (hwnd : Hwnd)
  | wait (timeout : Nat)
  | clearRestoreFailures
  | clearTransient
  | offRetry (state : OffRestore) (instant : Instant)
  | guardedTick (pids : List Pid)

/-- What these calls answer. A tick says whether it was completed, and a scan that failed
finds nothing. -/
@[reducible] def LoopCall.Answer : LoopCall → Type
  | load _ | takeReset | alive | hooked | install _ | guardedTick _ => Bool
  | publish _ | watch _ | remove | wait _ | clearRestoreFailures | clearTransient => Unit
  | now => Instant
  | scan => Option (List Pid)
  | events => List WindowEvent
  | windowPid _ => Pid
  | offRetry _ _ => OffRestore

abbrev LoopM := Program LoopCall LoopCall.Answer

def request (call : LoopCall) : LoopM call.Answer := Program.ask call

/-- Something is written into the shared flags, under a condition. -/
def publishWhen (condition : Bool) (what : Published) : LoopM Unit :=
  if condition then request (.publish what) else return ()

/-- The time that has passed since then; none, where that is yet to come. -/
def elapsed (since : Instant) : LoopM Nat := do
  let instant ← request .now
  return instant - since

/-- The variables of the loop: the processes, the hook, the burst and the pending event, the
flags as they were last seen, and the times that decide what is due. -/
structure LoopState where
  cachedPids : List Pid := []
  processScanFailed : Bool := false
  lastPidScan : Option Instant := none
  absentSince : Instant
  lastPids : Finset Pid := ∅
  hookPids : Finset Pid := ∅
  hookRetry : HookRetry := {}
  offRestore : OffRestore := {}
  burstLeft : Nat := 0
  pendingEvent : Bool := false
  /-- It starts before the clock does. -/
  lastFull : Int
  wasEnabled : Bool
  wasAggressive : Bool
  lastEventAt : Option Instant := none
  quietSince : Instant
  consecutivePanics : Nat := 0

namespace LoopState

def pidSet (state : LoopState) : Finset Pid := state.cachedPids.toFinset

def sinceFull (state : LoopState) : LoopM Nat := do
  let instant ← request .now
  return ((instant : Int) - state.lastFull).toNat

end LoopState

/-- The variables of the loop before its first iteration. The last tick is put ten seconds
back, so that the first one is due. -/
def startLoop : LoopM LoopState := do
  let absentSince ← request .now
  let lastFull ← request .now
  let wasEnabled ← request (.load .enabled)
  let wasAggressive ← request (.load .aggressive)
  let quietSince ← request .now
  return {
      absentSince := absentSince
      lastFull := (lastFull : Int) - seconds 10
      wasEnabled := wasEnabled
      wasAggressive := wasAggressive
      quietSince := quietSince }

/-- The user has asked for the failures to be forgotten, and the restore while switched off
starts anew. -/
def noteReset (state : LoopState) : LoopM LoopState := do
  let reset ← request .takeReset
  if reset then
    request .clearRestoreFailures
    return { state with offRestore := {} }
  else return state

/-- A flag has changed since the last iteration. -/
def LoopState.changed (state : LoopState) (enabled aggressive : Bool) : Bool :=
  enabled != state.wasEnabled || aggressive != state.wasAggressive

/-- A flag that has changed makes the next tick due at once. Where the engine was switched
on, so is the next scan. -/
def noteFlags (state : LoopState) : LoopM LoopState := do
  let enabled ← request (.load .enabled)
  let aggressive ← request (.load .aggressive)
  if state.changed enabled aggressive then
    let instant ← request .now
    return { state with
        lastFull := (instant : Int) - seconds 10
        lastPidScan := if enabled && !state.wasEnabled then none else state.lastPidScan
        offRestore := {}
        wasEnabled := enabled
        wasAggressive := aggressive }
  else return { state with wasEnabled := enabled, wasAggressive := aggressive }

/-- What the user is shown while the processes cannot be listed. -/
def scanFailed : String := "프로세스 탐색 실패: 다음 주기에 재시도합니다."

/-- The last scan is long enough ago, or there was none. -/
def scanDue (state : LoopState) (interval : Nat) : LoopM Bool :=
  match state.lastPidScan with
  | none => return true
  | some scanned => do
      let passed ← elapsed scanned
      return decide (interval ≤ passed)

/-- The processes are listed. Where that fails the last list is kept and the user is told. -/
def rescan (state : LoopState) : LoopM LoopState := do
  let found ← request .scan
  match found with
  | some found =>
      let pids := found.insertionSort (· ≤ ·)
      publishWhen state.processScanFailed (.clearErrorIf scanFailed)
      request (.watch pids)
      return { state with cachedPids := pids, processScanFailed := false }
  | none =>
      request (.publish (.lastError scanFailed))
      return { state with processScanFailed := true }

/-- Returns the scan interval too, since a worker without KakaoTalk sleeps until the next
scan is due. -/
def scanPids (settings : Config.AppSettings) (state : LoopState) : LoopM (LoopState × Nat) := do
  let alive ← request .alive
  let absentFor ← elapsed state.absentSince
  let interval := pidScanInterval settings alive absentFor
  let due ← scanDue state interval
  if due then
    let state ← rescan state
    let instant ← request .now
    return ({ state with lastPidScan := some instant }, interval)
  else return (state, interval)

/-- While a process is there, no time of absence passes. -/
def notePresence (state : LoopState) : LoopM LoopState :=
  if state.cachedPids.isEmpty then return state
  else do
    let instant ← request .now
    return { state with absentSince := instant }

/-- Other processes than last time start a burst. -/
def notePids (settings : Config.AppSettings) (state : LoopState) : LoopM LoopState :=
  if state.pidSet = state.lastPids then return state
  else do
    let instant ← request .now
    return { state with
        burstLeft := burstScans settings
        lastPids := state.pidSet
        quietSince := instant }

/-- A hook for other processes is given back, and the next attempt to install one starts
anew. Without a process, a missing hook is no defect. -/
def dropHook (state : LoopState) : LoopM LoopState :=
  if state.pidSet = state.hookPids then return state
  else do
    request .remove
    publishWhen (decide (state.pidSet = ∅)) (.hookDegraded false)
    return { state with hookRetry := {}, hookPids := state.pidSet }

def hookDue (state : LoopState) : LoopM Bool :=
  if state.pidSet = ∅ then return false
  else do
    let hooked ← request .hooked
    if hooked then return false
    else
      let instant ← request .now
      return state.hookRetry.due instant

/-- A hook is installed where it is due, and the flags say whether that worked. -/
def installHook (state : LoopState) : LoopM LoopState := do
  let due ← hookDue state
  if !due then return state
  else
    let installed ← request (.install state.cachedPids)
    if installed then
      request (.publish (.hookDegraded false))
      return { state with hookRetry := {} }
    else
      let instant ← request .now
      request (.publish (.hookDegraded true))
      return { state with hookRetry := state.hookRetry.failed instant }

/-- The drained events whose windows belong to KakaoTalk are returned too. One of them makes
a tick pending, and a follow-up starts a burst. -/
def drainEvents (settings : Config.AppSettings) (state : LoopState) :
    LoopM (LoopState × List WindowEvent) := do
  let drained ← request .events
  let events ← Program.filterWith (fun event => do
    let pid ← request (.windowPid event.hwnd)
    return decide (pid ∈ state.pidSet)) drained
  if events.isEmpty then return (state, events)
  else
    let instant ← request .now
    return ({ state with
          pendingEvent := true
          lastEventAt := some instant
          quietSince := instant
          burstLeft := if events.any WindowEvent.followUp then burstScans settings
            else state.burstLeft }, events)

def activeNow (state : LoopState) : LoopM Bool :=
  match state.lastEventAt with
  | none => return false
  | some event => do
      let passed ← elapsed event
      return decide (passed < activeWindow)

/-- The time to the next tick, should nothing happen. -/
def reconcileIn (settings : Config.AppSettings) (state : LoopState) : LoopM Nat := do
  let active ← activeNow state
  let quietFor ← elapsed state.quietSince
  let hooked ← request .hooked
  return reconcileInterval settings active quietFor hooked

/-- What an iteration knows when it decides, while KakaoTalk runs: the loop's variables, the
events it has drained, and the interval of the reconciliation. -/
structure Outlook where
  state : LoopState
  events : List WindowEvent
  recon : Nat

/-- What the rest of an iteration is about: the engine is off, KakaoTalk is not there, or
there is something to serve. -/
inductive Stage where
  | off (state : LoopState)
  | absent (state : LoopState) (scanInterval : Nat)
  | serving (outlook : Outlook)

/-- The variables as the survey has left them. -/
def Stage.state : Stage → LoopState
  | .off state | .absent state _ => state
  | .serving outlook => outlook.state

@[simp] theorem Stage.state_serving (outlook : Outlook) :
    (Stage.serving outlook).state = outlook.state := rfl

/-- The first half of an iteration. It looks at everything that decides what the second one
does, and neither ticks nor waits. -/
def survey (settings : Config.AppSettings) (state : LoopState) : LoopM Stage := do
  let state ← noteReset state
  let state ← noteFlags state
  if !state.wasEnabled then return .off state
  else
    let (state, scanInterval) ← scanPids settings state
    let state ← notePresence state
    let state ← notePids settings state
    let state ← dropHook state
    let state ← installHook state
    let (state, events) ← drainEvents settings state
    let recon ← reconcileIn settings state
    if state.cachedPids.isEmpty then return .absent state scanInterval
    else return .serving { state := state, events := events, recon := recon }

/-- While the engine is off there is no hook, and what is still hidden is put back. -/
def serveOff (state : LoopState) : LoopM LoopState := do
  request .remove
  request (.publish (.hookDegraded false))
  let instant ← request .now
  let offRestore ← request (.offRetry state.offRestore instant)
  request (.publish .workerReady)
  let instant ← request .now
  request (.wait (offRestore.wait instant))
  return { state with hookPids := ∅, hookRetry := {}, offRestore := offRestore }

def absentWait (state : LoopState) (scanInterval : Nat) : LoopM Nat :=
  match state.lastPidScan with
  | none => return 0
  | some scanned => do
      let passed ← elapsed scanned
      return scanInterval - passed

/-- While KakaoTalk is not there, what is still hidden is put back and everything else
forgotten. -/
def serveAbsent (state : LoopState) (scanInterval : Nat) : LoopM LoopState := do
  let instant ← request .now
  let offRestore ← request (.offRetry state.offRestore instant)
  request .clearTransient
  let wait ← absentWait state scanInterval
  request (.publish .workerReady)
  request (.wait (min (max wait (millis 10)) absentMaxWait))
  return { state with offRestore := offRestore, lastEventAt := none }

/-- A burst is under way and its next tick is due. -/
def burstDue (settings : Config.AppSettings) (state : LoopState) : LoopM Bool :=
  if state.burstLeft = 0 then return false
  else do
    let passed ← state.sinceFull
    return decide (burstInterval settings ≤ passed)

/-- No tick yet in this iteration. A pending event waits for the interval of a burst only,
everything else for the plan. -/
def postponed (settings : Config.AppSettings) (outlook : Outlook) (dueBurst : Bool) :
    LoopM Bool := do
  let passed ← outlook.state.sinceFull
  if outlook.state.pendingEvent then return decide (passed < burstInterval settings)
  else return decide (passed < outlook.recon) && !dueBurst

/-- A wait is cut short where a hook is to be tried before it ends. -/
def hookWait (state : LoopState) (wait : Nat) : LoopM Nat := do
  let hooked ← request .hooked
  if hooked then return wait
  else
    let instant ← request .now
    return min wait (state.hookRetry.remaining instant)

/-- The wait until something is due, of a millisecond at least. -/
def idle (settings : Config.AppSettings) (outlook : Outlook) : LoopM LoopState := do
  let state := outlook.state
  let passed ← state.sinceFull
  let wait ← hookWait state
    (if state.pendingEvent || 0 < state.burstLeft then burstInterval settings - passed
      else outlook.recon - passed)
  request (.wait (max wait (millis 1)))
  return state

/-- After several panics in a row there is a pause, and otherwise the wait of a burst, where
one is under way. -/
def afterTick (settings : Config.AppSettings) (state : LoopState) (completed : Bool) :
    LoopM LoopState :=
  if !completed && panicBackoffAfter ≤ state.consecutivePanics then do
    request (.wait panicBackoff)
    return state
  else if state.burstLeft = 0 then return state
  else do
    request (.wait (burstInterval settings))
    return { state with burstLeft := state.burstLeft - 1 }

/-- One tick over the processes found last. It is counted as the last one even where it has
panicked, so that the loop does not spin. -/
def tickOnce (settings : Config.AppSettings) (state : LoopState) : LoopM LoopState := do
  let completed ← request (.guardedTick state.cachedPids)
  publishWhen completed .tickCompleted
  publishWhen completed .workerReady
  let instant ← request .now
  afterTick settings
    { state with
      pendingEvent := false
      consecutivePanics := if completed then 0 else saturatingSucc state.consecutivePanics
      lastFull := instant } completed

/-- The second half of an iteration while KakaoTalk is there: a tick where one is due, and
otherwise a wait. -/
def serve (settings : Config.AppSettings) (outlook : Outlook) : LoopM LoopState := do
  let dueBurst ← burstDue settings outlook.state
  let later ← postponed settings outlook dueBurst
  if later then idle settings outlook else tickOnce settings outlook.state

def Stage.run (settings : Config.AppSettings) : Stage → LoopM LoopState
  | .off state => serveOff state
  | .absent state scanInterval => serveAbsent state scanInterval
  | .serving outlook => serve settings outlook

/-- One iteration; nothing is returned when the loop stops, which it only does at its
beginning. -/
def iteration (settings : Config.AppSettings) (state : LoopState) : LoopM (Option LoopState) := do
  let stopping ← request (.load .stopping)
  if stopping then return none
  else
    let stage ← survey settings state
    let after ← stage.run settings
    return some after

end LayoutAdblock.Engine
