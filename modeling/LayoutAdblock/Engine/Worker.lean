import LayoutAdblock.Engine.Ledger
import LayoutAdblock.Engine.PanicGuard
import LayoutAdblock.Engine.WorkerLoop
import LayoutAdblock.Interaction.Precedence

namespace LayoutAdblock.Engine

open LayoutAdblock.Core Interaction Environment

/-! # The worker thread

`run_worker` from its first call to its last, and the end of the process that
waits for it.
-/

/-- What the worker does besides the calls of its loop: the last restore, its report, and
the word that it has ended. -/
inductive WorkerCall where
  | loop (call : LoopCall)
  | drainRestoreAllFinal
  | reportRestore (failures : Nat) (error : String)
  /-- `worker_exited.store(true)` -/
  | exited

/-- What these calls answer; the last restore says how many windows have failed. -/
@[reducible] def WorkerCall.Answer : WorkerCall → Type
  | .loop call => call.Answer
  | .drainRestoreAllFinal => Nat × String
  | .reportRestore _ _ | .exited => Unit

abbrev WorkerM := Program WorkerCall WorkerCall.Answer

def perform (call : WorkerCall) : WorkerM call.Answer := Program.ask call

def inLoop {α : Type} (program : LoopM α) : WorkerM α :=
  Program.translate (fun call : LoopCall => perform (.loop call)) program

/-- So many iterations at most; whether the loop has stopped by then. A worker that runs for
ever is covered by every number of them. -/
def loopFor (settings : Config.AppSettings) : Nat → LoopState → LoopM Bool
  | 0, _ => return false
  | laps + 1, state => do
      let next ← iteration settings state
      match next with
      | none => return true
      | some after => loopFor settings laps after

/-- `report_restore` after the last restore, without its log line. Outside apply mode
nothing is put back. -/
def restoreFinally (apply : Bool) : WorkerM Unit :=
  if apply then do
    let (failures, error) ← perform .drainRestoreAllFinal
    perform (.reportRestore failures error)
  else return ()

/-- After the loop everything is put back, in apply mode, and then the worker says that it
has ended. -/
def finishWorker : WorkerM Unit := do
  let apply ← inLoop (request (.load .apply))
  restoreFinally apply
  perform .exited

/-- Without its logging, for a number of iterations that is large enough or not;
whether the worker has returned. -/
def runWorker (settings : Config.AppSettings) (laps : Nat) : WorkerM Bool := do
  let state ← inLoop startLoop
  let stopped ← inLoop (loopFor settings laps state)
  if stopped then
    finishWorker
    return true
  else return false

/-- `clear_restore_failures` -/
def EngineCaches.clearRestoreFailures (caches : EngineCaches) : EngineCaches :=
  { caches with
    stale :=
      { entries := caches.stale.entries.map fun entry =>
          ⟨entry.1, { entry.2 with attempts := 0, cooldown := 0, warned := false }⟩
        nodupKeys := by
          rw [List.NodupKeys, List.keys, List.map_map]
          exact caches.stale.nodupKeys } }

/-- What a guarded tick leaves: it hides what it has seen, and it runs to its end
or panics.  The caches miss a snapshot only while the tick has it in hand for a
restore, where no panic strikes. -/
inductive GuardedTick [Unicode] (core : AppSettings) (rules : LayoutRules) (pids : List Pid)
    (before : SharedDesktop) : Bool → SharedDesktop → Prop where
  | completed {evaluation : Evaluation} {last : GuardState}
      (ran : (markedDesktop .seen).Runs (markedTick pids core rules) (.begin before) evaluation
        last) :
      GuardedTick core rules pids before true last.desktop
  | panicked {seen : GuardState} (windows : Hwnd → Option Window)
      (stopped : (markedDesktop .seen).Stops panics (markedTick pids core rules) (.begin before)
        seen)
      (apart : seen.attempt = none) :
      GuardedTick core rules pids before false (seen.desktop.afterPanic.become windows)

/-- A tick is guarded, the restores run to their end, and KakaoTalk moves
whenever the worker asks something else. -/
def workerDesktop [Unicode] (core : AppSettings) (rules : LayoutRules) :
    Environment WorkerCall WorkerCall.Answer SharedDesktop where
  step
    | .loop (.guardedTick pids), before, completed, after =>
        GuardedTick core rules pids before completed after
    | .loop (.offRetry state instant), before, next, after =>
        sharedDesktop.Runs (state.retry instant) before next after
    | .drainRestoreAllFinal, before, result, after =>
        sharedDesktop.Runs drainRestoreAllFinal before result after
    | .loop .clearRestoreFailures, before, _, after => ∃ windows,
        after = { before with caches := before.caches.clearRestoreFailures }.become windows
    | .loop .clearTransient, before, _, after => ∃ windows,
        after = { before with caches := before.caches.clearTransient }.become windows
    | _, before, _, after => ∃ windows, after = before.become windows

section Runs

variable [Unicode] {core : AppSettings} {rules : LayoutRules}

theorem Holds.of_guardedTick {pids : List Pid} {before after : SharedDesktop} {completed : Bool}
    (holds : Holds [] before) (ticked : GuardedTick core rules pids before completed after) :
    Holds [] after := by
  cases ticked with
  | completed ran => exact (wp_runs (markedTick_preserved holds.begun) ran).holds
  | panicked windows stopped apart =>
      have preserved := wp_observes (markedTick_preserved holds.begun) holds.begun
        stopped.observes
      have idle : Idle .seen _ := ⟨preserved, apart⟩
      have held : Holds [] (SharedDesktop.afterPanic _) := idle.holds.others rfl
      exact held.become windows

theorem Holds.of_workerStep {call : WorkerCall} {before after : SharedDesktop}
    {answer : call.Answer} (holds : Holds [] before)
    (step : (workerDesktop core rules).step call before answer after) : Holds [] after := by
  cases call with
  | drainRestoreAllFinal =>
      have kept := ensures_runs (drainRestoreAllFinal_holds holds) step
      exact kept
  | reportRestore failures error =>
      obtain ⟨windows, rfl⟩ := step
      exact holds.become windows
  | exited =>
      obtain ⟨windows, rfl⟩ := step
      exact holds.become windows
  | loop call =>
      cases call with
      | guardedTick pids => exact holds.of_guardedTick step
      | offRetry state instant =>
          have kept := ensures_runs (retry_holds holds) step
          exact kept
      | clearRestoreFailures =>
          obtain ⟨windows, rfl⟩ := step
          have held : Holds [] { before with caches := before.caches.clearRestoreFailures } :=
            holds.others rfl
          exact held.become windows
      | clearTransient =>
          obtain ⟨windows, rfl⟩ := step
          have held : Holds [] { before with caches := before.caches.clearTransient } :=
            holds.others rfl
          exact held.become windows
      | _ =>
          obtain ⟨windows, rfl⟩ := step
          exact holds.become windows

theorem worker_holds {α : Type} (program : WorkerM α) {before : SharedDesktop}
    (holds : Holds [] before) :
    (workerDesktop core rules).ensures program (fun _ => Holds []) before := by
  apply ensures_of_step (Holds []) program.only_true _ holds
  intro call state answer after _ held step
  exact held.of_workerStep step

end Runs

/-- How waiting for the worker ends: the time runs out, or the worker has panicked, or it
hands over its caches. -/
inductive JoinResult where
  | timedOut
  | panicked
  | returned (caches : EngineCaches)

/-- What the end of the program does: it stops the worker, waits for it, and launches or
discards an update. -/
inductive ShutdownCall (Staged : Type) where
  | storeStopping
  | notifyControl
  /-- `join_with_timeout` -/
  | joinWorker
  /-- Whatever the update thread has left. -/
  | takePending
  | launchHelper (staged : Staged)
  | discardStaged (staged : Staged)
  | endUpdate

/-- What these calls answer. An update may have been staged or not, and its launch may fail. -/
@[reducible] def ShutdownCall.Answer {Staged : Type} : ShutdownCall Staged → Type
  | .storeStopping | .notifyControl | .discardStaged _ | .endUpdate => Unit
  | .joinWorker => JoinResult
  | .takePending => Option Staged
  | .launchHelper _ => Bool

abbrev ShutdownM (Staged : Type) := Program (ShutdownCall Staged) ShutdownCall.Answer

def conclude {Staged : Type} (call : ShutdownCall Staged) : ShutdownM Staged call.Answer :=
  Program.ask call

/-- `join_ok` -/
def JoinResult.ok : JoinResult → Bool
  | .returned caches => caches.snapshots.entries.isEmpty
  | .timedOut | .panicked => false

/-- The program ends with an error where its worker could not be waited for. -/
def exitCode (joinOk : Bool) : Nat := if joinOk then 0 else 1

/-- `run_with_args` after the tray loop: the worker is stopped and waited for, and then a
staged update is handed over or thrown away. -/
def shutdown {Staged : Type} : ShutdownM Staged Nat := do
  conclude .storeStopping
  conclude .notifyControl
  let joined ← conclude .joinWorker
  let staged ← conclude .takePending
  match staged with
  | none => return exitCode joined.ok
  | some staged =>
      let launched ← conclude (.launchHelper staged)
      if launched then
        conclude .endUpdate
        return exitCode joined.ok
      else
        conclude (.discardStaged staged)
        conclude .endUpdate
        return 1

/-- A join that returns has the caches the worker left. -/
def joining (Staged : Type) (caches : EngineCaches) :
    Environment (ShutdownCall Staged) ShutdownCall.Answer Unit where
  step
    | .joinWorker, _, joined, _ => ∀ left, joined = .returned left → left = caches
    | _, _, _, _ => True

theorem shutdown_exit {Staged : Type} (caches : EngineCaches) :
    (joining Staged caches).ensures shutdown
      (fun exit _ => exit = 0 → caches.snapshots.entries.isEmpty = true) () := by
  have asking : ∀ (call : ShutdownCall Staged) (post : call.Answer → Unit → Prop),
      (∀ answer, (joining Staged caches).step call () answer () → post answer ()) →
      (joining Staged caches).ensures (conclude call) post () := by
    intro call post holds
    rw [conclude, ensures_ask]
    intro answer after step
    exact holds answer step
  have codes : ∀ joined : JoinResult, (∀ left, joined = .returned left → left = caches) →
      exitCode joined.ok = 0 → caches.snapshots.entries.isEmpty = true := by
    intro joined left zero
    cases joined with
    | timedOut => cases zero
    | panicked => cases zero
    | returned found =>
        rw [← left found rfl]
        cases empty : found.snapshots.entries.isEmpty with
        | true => rfl
        | false => simp [JoinResult.ok, exitCode, empty] at zero
  apply ensures_seq (asking .storeStopping (fun _ _ => True) fun _ _ => trivial)
  intro _ _ _
  apply ensures_seq (asking .notifyControl (fun _ _ => True) fun _ _ => trivial)
  intro _ _ _
  apply ensures_seq (asking .joinWorker
    (fun joined _ => ∀ left, joined = .returned left → left = caches) fun _ left => left)
  intro joined _ left
  apply ensures_seq (asking .takePending (fun _ _ => True) fun _ _ => trivial)
  intro staged _ _
  cases staged with
  | none => exact codes joined left
  | some staged =>
      apply ensures_seq (asking (.launchHelper staged) (fun _ _ => True) fun _ _ => trivial)
      intro launched _ _
      cases launched with
      | true =>
          apply ensures_seq (asking .endUpdate (fun _ _ => True) fun _ _ => trivial)
          intro _ _ _
          exact codes joined left
      | false =>
          apply ensures_seq (asking (.discardStaged staged) (fun _ _ => True) fun _ _ => trivial)
          intro _ _ _
          apply ensures_seq (asking .endUpdate (fun _ _ => True) fun _ _ => trivial)
          intro _ _ _ zero
          cases zero

/-- Over the whole life of the worker thread, ticks that panic included, every
window that is still hidden at the end has a snapshot that shows it, and when
the process then exits with 0 no window is left hidden.  The ticks hide what they
have seen, and no panic strikes where the only snapshot is in hand. -/
theorem exit_zero_restored [Unicode] {core : AppSettings} {rules : LayoutRules}
    {settings : Config.AppSettings} {laps : Nat} {stopped : Bool} {start finish : SharedDesktop}
    (Staged : Type) (fresh : start.Fresh)
    (worked : (workerDesktop core rules).Runs (runWorker settings laps) start stopped finish) :
    finish.Covered ∧
      ((joining Staged finish.caches).Runs shutdown () 0 () →
        ∀ identity, ¬ finish.HiddenAs identity) := by
  have holds := ensures_runs (worker_holds (runWorker settings laps) fresh.holds) worked
  have covered : finish.Covered := holds.covers
  refine ⟨covered, fun ended identity hidden => ?_⟩
  have empty := ensures_runs (shutdown_exit finish.caches) ended rfl
  obtain ⟨snap, found, _⟩ := covered identity hidden
  have listed := pairs_lookup.mpr found
  rw [Snapshots.pairs, List.isEmpty_iff.mp empty] at listed
  cases listed

/-- The settings of that worker, of which only the time between two clean-ups is looked at. -/
def popupCore : AppSettings := { cacheCleanupIntervalMs := 1000 }

/-- The visible popup, and two windows that KakaoTalk is about to destroy: one
while the first tick runs, the other while the worker waits for the next one. -/
def doomedWindows : SharedDesktop :=
  { visiblePopup with
    windows := fun hwnd =>
      if hwnd = 3 ∨ hwnd = 4 then
        some { pid := 5, className := "EVA_ChildWindow", visible := true }
      else visiblePopup.windows hwnd }

def SharedDesktop.shows (desktop : SharedDesktop) (hwnd : Hwnd) : Bool :=
  (desktop.windows hwnd).isSome

def SharedDesktop.without (desktop : SharedDesktop) (gone : Hwnd) : SharedDesktop :=
  desktop.become fun hwnd => if hwnd = gone then none else desktop.windows hwnd

def atHide : MarkedOp Call Mark → GuardState → Bool
  | .call (.showWindow _ .hide), _ => true
  | _, _ => false

theorem atHide_panics {op : MarkedOp Call Mark} {state : GuardState}
    (here : atHide op state = true) : panics op := by
  unfold atHide at here
  split at here
  · rfl
  · cases here

section Handler

local instance : Unicode := asciiLowercase

/-- A tick over these processes, with the default rules. -/
def popupPass (pids : List Pid) : MarkedM Evaluation :=
  markedTick pids popupCore LayoutRules.default

/-- The state in which the tick panics at its hide. -/
def popupPassPanic (pids : List Pid) (desktop : SharedDesktop) : Option GuardState :=
  (popupPass pids).stopAt (recordedBy (popupHandler false)) atHide (.begin desktop)

/-- A worker whose first ticks panic at a hide and whose later ones complete. -/
def popupGuarded (pids : List Pid) (desktop : SharedDesktop) : Bool × SharedDesktop :=
  if desktop.shows 3 then
    match popupPassPanic pids desktop with
    | some seen => (false, seen.desktop.afterPanic.without 3)
    | none => (true, desktop)
  else
    (true, ((popupPass pids).exec (recordedBy (popupHandler false)) (.begin desktop)).2.desktop)

/-- KakaoTalk is process 5, and the engine is to stop once the popup is hidden. -/
def workerHandler (call : WorkerCall) (desktop : SharedDesktop) : call.Answer × SharedDesktop :=
  let same := desktop.become desktop.windows
  match call with
  | .loop (.load flag) => (decide (flag ≠ .stopping) || desktop.hidden 1, same)
  | .loop .takeReset => (false, same)
  | .loop .alive | .loop .hooked | .loop (.install _) => (true, same)
  | .loop (.publish _) | .loop (.watch _) | .loop .remove => ((), same)
  | .loop (.wait _) => ((), desktop.without 4)
  | .loop .clearTransient | .loop .clearRestoreFailures => ((), same)
  | .loop .now => (if desktop.shows 4 then seconds 20 else seconds 40, same)
  | .loop .scan => (some [5], same)
  | .loop .events => ([], same)
  | .loop (.windowPid _) => ((5 : Int), same)
  | .loop (.offRetry state _) => (state, same)
  | .loop (.guardedTick pids) => popupGuarded pids desktop
  | .drainRestoreAllFinal => drainRestoreAllFinal.exec (popupHandler false) desktop
  | .reportRestore _ _ | .exited => ((), same)

/-- The calls for which that handler does what the worker's calls do. -/
def workerCheck (call : WorkerCall) (desktop : SharedDesktop) : Bool :=
  match call with
  | .loop (.guardedTick pids) =>
      (popupPass pids).obeys (recordedBy (popupHandler false)) (allowsMarked .seen)
          (.begin desktop) &&
        (!desktop.shows 3 || (popupPassPanic pids desktop).any fun seen => seen.attempt.isNone)
  | .loop (.offRetry _ _) | .loop .clearTransient | .loop .clearRestoreFailures => false
  | _ => true

theorem popupGuarded_realizes (pids : List Pid) (desktop : SharedDesktop)
    (checked : workerCheck (.loop (.guardedTick pids)) desktop = true) :
    GuardedTick popupCore LayoutRules.default pids desktop (popupGuarded pids desktop).1
      (popupGuarded pids desktop).2 := by
  obtain ⟨allowed, apart⟩ := (Bool.and_eq_true _ _).mp checked
  have realizes : ∀ op state, allowsMarked .seen op state = true →
      (markedDesktop .seen).step op state (recordedBy (popupHandler false) op state).1
        (recordedBy (popupHandler false) op state).2 :=
    fun op state => recordedBy_realizes (popupHandler_realizes false) op state
  unfold popupGuarded
  split
  · rename_i isShown
    rw [isShown, Bool.not_true, Bool.false_or] at apart
    obtain ⟨seen, stopped, idle⟩ := (Option.any_eq_true _ _).mp apart
    simp only [stopped]
    exact .panicked _ (stops_checked realizes allowed (fun _ _ => atHide_panics) stopped)
      (Option.isNone_iff_eq_none.mp idle)
  · exact .completed (runs_checked realizes allowed)

theorem workerHandler_realizes (call : WorkerCall) (desktop : SharedDesktop)
    (checked : workerCheck call desktop = true) :
    (workerDesktop popupCore LayoutRules.default).step call desktop
      (workerHandler call desktop).1 (workerHandler call desktop).2 := by
  cases call with
  | drainRestoreAllFinal => exact runs_exec (popupHandler_realizes false) _ desktop
  | reportRestore failures error => exact ⟨desktop.windows, rfl⟩
  | exited => exact ⟨desktop.windows, rfl⟩
  | loop call =>
      cases call with
      | guardedTick pids => exact popupGuarded_realizes pids desktop checked
      | offRetry state instant => cases checked
      | clearTransient => cases checked
      | clearRestoreFailures => cases checked
      | wait timeout => exact ⟨_, rfl⟩
      | _ => exact ⟨desktop.windows, rfl⟩

/-- What the worker leaves of the popup that it hid and gave back. -/
def popupReturned : SharedDesktop :=
  ((runWorker {} 4).exec workerHandler doomedWindows).2

end Handler

def quietShutdown (caches : EngineCaches) (call : ShutdownCall Unit) (_ : Unit) :
    call.Answer × Unit :=
  match call with
  | .storeStopping | .notifyControl | .discardStaged _ | .endUpdate => ((), ())
  | .joinWorker => (.returned caches, ())
  | .takePending => (none, ())
  | .launchHelper _ => (true, ())

theorem quietShutdown_realizes (caches : EngineCaches) (call : ShutdownCall Unit) (state : Unit) :
    (joining Unit caches).step call state (quietShutdown caches call state).1
      (quietShutdown caches call state).2 := by
  cases call with
  | joinWorker =>
      intro left returned
      exact (JoinResult.returned.inj returned).symm
  | _ => trivial

set_option maxRecDepth 10000 in
/-- The first tick panics at its hide, the second one hides the popup, and the
final drain shows it. -/
theorem popup_given_back :
    popupReturned.Covered ∧ ∀ identity, ¬ popupReturned.HiddenAs identity := by
  let _ := asciiLowercase
  have obeys : (runWorker {} 4).obeys workerHandler workerCheck doomedWindows = true := by decide
  have worked := runs_checked workerHandler_realizes obeys
  have restored := exit_zero_restored Unit ⟨rfl, fun _ => rfl⟩ worked
  have ended := runs_exec (quietShutdown_realizes popupReturned.caches) shutdown ()
  have zero : ((shutdown : ShutdownM Unit Nat).exec (quietShutdown popupReturned.caches) ()).1 =
      0 := by decide
  rw [zero] at ended
  exact ⟨restored.1, restored.2 ended⟩

end LayoutAdblock.Engine
