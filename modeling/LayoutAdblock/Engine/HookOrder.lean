import LayoutAdblock.Engine.HookRuns
import LayoutAdblock.Engine.LoopParts

namespace LayoutAdblock.Engine

open LayoutAdblock.Core Interaction Environment

/-! # The loop takes care of the hook -/

variable {settings : Config.AppSettings} {state : LoopState} {phase : HookPhase}

/-- What the loop's variables know of the runtime: the processes of the last scan, and,
while a hook is there, the processes it was installed for. -/
structure LoopState.Fits (state : LoopState) (phase : HookPhase) : Prop where
  pids : state.cachedPids = phase.watched
  found : phase.watched.Perm phase.found
  aimed : phase.idle = true ∨ phase.hookedFor.toFinset = state.hookPids

/-- A hook that is there is for the processes that were found. -/
structure LoopState.Aimed (state : LoopState) (phase : HookPhase) : Prop extends
    state.Fits phase where
  current : state.pidSet = state.hookPids

theorem LoopState.Aimed.waits (aimed : state.Aimed phase) (timeout : Nat) :
    hookCare.allows phase (.wait timeout) := by
  refine ⟨aimed.found, aimed.aimed.imp id fun same => ?_⟩
  rw [same, ← aimed.current, LoopState.pidSet, aimed.pids]
  exact List.toFinset_eq_of_perm _ _ aimed.found

theorem LoopCall.Apart.stays {call : LoopCall} (apart : call.Apart) :
    hookCare.allows phase call ∧ ∀ answer, hookCare.moves phase call answer = phase := by
  cases call with
  | install | remove | hooked | scan | watch | wait => exact apart.elim
  | _ => exact ⟨trivial, fun _ => rfl⟩

theorem plain_follows {α : Type} {program : LoopM α} {ends : α → Prop}
    (does : program.Does LoopCall.Plain ends) :
    hookCare.Follows phase program fun value reached => reached = phase ∧ ends value :=
  Protocol.Follows.of_does does fun _ plain => plain.2.stays

/-- Such calls first, and then the rest. -/
theorem plain_then {α β : Type} {program : LoopM α} {rest : α → LoopM β}
    {ends : β → HookPhase → Prop} (only : program.Only LoopCall.Plain)
    (follows : ∀ value, hookCare.Follows phase (rest value) ends) :
    hookCare.Follows phase (program >>= rest) ends := by
  apply (plain_follows only.does).bind
  rintro value _ ⟨rfl, -⟩
  exact follows value

/-- One call that has nothing to do with the runtime. -/
theorem apart_asks {β : Type} {call : LoopCall} {rest : call.Answer → LoopM β}
    {ends : β → HookPhase → Prop} (apart : call.Apart)
    (follows : ∀ answer, hookCare.Follows phase (rest answer) ends) :
    hookCare.Follows phase (request call >>= rest) ends := by
  refine ⟨apart.stays.1, fun answer => ?_⟩
  rw [apart.stays.2 answer]
  exact follows answer

theorem LoopState.Fits.keeps {after : LoopState} (fits : state.Fits phase)
    (pids : after.cachedPids = state.cachedPids) (hookPids : after.hookPids = state.hookPids) :
    after.Fits phase where
  pids := pids.trans fits.pids
  found := fits.found
  aimed := by
    rw [hookPids]
    exact fits.aimed

theorem LoopState.Aimed.keeps {after : LoopState} (aimed : state.Aimed phase)
    (kept : PidsKept settings state after) : after.Aimed phase :=
  { aimed.toFits.keeps kept.pids kept.hookPids with
    current := by
      rw [LoopState.pidSet, kept.pids, kept.hookPids]
      exact aimed.current }

/-- A part of the survey that leaves the processes alone. -/
theorem kept_fits {program : LoopM LoopState}
    (does : program.Does LoopCall.Plain (PidsKept settings state)) (fits : state.Fits phase) :
    hookCare.Follows phase program fun after reached => after.Fits reached := by
  apply (plain_follows does).mono
  rintro after _ ⟨rfl, kept⟩
  exact fits.keeps kept.pids kept.hookPids

theorem noteFlags_fits (fits : state.Fits phase) :
    hookCare.Follows phase (noteFlags state) fun after reached => after.Fits reached := by
  apply (plain_follows noteFlags_kept).mono
  rintro after _ ⟨rfl, kept⟩
  exact fits.keeps kept.1 kept.2

theorem rescan_fits (fits : state.Fits phase) :
    hookCare.Follows phase (rescan state) fun after reached => after.Fits reached := by
  refine ⟨trivial, fun found => ?_⟩
  cases found with
  | none =>
      refine apart_asks trivial fun _ => ?_
      exact ⟨fits.pids, fits.found, fits.aimed⟩
  | some found =>
      apply plain_then (publishWhen_plain _ _)
      intro _
      refine ⟨trivial, fun _ => ?_⟩
      exact ⟨rfl, List.perm_insertionSort _ found, fits.aimed⟩

theorem scanPids_fits (fits : state.Fits phase) :
    hookCare.Follows phase (scanPids settings state)
      fun result reached => result.1.Fits reached := by
  refine apart_asks trivial fun alive => ?_
  apply plain_then (elapsed_plain _)
  intro absentFor
  apply plain_then (scanDue_plain _)
  intro isDue
  split
  · apply (rescan_fits fits).bind
    intro after reached fits
    refine apart_asks trivial fun instant => ?_
    exact ⟨fits.pids, fits.found, fits.aimed⟩
  · exact fits

/-- From here on to the end of the iteration a hook is for the processes that were
found. -/
theorem dropHook_aims (fits : state.Fits phase) :
    hookCare.Follows phase (dropHook state) fun after reached => after.Aimed reached := by
  unfold dropHook
  split
  · rename_i same
    exact { fits with current := same }
  · refine ⟨trivial, fun _ => ?_⟩
    apply plain_then (publishWhen_plain _ _)
    intro _
    exact { pids := fits.pids, found := fits.found, aimed := .inl rfl, current := rfl }

theorem LoopState.Aimed.told (aimed : state.Aimed phase) (hooked : Bool) :
    state.Aimed (hookCare.moves phase .hooked hooked) where
  pids := aimed.pids
  found := aimed.found
  aimed := aimed.aimed.imp (fun idle => Bool.or_eq_true_iff.mpr (.inl idle)) id
  current := aimed.current

theorem hookDue_aimed (aimed : state.Aimed phase) :
    hookCare.Follows phase (hookDue state)
      fun due reached => state.Aimed reached ∧ (due = true → reached.idle = true) := by
  unfold hookDue
  split
  · exact ⟨aimed, nofun⟩
  · refine ⟨trivial, fun hooked => ?_⟩
    cases hooked with
    | true => exact ⟨aimed.told true, nofun⟩
    | false =>
        refine apart_asks trivial fun instant => ?_
        exact ⟨aimed.told false, fun _ => Bool.or_eq_true_iff.mpr (.inr rfl)⟩

theorem installHook_aimed (aimed : state.Aimed phase) :
    hookCare.Follows phase (installHook state) fun after reached => after.Aimed reached := by
  apply (hookDue_aimed aimed).bind
  rintro due reached ⟨aimed, idle⟩
  cases due with
  | false => exact aimed
  | true =>
      refine ⟨idle rfl, fun installed => ?_⟩
      cases installed with
      | true =>
          refine apart_asks trivial fun _ => ?_
          exact { aimed with aimed := .inr aimed.current }
      | false =>
          refine apart_asks trivial fun instant => ?_
          refine apart_asks trivial fun _ => ?_
          exact { aimed with aimed := .inl rfl }

theorem drainEvents_aimed (aimed : state.Aimed phase) :
    hookCare.Follows phase (drainEvents settings state)
      fun result reached => result.1.Aimed reached := by
  apply (plain_follows drainEvents_heard).mono
  rintro result _ ⟨rfl, kept, -⟩
  exact aimed.keeps kept

theorem reconcileIn_aimed (aimed : state.Aimed phase) :
    hookCare.Follows phase (reconcileIn settings state) fun _ reached => state.Aimed reached := by
  apply plain_then activeNow_plain
  intro isActive
  apply plain_then (elapsed_plain _)
  intro quietFor
  exact ⟨trivial, fun hooked => aimed.told hooked⟩

/-- While the engine is off, nothing is known of the hook but whom it is for. -/
def Stage.Fits : Stage → HookPhase → Prop
  | .off state, phase => state.Fits phase
  | .absent state _, phase => state.Aimed phase
  | .serving outlook, phase => outlook.state.Aimed phase

theorem survey_fits (fits : state.Fits phase) :
    hookCare.Follows phase (survey settings state) fun stage reached => stage.Fits reached := by
  apply (kept_fits (noteReset_kept settings) fits).bind
  intro noted reached fits
  apply (noteFlags_fits fits).bind
  intro flagged reached fits
  split
  · exact fits
  · apply (scanPids_fits fits).bind
    intro scanned reached fits
    apply (kept_fits (notePresence_kept settings) fits).bind
    intro present reached fits
    apply (kept_fits notePids_kept fits).bind
    intro listed reached fits
    apply (dropHook_aims fits).bind
    intro dropped reached aimed
    apply (installHook_aimed aimed).bind
    intro installed reached aimed
    apply (drainEvents_aimed aimed).bind
    intro drained reached aimed
    apply (reconcileIn_aimed aimed).bind
    intro recon reached aimed
    split
    · exact aimed
    · exact aimed

theorem serveOff_fits (fits : state.Fits phase) :
    hookCare.Follows phase (serveOff state) fun after reached => after.Fits reached := by
  refine ⟨trivial, fun _ => ?_⟩
  refine apart_asks trivial fun _ => ?_
  refine apart_asks trivial fun instant => ?_
  refine apart_asks trivial fun offRestore => ?_
  refine apart_asks trivial fun _ => ?_
  refine apart_asks trivial fun later => ?_
  refine ⟨⟨fits.found, .inl rfl⟩, fun _ => ?_⟩
  exact ⟨fits.pids, fits.found, .inl rfl⟩

theorem serveAbsent_fits {scanInterval : Nat} (aimed : state.Aimed phase) :
    hookCare.Follows phase (serveAbsent state scanInterval)
      fun after reached => after.Fits reached := by
  have left : (absentWait state scanInterval).Only LoopCall.Plain := by
    unfold absentWait
    split
    · trivial
    · exact (elapsed_plain _).bind fun _ => trivial
  refine apart_asks trivial fun instant => ?_
  refine apart_asks trivial fun offRestore => ?_
  refine apart_asks trivial fun _ => ?_
  apply plain_then left
  intro wait
  refine apart_asks trivial fun _ => ?_
  refine ⟨aimed.waits _, fun _ => ?_⟩
  exact ⟨aimed.pids, aimed.found, aimed.aimed⟩

theorem hookWait_aimed (aimed : state.Aimed phase) (wait : Nat) :
    hookCare.Follows phase (hookWait state wait) fun _ reached => state.Aimed reached := by
  refine ⟨trivial, fun hooked => ?_⟩
  cases hooked with
  | true => exact aimed.told true
  | false =>
      refine apart_asks trivial fun instant => ?_
      exact aimed.told false

theorem idle_fits {outlook : Outlook} (aimed : outlook.state.Aimed phase) :
    hookCare.Follows phase (idle settings outlook) fun after reached => after.Fits reached := by
  apply plain_then sinceFull_plain
  intro passed
  apply (hookWait_aimed aimed _).bind
  intro wait reached aimed
  exact ⟨aimed.waits _, fun _ => aimed.toFits⟩

theorem afterTick_fits {completed : Bool} (aimed : state.Aimed phase) :
    hookCare.Follows phase (afterTick settings state completed)
      fun after reached => after.Fits reached := by
  unfold afterTick
  split
  · exact ⟨aimed.waits _, fun _ => aimed.toFits⟩
  · split
    · exact aimed.toFits
    · refine ⟨aimed.waits _, fun _ => ?_⟩
      exact ⟨aimed.pids, aimed.found, aimed.aimed⟩

theorem tickOnce_fits (aimed : state.Aimed phase) :
    hookCare.Follows phase (tickOnce settings state) fun after reached => after.Fits reached := by
  refine apart_asks trivial fun completed => ?_
  apply plain_then (publishWhen_plain _ _)
  intro _
  apply plain_then (publishWhen_plain _ _)
  intro _
  refine apart_asks trivial fun instant => ?_
  exact afterTick_fits
    { pids := aimed.pids, found := aimed.found, aimed := aimed.aimed, current := aimed.current }

theorem serve_fits {outlook : Outlook} (aimed : outlook.state.Aimed phase) :
    hookCare.Follows phase (serve settings outlook) fun after reached => after.Fits reached := by
  have due : (burstDue settings outlook.state).Only LoopCall.Plain := by
    unfold burstDue
    split
    · trivial
    · exact sinceFull_plain.bind fun _ => trivial
  have later : ∀ dueBurst, (postponed settings outlook dueBurst).Only LoopCall.Plain := by
    intro dueBurst
    apply sinceFull_plain.bind
    intro passed
    split
    · trivial
    · trivial
  apply plain_then due
  intro dueBurst
  apply plain_then (later dueBurst)
  intro isLater
  split
  · exact idle_fits aimed
  · exact tickOnce_fits aimed

theorem iteration_fits (fits : state.Fits phase) :
    hookCare.Follows phase (iteration settings state)
      fun next reached => ∀ after, next = some after → after.Fits reached := by
  refine apart_asks trivial fun stopping => ?_
  split
  · exact nofun
  · apply (survey_fits fits).bind
    intro stage reached fits
    have served : hookCare.Follows reached (stage.run settings)
        fun after reached => after.Fits reached := by
      cases stage with
      | off state => exact serveOff_fits fits
      | absent state interval => exact serveAbsent_fits fits
      | serving outlook => exact serve_fits fits
    apply served.bind
    intro after reached fits later same
    cases same
    exact fits

theorem loopFor_follows (laps : Nat) (fits : state.Fits phase) :
    hookCare.Follows phase (loopFor settings laps state) fun _ _ => True := by
  induction laps generalizing state phase with
  | zero => trivial
  | succ laps ih =>
      apply (iteration_fits fits).bind
      intro next reached fits
      cases next with
      | none => trivial
      | some after => exact ih (fits after rfl)

theorem startLoop_fits :
    hookCare.Follows {} startLoop fun state reached => state.Fits reached := by
  refine apart_asks trivial fun absentSince => ?_
  refine apart_asks trivial fun lastFull => ?_
  refine apart_asks trivial fun wasEnabled => ?_
  refine apart_asks trivial fun wasAggressive => ?_
  refine apart_asks trivial fun quietSince => ?_
  exact ⟨rfl, List.Perm.refl _, .inl rfl⟩

/-- The same protocol for the whole worker. Outside its loop it has nothing to do with the
hook. -/
def workerCare : Protocol WorkerCall WorkerCall.Answer HookPhase where
  allows phase
    | .loop call => hookCare.allows phase call
    | _ => True
  moves phase
    | .loop call, answer => hookCare.moves phase call answer
    | _, _ => phase

theorem inLoop_follows {α : Type} {program : LoopM α} {ends : α → HookPhase → Prop}
    (follows : hookCare.Follows phase program ends) :
    workerCare.Follows phase (inLoop program) ends :=
  follows.translate fun _ _ allowed => Protocol.Follows.ask allowed fun _ => rfl

theorem finishWorker_follows :
    workerCare.Follows phase finishWorker fun _ reached => reached = phase := by
  refine ⟨trivial, fun apply => ?_⟩
  cases apply with
  | true => exact ⟨trivial, fun _ => ⟨trivial, fun _ => ⟨trivial, fun _ => rfl⟩⟩⟩
  | false => exact ⟨trivial, fun _ => rfl⟩

theorem runWorker_follows (laps : Nat) :
    workerCare.Follows {} (runWorker settings laps) fun _ _ => True := by
  apply (inLoop_follows startLoop_fits).bind
  intro state reached fits
  apply (inLoop_follows (loopFor_follows laps fits)).bind
  intro stopped reached _
  cases stopped with
  | false => trivial
  | true => exact finishWorker_follows.bind fun _ _ _ => trivial

theorem Hosted.Together.workerStep {before after : Hosted} {call : WorkerCall}
    {answer : call.Answer} (together : before.Together phase)
    (allowed : workerCare.allows phase call)
    (step : nativeWorker.step call before answer after) :
    after.Together (workerCare.moves phase call answer) := by
  cases call with
  | loop call =>
      obtain ⟨settled, callbacks, settles, raises, rfl⟩ := step
      exact (together.settles allowed settles).hear raises
  | drainRestoreAllFinal | reportRestore | exited =>
      obtain ⟨callbacks, raises, rfl⟩ := step
      exact together.hear raises

def Hosted.Sound (hosted : Hosted) : Prop :=
  hosted.Held ∧ (hosted.waiting = true → hosted.Current)

theorem Hosted.Together.sound {hosted : Hosted} (together : hosted.Together phase) :
    hosted.Sound :=
  ⟨together.toHeld, fun waits => absurd waits (by rw [together.awake]; nofun)⟩

theorem Hosted.Together.torn {before seen : Hosted} {call : WorkerCall}
    (together : before.Together phase) (allowed : workerCare.allows phase call)
    (torn : nativeWorker.torn call before seen) : seen.Sound := by
  cases call with
  | loop call =>
      cases call with
      | wait timeout =>
          obtain ⟨callbacks, raises, rfl⟩ := torn
          have waits : hookCare.allows phase (.wait timeout) := allowed
          have heard := together.toHeld.hear raises
          have current := together.current waits
          exact ⟨{ heard with }, fun _ => current.hear callbacks⟩
      | _ => exact torn.elim
  | drainRestoreAllFinal | reportRestore | exited => exact torn.elim

theorem fresh_together : Hosted.Together {} {} where
  hooks := rfl
  sender := rfl
  queue := nofun
  silent := fun _ => rfl
  handles := rfl
  pids := List.Sublist.refl _
  told := rfl
  scanned := rfl
  watched := rfl
  unhooked := fun _ => rfl
  targets := fun hooked => absurd rfl hooked
  awake := rfl

/-- At every instant of the worker's life, whatever Windows answers and raises, the registered
hooks, the sender and the open handles are those of its runtime; no window event is lost to the
queue below its bound; while it waits, handles and hook are those of the processes found last; and
where it ends, it leaves nothing behind. -/
theorem hooks_kept {laps : Nat} {seen : Hosted}
    (observed : nativeWorker.Observes (runWorker settings laps) {} seen) :
    seen.Held ∧ (seen.waiting = true → seen.Current) ∧
      ∀ left, nativeDesk.Runs seen.runtime.drop seen.desk () left →
        left.registered = [] ∧ left.eventTx = none ∧ left.opened = [] := by
  have kept : nativeWorker.wp Hosted.Sound (runWorker settings laps)
      (fun _ after => ∃ reached, Hosted.Together after reached ∧ True) {} :=
    (runWorker_follows laps).wp (fun _ _ _ _ _ held allowed step => held.workerStep allowed step)
      (fun _ _ _ _ held allowed torn => held.torn allowed torn) (fun _ _ held => held.sound)
      fresh_together
  have sound : seen.Sound := wp_observes kept fresh_together.sound observed
  refine ⟨sound.1, sound.2, fun left ran => ?_⟩
  have dropped := ensures_runs sound.1.drop_ensures ran
  exact dropped

/-- Everything succeeds; a new hook or handle is numbered by those before it. -/
def nativeHandler (call : RuntimeCall) (before : EventDesk) : call.Answer × EventDesk :=
  match call with
  | .bounded => (before.channels, { before with
      channels := before.channels + 1
      queues := Function.update before.queues before.channels [] })
  | .setEventTx sender => ((), { before with eventTx := sender })
  | .setWinEventHook pid range =>
      let hook := before.registered.length
      if before.registered.all fun entry => decide (entry.hook ≠ hook) then
        (some hook, { before with
          registered := before.registered ++ [{ hook := hook, target := (pid, range) }] })
      else (none, before)
  | .unhookWinEvent hook => ((), { before with
      registered := before.registered.filter fun entry => decide (entry.hook ≠ hook) })
  | .tryRecv receiver => ((before.queues receiver).head?, { before with
      queues := Function.update before.queues receiver (before.queues receiver).tail })
  | .openProcess pid =>
      let handle := before.opened.length
      if before.opened.all fun entry => decide (entry.1 ≠ handle) then
        (some handle, { before with opened := before.opened ++ [(handle, pid)] })
      else (none, before)
  | .getExitCodeProcess _ => (some stillActive, before)
  | .closeHandle handle => ((), { before with
      opened := before.opened.filter fun entry => decide (entry.1 ≠ handle) })

theorem nativeHandler_realizes (call : RuntimeCall) (before : EventDesk) :
    nativeDesk.step call before (nativeHandler call before).1 (nativeHandler call before).2 := by
  cases call with
  | setWinEventHook pid range =>
      rw [nativeHandler]
      split
      · rename_i fresh
        simp only [List.all_eq_true, decide_eq_true_eq] at fresh
        exact ⟨fresh, rfl⟩
      · rfl
  | openProcess pid =>
      rw [nativeHandler]
      split
      · rename_i fresh
        simp only [List.all_eq_true, decide_eq_true_eq] at fresh
        exact ⟨fresh, rfl⟩
      · rfl
  | bounded | tryRecv => exact ⟨rfl, rfl⟩
  | setEventTx | unhookWinEvent | getExitCodeProcess | closeHandle => rfl

/-- KakaoTalk is process 5, and every tick completes. -/
def hostHandler (call : WorkerCall) (before : Hosted) : call.Answer × Hosted :=
  match call with
  | .loop (.install pids) =>
      let ran := (before.runtime.install pids).exec nativeHandler before.desk
      (ran.1.1, { before with runtime := ran.1.2, desk := ran.2, raised := [] })
  | .loop .remove =>
      let ran := before.runtime.remove.exec nativeHandler before.desk
      ((), { before with runtime := ran.1, desk := ran.2, raised := [] })
  | .loop .hooked => (before.runtime.hooked, before)
  | .loop .events =>
      let ran := before.runtime.events.exec nativeHandler before.desk
      (ran.1, { before with
        desk := ran.2
        raised := []
        due := before.due ++ (before.raised.take eventQueueCapacity).map WinEvent.window
        told := before.told ++ ran.1 })
  | .loop (.watch pids) =>
      let ran := (before.runtime.watchPids pids).exec nativeHandler before.desk
      ((), { before with runtime := ran.1, desk := ran.2 })
  | .loop .alive =>
      let ran := before.runtime.alive.exec nativeHandler before.desk
      (ran.1, { before with desk := ran.2 })
  | .loop .scan => (some [5], { before with scanned := [5] })
  | .loop (.load flag) => (decide (flag ≠ .stopping), before)
  | .loop .takeReset => (false, before)
  | .loop .now => (seconds 20, before)
  | .loop (.windowPid _) => ((5 : Int), before)
  | .loop (.offRetry state _) => (state, before)
  | .loop (.guardedTick _) => (true, before)
  | .loop (.publish _) | .loop (.wait _) | .loop .clearTransient
  | .loop .clearRestoreFailures => ((), before)
  | .drainRestoreAllFinal => ((0, ""), before)
  | .reportRestore _ _ | .exited => ((), before)

theorem Hosted.hear_nil (hosted : Hosted) : hosted.hear [] = hosted := by
  simp [Hosted.hear]

/-- A call that Windows raises no event during. -/
theorem quietly_settles {call : LoopCall} {before settled : Hosted} {answer : call.Answer}
    (settles : before.Settles call answer settled) :
    nativeWorker.step (.loop call) before answer settled :=
  ⟨settled, [], settles, nofun, settled.hear_nil.symm⟩

theorem hostHandler_realizes (call : WorkerCall) (before : Hosted) :
    nativeWorker.step call before (hostHandler call before).1 (hostHandler call before).2 := by
  cases call with
  | loop call =>
      apply quietly_settles
      cases call with
      | install pids => exact ⟨_, _, runs_exec nativeHandler_realizes _ _, rfl⟩
      | remove => exact ⟨_, _, runs_exec nativeHandler_realizes _ _, rfl⟩
      | hooked => exact ⟨rfl, rfl⟩
      | events => exact ⟨_, runs_exec nativeHandler_realizes _ _, rfl⟩
      | watch pids => exact ⟨_, _, runs_exec nativeHandler_realizes _ _, rfl⟩
      | alive => exact ⟨_, runs_exec nativeHandler_realizes _ _, rfl⟩
      | _ => rfl
  | drainRestoreAllFinal | reportRestore | exited => exact ⟨[], nofun, before.hear_nil.symm⟩

def isHostWait (call : WorkerCall) (_ : Hosted) : Bool :=
  match call with
  | .loop (.wait _) => true
  | _ => false

def firstWait : Option Hosted := (runWorker {} 1).stopAt hostHandler isHostWait {}

def popupEvent : Callback :=
  { hook := 0, event := eventShow, hwnd := 7, idObject := objidWindow, idChild := childidSelf }

/-- The same instant, after the popup was shown. -/
def popupHeard : Hosted := { (firstWait.getD {}).hear [popupEvent] with waiting := true }

set_option maxRecDepth 8000 in
theorem popup_heard : popupHeard.Held ∧ popupHeard.Current ∧
    popupHeard.desk.registered.length = 2 ∧ popupHeard.raised = [popupEvent.sent] := by
  have waits : firstWait.isSome = true := by decide +kernel
  have stops : firstWait = some (firstWait.getD {}) := by
    cases found : firstWait with
    | none =>
        rw [found] at waits
        cases waits
    | some here => rfl
  have registered : (firstWait.getD {}).desk.registered =
      [⟨0, 5, ⟨eventCreate, eventName⟩⟩, ⟨1, 5, ⟨eventForeground, eventForeground⟩⟩] := by
    decide +kernel
  have silent : (firstWait.getD {}).raised = [] := by decide +kernel
  have raises : (firstWait.getD {}).desk.Raises [popupEvent] := by
    intro callback member
    cases List.mem_singleton.mp member
    rw [registered]
    exact ⟨_, List.mem_cons_self, rfl, by decide⟩
  have stopped : nativeWorker.Stops (fun call => ∃ timeout, call = .loop (.wait timeout))
      (runWorker {} 1) {} (firstWait.getD {}) := by
    apply stops_exec hostHandler_realizes _ stops
    intro call here halts
    cases call with
    | loop call =>
        cases call with
        | wait timeout => exact ⟨timeout, rfl⟩
        | _ => cases halts
    | _ => cases halts
  have observed : nativeWorker.Observes (runWorker {} 1) {} popupHeard := by
    apply stopped.torn
    rintro _ ⟨timeout, rfl⟩
    exact ⟨[popupEvent], raises, rfl⟩
  have kept := hooks_kept observed
  refine ⟨kept.1, kept.2.1 rfl, ?_, ?_⟩
  · have same : popupHeard.desk.registered = (firstWait.getD {}).desk.registered :=
      Hosted.hear_registered _ _
    rw [same, registered]
    rfl
  · have heard : popupHeard.raised = (firstWait.getD {}).raised ++ [popupEvent.sent] := rfl
    rw [heard, silent]
    rfl

end LayoutAdblock.Engine
