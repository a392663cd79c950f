import LayoutAdblock.Engine.WholeTick

namespace LayoutAdblock.Engine

open LayoutAdblock.Core Interaction Environment
open Marked (plain mark)
open GuardState

/-! # A tick that panics

A panic stops a tick at one of its Win32 calls, with the caches as they are at
that moment.  What has to survive is the snapshot of every window that the
engine still has to give back.
-/

variable {α : Type}

/-- A call of the Win32 API, in which a panic may be raised. -/
def Call.win32 : Call → Bool
  | .load _ | .now | .note _ | .readCaches | .writeCaches _ | .iterateSnapshots => false
  | _ => true

/-- A panic comes out of a call to Windows. The engine's own code has no other place for
one. -/
def panics : MarkedOp Call Mark → Prop
  | .call call => call.win32 = true
  | .mark _ => False

/-- The worker with its desktop, the panics in a row, and the error that is shown. -/
structure Worker where
  desktop : SharedDesktop
  consecutivePanics : Nat
  lastError : String

/-- A panic discards the candidate states and nothing else. What the engine has hidden stays
hidden, and its snapshots stay with it. -/
def SharedDesktop.afterPanic (desktop : SharedDesktop) : SharedDesktop :=
  { desktop with caches := { desktop.caches with states := StateMap.empty } }

/-- What the guard makes of a tick that ends in a state, with the error that it
has published, or with a panic. -/
def guardedTick (worker : Worker) (state : GuardState) : Except String String → Bool × Worker
  | .ok lastError =>
      (true, { desktop := state.desktop, consecutivePanics := 0, lastError := lastError })
  | .error message =>
      (false,
        { desktop := state.desktop.afterPanic
          consecutivePanics := saturatingSucc worker.consecutivePanics
          lastError := s!"엔진 오류(자동 복구 중): {message}" })

/-- What has happened to the worker since it started: ticks that came to an end
or panicked, restores while the layout engine was off, and moves of KakaoTalk. -/
inductive WorkerRun [Unicode] (start : Worker) : Worker → Prop where
  | start : WorkerRun start start
  | completed {before : Worker} {after : GuardState} {pids : List Pid} {settings : AppSettings}
      {rules : LayoutRules} {evaluation : Evaluation} (lastError : String)
      (earlier : WorkerRun start before)
      (ran : (markedDesktop .any).Runs (markedTick pids settings rules) (.begin before.desktop)
        evaluation after) :
      WorkerRun start (guardedTick before after (.ok lastError)).2
  | panicked {before : Worker} {seen : GuardState} {pids : List Pid} {settings : AppSettings}
      {rules : LayoutRules} (message : String) (earlier : WorkerRun start before)
      (stopped : (markedDesktop .any).Stops panics (markedTick pids settings rules)
        (.begin before.desktop) seen) :
      WorkerRun start (guardedTick before seen (.error message)).2
  | offRestore {before : Worker} {state after : OffRestore} {instant : Instant}
      {desktop : SharedDesktop} (earlier : WorkerRun start before)
      (ran : sharedDesktop.Runs (state.retry instant) before.desktop after desktop) :
      WorkerRun start { before with desktop := desktop }
  | moved {before : Worker} (windows : Hwnd → Option Window)
      (earlier : WorkerRun start before) :
      WorkerRun start { before with desktop := before.desktop.become windows }

theorem ensures_caches {program : EngineM α} {desktop : SharedDesktop}
    (off : program.Only OffCaches) :
    sharedDesktop.ensures program (fun _ after => after.caches = desktop.caches) desktop :=
  ensures_of_step (fun after : SharedDesktop => after.caches = desktop.caches) off
    (fun _ _ _ _ off same step => ((step_caches step).unchanged off).trans same) rfl

theorem ensures_keyed {program : EngineM α} {desktop : SharedDesktop}
    (off : program.Only OffCaches) (keyed : Keyed desktop.caches.snapshots) :
    sharedDesktop.ensures program (fun _ after => Keyed after.caches.snapshots) desktop :=
  ensures_mono (ensures_caches off) fun _ _ same => same ▸ keyed

theorem update_keyed {change : EngineCaches → EngineCaches} {desktop : SharedDesktop}
    (keeps : Keyed (change desktop.caches).snapshots) :
    sharedDesktop.ensures
      (do
        let caches ← ask .readCaches
        ask (.writeCaches (change caches)))
      (fun _ after => Keyed after.caches.snapshots) desktop := by
  simp only [ask, ensures_bind, ensures_ask]
  intro caches middle read _ after written
  obtain ⟨rfl, same⟩ := step_caches read
  have writes : after.caches = change desktop.caches := step_caches written
  rw [writes]
  exact keeps

theorem restorePending_keyed {pending : List RestoreSnapshot} {failures : Nat}
    {lastError : String} {desktop : SharedDesktop} (keyed : Keyed desktop.caches.snapshots) :
    sharedDesktop.ensures (restorePending pending failures lastError)
      (fun _ after => Keyed after.caches.snapshots) desktop := by
  induction pending generalizing failures lastError desktop with
  | nil => exact keyed
  | cons snap rest ih =>
      refine ensures_seq (ensures_keyed ((identityMatches_reads _).mono fun _ =>
        Reads.offCaches) keyed) fun same after keyed => ?_
      cases same with
      | false => exact ih keyed
      | true =>
          refine ensures_seq (ensures_keyed ((restoreSnapshot_calls snap lastError).mono
            fun _ => RestoreCall.offCaches) keyed) fun result later keyed => ?_
          cases restored : result.1 with
          | true =>
              simp only [restored, if_true]
              exact ih keyed
          | false =>
              simp only [restored]
              exact ensures_seq (update_keyed (keyed.insert snap)) fun _ _ keyed => ih keyed

theorem drainSnapshots_keyed {desktop : SharedDesktop} (keyed : Keyed desktop.caches.snapshots) :
    sharedDesktop.ensures drainSnapshots (fun _ after => Keyed after.caches.snapshots) desktop := by
  have listing : sharedDesktop.ensures (ask .iterateSnapshots)
      (fun _ after => Keyed after.caches.snapshots) desktop :=
    ensures_keyed (Program.only_ask.mpr (by simp [OffCaches])) keyed
  refine ensures_seq listing fun entries listed keyed => ?_
  refine ensures_seq (update_keyed ?_) fun _ _ keyed => keyed
  intro identity snap found
  cases found

theorem retry_keyed {state : OffRestore} {instant : Instant} {desktop : SharedDesktop}
    (keyed : Keyed desktop.caches.snapshots) :
    sharedDesktop.ensures (state.retry instant) (fun _ after => Keyed after.caches.snapshots)
      desktop := by
  have asking : ∀ (call : Call) state, OffCaches call → Keyed state.caches.snapshots →
      sharedDesktop.ensures (ask call) (fun _ after => Keyed after.caches.snapshots) state :=
    fun call state off keyed => ensures_keyed (Program.only_ask.mpr off) keyed
  refine ensures_seq (asking _ _ (by simp [OffCaches]) keyed) fun apply middle keyed => ?_
  cases apply with
  | false => exact keyed
  | true =>
      refine ensures_seq (asking _ _ (by simp [OffCaches]) keyed) fun caches read keyed => ?_
      split
      · exact ensures_seq (asking _ _ (by simp [OffCaches]) keyed) fun _ _ keyed => keyed
      · split
        · exact keyed
        · have draining : sharedDesktop.ensures drainRestoreAll
              (fun _ after => Keyed after.caches.snapshots) read := by
            refine ensures_seq (ensures_seq (drainSnapshots_keyed keyed)
              fun pending drained keyed => restorePending_keyed keyed) fun result left keyed => ?_
            exact ensures_seq (update_keyed keyed) fun _ _ keyed => keyed
          refine ensures_seq draining fun result drained keyed => ?_
          refine ensures_seq (asking _ _ (by simp [OffCaches]) keyed) fun _ noted keyed => ?_
          split <;> exact keyed

theorem WorkerRun.keyed [Unicode] {start worker : Worker} (fresh : start.desktop.caches = {})
    (run : WorkerRun start worker) : Keyed worker.desktop.caches.snapshots := by
  induction run with
  | start =>
      rw [fresh]
      intro identity snap found
      cases found
  | completed lastError earlier ran ih =>
      have begun : Preserved .any (.begin _) := .begin ih nofun
      exact (wp_runs (markedTick_preserved begun) ran).preserved.keyed
  | panicked message earlier stopped ih =>
      have begun : Preserved .any (.begin _) := .begin ih nofun
      exact (wp_observes (markedTick_preserved begun) begun stopped.observes).keyed
  | offRestore earlier ran ih => exact ensures_runs (retry_keyed ih) ran
  | moved windows earlier ih => exact ih

/-- At whatever Win32 call a tick panics, the guard reports it and the caches
still hold the original snapshot of every window that is due, unless the tick
has that snapshot in hand for a restore. -/
theorem panicking_tick_keeps_snapshots [Unicode] {start before : Worker} {seen : GuardState}
    {pids : List Pid} {settings : AppSettings} {rules : LayoutRules}
    (fresh : start.desktop.caches = {}) (run : WorkerRun start before)
    (stopped : (markedDesktop .looked).Stops panics (markedTick pids settings rules)
      (.begin before.desktop) seen) (message : String) :
    (guardedTick before seen (.error message)).1 = false ∧
      ∀ identity, seen.owed identity = true → seen.restored identity = false →
        seen.attempt ≠ some identity →
        ∃ snap, seen.original identity = some snap ∧
          (guardedTick before seen (.error message)).2.desktop.caches.snapshots.lookup identity =
            some snap := by
  have begun : Preserved .looked (.begin before.desktop) := .begin (run.keyed fresh) nofun
  have preserved := wp_observes (markedTick_preserved begun) begun stopped.observes
  exact ⟨rfl, fun identity owed pending apart =>
    preserved.stored nofun identity ⟨owed, pending⟩ apart⟩

def titledHandler (tops : List Hwnd) (title : String) (call : Call) (desktop : SharedDesktop) :
    call.Answer × SharedDesktop :=
  match call with
  | .enumWindows => (tops, (popupHandler false .enumWindows desktop).2)
  | .getWindowTextResult hwnd =>
      (.known title, (popupHandler false (.getWindowTextResult hwnd) desktop).2)
  | call => popupHandler false call desktop

theorem titledHandler_realizes (tops : List Hwnd) (title : String) (call : Call)
    (desktop : SharedDesktop) :
    sharedDesktop.step call desktop (titledHandler tops title call desktop).1
      (titledHandler tops title call desktop).2 := by
  cases call with
  | enumWindows => exact ⟨trivial, true, _, _, rfl, rfl⟩
  | getWindowTextResult hwnd => exact ⟨trivial, true, _, _, rfl, rfl⟩
  | _ => exact popupHandler_realizes false _ desktop

/-- The worker after a tick that finds these popups with this title. -/
def popupTicked (tops : List Hwnd) (title : String) (worker : Worker) : Worker :=
  (guardedTick worker
    (popupMarkedTick.exec (recordedBy (titledHandler tops title)) (.begin worker.desktop)).2
    (.ok "")).2

theorem popupTicked_run {tops : List Hwnd} {title : String} {start worker : Worker}
    (run : @WorkerRun asciiLowercase start worker)
    (allowed : popupMarkedTick.obeys (recordedBy (titledHandler tops title)) (allowsMarked .any)
      (.begin worker.desktop) = true) :
    @WorkerRun asciiLowercase start (popupTicked tops title worker) := by
  let _ := asciiLowercase
  have ran := runs_checked (recordedBy_realizes (titledHandler_realizes tops title)) allowed
  exact WorkerRun.completed "" run ran

def popupIdentity : WindowIdentity := { hwnd := 1, pid := 5, className := "EVA_Window" }

/-- A worker that finds two popups on its desktop. -/
def twoPopups : Worker where
  desktop :=
    { visiblePopup with
      windows := fun hwnd =>
        if hwnd = 1 ∨ hwnd = 2 then some { pid := 5, className := "EVA_Window", visible := true }
        else none }
  consecutivePanics := 0
  lastError := ""

/-- A Win32 call after the first popup has been hidden. -/
def afterHide : MarkedOp Call Mark → GuardState → Bool
  | .call call, state => call.win32 && state.owed popupIdentity
  | .mark _, _ => false

theorem afterHide_panics {op : MarkedOp Call Mark} {state : GuardState}
    (here : afterHide op state = true) : panics op := by
  cases op with
  | call call => exact (Bool.and_eq_true _ _ |>.mp here).1
  | mark what => cases here

/-- The worker after a tick that finds popups without advertisements. -/
def popupsFound : Worker := popupTicked [1, 2] "Friend" twoPopups

/-- A tick captures both, hides the first and panics in the check of the second. -/
def popupsPanic : Option GuardState :=
  popupMarkedTick.stopAt (recordedBy (titledHandler [1, 2] "Chrome Legacy Window")) afterHide
    (.begin popupsFound.desktop)

set_option maxRecDepth 8000 in
theorem popupPanic_keeps_snapshot :
    ∃ seen, seen.owed popupIdentity = true ∧ seen.restored popupIdentity = false ∧
      ∃ snap, seen.original popupIdentity = some snap ∧
        (guardedTick popupsFound seen (.error "")).2.desktop.caches.snapshots.lookup
          popupIdentity = some snap := by
  let _ := asciiLowercase
  have run : WorkerRun twoPopups popupsFound := popupTicked_run .start (by decide)
  have stops : popupsPanic.isSome = true := by decide
  obtain ⟨seen, stopped⟩ := Option.isSome_iff_exists.mp stops
  have facts : (popupsPanic.all fun seen =>
      seen.owed popupIdentity && !seen.restored popupIdentity && seen.attempt.isNone) =
        true := by decide
  rw [stopped] at facts
  simp only [Option.all_some, Bool.and_eq_true, Bool.not_eq_true', Option.isNone_iff_eq_none]
    at facts
  have allowed : popupMarkedTick.obeys (recordedBy (titledHandler [1, 2] "Chrome Legacy Window"))
      (allowsMarked .looked) (.begin popupsFound.desktop) = true := by decide
  have halted : (markedDesktop .looked).Stops panics popupMarkedTick (.begin popupsFound.desktop)
      seen :=
    stops_checked (recordedBy_realizes (titledHandler_realizes [1, 2] "Chrome Legacy Window"))
      allowed (fun _ _ => afterHide_panics) stopped
  have kept := (panicking_tick_keeps_snapshots rfl run halted "").2
  exact ⟨seen, facts.1.1, facts.1.2, kept popupIdentity facts.1.1 facts.1.2 (by simp [facts.2])⟩

def popupWorker : Worker :=
  { desktop := visiblePopup, consecutivePanics := 0, lastError := "" }

/-- One tick hides the popup, and the next one finds another title. -/
def popupRenamed : Worker :=
  popupTicked [1] "Friend" (popupTicked [1] "Chrome Legacy Window" popupWorker)

/-- A call to Windows while a restore holds the snapshot of its window. -/
def inAttempt : MarkedOp Call Mark → GuardState → Bool
  | .call call, state => call.win32 && state.attempt.isSome
  | .mark _, _ => false

theorem inAttempt_panics {op : MarkedOp Call Mark} {state : GuardState}
    (here : inAttempt op state = true) : panics op := by
  cases op with
  | call call => exact (Bool.and_eq_true _ _ |>.mp here).1
  | mark what => cases here

/-- The instant of a panic in such a restore, if the tick comes to one. -/
def popupPanic : Option GuardState :=
  popupMarkedTick.stopAt (recordedBy (titledHandler [1] "Friend")) inAttempt
    (.begin popupRenamed.desktop)

set_option maxRecDepth 8000 in
/-- The panic comes while the tick has the only snapshot of the popup in hand. -/
theorem popupPanic_loses_snapshot :
    popupWorker.desktop.caches = {} ∧ @WorkerRun asciiLowercase popupWorker popupRenamed ∧
      ∃ seen, (markedDesktop .any).Stops panics popupMarkedTick (.begin popupRenamed.desktop)
          seen ∧
        seen.owed popupIdentity = true ∧ seen.restored popupIdentity = false ∧
          (guardedTick popupRenamed seen (.error "")).2.desktop.caches.snapshots.lookup
            popupIdentity = none := by
  let _ := asciiLowercase
  have hidden : WorkerRun popupWorker (popupTicked [1] "Chrome Legacy Window" popupWorker) :=
    popupTicked_run .start (by decide)
  have run : WorkerRun popupWorker popupRenamed := popupTicked_run hidden (by decide)
  refine ⟨rfl, run, ?_⟩
  have stops : popupPanic.isSome = true := by decide
  obtain ⟨seen, stopped⟩ := Option.isSome_iff_exists.mp stops
  have facts : (popupPanic.all fun seen =>
      seen.owed popupIdentity && !seen.restored popupIdentity &&
        (seen.snapshots.lookup popupIdentity).isNone) = true := by decide
  rw [stopped] at facts
  simp only [Option.all_some, Bool.and_eq_true, Bool.not_eq_true', Option.isNone_iff_eq_none]
    at facts
  have allowed : popupMarkedTick.obeys (recordedBy (titledHandler [1] "Friend")) (allowsMarked .any)
      (.begin popupRenamed.desktop) = true := by decide
  exact ⟨seen, stops_checked (recordedBy_realizes (titledHandler_realizes [1] "Friend")) allowed
    (fun _ _ => inAttempt_panics) stopped, facts.1.1, facts.1.2, facts.2⟩

end LayoutAdblock.Engine
