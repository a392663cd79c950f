import LayoutAdblock.Engine.WholeTick

namespace LayoutAdblock.Engine

open LayoutAdblock.Core Interaction Environment
open GuardState

/-! # Windows that the engine hides stay covered

The engine runs ticks, restores of windows that are not matched any more and
restores while it is off, in any order, and KakaoTalk moves at any moment.
-/

section Engine

variable [Unicode] {rule : HideRule} {start finish before : SharedDesktop}

/-- What has happened since the start.  The rule says which hides of visible
windows the steps may make; a restore while the engine is off makes none. -/
inductive EngineRun (rule : HideRule) (start : SharedDesktop) : SharedDesktop → Prop where
  | start : EngineRun rule start start
  | tick {before : SharedDesktop} {after : GuardState} {pids : List Pid} {settings : AppSettings}
      {rules : LayoutRules} {evaluation : Evaluation} (earlier : EngineRun rule start before)
      (ran : (markedDesktop rule).Runs (markedTick pids settings rules) (.begin before) evaluation
        after) :
      EngineRun rule start after.desktop
  | restoreStaleHidden {before : SharedDesktop} {after : GuardState}
      {matched : WindowIdentity → Bool} {result : Nat × String}
      (earlier : EngineRun rule start before)
      (ran : (markedDesktop rule).Runs (markedStaleHidden matched) (.begin before) result after) :
      EngineRun rule start after.desktop
  | offRestore {before after : SharedDesktop} {state next : OffRestore} {instant : Instant}
      (earlier : EngineRun rule start before)
      (ran : sharedDesktop.Runs (state.retry instant) before next after) :
      EngineRun rule start after
  | moved {before : SharedDesktop} (windows : Hwnd → Option Window)
      (earlier : EngineRun rule start before) : EngineRun rule start (before.become windows)

/-- Under no condition every run of a tick is a step. -/
theorem EngineRun.of_tick {after : SharedDesktop} {pids : List Pid} {settings : AppSettings}
    {rules : LayoutRules} {evaluation : Evaluation} (earlier : EngineRun .any start before)
    (ran : sharedDesktop.Runs (Engine.tick pids settings rules) before evaluation after) :
    EngineRun .any start after := by
  rw [← erase_markedTick] at ran
  have recorded : ∃ last, (markedDesktop .any).Runs (markedTick pids settings rules)
      (.begin before) evaluation last ∧ last.desktop = after := runs_recorded ran
  obtain ⟨last, recorded, rfl⟩ := recorded
  exact .tick earlier recorded

theorem EngineRun.of_restoreStaleHidden {after : SharedDesktop}
    {matched : WindowIdentity → Bool} {result : Nat × String}
    (earlier : EngineRun .any start before)
    (ran : sharedDesktop.Runs (Engine.restoreStaleHidden matched) before result after) :
    EngineRun .any start after := by
  rw [← erase_markedStaleHidden] at ran
  have recorded : ∃ last, (markedDesktop .any).Runs (markedStaleHidden matched) (.begin before)
      result last ∧ last.desktop = after := runs_recorded ran
  obtain ⟨last, recorded, rfl⟩ := recorded
  exact .restoreStaleHidden earlier recorded

theorem EngineRun.holds (fresh : start.Fresh) (run : EngineRun .seen start finish) :
    Holds [] finish := by
  induction run with
  | start => exact fresh.holds
  | tick earlier ran ih => exact (wp_runs (markedTick_preserved ih.begun) ran).holds
  | restoreStaleHidden earlier ran ih =>
      have idle : Idle .seen (.begin _) := ⟨ih.begun, rfl⟩
      exact (wp_runs (markedStaleHidden_idle idle) ran).holds
  | offRestore earlier ran ih =>
      have held := ensures_runs (retry_holds ih) ran
      exact held
  | moved windows earlier ih => exact ih.become windows

/-- When every window that a tick hides while it is visible had a snapshot of a
visible window, or else is seen to be visible by an orderly look of the capture
pass, every window the engine hid and has not shown again has such a snapshot
after every step. -/
theorem hidden_windows_covered (fresh : start.Fresh) (run : EngineRun .seen start finish) :
    finish.Covered :=
  (run.holds fresh).covers

end Engine

/-- A tick over the processes of that screen, with the default rules. -/
def popupTick : EngineM Evaluation :=
  letI := asciiLowercase
  tick [5] { cacheCleanupIntervalMs := 1000 } LayoutRules.default

/-- The first tick finds the popup visible and hides it. -/
def visiblePopupHidden : GuardState :=
  (popupMarkedTick.exec (recordedBy (popupHandler false)) (.begin visiblePopup)).2

set_option maxRecDepth 8000 in
theorem visiblePopup_covered :
    visiblePopupHidden.desktop.hidden 1 = true ∧ visiblePopupHidden.desktop.Covered := by
  let _ := asciiLowercase
  have allowed : popupMarkedTick.obeys (recordedBy (popupHandler false)) (allowsMarked .seen)
      (.begin visiblePopup) = true := by decide
  have ran := runs_checked (recordedBy_realizes (popupHandler_realizes false)) allowed
  have run : EngineRun .seen visiblePopup visiblePopupHidden.desktop := .tick .start ran
  exact ⟨by decide, hidden_windows_covered ⟨rfl, fun _ => rfl⟩ run⟩

/-- The first tick finds the popup invisible, and KakaoTalk shows it then. -/
def popupShown : SharedDesktop := (popupTick.exec (popupHandler true) popupDesktop).2

def popupHidden : SharedDesktop := (popupTick.exec (popupHandler false) popupShown).2

set_option maxRecDepth 4000 in
/-- The snapshot taken while the window was invisible is kept, so nothing will
show the window that the second tick hides. -/
theorem popupHidden_not_covered :
    popupDesktop.Fresh ∧ @EngineRun asciiLowercase .any popupDesktop popupHidden ∧
      ¬ popupHidden.Covered := by
  let _ := asciiLowercase
  refine ⟨⟨rfl, fun _ => rfl⟩, ?_, ?_⟩
  · have first := runs_exec (popupHandler_realizes true) popupTick popupDesktop
    have second := runs_exec (popupHandler_realizes false) popupTick popupShown
    exact EngineRun.of_tick (EngineRun.of_tick .start first) second
  · intro covered
    have hidden : popupHidden.HiddenAs { hwnd := 1, pid := 5, className := "EVA_Window" } :=
      ⟨by decide, _, rfl, by decide, by decide⟩
    obtain ⟨snap, found, shows⟩ := covered _ hidden
    have invisible : ((popupHidden.caches.snapshots.lookup
        { hwnd := 1, pid := 5, className := "EVA_Window" }).all
          fun snap => !snap.wasVisible) = true := by decide
    rw [found] at invisible
    simp [shows] at invisible

end LayoutAdblock.Engine
