import LayoutAdblock.Core.Model
import LayoutAdblock.Data.UniqueSorted

namespace LayoutAdblock.Core

/-- What the diagnostics say of a window that is built like a main window, with each of the
signs that were looked for. -/
structure MainWindowPayload where
  hwnd : Hwnd
  pid : Pid
  className : String
  text : String
  structuralCandidate : Bool
  titleMatch : Bool
  childSignature : Bool
  confirmed : Bool
  confirmation : String
deriving DecidableEq, Repr

/-- `AdSignalsPayload::from` copies every field, so the signals stand here as
they are. -/
structure CandidatePayload where
  hwnd : Hwnd
  pid : Pid
  className : String
  signals : AdSignals
  decision : String
  action : String
  matchStreak : Int
  missStreak : Int
deriving DecidableEq, Repr

/-- An entry of `setPos` is `[hwnd, x, y, width, height]`. -/
structure ActionLog where
  hide : List Hwnd := []
  «show» : List Hwnd := []
  close : List Hwnd := []
  setPos : List (List Int) := []
deriving DecidableEq, Repr

/-- The counts of one evaluation: the main windows that were found, and what was asked for,
whether or not it has an effect. -/
structure EngineStatePayload where
  mainWindowCount : Int := 0
  candidateMainWindowCount : Int := 0
  hiddenWindows : Int := 0
  closedWindows : Int := 0
  resizedWindows : Int := 0
  popupCloseRequests : Int := 0
  popupHideFallbacks : Int := 0
  popupZeroSizeFallbacks : Int := 0
deriving DecidableEq, Repr

/-- Everything one evaluation returns. The worker acts by the actions and publishes the
counts, the rest is for a reader. -/
structure Evaluation where
  mainWindows : List MainWindowPayload := []
  candidates : List CandidatePayload := []
  actions : ActionLog := {}
  state : EngineStatePayload := {}
deriving DecidableEq, Repr

/-- The windows with an entry of width and height zero, which is how a popup is kept out of
sight. -/
def ActionLog.zeroSized (actions : ActionLog) (hwnd : Hwnd) : Prop :=
  ∃ x y, [hwnd, x, y, 0, 0] ∈ actions.setPos

/-- What an evaluation wants done, in the order in which it was decided, and the counts of
it. Popups have counts of their own, so that those of the other windows stay about them. -/
structure MutationLog where
  hide : List Hwnd := []
  «show» : List Hwnd := []
  close : List Hwnd := []
  setPos : List (List Int) := []
  hidden : Int := 0
  closed : Int := 0
  resized : Int := 0
  popupCloseRequests : Int := 0
  popupHideFallbacks : Int := 0
  popupZeroSizeFallbacks : Int := 0
deriving DecidableEq, Repr

namespace MutationLog

/-- The window is listed without being counted; who calls it counts by what it hides for. -/
def hideWindow (log : MutationLog) (hwnd : Hwnd) : MutationLog :=
  { log with hide := log.hide ++ [hwnd] }

/-- A position is a list of five numbers, as the dumps write it. -/
def pushPos (log : MutationLog) (hwnd : Hwnd) (x y width height : Int) : MutationLog :=
  { log with setPos := log.setPos ++ [[hwnd, x, y, width, height]] }

/-- Only empty children are counted as closed; popups have a count of their own. -/
def sendClose (log : MutationLog) (hwnd : Hwnd) : MutationLog :=
  { log with close := log.close ++ [hwnd], closed := log.closed + 1 }

/-- A popup is asked to close, which it need not do. -/
def sendPopupClose (log : MutationLog) (hwnd : Hwnd) : MutationLog :=
  { log with close := log.close ++ [hwnd], popupCloseRequests := log.popupCloseRequests + 1 }

/-- A hide together with the counter its branches advance. -/
def hideCounted (log : MutationLog) (hwnd : Hwnd) : MutationLog :=
  { log.hideWindow hwnd with hidden := log.hidden + 1 }

/-- A main-view resize together with its counter. -/
def resize (log : MutationLog) (hwnd : Hwnd) (x y width height : Int) : MutationLog :=
  { log.pushPos hwnd x y width height with resized := log.resized + 1 }

/-- A popup that is out of sight is kept there, hidden and without a size, and is not asked
to close. -/
def keepHiddenPopup (log : MutationLog) (hwnd : Hwnd) : MutationLog :=
  (log.hideWindow hwnd).pushPos hwnd 0 0 0 0

/-- A currently visible popup ad: request `WM_CLOSE`, then plan the hide and
zero-size fallbacks. -/
def dismissPopup (log : MutationLog) (hwnd : Hwnd) : MutationLog :=
  let planned := ((log.sendPopupClose hwnd).hideWindow hwnd).pushPos hwnd 0 0 0 0
  { planned with
    popupHideFallbacks := planned.popupHideFallbacks + 1
    popupZeroSizeFallbacks := planned.popupZeroSizeFallbacks + 1
    hidden := planned.hidden + 1 }

/-- A visible popup is dismissed, one that is not visible stays away. -/
def retainPopup (log : MutationLog) (hwnd : Hwnd) (visible : Bool) : MutationLog :=
  if visible then log.dismissPopup hwnd else log.keepHiddenPopup hwnd

@[simp] theorem sendClose_hide (log : MutationLog) (hwnd : Hwnd) :
    (log.sendClose hwnd).hide = log.hide := rfl
@[simp] theorem sendClose_close (log : MutationLog) (hwnd : Hwnd) :
    (log.sendClose hwnd).close = log.close ++ [hwnd] := rfl
@[simp] theorem sendClose_setPos (log : MutationLog) (hwnd : Hwnd) :
    (log.sendClose hwnd).setPos = log.setPos := rfl
@[simp] theorem hideCounted_hide (log : MutationLog) (hwnd : Hwnd) :
    (log.hideCounted hwnd).hide = log.hide ++ [hwnd] := rfl
@[simp] theorem hideCounted_close (log : MutationLog) (hwnd : Hwnd) :
    (log.hideCounted hwnd).close = log.close := rfl
@[simp] theorem hideCounted_setPos (log : MutationLog) (hwnd : Hwnd) :
    (log.hideCounted hwnd).setPos = log.setPos := rfl
@[simp] theorem resize_hide (log : MutationLog) (hwnd : Hwnd) (x y width height : Int) :
    (log.resize hwnd x y width height).hide = log.hide := rfl
@[simp] theorem resize_close (log : MutationLog) (hwnd : Hwnd) (x y width height : Int) :
    (log.resize hwnd x y width height).close = log.close := rfl
@[simp] theorem resize_setPos (log : MutationLog) (hwnd : Hwnd) (x y width height : Int) :
    (log.resize hwnd x y width height).setPos =
      log.setPos ++ [[hwnd, x, y, width, height]] := rfl

@[simp] theorem resize_show (log : MutationLog) (hwnd : Hwnd) (x y width height : Int) :
    (log.resize hwnd x y width height).«show» = log.«show» := rfl

@[simp] theorem retainPopup_hide (log : MutationLog) (hwnd : Hwnd) (visible : Bool) :
    (log.retainPopup hwnd visible).hide = log.hide ++ [hwnd] := by
  cases visible <;> rfl

@[simp] theorem retainPopup_close (log : MutationLog) (hwnd : Hwnd) (visible : Bool) :
    (log.retainPopup hwnd visible).close = log.close ++ (if visible then [hwnd] else []) := by
  cases visible
  · simp [retainPopup, keepHiddenPopup, hideWindow, pushPos]
  · rfl

@[simp] theorem retainPopup_setPos (log : MutationLog) (hwnd : Hwnd) (visible : Bool) :
    (log.retainPopup hwnd visible).setPos = log.setPos ++ [[hwnd, 0, 0, 0, 0]] := by
  cases visible <;> rfl

end MutationLog

end LayoutAdblock.Core
