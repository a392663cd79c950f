import LayoutAdblock.Core.Evaluate.Inspect

namespace LayoutAdblock.Core

variable [Unicode] [Counting]

/-- What `apply_once` threads through its first two phases: the planned actions with their
counters, and the candidate states with the windows seen in this evaluation. -/
structure ApplyState where
  log : MutationLog
  ledger : Ledger

/-- Record a verdict, and act on it when it is confirmed. A verdict that is stored without
being confirmed changes the streak and nothing else. -/
def ApplyState.submit (state : ApplyState) (ticks : Int) (visit : Visit)
    (act : MutationLog → MutationLog) : ApplyState :=
  let recorded := state.ledger.record ticks visit
  { ledger := recorded.1
    log := if recorded.2.any Prod.snd then act state.log else state.log }

/-- The first thing a child is looked at for. It is closed once the verdict on it is
confirmed. -/
def applyEmptyEva (graph : WindowGraph) (rules : LayoutRules) (parentText : String)
    (hasAdSignal : Bool) (state : ApplyState) (context : ChildContext) : ApplyState :=
  match closeVisit graph rules parentText hasAdSignal context with
  | none => state
  | some visit =>
      state.submit rules.weakSignalConfirmTicks visit fun log => log.sendClose context.child

/-- A view is put into place whatever the verdicts on it and its neighbours, and no streak
is kept of it. -/
def applyResize (rules : LayoutRules) (parentRect : Rect) (state : ApplyState)
    (context : ChildContext) : ApplyState :=
  match plannedViewResize rules context.windowText parentRect context.currentRect with
  | none => state
  | some (x, y, width, height) =>
      { state with log := state.log.resize context.child x y width height }

/-- Hide a window, unless its confirmed decision asks for something else. -/
def hideIfAsked (decision : AdDecision) (hwnd : Hwnd) (log : MutationLog) : MutationLog :=
  if decision.action = .hide then log.hideCounted hwnd else log

/-- The last thing a child is looked at for, in the aggressive mode only. A verdict that
wants nothing hidden is stored all the same. -/
def applyAggressive (settings : LayoutSettings) (rules : LayoutRules) (state : ApplyState)
    (context : ChildContext) : ApplyState :=
  match aggressiveVisit settings false context with
  | none => state
  | some visit =>
      state.submit rules.weakSignalConfirmTicks visit
        (hideIfAsked visit.decision context.child)

/-- The three looks at a child in the order of the program. The order matters to the
streaks, where the first of them may keep the last from being stored. -/
def applyChild (graph : WindowGraph) (settings : LayoutSettings) (rules : LayoutRules)
    (parentText : String) (parentRect : Rect) (hasAdSignal : Bool) (state : ApplyState)
    (context : ChildContext) : ApplyState :=
  let afterClose := applyEmptyEva graph rules parentText hasAdSignal state context
  let afterResize := applyResize rules parentRect afterClose context
  applyAggressive settings rules afterResize context

/-- All children of a confirmed main window. They are read before any of them is acted on,
since a sign at one of them lets empty ones next to it be closed. -/
def applyMainWindow (graph : WindowGraph) (settings : LayoutSettings) (rules : LayoutRules)
    (state : ApplyState) (wnd : Hwnd) : ApplyState :=
  match graph.get wnd with
  | none => state
  | some parent =>
      if !graph.pids.contains parent.pid then state
      else
        match parent.rect with
        | none => state
        | some parentRect =>
            let contexts := childContexts graph settings rules wnd parentRect
            contexts.foldl
              (applyChild graph settings rules parent.text parentRect
                (contexts.any ChildContext.adSignal))
              state

/-- A window outside the main windows that may be the legacy advertisement. It is hidden,
never closed. -/
def applyCandidate (graph : WindowGraph) (rules : LayoutRules) (state : ApplyState)
    (wnd : Hwnd) : ApplyState :=
  match graph.get wnd with
  | none => state
  | some node =>
      if !graph.pids.contains node.pid then state
      else
        match legacyVisit graph rules false wnd with
        | none => state
        | some visit =>
            state.submit rules.weakSignalConfirmTicks visit (hideIfAsked visit.decision wnd)

/-- What the popup phase threads on: the planned actions, the candidate states, and the
windows handled so far. It stores without the ledger, and retains each window once. -/
structure PopupState where
  log : MutationLog
  states : StateMap
  handled : Finset Hwnd

/-- A window that was dealt with in this evaluation is not dealt with again, for instance a
host with several popups below it. -/
def PopupState.retainOnce (state : PopupState) (hwnd : Hwnd) (visible : Bool) : PopupState :=
  if hwnd ∈ state.handled then state
  else
    { state with
      log := state.log.retainPopup hwnd visible
      handled := insert hwnd state.handled }

/-- Store the popup verdict of a window that still has a node. No streak keeps it from being
acted on. -/
def PopupState.storeChild (state : PopupState) (graph : WindowGraph) (ticks : Int)
    (decision : AdDecision) (child : Hwnd) : PopupState :=
  match graph.get child with
  | none => state
  | some node =>
      { state with states := (storeUpdate state.states node.identity decision ticks).1 }

/-- One window of a popup class below a host. The verdict on it is stored in any case; where
the guard allows it, the host is dismissed first and then the window. -/
def applyPopupMatch (graph : WindowGraph) (rules : LayoutRules) (item : WindowNode)
    (guard : PopupGuard) (state : PopupState) : Hwnd × Int × String → PopupState
  | (child, depth, _) =>
      let stored := state.storeChild graph rules.weakSignalConfirmTicks
        (popupDismissDecision guard depth) child
      if guard ≠ .allow then stored
      else
        (stored.retainOnce item.hwnd item.visible).retainOnce child
          ((graph.get child).any WindowNode.visible)

/-- A top-level window that may host a popup, with everything below it. Main windows host
none. -/
def applyPopupHost (graph : WindowGraph) (rules : LayoutRules) (confirmedSet : List Hwnd)
    (state : PopupState) (item : WindowNode) : PopupState :=
  if isPopupHost confirmedSet item then
    (findPopupMatches graph rules item.hwnd false).foldl
      (applyPopupMatch graph rules item
        (popupHostGuardStatus rules item.text item.textKnown)) state
  else state

/-- The main windows and the legacy candidates: the phases that go through the
ledger. -/
def applyLedger (graph : WindowGraph) (settings : LayoutSettings) (rules : LayoutRules)
    (confirmed candidates : List Hwnd) (states : StateMap) : ApplyState :=
  let opened : ApplyState := { log := {}, ledger := Ledger.opened states }
  let afterMain := confirmed.foldl (applyMainWindow graph settings rules) opened
  candidates.foldl (applyCandidate graph rules) afterMain

/-- One pass over the screen: main windows, then legacy candidates, then popups. The popups
start from the states the others left, and store their verdicts whatever those recorded. -/
def applyOnce (graph : WindowGraph) (settings : LayoutSettings) (rules : LayoutRules)
    (confirmed candidates : List Hwnd) (states : StateMap) : MutationLog × StateMap :=
  let applied := applyLedger graph settings rules confirmed candidates states
  let opened : PopupState :=
    { log := applied.log, states := applied.ledger.states, handled := ∅ }
  let afterPopups :=
    (collectTopLevel graph).foldl (applyPopupHost graph rules confirmed) opened
  (afterPopups.log, afterPopups.states)

end LayoutAdblock.Core
