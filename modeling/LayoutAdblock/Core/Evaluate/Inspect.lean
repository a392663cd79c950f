import Mathlib.Data.Finset.Insert
import LayoutAdblock.Core.Signals
import LayoutAdblock.Core.Evaluate.Payloads

namespace LayoutAdblock.Core

variable [Unicode] [Counting]

/-- What the diagnostics say of a window that may be a main window. Only class, parent and
children decide; the title is reported and decides nothing. -/
def mainWindowDebugPayload (graph : WindowGraph) (rules : LayoutRules) (node : WindowNode) :
    MainWindowPayload :=
  let structuralCandidate :=
    structuralMainWindowCandidate rules node.className node.win32Parent
  let titleMatch := isMainTitle rules node.text
  let childSignature := structuralCandidate && hasMainViewSignature graph rules node.hwnd
  let confirmed := structuralCandidate && childSignature
  { hwnd := node.hwnd
    pid := node.pid
    className := node.className
    text := node.text
    structuralCandidate := structuralCandidate
    titleMatch := titleMatch
    childSignature := childSignature
    confirmed := confirmed
    confirmation :=
      if confirmed then
        if titleMatch then "title-and-child-signature" else "child-signature-fallback"
      else "rejected" }

/-- The top-level windows of KakaoTalk in the order of their handles. Windows of other
processes are never looked at. -/
def collectTopLevel (graph : WindowGraph) : List WindowNode :=
  (graph.enumWindows.filterMap graph.get).filter fun node => graph.pids.contains node.pid

/-- The payloads of every window that is built like a main window, confirmed or not, sorted
by handle. -/
def inspectMainWindows (graph : WindowGraph) (rules : LayoutRules) : List MainWindowPayload :=
  let payloads := ((collectTopLevel graph).filter fun node =>
      structuralMainWindowCandidate rules node.className node.win32Parent).map
    (mainWindowDebugPayload graph rules)
  payloads.insertionSort fun left right => left.hwnd ≤ right.hwnd

/-- The handles of the confirmed main windows, as `evaluate_inner` collects them. -/
def confirmedMain (graph : WindowGraph) (rules : LayoutRules) : List Hwnd :=
  ((inspectMainWindows graph rules).filter MainWindowPayload.confirmed).map
    MainWindowPayload.hwnd

/-- The windows outside the main windows that are worth a look. One that a main window owns
has to have no title; one without an owner has to show the legacy signature already. -/
def candidateHandles (graph : WindowGraph) (rules : LayoutRules) (mainHandles : List Hwnd) :
    List Hwnd :=
  (collectTopLevel graph).filterMap fun node =>
    if !rules.adCandidateClasses.contains node.className then none
    else if mainHandles.contains node.win32Parent then
      if node.text = "" then some node.hwnd else none
    else if node.win32Parent = 0 && legacySignatureKind graph rules node.hwnd != "" then
      some node.hwnd
    else none

/-- The candidate states and the windows that already have a verdict in the
evaluation under way. -/
structure Ledger where
  touched : Finset WindowIdentity
  states : StateMap

/-- No verdict has been recorded in this evaluation yet. -/
def Ledger.opened (states : StateMap) : Ledger where
  touched := ∅
  states := states

/-- A verdict moves the streak of its window and says whether it is confirmed by that. A
window that was never seen starts at zero. -/
def storeUpdate (states : StateMap) (identity : WindowIdentity) (decision : AdDecision)
    (ticks : Int) : StateMap × CandidateState × Bool :=
  let updated := updateCandidateState ((states identity).getD {}) decision ticks
  (states.insert identity updated.1, updated)

/-- A match always goes through; a tracked miss yields to a verdict already
recorded for the window in this evaluation. -/
def storeOnce (ledger : Ledger) (identity : WindowIdentity) (decision : AdDecision)
    (ticks : Int) (track : Bool) : Ledger × Option (CandidateState × Bool) :=
  if decision.matched then
    let stored := storeUpdate ledger.states identity decision ticks
    ({ touched := insert identity ledger.touched, states := stored.1 }, some stored.2)
  else if track && decide (identity ∉ ledger.touched) then
    let stored := storeUpdate ledger.states identity decision ticks
    ({ touched := insert identity ledger.touched, states := stored.1 }, some stored.2)
  else
    (ledger, none)

/-- One place where a traversal submits a verdict about a window.  The branches
differ in whether a miss with a relevant signal is tracked for a window that
has no state yet. -/
structure Visit where
  hwnd : Hwnd
  identity : WindowIdentity
  decision : AdDecision
  tracksSignal : Bool
deriving DecidableEq, Repr

/-- Whether a miss is worth storing. It is for a window that is known, so that its streak
ends, and in the diagnostics for one that shows any sign. -/
def Visit.tracked (visit : Visit) (states : StateMap) : Bool :=
  !visit.decision.matched && ((states visit.identity).isSome ||
    (visit.tracksSignal && visit.decision.signals.hasRelevantSignal))

/-- One verdict of the ledger phases. A second miss about a window that already has a
verdict this time is left out, so it cannot wipe the streak the first one recorded. -/
def Ledger.record (ledger : Ledger) (ticks : Int) (visit : Visit) :
    Ledger × Option (CandidateState × Bool) :=
  storeOnce ledger visit.identity visit.decision ticks (visit.tracked ledger.states)

/-- What the first loop over a main window's children collects, with the two
signals that arm the empty-child close. -/
structure ChildContext where
  child : Hwnd
  identity : WindowIdentity
  className : String
  windowText : String
  childRect : Option Rect
  aggressiveDecision : AdDecision
  currentRect : Option Rect
  adSignal : Bool
deriving DecidableEq, Repr

/-- Outside aggressive mode, and for a window without a rectangle, the decision
stays the blank one. -/
def childAggressiveDecision (graph : WindowGraph) (rules : LayoutRules) (child : Hwnd)
    (className : String) (parentRect : Rect) : Option Rect → AdDecision
  | none => AdDecision.none AdSignals.blank
  | some rect =>
      aggressiveHideDecision rules className (some rect) parentRect
        (subtreeContainsAdToken graph rules child 8)

/-- What is known of a child before any verdict on the main window is acted on. A window
whose Win32 parent is another one is no child, even if the tree lists it. -/
def childContext (graph : WindowGraph) (settings : LayoutSettings) (rules : LayoutRules)
    (wnd : Hwnd) (parentRect : Rect) (child : Hwnd) : Option ChildContext :=
  match graph.get child with
  | none => none
  | some node =>
      if node.win32Parent ≠ wnd then none
      else
        let childRect := if settings.aggressiveMode then node.rect else none
        let aggressiveDecision :=
          childAggressiveDecision graph rules child node.className parentRect childRect
        let legacyKind :=
          if rules.closeEmptyEvaChildRequiresAdSignal then legacySignatureKind graph rules child
          else ""
        some
          { child := child
            identity := node.identity
            className := node.className
            windowText := node.text
            childRect := childRect
            aggressiveDecision := aggressiveDecision
            currentRect := node.rect
            adSignal := legacyKind != "" || aggressiveDecision.matched }

/-- All children of a main window, read in the order of the screen. -/
def childContexts (graph : WindowGraph) (settings : LayoutSettings) (rules : LayoutRules)
    (wnd : Hwnd) (parentRect : Rect) : List ChildContext :=
  (graph.enumChildren wnd).filterMap (childContext graph settings rules wnd parentRect)

/-- The verdict on an empty child, where class and texts make it one. Without them nothing
is recorded, so a streak of such a verdict neither grows nor ends. -/
def closeVisit (graph : WindowGraph) (rules : LayoutRules) (parentText : String)
    (hasAdSignal : Bool) (context : ChildContext) : Option Visit :=
  if context.className = rules.evaChildClass ∧ context.windowText = "" ∧ parentText ≠ "" then
    some
      { hwnd := context.child
        identity := context.identity
        decision := emptyEvaCloseDecision rules context.className context.windowText parentText
          (classNameStartsWith graph context.child rules.customScrollPrefix 8) hasAdSignal
        tracksSignal := true }
  else none

/-- The verdict of the aggressive mode on a child. There is none while the mode is off or
for a window whose rectangle could not be read. -/
def aggressiveVisit (settings : LayoutSettings) (tracksSignal : Bool) (context : ChildContext) :
    Option Visit :=
  if !settings.aggressiveMode || context.childRect.isNone then none
  else
    some
      { hwnd := context.child
        identity := context.identity
        decision := context.aggressiveDecision
        tracksSignal := tracksSignal }

/-- The verdict on a window that may be the legacy advertisement, by what it shows below it. -/
def legacyVisit (graph : WindowGraph) (rules : LayoutRules) (tracksSignal : Bool) (wnd : Hwnd) :
    Option Visit :=
  (graph.get wnd).map fun node =>
    { hwnd := wnd
      identity := node.identity
      decision := legacyHideDecision (legacySignatureKind graph rules wnd)
      tracksSignal := tracksSignal }

/-- What the diagnostics say of one verdict, with the streaks as they are after it was
stored. -/
def candidatePayload (identity : WindowIdentity) (decision : AdDecision)
    (state : CandidateState) (confirmed : Bool) : CandidatePayload where
  hwnd := identity.hwnd
  pid := identity.pid
  className := identity.className
  signals := decision.signals
  decision := decision.decision.asStr
  action := payloadAction decision confirmed
  matchStreak := state.matchStreak
  missStreak := state.missStreak

/-- What the diagnostic pass carries along. Its ledger is one of its own, so that nothing it
records reaches the pass that acts. -/
structure PreviewState where
  payloads : List CandidatePayload
  ledger : Ledger

/-- Record a verdict and report it when it was stored. The streaks it reports are those
after it. -/
def PreviewState.submit (state : PreviewState) (ticks : Int) (visit : Visit) : PreviewState :=
  let recorded := state.ledger.record ticks visit
  { ledger := recorded.1
    payloads := state.payloads ++ recorded.2.toList.map fun stored =>
      candidatePayload visit.identity visit.decision stored.1 stored.2 }

def PreviewState.update (state : PreviewState) (ticks : Int) (identity : WindowIdentity)
    (decision : AdDecision) : PreviewState :=
  let stored := storeUpdate state.ledger.states identity decision ticks
  { ledger := { state.ledger with states := stored.1 }
    payloads := state.payloads ++
      [candidatePayload identity decision stored.2.1 stored.2.2] }

/-- The verdicts on a child, in the order in which the pass that acts reaches them. A resize
is no verdict and is not reported. -/
def inspectChild (graph : WindowGraph) (settings : LayoutSettings) (rules : LayoutRules)
    (parentText : String) (hasAdSignal : Bool) (state : PreviewState) (context : ChildContext) :
    PreviewState :=
  let afterClose :=
    match closeVisit graph rules parentText hasAdSignal context with
    | none => state
    | some visit => state.submit rules.weakSignalConfirmTicks visit
  match aggressiveVisit settings true context with
  | none => afterClose
  | some visit => afterClose.submit rules.weakSignalConfirmTicks visit

/-- All children of a confirmed main window. Unlike the pass that acts it does not ask again
whose process the window is of, which was settled when it was listed. -/
def inspectMainWindow (graph : WindowGraph) (settings : LayoutSettings) (rules : LayoutRules)
    (state : PreviewState) (wnd : Hwnd) : PreviewState :=
  match graph.get wnd with
  | none => state
  | some parent =>
      match parent.rect with
      | none => state
      | some parentRect =>
          let contexts := childContexts graph settings rules wnd parentRect
          contexts.foldl
            (inspectChild graph settings rules parent.text (contexts.any ChildContext.adSignal))
            state

/-- The verdict on one candidate outside the main windows. -/
def inspectLegacy (graph : WindowGraph) (rules : LayoutRules) (state : PreviewState)
    (wnd : Hwnd) : PreviewState :=
  match legacyVisit graph rules true wnd with
  | none => state
  | some visit => state.submit rules.weakSignalConfirmTicks visit

/-- One window of a popup class below a host. The host gets an entry of its own where it
would be dismissed, and only then. -/
def inspectPopupMatch (graph : WindowGraph) (rules : LayoutRules) (item : WindowNode)
    (guard : PopupGuard) (state : PreviewState) : Hwnd × Int × String → PreviewState
  | (child, depth, className) =>
      let identity : WindowIdentity :=
        { hwnd := child
          pid := ((graph.get child).map WindowNode.pid).getD 0
          className := className }
      let decision := popupDismissDecision guard depth
      let afterHost :=
        if guard = .allow then
          state.update rules.weakSignalConfirmTicks item.identity decision
        else state
      afterHost.update rules.weakSignalConfirmTicks identity decision

/-- The popup hosts of both traversals: top-level windows without a parent or
an owner that are not confirmed main windows. -/
def isPopupHost (confirmedSet : List Hwnd) (item : WindowNode) : Bool :=
  item.win32Parent == 0 && !confirmedSet.contains item.hwnd

/-- Every window of a popup class below a top-level window that is no main window. -/
def inspectPopupHost (graph : WindowGraph) (rules : LayoutRules) (confirmedSet : List Hwnd)
    (state : PreviewState) (item : WindowNode) : PreviewState :=
  if isPopupHost confirmedSet item then
    (findPopupMatches graph rules item.hwnd false).foldl
      (inspectPopupMatch graph rules item
        (popupHostGuardStatus rules item.text item.textKnown)) state
  else state

/-- The sort key of a payload: handle, action, decision. Payloads that agree in all three
keep the order they were found in. -/
def payloadLe (left right : CandidatePayload) : Prop :=
  left.hwnd < right.hwnd ∨ (left.hwnd = right.hwnd ∧
    (left.action < right.action ∨ (left.action = right.action ∧
      left.decision ≤ right.decision)))

instance : DecidableRel payloadLe := fun _ _ => inferInstanceAs (Decidable (_ ∨ _))

/-- All that the diagnostics list, sorted by handle, class and action. The states it starts
from are those of the evaluation, and it throws away its own. -/
def inspectCandidates (graph : WindowGraph) (settings : LayoutSettings) (rules : LayoutRules)
    (confirmed : List Hwnd) (candidates : List Hwnd) (states : StateMap) :
    List CandidatePayload :=
  let opened : PreviewState := { payloads := [], ledger := Ledger.opened states }
  let afterMain := confirmed.foldl (inspectMainWindow graph settings rules) opened
  let afterLegacy := candidates.foldl (inspectLegacy graph rules) afterMain
  let afterPopups :=
    (collectTopLevel graph).foldl (inspectPopupHost graph rules confirmed) afterLegacy
  afterPopups.payloads.insertionSort payloadLe

end LayoutAdblock.Core
