import LayoutAdblock.Core.Graph
import LayoutAdblock.Core.Layout

namespace LayoutAdblock.Core

variable [Unicode]

/-- An empty host passes, and one whose text has a token of the rules does. Any other text
passes only where the rules do not insist on an empty one, and a text that could not be read
never does. -/
def popupHostTextMatches (rules : LayoutRules) (text : String) (textKnown : Bool) : Bool :=
  if !textKnown then false
  else
    let normalized := trim text
    if normalized = "" then true
    else
      let textLc := Unicode.toLowercase normalized
      if rules.popupHostTextContains.any (fun token =>
          token != "" && containsText textLc (Unicode.toLowercase token)) then true
      else !rules.popupHostRequireEmptyText

/-- The guard of a host, as the decision about its popup and the diagnostics state it. -/
def popupHostGuardStatus (rules : LayoutRules) (text : String) (textKnown : Bool) : PopupGuard :=
  if popupHostTextMatches rules text textKnown then .allow else .blocked

/-- The verdict on a window of a popup class below a host. A blocked guard leaves the signs
in place and takes the action away, so the diagnostics still show what was found. -/
def popupDismissDecision (guard : PopupGuard) (depth : Int) : AdDecision :=
  let signals := { AdSignals.blank with
    popupDirectClass := depth == 1
    popupDescendantClass := true
    popupMatchDepth := depth
    popupHostGuard := guard.asStr }
  if guard = .allow then AdDecision.dismissPopup signals else AdDecision.none signals

/-- A legacy signature that is met exactly is enough by itself; a mere mention of it has to
be confirmed. -/
def legacyHideDecision (kind : String) : AdDecision :=
  let signals := { AdSignals.blank with legacySignature := kind }
  if kind = "exact" then AdDecision.hide .strong signals
  else if kind = "substring" then AdDecision.hide .weak signals
  else AdDecision.none signals

/-- The verdict of the aggressive mode on a child of the main window. A banner that shows a
token is hidden at once, and so is one without where the rules allow it; a browser widget
that only shows a token has to be confirmed. -/
def aggressiveHideDecision (rules : LayoutRules) (className : String) (childRect : Option Rect)
    (parentRect : Rect) (hasAdToken : Bool) : AdDecision :=
  let isChromeWidget := isChromeWidgetClass rules className
  let isBottomBanner :=
    match childRect with
    | some rect => isChromeWidget && isBottomBannerCandidate rules rect parentRect
    | none => false
  let signals := { AdSignals.blank with
    subtreeAdToken := hasAdToken
    chromeWidgetBottomBanner := isBottomBanner }
  if isBottomBanner && hasAdToken then AdDecision.hide .strong signals
  else if isBottomBanner && rules.hideBottomBannerWithoutToken then
    AdDecision.hide .strong signals
  else if isChromeWidget && hasAdToken then AdDecision.hide .weak signals
  else AdDecision.none signals

/-- Closing cannot be undone, so even a sure sign of an empty child has to be confirmed. -/
def emptyEvaCloseDecision (rules : LayoutRules) (className windowText parentText : String)
    (hasCustomScroll hasAdSignal : Bool) : AdDecision :=
  let signals := { AdSignals.blank with
    emptyEvaChild := className == rules.evaChildClass && windowText == "" &&
      parentText != "" && !hasCustomScroll }
  if shouldCloseEmptyEvaChild rules className windowText parentText hasCustomScroll hasAdSignal
  then AdDecision.close .weak signals
  else AdDecision.none signals

/-- Some window of the subtree passes the test.  The four walks of the source differ only
in what they test.  Their depth limit is an `i32` that is decremented at each edge and
refuses windows below zero, so a limit of `maxDepth` leaves `maxDepth + 1` levels. -/
def subtreeAny (graph : WindowGraph) (test : WindowNode → Bool) : Nat → Hwnd → Bool
  | 0, _ => false
  | levels + 1, hwnd =>
      match graph.get hwnd with
      | none => false
      | some node => test node || (graph.children hwnd).any (subtreeAny graph test levels)

/-- The walk below a window that the searches share, with the depth counted from the window
itself. It stops at the first node that passes. -/
def subtreeWalk (graph : WindowGraph) (test : WindowNode → Bool) (hwnd : Hwnd)
    (maxDepth : Int) : Bool :=
  subtreeAny graph test (maxDepth + 1).toNat hwnd

/-- Whether the window or something below it shows an advertisement token in its title. -/
def subtreeContainsAdToken (graph : WindowGraph) (rules : LayoutRules) (hwnd : Hwnd)
    (maxDepth : Int) : Bool :=
  subtreeWalk graph (fun node => containsAnyAdToken rules.aggressiveAdTokensLc node.text)
    hwnd maxDepth

/-- Whether the window or something below it is of a class with that prefix. -/
def classNameStartsWith (graph : WindowGraph) (hwnd : Hwnd) (pattern : String)
    (maxDepth : Int) : Bool :=
  subtreeWalk graph (fun node => startsWith node.className pattern) hwnd maxDepth

/-- Whether the window or something below it has exactly that title. -/
def hasWindowText (graph : WindowGraph) (hwnd : Hwnd) (target : String) (maxDepth : Int) : Bool :=
  subtreeWalk graph (fun node => node.text == target) hwnd maxDepth

/-- Whether the window or something below it mentions a text, in any case. An empty text is
mentioned nowhere, so a rule that was left empty matches nothing. -/
def hasWindowTextContains (graph : WindowGraph) (hwnd : Hwnd) (target : String)
    (maxDepth : Int) : Bool :=
  let needle := Unicode.toLowercase target
  if needle = "" then false
  else
    subtreeWalk graph
      (fun node => node.text != "" && containsText (Unicode.toLowercase node.text) needle)
      hwnd maxDepth

/-- How the subtree shows the title of the legacy browser, down to a depth of eight. The
exact title is looked for first, since it decides more. -/
def legacySignatureKind (graph : WindowGraph) (rules : LayoutRules) (hwnd : Hwnd) : String :=
  if hasWindowText graph hwnd rules.chromeLegacyTitle 8 then "exact"
  else if rules.chromeLegacyTitleContains.any (fun token =>
      token != "" && hasWindowTextContains graph hwnd token 8) then "substring"
  else ""

/-- How `+= 1` moves a streak.  The source counts in an `i64` that wraps around in the
release profile, and a window that starts without a state needs 2^63 matched verdicts
to get there. -/
class Counting where
  next : Int → Int

@[reducible] def Counting.i64 : Counting where
  next streak := wrapI64 (streak + 1)

example : Counting.i64.next 9223372036854775807 = -9223372036854775808 := by decide

/-- A counter without an end, for what is said of runs from an empty map. -/
instance Counting.unbounded : Counting where
  next streak := streak + 1

omit [Unicode] in
@[simp] theorem next_unbounded (streak : Int) : Counting.next streak = streak + 1 := rfl

/-- The new counters, and whether the decision is confirmed with them. A strong decision is
confirmed at once, a weak one when its streak is long enough. -/
def updateCandidateState [Counting] (state : CandidateState) (decision : AdDecision)
    (weakSignalConfirmTicks : Int) : CandidateState × Bool :=
  let next : CandidateState :=
    if decision.matched then
      { matchStreak := Counting.next state.matchStreak, missStreak := 0 }
    else
      { matchStreak := 0, missStreak := Counting.next state.missStreak }
  (next, decision.matched &&
    (decision.decision == .strong || next.matchStreak ≥ max weakSignalConfirmTicks 1))

/-- The diagnostics call an action that waits for its confirmation a pending one. -/
def payloadAction (decision : AdDecision) (confirmed : Bool) : String :=
  if decision.matched && !confirmed then "pending_" ++ decision.action.asStr
  else decision.action.asStr

/-- The windows of a popup class below a host with their depths and classes. The evaluator
also takes those that are not visible, for they may be shown again. -/
def findPopupMatches (graph : WindowGraph) (rules : LayoutRules) (hostHwnd : Hwnd)
    (requireVisible : Bool) : List (Hwnd × Int × String) :=
  (graph.enumDescendants hostHwnd rules.popupSearchDepth).filterMap fun (hwnd, depth) =>
    match graph.get hwnd with
    | none => none
    | some node =>
        if requireVisible && !node.visible then none
        else if !rules.popupAdClasses.contains node.className then none
        else some (hwnd, depth, node.className)

/-- The title is one of those a main window has. -/
def isMainTitle (rules : LayoutRules) (text : String) : Bool :=
  text != "" && rules.mainWindowTitles.contains text

/-- A child that carries the main-view or lock-view signature, by its class and the
beginning of its title. -/
def isViewChild (rules : LayoutRules) (node : WindowNode) : Bool :=
  node.className == rules.evaChildClass &&
    (startsWith node.text rules.mainViewPrefix || startsWith node.text rules.lockViewPrefix)

/-- A child of the window is the main or the lock view, which no other window of KakaoTalk
has. -/
def hasMainViewSignature (graph : WindowGraph) (rules : LayoutRules) (parentHwnd : Hwnd) : Bool :=
  (graph.enumChildren parentHwnd).any fun hwnd => (graph.get hwnd).any (isViewChild rules)

/-- A window of the right class without a parent. Whether it is a main window depends on its
children, which are looked at only then. -/
def structuralMainWindowCandidate (rules : LayoutRules) (className : String)
    (win32Parent : Hwnd) : Bool :=
  rules.mainWindowClasses.contains className && win32Parent == 0

end LayoutAdblock.Core
