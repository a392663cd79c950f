import LayoutAdblock.Core.Evaluate.Ledger

namespace LayoutAdblock.Core

/-! # What an evaluation decides

The two traversals are described by three lists that a graph determines: the
visits they submit to the ledger, the main-view resizes, and the targets of the
popup dismissal.
-/

section Windows

theorem mem_collectTopLevel {graph : WindowGraph} {node : WindowNode} :
    node ∈ collectTopLevel graph ↔
      graph.get node.hwnd = some node ∧ node.structuralParent = none ∧
        node.pid ∈ graph.pids := by
  simp only [collectTopLevel, List.mem_filter, List.mem_filterMap, WindowGraph.mem_enumWindows,
    List.contains_iff_mem]
  constructor
  · rintro ⟨⟨hwnd, ⟨_, _, _⟩, found⟩, listed⟩
    have same := WindowGraph.get_hwnd found
    subst same
    simp_all
  · rintro ⟨found, top, listed⟩
    exact ⟨⟨node.hwnd, ⟨node, found, top⟩, found⟩, listed⟩

theorem mem_inspectMainWindows {graph : WindowGraph} {rules : LayoutRules}
    {payload : MainWindowPayload} :
    payload ∈ inspectMainWindows graph rules ↔
      ∃ node ∈ collectTopLevel graph,
        structuralMainWindowCandidate rules node.className node.win32Parent = true ∧
          mainWindowDebugPayload graph rules node = payload := by
  simp [inspectMainWindows, and_assoc]

theorem mem_confirmedMain {graph : WindowGraph} {rules : LayoutRules} {hwnd : Hwnd} :
    hwnd ∈ confirmedMain graph rules ↔
      ∃ node ∈ collectTopLevel graph, node.hwnd = hwnd ∧
        structuralMainWindowCandidate rules node.className node.win32Parent = true ∧
          hasMainViewSignature graph rules hwnd = true := by
  simp only [confirmedMain, List.mem_map, List.mem_filter, mem_inspectMainWindows]
  constructor
  · rintro ⟨_, ⟨⟨node, top, structural, rfl⟩, confirmed⟩, rfl⟩
    refine ⟨node, top, rfl, structural, ?_⟩
    simpa [mainWindowDebugPayload, structural] using confirmed
  · rintro ⟨node, top, rfl, structural, signature⟩
    exact ⟨_, ⟨⟨node, top, structural, rfl⟩,
      by simp [mainWindowDebugPayload, structural, signature]⟩, rfl⟩

/-- The handles reported as confirmed are exactly those of the payloads. -/
theorem confirmedMain_iff_payload {graph : WindowGraph} {rules : LayoutRules} {hwnd : Hwnd} :
    hwnd ∈ confirmedMain graph rules ↔
      ∃ payload ∈ inspectMainWindows graph rules,
        payload.hwnd = hwnd ∧ payload.confirmed = true := by
  simp only [confirmedMain, List.mem_map, List.mem_filter]
  constructor
  · rintro ⟨payload, ⟨listed, confirmed⟩, same⟩
    exact ⟨payload, listed, same, confirmed⟩
  · rintro ⟨payload, listed, same, confirmed⟩
    exact ⟨payload, ⟨listed, confirmed⟩, same⟩

theorem mem_candidateHandles [Unicode] {graph : WindowGraph} {rules : LayoutRules}
    {mainHandles : List Hwnd} {hwnd : Hwnd} :
    hwnd ∈ candidateHandles graph rules mainHandles ↔
      ∃ node ∈ collectTopLevel graph, node.hwnd = hwnd ∧
        node.className ∈ rules.adCandidateClasses ∧
        ((node.win32Parent ∈ mainHandles ∧ node.text = "") ∨
          (node.win32Parent ∉ mainHandles ∧ node.win32Parent = 0 ∧
            legacySignatureKind graph rules hwnd ≠ "")) := by
  simp only [candidateHandles, List.mem_filterMap]
  refine exists_congr fun node => and_congr_right fun _ => ?_
  by_cases classed : node.className ∈ rules.adCandidateClasses
  · by_cases owned : node.win32Parent ∈ mainHandles
    · by_cases blank : node.text = ""
      · simp [classed, owned, blank]
      · simp [classed, owned, blank]
    · by_cases root : node.win32Parent = 0
      · by_cases signed : legacySignatureKind graph rules node.hwnd = ""
        · have missing : ¬ (node.hwnd = hwnd ∧ legacySignatureKind graph rules hwnd ≠ "") := by
            rintro ⟨rfl, other⟩
            exact other signed
          simp [classed, root, signed] at missing ⊢
          rw [root] at owned
          simp [owned]
          exact missing
        · rw [root] at owned
          simp [classed, owned, root, signed]
          rintro rfl
          exact signed
      · simp [classed, owned, root]
  · simp [classed]

/-- The candidates among the windows with a node. -/
theorem candidate_node [Unicode] {graph : WindowGraph} {rules : LayoutRules}
    {mainHandles : List Hwnd} {node : WindowNode} (top : node ∈ collectTopLevel graph) :
    node.hwnd ∈ candidateHandles graph rules mainHandles ↔
      node.className ∈ rules.adCandidateClasses ∧
        ((node.win32Parent ∈ mainHandles ∧ node.text = "") ∨
          (node.win32Parent ∉ mainHandles ∧ node.win32Parent = 0 ∧
            legacySignatureKind graph rules node.hwnd ≠ "")) := by
  rw [mem_candidateHandles]
  constructor
  · rintro ⟨other, otherTop, same, rule⟩
    have found := (mem_collectTopLevel.mp otherTop).1
    rw [same] at found
    obtain rfl := Option.some.inj (found.symm.trans (mem_collectTopLevel.mp top).1)
    exact rule
  · intro rule
    exact ⟨node, top, rfl, rule⟩

end Windows

variable [Unicode]

/-- The visits of one child: the close verdict, then the aggressive one.
`tracksSignal` is the flag of the aggressive and legacy branches, the only
place where the preview and the applied traversal differ. -/
def childVisits (graph : WindowGraph) (settings : LayoutSettings) (rules : LayoutRules)
    (tracksSignal : Bool) (parentText : String) (hasAdSignal : Bool) (context : ChildContext) :
    List Visit :=
  (closeVisit graph rules parentText hasAdSignal context).toList ++
    (aggressiveVisit settings tracksSignal context).toList

/-- The child contexts of a main window, with its text and the ad signal. A main window that
is gone or has no rectangle has none. -/
def mainContexts (graph : WindowGraph) (settings : LayoutSettings) (rules : LayoutRules)
    (wnd : Hwnd) : Option (WindowNode × Rect × List ChildContext) :=
  (graph.get wnd).bind fun parent => parent.rect.map fun parentRect =>
    (parent, parentRect, childContexts graph settings rules wnd parentRect)

/-- The verdicts on the children of a main window in the order they are reached, whichever
pass reaches them. -/
def mainVisits (graph : WindowGraph) (settings : LayoutSettings) (rules : LayoutRules)
    (tracksSignal : Bool) (wnd : Hwnd) : List Visit :=
  match mainContexts graph settings rules wnd with
  | none => []
  | some (parent, _, contexts) =>
      contexts.flatMap (childVisits graph settings rules tracksSignal parent.text
        (contexts.any ChildContext.adSignal))

/-- All visits of an evaluation, in the order both traversals submit them: main windows with
their children, and then the candidates. -/
def ledgerVisits (graph : WindowGraph) (settings : LayoutSettings) (rules : LayoutRules)
    (tracksSignal : Bool) : List Visit :=
  (confirmedMain graph rules).flatMap (mainVisits graph settings rules tracksSignal) ++
    (candidateHandles graph rules (confirmedMain graph rules)).filterMap
      (legacyVisit graph rules tracksSignal)

/-- The position planned for a child, if there is one, as the log lists it. -/
def childResizes (rules : LayoutRules) (parentRect : Rect) (context : ChildContext) :
    List (List Int) :=
  (plannedViewResize rules context.windowText parentRect context.currentRect).toList.map
    fun (x, y, width, height) => [context.child, x, y, width, height]

/-- The positions planned for the views of a main window. -/
def mainResizes (graph : WindowGraph) (settings : LayoutSettings) (rules : LayoutRules)
    (wnd : Hwnd) : List (List Int) :=
  match mainContexts graph settings rules wnd with
  | none => []
  | some (_, parentRect, contexts) => contexts.flatMap (childResizes rules parentRect)

def viewResizes (graph : WindowGraph) (settings : LayoutSettings) (rules : LayoutRules) :
    List (List Int) :=
  (confirmedMain graph rules).flatMap (mainResizes graph settings rules)

def hideTargets (visits : List Visit) : List Hwnd :=
  (visits.filter fun visit => visit.decision.action == .hide).map Visit.hwnd

def closeTargets (visits : List Visit) : List Hwnd :=
  (visits.filter fun visit => visit.decision.action == .close).map Visit.hwnd

omit [Unicode] in
theorem hideTargets_append (first second : List Visit) :
    hideTargets (first ++ second) = hideTargets first ++ hideTargets second := by
  simp [hideTargets]

omit [Unicode] in
theorem closeTargets_append (first second : List Visit) :
    closeTargets (first ++ second) = closeTargets first ++ closeTargets second := by
  simp [closeTargets]

omit [Unicode] in
theorem closeVisit_eq_some {graph : WindowGraph} {rules : LayoutRules} {parentText : String}
    {hasAdSignal : Bool} {context : ChildContext} {visit : Visit} :
    closeVisit graph rules parentText hasAdSignal context = some visit ↔
      (context.className = rules.evaChildClass ∧ context.windowText = "" ∧ parentText ≠ "") ∧
        visit =
          { hwnd := context.child
            identity := context.identity
            decision := emptyEvaCloseDecision rules context.className context.windowText
              parentText (classNameStartsWith graph context.child rules.customScrollPrefix 8)
              hasAdSignal
            tracksSignal := true } := by
  unfold closeVisit
  split
  · rename_i shape
    simp [shape, eq_comm]
  · rename_i shape
    simp [shape]

omit [Unicode] in
theorem aggressiveVisit_eq_some {settings : LayoutSettings} {tracksSignal : Bool}
    {context : ChildContext} {visit : Visit} :
    aggressiveVisit settings tracksSignal context = some visit ↔
      (settings.aggressiveMode = true ∧ context.childRect.isSome = true) ∧
        visit =
          { hwnd := context.child
            identity := context.identity
            decision := context.aggressiveDecision
            tracksSignal := tracksSignal } := by
  unfold aggressiveVisit
  cases settings.aggressiveMode <;> cases context.childRect <;> simp [eq_comm]

omit [Unicode] in
theorem emptyEvaCloseDecision_action (rules : LayoutRules)
    (className windowText parentText : String) (hasCustomScroll hasAdSignal : Bool) :
    (emptyEvaCloseDecision rules className windowText parentText hasCustomScroll
        hasAdSignal).action =
      if (emptyEvaCloseDecision rules className windowText parentText hasCustomScroll
        hasAdSignal).matched then .close else .none := by
  unfold emptyEvaCloseDecision
  simp only
  split <;> rfl

theorem childAggressiveDecision_action (graph : WindowGraph) (rules : LayoutRules)
    (child : Hwnd) (className : String) (parentRect : Rect) (rect : Option Rect) :
    (childAggressiveDecision graph rules child className parentRect rect).action =
      if (childAggressiveDecision graph rules child className parentRect rect).matched
      then .hide else .none := by
  cases rect with
  | none => rfl
  | some rect =>
      unfold childAggressiveDecision aggressiveHideDecision
      simp only
      split_ifs <;> simp_all [AdDecision.hide, AdDecision.none, AdDecision.matched]

omit [Unicode] in
theorem legacyHideDecision_action (kind : String) :
    (legacyHideDecision kind).action =
      if (legacyHideDecision kind).matched then .hide else .none := by
  unfold legacyHideDecision
  simp only
  split_ifs <;> simp_all [AdDecision.hide, AdDecision.none, AdDecision.matched]

/-- The context of a child, read back from its node. -/
theorem childContext_eq_some {graph : WindowGraph} {settings : LayoutSettings}
    {rules : LayoutRules} {wnd : Hwnd} {parentRect : Rect} {child : Hwnd}
    {context : ChildContext}
    (built : childContext graph settings rules wnd parentRect child = some context) :
    ∃ node, graph.get child = some node ∧ node.win32Parent = wnd ∧
      context.child = child ∧ context.identity = node.identity ∧
      context.className = node.className ∧ context.windowText = node.text ∧
      context.childRect = (if settings.aggressiveMode then node.rect else none) ∧
      context.aggressiveDecision =
        childAggressiveDecision graph rules child node.className parentRect context.childRect ∧
      context.currentRect = node.rect ∧
      context.adSignal = ((if rules.closeEmptyEvaChildRequiresAdSignal
        then legacySignatureKind graph rules child else "") != "" ||
          context.aggressiveDecision.matched) := by
  unfold childContext at built
  cases found : graph.get child with
  | none => simp [found] at built
  | some node =>
      by_cases owned : node.win32Parent = wnd
      · simp only [found, owned, ne_eq, not_true_eq_false, if_false,
          Option.some.injEq] at built
        subst built
        exact ⟨node, rfl, owned, rfl, rfl, rfl, rfl, rfl, rfl, rfl, rfl⟩
      · simp [found, owned] at built

theorem mem_childContexts {graph : WindowGraph} {settings : LayoutSettings}
    {rules : LayoutRules} {wnd : Hwnd} {parentRect : Rect} {context : ChildContext}
    (member : context ∈ childContexts graph settings rules wnd parentRect) :
    context.child ∈ graph.children wnd ∧
      childContext graph settings rules wnd parentRect context.child = some context := by
  obtain ⟨child, listed, built⟩ := List.mem_filterMap.mp member
  obtain ⟨_, _, _, same, _⟩ := childContext_eq_some built
  subst same
  exact ⟨listed, built⟩

/-- The windows one host makes the popup phase retain: the host itself and every
ad window found below it, when its guard allows that. -/
def hostTargets (graph : WindowGraph) (rules : LayoutRules) (item : WindowNode) : List Hwnd :=
  if isPopupHost (confirmedMain graph rules) item = true ∧
      popupHostGuardStatus rules item.text item.textKnown = .allow then
    (findPopupMatches graph rules item.hwnd false).flatMap fun found => [item.hwnd, found.1]
  else []

/-- The hosts and popups that are to be dismissed, with repetitions, in the order they are
reached. -/
def popupTargets (graph : WindowGraph) (rules : LayoutRules) : List Hwnd :=
  (collectTopLevel graph).flatMap (hostTargets graph rules)

/-- The verdicts the popup phase stores for one host, in order. -/
def hostVerdicts (graph : WindowGraph) (rules : LayoutRules) (item : WindowNode) :
    List (WindowIdentity × AdDecision) :=
  if isPopupHost (confirmedMain graph rules) item = true then
    (findPopupMatches graph rules item.hwnd false).flatMap fun found =>
      (graph.get found.1).toList.map fun node =>
        (node.identity,
          popupDismissDecision (popupHostGuardStatus rules item.text item.textKnown) found.2.1)
  else []

/-- The verdicts the popups are stored under. They depend on the screen alone. -/
def popupVerdicts (graph : WindowGraph) (rules : LayoutRules) :
    List (WindowIdentity × AdDecision) :=
  (collectTopLevel graph).flatMap (hostVerdicts graph rules)

/-- Whether the graph shows a window as visible. -/
def shownIn (graph : WindowGraph) (hwnd : Hwnd) : Bool :=
  (graph.get hwnd).any WindowNode.visible

/-- The states after a list of verdicts that are each stored, whatever was recorded before. -/
def storeAll [Counting] (ticks : Int) (states : StateMap)
    (verdicts : List (WindowIdentity × AdDecision)) : StateMap :=
  verdicts.foldl (fun current verdict => (storeUpdate current verdict.1 verdict.2 ticks).1) states

omit [Unicode] in
theorem mem_findPopupMatches {graph : WindowGraph} {rules : LayoutRules} {host child : Hwnd}
    {depth : Int} {className : String} :
    (child, depth, className) ∈ findPopupMatches graph rules host false ↔
      (child, depth) ∈ graph.enumDescendants host rules.popupSearchDepth ∧
        ∃ node, graph.get child = some node ∧ className ∈ rules.popupAdClasses ∧
          node.className = className := by
  simp only [findPopupMatches, List.mem_filterMap, Prod.exists]
  constructor
  · rintro ⟨hwnd, level, listed, built⟩
    cases found : graph.get hwnd with
    | none => simp [found] at built
    | some node =>
        by_cases classed : node.className ∈ rules.popupAdClasses
        · simp [found, classed] at built
          obtain ⟨rfl, rfl, rfl⟩ := built
          exact ⟨listed, node, found, classed, rfl⟩
        · simp [found, classed] at built
  · rintro ⟨listed, node, found, classed, rfl⟩
    exact ⟨child, depth, listed, by simp [found, classed]⟩

theorem mem_popupTargets {graph : WindowGraph} {rules : LayoutRules} {hwnd : Hwnd} :
    hwnd ∈ popupTargets graph rules ↔
      ∃ item ∈ collectTopLevel graph, isPopupHost (confirmedMain graph rules) item = true ∧
        popupHostGuardStatus rules item.text item.textKnown = .allow ∧
          ∃ found ∈ findPopupMatches graph rules item.hwnd false,
            hwnd = item.hwnd ∨ hwnd = found.1 := by
  simp only [popupTargets, List.mem_flatMap]
  refine exists_congr fun item => and_congr_right fun _ => ?_
  unfold hostTargets
  by_cases host : isPopupHost (confirmedMain graph rules) item = true
  · by_cases allowed : popupHostGuardStatus rules item.text item.textKnown = .allow
    · simp [host, allowed]
    · simp [allowed]
  · simp [host]

/-- A child of a confirmed main window whose verdicts the first phase submits: the parent
has a rectangle, and the child names it as its `GetParent`. -/
structure MainChild (graph : WindowGraph) (rules : LayoutRules) (parent : WindowNode)
    (parentRect : Rect) (child : WindowNode) : Prop where
  confirmed : parent.hwnd ∈ confirmedMain graph rules
  parentFound : graph.get parent.hwnd = some parent
  parentRect : parent.rect = some parentRect
  listed : child.hwnd ∈ graph.children parent.hwnd
  found : graph.get child.hwnd = some child
  owned : child.win32Parent = parent.hwnd

/-- Whether some child of the main window arms the empty-child close. One sign is enough for
all its empty children. -/
def mainArmed (graph : WindowGraph) (settings : LayoutSettings) (rules : LayoutRules)
    (parent : WindowNode) (parentRect : Rect) : Bool :=
  (childContexts graph settings rules parent.hwnd parentRect).any ChildContext.adSignal

/-- The verdict on an empty child, spelled out from the nodes of the graph. -/
def closeVisitOf (graph : WindowGraph) (settings : LayoutSettings) (rules : LayoutRules)
    (parent : WindowNode) (parentRect : Rect) (child : WindowNode) : Visit where
  hwnd := child.hwnd
  identity := child.identity
  decision := emptyEvaCloseDecision rules child.className child.text parent.text
    (classNameStartsWith graph child.hwnd rules.customScrollPrefix 8)
    (mainArmed graph settings rules parent parentRect)
  tracksSignal := true

/-- The verdict of the aggressive mode on a child, spelled out from the nodes of the graph. -/
def aggressiveVisitOf (graph : WindowGraph) (rules : LayoutRules) (tracksSignal : Bool)
    (parentRect : Rect) (child : WindowNode) : Visit where
  hwnd := child.hwnd
  identity := child.identity
  decision := childAggressiveDecision graph rules child.hwnd child.className parentRect child.rect
  tracksSignal := tracksSignal

/-- The verdict on a legacy candidate, spelled out from its node. -/
def legacyVisitOf (graph : WindowGraph) (rules : LayoutRules) (tracksSignal : Bool)
    (node : WindowNode) : Visit where
  hwnd := node.hwnd
  identity := node.identity
  decision := legacyHideDecision (legacySignatureKind graph rules node.hwnd)
  tracksSignal := tracksSignal

theorem MainChild.context {graph : WindowGraph} {rules : LayoutRules} {parent child : WindowNode}
    {parentRect : Rect} (isChild : MainChild graph rules parent parentRect child)
    (settings : LayoutSettings) : ∃ context,
      childContext graph settings rules parent.hwnd parentRect child.hwnd = some context := by
  cases built : childContext graph settings rules parent.hwnd parentRect child.hwnd with
  | none => simp [childContext, isChild.found, isChild.owned] at built
  | some context => exact ⟨context, rfl⟩

/-- What comes of the contexts of the main windows comes of their children. -/
theorem mem_mainContexts {α : Type} {graph : WindowGraph} {settings : LayoutSettings}
    {rules : LayoutRules} {item : α}
    (items : WindowNode → Rect → List ChildContext → ChildContext → List α) :
    (∃ wnd ∈ confirmedMain graph rules,
      item ∈ match mainContexts graph settings rules wnd with
        | none => []
        | some (parent, parentRect, contexts) =>
            contexts.flatMap (items parent parentRect contexts)) ↔
      ∃ parent parentRect child, MainChild graph rules parent parentRect child ∧
        ∃ context,
          childContext graph settings rules parent.hwnd parentRect child.hwnd = some context ∧
          item ∈ items parent parentRect
            (childContexts graph settings rules parent.hwnd parentRect) context := by
  constructor
  · rintro ⟨wnd, confirmed, inMain⟩
    unfold mainContexts at inMain
    cases found : graph.get wnd with
    | none => simp [found] at inMain
    | some parent =>
        have same := WindowGraph.get_hwnd found
        subst same
        cases rect : parent.rect with
        | none => simp [found, rect] at inMain
        | some parentRect =>
            simp only [found, rect, Option.bind_some, Option.map_some, List.mem_flatMap] at inMain
            obtain ⟨context, member, inChild⟩ := inMain
            obtain ⟨listed, built⟩ := mem_childContexts member
            obtain ⟨child, childFound, owned, _⟩ := childContext_eq_some built
            have sameChild := WindowGraph.get_hwnd childFound
            rw [← sameChild] at listed built childFound
            exact ⟨parent, parentRect, child, ⟨confirmed, found, rect, listed, childFound, owned⟩,
              context, built, inChild⟩
  · rintro ⟨parent, parentRect, child, isChild, context, built, inChild⟩
    refine ⟨parent.hwnd, isChild.confirmed, ?_⟩
    simp only [mainContexts, isChild.parentFound, isChild.parentRect, Option.bind_some,
      Option.map_some, List.mem_flatMap]
    exact ⟨context, List.mem_filterMap.mpr ⟨child.hwnd, isChild.listed, built⟩, inChild⟩

/-- The planned main-view resizes, each with the main window and the child it
comes from. -/
theorem mem_viewResizes {graph : WindowGraph} {settings : LayoutSettings} {rules : LayoutRules}
    {entry : List Int} :
    entry ∈ viewResizes graph settings rules ↔
      ∃ parent child parentRect x y width height,
        parent.hwnd ∈ confirmedMain graph rules ∧ graph.get parent.hwnd = some parent ∧
        parent.rect = some parentRect ∧ child.hwnd ∈ graph.children parent.hwnd ∧
        graph.get child.hwnd = some child ∧ child.win32Parent = parent.hwnd ∧
        plannedViewResize rules child.text parentRect child.rect =
          some (x, y, width, height) ∧
        entry = [child.hwnd, x, y, width, height] := by
  simp only [viewResizes, List.mem_flatMap]
  refine (mem_mainContexts fun _ parentRect _ => childResizes rules parentRect).trans ?_
  constructor
  · rintro ⟨parent, parentRect, child, isChild, context, built, inChild⟩
    obtain ⟨node, sameFound, _, sameChild, _, _, text, _, _, current, _⟩ :=
      childContext_eq_some built
    obtain rfl : child = node := Option.some.inj (isChild.found.symm.trans sameFound)
    simp only [childResizes, List.mem_map, Option.mem_toList, text, current, sameChild] at inChild
    obtain ⟨⟨x, y, width, height⟩, planned, rfl⟩ := inChild
    exact ⟨parent, child, parentRect, x, y, width, height, isChild.confirmed, isChild.parentFound,
      isChild.parentRect, isChild.listed, isChild.found, isChild.owned, planned, rfl⟩
  · rintro ⟨parent, child, parentRect, x, y, width, height, confirmed, found, rect, listed,
      childFound, owned, planned, rfl⟩
    have isChild : MainChild graph rules parent parentRect child :=
      ⟨confirmed, found, rect, listed, childFound, owned⟩
    obtain ⟨context, built⟩ := isChild.context settings
    obtain ⟨node, sameFound, _, sameChild, _, _, text, _, _, current, _⟩ :=
      childContext_eq_some built
    obtain rfl : child = node := Option.some.inj (childFound.symm.trans sameFound)
    refine ⟨parent, parentRect, child, isChild, context, built, ?_⟩
    simp only [childResizes, List.mem_map, Option.mem_toList, text, current, sameChild]
    exact ⟨(x, y, width, height), planned, rfl⟩

/-- The visits of the main windows are those of their children. -/
theorem mem_mainVisits {graph : WindowGraph} {settings : LayoutSettings} {rules : LayoutRules}
    {tracksSignal : Bool} {visit : Visit} :
    (∃ wnd ∈ confirmedMain graph rules,
      visit ∈ mainVisits graph settings rules tracksSignal wnd) ↔
      ∃ parent parentRect child, MainChild graph rules parent parentRect child ∧
        ((child.className = rules.evaChildClass ∧ child.text = "" ∧ parent.text ≠ "" ∧
            visit = closeVisitOf graph settings rules parent parentRect child) ∨
          (settings.aggressiveMode = true ∧ child.rect.isSome = true ∧
            visit = aggressiveVisitOf graph rules tracksSignal parentRect child)) := by
  refine (mem_mainContexts fun parent _ contexts => childVisits graph settings rules tracksSignal
    parent.text (contexts.any ChildContext.adSignal)).trans ?_
  refine exists_congr fun parent => exists_congr fun parentRect => exists_congr fun child =>
    and_congr_right fun isChild => ?_
  obtain ⟨context, built⟩ := isChild.context settings
  obtain ⟨node, sameFound, _, sameChild, identity, className, text, childRect, decision, _, _⟩ :=
    childContext_eq_some built
  obtain rfl : child = node := Option.some.inj (isChild.found.symm.trans sameFound)
  simp only [built, Option.some.injEq, exists_eq_left', childVisits, List.mem_append,
    Option.mem_toList]
  refine or_congr ?_ ?_
  · rw [closeVisit_eq_some, className, text]
    simp only [closeVisitOf, mainArmed, sameChild, identity, and_assoc]
  · rw [childRect] at decision
    rw [aggressiveVisit_eq_some, childRect]
    by_cases aggressive : settings.aggressiveMode = true
    · simp only [aggressive, if_true, true_and] at decision ⊢
      simp only [aggressiveVisitOf, sameChild, identity, decision]
    · simp [aggressive]

/-- Every visit comes from one of the three rules. -/
theorem mem_ledgerVisits {graph : WindowGraph} {settings : LayoutSettings} {rules : LayoutRules}
    {tracksSignal : Bool} {visit : Visit} :
    visit ∈ ledgerVisits graph settings rules tracksSignal ↔
      (∃ parent parentRect child, MainChild graph rules parent parentRect child ∧
        ((child.className = rules.evaChildClass ∧ child.text = "" ∧ parent.text ≠ "" ∧
            visit = closeVisitOf graph settings rules parent parentRect child) ∨
          (settings.aggressiveMode = true ∧ child.rect.isSome = true ∧
            visit = aggressiveVisitOf graph rules tracksSignal parentRect child))) ∨
      ∃ node ∈ collectTopLevel graph,
        node.hwnd ∈ candidateHandles graph rules (confirmedMain graph rules) ∧
          visit = legacyVisitOf graph rules tracksSignal node := by
  simp only [ledgerVisits, List.mem_append, List.mem_flatMap, List.mem_filterMap]
  refine or_congr mem_mainVisits ?_
  constructor
  · rintro ⟨wnd, candidate, built⟩
    obtain ⟨node, top, rfl, _⟩ := mem_candidateHandles.mp candidate
    simp only [legacyVisit, (mem_collectTopLevel.mp top).1, Option.map_some,
      Option.some.injEq] at built
    exact ⟨node, top, candidate, built.symm⟩
  · rintro ⟨node, top, candidate, rfl⟩
    exact ⟨node.hwnd, candidate, by simp [legacyVisit, (mem_collectTopLevel.mp top).1,
      legacyVisitOf]⟩

theorem visit_identity_hwnd {graph : WindowGraph} {settings : LayoutSettings}
    {rules : LayoutRules} {tracksSignal : Bool} {visit : Visit}
    (member : visit ∈ ledgerVisits graph settings rules tracksSignal) :
    visit.identity.hwnd = visit.hwnd := by
  rcases mem_ledgerVisits.mp member with
    ⟨_, _, _, _, ⟨_, _, _, rfl⟩ | ⟨_, _, rfl⟩⟩ | ⟨_, _, _, rfl⟩ <;> rfl

/-- A visit asks for a hide or a close exactly when its decision matches. -/
theorem visit_action {graph : WindowGraph} {settings : LayoutSettings}
    {rules : LayoutRules} {tracksSignal : Bool} {visit : Visit}
    (member : visit ∈ ledgerVisits graph settings rules tracksSignal) :
    (visit.decision.matched = false ∧ visit.decision.action = .none) ∨
      (visit.decision.matched = true ∧
        (visit.decision.action = .hide ∨ visit.decision.action = .close)) := by
  have cases_of_action : ∀ {decision : AdDecision} {kind : ActionKind},
      decision.action = (if decision.matched then kind else .none) →
      (decision.matched = false ∧ decision.action = .none) ∨
        (decision.matched = true ∧ decision.action = kind) := by
    intro decision kind action
    cases hit : decision.matched <;> simp [action, hit]
  rcases mem_ledgerVisits.mp member with
    ⟨parent, parentRect, child, _, ⟨_, _, _, rfl⟩ | ⟨_, _, rfl⟩⟩ | ⟨node, _, _, rfl⟩
  · exact (cases_of_action (emptyEvaCloseDecision_action ..)).imp_right (And.imp_right Or.inr)
  · exact (cases_of_action (childAggressiveDecision_action ..)).imp_right (And.imp_right Or.inl)
  · exact (cases_of_action (legacyHideDecision_action _)).imp_right (And.imp_right Or.inl)

/-- The confirmed visits of the applied traversal. Hiding and closing is decided by them
alone. -/
def decidedVisits [Counting] (graph : WindowGraph) (settings : LayoutSettings)
    (rules : LayoutRules) (states : StateMap) : List Visit :=
  Ledger.confirmedVisits rules.weakSignalConfirmTicks (Ledger.opened states)
    (ledgerVisits graph settings rules false)

end LayoutAdblock.Core
