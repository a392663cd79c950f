import LayoutAdblock.Core.Evaluate.Visits
import LayoutAdblock.Data.Related

namespace LayoutAdblock.Core

open Data

/-! # Graphs that agree on a region

An evaluation starts at the top-level windows of the known processes and only
follows children lists from there.  Two graphs that agree on a region which
contains these windows, and is closed under children lists, are told apart by
nothing else; so far the order of the children may differ as well.
-/

/-- Two nodes in which an evaluation reads the same. Their structural parents and their
owners may differ. -/
structure WindowNode.Alike (first second : WindowNode) : Prop where
  hwnd : second.hwnd = first.hwnd
  pid : second.pid = first.pid
  className : second.className = first.className
  text : second.text = first.text
  textKnown : second.textKnown = first.textKnown
  win32Parent : second.win32Parent = first.win32Parent
  rect : second.rect = first.rect
  visible : second.visible = first.visible

namespace WindowNode.Alike

variable {first second : WindowNode}

theorem refl (node : WindowNode) : node.Alike node := by
  constructor <;> rfl

theorem identity (alike : first.Alike second) : second.identity = first.identity := by
  simp only [WindowNode.identity, alike.hwnd, alike.pid, alike.className]

end WindowNode.Alike

/-- The agreement of two graphs on a region that is closed under children: the same
processes, the same top-level windows, all of them inside, and nodes that an evaluation
reads alike. The children of a window may stand in another order. -/
structure WindowGraph.Agree (region : Hwnd → Prop) (first second : WindowGraph) : Prop where
  pids : second.pids = first.pids
  children : ∀ {parent}, region parent → (second.children parent).Perm (first.children parent)
  closed : ∀ {parent child}, region parent → child ∈ first.children parent → region child
  node : ∀ {hwnd}, region hwnd →
    (first.get hwnd = none ∧ second.get hwnd = none) ∨
      ∃ node other, first.get hwnd = some node ∧ second.get hwnd = some other ∧ node.Alike other
  tops : List.Forall₂ (fun node other => node.Alike other ∧ region node.hwnd)
    (collectTopLevel first) (collectTopLevel second)

variable [Unicode] {region : Hwnd → Prop} {first second : WindowGraph} {rules : LayoutRules}
  {settings : LayoutSettings} {hwnd : Hwnd}

omit [Unicode] in
theorem subtreeAny_agree (agree : first.Agree region second) {test : WindowNode → Bool}
    (same : ∀ {node other : WindowNode}, node.Alike other → test other = test node)
    (levels : Nat) (inside : region hwnd) :
    subtreeAny second test levels hwnd = subtreeAny first test levels hwnd := by
  induction levels generalizing hwnd with
  | zero => rfl
  | succ levels ih =>
      cases agree.node inside with
      | inl missing => simp only [subtreeAny, missing.1, missing.2]
      | inr both =>
          obtain ⟨node, other, found, also, alike⟩ := both
          simp only [subtreeAny, found, also, same alike]
          congr 1
          exact any_of_perm (agree.children inside) fun child listed =>
            ih (agree.closed inside listed)

omit [Unicode] in
theorem subtreeWalk_agree (agree : first.Agree region second) {test : WindowNode → Bool}
    (same : ∀ {node other : WindowNode}, node.Alike other → test other = test node)
    (inside : region hwnd) (maxDepth : Int) :
    subtreeWalk second test hwnd maxDepth = subtreeWalk first test hwnd maxDepth :=
  subtreeAny_agree agree same _ inside

theorem subtreeContainsAdToken_agree (agree : first.Agree region second) (inside : region hwnd)
    (maxDepth : Int) :
    subtreeContainsAdToken second rules hwnd maxDepth =
      subtreeContainsAdToken first rules hwnd maxDepth :=
  subtreeWalk_agree agree (fun alike => by rw [alike.text]) inside maxDepth

omit [Unicode] in
theorem classNameStartsWith_agree (agree : first.Agree region second) (inside : region hwnd)
    (pattern : String) (maxDepth : Int) :
    classNameStartsWith second hwnd pattern maxDepth =
      classNameStartsWith first hwnd pattern maxDepth :=
  subtreeWalk_agree agree (fun alike => by rw [alike.className]) inside maxDepth

theorem legacySignatureKind_agree (agree : first.Agree region second) (inside : region hwnd) :
    legacySignatureKind second rules hwnd = legacySignatureKind first rules hwnd := by
  have titled : ∀ target, hasWindowText second hwnd target 8 = hasWindowText first hwnd target 8 :=
    fun target => subtreeWalk_agree agree (fun alike => by rw [alike.text]) inside 8
  have contained : ∀ target,
      hasWindowTextContains second hwnd target 8 = hasWindowTextContains first hwnd target 8 := by
    intro target
    simp only [hasWindowTextContains]
    split
    · rfl
    · exact subtreeWalk_agree agree (fun alike => by rw [alike.text]) inside 8
  simp only [legacySignatureKind, titled, contained]

omit [Unicode] in
theorem hasMainViewSignature_agree (agree : first.Agree region second) (inside : region hwnd) :
    hasMainViewSignature second rules hwnd = hasMainViewSignature first rules hwnd := by
  refine any_of_perm (agree.children inside) fun child listed => ?_
  cases agree.node (agree.closed inside listed) with
  | inl missing => rw [missing.1, missing.2]
  | inr both =>
      obtain ⟨node, other, found, also, alike⟩ := both
      simp only [found, also, Option.any_some, isViewChild, alike.className, alike.text]

omit [Unicode] in
theorem mainWindowDebugPayload_agree (agree : first.Agree region second) {node other : WindowNode}
    (alike : node.Alike other) (inside : region node.hwnd) :
    mainWindowDebugPayload second rules other =
      mainWindowDebugPayload first rules node := by
  simp only [mainWindowDebugPayload, alike.hwnd, alike.pid, alike.className, alike.text,
    alike.win32Parent, hasMainViewSignature_agree agree inside]

omit [Unicode] in
theorem inspectMainWindows_agree (agree : first.Agree region second) :
    inspectMainWindows second rules = inspectMainWindows first rules := by
  have payloads : ((collectTopLevel second).filter fun node =>
        structuralMainWindowCandidate rules node.className node.win32Parent).map
        (mainWindowDebugPayload second rules) =
      ((collectTopLevel first).filter fun node =>
        structuralMainWindowCandidate rules node.className node.win32Parent).map
        (mainWindowDebugPayload first rules) :=
    map_filter_related agree.tops
      (fun node other related => by rw [related.1.className, related.1.win32Parent])
      (fun node other related => mainWindowDebugPayload_agree agree related.1 related.2)
  simp only [inspectMainWindows, payloads]

omit [Unicode] in
theorem confirmedMain_agree (agree : first.Agree region second) :
    confirmedMain second rules = confirmedMain first rules := by
  simp only [confirmedMain, inspectMainWindows_agree agree]

theorem candidateHandles_agree (agree : first.Agree region second) (mainHandles : List Hwnd) :
    candidateHandles second rules mainHandles =
      candidateHandles first rules mainHandles := by
  refine filterMap_related agree.tops fun node other related => ?_
  obtain ⟨alike, inside⟩ := related
  simp only [alike.hwnd, alike.className, alike.win32Parent, alike.text,
    legacySignatureKind_agree agree inside]

omit [Unicode] in
theorem WindowGraph.Agree.top_inside (agree : first.Agree region second) {node : WindowNode}
    (top : node ∈ collectTopLevel first) : region node.hwnd := by
  obtain ⟨other, _, related⟩ := exists_related agree.tops top
  exact related.2

theorem childContext_agree (agree : first.Agree region second) (wnd : Hwnd) (parentRect : Rect)
    (inside : region hwnd) :
    childContext second settings rules wnd parentRect hwnd =
      childContext first settings rules wnd parentRect hwnd := by
  cases agree.node inside with
  | inl missing => simp only [childContext, missing.1, missing.2]
  | inr both =>
      obtain ⟨node, other, found, also, alike⟩ := both
      have decided : ∀ rect : Option Rect,
          childAggressiveDecision second rules hwnd node.className parentRect rect =
            childAggressiveDecision first rules hwnd node.className parentRect rect := by
        intro rect
        cases rect with
        | none => rfl
        | some rect =>
            simp only [childAggressiveDecision, subtreeContainsAdToken_agree agree inside]
      simp only [childContext, found, also, alike.win32Parent, alike.rect, alike.className,
        alike.identity, alike.text, decided, legacySignatureKind_agree agree inside]

omit [Unicode] in
theorem closeVisit_agree (agree : first.Agree region second) (parentText : String)
    (hasAdSignal : Bool) {context : ChildContext} (inside : region context.child) :
    closeVisit second rules parentText hasAdSignal context =
      closeVisit first rules parentText hasAdSignal context := by
  simp only [closeVisit, classNameStartsWith_agree agree inside]

theorem legacyVisit_agree (agree : first.Agree region second) (tracksSignal : Bool)
    (inside : region hwnd) :
    legacyVisit second rules tracksSignal hwnd = legacyVisit first rules tracksSignal hwnd := by
  cases agree.node inside with
  | inl missing => simp only [legacyVisit, missing.1, missing.2, Option.map_none]
  | inr both =>
      obtain ⟨node, other, found, also, alike⟩ := both
      simp only [legacyVisit, found, also, Option.map_some, alike.identity,
        legacySignatureKind_agree agree inside]

omit [Unicode] in
theorem WindowGraph.Agree.isNone (agree : first.Agree region second) (inside : region hwnd) :
    (second.get hwnd).isNone = (first.get hwnd).isNone := by
  cases agree.node inside with
  | inl missing => rw [missing.1, missing.2]
  | inr both =>
      obtain ⟨node, other, found, also, _⟩ := both
      rw [found, also]
      rfl

omit [Unicode] in
theorem shownIn_agree (agree : first.Agree region second) (inside : region hwnd) :
    shownIn second hwnd = shownIn first hwnd := by
  cases agree.node inside with
  | inl missing => simp only [shownIn, missing.1, missing.2]
  | inr both =>
      obtain ⟨node, other, found, also, alike⟩ := both
      simp only [shownIn, found, also, Option.any_some, alike.visible]

omit [Unicode] in
/-- What lies below a window of the region lies in the region. -/
theorem descendant_inside (agree : first.Agree region second) {levels : Nat} {depth found : Int}
    {level : List Hwnd} (inside : ∀ child ∈ level, region child)
    (member : (hwnd, found) ∈ first.descendantsFrom levels depth level) : region hwnd :=
  WindowGraph.descendantsFrom_inside agree.closed inside member

omit [Unicode] in
theorem popupMatch_inside (agree : first.Agree region second) {host : Hwnd}
    (inside : region host) {found : Hwnd × Int × String}
    (matched : found ∈ findPopupMatches first rules host false) : region found.1 := by
  obtain ⟨child, depth, className⟩ := found
  have listed := (mem_findPopupMatches.mp matched).1
  unfold WindowGraph.enumDescendants at listed
  split at listed
  · cases listed
  · exact descendant_inside agree (fun child below => agree.closed inside below) listed

end LayoutAdblock.Core
