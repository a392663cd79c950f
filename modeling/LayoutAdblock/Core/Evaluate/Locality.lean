import LayoutAdblock.Core.Evaluate.Agreement

namespace LayoutAdblock.Core

open Data

/-! # What an evaluation can see

Two graphs that agree on a region, down to the order of the children, have the
same evaluation.
-/

/-- Agreement that extends to the order of the children. -/
structure WindowGraph.Coincide (region : Hwnd → Prop) (first second : WindowGraph) : Prop
    extends first.Agree region second where
  order : ∀ {parent}, region parent → second.children parent = first.children parent

variable [Unicode] {region : Hwnd → Prop} {first second : WindowGraph} {rules : LayoutRules}
  {settings : LayoutSettings} {hwnd : Hwnd}

theorem childContexts_coincide (same : first.Coincide region second) (parentRect : Rect)
    (inside : region hwnd) :
    childContexts second settings rules hwnd parentRect =
      childContexts first settings rules hwnd parentRect := by
  simp only [childContexts, WindowGraph.enumChildren, same.order inside]
  refine List.filterMap_congr fun child listed => ?_
  exact childContext_agree same.toAgree hwnd parentRect (same.closed inside listed)

omit [Unicode] in
theorem descendantsFrom_coincide (same : first.Coincide region second) (levels : Nat)
    (depth : Int) {level : List Hwnd} (inside : ∀ child ∈ level, region child) :
    second.descendantsFrom levels depth level = first.descendantsFrom levels depth level := by
  induction levels generalizing depth level with
  | zero => rfl
  | succ levels ih =>
      have next : level.flatMap second.enumChildren = level.flatMap first.enumChildren :=
        List.flatMap_congr fun child listed => same.order (inside child listed)
      simp only [WindowGraph.descendantsFrom, next]
      rw [ih]
      intro child listed
      obtain ⟨parent, inLevel, below⟩ := List.mem_flatMap.mp listed
      exact same.closed (inside parent inLevel) below

omit [Unicode] in
theorem findPopupMatches_coincide (same : first.Coincide region second) (inside : region hwnd) :
    findPopupMatches second rules hwnd false = findPopupMatches first rules hwnd false := by
  have descendants : second.enumDescendants hwnd rules.popupSearchDepth =
      first.enumDescendants hwnd rules.popupSearchDepth := by
    simp only [WindowGraph.enumDescendants, same.isNone inside, WindowGraph.enumChildren,
      same.order inside]
    split
    · rfl
    · exact descendantsFrom_coincide same _ _ fun child below => same.closed inside below
  simp only [findPopupMatches, descendants]
  refine List.filterMap_congr fun found listed => ?_
  obtain ⟨child, depth⟩ := found
  have below : region child := by
    unfold WindowGraph.enumDescendants at listed
    split at listed
    · cases listed
    · exact descendant_inside same.toAgree (fun child below => same.closed inside below) listed
  cases same.node below with
  | inl missing => simp only [missing.1, missing.2]
  | inr both =>
      obtain ⟨node, other, found, also, alike⟩ := both
      simp only [found, also, alike.visible, alike.className]

omit [Unicode] in
theorem applyChild_coincide (same : first.Coincide region second) (parentText : String)
    (parentRect : Rect) (hasAdSignal : Bool) (state : ApplyState) {context : ChildContext}
    (inside : region context.child) :
    applyChild second settings rules parentText parentRect hasAdSignal state context =
      applyChild first settings rules parentText parentRect hasAdSignal state context := by
  simp only [applyChild, applyEmptyEva, closeVisit_agree same.toAgree _ _ inside]

theorem context_inside (same : first.Coincide region second) {parentRect : Rect}
    {context : ChildContext} (inside : region hwnd)
    (member : context ∈ childContexts first settings rules hwnd parentRect) :
    region context.child :=
  same.closed inside (mem_childContexts member).1

theorem applyMainWindow_coincide (same : first.Coincide region second) (state : ApplyState)
    (inside : region hwnd) :
    applyMainWindow second settings rules state hwnd =
      applyMainWindow first settings rules state hwnd := by
  cases same.node inside with
  | inl missing => simp only [applyMainWindow, missing.1, missing.2]
  | inr both =>
      obtain ⟨node, other, found, also, alike⟩ := both
      simp only [applyMainWindow, found, also, same.pids, alike.pid, alike.rect, alike.text]
      split
      · rfl
      · cases node.rect with
        | none => rfl
        | some parentRect =>
            simp only [childContexts_coincide same parentRect inside]
            exact List.foldl_ext _ _ _ fun state context member =>
              applyChild_coincide same _ _ _ state (context_inside same inside member)

theorem applyCandidate_coincide (same : first.Coincide region second) (state : ApplyState)
    (inside : region hwnd) :
    applyCandidate second rules state hwnd = applyCandidate first rules state hwnd := by
  cases same.node inside with
  | inl missing => simp only [applyCandidate, missing.1, missing.2]
  | inr both =>
      obtain ⟨node, other, found, also, alike⟩ := both
      simp only [applyCandidate, found, also, same.pids, alike.pid,
        legacyVisit_agree same.toAgree false inside]

theorem mem_candidateHandles_inside (same : first.Coincide region second)
    {mainHandles : List Hwnd} (candidate : hwnd ∈ candidateHandles first rules mainHandles) :
    region hwnd := by
  obtain ⟨node, top, rfl, _⟩ := mem_candidateHandles.mp candidate
  exact same.top_inside top

omit [Unicode] in
theorem mem_confirmedMain_inside (same : first.Coincide region second)
    (confirmed : hwnd ∈ confirmedMain first rules) : region hwnd := by
  obtain ⟨node, top, rfl, _⟩ := mem_confirmedMain.mp confirmed
  exact same.top_inside top

theorem applyLedger_coincide (same : first.Coincide region second) (states : StateMap) :
    applyLedger second settings rules (confirmedMain first rules)
        (candidateHandles first rules (confirmedMain first rules)) states =
      applyLedger first settings rules (confirmedMain first rules)
        (candidateHandles first rules (confirmedMain first rules)) states := by
  simp only [applyLedger]
  rw [List.foldl_ext (applyMainWindow second settings rules) (applyMainWindow first settings rules)
    _ fun state wnd confirmed =>
      applyMainWindow_coincide same state (mem_confirmedMain_inside same confirmed)]
  exact List.foldl_ext _ _ _ fun state wnd candidate =>
    applyCandidate_coincide same state (mem_candidateHandles_inside same candidate)

omit [Unicode] in
theorem applyPopupMatch_coincide (same : first.Coincide region second) {item other : WindowNode}
    (alike : item.Alike other) (guard : PopupGuard) (state : PopupState)
    {found : Hwnd × Int × String} (inside : region found.1) :
    applyPopupMatch second rules other guard state found =
      applyPopupMatch first rules item guard state found := by
  obtain ⟨child, depth, className⟩ := found
  have shown := shownIn_agree same.toAgree inside
  simp only [shownIn] at shown
  have stored : ∀ ticks decision, state.storeChild second ticks decision child =
      state.storeChild first ticks decision child := by
    intro ticks decision
    cases same.node inside with
    | inl missing => simp only [PopupState.storeChild, missing.1, missing.2]
    | inr both =>
        obtain ⟨node, other, found, also, alike⟩ := both
        simp only [PopupState.storeChild, found, also, alike.identity]
  simp only [applyPopupMatch, stored, alike.hwnd, alike.visible, shown]

theorem applyPopupHost_coincide (same : first.Coincide region second) (confirmed : List Hwnd)
    (state : PopupState) {item other : WindowNode} (alike : item.Alike other)
    (inside : region item.hwnd) :
    applyPopupHost second rules confirmed state other =
      applyPopupHost first rules confirmed state item := by
  have host : isPopupHost confirmed other = isPopupHost confirmed item := by
    simp only [isPopupHost, alike.win32Parent, alike.hwnd]
  simp only [applyPopupHost, host, alike.text, alike.textKnown, alike.hwnd,
    findPopupMatches_coincide same inside]
  split
  · exact List.foldl_ext _ _ _ fun state found matched =>
      applyPopupMatch_coincide same alike _ state (popupMatch_inside same.toAgree inside matched)
  · rfl

theorem applyOnce_coincide (same : first.Coincide region second) (states : StateMap) :
    applyOnce second settings rules (confirmedMain first rules)
        (candidateHandles first rules (confirmedMain first rules)) states =
      applyOnce first settings rules (confirmedMain first rules)
        (candidateHandles first rules (confirmedMain first rules)) states := by
  have popups : ∀ state : PopupState,
      (collectTopLevel second).foldl (applyPopupHost second rules (confirmedMain first rules))
          state =
        (collectTopLevel first).foldl (applyPopupHost first rules (confirmedMain first rules))
          state :=
    foldl_related same.tops fun state item other related =>
      applyPopupHost_coincide same _ state related.1 related.2
  simp only [applyOnce, applyLedger_coincide same states, popups]

omit [Unicode] in
theorem inspectChild_coincide (same : first.Coincide region second) (parentText : String)
    (hasAdSignal : Bool) (state : PreviewState) {context : ChildContext}
    (inside : region context.child) :
    inspectChild second settings rules parentText hasAdSignal state context =
      inspectChild first settings rules parentText hasAdSignal state context := by
  simp only [inspectChild, closeVisit_agree same.toAgree _ _ inside]

theorem inspectMainWindow_coincide (same : first.Coincide region second) (state : PreviewState)
    (inside : region hwnd) :
    inspectMainWindow second settings rules state hwnd =
      inspectMainWindow first settings rules state hwnd := by
  cases same.node inside with
  | inl missing => simp only [inspectMainWindow, missing.1, missing.2]
  | inr both =>
      obtain ⟨node, other, found, also, alike⟩ := both
      simp only [inspectMainWindow, found, also, alike.rect, alike.text]
      cases node.rect with
      | none => rfl
      | some parentRect =>
          simp only [childContexts_coincide same parentRect inside]
          exact List.foldl_ext _ _ _ fun state context member =>
            inspectChild_coincide same _ _ state (context_inside same inside member)

theorem inspectLegacy_coincide (same : first.Coincide region second) (state : PreviewState)
    (inside : region hwnd) :
    inspectLegacy second rules state hwnd = inspectLegacy first rules state hwnd := by
  simp only [inspectLegacy, legacyVisit_agree same.toAgree true inside]

omit [Unicode] in
theorem inspectPopupMatch_coincide (same : first.Coincide region second)
    {item other : WindowNode} (alike : item.Alike other) (guard : PopupGuard)
    (state : PreviewState) {found : Hwnd × Int × String} (inside : region found.1) :
    inspectPopupMatch second rules other guard state found =
      inspectPopupMatch first rules item guard state found := by
  obtain ⟨child, depth, className⟩ := found
  have pid : ((second.get child).map WindowNode.pid).getD 0 =
      ((first.get child).map WindowNode.pid).getD 0 := by
    cases same.node inside with
    | inl missing => rw [missing.1, missing.2]
    | inr both =>
        obtain ⟨node, other, found, also, alike⟩ := both
        simp only [found, also, Option.map_some, alike.pid]
  simp only [inspectPopupMatch, pid, alike.identity]

theorem inspectPopupHost_coincide (same : first.Coincide region second) (confirmed : List Hwnd)
    (state : PreviewState) {item other : WindowNode} (alike : item.Alike other)
    (inside : region item.hwnd) :
    inspectPopupHost second rules confirmed state other =
      inspectPopupHost first rules confirmed state item := by
  have host : isPopupHost confirmed other = isPopupHost confirmed item := by
    simp only [isPopupHost, alike.win32Parent, alike.hwnd]
  simp only [inspectPopupHost, host, alike.text, alike.textKnown, alike.hwnd,
    findPopupMatches_coincide same inside]
  split
  · exact List.foldl_ext _ _ _ fun state found matched =>
      inspectPopupMatch_coincide same alike _ state (popupMatch_inside same.toAgree inside matched)
  · rfl

theorem inspectCandidates_coincide (same : first.Coincide region second) (states : StateMap) :
    inspectCandidates second settings rules (confirmedMain first rules)
        (candidateHandles first rules (confirmedMain first rules)) states =
      inspectCandidates first settings rules (confirmedMain first rules)
        (candidateHandles first rules (confirmedMain first rules)) states := by
  have mains : ∀ state : PreviewState,
      (confirmedMain first rules).foldl (inspectMainWindow second settings rules) state =
        (confirmedMain first rules).foldl (inspectMainWindow first settings rules) state :=
    fun state => List.foldl_ext _ _ state fun state wnd confirmed =>
      inspectMainWindow_coincide same state (mem_confirmedMain_inside same confirmed)
  have legacies : ∀ state : PreviewState,
      (candidateHandles first rules (confirmedMain first rules)).foldl
          (inspectLegacy second rules) state =
        (candidateHandles first rules (confirmedMain first rules)).foldl
          (inspectLegacy first rules) state :=
    fun state => List.foldl_ext _ _ state fun state wnd candidate =>
      inspectLegacy_coincide same state (mem_candidateHandles_inside same candidate)
  have popups : ∀ state : PreviewState,
      (collectTopLevel second).foldl (inspectPopupHost second rules (confirmedMain first rules))
          state =
        (collectTopLevel first).foldl (inspectPopupHost first rules (confirmedMain first rules))
          state :=
    foldl_related same.tops fun state item other related =>
      inspectPopupHost_coincide same _ state related.1 related.2
  simp only [inspectCandidates, mains, legacies, popups]

/-- Graphs that coincide on a region have the same evaluation and leave the
same candidate states. -/
theorem evaluateInner_coincide (same : first.Coincide region second) (states : StateMap)
    (withCandidates : Bool) :
    evaluateInner second settings rules states withCandidates =
      evaluateInner first settings rules states withCandidates := by
  simp only [evaluateInner, inspectMainWindows_agree same.toAgree,
    confirmedMain_agree same.toAgree, candidateHandles_agree same.toAgree,
    inspectCandidates_coincide same, applyOnce_coincide same]

end LayoutAdblock.Core
