import LayoutAdblock.Core.Evaluate.Signs

namespace LayoutAdblock.Core

/-! # Main windows under the default rules -/

variable [Unicode]

/-- A window is left alone: neither hidden, nor closed, nor sized to zero. Resizing its
views does it no harm. -/
def ActionLog.Spares (actions : ActionLog) (hwnd : Hwnd) : Prop :=
  hwnd ∉ actions.hide ∧ hwnd ∉ actions.close ∧ ¬ actions.zeroSized hwnd

/-- A top-level window the evaluation reports as a confirmed main window. -/
def Evaluation.ReportsMain (evaluation : Evaluation) (hwnd : Hwnd) : Prop :=
  ∃ payload ∈ evaluation.mainWindows, payload.hwnd = hwnd ∧ payload.confirmed = true

instance (evaluation : Evaluation) (hwnd : Hwnd) : Decidable (evaluation.ReportsMain hwnd) :=
  inferInstanceAs (Decidable (∃ payload ∈ evaluation.mainWindows, _))

/-- A reported main window, or a child of one that carries the main-view or
lock-view signature. -/
def MainOrView (graph : WindowGraph) (rules : LayoutRules) (evaluation : Evaluation)
    (hwnd : Hwnd) : Prop :=
  evaluation.ReportsMain hwnd ∨
    ∃ main, evaluation.ReportsMain main ∧ hwnd ∈ graph.children main ∧
      ∃ node, graph.get hwnd = some node ∧ isViewChild rules node = true

/-- A main window that is a legacy candidate as well: the legacy title is below it, or a
part of the title is and the window comes with a ripe streak.  A main window under a main
window of the null handle is a candidate only while its own title is empty. -/
structure MistakenMain [Counting] (graph : WindowGraph) (settings : LayoutSettings)
    (states : StateMap) (node : WindowNode) : Prop where
  found : graph.get node.hwnd = some node
  main : IsMain graph WindowNode.text node.hwnd
  candidate : IsMain graph WindowNode.text 0 → node.text = ""
  due : LegacyDue graph settings states WindowNode.text node

omit [Unicode] in
theorem confirmedMain_node {graph : WindowGraph} {rules : LayoutRules} {node : WindowNode}
    (found : graph.get node.hwnd = some node) (confirmed : node.hwnd ∈ confirmedMain graph rules) :
    node ∈ collectTopLevel graph ∧ node.className ∈ rules.mainWindowClasses ∧
      node.win32Parent = 0 := by
  obtain ⟨other, top, same, structural, _⟩ := mem_confirmedMain.mp confirmed
  have otherFound := (mem_collectTopLevel.mp top).1
  rw [same] at otherFound
  obtain rfl := Option.some.inj (otherFound.symm.trans found)
  simp only [structuralMainWindowCandidate, Bool.and_eq_true, List.contains_iff_mem,
    beq_iff_eq] at structural
  exact ⟨top, structural.1, structural.2⟩

section Counted

variable [Counting]

theorem mistakenMain_iff {graph : WindowGraph} {settings : LayoutSettings} {states : StateMap}
    {node : WindowNode} :
    MistakenMain graph settings states node ↔
      IsMain graph WindowNode.text node.hwnd ∧
        LegacyHidden graph settings .default states node := by
  rw [legacyHidden_iff]
  constructor
  · intro mistaken
    obtain ⟨other, top, same, classed, root, _⟩ := mistaken.main
    have otherFound := top.found
    rw [same] at otherFound
    obtain rfl := Option.some.inj (otherFound.symm.trans mistaken.found)
    refine ⟨mistaken.main, top, classed, ?_, mistaken.due⟩
    rw [root]
    by_cases null : IsMain graph WindowNode.text 0
    · exact Or.inl ⟨null, mistaken.candidate null⟩
    · exact Or.inr ⟨null, rfl⟩
  · intro hidden
    obtain ⟨main, top, _, rule, due⟩ := hidden
    refine ⟨top.found, main, ?_, due⟩
    intro null
    obtain ⟨other, otherTop, same, _, root, _⟩ := main
    have otherFound := otherTop.found
    rw [same] at otherFound
    obtain rfl := Option.some.inj (otherFound.symm.trans top.found)
    rw [root] at rule
    cases rule with
    | inl owned => exact owned.2
    | inr unowned => exact absurd null unowned.1

/-- A window that no rule can name is left alone. -/
theorem spares_of_plain {graph : WindowGraph} {settings : LayoutSettings} {rules : LayoutRules}
    {states : StateMap} {withCandidates : Bool} {node : WindowNode} (separate : rules.Separate)
    (found : graph.get node.hwnd = some node)
    (plain : isChromeWidgetClass rules node.className = false)
    (noAd : node.className ∉ rules.popupAdClasses)
    (noHost : node.hwnd ∈ confirmedMain graph rules ∨
      popupHostGuardStatus rules node.text node.textKnown ≠ .allow)
    (kept : ¬ LegacyHidden graph settings rules states node)
    (notEmpty : node.className = rules.evaChildClass → node.text ≠ "") :
    (evaluateInner graph settings rules states withCandidates).1.actions.Spares node.hwnd := by
  have known : ∀ {other : WindowNode}, other.hwnd = node.hwnd →
      graph.get other.hwnd = some other → other = node := by
    intro other same otherFound
    rw [same] at otherFound
    exact Option.some.inj (otherFound.symm.trans found)
  have noPopup : node.hwnd ∉ popupTargets graph rules := by
    intro target
    obtain ⟨item, top, host, allowed, ⟨child, depth, className⟩, matched, same | same⟩ :=
      mem_popupTargets.mp target
    · obtain rfl := known same.symm (mem_collectTopLevel.mp top).1
      rcases noHost with confirmed | blocked
      · simp [isPopupHost, confirmed] at host
      · exact blocked allowed
    · obtain ⟨_, other, otherFound, ad, named⟩ := mem_findPopupMatches.mp matched
      simp only at same
      rw [← same, found] at otherFound
      obtain rfl := Option.some.inj otherFound
      exact noAd (named ▸ ad)
  refine ⟨?_, ?_, fun zero => noPopup (evaluate_zeroSized.mp zero)⟩
  · rw [mem_hide_closedForm separate]
    rintro ((⟨parent, parentRect, child, same, hidden⟩ | ⟨other, same, hidden⟩) | target)
    · obtain rfl := known same hidden.main.found
      have chrome := aggressive_chrome (show
        (aggressiveVisitOf graph rules false parentRect child).decision.matched = true from
          matched_of_confirmedWithin hidden.confirmed)
      simp [plain] at chrome
    · obtain rfl := known same (mem_collectTopLevel.mp hidden.top).1
      exact kept hidden
    · exact noPopup target
  · rw [mem_close_closedForm separate]
    rintro (⟨parent, parentRect, child, same, closed⟩ | ⟨target, _⟩)
    · obtain rfl := known same closed.main.found
      exact notEmpty closed.classed closed.blank
    · exact noPopup target

/-- The confirmed main windows and their view children are left alone by an
evaluation exactly when no main window is mistaken for a legacy ad, however the streaks
are counted. -/
theorem main_windows_spared (graph : WindowGraph) (settings : LayoutSettings)
    (states : StateMap) :
    let evaluation := (evaluateGraphWithStates graph settings .default states).1
    (∀ hwnd, MainOrView graph .default evaluation hwnd → evaluation.actions.Spares hwnd) ↔
      ∀ node, ¬ MistakenMain graph settings states node := by
  intro evaluation
  have reported : ∀ hwnd, evaluation.ReportsMain hwnd ↔ hwnd ∈ confirmedMain graph .default :=
    fun hwnd => confirmedMain_iff_payload.symm
  constructor
  · intro spared node mistaken
    obtain ⟨isMain, hidden⟩ := mistakenMain_iff.mp mistaken
    have main := (reported node.hwnd).mpr (confirmedMain_iff.mpr isMain)
    refine (spared node.hwnd (Or.inl main)).1 ?_
    exact (mem_hide_closedForm LayoutRules.default_separate).mpr
      (Or.inl (Or.inr ⟨node, rfl, hidden⟩))
  · rintro sound hwnd (main | ⟨main, mainReported, listed, node, found, view⟩)
    · have confirmed := (reported hwnd).mp main
      obtain ⟨node, top, rfl, structural, _⟩ := mem_confirmedMain.mp confirmed
      have found := (mem_collectTopLevel.mp top).1
      obtain ⟨_, classed, _⟩ := confirmedMain_node found confirmed
      have plain : ∀ className ∈ LayoutRules.default.mainWindowClasses,
          isChromeWidgetClass .default className = false ∧
            className ∉ LayoutRules.default.popupAdClasses ∧
            className ≠ LayoutRules.default.evaChildClass := by decide
      obtain ⟨noChrome, noAd, noEva⟩ := plain _ classed
      exact spares_of_plain LayoutRules.default_separate found noChrome noAd (Or.inl confirmed)
        (fun hidden => sound node (mistakenMain_iff.mpr ⟨confirmedMain_iff.mp confirmed, hidden⟩))
        (fun eva => absurd eva noEva)
    · have same := WindowGraph.get_hwnd found
      subst same
      simp only [isViewChild, Bool.and_eq_true, beq_iff_eq, Bool.or_eq_true] at view
      obtain ⟨classed, signature⟩ := view
      have titled : node.text ≠ "" := by
        rcases signature with main | lock
        · exact startsWith_ne_empty main (by decide)
        · exact startsWith_ne_empty lock (by decide)
      have visible : trim node.text ≠ "" := by
        rcases signature with main | lock
        · exact trim_ne_empty_of_startsWith main rfl (by decide)
        · exact trim_ne_empty_of_startsWith lock rfl (by decide)
      refine spares_of_plain LayoutRules.default_separate found (classed ▸ by decide)
        (classed ▸ by decide) (Or.inr fun allowed => visible (default_guard_allow.mp allowed).2)
        (fun hidden => ?_) fun _ => titled
      have candidate := candidate_class hidden.top hidden.candidate
      rw [classed] at candidate
      exact absurd candidate (by decide)

end Counted

/-- In the release profile, whose streaks wrap around, the confirmed main windows and their
view children are left alone exactly when no main window is mistaken for a legacy ad. -/
theorem main_windows_spared_iff (graph : WindowGraph) (settings : LayoutSettings)
    (states : StateMap) :
    let _ := Counting.i64
    let evaluation := (evaluateGraphWithStates graph settings .default states).1
    (∀ hwnd, MainOrView graph .default evaluation hwnd → evaluation.actions.Spares hwnd) ↔
      ∀ node, ¬ MistakenMain graph settings states node := by
  intro _
  exact main_windows_spared graph settings states

/-- A main window with a web view in it, as KakaoTalk shows an ad there. -/
def webViewGraph : WindowGraph where
  pids := [100]
  nodes :=
    [{ hwnd := 1, pid := 100, className := "EVA_Window_Dblclk", title := .known "KakaoTalk",
       structuralParent := none, owner := none, rect := some ⟨0, 0, 400, 640⟩, visible := true },
     { hwnd := 2, pid := 100, className := "EVA_ChildWindow", title := .known "OnlineMainView_1",
       structuralParent := some 1, owner := none, rect := some ⟨0, 0, 398, 609⟩, visible := true },
     { hwnd := 3, pid := 100, className := "Chrome_WidgetWin_1", title := .known "",
       structuralParent := some 1, owner := none, rect := some ⟨0, 540, 400, 640⟩,
       visible := true },
     { hwnd := 4, pid := 100, className := "Chrome_RenderWidgetHostHWND",
       title := .known "Chrome Legacy Window", structuralParent := some 3, owner := none,
       rect := some ⟨0, 540, 400, 640⟩, visible := true }]
  children hwnd := if hwnd = 1 then [2, 3] else if hwnd = 3 then [4] else []
  keyed := by decide

omit [Unicode] in
theorem webViewGraph_forest : webViewGraph.Forest := by
  have listed : ∀ {parent child : Hwnd}, child ∈ webViewGraph.children parent →
      (parent = 1 ∧ (child = 2 ∨ child = 3)) ∨ (parent = 3 ∧ child = 4) := by
    intro parent child
    simp only [webViewGraph]
    split_ifs <;> simp_all
  refine WindowGraph.forest_of_increasing ?_ ?_ ?_
  · intro parent
    simp only [webViewGraph]
    split_ifs <;> decide
  · intro first second child inFirst inSecond
    rcases listed inFirst with ⟨rfl, rfl | rfl⟩ | ⟨rfl, rfl⟩ <;>
      rcases listed inSecond with ⟨rfl, same | same⟩ | ⟨rfl, same⟩ <;>
        first | rfl | exact absurd same (by decide)
  · intro parent child inParent
    rcases listed inParent with ⟨rfl, rfl | rfl⟩ | ⟨rfl, rfl⟩ <;> decide

omit [Unicode] in
/-- The reported main window itself is hidden, in the first evaluation. -/
theorem webViewGraph_main_hidden :
    webViewGraph.Forest ∧
      (@evaluateGraphWithStates asciiLowercase Counting.i64 webViewGraph {} .default
        StateMap.empty).1.ReportsMain 1 ∧
      (1 : Hwnd) ∈ (@evaluateGraphWithStates asciiLowercase Counting.i64 webViewGraph {} .default
        StateMap.empty).1.actions.hide :=
  ⟨webViewGraph_forest, by decide, by decide⟩

end LayoutAdblock.Core
