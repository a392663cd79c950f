import LayoutAdblock.Core.Evaluate.ClosedForm
import LayoutAdblock.Core.Evaluate.Locality

namespace LayoutAdblock.Core

/-! # Foreign windows

An evaluation only acts below the top-level windows of the known processes, and
what happens inside the tree of another process does not reach it.
-/

/-- A forest whose roots are the top-level windows. -/
structure WindowGraph.ForestShaped (graph : WindowGraph) : Prop extends graph.Forest where
  rooted : ∀ {parent child node}, child ∈ graph.children parent →
    graph.get child = some node → node.structuralParent = some parent

/-- `hwnd` is `root` or is reached from it through children lists, however long the way is. -/
def WindowGraph.InTree (graph : WindowGraph) (root hwnd : Hwnd) : Prop :=
  Relation.ReflTransGen (fun parent child => child ∈ graph.children parent) root hwnd

/-- A window of the graph in the tree of a top-level window of a known process. -/
structure WindowGraph.Owns (graph : WindowGraph) (hwnd : Hwnd) : Prop where
  present : (graph.get hwnd).isSome = true
  reached : ∃ top, graph.get top.hwnd = some top ∧ top.structuralParent = none ∧
    top.pid ∈ graph.pids ∧ graph.InTree top.hwnd hwnd

/-- The windows an evaluation acts on, in whichever of its lists they stand. -/
def ActionLog.names (actions : ActionLog) (hwnd : Hwnd) : Prop :=
  hwnd ∈ actions.hide ∨ hwnd ∈ actions.close ∨ ∃ place, hwnd :: place ∈ actions.setPos

variable {graph first second : WindowGraph} {rules : LayoutRules} {settings : LayoutSettings}
  {hwnd root : Hwnd}

theorem descendantsFrom_inTree {levels : Nat} {depth found : Int} {level : List Hwnd}
    (inside : ∀ child ∈ level, graph.InTree root child)
    (member : (hwnd, found) ∈ graph.descendantsFrom levels depth level) :
    graph.InTree root hwnd :=
  WindowGraph.descendantsFrom_inside (fun reached below => reached.tail below) inside member

theorem top_owned {node : WindowNode} (top : node ∈ collectTopLevel graph) :
    graph.Owns node.hwnd := by
  obtain ⟨found, isTop, listed⟩ := mem_collectTopLevel.mp top
  exact ⟨by rw [found]; rfl, node, found, isTop, listed, Relation.ReflTransGen.refl⟩

/-- A child listed by a confirmed main window. -/
theorem mainChild_owned {parent child : WindowNode}
    (confirmed : parent.hwnd ∈ confirmedMain graph rules)
    (listed : child.hwnd ∈ graph.children parent.hwnd)
    (found : graph.get child.hwnd = some child) : graph.Owns child.hwnd := by
  obtain ⟨node, top, same, _⟩ := mem_confirmedMain.mp confirmed
  obtain ⟨topFound, isTop, known⟩ := mem_collectTopLevel.mp top
  refine ⟨by rw [found]; rfl, node, topFound, isTop, known, ?_⟩
  rw [same]
  exact Relation.ReflTransGen.single listed

variable [Unicode]

theorem popupTarget_owned (target : hwnd ∈ popupTargets graph rules) : graph.Owns hwnd := by
  obtain ⟨item, top, _, _, ⟨child, depth, className⟩, matched, rule⟩ := mem_popupTargets.mp target
  cases rule with
  | inl isHost => exact isHost ▸ top_owned top
  | inr isChild =>
      obtain ⟨found, isTop, known⟩ := mem_collectTopLevel.mp top
      obtain ⟨listed, node, childFound, _⟩ := mem_findPopupMatches.mp matched
      change hwnd = child at isChild
      subst isChild
      refine ⟨by rw [childFound]; rfl, item, found, isTop, known, ?_⟩
      unfold WindowGraph.enumDescendants at listed
      split at listed
      · cases listed
      · exact descendantsFrom_inTree
          (fun child below => Relation.ReflTransGen.single below) listed

theorem visit_owned {tracksSignal : Bool} {visit : Visit}
    (member : visit ∈ ledgerVisits graph settings rules tracksSignal) : graph.Owns visit.hwnd := by
  cases mem_ledgerVisits.mp member with
  | inl ofChild =>
      obtain ⟨parent, parentRect, child, main, rule⟩ := ofChild
      have owned := mainChild_owned main.confirmed main.listed main.found
      cases rule with
      | inl closes => exact closes.2.2.2 ▸ owned
      | inr hides => exact hides.2.2 ▸ owned
  | inr ofTop =>
      obtain ⟨node, top, _, rfl⟩ := ofTop
      exact top_owned top

theorem decided_owned {states : StateMap} {visit : Visit}
    (decided : visit ∈ decidedVisits graph settings rules states) : graph.Owns visit.hwnd :=
  visit_owned (Ledger.mem_of_mem_confirmedVisits decided)

/-- Every window an evaluation acts on is a window of a known process's tree. -/
theorem named_owned {states : StateMap} {withCandidates : Bool}
    (named : (evaluateInner graph settings rules states withCandidates).1.actions.names hwnd) :
    graph.Owns hwnd := by
  cases named with
  | inl hidden =>
      cases mem_evaluate_hide.mp hidden with
      | inl decided =>
          obtain ⟨visit, kept, rfl⟩ := List.mem_map.mp decided
          exact decided_owned (List.mem_filter.mp kept).1
      | inr target => exact popupTarget_owned target
  | inr rest =>
      cases rest with
      | inl closed =>
          cases mem_evaluate_close.mp closed with
          | inl decided =>
              obtain ⟨visit, kept, rfl⟩ := List.mem_map.mp decided
              exact decided_owned (List.mem_filter.mp kept).1
          | inr target => exact popupTarget_owned target.1
      | inr placed =>
          obtain ⟨place, entry⟩ := placed
          cases mem_evaluate_setPos.mp entry with
          | inl resized =>
              obtain ⟨parent, child, _, _, _, _, _, confirmed, _, _, listed, found, _, _, same⟩ :=
                mem_viewResizes.mp resized
              rw [(List.cons.inj same).1]
              exact mainChild_owned confirmed listed found
          | inr zeroed =>
              obtain ⟨target, member, same⟩ := zeroed
              rw [(List.cons.inj same).1]
              exact popupTarget_owned member

/-- `second` differs from `first` inside the tree of a top-level window of an
unknown process only: windows of the tree may change, appear and go, and the
whole tree may be gone. -/
structure WindowGraph.ChangedInside (root : Hwnd) (first second : WindowGraph) : Prop where
  pids : second.pids = first.pids
  foreign : ∃ node, first.get root = some node ∧ node.structuralParent = none ∧
    node.pid ∉ first.pids
  staysForeign : ∀ node, second.get root = some node →
    node.structuralParent = none ∧ node.pid ∉ second.pids
  outside : ∀ {hwnd}, ¬ first.InTree root hwnd → ¬ second.InTree root hwnd →
    second.get hwnd = first.get hwnd ∧ second.children hwnd = first.children hwnd
  gone : ∀ {hwnd}, first.InTree root hwnd → ¬ second.InTree root hwnd → second.get hwnd = none
  new : ∀ {hwnd}, second.InTree root hwnd → ¬ first.InTree root hwnd → first.get hwnd = none

/-- The windows outside the tree, before and after the change. -/
def Elsewhere (root : Hwnd) (first second : WindowGraph) (hwnd : Hwnd) : Prop :=
  ¬ first.InTree root hwnd ∧ ¬ second.InTree root hwnd

omit [Unicode] in
/-- A child of a window outside the tree is outside, unless it is the root. -/
theorem child_outside (shaped : graph.ForestShaped) {parent child : Hwnd}
    (outside : ¬ graph.InTree root parent) (listed : child ∈ graph.children parent)
    (notRoot : child ≠ root) : ¬ graph.InTree root child := by
  intro inside
  cases Relation.ReflTransGen.cases_tail inside with
  | inl same => exact notRoot same
  | inr below =>
      obtain ⟨above, inTree, listedAbove⟩ := below
      exact outside (shaped.oneParent listed listedAbove ▸ inTree)

omit [Unicode] in
/-- A top-level window other than the root is outside the tree. -/
theorem top_outside (shaped : graph.ForestShaped) {node : WindowNode}
    (found : graph.get node.hwnd = some node) (isTop : node.structuralParent = none)
    (notRoot : node.hwnd ≠ root) : ¬ graph.InTree root node.hwnd := by
  intro inside
  cases Relation.ReflTransGen.cases_tail inside with
  | inl same => exact notRoot same
  | inr below =>
      obtain ⟨above, _, listed⟩ := below
      rw [shaped.rooted listed found] at isTop
      cases isTop

namespace WindowGraph.ChangedInside

omit [Unicode]

theorem top_elsewhere (changed : ChangedInside root first second) (shaped : first.ForestShaped)
    {node : WindowNode} (top : node ∈ collectTopLevel first) :
    Elsewhere root first second node.hwnd := by
  obtain ⟨found, isTop, known⟩ := mem_collectTopLevel.mp top
  have notRoot : node.hwnd ≠ root := by
    intro same
    obtain ⟨foreign, foreignFound, _, unknown⟩ := changed.foreign
    rw [← same, found] at foreignFound
    exact unknown (Option.some.inj foreignFound ▸ known)
  have outside := top_outside shaped found isTop notRoot
  refine ⟨outside, fun inside => ?_⟩
  rw [changed.new inside outside] at found
  cases found

theorem top_elsewhere_after (changed : ChangedInside root first second)
    (shaped : second.ForestShaped) {node : WindowNode} (top : node ∈ collectTopLevel second) :
    Elsewhere root first second node.hwnd := by
  obtain ⟨found, isTop, known⟩ := mem_collectTopLevel.mp top
  have notRoot : node.hwnd ≠ root := by
    intro same
    exact (changed.staysForeign node (same ▸ found)).2 known
  have outside := top_outside shaped found isTop notRoot
  refine ⟨fun inside => ?_, outside⟩
  rw [changed.gone inside outside] at found
  cases found

theorem mem_tops (changed : ChangedInside root first second) (before : first.ForestShaped)
    (after : second.ForestShaped) (node : WindowNode) :
    node ∈ collectTopLevel second ↔ node ∈ collectTopLevel first := by
  constructor
  · intro top
    obtain ⟨outside, outsideAfter⟩ := changed.top_elsewhere_after after top
    have same := (changed.outside outside outsideAfter).1
    have kept := mem_collectTopLevel.mp top
    rw [same, changed.pids] at kept
    exact mem_collectTopLevel.mpr kept
  · intro top
    obtain ⟨outside, outsideAfter⟩ := changed.top_elsewhere before top
    have same := (changed.outside outside outsideAfter).1
    have kept := mem_collectTopLevel.mp top
    rw [← same, ← changed.pids] at kept
    exact mem_collectTopLevel.mpr kept

theorem child_elsewhere (changed : ChangedInside root first second) (before : first.ForestShaped)
    (after : second.ForestShaped) {parent child : Hwnd}
    (outside : Elsewhere root first second parent) (listed : child ∈ first.children parent) :
    Elsewhere root first second child := by
  have notRoot : child ≠ root := by
    rintro rfl
    obtain ⟨node, found, isTop, _⟩ := changed.foreign
    rw [before.rooted listed found] at isTop
    cases isTop
  have listedAfter : child ∈ second.children parent := by
    rw [(changed.outside outside.1 outside.2).2]
    exact listed
  exact ⟨child_outside before outside.1 listed notRoot,
    child_outside after outside.2 listedAfter notRoot⟩

/-- The two graphs coincide outside the tree. -/
theorem coincide (changed : ChangedInside root first second) (before : first.ForestShaped)
    (after : second.ForestShaped) : first.Coincide (Elsewhere root first second) second where
  pids := changed.pids
  children outside := by rw [(changed.outside outside.1 outside.2).2]
  order outside := (changed.outside outside.1 outside.2).2
  closed outside listed := changed.child_elsewhere before after outside listed
  node {hwnd} outside := by
    rw [(changed.outside outside.1 outside.2).1]
    cases first.get hwnd with
    | none => exact Or.inl ⟨rfl, rfl⟩
    | some node => exact Or.inr ⟨node, node, rfl, rfl, WindowNode.Alike.refl node⟩
  tops := by
    rw [collectTopLevel_congr (changed.mem_tops before after)]
    exact List.forall₂_same.mpr fun node top =>
      ⟨WindowNode.Alike.refl node, changed.top_elsewhere before top⟩

end WindowGraph.ChangedInside

/-- An evaluation acts on windows of the trees of known processes only, and a
change inside the tree of a foreign window, or its removal, changes no part of
the evaluation and no candidate state. -/
theorem foreign_windows_out_of_reach (shaped : graph.ForestShaped) (settings : LayoutSettings)
    (rules : LayoutRules) (states : StateMap) (withCandidates : Bool) :
    (∀ hwnd, (evaluateInner graph settings rules states withCandidates).1.actions.names hwnd →
      graph.Owns hwnd) ∧
    ∀ root changed, changed.ForestShaped → WindowGraph.ChangedInside root graph changed →
      evaluateInner changed settings rules states withCandidates =
        evaluateInner graph settings rules states withCandidates :=
  ⟨fun _ named => named_owned named, fun _ _ after change =>
    evaluateInner_coincide (change.coincide shaped after) states withCandidates⟩

omit [Unicode]

/-- A popup host with its ad window, and a browser window with a page. -/
def browserOpen : WindowGraph where
  pids := [100]
  nodes :=
    [{ hwnd := 1, pid := 100, className := "EVA_Window_Dblclk", title := .known "",
       structuralParent := none, owner := none, rect := some ⟨0, 0, 400, 90⟩, visible := true },
     { hwnd := 2, pid := 100, className := "AdFitWebView", title := .known "",
       structuralParent := some 1, owner := none, rect := some ⟨0, 0, 400, 90⟩, visible := true },
     { hwnd := 3, pid := 200, className := "Chrome_WidgetWin_1", title := .known "Browser",
       structuralParent := none, owner := none, rect := none, visible := true },
     { hwnd := 4, pid := 200, className := "AdFitWebView", title := .known "Advertisement",
       structuralParent := some 3, owner := none, rect := none, visible := true }]
  children hwnd := if hwnd = 1 then [2] else if hwnd = 3 then [4] else []
  keyed := by decide

/-- The same windows after the browser is gone. -/
def browserGone : WindowGraph where
  pids := [100]
  nodes := browserOpen.nodes.take 2
  children hwnd := if hwnd = 1 then [2] else []
  keyed := by decide

theorem browserOpen_listed {parent child : Hwnd} :
    child ∈ browserOpen.children parent ↔
      (parent = 1 ∧ child = 2) ∨ (parent = 3 ∧ child = 4) := by
  simp only [browserOpen]
  split_ifs <;> simp_all

theorem browserGone_listed {parent child : Hwnd} :
    child ∈ browserGone.children parent ↔ parent = 1 ∧ child = 2 := by
  simp only [browserGone]
  split_ifs <;> simp_all

theorem browserOpen_shaped : browserOpen.ForestShaped where
  toForest := by
    refine WindowGraph.forest_of_increasing ?_ ?_ ?_
    · intro parent
      simp only [browserOpen]
      split_ifs <;> decide
    · intro first second child inFirst inSecond
      have := browserOpen_listed.mp inFirst
      have := browserOpen_listed.mp inSecond
      grind
    · intro parent child listed
      have := browserOpen_listed.mp listed
      grind
  rooted := by
    intro parent child node listed found
    obtain ⟨rfl, rfl⟩ | ⟨rfl, rfl⟩ := browserOpen_listed.mp listed
    · cases found
      rfl
    · cases found
      rfl

theorem browserGone_shaped : browserGone.ForestShaped where
  toForest := by
    refine WindowGraph.forest_of_increasing ?_ ?_ ?_
    · intro parent
      simp only [browserGone]
      split_ifs <;> decide
    · intro first second child inFirst inSecond
      have := browserGone_listed.mp inFirst
      have := browserGone_listed.mp inSecond
      grind
    · intro parent child listed
      have := browserGone_listed.mp listed
      grind
  rooted := by
    intro parent child node listed found
    obtain ⟨rfl, rfl⟩ := browserGone_listed.mp listed
    cases found
    rfl

theorem browserOpen_inTree {hwnd : Hwnd} : browserOpen.InTree 3 hwnd ↔ hwnd = 3 ∨ hwnd = 4 := by
  constructor
  · intro inside
    induction inside with
    | refl => exact Or.inl rfl
    | tail _ listed ih =>
        have := browserOpen_listed.mp listed
        grind
  · rintro (rfl | rfl)
    · exact Relation.ReflTransGen.refl
    · exact Relation.ReflTransGen.single (browserOpen_listed.mpr (Or.inr ⟨rfl, rfl⟩))

theorem browserGone_inTree {hwnd : Hwnd} : browserGone.InTree 3 hwnd ↔ hwnd = 3 := by
  constructor
  · intro inside
    induction inside with
    | refl => rfl
    | tail _ listed ih =>
        have := browserGone_listed.mp listed
        grind
  · rintro rfl
    exact Relation.ReflTransGen.refl

theorem browser_closed : WindowGraph.ChangedInside 3 browserOpen browserGone where
  pids := rfl
  foreign := ⟨_, rfl, rfl, by decide⟩
  staysForeign node found := by cases found
  outside {hwnd} outside _ := by
    rw [browserOpen_inTree] at outside
    have third : ¬ (3 : Hwnd) = hwnd := by grind
    have fourth : ¬ (4 : Hwnd) = hwnd := by grind
    have isThird : ¬ hwnd = 3 := by grind
    constructor
    · simp [WindowGraph.get, browserGone, browserOpen, List.find?_cons, third, fourth]
    · simp [browserGone, browserOpen, isThird]
  gone {hwnd} inside outside := by
    rw [browserOpen_inTree] at inside
    rw [browserGone_inTree] at outside
    obtain rfl : hwnd = 4 := by grind
    rfl
  new {hwnd} inside outside := by
    rw [browserGone_inTree] at inside
    exact absurd (browserOpen_inTree.mpr (Or.inl inside)) outside

/-- Closing a browser changes nothing about the popup, which is hidden. -/
theorem browser_closed_same :
    let _ := asciiLowercase
    evaluateInner browserGone {} .default StateMap.empty false =
        evaluateInner browserOpen {} .default StateMap.empty false ∧
      (2 : Hwnd) ∈ (evaluateInner browserOpen {} .default StateMap.empty false).1.actions.hide :=
  let _ := asciiLowercase
  ⟨(foreign_windows_out_of_reach browserOpen_shaped {} .default StateMap.empty false).2 3
    browserGone browserGone_shaped browser_closed, by decide⟩

end LayoutAdblock.Core
