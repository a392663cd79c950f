import LayoutAdblock.Core.Evaluate.ForeignTrees
import LayoutAdblock.Core.Evaluate.SiblingOrder

namespace LayoutAdblock.Core

/-! # The windows a popup dismissal takes -/

variable {graph : WindowGraph} {rules : LayoutRules} {settings : LayoutSettings}
  {hwnd root : Hwnd}

/-- The windows reached from `root` through `depth` children lists. -/
inductive WindowGraph.AtDepth (graph : WindowGraph) (root : Hwnd) : Nat → Hwnd → Prop where
  | start : graph.AtDepth root 0 root
  | child {depth : Nat} {parent child : Hwnd} : graph.AtDepth root depth parent →
      child ∈ graph.children parent → graph.AtDepth root (depth + 1) child

namespace WindowGraph

theorem AtDepth.inTree {depth : Nat} (reached : graph.AtDepth root depth hwnd) :
    graph.InTree root hwnd := by
  induction reached with
  | start => exact Relation.ReflTransGen.refl
  | child _ listed inside => exact inside.tail listed

theorem atDepth_succ {depth : Nat} :
    graph.AtDepth root (depth + 1) hwnd ↔
      ∃ parent, graph.AtDepth root depth parent ∧ hwnd ∈ graph.children parent := by
  constructor
  · intro reached
    cases reached with
    | child above listed => exact ⟨_, above, listed⟩
  · intro below
    obtain ⟨parent, above, listed⟩ := below
    exact above.child listed

theorem mem_enumChildren (child : Hwnd) :
    child ∈ graph.enumChildren root ↔ graph.AtDepth root 1 child := by
  rw [atDepth_succ]
  constructor
  · intro listed
    exact ⟨root, AtDepth.start, listed⟩
  · intro below
    obtain ⟨parent, above, listed⟩ := below
    cases above
    exact listed

/-- A search that starts with the whole of one level meets every level it has
left, each window at its depth. -/
theorem mem_descendantsFrom_level {levels depth : Nat} {found : Int} {level : List Hwnd}
    (whole : ∀ child, child ∈ level ↔ graph.AtDepth root depth child) :
    (hwnd, found) ∈ graph.descendantsFrom levels depth level ↔
      ∃ reached : Nat, depth ≤ reached ∧ reached < depth + levels ∧ found = reached ∧
        graph.AtDepth root reached hwnd := by
  induction levels generalizing depth level with
  | zero =>
      simp only [descendantsFrom, List.not_mem_nil, false_iff]
      intro deeper
      obtain ⟨reached, above, below, _⟩ := deeper
      omega
  | succ levels ih =>
      have next : ∀ child, child ∈ level.flatMap graph.enumChildren ↔
          graph.AtDepth root (depth + 1) child := by
        intro child
        rw [List.mem_flatMap, atDepth_succ]
        exact exists_congr fun parent => and_congr_left fun _ => whole parent
      have deeper := ih next
      rw [Int.natCast_succ] at deeper
      simp only [descendantsFrom, List.mem_append, List.mem_map, Prod.mk.injEq, deeper]
      constructor
      · intro member
        cases member with
        | inl here =>
            obtain ⟨child, listed, rfl, rfl⟩ := here
            exact ⟨depth, le_rfl, by omega, rfl, (whole child).mp listed⟩
        | inr further =>
            obtain ⟨reached, above, below, same, inside⟩ := further
            exact ⟨reached, by omega, by omega, same, inside⟩
      · intro member
        obtain ⟨reached, above, below, rfl, inside⟩ := member
        by_cases here : reached = depth
        · subst here
          exact Or.inl ⟨hwnd, (whole hwnd).mpr inside, rfl, rfl⟩
        · exact Or.inr ⟨reached, by omega, by omega, rfl, inside⟩

/-- `enum_descendants` lists the windows at depths one to `maxDepth`. -/
theorem mem_enumDescendants {maxDepth found : Int} :
    (hwnd, found) ∈ graph.enumDescendants root maxDepth ↔
      (graph.get root).isSome = true ∧ ∃ depth : Nat, 1 ≤ depth ∧ (depth : Int) ≤ maxDepth ∧
        found = depth ∧ graph.AtDepth root depth hwnd := by
  have searched : (hwnd, found) ∈ graph.descendantsFrom maxDepth.toNat 1 (graph.enumChildren root) ↔
      ∃ depth : Nat, 1 ≤ depth ∧ depth < 1 + maxDepth.toNat ∧ found = depth ∧
        graph.AtDepth root depth hwnd :=
    mem_descendantsFrom_level mem_enumChildren
  unfold enumDescendants
  cases present : graph.get root with
  | none => simp
  | some node =>
      by_cases positive : maxDepth ≤ 0
      · simp only [positive, decide_true, Bool.true_or, if_true, List.not_mem_nil, false_iff]
        intro deeper
        obtain ⟨_, depth, least, most, _⟩ := deeper
        omega
      · simp only [positive, decide_false, Option.isNone_some, Bool.or_false, Bool.false_eq_true,
          if_false, Option.isSome_some, true_and]
        refine searched.trans (exists_congr fun depth => and_congr_right fun _ => ?_)
        exact and_congr_left' (by omega)

/-- A window is in the tree of one top-level window only. -/
theorem ForestShaped.one_root (shaped : graph.ForestShaped) {first second : WindowNode}
    (firstFound : graph.get first.hwnd = some first) (firstTop : first.structuralParent = none)
    (secondFound : graph.get second.hwnd = some second)
    (secondTop : second.structuralParent = none)
    (inFirst : graph.InTree first.hwnd hwnd) (inSecond : graph.InTree second.hwnd hwnd) :
    first.hwnd = second.hwnd := by
  have unlisted : ∀ {top : WindowNode} {parent : Hwnd}, graph.get top.hwnd = some top →
      top.structuralParent = none → top.hwnd ∉ graph.children parent := by
    intro top parent found isTop listed
    rw [shaped.rooted listed found] at isTop
    cases isTop
  induction inFirst with
  | refl =>
      cases inSecond.cases_tail with
      | inl same => exact same
      | inr last =>
          obtain ⟨_, _, listed⟩ := last
          exact absurd listed (unlisted firstFound firstTop)
  | tail _ listed ih =>
      cases inSecond.cases_tail with
      | inl same =>
          rw [same] at listed
          exact absurd listed (unlisted secondFound secondTop)
      | inr last =>
          obtain ⟨parent, above, also⟩ := last
          rw [shaped.oneParent also listed] at above
          exact ih above

end WindowGraph

/-- A top-level window without an owner that is no confirmed main window.  The
null handle is no owner. -/
structure PopupHost (graph : WindowGraph) (rules : LayoutRules) (host : WindowNode) : Prop where
  found : graph.get host.hwnd = some host
  parentless : host.structuralParent = none
  unowned : host.owner.getD 0 = 0
  notMain : host.hwnd ∉ confirmedMain graph rules

/-- `ad` is a descendant of `host` within the searched depth, of an ad class. -/
def AdBelow (graph : WindowGraph) (rules : LayoutRules) (host ad : Hwnd) : Prop :=
  (∃ depth : Nat, 1 ≤ depth ∧ (depth : Int) ≤ rules.popupSearchDepth ∧
    graph.AtDepth host depth ad) ∧
  ∃ node, graph.get ad = some node ∧ node.className ∈ rules.popupAdClasses

/-- The entries of width and height zero of one window. -/
def ActionLog.zeroEntries (actions : ActionLog) (hwnd : Hwnd) : List (List Int) :=
  actions.setPos.filter fun entry => decide (entry.take 1 = [hwnd] ∧ entry.drop 3 = [0, 0])

theorem isPopupHost_iff {host : WindowNode} (found : graph.get host.hwnd = some host)
    (parentless : host.structuralParent = none) :
    isPopupHost (confirmedMain graph rules) host = true ↔ PopupHost graph rules host := by
  have parent : host.win32Parent = host.owner.getD 0 := by
    unfold WindowNode.win32Parent
    rw [parentless, Option.or_none]
  simp only [isPopupHost, parent, Bool.and_eq_true, beq_iff_eq, Bool.not_eq_true',
    List.contains_eq_mem, decide_eq_false_iff_not]
  constructor
  · intro isHost
    obtain ⟨unowned, notMain⟩ := isHost
    exact ⟨found, parentless, unowned, notMain⟩
  · intro host
    exact ⟨host.unowned, host.notMain⟩

theorem adBelow_iff {host ad : Hwnd} (present : (graph.get host).isSome = true) :
    (∃ depth className, (ad, depth, className) ∈ findPopupMatches graph rules host false) ↔
      AdBelow graph rules host ad := by
  simp only [mem_findPopupMatches, WindowGraph.mem_enumDescendants, present, true_and]
  constructor
  · intro matched
    obtain ⟨_, _, ⟨depth, least, most, _, reached⟩, node, found, classed, rfl⟩ := matched
    exact ⟨⟨depth, least, most, reached⟩, node, found, classed⟩
  · intro below
    obtain ⟨⟨depth, least, most, reached⟩, node, found, classed⟩ := below
    exact ⟨depth, node.className, ⟨depth, least, most, rfl, reached⟩, node, found, classed, rfl⟩

theorem AdBelow.inTree {host ad : Hwnd} (below : AdBelow graph rules host ad) :
    graph.InTree host ad := by
  obtain ⟨⟨_, _, _, reached⟩, _⟩ := below
  exact reached.inTree

variable [Unicode]

/-- The windows a dismissal takes: an allowed popup host of a known process with
an ad window below it, and every such ad window. -/
def Dismissed (graph : WindowGraph) (rules : LayoutRules) (hwnd : Hwnd) : Prop :=
  ∃ host, PopupHost graph rules host ∧ host.pid ∈ graph.pids ∧
    popupHostGuardStatus rules host.text host.textKnown = .allow ∧
    ∃ ad, AdBelow graph rules host.hwnd ad ∧ (hwnd = host.hwnd ∨ hwnd = ad)

theorem mem_popupTargets_iff : hwnd ∈ popupTargets graph rules ↔ Dismissed graph rules hwnd := by
  rw [mem_popupTargets]
  constructor
  · intro target
    obtain ⟨host, top, isHost, allowed, ⟨ad, depth, className⟩, matched, taken⟩ := target
    obtain ⟨found, parentless, known⟩ := mem_collectTopLevel.mp top
    have present : (graph.get host.hwnd).isSome = true := by rw [found]; rfl
    exact ⟨host, (isPopupHost_iff found parentless).mp isHost, known, allowed, ad,
      (adBelow_iff present).mp ⟨depth, className, matched⟩, taken⟩
  · intro dismissed
    obtain ⟨host, isHost, known, allowed, ad, below, taken⟩ := dismissed
    have present : (graph.get host.hwnd).isSome = true := by rw [isHost.found]; rfl
    obtain ⟨depth, className, matched⟩ := (adBelow_iff present).mpr below
    exact ⟨host, mem_collectTopLevel.mpr ⟨isHost.found, isHost.parentless, known⟩,
      (isPopupHost_iff isHost.found isHost.parentless).mpr isHost, allowed,
      (ad, depth, className), matched, taken⟩

theorem Dismissed.zeroEntries {states : StateMap} {withCandidates : Bool}
    (dismissed : Dismissed graph rules hwnd) :
    (evaluateInner graph settings rules states withCandidates).1.actions.zeroEntries hwnd =
      [[hwnd, 0, 0, 0, 0]] := by
  obtain ⟨order, nodup, members, log⟩ := applyOnce_log graph settings rules states
  have listed : hwnd ∈ order := (members hwnd).mpr (mem_popupTargets_iff.mpr dismissed)
  unfold ActionLog.zeroEntries
  simp only [evaluateInner, log, retainAll_setPos, List.filter_append]
  have resizes : ((applyLedger graph settings rules (confirmedMain graph rules)
      (candidateHandles graph rules (confirmedMain graph rules)) states).log.setPos.filter
        fun entry => decide (entry.take 1 = [hwnd] ∧ entry.drop 3 = [0, 0])) = [] := by
    rw [List.filter_eq_nil_iff]
    intro entry planned zero
    have resized : entry ∈ viewResizes graph settings rules := by
      simpa [(applyLedger_applied graph settings rules states).setPos] using planned
    obtain ⟨_, _, _, _, _, width, height, _, _, _, _, _, _, placed, rfl⟩ :=
      mem_viewResizes.mp resized
    obtain ⟨_, _, positive, _⟩ := plannedViewResize_some placed
    simp only [List.take_succ_cons, List.take_zero, List.cons.injEq, and_true,
      List.drop_succ_cons, List.drop_zero, decide_eq_true_eq] at zero
    exact absurd zero.2.1 positive.ne'
  have zeroed : ((order.map fun target => [target, 0, 0, 0, 0]).filter
        fun entry => decide (entry.take 1 = [hwnd] ∧ entry.drop 3 = [0, 0])) =
      (order.filter fun target => decide (target = hwnd)).map fun target =>
        [target, 0, 0, 0, 0] := by
    rw [List.filter_map]
    simp [Function.comp_def]
  rw [resizes, zeroed, List.nil_append, List.filter_eq, List.count_eq_one_of_mem nodup listed]
  rfl

/-- A window that is asked to close outside the dismissal is listed by a confirmed
main window. -/
theorem closeTarget_listed {states : StateMap}
    (closed : hwnd ∈ closeTargets (decidedVisits graph settings rules states)) :
    ∃ main ∈ collectTopLevel graph, main.hwnd ∈ confirmedMain graph rules ∧
      hwnd ∈ graph.children main.hwnd := by
  obtain ⟨visit, kept, rfl⟩ := List.mem_map.mp closed
  obtain ⟨decided, closes⟩ := List.mem_filter.mp kept
  cases mem_ledgerVisits.mp (Ledger.mem_of_mem_confirmedVisits decided) with
  | inl ofChild =>
      obtain ⟨parent, parentRect, child, main, rule⟩ := ofChild
      obtain ⟨top, inTops, same, _⟩ := mem_confirmedMain.mp main.confirmed
      have visited : visit.hwnd = child.hwnd := by
        cases rule with
        | inl empty => exact empty.2.2.2 ▸ rfl
        | inr sized => exact sized.2.2 ▸ rfl
      refine ⟨top, inTops, ?_, ?_⟩
      · exact same ▸ main.confirmed
      · exact visited ▸ same ▸ main.listed
  | inr ofTop =>
      obtain ⟨node, _, _, rfl⟩ := ofTop
      simp only [legacyVisitOf, legacyHideDecision_action] at closes
      split at closes <;> exact absurd closes (by decide)

/-- Nothing below a blocked popup host is asked to close or zero-sized. -/
theorem blocked_host_untouched (shaped : graph.ForestShaped) {states : StateMap}
    {withCandidates : Bool} {host : WindowNode} (isHost : PopupHost graph rules host)
    (blocked : popupHostGuardStatus rules host.text host.textKnown = .blocked)
    (inside : graph.InTree host.hwnd hwnd) :
    let actions := (evaluateInner graph settings rules states withCandidates).1.actions
    hwnd ∉ actions.close ∧ ¬ actions.zeroSized hwnd := by
  have kept : hwnd ∉ popupTargets graph rules := by
    intro target
    obtain ⟨other, isOther, _, allowed, ad, below, taken⟩ := mem_popupTargets_iff.mp target
    have inOther : graph.InTree other.hwnd hwnd := by
      cases taken with
      | inl same => exact same ▸ Relation.ReflTransGen.refl
      | inr same => exact same ▸ below.inTree
    have sameRoot := shaped.one_root isHost.found isHost.parentless isOther.found
      isOther.parentless inside inOther
    have sameHost : some host = some other := by
      rw [← isHost.found, ← isOther.found, sameRoot]
    rw [Option.some.inj sameHost, allowed] at blocked
    cases blocked
  constructor
  · intro closed
    cases mem_evaluate_close.mp closed with
    | inl visited =>
        obtain ⟨main, top, confirmed, listed⟩ := closeTarget_listed visited
        obtain ⟨mainFound, mainTop, _⟩ := mem_collectTopLevel.mp top
        have sameRoot := shaped.one_root isHost.found isHost.parentless mainFound mainTop inside
          (Relation.ReflTransGen.single listed)
        exact isHost.notMain (sameRoot ▸ confirmed)
    | inr target => exact kept target.1
  · intro zeroed
    exact kept (evaluate_zeroSized.mp zeroed)

/-- The zero-sized windows are the dismissed ones.  Each has one entry, is hidden,
and is asked to close while it shows.  The tree of a blocked host stays as it is. -/
theorem popup_dismissal_exact (shaped : graph.ForestShaped) (settings : LayoutSettings)
    (rules : LayoutRules) (states : StateMap) (withCandidates : Bool) :
    let actions := (evaluateInner graph settings rules states withCandidates).1.actions
    (∀ hwnd, actions.zeroSized hwnd ↔ Dismissed graph rules hwnd) ∧
    (∀ hwnd, actions.zeroSized hwnd →
      actions.zeroEntries hwnd = [[hwnd, 0, 0, 0, 0]] ∧ hwnd ∈ actions.hide ∧
        (shownIn graph hwnd = true → hwnd ∈ actions.close)) ∧
    ∀ host, PopupHost graph rules host →
      popupHostGuardStatus rules host.text host.textKnown = .blocked →
      ∀ hwnd, graph.InTree host.hwnd hwnd → hwnd ∉ actions.close ∧ ¬ actions.zeroSized hwnd := by
  intro actions
  refine ⟨?_, ?_, ?_⟩
  · intro hwnd
    exact evaluate_zeroSized.trans mem_popupTargets_iff
  · intro hwnd zeroed
    have target := evaluate_zeroSized.mp zeroed
    refine ⟨(mem_popupTargets_iff.mp target).zeroEntries, ?_, ?_⟩
    · exact mem_evaluate_hide.mpr (Or.inr target)
    · intro shown
      exact mem_evaluate_close.mpr (Or.inr ⟨target, shown⟩)
  · intro host isHost blocked hwnd inside
    exact blocked_host_untouched shaped isHost blocked inside

omit [Unicode]

/-- An untitled host with a hidden ad window two levels down, and a titled host
with an ad window of its own. -/
def hostsGraph : WindowGraph where
  pids := [100]
  nodes :=
    [{ hwnd := 1, pid := 100, className := "EVA_Window", title := .known "",
       structuralParent := none, owner := none, rect := none, visible := true },
     { hwnd := 2, pid := 100, className := "EVA_ChildWindow", title := .known "",
       structuralParent := some 1, owner := none, rect := none, visible := true },
     { hwnd := 3, pid := 100, className := "AdFitWebView", title := .known "",
       structuralParent := some 2, owner := none, rect := none, visible := false },
     { hwnd := 5, pid := 100, className := "EVA_Window", title := .known "chat",
       structuralParent := none, owner := none, rect := none, visible := true },
     { hwnd := 6, pid := 100, className := "AdFitWebView", title := .known "",
       structuralParent := some 5, owner := none, rect := none, visible := true }]
  children hwnd := if hwnd = 1 then [2] else if hwnd = 2 then [3] else if hwnd = 5 then [6] else []
  keyed := by decide

theorem hostsGraph_listed {parent child : Hwnd} :
    child ∈ hostsGraph.children parent ↔
      (parent = 1 ∧ child = 2) ∨ (parent = 2 ∧ child = 3) ∨ (parent = 5 ∧ child = 6) := by
  simp only [hostsGraph]
  split_ifs <;> simp_all

theorem hostsGraph_shaped : hostsGraph.ForestShaped where
  toForest := by
    refine WindowGraph.forest_of_increasing ?_ ?_ ?_
    · intro parent
      simp only [hostsGraph]
      split_ifs <;> decide
    · intro first second child inFirst inSecond
      have := hostsGraph_listed.mp inFirst
      have := hostsGraph_listed.mp inSecond
      grind
    · intro parent child listed
      have := hostsGraph_listed.mp listed
      grind
  rooted := by
    intro parent child node listed found
    obtain ⟨rfl, rfl⟩ | ⟨rfl, rfl⟩ | ⟨rfl, rfl⟩ := hostsGraph_listed.mp listed
    all_goals
      cases found
      rfl

/-- The untitled host and its hidden ad window are taken, the window between them
and the titled host's ad window are not. -/
theorem hostsGraph_dismissal :
    let _ := asciiLowercase
    let actions := (evaluateInner hostsGraph {} .default StateMap.empty false).1.actions
    actions.zeroEntries 1 = [[1, 0, 0, 0, 0]] ∧ actions.zeroEntries 3 = [[3, 0, 0, 0, 0]] ∧
      (3 : Hwnd) ∈ actions.hide ∧ actions.zeroEntries 2 = [] ∧ ¬ actions.zeroSized 6 := by
  intro _ actions
  obtain ⟨_, taken, blocked⟩ :=
    popup_dismissal_exact hostsGraph_shaped {} .default StateMap.empty false
  have host := taken 1 ⟨0, 0, by decide⟩
  have ad := taken 3 ⟨0, 0, by decide⟩
  have titled := blocked hostsGraph.nodes[3] ⟨rfl, rfl, rfl, by decide⟩ (by decide) 6
    (Relation.ReflTransGen.single (hostsGraph_listed.mpr (Or.inr (Or.inr ⟨rfl, rfl⟩))))
  exact ⟨host.1, ad.1, ad.2.1, by decide, titled.2⟩

end LayoutAdblock.Core
