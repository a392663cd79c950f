import LayoutAdblock.Core.Evaluate.Effects
import LayoutAdblock.Core.Evaluate.Streaks

namespace LayoutAdblock.Core

open Ledger

/-! # Evaluations in closed form

When the rule classes are kept apart, one window is subject to one rule only.
What an evaluation does to it is then a condition on the graph and on the streak
the window brings along.
-/

theorem WindowGraph.enumWindows_nodup (graph : WindowGraph) : graph.enumWindows.Nodup := by
  unfold WindowGraph.enumWindows
  rw [(List.perm_insertionSort (· ≤ ·) _).nodup_iff]
  exact graph.keyed.sublist (List.filter_sublist.map WindowNode.hwnd)

theorem collectTopLevel_sublist (graph : WindowGraph) :
    ((collectTopLevel graph).map WindowNode.hwnd).Sublist graph.enumWindows := by
  have handles : ∀ hwnds : List Hwnd,
      ((hwnds.filterMap graph.get).map WindowNode.hwnd).Sublist hwnds := by
    intro hwnds
    induction hwnds with
    | nil => exact List.Sublist.refl _
    | cons hwnd rest ih =>
        cases found : graph.get hwnd with
        | none => simpa [found] using ih.cons hwnd
        | some node =>
            have same := WindowGraph.get_hwnd found
            simpa [found, same] using ih
  exact (List.filter_sublist.map WindowNode.hwnd).trans (handles _)

theorem collectTopLevel_nodup (graph : WindowGraph) :
    ((collectTopLevel graph).map WindowNode.hwnd).Nodup :=
  graph.enumWindows_nodup.sublist (collectTopLevel_sublist graph)

/-- The top-level windows come by ascending handles. -/
theorem collectTopLevel_sorted (graph : WindowGraph) :
    ((collectTopLevel graph).map WindowNode.hwnd).Pairwise (· ≤ ·) :=
  (List.pairwise_insertionSort (· ≤ ·) _).sublist (collectTopLevel_sublist graph)

/-- The top-level windows of a graph whose windows are those of another one, each
changed by `change`. -/
theorem collectTopLevel_map {first second : WindowGraph} {change : WindowNode → WindowNode}
    (keeps : ∀ node, (change node).hwnd = node.hwnd)
    (same : ∀ node, node ∈ collectTopLevel second ↔
      ∃ before ∈ collectTopLevel first, change before = node) :
    collectTopLevel second = (collectTopLevel first).map change := by
  have handles : ((collectTopLevel first).map change).map WindowNode.hwnd =
      (collectTopLevel first).map WindowNode.hwnd := by
    rw [List.map_map]
    exact List.map_congr_left fun node _ => keeps node
  have distinct : ((collectTopLevel first).map change).Nodup :=
    (handles ▸ collectTopLevel_nodup first).of_map
  have perm : (collectTopLevel second).Perm ((collectTopLevel first).map change) := by
    rw [List.perm_ext_iff_of_nodup (collectTopLevel_nodup second).of_map distinct]
    intro node
    rw [same, List.mem_map]
  refine perm.eq_of_pairwise ?_ (List.pairwise_map.mp (collectTopLevel_sorted second))
    (List.pairwise_map.mp (handles ▸ collectTopLevel_sorted first))
  intro node other inSecond inFirst below above
  have sameHandle : node.hwnd = other.hwnd := le_antisymm below above
  have found := (mem_collectTopLevel.mp inSecond).1
  have otherFound := (mem_collectTopLevel.mp ((same other).mpr (List.mem_map.mp inFirst))).1
  rw [sameHandle, otherFound] at found
  exact (Option.some.inj found).symm

theorem collectTopLevel_congr {first second : WindowGraph}
    (same : ∀ node, node ∈ collectTopLevel second ↔ node ∈ collectTopLevel first) :
    collectTopLevel second = collectTopLevel first := by
  have mapped := collectTopLevel_map (fun node => rfl)
    (fun node => (same node).trans ⟨fun top => ⟨node, top, rfl⟩,
      fun ⟨_, top, before⟩ => before ▸ top⟩)
  rw [mapped, List.map_id']

theorem confirmedMain_nodup (graph : WindowGraph) (rules : LayoutRules) :
    (confirmedMain graph rules).Nodup := by
  unfold confirmedMain
  refine List.Nodup.sublist (List.filter_sublist.map MainWindowPayload.hwnd) ?_
  unfold inspectMainWindows
  rw [((List.perm_insertionSort _ _).map MainWindowPayload.hwnd).nodup_iff, List.map_map]
  exact (collectTopLevel_nodup graph).sublist (List.filter_sublist.map WindowNode.hwnd)

theorem flatMap_of_nodup {α β : Type*} [DecidableEq α] {items : List α} {output : α → List β}
    {chosen : α} (distinct : items.Nodup)
    (others : ∀ item ∈ items, item ≠ chosen → output item = []) :
    items.flatMap output = if chosen ∈ items then output chosen else [] := by
  induction items with
  | nil => simp
  | cons head rest ih =>
      obtain ⟨fresh, distinctRest⟩ := List.nodup_cons.mp distinct
      have later := ih distinctRest fun item member =>
        others item (List.mem_cons_of_mem head member)
      by_cases same : head = chosen
      · subst same
        simp [later, fresh]
      · have nothing := others head (List.mem_cons_self ..) same
        simp [later, nothing, Ne.symm same]

theorem flatMap_occurrences {α β : Type*} [DecidableEq α] {items : List α} {output : α → List β}
    {chosen : α} (others : ∀ item ∈ items, item ≠ chosen → output item = []) :
    items.flatMap output = (List.replicate (items.count chosen) (output chosen)).flatten := by
  induction items with
  | nil => simp
  | cons head rest ih =>
      have later := ih fun item member => others item (List.mem_cons_of_mem head member)
      by_cases same : head = chosen
      · subst same
        simp [later, List.replicate_succ]
      · have nothing := others head (List.mem_cons_self ..) same
        simp [later, nothing, same]

variable [Unicode]

def childRound (graph : WindowGraph) (settings : LayoutSettings) (rules : LayoutRules)
    (tracksSignal : Bool) (parent : WindowNode) (parentRect : Rect) (child : WindowNode) :
    List Visit :=
  (if child.className = rules.evaChildClass ∧ child.text = "" ∧ parent.text ≠ "" then
    [closeVisitOf graph settings rules parent parentRect child] else []) ++
  if settings.aggressiveMode = true ∧ child.rect.isSome = true then
    [aggressiveVisitOf graph rules tracksSignal parentRect child] else []

theorem childVisits_eq_childRound {graph : WindowGraph} {settings : LayoutSettings}
    {rules : LayoutRules} {parent child : WindowNode} {parentRect : Rect} {context : ChildContext}
    (tracksSignal : Bool) (found : graph.get child.hwnd = some child)
    (built : childContext graph settings rules parent.hwnd parentRect child.hwnd =
      some context) :
    childVisits graph settings rules tracksSignal parent.text
        ((childContexts graph settings rules parent.hwnd parentRect).any ChildContext.adSignal)
        context =
      childRound graph settings rules tracksSignal parent parentRect child := by
  obtain ⟨node, sameFound, _, sameChild, identity, className, text, childRect, decision, _, _⟩ :=
    childContext_eq_some built
  obtain rfl : child = node := Option.some.inj (found.symm.trans sameFound)
  unfold childVisits childRound
  congr 1
  · simp only [closeVisit, className, text, sameChild, identity]
    split <;> rfl
  · rw [childRect] at decision
    by_cases aggressive : settings.aggressiveMode = true
    · cases rect : child.rect with
      | none => simp [aggressiveVisit, aggressive, childRect, rect]
      | some rect_ =>
          simp [aggressiveVisit, aggressive, childRect, rect, decision, sameChild, identity,
            aggressiveVisitOf]
    · simp [aggressiveVisit, aggressive]

theorem childRound_identity {graph : WindowGraph} {settings : LayoutSettings}
    {rules : LayoutRules} {tracksSignal : Bool} {parent child : WindowNode} {parentRect : Rect}
    {visit : Visit}
    (member : visit ∈ childRound graph settings rules tracksSignal parent parentRect child) :
    visit.identity = child.identity := by
  simp only [childRound, List.mem_append] at member
  rcases member with closes | hides
  · split at closes
    · rw [List.mem_singleton.mp closes]
      rfl
    · simp at closes
  · split at hides
    · rw [List.mem_singleton.mp hides]
      rfl
    · simp at hides

omit [Unicode] in
theorem visitsOf_flatMap {α : Type*} (key : WindowIdentity) (items : List α)
    (output : α → List Visit) :
    visitsOf key (items.flatMap output) = items.flatMap fun item => visitsOf key (output item) :=
  List.filter_flatMap ..

def mainPhase (graph : WindowGraph) (settings : LayoutSettings) (rules : LayoutRules)
    (tracksSignal : Bool) : List Visit :=
  (confirmedMain graph rules).flatMap (mainVisits graph settings rules tracksSignal)

omit [Unicode] in
/-- A window with a node is known by its identity. -/
theorem eq_of_identity {graph : WindowGraph} {first second : WindowNode}
    (foundFirst : graph.get first.hwnd = some first)
    (foundSecond : graph.get second.hwnd = some second)
    (same : first.identity = second.identity) : first = second := by
  have hwnds : first.hwnd = second.hwnd := congrArg WindowIdentity.hwnd same
  rw [hwnds] at foundFirst
  exact Option.some.inj (foundFirst.symm.trans foundSecond)

/-- The visits of a main window are the rounds of its listed children. -/
theorem mainVisits_rounds {graph : WindowGraph} {rules : LayoutRules} {parent : WindowNode}
    {parentRect : Rect} (settings : LayoutSettings) (tracksSignal : Bool)
    (found : graph.get parent.hwnd = some parent) (rect : parent.rect = some parentRect) :
    mainVisits graph settings rules tracksSignal parent.hwnd =
      (graph.children parent.hwnd).flatMap fun hwnd => (graph.get hwnd).toList.flatMap fun child =>
        if child.win32Parent = parent.hwnd then
          childRound graph settings rules tracksSignal parent parentRect child
        else [] := by
  have rounds : ∀ hwnd,
      (childContext graph settings rules parent.hwnd parentRect hwnd).toList.flatMap
        (childVisits graph settings rules tracksSignal parent.text
          ((childContexts graph settings rules parent.hwnd parentRect).any
            ChildContext.adSignal)) =
      (graph.get hwnd).toList.flatMap fun child =>
        if child.win32Parent = parent.hwnd then
          childRound graph settings rules tracksSignal parent parentRect child
        else [] := by
    intro hwnd
    cases childFound : graph.get hwnd with
    | none => simp [childContext, childFound]
    | some child =>
        have same := WindowGraph.get_hwnd childFound
        subst same
        by_cases owned : child.win32Parent = parent.hwnd
        · cases built : childContext graph settings rules parent.hwnd parentRect child.hwnd with
          | none => simp [childContext, childFound, owned] at built
          | some context =>
              simpa [owned] using childVisits_eq_childRound tracksSignal childFound built
        · simp [childContext, childFound, owned]
  unfold mainVisits mainContexts
  simp only [found, rect, Option.bind_some, Option.map_some]
  rw [childContexts, List.filterMap_eq_flatMap_toList, List.flatMap_assoc]
  rw [childContexts, List.filterMap_eq_flatMap_toList] at rounds
  exact List.flatMap_congr fun hwnd _ => rounds hwnd

/-- A main window only submits visits about the windows it owns. -/
theorem mainVisits_owned {graph : WindowGraph} {settings : LayoutSettings} {rules : LayoutRules}
    {tracksSignal : Bool} {wnd : Hwnd} {visit : Visit}
    (member : visit ∈ mainVisits graph settings rules tracksSignal wnd) :
    ∃ node, graph.get node.hwnd = some node ∧ node.win32Parent = wnd ∧
      visit.identity = node.identity := by
  cases found : graph.get wnd with
  | none => simp [mainVisits, mainContexts, found] at member
  | some parent =>
      have same := WindowGraph.get_hwnd found
      subst same
      cases rect : parent.rect with
      | none => simp [mainVisits, mainContexts, found, rect] at member
      | some parentRect =>
          rw [mainVisits_rounds settings tracksSignal found rect] at member
          obtain ⟨hwnd, _, inRounds⟩ := List.mem_flatMap.mp member
          obtain ⟨node, nodeFound, inRound⟩ := List.mem_flatMap.mp inRounds
          rw [Option.mem_toList] at nodeFound
          split at inRound
          · rename_i owned
            have sameNode := WindowGraph.get_hwnd nodeFound
            exact ⟨node, sameNode ▸ nodeFound, owned, childRound_identity inRound⟩
          · simp at inRound

/-- The first phase submits one round for every listing of a child. -/
theorem visitsOf_mainPhase {graph : WindowGraph} {settings : LayoutSettings}
    {rules : LayoutRules} {parent child : WindowNode} {parentRect : Rect} (tracksSignal : Bool)
    (main : MainChild graph rules parent parentRect child) :
    visitsOf child.identity (mainPhase graph settings rules tracksSignal) =
      (List.replicate ((graph.children parent.hwnd).count child.hwnd)
        (childRound graph settings rules tracksSignal parent parentRect child)).flatten := by
  have others : ∀ wnd ∈ confirmedMain graph rules, wnd ≠ parent.hwnd →
      visitsOf child.identity (mainVisits graph settings rules tracksSignal wnd) = [] := by
    intro wnd confirmed different
    refine visitsOf_other fun visit member same => different ?_
    obtain ⟨node, found, owned, identity⟩ := mainVisits_owned member
    obtain rfl := eq_of_identity found main.found (identity.symm.trans same)
    exact owned.symm.trans main.owned
  rw [mainPhase, visitsOf_flatMap, flatMap_of_nodup (confirmedMain_nodup graph rules) others,
    if_pos main.confirmed, mainVisits_rounds settings tracksSignal main.parentFound
      main.parentRect, visitsOf_flatMap]
  have other : ∀ hwnd ∈ graph.children parent.hwnd, hwnd ≠ child.hwnd →
      visitsOf child.identity ((graph.get hwnd).toList.flatMap fun node =>
        if node.win32Parent = parent.hwnd then
          childRound graph settings rules tracksSignal parent parentRect node
        else []) = [] := by
    intro hwnd _ different
    refine visitsOf_other fun visit member same => different ?_
    obtain ⟨node, found, inRound⟩ := List.mem_flatMap.mp member
    split at inRound
    · rw [childRound_identity inRound] at same
      rw [← WindowGraph.get_hwnd (Option.mem_toList.mp found)]
      exact congrArg WindowIdentity.hwnd same
    · simp at inRound
  rw [flatMap_occurrences other]
  congr 2
  rw [main.found]
  simp only [Option.toList_some, List.flatMap_cons, List.flatMap_nil, List.append_nil, main.owned,
    if_true]
  exact visitsOf_self fun visit member => childRound_identity member

/-- One window is subject to one rule: ad candidates, empty children and chrome
widgets are told apart by their class names. -/
structure LayoutRules.Separate (rules : LayoutRules) : Prop where
  evaNotChrome : isChromeWidgetClass rules rules.evaChildClass = false
  evaNotCandidate : rules.evaChildClass ∉ rules.adCandidateClasses
  candidateNotChrome : ∀ className ∈ rules.adCandidateClasses,
    isChromeWidgetClass rules className = false

omit [Unicode] in
theorem LayoutRules.default_separate : LayoutRules.default.Separate where
  evaNotChrome := by decide
  evaNotCandidate := by decide
  candidateNotChrome := by decide

theorem aggressive_miss {graph : WindowGraph} {rules : LayoutRules} {child : WindowNode}
    (tracksSignal : Bool) (parentRect : Rect)
    (plain : isChromeWidgetClass rules child.className = false) :
    (aggressiveVisitOf graph rules tracksSignal parentRect child).decision.matched = false := by
  unfold aggressiveVisitOf childAggressiveDecision
  cases child.rect with
  | none => rfl
  | some rect => simp [aggressiveHideDecision, plain]

/-- The legacy candidates already visited as children of a main window: the
aggressive pass has recorded a miss for them. -/
def resetsFirst (graph : WindowGraph) (settings : LayoutSettings) (rules : LayoutRules)
    (node : WindowNode) : Bool :=
  settings.aggressiveMode && node.rect.isSome &&
    (confirmedMain graph rules).contains node.win32Parent &&
    ((graph.get node.win32Parent).bind WindowNode.rect).isSome &&
    (graph.children node.win32Parent).contains node.hwnd

/-- The streak a legacy candidate brings to its turn. -/
def legacyStreak (graph : WindowGraph) (settings : LayoutSettings) (rules : LayoutRules)
    (states : StateMap) (node : WindowNode) : Int :=
  if resetsFirst graph settings rules node then 0 else states.streak node.identity

theorem candidateHandles_nodup (graph : WindowGraph) (rules : LayoutRules)
    (mainHandles : List Hwnd) : (candidateHandles graph rules mainHandles).Nodup := by
  have kept : ∀ nodes : List WindowNode,
      (nodes.filterMap fun node =>
        if !rules.adCandidateClasses.contains node.className then none
        else if mainHandles.contains node.win32Parent then
          if node.text = "" then some node.hwnd else none
        else if node.win32Parent = 0 && legacySignatureKind graph rules node.hwnd != "" then
          some node.hwnd
        else none).Sublist (nodes.map WindowNode.hwnd) := by
    intro nodes
    induction nodes with
    | nil => exact List.Sublist.refl _
    | cons node rest ih =>
        rw [List.filterMap_cons, List.map_cons]
        split
        · exact ih.cons node.hwnd
        · rename_i hwnd chosen
          have same : hwnd = node.hwnd := by
            split_ifs at chosen <;> simp_all
          rw [same]
          exact ih.cons_cons node.hwnd
  exact (collectTopLevel_nodup graph).sublist (kept _)

/-- The second phase submits one visit for every candidate. -/
theorem visitsOf_legacyPhase {graph : WindowGraph} {rules : LayoutRules} {node : WindowNode}
    (tracksSignal : Bool) (found : graph.get node.hwnd = some node) :
    visitsOf node.identity
        ((candidateHandles graph rules (confirmedMain graph rules)).filterMap
          (legacyVisit graph rules tracksSignal)) =
      if node.hwnd ∈ candidateHandles graph rules (confirmedMain graph rules) then
        [legacyVisitOf graph rules tracksSignal node]
      else [] := by
  rw [List.filterMap_eq_flatMap_toList, visitsOf_flatMap,
    flatMap_of_nodup (candidateHandles_nodup graph rules (confirmedMain graph rules))]
  · have own : visitsOf node.identity (legacyVisit graph rules tracksSignal node.hwnd).toList =
        [legacyVisitOf graph rules tracksSignal node] := by
      simp [legacyVisit, found, visitsOf, legacyVisitOf]
    rw [own]
  · intro hwnd _ different
    refine visitsOf_other fun visit member same => different ?_
    cases otherFound : graph.get hwnd with
    | none => simp [legacyVisit, otherFound] at member
    | some other =>
        simp only [legacyVisit, otherFound, Option.map_some, Option.toList_some,
          List.mem_singleton] at member
        rw [member] at same
        rw [← WindowGraph.get_hwnd otherFound]
        exact congrArg WindowIdentity.hwnd same

theorem ledgerVisits_phases (graph : WindowGraph) (settings : LayoutSettings)
    (rules : LayoutRules) (tracksSignal : Bool) :
    ledgerVisits graph settings rules tracksSignal =
      mainPhase graph settings rules tracksSignal ++
        (candidateHandles graph rules (confirmedMain graph rules)).filterMap
          (legacyVisit graph rules tracksSignal) := rfl

/-- The first phase only records misses about a legacy candidate. -/
theorem candidate_misses {graph : WindowGraph} {settings : LayoutSettings} {rules : LayoutRules}
    {node : WindowNode} {tracksSignal : Bool} {visit : Visit} (separate : rules.Separate)
    (found : graph.get node.hwnd = some node) (classed : node.className ∈ rules.adCandidateClasses)
    (member : visit ∈ visitsOf node.identity (mainPhase graph settings rules tracksSignal)) :
    visit.identity = node.identity ∧ visit.decision.matched = false ∧
      resetsFirst graph settings rules node = true := by
  obtain ⟨inPhase, identity⟩ := mem_visitsOf.mp member
  obtain ⟨parent, parentRect, child, main, rule⟩ :=
    mem_mainVisits.mp (List.mem_flatMap.mp inPhase)
  rcases rule with ⟨evaClass, _, _, rfl⟩ | ⟨aggressive, sized, rfl⟩
  · obtain rfl := eq_of_identity main.found found identity
    exact absurd (evaClass ▸ classed) separate.evaNotCandidate
  · obtain rfl := eq_of_identity main.found found identity
    refine ⟨identity, aggressive_miss _ _ (separate.candidateNotChrome _ classed), ?_⟩
    simp [resetsFirst, aggressive, sized, main.owned, main.confirmed, main.parentFound,
      main.parentRect, main.listed]

theorem resetsFirst_visits {graph : WindowGraph} {settings : LayoutSettings}
    {rules : LayoutRules} {node : WindowNode} (tracksSignal : Bool)
    (found : graph.get node.hwnd = some node)
    (resets : resetsFirst graph settings rules node = true) :
    visitsOf node.identity (mainPhase graph settings rules tracksSignal) ≠ [] := by
  simp only [resetsFirst, Bool.and_eq_true, List.contains_iff_mem] at resets
  obtain ⟨⟨⟨⟨aggressive, sized⟩, confirmed⟩, parentSized⟩, listed⟩ := resets
  obtain ⟨parentRect, parentRects⟩ := Option.isSome_iff_exists.mp parentSized
  obtain ⟨parent, parentFound, rect⟩ := Option.bind_eq_some_iff.mp parentRects
  have same := WindowGraph.get_hwnd parentFound
  have main : MainChild graph rules parent parentRect node :=
    { confirmed := same.symm ▸ confirmed
      parentFound := same.symm ▸ parentFound
      parentRect := rect
      listed := same.symm ▸ listed
      found := found
      owned := same.symm }
  have submitted : aggressiveVisitOf graph rules tracksSignal parentRect node ∈
      visitsOf node.identity (mainPhase graph settings rules tracksSignal) :=
    mem_visitsOf.mpr ⟨List.mem_flatMap.mpr (mem_mainVisits.mpr
      ⟨parent, parentRect, node, main, Or.inr ⟨aggressive, sized, rfl⟩⟩), rfl⟩
  exact List.ne_nil_of_mem submitted

def listings (graph : WindowGraph) (parent child : WindowNode) : Nat :=
  (graph.children parent.hwnd).count child.hwnd

omit [Unicode] in
theorem listings_pos {graph : WindowGraph} {rules : LayoutRules} {parent child : WindowNode}
    {parentRect : Rect} (main : MainChild graph rules parent parentRect child) :
    0 < listings graph parent child :=
  List.count_pos_iff.mpr main.listed

/-- A child that is no legacy candidate is only visited in the first phase. -/
theorem visitsOf_child {graph : WindowGraph} {settings : LayoutSettings} {rules : LayoutRules}
    {parent child : WindowNode} {parentRect : Rect} (tracksSignal : Bool)
    (main : MainChild graph rules parent parentRect child)
    (plain : child.className ∉ rules.adCandidateClasses) :
    visitsOf child.identity (ledgerVisits graph settings rules tracksSignal) =
      (List.replicate (listings graph parent child)
        (childRound graph settings rules tracksSignal parent parentRect child)).flatten := by
  rw [ledgerVisits_phases, visitsOf_append, visitsOf_mainPhase tracksSignal main,
    visitsOf_legacyPhase tracksSignal main.found]
  have refused : child.hwnd ∉ candidateHandles graph rules (confirmedMain graph rules) := by
    intro candidate
    obtain ⟨node, top, same, classed, _⟩ := mem_candidateHandles.mp candidate
    have found := (mem_collectTopLevel.mp top).1
    rw [same] at found
    obtain rfl := Option.some.inj (found.symm.trans main.found)
    exact plain classed
  rw [if_neg refused, List.append_nil]
  rfl

omit [Unicode] in
theorem LayoutRules.Separate.evaNe {rules : LayoutRules} (separate : rules.Separate)
    {className : String} (chrome : isChromeWidgetClass rules className = true) :
    className ≠ rules.evaChildClass := by
  rintro rfl
  simp [separate.evaNotChrome] at chrome

omit [Unicode] in
theorem LayoutRules.Separate.chromeNotCandidate {rules : LayoutRules} (separate : rules.Separate)
    {className : String} (chrome : isChromeWidgetClass rules className = true) :
    className ∉ rules.adCandidateClasses := by
  intro classed
  simp [separate.candidateNotChrome _ classed] at chrome

/-- A matched aggressive decision is about a chrome widget. -/
theorem aggressive_chrome {graph : WindowGraph} {rules : LayoutRules} {child : WindowNode}
    {tracksSignal : Bool} {parentRect : Rect}
    (matched : (aggressiveVisitOf graph rules tracksSignal parentRect child).decision.matched =
      true) : isChromeWidgetClass rules child.className = true := by
  by_contra plain
  rw [aggressive_miss tracksSignal parentRect (Bool.not_eq_true _ ▸ plain)] at matched
  contradiction

/-- The aggressive round of a chrome widget. -/
theorem chrome_round {graph : WindowGraph} {settings : LayoutSettings} {rules : LayoutRules}
    {parent child : WindowNode} {parentRect : Rect} (separate : rules.Separate)
    (chrome : isChromeWidgetClass rules child.className = true)
    (aggressive : settings.aggressiveMode = true) (sized : child.rect.isSome = true) :
    childRound graph settings rules false parent parentRect child =
      [aggressiveVisitOf graph rules false parentRect child] := by
  simp [childRound, separate.evaNe chrome, aggressive, sized]

theorem close_round {graph : WindowGraph} {settings : LayoutSettings} {rules : LayoutRules}
    {parent child : WindowNode} {parentRect : Rect} (separate : rules.Separate)
    (classed : child.className = rules.evaChildClass) (blank : child.text = "")
    (titled : parent.text ≠ "")
    (matched : (closeVisitOf graph settings rules parent parentRect child).decision.matched =
      true) :
    ∃ rest, childRound graph settings rules false parent parentRect child =
        closeVisitOf graph settings rules parent parentRect child :: rest ∧
      Round (closeVisitOf graph settings rules parent parentRect child) rest := by
  refine ⟨if settings.aggressiveMode = true ∧ child.rect.isSome = true then
    [aggressiveVisitOf graph rules false parentRect child] else [], ?_, matched, ?_⟩
  · simp [childRound, classed, blank, titled]
  · intro other member
    split at member
    · rw [List.mem_singleton.mp member]
      exact ⟨rfl, aggressive_miss false parentRect (classed ▸ separate.evaNotChrome)⟩
    · simp at member

theorem candidate_class {graph : WindowGraph} {rules : LayoutRules} {node : WindowNode}
    (top : node ∈ collectTopLevel graph)
    (candidate : node.hwnd ∈ candidateHandles graph rules (confirmedMain graph rules)) :
    node.className ∈ rules.adCandidateClasses :=
  ((candidate_node top).mp candidate).1

variable [Counting]

/-- The streak a legacy candidate brings to its turn. -/
theorem mainPhase_legacyStreak {graph : WindowGraph} {rules : LayoutRules} {node : WindowNode}
    (separate : rules.Separate) (settings : LayoutSettings) (states : StateMap)
    (tracksSignal : Bool) (found : graph.get node.hwnd = some node)
    (classed : node.className ∈ rules.adCandidateClasses) :
    ((opened states).recordAll rules.weakSignalConfirmTicks
        (mainPhase graph settings rules tracksSignal)).states.streak node.identity =
      legacyStreak graph settings rules states node := by
  rw [(recordAll_sameAt (opened states) rules.weakSignalConfirmTicks node.identity
    (mainPhase graph settings rules tracksSignal)).streak]
  have misses : ∀ visit ∈ visitsOf node.identity (mainPhase graph settings rules tracksSignal),
      visit.identity = node.identity ∧ visit.decision.matched = false := by
    intro visit member
    obtain ⟨identity, miss, _⟩ := candidate_misses separate found classed member
    exact ⟨identity, miss⟩
  unfold legacyStreak
  split
  · rename_i resets
    exact recordAll_misses_streak _ misses (by simp [opened])
      (Or.inl (resetsFirst_visits tracksSignal found resets))
  · rename_i keeps
    have nothing : visitsOf node.identity (mainPhase graph settings rules tracksSignal) = [] := by
      rw [List.eq_nil_iff_forall_not_mem]
      intro visit member
      exact keeps (candidate_misses separate found classed member).2.2
    rw [nothing]
    rfl

/-- A legacy candidate is confirmed with the streak it brings along. -/
theorem legacy_decided {graph : WindowGraph} {settings : LayoutSettings} {rules : LayoutRules}
    {states : StateMap} {node : WindowNode} (separate : rules.Separate)
    (found : graph.get node.hwnd = some node)
    (classed : node.className ∈ rules.adCandidateClasses)
    (candidate : node.hwnd ∈ candidateHandles graph rules (confirmedMain graph rules)) :
    legacyVisitOf graph rules false node ∈ decidedVisits graph settings rules states ↔
      confirmedAt (legacyHideDecision (legacySignatureKind graph rules node.hwnd))
        rules.weakSignalConfirmTicks (legacyStreak graph settings rules states node) = true := by
  have streak := mainPhase_legacyStreak separate settings states false found classed
  rw [(recordAll_sameAt (opened states) rules.weakSignalConfirmTicks node.identity
    (mainPhase graph settings rules false)).streak] at streak
  have misses : confirmedVisits rules.weakSignalConfirmTicks (opened states)
      (visitsOf node.identity (mainPhase graph settings rules false)) = [] :=
    confirmedVisits_misses fun visit member =>
      (candidate_misses separate found classed member).2.1
  unfold decidedVisits
  rw [mem_confirmedVisits_visitsOf, ledgerVisits_phases, visitsOf_append]
  change legacyVisitOf graph rules false node ∈ confirmedVisits _ _
    (visitsOf node.identity _ ++ visitsOf node.identity _) ↔ _
  rw [visitsOf_legacyPhase false found, if_pos candidate, confirmedVisits_append, misses,
    List.nil_append, confirmedVisits_singleton]
  change _ ∈ (if confirmedAt _ _ (StateMap.streak _ node.identity) = true then _ else _) ↔ _
  rw [streak]
  unfold legacyVisitOf
  split
  · rename_i confirmed
    simpa using confirmed
  · rename_i refused
    simpa using refused

/-- A matched first visit of a child is confirmed when one of its listings confirms it,
and each listing moves the streak once. -/
theorem round_decided {graph : WindowGraph} {settings : LayoutSettings} {rules : LayoutRules}
    {states : StateMap} {parent child : WindowNode} {parentRect : Rect} {visit : Visit}
    {rest : List Visit} (main : MainChild graph rules parent parentRect child)
    (plain : child.className ∉ rules.adCandidateClasses)
    (own : visit.identity = child.identity)
    (shape : childRound graph settings rules false parent parentRect child = visit :: rest)
    (round : Round visit rest) :
    (visit ∈ decidedVisits graph settings rules states ↔
      confirmedWithin visit.decision rules.weakSignalConfirmTicks
        (states.streak child.identity) (listings graph parent child)) ∧
    ((opened states).recordAll rules.weakSignalConfirmTicks
      (ledgerVisits graph settings rules false)).states.streak child.identity =
        Counting.next^[listings graph parent child] (states.streak child.identity) := by
  have visits : visitsOf child.identity (ledgerVisits graph settings rules false) =
      (List.replicate (listings graph parent child)
        (childRound graph settings rules false parent parentRect child)).flatten :=
    visitsOf_child false main plain
  rw [shape] at visits
  constructor
  · unfold decidedVisits
    rw [mem_confirmedVisits_visitsOf, own, visits, round.mem_confirmedVisits, own]
    exact and_iff_right rfl
  · rw [(recordAll_sameAt (opened states) rules.weakSignalConfirmTicks child.identity _).streak,
      visits, ← own, round.streak]
    rfl

/-- A chrome widget of a main window that the aggressive mode hides: at one of the times the
window is listed, its streak confirms the decision about it. -/
structure ChromeHidden (graph : WindowGraph) (settings : LayoutSettings) (rules : LayoutRules)
    (states : StateMap) (parent : WindowNode) (parentRect : Rect) (child : WindowNode) :
    Prop where
  main : MainChild graph rules parent parentRect child
  aggressive : settings.aggressiveMode = true
  sized : child.rect.isSome = true
  confirmed : confirmedWithin
    (childAggressiveDecision graph rules child.hwnd child.className parentRect child.rect)
    rules.weakSignalConfirmTicks
    (states.streak child.identity) (listings graph parent child)

/-- A legacy candidate that is hidden: a top-level window that is worth a look, whose streak
when its turn comes confirms the decision about it. -/
structure LegacyHidden (graph : WindowGraph) (settings : LayoutSettings) (rules : LayoutRules)
    (states : StateMap) (node : WindowNode) : Prop where
  top : node ∈ collectTopLevel graph
  candidate : node.hwnd ∈ candidateHandles graph rules (confirmedMain graph rules)
  confirmed : confirmedAt (legacyHideDecision (legacySignatureKind graph rules node.hwnd))
    rules.weakSignalConfirmTicks (legacyStreak graph settings rules states node) = true

/-- An empty child of a main window that is asked to close: it has the class and no text,
its parent has a title, and at one of the times it is listed the decision is confirmed. -/
structure EvaClosed (graph : WindowGraph) (settings : LayoutSettings) (rules : LayoutRules)
    (states : StateMap) (parent : WindowNode) (parentRect : Rect) (child : WindowNode) :
    Prop where
  main : MainChild graph rules parent parentRect child
  classed : child.className = rules.evaChildClass
  blank : child.text = ""
  titled : parent.text ≠ ""
  confirmed : confirmedWithin
    (emptyEvaCloseDecision rules child.className child.text parent.text
      (classNameStartsWith graph child.hwnd rules.customScrollPrefix 8)
      (mainArmed graph settings rules parent parentRect))
    rules.weakSignalConfirmTicks
    (states.streak child.identity) (listings graph parent child)

omit [Unicode] in
theorem matched_of_confirmedAt {decision : AdDecision} {ticks streak : Int}
    (confirmed : confirmedAt decision ticks streak = true) : decision.matched = true := by
  simp only [confirmedAt, Bool.and_eq_true] at confirmed
  exact confirmed.1

omit [Unicode] in
theorem matched_of_confirmedWithin {decision : AdDecision} {ticks streak : Int} {rounds : Nat}
    (confirmed : confirmedWithin decision ticks streak rounds) : decision.matched = true := by
  obtain ⟨_, _, confirmed⟩ := confirmed
  exact matched_of_confirmedAt confirmed

/-- A confirmed visit matches. -/
theorem decided_matched {graph : WindowGraph} {settings : LayoutSettings} {rules : LayoutRules}
    {states : StateMap} {visit : Visit}
    (decided : visit ∈ decidedVisits graph settings rules states) :
    visit.decision.matched = true := by
  obtain ⟨_, _, _, confirmed⟩ := mem_confirmedVisits.mp decided
  exact matched_of_confirmedAt confirmed

/-- The hides of the ledger phases, in closed form. -/
theorem mem_hideTargets_decided {graph : WindowGraph} {settings : LayoutSettings}
    {rules : LayoutRules} {states : StateMap} {hwnd : Hwnd} (separate : rules.Separate) :
    hwnd ∈ hideTargets (decidedVisits graph settings rules states) ↔
      (∃ parent parentRect child, child.hwnd = hwnd ∧
        ChromeHidden graph settings rules states parent parentRect child) ∨
      ∃ node, node.hwnd = hwnd ∧ LegacyHidden graph settings rules states node := by
  simp only [hideTargets, List.mem_map, List.mem_filter, beq_iff_eq]
  constructor
  · rintro ⟨visit, ⟨decided, hides⟩, rfl⟩
    have matched := decided_matched decided
    rcases mem_ledgerVisits.mp (mem_of_mem_confirmedVisits decided) with
      ⟨parent, parentRect, child, main, rule⟩ | ⟨node, top, candidate, rfl⟩
    · rcases rule with ⟨_, _, _, rfl⟩ | ⟨aggressive, sized, rfl⟩
      · simp only [closeVisitOf, emptyEvaCloseDecision_action] at hides
        split at hides <;> exact absurd hides (by decide)
      · have chrome := aggressive_chrome matched
        refine Or.inl ⟨parent, parentRect, child, rfl, main, aggressive, sized, ?_⟩
        exact (round_decided main (separate.chromeNotCandidate chrome) rfl
          (chrome_round separate chrome aggressive sized) ⟨matched, by simp⟩).1.mp decided
    · refine Or.inr ⟨node, rfl, top, candidate, ?_⟩
      exact (legacy_decided separate (mem_collectTopLevel.mp top).1
        (candidate_class top candidate) candidate).mp decided
  · rintro (⟨parent, parentRect, child, rfl, hidden⟩ | ⟨node, rfl, hidden⟩)
    · have matched := matched_of_confirmedWithin hidden.confirmed
      have chrome := aggressive_chrome (show
        (aggressiveVisitOf graph rules false parentRect child).decision.matched = true from matched)
      refine ⟨aggressiveVisitOf graph rules false parentRect child, ⟨?_, ?_⟩, rfl⟩
      · exact (round_decided hidden.main (separate.chromeNotCandidate chrome) rfl
          (chrome_round separate chrome hidden.aggressive hidden.sized)
          ⟨matched, by simp⟩).1.mpr hidden.confirmed
      · simp [aggressiveVisitOf, childAggressiveDecision_action, matched]
    · have matched := matched_of_confirmedAt hidden.confirmed
      refine ⟨legacyVisitOf graph rules false node, ⟨?_, ?_⟩, rfl⟩
      · exact (legacy_decided separate (mem_collectTopLevel.mp hidden.top).1
          (candidate_class hidden.top hidden.candidate) hidden.candidate).mpr hidden.confirmed
      · simp [legacyVisitOf, legacyHideDecision_action, matched]

/-- The closes of the ledger phases, in closed form. -/
theorem mem_closeTargets_decided {graph : WindowGraph} {settings : LayoutSettings}
    {rules : LayoutRules} {states : StateMap} {hwnd : Hwnd} (separate : rules.Separate) :
    hwnd ∈ closeTargets (decidedVisits graph settings rules states) ↔
      ∃ parent parentRect child, child.hwnd = hwnd ∧
        EvaClosed graph settings rules states parent parentRect child := by
  simp only [closeTargets, List.mem_map, List.mem_filter, beq_iff_eq]
  constructor
  · rintro ⟨visit, ⟨decided, closes⟩, rfl⟩
    have matched := decided_matched decided
    rcases mem_ledgerVisits.mp (mem_of_mem_confirmedVisits decided) with
      ⟨parent, parentRect, child, main, rule⟩ | ⟨node, _, _, rfl⟩
    · rcases rule with ⟨classed, blank, titled, rfl⟩ | ⟨_, _, rfl⟩
      · obtain ⟨rest, shape, round⟩ := close_round separate classed blank titled matched
        refine ⟨parent, parentRect, child, rfl, main, classed, blank, titled, ?_⟩
        exact (round_decided main (classed ▸ separate.evaNotCandidate) rfl shape round).1.mp
          decided
      · simp only [aggressiveVisitOf, childAggressiveDecision_action] at closes
        split at closes <;> exact absurd closes (by decide)
    · simp only [legacyVisitOf, legacyHideDecision_action] at closes
      split at closes <;> exact absurd closes (by decide)
  · rintro ⟨parent, parentRect, child, rfl, closed⟩
    have matched : (closeVisitOf graph settings rules parent parentRect child).decision.matched =
        true := matched_of_confirmedWithin closed.confirmed
    obtain ⟨rest, shape, round⟩ :=
      close_round separate closed.classed closed.blank closed.titled matched
    refine ⟨closeVisitOf graph settings rules parent parentRect child, ⟨?_, ?_⟩, rfl⟩
    · exact (round_decided closed.main (closed.classed ▸ separate.evaNotCandidate) rfl shape
        round).1.mpr closed.confirmed
    · rw [closeVisitOf] at matched ⊢
      simp [emptyEvaCloseDecision_action, matched]

/-- The windows an evaluation hides, in closed form. -/
theorem mem_hide_closedForm {graph : WindowGraph} {settings : LayoutSettings}
    {rules : LayoutRules} {states : StateMap} {withCandidates : Bool} {hwnd : Hwnd}
    (separate : rules.Separate) :
    hwnd ∈ (evaluateInner graph settings rules states withCandidates).1.actions.hide ↔
      ((∃ parent parentRect child, child.hwnd = hwnd ∧
          ChromeHidden graph settings rules states parent parentRect child) ∨
        ∃ node, node.hwnd = hwnd ∧ LegacyHidden graph settings rules states node) ∨
      hwnd ∈ popupTargets graph rules :=
  mem_evaluate_hide.trans (or_congr (mem_hideTargets_decided separate) Iff.rfl)

/-- The windows an evaluation asks to close, in closed form. -/
theorem mem_close_closedForm {graph : WindowGraph} {settings : LayoutSettings}
    {rules : LayoutRules} {states : StateMap} {withCandidates : Bool} {hwnd : Hwnd}
    (separate : rules.Separate) :
    hwnd ∈ (evaluateInner graph settings rules states withCandidates).1.actions.close ↔
      (∃ parent parentRect child, child.hwnd = hwnd ∧
        EvaClosed graph settings rules states parent parentRect child) ∨
      (hwnd ∈ popupTargets graph rules ∧ shownIn graph hwnd = true) :=
  mem_evaluate_close.trans (or_congr (mem_closeTargets_decided separate) Iff.rfl)

end LayoutAdblock.Core
