import LayoutAdblock.Core.Evaluate.Redrawn
import LayoutAdblock.Engine.StaticRules

namespace LayoutAdblock.Engine

open LayoutAdblock.Core Interaction Environment

/-! # No flapping

On a fixed desktop with fixed titles the engine only feeds its own changes back
into the next tick.  They change where windows are drawn and whether they are
visible, so what was hidden is hidden again and nothing is given back.  A view
gets its size in the first tick, unless it hangs then and recovers later.
-/

namespace Desktop

variable {desktop : Desktop}

/-- Two loads that have come equally far, into graphs that are only drawn differently. -/
structure Redrawn (first second : Loading) : Prop where
  graph : first.graph.Redrawn second.graph
  visited : second.visited = first.visited

theorem redrawn_insertNode {first second : WindowGraph} {node other : WindowNode}
    (redrawn : first.Redrawn second) (redraws : node.Redrawn other) :
    (first.insertNode node).Redrawn (second.insertNode other) where
  pids := redrawn.pids
  children := redrawn.children
  node := by
    intro hwnd found held
    rw [WindowGraph.get_insertNode] at held ⊢
    rw [redraws.hwnd]
    split at held
    · rename_i same
      rw [if_pos same]
      cases held
      exact ⟨other, rfl, redraws⟩
    · rename_i different
      rw [if_neg different]
      exact redrawn.node held
  back := by
    intro hwnd found held
    rw [WindowGraph.get_insertNode] at held ⊢
    rw [← redraws.hwnd]
    split at held
    · rename_i same
      rw [if_pos same]
      cases held
      exact ⟨node, rfl, redraws.symm⟩
    · rename_i different
      rw [if_neg different]
      exact redrawn.back held

theorem redrawn_setChildren {first second : WindowGraph} {hwnd : Hwnd} {children : List Hwnd}
    (redrawn : first.Redrawn second) :
    (first.setChildren hwnd children).Redrawn (second.setChildren hwnd children) where
  pids := redrawn.pids
  children := by
    simp only [WindowGraph.setChildren, redrawn.children]
  node := redrawn.node
  back := redrawn.back

theorem readNode_redrawn {first second : DesktopState} (same : second.title = first.title)
    (hwnd : Hwnd) (above : Option Hwnd) (pid : Pid) :
    ((readNode hwnd above pid).eval (desktop.answer first)).Redrawn
      ((readNode hwnd above pid).eval (desktop.answer second)) where
  hwnd := rfl
  pid := rfl
  className := rfl
  title := congrFun same hwnd
  structuralParent := rfl
  owner := rfl
  sized := rfl

theorem loadTree_redrawn {first second : DesktopState} (same : second.title = first.title)
    {pairs : List (Hwnd × Hwnd)} {pid : Pid} (fuel : Nat) {above : Option Hwnd} {hwnd : Hwnd}
    {one two : Loading} (redrawn : Redrawn one two) :
    Redrawn ((loadTree pairs pid fuel above hwnd one).eval (desktop.answer first))
      ((loadTree pairs pid fuel above hwnd two).eval (desktop.answer second)) := by
  induction fuel generalizing above hwnd one two with
  | zero => exact redrawn
  | succ fuel ih =>
      have children : ∀ (list : List Hwnd) {one two : Loading}, Redrawn one two →
          Redrawn ((loadTree.loadChildren (loadTree pairs pid fuel (some hwnd)) list one).eval
              (desktop.answer first))
            ((loadTree.loadChildren (loadTree pairs pid fuel (some hwnd)) list two).eval
              (desktop.answer second)) := by
        intro list
        induction list with
        | nil => exact id
        | cons child rest inner =>
            intro one two held
            simp only [loadTree.loadChildren, Program.eval_bind]
            exact inner (ih held)
      unfold loadTree
      rw [redrawn.visited]
      split
      · exact redrawn
      · simp only [ask, Program.eval_bind, Program.eval_ask, answer]
        by_cases alive : desktop.live hwnd = true
        · simp only [alive, Bool.not_true, Bool.false_eq_true, if_false, Program.eval_bind,
            Program.pure_eq, Program.eval_done]
          have opened : Redrawn
              { graph := one.graph.insertNode
                  ((readNode hwnd above pid).eval (desktop.answer first))
                visited := hwnd :: one.visited }
              { graph := two.graph.insertNode
                  ((readNode hwnd above pid).eval (desktop.answer second))
                visited := hwnd :: one.visited } :=
            ⟨redrawn_insertNode redrawn.graph (readNode_redrawn same hwnd above pid), rfl⟩
          have loaded := children (childrenOf pairs hwnd) opened
          exact ⟨redrawn_setChildren loaded.graph, loaded.visited⟩
        · simp only [alive]
          exact ⟨redrawn.graph, rfl⟩

theorem loadTops_redrawn {first second : DesktopState} (same : second.title = first.title)
    {tops : List (Hwnd × Pid)} {one two : Loading} (redrawn : Redrawn one two) :
    ((loadTops tops one).eval (desktop.answer first)).Redrawn
      ((loadTops tops two).eval (desktop.answer second)) := by
  induction tops generalizing one two with
  | nil => exact redrawn.graph
  | cons top rest ih =>
      simp only [loadTops, childMap, ask, Program.eval_bind, Program.eval_ask, answer,
        eval_childPairs]
      exact ih (loadTree_redrawn same _ redrawn)

theorem graphOf_redrawn {first second : DesktopState} (same : second.title = first.title)
    (pids : List Pid) : (desktop.graphOf first pids).Redrawn (desktop.graphOf second pids) := by
  have self : (WindowGraph.empty pids).Redrawn (WindowGraph.empty pids) :=
    { pids := rfl
      children := rfl
      node := by intro hwnd node found; cases found
      back := by intro hwnd node found; cases found }
  unfold graphOf buildGraph
  split
  · rename_i none
    rw [List.isEmpty_iff.mp none] at self
    exact self
  · simp only [ask, Program.eval_bind, Program.eval_ask, answer, eval_topLevelWindows]
    exact loadTops_redrawn same ⟨self, rfl⟩

theorem passes_redrawn {first second : WindowGraph} (redrawn : first.Redrawn second)
    {pids : List Pid} {hwnd : Hwnd} (passed : desktop.passes first pids hwnd = true) :
    desktop.passes second pids hwnd = true := by
  simp only [passes, targets, Bool.and_eq_true, Option.any_eq_true] at passed ⊢
  obtain ⟨⟨enabled, node, found, checked⟩, responds⟩ := passed
  obtain ⟨other, also, redraws⟩ := redrawn.node found
  refine ⟨⟨enabled, other, also, ?_⟩, responds⟩
  rw [redraws.pid, redraws.identity]
  exact checked

section Entries

variable [Unicode] {graph : WindowGraph} {settings : LayoutSettings} {rules : LayoutRules}
  {states : StateMap} {state : DesktopState}

/-- An entry with a positive width is a view resize. -/
theorem view_of_positive {pos : List Int}
    (member : pos ∈ (evaluateInner graph settings rules states false).1.actions.setPos)
    (wide : 0 < pos.getD 3 0) : pos ∈ viewResizes graph settings rules := by
  cases mem_evaluate_setPos.mp member with
  | inl view => exact view
  | inr zeroed =>
      obtain ⟨hwnd, _, rfl⟩ := zeroed
      exact absurd wide (by simp)

/-- A view resize asks for an `i32` size. -/
theorem view_size {pos : List Int} (view : pos ∈ viewResizes graph settings rules) :
    0 < pos.getD 3 0 ∧ wrapI32 (pos.getD 3 0) = pos.getD 3 0 ∧
      0 < pos.getD 4 0 ∧ wrapI32 (pos.getD 4 0) = pos.getD 4 0 := by
  obtain ⟨_, _, _, x, y, width, height, _, _, _, _, _, _, planned, rfl⟩ :=
    mem_viewResizes.mp view
  obtain ⟨_, _, wide, high, _⟩ := plannedViewResize_some planned
  have fits := plannedViewResize_fits planned
  have wideFits : wrapI32 width = width := wrapI32_of_fits (by omega) fits.1
  have highFits : wrapI32 height = height := wrapI32_of_fits (by omega) fits.2
  exact ⟨wide, wideFits, high, highFits⟩

/-- Any other entry zeroes a popup. -/
theorem popup_of_zero {pos : List Int}
    (member : pos ∈ (evaluateInner graph settings rules states false).1.actions.setPos)
    (zero : zeroSizes pos = true) :
    ∃ hwnd ∈ popupTargets graph rules, pos = [hwnd, 0, 0, 0, 0] := by
  cases mem_evaluate_setPos.mp member with
  | inl view =>
      obtain ⟨parent, child, parentRect, x, y, width, height, _, _, _, _, _, _, planned, rfl⟩ :=
        mem_viewResizes.mp view
      obtain ⟨_, _, wide, high, _⟩ := plannedViewResize_some planned
      simp only [zeroSizes, List.getD_cons_succ, List.getD_cons_zero, Bool.and_eq_true,
        Bool.or_eq_true, decide_eq_true_eq] at zero
      omega
  | inr zeroed => exact zeroed

theorem hide_of_captureTargets {hwnd : Hwnd}
    (target : hwnd ∈ captureTargets (evaluateInner graph settings rules states false).1) :
    hwnd ∈ (evaluateInner graph settings rules states false).1.actions.hide := by
  cases List.mem_append.mp target with
  | inl hidden => exact hidden
  | inr zeroed =>
      obtain ⟨pos, member, rfl⟩ := List.mem_map.mp zeroed
      obtain ⟨listed, zero⟩ := List.mem_filter.mp member
      obtain ⟨hwnd, popup, rfl⟩ := popup_of_zero listed zero
      exact mem_evaluate_hide.mpr (Or.inr popup)

/-- A window has one resize: it has one parent. -/
theorem viewResizes_unique {first second : List Int}
    (one : first ∈ viewResizes graph settings rules)
    (two : second ∈ viewResizes graph settings rules)
    (same : first.getD 0 0 = second.getD 0 0) : first = second := by
  obtain ⟨parent, child, parentRect, x, y, width, height, _, parentFound, rect, _, found, owned,
    planned, rfl⟩ := mem_viewResizes.mp one
  obtain ⟨otherParent, otherChild, otherRect, otherX, otherY, otherWidth, otherHeight, _,
    otherParentFound, otherRects, _, otherFound, otherOwned, otherPlanned, rfl⟩ :=
    mem_viewResizes.mp two
  have sameChild : child.hwnd = otherChild.hwnd := same
  rw [← sameChild, found] at otherFound
  obtain rfl := Option.some.inj otherFound
  rw [← otherOwned, owned, parentFound] at otherParentFound
  obtain rfl := Option.some.inj otherParentFound
  rw [rect] at otherRects
  obtain rfl := Option.some.inj otherRects
  rw [planned] at otherPlanned
  simp only [Option.some.injEq, Prod.mk.injEq] at otherPlanned
  obtain ⟨rfl, rfl, rfl, rfl⟩ := otherPlanned
  rfl

omit [Unicode] in
theorem main_top (pictures : Pictures desktop state graph) {hwnd : Hwnd}
    (confirmed : hwnd ∈ confirmedMain graph rules) : desktop.parent hwnd = none := by
  obtain ⟨node, top, rfl, _⟩ := mem_confirmedMain.mp confirmed
  obtain ⟨found, root, _⟩ := mem_collectTopLevel.mp top
  rw [← pictures.fits found]
  exact root

theorem view_child (pictures : Pictures desktop state graph) {pos : List Int}
    (view : pos ∈ viewResizes graph settings rules) :
    ∃ parent, desktop.parent (pos.getD 0 0) = some parent := by
  obtain ⟨parent, child, _, _, _, _, _, _, _, _, listed, _, _, _, rfl⟩ := mem_viewResizes.mp view
  exact ⟨parent.hwnd, pictures.listed listed⟩

/-- The views of a main window are no popups: they are not top-level, and no popup
host is above them. -/
theorem view_not_popup (pictures : Pictures desktop state graph) {pos : List Int}
    (view : pos ∈ viewResizes graph settings rules) :
    pos.getD 0 0 ∉ popupTargets graph rules := by
  obtain ⟨parent, child, _, _, _, _, _, confirmed, _, _, listed, found, _, _, rfl⟩ :=
    mem_viewResizes.mp view
  have below : desktop.parent child.hwnd = some parent.hwnd := pictures.listed listed
  have isMain := main_top pictures confirmed
  intro target
  obtain ⟨item, top, host, _, ⟨inside, depth, className⟩, matched, rule⟩ :=
    mem_popupTargets.mp target
  have itemTop : desktop.parent item.hwnd = none := by
    obtain ⟨itemFound, root, _⟩ := mem_collectTopLevel.mp top
    rw [← pictures.fits itemFound]
    exact root
  cases rule with
  | inl isItem =>
      change child.hwnd = item.hwnd at isItem
      rw [isItem, itemTop] at below
      cases below
  | inr isInside =>
      change child.hwnd = inside at isInside
      subst isInside
      have inTree := (mem_findPopupMatches.mp matched).1
      unfold WindowGraph.enumDescendants at inTree
      split at inTree
      · cases inTree
      · rcases WindowGraph.mem_descendantsFrom_listed inTree with
          direct | ⟨above, listedAbove, higher⟩
        · have isItem := pictures.listed direct
          rw [below] at isItem
          have notMain : item.hwnd ∉ confirmedMain graph rules := by
            simp only [isPopupHost, Bool.and_eq_true, Bool.not_eq_true', List.contains_eq_mem,
              decide_eq_false_iff_not] at host
            exact host.2
          exact notMain (Option.some.inj isItem ▸ confirmed)
        · have isParent := pictures.listed listedAbove
          rw [below] at isParent
          have sameParent := Option.some.inj isParent
          have child : ∃ grandparent, desktop.parent parent.hwnd = some grandparent := by
            rw [sameParent]
            cases higher with
            | inl inLevel => exact ⟨_, pictures.listed inLevel⟩
            | inr inDeeper =>
                obtain ⟨grandparent, listedHigher⟩ := inDeeper
                exact ⟨grandparent, pictures.listed listedHigher⟩
          obtain ⟨grandparent, isHigher⟩ := child
          rw [isMain] at isHigher
          cases isHigher

/-- A main window is no popup host, and nothing lists it. -/
theorem main_not_popup (pictures : Pictures desktop state graph) {hwnd : Hwnd}
    (confirmed : hwnd ∈ confirmedMain graph rules) : hwnd ∉ popupTargets graph rules := by
  have isMain := main_top pictures confirmed
  intro target
  obtain ⟨item, top, host, _, ⟨inside, depth, className⟩, matched, rule⟩ :=
    mem_popupTargets.mp target
  cases rule with
  | inl isItem =>
      simp only [isPopupHost, ← isItem, Bool.and_eq_true, Bool.not_eq_true',
        List.contains_eq_mem, decide_eq_false_iff_not] at host
      exact host.2 confirmed
  | inr isInside =>
      change hwnd = inside at isInside
      subst isInside
      have inTree := (mem_findPopupMatches.mp matched).1
      unfold WindowGraph.enumDescendants at inTree
      split at inTree
      · cases inTree
      · have listed : ∃ above, hwnd ∈ graph.children above := by
          cases WindowGraph.mem_descendantsFrom inTree with
          | inl direct => exact ⟨item.hwnd, direct⟩
          | inr deeper => exact deeper
        obtain ⟨above, listed⟩ := listed
        rw [pictures.listed listed] at isMain
        cases isMain

end Entries

section Tick

variable [Unicode]

/-- What a tick that starts in this state does to the windows. -/
def plan (desktop : Desktop) (pids : List Pid) (state : DesktopState) : Evaluation :=
  (desktop.evaluated state pids .default false).1

/-- No planned resize of the window can be applied. -/
def Fitted (desktop : Desktop) (pids : List Pid) (state : DesktopState) (hwnd : Hwnd) : Prop :=
  ∀ pos ∈ (desktop.plan pids state).actions.setPos, pos.getD 0 0 = hwnd → 0 < pos.getD 3 0 →
    0 < pos.getD 4 0 → desktop.passes (desktop.graphOf state pids) pids hwnd = false

/-- The tick that started in `before` hides the window of the snapshot. -/
def Matched (desktop : Desktop) (pids : List Pid) (before : DesktopState)
    (identity : WindowIdentity) : Prop :=
  identity.hwnd ∈ (desktop.plan pids before).actions.hide ∧
    ∃ node, (desktop.graphOf before pids).get identity.hwnd = some node ∧
      node.identity = identity

/-- The windows in the middle of a tick. None has appeared, those that neither the popup
phase nor a resize names stand where they stood, and those whose resize is done have the
size that was planned. -/
structure Drawn (desktop : Desktop) (pids : List Pid) (before : DesktopState)
    (rest : List (List Int)) (state : DesktopState) : Prop where
  title : state.title = before.title
  aggressive : state.aggressive = before.aggressive
  dark : ∀ hwnd, before.visible hwnd = false → state.visible hwnd = false
  shown : state.shown = before.shown
  untouched : ∀ {hwnd}, hwnd ∉ popupTargets (desktop.graphOf before pids) .default →
    (∀ pos ∈ (desktop.plan pids before).actions.setPos, 0 < pos.getD 3 0 →
      pos.getD 0 0 ≠ hwnd) → state.place hwnd = before.place hwnd
  fitted : ∀ pos ∈ (desktop.plan pids before).actions.setPos, 0 < pos.getD 3 0 →
    0 < pos.getD 4 0 →
    desktop.refuses (desktop.graphOf before pids) pids (pos.getD 0 0) = false →
    pos ∈ rest ∨ (state.place (pos.getD 0 0)).width = pos.getD 3 0 ∧
      (state.place (pos.getD 0 0)).height = pos.getD 4 0
  grown : ∀ hwnd, desktop.Fitted pids before hwnd →
    state.grown.count hwnd = before.grown.count hwnd

/-- The snapshots and the streaks in the middle of a tick. -/
structure Stored (desktop : Desktop) (pids : List Pid) (before : DesktopState)
    (states : StateMap) (state : DesktopState) : Prop where
  named : ∀ identity ∈ state.caches.snapshots, desktop.names identity = true
  matched : ∀ identity ∈ state.caches.snapshots, desktop.Matched pids before identity
  states : state.caches.states = states

/-- Between two positions of a tick: the snapshots are there, and what is left to be done is
the rest of the list. -/
def Middle (desktop : Desktop) (pids : List Pid) (before : DesktopState) (states : StateMap)
    (rest : List (List Int)) (state : DesktopState) : Prop :=
  Stored desktop pids before states state ∧ Drawn desktop pids before rest state

variable {pids : List Pid} {before state : DesktopState} {states : StateMap}
  {rest : List (List Int)}

theorem Stored.remember {hwnd : Hwnd} (stored : Stored desktop pids before states state)
    (target : hwnd ∈ captureTargets (desktop.plan pids before))
    (passed : desktop.passes (desktop.graphOf before pids) pids hwnd = true) :
    Stored desktop pids before states (desktop.remember state hwnd) := by
  obtain ⟨node, found, same, named⟩ := node_of_passes passed
  unfold Desktop.remember
  split
  · exact stored
  · have known : ∀ identity ∈ state.caches.snapshots.insert (desktop.identity hwnd)
        (desktop.snapshot state hwnd),
        identity = desktop.identity hwnd ∨ identity ∈ state.caches.snapshots :=
      fun identity member => (AList.mem_insert _).mp member
    refine ⟨?_, ?_, stored.states⟩
    · intro identity member
      cases known identity member with
      | inl isWindow => rw [isWindow]; exact named
      | inr before => exact stored.named identity before
    · intro identity member
      cases known identity member with
      | inl isWindow =>
          rw [isWindow]
          exact ⟨hide_of_captureTargets target, node, found, same⟩
      | inr before => exact stored.matched identity before

theorem Drawn.remember {hwnd : Hwnd} (drawn : Drawn desktop pids before rest state) :
    Drawn desktop pids before rest (desktop.remember state hwnd) := by
  unfold Desktop.remember
  split
  · exact drawn
  · exact ⟨drawn.title, drawn.aggressive, drawn.dark, drawn.shown, drawn.untouched,
      drawn.fitted, drawn.grown⟩

theorem Drawn.hide {hwnd : Hwnd} (drawn : Drawn desktop pids before rest state) :
    Drawn desktop pids before rest (state.setVisible hwnd .hide) where
  title := drawn.title
  aggressive := drawn.aggressive
  dark := by
    intro other dark
    simp only [DesktopState.setVisible]
    split
    · rfl
    · exact drawn.dark other dark
  shown := drawn.shown
  untouched := drawn.untouched
  fitted := drawn.fitted
  grown := drawn.grown

/-- A resize gives its window the planned size. -/
theorem Drawn.resize {pos : List Int} {flags : List SwpFlag}
    (drawn : Drawn desktop pids before (pos :: rest) state)
    (member : pos ∈ (desktop.plan pids before).actions.setPos)
    (passed : desktop.passes (desktop.graphOf before pids) pids (pos.getD 0 0) = true)
    (wide : 0 < pos.getD 3 0) (high : 0 < pos.getD 4 0) :
    Drawn desktop pids before rest
      (state.setPlace (pos.getD 0 0) (wrapI32 (pos.getD 1 0)) (wrapI32 (pos.getD 2 0))
        (wrapI32 (pos.getD 3 0)) (wrapI32 (pos.getD 4 0)) flags) where
  title := drawn.title
  aggressive := drawn.aggressive
  dark := drawn.dark
  shown := drawn.shown
  untouched := by
    intro hwnd noPopup noView
    rw [DesktopState.setPlace_other (noView pos member wide).symm]
    exact drawn.untouched noPopup noView
  fitted := by
    intro other otherMember otherWide otherHigh certain
    by_cases same : other.getD 0 0 = pos.getD 0 0
    · obtain rfl := viewResizes_unique (view_of_positive otherMember otherWide)
        (view_of_positive member wide) same
      obtain ⟨_, fitsWide, _, fitsHigh⟩ := view_size (view_of_positive member wide)
      rw [DesktopState.setPlace_self, DesktopState.moved, fitsWide, fitsHigh]
      exact Or.inr ⟨max_eq_right wide.le, max_eq_right high.le⟩
    · rw [DesktopState.setPlace_other same]
      cases drawn.fitted other otherMember otherWide otherHigh certain with
      | inl listed =>
          cases List.mem_cons.mp listed with
          | inl isPos => exact absurd (congrArg (List.getD · 0 0) isPos) same
          | inr later => exact Or.inl later
      | inr sized => exact Or.inr sized
  grown := by
    intro hwnd fitted
    by_cases same : pos.getD 0 0 = hwnd
    · subst same
      rw [fitted pos member rfl wide high] at passed
      cases passed
    · rw [← drawn.grown hwnd fitted]
      simp only [DesktopState.setPlace]
      split
      · exact List.count_cons_of_ne same
      · rfl

/-- A popup that is made small is no view. -/
theorem Drawn.zero {pos : List Int} {flags : List SwpFlag}
    (drawn : Drawn desktop pids before (pos :: rest) state)
    (member : pos ∈ (desktop.plan pids before).actions.setPos) (zero : zeroSizes pos = true) :
    Drawn desktop pids before rest
      (state.setPlace (pos.getD 0 0) (wrapI32 (pos.getD 1 0)) (wrapI32 (pos.getD 2 0))
        (wrapI32 (pos.getD 3 0)) (wrapI32 (pos.getD 4 0)) flags) := by
  obtain ⟨popup, target, rfl⟩ := popup_of_zero member zero
  exact
    { title := drawn.title
      aggressive := drawn.aggressive
      dark := drawn.dark
      shown := drawn.shown
      untouched := by
        intro hwnd noPopup noView
        have different : hwnd ≠ popup := by
          intro same
          exact noPopup (same ▸ target)
        have still := drawn.untouched noPopup noView
        rw [← still]
        exact DesktopState.setPlace_other different
      fitted := by
        intro other otherMember otherWide otherHigh certain
        have notPopup := view_not_popup (buildGraph_pictures before pids)
          (view_of_positive otherMember otherWide)
        have different : other.getD 0 0 ≠ popup := by
          intro same
          exact notPopup (same ▸ target)
        cases drawn.fitted other otherMember otherWide otherHigh certain with
        | inl listed =>
            cases List.mem_cons.mp listed with
            | inl isPos => exact absurd (congrArg (List.getD · 0 0) isPos) different
            | inr later => exact Or.inl later
        | inr sized =>
            right
            have still : (state.setPlace popup (wrapI32 0) (wrapI32 0) (wrapI32 0) (wrapI32 0)
                flags).place (other.getD 0 0) = state.place (other.getD 0 0) :=
              DesktopState.setPlace_other different
            exact still ▸ sized
      grown := drawn.grown }

theorem Drawn.skip {pos : List Int} (drawn : Drawn desktop pids before (pos :: rest) state)
    (refused : 0 < pos.getD 3 0 → 0 < pos.getD 4 0 →
      desktop.refuses (desktop.graphOf before pids) pids (pos.getD 0 0) = true) :
    Drawn desktop pids before rest state :=
  { drawn with
    fitted := by
      intro other member wide high certain
      cases drawn.fitted other member wide high certain with
      | inl listed =>
          cases List.mem_cons.mp listed with
          | inl same =>
              subst same
              rw [refused wide high] at certain
              cases certain
          | inr later => exact Or.inl later
      | inr sized => exact Or.inr sized }

theorem middle_acts :
    desktop.Acts (desktop.graphOf before pids) (desktop.plan pids before) pids
      (Middle desktop pids before states) where
  capture := fun target passed middle =>
    ⟨middle.1.remember target passed, middle.2.remember⟩
  hide := fun _ _ _ middle =>
    ⟨⟨middle.1.named, middle.1.matched, middle.1.states⟩, middle.2.hide⟩
  resize := fun member middle passed wide high =>
    ⟨⟨middle.1.named, middle.1.matched, middle.1.states⟩,
      middle.2.resize member passed wide high⟩
  zero := fun member middle _ zero _ =>
    ⟨⟨middle.1.named, middle.1.matched, middle.1.states⟩, middle.2.zero member zero⟩
  skip := fun middle refused => ⟨middle.1, middle.2.skip refused⟩
  named := fun middle stored => middle.1.named _ stored

theorem middle_books : BookFree (Middle desktop pids before states []) := by
  intro state caches middle snapshots sameStates
  have drawn := middle.2
  refine ⟨⟨?_, ?_, sameStates.trans middle.1.states⟩, ?_⟩
  · intro identity stored
    rw [DesktopState.book_caches, snapshots] at stored
    exact middle.1.named identity stored
  · intro identity stored
    rw [DesktopState.book_caches, snapshots] at stored
    exact middle.1.matched identity stored
  · exact ⟨drawn.title, drawn.aggressive, drawn.dark, drawn.shown, drawn.untouched,
      drawn.fitted, drawn.grown⟩

/-- Every snapshot is matched, so no restore is due. -/
theorem middle_gives :
    desktop.GivesBack (matchedIdentity (desktop.graphOf before pids) (desktop.plan pids before))
      (Middle desktop pids before states []) := by
  intro state identity snap middle found unmatched
  exfalso
  have stored : identity ∈ state.caches.snapshots :=
    AList.lookup_isSome.mp (by rw [found]; rfl)
  obtain ⟨hidden, node, held, same⟩ := middle.1.matched identity stored
  have matched : matchedIdentity (desktop.graphOf before pids) (desktop.plan pids before)
      identity = true := by
    apply List.any_eq_true.mpr
    refine ⟨identity.hwnd, ?_, ?_⟩
    · simp only [List.append_assoc]
      exact List.mem_append_left _ hidden
    · rw [held]
      simp [same]
  rw [unmatched] at matched
  cases matched

/-- Every stored window is about to be hidden again: its identity still matches, a tick that
started now would hide it, and no streak is negative. -/
structure Settled (desktop : Desktop) (pids : List Pid) (state : DesktopState) : Prop where
  named : ∀ identity ∈ state.caches.snapshots, desktop.names identity = true
  matched : ∀ identity ∈ state.caches.snapshots, desktop.Matched pids state identity
  nonneg : ∀ key, 0 ≤ state.caches.states.streak key

omit [Unicode] in
theorem tidied_streak {graph : WindowGraph} {first second : EngineCaches}
    (tidied : Tidied graph first second) (nonneg : ∀ key, 0 ≤ first.states.streak key)
    (key : WindowIdentity) : 0 ≤ second.states.streak key := by
  cases tidied.dropped key with
  | inl same =>
      have streak : second.states.streak key = first.states.streak key := by
        simp only [StateMap.streak, same]
      rw [streak]
      exact nonneg key
  | inr gone => simp [StateMap.streak, gone]

/-- The next tick hides what this one hides. -/
theorem middle_settled {caches : EngineCaches} (settled : Settled desktop pids before)
    (tidied : Evaluated desktop before pids .default caches)
    (middle : Middle desktop pids before caches.states [] state) :
    Settled desktop pids state where
  named := middle.1.named
  matched := by
    intro identity stored
    obtain ⟨hidden, node, found, same⟩ := middle.1.matched identity stored
    have redrawn : (desktop.graphOf before pids).Redrawn (desktop.graphOf state pids) :=
      graphOf_redrawn middle.2.title pids
    obtain ⟨other, also, redraws⟩ := redrawn.node found
    refine ⟨?_, other, also, redraws.identity.trans same⟩
    have persists : identity.hwnd ∈ (evaluateInner (desktop.graphOf state pids)
        (desktop.core before) .default caches.states false).1.actions.hide :=
      hide_persists LayoutRules.default_settling redrawn settled.nonneg tidied.states hidden
    rw [core, ← middle.2.aggressive, ← middle.1.states] at persists
    exact persists
  nonneg := by
    intro key
    rw [middle.1.states]
    exact tidied_streak tidied (evaluate_streak_nonneg false settled.nonneg) key

/-- No tick moves a main window. -/
theorem Drawn.main_place (drawn : Drawn desktop pids before rest state) {hwnd : Hwnd}
    (confirmed : hwnd ∈ confirmedMain (desktop.graphOf before pids) .default) :
    state.place hwnd = before.place hwnd := by
  have pictures : Pictures desktop before (desktop.graphOf before pids) :=
    buildGraph_pictures before pids
  apply drawn.untouched (main_not_popup pictures confirmed)
  intro pos member wide same
  obtain ⟨parent, above⟩ := view_child pictures (view_of_positive member wide)
  rw [same, main_top pictures confirmed] at above
  cases above

/-- A view that is planned before the tick has the planned size after it. -/
theorem Drawn.planned_size (drawn : Drawn desktop pids before [] state) {pos : List Int}
    (view : pos ∈ viewResizes (desktop.graphOf before pids) (desktop.core before) .default)
    (certain : desktop.refuses (desktop.graphOf before pids) pids (pos.getD 0 0) = false) :
    clampI32 (state.place (pos.getD 0 0)).width = pos.getD 3 0 ∧
      clampI32 (state.place (pos.getD 0 0)).height = pos.getD 4 0 := by
  obtain ⟨wide, wideFits, high, highFits⟩ := view_size view
  have member : pos ∈ (desktop.plan pids before).actions.setPos :=
    mem_evaluate_setPos.mpr (Or.inl view)
  cases drawn.fitted pos member wide high certain with
  | inl listed => cases listed
  | inr sized =>
      have wideLe := wrapI32_le (pos.getD 3 0)
      have highLe := wrapI32_le (pos.getD 4 0)
      rw [sized.1, sized.2]
      unfold clampI32
      omega

/-- A window that is neither planned nor a popup stays where it is. -/
theorem Drawn.unplanned_place (drawn : Drawn desktop pids before rest state) {hwnd : Hwnd}
    (noPopup : hwnd ∉ popupTargets (desktop.graphOf before pids) .default)
    (noView : ∀ pos ∈ viewResizes (desktop.graphOf before pids) (desktop.core before) .default,
      pos.getD 0 0 ≠ hwnd) :
    state.place hwnd = before.place hwnd :=
  drawn.untouched noPopup fun pos member wide => noView pos (view_of_positive member wide)

/-- After a tick every view has its planned size, but for those that hang and
recover. -/
theorem middle_fitted {hwnd : Hwnd} (middle : Middle desktop pids before states [] state)
    (steady : (desktop.hung hwnd).isSome = true) : Fitted desktop pids state hwnd := by
  have drawn := middle.2
  have redrawn : (desktop.graphOf before pids).Redrawn (desktop.graphOf state pids) :=
    graphOf_redrawn drawn.title pids
  have earlier : Pictures desktop before (desktop.graphOf before pids) :=
    buildGraph_pictures before pids
  have now : Pictures desktop state (desktop.graphOf state pids) := buildGraph_pictures state pids
  intro pos member isView wide high
  subst isView
  cases passed : desktop.passes (desktop.graphOf state pids) pids (pos.getD 0 0) with
  | false => rfl
  | true =>
      exfalso
      have view := view_of_positive member wide
      have noPopup : pos.getD 0 0 ∉ popupTargets (desktop.graphOf before pids) .default :=
        fun target => view_not_popup now view (popupTargets_redrawn redrawn target)
      obtain ⟨parent, child, parentRect, x, y, width, height, confirmed, parentFound, rect, listed,
        found, owned, planned, rfl⟩ := mem_viewResizes.mp view
      obtain ⟨oldParent, oldParentFound, parentRedraws⟩ := redrawn.back parentFound
      obtain ⟨oldChild, oldFound, childRedraws⟩ := redrawn.back found
      have oldConfirmed : parent.hwnd ∈ confirmedMain (desktop.graphOf before pids) .default :=
        confirmedMain_redrawn redrawn.symm confirmed
      have oldRect : oldParent.rect = some parentRect := by
        rw [earlier.get oldParentFound, ← rect, now.get parentFound]
        exact congrArg some (screenRect_top (main_top earlier oldConfirmed)
          (drawn.main_place oldConfirmed).symm)
      have childRect : child.rect = some (desktop.screenRect state.place child.hwnd) := by
        rw [now.get found]
        rfl
      obtain ⟨_, _, _, _, differs⟩ := plannedViewResize_some planned
      apply differs _ childRect
      rw [screenRect_width, screenRect_height]
      cases plannedViewResize_or_fits planned oldChild.rect with
      | inl plannedBefore =>
          have viewBefore : [child.hwnd, x, y, width, height] ∈
              viewResizes (desktop.graphOf before pids) (desktop.core before) .default := by
            refine mem_viewResizes.mpr ⟨oldParent, oldChild, parentRect, x, y, width, height,
              ?_, ?_, oldRect, ?_, ?_, ?_, ?_, ?_⟩
            · rw [parentRedraws.hwnd]
              exact oldConfirmed
            · rw [parentRedraws.hwnd]
              exact oldParentFound
            · rw [parentRedraws.hwnd, childRedraws.hwnd, ← redrawn.children]
              exact listed
            · rw [childRedraws.hwnd]
              exact oldFound
            · rw [childRedraws.win32Parent, parentRedraws.hwnd]
              exact owned
            · rw [childRedraws.text]
              exact plannedBefore
            · rw [childRedraws.hwnd]
          apply drawn.planned_size viewBefore
          have passedBefore := passes_redrawn redrawn.symm passed
          rw [refuses_of_steady steady, passedBefore]
          rfl
      | inr fitted =>
          obtain ⟨unplanned, oldRectOf, oldChildRect, sameWidth, sameHeight⟩ := fitted
          have still : state.place child.hwnd = before.place child.hwnd := by
            apply drawn.unplanned_place noPopup
            intro other otherView same
            obtain ⟨otherParent, otherChild, otherRect, _, _, _, _, _, otherParentFound, otherRects,
              _, otherFound, otherOwned, otherPlanned, rfl⟩ := mem_viewResizes.mp otherView
            change otherChild.hwnd = child.hwnd at same
            rw [same, oldFound] at otherFound
            obtain rfl := Option.some.inj otherFound
            rw [← otherOwned, childRedraws.win32Parent, owned, oldParentFound] at otherParentFound
            obtain rfl := Option.some.inj otherParentFound
            rw [oldRect] at otherRects
            obtain rfl := Option.some.inj otherRects
            rw [childRedraws.text, unplanned] at otherPlanned
            cases otherPlanned
          have oldDrawn : oldRectOf = desktop.screenRect before.place child.hwnd := by
            rw [earlier.get oldFound] at oldChildRect
            exact (Option.some.inj oldChildRect).symm
          rw [oldDrawn, screenRect_width] at sameWidth
          rw [oldDrawn, screenRect_height] at sameHeight
          rw [still]
          exact ⟨sameWidth, sameHeight⟩

/-- What a later state of a run keeps of an earlier one: the titles and the flag, every
window that is hidden, and the list of the windows that were ever shown. -/
structure Later (before after : DesktopState) : Prop where
  title : after.title = before.title
  aggressive : after.aggressive = before.aggressive
  dark : ∀ hwnd, before.visible hwnd = false → after.visible hwnd = false
  shown : after.shown = before.shown

omit [Unicode] in
theorem Later.trans {first second third : DesktopState} (earlier : Later first second)
    (later : Later second third) : Later first third where
  title := later.title.trans earlier.title
  aggressive := later.aggressive.trans earlier.aggressive
  dark := fun hwnd dark => later.dark hwnd (earlier.dark hwnd dark)
  shown := later.shown.trans earlier.shown

theorem middle_start {caches : EngineCaches} (settled : Settled desktop pids before)
    (tidied : Evaluated desktop before pids .default caches) :
    Middle desktop pids before caches.states (desktop.plan pids before).actions.setPos
      (before.book caches) := by
  refine ⟨⟨?_, ?_, rfl⟩, ?_⟩
  · intro identity stored
    rw [DesktopState.book_caches, tidied.snapshots] at stored
    exact settled.named identity stored
  · intro identity stored
    rw [DesktopState.book_caches, tidied.snapshots] at stored
    exact settled.matched identity stored
  · exact
      { title := rfl
        aggressive := rfl
        dark := fun _ dark => dark
        shown := rfl
        untouched := fun _ _ => rfl
        fitted := fun pos member _ _ _ => Or.inl member
        grown := fun _ _ => rfl }

/-- What one tick makes of the resizes: those of a window that keeps hanging or keeps
responding are all done after it, and none is done where none was planned. -/
structure Resized (desktop : Desktop) (pids : List Pid) (before after : DesktopState) :
    Prop where
  fitted : ∀ hwnd, (desktop.hung hwnd).isSome = true → Fitted desktop pids after hwnd
  grown : ∀ hwnd, Fitted desktop pids before hwnd →
    after.grown.count hwnd = before.grown.count hwnd

theorem tick_settles {settings : AppSettings} (settled : Settled desktop pids before) :
    desktop.environment.ensures (tick pids settings .default)
      (fun _ after => Settled desktop pids after ∧ Later before after ∧
        Resized desktop pids before after) before := by
  have finished : ∀ {caches after}, Evaluated desktop before pids .default caches →
      Middle desktop pids before caches.states [] after →
      Settled desktop pids after ∧ Later before after ∧ Resized desktop pids before after := by
    intro caches after tidied middle
    have drawn := middle.2
    exact ⟨middle_settled settled tidied middle,
      ⟨drawn.title, drawn.aggressive, drawn.dark, drawn.shown⟩,
      ⟨fun hwnd => middle_fitted middle, drawn.grown⟩⟩
  apply ensures_tick
  · intro nobody
    subst nobody
    refine ⟨settled, ⟨rfl, rfl, fun _ dark => dark, rfl⟩, ⟨?_, fun _ _ => rfl⟩⟩
    intro hwnd _ pos member _ wide _
    obtain ⟨_, _, _, _, _, _, _, _, found, _⟩ := mem_viewResizes.mp (view_of_positive member wide)
    cases found
  · intro _ caches tidied
    have applied := ensures_applyEvaluation middle_acts
      (Pictures.fits (buildGraph_pictures before pids)) (middle_start settled tidied)
    apply ensures_mono (ensures_applyAndRestore applied middle_books middle_gives)
    intro _ after middle
    exact finished tidied middle
  · intro disabled caches tidied
    exact finished tidied (middle_acts.skipAll disabled (middle_start settled tidied))

end Tick

end Desktop

/-- A number of ticks for the same processes. -/
inductive Ticks [Unicode] (desktop : Desktop) (pids : List Pid) :
    Nat → DesktopState → DesktopState → Prop where
  | none {state : DesktopState} : Ticks desktop pids 0 state state
  | tick {count : Nat} {start before after : DesktopState} {evaluation : Evaluation}
      (settings : AppSettings) (earlier : Ticks desktop pids count start before)
      (ran : desktop.environment.Runs (Engine.tick pids settings .default) before evaluation
        after) : Ticks desktop pids (count + 1) start after

section Runs

variable [Unicode] {desktop : Desktop} {pids : List Pid} {count : Nat}
  {start finish : DesktopState}

/-- By induction on the ticks: each one starts from a state that is settled, and from
the second on the resizes of a window that never changes whether it hangs are done. -/
theorem Ticks.settles (settled : desktop.Settled pids start)
    (run : Ticks desktop pids count start finish) :
    desktop.Settled pids finish ∧ Desktop.Later start finish ∧
      ∀ hwnd, (desktop.hung hwnd).isSome = true →
        (0 < count ∨ desktop.Fitted pids start hwnd → desktop.Fitted pids finish hwnd) ∧
          (desktop.Fitted pids start hwnd →
            finish.grown.count hwnd = start.grown.count hwnd) := by
  induction run with
  | none =>
      refine ⟨settled, ⟨rfl, rfl, fun _ dark => dark, rfl⟩, ?_⟩
      intro hwnd _
      refine ⟨?_, fun _ => rfl⟩
      intro reason
      cases reason with
      | inl ticked => cases ticked
      | inr fitted => exact fitted
  | tick settings earlier ran ih =>
      obtain ⟨before, later, sizes⟩ := ih settled
      obtain ⟨after, step, resized⟩ := ensures_runs (Desktop.tick_settles before) ran
      refine ⟨after, later.trans step, ?_⟩
      intro hwnd steady
      obtain ⟨fittedBefore, grownBefore⟩ := sizes hwnd steady
      refine ⟨fun _ => resized.fitted hwnd steady, ?_⟩
      intro fitted
      have still := resized.grown hwnd (fittedBefore (Or.inr fitted))
      exact still.trans (grownBefore fitted)

end Runs

end LayoutAdblock.Engine
