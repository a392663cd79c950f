import LayoutAdblock.Core.Evaluate.Popups
import LayoutAdblock.Engine.LoadRuns
import LayoutAdblock.Engine.StaticDesktop

namespace LayoutAdblock.Engine

open LayoutAdblock.Core Interaction

/-! # One enumeration instead of one per node

On a desktop whose windows stay as they are, grouping a single enumeration of
the descendants by `GetParent` gives the children lists that an enumeration at
every node gives.
-/

/-- The direct children of a window, by an enumeration of its own. -/
def ownChildren (hwnd : Hwnd) : EngineM (List Hwnd) := do
  let descendants ← ask (.enumDescendantWindows hwnd)
  Program.filterWith (fun child => do
    let parent ← ask (.getParent child)
    return decide (parent = hwnd)) descendants

/-- The locals of `reference_children`; the next window to pop is the first of
the stack. -/
structure PerNodeWalk where
  stack : List Hwnd
  visited : List Hwnd
  out : Hwnd → Option (List Hwnd)

/-- The loop of `reference_children`, which gives up when the fuel runs out. -/
def referenceLoop : Nat → PerNodeWalk → EngineM (Option (Hwnd → Option (List Hwnd)))
  | 0, _ => return none
  | fuel + 1, walk =>
      match walk.stack with
      | [] => return some walk.out
      | hwnd :: rest =>
          if walk.visited.contains hwnd then referenceLoop fuel { walk with stack := rest }
          else do
            let visited := hwnd :: walk.visited
            let alive ← ask (.isWindow hwnd)
            if !alive then referenceLoop fuel { walk with stack := rest, visited := visited }
            else
              let children ← ownChildren hwnd
              referenceLoop fuel
                { stack := children ++ rest
                  visited := visited
                  out := fun other => if other = hwnd then some children else walk.out other }

/-- The children lists by the algorithm with one enumeration per node. -/
def referenceChildren (fuel : Nat) (pids : List Pid) :
    EngineM (Option (Hwnd → Option (List Hwnd))) := do
  let windows ← ask .enumWindows
  let found ← topLevelWindows pids windows
  let topLevel := (found.map Prod.fst).insertionSort fun first second => first ≤ second
  referenceLoop fuel { stack := topLevel, visited := [], out := fun _ => none }

namespace Desktop

variable {desktop : Desktop} {state : DesktopState}

/-- `child` is a window whose parent is `above`. -/
def ChildOf (desktop : Desktop) (above child : Hwnd) : Prop :=
  desktop.live child = true ∧ desktop.parent child = some above

/-- `hwnd` is `top` or one of its descendants. -/
def Within (desktop : Desktop) (top hwnd : Hwnd) : Prop :=
  Relation.ReflTransGen desktop.ChildOf top hwnd

/-- The enumerations of a static desktop: of the descendants of a window, each
is listed once, in the order in which an enumeration further up lists it. -/
structure Enumerates (desktop : Desktop) : Prop where
  topsLive : ∀ hwnd ∈ desktop.tops, desktop.live hwnd = true
  lists : ∀ {above}, desktop.live above = true → ∀ hwnd,
    hwnd ∈ desktop.descendants above ↔ Relation.TransGen desktop.ChildOf above hwnd
  once : ∀ {above}, desktop.live above = true → (desktop.descendants above).Nodup
  ordered : ∀ {above hwnd}, desktop.live above = true → hwnd ∈ desktop.descendants above →
    (desktop.descendants hwnd).Sublist (desktop.descendants above)

/-- The children of a window by an enumeration of its own. -/
def childList (desktop : Desktop) (hwnd : Hwnd) : List Hwnd :=
  (desktop.descendants hwnd).filter fun child => decide (desktop.getParent child = hwnd)

theorem Within.live {top hwnd : Hwnd} (inside : desktop.Within top hwnd)
    (alive : desktop.live top = true) : desktop.live hwnd = true := by
  cases inside.cases_tail with
  | inl same => exact same ▸ alive
  | inr last =>
      obtain ⟨_, _, child⟩ := last
      exact child.1

theorem parent_of_descendant {top child : Hwnd} (listed : child ∈ desktop.descendants top) :
    desktop.parent child = some (desktop.getParent child) := by
  have isChild := desktop.descendantsBelow top child listed
  obtain ⟨above, found⟩ := Option.isSome_iff_exists.mp isChild
  simp only [getParent, found]

theorem mem_childList (listed : desktop.Enumerates) {above child : Hwnd}
    (alive : desktop.live above = true) :
    child ∈ desktop.childList above ↔ desktop.ChildOf above child := by
  simp only [childList, List.mem_filter, decide_eq_true_eq]
  constructor
  · intro member
    obtain ⟨below, same⟩ := member
    have named := parent_of_descendant below
    obtain ⟨_, _, last⟩ := (Relation.TransGen.tail'_iff).mp ((listed.lists alive child).mp below)
    rw [same] at named
    exact ⟨last.1, named⟩
  · intro isChild
    have below := (listed.lists alive child).mpr (Relation.TransGen.single isChild)
    have named := parent_of_descendant below
    rw [isChild.2] at named
    exact ⟨below, (Option.some.inj named).symm⟩

/-- The pairs of the enumeration below `top`, as `child_map` groups them. -/
def groups (desktop : Desktop) (top : Hwnd) : List (Hwnd × Hwnd) :=
  (desktop.descendants top).map fun child => (desktop.getParent child, child)

theorem childrenOf_groups (top hwnd : Hwnd) :
    childrenOf (desktop.groups top) hwnd =
      (desktop.descendants top).filter fun child => decide (desktop.getParent child = hwnd) := by
  simp only [childrenOf, groups, List.filter_map, List.map_map]
  simp [Function.comp_def]

/-- The single enumeration gives every window of the tree its own children list. -/
theorem childrenOf_within (listed : desktop.Enumerates) {top hwnd : Hwnd}
    (alive : desktop.live top = true) (inside : desktop.Within top hwnd) :
    childrenOf (desktop.groups top) hwnd = desktop.childList hwnd := by
  rw [childrenOf_groups]
  cases Relation.reflTransGen_iff_eq_or_transGen.mp inside with
  | inl same => rw [same]; rfl
  | inr below =>
      have member := (listed.lists alive hwnd).mpr below
      symm
      apply Data.filter_of_sublist (listed.ordered alive member) (listed.once alive)
      intro child descendant same
      have named := parent_of_descendant descendant
      rw [of_decide_eq_true same] at named
      obtain ⟨_, _, last⟩ :=
        (Relation.TransGen.tail'_iff).mp ((listed.lists alive child).mp descendant)
      exact (listed.lists (inside.live alive) child).mpr (Relation.TransGen.single ⟨last.1, named⟩)

/-- From `before` to `after` the walk has loaded the trees of `tops`, each under
its process. -/
structure Explored (desktop : Desktop) (state : DesktopState) (tops : List (Hwnd × Pid))
    (before after : Loading) : Prop where
  starts : ∀ top ∈ tops, top.1 ∈ after.visited
  visits : ∀ hwnd ∈ before.visited, hwnd ∈ after.visited
  fresh : ∀ hwnd ∈ after.visited, hwnd ∉ before.visited →
    (∃ top ∈ tops, desktop.Within top.1 hwnd ∧
      after.graph.get hwnd = some (desktop.node state top.2 hwnd)) ∧
    after.graph.children hwnd = desktop.childList hwnd ∧
    ∀ child ∈ desktop.childList hwnd, child ∈ after.visited
  kept : ∀ hwnd, hwnd ∈ before.visited ∨ hwnd ∉ after.visited →
    after.graph.get hwnd = before.graph.get hwnd ∧
      after.graph.children hwnd = before.graph.children hwnd
  pids : after.graph.pids = before.graph.pids

theorem Explored.refl (loading : Loading) : Explored desktop state [] loading loading where
  starts := by intro top member; cases member
  visits _ seen := seen
  fresh _ seen unseen := absurd seen unseen
  kept _ _ := ⟨rfl, rfl⟩
  pids := rfl

theorem Explored.trans {first second : List (Hwnd × Pid)} {before middle after : Loading}
    (left : Explored desktop state first before middle)
    (right : Explored desktop state second middle after) :
    Explored desktop state (first ++ second) before after where
  starts := by
    intro top member
    cases List.mem_append.mp member with
    | inl inFirst => exact right.visits _ (left.starts top inFirst)
    | inr inSecond => exact right.starts top inSecond
  visits hwnd seen := right.visits hwnd (left.visits hwnd seen)
  fresh := by
    intro hwnd seen unseen
    by_cases already : hwnd ∈ middle.visited
    · obtain ⟨⟨top, member, inside, found⟩, children, closed⟩ := left.fresh hwnd already unseen
      obtain ⟨sameNode, sameChildren⟩ := right.kept hwnd (Or.inl already)
      refine ⟨⟨top, List.mem_append_left _ member, inside, sameNode.trans found⟩,
        sameChildren.trans children, ?_⟩
      exact fun child listed => right.visits child (closed child listed)
    · obtain ⟨⟨top, member, inside, found⟩, rest⟩ := right.fresh hwnd seen already
      exact ⟨⟨top, List.mem_append_right _ member, inside, found⟩, rest⟩
  kept := by
    intro hwnd rule
    have early : hwnd ∈ before.visited ∨ hwnd ∉ middle.visited := by
      cases rule with
      | inl seen => exact Or.inl seen
      | inr unseen => exact Or.inr fun seen => unseen (right.visits hwnd seen)
    have late : hwnd ∈ middle.visited ∨ hwnd ∉ after.visited := by
      cases rule with
      | inl seen => exact Or.inl (left.visits hwnd seen)
      | inr unseen => exact Or.inr unseen
    obtain ⟨firstNode, firstChildren⟩ := left.kept hwnd early
    obtain ⟨secondNode, secondChildren⟩ := right.kept hwnd late
    exact ⟨secondNode.trans firstNode, secondChildren.trans firstChildren⟩
  pids := right.pids.trans left.pids

/-- The windows a call of the walk starts from. -/
def starts (pid : Pid) : Load → List (Hwnd × Pid)
  | .tree _ hwnd => [(hwnd, pid)]
  | .siblings _ list => list.map fun child => (child, pid)

/-- The call is made for windows of the tree of `top`, under their own parents. -/
def Placed (desktop : Desktop) (top : Hwnd) : Load → Prop
  | .tree structuralParent hwnd =>
      desktop.Within top hwnd ∧ desktop.parent hwnd = structuralParent
  | .siblings parent list =>
      desktop.Within top parent ∧ ∀ child ∈ list, desktop.ChildOf parent child

theorem explored_window {pid : Pid} {hwnd : Hwnd} {before loaded : Loading}
    (fresh : hwnd ∉ before.visited)
    (below : Explored desktop state ((desktop.childList hwnd).map fun child => (child, pid))
      { visited := hwnd :: before.visited
        graph := before.graph.insertNode (desktop.node state pid hwnd) } loaded)
    (children : ∀ child ∈ desktop.childList hwnd, desktop.ChildOf hwnd child) :
    Explored desktop state [(hwnd, pid)] before
      { loaded with graph := loaded.graph.setChildren hwnd (desktop.childList hwnd) } := by
  have opened : hwnd ∈ loaded.visited := below.visits hwnd List.mem_cons_self
  constructor
  · intro top member
    rw [List.mem_singleton.mp member]
    exact opened
  · exact fun other seen => below.visits other (List.mem_cons_of_mem _ seen)
  · intro other seen unseen
    by_cases same : other = hwnd
    · subst same
      obtain ⟨node, _⟩ := below.kept other (Or.inl List.mem_cons_self)
      refine ⟨⟨(other, pid), List.mem_singleton_self _, Relation.ReflTransGen.refl, ?_⟩, ?_, ?_⟩
      · refine node.trans ((WindowGraph.get_insertNode _ _ other).trans ?_)
        exact if_pos rfl
      · exact if_pos rfl
      · intro child listed
        exact below.starts (child, pid) (List.mem_map.mpr ⟨child, listed, rfl⟩)
    · have unopened : other ∉ hwnd :: before.visited := by simp [same, unseen]
      obtain ⟨⟨top, member, inside, node⟩, list, closed⟩ := below.fresh other seen unopened
      obtain ⟨child, listed, rfl⟩ := List.mem_map.mp member
      refine ⟨⟨(hwnd, pid), List.mem_singleton_self _, ?_, node⟩, ?_, closed⟩
      · exact inside.head (children child listed)
      · exact (if_neg same).trans list
  · intro other rule
    have different : other ≠ hwnd := by
      intro same
      rw [same] at rule
      cases rule with
      | inl seen => exact fresh seen
      | inr unseen => exact unseen opened
    have earlier : other ∈ hwnd :: before.visited ∨ other ∉ loaded.visited :=
      rule.imp (List.mem_cons_of_mem hwnd) id
    obtain ⟨node, list⟩ := below.kept other earlier
    constructor
    · refine node.trans ((WindowGraph.get_insertNode _ _ other).trans ?_)
      exact if_neg (Ne.symm different)
    · exact (if_neg different).trans list
  · exact below.pids

/-- A run of the walk on a static desktop explores the trees it starts from. -/
theorem Enumerates.explored (listed : desktop.Enumerates) {top : Hwnd} {pid : Pid}
    (alive : desktop.live top = true) {load : Load} {before after : Loading}
    (loads : Loads (desktop.answer state) (desktop.groups top) pid load before after)
    (placed : Placed desktop top load) :
    Explored desktop state (starts pid load) before after := by
  induction loads with
  | @visited structuralParent hwnd before seen =>
      have still : Explored desktop state [] before before := Explored.refl before
      exact { still with
        starts := by
          intro start member
          rw [List.mem_singleton.mp member]
          exact seen
        fresh := fun other seen unseen => absurd seen unseen }
  | gone _ dead =>
      have live : desktop.live _ = true := placed.1.live alive
      rw [show desktop.live _ = false from dead] at live
      cases live
  | window fresh _ _ ih =>
      obtain ⟨inside, rfl⟩ := placed
      rw [childrenOf_within listed alive inside] at ih ⊢
      have children : ∀ child ∈ desktop.childList _, desktop.ChildOf _ child :=
        fun child => (mem_childList listed (inside.live alive)).mp
      exact explored_window fresh (ih ⟨inside, children⟩) children
  | done => exact Explored.refl _
  | @child parent child rest before middle after _ _ first others =>
      obtain ⟨inside, children⟩ := placed
      have isChild := children child List.mem_cons_self
      have left := first ⟨inside.tail isChild, isChild.2⟩
      have right := others ⟨inside, fun other member =>
        children other (List.mem_cons_of_mem _ member)⟩
      exact left.trans right

theorem Enumerates.exploredTops (listed : desktop.Enumerates) {tops : List (Hwnd × Pid)}
    {before after : Loading} (loads : LoadsTops (desktop.answer state) tops before after)
    (known : ∀ top ∈ tops, top.1 ∈ desktop.tops) :
    Explored desktop state tops before after := by
  induction loads with
  | done => exact Explored.refl _
  | @top hwnd pid rest before middle after first others ih =>
      have isTop := known (hwnd, pid) List.mem_cons_self
      have placed : Placed desktop hwnd (.tree none hwnd) :=
        ⟨Relation.ReflTransGen.refl, desktop.topsAbove hwnd isTop⟩
      have grouped : (childMap hwnd).eval (desktop.answer state) = desktop.groups hwnd := by
        simp only [childMap, ask, Program.eval_bind, Program.eval_ask, answer, eval_childPairs]
        rfl
      rw [grouped] at first
      have left := listed.explored (listed.topsLive hwnd isTop) first placed
      have right := ih fun other member => known other (List.mem_cons_of_mem _ member)
      exact left.trans right

/-- A window of the tree of a top-level window of a listed process. -/
def Shown (desktop : Desktop) (pids : List Pid) (hwnd : Hwnd) : Prop :=
  ∃ top ∈ desktop.tops, desktop.pid top ∈ pids ∧ desktop.Within top hwnd

/-- The top-level windows of the processes with the process of each, in the order of their
handles. -/
def listedTops (desktop : Desktop) (pids : List Pid) : List (Hwnd × Pid) :=
  ((desktop.tops.filter fun hwnd => pids.contains (desktop.pid hwnd)).map fun hwnd =>
    (hwnd, desktop.pid hwnd)).insertionSort fun first second => first.1 ≤ second.1

theorem mem_listedTops {pids : List Pid} {top : Hwnd × Pid} :
    top ∈ desktop.listedTops pids ↔
      top.1 ∈ desktop.tops ∧ desktop.pid top.1 ∈ pids ∧ top.2 = desktop.pid top.1 := by
  simp only [listedTops, List.mem_insertionSort, List.mem_map, List.mem_filter,
    List.contains_iff_mem]
  constructor
  · intro listed
    obtain ⟨hwnd, ⟨isTop, known⟩, rfl⟩ := listed
    exact ⟨isTop, known, rfl⟩
  · intro listed
    obtain ⟨isTop, known, same⟩ := listed
    exact ⟨top.1, ⟨isTop, known⟩, Prod.ext rfl same.symm⟩

theorem eval_buildGraph (state : DesktopState) (pids : List Pid) :
    (buildGraph pids).eval (desktop.answer state) =
      (loadTops (desktop.listedTops pids)
        { graph := WindowGraph.empty pids, visited := [] }).eval (desktop.answer state) := by
  unfold buildGraph
  split
  · rename_i none
    have nobody : desktop.listedTops pids = [] := by
      rw [List.isEmpty_iff.mp none]
      simp [listedTops]
    rw [nobody, List.isEmpty_iff.mp none]
    rfl
  · simp only [ask, Program.eval_bind, Program.eval_ask, answer, eval_topLevelWindows]
    rfl

/-- What `build_graph` returns on a static desktop: the node of every window below a
top-level window of the listed processes, read as it is there, with the children in the
order of the desktop, and nothing about any other window. -/
structure Built (desktop : Desktop) (state : DesktopState) (pids : List Pid)
    (graph : WindowGraph) : Prop where
  nodes : ∀ {hwnd}, desktop.Shown pids hwnd → ∃ top ∈ desktop.tops, desktop.pid top ∈ pids ∧
    desktop.Within top hwnd ∧ graph.get hwnd = some (desktop.node state (desktop.pid top) hwnd)
  lists : ∀ {hwnd}, desktop.Shown pids hwnd → graph.children hwnd = desktop.childList hwnd
  rest : ∀ {hwnd}, ¬ desktop.Shown pids hwnd →
    graph.get hwnd = none ∧ graph.children hwnd = []

theorem Shown.live {pids : List Pid} {hwnd : Hwnd} (listed : desktop.Enumerates)
    (shown : desktop.Shown pids hwnd) : desktop.live hwnd = true := by
  obtain ⟨top, isTop, _, inside⟩ := shown
  exact inside.live (listed.topsLive top isTop)

theorem Enumerates.built (listed : desktop.Enumerates) {pids : List Pid} {after : Loading}
    (explored : Explored desktop state (desktop.listedTops pids)
      { graph := WindowGraph.empty pids, visited := [] } after) :
    Built desktop state pids after.graph := by
  have reached : ∀ hwnd, hwnd ∈ after.visited ↔ desktop.Shown pids hwnd := by
    intro hwnd
    constructor
    · intro seen
      obtain ⟨⟨top, member, inside, _⟩, _⟩ := explored.fresh hwnd seen List.not_mem_nil
      obtain ⟨isTop, known, _⟩ := mem_listedTops.mp member
      exact ⟨top.1, isTop, known, inside⟩
    · intro shown
      obtain ⟨top, isTop, known, inside⟩ := shown
      induction inside with
      | refl =>
          exact explored.starts (top, desktop.pid top) (mem_listedTops.mpr ⟨isTop, known, rfl⟩)
      | tail above isChild seen =>
          have alive := Within.live above (listed.topsLive top isTop)
          obtain ⟨_, _, closed⟩ := explored.fresh _ seen List.not_mem_nil
          exact closed _ ((mem_childList listed alive).mpr isChild)
  constructor
  · intro hwnd shown
    obtain ⟨⟨top, member, inside, node⟩, _⟩ :=
      explored.fresh hwnd ((reached hwnd).mpr shown) List.not_mem_nil
    obtain ⟨isTop, known, same⟩ := mem_listedTops.mp member
    exact ⟨top.1, isTop, known, inside, same ▸ node⟩
  · intro hwnd shown
    exact (explored.fresh hwnd ((reached hwnd).mpr shown) List.not_mem_nil).2.1
  · intro hwnd hidden
    have unseen : hwnd ∉ after.visited := fun seen => hidden ((reached hwnd).mp seen)
    exact explored.kept hwnd (Or.inr unseen)

/-- `build_graph` returns, and returns what the desktop shows. -/
theorem Enumerates.buildGraph (listed : desktop.Enumerates) (state : DesktopState)
    (pids : List Pid) :
    let graph := (buildGraph pids).eval (desktop.answer state)
    Built desktop state pids graph ∧
    ∃ visited, LoadsTops (desktop.answer state) (desktop.listedTops pids)
      { graph := WindowGraph.empty pids, visited := [] }
      { graph := graph, visited := visited } := by
  obtain ⟨visited, loads⟩ := @loadTops_loads (desktop.answer state) (desktop.listedTops pids)
    { graph := WindowGraph.empty pids, visited := [] }
  rw [← eval_buildGraph] at loads
  have explored := listed.exploredTops loads fun top member => (mem_listedTops.mp member).1
  exact ⟨listed.built explored, visited, loads⟩

namespace Built

variable {pids : List Pid} {graph : WindowGraph}

theorem shown_of_get (built : Built desktop state pids graph) {hwnd : Hwnd}
    (present : (graph.get hwnd).isSome = true) : desktop.Shown pids hwnd := by
  by_contra hidden
  rw [(built.rest hidden).1] at present
  cases present

theorem listed_child (built : Built desktop state pids graph) (listed : desktop.Enumerates)
    {parent child : Hwnd} (member : child ∈ graph.children parent) :
    desktop.Shown pids parent ∧ desktop.ChildOf parent child := by
  by_cases shown : desktop.Shown pids parent
  · rw [built.lists shown] at member
    exact ⟨shown, (mem_childList listed (shown.live listed)).mp member⟩
  · rw [(built.rest shown).2] at member
    cases member

theorem child_shown (built : Built desktop state pids graph) (listed : desktop.Enumerates)
    {parent child : Hwnd} (member : child ∈ graph.children parent) :
    desktop.Shown pids child := by
  obtain ⟨⟨top, isTop, known, inside⟩, isChild⟩ := built.listed_child listed member
  exact ⟨top, isTop, known, inside.tail isChild⟩

theorem inTree_of_within (built : Built desktop state pids graph) (listed : desktop.Enumerates)
    {top hwnd : Hwnd} (isTop : top ∈ desktop.tops) (known : desktop.pid top ∈ pids)
    (inside : desktop.Within top hwnd) : graph.InTree top hwnd := by
  induction inside with
  | refl => exact Relation.ReflTransGen.refl
  | tail above isChild ih =>
      have shown : desktop.Shown pids _ := ⟨top, isTop, known, above⟩
      refine ih.tail ?_
      rw [built.lists shown]
      exact (mem_childList listed (shown.live listed)).mpr isChild

theorem top_node (built : Built desktop state pids graph) {top : Hwnd}
    (isTop : top ∈ desktop.tops) (known : desktop.pid top ∈ pids) :
    ∃ node, graph.get top = some node ∧ node.hwnd = top ∧ node.structuralParent = none ∧
      node.owner = if desktop.owner top ≠ 0 then some (desktop.owner top) else none := by
  have parentless := desktop.topsAbove top isTop
  obtain ⟨_, _, _, _, node⟩ := built.nodes ⟨top, isTop, known, Relation.ReflTransGen.refl⟩
  refine ⟨_, node, rfl, parentless, ?_⟩
  simp [Desktop.node, getParent, parentless]

theorem forestShaped (built : Built desktop state pids graph) (listed : desktop.Enumerates) :
    graph.ForestShaped where
  nodup := by
    intro parent
    by_cases shown : desktop.Shown pids parent
    · rw [built.lists shown]
      exact (listed.once (shown.live listed)).filter _
    · rw [(built.rest shown).2]
      exact List.nodup_nil
  oneParent := by
    intro first second child inFirst inSecond
    have above := (built.listed_child listed inFirst).2.2
    rw [(built.listed_child listed inSecond).2.2] at above
    exact (Option.some.inj above).symm
  acyclic := by
    intro hwnd cycle
    have deeper : ∀ {below above : Hwnd}, Relation.TransGen
        (fun child parent => child ∈ graph.children parent) below above →
        desktop.depth above < desktop.depth below := by
      intro below above path
      induction path with
      | single member => exact desktop.parentAbove (built.listed_child listed member).2.2
      | tail _ member ih =>
          exact (desktop.parentAbove (built.listed_child listed member).2.2).trans ih
    exact lt_irrefl _ (deeper cycle)
  rooted := by
    intro parent child node member found
    obtain ⟨_, _, _, _, node'⟩ := built.nodes (built.child_shown listed member)
    rw [node'] at found
    rw [← Option.some.inj found]
    exact (built.listed_child listed member).2.2

/-- A window of the graph is in the tree of one root only. -/
theorem one_top (built : Built desktop state pids graph) (listed : desktop.Enumerates)
    {first second hwnd : Hwnd} (firstTop : first ∈ desktop.tops)
    (firstKnown : desktop.pid first ∈ pids) (inFirst : graph.InTree first hwnd)
    (secondTop : second ∈ desktop.tops) (secondKnown : desktop.pid second ∈ pids)
    (inSecond : graph.InTree second hwnd) : first = second := by
  obtain ⟨_, firstFound, rfl, firstParentless, _⟩ := built.top_node firstTop firstKnown
  obtain ⟨_, secondFound, rfl, secondParentless, _⟩ := built.top_node secondTop secondKnown
  have shaped := built.forestShaped listed
  exact shaped.one_root firstFound firstParentless secondFound secondParentless inFirst inSecond

/-- The nodes of the graph: every window of a listed tree, under the process of
its root, with what the desktop shows of it. -/
theorem get_iff (built : Built desktop state pids graph) (listed : desktop.Enumerates)
    (hwnd : Hwnd) (node : WindowNode) :
    graph.get hwnd = some node ↔
      ∃ top ∈ desktop.tops, desktop.pid top ∈ pids ∧ desktop.Within top hwnd ∧
        node = desktop.node state (desktop.pid top) hwnd := by
  constructor
  · intro found
    have shown := built.shown_of_get (Option.isSome_of_eq_some found)
    obtain ⟨top, isTop, known, inside, held⟩ := built.nodes shown
    rw [held] at found
    exact ⟨top, isTop, known, inside, (Option.some.inj found).symm⟩
  · intro isNode
    obtain ⟨top, isTop, known, inside, rfl⟩ := isNode
    obtain ⟨other, otherTop, otherKnown, inOther, held⟩ :=
      built.nodes ⟨top, isTop, known, inside⟩
    have same : other = top := built.one_top listed otherTop otherKnown
      (built.inTree_of_within listed otherTop otherKnown inOther) isTop known
      (built.inTree_of_within listed isTop known inside)
    rw [held, same]

end Built

theorem eval_ownChildren (state : DesktopState) (hwnd : Hwnd) :
    (ownChildren hwnd).eval (desktop.answer state) = desktop.childList hwnd := by
  simp only [ownChildren, ask, Program.eval_bind, Program.eval_ask, Program.eval_filterWith,
    Program.pure_eq, Program.eval_done]
  rfl

/-- What the stack and the visited windows of the walk say about its output. -/
structure Walked (desktop : Desktop) (pids : List Pid) (walk : PerNodeWalk) : Prop where
  reached : ∀ hwnd, hwnd ∈ walk.visited ∨ hwnd ∈ walk.stack → desktop.Shown pids hwnd
  roots : ∀ top ∈ desktop.tops, desktop.pid top ∈ pids →
    top ∈ walk.visited ∨ top ∈ walk.stack
  closed : ∀ hwnd ∈ walk.visited, walk.out hwnd = some (desktop.childList hwnd) ∧
    ∀ child ∈ desktop.childList hwnd, child ∈ walk.visited ∨ child ∈ walk.stack
  rest : ∀ hwnd, hwnd ∉ walk.visited → walk.out hwnd = none

namespace Walked

variable {pids : List Pid} {walk : PerNodeWalk} {hwnd : Hwnd} {rest : List Hwnd}

omit walk in
/-- A pop that marks its window as visited loses none. -/
theorem met_after {stack visited next marked : List Hwnd} (popped : stack = hwnd :: rest)
    (keeps : ∀ other ∈ visited, other ∈ marked) (here : hwnd ∈ marked)
    (leaves : ∀ other ∈ rest, other ∈ next) {other : Hwnd}
    (met : other ∈ visited ∨ other ∈ stack) : other ∈ marked ∨ other ∈ next := by
  cases met with
  | inl before => exact Or.inl (keeps other before)
  | inr stacked =>
      rw [popped] at stacked
      cases List.mem_cons.mp stacked with
      | inl same => exact Or.inl (same ▸ here)
      | inr later => exact Or.inr (leaves other later)

/-- A visited window is popped. -/
theorem skip (walked : Walked desktop pids walk) (popped : walk.stack = hwnd :: rest)
    (seen : hwnd ∈ walk.visited) : Walked desktop pids { walk with stack := rest } := by
  have still : ∀ other, other ∈ walk.visited ∨ other ∈ walk.stack →
      other ∈ walk.visited ∨ other ∈ rest :=
    fun other => met_after popped (fun _ visited => visited) seen fun _ later => later
  constructor
  · intro other met
    cases met with
    | inl visited => exact walked.reached other (Or.inl visited)
    | inr stacked =>
        exact walked.reached other (Or.inr (popped ▸ List.mem_cons_of_mem hwnd stacked))
  · exact fun top isTop known => still top (walked.roots top isTop known)
  · intro other visited
    obtain ⟨output, children⟩ := walked.closed other visited
    exact ⟨output, fun child listed => still child (children child listed)⟩
  · exact walked.rest

/-- A fresh window is popped, and its children are pushed. -/
theorem visit (walked : Walked desktop pids walk) (listed : desktop.Enumerates)
    (popped : walk.stack = hwnd :: rest) :
    Walked desktop pids
      { stack := desktop.childList hwnd ++ rest
        visited := hwnd :: walk.visited
        out := fun other =>
          if other = hwnd then some (desktop.childList hwnd) else walk.out other } := by
  have shown : desktop.Shown pids hwnd :=
    walked.reached hwnd (Or.inr (popped ▸ List.mem_cons_self))
  have still : ∀ other, other ∈ walk.visited ∨ other ∈ walk.stack →
      other ∈ hwnd :: walk.visited ∨ other ∈ desktop.childList hwnd ++ rest :=
    fun other => met_after popped (fun _ visited => List.mem_cons_of_mem hwnd visited)
      List.mem_cons_self fun _ later => List.mem_append_right _ later
  constructor
  · intro other met
    cases met with
    | inl visited =>
        cases List.mem_cons.mp visited with
        | inl same => exact same ▸ shown
        | inr earlier => exact walked.reached other (Or.inl earlier)
    | inr stacked =>
        cases List.mem_append.mp stacked with
        | inl child =>
            obtain ⟨top, isTop, known, inside⟩ := shown
            have alive := inside.live (listed.topsLive top isTop)
            exact ⟨top, isTop, known, inside.tail ((mem_childList listed alive).mp child)⟩
        | inr later =>
            exact walked.reached other (Or.inr (popped ▸ List.mem_cons_of_mem hwnd later))
  · exact fun top isTop known => still top (walked.roots top isTop known)
  · intro other visited
    by_cases same : other = hwnd
    · subst same
      exact ⟨if_pos rfl, fun child member => Or.inr (List.mem_append_left _ member)⟩
    · have earlier := (List.mem_cons.mp visited).resolve_left same
      obtain ⟨output, children⟩ := walked.closed other earlier
      exact ⟨(if_neg same).trans output, fun child member => still child (children child member)⟩
  · intro other unseen
    have different : other ≠ hwnd := by
      intro same
      rw [same] at unseen
      exact unseen List.mem_cons_self
    refine (if_neg different).trans (walked.rest other fun visited => ?_)
    exact unseen (List.mem_cons_of_mem hwnd visited)

/-- With an empty stack every window of the listed processes has its output. -/
theorem finished (walked : Walked desktop pids walk) (listed : desktop.Enumerates)
    (empty : walk.stack = []) (other : Hwnd) :
    (desktop.Shown pids other → walk.out other = some (desktop.childList other)) ∧
      (¬ desktop.Shown pids other → walk.out other = none) := by
  have settled : ∀ {window}, window ∈ walk.visited ∨ window ∈ walk.stack →
      window ∈ walk.visited := by
    intro window met
    cases met with
    | inl visited => exact visited
    | inr stacked =>
        rw [empty] at stacked
        cases stacked
  constructor
  · intro shown
    obtain ⟨top, isTop, known, inside⟩ := shown
    refine (walked.closed other ?_).1
    induction inside with
    | refl => exact settled (walked.roots top isTop known)
    | tail above isChild seen =>
        have alive := Within.live above (listed.topsLive top isTop)
        exact settled ((walked.closed _ seen).2 _ ((mem_childList listed alive).mpr isChild))
  · intro hidden
    exact walked.rest other fun visited => hidden (walked.reached other (Or.inl visited))

/-- The loop ends: every step pops a window, and a window is pushed once for
each time its parent is visited. -/
theorem finishes (listed : desktop.Enumerates) (state : DesktopState) {windows : List Hwnd}
    (covers : ∀ hwnd, desktop.Shown pids hwnd → hwnd ∈ windows) (fuel : Nat) {walk : PerNodeWalk}
    (walked : Walked desktop pids walk)
    (enough : Data.pending (fun hwnd => (desktop.childList hwnd).length + 1) windows walk.visited +
      walk.stack.length < fuel) :
    ∃ out, (referenceLoop fuel walk).eval (desktop.answer state) = some out ∧
      ∀ hwnd, (desktop.Shown pids hwnd → out hwnd = some (desktop.childList hwnd)) ∧
        (¬ desktop.Shown pids hwnd → out hwnd = none) := by
  induction fuel generalizing walk with
  | zero => omega
  | succ fuel ih =>
      unfold referenceLoop
      cases popped : walk.stack with
      | nil => exact ⟨walk.out, rfl, walked.finished listed popped⟩
      | cons hwnd rest =>
          rw [popped, List.length_cons] at enough
          have shown : desktop.Shown pids hwnd :=
            walked.reached hwnd (Or.inr (popped ▸ List.mem_cons_self))
          by_cases seen : hwnd ∈ walk.visited
          · simp only [List.contains_iff_mem.mpr seen, if_true]
            apply ih (walked.skip popped seen)
            change Data.pending _ windows walk.visited + rest.length < fuel
            omega
          · have unseen : walk.visited.contains hwnd = false := by simpa using seen
            have alive : desktop.answer state (.isWindow hwnd) = true := shown.live listed
            simp only [unseen, Bool.false_eq_true, if_false, ask, Program.eval_bind,
              Program.eval_ask, alive, Bool.not_true, eval_ownChildren]
            apply ih (walked.visit listed popped)
            have visit := Data.pending_visit
              (fun hwnd => (desktop.childList hwnd).length + 1) (covers hwnd shown) seen
            simp only [List.length_append] at visit ⊢
            omega

end Walked

theorem Enumerates.reference (listed : desktop.Enumerates) (state : DesktopState)
    (pids : List Pid) :
    ∃ enough, ∀ fuel, enough ≤ fuel →
      ∃ out, (referenceChildren fuel pids).eval (desktop.answer state) = some out ∧
        ∀ hwnd, (desktop.Shown pids hwnd → out hwnd = some (desktop.childList hwnd)) ∧
          (¬ desktop.Shown pids hwnd → out hwnd = none) := by
  let windows := desktop.tops ++ desktop.tops.flatMap desktop.descendants
  have covers : ∀ hwnd, desktop.Shown pids hwnd → hwnd ∈ windows := by
    intro hwnd shown
    obtain ⟨top, isTop, _, inside⟩ := shown
    cases Relation.reflTransGen_iff_eq_or_transGen.mp inside with
    | inl same => exact List.mem_append_left _ (same ▸ isTop)
    | inr below =>
        have member := (listed.lists (listed.topsLive top isTop) hwnd).mpr below
        exact List.mem_append_right _ (List.mem_flatMap.mpr ⟨top, isTop, member⟩)
  let topLevel := (((desktop.tops.filter fun hwnd => pids.contains (desktop.pid hwnd)).map
    fun hwnd => (hwnd, desktop.pid hwnd)).map Prod.fst).insertionSort fun first second =>
      first ≤ second
  have mem_topLevel : ∀ hwnd, hwnd ∈ topLevel ↔ hwnd ∈ desktop.tops ∧ desktop.pid hwnd ∈ pids := by
    intro hwnd
    simp [topLevel]
  have walked : Walked desktop pids
      { stack := topLevel, visited := [], out := fun _ => none } := by
    constructor
    · intro hwnd met
      cases met with
      | inl visited => cases visited
      | inr stacked =>
          obtain ⟨isTop, known⟩ := (mem_topLevel hwnd).mp stacked
          exact ⟨hwnd, isTop, known, Relation.ReflTransGen.refl⟩
    · exact fun top isTop known => Or.inr ((mem_topLevel top).mpr ⟨isTop, known⟩)
    · intro hwnd visited
      cases visited
    · exact fun _ _ => rfl
  let steps := Data.pending (fun hwnd => (desktop.childList hwnd).length + 1) windows [] +
    topLevel.length
  refine ⟨steps + 1, fun fuel enough => ?_⟩
  have finished := Walked.finishes listed state covers fuel walked enough
  simpa only [referenceChildren, ask, Program.eval_bind, Program.eval_ask, answer,
    eval_topLevelWindows] using finished

/-- On a static desktop `build_graph` returns the nodes and the ordered children
lists of the algorithm with one enumeration per node.  Each node is what the
desktop shows of its window under the process of its root, and the nodes form
the forest of the listed processes with its owners. -/
theorem buildGraph_per_node (listed : desktop.Enumerates) (state : DesktopState)
    (pids : List Pid) :
    let graph := (buildGraph pids).eval (desktop.answer state)
    (∃ visited, LoadsTops (desktop.answer state) (desktop.listedTops pids)
      { graph := WindowGraph.empty pids, visited := [] } { graph := graph, visited := visited }) ∧
    (∃ enough, ∀ fuel, enough ≤ fuel →
      ∃ out, (referenceChildren fuel pids).eval (desktop.answer state) = some out ∧
        ∀ hwnd, out hwnd = (graph.get hwnd).map fun _ => graph.enumChildren hwnd) ∧
    (∀ hwnd node, graph.get hwnd = some node ↔
      ∃ top ∈ desktop.tops, desktop.pid top ∈ pids ∧ desktop.Within top hwnd ∧
        node = desktop.node state (desktop.pid top) hwnd) ∧
    (∀ parent, ∀ child ∈ graph.enumChildren parent,
      ∃ node, graph.get child = some node ∧ node.structuralParent = some parent) ∧
    (∀ hwnd, (graph.get hwnd).isSome = true →
      ∃! top, top ∈ desktop.tops ∧ desktop.pid top ∈ pids ∧ graph.InTree top hwnd) ∧
    ∀ top ∈ desktop.tops, desktop.pid top ∈ pids → desktop.owner top ≠ 0 →
      (∃ node, graph.get top = some node ∧ node.structuralParent = none ∧
        node.owner = some (desktop.owner top)) ∧
      ∀ parent, top ∉ graph.enumChildren parent := by
  intro graph
  obtain ⟨built, returns⟩ := listed.buildGraph state pids
  refine ⟨returns, ?_, fun hwnd node => built.get_iff listed hwnd node, ?_, ?_, ?_⟩
  · obtain ⟨enough, finishes⟩ := listed.reference state pids
    refine ⟨enough, fun fuel most => ?_⟩
    obtain ⟨out, returned, outputs⟩ := finishes fuel most
    refine ⟨out, returned, fun hwnd => ?_⟩
    by_cases shown : desktop.Shown pids hwnd
    · obtain ⟨_, _, _, _, node⟩ := built.nodes shown
      rw [(outputs hwnd).1 shown, node, Option.map_some]
      exact congrArg some (built.lists shown).symm
    · rw [(outputs hwnd).2 shown, (built.rest shown).1, Option.map_none]
  · intro parent child member
    obtain ⟨_, _, _, _, node⟩ := built.nodes (built.child_shown listed member)
    exact ⟨_, node, (built.listed_child listed member).2.2⟩
  · intro hwnd present
    obtain ⟨top, isTop, known, inside⟩ := built.shown_of_get present
    have below := built.inTree_of_within listed isTop known inside
    refine ⟨top, ⟨isTop, known, below⟩, ?_⟩
    intro other isOther
    obtain ⟨otherTop, otherKnown, inOther⟩ := isOther
    exact built.one_top listed otherTop otherKnown inOther isTop known below
  · intro top isTop known owned
    obtain ⟨node, found, _, parentless, owner⟩ := built.top_node isTop known
    refine ⟨⟨node, found, parentless, owner.trans (if_pos owned)⟩, ?_⟩
    intro parent member
    have isChild := (built.listed_child listed member).2.2
    rw [desktop.topsAbove top isTop] at isChild
    cases isChild

/-- A window with two children and a grandchild, and a popup that it owns. -/
def nested : Desktop where
  live hwnd := decide (hwnd ∈ [1, 2, 3, 4, 5])
  pid _ := 7
  className _ := "EVA_Window"
  parent hwnd := if hwnd = 2 ∨ hwnd = 4 then some 1 else if hwnd = 3 then some 2 else none
  owner hwnd := if hwnd = 5 then 1 else 0
  client _ := (0, 0)
  tops := [5, 1]
  descendants hwnd := if hwnd = 1 then [2, 3, 4] else if hwnd = 2 then [3] else []
  depth hwnd := if hwnd = 2 ∨ hwnd = 4 then 1 else if hwnd = 3 then 2 else 0
  topsAbove := by decide
  descendantsBelow := by
    intro top
    split_ifs <;> decide
  parentAbove := by
    intro hwnd above
    split_ifs <;> grind

theorem nested_childOf {above child : Hwnd} :
    nested.ChildOf above child ↔
      (above = 1 ∧ (child = 2 ∨ child = 4)) ∨ (above = 2 ∧ child = 3) := by
  unfold ChildOf
  simp only [nested, decide_eq_true_eq]
  split_ifs <;> grind

theorem nested_descendants {above child : Hwnd} :
    child ∈ nested.descendants above ↔
      (above = 1 ∧ (child = 2 ∨ child = 3 ∨ child = 4)) ∨ (above = 2 ∧ child = 3) := by
  simp only [nested]
  split_ifs <;> grind

theorem nested_enumerates : nested.Enumerates where
  topsLive := by decide
  lists := by
    intro above _ hwnd
    rw [nested_descendants]
    constructor
    · have second : nested.ChildOf 1 2 := nested_childOf.mpr (by decide)
      have third : nested.ChildOf 2 3 := nested_childOf.mpr (by decide)
      have fourth : nested.ChildOf 1 4 := nested_childOf.mpr (by decide)
      intro member
      obtain ⟨rfl, rfl | rfl | rfl⟩ | ⟨rfl, rfl⟩ := member
      · exact Relation.TransGen.single second
      · exact (Relation.TransGen.single second).tail third
      · exact Relation.TransGen.single fourth
      · exact Relation.TransGen.single third
    · intro below
      induction below with
      | single isChild =>
          have := nested_childOf.mp isChild
          grind
      | tail _ isChild ih =>
          have := nested_childOf.mp isChild
          grind
  once := by
    intro above _
    simp only [nested]
    split_ifs <;> decide
  ordered := by
    intro above hwnd _ below
    obtain ⟨rfl, rfl | rfl | rfl⟩ | ⟨rfl, rfl⟩ := nested_descendants.mp below
    all_goals decide

/-- Both algorithms list the direct children in order, and the popup is a root. -/
theorem nested_per_node :
    let state : DesktopState :=
      { visible := fun _ => true, place := fun _ => ⟨0, 0, 10, 10⟩, title := fun _ => .known "" }
    let graph := (buildGraph [7]).eval (nested.answer state)
    graph.enumChildren 1 = [2, 4] ∧
      (∃ fuel out, (referenceChildren fuel [7]).eval (nested.answer state) = some out ∧
        out 1 = some [2, 4] ∧ out 2 = some [3]) ∧
      (∃ node, graph.get 5 = some node ∧ node.owner = some 1) ∧
      graph.get 3 = some (nested.node state 7 3) := by
  intro state graph
  obtain ⟨_, ⟨fuel, finishes⟩, nodes, _, _, roots⟩ :=
    buildGraph_per_node nested_enumerates state [7]
  obtain ⟨out, returned, outputs⟩ := finishes fuel (Nat.le_refl fuel)
  obtain ⟨⟨node, found, _, owned⟩, _⟩ := roots 5 (by decide) (by decide) (by decide)
  have third : nested.Within 1 3 :=
    (Relation.ReflTransGen.single (nested_childOf.mpr (by decide))).tail
      (nested_childOf.mpr (Or.inr ⟨rfl, rfl⟩))
  exact ⟨by decide, ⟨fuel, out, returned, (outputs 1).trans (by decide),
    (outputs 2).trans (by decide)⟩, ⟨node, found, owned⟩,
    (nodes 3 _).mpr ⟨1, by decide, by decide, third, rfl⟩⟩

end Desktop

end LayoutAdblock.Engine
