import LayoutAdblock.Core.Evaluate.ForeignTrees
import LayoutAdblock.Dump.Load
import LayoutAdblock.Dump.Write

namespace LayoutAdblock.Dump

open LayoutAdblock.Core Data

/-! # Replaying a dump

The dump of a forest is read back as the trees of its unowned top-level windows.
An evaluation sees nothing else of them than of the original windows; the owned
top-level windows, which the dump lists apart, are not loaded.
-/

variable {graph : WindowGraph}

/-- The tree below a window has at most so many levels. -/
def DepthAtMost (graph : WindowGraph) : Nat → Hwnd → Prop
  | 0, hwnd => graph.children hwnd = []
  | levels + 1, hwnd => ∀ child ∈ graph.children hwnd, DepthAtMost graph levels child

/-- The handles, processes and coordinates of the graph are values of their types. -/
structure Typed (graph : WindowGraph) : Prop where
  pids : ∀ pid ∈ graph.pids, Json.i64.Holds pid
  hwnd : ∀ {hwnd node}, graph.get hwnd = some node → Json.i64.Holds node.hwnd
  pid : ∀ {hwnd node}, graph.get hwnd = some node → Json.i64.Holds node.pid
  rect : ∀ {hwnd node rect}, graph.get hwnd = some node → node.rect = some rect →
    Json.i32.Holds rect.left ∧ Json.i32.Holds rect.top ∧ Json.i32.Holds rect.right ∧
      Json.i32.Holds rect.bottom

/-- Every child listed below a window has a node. -/
def CompleteBelow (graph : WindowGraph) (root : Hwnd) : Prop :=
  ∀ {parent child}, graph.InTree root parent → child ∈ graph.children parent →
    ∃ node, graph.get child = some node

/-- A dumped window as the reader sees it. A title that could not be read comes back as an
empty one that was. -/
def readBack (graph : WindowGraph) : Nat → WindowNode → DumpNode
  | 0, node =>
      ⟨node.hwnd, node.className, (dumpTitle node.title).1, node.pid, node.visible, node.rect,
        none, []⟩
  | levels + 1, node =>
      ⟨node.hwnd, node.className, (dumpTitle node.title).1, node.pid, node.visible, node.rect,
        none, ((graph.children node.hwnd).filterMap graph.get).map (readBack graph levels)⟩

theorem readBack_hwnd (levels : Nat) (node : WindowNode) :
    (readBack graph levels node).hwnd = node.hwnd := by
  cases levels <;> rfl

theorem readRect_dumpRect {rect : Option Rect}
    (typed : ∀ held, rect = some held → Json.i32.Holds held.left ∧ Json.i32.Holds held.top ∧
      Json.i32.Holds held.right ∧ Json.i32.Holds held.bottom) :
    Json.readOption readRect (dumpRect rect) = some rect := by
  cases rect with
  | none => rfl
  | some held =>
      obtain ⟨left, top, right, bottom⟩ := typed held rfl
      simp [dumpRect, Json.readOption, readRect, left, top, right, bottom]

/-- The entries of a window are read back when its children are. -/
theorem readNode_dumpFields (typed : Typed graph) {hwnd : Hwnd} {node : WindowNode}
    (found : graph.get hwnd = some node) (depth : Nat) {children : List Json}
    {nodes : List DumpNode} (read : readNodeList children = some nodes) :
    readNode (.object (dumpFields node depth children)) =
      some ⟨node.hwnd, node.className, (dumpTitle node.title).1, node.pid, node.visible,
        node.rect, none, nodes⟩ := by
  have rect := readRect_dumpRect fun held => typed.rect found
  simp [readNode, dumpFields, readNodeFields, once, readNodes, read, typed.hwnd found,
    typed.pid found, rect, PartialNode.finish]

theorem readNodeList_children {children : List Hwnd} {write : Hwnd → Json}
    {value : WindowNode → DumpNode}
    (reads : ∀ child ∈ children, ∃ node, graph.get child = some node ∧
      readNode (write child) = some (value node)) :
    readNodeList (children.map write) = some ((children.filterMap graph.get).map value) := by
  induction children with
  | nil => rfl
  | cons child rest ih =>
      obtain ⟨node, found, read⟩ := reads child (List.mem_cons_self ..)
      have later := ih fun other member => reads other (List.mem_cons_of_mem child member)
      simp [readNodeList, read, later, found]

theorem readNode_dumpNode (typed : Typed graph) (levels depth : Nat) {hwnd : Hwnd}
    {node : WindowNode} (complete : CompleteBelow graph hwnd)
    (found : graph.get hwnd = some node) :
    readNode (dumpNode graph levels depth hwnd) = some (readBack graph levels node) := by
  obtain rfl := WindowGraph.get_hwnd found
  induction levels generalizing depth node with
  | zero =>
      simp only [dumpNode, found, readBack]
      exact readNode_dumpFields typed found depth rfl
  | succ levels ih =>
      simp only [dumpNode, found, readBack]
      refine readNode_dumpFields typed found depth (readNodeList_children fun child listed => ?_)
      obtain ⟨childNode, childFound⟩ := complete Relation.ReflTransGen.refl listed
      obtain rfl := WindowGraph.get_hwnd childFound
      refine ⟨childNode, childFound, ih (depth + 1) (fun inside => ?_) childFound⟩
      exact complete (Relation.ReflTransGen.head listed inside)

def picture (node : WindowNode) : WindowNode :=
  { node with
    title := .known (dumpTitle node.title).1
    owner := none }

/-- A graph that holds the pictures of some of another's windows, each with all its children
in their order. -/
structure Partly (graph loaded : WindowGraph) : Prop where
  node : ∀ {hwnd stored}, loaded.get hwnd = some stored →
    ∃ node, graph.get hwnd = some node ∧ picture node = stored
  children : ∀ {hwnd stored}, loaded.get hwnd = some stored →
    loaded.children hwnd = graph.children hwnd

def Holds (loaded : WindowGraph) (hwnd : Hwnd) : Prop := ∃ stored, loaded.get hwnd = some stored

/-- What loading a window, or several, adds: the graph stays a part of the dumped one, and
the windows it holds grow by exactly these. -/
structure Loads (graph before : WindowGraph) (added : Hwnd → Prop) (after : WindowGraph) :
    Prop where
  partly : Partly graph before → Partly graph after
  holds : ∀ hwnd, Holds after hwnd ↔ Holds before hwnd ∨ added hwnd
  pids : after.pids = before.pids

theorem Loads.trans {before middle after : WindowGraph} {first second both : Hwnd → Prop}
    (left : Loads graph before first middle) (right : Loads graph middle second after)
    (split : ∀ hwnd, both hwnd ↔ first hwnd ∨ second hwnd) : Loads graph before both after where
  partly held := right.partly (left.partly held)
  holds hwnd := by rw [right.holds, left.holds, split, or_assoc]
  pids := right.pids.trans left.pids

/-- Loading one window without its children. -/
theorem loads_single {node : WindowNode} (found : graph.get node.hwnd = some node)
    (before : WindowGraph) :
    Loads graph before (fun hwnd => hwnd = node.hwnd)
      ((before.insertNode (picture node)).setChildren node.hwnd
        (graph.children node.hwnd)) := by
  have kept : ∀ hwnd, ((before.insertNode (picture node)).setChildren node.hwnd
      (graph.children node.hwnd)).get hwnd =
        if node.hwnd = hwnd then some (picture node) else before.get hwnd :=
    before.get_insertNode (picture node)
  constructor
  · intro held
    constructor
    · intro hwnd stored stays
      rw [kept] at stays
      split at stays
      · rename_i same
        subst same
        exact ⟨node, found, Option.some.inj stays⟩
      · exact held.node stays
    · intro hwnd stored stays
      rw [kept] at stays
      change (if hwnd = node.hwnd then _ else before.children hwnd) = _
      by_cases same : node.hwnd = hwnd
      · rw [if_pos same.symm, same]
      · rw [if_neg same] at stays
        rw [if_neg fun other => same other.symm]
        exact held.children stays
  · intro hwnd
    simp only [Holds, kept]
    by_cases same : node.hwnd = hwnd
    · simp [same]
    · rw [if_neg same]
      exact (or_iff_left fun other => same other.symm).symm
  · rfl

/-- Loading several windows, one after the other. -/
theorem loads_list {nodes : List WindowNode} {parent : Option Hwnd}
    {value : WindowNode → DumpNode}
    (each : ∀ node ∈ nodes, ∀ before,
      Loads graph before (graph.InTree node.hwnd) (loadNode before parent (value node)))
    (before : WindowGraph) :
    Loads graph before (fun hwnd => ∃ node ∈ nodes, graph.InTree node.hwnd hwnd)
      (loadNodes before parent (nodes.map value)) := by
  induction nodes generalizing before with
  | nil =>
      simp only [List.map_nil, loadNodes]
      exact ⟨id, fun hwnd => by simp, rfl⟩
  | cons node rest ih =>
      simp only [List.map_cons, loadNodes]
      have first := each node (List.mem_cons_self ..) before
      have later := ih (fun other member => each other (List.mem_cons_of_mem node member))
        (loadNode before parent (value node))
      exact first.trans later fun hwnd => by simp

/-- The children of a window that has nodes for all of them. -/
theorem children_found {parent : Hwnd} (complete : CompleteBelow graph parent) :
    ((graph.children parent).filterMap graph.get).map WindowNode.hwnd =
      graph.children parent := by
  have each : ∀ child ∈ graph.children parent, ∃ node, graph.get child = some node :=
    fun child listed => complete Relation.ReflTransGen.refl listed
  generalize graph.children parent = children at each
  induction children with
  | nil => rfl
  | cons child rest ih =>
      obtain ⟨node, found⟩ := each child (List.mem_cons_self ..)
      have later := ih fun other member => each other (List.mem_cons_of_mem child member)
      simp [found, later, WindowGraph.get_hwnd found]

theorem inTree_iff {root hwnd : Hwnd} :
    graph.InTree root hwnd ↔
      hwnd = root ∨ ∃ child ∈ graph.children root, graph.InTree child hwnd := by
  constructor
  · intro inside
    cases Relation.ReflTransGen.cases_head inside with
    | inl same => exact Or.inl same.symm
    | inr below =>
        obtain ⟨child, listed, deeper⟩ := below
        exact Or.inr ⟨child, listed, deeper⟩
  · intro either
    cases either with
    | inl same => exact same ▸ Relation.ReflTransGen.refl
    | inr below =>
        obtain ⟨child, listed, deeper⟩ := below
        exact Relation.ReflTransGen.head listed deeper

/-- Loading a dumped window loads its tree. -/
theorem loads_readBack (shaped : graph.ForestShaped) (levels : Nat) {node : WindowNode}
    (found : graph.get node.hwnd = some node) (deep : DepthAtMost graph levels node.hwnd)
    (complete : CompleteBelow graph node.hwnd) (before : WindowGraph) :
    Loads graph before (graph.InTree node.hwnd)
      (loadNode before node.structuralParent (readBack graph levels node)) := by
  induction levels generalizing node before with
  | zero =>
      have alone := loads_single found before
      rw [deep] at alone
      have only : graph.InTree node.hwnd = fun hwnd => hwnd = node.hwnd := by
        funext hwnd
        rw [inTree_iff, deep]
        simp
      rw [only]
      exact alone
  | succ levels ih =>
      have children : (((graph.children node.hwnd).filterMap graph.get).map
          (readBack graph levels)).map DumpNode.hwnd = graph.children node.hwnd := by
        rw [List.map_map]
        have handles : DumpNode.hwnd ∘ readBack graph levels = WindowNode.hwnd :=
          funext fun child => readBack_hwnd levels child
        rw [handles]
        exact children_found complete
      have below : ∀ middle, Loads graph middle
          (fun hwnd => ∃ child ∈ (graph.children node.hwnd).filterMap graph.get,
            graph.InTree child.hwnd hwnd)
          (loadNodes middle (some node.hwnd)
            (((graph.children node.hwnd).filterMap graph.get).map (readBack graph levels))) := by
        refine loads_list fun child member middle => ?_
        obtain ⟨hwnd, listed, childFound⟩ := List.mem_filterMap.mp member
        obtain rfl := WindowGraph.get_hwnd childFound
        rw [← shaped.rooted listed childFound]
        refine ih childFound (deep child.hwnd listed) (fun inside => ?_) middle
        exact complete (Relation.ReflTransGen.head listed inside)
      have alone := loads_single found before
      rw [← children] at alone
      refine alone.trans (below _) fun hwnd => ?_
      rw [inTree_iff]
      refine or_congr Iff.rfl ⟨fun either => ?_, fun either => ?_⟩
      · obtain ⟨child, listed, inside⟩ := either
        obtain ⟨childNode, childFound⟩ := complete Relation.ReflTransGen.refl listed
        have same := WindowGraph.get_hwnd childFound
        exact ⟨childNode, List.mem_filterMap.mpr ⟨child, listed, childFound⟩, same ▸ inside⟩
      · obtain ⟨childNode, member, inside⟩ := either
        obtain ⟨child, listed, childFound⟩ := List.mem_filterMap.mp member
        exact ⟨child, listed, WindowGraph.get_hwnd childFound ▸ inside⟩

/-- The graph without its owned top-level windows. -/
def withoutOwned (graph : WindowGraph) : WindowGraph where
  pids := graph.pids
  nodes := graph.nodes.filter fun node => !(node.structuralParent.isNone && isOwned node)
  children := graph.children
  keyed := graph.keyed.sublist (List.filter_sublist.map WindowNode.hwnd)

theorem get_withoutOwned {hwnd : Hwnd} {node : WindowNode} :
    (withoutOwned graph).get hwnd = some node ↔
      graph.get hwnd = some node ∧ (node.structuralParent = none → isOwned node = false) := by
  simp only [WindowGraph.get_eq_some_iff, withoutOwned, List.mem_filter, Bool.not_eq_true',
    Bool.and_eq_false_imp, Option.isNone_iff_eq_none]
  exact and_right_comm

theorem withoutOwned_self (unowned : ∀ node ∈ dumpedTops graph, isOwned node = false) :
    withoutOwned graph = graph := by
  have all : graph.nodes.filter (fun node => !(node.structuralParent.isNone && isOwned node)) =
      graph.nodes := by
    refine List.filter_eq_self.mpr fun node member => ?_
    cases top : node.structuralParent with
    | some parent => rfl
    | none =>
        have found := WindowGraph.get_of_mem member
        have listed : node.hwnd ∈ graph.enumWindows :=
          WindowGraph.mem_enumWindows.mpr ⟨node, found, top⟩
        rw [unowned node (List.mem_filterMap.mpr ⟨node.hwnd, listed, found⟩)]
        rfl
  simp only [withoutOwned, all]

def replayedTops (graph : WindowGraph) : List WindowNode :=
  (dumpedTops graph).filter fun node => !isOwned node

theorem mem_replayedTops {node : WindowNode} :
    node ∈ replayedTops graph ↔
      graph.get node.hwnd = some node ∧ node.structuralParent = none ∧ isOwned node = false := by
  simp only [replayedTops, dumpedTops, List.mem_filter, List.mem_filterMap,
    WindowGraph.mem_enumWindows, Bool.not_eq_true']
  constructor
  · intro kept
    obtain ⟨⟨hwnd, ⟨top, found, isTop⟩, also⟩, unowned⟩ := kept
    obtain rfl := Option.some.inj (found.symm.trans also)
    obtain rfl := WindowGraph.get_hwnd found
    exact ⟨found, isTop, unowned⟩
  · intro kept
    obtain ⟨found, isTop, unowned⟩ := kept
    exact ⟨⟨node.hwnd, ⟨node, found, isTop⟩, found⟩, unowned⟩

/-- What the dump of a graph has to meet to be read back: trees of depth at most
six, titles that were read, owners above top-level windows only, values of their
types, and a node for every child of the trees that are replayed. -/
structure Replayable (graph : WindowGraph) : Prop extends graph.ForestShaped where
  typed : Typed graph
  titled : ∀ {hwnd node}, graph.get hwnd = some node → node.textKnown = true
  childParent : ∀ {hwnd node parent}, graph.get hwnd = some node →
    node.structuralParent = some parent → node.win32Parent = parent
  deep : ∀ top ∈ replayedTops graph, DepthAtMost graph maxDepth top.hwnd
  complete : ∀ top ∈ replayedTops graph, CompleteBelow graph top.hwnd

/-- The file that is read from a dump. Owned popups are in a list of their own, which the
reader does not look at. -/
def replayFile (graph : WindowGraph) : DumpFile where
  pids := graph.pids
  windows := (replayedTops graph).map (readBack graph maxDepth)

theorem loads_replayFile (replayable : Replayable graph) :
    Loads graph (WindowGraph.empty graph.pids)
      (fun hwnd => ∃ top ∈ replayedTops graph, graph.InTree top.hwnd hwnd)
      (loadFile (replayFile graph)) := by
  refine loads_list (fun top member before => ?_) _
  obtain ⟨found, isTop, _⟩ := mem_replayedTops.mp member
  rw [← isTop]
  exact loads_readBack replayable.toForestShaped maxDepth found (replayable.deep top member)
    (replayable.complete top member) before

theorem partly_empty (pids : List Pid) : Partly graph (WindowGraph.empty pids) where
  node found := by cases found
  children found := by cases found

theorem holds_replayFile (replayable : Replayable graph) (hwnd : Hwnd) :
    Holds (loadFile (replayFile graph)) hwnd ↔
      ∃ top ∈ replayedTops graph, graph.InTree top.hwnd hwnd := by
  rw [(loads_replayFile replayable).holds]
  exact or_iff_right fun held => nomatch held.choose_spec

/-- A top-level window that was loaded is one of the unowned ones. -/
theorem loaded_top (replayable : Replayable graph) {node : WindowNode}
    (found : graph.get node.hwnd = some node) (isTop : node.structuralParent = none)
    (held : Holds (loadFile (replayFile graph)) node.hwnd) : node ∈ replayedTops graph := by
  obtain ⟨top, member, inside⟩ := (holds_replayFile replayable node.hwnd).mp held
  cases Relation.ReflTransGen.cases_tail inside with
  | inl same =>
      have topFound := (mem_replayedTops.mp member).1
      rw [← same, found] at topFound
      exact Option.some.inj topFound ▸ member
  | inr below =>
      obtain ⟨parent, _, listed⟩ := below
      rw [replayable.rooted listed found] at isTop
      cases isTop

/-- The picture of a window reads like the window. -/
theorem picture_alike (replayable : Replayable graph) {node : WindowNode}
    (found : graph.get node.hwnd = some node)
    (unowned : node.structuralParent = none → isOwned node = false) :
    node.Alike (picture node) where
  hwnd := rfl
  pid := rfl
  className := rfl
  text := by
    have titled := replayable.titled found
    obtain ⟨hwnd, pid, className, title, structuralParent, owner, rect, visible⟩ := node
    cases title with
    | known text => rfl
    | truncated text => rfl
    | unknown _ => cases titled
  textKnown := (replayable.titled found).symm ▸ rfl
  win32Parent := by
    cases top : node.structuralParent with
    | none =>
        have none := unowned top
        simp only [isOwned, bne_eq_false_iff_eq] at none
        simp only [WindowNode.win32Parent, picture, top, Option.or_none]
        rw [none]
        rfl
    | some parent =>
        rw [replayable.childParent found top]
        simp only [WindowNode.win32Parent, picture, top]
        rfl
  rect := rfl
  visible := rfl

/-- Replaying loads the graph without its owned top-level windows, as far as an
evaluation can see. -/
theorem replay_coincide (replayable : Replayable graph) :
    (withoutOwned graph).Coincide (Holds (loadFile (replayFile graph)))
      (loadFile (replayFile graph)) := by
  have loads := loads_replayFile replayable
  have partly := loads.partly (partly_empty graph.pids)
  have kept : ∀ {hwnd stored}, (loadFile (replayFile graph)).get hwnd = some stored →
      ∃ node, graph.get hwnd = some node ∧ picture node = stored ∧
        (node.structuralParent = none → node ∈ replayedTops graph) := by
    intro hwnd stored found
    obtain ⟨node, original, same⟩ := partly.node found
    refine ⟨node, original, same, fun isTop => ?_⟩
    obtain rfl := WindowGraph.get_hwnd original
    exact loaded_top replayable original isTop ⟨stored, found⟩
  have tops : collectTopLevel (loadFile (replayFile graph)) =
      (collectTopLevel (withoutOwned graph)).map picture := by
    refine collectTopLevel_map (fun node => rfl) fun node => ?_
    constructor
    · intro top
      obtain ⟨found, isTop, known⟩ := mem_collectTopLevel.mp top
      obtain ⟨before, original, same, member⟩ := kept found
      obtain rfl := same
      have unowned := (mem_replayedTops.mp (member isTop)).2.2
      rw [loads.pids] at known
      exact ⟨before, mem_collectTopLevel.mpr
        ⟨get_withoutOwned.mpr ⟨original, fun _ => unowned⟩, isTop, known⟩, rfl⟩
    · intro both
      obtain ⟨before, top, same⟩ := both
      obtain rfl := same
      obtain ⟨found, isTop, known⟩ := mem_collectTopLevel.mp top
      obtain ⟨original, unowned⟩ := get_withoutOwned.mp found
      have member := mem_replayedTops.mpr ⟨original, isTop, unowned isTop⟩
      obtain ⟨stored, loaded⟩ := (holds_replayFile replayable before.hwnd).mpr
        ⟨before, member, Relation.ReflTransGen.refl⟩
      obtain ⟨other, also, rfl⟩ := partly.node loaded
      obtain rfl := Option.some.inj (original.symm.trans also)
      refine mem_collectTopLevel.mpr ⟨loaded, isTop, ?_⟩
      rw [loads.pids]
      exact known
  have order : ∀ {parent}, Holds (loadFile (replayFile graph)) parent →
      (loadFile (replayFile graph)).children parent = (withoutOwned graph).children parent :=
    fun held => partly.children held.choose_spec
  refine ⟨⟨loads.pids, fun held => by rw [order held], ?_, ?_, ?_⟩, order⟩
  · intro parent child held listed
    rw [holds_replayFile replayable] at held ⊢
    obtain ⟨top, member, inside⟩ := held
    exact ⟨top, member, inside.tail listed⟩
  · intro hwnd held
    obtain ⟨stored, found⟩ := held
    obtain ⟨node, original, same, member⟩ := kept found
    have unowned : node.structuralParent = none → isOwned node = false :=
      fun isTop => (mem_replayedTops.mp (member isTop)).2.2
    obtain rfl := WindowGraph.get_hwnd original
    exact Or.inr ⟨node, stored, get_withoutOwned.mpr ⟨original, unowned⟩, found,
      same ▸ picture_alike replayable original unowned⟩
  · rw [tops, List.forall₂_map_right_iff]
    refine List.forall₂_same.mpr fun node top => ?_
    obtain ⟨found, isTop, _⟩ := mem_collectTopLevel.mp top
    obtain ⟨original, unowned⟩ := get_withoutOwned.mp found
    refine ⟨picture_alike replayable original unowned, ?_⟩
    exact (holds_replayFile replayable node.hwnd).mpr ⟨node,
      mem_replayedTops.mpr ⟨original, isTop, unowned isTop⟩, Relation.ReflTransGen.refl⟩

theorem readNodeList_map {nodes : List WindowNode} {write : WindowNode → Json}
    {value : WindowNode → DumpNode}
    (reads : ∀ node ∈ nodes, readNode (write node) = some (value node)) :
    readNodeList (nodes.map write) = some (nodes.map value) := by
  induction nodes with
  | nil => rfl
  | cons node rest ih =>
      have later := ih fun other member => reads other (List.mem_cons_of_mem node member)
      simp [readNodeList, reads node (List.mem_cons_self ..), later]

theorem readFile_graphToDump (replayable : Replayable graph) (timestamp : String)
    (evaluation : Evaluation) :
    readFile (graphToDump timestamp graph evaluation) = some (replayFile graph) := by
  have pids : Json.readList (Json.readInt Json.i64) (.array (graph.pids.map .number)) =
      some graph.pids := by
    rw [Json.readList_array fun pid known => Json.readInt_number (replayable.typed.pids pid known),
      List.map_id']
  have windows : readNodeList ((replayedTops graph).map fun node =>
      dumpNode graph maxDepth 0 node.hwnd) =
        some ((replayedTops graph).map (readBack graph maxDepth)) := by
    refine readNodeList_map fun node member => ?_
    exact readNode_dumpNode replayable.typed maxDepth 0 (replayable.complete node member)
      (mem_replayedTops.mp member).1
  simp only [replayedTops] at windows
  simp [readFile, graphToDump, readFileFields, once, readNodes, pids, windows,
    PartialFile.finish, replayFile, replayedTops]

variable [Unicode]

/-- A replay evaluates the graph without its owned top-level windows. -/
theorem evaluateDump_graphToDump {parse : String → Option Json} {text timestamp : String}
    {evaluation : Evaluation} (replayable : Replayable graph)
    (parsed : parse text = some (graphToDump timestamp graph evaluation))
    (settings : LayoutSettings) (rules : LayoutRules) :
    evaluateDump parse text settings rules =
      some (evaluateGraph (withoutOwned graph) settings rules) := by
  have read : fromDumpJson parse text = some (loadFile (replayFile graph)) := by
    simp only [fromDumpJson, parsed, Option.bind_some, readFile_graphToDump replayable,
      Option.map_some]
  have same : evaluateGraph (loadFile (replayFile graph)) settings rules =
      evaluateGraph (withoutOwned graph) settings rules :=
    congrArg Prod.fst
      (evaluateInner_coincide (replay_coincide replayable) StateMap.empty true)
  simp only [evaluateDump, read, Option.map_some, same]

/-- The dump of a graph can be read, and what was read is evaluated from empty
states like the graph without its owned top-level windows. -/
theorem dump_replays {parse : String → Option Json} {text timestamp : String}
    {evaluation : Evaluation} (replayable : Replayable graph)
    (parsed : parse text = some (graphToDump timestamp graph evaluation))
    (settings : LayoutSettings) (rules : LayoutRules) :
    evaluateDump parse text settings rules =
        some (evaluateGraph (withoutOwned graph) settings rules) ∧
      ((∀ node ∈ dumpedTops graph, isOwned node = false) →
        evaluateDump parse text settings rules = some (evaluateGraph graph settings rules)) := by
  have replayed := evaluateDump_graphToDump replayable parsed settings rules
  refine ⟨replayed, fun unowned => ?_⟩
  rw [replayed, withoutOwned_self unowned]

omit [Unicode]

/-- A main window with its view, and an owned popup with an ad in it. -/
def ownedPopup : WindowGraph where
  pids := [100]
  nodes :=
    [{ hwnd := 1, pid := 100, className := "EVA_Window_Dblclk", title := .known "KakaoTalk",
       structuralParent := none, owner := none, rect := some ⟨0, 0, 400, 600⟩, visible := true },
     { hwnd := 2, pid := 100, className := "EVA_ChildWindow", title := .known "OnlineMainView_1",
       structuralParent := some 1, owner := none, rect := some ⟨0, 0, 400, 500⟩, visible := true },
     { hwnd := 3, pid := 100, className := "EVA_Window_Dblclk", title := .known "",
       structuralParent := none, owner := some 1, rect := some ⟨0, 0, 300, 90⟩, visible := true },
     { hwnd := 4, pid := 100, className := "Chrome_WidgetWin_1",
       title := .known "Chrome Legacy Window", structuralParent := some 3, owner := none,
       rect := some ⟨0, 0, 300, 90⟩, visible := true }]
  children hwnd := if hwnd = 1 then [2] else if hwnd = 3 then [4] else []
  keyed := by decide

theorem ownedPopup_listed {parent child : Hwnd} :
    child ∈ ownedPopup.children parent ↔
      (parent = 1 ∧ child = 2) ∨ (parent = 3 ∧ child = 4) := by
  simp only [ownedPopup]
  split_ifs <;> simp_all

theorem ownedPopup_shaped : ownedPopup.ForestShaped where
  toForest := by
    refine WindowGraph.forest_of_increasing ?_ ?_ ?_
    · intro parent
      simp only [ownedPopup]
      split_ifs <;> decide
    · intro first second child inFirst inSecond
      have := ownedPopup_listed.mp inFirst
      have := ownedPopup_listed.mp inSecond
      grind
    · intro parent child listed
      have := ownedPopup_listed.mp listed
      grind
  rooted := by
    intro parent child node listed found
    obtain ⟨rfl, rfl⟩ | ⟨rfl, rfl⟩ := ownedPopup_listed.mp listed
    · cases found
      rfl
    · cases found
      rfl

theorem ownedPopup_replayable : Replayable ownedPopup where
  toForestShaped := ownedPopup_shaped
  typed := by
    have rects : ∀ node ∈ ownedPopup.nodes, ∀ rect ∈ node.rect,
        Json.i32.Holds rect.left ∧ Json.i32.Holds rect.top ∧ Json.i32.Holds rect.right ∧
          Json.i32.Holds rect.bottom := by decide
    have handles : ∀ node ∈ ownedPopup.nodes, Json.i64.Holds node.hwnd := by decide
    have pids : ∀ node ∈ ownedPopup.nodes, Json.i64.Holds node.pid := by decide
    exact ⟨by decide, fun found => handles _ (WindowGraph.get_eq_some_iff.mp found).1,
      fun found => pids _ (WindowGraph.get_eq_some_iff.mp found).1,
      fun found same => rects _ (WindowGraph.get_eq_some_iff.mp found).1 _ same⟩
  titled found := by
    have titled : ∀ node ∈ ownedPopup.nodes, node.textKnown = true := by decide
    exact titled _ (WindowGraph.get_eq_some_iff.mp found).1
  childParent found top := by
    have parents : ∀ node ∈ ownedPopup.nodes, ∀ parent ∈ node.structuralParent,
        node.win32Parent = parent := by decide
    exact parents _ (WindowGraph.get_eq_some_iff.mp found).1 _ top
  deep top _ := by
    intro child listed grandchild below
    have := ownedPopup_listed.mp listed
    have := ownedPopup_listed.mp below
    grind
  complete top _ := by
    intro parent child _ listed
    obtain ⟨_, rfl⟩ | ⟨_, rfl⟩ := ownedPopup_listed.mp listed
    · exact ⟨_, rfl⟩
    · exact ⟨_, rfl⟩

/-- What is written for the popup and its main window. -/
def ownedPopupDump : Json :=
  let _ := asciiLowercase
  graphToDump "0" ownedPopup (evaluateGraph ownedPopup {} .default)

/-- The popup is hidden by an evaluation of the windows, and not by one of their
dump. -/
theorem ownedPopup_not_replayed :
    let _ := asciiLowercase
    Replayable ownedPopup ∧ (evaluateGraph ownedPopup {} .default).actions.hide = [3] ∧
      (evaluateDump (fun _ => some ownedPopupDump) "" {} .default).map (·.actions.hide) =
        some [] := by
  let _ := asciiLowercase
  have replayed : evaluateDump (fun _ => some ownedPopupDump) "" {} .default =
      some (evaluateGraph (withoutOwned ownedPopup) {} .default) :=
    evaluateDump_graphToDump ownedPopup_replayable rfl {} .default
  have none : (evaluateGraph (withoutOwned ownedPopup) {} .default).actions.hide = [] := by decide
  refine ⟨ownedPopup_replayable, by decide, ?_⟩
  simp only [replayed, Option.map_some, none]

theorem ownedPopup_rest_replayed :
    let _ := asciiLowercase
    evaluateDump (fun _ => some ownedPopupDump) "" {} .default =
      some (evaluateGraph (withoutOwned ownedPopup) {} .default) :=
  let _ := asciiLowercase
  (dump_replays ownedPopup_replayable rfl {} .default).1

end LayoutAdblock.Dump
