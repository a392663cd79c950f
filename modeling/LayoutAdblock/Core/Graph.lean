import Mathlib.Data.List.Sort
import Mathlib.Logic.Relation
import LayoutAdblock.Core.Model

namespace LayoutAdblock.Core

/-- A window graph.  The node map is keyed by the nodes' own handles, so it is
the list of its nodes in some iteration order; a missing child list and an
empty one are read alike. -/
structure WindowGraph where
  pids : List Pid
  nodes : List WindowNode
  children : Hwnd → List Hwnd
  keyed : (nodes.map WindowNode.hwnd).Nodup

namespace WindowGraph

/-- The graph `WindowGraph::new` returns, which lists the processes of KakaoTalk and no
windows yet. -/
def empty (pids : List Pid) : WindowGraph where
  pids := pids
  nodes := []
  children := fun _ => []
  keyed := List.nodup_nil

/-- A node that is inserted again replaces the one its handle stood for, so a handle never
stands for two windows. -/
def insertNode (graph : WindowGraph) (node : WindowNode) : WindowGraph where
  pids := graph.pids
  nodes := node :: graph.nodes.filter (fun other => decide (other.hwnd ≠ node.hwnd))
  children := graph.children
  keyed := by
    rw [List.map_cons, List.nodup_cons]
    constructor
    · simp only [List.mem_map, List.mem_filter, decide_eq_true_eq, not_exists, not_and]
      intro other member
      exact member.2
    · exact graph.keyed.sublist (List.filter_sublist.map WindowNode.hwnd)

/-- The children of a window are a list of handles in the order of the screen, and need not
be nodes of the graph themselves. -/
def setChildren (graph : WindowGraph) (hwnd : Hwnd) (children : List Hwnd) : WindowGraph where
  pids := graph.pids
  nodes := graph.nodes
  children := fun other => if other = hwnd then children else graph.children other
  keyed := graph.keyed

/-- The node a handle stands for. A handle without a node belongs to a window that was gone
when the graph was built. -/
def get (graph : WindowGraph) (hwnd : Hwnd) : Option WindowNode :=
  graph.nodes.find? (fun node => decide (node.hwnd = hwnd))

/-- The top-level windows in the order of their handles, whatever the order they were
inserted in. -/
def enumWindows (graph : WindowGraph) : List Hwnd :=
  ((graph.nodes.filter (fun node => node.structuralParent.isNone)).map
    WindowNode.hwnd).insertionSort (· ≤ ·)

def enumChildren (graph : WindowGraph) (parent : Hwnd) : List Hwnd := graph.children parent

/-- The breadth-first queue of `enum_descendants`.  The queue holds whole
levels one after the other, so the recursion is on the levels left: `level`
are the entries of depth `depth`, and the next level is what they push. -/
def descendantsFrom (graph : WindowGraph) : Nat → Int → List Hwnd → List (Hwnd × Int)
  | 0, _, _ => []
  | levels + 1, depth, level =>
      level.map (fun hwnd => (hwnd, depth)) ++
        descendantsFrom graph levels (depth + 1) (level.flatMap graph.enumChildren)

/-- The windows below a parent with their depths, counted from one, in the order in which
they are first met. A parent that is no node has none, whatever its children. -/
def enumDescendants (graph : WindowGraph) (parent : Hwnd) (maxDepth : Int) :
    List (Hwnd × Int) :=
  if maxDepth ≤ 0 || (graph.get parent).isNone then []
  else graph.descendantsFrom maxDepth.toNat 1 (graph.enumChildren parent)

/-- The children lists form a forest: no window is listed twice, none is its
own descendant. -/
structure Forest (graph : WindowGraph) : Prop where
  nodup : ∀ parent, (graph.children parent).Nodup
  oneParent : ∀ {first second child}, child ∈ graph.children first →
    child ∈ graph.children second → first = second
  acyclic : ∀ hwnd, ¬ Relation.TransGen
    (fun child parent => child ∈ graph.children parent) hwnd hwnd

/-- Children lists that only name larger handles have no cycle. -/
theorem forest_of_increasing {graph : WindowGraph}
    (nodup : ∀ parent, (graph.children parent).Nodup)
    (oneParent : ∀ {first second child}, child ∈ graph.children first →
      child ∈ graph.children second → first = second)
    (increasing : ∀ {parent child}, child ∈ graph.children parent → parent < child) :
    graph.Forest where
  nodup := nodup
  oneParent := oneParent
  acyclic hwnd cycle := by
    have above : ∀ {first last : Hwnd}, Relation.TransGen
        (fun child parent => child ∈ graph.children parent) first last → last < first := by
      intro first last path
      induction path with
      | single listed => exact increasing listed
      | tail _ listed ih => exact (increasing listed).trans ih
    exact lt_irrefl hwnd (above cycle)

theorem get_eq_some_iff {graph : WindowGraph} {hwnd : Hwnd} {node : WindowNode} :
    graph.get hwnd = some node ↔ node ∈ graph.nodes ∧ node.hwnd = hwnd := by
  constructor
  · intro found
    exact ⟨List.mem_of_find?_eq_some found, by simpa using List.find?_some found⟩
  · rintro ⟨member, rfl⟩
    have distinct := graph.keyed
    unfold get
    generalize graph.nodes = nodes at member distinct
    induction nodes with
    | nil => simp at member
    | cons head rest ih =>
        rw [List.map_cons, List.nodup_cons] at distinct
        rcases List.mem_cons.mp member with same | later
        · simp [same]
        · have different : head.hwnd ≠ node.hwnd := by
            intro same
            exact distinct.1 (same ▸ List.mem_map_of_mem later)
          simpa [different] using ih later distinct.2

theorem get_hwnd {graph : WindowGraph} {hwnd : Hwnd} {node : WindowNode}
    (found : graph.get hwnd = some node) : node.hwnd = hwnd :=
  (get_eq_some_iff.mp found).2

theorem get_of_mem {graph : WindowGraph} {node : WindowNode} (member : node ∈ graph.nodes) :
    graph.get node.hwnd = some node :=
  get_eq_some_iff.mpr ⟨member, rfl⟩

theorem get_insertNode (graph : WindowGraph) (node : WindowNode) (hwnd : Hwnd) :
    (graph.insertNode node).get hwnd = if node.hwnd = hwnd then some node else graph.get hwnd := by
  split
  · rename_i same
    exact get_eq_some_iff.mpr ⟨List.mem_cons_self, same⟩
  · rename_i different
    simp only [get, insertNode, List.find?_cons, different, decide_false,
      List.find?_filter]
    congr 1
    funext other
    by_cases same : other.hwnd = hwnd
    · have apart : ¬ hwnd = node.hwnd := fun also => different also.symm
      simp [same, apart]
    · simp [same]

theorem mem_enumWindows {graph : WindowGraph} {hwnd : Hwnd} :
    hwnd ∈ graph.enumWindows ↔
      ∃ node, graph.get hwnd = some node ∧ node.structuralParent = none := by
  simp only [enumWindows, List.mem_insertionSort, List.mem_map, List.mem_filter,
    Option.isNone_iff_eq_none, get_eq_some_iff]
  constructor
  · rintro ⟨node, ⟨member, top⟩, same⟩
    exact ⟨node, ⟨member, same⟩, top⟩
  · rintro ⟨node, ⟨member, same⟩, top⟩
    exact ⟨node, ⟨member, top⟩, same⟩

/-- What holds of a level and passes from a window to those it lists holds of all
that lies below the level. -/
theorem descendantsFrom_inside {graph : WindowGraph} {inside : Hwnd → Prop} {levels : Nat}
    {depth found : Int} {level : List Hwnd} {hwnd : Hwnd}
    (closed : ∀ {parent child}, inside parent → child ∈ graph.children parent → inside child)
    (start : ∀ child ∈ level, inside child)
    (member : (hwnd, found) ∈ graph.descendantsFrom levels depth level) : inside hwnd := by
  induction levels generalizing depth level with
  | zero => simp [descendantsFrom] at member
  | succ levels ih =>
      simp only [descendantsFrom, List.mem_append, List.mem_map, Prod.mk.injEq] at member
      cases member with
      | inl here =>
          obtain ⟨child, listed, same, _⟩ := here
          exact same ▸ start child listed
      | inr deeper =>
          refine ih (fun child listed => ?_) deeper
          obtain ⟨parent, inLevel, below⟩ := List.mem_flatMap.mp listed
          exact closed (start parent inLevel) below

theorem mem_descendantsFrom {graph : WindowGraph} {levels : Nat} {depth found : Int}
    {level : List Hwnd} {hwnd : Hwnd}
    (member : (hwnd, found) ∈ graph.descendantsFrom levels depth level) :
    hwnd ∈ level ∨ ∃ parent, hwnd ∈ graph.children parent := by
  have passesOn : ∀ {parent child : Hwnd},
      (parent ∈ level ∨ ∃ above, parent ∈ graph.children above) → child ∈ graph.children parent →
        child ∈ level ∨ ∃ above, child ∈ graph.children above :=
    fun _ listed => Or.inr ⟨_, listed⟩
  exact descendantsFrom_inside passesOn (fun _ listed => Or.inl listed) member

/-- A window below a level is listed by a window of that level, or by one that is
itself listed. -/
theorem mem_descendantsFrom_listed {graph : WindowGraph} {levels : Nat} {depth found : Int}
    {level : List Hwnd} {hwnd : Hwnd}
    (member : (hwnd, found) ∈ graph.descendantsFrom levels depth level) :
    hwnd ∈ level ∨ ∃ parent, hwnd ∈ graph.children parent ∧
      (parent ∈ level ∨ ∃ above, parent ∈ graph.children above) := by
  have passesOn : ∀ {parent child : Hwnd},
      (parent ∈ level ∨ ∃ above, parent ∈ graph.children above ∧
        (above ∈ level ∨ ∃ top, above ∈ graph.children top)) → child ∈ graph.children parent →
      child ∈ level ∨ ∃ above, child ∈ graph.children above ∧
        (above ∈ level ∨ ∃ top, above ∈ graph.children top) := by
    intro parent child held listed
    refine Or.inr ⟨parent, listed, ?_⟩
    cases held with
    | inl inLevel => exact Or.inl inLevel
    | inr higher =>
        obtain ⟨above, listedAbove, _⟩ := higher
        exact Or.inr ⟨above, listedAbove⟩
  exact descendantsFrom_inside passesOn (fun _ listed => Or.inl listed) member

end WindowGraph

end LayoutAdblock.Core
