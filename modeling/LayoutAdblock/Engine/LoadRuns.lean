import LayoutAdblock.Data.Pending
import LayoutAdblock.Engine.GraphBuild

namespace LayoutAdblock.Engine

open LayoutAdblock.Core Interaction

/-! # Runs of the tree walk

`load_tree` calls itself without a bound.  `Loads` is that recursion on fixed
answers, and has a derivation exactly where the recursion returns.
-/

variable {answer : (call : Call) → call.Answer} {pairs : List (Hwnd × Hwnd)} {pid : Pid}

/-- A call of `load_tree`, or what is left of the loop over the children of a
window. -/
inductive Load where
  | tree (structuralParent : Option Hwnd) (hwnd : Hwnd)
  | siblings (parent : Hwnd) (list : List Hwnd)

/-- What loading a tree, or a list of them, does to what has been loaded, when Windows
answers every question alike. A window that was visited is left out, and so is one that is
gone, with all that is below it. -/
inductive Loads (answer : (call : Call) → call.Answer) (pairs : List (Hwnd × Hwnd)) (pid : Pid) :
    Load → Loading → Loading → Prop where
  | visited {structuralParent : Option Hwnd} {hwnd : Hwnd} {before : Loading}
      (seen : hwnd ∈ before.visited) :
      Loads answer pairs pid (.tree structuralParent hwnd) before before
  | gone {structuralParent : Option Hwnd} {hwnd : Hwnd} {before : Loading}
      (fresh : hwnd ∉ before.visited) (dead : answer (.isWindow hwnd) = false) :
      Loads answer pairs pid (.tree structuralParent hwnd) before
        { before with visited := hwnd :: before.visited }
  | window {structuralParent : Option Hwnd} {hwnd : Hwnd} {before loaded : Loading}
      (fresh : hwnd ∉ before.visited) (alive : answer (.isWindow hwnd) = true)
      (below : Loads answer pairs pid (.siblings hwnd (childrenOf pairs hwnd))
        { visited := hwnd :: before.visited
          graph := before.graph.insertNode
            ((readNode hwnd structuralParent pid).eval answer) } loaded) :
      Loads answer pairs pid (.tree structuralParent hwnd) before
        { loaded with graph := loaded.graph.setChildren hwnd (childrenOf pairs hwnd) }
  | done {parent : Hwnd} {before : Loading} :
      Loads answer pairs pid (.siblings parent []) before before
  | child {parent child : Hwnd} {rest : List Hwnd} {before middle after : Loading}
      (first : Loads answer pairs pid (.tree (some parent) child) before middle)
      (others : Loads answer pairs pid (.siblings parent rest) middle after) :
      Loads answer pairs pid (.siblings parent (child :: rest)) before after

theorem Loads.visits {load : Load} {before after : Loading}
    (loads : Loads answer pairs pid load before after) :
    ∀ hwnd ∈ before.visited, hwnd ∈ after.visited := by
  induction loads with
  | visited _ => exact fun _ seen => seen
  | gone _ _ => exact fun _ seen => List.mem_cons_of_mem _ seen
  | window _ _ _ ih => exact fun hwnd seen => ih hwnd (List.mem_cons_of_mem _ seen)
  | done => exact fun _ seen => seen
  | child _ _ first others => exact fun hwnd seen => others hwnd (first hwnd seen)

/-- The recursion returns: each level visits one more of the windows the
enumeration names, and the fuel covers them all. -/
theorem loadTree_loads {windows : List Hwnd}
    (named : ∀ {parent child}, child ∈ childrenOf pairs parent → child ∈ windows) (fuel : Nat)
    {structuralParent : Option Hwnd} {hwnd : Hwnd} {loading : Loading} (listed : hwnd ∈ windows)
    (enough : Data.pending (fun _ => 1) windows loading.visited < fuel) :
    Loads answer pairs pid (.tree structuralParent hwnd) loading
      ((loadTree pairs pid fuel structuralParent hwnd loading).eval answer) := by
  induction fuel generalizing structuralParent hwnd loading with
  | zero => omega
  | succ fuel ih =>
      have siblings : ∀ (parent : Hwnd) (list : List Hwnd) (start : Loading),
          (∀ child ∈ list, child ∈ windows) →
          Data.pending (fun _ => 1) windows start.visited < fuel →
          Loads answer pairs pid (.siblings parent list) start
            ((loadTree.loadChildren (loadTree pairs pid fuel (some parent)) list start).eval
              answer) := by
        intro parent list
        induction list with
        | nil => exact fun _ _ _ => Loads.done
        | cons child rest inner =>
            intro start inside left
            have first : Loads answer pairs pid (.tree (some parent) child) start
                ((loadTree pairs pid fuel (some parent) child start).eval answer) :=
              ih (inside child List.mem_cons_self) left
            simp only [loadTree.loadChildren, Program.eval_bind]
            apply Loads.child first
            apply inner
            · exact fun other member => inside other (List.mem_cons_of_mem _ member)
            · exact Nat.lt_of_le_of_lt (Data.pending_antitone _ windows first.visits) left
      unfold loadTree
      by_cases seen : hwnd ∈ loading.visited
      · simp only [List.contains_iff_mem.mpr seen, if_true]
        exact Loads.visited seen
      · have unseen : loading.visited.contains hwnd = false := by simpa using seen
        simp only [unseen, Bool.false_eq_true, if_false, ask, Program.eval_bind, Program.eval_ask]
        by_cases alive : answer (.isWindow hwnd) = true
        · simp only [alive, Bool.not_true, Bool.false_eq_true, if_false, Program.eval_bind,
            Program.pure_eq, Program.eval_done]
          apply Loads.window seen alive
          apply siblings
          · exact fun child => named
          · have visit := Data.pending_visit (fun _ => 1) listed seen
            change Data.pending (fun _ => 1) windows (hwnd :: loading.visited) < fuel
            omega
        · have dead : answer (.isWindow hwnd) = false := Bool.eq_false_iff.mpr alive
          simp only [dead, Bool.not_false, if_true, Program.pure_eq, Program.eval_done]
          exact Loads.gone seen dead

/-- The enumeration of one top-level window after the other, with the trees
below them. -/
inductive LoadsTops (answer : (call : Call) → call.Answer) :
    List (Hwnd × Pid) → Loading → Loading → Prop where
  | done {before : Loading} : LoadsTops answer [] before before
  | top {hwnd : Hwnd} {pid : Pid} {rest : List (Hwnd × Pid)} {before middle after : Loading}
      (first : Loads answer ((childMap hwnd).eval answer) pid (.tree none hwnd) before middle)
      (others : LoadsTops answer rest middle after) :
      LoadsTops answer ((hwnd, pid) :: rest) before after

/-- `build_graph` returns on any fixed answers. -/
theorem loadTops_loads (tops : List (Hwnd × Pid)) (loading : Loading) :
    ∃ visited, LoadsTops answer tops loading
      { graph := (loadTops tops loading).eval answer, visited := visited } := by
  induction tops generalizing loading with
  | nil => exact ⟨loading.visited, LoadsTops.done⟩
  | cons top rest ih =>
      obtain ⟨hwnd, pid⟩ := top
      let pairs := (childMap hwnd).eval answer
      let windows := hwnd :: pairs.map Prod.snd
      have named : ∀ {parent child}, child ∈ childrenOf pairs parent → child ∈ windows := by
        intro parent child member
        obtain ⟨pair, kept, same⟩ := List.mem_map.mp member
        exact List.mem_cons_of_mem _ (List.mem_map.mpr ⟨pair, (List.mem_filter.mp kept).1, same⟩)
      have enough : Data.pending (fun _ => 1) windows loading.visited < pairs.length + 2 := by
        have most := Data.pending_one_le windows loading.visited
        have size : windows.length = pairs.length + 1 := by simp [windows]
        omega
      have first : Loads answer pairs pid (.tree none hwnd) loading
          ((loadTree pairs pid (pairs.length + 2) none hwnd loading).eval answer) :=
        loadTree_loads named (pairs.length + 2) List.mem_cons_self enough
      obtain ⟨visited, others⟩ := ih _
      refine ⟨visited, ?_⟩
      simp only [loadTops, Program.eval_bind]
      exact LoadsTops.top first others

end LayoutAdblock.Engine
