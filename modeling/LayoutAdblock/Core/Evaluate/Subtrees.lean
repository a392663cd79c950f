import LayoutAdblock.Core.Evaluate.Popups
import LayoutAdblock.Data.BoundedSearch

namespace LayoutAdblock.Core

open Data

/-! # The walks below a window -/

variable {graph : WindowGraph} {hwnd root : Hwnd}

/-- Some window within `maxDepth` children edges passes the test, and all windows on
the way are nodes. -/
def WindowGraph.Holds (graph : WindowGraph) (test : WindowNode → Bool) (hwnd : Hwnd)
    (maxDepth : Int) : Prop :=
  Found graph.get graph.children test hwnd maxDepth

/-- The recursion as it is written, with the calls it may still make. A graph with a cycle
makes it run deeper, but not beyond the depth it is given. -/
def subtreeSearch (graph : WindowGraph) (test : WindowNode → Bool) (fuel : Nat) (hwnd : Hwnd)
    (maxDepth : Int) : Option Bool :=
  search graph.get graph.children test fuel hwnd maxDepth

theorem subtreeSearch_eq_walk {test : WindowNode → Bool} {fuel : Nat} {hwnd : Hwnd}
    {maxDepth : Int} (enough : (maxDepth + 1).toNat < fuel) :
    subtreeSearch graph test fuel hwnd maxDepth =
      some (subtreeWalk graph test hwnd maxDepth) := by
  induction fuel generalizing hwnd maxDepth with
  | zero => omega
  | succ fuel ih =>
      rw [subtreeSearch, search]
      by_cases below : maxDepth < 0
      · have none : (maxDepth + 1).toNat = 0 := by omega
        rw [if_pos below, subtreeWalk, none, subtreeAny]
      · have level : (maxDepth + 1).toNat = (maxDepth - 1 + 1).toNat + 1 := by omega
        rw [if_neg below, subtreeWalk, level, subtreeAny]
        cases graph.get hwnd with
        | none => rfl
        | some node =>
            cases passes : test node with
            | true => simp [passes]
            | false =>
                have children : ∀ child, search graph.get graph.children test fuel child
                    (maxDepth - 1) = some (subtreeWalk graph test child (maxDepth - 1)) :=
                  fun child => ih (by omega)
                simp only [passes, Bool.false_eq_true, if_false, Bool.false_or]
                exact anyM_some children

theorem subtreeWalk_iff {test : WindowNode → Bool} {maxDepth : Int} :
    subtreeWalk graph test hwnd maxDepth = true ↔ graph.Holds test hwnd maxDepth := by
  classical
  have enough : (maxDepth + 1).toNat < (maxDepth + 1).toNat + 1 := Nat.lt_succ_self _
  have searched : subtreeSearch graph test ((maxDepth + 1).toNat + 1) hwnd maxDepth =
      some (subtreeWalk graph test hwnd maxDepth) := subtreeSearch_eq_walk enough
  rw [subtreeSearch, search_eq enough] at searched
  rw [← Option.some.inj searched, decide_eq_true_iff]
  exact Iff.rfl

/-- The queue loop as it is written, with the entries it may still take. A queue that is
never empty would use them up, which does not happen. -/
def WindowGraph.enumDescendantsLoop (graph : WindowGraph) (fuel : Nat) (parent : Hwnd)
    (maxDepth : Int) : Option (List (Hwnd × Int)) :=
  if maxDepth ≤ 0 || (graph.get parent).isNone then some []
  else
    queueLoop graph.enumChildren maxDepth fuel
      ((graph.enumChildren parent).map fun hwnd => (hwnd, 1)) 0 []

namespace WindowGraph

theorem descendantsFrom_eq_levelsFrom (levels : Nat) (depth : Int) (level : List Hwnd) :
    graph.descendantsFrom levels depth level =
      levelsFrom graph.enumChildren levels depth level := by
  induction levels generalizing depth level with
  | zero => rfl
  | succ levels ih => rw [descendantsFrom, levelsFrom, ih]

theorem enumDescendantsLoop_eq {fuel : Nat} {parent : Hwnd} {maxDepth : Int}
    (enough : (graph.enumDescendants parent maxDepth).length < fuel) :
    graph.enumDescendantsLoop fuel parent maxDepth =
      some (graph.enumDescendants parent maxDepth) := by
  unfold enumDescendantsLoop
  unfold enumDescendants at enough ⊢
  by_cases stops : (decide (maxDepth ≤ 0) || (graph.get parent).isNone) = true
  · rw [if_pos stops, if_pos stops]
  · rw [if_neg stops] at enough ⊢
    rw [if_neg stops]
    simp only [Bool.or_eq_true, decide_eq_true_eq, not_or] at stops
    obtain ⟨levels, deep⟩ : ∃ levels : Nat, maxDepth.toNat = levels + 1 :=
      Nat.exists_eq_succ_of_ne_zero (by omega)
    rw [descendantsFrom_eq_levelsFrom, deep] at enough ⊢
    exact queueLoop_levels (by omega) enough

theorem enumDescendants_sorted (graph : WindowGraph) (parent : Hwnd) (maxDepth : Int) :
    ((graph.enumDescendants parent maxDepth).map Prod.snd).Pairwise (· ≤ ·) := by
  unfold enumDescendants
  split
  · exact List.Pairwise.nil
  · rw [descendantsFrom_eq_levelsFrom]
    exact levelsFrom_sorted _ _ _ _

/-- A window that lies below another is not met above it again. -/
theorem Forest.not_below_itself (forest : graph.Forest) {depth : Nat} :
    ¬ graph.AtDepth root (depth + 1) root := by
  intro reached
  have climbs : ∀ {depth : Nat} {hwnd : Hwnd}, graph.AtDepth root (depth + 1) hwnd →
      Relation.TransGen (fun child parent => child ∈ graph.children parent) hwnd root := by
    intro depth hwnd reached
    induction depth generalizing hwnd with
    | zero =>
        obtain ⟨parent, above, listed⟩ := atDepth_succ.mp reached
        cases above
        exact Relation.TransGen.single listed
    | succ depth ih =>
        obtain ⟨parent, above, listed⟩ := atDepth_succ.mp reached
        exact Relation.TransGen.head listed (ih above)
  exact forest.acyclic root (climbs reached)

theorem Forest.depth_unique (forest : graph.Forest) {first second : Nat}
    (inFirst : graph.AtDepth root first hwnd) (inSecond : graph.AtDepth root second hwnd) :
    first = second := by
  induction first generalizing second hwnd with
  | zero =>
      cases inFirst
      cases second with
      | zero => rfl
      | succ depth => exact absurd inSecond forest.not_below_itself
  | succ depth ih =>
      cases second with
      | zero =>
          cases inSecond
          exact absurd inFirst forest.not_below_itself
      | succ other =>
          obtain ⟨parent, above, listed⟩ := atDepth_succ.mp inFirst
          obtain ⟨_, aboveOther, listedOther⟩ := atDepth_succ.mp inSecond
          obtain rfl := forest.oneParent listed listedOther
          rw [ih above aboveOther]

theorem Forest.nodup_next (forest : graph.Forest) {level : List Hwnd} (distinct : level.Nodup) :
    (level.flatMap graph.enumChildren).Nodup := by
  refine List.nodup_flatMap.mpr ⟨fun parent _ => forest.nodup parent, ?_⟩
  refine distinct.imp fun {first second} apart => ?_
  intro child inFirst inSecond
  exact apart (forest.oneParent inFirst inSecond)

theorem Forest.nodup_descendantsFrom (forest : graph.Forest) {levels depth : Nat}
    {level : List Hwnd} (distinct : level.Nodup)
    (whole : ∀ child, child ∈ level ↔ graph.AtDepth root depth child) :
    ((graph.descendantsFrom levels depth level).map Prod.fst).Nodup := by
  induction levels generalizing depth level with
  | zero => exact List.nodup_nil
  | succ levels ih =>
      have next : ∀ child, child ∈ level.flatMap graph.enumChildren ↔
          graph.AtDepth root (depth + 1) child := by
        intro child
        rw [List.mem_flatMap, atDepth_succ]
        exact exists_congr fun parent => and_congr_left fun _ => whole parent
      have deeper := ih (forest.nodup_next distinct) next
      rw [Int.natCast_succ] at deeper
      rw [descendantsFrom, List.map_append, List.nodup_append']
      refine ⟨?_, deeper, ?_⟩
      · rw [List.map_map]
        simpa [Function.comp_def] using distinct
      · intro child here below
        simp only [List.map_map, List.mem_map, Function.comp_def] at here
        obtain ⟨_, listed, rfl⟩ := here
        obtain ⟨⟨_, found⟩, member, rfl⟩ := List.mem_map.mp below
        rw [← Int.natCast_succ] at member
        obtain ⟨reached, above, _, _, inside⟩ := (mem_descendantsFrom_level next).mp member
        have same := forest.depth_unique ((whole _).mp listed) inside
        omega

theorem Forest.nodup_enumDescendants (forest : graph.Forest) (parent : Hwnd) (maxDepth : Int) :
    ((graph.enumDescendants parent maxDepth).map Prod.fst).Nodup := by
  unfold enumDescendants
  split
  · exact List.nodup_nil
  · exact forest.nodup_descendantsFrom (forest.nodup parent) mem_enumChildren

end WindowGraph

section

variable [Unicode]

/-- The search of the program for an advertisement token, over the queue it really uses. -/
def subtreeContainsAdTokenSearch (graph : WindowGraph) (rules : LayoutRules) (fuel : Nat)
    (hwnd : Hwnd) (maxDepth : Int) : Option Bool :=
  subtreeSearch graph (fun node => containsAnyAdToken rules.aggressiveAdTokensLc node.text)
    fuel hwnd maxDepth

/-- The search of the program for a class prefix. -/
def classNameStartsWithSearch (graph : WindowGraph) (fuel : Nat) (hwnd : Hwnd)
    (pattern : String) (maxDepth : Int) : Option Bool :=
  subtreeSearch graph (fun node => startsWith node.className pattern) fuel hwnd maxDepth

/-- The search of the program for an exact title. -/
def hasWindowTextSearch (graph : WindowGraph) (fuel : Nat) (hwnd : Hwnd) (target : String)
    (maxDepth : Int) : Option Bool :=
  subtreeSearch graph (fun node => node.text == target) fuel hwnd maxDepth

/-- The search of the program for a text within a title, which answers at once where the
text is empty. -/
def hasWindowTextContainsSearch (graph : WindowGraph) (fuel : Nat) (hwnd : Hwnd)
    (target : String) (maxDepth : Int) : Option Bool :=
  let needle := Unicode.toLowercase target
  if needle = "" then some false
  else
    subtreeSearch graph
      (fun node => node.text != "" && containsText (Unicode.toLowercase node.text) needle)
      fuel hwnd maxDepth

/-- What `has_window_text_contains` looks for at a window. -/
def textContains (target : String) (node : WindowNode) : Bool :=
  Unicode.toLowercase target != "" && (node.text != "" &&
    containsText (Unicode.toLowercase node.text) (Unicode.toLowercase target))

theorem hasWindowTextContainsSearch_eq {fuel : Nat} {target : String} {maxDepth : Int}
    (enough : (maxDepth + 1).toNat < fuel) :
    hasWindowTextContainsSearch graph fuel hwnd target maxDepth =
      some (hasWindowTextContains graph hwnd target maxDepth) := by
  unfold hasWindowTextContainsSearch hasWindowTextContains
  by_cases empty : Unicode.toLowercase target = ""
  · simp only [empty, if_true]
  · simp only [empty, if_false]
    exact subtreeSearch_eq_walk enough

theorem hasWindowTextContains_iff {target : String} {maxDepth : Int} :
    hasWindowTextContains graph hwnd target maxDepth = true ↔
      graph.Holds (textContains target) hwnd maxDepth := by
  unfold hasWindowTextContains
  by_cases empty : Unicode.toLowercase target = ""
  · simp only [empty, if_true, Bool.false_eq_true, false_iff]
    intro holds
    obtain ⟨_, _, _, _, _, _, passes⟩ := holds
    simp [textContains, empty] at passes
  · have same : textContains target = fun node => node.text != "" &&
        containsText (Unicode.toLowercase node.text) (Unicode.toLowercase target) := by
      funext node
      simp [textContains, empty]
    simp only [empty, if_false, same]
    exact subtreeWalk_iff

/-- A walk ends with an answer, and the answer is whether something holds. -/
structure Decides (walk : Nat → Option Bool) (answer : Bool) (holds : Prop) : Prop where
  ends : ∃ enough, ∀ fuel, enough < fuel → walk fuel = some answer
  exact : answer = true ↔ holds

omit [Unicode] in
theorem decides_walk (graph : WindowGraph) (test : WindowNode → Bool) (hwnd : Hwnd)
    (maxDepth : Int) :
    Decides (fun fuel => subtreeSearch graph test fuel hwnd maxDepth)
      (subtreeWalk graph test hwnd maxDepth) (graph.Holds test hwnd maxDepth) where
  ends := ⟨(maxDepth + 1).toNat, fun _ enough => subtreeSearch_eq_walk enough⟩
  exact := subtreeWalk_iff

/-- The walks end on every graph and find what is within the limit, and the
descendants of a node of a forest are listed once each, by depth. -/
theorem subtree_walks_exact (graph : WindowGraph) (rules : LayoutRules) (hwnd : Hwnd)
    (pattern target : String) (maxDepth : Int) :
    Decides (fun fuel => subtreeContainsAdTokenSearch graph rules fuel hwnd maxDepth)
        (subtreeContainsAdToken graph rules hwnd maxDepth)
        (graph.Holds (fun node => containsAnyAdToken rules.aggressiveAdTokensLc node.text)
          hwnd maxDepth) ∧
      Decides (fun fuel => classNameStartsWithSearch graph fuel hwnd pattern maxDepth)
        (classNameStartsWith graph hwnd pattern maxDepth)
        (graph.Holds (fun node => startsWith node.className pattern) hwnd maxDepth) ∧
      Decides (fun fuel => hasWindowTextSearch graph fuel hwnd target maxDepth)
        (hasWindowText graph hwnd target maxDepth)
        (graph.Holds (fun node => node.text == target) hwnd maxDepth) ∧
      Decides (fun fuel => hasWindowTextContainsSearch graph fuel hwnd target maxDepth)
        (hasWindowTextContains graph hwnd target maxDepth)
        (graph.Holds (textContains target) hwnd maxDepth) ∧
      (∃ enough, ∀ fuel, enough < fuel → graph.enumDescendantsLoop fuel hwnd maxDepth =
        some (graph.enumDescendants hwnd maxDepth)) ∧
      (graph.get hwnd = none → graph.enumDescendants hwnd maxDepth = []) ∧
      (graph.Forest → (graph.get hwnd).isSome = true →
        ((graph.enumDescendants hwnd maxDepth).map Prod.fst).Nodup ∧
        ((graph.enumDescendants hwnd maxDepth).map Prod.snd).Pairwise (· ≤ ·) ∧
        ∀ below found, (below, found) ∈ graph.enumDescendants hwnd maxDepth ↔
          ∃ depth : Nat, 1 ≤ depth ∧ (depth : Int) ≤ maxDepth ∧ found = depth ∧
            graph.AtDepth hwnd depth below) := by
  refine ⟨decides_walk _ _ _ _, decides_walk _ _ _ _, decides_walk _ _ _ _, ?_, ?_, ?_, ?_⟩
  · exact
      { ends := ⟨(maxDepth + 1).toNat, fun _ enough => hasWindowTextContainsSearch_eq enough⟩
        exact := hasWindowTextContains_iff }
  · exact ⟨_, fun _ enough => WindowGraph.enumDescendantsLoop_eq enough⟩
  · intro missing
    simp [WindowGraph.enumDescendants, missing]
  · intro forest present
    refine ⟨forest.nodup_enumDescendants hwnd maxDepth, graph.enumDescendants_sorted hwnd maxDepth,
      fun below found => ?_⟩
    rw [WindowGraph.mem_enumDescendants, present]
    exact and_iff_right rfl

omit [Unicode]

theorem subtree_walks_exact_hosts :
    let _ := asciiLowercase
    hostsGraph.enumDescendants 1 2 = [(2, 1), (3, 2)] ∧
      hostsGraph.Holds (fun node => startsWith node.className "AdFit") 1 2 ∧
      ¬ hostsGraph.Holds (fun node => startsWith node.className "AdFit") 1 1 ∧
      (3, (2 : Int)) ∈ hostsGraph.enumDescendants 1 2 := by
  intro _
  obtain ⟨_, ⟨_, near⟩, _⟩ := subtree_walks_exact hostsGraph .default 1 "AdFit" "" 1
  obtain ⟨_, ⟨_, far⟩, _, _, _, _, forest⟩ := subtree_walks_exact hostsGraph .default 1 "AdFit" "" 2
  obtain ⟨_, _, listed⟩ := forest hostsGraph_shaped.toForest rfl
  refine ⟨by decide, far.mp (by decide), fun found => ?_, ?_⟩
  · exact absurd (near.mpr found) (by decide)
  · refine (listed 3 2).mpr ⟨2, by omega, by omega, rfl, ?_⟩
    have child := WindowGraph.AtDepth.start.child
      (hostsGraph_listed.mpr (Or.inl ⟨rfl, rfl⟩))
    exact child.child (hostsGraph_listed.mpr (Or.inr (Or.inl ⟨rfl, rfl⟩)))

/-- Children listed under a window that is no node. -/
def orphanGraph : WindowGraph :=
  (WindowGraph.empty [100]).setChildren 1 [2]

/-- They are below it in a forest, and are not listed. -/
theorem orphanGraph_unlisted :
    orphanGraph.Forest ∧ orphanGraph.AtDepth 1 1 2 ∧
      ¬ (2, (1 : Int)) ∈ orphanGraph.enumDescendants 1 1 := by
  have listed : ∀ {parent child : Hwnd},
      child ∈ orphanGraph.children parent ↔ parent = 1 ∧ child = 2 := by
    intro parent child
    simp only [orphanGraph, WindowGraph.setChildren, WindowGraph.empty]
    split_ifs <;> simp_all
  refine ⟨WindowGraph.forest_of_increasing ?_ ?_ ?_, ?_, by decide⟩
  · intro parent
    simp only [orphanGraph, WindowGraph.setChildren, WindowGraph.empty]
    split_ifs <;> decide
  · intro first second child inFirst inSecond
    rw [(listed.mp inFirst).1, (listed.mp inSecond).1]
  · intro parent child below
    obtain ⟨rfl, rfl⟩ := listed.mp below
    decide
  · exact WindowGraph.AtDepth.start.child (listed.mpr ⟨rfl, rfl⟩)

end

end LayoutAdblock.Core
