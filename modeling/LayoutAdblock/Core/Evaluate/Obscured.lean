import LayoutAdblock.Core.Evaluate.Signs

namespace LayoutAdblock.Core

open Data

/-! # A graph in which one title is lost

The signs of such a graph are those of the graph as it was, read without the title.
Most signs are found in a text, so without it there are fewer of them.
-/

/-- The node as it is read when the title of `hwnd` is lost. -/
def WindowNode.obscure (hwnd : Hwnd) (errorCode : Nat) (node : WindowNode) : WindowNode :=
  if node.hwnd = hwnd then { node with title := .unknown errorCode } else node

section Nodes

variable (hwnd : Hwnd) (errorCode : Nat) (node : WindowNode)

@[simp] theorem obscure_hwnd : (node.obscure hwnd errorCode).hwnd = node.hwnd := by
  unfold WindowNode.obscure; split <;> rfl

@[simp] theorem obscure_pid : (node.obscure hwnd errorCode).pid = node.pid := by
  unfold WindowNode.obscure; split <;> rfl

@[simp] theorem obscure_className :
    (node.obscure hwnd errorCode).className = node.className := by
  unfold WindowNode.obscure; split <;> rfl

@[simp] theorem obscure_rect : (node.obscure hwnd errorCode).rect = node.rect := by
  unfold WindowNode.obscure; split <;> rfl

@[simp] theorem obscure_visible : (node.obscure hwnd errorCode).visible = node.visible := by
  unfold WindowNode.obscure; split <;> rfl

@[simp] theorem obscure_structuralParent :
    (node.obscure hwnd errorCode).structuralParent = node.structuralParent := by
  unfold WindowNode.obscure; split <;> rfl

@[simp] theorem obscure_win32Parent :
    (node.obscure hwnd errorCode).win32Parent = node.win32Parent := by
  unfold WindowNode.obscure; split <;> rfl

@[simp] theorem obscure_identity :
    (node.obscure hwnd errorCode).identity = node.identity := by
  simp [WindowNode.identity]

theorem obscure_of_ne (different : node.hwnd ≠ hwnd) : node.obscure hwnd errorCode = node := by
  simp [WindowNode.obscure, different]

theorem obscure_text :
    (node.obscure hwnd errorCode).text = if node.hwnd = hwnd then "" else node.text := by
  unfold WindowNode.obscure; split <;> rfl

theorem obscure_textKnown :
    (node.obscure hwnd errorCode).textKnown =
      if node.hwnd = hwnd then false else node.textKnown := by
  unfold WindowNode.obscure; split <;> rfl

end Nodes

namespace WindowGraph

/-- The graph in which the title of `hwnd` is unreadable. -/
def obscure (graph : WindowGraph) (hwnd : Hwnd) (errorCode : Nat) : WindowGraph where
  pids := graph.pids
  nodes := graph.nodes.map (WindowNode.obscure hwnd errorCode)
  children := graph.children
  keyed := by
    have same : (graph.nodes.map (WindowNode.obscure hwnd errorCode)).map WindowNode.hwnd =
        graph.nodes.map WindowNode.hwnd := by
      simp [Function.comp_def]
    exact same ▸ graph.keyed

variable {graph : WindowGraph} {hwnd : Hwnd} {errorCode : Nat}

@[simp] theorem obscure_children : (graph.obscure hwnd errorCode).children = graph.children := rfl

@[simp] theorem obscure_pids : (graph.obscure hwnd errorCode).pids = graph.pids := rfl

theorem obscure_get (other : Hwnd) :
    (graph.obscure hwnd errorCode).get other =
      (graph.get other).map (WindowNode.obscure hwnd errorCode) := by
  have sameKey : (fun node : WindowNode => decide (node.hwnd = other)) ∘
      WindowNode.obscure hwnd errorCode = fun node => decide (node.hwnd = other) := by
    funext node
    rw [Function.comp_apply, obscure_hwnd]
  unfold get obscure
  rw [List.find?_map, sameKey]

end WindowGraph

theorem mem_collectTopLevel_obscure {graph : WindowGraph} {hwnd : Hwnd} {errorCode : Nat}
    {node : WindowNode} :
    node ∈ collectTopLevel (graph.obscure hwnd errorCode) ↔
      ∃ original ∈ collectTopLevel graph, original.obscure hwnd errorCode = node := by
  constructor
  · intro top
    obtain ⟨found, root, listed⟩ := mem_collectTopLevel.mp top
    rw [WindowGraph.obscure_get] at found
    obtain ⟨original, originalFound, rfl⟩ := Option.map_eq_some_iff.mp found
    rw [obscure_hwnd] at originalFound
    exact ⟨original, mem_collectTopLevel.mpr ⟨originalFound, by simpa using root,
      by simpa using listed⟩, rfl⟩
  · rintro ⟨original, top, rfl⟩
    obtain ⟨found, root, listed⟩ := mem_collectTopLevel.mp top
    refine mem_collectTopLevel.mpr ⟨?_, by simpa using root, by simpa using listed⟩
    simp [WindowGraph.obscure_get, found]

section Signs

variable {graph : WindowGraph} {settings : LayoutSettings} {states : StateMap} {lost : Hwnd}
  {errorCode : Nat} {node : WindowNode} {hwnd : Hwnd}

theorem read_obscure : (node.obscure lost errorCode).text = unread lost node :=
  obscure_text lost errorCode node

/-- What is read of a text that is not empty is the text. -/
theorem unread_of_nonempty (nonempty : unread lost node ≠ "") : unread lost node = node.text := by
  unfold unread at nonempty ⊢
  split at nonempty
  · exact absurd rfl nonempty
  · rename_i other
    rw [if_neg other]

theorem unread_of_ne (other : node.hwnd ≠ lost) : unread lost node = node.text := by
  rw [unread, if_neg other]

theorem nodePath_obscure {edges : Nat} {root target : Hwnd} :
    NodePath (graph.obscure lost errorCode).get graph.children edges root target ↔
      NodePath graph.get graph.children edges root target := by
  have present : ∀ hwnd, ((graph.obscure lost errorCode).get hwnd).isSome =
      (graph.get hwnd).isSome := by
    intro hwnd
    rw [WindowGraph.obscure_get, Option.isSome_map]
  constructor
  · intro path
    induction path with
    | here found => exact NodePath.here (present _ ▸ found)
    | step found listed _ ih => exact NodePath.step (present _ ▸ found) listed ih
  · intro path
    induction path with
    | here found => exact NodePath.here ((present _).symm ▸ found)
    | step found listed _ ih => exact NodePath.step ((present _).symm ▸ found) listed ih

/-- A search in the obscured graph is a search that does not read the title. -/
theorem holds_obscure {test : WindowNode → Bool} {maxDepth : Int} :
    (graph.obscure lost errorCode).Holds test hwnd maxDepth ↔
      graph.Holds (fun node => test (node.obscure lost errorCode)) hwnd maxDepth := by
  unfold WindowGraph.Holds Found
  refine exists_congr fun edges => exists_congr fun target => ?_
  simp only [WindowGraph.obscure_children, nodePath_obscure, WindowGraph.obscure_get,
    Option.map_eq_some_iff]
  constructor
  · intro search
    obtain ⟨_, near, path, ⟨node, found, rfl⟩, passes⟩ := search
    exact ⟨node, near, path, found, passes⟩
  · intro search
    obtain ⟨node, near, path, found, passes⟩ := search
    exact ⟨_, near, path, ⟨node, found, rfl⟩, passes⟩

theorem holds_mono {test weaker : WindowNode → Bool} {maxDepth : Int}
    (implies : ∀ node, test node = true → weaker node = true)
    (holds : graph.Holds test hwnd maxDepth) : graph.Holds weaker hwnd maxDepth := by
  obtain ⟨edges, target, node, near, path, found, passes⟩ := holds
  exact ⟨edges, target, node, near, path, found, implies node passes⟩

theorem topWindow_obscure :
    TopWindow (graph.obscure lost errorCode) node ↔
      ∃ original, TopWindow graph original ∧ original.obscure lost errorCode = node := by
  simp only [← mem_top_iff, mem_collectTopLevel_obscure]

theorem showsView_obscure :
    ShowsView (graph.obscure lost errorCode) WindowNode.text hwnd ↔
      ShowsView graph (unread lost) hwnd := by
  simp only [ShowsView, WindowGraph.obscure_children, WindowGraph.obscure_get,
    Option.map_eq_some_iff]
  refine exists_congr fun child => and_congr_right fun _ => ?_
  constructor
  · intro view
    obtain ⟨_, ⟨node, found, rfl⟩, classed, shows⟩ := view
    exact ⟨node, found, by simpa using classed, by simpa only [read_obscure] using shows⟩
  · intro view
    obtain ⟨node, found, classed, shows⟩ := view
    exact ⟨_, ⟨node, found, rfl⟩, by simpa using classed, by simpa only [read_obscure] using shows⟩

theorem isMain_obscure :
    IsMain (graph.obscure lost errorCode) WindowNode.text hwnd ↔
      IsMain graph (unread lost) hwnd := by
  simp only [IsMain, topWindow_obscure, showsView_obscure]
  constructor
  · intro main
    obtain ⟨_, ⟨node, top, rfl⟩, same, classed, root, shows⟩ := main
    exact ⟨node, top, by simpa using same, by simpa using classed, by simpa using root, shows⟩
  · intro main
    obtain ⟨node, top, same, classed, root, shows⟩ := main
    exact ⟨_, ⟨node, top, rfl⟩, by simpa using same, by simpa using classed,
      by simpa using root, shows⟩

theorem titled_obscure :
    Titled (graph.obscure lost errorCode) WindowNode.text hwnd ↔
      Titled graph (unread lost) hwnd := by
  simp only [Titled, WindowGraph.obscure_get]
  cases graph.get hwnd with
  | none => simp
  | some node => simp [read_obscure]

theorem showsLegacy_obscure :
    ShowsLegacy (graph.obscure lost errorCode) WindowNode.text hwnd ↔
      ShowsLegacy graph (unread lost) hwnd := by
  simp only [ShowsLegacy, holds_obscure, read_obscure]

/-- A main window without the title is one with it. -/
theorem IsMain.read (main : IsMain graph (unread lost) hwnd) :
    IsMain graph WindowNode.text hwnd := by
  obtain ⟨node, top, same, classed, root, child, listed, view, found, viewClass, shows⟩ := main
  refine ⟨node, top, same, classed, root, child, listed, view, found, viewClass, ?_⟩
  have nonempty : unread lost view ≠ "" := by
    cases shows with
    | inl main => exact startsWith_ne_empty main (by decide)
    | inr lock => exact startsWith_ne_empty lock (by decide)
  rwa [unread_of_nonempty nonempty] at shows

theorem ShowsLegacy.read (shows : ShowsLegacy graph (unread lost) hwnd) :
    ShowsLegacy graph WindowNode.text hwnd := by
  refine holds_mono (fun node same => ?_) shows
  have nonempty : unread lost node ≠ "" := by
    intro blank
    simp [blank] at same
  rwa [unread_of_nonempty nonempty] at same

theorem resetBefore_obscure :
    ResetBefore (graph.obscure lost errorCode) settings WindowNode.text
        (node.obscure lost errorCode) ↔
      ResetBefore graph settings (unread lost) node := by
  have sized : (∃ main, (graph.obscure lost errorCode).get node.win32Parent = some main ∧
      main.rect.isSome = true) ↔
      ∃ main, graph.get node.win32Parent = some main ∧ main.rect.isSome = true := by
    rw [WindowGraph.obscure_get]
    cases graph.get node.win32Parent <;> simp
  constructor
  · intro reset
    have mainSized := reset.mainSized
    have main := reset.main
    rw [obscure_win32Parent] at mainSized main
    exact ⟨reset.aggressive, by simpa using reset.sized, isMain_obscure.mp main,
      sized.mp mainSized, by simpa using reset.listed⟩
  · intro reset
    constructor
    · exact reset.aggressive
    · rw [obscure_rect]
      exact reset.sized
    · rw [obscure_win32Parent]
      exact isMain_obscure.mpr reset.main
    · rw [obscure_win32Parent]
      exact sized.mpr reset.mainSized
    · rw [obscure_win32Parent, obscure_hwnd]
      exact reset.listed

theorem brings_obscure {streak : Int} :
    Brings (graph.obscure lost errorCode) settings states WindowNode.text
        (node.obscure lost errorCode) streak ↔
      Brings graph settings states (unread lost) node streak := by
  constructor
  · intro brings
    refine ⟨fun reset => brings.reset (resetBefore_obscure.mpr reset), fun kept => ?_⟩
    have same := brings.kept fun reset => kept (resetBefore_obscure.mp reset)
    rwa [obscure_identity] at same
  · intro brings
    refine ⟨fun reset => brings.reset (resetBefore_obscure.mp reset), fun kept => ?_⟩
    rw [obscure_identity]
    exact brings.kept fun reset => kept (resetBefore_obscure.mpr reset)

theorem unscrolled_obscure {pattern : String} :
    (graph.obscure lost errorCode).Holds (fun node => startsWith node.className pattern) hwnd 8 ↔
      graph.Holds (fun node => startsWith node.className pattern) hwnd 8 := by
  simp only [holds_obscure, obscure_className]

theorem atDepth_obscure {depth : Nat} {root : Hwnd} :
    (graph.obscure lost errorCode).AtDepth root depth hwnd ↔ graph.AtDepth root depth hwnd := by
  induction depth generalizing hwnd with
  | zero =>
      constructor
      · intro reached
        cases reached
        exact WindowGraph.AtDepth.start
      · intro reached
        cases reached
        exact WindowGraph.AtDepth.start
  | succ depth ih =>
      simp only [WindowGraph.atDepth_succ, ih, WindowGraph.obscure_children]

theorem popupAd_obscure {host ad : Hwnd} :
    PopupAd (graph.obscure lost errorCode) host ad ↔ PopupAd graph host ad := by
  simp only [PopupAd, atDepth_obscure, WindowGraph.obscure_get, Option.map_eq_some_iff]
  refine and_congr_right fun _ => ?_
  constructor
  · intro ad
    obtain ⟨_, ⟨node, found, rfl⟩, classed⟩ := ad
    exact ⟨node, found, by simpa using classed⟩
  · intro ad
    obtain ⟨node, found, classed⟩ := ad
    exact ⟨_, ⟨node, found, rfl⟩, by simpa using classed⟩

section Texts

variable [Unicode]

theorem mentionsLegacy_obscure :
    MentionsLegacy (graph.obscure lost errorCode) WindowNode.text hwnd ↔
      MentionsLegacy graph (unread lost) hwnd := by
  simp only [MentionsLegacy, holds_obscure, read_obscure]

theorem MentionsLegacy.read (mentioned : MentionsLegacy graph (unread lost) hwnd) :
    MentionsLegacy graph WindowNode.text hwnd := by
  refine holds_mono (fun node found => ?_) mentioned
  have nonempty : unread lost node ≠ "" := by
    intro blank
    simp [mentions, blank] at found
  rwa [unread_of_nonempty nonempty] at found

theorem showsAdToken_obscure :
    ShowsAdToken (graph.obscure lost errorCode) WindowNode.text hwnd ↔
      ShowsAdToken graph (unread lost) hwnd := by
  simp only [ShowsAdToken, holds_obscure, read_obscure]

theorem ShowsAdToken.read (shows : ShowsAdToken graph (unread lost) hwnd) :
    ShowsAdToken graph WindowNode.text hwnd := by
  refine holds_mono (fun node token => ?_) shows
  have nonempty : unread lost node ≠ "" := by
    intro blank
    simp [blank, containsAnyAdToken_empty] at token
  rwa [unread_of_nonempty nonempty] at token

theorem arms_obscure :
    Arms (graph.obscure lost errorCode) settings WindowNode.text (node.obscure lost errorCode) ↔
      Arms graph settings (unread lost) node := by
  simp only [Arms, obscure_hwnd, obscure_rect, obscure_className, showsLegacy_obscure,
    mentionsLegacy_obscure, showsAdToken_obscure]

theorem Arms.read (arms : Arms graph settings (unread lost) node) :
    Arms graph settings WindowNode.text node := by
  rcases arms with shows | mentioned | ⟨aggressive, sized, classed, token⟩
  · exact Or.inl shows.read
  · exact Or.inr (Or.inl mentioned.read)
  · exact Or.inr (Or.inr ⟨aggressive, sized, classed, token.read⟩)

theorem armed_obscure :
    Armed (graph.obscure lost errorCode) settings WindowNode.text hwnd ↔
      Armed graph settings (unread lost) hwnd := by
  refine exists_congr fun sibling => and_congr_right fun _ => ?_
  rw [WindowGraph.obscure_get]
  cases graph.get sibling with
  | none => simp
  | some node => simp [arms_obscure]

theorem Armed.read (armed : Armed graph settings (unread lost) hwnd) :
    Armed graph settings WindowNode.text hwnd := by
  obtain ⟨sibling, listed, node, found, owned, arms⟩ := armed
  exact ⟨sibling, listed, node, found, owned, arms.read⟩

variable [Counting]

theorem legacyDue_obscure :
    LegacyDue (graph.obscure lost errorCode) settings states WindowNode.text
        (node.obscure lost errorCode) ↔
      LegacyDue graph settings states (unread lost) node := by
  simp only [LegacyDue, obscure_hwnd, showsLegacy_obscure, mentionsLegacy_obscure, brings_obscure]

/-- A window that is due without the title is due with it, if it brings the same streak. -/
theorem LegacyDue.read (due : LegacyDue graph settings states (unread lost) node)
    (same : ResetBefore graph settings WindowNode.text node ↔
      ResetBefore graph settings (unread lost) node) :
    LegacyDue graph settings states WindowNode.text node := by
  rcases due with shows | ⟨mentioned, streak, brings, ripe⟩
  · exact Or.inl shows.read
  · refine Or.inr ⟨mentioned.read, streak, ⟨?_, ?_⟩, ripe⟩
    · intro reset
      exact brings.reset (same.mp reset)
    · intro kept
      exact brings.kept fun reset => kept (same.mpr reset)

theorem closeDue_obscure (found : graph.get node.hwnd = some node) :
    CloseDue (graph.obscure lost errorCode) settings states WindowNode.text
        (node.obscure lost errorCode) ↔
      CloseDue graph settings states (unread lost) node := by
  constructor
  · intro due
    have main := due.main
    have titled := due.titled
    have armed := due.armed
    have ripe := due.ripe
    have unscrolled := due.unscrolled
    rw [obscure_win32Parent] at main titled armed ripe
    rw [obscure_hwnd] at ripe unscrolled
    rw [obscure_identity] at ripe
    exact
      { found := found
        classed := by simpa using due.classed
        blank := read_obscure ▸ due.blank
        main := isMain_obscure.mp main
        titled := titled_obscure.mp titled
        unscrolled := fun holds => unscrolled (unscrolled_obscure.mpr holds)
        armed := armed_obscure.mp armed
        ripe := ripe }
  · intro due
    have stays : (graph.obscure lost errorCode).get node.hwnd =
        some (node.obscure lost errorCode) := by
      rw [WindowGraph.obscure_get, found, Option.map_some]
    constructor
    · rw [obscure_hwnd]
      exact stays
    · rw [obscure_className]
      exact due.classed
    · exact read_obscure.trans due.blank
    · rw [obscure_win32Parent]
      exact isMain_obscure.mpr due.main
    · rw [obscure_win32Parent]
      exact titled_obscure.mpr due.titled
    · rw [obscure_hwnd, unscrolled_obscure]
      exact due.unscrolled
    · rw [obscure_win32Parent]
      exact armed_obscure.mpr due.armed
    · rw [obscure_win32Parent, obscure_hwnd, obscure_identity]
      exact due.ripe

end Texts

end Signs

end LayoutAdblock.Core
