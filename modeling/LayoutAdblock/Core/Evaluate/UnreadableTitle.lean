import LayoutAdblock.Core.Evaluate.Obscured

namespace LayoutAdblock.Core

/-! # Losing a title

One window's title becomes unreadable.  Texts are read positively in most
places, so losing one mostly loses signals; the exceptions are the places that
ask for an empty text, and the confirmation of main windows.
-/

variable [Unicode]

theorem legacySignatureKind_cases (graph : WindowGraph) (rules : LayoutRules) (root : Hwnd) :
    legacySignatureKind graph rules root = "exact" ∨
      legacySignatureKind graph rules root = "substring" ∨
      legacySignatureKind graph rules root = "" := by
  unfold legacySignatureKind
  split_ifs <;> simp

/-- A stronger decision: it matches whenever the other does, and is strong
whenever the other is. -/
def AdDecision.AtLeast (stronger weaker : AdDecision) : Prop :=
  weaker.matched = true → stronger.matched = true ∧
    (weaker.decision = .strong → stronger.decision = .strong)

omit [Unicode] in
theorem AdDecision.AtLeast.confirmedAt [Counting] {stronger weaker : AdDecision}
    (above : stronger.AtLeast weaker) {ticks streak : Int}
    (confirmed : confirmedAt weaker ticks streak = true) :
    Core.confirmedAt stronger ticks streak = true := by
  simp only [Core.confirmedAt, Bool.and_eq_true, Bool.or_eq_true, beq_iff_eq] at confirmed ⊢
  obtain ⟨matched, strong⟩ := above confirmed.1
  exact ⟨matched, confirmed.2.imp_left strong⟩

omit [Unicode] in
/-- An ad token only strengthens the aggressive decision. -/
theorem aggressiveHideDecision_token {rules : LayoutRules} {className : String}
    {childRect : Option Rect} {parentRect : Rect} {token surviving : Bool}
    (implies : surviving = true → token = true) :
    (aggressiveHideDecision rules className childRect parentRect token).AtLeast
      (aggressiveHideDecision rules className childRect parentRect surviving) := by
  unfold aggressiveHideDecision AdDecision.AtLeast
  simp only
  generalize isChromeWidgetClass rules className = chrome
  generalize rules.hideBottomBannerWithoutToken = bare
  revert implies
  cases childRect with
  | none =>
      simp only
      cases bare <;> cases chrome <;> cases token <;> cases surviving <;> decide
  | some rect =>
      simp only
      generalize isBottomBannerCandidate rules rect parentRect = banner
      cases banner <;> cases bare <;> cases chrome <;> cases token <;> cases surviving <;> decide

theorem aggressive_obscure {graph : WindowGraph} {lost : Hwnd} {errorCode : Nat}
    (child : Hwnd) (className : String) (parentRect : Rect) (rect : Option Rect) :
    (childAggressiveDecision graph .default child className parentRect rect).AtLeast
      (childAggressiveDecision (graph.obscure lost errorCode) .default child className parentRect
        rect) := by
  have shown : ∀ {other : WindowGraph}, subtreeContainsAdToken other .default child 8 = true ↔
      ShowsAdToken other WindowNode.text child := subtreeWalk_iff
  cases rect with
  | none => exact fun matched => absurd matched (by simp [childAggressiveDecision])
  | some rect =>
      apply aggressiveHideDecision_token
      intro token
      have surviving := showsAdToken_obscure.mp (shown.mp token)
      exact shown.mpr surviving.read

omit [Unicode] in
/-- An ad signal only strengthens the close decision. -/
theorem emptyEvaCloseDecision_signal {rules : LayoutRules}
    {className windowText parentText : String} {hasCustomScroll signal surviving : Bool}
    (implies : surviving = true → signal = true) :
    (emptyEvaCloseDecision rules className windowText parentText hasCustomScroll signal).AtLeast
      (emptyEvaCloseDecision rules className windowText parentText hasCustomScroll
        surviving) := by
  unfold emptyEvaCloseDecision shouldCloseEmptyEvaChild AdDecision.AtLeast
  simp only
  generalize (className == rules.evaChildClass && windowText == "" && parentText != "" &&
    !hasCustomScroll) = shape
  generalize rules.closeEmptyEvaChildRequiresAdSignal = required
  revert implies
  cases shape <;> cases required <;> cases signal <;> cases surviving <;> decide

/-- The second log acts on nothing the first leaves alone. -/
structure ActionLog.NoMoreThan (second first : ActionLog) : Prop where
  hide : ∀ hwnd ∈ second.hide, hwnd ∈ first.hide
  close : ∀ hwnd ∈ second.close, hwnd ∈ first.close
  zeroSized : ∀ hwnd, second.zeroSized hwnd → first.zeroSized hwnd

/-- The title of the window `lost` is all that keeps some window from being acted on. -/
inductive TitleShields [Counting] (graph : WindowGraph) (settings : LayoutSettings)
    (states : StateMap) (lost : Hwnd) : Prop
  /-- It is the only view of a main window with a blank title, which has a popup ad
  below it. -/
  | host {item : WindowNode} {ad : Hwnd} (top : TopWindow graph item) (other : item.hwnd ≠ lost)
      (main : IsMain graph WindowNode.text item.hwnd)
      (blind : ¬ ShowsView graph (unread lost) item.hwnd) (known : item.textKnown = true)
      (blank : trim item.text = "") (below : PopupAd graph item.hwnd ad)
  /-- It keeps an owned window of a main window from being a legacy candidate. -/
  | candidate {node : WindowNode} (top : TopWindow graph node) (same : node.hwnd = lost)
      (classed : node.className ∈ windowClasses)
      (owned : IsMain graph (unread lost) node.win32Parent)
      (due : LegacyDue graph settings states (unread lost) node)
      (stays : ¬ InPopup graph lost)
  /-- It keeps a child of a main window from being an empty child. -/
  | child {node : WindowNode} (same : node.hwnd = lost)
      (due : CloseDue graph settings states (unread lost) node)
      (stays : ¬ (InPopup graph lost ∧ node.visible = true))
  /-- It is the only view of a main window with the null handle, the parent of every
  window that has none, and a window without a parent is a candidate only when there is
  no such main window. -/
  | nullMain {node : WindowNode} (top : TopWindow graph node)
      (classed : node.className ∈ windowClasses) (root : node.win32Parent = 0)
      (main : IsMain graph WindowNode.text 0) (blind : ¬ ShowsView graph (unread lost) 0)
      (due : LegacyDue graph settings states (unread lost) node)
      (kept : node.text ≠ "" ∨ ¬ LegacyDue graph settings states WindowNode.text node)
      (stays : ¬ InPopup graph node.hwnd)

section Windows

variable {graph : WindowGraph} {settings : LayoutSettings} {states : StateMap}
  {lost hwnd : Hwnd} {errorCode : Nat} {node : WindowNode}

omit [Unicode] in
/-- A main window that is no longer one has lost its only view. -/
theorem blind_of_lost (main : IsMain graph WindowNode.text hwnd)
    (gone : ¬ IsMain graph (unread lost) hwnd) : ¬ ShowsView graph (unread lost) hwnd := by
  obtain ⟨node, top, same, classed, root, _⟩ := main
  intro shows
  exact gone ⟨node, top, same, classed, root, shows⟩

omit [Unicode] in
/-- A window under a main window that stays one brings the same streak. -/
theorem resetBefore_iff_of_main (main : IsMain graph (unread lost) node.win32Parent) :
    ResetBefore graph settings WindowNode.text node ↔
      ResetBefore graph settings (unread lost) node := by
  constructor
  · intro reset
    exact ⟨reset.aggressive, reset.sized, main, reset.mainSized, reset.listed⟩
  · intro reset
    exact ⟨reset.aggressive, reset.sized, main.read, reset.mainSized, reset.listed⟩

omit [Unicode] in
theorem main_not_inPopup (main : IsMain graph WindowNode.text hwnd) : ¬ InPopup graph hwnd := by
  intro popup
  obtain ⟨host, hostTop, _, notMain, _, _, ad, below, same | same⟩ := popup
  · exact notMain (same ▸ main)
  · obtain ⟨node, top, rfl, classed, _⟩ := main
    obtain ⟨_, other, found, isAd⟩ := below
    rw [← same, top.found] at found
    obtain rfl := Option.some.inj found
    rw [isAd] at classed
    exact absurd classed (by decide)

omit [Unicode] in
theorem shownIn_obscure (other : Hwnd) :
    shownIn (graph.obscure lost errorCode) other = shownIn graph other := by
  unfold shownIn
  rw [WindowGraph.obscure_get]
  cases graph.get other <;> simp

variable [Counting]

/-- The popup phase adds nothing unless a main window turns into a host. -/
theorem inPopup_obscure (open_ : ¬ TitleShields graph settings states lost)
    (popup : InPopup (graph.obscure lost errorCode) hwnd) : InPopup graph hwnd := by
  obtain ⟨_, topAfter, unowned, notMain, known, blank, ad, below, taken⟩ := popup
  obtain ⟨item, top, rfl⟩ := topWindow_obscure.mp topAfter
  rw [obscure_textKnown] at known
  have other : item.hwnd ≠ lost := by
    intro same
    rw [if_pos same] at known
    cases known
  rw [obscure_of_ne _ _ _ other] at unowned notMain blank below taken
  rw [if_neg other] at known
  rw [isMain_obscure] at notMain
  rw [popupAd_obscure] at below
  refine ⟨item, top, unowned, fun main => ?_, known, blank, ad, below, taken⟩
  exact open_ (.host top other main (blind_of_lost main notMain) known blank below)

theorem chromeHidden_obscure {parent child : WindowNode} {parentRect : Rect}
    (hidden : ChromeHidden (graph.obscure lost errorCode) settings .default states parent
      parentRect child) :
    ∃ parentBefore childBefore, childBefore.hwnd = child.hwnd ∧
      ChromeHidden graph settings .default states parentBefore parentRect childBefore := by
  have main := hidden.main
  have parentFound := main.parentFound
  have childFound := main.found
  rw [WindowGraph.obscure_get] at parentFound childFound
  obtain ⟨parentBefore, parentHad, rfl⟩ := Option.map_eq_some_iff.mp parentFound
  obtain ⟨childBefore, childHad, rfl⟩ := Option.map_eq_some_iff.mp childFound
  rw [obscure_hwnd] at parentHad childHad
  have confirmed := isMain_obscure.mp (confirmedMain_iff.mp main.confirmed)
  rw [obscure_hwnd] at confirmed
  have before : MainChild graph .default parentBefore parentRect childBefore :=
    { confirmed := confirmedMain_iff.mpr confirmed.read
      parentFound := parentHad
      parentRect := by simpa using main.parentRect
      listed := by simpa using main.listed
      found := childHad
      owned := by simpa using main.owned }
  refine ⟨parentBefore, childBefore, by simp, before, hidden.aggressive,
    by simpa using hidden.sized, ?_⟩
  obtain ⟨earlier, less, confirms⟩ := hidden.confirmed
  simp only [obscure_hwnd, obscure_className, obscure_rect, obscure_identity] at confirms
  refine ⟨earlier, by simpa [listings] using less, ?_⟩
  exact (aggressive_obscure _ _ _ _).confirmedAt confirms

/-- A child that is closed without the title is closed with it, unless it is the window
that lost its title. -/
theorem closeDue_read (due : CloseDue graph settings states (unread lost) node)
    (other : node.hwnd ≠ lost) : CloseDue graph settings states WindowNode.text node := by
  obtain ⟨parent, found, sized, titled⟩ := due.titled
  exact
    { due with
      blank := unread_of_ne other ▸ due.blank
      main := due.main.read
      titled := ⟨parent, found, sized, unread_of_nonempty titled ▸ titled⟩
      armed := due.armed.read }

theorem legacyHidden_obscure (open_ : ¬ TitleShields graph settings states lost)
    (hidden : LegacyHidden (graph.obscure lost errorCode) settings .default states node)
    (stays : ¬ InPopup graph node.hwnd) :
    ∃ before, before.hwnd = node.hwnd ∧ LegacyHidden graph settings .default states before := by
  obtain ⟨topAfter, classed, rule, due⟩ := legacyHidden_iff.mp hidden
  obtain ⟨before, top, rfl⟩ := topWindow_obscure.mp topAfter
  rw [obscure_hwnd] at stays
  rw [obscure_className] at classed
  rw [obscure_win32Parent, isMain_obscure, read_obscure] at rule
  rw [legacyDue_obscure] at due
  refine ⟨before, (obscure_hwnd ..).symm, legacyHidden_iff.mpr ⟨top, classed, ?_⟩⟩
  rcases rule with ⟨owned, blank⟩ | ⟨unowned, root⟩
  · by_cases same : before.hwnd = lost
    · exact absurd (TitleShields.candidate top same classed owned due (same ▸ stays)) open_
    · rw [unread_of_ne same] at blank
      exact ⟨Or.inl ⟨owned.read, blank⟩, due.read (resetBefore_iff_of_main owned)⟩
  · by_cases null : IsMain graph WindowNode.text before.win32Parent
    · -- The null handle was a main window: without it the candidate rule changes.
      by_cases kept : before.text ≠ "" ∨ ¬ LegacyDue graph settings states WindowNode.text before
      · have blind := blind_of_lost null unowned
        rw [root] at null blind
        exact absurd (TitleShields.nullMain top classed root null blind due kept stays) open_
      · rw [not_or, not_not, not_not] at kept
        exact ⟨Or.inl ⟨null, kept.1⟩, kept.2⟩
    · refine ⟨Or.inr ⟨null, root⟩, due.read ?_⟩
      constructor
      · intro reset
        exact absurd reset.main null
      · intro reset
        exact absurd reset.main unowned

/-- A window of a candidate class is hidden by the legacy rule or as a popup only. -/
theorem candidate_hide_cases (top : TopWindow graph node) (classed : node.className ∈ windowClasses)
    (member : node.hwnd ∈
      (evaluateGraphWithStates graph settings .default states).1.actions.hide) :
    LegacyHidden graph settings .default states node ∨ InPopup graph node.hwnd := by
  rcases (mem_hide_closedForm LayoutRules.default_separate).mp member with
    (⟨parent, parentRect, child, same, hidden⟩ | ⟨other, same, hidden⟩) | target
  · have found := hidden.main.found
    rw [same, top.found] at found
    obtain rfl := Option.some.inj found
    have matched : (aggressiveVisitOf graph .default false parentRect node).decision.matched =
        true := matched_of_confirmedWithin hidden.confirmed
    have chrome := aggressive_chrome matched
    rw [LayoutRules.default_separate.candidateNotChrome _ classed] at chrome
    contradiction
  · have found := (mem_collectTopLevel.mp hidden.top).1
    rw [same, top.found] at found
    obtain rfl := Option.some.inj found
    exact Or.inl hidden
  · exact Or.inr (popupTargets_iff.mp target)

/-- The actions of the evaluation without the title, and of the one with it. -/
def AddsNothing (graph : WindowGraph) (settings : LayoutSettings) (states : StateMap)
    (lost : Hwnd) (errorCode : Nat) : Prop :=
  (evaluateGraphWithStates (graph.obscure lost errorCode) settings .default
      states).1.actions.NoMoreThan
    (evaluateGraphWithStates graph settings .default states).1.actions

/-- A window that the legacy rule hides without the title is hidden by it with the title
as well, when losing the title adds nothing. -/
theorem hides_more (nothing : AddsNothing graph settings states lost errorCode)
    (top : TopWindow graph node) (classed : node.className ∈ windowClasses)
    (rule : IsMain graph (unread lost) node.win32Parent ∧ unread lost node = "" ∨
      ¬ IsMain graph (unread lost) node.win32Parent ∧ node.win32Parent = 0)
    (due : LegacyDue graph settings states (unread lost) node)
    (stays : ¬ InPopup graph node.hwnd) : LegacyHidden graph settings .default states node := by
  have hidden : LegacyHidden (graph.obscure lost errorCode) settings .default states
      (node.obscure lost errorCode) := by
    refine legacyHidden_iff.mpr ⟨topWindow_obscure.mpr ⟨node, top, rfl⟩, ?_, ?_,
      legacyDue_obscure.mpr due⟩
    · rw [obscure_className]
      exact classed
    · rw [obscure_win32Parent, isMain_obscure, read_obscure]
      exact rule
  have after : node.hwnd ∈ (evaluateGraphWithStates (graph.obscure lost errorCode) settings
      .default states).1.actions.hide :=
    (mem_hide_closedForm LayoutRules.default_separate).mpr
      (Or.inl (Or.inr ⟨_, obscure_hwnd .., hidden⟩))
  exact (candidate_hide_cases top classed (nothing.hide _ after)).resolve_right stays

/-- What a title shields is acted on without it. -/
theorem TitleShields.adds (shields : TitleShields graph settings states node.hwnd)
    (found : graph.get node.hwnd = some node) (titled : node.text ≠ "") :
    ¬ AddsNothing graph settings states node.hwnd errorCode := by
  have separate := LayoutRules.default_separate
  intro nothing
  cases shields with
  | @host item ad top other main blind known blank below =>
      have root : item.owner.getD 0 = 0 := by
        obtain ⟨same, sameTop, hwnd, _, root, _⟩ := main
        have sameFound := sameTop.found
        rw [hwnd, top.found] at sameFound
        obtain rfl := Option.some.inj sameFound
        simpa [WindowNode.win32Parent, top.parentless] using root
      have topAfter : TopWindow (graph.obscure node.hwnd errorCode) item :=
        topWindow_obscure.mpr ⟨item, top, obscure_of_ne _ _ _ other⟩
      have popup : InPopup (graph.obscure node.hwnd errorCode) item.hwnd := by
        refine ⟨item, topAfter, root, ?_, known, blank, ad, popupAd_obscure.mpr below, Or.inl rfl⟩
        intro isMain
        obtain ⟨_, _, _, _, _, shows⟩ := isMain_obscure.mp isMain
        exact blind shows
      have after : (evaluateGraphWithStates (graph.obscure node.hwnd errorCode) settings .default
          states).1.actions.zeroSized item.hwnd :=
        evaluate_zeroSized.mpr (popupTargets_iff.mpr popup)
      have before := evaluate_zeroSized.mp (nothing.zeroSized _ after)
      exact main_not_inPopup main (popupTargets_iff.mp before)
  | @candidate other top same classed owned due stays =>
      have isNode := top.found
      rw [same, found] at isNode
      obtain rfl := Option.some.inj isNode
      have blank : unread node.hwnd node = "" := if_pos rfl
      have hidden := hides_more nothing top classed (Or.inl ⟨owned, blank⟩) due stays
      obtain ⟨_, _, rule, _⟩ := legacyHidden_iff.mp hidden
      cases rule with
      | inl blank => exact titled blank.2
      | inr unowned => exact unowned.1 owned.read
  | @child other same due stays =>
      have isNode := due.found
      rw [same, found] at isNode
      obtain rfl := Option.some.inj isNode
      obtain ⟨parent, parentRect, closed⟩ := ((closeDue_obscure found).mpr due).closed
      have after : node.hwnd ∈ (evaluateGraphWithStates (graph.obscure node.hwnd errorCode)
          settings .default states).1.actions.close :=
        (mem_close_closedForm separate).mpr
          (Or.inl ⟨parent, parentRect, _, obscure_hwnd .., closed⟩)
      rcases (mem_close_closedForm separate).mp (nothing.close _ after) with
        ⟨_, _, childBefore, sameBefore, closedBefore⟩ | popup
      · have childFound := closedBefore.main.found
        rw [sameBefore, found] at childFound
        obtain rfl := Option.some.inj childFound
        exact titled closedBefore.blank
      · apply stays
        refine ⟨popupTargets_iff.mp popup.1, ?_⟩
        simpa [shownIn, found] using popup.2
  | @nullMain other top classed root main blind due kept stays =>
      have gone : ¬ IsMain graph (unread node.hwnd) 0 := by
        intro isMain
        obtain ⟨_, _, _, _, _, shows⟩ := isMain
        exact blind shows
      have hidden := hides_more nothing top classed (Or.inr ⟨root.symm ▸ gone, root⟩) due stays
      obtain ⟨_, _, rule, dueBefore⟩ := legacyHidden_iff.mp hidden
      cases rule with
      | inl blank =>
          cases kept with
          | inl text => exact text blank.2
          | inr undue => exact undue dueBefore
      | inr unowned => exact unowned.1 (root.symm ▸ main)

/-- Losing a title adds no action exactly when the title shields no window, however the
streaks are counted. -/
theorem addsNothing_iff (found : graph.get node.hwnd = some node) (titled : node.text ≠ "") :
    AddsNothing graph settings states node.hwnd errorCode ↔
      ¬ TitleShields graph settings states node.hwnd := by
  have separate := LayoutRules.default_separate
  constructor
  · intro nothing shields
    exact shields.adds found titled nothing
  · intro open_
    constructor
    · intro hwnd member
      by_cases popup : InPopup graph hwnd
      · exact (mem_hide_closedForm separate).mpr (Or.inr (popupTargets_iff.mpr popup))
      · rcases (mem_hide_closedForm separate).mp member with
          (⟨parent, parentRect, child, rfl, hidden⟩ | ⟨other, rfl, hidden⟩) | target
        · obtain ⟨parentBefore, childBefore, same, before⟩ := chromeHidden_obscure hidden
          exact (mem_hide_closedForm separate).mpr
            (Or.inl (Or.inl ⟨parentBefore, parentRect, childBefore, same, before⟩))
        · obtain ⟨before, same, hiddenBefore⟩ := legacyHidden_obscure open_ hidden popup
          exact (mem_hide_closedForm separate).mpr
            (Or.inl (Or.inr ⟨before, same, hiddenBefore⟩))
        · exact absurd (inPopup_obscure open_ (popupTargets_iff.mp target)) popup
    · intro hwnd member
      by_cases popup : InPopup graph hwnd ∧ shownIn graph hwnd = true
      · exact (mem_close_closedForm separate).mpr
          (Or.inr ⟨popupTargets_iff.mpr popup.1, popup.2⟩)
      · rcases (mem_close_closedForm separate).mp member with
          ⟨parent, parentRect, child, rfl, closed⟩ | ⟨target, shown⟩
        · have childFound := closed.main.found
          rw [WindowGraph.obscure_get] at childFound
          obtain ⟨before, had, rfl⟩ := Option.map_eq_some_iff.mp childFound
          rw [obscure_hwnd] at had popup ⊢
          have due := (closeDue_obscure had).mp closed.due
          by_cases lost : before.hwnd = node.hwnd
          · apply absurd (TitleShields.child lost due _) open_
            intro shownPopup
            apply popup
            refine ⟨lost ▸ shownPopup.1, ?_⟩
            simpa [shownIn, had] using shownPopup.2
          · obtain ⟨parentBefore, rectBefore, closedBefore⟩ := (closeDue_read due lost).closed
            exact (mem_close_closedForm separate).mpr
              (Or.inl ⟨parentBefore, rectBefore, before, rfl, closedBefore⟩)
        · rw [shownIn_obscure] at shown
          exact absurd ⟨inPopup_obscure open_ (popupTargets_iff.mp target), shown⟩ popup
    · intro hwnd zero
      have popup := inPopup_obscure open_ (popupTargets_iff.mp (evaluate_zeroSized.mp zero))
      exact evaluate_zeroSized.mpr (popupTargets_iff.mpr popup)

end Windows

/-- In the release profile, whose streaks wrap around: losing a title adds no action
exactly when the title shields no window. -/
theorem unreadable_title_adds_nothing_iff {graph : WindowGraph} {node : WindowNode}
    {title : String} (settings : LayoutSettings) (states : StateMap) (errorCode : Nat)
    (found : graph.get node.hwnd = some node) (known : node.title = .known title)
    (titled : title ≠ "") :
    let _ := Counting.i64
    (evaluateGraphWithStates (graph.obscure node.hwnd errorCode) settings .default
        states).1.actions.NoMoreThan
      (evaluateGraphWithStates graph settings .default states).1.actions ↔
      ¬ TitleShields graph settings states node.hwnd := by
  intro _
  have text : node.text ≠ "" := by
    rw [WindowNode.text, known]
    exact titled
  exact addsNothing_iff found text

/-- A titled window with a web view in it, owned by the main window. -/
def noticeNode : WindowNode where
  hwnd := 5
  pid := 100
  className := "EVA_Window_Dblclk"
  title := .known "Notice"
  structuralParent := none
  owner := some 1
  rect := some ⟨50, 50, 350, 450⟩
  visible := true

/-- A main window that owns a notice of KakaoTalk with a browser in it. While its title is
read, the notice is no candidate; unread, it is taken for the legacy advertisement. -/
def noticeGraph : WindowGraph where
  pids := [100]
  nodes :=
    [{ hwnd := 1, pid := 100, className := "EVA_Window_Dblclk", title := .known "KakaoTalk",
       structuralParent := none, owner := none, rect := some ⟨0, 0, 400, 640⟩, visible := true },
     { hwnd := 2, pid := 100, className := "EVA_ChildWindow", title := .known "OnlineMainView_1",
       structuralParent := some 1, owner := none, rect := some ⟨0, 0, 398, 609⟩, visible := true },
     noticeNode,
     { hwnd := 6, pid := 100, className := "Chrome_RenderWidgetHostHWND",
       title := .known "Chrome Legacy Window", structuralParent := some 5, owner := none,
       rect := some ⟨50, 50, 350, 450⟩, visible := true }]
  children hwnd := if hwnd = 1 then [2] else if hwnd = 5 then [6] else []
  keyed := by decide

omit [Unicode] in
/-- The notice is left alone while its title is read, and hidden when it is not. -/
theorem noticeGraph_unreadable_hidden :
    noticeGraph.get 5 = some noticeNode ∧
      (5 : Hwnd) ∉ (@evaluateGraphWithStates asciiLowercase Counting.i64 noticeGraph {} .default
        StateMap.empty).1.actions.hide ∧
      (5 : Hwnd) ∈ (@evaluateGraphWithStates asciiLowercase Counting.i64
        (noticeGraph.obscure 5 5) {} .default StateMap.empty).1.actions.hide := by
  decide

omit [Unicode] in
theorem noticeGraph_adds_nothing_iff :
    (@evaluateGraphWithStates asciiLowercase Counting.i64 (noticeGraph.obscure 5 5) {} .default
        StateMap.empty).1.actions.NoMoreThan
      (@evaluateGraphWithStates asciiLowercase Counting.i64 noticeGraph {} .default
        StateMap.empty).1.actions ↔
      ¬ @TitleShields asciiLowercase Counting.i64 noticeGraph {} StateMap.empty 5 :=
  @unreadable_title_adds_nothing_iff asciiLowercase noticeGraph noticeNode "Notice" {}
    StateMap.empty 5 (by decide) rfl (by decide)

end LayoutAdblock.Core
