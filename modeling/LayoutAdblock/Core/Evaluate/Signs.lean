import LayoutAdblock.Core.Evaluate.ClosedForm
import LayoutAdblock.Core.Evaluate.Subtrees

namespace LayoutAdblock.Core

/-! # The signs of main windows and ads

The default rules go by class names and by texts.  What they look for is said here in
terms of the windows alone, and how a title is read is a parameter: a reading may know
less than the graph does.
-/

/-- The text a window is taken to have, from everything known of the window. -/
abbrev Reading := WindowNode → String

/-- The title of one window cannot be read, and all others are read as they are. -/
def unread (lost : Hwnd) : Reading := fun node => if node.hwnd = lost then "" else node.text

/-- A window of one of the processes that has no structural parent, though it may well
have an owner. -/
structure TopWindow (graph : WindowGraph) (node : WindowNode) : Prop where
  found : graph.get node.hwnd = some node
  parentless : node.structuralParent = none
  known : node.pid ∈ graph.pids

def windowClasses : List String := ["EVA_Window_Dblclk", "EVA_Window"]

/-- One of the listed children has the class and the text of the main view or of the
lock view. -/
def ShowsView (graph : WindowGraph) (read : Reading) (hwnd : Hwnd) : Prop :=
  ∃ child ∈ graph.children hwnd, ∃ node, graph.get child = some node ∧
    node.className = "EVA_ChildWindow" ∧
    (startsWith (read node) "OnlineMainView" = true ∨
      startsWith (read node) "LockModeView" = true)

/-- A top window of a KakaoTalk class that has neither parent nor owner and shows a
view. -/
def IsMain (graph : WindowGraph) (read : Reading) (hwnd : Hwnd) : Prop :=
  ∃ node, TopWindow graph node ∧ node.hwnd = hwnd ∧ node.className ∈ windowClasses ∧
    node.win32Parent = 0 ∧ ShowsView graph read hwnd

def Titled (graph : WindowGraph) (read : Reading) (hwnd : Hwnd) : Prop :=
  ∃ node, graph.get hwnd = some node ∧ node.rect.isSome = true ∧ read node ≠ ""

/-- The popup ads of a host: at most two levels below it, and of the ad class. -/
def PopupAd (graph : WindowGraph) (host ad : Hwnd) : Prop :=
  (graph.AtDepth host 1 ad ∨ graph.AtDepth host 2 ad) ∧
    ∃ node, graph.get ad = some node ∧ node.className = "AdFitWebView"

/-- A top window without an owner whose title is known to be blank, with a popup ad
below it, though it is no main window; or such an ad. -/
def InPopup (graph : WindowGraph) (hwnd : Hwnd) : Prop :=
  ∃ host, TopWindow graph host ∧ host.owner.getD 0 = 0 ∧
    ¬ IsMain graph WindowNode.text host.hwnd ∧ host.textKnown = true ∧ trim host.text = "" ∧
    ∃ ad, PopupAd graph host.hwnd ad ∧ (hwnd = host.hwnd ∨ hwnd = ad)

/-- A window at most eight levels down has the legacy title, the window itself included. -/
def ShowsLegacy (graph : WindowGraph) (read : Reading) (hwnd : Hwnd) : Prop :=
  graph.Holds (fun node => read node == "Chrome Legacy Window") hwnd 8

section Signs

variable [Unicode]

/-- A text contains another one when the case of both is ignored. An empty text is contained
nowhere. -/
def mentions (needle text : String) : Bool :=
  Unicode.toLowercase needle != "" && (text != "" &&
    containsText (Unicode.toLowercase text) (Unicode.toLowercase needle))

/-- A window at most eight levels down has the legacy title as a part of its own. -/
def MentionsLegacy (graph : WindowGraph) (read : Reading) (hwnd : Hwnd) : Prop :=
  graph.Holds (fun node => mentions "Chrome Legacy Window" (read node)) hwnd 8

/-- A window at most eight levels down has one of the ad words in its title. -/
def ShowsAdToken (graph : WindowGraph) (read : Reading) (hwnd : Hwnd) : Prop :=
  graph.Holds (fun node =>
    containsAnyAdToken LayoutRules.default.aggressiveAdTokensLc (read node)) hwnd 8

/-- What arms the closing of empty children: a window with a legacy title below it, or a
chrome widget with an ad word below it while the aggressive mode is on. -/
def Arms (graph : WindowGraph) (settings : LayoutSettings) (read : Reading)
    (node : WindowNode) : Prop :=
  ShowsLegacy graph read node.hwnd ∨ MentionsLegacy graph read node.hwnd ∨
    settings.aggressiveMode = true ∧ node.rect.isSome = true ∧
      startsWith node.className "Chrome_WidgetWin_" = true ∧ ShowsAdToken graph read node.hwnd

/-- One of the windows that a main window lists and owns arms the closing of its empty
children. -/
def Armed (graph : WindowGraph) (settings : LayoutSettings) (read : Reading) (hwnd : Hwnd) :
    Prop :=
  ∃ sibling ∈ graph.children hwnd, ∃ node, graph.get sibling = some node ∧
    node.win32Parent = hwnd ∧ Arms graph settings read node

end Signs

/-- The aggressive mode has already looked at the window as at a child of a main window
and has taken its streak away. -/
structure ResetBefore (graph : WindowGraph) (settings : LayoutSettings) (read : Reading)
    (node : WindowNode) : Prop where
  aggressive : settings.aggressiveMode = true
  sized : node.rect.isSome = true
  main : IsMain graph read node.win32Parent
  mainSized : ∃ main, graph.get node.win32Parent = some main ∧ main.rect.isSome = true
  listed : node.hwnd ∈ graph.children node.win32Parent

/-- The streak a legacy candidate brings to its turn: none when the phase of the main
windows has reset it in this evaluation, and otherwise the stored one. -/
structure Brings (graph : WindowGraph) (settings : LayoutSettings) (states : StateMap)
    (read : Reading) (node : WindowNode) (streak : Int) : Prop where
  reset : ResetBefore graph settings read node → streak = 0
  kept : ¬ ResetBefore graph settings read node → streak = states.streak node.identity

section Counted

variable [Unicode] [Counting]

/-- What makes a weak match count: the streak it steps to is at least two. Where the counter
wraps, the step from its largest value is not. -/
def Ripe (streak : Int) : Prop := 2 ≤ Counting.next streak

/-- The legacy rule hides a candidate: the title is below it, or a part of the title is
and the window comes with a streak that is ripe. -/
def LegacyDue (graph : WindowGraph) (settings : LayoutSettings) (states : StateMap)
    (read : Reading) (node : WindowNode) : Prop :=
  ShowsLegacy graph read node.hwnd ∨
    MentionsLegacy graph read node.hwnd ∧
      ∃ streak, Brings graph settings states read node streak ∧ Ripe streak

/-- The empty child of a titled main window is asked to close: it has no custom scroll
bar below it, the main window is armed, and one of the listings of the child finds a ripe
streak. -/
structure CloseDue (graph : WindowGraph) (settings : LayoutSettings) (states : StateMap)
    (read : Reading) (child : WindowNode) : Prop where
  found : graph.get child.hwnd = some child
  classed : child.className = "EVA_ChildWindow"
  blank : read child = ""
  main : IsMain graph read child.win32Parent
  titled : Titled graph read child.win32Parent
  unscrolled : ¬ graph.Holds (fun node => startsWith node.className "_EVA_") child.hwnd 8
  armed : Armed graph settings read child.win32Parent
  ripe : ∃ earlier < (graph.children child.win32Parent).count child.hwnd,
    Ripe (Counting.next^[earlier] (states.streak child.identity))

end Counted

section Links

variable {graph : WindowGraph} {settings : LayoutSettings} {states : StateMap}
  {node child : WindowNode} {hwnd : Hwnd}

theorem mem_top_iff : node ∈ collectTopLevel graph ↔ TopWindow graph node := by
  rw [mem_collectTopLevel]
  constructor
  · intro top
    exact ⟨top.1, top.2.1, top.2.2⟩
  · intro top
    exact ⟨top.found, top.parentless, top.known⟩

theorem hasMainViewSignature_iff :
    hasMainViewSignature graph .default hwnd = true ↔
      ShowsView graph WindowNode.text hwnd := by
  have view : ∀ node : WindowNode, isViewChild .default node = true ↔
      node.className = "EVA_ChildWindow" ∧
        (startsWith node.text "OnlineMainView" = true ∨
          startsWith node.text "LockModeView" = true) := by
    intro node
    simp only [isViewChild, LayoutRules.default, Bool.and_eq_true, beq_iff_eq, Bool.or_eq_true]
  simp only [hasMainViewSignature, List.any_eq_true, WindowGraph.enumChildren,
    Option.any_eq_true, view]
  rfl

theorem confirmedMain_iff :
    hwnd ∈ confirmedMain graph .default ↔ IsMain graph WindowNode.text hwnd := by
  have structural : ∀ node : WindowNode,
      structuralMainWindowCandidate .default node.className node.win32Parent = true ↔
        node.className ∈ windowClasses ∧ node.win32Parent = 0 := by
    intro node
    simp only [structuralMainWindowCandidate, Bool.and_eq_true, List.contains_iff_mem,
      beq_iff_eq]
    rfl
  rw [mem_confirmedMain]
  refine exists_congr fun node => ?_
  rw [mem_top_iff, structural, hasMainViewSignature_iff, and_assoc]

theorem popupAd_iff {host ad : Hwnd} :
    AdBelow graph .default host ad ↔ PopupAd graph host ad := by
  have classed : ∀ node : WindowNode,
      node.className ∈ LayoutRules.default.popupAdClasses ↔ node.className = "AdFitWebView" :=
    fun node => List.mem_singleton
  simp only [AdBelow, PopupAd, classed]
  refine and_congr_left fun _ => ?_
  constructor
  · intro below
    obtain ⟨depth, least, most, reached⟩ := below
    have near : (depth : Int) ≤ 2 := most
    obtain rfl | rfl : depth = 1 ∨ depth = 2 := by omega
    · exact Or.inl reached
    · exact Or.inr reached
  · intro below
    cases below with
    | inl child => exact ⟨1, le_rfl, by decide, child⟩
    | inr deeper => exact ⟨2, by decide, le_rfl, deeper⟩

theorem resetsFirst_iff :
    resetsFirst graph settings .default node = true ↔
      ResetBefore graph settings WindowNode.text node := by
  simp only [resetsFirst, Bool.and_eq_true, List.contains_iff_mem, confirmedMain_iff]
  have sized : ((graph.get node.win32Parent).bind WindowNode.rect).isSome = true ↔
      ∃ main, graph.get node.win32Parent = some main ∧ main.rect.isSome = true := by
    cases graph.get node.win32Parent <;> simp
  rw [sized]
  constructor
  · intro resets
    obtain ⟨⟨⟨⟨aggressive, own⟩, main⟩, mainSized⟩, listed⟩ := resets
    exact ⟨aggressive, own, main, mainSized, listed⟩
  · intro reset
    exact ⟨⟨⟨⟨reset.aggressive, reset.sized⟩, reset.main⟩, reset.mainSized⟩, reset.listed⟩

theorem brings_iff {streak : Int} :
    Brings graph settings states WindowNode.text node streak ↔
      streak = legacyStreak graph settings .default states node := by
  unfold legacyStreak
  by_cases resets : resetsFirst graph settings .default node = true
  · have reset := resetsFirst_iff.mp resets
    rw [if_pos resets]
    constructor
    · intro brings
      exact brings.reset reset
    · intro zero
      exact ⟨fun _ => zero, fun kept => absurd reset kept⟩
  · have kept := fun reset => resets (resetsFirst_iff.mpr reset)
    rw [if_neg resets]
    constructor
    · intro brings
      exact brings.kept kept
    · intro same
      exact ⟨fun reset => absurd reset kept, fun _ => same⟩

variable [Unicode]

/-- The default guard allows the hosts whose title is known to be blank. -/
theorem default_guard_allow {text : String} {textKnown : Bool} :
    popupHostGuardStatus .default text textKnown = .allow ↔ textKnown = true ∧ trim text = "" := by
  unfold popupHostGuardStatus popupHostTextMatches
  cases textKnown with
  | false => simp
  | true => by_cases blank : trim text = "" <;> simp [blank, LayoutRules.default]

theorem popupTargets_iff : hwnd ∈ popupTargets graph .default ↔ InPopup graph hwnd := by
  rw [mem_popupTargets_iff]
  refine exists_congr fun host => ?_
  rw [default_guard_allow]
  constructor
  · intro dismissed
    obtain ⟨isHost, known, ⟨textKnown, blank⟩, ad, below, taken⟩ := dismissed
    exact ⟨⟨isHost.found, isHost.parentless, known⟩, isHost.unowned,
      fun main => isHost.notMain (confirmedMain_iff.mpr main), textKnown, blank, ad,
      popupAd_iff.mp below, taken⟩
  · intro popup
    obtain ⟨top, unowned, notMain, textKnown, blank, ad, below, taken⟩ := popup
    exact ⟨⟨top.found, top.parentless, unowned,
      fun main => notMain (confirmedMain_iff.mp main)⟩, top.known, ⟨textKnown, blank⟩, ad,
      popupAd_iff.mpr below, taken⟩

theorem legacySignatureKind_exact :
    legacySignatureKind graph .default hwnd = "exact" ↔
      ShowsLegacy graph WindowNode.text hwnd := by
  have exactly : hasWindowText graph hwnd LayoutRules.default.chromeLegacyTitle 8 = true ↔
      ShowsLegacy graph WindowNode.text hwnd := subtreeWalk_iff
  rw [← exactly]
  unfold legacySignatureKind
  split
  · simp [*]
  · split <;> simp [*]

theorem legacySignatureKind_substring :
    legacySignatureKind graph .default hwnd = "substring" ↔
      ¬ ShowsLegacy graph WindowNode.text hwnd ∧ MentionsLegacy graph WindowNode.text hwnd := by
  have exactly : hasWindowText graph hwnd LayoutRules.default.chromeLegacyTitle 8 = true ↔
      ShowsLegacy graph WindowNode.text hwnd := subtreeWalk_iff
  have contains : (LayoutRules.default.chromeLegacyTitleContains.any fun token =>
      token != "" && hasWindowTextContains graph hwnd token 8) = true ↔
      MentionsLegacy graph WindowNode.text hwnd := by
    have one : (LayoutRules.default.chromeLegacyTitleContains.any fun token =>
        token != "" && hasWindowTextContains graph hwnd token 8) =
        hasWindowTextContains graph hwnd "Chrome Legacy Window" 8 := by
      simp [LayoutRules.default]
    rw [one]
    exact hasWindowTextContains_iff
  rw [← exactly, ← contains]
  unfold legacySignatureKind
  split
  · simp [*]
  · split <;> simp [*]

theorem legacySignatureKind_signed :
    legacySignatureKind graph .default hwnd ≠ "" ↔
      ShowsLegacy graph WindowNode.text hwnd ∨ MentionsLegacy graph WindowNode.text hwnd := by
  have exactly := @legacySignatureKind_exact graph hwnd
  have substring := @legacySignatureKind_substring graph hwnd
  by_cases shows : ShowsLegacy graph WindowNode.text hwnd
  · simp [exactly.mpr shows, shows]
  · by_cases part : MentionsLegacy graph WindowNode.text hwnd
    · simp [substring.mpr ⟨shows, part⟩, part]
    · have kinds : legacySignatureKind graph .default hwnd = "exact" ∨
          legacySignatureKind graph .default hwnd = "substring" ∨
          legacySignatureKind graph .default hwnd = "" := by
        unfold legacySignatureKind
        split_ifs <;> simp
      rcases kinds with kind | kind | kind
      · exact absurd (exactly.mp kind) shows
      · exact absurd (substring.mp kind).2 part
      · simp [kind, shows, part]

/-- Under the default rules only chrome widgets with an ad word match. -/
theorem childAggressive_iff {parentRect : Rect} :
    (childAggressiveDecision graph .default node.hwnd node.className parentRect
        (if settings.aggressiveMode then node.rect else none)).matched = true ↔
      settings.aggressiveMode = true ∧ node.rect.isSome = true ∧
        startsWith node.className "Chrome_WidgetWin_" = true ∧
        ShowsAdToken graph WindowNode.text node.hwnd := by
  have token : subtreeContainsAdToken graph .default node.hwnd 8 = true ↔
      ShowsAdToken graph WindowNode.text node.hwnd := subtreeWalk_iff
  have chrome : isChromeWidgetClass .default node.className =
      startsWith node.className "Chrome_WidgetWin_" := by
    simp [isChromeWidgetClass, LayoutRules.default]
  have bare : LayoutRules.default.hideBottomBannerWithoutToken = false := rfl
  rw [← token]
  cases settings.aggressiveMode with
  | false => simp [childAggressiveDecision]
  | true =>
      cases node.rect with
      | none => simp [childAggressiveDecision]
      | some rect =>
          simp only [childAggressiveDecision, aggressiveHideDecision, chrome, bare, if_true]
          generalize startsWith node.className "Chrome_WidgetWin_" = isChrome
          generalize subtreeContainsAdToken graph .default node.hwnd 8 = shown
          generalize isBottomBannerCandidate .default rect parentRect = banner
          cases isChrome <;> cases shown <;> cases banner <;> simp

theorem mainArmed_iff {parent : WindowNode} {parentRect : Rect} :
    mainArmed graph settings .default parent parentRect = true ↔
      Armed graph settings WindowNode.text parent.hwnd := by
  have required : LayoutRules.default.closeEmptyEvaChildRequiresAdSignal = true := rfl
  have signal : ∀ {sibling : Hwnd} {context : ChildContext},
      childContext graph settings .default parent.hwnd parentRect sibling = some context →
      (context.adSignal = true ↔ ∃ node, graph.get sibling = some node ∧
        node.win32Parent = parent.hwnd ∧ Arms graph settings WindowNode.text node) := by
    intro sibling context built
    obtain ⟨node, found, owned, _, _, _, _, childRect, decision, _, adSignal⟩ :=
      childContext_eq_some built
    have same := WindowGraph.get_hwnd found
    subst same
    have arms : context.adSignal = true ↔ Arms graph settings WindowNode.text node := by
      rw [adSignal, decision, childRect, required, if_pos rfl, Bool.or_eq_true, bne_iff_ne,
        legacySignatureKind_signed, childAggressive_iff, or_assoc]
      rfl
    rw [arms]
    constructor
    · intro held
      exact ⟨node, found, owned, held⟩
    · intro held
      obtain ⟨other, otherFound, _, held⟩ := held
      obtain rfl := Option.some.inj (found.symm.trans otherFound)
      exact held
  simp only [mainArmed, List.any_eq_true]
  constructor
  · intro armed
    obtain ⟨context, member, held⟩ := armed
    obtain ⟨listed, built⟩ := mem_childContexts member
    exact ⟨context.child, listed, (signal built).mp held⟩
  · intro armed
    obtain ⟨sibling, listed, node, found, owned, arms⟩ := armed
    cases built : childContext graph settings .default parent.hwnd parentRect sibling with
    | none => simp [childContext, found, owned] at built
    | some context =>
        exact ⟨context, List.mem_filterMap.mpr ⟨sibling, listed, built⟩,
          (signal built).mpr ⟨node, found, owned, arms⟩⟩

variable [Counting]

omit [Unicode] in
theorem confirmedAt_legacy {kind : String} {ticks streak : Int} :
    confirmedAt (legacyHideDecision kind) ticks streak = true ↔
      kind = "exact" ∨ (kind = "substring" ∧ max ticks 1 ≤ Counting.next streak) := by
  unfold legacyHideDecision
  by_cases exact_ : kind = "exact"
  · simp [exact_, confirmedAt, AdDecision.hide, AdDecision.matched]
  · by_cases substring : kind = "substring"
    · simp [substring, confirmedAt, AdDecision.hide, AdDecision.matched]
    · simp [exact_, substring, confirmedAt]

/-- The legacy rule confirms a window that is due. -/
theorem legacy_confirmed_iff :
    confirmedAt (legacyHideDecision (legacySignatureKind graph .default node.hwnd))
        LayoutRules.default.weakSignalConfirmTicks
        (legacyStreak graph settings .default states node) = true ↔
      LegacyDue graph settings states WindowNode.text node := by
  have ticks : max LayoutRules.default.weakSignalConfirmTicks 1 = 2 := by decide
  simp only [confirmedAt_legacy, ticks, legacySignatureKind_exact, legacySignatureKind_substring,
    LegacyDue, brings_iff, exists_eq_left, Ripe]
  by_cases shows : ShowsLegacy graph WindowNode.text node.hwnd <;> simp [shows]

/-- What the legacy rule hides: a candidate of its classes that is due. -/
theorem legacyHidden_iff :
    LegacyHidden graph settings .default states node ↔
      TopWindow graph node ∧ node.className ∈ windowClasses ∧
        (IsMain graph WindowNode.text node.win32Parent ∧ node.text = "" ∨
          ¬ IsMain graph WindowNode.text node.win32Parent ∧ node.win32Parent = 0) ∧
        LegacyDue graph settings states WindowNode.text node := by
  constructor
  · intro hidden
    obtain ⟨classed, rule⟩ := (candidate_node hidden.top).mp hidden.candidate
    rw [confirmedMain_iff] at rule
    refine ⟨mem_top_iff.mp hidden.top, classed, ?_, legacy_confirmed_iff.mp hidden.confirmed⟩
    exact rule.imp_right fun unowned => ⟨unowned.1, unowned.2.1⟩
  · intro due
    obtain ⟨top, classed, rule, due⟩ := due
    have signed := legacySignatureKind_signed.mpr (due.imp_right And.left)
    refine ⟨mem_top_iff.mpr top, ?_, legacy_confirmed_iff.mpr due⟩
    refine (candidate_node (mem_top_iff.mpr top)).mpr ⟨classed, ?_⟩
    rw [confirmedMain_iff]
    exact rule.imp_right fun unowned => ⟨unowned.1, unowned.2, signed⟩

omit [Unicode] in
/-- The decision to close an empty child is weak. -/
theorem confirmedAt_close {className windowText parentText : String} {scrolls armed : Bool}
    {streak : Int} :
    confirmedAt (emptyEvaCloseDecision .default className windowText parentText scrolls armed)
        LayoutRules.default.weakSignalConfirmTicks streak = true ↔
      (className = "EVA_ChildWindow" ∧ windowText = "" ∧ parentText ≠ "" ∧ scrolls = false ∧
        armed = true) ∧ Ripe streak := by
  have ticks : max LayoutRules.default.weakSignalConfirmTicks 1 = 2 := by decide
  have shape : shouldCloseEmptyEvaChild .default className windowText parentText scrolls armed =
      true ↔ className = "EVA_ChildWindow" ∧ windowText = "" ∧ parentText ≠ "" ∧
        scrolls = false ∧ armed = true := by
    simp only [shouldCloseEmptyEvaChild, LayoutRules.default]
    cases scrolls <;> cases armed <;> simp [and_assoc]
  rw [← shape]
  unfold emptyEvaCloseDecision Ripe
  split
  · rename_i closes
    simp [confirmedAt, closes, ticks, AdDecision.close, AdDecision.matched]
  · rename_i refused
    simp [confirmedAt, refused, AdDecision.none, AdDecision.matched]

theorem EvaClosed.due {parent : WindowNode} {parentRect : Rect}
    (closed : EvaClosed graph settings .default states parent parentRect child) :
    CloseDue graph settings states WindowNode.text child := by
  have scrolls : classNameStartsWith graph child.hwnd LayoutRules.default.customScrollPrefix 8 =
      true ↔ graph.Holds (fun node => startsWith node.className "_EVA_") child.hwnd 8 :=
    subtreeWalk_iff
  obtain ⟨earlier, less, confirmed⟩ := closed.confirmed
  obtain ⟨⟨_, _, _, unscrolled, armed⟩, ripe⟩ := confirmedAt_close.mp confirmed
  have main := closed.main
  have owned := main.owned
  exact
    { found := main.found
      classed := closed.classed
      blank := closed.blank
      main := owned ▸ confirmedMain_iff.mp main.confirmed
      titled := ⟨parent, owned ▸ main.parentFound, by rw [main.parentRect]; rfl, closed.titled⟩
      unscrolled := fun holds => by rw [scrolls.mpr holds] at unscrolled; cases unscrolled
      armed := owned ▸ mainArmed_iff.mp armed
      ripe := ⟨earlier, owned ▸ less, ripe⟩ }

/-- A child whose closing is due is asked to close. -/
theorem CloseDue.closed (due : CloseDue graph settings states WindowNode.text child) :
    ∃ parent parentRect, EvaClosed graph settings .default states parent parentRect child := by
  have scrolls : classNameStartsWith graph child.hwnd LayoutRules.default.customScrollPrefix 8 =
      true ↔ graph.Holds (fun node => startsWith node.className "_EVA_") child.hwnd 8 :=
    subtreeWalk_iff
  obtain ⟨parent, parentFound, sized, titled⟩ := due.titled
  obtain ⟨parentRect, rect⟩ := Option.isSome_iff_exists.mp sized
  have owned : child.win32Parent = parent.hwnd := (WindowGraph.get_hwnd parentFound).symm
  obtain ⟨earlier, less, ripe⟩ := due.ripe
  have armed := due.armed
  have confirmed := confirmedMain_iff.mpr due.main
  rw [owned] at parentFound less armed confirmed
  have unscrolled : classNameStartsWith graph child.hwnd
      LayoutRules.default.customScrollPrefix 8 = false := by
    rw [Bool.eq_false_iff]
    exact fun found => due.unscrolled (scrolls.mp found)
  refine ⟨parent, parentRect, ⟨?_, due.classed, due.blank, titled, earlier, less, ?_⟩⟩
  · exact ⟨confirmed, parentFound, rect, List.count_pos_iff.mp (by omega), due.found, owned⟩
  · exact confirmedAt_close.mpr ⟨⟨due.classed, due.blank, titled, unscrolled,
      mainArmed_iff.mpr armed⟩, ripe⟩

end Links

end LayoutAdblock.Core
