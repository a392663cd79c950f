import LayoutAdblock.Core.Evaluate.ClosedForm
import LayoutAdblock.Core.Evaluate.Sequence

namespace LayoutAdblock.Core

/-! # The same windows, drawn elsewhere

Two graphs of the same windows may differ in visibility and geometry.  What an
evaluation hides depends on them only through the strength of a verdict, so a
window that is hidden once is hidden again.
-/

/-- The same window, perhaps at another place, of another size or no longer visible. Whether
it has a rectangle at all does not change. -/
structure WindowNode.Redrawn (first second : WindowNode) : Prop where
  hwnd : second.hwnd = first.hwnd
  pid : second.pid = first.pid
  className : second.className = first.className
  title : second.title = first.title
  structuralParent : second.structuralParent = first.structuralParent
  owner : second.owner = first.owner
  sized : second.rect.isSome = first.rect.isSome

namespace WindowNode.Redrawn

variable {first second : WindowNode}

theorem symm (redrawn : first.Redrawn second) : second.Redrawn first where
  hwnd := redrawn.hwnd.symm
  pid := redrawn.pid.symm
  className := redrawn.className.symm
  title := redrawn.title.symm
  structuralParent := redrawn.structuralParent.symm
  owner := redrawn.owner.symm
  sized := redrawn.sized.symm

theorem identity (redrawn : first.Redrawn second) : second.identity = first.identity := by
  simp only [WindowNode.identity, redrawn.hwnd, redrawn.pid, redrawn.className]

theorem text (redrawn : first.Redrawn second) : second.text = first.text :=
  congrArg WindowText.asStr redrawn.title

theorem textKnown (redrawn : first.Redrawn second) : second.textKnown = first.textKnown :=
  congrArg WindowText.isKnown redrawn.title

theorem win32Parent (redrawn : first.Redrawn second) :
    second.win32Parent = first.win32Parent := by
  simp only [WindowNode.win32Parent, redrawn.owner, redrawn.structuralParent]

end WindowNode.Redrawn

namespace WindowGraph

/-- The same windows of the same processes in the same tree, under the same titles. Only
where a window lies and whether it is visible may differ from one graph to the other. -/
structure Redrawn (first second : WindowGraph) : Prop where
  pids : second.pids = first.pids
  children : second.children = first.children
  node : ∀ {hwnd node}, first.get hwnd = some node →
    ∃ other, second.get hwnd = some other ∧ node.Redrawn other
  back : ∀ {hwnd node}, second.get hwnd = some node →
    ∃ other, first.get hwnd = some other ∧ node.Redrawn other

namespace Redrawn

variable {first second : WindowGraph}

theorem symm (redrawn : first.Redrawn second) : second.Redrawn first where
  pids := redrawn.pids.symm
  children := redrawn.children.symm
  node := redrawn.back
  back := redrawn.node

theorem get_isNone (redrawn : first.Redrawn second) (hwnd : Hwnd) :
    (second.get hwnd).isNone = (first.get hwnd).isNone := by
  cases found : first.get hwnd with
  | some node =>
      obtain ⟨other, also, _⟩ := redrawn.node found
      rw [also]
      rfl
  | none =>
      cases also : second.get hwnd with
      | none => rfl
      | some other =>
          obtain ⟨node, contrary, _⟩ := redrawn.back also
          rw [found] at contrary
          cases contrary

theorem enumDescendants (redrawn : first.Redrawn second) (parent : Hwnd) (maxDepth : Int) :
    second.enumDescendants parent maxDepth = first.enumDescendants parent maxDepth := by
  have levels : ∀ (levels : Nat) (depth : Int) (level : List Hwnd),
      second.descendantsFrom levels depth level = first.descendantsFrom levels depth level := by
    intro levels
    induction levels with
    | zero => intros; rfl
    | succ levels ih =>
        intro depth level
        have same : second.enumChildren = first.enumChildren := redrawn.children
        simp only [descendantsFrom, ih, same]
  unfold WindowGraph.enumDescendants
  rw [levels, redrawn.get_isNone, WindowGraph.enumChildren, redrawn.children]
  rfl

end Redrawn

end WindowGraph

section Signals

variable {first second : WindowGraph}

theorem subtreeWalk_redrawn (redrawn : first.Redrawn second) {test : WindowNode → Bool}
    (same : ∀ {node other : WindowNode}, node.Redrawn other → test other = test node)
    (hwnd : Hwnd) (maxDepth : Int) :
    subtreeWalk second test hwnd maxDepth = subtreeWalk first test hwnd maxDepth := by
  unfold subtreeWalk
  generalize (maxDepth + 1).toNat = levels
  induction levels generalizing hwnd with
  | zero => rfl
  | succ levels ih =>
      unfold subtreeAny
      cases found : first.get hwnd with
      | some node =>
          obtain ⟨other, also, redraws⟩ := redrawn.node found
          have below : subtreeAny second test levels = subtreeAny first test levels := funext ih
          simp only [also, same redraws, redrawn.children, below]
      | none =>
          have also : second.get hwnd = none := by
            rw [← Option.isNone_iff_eq_none, redrawn.get_isNone, found]
            rfl
          simp only [also]

variable [Unicode]

theorem subtreeContainsAdToken_redrawn (redrawn : first.Redrawn second) (rules : LayoutRules)
    (hwnd : Hwnd) (maxDepth : Int) :
    subtreeContainsAdToken second rules hwnd maxDepth =
      subtreeContainsAdToken first rules hwnd maxDepth :=
  subtreeWalk_redrawn redrawn (fun redraws => by rw [redraws.text]) hwnd maxDepth

theorem legacySignatureKind_redrawn (redrawn : first.Redrawn second) (rules : LayoutRules)
    (hwnd : Hwnd) :
    legacySignatureKind second rules hwnd = legacySignatureKind first rules hwnd := by
  have exact : ∀ target, hasWindowText second hwnd target 8 = hasWindowText first hwnd target 8 :=
    fun target => subtreeWalk_redrawn redrawn (fun redraws => by rw [redraws.text]) hwnd 8
  have contained : ∀ target,
      hasWindowTextContains second hwnd target 8 = hasWindowTextContains first hwnd target 8 := by
    intro target
    have walk : subtreeWalk second (fun node => node.text != "" &&
          containsText (Unicode.toLowercase node.text) (Unicode.toLowercase target)) hwnd 8 =
        subtreeWalk first (fun node => node.text != "" &&
          containsText (Unicode.toLowercase node.text) (Unicode.toLowercase target)) hwnd 8 :=
      subtreeWalk_redrawn redrawn (fun redraws => by rw [redraws.text]) hwnd 8
    simp only [hasWindowTextContains, walk]
  simp only [legacySignatureKind, exact, contained]

omit [Unicode]

theorem collectTopLevel_redrawn (redrawn : first.Redrawn second) {node : WindowNode}
    (top : node ∈ collectTopLevel first) :
    ∃ other ∈ collectTopLevel second, node.Redrawn other := by
  obtain ⟨found, root, listed⟩ := mem_collectTopLevel.mp top
  obtain ⟨other, also, redraws⟩ := redrawn.node found
  refine ⟨other, mem_collectTopLevel.mpr ⟨?_, ?_, ?_⟩, redraws⟩
  · rw [redraws.hwnd]
    exact also
  · rw [redraws.structuralParent]
    exact root
  · rw [redraws.pid, redrawn.pids]
    exact listed

theorem hasMainViewSignature_redrawn (redrawn : first.Redrawn second) {rules : LayoutRules}
    {hwnd : Hwnd} (signed : hasMainViewSignature first rules hwnd = true) :
    hasMainViewSignature second rules hwnd = true := by
  simp only [hasMainViewSignature, WindowGraph.enumChildren, redrawn.children,
    List.any_eq_true, Option.any_eq_true] at signed ⊢
  obtain ⟨child, listed, node, found, view⟩ := signed
  obtain ⟨other, also, redraws⟩ := redrawn.node found
  refine ⟨child, listed, other, also, ?_⟩
  rw [isViewChild, redraws.className, redraws.text]
  exact view

theorem confirmedMain_redrawn (redrawn : first.Redrawn second) {rules : LayoutRules}
    {hwnd : Hwnd} (confirmed : hwnd ∈ confirmedMain first rules) :
    hwnd ∈ confirmedMain second rules := by
  obtain ⟨node, top, same, structural, signed⟩ := mem_confirmedMain.mp confirmed
  obtain ⟨other, alsoTop, redraws⟩ := collectTopLevel_redrawn redrawn top
  refine mem_confirmedMain.mpr ⟨other, alsoTop, redraws.hwnd.trans same, ?_,
    hasMainViewSignature_redrawn redrawn signed⟩
  rw [redraws.className, redraws.win32Parent]
  exact structural

theorem mem_confirmedMain_redrawn (redrawn : first.Redrawn second) {rules : LayoutRules}
    {hwnd : Hwnd} : hwnd ∈ confirmedMain second rules ↔ hwnd ∈ confirmedMain first rules :=
  ⟨confirmedMain_redrawn redrawn.symm, confirmedMain_redrawn redrawn⟩

theorem mainChild_redrawn (redrawn : first.Redrawn second) {rules : LayoutRules}
    {parent child : WindowNode} {parentRect : Rect}
    (main : MainChild first rules parent parentRect child) :
    ∃ otherParent otherRect otherChild, parent.Redrawn otherParent ∧ child.Redrawn otherChild ∧
      MainChild second rules otherParent otherRect otherChild := by
  obtain ⟨otherParent, parentFound, parentRedraws⟩ := redrawn.node main.parentFound
  obtain ⟨otherChild, childFound, childRedraws⟩ := redrawn.node main.found
  have sized : otherParent.rect.isSome = true := by
    rw [parentRedraws.sized, main.parentRect]
    rfl
  obtain ⟨otherRect, rect⟩ := Option.isSome_iff_exists.mp sized
  refine ⟨otherParent, otherRect, otherChild, parentRedraws, childRedraws, ?_⟩
  exact
    { confirmed := by
        rw [parentRedraws.hwnd]
        exact confirmedMain_redrawn redrawn main.confirmed
      parentFound := by
        rw [parentRedraws.hwnd]
        exact parentFound
      parentRect := rect
      listed := by
        rw [redrawn.children, parentRedraws.hwnd, childRedraws.hwnd]
        exact main.listed
      found := by
        rw [childRedraws.hwnd]
        exact childFound
      owned := by
        rw [childRedraws.win32Parent, parentRedraws.hwnd]
        exact main.owned }

theorem resetsFirst_redrawn (redrawn : first.Redrawn second) {settings : LayoutSettings}
    {rules : LayoutRules} {node other : WindowNode} (redraws : node.Redrawn other)
    (resets : resetsFirst first settings rules node = true) :
    resetsFirst second settings rules other = true := by
  simp only [resetsFirst, Bool.and_eq_true, List.contains_iff_mem, redraws.sized,
    redraws.win32Parent, redraws.hwnd, redrawn.children] at resets ⊢
  obtain ⟨⟨⟨aggressive, confirmed⟩, parentSized⟩, listed⟩ := resets
  refine ⟨⟨⟨aggressive, confirmedMain_redrawn redrawn confirmed⟩, ?_⟩, listed⟩
  obtain ⟨rect, bound⟩ := Option.isSome_iff_exists.mp parentSized
  obtain ⟨parent, found, sized⟩ := Option.bind_eq_some_iff.mp bound
  obtain ⟨otherParent, also, parentRedraws⟩ := redrawn.node found
  rw [also, Option.bind_some, parentRedraws.sized, sized]
  rfl

variable [Unicode]

theorem candidate_redrawn (redrawn : first.Redrawn second) {rules : LayoutRules}
    {node other : WindowNode} (redraws : node.Redrawn other) (top : node ∈ collectTopLevel first)
    (otherTop : other ∈ collectTopLevel second)
    (candidate : node.hwnd ∈ candidateHandles first rules (confirmedMain first rules)) :
    other.hwnd ∈ candidateHandles second rules (confirmedMain second rules) := by
  rw [candidate_node otherTop, redraws.className, redraws.win32Parent, redraws.text, redraws.hwnd,
    mem_confirmedMain_redrawn redrawn, legacySignatureKind_redrawn redrawn]
  exact (candidate_node top).mp candidate

theorem popupTargets_redrawn (redrawn : first.Redrawn second) {rules : LayoutRules} {hwnd : Hwnd}
    (target : hwnd ∈ popupTargets first rules) : hwnd ∈ popupTargets second rules := by
  obtain ⟨item, top, host, allowed, ⟨child, depth, className⟩, matched, rule⟩ :=
    mem_popupTargets.mp target
  obtain ⟨other, otherTop, redraws⟩ := collectTopLevel_redrawn redrawn top
  obtain ⟨listed, node, found, ad, classed⟩ := mem_findPopupMatches.mp matched
  obtain ⟨otherNode, also, nodeRedraws⟩ := redrawn.node found
  refine mem_popupTargets.mpr ⟨other, otherTop, ?_, ?_, ⟨child, depth, className⟩, ?_, ?_⟩
  · simp only [isPopupHost, redraws.win32Parent, redraws.hwnd, Bool.and_eq_true,
      Bool.not_eq_true', List.contains_eq_mem, decide_eq_false_iff_not,
      mem_confirmedMain_redrawn redrawn] at host ⊢
    exact host
  · rw [redraws.text, redraws.textKnown]
    exact allowed
  · refine mem_findPopupMatches.mpr ⟨?_, otherNode, also, ad, nodeRedraws.className.trans classed⟩
    rw [redrawn.enumDescendants, redraws.hwnd]
    exact listed
  · rw [redraws.hwnd]
    exact rule

end Signals

/-- Rules under which a verdict that was confirmed once stays confirmed: popups
are told apart by their class, and a chrome widget is an ad by its texts. -/
structure LayoutRules.Settling (rules : LayoutRules) : Prop where
  separate : rules.Separate
  popupNotCandidate : ∀ className ∈ rules.popupAdClasses, className ∉ rules.adCandidateClasses
  popupNotChrome : ∀ className ∈ rules.popupAdClasses,
    isChromeWidgetClass rules className = false
  needsToken : rules.hideBottomBannerWithoutToken = false
  shortWait : rules.weakSignalConfirmTicks ≤ 2

theorem LayoutRules.default_settling : LayoutRules.default.Settling where
  separate := LayoutRules.default_separate
  popupNotCandidate := by decide
  popupNotChrome := by decide
  needsToken := rfl
  shortWait := by decide

section Streaks

variable [Unicode] {graph : WindowGraph} {settings : LayoutSettings} {rules : LayoutRules}
  {states : StateMap}

/-- The popup phase has verdicts about popup classes only. -/
theorem popupVerdicts_class {verdict : WindowIdentity × AdDecision}
    (member : verdict ∈ popupVerdicts graph rules) :
    verdict.1.className ∈ rules.popupAdClasses := by
  obtain ⟨item, _, inHost⟩ := List.mem_flatMap.mp member
  unfold hostVerdicts at inHost
  split at inHost
  · obtain ⟨⟨child, depth, className⟩, matched, inMatch⟩ := List.mem_flatMap.mp inHost
    obtain ⟨_, node, found, ad, classed⟩ := mem_findPopupMatches.mp matched
    simp only [found, Option.toList_some, List.map_cons, List.map_nil,
      List.mem_singleton] at inMatch
    rw [inMatch]
    change node.className ∈ rules.popupAdClasses
    rw [classed]
    exact ad
  · cases inHost

/-- A window of no popup class leaves the evaluation with the streak of the
ledger phases. -/
theorem evaluate_streak {key : WindowIdentity} (withCandidates : Bool)
    (plain : key.className ∉ rules.popupAdClasses) :
    (evaluateInner graph settings rules states withCandidates).2.streak key =
      ((Ledger.opened states).recordAll rules.weakSignalConfirmTicks
        (ledgerVisits graph settings rules false)).states.streak key := by
  rw [evaluate_states, storeAll_streak]
  have silent : (popupVerdicts graph rules).filter (fun verdict => decide (verdict.1 = key)) =
      [] := by
    rw [List.filter_eq_nil_iff]
    intro verdict member same
    rw [decide_eq_true_eq] at same
    exact plain (same ▸ popupVerdicts_class member)
  rw [silent]
  rfl

omit [Unicode] in
theorem LayoutRules.Settling.chromePlain (settling : rules.Settling) {className : String}
    (chrome : isChromeWidgetClass rules className = true) :
    className ∉ rules.popupAdClasses := by
  intro ad
  rw [settling.popupNotChrome className ad] at chrome
  cases chrome

omit [Unicode] in
theorem LayoutRules.Settling.candidatePlain (settling : rules.Settling) {className : String}
    (classed : className ∈ rules.adCandidateClasses) : className ∉ rules.popupAdClasses :=
  fun ad => settling.popupNotCandidate className ad classed

/-- Every listing of a matched chrome widget extends its streak. -/
theorem chrome_streak (settling : rules.Settling) {parent child : WindowNode} {parentRect : Rect}
    (withCandidates : Bool) (main : MainChild graph rules parent parentRect child)
    (aggressive : settings.aggressiveMode = true) (sized : child.rect.isSome = true)
    (matched : (childAggressiveDecision graph rules child.hwnd child.className parentRect
      child.rect).matched = true) :
    (evaluateInner graph settings rules states withCandidates).2.streak child.identity =
      states.streak child.identity + listings graph parent child := by
  have chrome : isChromeWidgetClass rules child.className = true := by
    have visited : (aggressiveVisitOf graph rules false parentRect child).decision.matched =
        true := matched
    exact aggressive_chrome visited
  have rounds := (@round_decided _ _ graph settings rules states _ _ _ _ _ main
    (settling.separate.chromeNotCandidate chrome) rfl
    (chrome_round settling.separate chrome aggressive sized) ⟨matched, by simp⟩).2
  rw [evaluate_streak withCandidates (settling.chromePlain chrome), ← Ledger.iterate_next]
  exact rounds

/-- A matched legacy candidate extends the streak it brings along. -/
theorem legacy_streak (settling : rules.Settling) {node : WindowNode} (withCandidates : Bool)
    (top : node ∈ collectTopLevel graph)
    (candidate : node.hwnd ∈ candidateHandles graph rules (confirmedMain graph rules))
    (matched : (legacyHideDecision (legacySignatureKind graph rules node.hwnd)).matched = true) :
    (evaluateInner graph settings rules states withCandidates).2.streak node.identity =
      legacyStreak graph settings rules states node + 1 := by
  have found := (mem_collectTopLevel.mp top).1
  have classed := candidate_class top candidate
  rw [evaluate_streak withCandidates (settling.candidatePlain classed),
    (Ledger.recordAll_sameAt (Ledger.opened states) rules.weakSignalConfirmTicks node.identity
      (ledgerVisits graph settings rules false)).streak,
    ledgerVisits_phases, Ledger.visitsOf_append]
  have turn := mainPhase_legacyStreak settling.separate settings states false found classed
  rw [(Ledger.recordAll_sameAt (Ledger.opened states) rules.weakSignalConfirmTicks node.identity
    (mainPhase graph settings rules false)).streak] at turn
  have own : Ledger.visitsOf node.identity
      ((candidateHandles graph rules (confirmedMain graph rules)).filterMap
        (legacyVisit graph rules false)) = [legacyVisitOf graph rules false node] := by
    rw [visitsOf_legacyPhase false found, if_pos candidate]
  rw [own]
  rw [← turn]
  exact Ledger.recordAll_single_match _ matched (by simp)

omit [Unicode] in
theorem nextStreak_nonneg {decision : AdDecision} {streak : Int} (nonneg : 0 ≤ streak) :
    0 ≤ nextStreak decision streak := by
  unfold nextStreak
  split
  · rw [next_unbounded]
    omega
  · exact le_rfl

omit [Unicode] in
theorem record_streak_nonneg {ledger : Ledger} {visit : Visit} (ticks : Int)
    (nonneg : ∀ key, 0 ≤ ledger.states.streak key) (key : WindowIdentity) :
    0 ≤ (ledger.record ticks visit).1.states.streak key := by
  rw [Ledger.record_eq]
  split
  · simp only [Ledger.stored]
    by_cases own : key = visit.identity
    · rw [own, storeUpdate_streak_self]
      exact nextStreak_nonneg (nonneg _)
    · rw [storeUpdate_streak_other _ _ _ own]
      exact nonneg key
  · exact nonneg key

omit [Unicode] in
theorem recordAll_streak_nonneg {visits : List Visit} {ledger : Ledger} (ticks : Int)
    (nonneg : ∀ key, 0 ≤ ledger.states.streak key) (key : WindowIdentity) :
    0 ≤ (ledger.recordAll ticks visits).states.streak key := by
  induction visits generalizing ledger with
  | nil => exact nonneg key
  | cons visit rest ih =>
      rw [Ledger.recordAll_cons]
      exact ih (record_streak_nonneg ticks nonneg)

theorem evaluate_streak_nonneg (withCandidates : Bool)
    (nonneg : ∀ key, 0 ≤ states.streak key) (key : WindowIdentity) :
    0 ≤ (evaluateInner graph settings rules states withCandidates).2.streak key := by
  rw [evaluate_states, storeAll_streak]
  have ledger : 0 ≤ ((Ledger.opened states).recordAll rules.weakSignalConfirmTicks
      (ledgerVisits graph settings rules false)).states.streak key :=
    recordAll_streak_nonneg _ nonneg key
  generalize ((popupVerdicts graph rules).filter _).map Prod.snd = decisions
  generalize StateMap.streak _ key = streak at ledger
  induction decisions generalizing streak with
  | nil => exact ledger
  | cons decision rest ih => exact ih _ (nextStreak_nonneg ledger)

end Streaks

section Persistence

variable [Unicode] {first second : WindowGraph} {settings : LayoutSettings} {rules : LayoutRules}
  {states later : StateMap}

omit [Unicode] in
/-- Where a banner is drawn only decides how strong the verdict is. -/
theorem aggressive_matched (settling : rules.Settling) {className : String}
    {rect parentRect : Rect} {token : Bool} :
    (aggressiveHideDecision rules className (some rect) parentRect token).matched =
      (isChromeWidgetClass rules className && token) := by
  unfold aggressiveHideDecision
  simp only [settling.needsToken, Bool.and_false, Bool.false_eq_true, if_false]
  cases isChromeWidgetClass rules className with
  | false => rfl
  | true =>
      cases token with
      | false => simp
      | true =>
          simp only [Bool.true_and, Bool.and_true, if_true]
          split
          · rfl
          · rfl

theorem childAggressive_matched (settling : rules.Settling) {hwnd : Hwnd} {className : String}
    {parentRect : Rect} {rect : Option Rect} {graph : WindowGraph} (sized : rect.isSome = true) :
    (childAggressiveDecision graph rules hwnd className parentRect rect).matched =
      (isChromeWidgetClass rules className && subtreeContainsAdToken graph rules hwnd 8) := by
  obtain ⟨drawn, rfl⟩ := Option.isSome_iff_exists.mp sized
  exact aggressive_matched settling

theorem chromeHidden_persists (settling : rules.Settling) (redrawn : first.Redrawn second)
    (nonneg : ∀ key, 0 ≤ states.streak key) {parent child : WindowNode} {parentRect : Rect}
    (hidden : ChromeHidden first settings rules states parent parentRect child)
    (kept : later.streak child.identity =
      (evaluateInner first settings rules states false).2.streak child.identity) :
    ∃ otherParent otherRect otherChild, otherChild.hwnd = child.hwnd ∧
      ChromeHidden second settings rules later otherParent otherRect otherChild := by
  obtain ⟨otherParent, otherRect, otherChild, parentRedraws, redraws, main⟩ :=
    mainChild_redrawn redrawn hidden.main
  have sized : otherChild.rect.isSome = true := redraws.sized.trans hidden.sized
  have matched := matched_of_confirmedWithin hidden.confirmed
  have grown : (evaluateInner first settings rules states false).2.streak child.identity =
      states.streak child.identity + listings first parent child :=
    chrome_streak settling false hidden.main hidden.aggressive hidden.sized matched
  have listed := listings_pos main
  refine ⟨otherParent, otherRect, otherChild, redraws.hwnd, main, hidden.aggressive, sized, ?_⟩
  rw [childAggressive_matched settling hidden.sized] at matched
  have stillMatched : (childAggressiveDecision second rules otherChild.hwnd otherChild.className
      otherRect otherChild.rect).matched = true := by
    rw [childAggressive_matched settling sized, redraws.className, redraws.hwnd,
      subtreeContainsAdToken_redrawn redrawn]
    exact matched
  have before := nonneg child.identity
  have once := listings_pos hidden.main
  have wait := settling.shortWait
  rw [Ledger.confirmedWithin_unbounded]
  refine ⟨listed, ?_⟩
  simp only [confirmedAt, stillMatched, next_unbounded, Bool.true_and, Bool.or_eq_true,
    decide_eq_true_eq]
  right
  rw [redraws.identity, kept, grown]
  omega

theorem legacyHidden_persists (settling : rules.Settling) (redrawn : first.Redrawn second)
    {node : WindowNode} (hidden : LegacyHidden first settings rules states node)
    (kept : later.streak node.identity =
      (evaluateInner first settings rules states false).2.streak node.identity) :
    ∃ other, other.hwnd = node.hwnd ∧ LegacyHidden second settings rules later other := by
  obtain ⟨other, otherTop, redraws⟩ := collectTopLevel_redrawn redrawn hidden.top
  refine ⟨other, redraws.hwnd, otherTop,
    candidate_redrawn redrawn redraws hidden.top otherTop hidden.candidate, ?_⟩
  have confirmed := hidden.confirmed
  have grown : (evaluateInner first settings rules states false).2.streak node.identity =
      legacyStreak first settings rules states node + 1 :=
    legacy_streak settling false hidden.top hidden.candidate (matched_of_confirmedAt confirmed)
  rw [redraws.hwnd, legacySignatureKind_redrawn redrawn]
  simp only [confirmedAt, next_unbounded, Bool.and_eq_true, Bool.or_eq_true,
    decide_eq_true_eq] at confirmed ⊢
  refine ⟨confirmed.1, confirmed.2.imp id ?_⟩
  intro long
  unfold legacyStreak at long grown ⊢
  split
  · -- A streak that is reset each time was long enough from the start.
    rename_i resets
    rw [if_pos (resetsFirst_redrawn redrawn.symm redraws.symm resets)] at long
    exact long
  · rename_i keeps
    have keptFirst : ¬ resetsFirst first settings rules node = true :=
      fun resets => keeps (resetsFirst_redrawn redrawn redraws resets)
    rw [if_neg keptFirst] at long grown
    rw [redraws.identity, kept, grown]
    omega

/-- A window that an evaluation hides is hidden again by the next one, wherever
the windows are drawn then. -/
theorem hide_persists (settling : rules.Settling) (redrawn : first.Redrawn second)
    (nonneg : ∀ key, 0 ≤ states.streak key)
    (kept : ∀ {node}, node ∈ first.nodes → later node.identity =
      (evaluateInner first settings rules states false).2 node.identity) {hwnd : Hwnd}
    (hidden : hwnd ∈ (evaluateInner first settings rules states false).1.actions.hide) :
    hwnd ∈ (evaluateInner second settings rules later false).1.actions.hide := by
  have streaks : ∀ {node : WindowNode}, first.get node.hwnd = some node →
      later.streak node.identity =
        (evaluateInner first settings rules states false).2.streak node.identity := by
    intro node found
    have member := (WindowGraph.get_eq_some_iff.mp found).1
    simp only [StateMap.streak, kept member]
  rw [mem_hide_closedForm settling.separate] at hidden ⊢
  rcases hidden with (⟨parent, parentRect, child, rfl, chrome⟩ | ⟨node, rfl, legacy⟩) | popup
  · exact Or.inl (Or.inl
      (chromeHidden_persists settling redrawn nonneg chrome (streaks chrome.main.found)))
  · exact Or.inl (Or.inr (legacyHidden_persists settling redrawn legacy
      (streaks (mem_collectTopLevel.mp legacy.top).1)))
  · exact Or.inr (popupTargets_redrawn redrawn popup)

end Persistence

end LayoutAdblock.Core
