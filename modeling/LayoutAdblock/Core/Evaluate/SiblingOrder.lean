import LayoutAdblock.Core.Evaluate.Agreement
import LayoutAdblock.Core.Evaluate.ClosedForm
import LayoutAdblock.Core.Evaluate.Sequence

namespace LayoutAdblock.Core

open Ledger

/-! # The order of siblings

The children of a window come in z-order, which changes with every click.  Each
window meets the same verdicts whatever that order is: the visits about one
window are the same list, and everything an evaluation reports is determined by
the visits window by window.
-/

/-- The same windows, with the children of each in another order. -/
structure WindowGraph.Reordered (first second : WindowGraph) : Prop where
  pids : second.pids = first.pids
  get : second.get = first.get
  children : ∀ parent, (second.children parent).Perm (first.children parent)

variable {first second : WindowGraph} {rules : LayoutRules} {settings : LayoutSettings}

theorem WindowGraph.Reordered.tops (reordered : first.Reordered second) :
    collectTopLevel second = collectTopLevel first := by
  refine collectTopLevel_congr fun node => ?_
  rw [mem_collectTopLevel, mem_collectTopLevel, reordered.get, reordered.pids]

theorem WindowGraph.Reordered.agree (reordered : first.Reordered second) :
    first.Agree (fun _ => True) second where
  pids := reordered.pids
  children _ := reordered.children _
  closed _ _ := trivial
  node {hwnd} _ := by
    rw [reordered.get]
    cases first.get hwnd with
    | none => exact Or.inl ⟨rfl, rfl⟩
    | some node => exact Or.inr ⟨node, node, rfl, rfl, WindowNode.Alike.refl node⟩
  tops := by
    rw [reordered.tops]
    exact List.forall₂_same.mpr fun node _ => ⟨WindowNode.Alike.refl node, trivial⟩

variable [Unicode]

theorem childContexts_reordered (reordered : first.Reordered second) (wnd : Hwnd)
    (parentRect : Rect) :
    (childContexts second settings rules wnd parentRect).Perm
      (childContexts first settings rules wnd parentRect) := by
  have contexts : childContext second settings rules wnd parentRect =
      childContext first settings rules wnd parentRect :=
    funext fun child => childContext_agree reordered.agree wnd parentRect trivial
  simp only [childContexts, contexts]
  exact (reordered.children wnd).filterMap _

theorem mainArmed_reordered (reordered : first.Reordered second) (parent : WindowNode)
    (parentRect : Rect) :
    mainArmed second settings rules parent parentRect =
      mainArmed first settings rules parent parentRect :=
  (childContexts_reordered reordered parent.hwnd parentRect).any_eq

theorem childRound_reordered (reordered : first.Reordered second) (tracksSignal : Bool)
    (parent : WindowNode) (parentRect : Rect) (child : WindowNode) :
    childRound second settings rules tracksSignal parent parentRect child =
      childRound first settings rules tracksSignal parent parentRect child := by
  have tokens : subtreeContainsAdToken second rules child.hwnd 8 =
      subtreeContainsAdToken first rules child.hwnd 8 :=
    subtreeContainsAdToken_agree reordered.agree trivial 8
  have scrolls : classNameStartsWith second child.hwnd rules.customScrollPrefix 8 =
      classNameStartsWith first child.hwnd rules.customScrollPrefix 8 :=
    classNameStartsWith_agree reordered.agree trivial _ 8
  have decided : childAggressiveDecision second rules child.hwnd child.className parentRect
        child.rect =
      childAggressiveDecision first rules child.hwnd child.className parentRect child.rect := by
    cases child.rect with
    | none => rfl
    | some rect => simp only [childAggressiveDecision, tokens]
  simp only [childRound, closeVisitOf, aggressiveVisitOf, mainArmed_reordered reordered, decided,
    scrolls]

def listedVisits (graph : WindowGraph) (settings : LayoutSettings) (rules : LayoutRules)
    (tracksSignal : Bool) (parent : WindowNode) (parentRect : Rect) (hwnd : Hwnd) : List Visit :=
  (graph.get hwnd).toList.flatMap fun child =>
    if child.win32Parent = parent.hwnd then
      childRound graph settings rules tracksSignal parent parentRect child
    else []

theorem listedVisits_hwnd {tracksSignal : Bool} {parent : WindowNode} {parentRect : Rect}
    {hwnd : Hwnd} {visit : Visit}
    (member : visit ∈ listedVisits first settings rules tracksSignal parent parentRect hwnd) :
    visit.identity.hwnd = hwnd := by
  obtain ⟨child, found, inRound⟩ := List.mem_flatMap.mp member
  split at inRound
  · rw [childRound_identity inRound]
    exact WindowGraph.get_hwnd (Option.mem_toList.mp found)
  · cases inRound

/-- A main window visits a child once for every time it lists it. -/
theorem visitsOf_mainVisits {parent : WindowNode} {parentRect : Rect} (tracksSignal : Bool)
    (found : first.get parent.hwnd = some parent) (rect : parent.rect = some parentRect)
    (key : WindowIdentity) :
    visitsOf key (mainVisits first settings rules tracksSignal parent.hwnd) =
      (List.replicate ((first.children parent.hwnd).count key.hwnd) (visitsOf key
        (listedVisits first settings rules tracksSignal parent parentRect key.hwnd))).flatten := by
  rw [mainVisits_rounds settings tracksSignal found rect, visitsOf_flatMap]
  refine flatMap_occurrences fun hwnd _ different => visitsOf_other fun visit member same => ?_
  exact different ((listedVisits_hwnd member).symm.trans (congrArg WindowIdentity.hwnd same))

theorem visitsOf_mainVisits_reordered (reordered : first.Reordered second) (tracksSignal : Bool)
    (wnd : Hwnd) (key : WindowIdentity) :
    visitsOf key (mainVisits second settings rules tracksSignal wnd) =
      visitsOf key (mainVisits first settings rules tracksSignal wnd) := by
  cases found : first.get wnd with
  | none => simp only [mainVisits, mainContexts, reordered.get, found, Option.bind_none]
  | some parent =>
      obtain rfl := WindowGraph.get_hwnd found
      cases rect : parent.rect with
      | none =>
          simp only [mainVisits, mainContexts, reordered.get, found, rect, Option.bind_some,
            Option.map_none]
      | some parentRect =>
          rw [visitsOf_mainVisits tracksSignal (reordered.get ▸ found) rect,
            visitsOf_mainVisits tracksSignal found rect,
            (reordered.children parent.hwnd).count_eq]
          simp only [listedVisits, reordered.get, childRound_reordered reordered]

/-- The visits about a window are the same list for every order of the children. -/
theorem visitsOf_reordered (reordered : first.Reordered second) (tracksSignal : Bool)
    (key : WindowIdentity) :
    visitsOf key (ledgerVisits second settings rules tracksSignal) =
      visitsOf key (ledgerVisits first settings rules tracksSignal) := by
  have legacies : legacyVisit second rules tracksSignal = legacyVisit first rules tracksSignal :=
    funext fun wnd => legacyVisit_agree reordered.agree tracksSignal trivial
  simp only [ledgerVisits, visitsOf_append, visitsOf_flatMap, confirmedMain_agree reordered.agree,
    candidateHandles_agree reordered.agree, legacies,
    visitsOf_mainVisits_reordered reordered tracksSignal]

omit [Unicode] in
/-- Runs with the same visits about every window leave the same states. -/
theorem recordAll_states_congr {visits others : List Visit}
    (same : ∀ key, visitsOf key others = visitsOf key visits) (ticks : Int) (ledger : Ledger) :
    (ledger.recordAll ticks others).states = (ledger.recordAll ticks visits).states := by
  funext key
  rw [(recordAll_sameAt ledger ticks key others).states, same key,
    ← (recordAll_sameAt ledger ticks key visits).states]

omit [Unicode] in
/-- Runs with the same visits about every window confirm the same visits. -/
theorem confirmedVisits_congr {visits others : List Visit}
    (same : ∀ key, visitsOf key others = visitsOf key visits) (ticks : Int) (ledger : Ledger) :
    (Ledger.confirmedVisits ticks ledger others).Perm
      (Ledger.confirmedVisits ticks ledger visits) := by
  have restricted : ∀ key run, visitsOf key (Ledger.confirmedVisits ticks ledger run) =
      Ledger.confirmedVisits ticks ledger (visitsOf key run) := fun key run =>
    (SameAt.refl key ledger).confirmedVisits ticks run
  have counted : ∀ visit run, List.count visit (visitsOf visit.identity run) =
      List.count visit run := by
    intro visit run
    exact List.count_filter (by simp)
  refine List.perm_iff_count.mpr fun visit => ?_
  rw [← counted, restricted, same, ← restricted, counted]

theorem decidedVisits_reordered (reordered : first.Reordered second) (states : StateMap) :
    (decidedVisits second settings rules states).Perm
      (decidedVisits first settings rules states) :=
  confirmedVisits_congr (visitsOf_reordered reordered false) _ _

theorem mainResizes_reordered (reordered : first.Reordered second) (wnd : Hwnd) :
    (mainResizes second settings rules wnd).Perm (mainResizes first settings rules wnd) := by
  simp only [mainResizes, mainContexts, reordered.get]
  cases first.get wnd with
  | none => exact List.Perm.refl _
  | some parent =>
      simp only [Option.bind_some]
      cases parent.rect with
      | none => exact List.Perm.refl _
      | some parentRect =>
          exact (childContexts_reordered reordered wnd parentRect).flatMap_right _

theorem viewResizes_reordered (reordered : first.Reordered second) :
    (viewResizes second settings rules).Perm (viewResizes first settings rules) := by
  simp only [viewResizes, confirmedMain_agree reordered.agree]
  exact List.Perm.flatMap_left _ fun wnd _ => mainResizes_reordered reordered wnd

omit [Unicode] in
theorem descendantsFrom_reordered (reordered : first.Reordered second) (levels : Nat)
    (depth : Int) {level other : List Hwnd} (perm : other.Perm level) :
    (second.descendantsFrom levels depth other).Perm
      (first.descendantsFrom levels depth level) := by
  induction levels generalizing depth level other with
  | zero => exact List.Perm.refl _
  | succ levels ih =>
      exact (perm.map _).append
        (ih _ (perm.flatMap fun parent _ => reordered.children parent))

omit [Unicode] in
theorem findPopupMatches_reordered (reordered : first.Reordered second) (host : Hwnd) :
    (findPopupMatches second rules host false).Perm
      (findPopupMatches first rules host false) := by
  have descendants : (second.enumDescendants host rules.popupSearchDepth).Perm
      (first.enumDescendants host rules.popupSearchDepth) := by
    simp only [WindowGraph.enumDescendants, reordered.get]
    split
    · exact List.Perm.refl _
    · exact descendantsFrom_reordered reordered _ _ (reordered.children host)
  simp only [findPopupMatches, reordered.get]
  exact descendants.filterMap _

theorem mem_popupTargets_reordered (reordered : first.Reordered second) (hwnd : Hwnd) :
    hwnd ∈ popupTargets second rules ↔ hwnd ∈ popupTargets first rules := by
  simp only [mem_popupTargets, reordered.tops, confirmedMain_agree reordered.agree,
    (findPopupMatches_reordered reordered _).mem_iff]

/-- The verdicts of one host agree on whether they match, so their order does
not show in the states. -/
theorem hostVerdicts_matched {item : WindowNode} {verdict : WindowIdentity × AdDecision}
    (member : verdict ∈ hostVerdicts first rules item) :
    verdict.2.matched = (popupHostGuardStatus rules item.text item.textKnown == .allow) := by
  unfold hostVerdicts at member
  split at member
  · obtain ⟨found, _, inFound⟩ := List.mem_flatMap.mp member
    obtain ⟨node, _, rfl⟩ := List.mem_map.mp inFound
    cases popupHostGuardStatus rules item.text item.textKnown <;> rfl
  · cases member

theorem hostVerdicts_reordered (reordered : first.Reordered second) (item : WindowNode) :
    (hostVerdicts second rules item).Perm (hostVerdicts first rules item) := by
  simp only [hostVerdicts, confirmedMain_agree reordered.agree, reordered.get]
  split
  · exact (findPopupMatches_reordered reordered item.hwnd).flatMap_right _
  · exact List.Perm.refl _

omit [Unicode] in
/-- Two verdicts that both match, or both miss, can be stored in either order. -/
theorem storeUpdate_comm {left right : WindowIdentity × AdDecision}
    (same : left.2.matched = right.2.matched) (ticks : Int) (states : StateMap) :
    (storeUpdate (storeUpdate states left.1 left.2 ticks).1 right.1 right.2 ticks).1 =
      (storeUpdate (storeUpdate states right.1 right.2 ticks).1 left.1 left.2 ticks).1 := by
  by_cases own : left.1 = right.1
  · simp only [own, storeUpdate, updateCandidateState, same]
  · funext key
    by_cases atLeft : key = left.1
    · subst atLeft
      simp [storeUpdate, StateMap.insert, own]
    · by_cases atRight : key = right.1
      · subst atRight
        simp [storeUpdate, StateMap.insert, atLeft]
      · simp [storeUpdate, StateMap.insert, atLeft, atRight]

theorem storeAll_hostVerdicts_reordered (reordered : first.Reordered second) (item : WindowNode)
    (ticks : Int) (states : StateMap) :
    storeAll ticks states (hostVerdicts second rules item) =
      storeAll ticks states (hostVerdicts first rules item) := by
  refine (hostVerdicts_reordered reordered item).foldl_eq' ?_ states
  intro left inLeft right inRight current
  exact storeUpdate_comm
    ((hostVerdicts_matched inLeft).trans (hostVerdicts_matched inRight).symm) ticks current

theorem storeAll_popupVerdicts_reordered (reordered : first.Reordered second) (ticks : Int)
    (states : StateMap) :
    storeAll ticks states (popupVerdicts second rules) =
      storeAll ticks states (popupVerdicts first rules) := by
  simp only [popupVerdicts, reordered.tops, storeAll, List.foldl_flatMap]
  exact List.foldl_ext _ _ _ fun current item _ =>
    storeAll_hostVerdicts_reordered reordered item ticks current

theorem evaluate_states_reordered (reordered : first.Reordered second) (states : StateMap)
    (withCandidates : Bool) :
    (evaluateInner second settings rules states withCandidates).2 =
      (evaluateInner first settings rules states withCandidates).2 := by
  rw [evaluate_states, evaluate_states, storeAll_popupVerdicts_reordered reordered,
    recordAll_states_congr (visitsOf_reordered reordered false)]

-- The counters of the ledger phases are the lengths of the logged lists; those of the
-- popup phase count the retained windows that are shown, each once.
section Counters

omit [Unicode]

def MutationLog.counters (log : MutationLog) : EngineStatePayload where
  hiddenWindows := log.hidden
  closedWindows := log.closed
  resizedWindows := log.resized
  popupCloseRequests := log.popupCloseRequests
  popupHideFallbacks := log.popupHideFallbacks
  popupZeroSizeFallbacks := log.popupZeroSizeFallbacks

/-- What one retained popup adds to the counters. -/
def EngineStatePayload.countPopup (counters : EngineStatePayload) (shown : Bool) :
    EngineStatePayload :=
  if shown then
    { counters with
      hiddenWindows := counters.hiddenWindows + 1
      popupCloseRequests := counters.popupCloseRequests + 1
      popupHideFallbacks := counters.popupHideFallbacks + 1
      popupZeroSizeFallbacks := counters.popupZeroSizeFallbacks + 1 }
  else counters

theorem retainPopup_counters (log : MutationLog) (hwnd : Hwnd) (shown : Bool) :
    (log.retainPopup hwnd shown).counters = log.counters.countPopup shown := by
  cases shown <;> rfl

/-- The counters as the ledger phases leave them: each is the number of planned actions of
its kind. -/
structure MutationLog.Tallied (log : MutationLog) : Prop where
  counters : log.counters =
    { hiddenWindows := log.hide.length
      closedWindows := log.close.length
      resizedWindows := log.setPos.length }

theorem tallied_sendClose {log : MutationLog} (tallied : log.Tallied) (hwnd : Hwnd) :
    (log.sendClose hwnd).Tallied := by
  have before := tallied.counters
  simp only [MutationLog.counters, EngineStatePayload.mk.injEq] at before
  constructor
  simp [MutationLog.counters, MutationLog.sendClose, before]

theorem tallied_hideCounted {log : MutationLog} (tallied : log.Tallied) (hwnd : Hwnd) :
    (log.hideCounted hwnd).Tallied := by
  have before := tallied.counters
  simp only [MutationLog.counters, EngineStatePayload.mk.injEq] at before
  constructor
  simp [MutationLog.counters, MutationLog.hideCounted, MutationLog.hideWindow, before]

theorem tallied_resize {log : MutationLog} (tallied : log.Tallied) (hwnd : Hwnd)
    (x y width height : Int) : (log.resize hwnd x y width height).Tallied := by
  have before := tallied.counters
  simp only [MutationLog.counters, EngineStatePayload.mk.injEq] at before
  constructor
  simp [MutationLog.counters, MutationLog.resize, MutationLog.pushPos, before]

theorem tallied_hideIfAsked {log : MutationLog} (tallied : log.Tallied) (decision : AdDecision)
    (hwnd : Hwnd) : (hideIfAsked decision hwnd log).Tallied := by
  unfold hideIfAsked
  split
  · exact tallied_hideCounted tallied hwnd
  · exact tallied

theorem tallied_submit {state : ApplyState} (tallied : state.log.Tallied) (ticks : Int)
    (visit : Visit) {act : MutationLog → MutationLog} (acted : (act state.log).Tallied) :
    (state.submit ticks visit act).log.Tallied := by
  simp only [ApplyState.submit]
  split
  · exact acted
  · exact tallied

end Counters

omit [Unicode] in
theorem applyChild_tallied {state : ApplyState} (tallied : state.log.Tallied)
    (parentText : String) (parentRect : Rect) (hasAdSignal : Bool) (context : ChildContext) :
    (applyChild first settings rules parentText parentRect hasAdSignal state
      context).log.Tallied := by
  have closed : (applyEmptyEva first rules parentText hasAdSignal state context).log.Tallied := by
    unfold applyEmptyEva
    split
    · exact tallied
    · exact tallied_submit tallied _ _ (tallied_sendClose tallied _)
  have resized : (applyResize rules parentRect
      (applyEmptyEva first rules parentText hasAdSignal state context) context).log.Tallied := by
    unfold applyResize
    split
    · exact closed
    · exact tallied_resize closed _ _ _ _ _
  simp only [applyChild, applyAggressive]
  split
  · exact resized
  · exact tallied_submit resized _ _ (tallied_hideIfAsked resized _ _)

theorem applyMainWindow_tallied {state : ApplyState} (tallied : state.log.Tallied) (wnd : Hwnd) :
    (applyMainWindow first settings rules state wnd).log.Tallied := by
  unfold applyMainWindow
  split
  · exact tallied
  · split
    · exact tallied
    · split
      · exact tallied
      · exact List.foldlRecOn (motive := fun state : ApplyState => state.log.Tallied) _ _ tallied
          fun state kept context _ => applyChild_tallied kept _ _ _ context

theorem applyCandidate_tallied {state : ApplyState} (tallied : state.log.Tallied) (wnd : Hwnd) :
    (applyCandidate first rules state wnd).log.Tallied := by
  unfold applyCandidate
  split
  · exact tallied
  · split
    · exact tallied
    · split
      · exact tallied
      · exact tallied_submit tallied _ _ (tallied_hideIfAsked tallied _ _)

theorem applyLedger_tallied (graph : WindowGraph) (settings : LayoutSettings)
    (rules : LayoutRules) (confirmed candidates : List Hwnd) (states : StateMap) :
    (applyLedger graph settings rules confirmed candidates states).log.Tallied := by
  have mains : (confirmed.foldl (applyMainWindow graph settings rules)
      { log := {}, ledger := Ledger.opened states }).log.Tallied :=
    List.foldlRecOn (motive := fun state : ApplyState => state.log.Tallied) _ _ ⟨rfl⟩
      fun state kept wnd _ => applyMainWindow_tallied kept wnd
  exact List.foldlRecOn (motive := fun state : ApplyState => state.log.Tallied) _ _ mains
    fun state kept wnd _ => applyCandidate_tallied kept wnd

section Popups

omit [Unicode]

/-- The log after `order` was retained one after the other. -/
def retainAll (graph : WindowGraph) (log : MutationLog) (order : List Hwnd) : MutationLog :=
  order.foldl (fun log hwnd => log.retainPopup hwnd (shownIn graph hwnd)) log

theorem retainAll_setPos (graph : WindowGraph) (log : MutationLog) (order : List Hwnd) :
    (retainAll graph log order).setPos =
      log.setPos ++ order.map fun hwnd => [hwnd, 0, 0, 0, 0] := by
  induction order generalizing log with
  | nil => simp [retainAll]
  | cons hwnd rest ih =>
      have step : retainAll graph log (hwnd :: rest) =
        retainAll graph (log.retainPopup hwnd (shownIn graph hwnd)) rest := rfl
      rw [step, ih, MutationLog.retainPopup_setPos, List.map_cons, List.append_assoc,
        List.singleton_append]

theorem retainAll_counters (graph : WindowGraph) (log : MutationLog) (order : List Hwnd) :
    (retainAll graph log order).counters =
      order.foldl (fun counters hwnd => counters.countPopup (shownIn graph hwnd))
        log.counters := by
  induction order generalizing log with
  | nil => rfl
  | cons hwnd rest ih =>
      have step : retainAll graph log (hwnd :: rest) =
        retainAll graph (log.retainPopup hwnd (shownIn graph hwnd)) rest := rfl
      rw [step, ih, retainPopup_counters, List.foldl_cons]

theorem retainAll_counters_perm {graph : WindowGraph} {log : MutationLog}
    {order other : List Hwnd} (perm : other.Perm order) :
    (retainAll graph log other).counters = (retainAll graph log order).counters := by
  rw [retainAll_counters, retainAll_counters]
  refine perm.foldl_eq' (fun left _ right _ counters => ?_) _
  cases shownIn graph left <;> cases shownIn graph right <;> rfl

/-- The popup phase has retained the handled windows, each once. -/
def RetainedOnce (graph : WindowGraph) (start : MutationLog) (state : PopupState) : Prop :=
  ∃ order : List Hwnd, order.Nodup ∧ (∀ hwnd, hwnd ∈ state.handled ↔ hwnd ∈ order) ∧
    state.log = retainAll graph start order

theorem RetainedOnce.retainOnce {graph : WindowGraph} {start : MutationLog} {state : PopupState}
    (retained : RetainedOnce graph start state) (hwnd : Hwnd) :
    RetainedOnce graph start (state.retainOnce hwnd (shownIn graph hwnd)) := by
  obtain ⟨order, nodup, handled, log⟩ := retained
  unfold PopupState.retainOnce
  split
  · exact ⟨order, nodup, handled, log⟩
  · rename_i fresh
    refine ⟨order ++ [hwnd], ?_, ?_, ?_⟩
    · rw [List.nodup_append]
      refine ⟨nodup, List.nodup_singleton _, ?_⟩
      intro other listed last isLast
      rw [List.mem_singleton.mp isLast]
      rintro rfl
      exact fresh ((handled other).mpr listed)
    · intro other
      rw [Finset.mem_insert, handled, List.mem_append, List.mem_singleton, or_comm]
    · simp only [retainAll, List.foldl_append, List.foldl_cons, List.foldl_nil]
      rw [log, retainAll]

theorem RetainedOnce.applyPopupMatch {graph : WindowGraph} {start : MutationLog}
    {state : PopupState} {item : WindowNode} (retained : RetainedOnce graph start state)
    (rules : LayoutRules) (top : item ∈ collectTopLevel graph) (guard : PopupGuard)
    (found : Hwnd × Int × String) :
    RetainedOnce graph start (applyPopupMatch graph rules item guard state found) := by
  obtain ⟨child, depth, className⟩ := found
  have hostShown : item.visible = shownIn graph item.hwnd := by
    simp [shownIn, (mem_collectTopLevel.mp top).1]
  have stored : ∀ decision, RetainedOnce graph start
      (state.storeChild graph rules.weakSignalConfirmTicks decision child) := by
    intro decision
    unfold PopupState.storeChild
    split <;> exact retained
  simp only [Core.applyPopupMatch]
  split
  · exact stored _
  · rw [hostShown]
    exact ((stored _).retainOnce item.hwnd).retainOnce child

end Popups

theorem RetainedOnce.applyPopupHost {graph : WindowGraph} {start : MutationLog}
    {state : PopupState} {item : WindowNode} (retained : RetainedOnce graph start state)
    (rules : LayoutRules) (top : item ∈ collectTopLevel graph) (confirmed : List Hwnd) :
    RetainedOnce graph start (applyPopupHost graph rules confirmed state item) := by
  unfold Core.applyPopupHost
  split
  · exact List.foldlRecOn (motive := RetainedOnce graph start) _ _ retained
      fun state kept found _ => kept.applyPopupMatch rules top _ found
  · exact retained

/-- The log of `apply_once`: the ledger phases, then the popup targets. -/
theorem applyOnce_log (graph : WindowGraph) (settings : LayoutSettings) (rules : LayoutRules)
    (states : StateMap) :
    ∃ order : List Hwnd, order.Nodup ∧ (∀ hwnd, hwnd ∈ order ↔ hwnd ∈ popupTargets graph rules) ∧
      (applyOnce graph settings rules (confirmedMain graph rules)
        (candidateHandles graph rules (confirmedMain graph rules)) states).1 =
      retainAll graph (applyLedger graph settings rules (confirmedMain graph rules)
        (candidateHandles graph rules (confirmedMain graph rules)) states).log order := by
  let ledger := applyLedger graph settings rules (confirmedMain graph rules)
    (candidateHandles graph rules (confirmedMain graph rules)) states
  let opened : PopupState := { log := ledger.log, states := ledger.ledger.states, handled := ∅ }
  have retained : RetainedOnce graph ledger.log ((collectTopLevel graph).foldl
      (applyPopupHost graph rules (confirmedMain graph rules)) opened) :=
    List.foldlRecOn (motive := RetainedOnce graph ledger.log) _ _
      ⟨[], List.nodup_nil, by simp [opened], rfl⟩
      fun state kept item top => kept.applyPopupHost rules top _
  obtain ⟨order, nodup, handled, log⟩ := retained
  refine ⟨order, nodup, fun hwnd => ?_, log⟩
  rw [← handled, (applyPopupHosts_retained graph rules opened).handled]
  simp [opened]

/-- Two evaluations with the same verdicts; the planned places may come in
another order. -/
structure Evaluation.SameVerdicts (first second : Evaluation) : Prop where
  hide : second.actions.hide = first.actions.hide
  close : second.actions.close = first.actions.close
  setPos : second.actions.setPos.Perm first.actions.setPos
  state : second.state = first.state

theorem evaluate_hide_reordered (reordered : first.Reordered second) (states : StateMap)
    (withCandidates : Bool) :
    (evaluateInner second settings rules states withCandidates).1.actions.hide =
      (evaluateInner first settings rules states withCandidates).1.actions.hide := by
  refine Data.uniqueSorted_congr fun hwnd => ?_
  refine ((applyOnce_effect second settings rules states).1 hwnd).trans
    (Iff.trans ?_ ((applyOnce_effect first settings rules states).1 hwnd).symm)
  simp only [mem_popupTargets_reordered reordered, hideTargets, List.mem_map, List.mem_filter,
    (decidedVisits_reordered reordered states).mem_iff]

theorem evaluate_close_reordered (reordered : first.Reordered second) (states : StateMap)
    (withCandidates : Bool) :
    (evaluateInner second settings rules states withCandidates).1.actions.close =
      (evaluateInner first settings rules states withCandidates).1.actions.close := by
  refine Data.uniqueSorted_congr fun hwnd => ?_
  refine ((applyOnce_effect second settings rules states).2.1 hwnd).trans
    (Iff.trans ?_ ((applyOnce_effect first settings rules states).2.1 hwnd).symm)
  simp only [mem_popupTargets_reordered reordered, closeTargets, List.mem_map, List.mem_filter,
    shownIn, reordered.get, (decidedVisits_reordered reordered states).mem_iff]

/-- The lengths and the planned places that the ledger phases log. -/
theorem applyLedger_counters_reordered (settings : LayoutSettings) (rules : LayoutRules)
    (reordered : first.Reordered second) (states : StateMap) :
    let logOf := fun graph => (applyLedger graph settings rules (confirmedMain graph rules)
      (candidateHandles graph rules (confirmedMain graph rules)) states).log
    (logOf second).counters = (logOf first).counters ∧
      (logOf second).setPos.Perm (logOf first).setPos := by
  intro logOf
  have applied := applyLedger_applied first settings rules states
  have appliedSecond := applyLedger_applied second settings rules states
  have decided : (decidedVisits second settings rules states).Perm
      (decidedVisits first settings rules states) := decidedVisits_reordered reordered states
  have hide : (logOf second).hide.length = (logOf first).hide.length := by
    simp only [logOf, applied.hide, appliedSecond.hide]
    exact (((decided.filter _).map _).append_left _).length_eq
  have close : (logOf second).close.length = (logOf first).close.length := by
    simp only [logOf, applied.close, appliedSecond.close]
    exact (((decided.filter _).map _).append_left _).length_eq
  have places : (logOf second).setPos.Perm (logOf first).setPos := by
    simp only [logOf, applied.setPos, appliedSecond.setPos]
    exact (viewResizes_reordered reordered).append_left _
  refine ⟨?_, places⟩
  have tallied := fun graph => (applyLedger_tallied graph settings rules
    (confirmedMain graph rules) (candidateHandles graph rules (confirmedMain graph rules))
    states).counters
  simp only [logOf] at hide close places ⊢
  rw [tallied, tallied, hide, close, places.length_eq]

/-- The counters and the planned places of a whole evaluation. -/
theorem applyOnce_reordered (settings : LayoutSettings) (rules : LayoutRules)
    (reordered : first.Reordered second) (states : StateMap) :
    let logOf := fun graph => (applyOnce graph settings rules (confirmedMain graph rules)
      (candidateHandles graph rules (confirmedMain graph rules)) states).1
    (logOf second).counters = (logOf first).counters ∧
      (logOf second).setPos.Perm (logOf first).setPos := by
  intro logOf
  obtain ⟨order, nodup, targets, log⟩ := applyOnce_log first settings rules states
  obtain ⟨other, otherNodup, otherTargets, otherLog⟩ := applyOnce_log second settings rules states
  have perm : other.Perm order := by
    rw [List.perm_ext_iff_of_nodup otherNodup nodup]
    intro hwnd
    rw [otherTargets, targets, mem_popupTargets_reordered reordered]
  obtain ⟨counters, places⟩ := applyLedger_counters_reordered settings rules reordered states
  have shown : shownIn second = shownIn first := by
    funext hwnd
    simp only [shownIn, reordered.get]
  simp only [logOf, log, otherLog]
  constructor
  · rw [retainAll_counters, counters, shown, ← retainAll_counters, retainAll_counters_perm perm]
  · rw [retainAll_setPos, retainAll_setPos]
    exact places.append (perm.map _)

theorem evaluate_reordered (reordered : first.Reordered second) (states : StateMap)
    (withCandidates : Bool) :
    (evaluateInner first settings rules states withCandidates).1.SameVerdicts
      (evaluateInner second settings rules states withCandidates).1 := by
  obtain ⟨counters, places⟩ := applyOnce_reordered settings rules reordered states
  refine ⟨evaluate_hide_reordered reordered states withCandidates,
    evaluate_close_reordered reordered states withCandidates, places, ?_⟩
  simp only [MutationLog.counters, EngineStatePayload.mk.injEq, true_and] at counters
  obtain ⟨hidden, closed, resized, requests, hides, sizes⟩ := counters
  simp only [evaluateInner, confirmedMain_agree reordered.agree,
    inspectMainWindows_agree reordered.agree] at hidden closed resized requests hides sizes ⊢
  rw [hidden, closed, resized, requests, hides, sizes]

/-- A step of a run, with the same settings and the children in another order. -/
structure EvaluationStep.Reordered (first second : EvaluationStep) : Prop where
  settings : second.settings = first.settings
  graph : first.graph.Reordered second.graph

/-- The order of siblings shows in no verdict, no counter and no candidate state,
in one evaluation and over any run; no shape of the graphs is assumed. -/
theorem sibling_order_irrelevant (rules : LayoutRules) (withCandidates : Bool) :
    (∀ (first second : WindowGraph) (settings : LayoutSettings) (states : StateMap),
      first.Reordered second →
      (evaluateInner first settings rules states withCandidates).1.SameVerdicts
          (evaluateInner second settings rules states withCandidates).1 ∧
        (evaluateInner second settings rules states withCandidates).2 =
          (evaluateInner first settings rules states withCandidates).2) ∧
    ∀ (steps others : List EvaluationStep) (states : StateMap),
      List.Forall₂ EvaluationStep.Reordered steps others →
      List.Forall₂ Evaluation.SameVerdicts (evaluations rules withCandidates states steps).1
          (evaluations rules withCandidates states others).1 ∧
        (evaluations rules withCandidates states others).2 =
          (evaluations rules withCandidates states steps).2 := by
  refine ⟨fun _ _ settings states reordered => ⟨evaluate_reordered reordered states _,
    evaluate_states_reordered reordered states _⟩, ?_⟩
  intro steps others states reordered
  induction reordered generalizing states with
  | nil => exact ⟨List.Forall₂.nil, rfl⟩
  | @cons step other rest otherRest head _ ih =>
      have verdicts :
          (evaluateInner step.graph step.settings rules states withCandidates).1.SameVerdicts
            (evaluateInner other.graph step.settings rules states withCandidates).1 :=
        evaluate_reordered head.graph states withCandidates
      have after : (evaluateInner other.graph step.settings rules states withCandidates).2 =
          (evaluateInner step.graph step.settings rules states withCandidates).2 :=
        evaluate_states_reordered head.graph states withCandidates
      have later := ih (evaluateInner step.graph step.settings rules states withCandidates).2
      simp only [evaluations, head.settings, after]
      exact ⟨List.Forall₂.cons verdicts later.1, later.2⟩

omit [Unicode]

/-- A main window with its view and an ad banner. -/
def bannerGraph : WindowGraph where
  pids := [100]
  nodes :=
    [{ hwnd := 1, pid := 100, className := "EVA_Window_Dblclk", title := .known "KakaoTalk",
       structuralParent := none, owner := none, rect := some ⟨0, 0, 400, 640⟩, visible := true },
     { hwnd := 2, pid := 100, className := "EVA_ChildWindow", title := .known "OnlineMainView_1",
       structuralParent := some 1, owner := none, rect := some ⟨0, 0, 398, 609⟩, visible := true },
     { hwnd := 3, pid := 100, className := "EVA_ChildWindow", title := .known "",
       structuralParent := some 1, owner := none, rect := some ⟨0, 540, 400, 640⟩,
       visible := true },
     { hwnd := 4, pid := 100, className := "Chrome_WidgetWin_1", title := .known "Advertisement",
       structuralParent := some 1, owner := none, rect := some ⟨0, 540, 400, 640⟩,
       visible := true }]
  children hwnd := if hwnd = 1 then [2, 3, 4] else []
  keyed := by decide

theorem bannerGraph_reordered : bannerGraph.Reordered (bannerGraph.setChildren 1 [4, 2, 3]) where
  pids := rfl
  get := rfl
  children parent := by
    simp only [WindowGraph.setChildren, bannerGraph]
    split
    · decide
    · exact List.Perm.refl _

/-- Raising the banner above its siblings leaves the verdicts as they are. -/
theorem bannerGraph_same_verdicts :
    let _ := asciiLowercase
    (evaluateInner bannerGraph {} .default StateMap.empty false).1.SameVerdicts
      (evaluateInner (bannerGraph.setChildren 1 [4, 2, 3]) {} .default StateMap.empty false).1 :=
  let _ := asciiLowercase
  ((sibling_order_irrelevant .default false).1 _ _ {} StateMap.empty bannerGraph_reordered).1

end LayoutAdblock.Core
