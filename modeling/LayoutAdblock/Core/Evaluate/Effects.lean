import LayoutAdblock.Core.Evaluate.Visits
import LayoutAdblock.Data.Effect

namespace LayoutAdblock.Core

variable [Unicode] [Counting]

/-- The effect of submitting `visits` and planning `resizes`: the ledger has recorded every
visit, and the confirmed ones are hidden or closed, in the order in which they came. -/
structure Applied (ticks : Int) (before : ApplyState) (visits : List Visit)
    (resizes : List (List Int)) (after : ApplyState) : Prop where
  ledger : after.ledger = before.ledger.recordAll ticks visits
  hide : after.log.hide =
    before.log.hide ++ hideTargets (Ledger.confirmedVisits ticks before.ledger visits)
  close : after.log.close =
    before.log.close ++ closeTargets (Ledger.confirmedVisits ticks before.ledger visits)
  setPos : after.log.setPos = before.log.setPos ++ resizes
  shown : after.log.«show» = before.log.«show»

namespace Applied

omit [Unicode]

theorem refl (ticks : Int) (state : ApplyState) : Applied ticks state [] [] state := by
  constructor <;> simp [Ledger.confirmedVisits, Ledger.storedVisits, hideTargets, closeTargets]

theorem trans {ticks : Int} {before middle after : ApplyState} {first second : List Visit}
    {firstResizes secondResizes : List (List Int)}
    (left : Applied ticks before first firstResizes middle)
    (right : Applied ticks middle second secondResizes after) :
    Applied ticks before (first ++ second) (firstResizes ++ secondResizes) after where
  ledger := by rw [right.ledger, left.ledger, Ledger.recordAll_append]
  hide := by
    rw [right.hide, left.hide, Ledger.confirmedVisits_append, hideTargets_append, left.ledger,
      List.append_assoc]
  close := by
    rw [right.close, left.close, Ledger.confirmedVisits_append, closeTargets_append, left.ledger,
      List.append_assoc]
  setPos := by rw [right.setPos, left.setPos, List.append_assoc]
  shown := by rw [right.shown, left.shown]

theorem composes (ticks : Int) :
    Data.Composes fun before visits resizes after => Applied ticks before visits resizes after :=
  ⟨refl ticks, trans⟩

/-- Submitting one visit whose confirmed action is carried out by `act`. -/
theorem submit {ticks : Int} {state : ApplyState} {visit : Visit}
    {act : MutationLog → MutationLog}
    (hide : visit.decision.matched = true →
      (act state.log).hide = state.log.hide ++ hideTargets [visit])
    (close : visit.decision.matched = true →
      (act state.log).close = state.log.close ++ closeTargets [visit])
    (setPos : (act state.log).setPos = state.log.setPos)
    (shown : (act state.log).«show» = state.log.«show») :
    Applied ticks state [visit] [] (state.submit ticks visit act) := by
  have single := Ledger.confirmedVisits_singleton ticks state.ledger visit
  rw [← Ledger.record_confirmed] at single
  unfold ApplyState.submit
  by_cases acted : (state.ledger.record ticks visit).2.any Prod.snd = true
  · have matched : visit.decision.matched = true := by
      rw [Ledger.record_confirmed, confirmedAt, Bool.and_eq_true] at acted
      exact acted.1
    simp only [acted, if_true] at single ⊢
    exact ⟨rfl, by rw [single]; exact hide matched, by rw [single]; exact close matched,
      by simpa using setPos, shown⟩
  · simp only [acted] at single ⊢
    constructor <;> simp [single, hideTargets, closeTargets]

end Applied

omit [Unicode] in
theorem applyEmptyEva_applied (graph : WindowGraph) (rules : LayoutRules) (parentText : String)
    (hasAdSignal : Bool) (state : ApplyState) (context : ChildContext) :
    Applied rules.weakSignalConfirmTicks state
      (closeVisit graph rules parentText hasAdSignal context).toList []
      (applyEmptyEva graph rules parentText hasAdSignal state context) := by
  unfold applyEmptyEva
  cases shape : closeVisit graph rules parentText hasAdSignal context with
  | none => exact Applied.refl _ state
  | some visit =>
      obtain ⟨_, rfl⟩ := closeVisit_eq_some.mp shape
      refine Applied.submit ?_ ?_ rfl rfl
      · intro matched
        simp only at matched
        simp [hideTargets, emptyEvaCloseDecision_action, matched]
      · intro matched
        simp only at matched
        simp [closeTargets, emptyEvaCloseDecision_action, matched]

omit [Unicode] in
theorem applyResize_applied (rules : LayoutRules) (parentRect : Rect) (state : ApplyState)
    (context : ChildContext) :
    Applied rules.weakSignalConfirmTicks state [] (childResizes rules parentRect context)
      (applyResize rules parentRect state context) := by
  unfold applyResize childResizes
  cases plannedViewResize rules context.windowText parentRect context.currentRect with
  | none => exact Applied.refl _ state
  | some planned =>
      constructor <;>
        simp [Ledger.confirmedVisits, Ledger.storedVisits, hideTargets, closeTargets]

omit [Unicode] in
/-- A visit of a hiding rule, submitted with the hide its action asks for. -/
theorem submit_hideIfAsked (ticks : Int) (state : ApplyState) (visit : Visit)
    (hides : visit.decision.action = if visit.decision.matched then .hide else .none) :
    Applied ticks state [visit] []
      (state.submit ticks visit (hideIfAsked visit.decision visit.hwnd)) := by
  refine Applied.submit ?_ ?_ ?_ ?_
  · intro matched
    simp [hideIfAsked, hides, matched, hideTargets]
  · intro matched
    simp [hideIfAsked, hides, matched, closeTargets]
  · unfold hideIfAsked
    split <;> rfl
  · unfold hideIfAsked
    split <;> rfl

omit [Unicode] in
theorem applyAggressive_applied (settings : LayoutSettings) (rules : LayoutRules)
    (state : ApplyState) (context : ChildContext)
    (hides : context.aggressiveDecision.action =
      if context.aggressiveDecision.matched then .hide else .none) :
    Applied rules.weakSignalConfirmTicks state (aggressiveVisit settings false context).toList []
      (applyAggressive settings rules state context) := by
  unfold applyAggressive
  cases shape : aggressiveVisit settings false context with
  | none => exact Applied.refl _ state
  | some visit =>
      obtain ⟨_, rfl⟩ := aggressiveVisit_eq_some.mp shape
      exact submit_hideIfAsked rules.weakSignalConfirmTicks state _ hides

theorem applyChild_applied {graph : WindowGraph} {settings : LayoutSettings}
    {rules : LayoutRules} {wnd : Hwnd} {parentRect : Rect} {context : ChildContext}
    (member : context ∈ childContexts graph settings rules wnd parentRect)
    (parentText : String) (hasAdSignal : Bool) (state : ApplyState) :
    Applied rules.weakSignalConfirmTicks state
      (childVisits graph settings rules false parentText hasAdSignal context)
      (childResizes rules parentRect context)
      (applyChild graph settings rules parentText parentRect hasAdSignal state context) := by
  have hides : context.aggressiveDecision.action =
      if context.aggressiveDecision.matched then .hide else .none := by
    obtain ⟨_, _, _, _, _, _, _, _, decided, _, _⟩ :=
      childContext_eq_some (mem_childContexts member).2
    rw [decided]
    exact childAggressiveDecision_action ..
  have closed := applyEmptyEva_applied graph rules parentText hasAdSignal state context
  have resized := applyResize_applied rules parentRect
    (applyEmptyEva graph rules parentText hasAdSignal state context) context
  have hidden := applyAggressive_applied settings rules
    (applyResize rules parentRect
      (applyEmptyEva graph rules parentText hasAdSignal state context) context) context hides
  simpa [childVisits, applyChild] using (closed.trans resized).trans hidden

theorem applyMainWindow_applied {graph : WindowGraph} {rules : LayoutRules} {wnd : Hwnd}
    (settings : LayoutSettings) (confirmed : wnd ∈ confirmedMain graph rules)
    (state : ApplyState) :
    Applied rules.weakSignalConfirmTicks state (mainVisits graph settings rules false wnd)
      (mainResizes graph settings rules wnd)
      (applyMainWindow graph settings rules state wnd) := by
  obtain ⟨node, top, rfl, _, _⟩ := mem_confirmedMain.mp confirmed
  obtain ⟨found, _, listed⟩ := mem_collectTopLevel.mp top
  unfold applyMainWindow mainVisits mainResizes mainContexts
  cases rect : node.rect with
  | none => simpa [found, rect, listed] using Applied.refl _ state
  | some parentRect =>
      simp only [found, Option.bind_some, rect, Option.map_some, List.contains_iff_mem.mpr listed,
        Bool.not_true, Bool.false_eq_true, if_false]
      exact (Applied.composes _).foldl (fun context member current =>
        applyChild_applied member node.text _ current) state

theorem applyCandidate_applied {graph : WindowGraph} {rules : LayoutRules} {wnd : Hwnd}
    (candidate : wnd ∈ candidateHandles graph rules (confirmedMain graph rules))
    (state : ApplyState) :
    Applied rules.weakSignalConfirmTicks state (legacyVisit graph rules false wnd).toList []
      (applyCandidate graph rules state wnd) := by
  obtain ⟨node, top, rfl, _, _⟩ := mem_candidateHandles.mp candidate
  obtain ⟨found, _, listed⟩ := mem_collectTopLevel.mp top
  unfold applyCandidate legacyVisit
  simp only [found, List.contains_iff_mem.mpr listed, Bool.not_true, Bool.false_eq_true, if_false,
    Option.map_some, Option.toList_some]
  exact submit_hideIfAsked rules.weakSignalConfirmTicks state
    { hwnd := node.hwnd
      identity := node.identity
      decision := legacyHideDecision (legacySignatureKind graph rules node.hwnd)
      tracksSignal := false }
    (legacyHideDecision_action _)

/-- The ledger phases submit exactly the listed visits and plan exactly the
listed resizes. -/
theorem applyLedger_applied (graph : WindowGraph) (settings : LayoutSettings)
    (rules : LayoutRules) (states : StateMap) :
    Applied rules.weakSignalConfirmTicks { log := {}, ledger := Ledger.opened states }
      (ledgerVisits graph settings rules false) (viewResizes graph settings rules)
      (applyLedger graph settings rules (confirmedMain graph rules)
        (candidateHandles graph rules (confirmedMain graph rules)) states) := by
  have mains := (Applied.composes _).foldl
    (fun wnd (confirmed : wnd ∈ confirmedMain graph rules) current =>
      applyMainWindow_applied settings confirmed current)
    { log := {}, ledger := Ledger.opened states }
  have legacies := (Applied.composes _).foldl
    (fun wnd (candidate : wnd ∈ candidateHandles graph rules (confirmedMain graph rules))
      current => applyCandidate_applied candidate current)
    ((confirmedMain graph rules).foldl (applyMainWindow graph settings rules)
      { log := {}, ledger := Ledger.opened states })
  have both := mains.trans legacies
  rw [Data.flatMap_nothing, List.append_nil] at both
  simpa [ledgerVisits, viewResizes, applyLedger, List.filterMap_eq_flatMap_toList] using both

/-- What the log holds beyond `start`: the handled windows are hidden and
zero-sized, and the shown ones among them are asked to close. -/
structure PopupLog (graph : WindowGraph) (start : MutationLog) (state : PopupState) : Prop where
  hide : ∀ hwnd, hwnd ∈ state.log.hide ↔ hwnd ∈ start.hide ∨ hwnd ∈ state.handled
  close : ∀ hwnd, hwnd ∈ state.log.close ↔
    hwnd ∈ start.close ∨ (hwnd ∈ state.handled ∧ shownIn graph hwnd = true)
  setPos : ∀ entry, entry ∈ state.log.setPos ↔
    entry ∈ start.setPos ∨ ∃ hwnd ∈ state.handled, entry = [hwnd, 0, 0, 0, 0]
  shown : state.log.«show» = start.«show»

/-- The effect of retaining `targets` and storing `verdicts`: the targets count as handled,
and each verdict is stored on its own, without the ledger. -/
structure Retained (graph : WindowGraph) (ticks : Int) (before : PopupState)
    (targets : List Hwnd) (verdicts : List (WindowIdentity × AdDecision))
    (after : PopupState) : Prop where
  handled : ∀ hwnd, hwnd ∈ after.handled ↔ hwnd ∈ before.handled ∨ hwnd ∈ targets
  log : ∀ start, PopupLog graph start before → PopupLog graph start after
  states : after.states = storeAll ticks before.states verdicts

namespace Retained

omit [Unicode]

theorem refl (graph : WindowGraph) (ticks : Int) (state : PopupState) :
    Retained graph ticks state [] [] state where
  handled hwnd := by simp
  log _ kept := kept
  states := rfl

theorem trans {graph : WindowGraph} {ticks : Int} {before middle after : PopupState}
    {first second : List Hwnd} {firstVerdicts secondVerdicts : List (WindowIdentity × AdDecision)}
    (left : Retained graph ticks before first firstVerdicts middle)
    (right : Retained graph ticks middle second secondVerdicts after) :
    Retained graph ticks before (first ++ second) (firstVerdicts ++ secondVerdicts) after where
  handled hwnd := by rw [right.handled, left.handled, List.mem_append, or_assoc]
  log start kept := right.log start (left.log start kept)
  states := by rw [right.states, left.states, storeAll, storeAll, storeAll, List.foldl_append]

theorem composes (graph : WindowGraph) (ticks : Int) :
    Data.Composes fun before targets verdicts after =>
      Retained graph ticks before targets verdicts after :=
  ⟨refl graph ticks, trans⟩

theorem retainOnce {graph : WindowGraph} (ticks : Int) (state : PopupState) (hwnd : Hwnd) :
    Retained graph ticks state [hwnd] [] (state.retainOnce hwnd (shownIn graph hwnd)) := by
  unfold PopupState.retainOnce
  split
  · rename_i member
    refine ⟨?_, fun _ kept => kept, rfl⟩
    intro other
    constructor
    · exact Or.inl
    · rintro (handled | same)
      · exact handled
      · rwa [List.mem_singleton.mp same]
  · refine ⟨?_, ?_, rfl⟩
    · intro other
      simp [or_comm]
    · intro start kept
      constructor
      · intro other
        simp only [MutationLog.retainPopup_hide, List.mem_append, kept.hide, List.mem_singleton,
          Finset.mem_insert]
        tauto
      · intro other
        by_cases same : other = hwnd
        · subst same
          cases visible : shownIn graph other <;> simp [kept.close, visible]
        · cases visible : shownIn graph hwnd <;> simp [kept.close, same]
      · intro entry
        simp only [MutationLog.retainPopup_setPos, List.mem_append, kept.setPos,
          List.mem_singleton, Finset.mem_insert, exists_eq_or_imp, or_assoc]
        exact or_congr Iff.rfl or_comm
      · rw [← kept.shown]
        cases visible : shownIn graph hwnd <;> rfl

end Retained

omit [Unicode] in
theorem storeChild_retained (graph : WindowGraph) (ticks : Int) (decision : AdDecision)
    (child : Hwnd) (state : PopupState) :
    Retained graph ticks state []
      ((graph.get child).toList.map fun node => (node.identity, decision))
      (state.storeChild graph ticks decision child) := by
  unfold PopupState.storeChild
  cases graph.get child with
  | none => exact Retained.refl graph ticks state
  | some node =>
      refine ⟨by simp, ?_, rfl⟩
      rintro start ⟨hide, close, setPos, shown⟩
      exact ⟨hide, close, setPos, shown⟩

omit [Unicode] in
theorem applyPopupMatch_retained {graph : WindowGraph} {item : WindowNode}
    (rules : LayoutRules) (top : item ∈ collectTopLevel graph) (guard : PopupGuard)
    (found : Hwnd × Int × String) (state : PopupState) :
    Retained graph rules.weakSignalConfirmTicks state
      (if guard = .allow then [item.hwnd, found.1] else [])
      ((graph.get found.1).toList.map fun node =>
        (node.identity, popupDismissDecision guard found.2.1))
      (applyPopupMatch graph rules item guard state found) := by
  obtain ⟨child, depth, className⟩ := found
  have hostShown : item.visible = shownIn graph item.hwnd := by
    simp [shownIn, (mem_collectTopLevel.mp top).1]
  have stored := storeChild_retained graph rules.weakSignalConfirmTicks
    (popupDismissDecision guard depth) child state
  by_cases allowed : guard = .allow
  · have host := stored.trans (Retained.retainOnce rules.weakSignalConfirmTicks _ item.hwnd)
    have both := host.trans (Retained.retainOnce rules.weakSignalConfirmTicks _ child)
    simpa [applyPopupMatch, allowed, hostShown, shownIn] using both
  · simpa [applyPopupMatch, allowed] using stored

theorem applyPopupHost_retained {graph : WindowGraph} {item : WindowNode}
    (rules : LayoutRules) (top : item ∈ collectTopLevel graph) (state : PopupState) :
    Retained graph rules.weakSignalConfirmTicks state (hostTargets graph rules item)
      (hostVerdicts graph rules item)
      (applyPopupHost graph rules (confirmedMain graph rules) state item) := by
  unfold applyPopupHost hostTargets hostVerdicts
  have matches_ := (Retained.composes graph rules.weakSignalConfirmTicks).foldl
    (fun found (_ : found ∈ findPopupMatches graph rules item.hwnd false) current =>
      applyPopupMatch_retained rules top
        (popupHostGuardStatus rules item.text item.textKnown) found current) state
  by_cases host : isPopupHost (confirmedMain graph rules) item = true
  · by_cases allowed : popupHostGuardStatus rules item.text item.textKnown = .allow
    · simpa [host, allowed] using matches_
    · simpa [host, allowed, Data.flatMap_nothing] using matches_
  · simpa [host] using Retained.refl graph rules.weakSignalConfirmTicks state

theorem applyPopupHosts_retained (graph : WindowGraph) (rules : LayoutRules)
    (state : PopupState) :
    Retained graph rules.weakSignalConfirmTicks state (popupTargets graph rules)
      (popupVerdicts graph rules)
      ((collectTopLevel graph).foldl
        (applyPopupHost graph rules (confirmedMain graph rules)) state) :=
  (Retained.composes graph rules.weakSignalConfirmTicks).foldl
    (fun _ top current => applyPopupHost_retained rules top current) state

/-- The log and the states of `apply_once`. -/
theorem applyOnce_effect (graph : WindowGraph) (settings : LayoutSettings) (rules : LayoutRules)
    (states : StateMap) :
    let applied := applyOnce graph settings rules (confirmedMain graph rules)
      (candidateHandles graph rules (confirmedMain graph rules)) states
    (∀ hwnd, hwnd ∈ applied.1.hide ↔
      hwnd ∈ hideTargets (decidedVisits graph settings rules states) ∨
        hwnd ∈ popupTargets graph rules) ∧
    (∀ hwnd, hwnd ∈ applied.1.close ↔
      hwnd ∈ closeTargets (decidedVisits graph settings rules states) ∨
        (hwnd ∈ popupTargets graph rules ∧ shownIn graph hwnd = true)) ∧
    (∀ entry, entry ∈ applied.1.setPos ↔
      entry ∈ viewResizes graph settings rules ∨
        ∃ hwnd ∈ popupTargets graph rules, entry = [hwnd, 0, 0, 0, 0]) ∧
    applied.1.«show» = [] ∧
    applied.2 = storeAll rules.weakSignalConfirmTicks
      ((Ledger.opened states).recordAll rules.weakSignalConfirmTicks
        (ledgerVisits graph settings rules false)).states (popupVerdicts graph rules) := by
  intro applied
  have ledger := applyLedger_applied graph settings rules states
  have popups := applyPopupHosts_retained graph rules
    { log := (applyLedger graph settings rules (confirmedMain graph rules)
        (candidateHandles graph rules (confirmedMain graph rules)) states).log
      states := (applyLedger graph settings rules (confirmedMain graph rules)
        (candidateHandles graph rules (confirmedMain graph rules)) states).ledger.states
      handled := ∅ }
  have kept := popups.log _ ⟨by simp, by simp, by simp, rfl⟩
  have targets := popups.handled
  simp only [Finset.notMem_empty, false_or] at targets
  refine ⟨?_, ?_, ?_, ?_, ?_⟩
  · intro hwnd
    refine (kept.hide hwnd).trans (or_congr ?_ (targets hwnd))
    simp [ledger.hide, decidedVisits]
  · intro hwnd
    refine (kept.close hwnd).trans (or_congr ?_ (and_congr_left fun _ => targets hwnd))
    simp [ledger.close, decidedVisits]
  · intro entry
    refine (kept.setPos entry).trans (or_congr ?_ ?_)
    · simp [ledger.setPos]
    · exact exists_congr fun hwnd => and_congr_left fun _ => targets hwnd
  · exact kept.shown.trans ledger.shown
  · refine popups.states.trans ?_
    simp only [ledger.ledger]

theorem mem_evaluate_hide {graph : WindowGraph} {settings : LayoutSettings}
    {rules : LayoutRules} {states : StateMap} {withCandidates : Bool} {hwnd : Hwnd} :
    hwnd ∈ (evaluateInner graph settings rules states withCandidates).1.actions.hide ↔
      hwnd ∈ hideTargets (decidedVisits graph settings rules states) ∨
        hwnd ∈ popupTargets graph rules :=
  Data.mem_uniqueSorted.trans ((applyOnce_effect graph settings rules states).1 hwnd)

theorem mem_evaluate_close {graph : WindowGraph} {settings : LayoutSettings}
    {rules : LayoutRules} {states : StateMap} {withCandidates : Bool} {hwnd : Hwnd} :
    hwnd ∈ (evaluateInner graph settings rules states withCandidates).1.actions.close ↔
      hwnd ∈ closeTargets (decidedVisits graph settings rules states) ∨
        (hwnd ∈ popupTargets graph rules ∧ shownIn graph hwnd = true) :=
  Data.mem_uniqueSorted.trans ((applyOnce_effect graph settings rules states).2.1 hwnd)

theorem mem_evaluate_setPos {graph : WindowGraph} {settings : LayoutSettings}
    {rules : LayoutRules} {states : StateMap} {withCandidates : Bool} {entry : List Int} :
    entry ∈ (evaluateInner graph settings rules states withCandidates).1.actions.setPos ↔
      entry ∈ viewResizes graph settings rules ∨
        ∃ hwnd ∈ popupTargets graph rules, entry = [hwnd, 0, 0, 0, 0] :=
  (applyOnce_effect graph settings rules states).2.2.1 entry

/-- Only the popup dismissal plans a size of zero. -/
theorem evaluate_zeroSized {graph : WindowGraph} {settings : LayoutSettings}
    {rules : LayoutRules} {states : StateMap} {withCandidates : Bool} {hwnd : Hwnd} :
    (evaluateInner graph settings rules states withCandidates).1.actions.zeroSized hwnd ↔
      hwnd ∈ popupTargets graph rules := by
  constructor
  · rintro ⟨x, y, listed⟩
    rcases mem_evaluate_setPos.mp listed with resized | ⟨target, member, same⟩
    · obtain ⟨_, _, _, _, _, width, height, _, _, _, _, _, _, planned, same⟩ :=
        mem_viewResizes.mp resized
      obtain ⟨_, _, positive, _⟩ := plannedViewResize_some planned
      simp only [List.cons.injEq] at same
      obtain ⟨_, _, _, zeroWidth, _⟩ := same
      exact absurd zeroWidth positive.ne
    · simp only [List.cons.injEq] at same
      rwa [same.1]
  · intro member
    exact ⟨0, 0, mem_evaluate_setPos.mpr (Or.inr ⟨hwnd, member, rfl⟩)⟩

theorem evaluate_show (graph : WindowGraph) (settings : LayoutSettings) (rules : LayoutRules)
    (states : StateMap) (withCandidates : Bool) :
    (evaluateInner graph settings rules states withCandidates).1.actions.«show» = [] := by
  have empty := (applyOnce_effect graph settings rules states).2.2.2.1
  simp only [evaluateInner]
  rw [empty]
  rfl

theorem evaluate_states (graph : WindowGraph) (settings : LayoutSettings) (rules : LayoutRules)
    (states : StateMap) (withCandidates : Bool) :
    (evaluateInner graph settings rules states withCandidates).2 =
      storeAll rules.weakSignalConfirmTicks
        ((Ledger.opened states).recordAll rules.weakSignalConfirmTicks
          (ledgerVisits graph settings rules false)).states (popupVerdicts graph rules) :=
  (applyOnce_effect graph settings rules states).2.2.2.2

end LayoutAdblock.Core
