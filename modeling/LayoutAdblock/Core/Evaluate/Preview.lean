import LayoutAdblock.Core.Evaluate.Effects

namespace LayoutAdblock.Core

/-! # The diagnostic preview

The preview and the applied traversal submit the same verdicts to two ledgers.
The preview tracks more misses, so the ledgers differ; they keep the same match
streaks, and these alone decide what is confirmed.
-/

/-- The same verdict, submitted with a flag that tracks no more misses. -/
structure Visit.Quieter (applied previewed : Visit) : Prop where
  hwnd : applied.hwnd = previewed.hwnd
  identity : applied.identity = previewed.identity
  decision : applied.decision = previewed.decision
  tracks : applied.tracksSignal = true → previewed.tracksSignal = true

/-- What the two ledgers have in common.  A window that only the preview has
touched carries no streak on either side. -/
structure Ledger.Agree (applied previewed : Ledger) : Prop where
  streak : ∀ key, applied.states.streak key = previewed.states.streak key
  known : ∀ key, (applied.states key).isSome = true → (previewed.states key).isSome = true
  touched : applied.touched ⊆ previewed.touched
  quiet : ∀ key ∈ previewed.touched, key ∉ applied.touched → previewed.states.streak key = 0
  recorded : ∀ key ∈ previewed.touched, (previewed.states key).isSome = true

theorem Visit.Quieter.tracked {applied previewed : Visit} {left right : Ledger}
    (same : applied.Quieter previewed) (agree : left.Agree right)
    (tracked : applied.tracked left.states = true) : previewed.tracked right.states = true := by
  unfold Visit.tracked at *
  rw [← same.decision, ← same.identity]
  simp only [Bool.and_eq_true, Bool.or_eq_true] at tracked ⊢
  refine ⟨tracked.1, ?_⟩
  rcases tracked.2 with known | ⟨flag, relevant⟩
  · exact Or.inl (agree.known _ known)
  · exact Or.inr ⟨same.tracks flag, relevant⟩

theorem StateMap.streak_of_unknown {states : StateMap} {key : WindowIdentity}
    (unknown : ¬ (states key).isSome = true) : states.streak key = 0 := by
  simp only [Bool.not_eq_true, Option.isSome_eq_false_iff, Option.isNone_iff_eq_none] at unknown
  simp [StateMap.streak, unknown]

namespace Ledger

theorem stored_streak_self (ledger : Ledger) (ticks : Int) (visit : Visit) :
    (ledger.stored ticks visit).states.streak visit.identity =
      nextStreak visit.decision (ledger.states.streak visit.identity) :=
  storeUpdate_streak_self ..

theorem stored_other (ledger : Ledger) (ticks : Int) (visit : Visit) {key : WindowIdentity}
    (different : key ≠ visit.identity) :
    (ledger.stored ticks visit).states key = ledger.states key :=
  storeUpdate_other _ _ _ different

theorem stored_streak_other (ledger : Ledger) (ticks : Int) (visit : Visit)
    {key : WindowIdentity} (different : key ≠ visit.identity) :
    (ledger.stored ticks visit).states.streak key = ledger.states.streak key :=
  storeUpdate_streak_other _ _ _ different

theorem stored_recorded {ledger : Ledger} (ticks : Int) (visit : Visit)
    (recorded : ∀ key ∈ ledger.touched, (ledger.states key).isSome = true) :
    ∀ key ∈ (ledger.stored ticks visit).touched,
      ((ledger.stored ticks visit).states key).isSome = true := by
  intro key member
  by_cases self : key = visit.identity
  · rw [self]
    exact storeUpdate_isSome_self ..
  · rw [stored_other _ _ _ self]
    simp only [stored, Finset.mem_insert, self, false_or] at member
    exact recorded key member

theorem stored_known (ledger : Ledger) (ticks : Int) (visit : Visit) :
    ((ledger.stored ticks visit).states visit.identity).isSome = true :=
  storeUpdate_isSome_self ..

/-- Storing the same verdict on both sides keeps the agreement. -/
theorem Agree.stored_both {left right : Ledger} {applied previewed : Visit}
    (agree : left.Agree right) (same : applied.Quieter previewed) (ticks : Int) :
    (left.stored ticks applied).Agree (right.stored ticks previewed) := by
  have sameKey := same.identity
  have streaks : ∀ key, (left.stored ticks applied).states.streak key =
      (right.stored ticks previewed).states.streak key := by
    intro key
    by_cases self : key = applied.identity
    · subst self
      rw [stored_streak_self, sameKey, stored_streak_self, ← same.decision, ← sameKey,
        agree.streak]
    · rw [stored_streak_other _ _ _ self, stored_streak_other _ _ _ (sameKey ▸ self),
        agree.streak]
  refine ⟨streaks, ?_, ?_, ?_, stored_recorded ticks previewed agree.recorded⟩
  · intro key known
    by_cases self : key = applied.identity
    · rw [self, sameKey]
      exact stored_known ..
    · rw [stored_other _ _ _ self] at known
      rw [stored_other _ _ _ (sameKey ▸ self)]
      exact agree.known key known
  · simp only [stored, sameKey]
    exact Finset.insert_subset_insert _ agree.touched
  · intro key member absent
    simp only [stored, Finset.mem_insert, not_or] at member absent
    rw [sameKey] at absent
    rw [stored_streak_other _ _ _ absent.1]
    rcases member with self | member
    · exact absurd self absent.1
    · exact agree.quiet key member absent.2

/-- A tracked miss that only the applied traversal stores changes nothing the
agreement sees: the preview has touched that window without a streak. -/
theorem Agree.stored_left {left right : Ledger} {applied : Visit} (agree : left.Agree right)
    (ticks : Int) (miss : applied.decision.matched = false)
    (touched : applied.identity ∈ right.touched) (quiet : applied.identity ∉ left.touched) :
    (left.stored ticks applied).Agree right := by
  have zero := agree.quiet _ touched quiet
  refine ⟨?_, ?_, ?_, ?_, agree.recorded⟩
  · intro key
    by_cases self : key = applied.identity
    · subst self
      rw [stored_streak_self, nextStreak, miss, zero]
      rfl
    · rw [stored_streak_other _ _ _ self, agree.streak]
  · intro key knownLeft
    by_cases self : key = applied.identity
    · exact self ▸ agree.recorded _ touched
    · rw [stored_other _ _ _ self] at knownLeft
      exact agree.known key knownLeft
  · simp only [stored]
    exact Finset.insert_subset touched agree.touched
  · intro key member absent
    simp only [stored, Finset.mem_insert, not_or] at absent
    exact agree.quiet key member absent.2

/-- A miss that only the preview stores resets a streak that is not there. -/
theorem Agree.stored_right {left right : Ledger} {previewed : Visit} (agree : left.Agree right)
    (ticks : Int) (miss : previewed.decision.matched = false)
    (zero : left.states.streak previewed.identity = 0) :
    left.Agree (right.stored ticks previewed) := by
  have reset : (right.stored ticks previewed).states.streak previewed.identity = 0 := by
    rw [stored_streak_self, nextStreak, miss]
    rfl
  refine ⟨?_, ?_, ?_, ?_, stored_recorded ticks previewed agree.recorded⟩
  · intro key
    by_cases self : key = previewed.identity
    · rw [self, reset, zero]
    · rw [stored_streak_other _ _ _ self, agree.streak]
  · intro key knownLeft
    by_cases self : key = previewed.identity
    · rw [self]
      exact stored_known ..
    · rw [stored_other _ _ _ self]
      exact agree.known key knownLeft
  · exact agree.touched.trans (Finset.subset_insert _ _)
  · intro key member absent
    by_cases self : key = previewed.identity
    · rw [self, reset]
    · rw [stored_streak_other _ _ _ self]
      simp only [stored, Finset.mem_insert, self, false_or] at member
      exact agree.quiet key member absent

/-- One verdict, submitted on both sides. -/
theorem Agree.record {left right : Ledger} {applied previewed : Visit}
    (agree : left.Agree right) (same : applied.Quieter previewed) (ticks : Int) :
    (left.record ticks applied).1.Agree (right.record ticks previewed).1 := by
  rw [record_eq, record_eq]
  cases hit : applied.decision.matched with
  | true =>
      have hitRight : previewed.decision.matched = true := same.decision ▸ hit
      simpa [stores, hit, hitRight] using agree.stored_both same ticks
  | false =>
      have missRight : previewed.decision.matched = false := same.decision ▸ hit
      by_cases storesLeft : left.stores applied = true
      · have split := storesLeft
        simp only [stores, hit, Bool.false_or, Bool.and_eq_true, decide_eq_true_eq] at split
        by_cases storesRight : right.stores previewed = true
        · simpa [storesLeft, storesRight] using agree.stored_both same ticks
        · have trackedRight := same.tracked agree split.1
          have touched : applied.identity ∈ right.touched := by
            rw [same.identity]
            by_contra absent
            simp [stores, trackedRight, absent] at storesRight
          simpa [storesLeft, storesRight] using agree.stored_left ticks hit touched split.2
      · by_cases storesRight : right.stores previewed = true
        · have split := storesRight
          simp only [stores, missRight, Bool.false_or, Bool.and_eq_true,
            decide_eq_true_eq] at split
          have untouched : applied.identity ∉ left.touched := by
            rw [same.identity]
            exact fun member => split.2 (agree.touched member)
          have zero : left.states.streak previewed.identity = 0 := by
            rw [← same.identity]
            apply StateMap.streak_of_unknown
            intro known
            apply storesLeft
            simp [stores, Visit.tracked, hit, known, untouched]
          simpa [storesLeft, storesRight] using agree.stored_right ticks missRight zero
        · simpa [storesLeft, storesRight] using agree

theorem Agree.opened (states : StateMap) : (Ledger.opened states).Agree (Ledger.opened states) where
  streak _ := rfl
  known _ known := known
  touched := Finset.Subset.refl _
  quiet key member := by simp [Ledger.opened] at member
  recorded key member := by simp [Ledger.opened] at member

/-- Runs over the same verdicts confirm the same verdicts. -/
theorem confirmedVisits_quieter {left right : Ledger} {applied previewed : List Visit}
    (agree : left.Agree right) (same : List.Forall₂ Visit.Quieter applied previewed)
    (ticks : Int) :
    List.Forall₂ Visit.Quieter (confirmedVisits ticks left applied)
      (confirmedVisits ticks right previewed) := by
  induction same generalizing left right with
  | nil => exact List.Forall₂.nil
  | cons head _ ih =>
      rw [confirmedVisits_cons, confirmedVisits_cons]
      refine List.rel_append ?_ (ih (agree.record head ticks))
      rw [head.decision, head.identity, agree.streak]
      split
      · exact List.Forall₂.cons head List.Forall₂.nil
      · exact List.Forall₂.nil

end Ledger

variable [Unicode]

theorem ledgerVisits_quieter (graph : WindowGraph) (settings : LayoutSettings)
    (rules : LayoutRules) :
    List.Forall₂ Visit.Quieter (ledgerVisits graph settings rules false)
      (ledgerVisits graph settings rules true) := by
  refine List.rel_append (Data.forall₂_flatMap fun wnd _ => ?_) ?_
  · unfold mainVisits
    cases mainContexts graph settings rules wnd with
    | none => exact List.Forall₂.nil
    | some main =>
        refine Data.forall₂_flatMap fun context _ => List.rel_append ?_ ?_
        · exact List.forall₂_same.mpr fun visit _ => ⟨rfl, rfl, rfl, id⟩
        · unfold aggressiveVisit
          split
          · exact List.Forall₂.nil
          · exact List.Forall₂.cons ⟨rfl, rfl, rfl, by simp⟩ List.Forall₂.nil
  · rw [List.filterMap_eq_flatMap_toList, List.filterMap_eq_flatMap_toList]
    refine Data.forall₂_flatMap fun wnd _ => ?_
    unfold legacyVisit
    cases graph.get wnd with
    | none => exact List.Forall₂.nil
    | some node => exact List.Forall₂.cons ⟨rfl, rfl, rfl, by simp⟩ List.Forall₂.nil

/-- The line of the diagnostics about a verdict that was stored. -/
def storedPayload (entry : Visit × CandidateState × Bool) : CandidatePayload :=
  candidatePayload entry.1.identity entry.1.decision entry.2.1 entry.2.2

/-- The effect of submitting `visits` to the preview.  The second output list is
not used. -/
structure Previewed (ticks : Int) (before : PreviewState) (visits : List Visit) (_ : List Unit)
    (after : PreviewState) : Prop where
  ledger : after.ledger = before.ledger.recordAll ticks visits
  payloads : after.payloads =
    before.payloads ++ (Ledger.storedVisits ticks before.ledger visits).map storedPayload

namespace Previewed

omit [Unicode]

theorem refl (ticks : Int) (state : PreviewState) : Previewed ticks state [] [] state := by
  constructor <;> simp [Ledger.storedVisits]

theorem trans {ticks : Int} {before middle after : PreviewState} {first second : List Visit}
    {firstRest secondRest : List Unit} (left : Previewed ticks before first firstRest middle)
    (right : Previewed ticks middle second secondRest after) :
    Previewed ticks before (first ++ second) (firstRest ++ secondRest) after where
  ledger := by rw [right.ledger, left.ledger, Ledger.recordAll_append]
  payloads := by
    rw [right.payloads, left.payloads, left.ledger, Ledger.storedVisits_append, List.map_append,
      List.append_assoc]

theorem composes (ticks : Int) :
    Data.Composes fun before visits rest after => Previewed ticks before visits rest after :=
  ⟨refl ticks, trans⟩

theorem submit (ticks : Int) (state : PreviewState) (visit : Visit) :
    Previewed ticks state [visit] [] (state.submit ticks visit) := by
  constructor
  · rfl
  · simp [PreviewState.submit, Ledger.storedVisits, storedPayload, Function.comp_def]

end Previewed

omit [Unicode] in
theorem inspectChild_previewed (graph : WindowGraph) (settings : LayoutSettings)
    (rules : LayoutRules) (parentText : String) (hasAdSignal : Bool) (state : PreviewState)
    (context : ChildContext) :
    Previewed rules.weakSignalConfirmTicks state
      (childVisits graph settings rules true parentText hasAdSignal context) []
      (inspectChild graph settings rules parentText hasAdSignal state context) := by
  unfold inspectChild childVisits
  cases closeVisit graph rules parentText hasAdSignal context with
  | none =>
      cases aggressiveVisit settings true context with
      | none => exact Previewed.refl _ state
      | some hides => exact Previewed.submit _ state hides
  | some closes =>
      have closed := Previewed.submit rules.weakSignalConfirmTicks state closes
      cases aggressiveVisit settings true context with
      | none => exact closed
      | some hides => exact closed.trans (Previewed.submit _ _ hides)

theorem inspectMainWindow_previewed (graph : WindowGraph) (settings : LayoutSettings)
    (rules : LayoutRules) (state : PreviewState) (wnd : Hwnd) :
    Previewed rules.weakSignalConfirmTicks state (mainVisits graph settings rules true wnd) []
      (inspectMainWindow graph settings rules state wnd) := by
  unfold inspectMainWindow mainVisits mainContexts
  cases found : graph.get wnd with
  | none => exact Previewed.refl _ state
  | some parent =>
      cases rect : parent.rect with
      | none => simpa [rect] using Previewed.refl _ state
      | some parentRect =>
          simp only [Option.bind_some, rect, Option.map_some]
          have children := (Previewed.composes rules.weakSignalConfirmTicks).foldl
            (fun context (_ : context ∈ childContexts graph settings rules wnd parentRect)
              current => inspectChild_previewed graph settings rules parent.text
                ((childContexts graph settings rules wnd parentRect).any ChildContext.adSignal)
                current context) state
          rwa [Data.flatMap_nothing] at children

theorem inspectLegacy_previewed (graph : WindowGraph) (rules : LayoutRules)
    (state : PreviewState) (wnd : Hwnd) :
    Previewed rules.weakSignalConfirmTicks state (legacyVisit graph rules true wnd).toList []
      (inspectLegacy graph rules state wnd) := by
  unfold inspectLegacy
  cases legacyVisit graph rules true wnd with
  | none => exact Previewed.refl _ state
  | some visit => exact Previewed.submit _ state visit

def previewLedger (graph : WindowGraph) (settings : LayoutSettings) (rules : LayoutRules)
    (states : StateMap) : PreviewState :=
  (candidateHandles graph rules (confirmedMain graph rules)).foldl (inspectLegacy graph rules)
    ((confirmedMain graph rules).foldl (inspectMainWindow graph settings rules)
      { payloads := [], ledger := Ledger.opened states })

theorem previewLedger_previewed (graph : WindowGraph) (settings : LayoutSettings)
    (rules : LayoutRules) (states : StateMap) :
    Previewed rules.weakSignalConfirmTicks
      { payloads := [], ledger := Ledger.opened states }
      (ledgerVisits graph settings rules true) [] (previewLedger graph settings rules states) := by
  have mains := (Previewed.composes rules.weakSignalConfirmTicks).foldl
    (fun wnd (_ : wnd ∈ confirmedMain graph rules) current =>
      inspectMainWindow_previewed graph settings rules current wnd)
    { payloads := [], ledger := Ledger.opened states }
  have legacies := (Previewed.composes rules.weakSignalConfirmTicks).foldl
    (fun wnd (_ : wnd ∈ candidateHandles graph rules (confirmedMain graph rules)) current =>
      inspectLegacy_previewed graph rules current wnd)
    ((confirmedMain graph rules).foldl (inspectMainWindow graph settings rules)
      { payloads := [], ledger := Ledger.opened states })
  have both := mains.trans legacies
  rw [Data.flatMap_nothing, Data.flatMap_nothing] at both
  simpa [ledgerVisits, previewLedger, List.filterMap_eq_flatMap_toList] using both

/-- The effect of previewing the popup phase: the added payloads dismiss exactly
`targets`. -/
structure PreviewedPopups (before : PreviewState) (targets : List Hwnd) (_ : List Unit)
    (after : PreviewState) : Prop where
  added : ∃ added, after.payloads = before.payloads ++ added ∧
    (∀ payload ∈ added, payload.action = "dismiss_popup" ∨ payload.action = "none") ∧
    ∀ hwnd, hwnd ∈ targets ↔
      ∃ payload ∈ added, payload.action = "dismiss_popup" ∧ payload.hwnd = hwnd

namespace PreviewedPopups

omit [Unicode]

theorem refl (state : PreviewState) : PreviewedPopups state [] [] state :=
  ⟨[], by simp, by simp, by simp⟩

theorem trans {before middle after : PreviewState} {first second : List Hwnd}
    {firstRest secondRest : List Unit} (left : PreviewedPopups before first firstRest middle)
    (right : PreviewedPopups middle second secondRest after) :
    PreviewedPopups before (first ++ second) (firstRest ++ secondRest) after := by
  obtain ⟨firstAdded, firstPayloads, firstActions, firstTargets⟩ := left.added
  obtain ⟨secondAdded, secondPayloads, secondActions, secondTargets⟩ := right.added
  refine ⟨firstAdded ++ secondAdded, ?_, ?_, ?_⟩
  · rw [secondPayloads, firstPayloads, List.append_assoc]
  · intro payload member
    rcases List.mem_append.mp member with early | late
    · exact firstActions payload early
    · exact secondActions payload late
  · intro hwnd
    simp only [List.mem_append, firstTargets, secondTargets, or_and_right, exists_or]

theorem composes : Data.Composes PreviewedPopups := ⟨refl, trans⟩

/-- A dismissal is reported at once: a strong verdict needs no streak. -/
theorem update_allowed (ticks : Int) (state : PreviewState) (identity : WindowIdentity)
    (depth : Int) :
    PreviewedPopups state [identity.hwnd] []
      (state.update ticks identity (popupDismissDecision .allow depth)) := by
  let stored := storeUpdate state.ledger.states identity (popupDismissDecision .allow depth) ticks
  have confirmed : stored.2.2 = true := storeUpdate_confirmed ..
  have reported : (candidatePayload identity (popupDismissDecision .allow depth) stored.2.1
      stored.2.2).action = "dismiss_popup" := by
    rw [confirmed]
    rfl
  refine ⟨[candidatePayload identity (popupDismissDecision .allow depth) stored.2.1 stored.2.2],
    rfl, ?_, ?_⟩
  · intro payload member
    rw [List.mem_singleton.mp member]
    exact Or.inl reported
  · intro hwnd
    simp only [List.mem_singleton, exists_eq_left, reported, true_and]
    exact eq_comm

theorem update_blocked {guard : PopupGuard} (blocked : guard ≠ .allow) (ticks : Int)
    (state : PreviewState) (identity : WindowIdentity) (depth : Int) :
    PreviewedPopups state [] [] (state.update ticks identity
      (popupDismissDecision guard depth)) := by
  let stored := storeUpdate state.ledger.states identity (popupDismissDecision guard depth) ticks
  have reported : (candidatePayload identity (popupDismissDecision guard depth) stored.2.1
      stored.2.2).action = "none" := by
    cases guard with
    | allow => exact absurd rfl blocked
    | na => rfl
    | blocked => rfl
  refine ⟨[candidatePayload identity (popupDismissDecision guard depth) stored.2.1 stored.2.2],
    rfl, ?_, ?_⟩
  · intro payload member
    rw [List.mem_singleton.mp member]
    exact Or.inr reported
  · intro hwnd
    simp [reported]

end PreviewedPopups

omit [Unicode] in
theorem inspectPopupMatch_previewed (graph : WindowGraph) (rules : LayoutRules)
    (item : WindowNode) (guard : PopupGuard) (state : PreviewState)
    (found : Hwnd × Int × String) :
    PreviewedPopups state (if guard = .allow then [item.hwnd, found.1] else []) []
      (inspectPopupMatch graph rules item guard state found) := by
  obtain ⟨child, depth, className⟩ := found
  by_cases allowed : guard = .allow
  · subst allowed
    exact (PreviewedPopups.update_allowed rules.weakSignalConfirmTicks state item.identity
      depth).trans (PreviewedPopups.update_allowed rules.weakSignalConfirmTicks _
        { hwnd := child
          pid := ((graph.get child).map WindowNode.pid).getD 0
          className := className } depth)
  · have blocked := PreviewedPopups.update_blocked allowed rules.weakSignalConfirmTicks state
      { hwnd := child
        pid := ((graph.get child).map WindowNode.pid).getD 0
        className := className } depth
    simp only [inspectPopupMatch, if_neg allowed]
    exact blocked

theorem inspectPopupHost_previewed (graph : WindowGraph) (rules : LayoutRules)
    (state : PreviewState) (item : WindowNode) :
    PreviewedPopups state (hostTargets graph rules item) []
      (inspectPopupHost graph rules (confirmedMain graph rules) state item) := by
  unfold inspectPopupHost hostTargets
  have found := PreviewedPopups.composes.foldl
    (fun found (_ : found ∈ findPopupMatches graph rules item.hwnd false) current =>
      inspectPopupMatch_previewed graph rules item
        (popupHostGuardStatus rules item.text item.textKnown) current found) state
  rw [Data.flatMap_nothing] at found
  by_cases host : isPopupHost (confirmedMain graph rules) item = true
  · by_cases allowed : popupHostGuardStatus rules item.text item.textKnown = .allow
    · simpa [host, allowed] using found
    · simpa [host, allowed, Data.flatMap_nothing] using found
  · simpa [host] using PreviewedPopups.refl state

theorem inspectPopupHosts_previewed (graph : WindowGraph) (rules : LayoutRules)
    (state : PreviewState) :
    PreviewedPopups state (popupTargets graph rules) []
      ((collectTopLevel graph).foldl
        (inspectPopupHost graph rules (confirmedMain graph rules)) state) := by
  have hosts := PreviewedPopups.composes.foldl
    (fun item (_ : item ∈ collectTopLevel graph) current =>
      inspectPopupHost_previewed graph rules current item) state
  rwa [Data.flatMap_nothing] at hosts

/-- The payloads of a preview: those of the stored ledger verdicts, and those of
the popup phase. -/
theorem mem_inspectCandidates {graph : WindowGraph} {settings : LayoutSettings}
    {rules : LayoutRules} {states : StateMap} :
    ∃ popups : List CandidatePayload,
      (∀ payload, payload ∈ inspectCandidates graph settings rules (confirmedMain graph rules)
          (candidateHandles graph rules (confirmedMain graph rules)) states ↔
        payload ∈ (Ledger.storedVisits rules.weakSignalConfirmTicks (Ledger.opened states)
          (ledgerVisits graph settings rules true)).map storedPayload ∨ payload ∈ popups) ∧
      (∀ payload ∈ popups, payload.action = "dismiss_popup" ∨ payload.action = "none") ∧
      ∀ hwnd, hwnd ∈ popupTargets graph rules ↔
        ∃ payload ∈ popups, payload.action = "dismiss_popup" ∧ payload.hwnd = hwnd := by
  obtain ⟨popups, payloads, actions, targets⟩ :=
    (inspectPopupHosts_previewed graph rules (previewLedger graph settings rules states)).added
  refine ⟨popups, ?_, actions, targets⟩
  intro payload
  unfold inspectCandidates
  rw [List.mem_insertionSort]
  have early := (previewLedger_previewed graph settings rules states).payloads
  rw [List.nil_append] at early
  rw [← early, ← List.mem_append, ← payloads]
  rfl

omit [Unicode] in
theorem hideTargets_quieter {applied previewed : List Visit}
    (same : List.Forall₂ Visit.Quieter applied previewed) :
    hideTargets applied = hideTargets previewed := by
  induction same with
  | nil => rfl
  | cons head _ ih =>
      simp only [hideTargets, List.filter_cons, head.decision] at ih ⊢
      split <;> simp [ih, head.hwnd]

omit [Unicode] in
theorem closeTargets_quieter {applied previewed : List Visit}
    (same : List.Forall₂ Visit.Quieter applied previewed) :
    closeTargets applied = closeTargets previewed := by
  induction same with
  | nil => rfl
  | cons head _ ih =>
      simp only [closeTargets, List.filter_cons, head.decision] at ih ⊢
      split <;> simp [ih, head.hwnd]

/-- The verdicts confirmed by the applied traversal are those confirmed by the
preview. -/
theorem decidedVisits_quieter (graph : WindowGraph) (settings : LayoutSettings)
    (rules : LayoutRules) (states : StateMap) :
    List.Forall₂ Visit.Quieter (decidedVisits graph settings rules states)
      (Ledger.confirmedVisits rules.weakSignalConfirmTicks (Ledger.opened states)
        (ledgerVisits graph settings rules true)) :=
  Ledger.confirmedVisits_quieter (Ledger.Agree.opened states)
    (ledgerVisits_quieter graph settings rules) _

/-- A payload names the action of a confirmed decision, and only of one. -/
theorem storedPayload_action {graph : WindowGraph} {settings : LayoutSettings}
    {rules : LayoutRules} {entry : Visit × CandidateState × Bool}
    (member : entry.1 ∈ ledgerVisits graph settings rules true) (kind : ActionKind)
    (asks : kind ≠ .none) :
    (storedPayload entry).action = kind.asStr ↔
      entry.2.2 = true ∧ entry.1.decision.action = kind := by
  have reported : (storedPayload entry).action =
      if entry.1.decision.matched && !entry.2.2 then "pending_" ++ entry.1.decision.action.asStr
      else entry.1.decision.action.asStr := rfl
  rw [reported]
  rcases visit_action member with ⟨miss, action⟩ | ⟨matched, action | action⟩
  · rw [miss, action]
    cases entry.2.2 <;> cases kind <;> first | exact absurd rfl asks | decide
  · rw [matched, action]
    cases entry.2.2 <;> cases kind <;> first | exact absurd rfl asks | decide
  · rw [matched, action]
    cases entry.2.2 <;> cases kind <;> first | exact absurd rfl asks | decide

omit [Unicode] in
theorem Ledger.mem_of_mem_storedVisits {ticks : Int} {ledger : Ledger} {visits : List Visit}
    {entry : Visit × CandidateState × Bool}
    (member : entry ∈ Ledger.storedVisits ticks ledger visits) : entry.1 ∈ visits := by
  induction visits generalizing ledger with
  | nil => simp [Ledger.storedVisits] at member
  | cons head rest ih =>
      simp only [Ledger.storedVisits, List.mem_append, List.mem_map] at member
      rcases member with ⟨_, _, rfl⟩ | later
      · exact List.mem_cons_self ..
      · exact List.mem_cons_of_mem head (ih later)

/-- The handles of the payloads with a ledger action are those of the confirmed
visits with that action. -/
theorem storedPayloads_targets {graph : WindowGraph} {settings : LayoutSettings}
    {rules : LayoutRules} {states : StateMap} {hwnd : Hwnd} {kind : ActionKind}
    (asks : kind ≠ .none) :
    (∃ payload ∈ (Ledger.storedVisits rules.weakSignalConfirmTicks (Ledger.opened states)
        (ledgerVisits graph settings rules true)).map storedPayload,
      payload.action = kind.asStr ∧ payload.hwnd = hwnd) ↔
      ∃ visit ∈ Ledger.confirmedVisits rules.weakSignalConfirmTicks (Ledger.opened states)
        (ledgerVisits graph settings rules true),
        visit.decision.action = kind ∧ visit.hwnd = hwnd := by
  constructor
  · rintro ⟨_, member, named, rfl⟩
    obtain ⟨entry, stored, rfl⟩ := List.mem_map.mp member
    have submitted := Ledger.mem_of_mem_storedVisits stored
    obtain ⟨confirmed, action⟩ := (storedPayload_action submitted kind asks).mp named
    refine ⟨entry.1, ?_, action, (visit_identity_hwnd submitted).symm⟩
    exact List.mem_map.mpr ⟨entry, List.mem_filter.mpr ⟨stored, confirmed⟩, rfl⟩
  · rintro ⟨_, member, action, rfl⟩
    obtain ⟨entry, kept, rfl⟩ := List.mem_map.mp member
    obtain ⟨stored, confirmed⟩ := List.mem_filter.mp kept
    have submitted := Ledger.mem_of_mem_storedVisits stored
    refine ⟨storedPayload entry, List.mem_map_of_mem stored, ?_, visit_identity_hwnd submitted⟩
    exact (storedPayload_action submitted kind asks).mpr ⟨confirmed, action⟩

/-- The payloads of an evaluation with an action, by where the action comes
from: a confirmed verdict of the ledger, or the popup phase. -/
theorem payload_targets (graph : WindowGraph) (settings : LayoutSettings) (rules : LayoutRules)
    (states : StateMap) (hwnd : Hwnd) :
    let candidates := inspectCandidates graph settings rules (confirmedMain graph rules)
      (candidateHandles graph rules (confirmedMain graph rules)) states
    ((∃ payload ∈ candidates, payload.action = "hide" ∧ payload.hwnd = hwnd) ↔
      hwnd ∈ hideTargets (decidedVisits graph settings rules states)) ∧
    ((∃ payload ∈ candidates, payload.action = "close" ∧ payload.hwnd = hwnd) ↔
      hwnd ∈ closeTargets (decidedVisits graph settings rules states)) ∧
    ((∃ payload ∈ candidates, payload.action = "dismiss_popup" ∧ payload.hwnd = hwnd) ↔
      hwnd ∈ popupTargets graph rules) := by
  intro candidates
  obtain ⟨popups, members, actions, targets⟩ : ∃ popups, _ := mem_inspectCandidates
  have ledgerOnly : ∀ kind : ActionKind, kind ≠ .none → kind ≠ .dismissPopup →
      ((∃ payload ∈ candidates, payload.action = kind.asStr ∧ payload.hwnd = hwnd) ↔
        ∃ visit ∈ Ledger.confirmedVisits rules.weakSignalConfirmTicks (Ledger.opened states)
          (ledgerVisits graph settings rules true),
          visit.decision.action = kind ∧ visit.hwnd = hwnd) := by
    intro kind asks other
    rw [← storedPayloads_targets asks]
    constructor
    · rintro ⟨payload, member, named, same⟩
      rcases (members payload).mp member with stored | popup
      · exact ⟨payload, stored, named, same⟩
      · rcases actions payload popup with dismissed | nothing
        · rw [dismissed] at named
          cases kind <;> first | exact absurd rfl asks | exact absurd rfl other | contradiction
        · rw [nothing] at named
          cases kind <;> first | exact absurd rfl asks | contradiction
    · rintro ⟨payload, stored, named, same⟩
      exact ⟨payload, (members payload).mpr (Or.inl stored), named, same⟩
  have decided := decidedVisits_quieter graph settings rules states
  refine ⟨?_, ?_, ?_⟩
  · refine (ledgerOnly .hide (by decide) (by decide)).trans ?_
    rw [hideTargets_quieter decided]
    simp [hideTargets, and_assoc]
  · refine (ledgerOnly .close (by decide) (by decide)).trans ?_
    rw [closeTargets_quieter decided]
    simp [closeTargets, and_assoc]
  · rw [targets]
    constructor
    · rintro ⟨payload, member, named, same⟩
      rcases (members payload).mp member with stored | popup
      · obtain ⟨entry, listed, rfl⟩ := List.mem_map.mp stored
        have submitted := Ledger.mem_of_mem_storedVisits listed
        have action := ((storedPayload_action submitted .dismissPopup (by decide)).mp named).2
        rcases visit_action submitted with ⟨_, other⟩ | ⟨_, other | other⟩ <;>
          simp [action] at other
      · exact ⟨payload, popup, named, same⟩
    · rintro ⟨payload, popup, named, same⟩
      exact ⟨payload, (members payload).mpr (Or.inr popup), named, same⟩

/-- The preview agrees with what is applied.  The hidden handles are the
ascending list of those previewed as hidden or dismissed; the closed ones, of
those previewed as closed, or as dismissed and currently visible; the
zero-sized ones are those previewed as dismissed. -/
theorem preview_agrees_with_actions (graph : WindowGraph) (settings : LayoutSettings)
    (rules : LayoutRules) (states : StateMap) :
    let evaluation := (evaluateGraphWithStates graph settings rules states).1
    (evaluation.actions.hide.Pairwise (· < ·) ∧ ∀ hwnd, hwnd ∈ evaluation.actions.hide ↔
      ∃ payload ∈ evaluation.candidates, payload.hwnd = hwnd ∧
        (payload.action = "hide" ∨ payload.action = "dismiss_popup")) ∧
    (evaluation.actions.close.Pairwise (· < ·) ∧ ∀ hwnd, hwnd ∈ evaluation.actions.close ↔
      ∃ payload ∈ evaluation.candidates, payload.hwnd = hwnd ∧
        (payload.action = "close" ∨
          (payload.action = "dismiss_popup" ∧ shownIn graph hwnd = true))) ∧
    ∀ hwnd, evaluation.actions.zeroSized hwnd ↔
      ∃ payload ∈ evaluation.candidates, payload.hwnd = hwnd ∧
        payload.action = "dismiss_popup" := by
  intro evaluation
  refine ⟨⟨Data.uniqueSorted_pairwise_lt _, fun hwnd => ?_⟩,
    ⟨Data.uniqueSorted_pairwise_lt _, fun hwnd => ?_⟩, fun hwnd => ?_⟩
  · obtain ⟨hides, _, dismisses⟩ := payload_targets graph settings rules states hwnd
    refine mem_evaluate_hide.trans ?_
    rw [← hides, ← dismisses]
    constructor
    · rintro (⟨payload, member, named, same⟩ | ⟨payload, member, named, same⟩)
      · exact ⟨payload, member, same, Or.inl named⟩
      · exact ⟨payload, member, same, Or.inr named⟩
    · rintro ⟨payload, member, same, named | named⟩
      · exact Or.inl ⟨payload, member, named, same⟩
      · exact Or.inr ⟨payload, member, named, same⟩
  · obtain ⟨_, closes, dismisses⟩ := payload_targets graph settings rules states hwnd
    refine mem_evaluate_close.trans ?_
    rw [← closes, ← dismisses]
    constructor
    · rintro (⟨payload, member, named, same⟩ | ⟨⟨payload, member, named, same⟩, visible⟩)
      · exact ⟨payload, member, same, Or.inl named⟩
      · exact ⟨payload, member, same, Or.inr ⟨named, visible⟩⟩
    · rintro ⟨payload, member, same, named | ⟨named, visible⟩⟩
      · exact Or.inl ⟨payload, member, named, same⟩
      · exact Or.inr ⟨⟨payload, member, named, same⟩, visible⟩
  · obtain ⟨_, _, dismisses⟩ := payload_targets graph settings rules states hwnd
    refine evaluate_zeroSized.trans ?_
    rw [← dismisses]
    exact exists_congr fun payload => and_congr_right fun _ => and_comm

end LayoutAdblock.Core
