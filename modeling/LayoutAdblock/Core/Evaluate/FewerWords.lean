import LayoutAdblock.Core.Evaluate.Redrawn
import LayoutAdblock.Core.Evaluate.SiblingOrder
import LayoutAdblock.Core.Evaluate.UnreadableTitle

namespace LayoutAdblock.Core

open Ledger

/-! # Fewer ad words

Two rule sets that only differ in their word lists submit visits about the same
windows, except that a window loses its legacy verdict altogether when no word
is left to match it.  The streaks of the two runs stay ordered, and with them
what the runs hide and close.
-/

def LayoutRules.withWords (rules : LayoutRules) (tokens titles : List String) : LayoutRules :=
  { rules with
    aggressiveAdTokens := tokens
    chromeLegacyTitleContains := titles }

/-- A visit to the same window with a stronger verdict. -/
structure Visit.Over (stronger weaker : Visit) : Prop where
  hwnd : stronger.hwnd = weaker.hwnd
  identity : stronger.identity = weaker.identity
  decision : stronger.decision.AtLeast weaker.decision
  action : weaker.decision.matched = true → stronger.decision.action = weaker.decision.action

/-- The stronger run has the visits of the weaker one with stronger verdicts, and
possibly further matches. -/
inductive Outdoes : List Visit → List Visit → Prop where
  | nil : Outdoes [] []
  | both {first second : Visit} {stronger weaker : List Visit} :
      first.Over second → Outdoes stronger weaker → Outdoes (first :: stronger) (second :: weaker)
  | extra {first : Visit} {stronger weaker : List Visit} :
      first.decision.matched = true → Outdoes stronger weaker →
        Outdoes (first :: stronger) weaker

namespace Outdoes

variable {stronger weaker : List Visit}

theorem append {strongerRest weakerRest : List Visit} (left : Outdoes stronger weaker)
    (right : Outdoes strongerRest weakerRest) :
    Outdoes (stronger ++ strongerRest) (weaker ++ weakerRest) := by
  induction left with
  | nil => exact right
  | both covers _ ih => exact both covers ih
  | extra matched _ ih => exact extra matched ih

theorem flatMap {α : Type} {items : List α} {output other : α → List Visit}
    (body : ∀ item ∈ items, Outdoes (output item) (other item)) :
    Outdoes (items.flatMap output) (items.flatMap other) := by
  induction items with
  | nil => exact nil
  | cons head rest ih =>
      exact (body head (List.mem_cons_self ..)).append
        (ih fun item member => body item (List.mem_cons_of_mem head member))

theorem visitsOf (outdoes : Outdoes stronger weaker) (key : WindowIdentity) :
    Outdoes (Ledger.visitsOf key stronger) (Ledger.visitsOf key weaker) := by
  induction outdoes with
  | nil => exact nil
  | @both first second _ _ covers _ ih =>
      by_cases own : second.identity = key
      · have ownFirst : first.identity = key := covers.identity.trans own
        simpa [Ledger.visitsOf, own, ownFirst] using both covers ih
      · have otherFirst : ¬ first.identity = key := covers.identity ▸ own
        simpa [Ledger.visitsOf, own, otherFirst] using ih
  | @extra first _ _ matched _ ih =>
      by_cases own : first.identity = key
      · simpa [Ledger.visitsOf, own] using extra matched ih
      · simpa [Ledger.visitsOf, own] using ih

/-- Every visit of the weaker run has its counterpart, after a run that outdoes
the visits before it. -/
theorem split {earlier later : List Visit} {visit : Visit}
    (outdoes : Outdoes stronger (earlier ++ visit :: later)) :
    ∃ before counterpart after, stronger = before ++ counterpart :: after ∧
      Outdoes before earlier ∧ counterpart.Over visit := by
  generalize whole : earlier ++ visit :: later = weaker at outdoes
  induction outdoes generalizing earlier with
  | nil => simp at whole
  | @both first second stronger _ covers outdoes ih =>
      cases earlier with
      | nil =>
          obtain ⟨rfl, _⟩ := List.cons.inj whole
          exact ⟨[], first, stronger, rfl, nil, covers⟩
      | cons head earlier =>
          obtain ⟨rfl, same⟩ := List.cons.inj whole
          obtain ⟨before, counterpart, after, rfl, outdone, above⟩ := ih same
          exact ⟨first :: before, counterpart, after, rfl, both covers outdone, above⟩
  | @extra first _ _ matched _ ih =>
      obtain ⟨before, counterpart, after, rfl, outdone, above⟩ := ih whole
      exact ⟨first :: before, counterpart, after, rfl, extra matched outdone, above⟩

end Outdoes

/-- What is left of the streak after the first verdict. -/
def carried (visits : List Visit) (streak : Int) : Int :=
  if visits.head?.all (fun visit => visit.decision.matched) then streak else 0

/-- How many of the verdicts speak for an advertisement. -/
def matchCount (visits : List Visit) : Nat :=
  visits.countP fun visit => visit.decision.matched

/-- A stored match is one more for the streak. -/
theorem stored_match_streak (ledger : Ledger) (ticks : Int) {visit : Visit}
    (matched : visit.decision.matched = true) :
    (ledger.record ticks visit).1.states.streak visit.identity =
        ledger.states.streak visit.identity + 1 ∧
      visit.identity ∈ (ledger.record ticks visit).1.touched := by
  have kept : ledger.stores visit = true := by simp [Ledger.stores, matched]
  rw [record_eq, kept]
  constructor
  · exact (storeUpdate_streak_self ..).trans (by simp [nextStreak, matched])
  · simp [stored]

/-- Once a verdict is stored, the misses of the evaluation yield. -/
theorem recordAll_touched_streak {key : WindowIdentity} {visits : List Visit}
    (own : ∀ visit ∈ visits, visit.identity = key) (ticks : Int) {ledger : Ledger}
    (touched : key ∈ ledger.touched) :
    (ledger.recordAll ticks visits).states.streak key =
      ledger.states.streak key + matchCount visits := by
  induction visits generalizing ledger with
  | nil => simp [matchCount]
  | cons visit rest ih =>
      have ownRest := fun other member => own other (List.mem_cons_of_mem visit member)
      obtain rfl := own visit (List.mem_cons_self ..)
      rw [recordAll_cons]
      cases matched : visit.decision.matched with
      | true =>
          obtain ⟨grown, kept⟩ := stored_match_streak ledger ticks matched
          rw [ih ownRest kept, grown]
          simp only [matchCount, List.countP_cons, matched, if_true]
          omega
      | false =>
          rw [record_miss_touched ticks matched touched, ih ownRest touched]
          simp [matchCount, matched]

/-- A run about one window: the first verdict carries the streak or ends it, and
every match counts. -/
theorem recordAll_own_streak {key : WindowIdentity} {visits : List Visit}
    (own : ∀ visit ∈ visits, visit.identity = key) (ticks : Int) {ledger : Ledger}
    (untouched : key ∉ ledger.touched) :
    (ledger.recordAll ticks visits).states.streak key =
      carried visits (ledger.states.streak key) + matchCount visits := by
  induction visits generalizing ledger with
  | nil => simp [carried, matchCount]
  | cons visit rest ih =>
      have ownRest := fun other member => own other (List.mem_cons_of_mem visit member)
      obtain rfl := own visit (List.mem_cons_self ..)
      rw [recordAll_cons]
      cases matched : visit.decision.matched with
      | true =>
          obtain ⟨grown, kept⟩ := stored_match_streak ledger ticks matched
          rw [recordAll_touched_streak ownRest ticks kept, grown]
          simp only [carried, matchCount, List.countP_cons, matched, if_true, List.head?_cons,
            Option.all_some]
          omega
      | false =>
          have reset := record_miss_streak ticks matched fun touched => absurd touched untouched
          have later : ((ledger.record ticks visit).1.recordAll ticks rest).states.streak
              visit.identity = matchCount rest := by
            by_cases kept : visit.identity ∈ (ledger.record ticks visit).1.touched
            · rw [recordAll_touched_streak ownRest ticks kept, reset, Int.zero_add]
            · rw [ih ownRest kept, reset]
              simp [carried]
          rw [later]
          simp [carried, matchCount, matched]

theorem Outdoes.matchCount_le {stronger weaker : List Visit} (outdoes : Outdoes stronger weaker) :
    matchCount weaker ≤ matchCount stronger := by
  induction outdoes with
  | nil => exact le_rfl
  | @both first second _ _ covers _ ih =>
      simp only [matchCount, List.countP_cons] at ih ⊢
      cases weak : second.decision.matched with
      | false =>
          simp only [Bool.false_eq_true, if_false]
          omega
      | true =>
          simp only [(covers.decision weak).1, if_true]
          omega
  | extra matched _ ih =>
      simp only [matchCount, List.countP_cons, matched, if_true] at ih ⊢
      omega

theorem Outdoes.carried_le {stronger weaker : List Visit} (outdoes : Outdoes stronger weaker)
    {streak lower : Int} (below : lower ≤ streak) (nonneg : 0 ≤ streak) :
    carried weaker lower ≤ carried stronger streak := by
  have capped : carried weaker lower ≤ streak := by
    unfold carried
    split
    · exact below
    · exact nonneg
  cases outdoes with
  | nil => simpa [carried] using below
  | extra matched _ => simpa [carried, matched] using capped
  | @both first second _ _ covers _ =>
      simp only [carried, List.head?_cons, Option.all_some] at capped ⊢
      by_cases weak : second.decision.matched = true
      · simpa only [weak, (covers.decision weak).1, if_true] using below
      · simp only [weak, Bool.false_eq_true, if_false]
        by_cases strong : first.decision.matched = true
        · simpa only [strong, if_true] using nonneg
        · simp only [strong, Bool.false_eq_true, if_false, le_refl]

/-- The states of the stronger run are ahead: no window has a longer streak in the weaker
run, and no streak is negative. -/
structure Ahead (stronger weaker : StateMap) : Prop where
  below : ∀ key, weaker.streak key ≤ stronger.streak key
  nonneg : ∀ key, 0 ≤ stronger.streak key

variable {stronger weaker : List Visit} {states lower : StateMap}

/-- The streak of one window in a whole run. -/
theorem recordAll_streak_of (ticks : Int) (visits : List Visit) (states : StateMap)
    (key : WindowIdentity) :
    ((Ledger.opened states).recordAll ticks visits).states.streak key =
      carried (visitsOf key visits) (states.streak key) + matchCount (visitsOf key visits) := by
  have untouched : key ∉ (Ledger.opened states).touched := by simp [Ledger.opened]
  have own := recordAll_own_streak
    (fun visit (member : visit ∈ visitsOf key visits) => (mem_visitsOf.mp member).2) ticks untouched
  rw [(recordAll_sameAt (Ledger.opened states) ticks key visits).streak, own]
  rfl

theorem Outdoes.ahead (outdoes : Outdoes stronger weaker) (ahead : Ahead states lower)
    (ticks : Int) :
    Ahead ((Ledger.opened states).recordAll ticks stronger).states
      ((Ledger.opened lower).recordAll ticks weaker).states where
  below key := by
    have own := outdoes.visitsOf key
    rw [recordAll_streak_of, recordAll_streak_of]
    have start := own.carried_le (ahead.below key) (ahead.nonneg key)
    have count := own.matchCount_le
    omega
  nonneg key := recordAll_streak_nonneg ticks ahead.nonneg key

/-- What the weaker run confirms, the stronger one confirms too. -/
theorem Outdoes.confirmed (outdoes : Outdoes stronger weaker) (ahead : Ahead states lower)
    {ticks : Int} {visit : Visit}
    (confirmed : visit ∈ Ledger.confirmedVisits ticks (Ledger.opened lower) weaker) :
    ∃ counterpart ∈ Ledger.confirmedVisits ticks (Ledger.opened states) stronger,
      counterpart.Over visit := by
  obtain ⟨earlier, later, rfl, held⟩ := mem_confirmedVisits.mp confirmed
  obtain ⟨before, counterpart, after, rfl, outdone, covers⟩ := outdoes.split
  refine ⟨counterpart, mem_confirmedVisits.mpr ⟨before, after, rfl, ?_⟩, covers⟩
  rw [covers.identity]
  exact confirmedAt_mono (covers.decision.confirmedAt held)
    ((outdone.ahead ahead ticks).below visit.identity)

variable [Unicode] {graph : WindowGraph} {settings : LayoutSettings} {rules : LayoutRules}
  {tokens titles : List String}

omit [Unicode] in
theorem subtreeAny_imp {test other : WindowNode → Bool}
    (implies : ∀ node, other node = true → test node = true) (levels : Nat) {hwnd : Hwnd}
    (found : subtreeAny graph other levels hwnd = true) :
    subtreeAny graph test levels hwnd = true := by
  induction levels generalizing hwnd with
  | zero => exact found
  | succ levels ih =>
      simp only [subtreeAny] at found ⊢
      split at found
      · cases found
      · simp only [Bool.or_eq_true, List.any_eq_true] at found ⊢
        cases found with
        | inl here => exact Or.inl (implies _ here)
        | inr below =>
            obtain ⟨child, listed, inside⟩ := below
            exact Or.inr ⟨child, listed, ih inside⟩

theorem subtreeContainsAdToken_withWords (fewer : tokens.Sublist rules.aggressiveAdTokens)
    {hwnd : Hwnd} {maxDepth : Int}
    (found : subtreeContainsAdToken graph (rules.withWords tokens titles) hwnd maxDepth = true) :
    subtreeContainsAdToken graph rules hwnd maxDepth = true := by
  refine subtreeAny_imp (fun node token => ?_) _ found
  simp only [containsAnyAdToken] at token ⊢
  split at token
  · cases token
  · rename_i shown
    rw [if_neg shown]
    obtain ⟨word, listed, inText⟩ := List.any_eq_true.mp token
    exact List.any_eq_true.mpr ⟨word, (fewer.map Unicode.toLowercase).subset listed, inText⟩

/-- Fewer titles leave fewer windows with a signature, and the exact one alone. -/
theorem legacySignatureKind_withWords (fewer : titles.Sublist rules.chromeLegacyTitleContains)
    {hwnd : Hwnd}
    (signed : legacySignatureKind graph (rules.withWords tokens titles) hwnd ≠ "") :
    legacySignatureKind graph rules hwnd ≠ "" ∧
      (legacySignatureKind graph (rules.withWords tokens titles) hwnd = "exact" →
        legacySignatureKind graph rules hwnd = "exact") := by
  unfold legacySignatureKind at signed ⊢
  change (if hasWindowText graph hwnd rules.chromeLegacyTitle 8 then "exact"
    else if titles.any _ then "substring" else "") ≠ "" at signed
  change _ ∧ ((if hasWindowText graph hwnd rules.chromeLegacyTitle 8 then "exact"
    else if titles.any _ then "substring" else "") = "exact" → _)
  by_cases titled : hasWindowText graph hwnd rules.chromeLegacyTitle 8 = true
  · simp [titled]
  · simp only [titled, Bool.false_eq_true, if_false] at signed ⊢
    split at signed
    · rename_i inTitles
      obtain ⟨token, listed, inText⟩ := List.any_eq_true.mp inTitles
      have inMore : rules.chromeLegacyTitleContains.any (fun token =>
          token != "" && hasWindowTextContains graph hwnd token 8) = true :=
        List.any_eq_true.mpr ⟨token, fewer.subset listed, inText⟩
      simp [inTitles, inMore]
    · exact absurd rfl signed

theorem childAggressive_withWords (fewer : tokens.Sublist rules.aggressiveAdTokens)
    (child : Hwnd) (className : String) (parentRect : Rect) (rect : Option Rect) :
    (childAggressiveDecision graph rules child className parentRect rect).AtLeast
      (childAggressiveDecision graph (rules.withWords tokens titles) child className parentRect
        rect) := by
  cases rect with
  | none => exact fun matched => absurd matched (by simp [childAggressiveDecision])
  | some rect => exact aggressiveHideDecision_token (subtreeContainsAdToken_withWords fewer)

theorem mainArmed_withWords (fewerTokens : tokens.Sublist rules.aggressiveAdTokens)
    (fewerTitles : titles.Sublist rules.chromeLegacyTitleContains) {parent : WindowNode}
    {parentRect : Rect}
    (armed : mainArmed graph settings (rules.withWords tokens titles) parent parentRect = true) :
    mainArmed graph settings rules parent parentRect = true := by
  obtain ⟨context, member, signal⟩ := List.any_eq_true.mp armed
  obtain ⟨child, listed, built⟩ := List.mem_filterMap.mp member
  obtain ⟨node, found, owned, _, _, _, _, rect, decision, _, signals⟩ :=
    childContext_eq_some built
  cases strong : childContext graph settings rules parent.hwnd parentRect child with
  | none => simp [childContext, found, owned] at strong
  | some other =>
      obtain ⟨same, foundSame, _, _, _, _, _, otherRect, otherDecision, _, otherSignals⟩ :=
        childContext_eq_some strong
      obtain rfl : node = same := Option.some.inj (found.symm.trans foundSame)
      refine List.any_eq_true.mpr ⟨other, List.mem_filterMap.mpr ⟨child, listed, strong⟩, ?_⟩
      rw [signals, Bool.or_eq_true] at signal
      rw [otherSignals, Bool.or_eq_true]
      cases signal with
      | inl titled =>
          refine Or.inl ?_
          change (if rules.closeEmptyEvaChildRequiresAdSignal then
            legacySignatureKind graph (rules.withWords tokens titles) child else "") != "" at titled
          split at titled
          · rename_i required
            rw [if_pos required, bne_iff_ne]
            exact (legacySignatureKind_withWords fewerTitles (bne_iff_ne.mp titled)).1
          · exact absurd titled (by simp)
      | inr matched =>
          rw [decision, rect] at matched
          rw [otherDecision, otherRect]
          exact Or.inr (childAggressive_withWords fewerTokens child _ parentRect _ matched).1

omit [Unicode] in
/-- Stronger verdicts of one rule ask for the same action. -/
theorem over_of_kind {stronger weaker : Visit} (kind : ActionKind)
    (hwnd : stronger.hwnd = weaker.hwnd) (identity : stronger.identity = weaker.identity)
    (decision : stronger.decision.AtLeast weaker.decision)
    (strong : stronger.decision.action = if stronger.decision.matched then kind else .none)
    (weak : weaker.decision.action = if weaker.decision.matched then kind else .none) :
    stronger.Over weaker where
  hwnd := hwnd
  identity := identity
  decision := decision
  action matched := by rw [strong, weak, matched, (decision matched).1]

theorem childRound_withWords (fewerTokens : tokens.Sublist rules.aggressiveAdTokens)
    (fewerTitles : titles.Sublist rules.chromeLegacyTitleContains) (tracksSignal : Bool)
    (parent : WindowNode) (parentRect : Rect) (child : WindowNode) :
    Outdoes (childRound graph settings rules tracksSignal parent parentRect child)
      (childRound graph settings (rules.withWords tokens titles) tracksSignal parent parentRect
        child) := by
  have closes : (closeVisitOf graph settings rules parent parentRect child).Over
      (closeVisitOf graph settings (rules.withWords tokens titles) parent parentRect child) :=
    over_of_kind .close rfl rfl
      (emptyEvaCloseDecision_signal (mainArmed_withWords fewerTokens fewerTitles))
      (emptyEvaCloseDecision_action ..) (emptyEvaCloseDecision_action ..)
  have hides : (aggressiveVisitOf graph rules tracksSignal parentRect child).Over
      (aggressiveVisitOf graph (rules.withWords tokens titles) tracksSignal parentRect child) :=
    over_of_kind .hide rfl rfl (childAggressive_withWords fewerTokens _ _ _ _)
      (childAggressiveDecision_action ..) (childAggressiveDecision_action ..)
  refine Outdoes.append ?_ ?_
  · change Outdoes _ (if child.className = rules.evaChildClass ∧ child.text = "" ∧
      parent.text ≠ "" then _ else [])
    split
    · exact .both closes .nil
    · exact .nil
  · split
    · exact .both hides .nil
    · exact .nil

theorem mainVisits_withWords (fewerTokens : tokens.Sublist rules.aggressiveAdTokens)
    (fewerTitles : titles.Sublist rules.chromeLegacyTitleContains) (tracksSignal : Bool)
    (wnd : Hwnd) :
    Outdoes (mainVisits graph settings rules tracksSignal wnd)
      (mainVisits graph settings (rules.withWords tokens titles) tracksSignal wnd) := by
  cases found : graph.get wnd with
  | none => simpa only [mainVisits, mainContexts, found, Option.bind_none] using .nil
  | some parent =>
      obtain rfl := WindowGraph.get_hwnd found
      cases rect : parent.rect with
      | none =>
          simpa only [mainVisits, mainContexts, found, rect, Option.bind_some, Option.map_none]
            using .nil
      | some parentRect =>
          rw [mainVisits_rounds settings tracksSignal found rect,
            mainVisits_rounds settings tracksSignal found rect]
          refine Outdoes.flatMap fun hwnd _ => Outdoes.flatMap fun child _ => ?_
          split
          · exact childRound_withWords fewerTokens fewerTitles tracksSignal parent parentRect child
          · exact .nil

/-- A signature always matches. -/
theorem legacy_matched {hwnd : Hwnd} (signed : legacySignatureKind graph rules hwnd ≠ "") :
    (legacyHideDecision (legacySignatureKind graph rules hwnd)).matched = true := by
  obtain exactly | partly | unsigned := legacySignatureKind_cases graph rules hwnd
  · rw [exactly]
    rfl
  · rw [partly]
    rfl
  · exact absurd unsigned signed

theorem legacyHide_withWords (fewer : titles.Sublist rules.chromeLegacyTitleContains)
    (hwnd : Hwnd) :
    (legacyHideDecision (legacySignatureKind graph rules hwnd)).AtLeast
      (legacyHideDecision (legacySignatureKind graph (rules.withWords tokens titles) hwnd)) := by
  intro matched
  have signed : legacySignatureKind graph (rules.withWords tokens titles) hwnd ≠ "" := by
    intro unsigned
    rw [unsigned] at matched
    cases matched
  obtain ⟨stillSigned, exactly⟩ := legacySignatureKind_withWords fewer signed
  refine ⟨legacy_matched stillSigned, fun strong => ?_⟩
  have kind : legacySignatureKind graph (rules.withWords tokens titles) hwnd = "exact" := by
    obtain exactly | partly | unsigned :=
      legacySignatureKind_cases graph (rules.withWords tokens titles) hwnd
    · exact exactly
    · rw [partly] at strong
      cases strong
    · exact absurd unsigned signed
  rw [exactly kind]
  rfl

theorem legacyVisit_withWords (fewer : titles.Sublist rules.chromeLegacyTitleContains)
    (tracksSignal : Bool) (node : WindowNode) :
    (legacyVisitOf graph rules tracksSignal node).Over
      (legacyVisitOf graph (rules.withWords tokens titles) tracksSignal node) :=
  over_of_kind .hide rfl rfl (legacyHide_withWords fewer node.hwnd)
    (legacyHideDecision_action _) (legacyHideDecision_action _)

/-- The legacy visit of one top-level window, if it is a candidate. -/
def candidateVisit (graph : WindowGraph) (rules : LayoutRules) (mainHandles : List Hwnd)
    (tracksSignal : Bool) (node : WindowNode) : List Visit :=
  if node.hwnd ∈ candidateHandles graph rules mainHandles then
    [legacyVisitOf graph rules tracksSignal node]
  else []

theorem legacyVisits_eq (mainHandles : List Hwnd) (tracksSignal : Bool) :
    (candidateHandles graph rules mainHandles).filterMap (legacyVisit graph rules tracksSignal) =
      (collectTopLevel graph).flatMap
        (candidateVisit graph rules mainHandles tracksSignal) := by
  conv_lhs => rw [candidateHandles, List.filterMap_filterMap, List.filterMap_eq_flatMap_toList]
  refine List.flatMap_congr fun node top => ?_
  have found := (mem_collectTopLevel.mp top).1
  simp only [candidateVisit, candidate_node top]
  by_cases classed : node.className ∈ rules.adCandidateClasses
  · by_cases owned : node.win32Parent ∈ mainHandles
    · by_cases blank : node.text = ""
      · simp [classed, owned, blank, legacyVisit, found, legacyVisitOf]
      · simp [classed, owned, blank]
    · by_cases root : node.win32Parent = 0
      · rw [root] at owned
        by_cases unsigned : legacySignatureKind graph rules node.hwnd = ""
        · simp [classed, owned, root, unsigned]
        · simp [classed, owned, root, unsigned, legacyVisit, found, legacyVisitOf]
      · simp [classed, owned, root]
  · simp [classed]

theorem candidateVisit_withWords (fewer : titles.Sublist rules.chromeLegacyTitleContains)
    (mainHandles : List Hwnd) (tracksSignal : Bool) {node : WindowNode}
    (top : node ∈ collectTopLevel graph) :
    Outdoes (candidateVisit graph rules mainHandles tracksSignal node)
      (candidateVisit graph (rules.withWords tokens titles) mainHandles tracksSignal node) := by
  by_cases candidate : node.hwnd ∈
      candidateHandles graph (rules.withWords tokens titles) mainHandles
  · obtain ⟨classed, rule⟩ := (candidate_node top).mp candidate
    have still : node.hwnd ∈ candidateHandles graph rules mainHandles :=
      (candidate_node top).mpr ⟨classed, rule.imp_right fun root =>
        ⟨root.1, root.2.1, (legacySignatureKind_withWords fewer root.2.2).1⟩⟩
    rw [candidateVisit, candidateVisit, if_pos candidate, if_pos still]
    exact .both (legacyVisit_withWords fewer tracksSignal node) .nil
  · by_cases before : node.hwnd ∈ candidateHandles graph rules mainHandles
    · rw [candidateVisit, candidateVisit, if_neg candidate, if_pos before]
      obtain ⟨classed, rule⟩ := (candidate_node top).mp before
      cases rule with
      | inl owned =>
          have still : node.hwnd ∈
              candidateHandles graph (rules.withWords tokens titles) mainHandles :=
            (candidate_node top).mpr ⟨classed, Or.inl owned⟩
          exact absurd still candidate
      | inr root => exact .extra (legacy_matched root.2.2) .nil
    · rw [candidateVisit, candidateVisit, if_neg candidate, if_neg before]
      exact .nil

/-- All visits of an evaluation, under more and under fewer words. -/
theorem ledgerVisits_withWords (fewerTokens : tokens.Sublist rules.aggressiveAdTokens)
    (fewerTitles : titles.Sublist rules.chromeLegacyTitleContains) (tracksSignal : Bool) :
    Outdoes (ledgerVisits graph settings rules tracksSignal)
      (ledgerVisits graph settings (rules.withWords tokens titles) tracksSignal) := by
  have mains : confirmedMain graph (rules.withWords tokens titles) = confirmedMain graph rules :=
    rfl
  rw [ledgerVisits, ledgerVisits, mains, legacyVisits_eq, legacyVisits_eq]
  exact (Outdoes.flatMap fun wnd _ =>
    mainVisits_withWords fewerTokens fewerTitles tracksSignal wnd).append
    (Outdoes.flatMap fun node top => candidateVisit_withWords fewerTitles _ tracksSignal top)

/-- An evaluation that hides and closes no window another one leaves alone. -/
structure Evaluation.Within (first second : Evaluation) : Prop where
  hide : ∀ hwnd ∈ second.actions.hide, hwnd ∈ first.actions.hide
  close : ∀ hwnd ∈ second.actions.close, hwnd ∈ first.actions.close

variable {states lower : StateMap}

theorem decided_withWords (fewerTokens : tokens.Sublist rules.aggressiveAdTokens)
    (fewerTitles : titles.Sublist rules.chromeLegacyTitleContains) (ahead : Ahead states lower)
    {visit : Visit}
    (decided : visit ∈ decidedVisits graph settings (rules.withWords tokens titles) lower) :
    ∃ counterpart ∈ decidedVisits graph settings rules states, counterpart.Over visit :=
  (ledgerVisits_withWords fewerTokens fewerTitles false).confirmed ahead decided

theorem evaluate_withWords (fewerTokens : tokens.Sublist rules.aggressiveAdTokens)
    (fewerTitles : titles.Sublist rules.chromeLegacyTitleContains) (ahead : Ahead states lower)
    (withCandidates : Bool) :
    (evaluateInner graph settings rules states withCandidates).1.Within
      (evaluateInner graph settings (rules.withWords tokens titles) lower withCandidates).1 where
  hide hwnd hidden := by
    refine mem_evaluate_hide.mpr ((mem_evaluate_hide.mp hidden).imp_left fun decided => ?_)
    obtain ⟨visit, kept, rfl⟩ := List.mem_map.mp decided
    obtain ⟨inRun, hides⟩ := List.mem_filter.mp kept
    obtain ⟨counterpart, inMore, covers⟩ := decided_withWords fewerTokens fewerTitles ahead inRun
    refine List.mem_map.mpr ⟨counterpart, List.mem_filter.mpr ⟨inMore, ?_⟩, covers.hwnd⟩
    rwa [covers.action (decided_matched inRun)]
  close hwnd closed := by
    refine mem_evaluate_close.mpr ((mem_evaluate_close.mp closed).imp_left fun decided => ?_)
    obtain ⟨visit, kept, rfl⟩ := List.mem_map.mp decided
    obtain ⟨inRun, closes⟩ := List.mem_filter.mp kept
    obtain ⟨counterpart, inMore, covers⟩ := decided_withWords fewerTokens fewerTitles ahead inRun
    refine List.mem_map.mpr ⟨counterpart, List.mem_filter.mpr ⟨inMore, ?_⟩, covers.hwnd⟩
    rwa [covers.action (decided_matched inRun)]

omit [Unicode] in
theorem foldl_nextStreak_mono (decisions : List AdDecision) {streak shorter : Int}
    (below : shorter ≤ streak) :
    decisions.foldl (fun streak decision => nextStreak decision streak) shorter ≤
      decisions.foldl (fun streak decision => nextStreak decision streak) streak := by
  induction decisions generalizing streak shorter with
  | nil => exact below
  | cons decision rest ih =>
      refine ih ?_
      simp only [nextStreak, next_unbounded]
      split
      · omega
      · exact le_rfl

theorem ahead_withWords (fewerTokens : tokens.Sublist rules.aggressiveAdTokens)
    (fewerTitles : titles.Sublist rules.chromeLegacyTitleContains) (ahead : Ahead states lower)
    (withCandidates : Bool) :
    Ahead (evaluateInner graph settings rules states withCandidates).2
      (evaluateInner graph settings (rules.withWords tokens titles) lower withCandidates).2 where
  below key := by
    have verdicts : popupVerdicts graph (rules.withWords tokens titles) =
      popupVerdicts graph rules := rfl
    rw [evaluate_states, evaluate_states, verdicts, storeAll_streak, storeAll_streak]
    have visits : Outdoes (ledgerVisits graph settings rules false)
        (ledgerVisits graph settings (rules.withWords tokens titles) false) :=
      ledgerVisits_withWords fewerTokens fewerTitles false
    exact foldl_nextStreak_mono _ ((visits.ahead ahead rules.weakSignalConfirmTicks).below key)
  nonneg key := evaluate_streak_nonneg withCandidates ahead.nonneg key

/-- The runs stay within each other from any states that are ahead. -/
theorem evaluations_withWords (fewerTokens : tokens.Sublist rules.aggressiveAdTokens)
    (fewerTitles : titles.Sublist rules.chromeLegacyTitleContains) (ahead : Ahead states lower)
    (steps : List EvaluationStep) (withCandidates : Bool) :
    List.Forall₂ Evaluation.Within (evaluations rules withCandidates states steps).1
      (evaluations (rules.withWords tokens titles) withCandidates lower steps).1 := by
  induction steps generalizing states lower with
  | nil => exact .nil
  | cons step rest ih =>
      exact .cons (evaluate_withWords fewerTokens fewerTitles ahead withCandidates)
        (ih (ahead_withWords fewerTokens fewerTitles ahead withCandidates))

omit [Unicode] in
theorem ahead_empty : Ahead StateMap.empty StateMap.empty where
  below _ := le_rfl
  nonneg key := (StateMap.streak_empty key).ge

/-- Fewer ad words never hide or close more: over any sequence of evaluations from
empty candidate states, the run with the shorter word lists stays within the
other one at every evaluation. -/
theorem fewer_words_never_block_more (rules : LayoutRules) {tokens titles : List String}
    (fewerTokens : tokens.Sublist rules.aggressiveAdTokens)
    (fewerTitles : titles.Sublist rules.chromeLegacyTitleContains)
    (steps : List EvaluationStep) (withCandidates : Bool) :
    List.Forall₂ Evaluation.Within (evaluations rules withCandidates StateMap.empty steps).1
      (evaluations (rules.withWords tokens titles) withCandidates StateMap.empty steps).1 :=
  evaluations_withWords fewerTokens fewerTitles ahead_empty steps withCandidates

/-- An evaluation of that screen with the settings as they are by default. -/
def bannerStep : EvaluationStep := { graph := bannerGraph, settings := {} }

omit [Unicode] in
/-- Without the token "Ad" the default rules hide no more: they leave the banner alone. -/
theorem default_without_ad :
    let _ := asciiLowercase
    let longer := (evaluations .default false StateMap.empty [bannerStep, bannerStep]).1
    let shorter := (evaluations (LayoutRules.default.withWords ["AdFit"] []) false StateMap.empty
      [bannerStep, bannerStep]).1
    List.Forall₂ Evaluation.Within longer shorter ∧
      (longer.map fun evaluation => evaluation.actions.hide) = [[4], [4]] ∧
      (shorter.map fun evaluation => evaluation.actions.hide) = [[], []] :=
  let _ := asciiLowercase
  ⟨fewer_words_never_block_more .default (by decide) (by decide) [bannerStep, bannerStep] false,
    by decide, by decide⟩

end LayoutAdblock.Core
