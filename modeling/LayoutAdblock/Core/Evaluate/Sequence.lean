import LayoutAdblock.Data.Streak
import LayoutAdblock.Core.Evaluate.Effects
import LayoutAdblock.Core.Evaluate.Streaks

namespace LayoutAdblock.Core

open Ledger

/-! # Sequences of evaluations

Weak verdicts wait for a streak.  The streak counts consecutive evaluations as
long as every evaluation records one verdict about the window: at most one
match, and a miss whenever there is a streak to break.
-/

section Verdicts

variable [Unicode] (graph : WindowGraph) (settings : LayoutSettings) (rules : LayoutRules)
  (key : WindowIdentity)

/-- The decisions of the ledger phases about one window, in order. -/
def ledgerDecisions : List AdDecision :=
  (visitsOf key (ledgerVisits graph settings rules false)).map Visit.decision

/-- The decisions of the popup phase about one window, in order. -/
def popupDecisions : List AdDecision :=
  ((popupVerdicts graph rules).filter fun verdict => decide (verdict.1 = key)).map Prod.snd

/-- Every verdict one evaluation reaches about a window, from the ledger phases first and
then from the popups. -/
def decisionsAbout : List AdDecision :=
  ledgerDecisions graph settings rules key ++ popupDecisions graph rules key

/-- The window is matched by some verdict of the evaluation. -/
def matchedIn : Bool :=
  (decisionsAbout graph settings rules key).any AdDecision.matched

/-- The evaluation records what comes to one verdict about the window: its streak, if it has
one, is not wiped and then extended, and at most one match is counted. -/
structure Steady (streak : Int) : Prop where
  /-- It counts the window at most once. -/
  once : (decisionsAbout graph settings rules key).countP AdDecision.matched ≤ 1
  /-- No miss wipes the streak before a match extends it. -/
  leads : 0 < streak → ∀ decision ∈ (decisionsAbout graph settings rules key).tail,
    decision.matched = false
  /-- No miss of the popup phase, which does not ask the ledger, follows a match. -/
  kept : matchedIn graph settings rules key = true →
    ((popupDecisions graph rules key).getLast?.all AdDecision.matched) = true
  /-- A window with a streak is visited. -/
  visited : 0 < streak → decisionsAbout graph settings rules key ≠ []

end Verdicts

theorem storeAll_streak (ticks : Int) (states : StateMap)
    (verdicts : List (WindowIdentity × AdDecision)) (key : WindowIdentity) :
    (storeAll ticks states verdicts).streak key =
      ((verdicts.filter fun verdict => decide (verdict.1 = key)).map Prod.snd).foldl
        (fun streak decision => nextStreak decision streak) (states.streak key) := by
  induction verdicts generalizing states with
  | nil => rfl
  | cons verdict rest ih =>
      simp only [storeAll, List.foldl_cons] at ih ⊢
      rw [ih]
      by_cases own : verdict.1 = key
      · subst own
        simp [storeUpdate_streak_self]
      · simp [own, storeUpdate_streak_other _ _ _ (Ne.symm own)]

/-- Misses leave no streak, unless there are none. -/
theorem foldl_nextStreak_misses {decisions : List AdDecision} {streak : Int}
    (misses : ∀ decision ∈ decisions, decision.matched = false) :
    decisions.foldl (fun streak decision => nextStreak decision streak) streak =
      if decisions = [] then streak else 0 := by
  induction decisions generalizing streak with
  | nil => rfl
  | cons decision rest ih =>
      have reset : nextStreak decision streak = 0 := by
        simp [nextStreak, misses decision (List.mem_cons_self ..)]
      rw [List.foldl_cons, ih fun other member => misses other (List.mem_cons_of_mem _ member),
        reset]
      simp

theorem exists_single_split {α : Type*} {test : α → Bool} {values : List α} {value : α}
    (member : value ∈ values) (passed : test value = true) (once : values.countP test ≤ 1) :
    ∃ earlier later, values = earlier ++ value :: later ∧
      (∀ other ∈ earlier, test other = false) ∧ ∀ other ∈ later, test other = false := by
  obtain ⟨earlier, later, rfl⟩ := List.append_of_mem member
  refine ⟨earlier, later, rfl, ?_⟩
  rw [List.countP_append, List.countP_cons_of_pos passed] at once
  have noneEarlier : earlier.countP test = 0 := by omega
  have noneLater : later.countP test = 0 := by omega
  rw [List.countP_eq_zero] at noneEarlier noneLater
  exact ⟨fun other listed => Bool.eq_false_iff.mpr (noneEarlier other listed),
    fun other listed => Bool.eq_false_iff.mpr (noneLater other listed)⟩

section Step

variable [Unicode] {graph : WindowGraph} {settings : LayoutSettings} {rules : LayoutRules}
  {states : StateMap} {key : WindowIdentity}

/-- A match of the ledger phases is the only one, and finds the streak that the
window had before the evaluation. -/
theorem Steady.ledger_match (steady : Steady graph settings rules key (states.streak key))
    (nonneg : 0 ≤ states.streak key) {visit : Visit}
    (member : visit ∈ visitsOf key (ledgerVisits graph settings rules false))
    (matched : visit.decision.matched = true) :
    ∃ earlier later,
      visitsOf key (ledgerVisits graph settings rules false) = earlier ++ visit :: later ∧
      (∀ other ∈ earlier, other.identity = key ∧ other.decision.matched = false) ∧
      (∀ other ∈ later, other.identity = key ∧ other.decision.matched = false) ∧
      ((opened states).recordAll rules.weakSignalConfirmTicks earlier).states.streak key =
        states.streak key := by
  have once : (visitsOf key (ledgerVisits graph settings rules false)).countP
      (fun visit => visit.decision.matched) ≤ 1 := by
    have total := steady.once
    rw [decisionsAbout, List.countP_append, ledgerDecisions, List.countP_map] at total
    exact (Nat.le_add_right _ _).trans total
  obtain ⟨earlier, later, split, before, after⟩ := exists_single_split member matched once
  have own : ∀ other ∈ earlier ++ visit :: later, other.identity = key := by
    intro other listed
    rw [← split] at listed
    exact (mem_visitsOf.mp listed).2
  refine ⟨earlier, later, split, ?_, ?_, ?_⟩
  · exact fun other listed => ⟨own other (by simp [listed]), before other listed⟩
  · exact fun other listed => ⟨own other (by simp [listed]), after other listed⟩
  · rcases nonneg.lt_or_eq with positive | zero
    · cases earlier with
      | nil => rfl
      | cons first rest =>
          have late := steady.leads positive visit.decision (by
            simp [decisionsAbout, ledgerDecisions, split])
          exact absurd matched (Bool.eq_false_iff.mp late)
    · have start : (opened states).states.streak key = 0 := zero.symm
      rw [← zero]
      exact recordAll_misses_streak _
        (fun other listed => ⟨own other (by simp [listed]), before other listed⟩)
        (by simp [opened]) (Or.inr start)

/-- Misses of the ledger phases break the streak. -/
theorem ledger_misses_streak
    (misses : ∀ decision ∈ ledgerDecisions graph settings rules key, decision.matched = false) :
    ((opened states).recordAll rules.weakSignalConfirmTicks
      (visitsOf key (ledgerVisits graph settings rules false))).states.streak key =
      if ledgerDecisions graph settings rules key = [] then states.streak key else 0 := by
  unfold ledgerDecisions at misses ⊢
  simp only [List.map_eq_nil_iff]
  split
  · rename_i unvisited
    rw [unvisited]
    rfl
  · rename_i visited
    exact recordAll_misses_streak _
      (fun visit member => ⟨(mem_visitsOf.mp member).2, misses _ (List.mem_map_of_mem member)⟩)
      (by simp [opened]) (Or.inl visited)

/-- A match of the popup phase comes last and extends the streak. -/
theorem Steady.popup_match (steady : Steady graph settings rules key (states.streak key))
    (nonneg : 0 ≤ states.streak key)
    (misses : ∀ decision ∈ ledgerDecisions graph settings rules key, decision.matched = false)
    (found : matchedIn graph settings rules key = true) :
    (popupDecisions graph rules key).foldl (fun streak decision => nextStreak decision streak)
        (if ledgerDecisions graph settings rules key = [] then states.streak key else 0) =
      states.streak key + 1 := by
  obtain ⟨decision, member, matched⟩ := List.any_eq_true.mp found
  have inPopup : decision ∈ popupDecisions graph rules key := by
    rcases List.mem_append.mp member with early | late
    · exact absurd matched (by simp [misses decision early])
    · exact late
  have once : (popupDecisions graph rules key).countP AdDecision.matched ≤ 1 := by
    have total := steady.once
    rw [decisionsAbout, List.countP_append] at total
    omega
  obtain ⟨earlier, later, split, before, after⟩ := exists_single_split inPopup matched once
  have last : later = [] := by
    by_contra more
    have final := steady.kept found
    rw [split, List.getLast?_append, List.getLast?_cons,
      List.getLast?_eq_some_getLast more] at final
    simp [after _ (List.getLast_mem more)] at final
  rw [split, last, List.foldl_append, foldl_nextStreak_misses before, List.foldl_cons,
    List.foldl_nil, nextStreak, if_pos matched]
  rcases nonneg.lt_or_eq with positive | zero
  · -- The streak survives: nothing may come before the match.
    have tail := steady.leads positive decision
    unfold decisionsAbout at tail
    cases ledger : ledgerDecisions graph settings rules key with
    | nil =>
        cases earlier with
        | nil => simp
        | cons first rest =>
            rw [ledger, split, List.nil_append, List.cons_append, List.tail_cons] at tail
            exact absurd matched (Bool.eq_false_iff.mp (tail (by simp)))
    | cons first rest =>
        rw [ledger, List.cons_append, List.tail_cons] at tail
        exact absurd matched (Bool.eq_false_iff.mp (tail (List.mem_append_right _ inPopup)))
  · rw [← zero]
    simp

/-- The streak one evaluation leaves. -/
theorem Steady.next_streak (steady : Steady graph settings rules key (states.streak key))
    (nonneg : 0 ≤ states.streak key) (withCandidates : Bool) :
    (evaluateInner graph settings rules states withCandidates).2.streak key =
      if matchedIn graph settings rules key then states.streak key + 1 else 0 := by
  rw [evaluate_states, storeAll_streak]
  change (popupDecisions graph rules key).foldl _ _ = _
  rw [(recordAll_sameAt (opened states) rules.weakSignalConfirmTicks key _).streak]
  by_cases inLedger : ∃ visit ∈ visitsOf key (ledgerVisits graph settings rules false),
      visit.decision.matched = true
  · -- The match is the ledger's: the popup phase has no verdict about the window.
    obtain ⟨visit, member, matched⟩ := inLedger
    obtain ⟨earlier, later, split, _, after, turn⟩ := steady.ledger_match nonneg member matched
    have own := (mem_visitsOf.mp member).2
    have found : matchedIn graph settings rules key = true := by
      simp only [matchedIn, List.any_eq_true]
      exact ⟨visit.decision, List.mem_append_left _ (List.mem_map_of_mem member), matched⟩
    have noPopup : popupDecisions graph rules key = [] := by
      by_contra some_
      have last := steady.kept found
      rw [List.getLast?_eq_some_getLast some_] at last
      have counted := steady.once
      have inLedger : 0 < (ledgerDecisions graph settings rules key).countP
          AdDecision.matched :=
        List.countP_pos_iff.mpr ⟨visit.decision, List.mem_map_of_mem member, matched⟩
      have inPopup : 0 < (popupDecisions graph rules key).countP AdDecision.matched :=
        List.countP_pos_iff.mpr ⟨_, List.getLast_mem some_, last⟩
      rw [decisionsAbout, List.countP_append] at counted
      omega
    subst own
    rw [noPopup, List.foldl_nil, split, recordAll_single_match _ matched after, turn,
      if_pos found, next_unbounded]
  · have misses : ∀ decision ∈ ledgerDecisions graph settings rules key,
        decision.matched = false := by
      intro decision listed
      obtain ⟨visit, member, rfl⟩ := List.mem_map.mp listed
      by_contra matched
      exact inLedger ⟨visit, member, by simpa using matched⟩
    rw [ledger_misses_streak misses]
    cases found : matchedIn graph settings rules key with
    | true => exact steady.popup_match nonneg misses found
    | false =>
        have missed : ∀ decision ∈ popupDecisions graph rules key,
            decision.matched = false := by
          intro decision listed
          by_contra matched
          have some_ : matchedIn graph settings rules key = true :=
            List.any_eq_true.mpr ⟨decision, List.mem_append_right _ listed, by simpa using matched⟩
          exact Bool.false_ne_true (found.symm.trans some_)
        rw [foldl_nextStreak_misses missed]
        rcases nonneg.lt_or_eq with positive | zero
        · have visited := steady.visited positive
          unfold decisionsAbout at visited
          by_cases popup : popupDecisions graph rules key = []
          · have ledger : ledgerDecisions graph settings rules key ≠ [] := by
              simpa [popup] using visited
            simp [popup, ledger]
          · simp [popup]
        · rw [← zero]
          simp

/-- A weak verdict is confirmed when the streak before the evaluation, and this
match, are long enough. -/
theorem Steady.weak_decided (steady : Steady graph settings rules key (states.streak key))
    (nonneg : 0 ≤ states.streak key) {visit : Visit}
    (member : visit ∈ ledgerVisits graph settings rules false) (own : visit.identity = key)
    (matched : visit.decision.matched = true) (weak : visit.decision.decision = .weak) :
    visit ∈ decidedVisits graph settings rules states ↔
      max rules.weakSignalConfirmTicks 1 ≤ states.streak key + 1 := by
  subst own
  obtain ⟨earlier, later, split, before, after, turn⟩ :=
    steady.ledger_match nonneg (mem_visitsOf.mpr ⟨member, rfl⟩) matched
  unfold decidedVisits
  rw [mem_confirmedVisits_visitsOf, split,
    confirmedVisits_single_match _ (fun other listed => (before other listed).2)
      (fun other listed => (after other listed).2), turn]
  simp only [confirmedAt, matched, weak, Bool.true_and]
  split
  · rename_i long
    simpa using long
  · rename_i short
    simpa using short

end Step

/-- One evaluation of a sequence. -/
structure EvaluationStep where
  graph : WindowGraph
  settings : LayoutSettings

variable [Unicode]

/-- The evaluations of a run, and the candidate states it leaves behind. Each of them starts
from the states of the one before. -/
def evaluations (rules : LayoutRules) (withCandidates : Bool) :
    StateMap → List EvaluationStep → List Evaluation × StateMap
  | states, [] => ([], states)
  | states, step :: rest =>
      let evaluated := evaluateInner step.graph step.settings rules states withCandidates
      let later := evaluations rules withCandidates evaluated.2 rest
      (evaluated.1 :: later.1, later.2)

/-- The candidate states after a sequence of evaluations that starts with none. -/
def statesAfter (rules : LayoutRules) (steps : List EvaluationStep) : StateMap :=
  steps.foldl (fun states step =>
    (evaluateGraphWithStates step.graph step.settings rules states).2) StateMap.empty

/-- Every evaluation of the sequence records one verdict about the window. -/
def SteadyRun (rules : LayoutRules) (key : WindowIdentity) (steps : List EvaluationStep) : Prop :=
  ∀ earlier step later, steps = earlier ++ step :: later →
    Steady step.graph step.settings rules key ((statesAfter rules earlier).streak key)

theorem steadyRun_nil (rules : LayoutRules) (key : WindowIdentity) : SteadyRun rules key [] := by
  intro earlier step later split
  simp at split

theorem steadyRun_concat {rules : LayoutRules} {key : WindowIdentity}
    {steps : List EvaluationStep} {last : EvaluationStep} :
    SteadyRun rules key (steps ++ [last]) ↔ SteadyRun rules key steps ∧
      Steady last.graph last.settings rules key ((statesAfter rules steps).streak key) := by
  constructor
  · intro steady
    refine ⟨?_, steady steps last [] rfl⟩
    rintro earlier step later rfl
    exact steady earlier step (later ++ [last]) (by simp)
  · rintro ⟨before, here⟩ earlier step later split
    cases later using List.reverseRecOn with
    | nil =>
        obtain ⟨rfl, same⟩ := List.append_inj' split rfl
        obtain rfl := List.singleton_inj.mp same
        exact here
    | append_singleton later final =>
        rw [← List.cons_append, ← List.append_assoc] at split
        exact before earlier step later (List.append_inj' split rfl).1

/-- The window is matched in an evaluation of the sequence. -/
def EvaluationStep.matched (rules : LayoutRules) (key : WindowIdentity)
    (step : EvaluationStep) : Bool :=
  matchedIn step.graph step.settings rules key

theorem statesAfter_concat (rules : LayoutRules) (steps : List EvaluationStep)
    (last : EvaluationStep) :
    statesAfter rules (steps ++ [last]) =
      (evaluateGraphWithStates last.graph last.settings rules (statesAfter rules steps)).2 := by
  simp [statesAfter]

/-- In a steady run the streak counts the consecutive evaluations that matched. -/
theorem streak_statesAfter {rules : LayoutRules} {key : WindowIdentity}
    {steps : List EvaluationStep} (steady : SteadyRun rules key steps) :
    (statesAfter rules steps).streak key =
      Data.trailingRun (EvaluationStep.matched rules key) steps := by
  induction steps using List.reverseRecOn with
  | nil => rfl
  | append_singleton steps last ih =>
      obtain ⟨earlier, here⟩ := steadyRun_concat.mp steady
      have before := ih earlier
      rw [statesAfter_concat, Data.trailingRun_concat, evaluateGraphWithStates,
        here.next_streak (by rw [before]; exact Int.natCast_nonneg _), before]
      unfold EvaluationStep.matched
      split <;> simp

/-- The evaluation hides or closes the window on account of a weak verdict. A strong one
would have done so without any streak. -/
def ActedWeakly (rules : LayoutRules) (states : StateMap) (key : WindowIdentity)
    (step : EvaluationStep) : Prop :=
  ∃ visit ∈ decidedVisits step.graph step.settings rules states,
    visit.identity = key ∧ visit.decision.decision = .weak ∧
      ((visit.decision.action = .hide ∧ visit.hwnd ∈
        (evaluateGraphWithStates step.graph step.settings rules states).1.actions.hide) ∨
      (visit.decision.action = .close ∧ visit.hwnd ∈
        (evaluateGraphWithStates step.graph step.settings rules states).1.actions.close))

/-- The evaluation decides weakly about the window. -/
def DecidesWeakly (rules : LayoutRules) (key : WindowIdentity) (step : EvaluationStep) : Prop :=
  ∃ visit ∈ ledgerVisits step.graph step.settings rules false,
    visit.identity = key ∧ visit.decision.matched = true ∧ visit.decision.decision = .weak

theorem actedWeakly_iff_decided {rules : LayoutRules} {states : StateMap} {key : WindowIdentity}
    {step : EvaluationStep} :
    ActedWeakly rules states key step ↔
      ∃ visit ∈ decidedVisits step.graph step.settings rules states,
        visit.identity = key ∧ visit.decision.decision = .weak := by
  constructor
  · rintro ⟨visit, decided, own, weak, _⟩
    exact ⟨visit, decided, own, weak⟩
  · rintro ⟨visit, decided, own, weak⟩
    refine ⟨visit, decided, own, weak, ?_⟩
    have matched : visit.decision.matched = true := by
      obtain ⟨_, _, _, confirmed⟩ := mem_confirmedVisits.mp decided
      simp only [confirmedAt, Bool.and_eq_true] at confirmed
      exact confirmed.1
    rcases visit_action (mem_of_mem_confirmedVisits decided) with ⟨miss, _⟩ | ⟨_, hide | close⟩
    · exact absurd matched (by simp [miss])
    · refine Or.inl ⟨hide, mem_evaluate_hide.mpr (Or.inl ?_)⟩
      exact List.mem_map_of_mem (List.mem_filter.mpr ⟨decided, by simp [hide]⟩)
    · refine Or.inr ⟨close, mem_evaluate_close.mpr (Or.inl ?_)⟩
      exact List.mem_map_of_mem (List.mem_filter.mpr ⟨decided, by simp [close]⟩)

/-- In a run whose evaluations each record one verdict about a window, the last
evaluation acts on a weak verdict about it exactly when it decides weakly and
the window was matched in each of the last `max(1, weak_signal_confirm_ticks)`
evaluations. -/
theorem weak_action_iff_consecutive {rules : LayoutRules} {key : WindowIdentity}
    (steps : List EvaluationStep) (last : EvaluationStep)
    (steady : SteadyRun rules key (steps ++ [last])) :
    ActedWeakly rules (statesAfter rules steps) key last ↔
      DecidesWeakly rules key last ∧
        let needed := (max rules.weakSignalConfirmTicks 1).toNat
        needed ≤ (steps ++ [last]).length ∧
          ∀ step ∈ (steps ++ [last]).drop ((steps ++ [last]).length - needed),
            step.matched rules key = true := by
  obtain ⟨earlier, here⟩ := steadyRun_concat.mp steady
  have streak := streak_statesAfter earlier
  have nonneg : 0 ≤ (statesAfter rules steps).streak key := by
    rw [streak]
    exact Int.natCast_nonneg _
  rw [actedWeakly_iff_decided]
  have long : ∀ {visit : Visit}, visit ∈ ledgerVisits last.graph last.settings rules false →
      visit.identity = key → visit.decision.matched = true →
      (max rules.weakSignalConfirmTicks 1 ≤ (statesAfter rules steps).streak key + 1 ↔
        (max rules.weakSignalConfirmTicks 1).toNat ≤
          Data.trailingRun (EvaluationStep.matched rules key) (steps ++ [last])) := by
    intro visit member own matched
    have found : last.matched rules key = true :=
      List.any_eq_true.mpr ⟨visit.decision, List.mem_append_left _
        (List.mem_map_of_mem (mem_visitsOf.mpr ⟨member, own⟩)), matched⟩
    rw [Data.trailingRun_concat, if_pos found, streak]
    omega
  simp only
  rw [← Data.le_trailingRun_iff]
  constructor
  · rintro ⟨visit, decided, own, weak⟩
    have member := mem_of_mem_confirmedVisits decided
    have matched : visit.decision.matched = true := by
      obtain ⟨_, _, _, confirmed⟩ := mem_confirmedVisits.mp decided
      simp only [confirmedAt, Bool.and_eq_true] at confirmed
      exact confirmed.1
    exact ⟨⟨visit, member, own, matched, weak⟩, (long member own matched).mp
      ((here.weak_decided nonneg member own matched weak).mp decided)⟩
  · rintro ⟨⟨visit, member, own, matched, weak⟩, run⟩
    exact ⟨visit, (here.weak_decided nonneg member own matched weak).mpr
      ((long member own matched).mpr run), own, weak⟩

/-- A main window with a small chrome widget that names an ad. -/
def smallAdGraph : WindowGraph where
  pids := [100]
  nodes :=
    [{ hwnd := 1, pid := 100, className := "EVA_Window", title := .known "KakaoTalk",
       structuralParent := none, owner := none, rect := some ⟨0, 0, 400, 640⟩, visible := true },
     { hwnd := 2, pid := 100, className := "EVA_ChildWindow", title := .known "OnlineMainView_1",
       structuralParent := some 1, owner := none, rect := some ⟨0, 0, 398, 609⟩, visible := true },
     { hwnd := 3, pid := 100, className := "Chrome_WidgetWin_1", title := .known "AdFit",
       structuralParent := some 1, owner := none, rect := some ⟨0, 0, 20, 20⟩, visible := true }]
  children hwnd := if hwnd = 1 then [2, 3] else []
  keyed := by decide

omit [Unicode] in
theorem smallAd_action_iff_consecutive :
    let rules := LayoutRules.default
    let key : WindowIdentity := { hwnd := 3, pid := 100, className := "Chrome_WidgetWin_1" }
    let step : EvaluationStep := { graph := smallAdGraph, settings := {} }
    @ActedWeakly asciiLowercase rules (@statesAfter asciiLowercase rules [step]) key step ↔
      @DecidesWeakly asciiLowercase rules key step ∧
        let needed := (max rules.weakSignalConfirmTicks 1).toNat
        needed ≤ ([step] ++ [step]).length ∧
          ∀ other ∈ ([step] ++ [step]).drop (([step] ++ [step]).length - needed),
            @EvaluationStep.matched asciiLowercase rules key other = true :=
  letI := asciiLowercase
  weak_action_iff_consecutive [_] _
    (steadyRun_concat.mpr ⟨steadyRun_concat.mpr ⟨steadyRun_nil _ _,
      ⟨by decide, by decide, by decide, by decide⟩⟩,
      ⟨by decide, by decide, by decide, by decide⟩⟩)

/-- A top-level window without owner or children. -/
def loneGraph (title : String) : WindowGraph where
  pids := [100]
  nodes :=
    [{ hwnd := 7, pid := 100, className := "EVA_Window", title := .known title,
       structuralParent := none, owner := none, rect := some ⟨0, 0, 300, 250⟩, visible := true }]
  children _ := []
  keyed := by simp

omit [Unicode] in
/-- The second evaluation sees the window under another title and does not match
it; the third hides it all the same, on a weak verdict that needs two. -/
theorem loneGraph_streak_survives_miss :
    let rules := LayoutRules.default
    let key : WindowIdentity := { hwnd := 7, pid := 100, className := "EVA_Window" }
    let ad : EvaluationStep := { graph := loneGraph "[Chrome Legacy Window]", settings := {} }
    let miss : EvaluationStep := { graph := loneGraph "Loading", settings := {} }
    rules.weakSignalConfirmTicks = 2 ∧ (loneGraph "Loading").get 7 ≠ none ∧
      @EvaluationStep.matched asciiLowercase rules key miss = false ∧
      @ActedWeakly asciiLowercase rules (@statesAfter asciiLowercase rules [ad, miss]) key ad := by
  refine ⟨rfl, by decide, by decide, ?_⟩
  unfold ActedWeakly
  decide

end LayoutAdblock.Core
