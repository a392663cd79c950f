import LayoutAdblock.Core.Evaluate.Orchestrate

namespace LayoutAdblock.Core

/-! # Runs of the ledger

Both traversals submit a list of visits to a ledger.  What they do depends on
the visits whose verdict is stored, and on the match streak each of them leaves.
-/

/-- How often in a row the window was matched; a window that was never seen has not been. -/
def StateMap.streak (states : StateMap) (identity : WindowIdentity) : Int :=
  ((states identity).getD {}).matchStreak

@[simp] theorem StateMap.streak_empty (identity : WindowIdentity) :
    StateMap.empty.streak identity = 0 := rfl

@[simp] theorem StateMap.streak_insert_self (states : StateMap) (identity : WindowIdentity)
    (state : CandidateState) :
    (states.insert identity state).streak identity = state.matchStreak := by
  simp [StateMap.streak]

theorem StateMap.streak_insert_other (states : StateMap) {key identity : WindowIdentity}
    (state : CandidateState) (different : key ≠ identity) :
    (states.insert identity state).streak key = states.streak key := by
  simp [StateMap.streak, StateMap.insert_other _ _ different]

variable [Counting]

/-- Whether a matched decision is confirmed when the streak before it is `streak`. -/
def confirmedAt (decision : AdDecision) (ticks streak : Int) : Bool :=
  decision.matched &&
    (decision.decision == .strong || decide (max ticks 1 ≤ Counting.next streak))

def nextStreak (decision : AdDecision) (streak : Int) : Int :=
  if decision.matched then Counting.next streak else 0

@[simp] theorem confirmedAt_of_miss {decision : AdDecision} (ticks streak : Int)
    (miss : decision.matched = false) : confirmedAt decision ticks streak = false := by
  simp [confirmedAt, miss]

theorem storeUpdate_confirmed (states : StateMap) (identity : WindowIdentity)
    (decision : AdDecision) (ticks : Int) :
    (storeUpdate states identity decision ticks).2.2 =
      confirmedAt decision ticks (states.streak identity) := by
  cases hit : decision.matched <;>
    simp [storeUpdate, updateCandidateState, confirmedAt, StateMap.streak, hit]

theorem storeUpdate_streak_self (states : StateMap) (identity : WindowIdentity)
    (decision : AdDecision) (ticks : Int) :
    (storeUpdate states identity decision ticks).1.streak identity =
      nextStreak decision (states.streak identity) := by
  cases hit : decision.matched <;>
    simp [storeUpdate, updateCandidateState, nextStreak, hit, StateMap.streak]

theorem storeUpdate_other (states : StateMap) {key identity : WindowIdentity}
    (decision : AdDecision) (ticks : Int) (different : key ≠ identity) :
    (storeUpdate states identity decision ticks).1 key = states key :=
  StateMap.insert_other _ _ different

theorem storeUpdate_streak_other (states : StateMap) {key identity : WindowIdentity}
    (decision : AdDecision) (ticks : Int) (different : key ≠ identity) :
    (storeUpdate states identity decision ticks).1.streak key = states.streak key :=
  StateMap.streak_insert_other _ _ different

theorem storeUpdate_isSome_self (states : StateMap) (identity : WindowIdentity)
    (decision : AdDecision) (ticks : Int) :
    ((storeUpdate states identity decision ticks).1 identity).isSome = true := by
  simp [storeUpdate]

namespace Ledger

/-- Whether the ledger stores the verdict of a visit. A match always is, and a miss where it
is worth it and no verdict was stored this time. -/
def stores (ledger : Ledger) (visit : Visit) : Bool :=
  visit.decision.matched ||
    (visit.tracked ledger.states && decide (visit.identity ∉ ledger.touched))

def stored (ledger : Ledger) (ticks : Int) (visit : Visit) : Ledger where
  touched := insert visit.identity ledger.touched
  states := (storeUpdate ledger.states visit.identity visit.decision ticks).1

/-- Everything a submitted verdict can do: it is stored, or nothing happens. -/
theorem record_eq (ledger : Ledger) (ticks : Int) (visit : Visit) :
    ledger.record ticks visit =
      if ledger.stores visit then
        (ledger.stored ticks visit,
          some (storeUpdate ledger.states visit.identity visit.decision ticks).2)
      else (ledger, none) := by
  unfold record storeOnce stores stored
  cases hit : visit.decision.matched with
  | true => simp
  | false =>
      split <;> simp_all

/-- The verdicts a run stores, with the state and the confirmation of each. A verdict that
yields to an earlier one about its window is not among them. -/
def storedVisits (ticks : Int) : Ledger → List Visit → List (Visit × CandidateState × Bool)
  | _, [] => []
  | ledger, visit :: rest =>
      let recorded := ledger.record ticks visit
      (recorded.2.toList.map fun stored => (visit, stored)) ++ storedVisits ticks recorded.1 rest

/-- The ledger after a list of verdicts, recorded in order. -/
def recordAll (ledger : Ledger) (ticks : Int) (visits : List Visit) : Ledger :=
  visits.foldl (fun current visit => (current.record ticks visit).1) ledger

/-- The confirmed visits of a run, in order, which are the ones the program acts on. -/
def confirmedVisits (ticks : Int) (ledger : Ledger) (visits : List Visit) : List Visit :=
  ((storedVisits ticks ledger visits).filter fun entry => entry.2.2).map Prod.fst

@[simp] theorem recordAll_nil (ledger : Ledger) (ticks : Int) :
    ledger.recordAll ticks [] = ledger := rfl

@[simp] theorem recordAll_cons (ledger : Ledger) (ticks : Int) (visit : Visit)
    (rest : List Visit) :
    ledger.recordAll ticks (visit :: rest) =
      (ledger.record ticks visit).1.recordAll ticks rest := rfl

theorem recordAll_append (ledger : Ledger) (ticks : Int) (first second : List Visit) :
    ledger.recordAll ticks (first ++ second) =
      (ledger.recordAll ticks first).recordAll ticks second :=
  List.foldl_append ..

theorem storedVisits_append (ticks : Int) (ledger : Ledger) (first second : List Visit) :
    storedVisits ticks ledger (first ++ second) =
      storedVisits ticks ledger first ++
        storedVisits ticks (ledger.recordAll ticks first) second := by
  induction first generalizing ledger with
  | nil => rfl
  | cons visit rest ih => simp [storedVisits, ih]

theorem confirmedVisits_append (ticks : Int) (ledger : Ledger) (first second : List Visit) :
    confirmedVisits ticks ledger (first ++ second) =
      confirmedVisits ticks ledger first ++
        confirmedVisits ticks (ledger.recordAll ticks first) second := by
  simp [confirmedVisits, storedVisits_append]

/-- Whether submitting a visit confirms it: its decision matches, and is strong
or finds a long enough streak. -/
theorem record_confirmed (ledger : Ledger) (ticks : Int) (visit : Visit) :
    (ledger.record ticks visit).2.any Prod.snd =
      confirmedAt visit.decision ticks (ledger.states.streak visit.identity) := by
  rw [record_eq]
  cases kept : ledger.stores visit with
  | true => simp [storeUpdate_confirmed]
  | false =>
      have miss : visit.decision.matched = false := by
        cases hit : visit.decision.matched with
        | false => rfl
        | true => simp [stores, hit] at kept
      simp [miss]

theorem confirmedVisits_singleton (ticks : Int) (ledger : Ledger) (visit : Visit) :
    confirmedVisits ticks ledger [visit] =
      if confirmedAt visit.decision ticks (ledger.states.streak visit.identity) then [visit]
      else [] := by
  rw [← record_confirmed]
  simp only [confirmedVisits, storedVisits, List.append_nil]
  generalize (ledger.record ticks visit).2 = result
  cases result with
  | none => rfl
  | some entry => cases held : entry.2 <;> simp [held]

theorem confirmedVisits_cons (ticks : Int) (ledger : Ledger) (visit : Visit)
    (rest : List Visit) :
    confirmedVisits ticks ledger (visit :: rest) =
      (if confirmedAt visit.decision ticks (ledger.states.streak visit.identity) then [visit]
        else []) ++ confirmedVisits ticks (ledger.record ticks visit).1 rest := by
  rw [← confirmedVisits_singleton]
  exact confirmedVisits_append ticks ledger [visit] rest

/-- A visit is confirmed when its decision is, with the streak it finds. -/
theorem mem_confirmedVisits {ticks : Int} {ledger : Ledger} {visits : List Visit}
    {visit : Visit} :
    visit ∈ confirmedVisits ticks ledger visits ↔
      ∃ earlier later, visits = earlier ++ visit :: later ∧
        confirmedAt visit.decision ticks
          ((ledger.recordAll ticks earlier).states.streak visit.identity) = true := by
  induction visits generalizing ledger with
  | nil => simp [confirmedVisits, storedVisits]
  | cons head rest ih =>
      rw [confirmedVisits_cons, List.mem_append, ih]
      constructor
      · rintro (atHead | ⟨earlier, later, rfl, confirmed⟩)
        · split at atHead
          · obtain rfl := List.mem_singleton.mp atHead
            exact ⟨[], rest, rfl, by assumption⟩
          · simp at atHead
        · exact ⟨head :: earlier, later, rfl, confirmed⟩
      · rintro ⟨earlier, later, split, confirmed⟩
        cases earlier with
        | nil =>
            obtain ⟨rfl, rfl⟩ := List.cons.inj split
            exact Or.inl (by simpa using confirmed)
        | cons first earlier =>
            obtain ⟨rfl, rfl⟩ := List.cons.inj split
            exact Or.inr ⟨earlier, later, rfl, confirmed⟩

theorem mem_of_mem_confirmedVisits {ticks : Int} {ledger : Ledger} {visits : List Visit}
    {visit : Visit} (member : visit ∈ confirmedVisits ticks ledger visits) :
    visit ∈ visits := by
  obtain ⟨earlier, later, rfl, _⟩ := mem_confirmedVisits.mp member
  simp

end Ledger

end LayoutAdblock.Core
