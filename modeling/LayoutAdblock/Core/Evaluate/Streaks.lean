import Mathlib.Logic.Function.Iterate
import LayoutAdblock.Core.Evaluate.Ledger

namespace LayoutAdblock.Core

/-! # The streak of one window

A ledger keeps the windows apart: what a run does to one identity depends on the
visits about that identity alone.
-/

namespace Ledger

/-- Two ledgers that hold the same about one window. -/
structure SameAt (key : WindowIdentity) (left right : Ledger) : Prop where
  states : left.states key = right.states key
  touched : key ∈ left.touched ↔ key ∈ right.touched

theorem SameAt.refl (key : WindowIdentity) (ledger : Ledger) : SameAt key ledger ledger :=
  ⟨rfl, Iff.rfl⟩

theorem SameAt.trans {key : WindowIdentity} {left middle right : Ledger}
    (first : SameAt key left middle) (second : SameAt key middle right) :
    SameAt key left right :=
  ⟨first.states.trans second.states, first.touched.trans second.touched⟩

theorem SameAt.streak {key : WindowIdentity} {left right : Ledger}
    (same : SameAt key left right) : left.states.streak key = right.states.streak key := by
  simp [StateMap.streak, same.states]

def visitsOf (key : WindowIdentity) (visits : List Visit) : List Visit :=
  visits.filter fun visit => decide (visit.identity = key)

theorem mem_visitsOf {key : WindowIdentity} {visits : List Visit} {visit : Visit} :
    visit ∈ visitsOf key visits ↔ visit ∈ visits ∧ visit.identity = key := by
  simp [visitsOf]

theorem visitsOf_append (key : WindowIdentity) (first second : List Visit) :
    visitsOf key (first ++ second) = visitsOf key first ++ visitsOf key second := by
  simp [visitsOf]

theorem visitsOf_self {key : WindowIdentity} {visits : List Visit}
    (own : ∀ visit ∈ visits, visit.identity = key) : visitsOf key visits = visits := by
  rw [visitsOf, List.filter_eq_self]
  simpa using own

theorem visitsOf_other {key : WindowIdentity} {visits : List Visit}
    (other : ∀ visit ∈ visits, visit.identity ≠ key) : visitsOf key visits = [] := by
  rw [visitsOf, List.filter_eq_nil_iff]
  simpa using other

section Counted

variable [Counting]

/-- A visit leaves every other window alone. -/
theorem record_sameAt (ledger : Ledger) (ticks : Int) {visit : Visit} {key : WindowIdentity}
    (different : visit.identity ≠ key) : SameAt key (ledger.record ticks visit).1 ledger := by
  rw [record_eq]
  split
  · refine ⟨storeUpdate_other _ _ _ different.symm, ?_⟩
    simp [stored, different.symm]
  · exact SameAt.refl key ledger

theorem SameAt.record {left right : Ledger} {visit : Visit}
    (same : SameAt visit.identity left right) (ticks : Int) :
    SameAt visit.identity (left.record ticks visit).1 (right.record ticks visit).1 := by
  have stores : left.stores visit = right.stores visit := by
    simp [Ledger.stores, Visit.tracked, same.states, same.touched]
  rw [record_eq, record_eq, stores]
  split
  · refine ⟨?_, ?_⟩
    · simp [stored, storeUpdate, same.states]
    · simp [stored]
  · exact same

theorem SameAt.recordAll {key : WindowIdentity} {left right : Ledger}
    (same : SameAt key left right) (ticks : Int) (visits : List Visit) :
    SameAt key (left.recordAll ticks visits) (right.recordAll ticks (visitsOf key visits)) := by
  induction visits generalizing left right with
  | nil => exact same
  | cons visit rest ih =>
      by_cases own : visit.identity = key
      · subst own
        simpa [visitsOf] using ih (same.record ticks)
      · simpa [visitsOf, own] using ih ((left.record_sameAt ticks own).trans same)

theorem recordAll_sameAt (ledger : Ledger) (ticks : Int) (key : WindowIdentity)
    (visits : List Visit) :
    SameAt key (ledger.recordAll ticks visits)
      (ledger.recordAll ticks (visitsOf key visits)) :=
  (SameAt.refl key ledger).recordAll ticks visits

theorem SameAt.confirmedVisits {key : WindowIdentity} {left right : Ledger}
    (same : SameAt key left right) (ticks : Int) (visits : List Visit) :
    visitsOf key (Ledger.confirmedVisits ticks left visits) =
      Ledger.confirmedVisits ticks right (visitsOf key visits) := by
  induction visits generalizing left right with
  | nil => rfl
  | cons visit rest ih =>
      by_cases own : visit.identity = key
      · subst own
        have listed : visitsOf visit.identity (visit :: rest) =
            visit :: visitsOf visit.identity rest := by simp [visitsOf]
        rw [confirmedVisits_cons, visitsOf_append, listed, confirmedVisits_cons,
          ih (same.record ticks), same.streak]
        congr 1
        split <;> simp [visitsOf]
      · have listed : visitsOf key (visit :: rest) = visitsOf key rest := by
          simp [visitsOf, own]
        rw [confirmedVisits_cons, visitsOf_append, listed,
          ih ((left.record_sameAt ticks own).trans same)]
        split <;> simp [visitsOf, own]

/-- Whether a visit is confirmed depends on the visits about its own window. -/
theorem mem_confirmedVisits_visitsOf {ticks : Int} {ledger : Ledger} {visits : List Visit}
    {visit : Visit} :
    visit ∈ Ledger.confirmedVisits ticks ledger visits ↔
      visit ∈ Ledger.confirmedVisits ticks ledger (visitsOf visit.identity visits) := by
  rw [← (SameAt.refl visit.identity ledger).confirmedVisits ticks visits, mem_visitsOf]
  simp

theorem record_miss_touched {ledger : Ledger} (ticks : Int) {visit : Visit}
    (miss : visit.decision.matched = false) (touched : visit.identity ∈ ledger.touched) :
    (ledger.record ticks visit).1 = ledger := by
  rw [record_eq]
  simp [stores, miss, touched]

theorem recordAll_misses_touched {ledger : Ledger} (ticks : Int) {key : WindowIdentity}
    {visits : List Visit}
    (misses : ∀ visit ∈ visits, visit.identity = key ∧ visit.decision.matched = false)
    (touched : key ∈ ledger.touched) : ledger.recordAll ticks visits = ledger := by
  induction visits with
  | nil => rfl
  | cons visit rest ih =>
      obtain ⟨own, miss⟩ := misses visit (List.mem_cons_self ..)
      rw [recordAll_cons, record_miss_touched ticks miss (own ▸ touched)]
      exact ih fun other member => misses other (List.mem_cons_of_mem visit member)

/-- The first miss about a window leaves it without a streak. -/
theorem record_miss_streak {ledger : Ledger} (ticks : Int) {visit : Visit}
    (miss : visit.decision.matched = false)
    (fresh : visit.identity ∈ ledger.touched → ledger.states.streak visit.identity = 0) :
    (ledger.record ticks visit).1.states.streak visit.identity = 0 := by
  rw [record_eq]
  cases kept : ledger.stores visit with
  | true =>
      refine (storeUpdate_streak_self ..).trans ?_
      simp [nextStreak, miss]
  | false =>
      simp only [stores, miss, Bool.false_or, Bool.and_eq_false_iff] at kept
      rcases kept with untracked | touched
      · simp only [Visit.tracked, miss, Bool.not_false, Bool.true_and, Bool.or_eq_false_iff,
          Option.isSome_eq_false_iff, Option.isNone_iff_eq_none] at untracked
        simp [StateMap.streak, untracked.1]
      · exact fresh (by simpa using touched)

theorem recordAll_misses_streak {ledger : Ledger} (ticks : Int) {key : WindowIdentity}
    {visits : List Visit}
    (misses : ∀ visit ∈ visits, visit.identity = key ∧ visit.decision.matched = false)
    (fresh : key ∈ ledger.touched → ledger.states.streak key = 0)
    (visited : visits ≠ [] ∨ ledger.states.streak key = 0) :
    (ledger.recordAll ticks visits).states.streak key = 0 := by
  induction visits generalizing ledger with
  | nil => simpa using visited
  | cons visit rest ih =>
      obtain ⟨rfl, miss⟩ := misses visit (List.mem_cons_self ..)
      have reset := record_miss_streak ticks miss fresh
      exact ih (fun other member => misses other (List.mem_cons_of_mem visit member))
        (fun _ => reset) (Or.inr reset)

theorem confirmedVisits_misses {ticks : Int} {ledger : Ledger} {visits : List Visit}
    (misses : ∀ visit ∈ visits, visit.decision.matched = false) :
    Ledger.confirmedVisits ticks ledger visits = [] := by
  rw [List.eq_nil_iff_forall_not_mem]
  intro visit confirmed
  obtain ⟨earlier, later, rfl, held⟩ := mem_confirmedVisits.mp confirmed
  simp [misses visit (by simp)] at held

/-- A round: a matched visit, then misses about the same window.  A window that is listed
`count` times among the children of a main window gets `count` rounds of the same visits,
and when the first visit of the round matches, the misses after it yield to it. -/
structure Round (visit : Visit) (rest : List Visit) : Prop where
  matched : visit.decision.matched = true
  misses : ∀ other ∈ rest, other.identity = visit.identity ∧ other.decision.matched = false

theorem Round.recordAll {visit : Visit} {rest : List Visit} (round : Round visit rest)
    (ledger : Ledger) (ticks : Int) :
    ledger.recordAll ticks (visit :: rest) = ledger.stored ticks visit := by
  have stored : (ledger.record ticks visit).1 = ledger.stored ticks visit := by
    simp [record_eq, stores, round.matched]
  rw [recordAll_cons, stored]
  exact recordAll_misses_touched ticks round.misses (by simp [Ledger.stored])

theorem Round.stored_streak {visit : Visit} {rest : List Visit} (round : Round visit rest)
    (ledger : Ledger) (ticks : Int) :
    (ledger.stored ticks visit).states.streak visit.identity =
      Counting.next (ledger.states.streak visit.identity) :=
  (storeUpdate_streak_self ..).trans (by simp [nextStreak, round.matched])

/-- Each round moves the streak once. -/
theorem Round.streak {visit : Visit} {rest : List Visit} (round : Round visit rest)
    (ledger : Ledger) (ticks : Int) (count : Nat) :
    (ledger.recordAll ticks (List.replicate count (visit :: rest)).flatten).states.streak
      visit.identity = Counting.next^[count] (ledger.states.streak visit.identity) := by
  induction count generalizing ledger with
  | zero => rfl
  | succ count ih =>
      rw [List.replicate_succ, List.flatten_cons, recordAll_append, round.recordAll, ih,
        round.stored_streak, Function.iterate_succ_apply]

/-- Whether a decision is confirmed in one of a number of rounds. -/
def confirmedWithin (decision : AdDecision) (ticks streak : Int) (rounds : Nat) : Prop :=
  ∃ earlier < rounds, confirmedAt decision ticks (Counting.next^[earlier] streak) = true

theorem confirmedWithin_succ {decision : AdDecision} {ticks streak : Int} {rounds : Nat} :
    confirmedWithin decision ticks streak (rounds + 1) ↔
      confirmedAt decision ticks streak = true ∨
        confirmedWithin decision ticks (Counting.next streak) rounds := by
  constructor
  · intro confirmed
    obtain ⟨earlier, less, held⟩ := confirmed
    cases earlier with
    | zero => exact Or.inl held
    | succ earlier => exact Or.inr ⟨earlier, Nat.lt_of_succ_lt_succ less, held⟩
  · intro confirmed
    cases confirmed with
    | inl atHead => exact ⟨0, Nat.succ_pos _, atHead⟩
    | inr later =>
        obtain ⟨earlier, less, held⟩ := later
        exact ⟨earlier + 1, Nat.succ_lt_succ less, held⟩

/-- The visit of the rounds is confirmed when one of the rounds confirms it. -/
theorem Round.mem_confirmedVisits {visit : Visit} {rest : List Visit} (round : Round visit rest)
    (ledger : Ledger) (ticks : Int) (count : Nat) {other : Visit} :
    other ∈ Ledger.confirmedVisits ticks ledger (List.replicate count (visit :: rest)).flatten ↔
      other = visit ∧
        confirmedWithin visit.decision ticks (ledger.states.streak visit.identity) count := by
  induction count generalizing ledger with
  | zero => simp [Ledger.confirmedVisits, storedVisits, confirmedWithin]
  | succ count ih =>
      have head : Ledger.confirmedVisits ticks ledger (visit :: rest) =
          if confirmedAt visit.decision ticks (ledger.states.streak visit.identity) then [visit]
          else [] := by
        rw [confirmedVisits_cons, confirmedVisits_misses fun other member =>
          (round.misses other member).2, List.append_nil]
      rw [List.replicate_succ, List.flatten_cons, confirmedVisits_append, round.recordAll,
        List.mem_append, ih, head, round.stored_streak, confirmedWithin_succ]
      split
      · rename_i confirmed
        rw [List.mem_singleton, and_iff_left (Or.inl confirmed)]
        exact or_iff_left_of_imp And.left
      · rename_i refused
        simp [refused]

/-- A run about one window with a single match: the match finds the streak the
earlier misses leave, and the later misses yield to it. -/
theorem recordAll_single_match {ledger : Ledger} {visit : Visit} {earlier later : List Visit}
    (ticks : Int) (matched : visit.decision.matched = true)
    (misses : ∀ other ∈ later,
      other.identity = visit.identity ∧ other.decision.matched = false) :
    (ledger.recordAll ticks (earlier ++ visit :: later)).states.streak visit.identity =
      Counting.next ((ledger.recordAll ticks earlier).states.streak visit.identity) := by
  have round : Round visit later := ⟨matched, misses⟩
  rw [recordAll_append, round.recordAll, round.stored_streak]

theorem confirmedVisits_single_match {ledger : Ledger} {visit : Visit}
    {earlier later : List Visit} (ticks : Int)
    (before : ∀ other ∈ earlier, other.decision.matched = false)
    (after : ∀ other ∈ later, other.decision.matched = false) :
    Ledger.confirmedVisits ticks ledger (earlier ++ visit :: later) =
      if confirmedAt visit.decision ticks
        ((ledger.recordAll ticks earlier).states.streak visit.identity) then [visit] else [] := by
  rw [confirmedVisits_append, confirmedVisits_misses before, confirmedVisits_cons,
    confirmedVisits_misses after, List.nil_append, List.append_nil]

end Counted

/-- Without an end the streak grows with the rounds. -/
theorem iterate_next (streak : Int) (rounds : Nat) :
    (Counting.unbounded).next^[rounds] streak = streak + rounds := by
  induction rounds generalizing streak with
  | zero => simp
  | succ rounds ih =>
      rw [Function.iterate_succ_apply, ih]
      simp only [Counting.next]
      omega

theorem confirmedAt_mono {decision : AdDecision} {ticks first second : Int}
    (confirmed : confirmedAt decision ticks first = true) (below : first ≤ second) :
    confirmedAt decision ticks second = true := by
  simp only [confirmedAt, Counting.next, Bool.and_eq_true, Bool.or_eq_true,
    decide_eq_true_eq] at confirmed ⊢
  refine ⟨confirmed.1, ?_⟩
  rcases confirmed.2 with strong | long
  · exact Or.inl strong
  · exact Or.inr (by omega)

/-- With a counter that does not end, the last round decides. -/
theorem confirmedWithin_unbounded {decision : AdDecision} {ticks streak : Int} {rounds : Nat} :
    confirmedWithin decision ticks streak rounds ↔
      0 < rounds ∧ confirmedAt decision ticks (streak + rounds - 1) = true := by
  constructor
  · intro confirmed
    obtain ⟨earlier, less, held⟩ := confirmed
    rw [iterate_next] at held
    exact ⟨by omega, confirmedAt_mono held (by omega)⟩
  · intro last
    obtain ⟨some, held⟩ := last
    refine ⟨rounds - 1, by omega, ?_⟩
    rw [iterate_next]
    exact confirmedAt_mono held (by omega)

end Ledger

end LayoutAdblock.Core
