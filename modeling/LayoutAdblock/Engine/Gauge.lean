import LayoutAdblock.Engine.Ledger
import LayoutAdblock.Engine.PanicGuard

namespace LayoutAdblock.Engine

open LayoutAdblock.Core Interaction Environment
open Marked (plain mark)

/-! # The gauge counts what cannot be restored -/

variable {before after ledger : Ledger} {identity : WindowIdentity}

/-- The ledger after a tick has dealt with one window. -/
def Ledger.review (ledger : Ledger) (caches : EngineCaches) (identity : WindowIdentity)
    (failed last : Bool) : Ledger :=
  { ledger with
    caches := caches
    lastFailed := Function.update ledger.lastFailed identity last
    tickFailed := Function.update ledger.tickFailed identity failed
    counted := Function.update ledger.counted identity failed }

/-- What one look at a window has done to the books: nothing to any other window, no new
snapshot, and the count says of this window whether it failed in this tick. -/
structure Reviewed (identity : WindowIdentity) (before after : Ledger) : Prop where
  booked : Booked after
  apart : Apart identity before after
  fewer : identity ∈ after.snapshots → identity ∈ before.snapshots
  agrees : after.counted identity = after.tickFailed identity

theorem Apart.trans {middle : Ledger} (first : Apart identity before middle)
    (second : Apart identity middle after) : Apart identity before after where
  snapshots other differs := (second.snapshots other differs).trans (first.snapshots other differs)
  recorded other differs := (second.recorded other differs).trans (first.recorded other differs)
  lastFailed other differs :=
    (second.lastFailed other differs).trans (first.lastFailed other differs)
  tickFailed other differs :=
    (second.tickFailed other differs).trans (first.tickFailed other differs)
  counted other differs := (second.counted other differs).trans (first.counted other differs)
  flags := second.flags.trans first.flags
  others := second.others.trans first.others

theorem Reviewed.trans {middle : Ledger} (first : Reviewed identity before middle)
    (second : Reviewed identity middle after) : Reviewed identity before after where
  booked := second.booked
  apart := first.apart.trans second.apart
  fewer member := first.fewer (second.fewer member)
  agrees := second.agrees

theorem Booked.review {caches : EngineCaches} {failed last : Bool} (booked : Booked before)
    (elsewhere : ∀ other, other ≠ identity →
      caches.snapshots.lookup other = before.snapshots.lookup other ∧
        caches.recorded other = before.caches.recorded other)
    (keyed : ∀ snap, caches.snapshots.lookup identity = some snap → snap.identity = identity)
    (held : failed = true → identity ∈ caches.snapshots ∧ last = true)
    (fewer : identity ∈ caches.snapshots → identity ∈ before.snapshots)
    (recorded : caches.recorded identity = failed) :
    Reviewed identity before (before.review caches identity failed last) := by
  have apart : Apart identity before (before.review caches identity failed last) :=
    { snapshots := fun other differs => (elsewhere other differs).1
      recorded := fun other differs => (elsewhere other differs).2
      lastFailed := fun other differs => Function.update_of_ne differs _ _
      tickFailed := fun other differs => Function.update_of_ne differs _ _
      counted := fun other differs => Function.update_of_ne differs _ _
      flags := rfl
      others := rfl }
  have own : Consistent (before.review caches identity failed last) identity :=
    { keyed := keyed
      held := fun counted => (held (by simpa [Ledger.review] using counted)).1
      recorded := by simp [Ledger.review, recorded]
      tick := by simp [Ledger.review]
      failed := fun counted => by
        simpa [Ledger.review] using (held (by simpa [Ledger.review] using counted)).2 }
  exact
    { booked := booked.of_apart apart own
      apart := apart
      fewer := fewer
      agrees := by simp [Ledger.review] }

theorem recorded_insert (caches : EngineCaches) (state : StaleState) (other : WindowIdentity) :
    EngineCaches.recorded { caches with stale := caches.stale.insert identity state } other =
      if other = identity then decide (0 < state.attempts) else caches.recorded other := by
  unfold EngineCaches.recorded
  by_cases same : other = identity
  · subst same
    simp
  · simp [same, AList.lookup_insert_ne same]

theorem recorded_erase (caches : EngineCaches) (other : WindowIdentity) :
    EngineCaches.recorded { caches with stale := caches.stale.erase identity } other =
      if other = identity then false else caches.recorded other := by
  unfold EngineCaches.recorded
  by_cases same : other = identity
  · subst same
    simp
  · simp [same, AList.lookup_erase_ne same]

theorem miss_attempts (state : StaleState) : state.miss.1.attempts = state.attempts := by
  unfold StaleState.miss
  dsimp only
  split
  · rfl
  · split
    · rfl
    · rfl

theorem fail_attempts (state : StaleState) : 0 < state.fail.attempts := by
  simp [StaleState.fail, saturatingSucc, u32Max]

theorem recorded_staleOf (caches : EngineCaches) :
    caches.recorded identity = decide (0 < (staleOf caches identity).attempts) := by
  unfold EngineCaches.recorded staleOf
  cases caches.stale.lookup identity with
  | none => rfl
  | some state => rfl

theorem books_see {what : Mark} :
    books.ensures (mark what) (fun _ marked => marked = Ledger.see what ledger) ledger :=
  books_mark fun _ => rfl

/-- A tick that matches the window forgets its failures. -/
theorem removeMatched_reviewed (booked : Booked before) :
    bookkeeping.ensures (removeStale identity) (fun _ => Reviewed identity before)
      (Ledger.see (.matched identity) before) := by
  refine ensures_mono ensures_update fun _ after written => ?_
  subst written
  have reviewed : Reviewed identity before
      (before.review { before.caches with stale := before.caches.stale.erase identity } identity
        false (before.lastFailed identity)) := by
    apply booked.review
    · intro other differs
      exact ⟨rfl, by rw [recorded_erase, if_neg differs]⟩
    · exact (booked.consistent identity).keyed
    · intro failed
      cases failed
    · exact fun member => member
    · rw [recorded_erase, if_pos rfl]
  rw [Ledger.review, Function.update_eq_self] at reviewed
  exact reviewed

/-- A tick that misses the window counts what ticks have on it. -/
theorem countMiss_reviewed (booked : Booked before) :
    bookkeeping.ensures (markedStaleWindow.countMiss identity)
      (fun _ => Reviewed identity before) (Ledger.see (.missed identity) before) := by
  refine ensures_seq ensures_read fun caches middle read => ?_
  obtain ⟨rfl, rfl⟩ := read
  refine ensures_seq ensures_update fun _ after written => ?_
  subst written
  have own := booked.consistent identity
  have reviewed : Reviewed identity before
      (before.review
        { before.caches with
          stale := before.caches.stale.insert identity
            (staleOf before.caches identity).miss.1 } identity
        (before.tickFailed identity) (before.lastFailed identity)) := by
    apply booked.review
    · intro other differs
      exact ⟨rfl, by rw [recorded_insert, if_neg differs]⟩
    · exact own.keyed
    · intro failed
      exact ⟨own.held (own.tick failed), own.failed (own.tick failed)⟩
    · exact fun member => member
    · rw [recorded_insert, if_pos rfl, miss_attempts, own.recorded, recorded_staleOf]
  rw [Ledger.review, Function.update_eq_self, Function.update_eq_self] at reviewed
  exact reviewed

/-- An attempt that ends without a failure. -/
theorem removeEnded_reviewed {result : Attempted} (booked : Booked before)
    (ends : result ≠ .failed) :
    bookkeeping.ensures (removeStale identity) (fun _ => Reviewed identity before)
      (Ledger.see (.ended identity result)
        { before with
          caches := { before.caches with snapshots := before.snapshots.erase identity } }) := by
  refine ensures_mono ensures_update fun _ after written => ?_
  subst written
  have reviewed : Reviewed identity before
      (before.review
        { before.caches with
          snapshots := before.snapshots.erase identity
          stale := before.caches.stale.erase identity } identity false false) := by
    apply booked.review
    · intro other differs
      refine ⟨AList.lookup_erase_ne differs, ?_⟩
      exact (recorded_erase _ other).trans (if_neg differs)
    · intro snap looked
      rw [AList.lookup_erase] at looked
      cases looked
    · intro failed
      cases failed
    · intro member
      exact ((AList.mem_erase).mp member).2
    · exact (recorded_erase _ identity).trans (if_pos rfl)
  have ended : decide (result = .failed) = false := decide_eq_false ends
  simp only [Ledger.see, Ledger.settle, ended]
  exact reviewed

/-- A failed attempt goes into the books. -/
theorem recordFailure_reviewed {snap : RestoreSnapshot} {lastError : String}
    (booked : Booked before) (found : before.snapshots.lookup identity = some snap) :
    bookkeeping.ensures (markedDue.recordFailure identity lastError)
      (fun _ => Reviewed identity before)
      (Ledger.see (.ended identity .failed)
        { before with
          caches := { before.caches with
            snapshots := (before.snapshots.erase identity).insert identity snap } }) := by
  refine ensures_seq ensures_read fun caches middle read => ?_
  obtain ⟨rfl, rfl⟩ := read
  refine ensures_seq ensures_update fun _ after written => ?_
  have reviewed : Reviewed identity before after := by
    rw [written]
    have whole : Reviewed identity before
        (before.review
          { before.caches with
            snapshots := (before.snapshots.erase identity).insert identity snap
            stale := before.caches.stale.insert identity
              (staleOf before.caches identity).fail } identity true true) := by
      apply booked.review
      · intro other differs
        refine ⟨(AList.lookup_insert_ne differs).trans (AList.lookup_erase_ne differs), ?_⟩
        exact (recorded_insert _ _ other).trans (if_neg differs)
      · intro other looked
        rw [AList.lookup_insert] at looked
        rw [← Option.some.inj looked]
        exact (booked.consistent identity).keyed snap found
      · exact fun _ => ⟨(AList.mem_insert _).mpr (Or.inl rfl), rfl⟩
      · intro _
        exact AList.lookup_isSome.mp (by rw [found]; rfl)
      · exact ((recorded_insert _ _ identity).trans (if_pos rfl)).trans
          (decide_eq_true (fail_attempts _))
    exact whole
  split
  · exact reviewed
  · exact ensures_seq (ensures_kept (still_ask ⟨by simp [OffCaches], by simp⟩) reviewed)
      fun _ _ held => held

theorem markedDue_reviewed {lastError : String} (booked : Booked before)
    (agrees : before.counted identity = before.tickFailed identity) :
    books.ensures (markedDue identity lastError) (fun _ => Reviewed identity before) before := by
  refine ensures_seq (books_plain ensures_read) fun caches middle read => ?_
  obtain ⟨rfl, rfl⟩ := read
  cases found : middle.caches.snapshots.lookup identity with
  | none =>
      refine ensures_seq (books_plain ensures_update) fun _ after written => ?_
      subst written
      have own := booked.consistent identity
      have absent : middle.counted identity = false :=
        Bool.eq_false_iff.mpr fun counted =>
          AList.lookup_eq_none.mp found (own.held counted)
      have reviewed : Reviewed identity middle
          (middle.review { middle.caches with stale := middle.caches.stale.erase identity }
            identity false (middle.lastFailed identity)) := by
        apply booked.review
        · intro other differs
          exact ⟨rfl, by rw [recorded_erase, if_neg differs]⟩
        · exact own.keyed
        · intro failed
          cases failed
        · exact fun member => member
        · rw [recorded_erase, if_pos rfl]
      rw [Ledger.review, Function.update_eq_self, ← absent, Function.update_eq_self, agrees,
        Function.update_eq_self] at reviewed
      exact reviewed
  | some snap =>
      refine ensures_seq books_see fun _ started same => ?_
      subst same
      refine ensures_seq (books_plain ensures_update) fun _ taken written => ?_
      subst written
      refine ensures_seq books_see fun _ acting same => ?_
      subst same
      refine ensures_seq (books_plain (ensures_still ((identityMatches_reads _).mono fun _ =>
        Reads.still))) fun alive after kept => ?_
      subst kept
      cases alive with
      | false =>
          refine ensures_seq books_see fun _ ended same => ?_
          subst same
          exact ensures_seq (books_plain (removeEnded_reviewed booked (by simp)))
            fun _ _ reviewed => reviewed
      | true =>
          refine ensures_seq (books_plain (ensures_still ((restoreSnapshot_calls snap
            lastError).mono fun _ => RestoreCall.still))) fun result after kept => ?_
          subst kept
          obtain ⟨restored, lastError⟩ := result
          cases restored with
          | true =>
              refine ensures_seq books_see fun _ ended same => ?_
              subst same
              exact ensures_seq (books_plain (removeEnded_reviewed booked (by simp)))
                fun _ _ reviewed => reviewed
          | false =>
              refine ensures_seq (books_plain ensures_update) fun _ after written => ?_
              subst written
              refine ensures_seq books_see fun _ ended same => ?_
              subst same
              exact books_plain (recordFailure_reviewed booked found)

theorem markedStaleWindow_reviewed {matched : WindowIdentity → Bool} {lastError : String}
    (booked : Booked before) :
    books.ensures (markedStaleWindow matched identity lastError)
      (fun _ => Reviewed identity before) before := by
  unfold markedStaleWindow
  split
  · refine ensures_seq books_see fun _ marked same => ?_
    subst same
    exact ensures_seq (books_plain (removeMatched_reviewed booked)) fun _ _ reviewed => reviewed
  · refine ensures_seq books_see fun _ marked same => ?_
    subst same
    refine ensures_seq (books_plain (countMiss_reviewed booked)) fun missed after reviewed => ?_
    cases missed with
    | false => exact reviewed
    | true =>
        exact ensures_mono (markedDue_reviewed reviewed.booked reviewed.agrees)
          fun _ _ attempted => reviewed.trans attempted

/-- The windows that the tick has still to look at. For every other stored window the figure
already counts a failure exactly when a tick has one on record. -/
structure Reviewing (remaining : List WindowIdentity) (ledger : Ledger) : Prop where
  booked : Booked ledger
  seen : ∀ identity, identity ∈ ledger.snapshots →
    identity ∈ remaining ∨ ledger.counted identity = ledger.tickFailed identity

theorem Reviewing.next {remaining : List WindowIdentity}
    (reviewing : Reviewing (identity :: remaining) before)
    (reviewed : Reviewed identity before after) : Reviewing remaining after where
  booked := reviewed.booked
  seen other member := by
    by_cases same : other = identity
    · subst same
      exact Or.inr reviewed.agrees
    · have earlier : other ∈ before.snapshots := by
        rw [← AList.lookup_isSome] at member ⊢
        rw [reviewed.apart.snapshots other same] at member
        exact member
      rw [reviewed.apart.counted other same, reviewed.apart.tickFailed other same]
      cases reviewing.seen other earlier with
      | inl listed => exact Or.inl ((List.mem_cons.mp listed).resolve_left same)
      | inr agrees => exact Or.inr agrees

theorem markedStaleWindows_reviewing {matched : WindowIdentity → Bool}
    {remaining : List WindowIdentity} {lastError : String}
    (reviewing : Reviewing remaining ledger) :
    books.ensures (markedStaleWindows matched remaining lastError) (fun _ => Reviewing [])
      ledger := by
  induction remaining generalizing ledger lastError with
  | nil => exact reviewing
  | cons identity rest ih =>
      exact ensures_seq (markedStaleWindow_reviewed reviewing.booked)
        fun _ _ reviewed => ih (reviewing.next reviewed)

theorem pending_identity {entries : List (WindowIdentity × RestoreSnapshot)}
    (booked : Booked ledger) (listed : entries.Perm ledger.snapshots.pairs)
    (member : identity ∈ ledger.snapshots) :
    identity ∈ (entries.map Prod.snd).map RestoreSnapshot.identity := by
  obtain ⟨snap, found⟩ := Option.isSome_iff_exists.mp (AList.lookup_isSome.mpr member)
  have entry := listed.mem_iff.mpr (pairs_lookup.mpr found)
  rw [← (booked.consistent identity).keyed snap found]
  exact List.mem_map_of_mem (List.mem_map_of_mem entry)

theorem markedStaleHidden_booked {matched : WindowIdentity → Bool} (booked : Booked ledger) :
    books.ensures (markedStaleHidden matched)
      (fun result after => Booked after ∧ result.1 = min after.stuck u32Max) ledger := by
  refine ensures_seq (books_plain ensures_iterate) fun entries middle listed => ?_
  obtain ⟨listed, rfl⟩ := listed
  have reviewing : Reviewing (((entries.map Prod.snd).insertionSort fun first second =>
      restoreKey first ≤ restoreKey second).map RestoreSnapshot.identity) middle :=
    { booked := booked
      seen := fun identity member => Or.inl (by
        rw [((List.perm_insertionSort _ _).map RestoreSnapshot.identity).mem_iff]
        exact pending_identity booked listed member) }
  refine ensures_seq (markedStaleWindows_reviewing reviewing) fun lastError after reviewed => ?_
  refine ensures_seq (books_plain ensures_read) fun caches _ read => ?_
  obtain ⟨rfl, rfl⟩ := read
  refine ⟨reviewed.booked, reviewed.booked.stuck_recorded fun identity member => ?_⟩
  exact (reviewed.seen identity member).resolve_left (by simp)

theorem ensures_report {failures : Nat} {error : String} :
    bookkeeping.ensures (ask (.note (.restoreFailures failures error)))
      (fun _ after => after =
        { ledger with flags := ledger.flags.reportRestoreFailures failures error }) ledger := by
  rw [ask, ensures_ask]
  intro _ after step
  obtain ⟨caches, taken, rfl⟩ := step
  obtain rfl : caches = ledger.caches := taken
  rfl

theorem markedActOn_balanced {applyMode : Bool} {graph : WindowGraph} {evaluation : Evaluation}
    {pids : List Pid} (balanced : Balanced ledger) :
    books.ensures (markedActOn applyMode graph evaluation pids) (fun _ => Balanced) ledger := by
  cases applyMode with
  | false =>
      refine books_plain (ensures_loop (fun candidate _ before held => ?_) balanced)
      exact ensures_kept (still_ask ⟨by simp [OffCaches], by simp⟩) held
  | true =>
      refine ensures_seq (markedApply_balanced balanced) fun _ state held => ?_
      refine ensures_seq (books_plain ensures_read) fun caches middle read => ?_
      obtain ⟨rfl, rfl⟩ := read
      split
      · exact held
      · refine ensures_seq (markedStaleHidden_booked held.booked) fun result after facts => ?_
        obtain ⟨booked, right⟩ := facts
        refine books_plain (ensures_mono ensures_report fun _ _ reported => ?_)
        subst reported
        exact booked.report result.2 (by rw [right]; omega)

theorem markedTick_balanced [Unicode] {pids : List Pid} {settings : AppSettings}
    {rules : LayoutRules} (balanced : Balanced ledger) :
    books.ensures (markedTick pids settings rules) (fun _ => Balanced) ledger := by
  refine ensures_seq (books_plain (observeTick_balanced balanced)) fun finding after held => ?_
  cases finding with
  | none => exact held
  | some finding => exact ensures_seq (markedActOn_balanced held) fun _ _ held => held

/-- The snapshot of this window waits in the drained list: it is out of the map, and the
records of its last attempt are kept until its turn comes. -/
structure Waits (ledger : Ledger) (identity : WindowIdentity) : Prop where
  absent : identity ∉ ledger.snapshots
  recorded : ledger.tickFailed identity = ledger.caches.recorded identity
  tick : ledger.tickFailed identity = true → ledger.counted identity = true
  failed : ledger.counted identity = true → ledger.lastFailed identity = true

/-- The drain is done with this window.  What the books still have on it goes
at the end. -/
structure Drained (ledger : Ledger) (identity : WindowIdentity) : Prop where
  keyed : ∀ snap, ledger.snapshots.lookup identity = some snap → snap.identity = identity
  counted : ledger.counted identity = true ↔ identity ∈ ledger.snapshots
  recorded : identity ∈ ledger.snapshots →
    ledger.tickFailed identity = ledger.caches.recorded identity
  tick : ledger.tickFailed identity = true → ledger.counted identity = true
  failed : ledger.counted identity = true → ledger.lastFailed identity = true

/-- The last restore is under way. Each window that is left waits for its turn, each other
one is done with, and those that failed are the ones whose snapshots are still there. -/
structure Draining (remaining : List RestoreSnapshot) (failures : Nat) (ledger : Ledger) :
    Prop where
  distinct : (remaining.map RestoreSnapshot.identity).Nodup
  waits : ∀ snap ∈ remaining, Waits ledger snap.identity
  drained : ∀ identity, identity ∉ remaining.map RestoreSnapshot.identity →
    Drained ledger identity
  failures : failures = ledger.snapshots.keys.length
  shows : Shows ledger.flags ledger.others

theorem Waits.of_apart {other : WindowIdentity} (waits : Waits before other)
    (apart : Apart identity before after) (differs : other ≠ identity) : Waits after other where
  absent := by
    rw [← AList.lookup_eq_none, apart.snapshots other differs, AList.lookup_eq_none]
    exact waits.absent
  recorded := by
    rw [apart.tickFailed other differs, apart.recorded other differs]
    exact waits.recorded
  tick := by
    rw [apart.tickFailed other differs, apart.counted other differs]
    exact waits.tick
  failed := by
    rw [apart.counted other differs, apart.lastFailed other differs]
    exact waits.failed

theorem Drained.of_apart {other : WindowIdentity} (drained : Drained before other)
    (apart : Apart identity before after) (differs : other ≠ identity) : Drained after other := by
  have member : other ∈ after.snapshots ↔ other ∈ before.snapshots := by
    rw [← AList.lookup_isSome, apart.snapshots other differs, AList.lookup_isSome]
  refine ⟨?_, ?_, ?_, ?_, ?_⟩
  · rw [apart.snapshots other differs]
    exact drained.keyed
  · rw [apart.counted other differs, member]
    exact drained.counted
  · rw [apart.tickFailed other differs, apart.recorded other differs, member]
    exact drained.recorded
  · rw [apart.tickFailed other differs, apart.counted other differs]
    exact drained.tick
  · rw [apart.counted other differs, apart.lastFailed other differs]
    exact drained.failed

theorem Draining.next {snap : RestoreSnapshot} {rest : List RestoreSnapshot} {failures : Nat}
    {counted : Nat} (draining : Draining (snap :: rest) failures before)
    (apart : Apart snap.identity before after) (own : Drained after snap.identity)
    (right : counted = after.snapshots.keys.length) : Draining rest counted after := by
  have distinct := draining.distinct
  rw [List.map_cons, List.nodup_cons] at distinct
  refine ⟨distinct.2, fun other member => ?_, fun other absent => ?_, right, ?_⟩
  · have differs : other.identity ≠ snap.identity := fun same =>
      distinct.1 (same ▸ List.mem_map_of_mem member)
    exact (draining.waits other (List.mem_cons_of_mem _ member)).of_apart apart differs
  · by_cases same : other = snap.identity
    · rw [same]
      exact own
    · refine (draining.drained other ?_).of_apart apart same
      rw [List.map_cons, List.mem_cons]
      exact fun listed => listed.elim same absent
  · rw [apart.flags, apart.others]
    exact draining.shows

/-- A window that is gone, or that came back. -/
theorem Draining.release {snap : RestoreSnapshot} {rest : List RestoreSnapshot} {failures : Nat}
    {result : Attempted} (draining : Draining (snap :: rest) failures before)
    (ends : result ≠ .failed) :
    Draining rest failures (Ledger.see (.drained snap.identity result) before) := by
  have sees : Ledger.see (.drained snap.identity result) before =
      before.settle snap.identity false := by
    cases result with
    | failed => exact absurd rfl ends
    | gone => rfl
    | restored => rfl
  have absent := (draining.waits snap List.mem_cons_self).absent
  rw [sees]
  refine draining.next ?_ ?_ draining.failures
  · exact
      { snapshots := fun _ _ => rfl
        recorded := fun _ _ => rfl
        lastFailed := fun _ differs => Function.update_of_ne differs _ _
        tickFailed := fun _ differs => Function.update_of_ne differs _ _
        counted := fun _ differs => Function.update_of_ne differs _ _
        flags := rfl
        others := rfl }
  · refine ⟨fun found looked => ?_, ?_, fun member => absurd member absent, ?_, ?_⟩
    · have missing := AList.lookup_eq_none.mpr absent
      exact absurd (looked.symm.trans missing) (by simp)
    · simpa [Ledger.settle] using absent
    · simp [Ledger.settle]
    · simp [Ledger.settle]

/-- A window that still cannot be restored. -/
theorem Draining.keep {snap : RestoreSnapshot} {rest : List RestoreSnapshot} {failures : Nat}
    (draining : Draining (snap :: rest) failures before) :
    Draining rest (failures + 1)
      { Ledger.see (.drained snap.identity .failed) before with
        caches := { before.caches with
          snapshots := before.snapshots.insert snap.identity snap } } := by
  have waits := draining.waits snap List.mem_cons_self
  refine draining.next ?_ ?_ ?_
  · exact
      { snapshots := fun _ differs => AList.lookup_insert_ne differs
        recorded := fun _ _ => rfl
        lastFailed := fun _ differs => Function.update_of_ne differs _ _
        tickFailed := fun _ _ => rfl
        counted := fun _ differs => Function.update_of_ne differs _ _
        flags := rfl
        others := rfl }
  · have member : snap.identity ∈ before.snapshots.insert snap.identity snap :=
      (AList.mem_insert _).mpr (Or.inl rfl)
    refine ⟨fun found looked => ?_, ?_, fun _ => waits.recorded, ?_, ?_⟩
    · rw [AList.lookup_insert] at looked
      rw [← Option.some.inj looked]
    · exact iff_of_true (Function.update_self _ _ _) member
    · simp [Ledger.see]
    · simp [Ledger.see]
  · rw [Ledger.snapshots, AList.keys_insert, List.length_cons,
      List.erase_of_not_mem (fun listed => waits.absent (AList.mem_keys.mpr listed)),
      draining.failures]

theorem markedPending_draining {remaining : List RestoreSnapshot} {failures : Nat}
    {lastError : String} (draining : Draining remaining failures ledger) :
    books.ensures (markedPending remaining failures lastError)
      (fun result after => Draining [] result.1 after) ledger := by
  induction remaining generalizing ledger failures lastError with
  | nil => exact draining
  | cons snap rest ih =>
      refine ensures_seq books_see fun _ acting same => ?_
      subst same
      refine ensures_seq (books_plain (ensures_still ((identityMatches_reads _).mono fun _ =>
        Reads.still))) fun alive after kept => ?_
      subst kept
      cases alive with
      | false =>
          refine ensures_seq books_see fun _ marked same => ?_
          subst same
          exact ih (draining.release (by simp))
      | true =>
          refine ensures_seq (books_plain (ensures_still ((restoreSnapshot_calls snap
            lastError).mono fun _ => RestoreCall.still))) fun result after kept => ?_
          subst kept
          obtain ⟨restored, lastError⟩ := result
          cases restored with
          | true =>
              refine ensures_seq books_see fun _ marked same => ?_
              subst same
              exact ih (draining.release (by simp))
          | false =>
              refine ensures_seq books_see fun _ marked same => ?_
              subst same
              refine ensures_seq (books_plain ensures_update) fun _ after written => ?_
              subst written
              exact ih draining.keep

/-- A drained map. -/
theorem Booked.drain {pending : List RestoreSnapshot} (booked : Booked ledger)
    (listed : (pending.map RestoreSnapshot.identity).Perm ledger.snapshots.keys) :
    Draining pending 0
      { ledger with caches := { ledger.caches with snapshots := ∅ } } where
  distinct := listed.nodup_iff.mpr ledger.snapshots.keys_nodup
  waits snap _ :=
    { absent := AList.notMem_empty _
      recorded := (booked.consistent snap.identity).recorded
      tick := (booked.consistent snap.identity).tick
      failed := (booked.consistent snap.identity).failed }
  drained identity absent := by
    have own := booked.consistent identity
    have uncounted : ledger.counted identity = false :=
      Bool.eq_false_iff.mpr fun counted =>
        absent (listed.mem_iff.mpr (AList.mem_keys.mp (own.held counted)))
    exact
      { keyed := fun snap looked => by cases looked
        counted := by simp [uncounted, Ledger.snapshots]
        recorded := fun member => absurd member (AList.notMem_empty _)
        tick := own.tick
        failed := own.failed }
  failures := rfl
  shows := booked.shows

/-- The end of a drain drops what the books have on restored windows. -/
theorem Draining.drop {failures : Nat} (draining : Draining [] failures ledger) :
    Booked { ledger with
      caches := ledger.caches.retainStale fun identity => decide (identity ∈ ledger.snapshots) } ∧
      failures = ledger.stuck := by
  have drained : ∀ identity, Drained ledger identity := fun identity =>
    draining.drained identity (by simp)
  constructor
  · refine ⟨fun identity => ?_, draining.shows⟩
    have own := drained identity
    refine ⟨own.keyed, own.counted.mp, ?_, own.tick, own.failed⟩
    refine Eq.trans ?_ (recorded_retainStale _ _ identity).symm
    by_cases member : identity ∈ ledger.snapshots
    · simpa [member] using own.recorded member
    · rw [decide_eq_false member, Bool.false_and]
      exact Bool.eq_false_iff.mpr fun failed => member (own.counted.mp (own.tick failed))
  · rw [draining.failures, Ledger.stuck]
    refine (List.countP_eq_length.mpr fun identity member => ?_).symm
    exact (drained identity).counted.mpr (AList.mem_keys.mpr member)

theorem drained_keys {entries : List (WindowIdentity × RestoreSnapshot)} (booked : Booked ledger)
    (listed : entries.Perm ledger.snapshots.pairs) :
    ((entries.map Prod.snd).map RestoreSnapshot.identity).Perm ledger.snapshots.keys := by
  have keyed : ledger.snapshots.pairs.map (fun entry => entry.2.identity) =
      ledger.snapshots.keys := by
    rw [Snapshots.pairs, List.map_map]
    apply List.map_congr_left
    intro entry member
    exact (booked.consistent entry.1).keyed entry.2 (AList.mem_lookup_iff.mpr member)
  rw [List.map_map, ← keyed]
  exact listed.map _

theorem markedDrain_booked (booked : Booked ledger) :
    books.ensures markedDrain (fun result after => Booked after ∧ result.1 = after.stuck)
      ledger := by
  have draining : bookkeeping.ensures drainSnapshots
      (fun pending after => Draining (pending.insertionSort fun first second =>
        restoreKey first ≤ restoreKey second) 0 after) ledger := by
    refine ensures_seq ensures_iterate fun entries middle listed => ?_
    obtain ⟨listed, rfl⟩ := listed
    refine ensures_seq ensures_update fun _ after written => ?_
    subst written
    exact booked.drain (((List.perm_insertionSort _ _).map _).trans (drained_keys booked listed))
  have all : books.ensures markedAll (fun result after => Draining [] result.1 after) ledger :=
    ensures_seq (books_plain draining) fun pending state draining =>
      markedPending_draining draining
  refine ensures_seq all fun result after drained => ?_
  refine ensures_seq (books_plain ensures_update) fun _ dropped written => ?_
  subst written
  exact drained.drop

theorem markedRetry_balanced {state : OffRestore} {instant : Instant}
    (balanced : Balanced ledger) :
    books.ensures (markedRetry state instant) (fun _ => Balanced) ledger := by
  refine ensures_seq (books_plain (ensures_kept (still_ask (Reads.still rfl)) balanced))
    fun apply middle held => ?_
  cases apply with
  | false => exact held
  | true =>
      refine ensures_seq (books_plain ensures_read) fun caches middle read => ?_
      obtain ⟨rfl, rfl⟩ := read
      split
      · rename_i empty
        refine ensures_seq (books_plain ensures_report) fun _ after reported => ?_
        subst reported
        refine held.booked.report "" ?_
        rw [Ledger.stuck, AList.keys, List.isEmpty_iff.mp empty]
        rfl
      · split
        · exact held
        · refine ensures_seq (markedDrain_booked held.booked) fun result after facts => ?_
          obtain ⟨booked, right⟩ := facts
          refine ensures_seq (books_plain ensures_report) fun _ noted reported => ?_
          subst reported
          have reported := booked.report result.2 (congrArg (fun count => min count u32Max) right)
          split
          · exact reported
          · exact reported

/-- Ticks and retries.  When KakaoTalk is gone the worker forgets its transient
caches after a retry, and the rest of the engine has errors of its own. -/
inductive LedgerRun [Unicode] (start : Ledger) : Ledger → Prop where
  | start : LedgerRun start start
  | tick {before after : Ledger} {pids : List Pid} {settings : AppSettings} {rules : LayoutRules}
      {evaluation : Evaluation} (earlier : LedgerRun start before)
      (ran : books.Runs (markedTick pids settings rules) before evaluation after) :
      LedgerRun start after
  | retry {before after : Ledger} {state next : OffRestore} {instant : Instant}
      (earlier : LedgerRun start before)
      (ran : books.Runs (markedRetry state instant) before next after) : LedgerRun start after
  | transient {before : Ledger} (earlier : LedgerRun start before) :
      LedgerRun start
        { before with caches := before.caches.clearTransient, tickFailed := fun _ => false }
  | otherError {before : Ledger} (message : String) (earlier : LedgerRun start before) :
      LedgerRun start { before with flags := before.flags.setLastError message, others := message }
  | clearedError {before : Ledger} (expected : String) (earlier : LedgerRun start before) :
      LedgerRun start { before with flags := before.flags.clearErrorIf expected }

theorem Balanced.transient (balanced : Balanced ledger) :
    Balanced { ledger with
      caches := ledger.caches.clearTransient, tickFailed := fun _ => false } := by
  have booked : Booked { ledger with
      caches := ledger.caches.clearTransient, tickFailed := fun _ => false } :=
    { consistent := fun identity =>
        have own := balanced.booked.consistent identity
        { keyed := own.keyed
          held := own.held
          recorded := rfl
          tick := fun failed => by cases failed
          failed := own.failed }
      shows := balanced.booked.shows }
  refine ⟨booked, ?_⟩
  rw [balanced.booked.stuck_eq booked rfl]
  exact balanced.gauge

theorem Balanced.reflag {flags : RestoreFlags} {others : String} (balanced : Balanced ledger)
    (shows : Shows flags others)
    (same : flags.restoreFailures = ledger.flags.restoreFailures) :
    Balanced { ledger with flags := flags, others := others } where
  booked :=
    { consistent := fun identity =>
        (balanced.booked.consistent identity).of_same rfl rfl rfl rfl rfl
      shows := shows }
  gauge := by rw [same]; exact balanced.gauge

theorem Shows.clearErrorIf {flags : RestoreFlags} {others : String} (shows : Shows flags others)
    (expected : String) : Shows (flags.clearErrorIf expected) others := by
  unfold RestoreFlags.clearErrorIf
  split
  · exact ⟨shows.quiet, fun _ => Or.inl rfl⟩
  · exact shows

theorem LedgerRun.balanced [Unicode] {start finish : Ledger} (fresh : Balanced start)
    (run : LedgerRun start finish) : Balanced finish := by
  induction run with
  | start => exact fresh
  | tick earlier ran ih => exact ensures_runs (markedTick_balanced ih) ran
  | retry earlier ran ih => exact ensures_runs (markedRetry_balanced ih) ran
  | transient earlier ih => exact ih.transient
  | otherError message earlier ih =>
      exact ih.reflag ⟨fun _ => rfl, fun _ => Or.inr rfl⟩ rfl
  | clearedError expected earlier ih =>
      refine ih.reflag (ih.booked.shows.clearErrorIf expected) ?_
      unfold RestoreFlags.clearErrorIf
      split
      · rfl
      · rfl

def Ledger.fresh (message : String) : Ledger :=
  { flags := { lastError := message }, others := message }

theorem Ledger.fresh_balanced (message : String) : Balanced (Ledger.fresh message) where
  booked :=
    { consistent := fun identity =>
        { keyed := fun snap looked => by cases looked
          held := fun counted => by cases counted
          recorded := rfl
          tick := fun failed => by cases failed
          failed := fun counted => by cases counted }
      shows := ⟨fun _ => rfl, fun _ => Or.inr rfl⟩ }
  gauge := rfl

/-- After every tick and every retry the gauge is the number of snapshots whose
window counts as one that cannot be restored, and the latest attempt to restore
each of them failed.  Once no snapshot is left the gauge is zero and
`last_error` shows no restore failure. -/
theorem gauge_counts_failures [Unicode] {message : String} {finish : Ledger}
    (run : LedgerRun (Ledger.fresh message) finish) :
    min finish.flags.restoreFailures u32Max = min finish.stuck u32Max ∧
      (∀ identity, finish.counted identity = true →
        identity ∈ finish.snapshots ∧ finish.lastFailed identity = true) ∧
      (finish.snapshots.entries = [] →
        finish.flags.restoreFailures = 0 ∧ finish.flags.restoreErrorActive = false ∧
          (finish.flags.lastError = "" ∨ finish.flags.lastError = finish.others)) := by
  have balanced := run.balanced (Ledger.fresh_balanced message)
  refine ⟨balanced.gauge, fun identity counted => ?_, fun empty => ?_⟩
  · have own := balanced.booked.consistent identity
    exact ⟨own.held counted, own.failed counted⟩
  · have none : finish.stuck = 0 := by
      rw [Ledger.stuck, AList.keys, empty]
      rfl
    have gauge := balanced.gauge
    have zero : finish.flags.restoreFailures = 0 := by
      rw [none] at gauge
      simp only [u32Max] at gauge
      omega
    have quiet := balanced.booked.shows.quiet zero
    exact ⟨zero, quiet, balanced.booked.shows.shown quiet⟩

/-- One visible popup of process 5 with this title. -/
def ledgerAnswer (title : String) (hung : Bool) (ledger : Ledger) (call : Call) : call.Answer :=
  match call with
  | .getWindowTextResult _ => .known title
  | .isHungAppWindow _ => hung
  | call => popupAnswer { visiblePopup with caches := ledger.caches } call

/-- A desktop that answers the same throughout a tick. It keeps the caches it is given and
follows the marks. -/
def ledgerHandler (title : String) (hung : Bool) :
    (op : MarkedOp Call Mark) → Ledger → MarkedAnswer Call.Answer op × Ledger
  | .call call, ledger =>
      let caches := match call with
        | .writeCaches caches => caches
        | _ => ledger.caches
      (ledgerAnswer title hung ledger call,
        { ledger with caches := caches, flags := ledger.noted call })
  | .mark what, ledger => ((), Ledger.see what ledger)

theorem ledgerHandler_realizes (title : String) (hung : Bool) (op : MarkedOp Call Mark)
    (ledger : Ledger) :
    (bookkeeping.marked Ledger.see).step op ledger (ledgerHandler title hung op ledger).1
      (ledgerHandler title hung op ledger).2 := by
  cases op with
  | mark what => rfl
  | call call =>
      refine ⟨_, ?_, rfl⟩
      cases call with
      | readCaches => exact ⟨rfl, rfl⟩
      | iterateSnapshots => exact ⟨List.Perm.refl _, rfl⟩
      | _ => rfl

def popupLedgerTick (title : String) (hung : Bool) (ledger : Ledger) : Ledger :=
  (popupMarkedTick.exec (ledgerHandler title hung) ledger).2

/-- One tick hides the popup.  Then it has another title, and when it is due to
be shown again it does not respond. -/
def popupStuck : Ledger :=
  popupLedgerTick "Friend" true
    (popupLedgerTick "Friend" false
      (popupLedgerTick "Chrome Legacy Window" false (Ledger.fresh "")))

def popupBack : Ledger := popupLedgerTick "Chrome Legacy Window" true popupStuck

theorem popupLedger_run {title : String} {hung : Bool} {ledger : Ledger}
    (run : @LedgerRun asciiLowercase (Ledger.fresh "") ledger)
    (obeys : popupMarkedTick.obeys (ledgerHandler title hung) dropsUncounted ledger = true) :
    @LedgerRun asciiLowercase (Ledger.fresh "") (popupLedgerTick title hung ledger) := by
  let _ := asciiLowercase
  exact LedgerRun.tick run (runs_obeys (ledgerHandler_realizes title hung) obeys)

set_option maxRecDepth 8000 in
theorem popupStuck_run : @LedgerRun asciiLowercase (Ledger.fresh "") popupStuck := by
  let _ := asciiLowercase
  have hides := popupLedger_run (.start : LedgerRun (Ledger.fresh "") _)
    (by decide : popupMarkedTick.obeys (ledgerHandler "Chrome Legacy Window" false) _ _ = true)
  have misses := popupLedger_run hides
    (by decide : popupMarkedTick.obeys (ledgerHandler "Friend" false) _ _ = true)
  exact popupLedger_run misses (by decide)

set_option maxRecDepth 8000 in
/-- A failed restore shows in the gauge. -/
theorem popupStuck_gauge :
    popupStuck.flags.restoreFailures = 1 ∧ popupStuck.stuck = 1 ∧
      popupStuck.lastFailed popupIdentity = true := by
  have counted := @gauge_counts_failures asciiLowercase _ _ popupStuck_run
  exact ⟨by decide, by decide, (counted.2.1 popupIdentity (by decide)).2⟩

set_option maxRecDepth 8000 in
/-- A match takes a failure out of the gauge, although no later attempt has
succeeded and the snapshot is still there. -/
theorem popupBack_uncounted :
    @LedgerRun asciiLowercase (Ledger.fresh "") popupBack ∧
      popupIdentity ∈ popupBack.snapshots ∧ popupBack.lastFailed popupIdentity = true ∧
        popupBack.flags.restoreFailures = 0 := by
  exact ⟨popupLedger_run popupStuck_run (by decide), by decide, by decide, by decide⟩

end LayoutAdblock.Engine
