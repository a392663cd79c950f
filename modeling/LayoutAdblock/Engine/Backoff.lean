import LayoutAdblock.Engine.Drain
import LayoutAdblock.Engine.Gauge

namespace LayoutAdblock.Engine

open LayoutAdblock.Core Interaction Environment

/-! # The back-off of failing restores

What a sequence of calls of `restore_stale_hidden` does with one window is a
machine of its own.  The engine keeps one for each window with a snapshot.
-/

/-- What one call of `restore_stale_hidden` does with a window: it matches again, it waits
for the second miss or for the cooldown, or a restore is tried. A window without a snapshot
is absent. -/
inductive Visit where
  | absent
  | matched
  | waited
  | tried (result : Attempted) (warned : Bool)
deriving DecidableEq, Repr

/-- The window was not matched, and its snapshot is still there. -/
def Visit.misses : Visit → Bool
  | .waited | .tried .failed _ => true
  | _ => false

/-- The books of the window before and after a call. Only a wait and a failed attempt leave
any, and the first failure since the books were empty is the one that is reported. -/
inductive Visit.Step : StaleState → Visit → StaleState → Prop where
  | absent : Step {} .absent {}
  | matched {state : StaleState} : Step state .matched {}
  | waited {state : StaleState} (early : state.miss.2 = false) :
      Step state .waited state.miss.1
  | failed {state : StaleState} (due : state.miss.2 = true) :
      Step state (.tried .failed (!state.warned)) state.miss.1.fail
  | left {state : StaleState} {result : Attempted} (due : state.miss.2 = true)
      (ends : result ≠ .failed) : Step state (.tried result false) {}

/-- How many attempts have failed since the window was last matched or left. -/
def failures (visits : Nat → Visit) : Nat → Nat
  | 0 => 0
  | call + 1 =>
      match visits call with
      | .tried .failed _ => failures visits call + 1
      | .waited => failures visits call
      | _ => 0

/-- The calls that are skipped after so many failures in a row: one, two, four and eight,
and three hundred once the engine has given up. -/
def backoff : Nat → Nat
  | 1 => 1
  | 2 => 2
  | 3 => 4
  | 4 => 8
  | _ => 300

theorem retryCooldownTicks_eq {failed : Nat} (positive : 0 < failed) :
    retryCooldownTicks (min failed u32Max) = backoff failed := by
  by_cases few : failed < 5
  · rcases failed with _ | _ | _ | _ | _ | failed
    · omega
    · rfl
    · rfl
    · rfl
    · rfl
    · omega
  · have many : restoreMaxAttempts ≤ min failed u32Max := by
      simp only [restoreMaxAttempts, u32Max]
      omega
    rw [retryCooldownTicks, if_pos many]
    rcases failed with _ | _ | _ | _ | _ | failed
    · omega
    · omega
    · omega
    · omega
    · omega
    · rfl

theorem saturatingSucc_pos (count : Nat) : 0 < saturatingSucc count := by
  simp only [saturatingSucc, u32Max]
  omega

section Miss

variable {state : StaleState}

theorem miss_first (first : state.missStreak = 0) :
    state.miss = ({ state with missStreak := saturatingSucc state.missStreak }, false) := by
  have early : saturatingSucc state.missStreak < restoreMissThreshold := by
    simp only [saturatingSucc, restoreMissThreshold, u32Max]
    omega
  rw [StaleState.miss]
  exact if_pos early

theorem miss_later (later : 0 < state.missStreak) :
    state.miss =
      if 0 < state.cooldown then
        ({ state with
            missStreak := saturatingSucc state.missStreak
            cooldown := state.cooldown - 1 }, false)
      else ({ state with missStreak := saturatingSucc state.missStreak }, true) := by
  have late : ¬ saturatingSucc state.missStreak < restoreMissThreshold := by
    simp only [saturatingSucc, restoreMissThreshold, u32Max]
    omega
  rw [StaleState.miss]
  exact if_neg late

theorem miss_cooling {left : Nat} (later : 0 < state.missStreak)
    (cooling : state.cooldown = left + 1) :
    state.miss =
      ({ state with missStreak := saturatingSucc state.missStreak, cooldown := left }, false) := by
  rw [miss_later later, if_pos (by omega), cooling, Nat.add_sub_cancel]

theorem miss_due (later : 0 < state.missStreak) (cool : state.cooldown = 0) :
    state.miss = ({ state with missStreak := saturatingSucc state.missStreak }, true) := by
  rw [miss_later later, if_neg (by omega)]

/-- A restore is due from the second miss on. -/
theorem missStreak_of_due (due : state.miss.2 = true) : 0 < state.missStreak := by
  by_contra none
  rw [miss_first (by omega)] at due
  cases due

theorem miss_warned : state.miss.1.warned = state.warned := by
  rcases Nat.eq_zero_or_pos state.missStreak with first | later
  · rw [miss_first first]
  · rw [miss_later later]
    split_ifs
    · rfl
    · rfl

theorem miss_missStreak : 0 < state.miss.1.missStreak := by
  rcases Nat.eq_zero_or_pos state.missStreak with first | later
  · rw [miss_first first]
    exact saturatingSucc_pos _
  · rw [miss_later later]
    split_ifs
    · exact saturatingSucc_pos _
    · exact saturatingSucc_pos _

end Miss

section Steps

variable {state after : StaleState} {visit : Visit}

/-- While the back-off lasts, an unmatched window waits. -/
theorem Visit.Step.waits {left : Nat} (step : visit.Step state after)
    (unmatched : visit ≠ .matched) (missed : 0 < state.missStreak)
    (cooling : state.cooldown = left + 1) :
    visit = .waited ∧ after.cooldown = left ∧ 0 < after.missStreak := by
  have counts := miss_cooling missed cooling
  cases step with
  | absent => cases missed
  | matched => exact absurd rfl unmatched
  | waited early =>
      refine ⟨rfl, ?_, miss_missStreak⟩
      rw [counts]
  | failed due =>
      rw [counts] at due
      cases due
  | left due =>
      rw [counts] at due
      cases due

/-- When it has passed, the window is tried. -/
theorem Visit.Step.tries (step : visit.Step state after) (unmatched : visit ≠ .matched)
    (missed : 0 < state.missStreak) (cool : state.cooldown = 0) :
    ∃ result warned, visit = .tried result warned := by
  cases step with
  | absent => cases missed
  | matched => exact absurd rfl unmatched
  | waited early =>
      rw [miss_due missed cool] at early
      cases early
  | failed due => exact ⟨_, _, rfl⟩
  | left due ends => exact ⟨_, _, rfl⟩

theorem Visit.Step.due {result : Attempted} {warned : Bool}
    (step : (Visit.tried result warned).Step state after) : state.miss.2 = true := by
  cases step with
  | failed due => exact due
  | left due => exact due

theorem Visit.Step.cooldown {warned : Bool}
    (step : (Visit.tried .failed warned).Step state after) :
    after.cooldown = retryCooldownTicks after.attempts := by
  cases step with
  | failed => rfl
  | left _ ends => exact absurd rfl ends

/-- What is reported is the first failure on record. -/
theorem Visit.Step.warns {result : Attempted}
    (step : (Visit.tried result true).Step state after) :
    result = .failed ∧ state.warned = false := by
  generalize reported : true = warned at step
  cases step with
  | failed => exact ⟨rfl, (Bool.not_eq_true' _).mp reported.symm⟩
  | left => cases reported

end Steps

/-- The calls start from empty books. -/
structure History (visits : Nat → Visit) (states : Nat → StaleState) (count : Nat) : Prop where
  fresh : states 0 = {}
  step : ∀ call < count, (visits call).Step (states call) (states (call + 1))

section History

variable {visits : Nat → Visit} {states : Nat → StaleState} {count call : Nat}

/-- What the books say of the calls so far: they hold the number of failures since they were
last emptied, up to `u32::MAX`, and whether one of these was reported. -/
structure Books (failed : Nat) (missed : Bool) (state : StaleState) : Prop where
  attempts : state.attempts = min failed u32Max
  warned : state.warned = decide (0 < failed)
  missed : 0 < state.missStreak → missed = true
  counted : 0 < failed → 0 < state.missStreak

/-- The last call, if there was one, missed the window. -/
def missedBefore (visits : Nat → Visit) : Nat → Bool
  | 0 => false
  | call + 1 => (visits call).misses

theorem Books.reset {missed : Bool} : Books 0 missed {} :=
  ⟨rfl, rfl, fun missed => absurd missed (lt_irrefl 0), fun failed => absurd failed (lt_irrefl 0)⟩

theorem History.books (history : History visits states count) (within : call ≤ count) :
    Books (failures visits call) (missedBefore visits call) (states call) := by
  induction call with
  | zero =>
      rw [history.fresh]
      exact .reset
  | succ call ih =>
      have before := ih (by omega)
      have step := history.step call within
      generalize states (call + 1) = after at step
      generalize states call = state at before step
      rw [failures, missedBefore]
      generalize visits call = visit at step
      cases step with
      | absent => exact .reset
      | matched => exact .reset
      | waited early =>
          exact ⟨(miss_attempts state).trans before.attempts, miss_warned.trans before.warned,
            fun _ => rfl, fun _ => miss_missStreak⟩
      | failed due =>
          refine ⟨?_, by simp [StaleState.fail], fun _ => rfl, fun _ => miss_missStreak⟩
          simp only [StaleState.fail, miss_attempts, before.attempts, saturatingSucc]
          omega
      | @left _ result due ends =>
          cases result with
          | failed => exact absurd rfl ends
          | gone => exact .reset
          | restored => exact .reset

/-- A window is tried in the second call in a row that misses it, or later. -/
theorem History.second {result : Attempted} {warned : Bool}
    (history : History visits states count) (within : call < count)
    (tried : visits call = .tried result warned) :
    missedBefore visits call = true := by
  have books := history.books within.le
  have step := history.step call within
  rw [tried] at step
  exact books.missed (missStreak_of_due step.due)

/-- After a failure the back-off is counted down, one call at a time. -/
theorem History.cooling {warned : Bool} (history : History visits states count)
    (failed : visits call = .tried .failed warned) {passed : Nat}
    (short : passed ≤ backoff (failures visits (call + 1)))
    (within : call + 1 + passed ≤ count)
    (unmatched : ∀ later, call < later → later ≤ call + passed → visits later ≠ .matched) :
    (states (call + 1 + passed)).cooldown = backoff (failures visits (call + 1)) - passed ∧
      0 < (states (call + 1 + passed)).missStreak ∧
      ∀ later, call < later → later ≤ call + passed → visits later = .waited := by
  induction passed with
  | zero =>
      have books := history.books (by omega : call + 1 ≤ count)
      have positive : 0 < failures visits (call + 1) := by
        rw [failures, failed]
        exact Nat.succ_pos _
      have step := history.step call (by omega)
      rw [failed] at step
      refine ⟨?_, books.counted positive, fun later after until' => by omega⟩
      rw [Nat.add_zero, Nat.sub_zero, ← retryCooldownTicks_eq positive, ← books.attempts]
      exact step.cooldown
  | succ passed ih =>
      obtain ⟨cooldown, missed, waited⟩ := ih (by omega) (by omega)
        fun later after until' => unmatched later after (by omega)
      have step := history.step (call + 1 + passed) (by omega)
      have next : visits (call + 1 + passed) ≠ .matched := unmatched _ (by omega) (by omega)
      have left : (states (call + 1 + passed)).cooldown =
          backoff (failures visits (call + 1)) - (passed + 1) + 1 := by omega
      obtain ⟨waits, cooled, missed⟩ := step.waits next missed left
      refine ⟨cooled, missed, fun later after until' => ?_⟩
      rcases Nat.lt_or_ge later (call + 1 + passed) with earlier | last
      · exact waited later after (by omega)
      · rw [show later = call + 1 + passed by omega]
        exact waits

/-- While no call matches the window, it waits out the back-off and is tried in the call after. -/
theorem History.retry {later : Nat} {warned : Bool} (history : History visits states count)
    (failed : visits call = .tried .failed warned) (after : call < later) (within : later < count)
    (unmatched : ∀ between, call < between → between ≤ later → visits between ≠ .matched) :
    (later ≤ call + backoff (failures visits (call + 1)) → visits later = .waited) ∧
      (later = call + backoff (failures visits (call + 1)) + 1 →
        ∃ result warned, visits later = .tried result warned) := by
  constructor
  · intro early
    have short : later - call ≤ backoff (failures visits (call + 1)) := by omega
    have cooled := history.cooling failed short (by omega)
      fun between after until' => unmatched between after (by omega)
    exact cooled.2.2 later after (by omega)
  · rintro rfl
    have cooled := history.cooling failed le_rfl (by omega)
      fun between after until' => unmatched between after (by omega)
    have place : call + 1 + backoff (failures visits (call + 1)) =
        call + backoff (failures visits (call + 1)) + 1 := by omega
    rw [place, Nat.sub_self] at cooled
    exact (history.step _ within).tries (unmatched _ after le_rfl) cooled.2.1 cooled.1

/-- Between two reports the window was matched, or its snapshot has left. -/
theorem History.reported {later : Nat} {first second : Attempted}
    (history : History visits states count) (reported : visits call = .tried first true)
    (again : visits later = .tried second true) (after : call < later) (within : later < count) :
    ∃ between, call < between ∧ between < later ∧ (visits between).misses = false := by
  by_contra uninterrupted
  push Not at uninterrupted
  obtain ⟨rfl, _⟩ := (reported ▸ history.step call (by omega)).warns
  have failing : ∀ passed, call + 1 + passed ≤ later →
      0 < failures visits (call + 1 + passed) := by
    intro passed
    induction passed with
    | zero =>
        intro _
        rw [Nat.add_zero, failures, reported]
        exact Nat.succ_pos _
    | succ passed ih =>
        intro reaches
        have missed := uninterrupted (call + 1 + passed) (by omega) (by omega)
        have before := ih (by omega)
        rw [← Nat.add_assoc, failures]
        cases visit : visits (call + 1 + passed) with
        | waited => exact before
        | tried result warned =>
            cases result with
            | failed => exact Nat.succ_pos _
            | gone => simp [visit, Visit.misses] at missed
            | restored => simp [visit, Visit.misses] at missed
        | absent => simp [visit, Visit.misses] at missed
        | matched => simp [visit, Visit.misses] at missed
  have place : call + 1 + (later - (call + 1)) = later := by omega
  have positive := failing (later - (call + 1)) place.le
  rw [place] at positive
  have books := history.books within.le
  have unreported := (again ▸ history.step later within).warns.2
  rw [books.warned, decide_eq_false_iff_not] at unreported
  exact unreported positive

end History

/-- An attempt of `restore_stale_hidden` with its Win32 calls, and what was logged about it. -/
structure StaleAttempt extends Attempt where
  report : Trace

/-- The restore of a window failed, and it is retried quietly. -/
def warning (identity : WindowIdentity) (attempts cooldown : Nat) (error : String) :
    Event Call Call.Answer :=
  { op := .note (.staleRestoreFailed identity.hwnd attempts cooldown error), answer := () }

namespace StaleAttempt

/-- The calls of an attempt with what it reports of itself. -/
def events (attempt : StaleAttempt) : Trace := attempt.toAttempt.events ++ attempt.report

/-- Nothing was logged, or one warning about a failure. -/
def Took (attempt : StaleAttempt) : Prop :=
  attempt.toAttempt.Took ∧
    (attempt.report = [] ∨ attempt.result = .failed ∧ ∃ attempts cooldown error,
      attempt.report = [warning attempt.identity attempts cooldown error])

end StaleAttempt

/-- What a call leaves of the snapshot and of the books of one window. A restored window and
one that is gone lose both, a failed one keeps its snapshot and is told to back off. -/
inductive Visited (matched : Bool) (snap : RestoreSnapshot) (state : StaleState) :
    List StaleAttempt → Option RestoreSnapshot → Option StaleState → Prop where
  | matched (matches' : matched = true) : Visited matched snap state [] (some snap) none
  | waited (unmatched : matched = false) (early : state.miss.2 = false) :
      Visited matched snap state [] (some snap) (some state.miss.1)
  | left {attempt : StaleAttempt} (unmatched : matched = false) (due : state.miss.2 = true)
      (own : attempt.snap = snap) (ends : attempt.result ≠ .failed) (quiet : attempt.report = []) :
      Visited matched snap state [attempt] none none
  | failed {attempt : StaleAttempt} (unmatched : matched = false) (due : state.miss.2 = true)
      (own : attempt.snap = snap) (fails : attempt.result = .failed)
      (reported : attempt.report = [] ↔ state.warned = true) :
      Visited matched snap state [attempt] (some snap) (some state.miss.1.fail)

/-- A piece of the run that is about one window: the books and the snapshots of every other
one are untouched, and its calls are those of the listed attempts. -/
structure VisitsOnly (matched : Bool) (identity : WindowIdentity) (snap : RestoreSnapshot)
    (before after : Recording) (attempts : List StaleAttempt) : Prop where
  snapshots : ∀ other, other ≠ identity →
    after.state.snapshots.lookup other = before.state.snapshots.lookup other
  stale : ∀ other, other ≠ identity →
    after.state.stale.lookup other = before.state.stale.lookup other
  calls : externalCalls after.trace =
    externalCalls before.trace ++ attempts.flatMap StaleAttempt.events
  took : ∀ attempt ∈ attempts, attempt.Took
  own : Visited matched snap (staleOf before.state identity) attempts
    (after.state.snapshots.lookup identity) (after.state.stale.lookup identity)

theorem removeStale_records (identity : WindowIdentity) (before : Recording) :
    adversary.recorded.ensures (removeStale identity)
      (fun _ after =>
        after.state = { before.state with stale := before.state.stale.erase identity } ∧
        externalCalls after.trace = externalCalls before.trace) before := by
  simp only [removeStale, ask, ensures_bind, ensures_recorded_ask]
  rintro caches afterRead ⟨rfl, rfl⟩ _ afterWrite stepped
  exact ⟨stepped, by simp [externalCalls, Call.external]⟩

theorem setStale_records (identity : WindowIdentity) (state : StaleState) (before : Recording) :
    adversary.recorded.ensures (setStale identity state)
      (fun _ after =>
        after.state = { before.state with stale := before.state.stale.insert identity state } ∧
        externalCalls after.trace = externalCalls before.trace) before := by
  simp only [setStale, ask, ensures_bind, ensures_recorded_ask]
  rintro caches afterRead ⟨rfl, rfl⟩ _ afterWrite stepped
  exact ⟨stepped, by simp [externalCalls, Call.external]⟩

theorem readCaches_records (before : Recording) :
    adversary.recorded.ensures (ask .readCaches)
      (fun caches after => caches = before.state ∧ after.state = before.state ∧
        externalCalls after.trace = externalCalls before.trace) before := by
  simp only [ask, ensures_recorded_ask]
  rintro caches afterRead ⟨rfl, rfl⟩
  exact ⟨rfl, rfl, by simp [externalCalls, Call.external]⟩

section Due

variable {identity : WindowIdentity} {snap : RestoreSnapshot} {start before : Recording}

/-- A window whose miss is counted and whose snapshot has been taken out. -/
structure Taken (identity : WindowIdentity) (snap : RestoreSnapshot) (start : Recording)
    (caches : EngineCaches) : Prop where
  keyed : snap.identity = identity
  due : (staleOf start.state identity).miss.2 = true
  snapshots : caches.snapshots = start.state.snapshots.erase identity
  stale : caches.stale =
    start.state.stale.insert identity (staleOf start.state identity).miss.1

/-- The window is gone or restored. -/
theorem Taken.leaves {attempt : Attempt} {lastError : String}
    (taken : Taken identity snap start before.state) (took : attempt.Took)
    (own : attempt.snap = snap) (ends : attempt.result ≠ .failed)
    (calls : externalCalls before.trace = externalCalls start.trace ++ attempt.events) :
    adversary.recorded.ensures
      (do
        removeStale identity
        return lastError)
      (fun _ after => ∃ attempts, VisitsOnly false identity snap start after attempts) before := by
  refine ensures_seq (removeStale_records identity before) fun _ after facts => ?_
  obtain ⟨state, quiet⟩ := facts
  have snapshots : after.state.snapshots = start.state.snapshots.erase identity := by
    rw [state, ← taken.snapshots]
  refine ⟨[{ attempt with report := [] }], fun other differs => ?_, fun other differs => ?_, ?_, ?_,
    ?_⟩
  · rw [snapshots]
    exact AList.lookup_erase_ne differs
  · rw [state]
    exact (AList.lookup_erase_ne differs).trans
      (taken.stale ▸ AList.lookup_insert_ne differs)
  · rw [quiet, calls]
    simp [StaleAttempt.events]
  · intro other member
    rw [List.mem_singleton.mp member]
    exact ⟨took, .inl rfl⟩
  · rw [snapshots, AList.lookup_erase, state, AList.lookup_erase]
    exact .left rfl taken.due own ends rfl

theorem note_records (what : Note) (before : Recording) :
    adversary.recorded.ensures (ask (.note what))
      (fun _ after => after.state = before.state ∧
        after.trace = before.trace ++ [{ op := .note what, answer := () }]) before := by
  simp only [ask, ensures_recorded_ask]
  intro _ after stepped
  exact ⟨stepped, trivial⟩

/-- The window could not be restored. -/
theorem Taken.fails {attempt : Attempt} {lastError : String}
    (taken : Taken identity snap start before.state) (took : attempt.Took)
    (own : attempt.snap = snap) (failed : attempt.result = .failed)
    (calls : externalCalls before.trace = externalCalls start.trace ++ attempt.events) :
    adversary.recorded.ensures
      (do
        modifySnapshots fun snapshots => snapshots.insert identity snap
        let caches ← ask .readCaches
        let before := staleOf caches identity
        let failed := before.fail
        setStale identity failed
        if before.warned then return lastError
        else
          ask (.note (.staleRestoreFailed identity.hwnd failed.attempts failed.cooldown lastError))
          return lastError)
      (fun _ after => ∃ attempts, VisitsOnly false identity snap start after attempts) before := by
  refine ensures_seq (modifySnapshots_records _ before) fun _ stored facts => ?_
  obtain ⟨storedState, storedCalls⟩ := facts
  refine ensures_seq (readCaches_records stored) fun caches read facts => ?_
  obtain ⟨rfl, readState, readCalls⟩ := facts
  have books : staleOf stored.state identity = (staleOf start.state identity).miss.1 := by
    rw [storedState, staleOf, taken.stale, AList.lookup_insert]
    rfl
  rw [books]
  refine ensures_seq (setStale_records identity _ read) fun _ set facts => ?_
  obtain ⟨setState, setCalls⟩ := facts
  have quiet : externalCalls set.trace = externalCalls start.trace ++ attempt.events := by
    rw [setCalls, readCalls, storedCalls, calls]
  have snapshots : set.state.snapshots = (start.state.snapshots.erase identity).insert identity
      snap := by
    rw [setState, readState, storedState, ← taken.snapshots]
  have stale : set.state.stale = (start.state.stale.insert identity
      (staleOf start.state identity).miss.1).insert identity
        (staleOf start.state identity).miss.1.fail := by
    rw [setState, readState, storedState, ← taken.stale]
  have visits : ∀ (after : Recording) (report : Trace), after.state = set.state →
      externalCalls after.trace = externalCalls set.trace ++ report →
      (report = [] ↔ (staleOf start.state identity).warned = true) →
      StaleAttempt.Took { attempt with report := report } →
      VisitsOnly false identity snap start after [{ attempt with report := report }] := by
    intro after report same reports reported took
    refine ⟨fun other differs => ?_, fun other differs => ?_, ?_, ?_, ?_⟩
    · rw [same, snapshots, AList.lookup_insert_ne differs, AList.lookup_erase_ne differs]
    · rw [same, stale, AList.lookup_insert_ne differs, AList.lookup_insert_ne differs]
    · rw [reports, quiet, List.append_assoc]
      simp [StaleAttempt.events]
    · intro other member
      rw [List.mem_singleton.mp member]
      exact took
    · rw [same, snapshots, stale, AList.lookup_insert, AList.lookup_insert]
      exact .failed rfl taken.due own failed reported
  cases warned : (staleOf start.state identity).miss.1.warned with
  | true =>
      have before : (staleOf start.state identity).warned = true := miss_warned.symm.trans warned
      exact ⟨_, visits set [] rfl (by simp) (by simp [before]) ⟨took, .inl rfl⟩⟩
  | false =>
      have before : (staleOf start.state identity).warned = false := miss_warned.symm.trans warned
      simp only [Bool.false_eq_true, if_false]
      refine ensures_seq (note_records _ set) fun _ after facts => ?_
      obtain ⟨state, told⟩ := facts
      let failing := (staleOf start.state identity).miss.1.fail
      have reports : externalCalls after.trace = externalCalls set.trace ++
          [warning identity failing.attempts failing.cooldown lastError] := by
        rw [told, externalCalls_append]
        rfl
      have window : attempt.identity = identity := by rw [Attempt.identity, own, taken.keyed]
      refine ⟨_, visits after _ state reports (by simp [before]) ⟨took, .inr ⟨failed,
        failing.attempts, failing.cooldown, lastError, ?_⟩⟩⟩
      exact congrArg (fun identity => [warning identity failing.attempts failing.cooldown
        lastError]) window.symm

theorem restoreDue_visits {lastError : String} (keyed : snap.identity = identity)
    (stored : start.state.snapshots.lookup identity = some snap)
    (due : (staleOf start.state identity).miss.2 = true)
    (counted : before.state = { start.state with
      stale := start.state.stale.insert identity (staleOf start.state identity).miss.1 })
    (quiet : externalCalls before.trace = externalCalls start.trace) :
    adversary.recorded.ensures (restoreDue identity lastError)
      (fun _ after => ∃ attempts, VisitsOnly false identity snap start after attempts) before := by
  refine ensures_seq (readCaches_records before) fun caches read facts => ?_
  obtain ⟨rfl, readState, readCalls⟩ := facts
  rw [counted, stored]
  refine ensures_seq (modifySnapshots_records _ read) fun _ erased facts => ?_
  obtain ⟨erasedState, erasedCalls⟩ := facts
  have taken : Taken identity snap start erased.state := by
    rw [erasedState, readState, counted]
    exact ⟨keyed, due, rfl, rfl⟩
  have erasedQuiet : externalCalls erased.trace = externalCalls start.trace := by
    rw [erasedCalls, readCalls, quiet]
  have checks := ensures_and (identityMatches_records snap.identity erased)
    (identityMatches_mismatch snap.identity erased)
  refine ensures_seq checks fun same checked facts => ?_
  obtain ⟨⟨unchanged, matched⟩, mismatched⟩ := facts
  rw [← unchanged] at taken
  cases same with
  | false =>
      obtain ⟨checks, told, mismatch⟩ := mismatched rfl
      have took : Attempt.Took
          { snap := snap, result := .gone, checks := checks, calls := [] } := .gone mismatch
      refine taken.leaves took rfl (by simp) ?_
      rw [told, externalCalls_append, erasedQuiet, ← took.external, Attempt.events,
        List.append_nil]
  | true =>
      refine ensures_seq (restoreSnapshot_attempts snap lastError checked)
        fun result tried attempted => ?_
      obtain ⟨restored, lastError⟩ := result
      obtain ⟨same, calls, told, took⟩ := attempted
      rw [← same] at taken
      have triedCalls : externalCalls tried.trace =
          externalCalls start.trace ++ (identityEvents snap.identity ++ calls) := by
        rw [told, matched rfl, List.append_assoc, externalCalls_append, erasedQuiet]
        exact congrArg _ took.external
      cases restored with
      | true => exact taken.leaves took rfl (by simp) triedCalls
      | false => exact taken.fails took rfl rfl triedCalls

theorem restoreStaleWindow_visits {matched : WindowIdentity → Bool} {lastError : String}
    (keyed : snap.identity = identity)
    (stored : before.state.snapshots.lookup identity = some snap) :
    adversary.recorded.ensures (restoreStaleWindow matched identity lastError)
      (fun _ after =>
        ∃ attempts, VisitsOnly (matched identity) identity snap before after attempts) before := by
  rw [restoreStaleWindow]
  cases isMatched : matched identity with
  | true =>
      refine ensures_seq (removeStale_records identity before) fun _ after facts => ?_
      obtain ⟨state, quiet⟩ := facts
      refine ⟨[], fun other differs => ?_, fun other differs => ?_, ?_, by simp, ?_⟩
      · rw [state]
      · rw [state]
        exact AList.lookup_erase_ne differs
      · simp [quiet]
      · rw [state, stored, AList.lookup_erase]
        exact .matched rfl
  | false =>
      refine ensures_seq (readCaches_records before) fun caches read facts => ?_
      obtain ⟨rfl, readState, readCalls⟩ := facts
      refine ensures_seq (setStale_records identity _ read) fun _ counted facts => ?_
      obtain ⟨state, calls⟩ := facts
      rw [readState] at state
      rw [readCalls] at calls
      cases due : (staleOf before.state identity).miss.2 with
      | true => exact restoreDue_visits keyed stored due state calls
      | false =>
          refine ⟨[], fun other differs => ?_, fun other differs => ?_, ?_, by simp, ?_⟩
          · rw [state]
          · rw [state]
            exact AList.lookup_insert_ne differs
          · simp [calls]
          · rw [state, stored, AList.lookup_insert]
            exact .waited rfl due

end Due

def attemptsAt (attempts : List StaleAttempt) (identity : WindowIdentity) : List StaleAttempt :=
  attempts.filter fun attempt => attempt.identity = identity

/-- A piece of the run that looks at these windows one after the other and leaves the
snapshots and the books of every other window alone. -/
structure Reviews (matched : WindowIdentity → Bool) (pending : List WindowIdentity)
    (before after : Recording) (attempts : List StaleAttempt) : Prop where
  snapshots : ∀ other, other ∉ pending →
    after.state.snapshots.lookup other = before.state.snapshots.lookup other
  stale : ∀ other, other ∉ pending →
    after.state.stale.lookup other = before.state.stale.lookup other
  calls : externalCalls after.trace =
    externalCalls before.trace ++ attempts.flatMap StaleAttempt.events
  took : ∀ attempt ∈ attempts, attempt.Took
  listed : ∀ attempt ∈ attempts, attempt.identity ∈ pending
  own : ∀ identity ∈ pending, ∀ snap, before.state.snapshots.lookup identity = some snap →
    Visited (matched identity) snap (staleOf before.state identity) (attemptsAt attempts identity)
      (after.state.snapshots.lookup identity) (after.state.stale.lookup identity)

section Loop

variable {matched : WindowIdentity → Bool} {identity : WindowIdentity} {snap : RestoreSnapshot}
  {pending : List WindowIdentity} {before middle after : Recording}
  {attempts later : List StaleAttempt}

theorem Visited.snap_eq {isMatched : Bool} {state : StaleState} {left : Option RestoreSnapshot}
    {books : Option StaleState} (visited : Visited isMatched snap state attempts left books) :
    ∀ attempt ∈ attempts, attempt.snap = snap := by
  cases visited with
  | matched => simp
  | waited => simp
  | left _ _ own => simpa using own
  | failed _ _ own => simpa using own

theorem attemptsAt_all (own : ∀ attempt ∈ attempts, attempt.identity = identity) :
    attemptsAt attempts identity = attempts :=
  List.filter_eq_self.mpr fun attempt member => decide_eq_true (own attempt member)

theorem attemptsAt_none (others : ∀ attempt ∈ attempts, attempt.identity ≠ identity) :
    attemptsAt attempts identity = [] :=
  List.filter_eq_nil_iff.mpr fun attempt member => by simpa using others attempt member

/-- The first window is reviewed before the others. -/
theorem Reviews.cons (keyed : snap.identity = identity)
    (stored : before.state.snapshots.lookup identity = some snap) (absent : identity ∉ pending)
    (visits : VisitsOnly (matched identity) identity snap before middle attempts)
    (reviews : Reviews matched pending middle after later) :
    Reviews matched (identity :: pending) before after (attempts ++ later) := by
  have firsts : ∀ attempt ∈ attempts, attempt.identity = identity := fun attempt member => by
    rw [Attempt.identity, visits.own.snap_eq attempt member, keyed]
  refine ⟨fun other absent => ?_, fun other absent => ?_, ?_, ?_, ?_, ?_⟩
  · rw [List.mem_cons, not_or] at absent
    rw [reviews.snapshots other absent.2, visits.snapshots other absent.1]
  · rw [List.mem_cons, not_or] at absent
    rw [reviews.stale other absent.2, visits.stale other absent.1]
  · rw [reviews.calls, visits.calls, List.flatMap_append, List.append_assoc]
  · exact List.forall_mem_append.mpr ⟨visits.took, reviews.took⟩
  · refine List.forall_mem_append.mpr ⟨fun attempt member => ?_, fun attempt member => ?_⟩
    · rw [firsts attempt member]
      exact List.mem_cons_self
    · exact List.mem_cons_of_mem _ (reviews.listed attempt member)
  · intro other member found looked
    rw [attemptsAt, List.filter_append, ← attemptsAt, ← attemptsAt]
    rcases List.mem_cons.mp member with rfl | member
    · obtain rfl : found = snap := Option.some.inj (looked.symm.trans stored)
      have others : ∀ attempt ∈ later, attempt.identity ≠ other := fun attempt member same =>
        absent (same ▸ reviews.listed attempt member)
      rw [attemptsAt_all firsts, attemptsAt_none others, List.append_nil,
        reviews.snapshots other absent, reviews.stale other absent]
      exact visits.own
    · have differs : other ≠ identity := fun same => absent (same ▸ member)
      have others : ∀ attempt ∈ attempts, attempt.identity ≠ other := fun attempt member same =>
        differs (same ▸ firsts attempt member)
      rw [attemptsAt_none others, List.nil_append]
      have books : staleOf middle.state other = staleOf before.state other := by
        rw [staleOf, staleOf, visits.stale other differs]
      rw [← books]
      exact reviews.own other member found ((visits.snapshots other differs).trans looked)

theorem restoreStaleWindows_reviews {lastError : String} (distinct : pending.Nodup)
    (held : ∀ identity ∈ pending, ∃ snap, before.state.snapshots.lookup identity = some snap ∧
      snap.identity = identity) :
    adversary.recorded.ensures (restoreStaleWindows matched pending lastError)
      (fun _ after => ∃ attempts, Reviews matched pending before after attempts) before := by
  induction pending generalizing before lastError with
  | nil =>
      exact ⟨[], fun _ _ => rfl, fun _ _ => rfl, by simp, by simp, by simp, by simp⟩
  | cons identity rest ih =>
      rw [List.nodup_cons] at distinct
      obtain ⟨snap, stored, keyed⟩ := held identity List.mem_cons_self
      refine ensures_seq (restoreStaleWindow_visits keyed stored) fun lastError middle visited => ?_
      obtain ⟨attempts, visits⟩ := visited
      have heldLater : ∀ other ∈ rest, ∃ snap, middle.state.snapshots.lookup other = some snap ∧
          snap.identity = other := by
        intro other member
        have differs : other ≠ identity := fun same => distinct.1 (same ▸ member)
        rw [visits.snapshots other differs]
        exact held other (List.mem_cons_of_mem _ member)
      refine ensures_mono (ih distinct.2 heldLater) fun _ after reviewed => ?_
      obtain ⟨later, reviews⟩ := reviewed
      exact ⟨attempts ++ later, reviews.cons keyed stored distinct.1 visits⟩

theorem mem_pairs_identity {snapshots : Snapshots} (keyed : Keyed snapshots) :
    identity ∈ snapshots.pairs.map (fun entry => entry.2.identity) ↔
      ∃ snap, snapshots.lookup identity = some snap ∧ snap.identity = identity := by
  rw [List.mem_map]
  constructor
  · rintro ⟨⟨key, snap⟩, member, rfl⟩
    have looked := pairs_lookup.mp member
    have own : snap.identity = key := keyed key snap looked
    exact ⟨snap, own ▸ looked, rfl⟩
  · rintro ⟨snap, looked, own⟩
    exact ⟨(identity, snap), pairs_lookup.mpr looked, own⟩

/-- The order in which a call reviews the windows of the map. -/
def reviewOrder (entries : List (WindowIdentity × RestoreSnapshot)) : List WindowIdentity :=
  ((entries.map Prod.snd).insertionSort fun first second =>
    restoreKey first ≤ restoreKey second).map RestoreSnapshot.identity

theorem reviewOrder_perm {entries : List (WindowIdentity × RestoreSnapshot)}
    {snapshots : Snapshots} (order : entries.Perm snapshots.pairs) :
    (reviewOrder entries).Perm (snapshots.pairs.map fun entry => entry.2.identity) := by
  have sorted := (List.perm_insertionSort (fun first second =>
    restoreKey first ≤ restoreKey second) (entries.map Prod.snd)).map RestoreSnapshot.identity
  rw [List.map_map] at sorted
  exact sorted.trans (order.map _)

/-- A call reviews every window with a snapshot. -/
theorem restoreStaleHidden_reviews (keyed : Keyed before.state.snapshots) :
    adversary.recorded.ensures (restoreStaleHidden matched)
      (fun _ after => ∃ pending attempts,
        (∀ identity, identity ∈ pending ↔ identity ∈ before.state.snapshots) ∧
        Reviews matched pending before after attempts) before := by
  have iterates : adversary.recorded.ensures (ask .iterateSnapshots)
      (fun entries after => entries.Perm before.state.snapshots.pairs ∧
        after.state = before.state ∧ externalCalls after.trace = externalCalls before.trace)
      before := by
    simp only [ask, ensures_recorded_ask]
    rintro entries afterOrder ⟨order, rfl⟩
    exact ⟨order, rfl, by simp [externalCalls, Call.external]⟩
  refine ensures_seq iterates fun entries listed facts => ?_
  obtain ⟨order, listedState, listedCalls⟩ := facts
  have perm := reviewOrder_perm order
  have held : ∀ identity ∈ reviewOrder entries, ∃ snap,
      listed.state.snapshots.lookup identity = some snap ∧ snap.identity = identity := by
    intro identity member
    rw [listedState]
    exact (mem_pairs_identity keyed).mp (perm.mem_iff.mp member)
  refine ensures_seq (restoreStaleWindows_reviews (perm.nodup_iff.mpr keyed.identities_nodup) held)
    fun lastError reviewed facts => ?_
  obtain ⟨attempts, reviews⟩ := facts
  refine ensures_seq (readCaches_records reviewed) fun caches after facts => ?_
  obtain ⟨_, state, calls⟩ := facts
  refine ⟨reviewOrder entries, attempts, fun identity => ?_, ?_⟩
  · rw [perm.mem_iff, mem_pairs_identity keyed, ← AList.lookup_isSome, Option.isSome_iff_exists]
    constructor
    · rintro ⟨snap, looked, _⟩
      exact ⟨snap, looked⟩
    · rintro ⟨snap, looked⟩
      exact ⟨snap, looked, keyed identity snap looked⟩
  · refine ⟨?_, ?_, ?_, reviews.took, reviews.listed, ?_⟩
    · rw [state, ← listedState]
      exact reviews.snapshots
    · rw [state, ← listedState]
      exact reviews.stale
    · rw [calls, reviews.calls, listedCalls]
    · rw [state, ← listedState]
      exact reviews.own

end Loop

/-- The visit of a window, as the attempts of the call show it. -/
def visitOf (isMatched snapshotted : Bool) (attempts : List StaleAttempt) : Visit :=
  if !snapshotted then .absent
  else if isMatched then .matched
  else
    match attempts with
    | [] => .waited
    | attempt :: _ => .tried attempt.result (!attempt.report.isEmpty)

/-- The attempts of one call, at most one for each window, and what became of their
snapshots: only a failed attempt puts its snapshot back. -/
structure Reported (before : EngineCaches) (after : Recording) (attempts : List StaleAttempt) :
    Prop where
  calls : externalCalls after.trace = attempts.flatMap StaleAttempt.events
  took : ∀ attempt ∈ attempts, attempt.Took
  once : ∀ identity, (attemptsAt attempts identity).length ≤ 1
  held : ∀ attempt ∈ attempts, before.snapshots.lookup attempt.identity = some attempt.snap
  stored : ∀ attempt ∈ attempts, after.state.snapshots.lookup attempt.identity =
    if attempt.result = .failed then some attempt.snap else none
  kept : ∀ identity, attemptsAt attempts identity = [] →
    after.state.snapshots.lookup identity = before.snapshots.lookup identity

section Call

variable {matched : WindowIdentity → Bool} {identity : WindowIdentity} {snap : RestoreSnapshot}
  {before after : Recording} {attempts : List StaleAttempt} {state : StaleState}
  {left : Option RestoreSnapshot} {books : Option StaleState} {isMatched : Bool}

theorem Visited.step (visited : Visited isMatched snap state attempts left books) :
    (visitOf isMatched true attempts).Step state (books.getD {}) := by
  cases visited with
  | matched isMatched =>
      rw [isMatched]
      exact .matched
  | waited unmatched early =>
      rw [unmatched]
      exact .waited early
  | @left attempt unmatched due own ends quiet =>
      rw [unmatched, visitOf, quiet]
      exact .left due ends
  | @failed attempt unmatched due own fails reported =>
      have reports : (!attempt.report.isEmpty) = !state.warned := by
        cases report : attempt.report with
        | nil =>
            rw [reported.mp report]
            rfl
        | cons first rest =>
            rw [report] at reported
            cases warned : state.warned with
            | true => cases reported.mpr warned
            | false => rfl
      rw [unmatched, visitOf]
      simp only [Bool.not_true, Bool.false_eq_true, if_false]
      rw [fails, reports]
      exact .failed due

theorem Visited.once (visited : Visited isMatched snap state attempts left books) :
    attempts.length ≤ 1 := by
  cases visited with
  | matched => exact Nat.zero_le _
  | waited => exact Nat.zero_le _
  | left => exact le_rfl
  | failed => exact le_rfl

theorem Visited.stored (visited : Visited isMatched snap state attempts left books) :
    (∀ attempt ∈ attempts, left = if attempt.result = .failed then some attempt.snap else none) ∧
      (attempts = [] → left = some snap) := by
  cases visited with
  | matched => simp
  | waited => simp
  | left _ _ own ends => simp [ends]
  | failed _ _ own fails => simp [fails, own]

theorem Visited.of_gone (visited : Visited isMatched snap state attempts none books) :
    books = none := by
  cases visited with
  | left => rfl

theorem Visited.of_matched (visited : Visited true snap state attempts left books) :
    books = none ∧ attempts = [] := by
  cases visited with
  | matched => exact ⟨rfl, rfl⟩
  | waited unmatched => cases unmatched
  | left unmatched => cases unmatched
  | failed unmatched => cases unmatched

section Reviewed

variable {pending : List WindowIdentity}

theorem Reviews.visited (reviews : Reviews matched pending before after attempts)
    (listed : ∀ identity, identity ∈ pending ↔ identity ∈ before.state.snapshots)
    (held : identity ∈ before.state.snapshots) :
    ∃ snap, before.state.snapshots.lookup identity = some snap ∧
      Visited (matched identity) snap (staleOf before.state identity)
        (attemptsAt attempts identity) (after.state.snapshots.lookup identity)
        (after.state.stale.lookup identity) := by
  obtain ⟨snap, looked⟩ := Option.isSome_iff_exists.mp (AList.lookup_isSome.mpr held)
  exact ⟨snap, looked, reviews.own identity ((listed identity).mpr held) snap looked⟩

theorem Reviews.unlisted (reviews : Reviews matched pending before after attempts)
    (absent : identity ∉ pending) : attemptsAt attempts identity = [] :=
  attemptsAt_none fun attempt member same => absent (same ▸ reviews.listed attempt member)

theorem Reviews.reported (reviews : Reviews matched pending before after attempts)
    (listed : ∀ identity, identity ∈ pending ↔ identity ∈ before.state.snapshots)
    (quiet : externalCalls before.trace = []) :
    Reported before.state after attempts where
  calls := by rw [reviews.calls, quiet, List.nil_append]
  took := reviews.took
  once identity := by
    by_cases held : identity ∈ before.state.snapshots
    · obtain ⟨snap, looked, visited⟩ := reviews.visited listed held
      exact visited.once
    · rw [reviews.unlisted (mt (listed identity).mp held)]
      exact Nat.zero_le 1
  held attempt member := by
    obtain ⟨snap, looked, visited⟩ := reviews.visited listed
      ((listed _).mp (reviews.listed attempt member))
    have own := visited.snap_eq attempt (List.mem_filter.mpr ⟨member, decide_eq_true rfl⟩)
    rw [looked, own]
  stored attempt member := by
    obtain ⟨snap, looked, visited⟩ := reviews.visited listed
      ((listed _).mp (reviews.listed attempt member))
    exact visited.stored.1 attempt (List.mem_filter.mpr ⟨member, decide_eq_true rfl⟩)
  kept identity none := by
    by_cases held : identity ∈ before.state.snapshots
    · obtain ⟨snap, looked, visited⟩ := reviews.visited listed held
      rw [visited.stored.2 none, looked]
    · exact reviews.snapshots identity (mt (listed identity).mp held)

/-- Without a snapshot a window has no books. What was counted of it goes when the snapshot
does. -/
def Closed (caches : EngineCaches) : Prop :=
  ∀ identity, identity ∉ caches.snapshots → caches.stale.lookup identity = none

theorem Reviews.step (reviews : Reviews matched pending before after attempts)
    (listed : ∀ identity, identity ∈ pending ↔ identity ∈ before.state.snapshots)
    (closed : Closed before.state) :
    (visitOf (matched identity) (decide (identity ∈ before.state.snapshots))
      (attemptsAt attempts identity)).Step (staleOf before.state identity)
        (staleOf after.state identity) := by
  by_cases held : identity ∈ before.state.snapshots
  · obtain ⟨snap, looked, visited⟩ := reviews.visited listed held
    rw [decide_eq_true held]
    exact visited.step
  · have nothing : before.state.stale.lookup identity = none := closed identity held
    have still : after.state.stale.lookup identity = none :=
      (reviews.stale identity (mt (listed identity).mp held)).trans nothing
    rw [decide_eq_false held, staleOf, staleOf, nothing, still]
    exact .absent

theorem Reviews.closed (reviews : Reviews matched pending before after attempts)
    (listed : ∀ identity, identity ∈ pending ↔ identity ∈ before.state.snapshots)
    (closed : Closed before.state) : Closed after.state := by
  intro identity absent
  by_cases held : identity ∈ before.state.snapshots
  · obtain ⟨snap, looked, visited⟩ := reviews.visited listed held
    rw [← AList.lookup_eq_none] at absent
    rw [absent] at visited
    exact visited.of_gone
  · rw [reviews.stale identity (mt (listed identity).mp held)]
    exact closed identity held

theorem Reviews.reset (reviews : Reviews matched pending before after attempts)
    (listed : ∀ identity, identity ∈ pending ↔ identity ∈ before.state.snapshots)
    (closed : Closed before.state) (isMatched : matched identity = true) :
    after.state.stale.lookup identity = none ∧ attemptsAt attempts identity = [] := by
  by_cases held : identity ∈ before.state.snapshots
  · obtain ⟨snap, looked, visited⟩ := reviews.visited listed held
    rw [isMatched] at visited
    exact visited.of_matched
  · have absent := mt (listed identity).mp held
    exact ⟨(reviews.stale identity absent).trans (closed identity held), reviews.unlisted absent⟩

end Reviewed

end Call

/-- Between two calls the engine may take snapshots.  The books of the failures are cleared by
nobody, and no snapshot is taken away. -/
structure Between (before after : EngineCaches) : Prop where
  stale : after.stale = before.stale
  snapshots : ∀ identity ∈ before.snapshots, identity ∈ after.snapshots

/-- Calls of `restore_stale_hidden`, from empty books on, in any environment. -/
structure StaleRun (count : Nat) where
  matched : Nat → WindowIdentity → Bool
  caches : Nat → EngineCaches
  result : Nat → Nat × String
  after : Nat → Recording
  fresh : (caches 0).stale = ∅
  keyed : ∀ call < count, Keyed (caches call).snapshots
  runs : ∀ call < count, adversary.recorded.Runs (restoreStaleHidden (matched call))
    { state := caches call } (result call) (after call)
  between : ∀ call < count, Between (after call).state (caches (call + 1))

/-- What is visible of the back-off of one window: no attempt at the first miss, no attempt
before the cooldown after a failure has passed, one right after it, and no second report
unless the window has matched or was settled in between. -/
structure BacksOff (visits : Nat → Visit) (count : Nat) : Prop where
  second : ∀ call result warned, call < count → visits call = .tried result warned →
    ∃ previous, call = previous + 1 ∧ (visits previous).misses = true
  retry : ∀ call later warned, visits call = .tried .failed warned → call < later →
    later < count → (∀ between, call < between → between ≤ later → visits between ≠ .matched) →
    (later ≤ call + backoff (failures visits (call + 1)) → visits later = .waited) ∧
    (later = call + backoff (failures visits (call + 1)) + 1 →
      ∃ result warned, visits later = .tried result warned)
  reported : ∀ call later first second, visits call = .tried first true →
    visits later = .tried second true → call < later → later < count →
    ∃ between, call < between ∧ between < later ∧ (visits between).misses = false

theorem History.backsOff {visits : Nat → Visit} {states : Nat → StaleState} {count : Nat}
    (history : History visits states count) : BacksOff visits count where
  second call result warned within tried := by
    have missed := history.second within tried
    cases call with
    | zero => cases missed
    | succ previous => exact ⟨previous, rfl, missed⟩
  retry call later warned failed after within unmatched :=
    history.retry failed after within unmatched
  reported call later first second reported again after within :=
    history.reported reported again after within

namespace StaleRun

variable {count : Nat} (run : StaleRun count)

/-- What a call does with a window, given the attempts of each call. -/
def visits (attempts : Nat → List StaleAttempt) (identity : WindowIdentity) (call : Nat) : Visit :=
  visitOf (run.matched call identity) (decide (identity ∈ (run.caches call).snapshots))
    (attemptsAt (attempts call) identity)

theorem reviewed (call : Nat) (within : call < count) :
    ∃ pending attempts,
      (∀ identity, identity ∈ pending ↔ identity ∈ (run.caches call).snapshots) ∧
      Reviews (run.matched call) pending { state := run.caches call } (run.after call)
        attempts := by
  have keyed : Keyed ({ state := run.caches call } : Recording).state.snapshots :=
    run.keyed call within
  have reviewed := ensures_runs (restoreStaleHidden_reviews keyed) (run.runs call within)
  exact reviewed

theorem closed (call : Nat) (within : call ≤ count) : Closed (run.caches call) := by
  induction call with
  | zero =>
      intro identity _
      rw [run.fresh]
      rfl
  | succ call ih =>
      obtain ⟨pending, attempts, listed, reviews⟩ := run.reviewed call within
      have after := reviews.closed listed (ih (by omega))
      have between := run.between call within
      intro identity absent
      rw [between.stale]
      exact after identity (mt (between.snapshots identity) absent)

end StaleRun

/-- Restores of windows that stay unmatched back off. -/
theorem stale_restores_back_off {count : Nat} (run : StaleRun count) :
    ∃ attempts : Nat → List StaleAttempt,
      (∀ call < count, Reported (run.caches call) (run.after call) (attempts call)) ∧
      ∀ identity, BacksOff (run.visits attempts identity) count ∧
        ∀ call < count, run.matched call identity = true →
          (run.after call).state.stale.lookup identity = none ∧
            attemptsAt (attempts call) identity = [] := by
  have reviewed : ∀ call, ∃ attempts, call < count → ∃ pending,
      (∀ identity, identity ∈ pending ↔ identity ∈ (run.caches call).snapshots) ∧
      Reviews (run.matched call) pending { state := run.caches call } (run.after call)
        attempts := by
    intro call
    by_cases within : call < count
    · obtain ⟨pending, attempts, facts⟩ := run.reviewed call within
      exact ⟨attempts, fun _ => ⟨pending, facts⟩⟩
    · exact ⟨[], fun within' => absurd within' within⟩
  choose attempts reviews using reviewed
  refine ⟨attempts, fun call within => ?_, fun identity => ⟨?_, fun call within isMatched => ?_⟩⟩
  · obtain ⟨pending, listed, reviews⟩ := reviews call within
    exact reviews.reported listed rfl
  · have history : History (run.visits attempts identity)
        (fun call => staleOf (run.caches call) identity) count := by
      refine ⟨?_, fun call within => ?_⟩
      · rw [staleOf, run.fresh]
        rfl
      · obtain ⟨pending, listed, reviews⟩ := reviews call within
        have books : staleOf (run.caches (call + 1)) identity =
            staleOf (run.after call).state identity := by
          rw [staleOf, (run.between call within).stale]
          rfl
        rw [books]
        exact reviews.step listed (run.closed call within.le)
    exact history.backsOff
  · obtain ⟨pending, listed, reviews⟩ := reviews call within
    exact reviews.reset listed (run.closed call within.le) isMatched

/-- The caches after so many restores of a window that hangs every time. -/
def hungCaches : Nat → EngineCaches
  | 0 => { snapshots := (∅ : Snapshots).insert popupWindow (popupSnapshot popupWindow) }
  | call + 1 =>
      ((restoreStaleHidden fun _ => false).exec (recordingHandler hanging)
        { state := hungCaches call }).2.state

theorem keyed_of_pairs {snapshots : Snapshots}
    (own : ∀ entry ∈ snapshots.pairs, entry.2.identity = entry.1) : Keyed snapshots :=
  fun identity snap looked => own (identity, snap) (pairs_lookup.mpr looked)

/-- No call matches the window, and no call can restore it. This is the run in which every
failure follows on the one before. -/
def hungRun : StaleRun 6 where
  matched _ _ := false
  caches := hungCaches
  result call := ((restoreStaleHidden fun _ => false).exec (recordingHandler hanging)
    { state := hungCaches call }).1
  after call := ((restoreStaleHidden fun _ => false).exec (recordingHandler hanging)
    { state := hungCaches call }).2
  fresh := rfl
  keyed := by
    have own : ∀ call < 6, ∀ entry ∈ (hungCaches call).snapshots.pairs,
        entry.2.identity = entry.1 := by decide
    exact fun call within => keyed_of_pairs (own call within)
  runs call _ := runs_exec (recordingHandler_realizes hanging_realizes)
    (restoreStaleHidden fun _ => false) { state := hungCaches call }
  between call _ := ⟨rfl, fun _ held => held⟩

/-- It was tried twice in six calls. -/
theorem hungRun_backs_off :
    (hungCaches 6).stale.lookup popupWindow =
        some { missStreak := 6, attempts := 2, cooldown := 0, warned := true } ∧
      ∃ attempts : Nat → List StaleAttempt,
        (∀ call < 6, Reported (hungRun.caches call) (hungRun.after call) (attempts call)) ∧
        ∀ identity, BacksOff (hungRun.visits attempts identity) 6 := by
  obtain ⟨attempts, reported, backsOff⟩ := stale_restores_back_off hungRun
  exact ⟨by decide, attempts, reported, fun identity => (backsOff identity).1⟩

end LayoutAdblock.Engine
