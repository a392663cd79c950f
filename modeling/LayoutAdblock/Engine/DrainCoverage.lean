import LayoutAdblock.Engine.SharedDesktop
import LayoutAdblock.Engine.Tick

namespace LayoutAdblock.Engine

open LayoutAdblock.Core Interaction Environment SharedDesktop

/-! # Drains keep the record

A drain takes all snapshots out of the caches and puts back those it could not
restore.  Until then a window that the engine hid has its snapshot among the
pending ones.
-/

/-- Every window the engine hid has a snapshot in the caches, or among those
that are being restored. -/
def CoveredBy (pending : List RestoreSnapshot) (desktop : SharedDesktop) : Prop :=
  ∀ identity, desktop.HiddenAs identity →
    (∃ snap, desktop.caches.snapshots.lookup identity = some snap ∧ snap.wasVisible = true) ∨
      ∃ snap ∈ pending, snap.identity = identity ∧ snap.wasVisible = true

/-- While the windows are put back, every window that is not yet as it was still has its
snapshot, and each snapshot is kept under its own window. -/
structure Holds (pending : List RestoreSnapshot) (desktop : SharedDesktop) : Prop where
  covered : CoveredBy pending desktop
  keyed : Keyed desktop.caches.snapshots

theorem Holds.covers {desktop : SharedDesktop} (holds : Holds [] desktop) : desktop.Covered := by
  intro identity hidden
  cases holds.covered identity hidden with
  | inl stored => exact stored
  | inr waiting => simp at waiting

theorem SharedDesktop.Fresh.holds {desktop : SharedDesktop} (fresh : desktop.Fresh) :
    Holds [] desktop where
  covered := by
    intro identity hidden
    rw [HiddenAs, fresh.2 identity.hwnd] at hidden
    exact absurd hidden.1 (by simp)
  keyed := by
    rw [fresh.1]
    intro identity snap found
    cases found

theorem Holds.become {pending : List RestoreSnapshot} {desktop : SharedDesktop}
    (holds : Holds pending desktop) (windows : Hwnd → Option Window) :
    Holds pending (desktop.become windows) where
  covered identity hidden := holds.covered identity hidden.of_become
  keyed := holds.keyed

/-- Other books beside the same snapshots. -/
theorem Holds.others {pending : List RestoreSnapshot} {desktop : SharedDesktop}
    {caches : EngineCaches} (holds : Holds pending desktop)
    (same : caches.snapshots = desktop.caches.snapshots) :
    Holds pending { desktop with caches := caches } := by
  constructor
  · intro identity hidden
    rw [same]
    exact holds.covered identity hidden
  · rw [same]
    exact holds.keyed

theorem Holds.of_step {pending : List RestoreSnapshot} {call : Call}
    {before after : SharedDesktop} {answer : call.Answer} (holds : Holds pending before)
    (spares : Spares call) (step : sharedDesktop.step call before answer after) :
    Holds pending after := by
  have same : after.caches = before.caches := (step_caches step).unchanged spares.off
  refine ⟨?_, same ▸ holds.keyed⟩
  intro identity hidden
  rw [same]
  exact holds.covered identity (hidden.of_noHide spares.noHide step)

/-- What a program does that writes no caches. -/
theorem ensures_steady {α : Type} {program : EngineM α} {pending : List RestoreSnapshot}
    {before : SharedDesktop} (spares : program.Only Spares) (holds : Holds pending before) :
    sharedDesktop.ensures program
      (fun _ after => Holds pending after ∧ after.caches = before.caches) before := by
  apply ensures_of_step (fun desktop : SharedDesktop =>
    Holds pending desktop ∧ desktop.caches = before.caches) spares _ ⟨holds, rfl⟩
  intro call state answer after spared kept step
  exact ⟨kept.1.of_step spared step, ((step_caches step).unchanged spared.off).trans kept.2⟩

theorem ensures_readCaches {pending : List RestoreSnapshot} {before : SharedDesktop}
    (holds : Holds pending before) :
    sharedDesktop.ensures (ask .readCaches)
      (fun caches after => Holds pending after ∧ after.caches = before.caches ∧
        caches = before.caches) before := by
  simp only [ask, ensures_ask]
  intro caches after step
  have read := step_caches step
  exact ⟨holds.of_step ⟨by simp [OffCaches], noHide_of_stays rfl⟩ step, read.2, read.1⟩

/-- A write of the caches, for snapshots that cover what is on record. -/
theorem ensures_writeCaches {pending : List RestoreSnapshot} {caches : EngineCaches}
    {before : SharedDesktop} (keyed : Keyed caches.snapshots)
    (covered : ∀ identity, before.HiddenAs identity →
      (∃ snap, caches.snapshots.lookup identity = some snap ∧ snap.wasVisible = true) ∨
        ∃ snap ∈ pending, snap.identity = identity ∧ snap.wasVisible = true) :
    sharedDesktop.ensures (ask (.writeCaches caches))
      (fun _ after => Holds pending after ∧ after.caches = caches) before := by
  simp only [ask, ensures_ask]
  intro _ after step
  have written : after.caches = caches := step_caches step
  refine ⟨⟨?_, written ▸ keyed⟩, written⟩
  intro identity hidden
  rw [written]
  exact covered identity (hidden.of_noHide (noHide_of_stays rfl) step)

/-- A write that leaves the snapshots alone. -/
theorem ensures_writeOthers {pending : List RestoreSnapshot} {caches : EngineCaches}
    {before : SharedDesktop} (same : caches.snapshots = before.caches.snapshots)
    (holds : Holds pending before) :
    sharedDesktop.ensures (ask (.writeCaches caches))
      (fun _ after => Holds pending after) before := by
  have covered := holds.covered
  unfold CoveredBy at covered
  rw [← same] at covered
  apply ensures_mono (ensures_writeCaches (same ▸ holds.keyed) covered)
  intro _ after held
  exact held.1

/-- Reading the caches and writing them back with other bookkeeping. -/
theorem ensures_updateOthers {pending : List RestoreSnapshot}
    {change : EngineCaches → EngineCaches} {before : SharedDesktop}
    (same : ∀ caches, (change caches).snapshots = caches.snapshots)
    (holds : Holds pending before) :
    sharedDesktop.ensures
      (do
        let caches ← ask .readCaches
        ask (.writeCaches (change caches)))
      (fun _ after => Holds pending after) before := by
  apply ensures_seq (ensures_readCaches holds)
  intro caches after read
  obtain ⟨held, same', rfl⟩ := read
  exact ensures_writeOthers ((same _).trans (by rw [same'])) held

/-- A change of the snapshots, for snapshots that cover what is on record. -/
theorem modifySnapshots_holds {change : Snapshots → Snapshots} {before : SharedDesktop}
    (pendingAfter : List RestoreSnapshot) (keyed : Keyed (change before.caches.snapshots))
    (covered : ∀ identity, before.HiddenAs identity →
      (∃ snap, (change before.caches.snapshots).lookup identity = some snap ∧
          snap.wasVisible = true) ∨
        ∃ snap ∈ pendingAfter, snap.identity = identity ∧ snap.wasVisible = true) :
    sharedDesktop.ensures (modifySnapshots change)
      (fun _ after => Holds pendingAfter after ∧
        after.caches.snapshots = change before.caches.snapshots) before := by
  unfold modifySnapshots
  rw [ensures_bind, ask, ensures_ask]
  intro caches afterRead step
  obtain ⟨rfl, unchanged⟩ := step_caches step
  apply ensures_mono (ensures_writeCaches keyed _)
  · intro _ after held
    exact ⟨held.1, by rw [held.2]⟩
  · intro identity hidden
    exact covered identity (hidden.of_noHide (noHide_of_stays rfl) step)

theorem notHidden_of_step {call : Call} {before after : SharedDesktop} {answer : call.Answer}
    {identity : WindowIdentity} (noHide : NoHide call) (shown : ¬ before.HiddenAs identity)
    (step : sharedDesktop.step call before answer after) : ¬ after.HiddenAs identity :=
  fun hidden => shown (hidden.of_noHide noHide step)

/-- A window that does not match an identity is not on record under it. -/
theorem identityMatches_notHidden (identity : WindowIdentity) (before : SharedDesktop) :
    sharedDesktop.ensures (identityMatches identity)
      (fun same after => same = false → ¬ after.HiddenAs identity) before := by
  simp only [identityMatches, ask, ensures_bind, ensures_ask]
  intro alive afterAlive step
  have answered : alive = (before.windows identity.hwnd).isSome := step.1
  cases alive with
  | false =>
      intro _
      apply notHidden_of_step (noHide_of_stays rfl) _ step
      intro hidden
      obtain ⟨_, window, found, _, _⟩ := hidden
      simp [found] at answered
  | true =>
      simp only [Bool.not_true, Bool.false_eq_true, if_false, ensures_bind, ensures_ask]
      intro pid afterPid step
      have answered : ∀ window, afterAlive.windows identity.hwnd = some window →
          pid = window.pid := step.1
      by_cases samePid : pid = identity.pid
      · simp only [samePid, ne_eq, not_true_eq_false, if_false, ensures_bind, ensures_ask]
        intro className afterClass step
        have answered : ∀ window, afterPid.windows identity.hwnd = some window →
            className = window.className := step.1
        intro different
        apply notHidden_of_step (noHide_of_stays rfl) _ step
        intro hidden
        obtain ⟨_, window, found, _, sameClass⟩ := hidden
        simp [answered window found, sameClass] at different
      · simp only [samePid, ne_eq, not_false_eq_true, if_true]
        intro _
        apply notHidden_of_step (noHide_of_stays rfl) _ step
        intro hidden
        obtain ⟨_, window, found, windowPid, _⟩ := hidden
        exact samePid ((answered window found).trans windowPid)

/-- The visible style seen right after a show settles the record. -/
theorem restoreVisibility_shows (snap : RestoreSnapshot) (before : SharedDesktop) :
    sharedDesktop.ensures (restoreSnapshot.restoreVisibility snap)
      (fun shown after => shown = true → snap.wasVisible = true →
        ¬ after.HiddenAs snap.identity) before := by
  unfold restoreSnapshot.restoreVisibility
  cases snap.wasVisible with
  | false => simp
  | true =>
      simp only [if_true, ask, ensures_bind, ensures_ask]
      intro _ afterShow step visible afterStyle styleStep seen _ hidden
      obtain ⟨_, obeyed, caches, windows, _, rfl⟩ := step
      obtain ⟨_, styleObeyed, styleCaches, styleWindows, _, rfl⟩ := styleStep
      obtain ⟨recorded, _⟩ := hidden.of_become
      simp [called, become, hiddenAfter, shownAfter, seen] at recorded

theorem restoreSnapshot_shows (snap : RestoreSnapshot) (lastError : String)
    (before : SharedDesktop) :
    sharedDesktop.ensures (restoreSnapshot snap lastError)
      (fun result after => result.1 = true → snap.wasVisible = true →
        ¬ after.HiddenAs snap.identity) before := by
  apply ensures_seq ensures_trivial
  intro hung afterHung _
  cases hung with
  | true => simp
  | false =>
      simp only [Bool.false_eq_true, if_false]
      apply ensures_seq ensures_trivial
      intro positioned afterPosition _
      apply ensures_seq (restoreVisibility_shows snap afterPosition)
      intro shown after notHidden restored
      simp only [Bool.and_eq_true] at restored
      exact notHidden restored.2

/-- A program that writes no caches keeps every window covered. -/
theorem ensures_holds {α : Type} {program : EngineM α} {pending : List RestoreSnapshot}
    {before : SharedDesktop} (spares : program.Only Spares) (holds : Holds pending before) :
    sharedDesktop.ensures program (fun _ => Holds pending) before :=
  ensures_mono (ensures_steady spares holds) fun _ _ held => held.1

/-- A snapshot whose window is not on record can be dropped. -/
theorem Holds.settle {snap : RestoreSnapshot} {rest : List RestoreSnapshot}
    {desktop : SharedDesktop} (holds : Holds (snap :: rest) desktop)
    (settled : snap.wasVisible = true → ¬ desktop.HiddenAs snap.identity) :
    Holds rest desktop where
  keyed := holds.keyed
  covered := by
    intro identity hidden
    cases holds.covered identity hidden with
    | inl stored => exact Or.inl stored
    | inr waiting =>
        obtain ⟨found, member, rfl, shows⟩ := waiting
        cases List.mem_cons.mp member with
        | inl isHead =>
            subst isHead
            exact absurd hidden (settled shows)
        | inr later => exact Or.inr ⟨found, later, rfl, shows⟩

/-- A snapshot that could not be restored goes back to the caches. -/
theorem reinsert_holds {snap : RestoreSnapshot} {rest : List RestoreSnapshot}
    {before : SharedDesktop} (holds : Holds (snap :: rest) before)
    (absent : before.caches.snapshots.lookup snap.identity = none) :
    sharedDesktop.ensures
      (modifySnapshots fun snapshots => snapshots.insert snap.identity snap)
      (fun _ after => Holds rest after ∧
        after.caches.snapshots = before.caches.snapshots.insert snap.identity snap) before := by
  apply modifySnapshots_holds rest (holds.keyed.insert snap)
  intro identity hidden
  by_cases own : identity = snap.identity
  · subst own
    cases holds.covered snap.identity hidden with
    | inl stored => simp [absent] at stored
    | inr waiting =>
        obtain ⟨found, member, same, shows⟩ := waiting
        cases List.mem_cons.mp member with
        | inl isHead =>
            subst isHead
            exact Or.inl ⟨found, AList.lookup_insert _, shows⟩
        | inr later => exact Or.inr ⟨found, later, same, shows⟩
  · rw [AList.lookup_insert_ne own]
    cases holds.covered identity hidden with
    | inl stored => exact Or.inl stored
    | inr waiting =>
        obtain ⟨found, member, same, shows⟩ := waiting
        cases List.mem_cons.mp member with
        | inl isHead => exact absurd (same.symm.trans (congrArg _ isHead)) own
        | inr later => exact Or.inr ⟨found, later, same, shows⟩

theorem identityMatches_holds {snap : RestoreSnapshot} {rest : List RestoreSnapshot}
    {before : SharedDesktop} (holds : Holds (snap :: rest) before) :
    sharedDesktop.ensures (identityMatches snap.identity)
      (fun same after => Holds (snap :: rest) after ∧ after.caches = before.caches ∧
        (same = false → Holds rest after)) before := by
  apply ensures_mono (ensures_and
    (ensures_steady ((identityMatches_reads snap.identity).mono fun _ => Reads.spares) holds)
    (identityMatches_notHidden snap.identity before))
  intro same after facts
  refine ⟨facts.1.1, facts.1.2, ?_⟩
  intro differs
  exact facts.1.1.settle fun _ => facts.2 differs

theorem restoreSnapshot_holds {snap : RestoreSnapshot} {rest : List RestoreSnapshot}
    {lastError : String} {before : SharedDesktop} (holds : Holds (snap :: rest) before) :
    sharedDesktop.ensures (restoreSnapshot snap lastError)
      (fun result after => Holds (snap :: rest) after ∧ after.caches = before.caches ∧
        (result.1 = true → Holds rest after)) before := by
  apply ensures_mono (ensures_and
    (ensures_steady ((restoreSnapshot_calls snap lastError).mono fun _ => RestoreCall.spares)
      holds)
    (restoreSnapshot_shows snap lastError before))
  intro result after facts
  refine ⟨facts.1.1, facts.1.2, ?_⟩
  intro restored
  exact facts.1.1.settle (facts.2 restored)

/-- The snapshots that are still to be restored: each once, none in the caches. -/
structure Waiting (pending : List RestoreSnapshot) (snapshots : Snapshots) : Prop where
  distinct : (pending.map RestoreSnapshot.identity).Nodup
  absent : ∀ snap ∈ pending, snapshots.lookup snap.identity = none

theorem Waiting.rest {snap : RestoreSnapshot} {pending : List RestoreSnapshot}
    {snapshots : Snapshots} (waiting : Waiting (snap :: pending) snapshots) :
    Waiting pending snapshots where
  distinct := (List.nodup_cons.mp waiting.distinct).2
  absent := fun other member => waiting.absent other (List.mem_cons_of_mem snap member)

theorem Waiting.insert {snap : RestoreSnapshot} {pending : List RestoreSnapshot}
    {snapshots : Snapshots} (waiting : Waiting (snap :: pending) snapshots) :
    Waiting pending (snapshots.insert snap.identity snap) where
  distinct := (List.nodup_cons.mp waiting.distinct).2
  absent := by
    intro other member
    have different : other.identity ≠ snap.identity := by
      intro same
      apply (List.nodup_cons.mp waiting.distinct).1
      exact same ▸ List.mem_map_of_mem member
    rw [AList.lookup_insert_ne different]
    exact waiting.absent other (List.mem_cons_of_mem snap member)

theorem restorePending_holds {pending : List RestoreSnapshot} {failures : Nat}
    {lastError : String} {before : SharedDesktop} (holds : Holds pending before)
    (waiting : Waiting pending before.caches.snapshots) :
    sharedDesktop.ensures (restorePending pending failures lastError)
      (fun _ => Holds []) before := by
  induction pending generalizing failures lastError before with
  | nil => exact holds
  | cons snap rest ih =>
      apply ensures_seq (identityMatches_holds holds)
      intro same afterCheck checked
      obtain ⟨held, unchanged, dropped⟩ := checked
      rw [← unchanged] at waiting
      cases same with
      | false => exact ih (dropped rfl) waiting.rest
      | true =>
          simp only [Bool.not_true, Bool.false_eq_true, if_false]
          apply ensures_seq (restoreSnapshot_holds held)
          intro result afterRestore restore
          obtain ⟨held, unchanged, dropped⟩ := restore
          rw [← unchanged] at waiting
          obtain ⟨restored, lastError⟩ := result
          cases restored with
          | true => exact ih (dropped rfl) waiting.rest
          | false =>
              simp only [Bool.false_eq_true, if_false]
              apply ensures_seq
                (reinsert_holds held (waiting.absent snap (List.mem_cons_self ..)))
              intro _ afterInsert inserted
              exact ih inserted.1 (inserted.2 ▸ waiting.insert)

theorem drainSnapshots_holds {before : SharedDesktop} (holds : Holds [] before) :
    sharedDesktop.ensures drainSnapshots
      (fun pending after => Holds pending after ∧ Waiting pending after.caches.snapshots)
      before := by
  unfold drainSnapshots
  rw [ensures_bind, ask, ensures_ask]
  intro entries afterOrder step
  obtain ⟨order, unchanged⟩ := step_caches step
  have held : Holds [] afterOrder := holds.of_step ⟨by simp [OffCaches], noHide_of_stays rfl⟩ step
  have listed : ∀ identity snap, (identity, snap) ∈ entries ↔
      before.caches.snapshots.lookup identity = some snap := fun identity snap => by
    rw [order.mem_iff, pairs_lookup]
  apply ensures_seq (modifySnapshots_holds (entries.map Prod.snd) _ _)
  · intro _ after emptied
    refine ⟨emptied.1, ?_, ?_⟩
    · have identities : entries.map (fun entry => entry.2.identity) = entries.map Prod.fst := by
        apply List.map_congr_left
        intro entry member
        exact holds.keyed entry.1 entry.2 ((listed _ _).mp member)
      rw [List.map_map]
      change (entries.map fun entry => entry.2.identity).Nodup
      rw [identities, (order.map Prod.fst).nodup_iff]
      exact pairs_keys _
    · intro snap _
      rw [emptied.2]
      rfl
  · intro identity snap found
    cases found
  · intro identity hidden
    right
    cases held.covered identity hidden with
    | inr waiting => simp at waiting
    | inl stored =>
        obtain ⟨snap, found, shows⟩ := stored
        rw [unchanged] at found
        exact ⟨snap, List.mem_map_of_mem ((listed identity snap).mpr found),
          holds.keyed identity snap found, shows⟩

theorem Waiting.perm {pending sorted : List RestoreSnapshot} {snapshots : Snapshots}
    (waiting : Waiting pending snapshots) (order : sorted.Perm pending) :
    Waiting sorted snapshots where
  distinct := (order.map RestoreSnapshot.identity).nodup_iff.mpr waiting.distinct
  absent := fun snap member => waiting.absent snap (order.mem_iff.mp member)

theorem Holds.perm {pending sorted : List RestoreSnapshot} {desktop : SharedDesktop}
    (holds : Holds pending desktop) (order : sorted.Perm pending) : Holds sorted desktop where
  keyed := holds.keyed
  covered := by
    intro identity hidden
    cases holds.covered identity hidden with
    | inl stored => exact Or.inl stored
    | inr waiting =>
        obtain ⟨snap, member, facts⟩ := waiting
        exact Or.inr ⟨snap, order.mem_iff.mpr member, facts⟩

theorem restoreAll_holds {before : SharedDesktop} (holds : Holds [] before) :
    sharedDesktop.ensures restoreAll (fun _ => Holds []) before := by
  apply ensures_seq (drainSnapshots_holds holds)
  intro pending afterDrain drained
  have order := List.perm_insertionSort
    (fun first second => restoreKey first ≤ restoreKey second) pending
  exact restorePending_holds (drained.1.perm order) (drained.2.perm order)

theorem drainRestoreAll_holds {before : SharedDesktop} (holds : Holds [] before) :
    sharedDesktop.ensures drainRestoreAll (fun _ => Holds []) before := by
  apply ensures_seq (restoreAll_holds holds)
  intro result afterRestore held
  exact ensures_seq (ensures_updateOthers (fun _ => rfl) held) fun _ _ held => held

theorem restoreAllFinal_holds {before : SharedDesktop} (holds : Holds [] before) :
    sharedDesktop.ensures restoreAllFinal (fun _ => Holds []) before := by
  apply ensures_seq (ensures_readCaches holds)
  intro caches afterRead read
  apply ensures_seq (drainSnapshots_holds read.1)
  intro pending afterDrain drained
  have order := List.perm_insertionSort (fun first second =>
    finalRestoreKey caches.stale first ≤ finalRestoreKey caches.stale second) pending
  exact restorePending_holds (drained.1.perm order) (drained.2.perm order)

theorem drainRestoreAllFinal_holds {before : SharedDesktop} (holds : Holds [] before) :
    sharedDesktop.ensures drainRestoreAllFinal (fun _ => Holds []) before := by
  apply ensures_seq (restoreAllFinal_holds holds)
  intro result afterRestore held
  exact ensures_seq (ensures_updateOthers (fun _ => rfl) held) fun _ _ held => held

theorem retry_holds {state : OffRestore} {instant : Instant} {before : SharedDesktop}
    (holds : Holds [] before) :
    sharedDesktop.ensures (state.retry instant) (fun _ => Holds []) before := by
  have noted : ∀ what desktop, Holds [] desktop →
      sharedDesktop.ensures (ask (.note what)) (fun _ => Holds []) desktop :=
    fun what desktop held => ensures_holds (spares_ask (by simp [OffCaches]) rfl) held
  apply ensures_seq (ensures_holds (spares_ask (by simp [OffCaches]) rfl) holds)
  intro apply afterFlag held
  split
  · exact held
  · apply ensures_seq (ensures_readCaches held)
    intro caches afterRead read
    split
    · exact ensures_seq (noted _ _ read.1) fun _ _ held => held
    · split
      · exact read.1
      · apply ensures_seq (drainRestoreAll_holds read.1)
        intro result afterDrain held
        apply ensures_seq (noted _ _ held)
        intro _ afterNote held
        split
        · exact held
        · exact held

end LayoutAdblock.Engine
