import LayoutAdblock.Engine.TickRecord

namespace LayoutAdblock.Engine

open LayoutAdblock.Core Interaction Environment
open Marked (plain mark)
open GuardState

/-! # What a tick preserves

At every instant of a tick the caches hold the original snapshot of each window
that is due, but for the one that is being restored.  How much of it holds
depends on what is known of the windows that the tick hides.
-/

/-- The invariant of a tick. Each snapshot is kept under its own window, a record is only of
windows that live, and every window that is due has its first snapshot in the caches, unless
it is the one being restored. -/
structure Preserved (rule : HideRule) (state : GuardState) : Prop where
  keyed : Keyed state.snapshots
  lives : ∀ identity, state.owed identity = true → state.desktop.lives identity = true
  stored : rule ≠ .any → ∀ identity, state.Due identity → state.attempt ≠ some identity →
    state.Stored identity
  showing : rule = .seen → ∀ identity, state.desktop.HiddenAs identity →
    state.Due identity ∧ ∃ snap, state.original identity = some snap ∧ snap.wasVisible = true

variable {rule : HideRule} {before after : GuardState} {call : Call} {answer : call.Answer}
  {identity : WindowIdentity} {α : Type}

theorem Preserved.begin {desktop : SharedDesktop} (keyed : Keyed desktop.caches.snapshots)
    (covered : rule = .seen → desktop.Covered) : Preserved rule (GuardState.begin desktop) where
  keyed := keyed
  lives identity owed := (Bool.and_eq_true _ _ |>.mp owed).1
  stored _ identity due _ := by
    have member := of_decide_eq_true (Bool.and_eq_true _ _ |>.mp due.1).2
    obtain ⟨snap, found⟩ := Option.isSome_iff_exists.mp (AList.lookup_isSome.mpr member)
    exact ⟨snap, found, found⟩
  showing seen identity hidden := by
    obtain ⟨snap, found, shows⟩ := covered seen identity hidden
    have member : identity ∈ desktop.caches.snapshots :=
      AList.lookup_isSome.mp (Option.isSome_of_eq_some found)
    have lives : desktop.lives identity = true := lives_of_hidden hidden
    have owed : (GuardState.begin desktop).owed identity = true :=
      (Bool.and_eq_true _ _).mpr ⟨lives, decide_eq_true member⟩
    exact ⟨⟨owed, rfl⟩, snap, found, shows⟩

/-- What the caches have on a visible window right before it is hidden: no restore of it is
under way, and unless the rule asks for nothing it has a snapshot, under the rule `seen` one
that says it was visible. -/
structure Entered (rule : HideRule) (state : GuardState) (identity : WindowIdentity) : Prop where
  pending : state.restored identity = false
  apart : state.attempt ≠ some identity
  entry : rule ≠ .any → ∃ snap, state.snapshots.lookup identity = some snap ∧
    (rule = .seen → snap.wasVisible = true)

/-- A call that writes no caches, and hides only windows that have been entered. -/
theorem Preserved.step (preserved : Preserved rule before) (off : OffCaches call)
    (entered : ∀ identity, before.desktop.hides call identity = true →
      Entered rule before identity)
    (step : (admitting rule).step call before answer after) : Preserved rule after := by
  have same : after.snapshots = before.snapshots := by
    rw [GuardState.snapshots, (step_caches step.2.1).unchanged off]
  have original := original_of_step step
  have restored := restored_of_step step
  refine ⟨?_, fun identity isOwed => ?_, fun known identity due apart => ?_,
    fun seen identity hidden => ?_⟩
  · rw [same]
    exact preserved.keyed
  · rw [owed_of_step step, owedAfter, Bool.and_eq_true] at isOwed
    exact isOwed.1
  · obtain ⟨isOwed, pending⟩ := due
    rw [owed_of_step step, owedAfter, Bool.and_eq_true, Bool.or_eq_true] at isOwed
    rw [restored] at pending
    rw [attempt_of_step step] at apart
    rw [Stored, original, same, originalAfter]
    by_cases already : before.owed identity = true
    · rw [if_neg (by simp [already])]
      exact preserved.stored known identity ⟨already, pending⟩ apart
    · have hides := isOwed.2.resolve_left already
      rw [if_pos (by simp [already, hides])]
      obtain ⟨snap, found, _⟩ := (entered identity hides).entry known
      exact ⟨snap, found, found⟩
  · have lives := lives_of_hidden hidden
    rw [Due, owed_of_step step, owedAfter, lives, Bool.true_and, restored, original,
      originalAfter]
    cases hidden_of_step step hidden with
    | inl earlier =>
        obtain ⟨due, snap, found, shows⟩ := preserved.showing seen identity earlier
        rw [if_neg (by simp [due.1]), due.1]
        exact ⟨⟨rfl, due.2⟩, snap, found, shows⟩
    | inr hides =>
        have known : rule ≠ .any := by simp [seen]
        obtain ⟨pending, apart, entry⟩ := entered identity hides
        obtain ⟨snap, found, shows⟩ := entry known
        refine ⟨⟨by simp [hides], pending⟩, snap, ?_, shows seen⟩
        by_cases already : before.owed identity = true
        · obtain ⟨first, isFirst, stored⟩ :=
            preserved.stored known identity ⟨already, pending⟩ apart
          rw [if_neg (by simp [already]), isFirst, ← stored, found]
        · rw [if_pos (by simp [already, hides]), found]

/-- A write of the caches, for snapshots that keep what is due. -/
theorem Preserved.write {caches : EngineCaches} {answer : Unit}
    (preserved : Preserved rule before) (keyed : Keyed caches.snapshots)
    (keeps : rule ≠ .any → ∀ identity, before.Due identity → before.attempt ≠ some identity →
      caches.snapshots.lookup identity = before.snapshots.lookup identity)
    (step : (admitting rule).step (.writeCaches caches) before answer after) :
    Preserved rule after := by
  have noHide : NoHide (.writeCaches caches) := noHide_of_stays rfl
  have due : ∀ identity, after.Due identity → before.Due identity := fun identity =>
    due_of_step step (hides_of_noHide noHide identity)
  have written : after.snapshots = caches.snapshots := by
    have writes : after.desktop.caches = caches := step_caches step.2.1
    rw [GuardState.snapshots, writes]
  have original : ∀ identity, after.original identity = before.original identity := by
    intro identity
    rw [original_of_step step, originalAfter, hides_of_noHide noHide, Bool.false_and,
      if_neg (by simp)]
  refine ⟨?_, fun identity isOwed => ?_, fun known identity later apart => ?_,
    fun seen identity hidden => ?_⟩
  · rw [written]
    exact keyed
  · rw [owed_of_step step, owedAfter, Bool.and_eq_true] at isOwed
    exact isOwed.1
  · rw [attempt_of_step step] at apart
    rw [Stored, original, written, keeps known identity (due identity later) apart]
    exact preserved.stored known identity (due identity later) apart
  · obtain ⟨earlier, snap, found, shows⟩ :=
      preserved.showing seen identity (hidden.of_noHide noHide step.2.1)
    refine ⟨⟨?_, ?_⟩, snap, (original identity).trans found, shows⟩
    · rw [owed_of_step step, owedAfter, lives_of_hidden hidden, earlier.1]
      rfl
    · rw [restored_of_step step]
      exact earlier.2

/-- What a program keeps that hides nothing and writes no caches: the invariant, the caches,
and the part of the record that only a new tick resets. -/
structure Steady (rule : HideRule) (before after : GuardState) : Prop where
  preserved : Preserved rule after
  caches : after.desktop.caches = before.desktop.caches
  frame : Frame before after

theorem Steady.refl (preserved : Preserved rule before) : Steady rule before before :=
  ⟨preserved, rfl, Frame.refl before⟩

theorem Steady.trans {middle : GuardState} (first : Steady rule before middle)
    (second : Steady rule middle after) : Steady rule before after :=
  ⟨second.preserved, second.caches.trans first.caches, first.frame.trans second.frame⟩

theorem Steady.snapshots (steady : Steady rule before after) :
    after.snapshots = before.snapshots := by
  rw [GuardState.snapshots, steady.caches]

theorem Preserved.steady (preserved : Preserved rule before) (spares : Spares call)
    (step : (admitting rule).step call before answer after) : Steady rule before after := by
  refine ⟨preserved.step spares.off (fun identity hides => ?_) step,
    (step_caches step.2.1).unchanged spares.off, frame_of_step step⟩
  rw [hides_of_noHide spares.noHide] at hides
  cases hides

theorem wp_steady {program : EngineM α} (spares : program.Only Spares)
    (preserved : Preserved rule before) :
    (admitting rule).wp (Preserved rule) program (fun _ => Steady rule before) before :=
  wp_of_step spares (fun _ _ _ _ _ torn => torn.2.elim)
    (fun _ _ _ _ spared held step => held.trans (held.preserved.steady spared step))
    (fun _ held => held.preserved) (Steady.refl preserved)

theorem wp_preserved {program : EngineM α} (spares : program.Only Spares)
    (preserved : Preserved rule before) :
    (admitting rule).wp (Preserved rule) program (fun _ => Preserved rule) before :=
  wp_mono (wp_steady spares preserved) fun _ _ held => held.preserved

/-- One call that hides nothing and writes no caches, with what it was answered. -/
theorem wp_call {call : Call} {post : call.Answer → GuardState → Prop} (spares : Spares call)
    (preserved : Preserved rule before)
    (holds : ∀ answer after, (admitting rule).step call before answer after →
      Steady rule before after → post answer after) :
    (admitting rule).wp (Preserved rule) (ask call) post before := by
  refine ⟨fun _ torn => torn.2.elim, fun answer after step => ?_⟩
  have steady := preserved.steady spares step
  exact ⟨steady.preserved, holds answer after step steady⟩

theorem wp_readCaches (preserved : Preserved rule before) :
    (admitting rule).wp (Preserved rule) (ask .readCaches)
      (fun caches after => Steady rule before after ∧ caches = before.desktop.caches) before :=
  wp_call ⟨by simp [OffCaches], noHide_of_stays rfl⟩ preserved fun _ _ step steady =>
    ⟨steady, (step_caches step.2.1).1⟩

theorem wp_writeCaches {caches : EngineCaches} (preserved : Preserved rule before)
    (keyed : Keyed caches.snapshots)
    (keeps : rule ≠ .any → ∀ identity, before.Due identity → before.attempt ≠ some identity →
      caches.snapshots.lookup identity = before.snapshots.lookup identity) :
    (admitting rule).wp (Preserved rule) (ask (.writeCaches caches))
      (fun _ after => Preserved rule after ∧ after.desktop.caches = caches) before := by
  refine ⟨fun _ torn => torn.2.elim, fun answer after step => ?_⟩
  have next := preserved.write keyed keeps step
  exact ⟨next, next, step_caches step.2.1⟩

/-- Reading the caches and writing them back. -/
theorem wp_update {change : EngineCaches → EngineCaches} (preserved : Preserved rule before)
    (keyed : Keyed (change before.desktop.caches).snapshots)
    (keeps : rule ≠ .any → ∀ identity, before.Due identity → before.attempt ≠ some identity →
      (change before.desktop.caches).snapshots.lookup identity =
        before.snapshots.lookup identity) :
    (admitting rule).wp (Preserved rule)
      (do
        let caches ← ask .readCaches
        ask (.writeCaches (change caches)))
      (fun _ after => Preserved rule after ∧
        after.desktop.caches = change before.desktop.caches) before := by
  refine wp_seq (wp_call ⟨by simp [OffCaches], noHide_of_stays rfl⟩ preserved
    fun caches middle step steady =>
      (⟨steady, (step_caches step.2.1).1, fun identity => due_of_step step rfl⟩ :
        Steady rule before middle ∧ caches = before.desktop.caches ∧
          ∀ identity, middle.Due identity → before.Due identity)) fun caches middle read => ?_
  obtain ⟨steady, rfl, due⟩ := read
  refine wp_writeCaches steady.preserved keyed fun known identity later apart => ?_
  rw [steady.frame.attempt] at apart
  rw [keeps known identity (due identity later) apart, steady.snapshots]

/-- Other bookkeeping than the snapshots. -/
structure Kept (rule : HideRule) (before after : GuardState) : Prop where
  preserved : Preserved rule after
  snapshots : after.snapshots = before.snapshots

theorem Kept.trans {middle : GuardState} (first : Kept rule before middle)
    (second : Kept rule middle after) : Kept rule before after :=
  ⟨second.preserved, second.snapshots.trans first.snapshots⟩

theorem Steady.kept (steady : Steady rule before after) : Kept rule before after :=
  ⟨steady.preserved, steady.snapshots⟩

theorem wp_updateOthers {change : EngineCaches → EngineCaches}
    (same : ∀ caches, (change caches).snapshots = caches.snapshots)
    (preserved : Preserved rule before) :
    (admitting rule).wp (Preserved rule)
      (do
        let caches ← ask .readCaches
        ask (.writeCaches (change caches)))
      (fun _ => Kept rule before) before := by
  refine wp_mono (wp_update preserved ?_ fun _ identity _ _ => by rw [same])
    fun _ after held => ⟨held.1, ?_⟩
  · rw [same]
    exact preserved.keyed
  · rw [GuardState.snapshots, held.2, same]

/-- A write that leaves the snapshots alone. -/
theorem wp_writeOthers {caches : EngineCaches} (same : caches.snapshots = before.snapshots)
    (preserved : Preserved rule before) :
    (admitting rule).wp (Preserved rule) (ask (.writeCaches caches)) (fun _ => Kept rule before)
      before := by
  refine wp_mono (wp_writeCaches preserved (same ▸ preserved.keyed) fun _ _ _ _ => by rw [same])
    fun _ after held => ⟨held.1, ?_⟩
  rw [GuardState.snapshots, held.2, same]

theorem removeStale_kept {identity : WindowIdentity} (preserved : Preserved rule before) :
    (admitting rule).wp (Preserved rule) (removeStale identity) (fun _ => Kept rule before)
      before :=
  wp_updateOthers (fun _ => rfl) preserved

theorem setStale_kept {identity : WindowIdentity} {stale : StaleState}
    (preserved : Preserved rule before) :
    (admitting rule).wp (Preserved rule) (setStale identity stale) (fun _ => Kept rule before)
      before :=
  wp_updateOthers (fun _ => rfl) preserved

theorem wp_modify {change : Snapshots → Snapshots} (preserved : Preserved rule before)
    (keyed : Keyed (change before.snapshots))
    (keeps : rule ≠ .any → ∀ identity, before.Due identity → before.attempt ≠ some identity →
      (change before.snapshots).lookup identity = before.snapshots.lookup identity) :
    (admitting rule).wp (Preserved rule) (modifySnapshots change)
      (fun _ after => Preserved rule after ∧ after.snapshots = change before.snapshots)
      before := by
  let update : EngineCaches → EngineCaches :=
    fun caches => { caches with snapshots := change caches.snapshots }
  have updated : (admitting rule).wp (Preserved rule) (modifySnapshots change)
      (fun _ after => Preserved rule after ∧
        after.desktop.caches = update before.desktop.caches) before :=
    wp_update preserved keyed keeps
  refine wp_mono updated fun _ after held => ⟨held.1, ?_⟩
  rw [GuardState.snapshots, held.2]

/-- A window that is not owed has no snapshot to lose. -/
theorem erase_undue (preserved : Preserved rule before)
    (undue : before.owed identity = false) :
    (admitting rule).wp (Preserved rule)
      (modifySnapshots fun snapshots => snapshots.erase identity)
      (fun _ => Preserved rule) before := by
  refine wp_mono (wp_modify preserved (preserved.keyed.erase identity) ?_) fun _ _ held => held.1
  intro _ other due _
  refine AList.lookup_erase_ne ?_
  rintro rfl
  exact absurd due.1 (by simp [undue])

/-- A window without a snapshot gets one. -/
theorem insert_new {snap : RestoreSnapshot} (preserved : Preserved rule before)
    (missing : snap.identity ∉ before.snapshots) :
    (admitting rule).wp (Preserved rule)
      (modifySnapshots fun snapshots => snapshots.insert snap.identity snap)
      (fun _ after => Preserved rule after ∧
        after.snapshots = before.snapshots.insert snap.identity snap) before := by
  refine wp_modify preserved (preserved.keyed.insert snap) ?_
  intro known other due apart
  refine AList.lookup_insert_ne ?_
  rintro rfl
  obtain ⟨found, _, stored⟩ := preserved.stored known _ due apart
  exact missing (AList.lookup_isSome.mp (Option.isSome_of_eq_some stored))

theorem dead_of_differs {desktop : SharedDesktop}
    (differs : ∀ window, desktop.windows identity.hwnd = some window →
      window.pid ≠ identity.pid ∨ window.className ≠ identity.className) :
    desktop.lives identity = false := by
  rw [SharedDesktop.lives, Option.any_eq_false]
  intro window found
  have apart := differs window found
  cases apart with
  | inl pid => simp [pid]
  | inr className => simp [className]

/-- A window that is seen to be dead is not owed any more. -/
theorem undue_of_dead (preserved : Preserved rule before)
    (step : (admitting rule).step call before answer after)
    (hides : before.desktop.hides call identity = false)
    (dead : before.desktop.lives identity = false) : after.owed identity = false := by
  have notOwed : before.owed identity = false := by
    by_contra owed
    rw [preserved.lives identity (Bool.eq_true_of_not_eq_false owed)] at dead
    cases dead
  rw [owed_of_step step, owedAfter, notOwed, hides, Bool.or_false, Bool.and_false]

/-- A window that does not match any more is not owed. -/
theorem identityMatches_preserved (preserved : Preserved rule before) :
    (admitting rule).wp (Preserved rule) (identityMatches identity)
      (fun same after => Steady rule before after ∧ (same = false → after.owed identity = false))
      before := by
  refine wp_seq (wp_call (Reads.spares rfl) preserved fun alive middle step steady =>
    (⟨steady, fun gone => ?_⟩ : Steady rule before middle ∧ (alive = false →
      middle.owed identity = false))) fun alive middle facts => ?_
  · refine undue_of_dead preserved step rfl (dead_of_differs fun window found => ?_)
    have answered : alive = (before.desktop.windows identity.hwnd).isSome := step.2.1.1
    rw [gone, found] at answered
    cases answered
  obtain ⟨steady, undue⟩ := facts
  cases alive with
  | false => exact ⟨steady, fun _ => undue rfl⟩
  | true =>
      refine wp_seq (wp_call (Reads.spares rfl) steady.preserved fun pid later step next =>
        (⟨steady.trans next, fun other => ?_⟩ : Steady rule before later ∧ (pid ≠ identity.pid →
          later.owed identity = false))) fun pid later facts => ?_
      · refine undue_of_dead steady.preserved step rfl (dead_of_differs fun window found => ?_)
        have answered : pid = window.pid := step.2.1.1 window found
        exact Or.inl fun same => other (answered.trans same)
      obtain ⟨steady, undue⟩ := facts
      split
      · rename_i other
        exact ⟨steady, fun _ => undue other⟩
      · refine wp_seq (wp_call (Reads.spares rfl) steady.preserved
          fun className last step next => (⟨steady.trans next, fun other => ?_⟩ :
            Steady rule before last ∧ (className ≠ identity.className →
              last.owed identity = false)))
          fun className last facts => ⟨facts.1, fun differs => facts.2 (of_decide_eq_false differs)⟩
        refine undue_of_dead steady.preserved step rfl (dead_of_differs fun window found => ?_)
        have answered : className = window.className := step.2.1.1 window found
        exact Or.inr fun same => other (answered.trans same)

end LayoutAdblock.Engine
