import LayoutAdblock.Engine.Captures
import LayoutAdblock.Engine.DrainCoverage

namespace LayoutAdblock.Engine

open LayoutAdblock.Core Interaction Environment
open Marked (plain mark)
open GuardState

/-! # Whole ticks

Apart from the window in an attempt, a tick has the original snapshot of every
window that is due in the caches, whatever KakaoTalk does in the meantime.
-/

variable {rule : HideRule} {before after : GuardState} {call : Call} {answer : call.Answer}
  {identity : WindowIdentity} {snap : RestoreSnapshot} {lastError : String}
  {graph : WindowGraph} {evaluation : Evaluation} {pids : List Pid} {hwnd : Hwnd} {α : Type}

theorem rememberSnapshot_preserved (preserved : Preserved rule before) :
    (admitting rule).wp (Preserved rule) (rememberSnapshot graph hwnd) (fun _ => Preserved rule)
      before :=
  wp_mono (rememberSnapshot_remembers preserved) fun _ _ held => held.1

theorem resizeWindow_spares (graph : WindowGraph) (hwnd : Hwnd) (pos : List Int)
    (isViewResize : Bool) : (resizeWindow graph hwnd pos isViewResize).Only Spares := by
  apply (Program.only_ask.mpr ⟨by simp [OffCaches], fun _ same => nomatch same⟩).bind
  intro applied
  split
  · exact spares_ask (by simp [OffCaches]) rfl
  · trivial

theorem positionWindow_preserved {pos : List Int} (preserved : Preserved rule before) :
    (admitting rule).wp (Preserved rule) (positionWindow graph pids pos) (fun _ => Preserved rule)
      before := by
  unfold positionWindow
  split
  · exact preserved
  · refine wp_seq (wp_preserved ((precheck_reads graph pids _).mono fun _ => Reads.spares)
      preserved) fun checked state held => ?_
    have resized : ∀ isViewResize state, Preserved rule state →
        (admitting rule).wp (Preserved rule)
          (resizeWindow graph (pos.getD 0 0) pos isViewResize) (fun _ => Preserved rule) state :=
      fun isViewResize _ held => wp_preserved (resizeWindow_spares graph _ pos isViewResize) held
    split
    · unfold positionChecked
      split
      · exact resized true state held
      · split
        · exact held
        · exact wp_seq (rememberSnapshot_preserved held) fun _ after held =>
            resized false after held
    · exact held

theorem closeWindows_spares (graph : WindowGraph) (pids : List Pid) (deadline : Instant)
    (hwnds : List Hwnd) : (closeWindows graph pids deadline hwnds).Only Spares := by
  induction hwnds with
  | nil => trivial
  | cons hwnd rest ih =>
      apply ((precheck_reads graph pids hwnd).mono fun _ => Reads.spares).bind
      intro checked
      split
      · exact ih
      · apply (spares_ask (by simp [OffCaches]) rfl).bind
        intro instant
        dsimp only
        split
        · trivial
        · apply ((requestClose_calls hwnd _).mono fun _ => CloseCall.spares).bind
          intro _
          exact ih

theorem applyPasses_preserved (capturing : Capturing rule before) :
    (admitting rule).wp (Preserved rule) (applyPasses graph evaluation pids)
      (fun _ => Preserved rule) before := by
  refine wp_seq (hidePass_capturing capturing) fun _ hidden held => ?_
  refine wp_seq (wp_loop (fun pos _ held => positionWindow_preserved held) held.preserved)
    fun _ placed held => ?_
  refine wp_seq (wp_preserved (spares_ask (by simp [OffCaches]) rfl) held)
    fun started timed held => ?_
  exact wp_preserved (closeWindows_spares graph pids _ _) held

/-- No restore is under way. -/
structure Idle (rule : HideRule) (state : GuardState) : Prop where
  preserved : Preserved rule state
  attempt : state.attempt = none

theorem Capturing.idle (capturing : Capturing rule before) : Idle rule before :=
  ⟨capturing.preserved, capturing.captured.attempt⟩

theorem plain_idle {program : EngineM α}
    (kept : (admitting rule).wp (Preserved rule) program (fun _ => Preserved rule) before)
    (idle : Idle rule before) :
    (markedDesktop rule).wp (Preserved rule) (plain program) (fun _ => Idle rule) before :=
  wp_plain (wp_mono (wp_and kept ensures_frame)
    fun _ _ held => ⟨held.1, held.2.attempt.trans idle.attempt⟩)

theorem plain_kept_idle {program : EngineM α}
    (kept : (admitting rule).wp (Preserved rule) program (fun _ => Kept rule before) before)
    (idle : Idle rule before) :
    (markedDesktop rule).wp (Preserved rule) (plain program) (fun _ => Idle rule) before :=
  plain_idle (wp_mono kept fun _ _ held => held.preserved) idle

theorem plain_spares_idle {program : EngineM α} (spares : program.Only Spares)
    (idle : Idle rule before) :
    (markedDesktop rule).wp (Preserved rule) (plain program) (fun _ => Idle rule) before :=
  plain_idle (wp_preserved spares idle.preserved) idle

theorem mark_idle {what : Mark} (idle : Idle rule (GuardState.see what before)) :
    (markedDesktop rule).wp (Preserved rule) (mark what) (fun _ => Idle rule) before :=
  wp_mark idle.preserved idle

theorem markedRetain_idle (idle : Idle rule before) :
    (markedDesktop rule).wp (Preserved rule) markedRetain (fun _ => Idle rule) before := by
  refine wp_seq (plain_spares_idle (spares_ask (by simp [OffCaches]) rfl) idle)
    fun entries listed held => ?_
  refine wp_loop (fun entry state held => ?_) held
  refine wp_seq (wp_plain (identityMatches_preserved held.preserved)) fun same after facts => ?_
  have stays : Idle rule after := ⟨facts.1.preserved, facts.1.frame.attempt.trans held.attempt⟩
  cases same with
  | true => exact stays
  | false =>
      have marks : (markedDesktop rule).wp (Preserved rule) (mark (.dropped entry.1))
          (fun _ marked => marked = after) after := wp_mark stays.preserved rfl
      refine wp_seq marks fun _ marked isMarked => ?_
      subst isMarked
      exact plain_idle (erase_undue stays.preserved (facts.2 rfl)) stays

theorem markedApply_idle (capturing : Capturing rule before) :
    (markedDesktop rule).wp (Preserved rule) (markedApply graph evaluation pids)
      (fun _ => Idle rule) before := by
  have flags := wp_and (wp_steady (flagsAllow_reads.mono fun _ => Reads.spares)
    capturing.preserved) ensures_frame
  refine wp_seq (wp_plain flags) fun allowed state held => ?_
  have stays : Capturing rule state :=
    ⟨held.1.preserved, capturing.captured.of_same held.2 held.1.snapshots⟩
  cases allowed with
  | false => exact stays.idle
  | true =>
      refine wp_seq (capturePass_capturing stays) fun _ captured capturing => ?_
      refine wp_seq (plain_idle (applyPasses_preserved capturing) capturing.idle)
        fun _ applied held => ?_
      split
      · exact held
      · exact markedRetain_idle held

/-- Whenever the window is due, this is its original snapshot. -/
def Holding (identity : WindowIdentity) (snap : RestoreSnapshot) (state : GuardState) : Prop :=
  state.Due identity → state.original identity = some snap

theorem Holding.step (holding : Holding identity snap before) (noHide : NoHide call)
    (step : (admitting rule).step call before answer after) : Holding identity snap after := by
  intro due
  have hides : before.desktop.hides call identity = false := hides_of_noHide noHide identity
  rw [original_of_step step, originalAfter, hides, Bool.false_and, if_neg (by simp)]
  exact holding (due_of_step step hides due)

theorem ensures_holding {program : EngineM α} (noHide : program.Only NoHide)
    (holding : Holding identity snap before) :
    (admitting rule).ensures program (fun _ => Holding identity snap) before :=
  ensures_of_step (Holding identity snap) noHide
    (fun _ _ _ _ noHide held step => held.step noHide step) holding

/-- The snapshot is taken out of the caches for a restore. -/
theorem Idle.start (idle : Idle rule before) :
    Preserved rule (GuardState.see (.started identity) before) where
  keyed := idle.preserved.keyed
  lives := idle.preserved.lives
  stored known other due _ := idle.preserved.stored known other due (by simp [idle.attempt])
  showing := idle.preserved.showing

/-- Whatever is due is stored, but for the window that is being restored. -/
theorem Preserved.finish {result : Attempted} (preserved : Preserved rule before)
    (attempt : before.attempt = some identity)
    (own : rule ≠ .any → (GuardState.see (.ended identity result) before).Due identity →
      before.Stored identity)
    (shown : rule = .seen → result = .restored → ¬ before.desktop.HiddenAs identity) :
    Idle rule (GuardState.see (.ended identity result) before) := by
  have others : ∀ other, before.Due other → (other = identity → result ≠ .restored) →
      (GuardState.see (.ended identity result) before).Due other := by
    intro other due apart
    cases result with
    | gone => exact due
    | failed => exact due
    | restored =>
        have differs : other ≠ identity := fun same => apart same rfl
        exact ⟨due.1, by simpa [GuardState.see, differs] using due.2⟩
  have earlier : ∀ other, other ≠ identity →
      (GuardState.see (.ended identity result) before).Due other → before.Due other := by
    intro other differs due
    cases result with
    | gone => exact due
    | failed => exact due
    | restored => exact ⟨due.1, by simpa [GuardState.see, differs] using due.2⟩
  refine ⟨⟨?_, ?_, fun known other due _ => ?_, fun seen other hidden => ?_⟩, ?_⟩
  · cases result <;> exact preserved.keyed
  · cases result <;> exact preserved.lives
  · by_cases same : other = identity
    · subst same
      cases result <;> exact own known due
    · have stored := preserved.stored known other (earlier other same due) (by
        rw [attempt]
        exact fun equal => same (Option.some.inj equal).symm)
      cases result <;> exact stored
  · have wasHidden : before.desktop.HiddenAs other := by
      cases result <;> exact hidden
    obtain ⟨due, found⟩ := preserved.showing seen other wasHidden
    refine ⟨others other due fun same restored => ?_, ?_⟩
    · subst same
      exact shown seen restored wasHidden
    · cases result <;> exact found
  · cases result <;> rfl

theorem recordFailure_idle (idle : Idle rule before) :
    (markedDesktop rule).wp (Preserved rule) (plain (markedDue.recordFailure identity lastError))
      (fun _ => Idle rule) before := by
  refine plain_idle ?_ idle
  refine wp_seq (wp_preserved (spares_ask (by simp [OffCaches]) rfl) idle.preserved)
    fun caches read held => ?_
  refine wp_seq (setStale_kept held) fun _ written facts => ?_
  split
  · exact facts.preserved
  · exact wp_seq (wp_preserved (spares_ask (by simp [OffCaches]) rfl) facts.preserved)
      fun _ _ held => held

/-- The window whose restore is under way, with its snapshot in hand. -/
structure InHand (rule : HideRule) (identity : WindowIdentity) (snap : RestoreSnapshot)
    (state : GuardState) : Prop where
  preserved : Preserved rule state
  attempt : state.attempt = some identity
  holding : rule ≠ .any → Holding identity snap state

theorem plain_inHand {program : EngineM α} {post : α → GuardState → Prop}
    (noHide : program.Only NoHide)
    (kept : (admitting rule).wp (Preserved rule) program
      (fun value after => Preserved rule after ∧ post value after) before)
    (hand : InHand rule identity snap before) :
    (markedDesktop rule).wp (Preserved rule) (plain program)
      (fun value after => InHand rule identity snap after ∧ post value after) before := by
  have holding : (admitting rule).ensures program
      (fun _ after => rule ≠ .any → Holding identity snap after) before := by
    by_cases known : rule = .any
    · exact ensures_mono ensures_trivial fun _ _ _ apart => absurd known apart
    · exact ensures_mono (ensures_holding noHide (hand.holding known)) fun _ _ held _ => held
  refine wp_plain (wp_mono (wp_and (wp_and kept ensures_frame) holding)
    fun value after facts => ?_)
  obtain ⟨⟨⟨preserved, held⟩, frame⟩, holding⟩ := facts
  exact ⟨⟨preserved, frame.attempt.trans hand.attempt, holding⟩, held⟩

/-- A window whose restore succeeds is not hidden any more. -/
theorem restoreSnapshot_gives_back (before : GuardState) :
    (admitting rule).ensures (restoreSnapshot snap lastError)
      (fun result after => result.1 = true → snap.wasVisible = true →
        ¬ after.desktop.HiddenAs snap.identity) before := by
  have lowers : ∀ (call : Call) (before : GuardState) answer (after : GuardState),
      (admitting rule).step call before answer after →
        sharedDesktop.step call before.desktop answer after.desktop :=
    fun _ _ _ _ step => step.2.1
  exact ensures_of_view lowers (restoreSnapshot_shows snap lastError before.desktop)

/-- A try that ends with the snapshot dropped. -/
theorem ended_idle {result : Attempted} {lastError : String} {state : GuardState}
    (idle : Idle rule (GuardState.see (.ended identity result) state)) :
    (markedDesktop rule).wp (Preserved rule)
      (do
        mark (.ended identity result)
        plain (removeStale identity)
        return lastError : MarkedM String) (fun _ => Idle rule) state := by
  refine wp_seq (mark_idle idle) fun _ marked idle => ?_
  exact wp_seq (plain_kept_idle (removeStale_kept idle.preserved) idle) fun _ _ held => held

/-- A try that ends with the snapshot put back. -/
theorem failed_idle {error : String} (hand : InHand rule snap.identity snap before) :
    (markedDesktop rule).wp (Preserved rule)
      (do
        plain (modifySnapshots fun snapshots => snapshots.insert snap.identity snap)
        mark (.ended snap.identity .failed)
        plain (markedDue.recordFailure snap.identity error))
      (fun _ => Idle rule) before := by
  have inserting : (admitting rule).wp (Preserved rule)
      (modifySnapshots fun snapshots => snapshots.insert snap.identity snap)
      (fun _ last => Preserved rule last ∧
        last.snapshots = before.snapshots.insert snap.identity snap) before := by
    refine wp_modify hand.preserved (hand.preserved.keyed.insert snap) ?_
    intro _ other _ apart
    rw [hand.attempt] at apart
    exact AList.lookup_insert_ne fun same => apart (congrArg some same.symm)
  refine wp_seq (plain_inHand (modifySnapshots_noHide _) inserting hand) fun _ last facts => ?_
  obtain ⟨hand, stored⟩ := facts
  have idle : Idle rule (GuardState.see (.ended snap.identity .failed) last) := by
    refine hand.preserved.finish hand.attempt (fun known due => ?_) (fun _ same => by cases same)
    refine ⟨snap, hand.holding known due, ?_⟩
    rw [stored, AList.lookup_insert]
  exact wp_seq (mark_idle idle) fun _ ended idle => recordFailure_idle idle

/-- A restore that the engine does not finish leaves the window to be restored
only in its own hands. -/
theorem attempt_idle (own : snap.identity = identity) (hand : InHand rule identity snap before) :
    (markedDesktop rule).wp (Preserved rule)
      (do
        mark (.acting snap)
        let same ← plain (identityMatches snap.identity)
        if !same then
          mark (.ended identity .gone)
          plain (removeStale identity)
          return lastError
        else
          let result ← plain (restoreSnapshot snap lastError)
          if result.1 then
            mark (.ended identity .restored)
            plain (removeStale identity)
            return result.2
          else
            plain (modifySnapshots fun snapshots => snapshots.insert identity snap)
            mark (.ended identity .failed)
            plain (markedDue.recordFailure identity result.2))
      (fun _ => Idle rule) before := by
  subst own
  have acting : (markedDesktop rule).wp (Preserved rule) (mark (.acting snap))
      (fun _ marked => marked = before) before := wp_mark hand.preserved rfl
  refine wp_seq acting fun _ marked isMarked => ?_
  subst isMarked
  have asking := wp_mono (identityMatches_preserved hand.preserved) fun same after facts =>
    (⟨facts.1.preserved, facts.2⟩ : Preserved rule after ∧
      (same = false → after.owed snap.identity = false))
  have reads := (identityMatches_reads snap.identity).mono fun _ => Reads.noHide
  refine wp_seq (plain_inHand reads asking hand) fun same after facts => ?_
  obtain ⟨hand, undue⟩ := facts
  cases same with
  | false =>
      apply ended_idle
      refine hand.preserved.finish hand.attempt (fun _ due => ?_) (fun _ same => by cases same)
      have owed : after.owed snap.identity = true := due.1
      rw [undue rfl] at owed
      cases owed
  | true =>
      have restoring := wp_and (wp_preserved ((restoreSnapshot_calls snap lastError).mono
        fun _ => RestoreCall.spares) hand.preserved) (restoreSnapshot_gives_back after)
      have shows := (restoreSnapshot_calls snap lastError).mono fun _ calls => calls.spares.noHide
      refine wp_seq (plain_inHand shows restoring hand) fun result later facts => ?_
      obtain ⟨hand, shown⟩ := facts
      obtain ⟨restored, error⟩ := result
      cases restored with
      | true =>
          apply ended_idle
          refine hand.preserved.finish hand.attempt (fun _ due => ?_) fun seen _ hidden => ?_
          · have pending := due.2
            simp [GuardState.see] at pending
          · obtain ⟨due, original, isOriginal, shows⟩ :=
              hand.preserved.showing seen snap.identity hidden
            rw [hand.holding (by simp [seen]) due] at isOriginal
            obtain rfl := Option.some.inj isOriginal
            exact shown rfl shows hidden
      | false => exact failed_idle hand

theorem markedDue_idle (idle : Idle rule before) :
    (markedDesktop rule).wp (Preserved rule) (markedDue identity lastError)
      (fun _ => Idle rule) before := by
  refine wp_seq (wp_plain (wp_readCaches idle.preserved)) fun caches middle read => ?_
  obtain ⟨steady, rfl⟩ := read
  have stays : Idle rule middle := ⟨steady.preserved, steady.frame.attempt.trans idle.attempt⟩
  cases found : before.desktop.caches.snapshots.lookup identity with
  | none =>
      exact wp_seq (plain_kept_idle (removeStale_kept stays.preserved) stays) fun _ _ held => held
  | some snap =>
      have here : middle.snapshots.lookup identity = some snap := by
        rw [steady.snapshots, found]
      have own : snap.identity = identity := stays.preserved.keyed identity snap here
      have hand : InHand rule identity snap (GuardState.see (.started identity) middle) := by
        refine ⟨stays.start, rfl, fun known due => ?_⟩
        obtain ⟨original, isOriginal, stored⟩ :=
          stays.preserved.stored known identity due (by simp [stays.attempt])
        exact isOriginal.trans (stored.symm.trans here)
      have starts : (markedDesktop rule).wp (Preserved rule) (mark (.started identity))
          (fun _ => InHand rule identity snap) middle := wp_mark hand.preserved hand
      refine wp_seq starts fun _ started hand => ?_
      have erasing : (admitting rule).wp (Preserved rule)
          (modifySnapshots fun snapshots => snapshots.erase identity)
          (fun _ after => Preserved rule after ∧ True) started := by
        refine wp_mono (wp_modify hand.preserved (hand.preserved.keyed.erase identity) ?_)
          fun _ _ held => ⟨held.1, trivial⟩
        intro _ other _ apart
        rw [hand.attempt] at apart
        exact AList.lookup_erase_ne fun same => apart (congrArg some same.symm)
      exact wp_seq (plain_inHand (modifySnapshots_noHide _) erasing hand)
        fun _ _ facts => attempt_idle own facts.1

theorem markedStaleWindow_idle {matched : WindowIdentity → Bool} (idle : Idle rule before) :
    (markedDesktop rule).wp (Preserved rule) (markedStaleWindow matched identity lastError)
      (fun _ => Idle rule) before := by
  unfold markedStaleWindow
  split
  · refine wp_seq (mark_idle idle) fun _ marked idle => ?_
    exact wp_seq (plain_kept_idle (removeStale_kept idle.preserved) idle) fun _ _ held => held
  · refine wp_seq (mark_idle idle) fun _ marked idle => ?_
    have counting : (admitting rule).wp (Preserved rule) (markedStaleWindow.countMiss identity)
        (fun _ => Preserved rule) marked := by
      refine wp_seq (wp_preserved (spares_ask (by simp [OffCaches]) rfl) idle.preserved)
        fun caches read held => ?_
      exact wp_seq (setStale_kept held) fun _ _ facts => facts.preserved
    refine wp_seq (plain_idle counting idle) fun missed counted idle => ?_
    split
    · exact markedDue_idle idle
    · exact idle

theorem markedStaleWindows_idle {matched : WindowIdentity → Bool}
    {pending : List WindowIdentity} (idle : Idle rule before) :
    (markedDesktop rule).wp (Preserved rule) (markedStaleWindows matched pending lastError)
      (fun _ => Idle rule) before := by
  induction pending generalizing lastError before with
  | nil => exact idle
  | cons identity rest ih =>
      exact wp_seq (markedStaleWindow_idle idle) fun lastError after held => ih held

theorem markedStaleHidden_idle {matched : WindowIdentity → Bool} (idle : Idle rule before) :
    (markedDesktop rule).wp (Preserved rule) (markedStaleHidden matched)
      (fun _ => Idle rule) before := by
  refine wp_seq (plain_spares_idle (spares_ask (by simp [OffCaches]) rfl) idle)
    fun entries listed idle => ?_
  refine wp_seq (markedStaleWindows_idle idle) fun lastError restored idle => ?_
  exact wp_seq (plain_spares_idle (spares_ask (by simp [OffCaches]) rfl) idle) fun _ _ idle => idle

theorem markedActOn_idle {applyMode : Bool} (capturing : Capturing rule before) :
    (markedDesktop rule).wp (Preserved rule) (markedActOn applyMode graph evaluation pids)
      (fun _ => Idle rule) before := by
  cases applyMode with
  | false =>
      refine plain_idle (wp_loop (fun candidate state held => ?_) capturing.preserved)
        capturing.idle
      exact wp_preserved (spares_ask (by simp [OffCaches]) rfl) held
  | true =>
      refine wp_seq (markedApply_idle capturing) fun _ applied idle => ?_
      refine wp_seq (plain_spares_idle (spares_ask (by simp [OffCaches]) rfl) idle)
        fun caches read idle => ?_
      split
      · exact idle
      · exact wp_seq (markedStaleHidden_idle idle) fun result restored idle =>
          plain_spares_idle (spares_ask (by simp [OffCaches]) rfl) idle

theorem cleanUp_kept {interval : Nat} (preserved : Preserved rule before) :
    (admitting rule).wp (Preserved rule) (cleanUp interval graph) (fun _ => Kept rule before)
      before := by
  have restart : ∀ caches state, Steady rule before state →
      caches.snapshots = before.snapshots →
      (admitting rule).wp (Preserved rule) (cleanupDue.restart caches) (fun _ => Kept rule before)
        state := by
    intro caches state held same
    refine wp_seq (wp_steady (spares_ask (by simp [OffCaches]) rfl) held.preserved)
      fun instant timed steady => ?_
    have unchanged := held.trans steady
    refine wp_seq (wp_writeOthers ?_ steady.preserved)
      fun _ after kept => unchanged.kept.trans kept
    exact same.trans unchanged.snapshots.symm
  have cleaning : (admitting rule).wp (Preserved rule) (cleanupDue interval)
      (fun _ => Kept rule before) before := by
    refine wp_seq (wp_readCaches preserved) fun caches middle read => ?_
    obtain ⟨steady, rfl⟩ := read
    cases before.desktop.caches.lastCleanup with
    | none => exact restart _ _ steady rfl
    | some last =>
        refine wp_seq (wp_steady (spares_ask (by simp [OffCaches]) rfl) steady.preserved)
          fun instant timed next => ?_
        split
        · exact (steady.trans next).kept
        · exact restart _ _ (steady.trans next) rfl
  refine wp_seq cleaning fun due after held => ?_
  split
  · exact wp_mono (wp_updateOthers (fun _ => rfl) held.preserved) fun _ _ kept => held.trans kept
  · exact held

section Tick

variable [Unicode] {settings : AppSettings} {rules : LayoutRules}

theorem evaluateTick_kept {core : LayoutSettings} {applyMode : Bool}
    (preserved : Preserved rule before) :
    (admitting rule).wp (Preserved rule) (evaluateTick graph core rules applyMode)
      (fun _ => Kept rule before) before := by
  refine wp_seq (wp_readCaches preserved) fun caches middle read => ?_
  obtain ⟨steady, rfl⟩ := read
  refine wp_seq (wp_writeOthers ?_ steady.preserved) fun _ _ kept => steady.kept.trans kept
  exact steady.snapshots.symm

theorem observeTick_kept (preserved : Preserved rule before) :
    (admitting rule).wp (Preserved rule) (observeTick pids settings rules)
      (fun _ => Kept rule before) before := by
  have asking : ∀ (call : Call) state, Spares call → Kept rule before state →
      (admitting rule).wp (Preserved rule) (ask call) (fun _ => Kept rule before) state := by
    intro call state spares held
    exact wp_mono (wp_steady (Program.only_ask.mpr spares) held.preserved)
      fun _ _ steady => held.trans steady.kept
  have reading : ∀ (call : Call) state, Reads call → Kept rule before state →
      (admitting rule).wp (Preserved rule) (ask call) (fun _ => Kept rule before) state :=
    fun call state reads held => asking call state reads.spares held
  refine wp_seq (reading _ _ rfl ⟨preserved, rfl⟩) fun enabled state held => ?_
  refine wp_seq (reading _ _ rfl held) fun aggressive state held => ?_
  refine wp_seq (reading _ _ rfl held) fun caches state held => ?_
  split
  · exact held
  · refine wp_seq (wp_mono (wp_steady ((buildGraph_reads pids).mono fun _ => Reads.spares)
      held.preserved) fun _ _ steady => held.trans steady.kept) fun graph state held => ?_
    refine wp_seq (reading _ _ rfl held) fun apply state held => ?_
    refine wp_seq (wp_mono (evaluateTick_kept held.preserved) fun _ _ kept => held.trans kept)
      fun evaluation state held => ?_
    refine wp_seq (asking _ _ ⟨by simp [OffCaches], noHide_of_stays rfl⟩ held)
      fun _ state held => ?_
    exact wp_seq (cleanUp_kept held.preserved) fun _ _ kept => held.trans kept

theorem markedTick_idle (capturing : Capturing rule before) :
    (markedDesktop rule).wp (Preserved rule) (markedTick pids settings rules)
      (fun _ => Idle rule) before := by
  refine wp_seq (wp_plain (wp_and (observeTick_kept capturing.preserved) ensures_frame))
    fun finding after facts => ?_
  have stays : Capturing rule after :=
    ⟨facts.1.preserved, capturing.captured.of_same facts.2 facts.1.snapshots⟩
  cases finding with
  | none => exact stays.idle
  | some finding => exact wp_seq (markedActOn_idle stays) fun _ _ idle => idle

/-- A tick from its start. -/
theorem markedTick_preserved {desktop : SharedDesktop}
    (begun : Preserved rule (.begin desktop)) :
    (markedDesktop rule).wp (Preserved rule) (markedTick pids settings rules)
      (fun _ => Idle rule) (.begin desktop) :=
  markedTick_idle ⟨begun, Captured.begin desktop⟩

end Tick

/-- A tick that hides only what it has seen leaves every window covered. -/
theorem Idle.holds (idle : Idle .seen before) : Holds [] before.desktop where
  keyed := idle.preserved.keyed
  covered identity hidden := by
    obtain ⟨due, snap, isOriginal, shows⟩ := idle.preserved.showing rfl identity hidden
    have apart : before.attempt ≠ some identity := by simp [idle.attempt]
    obtain ⟨stored, sameOriginal, found⟩ := idle.preserved.stored nofun identity due apart
    obtain rfl := Option.some.inj (isOriginal.symm.trans sameOriginal)
    exact Or.inl ⟨snap, found, shows⟩

theorem Holds.begun {desktop : SharedDesktop} (holds : Holds [] desktop) :
    Preserved .seen (.begin desktop) :=
  .begin holds.keyed fun _ => holds.covers

def popupMarkedTick : MarkedM Evaluation :=
  letI := asciiLowercase
  markedTick [5] { cacheCleanupIntervalMs := 1000 } LayoutRules.default

end LayoutAdblock.Engine
