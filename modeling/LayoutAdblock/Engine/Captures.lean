import LayoutAdblock.Engine.TickInvariant

namespace LayoutAdblock.Engine

open LayoutAdblock.Core Interaction Environment
open Marked (plain mark)
open GuardState

/-! # The capture pass and the hide pass

The capture pass gives every window that it looks at in an orderly way a
snapshot, unless it has one.  So a window that the hide pass hides has the
snapshot that the rule of the run promises.
-/

variable {rule : HideRule} {before after : GuardState} {call : Call} {answer : call.Answer}
  {identity : WindowIdentity} {graph : WindowGraph} {pids : List Pid} {hwnd : Hwnd}

/-- Up to the last hide of a tick its snapshots are those it started with and
those of its orderly looks. -/
structure Captured (state : GuardState) : Prop where
  attempt : state.attempt = none
  pending : ∀ identity, state.restored identity = false
  kept : ∀ identity snap, state.start.lookup identity = some snap →
    state.snapshots.lookup identity = some snap
  looked : ∀ identity visible, state.looked identity = some visible →
    ∃ snap, state.snapshots.lookup identity = some snap ∧
      (state.start.lookup identity = none → snap.wasVisible = visible)
  fresh : ∀ identity, state.looked identity = none →
    state.snapshots.lookup identity = state.start.lookup identity

theorem Captured.begin (desktop : SharedDesktop) : Captured (GuardState.begin desktop) where
  attempt := rfl
  pending _ := rfl
  kept _ _ found := found
  looked _ _ found := nomatch found
  fresh _ _ := rfl

theorem Captured.of_same (captured : Captured before) (frame : Frame before after)
    (same : after.snapshots = before.snapshots) : Captured after := by
  refine ⟨frame.attempt.trans captured.attempt, ?_, ?_, ?_, ?_⟩
  · rw [frame.restored]
    exact captured.pending
  · rw [frame.start, same]
    exact captured.kept
  · rw [frame.start, frame.looked, same]
    exact captured.looked
  · rw [frame.start, frame.looked, same]
    exact captured.fresh

/-- What the rule asks of a hide, the caches have. -/
theorem Captured.entered {state : GuardState} (captured : Captured state)
    (admits : rule.admits state identity = true) : Entered rule state identity := by
  refine ⟨captured.pending identity, by simp [captured.attempt], fun known => ?_⟩
  unfold HideRule.admits at admits
  cases found : state.start.lookup identity with
  | some snap =>
      refine ⟨snap, captured.kept identity snap found, fun seen => ?_⟩
      simpa only [seen, found] using admits
  | none =>
      have isLooked : ∃ visible, state.looked identity = some visible ∧
          (rule = .seen → visible = true) := by
        rw [found] at admits
        cases rule with
        | any => exact absurd rfl known
        | looked =>
            obtain ⟨visible, isVisible⟩ := Option.isSome_iff_exists.mp admits
            exact ⟨visible, isVisible, nofun⟩
        | seen => exact ⟨true, beq_iff_eq.mp admits, fun _ => rfl⟩
      obtain ⟨visible, looked, shows⟩ := isLooked
      obtain ⟨snap, stored, same⟩ := captured.looked identity visible looked
      exact ⟨snap, stored, fun seen => (same found).trans (shows seen)⟩

/-- What the capture pass and the hide pass preserve. -/
structure Capturing (rule : HideRule) (state : GuardState) : Prop where
  preserved : Preserved rule state
  captured : Captured state

theorem Capturing.step (capturing : Capturing rule before) (off : OffCaches call)
    (step : (admitting rule).step call before answer after) : Capturing rule after := by
  refine ⟨capturing.preserved.step off (fun identity hides => ?_) step, ?_⟩
  · exact capturing.captured.entered (admits_of_hides step.1 hides)
  · refine capturing.captured.of_same (frame_of_step step) ?_
    rw [GuardState.snapshots, (step_caches step.2.1).unchanged off]

theorem hidePass_capturing {hide : List Hwnd} (capturing : Capturing rule before) :
    (admitting rule).wp (Preserved rule) (Program.forEach (hideWindow graph pids) hide)
      (fun _ => Capturing rule) before := by
  have off : (Program.forEach (hideWindow graph pids) hide).Only OffCaches :=
    Program.Only.forEach (fun hwnd => prechecked_only (fun _ => Reads.offCaches)
      ((hideVisible_calls hwnd).mono fun _ => PlaceCall.off)) _
  exact wp_of_step off (fun _ _ _ _ _ torn => torn.2.elim)
    (fun _ _ _ _ off held step => held.step off step) (fun _ held => held.preserved) capturing

theorem ask_looks {orderly visible : Bool}
    (look : before.look = some { identity, orderly, visible }) (call : Call) :
    (admitting rule).ensures (ask call)
      (fun answer after => after.look =
        some (({ identity, orderly, visible } : Look).answered call answer)) before := by
  refine ensures_ask.mpr fun answer after step => ?_
  rw [look_of_step step, look]
  rfl

theorem flagsAllow_looks (look : before.look = some { identity }) :
    (admitting rule).ensures flagsAllow
      (fun allowed after => after.look = some { identity, orderly := allowed }) before := by
  refine ensures_seq (ask_looks look (.load .stopping)) fun stopping middle look => ?_
  cases stopping with
  | true => exact look
  | false =>
      refine ensures_seq (ask_looks look (.load .enabled)) fun enabled later look => ?_
      cases enabled with
      | false => exact look
      | true => exact ensures_seq (ask_looks look (.load .apply)) fun apply last look => look

theorem identityMatches_looks (look : before.look = some { identity }) :
    (admitting rule).ensures (identityMatches identity)
      (fun same after => after.look = some { identity, orderly := same }) before := by
  refine ensures_seq (ask_looks look (.isWindow identity.hwnd)) fun alive middle look => ?_
  cases alive with
  | false => exact look
  | true =>
      refine ensures_seq (ask_looks look (.getWindowThreadProcessId identity.hwnd))
        fun pid later look => ?_
      change later.look = some { identity, orderly := decide (pid = identity.pid) } at look
      by_cases samePid : pid = identity.pid
      · rw [if_neg (not_not.mpr samePid)]
        rw [decide_eq_true samePid] at look
        exact ensures_seq (ask_looks look (.getClassName identity.hwnd)) fun _ _ look => look
      · rw [if_pos samePid]
        rw [decide_eq_false samePid] at look
        exact look

theorem targetIdentity_some (target : targetIdentity graph pids hwnd = some identity) :
    ∃ node, graph.get hwnd = some node ∧ pids.contains node.pid = true ∧
      node.identity = identity := by
  obtain ⟨node, kept, same⟩ := Option.map_eq_some_iff.mp target
  obtain ⟨found, wanted⟩ := Option.filter_eq_some_iff.mp kept
  exact ⟨node, found, wanted, same⟩

/-- The check of a window passes exactly when the look at it is orderly. -/
theorem precheck_looks (target : targetIdentity graph pids hwnd = some identity)
    (look : before.look = some { identity }) :
    (admitting rule).ensures (precheck graph pids hwnd)
      (fun checked after => after.look = some { identity, orderly := checked }) before := by
  obtain ⟨node, found, wanted, rfl⟩ := targetIdentity_some target
  refine ensures_seq (flagsAllow_looks look) fun allowed middle look => ?_
  cases allowed with
  | false => exact look
  | true =>
      simp only [found, wanted, Bool.not_true, Bool.false_eq_true, if_false]
      refine ensures_seq (identityMatches_looks look) fun same later look => ?_
      cases same with
      | false => exact look
      | true => exact ensures_seq (ask_looks look (.isHungAppWindow hwnd)) fun _ _ look => look

/-- A handle that names no window of KakaoTalk does not pass the check. -/
theorem precheck_refuses (target : targetIdentity graph pids hwnd = none) :
    (admitting rule).ensures (precheck graph pids hwnd) (fun checked _ => checked = false)
      before := by
  refine ensures_seq ensures_trivial fun allowed middle _ => ?_
  cases allowed with
  | false => rfl
  | true =>
      cases found : graph.get hwnd with
      | none => rfl
      | some node =>
          have unwanted : pids.contains node.pid = false := by
            simpa [targetIdentity, found, Option.filter] using target
          simp only [unwanted, Bool.not_false, if_true]
          rfl

/-- The style of the window has been read in this look. -/
def Look.read (visible : Bool) (look : Look) : Look :=
  { look with visible := look.visible && visible }

/-- A window keeps the snapshot that it has, and gets one otherwise, in which case the look
under way is told the visibility that the snapshot records. -/
inductive Remembers (identity : WindowIdentity) (before after : GuardState) : Prop where
  | kept (member : identity ∈ before.snapshots) (same : after.snapshots = before.snapshots)
      (look : after.look = before.look)
  | entered (snap : RestoreSnapshot) (missing : identity ∉ before.snapshots)
      (inserted : after.snapshots = before.snapshots.insert identity snap)
      (look : after.look = before.look.map (Look.read snap.wasVisible))

/-- A call that has nothing to do with a look. -/
theorem look_of_silent (step : (admitting rule).step call before answer after)
    (silent : ∀ look : Look, look.answered call answer = look) : after.look = before.look := by
  rw [look_of_step step]
  cases before.look with
  | none => rfl
  | some look => exact congrArg some (silent look)

theorem silent_caches (look : Look) {call : Call} {answer : call.Answer}
    (inOrder : Look.inOrder look.identity call answer = true)
    (sees : Look.sees call answer = true) : look.answered call answer = look := by
  simp only [Look.answered, inOrder, sees, Bool.and_true]

theorem modifySnapshots_silent (change : Snapshots → Snapshots) :
    (admitting rule).ensures (modifySnapshots change) (fun _ after => after.look = before.look)
      before := by
  have reading : (admitting rule).ensures (ask .readCaches)
      (fun _ middle => middle.look = before.look) before :=
    ensures_ask.mpr fun _ _ step => look_of_silent step fun look => silent_caches look rfl rfl
  refine ensures_seq reading fun caches middle same => ensures_ask.mpr fun _ after step => ?_
  have silent : after.look = middle.look :=
    look_of_silent step fun look => silent_caches look rfl rfl
  exact silent.trans same

theorem captureSnapshot_looks {node : WindowNode} (found : graph.get hwnd = some node)
    (preserved : Preserved rule before) :
    (admitting rule).wp (Preserved rule) (captureSnapshot graph hwnd)
      (fun captured after => Steady rule before after ∧ ∃ snap, captured = some snap ∧
        snap.identity = node.identity ∧
          after.look = before.look.map (Look.read snap.wasVisible)) before := by
  simp only [captureSnapshot, found]
  refine wp_seq (wp_call (Reads.spares rfl) preserved fun visible middle step steady =>
    (⟨steady, look_of_step step⟩ : Steady rule before middle ∧ _)) fun visible middle seen => ?_
  refine wp_seq (wp_call (Reads.spares rfl) seen.1.preserved fun rect after step steady =>
    (⟨seen.1.trans steady, look_of_silent step fun look => silent_caches look rfl rfl⟩ :
      Steady rule before after ∧ after.look = middle.look)) fun rect after read => ?_
  refine ⟨read.1, _, rfl, rfl, ?_⟩
  rw [read.2, seen.2]
  congr 1
  funext look
  simp [Look.answered, Look.read, Look.inOrder, Look.sees]

theorem rememberSnapshot_remembers (preserved : Preserved rule before) :
    (admitting rule).wp (Preserved rule) (rememberSnapshot graph hwnd)
      (fun _ after => Preserved rule after ∧ ∀ node, graph.get hwnd = some node →
        Remembers node.identity before after) before := by
  unfold rememberSnapshot
  cases found : graph.get hwnd with
  | none => exact ⟨preserved, fun node same => by cases same⟩
  | some node =>
      refine wp_seq (wp_call (Reads.spares rfl) preserved fun caches middle step steady =>
        (⟨steady, (step_caches step.2.1).1,
          look_of_silent step fun look => silent_caches look rfl rfl⟩ :
          Steady rule before middle ∧ caches = before.desktop.caches ∧
            middle.look = before.look)) fun caches middle read => ?_
      obtain ⟨steady, rfl, look⟩ := read
      split
      · rename_i member
        refine ⟨steady.preserved, fun other same => ?_⟩
        rw [← Option.some.inj same]
        exact .kept member steady.snapshots look
      · rename_i missing
        refine wp_seq (captureSnapshot_looks found steady.preserved) fun captured later facts => ?_
        obtain ⟨next, snap, rfl, own, read⟩ := facts
        have same : later.snapshots = before.snapshots :=
          next.snapshots.trans steady.snapshots
        have absent : snap.identity ∉ later.snapshots := by rwa [own, same]
        refine wp_mono (wp_and (insert_new next.preserved absent) (modifySnapshots_silent _))
          fun _ after held => ?_
        refine ⟨held.1.1, fun other isOther => ?_⟩
        obtain rfl := Option.some.inj isOther
        refine .entered snap missing ?_ ?_
        · rw [held.1.2, same, own]
        · rw [held.2, read, look]

/-- What a look at a window leaves behind. One that was not orderly stores nothing, and an
orderly one leaves the window with the snapshot it had or with a new one. -/
inductive Looked (identity : WindowIdentity) (before after : GuardState) : Prop where
  | disorderly (look : after.look = some { identity, orderly := false })
      (same : after.snapshots = before.snapshots)
  | kept (look : after.look = some { identity }) (member : identity ∈ before.snapshots)
      (same : after.snapshots = before.snapshots)
  | entered (snap : RestoreSnapshot)
      (look : after.look = some { identity, visible := snap.wasVisible })
      (missing : identity ∉ before.snapshots)
      (inserted : after.snapshots = before.snapshots.insert identity snap)

theorem captureWindow_looks (target : targetIdentity graph pids hwnd = some identity)
    (look : before.look = some { identity }) (preserved : Preserved rule before) :
    (admitting rule).wp (Preserved rule) (captureWindow graph pids hwnd)
      (fun _ after => Preserved rule after ∧ Looked identity before after) before := by
  have checking := wp_and (wp_steady ((precheck_reads graph pids hwnd).mono fun _ => Reads.spares)
    preserved) (precheck_looks target look)
  obtain ⟨node, found, _, rfl⟩ := targetIdentity_some target
  refine wp_seq checking fun checked middle facts => ?_
  obtain ⟨steady, look⟩ := facts
  cases checked with
  | false => exact ⟨steady.preserved, .disorderly look steady.snapshots⟩
  | true =>
      refine wp_mono (rememberSnapshot_remembers steady.preserved) fun _ after held => ?_
      refine ⟨held.1, ?_⟩
      cases held.2 node found with
      | kept member same unread =>
          exact .kept (unread.trans look) (steady.snapshots ▸ member) (same.trans steady.snapshots)
      | entered snap missing inserted read =>
          rw [look] at read
          exact .entered snap read (steady.snapshots ▸ missing) (steady.snapshots ▸ inserted)

theorem Preserved.see_look {what : Mark} (preserved : Preserved rule before)
    (looks : what = .looking identity ∨ what = .looked identity) :
    Preserved rule (GuardState.see what before) := by
  rcases looks with rfl | rfl
  · exact ⟨preserved.keyed, preserved.lives, preserved.stored, preserved.showing⟩
  · exact ⟨preserved.keyed, preserved.lives, preserved.stored, preserved.showing⟩

/-- An orderly look is recorded once the window has its snapshot. -/
theorem Captured.record {visible : Bool} (captured : Captured before)
    (frame : Frame before after) (look : after.look = some { identity, visible })
    (others : ∀ other, other ≠ identity →
      after.snapshots.lookup other = before.snapshots.lookup other)
    (kept : ∀ snap, before.snapshots.lookup identity = some snap →
      after.snapshots.lookup identity = some snap)
    (entry : before.looked identity = none → ∃ snap,
      after.snapshots.lookup identity = some snap ∧
        (before.start.lookup identity = none → snap.wasVisible = visible)) :
    Captured (GuardState.see (.looked identity) after) := by
  have looked : (GuardState.see (.looked identity) after).looked =
      if (before.looked identity).isNone then
        Function.update before.looked identity (some visible)
      else before.looked := by
    simp only [GuardState.see, look, Option.map_some, Option.getD_some, lookedAfter, frame.looked,
      Bool.true_and]
  have same : ∀ other, other ≠ identity →
      (GuardState.see (.looked identity) after).looked other = before.looked other := by
    intro other differs
    rw [looked]
    split
    · exact Function.update_of_ne differs _ _
    · rfl
  have start : (GuardState.see (.looked identity) after).start = before.start := frame.start
  have snapshots : (GuardState.see (.looked identity) after).snapshots = after.snapshots := rfl
  refine ⟨frame.attempt.trans captured.attempt, ?_, fun other snap found => ?_,
    fun other shown isLooked => ?_, fun other unlooked => ?_⟩
  · intro other
    exact (congrFun frame.restored other).trans (captured.pending other)
  · rw [start] at found
    have earlier := captured.kept other snap found
    by_cases own : other = identity
    · subst own
      exact kept snap earlier
    · exact (others other own).trans earlier
  · rw [start, snapshots]
    by_cases own : other = identity
    · subst own
      cases earlier : before.looked other with
      | none =>
          rw [looked, earlier, Option.isNone_none, if_pos rfl, Function.update_self] at isLooked
          obtain rfl := Option.some.inj isLooked
          exact entry earlier
      | some already =>
          rw [looked, earlier, Option.isNone_some, if_neg (by simp), earlier] at isLooked
          obtain rfl := Option.some.inj isLooked
          obtain ⟨snap, stored, right⟩ := captured.looked other already earlier
          exact ⟨snap, kept snap stored, right⟩
    · rw [same other own] at isLooked
      obtain ⟨snap, stored, right⟩ := captured.looked other shown isLooked
      exact ⟨snap, (others other own).trans stored, right⟩
  · rw [start, snapshots]
    by_cases own : other = identity
    · subst own
      rw [looked] at unlooked
      split at unlooked
      · rw [Function.update_self] at unlooked
        cases unlooked
      · rename_i isLooked
        rw [unlooked] at isLooked
        exact absurd rfl isLooked
    · rw [same other own] at unlooked
      exact (others other own).trans (captured.fresh other unlooked)

theorem Captured.after_look (captured : Captured before) (frame : Frame before after)
    (looks : Looked identity before after) :
    Captured (GuardState.see (.looked identity) after) := by
  cases looks with
  | disorderly look same =>
      refine captured.of_same ⟨frame.start, ?_, frame.attempt, frame.restored⟩ same
      simp [GuardState.see, look, lookedAfter, frame.looked]
  | kept look member same =>
      refine captured.record frame look (fun other _ => by rw [same])
        (fun snap found => by rw [same, found]) fun unlooked => ?_
      obtain ⟨snap, found⟩ := Option.isSome_iff_exists.mp (AList.lookup_isSome.mpr member)
      refine ⟨snap, by rw [same, found], fun fresh => ?_⟩
      rw [captured.fresh identity unlooked, fresh] at found
      cases found
  | entered snap look missing inserted =>
      refine captured.record frame look (fun other differs => ?_) (fun found isFound => ?_)
        fun _ => ⟨snap, ?_, fun _ => rfl⟩
      · rw [inserted, AList.lookup_insert_ne differs]
      · exact absurd (AList.lookup_isSome.mp (Option.isSome_of_eq_some isFound)) missing
      · rw [inserted, AList.lookup_insert]

theorem markedCapture_capturing (capturing : Capturing rule before) :
    (markedDesktop rule).wp (Preserved rule) (markedCapture graph pids hwnd)
      (fun _ => Capturing rule) before := by
  unfold markedCapture
  cases target : targetIdentity graph pids hwnd with
  | none =>
      refine wp_plain (wp_seq (wp_and (wp_and (wp_steady ((precheck_reads graph pids hwnd).mono
        fun _ => Reads.spares) capturing.preserved) ensures_frame) (precheck_refuses target))
          fun checked after facts => ?_)
      obtain ⟨⟨steady, frame⟩, rfl⟩ := facts
      exact ⟨steady.preserved, capturing.captured.of_same frame steady.snapshots⟩
  | some identity =>
      have starts : Preserved rule (GuardState.see (.looking identity) before) :=
        capturing.preserved.see_look (Or.inl rfl)
      have marks : (markedDesktop rule).wp (Preserved rule) (mark (.looking identity))
          (fun _ after => after = GuardState.see (.looking identity) before) before :=
        wp_mark starts rfl
      refine wp_seq marks fun _ looking isLooking => ?_
      subst isLooking
      have looks := wp_and (captureWindow_looks target rfl starts) ensures_frame
      refine wp_seq (wp_plain looks) fun _ after facts => ?_
      obtain ⟨⟨preserved, looked⟩, frame⟩ := facts
      have begun : Captured (GuardState.see (.looking identity) before) :=
        capturing.captured.of_same ⟨rfl, rfl, rfl, rfl⟩ rfl
      have ends : Preserved rule (GuardState.see (.looked identity) after) :=
        preserved.see_look (Or.inr rfl)
      exact wp_mark ends ⟨ends, begun.after_look frame looked⟩

theorem capturePass_capturing {targets : List Hwnd} (capturing : Capturing rule before) :
    (markedDesktop rule).wp (Preserved rule) (Program.forEach (markedCapture graph pids) targets)
      (fun _ => Capturing rule) before :=
  wp_loop (fun _ _ held => markedCapture_capturing held) capturing

end LayoutAdblock.Engine
