import LayoutAdblock.Engine.MarkedTick
import LayoutAdblock.Engine.SharedDesktop

namespace LayoutAdblock.Engine

open LayoutAdblock.Core Interaction Environment

/-! # The record of a tick

Beside the desktop the record says with which snapshots a tick started, what its
capture pass found out about each window, which windows the tick owes a restore
and which one it is restoring.
-/

namespace SharedDesktop

/-- A window with this process and class has the handle. -/
def lives (desktop : SharedDesktop) (identity : WindowIdentity) : Bool :=
  (desktop.windows identity.hwnd).any fun window =>
    decide (window.pid = identity.pid) && decide (window.className = identity.className)

/-- The call hides the visible window of this identity. -/
def hides (desktop : SharedDesktop) (call : Call) (identity : WindowIdentity) : Bool :=
  match call with
  | .showWindow hwnd .hide =>
      decide (hwnd = identity.hwnd) && desktop.lives identity &&
        (desktop.windows hwnd).any Window.visible
  | _ => false

end SharedDesktop

/-- A look of the capture pass at a window, as far as it has got. -/
structure Look where
  identity : WindowIdentity
  /-- The flags were on, and the window was alive with this process and class and
  not hung, whenever the look asked. -/
  orderly : Bool := true
  /-- Its `WS_VISIBLE` was not found clear. -/
  visible : Bool := true
deriving DecidableEq, Repr

namespace Look

/-- An answer that does not keep the engine from the window. -/
def inOrder (identity : WindowIdentity) : (call : Call) → call.Answer → Bool
  | .load .stopping, stopping => !stopping
  | .load .enabled, enabled => enabled
  | .load .apply, apply => apply
  | .isWindow _, alive => alive
  | .getWindowThreadProcessId _, pid => decide (pid = identity.pid)
  | .getClassName _, className => decide (className = identity.className)
  | .isHungAppWindow _, hung => !hung
  | _, _ => true

/-- The call is no look at a window's visibility, or it finds the window visible. -/
def sees : (call : Call) → call.Answer → Bool
  | .hasVisibleStyle _, visible => visible
  | _, _ => true

/-- What is known of a look after one more of its calls. -/
def answered (look : Look) (call : Call) (answer : call.Answer) : Look :=
  { look with
    orderly := look.orderly && inOrder look.identity call answer
    visible := look.visible && sees call answer }

end Look

/-- The desktop with a record of the tick under way: the looks of its capture pass, the
windows it owes a restore with the snapshots they were hidden with, and the restore that is
being tried. -/
structure GuardState where
  desktop : SharedDesktop
  /-- The snapshots when the tick started. -/
  start : Snapshots
  look : Option Look
  /-- Whether the first orderly look of the tick at the window found it visible. -/
  looked : WindowIdentity → Option Bool
  /-- The window had a snapshot when the tick started, or the tick hid it, and
  it has lived since. -/
  owed : WindowIdentity → Bool
  /-- The snapshot of an owed window at the start or when it was hidden. -/
  original : WindowIdentity → Option RestoreSnapshot
  /-- The window that the tick is trying to restore. -/
  attempt : Option WindowIdentity
  restored : WindowIdentity → Bool

namespace GuardState

/-- The snapshots of the engine, within the record. -/
abbrev snapshots (state : GuardState) : Snapshots := state.desktop.caches.snapshots

def begin (desktop : SharedDesktop) : GuardState where
  desktop := desktop
  start := desktop.caches.snapshots
  look := none
  looked _ := none
  owed identity := desktop.lives identity && decide (identity ∈ desktop.caches.snapshots)
  original identity := desktop.caches.snapshots.lookup identity
  attempt := none
  restored _ := false

/-- Which windows the engine has to put back after one more call: those it had to before,
and one that the call has hidden. -/
def owedAfter (before : GuardState) (call : Call) (after : SharedDesktop)
    (identity : WindowIdentity) : Bool :=
  after.lives identity && (before.owed identity || before.desktop.hides call identity)

/-- The snapshot a window is to be put back by, which is the one that was there when it was
first hidden. -/
def originalAfter (before : GuardState) (call : Call) (identity : WindowIdentity) :
    Option RestoreSnapshot :=
  if before.desktop.hides call identity && !before.owed identity then
    before.snapshots.lookup identity
  else before.original identity

/-- The records after a call that leaves this desktop. -/
def called (before : GuardState) (call : Call) (answer : call.Answer) (after : SharedDesktop) :
    GuardState :=
  { before with
    desktop := after
    look := before.look.map fun look => look.answered call answer
    owed := before.owedAfter call after
    original := before.originalAfter call }

/-- The first orderly look at a window is the one that is kept. -/
def lookedAfter (state : GuardState) (look : Look) : WindowIdentity → Option Bool :=
  if look.orderly && (state.looked look.identity).isNone then
    Function.update state.looked look.identity (some look.visible)
  else state.looked

/-- What a mark adds to the record: a look begins or ends, a restore begins, or it has
ended. -/
def see : Mark → GuardState → GuardState
  | .looking identity, state => { state with look := some { identity := identity } }
  | .looked _, state =>
      { state with
        look := none
        looked := (state.look.map state.lookedAfter).getD state.looked }
  | .started identity, state => { state with attempt := some identity }
  | .ended identity .restored, state =>
      { state with
        attempt := none
        restored := fun other => decide (other = identity) || state.restored other }
  | .ended _ _, state => { state with attempt := none }
  | _, state => state

/-- The window must be given back by a later tick: the engine has hidden it and has not
restored it in this one. -/
def Due (state : GuardState) (identity : WindowIdentity) : Prop :=
  state.owed identity = true ∧ state.restored identity = false

/-- The original snapshot of the window is in the caches. -/
def Stored (state : GuardState) (identity : WindowIdentity) : Prop :=
  ∃ snap, state.original identity = some snap ∧ state.snapshots.lookup identity = some snap

end GuardState

open GuardState

/-- The shared desktop, with the records of the tick: what was looked at, what is owed, and
which restore is under way. -/
def recordedDesktop : Environment Call Call.Answer GuardState where
  step call before answer after :=
    sharedDesktop.step call before.desktop answer after.desktop ∧
      after = before.called call answer after.desktop

/-- What is known of a visible window that a tick hides: nothing; that it had a
snapshot when the tick started or an orderly look of the capture pass; or that
the snapshot, or else the first orderly look, is of a visible window. -/
inductive HideRule where
  | any | looked | seen
deriving DecidableEq, Repr

/-- The window may be hidden under this rule, by what is known of it from the start of the
tick or from its look. -/
def HideRule.admits (rule : HideRule) (state : GuardState) (identity : WindowIdentity) : Bool :=
  match rule, state.start.lookup identity with
  | .any, _ | .looked, some _ => true
  | .looked, none => (state.looked identity).isSome
  | .seen, some snap => snap.wasVisible
  | .seen, none => state.looked identity == some true

/-- Every hide of a visible window is admitted by the rule. -/
def hideAdmitted (rule : HideRule) (call : Call) (state : GuardState) : Bool :=
  match call with
  | .showWindow hwnd .hide =>
      (state.desktop.windows hwnd).all fun window =>
        !window.visible || rule.admits state
          { hwnd := hwnd, pid := window.pid, className := window.className }
  | _ => true

/-- The runs in which the rule admits every hide of a visible window. -/
abbrev admitting (rule : HideRule) : Environment Call Call.Answer GuardState :=
  recordedDesktop.restrict fun call state => hideAdmitted rule call state = true

/-- The marked programs, in the runs that a rule admits. -/
abbrev markedDesktop (rule : HideRule) :
    Environment (MarkedOp Call Mark) (MarkedAnswer Call.Answer) GuardState :=
  (admitting rule).marked GuardState.see

variable {rule : HideRule} {before after : GuardState} {call : Call} {answer : call.Answer}
  {identity : WindowIdentity}

theorem hideAdmitted_any (call : Call) (state : GuardState) :
    hideAdmitted .any call state = true := by
  unfold hideAdmitted
  split
  · cases state.desktop.windows _ with
    | none => rfl
    | some window => simp [HideRule.admits]
  · rfl

/-- Every run of a program is a run with the records of a tick. -/
theorem runs_recorded {α : Type} {program : MarkedM α} {start : GuardState} {value : α}
    {finish : SharedDesktop} (run : sharedDesktop.Runs program.erase start.desktop value finish) :
    ∃ last, (markedDesktop .any).Runs program start value last ∧ last.desktop = finish := by
  refine runs_of_erase (fun what state => ?_) (fun call before answer after step => ?_) run
  · cases what with
    | ended identity result => cases result <;> rfl
    | _ => rfl
  · exact ⟨before.called call answer after, ⟨hideAdmitted_any call before, step, rfl⟩, rfl⟩

theorem hides_of_noHide {desktop : SharedDesktop} (noHide : NoHide call)
    (identity : WindowIdentity) : desktop.hides call identity = false := by
  unfold SharedDesktop.hides
  split
  · exact absurd rfl (noHide _)
  · rfl

/-- The rule admits the window that the call hides. -/
theorem admits_of_hides (admitted : hideAdmitted rule call before = true)
    (hides : before.desktop.hides call identity = true) :
    rule.admits before identity = true := by
  unfold SharedDesktop.hides at hides
  split at hides
  · rename_i hwnd
    simp only [Bool.and_eq_true, decide_eq_true_eq, SharedDesktop.lives] at hides
    obtain ⟨⟨rfl, lives⟩, visible⟩ := hides
    obtain ⟨window, found, same⟩ := (Option.any_eq_true _ _).mp lives
    simp only [Bool.and_eq_true, decide_eq_true_eq] at same
    simp only [hideAdmitted, found, Option.all_some, Option.any_some] at admitted visible
    rw [same.1, same.2] at admitted
    simpa [visible] using admitted
  · cases hides

theorem lives_of_hidden {desktop : SharedDesktop} (hidden : desktop.HiddenAs identity) :
    desktop.lives identity = true := by
  obtain ⟨_, window, found, samePid, sameClass⟩ := hidden
  simp [SharedDesktop.lives, found, samePid, sameClass]

/-- A call adds a window to what the engine hid by hiding it. -/
theorem hidden_of_step (step : (admitting rule).step call before answer after)
    (hidden : after.desktop.HiddenAs identity) :
    before.desktop.HiddenAs identity ∨ before.desktop.hides call identity = true := by
  refine (SharedDesktop.HiddenAs.of_step step.2.1 hidden).imp_right fun hides => ?_
  obtain ⟨rfl, window, found, visible, samePid, sameClass⟩ := hides
  simp [SharedDesktop.hides, SharedDesktop.lives, found, visible, samePid, sameClass]

theorem owed_of_step (step : (admitting rule).step call before answer after) :
    after.owed = before.owedAfter call after.desktop := congrArg GuardState.owed step.2.2

theorem original_of_step (step : (admitting rule).step call before answer after) :
    after.original = before.originalAfter call := congrArg GuardState.original step.2.2

theorem attempt_of_step (step : (admitting rule).step call before answer after) :
    after.attempt = before.attempt :=
  (congrArg GuardState.attempt step.2.2).trans rfl

theorem restored_of_step (step : (admitting rule).step call before answer after) :
    after.restored = before.restored :=
  (congrArg GuardState.restored step.2.2).trans rfl

theorem look_of_step (step : (admitting rule).step call before answer after) :
    after.look = before.look.map fun look => look.answered call answer :=
  congrArg GuardState.look step.2.2

/-- Only a hide adds to what is due. -/
theorem due_of_step (step : (admitting rule).step call before answer after)
    (hides : before.desktop.hides call identity = false) (later : after.Due identity) :
    before.Due identity := by
  obtain ⟨isOwed, pending⟩ := later
  rw [restored_of_step step] at pending
  rw [owed_of_step step, owedAfter, hides, Bool.or_false, Bool.and_eq_true] at isOwed
  exact ⟨isOwed.2, pending⟩

/-- What no call changes. -/
structure Frame (before after : GuardState) : Prop where
  start : after.start = before.start
  looked : after.looked = before.looked
  attempt : after.attempt = before.attempt
  restored : after.restored = before.restored

theorem Frame.refl (state : GuardState) : Frame state state :=
  ⟨rfl, rfl, rfl, rfl⟩

theorem Frame.trans {middle : GuardState} (first : Frame before middle)
    (second : Frame middle after) : Frame before after where
  start := second.start.trans first.start
  looked := second.looked.trans first.looked
  attempt := second.attempt.trans first.attempt
  restored := second.restored.trans first.restored

theorem frame_of_step (step : (admitting rule).step call before answer after) :
    Frame before after where
  start := (congrArg GuardState.start step.2.2).trans rfl
  looked := (congrArg GuardState.looked step.2.2).trans rfl
  attempt := attempt_of_step step
  restored := restored_of_step step

theorem ensures_frame {α : Type} {program : EngineM α} :
    (admitting rule).ensures program (fun _ => Frame before) before :=
  ensures_of_step (Frame before) program.only_true
    (fun _ _ _ _ _ frame step => frame.trans (frame_of_step step)) (Frame.refl before)

/-- A handler of the desktop, beside which the record is kept. -/
def recordedBy (handler : (call : Call) → SharedDesktop → call.Answer × SharedDesktop) :
    (op : MarkedOp Call Mark) → GuardState → MarkedAnswer Call.Answer op × GuardState
  | .call call, state =>
      let result := handler call state.desktop
      (result.1, state.called call result.1 result.2)
  | .mark what, state => ((), GuardState.see what state)

/-- The same of a program with marks, which none of them are. -/
def allowsMarked (rule : HideRule) : MarkedOp Call Mark → GuardState → Bool
  | .call call, state => hideAdmitted rule call state
  | .mark _, _ => true

theorem recordedBy_realizes
    {handler : (call : Call) → SharedDesktop → call.Answer × SharedDesktop}
    (realizes : ∀ call desktop,
      sharedDesktop.step call desktop (handler call desktop).1 (handler call desktop).2)
    (op : MarkedOp Call Mark) (state : GuardState) (allowed : allowsMarked rule op state = true) :
    (markedDesktop rule).step op state (recordedBy handler op state).1
      (recordedBy handler op state).2 := by
  cases op with
  | call call => exact ⟨allowed, realizes call state.desktop, rfl⟩
  | mark what => rfl

end LayoutAdblock.Engine
