import LayoutAdblock.Engine.WorkerLoop

namespace LayoutAdblock.Engine

open LayoutAdblock.Core Interaction

/-! # The parts of a survey

One walk over the parts of a survey says which calls each of them makes and what it
leaves of the loop's variables, whatever it is answered.  What is proved about the clock,
the waits and the hook takes it from here.
-/

/-- A call that neither waits nor ticks.  It takes as long as the system takes for it and
is not one of the actions of the loop. -/
def Untimed : LoopCall → Prop
  | .wait _ | .guardedTick _ => False
  | _ => True

/-- The call has nothing to do with the runtime of the hook, nor with what it is for. -/
def LoopCall.Apart : LoopCall → Prop
  | .install _ | .remove | .hooked | .scan | .watch _ | .wait _ => False
  | _ => True

/-- Most parts of a survey only load flags, look at the clock, publish or drain. -/
def LoopCall.Plain (call : LoopCall) : Prop := Untimed call ∧ call.Apart

variable {settings : Config.AppSettings} {state : LoopState}

/-- Events and bursts only come in, and the cadence is left alone.  Neither the flags nor
the time of the last tick change, a pending event stays pending, and the burst that is left
is what it was, or a whole one. -/
structure Onward (settings : Config.AppSettings) (before after : LoopState) : Prop where
  enabled : after.wasEnabled = before.wasEnabled
  aggressive : after.wasAggressive = before.wasAggressive
  full : after.lastFull = before.lastFull
  pending : before.pendingEvent = true → after.pendingEvent = true
  burst : after.burstLeft = before.burstLeft ∨ after.burstLeft = burstScans settings

theorem Onward.refl : Onward settings state state :=
  ⟨rfl, rfl, rfl, fun pending => pending, Or.inl rfl⟩

theorem Onward.trans {first second third : LoopState} (left : Onward settings first second)
    (right : Onward settings second third) : Onward settings first third where
  enabled := right.enabled.trans left.enabled
  aggressive := right.aggressive.trans left.aggressive
  full := right.full.trans left.full
  pending := fun pending => right.pending (left.pending pending)
  burst := by
    cases right.burst with
    | inr reset => exact Or.inr reset
    | inl same =>
        rw [same]
        exact left.burst

/-- The processes found last and those the hook is for are left alone as well. -/
structure PidsKept (settings : Config.AppSettings) (before after : LoopState) : Prop extends
    Onward settings before after where
  pids : after.cachedPids = before.cachedPids
  hookPids : after.hookPids = before.hookPids

theorem PidsKept.refl : PidsKept settings state state :=
  { Onward.refl with pids := rfl, hookPids := rfl }

/-- A drained event waits for a tick, and a follow-up starts a burst. -/
structure Heard (settings : Config.AppSettings) (events : List WindowEvent)
    (state : LoopState) : Prop where
  pending : events ≠ [] → state.pendingEvent = true
  burst : events.any WindowEvent.followUp = true → state.burstLeft = burstScans settings

/-- One call, and what is done with its answer. -/
theorem does_request {α : Type} {allowed : LoopCall → Prop} {ends : α → Prop} {call : LoopCall}
    {rest : call.Answer → LoopM α} (allows : allowed call)
    (goes : ∀ answer, (rest answer).Does allowed ends) :
    (request call >>= rest).Does allowed ends :=
  ⟨allows, goes⟩

theorem untimed_of_plain {α : Type} {program : LoopM α} (only : program.Only LoopCall.Plain) :
    program.Only Untimed :=
  only.mono fun _ plain => plain.1

theorem untimed_does {α : Type} {program : LoopM α} {ends : α → Prop}
    (does : program.Does LoopCall.Plain ends) : program.Does Untimed ends :=
  does.mono (fun _ plain => plain.1) fun _ fits => fits

theorem elapsed_plain (since : Instant) : (elapsed since).Only LoopCall.Plain :=
  ⟨⟨trivial, trivial⟩, fun _ => trivial⟩

theorem sinceFull_plain : state.sinceFull.Only LoopCall.Plain :=
  ⟨⟨trivial, trivial⟩, fun _ => trivial⟩

theorem publishWhen_plain (condition : Bool) (what : Published) :
    (publishWhen condition what).Only LoopCall.Plain := by
  cases condition with
  | true => exact ⟨⟨trivial, trivial⟩, fun _ => trivial⟩
  | false => trivial

theorem scanDue_plain (interval : Nat) : (scanDue state interval).Only LoopCall.Plain := by
  unfold scanDue
  cases state.lastPidScan with
  | none => trivial
  | some scanned => exact (elapsed_plain scanned).bind fun _ => trivial

theorem activeNow_plain : (activeNow state).Only LoopCall.Plain := by
  unfold activeNow
  cases state.lastEventAt with
  | none => trivial
  | some event => exact (elapsed_plain event).bind fun _ => trivial

theorem noteReset_kept (settings : Config.AppSettings) :
    (noteReset state).Does LoopCall.Plain (PidsKept settings state) := by
  apply does_request ⟨trivial, trivial⟩
  intro reset
  cases reset with
  | false => exact PidsKept.refl
  | true => exact does_request ⟨trivial, trivial⟩ fun _ => { PidsKept.refl with }

theorem noteFlags_kept :
    (noteFlags state).Does LoopCall.Plain fun next =>
      next.cachedPids = state.cachedPids ∧ next.hookPids = state.hookPids := by
  apply does_request ⟨trivial, trivial⟩
  intro enabled
  apply does_request ⟨trivial, trivial⟩
  intro aggressive
  cases state.changed enabled aggressive with
  | false => exact ⟨rfl, rfl⟩
  | true => exact does_request ⟨trivial, trivial⟩ fun _ => ⟨rfl, rfl⟩

theorem rescan_onward (settings : Config.AppSettings) :
    (rescan state).Does Untimed fun next =>
      Onward settings state next ∧ next.hookPids = state.hookPids := by
  apply does_request trivial
  intro found
  cases found with
  | none => exact does_request trivial fun _ => ⟨{ Onward.refl with }, rfl⟩
  | some found =>
      apply (untimed_of_plain (publishWhen_plain _ _)).does.bind
      intro _ _
      exact does_request trivial fun _ => ⟨{ Onward.refl with }, rfl⟩

theorem scanPids_onward :
    (scanPids settings state).Does Untimed fun result =>
      Onward settings state result.1 ∧ result.1.hookPids = state.hookPids := by
  apply does_request trivial
  intro alive
  apply (untimed_of_plain (elapsed_plain _)).does.bind
  intro absentFor _
  apply (untimed_of_plain (scanDue_plain _)).does.bind
  intro due _
  cases due with
  | false => exact ⟨Onward.refl, rfl⟩
  | true =>
      apply (rescan_onward settings).bind
      intro next facts
      exact does_request trivial fun instant => ⟨{ facts.1 with }, facts.2⟩

theorem notePresence_kept (settings : Config.AppSettings) :
    (notePresence state).Does LoopCall.Plain (PidsKept settings state) := by
  unfold notePresence
  split
  · exact PidsKept.refl
  · exact does_request ⟨trivial, trivial⟩ fun _ => { PidsKept.refl with }

theorem notePids_kept :
    (notePids settings state).Does LoopCall.Plain (PidsKept settings state) := by
  unfold notePids
  split
  · exact PidsKept.refl
  · exact does_request ⟨trivial, trivial⟩ fun _ =>
      { (PidsKept.refl : PidsKept settings state state) with burst := Or.inr rfl }

theorem dropHook_onward (settings : Config.AppSettings) :
    (dropHook state).Does Untimed fun next => Onward settings state next ∧
      next.cachedPids = state.cachedPids ∧ next.hookPids = state.pidSet := by
  unfold dropHook
  split
  · rename_i same
    exact ⟨Onward.refl, rfl, same.symm⟩
  · apply does_request trivial
    intro _
    apply (untimed_of_plain (publishWhen_plain _ _)).does.bind
    intro _ _
    exact ⟨{ Onward.refl with }, rfl, rfl⟩

theorem hookDue_untimed : (hookDue state).Only Untimed := by
  unfold hookDue
  split
  · trivial
  · refine ⟨trivial, fun hooked => ?_⟩
    cases hooked with
    | true => trivial
    | false => exact ⟨trivial, fun _ => trivial⟩

theorem installHook_kept (settings : Config.AppSettings) :
    (installHook state).Does Untimed (PidsKept settings state) := by
  apply hookDue_untimed.does.bind
  intro due _
  cases due with
  | false => exact PidsKept.refl
  | true =>
      apply does_request trivial
      intro installed
      cases installed with
      | true => exact does_request trivial fun _ => { PidsKept.refl with }
      | false =>
          apply does_request trivial
          intro instant
          exact does_request trivial fun _ => { PidsKept.refl with }

theorem drainEvents_heard :
    (drainEvents settings state).Does LoopCall.Plain fun result =>
      PidsKept settings state result.1 ∧ Heard settings result.2 result.1 := by
  apply does_request ⟨trivial, trivial⟩
  intro drained
  have filters : (Program.filterWith (fun event : WindowEvent => do
      let pid ← request (.windowPid event.hwnd)
      return decide (pid ∈ state.pidSet)) drained).Only LoopCall.Plain := by
    apply Program.Only.filterWith
    intro event
    exact ⟨⟨trivial, trivial⟩, fun _ => trivial⟩
  apply filters.does.bind
  intro events _
  cases events with
  | nil => exact ⟨PidsKept.refl, fun some_ => absurd rfl some_, fun follows => by cases follows⟩
  | cons event rest =>
      apply does_request ⟨trivial, trivial⟩
      intro instant
      refine ⟨{ (PidsKept.refl : PidsKept settings state state) with
        pending := fun _ => rfl
        burst := ?_ }, fun _ => rfl, ?_⟩
      · dsimp only
        split
        · exact Or.inr rfl
        · exact Or.inl rfl
      · intro follows
        exact if_pos follows

theorem reconcileIn_pos : (reconcileIn settings state).Does Untimed fun recon => 0 < recon := by
  apply (untimed_of_plain activeNow_plain).does.bind
  intro active _
  apply (untimed_of_plain (elapsed_plain _)).does.bind
  intro quietFor _
  exact does_request trivial fun hooked => reconcileInterval_pos ..

end LayoutAdblock.Engine
