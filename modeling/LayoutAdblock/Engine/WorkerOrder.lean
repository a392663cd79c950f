import LayoutAdblock.Engine.Cadence
import LayoutAdblock.Engine.ControlWake

namespace LayoutAdblock.Engine

open Interaction
open Program (Before After anyAnswer)

/-! # What the worker looks at between two waits

Every iteration loads all the flags before it waits, and a wait is the last
thing it does.
-/

namespace LoopCall

def Looks : Watched → LoopCall → Prop
  | .stopping, .load .stopping | .enabled, .load .enabled | .aggressive, .load .aggressive
  | .resetRestore, .takeReset => True
  | _, _ => False

def IsWait : LoopCall → Prop
  | .wait _ => True
  | _ => False

end LoopCall

open LoopCall

variable {settings : Config.AppSettings} {state : LoopState} {what : Watched}

theorem Untimed.not_wait {call : LoopCall} (untimed : Untimed call) : ¬ call.IsWait := by
  intro waits
  cases call with
  | wait timeout => exact untimed
  | _ => exact waits

theorem only_request {allowed : LoopCall → Prop} (call : LoopCall) (allows : allowed call) :
    (request call).Only allowed :=
  Program.only_ask.mpr allows

theorem survey_untimed : (survey settings state).Only Untimed := by
  apply (untimed_does (noteReset_kept settings)).only.bind
  intro noted
  apply (untimed_does noteFlags_kept).only.bind
  intro flagged
  split
  · trivial
  · apply scanPids_onward.only.bind
    intro scanned
    apply (untimed_does (notePresence_kept settings)).only.bind
    intro present
    apply (untimed_does notePids_kept).only.bind
    intro listed
    apply (dropHook_onward settings).only.bind
    intro dropped
    apply (installHook_kept settings).only.bind
    intro installed
    apply (untimed_does drainEvents_heard).only.bind
    intro drained
    apply reconcileIn_pos.only.bind
    intro recon
    split
    · trivial
    · trivial

def Awake {α : Type} (program : LoopM α) : Prop := program.Only fun call => ¬ call.IsWait

def WaitsLast {α : Type} (program : LoopM α) : Prop := program.After (fun call _ => call.IsWait) Awake

theorem awake_of_untimed {α : Type} {program : LoopM α} (only : program.Only Untimed) :
    Awake program :=
  only.mono fun _ => Untimed.not_wait

theorem awake_of_plain {α : Type} {program : LoopM α} (only : program.Only LoopCall.Plain) :
    Awake program :=
  awake_of_untimed (untimed_of_plain only)

theorem awake_request (call : LoopCall) (awake : ¬ call.IsWait) : Awake (request call) :=
  only_request call awake

theorem WaitsLast.wake {α β : Type} {program : LoopM α} {rest : α → LoopM β}
    (awake : Awake program) (follows : ∀ value, WaitsLast (rest value)) :
    WaitsLast (program >>= rest) :=
  After.of_only_bind (awake.mono fun _ apart _ => apart) follows

theorem WaitsLast.wait {β : Type} {timeout : Nat} {rest : Unit → LoopM β}
    (awake : Awake (rest ())) : WaitsLast (request (.wait timeout) >>= rest) := by
  intro answer
  refine ⟨fun _ => awake, ?_⟩
  exact After.of_only (awake.mono fun _ apart _ => apart)

theorem sinceFull_awake : Awake state.sinceFull :=
  awake_of_plain sinceFull_plain

theorem serveOff_waitsLast : WaitsLast (serveOff state) := by
  apply WaitsLast.wake (awake_request .remove id)
  intro _
  apply WaitsLast.wake (awake_request (.publish _) id)
  intro _
  apply WaitsLast.wake (awake_request .now id)
  intro instant
  apply WaitsLast.wake (awake_request (.offRetry _ _) id)
  intro offRestore
  apply WaitsLast.wake (awake_request (.publish _) id)
  intro _
  apply WaitsLast.wake (awake_request .now id)
  intro later
  exact WaitsLast.wait trivial

theorem serveAbsent_waitsLast {scanInterval : Nat} : WaitsLast (serveAbsent state scanInterval) := by
  have left : Awake (absentWait state scanInterval) := by
    unfold absentWait
    split
    · trivial
    · exact awake_of_plain ((elapsed_plain _).bind fun _ => trivial)
  apply WaitsLast.wake (awake_request .now id)
  intro instant
  apply WaitsLast.wake (awake_request (.offRetry _ _) id)
  intro offRestore
  apply WaitsLast.wake (awake_request .clearTransient id)
  intro _
  apply WaitsLast.wake left
  intro wait
  apply WaitsLast.wake (awake_request (.publish _) id)
  intro _
  exact WaitsLast.wait trivial

theorem idle_waitsLast {outlook : Outlook} : WaitsLast (idle settings outlook) := by
  have hook : ∀ wait, Awake (hookWait outlook.state wait) := by
    intro wait
    apply (awake_request .hooked id).bind
    intro hooked
    split
    · trivial
    · exact awake_of_untimed ((only_request _ trivial).bind fun _ => trivial)
  apply WaitsLast.wake sinceFull_awake
  intro passed
  apply WaitsLast.wake (hook _)
  intro wait
  exact WaitsLast.wait trivial

theorem afterTick_waitsLast {completed : Bool} : WaitsLast (afterTick settings state completed) := by
  unfold afterTick
  split
  · exact WaitsLast.wait trivial
  · split
    · trivial
    · exact WaitsLast.wait trivial

theorem tickOnce_waitsLast : WaitsLast (tickOnce settings state) := by
  apply WaitsLast.wake (awake_request (.guardedTick _) id)
  intro completed
  apply WaitsLast.wake (awake_of_plain (publishWhen_plain _ _))
  intro _
  apply WaitsLast.wake (awake_of_plain (publishWhen_plain _ _))
  intro _
  apply WaitsLast.wake (awake_request .now id)
  intro instant
  exact afterTick_waitsLast

theorem serve_waitsLast {outlook : Outlook} : WaitsLast (serve settings outlook) := by
  have due : Awake (burstDue settings outlook.state) := by
    unfold burstDue
    split
    · trivial
    · exact sinceFull_awake.bind fun _ => trivial
  have later : ∀ dueBurst, Awake (postponed settings outlook dueBurst) := by
    intro dueBurst
    apply sinceFull_awake.bind
    intro passed
    split
    · trivial
    · trivial
  apply WaitsLast.wake due
  intro dueBurst
  apply WaitsLast.wake (later dueBurst)
  intro isLater
  split
  · exact idle_waitsLast
  · exact tickOnce_waitsLast

theorem iteration_waitsLast : WaitsLast (iteration settings state) := by
  apply WaitsLast.wake (awake_request (.load .stopping) id)
  intro stopping
  split
  · trivial
  · apply WaitsLast.wake (awake_of_untimed survey_untimed)
    intro stage
    have served : WaitsLast (stage.run settings) := by
      cases stage with
      | off state => exact serveOff_waitsLast
      | absent state interval => exact serveAbsent_waitsLast
      | serving outlook => exact serve_waitsLast
    apply served.bind
    · intro left awake
      exact awake.bind fun _ => trivial
    · intro after
      trivial

abbrev LooksFirst {α : Type} (what : Watched) (ends : α → Prop) (program : LoopM α) : Prop :=
  program.Before anyAnswer (Looks what) IsWait ends

theorem survey_looks (loaded : what ≠ .stopping) :
    LooksFirst what (fun _ => False) (survey settings state) := by
  cases what with
  | stopping => exact absurd rfl loaded
  | resetRestore => exact Or.inl trivial
  | enabled =>
      apply Before.after_only (awake_of_plain (noteReset_kept settings).only)
      intro noted
      exact Or.inl trivial
  | aggressive =>
      apply Before.after_only (awake_of_plain (noteReset_kept settings).only)
      intro noted
      exact Or.inr ⟨id, fun enabled _ => Or.inl trivial⟩

theorem iteration_looks :
    LooksFirst what (fun next => next = none) (iteration settings state) := by
  by_cases stopping : what = .stopping
  · subst stopping
    exact Or.inl trivial
  · refine Or.inr ⟨id, fun stops _ => ?_⟩
    cases stops with
    | true => exact rfl
    | false => exact (survey_looks stopping).bind fun _ none => none.elim

theorem loopFor_looks (laps : Nat) :
    LooksFirst what (fun _ => True) (loopFor settings laps state) := by
  induction laps generalizing state with
  | zero => trivial
  | succ laps ih =>
      apply iteration_looks.bind
      rintro _ rfl
      trivial

theorem loopFor_waits (laps : Nat) :
    (loopFor settings laps state).After (fun call _ => call.IsWait)
      (LooksFirst what fun _ => True) := by
  induction laps generalizing state with
  | zero => trivial
  | succ laps ih =>
      apply iteration_waitsLast.bind
      · intro left awake
        apply Before.after_only awake
        intro next
        cases next with
        | none => trivial
        | some after => exact loopFor_looks laps
      · intro next
        cases next with
        | none => trivial
        | some after => exact ih

namespace WorkerCall

def Looks (what : Watched) : WorkerCall → Prop
  | .loop call => call.Looks what
  | _ => False

def IsWait : WorkerCall → Prop
  | .loop call => call.IsWait
  | _ => False

end WorkerCall

namespace ControlCall

def Looks (what : Watched) : ControlCall → Prop
  | .work call => call.Looks what
  | _ => False

def Sleeps : ControlCall → Prop
  | .park _ | .msgWait _ => True
  | _ => False

/-- The call may use up a signal, or comes right after a sleep. -/
def Resumes : ControlCall → Prop
  | .drainMessages => True
  | call => call.Sleeps

/-- A call that `run_worker` makes. -/
def Ordinary : ControlCall → Prop
  | .work _ | .hookInstalled | .park _ | .msgWait _ | .drainMessages => True
  | _ => False

end ControlCall

theorem inLoop_only {α : Type} {allowed : LoopCall → Prop} {wide : WorkerCall → Prop}
    {program : LoopM α} (only : program.Only allowed)
    (each : ∀ call, allowed call → wide (.loop call)) : (inLoop program).Only wide :=
  only.translate fun call allows => Program.only_ask.mpr (each call allows)

theorem startLoop_untimed : startLoop.Only Untimed := by
  apply (only_request .now trivial).bind
  intro absentSince
  apply (only_request .now trivial).bind
  intro lastFull
  apply (only_request (.load .enabled) trivial).bind
  intro wasEnabled
  apply (only_request (.load .aggressive) trivial).bind
  intro wasAggressive
  exact (only_request _ trivial).bind fun _ => trivial

theorem finishWorker_awake : finishWorker.Only fun call => ¬ call.IsWait := by
  apply Program.Only.bind (inLoop_only (only_request (.load .apply) id) fun _ apart => apart)
  intro apply
  refine Program.Only.bind ?_ fun _ => Program.only_ask.mpr id
  cases apply with
  | false => trivial
  | true =>
      apply Program.Only.bind (Program.only_ask.mpr id)
      intro result
      exact Program.only_ask.mpr id

abbrev WorkerLooks {α : Type} (what : Watched) (program : WorkerM α) : Prop :=
  program.Before anyAnswer (WorkerCall.Looks what) WorkerCall.IsWait fun _ => True

theorem inLoop_looks {α : Type} {program : LoopM α}
    (looks : LooksFirst what (fun _ => True) program) : WorkerLooks what (inLoop program) := by
  apply looks.translate fun _ _ => trivial
  · intro call isLook
    exact Or.inl isLook
  · intro call awake
    exact Program.only_ask.mpr awake

/-- What the worker does once the loop has ended or not. -/
def concludeWorker (stopped : Bool) : WorkerM Bool :=
  if stopped then do
    finishWorker
    return true
  else return false

theorem concludeWorker_awake (stopped : Bool) :
    (concludeWorker stopped).Only fun call => ¬ call.IsWait := by
  cases stopped with
  | false => trivial
  | true => exact finishWorker_awake.bind fun _ => trivial

theorem startLoop_awake : (inLoop startLoop).Only fun call => ¬ call.IsWait :=
  inLoop_only startLoop_untimed fun _ => Untimed.not_wait

theorem runWorker_looks (laps : Nat) : WorkerLooks what (runWorker settings laps) := by
  apply Before.after_only startLoop_awake
  intro state
  apply (inLoop_looks (loopFor_looks laps)).bind
  intro stopped _
  exact Before.of_only (concludeWorker_awake stopped)

theorem loopFor_resumes (laps : Nat) :
    (inLoop (loopFor settings laps state)).After (fun call _ => call.IsWait)
      (WorkerLooks what) := by
  apply (loopFor_waits laps).translate
  · intro left looks
    exact inLoop_looks looks
  · intro call waits answer
    exact ⟨fun _ rest later => later answer, trivial⟩
  · intro call awake
    exact Program.only_ask.mpr awake

theorem runWorker_resumes (laps : Nat) :
    (runWorker settings laps).After (fun call _ => call.IsWait) (WorkerLooks what) := by
  apply After.of_only_bind (startLoop_awake.mono fun _ awake _ => awake)
  intro state
  apply (loopFor_resumes laps).bind
  · intro left looks
    exact looks.bind fun stopped _ => Before.of_only (concludeWorker_awake stopped)
  · intro stopped
    exact After.of_only ((concludeWorker_awake stopped).mono fun _ awake _ => awake)

/-- What the thread looks at before it sleeps. -/
abbrev ThreadLooks {α : Type} (what : Watched) (program : ControlM α) : Prop :=
  program.Before anyAnswer (ControlCall.Looks what) ControlCall.Sleeps fun _ => True

theorem runtimeWait_ordinary (timeout : Nat) :
    (runtimeWait timeout).Only ControlCall.Ordinary := by
  apply Program.Only.bind (Program.only_ask.mpr trivial)
  intro hooked
  cases hooked with
  | false => exact Program.only_ask.mpr trivial
  | true =>
      apply Program.Only.bind (Program.only_ask.mpr trivial)
      intro _
      exact Program.only_ask.mpr trivial

theorem implementWork_of_awake {call : WorkerCall} (awake : ¬ call.IsWait) :
    implementWork call = control (.work call) := by
  cases call with
  | loop call =>
      cases call with
      | wait timeout => exact absurd trivial awake
      | _ => rfl
  | _ => rfl

theorem implementWork_ordinary (call : WorkerCall) :
    (implementWork call).Only ControlCall.Ordinary := by
  by_cases waits : call.IsWait
  · cases call with
    | loop call =>
        cases call with
        | wait timeout => exact runtimeWait_ordinary timeout
        | _ => exact waits.elim
    | _ => exact waits.elim
  · rw [implementWork_of_awake waits]
    exact Program.only_ask.mpr trivial

theorem looks_awake {call : WorkerCall} (looks : call.Looks what) : ¬ call.IsWait := by
  intro waits
  cases call with
  | loop call =>
      cases call with
      | wait timeout => cases what <;> exact looks
      | _ => exact waits
  | _ => exact waits

theorem translate_looks {program : WorkerM Bool} (looks : WorkerLooks what program) :
    ThreadLooks what (Program.translate implementWork program) := by
  apply looks.translate fun _ _ => trivial
  · intro call isLook
    rw [implementWork_of_awake (looks_awake isLook)]
    exact Or.inl isLook
  · intro call awake
    rw [implementWork_of_awake awake]
    exact Program.only_ask.mpr id

/-- After the sleep only the queue is drained. -/
theorem runtimeWait_resumes {timeout : Nat} {later : ControlM Bool → Prop}
    (drained : ∀ next : Unit → ControlM Bool, later (next ()) →
      later (.call .drainMessages next)) :
    (runtimeWait timeout).After (fun call _ => call.Resumes) fun left =>
      ∀ rest : Unit → ControlM Bool, (∀ answer, later (rest answer)) → later (left >>= rest) := by
  intro hooked
  refine ⟨fun resumes => resumes.elim, ?_⟩
  cases hooked with
  | false =>
      intro _
      exact ⟨fun _ rest later => later (), trivial⟩
  | true =>
      intro _
      refine ⟨fun _ rest later => drained rest (later ()), ?_⟩
      intro _
      exact ⟨fun _ rest later => later (), trivial⟩

theorem translate_resumes {program : WorkerM Bool}
    (each : program.After (fun call _ => call.IsWait) (WorkerLooks what)) :
    (Program.translate implementWork program).After (fun call _ => call.Resumes)
      (ThreadLooks what) := by
  apply each.translate fun left looks => translate_looks looks
  · intro call waits
    cases call with
    | loop call =>
        cases call with
        | wait timeout =>
            apply runtimeWait_resumes
            intro next looks
            exact Or.inr ⟨id, fun _ _ => looks⟩
        | _ => exact waits.elim
    | _ => exact waits.elim
  · intro call awake
    rw [implementWork_of_awake awake]
    exact Program.only_ask.mpr id

end LayoutAdblock.Engine
