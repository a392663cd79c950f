import LayoutAdblock.Engine.LoopParts
import LayoutAdblock.Interaction.Environment

namespace LayoutAdblock.Engine

open Interaction Environment

/-! # The cadence of the worker

Waits may return early or late, scans and hooks may fail, and flags, processes
and events may change at any call.  Only the clock never runs backwards.
-/

/-- What an iteration does that takes time on purpose: a wait on the wake channel, or a tick
with the instants at which it began and ended. -/
inductive Action where
  | wait (timeout : Nat)
  | tick (began ended : Instant) (completed : Bool)
deriving DecidableEq, Repr

/-- The clock of the loop with a record of its waits and ticks. -/
structure Clockwork where
  clock : Instant
  actions : List Action := []

/-- What a call does to the record of actions. Only waits and ticks are recorded, and a
reading of the clock is what the clock says. -/
def Records (before after : Clockwork) : (call : LoopCall) → call.Answer → Prop
  | .now, instant => instant = after.clock ∧ after.actions = before.actions
  | .wait timeout, _ => after.actions = before.actions ++ [.wait timeout]
  | .guardedTick _, completed => ∃ began ended, before.clock ≤ began ∧ began ≤ ended ∧
      ended ≤ after.clock ∧ after.actions = before.actions ++ [.tick began ended completed]
  | _, _ => after.actions = before.actions

/-- Any system whose clock does not run backwards. A tick is recorded with the times it
began and ended at. -/
def clockwork : Environment LoopCall LoopCall.Answer Clockwork where
  step call before answer after := before.clock ≤ after.clock ∧ Records before after call answer

variable {α : Type} {before after : Clockwork} {state : LoopState}
  {settings : Config.AppSettings}

/-- Time passes and nothing is recorded. -/
structure Elapses (before after : Clockwork) : Prop where
  clock : before.clock ≤ after.clock
  actions : after.actions = before.actions

theorem Elapses.refl : Elapses before before := ⟨Nat.le_refl _, rfl⟩

theorem Elapses.trans {middle : Clockwork} (first : Elapses before middle)
    (second : Elapses middle after) : Elapses before after :=
  ⟨first.clock.trans second.clock, second.actions.trans first.actions⟩

theorem Records.elapses {call : LoopCall} {answer : call.Answer} (untimed : Untimed call)
    (step : clockwork.step call before answer after) : Elapses before after := by
  obtain ⟨clock, records⟩ := step
  cases call with
  | wait timeout => exact untimed.elim
  | guardedTick pids => exact untimed.elim
  | now => exact ⟨clock, records.2⟩
  | _ => exact ⟨clock, records⟩

theorem ensures_untimed {program : LoopM α} (only : program.Only Untimed) :
    clockwork.ensures program (fun _ after => Elapses before after) before :=
  ensures_of_step (fun after => Elapses before after) only
    (fun _ _ _ _ untimed later step => later.trans (Records.elapses untimed step)) Elapses.refl

theorem ensures_request {call : LoopCall} (untimed : Untimed call) :
    clockwork.ensures (request call) (fun _ after => Elapses before after) before :=
  ensures_untimed (Program.only_ask.mpr untimed)

theorem ensures_now :
    clockwork.ensures (request .now)
      (fun instant after => Elapses before after ∧ instant = after.clock) before := by
  rw [request, ensures_ask]
  intro instant after step
  have untimed : Untimed .now := trivial
  exact ⟨Records.elapses untimed step, step.2.1⟩

theorem ensures_wait {timeout : Nat} :
    clockwork.ensures (request (.wait timeout))
      (fun _ after => before.clock ≤ after.clock ∧
        after.actions = before.actions ++ [.wait timeout]) before := by
  rw [request, ensures_ask]
  intro _ after step
  exact step

theorem ensures_elapsed {since : Instant} :
    clockwork.ensures (elapsed since) (fun _ after => Elapses before after) before :=
  ensures_untimed (untimed_of_plain (elapsed_plain since))

theorem ensures_publishWhen {condition : Bool} {what : Published} :
    clockwork.ensures (publishWhen condition what) (fun _ after => Elapses before after)
      before :=
  ensures_untimed (untimed_of_plain (publishWhen_plain condition what))

/-- A part of a survey takes time, and no more. -/
theorem ensures_part {ends : α → Prop} {program : LoopM α} (does : program.Does Untimed ends) :
    clockwork.ensures program (fun value after => ends value ∧ Elapses before after) before :=
  ensures_and (ensures_does does) (ensures_untimed does.only)

def Toggled (before after : LoopState) : Prop :=
  before.changed after.wasEnabled after.wasAggressive = true

/-- What a survey has done to the cadence: events and bursts only came in, a change of the
flags made the next tick due at once, and a stage that serves has a plan. -/
structure Surveyed (settings : Config.AppSettings) (before : LoopState) (stage : Stage)
    (ended : Instant) : Prop where
  pending : before.pendingEvent = true → stage.state.pendingEvent = true
  burst : stage.state.burstLeft = before.burstLeft ∨
    stage.state.burstLeft = burstScans settings
  full : (¬ Toggled before stage.state ∧ stage.state.lastFull = before.lastFull) ∨
    (Toggled before stage.state ∧ stage.state.lastFull + seconds 10 ≤ ended)
  heard : ∀ outlook, stage = .serving outlook →
    Heard settings outlook.events outlook.state ∧ 0 < outlook.recon

theorem noteFlags_full :
    clockwork.ensures (noteFlags state)
      (fun next after => Elapses before after ∧ next.pendingEvent = state.pendingEvent ∧
        next.burstLeft = state.burstLeft ∧
        ((¬ Toggled state next ∧ next.lastFull = state.lastFull) ∨
          (Toggled state next ∧ next.lastFull + seconds 10 ≤ after.clock))) before := by
  refine ensures_seq (ensures_request trivial) fun enabled first reads => ?_
  refine ensures_seq (ensures_request trivial) fun aggressive second readsNext => ?_
  cases toggles : state.changed enabled aggressive with
  | false =>
      have same : ¬ Toggled state
          { state with wasEnabled := enabled, wasAggressive := aggressive } := by
        simp [Toggled, toggles]
      exact ⟨reads.trans readsNext, rfl, rfl, Or.inl ⟨same, rfl⟩⟩
  | true =>
      refine ensures_seq ensures_now fun instant after read => ?_
      refine ⟨(reads.trans readsNext).trans read.1, rfl, rfl, Or.inr ⟨toggles, ?_⟩⟩
      dsimp only
      rw [read.2]
      omega

/-- The rest of a survey leaves the flags and the cadence alone. -/
theorem Onward.surveyed {flagged : LoopState} {stage : Stage} {middle : Clockwork}
    (pending : state.pendingEvent = true → flagged.pendingEvent = true)
    (burst : flagged.burstLeft = state.burstLeft ∨ flagged.burstLeft = burstScans settings)
    (full : (¬ Toggled state flagged ∧ flagged.lastFull = state.lastFull) ∨
      (Toggled state flagged ∧ flagged.lastFull + seconds 10 ≤ middle.clock))
    (later : Elapses middle after) (onward : Onward settings flagged stage.state)
    (heard : ∀ outlook, stage = .serving outlook →
      Heard settings outlook.events outlook.state ∧ 0 < outlook.recon) :
    Surveyed settings state stage after.clock where
  pending := fun waits => onward.pending (pending waits)
  burst := by
    cases onward.burst with
    | inr reset => exact Or.inr reset
    | inl same =>
        rw [same]
        exact burst
  full := by
    have same : Toggled state stage.state ↔ Toggled state flagged := by
      rw [Toggled, Toggled, onward.enabled, onward.aggressive]
    rw [same, onward.full]
    cases full with
    | inl kept => exact Or.inl kept
    | inr toggled =>
        have clock : (middle.clock : Int) ≤ after.clock := Int.ofNat_le.mpr later.clock
        exact Or.inr ⟨toggled.1, by omega⟩
  heard := heard

theorem survey_surveyed :
    clockwork.ensures (survey settings state)
      (fun stage after => Surveyed settings state stage after.clock ∧ Elapses before after)
      before := by
  have resetting : (noteReset state).Does Untimed (PidsKept settings state) :=
    untimed_does (noteReset_kept settings)
  refine ensures_seq (ensures_part resetting) fun reset first facts => ?_
  obtain ⟨kept, resets⟩ := facts
  refine ensures_seq noteFlags_full fun flagged second facts => ?_
  obtain ⟨flags, flaggedPending, flaggedBurst, full⟩ := facts
  have same : Toggled state flagged ↔ Toggled reset flagged := by
    rw [Toggled, Toggled, LoopState.changed, LoopState.changed, kept.enabled, kept.aggressive]
  rw [← same, kept.full] at full
  have pending : state.pendingEvent = true → flagged.pendingEvent = true :=
    fun waits => flaggedPending.trans (kept.pending waits)
  have burst : flagged.burstLeft = state.burstLeft ∨ flagged.burstLeft = burstScans settings := by
    rw [flaggedBurst]
    exact kept.burst
  cases enabled : flagged.wasEnabled with
  | false =>
      have surveyed : Surveyed settings state (.off flagged) second.clock :=
        Onward.surveyed pending burst full Elapses.refl Onward.refl
          (fun _ serves => by cases serves)
      exact ⟨surveyed, resets.trans flags⟩
  | true =>
      simp only [Bool.not_true, Bool.false_eq_true, if_false]
      refine ensures_seq (ensures_part scanPids_onward) fun scan third scans => ?_
      refine ensures_seq (ensures_part (untimed_does (notePresence_kept settings)))
        fun _ fourth present => ?_
      refine ensures_seq (ensures_part (untimed_does notePids_kept)) fun _ fifth pids => ?_
      refine ensures_seq (ensures_part (dropHook_onward settings)) fun _ sixth drops => ?_
      refine ensures_seq (ensures_part (installHook_kept settings)) fun _ seventh installs => ?_
      refine ensures_seq (ensures_part (untimed_does drainEvents_heard))
        fun drain eighth heard => ?_
      refine ensures_seq (ensures_part reconcileIn_pos) fun recon last plans => ?_
      have onward : Onward settings flagged drain.1 :=
        ((((scans.1.1.trans present.1.toOnward).trans pids.1.toOnward).trans drops.1.1).trans
          installs.1.toOnward).trans heard.1.1.toOnward
      have later := (((((scans.2.trans present.2).trans pids.2).trans drops.2).trans
        installs.2).trans heard.2).trans plans.2
      split
      · exact ⟨Onward.surveyed pending burst full later onward (fun _ serves => by cases serves),
          (resets.trans flags).trans later⟩
      · refine ⟨Onward.surveyed pending burst full later onward ?_,
          (resets.trans flags).trans later⟩
        intro outlook serves
        obtain rfl := Stage.serving.inj serves
        exact ⟨heard.1.2, plans.1⟩

theorem ensures_sinceFull :
    clockwork.ensures state.sinceFull
      (fun passed after => Elapses before after ∧
        passed = ((after.clock : Int) - state.lastFull).toNat) before := by
  refine ensures_seq ensures_now fun instant after read => ?_
  refine ⟨read.1, ?_⟩
  rw [read.2]

def LoopState.wantsTick (state : LoopState) : Prop :=
  state.pendingEvent = true ∨ 0 < state.burstLeft

/-- The iteration only waits, because the last tick was a moment ago. -/
structure Idled (settings : Config.AppSettings) (outlook : Outlook) (start : Instant)
    (after : LoopState) (actions : List Action) : Prop where
  state : after = outlook.state
  waits : ∃ timeout, actions = [.wait timeout] ∧
    (outlook.state.wantsTick → timeout ≤ max (millis 1) (burstInterval settings))
  early : outlook.state.wantsTick →
    (start : Int) < outlook.state.lastFull + burstInterval settings

/-- The iteration ticks once and waits at most once after it. The tick is a burst interval
after the last one, or the reconciliation was due and no event was pending. -/
structure Ticked (settings : Config.AppSettings) (outlook : Outlook) (after : LoopState)
    (began ended : Instant) (completed : Bool) (actions : List Action) : Prop where
  acts : ∃ rest, actions = .tick began ended completed :: rest ∧
    ∀ action ∈ rest, ∃ timeout, action = .wait timeout
  spaced : outlook.state.lastFull + burstInterval settings ≤ began ∨
    (outlook.state.pendingEvent = false ∧ outlook.state.lastFull + outlook.recon ≤ began)
  full : (ended : Int) ≤ after.lastFull
  burst : outlook.state.burstLeft ≤ after.burstLeft + 1

theorem burstDue_timing :
    clockwork.ensures (burstDue settings state)
      (fun due after => Elapses before after ∧
        (due = true → state.lastFull + burstInterval settings ≤ after.clock) ∧
        (due = false → 0 < state.burstLeft →
          (before.clock : Int) < state.lastFull + burstInterval settings)) before := by
  unfold burstDue
  split
  · rename_i none
    refine ⟨Elapses.refl, fun due => ?_, fun _ left => ?_⟩
    · cases due
    · omega
  · refine ensures_seq ensures_sinceFull fun passed after read => ?_
    have clock : (before.clock : Int) ≤ after.clock := Int.ofNat_le.mpr read.1.clock
    have positive := burstInterval_pos settings
    refine ⟨read.1, fun due => ?_, fun due _ => ?_⟩
    · have enough := of_decide_eq_true due
      rw [read.2] at enough
      omega
    · have short := of_decide_eq_false due
      rw [read.2] at short
      omega

/-- Why the decision falls as it does: when the tick is put off it is too early for one or
nothing asks for one, and when it runs an event, the reconciliation or the burst asks. -/
structure Decided (settings : Config.AppSettings) (outlook : Outlook) (dueBurst : Bool)
    (start : Instant) (later : Bool) (ended : Instant) : Prop where
  waiting : later = true → outlook.state.pendingEvent = true →
    (start : Int) < outlook.state.lastFull + burstInterval settings
  noBurst : later = true → outlook.state.pendingEvent = false → dueBurst = false
  event : later = false → outlook.state.pendingEvent = true →
    outlook.state.lastFull + burstInterval settings ≤ ended
  due : later = false → outlook.state.pendingEvent = false →
    outlook.state.lastFull + outlook.recon ≤ ended ∨ dueBurst = true

theorem postponed_decided {outlook : Outlook} {dueBurst : Bool} (planned : 0 < outlook.recon) :
    clockwork.ensures (postponed settings outlook dueBurst)
      (fun later after => Elapses before after ∧
        Decided settings outlook dueBurst before.clock later after.clock) before := by
  refine ensures_seq ensures_sinceFull fun passed after read => ?_
  have clock : (before.clock : Int) ≤ after.clock := Int.ofNat_le.mpr read.1.clock
  have positive := burstInterval_pos settings
  have passes := read.2
  cases pending : outlook.state.pendingEvent with
  | true =>
      refine ⟨read.1, fun later _ => ?_, fun _ none => ?_, fun now _ => ?_, fun _ none => ?_⟩
      · have short := of_decide_eq_true later
        omega
      · rw [pending] at none
        cases none
      · have enough := of_decide_eq_false now
        omega
      · rw [pending] at none
        cases none
  | false =>
      refine ⟨read.1, fun _ some_ => ?_, fun later _ => ?_, fun _ some_ => ?_, fun now _ => ?_⟩
      · rw [pending] at some_
        cases some_
      · have both := (Bool.and_eq_true _ _).mp later
        exact (Bool.not_eq_true' _).mp both.2
      · rw [pending] at some_
        cases some_
      · cases due : dueBurst with
        | true => exact Or.inr rfl
        | false =>
            left
            rw [due, Bool.not_false, Bool.and_true] at now
            have enough := of_decide_eq_false now
            omega

theorem idle_idled {outlook : Outlook} {start : Instant}
    (early : outlook.state.wantsTick →
      (start : Int) < outlook.state.lastFull + burstInterval settings) :
    clockwork.ensures (idle settings outlook)
      (fun after ended => ∃ actions, ended.actions = before.actions ++ actions ∧
        Idled settings outlook start after actions) before := by
  refine ensures_seq ensures_sinceFull fun passed read reads => ?_
  have hooking : ∀ wait, clockwork.ensures (hookWait outlook.state wait)
      (fun shortened after => Elapses before after ∧ shortened ≤ wait) read := by
    intro wait
    refine ensures_seq (ensures_request trivial) fun hooked asked asks => ?_
    cases hooked with
    | true => exact ⟨reads.1.trans asks, Nat.le_refl _⟩
    | false => exact ensures_seq ensures_now fun instant after next =>
        ⟨(reads.1.trans asks).trans next.1, Nat.min_le_left _ _⟩
  refine ensures_seq (hooking _) fun wait hooked shortened => ?_
  refine ensures_seq ensures_wait fun _ ended waited => ?_
  refine ⟨[.wait (max wait (millis 1))], by rw [waited.2, shortened.1.actions], rfl,
    ⟨_, rfl, fun wants => ?_⟩, early⟩
  have chosen : (outlook.state.pendingEvent || decide (0 < outlook.state.burstLeft)) = true := by
    rw [Bool.or_eq_true, decide_eq_true_eq]
    exact wants
  have bound := shortened.2
  rw [if_pos chosen] at bound
  omega

theorem ensures_tick {pids : List Core.Pid} :
    clockwork.ensures (request (.guardedTick pids))
      (fun completed after => ∃ began ended, before.clock ≤ began ∧ ended ≤ after.clock ∧
        after.actions = before.actions ++ [.tick began ended completed]) before := by
  rw [request, ensures_ask]
  intro completed after step
  obtain ⟨_, began, ended, starts, _, ends, recorded⟩ := step
  exact ⟨began, ended, starts, ends, recorded⟩

theorem afterTick_waits {completed : Bool} :
    clockwork.ensures (afterTick settings state completed)
      (fun after ended => after.lastFull = state.lastFull ∧
        state.burstLeft ≤ after.burstLeft + 1 ∧
        ∃ rest, ended.actions = before.actions ++ rest ∧
          ∀ action ∈ rest, ∃ timeout, action = .wait timeout) before := by
  unfold afterTick
  split
  · refine ensures_seq ensures_wait fun _ ended waited => ?_
    exact ⟨rfl, Nat.le_succ _, _, waited.2, fun action member =>
      ⟨_, List.mem_singleton.mp member⟩⟩
  · split
    · exact ⟨rfl, Nat.le_succ _, [], (List.append_nil _).symm, fun _ member => by cases member⟩
    · refine ensures_seq ensures_wait fun _ ended waited => ?_
      refine ⟨rfl, ?_, _, waited.2, fun action member => ⟨_, List.mem_singleton.mp member⟩⟩
      dsimp only
      omega

theorem tickOnce_ticked {outlook : Outlook}
    (due : outlook.state.lastFull + burstInterval settings ≤ before.clock ∨
      (outlook.state.pendingEvent = false ∧
        outlook.state.lastFull + outlook.recon ≤ before.clock)) :
    clockwork.ensures (tickOnce settings outlook.state)
      (fun after ended => ∃ actions, ended.actions = before.actions ++ actions ∧
        ∃ began finished completed,
          Ticked settings outlook after began finished completed actions) before := by
  refine ensures_seq ensures_tick fun completed ticked facts => ?_
  obtain ⟨began, finished, starts, ends, recorded⟩ := facts
  refine ensures_seq ensures_publishWhen fun _ counted counts => ?_
  refine ensures_seq ensures_publishWhen fun _ ready readies => ?_
  refine ensures_seq ensures_now fun instant read reads => ?_
  refine ensures_mono afterTick_waits fun after ended waits => ?_
  obtain ⟨full, burst, rest, recorded', waits⟩ := waits
  have elapses := (counts.trans readies).trans reads.1
  refine ⟨.tick began finished completed :: rest, ?_, began, finished, completed,
    ⟨rest, rfl, waits⟩, ?_, ?_, burst⟩
  · rw [recorded', elapses.actions, recorded, List.append_assoc]
    rfl
  · have later : (before.clock : Int) ≤ began := Int.ofNat_le.mpr starts
    cases due with
    | inl burstDue => exact Or.inl (by omega)
    | inr reconDue => exact Or.inr ⟨reconDue.1, by omega⟩
  · have later : finished ≤ read.clock := Nat.le_trans ends elapses.clock
    rw [full, reads.2]
    exact Int.ofNat_le.mpr later

theorem serve_served {outlook : Outlook} (planned : 0 < outlook.recon) :
    clockwork.ensures (serve settings outlook)
      (fun after ended => ∃ actions, ended.actions = before.actions ++ actions ∧
        (Idled settings outlook before.clock after actions ∨
          ∃ began finished completed,
            Ticked settings outlook after began finished completed actions)) before := by
  refine ensures_seq burstDue_timing fun dueBurst first timing => ?_
  refine ensures_seq (postponed_decided planned) fun later second facts => ?_
  obtain ⟨elapses, decided⟩ := facts
  have start : (before.clock : Int) ≤ first.clock := Int.ofNat_le.mpr timing.1.clock
  have finish : (first.clock : Int) ≤ second.clock := Int.ofNat_le.mpr elapses.clock
  have recorded : second.actions = before.actions := elapses.actions.trans timing.1.actions
  cases later with
  | true =>
      have early : outlook.state.wantsTick →
          (before.clock : Int) < outlook.state.lastFull + burstInterval settings := by
        intro wants
        cases pending : outlook.state.pendingEvent with
        | true =>
            have waiting := decided.waiting rfl pending
            omega
        | false =>
            have left : 0 < outlook.state.burstLeft := wants.resolve_left (by simp [pending])
            exact timing.2.2 (decided.noBurst rfl pending) left
      refine ensures_mono (idle_idled early) fun after ended idled => ?_
      obtain ⟨actions, added, idled⟩ := idled
      exact ⟨actions, recorded ▸ added, Or.inl idled⟩
  | false =>
      have due : outlook.state.lastFull + burstInterval settings ≤ second.clock ∨
          (outlook.state.pendingEvent = false ∧
            outlook.state.lastFull + outlook.recon ≤ second.clock) := by
        cases pending : outlook.state.pendingEvent with
        | true => exact Or.inl (decided.event rfl pending)
        | false =>
            cases decided.due rfl pending with
            | inl recon => exact Or.inr ⟨rfl, recon⟩
            | inr burst =>
                have passed := timing.2.1 burst
                exact Or.inl (by omega)
      refine ensures_mono (tickOnce_ticked due) fun after ended ticked => ?_
      obtain ⟨actions, added, ticked⟩ := ticked
      exact ⟨actions, recorded ▸ added, Or.inr ticked⟩

end LayoutAdblock.Engine
