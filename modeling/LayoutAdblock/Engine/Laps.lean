import LayoutAdblock.Engine.Cadence

namespace LayoutAdblock.Engine

open Interaction Environment

/-! # Iterations one after another -/

/-- One iteration that did not stop the loop, from the top to the next decision, with the
clock at both ends and the waits and ticks in between. -/
structure Lap where
  before : LoopState
  stage : Stage
  after : LoopState
  began : Instant
  ended : Instant
  actions : List Action

namespace Lap

/-- The iteration is a run of the program: its survey led to its stage, and the stage to the
state and the record it ends with. -/
def Ran (settings : Config.AppSettings) (lap : Lap) : Prop :=
  ∃ surveyed,
    clockwork.Runs (survey settings lap.before) { clock := lap.began } lap.stage surveyed ∧
      clockwork.Runs (lap.stage.run settings) surveyed lap.after
        { clock := lap.ended, actions := lap.actions }

def Serving (lap : Lap) : Prop := ∃ outlook, lap.stage = .serving outlook

/-- The events of KakaoTalk windows that the iteration drained. -/
def events (lap : Lap) : List WindowEvent :=
  match lap.stage with
  | .serving outlook => outlook.events
  | _ => []

/-- The iteration noticed a change of the flags. -/
def Toggles (lap : Lap) : Prop := Toggled lap.before lap.stage.state

/-- The next iteration takes over the variables, some time later. -/
def Follows (first second : Lap) : Prop :=
  second.before = first.after ∧ first.ended ≤ second.began

end Lap

def Action.isTick : Action → Bool
  | .tick _ _ _ => true
  | .wait _ => false

def Lap.ticks (lap : Lap) : Nat := lap.actions.countP Action.isTick

def waitsBeforeTick : List Action → List Nat
  | .wait timeout :: rest => timeout :: waitsBeforeTick rest
  | _ => []

/-- Some iterations of the loop, one after the other. Each of them starts in the state the
last one left, and not before it ended. -/
structure LoopRun (settings : Config.AppSettings) (laps : List Lap) : Prop where
  ran : ∀ lap ∈ laps, lap.Ran settings
  chained : laps.IsChain Lap.Follows

/-- A loop that nobody stops, while time goes on: each iteration starts from the state and
the clock that the one before has left, and the clock passes every bound. -/
structure EndlessRun (settings : Config.AppSettings) (laps : Nat → Lap) : Prop where
  ran : ∀ index, (laps index).Ran settings
  chained : ∀ index, (laps index).Follows (laps (index + 1))
  clock : ∀ bound, ∃ index, bound ≤ (laps index).began

variable {settings : Config.AppSettings}

/-- An iteration of the loop is such a lap. -/
theorem iteration_lap {before after : LoopState} {start : Instant} {ended : Clockwork}
    (run : clockwork.Runs (iteration settings before) { clock := start } (some after) ended) :
    ∃ lap : Lap, lap.Ran settings ∧ lap.before = before ∧ lap.after = after ∧
      start ≤ lap.began ∧ lap.ended = ended.clock ∧ lap.actions = ended.actions := by
  obtain ⟨stopping, checked, check, run⟩ := Runs.unbind run
  have reading : clockwork.ensures (request (.load .stopping))
      (fun _ after => Elapses { clock := start } after) { clock := start } :=
    ensures_request trivial
  have elapses := ensures_runs reading check
  cases stopping with
  | true => cases run
  | false =>
      obtain ⟨stage, surveyed, survey, run⟩ := Runs.unbind run
      obtain ⟨last, finished, serve, done⟩ := Runs.unbind run
      cases done
      have fresh : checked = { clock := checked.clock } := by
        cases checked
        exact congrArg _ elapses.actions
      rw [fresh] at survey
      let lap : Lap :=
        { before := before
          stage := stage
          after := after
          began := checked.clock
          ended := ended.clock
          actions := ended.actions }
      exact ⟨lap, ⟨surveyed, survey, serve⟩, rfl, rfl, elapses.clock, rfl, rfl⟩

theorem serveOff_rests {state : LoopState} {before : Clockwork} :
    clockwork.ensures (serveOff state)
      (fun after ended => after.lastFull = state.lastFull ∧
        ∃ timeout, ended.actions = before.actions ++ [.wait timeout]) before := by
  refine ensures_seq (ensures_request trivial) fun _ _ first => ?_
  refine ensures_seq (ensures_request trivial) fun _ _ second => ?_
  refine ensures_seq ensures_now fun instant _ third => ?_
  refine ensures_seq (ensures_request trivial) fun retried _ fourth => ?_
  refine ensures_seq (ensures_request trivial) fun _ _ fifth => ?_
  refine ensures_seq ensures_now fun now _ sixth => ?_
  refine ensures_seq ensures_wait fun _ ended waited => ?_
  have elapses := ((((first.trans second).trans third.1).trans fourth).trans fifth).trans sixth.1
  exact ⟨rfl, _, by rw [waited.2, elapses.actions]⟩

theorem serveAbsent_rests {state : LoopState} {scanInterval : Nat} {before : Clockwork} :
    clockwork.ensures (serveAbsent state scanInterval)
      (fun after ended => after.lastFull = state.lastFull ∧
        ∃ timeout, ended.actions = before.actions ++ [.wait timeout]) before := by
  refine ensures_seq ensures_now fun instant _ first => ?_
  refine ensures_seq (ensures_request trivial) fun retried _ second => ?_
  refine ensures_seq (ensures_request trivial) fun _ cleared third => ?_
  have waiting : clockwork.ensures (absentWait state scanInterval)
      (fun _ after => Elapses cleared after) cleared := by
    unfold absentWait
    cases state.lastPidScan with
    | none => exact Elapses.refl
    | some scanned => exact ensures_seq ensures_elapsed fun _ _ read => read
  refine ensures_seq waiting fun wait _ fourth => ?_
  refine ensures_seq (ensures_request trivial) fun _ _ fifth => ?_
  refine ensures_seq ensures_wait fun _ ended waited => ?_
  have elapses := (((first.1.trans second).trans third).trans fourth).trans fifth
  exact ⟨rfl, _, by rw [waited.2, elapses.actions]⟩

/-- An iteration that serves ticks, or waits because the last tick was a moment
ago; any other one waits. -/
inductive Lap.Resolved (settings : Config.AppSettings) (lap : Lap) (start : Instant) : Prop where
  | idled {outlook : Outlook} (serves : lap.stage = .serving outlook)
      (idled : Idled settings outlook start lap.after lap.actions)
  | ticked {outlook : Outlook} {began ended : Instant} {completed : Bool}
      (serves : lap.stage = .serving outlook)
      (ticked : Ticked settings outlook lap.after began ended completed lap.actions)
  | rested {timeout : Nat} (waits : lap.actions = [.wait timeout])
      (full : lap.after.lastFull = lap.stage.state.lastFull) (apart : ¬ lap.Serving)

theorem Lap.Ran.resolved {lap : Lap} (ran : lap.Ran settings) :
    ∃ start, lap.began ≤ start ∧ Surveyed settings lap.before lap.stage start ∧
      lap.Resolved settings start := by
  obtain ⟨surveyed, survey, serve⟩ := ran
  have found := ensures_runs survey_surveyed survey
  obtain ⟨found, elapses⟩ := found
  refine ⟨surveyed.clock, elapses.clock, found, ?_⟩
  have empty : surveyed.actions = [] := elapses.actions
  cases stage : lap.stage with
  | off state =>
      rw [stage] at serve
      have rests := ensures_runs serveOff_rests serve
      obtain ⟨full, timeout, waits⟩ := rests
      rw [empty] at waits
      refine .rested waits (by rw [stage]; exact full) fun serves => ?_
      obtain ⟨outlook, serves⟩ := serves
      rw [stage] at serves
      cases serves
  | absent state scanInterval =>
      rw [stage] at serve
      have rests := ensures_runs serveAbsent_rests serve
      obtain ⟨full, timeout, waits⟩ := rests
      rw [empty] at waits
      refine .rested waits (by rw [stage]; exact full) fun serves => ?_
      obtain ⟨outlook, serves⟩ := serves
      rw [stage] at serves
      cases serves
  | serving outlook =>
      rw [stage] at serve
      have served := ensures_runs (serve_served (found.heard outlook stage).2) serve
      obtain ⟨actions, added, served⟩ := served
      rw [empty] at added
      obtain rfl : actions = lap.actions := added.symm
      cases served with
      | inl idled => exact .idled stage idled
      | inr ticked =>
          obtain ⟨began, ended, completed, ticked⟩ := ticked
          exact .ticked stage ticked

theorem Ticked.ticks {outlook : Outlook} {after : LoopState} {began ended : Instant}
    {completed : Bool} {actions : List Action}
    (ticked : Ticked settings outlook after began ended completed actions) :
    actions.countP Action.isTick = 1 := by
  obtain ⟨rest, rfl, waits⟩ := ticked.acts
  rw [List.countP_cons_of_pos rfl]
  have none : rest.countP Action.isTick = 0 := by
    rw [List.countP_eq_zero]
    intro action member
    obtain ⟨timeout, rfl⟩ := waits action member
    simp [Action.isTick]
  omega

theorem Idled.ticks {outlook : Outlook} {start : Instant} {after : LoopState}
    {actions : List Action} (idled : Idled settings outlook start after actions) :
    actions.countP Action.isTick = 0 := by
  obtain ⟨timeout, rfl, _⟩ := idled.waits
  rfl

/-- A lap that finds an event pending ticks, or waits briefly and leaves it
pending. -/
theorem Lap.Ran.pending {lap : Lap} {rest : List Action} {timeout : Nat} (ran : lap.Ran settings)
    (serving : lap.Serving) (pending : lap.stage.state.pendingEvent = true)
    (member : timeout ∈ waitsBeforeTick (lap.actions ++ rest)) :
    timeout ≤ max (millis 1) (burstInterval settings) ∨
      (lap.after.pendingEvent = true ∧ timeout ∈ waitsBeforeTick rest) := by
  obtain ⟨start, _, _, resolved⟩ := ran.resolved
  cases resolved with
  | rested _ _ apart => exact absurd serving apart
  | ticked _ ticked =>
      obtain ⟨after, acts, _⟩ := ticked.acts
      rw [acts] at member
      cases member
  | idled serves idled =>
      obtain ⟨requested, acts, bound⟩ := idled.waits
      rw [serves] at pending
      rw [acts, List.cons_append, List.nil_append, waitsBeforeTick, List.mem_cons] at member
      cases member with
      | inl same => exact Or.inl (same ▸ bound (Or.inl pending))
      | inr member =>
          rw [idled.state]
          exact Or.inr ⟨pending, member⟩

/-- Until the next tick no wait is longer than a burst interval. -/
theorem LoopRun.waits_short {lap : Lap} {later : List Lap}
    (run : LoopRun settings (lap :: later)) (serving : ∀ each ∈ lap :: later, each.Serving)
    (pending : lap.stage.state.pendingEvent = true) {timeout : Nat}
    (member : timeout ∈ waitsBeforeTick ((lap :: later).flatMap Lap.actions)) :
    timeout ≤ max (millis 1) (burstInterval settings) := by
  have first := (run.ran lap List.mem_cons_self).pending (serving lap List.mem_cons_self) pending
    member
  induction later generalizing lap with
  | nil =>
      refine first.resolve_right fun rest => ?_
      cases rest.2
  | cons next rest ih =>
      cases first with
      | inl short => exact short
      | inr still =>
          have chained := List.isChain_cons_cons.mp run.chained
          have tail : LoopRun settings (next :: rest) :=
            ⟨fun each member => run.ran each (List.mem_cons_of_mem _ member), chained.2⟩
          have servingTail : ∀ each ∈ next :: rest, each.Serving :=
            fun each member => serving each (List.mem_cons_of_mem _ member)
          have ran := tail.ran next List.mem_cons_self
          obtain ⟨_, _, surveyed, _⟩ := ran.resolved
          have pendingNext : next.stage.state.pendingEvent = true :=
            surveyed.pending (by rw [chained.1.1]; exact still.1)
          exact ih tail servingTail pendingNext still.2
            (ran.pending (servingTail next List.mem_cons_self) pendingNext still.2)

theorem burstScans_pos (settings : Config.AppSettings) : 0 < burstScans settings := by
  simp only [burstScans]
  omega

theorem Lap.Ran.forward {lap : Lap} (ran : lap.Ran settings) : lap.began ≤ lap.ended := by
  obtain ⟨surveyed, survey, serve⟩ := ran
  have clock : ∀ {α : Type} {program : LoopM α} {before : Clockwork},
      clockwork.ensures program (fun _ after => before.clock ≤ after.clock) before :=
    ensures_of_step (fun after : Clockwork => _ ≤ after.clock) (Program.only_true _)
      (fun _ _ _ _ _ held step => Nat.le_trans held step.1) (Nat.le_refl _)
  have first := ensures_runs clock survey
  have second := ensures_runs clock serve
  exact Nat.le_trans first second

section Endless

variable {laps : Nat → Lap}

theorem EndlessRun.later (run : EndlessRun settings laps) {first last : Nat}
    (order : first ≤ last) : (laps first).began ≤ (laps last).began := by
  induction last, order using Nat.le_induction with
  | base => exact Nat.le_refl _
  | succ last order ih =>
      exact Nat.le_trans ih (Nat.le_trans (run.ran last).forward (run.chained last).2)

/-- While nothing ticks, the wish for a tick and the time of the last one
stay. -/
theorem EndlessRun.stays (run : EndlessRun settings laps) (serving : ∀ index, (laps index).Serving)
    {first last : Nat} (order : first ≤ last)
    (wants : (laps first).stage.state.wantsTick)
    (silent : ∀ index, first ≤ index → (laps index).ticks = 0) :
    (laps last).stage.state.wantsTick ∧
      (laps last).stage.state.lastFull = (laps first).stage.state.lastFull := by
  induction last, order using Nat.le_induction with
  | base => exact ⟨wants, rfl⟩
  | succ last order ih =>
      obtain ⟨_, _, _, resolved⟩ := (run.ran last).resolved
      obtain ⟨start, _, surveyed, next⟩ := (run.ran (last + 1)).resolved
      have follows := (run.chained last).1
      cases resolved with
      | rested _ _ apart => exact absurd (serving last) apart
      | ticked _ ticked =>
          have once := ticked.ticks
          have none := silent last order
          rw [Lap.ticks] at none
          omega
      | idled serves idled =>
          rw [follows, idled.state] at surveyed
          rw [serves] at ih
          have wantsNext : (laps (last + 1)).stage.state.wantsTick := by
            cases ih.1 with
            | inl pending => exact Or.inl (surveyed.pending pending)
            | inr left =>
                cases surveyed.burst with
                | inl same => exact Or.inr (same ▸ left)
                | inr reset => exact Or.inr (reset ▸ burstScans_pos settings)
          refine ⟨wantsNext, ?_⟩
          cases surveyed.full with
          | inl kept => exact kept.2.trans ih.2
          | inr toggled =>
              -- A change of the flags makes a tick due at once.
              cases next with
              | rested _ _ apart => exact absurd (serving (last + 1)) apart
              | ticked _ ticked =>
                  have once := ticked.ticks
                  have none := silent (last + 1) (Nat.le_succ_of_le order)
                  rw [Lap.ticks] at none
                  omega
              | idled servesNext idledNext =>
                  rw [servesNext] at wantsNext toggled
                  have early := idledNext.early wantsNext
                  have late : _ + (seconds 10 : Int) ≤ _ := toggled.2
                  have short := burstInterval_le settings
                  simp only [Stage.state, seconds] at late short early
                  omega

/-- A wish for a tick is met. -/
theorem EndlessRun.next_tick (run : EndlessRun settings laps)
    (serving : ∀ index, (laps index).Serving) {first : Nat}
    (wants : (laps first).stage.state.wantsTick) :
    ∃ index, first ≤ index ∧ (laps index).ticks = 1 := by
  by_contra never
  have silent : ∀ index, first ≤ index → (laps index).ticks = 0 := by
    intro index order
    obtain ⟨_, _, _, resolved⟩ := (run.ran index).resolved
    cases resolved with
    | rested _ _ apart => exact absurd (serving index) apart
    | idled _ idled => exact idled.ticks
    | ticked _ ticked => exact absurd ⟨index, order, ticked.ticks⟩ never
  obtain ⟨index, passed⟩ := run.clock
    ((laps first).stage.state.lastFull.toNat + burstInterval settings)
  have order : first ≤ max first index := Nat.le_max_left _ _
  obtain ⟨wantsThen, full⟩ := run.stays serving order wants silent
  obtain ⟨start, began, _, resolved⟩ := (run.ran (max first index)).resolved
  cases resolved with
  | rested _ _ apart => exact absurd (serving _) apart
  | ticked _ ticked =>
      have once := ticked.ticks
      have none := silent _ order
      rw [Lap.ticks] at none
      omega
  | idled serves idled =>
      rw [serves, Stage.state_serving] at wantsThen full
      have early := idled.early wantsThen
      have later := run.later (Nat.le_max_right first index)
      have reached : (laps first).stage.state.lastFull.toNat + burstInterval settings ≤ start :=
        Nat.le_trans passed (Nat.le_trans later began)
      omega

def ticksBefore (laps : Nat → Lap) (count : Nat) : Nat :=
  ((List.range count).map fun index => (laps index).ticks).sum

theorem ticksBefore_succ (laps : Nat → Lap) (count : Nat) :
    ticksBefore laps (count + 1) = ticksBefore laps count + (laps count).ticks := by
  simp [ticksBefore, List.range_succ]

theorem ticksBefore_mono {first last : Nat} (order : first ≤ last) :
    ticksBefore laps first ≤ ticksBefore laps last := by
  induction last, order using Nat.le_induction with
  | base => exact Nat.le_refl _
  | succ last order ih =>
      rw [ticksBefore_succ]
      omega

/-- The burst is long enough for what is still owed. -/
theorem EndlessRun.owes (run : EndlessRun settings laps) (serving : ∀ index, (laps index).Serving)
    (follows : (laps 0).events.any WindowEvent.followUp = true) (index : Nat) :
    burstScans settings ≤ (laps index).stage.state.burstLeft + ticksBefore laps index := by
  induction index with
  | zero =>
      obtain ⟨_, _, surveyed, _⟩ := (run.ran 0).resolved
      obtain ⟨outlook, serves⟩ := serving 0
      rw [Lap.events, serves] at follows
      have burst := (surveyed.heard outlook serves).1.burst follows
      rw [serves, Stage.state, burst]
      exact Nat.le_add_right _ _
  | succ index ih =>
      obtain ⟨_, _, _, resolved⟩ := (run.ran index).resolved
      obtain ⟨_, _, surveyed, _⟩ := (run.ran (index + 1)).resolved
      have follows := (run.chained index).1
      cases surveyed.burst with
      | inr reset =>
          rw [reset]
          exact Nat.le_add_right _ _
      | inl same =>
          rw [same, follows, ticksBefore_succ, Lap.ticks]
          cases resolved with
          | rested _ _ apart => exact absurd (serving index) apart
          | idled serves idled =>
              rw [serves, Stage.state] at ih
              rw [idled.state, idled.ticks]
              exact ih
          | ticked serves ticked =>
              rw [serves, Stage.state] at ih
              have burst := ticked.burst
              rw [ticked.ticks]
              omega

theorem EndlessRun.burst_ticks (run : EndlessRun settings laps)
    (serving : ∀ index, (laps index).Serving)
    (follows : (laps 0).events.any WindowEvent.followUp = true) :
    ∃ count, burstScans settings ≤ ticksBefore laps count := by
  have reaches : ∀ scans, scans ≤ burstScans settings →
      ∃ count, scans ≤ ticksBefore laps count := by
    intro scans
    induction scans with
    | zero => exact fun _ => ⟨0, Nat.zero_le _⟩
    | succ scans ih =>
        intro within
        obtain ⟨count, reached⟩ := ih (Nat.le_of_succ_le within)
        by_cases enough : scans + 1 ≤ ticksBefore laps count
        · exact ⟨count, enough⟩
        · have owed := run.owes serving follows count
          have wants : (laps count).stage.state.wantsTick := Or.inr (by omega)
          obtain ⟨index, order, once⟩ := run.next_tick serving wants
          refine ⟨index + 1, ?_⟩
          have earlier : ticksBefore laps count ≤ ticksBefore laps index := ticksBefore_mono order
          rw [ticksBefore_succ, once]
          omega
  exact reaches _ (Nat.le_refl _)

end Endless

/-- Iterations without a tick and without a change of the flags keep the time
of the last tick. -/
theorem LoopRun.full {first last : Lap} {between : List Lap} {bound : Int}
    (run : LoopRun settings (first :: (between ++ [last])))
    (quiet : ∀ lap ∈ between, lap.ticks = 0)
    (steady : ∀ lap ∈ between ++ [last], ¬ lap.Toggles) (full : bound ≤ first.after.lastFull) :
    bound ≤ last.stage.state.lastFull := by
  have kept : ∀ lap ∈ between ++ [last], lap.stage.state.lastFull = lap.before.lastFull := by
    intro lap member
    obtain ⟨_, _, surveyed, _⟩ := (run.ran lap (List.mem_cons_of_mem _ member)).resolved
    exact (surveyed.full.resolve_right fun toggled => steady lap member toggled.1).2
  induction between generalizing first with
  | nil =>
      have chained := List.isChain_cons_cons.mp run.chained
      rw [kept last List.mem_cons_self, chained.1.1]
      exact full
  | cons next rest ih =>
      have chained := List.isChain_cons_cons.mp run.chained
      have tail : LoopRun settings (next :: (rest ++ [last])) :=
        ⟨fun each member => run.ran each (List.mem_cons_of_mem _ member), chained.2⟩
      obtain ⟨_, _, _, resolved⟩ := (tail.ran next List.mem_cons_self).resolved
      have still : next.after.lastFull = next.stage.state.lastFull := by
        cases resolved with
        | rested _ same _ => exact same
        | idled serves idled => rw [idled.state, serves, Stage.state_serving]
        | ticked _ ticked =>
            have once := ticked.ticks
            have none := quiet next List.mem_cons_self
            rw [Lap.ticks] at none
            omega
      have passed : bound ≤ next.after.lastFull := by
        rw [still, kept next List.mem_cons_self, chained.1.1]
        exact full
      exact ih tail (fun lap member => quiet lap (List.mem_cons_of_mem _ member))
        (fun lap member => steady lap (List.mem_cons_of_mem _ member)) passed
        (fun lap member => kept lap (List.mem_cons_of_mem _ member))

theorem Ticked.only {outlook : Outlook} {after : LoopState} {began ended began' ended' : Instant}
    {completed completed' : Bool} {actions : List Action}
    (ticked : Ticked settings outlook after began ended completed actions)
    (member : .tick began' ended' completed' ∈ actions) : began' = began ∧ ended' = ended := by
  obtain ⟨rest, rfl, waits⟩ := ticked.acts
  cases List.mem_cons.mp member with
  | inl same =>
      obtain ⟨began, ended, _⟩ := Action.tick.inj same
      exact ⟨began, ended⟩
  | inr later =>
      obtain ⟨timeout, waits⟩ := waits _ later
      cases waits

/-- A lap that ticks is one that serves. -/
theorem Lap.Ran.ticked {lap : Lap} {began ended : Instant} {completed : Bool}
    (ran : lap.Ran settings) (member : .tick began ended completed ∈ lap.actions) :
    ∃ outlook completed, lap.stage = .serving outlook ∧
      Ticked settings outlook lap.after began ended completed lap.actions := by
  obtain ⟨start, _, _, resolved⟩ := ran.resolved
  cases resolved with
  | rested waits _ _ =>
      rw [waits] at member
      simp at member
  | idled serves idled =>
      obtain ⟨timeout, acts, _⟩ := idled.waits
      rw [acts] at member
      simp at member
  | @ticked outlook _ _ completed serves ticked =>
      obtain ⟨rfl, rfl⟩ := ticked.only member
      exact ⟨outlook, completed, serves, ticked⟩

/-- The next tick begins a burst interval after the last one, or a
reconciliation interval after it when no event is pending. -/
theorem LoopRun.spaced {first last : Lap} {between : List Lap} {outlook : Outlook}
    {began ended began' ended' : Instant} {completed completed' : Bool}
    (run : LoopRun settings (first :: (between ++ [last])))
    (quiet : ∀ lap ∈ between, lap.ticks = 0)
    (steady : ∀ lap ∈ between ++ [last], ¬ lap.Toggles)
    (earlier : .tick began ended completed ∈ first.actions)
    (next : .tick began' ended' completed' ∈ last.actions)
    (serves : last.stage = .serving outlook) :
    ended + burstInterval settings ≤ began' ∨
      (outlook.state.pendingEvent = false ∧ ended + outlook.recon ≤ began') := by
  obtain ⟨_, _, _, ticked⟩ := (run.ran first List.mem_cons_self).ticked earlier
  have member : last ∈ first :: (between ++ [last]) := by simp
  obtain ⟨_, _, servesNext, tickedNext⟩ := (run.ran last member).ticked next
  obtain rfl := Stage.serving.inj (serves.symm.trans servesNext)
  have full := run.full quiet steady ticked.full
  rw [serves, Stage.state_serving] at full
  cases tickedNext.spaced with
  | inl burst => exact Or.inl (Int.ofNat_le.mp (by push_cast; omega))
  | inr recon => exact Or.inr ⟨recon.1, Int.ofNat_le.mp (by push_cast; omega)⟩

/-- Once an event of a KakaoTalk window has been drained, and as long as
blocking stays enabled and KakaoTalk runs, no wait before the next tick is
longer than a burst interval, and a follow-up event is followed by the ticks of
a burst.  Unless the flags change, a tick begins a burst interval after the one
before it, or, with no event pending, a reconciliation interval after it. -/
theorem drained_event_is_served (settings : Config.AppSettings) :
    (∀ lap later, LoopRun settings (lap :: later) → (∀ each ∈ lap :: later, each.Serving) →
      lap.events ≠ [] → ∀ timeout ∈ waitsBeforeTick ((lap :: later).flatMap Lap.actions),
        timeout ≤ max (millis 1) (burstInterval settings)) ∧
    (∀ laps, EndlessRun settings laps → (∀ index, (laps index).Serving) →
      (laps 0).events.any WindowEvent.followUp = true →
        ∃ count, burstScans settings ≤ ticksBefore laps count) ∧
    (∀ first between last outlook, LoopRun settings (first :: (between ++ [last])) →
      (∀ lap ∈ between, lap.ticks = 0) → (∀ lap ∈ between ++ [last], ¬ lap.Toggles) →
      last.stage = .serving outlook → ∀ began ended completed began' ended' completed',
        .tick began ended completed ∈ first.actions →
        .tick began' ended' completed' ∈ last.actions →
          ended + burstInterval settings ≤ began' ∨
            (outlook.state.pendingEvent = false ∧ ended + outlook.recon ≤ began')) := by
  refine ⟨fun lap later run serving some_ timeout member => ?_,
    fun laps run serving follows => run.burst_ticks serving follows,
    fun first between last outlook run quiet steady serves _ _ _ _ _ _ earlier next =>
      run.spaced quiet steady earlier next serves⟩
  obtain ⟨outlook, serves⟩ := serving lap List.mem_cons_self
  obtain ⟨_, _, surveyed, _⟩ := (run.ran lap List.mem_cons_self).resolved
  rw [Lap.events, serves] at some_
  have pending := (surveyed.heard outlook serves).1.pending some_
  exact run.waits_short serving (by rw [serves]; exact pending) member

/-- KakaoTalk is process 5, and its window 1 has an event whenever the loop looks until
`last`.  Every wait ends after 60 milliseconds at the latest. -/
def wokenHandler (last : Instant) : (call : LoopCall) → Clockwork → call.Answer × Clockwork
  | .load flag, before => (decide (flag ≠ .stopping), before)
  | .takeReset, before => (false, before)
  | .alive, before | .hooked, before | .install _, before => (true, before)
  | .publish _, before | .watch _, before | .remove, before | .clearRestoreFailures, before
  | .clearTransient, before => ((), before)
  | .now, before => (before.clock, before)
  | .scan, before => (some [5], before)
  | .events, before =>
      (if before.clock ≤ last then [{ hwnd := 1, followUp := true }] else [], before)
  | .windowPid _, before => (5, before)
  | .offRetry state _, before => (state, before)
  | .wait timeout, before =>
      ((), { clock := before.clock + min timeout (millis 60)
             actions := before.actions ++ [.wait timeout] })
  | .guardedTick _, before =>
      (true, { before with actions := before.actions ++ [.tick before.clock before.clock true] })

theorem wokenHandler_realizes (last : Instant) (call : LoopCall) (before : Clockwork) :
    clockwork.step call before (wokenHandler last call before).1
      (wokenHandler last call before).2 := by
  cases call with
  | wait timeout => exact ⟨Nat.le_add_right _ _, rfl⟩
  | guardedTick pids =>
      exact ⟨Nat.le_refl _, _, _, Nat.le_refl _, Nat.le_refl _, Nat.le_refl _, rfl⟩
  | now => exact ⟨Nat.le_refl _, rfl, rfl⟩
  | _ => exact ⟨Nat.le_refl _, rfl⟩

def wokenSettings : Config.AppSettings :=
  { burstScanIterations := 2, burstScanIntervalMs := 1000 }

/-- An iteration on that system from a state and a time. -/
def wokenLap (last : Instant) (before : LoopState) (began : Instant) : Lap :=
  let found := (survey wokenSettings before).exec (wokenHandler last) { clock := began }
  let served := (found.1.run wokenSettings).exec (wokenHandler last) found.2
  { before := before
    stage := found.1
    after := served.1
    began := began
    ended := served.2.clock
    actions := served.2.actions }

theorem wokenLap_ran (last : Instant) (before : LoopState) (began : Instant) :
    (wokenLap last before began).Ran wokenSettings :=
  ⟨_, runs_exec (wokenHandler_realizes last) _ _, runs_exec (wokenHandler_realizes last) _ _⟩

/-- The variables of the loop after twenty seconds, when the worker starts. -/
def wokenStart : LoopState :=
  (startLoop.exec (wokenHandler (seconds 20)) { clock := seconds 20 }).1

/-- The first iteration, with the event that wakes it. -/
def wokenFirst : Lap := wokenLap (seconds 20) wokenStart (seconds 20)

def wokenSecond : Lap := wokenLap (seconds 20) wokenFirst.after wokenFirst.ended

theorem woken_run : LoopRun wokenSettings [wokenFirst, wokenSecond] where
  ran lap member := by
    rw [List.mem_cons, List.mem_singleton] at member
    cases member with
    | inl first => exact first ▸ wokenLap_ran _ _ _
    | inr second => exact second ▸ wokenLap_ran _ _ _
  chained := List.isChain_cons_cons.mpr ⟨⟨rfl, Nat.le_refl _⟩, List.IsChain.singleton _⟩

/-- Blocking is enabled, and every scan finds process 5. -/
def Calm : (call : LoopCall) → Clockwork → call.Answer → Prop
  | .load flag, _, answer => answer = decide (flag ≠ .stopping)
  | .scan, _, found => found = some [5]
  | _, _, _ => True

theorem wokenHandler_calm (last : Instant) (call : LoopCall) (before : Clockwork) :
    (clockwork.answering Calm).step call before (wokenHandler last call before).1
      (wokenHandler last call before).2 := by
  refine ⟨?_, wokenHandler_realizes last call before⟩
  cases call <;> trivial

section Calm

variable {state : LoopState} {before : Clockwork}

/-- The loop knows process 5, or is about to scan. -/
def LoopState.Aware (state : LoopState) : Prop :=
  state.lastPidScan = none ∨ state.cachedPids = [5]

theorem ensures_load {flag : Flag} :
    (clockwork.answering Calm).ensures (request (.load flag))
      (fun answer _ => answer = decide (flag ≠ .stopping)) before := by
  rw [request, ensures_ask]
  intro answer after step
  exact step.1

theorem ensures_scan :
    (clockwork.answering Calm).ensures (request .scan) (fun found _ => found = some [5])
      before := by
  rw [request, ensures_ask]
  intro found after step
  exact step.1

theorem noteReset_aware (aware : state.Aware) :
    (clockwork.answering Calm).ensures (noteReset state) (fun next _ => next.Aware) before := by
  refine ensures_seq ensures_trivial fun reset _ _ => ?_
  cases reset with
  | false => exact aware
  | true => exact ensures_seq ensures_trivial fun _ _ _ => aware

theorem noteFlags_aware (aware : state.Aware) :
    (clockwork.answering Calm).ensures (noteFlags state)
      (fun next _ => next.Aware ∧ next.wasEnabled = true) before := by
  refine ensures_seq ensures_load fun enabled _ loaded => ?_
  refine ensures_seq ensures_trivial fun aggressive _ _ => ?_
  have isEnabled : enabled = true := loaded
  cases state.changed enabled aggressive with
  | false => exact ⟨aware, isEnabled⟩
  | true =>
      refine ensures_seq ensures_trivial fun instant _ _ => ⟨?_, isEnabled⟩
      cases aware with
      | inl unscanned => exact Or.inl (by simp [unscanned])
      | inr known => exact Or.inr known

theorem scanPids_known {settings : Config.AppSettings} (aware : state.Aware) :
    (clockwork.answering Calm).ensures (scanPids settings state)
      (fun result _ => result.1.cachedPids = [5]) before := by
  have checking : ∀ interval start, (clockwork.answering Calm).ensures (scanDue state interval)
      (fun due _ => due = true ∨ state.cachedPids = [5]) start := by
    intro interval start
    unfold scanDue
    cases scanned : state.lastPidScan with
    | none => exact Or.inl rfl
    | some instant =>
        have known := aware.resolve_left (by simp [scanned])
        exact ensures_seq ensures_trivial fun _ _ _ => Or.inr known
  refine ensures_seq ensures_trivial fun _ _ _ => ?_
  refine ensures_seq ensures_trivial fun _ _ _ => ?_
  refine ensures_seq (checking _ _) fun due _ known => ?_
  cases due with
  | false => exact known.resolve_left (by simp)
  | true =>
      have rescans : ∀ start, (clockwork.answering Calm).ensures (rescan state)
          (fun next _ => next.cachedPids = [5]) start := by
        intro start
        refine ensures_seq ensures_scan fun found _ scanned => ?_
        rw [scanned]
        refine ensures_seq ensures_trivial fun _ _ _ => ?_
        exact ensures_seq ensures_trivial fun _ _ _ => rfl
      refine ensures_seq (rescans _) fun next _ known => ?_
      exact ensures_seq ensures_trivial fun _ _ _ => known

variable {settings : Config.AppSettings} {σ : Type} {start : σ}
  {env : Environment LoopCall LoopCall.Answer σ}

theorem afterTick_pids {completed : Bool} :
    env.ensures (afterTick settings state completed)
      (fun after _ => after.cachedPids = state.cachedPids) start := by
  unfold afterTick
  split
  · exact ensures_seq ensures_trivial fun _ _ _ => rfl
  · split
    · exact rfl
    · exact ensures_seq ensures_trivial fun _ _ _ => rfl

theorem serve_pids {outlook : Outlook} :
    env.ensures (serve settings outlook)
      (fun after _ => after.cachedPids = outlook.state.cachedPids) start := by
  refine ensures_seq ensures_trivial fun _ _ _ => ?_
  refine ensures_seq ensures_trivial fun later _ _ => ?_
  cases later with
  | true =>
      refine ensures_seq ensures_trivial fun _ _ _ => ?_
      refine ensures_seq ensures_trivial fun _ _ _ => ?_
      exact ensures_seq ensures_trivial fun _ _ _ => rfl
  | false =>
      refine ensures_seq ensures_trivial fun completed _ _ => ?_
      refine ensures_seq ensures_trivial fun _ _ _ => ?_
      refine ensures_seq ensures_trivial fun _ _ _ => ?_
      exact ensures_seq ensures_trivial fun _ _ _ => afterTick_pids

/-- Every survey finds KakaoTalk. -/
theorem survey_serves (aware : state.Aware) :
    (clockwork.answering Calm).ensures (survey settings state)
      (fun stage _ => ∃ outlook, stage = .serving outlook ∧ outlook.state.cachedPids = [5])
      before := by
  refine ensures_seq (noteReset_aware aware) fun _ _ aware => ?_
  refine ensures_seq (noteFlags_aware aware) fun flagged _ facts => ?_
  obtain ⟨aware, enabled⟩ := facts
  simp only [enabled, Bool.not_true, Bool.false_eq_true, if_false]
  refine ensures_seq (scanPids_known aware) fun _ _ known => ?_
  refine ensures_seq (ensures_does (notePresence_kept settings)) fun _ _ present => ?_
  refine ensures_seq (ensures_does notePids_kept) fun _ _ noted => ?_
  refine ensures_seq (ensures_does (dropHook_onward settings)) fun _ _ dropped => ?_
  refine ensures_seq (ensures_does (installHook_kept settings)) fun _ _ installed => ?_
  refine ensures_seq (ensures_does drainEvents_heard) fun drained _ drain => ?_
  have pids : drained.1.cachedPids = [5] := calc
    _ = _ := drain.1.pids
    _ = _ := installed.pids
    _ = _ := dropped.2.1
    _ = _ := noted.pids
    _ = _ := present.pids
    _ = [5] := known
  refine ensures_seq ensures_trivial fun recon _ _ => ?_
  rw [pids]
  exact ⟨_, rfl, pids⟩

theorem wokenLap_serves (last : Instant) (began : Instant) (aware : state.Aware) :
    (wokenLap last state began).Serving ∧
      (wokenLap last state began).after.cachedPids = [5] := by
  have surveyed := ensures_runs (survey_serves aware)
    (runs_exec (wokenHandler_calm last) (survey wokenSettings state) { clock := began })
  obtain ⟨outlook, serves, known⟩ := surveyed
  refine ⟨⟨outlook, serves⟩, ?_⟩
  have kept := ensures_runs serve_pids
    (runs_exec (wokenHandler_calm last) (serve wokenSettings outlook)
      ((survey wokenSettings state).exec (wokenHandler last) { clock := began }).2)
  rw [known] at kept
  unfold wokenLap
  simp only [serves]
  exact kept

end Calm

/-- The window has events for a second, and half a second passes between iterations. -/
def wokenLaps : Nat → Lap
  | 0 => wokenLap (seconds 21) wokenStart (seconds 20)
  | index + 1 =>
      wokenLap (seconds 21) (wokenLaps index).after ((wokenLaps index).ended + millis 500)

theorem wokenLaps_ran (index : Nat) : (wokenLaps index).Ran wokenSettings := by
  cases index with
  | zero => exact wokenLap_ran _ _ _
  | succ index => exact wokenLap_ran _ _ _

theorem wokenLaps_follow (index : Nat) : (wokenLaps index).Follows (wokenLaps (index + 1)) :=
  ⟨rfl, Nat.le_add_right _ _⟩

theorem wokenLaps_serving (index : Nat) :
    (wokenLaps index).Serving ∧ (wokenLaps index).after.cachedPids = [5] := by
  induction index with
  | zero => exact wokenLap_serves _ _ (Or.inl rfl)
  | succ index ih => exact wokenLap_serves _ _ (Or.inr ih.2)

theorem wokenLaps_clock (index : Nat) : index * millis 500 ≤ (wokenLaps index).began := by
  induction index with
  | zero => exact Nat.zero_le _
  | succ index ih =>
      have forward := (wokenLaps_ran index).forward
      have next : (wokenLaps (index + 1)).began = (wokenLaps index).ended + millis 500 := rfl
      rw [next, Nat.succ_mul]
      exact Nat.add_le_add_right (Nat.le_trans ih forward) _

theorem wokenLaps_run : EndlessRun wokenSettings wokenLaps where
  ran := wokenLaps_ran
  chained := wokenLaps_follow
  clock bound :=
    ⟨bound, Nat.le_trans (Nat.le_mul_of_pos_right _ (by decide)) (wokenLaps_clock bound)⟩

theorem woken_serving : ∀ lap ∈ [wokenFirst, wokenSecond], lap.Serving := by
  have first := @wokenLap_serves wokenStart (seconds 20) (seconds 20) (Or.inl rfl)
  have second := wokenLap_serves (seconds 20) wokenFirst.ended (Or.inr first.2)
  intro lap member
  rw [List.mem_cons, List.mem_singleton] at member
  cases member with
  | inl same => exact same ▸ first.1
  | inr same => exact same ▸ second.1

set_option maxRecDepth 8000 in
/-- The wait after a tick ends early, no event is pending, and the
reconciliation interval has passed: the second tick of the burst follows 60
milliseconds after the first, not a second. -/
theorem woken_ticks_close :
    LoopRun wokenSettings [wokenFirst, wokenSecond] ∧
      (∀ lap ∈ [wokenFirst, wokenSecond], lap.Serving) ∧
        wokenFirst.events.any WindowEvent.followUp = true ∧
          burstScans wokenSettings = 2 ∧ wokenSecond.after.burstLeft = 0 ∧
            ∃ ended began, .tick ended ended true ∈ wokenFirst.actions ∧
              .tick began began true ∈ wokenSecond.actions ∧
                began < ended + burstInterval wokenSettings :=
  ⟨woken_run, woken_serving, by decide, by decide, by decide, seconds 20, seconds 20 + millis 60,
    by decide, by decide, by decide⟩

set_option maxRecDepth 8000 in
/-- The second iteration of the endless run drains an event a moment after a tick, waits
and leaves the tick to the third one. -/
theorem woken_served :
    (∀ timeout ∈ waitsBeforeTick ([wokenLaps 1, wokenLaps 2].flatMap Lap.actions),
      timeout ≤ max (millis 1) (burstInterval wokenSettings)) ∧
    (∃ count, burstScans wokenSettings ≤ ticksBefore wokenLaps count) ∧
    ∃ outlook, wokenSecond.stage = .serving outlook ∧
      (seconds 20 + burstInterval wokenSettings ≤ seconds 20 + millis 60 ∨
        (outlook.state.pendingEvent = false ∧
          seconds 20 + outlook.recon ≤ seconds 20 + millis 60)) := by
  have served := drained_event_is_served wokenSettings
  have pair : LoopRun wokenSettings [wokenLaps 1, wokenLaps 2] := by
    refine ⟨fun lap member => ?_, ?_⟩
    · rw [List.mem_cons, List.mem_singleton] at member
      cases member with
      | inl first => exact first ▸ wokenLaps_ran 1
      | inr second => exact second ▸ wokenLaps_ran 2
    · exact List.isChain_cons_cons.mpr ⟨wokenLaps_follow 1, List.IsChain.singleton _⟩
  have serving : ∀ lap ∈ [wokenLaps 1, wokenLaps 2], lap.Serving := by
    intro lap member
    rw [List.mem_cons, List.mem_singleton] at member
    cases member with
    | inl first => exact first ▸ (wokenLaps_serving 1).1
    | inr second => exact second ▸ (wokenLaps_serving 2).1
  obtain ⟨outlook, serves⟩ := woken_serving wokenSecond (by simp)
  have steady : ∀ lap ∈ [wokenSecond], ¬ lap.Toggles := by
    intro lap member
    rw [List.mem_singleton.mp member]
    unfold Lap.Toggles Toggled
    decide
  refine ⟨served.1 _ _ pair serving (by decide), ?_, outlook, serves, ?_⟩
  · exact served.2.1 wokenLaps wokenLaps_run (fun index => (wokenLaps_serving index).1) (by decide)
  · exact served.2.2 wokenFirst [] wokenSecond outlook woken_run (by simp) steady serves
      (seconds 20) (seconds 20) true (seconds 20 + millis 60) (seconds 20 + millis 60) true
      (by decide) (by decide)

end LayoutAdblock.Engine
