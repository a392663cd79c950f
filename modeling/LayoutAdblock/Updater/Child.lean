import LayoutAdblock.Updater.Quiet

namespace LayoutAdblock.Updater

open Interaction Interaction.Environment Interaction.Fallible Interaction.Program

/-! # The child that the helper waits for -/

/-- The calls of the helper with what they were answered, in order. -/
abbrev Trace := List (Event Call Call.Answer)

/-- The helper has started an app and watches for its ready file. -/
def spawned (args : List String) (stamp : Nat) (child : UInt32) : Event Call Call.Answer :=
  { op := .spawn args (some stamp), answer := .ok child }

def alive : Event Call Call.Answer := { op := .tryWait, answer := .ok none }

/-- The ready file holds the number of the child and nothing else. -/
def acknowledgment (stamp : Nat) (child : UInt32) : Event Call Call.Answer :=
  { op := .readReady stamp, answer := some (toString child) }

def clock (time : Nanos) : Event Call Call.Answer := { op := .now, answer := time }

/-- No poll has seen the child exit, and none has failed to look. -/
def StillUp (trace : Trace) : Prop := ∀ event ∈ trace, event.op = .tryWait → event = alive

theorem StillUp.snoc {trace : Trace} {event : Event Call Call.Answer} (up : StillUp trace)
    (last : event.op = .tryWait → event = alive) : StillUp (trace ++ [event]) := by
  intro found member
  rcases List.mem_append.mp member with earlier | here
  · exact up found earlier
  · rw [List.mem_singleton.mp here]
    exact last

/-- The child was started with these arguments, and the acknowledgment it was asked for has
not been read. -/
structure Unacknowledged (args : List String) (stamp : Nat) (child : UInt32) (trace : Trace) :
    Prop where
  started : spawned args stamp child ∈ trace
  silent : acknowledgment stamp child ∉ trace

def Watched (args : List String) (stamp : Nat) (child : UInt32) (trace : Trace) :
    Option Nanos → Prop
  | none => Unacknowledged args stamp child trace
  | some first => ∃ before between, Unacknowledged args stamp child before ∧
      trace = before ++ acknowledgment stamp child :: clock first :: between

/-- At the first poll that found an acknowledgment, or at a later one that found it too, the
clock stood 250 ms or more past the first one, and no poll has found the child gone. -/
def Survived (args : List String) (trace : Trace) : Prop :=
  ∃ stamp child before first between last after,
    trace = before ++
      acknowledgment stamp child :: clock first :: (between ++ clock last :: after) ∧
    Unacknowledged args stamp child before ∧
    (between = [] ∨ ∃ earlier, between = earlier ++ [alive, acknowledgment stamp child]) ∧
    first + milliseconds 250 ≤ last ∧
    StillUp trace

section Polls

variable {σ : Type} {env : Environment Call Call.Answer σ} {args : List String} {stamp : Nat}
  {child : UInt32} {trace : Trace} {event : Event Call Call.Answer}

theorem Watched.snoc {acknowledged : Option Nanos}
    (watched : Watched args stamp child trace acknowledged)
    (silent : event ≠ acknowledgment stamp child) :
    Watched args stamp child (trace ++ [event]) acknowledged := by
  cases acknowledged with
  | none =>
      refine ⟨List.mem_append_left _ watched.started, fun member => ?_⟩
      rcases List.mem_append.mp member with earlier | here
      · exact watched.silent earlier
      · exact silent (List.mem_singleton.mp here).symm
  | some first =>
      obtain ⟨before, between, unacknowledged, rfl⟩ := watched
      exact ⟨before, between ++ [event], unacknowledged, by simp⟩

theorem Watched.again {first : Nanos} (watched : Watched args stamp child trace (some first)) :
    Watched args stamp child (trace ++ [event]) (some first) := by
  obtain ⟨before, between, unacknowledged, rfl⟩ := watched
  exact ⟨before, between ++ [event], unacknowledged, by simp⟩

theorem clock_ne {time : Nanos} : clock time ≠ acknowledgment stamp child := by
  intro same
  cases congrArg Event.op same

theorem Survived.snoc (survived : Survived args trace) (other : event.op ≠ .tryWait) :
    Survived args (trace ++ [event]) := by
  obtain ⟨stamp, child, before, first, between, last, after, rfl, unacknowledged, seen, long, up⟩ :=
    survived
  exact ⟨stamp, child, before, first, between, last, after ++ [event], by simp, unacknowledged,
    seen, long, up.snoc fun tries => absurd tries other⟩

/-- Whatever the environment keeps, with a record of the calls. -/
abbrev Launch (σ : Type) := Recorded Call Call.Answer σ

theorem ensures_trace {op : Call} {post : op.Answer → Launch σ → Prop} {before : Launch σ}
    (holds : ∀ answer after, after.trace = before.trace ++ [{ op := op, answer := answer }] →
      post answer after) :
    env.recorded.ensures (ask op) post before :=
  ensures_ask.mpr fun answer after step => holds answer after step.2

theorem ensures_pollExit (before : Launch σ) :
    env.recorded.ensures pollExit.run
      (outcome (fun _ after => after.trace = before.trace ++ [alive]) fun _ _ => True) before := by
  apply wp_try (wp_always (ensures_trace fun answer after told => told))
  intro status after told
  cases status with
  | ok exit =>
      cases exit with
      | none => exact told
      | some status => trivial
  | error error =>
      apply wp_try (wp_always ensures_trivial)
      intro _ _ _
      apply wp_try (wp_always ensures_trivial)
      intro _ _ _
      trivial

/-- What a poll that found the child running makes of the ready file. -/
def Polled (args : List String) (stamp : Nat) (child : UInt32) (poll : Poll) (trace : Trace) :
    Prop :=
  StillUp trace ∧
    if poll.ready then Survived args trace else Watched args stamp child trace poll.acknowledged

/-- A clock that was read 250 ms after an earlier reading. -/
theorem late_enough {first time : Nat} (long : milliseconds 250 ≤ time - first) :
    first + milliseconds 250 ≤ time := by
  have apart : 250 * 1000000 ≤ time - first := long
  change first + 250 * 1000000 ≤ time
  omega

theorem StillUp.clock (up : StillUp trace) (time : Nanos) : StillUp (trace ++ [clock time]) :=
  up.snoc fun tries => by cases tries

theorem StillUp.read (up : StillUp trace) (stamp : Nat) (content : Option String) :
    StillUp (trace ++ [{ op := .readReady stamp, answer := content }]) :=
  up.snoc fun tries => by cases tries

theorem polled_first {first time : Nanos} (unacknowledged : Unacknowledged args stamp child trace)
    (up : StillUp trace) :
    Polled args stamp child { acknowledged := some first, ready := milliseconds 250 ≤ time - first }
      (trace ++ [acknowledgment stamp child] ++ [clock first] ++ [clock time]) := by
  have upTime := ((up.read stamp (some (toString child))).clock first).clock time
  refine ⟨upTime, ?_⟩
  by_cases long : milliseconds 250 ≤ time - first
  · rw [if_pos (decide_eq_true long)]
    exact ⟨stamp, child, trace, first, [], time, [], by simp, unacknowledged, .inl rfl,
      late_enough long, upTime⟩
  · rw [if_neg (by simpa using long)]
    exact ⟨trace, [clock time], unacknowledged, by simp⟩

theorem polled_later {first time : Nanos} (watched : Watched args stamp child trace (some first))
    (up : StillUp trace) :
    Polled args stamp child { acknowledged := some first, ready := milliseconds 250 ≤ time - first }
      (trace ++ [alive] ++ [acknowledgment stamp child] ++ [clock time]) := by
  have upTime := ((up.snoc fun _ => rfl).read stamp (some (toString child))).clock time
  refine ⟨upTime, ?_⟩
  by_cases long : milliseconds 250 ≤ time - first
  · rw [if_pos (decide_eq_true long)]
    obtain ⟨before, between, unacknowledged, rfl⟩ := watched
    exact ⟨stamp, child, before, first, between ++ [alive, acknowledgment stamp child], time, [],
      by simp, unacknowledged, .inr ⟨between, rfl⟩, late_enough long, upTime⟩
  · rw [if_neg (by simpa using long)]
    exact watched.again.again.again

theorem ensures_pollReady {acknowledged : Option Nanos} {before : Launch σ}
    (watched : Watched args stamp child trace acknowledged) (up : StillUp trace)
    (polled : before.trace = trace ++ [alive]) :
    env.recorded.ensures (pollReady child stamp acknowledged)
      (fun poll after => Polled args stamp child poll after.trace) before := by
  have watchedAlive : Watched args stamp child (trace ++ [alive]) acknowledged :=
    watched.snoc fun same => by cases congrArg Event.op same
  have upAlive : StillUp (trace ++ [alive]) := up.snoc fun _ => rfl
  apply ensures_seq (ensures_trace fun content after told => told)
  intro content seen told
  rw [polled] at told
  by_cases acknowledges : content = some (toString child)
  · rw [acknowledges] at told
    rw [if_pos acknowledges]
    cases acknowledged with
    | none =>
        apply ensures_seq (ensures_trace fun first after told => told)
        intro first started firstTold
        apply ensures_seq (ensures_trace fun time after told => told)
        intro time after timeTold
        rw [firstTold, told] at timeTold
        rw [pure_eq, ensures_done, timeTold]
        exact polled_first watchedAlive upAlive
    | some first =>
        apply ensures_seq (ensures_trace fun time after told => told)
        intro time after timeTold
        rw [told] at timeTold
        rw [pure_eq, ensures_done, timeTold]
        exact polled_later watched up
  · rw [if_neg acknowledges, pure_eq, ensures_done, told]
    refine ⟨upAlive.read stamp content, watchedAlive.snoc fun same => ?_⟩
    cases same
    exact acknowledges rfl

theorem ensures_pollChild {acknowledged : Option Nanos} {before : Launch σ}
    (watched : Watched args stamp child before.trace acknowledged) (up : StillUp before.trace) :
    env.recorded.ensures (pollChild child stamp acknowledged).run
      (outcome (fun poll after => Polled args stamp child poll after.trace) fun _ _ => True)
      before := by
  apply wp_try (ensures_pollExit before)
  intro _ seen told
  exact wp_always (ensures_pollReady watched up told)

theorem ensures_giveUpOnChild {before : Launch σ} :
    env.recorded.ensures giveUpOnChild.run
      (outcome (fun _ after => Survived args after.trace) fun _ _ => True) before := by
  apply wp_try (wp_always ensures_trivial)
  intro _ _ _
  apply wp_try (wp_always ensures_trivial)
  intro _ _ _
  trivial

/-- The loop ends well only after the child has survived its acknowledgment. -/
theorem ensures_awaitReady {acknowledged : Option Nanos} {before : Launch σ} {deadline : Nanos}
    {polls : Nat} (watched : Watched args stamp child before.trace acknowledged)
    (up : StillUp before.trace) :
    env.recorded.ensures (awaitReady child stamp deadline polls acknowledged).run
      (outcome (fun _ after => Survived args after.trace) fun _ _ => True) before := by
  induction polls generalizing acknowledged before with
  | zero =>
      apply wp_try (ensures_pollChild watched up)
      intro poll after polled
      rw [Polled] at polled
      cases ready : poll.ready with
      | true =>
          rw [ready] at polled
          exact polled.2
      | false => exact ensures_giveUpOnChild
  | succ polls ih =>
      apply wp_try (ensures_pollChild watched up)
      intro poll after polled
      rw [Polled] at polled
      cases ready : poll.ready with
      | true =>
          rw [ready] at polled
          exact polled.2
      | false =>
          rw [ready] at polled
          apply wp_try (wp_always (ensures_trace fun time after told => told))
          intro time looked lookedTold
          by_cases late : deadline ≤ time
          · rw [if_pos late]
            exact ensures_giveUpOnChild
          · rw [if_neg late]
            apply wp_try (wp_always (ensures_trace fun _ after told => told))
            intro _ slept sleptTold
            rw [lookedTold] at sleptTold
            apply ih
            · rw [sleptTold]
              exact (polled.2.snoc clock_ne).snoc fun same => by cases same
            · rw [sleptTold]
              exact (polled.1.clock time).snoc fun tries => by cases tries

/-- Neither a child nor a ready file has been looked at. -/
def Unwatched (trace : Trace) : Prop :=
  ∀ event ∈ trace, event.op ≠ .tryWait ∧ ∀ stamp, event.op ≠ .readReady stamp

theorem Unwatched.snoc (unwatched : Unwatched trace) (other : event.op ≠ .tryWait)
    (unread : ∀ stamp, event.op ≠ .readReady stamp) : Unwatched (trace ++ [event]) := by
  intro found member
  rcases List.mem_append.mp member with earlier | here
  · exact unwatched found earlier
  · rw [List.mem_singleton.mp here]
    exact ⟨other, unread⟩

theorem Unwatched.up (unwatched : Unwatched trace) : StillUp trace :=
  fun event member tries => absurd tries (unwatched event member).1

theorem Unwatched.silent (unwatched : Unwatched trace) : acknowledgment stamp child ∉ trace :=
  fun member => (unwatched _ member).2 stamp rfl

theorem ensures_launchAcknowledged {host : Host} {timeout : Nanos} {before : Launch σ}
    (unwatched : Unwatched before.trace) :
    env.recorded.ensures (launchAcknowledged host args stamp timeout).run
      (outcome (fun _ after => Survived args after.trace) fun _ _ => True) before := by
  have spawns : env.recorded.ensures (ask (.spawn args (some stamp)))
      (outcome (fun child after => after.trace = before.trace ++ [spawned args stamp child])
        fun _ _ => True) before := by
    apply ensures_trace
    intro answer after told
    cases answer with
    | ok child => exact told
    | error error => trivial
  apply wp_try (wp_attempt spawns)
  intro child launched told
  have unwatchedLaunch : Unwatched launched.trace := by
    rw [told]
    exact unwatched.snoc (fun same => by cases same) fun _ same => by cases same
  have started : spawned args stamp child ∈ launched.trace := by
    rw [told]
    exact List.mem_append_right _ List.mem_cons_self
  have watched : Watched args stamp child launched.trace none :=
    ⟨started, unwatchedLaunch.silent⟩
  apply wp_try (wp_always (ensures_trace fun start after told => told))
  intro start looked lookedTold
  apply ensures_awaitReady
  · rw [lookedTold]
    exact watched.snoc clock_ne
  · rw [lookedTold]
    exact unwatchedLaunch.up.clock start

theorem ensures_launchVerified {host : Host} {timeout : Nanos} {state : σ} :
    env.recorded.ensures (launchVerified host args (some timeout)).run
      (outcome (fun _ after => Survived args after.trace) fun _ _ => True) { state := state } := by
  have nothing : Unwatched [] := fun _ member => absurd member List.not_mem_nil
  have dates : env.recorded.ensures (ask .systemTime)
      (outcome (fun _ after => Unwatched after.trace) fun _ _ => True) { state := state } := by
    apply ensures_trace
    intro answer after told
    cases answer with
    | ok stamp =>
        rw [outcome, told]
        exact nothing.snoc (fun same => by cases same) fun _ same => by cases same
    | error error => trivial
  apply wp_try (wp_attempt dates)
  intro stamp dated unwatched
  have creates : env.recorded.ensures (ask (.createReadyDir stamp))
      (outcome (fun _ after => Unwatched after.trace) fun _ _ => True) dated := by
    apply ensures_trace
    intro answer after told
    cases answer with
    | ok _ =>
        rw [outcome, told]
        exact unwatched.snoc (fun same => by cases same) fun _ same => by cases same
    | error error => trivial
  apply wp_try (wp_attempt creates)
  intro _ created unwatched
  apply wp_afterwards (ensures_launchAcknowledged unwatched)
  intro result ended survived
  cases result with
  | error error => exact ensures_trivial
  | ok _ =>
      apply wp_seq (ensures_trace fun _ after told => told)
      intro _ removed removedTold
      apply ensures_trace
      intro _ last lastTold
      rw [outcome, lastTold, removedTold]
      exact (survived.snoc fun same => by cases same).snoc fun same => by cases same

end Polls

/-- An exit status is that of a process that has ended, and so has one that was waited for. -/
def Call.Ends : (op : Call) → op.Answer → Prop
  | .tryWait, .ok (some _) => True
  | .waitChild, _ => True
  | _, _ => False

/-- Whether the new process runs: it can end at any time, and starts when it is spawned. -/
def process : Environment Call Call.Answer Bool where
  step op running answer after :=
    (op.Ends answer → after = false) ∧ (after = true → running = true ∨ op.Starts answer)

section Process

variable {running : Bool}

theorem ensures_still_gone {op : Call} {post : op.Answer → Bool → Prop}
    (holds : ∀ answer, (op.Starts answer → post answer true) ∧ post answer false) :
    process.ensures (ask op) post false := by
  apply ensures_ask.mpr
  intro answer after step
  cases after with
  | false => exact (holds answer).2
  | true =>
      rcases step.2 rfl with running | starts
      · cases running
      · exact (holds answer).1 starts

/-- A process that is gone stays gone while none is spawned. -/
theorem wp_gone {α : Type} {program : HelperM α} (only : program.Only Writing) :
    process.wp (fun running => running = false) program (fun _ running => running = false)
      false := by
  have stays : ∀ (op : Call) (before : Bool) (answer : op.Answer) (after : Bool),
      op.Spawnless → before = false → process.step op before answer after →
        after = false := by
    rintro op _ answer after unstarted rfl step
    cases after with
    | false => rfl
    | true =>
        rcases step.2 rfl with running | starts
        · cases running
        · exact absurd starts (unstarted answer)
  exact wp_of_step (spawnless_of_writes only) (fun _ _ _ _ _ torn => False.elim torn) stays
    (fun _ gone => gone) rfl

theorem ensures_waitChild :
    process.ensures (ask .waitChild) (fun _ running => running = false) running :=
  ensures_ask.mpr fun _ _ step => step.1 trivial

theorem giveUpOnChild_ends :
    process.ensures giveUpOnChild.run
      (outcome (fun _ _ => True) fun _ running => running = false) running := by
  apply wp_try (wp_always ensures_trivial)
  intro _ killed _
  apply wp_try (wp_always ensures_waitChild)
  intro _ waited gone
  exact gone

theorem pollChild_ends (child : UInt32) (stamp : Nat) (acknowledged : Option Nanos) :
    process.ensures (pollChild child stamp acknowledged).run
      (outcome (fun _ _ => True) fun _ running => running = false) running := by
  have exits : process.ensures pollExit.run
      (outcome (fun _ _ => True) fun _ running => running = false) running := by
    have looks : process.ensures (ask .tryWait)
        (fun answer running => ∀ status, answer = .ok (some status) → running = false) running := by
      apply ensures_ask.mpr
      rintro _ after step status rfl
      exact step.1 trivial
    apply wp_try (wp_always looks)
    intro answer seen exited
    cases answer with
    | ok exit =>
        cases exit with
        | none => trivial
        | some status => exact exited status rfl
    | error error =>
        apply wp_try (wp_always ensures_trivial)
        intro _ killed _
        apply wp_try (wp_always ensures_waitChild)
        intro _ waited gone
        exact gone
  apply wp_try exits
  intro _ seen _
  exact wp_always ensures_trivial

/-- The loop reports no failure of a child that runs. -/
theorem awaitReady_ends (child : UInt32) (stamp : Nat) (deadline : Nanos) (polls : Nat)
    (acknowledged : Option Nanos) :
    process.ensures (awaitReady child stamp deadline polls acknowledged).run
      (outcome (fun _ _ => True) fun _ running => running = false) running := by
  induction polls generalizing acknowledged running with
  | zero =>
      apply wp_try (pollChild_ends child stamp acknowledged)
      intro poll seen _
      cases poll.ready with
      | true => trivial
      | false => exact giveUpOnChild_ends
  | succ polls ih =>
      apply wp_try (pollChild_ends child stamp acknowledged)
      intro poll seen _
      cases poll.ready with
      | true => trivial
      | false =>
          apply wp_try (wp_always ensures_trivial)
          intro time looked _
          by_cases late : deadline ≤ time
          · rw [if_pos late]
            exact giveUpOnChild_ends
          · rw [if_neg late]
            apply wp_try (wp_always ensures_trivial)
            intro _ slept _
            exact ih poll.acknowledged

theorem spawn_ends (args : List String) (ready : Option Nat) :
    process.ensures (ask (.spawn args ready))
      (outcome (fun _ _ => True) fun _ running => running = false) false := by
  apply ensures_still_gone
  intro answer
  cases answer with
  | ok child => exact ⟨fun _ => trivial, trivial⟩
  | error error => exact ⟨fun starts => starts.elim, rfl⟩

/-- A launch that fails leaves no process behind. -/
theorem launchVerified_ends (host : Host) (args : List String) (timeout : Option Nanos) :
    process.ensures (launchVerified host args timeout).run
      (outcome (fun _ _ => True) fun _ running => running = false) false := by
  cases timeout with
  | none =>
      apply wp_try (wp_attempt (spawn_ends args none))
      intro child started _
      trivial
  | some timeout =>
      have dates : process.ensures (ask .systemTime)
          (outcome (fun _ running => running = false) fun _ running => running = false) false := by
        apply ensures_still_gone
        intro answer
        cases answer with
        | ok stamp => exact ⟨fun starts => starts.elim, rfl⟩
        | error error => exact ⟨fun starts => starts.elim, rfl⟩
      apply wp_try (wp_attempt dates)
      rintro stamp _ rfl
      have creates : process.ensures (ask (.createReadyDir stamp))
          (outcome (fun _ running => running = false) fun _ running => running = false) false := by
        apply ensures_still_gone
        intro answer
        cases answer with
        | ok _ => exact ⟨fun starts => starts.elim, rfl⟩
        | error error => exact ⟨fun starts => starts.elim, rfl⟩
      apply wp_try (wp_attempt creates)
      rintro _ _ rfl
      have launches : process.ensures (launchAcknowledged host args stamp timeout).run
          (outcome (fun _ _ => True) fun _ running => running = false) false := by
        apply wp_try (wp_attempt (spawn_ends args (some stamp)))
        intro child started _
        apply wp_try (wp_always ensures_trivial)
        intro start looked _
        exact awaitReady_ends child stamp (start + timeout) host.polls none
      apply wp_afterwards launches
      intro result ended failed
      cases result with
      | ok _ => exact ensures_trivial
      | error error =>
          cases failed
          have cleans : (do
              ask (.removeReady stamp)
              ask (.removeReadyDir stamp) : HelperM Unit).Only Writing :=
            ⟨rfl, fun _ => writes_ask _ rfl⟩
          exact wp_weaken (wp_gone cleans) fun _ _ => trivial

end Process

/-- The installed file is not written while the new process runs. -/
theorem relaunchUpdated_stops {host : Host} {options : UpdateOptions} {running : Bool}
    (stops : process.Stops (fun op => op.Writes .current) (relaunchUpdated host options).run false
      running) : running = false := by
  rw [relaunchUpdated] at stops
  cases relaunches : options.relaunch with
  | false =>
      rw [relaunches] at stops
      cases stops
  | true =>
      rw [relaunches] at stops
      rcases stops.unbind with launching | ⟨result, launched, launch, rest⟩
      · have quiet : (launchVerified host options.relaunchArgs options.readinessTimeout).run.Only
            fun op => ¬ op.Writes .current :=
          (launchVerified_starts host options.relaunchArgs options.readinessTimeout).mono
            fun _ starting => starting.quiet rfl .current
        exact (launching.not_only quiet).elim
      · have ends := ensures_runs
          (launchVerified_ends host options.relaunchArgs options.readinessTimeout) launch
        cases result with
        | ok _ => cases rest
        | error error =>
            obtain rfl : launched = false := ends
            have rollsBack : (do
                restorePreviousVersion host
                throw (.relaunchFailed error) : HelperE HelperError Unit).run.Only
                  Writing :=
              only_try (restorePreviousVersion_writes host) fun _ => trivial
            have stays := wp_observes (wp_gone rollsBack) rfl rest.observes
            exact stays

/-- A readiness wait succeeds only after the child has outlived its acknowledgment by 250 ms,
and a launch that fails leaves no process whose image a rollback could replace. -/
theorem child_ready_or_gone (host : Host) :
    (∀ (σ : Type) (env : Environment Call Call.Answer σ) args timeout before after,
      env.recorded.Runs (launchVerified host args (some timeout)).run { state := before }
          (.ok ()) after →
        Survived args after.trace) ∧
    (∀ args timeout error running,
      process.Runs (launchVerified host args timeout).run false (.error error) running →
        running = false) ∧
    ∀ options running,
      process.Stops (fun op => op.Writes .current) (relaunchUpdated host options).run false
          running →
        running = false := by
  refine ⟨?_, ?_, fun options running => relaunchUpdated_stops⟩
  · intro σ env args timeout before after run
    have survives := ensures_runs ensures_launchVerified run
    exact survives
  · intro args timeout error running run
    have ends := ensures_runs (launchVerified_ends host args timeout) run
    exact ends

/-- Every call succeeds, and the child runs until it is waited for. -/
def obliging (content : Option String) : (op : Call) → op.Answer
  | .file (.pathExists _) | .file (.isFile _) => true
  | .file (.metadata _) => .ok 1
  | .file (.canonicalize _) => .ok ""
  | .file (.read _) => .ok []
  | .file (.openRead _) | .file (.createNew _) | .file (.copy _ _) | .file (.syncAll _)
  | .file (.rename _ _) | .file (.removeFile _) => .ok ()
  | .openProcess _ => false
  | .waitForSingleObject _ => .object0
  | .systemTime => .ok 1
  | .fetchSequence => 0
  | .now => (0 : Nat)
  | .createReadyDir _ => .ok ()
  | .spawn _ _ => .ok 7
  | .tryWait => .ok none
  | .readReady _ => content
  | .closeHandle | .sleep _ | .kill | .waitChild | .removeReady _ | .removeReadyDir _ => ()

def ticking : (op : Call) → Nanos → op.Answer × Nanos
  | .now, time => (time, time + milliseconds 300)
  | op, time => (obliging (some "7") op, time)

/-- A child that runs until it is waited for, and is never ready. -/
def obedient : (op : Call) → Bool → op.Answer × Bool
  | .spawn args ready, _ => (obliging none (.spawn args ready), true)
  | .waitChild, _ => ((), false)
  | op, running => (obliging none op, running)

def handled {σ : Type} (handler : (op : Call) → σ → op.Answer × σ) :
    Environment Call Call.Answer σ where
  step op before answer after := (answer, after) = handler op before

theorem obedient_realizes (op : Call) (running : Bool) :
    process.step op running (obedient op running).1 (obedient op running).2 := by
  cases op with
  | spawn args ready => exact ⟨fun ends => ends.elim, fun _ => .inr trivial⟩
  | waitChild => exact ⟨fun _ => rfl, fun running => by cases running⟩
  | _ => exact ⟨fun ends => ends.elim, .inl⟩

def patientHost : Host where
  sha256 _ := ""
  display _ := ""
  retries := 1
  polls := 1

/-- The update is followed by a launch that has no time to get ready. -/
def relaunched : UpdateOptions := { relaunch := true, readinessTimeout := some 0 }

theorem ticking_realizes (op : Call) (before : Launch Nanos) :
    (handled ticking).recorded.step op before (recordingHandler ticking op before).1
      (recordingHandler ticking op before).2 :=
  recordingHandler_realizes (fun _ _ => rfl) op before

theorem ticking_run :
    (handled ticking).recorded.Runs (launchVerified patientHost [] (some 0)).run
      { state := (0 : Nat) } (.ok ())
      ((launchVerified patientHost [] (some 0)).run.exec (recordingHandler ticking)
        { state := (0 : Nat) }).2 := by
  have ran := runs_exec ticking_realizes (launchVerified patientHost [] (some 0)).run
    { state := (0 : Nat) }
  exact ran

/-- A rename that replaces the installed executable. -/
def replacesCurrent : Call → Bool
  | .file (.rename _ destination) => destination = .current
  | _ => false

theorem replacesCurrent_writes (op : Call) (replaces : replacesCurrent op = true) :
    op.Writes .current := by
  cases op with
  | file call =>
      cases call with
      | rename source destination => exact .inr (of_decide_eq_true replaces).symm
      | _ => cases replaces
  | _ => cases replaces

theorem obedient_stops :
    process.Stops (fun op => op.Writes .current) (relaunchUpdated patientHost relaunched).run false
      false := by
  have stopped : (relaunchUpdated patientHost relaunched).run.stopAt obedient
      (fun op _ => replacesCurrent op) false = some false := rfl
  exact stops_exec obedient_realizes (fun op _ => replacesCurrent_writes op) stopped

/-- A child that acknowledges is kept, and one that does not is gone before the rollback. -/
theorem child_ready_or_gone_runs :
    (∃ after, (handled ticking).recorded.Runs (launchVerified patientHost [] (some 0)).run
        { state := (0 : Nat) } (.ok ()) after ∧ Survived [] after.trace) ∧
      process.Runs (launchVerified patientHost [] (some 0)).run false
        (.error "app readiness timed out") false ∧
      ∃ running, process.Stops (fun op => op.Writes .current)
        (relaunchUpdated patientHost relaunched).run false running ∧ running = false := by
  have holds := child_ready_or_gone patientHost
  refine ⟨⟨_, ticking_run, holds.1 _ _ _ _ _ _ ticking_run⟩, ?_, false, obedient_stops,
    holds.2.2 _ _ obedient_stops⟩
  exact runs_exec obedient_realizes (launchVerified patientHost [] (some 0)).run false

/-- Without a timeout nothing is waited for. -/
theorem unwatched_launch :
    ∃ after, (handled ticking).recorded.Runs (launchVerified patientHost [] none).run
      { state := (0 : Nat) } (.ok ()) after ∧ ¬ Survived [] after.trace := by
  refine ⟨_, runs_exec ticking_realizes (launchVerified patientHost [] none).run
    { state := (0 : Nat) }, fun survived => ?_⟩
  obtain ⟨stamp, child, before, first, between, last, after, told, _⟩ := survived
  let started : Event Call Call.Answer := { op := .spawn [] none, answer := .ok 7 }
  have alone : [started] = before ++ acknowledgment stamp child :: _ := told
  have member : acknowledgment stamp child ∈ [started] := by
    rw [alone]
    exact List.mem_append_right _ List.mem_cons_self
  cases congrArg Event.op (List.mem_singleton.mp member)

end LayoutAdblock.Updater
