import Mathlib.Order.Monotone.Basic
import Mathlib.Data.Nat.Find
import LayoutAdblock.Updater.Helper

namespace LayoutAdblock.Updater

open Interaction Interaction.Fallible Interaction.Program

/-! # The readiness handshake

The relaunched app and the helper that started it run side by side, each with
its own clock readings and its own deadline.  They meet in the ready file.
-/

def seconds (count : Nat) : Nanos := milliseconds (count * 1000)

/-- A poll from round `first` on ends well in round `last`, after waiting in every
round before. -/
def EndsAt (accepts waits : Nat → Prop) (first last : Nat) : Prop :=
  first ≤ last ∧ accepts last ∧ ∀ earlier, first ≤ earlier → earlier < last → waits earlier

section EndsAt

variable {accepts waits : Nat → Prop} {first last : Nat}

theorem endsAt_here (accepted : accepts first) : EndsAt accepts waits first first :=
  ⟨Nat.le_refl _, accepted, fun _ after before => absurd before (Nat.not_lt.mpr after)⟩

theorem EndsAt.later (ends : EndsAt accepts waits first last) (refused : ¬ accepts first) :
    first < last := by
  refine Nat.lt_of_le_of_ne ends.1 fun same => refused ?_
  rw [same]
  exact ends.2.1

/-- A round that does not accept has to wait for the next one. -/
theorem endsAt_succ (refused : ¬ accepts first) :
    EndsAt accepts waits first last ↔
      waits first ∧ EndsAt accepts waits (first + 1) last := by
  constructor
  · intro ends
    refine ⟨ends.2.2 first (Nat.le_refl _) (ends.later refused), ends.later refused, ends.2.1, ?_⟩
    intro earlier after before
    exact ends.2.2 earlier (Nat.le_of_succ_le after) before
  · intro ends
    obtain ⟨waited, after, accepted, rest⟩ := ends
    refine ⟨Nat.le_of_succ_le after, accepted, fun earlier from_ before => ?_⟩
    by_cases here : earlier = first
    · rw [here]
      exact waited
    · exact rest earlier (by omega) before

end EndsAt

/-- What the thread of the new version that reports its readiness asks for. -/
inductive ReadyCall where
  | now
  | loadWorkerReady
  | loadWorkerExited
  | loadStopping
  | sleep (duration : Nanos)
  | processId
  | write (text : String)

/-- What these calls answer. A write that fails is logged and not tried again. -/
@[reducible] def ReadyCall.Answer : ReadyCall → Type
  | .now => Nanos
  | .loadWorkerReady | .loadWorkerExited | .loadStopping => Bool
  | .sleep _ => Unit
  | .processId => UInt32
  | .write _ => Except String Unit

abbrev ReadyM := Program ReadyCall ReadyCall.Answer

def askReady (call : ReadyCall) : ReadyM call.Answer := Program.ask call

/-- The loop of the thread that the tray loop starts once it is up.  When
`looks` runs out the deadline counts as passed. -/
def awaitWorker (deadline : Nanos) : Nat → ReadyM Bool
  | 0 => return false
  | looks + 1 => do
      let ready ← askReady .loadWorkerReady
      if ready then return true
      else
        let exited ← askReady .loadWorkerExited
        if exited then return false
        else
          let time ← askReady .now
          if deadline ≤ time then return false
          else
            askReady (.sleep (milliseconds 10))
            awaitWorker deadline looks

/-- A failed write is logged and not tried again. -/
def acknowledgeReady (looks : Nat) : ReadyM Unit := do
  let start ← askReady .now
  let ready ← awaitWorker (start + seconds 5) looks
  if !ready then return ()
  else
    let stopping ← askReady .loadStopping
    if stopping then return ()
    else
      let pid ← askReady .processId
      let _ ← askReady (.write (toString pid))
      return ()

/-- When things happen after a relaunch: when the tray loop is up and when the
worker sets `worker_ready`, when the thread of the app starts, looks at the flag,
reads the clock and would have written the file, and when the helper has spawned
the app, reads the file and reads the clock in each round of its loop. -/
structure Schedule where
  trayReady : Nat
  workerReady : Nat
  started : Nat
  look : Nat → Nat
  passed : Nat → Nat
  written : Nat → Nat
  spawned : Nat
  read : Nat → Nat
  seen : Nat → Nat
  elapsed : Nat → Nat
  check : Nat → Nat
  startedUp : trayReady ≤ started
  firstLook : started ≤ look 0
  lookPassed : ∀ turn, look turn ≤ passed turn
  nextLook : ∀ turn, passed turn + milliseconds 10 ≤ look (turn + 1)
  lookWritten : ∀ turn, look turn ≤ written turn
  firstRead : spawned ≤ read 0
  readSeen : ∀ turn, read turn ≤ seen turn
  seenElapsed : ∀ turn, seen turn ≤ elapsed turn
  elapsedCheck : ∀ turn, elapsed turn ≤ check turn
  nextRead : ∀ turn, check turn + milliseconds 20 ≤ read (turn + 1)

namespace Schedule

variable (schedule : Schedule)

/-- A file that is complete from an instant on. -/
abbrev ReadyFile := Option (Nanos × String)

/-- What a look at the ready file at some time finds in it. -/
def content (file : ReadyFile) (time : Nanos) : Option String :=
  file.bind fun entry => if entry.1 ≤ time then some entry.2 else none

/-- How far the ready thread has come, with the file it has written. -/
structure AppState where
  begun : Bool := false
  turn : Nat := 0
  file : ReadyFile := none

/-- The app runs on, nothing stops it, and the write succeeds. -/
def app (pid : UInt32) : (call : ReadyCall) → AppState → call.Answer × AppState
  | .now, state =>
      if state.begun then (schedule.passed state.turn, state)
      else (schedule.started, { state with begun := true })
  | .loadWorkerReady, state => (decide (schedule.workerReady ≤ schedule.look state.turn), state)
  | .loadWorkerExited, state => (false, state)
  | .loadStopping, state => (false, state)
  | .sleep _, state => ((), { state with turn := state.turn + 1 })
  | .processId, state => (pid, state)
  | .write text, state =>
      (.ok (), { state with file := some (schedule.written state.turn, text) })

def readyFile (pid : UInt32) (looks : Nat) : ReadyFile :=
  ((acknowledgeReady looks).exec (schedule.app pid) {}).2.file

/-- How far the helper has come with its looks at the child: the round it is in, whether it
has read the acknowledgment, and whether it has ended the child. -/
structure HelperState where
  turn : Nat := 0
  acknowledged : Bool := false
  /-- What the next looks at the clock answer. -/
  clocks : List Nanos
  killed : Bool := false

/-- A round that finds the acknowledgment reads the clock for it, the first time
once more. -/
def clocksOf (turn : Nat) (found acknowledged : Bool) : List Nanos :=
  if !found then [schedule.check turn]
  else if acknowledged then [schedule.elapsed turn, schedule.check turn]
  else [schedule.seen turn, schedule.elapsed turn, schedule.check turn]

/-- The child is started and stays alive, and every other call succeeds. -/
def helper (pid : UInt32) (file : ReadyFile) :
    (call : Call) → HelperState → call.Answer × HelperState
  | .file (.pathExists _), state | .file (.isFile _), state => (true, state)
  | .file (.metadata _), state => (.ok 1, state)
  | .file (.canonicalize _), state => (.ok "", state)
  | .file (.read _), state => (.ok [], state)
  | .file (.openRead _), state | .file (.createNew _), state | .file (.copy _ _), state
  | .file (.syncAll _), state | .file (.rename _ _), state | .file (.removeFile _), state =>
      (.ok (), state)
  | .openProcess _, state => (true, state)
  | .waitForSingleObject _, state => (.object0, state)
  | .systemTime, state => (.ok 1, state)
  | .fetchSequence, state => (0, state)
  | .createReadyDir _, state => (.ok (), state)
  | .spawn _ _, state => (.ok pid, state)
  | .tryWait, state => (.ok none, state)
  | .readReady _, state =>
      let text := content file (schedule.read state.turn)
      let found := decide (text = some (toString pid))
      (text, { state with
        acknowledged := state.acknowledged || found
        clocks := schedule.clocksOf state.turn found state.acknowledged })
  | .now, state => (state.clocks.headD 0, { state with clocks := state.clocks.tail })
  | .sleep _, state => ((), { state with turn := state.turn + 1 })
  | .kill, state => ((), { state with killed := true })
  | .closeHandle, state | .waitChild, state | .removeReady _, state
  | .removeReadyDir _, state => ((), state)

/-- The helper's side of the launch, with the file that the app leaves. -/
def launch (host : Host) (args : List String) (timeout : Nanos) (pid : UInt32)
    (file : ReadyFile) : Except String Unit × HelperState :=
  (launchVerified host args (some timeout)).run.exec (schedule.helper pid file)
    { clocks := [schedule.spawned] }

/-- An acknowledgment at `moment` leaves the helper a round that finds it, and a
round 250 ms later that comes before its deadline. -/
def InTime (timeout moment : Nanos) : Prop :=
  ∃ first last, first ≤ last ∧ moment ≤ schedule.read first ∧
    schedule.seen first + milliseconds 250 ≤ schedule.elapsed last ∧
    ∀ turn < last, schedule.check turn < schedule.spawned + timeout

/-- The thread finds the worker ready at this look: the looks before did not, and
left its five seconds unfinished. -/
structure FoundAt (turn : Nat) : Prop where
  ready : schedule.workerReady ≤ schedule.look turn
  waited : ∀ earlier < turn, schedule.look earlier < schedule.workerReady ∧
    schedule.passed earlier < schedule.started + seconds 5

variable {schedule}

theorem passed_late (turn : Nat) :
    schedule.started + turn * milliseconds 10 ≤ schedule.passed turn := by
  generalize period : milliseconds 10 = pause
  induction turn with
  | zero =>
      have := schedule.firstLook
      have := schedule.lookPassed 0
      omega
  | succ turn ih =>
      have next := schedule.nextLook turn
      have := schedule.lookPassed (turn + 1)
      rw [period] at next
      rw [Nat.succ_mul]
      omega

/-- The thread finds the worker ready at `turn`, having looked from `first` on. -/
def FoundFrom (schedule : Schedule) (deadline : Nanos) (first turn : Nat) : Prop :=
  first ≤ turn ∧ schedule.workerReady ≤ schedule.look turn ∧
    ∀ earlier, first ≤ earlier → earlier < turn →
      schedule.look earlier < schedule.workerReady ∧ schedule.passed earlier < deadline

theorem foundFrom_iff {deadline : Nanos} {first turn : Nat} :
    schedule.FoundFrom deadline first turn ↔
      EndsAt (fun turn => schedule.workerReady ≤ schedule.look turn)
        (fun turn => schedule.look turn < schedule.workerReady ∧ schedule.passed turn < deadline)
        first turn := Iff.rfl

theorem foundFrom_succ {deadline : Nanos} {first turn : Nat}
    (unready : ¬ schedule.workerReady ≤ schedule.look first) :
    schedule.FoundFrom deadline first turn ↔
      schedule.passed first < deadline ∧ schedule.FoundFrom deadline (first + 1) turn := by
  rw [foundFrom_iff, foundFrom_iff]
  refine Iff.trans (endsAt_succ unready) ?_
  rw [and_iff_right (Nat.not_le.mp unready)]

theorem exec_awaitWorker (pid : UInt32) (deadline : Nanos) (looks : Nat) {state : AppState}
    (begun : state.begun = true) :
    let run := (awaitWorker deadline looks).exec (schedule.app pid) state
    (∃ turn, schedule.FoundFrom deadline state.turn turn ∧
        run = (true, { state with turn := turn })) ∨
      (run.1 = false ∧ run.2.file = state.file ∧
        ∀ turn, schedule.FoundFrom deadline state.turn turn → state.turn + looks ≤ turn) := by
  induction looks generalizing state with
  | zero => exact Or.inr ⟨rfl, rfl, fun turn found => found.1⟩
  | succ looks ih =>
      intro run
      by_cases ready : schedule.workerReady ≤ schedule.look state.turn
      · refine Or.inl ⟨state.turn, foundFrom_iff.mpr (endsAt_here ready), ?_⟩
        simp only [run, awaitWorker, askReady, exec_bind, exec_ask, app, ready, decide_true,
          if_true, pure_eq, exec_done]
      · by_cases late : deadline ≤ schedule.passed state.turn
        · have ended : run = (false, state) := by
            simp only [run, awaitWorker, askReady, exec_bind, exec_ask, app, ready, decide_false,
              Bool.false_eq_true, if_false, begun, if_true, late, pure_eq, exec_done]
          rw [ended]
          refine Or.inr ⟨rfl, rfl, fun turn found => ?_⟩
          have waited := ((foundFrom_succ ready).mp found).1
          exact absurd waited (Nat.not_lt.mpr late)
        · have stepped : run = (awaitWorker deadline looks).exec (schedule.app pid)
              { state with turn := state.turn + 1 } := by
            simp only [run, awaitWorker, askReady, exec_bind, exec_ask, app, ready, decide_false,
              Bool.false_eq_true, if_false, begun, if_true, late]
          have later := @ih { state with turn := state.turn + 1 } begun
          rw [stepped]
          cases later with
          | inl hit =>
              obtain ⟨turn, found, ran⟩ := hit
              exact Or.inl ⟨turn, (foundFrom_succ ready).mpr ⟨Nat.not_le.mp late, found⟩, ran⟩
          | inr miss =>
              obtain ⟨failed, same, far⟩ := miss
              refine Or.inr ⟨failed, same, fun turn found => ?_⟩
              have last := far turn ((foundFrom_succ ready).mp found).2
              change state.turn + 1 + looks ≤ turn at last
              omega

theorem foundAt_iff {turn : Nat} :
    schedule.FoundAt turn ↔ schedule.FoundFrom (schedule.started + seconds 5) 0 turn := by
  constructor
  · intro found
    exact ⟨Nat.zero_le turn, found.ready, fun earlier _ before => found.waited earlier before⟩
  · intro found
    exact ⟨found.2.1, fun earlier before => found.2.2 earlier (Nat.zero_le earlier) before⟩

/-- The app acknowledges exactly when a look finds the worker ready. -/
theorem readyFile_eq (schedule : Schedule) (pid : UInt32) {looks : Nat}
    (enough : 500 < looks) :
    (∃ turn, schedule.FoundAt turn ∧
        schedule.readyFile pid looks = some (schedule.written turn, toString pid)) ∨
      ((∀ turn, ¬ schedule.FoundAt turn) ∧ schedule.readyFile pid looks = none) := by
  let opened : AppState := { begun := true }
  have ran : (acknowledgeReady looks).exec (schedule.app pid) {} =
      let run := (awaitWorker (schedule.started + seconds 5) looks).exec (schedule.app pid) opened
      if run.1 then ((), { run.2 with file := some (schedule.written run.2.turn, toString pid) })
      else ((), run.2) := by
    simp only [acknowledgeReady, askReady, exec_bind, exec_ask, app, Bool.false_eq_true, if_false]
    cases ((awaitWorker (schedule.started + seconds 5) looks).exec (schedule.app pid) opened).1 with
    | true => rfl
    | false => rfl
  cases @exec_awaitWorker schedule pid (schedule.started + seconds 5) looks opened rfl with
  | inl hit =>
      obtain ⟨turn, found, done⟩ := hit
      refine Or.inl ⟨turn, foundAt_iff.mpr found, ?_⟩
      simp only [readyFile, ran, done, if_true]
  | inr miss =>
      obtain ⟨failed, same, far⟩ := miss
      refine Or.inr ⟨fun turn found => ?_, ?_⟩
      · have last : 0 + looks ≤ turn := far turn (foundAt_iff.mp found)
        have waited := (found.waited 500 (by omega)).2
        have late : schedule.started + seconds 5 ≤ schedule.passed 500 := passed_late 500
        exact absurd waited (Nat.not_lt.mpr late)
      · simp only [readyFile, ran, failed, Bool.false_eq_true, if_false]
        exact same

variable {pid : UInt32} {file : ReadyFile}

theorem read_mono {first last : Nat} (order : first ≤ last) :
    schedule.read first ≤ schedule.read last := by
  apply monotone_nat_of_le_succ _ order
  intro turn
  have := schedule.readSeen turn
  have := schedule.seenElapsed turn
  have := schedule.elapsedCheck turn
  have := schedule.nextRead turn
  omega

theorem seen_mono {first last : Nat} (order : first ≤ last) :
    schedule.seen first ≤ schedule.seen last := by
  apply monotone_nat_of_le_succ _ order
  intro turn
  have := schedule.seenElapsed turn
  have := schedule.elapsedCheck turn
  have := schedule.nextRead turn
  have := schedule.readSeen (turn + 1)
  omega

theorem check_late (turn : Nat) :
    schedule.spawned + turn * milliseconds 20 ≤ schedule.check turn := by
  generalize period : milliseconds 20 = pause
  induction turn with
  | zero =>
      have := schedule.firstRead
      have := schedule.readSeen 0
      have := schedule.seenElapsed 0
      have := schedule.elapsedCheck 0
      omega
  | succ turn ih =>
      have next := schedule.nextRead turn
      have := schedule.readSeen (turn + 1)
      have := schedule.seenElapsed (turn + 1)
      have := schedule.elapsedCheck (turn + 1)
      rw [period] at next
      rw [Nat.succ_mul]
      omega

/-- The round finds the acknowledgment of the spawned process. -/
def Finds (schedule : Schedule) (pid : UInt32) (file : ReadyFile) (turn : Nat) : Prop :=
  content file (schedule.read turn) = some (toString pid)

/-- The helper finds the child's acknowledgment in this round, and no earlier round found
it. -/
structure FirstFind (schedule : Schedule) (pid : UInt32) (file : ReadyFile) (turn : Nat) :
    Prop where
  finds : schedule.Finds pid file turn
  before : ∀ earlier < turn, ¬ schedule.Finds pid file earlier

theorem FirstFind.unique {first second : Nat} (left : FirstFind schedule pid file first)
    (right : FirstFind schedule pid file second) : first = second := by
  rcases Nat.lt_trichotomy first second with before | same | after
  · exact absurd left.finds (right.before first before)
  · exact same
  · exact absurd right.finds (left.before second after)

def Accepts (schedule : Schedule) (pid : UInt32) (file : ReadyFile) (turn : Nat) : Prop :=
  schedule.Finds pid file turn ∧ ∃ first ≤ turn, FirstFind schedule pid file first ∧
    schedule.seen first + milliseconds 250 ≤ schedule.elapsed turn

def Knows (schedule : Schedule) (pid : UInt32) (file : ReadyFile) (turn : Nat) :
    Option Nat → Prop
  | none => ∀ earlier < turn, ¬ schedule.Finds pid file earlier
  | some instant => ∃ first < turn, FirstFind schedule pid file first ∧
      instant = schedule.seen first

def pollOf (schedule : Schedule) (pid : UInt32) (file : ReadyFile) (turn : Nat)
    (acknowledged : Option Nat) : Poll :=
  if content file (schedule.read turn) = some (toString pid) then
    { acknowledged := some (acknowledged.getD (schedule.seen turn))
      ready := milliseconds 250 ≤ schedule.elapsed turn - acknowledged.getD (schedule.seen turn) }
  else { acknowledged := acknowledged, ready := false }

theorem exec_pollChild (stamp turn : Nat) (acknowledged : Option Nat) {clocks : List Nanos} :
    (pollChild pid stamp acknowledged).run.exec (schedule.helper pid file)
        { turn := turn, acknowledged := acknowledged.isSome, clocks := clocks } =
      (.ok (schedule.pollOf pid file turn acknowledged),
        { turn := turn
          acknowledged := (schedule.pollOf pid file turn acknowledged).acknowledged.isSome
          clocks := [schedule.check turn] }) := by
  let before : HelperState :=
    { turn := turn, acknowledged := acknowledged.isSome, clocks := clocks }
  have alive : pollExit.run.exec (schedule.helper pid file) before = (.ok (), before) := rfl
  refine (exec_try alive).trans (exec_always.trans ?_)
  by_cases found : content file (schedule.read turn) = some (toString pid)
  · cases acknowledged with
    | none => simp [pollReady, pollOf, ask, helper, clocksOf, found, before]
    | some first => simp [pollReady, pollOf, ask, helper, clocksOf, found, before]
  · simp [pollReady, pollOf, ask, helper, clocksOf, found, before]

theorem pollOf_knows {turn : Nat} {acknowledged : Option Nat}
    (knows : schedule.Knows pid file turn acknowledged) :
    schedule.Knows pid file (turn + 1) (schedule.pollOf pid file turn acknowledged).acknowledged ∧
      ((schedule.pollOf pid file turn acknowledged).ready = true ↔
        schedule.Accepts pid file turn) := by
  by_cases found : schedule.Finds pid file turn
  · have here : content file (schedule.read turn) = some (toString pid) := found
    have first : ∃ first ≤ turn, FirstFind schedule pid file first ∧
        acknowledged.getD (schedule.seen turn) = schedule.seen first := by
      cases acknowledged with
      | none => exact ⟨turn, Nat.le_refl _, ⟨found, knows⟩, rfl⟩
      | some instant =>
          obtain ⟨first, before, isFirst, same⟩ := knows
          exact ⟨first, Nat.le_of_lt before, isFirst, same⟩
    obtain ⟨first, before, isFirst, same⟩ := first
    simp only [pollOf, here, if_true, same, decide_eq_true_eq]
    refine ⟨⟨first, Nat.lt_succ_of_le before, isFirst, rfl⟩, ?_⟩
    have order : schedule.seen first ≤ schedule.elapsed turn :=
      (seen_mono before).trans (schedule.seenElapsed turn)
    constructor
    · intro long
      exact ⟨found, first, before, isFirst, (Nat.le_sub_iff_add_le' order).mp long⟩
    · intro accepts
      obtain ⟨_, other, _, isOther, long⟩ := accepts
      rw [isOther.unique isFirst] at long
      exact (Nat.le_sub_iff_add_le' order).mpr long
  · have missing : ¬ content file (schedule.read turn) = some (toString pid) := found
    simp only [pollOf, missing, if_false, Bool.false_eq_true, false_iff]
    refine ⟨?_, fun accepts => found accepts.1⟩
    cases acknowledged with
    | none =>
        intro earlier before
        by_cases here : earlier = turn
        · rw [here]
          exact found
        · exact knows earlier (by omega)
    | some instant =>
        obtain ⟨first, before, isFirst, same⟩ := knows
        exact ⟨first, Nat.lt_succ_of_lt before, isFirst, same⟩

theorem exec_giveUpOnChild (state : HelperState) :
    giveUpOnChild.run.exec (schedule.helper pid file) state =
      (.error "app readiness timed out", { state with killed := true }) :=
  rfl

/-- One round: it ends the loop well, gives the child up, or leaves the rest. -/
theorem exec_round (stamp deadline polls turn : Nat) (acknowledged : Option Nat)
    (clocks : List Nanos) :
    let poll := schedule.pollOf pid file turn acknowledged
    let polled : HelperState :=
      { turn := turn, acknowledged := poll.acknowledged.isSome, clocks := [schedule.check turn] }
    (awaitReady pid stamp deadline (polls + 1) acknowledged).run.exec (schedule.helper pid file)
        { turn := turn, acknowledged := acknowledged.isSome, clocks := clocks } =
      if poll.ready then (.ok (), polled)
      else if deadline ≤ schedule.check turn then
        (.error "app readiness timed out", { polled with clocks := [], killed := true })
      else
        (awaitReady pid stamp deadline polls poll.acknowledged).run.exec
          (schedule.helper pid file) { polled with turn := turn + 1, clocks := [] } := by
  intro poll polled
  refine (exec_try (exec_pollChild stamp turn acknowledged)).trans ?_
  cases poll.ready with
  | true => rfl
  | false =>
      simp only [Bool.false_eq_true, if_false]
      refine (exec_try exec_always).trans ?_
      by_cases late : deadline ≤ schedule.check turn
      · rw [if_pos late]
        change (if deadline ≤ schedule.check turn then giveUpOnChild else _).run.exec _ _ = _
        rw [if_pos late]
        exact exec_giveUpOnChild _
      · rw [if_neg late]
        change (if deadline ≤ schedule.check turn then giveUpOnChild else _).run.exec _ _ = _
        rw [if_neg late]
        exact exec_try exec_always

theorem exec_lastRound (stamp deadline turn : Nat) (acknowledged : Option Nat)
    (clocks : List Nanos) :
    let poll := schedule.pollOf pid file turn acknowledged
    let polled : HelperState :=
      { turn := turn, acknowledged := poll.acknowledged.isSome, clocks := [schedule.check turn] }
    (awaitReady pid stamp deadline 0 acknowledged).run.exec (schedule.helper pid file)
        { turn := turn, acknowledged := acknowledged.isSome, clocks := clocks } =
      if poll.ready then (.ok (), polled)
      else (.error "app readiness timed out", { polled with killed := true }) := by
  intro poll polled
  refine (exec_try (exec_pollChild stamp turn acknowledged)).trans ?_
  cases poll.ready with
  | true => rfl
  | false =>
      simp only [Bool.false_eq_true, if_false]
      exact exec_giveUpOnChild _

/-- The first rounds up to `last` leave the deadline ahead, and `last` accepts. -/
def Reaches (schedule : Schedule) (pid : UInt32) (file : ReadyFile) (deadline turn last : Nat) :
    Prop :=
  turn ≤ last ∧ schedule.Accepts pid file last ∧
    ∀ earlier, turn ≤ earlier → earlier < last → schedule.check earlier < deadline

theorem reaches_succ {deadline turn last : Nat}
    (refused : ¬ schedule.Accepts pid file turn) :
    schedule.Reaches pid file deadline turn last ↔
      schedule.check turn < deadline ∧ schedule.Reaches pid file deadline (turn + 1) last :=
  endsAt_succ refused

/-- The loop ends well when it reaches a round that accepts, and else it kills the
child. -/
theorem exec_awaitReady (stamp deadline polls turn : Nat) {acknowledged : Option Nat}
    {clocks : List Nanos} (knows : schedule.Knows pid file turn acknowledged) :
    let run := (awaitReady pid stamp deadline polls acknowledged).run.exec
      (schedule.helper pid file)
      { turn := turn, acknowledged := acknowledged.isSome, clocks := clocks }
    (run.1 = .ok () ∧ run.2.killed = false ∧
        ∃ last, schedule.Reaches pid file deadline turn last) ∨
      (run.1 ≠ .ok () ∧ run.2.killed = true ∧
        ∀ last, schedule.Reaches pid file deadline turn last → turn + polls < last) := by
  induction polls generalizing turn acknowledged clocks with
  | zero =>
      intro run
      obtain ⟨_, accepts⟩ := pollOf_knows knows
      have ran : run = _ := exec_lastRound stamp deadline turn acknowledged clocks
      cases ready : (schedule.pollOf pid file turn acknowledged).ready with
      | true =>
          rw [ready, if_pos rfl] at ran
          rw [ran]
          exact Or.inl ⟨rfl, rfl, turn, endsAt_here (accepts.mp ready)⟩
      | false =>
          rw [ready, if_neg Bool.false_ne_true] at ran
          rw [ran]
          refine Or.inr ⟨(fun same => by cases same), rfl, fun last reaches => ?_⟩
          apply EndsAt.later reaches
          rw [← accepts, ready]
          exact Bool.false_ne_true
  | succ polls ih =>
      intro run
      obtain ⟨learns, accepts⟩ := pollOf_knows knows
      have ran : run = _ := exec_round stamp deadline polls turn acknowledged clocks
      cases ready : (schedule.pollOf pid file turn acknowledged).ready with
      | true =>
          rw [ready, if_pos rfl] at ran
          rw [ran]
          exact Or.inl ⟨rfl, rfl, turn, endsAt_here (accepts.mp ready)⟩
      | false =>
          rw [ready, if_neg Bool.false_ne_true] at ran
          have refused : ¬ schedule.Accepts pid file turn := by
            rw [← accepts, ready]
            exact Bool.false_ne_true
          by_cases late : deadline ≤ schedule.check turn
          · rw [if_pos late] at ran
            rw [ran]
            refine Or.inr ⟨(fun same => by cases same), rfl, fun last reaches => ?_⟩
            have early := ((reaches_succ refused).mp reaches).1
            exact absurd early (Nat.not_lt.mpr late)
          · rw [if_neg late] at ran
            rw [ran]
            cases ih (turn + 1) learns with
            | inl ended =>
                obtain ⟨succeeded, kept, last, reaches⟩ := ended
                exact Or.inl ⟨succeeded, kept, last,
                  (reaches_succ refused).mpr ⟨Nat.not_le.mp late, reaches⟩⟩
            | inr ended =>
                obtain ⟨failed, killed, far⟩ := ended
                refine Or.inr ⟨failed, killed, fun last reaches => ?_⟩
                have beyond := far last ((reaches_succ refused).mp reaches).2
                omega

/-- The launch ends as its loop does. -/
theorem launch_loop (schedule : Schedule) (host : Host) (args : List String) (timeout : Nat)
    (pid : UInt32) (file : ReadyFile) :
    let loop := (awaitReady pid 1 (schedule.spawned + timeout) host.polls none).run.exec
      (schedule.helper pid file) { clocks := [] }
    (schedule.launch host args timeout pid file).1 = loop.1 ∧
      (schedule.launch host args timeout pid file).2.killed = loop.2.killed := by
  intro loop
  let opened : HelperState := { clocks := [schedule.spawned] }
  have dated : (attempt (ask .systemTime)).run.exec (schedule.helper pid file) opened =
    (.ok 1, opened) := rfl
  have created : (attempt (ask (.createReadyDir 1))).run.exec (schedule.helper pid file) opened =
    (.ok (), opened) := rfl
  have spawned : (attempt (ask (.spawn args (some 1)))).run.exec (schedule.helper pid file)
    opened = (.ok pid, opened) := rfl
  have watched : (launchAcknowledged host args 1 timeout).run.exec (schedule.helper pid file)
      opened = loop :=
    (exec_try spawned).trans (exec_try exec_always)
  have launched : schedule.launch host args timeout pid file = _ :=
    (exec_try dated).trans ((exec_try created).trans exec_afterwards)
  rw [launched, watched]
  exact ⟨rfl, rfl⟩

/-- An acknowledgment at `moment` is accepted before the deadline exactly when it
is in time. -/
theorem reaches_iff_inTime {timeout moment : Nat} :
    (∃ last, schedule.Reaches pid (some (moment, toString pid)) (schedule.spawned + timeout) 0
      last) ↔ schedule.InTime timeout moment := by
  have finds : ∀ turn, schedule.Finds pid (some (moment, toString pid)) turn ↔
      moment ≤ schedule.read turn := by
    intro turn
    by_cases written : moment ≤ schedule.read turn
    · simp [Finds, content, written]
    · simp [Finds, content, written]
  constructor
  · intro reaches
    obtain ⟨last, _, ⟨_, first, before, isFirst, long⟩, early⟩ := reaches
    exact ⟨first, last, before, (finds first).mp isFirst.finds, long,
      fun turn earlier => early turn (Nat.zero_le turn) earlier⟩
  · intro inTime
    obtain ⟨hit, last, before, found, long, early⟩ := inTime
    have exists_ : ∃ turn, moment ≤ schedule.read turn := ⟨hit, found⟩
    have least : Nat.find exists_ ≤ hit := Nat.find_min' exists_ found
    have isFirst : FirstFind schedule pid (some (moment, toString pid)) (Nat.find exists_) := by
      constructor
      · exact (finds _).mpr (Nat.find_spec exists_)
      · intro earlier below found
        exact Nat.find_min exists_ below ((finds earlier).mp found)
    have later : moment ≤ schedule.read last := found.trans (read_mono before)
    refine ⟨last, Nat.zero_le last, ⟨(finds last).mpr later, _, least.trans before, isFirst, ?_⟩,
      fun turn _ earlier => early turn earlier⟩
    exact (Nat.add_le_add_right (seen_mono least) _).trans long

theorem not_reaches_none {deadline last : Nat} :
    ¬ schedule.Reaches pid none deadline 0 last := by
  intro reaches
  cases reaches.2.1.1

/-- The app acknowledges, and the helper returns success and lets it run. -/
structure HandsOver (schedule : Schedule) (host : Host) (args : List String) (timeout : Nat)
    (looks : Nat) (pid : UInt32) : Prop where
  written : ∃ instant, schedule.readyFile pid looks = some (instant, toString pid)
  succeeded :
    (schedule.launch host args timeout pid (schedule.readyFile pid looks)).1 = .ok ()
  kept : (schedule.launch host args timeout pid (schedule.readyFile pid looks)).2.killed = false

theorem launch_cases (schedule : Schedule) {host : Host} (args : List String) {timeout : Nat}
    (pid : UInt32) (file : ReadyFile) (enough : timeout ≤ host.polls * milliseconds 20) :
    let launched := schedule.launch host args timeout pid file
    (launched.1 = .ok () ∧ launched.2.killed = false ∧
        ∃ last, schedule.Reaches pid file (schedule.spawned + timeout) 0 last) ∨
      (launched.1 ≠ .ok () ∧ launched.2.killed = true ∧
        ∀ last, ¬ schedule.Reaches pid file (schedule.spawned + timeout) 0 last) := by
  intro launched
  obtain ⟨result, killed⟩ := schedule.launch_loop host args timeout pid file
  have nothing : schedule.Knows pid file 0 none := fun _ below => absurd below (Nat.not_lt_zero _)
  simp only [launched, result, killed]
  cases exec_awaitReady 1 (schedule.spawned + timeout) host.polls 0 nothing with
  | inl ended => exact Or.inl ended
  | inr ended =>
      obtain ⟨failed, dead, far⟩ := ended
      refine Or.inr ⟨failed, dead, fun last reaches => ?_⟩
      have beyond : host.polls < last := by
        have := far last reaches
        omega
      have early := reaches.2.2 host.polls (Nat.zero_le _) beyond
      have late : schedule.spawned + host.polls * milliseconds 20 ≤ schedule.check host.polls :=
        check_late host.polls
      exact absurd early (Nat.not_lt.mpr ((Nat.add_le_add_left enough _).trans late))

theorem FoundAt.unique {first second : Nat} (left : schedule.FoundAt first)
    (right : schedule.FoundAt second) : first = second := by
  rcases Nat.lt_trichotomy first second with before | same | after
  · exact absurd left.ready (Nat.not_le.mpr (right.waited first before).1)
  · exact same
  · exact absurd right.ready (Nat.not_le.mpr (left.waited second after).1)

/-- Without a look that finds the worker ready within five seconds the helper
kills the app. -/
theorem killed_of_unfound (schedule : Schedule) {host : Host} (args : List String)
    {timeout looks : Nat} (pid : UInt32) (enoughLooks : 500 < looks)
    (enoughPolls : timeout ≤ host.polls * milliseconds 20)
    (unfound : ∀ turn, ¬ schedule.FoundAt turn) :
    schedule.readyFile pid looks = none ∧
      (schedule.launch host args timeout pid (schedule.readyFile pid looks)).1 ≠ .ok () ∧
      (schedule.launch host args timeout pid (schedule.readyFile pid looks)).2.killed = true := by
  have silent : schedule.readyFile pid looks = none := by
    cases schedule.readyFile_eq pid enoughLooks with
    | inl hit =>
        obtain ⟨turn, found, _⟩ := hit
        exact absurd found (unfound turn)
    | inr miss => exact miss.2
  rw [silent]
  cases schedule.launch_cases args pid none enoughPolls with
  | inl ended =>
      obtain ⟨_, _, last, reaches⟩ := ended
      exact absurd reaches not_reaches_none
  | inr ended => exact ⟨rfl, ended.1, ended.2.1⟩

/-- The app acknowledges and is kept exactly when its thread finds the worker
ready before five seconds are over, and the write that follows is in time for the
helper. -/
theorem handsOver_iff (schedule : Schedule) (host : Host) (args : List String) (timeout : Nat)
    (looks : Nat) (pid : UInt32) (enoughLooks : 500 < looks)
    (enoughPolls : timeout ≤ host.polls * milliseconds 20) :
    schedule.HandsOver host args timeout looks pid ↔
      ∃ turn, schedule.FoundAt turn ∧ schedule.InTime timeout (schedule.written turn) := by
  cases schedule.readyFile_eq pid enoughLooks with
  | inl hit =>
      obtain ⟨turn, found, file⟩ := hit
      have launched := schedule.launch_cases args pid (schedule.readyFile pid looks) enoughPolls
      constructor
      · intro handed
        refine ⟨turn, found, ?_⟩
        cases launched with
        | inl ended =>
            obtain ⟨_, _, reaches⟩ := ended
            rw [file] at reaches
            exact reaches_iff_inTime.mp reaches
        | inr ended => exact absurd handed.succeeded ended.1
      · intro holds
        obtain ⟨other, otherFound, inTime⟩ := holds
        rw [otherFound.unique found] at inTime
        obtain ⟨last, reaches⟩ := reaches_iff_inTime.mpr inTime
        rw [← file] at reaches
        cases launched with
        | inl ended => exact ⟨⟨_, file⟩, ended.1, ended.2.1⟩
        | inr ended => exact absurd reaches (ended.2.2 last)
  | inr miss =>
      obtain ⟨unfound, silent⟩ := miss
      constructor
      · intro handed
        obtain ⟨instant, written⟩ := handed.written
        rw [silent] at written
        cases written
      · intro holds
        obtain ⟨turn, found, _⟩ := holds
        exact absurd found (unfound turn)

/-- The tray loop is up after a second, both sides are never delayed, and the worker
gets ready at the given instant. -/
def steady (workerReady : Nat) : Schedule where
  trayReady := seconds 1
  workerReady := workerReady
  started := seconds 1
  look turn := seconds 1 + turn * milliseconds 10
  passed turn := seconds 1 + turn * milliseconds 10
  written turn := seconds 1 + turn * milliseconds 10
  spawned := 0
  read turn := turn * milliseconds 20
  seen turn := turn * milliseconds 20
  elapsed turn := turn * milliseconds 20
  check turn := turn * milliseconds 20
  startedUp := Nat.le_refl _
  firstLook := Nat.le_add_right _ _
  lookPassed _ := Nat.le_refl _
  nextLook turn := by rw [Nat.succ_mul, Nat.add_assoc]
  lookWritten _ := Nat.le_refl _
  firstRead := Nat.zero_le _
  readSeen _ := Nat.le_refl _
  seenElapsed _ := Nat.le_refl _
  elapsedCheck _ := Nat.le_refl _
  nextRead turn := by rw [Nat.succ_mul]

/-- Rounds of a steady helper before a given one. -/
theorem steady_checks {workerReady limit last turn : Nat} (before : turn < last)
    (early : last * milliseconds 20 ≤ limit) : (steady workerReady).check turn < 0 + limit := by
  have below : turn * milliseconds 20 < last * milliseconds 20 :=
    Nat.mul_lt_mul_of_pos_right before (by decide)
  rw [Nat.zero_add]
  exact below.trans_le early

theorem steady_inTime {workerReady moment first : Nat} (found : moment ≤ first * milliseconds 20)
    (early : (first + 13) * milliseconds 20 ≤ seconds 60) :
    (steady workerReady).InTime (seconds 60) moment := by
  refine ⟨first, first + 13, Nat.le_add_right _ _, found, ?_, fun turn before =>
    steady_checks before early⟩
  change first * milliseconds 20 + milliseconds 250 ≤ (first + 13) * milliseconds 20
  rw [Nat.add_mul]
  exact Nat.add_le_add_left (by decide) _

/-- A helper with rounds enough for a minute, so that its clock and not their number ends
it. -/
def helperHost : Host where
  sha256 _ := ""
  display _ := ""
  retries := 1
  polls := 3000

/-- A worker that is ready after ten seconds would be acknowledged in time for
the helper's sixty, and is killed. -/
theorem steady_late_worker :
    let schedule := steady (seconds 10)
    schedule.InTime (seconds 60) (max schedule.trayReady schedule.workerReady) ∧
      ¬ schedule.HandsOver helperHost [] (seconds 60) 501 7 ∧
      (schedule.launch helperHost [] (seconds 60) 7 (schedule.readyFile 7 501)).2.killed =
        true := by
  intro schedule
  have unfound : ∀ turn, ¬ schedule.FoundAt turn := by
    intro turn found
    have ready : seconds 10 ≤ seconds 1 + turn * milliseconds 10 := found.ready
    have late : 500 < turn := by
      by_contra early
      have most : seconds 1 + turn * milliseconds 10 ≤ seconds 1 + 500 * milliseconds 10 :=
        Nat.add_le_add_left (Nat.mul_le_mul_right _ (Nat.not_lt.mp early)) _
      exact absurd (ready.trans most) (by decide)
    exact absurd (found.waited 500 late).2 (by decide)
  have killed := killed_of_unfound schedule [] 7 (show 500 < 501 by decide)
    (show seconds 60 ≤ helperHost.polls * milliseconds 20 by decide) unfound
  refine ⟨?_, fun handed => killed.2.1 handed.succeeded, killed.2.2⟩
  exact steady_inTime (show max (seconds 1) (seconds 10) ≤ 500 * milliseconds 20 by decide)
    (by decide)

/-- A worker that is ready after two seconds is acknowledged and kept. -/
theorem steady_prompt_worker :
    (steady (seconds 2)).HandsOver helperHost [] (seconds 60) 501 7 := by
  refine (handsOver_iff (steady (seconds 2)) helperHost [] (seconds 60) 501 7 (by decide)
    (by decide)).mpr ⟨100, ⟨by decide, fun earlier before => ?_⟩, ?_⟩
  · have below : seconds 1 + earlier * milliseconds 10 < seconds 1 + 100 * milliseconds 10 :=
      Nat.add_lt_add_left (Nat.mul_lt_mul_of_pos_right before (by decide)) _
    exact ⟨below.trans_le (by decide), below.trans_le (by decide)⟩
  · exact steady_inTime (show seconds 1 + 100 * milliseconds 10 ≤ 100 * milliseconds 20 by decide)
      (by decide)

end Schedule

end LayoutAdblock.Updater
