import Mathlib.Logic.Function.Basic
import Mathlib.Logic.Relation
import LayoutAdblock.Engine.Worker

namespace LayoutAdblock.Engine

open LayoutAdblock.Core Interaction

/-! # Waking the worker

The worker sleeps until its thread is unparked or, while the event hook is
installed, until its message queue has a message.  Other threads change a flag
and then call `notify_control`, in any order.
-/

/-- What the worker looks at in every iteration. -/
inductive Watched where
  | stopping | enabled | aggressive | resetRestore
deriving DecidableEq, Repr

/-- What the worker sleeps on: its park token where it has no hook, and its message queue
where it has one. -/
inductive Channel where
  | park | message
deriving DecidableEq, Repr

/-- What the threads ask of each other and of Windows when the worker sleeps and is woken:
its own calls, the sleep on either channel, and the mutex and the flags a notifier goes
through. -/
inductive ControlCall where
  /-- Whatever the worker does besides waiting. -/
  | work (call : WorkerCall)
  /-- `runtime.wait` asks whether the hook is installed. -/
  | hookInstalled
  /-- `park_timeout` -/
  | park (timeout : Nat)
  /-- `MsgWaitForMultipleObjects` -/
  | msgWait (timeout : Nat)
  /-- The `PeekMessageW` loop, up to the call that finds no message. -/
  | drainMessages
  /-- The first `PeekMessageW` of the thread. -/
  | createQueue
  | storeThreadId (id : Nat)
  | loadThreadId
  | lockWake
  | unlockWake
  /-- Whether the slot in the mutex holds the worker's thread from now on. -/
  | setWake (registered : Bool)
  | getWake
  | unpark
  /-- `PostThreadMessageW` -/
  | post (id : Nat)
  | store (what : Watched) (value : Bool)

/-- What these calls answer. A sleep says nothing about why it ended. -/
@[reducible] def ControlCall.Answer : ControlCall → Type
  | .work call => call.Answer
  | .hookInstalled | .getWake => Bool
  | .loadThreadId => Nat
  | .park _ | .msgWait _ | .drainMessages | .createQueue | .storeThreadId _ | .lockWake
  | .unlockWake | .setWake _ | .unpark | .post _ | .store _ _ => Unit

abbrev ControlM := Program ControlCall ControlCall.Answer

def control (call : ControlCall) : ControlM call.Answer := Program.ask call

/-- The worker makes its queue and says that it is there before it looks at any flag, so
that who changes one afterwards can wake it. -/
def registerWorker (threadId : Nat) : ControlM Unit := do
  control .createQueue
  control (.storeThreadId threadId)
  control .lockWake
  control (.setWake true)
  control .unlockWake

/-- At its end the worker is taken out under the mutex. From then on nothing is sent to its
thread. -/
def unregisterWorker : ControlM Unit := do
  control .lockWake
  control (.storeThreadId 0)
  control (.setWake false)
  control .unlockWake

/-- `NativeRuntime::wait`. With a hook the thread has to answer messages while it waits, so
it sleeps on its queue; without one it parks. -/
def runtimeWait (timeout : Nat) : ControlM Unit := do
  let hooked ← control .hookInstalled
  if hooked then
    control (.msgWait timeout)
    control .drainMessages
  else control (.park timeout)

/-- A wait of the worker is a sleep on one of the channels; every other call is made as it
is. -/
def implementWork : (call : WorkerCall) → ControlM call.Answer
  | .loop (.wait timeout) => runtimeWait timeout
  | call => control (.work call)

/-- `WorkerExitGuard`, without what it logs and publishes. -/
def exitGuard : ControlM Unit := unregisterWorker

/-- The thread that `spawn_worker` starts. It registers before its loop and unregisters
after it, also where the loop panics. -/
def workerThread (settings : Config.AppSettings) (laps threadId : Nat) : ControlM Unit := do
  registerWorker threadId
  let _ ← Program.translate implementWork (runWorker settings laps)
  exitGuard

def unparkWorker (registered : Bool) : ControlM Unit :=
  if registered then control .unpark else return ()

/-- A message is posted to a thread that is known; no thread has number zero. -/
def postTo (id : Nat) : ControlM Unit :=
  if id ≠ 0 then control (.post id) else return ()

/-- The worker is woken on both channels, since who wakes it does not know which one it
sleeps on. The mutex is held all along, so the worker cannot end in between. -/
def notifyControl : ControlM Unit := do
  control .lockWake
  let registered ← control .getWake
  unparkWorker registered
  let id ← control .loadThreadId
  postTo id
  control .unlockWake

/-- Flags that one thread changes one after the other. -/
def announce : List (Watched × Bool) → ControlM Unit
  | [] => return ()
  | (what, value) :: rest => do
      control (.store what value)
      notifyControl
      announce rest

abbrev Thread (ι : Type) := Option ι

/-- What the threads share: the flags with what the worker has seen of them, its channels,
its registration, and the mutex over that. -/
structure Control (ι : Type) where
  current : Watched → Bool
  /-- What the worker found, or left, when it last looked. -/
  seen : Watched → Option Bool := fun _ => none
  hooked : Bool := false
  /-- The park token of the worker's thread. -/
  token : Bool := false
  queueExists : Bool := false
  /-- The messages in the worker's queue that were never looked at. -/
  queue : Nat := 0
  /-- `worker_thread_id` -/
  threadId : Nat := 0
  /-- `wake` holds the worker's thread. -/
  wake : Bool := false
  holder : Option (Thread ι) := none

variable {ι : Type}

namespace Control

/-- The worker has looked at a flag, and may have taken it. -/
def look (before : Control ι) (what : Watched) (left : Bool) : Control ι :=
  { before with
    current := Function.update before.current what left
    seen := Function.update before.seen what (some left) }

/-- A sleep on this channel would end at once. -/
def signalled (state : Control ι) : Channel → Bool
  | .park => state.token
  | .message => decide (0 < state.queue)

/-- The notifiers can find the channel: the worker is registered, or its thread id is
stored. -/
def isOpen (state : Control ι) : Channel → Bool
  | .park => state.wake
  | .message => decide (state.threadId ≠ 0)

/-- What the worker knows of the flag is no longer so. -/
def Stale (state : Control ι) (what : Watched) : Prop :=
  state.seen what ≠ some (state.current what)

end Control

/-- A call of the worker that is about flags or about the hook. -/
def workStep (before : Control ι) : (call : WorkerCall) → call.Answer → Control ι → Prop
  | .loop (.load .stopping), value, after =>
      value = before.current .stopping ∧ after = before.look .stopping value
  | .loop (.load .enabled), value, after =>
      value = before.current .enabled ∧ after = before.look .enabled value
  | .loop (.load .aggressive), value, after =>
      value = before.current .aggressive ∧ after = before.look .aggressive value
  | .loop .takeReset, value, after =>
      value = before.current .resetRestore ∧ after = before.look .resetRestore false
  | .loop (.install _), installed, after => after = { before with hooked := installed }
  | .loop .remove, _, after => after = { before with hooked := false }
  | .loop .hooked, hooked, after => hooked = before.hooked ∧ after = before
  | _, _, after => after = before

/-- A sleep may end for any reason.  A message that is posted arrives, unless
there is no queue or the queue is full. -/
def controlStep (thread : Thread ι) (before : Control ι) :
    (call : ControlCall) → call.Answer → Control ι → Prop
  | .work call, answer, after => workStep before call answer after
  | .hookInstalled, hooked, after => hooked = before.hooked ∧ after = before
  | .park _, _, after => after = { before with token := false }
  | .msgWait _, _, after => after = before
  | .drainMessages, _, after => after = { before with queue := 0 }
  | .createQueue, _, after => after = { before with queueExists := true }
  | .storeThreadId id, _, after => after = { before with threadId := id }
  | .loadThreadId, id, after => id = before.threadId ∧ after = before
  | .lockWake, _, after => before.holder = none ∧ after = { before with holder := some thread }
  | .unlockWake, _, after => after = { before with holder := none }
  | .setWake registered, _, after => after = { before with wake := registered }
  | .getWake, registered, after => registered = before.wake ∧ after = before
  | .unpark, _, after => after = { before with token := true }
  | .post _, _, after => before.queueExists = true ∧ after = { before with queue := before.queue + 1 } ∨
      (before.queueExists = true → 0 < before.queue) ∧ after = before
  | .store what value, _, after =>
      after = { before with current := Function.update before.current what value }

/-- The worker and the threads that notify it, each with what is left of its program. -/
structure System (ι : Type) where
  state : Control ι
  programs : Thread ι → ControlM Unit

namespace System

variable [DecidableEq ι]

/-- The worker panics in a call of its own, and the guard of its thread runs. -/
def unwind (system : System ι) : System ι where
  state := system.state
  programs := Function.update system.programs none exitGuard

def proceed (system : System ι) (thread : Thread ι) (state : Control ι) (rest : ControlM Unit) :
    System ι where
  state := state
  programs := Function.update system.programs thread rest

/-- One thread makes its next call. The worker can also panic where it does its work, and
then only unregisters. -/
inductive Step : System ι → System ι → Prop where
  | calls {system : System ι} {thread : Thread ι} {call : ControlCall}
      {next : call.Answer → ControlM Unit} {answer : call.Answer} {state : Control ι}
      (pending : system.programs thread = .call call next)
      (taken : controlStep thread system.state call answer state) :
      Step system (system.proceed thread state (next answer))
  | panics {system : System ι} {call : WorkerCall} {next : call.Answer → ControlM Unit}
      (pending : system.programs none = .call (.work call) next) : Step system system.unwind

/-- Any number of steps of any of the threads. -/
abbrev Reach : System ι → System ι → Prop := Relation.ReflTransGen Step

omit [DecidableEq ι] in
/-- Nothing is registered, and every thread is at its start. -/
def opening (settings : Config.AppSettings) (laps threadId : Nat) (current : Watched → Bool)
    (changes : ι → List (Watched × Bool)) : System ι where
  state := { current := current }
  programs
    | none => workerThread settings laps threadId
    | some thread => announce (changes thread)

variable (system : System ι) {thread other : Thread ι} {state : Control ι} {rest : ControlM Unit}

@[simp] theorem proceed_state : (system.proceed thread state rest).state = state := rfl

@[simp] theorem proceed_self : (system.proceed thread state rest).programs thread = rest :=
  Function.update_self ..

theorem proceed_other (different : other ≠ thread) :
    (system.proceed thread state rest).programs other = system.programs other :=
  Function.update_of_ne different ..

@[simp] theorem unwind_state : system.unwind.state = system.state := rfl

@[simp] theorem unwind_worker : system.unwind.programs none = exitGuard := by
  simp only [unwind, Function.update_self]

theorem unwind_notifier (thread : ι) :
    system.unwind.programs (some thread) = system.programs (some thread) := by
  simp only [unwind, ne_eq, reduceCtorEq, not_false_eq_true, Function.update_of_ne]

end System

/-- The parts of the state that are about signals and registration. -/
structure SameSignals (before after : Control ι) : Prop where
  token : after.token = before.token
  queueExists : after.queueExists = before.queueExists
  queue : after.queue = before.queue
  threadId : after.threadId = before.threadId
  wake : after.wake = before.wake
  holder : after.holder = before.holder

theorem SameSignals.refl (state : Control ι) : SameSignals state state :=
  ⟨rfl, rfl, rfl, rfl, rfl, rfl⟩

theorem workStep_signals {before after : Control ι} {call : WorkerCall} {answer : call.Answer}
    (step : workStep before call answer after) : SameSignals before after := by
  unfold workStep at step
  split at step
  · obtain ⟨_, rfl⟩ := step
    exact ⟨rfl, rfl, rfl, rfl, rfl, rfl⟩
  · obtain ⟨_, rfl⟩ := step
    exact ⟨rfl, rfl, rfl, rfl, rfl, rfl⟩
  · obtain ⟨_, rfl⟩ := step
    exact ⟨rfl, rfl, rfl, rfl, rfl, rfl⟩
  · obtain ⟨_, rfl⟩ := step
    exact ⟨rfl, rfl, rfl, rfl, rfl, rfl⟩
  · obtain rfl := step
    exact ⟨rfl, rfl, rfl, rfl, rfl, rfl⟩
  · obtain rfl := step
    exact ⟨rfl, rfl, rfl, rfl, rfl, rfl⟩
  · obtain ⟨_, rfl⟩ := step
    exact SameSignals.refl _
  · obtain rfl := step
    exact SameSignals.refl _

end LayoutAdblock.Engine
