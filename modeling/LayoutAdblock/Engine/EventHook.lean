import LayoutAdblock.Engine.WorkerLoop
import LayoutAdblock.Interaction.Environment

namespace LayoutAdblock.Engine

open LayoutAdblock.Core Interaction Environment

/-! # The WinEvent hook and the process handles

What `NativeRuntime` keeps for the worker and asks of Windows for it.
-/

/-- A handle of Windows, of a hook or of a process. -/
abbrev Handle := Nat

/-- Both ends of one `crossbeam_channel`. -/
abbrev EventChannel := Nat

/-- What the hook reports: which window, and which event. -/
structure WinEvent where
  hwnd : Hwnd
  event : Nat
deriving DecidableEq, Repr

/-- A range of events a hook is registered for, both ends included. -/
structure EventRange where
  first : Nat
  last : Nat
deriving DecidableEq, Repr

def objidWindow : Int := 0

def childidSelf : Int := 0

/-- How many events the queue holds. Those that come while it is full are lost. -/
def eventQueueCapacity : Nat := 1024

def eventForeground : Nat := 0x0003

def eventCreate : Nat := 0x8000

def eventShow : Nat := 0x8002

def eventName : Nat := 0x800C

/-- The two ranges each process is hooked for. Between them lie the events the program has
no use for. -/
def hookRanges : List EventRange := [⟨eventCreate, eventName⟩, ⟨eventForeground, eventForeground⟩]

/-- The exit code of a process that has not ended. -/
def stillActive : Nat := 259

/-- What the runtime of the hook asks of Windows and of its channel. -/
inductive RuntimeCall where
  /-- `crossbeam_channel::bounded(EVENT_QUEUE_CAPACITY)` -/
  | bounded
  /-- `*event_tx().lock() = sender` -/
  | setEventTx (sender : Option EventChannel)
  /-- Nothing is returned for a null hook. -/
  | setWinEventHook (pid : Pid) (range : EventRange)
  | unhookWinEvent (hook : Handle)
  | tryRecv (receiver : EventChannel)
  | openProcess (pid : Pid)
  | getExitCodeProcess (handle : Handle)
  | closeHandle (handle : Handle)

/-- What these calls answer. A hook may be refused, a process may not be opened, and a queue
may be empty. -/
@[reducible] def RuntimeCall.Answer : RuntimeCall → Type
  | .bounded => EventChannel
  | .setWinEventHook _ _ | .openProcess _ => Option Handle
  | .tryRecv _ => Option WinEvent
  | .getExitCodeProcess _ => Option Nat
  | .setEventTx _ | .unhookWinEvent _ | .closeHandle _ => Unit

abbrev RuntimeM := Program RuntimeCall RuntimeCall.Answer

def native (call : RuntimeCall) : RuntimeM call.Answer := Program.ask call

/-- The number fits what Windows takes for a process, and is not that of none. -/
def validPid (pid : Pid) : Bool := decide (0 < pid) && decide (pid ≤ 4294967295)

/-- The hooks of one installation with the receiving end of their queue. -/
structure EventHook where
  hooks : List Handle
  rx : EventChannel
deriving DecidableEq, Repr

namespace EventHook

/-- What `SetWinEventHook` is asked to watch, in order. -/
def targets (pids : List Pid) : List (Pid × EventRange) :=
  (pids.filter validPid).flatMap fun pid => hookRanges.map fun range => (pid, range)

def unhookAll (hooks : List Handle) : RuntimeM Unit :=
  Program.forEach (fun hook => native (.unhookWinEvent hook)) hooks

/-- The rounds that are left, with the hooks of those before. One hook that is refused ends
the installation, and those before it are given back. -/
def installEach : List (Pid × EventRange) → List Handle → RuntimeM (Option (List Handle))
  | [], hooks => return some hooks
  | (pid, range) :: rest, hooks => do
      let hook ← native (.setWinEventHook pid range)
      match hook with
      | none =>
          unhookAll hooks
          native (.setEventTx none)
          return none
      | some hook => installEach rest (hooks ++ [hook])

/-- A new queue is made and named as the one events go to, and then the hooks are
registered. Without a process to hook nothing is asked for. -/
def installForPids (pids : List Pid) : RuntimeM (Option EventHook) :=
  if (pids.filter validPid).isEmpty then return none
  else do
    let rx ← native .bounded
    native (.setEventTx (some rx))
    let hooks ← installEach (targets pids) []
    return hooks.map fun hooks => { hooks := hooks, rx := rx }

/-- `Drop` -/
def drop (hook : EventHook) : RuntimeM Unit := do
  unhookAll hook.hooks
  native (.setEventTx none)

def drainFor : Nat → EventChannel → RuntimeM (List WinEvent)
  | 0, _ => return []
  | rounds + 1, receiver => do
      let event ← native (.tryRecv receiver)
      match event with
      | none => return []
      | some event => do
          let events ← drainFor rounds receiver
          return event :: events

/-- Nothing is sent while the thread drains, so the round after the longest queue
finds it empty. -/
def drain (hook : EventHook) : RuntimeM (List WinEvent) :=
  drainFor (eventQueueCapacity + 1) hook.rx

end EventHook

/-- The processes whose life is watched, each with its handle where it could be opened. -/
structure PidWatch where
  pids : List Pid := []
  handles : List (Option Handle) := []
deriving DecidableEq, Repr

/-- A process is opened to ask whether it runs, unless its number is none of a process. -/
def openForQuery (pid : Pid) : RuntimeM (Option Handle) :=
  if validPid pid then native (.openProcess pid) else return none

/-- A process whose exit code cannot be read counts as ended. -/
def handleIsRunning (handle : Handle) : RuntimeM Bool := do
  let code ← native (.getExitCodeProcess handle)
  return decide (code = some stillActive)

namespace PidWatch

def closeAll (watch : PidWatch) : RuntimeM Unit :=
  Program.forEach (fun handle => native (.closeHandle handle)) watch.handles.reduceOption

/-- One handle for each process, in their order. -/
def openEach : List Pid → RuntimeM (List (Option Handle))
  | [] => return []
  | pid :: rest => do
      let handle ← openForQuery pid
      let handles ← openEach rest
      return handle :: handles

/-- The processes to be watched from now on. Those of the same list, in whatever order, are
not opened again. -/
def watch (watching : PidWatch) (pids : List Pid) : RuntimeM PidWatch :=
  if pids.insertionSort (· ≤ ·) = watching.pids then return watching
  else do
    watching.closeAll
    let handles ← openEach (pids.insertionSort (· ≤ ·))
    return { pids := pids.insertionSort (· ≤ ·), handles := handles }

/-- They are asked in order, and only until one has ended or could not be opened. -/
def allRunning : List (Option Handle) → RuntimeM Bool
  | [] => return true
  | none :: _ => return false
  | some handle :: rest => do
      let running ← handleIsRunning handle
      if running then allRunning rest else return false

/-- All watched processes run. Where none is watched this is not said. -/
def allAlive (watch : PidWatch) : RuntimeM Bool :=
  if watch.handles.isEmpty then return false else allRunning watch.handles

end PidWatch

/-- What the worker has of Windows besides its windows: a hook and the watched processes. -/
structure NativeRuntime where
  hook : Option EventHook := none
  watch : PidWatch := {}
deriving DecidableEq, Repr

/-- An event after which more are to be expected, so that it starts a burst. -/
def WinEvent.followUp (event : WinEvent) : Bool :=
  decide (event.event ∈ [eventCreate, eventShow, eventName, eventForeground])

/-- Without the age, which only a log line reads. -/
def WinEvent.window (event : WinEvent) : WindowEvent :=
  { hwnd := event.hwnd, followUp := event.followUp }

namespace NativeRuntime

def dropHook : Option EventHook → RuntimeM Unit
  | none => return ()
  | some hook => hook.drop

/-- The hook that was there is dropped after the new one is installed, and also where no new
one could be. -/
def install (runtime : NativeRuntime) (pids : List Pid) : RuntimeM (Bool × NativeRuntime) := do
  let hook ← EventHook.installForPids pids
  dropHook runtime.hook
  return (hook.isSome, { runtime with hook := hook })

def remove (runtime : NativeRuntime) : RuntimeM NativeRuntime := do
  dropHook runtime.hook
  return { runtime with hook := none }

def hooked (runtime : NativeRuntime) : Bool := runtime.hook.isSome

/-- Everything in the queue is taken out at once. Without a hook there is nothing. -/
def events (runtime : NativeRuntime) : RuntimeM (List WindowEvent) :=
  match runtime.hook with
  | none => return []
  | some hook => do
      let drained ← hook.drain
      return drained.map WinEvent.window

/-- The processes found last are the ones to be watched. -/
def watchPids (runtime : NativeRuntime) (pids : List Pid) : RuntimeM NativeRuntime := do
  let watch ← runtime.watch.watch pids
  return { runtime with watch := watch }

/-- The processes that were found are still running. -/
def alive (runtime : NativeRuntime) : RuntimeM Bool := runtime.watch.allAlive

/-- The end of the value, when the worker returns or unwinds. -/
def drop (runtime : NativeRuntime) : RuntimeM Unit := do
  dropHook runtime.hook
  runtime.watch.closeAll

end NativeRuntime

/-- A hook as Windows has it, with the process and the events it is for. -/
structure HookEntry where
  hook : Handle
  target : Pid × EventRange
deriving DecidableEq, Repr

/-- What Windows and the channels hold for this process: the hooks that are registered, the
sender the callback finds, the queues by channel, and the handles of watched processes. -/
structure EventDesk where
  registered : List HookEntry := []
  /-- `event_tx` -/
  eventTx : Option EventChannel := none
  channels : Nat := 0
  queues : EventChannel → List WinEvent := fun _ => []
  opened : List (Handle × Pid) := []

/-- Hooks and handles are told apart as long as they live. Windows may give the number of
one that is gone to another. -/
def nativeDesk : Environment RuntimeCall RuntimeCall.Answer EventDesk where
  step
    | .bounded, before, channel, after => channel = before.channels ∧
        after = { before with
          channels := before.channels + 1
          queues := Function.update before.queues channel [] }
    | .setEventTx sender, before, _, after => after = { before with eventTx := sender }
    | .setWinEventHook target range, before, some hook, after =>
        (∀ entry ∈ before.registered, entry.hook ≠ hook) ∧
          after = { before with
            registered := before.registered ++ [{ hook := hook, target := (target, range) }] }
    | .setWinEventHook _ _, before, none, after => after = before
    | .unhookWinEvent hook, before, _, after =>
        after = { before with
          registered := before.registered.filter fun entry => decide (entry.hook ≠ hook) }
    | .tryRecv receiver, before, event, after => event = (before.queues receiver).head? ∧
        after = { before with
          queues := Function.update before.queues receiver (before.queues receiver).tail }
    | .openProcess pid, before, some handle, after =>
        (∀ entry ∈ before.opened, entry.1 ≠ handle) ∧
          after = { before with opened := before.opened ++ [(handle, pid)] }
    | .openProcess _, before, none, after => after = before
    | .getExitCodeProcess _, before, _, after => after = before
    | .closeHandle handle, before, _, after =>
        after = { before with
          opened := before.opened.filter fun entry => decide (entry.1 ≠ handle) }

/-- The arguments of `hook_proc` that it reads, and the hook that was hit. -/
structure Callback where
  hook : Handle
  event : Nat
  hwnd : Hwnd
  idObject : Int
  idChild : Int
deriving DecidableEq, Repr

/-- The event is of a window itself, not of something in it. -/
def Callback.ofWindow (callback : Callback) : Bool :=
  decide (callback.hwnd ≠ 0) && decide (callback.idObject = objidWindow) &&
    decide (callback.idChild = childidSelf)

def Callback.sent (callback : Callback) : WinEvent :=
  { hwnd := callback.hwnd, event := callback.event }

/-- Callbacks run on the thread that installed the hook, which holds no lock while it
pumps, so `try_lock` succeeds. -/
def EventDesk.hookProc (desk : EventDesk) (callback : Callback) : EventDesk :=
  if callback.ofWindow then
    match desk.eventTx with
    | none => desk
    | some tx =>
        if (desk.queues tx).length < eventQueueCapacity then
          { desk with queues := Function.update desk.queues tx (desk.queues tx ++ [callback.sent]) }
        else desk
  else desk

/-- Only a registered hook is hit, and only by events of its range. -/
def EventDesk.Raises (desk : EventDesk) (callbacks : List Callback) : Prop :=
  ∀ callback ∈ callbacks, ∃ entry ∈ desk.registered, entry.hook = callback.hook ∧
    entry.target.2.first ≤ callback.event ∧ callback.event ≤ entry.target.2.last

end LayoutAdblock.Engine
